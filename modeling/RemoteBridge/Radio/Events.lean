import RemoteBridge.Radio.Central

/-!
# SDK events, backend functions and the poll

The entry points of `wch_central.c`: what the SDK calls (`wcEventCb`, `wcPasscodeCb`, `wcPairStateCb`),
what the server calls through `rbp_radio_backend_t`, and what the task runs by itself (`poll`, the GATT
messages, the start).  `platform` closes the loop: the backend of a server that runs inside a callback is
this file again, one level deeper.  A call at level zero is dropped, so a run is a run of the firmware as
long as its callbacks nest less deep than its level; nothing is ever claimed of one level only.
-/

namespace RemoteBridge

open World

section Functions

variable (b : Build) (sdk : Sdk) (P : Platform Radio)

/-! ## Advertisements -/

/-- `gapDeviceInfoEvent_t`. -/
structure DeviceInfo where
  eventType : UInt8
  addrType : UInt8
  addr : BdAddr
  /-- The signed RSSI. -/
  rssi : Int
  data : List UInt8

/-- The number of bytes of a character, and its bits in the first byte. -/
def leadByte (c : UInt8) : Option (Nat × UInt32) :=
  if 0xc2 ≤ c ∧ c ≤ 0xdf then some (2, c.toUInt32 &&& 31)
  else if 0xe0 ≤ c ∧ c ≤ 0xef then some (3, c.toUInt32 &&& 15)
  else if 0xf0 ≤ c ∧ c ≤ 0xf4 then some (4, c.toUInt32 &&& 7)
  else if 0x80 ≤ c ∨ c < 0x20 then none
  else some (1, c.toUInt32)

/-- The code point of a lead byte and its continuation bytes. -/
def codePoint (cp : UInt32) (rest : List UInt8) : Option UInt32 :=
  if rest.any (fun c => c &&& 0xc0 != 0x80) then none
  else some (rest.foldl (fun cp c => (cp <<< 6) ||| (c.toUInt32 &&& 63)) cp)

/-- Overlong forms, surrogates and values out of range. -/
def badCodePoint (k : Nat) (cp : UInt32) : Bool :=
  (k == 3 && decide (cp < 0x800)) || (k == 4 && decide (cp < 0x10000)) || decide (cp > 0x10ffff) ||
    (decide (0xd800 ≤ cp) && decide (cp ≤ 0xdfff))

/-- The loop of `candidate_name` from offset `i` on: what it copies, and whether the text was valid. -/
def candidateNameLoop : Nat → Nat → List UInt8 → List UInt8 × Bool
  | 0, _, _ => ([], true)
  | _ + 1, _, [] => ([], true)
  | fuel + 1, i, c :: text =>
    match leadByte c with
    | none => ([], false)
    | some (k, bits) =>
      if text.length < k - 1 then ([], false)
      else
        match codePoint bits (text.take (k - 1)) with
        | none => ([], false)
        | some cp =>
          if badCodePoint k cp then ([], false)
          else
            let rest := candidateNameLoop fuel (i + k) (text.drop (k - 1))
            (if i + k < 48 then c :: text.take (k - 1) ++ rest.1 else rest.1, rest.2)

/-- `candidate_name`: the 48-byte buffer and the length it returns. -/
def candidateName (text : List UInt8) : List UInt8 × UInt8 :=
  let r := candidateNameLoop text.length 0 text
  (r.1 ++ List.replicate (48 - r.1.length) 0, if r.2 then UInt8.ofNat r.1.length else 0)

/-- The fields of an advertisement as type and data; `none` when one of them is cut off. -/
def adFields : Nat → List UInt8 → Option (List (UInt8 × List UInt8))
  | 0, _ => some []
  | _ + 1, [] => some []
  | fuel + 1, n :: data =>
    if n == 0 then some []
    else if data.length < n.toNat then none
    else
      (adFields fuel (data.drop n.toNat)).map
        (((data.getD 0 0), (data.take n.toNat).drop 1) :: ·)

/-- Some pair of bytes at an even offset is `(lo, hi)`. -/
def hasUuid (lo hi : UInt8) : List UInt8 → Bool
  | x :: y :: rest => (x == lo && y == hi) || hasUuid lo hi rest
  | _ => false

/-- The last local name of an advertisement. -/
def adName (fields : List (UInt8 × List UInt8)) : Option (List UInt8) :=
  ((fields.filter fun f => f.1 == 8 || f.1 == 9).getLast?).map (·.2)

/-- Some list of services has the given service. -/
def adService (lo hi : UInt8) (fields : List (UInt8 × List UInt8)) : Bool :=
  fields.any fun f => (f.1 == 2 || f.1 == 3) && hasUuid lo hi f.2

/-- A separator or the end of the name. -/
def nameBoundary (c : Option UInt8) : Bool :=
  match c with
  | none => true
  | some c => c == 0x20 || c == 0x2d || c == 0x5f

/-- The name that a remote of this vendor shows. -/
def miVoiceName : List UInt8 :=
  [0xe5, 0xb0, 0x8f, 0xe7, 0xb1, 0xb3, 0xe8, 0x93, 0x9d, 0xe7, 0x89, 0x99, 0xe8, 0xaf, 0xad, 0xe9, 0x9f,
    0xb3, 0xe9, 0x81, 0xa5, 0xe6, 0x8e, 0xa7, 0xe5, 0x99, 0xa8]

/-- `rc003_adapter_match`. -/
def rc003AdapterMatch (name : Option (List UInt8)) : UInt8 :=
  match name with
  | none => 0
  | some name =>
    let word (i : Nat) : Bool :=
      (i == 0 || nameBoundary (name[i - 1]?)) &&
        (name.getD i 0 == 0x52 || name.getD i 0 == 0x72) &&
        (name.getD (i + 1) 0 == 0x43 || name.getD (i + 1) 0 == 0x63) &&
        (name.drop (i + 2)).take 3 == [0x30, 0x30, 0x33] && nameBoundary (name[i + 5]?)
    if name == miVoiceName || (List.range (name.length - 4)).any word then 1 else 0

/-- The text of a candidate that shows no name. -/
def defaultName (support : UInt8) (hid : Bool) : List UInt8 :=
  if support != 0 then ascii "Xiaomi RC003"
  else if hid then ascii "BLE HID candidate"
  else ascii "BLE voice candidate"

/-- The candidate as it is reported. -/
def DeviceInfo.candidate (info : DeviceInfo) (fields : List (UInt8 × List UInt8)) (i : Nat)
    (fresh : Bool) : Candidate :=
  let support := rc003AdapterMatch (adName fields)
  let name := (adName fields).elim (List.replicate 48 0, 0) candidateName
  let shown := if name.2 == 0 && fresh then
      (copyName name.1 48 (defaultName support (adService 0x12 0x18 fields)),
        UInt8.ofNat (defaultName support (adService 0x12 0x18 fields)).length)
    else if name.2 == 0 then (name.1.set 0 0, 0)
    else name
  { candidateId := UInt32.ofNat (i + 1)
    support := support
    signal := if info.rssi > -60 then 3 else if info.rssi > -75 then 2 else 1
    name := shown.1
    nameLen := shown.2 }

/-- Whether a device that was not seen before is admitted. -/
def DeviceInfo.admitted (info : DeviceInfo) (fields : List (UInt8 × List UInt8)) : Bool :=
  (info.eventType == 0 || info.eventType == 4) &&
    (rc003AdapterMatch (adName fields) != 0 || adService 0x12 0x18 fields ||
      adService 0x00 0xfd fields || ((adName fields).elim 0 fun n => (candidateName n).2) != 0)

/-- `MAX_CAND`. -/
def maxCand : Nat := 8

/-- `on_device`. -/
def onDevice (info : DeviceInfo) (w : World Radio) : World Radio :=
  let c := w.env.central
  if c.wcState = .resolve then resolveAdvertisement sdk info.addr info.addrType info.eventType w
  else if c.wcState ≠ .scan then w
  else
    match adFields info.data.length info.data with
    | none => w
    | some fields =>
      match c.candidates.findIdx? fun k => k.2 == info.addrType && List.ofFn k.1 == List.ofFn info.addr with
      | some i => onScanCandidate (info.candidate fields i false) w
      | none =>
        if !info.admitted fields || c.candidates.length == maxCand then w
        else
          let w := w.tune fun c =>
            { c with candidates := c.candidates ++ [(info.addr, info.addrType)] }
          onScanCandidate (info.candidate fields c.candidates.length true) w

/-! ## SDK events -/

/-- `gapRoleEvent_t`, as far as it is handled. -/
inductive GapEvent where
  | deviceInitDone (status : UInt8)
  | linkEstablished (status : UInt8) (handle : LinkHandle)
  | linkTerminated (handle : UInt16) (reason : UInt8)
  | deviceInfo (info : DeviceInfo)
  | directDeviceInfo (addr : BdAddr) (addrType eventType : UInt8)
  | deviceDiscovery (status : UInt8)

/-- `GAP_DEVICE_INIT_DONE_EVENT`. -/
def onInitDone (status : UInt8) (w : World Radio) : World Radio :=
  let w := w.tune fun c => { c with radioReady := status == 0 }
  if status != 0 then radioFault b sdk P "BLE initialization failed" w
  else
    let r := ask sdk .configDeviceAddr w
    if r.1 != 0 then
      radioFault b sdk P "local address configuration failed"
        (r.2.tune fun c => { c with radioReady := false })
    else r.2

/-- The link is up and wanted. -/
def linkWanted (w : World Radio) : World Radio :=
  if w.env.central.pairPending then reportLink b P .initializing w
  else
    let r := ask sdk (.setBondParameter .centPairingMode 0) w
    if r.1 != 0 then
      rbDisconnect b sdk P (radioFault b sdk P "restore security policy failed" r.2)
    else reportLink b P .initializing r.2

/-- `GAP_LINK_ESTABLISHED_EVENT`. -/
def onLinkEstablished (status : UInt8) (handle : LinkHandle) (w : World Radio) : World Radio :=
  let c := w.env.central
  if status == 0 then
    if c.connHandle != connHandleInit then w
    else
      let wanted := decide (c.wcState = .connecting) && !c.recovering && !c.radioFaulted &&
        !c.securityBlocked
      let w := w.tune fun c => { c with connHandle := handle.val }
      let w := (setState .connected (if c.pairPending then 60000 else 30000) w).tune fun c =>
        { c with adapterStarted := false }
      if !wanted then rbDisconnect b sdk P w else linkWanted b sdk P w
  else if c.wcState = .connecting ∨ c.wcState = .connectCancel then
    let early := decide (c.wcState = .connecting) && !c.pairPending && status == 0x3e
    let w := setState .idle 0 w
    disconnectedRetry b P early (failPairSdk b sdk P "connection completion failed" status w)
  else w

/-- The link is gone. -/
def Central.unlink (c : Central) : Central :=
  { c with connHandle := connHandleInit, adapterStarted := false, passkeyPending := false }

/-- `GAP_LINK_TERMINATED_EVENT`. -/
def onLinkTerminated (handle : UInt16) (reason : UInt8) (w : World Radio) : World Radio :=
  let c := w.env.central
  if c.connHandle == connHandleInit || handle != c.connHandle then w
  else
    let early := decide (c.wcState = .connected) && !c.pairPending && !c.adapterStarted &&
      reason == 0x3e
    let w := setState .idle 0 (w.tune Central.unlink)
    let w := adapt b sdk P .detach (syncGattCache sdk w)
    disconnectedRetry b P early (failPair b sdk P .linkLost w)

/-- The end of a scan that was to be stopped. -/
def onScanStopped (status : UInt8) (w : World Radio) : World Radio :=
  let next := w.env.central.nextLink
  let w := setState .idle 0 (w.tune fun c => { c with nextLink := .none })
  let c := w.env.central
  if status != 0 && status != 0x30 then
    failPairSdk b sdk P "scan completion failed" status
      (radioFault b sdk P "scan completion failed" w)
  else if next ≠ .none ∧ c.radioFaulted = false ∧ c.recovering = false then
    beginLink b sdk P c.targetAddr c.targetType w
  else disconnectedRetry b P false w

/-- `GAP_DEVICE_DISCOVERY_EVENT`. -/
def onDeviceDiscovery (status : UInt8) (w : World Radio) : World Radio :=
  match w.env.central.wcState with
  | .scanStopping => onScanStopped b sdk P status w
  | .scan => onScanDone b P FindDone.expired.code w.env.nowMs (setState .idle 0 w)
  | .resolve => disconnectedRetry b P false (setState .idle 0 w)
  | _ => w

/-- `wc_event_cb`. -/
def wcEventCb (e : GapEvent) (w : World Radio) : World Radio :=
  match e with
  | .deviceInitDone status => onInitDone b sdk P status w
  | .linkEstablished status handle => onLinkEstablished b sdk P status handle w
  | .linkTerminated handle reason => onLinkTerminated b sdk P handle reason w
  | .deviceInfo info => onDevice sdk info w
  | .directDeviceInfo addr addrType eventType => resolveAdvertisement sdk addr addrType eventType w
  | .deviceDiscovery status => onDeviceDiscovery b sdk P status w

/-! ## Security callbacks -/

/-- `passcode_response_failed`. -/
def passcodeResponseFailed (status : UInt8) : Bool := status != 0 && status != 0xfe

/-- A response to the SDK, after which the pairing may have to be given up. -/
def respondPasscode (handle : UInt16) (status : UInt8) (passkey : UInt32) (phase : String)
    (w : World Radio) : World Radio :=
  let r := ask sdk (.passcodeRsp handle status passkey) w
  if passcodeResponseFailed r.1 then failPairSdk b sdk P phase r.1 r.2 else r.2

/-- `wc_passcode_cb`. -/
def wcPasscodeCb (handle : UInt16) (inputs outputs : Bool) (w : World Radio) : World Radio :=
  let c := w.env.central
  if handle ≠ c.connHandle ∨ c.wcState ≠ .connected ∨ c.pairPending = false then w
  else if inputs then
    onPairPrompt b P .enterPasskey 0 30000 (w.tune fun c => { c with passkeyPending := true })
  else if outputs then
    let passkey := sdk.rand w.env % 1000000
    let w := w.tune fun c => { c with displayPasskey := passkey }
    let w := onPairPrompt b P .displayPasskey passkey 30000 w
    respondPasscode b sdk P handle 0 w.env.central.displayPasskey "display passkey response failed" w
  else respondPasscode b sdk P handle 0 0 "just works response failed" w

/-- The states of `wc_pair_state_cb`. -/
inductive PairingState where
  | started
  | complete
  | bonded
  | bondSaved
  deriving DecidableEq, Repr

/-- A bond that cannot be used blocks reconnecting. -/
def blockSecurity (msg : String) (w : World Radio) : World Radio :=
  rbDisconnect b sdk P (onLinkMessage (ascii msg) (w.tune fun c => { c with securityBlocked := true }))

/-- `wc_pair_state_cb`. -/
def wcPairStateCb (handle : UInt16) (state : PairingState) (status : UInt8) (w : World Radio) :
    World Radio :=
  let c := w.env.central
  if state = .started ∧ c.pairPending = false ∧
      (c.wcState = .connecting ∨ (c.wcState = .connected ∧ handle = c.connHandle)) then
    blockSecurity b sdk P "new pairing requires user action" w
  else if handle ≠ c.connHandle ∨ c.wcState ≠ .connected then w
  else
    match state with
    | .started => reportLink b P .pairing w
    | .complete =>
      if status == 0 then w
      else if c.pairPending then failPairSdk b sdk P "pair authentication failed" status w
      else blockSecurity b sdk P "bond authentication failed; user pairing required" w
    | .bonded =>
      if status != 0 && !c.pairPending then
        blockSecurity b sdk P "bond encryption failed; user pairing required" w
      else w
    | .bondSaved =>
      if !c.pairPending then w
      else if status == 0 then w.tune fun c => { c with bondReady := true }
      else failPair b sdk P .storageFailed w

/-! ## Backend functions -/

/-- Ask several times, until a call fails. -/
def askAll : List SdkCall → World Radio → UInt8 × World Radio
  | [], w => (0, w)
  | call :: calls, w =>
    let r := ask sdk call w
    if r.1 != 0 then r else askAll calls r.2

/-- The scan time in units of the SDK. -/
def scanTicks (duration : UInt16) : UInt32 :=
  let ticks := duration.toUInt32 * 8 / 5
  if ticks > 65535 then 65535 else ticks

/-- `rb_start_find`. -/
def rbStartFind (duration : UInt16) (w : World Radio) : World Radio × Status :=
  let c := w.env.central
  if !c.radioReady || c.radioFaulted then (w, .deviceError)
  else if c.recovering || decide (c.wcState ≠ .idle) then (w, .busy)
  else
    let w := w.tune fun c => { c with candidates := [] }
    let ticks := scanTicks duration
    let r := askAll sdk [.setParamValue .discScan ticks.toUInt16, .setParamValue .discScanInt 36,
      .setParamValue .discScanWind 18, .startDiscovery true] w
    if r.1 == 0 then (setState .scan (ticks * 5 / 8 + cancelTimeoutMs) r.2, .ok)
    else
      (onLinkMessage (ascii "discovery start rejected") r.2,
        if r.1 == 0x15 then .resourceLimit else .deviceError)

/-- `rb_stop_find`. -/
def rbStopFind (w : World Radio) : World Radio :=
  if w.env.central.wcState = .scan then
    stopScan sdk (w.tune fun c => { c with nextLink := .none })
  else w

/-- The checks of `rb_pair_begin` before the journal is opened. -/
def pairBeginChecks (id : UInt32) (w : World Radio) : Status × World Radio :=
  let c := w.env.central
  if !c.radioReady || c.radioFaulted then (.deviceError, w)
  else if c.recovering || decide (c.wcState ≠ .idle ∧ c.wcState ≠ .scanStopping) then (.busy, w)
  else if id == 0 || decide (id.toNat > c.candidates.length) then (.notFound, w)
  else
    let r := ask sdk .getBondCount w
    if r.1 != 0 then (.storageFailed, r.2)
    else if sdk.bondCount r.2.env != 0 then (.busy, r.2)
    else (.ok, r.2)

/-- The board store as the radio uses it. -/
def World.write (write : BondWrite) (w : World Radio) : Bool × World Radio :=
  let r := w.env.write sdk write
  (r.1, { w with env := r.2 })

/-- A pairing that could not be begun. -/
def refusePair (n : Nat) (status : Status) (w : World Radio) : World Radio :=
  onPairDone b P status false none 0 (w.record (.pairDone n))

/-- The journal is open: the pairing is pending, for the `n`-th call. -/
def beginPending (n : Nat) (id : UInt32) (w : World Radio) : World Radio :=
  let cand := w.env.central.candidates.getD (id.toNat - 1) (fun _ => 0, 0)
  let w := w.tune fun c =>
    { c with pairPending := true, securityBlocked := false, targetAddr := cand.1, targetType := cand.2 }
  let w := { w with env := { w.env with owner := n } }
  if w.env.central.wcState = .scanStopping then w.tune fun c => { c with nextLink := .pair }
  else beginLink b sdk P cand.1 cand.2 w

/-- A call of `rb_pair_begin` is counted. -/
def World.countPair (w : World Radio) : World Radio :=
  { w with env := { w.env with pairs := w.env.pairs + 1 } }.record (.pairBegin (w.env.pairs + 1))

/-- `rb_pair_begin`. -/
def rbPairBegin (id : UInt32) (w : World Radio) : World Radio :=
  let n := w.env.pairs + 1
  let r := pairBeginChecks sdk id w.countPair
  if r.1 ≠ .ok then refusePair b P n r.1 r.2
  else
    let res := r.2.write sdk .pair
    if !res.1 then refusePair b P n .storageFailed res.2
    else beginPending b sdk P n id res.2

/-- `rb_pair_reply`. -/
def rbPairReply (accept : Bool) (passkey : Option UInt32) (w : World Radio) : World Radio :=
  let c := w.env.central
  if !c.pairPending || decide (c.wcState ≠ .connected) || !c.passkeyPending then w
  else
    let w := w.tune fun c => { c with passkeyPending := false }
    respondPasscode b sdk P c.connHandle (if accept then 0 else 4) (passkey.getD c.displayPasskey)
      "user passkey response failed" w

/-- `rb_pair_cancel`. -/
def rbPairCancel (w : World Radio) : World Radio := failPair b sdk P .cancelled w

/-- `rb_forget_peer`. -/
def rbForgetPeer (w : World Radio) : World Radio :=
  let res := w.write sdk .forget
  if !res.1 then onForgetDone b P .storageFailed true res.2
  else rbDisconnect b sdk P (res.2.tune fun c => { c.recover with deleteReport := true })

/-- Whether the bond of the SDK is the one of the store. -/
def identityMatches (w : World Radio) : Bool × World Radio :=
  match Board.boardAddrLoad w.env.board with
  | none => (false, w)
  | some (saved, type) =>
    match readIdentity sdk w with
    | (false, w) => (false, w)
    | (true, w) =>
      (type == w.env.central.identityType && List.ofFn saved == List.ofFn w.env.central.identity, w)

/-- The scan interval for reconnecting. -/
def scanInterval (flags : UInt8) : UInt16 :=
  if decide (flags ≤ 3) && flags &&& 2 != 0 then 48 else 96

/-- `rb_connect_peer`. -/
def rbConnectPeer (w : World Radio) : World Radio :=
  let c := w.env.central
  if !c.radioReady || c.radioFaulted || c.securityBlocked || c.recovering ||
      decide (c.wcState ≠ .idle) then w
  else
    match identityMatches sdk w with
    | (false, w) =>
      let w := w.tune fun c => { c with securityBlocked := true }
      reportLink b P .error (onLinkMessage (ascii "bond identity unavailable/mismatch") w)
    | (true, w) =>
      let interval := scanInterval (Board.boardHidFlagsLoad w.env.board)
      let r := askAll sdk [.setParamValue .discScan 0, .setParamValue .discScanInt interval,
        .setParamValue .discScanWind 48, .startDiscovery false] w
      if r.1 == 0 then reportLink b P .connecting (setState .resolve 0 r.2)
      else onLinkMessage (ascii "reconnect scan rejected") (disconnectedRetry b P false r.2)

/-- The backend of the server. -/
def backendCall (c : BackendCall) (w : World Radio) : World Radio × Status :=
  match c with
  | .startFind duration => rbStartFind sdk duration w
  | .stopFind => (rbStopFind sdk w, .ok)
  | .pairBegin id => (rbPairBegin b sdk P id w, .ok)
  | .pairReply accept passkey => (rbPairReply b sdk P accept passkey w, .ok)
  | .pairCancel => (rbPairCancel b sdk P w, .ok)
  | .forgetPeer => (rbForgetPeer b sdk P w, .ok)
  | .connectPeer => (rbConnectPeer b sdk P w, .ok)
  | .disconnect => (rbDisconnect b sdk P w, .ok)
  | .voiceRequestStop => (adapt b sdk P .micStop w, .ok)
  | .voiceRequestStart => (adapt b sdk P .micStart w, sdk.micStartStatus w.env)

/-! ## The poll -/

/-- `start_encrypted_adapter`. -/
def startEncryptedAdapter (w : World Radio) : World Radio :=
  let c := w.env.central
  if decide (c.wcState = .connected) && !c.adapterStarted && !c.radioFaulted && !c.securityBlocked &&
      sdk.encrypted w.env then
    let w := w.tune fun c => { c with adapterStarted := true, cacheSynced := false }
    adapt b sdk P (.start (if w.env.central.pairPending then 0
      else Board.boardPeerCounter w.env.board)) w
  else w

/-- The server is told that a deletion failed, if it waits for one. -/
def reportDeleteFailed (w : World Radio) : World Radio :=
  if w.env.central.deleteReport then onForgetDone b P .storageFailed true w else w

def Central.endRecovery (c : Central) : Central := { c with recovering := false }

/-- The bonds are erased: the store follows, and the server with it. -/
def recoverStore (w : World Radio) : World Radio :=
  let w := if w.env.central.deleteReport then onForgetDone b P .ok false w
    else
      let res := w.write sdk .clear
      if res.1 then
        reportLink b P .unbound
          (onPeerChanged { peerId := 0, name := [], autoReconnect := false } res.2)
      else reportLink b P .error (onLinkMessage (ascii "EEPROM recovery commit failed") res.2)
  w.tune fun c => { c.endRecovery with securityBlocked := false }

/-- The bonds of the SDK are erased, then found gone. -/
def recoverBonds (w : World Radio) : World Radio :=
  if !w.env.central.eraseRequested then
    let r := ask sdk .eraseAllBonds w
    if r.1 != 0 then r.2 else r.2.tune fun c => { c with eraseRequested := true }
  else
    let r := ask sdk .getBondCount w
    if r.1 != 0 || sdk.bondCount r.2.env != 0 then r.2 else recoverStore b sdk P r.2

/-- The recovery part of `poll`. -/
def pollRecovery (w : World Radio) : World Radio :=
  if w.env.central.radioFaulted then reportDeleteFailed b P (w.tune Central.endRecovery)
  else if w.env.central.wcState ≠ .idle then w
  else
    let w := if w.env.central.recoveryDeadline == 0 then
        w.tune fun c => { c with recoveryDeadline := w.env.nowMs + 5000 }
      else w
    if timeReached w.env.nowMs w.env.central.recoveryDeadline then
      let w := reportDeleteFailed b P (w.tune Central.endRecovery)
      reportLink b P .error (onLinkMessage (ascii "bond transaction recovery failed") w)
    else recoverBonds b sdk P w

/-- A link that did not get ready in time. -/
def pollOverdue (w : World Radio) : World Radio :=
  let c := w.env.central
  if (!c.adapterStarted || (c.pairPending && !c.bondReady)) && timeReached w.env.nowMs c.deadline then
    let w := if !c.pairPending then
        onLinkMessage (ascii "bond encryption timed out; retrying after disconnect") w
      else w
    rbDisconnect b sdk P (failPair b sdk P .timeout w)
  else w

/-- A link that is ready. -/
def pollReady (w : World Radio) : World Radio :=
  if sdk.adapterReady w.env then
    let w := w.tune fun c => { c with backoff := 0, earlyRetries := 0 }
    if !w.env.central.cacheSynced && !w.env.central.pairPending && !sdk.capturing w.env then
      syncGattCache sdk (w.tune fun c => { c with cacheSynced := true })
    else w
  else w

/-- The `WC_CONNECTED` part of `poll`. -/
def pollConnected (w : World Radio) : World Radio :=
  let w := startEncryptedAdapter b sdk P w
  let w := if w.env.central.pairPending && w.env.central.bondReady && sdk.adapterReady w.env then
      finishPair b sdk P w
    else w
  pollReady sdk (pollOverdue b sdk P w)

/-- `rbp_server_should_reconnect`. -/
def Server.shouldReconnect (s : Server) : Bool :=
  s.device.peerValid && s.device.peer.autoReconnect && !s.device.reconnectPaused && !s.op.active

/-- `poll` behind recovery. -/
def pollLink (w : World Radio) : World Radio :=
  let c := w.env.central
  match c.wcState with
  | .connected => pollConnected b sdk P w
  | .scan =>
    if timeReached w.env.nowMs c.deadline then
      rbDisconnect b sdk P (onScanDone b P FindDone.expired.code w.env.nowMs w)
    else w
  | .connecting =>
    if timeReached w.env.nowMs c.deadline then rbDisconnect b sdk P (failPair b sdk P .timeout w)
    else w
  | .idle =>
    if !c.securityBlocked && w.srv.shouldReconnect && timeReached w.env.nowMs c.reconnectAt then
      rbConnectPeer b sdk P w
    else w
  | _ => w

/-- Waiting for a terminal event. -/
def WcState.waits : WcState → Bool
  | .scanStopping | .connectCancel | .disconnecting => true
  | _ => false

/-- The wait for a terminal event of `poll`. -/
def pollTerminal (w : World Radio) : World Radio :=
  let c := w.env.central
  if !c.radioFaulted && c.wcState.waits && timeReached w.env.nowMs c.deadline then
    failPair b sdk P .timeout (radioFault b sdk P "radio cancellation completion timed out" w)
  else w

/-- `poll`. -/
def poll (w : World Radio) : World Radio :=
  let c := w.env.central
  if !c.radioReady then
    if !c.radioFaulted && timeReached w.env.nowMs c.deadline then
      radioFault b sdk P "BLE initialization event timed out" w
    else w
  else
    let w := pollTerminal b sdk P w
    if w.env.central.recovering then pollRecovery b sdk P w
    else if w.env.central.radioFaulted then w
    else pollLink b sdk P w

/-- The start event of `process`. -/
def startDevice (w : World Radio) : World Radio :=
  if w.env.central.radioFaulted then w
  else
    let r := ask sdk .startDevice w
    if r.1 != 0 then radioFault b sdk P "BLE start rejected" r.2 else r.2

/-- A GATT message in `process`. -/
def onGattMessage (handle : UInt16) (notification : Bool) (w : World Radio) : World Radio :=
  let w := if handle == w.env.central.connHandle && notification then
      startEncryptedAdapter b sdk P w
    else w
  flushOutput b P (adapt b sdk P .gattMessage w)

/-! ## Initialisation -/

/-- A configuration call of `wch_central_init`. -/
def configure (why : String) (w : World Radio) (call : SdkCall) : World Radio :=
  let r := ask sdk call w
  if r.1 != 0 then radioFault b sdk P why r.2 else r.2

/-- The connection parameters. -/
def gapConfig : List SdkCall :=
  [.setParamValue .connEstIntMin 12, .setParamValue .connEstIntMax 24,
    .setParamValue .connEstSupervTimeout 300, .setParamValue .connEstScanInt 96,
    .setParamValue .connEstScanWind 48]

/-- The bond manager parameters. -/
def bondConfig : List SdkCall :=
  [.setBondParameter .centPairingMode 0, .setBondParameter .centMitmProtection 0,
    .setBondParameter .centIoCapabilities 4, .setBondParameter .centBondingEnabled 1,
    .setBondParameter .bondAuto 1, .setBondParameter .eraseAuto 0, .setBondParameter .autoSyncRl 0,
    .setBondParameter .bondFailAction 2]

/-- `wch_central_init`; `registered` says whether the task got an id. -/
def wchCentralInit (registered : Bool) (w : World Radio) : World Radio :=
  let w := w.tune fun c => { c with deadline := w.env.nowMs + cancelTimeoutMs }
  let w := if registered then w else radioFault b sdk P "TMOS task registration failed" w
  let w := gapConfig.foldl (configure b sdk P "GAP configuration failed") w
  let w := bondConfig.foldl (configure b sdk P "bond configuration failed") w
  let st := w.env.storageState
  let w := w.tune fun c => { c with recovering := st == 2 || st == 3, recoveryDeadline := 0 }
  let w := if st == 255 then radioFault b sdk P "invalid EEPROM record; recovery required" w else w
  configure b sdk P "GATT initialization failed" w .initClient

end Functions

/-! ## The platform -/

/-- The platform of the server: its backend runs callbacks on the platform one level below. -/
def platform (b : Build) (sdk : Sdk) : Nat → Platform Radio
  | 0 =>
    { call := fun _ w => (w, .ok)
      out := fun w bytes => min (sdk.usbAccepts w bytes) bytes.length
      out_le := fun _ _ => Nat.min_le_right _ _
      save := fun peer w => w.env.write sdk (.save peer)
      clear := fun w => w.env.write sdk .clear
      rng := fun w => (sdk.rng w, w.env)
      faults := sdk.faults }
  | n + 1 =>
    { platform b sdk n with call := fun c w => backendCall b sdk (platform b sdk n) c w }

end RemoteBridge
