import RemoteBridge.Board.Store
import RemoteBridge.Product.Requests

/-!
# The central role of `wch_central.c`

The radio side of the product: one state machine that owns the single link, the pairing transaction and
the recovery of the bond journal.  It is driven by SDK events and by a poll every few milliseconds, it is
called by the server as its backend, and it calls the server back, often from the middle of its own
functions.

The server is the world around these functions: `Radio`, what the firmware keeps besides the server, is the
environment of the world, and a callback is a function of `Product/Inputs.lean`.  Backend functions that
the callback calls again come from the platform `P` the callback is run with.  The SDK, the EEPROM driver
and the adapter are asked through `Sdk`, which may answer as it likes: every answer may depend on all that
has happened, and what the adapter reports is any list of the callbacks it has.

`trace` is a ghost.  It records what the functions asked the SDK, with the state they asked on, the writes
to the bond store, and the begin and the end of every pairing.

Fault records, the debug trace and the parameter and PHY updates, which only feed those two, are left out;
so is `link_established_ms`, which only a fault record reads.
-/

namespace RemoteBridge

open World

/-! ## State -/

/-- `wc_state`. -/
inductive WcState where
  | idle
  | scan
  | connecting
  | connected
  | resolve
  | scanStopping
  | connectCancel
  | disconnecting
  deriving DecidableEq, Repr

/-- `next_link`. -/
inductive NextLink where
  | none
  | pair
  | reconnect
  deriving DecidableEq, Repr

/-- `GAP_CONNHANDLE_INIT`. -/
def connHandleInit : UInt16 := 0xfffe

/-- `INVALID_CONNHANDLE`. -/
def invalidConnHandle : UInt16 := 0xffff

/-- The handle of a link; the SDK does not give out the value that stands for no link. -/
abbrev LinkHandle : Type := { h : UInt16 // h ≠ connHandleInit }

abbrev BdAddr : Type := Fin 6 → UInt8

/-- The statics of `wch_central.c`. -/
structure Central where
  connHandle : UInt16 := connHandleInit
  wcState : WcState := .idle
  backoff : Nat := 0
  earlyRetries : Nat := 0
  nextLink : NextLink := .none
  radioFaulted : Bool := false
  securityBlocked : Bool := false
  passkeyPending : Bool := false
  radioReady : Bool := false
  pairPending : Bool := false
  bondReady : Bool := false
  adapterStarted : Bool := false
  recovering : Bool := false
  deleteReport : Bool := false
  eraseRequested : Bool := false
  deadline : UInt32 := 0
  reconnectAt : UInt32 := 0
  recoveryDeadline : UInt32 := 0
  targetAddr : BdAddr := fun _ => 0
  targetType : UInt8 := 0
  identity : BdAddr := fun _ => 0
  identityType : UInt8 := 0
  peerIrk : Fin 16 → UInt8 := fun _ => 0
  haveIrk : Bool := false
  candidates : List (BdAddr × UInt8) := []
  cacheSynced : Bool := false
  displayPasskey : UInt32 := 0

/-- The parameters of `GAP_SetParamValue`. -/
inductive GapParam where
  | discScan
  | discScanInt
  | discScanWind
  | connEstIntMin
  | connEstIntMax
  | connEstSupervTimeout
  | connEstScanInt
  | connEstScanWind
  deriving DecidableEq, Repr

/-- The parameters of `GAPBondMgr_SetParameter`, without the erase command. -/
inductive BondParam where
  | centPairingMode
  | centMitmProtection
  | centIoCapabilities
  | centBondingEnabled
  | bondAuto
  | eraseAuto
  | autoSyncRl
  | bondFailAction
  deriving DecidableEq, Repr

/-- The SDK functions that answer with a status. -/
inductive SdkCall where
  | setParamValue (param : GapParam) (value : UInt16)
  | setBondParameter (param : BondParam) (value : UInt8)
  /-- `GAPBondMgr_SetParameter(GAPBOND_ERASE_ALLBONDS)`. -/
  | eraseAllBonds
  /-- `GAPBondMgr_GetParameter(GAPBOND_BOND_COUNT)`. -/
  | getBondCount
  /-- `tmos_snv_read` of the bond record. -/
  | readBondRecord
  /-- `tmos_snv_read` of the identity resolving key. -/
  | readIrk
  /-- `GAP_ConfigDeviceAddr`. -/
  | configDeviceAddr
  /-- `GAPRole_CentralStartDevice`. -/
  | startDevice
  /-- `GAPRole_CentralStartDiscovery`. -/
  | startDiscovery (activeScan : Bool)
  /-- `GAPRole_CentralCancelDiscovery`. -/
  | cancelDiscovery
  /-- `GAPRole_CentralEstablishLink`. -/
  | establishLink (type : UInt8) (addr : BdAddr)
  /-- `GAPRole_TerminateLink`. -/
  | terminateLink (handle : UInt16)
  /-- `GAPBondMgr_PasscodeRsp`. -/
  | passcodeRsp (handle : UInt16) (status : UInt8) (passkey : UInt32)
  /-- `GATT_InitClient`. -/
  | initClient

/-- The functions of the adapter that may report to the server. -/
inductive AdapterCall where
  | detach
  | start (peerId : UInt32)
  | commitBond (peerId : UInt32)
  | micStop
  | micStart
  | gattMessage
  | tick

/-- The writes to the bond store. -/
inductive BondWrite where
  /-- `board_begin_pair`. -/
  | pair
  /-- `board_begin_forget`. -/
  | forget
  /-- `store_save`. -/
  | save (peer : PeerRecord)
  /-- `store_clear`. -/
  | clear

/-- What the trace records. -/
inductive RadioEv where
  /-- The SDK is asked. -/
  | asked (call : SdkCall)
  /-- `begin_link` is about to report `CONNECTING` to the server, which is `s` at that time. -/
  | linking (s : Server)
  /-- The adapter is called. -/
  | adapted (call : AdapterCall)
  /-- `rb_pair_begin` is called for the `n`-th time. -/
  | pairBegin (n : Nat)
  /-- `rbp_server_on_pair_done` is called for the `n`-th pairing. -/
  | pairDone (n : Nat)
  /-- `pair_pending` is taken back; the counter of the journal is the id the pairing would get. -/
  | unpended (counter : UInt32)
  /-- A write to the bond store reaches the EEPROM. -/
  | writing (write : BondWrite)
  /-- A write to the bond store has succeeded. -/
  | committed (write : BondWrite)
  /-- Power is lost. -/
  | lost

/-- An entry of the trace: what happened, and the state on which it happened. -/
structure RadioMark where
  ev : RadioEv
  central : Central
  board : Board

/-- What the firmware keeps besides the server. -/
structure Radio where
  central : Central
  board : Board
  nowMs : UInt32
  /-- How often `rb_pair_begin` was called; a ghost. -/
  pairs : Nat := 0
  /-- The call whose pairing is pending; a ghost. -/
  owner : Nat := 0
  trace : List RadioMark := []

/-- A report of the adapter to the server; the only link state it reports is `READY`. -/
inductive AdapterReport where
  | ready (nowMs : UInt32)
  | keys (rep : KeysReport)
  | voice (ev : VoiceEvt) (nowMs : UInt32)
  | voiceState (state : VoiceState) (interaction : VoiceInteraction) (rate : UInt32)
  | battery (level charging : UInt8)
  | profile (profile : Option DeviceProfile)
  | voiceCaps (caps : Option AudioCaps)
  | failed (reason : List UInt8)

/-- The answers of the SDK, the EEPROM, the adapter and the USB side. -/
structure Sdk where
  status : SdkCall → Radio → UInt8
  /-- The number of bonds the SDK reports. -/
  bondCount : Radio → UInt8
  /-- The address and address type of the bond record. -/
  bondRecord : Radio → BdAddr × UInt8
  irk : Radio → Fin 16 → UInt8
  /-- `GAP_ResolvePrivateAddr` succeeds. -/
  resolves : BdAddr → Radio → Bool
  /-- `linkDB_State(conn_handle, LINK_ENCRYPTED)`. -/
  encrypted : Radio → Bool
  /-- `tmos_rand`. -/
  rand : Radio → UInt32
  /-- How the EEPROM serves a write. -/
  eeprom : BondWrite → Radio → Board.WriteIo
  /-- The GATT cache is due to be saved, and cannot be. -/
  cacheFails : Radio → Bool
  /-- `g_adapter->ready`. -/
  adapterReady : Radio → Bool
  /-- The HID flags of the adapter, 255 without any. -/
  hidFlags : Radio → UInt8
  /-- The adapter has a capture running. -/
  capturing : Radio → Bool
  reports : AdapterCall → Radio → List AdapterReport
  micStartStatus : Radio → Status
  /-- How many bytes USB accepts. -/
  usbAccepts : World Radio → List UInt8 → Nat
  rng : World Radio → UInt32
  faults : World Radio → List UInt8 × UInt32 × UInt32

/-- Record an event. -/
def Radio.record (e : RadioEv) (r : Radio) : Radio :=
  { r with trace := { ev := e, central := r.central, board := r.board } :: r.trace }

namespace World

/-- Change the statics. -/
def tune (f : Central → Central) (w : World Radio) : World Radio :=
  { w with env := { w.env with central := f w.env.central } }

/-- Record an event. -/
def record (e : RadioEv) (w : World Radio) : World Radio :=
  { w with env := w.env.record e }

@[simp] lemma srv_tune (f : Central → Central) (w : World Radio) : (w.tune f).srv = w.srv := rfl

@[simp] lemma log_tune (f : Central → Central) (w : World Radio) : (w.tune f).log = w.log := rfl

@[simp] lemma central_tune (f : Central → Central) (w : World Radio) :
    (w.tune f).env.central = f w.env.central := rfl

@[simp] lemma board_tune (f : Central → Central) (w : World Radio) :
    (w.tune f).env.board = w.env.board := rfl

@[simp] lemma srv_record (e : RadioEv) (w : World Radio) : (w.record e).srv = w.srv := rfl

@[simp] lemma log_record (e : RadioEv) (w : World Radio) : (w.record e).log = w.log := rfl

@[simp] lemma central_record (e : RadioEv) (w : World Radio) :
    (w.record e).env.central = w.env.central := rfl

@[simp] lemma board_record (e : RadioEv) (w : World Radio) :
    (w.record e).env.board = w.env.board := rfl

end World

/-! ## The bond store -/

/-- The write, served by the EEPROM as `io` says. -/
def BondWrite.run (board : Board) (io : Board.WriteIo) : BondWrite → Bool × Board
  | .pair => board.boardBeginPair io
  | .forget => board.boardBeginForget io
  | .save peer => board.storeSave peer io
  | .clear => board.storeClear io

/-- Whether the write gets as far as the EEPROM: on one that works, it succeeds. -/
def BondWrite.reaches (write : BondWrite) (board : Board) : Bool := (write.run board .complete).1

/-- A write to the bond store. -/
def Radio.write (sdk : Sdk) (write : BondWrite) (r : Radio) : Bool × Radio :=
  let res := write.run r.board (sdk.eeprom write r)
  let r := if write.reaches r.board then r.record (.writing write) else r
  let r := { r with board := res.2 }
  (res.1, if res.1 then r.record (.committed write) else r)

/-- `board_storage_state`. -/
def Radio.storageState (r : Radio) : UInt8 := (Board.loadSlots r.board).storageState

/-- `board_addr_load`. -/
def Board.boardAddrLoad (board : Board) : Option (BdAddr × UInt8) :=
  let board := loadSlots board
  if board.storageState != 1 || board.current.getD 22 0 == 0 || get32 board.current 16 == 0 then none
  else some (fun i => board.current.getD (24 + i.val) 0, board.current.getD 23 0)

/-- `board_hid_flags_load`. -/
def Board.boardHidFlagsLoad (board : Board) : UInt8 :=
  let board := loadSlots board
  if board.currentSlot.isSome && decide (board.current.getD 30 0 ≤ 3) then board.current.getD 30 0
  else 255

/-! ## Helpers -/

section Functions

variable (b : Build) (sdk : Sdk) (P : Platform Radio)

/-- The SDK is asked. -/
def ask (call : SdkCall) (w : World Radio) : UInt8 × World Radio :=
  (sdk.status call w.env, w.record (.asked call))

/-- A report of the adapter as the server executes it. -/
def AdapterReport.run (w : World Radio) : AdapterReport → World Radio
  | .ready nowMs => onLink b P .ready 0 nowMs w
  | .keys rep => onKeys rep w
  | .voice ev nowMs => onVoice b P ev nowMs w
  | .voiceState state interaction rate => onVoiceState b P state interaction rate w
  | .battery level charging => onBattery b P level charging w
  | .profile p => setProfile b P p w
  | .voiceCaps caps => setVoiceCaps caps w
  | .failed reason => adapterFailed b P reason w

/-- The adapter is called, and reports. -/
def adapt (call : AdapterCall) (w : World Radio) : World Radio :=
  (sdk.reports call w.env).foldl (fun w r => r.run b P w) (w.record (.adapted call))

/-- `reconnect_schedule`. -/
def Central.reconnectSchedule (nowMs : UInt32) (c : Central) : Central :=
  { c with
    reconnectAt := nowMs + [1000, 2000, 5000].getD c.backoff 5000
    backoff := if c.backoff < 2 then c.backoff + 1 else 2 }

/-- `set_state`. -/
def setState (state : WcState) (timeout : UInt32) (w : World Radio) : World Radio :=
  w.tune fun c => { c with wcState := state, deadline := w.env.nowMs + timeout }

/-- A report of the link, at the time of the firmware. -/
def reportLink (state : LinkState) (w : World Radio) : World Radio := onLink b P state 0 w.env.nowMs w

/-- `sync_gatt_cache`. -/
def syncGattCache (w : World Radio) : World Radio :=
  if w.env.storageState == 1 && sdk.cacheFails w.env then
    onLinkMessage (ascii "GATT cache storage failed") w
  else w

/-- `radio_fault`. -/
def radioFault (why : String) (w : World Radio) : World Radio :=
  let w := w.tune fun c => { c with nextLink := .none }
  if w.env.central.radioFaulted then w
  else
    let w := w.tune fun c => { c with radioFaulted := true }
    let w := adapt b sdk P .detach (syncGattCache sdk w)
    reportLink b P .error (onLinkMessage (ascii why) w)

/-- The link state that stands for a radio without a link. -/
def Radio.restState (r : Radio) : LinkState :=
  if r.central.radioFaulted || r.central.securityBlocked then .error
  else if r.storageState == 1 then .disconnected
  else .unbound

/-- Whether an early loss is retried at once. -/
def Radio.retriesEarly (r : Radio) : Bool :=
  !r.central.radioFaulted && !r.central.securityBlocked && !r.central.recovering &&
    r.storageState == 1 && decide (r.central.earlyRetries < 2)

/-- `disconnected_retry`. -/
def disconnectedRetry (early : Bool) (w : World Radio) : World Radio :=
  let w := reportLink b P w.env.restState w
  if early && w.env.retriesEarly then
    w.tune fun c => { c with earlyRetries := c.earlyRetries + 1, reconnectAt := w.env.nowMs }
  else w.tune (Central.reconnectSchedule w.env.nowMs)

/-! ## Disconnecting -/

/-- `CANCEL_TIMEOUT_MS`. -/
def cancelTimeoutMs : UInt32 := 5000

/-- The link message after a call was rejected. -/
def reportRejected (status : UInt8) (msg : String) (w : World Radio) : World Radio :=
  if status != 0 then onLinkMessage (ascii msg) w else w

/-- `stop_scan`. -/
def stopScan (w : World Radio) : World Radio :=
  if w.env.central.wcState = .scanStopping then w
  else
    let r := ask sdk .cancelDiscovery (setState .scanStopping cancelTimeoutMs w)
    reportRejected r.1 "scan cancel rejected; awaiting completion" r.2

/-- `rb_disconnect`. -/
def rbDisconnect (w : World Radio) : World Radio :=
  let w := w.tune fun c => { c with nextLink := .none, passkeyPending := false }
  match w.env.central.wcState with
  | .scan | .resolve => stopScan sdk w
  | .connecting =>
    let r := ask sdk (.terminateLink invalidConnHandle) (setState .connectCancel cancelTimeoutMs w)
    reportRejected r.1 "initiation cancel rejected; awaiting terminal event" r.2
  | .connected =>
    let w := adapt b sdk P .detach (syncGattCache sdk w)
    let w := setState .disconnecting cancelTimeoutMs w
    let r := ask sdk (.terminateLink w.env.central.connHandle) w
    reportRejected r.1 "disconnect rejected; awaiting terminal event" r.2
  | _ => w

/-! ## The pairing transaction -/

/-- The journal has to be rolled back. -/
def Central.recover (c : Central) : Central :=
  { c with recovering := true, deleteReport := false, eraseRequested := false, recoveryDeadline := 0 }

/-- The flags of `fail_pair`. -/
def Central.failPair (storageState : UInt8) (c : Central) : Central :=
  { c with
    pairPending := false, recovering := storageState == 3, deleteReport := false,
    eraseRequested := false, recoveryDeadline := 0 }

/-- The pairing is over; the server is about to be told. -/
def World.unpend (w : World Radio) : World Radio :=
  (w.record (.unpended (Board.boardPeerCounter w.env.board))).record (.pairDone w.env.owner)

/-- `fail_pair`. -/
def failPair (status : Status) (w : World Radio) : World Radio :=
  if !w.env.central.pairPending then w
  else
    let w := (w.tune (Central.failPair w.env.storageState)).unpend
    rbDisconnect b sdk P (onPairDone b P status false none 0 w)

/-- The digits of a byte. -/
def hexByte (code : UInt8) : List UInt8 :=
  let digit (n : UInt8) : UInt8 := if n < 10 then 48 + n else 55 + n
  [digit (code >>> 4), digit (code &&& 15)]

/-- The link message of `fail_pair_sdk`. -/
def sdkMessage (phase : String) (code : UInt8) : List UInt8 :=
  (ascii phase).take 40 ++ ascii " (SDK 0x" ++ hexByte code ++ ascii ")"

/-- `fail_pair_sdk`. -/
def failPairSdk (phase : String) (code : UInt8) (w : World Radio) : World Radio :=
  if !w.env.central.pairPending then w
  else
    let w := failPair b sdk P .pairingFailed w
    reportLink b P .error (onLinkMessage (sdkMessage phase code) w)

/-- Neither all zero nor all ones. -/
def programmed {n : Nat} (bytes : Fin n → UInt8) : Bool :=
  (List.ofFn bytes).any (· != 0) && (List.ofFn bytes).any (· != 255)

/-- `read_identity`. -/
def readIdentity (w : World Radio) : Bool × World Radio :=
  let cs := ask sdk .getBondCount w
  let count := sdk.bondCount cs.2.env
  let rs := ask sdk .readBondRecord cs.2
  let bond := sdk.bondRecord rs.2.env
  if cs.1 != 0 || count != 1 || rs.1 != 0 then (false, rs.2)
  else if decide (bond.2 > 1) || !programmed bond.1 then (false, rs.2)
  else
    let ir := ask sdk .readIrk
      (rs.2.tune fun c => { c with identity := bond.1, identityType := bond.2 })
    let irk := sdk.irk ir.2.env
    (true, ir.2.tune fun c => { c with
      peerIrk := if ir.1 == 0 then irk else fun _ => 0
      haveIrk := ir.1 == 0 && programmed irk })

/-- The record of a new peer. -/
def newPeer (counter : UInt32) : PeerRecord :=
  { peerId := counter, name := ascii "BLE Remote", autoReconnect := true }

/-- The address and the flags of the new peer are staged. -/
def World.stage (flags : UInt8) (w : World Radio) : World Radio :=
  let c := w.env.central
  { w with env := { w.env with
      board := (w.env.board.boardAddrStage c.identity c.identityType).boardHidFlagsStage flags } }

/-- `finish_pair`. -/
def finishPair (w : World Radio) : World Radio :=
  match readIdentity sdk w with
  | (false, w) => failPair b sdk P .storageFailed w
  | (true, w) =>
    let peer := newPeer (Board.boardPeerCounter w.env.board)
    let w := w.stage (sdk.hidFlags w.env)
    let w := (w.tune fun c => { c with pairPending := false }).unpend
    let w := onPairDone b P .ok true (some peer) 0 w
    if w.env.storageState == 1 then adapt b sdk P (.commitBond peer.peerId) w
    else rbDisconnect b sdk P (w.tune Central.recover)

/-! ## Connecting -/

/-- The statics with which a connection is attempted. -/
def Central.attempt (c : Central) : Central :=
  { c with adapterStarted := false, bondReady := false, passkeyPending := false }

/-- The end of a connection attempt that the SDK rejected. -/
def linkRejected (status : UInt8) (w : World Radio) : World Radio :=
  let w := setState .idle 0 w
  let w := if w.env.central.pairPending then failPairSdk b sdk P "connection request failed" status w
    else reportLink b P .disconnected w
  w.tune (Central.reconnectSchedule w.env.nowMs)

/-- `begin_link`, from its report to the server on. -/
def establish (addr : BdAddr) (type : UInt8) (w : World Radio) : World Radio :=
  let w := reportLink b P .connecting (w.record (.linking (w.srv.setNow w.env.nowMs)))
  let r := ask sdk (.establishLink type addr) w
  if r.1 != 0 then linkRejected b sdk P r.1 r.2 else r.2

/-- `begin_link`. -/
def beginLink (addr : BdAddr) (type : UInt8) (w : World Radio) : World Radio :=
  let c := w.env.central
  if c.wcState ≠ .idle ∨ c.radioFaulted ∨ c.recovering then w
  else
    let w := w.tune fun c => { c with targetAddr := addr, targetType := type, nextLink := .none }
    let r := ask sdk (.setBondParameter .centPairingMode 2) w
    if r.1 != 0 then
      failPairSdk b sdk P "security setup failed" r.1 (radioFault b sdk P "security setup failed" r.2)
    else establish b sdk P addr type ((setState .connecting 20000 r.2).tune Central.attempt)

/-- Whether an advertisement is the bonded peer's. -/
def Central.recognises (resolves : Bool) (addr : BdAddr) (type : UInt8) (c : Central) : Bool :=
  (type == c.identityType && List.ofFn addr == List.ofFn c.identity) ||
    (c.haveIrk && (type == 1 || type == 3) && addr 5 &&& 0xc0 == 0x40 && resolves)

/-- `resolve_advertisement`. -/
def resolveAdvertisement (addr : BdAddr) (type eventType : UInt8) (w : World Radio) : World Radio :=
  let c := w.env.central
  if c.wcState ≠ .resolve ∨ c.radioFaulted then w
  else if eventType != 0 && eventType != 1 then w
  else if c.recognises (sdk.resolves addr w.env) addr type then
    stopScan sdk (w.tune fun c =>
      { c with targetAddr := addr, targetType := type, nextLink := .reconnect })
  else w

end Functions

end RemoteBridge
