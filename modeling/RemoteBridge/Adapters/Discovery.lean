import RemoteBridge.Adapters.KeyState
import RemoteBridge.Product.Server
import RemoteBridge.Protocol.Crc

/-!
# Discovery

The GATT discovery of `rc003_adapter.c`: one procedure at a time, from the MTU to the last subscription,
with a shorter way for a peer whose attributes are cached.  `begin_next` submits the procedure of a state,
`rc003_adapter_on_gatt` takes what comes back, and both `start_op` the next state.

`begin_next` and `handle_op_failure` call each other, because a procedure may fail at once, or turn out to
be unnecessary.  A state never comes back to an earlier one, so the recursion is well founded and both are
functions of the adapter that need no fuel.

What a notification means to the keys and to the voice engines is said in their own modules; here it is
one of the outcomes of `Heard`, any of which may happen at any time.  The GATT client is a parameter: what
it answers may depend on everything it was asked before.  Every call of `begin_next` has `a->now_ms` for
its time.
-/

namespace RemoteBridge

/-! ## State -/

/-- The states of discovery. -/
inductive DiscState where
  | idle
  | mtu
  | findGattSvc | findChangedChar | discChangedDesc | subChanged
  | findHidSvc
  | findMapChar
  | readMap
  | enumReportChars
  | discDescs
  | readReportRef
  | subscribeReport
  | findBatSvc
  | findBatChar
  | discBatDescs
  | readBattery
  | subscribeBattery
  | findAtvvSvc
  | findAtvvTx
  | findAtvvCtl
  | findAtvvAudio
  | discCtlDesc | discAudioDesc
  | subscribeCtl
  | subscribeAudio
  | atvvPrehandshake
  | done
  | failed
  | findProtocolMode | setProtocolMode | readMapCont
  | readProtocolMode | verifyProtocolMode
  | findHidInfo | readHidInfo
  | unicomService | unicomChar | unicomDesc | unicomSub | unicomWait
  deriving DecidableEq, Repr

/-- Its number in the enumeration. -/
def DiscState.code (s : DiscState) : Nat := s.ctorIdx

/-- The build options: `RBP_ATT_MTU`, and `RBP_SIMULATOR`. -/
structure AdapterBuild where
  attMtu : UInt16
  simulator : Bool := false

/-- `rc003_report_char_t`. -/
structure ReportAttr where
  valueHandle : UInt16 := 0
  cccdHandle : UInt16 := 0
  refHandle : UInt16 := 0
  reportId : UInt8 := 0
  reportType : UInt8 := 0
  properties : UInt8 := 0
  usagePage : UInt8 := 0
  subscribed : Bool := false
  deriving DecidableEq, Repr

/-- The attributes of the Unicom voice service. -/
structure UnicomAttr where
  selected : Bool := false
  hello : Bool := false
  fb : UInt16 := 0
  fc : UInt16 := 0
  f8 : UInt16 := 0
  fd : UInt16 := 0
  fdCccd : UInt16 := 0
  deriving DecidableEq, Repr

/-- `rc003_adapter_t`, as far as discovery goes.  The map is the filled part of its buffer, and the number
of report characteristics is the length of their list; the array has room for eight. -/
structure Rc003 where
  state : DiscState := .idle
  retry : Bool := false
  deadlineMs : UInt32 := 0
  initDeadlineMs : UInt32 := 0
  svcStart : UInt16 := 0
  svcEnd : UInt16 := 0
  protocolModeHandle : UInt16 := 0
  hidInfoHandle : UInt16 := 0
  hidFlags : UInt8 := 0
  hidInfoValid : Bool := false
  mapValueHandle : UInt16 := 0
  mapBuf : List UInt8 := []
  map : HogpReportMap := {}
  chars : List ReportAttr := []
  fits : chars.length ≤ maxReportChars := by decide
  curChar : Nat := 0
  batValueHandle : UInt16 := 0
  batCccdHandle : UInt16 := 0
  atvvTxHandle : UInt16 := 0
  atvvCtlHandle : UInt16 := 0
  atvvCtlCccd : UInt16 := 0
  atvvAudioHandle : UInt16 := 0
  atvvAudioCccd : UInt16 := 0
  atvvPresent : Bool := false
  ready : Bool := false
  voiceReady : Bool := false
  rc003BootLayout : Bool := false
  mapLongStarted : Bool := false
  descBoundary : Bool := false
  voiceKeyVerified : Bool := false
  serviceChangedHandle : UInt16 := 0
  serviceChangedCccd : UInt16 := 0
  unicom : UnicomAttr := {}
  /-- `atvv.caps_valid`, `atvv.caps.interaction` and `atvv.sample_rate`. -/
  capsValid : Bool := false
  interaction : UInt8 := 0
  sampleRate : UInt32 := 0
  /-- `atvv.profile_init_without_sync`. -/
  initWithoutSync : Bool := false
  nowMs : UInt32 := 0
  failedStage : DiscState := .idle
  lastAttError : UInt8 := 0
  cachePeerId : UInt32 := 0
  cacheSafe : Bool := false
  cacheValid : Bool := false
  restoring : Bool := false
  pendingSearch : Bool := false
  capsRequested : Bool := false
  voiceDownSeen : Bool := false
  deriving DecidableEq, Repr

/-- What the adapter asks of the GATT client. -/
inductive GattReq where
  | exchangeMtu (mtu : UInt16)
  | discService16 (uuid : UInt16)
  | discService128 (uuid : List UInt8)
  | readChars16 (first last uuid : UInt16)
  | readChars128 (first last : UInt16) (uuid : List UInt8)
  | discDescs (first last : UInt16)
  | readValue (handle : UInt16)
  | readLong (handle offset : UInt16)
  | write (handle : UInt16) (value : List UInt8)
  | command (handle : UInt16) (value : List UInt8)
  deriving DecidableEq, Repr

/-- What it answers: zero, `RBP_GATT_RETRY`, or another negative number. -/
inductive GattRet where
  | ok
  | retry
  | rejected
  deriving DecidableEq, Repr

/-- `rbp_gatt_client_t`. -/
structure GattClient (G : Type) where
  submit : GattReq → G → GattRet × G

/-- The profiles of the product. -/
inductive ProductProfile where
  | rc003
  | rc003Voice
  | unicom
  deriving DecidableEq, Repr

/-- What the adapter tells the server. -/
inductive DiscTold where
  | profile (p : ProductProfile)
  | voiceCaps (caps : AudioCaps)
  | voiceState (state : VoiceState) (interaction : VoiceInteraction) (rate : UInt32)
  | ready (nowMs : UInt32)
  | battery (level : UInt8)
  | failed (message : String)
  deriving DecidableEq, Repr

/-- What happens in a discovery.  A start has the new state and the current characteristic; a fault is a
record of the fault log, and a search a stream asked of the voice engine. -/
inductive DiscEv where
  | start (state : DiscState) (char : Nat)
  | asked (r : GattReq)
  | told (t : DiscTold)
  | fault (state : DiscState) (attError : UInt8) (timedOut : Bool)
  | search
  deriving DecidableEq, Repr

/-- The adapter with its GATT client, and the log of one discovery, the newest event first. -/
structure DiscWorld (G : Type) where
  a : Rc003
  gatt : G
  log : List DiscEv

/-- The events of the GATT client. -/
inductive GattEvt where
  | mtuUpdated (mtu : UInt16)
  | serviceFound (svcStart svcEnd : UInt16)
  | serviceNotFound
  | charsFound (value : List UInt8)
  | descFound (handle uuid : UInt16)
  | readRsp (value : List UInt8) (offset : UInt16) (complete : Bool)
  | writeDone
  | notify (handle : UInt16) (value : List UInt8)
  | procDone
  | procError (status : UInt8)
  | bearerFailed (status : UInt8)
  deriving DecidableEq, Repr

/-! ## Constants -/

/-- `INIT_TIMEOUT_MS`. -/
def initTimeoutMs : UInt32 := 2000

/-- `ATT_RESPONSE_TIMEOUT_MS`; irreducible, so that unification never counts up to it. -/
@[irreducible] def attResponseTimeoutMs : UInt32 := 30000

/-- `INIT_TOTAL_TIMEOUT_MS`. -/
@[irreducible] def initTotalTimeoutMs : UInt32 := 60000

/-- `unicom_map`. -/
def unicomMap : List UInt8 :=
  [0x05, 0x01, 0x09, 0x06, 0xa1, 0x01, 0x85, 0x01, 0x05, 0x07, 0x19, 0xe0, 0x29, 0xe7, 0x15, 0x00,
   0x25, 0x01, 0x75, 0x01, 0x95, 0x08, 0x81, 0x02, 0x95, 0x01, 0x75, 0x08, 0x81, 0x01, 0x95, 0x05,
   0x75, 0x01, 0x05, 0x08, 0x19, 0x01, 0x29, 0x05, 0x91, 0x02, 0x95, 0x01, 0x75, 0x03, 0x91, 0x01,
   0x95, 0x06, 0x75, 0x08, 0x15, 0x00, 0x25, 0xff, 0x05, 0x07, 0x19, 0x00, 0x29, 0xff, 0x81, 0x00,
   0xc0, 0x05, 0x0c, 0x09, 0x01, 0xa1, 0x01, 0x85, 0x03, 0x19, 0x00, 0x2a, 0xff, 0x03, 0x15, 0x00,
   0x26, 0xff, 0x03, 0x95, 0x01, 0x75, 0x10, 0x81, 0x00, 0xc0, 0x05, 0x0c, 0x09, 0x01, 0xa1, 0x01,
   0x85, 0x04, 0x95, 0x14, 0x75, 0x08, 0x15, 0x00, 0x25, 0xff, 0x81, 0x00, 0xc0, 0x05, 0x0c, 0x09,
   0x01, 0xa1, 0x01, 0x85, 0xfc, 0x95, 0x14, 0x75, 0x08, 0x15, 0x00, 0x26, 0xff, 0x00, 0x81, 0x00,
   0xc0, 0x05, 0x0c, 0x09, 0x01, 0xa1, 0x01, 0x85, 0xf8, 0x95, 0x14, 0x75, 0x08, 0x15, 0x00, 0x26,
   0xff, 0x00, 0x81, 0x00, 0xc0, 0x05, 0x0c, 0x09, 0x01, 0xa1, 0x01, 0x85, 0xf9, 0x95, 0x01, 0x75,
   0x08, 0x15, 0x00, 0x26, 0xff, 0x00, 0x81, 0x00, 0xc0]

/-- The input reports of the Unicom map. -/
def unicomInputs : List HogpInputReport :=
  [1, 3, 0xfc, 0xf8, 0xf9, 4].map fun id => { reportId := id, usagePage := 0 }

/-- What the voice engines can do, `caps` in `rc003_adapter_init` and in `unicom_ready`. -/
def atvvCaps : AudioCaps := { codecs := [{ id := 1, revision := 1 }], maxUnitBytes := 512 }

def unicomCaps : AudioCaps := { codecs := [{ id := 2, revision := 1 }], maxUnitBytes := 40 }

/-- `k_atvv_svc_uuid` and its siblings differ in one byte. -/
def atvvUuid (n : UInt8) : List UInt8 :=
  [0x64, 0xb6, 0x17, 0xf6, 0x01, 0xaf, 0x7d, 0xbc, 0x05, 0x4f, 0x21, 0x5a, n, 0x00, 0x5e, 0xab]

/-- `atvv_build_get_caps`. -/
def getCaps : List UInt8 := [0x0a, 0x01, 0x00, 0x00, 0x03, 0x03]

/-- The value that enables notifications, and the one that enables indications. -/
def cccdNotify : List UInt8 := [1, 0]

def cccdIndicate : List UInt8 := [2, 0]

/-- The declarations and descriptors discovery looks for. -/
def uuidCharacteristic : UInt16 := 0x2803

def uuidCccd : UInt16 := 0x2902

def uuidReportReference : UInt16 := 0x2908

/-- The ATT error of a client that is out of sync with the database. -/
def attOutOfSync : UInt8 := 0x12

/-- A deadline has passed: `(int32_t)(now - deadline) >= 0`. -/
def passed (now deadline : UInt32) : Bool := (now - deadline).toNat < 2 ^ 31

/-! ## Reports -/

namespace Rc003

/-- `a->chars[a->cur_char]`. -/
def char (a : Rc003) : ReportAttr := a.chars.getD a.curChar {}

def modifyChar (f : ReportAttr → ReportAttr) (a : Rc003) : Rc003 :=
  { a with
    chars := a.chars.modify a.curChar f
    fits := (List.length_modify ..).trans_le a.fits }

/-- One characteristic in `unicom_reports`, while it looks for report `id`: the attributes, the number of
matches, and whether nothing was wrong yet. -/
def unicomReport (id : UInt8) (s : UnicomAttr × Nat × Bool) (c : ReportAttr) :
    UnicomAttr × Nat × Bool :=
  if s.2.2 = false ∨ c.reportId ≠ id then s
  else
    let output := id = 0xfb ∨ id = 0xfa
    let count := s.2.1 + 1
    if c.reportType ≠ (if output then 2 else 1) ∨
        (if output then c.properties &&& 8 = 0
          else c.properties &&& 0x10 = 0 ∨ c.subscribed = false) then (s.1, count, false)
    else
      ({ s.1 with
          fb := if id = 0xfb then c.valueHandle else s.1.fb
          fc := if id = 0xfc then c.valueHandle else s.1.fc
          f8 := if id = 0xf8 then c.valueHandle else s.1.f8 }, count, true)

/-- One report in `unicom_reports`: exactly one characteristic must have it. -/
def unicomId (chars : List ReportAttr) (s : UnicomAttr × Bool) (id : UInt8) : UnicomAttr × Bool :=
  if s.2 = false then s
  else
    let r := chars.foldl (unicomReport id) (s.1, 0, true)
    (r.1, r.2.2 && r.2.1 == 1)

/-- `unicom_reports`. -/
def unicomReports (a : Rc003) : UnicomAttr × Bool :=
  if a.chars.length ≠ 8 then (a.unicom, false)
  else [1, 3, 0xfc, 0xfb, 0xf8, 0xfa, 0xf9, 4].foldl (unicomId a.chars) (a.unicom, true)

/-- An input report of the map that no subscribed characteristic delivers. -/
def unsubscribed (a : Rc003) : Bool :=
  a.map.inputs.any fun i => !a.chars.any fun c => c.subscribed && c.reportId.toNat == i.reportId

/-- The current characteristic carries a report of the map. -/
def mapped (a : Rc003) : Bool :=
  a.unicom.selected || a.map.inputs.any fun i => i.reportId == a.char.reportId.toNat

end Rc003

/-! ## Ends -/

namespace DiscWorld

variable {G : Type}

def act (f : Rc003 → Rc003) (w : DiscWorld G) : DiscWorld G := { w with a := f w.a }

def note (e : DiscEv) (w : DiscWorld G) : DiscWorld G := { w with log := e :: w.log }

def tell (t : DiscTold) : DiscWorld G → DiscWorld G := note (.told t)

/-- Two or four digits of a number, as `fail_init` writes them. -/
def hexDigits : Nat → Nat → List Char
  | 0, _ => []
  | k + 1, n => hexDigits k (n / 16) ++ ["0123456789ABCDEF".toList.getD (n % 16) '0']

/-- The message of a discovery that failed in `a`. -/
def initFailed (a : Rc003) (timedOut : Bool) : String :=
  String.ofList ("init failed: S=".toList ++ hexDigits 2 a.state.code ++
    " E=".toList ++ hexDigits 2 a.lastAttError.toNat ++ " M=".toList ++ hexDigits 4 a.mapBuf.length ++
    " N=".toList ++ hexDigits 2 a.chars.length ++ " I=".toList ++ hexDigits 2 a.curChar ++
    " T=".toList ++ [if timedOut then '1' else '0'])

/-- The message of a failure after discovery; it has at most 47 bytes. -/
def runtimeFailed (a : Rc003) (cause : String) : String :=
  String.ofList (("runtime E=".toList ++ hexDigits 2 a.lastAttError.toNat ++
    ": ".toList ++ cause.toList).take 47)

/-- `fail_init`. -/
def failInit (cause : String) (invalidateCache : Bool) (w : DiscWorld G) : DiscWorld G :=
  let a := { w.a with
    cacheValid := w.a.cacheValid && !invalidateCache
    cacheSafe := w.a.cacheSafe && !invalidateCache
    pendingSearch := false
    failedStage := w.a.state }
  let timedOut := decide ("timeout".toList <:+: cause.toList)
  let w' := (w.note (.fault a.state a.lastAttError timedOut)).act fun _ => { a with state := .failed }
  if a.state = .done then w'.tell (.failed (runtimeFailed a cause))
  else w'.tell (.failed (initFailed a timedOut))

/-- `fail_initialization`. -/
def failInitialization (cause : String) : DiscWorld G → DiscWorld G := failInit cause true

/-- `fail_transport`. -/
def failTransport (cause : String) : DiscWorld G → DiscWorld G := failInit cause false

/-- `unicom_bad`; there is no stream to end before discovery is done. -/
def unicomBad (why : String) : DiscWorld G → DiscWorld G := failInitialization why

/-- `rbp_server_adapter_failed` without `fail_init`. -/
def stop (message : String) (w : DiscWorld G) : DiscWorld G :=
  (w.act fun a => { a with state := .failed }).tell (.failed message)

/-- The interaction the capabilities of a remote stand for. -/
def voiceInteraction (interaction : UInt8) : VoiceInteraction :=
  if interaction = 0 then .onRequest else if interaction = 1 then .ptt else .htt

/-- `finish_voice_ready`. -/
def finishVoiceReady (w : DiscWorld G) : DiscWorld G :=
  if w.a.state ≠ .atvvPrehandshake ∨ w.a.capsValid = false ∨ w.a.atvvPresent = false ∨
      w.a.capsRequested = false then w
  else
    let w := ((w.act fun a => { a with
        voiceReady := true, state := .done, ready := true, retry := false }).tell
      (.voiceState .ready (voiceInteraction w.a.interaction) w.a.sampleRate)).tell (.ready w.a.nowMs)
    let w := w.act fun a => { a with
      cacheValid := a.cacheSafe && decide (a.cachePeerId ≠ 0), restoring := false }
    if w.a.pendingSearch = true ∨ w.a.interaction ≠ 1 ∧ w.a.voiceDownSeen = true then
      (w.act fun a => { a with pendingSearch := false }).note .search
    else w

/-- `unicom_ready`. -/
def unicomReady (w : DiscWorld G) : DiscWorld G :=
  let w := w.act fun a => { a with
    state := .done
    ready := true
    voiceReady := a.unicom.hello
    retry := false
    cacheValid := a.cacheSafe && decide (a.cachePeerId ≠ 0) && a.unicom.hello
    restoring := false }
  let w := (w.tell (.profile .unicom)).tell (.voiceCaps unicomCaps)
  let w := if w.a.voiceReady then w.tell (.voiceState .ready .htt 16000)
    else w.tell (.voiceState .unsupported .unavailable 0)
  w.tell (.ready w.a.nowMs)

end DiscWorld

/-! ## The order of the states -/

namespace DiscState

/-- Where a state stands; the three states of a report characteristic stand together. -/
def major : DiscState → Nat
  | .idle => 0
  | .mtu => 1
  | .findGattSvc => 2
  | .findChangedChar => 3
  | .discChangedDesc => 4
  | .subChanged => 5
  | .findHidSvc => 6
  | .findHidInfo => 7
  | .readHidInfo => 8
  | .findProtocolMode => 9
  | .readProtocolMode => 10
  | .setProtocolMode => 11
  | .verifyProtocolMode => 12
  | .findMapChar => 13
  | .readMap => 14
  | .readMapCont => 15
  | .enumReportChars => 16
  | .discDescs | .readReportRef | .subscribeReport => 17
  | .findBatSvc => 18
  | .findBatChar => 19
  | .discBatDescs => 20
  | .readBattery => 21
  | .subscribeBattery => 22
  | .findAtvvSvc => 23
  | .findAtvvTx => 24
  | .findAtvvCtl => 25
  | .discCtlDesc => 26
  | .subscribeCtl => 27
  | .findAtvvAudio => 28
  | .discAudioDesc => 29
  | .subscribeAudio => 30
  | .atvvPrehandshake => 31
  | .unicomService => 32
  | .unicomChar => 33
  | .unicomDesc => 34
  | .unicomSub => 35
  | .unicomWait => 36
  | .done => 37
  | .failed => 38

/-- Where a state stands among those of its characteristic, if it belongs to one. -/
def minor : DiscState → Option Nat
  | .discDescs => some 0
  | .readReportRef => some 1
  | .subscribeReport => some 2
  | _ => none

/-- The number of a state at a characteristic. -/
def rank (s : DiscState) (char : Nat) : Nat :=
  32 * s.major + (match s.minor with
    | none => 0
    | some m => 3 * min char 7 + m)

theorem rank_lt (s : DiscState) (char : Nat) : s.rank char < 2048 := by
  have hmajor : s.major ≤ 38 := by cases s <;> decide
  have hminor : ∀ m ∈ s.minor, m ≤ 2 := by cases s <;> decide
  unfold rank
  cases h : s.minor with
  | none => simp only; omega
  | some m =>
    have hm : m ≤ 2 := hminor m h
    simp only
    omega

/-- A state of a greater major is later at whatever characteristics. -/
theorem rank_lt_rank {s t : DiscState} (h : s.major < t.major) (c d : Nat) : s.rank c < t.rank d := by
  have hminor : ∀ m ∈ s.minor, m ≤ 2 := by cases s <;> decide
  have hlow : s.rank c < 32 * s.major + 32 := by
    unfold rank
    cases hs : s.minor with
    | none => simp only; omega
    | some m =>
      have hm : m ≤ 2 := hminor m hs
      simp only
      omega
  have hhigh : 32 * t.major ≤ t.rank d := Nat.le_add_right _ _
  omega

end DiscState

/-! ## Procedures -/

/-- The states that look for a service, and forget the range of the last. -/
def DiscState.findsService : DiscState → Bool
  | .findGattSvc | .findHidSvc | .findBatSvc | .findAtvvSvc | .unicomService => true
  | _ => false

/-- The states that look for the descriptors of a characteristic. -/
def DiscState.findsDescs : DiscState → Bool
  | .discCtlDesc | .discAudioDesc | .discChangedDesc | .discDescs | .discBatDescs | .unicomDesc => true
  | _ => false

/-- What `begin_next` does in a state: it submits a procedure, starts another state at once, gives up, or
has nothing to do. -/
inductive DiscOp where
  | ask (r : GattReq)
  | go (s : DiscState)
  | bad (why : String)
  | stop (message : String)
  | wait
  | nothing
  deriving DecidableEq, Repr

namespace Rc003

/-- `start_op`. -/
def startOp (s : DiscState) (a : Rc003) : Rc003 :=
  let s := if s = .findAtvvSvc ∧ a.unicom.selected = true then .unicomService else s
  { a with
    svcStart := if s.findsService then 0 else a.svcStart
    svcEnd := if s.findsService then 0 else a.svcEnd
    descBoundary := a.descBoundary && !s.findsDescs
    state := s
    capsRequested := a.capsRequested && decide (s ≠ .atvvPrehandshake)
    retry := false
    lastAttError := 0
    deadlineMs := a.nowMs + initTimeoutMs }

def rank (a : Rc003) : Nat := a.state.rank a.curChar

/-- The next characteristic, or the battery after the last one. -/
def nextChar (a : Rc003) : Rc003 × DiscOp :=
  if a.curChar + 1 < a.chars.length then ({ a with curChar := a.curChar + 1 }, .go .discDescs)
  else (a, .go .findBatSvc)

/-- The last handle before the next characteristic, or of the service. -/
def charEnd (a : Rc003) : UInt16 :=
  if a.curChar + 1 < a.chars.length then (a.chars.getD (a.curChar + 1) {}).valueHandle - 1 else a.svcEnd

/-- `ST_DISC_DESCS` in `begin_next`. -/
def beginDescs (a : Rc003) : Rc003 × DiscOp :=
  let start := a.char.valueHandle + 1
  if start ≤ a.charEnd then (a, .ask (.discDescs start a.charEnd))
  else (a.modifyChar fun c => { c with refHandle := 0, cccdHandle := 0 }).nextChar

/-- `ST_SUBSCRIBE_REPORT` in `begin_next`. -/
def beginSubscribe (a : Rc003) : Rc003 × DiscOp :=
  if a.char.cccdHandle = 0 ∨ a.char.reportType ≠ 1 ∨ a.mapped = false then
    let a := { a with curChar := a.curChar + 1 }
    if a.curChar ≥ a.chars.length then (a, .go .findBatSvc) else (a, .go .discDescs)
  else (a, .ask (.write a.char.cccdHandle cccdNotify))

/-- The report references of a Unicom remote, which `unicom_reports` takes the voice handles from. -/
def checkReports (a : Rc003) : Rc003 × Bool :=
  if a.unicom.selected then ({ a with unicom := a.unicomReports.1 }, a.unicomReports.2) else (a, true)

/-- `ST_FIND_BAT_SVC` in `begin_next`: first the reports must be complete. -/
def beginBattery (a : Rc003) : Rc003 × DiscOp :=
  let checked := a.checkReports
  if checked.2 = false then (checked.1, .bad "Unicom report references")
  else if checked.1.unsubscribed then (checked.1, .stop "HID input report not subscribed")
  else if checked.1.map.inputs = [] then (checked.1, .stop "HID input map empty")
  else (checked.1, .ask (.discService16 0x180f))

/-- The `switch` of `begin_next`. -/
def beginOp (b : AdapterBuild) (a : Rc003) : Rc003 × DiscOp :=
  match a.state with
  | .unicomService => (a, .ask (.discService16 0xfd00))
  | .unicomChar => (a, .ask (.readChars16 a.svcStart a.svcEnd 0xfd02))
  | .unicomDesc => (a, .ask (.discDescs (a.unicom.fd + 1) a.svcEnd))
  | .unicomSub => (a, .ask (.write a.unicom.fdCccd cccdNotify))
  | .unicomWait => (a, .wait)
  | .findHidInfo => (a, .ask (.readChars16 a.svcStart a.svcEnd 0x2a4a))
  | .readHidInfo => (a, .ask (.readValue a.hidInfoHandle))
  | .findProtocolMode => (a, .ask (.readChars16 a.svcStart a.svcEnd 0x2a4e))
  | .readProtocolMode | .verifyProtocolMode => (a, .ask (.readValue a.protocolModeHandle))
  | .setProtocolMode => (a, .ask (.command a.protocolModeHandle [1]))
  | .readMapCont => (a, .ask (.readLong a.mapValueHandle (UInt16.ofNat a.mapBuf.length)))
  | .mtu => (a, .ask (.exchangeMtu b.attMtu))
  | .findGattSvc => (a, .ask (.discService16 0x1801))
  | .findChangedChar => (a, .ask (.readChars16 a.svcStart a.svcEnd 0x2a05))
  | .discChangedDesc => (a, .ask (.discDescs (a.serviceChangedHandle + 1) a.svcEnd))
  | .subChanged => (a, .ask (.write a.serviceChangedCccd cccdIndicate))
  | .discCtlDesc => (a, .ask (.discDescs (a.atvvCtlHandle + 1) a.svcEnd))
  | .discAudioDesc => (a, .ask (.discDescs (a.atvvAudioHandle + 1) a.svcEnd))
  | .findHidSvc => (a, .ask (.discService16 0x1812))
  | .findMapChar => (a, .ask (.readChars16 a.svcStart a.svcEnd 0x2a4b))
  | .readMap => ({ a with mapBuf := [], mapLongStarted := false }, .ask (.readValue a.mapValueHandle))
  | .enumReportChars => (a, .ask (.readChars16 a.svcStart a.svcEnd 0x2a4d))
  | .discDescs => a.beginDescs
  | .readReportRef => (a, .ask (.readValue a.char.refHandle))
  | .subscribeReport => a.beginSubscribe
  | .findBatSvc => a.beginBattery
  | .findBatChar => (a, .ask (.readChars16 a.svcStart a.svcEnd 0x2a19))
  | .discBatDescs => (a, .ask (.discDescs (a.batValueHandle + 1) a.svcEnd))
  | .readBattery => (a, .ask (.readValue a.batValueHandle))
  | .subscribeBattery => (a, .ask (.write a.batCccdHandle cccdNotify))
  | .findAtvvSvc => (a, .ask (.discService128 (atvvUuid 1)))
  | .findAtvvTx => (a, .ask (.readChars128 a.svcStart a.svcEnd (atvvUuid 2)))
  | .findAtvvCtl => (a, .ask (.readChars128 a.svcStart a.svcEnd (atvvUuid 4)))
  | .findAtvvAudio => (a, .ask (.readChars128 a.svcStart a.svcEnd (atvvUuid 3)))
  | .subscribeCtl => (a, .ask (.write a.atvvCtlCccd cccdNotify))
  | .subscribeAudio => (a, .ask (.write a.atvvAudioCccd cccdNotify))
  | .atvvPrehandshake => (a, .ask (.command a.atvvTxHandle getCaps))
  | .idle | .done | .failed => (a, .nothing)

end Rc003

namespace Rc003

/-- A state that `begin_next` starts at once is later than the one it was called in. -/
theorem beginOp_go {b : AdapterBuild} {a a' : Rc003} {s : DiscState} (h : a.beginOp b = (a', .go s)) :
    a.rank < s.rank a'.curChar := by
  have hfits := a.fits
  have hnext : ∀ x : Rc003, x.curChar = a.curChar → x.chars.length = a.chars.length →
      a.state = .discDescs → x.nextChar = (a', .go s) → a.rank < s.rank a'.curChar := by
    intro x hcur hlen hstate hx
    unfold nextChar at hx
    split_ifs at hx with hmore
    · obtain ⟨rfl, hs⟩ := Prod.mk.inj hx
      obtain rfl := DiscOp.go.inj hs
      simp only [rank, hstate, DiscState.rank, DiscState.major, DiscState.minor]
      unfold maxReportChars at hfits
      omega
    · obtain ⟨rfl, hs⟩ := Prod.mk.inj hx
      obtain rfl := DiscOp.go.inj hs
      exact DiscState.rank_lt_rank (by rw [hstate]; decide) _ _
  cases hstate : a.state
  case discDescs =>
    rw [beginOp, hstate] at h
    simp only [beginDescs] at h
    split_ifs at h
    · cases (Prod.mk.inj h).2
    · exact hnext (a.modifyChar _) rfl (List.length_modify ..) hstate h
  case subscribeReport =>
    rw [beginOp, hstate] at h
    simp only [beginSubscribe] at h
    split_ifs at h with hskip hlast
    · obtain ⟨rfl, hs⟩ := Prod.mk.inj h
      obtain rfl := DiscOp.go.inj hs
      exact DiscState.rank_lt_rank (by rw [hstate]; decide) _ _
    · obtain ⟨rfl, hs⟩ := Prod.mk.inj h
      obtain rfl := DiscOp.go.inj hs
      simp only [rank, hstate, DiscState.rank, DiscState.major, DiscState.minor]
      unfold maxReportChars at hfits
      omega
    · cases (Prod.mk.inj h).2
  case findBatSvc =>
    rw [beginOp, hstate] at h
    simp only [beginBattery] at h
    split_ifs at h <;> cases (Prod.mk.inj h).2
  all_goals
    rw [beginOp, hstate] at h
    cases (Prod.mk.inj h).2

/-- A procedure that `begin_next` submits belongs to the state it was called in. -/
theorem beginOp_ask {b : AdapterBuild} {a a' : Rc003} {r : GattReq}
    (h : a.beginOp b = (a', .ask r)) : a'.state = a.state ∧ a'.curChar = a.curChar := by
  cases hstate : a.state
  case discDescs =>
    rw [beginOp, hstate] at h
    simp only [beginDescs, nextChar] at h
    split_ifs at h <;> cases h
    exact ⟨hstate, rfl⟩
  case subscribeReport =>
    rw [beginOp, hstate] at h
    simp only [beginSubscribe] at h
    split_ifs at h <;> cases h
    exact ⟨hstate, rfl⟩
  case findBatSvc =>
    rw [beginOp, hstate] at h
    simp only [beginBattery] at h
    split_ifs at h <;> cases h
    unfold checkReports
    split_ifs <;> exact ⟨hstate, rfl⟩
  all_goals
    rw [beginOp, hstate] at h
    cases h
  all_goals exact ⟨by simp [hstate], rfl⟩

/-- Only `rc003_adapter_on_gatt` starts `ST_READ_MAP_CONT`, and only `ST_READ_MAP` clears its flag. -/
theorem beginOp_map {b : AdapterBuild} {a a' : Rc003} {op : DiscOp} (h : a.beginOp b = (a', op)) :
    op ≠ .go .readMapCont ∧ (a.state = .readMapCont → a' = a) := by
  refine ⟨?_, ?_⟩
  · rintro rfl
    cases hstate : a.state
    case discDescs =>
      rw [beginOp, hstate] at h
      simp only [beginDescs, nextChar] at h
      split_ifs at h <;> cases h
    case subscribeReport =>
      rw [beginOp, hstate] at h
      simp only [beginSubscribe] at h
      split_ifs at h <;> cases h
    case findBatSvc =>
      rw [beginOp, hstate] at h
      simp only [beginBattery] at h
      split_ifs at h <;> cases h
    all_goals
      rw [beginOp, hstate] at h
      cases h
  · intro hstate
    rw [beginOp, hstate] at h
    cases h
    rfl

theorem rank_beginOp_ask {b : AdapterBuild} {a a' : Rc003} {r : GattReq}
    (h : a.beginOp b = (a', .ask r)) : a'.rank = a.rank := by
  rw [rank, (beginOp_ask h).1, (beginOp_ask h).2, rank]

theorem rank_lt (a : Rc003) : a.rank < 2048 := DiscState.rank_lt _ _

/-- The redirection to the Unicom service goes forward too. -/
theorem rank_startOp (s : DiscState) (a : Rc003) : s.rank a.curChar ≤ (a.startOp s).rank := by
  unfold startOp rank
  dsimp only
  split_ifs with h
  · rw [h.1]
    exact (DiscState.rank_lt_rank (by decide) _ _).le
  · exact le_rfl

end Rc003

/-! ## The pump -/

namespace DiscWorld

variable {G : Type}

def startOp (s : DiscState) (w : DiscWorld G) : DiscWorld G :=
  (w.act (Rc003.startOp s)).note (.start (w.a.startOp s).state w.a.curChar)

/-- A submission, with the adapter as `begin_next` left it before. -/
def submit (client : GattClient G) (a : Rc003) (r : GattReq) (w : DiscWorld G) : DiscWorld G :=
  { a, gatt := (client.submit r w.gatt).2, log := .asked r :: w.log }

/-- A procedure that was accepted, in any state but that of the protocol mode. -/
def accepted (w : DiscWorld G) : DiscWorld G :=
  if w.a.state = .atvvPrehandshake then
    let w := finishVoiceReady (w.act fun a => { a with
      capsRequested := true, deadlineMs := a.nowMs + initTimeoutMs })
    if w.a.state = .atvvPrehandshake then w.act fun a => { a with retry := false } else w
  else w.act fun a => { a with retry := false, deadlineMs := a.nowMs + attResponseTimeoutMs }

/-- Discovery is over, with or without voice. -/
def readyWithout (state : VoiceState) (w : DiscWorld G) : DiscWorld G :=
  ((w.act fun a => { a with atvvPresent := false, retry := false, state := .done, ready := true }).tell
    (.voiceState state .unavailable 0)).tell (.ready w.a.nowMs)

/-- What `handle_op_failure` does in a state: it goes on with another, gives up, or does without voice. -/
inductive Failure where
  | go (s : DiscState)
  | bad (why : String)
  | ready (voice : VoiceState)
  deriving DecidableEq, Repr

/-- The `switch` of `handle_op_failure`. -/
def failureOp (a : Rc003) : Rc003 × Failure :=
  match a.state with
  | .findProtocolMode => (a, .bad "protocol mode discovery")
  | .findGattSvc | .findChangedChar | .discChangedDesc | .subChanged =>
    ({ a with serviceChangedHandle := 0 }, .go .findHidSvc)
  | .findBatSvc | .findBatChar | .discBatDescs | .readBattery | .subscribeBattery =>
    ({ a with retry := false, batValueHandle := 0 }, .go .findAtvvSvc)
  | .findAtvvSvc => (a, .ready .unsupported)
  | .findAtvvTx | .findAtvvCtl | .findAtvvAudio | .discCtlDesc | .discAudioDesc
  | .subscribeCtl | .subscribeAudio | .atvvPrehandshake => (a, .ready .failed)
  | _ => (a, .bad "failed")

/-- Where `handle_op_failure` goes on, it goes forward. -/
theorem failureOp_go {a a' : Rc003} {s : DiscState} (h : failureOp a = (a', .go s)) :
    a.rank < s.rank a'.curChar := by
  cases hstate : a.state
  all_goals
    rw [failureOp, hstate] at h
    obtain ⟨rfl, hs⟩ := Prod.mk.inj h
    cases hs
  all_goals
    exact DiscState.rank_lt_rank (by rw [hstate]; decide) _ _

mutual

/-- `begin_next`. -/
def beginNext (b : AdapterBuild) (client : GattClient G) (w : DiscWorld G) : DiscWorld G :=
  match _h : w.a.beginOp b with
  | (a, .go s) => beginNext b client (startOp s { w with a })
  | (a, .bad why) => unicomBad why { w with a }
  | (a, .stop message) => stop message { w with a }
  | (_, .wait) => w
  | (_, .nothing) => accepted w
  | (a, .ask r) =>
    match (client.submit r w.gatt).1 with
    | .retry => (w.submit client a r).act fun a => { a with retry := true }
    | .rejected =>
      handleOpFailure b client ((w.submit client a r).act fun a => { a with retry := false })
    | .ok =>
      if _hset : w.a.state = .setProtocolMode then
        beginNext b client (startOp .verifyProtocolMode (w.submit client a r))
      else accepted (w.submit client a r)
  termination_by 2 * (2048 - w.a.rank) + 1
  decreasing_by
    · have hlater := (Rc003.beginOp_go _h).trans_le (Rc003.rank_startOp s a)
      have hmax := (a.startOp s).rank_lt
      change 2 * (2048 - (a.startOp s).rank) + 1 < _
      omega
    · have hstay : a.rank = w.a.rank := Rc003.rank_beginOp_ask _h
      change 2 * (2048 - a.rank) < _
      omega
    · have hstart : w.a.rank < DiscState.verifyProtocolMode.rank a.curChar :=
        DiscState.rank_lt_rank (by rw [_hset]; decide) _ _
      have hlater := hstart.trans_le (Rc003.rank_startOp .verifyProtocolMode a)
      have hmax := (a.startOp .verifyProtocolMode).rank_lt
      change 2 * (2048 - (a.startOp .verifyProtocolMode).rank) + 1 < _
      omega

/-- `handle_op_failure`. -/
def handleOpFailure (b : AdapterBuild) (client : GattClient G) (w : DiscWorld G) : DiscWorld G :=
  if w.a.restoring then failInitialization "cached attributes failed" w
  else
    match _h : failureOp w.a with
    | (a, .go s) => beginNext b client (startOp s { w with a })
    | (_, .bad why) => failInitialization why w
    | (_, .ready voice) => readyWithout voice w
  termination_by 2 * (2048 - w.a.rank)
  decreasing_by
    · have hlater := (failureOp_go _h).trans_le (Rc003.rank_startOp s a)
      have hmax := (a.startOp s).rank_lt
      change 2 * (2048 - (a.startOp s).rank) + 1 < _
      omega

end

/-- `start_op` followed by `begin_next`. -/
def go (b : AdapterBuild) (client : GattClient G) (s : DiscState) (w : DiscWorld G) : DiscWorld G :=
  beginNext b client (startOp s w)

end DiscWorld

/-! ## Events -/

/-- The value handle in the declaration of a characteristic, and its properties. -/
def declared (value : List UInt8) : UInt16 :=
  (value.getD 1 0).toUInt16 ||| ((value.getD 2 0).toUInt16 <<< 8)

def declares (mask : UInt8) (value : List UInt8) : Bool := value.getD 0 0 &&& mask != 0

/-- The responses of a procedure that is not over. -/
def GattEvt.extends : GattEvt → Bool
  | .charsFound _ | .descFound _ _ | .readRsp _ _ _ | .serviceFound _ _ => true
  | _ => false

namespace Rc003

/-- Where a restored adapter goes on: after the protocol mode, after the changed indication, and first. -/
def afterMode (a : Rc003) : DiscState :=
  if a.unicom.selected then .unicomSub else if a.batValueHandle ≠ 0 then .readBattery else .subscribeCtl

def afterChanged (a : Rc003) : DiscState :=
  if a.protocolModeHandle ≠ 0 then .readProtocolMode else a.afterMode

def afterMtu (a : Rc003) : DiscState :=
  if a.serviceChangedCccd ≠ 0 then .subChanged else a.afterChanged

/-- A descriptor of the current characteristic. -/
def foundDesc (handle uuid : UInt16) (a : Rc003) : Rc003 :=
  let a := { a with descBoundary := a.descBoundary || uuid == uuidCharacteristic }
  if a.descBoundary then a
  else a.modifyChar fun c => { c with
    refHandle := if uuid = uuidReportReference then handle else c.refHandle
    cccdHandle := if uuid = uuidCccd then handle else c.cccdHandle }

/-- A client configuration before the next characteristic, which `set` keeps. -/
def foundCccd (set : UInt16 → Rc003 → Rc003) (handle uuid : UInt16) (a : Rc003) : Rc003 :=
  let a := { a with descBoundary := a.descBoundary || uuid == uuidCharacteristic }
  if a.descBoundary = false ∧ uuid = uuidCccd then set handle a else a

/-- A report characteristic; the array has room for eight. -/
def foundReport (value : List UInt8) (a : Rc003) : Rc003 :=
  if h : a.chars.length < maxReportChars then
    { a with
      chars := a.chars ++ [{ properties := value.getD 0 0, valueHandle := declared value }]
      fits := by rw [List.length_append]; exact h }
  else a

/-- The exact layout of the RC003. -/
def bootLayoutMap (map : List UInt8) : Bool := map.length == 86 && crc32c map == 0x6bd7daad

/-- A complete map selects the Unicom profile, or is parsed. -/
def takeMap (a : Rc003) : Option Rc003 :=
  if a.mapBuf = unicomMap then
    some { a with unicom := { a.unicom with selected := true }, map := { inputs := unicomInputs } }
  else (hogpReportMapParse a.mapBuf).map fun map =>
    { a with unicom := { a.unicom with selected := false }, map }

end Rc003

namespace DiscWorld

variable {G : Type} (b : AdapterBuild) (client : GattClient G)

/-- The search for a service whose characteristics come next. -/
def onService (next : DiscState) (e : GattEvt) (w : DiscWorld G) : DiscWorld G :=
  match e with
  | .serviceFound first last => w.act fun a => { a with svcStart := first, svcEnd := last }
  | .procDone => if w.a.svcStart = 0 then handleOpFailure b client w else go b client next w
  | .serviceNotFound | .procError _ => handleOpFailure b client w
  | _ => w

/-- The search for a characteristic with the properties of `mask`, any if it is zero.  `set` keeps its
handle and `handle` is what was kept. -/
def onChar (mask : UInt8) (set : UInt16 → Rc003 → Rc003) (handle : Rc003 → UInt16) (next : DiscState)
    (e : GattEvt) (w : DiscWorld G) : DiscWorld G :=
  match e with
  | .charsFound value =>
    if 3 ≤ value.length ∧ (mask = 0 ∨ declares mask value = true) then w.act (set (declared value)) else w
  | .procDone => if handle w.a = 0 then handleOpFailure b client w else go b client next w
  | .procError _ => handleOpFailure b client w
  | _ => w

/-- The search for the client configuration of a characteristic. -/
def onCccd (set : UInt16 → Rc003 → Rc003) (handle : Rc003 → UInt16) (next : DiscState)
    (e : GattEvt) (w : DiscWorld G) : DiscWorld G :=
  match e with
  | .descFound h uuid => w.act (Rc003.foundCccd set h uuid)
  | .procDone => if handle w.a = 0 then handleOpFailure b client w else go b client next w
  | .procError _ => handleOpFailure b client w
  | _ => w

/-- A write whose completion starts the next state. -/
def onWrite (next : DiscState) (e : GattEvt) (w : DiscWorld G) : DiscWorld G :=
  match e with
  | .writeDone => go b client next w
  | .procError _ => handleOpFailure b client w
  | _ => w

/-- `ST_FIND_GATT_SVC`. -/
def onGattService (e : GattEvt) (w : DiscWorld G) : DiscWorld G :=
  match e with
  | .serviceFound first last => w.act fun a => { a with svcStart := first, svcEnd := last }
  | .procDone =>
    if w.a.svcStart ≠ 0 then go b client .findChangedChar w else handleOpFailure b client w
  | .serviceNotFound => handleOpFailure b client (w.act fun a => { a with cacheSafe := true })
  | .procError _ => handleOpFailure b client w
  | _ => w

/-- `ST_FIND_CHANGED_CHAR`; a database that never changes is safe to keep. -/
def onChangedChar (e : GattEvt) (w : DiscWorld G) : DiscWorld G :=
  match e with
  | .charsFound value =>
    if 3 ≤ value.length ∧ declares 0x20 value = true then
      w.act fun a => { a with serviceChangedHandle := declared value }
    else w
  | .procDone =>
    if w.a.serviceChangedHandle = 0 then
      handleOpFailure b client (w.act fun a => { a with cacheSafe := true })
    else go b client .discChangedDesc w
  | .procError _ => handleOpFailure b client w
  | _ => w

/-- `ST_FIND_HID_INFO`; there is one, and it can be read. -/
def onHidInfoChar (e : GattEvt) (w : DiscWorld G) : DiscWorld G :=
  match e with
  | .charsFound value =>
    if 3 ≤ value.length then
      if w.a.hidInfoHandle ≠ 0 ∨ declares 2 value = false then handleOpFailure b client w
      else w.act fun a => { a with hidInfoHandle := declared value }
    else w
  | .procDone =>
    if w.a.hidInfoHandle = 0 then handleOpFailure b client w else go b client .readHidInfo w
  | .procError _ => handleOpFailure b client w
  | _ => w

/-- `ST_READ_HID_INFO`. -/
def onHidInfo (e : GattEvt) (w : DiscWorld G) : DiscWorld G :=
  match e with
  | .readRsp value _ complete =>
    if complete = false ∨ value.length ≠ 4 ∨ value.getD 3 0 &&& 0xfc ≠ 0 then
      handleOpFailure b client w
    else
      go b client .findProtocolMode
        (w.act fun a => { a with hidFlags := value.getD 3 0, hidInfoValid := true })
  | .procError _ => handleOpFailure b client w
  | _ => w

/-- `ST_FIND_PROTOCOL_MODE`; the characteristic is optional. -/
def onModeChar (e : GattEvt) (w : DiscWorld G) : DiscWorld G :=
  match e with
  | .charsFound value =>
    if 3 ≤ value.length then
      if value.getD 0 0 &&& 6 ≠ 6 then failInitialization "protocol mode properties" w
      else w.act fun a => { a with protocolModeHandle := declared value }
    else w
  | .procDone =>
    if w.a.protocolModeHandle ≠ 0 then go b client .readProtocolMode w
    else go b client .findMapChar w
  | .procError _ => handleOpFailure b client w
  | _ => w

/-- `ST_READ_PROTOCOL_MODE` and `ST_VERIFY_PROTOCOL_MODE`. -/
def onMode (e : GattEvt) (w : DiscWorld G) : DiscWorld G :=
  match e with
  | .readRsp value _ _ =>
    if value.length ≠ 1 ∨ value.getD 0 0 > 1 ∨
        w.a.state = .verifyProtocolMode ∧ value.getD 0 0 ≠ 1 then
      failInitialization "protocol mode value" w
    else if value.getD 0 0 ≠ 1 then go b client .setProtocolMode w
    else if w.a.restoring then go b client w.a.afterMode w
    else go b client .findMapChar w
  | .procError _ => handleOpFailure b client w
  | _ => w

/-- A map that is complete in `ST_READ_MAP` or `ST_READ_MAP_CONT`. -/
def mapComplete (w : DiscWorld G) : DiscWorld G :=
  match w.a.takeMap with
  | none => handleOpFailure b client (w.act fun a => { a with
      unicom := { a.unicom with selected := false } })
  | some a =>
    let boot := Rc003.bootLayoutMap a.mapBuf
    let w := { w with a := { a with rc003BootLayout := boot } }
    if b.simulator = false ∧ boot = false ∧ a.unicom.selected = false then
      failInitialization "unsupported HID profile" w
    else go b client .enumReportChars (w.act fun a => { a with initWithoutSync := boot })

/-- `ST_READ_MAP` and `ST_READ_MAP_CONT`. -/
def onMap (e : GattEvt) (w : DiscWorld G) : DiscWorld G :=
  match e with
  | .readRsp value offset complete =>
    if value.length > hogpMaxMapSize - w.a.mapBuf.length ∨ offset.toNat ≠ w.a.mapBuf.length then
      handleOpFailure b client w
    else
      let w := w.act fun a => { a with mapBuf := a.mapBuf ++ value }
      if complete then mapComplete b client w
      else if w.a.mapLongStarted then w
      else go b client .readMapCont (w.act fun a => { a with mapLongStarted := true })
  | .procError _ => handleOpFailure b client w
  | _ => w

/-- `ST_ENUM_REPORT_CHARS`; surplus reports are ignored, except those of a Unicom remote. -/
def onReportChars (e : GattEvt) (w : DiscWorld G) : DiscWorld G :=
  match e with
  | .charsFound value =>
    if w.a.unicom.selected = true ∧ maxReportChars ≤ w.a.chars.length then
      failInitialization "too many reports" w
    else if 3 ≤ value.length then w.act (Rc003.foundReport value)
    else w
  | .procDone =>
    if w.a.chars = [] then handleOpFailure b client w
    else go b client .discDescs (w.act fun a => { a with curChar := 0 })
  | .procError _ => handleOpFailure b client w
  | _ => w

/-- The next characteristic, or the battery. -/
def goNextChar (w : DiscWorld G) : DiscWorld G :=
  if w.a.curChar + 1 < w.a.chars.length then
    go b client .discDescs (w.act fun a => { a with curChar := a.curChar + 1 })
  else go b client .findBatSvc w

/-- `ST_DISC_DESCS`. -/
def onDescs (e : GattEvt) (w : DiscWorld G) : DiscWorld G :=
  match e with
  | .descFound handle uuid => w.act (Rc003.foundDesc handle uuid)
  | .procDone =>
    if w.a.char.refHandle ≠ 0 then go b client .readReportRef w else goNextChar b client w
  | .procError _ => handleOpFailure b client w
  | _ => w

/-- `ST_READ_REPORT_REF`. -/
def onReportRef (e : GattEvt) (w : DiscWorld G) : DiscWorld G :=
  match e with
  | .readRsp value _ _ =>
    if value.length = 2 then
      go b client .subscribeReport (w.act (Rc003.modifyChar fun c => { c with
        reportId := value.getD 0 0, reportType := value.getD 1 0 }))
    else handleOpFailure b client w
  | .procError _ => handleOpFailure b client w
  | _ => w

/-- `ST_SUBSCRIBE_REPORT`. -/
def onSubscribed (e : GattEvt) (w : DiscWorld G) : DiscWorld G :=
  match e with
  | .writeDone => goNextChar b client (w.act (Rc003.modifyChar fun c => { c with subscribed := true }))
  | .procError _ => handleOpFailure b client w
  | _ => w

/-- `ST_DISC_BAT_DESCS`; the battery is optional. -/
def onBatteryDescs (e : GattEvt) (w : DiscWorld G) : DiscWorld G :=
  match e with
  | .descFound handle uuid =>
    w.act (Rc003.foundCccd (fun h a => { a with batCccdHandle := h }) handle uuid)
  | .procDone => go b client .readBattery w
  | .procError _ => go b client .findAtvvSvc w
  | _ => w

/-- `ST_READ_BATTERY`. -/
def onBattery (e : GattEvt) (w : DiscWorld G) : DiscWorld G :=
  match e with
  | .readRsp value _ _ =>
    if value.length = 1 ∧ value.getD 0 0 ≤ 100 then
      let w := w.tell (.battery (value.getD 0 0))
      if w.a.restoring then go b client .subscribeCtl w
      else if w.a.batCccdHandle ≠ 0 then go b client .subscribeBattery w
      else go b client .findAtvvSvc w
    else if w.a.restoring then handleOpFailure b client w
    else go b client .findAtvvSvc w
  | .procError _ =>
    if w.a.restoring then handleOpFailure b client w else go b client .findAtvvSvc w
  | _ => w

/-- `ST_SUBSCRIBE_BATTERY`. -/
def onBatterySub (e : GattEvt) (w : DiscWorld G) : DiscWorld G :=
  match e with
  | .writeDone | .procError _ => go b client .findAtvvSvc w
  | _ => w

/-- `ST_FIND_ATVV_SVC`. -/
def onAtvvService (e : GattEvt) (w : DiscWorld G) : DiscWorld G :=
  match e with
  | .serviceFound first last =>
    w.act fun a => { a with svcStart := first, svcEnd := last, atvvPresent := true }
  | .procDone => if w.a.atvvPresent then go b client .findAtvvTx w else handleOpFailure b client w
  | .serviceNotFound | .procError _ => handleOpFailure b client w
  | _ => w

/-- `ST_UNICOM_SERVICE`. -/
def onUnicomService (e : GattEvt) (w : DiscWorld G) : DiscWorld G :=
  match e with
  | .serviceFound first last =>
    if w.a.svcStart ≠ 0 then unicomBad "duplicate FD00" w
    else w.act fun a => { a with svcStart := first, svcEnd := last }
  | .procDone =>
    if w.a.svcStart ≠ 0 then go b client .unicomChar w else unicomBad "FD00 unavailable" w
  | .serviceNotFound | .procError _ => unicomBad "FD00 unavailable" w
  | _ => w

/-- `ST_UNICOM_CHAR`. -/
def onUnicomChar (e : GattEvt) (w : DiscWorld G) : DiscWorld G :=
  match e with
  | .charsFound value =>
    if value.length < 3 ∨ declares 0x10 value = false ∨ w.a.unicom.fd ≠ 0 then
      unicomBad "FD02 properties" w
    else w.act fun a => { a with unicom := { a.unicom with fd := declared value } }
  | .procDone =>
    if w.a.unicom.fd ≠ 0 then go b client .unicomDesc w else unicomBad "FD02 unavailable" w
  | .procError _ => unicomBad "FD02 unavailable" w
  | _ => w

/-- `ST_UNICOM_DESC`. -/
def onUnicomDesc (e : GattEvt) (w : DiscWorld G) : DiscWorld G :=
  match e with
  | .descFound handle uuid =>
    w.act (Rc003.foundCccd (fun h a => { a with unicom := { a.unicom with fdCccd := h } }) handle uuid)
  | .procDone =>
    if w.a.unicom.fdCccd ≠ 0 then go b client .unicomSub w else unicomBad "FD02 CCCD unavailable" w
  | .procError _ => unicomBad "FD02 CCCD unavailable" w
  | _ => w

/-- `ST_UNICOM_SUB`; nothing is submitted while the remote is waited for. -/
def onUnicomSub (e : GattEvt) (w : DiscWorld G) : DiscWorld G :=
  match e with
  | .writeDone =>
    let w := startOp .unicomWait w
    if w.a.unicom.hello then unicomReady w else w
  | .procError _ => unicomBad "FD02 subscribe failed" w
  | _ => w

/-- The `switch` of `rc003_adapter_on_gatt`. -/
def onState (e : GattEvt) (w : DiscWorld G) : DiscWorld G :=
  match w.a.state with
  | .unicomService => onUnicomService b client e w
  | .unicomChar => onUnicomChar b client e w
  | .unicomDesc => onUnicomDesc b client e w
  | .unicomSub => onUnicomSub e w
  | .mtu =>
    match e with
    | .mtuUpdated _ | .procError _ =>
      go b client (if w.a.restoring then w.a.afterMtu else .findGattSvc) w
    | _ => w
  | .findProtocolMode => onModeChar b client e w
  | .readProtocolMode | .verifyProtocolMode => onMode b client e w
  | .findGattSvc => onGattService b client e w
  | .findChangedChar => onChangedChar b client e w
  | .discChangedDesc =>
    onCccd b client (fun h a => { a with serviceChangedCccd := h }) (·.serviceChangedCccd)
      .subChanged e w
  | .discCtlDesc =>
    onCccd b client (fun h a => { a with atvvCtlCccd := h }) (·.atvvCtlCccd) .subscribeCtl e w
  | .discAudioDesc =>
    onCccd b client (fun h a => { a with atvvAudioCccd := h }) (·.atvvAudioCccd) .subscribeAudio e w
  | .subChanged =>
    match e with
    | .writeDone =>
      go b client (if w.a.restoring then w.a.afterChanged else .findHidSvc)
        (w.act fun a => { a with cacheSafe := true })
    | .procError _ => handleOpFailure b client w
    | _ => w
  | .findHidSvc => onService b client .findHidInfo e w
  | .findHidInfo => onHidInfoChar b client e w
  | .readHidInfo => onHidInfo b client e w
  | .findMapChar =>
    onChar b client 0 (fun h a => { a with mapValueHandle := h }) (·.mapValueHandle) .readMap e w
  | .readMap | .readMapCont => onMap b client e w
  | .enumReportChars => onReportChars b client e w
  | .discDescs => onDescs b client e w
  | .readReportRef => onReportRef b client e w
  | .subscribeReport => onSubscribed b client e w
  | .findBatSvc => onService b client .findBatChar e w
  | .findBatChar =>
    onChar b client 0 (fun h a => { a with batValueHandle := h }) (·.batValueHandle) .discBatDescs e w
  | .discBatDescs => onBatteryDescs b client e w
  | .readBattery => onBattery b client e w
  | .subscribeBattery => onBatterySub b client e w
  | .findAtvvSvc => onAtvvService b client e w
  | .findAtvvTx =>
    onChar b client 4 (fun h a => { a with atvvTxHandle := h }) (·.atvvTxHandle) .findAtvvCtl e w
  | .findAtvvCtl =>
    onChar b client 0x10 (fun h a => { a with atvvCtlHandle := h }) (·.atvvCtlHandle) .discCtlDesc e w
  | .subscribeCtl => onWrite b client (if w.a.restoring then .subscribeAudio else .findAtvvAudio) e w
  | .findAtvvAudio =>
    onChar b client 0x10 (fun h a => { a with atvvAudioHandle := h }) (·.atvvAudioHandle)
      .discAudioDesc e w
  | .subscribeAudio => onWrite b client .atvvPrehandshake e w
  | .atvvPrehandshake =>
    match e with
    | .procError _ => handleOpFailure b client w
    | _ => w
  | .unicomWait | .setProtocolMode | .idle | .done | .failed => w

/-- The service changed indication, which is taken even without a link. -/
def databaseChanged (w : DiscWorld G) : DiscWorld G :=
  let w := w.act fun a => { a with cacheValid := false, cacheSafe := false }
  if w.a.state = .idle ∨ w.a.state = .failed then w
  else failInitialization "GATT database changed" w

/-- A response gives its procedure more time. -/
def extend (e : GattEvt) (w : DiscWorld G) : DiscWorld G :=
  if e.extends then w.act fun a => { a with deadlineMs := a.nowMs + attResponseTimeoutMs } else w

/-- `rc003_adapter_on_gatt`, up to the notifications, which are left to `Heard`. -/
def onGatt (e : GattEvt) (w : DiscWorld G) : DiscWorld G :=
  if w.a.state = .idle ∨ w.a.state = .failed then w
  else
    match e with
    | .bearerFailed status =>
      let w := w.act fun a => { a with lastAttError := status }
      if status = attOutOfSync then failInitialization "GATT database out of sync" w
      else failTransport "ATT bearer failed" w
    | .procError status =>
      let w := w.act fun a => { a with lastAttError := status }
      if status = attOutOfSync then failInitialization "GATT database out of sync" w
      else onState b client e w
    | e => onState b client e (extend e w)

/-- `rc003_adapter_tick`, up to the engines of a voice that is ready. -/
def tick (nowMs : UInt32) (w : DiscWorld G) : DiscWorld G :=
  let w := w.act fun a => { a with nowMs }
  if w.a.state = .idle ∨ w.a.state = .failed then w
  else if w.a.unicom.selected = true ∧ w.a.state = .unicomWait then
    if w.a.unicom.hello = true ∨ passed nowMs w.a.deadlineMs = true then unicomReady w else w
  else if w.a.state = .done then w
  else if passed nowMs w.a.initDeadlineMs then failTransport "timeout total" w
  else if passed nowMs w.a.deadlineMs then
    if w.a.state = .atvvPrehandshake ∧ w.a.restoring = false then handleOpFailure b client w
    else failTransport "timeout" w
  else if w.a.retry then beginNext b client w
  else w

/-- The greeting of a Unicom remote, in `unicom_notify`. -/
def onHello (w : DiscWorld G) : DiscWorld G :=
  let heard := w.act fun a => { a with unicom := { a.unicom with hello := true } }
  if w.a.unicom.hello = false ∧ (w.a.state = .unicomWait ∨ w.a.state = .done) then unicomReady heard
  else heard

/-- What a notification or a voice engine can make of the adapter. -/
inductive Heard : DiscWorld G → DiscWorld G → Prop
  /-- Keys, audio, or a request of the remote. -/
  | quiet (w : DiscWorld G) (down search verified : Bool) :
    Heard w (w.act fun a => { a with
      voiceDownSeen := down, pendingSearch := search, voiceKeyVerified := verified })
  /-- The server hears something that is none of the adapter's state. -/
  | told (w : DiscWorld G) (t : DiscTold) : Heard w (w.tell t)
  /-- The service changed indication. -/
  | changed (w : DiscWorld G) : w.a.serviceChangedHandle ≠ 0 → Heard w (databaseChanged w)
  /-- A control message of the remote, with what the engine knows of the remote after it. -/
  | control (w : DiscWorld G) (capsValid : Bool) (interaction : UInt8) (sampleRate : UInt32) :
    w.a.state ≠ .idle → w.a.state ≠ .failed →
    Heard w (finishVoiceReady (w.act fun a => { a with capsValid, interaction, sampleRate }))
  /-- Capabilities that the engine does not accept. -/
  | refused (w : DiscWorld G) : w.a.state = .atvvPrehandshake → Heard w (handleOpFailure b client w)
  | hello (w : DiscWorld G) : w.a.unicom.selected = true → w.a.state ≠ .idle → w.a.state ≠ .failed →
    Heard w (onHello w)
  /-- A notification that does not fit the profile, or an engine that gives up. -/
  | failed (w : DiscWorld G) (cause : String) (invalidateCache : Bool) :
    w.a.state ≠ .idle → w.a.state ≠ .failed → Heard w (failInit cause invalidateCache w)

/-- The first state with the attributes of a cached peer; a Unicom remote needs no MTU beyond the least. -/
def restoredFirst (a : Rc003) : DiscState :=
  if b.attMtu = 23 ∧ a.unicom.selected = true then
    if a.serviceChangedCccd ≠ 0 then .subChanged
    else if a.protocolModeHandle ≠ 0 then .readProtocolMode
    else .unicomSub
  else .mtu

/-- The profile of the cached attributes. -/
def restoredProfile (a : Rc003) : ProductProfile :=
  if a.unicom.selected then .unicom else if a.voiceKeyVerified then .rc003Voice else .rc003

/-- `rc003_adapter_start_bound`, with an empty log. -/
def startBound (nowMs peerId : UInt32) (a : Rc003) (gatt : G) : DiscWorld G :=
  if peerId ≠ 0 ∧ a.cacheValid = true ∧ a.cachePeerId = peerId then
    let w : DiscWorld G :=
      { a := { a with restoring := true, nowMs, initDeadlineMs := nowMs + initTotalTimeoutMs }
        gatt
        log := [] }
    go b client (restoredFirst b a) (w.tell (.profile (restoredProfile a)))
  else
    let w : DiscWorld G :=
      { a := { nowMs, cachePeerId := peerId, initDeadlineMs := nowMs + initTotalTimeoutMs }
        gatt
        log := [] }
    go b client .mtu ((w.tell (.voiceCaps atvvCaps)).tell (.profile .rc003))

/-- One step of discovery: the GATT client answers, a notification comes, or time passes. -/
inductive Step : DiscWorld G → DiscWorld G → Prop
  | gatt (w : DiscWorld G) (e : GattEvt) : Step w (onGatt b client e w)
  | heard {w w' : DiscWorld G} : Heard b client w w' → Step w w'
  | tick (w : DiscWorld G) (nowMs : UInt32) : Step w (tick b client nowMs w)

/-- A run of steps. -/
abbrev Run : DiscWorld G → DiscWorld G → Prop := Relation.ReflTransGen (Step b client)

end DiscWorld

end RemoteBridge
