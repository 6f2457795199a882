import RemoteBridge.Framework.Ring
import RemoteBridge.Protocol.Tlv
import RemoteBridge.Board.Store

/-!
# The state of the product server

The data of `rbp_server.c`, grouped as the comments of `struct rbp_server` group it, and the world the
server runs in.

Queues are lists: the key queue and the media queue with the payload of each item beside its marker
(the source keeps media payloads in one pool; `Voice.audioLen` is the pool's fill).  The control queue
is the array of slots it is in the source, because a free slot is reused in place and `GOODBYE`
addresses slot 0.  The output ring is the ring of `Framework/Ring.lean`.  Pointers that the server only
tests and follows (profile, voice capabilities) are optional values.  Debug builds (`RBP_DEBUG`) and
traces are left out.

A `World` is the server, the state of everything else, and a log of what happened.  The log is ghost
data: no function reads it.
-/

namespace RemoteBridge

/-! ## Constants -/

/-- The buffer sizes that are chosen per build target. -/
structure Build where
  outRing : Nat
  audioPool : Nat
  ctlSlots : Nat
  ctlBytes : Nat
  mediaDepth : Nat
  outRing_pos : 0 < outRing

/-- The defaults of `rbp_server.c`. -/
def Build.default : Build where
  outRing := 2048
  audioPool := 2048
  ctlSlots := 6
  ctlBytes := 6 * 512
  mediaDepth := 16
  outRing_pos := by decide

def heartbeatTimeoutMs : UInt32 := 5000

def candidateTtlMs : UInt32 := 60000

def pairDeadlineMs : UInt32 := 60000

def forgetDeadlineMs : UInt32 := 5000

def voiceStopMs : UInt32 := 2000

def voiceFirstAudioMs : UInt32 := 5000

def voiceProgressMs : UInt32 := 2000

/-- `CTL_FLUSH_BURST`. -/
def ctlFlushBurst : Nat := 4

/-- `RBP_KEY_QUEUE_DEPTH`. -/
def keyQueueDepth : Nat := 8

/-- `RBP_MAX_CANDIDATES`. -/
def maxCandidates : Nat := 8

/-- `RBP_MAX_OPERATION_RESULTS`. -/
def maxOperationResults : Nat := 4

/-- `RBP_AUDIO_CONFIG_MAX`. -/
def audioConfigMax : Nat := 256

/-- `RBP_AUDIO_UNIT_MAX`. -/
def audioUnitMax : UInt32 := 65536

/-- `RBP_AUDIO_DATA_HEADER`. -/
def audioDataHeader : Nat := 40

/-! ## Enumerations of `defs.h` -/

inductive Status where
  | ok
  | accepted
  | invalidArgument
  | unsupported
  | badState
  | busy
  | notFound
  | timeout
  | pairingFailed
  | linkLost
  | storageFailed
  | resourceLimit
  | cancelled
  | duplicate
  | sessionMismatch
  | deviceError
  | voiceUnavailable
  | versionMismatch
  deriving DecidableEq, Repr

def Status.code : Status → UInt16
  | .ok => 0
  | .accepted => 1
  | .invalidArgument => 2
  | .unsupported => 3
  | .badState => 4
  | .busy => 5
  | .notFound => 6
  | .timeout => 7
  | .pairingFailed => 8
  | .linkLost => 9
  | .storageFailed => 10
  | .resourceLimit => 11
  | .cancelled => 12
  | .duplicate => 13
  | .sessionMismatch => 14
  | .deviceError => 15
  | .voiceUnavailable => 16
  | .versionMismatch => 17

/-- The opcodes of requests. -/
inductive RequestOp where
  | hello
  | ping
  | getDevice
  | getPeer
  | getOperation
  | getStats
  | goodbye
  | findStart
  | findList
  | findStop
  | pairBegin
  | pairReply
  | pairCancel
  | forgetPeer
  | setReconnect
  | connectPeer
  | disconnect
  | keyCatalog
  | keysSnapshot
  | eventsEnable
  | voiceEnable
  | voiceStop
  | getVoiceCaps
  | voiceStart
  deriving DecidableEq, Repr

namespace RequestOp

def code : RequestOp → UInt16
  | .hello => 0x0001
  | .ping => 0x0002
  | .getDevice => 0x0003
  | .getPeer => 0x0004
  | .getOperation => 0x0005
  | .getStats => 0x0006
  | .goodbye => 0x0007
  | .findStart => 0x0100
  | .findList => 0x0101
  | .findStop => 0x0102
  | .pairBegin => 0x0110
  | .pairReply => 0x0111
  | .pairCancel => 0x0112
  | .forgetPeer => 0x0113
  | .setReconnect => 0x0114
  | .connectPeer => 0x0115
  | .disconnect => 0x0116
  | .keyCatalog => 0x0200
  | .keysSnapshot => 0x0201
  | .eventsEnable => 0x0202
  | .voiceEnable => 0x0300
  | .voiceStop => 0x0301
  | .getVoiceCaps => 0x0302
  | .voiceStart => 0x0303

/-- The requests `dispatch_request` knows. -/
def all : List RequestOp :=
  [.hello, .ping, .getDevice, .getPeer, .getOperation, .getStats, .goodbye, .findStart, .findList,
   .findStop, .pairBegin, .pairReply, .pairCancel, .forgetPeer, .setReconnect, .connectPeer,
   .disconnect, .keyCatalog, .keysSnapshot, .eventsEnable, .voiceEnable, .voiceStop, .getVoiceCaps,
   .voiceStart]

def ofCode (c : UInt16) : Option RequestOp := all.find? (·.code == c)

end RequestOp

/-- The opcodes of events. -/
inductive EventOp where
  | findDone
  | pairPrompt
  | operation
  | deviceState
  | keysState
  | voiceStarted
  | voiceData
  | voiceEnded
  | voiceFormat
  deriving DecidableEq, Repr

def EventOp.code : EventOp → UInt16
  | .findDone => 0x0180
  | .pairPrompt => 0x0181
  | .operation => 0x0182
  | .deviceState => 0x0183
  | .keysState => 0x0280
  | .voiceStarted => 0x0380
  | .voiceData => 0x0381
  | .voiceEnded => 0x0382
  | .voiceFormat => 0x0383

/-- `rbp_link_state_t`. -/
inductive LinkState where
  | unbound
  | disconnected
  | connecting
  | pairing
  | initializing
  | ready
  | unsupported
  | error
  deriving DecidableEq, Repr

namespace LinkState

def code : LinkState → UInt8
  | .unbound => 0
  | .disconnected => 1
  | .connecting => 2
  | .pairing => 3
  | .initializing => 4
  | .ready => 5
  | .unsupported => 6
  | .error => 7

/-- The states with a link, or with one on its way. -/
def up : LinkState → Bool
  | .connecting | .pairing | .initializing | .ready => true
  | _ => false

/-- The states that end a connection. -/
def down : LinkState → Bool
  | .disconnected | .unbound | .error | .unsupported => true
  | _ => false

end LinkState

inductive VoiceState where
  | absent
  | initializing
  | ready
  | unsupported
  | failed
  deriving DecidableEq, Repr

def VoiceState.code : VoiceState → UInt8
  | .absent => 0
  | .initializing => 1
  | .ready => 2
  | .unsupported => 3
  | .failed => 4

inductive VoiceInteraction where
  | unavailable
  | onRequest
  | ptt
  | htt
  deriving DecidableEq, Repr

def VoiceInteraction.code : VoiceInteraction → UInt8
  | .unavailable => 0
  | .onRequest => 1
  | .ptt => 2
  | .htt => 3

inductive PromptMethod where
  | confirmPair
  | enterPasskey
  | confirmNumber
  | displayPasskey
  deriving DecidableEq, Repr

def PromptMethod.code : PromptMethod → UInt8
  | .confirmPair => 0
  | .enterPasskey => 1
  | .confirmNumber => 2
  | .displayPasskey => 3

inductive FindDone where
  | expired
  | userStop
  | pairTakeover
  deriving DecidableEq, Repr

def FindDone.code : FindDone → UInt8
  | .expired => 0
  | .userStop => 1
  | .pairTakeover => 2

inductive KeysKind where
  | snapshot
  | physical
  | reset
  deriving DecidableEq, Repr

def KeysKind.code : KeysKind → UInt8
  | .snapshot => 0
  | .physical => 1
  | .reset => 2

inductive KeysReason where
  | none
  | linkLost
  | overflow
  | adapterError
  deriving DecidableEq, Repr

def KeysReason.code : KeysReason → UInt8
  | .none => 0
  | .linkLost => 1
  | .overflow => 2
  | .adapterError => 3

/-- The reasons of `VOICE_ENDED`. -/
inductive EndReason where
  | normal
  | consumerDisabled
  | linkLost
  | bufferOverrun
  | invalidEncodedData
  | sourceDataLost
  | deviceError
  | requestedStop
  | captureLimit
  | unsupportedFormat
  deriving DecidableEq, Repr

namespace EndReason

def code : EndReason → UInt8
  | .normal => 0
  | .consumerDisabled => 1
  | .linkLost => 2
  | .bufferOverrun => 3
  | .invalidEncodedData => 4
  | .sourceDataLost => 5
  | .deviceError => 6
  | .requestedStop => 7
  | .captureLimit => 8
  | .unsupportedFormat => 9

/-- The reasons after which the queue is drained and not cut. -/
def drains : EndReason → Bool
  | .normal | .requestedStop | .captureLimit => true
  | _ => false

end EndReason

/-- `OPK_PAIR` and `OPK_FORGET`. -/
inductive OpKind where
  | pair
  | forget
  deriving DecidableEq, Repr

/-! ## Records -/

/-- `rbp_device_profile_t`; a key is its id and name. -/
structure DeviceProfile where
  modelId : List UInt8
  displayName : List UInt8
  catalogRevision : UInt32
  keys : List (UInt16 × List UInt8)
  deriving DecidableEq, Repr

/-- `rbp_codec_t`. -/
structure Codec where
  id : UInt32
  revision : UInt16
  deriving DecidableEq, Repr

/-- `rbp_audio_caps_t`. -/
structure AudioCaps where
  codecs : List Codec
  maxUnitBytes : UInt32
  deriving DecidableEq, Repr

/-- `rbp_audio_format_t`. -/
structure AudioFormat where
  codecId : UInt32
  sampleRate : UInt32
  maxUnitBytes : UInt32
  codecRevision : UInt16
  channels : UInt8
  config : List UInt8
  deriving DecidableEq, Repr

/-- `rbp_candidate_t`; `name` is the 48-byte buffer. -/
structure Candidate where
  candidateId : UInt32
  support : UInt8
  signal : UInt8
  name : List UInt8
  nameLen : UInt8
  deriving DecidableEq, Repr

/-- `rbp_keys_report_t`. -/
structure KeysReport where
  kind : KeysKind
  reason : KeysReason
  pressedBits : UInt64
  capturedUs : UInt64
  deriving DecidableEq, Repr

/-- `ctl_slot_t`, with the payload it points to. -/
structure CtlSlot where
  used : Bool := false
  kind : UInt8 := 0
  status : UInt16 := 0
  opcode : UInt16 := 0
  requestId : UInt32 := 0
  connectionId : UInt32 := 0
  session : UInt32 := 0
  payload : List UInt8 := []
  order : UInt32 := 0
  deriving DecidableEq, Repr

/-- The fields of the 24-byte key structure of a `key_item_t`. -/
structure KeyItem where
  inputSeq : UInt32
  capturedUs : UInt64
  bits : UInt64
  kind : KeysKind
  reason : KeysReason
  order : UInt32
  connection : UInt32
  deriving DecidableEq, Repr

/-- The bytes of the key structure. -/
def KeyItem.buf (it : KeyItem) : List UInt8 :=
  put32 it.inputSeq ++ put64 it.capturedUs ++ put64 it.bits ++ [it.kind.code, it.reason.code, 0, 0]

/-- `media_marker_t` with its payload. -/
structure MediaItem where
  stream : UInt32
  connection : UInt32
  order : UInt32
  opcode : EventOp
  payload : List UInt8
  deriving DecidableEq, Repr

/-- One entry of `ops_done`. -/
structure OpDone where
  opId : UInt32
  result : Status
  peerId : UInt32
  connectionId : UInt32
  uncertain : Bool
  deriving DecidableEq, Repr

/-! ## The server -/

/-- The fields of the configuration that are values. -/
structure Config where
  maxKeys : UInt16
  maxCaptureMs : UInt32
  bridgeUid : List UInt8
  firmwareVersion : Option (List UInt8)
  resetReason : UInt16
  /-- Whether the backend has a `voice_request_start`. -/
  hasVoiceStart : Bool
  deriving DecidableEq, Repr

structure Session where
  active : Bool := false
  id : UInt32 := 0
  counter : UInt32 := 0
  nextTxSeq : UInt32 := 0
  lastReqMs : UInt32 := 0
  reqHwm : UInt32 := 0
  haveClientSeq : Bool := false
  clientTxHwm : UInt32 := 0
  deriving DecidableEq, Repr

structure Operation where
  active : Bool := false
  pairReadyPending : Bool := false
  id : UInt32 := 0
  kind : Option OpKind := none
  deadlineMs : UInt32 := 0
  peerId : UInt32 := 0
  connectionId : UInt32 := 0
  done : List OpDone := []
  deriving DecidableEq, Repr

structure Find where
  active : Bool := false
  valid : Bool := false
  searchId : UInt32 := 0
  endMs : UInt32 := 0
  cand : List Candidate := []
  deriving DecidableEq, Repr

structure Prompt where
  active : Bool := false
  cancelRequested : Bool := false
  id : UInt32 := 0
  method : PromptMethod := .confirmPair
  number : UInt32 := 0
  expiryMs : UInt32 := 0
  deriving DecidableEq, Repr

structure Device where
  linkState : LinkState := .unbound
  connectionId : UInt32 := 0
  connectionCounter : UInt32 := 0
  peer : PeerRecord := { peerId := 0, name := [], autoReconnect := false }
  peerValid : Bool := false
  battery : UInt8 := 255
  charging : UInt8 := 0
  voiceState : VoiceState := .absent
  voiceInteraction : VoiceInteraction := .unavailable
  voiceSampleRate : UInt32 := 0
  reconnectPaused : Bool := false
  linkMsg : List UInt8 := []
  profile : Option DeviceProfile := none
  deriving DecidableEq, Repr

structure Keys where
  enabled : Bool := false
  pressedBits : UInt64 := 0
  inputSeq : UInt32 := 0
  capturedUs : UInt64 := 0
  queue : List KeyItem := []
  deriving DecidableEq, Repr

/-- The saved reply of a deferred `VOICE_ENABLE`. -/
structure DeferredOk where
  opcode : UInt16
  requestId : UInt32
  connectionId : UInt32
  isEnable : Bool
  deriving DecidableEq, Repr

structure Voice where
  enabled : Bool := false
  denied : Bool := false
  resumePeer : UInt32 := 0
  waitingIdle : Bool := false
  streamId : UInt32 := 0
  nextStreamId : UInt32 := 0
  frameSeq : UInt32 := 0
  deliveredSamples : UInt64 := 0
  deliveredBytes : UInt64 := 0
  sourceSamples : UInt64 := 0
  sourceBytes : UInt64 := 0
  deliveredUnits : UInt32 := 0
  deliveredEpoch : UInt32 := 0
  sourceUnits : UInt32 := 0
  epoch : UInt32 := 0
  unitOffset : UInt32 := 0
  unitSize : UInt32 := 0
  unitSamples : UInt32 := 0
  formatMaxUnit : UInt32 := 0
  sourceStartedMs : UInt32 := 0
  caps : Option AudioCaps := none
  acceptedMaxUnit : UInt32 := 0
  acceptedCodecs : List UInt8 := []
  delivering : Bool := false
  ending : Bool := false
  streamConnection : UInt32 := 0
  stopRequested : Bool := false
  stopDeadlineMs : UInt32 := 0
  captureLimited : Bool := false
  captureDeadlineMs : UInt32 := 0
  okDeferred : Option DeferredOk := none
  media : List MediaItem := []
  sourceActive : Bool := false
  firstAudioDeadline : UInt32 := 0
  progressDeadline : UInt32 := 0
  gotAudioThisStream : Bool := false
  deriving DecidableEq, Repr

/-- The fill of the audio pool. -/
def Voice.audioLen (v : Voice) : Nat := (v.media.map (·.payload.length)).sum

/-- What `GET_STATS` counts. -/
inductive Counter where
  | protocolErrors
  | inputResets
  | voiceOverruns
  | voiceErrors
  deriving DecidableEq, Repr

/-- The counters, and the events they have counted, newest first, which the code does not keep. -/
structure Stats where
  protocolErrors : UInt32 := 0
  inputResets : UInt32 := 0
  voiceOverruns : UInt32 := 0
  voiceErrors : UInt32 := 0
  counted : List Counter := []
  deriving DecidableEq, Repr

namespace Stats

/-- `++` on a counter. -/
def count (c : Counter) (st : Stats) : Stats :=
  let st := { st with counted := c :: st.counted }
  match c with
  | .protocolErrors => { st with protocolErrors := st.protocolErrors + 1 }
  | .inputResets => { st with inputResets := st.inputResets + 1 }
  | .voiceOverruns => { st with voiceOverruns := st.voiceOverruns + 1 }
  | .voiceErrors => { st with voiceErrors := st.voiceErrors + 1 }

/-- What a counter shows. -/
def value (c : Counter) (st : Stats) : UInt32 :=
  match c with
  | .protocolErrors => st.protocolErrors
  | .inputResets => st.inputResets
  | .voiceOverruns => st.voiceOverruns
  | .voiceErrors => st.voiceErrors

/-- Some events are counted. -/
def Grows (st st' : Stats) : Prop := ∃ cs : List Counter, st' = cs.foldr count st

@[simp] lemma Grows.refl (st : Stats) : st.Grows st := ⟨[], rfl⟩

lemma Grows.trans {st st' st'' : Stats} (h : st.Grows st') (h' : st'.Grows st'') : st.Grows st'' := by
  obtain ⟨cs, rfl⟩ := h
  obtain ⟨cs', rfl⟩ := h'
  exact ⟨cs' ++ cs, (List.foldr_append ..).symm⟩

@[simp] lemma Grows.count (c : Counter) (st : Stats) : st.Grows (st.count c) := ⟨[c], rfl⟩

end Stats

/-- `struct rbp_server`. -/
structure Server where
  cfg : Config
  nowMs : UInt32 := 0
  orderCounter : UInt32 := 0
  out : Ring UInt8
  rx : RxParser
  ctl : List CtlSlot
  ctlUsed : Nat := 0
  session : Session := {}
  op : Operation := {}
  find : Find := {}
  prompt : Prompt := {}
  device : Device := {}
  keys : Keys := {}
  voice : Voice := {}
  stats : Stats := {}

/-! ## The world -/

/-- The calls of `rbp_radio_backend_t`. -/
inductive BackendCall where
  | startFind (durationMs : UInt16)
  | stopFind
  | pairBegin (candidateId : UInt32)
  | pairReply (accept : Bool) (passkey : Option UInt32)
  | pairCancel
  | forgetPeer
  | connectPeer
  | disconnect
  | voiceRequestStop
  | voiceRequestStart
  deriving DecidableEq, Repr

/-- Where a frame came from. -/
inductive Origin where
  | ctl (slot : CtlSlot)
  | key (item : KeyItem)
  | media (item : MediaItem)

/-- What the log records. -/
inductive Ev where
  /-- A request passed the checks of `process_frame` on state `s`. -/
  | request (h : Header) (payload : List UInt8) (s : Server)
  /-- A reply of `len` bytes to the frame with header `h` is about to be queued on state `s`. -/
  | answers (h : Header) (len : Nat) (s : Server)
  /-- The reply to the request with header `h` is kept for later. -/
  | deferred (h : Header) (s : Server)
  /-- `EVENTS_ENABLE(true)` or `PAIR_BEGIN` is granted on state `s` and queues frames with payloads of
  the given lengths before it goes on. -/
  | granted (lens : List Nat) (s : Server)
  /-- An operation is begun for the request `h` on state `s`. -/
  | begun (kind : OpKind) (h : Header) (s : Server)
  /-- An operation is completed on state `s`. -/
  | completed (d : OpDone) (s : Server)
  /-- A backend function is called on state `s`. -/
  | called (c : BackendCall) (s : Server)
  /-- A control frame is queued on state `s`. -/
  | queued (slot : CtlSlot) (s : Server)
  /-- `rbp_server_on_keys` is entered on state `s`. -/
  | keys (rep : KeysReport) (s : Server)
  /-- A media item is queued under the given codec set and unit limit. -/
  | media (item : MediaItem) (codecs : List UInt8) (maxUnit : UInt32)
  /-- The adapter reports a voice fault. -/
  | fault (reason : EndReason)
  /-- `EVENTS_ENABLE(true)` is answered on state `s` and goes on to its snapshot. -/
  | subscribed (s : Server)
  /-- A connection gets its id. -/
  | connected (id : UInt32) (s : Server)
  /-- The device gets another profile, with state `s`. -/
  | profiled (s : Server)
  /-- `rbp_server_flush_output` is entered on state `s`. -/
  | flush (s : Server)
  /-- A frame is written to the output ring. -/
  | emitted (origin : Origin) (h : Header) (payload : List UInt8)
  /-- A reply to a `HELLO` of another version is written to the output ring. -/
  | refused (h : Header) (payload : List UInt8)
  /-- `out()` accepts bytes. -/
  | sent (bytes : List UInt8)
  /-- A session is created. -/
  | opened (id : UInt32) (s : Server)
  /-- A session, if there is one, is torn down on state `s`. -/
  | closed (s : Server)
  /-- `GOODBYE` has torn the session of `s` down, restored the output and goes on with `s'`. -/
  | parted (s s' : Server)

/-- The server, everything around it, and what happened so far, newest first. -/
structure World (E : Type) where
  srv : Server
  env : E
  log : List Ev

namespace World

variable {E : Type}

/-- Change the server. -/
def act (f : Server → Server) (w : World E) : World E := { w with srv := f w.srv }

/-- Record an event. -/
def note (e : Ev) (w : World E) : World E := { w with log := e :: w.log }

@[simp] lemma srv_act (f : Server → Server) (w : World E) : (w.act f).srv = f w.srv := rfl

@[simp] lemma log_act (f : Server → Server) (w : World E) : (w.act f).log = w.log := rfl

@[simp] lemma env_act (f : Server → Server) (w : World E) : (w.act f).env = w.env := rfl

@[simp] lemma srv_note (e : Ev) (w : World E) : (w.note e).srv = w.srv := rfl

@[simp] lemma log_note (e : Ev) (w : World E) : (w.note e).log = e :: w.log := rfl

@[simp] lemma env_note (e : Ev) (w : World E) : (w.note e).env = w.env := rfl

end World

/-- What the server is wired to.  A backend function may report synchronously: it returns the world
after whatever it reported, with its status. -/
structure Platform (E : Type) where
  call : BackendCall → World E → World E × Status
  /-- How many of the offered bytes `out()` accepts. -/
  out : World E → List UInt8 → Nat
  out_le : ∀ w bytes, out w bytes ≤ bytes.length
  save : PeerRecord → World E → Bool × E
  clear : World E → Bool × E
  rng : World E → UInt32 × E
  /-- The fault records that `GET_STATS` reports. -/
  faults : World E → List UInt8 × UInt32 × UInt32

end RemoteBridge
