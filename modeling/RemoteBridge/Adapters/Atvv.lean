import RemoteBridge.Product.Server

/-!
# The ATVV engine

The voice engine of the RC003 adapter, `rc003_atvv.c`.  It talks to its sink through callbacks, and a
callback may ask the engine to start or to stop: the server does so when a stream faults or when nobody
wants it.  A sink answers a write, says whether voice is wanted, and in a callback makes any requests it
likes; what it does next depends on its own state.

The log keeps the callbacks and the audio notifications, the newest first.
-/

namespace RemoteBridge

def atvvMaxFrame : Nat := 512

def atvvOpenWaitMs : UInt32 := 5000

/-- `atvv_caps_t`; the version is always 1.0. -/
structure AtvvCaps where
  codecs : UInt8 := 0
  interaction : UInt8 := 0
  frameSize : Nat := 0
  requestDle : Bool := false
  deriving DecidableEq, Repr

/-- `rc003_atvv_t` without its sink. -/
structure Atvv where
  capsValid : Bool := false
  caps : AtvvCaps := {}
  sampleRate : UInt32 := 0
  announced : Bool := false
  codecConfig : List UInt8 := [0, 0, 0, 0]
  streamActive : Bool := false
  remoteStreamId : UInt8 := 0
  frameBytes : Nat := 0
  failed : Bool := false
  closing : Bool := false
  openPending : Bool := false
  openQueued : Bool := false
  closeQueued : Bool := false
  lastExtendMs : UInt32 := 0
  openDeadlineMs : UInt32 := 0
  frameNo : UInt16 := 0
  decoderReady : Bool := false
  sawSync : Bool := false
  lastAudioMs : UInt32 := 0
  nowMs : UInt32 := 0
  profileInitWithoutSync : Bool := false
  deriving DecidableEq, Repr

/-- `rbp_audio_format_t`, as far as the engine varies it. -/
structure AtvvFormat where
  sampleRate : UInt32
  config : List UInt8
  deriving DecidableEq, Repr

/-- A callback of the engine, or an audio notification that it takes. -/
inductive AtvvEv where
  | sourceBegin
  | started (format : AtvvFormat)
  | format (format : AtvvFormat)
  | encoded (data : List UInt8)
  | ended (reason : EndReason)
  | fault (reason : EndReason)
  | audio (data : List UInt8)
  deriving DecidableEq, Repr

inductive AtvvRequest where
  | start
  | stop
  deriving DecidableEq, Repr

/-- `rc003_atvv_sink_t`. -/
structure AtvvSink (E : Type) where
  writeTx : List UInt8 → E → Bool × E
  wantVoice : E → Bool
  callback : AtvvEv → E → List AtvvRequest × E

structure AtvvWorld (E : Type) where
  a : Atvv
  env : E
  log : List AtvvEv

variable {E : Type} (S : AtvvSink E)

namespace AtvvWorld

def act (f : Atvv → Atvv) (w : AtvvWorld E) : AtvvWorld E := { w with a := f w.a }

def note (e : AtvvEv) (w : AtvvWorld E) : AtvvWorld E := { w with log := e :: w.log }

/-- `write_tx`. -/
def write (data : List UInt8) (w : AtvvWorld E) : Bool × AtvvWorld E :=
  let r := S.writeTx data w.env
  (r.1, { w with env := r.2 })

end AtvvWorld

def atvvMicOpen : List UInt8 := [0x0c, 0x01]

def atvvMicClose (streamId : UInt8) : List UInt8 := [0x0d, streamId]

def atvvMicExtend (streamId : UInt8) : List UInt8 := [0x0e, streamId]

/-- `(int32_t)(now - deadline) >= 0`. -/
def reached (nowMs deadlineMs : UInt32) : Bool := decide ((nowMs - deadlineMs).toNat < 2 ^ 31)

/-! ## Requests -/

/-- `rc003_atvv_request_stop`. -/
def atvvRequestStop (w : AtvvWorld E) : Bool × AtvvWorld E :=
  if w.a.openPending && !w.a.streamActive then
    if w.a.openQueued then (true, w.act fun a => { a with openQueued := false, openPending := false })
    else (true, w.act fun a => { a with closing := true })
  else if !w.a.streamActive then (false, w)
  else if w.a.closing then (true, w)
  else
    let r := w.write S (atvvMicClose w.a.remoteStreamId)
    if r.1 then (true, r.2.act fun a => { a with closing := true, closeQueued := false })
    else
      (false, r.2.act fun a =>
        { a with
          openDeadlineMs := if a.closeQueued then a.openDeadlineMs else a.nowMs + 1000
          closeQueued := true })

/-- `rc003_atvv_request_start`. -/
def atvvRequestStart (w : AtvvWorld E) : Bool × AtvvWorld E :=
  if !w.a.capsValid || w.a.streamActive || w.a.openPending || !S.wantVoice w.env then (false, w)
  else
    let r := w.write S atvvMicOpen
    (true, r.2.act fun a =>
      { a with openQueued := !r.1, openPending := true, closing := false,
               openDeadlineMs := a.nowMs + atvvOpenWaitMs })

def AtvvRequest.run (w : AtvvWorld E) : AtvvRequest → AtvvWorld E
  | .start => (atvvRequestStart S w).2
  | .stop => (atvvRequestStop S w).2

/-- A callback, with the requests that the sink makes in it. -/
def AtvvWorld.call (e : AtvvEv) (w : AtvvWorld E) : AtvvWorld E :=
  let r := S.callback e w.env
  r.1.foldl (AtvvRequest.run S) { w with env := r.2, log := e :: w.log }

/-! ## Messages -/

/-- `fault`. -/
def atvvFault (reason : EndReason) (w : AtvvWorld E) : AtvvWorld E :=
  if w.a.failed then w
  else
    let w := w.act fun a => { a with failed := true, decoderReady := false }
    (atvvRequestStop S (w.call S (.fault reason))).2

/-- `announce_format`. -/
def announceFormat (w : AtvvWorld E) : AtvvWorld E :=
  let f : AtvvFormat := { sampleRate := w.a.sampleRate, config := w.a.codecConfig }
  if w.a.announced then w.call S (.format f)
  else (w.act fun a => { a with announced := true }).call S (.started f)

/-- `atvv_parse_caps`. -/
def atvvParseCaps (d : List UInt8) : Option AtvvCaps :=
  let byte := fun i => d.getD i 0
  let size := (byte 5).toNat * 256 + (byte 6).toNat
  if d.length < 9 || byte 0 != 0x0b || byte 1 != 1 || byte 2 != 0 then none
  else if byte 3 == 0 || (byte 3 &&& 0xfc) != 0 || (byte 4 != 0 && byte 4 != 1 && byte 4 != 3) ||
      size == 0 || decide (size > atvvMaxFrame) || (byte 7 &&& 0xfe) != 0 || byte 8 != 0 then none
  else
    some { codecs := byte 3, interaction := byte 4, frameSize := size,
           requestDle := (byte 7 &&& 1) != 0 }

/-- `codec_to_rate`. -/
def codecToRate (c : UInt8) : UInt32 := if c = 1 then 8000 else if c = 2 then 16000 else 0

/-- A codec is one of the two, and the caps name it. -/
def Atvv.negotiated (c : UInt8) (a : Atvv) : Bool := codecToRate c != 0 && (a.caps.codecs &&& c) != 0

/-- `ATVV_CAPS_RESP`. -/
def onCapsResp (d : List UInt8) (w : AtvvWorld E) : Bool × AtvvWorld E :=
  if w.a.streamActive then (false, w)
  else
    match atvvParseCaps d with
    | none => (false, w)
    | some caps =>
      (true, w.act fun a =>
        { a with caps := caps, capsValid := true,
                 sampleRate := if (caps.codecs &&& 2) != 0 then 16000 else 8000 })

/-- The fields of an `ATVV_AUDIO_START` fit the caps. -/
def Atvv.startFits (d : List UInt8) (a : Atvv) : Bool :=
  d.length == 4 && a.capsValid && a.negotiated (d.getD 2 0) &&
    (d.getD 1 0 == 0 || d.getD 1 0 == 1 || d.getD 1 0 == 3) &&
    (if d.getD 1 0 == 0 then d.getD 3 0 == 0 else d.getD 3 0 != 0 && decide (d.getD 3 0 ≤ 0x80)) &&
    (d.getD 1 0 == 0 || d.getD 1 0 == a.caps.interaction)

/-- The state of a new stream. -/
def Atvv.begin (d : List UInt8) (a : Atvv) : Atvv :=
  { a with
    streamActive := true, remoteStreamId := d.getD 3 0, frameNo := 0, frameBytes := 0
    sampleRate := codecToRate (d.getD 2 0), decoderReady := false, sawSync := false
    failed := false, closing := false, openPending := false, openQueued := false, closeQueued := false
    lastAudioMs := a.nowMs, lastExtendMs := a.nowMs, announced := false }

/-- `ATVV_AUDIO_START`. -/
def onAudioStart (d : List UInt8) (w : AtvvWorld E) : Bool × AtvvWorld E :=
  if w.a.streamActive then (false, atvvFault S .sourceDataLost w)
  else if !w.a.startFits d then (false, w)
  else
    let stopAfterOpen := w.a.closing && w.a.openPending
    let w := (w.act (Atvv.begin d)).call S .sourceBegin
    let w :=
      if w.a.profileInitWithoutSync then
        announceFormat S
          (w.act fun a => { a with codecConfig := [0, 0, 0, 0], decoderReady := true })
      else w
    (true, if stopAfterOpen then (atvvRequestStop S w).2 else w)

/-- `ATVV_AUDIO_SYNC`. -/
def onAudioSync (d : List UInt8) (w : AtvvWorld E) : Bool × AtvvWorld E :=
  if !w.a.streamActive || w.a.failed then (false, w)
  else if d.length != 7 || !w.a.negotiated (d.getD 1 0) || decide (d.getD 6 0 > 88) then
    (false, atvvFault S .invalidEncodedData w)
  else if (d.getD 2 0).toNat * 256 + (d.getD 3 0).toNat != w.a.frameNo.toNat || w.a.frameBytes != 0 then
    (false, atvvFault S .sourceDataLost w)
  else
    (true, announceFormat S (w.act fun a =>
      { a with codecConfig := [d.getD 5 0, d.getD 4 0, d.getD 6 0, 0], decoderReady := true,
               sawSync := true, sampleRate := codecToRate (d.getD 1 0) }))

/-- `ATVV_AUDIO_STOP`. -/
def onAudioStop (d : List UInt8) (w : AtvvWorld E) : Bool × AtvvWorld E :=
  if d.length != 2 || !w.a.streamActive then (false, w)
  else
    let code := d.getD 1 0
    let reason := if code == 0 || code == 2 || code == 4 then EndReason.normal else .deviceError
    (true, (w.act fun a =>
      { a with streamActive := false, decoderReady := false, closing := false,
               closeQueued := false }).call S (.ended reason))

/-- `ATVV_MIC_OPEN_ERROR`. -/
def onMicOpenError (d : List UInt8) (w : AtvvWorld E) : Bool × AtvvWorld E :=
  if d.length != 3 then (false, w)
  else
    let busy := (d.getD 1 0).toNat * 256 + (d.getD 2 0).toNat == 0x0f80
    if w.a.openPending && !w.a.streamActive then
      let w := w.act fun a => { a with openQueued := false }
      if busy then (true, w)
      else
        (true, (w.act fun a => { a with openPending := false, closing := false }).call S
          (.fault .deviceError))
    else
      let w := w.act fun a => { a with openPending := false, openQueued := false, closing := false }
      (true, if w.a.streamActive && !busy then atvvFault S .deviceError w else w)

/-- `rc003_atvv_on_control`. -/
def atvvOnControl (d : List UInt8) (w : AtvvWorld E) : Bool × AtvvWorld E :=
  match d with
  | [] => (false, w)
  | op :: _ =>
    if op = 0x0b then onCapsResp d w
    else if op = 0x04 then onAudioStart S d w
    else if op = 0x0a then onAudioSync S d w
    else if op = 0x00 then onAudioStop S d w
    else if op = 0x08 then if d.length = 1 then atvvRequestStart S w else (false, w)
    else if op = 0x0c then onMicOpenError S d w
    else (false, w)

/-- The frame counter after `len` more bytes. -/
def Atvv.count (len : Nat) (a : Atvv) : Atvv :=
  { a with
    lastAudioMs := a.nowMs
    frameNo := a.frameNo + UInt16.ofNat ((a.frameBytes + len) / a.caps.frameSize)
    frameBytes := (a.frameBytes + len) % a.caps.frameSize }

/-- `rc003_atvv_on_audio`. -/
def atvvOnAudio (d : List UInt8) (w : AtvvWorld E) : AtvvWorld E :=
  let w := w.note (.audio d)
  if !w.a.streamActive || w.a.failed then w
  else if d.length == 0 || decide (d.length > atvvMaxFrame) || !w.a.capsValid ||
      w.a.caps.frameSize == 0 then atvvFault S .invalidEncodedData w
  else if !w.a.decoderReady then atvvFault S .invalidEncodedData w
  else (w.act (Atvv.count d.length)).call S (.encoded d)

/-- The first part of `rc003_atvv_tick`: an open that was not answered in time. -/
def tickDeadline (nowMs : UInt32) (w : AtvvWorld E) : AtvvWorld E :=
  let w := w.act fun a => { a with nowMs := nowMs }
  if w.a.openPending && reached nowMs w.a.openDeadlineMs then
    (w.act fun a => { a with openPending := false, openQueued := false, closing := false }).call S
      (.fault .deviceError)
  else w

/-- The second part: an open whose write was rejected. -/
def tickOpen (w : AtvvWorld E) : AtvvWorld E :=
  if w.a.openQueued then
    let r := w.write S atvvMicOpen
    if r.1 then r.2.act fun a => { a with openQueued := false } else r.2
  else w

/-- `rc003_atvv_tick`. -/
def atvvTick (nowMs : UInt32) (w : AtvvWorld E) : Bool × AtvvWorld E :=
  let w := tickOpen S (tickDeadline S nowMs w)
  if w.a.closeQueued then
    if reached nowMs w.a.openDeadlineMs then
      (false, atvvFault S .deviceError (w.act fun a => { a with closeQueued := false }))
    else atvvRequestStop S w
  else if w.a.failed && w.a.streamActive && !w.a.closing then atvvRequestStop S w
  else if !w.a.streamActive || w.a.closing || w.a.failed then (false, w)
  else if nowMs - w.a.lastExtendMs ≥ 5000 then
    let r := w.write S (atvvMicExtend w.a.remoteStreamId)
    if r.1 then (true, r.2.act fun a => { a with lastExtendMs := nowMs }) else (false, r.2)
  else (false, w)

/-! ## Runs -/

/-- What the adapter calls. -/
inductive AtvvInput where
  | control (data : List UInt8)
  | audio (data : List UInt8)
  | tick (nowMs : UInt32)
  | request (r : AtvvRequest)
  deriving DecidableEq, Repr

def AtvvInput.run (w : AtvvWorld E) : AtvvInput → AtvvWorld E
  | .control d => (atvvOnControl S d w).2
  | .audio d => atvvOnAudio S d w
  | .tick nowMs => (atvvTick S nowMs w).2
  | .request r => r.run S w

/-- `rc003_atvv_init`, with a profile. -/
def atvvInit (profileInitWithoutSync : Bool) (env : E) : AtvvWorld E :=
  { a := { profileInitWithoutSync := profileInitWithoutSync }, env := env, log := [] }

/-- The engine after its inputs, with any sink. -/
def atvvRun (profileInitWithoutSync : Bool) (env : E) (inputs : List AtvvInput) : AtvvWorld E :=
  inputs.foldl (AtvvInput.run S) (atvvInit profileInitWithoutSync env)

end RemoteBridge
