import RemoteBridge.Product.Output

/-!
# Device state and voice delivery

`send_device_state`, `op_complete` and the voice half of `rbp_server.c`: one stream at a time is cut
into media items, and the server keeps two sets of counters, what it has queued (`source*`) and what it
has handed to the ring (`delivered*`).  A stream that ends in order gets its `ENDED` behind everything
queued; one that is cut loses its queued fragments and gets an `ENDED` with the delivered counts.
-/

namespace RemoteBridge

open World

variable {E : Type} (b : Build) (P : Platform E)

/-! ## Device state and operations -/

/-- The profile that `DEVICE_STATE` describes. -/
def Device.shownProfile (d : Device) : Option DeviceProfile :=
  if d.linkState = .ready then d.profile else none

/-- Tag 16 of the device information. -/
def Device.condition (d : Device) : Status :=
  if d.linkState = .error ∨ d.voiceState = .failed then .deviceError
  else if d.voiceState = .unsupported then .voiceUnavailable
  else .ok

/-- `device_info_tlv`. -/
def Server.deviceInfoTlv (s : Server) : List UInt8 :=
  let d := s.device
  let p := d.shownProfile
  let w := tlvPutU32 1 d.connectionId []
  let w := tlvPutU32 2 (if d.peerValid then d.peer.peerId else 0) w
  let w := tlvPutU8 3 d.linkState.code w
  let w := tlvPutText 4 (p.elim [] (·.modelId)) w
  let w := tlvPutText 5 (p.elim (if d.peerValid then d.peer.name else []) (·.displayName)) w
  let w := tlvPutU32 6 (p.elim 0 (·.catalogRevision)) w
  let w := tlvPutU8 7 (p.elim 0 fun p => UInt8.ofNat p.keys.length) w
  let w := tlvPutU8 8 d.voiceState.code w
  let w := tlvPutU32 9 (if d.voiceState = .ready then d.voiceSampleRate else 0) w
  let w := tlvPutU8 10 d.battery w
  let w := tlvPutU8 11 d.charging w
  let w := tlvPutBool 12 s.voice.enabled w
  let w := tlvPutBool 13 s.voice.delivering w
  let w := tlvPutU32 14 (if s.voice.delivering then s.voice.streamId else 0) w
  let w := tlvPutBool 15 s.voice.waitingIdle w
  let w := tlvPutU16 16 d.condition.code w
  let w := if cText d.linkMsg = [] then w else tlvPutText 17 (cText d.linkMsg) w
  let w := tlvPutU8 18 d.voiceInteraction.code w
  tlvPutU32 19 (if d.voiceState ≠ .absent then s.cfg.maxCaptureMs else 0) w

/-- The slot of a `DEVICE_STATE`. -/
def Server.deviceSlot (s : Server) (connCtx : UInt32) : CtlSlot :=
  s.ctlSlotFor kindEvent EventOp.deviceState.code .ok 0 connCtx s.deviceInfoTlv

/-- `send_device_state`. -/
def sendDeviceState (connCtx : UInt32) (w : World E) : World E :=
  ctlEnqueue b P kindEvent EventOp.deviceState.code .ok 0 connCtx w.srv.deviceInfoTlv w

/-- The ring of finished operations keeps the newest four. -/
def Operation.pushDone (d : OpDone) (op : Operation) : Operation :=
  { op with done := (if op.done.length < maxOperationResults then op.done else op.done.tail) ++ [d] }

/-- The body of an operation event or reply. -/
def operationTlv (opId : UInt32) (completed : Bool) (result : Status) (peerId connectionId : UInt32)
    (uncertain : Bool) : List UInt8 :=
  tlvPutBool 6 uncertain (tlvPutU32 5 connectionId (tlvPutU32 4 peerId (tlvPutU16 3 result.code
    (tlvPutU8 2 (if completed then 1 else 0) (tlvPutU32 1 opId [])))))

/-- The body of the event of a finished operation. -/
def OpDone.tlv (d : OpDone) : List UInt8 :=
  operationTlv d.opId true d.result d.peerId d.connectionId d.uncertain

/-- An operation is completed. -/
def World.complete (d : OpDone) (w : World E) : World E :=
  (w.act fun s => { s with op := s.op.pushDone d }).note (.completed d w.srv)

/-- `op_complete`. -/
def opComplete (opId : UInt32) (result : Status) (peerId connectionId : UInt32) (uncertain : Bool)
    (w : World E) : World E :=
  let entry : OpDone := { opId := opId, result := result, peerId := peerId,
                          connectionId := connectionId, uncertain := uncertain }
  ctlEnqueue b P kindEvent EventOp.operation.code .ok 0 connectionId entry.tlv (w.complete entry)

/-! ## Media items -/

/-- The codec pairs in a list of six-byte entries. -/
def codecPairs : List UInt8 → List Codec
  | c0 :: c1 :: c2 :: c3 :: r0 :: r1 :: rest =>
    { id := get32 [c0, c1, c2, c3] 0, revision := get16 [r0, r1] 0 } :: codecPairs rest
  | _ => []

/-- `codec_accepted`. -/
def Server.codecAccepted (s : Server) (f : AudioFormat) : Bool :=
  f.codecId != 0 && decide (f.codecId < 0x80000000) && f.codecRevision != 0 && f.sampleRate != 0 &&
    decide (f.sampleRate ≤ 384000) && f.channels != 0 && decide (f.channels ≤ 8) &&
    decide (f.config.length ≤ audioConfigMax) && f.maxUnitBytes != 0 &&
    decide (f.maxUnitBytes ≤ s.voice.acceptedMaxUnit) &&
    s.voice.caps.any (fun caps => decide (f.maxUnitBytes ≤ caps.maxUnitBytes) &&
      decide ({ id := f.codecId, revision := f.codecRevision } ∈ caps.codecs)) &&
    decide ({ id := f.codecId, revision := f.codecRevision } ∈ codecPairs s.voice.acceptedCodecs)

/-- Whether a media item of `len` bytes has no place. -/
def Server.mediaFull (s : Server) (len : Nat) : Bool :=
  decide (s.voice.media.length ≥ b.mediaDepth) || decide (b.audioPool - s.voice.audioLen < len)

def Server.mediaItem (s : Server) (op : EventOp) (payload : List UInt8) : MediaItem :=
  { stream := s.voice.streamId, connection := s.voice.streamConnection, order := s.nextOrder,
    opcode := op, payload := payload }

def Server.putMedia (item : MediaItem) (s : Server) : Server :=
  { s with voice := { s.voice with media := s.voice.media ++ [item] }, orderCounter := s.nextOrder }

/-- A media item is queued. -/
def World.pushMedia (op : EventOp) (payload : List UInt8) (w : World E) : World E :=
  (w.act (Server.putMedia (w.srv.mediaItem op payload))).note
    (.media (w.srv.mediaItem op payload) w.srv.voice.acceptedCodecs w.srv.voice.acceptedMaxUnit)

/-- `media_enqueue`: a full queue is flushed once. -/
def mediaEnqueue (op : EventOp) (payload : List UInt8) (w : World E) : Bool × World E :=
  let w := if w.srv.mediaFull b payload.length then flushOutput b P w else w
  if !w.srv.session.active || w.srv.mediaFull b payload.length then (false, w)
  else (true, w.pushMedia op payload)

/-- `media_discard_current`. -/
def Server.mediaDiscardCurrent (s : Server) : Server :=
  { s with voice := { s.voice with
      media := s.voice.media.filter fun m =>
        !(m.stream == s.voice.streamId && m.opcode != .voiceStarted) } }

/-- The body of `VOICE_ENDED`. -/
def Server.endTlv (s : Server) (reason : EndReason) (cut : Bool) : List UInt8 :=
  let v := s.voice
  let w := tlvPutU32 1 v.streamId []
  let w := tlvPutU8 2 reason.code w
  let w := tlvPutU64 3 (if cut then v.deliveredBytes else v.sourceBytes) w
  let w := tlvPutU64 4 s.nowUs w
  let w := tlvPutU32 5 (if cut then v.deliveredUnits else v.sourceUnits) w
  let w := tlvPutU64 6 (if cut then v.deliveredSamples else v.sourceSamples) w
  tlvPutU32 7 (if cut then v.deliveredEpoch else v.epoch) w

/-- The stream after its `ENDED` was queued: a cut stream is gone, a draining one is ending. -/
def Server.endQueued (cut : Bool) (s : Server) : Server :=
  if cut then { s with voice := { s.voice with delivering := false, ending := false, streamId := 0 } }
  else { s with voice := { s.voice with ending := true } }

/-- The part of `voice_finish_stream` behind its checks. -/
def finishStream (reason : EndReason) (cut : Bool) (w : World E) : World E :=
  let w := if cut then w.act Server.mediaDiscardCurrent else w
  match mediaEnqueue b P .voiceEnded (w.srv.endTlv reason cut) w with
  | (false, w) => sessionTeardown b P w
  | (true, w) => w.act (Server.endQueued cut)

/-- `voice_finish_stream`. -/
def voiceFinishStream (reason : EndReason) (clearPending : Bool) (w : World E) : World E :=
  if !w.srv.voice.delivering then w
  else if !clearPending && w.srv.voice.unitOffset != 0 then finishStream b P .invalidEncodedData true w
  else if w.srv.voice.ending && !clearPending then w
  else finishStream b P reason clearPending w

def Server.requestStop (s : Server) : Server :=
  { s with voice := { s.voice with stopRequested := true, stopDeadlineMs := s.nowMs + voiceStopMs } }

def Server.countFault (reason : EndReason) (s : Server) : Server :=
  let st := s.stats.count .voiceErrors
  { s with stats := if reason = .bufferOverrun then st.count .voiceOverruns else st }

/-- Voice is withdrawn after a fault without a stream, or with an unsupported format. -/
def Server.voiceLost (reason : EndReason) (s : Server) : Server :=
  { s with
    voice := { s.voice with resumePeer := 0, enabled := false }
    device := { s.device with
      voiceState := if reason = .unsupportedFormat then .unsupported else .failed } }

/-- `voice_fault`. -/
def voiceFault (reason : EndReason) (w : World E) : World E :=
  let hadStream := w.srv.voice.delivering
  let w := voiceFinishStream b P reason true (w.act (Server.countFault reason))
  let w := if w.srv.voice.sourceActive && !w.srv.voice.stopRequested then
      (invoke P .voiceRequestStop (w.act Server.requestStop)).1
    else w
  if reason = .unsupportedFormat ∨ hadStream = false then
    let w := w.act (Server.voiceLost reason)
    sendDeviceState b P w.srv.device.connectionId w
  else w

/-- The body of `VOICE_STARTED` and `VOICE_FORMAT`. -/
def Server.formatTlv (s : Server) (f : AudioFormat) (start : Bool) : List UInt8 :=
  let v := s.voice
  let w := tlvPutU32 1 v.streamId []
  let w := tlvPutU32 2 (if start then 1 else v.epoch + 1) w
  let w := tlvPutU32 3 f.codecId w
  let w := tlvPutU16 4 f.codecRevision w
  let w := tlvPutU32 5 f.sampleRate w
  let w := tlvPutU8 6 f.channels w
  let w := tlvPutBytes 7 f.config w
  let w := tlvPutU32 8 f.maxUnitBytes w
  let w := tlvPutU64 9 v.sourceSamples w
  let w := tlvPutU64 10 (if start then v.sourceStartedMs.toUInt64 * 1000 else s.nowUs) w
  tlvPutU32 11 (v.sourceUnits + 1) w

/-- The stream enters the epoch of a queued format. -/
def Server.formatQueued (f : AudioFormat) (epoch : UInt32) (s : Server) : Server :=
  { s with voice := { s.voice with epoch := epoch, formatMaxUnit := f.maxUnitBytes } }

/-- `queue_format`. -/
def queueFormat (f : AudioFormat) (start : Bool) (w : World E) : Bool × World E :=
  if !w.srv.codecAccepted f then (false, voiceFault b P .unsupportedFormat w)
  else if w.srv.voice.unitOffset != 0 || w.srv.voice.epoch == 0xffffffff then
    (false, voiceFault b P .sourceDataLost w)
  else
    let epoch := if start then 1 else w.srv.voice.epoch + 1
    match mediaEnqueue b P (if start then .voiceStarted else .voiceFormat) (w.srv.formatTlv f start) w with
    | (false, w) => (false, w)
    | (true, w) => (true, w.act (Server.formatQueued f epoch))

/-! ## Voice events -/

/-- `rbp_voice_evt_t`. -/
inductive VoiceEvt where
  | sourceBegin
  | start (f : AudioFormat)
  | encoded (data : List UInt8) (unitSize offset samples : UInt32)
  | format (f : AudioFormat)
  | fault (reason : EndReason)
  | endOfStream (reason : EndReason)

/-- The physical source starts. -/
def Server.sourceBegin (nowMs : UInt32) (s : Server) : Server :=
  { s with voice := { s.voice with
      sourceActive := true
      sourceStartedMs := nowMs
      gotAudioThisStream := false
      firstAudioDeadline := nowMs + voiceFirstAudioMs
      progressDeadline := nowMs + voiceProgressMs
      captureDeadlineMs := nowMs + s.cfg.maxCaptureMs
      stopRequested := false
      captureLimited := false } }

/-- A stream gets its identity. -/
def Server.openStream (s : Server) : Server :=
  { s with voice := { s.voice with
      streamId := s.voice.nextStreamId + 1
      nextStreamId := s.voice.nextStreamId + 1
      streamConnection := s.device.connectionId
      frameSeq := 0
      epoch := 0
      sourceUnits := 0
      deliveredUnits := 0
      unitOffset := 0
      sourceBytes := 0
      deliveredBytes := 0
      sourceSamples := 0
      deliveredSamples := 0
      deliveredEpoch := 1
      delivering := true
      ending := false } }

/-- A stream whose `STARTED` could not be queued never existed. -/
def Server.dropStream (s : Server) : Server :=
  { s with voice := { s.voice with delivering := false, streamId := 0 } }

def Server.setSampleRate (rate : UInt32) (s : Server) : Server :=
  { s with device := { s.device with voiceSampleRate := rate } }

def Server.countOverrun (s : Server) : Server :=
  { s with stats := s.stats.count .voiceOverruns }

/-- The `START` branch of `rbp_server_on_voice`. -/
def onVoiceStart (f : AudioFormat) (nowMs : UInt32) (w : World E) : World E :=
  let w := w.act (Server.setSampleRate f.sampleRate)
  if !w.srv.voice.sourceActive then voiceFault b P .invalidEncodedData w
  else if !w.srv.voice.enabled || !w.srv.session.active || w.srv.voice.waitingIdle then
    (invoke P .voiceRequestStop (w.act fun s => { s with voice := { s.voice with
      stopRequested := true, stopDeadlineMs := nowMs + voiceStopMs } })).1
  else
    let w := if w.srv.voice.delivering then
        voiceFinishStream b P .bufferOverrun true (w.act Server.countOverrun)
      else w
    if !w.srv.codecAccepted f then voiceFault b P .unsupportedFormat w
    else if w.srv.voice.nextStreamId == 0xffffffff then sessionTeardown b P w
    else
      match queueFormat b P f true (w.act Server.openStream) with
      | (true, w) => w
      | (false, w) => voiceFault b P .bufferOverrun (w.act Server.dropStream)

/-- The `FORMAT` branch. -/
def onVoiceFormat (f : AudioFormat) (w : World E) : World E :=
  let w := w.act (Server.setSampleRate f.sampleRate)
  if w.srv.voice.delivering && !w.srv.voice.ending then
    match queueFormat b P f false w with
    | (true, w) => w
    | (false, w) => if w.srv.voice.delivering then voiceFault b P .bufferOverrun w else w
  else w

/-- The payload of one `VOICE_DATA`. -/
def Server.dataPayload (s : Server) (size samples : UInt32) (data : List UInt8) : List UInt8 :=
  let v := s.voice
  put32 v.streamId ++ put32 (v.frameSeq + 1) ++ put32 v.epoch ++ put32 (v.sourceUnits + 1) ++
    put32 size ++ put32 v.unitOffset ++ put64 v.sourceSamples ++ put32 samples ++ put32 0 ++ data

/-- The counters after a fragment of `take` bytes was queued. -/
def Server.dataQueued (size samples : UInt32) (take : Nat) (s : Server) : Server :=
  let v := { s.voice with
    frameSeq := s.voice.frameSeq + 1
    sourceBytes := s.voice.sourceBytes + UInt64.ofNat take
    unitOffset := s.voice.unitOffset + UInt32.ofNat take }
  if v.unitOffset == size then
    { s with voice := { v with
        unitOffset := 0
        sourceUnits := v.sourceUnits + 1
        sourceSamples := sampleAdd v.sourceSamples samples } }
  else { s with voice := v }

/-- The fragment loop of the `ENCODED` branch; every turn takes at least one byte. -/
def encodedLoop (size samples : UInt32) : Nat → List UInt8 → World E → World E
  | 0, _, w => w
  | fuel + 1, data, w =>
    if data = [] || !w.srv.voice.delivering then w
    else if w.srv.voice.frameSeq == 0xffffffff then voiceFault b P .invalidEncodedData w
    else
      let fragment := data.take 256
      match mediaEnqueue b P .voiceData (w.srv.dataPayload size samples fragment) w with
      | (false, w) => voiceFault b P .bufferOverrun w
      | (true, w) =>
        encodedLoop size samples fuel (data.drop 256)
          (w.act (Server.dataQueued size samples fragment.length))

/-- Whether a report continues the open unit, or starts one. -/
def Voice.continues (v : Voice) (data : List UInt8) (size offset samples : UInt32) : Bool :=
  data != [] && size != 0 && offset == v.unitOffset && decide (offset ≤ size) &&
    decide (data.length ≤ (size - offset).toNat) &&
    (offset == 0 || (size == v.unitSize && samples == v.unitSamples)) &&
    v.sourceUnits != 0xffffffff

def Server.audioSeen (nowMs : UInt32) (s : Server) : Server :=
  { s with voice := { s.voice with
      gotAudioThisStream := true, progressDeadline := nowMs + voiceProgressMs } }

def Server.setUnit (size samples : UInt32) (s : Server) : Server :=
  { s with voice := { s.voice with unitSize := size, unitSamples := samples } }

/-- The `ENCODED` branch. -/
def onVoiceEncoded (data : List UInt8) (size offset samples nowMs : UInt32) (w : World E) : World E :=
  if !w.srv.voice.sourceActive then w
  else
    let w := w.act (Server.audioSeen nowMs)
    if !w.srv.voice.delivering || w.srv.voice.ending then w
    else if size > w.srv.voice.formatMaxUnit then voiceFault b P .unsupportedFormat w
    else if !w.srv.voice.continues data size offset samples then voiceFault b P .invalidEncodedData w
    else encodedLoop b P size samples data.length data (w.act (Server.setUnit size samples))

/-- The reason an `END` is reported with. -/
def Voice.endReason (v : Voice) (reason : EndReason) : EndReason :=
  if reason = .normal ∧ v.captureLimited then .captureLimit
  else if v.stopRequested ∧ reason = .normal then .requestedStop
  else reason

def Server.sourceEnd (s : Server) : Server :=
  { s with voice := { s.voice with sourceActive := false, waitingIdle := false } }

def Server.setNow (nowMs : UInt32) (s : Server) : Server := { s with nowMs := nowMs }

/-- `rbp_server_on_voice`. -/
def onVoice (ev : VoiceEvt) (nowMs : UInt32) (w : World E) : World E :=
  let w := w.act (Server.setNow nowMs)
  match ev with
  | .sourceBegin => w.act (Server.sourceBegin nowMs)
  | .start f => onVoiceStart b P f nowMs w
  | .format f => onVoiceFormat b P f w
  | .encoded data size offset samples => onVoiceEncoded b P data size offset samples nowMs w
  | .fault reason => voiceFault b P reason (w.note (.fault reason))
  | .endOfStream reason =>
    let w := w.act Server.sourceEnd
    let reason := w.srv.voice.endReason reason
    voiceFinishStream b P reason (!reason.drains) w

/-- Whether an earlier `VOICE_ENABLE` still fits the device that became ready. -/
def Server.canResumeVoice (s : Server) : Bool :=
  s.session.active && s.device.peerValid && s.voice.resumePeer == s.device.peer.peerId &&
    !s.device.reconnectPaused &&
    s.voice.caps.any fun caps => decide (s.voice.acceptedMaxUnit ≥ caps.maxUnitBytes) &&
      (codecPairs s.voice.acceptedCodecs).any fun c => decide (c ∈ caps.codecs)

/-- The new voice state; voice is lost with it unless it is `READY`. -/
def Server.setVoiceState (state : VoiceState) (interaction : VoiceInteraction) (rate : UInt32)
    (s : Server) : Server :=
  { s with
    device := { s.device with
      voiceState := state, voiceInteraction := interaction, voiceSampleRate := rate }
    voice := { s.voice with enabled := s.voice.enabled && state = .ready } }

/-- An earlier `VOICE_ENABLE` is taken up again. -/
def Server.resumeVoice (s : Server) : Server :=
  { s with voice := { s.voice with enabled := true, waitingIdle := s.voice.sourceActive } }

/-- The state changes of `rbp_server_on_voice_state`. -/
def Server.applyVoiceState (state : VoiceState) (interaction : VoiceInteraction) (rate : UInt32)
    (s : Server) : Server :=
  let s := s.setVoiceState state interaction rate
  if state = .ready && s.canResumeVoice then s.resumeVoice else s

/-- `rbp_server_on_voice_state`. -/
def onVoiceState (state : VoiceState) (interaction : VoiceInteraction) (rate : UInt32)
    (w : World E) : World E :=
  let d := w.srv.device
  if d.voiceState ≠ state ∨ d.voiceSampleRate ≠ rate ∨ d.voiceInteraction ≠ interaction then
    let w := w.act (Server.applyVoiceState state interaction rate)
    sendDeviceState b P w.srv.device.connectionId w
  else w

end RemoteBridge
