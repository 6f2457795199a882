import RemoteBridge.Product.Voice

/-!
# Inputs from the radio, the adapter and the clock

The callbacks of `rbp_server.h` that are not about keys or voice, and `rbp_server_tick`.  Backend
functions call these synchronously, so each of them is written against a server that may be in the
middle of anything.
-/

namespace RemoteBridge

open World

variable {E : Type} (b : Build) (P : Platform E)

/-! ## Initialisation -/

/-- `rbp_server_init`; `loaded` is what the store has. -/
def Server.init (cfg : Config) (profile : Option DeviceProfile) (loaded : Option PeerRecord) :
    Server :=
  let device : Device := match loaded with
    | none => { profile := profile }
    | some rec => { profile := profile, peer := rec, peerValid := rec.peerId != 0,
                    linkState := if rec.peerId != 0 then .disconnected else .unbound }
  { cfg := { cfg with
      maxCaptureMs := if cfg.maxCaptureMs == 0 || cfg.maxCaptureMs > 120000 then 120000
        else cfg.maxCaptureMs
      maxKeys := if cfg.maxKeys == 0 || cfg.maxKeys > 64 then 64 else cfg.maxKeys }
    out := { mem := fun _ => 0, head := 0, len := 0 }
    rx := RxParser.init 0
    ctl := List.replicate b.ctlSlots {}
    device := device }

/-! ## The link -/

/-- `new_connection_id`, or the id that the radio proposes. -/
def Device.freshConnection (d : Device) (proposed : UInt32) : UInt32 × UInt32 :=
  if proposed != 0 then (proposed, d.connectionCounter)
  else if d.connectionCounter == 0xffffffff then (0, d.connectionCounter)
  else (d.connectionCounter + 1, d.connectionCounter + 1)

/-- A connection starts: the key state is forgotten. -/
def Server.connect (proposed : UInt32) (s : Server) : Server :=
  let fresh := s.device.freshConnection proposed
  { s with
    device := { s.device with
      connectionId := fresh.1, connectionCounter := fresh.2, linkMsg := copyName s.device.linkMsg 48 [] }
    keys := { s.keys with inputSeq := 0, pressedBits := 0, capturedUs := s.nowUs } }

/-- Whether a ready link has to wait for the pairing to complete. -/
def Server.readyWaits (state : LinkState) (s : Server) : Bool :=
  state = .ready && s.op.active && s.op.kind == some .pair

/-- The bookkeeping of `pair_ready_pending`. -/
def Server.notePairReady (state : LinkState) (s : Server) : Server :=
  let waits := s.readyWaits state
  { s with op := { s.op with
      pairReadyPending := (s.op.pairReadyPending || waits) && !(if waits then false else state.down) } }

def Server.setLink (state : LinkState) (s : Server) : Server :=
  { s with device := { s.device with linkState := state } }

def Server.disableEvents (s : Server) : Server := { s with keys := { s.keys with enabled := false } }

/-- The connection is gone. -/
def Server.linkDown (s : Server) : Server :=
  { s with
    device := { s.device with
      connectionId := 0, voiceState := .absent, voiceSampleRate := 0,
      voiceInteraction := .unavailable, battery := 255, charging := 0 }
    voice := { s.voice with
      sourceActive := false, stopRequested := false, waitingIdle := false, enabled := false } }

/-- The report that releases all keys when the link is lost. -/
def Server.lostKeys (s : Server) : KeysReport :=
  { kind := .reset, reason := .linkLost, pressedBits := 0, capturedUs := s.nowUs }

/-- What leaving `READY` does before the new state takes its effect. -/
def leaveReady (w : World E) : World E :=
  let w := if w.srv.voice.delivering then voiceFinishStream b P .linkLost true w else w
  (onKeys w.srv.lostKeys w).act Server.disableEvents

/-- A connection gets its id. -/
def World.connected (proposed : UInt32) (w : World E) : World E :=
  (w.act (Server.connect proposed)).note
    (.connected (w.srv.device.freshConnection proposed).1 w.srv)

/-- The id assignment of `rbp_server_on_link`; running out of ids turns into an error. -/
def connectIfNew (state : LinkState) (proposed : UInt32) (w : World E) : LinkState × World E :=
  if w.srv.device.connectionId == 0 && state.up then
    let id := (w.srv.device.freshConnection proposed).1
    (if id == 0 then .error else state, w.connected proposed)
  else (state, w)

/-- The rest of `rbp_server_on_link`, from the assignment of the new state on. -/
def enterLink (old state : LinkState) (ctxId : UInt32) (w : World E) : World E :=
  let w := w.act (Server.setLink state)
  let w := if old = .ready ∧ state ≠ .ready then leaveReady b P w else w
  let w := if state.down then w.act Server.linkDown else w
  sendDeviceState b P ctxId w

/-- `rbp_server_on_link`. -/
def onLink (state : LinkState) (proposed nowMs : UInt32) (w : World E) : World E :=
  let w := w.act (Server.setNow nowMs)
  let waits := w.srv.readyWaits state
  let w := w.act (Server.notePairReady state)
  let state := if waits then .initializing else state
  let old := w.srv.device.linkState
  let ctxId := w.srv.device.connectionId
  match connectIfNew state proposed w with
  | (state, w) => enterLink b P old state ctxId w

def Server.setLinkMessage (msg : List UInt8) (s : Server) : Server :=
  { s with device := { s.device with linkMsg := copyName s.device.linkMsg 48 msg } }

/-- `rbp_server_on_link_message`. -/
def onLinkMessage (msg : List UInt8) (w : World E) : World E := w.act (Server.setLinkMessage msg)

/-! ## Discovery and pairing -/

/-- A candidate that is reported again. -/
def Candidate.refresh (seen new : Candidate) : Candidate :=
  { seen with
    signal := new.signal
    support := if new.support > seen.support then new.support else seen.support
    name := if new.nameLen != 0 then copyName seen.name 48 new.name else seen.name
    nameLen := if new.nameLen != 0 then new.nameLen else seen.nameLen }

/-- The candidate list after a report. -/
def Find.addCandidate (cand : Candidate) (f : Find) : Find :=
  match f.cand.findIdx? (·.candidateId == cand.candidateId) with
  | some i => { f with cand := f.cand.modify i (·.refresh cand) }
  | none =>
    if f.cand.length ≥ maxCandidates then f
    else { f with cand := f.cand ++ [{ cand with name := copyName cand.name 48 cand.name }] }

/-- `rbp_server_on_scan_candidate`. -/
def onScanCandidate (cand : Candidate) (w : World E) : World E :=
  if !w.srv.find.active then w
  else w.act fun s => { s with find := s.find.addCandidate cand }

/-- The body of `FIND_DONE`. -/
def findDoneTlv (searchId : UInt32) (reason : UInt8) : List UInt8 :=
  tlvPutU8 2 reason (tlvPutU32 1 searchId [])

/-- The search is over; its candidates stay valid for a while. -/
def Server.endFind (endMs : UInt32) (s : Server) : Server :=
  { s with find := { s.find with active := false, valid := true, endMs := endMs } }

/-- `rbp_server_on_scan_done`. -/
def onScanDone (reason : UInt8) (nowMs : UInt32) (w : World E) : World E :=
  let w := w.act (Server.setNow nowMs)
  if !w.srv.find.active then w
  else
    let w := w.act (Server.endFind nowMs)
    ctlEnqueue b P kindEvent EventOp.findDone.code .ok 0 0 (findDoneTlv w.srv.find.searchId reason) w

/-- A draw of `rng_u32`, which is never zero. -/
def drawId (w : World E) : UInt32 × World E :=
  let r := P.rng w
  (if r.1 == 0 then 1 else r.1, { w with env := r.2 })

/-- The prompt is shown. -/
def Server.showPrompt (id : UInt32) (method : PromptMethod) (number remainingMs : UInt32) (s : Server) :
    Server :=
  { s with prompt := { s.prompt with
      active := true, id := id, method := method, number := number,
      expiryMs := s.nowMs + remainingMs } }

/-- The body of `PAIR_PROMPT`. -/
def promptTlv (opId promptId : UInt32) (method : PromptMethod) (number remainingMs : UInt32) :
    List UInt8 :=
  let w := tlvPutU8 3 method.code (tlvPutU32 2 promptId (tlvPutU32 1 opId []))
  let w := if method = .confirmNumber ∨ method = .displayPasskey then tlvPutU32 4 number w else w
  tlvPutU32 5 remainingMs w

/-- `rbp_server_on_pair_prompt`. -/
def onPairPrompt (method : PromptMethod) (number remainingMs : UInt32) (w : World E) : World E :=
  let s := w.srv
  if !s.op.active || s.op.kind != some .pair || s.prompt.cancelRequested then w
  else
    let left := s.op.deadlineMs - s.nowMs
    if left == 0 || left ≥ 0x80000000 then w
    else
      let remainingMs := if remainingMs > left then left else remainingMs
      match drawId P w with
      | (id, w) =>
        let w := w.act (Server.showPrompt id method number remainingMs)
        ctlEnqueue b P kindEvent EventOp.pairPrompt.code .ok 0 w.srv.op.connectionId
          (promptTlv w.srv.op.id id method number remainingMs) w

def Server.hidePrompt (s : Server) : Server := { s with prompt := { s.prompt with active := false } }

def Server.pairReported (s : Server) : Server :=
  { s with op := { s.op with pairReadyPending := false }, prompt := { s.prompt with active := false } }

def Server.setPeer (rec : PeerRecord) (s : Server) : Server :=
  { s with device := { s.device with peer := rec, peerValid := true, reconnectPaused := false } }

/-- The store half of `rbp_server_on_pair_done`: the status and whether the outcome is uncertain. -/
def commitPeer (status : Status) (peer : Option PeerRecord) (w : World E) :
    (Status × Bool) × World E :=
  if status ≠ .ok then ((status, false), w)
  else
    match peer with
    | none => ((.pairingFailed, false), w)
    | some rec =>
      if rec.peerId == 0 then ((.pairingFailed, false), w)
      else
        let committed := { rec with autoReconnect := true }
        let r := P.save committed w
        let w := { w with env := r.2 }
        if r.1 then ((.ok, false), w.act (Server.setPeer committed))
        else ((.storageFailed, true), w)

def Server.endOp (s : Server) : Server := { s with op := { s.op with active := false } }

/-- The operation half of `rbp_server_on_pair_done`. -/
def completePair (status : Status) (uncertain : Bool) (w : World E) : World E :=
  if w.srv.op.active && w.srv.op.kind == some .pair then
    let w := w.act Server.endOp
    let pid := if status = .ok ∧ w.srv.device.peerValid then w.srv.device.peer.peerId else 0
    opComplete b P w.srv.op.id status pid w.srv.device.connectionId uncertain w
  else w

/-- The link half of `rbp_server_on_pair_done`. -/
def publishPair (status : Status) (publishReady : Bool) (connectionId : UInt32) (w : World E) :
    World E :=
  if status = .ok then
    if publishReady then onLink b P .ready connectionId w.srv.nowMs w
    else if w.srv.device.linkState ≠ .ready then onLink b P .initializing connectionId w.srv.nowMs w
    else sendDeviceState b P w.srv.device.connectionId w
  else
    let w := w.act (Server.setLinkMessage (ascii "pairing failed"))
    onLink b P .error 0 w.srv.nowMs w

/-- `rbp_server_on_pair_done`. -/
def onPairDone (status : Status) (peerCommitted : Bool) (peer : Option PeerRecord)
    (connectionId : UInt32) (w : World E) : World E :=
  let publishReady := w.srv.op.pairReadyPending
  let status := if status = .ok ∧ peerCommitted = false then .storageFailed else status
  match commitPeer P status peer (w.act Server.pairReported) with
  | ((status, uncertain), w) =>
    publishPair b P status publishReady connectionId (completePair b P status uncertain w)

def Server.forgetPeer (s : Server) : Server :=
  { s with device := { s.device with
      peerValid := false, peer := { peerId := 0, name := [], autoReconnect := false } } }

/-- `rbp_server_on_forget_done`. -/
def onForgetDone (status : Status) (uncertain : Bool) (w : World E) : World E :=
  let r := if status = .ok then P.clear w else (true, w.env)
  let w := { w with env := r.2 }
  let uncertain := if r.1 then uncertain else true
  let status := if r.1 then status else .storageFailed
  let w := if status = .ok then
      onLink b P .unbound 0 w.srv.nowMs (w.act Server.forgetPeer)
    else w
  let w := if w.srv.op.active && w.srv.op.kind == some .forget then
      let w := w.act Server.endOp
      opComplete b P w.srv.op.id status 0 0 uncertain w
    else w
  if status ≠ .ok then sendDeviceState b P 0 w else w

/-- `rbp_server_on_peer_changed`. -/
def onPeerChanged (peer : PeerRecord) (w : World E) : World E :=
  w.act fun s =>
    { s with
      voice := { s.voice with
        resumePeer := if !s.device.peerValid || s.device.peer.peerId != peer.peerId then 0
          else s.voice.resumePeer }
      device := { s.device with peer := peer, peerValid := peer.peerId != 0 } }

/-- `rbp_server_on_battery`. -/
def onBattery (level charging : UInt8) (w : World E) : World E :=
  if w.srv.device.battery != level || w.srv.device.charging != charging then
    let w := w.act fun s => { s with device := { s.device with battery := level, charging := charging } }
    sendDeviceState b P w.srv.device.connectionId w
  else w

def Server.setProfile (profile : Option DeviceProfile) (s : Server) : Server :=
  { s with device := { s.device with profile := profile } }

/-- The device gets another profile. -/
def World.profiled (profile : Option DeviceProfile) (w : World E) : World E :=
  (w.act (Server.setProfile profile)).note (.profiled (w.srv.setProfile profile))

/-- `rbp_server_set_profile`. -/
def setProfile (profile : Option DeviceProfile) (w : World E) : World E :=
  if w.srv.device.profile = profile then w
  else
    let w := w.profiled profile
    sendDeviceState b P w.srv.device.connectionId w

/-- `rbp_server_set_voice_caps`. -/
def setVoiceCaps (caps : Option AudioCaps) (w : World E) : World E :=
  w.act fun s => { s with voice := { s.voice with caps := caps } }

/-- `rbp_server_adapter_failed`. -/
def adapterFailed (reason : List UInt8) (w : World E) : World E :=
  let w := w.act (Server.setLinkMessage reason)
  (invoke P .disconnect (onLink b P .error 0 w.srv.nowMs w)).1

def Server.clearOut (s : Server) : Server :=
  { s with out := { mem := s.out.mem, head := 0, len := 0 } }

/-- `rbp_server_on_usb_gone`. -/
def onUsbGone (nowMs : UInt32) (w : World E) : World E :=
  let w := sessionTeardown b P (w.act (Server.setNow nowMs))
  (w.act Server.clearOut).act Server.ctlClear

/-! ## Tick -/

def Server.setRx (rx : RxParser) (s : Server) : Server := { s with rx := rx }

/-- A half frame that is too old ends the session. -/
def tickRx (nowMs : UInt32) (w : World E) : World E :=
  let r := w.srv.rx.feed [] nowMs
  let w := w.act (Server.setRx r.2.2)
  if r.1 = some .timeout then sessionTeardown b P (w.act Server.protocolError) else w

def tickHeartbeat (nowMs : UInt32) (w : World E) : World E :=
  if w.srv.session.active && nowMs - w.srv.session.lastReqMs > heartbeatTimeoutMs then
    sessionTeardown b P w
  else w

def Server.expireFind (s : Server) : Server :=
  { s with find := { s.find with active := false, valid := true } }

def Server.dropCandidates (s : Server) : Server :=
  { s with find := { s.find with valid := false, cand := [] } }

def tickFind (nowMs : UInt32) (w : World E) : World E :=
  let w := if w.srv.find.active && timeReached nowMs w.srv.find.endMs then
      let w := (invoke P .stopFind (w.act Server.expireFind)).1
      ctlEnqueue b P kindEvent EventOp.findDone.code .ok 0 0
        (findDoneTlv w.srv.find.searchId FindDone.expired.code) w
    else w
  if w.srv.find.valid && !w.srv.find.active && nowMs - w.srv.find.endMs > candidateTtlMs then
    w.act Server.dropCandidates
  else w

def tickPrompt (nowMs : UInt32) (w : World E) : World E :=
  if w.srv.prompt.active && timeReached nowMs w.srv.prompt.expiryMs then
    requestPairCancel P (w.act Server.hidePrompt)
  else w

def tickOp (nowMs : UInt32) (w : World E) : World E :=
  if w.srv.op.active && timeReached nowMs w.srv.op.deadlineMs then
    let result : Status := if w.srv.op.kind = some .forget then .storageFailed else .timeout
    let w := w.act Server.endOp
    let w := if w.srv.op.kind = some .pair then requestPairCancel P w else w
    opComplete b P w.srv.op.id result w.srv.op.peerId w.srv.op.connectionId true w
  else w

def Server.countVoiceError (s : Server) : Server :=
  { s with stats := s.stats.count .voiceErrors }

/-- The source did not stop in time. -/
def Server.stopOverdue (nowMs : UInt32) (s : Server) : Server :=
  { s with
    voice := { s.voice with stopDeadlineMs := nowMs + voiceStopMs, enabled := false }
    stats := s.stats.count .voiceErrors
    device := { s.device with voiceState := .failed } }

def Server.limitCapture (s : Server) : Server :=
  { s with voice := { s.voice with captureLimited := true } }

/-- The supervision of the voice source. -/
def tickSource (nowMs : UInt32) (w : World E) : World E :=
  let v := w.srv.voice
  if !v.sourceActive then w
  else if v.stopRequested && timeReached nowMs v.stopDeadlineMs then
    let w := voiceFinishStream b P .deviceError true (w.act (Server.stopOverdue nowMs))
    let w := sendDeviceState b P w.srv.device.connectionId w
    (invoke P .disconnect w).1
  else if !v.stopRequested && timeReached nowMs v.captureDeadlineMs then
    (invoke P .voiceRequestStop ((w.act Server.limitCapture).act Server.requestStop)).1
  else if !v.stopRequested then
    if !v.gotAudioThisStream && timeReached nowMs v.firstAudioDeadline then
      voiceFault b P .deviceError w
    else if v.gotAudioThisStream && timeReached nowMs v.progressDeadline then
      let w := voiceFinishStream b P .deviceError true (w.act Server.countVoiceError)
      (invoke P .voiceRequestStop (w.act Server.requestStop)).1
    else w
  else w

/-- The body of a `VOICE_ENABLE` reply. -/
def voiceEnableTlv (enabled waiting : Bool) : List UInt8 :=
  tlvPutBool 2 waiting (tlvPutBool 1 enabled [])

def Server.clearDeferred (s : Server) : Server := { s with voice := { s.voice with okDeferred := none } }

/-- The deferred reply is due once the stream it waits for is gone. -/
def tickDeferred (w : World E) : World E :=
  match w.srv.voice.okDeferred with
  | none => w
  | some d =>
    if w.srv.session.active && !w.srv.voice.delivering && w.srv.voice.media.length == 0 then
      let payload := if d.isEnable then voiceEnableTlv false false else []
      (ctlEnqueue b P kindResponse d.opcode .ok d.requestId d.connectionId payload w).act
        Server.clearDeferred
    else w

/-- `rbp_server_tick`. -/
def tick (nowMs : UInt32) (w : World E) : World E :=
  let w := tickRx b P nowMs (w.act (Server.setNow nowMs))
  let w := tickHeartbeat b P nowMs w
  let w := tickFind b P nowMs w
  let w := tickPrompt P nowMs w
  let w := tickOp b P nowMs w
  let w := tickSource b P nowMs w
  flushOutput b P (tickDeferred b P w)

end RemoteBridge
