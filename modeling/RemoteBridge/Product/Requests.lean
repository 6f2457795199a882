import RemoteBridge.Product.Inputs

/-!
# Requests

`process_frame`, `handle_hello` and `dispatch_request`, with one definition for each request.  A handler
that queues its reply before it changes the server, or calls the backend in between, does so here in
the same order: the session it serves may be gone by the time it continues.
-/

namespace RemoteBridge

open World

variable {E : Type} (b : Build) (P : Platform E)

/-! ## Replies -/

/-- A reply to the request with header `h`. -/
def reply (h : Header) (status : Status) (payload : List UInt8) (w : World E) : World E :=
  ctlEnqueue b P kindResponse h.opcode status h.requestId h.connectionId payload
    (w.note (.answers h payload.length w.srv))

/-- The body of an error reply; one that does not fit its buffer is sent empty. -/
def errorTlv (msg : Option (List UInt8)) (uncertain : Bool) : List UInt8 :=
  let w := msg.elim [] fun m => tlvPutText 1 m []
  let w := if uncertain then tlvPutBool 2 true w else w
  if w.length ≤ 144 then w else []

/-- `respond_error`. -/
def respondError (h : Header) (status : Status) (msg : Option (List UInt8)) (w : World E) : World E :=
  reply b P h status (errorTlv msg false) w

/-- `respond_error` with a text. -/
def respondText (h : Header) (status : Status) (msg : String) (w : World E) : World E :=
  respondError b P h status (some (ascii msg)) w

/-- `conn_ready_for`. -/
def Server.connReadyFor (s : Server) (h : Header) : Bool :=
  s.device.linkState = .ready && h.connectionId != 0 && h.connectionId == s.device.connectionId

/-- The status for a request whose connection is not ready. -/
def Server.notReadyStatus (s : Server) : Status :=
  if s.device.linkState = .ready then .badState else .linkLost

/-! ## Receiver requests -/

def handlePing (h : Header) (payload : List UInt8) (w : World E) : World E :=
  match required (tlvGetU32 payload 1) with
  | none => respondText b P h .invalidArgument "cookie required" w
  | some cookie => reply b P h .ok (tlvPutU64 2 w.srv.nowUs (tlvPutU32 1 cookie [])) w

def handleGetDevice (h : Header) (w : World E) : World E := reply b P h .ok w.srv.deviceInfoTlv w

def handleGetPeer (h : Header) (w : World E) : World E :=
  let d := w.srv.device
  let p := tlvPutU32 1 (if d.peerValid then d.peer.peerId else 0) []
  let p := tlvPutText 2 (if d.peerValid then d.peer.name else []) p
  reply b P h .ok (tlvPutBool 3 (d.peerValid && d.peer.autoReconnect) p) w

def handleGetOperation (h : Header) (payload : List UInt8) (w : World E) : World E :=
  match required (tlvGetU32 payload 1) with
  | none => respondText b P h .invalidArgument "operation_id required" w
  | some opId =>
    let op := w.srv.op
    if op.active && op.id == opId then
      reply b P h .ok (operationTlv opId false .accepted op.peerId op.connectionId false) w
    else
      match op.done.find? (·.opId == opId) with
      | some d => reply b P h .ok (operationTlv opId true d.result d.peerId d.connectionId d.uncertain) w
      | none => respondError b P h .notFound none w

def handleGetStats (h : Header) (w : World E) : World E :=
  let st := w.srv.stats
  match P.faults w with
  | (bytes, sequence, evicted) =>
    let p := tlvPutU32 1 st.protocolErrors []
    let p := tlvPutU32 2 st.inputResets p
    let p := tlvPutU32 3 st.voiceOverruns p
    let p := tlvPutU32 4 st.voiceErrors p
    let p := tlvPutU16 5 w.srv.cfg.resetReason p
    let p := tlvPutU32 6 sequence p
    let p := tlvPutBytes 7 bytes p
    reply b P h .ok (tlvPutU32 8 evicted p) w

def Server.setOutLen (n : Nat) (s : Server) : Server := { s with out := s.out.setLen n }

/-- The session id of slot 0 is overwritten. -/
def Server.patchSlotZero (session : UInt32) (s : Server) : Server :=
  match s.ctl with
  | [] => s
  | slot :: rest => { s with ctl := { slot with session := session } :: rest }

def handleGoodbye (h : Header) (w : World E) : World E :=
  let s := w.srv
  let w := sessionTeardown b P w
  let w := w.act (Server.setOutLen s.out.len)
  let w := w.note (.parted s w.srv)
  (reply b P h .ok [] w).act (Server.patchSlotZero s.session.id)

/-! ## Discovery and pairing -/

/-- A search starts. -/
def Server.beginFind (searchId : UInt32) (duration : UInt16) (s : Server) : Server :=
  { s with find := { s.find with
      active := true, valid := false, cand := [], searchId := searchId,
      endMs := s.nowMs + duration.toUInt32 } }

def Server.abortFind (s : Server) : Server :=
  { s with find := { s.find with active := false, valid := false, cand := [] } }

def handleFindStart (h : Header) (payload : List UInt8) (w : World E) : World E :=
  match required (tlvGetU16 payload 1) with
  | none => respondText b P h .invalidArgument "duration 1..30000" w
  | some dur =>
    if dur < 1 || dur > 30000 then respondText b P h .invalidArgument "duration 1..30000" w
    else if w.srv.op.active then respondError b P h .busy none w
    else if w.srv.device.linkState.up then respondText b P h .badState "link active" w
    else
      match drawId P w with
      | (id, w) =>
        match invoke P (.startFind dur) (w.act (Server.beginFind id dur)) with
        | (w, status) =>
          if status ≠ .ok then
            respondText b P h status "discovery did not start" (w.act Server.abortFind)
          else reply b P h .ok (tlvPutU32 1 w.srv.find.searchId []) w

/-- One entry of `FIND_LIST`. -/
def Candidate.entry (c : Candidate) : List UInt8 :=
  put32 c.candidateId ++ [c.support, c.signal, c.nameLen] ++
    (List.range c.nameLen.toNat).map fun k => c.name.getD k 0

/-- The entries that fit: at most `room` of them, in a buffer of 500 bytes. -/
def packEntries (entries : List (List UInt8)) (room : Nat) (len : Nat) : List (List UInt8) :=
  match entries, room with
  | [], _ => []
  | _, 0 => []
  | e :: rest, room + 1 =>
    if len + e.length + 1 > 500 then [] else e :: packEntries rest room (len + e.length)

/-- A packed list behind its count. -/
def entryList (entries : List (List UInt8)) : List UInt8 := UInt8.ofNat entries.length :: entries.flatten

/-- The cursor after `count` entries. -/
def nextCursor (cursor count total : Nat) : UInt8 :=
  if cursor + count ≥ total then 255 else UInt8.ofNat (cursor + count)

def handleFindList (h : Header) (payload : List UInt8) (w : World E) : World E :=
  match required (tlvGetU32 payload 1), required (tlvGetU8 payload 2) with
  | some sid, some cursor =>
    let f := w.srv.find
    if sid != f.searchId || (!f.active && !f.valid) then respondText b P h .notFound "search" w
    else if cursor.toNat ≥ maxCandidates then respondText b P h .invalidArgument "cursor" w
    else
      let entries := packEntries ((f.cand.drop cursor.toNat).map Candidate.entry) 8 1
      let cur := nextCursor cursor.toNat entries.length f.cand.length
      reply b P h .ok (tlvPutBytes 2 (entryList entries) (tlvPutU8 1 cur [])) w
  | _, _ => respondText b P h .invalidArgument "args" w

def handleFindStop (h : Header) (payload : List UInt8) (w : World E) : World E :=
  match required (tlvGetU32 payload 1) with
  | none => respondText b P h .invalidArgument "search_id required" w
  | some sid =>
    if sid != w.srv.find.searchId || !w.srv.find.active then respondText b P h .notFound "search" w
    else
      let w := reply b P h .ok [] (w.act fun s => s.endFind s.nowMs)
      let w := (invoke P .stopFind w).1
      ctlEnqueue b P kindEvent EventOp.findDone.code .ok 0 0
        (findDoneTlv w.srv.find.searchId FindDone.userStop.code) w

/-- `op_begin`. -/
def Server.beginOp (kind : OpKind) (h : Header) (deadlineMs : UInt32) (s : Server) : Server :=
  { s with
    op := { s.op with
      active := true, kind := some kind, pairReadyPending := false, id := h.requestId,
      connectionId := 0, peerId := 0, deadlineMs := deadlineMs }
    prompt := { s.prompt with cancelRequested := false } }

/-- An operation is begun. -/
def World.beginOp (kind : OpKind) (h : Header) (deadlineMs : UInt32) (w : World E) : World E :=
  (w.act (Server.beginOp kind h deadlineMs)).note (.begun kind h w.srv)

/-- `accepted_payload`. -/
def acceptedPayload (opId : UInt32) : List UInt8 := [1, TlvType.u32.code, 4, 0] ++ put32 opId

/-- The search gives way to the pairing. -/
def takeoverFind (w : World E) : World E :=
  (invoke P .stopFind (w.act fun s => { s with find := { s.find with active := false } })).1

/-- `FIND_DONE` of a search that gave way. -/
def queueTakeover (w : World E) : World E :=
  ctlEnqueue b P kindEvent EventOp.findDone.code .ok 0 0
    (findDoneTlv w.srv.find.searchId FindDone.pairTakeover.code) w

/-- The operation and the reply of a granted `PAIR_BEGIN`. -/
def beginPair (h : Header) (cid : UInt32) (w : World E) : World E :=
  let w := w.beginOp .pair h (w.srv.nowMs + pairDeadlineMs)
  let w := reply b P h .accepted (acceptedPayload h.requestId) w
  (invoke P (.pairBegin cid) w).1

def handlePairBegin (h : Header) (payload : List UInt8) (w : World E) : World E :=
  match required (tlvGetU32 payload 1), required (tlvGetU32 payload 2) with
  | some sid, some cid =>
    let f := w.srv.find
    if w.srv.op.active then respondError b P h .busy none w
    else if w.srv.device.linkState = .ready then respondText b P h .badState "already connected" w
    else if w.srv.device.peerValid then respondText b P h .busy "bond slot full" w
    else if sid != f.searchId || !f.cand.any (·.candidateId == cid) || (!f.valid && !f.active) then
      respondText b P h .notFound "candidate" w
    else if f.active then
      let w := takeoverFind P w
      beginPair b P h cid (queueTakeover b P (w.note (.granted [13, 8] w.srv)))
    else beginPair b P h cid (w.note (.granted [8] w.srv))
  | _, _ => respondText b P h .invalidArgument "args" w

def handlePairReply (h : Header) (payload : List UInt8) (w : World E) : World E :=
  match tlvGetU32 payload 1, tlvGetU32 payload 2, tlvGetBool payload 3, tlvGetU32 payload 4 with
  | .ok (some opId), .ok (some pid), .ok (some accept), .ok passkey =>
    let s := w.srv
    if passkey.any (· > 999999) then respondText b P h .invalidArgument "passkey range" w
    else if !s.op.active || s.op.kind != some .pair || opId != s.op.id || !s.prompt.active ||
        pid != s.prompt.id then
      respondText b P h .notFound "prompt" w
    else if passkey.isSome && s.prompt.method != .enterPasskey then
      respondText b P h .invalidArgument "passkey not expected" w
    else if s.prompt.method = .displayPasskey then
      respondText b P h .invalidArgument "display only; cancel operation to reject" w
    else if accept && passkey.isNone && s.prompt.method = .enterPasskey then
      respondText b P h .invalidArgument "passkey required" w
    else
      (invoke P (.pairReply accept passkey) (reply b P h .ok [] (w.act Server.hidePrompt))).1
  | _, _, _, _ => respondText b P h .invalidArgument "args" w

def handlePairCancel (h : Header) (payload : List UInt8) (w : World E) : World E :=
  match required (tlvGetU32 payload 1) with
  | none => respondText b P h .invalidArgument "operation_id required" w
  | some opId =>
    if !w.srv.op.active || w.srv.op.kind != some .pair || opId != w.srv.op.id then
      respondText b P h .notFound "operation" w
    else requestPairCancel P (reply b P h .ok [] (w.act Server.hidePrompt))

/-! ## The bond -/

def Server.pauseReconnect (s : Server) : Server :=
  { s with device := { s.device with reconnectPaused := true } }

def Server.resumeReconnect (s : Server) : Server :=
  { s with device := { s.device with reconnectPaused := false } }

def handleForgetPeer (h : Header) (payload : List UInt8) (w : World E) : World E :=
  match required (tlvGetU32 payload 1) with
  | none => respondText b P h .invalidArgument "peer_id required" w
  | some pid =>
    if w.srv.op.active then respondError b P h .busy none w
    else if !w.srv.device.peerValid || pid != w.srv.device.peer.peerId then
      respondText b P h .notFound "peer" w
    else
      let w := (w.beginOp .forget h (w.srv.nowMs + forgetDeadlineMs)).act Server.pauseReconnect
      (invoke P .forgetPeer (reply b P h .accepted (acceptedPayload h.requestId) w)).1

def Server.setAutoReconnect (enabled : Bool) (s : Server) : Server :=
  { s with device := { s.device with peer := { s.device.peer with autoReconnect := enabled } } }

def handleSetReconnect (h : Header) (payload : List UInt8) (w : World E) : World E :=
  match required (tlvGetU32 payload 1), required (tlvGetBool payload 2) with
  | some pid, some enabled =>
    let d := w.srv.device
    if !d.peerValid || pid != d.peer.peerId then respondText b P h .notFound "peer" w
    else if d.peer.autoReconnect = enabled then
      reply b P h .ok [] (if enabled then w.act Server.resumeReconnect else w)
    else
      let w := w.act (Server.setAutoReconnect enabled)
      let r := P.save w.srv.device.peer w
      let w := { w with env := r.2 }
      if !r.1 then
        respondError b P h .storageFailed none (w.act (Server.setAutoReconnect d.peer.autoReconnect))
      else reply b P h .ok [] (if enabled then w.act Server.resumeReconnect else w)
  | _, _ => respondText b P h .invalidArgument "args" w

def handleConnectPeer (h : Header) (payload : List UInt8) (w : World E) : World E :=
  let d := w.srv.device
  if w.srv.op.active then respondError b P h .busy none w
  else
    match required (tlvGetU32 payload 1) with
    | none => respondText b P h .invalidArgument "peer_id required" w
    | some pid =>
      if !d.peerValid || d.peer.peerId != pid then respondText b P h .notFound "peer" w
      else if d.linkState = .ready then respondText b P h .badState "already connected" w
      else if d.linkState.up then reply b P h .ok [] w
      else reply b P h .ok [] (invoke P .connectPeer (w.act Server.resumeReconnect)).1

def handleDisconnect (h : Header) (w : World E) : World E :=
  let w := w.act fun s =>
    { s.pauseReconnect with voice := { s.voice with resumePeer := 0 } }
  let w := if w.srv.device.linkState.up then (invoke P .disconnect w).1 else w
  reply b P h .ok [] w

/-! ## Keys -/

/-- One entry of `KEY_CATALOG`. -/
def catalogEntry (slot : Nat) (key : UInt16 × List UInt8) : List UInt8 :=
  let name := key.2.take 32
  [UInt8.ofNat slot] ++ put16 key.1 ++ [UInt8.ofNat name.length] ++ name

/-- The entries from `cursor` on. -/
def DeviceProfile.entriesFrom (p : DeviceProfile) (cursor : Nat) : List (List UInt8) :=
  (p.keys.drop cursor).mapIdx fun i key => catalogEntry (cursor + i) key

def handleKeyCatalog (h : Header) (payload : List UInt8) (w : World E) : World E :=
  if !w.srv.connReadyFor h then respondError b P h w.srv.notReadyStatus none w
  else
    match tlvGetU8 payload 1 with
    | .error .malformed | .error .type => respondText b P h .invalidArgument "tlv" w
    | r =>
      let cursor := ((required r).getD 0).toNat
      match w.srv.device.profile with
      | none => respondText b P h .badState "catalog" w
      | some p =>
        if cursor ≥ p.keys.length then respondText b P h .invalidArgument "cursor" w
        else
          let entries := packEntries (p.entriesFrom cursor) 12 1
          let cur := nextCursor cursor entries.length p.keys.length
          reply b P h .ok (tlvPutBytes 3 (entryList entries)
            (tlvPutU8 2 cur (tlvPutU32 1 p.catalogRevision []))) w

/-- The key structure of a snapshot reply. -/
def Server.snapshotBuf (s : Server) : List UInt8 :=
  put32 s.keys.inputSeq ++ put64 s.keys.capturedUs ++ put64 s.keys.pressedBits ++
    [KeysKind.snapshot.code, 0, 0, 0]

def handleKeysSnapshot (h : Header) (w : World E) : World E :=
  if !w.srv.connReadyFor h then respondError b P h w.srv.notReadyStatus none w
  else reply b P h .ok w.srv.snapshotBuf w

/-- Events are switched on, with a snapshot. -/
def Server.enableEvents (s : Server) : Server :=
  ({ s with keys := { s.keys with enabled := true } } : Server).keysEmit .snapshot .none
    s.keys.pressedBits s.keys.capturedUs

/-- The subscription takes effect. -/
def World.subscribe (w : World E) : World E :=
  (w.act Server.enableEvents).note (.subscribed w.srv)

def Server.stopEvents (s : Server) : Server :=
  { s with keys := { s.keys with enabled := false, queue := [] } }

def handleEventsEnable (h : Header) (payload : List UInt8) (w : World E) : World E :=
  if !w.srv.connReadyFor h then respondError b P h w.srv.notReadyStatus none w
  else
    match required (tlvGetBool payload 1) with
    | none => respondText b P h .invalidArgument "enabled required" w
    | some true =>
      (reply b P h .ok [] (w.note (.granted [0] w.srv))).subscribe
    | some false => reply b P h .ok [] (w.act Server.stopEvents)

/-! ## Voice -/

def handleGetVoiceCaps (h : Header) (w : World E) : World E :=
  if h.connectionId == 0 || h.connectionId != w.srv.device.connectionId then
    respondError b P h .linkLost none w
  else
    let shown := if w.srv.device.voiceState = .ready then
        w.srv.voice.caps.filter fun c => decide (c.codecs.length ≤ 16)
      else none
    let codecs := shown.elim [] (·.codecs)
    let list := (codecs.map fun c => put32 c.id ++ put16 c.revision).flatten
    let maxUnit := if codecs.isEmpty then 0 else shown.elim 0 (·.maxUnitBytes)
    reply b P h .ok (tlvPutU16 3 (UInt16.ofNat audioConfigMax)
      (tlvPutU32 2 maxUnit (tlvPutBytes 1 list []))) w

/-- The codec list is strictly ascending, with ids and revisions in range. -/
def codecsAscending : UInt32 → UInt16 → List Codec → Bool
  | _, _, [] => true
  | lastId, lastRev, c :: rest =>
    c.id != 0 && decide (c.id < 0x80000000) && c.revision != 0 &&
      !(decide (c.id < lastId) || (c.id == lastId && decide (c.revision ≤ lastRev))) &&
      codecsAscending c.id c.revision rest

/-- What is wrong with the parameters of `VOICE_ENABLE(true)`, if anything. -/
def Server.enableError (s : Server) (codecs : Option (List UInt8)) (maxUnit : Option UInt32) :
    Option Status :=
  match codecs, maxUnit with
  | some codecs, some maxUnit =>
    let pairs := codecPairs codecs
    if codecs = [] || decide (codecs.length > 96) || codecs.length % 6 != 0 || maxUnit == 0 ||
        decide (maxUnit > audioUnitMax) || !codecsAscending 0 0 pairs then
      some .invalidArgument
    else if s.device.voiceState = .ready &&
        !s.voice.caps.any (fun caps => pairs.any (fun c => decide (c ∈ caps.codecs)) &&
          decide (maxUnit ≥ caps.maxUnitBytes)) then
      some .unsupported
    else if (s.voice.delivering || s.voice.waitingIdle) &&
        (s.voice.acceptedCodecs != codecs || s.voice.acceptedMaxUnit != maxUnit) then
      some .busy
    else if s.device.voiceState ≠ .ready then some .voiceUnavailable
    else none
  | _, _ => some .invalidArgument

/-- Voice is granted. -/
def Server.enableVoice (codecs : List UInt8) (maxUnit : UInt32) (s : Server) : Server :=
  { s with voice := { s.voice with
      acceptedCodecs := codecs
      acceptedMaxUnit := maxUnit
      denied := false
      resumePeer := if s.device.peerValid then s.device.peer.peerId else 0
      enabled := true
      waitingIdle := if s.voice.enabled then s.voice.waitingIdle else s.voice.sourceActive } }

/-- Voice is refused. -/
def Server.disableVoice (s : Server) : Server :=
  { s with voice := { s.voice with
      acceptedCodecs := [], acceptedMaxUnit := 0, resumePeer := 0, denied := true, enabled := false,
      waitingIdle := false } }

/-- The deferred reply to a `VOICE_ENABLE`. -/
def Header.deferredOk (h : Header) : DeferredOk :=
  { opcode := h.opcode, requestId := h.requestId, connectionId := h.connectionId, isEnable := true }

/-- The reply is kept until the stream is gone. -/
def Server.deferOk (h : Header) (s : Server) : Server :=
  { s with voice := { s.voice with okDeferred := some h.deferredOk } }

def World.defer (h : Header) (w : World E) : World E := (w.act (Server.deferOk h)).note (.deferred h w.srv)

/-- `VOICE_ENABLE(false)` behind its checks. -/
def denyVoice (h : Header) (w : World E) : World E :=
  let was := w.srv.voice.enabled
  let w := w.act Server.disableVoice
  let w := if !w.srv.voice.delivering && (w.srv.voice.sourceActive || was) then
      (invoke P .voiceRequestStop w).1
    else w
  if w.srv.voice.delivering then
    let w := (voiceFinishStream b P .consumerDisabled true w).defer h
    if was then (invoke P .voiceRequestStop w).1 else w
  else reply b P h .ok (voiceEnableTlv false false) w

def handleVoiceEnable (h : Header) (payload : List UInt8) (w : World E) : World E :=
  match required (tlvGetBool payload 1) with
  | none => respondText b P h .invalidArgument "enabled required" w
  | some enabled =>
    let s := w.srv
    if (enabled && !s.connReadyFor h) ||
        (!enabled && h.connectionId != 0 && h.connectionId != s.device.connectionId) then
      respondError b P h s.notReadyStatus none w
    else
      match tlvGetBytes payload 2, tlvGetU32 payload 3 with
      | .ok codecs, .ok maxUnit =>
        if !enabled then
          if codecs.isSome || maxUnit.isSome then respondError b P h .invalidArgument none w
          else denyVoice b P h w
        else
          match s.enableError codecs maxUnit with
          | some status => respondError b P h status none w
          | none =>
            let w := w.act (Server.enableVoice (codecs.getD []) (maxUnit.getD 0))
            reply b P h .ok (voiceEnableTlv true w.srv.voice.waitingIdle) w
      | _, _ => respondError b P h .invalidArgument none w

def handleVoiceStart (h : Header) (w : World E) : World E :=
  let s := w.srv
  if !s.connReadyFor h then respondError b P h .linkLost none w
  else if s.device.voiceState ≠ .ready then respondError b P h .voiceUnavailable none w
  else if !s.voice.enabled then respondText b P h .badState "voice not enabled" w
  else if s.voice.sourceActive || s.voice.delivering || s.voice.ending || s.voice.waitingIdle then
    respondText b P h .busy "previous capture not idle" w
  else if !s.cfg.hasVoiceStart then respondError b P h .unsupported none w
  else
    match invoke P .voiceRequestStart w with
    | (w, status) => if status ≠ .ok then respondError b P h status none w else reply b P h .ok [] w

def handleVoiceStop (h : Header) (payload : List UInt8) (w : World E) : World E :=
  if !w.srv.connReadyFor h then respondError b P h w.srv.notReadyStatus none w
  else
    match required (tlvGetU32 payload 1) with
    | none => respondText b P h .invalidArgument "stream_id required" w
    | some sid =>
      if !w.srv.voice.delivering || sid != w.srv.voice.streamId then
        respondText b P h .notFound "stream" w
      else
        let w := if w.srv.voice.stopRequested then w
          else (invoke P .voiceRequestStop (w.act Server.requestStop)).1
        reply b P h .ok [] w

/-! ## Dispatch -/

/-- The switch of `dispatch_request`.  A `HELLO` does not get here. -/
def dispatchOp (op : Option RequestOp) (h : Header) (payload : List UInt8) (w : World E) : World E :=
  match op with
  | some .ping => handlePing b P h payload w
  | some .getDevice => handleGetDevice b P h w
  | some .getPeer => handleGetPeer b P h w
  | some .getOperation => handleGetOperation b P h payload w
  | some .getStats => handleGetStats b P h w
  | some .goodbye => handleGoodbye b P h w
  | some .findStart => handleFindStart b P h payload w
  | some .findList => handleFindList b P h payload w
  | some .findStop => handleFindStop b P h payload w
  | some .pairBegin => handlePairBegin b P h payload w
  | some .pairReply => handlePairReply b P h payload w
  | some .pairCancel => handlePairCancel b P h payload w
  | some .forgetPeer => handleForgetPeer b P h payload w
  | some .setReconnect => handleSetReconnect b P h payload w
  | some .connectPeer => handleConnectPeer b P h payload w
  | some .disconnect => handleDisconnect b P h w
  | some .keyCatalog => handleKeyCatalog b P h payload w
  | some .keysSnapshot => handleKeysSnapshot b P h w
  | some .eventsEnable => handleEventsEnable b P h payload w
  | some .getVoiceCaps => handleGetVoiceCaps b P h w
  | some .voiceEnable => handleVoiceEnable b P h payload w
  | some .voiceStart => handleVoiceStart b P h w
  | some .voiceStop => handleVoiceStop b P h payload w
  | some .hello | none => respondError b P h .unsupported none w

/-- `dispatch_request`. -/
def dispatchRequest (h : Header) (payload : List UInt8) (w : World E) : World E :=
  if h.opcode < 0x200 && h.connectionId != 0 then
    respondText b P h .invalidArgument "management connection must be zero" w
  else
    match tlvScan payload with
    | .error _ => respondText b P h .invalidArgument "malformed TLV" w
    | .ok _ => dispatchOp b P (RequestOp.ofCode h.opcode) h payload w

/-- The header of a well-formed `HELLO`. -/
def Header.helloShape (h : Header) (len : Nat) : Bool :=
  h.kind == kindRequest && h.flags == 0 && h.status == 0 && h.sessionId == 0 &&
    h.connectionId == 0 && h.requestId == 1 && h.txSeq == 1 && h.payloadSize.toNat == len &&
    h.magic0 == rbpMagic0 && h.magic1 == rbpMagic1 && h.headerSize == 32 && h.reserved == 0

/-- The nonce of a `HELLO`. -/
def helloNonce (payload : List UInt8) : Option (List UInt8) :=
  (required (tlvGetBytes payload 1)).filter (·.length == 16)

/-- The header of the reply to a `HELLO` of another version. -/
def mismatchHeader : Header :=
  { kind := kindResponse, txSeq := 1, requestId := 1, opcode := RequestOp.hello.code,
    status := Status.versionMismatch.code }

/-- The ring after a frame was written outside of any session. -/
def Server.setOut (out : Ring UInt8) (s : Server) : Server := { s with out := out }

/-- The reply to a `HELLO` of another version; it is lost when it does not fit. -/
def refuseVersion (nonce : Option (List UInt8)) (w : World E) : World E :=
  let payload := nonce.elim [] fun n => tlvPutBytes 3 n []
  let h := mismatchHeader.stamped 1 payload.length
  match w.srv.out.write b.outRing (wireFrame h payload) with
  | none => outDrain b P w
  | some out => outDrain b P ((w.act (Server.setOut out)).note (.refused h payload))

/-- The receive side of a new session. -/
def Server.helloSeen (h : Header) (s : Server) : Server :=
  { s with session := { s.session with
      reqHwm := h.requestId, clientTxHwm := 1, haveClientSeq := true } }

/-- The body of the `HELLO` reply. -/
def Server.helloTlv (s : Server) (nonce : List UInt8) : List UInt8 :=
  let w := tlvPutBytes 1 nonce []
  let w := tlvPutBytes 2 s.cfg.bridgeUid w
  let w := tlvPutText 3 (s.cfg.firmwareVersion.getD (ascii "0.0")) w
  let w := tlvPutU8 4 (UInt8.ofNat s.cfg.maxKeys.toNat) w
  let w := tlvPutU16 5 (UInt16.ofNat maxPayload) w
  tlvPutU32 6 0x0f w

/-- `handle_hello`. -/
def handleHello (h : Header) (payload : List UInt8) (w : World E) : World E :=
  let nonce := helloNonce payload
  if !h.helloShape payload.length then w.act Server.protocolError
  else if h.major != rbpMajor || h.minor != rbpMinor then refuseVersion b P nonce w
  else
    match nonce with
    | none => outDrain b P (respondText b P h .invalidArgument "nonce required" w)
    | some nonce =>
      if h.sessionId != 0 then outDrain b P (respondText b P h .invalidArgument "session must be 0" w)
      else
        let w := (sessionCreate b P w).act (Server.helloSeen h)
        outDrain b P (ctlEnqueue b P kindResponse RequestOp.hello.code .ok h.requestId 0
          (w.srv.helloTlv nonce) w)

/-- The teardown of a session that broke the protocol. -/
def failSession (w : World E) : World E := sessionTeardown b P (w.act Server.protocolError)

/-- A request is accepted: the receive side moves on. -/
def Server.acceptSeq (h : Header) (s : Server) : Server :=
  { s with session := { s.session with clientTxHwm := h.txSeq, lastReqMs := s.nowMs } }

def Server.acceptRequest (h : Header) (s : Server) : Server :=
  { s with session := { s.session with reqHwm := h.requestId } }

/-- The checks of `process_frame` from the request id on. -/
def acceptFrame (h : Header) (payload : List UInt8) (w : World E) : World E :=
  if h.requestId == 0 then respondText b P h .invalidArgument "request_id required" w
  else if h.requestId ≤ w.srv.session.reqHwm then respondError b P h .duplicate none w
  else
    let w := w.act (Server.acceptRequest h)
    dispatchRequest b P h payload (w.note (.request h payload w.srv))

/-- `process_frame`. -/
def processFrame (h : Header) (payload : List UInt8) (crcOk : Bool) (w : World E) : World E :=
  if !crcOk then if w.srv.session.active then failSession b P w else w
  else if h.payloadSize.toNat != payload.length || h.flags != 0 || h.reserved != 0 || h.status != 0 then
    let w := w.act Server.protocolError
    if w.srv.session.active then sessionTeardown b P w else w
  else if h.kind != kindRequest then
    if w.srv.session.active then w.act Server.protocolError else w
  else if h.opcode == RequestOp.hello.code then handleHello b P h payload w
  else if h.major != rbpMajor || h.minor != rbpMinor then
    if w.srv.session.active then sessionTeardown b P w else w
  else if !w.srv.session.active || h.sessionId != w.srv.session.id then w
  else if h.txSeq == 0 || w.srv.session.clientTxHwm == 0xffffffff ||
      h.txSeq != w.srv.session.clientTxHwm + 1 then
    failSession b P w
  else acceptFrame b P h payload (w.act (Server.acceptSeq h))

/-- `server_rx_event`. -/
def serverRxEvent (ev : RxEvent) (w : World E) : World E :=
  match ev with
  | .frame h payload crcOk => processFrame b P h payload crcOk w
  | _ => if w.srv.session.active then failSession b P w else w

/-- `rbp_server_on_usb_rx`.  The event handler does not touch the receiver, so its events can be
computed first. -/
def onUsbRx (data : List UInt8) (nowMs : UInt32) (w : World E) : World E :=
  let w := w.act (Server.setNow nowMs)
  let r := w.srv.rx.drain data nowMs
  r.1.foldl (fun w ev => serverRxEvent b P ev w) (w.act (Server.setRx r.2))

end RemoteBridge
