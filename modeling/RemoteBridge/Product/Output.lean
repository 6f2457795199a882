import RemoteBridge.Framework.Table
import RemoteBridge.Product.Server

/-!
# Sessions, queues and the output pump

The part of `rbp_server.c` that every other part calls: tearing a session down, queueing control
frames and key states, and moving queued items into the output ring and out of it.

Tearing down is not atomic.  `withdraw` takes back everything the session owned, and only then the
backend is told; it may report synchronously, so the calls that follow it can come back to a changed
server.  A control queue that is full tears the session down from inside `ctlEnqueue`, and a sequence
number that is used up does so from inside `outTryFrame`.
-/

namespace RemoteBridge

open World

variable {E : Type} (b : Build) (P : Platform E)

/-! ## Helpers -/

/-- `(int32_t)(now - deadline) >= 0`. -/
def timeReached (now deadline : UInt32) : Bool := now - deadline < 0x80000000

/-- `now_us64`. -/
def Server.nowUs (s : Server) : UInt64 := s.nowMs.toUInt64 * 1000

/-- `copy_name`: the text of `src`, cut to fit, over the start of the buffer. -/
def copyName (dst : List UInt8) (cap : Nat) (src : List UInt8) : List UInt8 :=
  let text := (src.takeWhile (· != 0)).take (cap - 1)
  text ++ [0] ++ dst.drop (text.length + 1)

/-- The text in a buffer. -/
def cText (buf : List UInt8) : List UInt8 := buf.takeWhile (· != 0)

/-- Call a backend function. -/
def invoke (c : BackendCall) (w : World E) : World E × Status := P.call c (w.note (.called c w.srv))

/-! ## Tearing down and creating a session -/

/-- `session_stop_delivery`, the voice part. -/
def Voice.stopDelivery (v : Voice) : Voice :=
  { v with
    delivering := false
    ending := false
    streamId := 0
    media := []
    acceptedCodecs := []
    acceptedMaxUnit := 0
    resumePeer := 0
    okDeferred := none
    enabled := false
    denied := false
    waitingIdle := false
    stopRequested := false }

/-- `session_stop_delivery`. -/
def Server.stopDelivery (s : Server) : Server :=
  { s with voice := s.voice.stopDelivery, keys := { s.keys with queue := [], enabled := false } }

/-- `ctl_clear`. -/
def Server.ctlClear (s : Server) : Server :=
  { s with ctl := s.ctl.map fun slot => { slot with used := false }, ctlUsed := 0 }

/-- The length of the ring up to and including its first delimiter; all of it without one. -/
def Server.firstFrameLen (s : Server) : Nat :=
  ((List.range s.out.len).find? fun i => s.out.mem ((s.out.head + i) % b.outRing) == 0).elim
    s.out.len (· + 1)

/-- The part of `session_teardown` before its backend calls. -/
def Server.withdraw (s : Server) : Server :=
  let wasStopping := s.voice.sourceActive && s.voice.stopRequested
  let stopDeadline := s.voice.stopDeadlineMs
  let s := { s with
    op := { s.op with active := s.op.active && s.op.kind != some OpKind.pair }
    prompt := { s.prompt with active := false }
    find := { s.find with active := false }
    session := { s.session with active := false, id := 0 } }
  let s := s.ctlClear
  let s := { s with out := s.out.setLen (s.firstFrameLen b) }
  let s := s.stopDelivery
  let s := if s.voice.sourceActive then
      { s with voice := { s.voice with
          stopRequested := true
          stopDeadlineMs := if wasStopping then stopDeadline else s.nowMs + voiceStopMs } }
    else s
  { s with op := { s.op with done := [] } }

lemma prompt_withdraw (s : Server) : (s.withdraw b).prompt = { s.prompt with active := false } := by
  unfold Server.withdraw
  dsimp only [Server.stopDelivery, Server.ctlClear]
  split <;> rfl

/-- The flags of `request_pair_cancel`. -/
def Server.cancelPair (s : Server) : Server :=
  { s with prompt := { s.prompt with cancelRequested := true, active := false } }

/-- `request_pair_cancel`. -/
def requestPairCancel (w : World E) : World E :=
  if w.srv.prompt.cancelRequested then w
  else (invoke P .pairCancel (w.act Server.cancelPair)).1

/-- Whether the teardown has a pairing to cancel. -/
def Server.pairToCancel (s : Server) : Bool :=
  (s.op.active && s.op.kind == some .pair) || s.prompt.active

/-- Whether the teardown has a source to stop. -/
def Server.sourceToStop (s : Server) : Bool :=
  (s.voice.sourceActive || s.voice.enabled) && !s.voice.stopRequested

/-- The session is withdrawn. -/
def World.withdraw (w : World E) : World E := (w.act (·.withdraw b)).note (.closed w.srv)

/-- `session_teardown`. -/
def sessionTeardown (w : World E) : World E :=
  let s := w.srv
  let w := w.withdraw b
  let w := if s.pairToCancel then requestPairCancel P w else w
  let w := if s.find.active then (invoke P .stopFind w).1 else w
  if s.sourceToStop then (invoke P .voiceRequestStop w).1 else w

/-- A new session. -/
def Server.openSession (s : Server) : Server :=
  { s with session :=
    { active := true
      id := s.session.counter + 1
      counter := s.session.counter + 1
      nextTxSeq := 1
      lastReqMs := s.nowMs
      reqHwm := 0
      haveClientSeq := false
      clientTxHwm := 0 } }

/-- The branch of `session_create` with a used-up counter. -/
def Server.noSession (s : Server) : Server := { s with session := { s.session with active := false } }

/-- A session is created. -/
def World.create (w : World E) : World E :=
  (w.act Server.openSession).note (.opened (w.srv.session.counter + 1) w.srv)

/-- `session_create`. -/
def sessionCreate (w : World E) : World E :=
  let w := sessionTeardown b P w
  if w.srv.session.counter == 0xffffffff then w.act Server.noSession else w.create

/-! ## The output ring -/

/-- The ring and the sequence number after a frame was written. -/
def Server.putFrame (bytes : List UInt8) (next : UInt32) (s : Server) : Server :=
  { s with
    out := (s.out.write b.outRing bytes).getD s.out
    session := { s.session with nextTxSeq := next } }

/-- A frame goes into the ring. -/
def World.emit (origin : Origin) (h : Header) (payload bytes : List UInt8) (next : UInt32)
    (w : World E) : World E :=
  (w.act (·.putFrame b bytes next)).note
    (.emitted origin (h.stamped w.srv.session.nextTxSeq payload.length) payload)

/-- `out_try_frame`. -/
def outTryFrame (origin : Origin) (h : Header) (payload : List UInt8) (w : World E) :
    Bool × World E :=
  let s := w.srv
  if s.session.nextTxSeq == 0 || s.session.nextTxSeq == 0xffffffff then
    (false, sessionTeardown b P w)
  else if b.outRing - s.out.len < headerSize + payload.length + 6 then (false, w)
  else
    match frameEncode h s.session.nextTxSeq payload with
    | none => (false, w)
    | some (bytes, next) =>
      if b.outRing - s.out.len < bytes.length then (false, w)
      else (true, w.emit b origin h payload bytes next)

/-- The bytes that the next `out()` call is offered: at most 64, never across the wrap. -/
def Server.chunk (s : Server) : List UInt8 :=
  (s.out.contents b.outRing).take (min (min 64 s.out.len) (b.outRing - s.out.head))

/-- The ring after `n` bytes were accepted. -/
def Server.consumeOut (n : Nat) (s : Server) : Server := { s with out := s.out.consume b.outRing n }

/-- `out()` accepts `n` bytes. -/
def World.send (n : Nat) (w : World E) : World E :=
  (w.act (·.consumeOut b n)).note (.sent ((w.srv.chunk b).take n))

/-- The loop of `out_drain`; every turn but the last sends at least one byte. -/
def outDrainLoop : Nat → World E → World E
  | 0, w => w
  | fuel + 1, w =>
    if w.srv.out.len = 0 then w
    else
      let chunk := w.srv.chunk b
      let sent := P.out w chunk
      if sent = 0 then w
      else if sent < chunk.length then w.send b sent
      else outDrainLoop fuel (w.send b sent)

/-- `out_drain`. -/
def outDrain (w : World E) : World E := outDrainLoop b P w.srv.out.len w

/-! ## The control queue -/

/-- The used slots. -/
def Server.ctlQueued (s : Server) : List CtlSlot := s.ctl.filter (·.used)

/-- `ctl_peek_order`: the smallest order number of a used slot. -/
def Server.ctlPeekOrder (s : Server) : Option UInt32 :=
  s.ctl.foldl (keepLeast (·.used) (·.order)) none

/-- The header of a queued control frame. -/
def CtlSlot.header (slot : CtlSlot) : Header :=
  { kind := slot.kind, sessionId := slot.session, opcode := slot.opcode, status := slot.status,
    requestId := slot.requestId, connectionId := slot.connectionId }

/-- A slot is released. -/
def Server.freeSlot (i : Nat) (s : Server) : Server :=
  match s.ctl[i]? with
  | none => s
  | some slot =>
    { s with ctl := s.ctl.set i { slot with used := false },
             ctlUsed := s.ctlUsed - slot.payload.length }

/-- `ctl_pop`. -/
def ctlPop (w : World E) : Bool × World E :=
  match w.srv.ctlPeekOrder with
  | none => (false, w)
  | some order =>
    match w.srv.ctl.findIdx? (fun slot => slot.used && slot.order == order) with
    | none => (false, w)
    | some i =>
      let slot := w.srv.ctl.getD i {}
      match outTryFrame b P (.ctl slot) slot.header slot.payload w with
      | (false, w) => (false, w)
      | (true, w) => (true, w.act (Server.freeSlot i))

/-- `next_order`. -/
def Server.nextOrder (s : Server) : UInt32 := s.orderCounter + 1

/-- Whether `ctl_enqueue` finds a slot and room for `len` bytes. -/
def Server.ctlFits (s : Server) (len : Nat) : Bool :=
  (s.ctl.findIdx? fun slot => !slot.used).isSome && decide (len ≤ maxPayload) &&
    decide (len ≤ b.ctlBytes - s.ctlUsed)

/-- The slot that `ctl_enqueue` fills. -/
def Server.ctlSlotFor (s : Server) (kind : UInt8) (opcode : UInt16) (status : Status)
    (requestId connectionId : UInt32) (payload : List UInt8) : CtlSlot :=
  { used := true, kind := kind, status := status.code, opcode := opcode, requestId := requestId,
    connectionId := connectionId, session := s.session.id, payload := payload,
    order := s.nextOrder }

/-- A slot is filled. -/
def Server.putCtl (slot : CtlSlot) (s : Server) : Server :=
  match s.ctl.findIdx? (fun slot => !slot.used) with
  | none => s
  | some i =>
    { s with ctl := s.ctl.set i slot, ctlUsed := s.ctlUsed + slot.payload.length,
             orderCounter := s.nextOrder }

def Server.protocolError (s : Server) : Server :=
  { s with stats := s.stats.count .protocolErrors }

/-- A control frame is queued. -/
def World.queue (slot : CtlSlot) (w : World E) : World E :=
  (w.act (Server.putCtl slot)).note (.queued slot w.srv)

/-- `ctl_enqueue`. -/
def ctlEnqueue (kind : UInt8) (opcode : UInt16) (status : Status) (requestId connectionId : UInt32)
    (payload : List UInt8) (w : World E) : World E :=
  if !w.srv.ctlFits b payload.length then sessionTeardown b P (w.act Server.protocolError)
  else w.queue (w.srv.ctlSlotFor kind opcode status requestId connectionId payload)

/-! ## Key states -/

/-- `key_push`; `none` when the queue is full. -/
def Server.keyPush (kind : KeysKind) (reason : KeysReason) (bits capturedUs : UInt64) (s : Server) :
    Option Server :=
  if s.keys.queue.length ≥ keyQueueDepth then none
  else
    let item : KeyItem :=
      { inputSeq := s.keys.inputSeq, capturedUs := capturedUs, bits := bits, kind := kind,
        reason := reason, order := s.nextOrder, connection := s.device.connectionId }
    some { s with keys := { s.keys with queue := s.keys.queue ++ [item] },
                  orderCounter := s.nextOrder }

/-- The input sequence moves on. -/
def Server.bumpInput (s : Server) : Server :=
  { s with keys := { s.keys with inputSeq := s.keys.inputSeq + 1 } }

/-- The overflow branch of `keys_emit`: the queue restarts with a reset and a snapshot. -/
def Server.keysOverflow (capturedUs : UInt64) (s : Server) : Server :=
  let s := { s with keys := { s.keys with queue := [] },
                    stats := s.stats.count .inputResets }
  let s := s.bumpInput
  let s := (s.keyPush .reset .overflow 0 capturedUs).getD s
  let s := s.bumpInput
  (s.keyPush .snapshot .none s.keys.pressedBits capturedUs).getD s

/-- `keys_emit`. -/
def Server.keysEmit (kind : KeysKind) (reason : KeysReason) (bits capturedUs : UInt64) (s : Server) :
    Server :=
  if !s.keys.enabled then s
  else (s.keyPush kind reason bits capturedUs).getD (s.keysOverflow capturedUs)

def Server.setPressed (bits : UInt64) (s : Server) : Server :=
  { s with keys := { s.keys with pressedBits := bits } }

def Server.setCaptured (us : UInt64) (s : Server) : Server :=
  { s with keys := { s.keys with capturedUs := us } }

/-- The body of `rbp_server_on_keys`. -/
def Server.applyKeys (rep : KeysReport) (s : Server) : Server :=
  match rep.kind with
  | .physical =>
    (((s.setPressed rep.pressedBits).bumpInput).setCaptured rep.capturedUs).keysEmit
      .physical rep.reason rep.pressedBits rep.capturedUs
  | .reset =>
    let s := ((s.bumpInput).setCaptured rep.capturedUs).keysEmit .reset rep.reason 0 rep.capturedUs
    if rep.pressedBits != 0 then
      ((s.setPressed rep.pressedBits).bumpInput).keysEmit .snapshot .none rep.pressedBits
        rep.capturedUs
    else s.setPressed 0
  | .snapshot =>
    ((s.setPressed rep.pressedBits).setCaptured rep.capturedUs).keysEmit .snapshot .none
      rep.pressedBits rep.capturedUs

/-- `rbp_server_on_keys`. -/
def onKeys (rep : KeysReport) (w : World E) : World E :=
  (w.act (Server.applyKeys rep)).note (.keys rep w.srv)

def Server.popKey (s : Server) : Server :=
  { s with keys := { s.keys with queue := s.keys.queue.tail } }

/-- The header of a key frame; the session is the one of the moment it is sent. -/
def Server.keyHeader (s : Server) (item : KeyItem) : Header :=
  { kind := kindEvent, sessionId := s.session.id, opcode := EventOp.keysState.code,
    connectionId := item.connection }

/-- `keys_flush_one`. -/
def keysFlushOne (w : World E) : Bool × World E :=
  match w.srv.keys.queue with
  | [] => (false, w)
  | item :: _ =>
    match outTryFrame b P (.key item) (w.srv.keyHeader item) item.buf w with
    | (false, w) => (false, w)
    | (true, w) => (true, w.act Server.popKey)

/-! ## Media items -/

/-- `sample_add`. -/
def sampleAdd (a : UInt64) (n : UInt32) : UInt64 :=
  if a == 0xffffffffffffffff || n == 0xffffffff || 0xffffffffffffffff - a ≤ n.toUInt64 then
    0xffffffffffffffff
  else a + n.toUInt64

/-- The bookkeeping of `media_flush_one` for an item of the current stream. -/
def Voice.delivered (item : MediaItem) (v : Voice) : Voice :=
  match item.opcode with
  | .voiceData =>
    let size := UInt64.ofNat (item.payload.length - audioDataHeader)
    let v := { v with deliveredBytes := v.deliveredBytes + size }
    if get32 item.payload 20 + UInt32.ofNat item.payload.length - UInt32.ofNat audioDataHeader ==
        get32 item.payload 16 then
      { v with deliveredUnits := v.deliveredUnits + 1,
               deliveredSamples := sampleAdd v.deliveredSamples (get32 item.payload 32) }
    else v
  | .voiceStarted | .voiceFormat => { v with deliveredEpoch := get32 item.payload 12 }
  | .voiceEnded => { v with delivering := false, ending := false, streamId := 0 }
  | _ => v

/-- The media item at the head has been sent. -/
def Server.popMedia (item : MediaItem) (s : Server) : Server :=
  let v := if item.stream == s.voice.streamId then s.voice.delivered item else s.voice
  { s with voice := { v with media := v.media.tail } }

def Server.mediaHeader (s : Server) (item : MediaItem) : Header :=
  { kind := if item.opcode = .voiceData then kindAudio else kindEvent, opcode := item.opcode.code,
    sessionId := s.session.id, connectionId := item.connection }

/-- `media_flush_one`. -/
def mediaFlushOne (w : World E) : Bool × World E :=
  if !w.srv.session.active then (false, w)
  else
    match w.srv.voice.media with
    | [] => (false, w)
    | item :: _ =>
      if b.outRing - w.srv.out.len < headerSize + item.payload.length + 6 then (false, w)
      else
        match outTryFrame b P (.media item) (w.srv.mediaHeader item) item.payload w with
        | (false, w) => (false, w)
        | (true, w) => (true, w.act (Server.popMedia item))

/-! ## The scheduler -/

/-- Which queue has its turn. -/
inductive Turn where
  | ctl
  | key
  | media
  deriving DecidableEq, Repr

/-- The head with the smallest order number, and whether it is a control frame. -/
def Server.oldest (s : Server) : Option (UInt32 × Turn) :=
  let key := s.keys.queue.head?.map (·.order)
  let media := s.voice.media.head?.map (·.order)
  let best := s.ctlPeekOrder.map fun o => (o, Turn.ctl)
  let best := match key with
    | none => best
    | some k => if best.all (fun m => m.1 == 0 || decide (k < m.1)) then some (k, .key) else best
  match media with
  | none => best
  | some m => if best.all (fun n => n.1 == 0 || decide (m < n.1)) then some (m, .media) else best

/-- The turn of `rbp_server_flush_output` after `ctlSent` control frames: the oldest head, except that
a run of four control frames gives keys or media a turn. -/
def Server.schedule (ctlSent : Nat) (s : Server) : Option Turn :=
  match s.oldest with
  | none => none
  | some (_, .ctl) =>
    if ctlFlushBurst ≤ ctlSent then
      match s.keys.queue.head?, s.voice.media.head? with
      | none, none => some .ctl
      | some _, none => some .key
      | none, some _ => some .media
      | some k, some m => if k.order ≤ m.order then some .key else some .media
    else some .ctl
  | some (_, turn) => some turn

/-- One turn. -/
def flushTurn (turn : Turn) (w : World E) : Bool × World E :=
  match turn with
  | .ctl => ctlPop b P w
  | .key => keysFlushOne b P w
  | .media => mediaFlushOne b P w

/-- The loop of `rbp_server_flush_output`; every turn but the last removes an item. -/
def flushLoop : Nat → Nat → World E → World E
  | 0, _, w => w
  | fuel + 1, ctlSent, w =>
    match w.srv.schedule ctlSent with
    | none => w
    | some turn =>
      match flushTurn b P turn w with
      | (false, w) => w
      | (true, w) => flushLoop fuel (if turn = .ctl then ctlSent + 1 else ctlSent) w

/-- The number of queued items. -/
def Server.queuedCount (s : Server) : Nat :=
  s.ctlQueued.length + s.keys.queue.length + s.voice.media.length

/-- `rbp_server_flush_output`. -/
def flushOutput (w : World E) : World E :=
  let w := outDrain b P (w.note (.flush w.srv))
  outDrain b P (flushLoop b P (w.srv.queuedCount + 1) 0 w)

end RemoteBridge
