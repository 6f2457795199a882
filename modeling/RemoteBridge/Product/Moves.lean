import RemoteBridge.Product.Runs

/-!
# The moves of the server

Every function of the server is a composition of a small number of moves: an item enters a queue, a
frame leaves one, a session is withdrawn, a stream is opened or cut, a flag is set.  `Moves b k w w'`
collects what a function of level `k` can do, each move with the conditions under which the code makes
it:

* level 0: the output pump;
* level 1: cutting a stream and reporting keys, which is all that happens while a link is being left;
* level 2: callbacks;
* level 3: the handlers of requests, up to their replies.

A move at any level may end the session, and what the backend reports then is a run of level 2.  Above
level 0 output is pumped only to make room for a media item, so only while a stream is delivered.  Where
a function reads the server, pumps output and then uses what it read, the pump is part of the move.

An invariant is proved by induction on `Moves`, and holds then for every function that decomposes into
moves; no function is opened twice.
-/

namespace RemoteBridge

open World

variable {E : Type} (b : Build)

/-! ## Conditions -/

/-- `out_try_frame` writes the frame as `bytes`. -/
structure Sendable (h : Header) (payload : List UInt8) (s : Server) (bytes : List UInt8)
    (next : UInt32) : Prop where
  tx_ne_zero : s.session.nextTxSeq ≠ 0
  tx_ne_max : s.session.nextTxSeq ≠ 0xffffffff
  encoded : frameEncode h s.session.nextTxSeq payload = some (bytes, next)
  fits : bytes.length ≤ b.outRing - s.out.len

/-- No queued control frame is older than `order`. -/
def Server.InOrder (s : Server) (order : UInt32) : Prop := ∀ slot ∈ s.ctlQueued, ¬ slot.order < order

/-- Some queued key state or media item is younger than `order`. -/
def Server.overtakes (s : Server) (order : UInt32) : Bool :=
  s.keys.queue.any (fun it => decide (order < it.order)) ||
    s.voice.media.any (fun it => decide (order < it.order))

/-- How many queued control frames are older than some queued key state or media item. -/
def Server.crowd (s : Server) : Nat := (s.ctlQueued.filter fun slot => s.overtakes slot.order).length

/-- Some pump of the output began with more control frames in front than its burst. -/
def Crowded (log : List Ev) : Prop := ∃ s, Ev.flush s ∈ log ∧ ctlFlushBurst < s.crowd

/-- Some queued control frame or key state has the order number that the scheduler takes for none. -/
def Server.Wrapped (s : Server) : Prop :=
  (∃ slot ∈ s.ctlQueued, slot.order = 0) ∨ ∃ item ∈ s.keys.queue, item.order = 0

/-- The scheduler sends an item in its turn, or one of the two exceptions applies. -/
def InTurn (w : World E) (order : UInt32) : Prop :=
  w.srv.InOrder order ∨ Crowded w.log ∨ w.srv.Wrapped

/-- Room for frames with payloads of the given lengths, in a session. -/
def Server.roomFor (s : Server) (lens : List Nat) : Bool :=
  s.session.active && decide (lens.length ≤ (s.ctl.filter (!·.used)).length) &&
    decide (lens.sum ≤ b.ctlBytes - s.ctlUsed)

/-- Some granted request did not find room for its frames. -/
def Ungranted (log : List Ev) : Prop := ∃ lens s, Ev.granted lens s ∈ log ∧ s.roomFor b lens = false

/-- Some granted `EVENTS_ENABLE(true)`, the request with one empty frame, did not find room for it. -/
def Unsubscribed (log : List Ev) : Prop := ∃ s, Ev.granted [0] s ∈ log ∧ s.roomFor b [0] = false

variable {b} in
lemma Unsubscribed.ungranted {log : List Ev} (h : Unsubscribed b log) : Ungranted b log := by
  obtain ⟨s, hs, hroom⟩ := h
  exact ⟨[0], s, hs, hroom⟩

/-- An operation is begun. -/
def Ev.begins : Ev → Bool
  | .begun _ _ _ => true
  | _ => false

/-- An operation or a session is begun. -/
def Ev.starts : Ev → Bool
  | .begun _ _ _ => true
  | .opened _ _ => true
  | _ => false

lemma Ev.begins_of_starts {e : Ev} (h : e.starts = false) : e.begins = false := by
  cases e <;> first | rfl | cases h

/-- Some fault was reported with a reason that is not one. -/
def OddFault (log : List Ev) : Prop := ∃ reason : EndReason, Ev.fault reason ∈ log ∧ reason.drains = true

/-! ## Changes that are free -/

/-- The fields that describe the stream and its queue; everything else is wiped. -/
def Voice.core (v : Voice) : Voice :=
  { v with
    enabled := false, denied := false, resumePeer := 0, waitingIdle := false, sourceStartedMs := 0,
    caps := none, stopRequested := false, stopDeadlineMs := 0, captureLimited := false,
    captureDeadlineMs := 0, sourceActive := false, firstAudioDeadline := 0, progressDeadline := 0,
    gotAudioThisStream := false }

/-- A change outside of sessions, queues, link and stream; flags may only be taken back. -/
structure Quiet (s s' : Server) : Prop where
  out : s'.out = s.out
  ctl : s'.ctl = s.ctl
  ctlUsed : s'.ctlUsed = s.ctlUsed
  order : s'.orderCounter = s.orderCounter
  session : s'.session = s.session
  keys : s'.keys = s.keys
  link : s'.device.linkState = s.device.linkState
  connection : s'.device.connectionId = s.device.connectionId
  counter : s'.device.connectionCounter = s.device.connectionCounter
  profile : s'.device.profile = s.device.profile
  stream : s'.voice.core = s.voice.core
  voice : s'.voice.enabled = true → s.voice.enabled = true
  find : s'.find.active = true → s.find.active = true
  prompt : s'.prompt.active = true → s.prompt.active = true
  cancel : s'.prompt.cancelRequested = s.prompt.cancelRequested
  op : { s'.op with pairReadyPending := false } = { s.op with pairReadyPending := false }
  stats : s.stats.Grows s'.stats

/-! ## Moves -/

/-- The link leaves `READY` for a new state. -/
def Server.leaves (s : Server) (state : LinkState) : Bool :=
  decide (s.device.linkState = .ready ∧ state ≠ .ready)

/-- The link has a new state, for which it has left `READY` or not. -/
def Server.settle (left : Bool) (state : LinkState) (s : Server) : Server :=
  let s := if left then s.disableEvents else s
  if state.down then s.linkDown else s

/-- The state of the device is announced; without room for the event the session ends. -/
def World.announce (connCtx : UInt32) (w : World E) : World E :=
  if w.srv.ctlFits b w.srv.deviceInfoTlv.length then w.queue (w.srv.deviceSlot connCtx)
  else (w.act Server.protocolError).withdraw b

/-- The reply to `EVENTS_ENABLE(true)` has just been queued. -/
def Subscribes (w : World E) : Prop :=
  ∃ slot s l, w.log = Ev.queued slot s :: l ∧ slot.kind = kindResponse ∧
    slot.opcode = RequestOp.eventsEnable.code ∧ slot.status = Status.ok.code ∧
    slot.order = w.srv.orderCounter

/-- An operation is begun for a request, which has not begun one yet; no session was begun since. -/
def Begins (hd : Header) (w : World E) : Prop :=
  ∃ l payload s l', w.log = l ++ Ev.request hd payload s :: l' ∧ ∀ e ∈ l, e.starts = false

/-- Some session was torn down with a prompt that belongs to no pairing. -/
def Strayed (log : List Ev) : Prop :=
  ∃ s, Ev.closed s ∈ log ∧ s.prompt.active = true ∧ s.op.kind ≠ some .pair

/-- The pairing is cancelled. -/
def World.cancel (w : World E) : World E :=
  (w.act Server.cancelPair).note (.called .pairCancel w.srv.cancelPair)

/-- The operation of `w` is over, but not yet completed: the backend may have to be told. -/
inductive Retires (w : World E) : World E → Prop
  | plain (hp : w.srv.prompt.active = false ∨ w.srv.op.kind ≠ some .pair ∨
        w.srv.prompt.cancelRequested = true) : Retires w (w.act Server.endOp)
  | cancel (hc : w.srv.prompt.cancelRequested = false) (hk : w.srv.op.kind = some .pair) :
      Retires w (w.act Server.endOp).cancel

/-- What the control events say. -/
inductive Reported (w : World E) : EventOp → List UInt8 → Prop
  | device : Reported w .deviceState w.srv.deviceInfoTlv
  | findDone (payload : List UInt8) : Reported w .findDone payload
  | prompt (ho : w.srv.op.active = true ∧ w.srv.op.kind = some .pair) (id : UInt32)
      (method : PromptMethod) (number remainingMs : UInt32) :
      Reported w .pairPrompt (promptTlv w.srv.op.id id method number remainingMs)
  | operation (d : OpDone) (s : Server) (l : List Ev) (hl : w.log = .completed d s :: l) :
      Reported w .operation d.tlv

/-- The unit in progress, or a new one. -/
def Voice.SameUnit (v : Voice) (size samples : UInt32) : Prop :=
  v.unitOffset = 0 ∨ (size = v.unitSize ∧ samples = v.unitSamples)

/-- What a fragment has to meet to be queued. -/
structure Voice.TakesFragment (v : Voice) (size samples : UInt32) (fragment : List UInt8) : Prop where
  delivering : v.delivering = true
  not_ending : v.ending = false
  size_le : size ≤ v.formatMaxUnit
  nonempty : fragment ≠ []
  length_le : fragment.length ≤ 256
  in_unit : v.unitOffset.toNat + fragment.length ≤ size.toNat
  frame_ne : v.frameSeq ≠ 0xffffffff
  units_ne : v.sourceUnits ≠ 0xffffffff
  same_size : size = v.unitSize
  same_samples : samples = v.unitSamples

/-- What functions of level `k` can do. -/
inductive Moves : Nat → World E → World E → Prop
  | refl {k : Nat} (w : World E) : Moves k w w
  /-- `out()` accepts bytes. -/
  | send {k : Nat} {w₀ w : World E} (hk : k = 0) (n : Nat) (hn : n ≤ (w.srv.chunk b).length) (h : Moves k w₀ w) :
      Moves k w₀ (w.send b n)
  | flush {k : Nat} {w₀ w : World E} (hk : k = 0) (h : Moves k w₀ w) : Moves k w₀ (w.note (.flush w.srv))
  | emitCtl {k : Nat} {w₀ w : World E} (hk : k = 0) (i : Nat) (slot : CtlSlot) (bytes : List UInt8) (next : UInt32)
      (hi : w.srv.ctl[i]? = some slot) (hu : slot.used = true)
      (ho : w.srv.ctlPeekOrder = some slot.order)
      (hs : Sendable b slot.header slot.payload w.srv bytes next)
      (hq : ∀ it ∈ w.srv.keys.queue.head?, ¬ it.order < slot.order) (h : Moves k w₀ w) :
      Moves k w₀ ((w.emit b (.ctl slot) slot.header slot.payload bytes next).act (Server.freeSlot i))
  | emitKey {k : Nat} {w₀ w : World E} (hk : k = 0) (item : KeyItem) (rest : List KeyItem) (bytes : List UInt8)
      (next : UInt32) (hq : w.srv.keys.queue = item :: rest) (ht : InTurn w item.order)
      (hs : Sendable b (w.srv.keyHeader item) item.buf w.srv bytes next) (h : Moves k w₀ w) :
      Moves k w₀ ((w.emit b (.key item) (w.srv.keyHeader item) item.buf bytes next).act Server.popKey)
  | emitMedia {k : Nat} {w₀ w : World E} (hk : k = 0) (item : MediaItem) (rest : List MediaItem)
      (bytes : List UInt8) (next : UInt32) (ha : w.srv.session.active = true)
      (hq : w.srv.voice.media = item :: rest) (ht : InTurn w item.order)
      (hs : Sendable b (w.srv.mediaHeader item) item.payload w.srv bytes next) (h : Moves k w₀ w) :
      Moves k w₀ ((w.emit b (.media item) (w.srv.mediaHeader item) item.payload bytes next).act
        (Server.popMedia item))
  /-- Output is pumped to make room in the media queue. -/
  | pump {k : Nat} {w₀ w w' : World E} (hk : 1 ≤ k) (hd : w.srv.voice.delivering = true)
      (hf : Moves 0 w w') (h : Moves k w₀ w) : Moves k w₀ w'
  /-- The session is torn down, with whatever the backend reports then. -/
  | teardown {k : Nat} {w₀ w w' : World E} (h : Moves k w₀ w) (hr : Moves 2 (w.withdraw b) w') :
      Moves k w₀ w'
  | keys {k : Nat} {w₀ w : World E} (hk : 1 ≤ k) (rep : KeysReport) (h : Moves k w₀ w) :
      Moves k w₀ (onKeys rep w)
  /-- The queued items of a stream are dropped. -/
  | discard {k : Nat} {w₀ w : World E} (hk : 1 ≤ k) (hd : w.srv.voice.delivering = true)
      (h : Moves k w₀ w) : Moves k w₀ (w.act Server.mediaDiscardCurrent)
  /-- A stream is cut: its items are dropped and its end is queued. -/
  | cut {k : Nat} {w₀ w w' : World E} (hk : 1 ≤ k) (reason : EndReason)
      (hd : w.srv.voice.delivering = true) (hr : reason.drains = false ∨ OddFault w.log)
      (hf : Moves 0 (w.act Server.mediaDiscardCurrent) w') (ha : w'.srv.session.active = true)
      (h : Moves k w₀ w) :
      Moves k w₀ ((w'.pushMedia .voiceEnded (w.srv.mediaDiscardCurrent.endTlv reason true)).act
        (Server.endQueued true))
  /-- A stream ends in order: its end is queued behind its items. -/
  | drain {k : Nat} {w₀ w w' : World E} (hk : 1 ≤ k) (reason : EndReason)
      (hd : w.srv.voice.delivering = true) (he : w.srv.voice.ending = false)
      (hu : w.srv.voice.unitOffset = 0) (hf : Moves 0 w w') (ha : w'.srv.session.active = true)
      (h : Moves k w₀ w) :
      Moves k w₀ ((w'.pushMedia .voiceEnded (w.srv.endTlv reason false)).act (Server.endQueued false))
  | env {k : Nat} {w₀ w : World E} (hk : 2 ≤ k) (e : E) (h : Moves k w₀ w) :
      Moves k w₀ { w with env := e }
  | quiet {k : Nat} {w₀ w : World E} (hk : 2 ≤ k) (f : Server → Server) (hq : Quiet w.srv (f w.srv))
      (h : Moves k w₀ w) : Moves k w₀ (w.act f)
  | called {k : Nat} {w₀ w : World E} (hk : 2 ≤ k) (c : BackendCall)
      (hc : ∀ cid, c = .pairBegin cid → 3 ≤ k ∧ (w.srv.session.active = true ∨ Ungranted b w.log))
      (hp : c ≠ .pairCancel) (h : Moves k w₀ w) : Moves k w₀ (w.note (.called c w.srv))
  | fault {k : Nat} {w₀ w : World E} (hk : 2 ≤ k) (reason : EndReason) (h : Moves k w₀ w) :
      Moves k w₀ (w.note (.fault reason))
  /-- An event frame is queued. -/
  | event {k : Nat} {w₀ w : World E} (hk : 2 ≤ k) (op : EventOp) (connectionId : UInt32)
      (payload : List UInt8) (hp : Reported w op payload)
      (hf : w.srv.ctlFits b payload.length = true) (h : Moves k w₀ w) :
      Moves k w₀ (w.queue (w.srv.ctlSlotFor kindEvent op.code .ok 0 connectionId payload))
  /-- The link changes: a connection may get its id, a link that leaves `READY` cuts its stream and
  releases the keys on the way, and the new state is announced. -/
  | link {k : Nat} {w₀ w w₁ w₂ : World E} (hk : 2 ≤ k) (state : LinkState) (connCtx : UInt32)
      (hn : w₁ = w ∨ (w.srv.device.connectionId = 0 ∧ ∃ proposed, w₁ = w.connected proposed))
      (hc : state = .ready → w₁.srv.device.connectionId ≠ 0)
      (hs : w.srv.leaves state = false → w₂ = w₁.act (Server.setLink state))
      (hw : Moves 1 (w₁.act (Server.setLink state)) w₂) (h : Moves k w₀ w) :
      Moves k w₀ ((w₂.act (Server.settle (w.srv.leaves state) state)).announce b connCtx)
  /-- The profile of the device changes, and the new state is announced. -/
  | profile {k : Nat} {w₀ w : World E} (hk : 2 ≤ k) (profile : Option DeviceProfile)
      (connCtx : UInt32) (h : Moves k w₀ w) :
      Moves k w₀ ((w.profiled profile).announce b connCtx)
  /-- A stream is opened and its start is queued. -/
  | start {k : Nat} {w₀ w w' : World E} (hk : 2 ≤ k) (f : AudioFormat)
      (hd : w.srv.voice.delivering = false) (hc : w.srv.codecAccepted f = true)
      (hn : w.srv.voice.nextStreamId ≠ 0xffffffff) (hf : Moves 0 (w.act Server.openStream) w')
      (ha : w'.srv.session.active = true) (h : Moves k w₀ w) :
      Moves k w₀ ((w'.pushMedia .voiceStarted (w.srv.openStream.formatTlv f true)).act
        (Server.formatQueued f 1))
  /-- A stream is opened and dropped, because its start found no room. -/
  | noStart {k : Nat} {w₀ w w' : World E} (hk : 2 ≤ k) (f : AudioFormat)
      (hd : w.srv.voice.delivering = false) (hc : w.srv.codecAccepted f = true)
      (hn : w.srv.voice.nextStreamId ≠ 0xffffffff) (hf : Moves 0 (w.act Server.openStream) w')
      (h : Moves k w₀ w) : Moves k w₀ (w'.act Server.dropStream)
  | format {k : Nat} {w₀ w w' : World E} (hk : 2 ≤ k) (f : AudioFormat)
      (hd : w.srv.voice.delivering = true) (he : w.srv.voice.ending = false)
      (hc : w.srv.codecAccepted f = true) (hu : w.srv.voice.unitOffset = 0)
      (hm : w.srv.voice.epoch ≠ 0xffffffff) (hf : Moves 0 w w') (ha : w'.srv.session.active = true)
      (h : Moves k w₀ w) :
      Moves k w₀ ((w'.pushMedia .voiceFormat (w.srv.formatTlv f false)).act
        (Server.formatQueued f (w.srv.voice.epoch + 1)))
  | unit {k : Nat} {w₀ w : World E} (hk : 2 ≤ k) (size samples : UInt32)
      (hu : w.srv.voice.SameUnit size samples) (h : Moves k w₀ w) :
      Moves k w₀ (w.act (Server.setUnit size samples))
  | fragment {k : Nat} {w₀ w w' : World E} (hk : 2 ≤ k) (size samples : UInt32)
      (fragment : List UInt8) (ht : w.srv.voice.TakesFragment size samples fragment)
      (hf : Moves 0 w w') (ha : w'.srv.session.active = true) (h : Moves k w₀ w) :
      Moves k w₀ ((w'.pushMedia .voiceData (w.srv.dataPayload size samples fragment)).act
        (Server.dataQueued size samples fragment.length))
  /-- Voice is enabled again for a device that came back. -/
  | resumeVoice {k : Nat} {w₀ w : World E} (hk : 2 ≤ k) (ha : w.srv.session.active = true)
      (h : Moves k w₀ w) : Moves k w₀ (w.act Server.resumeVoice)
  | prompt {k : Nat} {w₀ w : World E} (hk : 2 ≤ k) (id : UInt32) (method : PromptMethod)
      (number remainingMs : UInt32) (ho : w.srv.op.active = true ∧ w.srv.op.kind = some .pair)
      (hc : w.srv.prompt.cancelRequested = false) (h : Moves k w₀ w) :
      Moves k w₀ (w.act (Server.showPrompt id method number remainingMs))
  | cancel {k : Nat} {w₀ w : World E} (hk : 2 ≤ k) (hc : w.srv.prompt.cancelRequested = false)
      (hp : w.srv.op.kind = some .pair ∨ w.srv.prompt.active = true ∨ Strayed w.log)
      (h : Moves k w₀ w) : Moves k w₀ w.cancel
  /-- An operation ends, with whatever the backend reports then, and is completed. -/
  | finish {k : Nat} {w₀ w v w' : World E} (hk : 2 ≤ k) (d : OpDone)
      (ho : w.srv.op.active = true) (hv : Retires w v) (hm : Moves 2 v w')
      (hd : d.opId = w'.srv.op.id) (h : Moves k w₀ w) : Moves k w₀ (w'.complete d)
  | granted {k : Nat} {w₀ w : World E} (hk : 3 ≤ k) (lens : List Nat) (h : Moves k w₀ w) :
      Moves k w₀ (w.note (.granted lens w.srv))
  | enableEvents {k : Nat} {w₀ w : World E} (hk : 3 ≤ k)
      (hg : (w.srv.session.active = true ∧ w.srv.device.linkState = .ready ∧
        w.srv.device.connectionId ≠ 0 ∧ Subscribes w) ∨ Unsubscribed b w.log) (h : Moves k w₀ w) :
      Moves k w₀ w.subscribe
  | stopEvents {k : Nat} {w₀ w : World E} (hk : 3 ≤ k) (h : Moves k w₀ w) :
      Moves k w₀ (w.act Server.stopEvents)
  | beginFind {k : Nat} {w₀ w : World E} (hk : 3 ≤ k) (id : UInt32) (duration : UInt16)
      (ha : w.srv.session.active = true) (h : Moves k w₀ w) :
      Moves k w₀ (w.act (Server.beginFind id duration))
  | beginOp {k : Nat} {w₀ w : World E} (hk : 3 ≤ k) (kind : OpKind) (hd : Header)
      (deadlineMs : UInt32) (ho : w.srv.op.active = false) (hb : Begins hd w)
      (ha : kind = .pair → w.srv.session.active = true ∨ Ungranted b w.log) (h : Moves k w₀ w) :
      Moves k w₀ (w.beginOp kind hd deadlineMs)
  | enableVoice {k : Nat} {w₀ w : World E} (hk : 3 ≤ k) (codecs : List UInt8) (maxUnit : UInt32)
      (ha : w.srv.session.active = true)
      (hs : w.srv.voice.delivering = true →
        w.srv.voice.acceptedCodecs = codecs ∧ w.srv.voice.acceptedMaxUnit = maxUnit)
      (h : Moves k w₀ w) : Moves k w₀ (w.act (Server.enableVoice codecs maxUnit))
  | disableVoice {k : Nat} {w₀ w : World E} (hk : 3 ≤ k) (h : Moves k w₀ w) :
      Moves k w₀ (w.act Server.disableVoice)

namespace Moves

variable {b} {k k' : Nat} {w w' w'' : World E}

/-- Moves compose. -/
lemma trans (h₁ : Moves b k w w') (h₂ : Moves b k w' w'') : Moves b k w w'' := by
  induction h₂ with
  | refl => exact h₁
  | send hk n hn _ ih => exact .send hk n hn (ih h₁)
  | flush hk _ ih => exact .flush hk (ih h₁)
  | emitCtl hk i slot bytes next hi hu ho hs hq _ ih =>
    exact .emitCtl hk i slot bytes next hi hu ho hs hq (ih h₁)
  | emitKey hk item rest bytes next hq ht hs _ ih =>
    exact .emitKey hk item rest bytes next hq ht hs (ih h₁)
  | emitMedia hk item rest bytes next ha hq ht hs _ ih =>
    exact .emitMedia hk item rest bytes next ha hq ht hs (ih h₁)
  | pump hk hd hf _ _ ih => exact .pump hk hd hf (ih h₁)
  | teardown _ hr ih => exact .teardown (ih h₁) hr
  | keys hk rep _ ih => exact .keys hk rep (ih h₁)
  | discard hk hd _ ih => exact .discard hk hd (ih h₁)
  | cut hk reason hd hr hf ha _ _ ih => exact .cut hk reason hd hr hf ha (ih h₁)
  | drain hk reason hd he hu hf ha _ _ ih => exact .drain hk reason hd he hu hf ha (ih h₁)
  | env hk e _ ih => exact .env hk e (ih h₁)
  | quiet hk f hq _ ih => exact .quiet hk f hq (ih h₁)
  | called hk c hc hp _ ih => exact .called hk c hc hp (ih h₁)
  | fault hk reason _ ih => exact .fault hk reason (ih h₁)
  | event hk op conn payload hp hf _ ih => exact .event hk op conn payload hp hf (ih h₁)
  | link hk state ctx hn hc hs hw _ _ ih => exact .link hk state ctx hn hc hs hw (ih h₁)
  | profile hk profile ctx _ ih => exact .profile hk profile ctx (ih h₁)
  | start hk f hd hc hn hf ha _ _ ih => exact .start hk f hd hc hn hf ha (ih h₁)
  | noStart hk f hd hc hn hf _ _ ih => exact .noStart hk f hd hc hn hf (ih h₁)
  | format hk f hd he hc hu hm hf ha _ _ ih => exact .format hk f hd he hc hu hm hf ha (ih h₁)
  | unit hk size samples hu _ ih => exact .unit hk size samples hu (ih h₁)
  | fragment hk size samples fr ht hf ha _ _ ih => exact .fragment hk size samples fr ht hf ha (ih h₁)
  | resumeVoice hk ha _ ih => exact .resumeVoice hk ha (ih h₁)
  | prompt hk id m n r ho hc _ ih => exact .prompt hk id m n r ho hc (ih h₁)
  | cancel hk hc hp _ ih => exact .cancel hk hc hp (ih h₁)
  | finish hk d ho hv hm hd _ _ ih => exact .finish hk d ho hv hm hd (ih h₁)
  | granted hk lens _ ih => exact .granted hk lens (ih h₁)
  | enableEvents hk hg _ ih => exact .enableEvents hk hg (ih h₁)
  | stopEvents hk _ ih => exact .stopEvents hk (ih h₁)
  | beginFind hk id d ha _ ih => exact .beginFind hk id d ha (ih h₁)
  | beginOp hk kind hd dl ho hb ha _ ih => exact .beginOp hk kind hd dl ho hb ha (ih h₁)
  | enableVoice hk c m ha hs _ ih => exact .enableVoice hk c m ha hs (ih h₁)
  | disableVoice hk _ ih => exact .disableVoice hk (ih h₁)

end Moves

end RemoteBridge
