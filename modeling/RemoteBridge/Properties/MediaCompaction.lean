import RemoteBridge.Product.MediaPool
import RemoteBridge.Product.Host

/-!
# The media queue is a list

Wherever the two rings of the media queue have their heads, and however their contents wrap, the operations
of the queue are those of a list of items (`media_compaction`): an item is appended, the front item leaves,
and cutting a stream is a filter.  The one operation that is none of these is the teardown of a session that
has used up its sequence numbers.  The media queue of the server, which is such a list, is what the pool
holds (`MediaPool.Holds`).

The delicate operation is the cut.  `media_discard_current` walks over the markers from the oldest to the
newest and writes each item that stays behind those that were kept before it, in the very rings it is
reading; that no byte is overwritten before it was read is proved in `Product.MediaPool`, where the loop has
its invariant (`Compacted`).  Here the operations are put in a row.

The statement is about runs from an empty pool with any heads.  What the server queues and when is its own
matter; the last section only says that its list and the pool answer alike, and that both are full at the
same moment.
-/

namespace RemoteBridge

variable {b : Build} {p : MediaPool} {q : MediaQueue}

/-! ## Runs -/

/-- What happens to the media queue. -/
inductive MediaOp where
  | enqueue (turns : List FlushTurn) (item : MediaItem)
  | flushOne (send : MediaSend)
  | discardCurrent (streamId : UInt32)
  | teardown
  | create

def MediaOp.run (b : Build) (p : MediaPool) : MediaOp → MediaPool
  | .enqueue turns item => (p.enqueue b turns item).2
  | .flushOne send => (p.flushOne b send).2
  | .discardCurrent streamId => p.discardCurrent b streamId
  | .teardown => p.teardown
  | .create => { p with sessionActive := true }

/-- A run. -/
def MediaPool.runs (b : Build) (p : MediaPool) (ops : List MediaOp) : MediaPool := ops.foldl (MediaOp.run b) p

lemma MediaPool.Ok.run (h : p.Ok b) (op : MediaOp) : (op.run b p).Ok b := by
  cases op with
  | enqueue turns item => exact (h.enqueue turns item).1
  | flushOne send => exact (h.flushOne send).1
  | discardCurrent streamId => exact (h.discardCurrent streamId).1
  | teardown => exact h.teardown
  | create => exact ⟨h.audio, h.mediaQ, h.bytes⟩

lemma MediaPool.Ok.runs (h : p.Ok b) (ops : List MediaOp) : (p.runs b ops).Ok b := by
  unfold MediaPool.runs
  induction ops generalizing p with
  | nil => exact h
  | cons op ops ih => exact ih (h.run op)

/-- A flush takes items off the front only. -/
lemma MediaQueue.flushOne_drop (q : MediaQueue) (send : MediaSend) :
    ∃ k, (q.flushOne send).2.items = q.items.drop k := by
  unfold MediaQueue.flushOne
  split
  next => exact ⟨0, rfl⟩
  next item rest hq =>
    by_cases hidle : (!q.active || decide (send.room < headerSize + item.payload.length + 6)) = true
    · rw [if_pos hidle]
      exact ⟨0, rfl⟩
    rw [if_neg hidle]
    by_cases hseq : txExhausted send.nextTxSeq = true
    · rw [if_pos hseq]
      exact ⟨q.items.length, List.drop_length.symm⟩
    rw [if_neg hseq]
    by_cases hsent : send.sent = true
    · rw [if_pos hsent]
      exact ⟨1, by rw [hq]; rfl⟩
    · rw [if_neg hsent]
      exact ⟨0, rfl⟩

lemma MediaQueue.flush_drop (q : MediaQueue) (turns : List FlushTurn) :
    ∃ k, (q.flush turns).items = q.items.drop k := by
  unfold MediaQueue.flush
  induction turns generalizing q with
  | nil => exact ⟨0, rfl⟩
  | cons turn turns ih =>
    obtain ⟨k, hk⟩ : ∃ k, (q.flushTurn turn).items = q.items.drop k := by
      cases turn with
      | media send => exact q.flushOne_drop send
      | other nextTxSeq =>
        unfold MediaQueue.flushTurn
        dsimp only
        split
        · exact ⟨q.items.length, List.drop_length.symm⟩
        · exact ⟨0, rfl⟩
    obtain ⟨n, hn⟩ := ih (q.flushTurn turn)
    rw [List.foldl_cons, hn, hk, List.drop_drop]
    exact ⟨k + n, rfl⟩

/-- `media_enqueue` appends one item or none. -/
lemma MediaQueue.enqueue_items (q : MediaQueue) (turns : List FlushTurn) (item : MediaItem) :
    ∃ k, (q.full b item.payload.length = false → k = 0) ∧
      (q.enqueue b turns item).2.items = q.items.drop k ++ if (q.enqueue b turns item).1 then [item] else [] := by
  obtain ⟨q', hq'⟩ : ∃ q', q' = if q.full b item.payload.length then q.flush turns else q := ⟨_, rfl⟩
  obtain ⟨k, hk, hdrop⟩ : ∃ k, (q.full b item.payload.length = false → k = 0) ∧ q'.items = q.items.drop k := by
    rw [hq']
    cases q.full b item.payload.length with
    | false => exact ⟨0, fun _ => rfl, rfl⟩
    | true =>
      obtain ⟨k, hk⟩ := q.flush_drop turns
      exact ⟨k, fun hroom => absurd hroom nofun, hk⟩
  refine ⟨k, hk, ?_⟩
  unfold MediaQueue.enqueue
  dsimp only
  rw [← hq', ← hdrop]
  by_cases hfail : (!q'.active || q'.full b item.payload.length) = true
  · rw [if_pos hfail]
    exact (List.append_nil _).symm
  · rw [if_neg hfail]
    rfl

/-- `media_flush_one` removes the front item or none. -/
lemma MediaQueue.flushOne_items (q : MediaQueue) {send : MediaSend} (hseq : txExhausted send.nextTxSeq = false) :
    q.items = (q.flushOne send).1.toList ++ (q.flushOne send).2.items := by
  unfold MediaQueue.flushOne
  split
  next => rfl
  next item rest hq =>
    by_cases hidle : (!q.active || decide (send.room < headerSize + item.payload.length + 6)) = true
    · rw [if_pos hidle]
      rfl
    rw [if_neg hidle, hseq, if_neg Bool.false_ne_true]
    by_cases hsent : send.sent = true
    · rw [if_pos hsent]
      exact hq
    · rw [if_neg hsent]
      rfl

/-- The media queue is a list: an item is appended, after a flush where it does not fit; the front item leaves
when it is sent; cutting a stream leaves the items of other streams and the starts of streams.  Without a
sequence number for the frame the session is torn down.  In every run the pool is filled by the payloads. -/
theorem media_compaction (h : p.Ok b) :
    (∀ turns item, ((p.enqueue b turns item).1, (p.enqueue b turns item).2.queue b) = (p.queue b).enqueue b turns item ∧
      ∃ k, ((p.queue b).full b item.payload.length = false → k = 0) ∧
        (p.enqueue b turns item).2.items b =
          (p.items b).drop k ++ if (p.enqueue b turns item).1 then [item] else []) ∧
      (∀ send, ((p.flushOne b send).1, (p.flushOne b send).2.queue b) = (p.queue b).flushOne send ∧
        (txExhausted send.nextTxSeq = false →
          p.items b = (p.flushOne b send).1.toList ++ (p.flushOne b send).2.items b)) ∧
      (∀ streamId, (p.discardCurrent b streamId).items b =
        (p.items b).filter fun item => !(item.stream == streamId && item.opcode != .voiceStarted)) ∧
      ∀ ops, (p.runs b ops).Ok b ∧
        (((p.runs b ops).items b).map (·.payload.length)).sum = (p.runs b ops).audio.len := by
  refine ⟨fun turns item => ?_, fun send => ?_, fun streamId => ?_, fun ops => ⟨h.runs ops, (h.runs ops).sum_items⟩⟩
  · have hqueue := (h.enqueue turns item).2
    refine ⟨hqueue, ?_⟩
    obtain ⟨k, hk, hitems⟩ := (p.queue b).enqueue_items (b := b) turns item
    rw [← hqueue] at hitems
    exact ⟨k, hk, hitems⟩
  · have hqueue := (h.flushOne send).2
    refine ⟨hqueue, fun hseq => ?_⟩
    have hitems := (p.queue b).flushOne_items hseq
    rw [← hqueue] at hitems
    exact hitems
  · exact congrArg MediaQueue.items (h.discardCurrent streamId).2

/-- An item of a stream. -/
def streamItem (stream : UInt32) (opcode : EventOp) (payload : List UInt8) : MediaItem :=
  { stream := stream, connection := 7, order := 1, opcode := opcode, payload := payload }

/-- A pool whose heads are at the ends of both rings. -/
def turnedPool : MediaPool :=
  { sessionActive := true
    audio := { mem := fun _ => 0, head := 2046, len := 0 }
    mediaQ := { mem := fun _ => (streamItem 0 .voiceData []).marker, head := 15, len := 0 } }

lemma turnedPool_ok : turnedPool.Ok .default :=
  ⟨⟨by decide, by decide⟩, ⟨by decide, by decide⟩, rfl⟩

/-- The items of two streams, over the ends of both rings. -/
def twoStreams : MediaPool :=
  turnedPool.runs .default
    [.enqueue [] (streamItem 1 .voiceEnded [1, 2, 3]), .enqueue [] (streamItem 2 .voiceStarted [4]),
      .enqueue [] (streamItem 2 .voiceData [5, 6]), .enqueue [] (streamItem 3 .voiceStarted [7, 8])]

theorem media_compaction_twoStreams :
    (twoStreams.discardCurrent .default 2).items .default =
      [streamItem 1 .voiceEnded [1, 2, 3], streamItem 2 .voiceStarted [4], streamItem 3 .voiceStarted [7, 8]] :=
  ((media_compaction (turnedPool_ok.runs _)).2.2.1 2).trans (by decide)

/-- Without a sequence number for its frame, `media_flush_one` neither removes the front item only nor leaves
the queue as it is. -/
theorem media_flush_exhausted :
    ¬ ∀ (p : MediaPool) (send : MediaSend), p.Ok .default →
      (p.flushOne .default send).2.items .default = p.items .default ∨
        (p.flushOne .default send).2.items .default = (p.items .default).tail := by
  intro h
  have hboth := h twoStreams { room := 2048, nextTxSeq := 0xffffffff, sent := true } (turnedPool_ok.runs _)
  revert hboth
  decide

/-! ## The media queue of the server -/

def Server.mediaQueue (s : Server) : MediaQueue := { active := s.session.active, items := s.voice.media }

/-- The pool holds the media queue of the server. -/
structure MediaPool.Holds (b : Build) (p : MediaPool) (s : Server) : Prop where
  ok : p.Ok b
  queue : p.queue b = s.mediaQueue

section Holds

variable {s : Server}

lemma MediaPool.Holds.full_eq (h : p.Holds b s) (n : Nat) : p.full b n = s.mediaFull b n := by
  rw [h.ok.full_eq, h.queue]
  rfl

/-- `media_enqueue` with a place for the item. -/
lemma MediaPool.Holds.put (h : p.Holds b s) {item : MediaItem} (hroom : s.mediaFull b item.payload.length = false) :
    (p.put b item.marker item.payload).Holds b (s.putMedia item) := by
  rw [← h.full_eq, full] at hroom
  simp only [Bool.or_eq_false_iff, decide_eq_false_iff_not, Nat.not_le, Nat.not_lt] at hroom
  obtain ⟨hok, hitems, -⟩ := h.ok.put (m := item.marker) rfl hroom.1 hroom.2
  refine ⟨hok, ?_⟩
  have hqueue := h.queue
  unfold MediaPool.queue Server.mediaQueue at hqueue ⊢
  rw [hitems]
  injection hqueue with hactive hlist
  congr 1
  rw [hlist]
  rfl

/-- `media_discard_current`. -/
lemma MediaPool.Holds.discardCurrent (h : p.Holds b s) :
    (p.discardCurrent b s.voice.streamId).Holds b s.mediaDiscardCurrent := by
  obtain ⟨hok, hqueue⟩ := h.ok.discardCurrent s.voice.streamId
  exact ⟨hok, hqueue.trans (congrArg (MediaQueue.discardCurrent · s.voice.streamId) h.queue)⟩

/-- `session_teardown`. -/
lemma MediaPool.Holds.withdraw (h : p.Holds b s) : p.teardown.Holds b (s.withdraw b) := by
  refine ⟨h.ok.teardown, ?_⟩
  rw [MediaPool.queue_teardown, Server.mediaQueue, active_withdraw]
  unfold Server.withdraw Server.stopDelivery Voice.stopDelivery
  dsimp only
  split <;> rfl

/-- With a sequence number left, a frame goes into the ring or nothing happens. -/
lemma outTryFrame_kept {E : Type} {P : Platform E} {w : World E} (hseq : txExhausted w.srv.session.nextTxSeq = false)
    (origin : Origin) (h : Header) (payload : List UInt8) :
    outTryFrame b P origin h payload w = (false, w) ∨
      ∃ bytes next, outTryFrame b P origin h payload w = (true, w.emit b origin h payload bytes next) := by
  unfold txExhausted at hseq
  unfold outTryFrame
  dsimp only
  rw [hseq, if_neg Bool.false_ne_true]
  split
  · exact .inl rfl
  · split
    · exact .inl rfl
    · next bytes next _ =>
      split
      · exact .inl rfl
      · exact .inr ⟨bytes, next, rfl⟩

/-- With a sequence number left, `media_flush_one` sends the front item or does nothing. -/
lemma mediaFlushOne_kept {E : Type} {P : Platform E} {w : World E} (hseq : txExhausted w.srv.session.nextTxSeq = false) :
    mediaFlushOne b P w = (false, w) ∨
      ∃ item rest bytes next, w.srv.session.active = true ∧ w.srv.voice.media = item :: rest ∧
        ¬ b.outRing - w.srv.out.len < headerSize + item.payload.length + 6 ∧
        mediaFlushOne b P w = (true,
          (w.emit b (.media item) (w.srv.mediaHeader item) item.payload bytes next).act (Server.popMedia item)) := by
  unfold mediaFlushOne
  cases hactive : w.srv.session.active with
  | false => exact .inl rfl
  | true =>
    cases hmedia : w.srv.voice.media with
    | nil => exact .inl rfl
    | cons item rest =>
      dsimp only
      rw [Bool.not_true, if_neg Bool.false_ne_true]
      by_cases hroom : b.outRing - w.srv.out.len < headerSize + item.payload.length + 6
      · exact .inl (if_pos hroom)
      rw [if_neg hroom]
      rcases outTryFrame_kept (b := b) (P := P) hseq (.media item) (w.srv.mediaHeader item) item.payload with
        heq | ⟨bytes, next, heq⟩
      · exact .inl (by rw [heq])
      · exact .inr ⟨item, rest, bytes, next, rfl, rfl, hroom, by rw [heq]⟩

/-- `media_flush_one` with a sequence number for the frame: the pool does what the server does. -/
lemma MediaPool.Holds.flushOne {E : Type} {P : Platform E} {w : World E} (h : p.Holds b w.srv)
    (hseq : txExhausted w.srv.session.nextTxSeq = false) :
    (p.flushOne b ⟨b.outRing - w.srv.out.len, w.srv.session.nextTxSeq, (mediaFlushOne b P w).1⟩).2.Holds b
      (mediaFlushOne b P w).2.srv := by
  obtain ⟨hok, hqueue⟩ := h.ok.flushOne ⟨b.outRing - w.srv.out.len, w.srv.session.nextTxSeq, (mediaFlushOne b P w).1⟩
  refine ⟨hok, (congrArg Prod.snd hqueue).trans ?_⟩
  rw [h.queue]
  rcases mediaFlushOne_kept (b := b) (P := P) hseq with heq | ⟨item, rest, bytes, next, hactive, hmedia, hroom, heq⟩
  · rw [heq, MediaQueue.flushOne]
    split
    next => rfl
    next =>
      split
      · rfl
      · rw [hseq]
        rfl
  · have hlist : w.srv.mediaQueue.items = item :: rest := hmedia
    have hopen : w.srv.mediaQueue.active = true := hactive
    rw [heq, MediaQueue.flushOne, hlist]
    dsimp only
    rw [hopen, decide_eq_false hroom, Bool.not_true, Bool.false_or, if_neg Bool.false_ne_true, hseq,
      if_neg Bool.false_ne_true, if_pos rfl]
    unfold Server.mediaQueue
    rw [World.srv_act, media_popMedia]
    change MediaQueue.mk true rest = MediaQueue.mk w.srv.session.active w.srv.voice.media.tail
    rw [hactive, hmedia]
    rfl

end Holds

end RemoteBridge
