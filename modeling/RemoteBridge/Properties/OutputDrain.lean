import RemoteBridge.Properties.FrameDelivery
import RemoteBridge.Properties.Framing
import RemoteBridge.Properties.QueueBounds

/-!
# Queued frames go out

A host that keeps reading gets everything that is queued.  However few bytes `out()` accepts at a time, and
in whatever order the scheduler takes turns between the queues, every call of `rbp_server_flush_output` makes
the backlog smaller, so that after finitely many calls the three queues and the output ring are empty, the
session is still open, and each queued item has been written once (`reach_queues_drain`).  Its receiver has
then heard each of these frames (`reach_queued_heard`).

An empty ring always has room for the next frame, because no queued payload is too long for one.

The measure is the number of bytes in the ring together with the most that the queued items can take
(`Server.backlog`).  Sending bytes lowers it, and so does a turn of the scheduler: an item leaves its queue
and enters the ring as at most as many bytes as were set aside for it.  A call that does neither finds the
ring and the queues empty, as long as the output accepts at least one byte of what it is offered
(`Platform.Reads`).

What was written is compared with what was queued by `Unloads`: for each of the three queues, the frames
written since are those that have left it, in its order.

The sequence numbers must last for what is queued (`Server.Flowing`).  When they do not, the pump tears the
session down, and the queues are emptied in another way.
-/

namespace RemoteBridge

open World

variable {E : Type} {b : Build} {P : Platform E} {w w' w'' : World E} {s s' : Server}

/-! ## One frame -/

/-- `RBP_MAX_ENCODED`. -/
def maxEncoded : Nat := 552

section Frame

variable {h : Header} {payload bytes : List UInt8} {next : UInt32}

lemma Sendable.length_le (hs : Sendable b h payload s bytes next) : bytes.length ≤ maxEncoded := by
  have henc := encodePayload_eq_frameEncode h s.session.nextTxSeq payload
  exact (encodePayload_shape (henc.trans hs.encoded)).2

lemma Sendable.next_eq (hs : Sendable b h payload s bytes next) : next = s.session.nextTxSeq + 1 := by
  have henc := hs.encoded
  unfold frameEncode at henc
  split at henc
  · cases henc
  · exact (Prod.mk.inj (Option.some.inj henc)).2.symm

lemma Sendable.length_out (hs : Sendable b h payload s bytes next) (hok : s.out.Ok b.outRing) :
    (s.putFrame b bytes next).out.len = s.out.len + bytes.length := by
  obtain ⟨hcontents, -⟩ := Ring.contents_write hok (hs.write hok)
  have hlen := congrArg List.length hcontents
  rwa [List.length_append, Ring.length_contents, Ring.length_contents] at hlen

end Frame

variable (b) in
/-- The session is open, and has numbers for all that is queued. -/
structure Server.Flowing (s : Server) : Prop where
  active : s.session.active = true
  bounded : s.Bounded b
  tx_ne : s.session.nextTxSeq ≠ 0
  numbers : s.session.nextTxSeq.toNat + s.queuedCount < 0xffffffff

/-- A frame is written, unless the ring is almost full. -/
lemma outTryFrame_flowing (hw : w.srv.Flowing b) (origin : Origin) (h : Header) {payload : List UInt8}
    (hlen : payload.length ≤ maxPayload) :
    (∃ bytes next, Sendable b h payload w.srv bytes next ∧
      outTryFrame b P origin h payload w = (true, w.emit b origin h payload bytes next)) ∨
    (outTryFrame b P origin h payload w = (false, w) ∧ b.outRing - w.srv.out.len < maxEncoded) := by
  have hmax : w.srv.session.nextTxSeq ≠ 0xffffffff := by
    intro heq
    have hnumbers := hw.numbers
    rw [heq, show (0xffffffff : UInt32).toNat = 0xffffffff from rfl] at hnumbers
    omega
  have hsome : frameEncode h w.srv.session.nextTxSeq payload =
      some (wireFrame (h.stamped w.srv.session.nextTxSeq payload.length) payload,
        w.srv.session.nextTxSeq + 1) := if_neg (by omega)
  generalize hbytes : wireFrame (h.stamped w.srv.session.nextTxSeq payload.length) payload = bytes at hsome
  by_cases hroom : maxEncoded ≤ b.outRing - w.srv.out.len
  · have hle : bytes.length ≤ maxEncoded := by
      have henc := encodePayload_eq_frameEncode h w.srv.session.nextTxSeq payload
      exact (encodePayload_shape (henc.trans hsome)).2
    refine .inl ⟨bytes, _, ⟨hw.tx_ne, hmax, hsome, hle.trans hroom⟩, ?_⟩
    unfold outTryFrame maxEncoded at *
    dsimp only
    rw [hsome, if_neg (by simp [hw.tx_ne, hmax]), if_neg (by unfold headerSize maxPayload at *; omega)]
    exact if_neg (by omega)
  · unfold outTryFrame
    dsimp only
    rw [hsome, if_neg (by simp [hw.tx_ne, hmax])]
    by_cases hfits : bytes.length ≤ b.outRing - w.srv.out.len ∧
        headerSize + payload.length + 6 ≤ b.outRing - w.srv.out.len
    · refine .inl ⟨bytes, _, ⟨hw.tx_ne, hmax, hsome, hfits.1⟩, ?_⟩
      rw [if_neg (by omega)]
      exact if_neg (by omega)
    · refine .inr ⟨?_, by omega⟩
      split
      · rfl
      · exact if_pos (by omega)

/-! ## Steps of the pump -/

/-- What a queued item puts into its frame. -/
def Origin.payload : Origin → List UInt8
  | .ctl slot => slot.payload
  | .key item => item.buf
  | .media item => item.payload

/-- The header of the frame, before it is stamped. -/
def Origin.header (session : UInt32) : Origin → Header
  | .ctl slot => slot.header
  | .key item =>
    { kind := kindEvent, sessionId := session, opcode := EventOp.keysState.code,
      connectionId := item.connection }
  | .media item =>
    { kind := if item.opcode = .voiceData then kindAudio else kindEvent, opcode := item.opcode.code,
      sessionId := session, connectionId := item.connection }

/-- `f` is the frame of the item. -/
def Origin.Makes (session : UInt32) (o : Origin) (f : Header × List UInt8) : Prop :=
  f.2 = o.payload ∧ ∃ tx, f.1 = (o.header session).stamped tx o.payload.length

/-- The control frames written in `l`, the first one first. -/
def slotsWritten (l : List Ev) : List CtlSlot :=
  l.reverse.filterMap fun
    | .emitted (.ctl slot) _ _ => some slot
    | _ => none

/-- The key states written in `l`, the first one first. -/
def keysWritten (l : List Ev) : List KeyItem :=
  l.reverse.filterMap fun
    | .emitted (.key item) _ _ => some item
    | _ => none

/-- The media items written in `l`, the first one first. -/
def mediaWritten (l : List Ev) : List MediaItem :=
  l.reverse.filterMap fun
    | .emitted (.media item) _ _ => some item
    | _ => none

/-- The session goes on, and what left the queues was written in `l`. -/
structure Unloads (l : List Ev) (s s' : Server) : Prop where
  session : s'.session.id = s.session.id
  ctl : s.ctlQueued.Perm (slotsWritten l ++ s'.ctlQueued)
  keys : s.keys.queue = keysWritten l ++ s'.keys.queue
  media : s.voice.media = mediaWritten l ++ s'.voice.media
  carried : ∀ o h p, Ev.emitted o h p ∈ l → o.Makes s.session.id (h, p)
  refused : ∀ h p, Ev.refused h p ∉ l

/-- `Unloads` for the events between two worlds. -/
def Pumped (w w' : World E) : Prop := ∃ l, w'.log = l ++ w.log ∧ Unloads l w.srv w'.srv

lemma Pumped.refl (w : World E) : Pumped w w :=
  ⟨[], rfl, rfl, .refl _, rfl, rfl, fun _ _ _ h => absurd h List.not_mem_nil, fun _ _ => List.not_mem_nil⟩

/-- One event, which writes nothing. -/
lemma Pumped.aside {e : Ev} (hlog : w'.log = e :: w.log) (he : e.frame? = none)
    (hctl : w'.srv.ctlQueued = w.srv.ctlQueued) (hkeys : w'.srv.keys.queue = w.srv.keys.queue)
    (hmedia : w'.srv.voice.media = w.srv.voice.media) (hid : w'.srv.session.id = w.srv.session.id) :
    Pumped w w' := by
  refine ⟨[e], hlog, hid, ?_, ?_, ?_, fun o h p hmem => ?_, fun h p hmem => ?_⟩
  · rw [hctl]
    cases e <;> first | exact .refl _ | cases he
  · rw [hkeys]
    cases e <;> first | rfl | cases he
  · rw [hmedia]
    cases e <;> first | rfl | cases he
  · obtain rfl := List.mem_singleton.mp hmem
    cases he
  · obtain rfl := List.mem_singleton.mp hmem
    cases he

lemma Pumped.trans (h : Pumped w w') (h' : Pumped w' w'') : Pumped w w'' := by
  obtain ⟨l, hlog, hl⟩ := h
  obtain ⟨l', hlog', hl'⟩ := h'
  refine ⟨l' ++ l, by rw [hlog', hlog, List.append_assoc], hl'.session.trans hl.session, ?_, ?_, ?_, ?_,
    ?_⟩
  · have hctl := hl.ctl.trans (hl'.ctl.append_left _)
    rwa [← List.append_assoc, slotsWritten, slotsWritten, ← List.filterMap_append,
      ← List.reverse_append] at hctl
  · rw [hl.keys, hl'.keys, ← List.append_assoc, keysWritten, keysWritten, ← List.filterMap_append,
      ← List.reverse_append, keysWritten]
  · rw [hl.media, hl'.media, ← List.append_assoc, mediaWritten, mediaWritten, ← List.filterMap_append,
      ← List.reverse_append, mediaWritten]
  · intro o h p he
    rcases List.mem_append.mp he with he | he
    · rw [← hl.session]
      exact hl'.carried o h p he
    · exact hl.carried o h p he
  · intro h p he
    rcases List.mem_append.mp he with he | he
    · exact hl'.refused h p he
    · exact hl.refused h p he

/-- Bytes in the ring, and for each queued item more than its frame can have. -/
def Server.backlog (s : Server) : Nat := s.out.len + (maxEncoded + 1) * s.queuedCount

variable (b) in
/-- A queued item was written. -/
structure Advances (w w' : World E) : Prop where
  pumped : Pumped w w'
  flowing : w'.srv.Flowing b
  less : w'.srv.backlog < w.srv.backlog

/-- A frame is written, and its item leaves its queue. -/
lemma Sendable.advances (origin : Origin) {h : Header} {bytes : List UInt8} {next : UInt32}
    (hs : Sendable b h origin.payload w.srv bytes next) (hw : w.srv.Flowing b) (f : Server → Server)
    (hout : (f (w.srv.putFrame b bytes next)).out = (w.srv.putFrame b bytes next).out)
    (hsession : (f (w.srv.putFrame b bytes next)).session = (w.srv.putFrame b bytes next).session)
    (hsized : (f (w.srv.putFrame b bytes next)).Sized)
    (hcount : (f (w.srv.putFrame b bytes next)).queuedCount + 1 = w.srv.queuedCount)
    (hp : Pumped w ((w.emit b origin h origin.payload bytes next).act f)) :
    Advances b w ((w.emit b origin h origin.payload bytes next).act f) := by
  have hnumbers := hw.numbers
  have hlen := hs.length_le
  have hput := hs.length_out hw.bounded.ok
  have hok := (Ring.contents_write hw.bounded.ok (hs.write hw.bounded.ok)).2
  have hone : (1 : UInt32).toNat = 1 := rfl
  have hnext : (f (w.srv.putFrame b bytes next)).session.nextTxSeq.toNat =
      w.srv.session.nextTxSeq.toNat + 1 := by
    rw [hsession]
    show next.toNat = _
    rw [hs.next_eq, UInt32.toNat_add, hone, Nat.mod_eq_of_lt (by omega)]
  refine ⟨hp, ⟨?_, ⟨?_, hsized⟩, fun h0 => ?_, ?_⟩, ?_⟩
  · exact (congrArg Session.active hsession).trans hw.active
  · exact hout ▸ hok
  · have hzero : (f (w.srv.putFrame b bytes next)).session.nextTxSeq = 0 := h0
    rw [hzero] at hnext
    exact absurd hnext (Nat.zero_ne_add_one _)
  · show (f (w.srv.putFrame b bytes next)).session.nextTxSeq.toNat + _ < _
    rw [hnext]
    show _ + (f (w.srv.putFrame b bytes next)).queuedCount < _
    omega
  · show (f (w.srv.putFrame b bytes next)).backlog < _
    unfold Server.backlog
    rw [hout, hput, ← hcount, Nat.mul_succ]
    omega

/-! ## Turns -/

/-- The next control frame is written, unless the ring is almost full. -/
lemma ctlPop_flowing (hw : w.srv.Flowing b) (hpeek : w.srv.ctlPeekOrder ≠ none) :
    (∃ w', ctlPop b P w = (true, w') ∧ Advances b w w') ∨
      (ctlPop b P w = (false, w) ∧ b.outRing - w.srv.out.len < maxEncoded) := by
  obtain ⟨order, hpeek⟩ := Option.ne_none_iff_exists'.mp hpeek
  have hmem : ∃ slot ∈ w.srv.ctl, slot.used = true ∧ slot.order = order := by
    rcases foldl_keepLeast_mem hpeek with hnone | hslot
    · cases hnone
    · exact hslot
  -- the least order belongs to some slot in use
  obtain ⟨i, hi⟩ : ∃ i, w.srv.ctl.findIdx? (fun slot => slot.used && slot.order == order) = some i := by
    obtain ⟨slot, hslot, hu, ho⟩ := hmem
    refine Option.isSome_iff_exists.mp (List.findIdx?_isSome.trans ?_)
    exact List.any_eq_true.mpr ⟨slot, hslot, by simp [hu, ho]⟩
  obtain ⟨hlt, hslot, -⟩ := List.findIdx?_eq_some_iff_getElem.mp hi
  have hget : w.srv.ctl[i]? = some (w.srv.ctl.getD i {}) := by
    simp [List.getElem?_eq_getElem hlt]
  have hgetD : w.srv.ctl.getD i {} = w.srv.ctl[i] := by simp [hlt]
  simp only [Bool.and_eq_true, beq_iff_eq, ← hgetD] at hslot
  unfold ctlPop
  rw [hpeek]
  dsimp only
  rw [hi]
  dsimp only
  generalize w.srv.ctl.getD i {} = slot at hget hslot
  obtain ⟨hu, -⟩ := hslot
  have hqueued : slot ∈ w.srv.ctlQueued := List.mem_filter.mpr ⟨List.mem_of_getElem? hget, hu⟩
  rcases outTryFrame_flowing (P := P) hw (.ctl slot) slot.header (hw.bounded.sized.ctl slot hqueued) with
    ⟨bytes, next, hs, heq⟩ | ⟨heq, hroom⟩
  · rw [heq]
    refine .inl ⟨_, rfl, ?_⟩
    obtain ⟨xs, ys, hq, hfree⟩ := ctlQueued_freeSlot (s := w.srv.putFrame b bytes next) hget hu
    have hold : w.srv.ctlQueued = xs ++ slot :: ys := hq
    have hcount : ((w.srv.putFrame b bytes next).freeSlot i).queuedCount + 1 = w.srv.queuedCount := by
      unfold Server.queuedCount
      rw [hfree, hold, List.length_append, List.length_append, List.length_cons]
      simp [Server.freeSlot, Server.putFrame, hget]
      omega
    refine Sendable.advances (.ctl slot) hs hw (Server.freeSlot i) (by simp)
      (session_freeSlot _ i) ((hw.bounded.sized.putFrame bytes next).freeSlot i) hcount ?_
    refine ⟨[_], rfl, ⟨?_, ?_, ?_, ?_, ?_, ?_⟩⟩
    · exact (congrArg Session.id (session_freeSlot (w.srv.putFrame b bytes next) i)).trans rfl
    · show w.srv.ctlQueued.Perm (slot :: ((w.srv.putFrame b bytes next).freeSlot i).ctlQueued)
      rw [hold, hfree]
      exact List.perm_middle
    · simp [keysWritten, Server.freeSlot, Server.putFrame, World.emit, hget]
    · simp [mediaWritten, Server.freeSlot, Server.putFrame, World.emit, hget]
    · intro o h p he
      cases List.mem_singleton.mp he
      exact ⟨rfl, _, rfl⟩
    · simp
  · rw [heq]
    exact .inr ⟨rfl, hroom⟩

/-- The next key state is written, unless the ring is almost full. -/
lemma keysFlushOne_flowing (hw : w.srv.Flowing b) {item : KeyItem} {rest : List KeyItem}
    (hq : w.srv.keys.queue = item :: rest) :
    (∃ w', keysFlushOne b P w = (true, w') ∧ Advances b w w') ∨
      (keysFlushOne b P w = (false, w) ∧ b.outRing - w.srv.out.len < maxEncoded) := by
  have hlen : item.buf.length ≤ maxPayload := by
    have hmax : maxPayload = 512 := rfl
    simp [KeyItem.buf]
    omega
  unfold keysFlushOne
  rw [hq]
  dsimp only
  rcases outTryFrame_flowing (P := P) hw (.key item) (w.srv.keyHeader item) hlen with
    ⟨bytes, next, hs, heq⟩ | ⟨heq, hroom⟩
  · rw [heq]
    refine .inl ⟨_, rfl, ?_⟩
    have hcount : (w.srv.putFrame b bytes next).popKey.queuedCount + 1 = w.srv.queuedCount := by
      unfold Server.queuedCount
      rw [hq]
      simp [Server.popKey, Server.putFrame, Server.ctlQueued, hq]
      omega
    refine Sendable.advances (.key item) hs hw Server.popKey rfl rfl
      ⟨hw.bounded.sized.ctl, hw.bounded.sized.media⟩ hcount ?_
    refine ⟨[_], rfl, ⟨rfl, .refl _, ?_, rfl, ?_, by simp⟩⟩
    · show w.srv.keys.queue = item :: w.srv.keys.queue.tail
      rw [hq, List.tail_cons]
    · intro o h p he
      cases List.mem_singleton.mp he
      exact ⟨rfl, _, rfl⟩
  · rw [heq]
    exact .inr ⟨rfl, hroom⟩

/-- The next media item is written, unless the ring is almost full. -/
lemma mediaFlushOne_flowing (hw : w.srv.Flowing b) {item : MediaItem} {rest : List MediaItem}
    (hq : w.srv.voice.media = item :: rest) :
    (∃ w', mediaFlushOne b P w = (true, w') ∧ Advances b w w') ∨
      (mediaFlushOne b P w = (false, w) ∧ b.outRing - w.srv.out.len < maxEncoded) := by
  have hlen : item.payload.length ≤ maxPayload :=
    hw.bounded.sized.media item (hq ▸ List.mem_cons_self)
  have hsize : headerSize + item.payload.length + 6 ≤ maxEncoded := by
    unfold headerSize maxPayload maxEncoded at *
    omega
  unfold mediaFlushOne
  rw [hw.active, hq, if_neg (by simp)]
  dsimp only
  split
  · next hlow => exact .inr ⟨rfl, by omega⟩
  rcases outTryFrame_flowing (P := P) hw (.media item) (w.srv.mediaHeader item) hlen with
    ⟨bytes, next, hs, heq⟩ | ⟨heq, hroom⟩
  · rw [heq]
    refine .inl ⟨_, rfl, ?_⟩
    have hpop := media_popMedia item (w.srv.putFrame b bytes next)
    have hcount : ((w.srv.putFrame b bytes next).popMedia item).queuedCount + 1 = w.srv.queuedCount := by
      unfold Server.queuedCount
      rw [hpop]
      simp [Server.popMedia, Server.putFrame, Server.ctlQueued, hq]
      omega
    refine Sendable.advances (.media item) hs hw (Server.popMedia item) rfl rfl
      ((hw.bounded.sized.putFrame bytes next).popMedia item) hcount ?_
    refine ⟨[_], rfl, ⟨rfl, .refl _, rfl, ?_, ?_, by simp⟩⟩
    · show w.srv.voice.media = item :: ((w.srv.putFrame b bytes next).popMedia item).voice.media
      rw [hpop]
      show w.srv.voice.media = item :: w.srv.voice.media.tail
      rw [hq, List.tail_cons]
    · intro o h p he
      cases List.mem_singleton.mp he
      exact ⟨rfl, _, rfl⟩
  · rw [heq]
    exact .inr ⟨rfl, hroom⟩

/-- The scheduler rests when nothing is queued. -/
lemma schedule_none {n : Nat} (h : s.schedule n = none) : s.queuedCount = 0 := by
  have hold : s.oldest = none := by
    unfold Server.schedule at h
    split at h
    · assumption
    · split at h
      · split at h
        all_goals first | cases h | (split at h <;> cases h)
      · cases h
    · cases h
  have hempty : s.keys.queue = [] ∧ s.voice.media = [] ∧ s.ctlPeekOrder = none := by
    unfold Server.oldest at hold
    cases hk : s.keys.queue <;> cases hm : s.voice.media <;> cases hp : s.ctlPeekOrder <;>
      simp [hk, hm, hp] at hold ⊢
    all_goals (repeat' split at hold) <;> simp at hold
  obtain ⟨hkeys, hmedia, hpeek⟩ := hempty
  unfold Server.queuedCount
  rw [hkeys, hmedia, ctlQueued_of_peek_none hpeek]
  rfl

/-- Control frames get a turn only if there are some. -/
lemma peek_of_schedule {n : Nat} (h : s.schedule n = some .ctl) : s.ctlPeekOrder ≠ none := by
  intro hpeek
  have hturn : ∀ o, s.oldest ≠ some (o, .ctl) := by
    intro o hold
    unfold Server.oldest at hold
    cases hk : s.keys.queue <;> cases hm : s.voice.media <;> simp [hk, hm, hpeek] at hold
    all_goals split at hold <;> simp at hold
  unfold Server.schedule at h
  split at h
  · cases h
  · next o hold => exact hturn o hold
  · next o turn hnot hold =>
    cases h
    exact hturn o hold

lemma flushTurn_flowing (hw : w.srv.Flowing b) {n : Nat} {turn : Turn}
    (hturn : w.srv.schedule n = some turn) :
    (∃ w', flushTurn b P turn w = (true, w') ∧ Advances b w w') ∨
      (flushTurn b P turn w = (false, w) ∧ b.outRing - w.srv.out.len < maxEncoded) := by
  obtain ⟨hkey, hmedia⟩ := schedule_cases hturn
  cases turn with
  | ctl => exact ctlPop_flowing hw (peek_of_schedule hturn)
  | key =>
    obtain ⟨item, rest, hq, -⟩ := hkey rfl
    exact keysFlushOne_flowing hw hq
  | media =>
    obtain ⟨item, rest, hq, -⟩ := hmedia rfl
    exact mediaFlushOne_flowing hw hq

/-! ## The pump -/

variable (b) in
/-- The session goes on, and nothing was added. -/
structure Pumps (w w' : World E) : Prop where
  pumped : Pumped w w'
  flowing : w'.srv.Flowing b
  le : w'.srv.backlog ≤ w.srv.backlog

lemma Advances.pumps (h : Advances b w w') : Pumps b w w' := ⟨h.pumped, h.flowing, Nat.le_of_lt h.less⟩

namespace Pumps

lemma refl (hw : w.srv.Flowing b) : Pumps b w w := ⟨.refl w, hw, Nat.le_refl _⟩

lemma trans (h : Pumps b w w') (h' : Pumps b w' w'') : Pumps b w w'' :=
  ⟨h.pumped.trans h'.pumped, h'.flowing, h'.le.trans h.le⟩

end Pumps

/-- Bytes leave the ring. -/
lemma pumps_send (hw : w.srv.Flowing b) {n : Nat} (hn : n ≤ (w.srv.chunk b).length) :
    Pumps b w (w.send b n) ∧ (w.send b n).srv.backlog + n = w.srv.backlog := by
  have hlen : n ≤ w.srv.out.len := by
    unfold Server.chunk at hn
    rw [List.length_take, Ring.length_contents] at hn
    omega
  have hback : (w.send b n).srv.backlog + n = w.srv.backlog := by
    show w.srv.out.len - n + _ + n = w.srv.out.len + _
    have hcount : (w.send b n).srv.queuedCount = w.srv.queuedCount := rfl
    rw [hcount]
    omega
  refine ⟨⟨.aside rfl rfl rfl rfl rfl rfl, ?_, by omega⟩, hback⟩
  exact ⟨hw.active, ⟨(Ring.contents_consume hw.bounded.ok hlen).2,
    ⟨hw.bounded.sized.ctl, hw.bounded.sized.media⟩⟩, hw.tx_ne, hw.numbers⟩

lemma pumps_outDrainLoop (P : Platform E) (fuel : Nat) (hw : w.srv.Flowing b) :
    Pumps b w (outDrainLoop b P fuel w) := by
  induction fuel generalizing w with
  | zero => exact .refl hw
  | succ fuel ih =>
    have hsend := (pumps_send hw (P.out_le w (w.srv.chunk b))).1
    unfold outDrainLoop
    dsimp only
    split
    · exact .refl hw
    · split
      · exact .refl hw
      · split
        · exact hsend
        · exact hsend.trans (ih hsend.flowing)

lemma pumps_flushLoop (P : Platform E) (fuel n : Nat) (hw : w.srv.Flowing b) :
    Pumps b w (flushLoop b P fuel n w) := by
  induction fuel generalizing w n with
  | zero => exact .refl hw
  | succ fuel ih =>
    unfold flushLoop
    split
    · exact .refl hw
    · next turn hturn =>
      rcases flushTurn_flowing (P := P) hw hturn with ⟨v, heq, ha⟩ | ⟨heq, -⟩
      · rw [heq]
        exact ha.pumps.trans (ih _ ha.flowing)
      · rw [heq]
        exact .refl hw

/-- A host that takes at least one byte of what it is offered. -/
def Platform.Reads (P : Platform E) : Prop := ∀ w chunk, chunk ≠ [] → 0 < P.out w chunk

/-- A host that reads takes something out of a ring that is not empty. -/
lemma outDrain_less (hP : P.Reads) (hw : w.srv.Flowing b) (hlen : 0 < w.srv.out.len) :
    (outDrain b P w).srv.backlog < w.srv.backlog := by
  obtain ⟨fuel, hfuel⟩ := Nat.exists_eq_add_of_lt hlen
  rw [Nat.zero_add] at hfuel
  have hchunk : w.srv.chunk b ≠ [] := by
    have hhead := hw.bounded.ok.head_lt
    unfold Server.chunk
    rw [Ne, List.take_eq_nil_iff, not_or]
    refine ⟨by omega, fun hnil => ?_⟩
    have hzero := congrArg List.length hnil
    rw [Ring.length_contents] at hzero
    exact absurd hzero (by simp; omega)
  have hpos := hP w _ hchunk
  obtain ⟨hsend, hback⟩ := pumps_send hw (P.out_le w (w.srv.chunk b))
  unfold outDrain
  rw [hfuel]
  unfold outDrainLoop
  dsimp only
  rw [if_neg (by omega), if_neg (by omega)]
  split
  · omega
  · have hrest := (pumps_outDrainLoop P fuel hsend.flowing).le
    omega

/-- An empty ring takes the next frame. -/
lemma flushLoop_less (hring : maxEncoded ≤ b.outRing) (hw : w.srv.Flowing b) (hlen : w.srv.out.len = 0)
    (hcount : 0 < w.srv.queuedCount) (fuel n : Nat) :
    (flushLoop b P (fuel + 1) n w).srv.backlog < w.srv.backlog := by
  unfold flushLoop
  split
  · next hnone => exact absurd (schedule_none hnone) (by omega)
  · next turn hturn =>
    rcases flushTurn_flowing (P := P) hw hturn with ⟨v, heq, ha⟩ | ⟨-, hroom⟩
    · rw [heq]
      exact Nat.lt_of_le_of_lt (pumps_flushLoop P fuel _ ha.flowing).le ha.less
    · omega

lemma pumps_outDrain (P : Platform E) (hw : w.srv.Flowing b) : Pumps b w (outDrain b P w) :=
  pumps_outDrainLoop P _ hw

/-- One call of `rbp_server_flush_output`. -/
lemma pumps_flushOutput (P : Platform E) (hw : w.srv.Flowing b) : Pumps b w (flushOutput b P w) := by
  have hnote : Pumps b w (w.note (.flush w.srv)) := ⟨.aside rfl rfl rfl rfl rfl rfl, hw, Nat.le_refl _⟩
  have hdrain := hnote.trans (pumps_outDrain P hnote.flowing)
  unfold flushOutput
  dsimp only
  generalize outDrain b P (w.note (.flush w.srv)) = v at hdrain ⊢
  have hloop := hdrain.trans (pumps_flushLoop P (v.srv.queuedCount + 1) 0 hdrain.flowing)
  exact hloop.trans (pumps_outDrain P hloop.flowing)

/-- While something is left, a call of `rbp_server_flush_output` makes it less. -/
lemma flushOutput_less (hring : maxEncoded ≤ b.outRing) (hP : P.Reads) (hw : w.srv.Flowing b)
    (hleft : 0 < w.srv.backlog) : (flushOutput b P w).srv.backlog < w.srv.backlog := by
  have hflow : (w.note (.flush w.srv)).srv.Flowing b := hw
  have hdrain := pumps_outDrain P hflow
  have hfirst : 0 < w.srv.out.len →
      (outDrain b P (w.note (.flush w.srv))).srv.backlog < w.srv.backlog := outDrain_less hP hflow
  have hrest : w.srv.out.len = 0 → outDrain b P (w.note (.flush w.srv)) = w.note (.flush w.srv) := by
    intro hzero
    unfold outDrain
    rw [srv_note, hzero]
    rfl
  unfold flushOutput
  dsimp only
  generalize outDrain b P (w.note (.flush w.srv)) = v at hdrain hfirst hrest ⊢
  have hloop := pumps_flushLoop P (v.srv.queuedCount + 1) 0 hdrain.flowing
  have hlast := (pumps_outDrain P hloop.flowing).le
  by_cases hlen : 0 < w.srv.out.len
  · exact Nat.lt_of_le_of_lt (hlast.trans hloop.le) (hfirst hlen)
  · have hzero : w.srv.out.len = 0 := by omega
    obtain rfl := hrest hzero
    have hcount : 0 < w.srv.queuedCount := by
      unfold Server.backlog at hleft
      rw [hzero, Nat.zero_add] at hleft
      exact Nat.pos_of_mul_pos_left hleft
    exact Nat.lt_of_le_of_lt hlast (flushLoop_less hring hflow hzero hcount _ 0)

/-! ## Calls -/

/-- Calls of `rbp_server_flush_output`, each with a host of its own. -/
def flushes (b : Build) (hosts : List (Platform E)) (w : World E) : World E :=
  hosts.foldl (fun w P => flushOutput b P w) w

lemma pumps_flushes (hosts : List (Platform E)) (hw : w.srv.Flowing b) : Pumps b w (flushes b hosts w) := by
  induction hosts generalizing w with
  | nil => exact .refl hw
  | cons P hosts ih =>
    have hfirst := pumps_flushOutput P hw
    exact hfirst.trans (ih hfirst.flowing)

lemma backlog_flushes (hring : maxEncoded ≤ b.outRing) (hosts : List (Platform E))
    (hreads : ∀ P ∈ hosts, P.Reads) (hw : w.srv.Flowing b) (hn : w.srv.backlog ≤ hosts.length) :
    (flushes b hosts w).srv.backlog = 0 := by
  induction hosts generalizing w with
  | nil => exact Nat.le_zero.mp hn
  | cons P hosts ih =>
    obtain ⟨hP, hrest⟩ := List.forall_mem_cons.mp hreads
    have hfirst := pumps_flushOutput P hw
    show (flushes b hosts (flushOutput b P w)).srv.backlog = 0
    refine ih hrest hfirst.flowing ?_
    rw [List.length_cons] at hn
    by_cases hleft : 0 < w.srv.backlog
    · have hless := flushOutput_less hring hP hw hleft
      omega
    · have hle := hfirst.le
      omega

/-- What is queued in an open session that has numbers left. -/
lemma Reach.flowing {ok : Input → Prop} (hw : Reach b ok w) (ha : w.srv.session.active = true)
    (hnumbers : w.srv.session.nextTxSeq.toNat + w.srv.queuedCount < 0xffffffff) : w.srv.Flowing b := by
  have hnum := Reach.numbering hw
  have hlive : (sessionView w.log).live = true := hnum.signed.active.symm.trans ha
  obtain ⟨-, -, -, hne⟩ := view_begun hnum.frames hlive
  refine ⟨ha, hw.bounded, fun h0 => ?_, hnumbers⟩
  have hnext := hnum.signed.next
  rw [if_neg hne, h0] at hnext
  exact absurd hnext (Nat.zero_ne_add_one _)

/-- The calls drain the queues and the ring. -/
lemma Server.Flowing.drained (hw : w.srv.Flowing b) (hring : maxEncoded ≤ b.outRing)
    (hosts : List (Platform E)) (hreads : ∀ P ∈ hosts, P.Reads) (hn : w.srv.backlog ≤ hosts.length) :
    (flushes b hosts w).srv.out.len = 0 ∧ (flushes b hosts w).srv.ctlQueued = [] ∧
      (flushes b hosts w).srv.keys.queue = [] ∧ (flushes b hosts w).srv.voice.media = [] := by
  have hzero := backlog_flushes hring hosts hreads hw hn
  unfold Server.backlog at hzero
  obtain ⟨hout, hcount⟩ := Nat.add_eq_zero_iff.mp hzero
  have hnone := (Nat.mul_eq_zero.mp hcount).resolve_left (Nat.succ_ne_zero _)
  unfold Server.queuedCount at hnone
  refine ⟨hout, List.eq_nil_of_length_eq_zero ?_, List.eq_nil_of_length_eq_zero ?_,
    List.eq_nil_of_length_eq_zero ?_⟩ <;> omega

/-- **Queued frames go out.**  From any state with an open session that has numbers left, hosts that take at
least one byte of what they are offered get everything after as many calls as the backlog counts: the queues
and the ring are empty, the session is the same, and the frames written since then are those of the control
queue, the key queue and the media queue, each item once, keys and media in their order. -/
theorem reach_queues_drain (hring : maxEncoded ≤ b.outRing) (hw : Reach b anyInput w)
    (ha : w.srv.session.active = true)
    (hnumbers : w.srv.session.nextTxSeq.toNat + w.srv.queuedCount < 0xffffffff)
    (hosts : List (Platform E)) (hreads : ∀ P ∈ hosts, P.Reads) (hn : w.srv.backlog ≤ hosts.length) :
    let w' := flushes b hosts w
    w'.srv.out.len = 0 ∧ w'.srv.ctlQueued = [] ∧ w'.srv.keys.queue = [] ∧ w'.srv.voice.media = [] ∧
      w'.srv.session.active = true ∧ w'.srv.session.id = w.srv.session.id ∧
      ∃ l, w'.log = l ++ w.log ∧ w.srv.ctlQueued.Perm (slotsWritten l) ∧
        w.srv.keys.queue = keysWritten l ∧ w.srv.voice.media = mediaWritten l ∧
        ∀ o h p, Ev.emitted o h p ∈ l → o.Makes w.srv.session.id (h, p) := by
  intro w'
  have hflow := hw.flowing ha hnumbers
  obtain ⟨⟨l, hlog, hl⟩, hflow', -⟩ := pumps_flushes hosts hflow
  obtain ⟨hout, hctl, hkeys, hmedia⟩ := hflow.drained hring hosts hreads hn
  refine ⟨hout, hctl, hkeys, hmedia, hflow'.active, hl.session, l, hlog, ?_, ?_, ?_, hl.carried⟩
  · have hperm := hl.ctl
    rwa [hctl, List.append_nil] at hperm
  · have hwritten := hl.keys
    rwa [hkeys, List.append_nil] at hwritten
  · have hwritten := hl.media
    rwa [hmedia, List.append_nil] at hwritten

lemma reads_thirstyPlatform : thirstyPlatform.Reads := fun _ _ h => List.length_pos_iff.mpr h

lemma reads_replicate (n : Nat) : ∀ P ∈ List.replicate n thirstyPlatform, P.Reads := by
  intro P hP
  rw [List.eq_of_mem_replicate hP]
  exact reads_thirstyPlatform

lemma honest_replicate (n : Nat) :
    ∀ P ∈ List.replicate n thirstyPlatform, ∃ m, Honest Build.default m P := by
  intro P hP
  rw [List.eq_of_mem_replicate hP]
  exact ⟨0, fun _ w => .refl w⟩

/-- A host has opened a session, and its reply is queued. -/
def greetingWorld : World Unit :=
  freshWorld.listens (hostHeader .hello 0 1 0) 1 (tlvPutBytes 1 (List.replicate 16 7) [])

lemma reach_greetingWorld {ok : Input → Prop} (hok : ∀ data nowMs, ok (.usbRx data nowMs)) :
    Reach Build.default ok greetingWorld :=
  reach_freshWorld.listens hok rfl (by decide)

lemma greetingWorld_facts : greetingWorld.srv.session.active = true ∧
    greetingWorld.srv.session.nextTxSeq.toNat + greetingWorld.srv.queuedCount < 0xffffffff ∧
    greetingWorld.srv.backlog ≤ 600 := by
  decide +kernel

/-- The reply leaves the control queue. -/
theorem reach_queues_drain_greetingWorld :
    (flushes Build.default (List.replicate 600 thirstyPlatform) greetingWorld).srv.ctlQueued = [] := by
  obtain ⟨ha, hnumbers, hle⟩ := greetingWorld_facts
  exact (reach_queues_drain (by decide) (reach_greetingWorld fun _ _ => trivial) ha hnumbers
    (List.replicate 600 thirstyPlatform) (reads_replicate 600)
    (hle.trans_eq List.length_replicate.symm)).2.1

/-! ## The host -/

/-- Everything that waits in a queue. -/
def Server.queuedItems (s : Server) : List Origin :=
  s.ctlQueued.map .ctl ++ s.keys.queue.map .key ++ s.voice.media.map .media

/-- Reading the items of one queue off a log. -/
lemma mem_written {β : Type} {f : Ev → Option β} {l : List Ev} {x : β} {o : Origin}
    (hf : ∀ e, f e = some x ↔ ∃ h p, e = Ev.emitted o h p) :
    x ∈ l.reverse.filterMap f ↔ ∃ h p, Ev.emitted o h p ∈ l := by
  simp only [List.mem_filterMap, List.mem_reverse, hf]
  constructor
  · rintro ⟨-, he, h, p, rfl⟩
    exact ⟨h, p, he⟩
  · rintro ⟨h, p, he⟩
    exact ⟨_, he, h, p, rfl⟩

lemma mem_slotsWritten {l : List Ev} {slot : CtlSlot} :
    slot ∈ slotsWritten l ↔ ∃ h p, Ev.emitted (.ctl slot) h p ∈ l :=
  mem_written fun e => by
    cases e with
    | emitted o h p => cases o <;> simp
    | _ => simp

lemma mem_keysWritten {l : List Ev} {item : KeyItem} :
    item ∈ keysWritten l ↔ ∃ h p, Ev.emitted (.key item) h p ∈ l :=
  mem_written fun e => by
    cases e with
    | emitted o h p => cases o <;> simp
    | _ => simp

lemma mem_mediaWritten {l : List Ev} {item : MediaItem} :
    item ∈ mediaWritten l ↔ ∃ h p, Ev.emitted (.media item) h p ∈ l :=
  mem_written fun e => by
    cases e with
    | emitted o h p => cases o <;> simp
    | _ => simp

/-- What was queued is what was written, once nothing is queued any more. -/
lemma Unloads.mem_queuedItems {l : List Ev} (hl : Unloads l s s') (hctl : s'.ctlQueued = [])
    (hkeys : s'.keys.queue = []) (hmedia : s'.voice.media = []) (o : Origin) :
    o ∈ s.queuedItems ↔ ∃ h p, Ev.emitted o h p ∈ l := by
  have hslots := hl.ctl
  have hkey := hl.keys
  have hitem := hl.media
  rw [hctl, List.append_nil] at hslots
  rw [hkeys, List.append_nil] at hkey
  rw [hmedia, List.append_nil] at hitem
  unfold Server.queuedItems
  rw [List.mem_append, List.mem_append, hkey, hitem]
  cases o with
  | ctl slot => simpa [hslots.mem_iff] using mem_slotsWritten
  | key item => simpa using mem_keysWritten
  | media item => simpa using mem_mediaWritten

lemma framesOf_append (id : UInt32) (l log : List Ev) :
    framesOf id (l ++ log) = framesOf id log ++ framesOf id l := by
  unfold framesOf writtenFrames
  rw [List.filterMap_append, List.reverse_append, List.filter_append]

lemma Reach.flushes {ok : Input → Prop} (hok : ok .flush) (hosts : List (Platform E))
    (hhonest : ∀ P ∈ hosts, ∃ n, Honest b n P) (hw : Reach b ok w) :
    Reach b ok (RemoteBridge.flushes b hosts w) := by
  induction hosts generalizing w with
  | nil => exact hw
  | cons P hosts ih =>
    obtain ⟨⟨n, hP⟩, hrest⟩ := List.forall_mem_cons.mp hhonest
    exact ih hrest (.input n P .flush hP hok hw)

/-- **What is queued reaches the host.**  The host has read what hosts that take at least one byte at a time
have been given after as many calls as the backlog counts.  Then it has heard the frames of the session that
were written before, and after them those of the queued items, one for each item of the session. -/
theorem reach_queued_heard (hring : maxEncoded ≤ b.outRing) (hw : Reach b Input.keepsHost w)
    (ha : w.srv.session.active = true)
    (hnumbers : w.srv.session.nextTxSeq.toNat + w.srv.queuedCount < 0xffffffff)
    (hosts : List (Platform E)) (hreads : ∀ P ∈ hosts, P.Reads)
    (hhonest : ∀ P ∈ hosts, ∃ n, Honest b n P) (hn : w.srv.backlog ≤ hosts.length)
    (schedule : List (List UInt8 × Nat))
    (hbytes : (schedule.map Prod.fst).flatten = sentBytes (flushes b hosts w).log)
    (htime : Python.Event.timeout ∉ (Python.FrameParser.feedAll schedule {}).1) :
    let id := w.srv.session.id
    ∃ new, (Python.FrameParser.feedAll schedule {}).1.filter (Python.Event.isOf id) =
        (framesOf id w.log ++ new).map Python.Event.heard ∧
      (∀ f ∈ new, ∃ o ∈ w.srv.queuedItems, o.Makes id f) ∧
      ∀ o ∈ w.srv.queuedItems, (o.header id).sessionId = id → ∃ f ∈ new, o.Makes id f := by
  intro id
  have hflow := Reach.flowing hw ha hnumbers
  obtain ⟨⟨l, hlog, hl⟩, hflow', -⟩ := pumps_flushes hosts hflow
  obtain ⟨hout, hctl, hkeys, hmedia⟩ := hflow.drained hring hosts hreads hn
  have hreach : Reach b Input.keepsHost (flushes b hosts w) := Reach.flushes trivial hosts hhonest hw
  have hitems := hl.mem_queuedItems hctl hkeys hmedia
  have hheard := Reach.heard_all hreach hflow'.active schedule hbytes htime hout
  rw [hl.session, hlog, framesOf_append] at hheard
  refine ⟨framesOf id l, hheard, fun f hf => ?_, fun o ho hid => ?_⟩
  · obtain ⟨hf, -⟩ := List.mem_filter.mp hf
    obtain ⟨e, he, hframe⟩ := List.mem_filterMap.mp (List.mem_reverse.mp hf)
    cases e with
    | emitted o h p =>
      cases hframe
      exact ⟨o, (hitems o).mpr ⟨h, p, he⟩, hl.carried o h p he⟩
    | refused h p => exact absurd he (hl.refused h p)
    | _ => cases hframe
  · obtain ⟨h, p, he⟩ := (hitems o).mp ho
    have hmakes := hl.carried o h p he
    refine ⟨(h, p), List.mem_filter.mpr ⟨?_, ?_⟩, hmakes⟩
    · exact List.mem_reverse.mpr (List.mem_filterMap.mpr ⟨_, he, rfl⟩)
    · obtain ⟨-, tx, htx⟩ := hmakes
      rw [htx]
      exact beq_iff_eq.mpr hid

lemma greetingWorld_reply : greetingWorld.srv.session.id = 1 ∧
    ∃ slot ∈ greetingWorld.srv.ctlQueued, slot.session = 1 ∧ slot.opcode = RequestOp.hello.code ∧
      slot.requestId = 1 := by
  decide +kernel

/-- The host hears the reply. -/
theorem reach_queued_heard_greetingWorld :
    ∃ f : Header × List UInt8, f.1.opcode = RequestOp.hello.code ∧ f.1.requestId = 1 ∧
      Python.Event.heard f ∈ (Python.FrameParser.feedAll [(sentBytes
        (flushes Build.default (List.replicate 600 thirstyPlatform) greetingWorld).log, 0)] {}).1 := by
  obtain ⟨ha, hnumbers, hle⟩ := greetingWorld_facts
  obtain ⟨hid, slot, hslot, hsession, hopcode, hrequest⟩ := greetingWorld_reply
  obtain ⟨new, hheard, -, hnew⟩ := reach_queued_heard (by decide)
    (reach_greetingWorld fun _ _ => trivial) ha hnumbers (List.replicate 600 thirstyPlatform)
    (reads_replicate 600) (honest_replicate 600) (hle.trans_eq List.length_replicate.symm) [(_, 0)]
    (flatten_read _ 0) (Python.timeout_not_mem_feedAll _ 0)
  have hqueued : Origin.ctl slot ∈ greetingWorld.srv.queuedItems :=
    List.mem_append_left _ (List.mem_append_left _ (List.mem_map_of_mem hslot))
  have hown : ((Origin.ctl slot).header greetingWorld.srv.session.id).sessionId =
      greetingWorld.srv.session.id := hsession.trans hid.symm
  obtain ⟨f, hf, -, tx, hmakes⟩ := hnew (.ctl slot) hqueued hown
  have hmem := List.mem_map_of_mem (f := Python.Event.heard)
    (List.mem_append_right (framesOf greetingWorld.srv.session.id greetingWorld.log) hf)
  rw [← hheard] at hmem
  refine ⟨f, ?_, ?_, List.mem_of_mem_filter hmem⟩
  · rw [hmakes]
    exact hopcode
  · rw [hmakes]
    exact hrequest

end RemoteBridge
