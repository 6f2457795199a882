import RemoteBridge.Product.Frames
import RemoteBridge.Properties.CausalOrder

/-!
# The control queue is a queue

Control frames sit in an array of slots, and the next one to leave is the one with the smallest order
number.  As long as the order numbers do not wrap, this makes the array a queue: control frames leave in
the order in which they were put in, over the whole run and across sessions.

The order counter has 32 bits and is not guarded, unlike the sequence numbers of frames and the numbers
of sessions.  `OrdersLast` says of a run that it did not wrap.

Two properties use the queue, and each takes a part of `LeavesInOrder`.  A host that is told about the
device has to be told in the order of the events (`after`).  And the reply that accepts an operation has to
leave before anything that reports on it (`before`): the reply is the first frame which is queued after the
operation was begun, so every frame queued since then has a larger number.

The invariant `ControlInv` looks at what is queued without its session (`CtlSlot.item`), because `GOODBYE`
writes the session into a slot that is queued already.
-/

namespace RemoteBridge

open World

variable {E : Type} {b : Build} {k : Nat} {w w' : World E}

/-! ## The condition -/

/-- The order counter does not wrap at this event. -/
def Ev.numbered : Ev → Bool
  | .queued slot s => decide (s.orderCounter < slot.order)
  | .media item _ _ => item.order != 0
  | .keys rep s => decide (s.orderCounter ≤ (s.applyKeys rep).orderCounter)
  | .subscribed s => decide (s.orderCounter ≤ s.enableEvents.orderCounter)
  | _ => true

/-- The order counter did not wrap. -/
def OrdersLast (log : List Ev) : Prop := ∀ e ∈ log, e.numbered = true

lemma OrdersLast.of_append {l l' : List Ev} (h : OrdersLast (l ++ l')) : OrdersLast l' :=
  fun e he => h e (List.mem_append_right _ he)

lemma OrdersLast.of_cons {e : Ev} {l : List Ev} (h : OrdersLast (e :: l)) : OrdersLast l :=
  OrdersLast.of_append (l := [e]) h

/-! ## The property -/

/-- What is queued in a slot; `GOODBYE` may change the session of a slot, and nothing else. -/
def CtlSlot.item (slot : CtlSlot) : CtlSlot := { slot with session := 0 }

/-- The operation of request `id` is begun. -/
def Ev.begunFor (id : UInt32) : Ev → Bool
  | .begun _ h _ => h.requestId == id
  | _ => false

/-- What happened since the last operation with this id was begun. -/
def since (id : UInt32) (l : List Ev) : List Ev := l.takeWhile (!·.begunFor id)

/-- Whether the slot holds the `ACCEPTED` reply to `PAIR_BEGIN` or `FORGET_PEER`. -/
def CtlSlot.grants (slot : CtlSlot) : Bool :=
  slot.kind == kindResponse && slot.status == Status.accepted.code &&
    (slot.opcode == RequestOp.pairBegin.code || slot.opcode == RequestOp.forgetPeer.code)

/-- What holds when the control frame `a` is sent after `l`: what was sent before it has a smaller number,
and if it accepts an operation, what was queued since the operation was begun has not. -/
structure LeavesInOrder (l : List Ev) (a : CtlSlot) : Prop where
  after : ∀ x h p, Ev.emitted (.ctl x) h p ∈ l → x.order < a.order
  before : a.grants = true → ∀ x s, Ev.queued x s ∈ since a.requestId l → a.order ≤ x.order

/-- What holds of a sent frame. -/
def Ev.leavesAfter : Ev → List Ev → Prop
  | .emitted (.ctl a) _ _, l => LeavesInOrder l a
  | _, _ => True

/-- Control frames leave in the order of their numbers. -/
def QueueOrder (log : List Ev) : Prop := ∀ e l, (e :: l) <:+ log → e.leavesAfter l

lemma queueOrder_cons {e : Ev} {l : List Ev} (hl : QueueOrder l) (he : e.leavesAfter l) :
    QueueOrder (e :: l) := by
  intro e' l' hsuffix
  rcases List.suffix_cons_iff.mp hsuffix with heq | hold
  · obtain ⟨rfl, rfl⟩ := List.cons.inj heq
    exact he
  · exact hl e' l' hold

/-! ## The invariant -/

/-- The queued control frames. -/
def Server.items (s : Server) : List CtlSlot := s.ctlQueued.map CtlSlot.item

/-- The control queue against the log. -/
structure ControlInv (l : List Ev) (s : Server) : Prop where
  bound : ∀ a ∈ s.items, a.order ≤ s.orderCounter
  distinct : s.items.Pairwise (·.order ≠ ·.order)
  sent : ∀ x h p, Ev.emitted (.ctl x) h p ∈ l → x.order ≤ s.orderCounter ∧
    ∀ a ∈ s.items, x.order < a.order
  queued : ∀ x s', Ev.queued x s' ∈ l → x.order ≤ s.orderCounter
  before : ∀ a ∈ s.items, a.grants = true → ∀ x s', Ev.queued x s' ∈ since a.requestId l →
    a.order ≤ x.order

/-- The control queue is in order, unless the order counter wrapped. -/
def Fifo (w : World E) : Prop := OrdersLast w.log → QueueOrder w.log ∧ ControlInv w.log w.srv

/-- The events that queue or send no control frame. -/
def Ev.offControl : Ev → Bool
  | .queued _ _ => false
  | .emitted (.ctl _) _ _ => false
  | _ => true

lemma since_cons (id : UInt32) (e : Ev) (l : List Ev) :
    since id (e :: l) = if e.begunFor id then [] else e :: since id l := by
  unfold since
  rw [List.takeWhile_cons]
  cases e.begunFor id <;> rfl

lemma mem_since_of_cons {id : UInt32} {e x : Ev} {l : List Ev} (h : x ∈ since id (e :: l)) :
    x = e ∨ x ∈ since id l := by
  rw [since_cons] at h
  split at h
  · cases h
  · exact List.mem_cons.mp h

/-- A step that queues and sends nothing; the queue may shrink. -/
lemma ControlInv.next {l : List Ev} {s s' : Server} (h : ControlInv l s)
    (hi : s'.items.Sublist s.items) (ho : s.orderCounter ≤ s'.orderCounter) : ControlInv l s' where
  bound := fun a ha => UInt32.le_trans (h.bound a (hi.subset ha)) ho
  distinct := h.distinct.sublist hi
  sent := fun x hd p hx =>
    ⟨UInt32.le_trans (h.sent x hd p hx).1 ho, fun a ha => (h.sent x hd p hx).2 a (hi.subset ha)⟩
  queued := fun x s' hx => UInt32.le_trans (h.queued x s' hx) ho
  before := fun a ha => h.before a (hi.subset ha)

lemma ControlInv.note {l : List Ev} {s : Server} (h : ControlInv l s) {e : Ev}
    (he : e.offControl = true) : ControlInv (e :: l) s where
  bound := h.bound
  distinct := h.distinct
  sent := fun x hd p hx => h.sent x hd p (mem_of_mem_cons he rfl hx)
  queued := fun x s' hx => h.queued x s' (mem_of_mem_cons he rfl hx)
  before := by
    intro a ha hgrants x s' hx
    rcases mem_since_of_cons hx with rfl | hx
    · cases he
    · exact h.before a ha hgrants x s' hx

lemma QueueOrder.note {l : List Ev} (h : QueueOrder l) {e : Ev} (he : e.offControl = true) :
    QueueOrder (e :: l) := by
  refine queueOrder_cons h ?_
  unfold Ev.leavesAfter
  split
  · cases he
  · trivial

lemma fifo_notes {l l' : List Ev} {s : Server} (h : QueueOrder l' ∧ ControlInv l' s)
    (hl : ∀ e ∈ l, e.offControl = true) : QueueOrder (l ++ l') ∧ ControlInv (l ++ l') s := by
  induction l with
  | nil => exact h
  | cons e l ih =>
    obtain ⟨hlog, hinv⟩ := ih fun e he => hl e (List.mem_cons_of_mem _ he)
    exact ⟨hlog.note (hl e (List.mem_cons_self ..)), hinv.note (hl e (List.mem_cons_self ..))⟩

/-- A step outside of the control queue. -/
lemma Fifo.next {l : List Ev} (hw : Fifo w) (hlog : w'.log = l ++ w.log)
    (hl : ∀ e ∈ l, e.offControl = true) (hi : w'.srv.items.Sublist w.srv.items)
    (ho : OrdersLast w'.log → w.srv.orderCounter ≤ w'.srv.orderCounter) : Fifo w' := by
  intro hlast
  have hold : OrdersLast w.log := (hlog ▸ hlast).of_append
  obtain ⟨hqueue, hinv⟩ := hw hold
  rw [hlog]
  exact fifo_notes ⟨hqueue, hinv.next hi (ho hlast)⟩ hl

lemma Fifo.act (hw : Fifo w) (f : Server → Server) (hi : (f w.srv).items.Sublist w.srv.items)
    (ho : (f w.srv).orderCounter = w.srv.orderCounter) : Fifo (w.act f) :=
  hw.next (l := []) rfl (by simp) hi fun _ => by
    rw [srv_act, ho]
    exact UInt32.le_refl _

lemma Fifo.note (hw : Fifo w) (e : Ev) (he : e.offControl = true) : Fifo (w.note e) :=
  hw.next (l := [e]) rfl (by simpa using he) (List.Sublist.refl _) fun _ => UInt32.le_refl _

/-! ## Queueing and sending -/

lemma items_putCtl {s : Server} {slot : CtlSlot} {len : Nat} (hf : s.ctlFits b len = true)
    (hu : slot.used = true) :
    ∃ xs ys, s.items = xs ++ ys ∧ (s.putCtl slot).items = xs ++ slot.item :: ys := by
  obtain ⟨xs, ys, hq, hput⟩ := ctlQueued_putCtl hf hu
  exact ⟨xs.map CtlSlot.item, ys.map CtlSlot.item, by simp [Server.items, hq],
    by simp [Server.items, hput]⟩

lemma items_freeSlot {s : Server} {i : Nat} {slot : CtlSlot} (hi : s.ctl[i]? = some slot)
    (hu : slot.used = true) :
    ∃ xs ys, s.items = xs ++ slot.item :: ys ∧ (s.freeSlot i).items = xs ++ ys := by
  obtain ⟨xs, ys, hq, hfree⟩ := ctlQueued_freeSlot hi hu
  exact ⟨xs.map CtlSlot.item, ys.map CtlSlot.item, by simp [Server.items, hq],
    by simp [Server.items, hfree]⟩

lemma items_of_ctl {s s' : Server} (h : s'.ctl = s.ctl) : s'.items = s.items := by
  unfold Server.items Server.ctlQueued
  rw [h]

lemma items_withdraw (s : Server) : (s.withdraw b).items = [] := by simp [Server.items]

lemma items_patchSlotZero (s : Server) (closing : UInt32) :
    (s.patchSlotZero closing).items = s.items := by
  unfold Server.patchSlotZero
  split
  · rfl
  · next first rest hcons =>
    unfold Server.items Server.ctlQueued
    rw [hcons]
    cases hu : first.used <;> simp [hu, CtlSlot.item]

/-- A control frame is queued; one that accepts an operation is the first since it was begun. -/
lemma ControlInv.queue {l : List Ev} {s s' : Server} {slot : CtlSlot} {xs ys : List CtlSlot}
    (h : ControlInv l s) (hlt : s.orderCounter < slot.order) (hq : s.items = xs ++ ys)
    (hput : s'.items = xs ++ slot.item :: ys) (hcounter : s'.orderCounter = slot.order)
    (hg : slot.grants = true → ∀ x v, Ev.queued x v ∉ since slot.requestId l) :
    ControlInv (.queued slot s :: l) s' := by
  have hmem : ∀ a ∈ s'.items, a = slot.item ∨ a ∈ s.items := by
    intro a ha
    rw [hput] at ha
    rw [hq]
    simp only [List.mem_append, List.mem_cons] at ha ⊢
    tauto
  have hbelow : ∀ {o : UInt32}, o ≤ s.orderCounter → o < slot.order :=
    fun h => UInt32.lt_of_le_of_lt h hlt
  refine ⟨fun a ha => ?_, ?_, fun x hd p hx => ?_, fun x v hx => ?_, fun a ha hgrants x v hx => ?_⟩
  · rw [hcounter]
    rcases hmem a ha with rfl | ha
    · exact UInt32.le_refl _
    · exact UInt32.le_of_lt (hbelow (h.bound a ha))
  · rw [hput, List.pairwise_middle fun hne => hne.symm]
    refine List.pairwise_cons.mpr ⟨fun a ha heq => ?_, hq ▸ h.distinct⟩
    have hlt' : a.order < slot.order := hbelow (h.bound a (hq ▸ ha))
    exact UInt32.lt_irrefl _ (heq ▸ hlt' : slot.order < slot.order)
  · have hx : Ev.emitted (.ctl x) hd p ∈ l := by
      rcases List.mem_cons.mp hx with hx | hx
      · cases hx
      · exact hx
    obtain ⟨hbound, hfirst⟩ := h.sent x hd p hx
    rw [hcounter]
    refine ⟨UInt32.le_of_lt (hbelow hbound), fun a ha => ?_⟩
    rcases hmem a ha with rfl | ha
    · exact hbelow hbound
    · exact hfirst a ha
  · rw [hcounter]
    rcases List.mem_cons.mp hx with hx | hx
    · cases hx
      exact UInt32.le_refl _
    · exact UInt32.le_of_lt (hbelow (h.queued x v hx))
  · rcases hmem a ha with rfl | ha
    · -- the frame itself is all that was queued since
      rcases mem_since_of_cons hx with hx | hx
      · cases hx
        exact UInt32.le_refl _
      · exact absurd hx (hg hgrants x v)
    · rcases mem_since_of_cons hx with hx | hx
      · cases hx
        exact UInt32.le_of_lt (hbelow (h.bound a ha))
      · exact h.before a ha hgrants x v hx

lemma Fifo.queue {slot : CtlSlot} {len : Nat} (hw : Fifo w) (hf : w.srv.ctlFits b len = true)
    (hu : slot.used = true) (ho : slot.order = w.srv.nextOrder)
    (hg : slot.grants = true → ∀ x s, Ev.queued x s ∉ since slot.requestId w.log) :
    Fifo (w.queue slot) := by
  intro hlast
  have hlt : w.srv.orderCounter < slot.order := of_decide_eq_true (hlast _ (List.mem_cons_self ..))
  obtain ⟨hqueue, hinv⟩ := hw hlast.of_cons
  obtain ⟨xs, ys, hq, hput⟩ := items_putCtl hf hu
  have hcounter : (w.queue slot).srv.orderCounter = slot.order := (orderCounter_putCtl hf).trans ho.symm
  exact ⟨queueOrder_cons hqueue trivial, hinv.queue hlt hq hput hcounter hg⟩

/-- The control frame with the smallest number is sent. -/
lemma ControlInv.emit {l : List Ev} {s s' : Server} {slot : CtlSlot} {xs ys : List CtlSlot}
    (h : ControlInv l s) (hq : s.items = xs ++ slot.item :: ys) (hfree : s'.items = xs ++ ys)
    (hcounter : s'.orderCounter = s.orderCounter) (hmin : ∀ a ∈ s.items, slot.order ≤ a.order)
    (hd : Header) (p : List UInt8) :
    LeavesInOrder l slot ∧ ControlInv (.emitted (.ctl slot) hd p :: l) s' := by
  have hmem : slot.item ∈ s.items := hq ▸ List.mem_append_right _ (List.mem_cons_self ..)
  have hsub : s'.items.Sublist s.items := by
    rw [hfree, hq]
    exact (List.Sublist.refl _).append (List.sublist_cons_self ..)
  have hlater : ∀ a ∈ s'.items, slot.order < a.order := by
    intro a ha
    have hpair := h.distinct
    rw [hq, List.pairwise_middle fun hne => hne.symm] at hpair
    have hne : slot.order ≠ a.order := (List.pairwise_cons.mp hpair).1 a (hfree ▸ ha)
    exact UInt32.lt_of_le_of_ne (hmin a (hsub.subset ha)) hne
  have hnext : ControlInv l s' := h.next hsub (hcounter ▸ UInt32.le_refl _)
  have hold : ∀ {x : CtlSlot} {v : Server}, Ev.queued x v ∈ Ev.emitted (.ctl slot) hd p :: l →
      Ev.queued x v ∈ l := by
    intro x v hx
    rcases List.mem_cons.mp hx with hx | hx
    · cases hx
    · exact hx
  refine ⟨⟨fun x hd p hx => (h.sent x hd p hx).2 slot.item hmem, h.before slot.item hmem⟩,
    hnext.bound, hnext.distinct, fun x hd p hx => ?_, fun x v hx => hnext.queued x v (hold hx),
    fun a ha hgrants x v hx => ?_⟩
  · rcases List.mem_cons.mp hx with hx | hx
    · cases hx
      exact ⟨hcounter ▸ h.bound slot.item hmem, hlater⟩
    · exact hnext.sent x hd p hx
  · rcases mem_since_of_cons hx with hx | hx
    · cases hx
    · exact hnext.before a ha hgrants x v hx

lemma Fifo.emitCtl {i : Nat} {slot : CtlSlot} (hw : Fifo w) (hi : w.srv.ctl[i]? = some slot)
    (hu : slot.used = true) (ho : w.srv.ctlPeekOrder = some slot.order) (h : Header)
    (bytes : List UInt8) (next : UInt32) :
    Fifo ((w.emit b (.ctl slot) h slot.payload bytes next).act (Server.freeSlot i)) := by
  intro hlast
  obtain ⟨hqueue, hinv⟩ := hw hlast.of_cons
  have hput : ControlInv w.log (w.srv.putFrame b bytes next) :=
    hinv.next (List.Sublist.refl _) (UInt32.le_refl _)
  obtain ⟨xs, ys, hq, hfree⟩ := items_freeSlot (s := w.srv.putFrame b bytes next) hi hu
  have hmin : ∀ a ∈ w.srv.items, slot.order ≤ a.order := by
    intro a ha
    obtain ⟨x, hx, rfl⟩ := List.mem_map.mp ha
    exact ctlPeekOrder_le ho x hx
  have hcounter : ((w.srv.putFrame b bytes next).freeSlot i).orderCounter = w.srv.orderCounter := by
    unfold Server.freeSlot
    split <;> rfl
  obtain ⟨hleaves, hafter⟩ := hput.emit hq hfree hcounter hmin
    (h.stamped w.srv.session.nextTxSeq slot.payload.length) slot.payload
  exact ⟨queueOrder_cons hqueue hleaves, hafter⟩

/-! ## Runs -/

lemma orderCounter_withdraw (s : Server) : (s.withdraw b).orderCounter = s.orderCounter := by
  unfold Server.withdraw
  dsimp only [Server.stopDelivery, Server.ctlClear]
  split <;> rfl

lemma Fifo.withdraw (hw : Fifo w) : Fifo (w.withdraw b) := by
  refine hw.next (l := [.closed w.srv]) rfl (by simp [Ev.offControl]) ?_ fun _ => ?_
  · rw [World.withdraw, srv_note, srv_act, items_withdraw]
    exact List.nil_sublist _
  · rw [World.withdraw, srv_note, srv_act, orderCounter_withdraw]
    exact UInt32.le_refl _

lemma FrameStep.fifo (h : FrameStep b w w') (hw : Fifo w) : Fifo w' := by
  have hmono : ∀ {v : World E} {e : Ev} {c c' : UInt32}, (e.numbered = true → c ≤ c') →
      OrdersLast (e :: v.log) → c ≤ c' := fun h hlast => h (hlast _ (List.mem_cons_self ..))
  cases h with
  | plain l hlog hl hs =>
    refine hw.next hlog (fun e he => ?_) (items_of_ctl hs.ctl ▸ List.Sublist.refl _)
      fun _ => hs.order ▸ UInt32.le_refl _
    have hfree := hl e he
    cases e <;> first | rfl | cases hfree
  | keys rep =>
    have hsame := onlyKeys_applyKeys w.srv rep
    refine hw.next (l := [.keys rep w.srv]) rfl (by simp [Ev.offControl]) ?_
      (hmono fun h => of_decide_eq_true h)
    exact items_of_ctl hsame.ctl ▸ List.Sublist.refl _
  | subscribe =>
    have hsame := onlyKeys_enableEvents w.srv
    refine hw.next (l := [.subscribed w.srv]) rfl (by simp [Ev.offControl]) ?_
      (hmono fun h => of_decide_eq_true h)
    exact items_of_ctl hsame.ctl ▸ List.Sublist.refl _
  | media op payload ha =>
    refine hw.next (l := [_]) rfl (by simp [Ev.offControl]) (List.Sublist.refl _) (hmono fun h => ?_)
    have hne : w.srv.nextOrder ≠ 0 := by simpa [Ev.numbered, Server.mediaItem] using h
    exact UInt32.le_of_lt (lt_nextOrder hne (UInt32.le_refl _))
  | event op conn payload hp hf => exact hw.queue hf rfl rfl fun hg => absurd hg Bool.false_ne_true
  | emitCtl i slot bytes next hi hu ho hs => exact hw.emitCtl hi hu ho _ _ _
  | emitKey item rest bytes next hq hs =>
    exact hw.next (l := [_]) rfl (by simp [Ev.offControl]) (List.Sublist.refl _) fun _ => UInt32.le_refl _
  | emitMedia item rest bytes next ha hq hs =>
    exact hw.next (l := [_]) rfl (by simp [Ev.offControl]) (List.Sublist.refl _) fun _ => UInt32.le_refl _
  | withdraw => exact hw.withdraw

lemma Moves.fifo (h : Moves b k w w') (hw : Fifo w) : Fifo w' := by
  have hframes := h.frames
  clear h
  induction hframes with
  | refl => exact hw
  | tail _ hstep ih => exact hstep.fifo ih

lemma code_injective {s s' : Status} (h : s.code = s'.code) : s = s' := by
  cases s <;> cases s' <;> first | rfl | cases h

/-- A reply is queued; one that accepts an operation follows its begin. -/
lemma Fifo.reply {h : Header} {status : Status} {payload : List UInt8} (hw : Fifo w)
    (hs : status = .accepted → Grants h w) (hf : w.srv.ctlFits b payload.length = true) :
    Fifo ((w.note (.answers h payload.length w.srv)).queue (w.srv.replySlot h status payload)) := by
  refine (hw.note _ rfl).queue (b := b) hf rfl rfl fun hg x v hx => ?_
  have haccepted : status = .accepted := by
    simp only [CtlSlot.grants, Bool.and_eq_true, beq_iff_eq] at hg
    exact code_injective hg.1.2
  simp only [CtlSlot.grants, Bool.and_eq_true, Bool.or_eq_true, beq_iff_eq] at hg
  obtain ⟨kind, s, l, hlog⟩ := hs haccepted hg.2
  have hbegun : (Ev.begun kind h s).begunFor h.requestId = true := beq_self_eq_true _
  rcases mem_since_of_cons hx with hx | hx
  · cases hx
  · rw [hlog, since_cons, Server.replySlot, Server.ctlSlotFor, hbegun, if_pos rfl] at hx
    cases hx

lemma Answer.fifo {h : Header} (ha : Answer b h w w') (hw : Fifo w) : Fifo w' := by
  have hpatch : ∀ {v : World E} (closing : UInt32), Fifo v →
      Fifo (v.act (Server.patchSlotZero closing)) := fun closing hv =>
    hv.act _ ((items_patchSlotZero _ closing).symm ▸ List.Sublist.refl _)
      (patchSlotZero_same _ closing).2.1
  have herror : ∀ {v : World E}, Fifo v → Fifo (v.act Server.protocolError) := fun hv =>
    hv.act _ (List.Sublist.refl _) rfl
  have hkeep : ∀ {v : World E} (s : Server), Fifo v → Fifo (v.keepCommitted s h) := fun s hv =>
    ((hv.act _ (List.Sublist.refl _) rfl).note _ rfl).note _ rfl
  cases ha with
  | reply status payload hs hf => exact hw.reply hs.accepted hf
  | full len _ hr => exact hr.fifo (herror (hw.note _ rfl)).withdraw
  | deferred _ => exact (hw.act _ (List.Sublist.refl _) rfl).note _ rfl
  | goodbye _ hr hf =>
    refine hpatch _ ((hkeep _ (hr.fifo hw.withdraw)).queue hf rfl rfl fun hg => ?_)
    exact nomatch hg
  | goodbyeFull _ hr _ hr' =>
    exact hpatch _ (hr'.fifo (herror (hkeep _ (hr.fifo hw.withdraw))).withdraw)

lemma Fifo.greet (hw : Fifo w) (h : Header) : Fifo (w.greet h) :=
  ((hw.act Server.openSession (List.Sublist.refl _) rfl).note _ rfl).act _ (List.Sublist.refl _) rfl

lemma Turns.fifo {g : Prop} (h : Turns b g w w') (hw : Fifo w) : Fifo w' := by
  induction h with
  | refl => exact hw
  | moves hm _ ih => exact hm.fifo ih
  | pump hm _ ih => exact hm.fifo ih
  | seq _ _ _ ih => exact ih.act _ (List.Sublist.refl _) rfl
  | request hd payload _ hh _ ih =>
    obtain ⟨w₁, w₂, h₁, ha, h₂⟩ := hh
    exact h₂.fifo (ha.fifo (h₁.fifo ((ih.act _ (List.Sublist.refl _) rfl).note _ rfl)))
  | refuse _ _ _ _ hs hf _ ih => exact ih.reply (fun h => absurd h hs.1) hf
  | refuseFull _ _ _ _ ih => exact ih.note _ rfl
  | raw _ _ _ _ _ ih => exact (ih.act _ (List.Sublist.refl _) rfl).note _ rfl
  | hello hd _ _ _ _ _ hf _ ih => exact (ih.greet hd).queue hf rfl rfl fun hg => nomatch hg
  | helloFull hd _ _ _ _ _ _ _ ih => exact ih.greet hd
  | exhausted _ _ _ _ hf _ ih =>
    exact ((ih.act _ (List.Sublist.refl _) rfl).act _ (List.Sublist.refl _) rfl).queue hf rfl rfl
      fun hg => nomatch hg
  | exhaustedFull _ _ _ _ ih => exact (ih.act _ (List.Sublist.refl _) rfl).act _ (List.Sublist.refl _) rfl
  | deferred d _ _ _ _ hf _ ih =>
    refine (ih.queue hf rfl rfl fun hg => ?_).act _ (List.Sublist.refl _) rfl
    simp [CtlSlot.grants, Server.deferredSlot, Server.ctlSlotFor, Status.code] at hg
  | forget _ _ ih => exact ih.act _ (List.Sublist.refl _) rfl
  | gone _ _ _ ih =>
    refine (ih.act _ (List.Sublist.refl _) rfl).act _ ?_ rfl
    have hempty : ∀ s : Server, s.ctlClear.items = [] := fun s => by
      simp [Server.items, Server.ctlQueued, Server.ctlClear]
    rw [hempty]
    exact List.nil_sublist _

lemma fifo_init (cfg : Config) (profile : Option DeviceProfile) (loaded : Option PeerRecord) (env : E) :
    Fifo ({ srv := Server.init b cfg profile loaded, env := env, log := [] } : World E) := by
  have hempty : (Server.init b cfg profile loaded).items = [] := by
    simp [Server.items, Server.ctlQueued, Server.init]
  intro _
  refine ⟨fun e l h => ?_, ?_, ?_, fun x hd p h => absurd h List.not_mem_nil,
    fun x s h => absurd h List.not_mem_nil, ?_⟩
  · exact absurd (List.suffix_nil.mp h) (List.cons_ne_nil _ _)
  · simp [hempty]
  · simp [hempty]
  · simp [hempty]

end RemoteBridge
