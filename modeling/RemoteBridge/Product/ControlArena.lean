import RemoteBridge.Framework.Memory
import RemoteBridge.Framework.Table
import RemoteBridge.Product.Output

/-!
# The arena of the control queue

The payloads of the queued control frames lie in one arena, `ctl_payload`, without gaps.  A slot knows
the place and the length of its payload; when a slot is released, the bytes behind its payload move down
and the slots that lie there are told.

`Stored b a q` says that the arena holds the frames `q`, oldest first, and one lemma for each operation
says what it does to `q`.
-/

namespace RemoteBridge

/-- `ctl_slot_t`.  The source keeps `len` and `offset` in 16 bits, which no build's arena exceeds. -/
structure ArenaSlot where
  used : Bool := false
  kind : UInt8 := 0
  status : UInt16 := 0
  opcode : UInt16 := 0
  requestId : UInt32 := 0
  connectionId : UInt32 := 0
  session : UInt32 := 0
  len : Nat := 0
  offset : Nat := 0
  order : UInt32 := 0

/-- The control queue of `struct rbp_server`. -/
structure ControlArena where
  ctl : List ArenaSlot
  ctlPayload : Nat → UInt8
  ctlUsed : Nat
  orderCounter : UInt32

/-- What `ctl_enqueue` is given, and `out_try_frame` gets. -/
structure CtlFrame where
  kind : UInt8
  opcode : UInt16
  status : UInt16
  requestId : UInt32
  connectionId : UInt32
  session : UInt32
  payload : List UInt8
  deriving DecidableEq, Repr

namespace ControlArena

variable (b : Build) (a : ControlArena)

/-- The frame of a slot. -/
def frame (slot : ArenaSlot) : CtlFrame :=
  { kind := slot.kind, opcode := slot.opcode, status := slot.status, requestId := slot.requestId,
    connectionId := slot.connectionId, session := slot.session,
    payload := window a.ctlPayload slot.offset slot.len }

/-- `ctl_clear`. -/
def clear : ControlArena := { a with ctl := a.ctl.map fun slot => { slot with used := false }, ctlUsed := 0 }

/-- `next_order`. -/
def nextOrder : UInt32 := a.orderCounter + 1

/-- The slot that `ctl_enqueue` fills. -/
def slotFor (f : CtlFrame) : ArenaSlot :=
  { used := true, kind := f.kind, status := f.status, opcode := f.opcode, requestId := f.requestId,
    connectionId := f.connectionId, session := f.session, len := f.payload.length, offset := a.ctlUsed,
    order := a.nextOrder }

/-- `ctl_enqueue`.  Without a slot or room the session is torn down, which clears the queue. -/
def enqueue (f : CtlFrame) : ControlArena :=
  match a.ctl.findIdx? (fun slot => !slot.used) with
  | none => a.clear
  | some i =>
    if f.payload.length > maxPayload || f.payload.length > b.ctlBytes - a.ctlUsed then a.clear
    else
      { ctl := a.ctl.set i (a.slotFor f)
        ctlPayload := copyInto a.ctlPayload a.ctlUsed f.payload
        ctlUsed := a.ctlUsed + f.payload.length
        orderCounter := a.nextOrder }

/-- `ctl_peek_order`. -/
def peekOrder : Option UInt32 := a.ctl.foldl (keepLeast (·.used) (·.order)) none

/-- A slot behind a released one. -/
def moveDown (released slot : ArenaSlot) : ArenaSlot :=
  if slot.used && decide (slot.offset ≥ released.offset + released.len) then
    { slot with offset := slot.offset - released.len }
  else slot

/-- `ctl_pop` after the frame of slot `i` was sent. -/
def release (i : Nat) (slot : ArenaSlot) : ControlArena :=
  { a with
    ctl := (a.ctl.set i { slot with used := false }).map (moveDown slot)
    ctlPayload := memmove a.ctlPayload slot.offset (slot.offset + slot.len) (a.ctlUsed - slot.offset - slot.len)
    ctlUsed := a.ctlUsed - slot.len }

/-- `ctl_pop`: the frame that was sent, if any; `sent` is what `out_try_frame` answers. -/
def pop (sent : Bool) : Option CtlFrame × ControlArena :=
  match a.peekOrder with
  | none => (none, a)
  | some order =>
    match a.ctl.findIdx? (fun slot => slot.used && slot.order == order) with
    | none => (none, a)
    | some i =>
      let slot := a.ctl.getD i {}
      if sent then (some (a.frame slot), a.release i slot) else (none, a)

end ControlArena

/-! ## What is stored -/

/-- The slots lie one behind the other, from `start` to `last`. -/
def Tiles : Nat → List ArenaSlot → Nat → Prop
  | start, [], last => start = last
  | start, slot :: slots, last => slot.offset = start ∧ Tiles (start + slot.len) slots last

/-- The arena holds the frames `q`: `slots` are the used slots, oldest first. -/
structure StoredAs (b : Build) (a : ControlArena) (q : List CtlFrame) (slots : List ArenaSlot) : Prop where
  length : a.ctl.length = b.ctlSlots
  used : (a.ctl.filter (·.used)).Perm slots
  sorted : slots.Pairwise (·.order < ·.order)
  orders : ∀ slot ∈ slots, slot.order ≤ a.orderCounter
  tiles : Tiles 0 slots a.ctlUsed
  used_le : a.ctlUsed ≤ b.ctlBytes
  frames : slots.map a.frame = q

/-- The arena holds the frames `q`, oldest first. -/
def Stored (b : Build) (a : ControlArena) (q : List CtlFrame) : Prop := ∃ slots, StoredAs b a q slots

section Tiles

variable {slots : List ArenaSlot} {start last : Nat}

lemma Tiles.le (h : Tiles start slots last) : start ≤ last := by
  induction slots generalizing start with
  | nil => exact le_of_eq h
  | cons slot slots ih => exact le_trans (Nat.le_add_right _ _) (ih h.2)

lemma Tiles.bounds (h : Tiles start slots last) :
    ∀ slot ∈ slots, start ≤ slot.offset ∧ slot.offset + slot.len ≤ last := by
  induction slots generalizing start with
  | nil => exact fun _ hm => nomatch hm
  | cons slot slots ih =>
    intro s hs
    rcases List.mem_cons.mp hs with rfl | hs
    · have hle := h.2.le
      have hoff := h.1
      omega
    · have hrest := ih h.2 s hs
      omega

lemma Tiles.snoc {slot : ArenaSlot} (h : Tiles start slots last) (ho : slot.offset = last) :
    Tiles start (slots ++ [slot]) (last + slot.len) := by
  induction slots generalizing start with
  | nil =>
    have heq : start = last := h
    exact ⟨ho.trans heq.symm, by rw [heq]; rfl⟩
  | cons s slots ih => exact ⟨h.1, ih h.2⟩

/-- Earlier slots lie before later ones. -/
lemma Tiles.apart (h : Tiles start slots last) : slots.Pairwise fun s t => s.offset + s.len ≤ t.offset := by
  induction slots generalizing start with
  | nil => exact .nil
  | cons slot slots ih =>
    refine List.pairwise_cons.mpr ⟨fun t ht => ?_, ih h.2⟩
    rw [h.1]
    exact (h.2.bounds t ht).1

/-- There are no gaps. -/
lemma Tiles.covers (h : Tiles start slots last) (x : Nat) :
    start ≤ x ∧ x < last ↔ ∃ slot ∈ slots, slot.offset ≤ x ∧ x < slot.offset + slot.len := by
  induction slots generalizing start with
  | nil =>
    have heq : start = last := h
    simp only [List.not_mem_nil, false_and, exists_false, iff_false]
    omega
  | cons slot slots ih =>
    have hoff := h.1
    have hle := h.2.le
    rw [List.exists_mem_cons_iff, ← ih h.2]
    omega

end Tiles

section Steps

variable {b : Build} {a : ControlArena} {q : List CtlFrame} {slots : List ArenaSlot}

lemma StoredAs.length_queue (h : StoredAs b a q slots) : (a.ctl.filter (·.used)).length = q.length := by
  rw [h.used.length_eq, ← h.frames, List.length_map]

lemma stored_clear (hlen : a.ctl.length = b.ctlSlots) : Stored b a.clear [] := by
  have hnone : a.clear.ctl.filter (·.used) = [] := by
    refine List.filter_eq_nil_iff.mpr fun slot hslot => ?_
    obtain ⟨s, -, rfl⟩ := List.mem_map.mp hslot
    exact Bool.false_ne_true
  refine ⟨[], ?_, ?_, .nil, nofun, rfl, Nat.zero_le _, rfl⟩
  · rw [ControlArena.clear, List.length_map, hlen]
  · rw [hnone]

/-- Whether the queue has a slot and room for a frame. -/
def ctlRoom (b : Build) (q : List CtlFrame) (f : CtlFrame) : Bool :=
  decide (q.length < b.ctlSlots) && decide (f.payload.length ≤ maxPayload) &&
    decide (f.payload.length ≤ b.ctlBytes - (q.map (·.payload.length)).sum)

lemma StoredAs.ctlUsed_eq (h : StoredAs b a q slots) : a.ctlUsed = (q.map (·.payload.length)).sum := by
  have hsum : ∀ (slots : List ArenaSlot) (start last : Nat), Tiles start slots last →
      last = start + ((slots.map a.frame).map (·.payload.length)).sum := by
    intro slots
    induction slots with
    | nil => exact fun start last ht => (Eq.symm ht).trans (Nat.add_zero _).symm
    | cons slot slots ih =>
      intro start last ht
      have hrest := ih _ _ ht.2
      have hlen : (a.frame slot).payload.length = slot.len := length_window
      rw [List.map_cons, List.map_cons, List.sum_cons, hlen]
      omega
  have hused := hsum slots 0 a.ctlUsed h.tiles
  rw [h.frames, Nat.zero_add] at hused
  exact hused

/-- A frame is stored behind the others; without room the queue is cleared. -/
lemma stored_enqueue (h : Stored b a q) (f : CtlFrame) (hn : a.orderCounter.toNat + 1 < 2 ^ 32) :
    Stored b (a.enqueue b f) (if ctlRoom b q f then q ++ [f] else []) := by
  obtain ⟨slots, h⟩ := h
  have hqueue := h.length_queue
  unfold ControlArena.enqueue
  cases hi : a.ctl.findIdx? (fun slot => !slot.used) with
  | none =>
    -- no slot is free
    have hall : a.ctl.filter (·.used) = a.ctl :=
      List.filter_eq_self.mpr fun slot hslot => by simpa using List.findIdx?_eq_none_iff.mp hi slot hslot
    rw [hall, h.length] at hqueue
    have hroom : ctlRoom b q f = false := by
      unfold ctlRoom
      rw [decide_eq_false (by omega), Bool.false_and, Bool.false_and]
    rw [hroom, if_neg Bool.false_ne_true]
    exact stored_clear h.length
  | some i =>
    obtain ⟨hlt, hfree, -⟩ := List.findIdx?_eq_some_iff_getElem.mp hi
    obtain ⟨xs, ys, hold, hnew⟩ := filter_set_taken (p := ArenaSlot.used) (c := a.slotFor f)
      (List.getElem?_eq_getElem hlt) (by simpa using hfree) rfl
    have hspare : q.length < b.ctlSlots := by
      rw [← hqueue, ← h.length]
      exact List.length_filter_lt_length_iff_exists.mpr ⟨_, List.getElem_mem hlt, by simpa using hfree⟩
    dsimp only
    -- the payload is too long, or the arena has no room for it
    by_cases hfull : (decide (f.payload.length > maxPayload) || decide (f.payload.length > b.ctlBytes - a.ctlUsed)) = true
    · have hroom : ctlRoom b q f = false := by
        unfold ctlRoom
        rw [← h.ctlUsed_eq]
        simp only [Bool.or_eq_true, decide_eq_true_eq] at hfull
        simp only [Bool.and_eq_false_iff, decide_eq_false_iff_not]
        omega
      rw [if_pos hfull, hroom, if_neg Bool.false_ne_true]
      exact stored_clear h.length
    · have hfull' := hfull
      simp only [Bool.or_eq_true, decide_eq_true_eq, not_or, Nat.not_lt] at hfull'
      have hroom : ctlRoom b q f = true := by
        unfold ctlRoom
        rw [← h.ctlUsed_eq, decide_eq_true hspare, decide_eq_true hfull'.1, decide_eq_true hfull'.2]
        rfl
      have hle := h.used_le
      have horder : a.nextOrder.toNat = a.orderCounter.toNat + 1 := by
        rw [ControlArena.nextOrder, UInt32.toNat_add]
        exact Nat.mod_eq_of_lt hn
      -- the new slot is the youngest, so it comes last
      have hbefore : ∀ slot ∈ slots, slot.order < a.nextOrder := by
        intro slot hslot
        have hle := UInt32.le_iff_toNat_le.mp (h.orders slot hslot)
        rw [UInt32.lt_iff_toNat_lt]
        omega
      rw [if_neg hfull, hroom, if_pos rfl]
      refine ⟨slots ++ [a.slotFor f], ?_, ?_, ?_, ?_, ?_, ?_, ?_⟩
      · dsimp only
        rw [List.length_set, h.length]
      · dsimp only
        rw [hnew]
        have hperm : (xs ++ ys).Perm slots := hold ▸ h.used
        exact (List.perm_middle.trans (hperm.cons _)).trans (List.perm_append_singleton _ _).symm
      · refine List.pairwise_append.mpr ⟨h.sorted, List.pairwise_singleton _ _, fun s hs t ht => ?_⟩
        rw [List.mem_singleton.mp ht]
        exact hbefore s hs
      · intro slot hslot
        rcases List.mem_append.mp hslot with hs | hs
        · exact UInt32.le_of_lt (hbefore slot hs)
        · rw [List.mem_singleton.mp hs]
          exact UInt32.le_refl _
      · exact h.tiles.snoc rfl
      · dsimp only
        omega
      · -- the bytes of the other slots lie before the ones that are written
        have hkept : ∀ slot ∈ slots, window (copyInto a.ctlPayload a.ctlUsed f.payload) slot.offset slot.len =
            window a.ctlPayload slot.offset slot.len := fun slot hslot =>
          window_copyInto_of_apart (.inl (h.tiles.bounds slot hslot).2)
        rw [List.map_append, ← h.frames, List.map_singleton]
        congr 1
        · refine List.map_congr_left fun slot hslot => ?_
          unfold ControlArena.frame
          dsimp only
          rw [hkept slot hslot]
        · unfold ControlArena.frame ControlArena.slotFor
          dsimp only
          rw [window_copyInto]

/-- Which slots are used. -/
lemma StoredAs.mem_iff (h : StoredAs b a q slots) {slot : ArenaSlot} :
    slot ∈ slots ↔ slot ∈ a.ctl ∧ slot.used = true := by
  rw [← h.used.mem_iff, List.mem_filter]

lemma StoredAs.peekOrder_nil (h : StoredAs b a q []) : a.peekOrder = none := by
  cases ho : a.peekOrder with
  | none => rfl
  | some o =>
    rcases foldl_keepLeast_mem ho with hinit | ⟨slot, hslot, hused, -⟩
    · exact nomatch hinit
    · exact nomatch h.mem_iff.mpr ⟨hslot, hused⟩

/-- The search finds the oldest slot. -/
lemma StoredAs.peekOrder_cons {slot : ArenaSlot} (h : StoredAs b a q (slot :: slots)) :
    a.peekOrder = some slot.order := by
  have hfirst := h.mem_iff.mp (List.mem_cons_self ..)
  cases ho : a.peekOrder with
  | none =>
    have hfree := (foldl_keepLeast_none ho).2 slot hfirst.1
    exact absurd (hfirst.2.symm.trans hfree) nofun
  | some o =>
    have hle := (foldl_keepLeast_le ho).2 slot hfirst.1 hfirst.2
    rcases foldl_keepLeast_mem ho with hinit | ⟨s, hs, hused, rfl⟩
    · exact nomatch hinit
    · rcases List.mem_cons.mp (h.mem_iff.mpr ⟨hs, hused⟩) with rfl | hrest
      · rfl
      · exact absurd ((List.pairwise_cons.mp h.sorted).1 s hrest) (UInt32.not_lt.mpr hle)

/-- The slots behind the first one move to the front. -/
lemma Tiles.moveDown {slot : ArenaSlot} {last : Nat} (hoff : slot.offset = 0) (hused : ∀ s ∈ slots, s.used = true)
    (h : Tiles slot.len slots last) : Tiles 0 (slots.map (ControlArena.moveDown slot)) (last - slot.len) := by
  have hgo : ∀ (slots : List ArenaSlot) (start : Nat), slot.len ≤ start → (∀ s ∈ slots, s.used = true) →
      Tiles start slots last → Tiles (start - slot.len) (slots.map (ControlArena.moveDown slot)) (last - slot.len) := by
    intro slots
    induction slots with
    | nil => exact fun start _ _ ht => congrArg (· - slot.len) ht
    | cons s slots ih =>
      intro start hle hused ht
      have hdown : ControlArena.moveDown slot s = { s with offset := s.offset - slot.len } := by
        have hbehind : s.offset ≥ slot.offset + slot.len := by rw [ht.1, hoff]; omega
        rw [ControlArena.moveDown, hused s (List.mem_cons_self ..), decide_eq_true hbehind]
        rfl
      have hrest := ih (start + s.len) (by omega) (fun t htm => hused t (List.mem_cons_of_mem _ htm)) ht.2
      rw [List.map_cons, hdown]
      refine ⟨congrArg (· - slot.len) ht.1, ?_⟩
      have hnext : start - slot.len + s.len = start + s.len - slot.len := by omega
      dsimp only
      rw [hnext]
      exact hrest
  have hall := hgo slots slot.len (Nat.le_refl _) hused h
  rwa [Nat.sub_self] at hall

lemma used_moveDown (released slot : ArenaSlot) : (ControlArena.moveDown released slot).used = slot.used := by
  unfold ControlArena.moveDown
  split <;> rfl

lemma order_moveDown (released slot : ArenaSlot) : (ControlArena.moveDown released slot).order = slot.order := by
  unfold ControlArena.moveDown
  split <;> rfl

lemma StoredAs.tiles_tail {slot : ArenaSlot} (h : StoredAs b a q (slot :: slots)) : Tiles slot.len slots a.ctlUsed := by
  have hrest := h.tiles.2
  rwa [Nat.zero_add] at hrest

/-- Releasing the oldest slot leaves the others used. -/
lemma StoredAs.released {slot : ArenaSlot} {i : Nat} (h : StoredAs b a q (slot :: slots)) (hi : a.ctl[i]? = some slot) :
    ((a.ctl.set i { slot with used := false }).filter (·.used)).Perm slots := by
  have hslot := h.mem_iff.mp (List.mem_cons_self ..)
  obtain ⟨xs, ys, hold, hnew⟩ := filter_set_released (p := ArenaSlot.used) (c := { slot with used := false })
    hi hslot.2 rfl
  have hwhole : (slot :: (xs ++ ys)).Perm (slot :: slots) := List.perm_middle.symm.trans (hold ▸ h.used)
  rw [hnew]
  exact hwhole.cons_inv

/-- The slots behind the oldest one move down together with their bytes. -/
lemma StoredAs.moved {slot : ArenaSlot} (h : StoredAs b a q (slot :: slots)) {s : ArenaSlot} (hs : s ∈ slots) :
    ControlArena.moveDown slot s = { s with offset := s.offset - slot.len } ∧
      window (memmove a.ctlPayload slot.offset (slot.offset + slot.len) (a.ctlUsed - slot.offset - slot.len))
        (s.offset - slot.len) s.len = window a.ctlPayload s.offset s.len := by
  have hoff : slot.offset = 0 := h.tiles.1
  have hbounds := h.tiles_tail.bounds s hs
  constructor
  · have hbehind : s.offset ≥ slot.offset + slot.len := by omega
    rw [ControlArena.moveDown, (h.mem_iff.mp (List.mem_cons_of_mem _ hs)).2, decide_eq_true hbehind]
    rfl
  · have hmoved : window (memmove a.ctlPayload slot.offset (slot.offset + slot.len) (a.ctlUsed - slot.offset - slot.len))
        (slot.offset + (s.offset - slot.len)) s.len =
          window a.ctlPayload (slot.offset + slot.len + (s.offset - slot.len)) s.len :=
      window_memmove (by omega)
    have hdst : slot.offset + (s.offset - slot.len) = s.offset - slot.len := by omega
    have hsrc : slot.offset + slot.len + (s.offset - slot.len) = s.offset := by omega
    rwa [hdst, hsrc] at hmoved

/-- The oldest frame leaves, and the others stay as they are. -/
lemma stored_release {slot : ArenaSlot} {i : Nat} (h : StoredAs b a q (slot :: slots)) (hi : a.ctl[i]? = some slot) :
    Stored b (a.release i slot) q.tail := by
  have hused : ∀ s ∈ slots, s.used = true := fun s hs => (h.mem_iff.mp (List.mem_cons_of_mem _ hs)).2
  refine ⟨slots.map (ControlArena.moveDown slot), ?_, ?_, ?_, ?_, ?_, ?_, ?_⟩
  · change (List.map _ _).length = _
    rw [List.length_map, List.length_set, h.length]
  · change (List.filter _ (List.map _ _)).Perm _
    have hsame : (ArenaSlot.used ∘ ControlArena.moveDown slot) = ArenaSlot.used :=
      funext fun s => used_moveDown slot s
    rw [List.filter_map]
    change (List.map _ (List.filter (ArenaSlot.used ∘ ControlArena.moveDown slot) _)).Perm _
    rw [hsame]
    exact (h.released hi).map _
  · refine List.pairwise_map.mpr ((List.pairwise_cons.mp h.sorted).2.imp fun {s t} hst => ?_)
    rw [order_moveDown, order_moveDown]
    exact hst
  · intro s hs
    obtain ⟨t, ht, rfl⟩ := List.mem_map.mp hs
    rw [order_moveDown]
    exact h.orders t (List.mem_cons_of_mem _ ht)
  · exact h.tiles_tail.moveDown h.tiles.1 hused
  · exact le_trans (Nat.sub_le _ _) h.used_le
  · have hframes := h.frames
    rw [List.map_cons] at hframes
    rw [← hframes, List.tail_cons, List.map_map]
    refine List.map_congr_left fun s hs => ?_
    obtain ⟨hdown, hbytes⟩ := h.moved hs
    rw [Function.comp_apply, hdown]
    unfold ControlArena.frame ControlArena.release
    dsimp only
    rw [hbytes]

/-- The oldest frame is the one that `ctl_pop` sends. -/
lemma stored_pop (h : Stored b a q) (sent : Bool) :
    (a.pop sent).1 = (if sent then q.head? else none) ∧ Stored b (a.pop sent).2 (if sent then q.tail else q) := by
  obtain ⟨slots, h⟩ := h
  unfold ControlArena.pop
  cases slots with
  | nil =>
    have hq : q = [] := h.frames.symm
    subst hq
    rw [h.peekOrder_nil]
    cases sent with
    | false => exact ⟨rfl, [], h⟩
    | true => exact ⟨rfl, [], h⟩
  | cons slot slots =>
    have hslot := h.mem_iff.mp (List.mem_cons_self ..)
    have hfound : (a.ctl.findIdx? fun s => s.used && s.order == slot.order).isSome := by
      rw [List.findIdx?_isSome]
      exact List.any_eq_true.mpr ⟨slot, hslot.1, by simp [hslot.2]⟩
    obtain ⟨i, hi⟩ := Option.isSome_iff_exists.mp hfound
    obtain ⟨hlt, hmatch, -⟩ := List.findIdx?_eq_some_iff_getElem.mp hi
    simp only [Bool.and_eq_true, beq_iff_eq] at hmatch
    -- Order numbers tell slots apart.
    have hsame : a.ctl[i] = slot := by
      rcases List.mem_cons.mp (h.mem_iff.mpr ⟨List.getElem_mem hlt, hmatch.1⟩) with heq | hrest
      · exact heq
      · have horder := (List.pairwise_cons.mp h.sorted).1 _ hrest
        rw [hmatch.2] at horder
        exact absurd horder (UInt32.lt_irrefl _)
    have hget : a.ctl[i]? = some slot := by rw [List.getElem?_eq_getElem hlt, hsame]
    have hgetD : a.ctl.getD i {} = slot := by rw [List.getD_eq_getElem?_getD, hget, Option.getD_some]
    rw [h.peekOrder_cons]
    dsimp only
    rw [hi]
    dsimp only
    rw [hgetD]
    cases sent with
    | false => exact ⟨rfl, slot :: slots, h⟩
    | true =>
      refine ⟨?_, stored_release h hget⟩
      rw [← h.frames]
      rfl

end Steps

/-! ## Runs -/

/-- What happens to the control queue.  `number` is an item of another queue, which takes an order number
from the same counter. -/
inductive ControlOp where
  | enqueue (f : CtlFrame)
  | pop (sent : Bool)
  | clear
  | number

/-- One operation, with the frame that is sent. -/
def ControlOp.run (b : Build) : ControlOp → ControlArena → Option CtlFrame × ControlArena
  | .enqueue f, a => (none, a.enqueue b f)
  | .pop sent, a => a.pop sent
  | .clear, a => (none, a.clear)
  | .number, a => (none, { a with orderCounter := a.nextOrder })

/-- The same operation on a queue of frames, oldest first. -/
def ControlOp.onQueue (b : Build) : ControlOp → List CtlFrame → Option CtlFrame × List CtlFrame
  | .enqueue f, q => (none, if ctlRoom b q f then q ++ [f] else [])
  | .pop sent, q => (if sent then q.head? else none, if sent then q.tail else q)
  | .clear, _ => (none, [])
  | .number, q => (none, q)

/-- Whether an operation takes an order number, or may take one. -/
def ControlOp.numbers : ControlOp → Bool
  | .enqueue _ | .number => true
  | _ => false

/-- A run: the frames that were sent, and the arena. -/
def ControlArena.runs (b : Build) (ops : List ControlOp) (a : ControlArena) : List CtlFrame × ControlArena :=
  ops.foldl (fun r op => (r.1 ++ (op.run b r.2).1.toList, (op.run b r.2).2)) ([], a)

/-- The same run on a queue. -/
def queueRuns (b : Build) (ops : List ControlOp) (q : List CtlFrame) : List CtlFrame × List CtlFrame :=
  ops.foldl (fun r op => (r.1 ++ (op.onQueue b r.2).1.toList, (op.onQueue b r.2).2)) ([], q)

/-- The arena after the start. -/
def ControlArena.init (b : Build) (mem : Nat → UInt8) : ControlArena :=
  { ctl := List.replicate b.ctlSlots {}, ctlPayload := mem, ctlUsed := 0, orderCounter := 0 }

end RemoteBridge
