import RemoteBridge.Product.ControlArena

/-!
# The control arena is a queue

Whatever is queued, sent and cleared in whatever order, the arena behaves as a queue of frames
(`control_arena`): the payloads of the used slots lie in it without overlap or gap, and the frames come out
as they went in, oldest first.  So the server's control queue, whose slots hold their payloads themselves,
is what the arena stores (`ControlArena.Backs`).

A frame may be taken out of the middle, since the next one to leave is the one with the smallest number and
slots are reused as they become free.  Releasing it moves the payloads behind it down and changes the
offsets of their slots.  `Stored` therefore keeps two orders apart, that of the numbers, in which frames
leave, and that of the offsets, in which payloads lie; only the first is visible from outside.

The numbers have 32 bits.  The statement is about runs that take fewer than 2 ^ 32 of them; behind that
point a frame can overtake another, which is a matter of the order and not of the bytes.
-/

namespace RemoteBridge

variable {b : Build} {a : ControlArena} {q : List CtlFrame}

/-! ## Runs -/

/-- One operation on both sides. -/
lemma stored_step (h : Stored b a q) (op : ControlOp)
    (hn : a.orderCounter.toNat + (if op.numbers then 1 else 0) < 2 ^ 32) :
    (op.run b a).1 = (op.onQueue b q).1 ∧ Stored b (op.run b a).2 (op.onQueue b q).2 ∧
      (op.run b a).2.orderCounter.toNat ≤ a.orderCounter.toNat + (if op.numbers then 1 else 0) := by
  have hlength : a.ctl.length = b.ctlSlots := h.choose_spec.length
  have hnumber : a.orderCounter.toNat + 1 < 2 ^ 32 → a.nextOrder.toNat = a.orderCounter.toNat + 1 := by
    intro hlt
    rw [ControlArena.nextOrder, UInt32.toNat_add]
    exact Nat.mod_eq_of_lt hlt
  cases op with
  | enqueue f =>
    refine ⟨rfl, stored_enqueue h f hn, ?_⟩
    change (a.enqueue b f).orderCounter.toNat ≤ a.orderCounter.toNat + 1
    unfold ControlArena.enqueue
    split
    · exact Nat.le_succ _
    · split
      · exact Nat.le_succ _
      · exact le_of_eq (hnumber hn)
  | pop sent =>
    obtain ⟨hsent, hstored⟩ := stored_pop h sent
    refine ⟨hsent, hstored, ?_⟩
    change (a.pop sent).2.orderCounter.toNat ≤ _
    unfold ControlArena.pop
    split
    · exact Nat.le_add_right _ _
    · split
      · exact Nat.le_add_right _ _
      · cases sent <;> exact Nat.le_add_right _ _
  | clear => exact ⟨rfl, stored_clear hlength, Nat.le_add_right _ _⟩
  | number =>
    obtain ⟨slots, hs⟩ := h
    refine ⟨rfl, ⟨slots, hs.length, hs.used, hs.sorted, fun slot hslot => ?_, hs.tiles, hs.used_le, hs.frames⟩,
      le_of_eq (hnumber hn)⟩
    have hle := UInt32.le_iff_toNat_le.mp (hs.orders slot hslot)
    rw [UInt32.le_iff_toNat_le]
    change _ ≤ a.nextOrder.toNat
    rw [hnumber hn]
    omega

/-- A run on both sides. -/
lemma stored_runs (h : Stored b a q) (ops : List ControlOp)
    (hn : a.orderCounter.toNat + ops.countP ControlOp.numbers < 2 ^ 32) :
    (a.runs b ops).1 = (queueRuns b ops q).1 ∧ Stored b (a.runs b ops).2 (queueRuns b ops q).2 := by
  unfold ControlArena.runs queueRuns
  generalize ([] : List CtlFrame) = sent
  induction ops generalizing a q sent with
  | nil => exact ⟨rfl, h⟩
  | cons op ops ih =>
    rw [List.countP_cons] at hn
    obtain ⟨hout, hstored, hnumber⟩ := stored_step h op (by omega)
    rw [List.foldl_cons, List.foldl_cons]
    dsimp only
    rw [← hout]
    exact ih hstored (by omega) _

lemma stored_init (b : Build) (mem : Nat → UInt8) : Stored b (ControlArena.init b mem) [] := by
  have hnone : (ControlArena.init b mem).ctl.filter (·.used) = [] := by
    refine List.filter_eq_nil_iff.mpr fun slot hslot => ?_
    rw [List.eq_of_mem_replicate hslot]
    exact Bool.false_ne_true
  refine ⟨[], List.length_replicate, ?_, .nil, nofun, rfl, Nat.zero_le _, rfl⟩
  rw [hnone]

/-- The ranges of two slots do not meet. -/
def ArenaSlot.Disjoint (s t : ArenaSlot) : Prop := s.offset + s.len ≤ t.offset ∨ t.offset + t.len ≤ s.offset

lemma Stored.disjoint (h : Stored b a q) : (a.ctl.filter (·.used)).Pairwise ArenaSlot.Disjoint := by
  obtain ⟨slots, h⟩ := h
  have hslots : slots.Pairwise ArenaSlot.Disjoint := h.tiles.apart.imp .inl
  exact h.used.symm.pairwise hslots fun hst => Or.symm hst

/-- The used slots fill the arena up to `ctl_used`. -/
lemma Stored.covers (h : Stored b a q) (x : Nat) :
    x < a.ctlUsed ↔ ∃ slot ∈ a.ctl, slot.used = true ∧ slot.offset ≤ x ∧ x < slot.offset + slot.len := by
  obtain ⟨slots, h⟩ := h
  have hcovers := h.tiles.covers x
  simp only [Nat.zero_le, true_and] at hcovers
  rw [hcovers]
  constructor
  · rintro ⟨slot, hslot, hin⟩
    obtain ⟨hmem, hused⟩ := h.mem_iff.mp hslot
    exact ⟨slot, hmem, hused, hin⟩
  · rintro ⟨slot, hmem, hused, hin⟩
    exact ⟨slot, h.mem_iff.mpr ⟨hmem, hused⟩, hin⟩

/-- In every run the arena is a queue: it sends what the queue sends, and what it holds is the queue; the
ranges of the used slots are disjoint and fill it up to `ctl_used`, which stays within the arena. -/
theorem control_arena (b : Build) (mem : Nat → UInt8) (ops : List ControlOp)
    (hn : ops.countP ControlOp.numbers < 2 ^ 32) :
    ((ControlArena.init b mem).runs b ops).1 = (queueRuns b ops []).1 ∧
      Stored b ((ControlArena.init b mem).runs b ops).2 (queueRuns b ops []).2 ∧
      (((ControlArena.init b mem).runs b ops).2.ctl.filter (·.used)).Pairwise ArenaSlot.Disjoint ∧
      (∀ x, x < ((ControlArena.init b mem).runs b ops).2.ctlUsed ↔
        ∃ slot ∈ ((ControlArena.init b mem).runs b ops).2.ctl,
          slot.used = true ∧ slot.offset ≤ x ∧ x < slot.offset + slot.len) ∧
      ((ControlArena.init b mem).runs b ops).2.ctlUsed ≤ b.ctlBytes := by
  have hcount : (ControlArena.init b mem).orderCounter.toNat + ops.countP ControlOp.numbers < 2 ^ 32 := by
    change 0 + _ < _
    omega
  obtain ⟨hsent, hstored⟩ := stored_runs (stored_init b mem) ops hcount
  exact ⟨hsent, hstored, hstored.disjoint, hstored.covers, hstored.choose_spec.used_le⟩

/-- An event frame. -/
def eventFrame (payload : List UInt8) : CtlFrame :=
  { kind := kindEvent, opcode := 0x183, status := 0, requestId := 0, connectionId := 7, session := 1, payload := payload }

/-- Three frames, of which the first two are sent; a slot is reused in between. -/
def slotReuse : List ControlOp :=
  [.enqueue (eventFrame [1, 2]), .enqueue (eventFrame []), .pop true, .pop false, .enqueue (eventFrame [3]), .pop true]

theorem control_arena_slotReuse :
    ((ControlArena.init .default fun _ => 0).runs .default slotReuse).1 = [eventFrame [1, 2], eventFrame []] ∧
      ((ControlArena.init .default fun _ => 0).runs .default slotReuse).2.ctlUsed ≤ 6 * 512 := by
  have harena := control_arena .default (fun _ => 0) slotReuse (by decide)
  exact ⟨harena.1.trans (by decide), harena.2.2.2.2⟩

/-! ## The control queue of the server -/

/-- A slot with its payload; of a free slot nothing matters. -/
def ControlArena.view (a : ControlArena) (slot : ArenaSlot) : Option CtlSlot :=
  if slot.used then
    some { used := true, kind := slot.kind, status := slot.status, opcode := slot.opcode,
           requestId := slot.requestId, connectionId := slot.connectionId, session := slot.session,
           payload := window a.ctlPayload slot.offset slot.len, order := slot.order }
  else none

/-- The same for a slot of the server. -/
def CtlSlot.view (slot : CtlSlot) : Option CtlSlot := if slot.used then some slot else none

/-- The arena stores the control queue of the server. -/
structure ControlArena.Backs (a : ControlArena) (s : Server) : Prop where
  slots : a.ctl.map a.view = s.ctl.map CtlSlot.view
  used : a.ctlUsed = s.ctlUsed
  order : a.orderCounter = s.orderCounter

/-- The frame of a slot of the server. -/
def CtlSlot.frame (slot : CtlSlot) : CtlFrame :=
  { kind := slot.kind, opcode := slot.opcode, status := slot.status, requestId := slot.requestId,
    connectionId := slot.connectionId, session := slot.session, payload := slot.payload }

section Backs

variable {s : Server}

lemma ControlArena.Backs.getElem? (h : a.Backs s) (i : Nat) : a.ctl[i]?.map a.view = s.ctl[i]?.map CtlSlot.view := by
  have hi := congrArg (·[i]?) h.slots
  simpa only [List.getElem?_map] using hi

lemma isSome_view (a : ControlArena) (slot : ArenaSlot) : (a.view slot).isSome = slot.used := by
  unfold ControlArena.view
  cases slot.used <;> rfl

lemma CtlSlot.isSome_view (slot : CtlSlot) : slot.view.isSome = slot.used := by
  unfold CtlSlot.view
  cases slot.used <;> rfl

/-- Both look for a free slot in the same way. -/
lemma ControlArena.Backs.findFree (h : a.Backs s) :
    (a.ctl.findIdx? fun slot => !slot.used) = s.ctl.findIdx? fun slot => !slot.used := by
  have hleft : (a.ctl.map a.view).findIdx? (fun v => !v.isSome) = a.ctl.findIdx? fun slot => !slot.used := by
    rw [List.findIdx?_map]
    congr 1
    funext slot
    rw [Function.comp_apply, isSome_view]
  have hright : (s.ctl.map CtlSlot.view).findIdx? (fun v => !v.isSome) = s.ctl.findIdx? fun slot => !slot.used := by
    rw [List.findIdx?_map]
    congr 1
    funext slot
    rw [Function.comp_apply, CtlSlot.isSome_view]
  rw [← hleft, ← hright, h.slots]

/-- A frame that fits is queued on both sides. -/
lemma backs_enqueue (h : a.Backs s) (hs : Stored b a q) {f : CtlFrame} (hf : s.ctlFits b f.payload.length = true)
    {slot : CtlSlot} (hslot : slot.frame = f ∧ slot.used = true ∧ slot.order = s.nextOrder) :
    (a.enqueue b f).Backs (s.putCtl slot) := by
  obtain ⟨slots, hs⟩ := hs
  simp only [Server.ctlFits, Bool.and_eq_true, decide_eq_true_eq] at hf
  obtain ⟨i, hi⟩ := Option.isSome_iff_exists.mp hf.1.1
  have hroom : (decide (f.payload.length > maxPayload) || decide (f.payload.length > b.ctlBytes - a.ctlUsed)) = false := by
    rw [h.used]
    simp only [Bool.or_eq_false_iff, decide_eq_false_iff_not]
    omega
  obtain ⟨rfl, hused, horder⟩ := hslot
  unfold ControlArena.enqueue Server.putCtl
  rw [h.findFree, hi]
  dsimp only
  rw [hroom, if_neg Bool.false_ne_true]
  refine ⟨?_, congrArg (· + slot.payload.length) h.used, congrArg (· + 1) h.order⟩
  have hnew : slot.view = some slot := if_pos hused
  have hkept : ∀ sl ∈ a.ctl, ({ a with ctlPayload := copyInto a.ctlPayload a.ctlUsed slot.payload } : ControlArena).view sl =
      a.view sl := by
    intro sl hsl
    unfold ControlArena.view
    split
    next hu =>
      have hbounds := (hs.tiles.bounds sl (hs.mem_iff.mpr ⟨hsl, hu⟩)).2
      dsimp only
      rw [window_copyInto_of_apart (.inl hbounds)]
    · rfl
  rw [List.map_set, List.map_set, hnew, ← h.slots]
  congr 1
  · exact List.map_congr_left hkept
  · unfold ControlArena.view ControlArena.slotFor ControlArena.nextOrder CtlSlot.frame
    rw [if_pos rfl, window_copyInto, h.order]
    cases slot
    cases hused
    cases horder
    rfl

/-- The oldest frame is taken out on both sides. -/
lemma backs_release {slots : List ArenaSlot} {slot : ArenaSlot} {i : Nat} (h : a.Backs s)
    (hs : StoredAs b a q (slot :: slots)) (hi : a.ctl[i]? = some slot) : (a.release i slot).Backs (s.freeSlot i) := by
  have hslot := hs.mem_iff.mp (List.mem_cons_self ..)
  -- the slot that is freed is the oldest, whose bytes come first
  have hoff : slot.offset = 0 := hs.tiles.1
  obtain ⟨hlt, hget⟩ := List.getElem?_eq_some_iff.mp hi
  have hview := h.getElem? i
  rw [hi, Option.map_some] at hview
  obtain ⟨c, hc, hcv⟩ := Option.map_eq_some_iff.mp hview.symm
  have hslotView : a.view slot = some _ := if_pos hslot.2
  have hcused : c.used = true := by
    rw [← CtlSlot.isSome_view, hcv, isSome_view, hslot.2]
  have hcview : c.view = some c := if_pos hcused
  have hlen : c.payload.length = slot.len := by
    have heq : c = _ := Option.some.inj (hcview.symm.trans (hcv.trans hslotView))
    rw [heq]
    exact length_window
  unfold ControlArena.release Server.freeSlot
  rw [hc]
  dsimp only
  refine ⟨?_, by dsimp only; rw [h.used, hlen], h.order⟩
  dsimp only
  have hright : (s.ctl.set i { c with used := false }).map CtlSlot.view = (a.ctl.map a.view).set i none := by
    rw [List.map_set, h.slots]
    rfl
  rw [hright, List.map_map]
  refine List.ext_getElem? fun j => ?_
  rw [List.getElem?_map, List.getElem?_set, List.getElem?_set, List.length_map]
  -- every other slot in use moves down and keeps its bytes
  by_cases hij : i = j
  · rw [if_pos hij, if_pos hij, if_pos hlt, if_pos hlt]
    have hleft : (ControlArena.moveDown slot { slot with used := false }).used = false := used_moveDown _ _
    rw [Option.map_some, Function.comp_apply, ControlArena.view, hleft, if_neg Bool.false_ne_true]
  · rw [if_neg hij, if_neg hij, List.getElem?_map]
    cases hj : a.ctl[j]? with
    | none => rfl
    | some t =>
      rw [Option.map_some, Option.map_some, Function.comp_apply]
      congr 1
      cases ht : t.used with
      | false =>
        have hleft : (ControlArena.moveDown slot t).used = false := (used_moveDown slot t).trans ht
        rw [ControlArena.view, ControlArena.view, hleft, ht]
        rfl
      | true =>
        have hset : (a.ctl.set i { slot with used := false })[j]? = some t := by
          rw [List.getElem?_set_ne hij, hj]
        have hrest : t ∈ slots :=
          (hs.released hi).mem_iff.mp (List.mem_filter.mpr ⟨List.mem_of_getElem? hset, ht⟩)
        obtain ⟨hdown, hbytes⟩ := hs.moved hrest
        rw [hdown, ControlArena.view, ControlArena.view, if_pos ht, if_pos ht]
        dsimp only
        rw [hbytes]

/-- The queue is cleared on both sides. -/
lemma backs_clear (h : a.Backs s) : a.clear.Backs s.ctlClear := by
  have hlength := congrArg List.length h.slots
  rw [List.length_map, List.length_map] at hlength
  refine ⟨?_, rfl, h.order⟩
  change (a.ctl.map _).map _ = (s.ctl.map _).map _
  rw [List.map_map, List.map_map]
  refine List.ext_getElem (by rw [List.length_map, List.length_map, hlength]) fun i hi hi' => ?_
  rw [List.getElem_map, List.getElem_map]
  rfl

/-- The same frame is the next. -/
lemma ControlArena.Backs.peekOrder (h : a.Backs s) : a.peekOrder = s.ctlPeekOrder := by
  have hleft : (a.ctl.map a.view).foldl (keepLeast Option.isSome fun v => (v.getD {}).order) none =
      a.ctl.foldl (keepLeast (·.used) (·.order)) none :=
    foldl_keepLeast_map (isSome_view a) (fun slot hu => by rw [ControlArena.view, if_pos hu]; rfl) a.ctl none
  have hright : (s.ctl.map CtlSlot.view).foldl (keepLeast Option.isSome fun v => (v.getD {}).order) none =
      s.ctl.foldl (keepLeast (·.used) (·.order)) none :=
    foldl_keepLeast_map CtlSlot.isSome_view (fun slot hu => by rw [CtlSlot.view, if_pos hu]; rfl) s.ctl none
  unfold ControlArena.peekOrder Server.ctlPeekOrder
  rw [← hleft, ← hright, h.slots]

end Backs

end RemoteBridge
