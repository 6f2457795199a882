import Mathlib

/-!
# Rings with two indices

The ring between an interrupt handler and a task: a byte is put in at `head`, a byte is taken out at
`tail`, and `len` counts the bytes between the two.  `IndexRing.contents` is the queue that the three
stand for and `IndexRing.Ok` says that they agree.  The loops `fill` and `drain` move one byte at a time,
until the data or the room runs out.
-/

namespace RemoteBridge

/-- A ring with the index of its next free place, the index of its oldest byte and their distance. -/
structure IndexRing (α : Type) where
  mem : Nat → α
  head : Nat := 0
  tail : Nat := 0
  len : Nat := 0

namespace IndexRing

variable {α : Type} (cap : Nat)

/-- The queue a ring stands for, oldest first. -/
def contents (r : IndexRing α) : List α := (List.range r.len).map fun i => r.mem ((r.tail + i) % cap)

/-- The indices are in range and agree with the count. -/
structure Ok (r : IndexRing α) : Prop where
  tail_lt : r.tail < cap
  len_le : r.len ≤ cap
  head_eq : r.head = (r.tail + r.len) % cap

/-- Put one byte in. -/
def push (x : α) (r : IndexRing α) : IndexRing α :=
  { mem := Function.update r.mem r.head x, head := (r.head + 1) % cap, tail := r.tail, len := r.len + 1 }

/-- Drop the oldest byte. -/
def pop (r : IndexRing α) : IndexRing α :=
  { mem := r.mem, head := r.head, tail := (r.tail + 1) % cap, len := r.len - 1 }

/-- Forget everything. -/
def clear (r : IndexRing α) : IndexRing α := { mem := r.mem, head := 0, tail := 0, len := 0 }

/-- Put bytes in while there is room, and count them. -/
def fill : List α → IndexRing α → Nat × IndexRing α
  | [], r => (0, r)
  | x :: xs, r =>
    if r.len < cap then
      let (n, r) := fill xs (push cap x r)
      (n + 1, r)
    else (0, r)

/-- Take out at most `n` bytes. -/
def drain : Nat → IndexRing α → List α × IndexRing α
  | 0, r => ([], r)
  | n + 1, r =>
    if r.len = 0 then ([], r)
    else
      let x := r.mem r.tail
      let (xs, r) := drain n (pop cap r)
      (x :: xs, r)

variable {cap} {r : IndexRing α}

@[simp] lemma length_contents : (r.contents cap).length = r.len := by simp [contents]

@[simp] lemma contents_clear : r.clear.contents cap = [] := rfl

lemma ok_clear (h : 0 < cap) : r.clear.Ok cap := ⟨h, Nat.zero_le _, (Nat.zero_mod cap).symm⟩

/-- Two places of the window are different places of the memory. -/
lemma mod_ne {t i j : Nat} (hi : i < j) (hj : j < cap) : (t + i) % cap ≠ (t + j) % cap := by
  intro h
  have hmod : i ≡ j [MOD cap] := Nat.ModEq.add_left_cancel' t h
  have hij : i = j := by
    have := hmod
    unfold Nat.ModEq at this
    rwa [Nat.mod_eq_of_lt (hi.trans hj), Nat.mod_eq_of_lt hj] at this
  omega

lemma contents_push (h : r.Ok cap) (x : α) (hlen : r.len < cap) :
    (r.push cap x).contents cap = r.contents cap ++ [x] := by
  have hlast : (r.push cap x).mem ((r.tail + r.len) % cap) = x := by
    show Function.update r.mem r.head x _ = x
    rw [h.head_eq, Function.update_self]
  have hold : ∀ i ∈ List.range r.len,
      (r.push cap x).mem ((r.tail + i) % cap) = r.mem ((r.tail + i) % cap) := by
    intro i hi
    have hne := mod_ne (t := r.tail) (List.mem_range.mp hi) hlen
    show Function.update r.mem r.head x _ = _
    rw [h.head_eq, Function.update_of_ne hne]
  show (List.range (r.len + 1)).map (fun i => (r.push cap x).mem ((r.tail + i) % cap)) = _
  rw [List.range_succ, List.map_append, List.map_congr_left hold, List.map_singleton, hlast]
  rfl

lemma Ok.push (h : r.Ok cap) (x : α) (hlen : r.len < cap) : (r.push cap x).Ok cap := by
  refine ⟨h.tail_lt, hlen, ?_⟩
  show (r.head + 1) % cap = (r.tail + (r.len + 1)) % cap
  rw [h.head_eq, Nat.mod_add_mod, Nat.add_assoc]

lemma contents_pop (hlen : r.len ≠ 0) (h : r.Ok cap) :
    r.contents cap = r.mem r.tail :: (r.pop cap).contents cap := by
  obtain ⟨n, hn⟩ := Nat.exists_eq_succ_of_ne_zero hlen
  have hfirst : r.mem ((r.tail + 0) % cap) = r.mem r.tail := by
    rw [Nat.add_zero, Nat.mod_eq_of_lt h.tail_lt]
  show (List.range r.len).map _ = _ :: (List.range (r.len - 1)).map _
  rw [hn, Nat.succ_eq_add_one, Nat.add_sub_cancel, List.range_succ_eq_map, List.map_cons, hfirst,
    List.map_map]
  congr 1
  refine List.map_congr_left fun i _ => ?_
  show r.mem ((r.tail + (i + 1)) % cap) = r.mem (((r.tail + 1) % cap + i) % cap)
  rw [Nat.mod_add_mod, Nat.add_assoc, Nat.add_comm 1 i]

lemma Ok.pop (hlen : r.len ≠ 0) (h : r.Ok cap) : (r.pop cap).Ok cap := by
  have hcap : 0 < cap := Nat.zero_lt_of_lt h.tail_lt
  refine ⟨Nat.mod_lt _ hcap, (Nat.sub_le _ _).trans h.len_le, ?_⟩
  show r.head = ((r.tail + 1) % cap + (r.len - 1)) % cap
  rw [h.head_eq, Nat.mod_add_mod, Nat.add_assoc, Nat.add_sub_cancel' (Nat.one_le_iff_ne_zero.mpr hlen)]

/-- What `fill` does: it takes the first bytes, as many as there is room for. -/
lemma fill_spec (data : List α) (h : r.Ok cap) :
    (fill cap data r).2.Ok cap ∧
      (fill cap data r).2.contents cap = r.contents cap ++ data.take (fill cap data r).1 ∧
      (fill cap data r).1 = min data.length (cap - r.len) := by
  induction data generalizing r with
  | nil => exact ⟨h, (List.append_nil _).symm, (Nat.zero_min _).symm⟩
  | cons x xs ih =>
    unfold fill
    by_cases hlen : r.len < cap
    · obtain ⟨hok, hcontents, hcount⟩ := ih (h.push x hlen)
      simp only [if_pos hlen]
      refine ⟨hok, ?_, ?_⟩
      · rw [hcontents, contents_push h x hlen, List.append_assoc, List.take_succ_cons]
        rfl
      · rw [hcount, List.length_cons]
        show min xs.length (cap - (r.len + 1)) + 1 = _
        omega
    · simp only [if_neg hlen]
      refine ⟨h, (List.append_nil _).symm, ?_⟩
      have hfull := h.len_le
      rw [List.length_cons]
      omega

/-- What `drain` does: it takes the oldest bytes, at most `n`. -/
lemma drain_spec (n : Nat) (h : r.Ok cap) :
    (drain cap n r).2.Ok cap ∧
      r.contents cap = (drain cap n r).1 ++ (drain cap n r).2.contents cap ∧
      (drain cap n r).1.length = min n r.len := by
  induction n generalizing r with
  | zero => exact ⟨h, rfl, (Nat.zero_min _).symm⟩
  | succ n ih =>
    unfold drain
    by_cases hlen : r.len = 0
    · simp only [if_pos hlen]
      refine ⟨h, rfl, ?_⟩
      rw [hlen, Nat.min_zero]
      rfl
    · obtain ⟨hok, hcontents, hcount⟩ := ih (h.pop hlen)
      simp only [if_neg hlen]
      refine ⟨hok, ?_, ?_⟩
      · rw [contents_pop hlen h, hcontents]
        rfl
      · rw [List.length_cons, hcount]
        show min n (r.len - 1) + 1 = _
        omega

lemma drain_eq_take (n : Nat) (h : r.Ok cap) : (drain cap n r).1 = (r.contents cap).take n := by
  obtain ⟨-, hcontents, hcount⟩ := drain_spec n h
  have hlen : (r.contents cap).length = r.len := length_contents
  by_cases hn : n ≤ r.len
  · rw [hcontents, List.take_left' (by omega)]
  · have hall : (drain cap n r).1.length = (r.contents cap).length := by omega
    have hnil : (drain cap n r).2.contents cap = [] := by
      have := congrArg List.length hcontents
      rw [List.length_append] at this
      exact List.length_eq_zero_iff.mp (by omega)
    rw [List.take_of_length_le (by omega), hcontents, hnil, List.append_nil]

end IndexRing

end RemoteBridge
