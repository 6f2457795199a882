import Mathlib

/-!
# Tables of slots

A fixed table whose slots are taken and released in place, and the search for the slot with the smallest
number.  What matters about a table is the list of its taken slots; taking or releasing a slot inserts
or removes one element of that list at some position.
-/

namespace RemoteBridge

variable {α : Type*}

/-- A position in a list splits it, and overwriting the position keeps the two sides. -/
lemma exists_split_set {l : List α} {i : Nat} {a : α} (h : l[i]? = some a) :
    ∃ xs ys, l = xs ++ a :: ys ∧ ∀ c, l.set i c = xs ++ c :: ys := by
  obtain ⟨hi, rfl⟩ := List.getElem?_eq_some_iff.mp h
  refine ⟨l.take i, l.drop (i + 1), by simp, fun c => ?_⟩
  rw [List.set_eq_take_append_cons_drop, if_pos hi]

/-- Releasing a taken slot removes it from the taken slots. -/
lemma filter_set_released {p : α → Bool} {l : List α} {i : Nat} {a c : α} (h : l[i]? = some a)
    (ha : p a = true) (hc : p c = false) :
    ∃ xs ys, l.filter p = xs ++ a :: ys ∧ (l.set i c).filter p = xs ++ ys := by
  obtain ⟨xs, ys, hl, hset⟩ := exists_split_set h
  refine ⟨xs.filter p, ys.filter p, ?_, ?_⟩
  · rw [hl]
    simp [ha]
  · rw [hset]
    simp [hc]

/-- Taking a free slot inserts it among the taken slots. -/
lemma filter_set_taken {p : α → Bool} {l : List α} {i : Nat} {a c : α} (h : l[i]? = some a)
    (ha : p a = false) (hc : p c = true) :
    ∃ xs ys, l.filter p = xs ++ ys ∧ (l.set i c).filter p = xs ++ c :: ys := by
  obtain ⟨xs, ys, hl, hset⟩ := exists_split_set h
  refine ⟨xs.filter p, ys.filter p, ?_, ?_⟩
  · rw [hl]
    simp [ha]
  · rw [hset]
    simp [hc]

/-- One comparison of the search for the smallest number. -/
def keepLeast (p : α → Bool) (key : α → UInt32) (best : Option UInt32) (a : α) : Option UInt32 :=
  if p a && best.all (fun o => decide (key a < o)) then some (key a) else best

/-- The search finds nothing only when there is nothing. -/
lemma foldl_keepLeast_none {p : α → Bool} {key : α → UInt32} {l : List α} {init : Option UInt32}
    (h : l.foldl (keepLeast p key) init = none) : init = none ∧ ∀ a ∈ l, p a = false := by
  induction l generalizing init with
  | nil => simpa using h
  | cons a l ih =>
    obtain ⟨hstep, hl⟩ := ih h
    unfold keepLeast at hstep
    split at hstep
    · cases hstep
    · next hc =>
      subst hstep
      refine ⟨rfl, fun x hx => ?_⟩
      rcases List.mem_cons.mp hx with rfl | hx
      · simpa using hc
      · exact hl x hx

/-- What the search finds is a number it saw. -/
lemma foldl_keepLeast_mem {p : α → Bool} {key : α → UInt32} {l : List α} {init : Option UInt32}
    {o : UInt32} (h : l.foldl (keepLeast p key) init = some o) :
    init = some o ∨ ∃ a ∈ l, p a = true ∧ key a = o := by
  induction l generalizing init with
  | nil => exact .inl h
  | cons a l ih =>
    rcases ih h with hstep | ⟨x, hx, hpx⟩
    · unfold keepLeast at hstep
      split at hstep
      · next hc =>
        simp only [Bool.and_eq_true] at hc
        exact .inr ⟨a, List.mem_cons_self, hc.1, by simpa using hstep⟩
      · exact .inl hstep
    · exact .inr ⟨x, List.mem_cons_of_mem _ hx, hpx⟩

/-- What the search finds is below every number it saw. -/
lemma foldl_keepLeast_le {p : α → Bool} {key : α → UInt32} {l : List α} {init : Option UInt32}
    {o : UInt32} (h : l.foldl (keepLeast p key) init = some o) :
    (∀ i, init = some i → o ≤ i) ∧ ∀ a ∈ l, p a = true → o ≤ key a := by
  induction l generalizing init with
  | nil =>
    refine ⟨fun i hi => ?_, by simp⟩
    simp only [List.foldl_nil] at h
    rw [hi] at h
    cases h
    exact UInt32.le_refl o
  | cons a l ih =>
    obtain ⟨hstep, hl⟩ := ih h
    unfold keepLeast at hstep
    split at hstep
    · next hc =>
      have hle := hstep _ rfl
      simp only [Bool.and_eq_true] at hc
      refine ⟨fun i hi => ?_, fun x hx hpx => ?_⟩
      · have hlt : key a < i := by simpa [hi] using hc.2
        exact UInt32.le_of_lt (UInt32.lt_of_le_of_lt hle hlt)
      · rcases List.mem_cons.mp hx with rfl | hx
        · exact hle
        · exact hl x hx hpx
    · next hc =>
      refine ⟨hstep, fun x hx hpx => ?_⟩
      rcases List.mem_cons.mp hx with rfl | hx
      · cases hi : init with
        | none => simp [hi, hpx] at hc
        | some i =>
          have hge : ¬ key x < i := by simpa [hi, hpx] using hc
          exact UInt32.le_trans (hstep i hi) (UInt32.not_lt.mp hge)
      · exact hl x hx hpx

/-- The search only sees the taken slots and their numbers. -/
lemma foldl_keepLeast_map {β : Type*} {p : α → Bool} {key : α → UInt32} {p' : β → Bool} {key' : β → UInt32} {f : α → β}
    (hp : ∀ a, p' (f a) = p a) (hkey : ∀ a, p a = true → key' (f a) = key a) (l : List α) (init : Option UInt32) :
    (l.map f).foldl (keepLeast p' key') init = l.foldl (keepLeast p key) init := by
  have hstep : ∀ best a, keepLeast p' key' best (f a) = keepLeast p key best a := by
    intro best a
    unfold keepLeast
    by_cases ha : p a = true
    · simp only [hp, hkey a ha]
    · simp only [hp, ha, Bool.false_and, Bool.false_eq_true, if_false]
  rw [List.foldl_map]
  simp only [hstep]

end RemoteBridge
