import Mathlib

/-!
# Scanners

A scanner takes one symbol at a time and reports at most one event for it.  `scan` runs it over a whole
input; `scanOne` stops behind the first event and returns what is left, as a receiver does that hands its
events to a caller one by one.

The rules are: scanning in pieces is scanning the whole (`scan_append`), what every symbol keeps is kept
(`scan_keeps`), and two scanners that move in step report the same events (`scan_simulates`).
-/

namespace RemoteBridge

variable {α σ σ' ε ε' : Type} (step : α → σ → Option ε × σ)

/-- The events of an input, and the state after it. -/
def scan : List α → σ → List ε × σ
  | [], s => ([], s)
  | a :: input, s =>
    let r := scan input (step a s).2
    ((step a s).1.toList ++ r.1, r.2)

/-- The first event of an input, what is left behind it, and the state there. -/
def scanOne : List α → σ → Option ε × List α × σ
  | [], s => (none, [], s)
  | a :: input, s =>
    match step a s with
    | (none, s') => scanOne input s'
    | (some e, s') => (some e, input, s')

@[simp] lemma scan_nil (s : σ) : scan step [] s = ([], s) := rfl

lemma scan_cons (a : α) (input : List α) (s : σ) :
    scan step (a :: input) s =
      ((step a s).1.toList ++ (scan step input (step a s).2).1, (scan step input (step a s).2).2) := rfl

/-- An input can be scanned in pieces. -/
lemma scan_append (xs ys : List α) (s : σ) :
    scan step (xs ++ ys) s =
      ((scan step xs s).1 ++ (scan step ys (scan step xs s).2).1,
        (scan step ys (scan step xs s).2).2) := by
  induction xs generalizing s with
  | nil => rfl
  | cons a xs ih =>
    rw [List.cons_append, scan_cons, ih, scan_cons, List.append_assoc]

variable {step}

/-- An input without an event. -/
lemma scan_of_scanOne_none {input rest : List α} {s s' : σ}
    (h : scanOne step input s = (none, rest, s')) : scan step input s = ([], s') ∧ rest = [] := by
  induction input generalizing s with
  | nil =>
    obtain ⟨-, hrest, hs⟩ : (none : Option ε) = none ∧ [] = rest ∧ s = s' := by
      simpa [scanOne] using h
    exact ⟨by rw [hs]; rfl, hrest.symm⟩
  | cons a input ih =>
    rw [scanOne] at h
    split at h
    · next s₁ hstep =>
      rw [scan_cons, hstep]
      exact ih h
    · cases h

/-- An input with an event: it is scanned up to the event, and from there on. -/
lemma scan_of_scanOne_some {input rest : List α} {s s' : σ} {e : ε}
    (h : scanOne step input s = (some e, rest, s')) :
    scan step input s = (e :: (scan step rest s').1, (scan step rest s').2) ∧
      rest.length < input.length := by
  induction input generalizing s with
  | nil => cases h
  | cons a input ih =>
    rw [scanOne] at h
    split at h
    · next s₁ hstep =>
      rw [scan_cons, hstep]
      exact ⟨(ih h).1, Nat.lt_succ_of_lt (ih h).2⟩
    · next e' s₁ hstep =>
      obtain ⟨rfl, rfl, rfl⟩ : e' = e ∧ input = rest ∧ s₁ = s' := by simpa using h
      rw [scan_cons, hstep]
      exact ⟨rfl, Nat.lt_succ_self _⟩

/-- What every symbol keeps is kept. -/
lemma scan_keeps {P : σ → Prop} (hstep : ∀ a s, P s → P (step a s).2) (input : List α) {s : σ}
    (hs : P s) : P (scan step input s).2 := by
  induction input generalizing s with
  | nil => exact hs
  | cons a input ih =>
    rw [scan_cons]
    exact ih (hstep a s hs)

lemma scanOne_keeps {P : σ → Prop} (hstep : ∀ a s, P s → P (step a s).2) (input : List α) {s : σ}
    (hs : P s) : P (scanOne step input s).2.2 := by
  induction input generalizing s with
  | nil => exact hs
  | cons a input ih =>
    have hnext := hstep a s hs
    rw [scanOne]
    split
    · next s₁ heq =>
      rw [heq] at hnext
      exact ih hnext
    · next e s₁ heq =>
      rw [heq] at hnext
      exact hnext

/-- Two scanners whose states stay related report the same events, up to a translation. -/
lemma scan_simulates {step' : α → σ' → Option ε' × σ'} {R : σ → σ' → Prop} {f : ε → ε'}
    (hstep : ∀ a s s', R s s' → R (step a s).2 (step' a s').2 ∧ (step' a s').1 = (step a s).1.map f)
    (input : List α) {s : σ} {s' : σ'} (hs : R s s') :
    R (scan step input s).2 (scan step' input s').2 ∧
      (scan step' input s').1 = (scan step input s).1.map f := by
  induction input generalizing s s' with
  | nil => exact ⟨hs, rfl⟩
  | cons a input ih =>
    obtain ⟨hnext, hevent⟩ := hstep a s s' hs
    obtain ⟨hend, hevents⟩ := ih hnext
    rw [scan_cons, scan_cons]
    refine ⟨hend, ?_⟩
    rw [hevents, hevent, List.map_append]
    cases (step a s).1 <;> rfl

end RemoteBridge
