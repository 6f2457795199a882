import Mathlib.Data.List.Basic

/-!
# Histories

A history is a list of entries, the newest first.  `Older Q h` says what the entries of `h` have to do
with something that comes after them, given what lies between; `Descends P h` says it of every entry and
the older ones.  Both are taken apart at the newest entry.
-/

namespace RemoteBridge

variable {α : Type*} {P : α → List α → α → Prop} {Q Q' : List α → α → Prop} {c e : α} {h : List α}

/-- `Q` holds of every entry and the entries that came after it. -/
def Older (Q : List α → α → Prop) (h : List α) : Prop := ∀ l d l', h = l ++ d :: l' → Q l d

/-- `P` holds of every entry, the entries between, and every older entry. -/
def Descends (P : α → List α → α → Prop) (h : List α) : Prop :=
  ∀ l c rest, h = l ++ c :: rest → Older (P c) rest

lemma Older.mono (ho : Older Q h) (hQ : ∀ l d, d ∈ h → Q l d → Q' l d) : Older Q' h := by
  intro l d l' heq
  refine hQ l d ?_ (ho l d l' heq)
  rw [heq]
  exact List.mem_append_right l (List.mem_cons_self ..)

lemma older_of_all (hQ : ∀ l, ∀ d ∈ h, Q l d) : Older Q h := by
  intro l d l' heq
  refine hQ l d ?_
  rw [heq]
  exact List.mem_append_right l (List.mem_cons_self ..)

lemma older_cons : Older Q (e :: h) ↔ Q [] e ∧ Older (fun l => Q (e :: l)) h := by
  constructor
  · intro ho
    refine ⟨ho [] e h rfl, fun l d l' heq => ho (e :: l) d l' ?_⟩
    rw [heq, List.cons_append]
  · rintro ⟨hfirst, hrest⟩ l d l' heq
    cases l with
    | nil =>
      obtain ⟨rfl, -⟩ := List.cons.inj heq
      exact hfirst
    | cons a l =>
      obtain ⟨rfl, hh⟩ := List.cons.inj heq
      exact hrest l d l' hh

lemma descends_cons : Descends P (c :: h) ↔ Older (P c) h ∧ Descends P h := by
  constructor
  · intro ho
    refine ⟨ho [] c h rfl, fun l d rest heq => ho (c :: l) d rest ?_⟩
    rw [heq, List.cons_append]
  · rintro ⟨hfirst, hrest⟩ l d rest heq
    cases l with
    | nil =>
      obtain ⟨rfl, rfl⟩ := List.cons.inj heq
      exact hfirst
    | cons a l => exact hrest l d rest (List.cons.inj heq).2

/-- Entries that `P` asks nothing of. -/
lemma descends_of_all (hP : ∀ c ∈ h, ∀ l d, P c l d) : Descends P h := by
  intro l c rest heq
  refine older_of_all fun l' d _ => hP c ?_ l' d
  rw [heq]
  exact List.mem_append_right l (List.mem_cons_self ..)

end RemoteBridge
