import Mathlib

/-!
# Maximal runs

The maximal runs of a list are the segments of `List.splitBy`.  A list that grows at its end either
extends its last run or begins a new one; `splitBy_concat_of_rel` and `splitBy_concat_of_not_rel` are the
two cases, so that a program that reads a history element by element can be followed with them alone.
-/

namespace RemoteBridge

section Runs

variable {α : Type} {r : α → α → Bool} {l : List α} {a : α}

lemma splitBy_concat_of_not_rel (h : ∀ x ∈ l.getLast?, r x a = false) :
    (l ++ [a]).splitBy r = l.splitBy r ++ [[a]] := by
  rw [List.splitBy_append_cons [] h]
  rfl

/-- The last run, which the last element of the list ends. -/
lemma exists_splitBy_concat (hl : l ≠ []) :
    ∃ gs g, ∃ hg : g ≠ [], l.splitBy r = gs ++ [g] ∧ g.getLast hg = l.getLast hl := by
  have hne : l.splitBy r ≠ [] := List.splitBy_ne_nil.mpr hl
  have hmem : (l.splitBy r).getLast hne ∈ l.splitBy r := List.getLast_mem hne
  exact ⟨(l.splitBy r).dropLast, (l.splitBy r).getLast hne, List.ne_nil_of_mem_splitBy hmem,
    (List.dropLast_append_getLast hne).symm, List.getLast_getLast_splitBy r hl⟩

lemma splitBy_concat_of_rel {gs : List (List α)} {g : List α} (hsplit : l.splitBy r = gs ++ [g])
    (hg : g ≠ []) (h : r (g.getLast hg) a = true) : (l ++ [a]).splitBy r = gs ++ [g ++ [a]] := by
  obtain ⟨hflat, hnil, hchain, hbreaks⟩ := List.splitBy_eq_iff.mp hsplit
  refine List.splitBy_eq_iff.mpr ⟨?_, ?_, ?_, ?_⟩
  · rw [hflat]
    simp
  · intro hmem
    rcases List.mem_append.mp hmem with hmem | hmem
    · exact hnil (List.mem_append_left _ hmem)
    · simp at hmem
  · intro m hm
    rcases List.mem_append.mp hm with hm | hm
    · exact hchain m (List.mem_append_left _ hm)
    · rw [List.mem_singleton.mp hm]
      refine List.isChain_append.mpr ⟨hchain g (by simp), List.isChain_singleton a, ?_⟩
      intro x hx y hy
      rw [List.getLast?_eq_some_getLast hg, Option.mem_some_iff] at hx
      rw [List.head?_cons, Option.mem_some_iff] at hy
      rw [← hx, ← hy]
      exact h
  · rw [List.isChain_append] at hbreaks ⊢
    refine ⟨hbreaks.1, List.isChain_singleton _, ?_⟩
    intro x hx y hy
    rw [List.head?_cons, Option.mem_some_iff] at hy
    obtain ⟨ha, hb, hrel⟩ := hbreaks.2.2 x hx g (by simp)
    subst hy
    exact ⟨ha, by simp, by rwa [List.head_append_of_ne_nil hb]⟩

end Runs

end RemoteBridge
