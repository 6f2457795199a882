import Mathlib

/-!
# Streams of delimited frames

A frame is a run of symbols without the delimiter, followed by the delimiter.  A stream is a
concatenation of frames.  Two things are needed about streams: cutting what is left of a stream behind
its first delimiter leaves a stream, and a prefix of a stream is a stream followed by a prefix of one
more frame.
-/

namespace RemoteBridge

variable {α : Type*} [DecidableEq α] {d : α}

/-- A run that does not hold the delimiter, and the delimiter. -/
def Framed (d : α) (f : List α) : Prop := ∃ run, d ∉ run ∧ f = run ++ [d]

/-- The symbols up to and including the first delimiter; all of them without one. -/
def upTo (d : α) : List α → List α
  | [] => []
  | x :: xs => if x = d then [x] else x :: upTo d xs

lemma upTo_of_not_mem {l : List α} (h : d ∉ l) : upTo d l = l := by
  induction l with
  | nil => rfl
  | cons x l ih =>
    rw [List.mem_cons, not_or] at h
    rw [upTo, if_neg (Ne.symm h.1), ih h.2]

lemma upTo_append {run rest : List α} (h : d ∉ run) : upTo d (run ++ d :: rest) = run ++ [d] := by
  induction run with
  | nil => simp [upTo]
  | cons x run ih =>
    rw [List.mem_cons, not_or] at h
    rw [List.cons_append, upTo, if_neg (Ne.symm h.1), ih h.2, List.cons_append]

/-- The search for the first delimiter in an indexed list finds where to cut. -/
lemma take_find_eq_upTo (f : Nat → α) (n : Nat) :
    ((List.range n).map f).take (((List.range n).find? fun i => f i == d).elim n (· + 1)) =
      upTo d ((List.range n).map f) := by
  cases hfind : (List.range n).find? fun i => f i == d with
  | none =>
    have hnone : d ∉ (List.range n).map f := by
      intro hmem
      obtain ⟨i, hi, rfl⟩ := List.mem_map.mp hmem
      have hne := List.find?_eq_none.mp hfind i hi
      simp at hne
    rw [upTo_of_not_mem hnone]
    exact List.take_of_length_le (by simp)
  | some i =>
    obtain ⟨hd, hi, hbefore⟩ := List.find?_range_eq_some.mp hfind
    have hlt : i < n := List.mem_range.mp hi
    have hrun : d ∉ (List.range i).map f := by
      intro hmem
      obtain ⟨j, hj, heq⟩ := List.mem_map.mp hmem
      have hne := hbefore j (List.mem_range.mp hj)
      simp [heq] at hne
    obtain ⟨m, rfl⟩ : ∃ m, n = i + 1 + m := ⟨n - (i + 1), by omega⟩
    have hsplit : (List.range (i + 1 + m)).map f =
        (List.range i).map f ++ d :: (List.range m).map fun j => f (i + 1 + j) := by
      rw [List.range_add, List.range_succ]
      simp [beq_iff_eq.mp hd, Function.comp_def]
    rw [hsplit, upTo_append hrun]
    simp only [Option.elim_some, List.take_append, List.length_map, List.length_range]
    rw [List.take_of_length_le (by simp)]
    simp

/-- Cutting what is left of a stream behind its first delimiter leaves a stream. -/
lemma exists_stream_upTo {fs : List (List α)} {sent rest : List α} (hfs : ∀ f ∈ fs, Framed d f)
    (h : sent ++ rest = fs.flatten) : ∃ gs, gs <+: fs ∧ sent ++ upTo d rest = gs.flatten := by
  induction fs generalizing sent with
  | nil =>
    obtain ⟨rfl, rfl⟩ : sent = [] ∧ rest = [] := by simpa using h
    exact ⟨[], List.prefix_rfl, rfl⟩
  | cons f fs ih =>
    rw [List.flatten_cons] at h
    rcases List.append_eq_append_iff.mp h with ⟨f₂, hf, hrest⟩ | ⟨sent', hsent, hfs'⟩
    · obtain ⟨run, hrun, hframe⟩ := hfs f List.mem_cons_self
      cases hf₂ : f₂.reverse with
      | nil =>
        -- all of the first frame is sent
        have hempty : f₂ = [] := by simpa using hf₂
        subst hempty
        rw [List.append_nil] at hf
        subst hf
        have hnone : [] ++ rest = fs.flatten := by simpa using hrest
        obtain ⟨gs, hgs, heq⟩ := ih (fun g hg => hfs g (List.mem_cons_of_mem _ hg)) hnone
        rw [List.nil_append] at heq
        refine ⟨f :: gs, List.cons_prefix_cons.mpr ⟨rfl, hgs⟩, ?_⟩
        rw [heq, List.flatten_cons]
      | cons x xs =>
        -- the cut is at the end of the first frame
        have hlast : f₂ = xs.reverse ++ [x] := by
          rw [← List.reverse_reverse f₂, hf₂, List.reverse_cons]
        have hboth : run ++ [d] = (sent ++ xs.reverse) ++ [x] := by
          rw [← hframe, hf, hlast, List.append_assoc]
        obtain ⟨hrun', hx⟩ := List.append_inj' hboth rfl
        have hxd : x = d := by simpa using hx.symm
        have hno : d ∉ xs.reverse := fun hmem => hrun (hrun' ▸ List.mem_append_right _ hmem)
        refine ⟨[f], by simp, ?_⟩
        rw [hrest, hlast, hxd, List.append_assoc, List.singleton_append, upTo_append hno, hf, hlast,
          hxd]
        simp
    · obtain ⟨gs, hgs, heq⟩ := ih (fun g hg => hfs g (List.mem_cons_of_mem _ hg)) hfs'.symm
      refine ⟨f :: gs, List.cons_prefix_cons.mpr ⟨rfl, hgs⟩, ?_⟩
      rw [hsent, List.append_assoc, heq, List.flatten_cons]

omit [DecidableEq α] in
/-- A prefix of a concatenation is a concatenation followed by a prefix of one more part. -/
lemma exists_complete_upTo {fs : List (List α)} {l : List α} (h : l <+: fs.flatten)
    {last : List α} : ∃ gs tail, gs <+: fs ∧ l = gs.flatten ++ tail ∧
      ∃ f, (f ∈ fs ∨ f = last) ∧ tail <+: f := by
  induction fs generalizing l with
  | nil =>
    have hl : l = [] := by simpa using h
    exact ⟨[], [], List.prefix_rfl, by simp [hl], last, .inr rfl, List.nil_prefix⟩
  | cons f fs ih =>
    obtain ⟨rest, hrest⟩ := h
    rw [List.flatten_cons] at hrest
    rcases List.append_eq_append_iff.mp hrest with ⟨f₂, hf, -⟩ | ⟨l', hl, hfs⟩
    · exact ⟨[], l, List.nil_prefix, rfl, f, .inl List.mem_cons_self, ⟨f₂, hf.symm⟩⟩
    · obtain ⟨gs, tail, hgs, hl', g, hg, htail⟩ := ih ⟨rest, hfs.symm⟩
      refine ⟨f :: gs, tail, List.cons_prefix_cons.mpr ⟨rfl, hgs⟩, ?_, g,
        hg.imp (List.mem_cons_of_mem _) id, htail⟩
      rw [hl, hl', List.flatten_cons, List.append_assoc]

end RemoteBridge
