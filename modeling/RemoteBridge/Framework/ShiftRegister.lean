import Mathlib

/-!
# Shift registers with feedback

The register of a reflected CRC moves right by one bit and takes the polynomial in when a one drops out
(`feedback`).  It is linear over exclusive or, and bits that are zero drop out without a trace.  So `n`
steps at once are a shift by `n` and the feedback of the `n` low bits (`feedbacks_eq`), which is what a
table holds.
-/

namespace RemoteBridge

variable {w : Nat}

/-- One step of the register. -/
def feedback (poly c : BitVec w) : BitVec w := (c >>> 1) ^^^ (if c.getLsbD 0 then poly else 0#w)

/-- Several steps. -/
def feedbacks (poly : BitVec w) : Nat → BitVec w → BitVec w
  | 0, c => c
  | n + 1, c => feedbacks poly n (feedback poly c)

lemma feedback_xor (poly a b : BitVec w) :
    feedback poly (a ^^^ b) = feedback poly a ^^^ feedback poly b := by
  unfold feedback
  rw [BitVec.ushiftRight_xor_distrib, BitVec.getLsbD_xor]
  have hswap : ∀ x y u v : BitVec w, (x ^^^ u) ^^^ (y ^^^ v) = (x ^^^ y) ^^^ (u ^^^ v) := by
    intro x y u v
    rw [BitVec.xor_assoc, BitVec.xor_assoc, ← BitVec.xor_assoc u, BitVec.xor_comm u y,
      BitVec.xor_assoc y]
  rw [hswap]
  cases a.getLsbD 0 <;> cases b.getLsbD 0 <;> simp

lemma feedbacks_xor (poly : BitVec w) (n : Nat) (a b : BitVec w) :
    feedbacks poly n (a ^^^ b) = feedbacks poly n a ^^^ feedbacks poly n b := by
  induction n generalizing a b with
  | zero => rfl
  | succ n ih => rw [feedbacks, feedback_xor, ih, feedbacks, feedbacks]

/-- Zeros drop out without feedback. -/
lemma feedbacks_of_zeros (poly : BitVec w) (n : Nat) {c : BitVec w}
    (h : ∀ i < n, c.getLsbD i = false) : feedbacks poly n c = c >>> n := by
  induction n generalizing c with
  | zero => rfl
  | succ n ih =>
    have hstep : feedback poly c = c >>> 1 := by
      rw [feedback, h 0 (Nat.succ_pos n), if_neg Bool.false_ne_true, BitVec.xor_zero]
    rw [feedbacks, hstep, ih, ← BitVec.shiftRight_add, Nat.add_comm]
    intro i hi
    rw [BitVec.getLsbD_ushiftRight]
    exact h (1 + i) (by omega)

/-- Several steps at once: the low bits feed back, the others move down. -/
lemma feedbacks_eq (poly : BitVec w) (n : Nat) {mask : BitVec w}
    (hmask : ∀ i, mask.getLsbD i = (decide (i < n) && decide (i < w))) (c : BitVec w) :
    feedbacks poly n c = feedbacks poly n (c &&& mask) ^^^ (c >>> n) := by
  have hsplit : c = (c &&& mask) ^^^ (c &&& ~~~mask) := by
    refine BitVec.eq_of_getLsbD_eq fun i hi => ?_
    rw [BitVec.getLsbD_xor, BitVec.getLsbD_and, BitVec.getLsbD_and, BitVec.getLsbD_not]
    cases c.getLsbD i <;> cases mask.getLsbD i <;> simp [hi]
  have hhigh : feedbacks poly n (c &&& ~~~mask) = c >>> n := by
    rw [feedbacks_of_zeros poly n]
    · refine BitVec.eq_of_getLsbD_eq fun i hi => ?_
      rw [BitVec.getLsbD_ushiftRight, BitVec.getLsbD_ushiftRight, BitVec.getLsbD_and,
        BitVec.getLsbD_not, hmask]
      by_cases hin : n + i < w
      · simp [hin]
      · simp [BitVec.getLsbD_of_ge c (n + i) (by omega)]
    · intro i hi
      rw [BitVec.getLsbD_and, BitVec.getLsbD_not, hmask]
      by_cases hin : i < w <;> simp [hi, hin]
  calc feedbacks poly n c = feedbacks poly n ((c &&& mask) ^^^ (c &&& ~~~mask)) := by rw [← hsplit]
    _ = feedbacks poly n (c &&& mask) ^^^ (c >>> n) := by rw [feedbacks_xor, hhigh]

end RemoteBridge
