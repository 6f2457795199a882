import RemoteBridge.Framework.ShiftRegister

/-!
# Checksums as remainders

A cyclic redundancy check divides the message, read as a polynomial over two elements, by a generator.
A reflected register keeps the remainder with its highest coefficient in bit zero and takes the message
in bit by bit (`serials`).  `residue_serials` is the division: the register after a message holds the
remainder of the message behind the register before it.
-/

namespace RemoteBridge

open Polynomial

variable {w : Nat}

/-! ## The bit-serial register -/

/-- One bit of the message. -/
def serial (poly c : BitVec w) (b : Bool) : BitVec w := feedback poly (c ^^^ (BitVec.ofBool b).setWidth w)

/-- A message, first bit first. -/
def serials (poly : BitVec w) (bits : List Bool) (c : BitVec w) : BitVec w := bits.foldl (serial poly) c

lemma getLsbD_ofBool_setWidth (b : Bool) (i : Nat) :
    ((BitVec.ofBool b).setWidth w).getLsbD i = (decide (i = 0 ∧ i < w) && b) := by
  cases b
  · simp
  · cases i with
    | zero => by_cases hw : 0 < w <;> simp [hw]
    | succ i => simp

/-- Several bits at once: they are added to the register, which then makes as many steps. -/
lemma serials_eq_feedbacks (poly : BitVec w) (n : Nat) {m : BitVec w} (hm : ∀ i, n ≤ i → m.getLsbD i = false)
    (c : BitVec w) : serials poly ((List.range n).map m.getLsbD) c = feedbacks poly n (c ^^^ m) := by
  induction n generalizing m c with
  | zero =>
    have hzero : m = 0#w := BitVec.eq_of_getLsbD_eq fun i _ => by rw [hm i (Nat.zero_le i), BitVec.getLsbD_zero]
    rw [hzero, feedbacks, BitVec.xor_zero]
    rfl
  | succ n ih =>
    -- The lowest bit feeds back, the others only move down.
    have hsplit : m = (BitVec.ofBool (m.getLsbD 0)).setWidth w ^^^ ((m >>> 1) <<< 1) := by
      refine BitVec.eq_of_getLsbD_eq fun i hi => ?_
      rw [BitVec.getLsbD_xor, getLsbD_ofBool_setWidth, BitVec.getLsbD_shiftLeft, BitVec.getLsbD_ushiftRight]
      cases i with
      | zero => simp [hi]
      | succ i => simp [hi, Nat.add_comm 1 i]
    have hmoved : feedback poly ((m >>> 1) <<< 1) = m >>> 1 := by
      have hlow : ((m >>> 1) <<< 1).getLsbD 0 = false := by simp
      rw [feedback, hlow, if_neg Bool.false_ne_true, BitVec.xor_zero]
      refine BitVec.eq_of_getLsbD_eq fun i hi => ?_
      rw [BitVec.getLsbD_ushiftRight, BitVec.getLsbD_shiftLeft, BitVec.getLsbD_ushiftRight,
        Nat.add_sub_cancel_left]
      by_cases hin : 1 + i < w
      · simp [hin]
      · simp [BitVec.getLsbD_of_ge m (1 + i) (by omega)]
    have hstep : feedback poly (c ^^^ m) = serial poly c (m.getLsbD 0) ^^^ (m >>> 1) := by
      conv => lhs; rw [hsplit]
      rw [← BitVec.xor_assoc, feedback_xor, hmoved]
      rfl
    have hbits : (List.range (n + 1)).map m.getLsbD = m.getLsbD 0 :: (List.range n).map (m >>> 1).getLsbD := by
      rw [List.range_succ_eq_map, List.map_cons, List.map_map]
      congr 1
      refine List.map_congr_left fun i _ => ?_
      rw [BitVec.getLsbD_ushiftRight, Nat.add_comm 1 i]
      rfl
    have hrest : ∀ i, n ≤ i → (m >>> 1).getLsbD i = false := by
      intro i hi
      rw [BitVec.getLsbD_ushiftRight]
      exact hm (1 + i) (by omega)
    rw [hbits, feedbacks, hstep, ← ih hrest]
    rfl

/-! ## Polynomials -/

/-- A bit as an element of the field. -/
def bitValue (b : Bool) : ZMod 2 := if b then 1 else 0

lemma bitValue_xor (a b : Bool) : bitValue (a ^^ b) = bitValue a + bitValue b := by
  cases a <;> cases b <;> decide

/-- The polynomial that a register stands for. -/
noncomputable def residue (c : BitVec w) : (ZMod 2)[X] :=
  ∑ i ∈ Finset.range w, C (bitValue (c.getLsbD i)) * X ^ (w - 1 - i)

/-- The polynomial of a message. -/
noncomputable def messagePoly : List Bool → (ZMod 2)[X]
  | [] => 0
  | b :: bits => C (bitValue b) * X ^ bits.length + messagePoly bits

/-- The generator: the register leaves out its leading term. -/
noncomputable def generator (poly : BitVec w) : (ZMod 2)[X] := X ^ w + residue poly

lemma residue_xor (a b : BitVec w) : residue (a ^^^ b) = residue a + residue b := by
  unfold residue
  rw [← Finset.sum_add_distrib]
  refine Finset.sum_congr rfl fun i _ => ?_
  rw [BitVec.getLsbD_xor, bitValue_xor, C_add, add_mul]

lemma degree_residue_lt (c : BitVec w) : (residue c).degree < w := by
  refine (degree_lt_iff_coeff_zero _ _).mpr fun k hk => ?_
  unfold residue
  rw [finsetSum_coeff]
  refine Finset.sum_eq_zero fun i hi => ?_
  have hlt := Finset.mem_range.mp hi
  rw [coeff_C_mul, coeff_X_pow, if_neg (by omega), mul_zero]

lemma monic_generator (poly : BitVec w) : (generator poly).Monic := monic_X_pow_add (degree_residue_lt poly)

lemma degree_generator (poly : BitVec w) : (generator poly).degree = w := by
  unfold generator
  rw [degree_add_eq_left_of_degree_lt, degree_X_pow]
  rw [degree_X_pow]
  exact degree_residue_lt poly

/-- A shift of the register multiplies; the bit that drops out is the coefficient that gets too high. -/
lemma residue_ushiftRight (c : BitVec w) (hw : 0 < w) :
    residue (c >>> 1) + C (bitValue (c.getLsbD 0)) * X ^ w = X * residue c := by
  obtain ⟨n, rfl⟩ : ∃ n, w = n + 1 := ⟨w - 1, by omega⟩
  have hshift : residue (c >>> 1) = ∑ i ∈ Finset.range n, C (bitValue (c.getLsbD (i + 1))) * X ^ (n - i) := by
    unfold residue
    rw [Finset.sum_range_succ]
    have hlast : (c >>> 1).getLsbD n = false := by
      rw [BitVec.getLsbD_ushiftRight, BitVec.getLsbD_of_ge _ _ (by omega)]
    rw [hlast]
    simp only [bitValue, Bool.false_eq_true, if_false, map_zero, zero_mul, add_zero, Nat.add_sub_cancel]
    refine Finset.sum_congr rfl fun i _ => ?_
    rw [BitVec.getLsbD_ushiftRight, Nat.add_comm 1 i]
  have hwhole : X * residue c =
      ∑ i ∈ Finset.range n, C (bitValue (c.getLsbD (i + 1))) * X ^ (n - i) +
        C (bitValue (c.getLsbD 0)) * X ^ (n + 1) := by
    unfold residue
    rw [Finset.mul_sum, Finset.sum_range_succ']
    congr 1
    · refine Finset.sum_congr rfl fun i hi => ?_
      have hlt := Finset.mem_range.mp hi
      rw [mul_left_comm, ← pow_succ']
      congr 2
      omega
    · rw [mul_left_comm, ← pow_succ']
      congr 2
  rw [hshift, hwhole]

/-- One bit: the register is multiplied, the bit enters behind it, and a multiple of the generator goes. -/
lemma residue_serial (poly c : BitVec w) (b : Bool) (hw : 0 < w) :
    ∃ q, residue (serial poly c b) = X * residue c + C (bitValue b) * X ^ w + q * generator poly := by
  obtain ⟨d, hd⟩ : ∃ d, d = c ^^^ (BitVec.ofBool b).setWidth w := ⟨_, rfl⟩
  have hbit : residue ((BitVec.ofBool b).setWidth w) = C (bitValue b) * X ^ (w - 1) := by
    unfold residue
    rw [Finset.sum_eq_single_of_mem 0 (Finset.mem_range.mpr hw)]
    · rw [getLsbD_ofBool_setWidth]
      simp [hw]
    · intro i _ hi
      rw [getLsbD_ofBool_setWidth]
      simp [hi, bitValue]
  have hadd : X * residue d = X * residue c + C (bitValue b) * X ^ w := by
    rw [hd, residue_xor, hbit, mul_add, mul_left_comm, ← pow_succ']
    congr 3
    omega
  have hfeed : residue (feedback poly d) = residue (d >>> 1) + C (bitValue (d.getLsbD 0)) * residue poly := by
    unfold feedback
    rw [residue_xor]
    cases d.getLsbD 0 with
    | true => simp [bitValue]
    | false =>
      have hzero : residue (0#w) = 0 := Finset.sum_eq_zero fun i _ => by simp [bitValue]
      simp [bitValue, hzero]
  refine ⟨C (bitValue (d.getLsbD 0)), ?_⟩
  -- Two equal terms cancel in characteristic two.
  have hshift := residue_ushiftRight d hw
  have htwice : C (bitValue (d.getLsbD 0)) * X ^ w + C (bitValue (d.getLsbD 0)) * X ^ w = (0 : (ZMod 2)[X]) :=
    CharTwo.add_self_eq_zero _
  rw [serial, ← hd, hfeed, ← hadd, ← hshift, generator]
  linear_combination -htwice

/-- A message: the register is multiplied once for each bit, and a multiple of the generator goes. -/
lemma residue_serials_add (poly : BitVec w) (bits : List Bool) (c : BitVec w) (hw : 0 < w) :
    ∃ q, residue (serials poly bits c) =
      X ^ w * messagePoly bits + X ^ bits.length * residue c + q * generator poly := by
  induction bits generalizing c with
  | nil => exact ⟨0, by simp [serials, messagePoly]⟩
  | cons b bits ih =>
    obtain ⟨q, hq⟩ := ih (serial poly c b)
    obtain ⟨e, he⟩ := residue_serial poly c b hw
    refine ⟨q + X ^ bits.length * e, ?_⟩
    change residue (serials poly bits (serial poly c b)) = _
    rw [hq, he, messagePoly, List.length_cons]
    ring

/-- The register after a message is the remainder. -/
theorem residue_serials (poly : BitVec w) (bits : List Bool) (c : BitVec w) (hw : 0 < w) :
    residue (serials poly bits c) =
      (X ^ w * messagePoly bits + X ^ bits.length * residue c) %ₘ generator poly := by
  obtain ⟨q, hq⟩ := residue_serials_add poly bits c hw
  refine ((div_modByMonic_unique (-q) (residue (serials poly bits c)) (monic_generator poly) ⟨?_, ?_⟩).2).symm
  · rw [hq]
    ring
  · rw [degree_generator]
    exact degree_residue_lt _

end RemoteBridge
