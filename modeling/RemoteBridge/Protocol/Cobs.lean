import Mathlib

/-!
# COBS

`rbp_cobs_encode` writes a code byte for every block of up to 254 non-zero bytes; a block that is
shorter than 254 bytes and not the last one stands for its bytes and a zero.  The encoder of the
source keeps a pointer to the code byte of the open block and patches it when the block closes; here
the open block is kept apart (`CobsState.block`) and put behind its code byte when it closes.
`encode_payload` streams header, payload and CRC through one such state.

The encoding holds no zero byte (`zero_not_mem_cobsEncode`) and decodes to its source
(`cobsDecode_cobsEncode`).
-/

namespace RemoteBridge

/-- The closed blocks written so far, and the bytes of the open block. -/
structure CobsState where
  done : List UInt8
  block : List UInt8

/-- A block behind its code byte. -/
def codedBlock (block : List UInt8) : List UInt8 := UInt8.ofNat (block.length + 1) :: block

/-- One byte through the encoder. -/
def cobsByte (s : CobsState) (byte : UInt8) : CobsState :=
  if byte == 0 then { done := s.done ++ codedBlock s.block, block := [] }
  else if s.block.length + 2 == 0xff then
    { done := s.done ++ codedBlock (s.block ++ [byte]), block := [] }
  else { done := s.done, block := s.block ++ [byte] }

/-- The output once the last code byte is patched. -/
def CobsState.close (s : CobsState) : List UInt8 := s.done ++ codedBlock s.block

/-- `rbp_cobs_encode`. -/
def cobsEncode (src : List UInt8) : List UInt8 :=
  (src.foldl cobsByte { done := [], block := [] }).close

/-- The loop of `rbp_cobs_decode`; each turn consumes at least the code byte, so `fuel` is the number
of bytes. -/
def cobsDecodeLoop : Nat → List UInt8 → Option (List UInt8)
  | _, [] => some []
  | 0, _ :: _ => none
  | fuel + 1, code :: src =>
    if code == 0 then none
    else if src.length < code.toNat - 1 then none
    else
      let rest := src.drop (code.toNat - 1)
      (cobsDecodeLoop fuel rest).map fun out =>
        src.take (code.toNat - 1) ++ (if code < 0xff && !rest.isEmpty then [0] else []) ++ out

/-- `rbp_cobs_decode`; the source answers an error with length 0. -/
def cobsDecode (src : List UInt8) : Option (List UInt8) := cobsDecodeLoop src.length src

/-! ## The encoder as a recursion over the source -/

/-- The encoding of `xs` behind the open block `block`. -/
def cobsFrom (block : List UInt8) : List UInt8 → List UInt8
  | [] => codedBlock block
  | byte :: xs =>
    if byte == 0 then codedBlock block ++ cobsFrom [] xs
    else if block.length + 2 == 0xff then codedBlock (block ++ [byte]) ++ cobsFrom [] xs
    else cobsFrom (block ++ [byte]) xs

lemma close_foldl_cobsByte (s : CobsState) (xs : List UInt8) :
    (xs.foldl cobsByte s).close = s.done ++ cobsFrom s.block xs := by
  induction xs generalizing s with
  | nil => rfl
  | cons byte xs ih =>
    rw [List.foldl_cons, ih, cobsByte, cobsFrom]
    split
    · rw [List.append_assoc]
    · split
      · rw [List.append_assoc]
      · rfl

lemma cobsEncode_eq (src : List UInt8) : cobsEncode src = cobsFrom [] src :=
  close_foldl_cobsByte _ src

/-- What is known of the open block: it can still grow and holds no zero. -/
structure OpenBlock (block : List UInt8) : Prop where
  length_lt : block.length < 254
  nonzero : 0 ∉ block

lemma OpenBlock.nil : OpenBlock [] := ⟨by decide, by simp⟩

lemma OpenBlock.snoc {block : List UInt8} (h : OpenBlock block) {byte : UInt8} (hb : byte ≠ 0)
    (hlen : block.length + 2 ≠ 0xff) : OpenBlock (block ++ [byte]) := by
  have hlt := h.length_lt
  refine ⟨by rw [List.length_append, List.length_singleton]; omega, ?_⟩
  rw [List.mem_append, List.mem_singleton, not_or]
  exact ⟨h.nonzero, hb.symm⟩

lemma toNat_code {n : Nat} (h : n < 255) : (UInt8.ofNat (n + 1)).toNat = n + 1 := by
  rw [UInt8.toNat_ofNat', Nat.mod_eq_of_lt (by omega)]

lemma code_ne_zero {n : Nat} (h : n < 255) : UInt8.ofNat (n + 1) ≠ 0 := by
  intro h0
  have hnat := congrArg UInt8.toNat h0
  rw [toNat_code h] at hnat
  exact absurd hnat (Nat.succ_ne_zero n)

lemma zero_not_mem_codedBlock {block : List UInt8} (hlen : block.length < 255) (h : 0 ∉ block) :
    0 ∉ codedBlock block := by
  rw [codedBlock, List.mem_cons, not_or]
  exact ⟨(code_ne_zero hlen).symm, h⟩

lemma zero_not_mem_cobsFrom {block : List UInt8} (h : OpenBlock block) (xs : List UInt8) :
    0 ∉ cobsFrom block xs := by
  induction xs generalizing block with
  | nil => exact zero_not_mem_codedBlock (by have := h.length_lt; omega) h.nonzero
  | cons byte xs ih =>
    have hlt := h.length_lt
    rw [cobsFrom]
    split
    · rw [List.mem_append, not_or]
      exact ⟨zero_not_mem_codedBlock (by omega) h.nonzero, ih OpenBlock.nil⟩
    next hbyte =>
      have hb : byte ≠ 0 := by simpa using hbyte
      split
      · rw [List.mem_append, not_or]
        refine ⟨zero_not_mem_codedBlock ?_ ?_, ih OpenBlock.nil⟩
        · rw [List.length_append, List.length_singleton]
          omega
        · rw [List.mem_append, List.mem_singleton, not_or]
          exact ⟨h.nonzero, hb.symm⟩
      next hfull => exact ih (h.snoc hb (by simpa using hfull))

/-- The encoding is free of the delimiter. -/
lemma zero_not_mem_cobsEncode (src : List UInt8) : 0 ∉ cobsEncode src := by
  rw [cobsEncode_eq]
  exact zero_not_mem_cobsFrom OpenBlock.nil src

lemma cobsFrom_ne_nil (block xs : List UInt8) : cobsFrom block xs ≠ [] := by
  induction xs generalizing block with
  | nil => exact List.cons_ne_nil _ _
  | cons byte xs ih =>
    rw [cobsFrom]
    split
    · exact List.append_ne_nil_of_right_ne_nil _ (ih _)
    · split
      · exact List.append_ne_nil_of_right_ne_nil _ (ih _)
      · exact ih _

/-- The cost of the encoding: one byte, and one more for every 254 source bytes. -/
lemma length_cobsFrom_le {block : List UInt8} (xs : List UInt8) (h : block.length < 254) :
    (cobsFrom block xs).length ≤ block.length + xs.length + 1 + (block.length + xs.length) / 254 := by
  induction xs generalizing block with
  | nil =>
    rw [cobsFrom, codedBlock, List.length_cons, List.length_nil]
    omega
  | cons byte xs ih =>
    have hclosed := ih (by decide : ([] : List UInt8).length < 254)
    rw [List.length_nil] at hclosed
    rw [cobsFrom, List.length_cons]
    split
    · rw [List.length_append, codedBlock, List.length_cons]
      omega
    · split
      next hfull =>
        have hlen : block.length + 2 = 0xff := by simpa using hfull
        rw [List.length_append, codedBlock, List.length_cons, List.length_append,
          List.length_singleton]
        omega
      next hfull =>
        have hlen : block.length + 2 ≠ 0xff := by simpa using hfull
        have hopen := ih (by rw [List.length_append, List.length_singleton]; omega :
          (block ++ [byte]).length < 254)
        rw [List.length_append, List.length_singleton] at hopen
        omega

lemma length_cobsEncode_le (src : List UInt8) :
    (cobsEncode src).length ≤ src.length + 1 + src.length / 254 := by
  have h := length_cobsFrom_le src (by decide : ([] : List UInt8).length < 254)
  rw [List.length_nil] at h
  rw [cobsEncode_eq]
  omega

/-! ## Decoding -/

/-- One turn of the decoder on a coded block. -/
lemma cobsDecodeLoop_codedBlock {block : List UInt8} (hlen : block.length < 255) (rest : List UInt8)
    (fuel : Nat) :
    cobsDecodeLoop (fuel + 1) (codedBlock block ++ rest) =
      (cobsDecodeLoop fuel rest).map fun out =>
        block ++ (if block.length < 254 && !rest.isEmpty then [0] else []) ++ out := by
  have hcode := toNat_code hlen
  have hne : (UInt8.ofNat (block.length + 1) == 0) = false := by
    simpa using code_ne_zero hlen
  have hlt : decide (UInt8.ofNat (block.length + 1) < 0xff) = decide (block.length < 254) := by
    rw [decide_eq_decide, UInt8.lt_iff_toNat_lt, hcode]
    have h255 : (0xff : UInt8).toNat = 255 := rfl
    omega
  rw [codedBlock, List.cons_append, cobsDecodeLoop, hne, hcode, Nat.add_sub_cancel,
    List.length_append, List.drop_left, List.take_left, hlt]
  rw [if_neg (by decide), if_neg (by omega)]

lemma length_codedBlock (block : List UInt8) : (codedBlock block).length = block.length + 1 := rfl

/-- Decoding undoes the encoder from any open block. -/
lemma cobsDecodeLoop_cobsFrom {block : List UInt8} (h : OpenBlock block) (xs : List UInt8)
    {fuel : Nat} (hfuel : (cobsFrom block xs).length ≤ fuel) :
    cobsDecodeLoop fuel (cobsFrom block xs) = some (block ++ xs) := by
  induction xs generalizing block fuel with
  | nil =>
    rw [cobsFrom, length_codedBlock] at hfuel
    obtain ⟨fuel, rfl⟩ : ∃ n, fuel = n + 1 := ⟨fuel - 1, by omega⟩
    have hturn := cobsDecodeLoop_codedBlock (by have := h.length_lt; omega : block.length < 255) [] fuel
    rw [List.append_nil] at hturn
    rw [cobsFrom, hturn]
    simp [cobsDecodeLoop]
  | cons byte xs ih =>
    have hlt := h.length_lt
    rw [cobsFrom] at hfuel ⊢
    split
    next hzero =>
      -- The block closes with a zero: fewer than 254 bytes, and the rest is not empty.
      rw [if_pos hzero, List.length_append, length_codedBlock] at hfuel
      obtain ⟨fuel, rfl⟩ : ∃ n, fuel = n + 1 := ⟨fuel - 1, by omega⟩
      have hrest : (cobsFrom [] xs).isEmpty = false := by
        rw [List.isEmpty_eq_false_iff]
        exact cobsFrom_ne_nil [] xs
      have hb : byte = 0 := by simpa using hzero
      rw [cobsDecodeLoop_codedBlock (by omega), ih OpenBlock.nil (by omega), hrest]
      simp [hlt, hb]
    next hbyte =>
      rw [if_neg hbyte] at hfuel
      have hb : byte ≠ 0 := by simpa using hbyte
      split
      next hfull =>
        -- The block is full: no zero is implied.
        have hlen : (block ++ [byte]).length = 254 := by
          have : block.length + 2 = 0xff := by simpa using hfull
          rw [List.length_append, List.length_singleton]
          omega
        rw [if_pos hfull, List.length_append, length_codedBlock] at hfuel
        obtain ⟨fuel, rfl⟩ : ∃ n, fuel = n + 1 := ⟨fuel - 1, by omega⟩
        rw [cobsDecodeLoop_codedBlock (by omega), ih OpenBlock.nil (by omega), hlen]
        simp
      next hfull =>
        rw [if_neg hfull] at hfuel
        rw [ih (h.snoc hb (by simpa using hfull)) hfuel, List.append_assoc]
        rfl

/-- The decoder returns the source of an encoding. -/
lemma cobsDecode_cobsEncode (src : List UInt8) : cobsDecode (cobsEncode src) = some src := by
  rw [cobsDecode, cobsEncode_eq, cobsDecodeLoop_cobsFrom OpenBlock.nil src (Nat.le_refl _)]
  rfl

end RemoteBridge
