import RemoteBridge.Client.Ima

/-!
# The IMA decoders agree

Each implementation, started at a state of the document, takes the steps of the document: no table is read
out of bounds, no 32 bit sum wraps, and the clamps do the same in whichever order they come.

The document gives a step by a table of 89 step sizes, a table of index changes, and a difference that is
put together from the bits of a nibble.  Its states are those with an index of at most 88 and a predictor of
16 bits, and no step leaves them, so they are a type here and every decoder is compared on all of it
(`decoders_agree`).  What is compared is the whole of a call: the samples of the bytes, two for each, and the
state behind them.  As a consequence bytes may be decoded in one call or in two.

The tables of the sources are equal entry by entry.  That is checked by evaluation, and so is the range of a
table, which the bound on every sum rests on; the rest is arithmetic.
-/

namespace RemoteBridge.Ima

/-! ## Tables and ranges -/

lemma kStepTable_eq : kStepTable = stepTable := rfl

lemma pySteps_eq : pySteps = stepTable := rfl

lemma dotnetSteps_eq : dotnetSteps = stepTable := rfl

lemma stepTable_range : ∀ x ∈ stepTable, 0 ≤ x ∧ x ≤ 32767 := by decide

lemma indexTable_range : ∀ x ∈ indexTable, -1 ≤ x ∧ x ≤ 8 := by decide

section Ranges

variable (s : State) (n : Nat)

lemma stepTable_index : stepTable[s.index]? = some s.step :=
  List.getElem?_eq_getElem (Nat.lt_succ_of_le s.index_le)

lemma step_range : 0 ≤ s.step ∧ s.step ≤ 32767 := stepTable_range _ (List.get_mem _ _)

/-- The low three bits of a nibble. -/
lemma adjust_lt : n &&& 7 < 8 := Nat.lt_succ_of_le Nat.and_le_right

lemma indexTable_adjust : indexTable[n &&& 7]? = some (indexTable.getD (n &&& 7) 0) := by
  have hlt : n &&& 7 < indexTable.length := adjust_lt n
  rw [List.getD_eq_getElem?_getD, List.getElem?_eq_getElem hlt, Option.getD_some]

lemma adjust_range : -1 ≤ indexTable.getD (n &&& 7) 0 ∧ indexTable.getD (n &&& 7) 0 ≤ 8 :=
  indexTable_range _ (List.mem_of_getElem? (indexTable_adjust n))

/-- The shifted steps are small. -/
lemma shift_range (k : Nat) : 0 ≤ s.step >>> k ∧ s.step >>> k ≤ 32767 := by
  obtain ⟨hge, hle⟩ := step_range s
  rw [Int.shiftRight_eq_div_pow]
  exact ⟨Int.ediv_nonneg hge (by positivity), (Int.ediv_le_self _ hge).trans hle⟩

lemma diff_range : 0 ≤ s.diff n ∧ s.diff n ≤ 131068 := by
  have h0 := step_range s
  have h1 := shift_range s 1
  have h2 := shift_range s 2
  have h3 := shift_range s 3
  unfold State.diff
  split <;> split <;> split <;> omega

lemma int32_eq {x : Int} (hge : -2147483648 ≤ x) (hlt : x < 2147483648) : int32 x = x := by
  unfold int32
  exact Int.bmod_eq_of_le (by omega) (by omega)

end Ranges

/-! ## `ima_decoder.c` -/

/-- The state of the C decoder. -/
def ImaState.of (s : State) : ImaState :=
  { predictor := Int16.ofInt s.predictor, stepIndex := UInt8.ofNat s.index }

section Nibbles

variable (s : State)

lemma bit_ne_zero (nibble k : UInt8) : (nibble &&& k != 0) = decide (nibble.toNat &&& k.toNat ≠ 0) := by
  rw [← UInt8.toNat_and, Bool.eq_iff_iff, decide_eq_true_eq, bne_iff_ne, ne_eq, ne_eq, ← UInt8.toNat_inj]
  rfl

lemma int32_of_small {x : Int} (hge : 0 ≤ x) (hle : x ≤ 131068) : int32 x = x :=
  int32_eq (by omega) (by omega)

lemma imaDiff_eq (nibble : UInt8) : imaDiff s.step nibble = s.diff nibble.toNat := by
  have h0 := step_range s
  have h1 := shift_range s 1
  have h2 := shift_range s 2
  have h3 := shift_range s 3
  unfold imaDiff State.diff
  simp only [bit_ne_zero, decide_eq_true_eq]
  show _ = s.step >>> (3 : Nat) + (if nibble.toNat &&& (4 : UInt8).toNat ≠ 0 then s.step else 0) +
    (if nibble.toNat &&& (2 : UInt8).toNat ≠ 0 then s.step >>> (1 : Nat) else 0) +
    (if nibble.toNat &&& (1 : UInt8).toNat ≠ 0 then s.step >>> (2 : Nat) else 0)
  generalize s.step = a at *
  generalize a >>> (1 : Nat) = b at *
  generalize a >>> (2 : Nat) = c at *
  generalize a >>> (3 : Nat) = d at *
  split <;> split <;> split <;> (try simp (disch := omega) only [int32_of_small]) <;> omega

lemma kIndexTable_adjust (nibble : UInt8) :
    kIndexTable[(nibble &&& 7).toNat]? = some (indexTable.getD (nibble.toNat &&& 7) 0) := by
  have hlow : ∀ i < 8, kIndexTable[i]? = some (indexTable.getD i 0) := by decide
  rw [UInt8.toNat_and]
  exact hlow _ (adjust_lt nibble.toNat)

lemma toInt_ofInt16 {x : Int} (hge : -32768 ≤ x) (hle : x ≤ 32767) : (Int16.ofInt x).toInt = x := by
  have hsize : (Int16.size : Int) = 65536 := rfl
  rw [Int16.toInt_ofInt]
  exact Int.bmod_eq_of_le (by omega) (by omega)

lemma toNat_index : (UInt8.ofNat s.index).toNat = s.index :=
  UInt8.toNat_ofNat_of_lt' (Nat.lt_of_le_of_lt s.index_le (by decide))

/-- A nibble in C. -/
lemma imaDecodeNibble_eq (nibble : UInt8) :
    imaDecodeNibble (ImaState.of s) nibble =
      some (Int16.ofInt (s.next nibble.toNat).predictor, ImaState.of (s.next nibble.toNat)) := by
  obtain ⟨hdiff, hdiff'⟩ := diff_range s nibble.toNat
  obtain ⟨hadj, hadj'⟩ := adjust_range nibble.toNat
  have hge := s.predictor_ge
  have hle := s.predictor_le
  have hindex := s.index_le
  have hsum : int32 (s.predictor + (if nibble &&& 8 != 0 then int32 (-s.diff nibble.toNat) else
      s.diff nibble.toNat)) =
      s.predictor + (if nibble.toNat &&& 8 ≠ 0 then -s.diff nibble.toNat else s.diff nibble.toNat) := by
    rw [bit_ne_zero, int32_eq (x := -s.diff nibble.toNat) (by omega) (by omega)]
    simp only [decide_eq_true_eq]
    exact int32_eq (by split <;> omega) (by split <;> omega)
  have hidx : int32 (s.index + indexTable.getD (nibble.toNat &&& 7) 0) =
      s.index + indexTable.getD (nibble.toNat &&& 7) 0 := int32_eq (by omega) (by omega)
  unfold imaDecodeNibble ImaState.of State.next
  simp only [toNat_index, kStepTable_eq, stepTable_index, kIndexTable_adjust, imaDiff_eq,
    toInt_ofInt16 hge hle, hsum, hidx]
  generalize s.predictor + (if nibble.toNat &&& 8 ≠ 0 then -s.diff nibble.toNat else
    s.diff nibble.toNat) = x
  generalize (s.index : Int) + indexTable.getD (nibble.toNat &&& 7) 0 = i
  have hclamp : (if (if x > 32767 then 32767 else x) < -32768 then -32768 else
      if x > 32767 then 32767 else x) = clamp x (-32768) 32767 := by
    unfold clamp
    split <;> split <;> omega
  have hclamp' : (if (if i < 0 then 0 else i) > 88 then 88 else if i < 0 then 0 else i) = clamp i 0 88 := by
    unfold clamp
    split <;> split <;> omega
  rw [hclamp, hclamp']

end Nibbles

section Decoders

variable (s : State)

lemma decode_cons (byte : UInt8) (data : List UInt8) :
    s.decode (byte :: data) =
      ((s.next (byte.toNat >>> 4)).predictor ::
        ((s.next (byte.toNat >>> 4)).next (byte.toNat &&& 15)).predictor ::
        (((s.next (byte.toNat >>> 4)).next (byte.toNat &&& 15)).decode data).1,
        (((s.next (byte.toNat >>> 4)).next (byte.toNat &&& 15)).decode data).2) := rfl

lemma imaDecodeLoop_eq (outMax n : Nat) (data : List UInt8) (hroom : n + 2 * data.length ≤ outMax) :
    imaDecodeLoop outMax n (ImaState.of s) data =
      some ((s.decode data).1.map Int16.ofInt, ImaState.of (s.decode data).2) := by
  induction data generalizing s n with
  | nil => rfl
  | cons byte data ih =>
    have hfits : ¬ n + 2 > outMax := by
      rw [List.length_cons] at hroom
      omega
    have hhigh : (byte >>> 4).toNat = byte.toNat >>> 4 := by
      rw [UInt8.toNat_shiftRight]
      rfl
    have hlow : (byte &&& 0x0f).toNat = byte.toNat &&& 15 := UInt8.toNat_and ..
    unfold imaDecodeLoop
    rw [if_neg hfits, imaDecodeNibble_eq, Option.bind_some]
    dsimp only
    rw [imaDecodeNibble_eq, Option.bind_some, hhigh, hlow, decode_cons]
    dsimp only
    rw [ih _ (n + 2) (by rw [List.length_cons] at hroom; omega)]
    rfl

/-! ## `ImaDecoder` and `AudioDecoder` -/

lemma pyIndex_nat (l : List Int) (i : Nat) : pyIndex l i = l[i]? := by
  unfold pyIndex
  rw [if_pos (Int.natCast_nonneg i), Int.toNat_natCast]

lemma arrayIndex_nat (l : List Int) (i : Nat) : arrayIndex l i = l[i]? := by
  unfold arrayIndex
  rw [if_pos (Int.natCast_nonneg i), Int.toNat_natCast]

/-- The state of the Python decoder. -/
def ImaDecoder.of : ImaDecoder := { predictor := s.predictor, index := s.index }

/-- The state of the .NET decoder. -/
def AudioDecoder.of : AudioDecoder := { predictor := s.predictor, index := s.index }

lemma index_next (n : Nat) :
    ((s.next n).index : Int) = clamp (s.index + indexTable.getD (n &&& 7) 0) 0 88 := by
  unfold State.next clamp
  dsimp only
  omega

/-- A nibble in Python; the clamped predictor fits its 16 bits. -/
lemma imaDecoder_nibble (n : Nat) :
    (ImaDecoder.of s).nibble n = some (le16 (s.next n).predictor, ImaDecoder.of (s.next n)) := by
  have hindexes : pyIndexes[n &&& 7]? = some (indexTable.getD (n &&& 7) 0) := indexTable_adjust n
  unfold ImaDecoder.nibble
  simp only [ImaDecoder.of, pyIndex_nat, pySteps_eq, stepTable_index, hindexes]
  show (if -32768 ≤ (s.next n).predictor ∧ (s.next n).predictor ≤ 32767 then
      some (le16 (s.next n).predictor,
        ImaDecoder.mk (s.next n).predictor (clamp (s.index + indexTable.getD (n &&& 7) 0) 0 88))
    else none) = _
  rw [if_pos ⟨(s.next n).predictor_ge, (s.next n).predictor_le⟩, index_next]

lemma dotnetDelta_eq (n : Nat) : dotnetDelta s.step n = s.diff n := by
  have h0 := step_range s
  have h1 := shift_range s 1
  have h2 := shift_range s 2
  have h3 := shift_range s 3
  unfold dotnetDelta State.diff
  generalize s.step = a at *
  generalize a >>> (1 : Nat) = b at *
  generalize a >>> (2 : Nat) = c at *
  generalize a >>> (3 : Nat) = d at *
  split <;> split <;> split <;> simp (disch := omega) only [int32_of_small]

/-- A nibble in .NET. -/
lemma audioDecoder_half (n : Nat) :
    (AudioDecoder.of s).half n = some (le16 (s.next n).predictor, AudioDecoder.of (s.next n)) := by
  obtain ⟨hdiff, hdiff'⟩ := diff_range s n
  obtain ⟨hadj, hadj'⟩ := adjust_range n
  have hge := s.predictor_ge
  have hle := s.predictor_le
  have hindex := s.index_le
  have hindexes : dotnetIndex[n &&& 7]? = some (indexTable.getD (n &&& 7) 0) := indexTable_adjust n
  have hneg : int32 (-s.diff n) = -s.diff n := int32_eq (by omega) (by omega)
  have hsum : int32 (s.predictor + (if n &&& 8 ≠ 0 then -s.diff n else s.diff n)) =
      s.predictor + (if n &&& 8 ≠ 0 then -s.diff n else s.diff n) :=
    int32_eq (by split <;> omega) (by split <;> omega)
  have hidx : int32 (s.index + indexTable.getD (n &&& 7) 0) = s.index + indexTable.getD (n &&& 7) 0 :=
    int32_eq (by omega) (by omega)
  unfold AudioDecoder.half
  simp only [AudioDecoder.of, arrayIndex_nat, dotnetSteps_eq, stepTable_index, hindexes, dotnetDelta_eq, hneg,
    hsum, hidx, index_next]
  rfl

lemma imaDecoder_decode (data : List UInt8) :
    (ImaDecoder.of s).decode data =
      some ((s.decode data).1.flatMap le16, ImaDecoder.of (s.decode data).2) := by
  induction data generalizing s with
  | nil => rfl
  | cons byte data ih =>
    unfold ImaDecoder.decode
    rw [imaDecoder_nibble, Option.bind_some]
    dsimp only
    rw [imaDecoder_nibble, Option.bind_some]
    dsimp only
    rw [ih, decode_cons, Option.map_some, List.flatMap_cons, List.flatMap_cons, List.append_assoc]

lemma audioDecoder_decode (data : List UInt8) :
    (AudioDecoder.of s).decode data =
      some ((s.decode data).1.flatMap le16, AudioDecoder.of (s.decode data).2) := by
  induction data generalizing s with
  | nil => rfl
  | cons byte data ih =>
    unfold AudioDecoder.decode
    rw [audioDecoder_half, Option.bind_some]
    dsimp only
    rw [audioDecoder_half, Option.bind_some]
    dsimp only
    rw [ih, decode_cons, Option.map_some, List.flatMap_cons, List.flatMap_cons, List.append_assoc]

/-! ## Samples -/

lemma decode_append (data data' : List UInt8) :
    s.decode (data ++ data') =
      ((s.decode data).1 ++ ((s.decode data).2.decode data').1, ((s.decode data).2.decode data').2) := by
  induction data generalizing s with
  | nil => rfl
  | cons byte data ih =>
    rw [List.cons_append, decode_cons, decode_cons, ih]
    rfl

lemma sample_range (data : List UInt8) : ∀ x ∈ (s.decode data).1, -32768 ≤ x ∧ x ≤ 32767 := by
  induction data generalizing s with
  | nil => simp [State.decode]
  | cons byte data ih =>
    rw [decode_cons]
    intro x hx
    rcases List.mem_cons.mp hx with rfl | hx
    · exact ⟨State.predictor_ge _, State.predictor_le _⟩
    rcases List.mem_cons.mp hx with rfl | hx
    · exact ⟨State.predictor_ge _, State.predictor_le _⟩
    · exact ih _ x hx

end Decoders

/-- The three decoders produce the samples and the final state of the document; the samples are in range,
and a string of bytes can be decoded in parts. -/
theorem decoders_agree (s : State) (data : List UInt8) :
    (∀ outMax, 2 * data.length ≤ outMax →
      imaDecode (some (ImaState.of s)) data outMax =
        some ((s.decode data).1.map Int16.ofInt, ImaState.of (s.decode data).2)) ∧
      (ImaDecoder.of s).decode data =
        some ((s.decode data).1.flatMap le16, ImaDecoder.of (s.decode data).2) ∧
      (AudioDecoder.of s).decode data =
        some ((s.decode data).1.flatMap le16, AudioDecoder.of (s.decode data).2) ∧
      (∀ x ∈ (s.decode data).1, -32768 ≤ x ∧ x ≤ 32767) ∧
      ∀ data', s.decode (data ++ data') =
        ((s.decode data).1 ++ ((s.decode data).2.decode data').1, ((s.decode data).2.decode data').2) := by
  refine ⟨fun outMax hroom => ?_, imaDecoder_decode s data, audioDecoder_decode s data, sample_range s data,
    decode_append s data⟩
  exact imaDecodeLoop_eq s outMax 0 data (by omega)

/-- The second vector of the document. -/
def seededState : State :=
  { predictor := -1234, index := 42, predictor_ge := by decide, predictor_le := by decide
    index_le := by decide }

theorem decoders_agree_vector :
    (seededState.decode [0x17]).1 = [-1081, -387] ∧
      imaDecode (some (ImaState.of seededState)) [0x17] 2 =
        some ([-1081, -387].map Int16.ofInt, ImaState.of (seededState.decode [0x17]).2) :=
  ⟨by decide, (decoders_agree seededState [0x17]).1 2 (by decide)⟩

end RemoteBridge.Ima
