import RemoteBridge.Framework.Bytes

/-!
# The IMA decoders

The arithmetic of the codec document, section 7, and its three implementations: `ima_decoder.c`, the
`ImaDecoder` of `codecs.py` and the inner loop of `AudioDecoder.Feed`.  A state of the document carries
its ranges, so the step table is read in bounds; the implementations read their tables as their language
does, and an index that is out of bounds gives `none`.
-/

namespace RemoteBridge.Ima

/-! ## The document -/

/-- `step_table`. -/
def stepTable : List Int :=
  [7, 8, 9, 10, 11, 12, 13, 14, 16, 17, 19, 21, 23, 25, 28, 31, 34, 37, 41, 45, 50, 55, 60, 66, 73, 80,
    88, 97, 107, 118, 130, 143, 157, 173, 190, 209, 230, 253, 279, 307, 337, 371, 408, 449, 494, 544,
    598, 658, 724, 796, 876, 963, 1060, 1166, 1282, 1411, 1552, 1707, 1878, 2066, 2272, 2499, 2749,
    3024, 3327, 3660, 4026, 4428, 4871, 5358, 5894, 6484, 7132, 7845, 8630, 9493, 10442, 11487, 12635,
    13899, 15289, 16818, 18500, 20350, 22385, 24623, 27086, 29794, 32767]

/-- The index adjustments. -/
def indexTable : List Int := [-1, -1, -1, -1, 2, 4, 6, 8]

def clamp (x lo hi : Int) : Int := max lo (min hi x)

/-- The state before the next nibble. -/
structure State where
  predictor : Int
  index : Nat
  predictor_ge : -32768 ≤ predictor
  predictor_le : predictor ≤ 32767
  index_le : index ≤ 88

namespace State

variable (s : State)

/-- `step_table[index]`. -/
def step : Int := stepTable.get ⟨s.index, Nat.lt_succ_of_le s.index_le⟩

/-- `diff`. -/
def diff (n : Nat) : Int :=
  (s.step >>> (3 : Nat)) + (if n &&& 4 ≠ 0 then s.step else 0) +
    (if n &&& 2 ≠ 0 then s.step >>> (1 : Nat) else 0) + (if n &&& 1 ≠ 0 then s.step >>> (2 : Nat) else 0)

/-- One nibble. -/
def next (n : Nat) : State where
  predictor := clamp (s.predictor + (if n &&& 8 ≠ 0 then -s.diff n else s.diff n)) (-32768) 32767
  index := (clamp (s.index + indexTable.getD (n &&& 7) 0) 0 88).toNat
  predictor_ge := by unfold clamp; omega
  predictor_le := by unfold clamp; omega
  index_le := by unfold clamp; omega

/-- The samples of a string of bytes, the high nibble first, and the state behind them. -/
def decode : State → List UInt8 → List Int × State
  | s, [] => ([], s)
  | s, byte :: data =>
    let high := s.next (byte.toNat >>> 4)
    let low := high.next (byte.toNat &&& 15)
    let (out, s) := decode low data
    (high.predictor :: low.predictor :: out, s)

end State

/-! ## Machine integers -/

/-- A 32 bit result. -/
def int32 (x : Int) : Int := x.bmod (2 ^ 32)

/-- `WriteInt16LittleEndian` and `struct.pack('<h')`. -/
def le16 (x : Int) : List UInt8 := put16 (UInt16.ofNat (x % 65536).toNat)

/-! ## `ima_decoder.c` -/

/-- `k_step_table`. -/
def kStepTable : List Int :=
  [7, 8, 9, 10, 11, 12, 13, 14, 16, 17, 19, 21, 23, 25, 28, 31, 34, 37, 41, 45, 50, 55, 60, 66, 73, 80,
    88, 97, 107, 118, 130, 143, 157, 173, 190, 209, 230, 253, 279, 307, 337, 371, 408, 449, 494, 544,
    598, 658, 724, 796, 876, 963, 1060, 1166, 1282, 1411, 1552, 1707, 1878, 2066, 2272, 2499, 2749,
    3024, 3327, 3660, 4026, 4428, 4871, 5358, 5894, 6484, 7132, 7845, 8630, 9493, 10442, 11487, 12635,
    13899, 15289, 16818, 18500, 20350, 22385, 24623, 27086, 29794, 32767]

/-- `k_index_table`. -/
def kIndexTable : List Int := [-1, -1, -1, -1, 2, 4, 6, 8, -1, -1, -1, -1, 2, 4, 6, 8]

/-- `ima_state_t`. -/
structure ImaState where
  predictor : Int16
  stepIndex : UInt8
  deriving DecidableEq

/-- `ima_state_reset`. -/
def imaStateReset (predictor : Int16) (stepIndex : UInt8) : ImaState :=
  { predictor, stepIndex := if stepIndex > 88 then 88 else stepIndex }

/-- `diff` of `ima_decode_nibble`. -/
def imaDiff (step : Int) (nibble : UInt8) : Int :=
  let diff := step >>> (3 : Nat)
  let diff := if nibble &&& 4 != 0 then int32 (diff + step) else diff
  let diff := if nibble &&& 2 != 0 then int32 (diff + step >>> (1 : Nat)) else diff
  if nibble &&& 1 != 0 then int32 (diff + step >>> (2 : Nat)) else diff

/-- `ima_decode_nibble`. -/
def imaDecodeNibble (st : ImaState) (nibble : UInt8) : Option (Int16 × ImaState) :=
  match kStepTable[st.stepIndex.toNat]?, kIndexTable[(nibble &&& 7).toNat]? with
  | some step, some adjust =>
    let diff := imaDiff step nibble
    let pred := int32 (st.predictor.toInt + (if nibble &&& 8 != 0 then int32 (-diff) else diff))
    let pred := if pred > 32767 then 32767 else pred
    let pred := if pred < -32768 then -32768 else pred
    let idx := int32 (st.stepIndex.toNat + adjust)
    let idx := if idx < 0 then 0 else idx
    let idx := if idx > 88 then 88 else idx
    some (Int16.ofInt pred, { predictor := Int16.ofInt pred, stepIndex := UInt8.ofNat idx.toNat })
  | _, _ => none

/-- The loop of `ima_decode`, after `n` samples. -/
def imaDecodeLoop (outMax : Nat) : Nat → ImaState → List UInt8 → Option (List Int16 × ImaState)
  | _, st, [] => some ([], st)
  | n, st, byte :: data =>
    if n + 2 > outMax then some ([], st)
    else
      (imaDecodeNibble st (byte >>> 4)).bind fun (a, st) =>
        (imaDecodeNibble st (byte &&& 0x0f)).bind fun (b, st) =>
          (imaDecodeLoop outMax (n + 2) st data).map fun (out, st) => (a :: b :: out, st)

/-- `ima_decode`. -/
def imaDecode (stIn : Option ImaState) (data : List UInt8) (outMax : Nat) : Option (List Int16 × ImaState) :=
  imaDecodeLoop outMax 0 (stIn.getD (imaStateReset 0 0)) data

/-! ## `ImaDecoder` -/

/-- `STEPS`. -/
def pySteps : List Int :=
  [7, 8, 9, 10, 11, 12, 13, 14, 16, 17, 19, 21, 23, 25, 28, 31, 34, 37, 41, 45, 50, 55, 60, 66, 73, 80,
    88, 97, 107, 118, 130, 143, 157, 173, 190, 209, 230, 253, 279, 307, 337, 371, 408, 449, 494, 544,
    598, 658, 724, 796, 876, 963, 1060, 1166, 1282, 1411, 1552, 1707, 1878, 2066, 2272, 2499, 2749,
    3024, 3327, 3660, 4026, 4428, 4871, 5358, 5894, 6484, 7132, 7845, 8630, 9493, 10442, 11487, 12635,
    13899, 15289, 16818, 18500, 20350, 22385, 24623, 27086, 29794, 32767]

/-- `INDEX`. -/
def pyIndexes : List Int := [-1, -1, -1, -1, 2, 4, 6, 8]

/-- The numbers of an `ImaDecoder`. -/
structure ImaDecoder where
  predictor : Int
  index : Int
  deriving DecidableEq

/-- An index of a Python sequence, which may count from the end. -/
def pyIndex (l : List Int) (i : Int) : Option Int :=
  if 0 ≤ i then l[i.toNat]? else if -(l.length : Int) ≤ i then l[(l.length + i).toNat]? else none

/-- The body of the inner loop of `ImaDecoder.decode`; `pack_into` raises for a number out of range. -/
def ImaDecoder.nibble (d : ImaDecoder) (nibble : Nat) : Option (List UInt8 × ImaDecoder) :=
  match pyIndex pySteps d.index, pyIndex pyIndexes (nibble &&& 7 : Nat) with
  | some step, some adjust =>
    let delta := (step >>> (3 : Nat)) + (if nibble &&& 4 ≠ 0 then step else 0) +
      (if nibble &&& 2 ≠ 0 then step >>> (1 : Nat) else 0) +
      (if nibble &&& 1 ≠ 0 then step >>> (2 : Nat) else 0)
    let predictor := max (-32768) (min 32767 (d.predictor + (if nibble &&& 8 ≠ 0 then -delta else delta)))
    let index := max 0 (min 88 (d.index + adjust))
    if -32768 ≤ predictor ∧ predictor ≤ 32767 then some (le16 predictor, { predictor, index }) else none
  | _, _ => none

/-- `ImaDecoder.decode`. -/
def ImaDecoder.decode : ImaDecoder → List UInt8 → Option (List UInt8 × ImaDecoder)
  | d, [] => some ([], d)
  | d, byte :: data =>
    (d.nibble (byte.toNat >>> 4)).bind fun (a, d) =>
      (d.nibble (byte.toNat &&& 15)).bind fun (b, d) =>
        (d.decode data).map fun (out, d) => (a ++ b ++ out, d)

/-! ## `AudioDecoder` -/

/-- `Steps`. -/
def dotnetSteps : List Int :=
  [7, 8, 9, 10, 11, 12, 13, 14, 16, 17, 19, 21, 23, 25, 28, 31, 34, 37, 41, 45, 50, 55, 60, 66, 73, 80,
    88, 97, 107, 118, 130, 143, 157, 173, 190, 209, 230, 253, 279, 307, 337, 371, 408, 449, 494, 544,
    598, 658, 724, 796, 876, 963, 1060, 1166, 1282, 1411, 1552, 1707, 1878, 2066, 2272, 2499, 2749,
    3024, 3327, 3660, 4026, 4428, 4871, 5358, 5894, 6484, 7132, 7845, 8630, 9493, 10442, 11487, 12635,
    13899, 15289, 16818, 18500, 20350, 22385, 24623, 27086, 29794, 32767]

/-- `Index`. -/
def dotnetIndex : List Int := [-1, -1, -1, -1, 2, 4, 6, 8]

/-- `_predictor` and `_index`. -/
structure AudioDecoder where
  predictor : Int
  index : Int
  deriving DecidableEq

/-- An index of an array. -/
def arrayIndex (l : List Int) (i : Int) : Option Int := if 0 ≤ i then l[i.toNat]? else none

/-- `delta`, in unchecked arithmetic. -/
def dotnetDelta (step : Int) (nibble : Nat) : Int :=
  int32 (int32 (int32 ((step >>> (3 : Nat)) + (if nibble &&& 4 ≠ 0 then step else 0)) +
    (if nibble &&& 2 ≠ 0 then step >>> (1 : Nat) else 0)) + (if nibble &&& 1 ≠ 0 then step >>> (2 : Nat) else 0))

/-- The body of the loop over a coding unit. -/
def AudioDecoder.half (d : AudioDecoder) (nibble : Nat) : Option (List UInt8 × AudioDecoder) :=
  match arrayIndex dotnetSteps d.index, arrayIndex dotnetIndex (nibble &&& 7 : Nat) with
  | some step, some adjust =>
    let delta := dotnetDelta step nibble
    let predictor :=
      clamp (int32 (d.predictor + (if nibble &&& 8 ≠ 0 then int32 (-delta) else delta))) (-32768) 32767
    let index := clamp (int32 (d.index + adjust)) 0 88
    some (le16 predictor, { predictor, index })
  | _, _ => none

/-- The loop of `AudioDecoder.Feed` over the bytes of a coding unit. -/
def AudioDecoder.decode : AudioDecoder → List UInt8 → Option (List UInt8 × AudioDecoder)
  | d, [] => some ([], d)
  | d, byte :: data =>
    (d.half (byte.toNat >>> 4)).bind fun (a, d) =>
      (d.half (byte.toNat &&& 15)).bind fun (b, d) =>
        (d.decode data).map fun (out, d) => (a ++ b ++ out, d)

end RemoteBridge.Ima
