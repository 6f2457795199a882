import RemoteBridge.Framework.ShiftRegister
import RemoteBridge.Protocol.Tlv

/-!
# The wire format of the two clients

The Python client (`wire.py`) and the .NET client (`Wire.cs`) write the frame format down again, each in
its own way: Python builds its CRC table when it is imported and packs headers with `struct`, .NET shifts
the CRC bit by bit and writes fields at offsets; both patch the code bytes of COBS into a growing buffer.

Every piece is proved equal to the one of `rbp_frame.c`, so a frame of either client is the frame that
the C encoder writes for the same fields.
-/

namespace RemoteBridge

/-! ## CRC-32C -/

namespace Python

/-- One turn of the inner loop of `_crc_init`. -/
def crcShift (c : UInt32) : UInt32 := if c &&& 1 != 0 then (0x82F63B78 : UInt32) ^^^ (c >>> 1) else c >>> 1

/-- `_CRC_TABLE`, as `_crc_init` builds it. -/
def crcTable : List UInt32 := (List.range 256).map fun i => crcShift^[8] (UInt32.ofNat i)

/-- `crc32c`. -/
def crc32c (data : List UInt8) : UInt32 :=
  let update (c : UInt32) (b : UInt8) : UInt32 :=
    crcTable.getD ((c ^^^ b.toUInt32) &&& 0xff).toNat 0 ^^^ (c >>> 8)
  data.foldl update 0xffffffff ^^^ 0xffffffff

lemma crcTable_eq : crcTable = crc32cTable.toList := by decide +kernel

lemma crc32c_eq (data : List UInt8) : crc32c data = RemoteBridge.crc32c data := by
  have hget : ∀ i, crcTable.getD i 0 = crc32cTable.getD i 0 := by
    intro i
    rw [crcTable_eq, List.getD_eq_getElem?_getD, Array.getElem?_toList, Array.getD_eq_getD_getElem?]
  unfold crc32c RemoteBridge.crc32c crc32cUpdate
  simp only [hget]

end Python

namespace Dotnet

/-- One turn of the bit loop of `Wire.Crc`. -/
def crcShift (c : UInt32) : UInt32 := (c >>> 1) ^^^ (if c &&& 1 != 0 then 0x82F63B78 else 0)

/-- `Wire.Crc`. -/
def crc (bytes : List UInt8) : UInt32 :=
  ~~~ bytes.foldl (fun c b => crcShift^[8] (c ^^^ b.toUInt32)) 0xffffffff

/-- The polynomial. -/
def crcPoly : BitVec 32 := 0x82F63B78#32

lemma crcShift_eq (c : UInt32) : (crcShift c).toBitVec = feedback crcPoly c.toBitVec := by
  have hbit : (c &&& 1 != 0) = c.toBitVec.getLsbD 0 := by
    rw [Bool.eq_iff_iff, bne_iff_ne, Ne, ← UInt32.toBitVec_inj, UInt32.toBitVec_and]
    have hone := BitVec.and_one_eq_setWidth_ofBool_getLsbD (x := c.toBitVec)
    change ¬ (c.toBitVec &&& 1#32 = 0#32) ↔ _
    rw [hone]
    cases c.toBitVec.getLsbD 0 <;> decide
  unfold crcShift feedback
  rw [hbit, UInt32.toBitVec_xor, UInt32.toBitVec_shiftRight]
  cases c.toBitVec.getLsbD 0 <;> rfl

lemma crcShifts_eq (n : Nat) (c : UInt32) :
    (crcShift^[n] c).toBitVec = feedbacks crcPoly n c.toBitVec := by
  induction n generalizing c with
  | zero => rfl
  | succ n ih => rw [Function.iterate_succ_apply, ih, crcShift_eq, feedbacks]

/-- The table holds eight steps of each byte. -/
lemma crc32cTable_eq : ∀ i < 256, crc32cTable.getD i 0 = crcShift^[8] (UInt32.ofNat i) := by
  decide +kernel

/-- Eight steps: the low byte feeds back, the others move down. -/
lemma crcShifts_split (x : UInt32) : crcShift^[8] x = crcShift^[8] (x &&& 0xff) ^^^ (x >>> 8) := by
  have hmask : ∀ i, (0xff#32).getLsbD i = (decide (i < 8) && decide (i < 32)) := by
    intro i
    by_cases hi : i < 32
    · have hall : ∀ i : Fin 32, (0xff#32).getLsbD i = (decide (i.val < 8) && decide (i.val < 32)) := by
        decide
      exact hall ⟨i, hi⟩
    · rw [BitVec.getLsbD_of_ge _ _ (by omega)]
      simp [hi]
  apply UInt32.toBitVec_inj.mp
  rw [crcShifts_eq, UInt32.toBitVec_xor, crcShifts_eq, feedbacks_eq crcPoly 8 hmask]
  rfl

/-- A byte does not reach the upper bits. -/
lemma shiftRight_xor_byte (c : UInt32) (b : UInt8) : (c ^^^ b.toUInt32) >>> 8 = c >>> 8 := by
  apply UInt32.toBitVec_inj.mp
  rw [UInt32.toBitVec_shiftRight, UInt32.toBitVec_shiftRight, UInt32.toBitVec_xor]
  refine BitVec.eq_of_getLsbD_eq fun i _ => ?_
  change ((c.toBitVec ^^^ b.toUInt32.toBitVec) >>> 8).getLsbD i = (c.toBitVec >>> 8).getLsbD i
  have hbyte : b.toUInt32.toBitVec.getLsbD (8 + i) = false := by
    rw [UInt8.toBitVec_toUInt32, BitVec.getLsbD_setWidth, BitVec.getLsbD_of_ge _ _ (by omega)]
    simp
  rw [BitVec.getLsbD_ushiftRight, BitVec.getLsbD_ushiftRight, BitVec.getLsbD_xor, hbyte,
    Bool.xor_false]

/-- Eight steps are one look into the table. -/
lemma crcByte_eq (c : UInt32) (b : UInt8) :
    crcShift^[8] (c ^^^ b.toUInt32) = crc32cUpdate c b := by
  have hlow : ((c ^^^ b.toUInt32) &&& 0xff).toNat < 256 := by
    have hle : (c ^^^ b.toUInt32).toNat &&& 255 ≤ 255 := Nat.and_le_right
    rw [UInt32.toNat_and]
    exact Nat.lt_succ_of_le hle
  rw [crcShifts_split, shiftRight_xor_byte, crc32cUpdate, crc32cTable_eq _ hlow, UInt32.ofNat_toNat]

lemma crc_eq (bytes : List UInt8) : crc bytes = crc32c bytes := by
  have hnot : ∀ x : UInt32, ~~~ x = x ^^^ 0xffffffff := by
    intro x
    apply UInt32.toBitVec_inj.mp
    rw [UInt32.toBitVec_not, UInt32.toBitVec_xor]
    exact (BitVec.xor_allOnes (x := x.toBitVec)).symm
  unfold crc crc32c
  rw [hnot]
  simp only [crcByte_eq]

end Dotnet

/-! ## COBS -/

/-- The buffer of both clients, the place of the open code byte, and the code so far. -/
structure PatchState where
  out : List UInt8
  codePos : Nat
  code : UInt8

/-- One byte of `cobs_encode`, and of the loop in `Wire.Encode`. -/
def PatchState.byte (s : PatchState) (b : UInt8) : PatchState :=
  let open' (out : List UInt8) (code : UInt8) : PatchState :=
    { out := out.set s.codePos code ++ [0], codePos := out.length, code := 1 }
  if b == 0 then open' s.out s.code
  else if s.code + 1 == 0xff then open' (s.out ++ [b]) (s.code + 1)
  else { s with out := s.out ++ [b], code := s.code + 1 }

/-- The last code byte is patched. -/
def PatchState.close (s : PatchState) : List UInt8 := s.out.set s.codePos s.code

/-- `cobs_encode`, and what `Wire.Encode` does before it appends the delimiter. -/
def patchCobs (src : List UInt8) : List UInt8 :=
  (src.foldl PatchState.byte { out := [0], codePos := 0, code := 1 }).close

/-- The buffer holds the closed blocks, a place for a code byte, and the open block. -/
structure Patches (s : CobsState) (p : PatchState) : Prop where
  room : s.block.length < 254
  out : p.out = s.done ++ 0 :: s.block
  codePos : p.codePos = s.done.length
  code : p.code = UInt8.ofNat (s.block.length + 1)

lemma Patches.set {s : CobsState} {p : PatchState} (h : Patches s p) (code : UInt8)
    (more : List UInt8) : (p.out ++ more).set p.codePos code = s.done ++ code :: (s.block ++ more) := by
  rw [h.out, h.codePos, List.append_assoc, List.set_append_right _ _ (Nat.le_refl _), Nat.sub_self]
  rfl

lemma Patches.byte {s : CobsState} {p : PatchState} (h : Patches s p) (b : UInt8) :
    Patches (cobsByte s b) (p.byte b) := by
  have hroom := h.room
  have hnext : p.code + 1 = UInt8.ofNat (s.block.length + 2) := by
    rw [h.code, ← UInt8.ofNat_one, ← UInt8.ofNat_add]
  have hfull : (p.code + 1 == 0xff) = (s.block.length + 2 == 0xff) := by
    rw [hnext, Bool.eq_iff_iff, beq_iff_eq, beq_iff_eq, ← UInt8.toNat_inj, UInt8.toNat_ofNat',
      Nat.mod_eq_of_lt (by omega)]
    rfl
  unfold cobsByte PatchState.byte
  dsimp only
  rw [hfull]
  split
  · have hset := h.set p.code []
    rw [List.append_nil, List.append_nil] at hset
    refine ⟨by simp, ?_, ?_, rfl⟩
    · rw [hset, codedBlock, h.code]
    · rw [h.out, List.length_append, List.length_append]
      rfl
  · split
    · have hlen : (s.block ++ [b]).length + 1 = s.block.length + 2 := by simp
      refine ⟨by simp, ?_, ?_, rfl⟩
      · rw [h.set (p.code + 1) [b], codedBlock, hnext, hlen]
      · rw [h.out, codedBlock]
        simp only [List.length_append, List.length_cons, List.length_nil]
        omega
    next hlen =>
      have hne : s.block.length + 2 ≠ 0xff := by simpa using hlen
      refine ⟨?_, ?_, h.codePos, ?_⟩
      · rw [List.length_append, List.length_singleton]
        omega
      · rw [h.out, List.append_assoc]
        rfl
      · rw [hnext, List.length_append, List.length_singleton]

/-- Patching code bytes in place writes the same bytes. -/
lemma patchCobs_eq (src : List UInt8) : patchCobs src = cobsEncode src := by
  have hrun : ∀ (xs : List UInt8) {s : CobsState} {p : PatchState}, Patches s p →
      Patches (xs.foldl cobsByte s) (xs.foldl PatchState.byte p) := by
    intro xs
    induction xs with
    | nil => exact id
    | cons b xs ih => exact fun h => ih (h.byte b)
  have hend := hrun src (s := { done := [], block := [] })
    (p := { out := [0], codePos := 0, code := 1 }) ⟨by decide, rfl, rfl, rfl⟩
  have hset := hend.set (List.foldl PatchState.byte { out := [0], codePos := 0, code := 1 } src).code []
  rw [List.append_nil, List.append_nil] at hset
  rw [patchCobs, PatchState.close, hset, hend.code]
  rfl

/-! ## Frames -/

namespace Python

/-- `Header` of `wire.py`; Python integers. -/
structure Header where
  kind : Nat := 0
  flags : Nat := 0
  sessionId : Nat := 0
  txSeq : Nat := 0
  requestId : Nat := 0
  opcode : Nat := 0
  status : Nat := 0
  payloadSize : Nat := 0
  connectionId : Nat := 0
  major : Nat := 3
  minor : Nat := 0
  deriving DecidableEq, Repr

/-- `struct.pack` of little-endian unsigned integers with their widths; a value that does not fit is an
error. -/
def structPack (fields : List (Nat × Nat)) : Option (List UInt8) :=
  if fields.all (fun f => decide (f.2 < 256 ^ f.1)) then
    some (fields.flatMap fun f => leBytes f.1 f.2)
  else none

/-- `struct.unpack` of little-endian unsigned integers. -/
def structUnpack : List Nat → List UInt8 → List Nat
  | [], _ => []
  | width :: widths, raw => leNat (raw.take width) :: structUnpack widths (raw.drop width)

/-- `MAGIC`. -/
def magic : List UInt8 := [0x52, 0x42]

namespace Header

/-- `Header.pack`. -/
def pack (h : Header) : Option (List UInt8) :=
  (structPack [(1, h.major), (1, h.minor), (1, h.kind), (1, h.flags), (2, 32), (4, h.sessionId),
    (4, h.txSeq), (4, h.requestId), (2, h.opcode), (2, h.status), (2, h.payloadSize), (2, 0),
    (4, h.connectionId)]).map (magic ++ ·)

/-- `Header.unpack`. -/
def unpack (raw : List UInt8) : Option Header :=
  if raw.length ≠ 32 then none
  else
    match structUnpack [1, 1, 1, 1, 2, 4, 4, 4, 2, 2, 2, 2, 4] (raw.drop 2) with
    | [major, minor, kind, flags, hdrSize, sessionId, txSeq, requestId, opcode, status, payloadSize,
        reserved, connectionId] =>
      if raw.take 2 ≠ magic ∨ hdrSize ≠ 32 ∨ reserved ≠ 0 then none
      else some
        { kind, flags, sessionId, txSeq, requestId, opcode, status, payloadSize, connectionId, major,
          minor }
    | _ => none

/-- The fields of a header of the C layer. -/
def ofC (h : RemoteBridge.Header) : Header :=
  { kind := h.kind.toNat, flags := h.flags.toNat, sessionId := h.sessionId.toNat,
    txSeq := h.txSeq.toNat, requestId := h.requestId.toNat, opcode := h.opcode.toNat,
    status := h.status.toNat, payloadSize := h.payloadSize.toNat,
    connectionId := h.connectionId.toNat, major := h.major.toNat, minor := h.minor.toNat }

end Header

/-- `encode_frame`. -/
def encodeFrame (h : Header) (payload : List UInt8) (txSeq : Nat) : Option (List UInt8) :=
  if payload.length > 512 then none
  else if ¬ (1 ≤ txSeq ∧ txSeq ≤ 0xffffffff) then none
  else
    (Header.pack { h with txSeq := txSeq, payloadSize := payload.length }).map fun packed =>
      patchCobs (packed ++ payload ++ put32 (crc32c (packed ++ payload))) ++ [0]

lemma toNat_getD (b : List UInt8) (i : Nat) : (b.getD i 0).toNat = leNat ((b.drop i).take 1) := by
  rw [List.getD_eq_getElem?_getD, ← List.head?_drop]
  cases b.drop i <;> simp [leNat]

lemma toNat_get16 (b : List UInt8) (i : Nat) : (get16 b i).toNat = leNat ((b.drop i).take 2) := by
  have hlt := leNat_lt ((b.drop i).take 2)
  have hlen : ((b.drop i).take 2).length ≤ 2 := List.length_take_le _ _
  have hpow : 256 ^ ((b.drop i).take 2).length ≤ 256 ^ 2 := Nat.pow_le_pow_right (by decide) hlen
  rw [get16, UInt16.toNat_ofNat', Nat.mod_eq_of_lt]
  exact Nat.lt_of_lt_of_le hlt hpow

lemma toNat_get32 (b : List UInt8) (i : Nat) : (get32 b i).toNat = leNat ((b.drop i).take 4) := by
  have hlt := leNat_lt ((b.drop i).take 4)
  have hlen : ((b.drop i).take 4).length ≤ 4 := List.length_take_le _ _
  have hpow : 256 ^ ((b.drop i).take 4).length ≤ 256 ^ 4 := Nat.pow_le_pow_right (by decide) hlen
  rw [get32, UInt32.toNat_ofNat', Nat.mod_eq_of_lt]
  exact Nat.lt_of_lt_of_le hlt hpow

/-- `unpack` reads the fields that `rbp_header_parse` reads. -/
lemma Header.unpack_eq {raw : List UInt8} (hlen : 32 ≤ raw.length) :
    Header.unpack (raw.take 32) = (RemoteBridge.Header.parse raw).map Header.ofC := by
  -- a field that ends within the header is not cut
  have hfield : ∀ i n, i + n ≤ 32 → ((raw.take 32).drop i).take n = (raw.drop i).take n := by
    intro i n hin
    rw [List.drop_take, List.take_take, Nat.min_eq_left (by omega)]
  have hhead : (raw.take 32).length = 32 := by
    rw [List.length_take]
    omega
  have hmagic : (raw.take 32).take 2 = [raw.getD 0 0, raw.getD 1 0] := by
    match raw, hlen with
    | b₀ :: b₁ :: rest, _ => rfl
  unfold unpack RemoteBridge.Header.parse
  rw [if_neg (by simp [hhead])]
  simp only [structUnpack, List.drop_drop, Nat.reduceAdd]
  simp only [hfield, Nat.reduceAdd, Nat.reduceLeDiff, hmagic]
  simp only [← toNat_getD, ← toNat_get16, ← toNat_get32]
  have hcond : (([raw.getD 0 0, raw.getD 1 0] : List UInt8) ≠ magic ∨ (get16 raw 6).toNat ≠ 32 ∨
      (get16 raw 26).toNat ≠ 0) ↔ ¬ (((RemoteBridge.Header.read raw).magic0 == rbpMagic0 &&
        (RemoteBridge.Header.read raw).magic1 == rbpMagic1 &&
        (RemoteBridge.Header.read raw).headerSize == 32 &&
        (RemoteBridge.Header.read raw).reserved == 0) = true) := by
    have h32 : (get16 raw 6).toNat = 32 ↔ get16 raw 6 = 32 := by
      rw [← UInt16.toNat_inj]
      rfl
    have h0 : (get16 raw 26).toNat = 0 ↔ get16 raw 26 = 0 := by
      rw [← UInt16.toNat_inj]
      rfl
    simp only [ne_eq, h32, h0, magic, RemoteBridge.Header.read, Bool.and_eq_true, beq_iff_eq,
      List.cons.injEq, and_true, rbpMagic0, rbpMagic1]
    tauto
  by_cases hok : ((RemoteBridge.Header.read raw).magic0 == rbpMagic0 &&
      (RemoteBridge.Header.read raw).magic1 == rbpMagic1 &&
      (RemoteBridge.Header.read raw).headerSize == 32 &&
      (RemoteBridge.Header.read raw).reserved == 0) = true
  · rw [if_neg (fun h => hcond.mp h hok), if_pos hok]
    rfl
  · rw [if_pos (hcond.mpr hok), if_neg hok]
    rfl

/-- A packed header is the one that the C encoder stamps. -/
lemma Header.pack_eq (h : RemoteBridge.Header) (txSeq : UInt32) {len : Nat} (hlen : len < 65536) :
    Header.pack { Header.ofC h with
      txSeq := txSeq.toNat, payloadSize := len, major := 3, minor := 0 } =
        some (h.stamped txSeq len).pack := by
  have hsize : (UInt16.ofNat len).toNat = len := by
    rw [UInt16.toNat_ofNat', Nat.mod_eq_of_lt hlen]
  have hpack : structPack [(1, 3), (1, 0), (1, h.kind.toNat), (1, h.flags.toNat), (2, 32),
      (4, h.sessionId.toNat), (4, txSeq.toNat), (4, h.requestId.toNat), (2, h.opcode.toNat),
      (2, h.status.toNat), (2, len), (2, 0), (4, h.connectionId.toNat)] =
      some ([3, 0, h.kind, h.flags] ++ put16 32 ++ put32 h.sessionId ++ put32 txSeq ++
        put32 h.requestId ++ put16 h.opcode ++ put16 h.status ++ put16 (UInt16.ofNat len) ++
        put16 0 ++ put32 h.connectionId) := by
    have hk := h.kind.toNat_lt
    have hf := h.flags.toNat_lt
    have hs := h.sessionId.toNat_lt
    have ht := txSeq.toNat_lt
    have hr := h.requestId.toNat_lt
    have ho := h.opcode.toNat_lt
    have hst := h.status.toNat_lt
    have hc := h.connectionId.toNat_lt
    rw [structPack, if_pos]
    · simp [put16, put32, leBytes, hsize]
    · simp only [List.all_cons, List.all_nil, Bool.and_true, Bool.and_eq_true, decide_eq_true_eq]
      omega
  unfold Header.pack Header.ofC
  dsimp only
  rw [hpack]
  rfl

/-- A frame of the Python client is the frame of the C encoder. -/
lemma encodeFrame_eq (h : RemoteBridge.Header) {txSeq : UInt32} (htx : txSeq ≠ 0)
    {payload : List UInt8} (hlen : payload.length ≤ maxPayload) :
    encodeFrame { Header.ofC h with major := 3, minor := 0 } payload txSeq.toNat =
      some (wireFrame (h.stamped txSeq payload.length) payload) := by
  have hmax : maxPayload = 512 := rfl
  have hpos : txSeq.toNat ≠ 0 := fun h0 => htx (UInt32.toNat_inj.mp h0)
  have hlt := txSeq.toNat_lt
  rw [encodeFrame, if_neg (by omega), if_neg (by omega)]
  have hpack := Header.pack_eq h txSeq (by omega : payload.length < 65536)
  dsimp only at hpack ⊢
  rw [hpack, Option.map_some, patchCobs_eq, crc32c_eq]
  rfl

/-- `TlvWriter().blob(tag, value).data`. -/
def tlvBlob (tag : UInt8) (value : List UInt8) : List UInt8 :=
  [tag, 7] ++ leBytes 2 value.length ++ value

end Python

namespace Dotnet

/-- `Frame`. -/
structure Frame where
  kind : UInt8
  session : UInt32
  sequence : UInt32
  request : UInt32
  opcode : UInt16
  status : UInt16
  connection : UInt32
  payload : List UInt8
  deriving DecidableEq, Repr

/-- The bytes that `Wire.Encode` writes at the offsets of its buffer, up to the CRC. -/
def Frame.raw (f : Frame) : List UInt8 :=
  [0x52, 0x42, 3, 0, f.kind, 0] ++ put16 32 ++ put32 f.session ++ put32 f.sequence ++
    put32 f.request ++ put16 f.opcode ++ put16 f.status ++ put16 (UInt16.ofNat f.payload.length) ++
    [0, 0] ++ put32 f.connection ++ f.payload

/-- `Wire.Encode`. -/
def encode (f : Frame) : Option (List UInt8) :=
  if f.payload.length > 512 || f.sequence == 0 then none
  else some (patchCobs (f.raw ++ put32 (crc f.raw)) ++ [0])

/-- The header of the C layer with the fields of a frame. -/
def Frame.header (f : Frame) : Header :=
  { kind := f.kind, sessionId := f.session, requestId := f.request, opcode := f.opcode,
    status := f.status, connectionId := f.connection }

/-- A frame of the .NET client is the frame of the C encoder. -/
lemma encode_eq {f : Frame} (hseq : f.sequence ≠ 0) (hlen : f.payload.length ≤ maxPayload) :
    encode f = some (wireFrame (f.header.stamped f.sequence f.payload.length) f.payload) := by
  have hmax : maxPayload = 512 := rfl
  have hraw : f.raw = (f.header.stamped f.sequence f.payload.length).pack ++ f.payload := by
    have hzero : put16 0 = [0, 0] := by decide
    simp only [Frame.raw, Frame.header, Header.stamped, Header.pack, hzero]
    rfl
  rw [encode, if_neg (by simp [hseq]; omega), patchCobs_eq, crc_eq, hraw]
  rfl

/-- `new Tlv().Blob(tag, value).Encode()`. -/
def tlvBlob (tag : UInt8) (value : List UInt8) : List UInt8 :=
  [tag, 7] ++ put16 (UInt16.ofNat value.length) ++ value

end Dotnet

end RemoteBridge
