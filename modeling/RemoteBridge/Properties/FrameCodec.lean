import RemoteBridge.Client.Wire
import RemoteBridge.Framework.Remainder
import RemoteBridge.Protocol.FrameMemory

/-!
# One frame format

The frame layer is written down three times, in C with a table and with pointers, in Python with a table
that it builds itself, and in C# bit by bit.  All three compute the reflected CRC-32C (`checksums_agree`)
and write the same frames (`encoders_agree`).  The decoder of the firmware runs in place, which makes no
difference, since it writes behind its read cursor (`decode_in_place`).

The checksum is specified as the remainder of a polynomial over the field with two elements, so the
comparison has two steps: a table or a loop over bits is one step of the division, and the reflection of the
bits changes the direction in which they are taken (`Framework.Remainder`).

For the encoders the frame is specified as bytes (`frameBytes`): the header, the payload and the checksum,
stuffed by COBS, and a delimiter.  Both clients refuse the sequence number zero, and the firmware never has
it when it sends; the encoders differ there and nowhere else.

In memory the decoder is a loop over a buffer that is read and written at once.  The statement is about any
buffer, valid or not.
-/

namespace RemoteBridge

open Polynomial

/-! ## The checksum -/

/-- The polynomial of CRC-32C, reflected. -/
def castagnoli : BitVec 32 := 0x82F63B78#32

/-- The bits of a byte in the order of a reflected checksum. -/
def byteBits (b : UInt8) : List Bool := (List.range 8).map b.toBitVec.getLsbD

/-- The bits of a byte string. -/
def serialBits (data : List UInt8) : List Bool := data.flatMap byteBits

/-- The reflected CRC-32C, bit by bit. -/
def reflectedCrc (data : List UInt8) : UInt32 :=
  ⟨serials castagnoli (serialBits data) 0xffffffff#32 ^^^ 0xffffffff#32⟩

/-- A look into the table is eight bits through the register. -/
lemma toBitVec_crc32cUpdate (c : UInt32) (b : UInt8) :
    (crc32cUpdate c b).toBitVec = serials castagnoli (byteBits b) c.toBitVec := by
  have hhigh : ∀ i, 8 ≤ i → b.toUInt32.toBitVec.getLsbD i = false := by
    intro i hi
    rw [UInt8.toBitVec_toUInt32, BitVec.getLsbD_setWidth, BitVec.getLsbD_of_ge _ _ hi, Bool.and_false]
  have hbits : byteBits b = (List.range 8).map b.toUInt32.toBitVec.getLsbD := by
    refine List.map_congr_left fun i hi => ?_
    have hlt : i < 32 := (List.mem_range.mp hi).trans (by decide)
    rw [UInt8.toBitVec_toUInt32, BitVec.getLsbD_setWidth, decide_eq_true hlt, Bool.true_and]
  rw [hbits, serials_eq_feedbacks castagnoli 8 hhigh, ← UInt32.toBitVec_xor, ← Dotnet.crcByte_eq, Dotnet.crcShifts_eq]
  rfl

/-- The running checksum after a byte string. -/
lemma toBitVec_foldl_crc32cUpdate (data : List UInt8) (c : UInt32) :
    (data.foldl crc32cUpdate c).toBitVec = serials castagnoli (serialBits data) c.toBitVec := by
  induction data generalizing c with
  | nil => rfl
  | cons b data ih =>
    have hbits : serialBits (b :: data) = byteBits b ++ serialBits data := List.flatMap_cons ..
    rw [List.foldl_cons, ih, toBitVec_crc32cUpdate, hbits, serials, serials, serials, List.foldl_append]

lemma crc32c_eq_reflectedCrc (data : List UInt8) : crc32c data = reflectedCrc data := by
  apply UInt32.toBitVec_inj.mp
  rw [crc32c, UInt32.toBitVec_xor, toBitVec_foldl_crc32cUpdate]
  rfl

lemma length_serialBits (data : List UInt8) : (serialBits data).length = 8 * data.length := by
  induction data with
  | nil => rfl
  | cons b data ih =>
    rw [serialBits, List.flatMap_cons, List.length_append, byteBits, List.length_map, List.length_range, List.length_cons]
    change 8 + (serialBits data).length = _
    omega

/-- The table of the firmware, the table of the Python client, the checksum inside the encoder and the
bit loop of the .NET client all compute the reflected CRC-32C, which is the remainder of a division, and
which goes on where it left off. -/
theorem checksums_agree (data : List UInt8) :
    crc32c data = reflectedCrc data ∧ Python.crc32c data = reflectedCrc data ∧ Dotnet.crc data = reflectedCrc data ∧
      (∀ w : PayloadWriter, w.crc = 0xffffffff →
        (data.foldl (PayloadWriter.byte true) w).crc ^^^ 0xffffffff = reflectedCrc data) ∧
      (∀ more, crc32c (data ++ more) = more.foldl crc32cUpdate (crc32c data ^^^ 0xffffffff) ^^^ 0xffffffff) ∧
      residue (reflectedCrc data ^^^ 0xffffffff).toBitVec =
        (X ^ 32 * messagePoly (serialBits data) + X ^ (8 * data.length) * residue 0xffffffff#32) %ₘ
          generator castagnoli := by
  have hcrc := crc32c_eq_reflectedCrc data
  have hopen : crc32c data ^^^ 0xffffffff = data.foldl crc32cUpdate 0xffffffff := by
    rw [crc32c, UInt32.xor_assoc, UInt32.xor_self, UInt32.xor_zero]
  refine ⟨hcrc, (Python.crc32c_eq data).trans hcrc, (Dotnet.crc_eq data).trans hcrc, fun w hw => ?_, fun more => ?_, ?_⟩
  · rw [foldl_payloadWriter, ← hcrc, crc32c, hw]
    rfl
  · rw [hopen, crc32c, List.foldl_append]
  · rw [← hcrc, hopen, toBitVec_foldl_crc32cUpdate, residue_serials _ _ _ (by decide), length_serialBits]
    rfl

/-! ## The encoders -/

/-- The frame that the fields of a header, a sequence number and a payload make. -/
def frameBytes (h : Header) (txSeq : UInt32) (payload : List UInt8) : List UInt8 :=
  let covered := (h.stamped txSeq payload.length).pack ++ payload
  cobsEncode (covered ++ put32 (crc32c covered)) ++ [0]

/-- The frame of the .NET client with the fields of a header. -/
def Dotnet.Frame.ofC (h : Header) (txSeq : UInt32) (payload : List UInt8) : Dotnet.Frame :=
  { kind := h.kind, session := h.sessionId, sequence := txSeq, request := h.requestId, opcode := h.opcode,
    status := h.status, connection := h.connectionId, payload := payload }

/-- The encoder of the firmware and those of the clients write the same frames; the clients have no frame
with the sequence number 0, and the .NET client none with flags. -/
theorem encoders_agree (mem : Nat → UInt8) (out : Nat) (h : Header) (txSeq : UInt32) (payload : List UInt8)
    (hlen : payload.length ≤ maxPayload) :
    window (encodePayloadAt mem out h txSeq payload).1 out (encodePayloadAt mem out h txSeq payload).2.1 =
        frameBytes h txSeq payload ∧
      (txSeq ≠ 0 →
        Python.encodeFrame { Python.Header.ofC h with major := 3, minor := 0 } payload txSeq.toNat =
          some (frameBytes h txSeq payload)) ∧
      (txSeq ≠ 0 → h.flags = 0 →
        Dotnet.encode (Dotnet.Frame.ofC h txSeq payload) = some (frameBytes h txSeq payload)) ∧
      ∀ src : List UInt8,
        (cobsEncode src).length ≤ src.length + 1 + src.length / 254 ∧ cobsDecode (cobsEncode src) = some src := by
  refine ⟨(encodePayloadAt_eq mem out h txSeq hlen).1, fun htx => Python.encodeFrame_eq h htx hlen, fun htx hflags => ?_,
    fun src => ⟨length_cobsEncode_le src, cobsDecode_cobsEncode src⟩⟩
  have hheader : (Dotnet.Frame.ofC h txSeq payload).header.stamped txSeq payload.length = h.stamped txSeq payload.length := by
    simp only [Dotnet.Frame.header, Dotnet.Frame.ofC, Header.stamped, hflags]
  have hencode := Dotnet.encode_eq (f := Dotnet.Frame.ofC h txSeq payload) htx hlen
  rw [hencode]
  change some (wireFrame ((Dotnet.Frame.ofC h txSeq payload).header.stamped txSeq payload.length) payload) = _
  rw [hheader]
  rfl

theorem encoders_agree_ping :
    window (encodePayloadAt (fun _ => 0) 0 { kind := 1, opcode := 2 } 7 [1, 0]).1 0
        (encodePayloadAt (fun _ => 0) 0 { kind := 1, opcode := 2 } 7 [1, 0]).2.1 =
        frameBytes { kind := 1, opcode := 2 } 7 [1, 0] ∧
      Dotnet.encode (Dotnet.Frame.ofC { kind := 1, opcode := 2 } 7 [1, 0]) =
        some (frameBytes { kind := 1, opcode := 2 } 7 [1, 0]) :=
  have hagree := encoders_agree (fun _ => 0) 0 { kind := 1, opcode := 2 } 7 [1, 0] (by decide)
  ⟨hagree.1, hagree.2.2.1 (by decide) rfl⟩

/-- The firmware encodes a frame with the sequence number 0, the clients do not. -/
theorem encoders_differ_at_zero :
    (encodePayloadAt (fun _ => 0) 0 { kind := 1, opcode := 2 } 0 []).2.1 ≠ 0 ∧
      Python.encodeFrame { Python.Header.ofC { kind := 1, opcode := 2 } with major := 3, minor := 0 } [] 0 = none ∧
      Dotnet.encode (Dotnet.Frame.ofC { kind := 1, opcode := 2 } 0 []) = none :=
  ⟨by decide +kernel, by decide +kernel, by decide +kernel⟩

/-! ## The decoder -/

open CobsReader in
/-- `rbp_cobs_decode` at any place that is apart from its source. -/
lemma cobsDecodeAt_eq (mem : Nat → UInt8) (src len dst : Nat) (h : dst ≤ src ∨ src + len ≤ dst) :
    window (cobsDecodeAt mem src len dst).2.mem dst (cobsDecodeAt mem src len dst).1 =
        (cobsDecode (window mem src len)).getD [] ∧
      (cobsDecodeAt mem src len dst).1 ≤ len ∧ (dst ≤ src → (cobsDecodeAt mem src len dst).2.Behind) := by
  have hdecoded := @decoded_decodeLoop { mem := mem, src := src, dst := dst } (src + len) len
    (by dsimp only; omega) (by dsimp only; omega) h
  dsimp only at hdecoded
  rw [Nat.add_sub_cancel_left] at hdecoded
  have hlength : cobsDecodeLoop len (window mem src len) = cobsDecode (window mem src len) := by
    rw [cobsDecode, length_window]
  rw [hlength] at hdecoded
  unfold cobsDecodeAt
  dsimp only
  refine ⟨?_, ?_, fun hle => hdecoded.behind hle fun _ hp => absurd hp List.not_mem_nil⟩
  · rw [hdecoded.ok]
    cases hresult : cobsDecode (window mem src len) with
    | none => rfl
    | some bytes =>
      have hdst := hdecoded.dst bytes hresult
      dsimp only at hdst
      rw [Option.isSome_some, if_pos rfl, hdst, Nat.add_sub_cancel_left]
      exact hdecoded.bytes bytes hresult
  · rw [hdecoded.ok]
    cases hresult : cobsDecode (window mem src len) with
    | none => exact Nat.zero_le _
    | some bytes =>
      have hdst := hdecoded.dst bytes hresult
      have hle := hdecoded.length_le bytes hresult
      dsimp only at hdst hle
      rw [Option.isSome_some, if_pos rfl, hdst]
      omega

/-- Decoding a buffer in place gives what decoding it into another buffer gives, the bytes that the
receiver works with; every write is behind the read cursor. -/
theorem decode_in_place (mem : Nat → UInt8) (buf len other : Nat) (h : other + len ≤ buf ∨ buf + len ≤ other) :
    (cobsDecodeAt mem buf len buf).1 = (cobsDecodeAt mem buf len other).1 ∧
      window (cobsDecodeAt mem buf len buf).2.mem buf (cobsDecodeAt mem buf len buf).1 =
        window (cobsDecodeAt mem buf len other).2.mem other (cobsDecodeAt mem buf len other).1 ∧
      window (cobsDecodeAt mem buf len buf).2.mem buf (cobsDecodeAt mem buf len buf).1 =
        (cobsDecode (window mem buf len)).getD [] ∧
      (cobsDecodeAt mem buf len buf).1 ≤ len ∧ (cobsDecodeAt mem buf len buf).2.Behind := by
  obtain ⟨hplace, hle, hbehind⟩ := cobsDecodeAt_eq mem buf len buf (.inl (Nat.le_refl _))
  obtain ⟨hother, -, -⟩ := cobsDecodeAt_eq mem buf len other (h.imp (by omega) id)
  have hlength := congrArg List.length (hplace.trans hother.symm)
  rw [length_window, length_window] at hlength
  exact ⟨hlength, hplace.trans hother.symm, hplace, hle, hbehind (Nat.le_refl _)⟩

/-- A buffer with a coded string. -/
def codedBuffer : Nat → UInt8 := copyInto (fun _ => 0) 4 [3, 7, 8, 1, 2, 9]

theorem decode_in_place_coded :
    window (cobsDecodeAt codedBuffer 4 6 4).2.mem 4 (cobsDecodeAt codedBuffer 4 6 4).1 =
        window (cobsDecodeAt codedBuffer 4 6 20).2.mem 20 (cobsDecodeAt codedBuffer 4 6 20).1 ∧
      window (cobsDecodeAt codedBuffer 4 6 20).2.mem 20 (cobsDecodeAt codedBuffer 4 6 20).1 = [7, 8, 0, 0, 9] :=
  ⟨(decode_in_place codedBuffer 4 6 20 (.inr (by decide))).2.1, by decide⟩

end RemoteBridge
