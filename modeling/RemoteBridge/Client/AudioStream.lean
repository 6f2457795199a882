import RemoteBridge.Protocol.TlvCodec

/-!
# Audio objects of the Python client

`audio_wire.py`, with the part of `schema.py` that reads the payloads of voice and device events.  A
stream checks every fragment, format and end against what it has taken so far, and against its clock.

What raises is an `Except`: `AudioError` keeps its text, since the client passes it to the application;
the other exceptions that end a session need none.
-/

namespace RemoteBridge.Python

/-- The exceptions of the audio path. -/
inductive Raised where
  | audioError (reason : String)
  | protocol
  deriving DecidableEq, Repr

/-! ## `schema.parse` -/

/-- A row of a field table: tag, type and whether it is required. -/
structure Field where
  tag : UInt8
  type : UInt8
  required : Bool := true

/-- The loop of `parse_tlv` with a schema: unknown tags are skipped, known ones have their type. -/
def schemaLoop (fields : List Field) : Nat → List UInt8 → List UInt8 → Option (List (UInt8 × PyTlvValue))
  | _, _, [] => some []
  | fuel + 1, seen, tag :: type :: l0 :: l1 :: rest =>
    let length := l0.toNat + 256 * l1.toNat
    if rest.length < length then none
    else if tag ∈ seen then none
    else
      match fields.find? fun f => f.tag == tag with
      | none => schemaLoop fields fuel (tag :: seen) (rest.drop length)
      | some f =>
        if type ≠ f.type then none
        else
          match pyScalar type (rest.take length) with
          | none => none
          | some value => (schemaLoop fields fuel (tag :: seen) (rest.drop length)).map ((tag, value) :: ·)
  | _, _, _ => none

/-- `schema.parse`, and `_tlv` of the client. -/
def schemaParse (fields : List Field) (payload : List UInt8) : Except Raised (List (UInt8 × PyTlvValue)) :=
  match schemaLoop fields payload.length [] payload with
  | none => .error .protocol
  | some out =>
    if fields.any fun f => f.required && (out.lookup f.tag).isNone then .error .protocol else .ok out

/-- `t[tag]` of a number. -/
def intAt (t : List (UInt8 × PyTlvValue)) (tag : UInt8) : Nat :=
  match t.lookup tag with
  | some (.int v) => v
  | _ => 0

/-- `t[tag]` of bytes. -/
def bytesAt (t : List (UInt8 × PyTlvValue)) (tag : UInt8) : List UInt8 :=
  match t.lookup tag with
  | some (.bytes v) => v
  | _ => []

/-- `t[tag]` of a text. -/
def strAt (t : List (UInt8 × PyTlvValue)) (tag : UInt8) : String :=
  match t.lookup tag with
  | some (.str v) => v
  | _ => ""

/-- `EVENTS[OP_VOICE_STARTED_EV]`, and the same for `OP_VOICE_FORMAT_EV`. -/
def voiceFormatFields : List Field :=
  [⟨1, 3, true⟩, ⟨2, 3, true⟩, ⟨3, 3, true⟩, ⟨4, 2, true⟩, ⟨5, 3, true⟩, ⟨6, 1, true⟩, ⟨7, 7, true⟩,
    ⟨8, 3, true⟩, ⟨9, 4, true⟩, ⟨10, 4, true⟩, ⟨11, 3, true⟩]

/-- `EVENTS[OP_VOICE_ENDED_EV]`. -/
def voiceEndedFields : List Field :=
  [⟨1, 3, true⟩, ⟨2, 1, true⟩, ⟨3, 4, true⟩, ⟨4, 4, true⟩, ⟨5, 3, true⟩, ⟨6, 4, true⟩, ⟨7, 3, true⟩]

/-- `DEVICE`; the message is optional. -/
def deviceFields : List Field :=
  [⟨1, 3, true⟩, ⟨2, 3, true⟩, ⟨3, 1, true⟩, ⟨4, 6, true⟩, ⟨5, 6, true⟩, ⟨6, 3, true⟩, ⟨7, 1, true⟩,
    ⟨8, 1, true⟩, ⟨9, 3, true⟩, ⟨10, 1, true⟩, ⟨11, 1, true⟩, ⟨12, 5, true⟩, ⟨13, 5, true⟩, ⟨14, 3, true⟩,
    ⟨15, 5, true⟩, ⟨16, 2, true⟩, ⟨17, 6, false⟩, ⟨18, 1, true⟩, ⟨19, 3, true⟩]

/-- `validate_device`: whether it raises. -/
def deviceRefused (t : List (UInt8 × PyTlvValue)) : Bool :=
  decide (intAt t 3 > 7) || decide (intAt t 7 > 64) || decide (intAt t 8 > 4) || decide (intAt t 11 > 2) ||
    decide (intAt t 18 > 3) || (decide (intAt t 10 > 100) && intAt t 10 != 255) ||
    !decide (intAt t 9 ≤ 384000) || decide ((strAt t 4).utf8ByteSize > 40) ||
    decide ((strAt t 5).utf8ByteSize > 48)

/-! ## Formats, fragments and ends -/

def unknownIndex : Nat := 2 ^ 64 - 1

def unknownCount : Nat := 2 ^ 32 - 1

structure AudioFormat where
  streamId : Nat
  epoch : Nat
  codecId : Nat
  codecRevision : Nat
  sampleRate : Nat
  channels : Nat
  config : List UInt8
  maxUnitBytes : Nat
  firstSampleIndex : Nat
  capturedUs : Nat
  firstUnitSeq : Nat
  deriving DecidableEq, Repr

namespace AudioFormat

/-- The bounds of `from_tlv`. -/
def checked (f : AudioFormat) : Except Raised AudioFormat :=
  if 0 < f.streamId ∧ f.streamId ≤ unknownCount ∧ 0 < f.epoch ∧ f.epoch ≤ unknownCount ∧
      0 < f.codecId ∧ f.codecId < 0x80000000 ∧ 0 < f.codecRevision ∧ f.codecRevision ≤ 65535 ∧
      1 ≤ f.sampleRate ∧ f.sampleRate ≤ 384000 ∧ 1 ≤ f.channels ∧ f.channels ≤ 8 ∧
      f.config.length ≤ 256 ∧ 1 ≤ f.maxUnitBytes ∧ f.maxUnitBytes ≤ 65536 ∧ 0 < f.firstUnitSeq ∧
      f.firstUnitSeq ≤ unknownCount ∧ f.firstSampleIndex ≤ unknownIndex ∧ f.capturedUs ≤ unknownIndex then
    .ok f
  else .error (.audioError "invalid_format")

/-- `AudioFormat.from_tlv`. -/
def fromTlv (t : List (UInt8 × PyTlvValue)) : Except Raised AudioFormat :=
  checked
    { streamId := intAt t 1, epoch := intAt t 2, codecId := intAt t 3, codecRevision := intAt t 4,
      sampleRate := intAt t 5, channels := intAt t 6, config := bytesAt t 7, maxUnitBytes := intAt t 8,
      firstSampleIndex := intAt t 9, capturedUs := intAt t 10, firstUnitSeq := intAt t 11 }

end AudioFormat

structure EncodedFragment where
  streamId : Nat
  frameSeq : Nat
  epoch : Nat
  unitSeq : Nat
  unitSize : Nat
  fragmentOffset : Nat
  firstSampleIndex : Nat
  unitSampleCount : Nat
  data : List UInt8
  deriving DecidableEq, Repr

/-- `EncodedFragment.parse`; the layout is `<IIIIIIQII`. -/
def EncodedFragment.parse (p : List UInt8) : Except Raised EncodedFragment :=
  let at' (i n : Nat) : Nat := leNat ((p.drop i).take n)
  if ¬ (41 ≤ p.length ∧ p.length ≤ 512) then .error (.audioError "audio length")
  else if at' 36 4 ≠ 0 then .error (.audioError "audio reserved")
  else
    .ok
      { streamId := at' 0 4, frameSeq := at' 4 4, epoch := at' 8 4, unitSeq := at' 12 4,
        unitSize := at' 16 4, fragmentOffset := at' 20 4, firstSampleIndex := at' 24 8,
        unitSampleCount := at' 32 4, data := p.drop 40 }

structure AudioEnd where
  streamId : Nat
  reason : Nat
  deliveredEncodedBytes : Nat
  endedUs : Nat
  deliveredUnits : Nat
  deliveredSamples : Nat
  finalEpoch : Nat
  deriving DecidableEq, Repr

/-- The constructor applied to the fields 1 to 7. -/
def AudioEnd.fromTlv (t : List (UInt8 × PyTlvValue)) : AudioEnd where
  streamId := intAt t 1
  reason := intAt t 2
  deliveredEncodedBytes := intAt t 3
  endedUs := intAt t 4
  deliveredUnits := intAt t 5
  deliveredSamples := intAt t 6
  finalEpoch := intAt t 7

/-! ## `AudioStream` -/

/-- `meta` of `feed`, in its order. -/
structure UnitMeta where
  unitSeq : Nat
  unitSize : Nat
  firstSampleIndex : Nat
  unitSampleCount : Nat
  epoch : Nat
  deriving DecidableEq, Repr

def EncodedFragment.unitMeta (c : EncodedFragment) : UnitMeta where
  unitSeq := c.unitSeq
  unitSize := c.unitSize
  firstSampleIndex := c.firstSampleIndex
  unitSampleCount := c.unitSampleCount
  epoch := c.epoch

/-- The index after the samples of a unit; an unknown count makes it unknown for good. -/
def nextSamples (samples count : Nat) : Nat :=
  let sum := if samples = unknownIndex ∨ count = unknownCount then unknownIndex else samples + count
  if sum ≥ unknownIndex then unknownIndex else sum

/-- Times are milliseconds of `time.monotonic`. -/
structure AudioStream where
  streamId : Nat
  seq : Nat := 0
  unit : Nat := 1
  offset : Nat := 0
  samples : Nat := 0
  encodedBytes : Nat := 0
  epoch : Nat := 0
  pending : Option UnitMeta := none
  accepted : List (Nat × Nat)
  maxUnit : Nat
  started : Nat := 0
  progress : Nat := 0
  fmt : AudioFormat

namespace AudioStream

def format (f : AudioFormat) (s : AudioStream) : Except Raised AudioStream := do
  let f ← f.checked
  if (s.accepted.all fun codec => codec.1 != f.codecId || codec.2 != f.codecRevision) ∨
      f.maxUnitBytes > s.maxUnit then
    throw (.audioError "unsupported_format")
  else if f.streamId ≠ s.streamId ∨ f.epoch ≠ s.epoch + 1 ∨ s.offset ≠ 0 ∨ f.firstUnitSeq ≠ s.unit ∨
      f.firstSampleIndex ≠ s.samples then
    throw (.audioError "format boundary")
  else return { s with fmt := f, epoch := f.epoch }

/-- `__init__`. -/
def init (fmt : AudioFormat) (accepted : List (Nat × Nat)) (maxUnit : Nat) : Except Raised AudioStream :=
  format fmt { streamId := fmt.streamId, accepted, maxUnit, fmt }

def checkTimeout (now : Nat) (s : AudioStream) : Except Raised Unit :=
  if s.offset ≠ 0 ∧ (now - s.progress ≥ 2000 ∨ now - s.started ≥ 10000) then
    .error (.audioError "incomplete_unit")
  else .ok ()

/-- `feed`; the clock is read at `checked` for the timeout and at `now` behind the checks. -/
def feed (c : EncodedFragment) (checked now : Nat) (s : AudioStream) : Except Raised AudioStream := do
  s.checkTimeout checked
  if c.data = [] then throw (.audioError "empty fragment")
  else if c.streamId ≠ s.streamId ∨ c.frameSeq ≠ s.seq + 1 ∨ c.epoch ≠ s.epoch ∨ c.unitSeq ≠ s.unit ∨
      ¬ (1 ≤ c.unitSize ∧ c.unitSize ≤ s.fmt.maxUnitBytes) ∨ c.fragmentOffset ≠ s.offset ∨
      c.firstSampleIndex ≠ s.samples ∨ s.offset + c.data.length > c.unitSize ∨
      (s.pending.isSome ∧ s.pending ≠ some c.unitMeta) then
    throw (.audioError "audio continuity")
  else
    let s := { s with
      started := if s.offset = 0 then now else s.started
      progress := now
      pending := some c.unitMeta
      offset := s.offset + c.data.length
      seq := c.frameSeq
      encodedBytes := s.encodedBytes + c.data.length }
    if s.offset = c.unitSize then
      return { s with
        samples := nextSamples s.samples c.unitSampleCount
        unit := s.unit + 1
        offset := 0
        pending := none }
    else return s

/-- `end`. -/
def finish (e : AudioEnd) (s : AudioStream) : Except Raised Unit :=
  if e.streamId ≠ s.streamId ∨ ¬ e.reason ≤ 9 ∨ e.deliveredEncodedBytes ≠ s.encodedBytes ∨
      e.deliveredUnits ≠ s.unit - 1 ∨ e.deliveredSamples ≠ s.samples ∨ e.finalEpoch ≠ s.epoch ∨
      (e.reason ∈ [0, 7, 8] ∧ s.offset ≠ 0) then
    .error (.audioError "audio end integrity")
  else .ok ()

end AudioStream

end RemoteBridge.Python
