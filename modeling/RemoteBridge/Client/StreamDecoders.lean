import RemoteBridge.Client.AudioStream
import RemoteBridge.Client.Ima
import RemoteBridge.Product.Server

/-!
# The stream decoders

What turns a voice stream into samples on the host: the `AudioDecoder` of `codecs.py`, the class of the
same name in `AudioDecoder.cs`, and the unit decoder of `rbp_decoder.c`.  The first two check the stream
as they go and end with the first error; the third is given whole coding units.

The native ICO decoder is built around a reference that is fetched, so it is a parameter with the interface
of `ico_library.c`: a reset state, and frames of 40 bytes that give 320 samples.
-/

namespace RemoteBridge

/-- `ico_library.c`: `ico_reset`, and `ico_decode_frame` with its `int16_t pcm[320]`. -/
structure Ico where
  State : Type
  reset : State
  decodeFrame : State → List UInt8 → Vector Int16 320 × State

/-- `ico_decode`; `none` is the result `-1`. -/
def Ico.decode (ico : Ico) (s : ico.State) (frame : List UInt8) : Option (List Int16 × ico.State) :=
  if frame.length ≠ 40 then none
  else
    let (pcm, s) := ico.decodeFrame s frame
    some (pcm.toList, s)

/-- `struct.unpack('<h')` and `ReadInt16LittleEndian` of the first two bytes. -/
def readInt16 (p : List UInt8) : Int16 := (get16 p 0).toInt16

/-- Samples as PCM16LE. -/
def pcm16 (samples : List Int16) : List UInt8 := samples.flatMap fun x => Ima.le16 x.toInt

namespace Python

/-! ## `codecs.py` -/

variable {ico : Ico}

/-- `SUPPORTED_CODECS`. -/
def supportedCodecs (available : Bool) : List (Nat × Nat) :=
  if available then [(1, 1), (2, 1)] else [(1, 1)]

/-- `ImaDecoder.__init__`. -/
def imaDecoder (f : AudioFormat) : Except Raised Ima.ImaDecoder :=
  if f.codecId ≠ 1 ∨ f.codecRevision ≠ 1 then .error (.audioError "unsupported_format")
  else if (f.sampleRate ≠ 8000 ∧ f.sampleRate ≠ 16000) ∨ f.channels ≠ 1 ∨ f.config.length ≠ 4 then
    .error (.audioError "invalid_format")
  else if f.config.getD 2 0 > 88 ∨ f.config.getD 3 0 ≠ 0 then .error (.audioError "invalid_format")
  else .ok { predictor := (readInt16 f.config).toInt, index := (f.config.getD 2 0).toNat }

/-- What `make_decoder` makes. -/
inductive UnitDecoder (ico : Ico) where
  | ima (d : Ima.ImaDecoder)
  | native (s : ico.State)

/-- `make_decoder`. -/
def makeDecoder (ico : Ico) (available : Bool) (f : AudioFormat) : Except Raised (UnitDecoder ico) :=
  if f.codecId = 1 then (imaDecoder f).map .ima
  else if f.codecId = 2 ∧ f.codecRevision = 1 then
    if f.sampleRate ≠ 16000 ∨ f.channels ≠ 1 ∨ f.config ≠ [] ∨ f.maxUnitBytes ≠ 40 then
      .error (.audioError "invalid_format")
    else if available then .ok (.native ico.reset)
    else .error (.audioError "ICO native decoder unavailable")
  else .error (.audioError "unsupported_format")

/-- `decode` of either decoder. -/
def UnitDecoder.decode : UnitDecoder ico → List UInt8 → Except Raised (List UInt8 × UnitDecoder ico)
  | .ima d, data =>
    match d.decode data with
    | some (pcm, d) => .ok (pcm, .ima d)
    | none => .error .protocol
  | .native s, data =>
    match ico.decode s data with
    | some (samples, s) => .ok (pcm16 samples, .native s)
    | none => .error (.audioError "Expected 40-byte ICO frame")

/-- `AudioDecoder`. -/
structure AudioDecoder (ico : Ico) where
  buffer : List UInt8 := []
  failed : Bool := false
  fmt : AudioFormat
  check : AudioStream
  decoder : UnitDecoder ico

namespace AudioDecoder

/-- `__init__`. -/
def init (ico : Ico) (available : Bool) (fmt : AudioFormat) : Except Raised (AudioDecoder ico) := do
  let check ← AudioStream.init fmt (supportedCodecs available) 65536
  let decoder ← makeDecoder ico available fmt
  return { fmt, check, decoder }

def close (d : AudioDecoder ico) : AudioDecoder ico := { d with failed := true, buffer := [] }

/-- What `_ready` raises. -/
def notReady : Raised := .audioError "decoder stream already failed or ended"

def format (available : Bool) (f : AudioFormat) (d : AudioDecoder ico) :
    Except Raised Unit × AudioDecoder ico :=
  if d.failed then (.error notReady, d)
  else
    match d.check.format f with
    | .error e => (.error e, d.close)
    | .ok check =>
      match makeDecoder ico available f with
      | .error e => (.error e, { d with check }.close)
      | .ok decoder => (.ok (), { d with check, decoder, fmt := f })

/-- `data` once the buffer holds a fragment: a unit that is complete is decoded. -/
def decodeBuffer (unitSize : Nat) (d : AudioDecoder ico) : Except Raised (List UInt8) × AudioDecoder ico :=
  if d.buffer.length < unitSize then (.ok [], d)
  else
    match d.decoder.decode d.buffer with
    | .ok (pcm, decoder) => (.ok pcm, { d with decoder, buffer := [] })
    | .error (.audioError e) => (.error (.audioError e), d.close)
    -- neither an `IndexError` nor a `struct.error` is a `ValueError`
    | .error .protocol => (.error .protocol, d)

/-- `data`; the clock is read at `checked` and at `now`, both inside `AudioStream.feed`. -/
def data (c : EncodedFragment) (checked now : Nat) (d : AudioDecoder ico) :
    Except Raised (List UInt8) × AudioDecoder ico :=
  if d.failed then (.error notReady, d)
  else
    match d.check.feed c checked now with
    | .error e => (.error e, d.close)
    | .ok check =>
      let d := { d with check }
      if c.unitSampleCount ≠ unknownCount ∧
          c.unitSampleCount ≠ (if d.fmt.codecId = 2 then 320 else c.unitSize * 2) then
        (.error (.audioError "local_decode_error: sample count"), d.close)
      else if d.fmt.codecId = 2 ∧ c.unitSize ≠ 40 then
        (.error (.audioError "invalid ICO unit size"), d.close)
      else { d with buffer := d.buffer ++ c.data }.decodeBuffer c.unitSize

/-- `end`. -/
def finish (e : AudioEnd) (d : AudioDecoder ico) : Except Raised Unit × AudioDecoder ico :=
  if d.failed then (.error notReady, d) else (d.check.finish e, d.close)

end AudioDecoder

end Python

namespace Dotnet

/-! ## `AudioDecoder.cs` -/

/-- `AudioFormat`. -/
structure AudioFormat where
  stream : UInt32
  epoch : UInt32
  codec : UInt32
  revision : UInt16
  rate : UInt32
  channels : UInt8
  config : List UInt8
  maxUnit : UInt32
  firstSample : UInt64
  capturedUs : UInt64
  firstUnit : UInt32
  deriving DecidableEq, Repr

/-- `AudioEnd`. -/
structure AudioEnd where
  stream : UInt32
  reason : UInt8
  encodedBytes : UInt64
  endedUs : UInt64
  units : UInt32
  samples : UInt64
  epoch : UInt32
  deriving DecidableEq, Repr

/-- `Complete`. -/
def AudioEnd.complete (e : AudioEnd) : Bool := e.reason == 0 || e.reason == 7 || e.reason == 8

/-- `AudioDecoder`; `coder` holds `_predictor` and `_index`, and times are those of `TickCount64`. -/
structure AudioDecoder (ico : Ico) where
  frame : UInt32 := 0
  unit : UInt32 := 1
  epoch : UInt32 := 0
  offset : UInt32 := 0
  size : UInt32 := 0
  unitSamples : UInt32 := 0
  samples : UInt64 := 0
  bytes : UInt64 := 0
  buffer : List UInt8 := []
  coder : Ima.AudioDecoder := { predictor := 0, index := 0 }
  started : Nat := 0
  progress : Nat := 0
  failed : Bool := false
  native : Option ico.State := none
  format : Option AudioFormat := none

namespace AudioDecoder

variable {ico : Ico}

/-- `Dispose`. -/
def dispose (d : AudioDecoder ico) : AudioDecoder ico :=
  { d with native := none, failed := true, buffer := [] }

/-- What `Ready` throws. -/
def notReady : String := "Audio decoder already ended/failed"

/-- The conditions of `SetFormat`. -/
def refusesFormat (f : AudioFormat) (d : AudioDecoder ico) : Bool :=
  f.stream == 0 || f.epoch != d.epoch + 1 || f.firstUnit != d.unit || f.firstSample != d.samples ||
    d.offset != 0 || (d.format.any fun format => f.stream != format.stream) || f.revision != 1 ||
    f.channels != 1 ||
    if f.codec == 1 then
      (f.rate != 8000 && f.rate != 16000) || (f.maxUnit == 0 || f.maxUnit > 65536) ||
        f.config.length != 4 || f.config.getD 2 0 > 88 || f.config.getD 3 0 != 0
    else f.codec != 2 || f.rate != 16000 || f.maxUnit != 40 || f.config.length != 0

def setFormat (available : Bool) (f : AudioFormat) (d : AudioDecoder ico) :
    Except String Unit × AudioDecoder ico :=
  if d.failed then (.error notReady, d)
  else if d.refusesFormat f then (.error "Unsupported audio format or invalid boundary", d.dispose)
  else
    let d := { d with native := none }
    let set (d : AudioDecoder ico) : Except String Unit × AudioDecoder ico :=
      (.ok (), { d with format := some f, epoch := f.epoch, buffer := List.replicate f.maxUnit.toNat 0 })
    if f.codec == 2 then
      if available then set { d with native := some ico.reset }
      else (.error "Unable to load shared library", d.dispose)
    else
      set { d with coder :=
        { predictor := (readInt16 f.config).toInt, index := (f.config.getD 2 0).toNat } }

/-- The conditions of `Feed`, on the words of its header. -/
def refusesFragment (format : AudioFormat) (data : List UInt8) (d : AudioDecoder ico) : Bool :=
  let frame := get32 data 4
  let unit := get32 data 12
  let size := get32 data 16
  let offset := get32 data 20
  let samples := get32 data 32
  get32 data 36 != 0 || get32 data 0 != format.stream || frame != d.frame + 1 ||
    get32 data 8 != d.epoch || unit != d.unit || offset != d.offset || size == 0 ||
    size > format.maxUnit || get64 data 24 != d.samples ||
    offset.toUInt64 + UInt64.ofNat (data.length - 40) > size.toUInt64 ||
    (format.codec == 2 && size != 40) ||
    (samples != 0xffffffff && samples != if format.codec == 2 then 320 else size * 2) ||
    (d.offset != 0 && (size != d.size || samples != d.unitSamples))

/-- `_ico.Decode` or the loop over the unit; `none` is any exception. -/
def decodeUnit (size : UInt32) (d : AudioDecoder ico) : Option (List UInt8 × AudioDecoder ico) :=
  match d.native with
  | some s =>
    (ico.decode s d.buffer).map fun (samples, s) => (pcm16 samples, { d with native := some s })
  | none =>
    (d.coder.decode (d.buffer.take size.toNat)).map fun (pcm, coder) => (pcm, { d with coder })

/-- `checked(_samples+samples)`, and the unknown index behind an unknown count. -/
def samplesAfter (samples : UInt64) (count : UInt32) : Option UInt64 :=
  if samples = 0xffffffffffffffff ∨ count = 0xffffffff then some 0xffffffffffffffff
  else if samples.toNat + count.toNat < 2 ^ 64 then some (samples + count.toUInt64) else none

/-- `CheckTimeout` within `Feed`: whether it throws. -/
def timedOut (now : Nat) (d : AudioDecoder ico) : Bool :=
  d.offset > 0 && (decide (now - d.progress ≥ 2000) || decide (now - d.started ≥ 10000))

/-- `Feed` once the fragment is copied: a unit that is complete is decoded and counted. -/
def decodeBuffer (size samples : UInt32) (d : AudioDecoder ico) :
    Except String (List UInt8) × AudioDecoder ico :=
  if d.offset < size then (.ok [], d)
  else
    match d.decodeUnit size with
    | none => (.error "ICO coding unit", d.dispose)
    | some (pcm, d) =>
      match samplesAfter d.samples samples with
      | none => (.error "Arithmetic operation resulted in an overflow", d.dispose)
      | some total =>
        if d.unit = 0xffffffff then
          (.error "Arithmetic operation resulted in an overflow", { d with samples := total }.dispose)
        else (.ok pcm, { d with samples := total, unit := d.unit + 1, offset := 0 })

/-- `Feed`; the clock is read at `checked` in `CheckTimeout` and at `now` for the fragment itself. -/
def feed (data : List UInt8) (checked now : Nat) (d : AudioDecoder ico) :
    Except String (List UInt8) × AudioDecoder ico :=
  if d.failed then (.error notReady, d)
  else if d.timedOut checked then (.error "Incomplete coding unit timed out", d.dispose)
  else if data.length < 41 ∨ data.length > 512 then (.error "Audio payload length", d.dispose)
  else
    match d.format with
    | none => (.error "Object reference not set", d.dispose)
    | some format =>
      let n := data.length - 40
      let size := get32 data 16
      let samples := get32 data 32
      if d.refusesFragment format data then (.error "Audio continuity/sample count", d.dispose)
      else
        let d :=
          if d.offset == 0 then { d with started := now, size, unitSamples := samples } else d
        let at' := d.offset.toNat
        { d with
          progress := now
          buffer := d.buffer.take at' ++ data.drop 40 ++ d.buffer.drop (at' + n)
          offset := d.offset + UInt32.ofNat n
          frame := get32 data 4
          bytes := d.bytes + UInt64.ofNat n }.decodeBuffer size samples

/-- `End`. -/
def finish (e : AudioEnd) (d : AudioDecoder ico) : Except String Unit × AudioDecoder ico :=
  if d.failed then (.error notReady, d)
  else
    match d.format with
    | none => (.error "Object reference not set", d.dispose)
    | some format =>
      if e.stream ≠ format.stream ∨ e.reason > 9 ∨ e.encodedBytes ≠ d.bytes ∨ e.units ≠ d.unit - 1 ∨
          e.samples ≠ d.samples ∨ e.epoch ≠ d.epoch ∨ (e.complete ∧ d.offset ≠ 0) then
        (.error "Audio END integrity", d.dispose)
      else (.ok (), d.dispose)

end AudioDecoder

end Dotnet

/-! ## `rbp_decoder.c` -/

/-- The results of the C functions. -/
inductive DecodeResult where
  | ok
  | unsupported
  | config
  | capacity
  | input
  deriving DecidableEq, Repr

/-- `sizeof(rbp_decoder_t)`. -/
def decoderSize : UInt32 := 1056

/-- `LEGACY_SIZE`. -/
def legacySize : UInt32 := 24

/-- `rbp_decoder_t`; `codec_state` holds a state of the native decoder once it is set. -/
structure RbpDecoder (ico : Ico) where
  size : UInt32
  abiVersion : UInt32 := 1
  maxUnitBytes : UInt32 := 0
  sampleRate : UInt32 := 0
  ima : Ima.ImaState := { predictor := 0, stepIndex := 0 }
  ready : Bool := false
  codecId : UInt32 := 0
  codecState : Option ico.State := none

/-- `rbp_decoder_init`, in a build that has `RBP_WITH_ICO` or not; the caller's memory is big enough. -/
def rbpDecoderInit (ico : Ico) (withIco : Bool) (d : RbpDecoder ico) (size : UInt32)
    (format : Option AudioFormat) : DecodeResult × RbpDecoder ico :=
  if size ≠ decoderSize ∧ size ≠ legacySize then (.config, d)
  else
    let d : RbpDecoder ico := { size }
    match format with
    | none => (.unsupported, d)
    | some f =>
      if withIco ∧ f.codecId = 2 ∧ f.codecRevision = 1 then
        if size ≠ decoderSize then (.config, d)
        else if f.channels ≠ 1 ∨ f.sampleRate ≠ 16000 ∨ f.config ≠ [] ∨ f.maxUnitBytes ≠ 40 then (.config, d)
        else
          (.ok, { d with
            codecState := some ico.reset, codecId := 2, maxUnitBytes := 40, sampleRate := 16000
            ready := true })
      else if f.codecId ≠ 1 ∨ f.codecRevision ≠ 1 then (.unsupported, d)
      else if f.channels ≠ 1 ∨ (f.sampleRate ≠ 8000 ∧ f.sampleRate ≠ 16000) ∨ f.config.length ≠ 4 ∨
          f.config.getD 2 0 > 88 ∨ f.config.getD 3 0 ≠ 0 ∨ f.maxUnitBytes = 0 ∨
          f.maxUnitBytes > 65536 then (.config, d)
      else
        (.ok, { d with
          ima := Ima.imaStateReset (readInt16 f.config) (f.config.getD 2 0)
          sampleRate := f.sampleRate, maxUnitBytes := f.maxUnitBytes, ready := true })

/-- `rbp_decoder_decode`, with the samples in place of `pcm` and `written`. -/
def rbpDecoderDecode {ico : Ico} (encoded : List UInt8) (capacity : UInt32) (d : RbpDecoder ico) :
    DecodeResult × List Int16 × RbpDecoder ico :=
  if (d.size ≠ decoderSize ∧ d.size ≠ legacySize) ∨ d.abiVersion ≠ 1 ∨ d.ready = false ∨
      encoded = [] ∨ encoded.length > d.maxUnitBytes.toNat then (.input, [], d)
  else if d.size = decoderSize ∧ d.codecId = 2 then
    if encoded.length ≠ 40 then (.input, [], d)
    else if capacity < 320 then (.capacity, [], d)
    else
      match d.codecState.bind fun s => ico.decode s encoded with
      | none => (.input, [], d)
      | some (samples, s) => (.ok, samples, { d with codecState := some s })
  else if capacity.toNat < encoded.length * 2 then (.capacity, [], d)
  else
    match Ima.imaDecode (some d.ima) encoded capacity.toNat with
    | none => (.input, [], d)
    | some (samples, ima) => (.ok, samples, { d with ima })

end RemoteBridge
