import RemoteBridge.Client.StreamDecoders
import RemoteBridge.Properties.ImaAgreement
import RemoteBridge.Properties.VoiceCallbacks

/-!
# The reference of the decoders

A format sets the state of a unit decoder, and a string of bytes is decoded from there; whole units can be
decoded one after the other.  The formats that set a state are the same for the decoders in Python, .NET and
C.

The reference is a function of a coding, a state and a string: `frames` cuts the string into the frames of
the coding and `decode` decodes them from the first to the last, each from the state that the one before has
left.  It has no units and no fragments, and so no place where they could be cut wrongly.  `Continues` says
of a format that it may follow a stream at a given place.

Where a decoder differs from the reference in form, it is in how it holds its state.  `imaSeed` is the seed of
an ADPCM stream as all of them read it from a format.

The step of the ADPCM code itself, with its tables, is the subject of `ImaAgreement`.
-/

namespace RemoteBridge

open Python (AudioStream)

/-! ## Formats -/

namespace Dotnet

namespace AudioFormat

/-- The format as the Python client reads it. -/
def py (f : AudioFormat) : Python.AudioFormat where
  streamId := f.stream.toNat
  epoch := f.epoch.toNat
  codecId := f.codec.toNat
  codecRevision := f.revision.toNat
  sampleRate := f.rate.toNat
  channels := f.channels.toNat
  config := f.config
  maxUnitBytes := f.maxUnit.toNat
  firstSampleIndex := f.firstSample.toNat
  capturedUs := f.capturedUs.toNat
  firstUnitSeq := f.firstUnit.toNat

/-- The format as an `rbp_audio_format_t`. -/
def c (f : AudioFormat) : RemoteBridge.AudioFormat where
  codecId := f.codec
  sampleRate := f.rate
  maxUnitBytes := f.maxUnit
  codecRevision := f.revision
  channels := f.channels
  config := f.config

/-- The codec parameters a host decodes, with the native decoder or without it. -/
def Decodable (available : Bool) (f : AudioFormat) : Prop :=
  f.revision = 1 ∧ f.channels = 1 ∧
    (f.codec = 1 ∧ (f.rate = 8000 ∨ f.rate = 16000) ∧ (0 < f.maxUnit.toNat ∧ f.maxUnit.toNat ≤ 65536) ∧
        f.config.length = 4 ∧ f.config.getD 2 0 ≤ 88 ∧ f.config.getD 3 0 = 0 ∨
      f.codec = 2 ∧ f.rate = 16000 ∧ f.maxUnit = 40 ∧ f.config = [] ∧ available = true)

/-- The place in its stream a format belongs to. -/
def Continues (f : AudioFormat) (stream epoch unit samples offset : Nat) : Prop :=
  stream ≠ 0 ∧ f.stream.toNat = stream ∧ f.epoch.toNat = epoch + 1 ∧ f.firstUnit.toNat = unit ∧
    f.firstSample.toNat = samples ∧ offset = 0

end AudioFormat

/-- The end as the Python client reads it. -/
def AudioEnd.py (e : AudioEnd) : Python.AudioEnd where
  streamId := e.stream.toNat
  reason := e.reason.toNat
  deliveredEncodedBytes := e.encodedBytes.toNat
  endedUs := e.endedUs.toNat
  deliveredUnits := e.units.toNat
  deliveredSamples := e.samples.toNat
  finalEpoch := e.epoch.toNat

end Dotnet

/-! ## The reference -/

/-- The state of a unit decoder. -/
inductive Coding (ico : Ico) where
  | ima (s : Ima.State)
  | native (s : ico.State)

/-- The IMA state the configuration of a format sets. -/
def imaSeed (config : List UInt8) : Ima.State where
  predictor := (readInt16 config).toInt
  index := min (config.getD 2 0).toNat 88
  predictor_ge := Int16.le_toInt _
  predictor_le := Int16.toInt_le _
  index_le := Nat.min_le_right _ _

/-- The state a format sets. -/
def Coding.of (ico : Ico) (f : Dotnet.AudioFormat) : Coding ico :=
  if f.codec = 2 then .native ico.reset else .ima (imaSeed f.config)

namespace Coding

variable {ico : Ico}

/-- The native decoder over `n` frames. -/
def frames : Nat → ico.State → List UInt8 → List Int16 × ico.State
  | 0, s, _ => ([], s)
  | n + 1, s, bytes =>
    let (pcm, s) := ico.decodeFrame s (bytes.take 40)
    let (rest, s) := frames n s (bytes.drop 40)
    (pcm.toList ++ rest, s)

/-- The samples of a string of bytes as PCM16LE, and the state behind them. -/
def decode : Coding ico → List UInt8 → List UInt8 × Coding ico
  | .ima s, bytes => ((s.decode bytes).1.flatMap Ima.le16, .ima (s.decode bytes).2)
  | .native s, bytes =>
    (pcm16 (frames (bytes.length / 40) s bytes).1, .native (frames (bytes.length / 40) s bytes).2)

end Coding

/-! ## Strings in parts -/

@[simp] lemma pcm16_append (a b : List Int16) : pcm16 (a ++ b) = pcm16 a ++ pcm16 b :=
  List.flatMap_append

namespace Coding

variable {ico : Ico}

/-- The units of a codec: the native decoder takes frames of 40 bytes. -/
def Fits : Coding ico → List UInt8 → Prop
  | .ima _, _ => True
  | .native _, unit => unit.length = 40

/-- Whole units. -/
def Whole : Coding ico → List UInt8 → Prop
  | .ima _, _ => True
  | .native _, bytes => 40 ∣ bytes.length

lemma frames_append (n m : Nat) (s : ico.State) (bytes bytes' : List UInt8)
    (hlen : bytes.length = 40 * n) :
    frames (n + m) s (bytes ++ bytes') =
      ((frames n s bytes).1 ++ (frames m (frames n s bytes).2 bytes').1,
        (frames m (frames n s bytes).2 bytes').2) := by
  induction n generalizing s bytes with
  | zero =>
    rw [List.length_eq_zero_iff.mp hlen, Nat.zero_add]
    rfl
  | succ n ih =>
    have htake : (bytes ++ bytes').take 40 = bytes.take 40 := List.take_append_of_le_length (by omega)
    have hdrop : (bytes ++ bytes').drop 40 = bytes.drop 40 ++ bytes' :=
      List.drop_append_of_le_length (by omega)
    have hrest : (bytes.drop 40).length = 40 * n := by rw [List.length_drop]; omega
    rw [Nat.succ_add]
    simp only [frames, htake, hdrop]
    rw [ih _ _ hrest, List.append_assoc]

/-- Decoding whole units leaves a codec of the same kind. -/
lemma fits_decode (c : Coding ico) (bytes unit : List UInt8) :
    (c.decode bytes).2.Fits unit ↔ c.Fits unit := by
  cases c <;> rfl

lemma whole_append {c : Coding ico} {bytes unit : List UInt8} (hw : c.Whole bytes) (hu : c.Fits unit) :
    c.Whole (bytes ++ unit) := by
  cases c with
  | ima s => trivial
  | native s =>
    show 40 ∣ (bytes ++ unit).length
    rw [List.length_append, show unit.length = 40 from hu]
    exact (Nat.dvd_add_right hw).mpr dvd_rfl

/-- A string can be decoded in parts, behind whole units. -/
lemma decode_append (c : Coding ico) {bytes : List UInt8} (hw : c.Whole bytes) (bytes' : List UInt8) :
    c.decode (bytes ++ bytes') =
      ((c.decode bytes).1 ++ ((c.decode bytes).2.decode bytes').1, ((c.decode bytes).2.decode bytes').2) := by
  cases c with
  | ima s =>
    simp only [decode, Ima.decode_append, List.flatMap_append]
  | native s =>
    obtain ⟨n, hn⟩ := hw
    have hcount : (bytes ++ bytes').length / 40 = n + bytes'.length / 40 := by
      rw [List.length_append, hn, Nat.mul_add_div (by omega)]
    have hfirst : bytes.length / 40 = n := by rw [hn, Nat.mul_div_cancel_left _ (by omega)]
    simp only [decode, hcount, hfirst]
    rw [frames_append n _ s bytes bytes' hn, pcm16_append]

/-! ## One unit -/

/-- The unit decoder of Python in a state. -/
def py : Coding ico → Python.UnitDecoder ico
  | .ima s => .ima (Ima.ImaDecoder.of s)
  | .native s => .native s

lemma py_decode (c : Coding ico) {unit : List UInt8} (hu : c.Fits unit) :
    c.py.decode unit = .ok ((c.decode unit).1, (c.decode unit).2.py) := by
  cases c with
  | ima s =>
    simp only [py, Python.UnitDecoder.decode, Ima.imaDecoder_decode, decode]
  | native s =>
    have hlen : unit.length = 40 := hu
    have htake : unit.take 40 = unit := List.take_of_length_le (by omega)
    simp [py, Python.UnitDecoder.decode, Ico.decode, hlen, decode, frames, htake]

/-- The unit decoder of .NET in a state. -/
def Net (c : Coding ico) (d : Dotnet.AudioDecoder ico) : Prop :=
  match c with
  | .ima s => d.native = none ∧ d.coder = Ima.AudioDecoder.of s
  | .native s => d.native = some s

lemma Net.congr {c : Coding ico} {d d' : Dotnet.AudioDecoder ico} (h : c.Net d)
    (hnative : d'.native = d.native) (hcoder : d'.coder = d.coder) : c.Net d' := by
  cases c with
  | ima s => exact ⟨hnative.trans h.1, hcoder.trans h.2⟩
  | native s => exact hnative.trans h

/-- The unit decoder of .NET behind a unit. -/
def netSet (d : Dotnet.AudioDecoder ico) (c : Coding ico) : Dotnet.AudioDecoder ico :=
  { d with
    coder := match c with
      | .ima s => Ima.AudioDecoder.of s
      | .native _ => d.coder
    native := match c with
      | .ima _ => none
      | .native s => some s }

lemma net_netSet (d : Dotnet.AudioDecoder ico) (c : Coding ico) : c.Net (netSet d c) := by
  cases c with
  | ima s => exact ⟨rfl, rfl⟩
  | native s => rfl

lemma net_decodeUnit {c : Coding ico} {d : Dotnet.AudioDecoder ico} (hd : c.Net d) {size : UInt32}
    (hu : c.Fits (d.buffer.take size.toNat)) (hroom : c.Fits d.buffer ∨ ∃ s, c = .ima s) :
    d.decodeUnit size =
      some ((c.decode (d.buffer.take size.toNat)).1,
        netSet d (c.decode (d.buffer.take size.toNat)).2) := by
  cases c with
  | ima s =>
    obtain ⟨hnative, hcoder⟩ := hd
    simp only [Dotnet.AudioDecoder.decodeUnit, hnative, hcoder, Ima.audioDecoder_decode]
    rfl
  | native s =>
    have hlen : d.buffer.length = 40 := hroom.resolve_right (by simp)
    have htake : d.buffer.take size.toNat = d.buffer := by
      have hunit : (d.buffer.take size.toNat).length = 40 := hu
      rw [List.length_take] at hunit
      exact List.take_of_length_le (by omega)
    have hframe : d.buffer.take 40 = d.buffer := List.take_of_length_le (by omega)
    have hnative : d.native = some s := hd
    simp only [Dotnet.AudioDecoder.decodeUnit, hnative, htake, Ico.decode, hlen, decode, frames, hframe]
    simp [netSet]

end Coding

/-! ## Formats are accepted alike -/

section Formats

variable {ico : Ico} {available : Bool} {f : Dotnet.AudioFormat}

/-- The codec parameters that .NET accepts. -/
lemma refusesCodec_iff :
    ((if f.codec == 1 then
        (f.rate != 8000 && f.rate != 16000) || (f.maxUnit == 0 || f.maxUnit > 65536) ||
          f.config.length != 4 || f.config.getD 2 0 > 88 || f.config.getD 3 0 != 0
      else f.codec != 2 || f.rate != 16000 || f.maxUnit != 40 || f.config.length != 0) = false ∧
        (f.codec = 2 → available = true)) ↔
      (f.codec = 1 ∧ (f.rate = 8000 ∨ f.rate = 16000) ∧
          (0 < f.maxUnit.toNat ∧ f.maxUnit.toNat ≤ 65536) ∧ f.config.length = 4 ∧
          f.config.getD 2 0 ≤ 88 ∧ f.config.getD 3 0 = 0 ∨
        f.codec = 2 ∧ f.rate = 16000 ∧ f.maxUnit = 40 ∧ f.config = [] ∧ available = true) := by
  have hzero : f.maxUnit = 0 ↔ f.maxUnit.toNat = 0 := by rw [← UInt32.toNat_inj]; rfl
  have hmost : f.maxUnit ≤ 65536 ↔ f.maxUnit.toNat ≤ 65536 := UInt32.le_iff_toNat_le
  by_cases h1 : f.codec = 1
  · simp [h1, hzero, hmost, Nat.pos_iff_ne_zero, UInt8.not_lt, UInt32.not_lt]
    tauto
  · simp only [beq_iff_eq, h1, if_false, false_and, false_or, Bool.or_eq_false_iff, bne_eq_false_iff_eq,
      List.length_eq_zero_iff]
    tauto

variable (available f) in
/-- .NET accepts the formats that can be decoded and stand in their place. -/
lemma refusesFormat_iff (d : Dotnet.AudioDecoder ico) (hepoch : d.epoch.toNat + 1 < 2 ^ 32) :
    (d.refusesFormat f = false ∧ (f.codec = 2 → available = true)) ↔
      f.Decodable available ∧
        f.Continues (d.format.getD f).stream.toNat d.epoch.toNat d.unit.toNat d.samples.toNat
          d.offset.toNat := by
  have hstream : (d.format.any fun format => f.stream != format.stream) = false ↔
      f.stream.toNat = (d.format.getD f).stream.toNat := by
    cases d.format with
    | none => simp
    | some format => simp [UInt32.toNat_inj]
  have hnext : (d.epoch + 1).toNat = d.epoch.toNat + 1 := by
    rw [UInt32.toNat_add]
    exact Nat.mod_eq_of_lt hepoch
  have hzero (x : UInt32) : x = 0 ↔ x.toNat = 0 := by rw [← UInt32.toNat_inj]; rfl
  unfold Dotnet.AudioDecoder.refusesFormat Dotnet.AudioFormat.Decodable Dotnet.AudioFormat.Continues
  rw [← refusesCodec_iff]
  simp only [Bool.or_eq_false_iff, beq_eq_false_iff_ne, bne_eq_false_iff_eq, hstream]
  rw [← UInt32.toNat_inj (a := f.epoch), hnext, ← UInt32.toNat_inj (a := f.firstUnit),
    ← UInt64.toNat_inj (a := f.firstSample), hzero d.offset, ne_eq, hzero f.stream]
  constructor
  · rintro ⟨⟨⟨⟨⟨⟨⟨⟨⟨hs, he⟩, hu⟩, hf⟩, ho⟩, hsame⟩, hr⟩, hch⟩, hcodec⟩, hav⟩
    exact ⟨⟨hr, hch, hcodec, hav⟩, hsame ▸ hs, hsame, he, hu, hf, ho⟩
  · rintro ⟨⟨hr, hch, hcodec, hav⟩, hs, hsame, he, hu, hf, ho⟩
    exact ⟨⟨⟨⟨⟨⟨⟨⟨⟨hsame ▸ hs, he⟩, hu⟩, hf⟩, ho⟩, hsame⟩, hr⟩, hch⟩, hcodec⟩, hav⟩

/-- What the Python decoder holds for its stream decoder. -/
structure Serving (available : Bool) (s : AudioStream) : Prop where
  accepted : s.accepted = Python.supportedCodecs available
  maxUnit : s.maxUnit = 65536
  unit_pos : 0 < s.unit

/-- The ranges of what can be decoded. -/
lemma Dotnet.AudioFormat.Decodable.ranges (hdec : f.Decodable available) :
    f.revision.toNat = 1 ∧ f.channels.toNat = 1 ∧ (f.codec.toNat = 1 ∨ f.codec.toNat = 2) ∧
      (f.rate.toNat = 8000 ∨ f.rate.toNat = 16000) ∧ 0 < f.maxUnit.toNat ∧ f.maxUnit.toNat ≤ 65536 ∧
      f.config.length ≤ 4 := by
  obtain ⟨hrev, hch, hcodec⟩ := hdec
  refine ⟨by rw [hrev]; rfl, by rw [hch]; rfl, ?_⟩
  obtain ⟨hc, hr, hm, hl, -⟩ | ⟨hc, hr, hm, hl, -⟩ := hcodec
  · refine ⟨.inl (by rw [hc]; rfl), ?_, hm.1, hm.2, hl.le⟩
    exact hr.imp (fun hr => by rw [hr]; rfl) fun hr => by rw [hr]; rfl
  · refine ⟨.inr (by rw [hc]; rfl), .inr (by rw [hr]; rfl), by rw [hm]; decide, by rw [hm]; decide, ?_⟩
    rw [hl]
    exact Nat.zero_le _

lemma py_checked (hdec : f.Decodable available) (hstream : 0 < f.stream.toNat) (hepoch : 0 < f.epoch.toNat)
    (hunit : 0 < f.firstUnit.toNat) : f.py.checked = .ok f.py := by
  obtain ⟨hrev, hch, hcodec, hrate, hpos, hmax, hconfig⟩ := hdec.ranges
  have h1 := f.stream.toNat_lt
  have h2 := f.epoch.toNat_lt
  have h3 := f.firstUnit.toNat_lt
  have h4 := f.firstSample.toNat_lt
  have h5 := f.capturedUs.toNat_lt
  unfold Python.AudioFormat.checked
  refine if_pos ?_
  simp only [Dotnet.AudioFormat.py, Python.unknownCount, Python.unknownIndex]
  omega

lemma py_format_ok {s : AudioStream} (hs : Serving available s) (hdec : f.Decodable available)
    (hcont : f.Continues s.streamId s.epoch s.unit s.samples s.offset) :
    s.format f.py = .ok { s with fmt := f.py, epoch := f.epoch.toNat } := by
  obtain ⟨hne, hstream, hepoch, hunit, hfirst, hoffset⟩ := hcont
  have hchecked : f.py.checked = .ok f.py :=
    py_checked hdec (by omega) (by omega) (by have := hs.unit_pos; omega)
  have hcodec : ¬ ((s.accepted.all fun codec => codec.1 != f.py.codecId || codec.2 != f.py.codecRevision) =
      true ∨ f.py.maxUnitBytes > s.maxUnit) := by
    obtain ⟨hrev, -, hcodec⟩ := hdec
    rw [hs.accepted, hs.maxUnit]
    obtain ⟨hc, -, ⟨-, hm⟩, -⟩ | ⟨hc, -, hm, -, hav⟩ := hcodec
    · cases available <;> simp [Python.supportedCodecs, Dotnet.AudioFormat.py, hc, hrev, hm]
    · simp [Python.supportedCodecs, Dotnet.AudioFormat.py, hc, hrev, hm, hav]
  unfold AudioStream.format
  rw [hchecked]
  show (if _ then _ else _) = _
  rw [if_neg hcodec, if_neg (by simp [Dotnet.AudioFormat.py]; omega)]
  rfl

lemma makeDecoder_ok (hdec : f.Decodable available) :
    Python.makeDecoder ico available f.py = .ok (Coding.of ico f).py := by
  obtain ⟨hrev, hch, hcodec⟩ := hdec
  obtain ⟨hc, hr, -, hl, hi, hz⟩ | ⟨hc, hr, hm, hl, hav⟩ := hcodec
  · have hcodec : f.py.codecId = 1 := by simp [Dotnet.AudioFormat.py, hc]
    have hof : Coding.of ico f = .ima (imaSeed f.config) := if_neg (by rw [hc]; decide)
    have hrate : f.py.sampleRate = 8000 ∨ f.py.sampleRate = 16000 := by
      rcases hr with hr | hr <;> simp [Dotnet.AudioFormat.py, hr]
    have hindex : min (f.config.getD 2 0).toNat 88 = (f.config.getD 2 0).toNat :=
      Nat.min_eq_left (UInt8.le_iff_toNat_le.mp hi)
    have hima : Python.imaDecoder f.py = .ok (Ima.ImaDecoder.of (imaSeed f.config)) := by
      unfold Python.imaDecoder
      rw [if_neg (by simp [Dotnet.AudioFormat.py, hc, hrev]),
        if_neg (by simp [Dotnet.AudioFormat.py, hch, hl] at hrate ⊢; omega),
        if_neg (by simp [Dotnet.AudioFormat.py] at hi hz ⊢; exact ⟨hi, hz⟩)]
      simp only [Ima.ImaDecoder.of, imaSeed, Dotnet.AudioFormat.py, hindex]
    unfold Python.makeDecoder
    rw [if_pos hcodec, hima, hof]
    rfl
  · have hof : Coding.of ico f = .native ico.reset := if_pos hc
    rw [hof]
    simp [Python.makeDecoder, Dotnet.AudioFormat.py, hc, hrev, hch, hr, hm, hl, hav, Coding.py]

/-- What `make_decoder` takes, of a revision 1 and a sensible size. -/
lemma decodable_of_makeDecoder {d : Python.UnitDecoder ico} (hmin : 0 < f.maxUnit.toNat)
    (hmax : f.maxUnit.toNat ≤ 65536) (hd : Python.makeDecoder ico available f.py = .ok d) :
    f.Decodable available := by
  have hword (x y : UInt32) : x.toNat = y.toNat ↔ x = y := UInt32.toNat_inj
  have hcode (n : UInt32) : f.py.codecId = n.toNat ↔ f.codec = n := hword _ _
  have hrate (n : UInt32) : f.py.sampleRate = n.toNat ↔ f.rate = n := hword _ _
  have hrev : f.py.codecRevision = (1 : UInt16).toNat ↔ f.revision = 1 := UInt16.toNat_inj
  have hch : f.py.channels = (1 : UInt8).toNat ↔ f.channels = 1 := UInt8.toNat_inj
  unfold Python.makeDecoder at hd
  split_ifs at hd with h1 h2 hn hav
  · have hima : ∃ e, Python.imaDecoder f.py = .ok e := by
      cases himas : Python.imaDecoder f.py with
      | ok e => exact ⟨e, rfl⟩
      | error e =>
        rw [himas] at hd
        cases hd
    obtain ⟨e, hima⟩ := hima
    unfold Python.imaDecoder at hima
    split_ifs at hima with hc hparam hconfig
    push Not at hc hparam hconfig
    refine ⟨hrev.mp hc.2, hch.mp hparam.2.1, .inl ⟨(hcode 1).mp h1, ?_, ⟨hmin, hmax⟩, hparam.2.2,
      UInt8.not_lt.mp hconfig.1, hconfig.2⟩⟩
    by_cases h8 : f.py.sampleRate = 8000
    · exact .inl ((hrate 8000).mp h8)
    · exact .inr ((hrate 16000).mp (hparam.1 h8))
  · push Not at hn
    exact ⟨hrev.mp h2.2, hch.mp hn.2.1, .inr ⟨(hcode 2).mp h2.1, (hrate 16000).mp hn.1,
      (hword f.maxUnit 40).mp hn.2.2.2, hn.2.2.1, hav⟩⟩

lemma py_format_inv {s s' : AudioStream} {d : Python.UnitDecoder ico}
    (h : s.format f.py = .ok s') (hd : Python.makeDecoder ico available f.py = .ok d) :
    f.Decodable available ∧ f.Continues s.streamId s.epoch s.unit s.samples s.offset := by
  unfold AudioStream.format at h
  obtain ⟨f', hchecked, hok⟩ := Python.ok_of_bind h
  unfold Python.AudioFormat.checked at hchecked
  split_ifs at hchecked with hbounds
  cases hchecked
  obtain ⟨hpos, -, -, -, -, -, -, -, -, -, -, -, -, hmin, hmax, -⟩ := hbounds
  split_ifs at hok with hcodec hboundary
  push Not at hboundary
  obtain ⟨hstream, hepoch, hoffset, hfirst, hsamples⟩ := hboundary
  exact ⟨decodable_of_makeDecoder hmin hmax hd, hstream ▸ hpos.ne', hstream, hepoch, hfirst, hsamples,
    hoffset⟩

end Formats

end RemoteBridge
