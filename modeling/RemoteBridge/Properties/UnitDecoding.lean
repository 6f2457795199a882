import RemoteBridge.Properties.StreamDecoding

/-!
# The C decoder

`rbp_decoder.c` takes the formats of the stream decoders, and decodes whole units like them
(`rbpDecoder_reference`).

The C library is given units that its caller has put together, so there are no fragments here.  Two things
are shown of its decoder.  It takes exactly the formats that the Python and the .NET decoder take at the begin
of a stream, by comparing the checks for each coding.  And a row of units gives the samples of the reference
for their bytes in a row, since after each unit the decoder is in the state of the reference
(`Coding.InC`).

A caller that passes the smaller decoder of an older version gets the same decoder without the second codec.
-/

namespace RemoteBridge

section Units

variable {ico : Ico} {withIco : Bool} {f : Dotnet.AudioFormat} {size : UInt32}

/-- Units through the C decoder, each with the room for its samples; `none` if one is refused. -/
def rbpDecodeUnits : RbpDecoder ico → List (List UInt8 × UInt32) → Option (List Int16)
  | _, [] => some []
  | d, (unit, capacity) :: units =>
    match rbpDecoderDecode unit capacity d with
    | (.ok, samples, d) => (rbpDecodeUnits d units).map (samples ++ ·)
    | _ => none

/-- The C decoder in a state. -/
def Coding.InC (c : Coding ico) (d : RbpDecoder ico) : Prop :=
  match c with
  | .ima s => d.ima = Ima.ImaState.of s ∧ ¬ (d.size = decoderSize ∧ d.codecId = 2)
  | .native s => d.size = decoderSize ∧ d.codecId = 2 ∧ d.codecState = some s

/-- The C decoder is set to a format and a state. -/
structure RbpDecoder.Set (d : RbpDecoder ico) (f : Dotnet.AudioFormat) (c : Coding ico) : Prop where
  size : d.size = decoderSize ∨ d.size = legacySize
  abiVersion : d.abiVersion = 1
  ready : d.ready = true
  maxUnit : d.maxUnitBytes = f.maxUnit
  state : c.InC d

lemma imaStateReset_seed (config : List UInt8) :
    Ima.imaStateReset (readInt16 config) (config.getD 2 0) = Ima.ImaState.of (imaSeed config) := by
  have hindex : (if config.getD 2 0 > 88 then (88 : UInt8) else config.getD 2 0) =
      UInt8.ofNat (min (config.getD 2 0).toNat 88) := by
    have h88 : (88 : UInt8).toNat = 88 := rfl
    split
    · next h =>
      rw [gt_iff_lt, UInt8.lt_iff_toNat_lt] at h
      rw [Nat.min_eq_right (by omega)]
      rfl
    · next h =>
      rw [gt_iff_lt, UInt8.lt_iff_toNat_lt] at h
      rw [Nat.min_eq_left (by omega), UInt8.ofNat_toNat]
  unfold Ima.imaStateReset Ima.ImaState.of
  rw [hindex]
  exact congrArg (fun x => Ima.ImaState.mk x _) (Int16.ofInt_toInt _).symm

/-- The C decoder takes what can be decoded; a structure of the old size has no room for the native state. -/
lemma rbpDecoderInit_ok (d : RbpDecoder ico) (hsize : size = decoderSize ∨ size = legacySize)
    (hdec : f.Decodable (withIco && size == decoderSize)) :
    ∃ d', rbpDecoderInit ico withIco d size (some f.c) = (.ok, d') ∧ d'.Set f (Coding.of ico f) := by
  obtain ⟨hrev, hch, hcodec⟩ := hdec
  unfold rbpDecoderInit
  rw [if_neg (by tauto)]
  dsimp only [Dotnet.AudioFormat.c]
  obtain ⟨hc, hr, ⟨hpos, hmax⟩, hl, hi, hz⟩ | ⟨hc, hr, hm, hl, hav⟩ := hcodec
  · have h1 : ¬ (withIco = true ∧ f.codec = 2 ∧ f.revision = 1) := by rw [hc]; simp
    have hunit : f.maxUnit ≠ 0 := fun h0 => by rw [h0] at hpos; exact absurd hpos (by decide)
    have hle : ¬ f.maxUnit > 65536 := UInt32.not_lt.mpr (UInt32.le_iff_toNat_le.mpr hmax)
    have hi' : ¬ f.config.getD 2 0 > 88 := UInt8.not_lt.mpr hi
    have hrate : ¬ (f.rate ≠ 8000 ∧ f.rate ≠ 16000) := by tauto
    rw [if_neg h1, if_neg (by tauto), if_neg (by tauto)]
    refine ⟨_, rfl, hsize, rfl, rfl, rfl, ?_⟩
    unfold Coding.of
    rw [if_neg (by rw [hc]; decide)]
    exact ⟨imaStateReset_seed _, fun h0 => absurd (show (0 : UInt32) = 2 from h0.2) (by decide)⟩
  · obtain ⟨hico, hfull⟩ := (Bool.and_eq_true _ _).mp hav
    have hfull : size = decoderSize := by simpa using hfull
    rw [if_pos ⟨hico, hc, hrev⟩, if_neg (not_not_intro hfull), if_neg (by tauto)]
    refine ⟨_, rfl, hsize, rfl, rfl, hm.symm, ?_⟩
    unfold Coding.of
    rw [if_pos hc]
    exact ⟨hfull, rfl, rfl⟩

lemma decodable_of_rbpDecoderInit {d : RbpDecoder ico}
    (h : (rbpDecoderInit ico withIco d size (some f.c)).1 = .ok) :
    (size = decoderSize ∨ size = legacySize) ∧ f.Decodable (withIco && size == decoderSize) := by
  unfold rbpDecoderInit at h
  split at h
  · cases h
  · next hsize =>
    refine ⟨by tauto, ?_⟩
    dsimp only [Dotnet.AudioFormat.c] at h
    split_ifs at h with hico hfull hparam hcodec hparam
    · push Not at hfull hparam
      exact ⟨hico.2.2, hparam.1, .inr ⟨hico.2.1, hparam.2.1, hparam.2.2.2, hparam.2.2.1, by
        rw [hico.1, hfull]
        rfl⟩⟩
    · push Not at hcodec hparam
      obtain ⟨hch, hrate, hl, hi, hz, hunit, hmax⟩ := hparam
      have hmax : f.maxUnit.toNat ≤ (65536 : UInt32).toNat := UInt32.le_iff_toNat_le.mp (UInt32.not_lt.mp hmax)
      refine ⟨hcodec.2, hch, .inl ⟨hcodec.1, ?_, ⟨?_, hmax⟩, hl, UInt8.not_lt.mp hi, hz⟩⟩
      · by_cases h8 : f.rate = 8000
        · exact .inl h8
        · exact .inr (hrate h8)
      · exact Nat.pos_of_ne_zero fun h0 => hunit (UInt32.toNat_inj.mp h0)

/-- Samples of a state are those of its 16 bit words. -/
lemma pcm16_ofInt (s : Ima.State) (data : List UInt8) :
    pcm16 ((s.decode data).1.map Int16.ofInt) = (s.decode data).1.flatMap Ima.le16 := by
  unfold pcm16
  rw [List.flatMap_map]
  refine List.flatMap_congr fun x hx => ?_
  obtain ⟨hge, hle⟩ := Ima.sample_range s data x hx
  rw [Ima.toInt_ofInt16 hge hle]

/-- One unit. -/
lemma RbpDecoder.Set.decode {d : RbpDecoder ico} {c : Coding ico} (h : d.Set f c) {unit : List UInt8}
    {capacity : UInt32} (hne : unit ≠ []) (hfits : c.Fits unit) (hlen : unit.length ≤ f.maxUnit.toNat)
    (hroom : unit.length * 2 ≤ capacity.toNat) (hframe : 320 ≤ capacity.toNat ∨ ∃ s, c = .ima s) :
    ∃ samples d', rbpDecoderDecode unit capacity d = (.ok, samples, d') ∧ d'.Set f (c.decode unit).2 ∧
      pcm16 samples = (c.decode unit).1 := by
  have hsize := h.size
  have hinput : ¬ ((d.size ≠ decoderSize ∧ d.size ≠ legacySize) ∨ d.abiVersion ≠ 1 ∨ d.ready = false ∨
      unit = [] ∨ unit.length > d.maxUnitBytes.toNat) := by
    rw [h.abiVersion, h.ready, h.maxUnit]
    simp only [hne, ne_eq, not_true_eq_false, Bool.true_eq_false, false_or, not_or]
    exact ⟨by tauto, by omega⟩
  unfold rbpDecoderDecode
  rw [if_neg hinput]
  cases c with
  | ima s =>
    obtain ⟨hima, hno⟩ := h.state
    rw [if_neg hno, if_neg (by omega), hima, Ima.imaDecode, Option.getD_some,
      Ima.imaDecodeLoop_eq s capacity.toNat 0 unit (by omega)]
    exact ⟨_, _, rfl, ⟨h.size, h.abiVersion, h.ready, h.maxUnit, rfl, hno⟩, pcm16_ofInt s unit⟩
  | native s =>
    obtain ⟨hfull, hcodec, hstate⟩ := h.state
    have hlen40 : unit.length = 40 := hfits
    have hcap : ¬ capacity < 320 := by
      rw [UInt32.not_lt, UInt32.le_iff_toNat_le]
      exact hframe.resolve_right (by simp)
    have htake : unit.take 40 = unit := List.take_of_length_le (by omega)
    rw [if_pos ⟨hfull, hcodec⟩, if_neg (not_not_intro hlen40), if_neg hcap, hstate]
    simp only [Option.bind_some, Ico.decode, hlen40, ne_eq, not_true_eq_false, if_false]
    refine ⟨_, _, rfl, ⟨h.size, h.abiVersion, h.ready, h.maxUnit, ?_⟩, ?_⟩
    · simp only [Coding.decode, hlen40, Coding.frames, htake]
      exact ⟨hfull, hcodec, rfl⟩
    · simp only [Coding.decode, hlen40, Coding.frames, htake]
      simp

/-- Units that a format allows, with room for their samples. -/
def Dotnet.AudioFormat.Takes (f : Dotnet.AudioFormat) (unit : List UInt8) (capacity : UInt32) : Prop :=
  unit ≠ [] ∧ unit.length ≤ f.maxUnit.toNat ∧ unit.length * 2 ≤ capacity.toNat ∧
    (f.codec = 2 → unit.length = 40 ∧ 320 ≤ capacity.toNat)

lemma RbpDecoder.Set.units {d : RbpDecoder ico} {done : List UInt8}
    (h : d.Set f ((Coding.of ico f).decode done).2) (hwhole : (Coding.of ico f).Whole done)
    (units : List (List UInt8 × UInt32)) (hunits : ∀ u ∈ units, f.Takes u.1 u.2) :
    ∃ samples, rbpDecodeUnits d units = some samples ∧
      ((Coding.of ico f).decode (done ++ (units.map Prod.fst).flatten)).1 =
        ((Coding.of ico f).decode done).1 ++ pcm16 samples := by
  induction units generalizing d done with
  | nil => exact ⟨[], rfl, by simp [pcm16]⟩
  | cons u units ih =>
    obtain ⟨unit, capacity⟩ := u
    obtain ⟨hne, hlen, hroom, hnative⟩ := hunits _ List.mem_cons_self
    have hfits : (Coding.of ico f).Fits unit := by
      unfold Coding.of
      split
      · next hc => exact (hnative hc).1
      · trivial
    have hframe : 320 ≤ capacity.toNat ∨ ∃ s, ((Coding.of ico f).decode done).2 = .ima s := by
      by_cases hc : f.codec = 2
      · exact .inl (hnative hc).2
      · refine .inr ⟨((imaSeed f.config).decode done).2, ?_⟩
        unfold Coding.of
        rw [if_neg hc]
        rfl
    obtain ⟨samples, d', hdecode, hset, hpcm⟩ :=
      h.decode hne ((Coding.fits_decode _ _ _).mpr hfits) hlen hroom hframe
    have happend := (Coding.of ico f).decode_append hwhole unit
    rw [show (((Coding.of ico f).decode done).2.decode unit).2 = ((Coding.of ico f).decode (done ++ unit)).2 by
      rw [happend]] at hset
    obtain ⟨rest, hrest, href⟩ := ih hset (Coding.whole_append hwhole hfits)
      fun u hu => hunits u (List.mem_cons_of_mem _ hu)
    refine ⟨samples ++ rest, ?_, ?_⟩
    · unfold rbpDecodeUnits
      rw [hdecode]
      dsimp only
      rw [hrest]
      rfl
    · rw [List.map_cons, List.flatten_cons, ← List.append_assoc, href, happend, pcm16_append, hpcm,
        List.append_assoc]

end Units

/-- The stream decoders take a first format exactly if it can be decoded. -/
lemma decodeStream_starts {ico : Ico} (available : Bool) {f : Dotnet.AudioFormat} (hs : f.stream ≠ 0)
    (he : f.epoch = 1) (hu : f.firstUnit = 1) (hf : f.firstSample = 0) :
    Dotnet.decodeStream ico available f [] ≠ [none] ↔ f.Decodable available := by
  refine ⟨fun hne => ?_, fun hdec hnone => ?_⟩
  · obtain hnone | ⟨p, n, hpaired, -⟩ := decodeStream_cases ico available f
    · exact absurd (hnone []).2 hne
    · exact hpaired.decodable
  · have hcont : f.Continues f.stream.toNat 0 1 0 0 := by
      refine ⟨fun h0 => hs (UInt32.toNat_inj.mp h0), rfl, ?_, ?_, ?_, rfl⟩
      · rw [he]
        rfl
      · rw [hu]
        rfl
      · rw [hf]
        rfl
    have href := ((refusesFormat_iff available f ({} : Dotnet.AudioDecoder ico) (by
      show (0 : UInt32).toNat + 1 < 2 ^ 32
      decide)).mpr ⟨hdec, hcont⟩).1
    unfold Dotnet.decodeStream at hnone
    rw [net_setFormat_ok rfl hdec href] at hnone
    cases hnone

/-- **The C decoder decodes the same reference.**  `rbp_decoder_init` takes a format, with either size of its
structure, exactly if the stream decoders take it as their first, where the native decoder needs the full
size and a build that has it; whole units with room for their samples then give the samples of the reference
of their bytes. -/
theorem rbpDecoder_reference (ico : Ico) (withIco : Bool) (d : RbpDecoder ico) (size : UInt32)
    (f : Dotnet.AudioFormat) :
    let available := withIco && size == decoderSize
    ((rbpDecoderInit ico withIco d size (some f.c)).1 = .ok ↔
        (size = decoderSize ∨ size = legacySize) ∧ f.Decodable available) ∧
      (f.stream ≠ 0 → f.epoch = 1 → f.firstUnit = 1 → f.firstSample = 0 →
        (Dotnet.decodeStream ico available f [] ≠ [none] ↔ f.Decodable available) ∧
          (Python.decodeStream ico available f [] ≠ [none] ↔ f.Decodable available)) ∧
      ((rbpDecoderInit ico withIco d size (some f.c)).1 = .ok →
        ∀ units : List (List UInt8 × UInt32), (∀ u ∈ units, f.Takes u.1 u.2) →
          ∃ samples, rbpDecodeUnits (rbpDecoderInit ico withIco d size (some f.c)).2 units = some samples ∧
            pcm16 samples = ((Coding.of ico f).decode (units.map Prod.fst).flatten).1) := by
  intro available
  refine ⟨⟨decodable_of_rbpDecoderInit, fun ⟨hsize, hdec⟩ => ?_⟩, fun hs he hu hf => ?_,
    fun hok units hunits => ?_⟩
  · obtain ⟨d', hinit, -⟩ := rbpDecoderInit_ok d hsize hdec
    rw [hinit]
  · rw [decodeStream_same ico available f (by decide), and_self]
    exact decodeStream_starts available hs he hu hf
  · obtain ⟨hsize, hdec⟩ := decodable_of_rbpDecoderInit hok
    obtain ⟨d', hinit, hset⟩ := rbpDecoderInit_ok d hsize hdec
    have hnil : (Coding.of ico f).decode [] = ([], Coding.of ico f) := by
      unfold Coding.of
      split <;> rfl
    have hstart : d'.Set f ((Coding.of ico f).decode []).2 := by
      rw [hnil]
      exact hset
    have hwhole : (Coding.of ico f).Whole [] := by
      unfold Coding.of
      split
      · exact dvd_zero 40
      · trivial
    obtain ⟨samples, hsamples, href⟩ := hstart.units hwhole units hunits
    rw [hinit]
    refine ⟨samples, hsamples, ?_⟩
    rw [hnil, List.nil_append, List.nil_append] at href
    exact href.symm

/-- The format and the units of `toneBody` in C; its second format starts the decoder again. -/
theorem rbpDecoder_reference_tone :
    (rbpDecodeUnits (rbpDecoderInit muteIco true { size := 0 } legacySize
        (some (toneFormat 1 1 0 [0x2e, 0xfb, 42, 0]).c)).2 [([0x17], 2), ([0x80], 2)]).map pcm16 =
      some (pcm16 [-1081, -387, -486, -396]) := by
  obtain ⟨samples, hsamples, hpcm⟩ := (rbpDecoder_reference muteIco true { size := 0 } legacySize
    (toneFormat 1 1 0 [0x2e, 0xfb, 42, 0])).2.2 (by decide) [([0x17], 2), ([0x80], 2)] (by
      simp [Dotnet.AudioFormat.Takes, toneFormat])
  rw [hsamples, Option.map_some, hpcm]
  decide +kernel

end RemoteBridge
