import RemoteBridge.Client.Wire
import RemoteBridge.Properties.DecoderReference

/-!
# The stream decoders agree

The reference of a stream takes the bytes of its fragments as one string for each format.  The two stream
decoders accept the same calls and give the samples of the reference, however the string is cut into units
and fragments (`streamDecoders_agree`).

`AudioDecoder` of `codecs.py` puts the checks on fragments, `AudioStream`, and the decoding of units into
two classes; `AudioDecoder.cs` is one class that does both.  Their states are nevertheless the same state
written down twice, and `Paired` says so: the same counts (`Counts`), the same bytes of an incomplete unit,
and decoders that have decoded the same string.  The proof goes call by call.  A call is refused on both
sides or accepted on both, by comparing the two lists of checks one by one; an accepted one leads to paired
states again, and what it returns is the next part of the samples of the reference.

The .NET decoder counts in 32 and 64 bits where the Python one counts without end, so the calls are fewer
than 2 ^ 32.  What is raised is not compared, only that both sides raise.
-/

namespace RemoteBridge

open Python (AudioStream EncodedFragment toNat_get32)

/-! ## Streams -/

/-- What the host is given of a stream behind its START; a fragment comes with the times of its check and of
its taking. -/
inductive StreamCall where
  | data (payload : List UInt8) (checked now : Nat)
  | format (f : Dotnet.AudioFormat)
  | finish (e : Dotnet.AudioEnd)

/-- The samples of a stream: behind each format, the bytes of its fragments as one string. -/
def streamPcm (ico : Ico) : Dotnet.AudioFormat → List UInt8 → List StreamCall → List UInt8
  | f, bytes, [] => ((Coding.of ico f).decode bytes).1
  | f, bytes, .data payload _ _ :: calls => streamPcm ico f (bytes ++ payload.drop 40) calls
  | f, bytes, .format f' :: calls => ((Coding.of ico f).decode bytes).1 ++ streamPcm ico f' [] calls
  | f, bytes, .finish _ :: calls => streamPcm ico f bytes calls

/-! ## Runs -/

/-- The results of calls up to the first that raises. -/
def resultsOf {S C R : Type} (call : C → S → Option R × S) : S → List C → List (Option R)
  | _, [] => []
  | s, c :: calls =>
    match call c s with
    | (none, _) => [none]
    | (some r, s) => some r :: resultsOf call s calls

/-- A call of the Python decoder, whose fragments are parsed first. -/
def Python.AudioDecoder.call {ico : Ico} (available : Bool) (call : StreamCall)
    (d : Python.AudioDecoder ico) : Option (List UInt8) × Python.AudioDecoder ico :=
  match call with
  | .data payload checked now =>
    match EncodedFragment.parse payload with
    | .error _ => (none, d)
    | .ok c =>
      let (r, d) := d.data c checked now
      (r.toOption, d)
  | .format f =>
    let (r, d) := d.format available f.py
    (r.toOption.map fun _ => [], d)
  | .finish e =>
    let (r, d) := d.finish e.py
    (r.toOption.map fun _ => [], d)

/-- A call of the .NET decoder. -/
def Dotnet.AudioDecoder.call {ico : Ico} (available : Bool) (call : StreamCall)
    (d : Dotnet.AudioDecoder ico) : Option (List UInt8) × Dotnet.AudioDecoder ico :=
  match call with
  | .data payload checked now =>
    let (r, d) := d.feed payload checked now
    (r.toOption, d)
  | .format f =>
    let (r, d) := d.setFormat available f
    (r.toOption.map fun _ => [], d)
  | .finish e =>
    let (r, d) := d.finish e
    (r.toOption.map fun _ => [], d)

/-- A stream through a new Python decoder. -/
def Python.decodeStream (ico : Ico) (available : Bool) (f : Dotnet.AudioFormat) (calls : List StreamCall) :
    List (Option (List UInt8)) :=
  match AudioDecoder.init ico available f.py with
  | .error _ => [none]
  | .ok d => resultsOf (AudioDecoder.call available) d calls

/-- A stream through a new .NET decoder. -/
def Dotnet.decodeStream (ico : Ico) (available : Bool) (f : Dotnet.AudioFormat) (calls : List StreamCall) :
    List (Option (List UInt8)) :=
  match AudioDecoder.setFormat available f ({} : AudioDecoder ico) with
  | (.error _, _) => [none]
  | (.ok _, d) => resultsOf (AudioDecoder.call available) d calls

/-! ## The decoders side by side -/

/-- The unit in progress, as `meta` of `feed`. -/
def Dotnet.AudioDecoder.unitMeta {ico : Ico} (n : Dotnet.AudioDecoder ico) : Python.UnitMeta where
  unitSeq := n.unit.toNat
  unitSize := n.size.toNat
  firstSampleIndex := n.samples.toNat
  unitSampleCount := n.unitSamples.toNat
  epoch := n.epoch.toNat

/-- The counters of the two decoders after `k` calls. -/
structure Counts {ico : Ico} (available : Bool) (k : Nat) (s : AudioStream) (n : Dotnet.AudioDecoder ico) :
    Prop where
  serving : Serving available s
  seq : s.seq = n.frame.toNat ∧ n.frame.toNat ≤ k
  unit : s.unit = n.unit.toNat ∧ n.unit.toNat ≤ k + 1
  offset : s.offset = n.offset.toNat
  samples : s.samples = n.samples.toNat
  samples_le : n.samples.toNat = Python.unknownIndex ∨ n.samples.toNat ≤ 131072 * (n.unit.toNat - 1)
  bytes : s.encodedBytes = n.bytes.toNat ∧ n.bytes.toNat ≤ 472 * k
  epoch : s.epoch = n.epoch.toNat ∧ n.epoch.toNat ≤ k + 1

/-- The two decoders after `k` calls.  The last format is `f`; of the bytes behind it, `done` are decoded
and the buffers hold the rest. -/
structure Paired {ico : Ico} (available : Bool) (f : Dotnet.AudioFormat) (done : List UInt8) (k : Nat)
    (p : Python.AudioDecoder ico) (n : Dotnet.AudioDecoder ico) : Prop
    extends Counts available k p.check n where
  runs : p.failed = false ∧ n.failed = false
  decodable : f.Decodable available
  fmt : p.fmt = f.py ∧ p.check.fmt = f.py ∧ n.format = some f
  stream : p.check.streamId = f.stream.toNat
  within : n.offset.toNat ≠ 0 → p.check.pending = some n.unitMeta ∧ p.check.started = n.started ∧
    p.check.progress = n.progress ∧ n.offset.toNat < n.size.toNat ∧ n.size.toNat ≤ f.maxUnit.toNat
  between : n.offset.toNat = 0 → p.check.pending = none
  buffer : p.buffer = n.buffer.take n.offset.toNat ∧ n.buffer.length = f.maxUnit.toNat
  whole : (Coding.of ico f).Whole done
  coder : p.decoder = ((Coding.of ico f).decode done).2.py
  net : ((Coding.of ico f).decode done).2.Net n

/-! ## Fragments are accepted alike -/

/-- A fragment as it is parsed. -/
def fragmentOf (payload : List UInt8) : EncodedFragment where
  streamId := (get32 payload 0).toNat
  frameSeq := (get32 payload 4).toNat
  epoch := (get32 payload 8).toNat
  unitSeq := (get32 payload 12).toNat
  unitSize := (get32 payload 16).toNat
  fragmentOffset := (get32 payload 20).toNat
  firstSampleIndex := (get64 payload 24).toNat
  unitSampleCount := (get32 payload 32).toNat
  data := payload.drop 40

lemma toNat_get64 (b : List UInt8) (i : Nat) : (get64 b i).toNat = leNat ((b.drop i).take 8) := by
  have hlen : ((b.drop i).take 8).length ≤ 8 := List.length_take_le _ _
  have hpow : 256 ^ ((b.drop i).take 8).length ≤ 256 ^ 8 := Nat.pow_le_pow_right (by decide) hlen
  rw [get64, UInt64.toNat_ofNat', Nat.mod_eq_of_lt]
  exact Nat.lt_of_lt_of_le (leNat_lt _) hpow

lemma parse_eq (payload : List UInt8) (hlen : 41 ≤ payload.length ∧ payload.length ≤ 512)
    (hzero : get32 payload 36 = 0) : EncodedFragment.parse payload = .ok (fragmentOf payload) := by
  have hreserved : leNat ((payload.drop 36).take 4) = 0 := by
    rw [← toNat_get32, hzero]
    rfl
  unfold EncodedFragment.parse fragmentOf
  simp only [hlen, hreserved, toNat_get32, toNat_get64]
  simp

lemma parse_error (payload : List UInt8)
    (h : ¬ (41 ≤ payload.length ∧ payload.length ≤ 512) ∨ get32 payload 36 ≠ 0) :
    ∃ e, EncodedFragment.parse payload = .error e := by
  unfold EncodedFragment.parse
  dsimp only
  by_cases hlen : 41 ≤ payload.length ∧ payload.length ≤ 512
  · have hreserved : leNat ((payload.drop 36).take 4) ≠ 0 := by
      rw [← toNat_get32]
      exact fun hz => h.resolve_left (not_not_intro hlen) (UInt32.toNat_inj.mp hz)
    rw [if_neg (not_not_intro hlen), if_pos hreserved]
    exact ⟨_, rfl⟩
  · rw [if_pos hlen]
    exact ⟨_, rfl⟩

section Fragments

variable {ico : Ico} {available : Bool} {f : Dotnet.AudioFormat} {done payload : List UInt8} {k : Nat}
  {p : Python.AudioDecoder ico} {n : Dotnet.AudioDecoder ico}

/-- What `feed` and `data` check of a fragment. -/
structure Python.AudioDecoder.Takes (p : Python.AudioDecoder ico) (c : EncodedFragment) : Prop where
  stream : c.streamId = p.check.streamId
  frame : c.frameSeq = p.check.seq + 1
  epoch : c.epoch = p.check.epoch
  unit : c.unitSeq = p.check.unit
  size : 1 ≤ c.unitSize ∧ c.unitSize ≤ p.check.fmt.maxUnitBytes
  offset : c.fragmentOffset = p.check.offset
  samples : c.firstSampleIndex = p.check.samples
  fits : p.check.offset + c.data.length ≤ c.unitSize
  same : p.check.pending.isSome = true → p.check.pending = some c.unitMeta
  count : c.unitSampleCount ≠ Python.unknownCount →
    c.unitSampleCount = if p.fmt.codecId = 2 then 320 else c.unitSize * 2
  frame40 : p.fmt.codecId = 2 → c.unitSize = 40

lemma Paired.refusesFragment_iff (h : Paired available f done k p n) (hk : k + 1 < 2 ^ 32)
    (hlen : 41 ≤ payload.length ∧ payload.length ≤ 512) :
    n.refusesFragment f payload = false ↔ get32 payload 36 = 0 ∧ p.Takes (fragmentOf payload) := by
  have hword (x y : UInt32) : x = y ↔ x.toNat = y.toNat := UInt32.toNat_inj.symm
  have hlong (x y : UInt64) : x = y ↔ x.toNat = y.toNat := UInt64.toNat_inj.symm
  have hcodec : f.codec = 2 ↔ p.fmt.codecId = 2 := by
    rw [h.fmt.1]
    exact hword f.codec 2
  have hframe : (n.frame + 1).toNat = p.check.seq + 1 := by
    rw [UInt32.toNat_add, h.seq.1]
    exact Nat.mod_eq_of_lt (by have := h.seq.2; simp; omega)
  -- the sum is taken in 64 bits, so that it does not wrap
  have hfits : (get32 payload 20).toUInt64 + UInt64.ofNat (payload.length - 40) >
      (get32 payload 16).toUInt64 ↔
      (get32 payload 16).toNat < (get32 payload 20).toNat + (payload.length - 40) := by
    have h20 := (get32 payload 20).toNat_lt
    rw [gt_iff_lt, UInt64.lt_iff_toNat_lt, UInt64.toNat_add, UInt32.toNat_toUInt64,
      UInt32.toNat_toUInt64, UInt64.toNat_ofNat', Nat.mod_eq_of_lt (a := payload.length - 40) (by omega),
      Nat.mod_eq_of_lt (by omega)]
  have hsmall : f.maxUnit.toNat ≤ 65536 := h.decodable.ranges.2.2.2.2.2.1
  have hmax : p.check.fmt.maxUnitBytes = f.maxUnit.toNat := congrArg Python.AudioFormat.maxUnitBytes h.fmt.2.1
  have hdata : (fragmentOf payload).data.length = payload.length - 40 := List.length_drop
  have hcount (hle : (get32 payload 16).toNat ≤ 65536) :
      (get32 payload 32 = 0xffffffff ∨
          get32 payload 32 = if (f.codec == 2) = true then 320 else get32 payload 16 * 2) ↔
        ((get32 payload 32).toNat ≠ Python.unknownCount →
          (get32 payload 32).toNat = if p.fmt.codecId = 2 then 320 else (get32 payload 16).toNat * 2) := by
    have hdouble : (get32 payload 16 * 2).toNat = (get32 payload 16).toNat * 2 := by
      rw [UInt32.toNat_mul]
      exact Nat.mod_eq_of_lt (by simp; omega)
    have hunknown : get32 payload 32 = 0xffffffff ↔ (get32 payload 32).toNat = Python.unknownCount :=
      hword _ _
    have hcases : (get32 payload 32 = if (f.codec == 2) = true then 320 else get32 payload 16 * 2) ↔
        (get32 payload 32).toNat = if p.fmt.codecId = 2 then 320 else (get32 payload 16).toNat * 2 := by
      by_cases hc : f.codec = 2
      · rw [if_pos (by simpa using hc), if_pos (hcodec.mp hc)]
        exact hword _ _
      · rw [if_neg (by simpa using hc), if_neg (fun h => hc (hcodec.mpr h)), hword, hdouble]
    rw [hunknown, hcases]
    exact Decidable.or_iff_not_imp_left
  -- within a unit the fragments have to repeat its size and its samples
  have hmeta (hunit : get32 payload 12 = n.unit) (hsamples : get64 payload 24 = n.samples)
      (hepoch : get32 payload 8 = n.epoch) :
      (n.offset = 0 ∨ get32 payload 16 = n.size ∧ get32 payload 32 = n.unitSamples) ↔
        (p.check.pending.isSome = true → p.check.pending = some (fragmentOf payload).unitMeta) := by
    by_cases hzero : n.offset = 0
    · rw [h.between (by rw [hzero]; rfl)]
      simp [hzero]
    · have hne : n.offset.toNat ≠ 0 := fun h0 => hzero (UInt32.toNat_inj.mp h0)
      rw [(h.within hne).1]
      simp only [hzero, false_or, Option.isSome_some, forall_const, Option.some.injEq,
        Dotnet.AudioDecoder.unitMeta, EncodedFragment.unitMeta, fragmentOf, hunit, hsamples, hepoch,
        Python.UnitMeta.mk.injEq, UInt32.toNat_inj, true_and, and_true]
      exact ⟨fun ⟨a, b⟩ => ⟨a.symm, b.symm⟩, fun ⟨a, b⟩ => ⟨a.symm, b.symm⟩⟩
  unfold Dotnet.AudioDecoder.refusesFragment
  simp only [Bool.or_eq_false_iff, bne_eq_false_iff_eq, beq_eq_false_iff_ne, Bool.and_eq_false_iff,
    decide_eq_false_iff_not, hfits]
  -- the two lists of checks, one by one
  constructor
  · rintro ⟨⟨⟨⟨⟨⟨⟨⟨⟨⟨⟨⟨hzero, hs⟩, hf⟩, he⟩, hu⟩, ho⟩, hpos⟩, hle⟩, hsamples⟩, hin⟩, h40⟩, hc⟩, hm⟩
    have hbound : (get32 payload 16).toNat ≤ f.maxUnit.toNat := UInt32.le_iff_toNat_le.mp (UInt32.not_lt.mp hle)
    have hpos' : (get32 payload 16).toNat ≠ 0 := fun h0 => hpos (UInt32.toNat_inj.mp h0)
    refine ⟨hzero, ?_⟩
    exact
      { stream := by rw [h.stream, ← hs]; rfl
        frame := by rw [← hframe, ← hf]; rfl
        epoch := by rw [h.epoch.1, ← he]; rfl
        unit := by rw [h.unit.1, ← hu]; rfl
        size := ⟨Nat.one_le_iff_ne_zero.mpr hpos', hmax ▸ hbound⟩
        offset := by rw [h.offset, ← ho]; rfl
        samples := by rw [h.samples, ← hsamples]; rfl
        fits := by rw [h.offset, hdata, ← ho]; exact Nat.not_lt.mp hin
        same := (hmeta hu hsamples he).mp hm
        count := (hcount (by omega)).mp hc
        frame40 := fun h2 => (hword _ 40).mp (h40.resolve_left (not_not_intro (hcodec.mpr h2))) }
  · rintro ⟨hzero, ht⟩
    have hs : get32 payload 0 = f.stream := (hword _ _).mpr (ht.stream.trans h.stream)
    have hf : get32 payload 4 = n.frame + 1 := (hword _ _).mpr (ht.frame.trans hframe.symm)
    have he : get32 payload 8 = n.epoch := (hword _ _).mpr (ht.epoch.trans h.epoch.1)
    have hu : get32 payload 12 = n.unit := (hword _ _).mpr (ht.unit.trans h.unit.1)
    have ho : get32 payload 20 = n.offset := (hword _ _).mpr (ht.offset.trans h.offset)
    have hsamples : get64 payload 24 = n.samples := (hlong _ _).mpr (ht.samples.trans h.samples)
    obtain ⟨hpos, hle⟩ := ht.size
    rw [hmax] at hle
    have hin := ht.fits
    rw [h.offset, hdata, ← ho] at hin
    refine ⟨⟨⟨⟨⟨⟨⟨⟨⟨⟨⟨⟨hzero, hs⟩, hf⟩, he⟩, hu⟩, ho⟩, fun h0 => ?_⟩, ?_⟩, hsamples⟩, ?_⟩, ?_⟩, ?_⟩, ?_⟩
    · have hnone : (fragmentOf payload).unitSize = 0 := congrArg UInt32.toNat h0
      omega
    · exact UInt32.not_lt.mpr (UInt32.le_iff_toNat_le.mpr hle)
    · exact Nat.not_lt.mpr hin
    · by_cases h2 : f.codec = 2
      · exact .inr ((hword _ _).mpr (ht.frame40 (hcodec.mp h2)))
      · exact .inl h2
    · exact (hcount (hle.trans hsmall)).mpr ht.count
    · exact (hmeta hu hsamples he).mpr ht.same

/-- Only fragments that are taken give samples. -/
lemma Python.AudioDecoder.takes_of_data {c : EncodedFragment} {checked now : Nat} {pcm : List UInt8}
    (h : (p.data c checked now).1 = .ok pcm) :
    p.Takes c ∧ p.check.checkTimeout checked = .ok () := by
  unfold Python.AudioDecoder.data at h
  split_ifs at h with hfailed
  cases hfeed : p.check.feed c checked now with
  | error e =>
    rw [hfeed] at h
    cases h
  | ok check =>
    rw [hfeed] at h
    dsimp only at h
    have hcount : ¬ (c.unitSampleCount ≠ Python.unknownCount ∧
        c.unitSampleCount ≠ if p.fmt.codecId = 2 then 320 else c.unitSize * 2) := by
      intro hc
      rw [if_pos hc] at h
      cases h
    rw [if_neg hcount] at h
    have h40 : ¬ (p.fmt.codecId = 2 ∧ c.unitSize ≠ 40) := by
      intro hc
      rw [if_pos hc] at h
      cases h
    unfold AudioStream.feed at hfeed
    obtain ⟨⟨⟩, htime, hfeed⟩ := Python.ok_of_bind hfeed
    have hempty : ¬ c.data = [] := by
      intro hc
      rw [if_pos hc] at hfeed
      cases hfeed
    rw [if_neg hempty] at hfeed
    split at hfeed
    · cases hfeed
    · next hcont =>
      push Not at hcont hcount h40
      obtain ⟨hstream, hframe, hepoch, hunit, hsize, hoffset, hsamples, hfits, hsame⟩ := hcont
      exact ⟨⟨hstream, hframe, hepoch, hunit, hsize, hoffset, hsamples, hfits, hsame, hcount, h40⟩, htime⟩

lemma Paired.timedOut_iff (h : Paired available f done k p n) (now : Nat) :
    n.timedOut now = false ↔ p.check.checkTimeout now = .ok () := by
  unfold Dotnet.AudioDecoder.timedOut AudioStream.checkTimeout
  have hpos : n.offset > 0 ↔ n.offset.toNat ≠ 0 := by
    rw [gt_iff_lt, UInt32.lt_iff_toNat_lt]
    exact Nat.pos_iff_ne_zero
  rw [h.offset]
  by_cases hzero : n.offset.toNat = 0
  · simp [hpos, hzero]
  · obtain ⟨-, hstarted, hprogress, -⟩ := h.within hzero
    rw [hstarted, hprogress]
    simp only [hpos, hzero, ne_eq, not_false_eq_true, decide_true, Bool.true_and, true_and]
    split_ifs with hlate <;> simp <;> omega

/-- The stream behind a fragment that leaves its unit open. -/
def Python.AudioStream.fed (c : EncodedFragment) (now : Nat) (s : AudioStream) : AudioStream :=
  { s with
    started := if s.offset = 0 then now else s.started
    progress := now
    pending := some c.unitMeta
    offset := s.offset + c.data.length
    seq := c.frameSeq
    encodedBytes := s.encodedBytes + c.data.length }

/-- The stream behind the last fragment of a unit. -/
def Python.AudioStream.unitFed (c : EncodedFragment) (now : Nat) (s : AudioStream) : AudioStream :=
  { s.fed c now with
    samples := Python.nextSamples s.samples c.unitSampleCount
    unit := s.unit + 1
    offset := 0
    pending := none }

lemma Python.AudioDecoder.Takes.feed_eq {c : EncodedFragment} (ht : p.Takes c) (hne : c.data ≠ [])
    {checked : Nat} (htime : p.check.checkTimeout checked = .ok ()) (now : Nat) :
    p.check.feed c checked now =
      .ok (if p.check.offset + c.data.length = c.unitSize then p.check.unitFed c now else p.check.fed c now) := by
  unfold AudioStream.feed
  rw [htime]
  show (if _ then _ else _) = _
  rw [if_neg hne, if_neg]
  · show (if p.check.offset + c.data.length = c.unitSize then _ else _) = _
    split <;> rfl
  · push Not
    exact ⟨ht.stream, ht.frame, ht.epoch, ht.unit, ht.size, ht.offset, ht.samples, ht.fits, ht.same⟩

lemma Python.AudioDecoder.Takes.data_eq {c : EncodedFragment} (ht : p.Takes c) (hrun : p.failed = false)
    (hne : c.data ≠ []) {checked : Nat} (htime : p.check.checkTimeout checked = .ok ()) (now : Nat) :
    p.data c checked now =
      Python.AudioDecoder.decodeBuffer c.unitSize { p with
        check :=
          if p.check.offset + c.data.length = c.unitSize then p.check.unitFed c now else p.check.fed c now
        buffer := p.buffer ++ c.data } := by
  unfold Python.AudioDecoder.data
  rw [hrun, ht.feed_eq hne htime now]
  dsimp only
  rw [if_neg Bool.false_ne_true, if_neg (by have := ht.count; tauto), if_neg (by have := ht.frame40; tauto)]

/-- The .NET decoder behind the copying of a fragment. -/
def Dotnet.AudioDecoder.taken (payload : List UInt8) (now : Nat) (n : Dotnet.AudioDecoder ico) :
    Dotnet.AudioDecoder ico :=
  { n with
    started := if n.offset == 0 then now else n.started
    size := if n.offset == 0 then get32 payload 16 else n.size
    unitSamples := if n.offset == 0 then get32 payload 32 else n.unitSamples
    progress := now
    buffer := n.buffer.take n.offset.toNat ++ payload.drop 40 ++
      n.buffer.drop (n.offset.toNat + (payload.length - 40))
    offset := n.offset + UInt32.ofNat (payload.length - 40)
    frame := get32 payload 4
    bytes := n.bytes + UInt64.ofNat (payload.length - 40) }

lemma net_feed_eq (hrun : n.failed = false) {checked : Nat} (htime : n.timedOut checked = false)
    (hlen : 41 ≤ payload.length ∧ payload.length ≤ 512) (hformat : n.format = some f)
    (htakes : n.refusesFragment f payload = false) (now : Nat) :
    n.feed payload checked now =
      (n.taken payload now).decodeBuffer (get32 payload 16) (get32 payload 32) := by
  unfold Dotnet.AudioDecoder.feed
  rw [hrun, htime, hformat, if_neg Bool.false_ne_true, if_neg Bool.false_ne_true, if_neg (by omega)]
  dsimp only
  rw [htakes, if_neg Bool.false_ne_true]
  by_cases hzero : n.offset = 0
  · simp only [hzero, beq_self_eq_true, if_true, Dotnet.AudioDecoder.taken, hrun, hformat]
  · have hne : (n.offset == 0) = false := by simpa using hzero
    simp only [hne, Bool.false_eq_true, if_false, Dotnet.AudioDecoder.taken, hrun, hformat]

/-! ## A fragment on both sides -/

/-- How a fragment lies in its unit and in the buffers. -/
structure Placed (f : Dotnet.AudioFormat) (payload : List UInt8) (now : Nat) (p : Python.AudioDecoder ico)
    (n : Dotnet.AudioDecoder ico) : Prop where
  fits : n.offset.toNat + (payload.length - 40) ≤ (get32 payload 16).toNat
  size_le : (get32 payload 16).toNat ≤ f.maxUnit.toNat
  offset : (n.taken payload now).offset.toNat = n.offset.toNat + (payload.length - 40)
  size : (n.taken payload now).size = get32 payload 16
  samples : (n.taken payload now).unitSamples = get32 payload 32
  length : (p.buffer ++ payload.drop 40).length = n.offset.toNat + (payload.length - 40)
  buffer : (n.taken payload now).buffer.take (n.offset.toNat + (payload.length - 40)) =
    p.buffer ++ payload.drop 40
  room : (n.taken payload now).buffer.length = f.maxUnit.toNat

lemma Paired.placed (h : Paired available f done k p n) (ht : p.Takes (fragmentOf payload)) (now : Nat) :
    Placed f payload now p n := by
  have hdata : (payload.drop 40).length = payload.length - 40 := List.length_drop
  have hfits : n.offset.toNat + (payload.length - 40) ≤ (get32 payload 16).toNat := by
    rw [← hdata, ← h.offset]
    exact ht.fits
  have hsize : (get32 payload 16).toNat ≤ f.maxUnit.toNat :=
    ht.size.2.trans (congrArg Python.AudioFormat.maxUnitBytes h.fmt.2.1).le
  have hsmall : f.maxUnit.toNat ≤ 65536 := h.decodable.ranges.2.2.2.2.2.1
  have hlen : p.buffer.length = n.offset.toNat := by
    rw [h.buffer.1, List.length_take, h.buffer.2]
    omega
  have htake : (n.buffer.take n.offset.toNat ++ payload.drop 40).length =
      n.offset.toNat + (payload.length - 40) := by
    rw [← h.buffer.1, List.length_append, hlen, hdata]
  have hsame : n.offset.toNat ≠ 0 → n.size = get32 payload 16 ∧ n.unitSamples = get32 payload 32 := by
    intro hne
    have hpending := (h.within hne).1
    have hunit : n.unitMeta = (fragmentOf payload).unitMeta :=
      Option.some.inj (hpending.symm.trans (ht.same (by rw [hpending]; rfl)))
    exact ⟨UInt32.toNat_inj.mp (congrArg Python.UnitMeta.unitSize hunit),
      UInt32.toNat_inj.mp (congrArg Python.UnitMeta.unitSampleCount hunit)⟩
  have hzero : (n.offset == 0) = decide (n.offset.toNat = 0) := by
    rw [Bool.eq_iff_iff, beq_iff_eq, decide_eq_true_eq, ← UInt32.toNat_inj]
    rfl
  refine ⟨hfits, hsize, ?_, ?_, ?_, ?_, ?_, ?_⟩
  · show (n.offset + UInt32.ofNat (payload.length - 40)).toNat = _
    rw [UInt32.toNat_add, UInt32.toNat_ofNat', Nat.mod_eq_of_lt (a := payload.length - 40) (by omega),
      Nat.mod_eq_of_lt (by omega)]
  · show (if n.offset == 0 then get32 payload 16 else n.size) = _
    rw [hzero]
    by_cases hne : n.offset.toNat = 0
    · rw [if_pos (by simpa using hne)]
    · rw [if_neg (by simpa using hne), (hsame hne).1]
  · show (if n.offset == 0 then get32 payload 32 else n.unitSamples) = _
    rw [hzero]
    by_cases hne : n.offset.toNat = 0
    · rw [if_pos (by simpa using hne)]
    · rw [if_neg (by simpa using hne), (hsame hne).2]
  · rw [List.length_append, hlen, hdata]
  · show (n.buffer.take n.offset.toNat ++ payload.drop 40 ++ _).take _ = _
    rw [List.take_left' htake, ← h.buffer.1]
  · show (n.buffer.take n.offset.toNat ++ payload.drop 40 ++
      n.buffer.drop (n.offset.toNat + (payload.length - 40))).length = _
    rw [List.length_append, htake, List.length_drop, h.buffer.2]
    omega

/-- A fragment that leaves its unit open. -/
lemma Paired.fed (h : Paired available f done k p n) (ht : p.Takes (fragmentOf payload)) (now : Nat)
    (hlen : payload.length ≤ 512) (hopen : n.offset.toNat + (payload.length - 40) < (get32 payload 16).toNat)
    (hne : 40 < payload.length) (hk : k + 2 < 2 ^ 32) :
    Paired available f done (k + 1)
      { p with check := p.check.fed (fragmentOf payload) now, buffer := p.buffer ++ payload.drop 40 }
      (n.taken payload now) := by
  have hp := h.placed ht now
  have hdata : (payload.drop 40).length = payload.length - 40 := List.length_drop
  have hoffset : (n.taken payload now).offset.toNat ≠ 0 := by rw [hp.offset]; omega
  -- both start the clock of a unit with its first fragment
  have hstarted : (if n.offset == 0 then now else n.started) =
      if p.check.offset = 0 then now else p.check.started := by
    rw [h.offset]
    by_cases hzero : n.offset.toNat = 0
    · have : n.offset = 0 := UInt32.toNat_inj.mp hzero
      simp [this]
    · have : n.offset ≠ 0 := fun h0 => hzero (by rw [h0]; rfl)
      simp [this, hzero, (h.within hzero).2.1]
  exact
    { runs := h.runs
      decodable := h.decodable
      fmt := h.fmt
      serving := ⟨h.serving.accepted, h.serving.maxUnit, h.serving.unit_pos⟩
      stream := h.stream
      seq := by
        have hseq : (get32 payload 4).toNat = n.frame.toNat + 1 := by rw [← h.seq.1]; exact ht.frame
        exact ⟨rfl, hseq.le.trans (Nat.succ_le_succ h.seq.2)⟩
      unit := ⟨h.unit.1, h.unit.2.trans (by omega)⟩
      offset := by rw [hp.offset, ← h.offset, ← hdata]; rfl
      samples := h.samples
      samples_le := h.samples_le
      bytes := by
        have hbytes : (n.bytes + UInt64.ofNat (payload.length - 40)).toNat =
            n.bytes.toNat + (payload.length - 40) := by
          have := h.bytes.2
          rw [UInt64.toNat_add, UInt64.toNat_ofNat', Nat.mod_eq_of_lt (a := payload.length - 40) (by omega),
            Nat.mod_eq_of_lt (by omega)]
        refine ⟨?_, ?_⟩
        · show p.check.encodedBytes + (payload.drop 40).length = _
          rw [h.bytes.1, hdata]
          exact hbytes.symm
        · show (n.bytes + UInt64.ofNat (payload.length - 40)).toNat ≤ _
          have := h.bytes.2
          omega
      epoch := ⟨h.epoch.1, h.epoch.2.trans (by omega)⟩
      within := by
        intro _
        refine ⟨congrArg some ?_, hstarted.symm, rfl, by rw [hp.offset, hp.size]; exact hopen,
          by rw [hp.size]; exact hp.size_le⟩
        have hunit : (get32 payload 12).toNat = n.unit.toNat := ht.unit.trans h.unit.1
        have hsamples : (get64 payload 24).toNat = n.samples.toNat := ht.samples.trans h.samples
        have hepoch : (get32 payload 8).toNat = n.epoch.toNat := ht.epoch.trans h.epoch.1
        unfold Dotnet.AudioDecoder.unitMeta EncodedFragment.unitMeta
        rw [hp.size, hp.samples]
        simp only [fragmentOf, hunit, hsamples, hepoch]
        rfl
      between := fun hzero => absurd hzero hoffset
      buffer := ⟨by rw [hp.offset, hp.buffer], hp.room⟩
      whole := h.whole
      coder := h.coder
      net := h.net.congr rfl rfl }

/-- The sample index behind a unit does not overflow. -/
lemma samplesAfter_eq {samples : UInt64} {count : UInt32} {u : Nat} (hu : u < 2 ^ 32)
    (hle : samples.toNat = Python.unknownIndex ∨ samples.toNat ≤ 131072 * u)
    (hcount : count.toNat ≠ Python.unknownCount → count.toNat ≤ 131072) :
    ∃ total, Dotnet.AudioDecoder.samplesAfter samples count = some total ∧
      total.toNat = Python.nextSamples samples.toNat count.toNat ∧
      (total.toNat = Python.unknownIndex ∨ total.toNat ≤ 131072 * (u + 1)) := by
  have hindex : samples = 0xffffffffffffffff ↔ samples.toNat = Python.unknownIndex := UInt64.toNat_inj.symm
  have hunknown : count = 0xffffffff ↔ count.toNat = Python.unknownCount := UInt32.toNat_inj.symm
  unfold Dotnet.AudioDecoder.samplesAfter
  simp only [hindex, hunknown]
  by_cases hno : samples.toNat = Python.unknownIndex ∨ count.toNat = Python.unknownCount
  · refine ⟨_, if_pos hno, ?_, .inl rfl⟩
    unfold Python.nextSamples
    rw [if_pos hno]
    rfl
  · have hno' := not_or.mp hno
    have hs := hle.resolve_left hno'.1
    have hc := hcount hno'.2
    have hsum : (samples + count.toUInt64).toNat = samples.toNat + count.toNat := by
      rw [UInt64.toNat_add, UInt32.toNat_toUInt64]
      exact Nat.mod_eq_of_lt (by omega)
    refine ⟨samples + count.toUInt64, ?_, ?_, .inr (by rw [hsum]; omega)⟩
    · rw [if_neg hno, if_pos (by omega)]
    · unfold Python.nextSamples
      rw [if_neg hno]
      dsimp only
      rw [if_neg (by unfold Python.unknownIndex; omega), hsum]

/-- The codec takes the units that the decoders complete. -/
lemma Paired.unit_fits (h : Paired available f done k p n) {unit : List UInt8}
    (hlen : p.fmt.codecId = 2 → unit.length = 40) : ((Coding.of ico f).decode done).2.Fits unit := by
  rw [Coding.fits_decode]
  unfold Coding.of
  by_cases hc : f.codec = 2
  · rw [if_pos hc]
    refine hlen ?_
    rw [h.fmt.1]
    exact congrArg UInt32.toNat hc
  · rw [if_neg hc]
    trivial

/-- The last fragment of a unit: both decode it and go on behind it. -/
lemma Paired.unitFed (h : Paired available f done k p n) (ht : p.Takes (fragmentOf payload)) (now : Nat)
    (hlen : payload.length ≤ 512)
    (hclose : n.offset.toNat + (payload.length - 40) = (get32 payload 16).toNat) (hk : k + 2 < 2 ^ 32) :
    let unit := p.buffer ++ payload.drop 40
    let d := ((Coding.of ico f).decode (done ++ unit)).2
    ∃ total, (n.taken payload now).decodeUnit (get32 payload 16) =
        some ((((Coding.of ico f).decode done).2.decode unit).1, Coding.netSet (n.taken payload now) d) ∧
      Dotnet.AudioDecoder.samplesAfter n.samples (get32 payload 32) = some total ∧
      n.unit ≠ 0xffffffff ∧
      p.decoder.decode unit = .ok ((((Coding.of ico f).decode done).2.decode unit).1, d.py) ∧
      ((Coding.of ico f).decode (done ++ unit)).1 =
        ((Coding.of ico f).decode done).1 ++ (((Coding.of ico f).decode done).2.decode unit).1 ∧
      Paired available f (done ++ unit) (k + 1)
        { p with check := p.check.unitFed (fragmentOf payload) now, decoder := d.py, buffer := [] }
        { Coding.netSet (n.taken payload now) d with samples := total, unit := n.unit + 1, offset := 0 } := by
  intro unit d
  have hp := h.placed ht now
  have hsmall : f.maxUnit.toNat ≤ 65536 := h.decodable.ranges.2.2.2.2.2.1
  have hdata : (payload.drop 40).length = payload.length - 40 := List.length_drop
  have hsize : unit.length = (get32 payload 16).toNat := hp.length.trans hclose
  have hfits : ((Coding.of ico f).decode done).2.Fits unit :=
    h.unit_fits fun hc => hsize.trans (ht.frame40 hc)
  have hbuffer : (n.taken payload now).buffer.take (get32 payload 16).toNat = unit := by
    rw [← hclose]
    exact hp.buffer
  have happend := (Coding.of ico f).decode_append h.whole unit
  have hd : d = (((Coding.of ico f).decode done).2.decode unit).2 := by
    show ((Coding.of ico f).decode (done ++ unit)).2 = _
    rw [happend]
  -- no counter wraps: each is at most the number of calls so far
  have hunit : (n.unit + 1).toNat = n.unit.toNat + 1 := by
    rw [UInt32.toNat_add]
    exact Nat.mod_eq_of_lt (by have := h.unit.2; simp; omega)
  have hcount : (get32 payload 32).toNat ≠ Python.unknownCount → (get32 payload 32).toNat ≤ 131072 := by
    intro hknown
    have hc : (get32 payload 32).toNat = if p.fmt.codecId = 2 then 320 else (get32 payload 16).toNat * 2 :=
      ht.count hknown
    have := hp.size_le
    split_ifs at hc <;> omega
  have hpos := h.serving.unit_pos
  rw [h.unit.1] at hpos
  obtain ⟨total, htotal, hnext, hbound⟩ := samplesAfter_eq (u := n.unit.toNat - 1)
    (by have := n.unit.toNat_lt; omega) h.samples_le hcount
  refine ⟨total, ?_, htotal, ?_, ?_, by rw [happend], ?_⟩
  · -- the .NET decoder decodes its whole buffer, which for the second codec is one frame
    have hroom : ((Coding.of ico f).decode done).2.Fits (n.taken payload now).buffer ∨
        ∃ s, ((Coding.of ico f).decode done).2 = .ima s := by
      by_cases hc : f.codec = 2
      · refine .inl (h.unit_fits fun _ => ?_)
        rw [hp.room]
        obtain ⟨-, -, ⟨hc1, -⟩ | ⟨-, -, hm, -⟩⟩ := h.decodable
        · exact absurd (hc1.symm.trans hc) (by decide)
        · rw [hm]
          rfl
      · refine .inr ⟨((imaSeed f.config).decode done).2, ?_⟩
        unfold Coding.of
        rw [if_neg hc]
        rfl
    have hnet : ((Coding.of ico f).decode done).2.Net (n.taken payload now) := h.net.congr rfl rfl
    rw [Coding.net_decodeUnit hnet (by rw [hbuffer]; exact hfits) hroom, hbuffer, hd]
  · intro hlast
    have : n.unit.toNat = 0xffffffff := by rw [hlast]; rfl
    have := h.unit.2
    omega
  · rw [h.coder, Coding.py_decode _ hfits, hd]
  · exact
      { runs := h.runs
        decodable := h.decodable
        fmt := h.fmt
        serving := ⟨h.serving.accepted, h.serving.maxUnit, Nat.succ_pos _⟩
        stream := h.stream
        seq := by
          have hseq : (get32 payload 4).toNat = n.frame.toNat + 1 := by rw [← h.seq.1]; exact ht.frame
          exact ⟨rfl, hseq.le.trans (Nat.succ_le_succ h.seq.2)⟩
        unit := by
          refine ⟨?_, ?_⟩
          · show p.check.unit + 1 = (n.unit + 1).toNat
            rw [hunit, h.unit.1]
          · show (n.unit + 1).toNat ≤ _
            rw [hunit]
            exact Nat.succ_le_succ h.unit.2
        offset := rfl
        samples := by
          show Python.nextSamples p.check.samples (get32 payload 32).toNat = total.toNat
          rw [hnext, h.samples]
        samples_le := by
          show total.toNat = _ ∨ total.toNat ≤ 131072 * ((n.unit + 1).toNat - 1)
          rw [hunit]
          exact hbound.imp id fun hle => hle.trans (by omega)
        bytes := by
          have hbytes : (n.bytes + UInt64.ofNat (payload.length - 40)).toNat =
              n.bytes.toNat + (payload.length - 40) := by
            have := h.bytes.2
            rw [UInt64.toNat_add, UInt64.toNat_ofNat', Nat.mod_eq_of_lt (a := payload.length - 40) (by omega),
              Nat.mod_eq_of_lt (by omega)]
          refine ⟨?_, ?_⟩
          · show p.check.encodedBytes + (payload.drop 40).length = _
            rw [h.bytes.1, hdata]
            exact hbytes.symm
          · show (n.bytes + UInt64.ofNat (payload.length - 40)).toNat ≤ _
            have := h.bytes.2
            omega
        epoch := ⟨h.epoch.1, h.epoch.2.trans (by omega)⟩
        within := fun hne => absurd rfl hne
        between := fun _ => rfl
        buffer := ⟨rfl, hp.room⟩
        whole := Coding.whole_append h.whole ((Coding.fits_decode _ _ _).mp hfits)
        coder := rfl
        net := (Coding.net_netSet _ _).congr rfl rfl }

lemma net_feed_refused (hrun : n.failed = false) (hformat : n.format = some f) {checked : Nat} (now : Nat)
    (h : n.timedOut checked = false → 41 ≤ payload.length ∧ payload.length ≤ 512 →
      n.refusesFragment f payload = true) : (n.feed payload checked now).1.toOption = none := by
  unfold Dotnet.AudioDecoder.feed
  rw [hrun, hformat, if_neg Bool.false_ne_true]
  cases htime : n.timedOut checked with
  | true => rfl
  | false =>
    rw [if_neg Bool.false_ne_true]
    by_cases hlen : 41 ≤ payload.length ∧ payload.length ≤ 512
    · rw [if_neg (by omega)]
      dsimp only
      rw [h htime hlen]
      rfl
    · rw [if_pos (by omega)]
      rfl

variable (payload) in
/-- A fragment is refused by both, or both give the same samples. -/
lemma Paired.data (h : Paired available f done k p n) (checked now : Nat) (hk : k + 2 < 2 ^ 32) :
    ((p.call available (.data payload checked now)).1 = none ∧
        (n.call available (.data payload checked now)).1 = none) ∨
      ∃ pcm done' p' n', p.call available (.data payload checked now) = (some pcm, p') ∧
        n.call available (.data payload checked now) = (some pcm, n') ∧
        Paired available f done' (k + 1) p' n' ∧
        ((Coding.of ico f).decode done').1 = ((Coding.of ico f).decode done).1 ++ pcm ∧
        done' ++ p'.buffer = done ++ p.buffer ++ payload.drop 40 := by
  -- the shape of the payload, which neither reads any further
  by_cases hparsed : (41 ≤ payload.length ∧ payload.length ≤ 512) ∧ get32 payload 36 = 0
  · obtain ⟨hlen, hzero⟩ := hparsed
    have hpy : p.call available (.data payload checked now) =
        ((p.data (fragmentOf payload) checked now).1.toOption,
          (p.data (fragmentOf payload) checked now).2) := by
      unfold Python.AudioDecoder.call
      dsimp only
      rw [parse_eq payload hlen hzero]
    have hnet : n.call available (.data payload checked now) =
        ((n.feed payload checked now).1.toOption, (n.feed payload checked now).2) := rfl
    rw [hpy, hnet]
    -- the checks against the stream and its clock
    by_cases htakes : p.Takes (fragmentOf payload) ∧ p.check.checkTimeout checked = .ok ()
    · obtain ⟨ht, htime⟩ := htakes
      right
      have hp := h.placed ht now
      have hne : (fragmentOf payload).data ≠ [] := by
        intro hnil
        have := congrArg List.length hnil
        rw [show (fragmentOf payload).data.length = payload.length - 40 from List.length_drop] at this
        simp at this
        omega
      have hdata : (fragmentOf payload).data.length = payload.length - 40 := List.length_drop
      rw [ht.data_eq h.runs.1 hne htime now, net_feed_eq h.runs.2 ((h.timedOut_iff checked).mpr htime) hlen
        h.fmt.2.2 ((h.refusesFragment_iff (by omega) hlen).mpr ⟨hzero, ht⟩) now, hdata, h.offset]
      unfold Python.AudioDecoder.decodeBuffer Dotnet.AudioDecoder.decodeBuffer
      dsimp only
      have hoffset : (n.taken payload now).offset < get32 payload 16 ↔
          n.offset.toNat + (payload.length - 40) < (get32 payload 16).toNat := by
        rw [UInt32.lt_iff_toNat_lt, hp.offset]
      have hbuffer : (p.buffer ++ (fragmentOf payload).data).length < (fragmentOf payload).unitSize ↔
          n.offset.toNat + (payload.length - 40) < (get32 payload 16).toNat := by
        rw [show (p.buffer ++ (fragmentOf payload).data).length = _ from hp.length]
        rfl
      -- the unit stays open, or this fragment closes it and it is decoded
      by_cases hopen : n.offset.toNat + (payload.length - 40) < (get32 payload 16).toNat
      · have hunit : ¬ n.offset.toNat + (payload.length - 40) = (fragmentOf payload).unitSize := hopen.ne
        rw [if_pos (hbuffer.mpr hopen), if_pos (hoffset.mpr hopen), if_neg hunit]
        exact ⟨[], done, _, _, rfl, rfl, h.fed ht now hlen.2 hopen (by omega) hk, (List.append_nil _).symm,
          (List.append_assoc _ _ _).symm⟩
      · have hclose : n.offset.toNat + (payload.length - 40) = (get32 payload 16).toNat :=
          Nat.le_antisymm hp.fits (Nat.not_lt.mp hopen)
        have hunit : n.offset.toNat + (payload.length - 40) = (fragmentOf payload).unitSize := hclose
        obtain ⟨total, hdecode, htotal, hlast, hpy, hpcm, hnext⟩ := h.unitFed ht now hlen.2 hclose hk
        have hsamples : (Coding.netSet (n.taken payload now)
            ((Coding.of ico f).decode (done ++ (p.buffer ++ payload.drop 40))).2).samples = n.samples := rfl
        have hunits : (Coding.netSet (n.taken payload now)
            ((Coding.of ico f).decode (done ++ (p.buffer ++ payload.drop 40))).2).unit = n.unit := rfl
        rw [if_neg (mt hbuffer.mp hopen), if_neg (mt hoffset.mp hopen), if_pos hunit, hdecode,
          show p.buffer ++ (fragmentOf payload).data = p.buffer ++ payload.drop 40 from rfl, hpy]
        dsimp only
        rw [hsamples, htotal]
        dsimp only
        rw [hunits, if_neg hlast]
        refine ⟨_, _, _, _, rfl, rfl, hnext, hpcm, ?_⟩
        simp
    · left
      refine ⟨?_, ?_⟩
      · cases hdata : (p.data (fragmentOf payload) checked now).1 with
        | error e => rfl
        | ok pcm => exact absurd (Python.AudioDecoder.takes_of_data hdata) htakes
      · refine net_feed_refused h.runs.2 h.fmt.2.2 now fun htime _ => ?_
        by_contra hno
        have hno := Bool.eq_false_iff.mpr hno
        exact htakes ⟨((h.refusesFragment_iff (by omega) hlen).mp hno).2, (h.timedOut_iff checked).mp htime⟩
  · left
    refine ⟨?_, net_feed_refused h.runs.2 h.fmt.2.2 now fun _ hlen => ?_⟩
    · obtain ⟨e, he⟩ := parse_error payload (by tauto)
      unfold Python.AudioDecoder.call
      dsimp only
      rw [he]
    · by_contra hno
      have hno := Bool.eq_false_iff.mpr hno
      exact hparsed ⟨hlen, ((h.refusesFragment_iff (by omega) hlen).mp hno).1⟩

end Fragments

/-! ## Formats and ends on both sides -/

section Boundaries

variable {ico : Ico} {available : Bool} {f f' : Dotnet.AudioFormat} {done : List UInt8} {k : Nat}
  {p : Python.AudioDecoder ico} {n : Dotnet.AudioDecoder ico}

/-- The .NET decoder behind a format. -/
def Dotnet.AudioDecoder.formatted (f : Dotnet.AudioFormat) (n : Dotnet.AudioDecoder ico) :
    Dotnet.AudioDecoder ico :=
  { Coding.netSet n (Coding.of ico f) with
    format := some f, epoch := f.epoch, buffer := List.replicate f.maxUnit.toNat 0 }

lemma net_setFormat_ok (hrun : n.failed = false) (hdec : f.Decodable available)
    (href : n.refusesFormat f = false) : n.setFormat available f = (.ok (), n.formatted f) := by
  unfold Dotnet.AudioDecoder.setFormat
  rw [hrun, href, if_neg Bool.false_ne_true, if_neg Bool.false_ne_true]
  obtain ⟨-, -, ⟨hc, -, -, -, hi, -⟩ | ⟨hc, -, -, -, hav⟩⟩ := hdec
  · have hne : ¬ (f.codec == 2) = true := by rw [hc]; decide
    have hof : Coding.of ico f = .ima (imaSeed f.config) := if_neg (by rw [hc]; decide)
    have hindex : min (f.config.getD 2 0).toNat 88 = (f.config.getD 2 0).toNat :=
      Nat.min_eq_left (UInt8.le_iff_toNat_le.mp hi)
    dsimp only
    rw [if_neg hne]
    unfold Dotnet.AudioDecoder.formatted Coding.netSet
    rw [hof]
    simp only [Ima.AudioDecoder.of, imaSeed, hindex, hrun]
  · have hof : Coding.of ico f = .native ico.reset := if_pos hc
    dsimp only
    rw [if_pos (by simpa using hc), if_pos hav]
    unfold Dotnet.AudioDecoder.formatted Coding.netSet
    rw [hof]
    simp only [hrun]

variable (available f n) in
lemma net_setFormat_refused (h : n.refusesFormat f = false → f.codec = 2 ∧ available = false) :
    ((n.setFormat available f).1.toOption.map fun _ => ([] : List UInt8)) = none := by
  unfold Dotnet.AudioDecoder.setFormat
  cases hrun : n.failed with
  | true => rfl
  | false =>
    rw [if_neg Bool.false_ne_true]
    cases href : n.refusesFormat f with
    | true => rfl
    | false =>
      obtain ⟨hc, hav⟩ := h href
      rw [if_neg Bool.false_ne_true]
      dsimp only
      rw [if_pos (by simpa using hc), hav]
      rfl

/-- The decoders behind a format that both accept. -/
lemma Counts.formatted {s : AudioStream} (h : Counts available k s n) (hrun : n.failed = false)
    (hpending : s.pending = none) (hdec : f.Decodable available)
    (hcont : f.Continues s.streamId s.epoch s.unit s.samples s.offset) :
    Paired available f [] (k + 1)
      { fmt := f.py, check := { s with fmt := f.py, epoch := f.epoch.toNat },
        decoder := (Coding.of ico f).py } (n.formatted f) := by
  obtain ⟨hne, hstream, hepoch, hunit, hfirst, hoffset⟩ := hcont
  have hzero : n.offset.toNat = 0 := h.offset.symm.trans hoffset
  exact
    { serving := ⟨h.serving.accepted, h.serving.maxUnit, h.serving.unit_pos⟩
      seq := ⟨h.seq.1, h.seq.2.trans (by omega)⟩
      unit := ⟨h.unit.1, h.unit.2.trans (by omega)⟩
      offset := h.offset
      samples := h.samples
      samples_le := h.samples_le
      bytes := ⟨h.bytes.1, h.bytes.2.trans (by omega)⟩
      epoch := ⟨rfl, by
        have := h.epoch
        show f.epoch.toNat ≤ _
        omega⟩
      runs := ⟨rfl, hrun⟩
      decodable := hdec
      fmt := ⟨rfl, rfl, rfl⟩
      stream := hstream.symm
      within := fun hne => absurd hzero hne
      between := fun _ => hpending
      buffer := by
        refine ⟨?_, List.length_replicate ..⟩
        show [] = (List.replicate _ _).take n.offset.toNat
        rw [hzero]
        rfl
      whole := by
        unfold Coding.of
        split
        · exact dvd_zero 40
        · trivial
      coder := by
        show (Coding.of ico f).py = ((Coding.of ico f).decode []).2.py
        unfold Coding.of
        split <;> rfl
      net := by
        refine (Coding.net_netSet n _).congr ?_ ?_
        all_goals
          show _ = _
          unfold Dotnet.AudioDecoder.formatted Coding.of
          split <;> rfl }

variable (f') in
/-- A format is refused by both, or both start a new epoch between two units. -/
lemma Paired.format (h : Paired available f done k p n) (hk : k + 2 < 2 ^ 32) :
    ((p.call available (.format f')).1 = none ∧ (n.call available (.format f')).1 = none) ∨
      ∃ p' n', p.call available (.format f') = (some [], p') ∧ n.call available (.format f') = (some [], n') ∧
        Paired available f' [] (k + 1) p' n' ∧ p.buffer = [] ∧ p'.buffer = [] := by
  have hstream : (n.format.getD f').stream.toNat = p.check.streamId := by
    rw [h.fmt.2.2, h.stream]
    rfl
  have hiff := refusesFormat_iff available f' n
    (by have := h.epoch.2; omega)
  rw [hstream, ← h.epoch.1, ← h.unit.1, ← h.samples, ← h.offset] at hiff
  have hpy : p.call available (.format f') =
      ((p.format available f'.py).1.toOption.map fun _ => [], (p.format available f'.py).2) := rfl
  have hnet : n.call available (.format f') =
      ((n.setFormat available f').1.toOption.map fun _ => [], (n.setFormat available f').2) := rfl
  rw [hpy, hnet]
  -- a format that can be decoded and continues the stream; any other is refused by both
  by_cases hok : f'.Decodable available ∧
      f'.Continues p.check.streamId p.check.epoch p.check.unit p.check.samples p.check.offset
  · obtain ⟨hdec, hcont⟩ := hok
    right
    have hoffset : p.check.offset = 0 := hcont.2.2.2.2.2
    have hbuffer : p.buffer = [] := by
      rw [h.buffer.1, ← h.offset, hoffset]
      rfl
    have hpending : p.check.pending = none := h.between (h.offset.symm.trans hoffset)
    have hset : p.format available f'.py =
        (.ok (), { p with
          fmt := f'.py, check := { p.check with fmt := f'.py, epoch := f'.epoch.toNat }
          decoder := (Coding.of ico f').py }) := by
      unfold Python.AudioDecoder.format
      rw [h.runs.1, if_neg Bool.false_ne_true, py_format_ok h.serving hdec hcont]
      dsimp only
      rw [makeDecoder_ok hdec]
    rw [hset, net_setFormat_ok h.runs.2 hdec (hiff.mpr ⟨hdec, hcont⟩).1]
    refine ⟨_, _, rfl, rfl, ?_, hbuffer, hbuffer⟩
    rw [hbuffer, h.runs.1]
    exact h.toCounts.formatted h.runs.2 hpending hdec hcont
  · left
    refine ⟨?_, net_setFormat_refused available f' n fun href => ?_⟩
    · cases hformat : p.check.format f'.py with
      | error e =>
        unfold Python.AudioDecoder.format
        rw [h.runs.1, if_neg Bool.false_ne_true, hformat]
        rfl
      | ok check =>
        cases hmake : Python.makeDecoder ico available f'.py with
        | error e =>
          unfold Python.AudioDecoder.format
          rw [h.runs.1, if_neg Bool.false_ne_true, hformat]
          dsimp only
          rw [hmake]
          rfl
        | ok decoder => exact absurd (py_format_inv hformat hmake) hok
    · by_contra hno
      refine hok (hiff.mp ⟨href, fun hc => ?_⟩)
      exact Bool.eq_true_of_not_eq_false fun hav => hno ⟨hc, hav⟩

lemma net_complete (e : Dotnet.AudioEnd) : e.complete = true ↔ e.py.reason ∈ [0, 7, 8] := by
  have hbyte (x : UInt8) : e.reason = x ↔ e.reason.toNat = x.toNat := UInt8.toNat_inj.symm
  unfold Dotnet.AudioEnd.complete Dotnet.AudioEnd.py
  simp only [Bool.or_eq_true, beq_iff_eq, hbyte, List.mem_cons, List.not_mem_nil, or_false, or_assoc]
  rfl

/-- An end is refused by both, or both close; a complete end comes between two units. -/
lemma Paired.finish (h : Paired available f done k p n) (e : Dotnet.AudioEnd) :
    ((p.call available (.finish e)).1 = none ∧ (n.call available (.finish e)).1 = none) ∨
      ∃ p' n', p.call available (.finish e) = (some [], p') ∧ n.call available (.finish e) = (some [], n') ∧
        p'.failed = true ∧ n'.failed = true ∧ (e.complete = true → p.buffer = []) := by
  have hword (x y : UInt32) : x ≠ y ↔ x.toNat ≠ y.toNat := UInt32.toNat_inj.symm.not
  have hlong (x y : UInt64) : x ≠ y ↔ x.toNat ≠ y.toNat := UInt64.toNat_inj.symm.not
  have hunit : (n.unit - 1).toNat = n.unit.toNat - 1 := by
    have := h.serving.unit_pos
    rw [h.unit.1] at this
    have hone : (1 : UInt32) ≤ n.unit := UInt32.le_iff_toNat_le.mpr this
    rw [UInt32.toNat_sub_of_le _ _ hone]
    rfl
  have hiff : (e.stream ≠ f.stream ∨ e.reason > 9 ∨ e.encodedBytes ≠ n.bytes ∨ e.units ≠ n.unit - 1 ∨
      e.samples ≠ n.samples ∨ e.epoch ≠ n.epoch ∨ (e.complete ∧ n.offset ≠ 0)) ↔
      (e.py.streamId ≠ p.check.streamId ∨ ¬ e.py.reason ≤ 9 ∨
        e.py.deliveredEncodedBytes ≠ p.check.encodedBytes ∨ e.py.deliveredUnits ≠ p.check.unit - 1 ∨
        e.py.deliveredSamples ≠ p.check.samples ∨ e.py.finalEpoch ≠ p.check.epoch ∨
        (e.py.reason ∈ [0, 7, 8] ∧ p.check.offset ≠ 0)) := by
    rw [h.stream, h.bytes.1, h.unit.1, h.samples, h.epoch.1, h.offset, net_complete, ← hunit, hword, hlong,
      hword, hlong, hword, hword n.offset 0, gt_iff_lt, UInt8.lt_iff_toNat_lt, not_le]
    rfl
  have hpy : p.call available (.finish e) =
      ((p.check.finish e.py).toOption.map fun _ => [], p.close) := by
    show (((p.finish e.py).1.toOption.map fun _ => []), (p.finish e.py).2) = _
    unfold Python.AudioDecoder.finish
    rw [h.runs.1, if_neg Bool.false_ne_true]
  have hnet : n.call available (.finish e) =
      ((n.finish e).1.toOption.map fun _ => [], (n.finish e).2) := rfl
  rw [hpy, hnet]
  unfold Dotnet.AudioDecoder.finish
  rw [h.runs.2, h.fmt.2.2, if_neg Bool.false_ne_true]
  dsimp only
  by_cases hbad : e.stream ≠ f.stream ∨ e.reason > 9 ∨ e.encodedBytes ≠ n.bytes ∨ e.units ≠ n.unit - 1 ∨
      e.samples ≠ n.samples ∨ e.epoch ≠ n.epoch ∨ (e.complete ∧ n.offset ≠ 0)
  · left
    unfold AudioStream.finish
    rw [if_pos hbad, if_pos (hiff.mp hbad)]
    exact ⟨rfl, rfl⟩
  · right
    unfold AudioStream.finish
    rw [if_neg hbad, if_neg (mt hiff.mpr hbad)]
    refine ⟨_, _, rfl, rfl, rfl, rfl, fun hc => ?_⟩
    have hoffset : n.offset = 0 := by
      by_contra hne
      exact hbad (.inr (.inr (.inr (.inr (.inr (.inr ⟨hc, hne⟩))))))
    rw [h.buffer.1, hoffset]
    rfl

end Boundaries

/-! ## Whole streams -/

section Streams

variable {ico : Ico} {available : Bool} {f : Dotnet.AudioFormat} {done : List UInt8} {k : Nat}
  {calls : List StreamCall}
  {p : Python.AudioDecoder ico} {n : Dotnet.AudioDecoder ico}

/-- A decoder that has ended gives nothing more. -/
lemma py_call_failed (h : p.failed = true) (c : StreamCall) : (p.call available c).1 = none := by
  unfold Python.AudioDecoder.call
  cases c with
  | data payload checked now =>
    dsimp only
    cases EncodedFragment.parse payload with
    | error e => rfl
    | ok c =>
      unfold Python.AudioDecoder.data
      dsimp only
      rw [h]
      rfl
  | format f =>
    unfold Python.AudioDecoder.format
    dsimp only
    rw [h]
    rfl
  | finish e =>
    unfold Python.AudioDecoder.finish
    dsimp only
    rw [h]
    rfl

lemma net_call_failed (h : n.failed = true) (c : StreamCall) : (n.call available c).1 = none := by
  unfold Dotnet.AudioDecoder.call
  cases c with
  | data payload checked now =>
    unfold Dotnet.AudioDecoder.feed
    dsimp only
    rw [h]
    rfl
  | format f =>
    unfold Dotnet.AudioDecoder.setFormat
    dsimp only
    rw [h]
    rfl
  | finish e =>
    unfold Dotnet.AudioDecoder.finish
    dsimp only
    rw [h]
    rfl

lemma resultsOf_none {S C R : Type} {call : C → S → Option R × S} {s : S} {c : C}
    (h : (call c s).1 = none) (calls : List C) : resultsOf call s (c :: calls) = [none] := by
  unfold resultsOf
  split
  · rfl
  · next heq =>
    rw [heq] at h
    cases h

lemma resultsOf_some {S C R : Type} {call : C → S → Option R × S} {s s' : S} {c : C} {r : R}
    (h : call c s = (some r, s')) (calls : List C) :
    resultsOf call s (c :: calls) = some r :: resultsOf call s' calls := by
  conv_lhs => unfold resultsOf
  rw [h]

/-- The results of two decoders that have ended. -/
lemma results_failed (hp : p.failed = true) (hn : n.failed = true) (calls : List StreamCall) :
    resultsOf (Python.AudioDecoder.call available) p calls =
      resultsOf (Dotnet.AudioDecoder.call available) n calls := by
  cases calls with
  | nil => rfl
  | cons c calls => rw [resultsOf_none (py_call_failed hp c), resultsOf_none (net_call_failed hn c)]

/-- Side by side the decoders give the same results. -/
lemma Paired.results (h : Paired available f done k p n) (calls : List StreamCall)
    (hk : k + calls.length + 1 < 2 ^ 32) :
    resultsOf (Python.AudioDecoder.call available) p calls =
      resultsOf (Dotnet.AudioDecoder.call available) n calls := by
  induction calls generalizing f done k p n with
  | nil => rfl
  | cons c calls ih =>
    rw [List.length_cons] at hk
    cases c with
    | data payload checked now =>
      obtain ⟨hp, hn⟩ | ⟨pcm, done', p', n', hp, hn, hnext, -⟩ :=
        h.data payload checked now (by omega)
      · rw [resultsOf_none hp, resultsOf_none hn]
      · rw [resultsOf_some hp, resultsOf_some hn, ih hnext (by omega)]
    | format f' =>
      obtain ⟨hp, hn⟩ | ⟨p', n', hp, hn, hnext, -⟩ := h.format f' (by omega)
      · rw [resultsOf_none hp, resultsOf_none hn]
      · rw [resultsOf_some hp, resultsOf_some hn, ih hnext (by omega)]
    | finish e =>
      obtain ⟨hp, hn⟩ | ⟨p', n', hp, hn, hpf, hnf, -⟩ := h.finish e
      · rw [resultsOf_none hp, resultsOf_none hn]
      · rw [resultsOf_some hp, resultsOf_some hn, results_failed hpf hnf]

/-- A call that raises is no result. -/
lemma not_results (hp : ∀ c : StreamCall, c ∈ calls.head? → (p.call available c).1 = none)
    (hne : calls ≠ []) (results : List (List UInt8)) :
    resultsOf (Python.AudioDecoder.call available) p calls ≠ results.map some := by
  cases calls with
  | nil => exact absurd rfl hne
  | cons c calls =>
    rw [resultsOf_none (hp c rfl)]
    intro heq
    have hmem : none ∈ results.map some := heq ▸ List.mem_singleton_self _
    simp at hmem

/-- The results behind a call that did not raise. -/
lemma results_cons {c : StreamCall} {p' : Python.AudioDecoder ico} {pcm : List UInt8}
    {results : List (List UInt8)} (hp : p.call available c = (some pcm, p'))
    (h : resultsOf (Python.AudioDecoder.call available) p (c :: calls) = results.map some) :
    ∃ rest, results = pcm :: rest ∧ resultsOf (Python.AudioDecoder.call available) p' calls = rest.map some := by
  rw [resultsOf_some hp] at h
  obtain ⟨a, rest, rfl, ha, hrest⟩ := List.map_eq_cons_iff.mp h.symm
  exact ⟨rest, by rw [Option.some.inj ha], hrest.symm⟩

/-- Side by side, up to a complete end that is accepted, the decoders give the samples of the reference. -/
lemma Paired.reference (h : Paired available f done k p n) (e : Dotnet.AudioEnd) (he : e.complete = true)
    (hk : k + calls.length + 2 < 2 ^ 32) {results : List (List UInt8)}
    (hall : resultsOf (Python.AudioDecoder.call available) p (calls ++ [.finish e]) = results.map some) :
    ((Coding.of ico f).decode done).1 ++ results.flatten = streamPcm ico f (done ++ p.buffer) calls := by
  have hno {c : StreamCall} {rest : List StreamCall} {p : Python.AudioDecoder ico}
      {results : List (List UInt8)} (hp : (p.call available c).1 = none) :
      resultsOf (Python.AudioDecoder.call available) p (c :: rest) ≠ results.map some :=
    not_results (fun d hd => by rwa [← Option.some.inj hd]) (List.cons_ne_nil _ _) results
  induction calls generalizing f done k p n results with
  | nil =>
    obtain ⟨hp, -⟩ | ⟨p', n', hp, -, -, -, hempty⟩ := h.finish e
    · exact absurd hall (hno hp)
    · obtain ⟨rest, rfl, hrest⟩ := results_cons hp hall
      obtain rfl : rest = [] := List.map_eq_nil_iff.mp hrest.symm
      rw [hempty he]
      simp [streamPcm]
  | cons c calls ih =>
    rw [List.length_cons] at hk
    rw [List.cons_append] at hall
    cases c with
    | data payload checked now =>
      obtain ⟨hp, -⟩ | ⟨pcm, done', p', n', hp, -, hnext, hpcm, hbytes⟩ :=
        h.data payload checked now (by omega)
      · exact absurd hall (hno hp)
      · obtain ⟨rest, rfl, hrest⟩ := results_cons hp hall
        have hrest := ih hnext (by omega) hrest
        rw [hpcm, hbytes, List.append_assoc] at hrest
        exact hrest
    | format f' =>
      obtain ⟨hp, -⟩ | ⟨p', n', hp, -, hnext, hempty, hempty'⟩ := h.format f' (by omega)
      · exact absurd hall (hno hp)
      · obtain ⟨rest, rfl, hrest⟩ := results_cons hp hall
        have hrest := ih hnext (by omega) hrest
        have hnil : ((Coding.of ico f').decode []).1 = [] := by
          unfold Coding.of
          split <;> rfl
        rw [hempty', hnil, List.nil_append, List.append_nil] at hrest
        simp only [streamPcm, hempty, List.append_nil, List.flatten_cons, List.nil_append]
        rw [hrest]
    | finish e' =>
      obtain ⟨hp, -⟩ | ⟨p', n', hp, -, hpf, -, -⟩ := h.finish e'
      · exact absurd hall (hno hp)
      · obtain ⟨rest, rfl, hrest⟩ := results_cons hp hall
        exact absurd hrest (not_results (fun d _ => py_call_failed hpf d) (by simp) rest)

/-! ## New decoders -/

/-- Before its first format, the stream decoder of Python. -/
def unstarted (available : Bool) (f : Dotnet.AudioFormat) : AudioStream where
  streamId := f.stream.toNat
  accepted := Python.supportedCodecs available
  maxUnit := 65536
  fmt := f.py

lemma counts_unstarted (ico : Ico) (available : Bool) (f : Dotnet.AudioFormat) :
    Counts available 0 (unstarted available f) ({} : Dotnet.AudioDecoder ico) where
  serving := ⟨rfl, rfl, Nat.one_pos⟩
  seq := ⟨rfl, le_rfl⟩
  unit := ⟨rfl, le_rfl⟩
  offset := rfl
  samples := rfl
  samples_le := .inr le_rfl
  bytes := ⟨rfl, le_rfl⟩
  epoch := ⟨rfl, Nat.zero_le _⟩

lemma init_eq (ico : Ico) (available : Bool) (f : Dotnet.AudioFormat) :
    Python.AudioDecoder.init ico available f.py =
      (AudioStream.format f.py (unstarted available f)).bind fun check =>
        (Python.makeDecoder ico available f.py).map fun decoder => { fmt := f.py, check, decoder } := by
  unfold Python.AudioDecoder.init
  cases Python.makeDecoder ico available f.py <;> rfl

/-- A first format is refused by both, or both begin. -/
lemma decodeStream_cases (ico : Ico) (available : Bool) (f : Dotnet.AudioFormat) :
    (∀ calls, Python.decodeStream ico available f calls = [none] ∧
        Dotnet.decodeStream ico available f calls = [none]) ∨
      ∃ p n, @Paired ico available f [] 1 p n ∧ p.buffer = [] ∧
        ∀ calls, Python.decodeStream ico available f calls =
            resultsOf (Python.AudioDecoder.call available) p calls ∧
          Dotnet.decodeStream ico available f calls =
            resultsOf (Dotnet.AudioDecoder.call available) n calls := by
  have hcounts := counts_unstarted ico available f
  have hzero : ({} : Dotnet.AudioDecoder ico).epoch.toNat + 1 < 2 ^ 32 := by
    show (0 : UInt32).toNat + 1 < 2 ^ 32
    decide
  have hiff := refusesFormat_iff available f ({} : Dotnet.AudioDecoder ico) hzero
  unfold Python.decodeStream
  rw [init_eq]
  by_cases hok : f.Decodable available ∧ f.Continues f.stream.toNat 0 1 0 0
  · obtain ⟨hdec, hcont⟩ := hok
    have href := (hiff.mpr ⟨hdec, hcont⟩).1
    right
    refine ⟨_, _, hcounts.formatted rfl rfl hdec hcont, rfl, fun calls => ⟨?_, ?_⟩⟩
    · rw [py_format_ok hcounts.serving hdec hcont, makeDecoder_ok hdec]
      rfl
    · unfold Dotnet.decodeStream
      rw [net_setFormat_ok rfl hdec href]
  · left
    refine fun calls => ⟨?_, ?_⟩
    · cases hformat : AudioStream.format f.py (unstarted available f) with
      | error e => rfl
      | ok check =>
        cases hmake : Python.makeDecoder ico available f.py with
        | error e => rfl
        | ok decoder => exact absurd (py_format_inv hformat hmake) hok
    · have hrefused := net_setFormat_refused available f ({} : Dotnet.AudioDecoder ico) fun href => by
          by_contra hno
          refine hok (hiff.mp ⟨href, fun hc => ?_⟩)
          exact Bool.eq_true_of_not_eq_false fun hav => hno ⟨hc, hav⟩
      unfold Dotnet.decodeStream
      cases hset : Dotnet.AudioDecoder.setFormat available f ({} : Dotnet.AudioDecoder ico) with
      | mk r d =>
        rw [hset] at hrefused
        cases r with
        | error e => rfl
        | ok u => cases hrefused

end Streams

/-- Both decoders raise at the same call, and give the same samples before it. -/
lemma decodeStream_same (ico : Ico) (available : Bool) (f : Dotnet.AudioFormat) {calls : List StreamCall}
    (hlen : calls.length + 3 < 2 ^ 32) :
    Python.decodeStream ico available f calls = Dotnet.decodeStream ico available f calls := by
  obtain hnone | ⟨p, n, hpaired, -, hresults⟩ := decodeStream_cases ico available f
  · exact (hnone calls).1.trans (hnone calls).2.symm
  · rw [(hresults calls).1, (hresults calls).2]
    exact hpaired.results calls (by omega)

/-- **Two stream decoders, one result.**  For any formats, fragments, ends and clocks, the Python and the
.NET decoder raise at the same call and give the same samples up to it.  When a stream comes to a complete
end without one raising, the samples are those of the reference: the bytes of the fragments behind each
format as one string, decoded from the state the format sets. -/
theorem streamDecoders_agree (ico : Ico) (available : Bool) (f : Dotnet.AudioFormat)
    (calls : List StreamCall) (hlen : calls.length + 3 < 2 ^ 32) :
    Python.decodeStream ico available f calls = Dotnet.decodeStream ico available f calls ∧
      ∀ (body : List StreamCall) (e : Dotnet.AudioEnd) (results : List (List UInt8)),
        calls = body ++ [.finish e] → e.complete = true →
        Python.decodeStream ico available f calls = results.map some →
        results.flatten = streamPcm ico f [] body := by
  refine ⟨decodeStream_same ico available f hlen, fun body e results hcalls he hall => ?_⟩
  obtain hnone | ⟨p, n, hpaired, hempty, hresults⟩ := decodeStream_cases ico available f
  · rw [(hnone calls).1] at hall
    have hmem : none ∈ results.map some := hall ▸ List.mem_singleton_self _
    simp at hmem
  · subst hcalls
    rw [(hresults _).1] at hall
    rw [List.length_append, List.length_singleton] at hlen
    have href := hpaired.reference e he (by omega) hall
    have hnil : ((Coding.of ico f).decode []).1 = [] := by
      unfold Coding.of
      split <;> rfl
    rw [hempty, hnil] at href
    exact href

/-- A codec without samples. -/
def muteIco : Ico := { State := Unit, reset := (), decodeFrame := fun _ _ => (Vector.replicate 320 0, ()) }

/-- A format of the stream 1. -/
def toneFormat (epoch firstUnit : UInt32) (firstSample : UInt64) (config : List UInt8) : Dotnet.AudioFormat where
  stream := 1
  epoch := epoch
  codec := 1
  revision := 1
  rate := 16000
  channels := 1
  config := config
  maxUnit := 2
  firstSample := firstSample
  capturedUs := 0
  firstUnit := firstUnit

/-- A fragment of the stream 1. -/
def toneFragment (frame epoch unit size offset : UInt32) (firstSample : UInt64) (data : List UInt8) : StreamCall :=
  .data (put32 1 ++ put32 frame ++ put32 epoch ++ put32 unit ++ put32 size ++ put32 offset ++
    put64 firstSample ++ put32 (size * 2) ++ put32 0 ++ data) 0 0

/-- Two fragments of a unit, a new seed, and one more unit. -/
def toneBody : List StreamCall :=
  [toneFragment 1 1 1 2 0 0 [0x17], toneFragment 2 1 1 2 1 0 [0x80],
    .format (toneFormat 2 2 4 [0, 0, 10, 0]), toneFragment 3 2 2 1 0 4 [0x99]]

/-- The end of `toneBody`. -/
def toneEnd : Dotnet.AudioEnd where
  stream := 1
  reason := 0
  encodedBytes := 3
  endedUs := 0
  units := 2
  samples := 6
  epoch := 2

theorem streamDecoders_agree_tone :
    Dotnet.decodeStream muteIco false (toneFormat 1 1 0 [0x2e, 0xfb, 42, 0]) (toneBody ++ [.finish toneEnd]) =
        [some [], some (pcm16 [-1081, -387, -486, -396]), some [], some (pcm16 [-6, -12]), some []] ∧
      pcm16 [-1081, -387, -486, -396, -6, -12] =
        streamPcm muteIco (toneFormat 1 1 0 [0x2e, 0xfb, 42, 0]) [] toneBody := by
  have hresults : Python.decodeStream muteIco false (toneFormat 1 1 0 [0x2e, 0xfb, 42, 0])
      (toneBody ++ [.finish toneEnd]) =
        [some [], some (pcm16 [-1081, -387, -486, -396]), some [], some (pcm16 [-6, -12]), some []] := by
    decide +kernel
  obtain ⟨hagree, href⟩ := streamDecoders_agree muteIco false (toneFormat 1 1 0 [0x2e, 0xfb, 42, 0])
    (toneBody ++ [.finish toneEnd]) (by decide)
  refine ⟨hagree ▸ hresults, ?_⟩
  exact href toneBody toneEnd
    [[], pcm16 [-1081, -387, -486, -396], [], pcm16 [-6, -12], []] rfl rfl hresults

end RemoteBridge
