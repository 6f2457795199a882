import RemoteBridge.Adapters.Atvv

/-!
# The discipline of the ATVV engine

In every run of the engine, with any sink, the callbacks form streams: encoded data only comes between
the start and the end of a stream and before its fault, a stream has one fault at most, and an end
answers each `AUDIO_STOP` of an active stream.  The flags of the engine fit together, and a `SYNC` is
accepted when its frame number is the number of frames heard.

The log is written by the engine that is judged by it.  Its audio notifications are therefore compared
with the inputs of the run: they are the same, in the same order.  What a callback is told is not part of
the discipline; that the bytes of a stream are passed on unchanged belongs to the decoders.

A callback comes back into the engine with requests only, and a request touches five flags.  So the
invariant is one about those flags, and one about the rest of the state and the log.
-/

namespace RemoteBridge

variable {E : Type} {S : AtvvSink E}

/-! ## What the log says -/

/-- A stream is open. -/
def inStream : List AtvvEv → Bool
  | [] => false
  | .sourceBegin :: _ => true
  | .ended _ :: _ => false
  | _ :: l => inStream l

/-- The stream was started. -/
def streamStarted : List AtvvEv → Bool
  | [] => false
  | .sourceBegin :: _ => false
  | .started _ :: _ => true
  | _ :: l => streamStarted l

/-- The stream had a fault. -/
def streamFaulted : List AtvvEv → Bool
  | [] => false
  | .sourceBegin :: _ => false
  | .fault _ :: _ => true
  | _ :: l => streamFaulted l

/-- The bytes heard in the stream. -/
def streamBytes : List AtvvEv → Nat
  | [] => 0
  | .sourceBegin :: _ => 0
  | .audio d :: l => streamBytes l + d.length
  | _ :: l => streamBytes l

/-- How many streams were ended. -/
def streamEnds : List AtvvEv → Nat
  | [] => 0
  | .ended _ :: l => streamEnds l + 1
  | _ :: l => streamEnds l

/-- The audio notification of an event. -/
def AtvvEv.audio? : AtvvEv → Option (List UInt8)
  | .audio d => some d
  | _ => none

/-- The audio notification of an input. -/
def AtvvInput.audio? : AtvvInput → Option (List UInt8)
  | .audio d => some d
  | _ => none

/-- A callback may come behind these. -/
def AtvvEv.Allowed (l : List AtvvEv) : AtvvEv → Prop
  | .sourceBegin => inStream l = false
  | .started _ => inStream l = true ∧ streamStarted l = false ∧ streamFaulted l = false
  | .format _ => inStream l = true ∧ streamStarted l = true ∧ streamFaulted l = false
  | .encoded _ => inStream l = true ∧ streamStarted l = true ∧ streamFaulted l = false
  | .ended _ => inStream l = true
  | .fault _ => inStream l = true → streamFaulted l = false
  | .audio _ => True

/-- Every callback was allowed where it came. -/
def Disciplined : List AtvvEv → Prop
  | [] => True
  | e :: l => e.Allowed l ∧ Disciplined l

lemma Disciplined.allowed {l before after : List AtvvEv} {e : AtvvEv} (h : Disciplined l)
    (heq : l = after ++ e :: before) : e.Allowed before := by
  induction after generalizing l with
  | nil =>
    subst heq
    exact h.1
  | cons x after ih =>
    subst heq
    exact ih h.2 rfl

/-! ## The invariant -/

/-- The flags that a request can change fit together. -/
structure Atvv.Flags (a : Atvv) : Prop where
  open_pending : a.openQueued = true → a.openPending = true
  open_idle : a.openPending = true → a.streamActive = false
  close_active : a.closeQueued = true → a.streamActive = true ∧ a.closing = false

/-- The engine without those flags. -/
def Atvv.core (a : Atvv) : Atvv :=
  { a with closing := false, openPending := false, openQueued := false, closeQueued := false,
           openDeadlineMs := 0 }

/-- The engine knows what the log says, after `n` ends. -/
structure Tracks (n : Nat) (a : Atvv) (l : List AtvvEv) : Prop where
  active : a.streamActive = inStream l
  started : a.streamActive = true → a.announced = streamStarted l
  failed : a.streamActive = true → a.failed = streamFaulted l
  ready : a.decoderReady = true → a.streamActive = true ∧ a.announced = true ∧ a.failed = false
  caps : a.capsValid = true → 0 < a.caps.frameSize
  valid : a.streamActive = true → a.capsValid = true
  counted : a.streamActive = true → a.failed = false →
    a.frameNo.toNat = streamBytes l / a.caps.frameSize % 65536 ∧
      a.frameBytes = streamBytes l % a.caps.frameSize
  ends : streamEnds l = n
  disciplined : Disciplined l

structure AtvvInv (n : Nat) (w : AtvvWorld E) : Prop where
  flags : w.a.Flags
  tracks : Tracks n w.a w.log

lemma Tracks.core {n : Nat} {a : Atvv} {l : List AtvvEv} (h : Tracks n a l) : Tracks n a.core l :=
  ⟨h.active, h.started, h.failed, h.ready, h.caps, h.valid, h.counted, h.ends, h.disciplined⟩

lemma Tracks.of_core {n : Nat} {a a' : Atvv} {l : List AtvvEv} (h : Tracks n a l)
    (hcore : a'.core = a.core) : Tracks n a' l := by
  have hc := h.core
  rw [← hcore] at hc
  exact ⟨hc.active, hc.started, hc.failed, hc.ready, hc.caps, hc.valid, hc.counted, hc.ends,
    hc.disciplined⟩

section Requests

variable {n : Nat} {w : AtvvWorld E}

/-- A request touches its flags only, and they fit together afterwards. -/
structure Requested (w w' : AtvvWorld E) : Prop where
  core : w'.a.core = w.a.core
  log : w'.log = w.log
  flags : w.a.Flags → w'.a.Flags

lemma Requested.refl (w : AtvvWorld E) : Requested w w := ⟨rfl, rfl, id⟩

lemma Requested.inv {w' : AtvvWorld E} (h : Requested w w') (hw : AtvvInv n w) : AtvvInv n w' :=
  ⟨h.flags hw.flags, by
    rw [h.log]
    exact hw.tracks.of_core h.core⟩

lemma requested_stop (w : AtvvWorld E) : Requested w (atvvRequestStop S w).2 := by
  unfold atvvRequestStop
  split
  · next hopen =>
    split
    · exact ⟨rfl, rfl, fun h => ⟨nofun, nofun, h.close_active⟩⟩
    · next hqueued =>
      refine ⟨rfl, rfl, fun h => ⟨h.open_pending, h.open_idle, fun hc => ?_⟩⟩
      simp only [Bool.and_eq_true, Bool.not_eq_true'] at hopen
      exact absurd ((h.close_active hc).1.symm.trans hopen.2) nofun
  · split
    · exact .refl w
    · next hactive =>
      split
      · exact .refl w
      · next hclosing =>
        have hact : w.a.streamActive = true := by simpa using hactive
        have hclose : w.a.closing = false := by simpa using hclosing
        dsimp only
        split
        · exact ⟨rfl, rfl, fun h => ⟨h.open_pending, h.open_idle, nofun⟩⟩
        · exact ⟨rfl, rfl, fun h => ⟨h.open_pending, h.open_idle, fun _ => ⟨hact, hclose⟩⟩⟩

lemma requested_start (w : AtvvWorld E) : Requested w (atvvRequestStart S w).2 := by
  unfold atvvRequestStart
  split
  · exact .refl w
  · next hstart =>
    simp only [Bool.or_eq_true, Bool.not_eq_true', not_or, Bool.not_eq_true, Bool.not_eq_false]
      at hstart
    obtain ⟨⟨⟨-, hidle⟩, -⟩, -⟩ := hstart
    refine ⟨rfl, rfl, fun h => ⟨fun _ => rfl, fun _ => hidle, fun hc => ?_⟩⟩
    exact absurd ((h.close_active hc).1.symm.trans hidle) nofun

lemma requested_run (w : AtvvWorld E) (r : AtvvRequest) : Requested w (r.run S w) := by
  cases r with
  | start => exact requested_start w
  | stop => exact requested_stop w

lemma Requested.trans {w₁ w₂ w₃ : AtvvWorld E} (h₁ : Requested w₁ w₂) (h₂ : Requested w₂ w₃) :
    Requested w₁ w₃ :=
  ⟨h₂.core.trans h₁.core, h₂.log.trans h₁.log, h₂.flags ∘ h₁.flags⟩

lemma requested_foldl (requests : List AtvvRequest) (w : AtvvWorld E) :
    Requested w (requests.foldl (AtvvRequest.run S) w) := by
  induction requests generalizing w with
  | nil => exact .refl w
  | cons r requests ih => exact (requested_run w r).trans (ih _)

/-- A callback, with whatever requests the sink makes in it. -/
lemma inv_call {e : AtvvEv} (hflags : w.a.Flags) (htracks : Tracks n w.a (e :: w.log)) :
    AtvvInv n (w.call S e) :=
  (requested_foldl _ _).inv ⟨hflags, htracks⟩

lemma core_call (e : AtvvEv) (w : AtvvWorld E) : (w.call S e).a.core = w.a.core :=
  (requested_foldl (S.callback e w.env).1 { w with env := (S.callback e w.env).2, log := e :: w.log }).core

end Requests

/-! ## The messages keep the invariant -/

section Messages

variable {n : Nat} {w : AtvvWorld E}

/-- The stream fails once. -/
lemma inv_fault (h : AtvvInv n w) (hactive : w.a.streamActive = true) (reason : EndReason) :
    AtvvInv n (atvvFault S reason w) := by
  unfold atvvFault
  split
  · exact h
  · next hfailed =>
    have hok : w.a.failed = false := Bool.eq_false_iff.mpr hfailed
    have ht := h.tracks
    refine (requested_stop _).inv (inv_call ⟨h.flags.open_pending, h.flags.open_idle,
      h.flags.close_active⟩ ?_)
    exact ⟨ht.active, ht.started, fun _ => rfl, nofun, ht.caps, ht.valid, nofun, ht.ends,
      fun _ => (ht.failed hactive).symm.trans hok, ht.disciplined⟩

/-- A format is announced by the start of the stream or as a change. -/
lemma inv_announceFormat (hflags : w.a.Flags) (hactive : w.a.streamActive = true)
    (hfailed : w.a.failed = false)
    (ht : Tracks n { w.a with decoderReady := false } w.log) : AtvvInv n (announceFormat S w) := by
  have hin : inStream w.log = true := ht.active.symm.trans hactive
  have hsound : streamFaulted w.log = false := (ht.failed hactive).symm.trans hfailed
  unfold announceFormat
  dsimp only
  split
  · next hann =>
    have hstarted : streamStarted w.log = true := (ht.started hactive).symm.trans hann
    exact inv_call hflags ⟨ht.active, ht.started, ht.failed, fun _ => ⟨hactive, hann, hfailed⟩, ht.caps,
      ht.valid, ht.counted, ht.ends, ⟨hin, hstarted, hsound⟩, ht.disciplined⟩
  · next hann =>
    have hstarted : streamStarted w.log = false :=
      (ht.started hactive).symm.trans (Bool.eq_false_iff.mpr hann)
    exact inv_call ⟨hflags.open_pending, hflags.open_idle, hflags.close_active⟩
      ⟨ht.active, fun _ => rfl, ht.failed, fun _ => ⟨hactive, rfl, hfailed⟩, ht.caps, ht.valid,
        ht.counted, ht.ends, ⟨hin, hstarted, hsound⟩, ht.disciplined⟩

/-- A parsed frame size is not zero. -/
lemma frameSize_atvvParseCaps {d : List UInt8} {caps : AtvvCaps} (h : atvvParseCaps d = some caps) :
    0 < caps.frameSize := by
  unfold atvvParseCaps at h
  dsimp only at h
  split at h
  · cases h
  · split at h
    · cases h
    · next hfields =>
      obtain rfl := Option.some.inj h
      simp only [Bool.or_eq_true, not_or, beq_iff_eq] at hfields
      exact Nat.pos_of_ne_zero hfields.1.1.1.2

lemma inv_onCapsResp (h : AtvvInv n w) (d : List UInt8) : AtvvInv n (onCapsResp d w).2 := by
  unfold onCapsResp
  split
  · exact h
  · next hactive =>
    split
    · exact h
    · next caps hcaps =>
      have ht := h.tracks
      have hidle {p : Prop} (hact : w.a.streamActive = true) : p := absurd hact hactive
      exact ⟨⟨h.flags.open_pending, h.flags.open_idle, h.flags.close_active⟩, ht.active, ht.started,
        ht.failed, ht.ready, fun _ => frameSize_atvvParseCaps hcaps, fun _ => rfl,
        fun hact => hidle hact, ht.ends, ht.disciplined⟩

lemma inv_onAudioStart (h : AtvvInv n w) (d : List UInt8) : AtvvInv n (onAudioStart S d w).2 := by
  unfold onAudioStart
  split
  · next hactive => exact inv_fault h hactive _
  · next hactive =>
    split
    · exact h
    · next hfits =>
      have hidle : w.a.streamActive = false := Bool.eq_false_iff.mpr hactive
      have hvalid : w.a.capsValid = true := by
        unfold Atvv.startFits at hfits
        simp only [Bool.not_eq_true', Bool.not_eq_false, Bool.and_eq_true] at hfits
        exact hfits.1.1.1.1.2
      have ht := h.tracks
      have hbegin : AtvvInv n ((w.act (Atvv.begin d)).call S .sourceBegin) :=
        inv_call ⟨nofun, nofun, nofun⟩ ⟨rfl, fun _ => rfl, fun _ => rfl, nofun, ht.caps,
          fun _ => hvalid, fun _ _ => ⟨(Nat.zero_div _).symm ▸ rfl, (Nat.zero_mod _).symm⟩, ht.ends,
          ht.active.symm.trans hidle, ht.disciplined⟩
      have hcore := core_call (S := S) .sourceBegin (w.act (Atvv.begin d))
      dsimp only
      generalize (w.act (Atvv.begin d)).call S .sourceBegin = v at hbegin hcore
      have hactive : v.a.streamActive = true := congrArg Atvv.streamActive hcore
      have hfailed : v.a.failed = false := congrArg Atvv.failed hcore
      have hseeded : AtvvInv n (if v.a.profileInitWithoutSync = true then
          announceFormat S (v.act fun a => { a with codecConfig := [0, 0, 0, 0], decoderReady := true })
          else v) := by
        split
        · have htv := hbegin.tracks
          refine inv_announceFormat ⟨hbegin.flags.open_pending, hbegin.flags.open_idle,
            hbegin.flags.close_active⟩ hactive hfailed ?_
          exact ⟨htv.active, htv.started, htv.failed, nofun, htv.caps, htv.valid, htv.counted, htv.ends,
            htv.disciplined⟩
        · exact hbegin
      split
      · exact (requested_stop _).inv hseeded
      · exact hseeded

lemma inv_onAudioSync (h : AtvvInv n w) (d : List UInt8) : AtvvInv n (onAudioSync S d w).2 := by
  unfold onAudioSync
  split
  · exact h
  · next hhealthy =>
    simp only [Bool.or_eq_true, Bool.not_eq_true', not_or, Bool.not_eq_false, Bool.not_eq_true]
      at hhealthy
    obtain ⟨hactive, hfailed⟩ := hhealthy
    split
    · exact inv_fault h hactive _
    · split
      · exact inv_fault h hactive _
      · have ht := h.tracks
        refine inv_announceFormat ⟨h.flags.open_pending, h.flags.open_idle, h.flags.close_active⟩
          hactive hfailed ?_
        exact ⟨ht.active, ht.started, ht.failed, nofun, ht.caps, ht.valid, ht.counted, ht.ends,
          ht.disciplined⟩

/-- The end of a stream is counted. -/
lemma inv_onAudioStop (h : AtvvInv n w) (d : List UInt8) :
    AtvvInv (if d.length = 2 ∧ w.a.streamActive = true then n + 1 else n) (onAudioStop S d w).2 := by
  unfold onAudioStop
  by_cases hstop : d.length = 2 ∧ w.a.streamActive = true
  · rw [if_pos hstop]
    simp only [hstop.1, hstop.2, bne_self_eq_false, Bool.not_true, Bool.or_self, Bool.false_eq_true,
      if_false]
    have ht := h.tracks
    have hopen : w.a.openPending = false := by
      by_contra hpending
      exact nomatch (h.flags.open_idle (Bool.eq_true_of_not_eq_false hpending)).symm.trans hstop.2
    refine inv_call ⟨h.flags.open_pending, fun _ => rfl, nofun⟩ ?_
    exact ⟨rfl, nofun, nofun, nofun, ht.caps, nofun, nofun, congrArg (· + 1) ht.ends,
      ht.active.symm.trans hstop.2, ht.disciplined⟩
  · rw [if_neg hstop]
    have hskip : (d.length != 2 || !w.a.streamActive) = true := by
      by_contra hgo
      simp only [Bool.or_eq_true, bne_iff_ne, Bool.not_eq_true', not_or, Bool.not_eq_false,
        not_not] at hgo
      exact hstop hgo
    rw [if_pos hskip]
    exact h

lemma inv_onMicOpenError (h : AtvvInv n w) (d : List UInt8) : AtvvInv n (onMicOpenError S d w).2 := by
  unfold onMicOpenError
  split
  · exact h
  · dsimp only
    have ht := h.tracks
    split
    · next hopen =>
      simp only [Bool.and_eq_true, Bool.not_eq_true'] at hopen
      have hnoclose {p : Prop} (hc : w.a.closeQueued = true) : p :=
        nomatch (h.flags.close_active hc).1.symm.trans hopen.2
      split
      · exact ⟨⟨nofun, h.flags.open_idle, h.flags.close_active⟩, ht.of_core rfl⟩
      · refine inv_call ⟨nofun, nofun, fun hc => hnoclose hc⟩ ?_
        have hidle : inStream w.log = false := ht.active.symm.trans hopen.2
        exact ⟨ht.active, ht.started, fun hact => (nomatch hact.symm.trans hopen.2), ht.ready,
          ht.caps, ht.valid, ht.counted, ht.ends, fun hin => (nomatch hidle.symm.trans hin), ht.disciplined⟩
    · have hopen : AtvvInv n (w.act fun a =>
          { a with openPending := false, openQueued := false, closing := false }) :=
        ⟨⟨nofun, nofun, fun hc => ⟨(h.flags.close_active hc).1, rfl⟩⟩, ht.of_core rfl⟩
      split
      · next hact =>
        simp only [Bool.and_eq_true] at hact
        exact inv_fault hopen hact.1 _
      · exact hopen

/-- The number of ends that a message adds. -/
def Atvv.stops (d : List UInt8) (a : Atvv) : Bool :=
  d.head? == some 0x00 && d.length == 2 && a.streamActive

lemma inv_atvvOnControl (h : AtvvInv n w) (d : List UInt8) :
    AtvvInv (if w.a.stops d then n + 1 else n) (atvvOnControl S d w).2 := by
  have hstops {op : UInt8} {rest : List UInt8} (hop : op ≠ 0x00) : w.a.stops (op :: rest) = false := by
    unfold Atvv.stops
    simp [hop]
  unfold atvvOnControl
  cases d with
  | nil => exact h
  | cons op rest =>
    dsimp only
    by_cases hcaps : op = 0x0b
    · rw [if_pos hcaps, hstops (by rw [hcaps]; decide)]
      exact inv_onCapsResp h _
    rw [if_neg hcaps]
    by_cases hstart : op = 0x04
    · rw [if_pos hstart, hstops (by rw [hstart]; decide)]
      exact inv_onAudioStart h _
    rw [if_neg hstart]
    by_cases hsync : op = 0x0a
    · rw [if_pos hsync, hstops (by rw [hsync]; decide)]
      exact inv_onAudioSync h _
    rw [if_neg hsync]
    by_cases hstop : op = 0x00
    · rw [if_pos hstop]
      have hinv := inv_onAudioStop (S := S) h (op :: rest)
      have hiff : w.a.stops (op :: rest) = true ↔
          (op :: rest).length = 2 ∧ w.a.streamActive = true := by
        unfold Atvv.stops
        simp [hstop]
      by_cases hend : (op :: rest).length = 2 ∧ w.a.streamActive = true
      · rw [if_pos hend] at hinv
        rwa [if_pos (hiff.mpr hend)]
      · rw [if_neg hend] at hinv
        rwa [if_neg fun hs => hend (hiff.mp hs)]
    rw [if_neg hstop, hstops hstop, if_neg Bool.false_ne_true]
    by_cases hsearch : op = 0x08
    · rw [if_pos hsearch]
      split
      · exact (requested_start w).inv h
      · exact h
    rw [if_neg hsearch]
    split
    · exact inv_onMicOpenError h _
    · exact h

/-- An audio notification is counted with the bytes of the stream. -/
lemma inv_atvvOnAudio (h : AtvvInv n w) (d : List UInt8) : AtvvInv n (atvvOnAudio S d w) := by
  have ht := h.tracks
  unfold atvvOnAudio
  dsimp only [AtvvWorld.note]
  by_cases hhealthy : w.a.streamActive = true ∧ w.a.failed = false
  · obtain ⟨hactive, hfailed⟩ := hhealthy
    simp only [hactive, hfailed, Bool.not_true, Bool.or_self, Bool.false_eq_true, if_false]
    -- a fault forgets the count, so the notification may be noted before it
    have hfault (reason : EndReason) :
        AtvvInv n (atvvFault S reason { w with log := .audio d :: w.log }) := by
      unfold atvvFault
      rw [if_neg (by rw [hfailed]; exact Bool.false_ne_true)]
      refine (requested_stop _).inv (inv_call ⟨h.flags.open_pending, h.flags.open_idle,
        h.flags.close_active⟩ ?_)
      exact ⟨ht.active, ht.started, fun _ => rfl, nofun, ht.caps, ht.valid, nofun, ht.ends,
        fun _ => (ht.failed hactive).symm.trans hfailed, trivial, ht.disciplined⟩
    split
    · exact hfault _
    · split
      · exact hfault _
      · next hready =>
        have hdec : w.a.decoderReady = true := by simpa using hready
        obtain ⟨-, hann, -⟩ := ht.ready hdec
        have hin : inStream w.log = true := ht.active.symm.trans hactive
        have hstarted : streamStarted w.log = true := (ht.started hactive).symm.trans hann
        have hsound : streamFaulted w.log = false := (ht.failed hactive).symm.trans hfailed
        refine inv_call ⟨h.flags.open_pending, h.flags.open_idle, h.flags.close_active⟩ ?_
        refine ⟨ht.active, ht.started, ht.failed, ht.ready, ht.caps, ht.valid, fun _ _ => ?_, ht.ends,
          ⟨hin, hstarted, hsound⟩, trivial, ht.disciplined⟩
        obtain ⟨hno, hbytes⟩ := ht.counted hactive hfailed
        have hsize := ht.caps (ht.valid hactive)
        have hsplit : (streamBytes w.log + d.length) / w.a.caps.frameSize =
            streamBytes w.log / w.a.caps.frameSize +
              (streamBytes w.log % w.a.caps.frameSize + d.length) / w.a.caps.frameSize := by
          conv_lhs => rw [← Nat.div_add_mod (streamBytes w.log) w.a.caps.frameSize, Nat.add_assoc]
          rw [Nat.mul_add_div hsize]
        refine ⟨?_, ?_⟩
        · change (w.a.frameNo + UInt16.ofNat ((w.a.frameBytes + d.length) / w.a.caps.frameSize)).toNat =
            (streamBytes w.log + d.length) / w.a.caps.frameSize % 65536
          rw [UInt16.toNat_add, UInt16.toNat_ofNat', hno, hbytes, hsplit]
          omega
        · change (w.a.frameBytes + d.length) % w.a.caps.frameSize =
            (streamBytes w.log + d.length) % w.a.caps.frameSize
          rw [hbytes, Nat.mod_add_mod]
  · have hskip : (!w.a.streamActive || w.a.failed) = true := by
      by_contra hgo
      simp only [Bool.or_eq_true, Bool.not_eq_true', not_or, Bool.not_eq_false, Bool.not_eq_true] at hgo
      exact hhealthy hgo
    rw [if_pos hskip]
    exact ⟨h.flags, ht.active, ht.started, ht.failed, ht.ready, ht.caps, ht.valid,
      fun hact hok => absurd ⟨hact, hok⟩ hhealthy, ht.ends, trivial, ht.disciplined⟩

/-- An open that is not answered in time is reported outside of streams. -/
lemma inv_tickDeadline (h : AtvvInv n w) (nowMs : UInt32) : AtvvInv n (tickDeadline S nowMs w) := by
  have ht := h.tracks
  unfold tickDeadline
  dsimp only
  split
  · next hopen =>
    simp only [AtvvWorld.act, Bool.and_eq_true] at hopen
    have hidle : w.a.streamActive = false := h.flags.open_idle hopen.1
    have hnoclose {p : Prop} (hc : w.a.closeQueued = true) : p :=
      nomatch (h.flags.close_active hc).1.symm.trans hidle
    have hout : inStream w.log = false := ht.active.symm.trans hidle
    refine inv_call ⟨nofun, nofun, fun hc => hnoclose hc⟩ ?_
    exact ⟨ht.active, ht.started, fun hact => (nomatch hact.symm.trans hidle), ht.ready, ht.caps,
      ht.valid, ht.counted, ht.ends, fun hin => (nomatch hout.symm.trans hin), ht.disciplined⟩
  · exact ⟨⟨h.flags.open_pending, h.flags.open_idle, h.flags.close_active⟩, ht.active, ht.started,
      ht.failed, ht.ready, ht.caps, ht.valid, ht.counted, ht.ends, ht.disciplined⟩

lemma inv_tickOpen (h : AtvvInv n w) : AtvvInv n (tickOpen S w) := by
  unfold tickOpen
  split
  · dsimp only
    split
    · exact ⟨⟨nofun, h.flags.open_idle, h.flags.close_active⟩, h.tracks.of_core rfl⟩
    · exact ⟨h.flags, h.tracks⟩
  · exact h

lemma inv_atvvTick (h : AtvvInv n w) (nowMs : UInt32) : AtvvInv n (atvvTick S nowMs w).2 := by
  have hopen := inv_tickOpen (S := S) (inv_tickDeadline (S := S) h nowMs)
  unfold atvvTick
  dsimp only
  generalize tickOpen S (tickDeadline S nowMs w) = v at hopen
  split
  · next hclose =>
    split
    · have hactive := (hopen.flags.close_active hclose).1
      have hcleared : AtvvInv n (v.act fun a => { a with closeQueued := false }) :=
        ⟨⟨hopen.flags.open_pending, hopen.flags.open_idle, nofun⟩, hopen.tracks.of_core rfl⟩
      exact inv_fault hcleared hactive _
    · exact (requested_stop _).inv hopen
  · split
    · exact (requested_stop _).inv hopen
    · split
      · exact hopen
      · split
        · have ht := hopen.tracks
          split
          · exact ⟨⟨hopen.flags.open_pending, hopen.flags.open_idle, hopen.flags.close_active⟩,
              ht.active, ht.started, ht.failed, ht.ready, ht.caps, ht.valid, ht.counted, ht.ends,
              ht.disciplined⟩
          · exact ⟨hopen.flags, ht⟩
        · exact hopen

/-- An input ends a stream if it is an `AUDIO_STOP` of an active one. -/
def AtvvInput.stops (a : Atvv) : AtvvInput → Bool
  | .control d => a.stops d
  | _ => false

lemma inv_run (h : AtvvInv n w) (i : AtvvInput) :
    AtvvInv (if i.stops w.a then n + 1 else n) (i.run S w) := by
  cases i with
  | control d => exact inv_atvvOnControl h d
  | audio d => exact inv_atvvOnAudio h d
  | tick nowMs => exact inv_atvvTick h nowMs
  | request r => exact (requested_run w r).inv h

end Messages

/-! ## The audio of the log -/

section Audio

/-- The audio notifications of the world's log, the newest first. -/
def AtvvWorld.audio (w : AtvvWorld E) : List (List UInt8) := w.log.filterMap (·.audio?)

variable (w : AtvvWorld E)

@[simp] lemma audio_act (f : Atvv → Atvv) : (w.act f).audio = w.audio := rfl

@[simp] lemma audio_write (data : List UInt8) : (w.write S data).2.audio = w.audio := rfl

lemma Requested.audio {w w' : AtvvWorld E} (h : Requested w w') : w'.audio = w.audio :=
  congrArg (List.filterMap AtvvEv.audio?) h.log

@[simp] lemma audio_requestStop : (atvvRequestStop S w).2.audio = w.audio := (requested_stop w).audio

@[simp] lemma audio_requestStart : (atvvRequestStart S w).2.audio = w.audio := (requested_start w).audio

/-- A callback is no audio. -/
lemma audio_call {e : AtvvEv} (he : e.audio? = none) : (w.call S e).audio = w.audio := by
  unfold AtvvWorld.call
  rw [(requested_foldl (S := S) _ _).audio]
  exact List.filterMap_cons_none he

@[simp] lemma audio_fault (reason : EndReason) : (atvvFault S reason w).audio = w.audio := by
  unfold atvvFault
  split
  · rfl
  · rw [audio_requestStop, audio_call _ rfl, audio_act]

@[simp] lemma audio_announceFormat : (announceFormat S w).audio = w.audio := by
  unfold announceFormat
  dsimp only
  split
  · rw [audio_call _ rfl]
  · rw [audio_call _ rfl, audio_act]

lemma audio_onAudioStart (d : List UInt8) : (onAudioStart S d w).2.audio = w.audio := by
  unfold onAudioStart
  split
  · simp
  · split
    · rfl
    · dsimp only
      have hbegun : ((w.act (Atvv.begin d)).call S .sourceBegin).audio = w.audio := by
        rw [audio_call _ rfl, audio_act]
      split <;> split <;> simp [hbegun]

lemma audio_onMicOpenError (d : List UInt8) : (onMicOpenError S d w).2.audio = w.audio := by
  unfold onMicOpenError
  split
  · rfl
  · dsimp only
    split
    · split
      · rfl
      · rw [audio_call _ rfl, audio_act, audio_act]
    · split <;> simp

lemma audio_atvvOnControl (d : List UInt8) : (atvvOnControl S d w).2.audio = w.audio := by
  unfold atvvOnControl
  split
  · rfl
  · split
    · unfold onCapsResp
      split
      · rfl
      · split <;> rfl
    · split
      · exact audio_onAudioStart w _
      · split
        · unfold onAudioSync
          repeat' split
          all_goals simp
        · split
          · unfold onAudioStop
            split
            · rfl
            · exact audio_call _ rfl
          · split
            · split <;> simp
            · split
              · exact audio_onMicOpenError w _
              · rfl

lemma audio_atvvTick (nowMs : UInt32) : (atvvTick S nowMs w).2.audio = w.audio := by
  have hdeadline : (tickDeadline S nowMs w).audio = w.audio := by
    unfold tickDeadline
    dsimp only
    split
    · rw [audio_call _ rfl, audio_act, audio_act]
    · rfl
  have hopen : (tickOpen S (tickDeadline S nowMs w)).audio = w.audio := by
    unfold tickOpen
    dsimp only
    repeat' split
    all_goals simp [hdeadline]
  unfold atvvTick
  dsimp only
  repeat' split
  all_goals simp [hopen]

/-- An input is noted if it is audio, and nothing else is. -/
lemma audio_run (i : AtvvInput) : (i.run S w).audio = i.audio?.toList ++ w.audio := by
  cases i with
  | control d => exact audio_atvvOnControl w d
  | audio d =>
    change (atvvOnAudio S d w).audio = d :: w.audio
    unfold atvvOnAudio
    dsimp only
    split
    · rfl
    · split
      · exact audio_fault _ _
      · split
        · exact audio_fault _ _
        · exact audio_call _ rfl
  | tick nowMs => exact audio_atvvTick w nowMs
  | request r => exact (requested_run w r).audio

end Audio

/-! ## Runs -/

/-- The log has the audio of the inputs. -/
lemma audio_atvvRun (profileInitWithoutSync : Bool) (env : E) (inputs : List AtvvInput) :
    (atvvRun S profileInitWithoutSync env inputs).audio.reverse = inputs.filterMap (·.audio?) := by
  induction inputs using List.reverseRecOn with
  | nil => rfl
  | append_singleton inputs i ih =>
    unfold atvvRun at ih ⊢
    rw [List.foldl_append, List.foldl_cons, List.foldl_nil, audio_run, List.reverse_append, ih,
      List.filterMap_append]
    cases i <;> rfl

lemma inv_atvvInit (profileInitWithoutSync : Bool) (env : E) :
    AtvvInv 0 (atvvInit profileInitWithoutSync env) :=
  ⟨⟨nofun, nofun, nofun⟩, rfl, nofun, nofun, nofun, nofun, nofun, nofun, rfl, trivial⟩

/-- The invariant in every run, by induction over its inputs. -/
lemma inv_atvvRun (profileInitWithoutSync : Bool) (env : E) (inputs : List AtvvInput) :
    AtvvInv (streamEnds (atvvRun S profileInitWithoutSync env inputs).log)
      (atvvRun S profileInitWithoutSync env inputs) := by
  induction inputs using List.reverseRecOn with
  | nil => exact inv_atvvInit profileInitWithoutSync env
  | append_singleton inputs i ih =>
    unfold atvvRun at ih ⊢
    rw [List.foldl_append, List.foldl_cons, List.foldl_nil]
    have hinv := inv_run (S := S) ih i
    have hends := hinv.tracks.ends
    rwa [← hends] at hinv

variable (S) in
/-- What holds between two calls of the engine. -/
structure AtvvDiscipline (w : AtvvWorld E) : Prop where
  flags : w.a.Flags
  /-- Each callback came where it may. -/
  disciplined : ∀ after before e, w.log = after ++ e :: before → e.Allowed before
  /-- The next input adds one end if it is an `AUDIO_STOP` of an active stream, and none otherwise. -/
  ends : ∀ i : AtvvInput,
    streamEnds (i.run S w).log = streamEnds w.log + if i.stops w.a then 1 else 0
  /-- In a healthy stream, the right `SYNC` messages are accepted. -/
  sync : ∀ d : List UInt8, d.head? = some 0x0a → inStream w.log = true → streamFaulted w.log = false →
    ((atvvOnControl S d w).1 = true ↔ d.length = 7 ∧ w.a.negotiated (d.getD 1 0) = true ∧
      d.getD 6 0 ≤ 88 ∧
      (d.getD 2 0).toNat * 256 + (d.getD 3 0).toNat =
        streamBytes w.log / w.a.caps.frameSize % 65536 ∧
      streamBytes w.log % w.a.caps.frameSize = 0)

/-- The engine keeps its discipline in every run, with any sink, and its log has heard the audio of the
inputs. -/
theorem atvvRun_discipline (profileInitWithoutSync : Bool) (env : E) (inputs : List AtvvInput) :
    AtvvDiscipline S (atvvRun S profileInitWithoutSync env inputs) ∧
      (atvvRun S profileInitWithoutSync env inputs).audio.reverse = inputs.filterMap (·.audio?) := by
  refine ⟨?_, audio_atvvRun profileInitWithoutSync env inputs⟩
  have h := inv_atvvRun (S := S) profileInitWithoutSync env inputs
  generalize atvvRun S profileInitWithoutSync env inputs = w at h
  refine ⟨h.flags, fun after before e heq => h.tracks.disciplined.allowed heq, fun i => ?_, ?_⟩
  · rw [(inv_run (S := S) h i).tracks.ends]
    split
    · rfl
    · rfl
  · intro d hhead hin hsound
    have hactive : w.a.streamActive = true := h.tracks.active.trans hin
    have hfailed : w.a.failed = false := (h.tracks.failed hactive).trans hsound
    obtain ⟨hno, hbytes⟩ := h.tracks.counted hactive hfailed
    obtain ⟨rest, rfl⟩ : ∃ rest, d = 0x0a :: rest := by
      cases d with
      | nil => cases hhead
      | cons op rest => exact ⟨rest, by rw [Option.some.inj hhead]⟩
    change (onAudioSync S (0x0a :: rest) w).1 = true ↔ _
    unfold onAudioSync
    rw [← hno, ← hbytes]
    simp only [hactive, hfailed, Bool.not_true, Bool.or_self, Bool.false_eq_true, if_false]
    by_cases hfields : (0x0a :: rest : List UInt8).length = 7 ∧
        w.a.negotiated ((0x0a :: rest : List UInt8).getD 1 0) = true ∧
        (0x0a :: rest : List UInt8).getD 6 0 ≤ 88
    · obtain ⟨hlen, hneg, hindex⟩ := hfields
      have hindex' : ¬ (0x0a :: rest : List UInt8).getD 6 0 > 88 := UInt8.not_lt.mpr hindex
      simp only [hlen, hneg, hindex', bne_self_eq_false, Bool.not_true, decide_false, Bool.or_self,
        Bool.false_eq_true, if_false, hindex, true_and]
      by_cases hframe : (((0x0a :: rest : List UInt8).getD 2 0).toNat * 256 +
          ((0x0a :: rest : List UInt8).getD 3 0).toNat = w.a.frameNo.toNat) ∧ w.a.frameBytes = 0
      · refine iff_of_true ?_ hframe
        rw [if_neg]
        · intro hbad
          simp only [Bool.or_eq_true, bne_iff_ne, ne_eq] at hbad
          rcases hbad with hbad | hbad
          · exact hbad hframe.1
          · exact hbad hframe.2
      · refine iff_of_false ?_ hframe
        rw [if_pos]
        · exact nofun
        · by_contra hgo
          simp only [Bool.or_eq_true, bne_iff_ne, not_or, not_not] at hgo
          exact hframe hgo
    · refine iff_of_false ?_ fun hall => hfields ⟨hall.1, hall.2.1, hall.2.2.1⟩
      rw [if_pos]
      · exact nofun
      · by_contra hgo
        simp only [Bool.or_eq_true, bne_iff_ne, Bool.not_eq_true', decide_eq_true_eq, not_or, not_not,
          Bool.not_eq_false] at hgo
        exact hfields ⟨hgo.1.1, hgo.1.2, UInt8.not_lt.mp hgo.2⟩

/-- A sink that accepts every write, wants voice, and stops the engine on a fault. -/
def stoppingSink : AtvvSink Unit where
  writeTx := fun _ _ => (true, ())
  wantVoice := fun _ => true
  callback := fun e _ =>
    match e with
    | .fault _ => ([.stop, .start], ())
    | _ => ([], ())

/-- Two frames of four bytes and their `SYNC`, a wrong `SYNC`, and the end of the stream. -/
example : (atvvRun stoppingSink false () [.control [0x0b, 1, 0, 2, 3, 0, 4, 0, 0], .request .start,
    .control [0x04, 3, 2, 1], .control [0x0a, 2, 0, 0, 0, 0, 5], .audio [1, 2, 3], .audio [4, 5, 6, 7, 8],
    .control [0x0a, 2, 0, 2, 0, 0, 5], .control [0x0a, 2, 0, 1, 0, 0, 5], .audio [9],
    .control [0x00, 0]]).log.reverse =
      [.sourceBegin, .started ⟨16000, [0, 0, 5, 0]⟩, .audio [1, 2, 3], .encoded [1, 2, 3],
       .audio [4, 5, 6, 7, 8], .encoded [4, 5, 6, 7, 8], .format ⟨16000, [0, 0, 5, 0]⟩,
       .fault .sourceDataLost, .audio [9], .ended .normal] := by decide +kernel

end RemoteBridge
