import RemoteBridge.Properties.CacheRecord

/-!
# What a discovery knows of the attributes

A discovery learns one fact about the attributes after another, and each `Finding` holds from the first state
that relies on it to the last.  `StageAt` are the facts of a state.  At every moment the adapter either holds
the attributes of a finished discovery, or is on its way to them with the facts of its state, or has none
that could be exported.  This module says what `begin_next` makes of the facts of a state.
-/

namespace RemoteBridge

namespace Rc003

/-! ## What a discovery knows -/

/-- What is known of the attributes. -/
inductive Finding where
  | short | subscribed | waiting | ahead | changed | profile | voice | plain | unicom | present
  | tx | ctl | ctlCccd | audio | audioCccd | fd | fdCccd
  deriving DecidableEq

namespace Finding

instance : Fintype Finding where
  elems := {.short, .subscribed, .waiting, .ahead, .changed, .profile, .voice, .plain, .unicom, .present,
    .tx, .ctl, .ctlCccd, .audio, .audioCccd, .fd, .fdCccd}
  complete f := by cases f <;> decide

/-- The first and the last state with a fact. -/
def first : Finding → Nat
  | .short | .subscribed | .waiting => 0
  | .changed => 5
  | .profile => 16
  | .ahead => 17
  | .voice => 19
  | .plain => 23
  | .present => 24
  | .tx => 25
  | .ctl => 26
  | .ctlCccd => 27
  | .audio => 29
  | .audioCccd => 30
  | .unicom => 32
  | .fd => 34
  | .fdCccd => 35

def last : Finding → Nat
  | .waiting => 16
  | .ahead => 17
  | .plain | .present | .tx | .ctl | .ctlCccd | .audio | .audioCccd => 31
  | _ => 36

/-- A fact of an adapter.  A characteristic is subscribed once, when its configuration is known. -/
def Holds (b : AdapterBuild) (a : Rc003) : Finding → Prop
  | .short => a.mapBuf.length ≤ hogpMaxMapSize
  | .subscribed => ∀ c ∈ a.chars, c.subscribed = true → c.cccdHandle ≠ 0
  | .waiting => ∀ c ∈ a.chars, c.subscribed = false
  | .ahead => ∀ i (hi : i < a.chars.length), a.curChar ≤ i → a.chars[i].subscribed = false
  | .changed => a.serviceChangedHandle ≠ 0 → a.serviceChangedCccd ≠ 0
  | .profile => a.unicom.selected = (a.mapBuf == unicomMap) ∧ a.rc003BootLayout = bootLayoutMap a.mapBuf ∧
      (a.unicom.selected = false → (hogpReportMapParse a.mapBuf).isSome = true) ∧ MapKnown b a
  | .voice => a.unicom.selected = true → VoiceFound a
  | .plain => a.unicom.selected = false
  | .unicom => a.unicom.selected = true
  | .present => a.atvvPresent = true
  | .tx => a.atvvTxHandle ≠ 0
  | .ctl => a.atvvCtlHandle ≠ 0
  | .ctlCccd => a.atvvCtlCccd ≠ 0
  | .audio => a.atvvAudioHandle ≠ 0
  | .audioCccd => a.atvvAudioCccd ≠ 0
  | .fd => a.unicom.fd ≠ 0
  | .fdCccd => a.unicom.fdCccd ≠ 0

variable {b : AdapterBuild} {a a' : Rc003} {f : Finding}

/-- A fact is one of the attributes and the current characteristic. -/
lemma Holds.congr (h : Holds b a f) (hs : a'.attributes = a.attributes) (hc : a'.curChar = a.curChar) :
    Holds b a' f := by
  simp only [attributes, Prod.mk.injEq, List.cons.injEq] at hs
  obtain ⟨hchars, hmap, ⟨htx, hctl, hctlCccd, haudio, haudioCccd, hchanged, hcccd, hfd, hfdCccd, hfb, hfc,
    hf8, -⟩, hselected, hboot, hpresent, -⟩ := hs
  cases f with
  | voice =>
    intro hs
    exact (h (hselected.symm.trans hs)).congr hchars
      ⟨fun _ => hfb.symm, fun _ => hfc.symm, fun _ => hf8.symm⟩
  | profile =>
    obtain ⟨hs, hb, hparse, hknown⟩ := h
    simp only [Holds, MapKnown]
    rw [hselected, hboot, hmap]
    exact ⟨hs, hb, hparse, hknown⟩
  | _ =>
    simp only [Holds]
    simp only [Holds] at h
    simp only [hchars, hmap, hc, hchanged, hcccd, hselected, hpresent, htx, hctl, hctlCccd, haudio,
      haudioCccd, hfd, hfdCccd]
    exact h

end Finding

/-- The facts of the `n`-th state. -/
def StageAt (b : AdapterBuild) (n : Nat) (a : Rc003) : Prop :=
  ∀ f : Finding, f.first ≤ n → n ≤ f.last → f.Holds b a

namespace StageAt

variable {b : AdapterBuild} {a a' : Rc003} {n m : Nat}

/-- The next state needs the facts that begin between the two. -/
lemma mono (h : StageAt b n a) (hle : n ≤ m)
    (hnew : ∀ f : Finding, n < f.first → f.first ≤ m → m ≤ f.last → f.Holds b a) : StageAt b m a := by
  intro f hfirst hlast
  rcases Nat.lt_or_ge n f.first with hlt | hge
  · exact hnew f hlt hfirst hlast
  · exact h f hge (hle.trans hlast)

lemma congr (h : StageAt b n a) (hs : a'.attributes = a.attributes) (hc : a'.curChar = a.curChar) :
    StageAt b n a' :=
  fun f hfirst hlast => (h f hfirst hlast).congr hs hc

/-- Discovery is over with the voice engine of the RC003. -/
lemma kept_atvv (h : StageAt b 31 a) : Gathered a ∧ MapKnown b a := by
  obtain ⟨hs, hb, hparse, hknown⟩ := h .profile (by decide) (by decide)
  have hplain : a.unicom.selected = false := h .plain (by decide) (by decide)
  refine ⟨⟨h .short (by decide) (by decide), h .subscribed (by decide) (by decide),
    h .changed (by decide) (by decide), hs, hb,
    fun hf => absurd (hplain.symm.trans hf) Bool.false_ne_true, fun _ => ⟨hparse hplain, ?_⟩⟩, hknown⟩
  exact ⟨h .present (by decide) (by decide), h .tx (by decide) (by decide), h .ctl (by decide) (by decide),
    h .ctlCccd (by decide) (by decide), h .audio (by decide) (by decide),
    h .audioCccd (by decide) (by decide)⟩

/-- Discovery is over with the voice service of a Unicom remote. -/
lemma kept_unicom (h : StageAt b 36 a) : Gathered a ∧ MapKnown b a := by
  obtain ⟨hs, hb, -, hknown⟩ := h .profile (by decide) (by decide)
  have hunicom : a.unicom.selected = true := h .unicom (by decide) (by decide)
  refine ⟨⟨h .short (by decide) (by decide), h .subscribed (by decide) (by decide),
    h .changed (by decide) (by decide), hs, hb,
    fun _ => ⟨h .fd (by decide) (by decide), h .fdCccd (by decide) (by decide), ?_⟩,
    fun hf => absurd (hunicom.symm.trans hf) (Bool.false_ne_true ∘ Eq.symm)⟩, hknown⟩
  exact h .voice (by decide) (by decide) hunicom

end StageAt

end Rc003

/-! ## Where an adapter stands -/

namespace DiscState

/-- Discovery is under way. -/
def discovers : DiscState → Bool
  | .idle | .done | .failed => false
  | _ => true

/-- The states of an adapter with restored attributes. -/
def restores : DiscState → Bool
  | .mtu | .subChanged | .readProtocolMode | .setProtocolMode | .verifyProtocolMode | .unicomSub
  | .unicomWait | .readBattery | .subscribeCtl | .subscribeAudio | .atvvPrehandshake => true
  | _ => false

end DiscState

namespace Rc003

/-- The attributes of a finished discovery.  The only discovery under way is one with restored attributes. -/
structure Imported (b : AdapterBuild) (a : Rc003) : Prop where
  kept : Gathered a
  known : MapKnown b a
  live : a.state.discovers = true → a.restoring = true ∧ a.state.restores = true

/-- Nothing was finished since the adapter was initialised. -/
def Unfinished (a : Rc003) : Prop := a.restoring = false ∧ a.cacheValid = false ∧ a.voiceReady = false

/-- A discovery with the facts of its state. -/
structure Seeking (b : AdapterBuild) (a : Rc003) : Prop where
  unfinished : Unfinished a
  discovers : a.state.discovers = true
  stage : StageAt b a.state.major a

/-- A discovery between two events, with what `begin_next` checks before it submits. -/
structure Recorded (b : AdapterBuild) (a : Rc003) : Prop extends Seeking b a where
  asked : a.state = .subscribeReport → a.char.cccdHandle ≠ 0
  checked : a.state = .findBatSvc → a.unicom.selected = true → VoiceFound a

/-- A discovery that ended without attributes to keep. -/
structure Over (a : Rc003) : Prop where
  unfinished : Unfinished a
  stopped : a.state.discovers = false
  plain : a.state = .done → a.unicom.selected = false

/-- What holds of an adapter at every moment. -/
def Coherent (b : AdapterBuild) (a : Rc003) : Prop := Imported b a ∨ Recorded b a ∨ Over a

variable {b : AdapterBuild} {a a' : Rc003} {s : DiscState}

lemma MapKnown.congr (h : MapKnown b a) (hs : a'.attributes = a.attributes) : MapKnown b a' := by
  simp only [attributes, Prod.mk.injEq, List.cons.injEq] at hs
  unfold MapKnown at h ⊢
  rwa [hs.2.2.2.1, hs.2.2.2.2.1]

lemma Imported.of (h : Imported b a) (hs : a'.attributes = a.attributes)
    (hlive : a'.state.discovers = true → a'.restoring = true ∧ a'.state.restores = true) : Imported b a' :=
  ⟨h.kept.congr hs, h.known.congr hs, hlive⟩

lemma Imported.same (h : Imported b a) (hs : a'.attributes = a.attributes) (hstate : a'.state = a.state)
    (hrestoring : a'.restoring = a.restoring) : Imported b a' :=
  h.of hs (by rw [hstate, hrestoring]; exact h.live)

/-- An adapter that is not restoring holds what it found. -/
lemma Imported.ended (h : Imported b a) (hs : a'.attributes = a.attributes) (hstate : a'.state.discovers = false) :
    Imported b a' :=
  h.of hs fun hd => absurd (hstate.symm.trans hd) Bool.false_ne_true

/-- Restored attributes are used in a state that restores. -/
lemma Imported.start (h : Imported b a) (hrestoring : a.restoring = true) (hs : s.restores = true) :
    Imported b (a.startOp s) := by
  have hstate : (a.startOp s).state = s := by
    unfold startOp
    dsimp only
    split_ifs with hredirect
    · rw [hredirect.1] at hs
      exact absurd hs Bool.false_ne_true
    · rfl
  exact h.of rfl fun _ => ⟨hrestoring, by rw [hstate]; exact hs⟩

/-- `begin_next` has nothing to decide about restored attributes. -/
lemma Imported.beginOp {op : DiscOp} (h : Imported b a) (hop : a.beginOp b = (a', op)) :
    a' = a ∧ (op = .wait ∨ op = .nothing ∨ ∃ r, op = .ask r) := by
  have hlive := h.live
  unfold Rc003.beginOp at hop
  cases hstate : a.state
  all_goals
    rw [hstate] at hop hlive
    first
    | exact absurd (hlive rfl).2 (by decide)
    | (obtain ⟨rfl, rfl⟩ := Prod.mk.inj hop
       first
       | exact ⟨rfl, .inr (.inr ⟨_, rfl⟩)⟩
       | exact ⟨rfl, .inr (.inl rfl)⟩
       | exact ⟨rfl, .inl rfl⟩)

/-! ## Steps of a discovery -/

namespace StageAt

variable {n m : Nat}

/-- A state that learns nothing. -/
lemma keep (h : StageAt b n a) (hle : n ≤ m)
    (hno : ∀ f : Finding, ¬(n < f.first ∧ f.first ≤ m ∧ m ≤ f.last)) : StageAt b m a :=
  h.mono hle fun f hlt hfirst hlast => absurd ⟨hlt, hfirst, hlast⟩ (hno f)

/-- A state that learns one fact. -/
lemma learn {f₀ : Finding} (h : StageAt b n a) (hf : f₀.Holds b a) (hle : n ≤ m)
    (hone : ∀ f : Finding, n < f.first → f.first ≤ m → m ≤ f.last → f = f₀) : StageAt b m a :=
  h.mono hle fun f hlt hfirst hlast => by rw [hone f hlt hfirst hlast]; exact hf

end StageAt

lemma startOp_state (hs : s ≠ .findAtvvSvc) : (a.startOp s).state = s := by
  unfold startOp
  dsimp only
  rw [if_neg fun h => hs h.1]

lemma startOp_attributes : (a.startOp s).attributes = a.attributes := rfl

namespace Seeking

/-- A state starts with its facts. -/
lemma start (hu : Unfinished a) (hs : s.discovers = true) (hstage : StageAt b (a.startOp s).state.major a) :
    Seeking b (a.startOp s) := by
  refine ⟨hu, ?_, hstage.congr startOp_attributes rfl⟩
  unfold startOp
  dsimp only
  split_ifs
  · rfl
  · exact hs

lemma startAt (hu : Unfinished a) (hs : s.discovers = true) (hne : s ≠ .findAtvvSvc)
    (hstage : StageAt b s.major a) : Seeking b (a.startOp s) :=
  start hu hs (by rwa [startOp_state hne])

/-- The voice service of the profile, once the reports of the profile are known. -/
lemma startAtvv {n : Nat} (hu : Unfinished a) (h : StageAt b n a) (hlo : 18 ≤ n) (hhi : n ≤ 22)
    (hvoice : a.unicom.selected = true → VoiceFound a) : Seeking b (a.startOp .findAtvvSvc) := by
  refine start hu rfl ?_
  unfold startOp
  dsimp only
  split_ifs with hselected
  · refine h.mono (by change n ≤ 32; omega) fun f hlt hfirst hlast => ?_
    cases f
    case voice => exact hvoice
    case unicom => exact hselected.2
    all_goals first
    | exact absurd hlast (by decide)
    | exact absurd hfirst (by decide)
    | exact absurd hlt (by simp only [Finding.first]; omega)
  · have hplain : a.unicom.selected = false := Bool.not_eq_true _ ▸ fun hs => hselected ⟨rfl, hs⟩
    refine h.mono (by change n ≤ 23; omega) fun f hlt hfirst hlast => ?_
    cases f
    case voice => exact hvoice
    case plain => exact hplain
    all_goals first
    | exact absurd hlast (by decide)
    | exact absurd hfirst (by decide)
    | exact absurd hlt (by simp only [Finding.first]; omega)

lemma same (h : Seeking b a) (hs : a'.attributes = a.attributes) (hc : a'.curChar = a.curChar)
    (hstate : a'.state = a.state) (hu : Unfinished a') : Seeking b a' :=
  ⟨hu, by rw [hstate]; exact h.discovers, by rw [hstate]; exact h.stage.congr hs hc⟩

lemma stageAt (h : Seeking b a) (hstate : a.state = s) : StageAt b s.major a := by
  rw [← hstate]
  exact h.stage

/-- Where the checks of `begin_next` are of no concern. -/
lemma settled (h : Seeking b a) (hne : a.state ≠ .subscribeReport) (hne' : a.state ≠ .findBatSvc) :
    Recorded b a :=
  ⟨h, fun hf => absurd hf hne, fun hf => absurd hf hne'⟩

end Seeking

/-- Nothing is kept of a discovery that fails. -/
lemma Over.failed (hu : Unfinished a) (hstate : a.state = .failed) : Over a :=
  ⟨hu, by rw [hstate]; rfl, fun hf => absurd (hstate.symm.trans hf) (by decide)⟩

lemma Recorded.same (h : Recorded b a) (hs : a'.attributes = a.attributes) (hc : a'.curChar = a.curChar)
    (hstate : a'.state = a.state) (hu : Unfinished a') : Recorded b a' := by
  have hseeking := h.toSeeking.same hs hc hstate hu
  simp only [attributes, Prod.mk.injEq, List.cons.injEq] at hs
  obtain ⟨hchars, -, ⟨-, -, -, -, -, -, -, -, -, hfb, hfc, hf8, -⟩, hselected, -⟩ := hs
  refine ⟨hseeking, fun hf => ?_, fun hf hsel => ?_⟩
  · unfold char
    rw [hchars, hc]
    exact h.asked (hstate.symm.trans hf)
  · exact (h.checked (hstate.symm.trans hf) (hselected.symm.trans hsel)).congr hchars
      ⟨fun _ => hfb.symm, fun _ => hfc.symm, fun _ => hf8.symm⟩

lemma Over.same (h : Over a) (hselected : a'.unicom.selected = a.unicom.selected)
    (hstate : a'.state = a.state) (hu : Unfinished a') : Over a' :=
  ⟨hu, by rw [hstate]; exact h.stopped, fun hf => hselected.trans (h.plain (hstate.symm.trans hf))⟩

/-- A step that leaves attributes and state alone. -/
lemma Coherent.same (h : Coherent b a) (hs : a'.attributes = a.attributes) (hc : a'.curChar = a.curChar)
    (hstate : a'.state = a.state) (hrestoring : a'.restoring = a.restoring)
    (hvalid : a.cacheValid = false → a'.cacheValid = false) (hready : a'.voiceReady = a.voiceReady) :
    Coherent b a' := by
  have hu (hold : Unfinished a) : Unfinished a' :=
    ⟨hrestoring.trans hold.1, hvalid hold.2.1, hready.trans hold.2.2⟩
  rcases h with h | h | h
  · exact .inl (h.same hs hstate hrestoring)
  · exact .inr (.inl (h.same hs hc hstate (hu h.unfinished)))
  · have hselected : a'.unicom.selected = a.unicom.selected := by
      simp only [attributes, Prod.mk.injEq, List.cons.injEq] at hs
      exact hs.2.2.2.1
    exact .inr (.inr (h.same hselected hstate (hu h.unfinished)))

/-! ## Characteristics -/

/-- The facts of the current characteristic while its attributes are looked for. -/
lemma StageAt.modifyChar {f : ReportAttr → ReportAttr} (h : StageAt b 17 a)
    (hf : ∀ c, c.subscribed = false → (f c).subscribed = false) : StageAt b 17 (a.modifyChar f) := by
  have hahead : ∀ i (hi : i < a.chars.length), a.curChar ≤ i → a.chars[i].subscribed = false :=
    h .ahead (by decide) (by decide)
  have hsubscribed : ∀ c ∈ a.chars, c.subscribed = true → c.cccdHandle ≠ 0 :=
    h .subscribed (by decide) (by decide)
  have hnew : ∀ i (hi : i < (a.chars.modify a.curChar f).length), a.curChar ≤ i →
      (a.chars.modify a.curChar f)[i].subscribed = false := by
    intro i hi hle
    have hold := hahead i (by simpa using hi) hle
    rw [List.getElem_modify]
    split_ifs
    · exact hf _ hold
    · exact hold
  intro g hfirst hlast
  have hold := h g hfirst hlast
  cases g
  case ahead => exact hnew
  case subscribed =>
    intro c hc hsub
    have hmem : c ∈ a.chars.modify a.curChar f := hc
    obtain ⟨i, hi, hci⟩ := List.mem_iff_getElem.mp hmem
    have hlt : i < a.curChar := by
      by_contra hge
      exact Bool.false_ne_true ((hnew i hi (not_lt.mp hge)).symm.trans (hci ▸ hsub))
    rw [List.getElem_modify, if_neg hlt.ne'] at hci
    exact hsubscribed c (hci ▸ List.getElem_mem _) hsub
  case waiting => exact absurd hlast (by decide)
  case voice => exact absurd hfirst (by decide)
  all_goals exact hold

/-- A change of an attribute that nothing is known of yet. -/
lemma Recorded.change (h : Recorded b a) (hstate : a.state = s) (hne : s ≠ .subscribeReport)
    (hne' : s ≠ .findBatSvc)
    (hsame : ∀ f : Finding, f.first ≤ s.major → s.major ≤ f.last → f.Holds b a → f.Holds b a')
    (hstate' : a'.state = s) (hu : Unfinished a') : Recorded b a' := by
  have hlive := h.discovers
  have hseeking : Seeking b a' := by
    refine ⟨hu, ?_, ?_⟩
    · rw [hstate', ← hstate]
      exact hlive
    · rw [hstate']
      exact fun f hfirst hlast => hsame f hfirst hlast (h.stageAt hstate f hfirst hlast)
  exact hseeking.settled (by rw [hstate']; exact hne) (by rw [hstate']; exact hne')

/-- The next characteristic, whether or not the current one is subscribed. -/
lemma StageAt.nextChar (h : ∀ f : Finding, f ≠ .ahead → f.first ≤ 17 → 17 ≤ f.last → f.Holds b a)
    (hahead : ∀ i (hi : i < a.chars.length), a.curChar + 1 ≤ i → a.chars[i].subscribed = false) :
    StageAt b 17 { a with curChar := a.curChar + 1 } := by
  intro f hfirst hlast
  by_cases hf : f = .ahead
  · rw [hf]
    exact hahead
  · have hold := h f hf hfirst hlast
    cases f
    case voice => exact absurd hfirst (by decide)
    all_goals first
    | exact absurd rfl hf
    | exact hold

/-- The battery comes after the last characteristic. -/
lemma StageAt.lastChar (h : ∀ f : Finding, f ≠ .ahead → f.first ≤ 17 → 17 ≤ f.last → f.Holds b a) :
    StageAt b 18 a := by
  intro f hfirst hlast
  have hne : f ≠ .ahead := by
    rintro rfl
    exact absurd hlast (by decide)
  refine h f hne ?_ (le_trans (by decide) hlast)
  revert hfirst hlast
  revert f
  decide

/-! ## What `begin_next` decides -/

/-- Where `begin_next` leaves a discovery, by what it does. -/
def Leads (b : AdapterBuild) (a a' : Rc003) : DiscOp → Prop
  | .go s => Seeking b (a'.startOp s)
  | .ask _ => Recorded b a'
  | .bad _ | .stop _ => Unfinished a'
  | .wait | .nothing => a' = a ∧ Recorded b a

namespace Seeking

variable {op : DiscOp}

/-- The facts of a characteristic are enough for the next one. -/
lemma goOn (h : Unfinished a)
    (hfacts : ∀ f : Finding, f ≠ .ahead → f.first ≤ 17 → 17 ≤ f.last → f.Holds b a)
    (hahead : ∀ i (hi : i < a.chars.length), a.curChar + 1 ≤ i → a.chars[i].subscribed = false) :
    Seeking b (({ a with curChar := a.curChar + 1 } : Rc003).startOp .discDescs) ∧
      Seeking b (a.startOp .findBatSvc) :=
  ⟨startAt h rfl (by decide) (StageAt.nextChar hfacts hahead),
    startAt h rfl (by decide) (StageAt.lastChar hfacts)⟩

lemma ahead (h : StageAt b 17 a) :
    (∀ f : Finding, f ≠ .ahead → f.first ≤ 17 → 17 ≤ f.last → f.Holds b a) ∧
      ∀ i (hi : i < a.chars.length), a.curChar + 1 ≤ i → a.chars[i].subscribed = false :=
  ⟨fun f _ => h f, fun i hi hle => h .ahead (by decide) (by decide) i hi ((Nat.le_succ _).trans hle)⟩

lemma beginDescs (h : Seeking b a) (hstate : a.state = .discDescs) (hop : a.beginDescs = (a', op)) :
    Leads b a a' op := by
  have hstage : StageAt b 17 a := h.stageAt hstate
  unfold Rc003.beginDescs at hop
  dsimp only at hop
  split_ifs at hop
  · obtain ⟨rfl, rfl⟩ := Prod.mk.inj hop
    exact h.settled (by rw [hstate]; decide) (by rw [hstate]; decide)
  · have hreset : StageAt b 17 (a.modifyChar fun c => { c with refHandle := 0, cccdHandle := 0 }) :=
      hstage.modifyChar fun _ hc => hc
    have hu : Unfinished (a.modifyChar fun c => { c with refHandle := 0, cccdHandle := 0 }) := h.unfinished
    obtain ⟨hfacts, hahead⟩ := ahead hreset
    have hnext := goOn hu hfacts hahead
    unfold Rc003.nextChar at hop
    split_ifs at hop
    · obtain ⟨rfl, rfl⟩ := Prod.mk.inj hop
      exact hnext.1
    · obtain ⟨rfl, rfl⟩ := Prod.mk.inj hop
      exact hnext.2

lemma beginSubscribe (h : Seeking b a) (hstate : a.state = .subscribeReport)
    (hop : a.beginSubscribe = (a', op)) : Leads b a a' op := by
  have hstage : StageAt b 17 a := h.stageAt hstate
  unfold Rc003.beginSubscribe at hop
  dsimp only at hop
  split_ifs at hop with hskip hlast
  · obtain ⟨hfacts, hahead⟩ := ahead hstage
    obtain ⟨rfl, rfl⟩ := Prod.mk.inj hop
    have hnext : StageAt b 17 { a with curChar := a.curChar + 1 } := StageAt.nextChar hfacts hahead
    exact startAt h.unfinished rfl (by decide) (StageAt.lastChar fun f _ => hnext f)
  · obtain ⟨hfacts, hahead⟩ := ahead hstage
    obtain ⟨rfl, rfl⟩ := Prod.mk.inj hop
    exact (goOn h.unfinished hfacts hahead).1
  · obtain ⟨rfl, rfl⟩ := Prod.mk.inj hop
    exact ⟨h, fun _ hzero => hskip (.inl hzero), fun hf => absurd (hstate.symm.trans hf) (by decide)⟩

lemma beginBattery (h : Seeking b a) (hstate : a.state = .findBatSvc)
    (hop : a.beginBattery = (a', op)) : Leads b a a' op := by
  have hstage : StageAt b 18 a := h.stageAt hstate
  have hchecked : a.checkReports.2 = true → Recorded b a.checkReports.1 := by
    unfold Rc003.checkReports
    split_ifs with hselected
    · intro hcomplete
      obtain ⟨hsame, -, -, -⟩ := unicomReports_same a
      refine ⟨⟨h.unfinished, h.discovers, ?_⟩, fun hf => absurd (hstate.symm.trans hf) (by decide),
        fun _ _ => .of_reports hcomplete⟩
      intro f hfirst hlast
      have hold := h.stage f hfirst hlast
      change f.first ≤ a.state.major at hfirst
      rw [hstate] at hfirst
      cases f
      case profile =>
        obtain ⟨hs, hb, hparse, hknown⟩ := hold
        exact ⟨hsame.trans hs, hb, fun hf => hparse (hsame.symm.trans hf),
          fun hb' => (hknown hb').imp (fun hs => hsame.trans hs) id⟩
      case short | subscribed | waiting | ahead | changed => exact hold
      all_goals exact absurd hfirst (by decide)
    · intro _
      exact ⟨h, fun hf => absurd (hstate.symm.trans hf) (by decide),
        fun _ hs => absurd hs hselected⟩
  have hunfinished : Unfinished a.checkReports.1 := by
    unfold Rc003.checkReports
    split_ifs
    · exact h.unfinished
    · exact h.unfinished
  unfold Rc003.beginBattery at hop
  dsimp only at hop
  split_ifs at hop with hbad
  · obtain ⟨rfl, rfl⟩ := Prod.mk.inj hop
    exact hunfinished
  · obtain ⟨rfl, rfl⟩ := Prod.mk.inj hop
    exact hunfinished
  · obtain ⟨rfl, rfl⟩ := Prod.mk.inj hop
    exact hunfinished
  · obtain ⟨rfl, rfl⟩ := Prod.mk.inj hop
    exact hchecked (Bool.not_eq_false _ ▸ hbad)

lemma beginOp (h : Seeking b a) (hop : a.beginOp b = (a', op)) : Leads b a a' op := by
  have hlive := h.discovers
  unfold Rc003.beginOp at hop
  cases hstate : a.state
  case discDescs =>
    rw [hstate] at hop
    exact h.beginDescs hstate hop
  case subscribeReport =>
    rw [hstate] at hop
    exact h.beginSubscribe hstate hop
  case findBatSvc =>
    rw [hstate] at hop
    exact h.beginBattery hstate hop
  case readMap =>
    rw [hstate] at hop
    obtain ⟨rfl, rfl⟩ := Prod.mk.inj hop
    have hstage : StageAt b 14 { a with mapBuf := [], mapLongStarted := false } := by
      intro f hfirst hlast
      have hold := h.stage f (by rw [hstate]; exact hfirst) (by rw [hstate]; exact hlast)
      cases f
      case short => exact Nat.zero_le _
      case subscribed | waiting | changed => exact hold
      all_goals exact absurd hfirst (by decide)
    have hseeking : Seeking b { a with state := .readMap, mapBuf := [], mapLongStarted := false } :=
      ⟨h.unfinished, rfl, hstage.congr rfl rfl⟩
    exact hseeking.settled (show DiscState.readMap ≠ .subscribeReport by decide)
      (show DiscState.readMap ≠ .findBatSvc by decide)
  case idle | done | failed =>
    rw [hstate] at hlive
    exact absurd hlive (by decide)
  case unicomWait =>
    rw [hstate] at hop
    obtain ⟨rfl, rfl⟩ := Prod.mk.inj hop
    exact ⟨rfl, h.settled (by rw [hstate]; decide) (by rw [hstate]; decide)⟩
  all_goals
    rw [hstate] at hop
    obtain ⟨rfl, rfl⟩ := Prod.mk.inj hop
    exact h.settled (by rw [hstate]; decide) (by rw [hstate]; decide)

end Seeking

end Rc003

end RemoteBridge
