import RemoteBridge.Properties.DiscoveryFacts

/-!
# Every step of the adapter keeps its facts

Restored attributes survive whatever a restore does, and a discovery goes on with the facts of its next state
or ends without attributes to keep.  The two mutually recursive functions of the pump are treated once for
each, by their common recursion, and every event, tick and notification after them.

The facts themselves are those of `DiscoveryFacts`.  A step of the discovery learns at most one of them: an
answer that fits the request in flight adds its finding and moves to the state that relies on it, and an
answer that does not fit, an error, a timeout or a lost link ends the discovery.  So the lemmas below come in
the order of the states, one for each handler, and each of them needs only the findings of its own state.

There are two ways into a state, by discovery and by restoring a cached record.  A restore asks for nothing
that a record holds; it only subscribes again.  Its lemmas come first and once more at the end, since the
subscriptions are shared with discovery.

What the attributes are worth to the decoders, that is whether the handles belong to the reports of the map,
is not decided here but in `CacheRecord`.
-/

namespace RemoteBridge

/-! ## Restored attributes -/

namespace DiscWorld

open Rc003 (Imported Coherent Recorded Seeking Over Unfinished Gathered MapKnown StageAt Finding VoiceFound)

variable {G : Type} {b : AdapterBuild} {client : GattClient G} {w w' : DiscWorld G} {s : DiscState}

section Restored

lemma imported_failInit (h : Imported b w.a) (cause : String) (invalidate : Bool) :
    Imported b (failInit cause invalidate w).a := by
  unfold failInit
  dsimp only
  split_ifs
  all_goals exact h.ended rfl rfl

lemma imported_finishVoiceReady (h : Imported b w.a) : Imported b (finishVoiceReady w).a := by
  unfold finishVoiceReady
  split_ifs
  · exact h
  · dsimp only
    split_ifs
    all_goals exact h.ended rfl rfl

lemma imported_unicomReady (h : Imported b w.a) : Imported b (unicomReady w).a := by
  unfold unicomReady
  dsimp only
  split_ifs
  all_goals exact h.ended rfl rfl

lemma imported_accepted (h : Imported b w.a) : Imported b (accepted w).a := by
  unfold accepted
  split_ifs
  · have hasked : Imported b (w.act fun a => { a with
        capsRequested := true, deadlineMs := a.nowMs + initTimeoutMs }).a := by
      refine h.of ?_ ?_
      · simp only [act, Rc003.attributes]
      · simp only [act]
        exact h.live
    have hdone := imported_finishVoiceReady hasked
    dsimp only
    split_ifs
    · exact hdone.same rfl rfl rfl
    · exact hdone
  · exact h.same rfl rfl rfl

/-- Restored attributes survive `begin_next` and `handle_op_failure`. -/
lemma imported_pump (b : AdapterBuild) (client : GattClient G) :
    (∀ w : DiscWorld G, Imported b w.a → Imported b (beginNext b client w).a) ∧
      ∀ w : DiscWorld G, Imported b w.a → Imported b (handleOpFailure b client w).a := by
  -- one case for each branch of the two functions, in their order
  refine beginNext.mutual_induct b client (fun w => Imported b w.a → Imported b (beginNext b client w).a)
    (fun w => Imported b w.a → Imported b (handleOpFailure b client w).a) ?_ ?_ ?_ ?_ ?_ ?_ ?_ ?_ ?_ ?_ ?_ ?_ ?_
  · intro w a s hop ih h
    obtain ⟨-, hf | hf | ⟨r, hf⟩⟩ := h.beginOp hop <;> cases hf
  · intro w a why hop h
    obtain ⟨-, hf | hf | ⟨r, hf⟩⟩ := h.beginOp hop <;> cases hf
  · intro w a message hop h
    obtain ⟨-, hf | hf | ⟨r, hf⟩⟩ := h.beginOp hop <;> cases hf
  · intro w a hop h
    rw [beginNext, hop]
    exact h
  · intro w a hop h
    rw [beginNext, hop]
    exact imported_accepted h
  · intro w a r hop hret h
    obtain ⟨rfl, -⟩ := h.beginOp hop
    rw [beginNext, hop]
    dsimp only
    rw [hret]
    exact h.same rfl rfl rfl
  · intro w a r hop hret ih h
    obtain ⟨rfl, -⟩ := h.beginOp hop
    rw [beginNext, hop]
    dsimp only
    rw [hret]
    exact ih (h.same rfl rfl rfl)
  · intro w a r hop hret hset ih h
    obtain ⟨rfl, -⟩ := h.beginOp hop
    rw [beginNext, hop]
    dsimp only
    rw [hret]
    dsimp only
    rw [dif_pos hset]
    exact ih (h.start (h.live (by rw [hset]; rfl)).1 rfl)
  · intro w a r hop hret hset h
    obtain ⟨rfl, -⟩ := h.beginOp hop
    rw [beginNext, hop]
    dsimp only
    rw [hret]
    dsimp only
    rw [dif_neg hset]
    exact imported_accepted (h.same rfl rfl rfl)
  · intro w hrestoring h
    rw [handleOpFailure, if_pos hrestoring]
    exact imported_failInit h _ _
  · intro w hrestoring a s hop ih h
    have hstate : w.a.state.discovers = true := by
      by_contra hno
      revert hop
      unfold failureOp
      cases hs : w.a.state <;> rw [hs] at hno <;> first | exact absurd rfl hno | (intro hop; cases hop)
    exact absurd (h.live hstate).1 hrestoring
  · intro w hrestoring a why hop h
    rw [handleOpFailure, if_neg hrestoring, hop]
    exact imported_failInit h _ _
  · intro w hrestoring a voice hop h
    have hstate : w.a.state.discovers = true := by
      by_contra hno
      revert hop
      unfold failureOp
      cases hs : w.a.state <;> rw [hs] at hno <;> first | exact absurd rfl hno | (intro hop; cases hop)
    exact absurd (h.live hstate).1 hrestoring

end Restored

/-! ## Discovery -/

section Discovery

lemma unfinished_failInit {a : Rc003} (h : Unfinished a) (cause : String) (invalidate : Bool) :
    Over (failInit cause invalidate { w with a }).a := by
  obtain ⟨hrestoring, hvalid, hready⟩ := h
  unfold failInit
  dsimp only
  split_ifs
  all_goals exact .failed ⟨hrestoring, by rw [hvalid]; rfl, hready⟩ rfl

lemma sound_failInit (h : Coherent b w.a) (cause : String) (invalidate : Bool) :
    Coherent b (failInit cause invalidate w).a := by
  rcases h with h | h | h
  · exact .inl (imported_failInit h _ _)
  · exact .inr (.inr (unfinished_failInit h.unfinished _ _))
  · exact .inr (.inr (unfinished_failInit h.unfinished _ _))

/-- The voice engine of an RC003 is ready, and its attributes are kept. -/
lemma sound_finishVoiceReady (h : Coherent b w.a) : Coherent b (finishVoiceReady w).a := by
  rcases h with h | h | h
  · exact .inl (imported_finishVoiceReady h)
  · unfold finishVoiceReady
    split_ifs with hno
    · exact .inr (.inl h)
    · have hstate : w.a.state = .atvvPrehandshake := not_not.mp fun hne => hno (.inl hne)
      have hstage : StageAt b 31 w.a := h.stageAt hstate
      obtain ⟨hkept, hknown⟩ := hstage.kept_atvv
      have hlive : ∀ a' : Rc003, a'.attributes = w.a.attributes → a'.state = .done → Imported b a' :=
        fun a' hs hdone => ⟨hkept.congr hs, hknown.congr hs, fun hd => by rw [hdone] at hd; cases hd⟩
      dsimp only
      split_ifs
      all_goals exact .inl (hlive _ rfl rfl)
  · unfold finishVoiceReady
    split_ifs with hno
    · exact .inr (.inr h)
    · have hstate : w.a.state = .atvvPrehandshake := not_not.mp fun hne => hno (.inl hne)
      have hstopped := h.stopped
      rw [hstate] at hstopped
      cases hstopped

lemma sound_accepted (h : Recorded b w.a) : Coherent b (accepted w).a := by
  unfold accepted
  split_ifs
  · have hasked : Coherent b (w.act fun a => { a with
        capsRequested := true, deadlineMs := a.nowMs + initTimeoutMs }).a := by
      refine .inr (.inl (h.same ?_ ?_ ?_ ?_))
      · simp only [act, Rc003.attributes]
      · simp only [act]
      · simp only [act]
      · simp only [act, Rc003.Unfinished]
        exact h.unfinished
    have hdone := sound_finishVoiceReady hasked
    dsimp only
    split_ifs
    · exact hdone.same rfl rfl rfl rfl id rfl
    · exact hdone
  · exact .inr (.inl (h.same rfl rfl rfl h.unfinished))

/-- Where `handle_op_failure` goes on. -/
lemma seeking_failureOp {a : Rc003} (h : Recorded b w.a) (hop : failureOp w.a = (a, .go s)) :
    Seeking b (a.startOp s) := by
  have hstage := h.stage
  have hbattery : ∀ a' : Rc003, a'.attributes = w.a.attributes → a'.curChar = w.a.curChar →
      Unfinished a' → 18 ≤ w.a.state.major → w.a.state.major ≤ 22 →
      (w.a.unicom.selected = true → VoiceFound w.a) → Seeking b (a'.startOp .findAtvvSvc) := by
    intro a' hs hc hu hlo hhi hvoice
    have hfound : Finding.voice.Holds b a' :=
      Finding.Holds.congr (f := .voice) hvoice hs hc
    exact .startAtvv hu (hstage.congr hs hc) hlo hhi hfound
  have hchanged : w.a.state.major ≤ 5 →
      Seeking b (({ w.a with serviceChangedHandle := 0 } : Rc003).startOp .findHidSvc) := by
    intro hle
    refine .startAt h.unfinished rfl (by decide) fun f hfirst hlast => ?_
    cases f
    case changed => exact fun hne => absurd rfl hne
    case short => exact hstage .short (Nat.zero_le _) (hle.trans (by decide))
    case subscribed => exact hstage .subscribed (Nat.zero_le _) (hle.trans (by decide))
    case waiting => exact hstage .waiting (Nat.zero_le _) (hle.trans (by decide))
    all_goals exact absurd hfirst (by decide)
  have hvoice : 19 ≤ w.a.state.major → w.a.state.major ≤ 36 → w.a.unicom.selected = true →
      VoiceFound w.a :=
    fun hlo hhi => hstage .voice hlo hhi
  unfold failureOp at hop
  cases hstate : w.a.state
  all_goals
    rw [hstate] at hop hbattery hchanged hvoice
    obtain ⟨rfl, hs⟩ := Prod.mk.inj hop
    cases hs
  case findGattSvc | findChangedChar | discChangedDesc | subChanged => exact hchanged (by decide)
  case findBatSvc =>
    exact hbattery _ rfl rfl h.unfinished (by decide) (by decide) (h.checked hstate)
  all_goals
    exact hbattery _ rfl rfl h.unfinished (by decide) (by decide) (hvoice (by decide) (by decide))

/-- A remote whose voice engine is given up is no Unicom remote. -/
lemma plain_failureOp {a : Rc003} {voice : VoiceState} (h : Recorded b w.a)
    (hop : failureOp w.a = (a, .ready voice)) : w.a.unicom.selected = false := by
  have hplain : 23 ≤ w.a.state.major → w.a.state.major ≤ 31 → w.a.unicom.selected = false :=
    fun hlo hhi => h.stage .plain hlo hhi
  unfold failureOp at hop
  cases hstate : w.a.state
  all_goals
    rw [hstate] at hop hplain
    obtain ⟨rfl, hs⟩ := Prod.mk.inj hop
    cases hs
  all_goals exact hplain (by decide) (by decide)

/-- `begin_next` and `handle_op_failure` lead a discovery on, or end it. -/
lemma seeking_pump (b : AdapterBuild) (client : GattClient G) :
    (∀ w : DiscWorld G, Seeking b w.a → Coherent b (beginNext b client w).a) ∧
      ∀ w : DiscWorld G, Recorded b w.a → Coherent b (handleOpFailure b client w).a := by
  -- one case for each branch of the two functions, in their order
  refine beginNext.mutual_induct b client (fun w => Seeking b w.a → Coherent b (beginNext b client w).a)
    (fun w => Recorded b w.a → Coherent b (handleOpFailure b client w).a) ?_ ?_ ?_ ?_ ?_ ?_ ?_ ?_ ?_ ?_ ?_ ?_ ?_
  · intro w a s hop ih h
    rw [beginNext, hop]
    exact ih (h.beginOp hop)
  · intro w a why hop h
    rw [beginNext, hop]
    exact .inr (.inr (unfinished_failInit (h.beginOp hop) _ _))
  · intro w a message hop h
    rw [beginNext, hop]
    exact .inr (.inr (.failed (h.beginOp hop) rfl))
  · intro w a hop h
    rw [beginNext, hop]
    exact .inr (.inl (h.beginOp hop).2)
  · intro w a hop h
    rw [beginNext, hop]
    exact sound_accepted (h.beginOp hop).2
  · intro w a r hop hret h
    have hsettled : Recorded b a := h.beginOp hop
    rw [beginNext, hop]
    dsimp only
    rw [hret]
    exact .inr (.inl (hsettled.same rfl rfl rfl hsettled.unfinished))
  · intro w a r hop hret ih h
    have hsettled : Recorded b a := h.beginOp hop
    rw [beginNext, hop]
    dsimp only
    rw [hret]
    exact ih (hsettled.same rfl rfl rfl hsettled.unfinished)
  · intro w a r hop hret hset ih h
    have hsettled : Recorded b a := h.beginOp hop
    have hstate : a.state = .setProtocolMode := (Rc003.beginOp_ask hop).1.trans hset
    have hstage : StageAt b 11 a := hsettled.stageAt hstate
    rw [beginNext, hop]
    dsimp only
    rw [hret]
    dsimp only
    rw [dif_pos hset]
    exact ih (.startAt hsettled.unfinished rfl (by decide) (hstage.keep (by decide) (by decide)))
  · intro w a r hop hret hset h
    have hsettled : Recorded b (w.submit client a r).a := h.beginOp hop
    rw [beginNext, hop]
    dsimp only
    rw [hret]
    dsimp only
    rw [dif_neg hset]
    exact sound_accepted hsettled
  · intro w hrestoring h
    exact absurd (h.unfinished.1.symm.trans hrestoring) Bool.false_ne_true
  · intro w hrestoring a s hop ih h
    rw [handleOpFailure, if_neg hrestoring, hop]
    exact ih (seeking_failureOp h hop)
  · intro w hrestoring a why hop h
    rw [handleOpFailure, if_neg hrestoring, hop]
    exact sound_failInit (.inr (.inl h)) _ _
  · intro w hrestoring a voice hop h
    have hplain := plain_failureOp h hop
    have hover : Over (readyWithout voice w).a := ⟨h.unfinished, rfl, fun _ => hplain⟩
    rw [handleOpFailure, if_neg hrestoring, hop]
    exact .inr (.inr hover)

lemma recorded_fail (h : Recorded b w.a) : Coherent b (handleOpFailure b client w).a :=
  (seeking_pump b client).2 w h

lemma seeking_go (h : Seeking b (w.a.startOp s)) : Coherent b (go b client s w).a :=
  (seeking_pump b client).1 _ h

/-- A discovery that goes on without a new fact. -/
lemma recorded_go {s₀ : DiscState} (h : Recorded b w.a) (hstate : w.a.state = s₀) (hs : s.discovers = true)
    (hne : s ≠ .findAtvvSvc) (hle : s₀.major ≤ s.major)
    (hno : ∀ f : Finding, ¬(s₀.major < f.first ∧ f.first ≤ s.major ∧ s.major ≤ f.last)) :
    Coherent b (go b client s w).a :=
  seeking_go (.startAt h.unfinished hs hne ((h.stageAt hstate).keep hle hno))

/-- A discovery that goes on with a new fact. -/
lemma recorded_learn {s₀ : DiscState} (f₀ : Finding) (h : Recorded b w.a) (hstate : w.a.state = s₀)
    (hf : f₀.Holds b w.a) (hs : s.discovers = true) (hne : s ≠ .findAtvvSvc) (hle : s₀.major ≤ s.major)
    (hone : ∀ f : Finding, s₀.major < f.first → f.first ≤ s.major → s.major ≤ f.last → f = f₀) :
    Coherent b (go b client s w).a :=
  seeking_go (.startAt h.unfinished hs hne ((h.stageAt hstate).learn hf hle hone))

/-- The voice service comes after the battery. -/
lemma recorded_atvv {s₀ : DiscState} (h : Recorded b w.a) (hstate : w.a.state = s₀) (hlo : 19 ≤ s₀.major)
    (hhi : s₀.major ≤ 22) : Coherent b (go b client .findAtvvSvc w).a := by
  have hstage := h.stageAt hstate
  exact seeking_go (.startAtvv h.unfinished hstage (by omega) hhi
    (hstage .voice hlo (hhi.trans (by decide))))

variable {e : GattEvt}

lemma recorded_onService (h : Recorded b w.a)
    (hnext : w.a.svcStart ≠ 0 → Coherent b (go b client s w).a) : Coherent b (onService b client s e w).a := by
  unfold onService
  cases e with
  | serviceFound first last => exact .inr (.inl (h.same rfl rfl rfl h.unfinished))
  | procDone =>
    dsimp only
    split_ifs with hzero
    · exact recorded_fail h
    · exact hnext hzero
  | serviceNotFound => exact recorded_fail h
  | procError status => exact recorded_fail h
  | _ => exact .inr (.inl h)

lemma recorded_onChar {mask : UInt8} {set : UInt16 → Rc003 → Rc003} {handle : Rc003 → UInt16}
    (h : Recorded b w.a) (hset : ∀ x, Recorded b (set x w.a))
    (hnext : handle w.a ≠ 0 → Coherent b (go b client s w).a) :
    Coherent b (onChar b client mask set handle s e w).a := by
  unfold onChar
  cases e with
  | charsFound value =>
    dsimp only
    split_ifs
    · exact .inr (.inl (hset _))
    · exact .inr (.inl h)
  | procDone =>
    dsimp only
    split_ifs with hzero
    · exact recorded_fail h
    · exact hnext hzero
  | procError status => exact recorded_fail h
  | _ => exact .inr (.inl h)

lemma recorded_foundCccd {set : UInt16 → Rc003 → Rc003} (h : Recorded b w.a)
    (hset : ∀ x d, Recorded b (set x { w.a with descBoundary := d })) (handle uuid : UInt16) :
    Recorded b (w.act (Rc003.foundCccd set handle uuid)).a := by
  change Recorded b (Rc003.foundCccd set handle uuid w.a)
  unfold Rc003.foundCccd
  dsimp only
  split_ifs
  · exact hset _ _
  · exact h.same rfl rfl rfl h.unfinished

lemma recorded_onCccd {set : UInt16 → Rc003 → Rc003} {handle : Rc003 → UInt16} (h : Recorded b w.a)
    (hset : ∀ x d, Recorded b (set x { w.a with descBoundary := d }))
    (hnext : handle w.a ≠ 0 → Coherent b (go b client s w).a) :
    Coherent b (onCccd b client set handle s e w).a := by
  unfold onCccd
  cases e with
  | descFound handle uuid => exact .inr (.inl (recorded_foundCccd h hset handle uuid))
  | procDone =>
    dsimp only
    split_ifs with hzero
    · exact recorded_fail h
    · exact hnext hzero
  | procError status => exact recorded_fail h
  | _ => exact .inr (.inl h)

lemma recorded_onWrite (h : Recorded b w.a) (hnext : Coherent b (go b client s w).a) :
    Coherent b (onWrite b client s e w).a := by
  unfold onWrite
  cases e with
  | writeDone => exact hnext
  | procError status => exact recorded_fail h
  | _ => exact .inr (.inl h)

/-! ## Its states -/

lemma recorded_onGattService (h : Recorded b w.a) (hstate : w.a.state = .findGattSvc) :
    Coherent b (onGattService b client e w).a := by
  unfold onGattService
  cases e with
  | serviceFound first last => exact .inr (.inl (h.same rfl rfl rfl h.unfinished))
  | procDone =>
    dsimp only
    split_ifs
    · exact recorded_go h hstate rfl (by decide) (by decide) (by decide)
    · exact recorded_fail h
  | serviceNotFound => exact recorded_fail (h.same rfl rfl rfl h.unfinished)
  | procError status => exact recorded_fail h
  | _ => exact .inr (.inl h)

lemma recorded_onChangedChar (h : Recorded b w.a) (hstate : w.a.state = .findChangedChar) :
    Coherent b (onChangedChar b client e w).a := by
  unfold onChangedChar
  cases e with
  | charsFound value =>
    dsimp only
    split_ifs
    · refine .inr (.inl (h.change hstate (by decide) (by decide) ?_ hstate h.unfinished))
      intro f hfirst _ hold
      cases f
      case short | subscribed | waiting => exact hold
      all_goals exact absurd hfirst (by decide)
    · exact .inr (.inl h)
  | procDone =>
    dsimp only
    split_ifs
    · exact recorded_fail (h.same rfl rfl rfl h.unfinished)
    · exact recorded_go h hstate rfl (by decide) (by decide) (by decide)
  | procError status => exact recorded_fail h
  | _ => exact .inr (.inl h)

lemma recorded_onHidInfoChar (h : Recorded b w.a) (hstate : w.a.state = .findHidInfo) :
    Coherent b (onHidInfoChar b client e w).a := by
  unfold onHidInfoChar
  cases e with
  | charsFound value =>
    dsimp only
    split_ifs
    · exact recorded_fail h
    · exact .inr (.inl (h.same rfl rfl rfl h.unfinished))
    · exact .inr (.inl h)
  | procDone =>
    dsimp only
    split_ifs
    · exact recorded_fail h
    · exact recorded_go h hstate rfl (by decide) (by decide) (by decide)
  | procError status => exact recorded_fail h
  | _ => exact .inr (.inl h)

lemma recorded_onHidInfo (h : Recorded b w.a) (hstate : w.a.state = .readHidInfo) :
    Coherent b (onHidInfo b client e w).a := by
  unfold onHidInfo
  cases e with
  | readRsp value offset complete =>
    dsimp only
    split_ifs
    · exact recorded_fail h
    · have hread : Recorded b (w.act fun a => { a with hidFlags := value.getD 3 0, hidInfoValid := true }).a :=
        h.same rfl rfl rfl h.unfinished
      exact recorded_go hread hstate rfl (by decide) (by decide) (by decide)
  | procError status => exact recorded_fail h
  | _ => exact .inr (.inl h)

lemma recorded_onModeChar (h : Recorded b w.a) (hstate : w.a.state = .findProtocolMode) :
    Coherent b (onModeChar b client e w).a := by
  unfold onModeChar
  cases e with
  | charsFound value =>
    dsimp only
    split_ifs
    · exact sound_failInit (.inr (.inl h)) _ _
    · exact .inr (.inl (h.same rfl rfl rfl h.unfinished))
    · exact .inr (.inl h)
  | procDone =>
    dsimp only
    split_ifs
    · exact recorded_go h hstate rfl (by decide) (by decide) (by decide)
    · exact recorded_go h hstate rfl (by decide) (by decide) (by decide)
  | procError status => exact recorded_fail h
  | _ => exact .inr (.inl h)

lemma recorded_onMode (h : Recorded b w.a)
    (hstate : w.a.state = .readProtocolMode ∨ w.a.state = .verifyProtocolMode) :
    Coherent b (onMode b client e w).a := by
  unfold onMode
  cases e with
  | readRsp value offset complete =>
    dsimp only
    split_ifs with hbad hset hrestoring
    · exact sound_failInit (.inr (.inl h)) _ _
    · have hread : w.a.state = .readProtocolMode :=
        hstate.resolve_right fun hf => hbad (.inr (.inr ⟨hf, hset⟩))
      exact recorded_go h hread rfl (by decide) (by decide) (by decide)
    · exact absurd (h.unfinished.1.symm.trans hrestoring) Bool.false_ne_true
    · rcases hstate with hstate | hstate
      · exact recorded_go h hstate rfl (by decide) (by decide) (by decide)
      · exact recorded_go h hstate rfl (by decide) (by decide) (by decide)
  | procError status => exact recorded_fail h
  | _ => exact .inr (.inl h)

/-- A complete map tells the profile. -/
lemma takeMap_some {a r : Rc003} (h : a.takeMap = some r) : ∃ selected map,
    r = { a with unicom := { a.unicom with selected }, map } ∧ selected = (a.mapBuf == unicomMap) ∧
      (selected = false → (hogpReportMapParse a.mapBuf).isSome = true) := by
  unfold Rc003.takeMap at h
  split_ifs at h with hunicom
  · exact ⟨true, _, (Option.some.inj h).symm, (beq_iff_eq.mpr hunicom).symm,
      fun hf => absurd hf (Bool.false_ne_true ∘ Eq.symm)⟩
  · cases hparse : hogpReportMapParse a.mapBuf with
    | none =>
      rw [hparse] at h
      cases h
    | some map =>
      rw [hparse] at h
      exact ⟨false, map, (Option.some.inj h).symm, (beq_eq_false_iff_ne.mpr hunicom).symm, fun _ => rfl⟩

/-- What is known of the attributes before the map. -/
lemma Recorded.early {a : Rc003} (h : Recorded b a) (hstate : a.state = .readMap ∨ a.state = .readMapCont) :
    StageAt b 15 a := by
  rcases hstate with hstate | hstate
  · exact (h.stageAt hstate).keep (by decide) (by decide)
  · exact h.stageAt hstate

/-- A step that reads the map. -/
lemma recorded_reading (h : Recorded b w.a) (hstate : w.a.state = .readMap ∨ w.a.state = .readMapCont)
    {a : Rc003} (hsame : a.chars = w.a.chars ∧ a.serviceChangedHandle = w.a.serviceChangedHandle ∧
      a.serviceChangedCccd = w.a.serviceChangedCccd) (hmap : a.mapBuf.length ≤ hogpMaxMapSize)
    (hstate' : a.state = w.a.state) (hu : Unfinished a) : Recorded b a := by
  obtain ⟨hchars, hchanged, hcccd⟩ := hsame
  have hfacts : ∀ f : Finding, f.first ≤ 15 → f.Holds b w.a → f.Holds b a := by
    intro f hfirst hold
    cases f
    case short => exact hmap
    case subscribed | waiting =>
      simp only [Finding.Holds]
      rw [hchars]
      exact hold
    case changed =>
      simp only [Finding.Holds]
      rw [hchanged, hcccd]
      exact hold
    all_goals exact absurd hfirst (by decide)
  rcases hstate with hstate | hstate
  · exact h.change hstate (by decide) (by decide)
      (fun f hfirst _ => hfacts f (hfirst.trans (by decide))) (hstate'.trans hstate) hu
  · exact h.change hstate (by decide) (by decide) (fun f hfirst _ => hfacts f hfirst)
      (hstate'.trans hstate) hu

lemma recorded_mapComplete (h : Recorded b w.a)
    (hstate : w.a.state = .readMap ∨ w.a.state = .readMapCont) : Coherent b (mapComplete b client w).a := by
  have hearly : StageAt b 15 w.a := Recorded.early h hstate
  have hshort : w.a.mapBuf.length ≤ hogpMaxMapSize := hearly .short (by decide) (by decide)
  unfold mapComplete
  cases htake : w.a.takeMap with
  | none => exact recorded_fail (recorded_reading h hstate ⟨rfl, rfl, rfl⟩ hshort rfl h.unfinished)
  | some a =>
    obtain ⟨selected, map, rfl, hselected, hparse⟩ := takeMap_some htake
    dsimp only
    split_ifs with hunknown
    · refine .inr (.inr (unfinished_failInit ?_ _ _))
      exact h.unfinished
    · refine seeking_go (.startAt h.unfinished rfl (by decide) fun f hfirst hlast => ?_)
      cases f
      case short => exact hshort
      case subscribed => exact hearly .subscribed (by decide) (by decide)
      case waiting => exact hearly .waiting (by decide) (by decide)
      case changed => exact hearly .changed (by decide) (by decide)
      case profile =>
        refine ⟨hselected, rfl, hparse, fun hsim => ?_⟩
        by_contra hno
        obtain ⟨hs, hb⟩ := not_or.mp hno
        exact hunknown ⟨hsim, Bool.not_eq_true _ ▸ hb, Bool.not_eq_true _ ▸ hs⟩
      all_goals exact absurd hfirst (by decide)

lemma recorded_onMap (h : Recorded b w.a) (hstate : w.a.state = .readMap ∨ w.a.state = .readMapCont) :
    Coherent b (onMap b client e w).a := by
  have hshort : w.a.mapBuf.length ≤ hogpMaxMapSize :=
    Recorded.early h hstate .short (by decide) (by decide)
  unfold onMap
  cases e with
  | readRsp value offset complete =>
    dsimp only
    split_ifs with hbad hdone hlong
    · exact recorded_fail h
    all_goals
      have hfit : (w.a.mapBuf ++ value).length ≤ hogpMaxMapSize := by
        rw [List.length_append]
        omega
      have hread : Recorded b (w.act fun a => { a with mapBuf := a.mapBuf ++ value }).a :=
        recorded_reading h hstate ⟨rfl, rfl, rfl⟩ hfit rfl h.unfinished
    · exact recorded_mapComplete hread hstate
    · exact .inr (.inl hread)
    · refine seeking_go (.startAt h.unfinished rfl (by decide) ?_)
      exact (Recorded.early hread hstate).congr rfl rfl
  | procError status => exact recorded_fail h
  | _ => exact .inr (.inl h)

lemma recorded_onReportChars (h : Recorded b w.a) (hstate : w.a.state = .enumReportChars) :
    Coherent b (onReportChars b client e w).a := by
  have hstage := h.stageAt hstate
  unfold onReportChars
  cases e with
  | charsFound value =>
    dsimp only
    split_ifs
    · exact sound_failInit (.inr (.inl h)) _ _
    · change Coherent b (Rc003.foundReport value w.a)
      unfold Rc003.foundReport
      split_ifs with hroom
      · refine .inr (.inl (h.change hstate (by decide) (by decide) ?_ hstate h.unfinished))
        intro f hfirst hlast hold
        cases f
        case subscribed =>
          intro c hc hsub
          rcases List.mem_append.mp hc with hc | hc
          · exact hold c hc hsub
          · rw [List.mem_singleton.mp hc] at hsub
            cases hsub
        case waiting =>
          intro c hc
          rcases List.mem_append.mp hc with hc | hc
          · exact hold c hc
          · rw [List.mem_singleton.mp hc]
        case short | changed | profile => exact hold
        all_goals exact absurd hfirst (by decide)
      · exact .inr (.inl h)
    · exact .inr (.inl h)
  | procDone =>
    dsimp only
    split_ifs
    · exact recorded_fail h
    · have hwaiting : ∀ c ∈ w.a.chars, c.subscribed = false := hstage .waiting (by decide) (by decide)
      refine seeking_go (.startAt h.unfinished rfl (by decide) fun f hfirst hlast => ?_)
      cases f
      case ahead => exact fun i hi _ => hwaiting _ (List.getElem_mem hi)
      case short => exact hstage .short (by decide) (by decide)
      case subscribed => exact hstage .subscribed (by decide) (by decide)
      case changed => exact hstage .changed (by decide) (by decide)
      case profile => exact hstage .profile (by decide) (by decide)
      case waiting => exact absurd hlast (by decide)
      all_goals exact absurd hfirst (by decide)
  | procError status => exact recorded_fail h
  | _ => exact .inr (.inl h)

/-- The next characteristic, or the battery. -/
lemma seeking_goNextChar (hu : Unfinished w.a)
    (hfacts : ∀ f : Finding, f ≠ .ahead → f.first ≤ 17 → 17 ≤ f.last → f.Holds b w.a)
    (hahead : ∀ i (hi : i < w.a.chars.length), w.a.curChar + 1 ≤ i → w.a.chars[i].subscribed = false) :
    Coherent b (goNextChar b client w).a := by
  obtain ⟨hnext, hlast⟩ := Seeking.goOn hu hfacts hahead
  unfold goNextChar
  split_ifs
  · exact seeking_go hnext
  · exact seeking_go hlast

lemma recorded_onDescs (h : Recorded b w.a) (hstate : w.a.state = .discDescs) :
    Coherent b (onDescs b client e w).a := by
  have hstage := h.stageAt hstate
  unfold onDescs
  cases e with
  | descFound handle uuid =>
    change Coherent b (Rc003.foundDesc handle uuid w.a)
    unfold Rc003.foundDesc
    dsimp only
    by_cases hbound : (w.a.descBoundary || uuid == uuidCharacteristic) = true
    · rw [if_pos hbound]
      exact .inr (.inl (h.same rfl rfl rfl h.unfinished))
    · rw [if_neg hbound]
      refine .inr (.inl (Seeking.settled ⟨h.unfinished, h.discovers, ?_⟩ ?_ ?_))
      · change StageAt b w.a.state.major _
        rw [hstate]
        exact StageAt.modifyChar (hstage.congr rfl rfl) fun _ hc => hc
      · exact fun hf => absurd (hstate.symm.trans hf) (by decide)
      · exact fun hf => absurd (hstate.symm.trans hf) (by decide)
  | procDone =>
    dsimp only
    split_ifs
    · exact recorded_go h hstate rfl (by decide) (by decide) (by decide)
    · obtain ⟨hfacts, hahead⟩ := Seeking.ahead hstage
      exact seeking_goNextChar h.unfinished hfacts hahead
  | procError status => exact recorded_fail h
  | _ => exact .inr (.inl h)

lemma recorded_onReportRef (h : Recorded b w.a) (hstate : w.a.state = .readReportRef) :
    Coherent b (onReportRef b client e w).a := by
  have hstage := h.stageAt hstate
  unfold onReportRef
  cases e with
  | readRsp value offset complete =>
    dsimp only
    split_ifs
    · exact seeking_go (.startAt h.unfinished rfl (by decide) (StageAt.modifyChar hstage fun _ hc => hc))
    · exact recorded_fail h
  | procError status => exact recorded_fail h
  | _ => exact .inr (.inl h)

/-- The characteristic of a successful write has a configuration, and none is subscribed after it. -/
lemma recorded_onSubscribed (h : Recorded b w.a) (hstate : w.a.state = .subscribeReport) :
    Coherent b (onSubscribed b client e w).a := by
  have hstage := h.stageAt hstate
  have hasked := h.asked hstate
  have hahead : ∀ i (hi : i < w.a.chars.length), w.a.curChar ≤ i → w.a.chars[i].subscribed = false :=
    hstage .ahead (by decide) (by decide)
  have hsubscribed : ∀ c ∈ w.a.chars, c.subscribed = true → c.cccdHandle ≠ 0 :=
    hstage .subscribed (by decide) (by decide)
  unfold onSubscribed
  cases e with
  | writeDone =>
    refine seeking_goNextChar h.unfinished (fun f hne hfirst hlast => ?_) fun i hi hle => ?_
    · have hold := hstage f hfirst hlast
      cases f
      case subscribed =>
        intro c hc hsub
        have hmem : c ∈ w.a.chars.modify w.a.curChar fun c => { c with subscribed := true } := hc
        obtain ⟨i, hi, hci⟩ := List.mem_iff_getElem.mp hmem
        have hi' : i < w.a.chars.length := hi.trans_eq (List.length_modify ..)
        rw [List.getElem_modify] at hci
        split_ifs at hci with hcur
        · have hchar : w.a.char = w.a.chars[i] := by
            unfold Rc003.char
            rw [hcur, List.getD_eq_getElem _ _ hi']
          rw [hchar] at hasked
          exact hci ▸ hasked
        · exact hsubscribed c (hci ▸ List.getElem_mem hi') hsub
      case ahead => exact absurd rfl hne
      case short | changed | profile => exact hold
      case waiting => exact absurd hlast (by decide)
      all_goals exact absurd hfirst (by decide)
    · have hi' : i < w.a.chars.length := hi.trans_eq (List.length_modify ..)
      have hmod : i < (w.a.chars.modify w.a.curChar fun c => { c with subscribed := true }).length := hi
      have hne : ¬w.a.curChar = i := (Nat.lt_of_succ_le hle).ne
      have hsame : (w.a.chars.modify w.a.curChar fun c => { c with subscribed := true })[i] =
          w.a.chars[i] := by
        rw [List.getElem_modify, if_neg hne]
      exact (congrArg ReportAttr.subscribed hsame).trans (hahead i hi' (Nat.le_of_succ_le hle))
  | procError status => exact recorded_fail h
  | _ => exact .inr (.inl h)

lemma recorded_onBatteryDescs (h : Recorded b w.a) (hstate : w.a.state = .discBatDescs) :
    Coherent b (onBatteryDescs b client e w).a := by
  unfold onBatteryDescs
  cases e with
  | descFound handle uuid =>
    exact .inr (.inl (recorded_foundCccd h (fun _ _ => h.same rfl rfl rfl h.unfinished) handle uuid))
  | procDone => exact recorded_go h hstate rfl (by decide) (by decide) (by decide)
  | procError status => exact recorded_atvv h hstate (by decide) (by decide)
  | _ => exact .inr (.inl h)

lemma recorded_onBattery (h : Recorded b w.a) (hstate : w.a.state = .readBattery) :
    Coherent b (onBattery b client e w).a := by
  have hnot : ¬w.a.restoring = true := fun hf => Bool.false_ne_true (h.unfinished.1.symm.trans hf)
  unfold onBattery
  cases e with
  | readRsp value offset complete =>
    dsimp only
    have htold : Recorded b (w.tell (.battery (value.getD 0 0))).a := h
    have hnot' : ¬(w.tell (.battery (value.getD 0 0))).a.restoring = true := hnot
    rw [if_neg hnot', if_neg hnot]
    split_ifs
    · exact recorded_go htold hstate rfl (by decide) (by decide) (by decide)
    · exact recorded_atvv htold hstate (by decide) (by decide)
    · exact recorded_atvv h hstate (by decide) (by decide)
  | procError status =>
    dsimp only
    rw [if_neg hnot]
    exact recorded_atvv h hstate (by decide) (by decide)
  | _ => exact .inr (.inl h)

lemma recorded_onBatterySub (h : Recorded b w.a) (hstate : w.a.state = .subscribeBattery) :
    Coherent b (onBatterySub b client e w).a := by
  unfold onBatterySub
  cases e with
  | writeDone => exact recorded_atvv h hstate (by decide) (by decide)
  | procError status => exact recorded_atvv h hstate (by decide) (by decide)
  | _ => exact .inr (.inl h)

/-- A change in a state that relies on none of the attributes of the voice service changed. -/
lemma recorded_voice {a : Rc003} (h : Recorded b w.a) (hstate : w.a.state = s) (hlo : 23 ≤ s.major)
    (hsame : ∀ f : Finding, 24 ≤ f.first → f.first ≤ s.major → s.major ≤ f.last → f.Holds b w.a →
      f.Holds b a)
    (hfacts : a.chars = w.a.chars ∧ a.mapBuf = w.a.mapBuf ∧ a.rc003BootLayout = w.a.rc003BootLayout ∧
      a.serviceChangedHandle = w.a.serviceChangedHandle ∧
      a.serviceChangedCccd = w.a.serviceChangedCccd ∧ a.unicom.selected = w.a.unicom.selected ∧
      a.unicom.fb = w.a.unicom.fb ∧ a.unicom.fc = w.a.unicom.fc ∧ a.unicom.f8 = w.a.unicom.f8)
    (hstate' : a.state = w.a.state) (hu : Unfinished a) : Recorded b a := by
  obtain ⟨hchars, hmap, hboot, hchanged, hcccd, hselected, hfb, hfc, hf8⟩ := hfacts
  have hne : s ≠ .subscribeReport ∧ s ≠ .findBatSvc := by
    constructor <;> rintro rfl <;> exact absurd hlo (by decide)
  refine h.change hstate hne.1 hne.2 (fun f hfirst hlast hold => ?_) (hstate'.trans hstate) hu
  cases f
  case voice =>
    exact fun hs => (hold (hselected.symm.trans hs)).congr hchars
      ⟨fun _ => hfb.symm, fun _ => hfc.symm, fun _ => hf8.symm⟩
  case profile =>
    obtain ⟨hs, hb, hparse, hknown⟩ := hold
    simp only [Finding.Holds, MapKnown]
    rw [hselected, hboot, hmap]
    exact ⟨hs, hb, hparse, hknown⟩
  case waiting => exact absurd (hlo.trans hlast) (by decide)
  case ahead => exact absurd (hlo.trans hlast) (by decide)
  case short => simp only [Finding.Holds]; rw [hmap]; exact hold
  case subscribed => simp only [Finding.Holds]; rw [hchars]; exact hold
  case changed => simp only [Finding.Holds]; rw [hchanged, hcccd]; exact hold
  case plain => exact hselected.trans hold
  all_goals exact hsame _ (by decide) hfirst hlast hold

lemma recorded_onAtvvService (h : Recorded b w.a) (hstate : w.a.state = .findAtvvSvc) :
    Coherent b (onAtvvService b client e w).a := by
  unfold onAtvvService
  cases e with
  | serviceFound first last =>
    refine .inr (.inl (recorded_voice h hstate (by decide) (fun f hlo hfirst _ _ => ?_)
      ⟨rfl, rfl, rfl, rfl, rfl, rfl, rfl, rfl, rfl⟩ rfl h.unfinished))
    exact absurd (hlo.trans hfirst) (by decide)
  | procDone =>
    dsimp only
    split_ifs with hpresent
    · exact recorded_learn .present h hstate hpresent rfl (by decide) (by decide) (by decide)
    · exact recorded_fail h
  | serviceNotFound => exact recorded_fail h
  | procError status => exact recorded_fail h
  | _ => exact .inr (.inl h)

lemma recorded_onUnicomService (h : Recorded b w.a) (hstate : w.a.state = .unicomService) :
    Coherent b (onUnicomService b client e w).a := by
  unfold onUnicomService
  cases e with
  | serviceFound first last =>
    dsimp only
    split_ifs
    · exact sound_failInit (.inr (.inl h)) _ _
    · exact .inr (.inl (h.same rfl rfl rfl h.unfinished))
  | procDone =>
    dsimp only
    split_ifs
    · exact recorded_go h hstate rfl (by decide) (by decide) (by decide)
    · exact sound_failInit (.inr (.inl h)) _ _
  | serviceNotFound => exact sound_failInit (.inr (.inl h)) _ _
  | procError status => exact sound_failInit (.inr (.inl h)) _ _
  | _ => exact .inr (.inl h)

lemma recorded_onUnicomChar (h : Recorded b w.a) (hstate : w.a.state = .unicomChar) :
    Coherent b (onUnicomChar b client e w).a := by
  unfold onUnicomChar
  cases e with
  | charsFound value =>
    dsimp only
    split_ifs
    · exact sound_failInit (.inr (.inl h)) _ _
    · refine .inr (.inl (recorded_voice h hstate (by decide) (fun f hlo hfirst hlast hold => ?_)
        ⟨rfl, rfl, rfl, rfl, rfl, rfl, rfl, rfl, rfl⟩ rfl h.unfinished))
      cases f
      case unicom => exact hold
      all_goals first
      | exact absurd hlo (by decide)
      | exact absurd hfirst (by decide)
      | exact absurd hlast (by decide)
  | procDone =>
    dsimp only
    split_ifs with hfd
    · exact recorded_learn .fd h hstate hfd rfl (by decide) (by decide) (by decide)
    · exact sound_failInit (.inr (.inl h)) _ _
  | procError status => exact sound_failInit (.inr (.inl h)) _ _
  | _ => exact .inr (.inl h)

lemma recorded_onUnicomDesc (h : Recorded b w.a) (hstate : w.a.state = .unicomDesc) :
    Coherent b (onUnicomDesc b client e w).a := by
  unfold onUnicomDesc
  cases e with
  | descFound handle uuid =>
    refine .inr (.inl (recorded_foundCccd h (fun _ _ => ?_) handle uuid))
    refine recorded_voice h hstate (by decide) (fun f hlo hfirst hlast hold => ?_)
      ⟨rfl, rfl, rfl, rfl, rfl, rfl, rfl, rfl, rfl⟩ rfl h.unfinished
    cases f
    case unicom => exact hold
    case fd => exact hold
    all_goals first
    | exact absurd hlo (by decide)
    | exact absurd hfirst (by decide)
    | exact absurd hlast (by decide)
  | procDone =>
    dsimp only
    split_ifs with hcccd
    · exact recorded_learn .fdCccd h hstate hcccd rfl (by decide) (by decide) (by decide)
    · exact sound_failInit (.inr (.inl h)) _ _
  | procError status => exact sound_failInit (.inr (.inl h)) _ _
  | _ => exact .inr (.inl h)

/-- The voice service of a Unicom remote is ready, and its attributes are kept. -/
lemma imported_ready (hkept : Gathered w.a) (hknown : MapKnown b w.a) : Imported b (unicomReady w).a := by
  unfold unicomReady
  dsimp only
  split_ifs
  all_goals exact ⟨hkept.congr rfl, hknown.congr rfl, fun hd => absurd hd Bool.false_ne_true⟩

lemma kept_unicomWait (h : Recorded b w.a) (hstate : w.a.state = .unicomWait) : Gathered w.a ∧ MapKnown b w.a :=
  (h.stageAt hstate).kept_unicom

lemma recorded_onUnicomSub (h : Recorded b w.a) (hstate : w.a.state = .unicomSub) :
    Coherent b (onUnicomSub e w).a := by
  unfold onUnicomSub
  cases e with
  | writeDone =>
    have hstage : StageAt b 36 w.a := (h.stageAt hstate).keep (by decide) (by decide)
    have hwait : Seeking b (startOp .unicomWait w).a := .startAt h.unfinished rfl (by decide) hstage
    have hstate' : (startOp .unicomWait w).a.state = .unicomWait := Rc003.startOp_state (by decide)
    have hsettled : Recorded b (startOp .unicomWait w).a :=
      hwait.settled (by rw [hstate']; decide) (by rw [hstate']; decide)
    dsimp only
    split_ifs
    · obtain ⟨hkept, hknown⟩ := kept_unicomWait hsettled hstate'
      exact .inl (imported_ready hkept hknown)
    · exact .inr (.inl hsettled)
  | procError status => exact sound_failInit (.inr (.inl h)) _ _
  | _ => exact .inr (.inl h)

/-- A handle of the voice service of an RC003, which nothing is known of yet. -/
lemma recorded_handle {a : Rc003} {n : Nat} (h : Recorded b w.a) (hstate : w.a.state = s)
    (hlo : 23 ≤ s.major) (hhi : s.major ≤ n)
    (hhandles : a.atvvPresent = w.a.atvvPresent ∧ (25 ≤ n → a.atvvTxHandle = w.a.atvvTxHandle) ∧
      (26 ≤ n → a.atvvCtlHandle = w.a.atvvCtlHandle) ∧ (27 ≤ n → a.atvvCtlCccd = w.a.atvvCtlCccd) ∧
      (29 ≤ n → a.atvvAudioHandle = w.a.atvvAudioHandle) ∧
      (30 ≤ n → a.atvvAudioCccd = w.a.atvvAudioCccd))
    (hrest : a.chars = w.a.chars ∧ a.mapBuf = w.a.mapBuf ∧ a.rc003BootLayout = w.a.rc003BootLayout ∧
      a.serviceChangedHandle = w.a.serviceChangedHandle ∧
      a.serviceChangedCccd = w.a.serviceChangedCccd ∧ a.unicom = w.a.unicom)
    (hstate' : a.state = w.a.state) (hu : Unfinished a) : Recorded b a := by
  obtain ⟨hpresent, htx, hctl, hctlCccd, haudio, haudioCccd⟩ := hhandles
  obtain ⟨hchars, hmap, hboot, hchanged, hcccd, hunicom⟩ := hrest
  refine recorded_voice h hstate hlo (fun f _ hfirst _ hold => ?_)
    ⟨hchars, hmap, hboot, hchanged, hcccd, by rw [hunicom], by rw [hunicom], by rw [hunicom],
      by rw [hunicom]⟩ hstate' hu
  have hn : f.first ≤ n := hfirst.trans hhi
  cases f
  case present => exact hpresent.trans hold
  case tx => simp only [Finding.Holds]; rw [htx hn]; exact hold
  case ctl => simp only [Finding.Holds]; rw [hctl hn]; exact hold
  case ctlCccd => simp only [Finding.Holds]; rw [hctlCccd hn]; exact hold
  case audio => simp only [Finding.Holds]; rw [haudio hn]; exact hold
  case audioCccd => simp only [Finding.Holds]; rw [haudioCccd hn]; exact hold
  case unicom => simp only [Finding.Holds]; rw [hunicom]; exact hold
  case fd => simp only [Finding.Holds]; rw [hunicom]; exact hold
  case fdCccd => simp only [Finding.Holds]; rw [hunicom]; exact hold
  all_goals exact absurd ‹24 ≤ _› (by decide)

/-- The switch of `rc003_adapter_on_gatt` on a discovery. -/
lemma recorded_onState (h : Recorded b w.a) : Coherent b (onState b client e w).a := by
  have hnot : ¬w.a.restoring = true := fun hf => Bool.false_ne_true (h.unfinished.1.symm.trans hf)
  unfold onState
  cases hstate : w.a.state with
  | unicomService => exact recorded_onUnicomService h hstate
  | unicomChar => exact recorded_onUnicomChar h hstate
  | unicomDesc => exact recorded_onUnicomDesc h hstate
  | unicomSub => exact recorded_onUnicomSub h hstate
  | mtu =>
    dsimp only
    rw [if_neg hnot]
    cases e with
    | mtuUpdated mtu => exact recorded_go h hstate rfl (by decide) (by decide) (by decide)
    | procError status => exact recorded_go h hstate rfl (by decide) (by decide) (by decide)
    | _ => exact .inr (.inl h)
  | findProtocolMode => exact recorded_onModeChar h hstate
  | readProtocolMode => exact recorded_onMode h (.inl hstate)
  | verifyProtocolMode => exact recorded_onMode h (.inr hstate)
  | findGattSvc => exact recorded_onGattService h hstate
  | findChangedChar => exact recorded_onChangedChar h hstate
  | discChangedDesc =>
    -- a state that learns something: first what a descriptor tells, then the step to the next state
    refine recorded_onCccd h (fun x d => ?_) fun hcccd => ?_
    · refine h.change hstate (by decide) (by decide) (fun f hfirst _ hold => ?_) hstate h.unfinished
      cases f
      case short | subscribed | waiting => exact hold
      all_goals exact absurd hfirst (by decide)
    · exact recorded_learn .changed h hstate (fun _ => hcccd) rfl (by decide) (by decide) (by decide)
  | discCtlDesc =>
    refine recorded_onCccd h (fun x d => ?_) fun hcccd => ?_
    · exact recorded_handle (n := 26) h hstate (by decide) (by decide)
        ⟨rfl, fun _ => rfl, fun _ => rfl, fun hn => absurd hn (by decide), fun _ => rfl, fun _ => rfl⟩
        ⟨rfl, rfl, rfl, rfl, rfl, rfl⟩ rfl h.unfinished
    · exact recorded_learn .ctlCccd h hstate hcccd rfl (by decide) (by decide) (by decide)
  | discAudioDesc =>
    refine recorded_onCccd h (fun x d => ?_) fun hcccd => ?_
    · exact recorded_handle (n := 29) h hstate (by decide) (by decide)
        ⟨rfl, fun _ => rfl, fun _ => rfl, fun _ => rfl, fun _ => rfl, fun hn => absurd hn (by decide)⟩
        ⟨rfl, rfl, rfl, rfl, rfl, rfl⟩ rfl h.unfinished
    · exact recorded_learn .audioCccd h hstate hcccd rfl (by decide) (by decide) (by decide)
  | subChanged =>
    dsimp only
    rw [if_neg hnot]
    cases e with
    | writeDone =>
      have hsafe : Recorded b (w.act fun a => { a with cacheSafe := true }).a :=
        h.same rfl rfl rfl h.unfinished
      exact recorded_go hsafe hstate rfl (by decide) (by decide) (by decide)
    | procError status => exact recorded_fail h
    | _ => exact .inr (.inl h)
  | findHidSvc =>
    exact recorded_onService h fun _ => recorded_go h hstate rfl (by decide) (by decide) (by decide)
  | findHidInfo => exact recorded_onHidInfoChar h hstate
  | readHidInfo => exact recorded_onHidInfo h hstate
  | findMapChar =>
    exact recorded_onChar h (fun _ => h.same rfl rfl rfl h.unfinished)
      fun _ => recorded_go h hstate rfl (by decide) (by decide) (by decide)
  | readMap => exact recorded_onMap h (.inl hstate)
  | readMapCont => exact recorded_onMap h (.inr hstate)
  | enumReportChars => exact recorded_onReportChars h hstate
  | discDescs => exact recorded_onDescs h hstate
  | readReportRef => exact recorded_onReportRef h hstate
  | subscribeReport => exact recorded_onSubscribed h hstate
  | findBatSvc =>
    exact recorded_onService h fun _ => recorded_learn .voice h hstate (h.checked hstate) rfl
      (by decide) (by decide) (by decide)
  | findBatChar =>
    exact recorded_onChar h (fun _ => h.same rfl rfl rfl h.unfinished)
      fun _ => recorded_go h hstate rfl (by decide) (by decide) (by decide)
  | discBatDescs => exact recorded_onBatteryDescs h hstate
  | readBattery => exact recorded_onBattery h hstate
  | subscribeBattery => exact recorded_onBatterySub h hstate
  | findAtvvSvc => exact recorded_onAtvvService h hstate
  | findAtvvTx =>
    refine recorded_onChar h (fun x => ?_) fun htx => ?_
    · exact recorded_handle (n := 24) h hstate (by decide) (by decide)
        ⟨rfl, fun hn => absurd hn (by decide), fun _ => rfl, fun _ => rfl, fun _ => rfl, fun _ => rfl⟩
        ⟨rfl, rfl, rfl, rfl, rfl, rfl⟩ rfl h.unfinished
    · exact recorded_learn .tx h hstate htx rfl (by decide) (by decide) (by decide)
  | findAtvvCtl =>
    refine recorded_onChar h (fun x => ?_) fun hctl => ?_
    · exact recorded_handle (n := 25) h hstate (by decide) (by decide)
        ⟨rfl, fun _ => rfl, fun hn => absurd hn (by decide), fun _ => rfl, fun _ => rfl, fun _ => rfl⟩
        ⟨rfl, rfl, rfl, rfl, rfl, rfl⟩ rfl h.unfinished
    · exact recorded_learn .ctl h hstate hctl rfl (by decide) (by decide) (by decide)
  | subscribeCtl =>
    dsimp only
    rw [if_neg hnot]
    exact recorded_onWrite h (recorded_go h hstate rfl (by decide) (by decide) (by decide))
  | findAtvvAudio =>
    refine recorded_onChar h (fun x => ?_) fun haudio => ?_
    · exact recorded_handle (n := 28) h hstate (by decide) (by decide)
        ⟨rfl, fun _ => rfl, fun _ => rfl, fun _ => rfl, fun hn => absurd hn (by decide), fun _ => rfl⟩
        ⟨rfl, rfl, rfl, rfl, rfl, rfl⟩ rfl h.unfinished
    · exact recorded_learn .audio h hstate haudio rfl (by decide) (by decide) (by decide)
  | subscribeAudio =>
    exact recorded_onWrite h (recorded_go h hstate rfl (by decide) (by decide) (by decide))
  | atvvPrehandshake =>
    cases e with
    | procError status => exact recorded_fail h
    | _ => exact .inr (.inl h)
  | _ => exact .inr (.inl h)

/-! ## Restored attributes again -/

lemma imported_go (h : Imported b w.a) (hrestoring : w.a.restoring = true) (hs : s.restores = true) :
    Imported b (go b client s w).a :=
  (imported_pump b client).1 _ (h.start hrestoring hs)

lemma imported_fail (h : Imported b w.a) : Imported b (handleOpFailure b client w).a := (imported_pump b client).2 w h

lemma restores_afterMode (a : Rc003) : a.afterMode.restores = true := by
  unfold Rc003.afterMode
  split_ifs <;> rfl

lemma restores_afterChanged (a : Rc003) : a.afterChanged.restores = true := by
  unfold Rc003.afterChanged
  split_ifs
  · rfl
  · exact restores_afterMode a

lemma restores_afterMtu (a : Rc003) : a.afterMtu.restores = true := by
  unfold Rc003.afterMtu
  split_ifs
  · rfl
  · exact restores_afterChanged a

lemma imported_onMode (h : Imported b w.a) (hrestoring : w.a.restoring = true) :
    Imported b (onMode b client e w).a := by
  unfold onMode
  cases e with
  | readRsp value offset complete =>
    dsimp only
    rw [if_pos hrestoring]
    split_ifs
    · exact imported_failInit h _ _
    · exact imported_go h hrestoring rfl
    · exact imported_go h hrestoring (restores_afterMode _)
  | procError status => exact imported_fail h
  | _ => exact h

lemma imported_onBattery (h : Imported b w.a) (hrestoring : w.a.restoring = true) :
    Imported b (onBattery b client e w).a := by
  have htold (l : UInt8) : Imported b (w.tell (.battery l)).a := h
  have hrestoring' (l : UInt8) : (w.tell (.battery l)).a.restoring = true := hrestoring
  unfold onBattery
  cases e with
  | readRsp value offset complete =>
    dsimp only
    rw [if_pos (hrestoring' _), if_pos hrestoring]
    split_ifs
    · exact imported_go (htold _) (hrestoring' _) rfl
    · exact imported_fail h
  | procError status =>
    dsimp only
    rw [if_pos hrestoring]
    exact imported_fail h
  | _ => exact h

lemma imported_onUnicomSub (h : Imported b w.a) (hrestoring : w.a.restoring = true) :
    Imported b (onUnicomSub e w).a := by
  unfold onUnicomSub
  cases e with
  | writeDone =>
    have hwait : Imported b (startOp .unicomWait w).a := h.start hrestoring rfl
    dsimp only
    split_ifs
    · exact imported_unicomReady hwait
    · exact hwait
  | procError status => exact imported_failInit h _ _
  | _ => exact h

/-- The switch of `rc003_adapter_on_gatt` on restored attributes. -/
lemma imported_onState (h : Imported b w.a) : Imported b (onState b client e w).a := by
  have hlive := h.live
  unfold onState
  cases hstate : w.a.state
  case idle | done | failed | unicomWait | setProtocolMode => exact h
  all_goals
    rw [hstate] at hlive
    first
    | exact absurd (hlive rfl).2 (by decide)
    | have hrestoring : w.a.restoring = true := (hlive rfl).1
  case unicomSub => exact imported_onUnicomSub h hrestoring
  case mtu =>
    dsimp only
    rw [if_pos hrestoring]
    cases e with
    | mtuUpdated mtu => exact imported_go h hrestoring (restores_afterMtu _)
    | procError status => exact imported_go h hrestoring (restores_afterMtu _)
    | _ => exact h
  case readProtocolMode => exact imported_onMode h hrestoring
  case verifyProtocolMode => exact imported_onMode h hrestoring
  case subChanged =>
    dsimp only
    rw [if_pos hrestoring]
    cases e with
    | writeDone =>
      have hsafe : Imported b (w.act fun a => { a with cacheSafe := true }).a := h.same rfl rfl rfl
      exact imported_go hsafe hrestoring (restores_afterChanged _)
    | procError status => exact imported_fail h
    | _ => exact h
  case readBattery => exact imported_onBattery h hrestoring
  case subscribeCtl =>
    dsimp only
    rw [if_pos hrestoring]
    unfold onWrite
    cases e with
    | writeDone => exact imported_go h hrestoring rfl
    | procError status => exact imported_fail h
    | _ => exact h
  case subscribeAudio =>
    dsimp only
    unfold onWrite
    cases e with
    | writeDone => exact imported_go h hrestoring rfl
    | procError status => exact imported_fail h
    | _ => exact h
  case atvvPrehandshake =>
    cases e with
    | procError status => exact imported_fail h
    | _ => exact h

/-! ## Every step -/

lemma sound_onState (h : Coherent b w.a) : Coherent b (onState b client e w).a := by
  rcases h with h | h | h
  · exact .inl (imported_onState h)
  · exact recorded_onState h
  · have hstopped := h.stopped
    unfold onState
    cases hstate : w.a.state
    case idle | done | failed => exact .inr (.inr h)
    all_goals
      rw [hstate] at hstopped
      cases hstopped

lemma sound_extend (h : Coherent b w.a) (e : GattEvt) : Coherent b (extend e w).a := by
  unfold extend
  split_ifs
  · exact h.same rfl rfl rfl rfl id rfl
  · exact h

lemma sound_onGatt (h : Coherent b w.a) : Coherent b (onGatt b client e w).a := by
  have hatt (status : UInt8) : Coherent b (w.act fun a => { a with lastAttError := status }).a :=
    h.same rfl rfl rfl rfl id rfl
  unfold onGatt
  split_ifs
  · exact h
  · cases e with
    | bearerFailed status =>
      dsimp only
      split_ifs
      · exact sound_failInit (hatt status) _ _
      · exact sound_failInit (hatt status) _ _
    | procError status =>
      dsimp only
      split_ifs
      · exact sound_failInit (hatt status) _ _
      · exact sound_onState (hatt status)
    | _ => exact sound_onState (sound_extend h _)

/-- A failed procedure in a state that has one. -/
lemma sound_fail (h : Coherent b w.a) (hlive : w.a.state.discovers = true) :
    Coherent b (handleOpFailure b client w).a := by
  rcases h with h | h | h
  · exact .inl (imported_fail h)
  · exact recorded_fail h
  · exact absurd (h.stopped.symm.trans hlive) Bool.false_ne_true

/-- A Unicom remote that is waited for, or greets, is complete. -/
lemma sound_unicomReady (h : Coherent b w.a)
    (hstate : w.a.state = .unicomWait ∨ w.a.state = .done ∧ w.a.unicom.selected = true) :
    Coherent b (unicomReady w).a := by
  rcases h with h | h | h
  · exact .inl (imported_unicomReady h)
  · rcases hstate with hstate | ⟨hstate, -⟩
    · obtain ⟨hkept, hknown⟩ := kept_unicomWait h hstate
      exact .inl (imported_ready hkept hknown)
    · have hlive := h.discovers
      rw [hstate] at hlive
      cases hlive
  · rcases hstate with hstate | ⟨hstate, hselected⟩
    · have hstopped := h.stopped
      rw [hstate] at hstopped
      cases hstopped
    · exact absurd ((h.plain hstate).symm.trans hselected) Bool.false_ne_true

lemma sound_beginNext (h : Coherent b w.a) (hlive : w.a.state.discovers = true) :
    Coherent b (beginNext b client w).a := by
  rcases h with h | h | h
  · exact .inl ((imported_pump b client).1 w h)
  · exact (seeking_pump b client).1 w h.toSeeking
  · exact absurd (h.stopped.symm.trans hlive) Bool.false_ne_true

lemma sound_databaseChanged (h : Coherent b w.a) : Coherent b (databaseChanged w).a := by
  have hinvalid : Coherent b (w.act fun a => { a with cacheValid := false, cacheSafe := false }).a :=
    h.same rfl rfl rfl rfl (fun _ => rfl) rfl
  unfold databaseChanged
  dsimp only
  split_ifs
  · exact hinvalid
  · exact sound_failInit hinvalid _ _

lemma discovers_of_ne {s : DiscState} (h : ¬(s = .idle ∨ s = .failed)) (hdone : ¬s = .done) :
    s.discovers = true := by
  cases s
  case idle => exact absurd (.inl rfl) h
  case failed => exact absurd (.inr rfl) h
  case done => exact absurd rfl hdone
  all_goals rfl

lemma sound_tick (h : Coherent b w.a) (nowMs : UInt32) : Coherent b (tick b client nowMs w).a := by
  have hnow : Coherent b (w.act fun a => { a with nowMs }).a := h.same rfl rfl rfl rfl id rfl
  unfold tick
  dsimp only
  split_ifs with hdead hwait hready hdone
  · exact hnow
  · exact sound_unicomReady hnow (.inl hwait.2)
  · exact hnow
  · exact hnow
  · exact sound_failInit hnow _ _
  · exact sound_fail hnow (discovers_of_ne hdead hdone)
  · exact sound_failInit hnow _ _
  · exact sound_beginNext hnow (discovers_of_ne hdead hdone)
  · exact hnow

lemma sound_heard (h : Coherent b w.a) (hheard : Heard b client w w') : Coherent b w'.a := by
  cases hheard with
  | quiet => exact h.same rfl rfl rfl rfl id rfl
  | told t => exact h
  | changed => exact sound_databaseChanged h
  | control caps interaction rate =>
    have hcaps : Coherent b (w.act fun a => { a with
        capsValid := caps, interaction := interaction, sampleRate := rate }).a :=
      h.same rfl rfl rfl rfl id rfl
    exact sound_finishVoiceReady hcaps
  | refused hstate => exact sound_fail h (by rw [hstate]; rfl)
  | hello hselected hidle hfailed =>
    have hheard : Coherent b (w.act fun a => { a with unicom := { a.unicom with hello := true } }).a :=
      h.same rfl rfl rfl rfl id rfl
    unfold onHello
    dsimp only
    split_ifs with hfirst
    · exact sound_unicomReady hheard (hfirst.2.imp id fun hdone => ⟨hdone, hselected⟩)
    · exact hheard
  | failed => exact sound_failInit h _ _

lemma sound_step (h : Coherent b w.a) (hstep : Step b client w w') : Coherent b w'.a := by
  cases hstep with
  | gatt => exact sound_onGatt h
  | heard hheard => exact sound_heard h hheard
  | tick => exact sound_tick h _

end Discovery

end DiscWorld

end RemoteBridge
