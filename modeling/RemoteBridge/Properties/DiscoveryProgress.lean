import RemoteBridge.Adapters.Discovery

/-!
# Discovery makes progress

Every state that discovery starts is later than all it started before, in an order that has no infinite
ascending chain.  The invariant `Ordered` relates the starts in the log to the state the adapter is in;
`begin_next` and `handle_op_failure` keep it, so every event and every tick does.

The order is that of the ranks.  The rank of a state has a major part, its place in the discovery, and the
states that are run through for one characteristic after the other have a minor part besides, which grows
with the characteristic.  Both are bounded, so there is a longest run (`length_le_of_later`).

Most of the module is one lemma for each handler of `hogp_on_gatt` and of the tick.  They all have the same
shape: the handler keeps its state, or starts a later one, or ends the discovery.  The lemmas `go` and
`goMajor` hold the argument, and a handler only has to say which of the two it uses.

Progress is stated for the starts that the adapter makes.  Whether a request is answered is up to the remote
and not said here.
-/

namespace RemoteBridge

/-- A state at a characteristic is later than another. -/
def DiscState.Later (q p : DiscState × Nat) : Prop := p.1.rank p.2 < q.1.rank q.2

namespace DiscState

/-- No sequence of states is ever later. -/
theorem later_wellFounded : WellFounded Later := by
  refine Subrelation.wf (r := InvImage (· < ·) fun p : DiscState × Nat => 2048 - p.1.rank p.2) ?_
    (InvImage.wf _ Nat.lt_wfRel.wf)
  intro q p h
  have hq : q.1.rank q.2 < 2048 := rank_lt _ _
  have hlater : p.1.rank p.2 < q.1.rank q.2 := h
  change 2048 - q.1.rank q.2 < 2048 - p.1.rank p.2
  omega

theorem rank_le_failed (s : DiscState) (c d : Nat) : s.rank c ≤ failed.rank d := by
  by_cases h : s = .failed
  · rw [h]
    exact le_rfl
  · exact (rank_lt_rank (by cases s <;> first | decide | exact absurd rfl h) c d).le

theorem rank_le_done {s : DiscState} (h : s ≠ .failed) (c d : Nat) : s.rank c ≤ done.rank d := by
  by_cases hd : s = .done
  · rw [hd]
    exact le_rfl
  · exact (rank_lt_rank (by cases s <;> first | decide | exact absurd rfl h | exact absurd rfl hd) c d).le

end DiscState

/-- The starts of a log, the newest first. -/
def starts (log : List DiscEv) : List (DiscState × Nat) :=
  log.filterMap fun
    | .start s c => some (s, c)
    | _ => none

namespace DiscWorld

variable {G : Type} {b : AdapterBuild} {client : GattClient G} {w w' : DiscWorld G} {s : DiscState}

/-- What holds all through discovery. -/
structure Ordered (w : DiscWorld G) : Prop where
  sorted : (starts w.log).Pairwise DiscState.Later
  /-- The adapter is in no earlier state than those it started. -/
  reached : ∀ p ∈ starts w.log, p.1.rank p.2 ≤ w.a.rank
  live : w.a.state = .done ∨ w.a.state = .failed ∨
    (starts w.log).head? = some (w.a.state, w.a.curChar)
  /-- The rest of the map is asked for once. -/
  longer : w.a.state = .readMapCont → w.a.mapLongStarted = true

theorem failureOp_ne {a a' : Rc003} (h : failureOp a = (a', .go s)) : s ≠ .readMapCont := by
  unfold failureOp at h
  rintro rfl
  split at h <;> cases h

theorem failureOp_ready {a a' : Rc003} {voice : VoiceState} (h : failureOp a = (a', .ready voice)) :
    a.state ≠ .failed := by
  unfold failureOp at h
  intro hfailed
  rw [hfailed] at h
  cases h

namespace Ordered

/-! ## Steps within a state -/

theorem same (h : Ordered w) (hlog : starts w'.log = starts w.log) (hstate : w'.a.state = w.a.state)
    (hchar : w'.a.curChar = w.a.curChar)
    (hlong : w.a.state = .readMapCont → w.a.mapLongStarted = true → w'.a.mapLongStarted = true) :
    Ordered w' where
  sorted := by rw [hlog]; exact h.sorted
  reached := by
    intro p hp
    rw [hlog] at hp
    have hle := h.reached p hp
    rwa [Rc003.rank, hstate, hchar]
  live := by rw [hlog, hstate, hchar]; exact h.live
  longer := by
    intro hmap
    rw [hstate] at hmap
    exact hlong hmap (h.longer hmap)

/-- A step that leaves the state, the characteristic and the map alone. -/
theorem act (h : Ordered w) {f : Rc003 → Rc003} (hstate : (f w.a).state = w.a.state)
    (hchar : (f w.a).curChar = w.a.curChar) (hlong : (f w.a).mapLongStarted = w.a.mapLongStarted) :
    Ordered (w.act f) :=
  h.same rfl hstate hchar fun _ hl => by rw [← hl]; exact hlong

theorem ended (h : Ordered w) (hlog : starts w'.log = starts w.log)
    (hstate : w'.a.state = .done ∨ w'.a.state = .failed) (hrank : w.a.rank ≤ w'.a.rank) :
    Ordered w' where
  sorted := by rw [hlog]; exact h.sorted
  reached := by
    intro p hp
    rw [hlog] at hp
    exact (h.reached p hp).trans hrank
  live := hstate.elim .inl fun hf => .inr (.inl hf)
  longer := by
    intro hmap
    rcases hstate with hd | hf
    · rw [hd] at hmap
      cases hmap
    · rw [hf] at hmap
      cases hmap

/-! ## Ends -/

theorem failInit (h : Ordered w) (cause : String) (invalidate : Bool) :
    Ordered (failInit cause invalidate w) := by
  unfold DiscWorld.failInit
  dsimp only
  split_ifs
  all_goals exact h.ended rfl (.inr rfl) (DiscState.rank_le_failed _ _ _)

theorem failedIn (h : Ordered w) (a : Rc003) (cause : String) (invalidate : Bool) :
    Ordered (DiscWorld.failInit cause invalidate { w with a }) := by
  unfold DiscWorld.failInit
  dsimp only
  split_ifs
  all_goals exact h.ended rfl (.inr rfl) (DiscState.rank_le_failed _ _ _)

theorem finishVoiceReady (h : Ordered w) : Ordered (finishVoiceReady w) := by
  unfold DiscWorld.finishVoiceReady
  split_ifs with hno
  · exact h
  · have hstate : w.a.state = .atvvPrehandshake := not_not.mp fun hne => hno (.inl hne)
    have hrank : ∀ c, w.a.rank ≤ DiscState.done.rank c :=
      fun c => DiscState.rank_le_done (by rw [hstate]; decide) _ _
    dsimp only
    split_ifs
    all_goals exact h.ended rfl (.inl rfl) (hrank _)

theorem unicomReady (h : Ordered w) (hstate : w.a.state ≠ .failed) : Ordered (unicomReady w) := by
  unfold DiscWorld.unicomReady
  dsimp only
  split_ifs
  all_goals exact h.ended rfl (.inl rfl) (DiscState.rank_le_done hstate _ _)

theorem readyWithout (h : Ordered w) (hstate : w.a.state ≠ .failed) (voice : VoiceState) :
    Ordered (readyWithout voice w) :=
  h.ended rfl (.inl rfl) (DiscState.rank_le_done hstate _ _)

theorem accepted (h : Ordered w) : Ordered (accepted w) := by
  unfold DiscWorld.accepted
  split_ifs with hpre
  · dsimp only
    split_ifs
    · exact (h.act rfl rfl rfl).finishVoiceReady.act rfl rfl rfl
    · exact (h.act rfl rfl rfl).finishVoiceReady
  · exact h.act rfl rfl rfl

/-! ## Starts -/

/-- The step that matters: a start moves forward. -/
theorem startOp (h : Ordered w) (hlog : starts w'.log = starts w.log)
    (hlater : w.a.rank < s.rank w'.a.curChar)
    (hcont : s = .readMapCont → w'.a.mapLongStarted = true) : Ordered (startOp s w') := by
  have hstarts : starts (DiscWorld.startOp s w').log =
      ((w'.a.startOp s).state, w'.a.curChar) :: starts w.log := by
    rw [← hlog]
    rfl
  have hstart : w.a.rank < (w'.a.startOp s).rank := hlater.trans_le (Rc003.rank_startOp s w'.a)
  refine ⟨?_, ?_, ?_, ?_⟩
  · rw [hstarts]
    refine List.pairwise_cons.mpr ⟨?_, h.sorted⟩
    intro p hp
    exact (h.reached p hp).trans_lt hstart
  · intro p hp
    rw [hstarts] at hp
    rcases List.mem_cons.mp hp with rfl | hp
    · exact le_rfl
    · exact ((h.reached p hp).trans_lt hstart).le
  · rw [hstarts]
    exact .inr (.inr rfl)
  · intro hmap
    have hs : s = .readMapCont := by
      change (if s = .findAtvvSvc ∧ w'.a.unicom.selected = true then DiscState.unicomService else s) =
        .readMapCont at hmap
      split_ifs at hmap
      exact hmap
    exact hcont hs

theorem submit (h : Ordered w) {a : Rc003} {r : GattReq} (hop : w.a.beginOp b = (a, .ask r)) :
    Ordered (w.submit client a r) := by
  refine h.same rfl (Rc003.beginOp_ask hop).1 (Rc003.beginOp_ask hop).2 ?_
  intro hstate hlong
  rw [← (Rc003.beginOp_map hop).2 hstate] at hlong
  exact hlong

/-- `begin_next` and `handle_op_failure` keep the order, by their common recursion. -/
theorem pump (b : AdapterBuild) (client : GattClient G) :
    (∀ w : DiscWorld G, Ordered w → Ordered (beginNext b client w)) ∧
      ∀ w : DiscWorld G, Ordered w → Ordered (handleOpFailure b client w) := by
  -- one case for each branch of the two functions, in their order
  refine beginNext.mutual_induct b client (fun w => Ordered w → Ordered (beginNext b client w))
    (fun w => Ordered w → Ordered (handleOpFailure b client w)) ?_ ?_ ?_ ?_ ?_ ?_ ?_ ?_ ?_ ?_ ?_ ?_ ?_
  · intro w a s hop ih h
    have hmap := (Rc003.beginOp_map hop).1
    rw [beginNext, hop]
    exact ih (h.startOp rfl (Rc003.beginOp_go hop) fun hs => absurd (congrArg DiscOp.go hs) hmap)
  · intro w a why hop h
    rw [beginNext, hop]
    exact h.failedIn a why true
  · intro w a message hop h
    rw [beginNext, hop]
    exact h.ended rfl (.inr rfl) (DiscState.rank_le_failed _ _ _)
  · intro w a hop h
    rw [beginNext, hop]
    exact h
  · intro w a hop h
    rw [beginNext, hop]
    exact h.accepted
  · intro w a r hop hret h
    rw [beginNext, hop]
    dsimp only
    rw [hret]
    exact (h.submit hop).act rfl rfl rfl
  · intro w a r hop hret ih h
    rw [beginNext, hop]
    dsimp only
    rw [hret]
    exact ih ((h.submit hop).act rfl rfl rfl)
  · intro w a r hop hret hset ih h
    rw [beginNext, hop]
    dsimp only
    rw [hret]
    dsimp only
    rw [dif_pos hset]
    have hstart : w.a.rank < DiscState.verifyProtocolMode.rank a.curChar :=
      DiscState.rank_lt_rank (by rw [hset]; decide) _ _
    exact ih (h.startOp rfl hstart nofun)
  · intro w a r hop hret hset h
    rw [beginNext, hop]
    dsimp only
    rw [hret]
    dsimp only
    rw [dif_neg hset]
    exact (h.submit hop).accepted
  · intro w hrestoring h
    rw [handleOpFailure, if_pos hrestoring]
    exact h.failInit _ _
  · intro w hrestoring a s hop ih h
    rw [handleOpFailure, if_neg hrestoring, hop]
    exact ih (h.startOp rfl (failureOp_go hop) fun hs => absurd hs (failureOp_ne hop))
  · intro w hrestoring a why hop h
    rw [handleOpFailure, if_neg hrestoring, hop]
    exact h.failInit _ _
  · intro w hrestoring a voice hop h
    rw [handleOpFailure, if_neg hrestoring, hop]
    exact h.readyWithout (failureOp_ready hop) voice

theorem beginNext (h : Ordered w) : Ordered (beginNext b client w) := (pump b client).1 w h

theorem handleOpFailure (h : Ordered w) : Ordered (handleOpFailure b client w) := (pump b client).2 w h

theorem go (h : Ordered w) (hlog : starts w'.log = starts w.log) (hlater : w.a.rank < s.rank w'.a.curChar)
    (hs : s ≠ .readMapCont) : Ordered (go b client s w') :=
  (h.startOp hlog hlater fun heq => absurd heq hs).beginNext

/-- Most states start one of a greater major. -/
theorem goMajor (h : Ordered w) (hlog : starts w'.log = starts w.log)
    (hmajor : w.a.state.major < s.major) (hs : s ≠ .readMapCont) :
    Ordered (DiscWorld.go b client s w') :=
  h.go hlog (DiscState.rank_lt_rank hmajor _ _) hs

/-! ## Events -/

variable {e : GattEvt}

theorem onService (h : Ordered w) (hmajor : w.a.state.major < s.major) (hs : s ≠ .readMapCont) :
    Ordered (onService b client s e w) := by
  unfold DiscWorld.onService
  cases e with
  | serviceFound first last => exact h.act rfl rfl rfl
  | procDone =>
    dsimp only
    split_ifs
    · exact h.handleOpFailure
    · exact h.goMajor rfl hmajor hs
  | serviceNotFound => exact h.handleOpFailure
  | procError status => exact h.handleOpFailure
  | _ => exact h

/-- What a setter of `onChar` and of `onCccd` leaves alone. -/
def Quiet (set : UInt16 → Rc003 → Rc003) : Prop :=
  ∀ handle a, (set handle a).state = a.state ∧ (set handle a).curChar = a.curChar ∧
    (set handle a).mapLongStarted = a.mapLongStarted

theorem onChar (h : Ordered w) {mask : UInt8} {set : UInt16 → Rc003 → Rc003} (hset : Quiet set)
    {handle : Rc003 → UInt16} (hmajor : w.a.state.major < s.major) (hs : s ≠ .readMapCont) :
    Ordered (onChar b client mask set handle s e w) := by
  unfold DiscWorld.onChar
  cases e with
  | charsFound value =>
    dsimp only
    split_ifs
    · exact h.act (hset _ _).1 (hset _ _).2.1 (hset _ _).2.2
    · exact h
  | procDone =>
    dsimp only
    split_ifs
    · exact h.handleOpFailure
    · exact h.goMajor rfl hmajor hs
  | procError status => exact h.handleOpFailure
  | _ => exact h

theorem foundCccd (h : Ordered w) {set : UInt16 → Rc003 → Rc003} (hset : Quiet set)
    (handle uuid : UInt16) : Ordered (w.act (Rc003.foundCccd set handle uuid)) := by
  unfold Rc003.foundCccd
  dsimp only
  by_cases hfound : (w.a.descBoundary || uuid == uuidCharacteristic) = false ∧ uuid = uuidCccd
  · have hq := hset handle { w.a with descBoundary := w.a.descBoundary || uuid == uuidCharacteristic }
    refine h.act ?_ ?_ ?_
    · rw [if_pos hfound]; exact hq.1
    · rw [if_pos hfound]; exact hq.2.1
    · rw [if_pos hfound]; exact hq.2.2
  · refine h.act ?_ ?_ ?_
    all_goals rw [if_neg hfound]

theorem onCccd (h : Ordered w) {set : UInt16 → Rc003 → Rc003} (hset : Quiet set)
    {handle : Rc003 → UInt16} (hmajor : w.a.state.major < s.major) (hs : s ≠ .readMapCont) :
    Ordered (onCccd b client set handle s e w) := by
  unfold DiscWorld.onCccd
  cases e with
  | descFound found uuid => exact h.foundCccd hset _ _
  | procDone =>
    dsimp only
    split_ifs
    · exact h.handleOpFailure
    · exact h.goMajor rfl hmajor hs
  | procError status => exact h.handleOpFailure
  | _ => exact h

theorem onWrite (h : Ordered w) (hmajor : w.a.state.major < s.major) (hs : s ≠ .readMapCont) :
    Ordered (onWrite b client s e w) := by
  unfold DiscWorld.onWrite
  cases e with
  | writeDone => exact h.goMajor rfl hmajor hs
  | procError status => exact h.handleOpFailure
  | _ => exact h

theorem onGattService (h : Ordered w) (hstate : w.a.state = .findGattSvc) :
    Ordered (onGattService b client e w) := by
  unfold DiscWorld.onGattService
  cases e with
  | serviceFound first last => exact h.act rfl rfl rfl
  | procDone =>
    dsimp only
    split_ifs
    · exact h.goMajor rfl (by rw [hstate]; decide) (by decide)
    · exact h.handleOpFailure
  | serviceNotFound => exact (h.act rfl rfl rfl).handleOpFailure
  | procError status => exact h.handleOpFailure
  | _ => exact h

theorem onChangedChar (h : Ordered w) (hstate : w.a.state = .findChangedChar) :
    Ordered (onChangedChar b client e w) := by
  unfold DiscWorld.onChangedChar
  cases e with
  | charsFound value =>
    dsimp only
    split_ifs
    · exact h.act rfl rfl rfl
    · exact h
  | procDone =>
    dsimp only
    split_ifs
    · exact (h.act rfl rfl rfl).handleOpFailure
    · exact h.goMajor rfl (by rw [hstate]; decide) (by decide)
  | procError status => exact h.handleOpFailure
  | _ => exact h

theorem onHidInfoChar (h : Ordered w) (hstate : w.a.state = .findHidInfo) :
    Ordered (onHidInfoChar b client e w) := by
  unfold DiscWorld.onHidInfoChar
  cases e with
  | charsFound value =>
    dsimp only
    split_ifs
    · exact h.handleOpFailure
    · exact h.act rfl rfl rfl
    · exact h
  | procDone =>
    dsimp only
    split_ifs
    · exact h.handleOpFailure
    · exact h.goMajor rfl (by rw [hstate]; decide) (by decide)
  | procError status => exact h.handleOpFailure
  | _ => exact h

theorem onHidInfo (h : Ordered w) (hstate : w.a.state = .readHidInfo) :
    Ordered (onHidInfo b client e w) := by
  unfold DiscWorld.onHidInfo
  cases e with
  | readRsp value offset complete =>
    dsimp only
    split_ifs
    · exact h.handleOpFailure
    · exact h.goMajor rfl (by rw [hstate]; decide) (by decide)
  | procError status => exact h.handleOpFailure
  | _ => exact h

theorem onModeChar (h : Ordered w) (hstate : w.a.state = .findProtocolMode) :
    Ordered (onModeChar b client e w) := by
  unfold DiscWorld.onModeChar
  cases e with
  | charsFound value =>
    dsimp only
    split_ifs
    · exact h.failInit _ _
    · exact h.act rfl rfl rfl
    · exact h
  | procDone =>
    dsimp only
    split_ifs
    all_goals exact h.goMajor rfl (by rw [hstate]; decide) (by decide)
  | procError status => exact h.handleOpFailure
  | _ => exact h

/-- A restored adapter goes on where the fresh one would be later. -/
theorem afterMode_major (a : Rc003) : 12 < a.afterMode.major ∧ a.afterMode ≠ .readMapCont := by
  unfold Rc003.afterMode
  split_ifs <;> decide

theorem afterChanged_major (a : Rc003) : 5 < a.afterChanged.major ∧ a.afterChanged ≠ .readMapCont := by
  unfold Rc003.afterChanged
  split_ifs
  · decide
  · exact ⟨(afterMode_major a).1.trans' (by decide), (afterMode_major a).2⟩

theorem afterMtu_major (a : Rc003) : 1 < a.afterMtu.major ∧ a.afterMtu ≠ .readMapCont := by
  unfold Rc003.afterMtu
  split_ifs
  · decide
  · exact ⟨(afterChanged_major a).1.trans' (by decide), (afterChanged_major a).2⟩

theorem onMode (h : Ordered w) (hstate : w.a.state = .readProtocolMode ∨ w.a.state = .verifyProtocolMode) :
    Ordered (onMode b client e w) := by
  have hmode : w.a.state.major ≤ 12 := by
    rcases hstate with hs | hs <;> rw [hs] <;> decide
  unfold DiscWorld.onMode
  cases e with
  | readRsp value offset complete =>
    dsimp only
    split_ifs with hbad hset hrestoring
    · exact h.failInit _ _
    · -- the mode is written once, because only the first read may find it wrong
      have hread : w.a.state = .readProtocolMode :=
        hstate.resolve_right fun hverify => hbad (.inr (.inr ⟨hverify, hset⟩))
      exact h.goMajor rfl (by rw [hread]; decide) (by decide)
    · exact h.goMajor rfl (hmode.trans_lt (afterMode_major _).1) (afterMode_major _).2
    · exact h.goMajor rfl (hmode.trans_lt (by decide)) (by decide)
  | procError status => exact h.handleOpFailure
  | _ => exact h

theorem mapComplete (h : Ordered w) (hmajor : w.a.state.major ≤ 15) : Ordered (mapComplete b client w) := by
  unfold DiscWorld.mapComplete
  have htake : ∀ a ∈ w.a.takeMap, a.state = w.a.state ∧ a.curChar = w.a.curChar ∧
      a.mapLongStarted = w.a.mapLongStarted := by
    intro a ha
    unfold Rc003.takeMap at ha
    split_ifs at ha
    · obtain rfl := Option.some.inj ha
      exact ⟨rfl, rfl, rfl⟩
    · obtain ⟨map, -, rfl⟩ := Option.map_eq_some_iff.mp ha
      exact ⟨rfl, rfl, rfl⟩
  cases hmap : w.a.takeMap with
  | none => exact (h.act rfl rfl rfl).handleOpFailure
  | some a =>
    obtain ⟨hstate, hchar, hlong⟩ := htake a hmap
    dsimp only
    split_ifs
    · exact h.failedIn _ _ _
    · refine h.goMajor rfl (hmajor.trans_lt (by decide)) (by decide)

theorem onMap (h : Ordered w) (hstate : w.a.state = .readMap ∨ w.a.state = .readMapCont) :
    Ordered (onMap b client e w) := by
  have hmajor : w.a.state.major ≤ 15 := by
    rcases hstate with hs | hs <;> rw [hs] <;> decide
  unfold DiscWorld.onMap
  cases e with
  | readRsp value offset complete =>
    dsimp only
    split_ifs with hbad hcomplete hlong
    · exact h.handleOpFailure
    · exact (h.act rfl rfl rfl).mapComplete hmajor
    · exact h.act rfl rfl rfl
    · -- the rest is asked for in the first state only, by `longer`
      have hread : w.a.state = .readMap :=
        hstate.resolve_right fun hcont => hlong (h.longer hcont)
      unfold DiscWorld.go
      refine Ordered.beginNext (h.startOp rfl ?_ fun _ => rfl)
      exact DiscState.rank_lt_rank (by rw [hread]; decide) _ _
  | procError status => exact h.handleOpFailure
  | _ => exact h

theorem onReportChars (h : Ordered w) (hstate : w.a.state = .enumReportChars) :
    Ordered (onReportChars b client e w) := by
  unfold DiscWorld.onReportChars
  cases e with
  | charsFound value =>
    dsimp only
    split_ifs
    · exact h.failInit _ _
    · unfold Rc003.foundReport
      by_cases hroom : w.a.chars.length < maxReportChars
      · refine h.act ?_ ?_ ?_
        all_goals rw [dif_pos hroom]
      · refine h.act ?_ ?_ ?_
        all_goals rw [dif_neg hroom]
    · exact h
  | procDone =>
    dsimp only
    split_ifs
    · exact h.handleOpFailure
    · exact h.goMajor rfl (by rw [hstate]; decide) (by decide)
  | procError status => exact h.handleOpFailure
  | _ => exact h

/-- The next characteristic is later than any state of this one. -/
theorem goNextChar (h : Ordered w) (hstate : w.a.state = .discDescs ∨ w.a.state = .subscribeReport)
    (hlog : starts w'.log = starts w.log) (hchar : w'.a.curChar = w.a.curChar) :
    Ordered (goNextChar b client w') := by
  have hfits := w'.a.fits
  unfold DiscWorld.goNextChar
  split_ifs with hmore
  · refine h.go hlog ?_ (by decide)
    change w.a.rank < DiscState.discDescs.rank (w'.a.curChar + 1)
    rw [Rc003.rank, hchar]
    rw [hchar] at hmore
    unfold maxReportChars at hfits
    rcases hstate with hs | hs
    all_goals
      rw [hs]
      simp only [DiscState.rank, DiscState.major, DiscState.minor]
      omega
  · refine h.goMajor hlog ?_ (by decide)
    rcases hstate with hs | hs <;> rw [hs] <;> decide

theorem onDescs (h : Ordered w) (hstate : w.a.state = .discDescs) : Ordered (onDescs b client e w) := by
  unfold DiscWorld.onDescs
  cases e with
  | descFound handle uuid =>
    unfold Rc003.foundDesc
    dsimp only
    by_cases hafter : (w.a.descBoundary || uuid == uuidCharacteristic) = true
    · refine h.act ?_ ?_ ?_
      all_goals rw [if_pos hafter]
    · refine h.act ?_ ?_ ?_
      all_goals
        rw [if_neg hafter]
        rfl
  | procDone =>
    dsimp only
    split_ifs
    · refine h.go rfl ?_ (by decide)
      simp only [Rc003.rank, hstate, DiscState.rank, DiscState.major, DiscState.minor]
      omega
    · exact h.goNextChar (.inl hstate) rfl rfl
  | procError status => exact h.handleOpFailure
  | _ => exact h

theorem onReportRef (h : Ordered w) (hstate : w.a.state = .readReportRef) :
    Ordered (onReportRef b client e w) := by
  unfold DiscWorld.onReportRef
  cases e with
  | readRsp value offset complete =>
    dsimp only
    split_ifs
    · refine h.go rfl ?_ (by decide)
      change w.a.rank < DiscState.subscribeReport.rank w.a.curChar
      simp only [Rc003.rank, hstate, DiscState.rank, DiscState.major, DiscState.minor]
      omega
    · exact h.handleOpFailure
  | procError status => exact h.handleOpFailure
  | _ => exact h

theorem onSubscribed (h : Ordered w) (hstate : w.a.state = .subscribeReport) :
    Ordered (onSubscribed b client e w) := by
  unfold DiscWorld.onSubscribed
  cases e with
  | writeDone => exact h.goNextChar (.inr hstate) rfl rfl
  | procError status => exact h.handleOpFailure
  | _ => exact h

theorem onBatteryDescs (h : Ordered w) (hstate : w.a.state = .discBatDescs) :
    Ordered (onBatteryDescs b client e w) := by
  unfold DiscWorld.onBatteryDescs
  cases e with
  | descFound handle uuid =>
    refine h.foundCccd ?_ _ _
    exact fun _ _ => ⟨rfl, rfl, rfl⟩
  | procDone => exact h.goMajor rfl (by rw [hstate]; decide) (by decide)
  | procError status => exact h.goMajor rfl (by rw [hstate]; decide) (by decide)
  | _ => exact h

theorem onBattery (h : Ordered w) (hstate : w.a.state = .readBattery) :
    Ordered (onBattery b client e w) := by
  unfold DiscWorld.onBattery
  cases e with
  | readRsp value offset complete =>
    dsimp only
    split_ifs
    · exact h.goMajor rfl (by rw [hstate]; decide) (by decide)
    · exact h.goMajor rfl (by rw [hstate]; decide) (by decide)
    · exact h.goMajor rfl (by rw [hstate]; decide) (by decide)
    · exact h.handleOpFailure
    · exact h.goMajor rfl (by rw [hstate]; decide) (by decide)
  | procError status =>
    dsimp only
    split_ifs
    · exact h.handleOpFailure
    · exact h.goMajor rfl (by rw [hstate]; decide) (by decide)
  | _ => exact h

theorem onBatterySub (h : Ordered w) (hstate : w.a.state = .subscribeBattery) :
    Ordered (onBatterySub b client e w) := by
  unfold DiscWorld.onBatterySub
  cases e with
  | writeDone => exact h.goMajor rfl (by rw [hstate]; decide) (by decide)
  | procError status => exact h.goMajor rfl (by rw [hstate]; decide) (by decide)
  | _ => exact h

theorem onAtvvService (h : Ordered w) (hstate : w.a.state = .findAtvvSvc) :
    Ordered (onAtvvService b client e w) := by
  unfold DiscWorld.onAtvvService
  cases e with
  | serviceFound first last => exact h.act rfl rfl rfl
  | procDone =>
    dsimp only
    split_ifs
    · exact h.goMajor rfl (by rw [hstate]; decide) (by decide)
    · exact h.handleOpFailure
  | serviceNotFound => exact h.handleOpFailure
  | procError status => exact h.handleOpFailure
  | _ => exact h

theorem onUnicomService (h : Ordered w) (hstate : w.a.state = .unicomService) :
    Ordered (onUnicomService b client e w) := by
  unfold DiscWorld.onUnicomService
  cases e with
  | serviceFound first last =>
    dsimp only
    split_ifs
    · exact h.failInit _ _
    · exact h.act rfl rfl rfl
  | procDone =>
    dsimp only
    split_ifs
    · exact h.goMajor rfl (by rw [hstate]; decide) (by decide)
    · exact h.failInit _ _
  | serviceNotFound => exact h.failInit _ _
  | procError status => exact h.failInit _ _
  | _ => exact h

theorem onUnicomChar (h : Ordered w) (hstate : w.a.state = .unicomChar) :
    Ordered (onUnicomChar b client e w) := by
  unfold DiscWorld.onUnicomChar
  cases e with
  | charsFound value =>
    dsimp only
    split_ifs
    · exact h.failInit _ _
    · exact h.act rfl rfl rfl
  | procDone =>
    dsimp only
    split_ifs
    · exact h.goMajor rfl (by rw [hstate]; decide) (by decide)
    · exact h.failInit _ _
  | procError status => exact h.failInit _ _
  | _ => exact h

theorem onUnicomDesc (h : Ordered w) (hstate : w.a.state = .unicomDesc) :
    Ordered (onUnicomDesc b client e w) := by
  unfold DiscWorld.onUnicomDesc
  cases e with
  | descFound handle uuid =>
    refine h.foundCccd ?_ _ _
    exact fun _ _ => ⟨rfl, rfl, rfl⟩
  | procDone =>
    dsimp only
    split_ifs
    · exact h.goMajor rfl (by rw [hstate]; decide) (by decide)
    · exact h.failInit _ _
  | procError status => exact h.failInit _ _
  | _ => exact h

theorem onUnicomSub (h : Ordered w) (hstate : w.a.state = .unicomSub) : Ordered (onUnicomSub e w) := by
  unfold DiscWorld.onUnicomSub
  cases e with
  | writeDone =>
    have hwait : Ordered (DiscWorld.startOp .unicomWait w) :=
      h.startOp rfl (DiscState.rank_lt_rank (by rw [hstate]; decide) _ _) nofun
    dsimp only
    split_ifs
    · exact hwait.unicomReady nofun
    · exact hwait
  | procError status => exact h.failInit _ _
  | _ => exact h

/-- The `switch` of `rc003_adapter_on_gatt` keeps the order. -/
theorem onState (h : Ordered w) : Ordered (onState b client e w) := by
  unfold DiscWorld.onState
  cases hstate : w.a.state with
  | unicomService => exact h.onUnicomService hstate
  | unicomChar => exact h.onUnicomChar hstate
  | unicomDesc => exact h.onUnicomDesc hstate
  | unicomSub => exact h.onUnicomSub hstate
  | mtu =>
    -- after the MTU a restored device goes on behind what it has restored
    have hgo : Ordered (DiscWorld.go b client (if w.a.restoring then w.a.afterMtu else .findGattSvc) w) := by
      split_ifs
      · exact h.goMajor rfl (by rw [hstate]; exact (afterMtu_major _).1) (afterMtu_major _).2
      · exact h.goMajor rfl (by rw [hstate]; decide) (by decide)
    cases e with
    | mtuUpdated mtu => exact hgo
    | procError status => exact hgo
    | _ => exact h
  | findProtocolMode => exact h.onModeChar hstate
  | readProtocolMode => exact h.onMode (.inl hstate)
  | verifyProtocolMode => exact h.onMode (.inr hstate)
  | findGattSvc => exact h.onGattService hstate
  | findChangedChar => exact h.onChangedChar hstate
  | discChangedDesc =>
    refine h.onCccd ?_ (by rw [hstate]; decide) (by decide)
    exact fun _ _ => ⟨rfl, rfl, rfl⟩
  | discCtlDesc =>
    refine h.onCccd ?_ (by rw [hstate]; decide) (by decide)
    exact fun _ _ => ⟨rfl, rfl, rfl⟩
  | discAudioDesc =>
    refine h.onCccd ?_ (by rw [hstate]; decide) (by decide)
    exact fun _ _ => ⟨rfl, rfl, rfl⟩
  | subChanged =>
    cases e with
    | writeDone =>
      dsimp only
      split_ifs
      · exact h.goMajor rfl (by rw [hstate]; exact (afterChanged_major _).1) (afterChanged_major _).2
      · exact h.goMajor rfl (by rw [hstate]; decide) (by decide)
    | procError status => exact h.handleOpFailure
    | _ => exact h
  | findHidSvc => exact h.onService (by rw [hstate]; decide) (by decide)
  | findHidInfo => exact h.onHidInfoChar hstate
  | readHidInfo => exact h.onHidInfo hstate
  | findMapChar =>
    refine h.onChar ?_ (by rw [hstate]; decide) (by decide)
    exact fun _ _ => ⟨rfl, rfl, rfl⟩
  | readMap => exact h.onMap (.inl hstate)
  | readMapCont => exact h.onMap (.inr hstate)
  | enumReportChars => exact h.onReportChars hstate
  | discDescs => exact h.onDescs hstate
  | readReportRef => exact h.onReportRef hstate
  | subscribeReport => exact h.onSubscribed hstate
  | findBatSvc => exact h.onService (by rw [hstate]; decide) (by decide)
  | findBatChar =>
    refine h.onChar ?_ (by rw [hstate]; decide) (by decide)
    exact fun _ _ => ⟨rfl, rfl, rfl⟩
  | discBatDescs => exact h.onBatteryDescs hstate
  | readBattery => exact h.onBattery hstate
  | subscribeBattery => exact h.onBatterySub hstate
  | findAtvvSvc => exact h.onAtvvService hstate
  | findAtvvTx =>
    refine h.onChar ?_ (by rw [hstate]; decide) (by decide)
    exact fun _ _ => ⟨rfl, rfl, rfl⟩
  | findAtvvCtl =>
    refine h.onChar ?_ (by rw [hstate]; decide) (by decide)
    exact fun _ _ => ⟨rfl, rfl, rfl⟩
  | subscribeCtl =>
    dsimp only
    split_ifs
    all_goals exact h.onWrite (by rw [hstate]; decide) (by decide)
  | findAtvvAudio =>
    refine h.onChar ?_ (by rw [hstate]; decide) (by decide)
    exact fun _ _ => ⟨rfl, rfl, rfl⟩
  | subscribeAudio => exact h.onWrite (by rw [hstate]; decide) (by decide)
  | atvvPrehandshake =>
    cases e with
    | procError status => exact h.handleOpFailure
    | _ => exact h
  | _ => exact h

/-! ## Runs -/

theorem databaseChanged (h : Ordered w) : Ordered (databaseChanged w) := by
  unfold DiscWorld.databaseChanged
  dsimp only
  split_ifs
  · exact h.act rfl rfl rfl
  · exact (h.act rfl rfl rfl).failInit _ _

theorem extend (h : Ordered w) (e : GattEvt) : Ordered (extend e w) := by
  unfold DiscWorld.extend
  split_ifs
  · exact h.act rfl rfl rfl
  · exact h

theorem onGatt (h : Ordered w) : Ordered (onGatt b client e w) := by
  unfold DiscWorld.onGatt
  split_ifs
  · exact h
  · cases e with
    | bearerFailed status =>
      dsimp only
      split_ifs
      all_goals exact (h.act rfl rfl rfl).failInit _ _
    | procError status =>
      dsimp only
      split_ifs
      · exact (h.act rfl rfl rfl).failInit _ _
      · exact (h.act rfl rfl rfl).onState
    | _ => exact (h.extend _).onState

theorem tick (h : Ordered w) (nowMs : UInt32) : Ordered (tick b client nowMs w) := by
  have hnow : Ordered (w.act fun a => { a with nowMs }) := h.act rfl rfl rfl
  unfold DiscWorld.tick
  dsimp only
  split_ifs with hdead hwait
  · exact hnow
  · exact hnow.unicomReady fun hf => hdead (.inr hf)
  · exact hnow
  · exact hnow
  · exact hnow.failInit _ _
  · exact hnow.handleOpFailure
  · exact hnow.failInit _ _
  · exact hnow.beginNext
  · exact hnow

theorem heard (h : Ordered w) (hheard : Heard b client w w') : Ordered w' := by
  cases hheard with
  | quiet => exact h.act rfl rfl rfl
  | told t => exact h.same rfl rfl rfl fun _ hl => hl
  | changed => exact h.databaseChanged
  | control => exact (h.act rfl rfl rfl).finishVoiceReady
  | refused => exact h.handleOpFailure
  | hello _ _ hlive =>
    unfold onHello
    dsimp only
    split_ifs
    · exact (h.act rfl rfl rfl).unicomReady hlive
    · exact h.act rfl rfl rfl
  | failed => exact h.failInit _ _

theorem step (h : Ordered w) (hstep : Step b client w w') : Ordered w' := by
  cases hstep with
  | gatt => exact h.onGatt
  | heard hheard => exact h.heard hheard
  | tick => exact h.tick _

theorem run (h : Ordered w) (hrun : Run b client w w') : Ordered w' := by
  induction hrun with
  | refl => exact h
  | tail _ hstep ih => exact ih.step hstep

/-- The first state has nothing before it. -/
theorem first (hlog : starts w.log = []) (hs : s ≠ .readMapCont) : Ordered (DiscWorld.go b client s w) := by
  have hstarts : starts (DiscWorld.startOp s w).log = [((w.a.startOp s).state, w.a.curChar)] := by
    change ((w.a.startOp s).state, w.a.curChar) :: starts w.log = _
    rw [hlog]
  refine Ordered.beginNext ⟨?_, ?_, ?_, ?_⟩
  · rw [hstarts]
    exact List.pairwise_singleton _ _
  · intro p hp
    rw [hstarts, List.mem_singleton] at hp
    rw [hp]
    exact le_rfl
  · rw [hstarts]
    exact .inr (.inr rfl)
  · intro hmap
    have heq : s = .readMapCont := by
      change (if s = .findAtvvSvc ∧ w.a.unicom.selected = true then DiscState.unicomService else s) =
        .readMapCont at hmap
      split_ifs at hmap
      exact hmap
    exact absurd heq hs

theorem startBound (nowMs peerId : UInt32) (a : Rc003) (gatt : G) :
    Ordered (startBound b client nowMs peerId a gatt) := by
  unfold DiscWorld.startBound
  split_ifs
  · refine first rfl ?_
    unfold restoredFirst
    split_ifs <;> decide
  · exact first rfl (by decide)

end Ordered

end DiscWorld

/-- A chain of later states is no longer than there are numbers. -/
theorem length_le_of_later {l : List (DiscState × Nat)} (h : l.Pairwise DiscState.Later) :
    l.length ≤ 2048 := by
  have hnodup : (l.map fun p => p.1.rank p.2).Nodup := by
    refine List.pairwise_map.mpr (h.imp ?_)
    intro q p hlater
    exact (ne_of_lt hlater).symm
  have hsub : (l.map fun p => p.1.rank p.2) ⊆ List.range 2048 := by
    intro n hn
    obtain ⟨p, -, rfl⟩ := List.mem_map.mp hn
    exact List.mem_range.mpr (DiscState.rank_lt _ _)
  have hlen := (List.subperm_of_subset hnodup hsub).length_le
  rwa [List.length_map, List.length_range] at hlen

open DiscWorld in
/-- In every run of discovery, on either path, every start is later than all before it, the adapter is in
the state it started last or at the end, and the number of starts is bounded. -/
theorem discovery_progresses {G : Type} (b : AdapterBuild) (client : GattClient G)
    (nowMs peerId : UInt32) (a : Rc003) (gatt : G) {w : DiscWorld G}
    (hrun : Run b client (startBound b client nowMs peerId a gatt) w) :
    WellFounded DiscState.Later ∧ (starts w.log).Pairwise DiscState.Later ∧
      (w.a.state = .done ∨ w.a.state = .failed ∨
        (starts w.log).head? = some (w.a.state, w.a.curChar)) ∧
      (starts w.log).length ≤ 2048 := by
  have h : Ordered w := (Ordered.startBound nowMs peerId a gatt).run hrun
  exact ⟨DiscState.later_wellFounded, h.sorted, h.live, length_le_of_later h.sorted⟩

/-- A client that accepts everything. -/
def eagerClient : GattClient Unit where
  submit _ g := (.ok, g)

/-- Many events of the GATT client. -/
def DiscWorld.hear {G : Type} (b : AdapterBuild) (client : GattClient G) (es : List GattEvt)
    (w : DiscWorld G) : DiscWorld G :=
  es.foldl (fun w e => onGatt b client e w) w

lemma DiscWorld.run_hear {G : Type} (b : AdapterBuild) (client : GattClient G) (es : List GattEvt)
    (w : DiscWorld G) : DiscWorld.Run b client w (w.hear b client es) := by
  induction es generalizing w with
  | nil => exact .refl
  | cons e es ih => exact .head (.gatt w e) (ih _)

/-- The report map of an RC003. -/
def rc003Map : List UInt8 :=
  [0x05, 0x01, 0x09, 0x06, 0xa1, 0x01, 0x05, 0x07, 0x09, 0x06, 0xa1, 0x01, 0x85, 0x01, 0x95, 0x03,
   0x75, 0x10, 0x15, 0x00, 0x25, 0xfe, 0x19, 0x00, 0x29, 0xfe, 0x81, 0x00, 0xc0, 0x06, 0x00, 0xff,
   0x09, 0x00, 0xa1, 0x01, 0x85, 0x06, 0x75, 0x08, 0x95, 0x78, 0x15, 0x00, 0x25, 0xff, 0x19, 0x00,
   0x29, 0xff, 0x81, 0x00, 0x85, 0x07, 0x75, 0x08, 0x95, 0x78, 0x15, 0x00, 0x25, 0xff, 0x19, 0x00,
   0x29, 0xff, 0x81, 0x00, 0x85, 0x08, 0x75, 0x08, 0x95, 0x78, 0x15, 0x00, 0x25, 0xff, 0x19, 0x00,
   0x29, 0xff, 0x81, 0x00, 0xc0, 0xc0]

/-- The responses of an RC003 without a battery, up to the command that asks for its capabilities. -/
def rc003Responses : List GattEvt :=
  [.mtuUpdated 23, .serviceNotFound, .serviceFound 0x55 0xb4, .procDone, .charsFound [2, 0xa0, 0], .procDone,
   .readRsp [0x11, 0x01, 0, 2] 0 true, .charsFound [6, 0x80, 0], .procDone, .readRsp [0] 0 true,
   .readRsp [1] 0 true, .charsFound [2, 0x5d, 0], .procDone, .readRsp rc003Map 0 true,
   .charsFound [0x12, 0x57, 0], .charsFound [0x12, 0x63, 0], .procDone,
   .descFound 0x58 0x2902, .descFound 0x59 0x2908, .procDone, .readRsp [1, 1] 0 true, .writeDone,
   .descFound 0x64 0x2902, .descFound 0x65 0x2908, .procDone, .readRsp [3, 1] 0 true,
   .serviceNotFound, .serviceFound 0x300 0x308, .procDone, .charsFound [0x0c, 0x02, 3], .procDone,
   .charsFound [0x10, 0x07, 3], .procDone, .descFound 0x308 0x2902, .procDone, .writeDone,
   .charsFound [0x10, 0x04, 3], .procDone, .descFound 0x305 0x2902, .procDone, .writeDone]

open DiscWorld in
/-- An RC003 that answers everything is led through twenty-eight states. -/
theorem discovery_progresses_rc003 :
    (starts ((startBound ⟨23, false⟩ eagerClient 0 7 {} ()).hear ⟨23, false⟩ eagerClient
      rc003Responses).log).Pairwise DiscState.Later ∧
    (starts ((startBound ⟨23, false⟩ eagerClient 0 7 {} ()).hear ⟨23, false⟩ eagerClient
      rc003Responses).log).length = 28 :=
  ⟨(discovery_progresses ⟨23, false⟩ eagerClient 0 7 {} () (run_hear _ _ rc003Responses _)).2.1,
    by decide +kernel⟩

end RemoteBridge
