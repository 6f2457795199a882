import RemoteBridge.Product.Stream

/-!
# Callbacks as moves

Every callback of the radio and the adapter, and every phase of `rbp_server_tick` but the deferred reply,
is a run of moves.  It follows that a platform whose backend functions only make callbacks, nested to any
depth, does to the server no more than moves do.
-/

namespace RemoteBridge

open World

variable {E : Type} {b : Build} {P : Platform E} {w w' : World E}

/-! ## The link -/

lemma moves_setNow (nowMs : UInt32) (w : World E) : Moves b 2 w (w.act (Server.setNow nowMs)) :=
  .step_quiet le_rfl _ (by constructor <;> simp [Server.setNow])

/-- `send_device_state` announces the state; then the backend may report. -/
lemma announce_sendDeviceState (hP : Backend b P) (connCtx : UInt32) (w : World E) :
    Moves b 2 (w.announce b connCtx) (sendDeviceState b P connCtx w) := by
  unfold World.announce sendDeviceState ctlEnqueue
  cases w.srv.ctlFits b w.srv.deviceInfoTlv.length with
  | true => exact .refl _
  | false => exact moves_reports hP _

/-- `rbp_server_on_link` from the assignment of the new state on. -/
lemma moves_enterLink (hP : Backend b P) (state : LinkState) (ctxId : UInt32) {w₁ : World E}
    (hn : w₁ = w ∨ (w.srv.device.connectionId = 0 ∧ ∃ proposed, w₁ = w.connected proposed))
    (hc : state = .ready → w₁.srv.device.connectionId ≠ 0) :
    Moves b 2 w (enterLink b P w.srv.device.linkState state ctxId w₁) := by
  unfold enterLink
  dsimp only
  generalize hset : w₁.act (Server.setLink state) = w₂
  refine Moves.trans ?_ (announce_sendDeviceState hP ctxId _)
  by_cases hleave : w.srv.device.linkState = .ready ∧ state ≠ .ready
  · have hleaves : w.srv.leaves state = true := decide_eq_true hleave
    have hwindow : Moves b 1 w₂
        (onKeys (if w₂.srv.voice.delivering then voiceFinishStream b P .linkLost true w₂
          else w₂).srv.lostKeys
          (if w₂.srv.voice.delivering then voiceFinishStream b P .linkLost true w₂ else w₂)) :=
      .keys le_rfl _ (.ite (moves_voiceFinishStream hP le_rfl fun _ => .inl rfl) (.refl _))
    subst hset
    have hmove := Moves.link le_rfl state ctxId hn hc (by simp [hleaves]) hwindow (.refl w)
    rw [if_pos hleave]
    unfold leaveReady
    unfold Server.settle at hmove
    cases hdown : state.down with
    | true =>
      simp only [hleaves, hdown, if_true] at hmove ⊢
      exact hmove
    | false =>
      simp only [hleaves, hdown, Bool.false_eq_true, if_false, if_true] at hmove ⊢
      exact hmove
  · have hleaves : w.srv.leaves state = false := decide_eq_false hleave
    subst hset
    have hmove := Moves.link (b := b) le_rfl state ctxId hn hc (fun _ => rfl) (.refl _) (.refl w)
    rw [if_neg hleave]
    unfold Server.settle at hmove
    cases hdown : state.down with
    | true =>
      simp only [hleaves, hdown, Bool.false_eq_true, if_false, if_true] at hmove ⊢
      exact hmove
    | false =>
      simp only [hleaves, hdown, Bool.false_eq_true, if_false] at hmove ⊢
      exact hmove

lemma moves_onLink (hP : Backend b P) (state : LinkState) (proposed nowMs : UInt32) (w : World E) :
    Moves b 2 w (onLink b P state proposed nowMs w) := by
  unfold onLink
  dsimp only
  refine (moves_setNow nowMs w).trans ?_
  generalize w.act (Server.setNow nowMs) = w
  have hpair : Moves b 2 w (w.act (Server.notePairReady state)) :=
    .step_quiet le_rfl _ (by constructor <;> simp [Server.notePairReady])
  refine hpair.trans ?_
  generalize w.act (Server.notePairReady state) = v
  generalize (if w.srv.readyWaits state then LinkState.initializing else state) = state
  unfold connectIfNew
  split
  · next hnew =>
    simp only [Bool.and_eq_true, beq_iff_eq] at hnew
    dsimp only
    refine moves_enterLink hP _ _ (.inr ⟨hnew.1, proposed, rfl⟩) fun hready => ?_
    split at hready
    · cases hready
    · next hid => simpa [World.connected, Server.connect] using hid
  · next hold =>
    refine moves_enterLink hP _ _ (.inl rfl) fun hready => ?_
    subst hready
    simpa [LinkState.up] using hold

/-! ## Discovery and pairing -/

lemma moves_onScanCandidate (cand : Candidate) (w : World E) :
    Moves b 2 w (onScanCandidate cand w) := by
  unfold onScanCandidate
  split
  · exact .refl w
  · refine .step_quiet le_rfl _ ?_
    have hactive : (w.srv.find.addCandidate cand).active = w.srv.find.active := by
      unfold Find.addCandidate
      split
      · rfl
      · split <;> rfl
    constructor <;> simp [hactive]

lemma moves_onScanDone (hP : Backend b P) (reason : UInt8) (nowMs : UInt32) (w : World E) :
    Moves b 2 w (onScanDone b P reason nowMs w) := by
  refine (moves_setNow nowMs w).trans ?_
  unfold onScanDone
  dsimp only
  split
  · exact .refl _
  · have hend : Moves b 2 (w.act (Server.setNow nowMs))
        ((w.act (Server.setNow nowMs)).act (Server.endFind nowMs)) :=
      .step_quiet le_rfl _ (by constructor <;> simp [Server.endFind])
    exact hend.trans (moves_event hP le_rfl .findDone 0 _ _ (.findDone _))

lemma drawId_cases (P : Platform E) (w : World E) :
    ∃ id e, drawId P w = (id, { w with env := e }) := ⟨_, _, rfl⟩

lemma moves_onPairPrompt (hP : Backend b P) (method : PromptMethod) (number remainingMs : UInt32)
    (w : World E) : Moves b 2 w (onPairPrompt b P method number remainingMs w) := by
  unfold onPairPrompt
  dsimp only
  split
  · exact .refl w
  · next hop =>
    split
    · exact .refl w
    · simp only [Bool.or_eq_true, Bool.not_eq_true', bne_iff_ne, not_or, Bool.not_eq_false,
        not_not] at hop
      rcases drawId_cases P w with ⟨id, e, heq⟩
      rw [heq]
      have hdraw : Moves b 2 w { w with env := e } := .env le_rfl _ (.refl w)
      dsimp only
      generalize (if remainingMs > w.srv.op.deadlineMs - w.srv.nowMs then
        w.srv.op.deadlineMs - w.srv.nowMs else remainingMs) = left
      have hshow : Moves b 2 w (World.act (Server.showPrompt id method number left) { w with env := e }) :=
        .prompt (w := { w with env := e }) le_rfl id method number _ hop.1
          (Bool.eq_false_iff.mpr hop.2) hdraw
      refine hshow.trans (moves_event hP le_rfl .pairPrompt _ _ _ ?_)
      exact .prompt (w := World.act (Server.showPrompt id method number left) { w with env := e })
        hop.1 id method number left

lemma moves_commitPeer (P : Platform E) (status : Status) (peer : Option PeerRecord) (w : World E) :
    Moves b 2 w (commitPeer P status peer w).2 := by
  unfold commitPeer
  split
  · exact .refl w
  · split
    · exact .refl w
    · split
      · exact .refl w
      · next rec _ =>
        have hsave : Moves b 2 w { w with env := (P.save { rec with autoReconnect := true } w).2 } :=
          .env le_rfl _ (.refl w)
        dsimp only
        split
        · exact hsave.trans (.step_quiet le_rfl _ (by constructor <;> simp [Server.setPeer]))
        · exact hsave

lemma prompt_commitPeer (P : Platform E) (status : Status) (peer : Option PeerRecord) (w : World E) :
    (commitPeer P status peer w).2.srv.prompt = w.srv.prompt := by
  unfold commitPeer
  split
  · rfl
  · split
    · rfl
    · split
      · rfl
      · dsimp only
        split <;> rfl

lemma moves_completePair (hP : Backend b P) (status : Status) (uncertain : Bool) (w : World E)
    (hp : w.srv.prompt.active = false) : Moves b 2 w (completePair b P status uncertain w) := by
  unfold completePair
  split
  · next hop =>
    simp only [Bool.and_eq_true] at hop
    exact moves_opComplete hP hop.1 (.plain (.inl hp)) (.refl _) _ _ _ _
  · exact .refl w

lemma moves_setLinkMessage (msg : List UInt8) (w : World E) :
    Moves b 2 w (w.act (Server.setLinkMessage msg)) :=
  .step_quiet le_rfl _ (by constructor <;> simp [Server.setLinkMessage])

lemma moves_publishPair (hP : Backend b P) (status : Status) (publishReady : Bool)
    (connectionId : UInt32) (w : World E) :
    Moves b 2 w (publishPair b P status publishReady connectionId w) := by
  unfold publishPair
  split
  · exact .ite (moves_onLink hP _ _ _ _)
      (.ite (moves_onLink hP _ _ _ _) (moves_sendDeviceState hP le_rfl _ _))
  · exact (moves_setLinkMessage _ w).trans (moves_onLink hP _ _ _ _)

lemma moves_onPairDone (hP : Backend b P) (status : Status) (peerCommitted : Bool)
    (peer : Option PeerRecord) (connectionId : UInt32) (w : World E) :
    Moves b 2 w (onPairDone b P status peerCommitted peer connectionId w) := by
  have hreport : Moves b 2 w (w.act Server.pairReported) :=
    .step_quiet le_rfl _ (by constructor <;> simp [Server.pairReported])
  unfold onPairDone
  dsimp only
  refine ((hreport.trans (moves_commitPeer P _ peer _)).trans (moves_completePair hP _ _ _ ?_)).trans
    (moves_publishPair hP _ _ _ _)
  rw [prompt_commitPeer]
  rfl

lemma moves_onForgetDone (hP : Backend b P) (status : Status) (uncertain : Bool) (w : World E) :
    Moves b 2 w (onForgetDone b P status uncertain w) := by
  have hlink : ∀ v : World E,
      Moves b 2 v (onLink b P .unbound 0 v.srv.nowMs (v.act Server.forgetPeer)) := fun v =>
    (Moves.step_quiet le_rfl _ (by constructor <;> simp [Server.forgetPeer])).trans
      (moves_onLink hP _ _ _ _)
  unfold onForgetDone
  dsimp only
  generalize (if status = .ok then P.clear w else (true, w.env)) = r
  have hclear : Moves b 2 w { w with env := r.2 } := .env le_rfl _ (.refl w)
  have hunbind : Moves b 2 { w with env := r.2 } (if (if r.1 then status else .storageFailed) = .ok then
      onLink b P .unbound 0 w.srv.nowMs (World.act Server.forgetPeer { w with env := r.2 })
        else { w with env := r.2 }) := .ite (hlink _) (.refl _)
  refine (hclear.trans hunbind).trans ?_
  generalize (if (if r.1 then status else .storageFailed) = .ok then
      onLink b P .unbound 0 w.srv.nowMs (World.act Server.forgetPeer { w with env := r.2 })
        else { w with env := r.2 }) = v
  have hdone : Moves b 2 v (if v.srv.op.active && v.srv.op.kind == some .forget then
      opComplete b P (v.act Server.endOp).srv.op.id (if r.1 then status else .storageFailed) 0 0
        (if r.1 then uncertain else true) (v.act Server.endOp) else v) := by
    split
    · next hop =>
      simp only [Bool.and_eq_true, beq_iff_eq] at hop
      have hkind : v.srv.op.kind ≠ some .pair := by
        rw [hop.2]
        nofun
      exact moves_opComplete hP hop.1 (.plain (.inr (.inl hkind))) (.refl _) _ _ _ _
    · exact .refl v
  exact hdone.trans (.ite (moves_sendDeviceState hP le_rfl _ _) (.refl _))

/-! ## Device state -/

lemma moves_onPeerChanged (peer : PeerRecord) (w : World E) : Moves b 2 w (onPeerChanged peer w) :=
  .step_quiet le_rfl _ (by constructor <;> simp [Voice.core])

lemma moves_onBattery (hP : Backend b P) (level charging : UInt8) (w : World E) :
    Moves b 2 w (onBattery b P level charging w) := by
  unfold onBattery
  split
  · exact (Moves.step_quiet le_rfl _ (by constructor <;> simp)).trans
      (moves_sendDeviceState hP le_rfl _ _)
  · exact .refl w

lemma moves_setProfile (hP : Backend b P) (profile : Option DeviceProfile) (w : World E) :
    Moves b 2 w (setProfile b P profile w) := by
  unfold setProfile
  split
  · exact .refl w
  · exact (Moves.profile le_rfl profile _ (.refl w)).trans (announce_sendDeviceState hP _ _)

lemma moves_applyVoiceState (state : VoiceState) (interaction : VoiceInteraction) (rate : UInt32)
    (w : World E) : Moves b 2 w (w.act (Server.applyVoiceState state interaction rate)) := by
  have hset : Moves b 2 w (w.act (Server.setVoiceState state interaction rate)) := by
    refine .step_quiet le_rfl _ ?_
    constructor <;> simp [Server.setVoiceState, Voice.core]
    exact fun h _ => h
  unfold Server.applyVoiceState
  dsimp only [World.act]
  split
  · next hresume =>
    simp only [Server.canResumeVoice, Bool.and_eq_true] at hresume
    exact .resumeVoice (w := w.act (Server.setVoiceState state interaction rate)) le_rfl
      hresume.2.1.1.1.1 hset
  · exact hset

lemma moves_setVoiceCaps (caps : Option AudioCaps) (w : World E) :
    Moves b 2 w (setVoiceCaps caps w) := by
  unfold setVoiceCaps
  exact .step_quiet le_rfl _ (by constructor <;> simp [Voice.core])

lemma moves_onVoiceState (hP : Backend b P) (state : VoiceState) (interaction : VoiceInteraction)
    (rate : UInt32) (w : World E) : Moves b 2 w (onVoiceState b P state interaction rate w) := by
  unfold onVoiceState
  dsimp only
  split
  · exact (moves_applyVoiceState state interaction rate w).trans (moves_sendDeviceState hP le_rfl _ _)
  · exact .refl w

lemma moves_adapterFailed (hP : Backend b P) (reason : List UInt8) (w : World E) :
    Moves b 2 w (adapterFailed b P reason w) := by
  unfold adapterFailed
  exact ((moves_setLinkMessage reason w).trans (moves_onLink hP _ _ _ _)).trans
    (moves_invoke hP le_rfl _ rfl _)

/-! ## Whole callbacks -/

lemma moves_callback (hP : Backend b P) (cb : Callback) (w : World E) : Moves b 2 w (cb.run b P w) := by
  cases cb with
  | scanCandidate cand => exact moves_onScanCandidate cand w
  | scanDone reason nowMs => exact moves_onScanDone hP reason nowMs w
  | pairPrompt method number remainingMs => exact moves_onPairPrompt hP method number remainingMs w
  | pairDone status committed peer connectionId =>
    exact moves_onPairDone hP status committed peer connectionId w
  | forgetDone status uncertain => exact moves_onForgetDone hP status uncertain w
  | link state connectionId nowMs => exact moves_onLink hP state connectionId nowMs w
  | linkMessage msg => exact moves_setLinkMessage msg w
  | peerChanged peer => exact moves_onPeerChanged peer w
  | keys rep => exact .keys (by omega) rep (.refl w)
  | voice ev nowMs => exact moves_onVoice hP ev nowMs w
  | voiceState state interaction rate => exact moves_onVoiceState hP state interaction rate w
  | battery level charging => exact moves_onBattery hP level charging w
  | profile p => exact moves_setProfile hP p w
  | voiceCaps caps => exact moves_setVoiceCaps caps w
  | adapterFailed reason => exact moves_adapterFailed hP reason w

lemma Reports.moves {H : Platform E → Prop} (hH : ∀ P, H P → Backend b P) (h : Reports b H w w') :
    Moves b 2 w w' := by
  induction h with
  | refl => exact .refl _
  | env e _ ih => exact .env le_rfl e ih
  | callback P cb hP _ ih => exact ih.trans (moves_callback (hH P hP) cb _)

/-- Callbacks of any depth are moves. -/
lemma Honest.backend {n : Nat} (h : Honest b n P) : Backend b P := by
  induction n generalizing P with
  | zero => exact fun c w => (h c w).moves fun _ hP => hP.elim
  | succ n ih => exact fun c w => (h c w).moves fun _ hP => ih hP

/-! ## Tick -/

lemma moves_protocolError (w : World E) : Moves b 2 w (w.act Server.protocolError) :=
  .step_quiet le_rfl _ (by constructor <;> simp [Server.protocolError])

lemma moves_setRx (rx : RxParser) (w : World E) : Moves b 2 w (w.act (Server.setRx rx)) :=
  .step_quiet le_rfl _ (by constructor <;> simp [Server.setRx])

lemma moves_tickRx (hP : Backend b P) (nowMs : UInt32) (w : World E) :
    Moves b 2 w (tickRx b P nowMs w) := by
  unfold tickRx
  exact (moves_setRx _ w).trans
    (.ite ((moves_protocolError _).trans (moves_sessionTeardown hP _)) (.refl _))

lemma moves_tickHeartbeat (hP : Backend b P) (nowMs : UInt32) (w : World E) :
    Moves b 2 w (tickHeartbeat b P nowMs w) := by
  unfold tickHeartbeat
  exact .ite (moves_sessionTeardown hP w) (.refl w)

lemma moves_tickFind (hP : Backend b P) (nowMs : UInt32) (w : World E) :
    Moves b 2 w (tickFind b P nowMs w) := by
  have hexpire : ∀ v : World E, Moves b 2 v (v.act Server.expireFind) := fun v =>
    .step_quiet le_rfl _ (by constructor <;> simp [Server.expireFind])
  have hdrop : ∀ v : World E, Moves b 2 v (v.act Server.dropCandidates) := fun v =>
    .step_quiet le_rfl _ (by constructor <;> simp [Server.dropCandidates])
  have hdone : Moves b 2 w (ctlEnqueue b P kindEvent EventOp.findDone.code .ok 0 0
      (findDoneTlv (invoke P .stopFind (w.act Server.expireFind)).1.srv.find.searchId
        FindDone.expired.code) (invoke P .stopFind (w.act Server.expireFind)).1) :=
    ((hexpire w).trans (moves_invoke hP le_rfl _ rfl _)).trans
      (moves_event hP le_rfl .findDone 0 _ _ (.findDone _))
  unfold tickFind
  dsimp only
  exact Moves.trans (.ite hdone (.refl w)) (.ite (hdrop _) (.refl _))

lemma moves_tickPrompt (hP : Backend b P) (nowMs : UInt32) (w : World E) :
    Moves b 2 w (tickPrompt P nowMs w) := by
  have hhide : Moves b 2 w (w.act Server.hidePrompt) :=
    .step_quiet le_rfl _ (by constructor <;> simp [Server.hidePrompt])
  unfold tickPrompt
  split
  · next hprompt =>
    simp only [Bool.and_eq_true] at hprompt
    unfold requestPairCancel
    split
    · exact hhide
    · next hc =>
      -- hiding the prompt is part of cancelling it
      have hcancel : Moves b 2 w w.cancel :=
        .cancel le_rfl (Bool.eq_false_iff.mpr hc) (.inr (.inl hprompt.1)) (.refl w)
      exact hcancel.trans (hP _ _)
  · exact .refl w

lemma moves_tickOp (hP : Backend b P) (nowMs : UInt32) (w : World E) :
    Moves b 2 w (tickOp b P nowMs w) := by
  unfold tickOp
  split
  · next hop =>
    simp only [Bool.and_eq_true] at hop
    dsimp only
    split
    · next hkind =>
      unfold requestPairCancel
      split
      · next hc => exact moves_opComplete hP hop.1 (.plain (.inr (.inr hc))) (.refl _) _ _ _ _
      · next hc =>
        exact moves_opComplete hP hop.1 (.cancel (Bool.eq_false_iff.mpr hc) hkind) (hP _ _) _ _ _ _
    · next hkind => exact moves_opComplete hP hop.1 (.plain (.inr (.inl hkind))) (.refl _) _ _ _ _
  · exact .refl w

lemma moves_tickSource (hP : Backend b P) (nowMs : UInt32) (w : World E) :
    Moves b 2 w (tickSource b P nowMs w) := by
  have hoverdue : Moves b 2 w (w.act (Server.stopOverdue nowMs)) :=
    .step_quiet le_rfl _ (by constructor <;> simp [Server.stopOverdue, Voice.core])
  have hlimit : Moves b 2 w (w.act Server.limitCapture) :=
    .step_quiet le_rfl _ (by constructor <;> simp [Server.limitCapture, Voice.core])
  have hcount : Moves b 2 w (w.act Server.countVoiceError) :=
    .step_quiet le_rfl _ (by constructor <;> simp [Server.countVoiceError])
  have hstop : ∀ v : World E, Moves b 2 v (invoke P .voiceRequestStop (v.act Server.requestStop)).1 :=
    fun v => (Moves.step_quiet le_rfl _
      (by constructor <;> simp [Server.requestStop, Voice.core])).trans
        (moves_invoke hP le_rfl _ rfl _)
  have hcut : ∀ v : World E, Moves b 2 v (voiceFinishStream b P .deviceError true v) :=
    fun v => moves_voiceFinishStream hP (by omega) fun _ => .inl rfl
  unfold tickSource
  dsimp only
  split
  · exact .refl w
  · split
    · exact ((hoverdue.trans (hcut _)).trans (moves_sendDeviceState hP le_rfl _ _)).trans
        (moves_invoke hP le_rfl _ rfl _)
    · split
      · exact hlimit.trans (hstop _)
      · split
        · split
          · exact moves_voiceFault hP (.inl rfl)
          · exact .ite ((hcount.trans (hcut _)).trans (hstop _)) (.refl w)
        · exact .refl w

end RemoteBridge
