import RemoteBridge.Radio.Drives

/-!
# Reactions

What can happen inside a callback.  The server reacts to a callback with calls that take something back,
the backend serves them with callbacks again, and so on to any depth; `wired_platform` closes this circle
by induction on the depth.  The result is a run of level 0, and `Drives.reacted` says what that leaves as
it was: the bond store, the peer of the server, the owner of the link, and both blocking flags.
-/

namespace RemoteBridge

open World

variable {b : Build} {sdk : Sdk} {k : Nat} {w₀ w w' w'' : World Radio}

/-! ## What a reaction leaves alone -/

/-- What a reaction can have done. -/
structure Reacted (w w' : World Radio) : Prop where
  board : w'.env.board = w.env.board
  bond : BondKept w.srv w'.srv
  connHandle : w'.env.central.connHandle = w.env.central.connHandle
  radioFaulted : w'.env.central.radioFaulted = w.env.central.radioFaulted
  securityBlocked : w'.env.central.securityBlocked = w.env.central.securityBlocked
  wcState : w'.env.central.wcState = w.env.central.wcState ∨
    Demotes w.env.central.wcState w'.env.central.wcState
  pairs : w'.env.pairs = w.env.pairs
  owner : w'.env.owner = w.env.owner
  pending : w'.env.central.pairPending = true → w.env.central.pairPending = true
  idle : w.env.central.pairPending = false →
    w'.env.central.recovering = w.env.central.recovering ∧
      w'.env.central.deleteReport = w.env.central.deleteReport

namespace Reacted

lemma refl (w : World Radio) : Reacted w w :=
  ⟨rfl, .refl _, rfl, rfl, rfl, .inl rfl, rfl, rfl, id, fun _ => ⟨rfl, rfl⟩⟩

lemma not_demotes_twice {s₁ s₂ s₃ : WcState} (h₁ : Demotes s₁ s₂) (h₂ : Demotes s₂ s₃) : False := by
  cases h₁ <;> cases h₂

lemma trans (h₁ : Reacted w w') (h₂ : Reacted w' w'') : Reacted w w'' := by
  refine ⟨h₂.board.trans h₁.board, h₁.bond.trans h₂.bond, h₂.connHandle.trans h₁.connHandle,
    h₂.radioFaulted.trans h₁.radioFaulted, h₂.securityBlocked.trans h₁.securityBlocked, ?_,
    h₂.pairs.trans h₁.pairs, h₂.owner.trans h₁.owner, fun h => h₁.pending (h₂.pending h), fun h => ?_⟩
  · rcases h₁.wcState with e₁ | d₁
    · rw [← e₁]
      exact h₂.wcState
    · rcases h₂.wcState with e₂ | d₂
      · rw [e₂]
        exact .inr d₁
      · exact (not_demotes_twice d₁ d₂).elim
  · have hp : w'.env.central.pairPending = false := Bool.eq_false_iff.mpr fun hp =>
      Bool.eq_false_iff.mp h (h₁.pending hp)
    exact ⟨(h₂.idle hp).1.trans (h₁.idle h).1, (h₂.idle hp).2.trans (h₁.idle h).2⟩

/-- A change of the statics that a reaction can make. -/
lemma shifts {f : Central → Central} (hs : Shifts 0 w.env.central (f w.env.central)) :
    Reacted w (w.tune f) := by
  cases hs with
  | free h =>
    exact ⟨rfl, .refl _, h.connHandle, h.radioFaulted, h.securityBlocked, .inl h.wcState, rfl, rfl,
      fun hp => h.pairPending ▸ hp, fun _ => ⟨h.recovering, h.deleteReport⟩⟩
  | drop h =>
    exact ⟨rfl, .refl _, h.connHandle, h.radioFaulted, h.securityBlocked, .inl h.wcState, rfl, rfl,
      fun hp => h.pairPending ▸ hp, fun _ => ⟨h.recovering, h.deleteReport⟩⟩
  | demote state hd hn h =>
    refine ⟨rfl, .refl _, h.connHandle, h.radioFaulted, h.securityBlocked, .inr ?_, rfl, rfl,
      fun hp => h.pairPending ▸ hp, fun _ => ⟨h.recovering, h.deleteReport⟩⟩
    rw [central_tune, h.wcState]
    exact hd
  | fault hk => omega
  | block hk => omega
  | linkUp hk => omega
  | linkDown hk => omega
  | rest hk => omega
  | connect hk => omega
  | scan hk => omega
  | resolve hk => omega
  | aim hk => omega
  | endRecovery hk => omega
  | unblock hk => omega

end Reacted

/-- A run of level 0 is a reaction. -/
lemma Drives.reacted (h : Drives b sdk 0 w w') : Reacted w w' := by
  generalize hk : 0 = k at h
  induction h with
  | refl => exact .refl _
  | act f hf _ ih =>
    exact (ih hk).trans ⟨rfl, hf, rfl, rfl, rfl, .inl rfl, rfl, rfl, id, fun _ => ⟨rfl, rfl⟩⟩
  | note e _ ih =>
    exact (ih hk).trans ⟨rfl, .refl _, rfl, rfl, rfl, .inl rfl, rfl, rfl, id, fun _ => ⟨rfl, rfl⟩⟩
  | record e he _ ih =>
    exact (ih hk).trans ⟨rfl, .refl _, rfl, rfl, rfl, .inl rfl, rfl, rfl, id, fun _ => ⟨rfl, rfl⟩⟩
  | tune f hs _ ih =>
    subst hk
    exact (ih rfl).trans (.shifts hs)
  | fail hp _ ih =>
    refine (ih hk).trans ⟨rfl, .refl _, rfl, rfl, rfl, .inl rfl, rfl, rfl, fun _ => hp, fun hn => ?_⟩
    rw [hp] at hn
    cases hn
  | closed hk' => omega
  | discover hk' => omega
  | establish hk' => omega
  | beginOp hk' => omega
  | countPair hk' => omega
  | refuse hk' => omega
  | unwritten hk' => omega
  | pend hk' => omega
  | forget hk' => omega
  | flag hk' => omega
  | bind hk' => omega
  | unbound hk' => omega
  | erase hk' => omega
  | recovered hk' => omega

/-! ## Callbacks -/

variable (b sdk) in
/-- What the functions of the radio rely on in the platform that their callbacks run on. -/
structure Wired (P : Platform Radio) : Prop where
  calm : ∀ c w, c.calm = true → Drives b sdk 0 w (P.call c w).1
  /-- A search is stopped only while the radio scans. -/
  unfound : ∀ w, w.env.central.wcState ≠ .scan → (P.call .stopFind w).1 = w
  save : ∀ peer w, P.save peer w = w.env.write sdk (.save peer)
  clear : ∀ w, P.clear w = w.env.write sdk .clear
  rng : ∀ w, (P.rng w).2 = w.env

variable {P : Platform Radio}

lemma Wired.keeps (hP : Wired b sdk P) : Serves.Keeps P := fun c w hc => (hP.calm c w hc).reacted.bond

/-- The server reacts. -/
lemma Serves.reacts (hP : Wired b sdk P) (hk : k ≤ 1) (h : Serves P k w w') : Drives b sdk 0 w w' := by
  induction h with
  | refl => exact .refl _
  | act f hf _ ih => exact .act f hf ih
  | note e _ ih => exact .note e ih
  | @draw w₁ _ ih =>
    have hsame : { w₁ with env := (P.rng w₁).2 } = w₁ := by rw [hP.rng]
    rw [hsame]
    exact ih
  | call c hc _ ih => exact (Drives.note _ ih).trans (hP.calm c _ hc)
  | closed => omega
  | beginOp => omega
  | plain => omega
  | pairBegin => omega
  | forgetPeer => omega
  | saved => omega
  | unsaved => omega

namespace Drives

/-- A callback that only makes the server react. -/
lemma serve (hP : Wired b sdk P) (h : Drives b sdk k w₀ w) (hs : Serves P 1 w w') :
    Drives b sdk k w₀ w' :=
  h.trans ((hs.reacts hP le_rfl).mono (Nat.zero_le 1) (Nat.zero_le k))

lemma free (h : Drives b sdk k w₀ w) (f : Central → Central) (hf : w.env.central.Same (f w.env.central)) :
    Drives b sdk k w₀ (w.tune f) :=
  .tune f (.free hf) h

lemma onLinkMessage (h : Drives b sdk k w₀ w) (msg : List UInt8) :
    Drives b sdk k w₀ (onLinkMessage msg w) :=
  .act _ (.of rfl rfl rfl rfl) h

lemma reportLink (hP : Wired b sdk P) (h : Drives b sdk k w₀ w) (state : LinkState) :
    Drives b sdk k w₀ (reportLink b P state w) :=
  h.serve hP ((Serves.refl _).onLink _ _ _)

lemma ask (h : Drives b sdk k w₀ w) (call : SdkCall) (hc : (RadioEv.asked call).plain = true) :
    Drives b sdk k w₀ (ask sdk call w).2 :=
  .record _ hc h

lemma adapterReport (hP : Wired b sdk P) (h : Drives b sdk k w₀ w) (r : AdapterReport) :
    Drives b sdk k w₀ (r.run b P w) := by
  refine h.serve hP ?_
  cases r with
  | ready nowMs => exact (Serves.refl _).onLink _ _ _
  | keys rep => exact (Serves.refl _).onKeys _
  | voice ev nowMs => exact (Serves.refl _).onVoice _ _
  | voiceState state interaction rate => exact (Serves.refl _).onVoiceState _ _ _
  | battery level charging => exact (Serves.refl _).onBattery _ _
  | profile p => exact (Serves.refl _).setProfile _
  | voiceCaps caps => exact (Serves.refl _).setVoiceCaps _
  | failed reason => exact (Serves.refl _).adapterFailed _

lemma adapt (hP : Wired b sdk P) (h : Drives b sdk k w₀ w) (call : AdapterCall) :
    Drives b sdk k w₀ (adapt b sdk P call w) := by
  have hall (rs : List AdapterReport) {v : World Radio} (hv : Drives b sdk k w₀ v) :
      Drives b sdk k w₀ (rs.foldl (fun w r => r.run b P w) v) := by
    induction rs generalizing v with
    | nil => exact hv
    | cons r rs ih => exact ih (hv.adapterReport hP r)
  exact hall _ (.record _ rfl h)

lemma syncGattCache (h : Drives b sdk k w₀ w) : Drives b sdk k w₀ (syncGattCache sdk w) := by
  unfold RemoteBridge.syncGattCache
  split
  · exact h.onLinkMessage _
  · exact h

lemma reportRejected (h : Drives b sdk k w₀ w) (status : UInt8) (msg : String) :
    Drives b sdk k w₀ (reportRejected status msg w) := by
  unfold RemoteBridge.reportRejected
  split
  · exact h.onLinkMessage _
  · exact h

/-! ## Giving up -/

lemma stopScan (h : Drives b sdk k w₀ w)
    (hs : (w.env.central.wcState = .scan ∧ w.env.central.nextLink = .none) ∨
      w.env.central.wcState = .resolve) :
    Drives b sdk k w₀ (stopScan sdk w) := by
  have hd : Demotes w.env.central.wcState .scanStopping := by
    rcases hs with hs | hs
    · rw [hs.1]
      exact .scan
    · rw [hs]
      exact .resolve
  have hn : w.env.central.wcState = .scan → w.env.central.nextLink = .none := by
    intro hscan
    rcases hs with hs | hs
    · exact hs.2
    · rw [hscan] at hs
      cases hs
  have hdown : Drives b sdk k w₀ (setState .scanStopping cancelTimeoutMs w) :=
    .tune _ (.demote _ hd hn ⟨rfl, rfl, rfl, rfl, rfl, rfl, rfl, rfl⟩) h
  unfold RemoteBridge.stopScan
  split
  · exact h
  · exact (hdown.ask _ rfl).reportRejected _ _

/-- The state that a link is left in. -/
lemma demoted_connected {s : WcState} (h : s = .connected ∨ Demotes .connected s) :
    s = .connected ∨ s = .disconnecting := by
  rcases h with h | h
  · exact .inl h
  · cases h
    exact .inr rfl

lemma rbDisconnect (hP : Wired b sdk P) (h : Drives b sdk k w₀ w) :
    Drives b sdk k w₀ (rbDisconnect b sdk P w) := by
  have hdrop : Drives b sdk k w₀
      (w.tune fun c => { c with nextLink := .none, passkeyPending := false }) :=
    .tune _ (.drop ⟨rfl, rfl, rfl, rfl, rfl, rfl, rfl, rfl⟩) h
  unfold RemoteBridge.rbDisconnect
  dsimp only
  have hn : (w.tune fun c =>
      { c with nextLink := .none, passkeyPending := false }).env.central.nextLink = .none := rfl
  generalize (w.tune fun c => { c with nextLink := .none, passkeyPending := false }) = w₁ at hdrop hn ⊢
  split
  · next hs => exact hdrop.stopScan (.inl ⟨hs, hn⟩)
  · next hs => exact hdrop.stopScan (.inr hs)
  · next hs =>
    have hd : Demotes w₁.env.central.wcState .connectCancel := by
      rw [hs]
      exact .connecting
    have hcancel : Drives b sdk k w₀ (setState .connectCancel cancelTimeoutMs w₁) :=
      .tune _ (.demote _ hd (fun _ => hn) ⟨rfl, rfl, rfl, rfl, rfl, rfl, rfl, rfl⟩) hdrop
    exact (hcancel.ask _ rfl).reportRejected _ _
  · next hs =>
    -- the adapter may fail while it is detached, and the link be given up from inside
    have hreact : Drives b sdk 0 w₁
        (RemoteBridge.adapt b sdk P .detach (RemoteBridge.syncGattCache sdk w₁)) :=
      ((Drives.refl _).syncGattCache).adapt hP _
    have hdetach : Drives b sdk k w₀
        (RemoteBridge.adapt b sdk P .detach (RemoteBridge.syncGattCache sdk w₁)) :=
      hdrop.syncGattCache.adapt hP _
    have hstate := demoted_connected (hs ▸ hreact.reacted.wcState)
    generalize RemoteBridge.adapt b sdk P .detach (RemoteBridge.syncGattCache sdk w₁) = w₂
      at hdetach hstate ⊢
    have hdown : Drives b sdk k w₀ (setState .disconnecting cancelTimeoutMs w₂) := by
      rcases hstate with hs' | hs'
      · have hd : Demotes w₂.env.central.wcState .disconnecting := by
          rw [hs']
          exact .connected
        have hscan : w₂.env.central.wcState = .scan → w₂.env.central.nextLink = .none := by
          rw [hs']
          exact fun h => nomatch h
        exact .tune _ (.demote _ hd hscan ⟨rfl, rfl, rfl, rfl, rfl, rfl, rfl, rfl⟩) hdetach
      · exact hdetach.free _ ⟨rfl, hs'.symm, rfl, rfl, rfl, rfl, rfl, rfl⟩
    exact (hdown.ask _ rfl).reportRejected _ _
  · exact hdrop

lemma failPair (hP : Wired b sdk P) (h : Drives b sdk k w₀ w) {status : Status} (hs : status ≠ .ok) :
    Drives b sdk k w₀ (failPair b sdk P status w) := by
  unfold RemoteBridge.failPair
  split
  · exact h
  · next hp =>
    have hpending : w.env.central.pairPending = true := by simpa using hp
    exact ((Drives.fail hpending h).serve hP ((Serves.refl _).onPairDone_failed hs _ _)).rbDisconnect hP

lemma failPairSdk (hP : Wired b sdk P) (h : Drives b sdk k w₀ w) (phase : String) (code : UInt8) :
    Drives b sdk k w₀ (failPairSdk b sdk P phase code w) := by
  unfold RemoteBridge.failPairSdk
  split
  · exact h
  · exact ((h.failPair hP (by decide)).onLinkMessage _).reportLink hP _

lemma rbStopFind (h : Drives b sdk k w₀ w) : Drives b sdk k w₀ (rbStopFind sdk w) := by
  unfold RemoteBridge.rbStopFind
  split
  · next hs =>
    have hdrop : Drives b sdk k w₀ (w.tune fun c => { c with nextLink := .none }) :=
      .tune _ (.drop ⟨rfl, rfl, rfl, rfl, rfl, rfl, rfl, rfl⟩) h
    exact hdrop.stopScan (.inl ⟨hs, rfl⟩)
  · exact h

/-- The backend serves a call that takes something back. -/
lemma backendCall_calm (hP : Wired b sdk P) (h : Drives b sdk k w₀ w) {c : BackendCall}
    (hc : c.calm = true) : Drives b sdk k w₀ (backendCall b sdk P c w).1 := by
  cases c with
  | stopFind => exact h.rbStopFind
  | pairCancel => exact h.failPair hP (by decide)
  | disconnect => exact h.rbDisconnect hP
  | voiceRequestStop => exact h.adapt hP _
  | startFind => cases hc
  | pairBegin => cases hc
  | pairReply => cases hc
  | forgetPeer => cases hc
  | connectPeer => cases hc
  | voiceRequestStart => cases hc

end Drives

/-! ## Every depth -/

lemma wired_platform (b : Build) (sdk : Sdk) (n : Nat) : Wired b sdk (platform b sdk n) := by
  induction n with
  | zero =>
    exact ⟨fun _ _ _ => .refl _, fun _ _ => rfl, fun _ _ => rfl, fun _ => rfl, fun _ => rfl⟩
  | succ n ih =>
    refine ⟨fun c w hc => (Drives.refl w).backendCall_calm ih hc, fun w hs => ?_,
      ih.save, ih.clear, ih.rng⟩
    show rbStopFind sdk w = w
    unfold rbStopFind
    rw [if_neg hs]

end RemoteBridge
