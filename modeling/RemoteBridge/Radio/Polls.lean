import RemoteBridge.Radio.Steps

/-!
# Requests and the poll

The two places that write the bond store.  A request opens the journal of a pairing or of a deletion, or
saves the reconnect flag; the poll binds the new peer, or erases the bonds and clears the store.  With
these every entry point of the firmware is a run of `Drives`.
-/

namespace RemoteBridge

open World

variable {b : Build} {sdk : Sdk} {P : Platform Radio} {k : Nat} {w₀ w w' : World Radio}

/-! ## Reports of a deletion -/

/-- The server ticks, or hears of the end of a deletion. -/
lemma Serves.ticks (hP : Wired b sdk P) (hk : k ≤ 2) (h : Serves P k w w') : Drives b sdk 1 w w' := by
  induction h with
  | refl => exact .refl _
  | act f hf _ ih => exact .act f hf ih
  | note e _ ih => exact .note e ih
  | @draw w₁ _ ih =>
    have hsame : { w₁ with env := (P.rng w₁).2 } = w₁ := by rw [hP.rng]
    rw [hsame]
    exact ih
  | call c hc _ ih =>
    exact (Drives.note _ ih).trans ((hP.calm c _ hc).mono (Nat.zero_le 1) (Nat.zero_le 1))
  | closed hk d ho hd _ ih => exact .closed le_rfl d ho hd ih
  | beginOp => omega
  | plain => omega
  | pairBegin => omega
  | forgetPeer => omega
  | saved => omega
  | unsaved => omega

namespace Drives

/-- A callback that may end a deletion. -/
lemma serveEnd (hP : Wired b sdk P) (h : Drives b sdk k w₀ w) (hk : 1 ≤ k) (hs : Serves P 2 w w') :
    Drives b sdk k w₀ w' :=
  h.trans ((hs.ticks hP le_rfl).mono le_rfl hk)

lemma tick (hP : Wired b sdk P) (h : Drives b sdk k w₀ w) (hk : 1 ≤ k) (nowMs : UInt32) :
    Drives b sdk k w₀ (tick b P nowMs w) :=
  h.serveEnd hP hk ((Serves.refl _).tick le_rfl _)

end Drives

/-! ## Pairing -/

/-- Nothing that is recorded but an answer answers a pairing. -/
lemma Unanswered.record {n : Nat} {r : Radio} (h : Unanswered n r) (e : RadioEv)
    (he : ∀ n', e ≠ .pairDone n') : Unanswered n (r.record e) := by
  obtain ⟨hn, ho, l, m, rest, htrace, hm, hl⟩ := h
  refine ⟨hn, ho, _ :: l, m, rest, congrArg (List.cons _) htrace, hm, fun m' hm' => ?_⟩
  rcases List.mem_cons.mp hm' with rfl | hm'
  · exact he
  · exact hl m' hm'

lemma Unanswered.onBoard {n : Nat} {r : Radio} (h : Unanswered n r) (board : Board) :
    Unanswered n { r with board := board } := ⟨h.last, h.owner, h.begun⟩

lemma Unanswered.write {n : Nat} (h : Unanswered n w.env) (write : BondWrite) :
    Unanswered n (w.write sdk write).2.env := by
  have hwriting : Unanswered n (w.env.record (.writing write)) := h.record _ fun _ h => nomatch h
  unfold World.write Radio.write
  dsimp only
  split
  · split
    · exact (hwriting.onBoard _).record _ fun _ h => nomatch h
    · exact (h.onBoard _).record _ fun _ h => nomatch h
  · split
    · exact hwriting.onBoard _
    · exact h.onBoard _

lemma unanswered_countPair (ho : w.env.owner ≤ w.env.pairs) :
    Unanswered (w.env.pairs + 1) w.countPair.env :=
  ⟨rfl, Nat.lt_succ_of_le ho, [], _, _, rfl, rfl, fun _ h => nomatch h⟩

namespace Drives

/-- The checks of `rb_pair_begin` ask the SDK at most. -/
lemma pairBeginChecks (h : Drives b sdk k w₀ w) (id : UInt32) {n : Nat} (hn : Unanswered n w.env) :
    Drives b sdk k w₀ (pairBeginChecks sdk id w).2 ∧
      Unanswered n (RemoteBridge.pairBeginChecks sdk id w).2.env ∧
      (RemoteBridge.pairBeginChecks sdk id w).2.srv = w.srv ∧
      ((RemoteBridge.pairBeginChecks sdk id w).1 = .ok →
        (RemoteBridge.pairBeginChecks sdk id w).2.env.central.recovering = false) := by
  have hask := h.ask .getBondCount rfl
  have hasked : Unanswered n (RemoteBridge.ask sdk .getBondCount w).2.env :=
    hn.record _ fun _ h => nomatch h
  unfold RemoteBridge.pairBeginChecks
  dsimp only
  split
  · exact ⟨h, hn, rfl, (nomatch ·)⟩
  · split
    · exact ⟨h, hn, rfl, (nomatch ·)⟩
    · next hbusy =>
      rw [Bool.or_eq_true, not_or, Bool.not_eq_true] at hbusy
      split
      · exact ⟨h, hn, rfl, (nomatch ·)⟩
      · split
        · exact ⟨hask, hasked, rfl, (nomatch ·)⟩
        · split
          · exact ⟨hask, hasked, rfl, (nomatch ·)⟩
          · exact ⟨hask, hasked, rfl, fun _ => hbusy.1⟩

lemma refusePair (hP : Wired b sdk P) (h : Drives b sdk 2 w₀ w) {n : Nat} (hn : Unanswered n w.env)
    {status : Status} (hs : status ≠ .ok) : Drives b sdk 2 w₀ (refusePair b P n status w) :=
  (Drives.refuse rfl n hn h).serve hP ((Serves.refl _).onPairDone_failed hs _ _)

lemma beginPending (hP : Wired b sdk P) (h : Drives b sdk 2 w₀ w) {n : Nat} (hn : Unanswered n w.env)
    (ha : Attempts w .pair) (hr : (w.write sdk .pair).1 = true) (id : UInt32) :
    Drives b sdk 2 w₀ (beginPending b sdk P n id (w.write sdk .pair).2) := by
  unfold RemoteBridge.beginPending
  dsimp only
  generalize (w.write sdk .pair).2.env.central.candidates.getD (id.toNat - 1) (fun _ => 0, 0) = cand
  have hpend := Drives.pend rfl n (fun c =>
    { c with pairPending := true, securityBlocked := false, targetAddr := cand.1, targetType := cand.2 })
    ha hr hn (fun _ => ⟨rfl, rfl, rfl, rfl, rfl, rfl, rfl, rfl⟩) h
  split
  · exact .tune _ (.aim (Nat.le_succ 1) _ rfl ⟨rfl, rfl, rfl, rfl, rfl, rfl, rfl, rfl⟩) hpend
  · exact hpend.beginLink hP (Nat.le_succ 1) rfl _ _

lemma rbPairBegin (hP : Wired b sdk P) (h : Drives b sdk 2 w₀ w)
    (hv : w.srv.device.peerValid = false) (ho : w.env.owner ≤ w.env.pairs) (id : UInt32) :
    Drives b sdk 2 w₀ (rbPairBegin b sdk P id w) := by
  have hcount : Drives b sdk 2 w₀ w.countPair := .countPair rfl h
  obtain ⟨hchecks, hn, hsrv, hrec⟩ := hcount.pairBeginChecks id (unanswered_countPair ho)
  unfold RemoteBridge.rbPairBegin
  dsimp only
  generalize RemoteBridge.pairBeginChecks sdk id w.countPair = r at hchecks hn hsrv hrec ⊢
  split
  · next hs => exact hchecks.refusePair hP hn hs
  · next hs =>
    rw [not_not] at hs
    have hv' : r.2.srv.device.peerValid = false := by
      rw [hsrv]
      exact hv
    have ha : Attempts r.2 .pair := .pair hv' (hrec hs)
    split
    · next hr =>
      rw [Bool.not_eq_true'] at hr
      have hunwritten := Drives.unwritten le_rfl .pair ha hr hchecks
      exact hunwritten.refusePair hP (hn.write .pair) fun h => nomatch h
    · next hr =>
      rw [Bool.not_eq_true', Bool.not_eq_false] at hr
      exact hchecks.beginPending hP hn ha hr id

/-! ## Deletion -/

lemma rbForgetPeer (hP : Wired b sdk P) (h : Drives b sdk 2 w₀ w)
    (hv : w.srv.device.peerValid = true) (ho : w.srv.forgetting) :
    Drives b sdk 2 w₀ (rbForgetPeer b sdk P w) := by
  have ha : Attempts w .forget := .forget hv ho
  unfold RemoteBridge.rbForgetPeer
  dsimp only
  split
  · next hr =>
    rw [Bool.not_eq_true'] at hr
    have hstorage : Status.storageFailed ≠ .ok := fun h => nomatch h
    exact (Drives.unwritten le_rfl .forget ha hr h).serveEnd hP (Nat.le_succ 1)
      ((Serves.refl _).onForgetDone_failed le_rfl hstorage)
  · next hr =>
    rw [Bool.not_eq_true', Bool.not_eq_false] at hr
    exact (Drives.forget rfl ha hr h).rbDisconnect hP

end Drives

/-! ## Requests -/

variable (b sdk) in
/-- The backend of the platform is the radio, one level deeper; at the last level calls are dropped. -/
def Backed (P : Platform Radio) : Prop :=
  ∃ Q, Wired b sdk Q ∧ ∀ c w, (P.call c w).1 = w ∨ P.call c w = backendCall b sdk Q c w

lemma backed_platform (b : Build) (sdk : Sdk) (n : Nat) : Backed b sdk (platform b sdk n) := by
  cases n with
  | zero => exact ⟨_, wired_platform b sdk 0, fun _ _ => .inl rfl⟩
  | succ n => exact ⟨_, wired_platform b sdk n, fun _ _ => .inr rfl⟩

/-- What the server does for its host. -/
lemma Serves.requests (hP : Wired b sdk P) (hQ : Backed b sdk P) (ho : w.env.owner ≤ w.env.pairs)
    (h : Serves P k w w') : Drives b sdk 2 w w' := by
  obtain ⟨Q, hQw, hcall⟩ := hQ
  -- a call is dropped, or the radio serves it
  have hserve {c : BackendCall} {v : World Radio} (hv : Drives b sdk 2 w v)
      (hback : Drives b sdk 2 w (v.note (.called c v.srv)) →
        Drives b sdk 2 w (backendCall b sdk Q c (v.note (.called c v.srv))).1) :
      Drives b sdk 2 w (invoke P c v).1 := by
    unfold invoke
    rcases hcall c (v.note (.called c v.srv)) with hdrop | hback'
    · rw [hdrop]
      exact .note _ hv
    · rw [hback']
      exact hback (.note _ hv)
  induction h with
  | refl => exact .refl _
  | act f hf _ ih => exact .act f hf ih
  | note e _ ih => exact .note e ih
  | @draw w₁ _ ih =>
    have hsame : { w₁ with env := (P.rng w₁).2 } = w₁ := by rw [hP.rng]
    rw [hsame]
    exact ih
  | call c hc _ ih =>
    exact (Drives.note _ ih).trans ((hP.calm c _ hc).mono (Nat.zero_le 1) (Nat.zero_le 2))
  | closed hk d hop hd _ ih => exact .closed (Nat.le_succ 1) d hop hd ih
  | beginOp hk kind hd deadlineMs hop _ ih => exact .beginOp rfl kind hd deadlineMs hop ih
  | plain hk c hc _ ih => exact hserve ih fun h => h.backendCall_plain hQw (Nat.le_succ 1) hc
  | pairBegin hk cid hv _ ih => exact hserve ih fun h => h.rbPairBegin hQw hv (h.owner_le ho) cid
  | forgetPeer hk hv hop _ ih => exact hserve ih fun h => h.rbForgetPeer hQw hv hop
  | @saved w₁ hk enabled hv hr _ ih =>
    rw [hP.save] at hr ⊢
    exact .flag rfl enabled hv hr ih
  | @unsaved w₁ hk enabled hv hr _ ih =>
    rw [hP.save] at hr ⊢
    exact .unwritten le_rfl _ (.flag hv enabled) hr ih

lemma Drives.onUsbRx (hP : Wired b sdk P) (hQ : Backed b sdk P) (h : Drives b sdk 2 w₀ w)
    (ho : w.env.owner ≤ w.env.pairs) (data : List UInt8) (nowMs : UInt32) :
    Drives b sdk 2 w₀ (onUsbRx b P data nowMs w) :=
  h.trans (((Serves.refl (k := 3) _).onUsbRx hP.keeps le_rfl data nowMs).requests hP hQ ho)

/-! ## The end of a pairing -/

/-- The journal of a pending pairing is open, with the id that the new peer will get. -/
structure Radio.Journalled (r : Radio) : Prop where
  loaded : r.board.loaded = true
  owner : r.owner ≤ r.pairs
  pending : r.central.pairPending = true → r.board.committed.state = 3 ∧ r.board.committed.counter ≠ 0

lemma committed_stage (flags : UInt8) (w : World Radio) :
    (w.stage flags).env.board.committed = w.env.board.committed :=
  (Board.committed_boardHidFlagsStage _ _).trans (Board.committed_boardAddrStage _ _ _)

lemma loaded_stage (flags : UInt8) (w : World Radio) : (w.stage flags).env.board.loaded = true :=
  Board.loaded_loadSlots _

/-- A new peer as the radio proposes it. -/
structure PeerRecord.Fresh (peer : PeerRecord) : Prop where
  id : peer.peerId ≠ 0
  auto : peer.autoReconnect = true

lemma PeerRecord.Fresh.eta {peer : PeerRecord} (h : peer.Fresh) :
    { peer with autoReconnect := true } = peer := by
  rw [← h.auto]

/-- The server saves a new peer from inside its callback. -/
lemma onPairDone_bound (hP : Wired b sdk P) {peer : PeerRecord} (hf : peer.Fresh)
    (hr : ((w.act Server.pairReported).write sdk (.save peer)).1 = true) :
    Serves P 1 (((w.act Server.pairReported).write sdk (.save peer)).2.act (Server.setPeer peer))
      (onPairDone b P .ok true (some peer) 0 w) := by
  have hsave : (P.save { peer with autoReconnect := true } (w.act Server.pairReported)).1 = true := by
    rw [hf.eta, hP.save]
    exact hr
  have hs := Serves.onPairDone_saved (b := b) (k := 1) hf.id 0 hsave
  rw [hf.eta, hP.save] at hs
  exact hs

/-- The server cannot save the new peer. -/
lemma onPairDone_unbound (hP : Wired b sdk P) {peer : PeerRecord} (hf : peer.Fresh)
    (hr : ((w.act Server.pairReported).write sdk (.save peer)).1 = false) :
    Serves P 1 ((w.act Server.pairReported).write sdk (.save peer)).2
      (onPairDone b P .ok true (some peer) 0 w) := by
  have hsave : (P.save { peer with autoReconnect := true } (w.act Server.pairReported)).1 = false := by
    rw [hf.eta, hP.save]
    exact hr
  have hs := Serves.onPairDone_unsaved (b := b) (k := 1) hf.id 0 hsave
  rw [hf.eta, hP.save] at hs
  exact hs

namespace Drives

lemma finishPair (hP : Wired b sdk P) (h : Drives b sdk k w₀ w) (hk : 3 ≤ k)
    (hp : w.env.central.pairPending = true) (hj : w.env.Journalled) :
    Drives b sdk k w₀ (finishPair b sdk P w) := by
  have hstorage : Status.storageFailed ≠ .ok := fun h => nomatch h
  have hread := h.readIdentity
  obtain ⟨hsame, hboard⟩ := @readIdentity_same sdk w
  unfold RemoteBridge.finishPair
  rcases hr : RemoteBridge.readIdentity sdk w with ⟨found, w₁⟩
  rw [hr] at hread hsame hboard
  -- without the identity of the peer the pairing fails
  cases found with
  | false => exact hread.failPair hP hstorage
  | true =>
    dsimp only at hread hsame hboard ⊢
    have hp₁ : w₁.env.central.pairPending = true := hsame.pairPending.trans hp
    have htype : w₁.env.central.identityType ≤ 1 := by
      have htype := @identityType_readIdentity sdk w
      rw [hr] at htype
      exact htype rfl
    obtain ⟨hstate, hcounter⟩ := hj.pending hp
    rw [← hboard] at hstate hcounter
    have hz : Board.boardPeerCounter w₁.env.board ≠ 0 := by
      rw [← Board.boardPeerCounter_loadSlots]
      exact hcounter
    generalize sdk.hidFlags w₁.env = flags
    have hstaged : (w₁.binding flags).env.board.committed = w₁.env.board.committed :=
      committed_stage flags w₁
    have hloaded : (w₁.binding flags).env.board.loaded = true := loaded_stage flags w₁
    generalize hpeer : newPeer (Board.boardPeerCounter w₁.env.board) = peer
    have hfresh : peer.Fresh := by
      rw [← hpeer]
      exact ⟨hz, rfl⟩
    -- the record is saved and the peer bound, or the link is dropped unbound
    by_cases hr : ((w₁.binding flags).write sdk (.save peer)).1 = true
    · have hbind : Drives b sdk k w₀
          (((w₁.binding flags).write sdk (.save peer)).2.act (Server.setPeer peer)) :=
        .bind hk flags peer hp₁ hpeer.symm hfresh.id htype hr hread
      have hdone := onPairDone_bound (b := b) hP hfresh hr
      have hsaved : (onPairDone b P .ok true (some peer) 0
          ((w₁.stage flags).tune fun c => { c with pairPending := false }).unpend).env.storageState = 1 := by
        show Committed.state (Board.committed _) = 1
        rw [(hdone.reacts hP le_rfl).reacted.board]
        show Committed.state (Board.committed ((w₁.binding flags).write sdk (.save peer)).2.env.board) = 1
        rw [(committed_write_done hloaded hr).1]
        rfl
      rw [hsaved]
      exact (hbind.serve hP hdone).adapt hP _
    · rw [Bool.not_eq_true] at hr
      have hdone := onPairDone_unbound (b := b) hP hfresh hr
      have hunsaved : (onPairDone b P .ok true (some peer) 0
          ((w₁.stage flags).tune fun c => { c with pairPending := false }).unpend).env.storageState = 3 := by
        show Committed.state (Board.committed _) = 3
        rw [(hdone.reacts hP le_rfl).reacted.board]
        show Committed.state (Board.committed ((w₁.binding flags).write sdk (.save peer)).2.env.board) = 3
        rw [committed_write_failed hloaded hr, hstaged]
        exact hstate
      rw [hunsaved]
      exact (Drives.unbound hk flags peer hp₁ hpeer.symm htype hr (hdone.reacts hP le_rfl) hread).rbDisconnect hP

end Drives

/-! ## The poll of a link -/

lemma Radio.Journalled.of_reacted (hj : w.env.Journalled) (h : Reacted w w') : w'.env.Journalled := by
  refine ⟨?_, ?_, fun hp => ?_⟩
  · rw [h.board]
    exact hj.loaded
  · rw [h.owner, h.pairs]
    exact hj.owner
  · rw [h.board]
    exact hj.pending (h.pending hp)

namespace Drives

lemma pollOverdue (hP : Wired b sdk P) (h : Drives b sdk k w₀ w) :
    Drives b sdk k w₀ (pollOverdue b sdk P w) := by
  have htimeout : Status.timeout ≠ .ok := fun h => nomatch h
  unfold RemoteBridge.pollOverdue
  dsimp only
  split
  · split
    · exact ((h.onLinkMessage _).failPair hP htimeout).rbDisconnect hP
    · exact (h.failPair hP htimeout).rbDisconnect hP
  · exact h

lemma pollReady (h : Drives b sdk k w₀ w) : Drives b sdk k w₀ (pollReady sdk w) := by
  have hcalm : Drives b sdk k w₀ (w.tune fun c => { c with backoff := 0, earlyRetries := 0 }) :=
    h.free _ ⟨rfl, rfl, rfl, rfl, rfl, rfl, rfl, rfl⟩
  unfold RemoteBridge.pollReady
  dsimp only
  split
  · split
    · exact (hcalm.free _ ⟨rfl, rfl, rfl, rfl, rfl, rfl, rfl, rfl⟩).syncGattCache
    · exact hcalm
  · exact h

lemma pollConnected (hP : Wired b sdk P) (h : Drives b sdk k w₀ w) (hk : 3 ≤ k)
    (hj : w.env.Journalled) : Drives b sdk k w₀ (pollConnected b sdk P w) := by
  have hstart := h.startEncryptedAdapter hP
  have hreact : Drives b sdk 0 w (RemoteBridge.startEncryptedAdapter b sdk P w) :=
    (Drives.refl _).startEncryptedAdapter hP
  have hj₁ := hj.of_reacted hreact.reacted
  unfold RemoteBridge.pollConnected
  dsimp only
  generalize RemoteBridge.startEncryptedAdapter b sdk P w = w₁ at hstart hj₁ ⊢
  split
  · next hc =>
    rw [Bool.and_eq_true, Bool.and_eq_true] at hc
    exact ((hstart.finishPair hP hk hc.1.1 hj₁).pollOverdue hP).pollReady
  · exact (hstart.pollOverdue hP).pollReady

lemma pollLink (hP : Wired b sdk P) (h : Drives b sdk k w₀ w) (hk : 3 ≤ k) (hj : w.env.Journalled) :
    Drives b sdk k w₀ (pollLink b sdk P w) := by
  have htimeout : Status.timeout ≠ .ok := fun h => nomatch h
  unfold RemoteBridge.pollLink
  dsimp only
  split
  · exact h.pollConnected hP hk hj
  · split
    · exact (h.onScanDone hP _ _).rbDisconnect hP
    · exact h
  · split
    · exact (h.failPair hP htimeout).rbDisconnect hP
    · exact h
  · split
    · exact h.rbConnectPeer hP (Nat.le_of_succ_le (Nat.le_of_succ_le hk))
    · exact h
  · exact h

/-! ## The poll of a recovery -/

/-- A recovery is given up, or over. -/
lemma endRecovery (h : Drives b sdk k w₀ w) (hk : 4 ≤ k) : Drives b sdk k w₀ (w.tune Central.endRecovery) :=
  .tune _ (.endRecovery hk ⟨rfl, rfl, rfl, rfl, rfl, rfl, rfl, rfl⟩) h

lemma onForgetDone_failed (hP : Wired b sdk P) (h : Drives b sdk k w₀ w) (hk : 1 ≤ k) :
    Drives b sdk k w₀ (onForgetDone b P .storageFailed true w) := by
  have hstorage : Status.storageFailed ≠ .ok := fun h => nomatch h
  exact h.serveEnd hP hk ((Serves.refl _).onForgetDone_failed le_rfl hstorage)

lemma reportDeleteFailed (hP : Wired b sdk P) (h : Drives b sdk k w₀ w) (hk : 1 ≤ k) :
    Drives b sdk k w₀ (reportDeleteFailed b P w) := by
  unfold RemoteBridge.reportDeleteFailed
  split
  · exact h.onForgetDone_failed hP hk
  · exact h

/-- The store could not be cleared, and the recovery ends all the same. -/
lemma uncleared (h : Drives b sdk k w₀ w) (hk : 4 ≤ k) :
    Drives b sdk k w₀ (w.tune fun c => { c.endRecovery with securityBlocked := false }) := by
  have hended := h.endRecovery hk
  have hboth : Drives b sdk k w₀
      ((w.tune Central.endRecovery).tune fun c => { c with securityBlocked := false }) :=
    .tune _ (.unblock hk ⟨rfl, rfl, rfl, rfl, rfl, rfl, rfl, rfl⟩) hended
  exact hboth

lemma recoverStore (hP : Wired b sdk P) (h : Drives b sdk k w₀ w) (hk : 4 ≤ k)
    (hc : w.env.central.recovering = true) : Drives b sdk k w₀ (recoverStore b sdk P w) := by
  have hk₁ : 1 ≤ k := by omega
  have hk₂ : 2 ≤ k := by omega
  have hclear : P.clear w = w.env.write sdk .clear := hP.clear w
  have hsame : ∀ c : Central, Central.Same { c with recovering := false, securityBlocked := false }
      { c.endRecovery with securityBlocked := false } := fun _ => ⟨rfl, rfl, rfl, rfl, rfl, rfl, rfl, rfl⟩
  unfold RemoteBridge.recoverStore
  dsimp only
  by_cases hr : (w.write sdk .clear).1 = true
  · have hr' : (P.clear w).1 = true := by
      rw [hclear]
      exact hr
    split
    · -- the server clears the store from inside its callback
      have hs := Serves.onForgetDone_cleared (b := b) hP.keeps (le_refl 2) hr'
      rw [hclear] at hs
      exact .recovered hk Server.forgetPeer _ hc hr (fun _ => ⟨rfl, rfl⟩) (hs.ticks hP le_rfl) hsame h
    · have hm : Drives b sdk 1
          (onPeerChanged { peerId := 0, name := [], autoReconnect := false } (w.write sdk .clear).2)
          (RemoteBridge.reportLink b P .unbound
            (onPeerChanged { peerId := 0, name := [], autoReconnect := false } (w.write sdk .clear).2)) :=
        (Drives.refl _).reportLink hP _
      unfold onPeerChanged at hm ⊢
      refine .recovered hk _ _ hc hr ?_ hm hsame h
      exact fun _ => ⟨rfl, rfl⟩
  · rw [Bool.not_eq_true] at hr
    have hr' : (P.clear w).1 = false := by
      rw [hclear]
      exact hr
    have hunwritten := Drives.unwritten hk₂ .clear (.clear hc) hr h
    split
    · have hs := Serves.onForgetDone_uncleared (b := b) (k := 2) le_rfl hr'
      rw [hclear] at hs
      exact (hunwritten.serveEnd hP hk₁ hs).uncleared hk
    · rw [hr, if_neg Bool.false_ne_true]
      exact ((hunwritten.onLinkMessage _).reportLink hP _).uncleared hk

lemma recoverBonds (hP : Wired b sdk P) (h : Drives b sdk k w₀ w) (hk : 4 ≤ k)
    (hc : w.env.central.recovering = true) : Drives b sdk k w₀ (recoverBonds b sdk P w) := by
  unfold RemoteBridge.recoverBonds
  dsimp only
  split
  · have herase : Drives b sdk k w₀ (RemoteBridge.ask sdk .eraseAllBonds w).2 := .erase hk hc h
    split
    · exact herase
    · exact herase.free _ ⟨rfl, rfl, rfl, rfl, rfl, rfl, rfl, rfl⟩
  · have hask := h.ask .getBondCount rfl
    split
    · exact hask
    · exact hask.recoverStore hP hk hc

/-- A recovery while the radio works. -/
lemma pollRecovery (hP : Wired b sdk P) (h : Drives b sdk k w₀ w) (hk : 4 ≤ k)
    (hf : w.env.central.radioFaulted = false) (hc : w.env.central.recovering = true) :
    Drives b sdk k w₀ (pollRecovery b sdk P w) := by
  have hk₁ : 1 ≤ k := by omega
  unfold RemoteBridge.pollRecovery
  dsimp only
  rw [hf, if_neg Bool.false_ne_true]
  split
  · exact h
  · have hlimit : ∃ w₁ : World Radio, Drives b sdk k w₀ w₁ ∧ w₁.env.central.recovering = true ∧
        (if w.env.central.recoveryDeadline == 0 then
          w.tune fun c => { c with recoveryDeadline := w.env.nowMs + 5000 } else w) = w₁ := by
      split
      · refine ⟨w.tune fun c => { c with recoveryDeadline := w.env.nowMs + 5000 }, h.free _ ?_, ?_, rfl⟩
        · exact ⟨rfl, rfl, rfl, rfl, rfl, rfl, rfl, rfl⟩
        · rw [central_tune]
          exact hc
      · exact ⟨w, h, hc, rfl⟩
    obtain ⟨w₁, hw₁, hc₁, heq⟩ := hlimit
    rw [heq]
    split
    · exact (((hw₁.endRecovery hk).reportDeleteFailed hP hk₁).onLinkMessage _).reportLink hP _
    · exact hw₁.recoverBonds hP hk hc₁

end Drives

/-! ## The poll -/

lemma radioFaulted_radioFault (hP : Wired b sdk P) (why : String) (w : World Radio) :
    (radioFault b sdk P why w).env.central.radioFaulted = true := by
  unfold radioFault
  dsimp only
  split
  · next h => exact h
  · have hreact := ((((@Drives.refl b sdk 0
      ((w.tune fun c => { c with nextLink := .none }).tune fun c =>
        { c with radioFaulted := true })).syncGattCache.adapt hP .detach).onLinkMessage
          (ascii why)).reportLink hP .error).reacted
    exact hreact.radioFaulted

/-- What a poll is: nothing but an event, the end of a recovery on a radio that has failed, a recovery, or
the poll of a link. -/
inductive Polled (b : Build) (sdk : Sdk) (w w' : World Radio) : Prop
  | event (h : Drives b sdk 1 w w')
  | failed (w₁ : World Radio) (h : Drives b sdk 1 w w₁) (hf : w₁.env.central.radioFaulted = true)
      (hc : w₁.env.central.recovering = true) (h' : Drives b sdk 1 (w₁.tune Central.endRecovery) w')
  | recovery (hc : w.env.central.recovering = true) (h : Drives b sdk 4 w w')
  | link (h : Drives b sdk 3 w w')

lemma pollRecovery_faulted (hf : w.env.central.radioFaulted = true) :
    pollRecovery b sdk P w = reportDeleteFailed b P (w.tune Central.endRecovery) := by
  unfold pollRecovery
  rw [if_pos hf]

lemma polled_poll (hP : Wired b sdk P) (hj : w.env.Journalled) : Polled b sdk w (poll b sdk P w) := by
  have htimeout : Status.timeout ≠ .ok := fun h => nomatch h
  unfold poll
  dsimp only
  split
  · split
    · exact .event ((Drives.refl _).radioFault hP le_rfl _)
    · exact .event (.refl _)
  · unfold pollTerminal
    dsimp only
    split
    · -- a terminal event is overdue: the radio has failed, and a pairing with it
      have hdrive := ((@Drives.refl b sdk 1 w).radioFault hP le_rfl
        "radio cancellation completion timed out").failPair hP htimeout
      have hfault : (failPair b sdk P .timeout (radioFault b sdk P
          "radio cancellation completion timed out" w)).env.central.radioFaulted = true :=
        (((Drives.refl _).failPair hP htimeout).reacted.radioFaulted).trans
          (radioFaulted_radioFault hP _ w)
      generalize failPair b sdk P .timeout (radioFault b sdk P
          "radio cancellation completion timed out" w) = w₁ at hdrive hfault ⊢
      split
      · next hc =>
        rw [pollRecovery_faulted hfault]
        exact .failed w₁ hdrive hfault hc ((Drives.refl _).reportDeleteFailed hP le_rfl)
      · exact .event hdrive
    · split
      · next hc =>
        by_cases hfault : w.env.central.radioFaulted = true
        · rw [pollRecovery_faulted hfault]
          exact .failed w (.refl _) hfault hc ((Drives.refl _).reportDeleteFailed hP le_rfl)
        · rw [Bool.not_eq_true] at hfault
          exact .recovery hc ((Drives.refl _).pollRecovery hP le_rfl hfault hc)
      · split
        · exact .event (.refl _)
        · exact .link ((Drives.refl _).pollLink hP le_rfl hj)

/-! ## Initialisation -/

namespace Drives

lemma configure (hP : Wired b sdk P) (h : Drives b sdk k w₀ w) (hk : 1 ≤ k) (why : String)
    {call : SdkCall} (hc : (RadioEv.asked call).plain = true) :
    Drives b sdk k w₀ (configure b sdk P why w call) := by
  have hask := h.ask call hc
  unfold RemoteBridge.configure
  dsimp only
  split
  · exact hask.radioFault hP hk _
  · exact hask

lemma configures (hP : Wired b sdk P) (hk : 1 ≤ k) (why : String) (calls : List SdkCall)
    (hc : ∀ c ∈ calls, (RadioEv.asked c).plain = true) (h : Drives b sdk k w₀ w) :
    Drives b sdk k w₀ (calls.foldl (RemoteBridge.configure b sdk P why) w) := by
  induction calls generalizing w with
  | nil => exact h
  | cons call calls ih =>
    exact ih (fun c hm => hc c (List.mem_cons_of_mem _ hm)) (h.configure hP hk why (hc _ (List.mem_cons_self ..)))

end Drives

end RemoteBridge
