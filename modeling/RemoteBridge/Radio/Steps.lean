import RemoteBridge.Radio.Reactions

/-!
# Every function is a run

One lemma for each function of `wch_central.c` that is more than a reaction: what it does is a run of
`Drives`, at level 1 for the SDK events, level 2 for the requests and levels 3 and 4 for the poll.

`begin_link` is the place where the order of the code matters.  It sets `WC_CONNECTING`, reports
`CONNECTING` to the server, and only then asks the SDK to connect.  `reportLink_connecting` says that the
report comes back with the radio as it was, unless the server had a reason to take something back.
-/

namespace RemoteBridge

open World

variable {b : Build} {sdk : Sdk} {P : Platform Radio} {k : Nat} {w₀ w w' : World Radio}

/-! ## The report of a connecting link -/

/-- Without a pairing or a voice source to take back, a publication that finds no room only ends the
session. -/
lemma sendDeviceState_env (hP : Wired b sdk P) (hs : w.env.central.wcState ≠ .scan)
    (hq : (!w.srv.ctlFits b w.srv.deviceInfoTlv.length &&
      ((w.srv.pairToCancel && !w.srv.prompt.cancelRequested) || w.srv.sourceToStop)) = false)
    (connCtx : UInt32) : (sendDeviceState b P connCtx w).env = w.env := by
  have hfind (w₁ : World Radio) (h₁ : w₁.env = w.env) : (invoke P .stopFind w₁).1.env = w.env := by
    show (P.call .stopFind _).1.env = w.env
    rw [hP.unfound]
    · exact h₁
    · show w₁.env.central.wcState ≠ .scan
      rw [h₁]
      exact hs
  unfold sendDeviceState ctlEnqueue
  split
  · next hfit =>
    rw [hfit, Bool.true_and, Bool.or_eq_false_iff] at hq
    have hcancel : (if (w.act Server.protocolError).srv.pairToCancel then
        requestPairCancel P ((w.act Server.protocolError).withdraw b)
        else (w.act Server.protocolError).withdraw b).env = w.env := by
      split
      · next hp =>
        have hp' : w.srv.pairToCancel = true := hp
        have hreq : ((w.act Server.protocolError).withdraw b).srv.prompt.cancelRequested = true := by
          show (w.srv.protocolError.withdraw b).prompt.cancelRequested = true
          rw [prompt_withdraw]
          show w.srv.prompt.cancelRequested = true
          simpa [hp'] using hq.1
        unfold requestPairCancel
        rw [if_pos hreq]
        rfl
      · rfl
    have hsource : (w.act Server.protocolError).srv.sourceToStop = false := hq.2
    unfold sessionTeardown
    simp only [hsource, Bool.false_eq_true, if_false]
    split
    · exact hfind _ hcancel
    · exact hcancel
  · rfl

/-- A link state is entered that leaves none behind: the rest is the publication. -/
lemma enterLink_eq {old : LinkState} (ho : old ≠ .ready) (state : LinkState) (ctxId : UInt32)
    (w : World Radio) :
    ∃ w' : World Radio, enterLink b P old state ctxId w = sendDeviceState b P ctxId w' ∧
      w'.env = w.env ∧
      w'.srv = if state.down then (w.srv.setLink state).linkDown else w.srv.setLink state := by
  have hleft : ¬ (old = .ready ∧ state ≠ .ready) := fun h => ho h.1
  unfold enterLink
  dsimp only
  rw [if_neg hleft]
  by_cases hd : state.down = true
  · rw [if_pos hd, if_pos hd]
    exact ⟨_, rfl, rfl, rfl⟩
  · rw [if_neg hd, if_neg hd]
    exact ⟨_, rfl, rfl, rfl⟩

/-- A connection that is new gets its id, without a trace in the radio. -/
lemma connectIfNew_eq (state : LinkState) (hu : state.up = true) (w : World Radio) :
    (connectIfNew state 0 w).2.env = w.env ∧
      (connectIfNew state 0 w).2.srv =
        (if w.srv.device.connectionId == 0 then w.srv.connect 0 else w.srv) ∧
      (connectIfNew state 0 w).1 =
        if w.srv.device.connectionId == 0 && (w.srv.device.freshConnection 0).1 == 0 then .error
        else state := by
  unfold connectIfNew
  rw [hu, Bool.and_true]
  by_cases hc : (w.srv.device.connectionId == 0) = true
  · rw [if_pos hc, if_pos hc, hc, Bool.true_and]
    exact ⟨rfl, rfl, rfl⟩
  · rw [if_neg hc, if_neg hc, Bool.eq_false_iff.mpr hc, Bool.false_and]
    exact ⟨rfl, rfl, rfl⟩

/-- The report comes back with the radio as it was. -/
lemma reportLink_connecting (hP : Wired b sdk P) (hs : w.env.central.wcState ≠ .scan)
    (hi : (w.srv.setNow w.env.nowMs).interrupts b = false) :
    (reportLink b P .connecting w).env = w.env := by
  unfold Server.interrupts at hi
  rw [Bool.or_eq_false_iff, decide_eq_false_iff_not] at hi
  obtain ⟨hready, hquiet⟩ := hi
  unfold reportLink onLink
  have hwaits : (w.act (Server.setNow w.env.nowMs)).srv.readyWaits .connecting = false := rfl
  dsimp only
  rw [hwaits, if_neg Bool.false_ne_true]
  obtain ⟨henv, hsrv, hstate⟩ := connectIfNew_eq .connecting rfl
    ((w.act (Server.setNow w.env.nowMs)).act (Server.notePairReady .connecting))
  rcases hc : connectIfNew .connecting 0
    ((w.act (Server.setNow w.env.nowMs)).act (Server.notePairReady .connecting)) with ⟨state, w₂⟩
  rw [hc] at henv hsrv hstate
  dsimp only at henv hsrv hstate ⊢
  have hready' : ((w.act (Server.setNow w.env.nowMs)).act
      (Server.notePairReady .connecting)).srv.device.linkState ≠ .ready := hready
  obtain ⟨w₃, heq, henv₃, hsrv₃⟩ := enterLink_eq (b := b) (P := P) hready' state
    ((w.act (Server.setNow w.env.nowMs)).act
      (Server.notePairReady .connecting)).srv.device.connectionId w₂
  have hreport : w₃.srv = (w.srv.setNow w.env.nowMs).linkReport := by
    rw [hsrv₃, hsrv, hstate]
    rfl
  rw [heq, sendDeviceState_env hP _ _ _, henv₃, henv]
  · rfl
  · rw [henv₃, henv]
    exact hs
  · rw [hreport]
    exact hquiet

namespace Drives

/-! ## Faults and retries -/

lemma radioFault (hP : Wired b sdk P) (h : Drives b sdk k w₀ w) (hk : 1 ≤ k) (why : String) :
    Drives b sdk k w₀ (radioFault b sdk P why w) := by
  have hdrop : Drives b sdk k w₀ (w.tune fun c => { c with nextLink := .none }) :=
    .tune _ (.drop ⟨rfl, rfl, rfl, rfl, rfl, rfl, rfl, rfl⟩) h
  unfold RemoteBridge.radioFault
  dsimp only
  generalize (w.tune fun c => { c with nextLink := .none }) = w₁ at hdrop ⊢
  split
  · exact hdrop
  · have hfault : Drives b sdk k w₀ (w₁.tune fun c => { c with radioFaulted := true }) :=
      .tune _ (.fault hk ⟨rfl, rfl, rfl, rfl, rfl, rfl, rfl, rfl⟩) hdrop
    exact ((hfault.syncGattCache.adapt hP _).onLinkMessage _).reportLink hP _

lemma disconnectedRetry (hP : Wired b sdk P) (h : Drives b sdk k w₀ w) (early : Bool) :
    Drives b sdk k w₀ (disconnectedRetry b P early w) := by
  have hreport := h.reportLink hP w.env.restState
  unfold RemoteBridge.disconnectedRetry
  dsimp only
  generalize RemoteBridge.reportLink b P w.env.restState w = w₁ at hreport ⊢
  split
  · exact hreport.free _ ⟨rfl, rfl, rfl, rfl, rfl, rfl, rfl, rfl⟩
  · exact hreport.free _ ⟨rfl, rfl, rfl, rfl, rfl, rfl, rfl, rfl⟩

/-- The radio comes to rest without a link. -/
lemma rest (h : Drives b sdk k w₀ w) (hk : 1 ≤ k) (hs : w.env.central.wcState.linked = false)
    (timeout : UInt32) : Drives b sdk k w₀ (setState .idle timeout w) :=
  .tune _ (.rest hk hs ⟨rfl, rfl, rfl, rfl, rfl, rfl, rfl, rfl⟩) h

/-! ## Connecting -/

lemma linkRejected (hP : Wired b sdk P) (h : Drives b sdk k w₀ w) (hk : 1 ≤ k)
    (hs : w.env.central.wcState.linked = false) (status : UInt8) :
    Drives b sdk k w₀ (linkRejected b sdk P status w) := by
  have hidle := h.rest hk hs 0
  unfold RemoteBridge.linkRejected
  dsimp only
  generalize setState .idle 0 w = w₁ at hidle ⊢
  have hreport : Drives b sdk k w₀ (if w₁.env.central.pairPending then
      RemoteBridge.failPairSdk b sdk P "connection request failed" status w₁
      else RemoteBridge.reportLink b P .disconnected w₁) := by
    split
    · exact hidle.failPairSdk hP _ _
    · exact hidle.reportLink hP _
  exact hreport.free _ ⟨rfl, rfl, rfl, rfl, rfl, rfl, rfl, rfl⟩

/-- What a reaction leaves of a link that is being connected is no link. -/
lemma unlinked_of_demotes {s : WcState} (h : s = .connecting ∨ Demotes .connecting s) :
    s.linked = false := by
  rcases h with rfl | h
  · rfl
  · cases h
    rfl

lemma establishLink (hP : Wired b sdk P) (h : Drives b sdk k w₀ w) (hk : 1 ≤ k)
    (hs : w.env.central.wcState = .connecting) (hf : w.env.central.Free)
    (hb : w.env.central.securityBlocked = false) (addr : BdAddr) (type : UInt8) :
    Drives b sdk k w₀ (RemoteBridge.establish b sdk P addr type w) := by
  have hlinking : Drives b sdk k w₀ (w.record (.linking (w.srv.setNow w.env.nowMs))) := .record _ rfl h
  have hreport := hlinking.reportLink hP .connecting
  have hreact : Drives b sdk 0 (w.record (.linking (w.srv.setNow w.env.nowMs)))
      (RemoteBridge.reportLink b P .connecting (w.record (.linking (w.srv.setNow w.env.nowMs)))) :=
    (Drives.refl _).reportLink hP _
  have hunlinked : (RemoteBridge.reportLink b P .connecting
      (w.record (.linking (w.srv.setNow w.env.nowMs)))).env.central.wcState.linked = false := by
    refine unlinked_of_demotes ?_
    have hstate := hreact.reacted.wcState
    rw [central_record, hs] at hstate
    exact hstate
  -- either the report left the radio alone, or the trace shows that it could be interrupted
  have hfree : ((RemoteBridge.reportLink b P .connecting
        (w.record (.linking (w.srv.setNow w.env.nowMs)))).env.central.Free ∧
      (RemoteBridge.reportLink b P .connecting
        (w.record (.linking (w.srv.setNow w.env.nowMs)))).env.central.securityBlocked = false) ∨
      Interrupted b (RemoteBridge.reportLink b P .connecting
        (w.record (.linking (w.srv.setNow w.env.nowMs)))).env.trace := by
    by_cases hi : (w.srv.setNow w.env.nowMs).interrupts b = true
    · exact .inr ⟨_, hreact.trace.subset (List.mem_cons_self ..), _, rfl, hi⟩
    · have hscan : (w.record (.linking (w.srv.setNow w.env.nowMs))).env.central.wcState ≠ .scan := by
        rw [central_record, hs]
        exact fun h => nomatch h
      rw [reportLink_connecting hP hscan (Bool.eq_false_iff.mpr hi)]
      exact .inl ⟨hf, hb⟩
  unfold RemoteBridge.establish
  dsimp only
  generalize RemoteBridge.reportLink b P .connecting
    (w.record (.linking (w.srv.setNow w.env.nowMs))) = w₁ at hreport hunlinked hfree ⊢
  have hask : Drives b sdk k w₀ (RemoteBridge.ask sdk (.establishLink type addr) w₁).2 :=
    .establish hk type addr hfree hreport
  split
  · exact hask.linkRejected hP hk hunlinked _
  · exact hask

lemma beginLink (hP : Wired b sdk P) (h : Drives b sdk k w₀ w) (hk : 1 ≤ k)
    (hb : w.env.central.securityBlocked = false) (addr : BdAddr) (type : UInt8) :
    Drives b sdk k w₀ (beginLink b sdk P addr type w) := by
  unfold RemoteBridge.beginLink
  dsimp only
  split
  · exact h
  · next hc =>
    rw [not_or, not_or, not_not, Bool.not_eq_true, Bool.not_eq_true] at hc
    obtain ⟨hidle, hfault, hrec⟩ := hc
    have haim : Drives b sdk k w₀ (w.tune fun c =>
        { c with targetAddr := addr, targetType := type, nextLink := .none }) :=
      .tune _ (.drop ⟨rfl, rfl, rfl, rfl, rfl, rfl, rfl, rfl⟩) h
    have hask := haim.ask (.setBondParameter .centPairingMode 2) rfl
    split
    · exact (hask.radioFault hP hk _).failPairSdk hP _ _
    · have hconnect : Drives b sdk k w₀ ((setState .connecting 20000
          (RemoteBridge.ask sdk (.setBondParameter .centPairingMode 2) (w.tune fun c =>
            { c with targetAddr := addr, targetType := type, nextLink := .none })).2).tune
              Central.attempt) :=
        .tune _ (.free ⟨rfl, rfl, rfl, rfl, rfl, rfl, rfl, rfl⟩)
          (.tune _ (.connect hk hidle ⟨rfl, rfl, rfl, rfl, rfl, rfl, rfl, rfl⟩) hask)
      exact hconnect.establishLink hP hk rfl ⟨rfl, rfl, hfault, hrec⟩ hb addr type

/-! ## Scanning -/

lemma resolveAdvertisement (h : Drives b sdk k w₀ w) (hk : 1 ≤ k)
    (hb : w.env.central.seeks → w.env.central.securityBlocked = false) (addr : BdAddr)
    (type eventType : UInt8) : Drives b sdk k w₀ (resolveAdvertisement sdk addr type eventType w) := by
  unfold RemoteBridge.resolveAdvertisement
  dsimp only
  split
  · exact h
  · next hc =>
    rw [not_or, not_not] at hc
    split
    · exact h
    · split
      · have haim : Drives b sdk k w₀ (w.tune fun c =>
            { c with targetAddr := addr, targetType := type, nextLink := .reconnect }) :=
          .tune _ (.aim hk _ (hb (.inl hc.1)) ⟨rfl, rfl, rfl, rfl, rfl, rfl, rfl, rfl⟩) h
        exact haim.stopScan (.inr hc.1)
      · exact h

lemma onScanCandidate (h : Drives b sdk k w₀ w) (cand : Candidate) :
    Drives b sdk k w₀ (onScanCandidate cand w) := by
  unfold RemoteBridge.onScanCandidate
  split
  · exact h
  · exact .act _ (.of rfl rfl rfl rfl) h

lemma onDevice (h : Drives b sdk k w₀ w) (hk : 1 ≤ k)
    (hb : w.env.central.seeks → w.env.central.securityBlocked = false) (info : DeviceInfo) :
    Drives b sdk k w₀ (onDevice sdk info w) := by
  unfold RemoteBridge.onDevice
  dsimp only
  split
  · exact h.resolveAdvertisement hk hb _ _ _
  · split
    · exact h
    · split
      · exact h
      · split
        · exact h.onScanCandidate _
        · split
          · exact h
          · exact (h.free _ ⟨rfl, rfl, rfl, rfl, rfl, rfl, rfl, rfl⟩).onScanCandidate _

/-! ## SDK events -/

lemma onInitDone (hP : Wired b sdk P) (h : Drives b sdk k w₀ w) (hk : 1 ≤ k) (status : UInt8) :
    Drives b sdk k w₀ (onInitDone b sdk P status w) := by
  have hready : Drives b sdk k w₀ (w.tune fun c => { c with radioReady := status == 0 }) :=
    h.free _ ⟨rfl, rfl, rfl, rfl, rfl, rfl, rfl, rfl⟩
  have hask := hready.ask .configDeviceAddr rfl
  unfold RemoteBridge.onInitDone
  dsimp only
  split
  · exact hready.radioFault hP hk _
  · split
    · exact (hask.free _ ⟨rfl, rfl, rfl, rfl, rfl, rfl, rfl, rfl⟩).radioFault hP hk _
    · exact hask

lemma linkWanted (hP : Wired b sdk P) (h : Drives b sdk k w₀ w) (hk : 1 ≤ k) :
    Drives b sdk k w₀ (linkWanted b sdk P w) := by
  have hask := h.ask (.setBondParameter .centPairingMode 0) rfl
  unfold RemoteBridge.linkWanted
  dsimp only
  split
  · exact h.reportLink hP _
  · split
    · exact (hask.radioFault hP hk _).rbDisconnect hP
    · exact hask.reportLink hP _

lemma onLinkEstablished (hP : Wired b sdk P) (h : Drives b sdk k w₀ w) (hk : 1 ≤ k) (status : UInt8)
    (handle : LinkHandle) : Drives b sdk k w₀ (onLinkEstablished b sdk P status handle w) := by
  unfold RemoteBridge.onLinkEstablished
  dsimp only
  split
  · split
    · exact h
    · -- the handle and the state change together
      have htogether : Drives b sdk k w₀ (w.tune fun c => { c with
          connHandle := handle.val, wcState := .connected, adapterStarted := false
          deadline := w.env.nowMs + if w.env.central.pairPending then 60000 else 30000 }) :=
        .tune _ (.linkUp hk handle ⟨rfl, rfl, rfl, rfl, rfl, rfl, rfl, rfl⟩) h
      have hup : Drives b sdk k w₀ ((setState .connected
          (if w.env.central.pairPending then 60000 else 30000)
          (w.tune fun c => { c with connHandle := handle.val })).tune
            fun c => { c with adapterStarted := false }) := htogether
      split
      · exact hup.rbDisconnect hP
      · exact hup.linkWanted hP hk
  · split
    · next hs =>
      have hunlinked : w.env.central.wcState.linked = false := by
        rcases hs with hs | hs <;> rw [hs] <;> rfl
      exact ((h.rest hk hunlinked 0).failPairSdk hP _ _).disconnectedRetry hP _
    · exact h

lemma onLinkTerminated (hP : Wired b sdk P) (h : Drives b sdk k w₀ w) (hk : 1 ≤ k) (handle : UInt16)
    (reason : UInt8) : Drives b sdk k w₀ (onLinkTerminated b sdk P handle reason w) := by
  unfold RemoteBridge.onLinkTerminated
  dsimp only
  split
  · exact h
  · have htogether : Drives b sdk k w₀ (w.tune fun c =>
        { c.unlink with wcState := .idle, deadline := w.env.nowMs + 0 }) :=
      .tune _ (.linkDown hk ⟨rfl, rfl, rfl, rfl, rfl, rfl, rfl, rfl⟩) h
    have hdown : Drives b sdk k w₀ (setState .idle 0 (w.tune Central.unlink)) := htogether
    have hlost : Status.linkLost ≠ .ok := fun h => nomatch h
    exact ((hdown.syncGattCache.adapt hP _).failPair hP hlost).disconnectedRetry hP _

lemma onScanStopped (hP : Wired b sdk P) (h : Drives b sdk k w₀ w) (hk : 1 ≤ k)
    (hs : w.env.central.wcState = .scanStopping)
    (hb : w.env.central.seeks → w.env.central.securityBlocked = false) (status : UInt8) :
    Drives b sdk k w₀ (onScanStopped b sdk P status w) := by
  have hdrop : Drives b sdk k w₀ (w.tune fun c => { c with nextLink := .none }) :=
    .tune _ (.drop ⟨rfl, rfl, rfl, rfl, rfl, rfl, rfl, rfl⟩) h
  have hunlinked : (w.tune fun c => { c with nextLink := .none }).env.central.wcState.linked = false := by
    rw [central_tune, hs]
    rfl
  have hidle := hdrop.rest hk hunlinked 0
  unfold RemoteBridge.onScanStopped
  dsimp only
  split
  · exact (hidle.radioFault hP hk _).failPairSdk hP _ _
  · split
    · next hnext => exact hidle.beginLink hP hk (hb (.inr ⟨hs, hnext.1⟩)) _ _
    · exact hidle.disconnectedRetry hP _

lemma onScanDone (hP : Wired b sdk P) (h : Drives b sdk k w₀ w) (reason : UInt8) (nowMs : UInt32) :
    Drives b sdk k w₀ (onScanDone b P reason nowMs w) :=
  h.serve hP ((Serves.refl _).onScanDone _ _)

lemma onDeviceDiscovery (hP : Wired b sdk P) (h : Drives b sdk k w₀ w) (hk : 1 ≤ k)
    (hb : w.env.central.seeks → w.env.central.securityBlocked = false) (status : UInt8) :
    Drives b sdk k w₀ (onDeviceDiscovery b sdk P status w) := by
  have hidle (hs : w.env.central.wcState.linked = false) := h.rest hk hs 0
  unfold RemoteBridge.onDeviceDiscovery
  split
  · next hs => exact h.onScanStopped hP hk hs hb _
  · next hs =>
    refine (hidle ?_).onScanDone hP _ _
    rw [hs]
    rfl
  · next hs =>
    refine (hidle ?_).disconnectedRetry hP _
    rw [hs]
    rfl
  · exact h

lemma wcEventCb (hP : Wired b sdk P) (h : Drives b sdk k w₀ w) (hk : 1 ≤ k)
    (hb : w.env.central.seeks → w.env.central.securityBlocked = false) (e : GapEvent) :
    Drives b sdk k w₀ (wcEventCb b sdk P e w) := by
  cases e with
  | deviceInitDone status => exact h.onInitDone hP hk status
  | linkEstablished status handle => exact h.onLinkEstablished hP hk status handle
  | linkTerminated handle reason => exact h.onLinkTerminated hP hk handle reason
  | deviceInfo info => exact h.onDevice hk hb info
  | directDeviceInfo addr addrType eventType => exact h.resolveAdvertisement hk hb addr addrType eventType
  | deviceDiscovery status => exact h.onDeviceDiscovery hP hk hb status

/-! ## Security callbacks -/

lemma respondPasscode (hP : Wired b sdk P) (h : Drives b sdk k w₀ w) (handle : UInt16) (status : UInt8)
    (passkey : UInt32) (phase : String) :
    Drives b sdk k w₀ (respondPasscode b sdk P handle status passkey phase w) := by
  have hask := h.ask (.passcodeRsp handle status passkey) rfl
  unfold RemoteBridge.respondPasscode
  dsimp only
  split
  · exact hask.failPairSdk hP _ _
  · exact hask

lemma onPairPrompt (hP : Wired b sdk P) (h : Drives b sdk k w₀ w) (method : PromptMethod)
    (number remainingMs : UInt32) : Drives b sdk k w₀ (onPairPrompt b P method number remainingMs w) :=
  h.serve hP ((Serves.refl _).onPairPrompt _ _ _)

lemma wcPasscodeCb (hP : Wired b sdk P) (h : Drives b sdk k w₀ w) (handle : UInt16)
    (inputs outputs : Bool) : Drives b sdk k w₀ (wcPasscodeCb b sdk P handle inputs outputs w) := by
  unfold RemoteBridge.wcPasscodeCb
  dsimp only
  split
  · exact h
  · split
    · exact (h.free _ ⟨rfl, rfl, rfl, rfl, rfl, rfl, rfl, rfl⟩).onPairPrompt hP _ _ _
    · split
      · exact ((h.free _ ⟨rfl, rfl, rfl, rfl, rfl, rfl, rfl, rfl⟩).onPairPrompt hP _ _ _).respondPasscode
          hP _ _ _ _
      · exact h.respondPasscode hP _ _ _ _

lemma blockSecurity (hP : Wired b sdk P) (h : Drives b sdk k w₀ w) (hk : 1 ≤ k)
    (hs : w.env.central.wcState = .connecting ∨ w.env.central.wcState = .connected) (msg : String) :
    Drives b sdk k w₀ (blockSecurity b sdk P msg w) := by
  have hsafe : w.env.central.wcState ≠ .resolve ∧ w.env.central.wcState ≠ .scanStopping := by
    rcases hs with hs | hs <;> rw [hs] <;> exact ⟨(nomatch ·), (nomatch ·)⟩
  have hblock : Drives b sdk k w₀ (w.tune fun c => { c with securityBlocked := true }) :=
    .tune _ (.block hk hsafe ⟨rfl, rfl, rfl, rfl, rfl, rfl, rfl, rfl⟩) h
  exact (hblock.onLinkMessage _).rbDisconnect hP

lemma wcPairStateCb (hP : Wired b sdk P) (h : Drives b sdk k w₀ w) (hk : 1 ≤ k) (handle : UInt16)
    (state : PairingState) (status : UInt8) :
    Drives b sdk k w₀ (wcPairStateCb b sdk P handle state status w) := by
  have hstorage : Status.storageFailed ≠ .ok := fun h => nomatch h
  unfold RemoteBridge.wcPairStateCb
  dsimp only
  split
  · next hstart => exact h.blockSecurity hP hk (hstart.2.2.imp id (·.1)) _
  · split
    · exact h
    · next hc =>
      rw [not_or, not_not, not_not] at hc
      split
      · exact h.reportLink hP _
      · split
        · exact h
        · split
          · exact h.failPairSdk hP _ _
          · exact h.blockSecurity hP hk (.inr hc.2) _
      · split
        · exact h.blockSecurity hP hk (.inr hc.2) _
        · exact h
      · split
        · exact h
        · split
          · exact h.free _ ⟨rfl, rfl, rfl, rfl, rfl, rfl, rfl, rfl⟩
          · exact h.failPair hP hstorage

/-! ## Requests that the server makes without a condition -/

lemma askAll (calls : List SdkCall) (hc : ∀ c ∈ calls, (RadioEv.asked c).plain = true)
    (h : Drives b sdk k w₀ w) : Drives b sdk k w₀ (askAll sdk calls w).2 := by
  induction calls generalizing w with
  | nil => exact h
  | cons call calls ih =>
    have hask := h.ask call (hc call (List.mem_cons_self ..))
    unfold RemoteBridge.askAll
    dsimp only
    split
    · exact hask
    · exact ih (fun c hm => hc c (List.mem_cons_of_mem _ hm)) hask

/-- A scan is set up and started on a free radio. -/
lemma askAll_discovery (calls : List SdkCall) (hc : ∀ c ∈ calls, (RadioEv.asked c).plain = true)
    (hk : 1 ≤ k) (activeScan : Bool) (hf : w.env.central.Free) (h : Drives b sdk k w₀ w) :
    Drives b sdk k w₀ (RemoteBridge.askAll sdk (calls ++ [.startDiscovery activeScan]) w).2 := by
  induction calls generalizing w with
  | nil =>
    have hask : Drives b sdk k w₀ (RemoteBridge.ask sdk (.startDiscovery activeScan) w).2 :=
      .discover hk activeScan hf h
    rw [List.nil_append]
    unfold RemoteBridge.askAll
    dsimp only
    split
    · exact hask
    · exact hask
  | cons call calls ih =>
    have hask := h.ask call (hc call (List.mem_cons_self ..))
    rw [List.cons_append]
    unfold RemoteBridge.askAll
    dsimp only
    split
    · exact hask
    · exact ih (fun c hm => hc c (List.mem_cons_of_mem _ hm)) hf hask

lemma central_askAll (calls : List SdkCall) (w : World Radio) :
    (RemoteBridge.askAll sdk calls w).2.env.central = w.env.central := by
  induction calls generalizing w with
  | nil => rfl
  | cons call calls ih =>
    unfold RemoteBridge.askAll
    dsimp only
    split
    · rfl
    · exact ih _

lemma rbStartFind (h : Drives b sdk k w₀ w) (hk : 1 ≤ k) (duration : UInt16) :
    Drives b sdk k w₀ (rbStartFind sdk duration w).1 := by
  unfold RemoteBridge.rbStartFind
  dsimp only
  split
  · exact h
  · next hready =>
    rw [Bool.or_eq_true, not_or, Bool.not_eq_true _, Bool.not_eq_true _] at hready
    split
    · exact h
    · next hbusy =>
      rw [Bool.or_eq_true, not_or, Bool.not_eq_true _, decide_eq_true_eq, not_not] at hbusy
      have hfree : w.env.central.Free :=
        ⟨by rw [hbusy.2]; rfl, by rw [hbusy.2]; rfl, hready.2, hbusy.1⟩
      have hclear : Drives b sdk k w₀ (w.tune fun c => { c with candidates := [] }) :=
        h.free _ ⟨rfl, rfl, rfl, rfl, rfl, rfl, rfl, rfl⟩
      have hscan := askAll_discovery [.setParamValue .discScan (scanTicks duration).toUInt16,
        .setParamValue .discScanInt 36, .setParamValue .discScanWind 18]
        (by simp [RadioEv.plain]) hk true (w := w.tune fun c => { c with candidates := [] })
        ⟨hfree.unlinked, hfree.settled, hfree.sound, hfree.recovered⟩ hclear
      have hcentral := @central_askAll sdk [.setParamValue .discScan (scanTicks duration).toUInt16,
        .setParamValue .discScanInt 36, .setParamValue .discScanWind 18, .startDiscovery true]
        (w.tune fun c => { c with candidates := [] })
      rw [List.cons_append, List.cons_append, List.cons_append, List.nil_append] at hscan
      generalize RemoteBridge.askAll sdk [.setParamValue .discScan (scanTicks duration).toUInt16,
        .setParamValue .discScanInt 36, .setParamValue .discScanWind 18, .startDiscovery true]
        (w.tune fun c => { c with candidates := [] }) = r at hscan hcentral ⊢
      have hidle : r.2.env.central.wcState = .idle := by
        rw [hcentral]
        exact hbusy.2
      split
      · dsimp only
        refine .tune _ (.scan hk hidle ?_) hscan
        exact ⟨rfl, rfl, rfl, rfl, rfl, rfl, rfl, rfl⟩
      · exact hscan.onLinkMessage _

/-- The identity is read without a change of what matters. -/
lemma readIdentity (h : Drives b sdk k w₀ w) : Drives b sdk k w₀ (readIdentity sdk w).2 := by
  have hread := (h.ask .getBondCount rfl).ask .readBondRecord rfl
  unfold RemoteBridge.readIdentity
  dsimp only
  split
  · exact hread
  · split
    · exact hread
    · dsimp only
      refine ((hread.free _ ?_).ask .readIrk rfl).free _ ?_
      · exact ⟨rfl, rfl, rfl, rfl, rfl, rfl, rfl, rfl⟩
      · exact ⟨rfl, rfl, rfl, rfl, rfl, rfl, rfl, rfl⟩

lemma readIdentity_same (w : World Radio) :
    w.env.central.Same (RemoteBridge.readIdentity sdk w).2.env.central ∧
      (RemoteBridge.readIdentity sdk w).2.env.board = w.env.board := by
  unfold RemoteBridge.readIdentity
  dsimp only
  split
  · exact ⟨.refl _, rfl⟩
  · split
    · exact ⟨.refl _, rfl⟩
    · exact ⟨⟨rfl, rfl, rfl, rfl, rfl, rfl, rfl, rfl⟩, rfl⟩

/-- An identity is read only with an address type that the store can keep. -/
lemma identityType_readIdentity {w : World Radio} (h : (RemoteBridge.readIdentity sdk w).1 = true) :
    (RemoteBridge.readIdentity sdk w).2.env.central.identityType ≤ 1 := by
  unfold RemoteBridge.readIdentity at h ⊢
  dsimp only at h ⊢
  split at h
  · cases h
  · next hread =>
    split at h
    · cases h
    · next htype =>
      rw [if_neg hread, if_neg htype]
      simp only [Bool.or_eq_true, decide_eq_true_eq, not_or, UInt8.not_lt] at htype
      exact htype.1

lemma identityMatches (h : Drives b sdk k w₀ w) : Drives b sdk k w₀ (identityMatches sdk w).2 := by
  have hread := h.readIdentity
  unfold RemoteBridge.identityMatches
  split
  · exact h
  · split
    · next heq =>
      rw [heq] at hread
      exact hread
    · next heq =>
      rw [heq] at hread
      exact hread

lemma identityMatches_same (w : World Radio) :
    w.env.central.Same (RemoteBridge.identityMatches sdk w).2.env.central := by
  have hread := (@readIdentity_same sdk w).1
  unfold RemoteBridge.identityMatches
  split
  · exact .refl _
  · split
    · next heq =>
      rw [heq] at hread
      exact hread
    · next heq =>
      rw [heq] at hread
      exact hread

lemma rbConnectPeer (hP : Wired b sdk P) (h : Drives b sdk k w₀ w) (hk : 1 ≤ k) :
    Drives b sdk k w₀ (rbConnectPeer b sdk P w) := by
  unfold RemoteBridge.rbConnectPeer
  dsimp only
  split
  · exact h
  · next hc =>
    simp only [Bool.or_eq_true, not_or, Bool.not_eq_true, decide_eq_false_iff_not, not_not] at hc
    obtain ⟨⟨⟨⟨_, hfault⟩, hblocked⟩, hrec⟩, hidle⟩ := hc
    have hread := h.identityMatches
    have hsame := @identityMatches_same sdk w
    rcases hm : RemoteBridge.identityMatches sdk w with ⟨matched, w₁⟩
    rw [hm] at hread hsame
    have hidle₁ : w₁.env.central.wcState = .idle := hsame.wcState.trans hidle
    cases matched with
    | false =>
      have hblock : Drives b sdk k w₀ (w₁.tune fun c => { c with securityBlocked := true }) := by
        refine .tune _ (.block hk ?_ ⟨rfl, rfl, rfl, rfl, rfl, rfl, rfl, rfl⟩) hread
        rw [hidle₁]
        exact ⟨(nomatch ·), (nomatch ·)⟩
      exact (hblock.onLinkMessage _).reportLink hP _
    | true =>
      have hfree : w₁.env.central.Free :=
        ⟨by rw [hidle₁]; rfl, by rw [hidle₁]; rfl, hsame.radioFaulted.trans hfault,
          hsame.recovering.trans hrec⟩
      dsimp only
      generalize scanInterval (Board.boardHidFlagsLoad w₁.env.board) = interval
      have hscan := askAll_discovery [.setParamValue .discScan 0, .setParamValue .discScanInt interval,
        .setParamValue .discScanWind 48] (by simp [RadioEv.plain]) hk false hfree hread
      have hcentral := @central_askAll sdk [.setParamValue .discScan 0,
        .setParamValue .discScanInt interval, .setParamValue .discScanWind 48, .startDiscovery false] w₁
      rw [List.cons_append, List.cons_append, List.cons_append, List.nil_append] at hscan
      generalize RemoteBridge.askAll sdk [.setParamValue .discScan 0,
        .setParamValue .discScanInt interval, .setParamValue .discScanWind 48, .startDiscovery false]
        w₁ = r at hscan hcentral ⊢
      have hidle₂ : r.2.env.central.wcState = .idle := by
        rw [hcentral]
        exact hidle₁
      have hblocked₂ : r.2.env.central.securityBlocked = false := by
        rw [hcentral, hsame.securityBlocked]
        exact hblocked
      split
      · have hresolve : Drives b sdk k w₀ (setState .resolve 0 r.2) :=
          .tune _ (.resolve hk hidle₂ hblocked₂ ⟨rfl, rfl, rfl, rfl, rfl, rfl, rfl, rfl⟩) hscan
        exact hresolve.reportLink hP _
      · exact (hscan.disconnectedRetry hP _).onLinkMessage _

lemma rbPairReply (hP : Wired b sdk P) (h : Drives b sdk k w₀ w) (accept : Bool)
    (passkey : Option UInt32) : Drives b sdk k w₀ (rbPairReply b sdk P accept passkey w) := by
  unfold RemoteBridge.rbPairReply
  dsimp only
  split
  · exact h
  · exact (h.free _ ⟨rfl, rfl, rfl, rfl, rfl, rfl, rfl, rfl⟩).respondPasscode hP _ _ _ _

/-- The backend serves a call that needs no condition. -/
lemma backendCall_plain (hP : Wired b sdk P) (h : Drives b sdk k w₀ w) (hk : 1 ≤ k) {c : BackendCall}
    (hc : c.plain = true) : Drives b sdk k w₀ (backendCall b sdk P c w).1 := by
  cases c with
  | startFind duration => exact h.rbStartFind hk duration
  | pairReply accept passkey => exact h.rbPairReply hP accept passkey
  | connectPeer => exact h.rbConnectPeer hP hk
  | voiceRequestStart => exact h.adapt hP _
  | stopFind => cases hc
  | pairBegin => cases hc
  | pairCancel => cases hc
  | forgetPeer => cases hc
  | disconnect => cases hc
  | voiceRequestStop => cases hc

/-! ## Tasks -/

lemma startEncryptedAdapter (hP : Wired b sdk P) (h : Drives b sdk k w₀ w) :
    Drives b sdk k w₀ (startEncryptedAdapter b sdk P w) := by
  unfold RemoteBridge.startEncryptedAdapter
  dsimp only
  split
  · exact (h.free _ ⟨rfl, rfl, rfl, rfl, rfl, rfl, rfl, rfl⟩).adapt hP _
  · exact h

lemma startDevice (hP : Wired b sdk P) (h : Drives b sdk k w₀ w) (hk : 1 ≤ k) :
    Drives b sdk k w₀ (startDevice b sdk P w) := by
  have hask := h.ask .startDevice rfl
  unfold RemoteBridge.startDevice
  dsimp only
  split
  · exact h
  · split
    · exact hask.radioFault hP hk _
    · exact hask

lemma flushOutput (hP : Wired b sdk P) (h : Drives b sdk k w₀ w) :
    Drives b sdk k w₀ (flushOutput b P w) :=
  h.serve hP (Serves.refl _).flushOutput

lemma onGattMessage (hP : Wired b sdk P) (h : Drives b sdk k w₀ w) (handle : UInt16)
    (notification : Bool) : Drives b sdk k w₀ (onGattMessage b sdk P handle notification w) := by
  unfold RemoteBridge.onGattMessage
  dsimp only
  split
  · exact ((h.startEncryptedAdapter hP).adapt hP _).flushOutput hP
  · exact (h.adapt hP _).flushOutput hP

end Drives

end RemoteBridge
