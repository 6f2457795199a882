import RemoteBridge.Product.Requests
import RemoteBridge.Product.Serves

/-!
# Requests and the bond

The handlers of requests as `Serves`.  Four of them matter to the bond.  `PAIR_BEGIN` calls the backend
only without a peer, `FORGET_PEER` only with one and with its own operation running, and `SET_RECONNECT`
saves the record it has.  A handler that queues its reply first may come back to a session that is gone,
but not to another peer: what happens while it queues is a reaction (`Serves.bondKept`).
-/

namespace RemoteBridge

open World

variable {E : Type} {P : Platform E} {b : Build} {k : Nat} {w₀ w : World E}

namespace Serves

/-! ## Replies -/

lemma reply (h : Serves P k w₀ w) (hd : Header) (status : Status) (payload : List UInt8) :
    Serves P k w₀ (reply b P hd status payload w) :=
  Serves.ctlEnqueue (.note _ h) _ _ _ _ _ _

lemma respondError (h : Serves P k w₀ w) (hd : Header) (status : Status) (msg : Option (List UInt8)) :
    Serves P k w₀ (respondError b P hd status msg w) :=
  h.reply _ _ _

lemma respondText (h : Serves P k w₀ w) (hd : Header) (status : Status) (msg : String) :
    Serves P k w₀ (respondText b P hd status msg w) :=
  h.reply _ _ _

/-! ## Requests that only answer -/

lemma handlePing (h : Serves P k w₀ w) (hd : Header) (payload : List UInt8) :
    Serves P k w₀ (handlePing b P hd payload w) := by
  unfold RemoteBridge.handlePing
  split
  · exact h.respondText _ _ _
  · exact h.reply _ _ _

lemma handleGetOperation (h : Serves P k w₀ w) (hd : Header) (payload : List UInt8) :
    Serves P k w₀ (handleGetOperation b P hd payload w) := by
  unfold RemoteBridge.handleGetOperation
  split
  · exact h.respondText _ _ _
  · dsimp only
    split
    · exact h.reply _ _ _
    · split
      · exact h.reply _ _ _
      · exact h.respondError _ _ _

lemma handleFindList (h : Serves P k w₀ w) (hd : Header) (payload : List UInt8) :
    Serves P k w₀ (handleFindList b P hd payload w) := by
  unfold RemoteBridge.handleFindList
  split
  · dsimp only
    split
    · exact h.respondText _ _ _
    · split
      · exact h.respondText _ _ _
      · exact h.reply _ _ _
  · exact h.respondText _ _ _

lemma handleKeyCatalog (h : Serves P k w₀ w) (hd : Header) (payload : List UInt8) :
    Serves P k w₀ (handleKeyCatalog b P hd payload w) := by
  unfold RemoteBridge.handleKeyCatalog
  split
  · exact h.respondError _ _ _
  · split
    · exact h.respondText _ _ _
    · exact h.respondText _ _ _
    · dsimp only
      split
      · exact h.respondText _ _ _
      · split
        · exact h.respondText _ _ _
        · exact h.reply _ _ _

lemma handleKeysSnapshot (h : Serves P k w₀ w) (hd : Header) :
    Serves P k w₀ (handleKeysSnapshot b P hd w) := by
  unfold RemoteBridge.handleKeysSnapshot
  split
  · exact h.respondError _ _ _
  · exact h.reply _ _ _

lemma handleGetVoiceCaps (h : Serves P k w₀ w) (hd : Header) :
    Serves P k w₀ (handleGetVoiceCaps b P hd w) := by
  unfold RemoteBridge.handleGetVoiceCaps
  split
  · exact h.respondError _ _ _
  · exact h.reply _ _ _

/-! ## Sessions, discovery and pairing -/

lemma patchSlotZero (h : Serves P k w₀ w) (session : UInt32) :
    Serves P k w₀ (w.act (Server.patchSlotZero session)) := by
  have hkept : BondKept w.srv (w.srv.patchSlotZero session) := by
    unfold Server.patchSlotZero
    split <;> exact .of rfl rfl rfl rfl
  exact .act _ hkept h

lemma handleGoodbye (h : Serves P k w₀ w) (hd : Header) : Serves P k w₀ (handleGoodbye b P hd w) := by
  have hdown : Serves P k w₀ (RemoteBridge.sessionTeardown b P w) := h.sessionTeardown
  exact (Serves.reply (.note _ (hdown.keep _ rfl rfl rfl rfl)) _ _ _).patchSlotZero _

lemma handleFindStart (h : Serves P k w₀ w) (hk : 3 ≤ k) (hd : Header) (payload : List UInt8) :
    Serves P k w₀ (handleFindStart b P hd payload w) := by
  unfold RemoteBridge.handleFindStart
  split
  · exact h.respondText _ _ _
  · next dur _ =>
    split
    · exact h.respondText _ _ _
    · split
      · exact h.respondError _ _ _
      · split
        · exact h.respondText _ _ _
        · dsimp only [drawId]
          generalize (if (P.rng w).1 == 0 then 1 else (P.rng w).1) = id
          have hfind : Serves P k w₀ (invoke P (.startFind dur)
              (World.act (Server.beginFind id dur) { w with env := (P.rng w).2 })).1 :=
            .plain hk _ rfl ((Serves.draw h).keep _ rfl rfl rfl rfl)
          generalize invoke P (.startFind dur)
            (World.act (Server.beginFind id dur) { w with env := (P.rng w).2 }) = r at hfind ⊢
          obtain ⟨w₁, status⟩ := r
          dsimp only at hfind ⊢
          split
          · exact (hfind.keep _ rfl rfl rfl rfl).respondText _ _ _
          · exact hfind.reply _ _ _

lemma handleFindStop (h : Serves P k w₀ w) (hd : Header) (payload : List UInt8) :
    Serves P k w₀ (handleFindStop b P hd payload w) := by
  unfold RemoteBridge.handleFindStop
  split
  · exact h.respondText _ _ _
  · split
    · exact h.respondText _ _ _
    · exact (Serves.call _ rfl ((h.keep _ rfl rfl rfl rfl).reply _ _ _)).ctlEnqueue _ _ _ _ _ _

/-- The pairing of a request is begun; there is no peer when the backend is called. -/
lemma beginPair (hP : Keeps P) (h : Serves P k w₀ w) (hk : 3 ≤ k) (hd : Header) (cid : UInt32)
    (ho : w.srv.op.active = false) (hv : w.srv.device.peerValid = false) :
    Serves P k w₀ (beginPair b P hd cid w) := by
  have hbegin : Serves P k w₀ (w.beginOp .pair hd (w.srv.nowMs + pairDeadlineMs)) :=
    .beginOp hk _ _ _ ho h
  have hvalid : (w.beginOp .pair hd (w.srv.nowMs + pairDeadlineMs)).srv.device.peerValid = false := hv
  unfold RemoteBridge.beginPair
  dsimp only
  generalize w.beginOp .pair hd (w.srv.nowMs + pairDeadlineMs) = w₁ at hbegin hvalid ⊢
  have hreact : Serves P 1 w₁
      (RemoteBridge.reply b P hd .accepted (acceptedPayload hd.requestId) w₁) :=
    (Serves.refl _).reply _ _ _
  have hnone := (hreact.bondKept hP le_rfl).valid.trans hvalid
  exact .pairBegin hk _ hnone (hbegin.reply _ _ _)

lemma handlePairBegin (hP : Keeps P) (h : Serves P k w₀ w) (hk : 3 ≤ k) (hd : Header)
    (payload : List UInt8) : Serves P k w₀ (handlePairBegin b P hd payload w) := by
  unfold RemoteBridge.handlePairBegin
  split
  · next cid _ _ =>
    dsimp only
    split
    · exact h.respondError _ _ _
    · next hidle =>
      split
      · exact h.respondText _ _ _
      · split
        · exact h.respondText _ _ _
        · next hfree =>
          have ho : w.srv.op.active = false := Bool.eq_false_iff.mpr hidle
          have hv : w.srv.device.peerValid = false := Bool.eq_false_iff.mpr hfree
          split
          · exact h.respondText _ _ _
          · split
            · -- the search gives way before the pairing is begun
              have htake : ∀ {k : Nat} {w₀ : World E}, Serves P k w₀ w →
                  Serves P k w₀ (queueTakeover b P ((takeoverFind P w).note
                    (.granted [13, 8] (takeoverFind P w).srv))) := fun h =>
                Serves.ctlEnqueue (.note _ (.call _ rfl (h.keep _ rfl rfl rfl rfl))) _ _ _ _ _ _
              have hkept := (htake (k := 1) (.refl w)).bondKept hP le_rfl
              have ho' := Bool.eq_false_iff.mpr fun ha => hidle (hkept.active ha)
              exact beginPair hP (htake h) hk _ _ ho' (hkept.valid.trans hv)
            · exact beginPair hP (.note _ h) hk _ _ ho hv
  · exact h.respondText _ _ _

lemma handlePairReply (h : Serves P k w₀ w) (hk : 3 ≤ k) (hd : Header) (payload : List UInt8) :
    Serves P k w₀ (handlePairReply b P hd payload w) := by
  unfold RemoteBridge.handlePairReply
  split
  · dsimp only
    split
    · exact h.respondText _ _ _
    · split
      · exact h.respondText _ _ _
      · split
        · exact h.respondText _ _ _
        · split
          · exact h.respondText _ _ _
          · split
            · exact h.respondText _ _ _
            · exact .plain hk _ rfl ((h.keep _ rfl rfl rfl rfl).reply _ _ _)
  · exact h.respondText _ _ _

lemma handlePairCancel (h : Serves P k w₀ w) (hd : Header) (payload : List UInt8) :
    Serves P k w₀ (handlePairCancel b P hd payload w) := by
  unfold RemoteBridge.handlePairCancel
  split
  · exact h.respondText _ _ _
  · split
    · exact h.respondText _ _ _
    · exact ((h.keep _ rfl rfl rfl rfl).reply _ _ _).requestPairCancel

/-! ## The bond -/

/-- The deletion of a request is begun; its operation is still running when the backend is called. -/
lemma handleForgetPeer (hP : Keeps P) (h : Serves P k w₀ w) (hk : 3 ≤ k) (hd : Header)
    (payload : List UInt8) : Serves P k w₀ (handleForgetPeer b P hd payload w) := by
  unfold RemoteBridge.handleForgetPeer
  split
  · exact h.respondText _ _ _
  · split
    · exact h.respondError _ _ _
    · next hidle =>
      split
      · exact h.respondText _ _ _
      · next hpeer =>
        have ho : w.srv.op.active = false := Bool.eq_false_iff.mpr hidle
        have hv : w.srv.device.peerValid = true := by
          by_contra hv
          simp [hv] at hpeer
        have hbegin : Serves P k w₀ ((w.beginOp .forget hd (w.srv.nowMs + forgetDeadlineMs)).act
            Server.pauseReconnect) := (Serves.beginOp hk _ _ _ ho h).keep _ rfl rfl rfl rfl
        have hforget : ((w.beginOp .forget hd (w.srv.nowMs + forgetDeadlineMs)).act
            Server.pauseReconnect).srv.forgetting := ⟨rfl, rfl⟩
        have hvalid : ((w.beginOp .forget hd (w.srv.nowMs + forgetDeadlineMs)).act
            Server.pauseReconnect).srv.device.peerValid = true := hv
        dsimp only
        generalize (w.beginOp .forget hd (w.srv.nowMs + forgetDeadlineMs)).act
          Server.pauseReconnect = w₁ at hbegin hforget hvalid ⊢
        have hreact : Serves P 1 w₁
            (RemoteBridge.reply b P hd .accepted (acceptedPayload hd.requestId) w₁) :=
          (Serves.refl _).reply _ _ _
        have hkept := hreact.bondKept hP le_rfl
        have hrunning : (RemoteBridge.reply b P hd .accepted (acceptedPayload hd.requestId)
            w₁).srv.forgetting :=
          ⟨(hkept.forget hforget.2).trans hforget.1, hkept.kind.trans hforget.2⟩
        exact .forgetPeer hk (hkept.valid.trans hvalid) hrunning (hbegin.reply _ _ _)

lemma resume (h : Serves P k w₀ w) (enabled : Bool) :
    Serves P k w₀ (if enabled = true then w.act Server.resumeReconnect else w) :=
  .ite _ (h.keep _ rfl rfl rfl rfl) h

lemma handleSetReconnect (h : Serves P k w₀ w) (hk : 3 ≤ k) (hd : Header) (payload : List UInt8) :
    Serves P k w₀ (handleSetReconnect b P hd payload w) := by
  unfold RemoteBridge.handleSetReconnect
  split
  · next pid enabled _ _ =>
    dsimp only
    split
    · exact h.respondText _ _ _
    · next hpeer =>
      split
      · exact (h.resume enabled).reply _ _ _
      · have hv : w.srv.device.peerValid = true := by
          by_contra hv
          simp [hv] at hpeer
        split
        · next hr =>
          have hr' : (P.save (w.flagged enabled).srv.device.peer (w.flagged enabled)).1 = false := by
            simpa [World.flagged] using hr
          have hback := Serves.unsaved hk enabled hv hr' h
          exact hback.respondError _ _ _
        · next hr =>
          have hr' : (P.save (w.flagged enabled).srv.device.peer (w.flagged enabled)).1 = true := by
            simpa [World.flagged] using hr
          have hsaved := Serves.saved hk enabled hv hr' h
          exact (hsaved.resume enabled).reply _ _ _
  · exact h.respondText _ _ _

lemma handleConnectPeer (h : Serves P k w₀ w) (hk : 3 ≤ k) (hd : Header) (payload : List UInt8) :
    Serves P k w₀ (handleConnectPeer b P hd payload w) := by
  unfold RemoteBridge.handleConnectPeer
  dsimp only
  split
  · exact h.respondError _ _ _
  · split
    · exact h.respondText _ _ _
    · split
      · exact h.respondText _ _ _
      · split
        · exact h.respondText _ _ _
        · split
          · exact h.reply _ _ _
          · exact (Serves.plain hk _ rfl (h.keep _ rfl rfl rfl rfl)).reply _ _ _

lemma handleDisconnect (h : Serves P k w₀ w) (hd : Header) :
    Serves P k w₀ (handleDisconnect b P hd w) := by
  have hpause : Serves P k w₀ (w.act fun s =>
      { s.pauseReconnect with voice := { s.voice with resumePeer := 0 } }) := h.keep _ rfl rfl rfl rfl
  exact (Serves.ite _ (.call _ rfl hpause) hpause).reply _ _ _

/-! ## Keys and voice -/

lemma handleEventsEnable (h : Serves P k w₀ w) (hd : Header) (payload : List UInt8) :
    Serves P k w₀ (handleEventsEnable b P hd payload w) := by
  unfold RemoteBridge.handleEventsEnable
  split
  · exact h.respondError _ _ _
  · split
    · exact h.respondText _ _ _
    · have hreply := Serves.reply (b := b) (.note (.granted [0] w.srv) h) hd .ok []
      exact .note _ (.act _ (onlyKeys_bondKept (onlyKeys_enableEvents _)) hreply)
    · exact (h.keep _ rfl rfl rfl rfl).reply _ _ _

lemma denyVoice (h : Serves P k w₀ w) (hd : Header) : Serves P k w₀ (denyVoice b P hd w) := by
  have hoff : Serves P k w₀ (w.act Server.disableVoice) := h.keep _ rfl rfl rfl rfl
  unfold RemoteBridge.denyVoice
  dsimp only
  generalize w.act Server.disableVoice = w₁ at hoff ⊢
  have hstop := Serves.ite ((!w₁.srv.voice.delivering && (w₁.srv.voice.sourceActive ||
    w.srv.voice.enabled)) = true) (.call .voiceRequestStop rfl hoff) hoff
  generalize (if (!w₁.srv.voice.delivering && (w₁.srv.voice.sourceActive ||
    w.srv.voice.enabled)) = true then (invoke P .voiceRequestStop w₁).1 else w₁) = w₂ at hstop ⊢
  split
  · have hdefer : Serves P k w₀
        ((RemoteBridge.voiceFinishStream b P .consumerDisabled true w₂).defer hd) :=
      .note _ ((hstop.voiceFinishStream _ _).keep _ rfl rfl rfl rfl)
    exact .ite _ (.call _ rfl hdefer) hdefer
  · exact hstop.reply _ _ _

lemma handleVoiceEnable (h : Serves P k w₀ w) (hd : Header) (payload : List UInt8) :
    Serves P k w₀ (handleVoiceEnable b P hd payload w) := by
  unfold RemoteBridge.handleVoiceEnable
  split
  · exact h.respondText _ _ _
  · dsimp only
    split
    · exact h.respondError _ _ _
    · split
      · split
        · split
          · exact h.respondError _ _ _
          · exact h.denyVoice _
        · split
          · exact h.respondError _ _ _
          · exact (h.keep _ rfl rfl rfl rfl).reply _ _ _
      · exact h.respondError _ _ _

lemma handleVoiceStart (h : Serves P k w₀ w) (hk : 3 ≤ k) (hd : Header) :
    Serves P k w₀ (handleVoiceStart b P hd w) := by
  unfold RemoteBridge.handleVoiceStart
  dsimp only
  split
  · exact h.respondError _ _ _
  · split
    · exact h.respondError _ _ _
    · split
      · exact h.respondText _ _ _
      · split
        · exact h.respondText _ _ _
        · split
          · exact h.respondError _ _ _
          · have hstart : Serves P k w₀ (invoke P .voiceRequestStart w).1 := .plain hk _ rfl h
            generalize invoke P .voiceRequestStart w = r at hstart ⊢
            obtain ⟨w₁, status⟩ := r
            dsimp only at hstart ⊢
            split
            · exact hstart.respondError _ _ _
            · exact hstart.reply _ _ _

lemma handleVoiceStop (h : Serves P k w₀ w) (hd : Header) (payload : List UInt8) :
    Serves P k w₀ (handleVoiceStop b P hd payload w) := by
  unfold RemoteBridge.handleVoiceStop
  split
  · exact h.respondError _ _ _
  · split
    · exact h.respondText _ _ _
    · split
      · exact h.respondText _ _ _
      · exact (Serves.ite _ h (.call _ rfl (h.keep _ rfl rfl rfl rfl))).reply _ _ _

/-! ## Dispatch -/

lemma dispatchOp (hP : Keeps P) (h : Serves P k w₀ w) (hk : 3 ≤ k) (op : Option RequestOp)
    (hd : Header) (payload : List UInt8) : Serves P k w₀ (dispatchOp b P op hd payload w) := by
  unfold RemoteBridge.dispatchOp
  split
  · exact h.handlePing _ _
  · exact h.reply _ _ _
  · exact h.reply _ _ _
  · exact h.handleGetOperation _ _
  · exact h.reply _ _ _
  · exact h.handleGoodbye _
  · exact h.handleFindStart hk _ _
  · exact h.handleFindList _ _
  · exact h.handleFindStop _ _
  · exact handlePairBegin hP h hk _ _
  · exact h.handlePairReply hk _ _
  · exact h.handlePairCancel _ _
  · exact handleForgetPeer hP h hk _ _
  · exact h.handleSetReconnect hk _ _
  · exact h.handleConnectPeer hk _ _
  · exact h.handleDisconnect _
  · exact h.handleKeyCatalog _ _
  · exact h.handleKeysSnapshot _
  · exact h.handleEventsEnable _ _
  · exact h.handleGetVoiceCaps _
  · exact h.handleVoiceEnable _ _
  · exact h.handleVoiceStart hk _
  · exact h.handleVoiceStop _ _
  · exact h.respondError _ _ _
  · exact h.respondError _ _ _

lemma dispatchRequest (hP : Keeps P) (h : Serves P k w₀ w) (hk : 3 ≤ k) (hd : Header)
    (payload : List UInt8) : Serves P k w₀ (dispatchRequest b P hd payload w) := by
  unfold RemoteBridge.dispatchRequest
  split
  · exact h.respondText _ _ _
  · split
    · exact h.respondText _ _ _
    · exact dispatchOp hP h hk _ _ _

lemma refuseVersion (h : Serves P k w₀ w) (nonce : Option (List UInt8)) :
    Serves P k w₀ (refuseVersion b P nonce w) := by
  unfold RemoteBridge.refuseVersion
  dsimp only
  split
  · exact h.outDrain
  · exact Serves.outDrain (.note _ (h.keep _ rfl rfl rfl rfl))

lemma handleHello (h : Serves P k w₀ w) (hd : Header) (payload : List UInt8) :
    Serves P k w₀ (handleHello b P hd payload w) := by
  unfold RemoteBridge.handleHello
  dsimp only
  split
  · exact h.keep _ rfl rfl rfl rfl
  · split
    · exact h.refuseVersion _
    · split
      · exact (h.respondText _ _ _).outDrain
      · split
        · exact (h.respondText _ _ _).outDrain
        · exact ((h.sessionCreate.keep _ rfl rfl rfl rfl).ctlEnqueue _ _ _ _ _ _).outDrain

lemma failSession (h : Serves P k w₀ w) : Serves P k w₀ (failSession b P w) :=
  (h.keep _ rfl rfl rfl rfl).sessionTeardown

lemma acceptFrame (hP : Keeps P) (h : Serves P k w₀ w) (hk : 3 ≤ k) (hd : Header)
    (payload : List UInt8) : Serves P k w₀ (acceptFrame b P hd payload w) := by
  unfold RemoteBridge.acceptFrame
  split
  · exact h.respondText _ _ _
  · split
    · exact h.respondError _ _ _
    · exact dispatchRequest hP (.note _ (h.keep _ rfl rfl rfl rfl)) hk _ _

lemma processFrame (hP : Keeps P) (h : Serves P k w₀ w) (hk : 3 ≤ k) (hd : Header)
    (payload : List UInt8) (crcOk : Bool) : Serves P k w₀ (processFrame b P hd payload crcOk w) := by
  have herror : Serves P k w₀ (w.act Server.protocolError) := h.keep _ rfl rfl rfl rfl
  unfold RemoteBridge.processFrame
  split
  · exact .ite _ h.failSession h
  · split
    · exact .ite _ herror.sessionTeardown herror
    · split
      · exact .ite _ herror h
      · split
        · exact h.handleHello _ _
        · split
          · exact .ite _ h.sessionTeardown h
          · split
            · exact h
            · split
              · exact h.failSession
              · exact acceptFrame hP (h.keep _ rfl rfl rfl rfl) hk _ _

lemma serverRxEvent (hP : Keeps P) (h : Serves P k w₀ w) (hk : 3 ≤ k) (ev : RxEvent) :
    Serves P k w₀ (serverRxEvent b P ev w) := by
  unfold RemoteBridge.serverRxEvent
  split
  · exact processFrame hP h hk _ _ _
  · exact .ite _ h.failSession h

lemma serverRxEvents (hP : Keeps P) (hk : 3 ≤ k) (evs : List RxEvent) (h : Serves P k w₀ w) :
    Serves P k w₀ (evs.foldl (fun w ev => RemoteBridge.serverRxEvent b P ev w) w) := by
  induction evs generalizing w with
  | nil => exact h
  | cons ev evs ih => exact ih (serverRxEvent hP h hk ev)

lemma onUsbRx (hP : Keeps P) (h : Serves P k w₀ w) (hk : 3 ≤ k) (data : List UInt8) (nowMs : UInt32) :
    Serves P k w₀ (onUsbRx b P data nowMs w) :=
  serverRxEvents hP hk _ ((h.keep _ rfl rfl rfl rfl).keep _ rfl rfl rfl rfl)

end Serves

end RemoteBridge
