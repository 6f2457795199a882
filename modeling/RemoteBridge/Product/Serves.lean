import RemoteBridge.Product.Stream

/-!
# What the server does to its bond

`Moves` forgets what a backend function does to its own state, because most properties of the server
hold for any backend.  The bond is shared: the server keeps a copy of the peer record, the store keeps
the committed one, and the radio writes the journal.  `Serves P k w w'` therefore keeps the backend calls
themselves, each at the state it is made on, and says of everything in between only what it does to the
peer record and to a running deletion.

A reaction of the server (`k = 1`) calls nothing but the four functions that take something back: stop a
search, cancel a pairing, stop the voice source, disconnect.  A tick or the report of a deletion (`k = 2`)
may also end a deletion.  A request (`k = 3`) may begin an operation, save the reconnect flag, and call
everything else under the conditions its handler has checked.
-/

namespace RemoteBridge

open World

variable {E : Type} (P : Platform E)

/-! ## The relation -/

/-- The calls that only take something back. -/
def BackendCall.calm : BackendCall → Bool
  | .stopFind | .pairCancel | .voiceRequestStop | .disconnect => true
  | _ => false

/-- The calls that a request makes without a condition on the bond. -/
def BackendCall.plain : BackendCall → Bool
  | .startFind _ | .pairReply _ _ | .connectPeer | .voiceRequestStart => true
  | _ => false

/-- A change that keeps the peer record.  No operation is begun, and only a pairing may be ended. -/
structure BondKept (s s' : Server) : Prop where
  peer : s'.device.peer = s.device.peer
  valid : s'.device.peerValid = s.device.peerValid
  kind : s'.op.kind = s.op.kind
  active : s'.op.active = true → s.op.active = true
  forget : s.op.kind = some .forget → s'.op.active = s.op.active

/-- A deletion is in progress. -/
def Server.forgetting (s : Server) : Prop := s.op.active = true ∧ s.op.kind = some .forget

/-- The world in which the reconnect flag is saved. -/
def World.flagged (enabled : Bool) (w : World E) : World E := w.act (Server.setAutoReconnect enabled)

/-- What functions of level `k` do, call by call. -/
inductive Serves : Nat → World E → World E → Prop
  | refl {k : Nat} (w : World E) : Serves k w w
  | act {k : Nat} {w₀ w : World E} (f : Server → Server) (hf : BondKept w.srv (f w.srv))
      (h : Serves k w₀ w) : Serves k w₀ (w.act f)
  | note {k : Nat} {w₀ w : World E} (e : Ev) (h : Serves k w₀ w) : Serves k w₀ (w.note e)
  | draw {k : Nat} {w₀ w : World E} (h : Serves k w₀ w) : Serves k w₀ { w with env := (P.rng w).2 }
  | call {k : Nat} {w₀ w : World E} (c : BackendCall) (hc : c.calm = true) (h : Serves k w₀ w) :
      Serves k w₀ (invoke P c w).1
  /-- A deletion ends; it has failed, or the peer is gone. -/
  | closed {k : Nat} {w₀ w : World E} (hk : 2 ≤ k) (d : OpDone) (ho : w.srv.forgetting)
      (hd : d.uncertain = true ∨ w.srv.device.peerValid = false) (h : Serves k w₀ w) :
      Serves k w₀ ((w.act Server.endOp).complete d)
  | beginOp {k : Nat} {w₀ w : World E} (hk : 3 ≤ k) (kind : OpKind) (hd : Header) (deadlineMs : UInt32)
      (ho : w.srv.op.active = false) (h : Serves k w₀ w) : Serves k w₀ (w.beginOp kind hd deadlineMs)
  | plain {k : Nat} {w₀ w : World E} (hk : 3 ≤ k) (c : BackendCall) (hc : c.plain = true)
      (h : Serves k w₀ w) : Serves k w₀ (invoke P c w).1
  | pairBegin {k : Nat} {w₀ w : World E} (hk : 3 ≤ k) (cid : UInt32)
      (hv : w.srv.device.peerValid = false) (h : Serves k w₀ w) :
      Serves k w₀ (invoke P (.pairBegin cid) w).1
  | forgetPeer {k : Nat} {w₀ w : World E} (hk : 3 ≤ k) (hv : w.srv.device.peerValid = true)
      (ho : w.srv.forgetting) (h : Serves k w₀ w) : Serves k w₀ (invoke P .forgetPeer w).1
  /-- The reconnect flag is saved. -/
  | saved {k : Nat} {w₀ w : World E} (hk : 3 ≤ k) (enabled : Bool)
      (hv : w.srv.device.peerValid = true)
      (hr : (P.save (w.flagged enabled).srv.device.peer (w.flagged enabled)).1 = true)
      (h : Serves k w₀ w) :
      Serves k w₀ { w.flagged enabled with
        env := (P.save (w.flagged enabled).srv.device.peer (w.flagged enabled)).2 }
  /-- The reconnect flag cannot be saved and is taken back. -/
  | unsaved {k : Nat} {w₀ w : World E} (hk : 3 ≤ k) (enabled : Bool)
      (hv : w.srv.device.peerValid = true)
      (hr : (P.save (w.flagged enabled).srv.device.peer (w.flagged enabled)).1 = false)
      (h : Serves k w₀ w) :
      Serves k w₀ { w with env := (P.save (w.flagged enabled).srv.device.peer (w.flagged enabled)).2 }

variable {P} {b : Build} {k : Nat} {w₀ w w' : World E} {s s' : Server}

lemma BondKept.of (hp : s'.device.peer = s.device.peer) (hv : s'.device.peerValid = s.device.peerValid)
    (hk : s'.op.kind = s.op.kind) (ha : s'.op.active = s.op.active) : BondKept s s' :=
  ⟨hp, hv, hk, fun h => ha ▸ h, fun _ => ha⟩

/-- An operation ends that is not a deletion. -/
lemma bondKept_endOp (hk : s.op.kind ≠ some .forget) : BondKept s s.endOp :=
  ⟨rfl, rfl, rfl, fun h => (nomatch h), fun h => absurd h hk⟩

lemma bondKept_withdraw (s : Server) : BondKept s (s.withdraw b) := by
  have hd : (s.withdraw b).device = s.device := by
    unfold Server.withdraw
    dsimp only [Server.stopDelivery, Server.ctlClear]
    split <;> rfl
  have ho : (s.withdraw b).op =
      { s.op with active := s.op.active && s.op.kind != some .pair, done := [] } := by
    unfold Server.withdraw
    dsimp only [Server.stopDelivery, Server.ctlClear]
    split <;> rfl
  refine ⟨by rw [hd], by rw [hd], by rw [ho], fun h => ?_, fun hk => ?_⟩
  · rw [ho] at h
    exact (Bool.and_eq_true_iff.mp h).1
  · rw [ho]
    simp [hk]

lemma BondKept.refl (s : Server) : BondKept s s := .of rfl rfl rfl rfl

lemma BondKept.trans {s'' : Server} (h₁ : BondKept s s') (h₂ : BondKept s' s'') : BondKept s s'' :=
  ⟨h₂.peer.trans h₁.peer, h₂.valid.trans h₁.valid, h₂.kind.trans h₁.kind,
    fun h => h₁.active (h₂.active h), fun h => (h₂.forget (h₁.kind.trans h)).trans (h₁.forget h)⟩

lemma onlyVoice_bondKept (h : OnlyVoice s s') : BondKept s s' :=
  .of (by rw [h.device]) (by rw [h.device]) (by rw [h.op]) (by rw [h.op])

lemma onlyKeys_bondKept (h : OnlyKeys s s') : BondKept s s' :=
  .of (by rw [h.device]) (by rw [h.device]) (by rw [h.op]) (by rw [h.op])

namespace Serves

lemma trans (h₁ : Serves P k w₀ w) (h₂ : Serves P k w w') : Serves P k w₀ w' := by
  induction h₂ with
  | refl => exact h₁
  | act f hf _ ih => exact .act f hf ih
  | note e _ ih => exact .note e ih
  | draw _ ih => exact .draw ih
  | call c hc _ ih => exact .call c hc ih
  | closed hk d ho hd _ ih => exact .closed hk d ho hd ih
  | beginOp hk kind hd deadlineMs ho _ ih => exact .beginOp hk kind hd deadlineMs ho ih
  | plain hk c hc _ ih => exact .plain hk c hc ih
  | pairBegin hk cid hv _ ih => exact .pairBegin hk cid hv ih
  | forgetPeer hk hv ho _ ih => exact .forgetPeer hk hv ho ih
  | saved hk enabled hv hr _ ih => exact .saved hk enabled hv hr ih
  | unsaved hk enabled hv hr _ ih => exact .unsaved hk enabled hv hr ih

/-- A change that leaves the peer record and the operation alone. -/
lemma keep (h : Serves P k w₀ w) (f : Server → Server)
    (hp : (f w.srv).device.peer = w.srv.device.peer)
    (hv : (f w.srv).device.peerValid = w.srv.device.peerValid)
    (hk : (f w.srv).op.kind = w.srv.op.kind) (ha : (f w.srv).op.active = w.srv.op.active) :
    Serves P k w₀ (w.act f) :=
  .act f (.of hp hv hk ha) h

variable (P) in
/-- The calls that take something back keep the bond. -/
def Keeps : Prop := ∀ c (w : World E), c.calm = true → BondKept w.srv (P.call c w).1.srv

/-- A reaction keeps the bond. -/
lemma bondKept (hP : Keeps P) (hk : k ≤ 1) (h : Serves P k w w') : BondKept w.srv w'.srv := by
  induction h with
  | refl => exact .refl _
  | act f hf _ ih => exact ih.trans hf
  | note e _ ih => exact ih
  | draw _ ih => exact ih
  | call c hc _ ih => exact ih.trans (hP c (World.note _ _) hc)
  | closed => omega
  | beginOp => omega
  | plain => omega
  | pairBegin => omega
  | forgetPeer => omega
  | saved => omega
  | unsaved => omega

lemma ite (c : Prop) [Decidable c] (h₁ : Serves P k w₀ w) (h₂ : Serves P k w₀ w') :
    Serves P k w₀ (if c then w else w') := by
  split
  · exact h₁
  · exact h₂

/-! ## Sessions and output -/

lemma requestPairCancel (h : Serves P k w₀ w) : Serves P k w₀ (requestPairCancel P w) := by
  unfold RemoteBridge.requestPairCancel
  split
  · exact h
  · exact .call _ rfl (h.keep _ rfl rfl rfl rfl)

lemma withdraw (h : Serves P k w₀ w) : Serves P k w₀ (w.withdraw b) :=
  .note _ (.act _ (bondKept_withdraw _) h)

lemma sessionTeardown (h : Serves P k w₀ w) : Serves P k w₀ (sessionTeardown b P w) := by
  have hcancel : Serves P k w₀
      (if w.srv.pairToCancel then RemoteBridge.requestPairCancel P (w.withdraw b) else w.withdraw b) := by
    split
    · exact h.withdraw.requestPairCancel
    · exact h.withdraw
  unfold RemoteBridge.sessionTeardown
  dsimp only
  generalize (if w.srv.pairToCancel then RemoteBridge.requestPairCancel P (w.withdraw b)
    else w.withdraw b) = w₁ at hcancel ⊢
  have hfind : Serves P k w₀ (if w.srv.find.active then (invoke P .stopFind w₁).1 else w₁) := by
    split
    · exact .call _ rfl hcancel
    · exact hcancel
  split
  · exact .call _ rfl hfind
  · exact hfind

lemma sessionCreate (h : Serves P k w₀ w) : Serves P k w₀ (sessionCreate b P w) := by
  have hdown : Serves P k w₀ (RemoteBridge.sessionTeardown b P w) := h.sessionTeardown
  unfold RemoteBridge.sessionCreate
  dsimp only
  split
  · exact hdown.keep _ rfl rfl rfl rfl
  · exact .note _ (hdown.keep _ rfl rfl rfl rfl)

lemma emit (h : Serves P k w₀ w) (origin : Origin) (hd : Header) (payload bytes : List UInt8)
    (next : UInt32) : Serves P k w₀ (w.emit b origin hd payload bytes next) :=
  .note _ (h.keep _ rfl rfl rfl rfl)

lemma outTryFrame (h : Serves P k w₀ w) (origin : Origin) (hd : Header) (payload : List UInt8) :
    Serves P k w₀ (outTryFrame b P origin hd payload w).2 := by
  unfold RemoteBridge.outTryFrame
  dsimp only
  split
  · exact h.sessionTeardown
  · split
    · exact h
    · split
      · exact h
      · split
        · exact h
        · exact h.emit _ _ _ _ _

lemma outDrainLoop (fuel : Nat) (h : Serves P k w₀ w) : Serves P k w₀ (outDrainLoop b P fuel w) := by
  induction fuel generalizing w with
  | zero => exact h
  | succ fuel ih =>
    have hsend (n : Nat) : Serves P k w₀ (w.send b n) := .note _ (h.keep _ rfl rfl rfl rfl)
    unfold RemoteBridge.outDrainLoop
    dsimp only
    split
    · exact h
    · split
      · exact h
      · split
        · exact hsend _
        · exact ih (hsend _)

lemma outDrain (h : Serves P k w₀ w) : Serves P k w₀ (outDrain b P w) := h.outDrainLoop _

lemma freeSlot (h : Serves P k w₀ w) (i : Nat) : Serves P k w₀ (w.act (Server.freeSlot i)) :=
  h.keep _ (by rw [device_freeSlot]) (by rw [device_freeSlot]) (by rw [op_freeSlot])
    (by rw [op_freeSlot])

lemma ctlPop (h : Serves P k w₀ w) : Serves P k w₀ (ctlPop b P w).2 := by
  unfold RemoteBridge.ctlPop
  split
  · exact h
  · split
    · exact h
    · next i _ =>
      dsimp only
      generalize w.srv.ctl.getD i {} = slot
      have hsent : Serves P k w₀
          (RemoteBridge.outTryFrame b P (.ctl slot) slot.header slot.payload w).2 :=
        h.outTryFrame _ _ _
      generalize RemoteBridge.outTryFrame b P (.ctl slot) slot.header slot.payload w = r at hsent ⊢
      obtain ⟨sent, w₁⟩ := r
      cases sent with
      | false => exact hsent
      | true => exact hsent.freeSlot i

lemma queue (h : Serves P k w₀ w) (slot : CtlSlot) : Serves P k w₀ (w.queue slot) :=
  .note _ (h.keep _ (by rw [device_putCtl]) (by rw [device_putCtl]) (by rw [op_putCtl])
    (by rw [op_putCtl]))

lemma ctlEnqueue (h : Serves P k w₀ w) (kind : UInt8) (opcode : UInt16) (status : Status)
    (requestId connectionId : UInt32) (payload : List UInt8) :
    Serves P k w₀ (ctlEnqueue b P kind opcode status requestId connectionId payload w) := by
  unfold RemoteBridge.ctlEnqueue
  split
  · exact (h.keep _ rfl rfl rfl rfl).sessionTeardown
  · exact h.queue _

lemma onKeys (h : Serves P k w₀ w) (rep : KeysReport) : Serves P k w₀ (onKeys rep w) :=
  .note _ (.act _ (onlyKeys_bondKept (onlyKeys_applyKeys _ rep)) h)

lemma keysFlushOne (h : Serves P k w₀ w) : Serves P k w₀ (keysFlushOne b P w).2 := by
  unfold RemoteBridge.keysFlushOne
  split
  · exact h
  · next item _ _ =>
    have hsent : Serves P k w₀
        (RemoteBridge.outTryFrame b P (.key item) (w.srv.keyHeader item) item.buf w).2 :=
      h.outTryFrame _ _ _
    generalize RemoteBridge.outTryFrame b P (.key item) (w.srv.keyHeader item) item.buf w = r
      at hsent ⊢
    obtain ⟨sent, w₁⟩ := r
    cases sent with
    | false => exact hsent
    | true => exact hsent.keep _ rfl rfl rfl rfl

lemma mediaFlushOne (h : Serves P k w₀ w) : Serves P k w₀ (mediaFlushOne b P w).2 := by
  unfold RemoteBridge.mediaFlushOne
  split
  · exact h
  · split
    · exact h
    · split
      · exact h
      · next item _ _ _ =>
        have hsent : Serves P k w₀ (RemoteBridge.outTryFrame b P (.media item)
            (w.srv.mediaHeader item) item.payload w).2 := h.outTryFrame _ _ _
        generalize RemoteBridge.outTryFrame b P (.media item) (w.srv.mediaHeader item)
          item.payload w = r at hsent ⊢
        obtain ⟨sent, w₁⟩ := r
        cases sent with
        | false => exact hsent
        | true => exact .act _ (onlyVoice_bondKept (onlyVoice_popMedia _ item)) hsent

lemma flushTurn (h : Serves P k w₀ w) (turn : Turn) : Serves P k w₀ (flushTurn b P turn w).2 := by
  cases turn with
  | ctl => exact h.ctlPop
  | key => exact h.keysFlushOne
  | media => exact h.mediaFlushOne

lemma flushLoop (fuel ctlSent : Nat) (h : Serves P k w₀ w) :
    Serves P k w₀ (flushLoop b P fuel ctlSent w) := by
  induction fuel generalizing ctlSent w with
  | zero => exact h
  | succ fuel ih =>
    unfold RemoteBridge.flushLoop
    split
    · exact h
    · next turn _ =>
      have hturn : Serves P k w₀ (RemoteBridge.flushTurn b P turn w).2 := h.flushTurn turn
      generalize RemoteBridge.flushTurn b P turn w = r at hturn ⊢
      obtain ⟨sent, w₁⟩ := r
      cases sent with
      | false => exact hturn
      | true => exact ih _ hturn

lemma flushOutput (h : Serves P k w₀ w) : Serves P k w₀ (flushOutput b P w) :=
  (Serves.flushLoop _ _ (Serves.outDrain (.note _ h))).outDrain

/-! ## Voice -/

lemma sendDeviceState (h : Serves P k w₀ w) (connCtx : UInt32) :
    Serves P k w₀ (sendDeviceState b P connCtx w) :=
  h.ctlEnqueue _ _ _ _ _ _

lemma complete (h : Serves P k w₀ w) (d : OpDone) : Serves P k w₀ (w.complete d) :=
  .note _ (h.keep _ rfl rfl rfl rfl)

lemma opComplete (h : Serves P k w₀ w) (opId : UInt32) (result : Status) (peerId connectionId : UInt32)
    (uncertain : Bool) :
    Serves P k w₀ (opComplete b P opId result peerId connectionId uncertain w) :=
  (h.complete _).ctlEnqueue _ _ _ _ _ _

lemma mediaEnqueue (h : Serves P k w₀ w) (op : EventOp) (payload : List UInt8) :
    Serves P k w₀ (mediaEnqueue b P op payload w).2 := by
  have hflush : Serves P k w₀
      (if w.srv.mediaFull b payload.length then RemoteBridge.flushOutput b P w else w) := by
    split
    · exact h.flushOutput
    · exact h
  unfold RemoteBridge.mediaEnqueue
  dsimp only
  generalize (if w.srv.mediaFull b payload.length then RemoteBridge.flushOutput b P w else w) = w₁
    at hflush ⊢
  split
  · exact hflush
  · exact .note _ (hflush.keep _ rfl rfl rfl rfl)

lemma finishStream (h : Serves P k w₀ w) (reason : EndReason) (cut : Bool) :
    Serves P k w₀ (finishStream b P reason cut w) := by
  have hcut : Serves P k w₀ (if cut then w.act Server.mediaDiscardCurrent else w) := by
    split
    · exact h.keep _ rfl rfl rfl rfl
    · exact h
  unfold RemoteBridge.finishStream
  dsimp only
  generalize (if cut then w.act Server.mediaDiscardCurrent else w) = w₁ at hcut ⊢
  have hend : Serves P k w₀
      (RemoteBridge.mediaEnqueue b P .voiceEnded (w₁.srv.endTlv reason cut) w₁).2 :=
    hcut.mediaEnqueue _ _
  generalize RemoteBridge.mediaEnqueue b P .voiceEnded (w₁.srv.endTlv reason cut) w₁ = r at hend ⊢
  obtain ⟨ok, w₂⟩ := r
  cases ok with
  | false => exact hend.sessionTeardown
  | true => exact .act _ (onlyVoice_bondKept (onlyVoice_endQueued _ cut)) hend

lemma voiceFinishStream (h : Serves P k w₀ w) (reason : EndReason) (clearPending : Bool) :
    Serves P k w₀ (voiceFinishStream b P reason clearPending w) := by
  unfold RemoteBridge.voiceFinishStream
  split
  · exact h
  · split
    · exact h.finishStream _ _
    · split
      · exact h
      · exact h.finishStream _ _

lemma voiceFault (h : Serves P k w₀ w) (reason : EndReason) :
    Serves P k w₀ (voiceFault b P reason w) := by
  have hend : Serves P k w₀
      (RemoteBridge.voiceFinishStream b P reason true (w.act (Server.countFault reason))) :=
    (h.keep _ rfl rfl rfl rfl).voiceFinishStream _ _
  unfold RemoteBridge.voiceFault
  dsimp only
  generalize RemoteBridge.voiceFinishStream b P reason true (w.act (Server.countFault reason)) = w₁
    at hend ⊢
  have hstop : Serves P k w₀ (if w₁.srv.voice.sourceActive && !w₁.srv.voice.stopRequested then
      (invoke P .voiceRequestStop (w₁.act Server.requestStop)).1 else w₁) := by
    split
    · exact .call _ rfl (hend.keep _ rfl rfl rfl rfl)
    · exact hend
  split
  · exact (hstop.keep _ rfl rfl rfl rfl).sendDeviceState _
  · exact hstop

lemma queueFormat (h : Serves P k w₀ w) (f : AudioFormat) (start : Bool) :
    Serves P k w₀ (queueFormat b P f start w).2 := by
  unfold RemoteBridge.queueFormat
  split
  · exact h.voiceFault .unsupportedFormat
  · split
    · exact h.voiceFault .sourceDataLost
    · dsimp only
      generalize (if start = true then EventOp.voiceStarted else .voiceFormat) = op
      have hitem : Serves P k w₀ (RemoteBridge.mediaEnqueue b P op (w.srv.formatTlv f start) w).2 :=
        h.mediaEnqueue _ _
      generalize RemoteBridge.mediaEnqueue b P op (w.srv.formatTlv f start) w = r at hitem ⊢
      obtain ⟨ok, w₁⟩ := r
      cases ok with
      | false => exact hitem
      | true => exact hitem.keep _ rfl rfl rfl rfl

lemma onVoiceStart (h : Serves P k w₀ w) (f : AudioFormat) (nowMs : UInt32) :
    Serves P k w₀ (onVoiceStart b P f nowMs w) := by
  have hrate : Serves P k w₀ (w.act (Server.setSampleRate f.sampleRate)) := h.keep _ rfl rfl rfl rfl
  unfold RemoteBridge.onVoiceStart
  dsimp only
  generalize w.act (Server.setSampleRate f.sampleRate) = w₁ at hrate ⊢
  split
  · exact hrate.voiceFault _
  · split
    · exact .call _ rfl (hrate.keep _ rfl rfl rfl rfl)
    · have hcut : Serves P k w₀ (if w₁.srv.voice.delivering then
          RemoteBridge.voiceFinishStream b P .bufferOverrun true (w₁.act Server.countOverrun)
          else w₁) := by
        split
        · exact (hrate.keep _ rfl rfl rfl rfl).voiceFinishStream _ _
        · exact hrate
      generalize (if w₁.srv.voice.delivering then
        RemoteBridge.voiceFinishStream b P .bufferOverrun true (w₁.act Server.countOverrun)
        else w₁) = w₂ at hcut ⊢
      split
      · exact hcut.voiceFault _
      · split
        · exact hcut.sessionTeardown
        · have hformat : Serves P k w₀
              (RemoteBridge.queueFormat b P f true (w₂.act Server.openStream)).2 :=
            (hcut.keep _ rfl rfl rfl rfl).queueFormat _ _
          generalize RemoteBridge.queueFormat b P f true (w₂.act Server.openStream) = r
            at hformat ⊢
          obtain ⟨ok, w₃⟩ := r
          cases ok with
          | false => exact (hformat.keep _ rfl rfl rfl rfl).voiceFault _
          | true => exact hformat

lemma onVoiceFormat (h : Serves P k w₀ w) (f : AudioFormat) :
    Serves P k w₀ (onVoiceFormat b P f w) := by
  have hrate : Serves P k w₀ (w.act (Server.setSampleRate f.sampleRate)) := h.keep _ rfl rfl rfl rfl
  unfold RemoteBridge.onVoiceFormat
  dsimp only
  generalize w.act (Server.setSampleRate f.sampleRate) = w₁ at hrate ⊢
  split
  · have hformat : Serves P k w₀ (RemoteBridge.queueFormat b P f false w₁).2 := hrate.queueFormat _ _
    generalize RemoteBridge.queueFormat b P f false w₁ = r at hformat ⊢
    obtain ⟨ok, w₂⟩ := r
    cases ok with
    | true => exact hformat
    | false =>
      dsimp only
      split
      · exact hformat.voiceFault _
      · exact hformat
  · exact hrate

lemma encodedLoop (size samples : UInt32) (fuel : Nat) (data : List UInt8) (h : Serves P k w₀ w) :
    Serves P k w₀ (encodedLoop b P size samples fuel data w) := by
  induction fuel generalizing data w with
  | zero => exact h
  | succ fuel ih =>
    unfold RemoteBridge.encodedLoop
    split
    · exact h
    · split
      · exact h.voiceFault _
      · dsimp only
        have hitem : Serves P k w₀ (RemoteBridge.mediaEnqueue b P .voiceData
            (w.srv.dataPayload size samples (data.take 256)) w).2 := h.mediaEnqueue _ _
        generalize RemoteBridge.mediaEnqueue b P .voiceData
          (w.srv.dataPayload size samples (data.take 256)) w = r at hitem ⊢
        obtain ⟨ok, w₁⟩ := r
        cases ok with
        | false => exact hitem.voiceFault _
        | true => exact ih _ (.act _ (onlyVoice_bondKept (onlyVoice_dataQueued _ _ _ _)) hitem)

lemma onVoiceEncoded (h : Serves P k w₀ w) (data : List UInt8) (size offset samples nowMs : UInt32) :
    Serves P k w₀ (onVoiceEncoded b P data size offset samples nowMs w) := by
  have hseen : Serves P k w₀ (w.act (Server.audioSeen nowMs)) := h.keep _ rfl rfl rfl rfl
  unfold RemoteBridge.onVoiceEncoded
  split
  · exact h
  · dsimp only
    generalize w.act (Server.audioSeen nowMs) = w₁ at hseen ⊢
    split
    · exact hseen
    · split
      · exact hseen.voiceFault _
      · split
        · exact hseen.voiceFault _
        · exact (hseen.keep _ rfl rfl rfl rfl).encodedLoop _ _ _ _

lemma onVoice (h : Serves P k w₀ w) (ev : VoiceEvt) (nowMs : UInt32) :
    Serves P k w₀ (onVoice b P ev nowMs w) := by
  have hnow : Serves P k w₀ (w.act (Server.setNow nowMs)) := h.keep _ rfl rfl rfl rfl
  unfold RemoteBridge.onVoice
  dsimp only
  generalize w.act (Server.setNow nowMs) = w₁ at hnow ⊢
  cases ev with
  | sourceBegin => exact hnow.keep _ rfl rfl rfl rfl
  | start f => exact hnow.onVoiceStart _ _
  | format f => exact hnow.onVoiceFormat _
  | encoded data size offset samples => exact hnow.onVoiceEncoded _ _ _ _ _
  | fault reason => exact Serves.voiceFault (.note _ hnow) _
  | endOfStream reason => exact (hnow.keep _ rfl rfl rfl rfl).voiceFinishStream _ _

lemma onVoiceState (h : Serves P k w₀ w) (state : VoiceState) (interaction : VoiceInteraction)
    (rate : UInt32) : Serves P k w₀ (onVoiceState b P state interaction rate w) := by
  have happly : BondKept w.srv (w.srv.applyVoiceState state interaction rate) := by
    unfold Server.applyVoiceState
    dsimp only
    split <;> exact .of rfl rfl rfl rfl
  unfold RemoteBridge.onVoiceState
  dsimp only
  split
  · exact (Serves.act _ happly h).sendDeviceState _
  · exact h

/-! ## Callbacks -/

lemma leaveReady (h : Serves P k w₀ w) : Serves P k w₀ (leaveReady b P w) := by
  have hcut : Serves P k w₀ (if w.srv.voice.delivering then
      RemoteBridge.voiceFinishStream b P .linkLost true w else w) := by
    split
    · exact h.voiceFinishStream _ _
    · exact h
  exact (hcut.onKeys _).keep _ rfl rfl rfl rfl

lemma connectIfNew (h : Serves P k w₀ w) (state : LinkState) (proposed : UInt32) :
    Serves P k w₀ (connectIfNew state proposed w).2 := by
  unfold RemoteBridge.connectIfNew
  split
  · exact .note _ (h.keep _ rfl rfl rfl rfl)
  · exact h

lemma enterLink (h : Serves P k w₀ w) (old state : LinkState) (ctxId : UInt32) :
    Serves P k w₀ (enterLink b P old state ctxId w) := by
  have hset : Serves P k w₀ (w.act (Server.setLink state)) := h.keep _ rfl rfl rfl rfl
  unfold RemoteBridge.enterLink
  dsimp only
  generalize w.act (Server.setLink state) = w₁ at hset ⊢
  have hleft : Serves P k w₀
      (if old = .ready ∧ state ≠ .ready then RemoteBridge.leaveReady b P w₁ else w₁) := by
    split
    · exact hset.leaveReady
    · exact hset
  generalize (if old = .ready ∧ state ≠ .ready then RemoteBridge.leaveReady b P w₁ else w₁) = w₂
    at hleft ⊢
  split
  · exact (hleft.keep _ rfl rfl rfl rfl).sendDeviceState _
  · exact hleft.sendDeviceState _

lemma onLink (h : Serves P k w₀ w) (state : LinkState) (proposed nowMs : UInt32) :
    Serves P k w₀ (onLink b P state proposed nowMs w) := by
  have hnow : Serves P k w₀ (w.act (Server.setNow nowMs)) := h.keep _ rfl rfl rfl rfl
  unfold RemoteBridge.onLink
  dsimp only
  generalize w.act (Server.setNow nowMs) = w₁ at hnow ⊢
  generalize (if w₁.srv.readyWaits state then LinkState.initializing else state) = state'
  have hready : Serves P k w₀ (w₁.act (Server.notePairReady state)) := hnow.keep _ rfl rfl rfl rfl
  generalize w₁.act (Server.notePairReady state) = w₂ at hready ⊢
  exact (hready.connectIfNew state' proposed).enterLink _ _ _

lemma onLinkMessage (h : Serves P k w₀ w) (msg : List UInt8) : Serves P k w₀ (onLinkMessage msg w) :=
  h.keep _ rfl rfl rfl rfl

lemma onScanCandidate (h : Serves P k w₀ w) (cand : Candidate) :
    Serves P k w₀ (onScanCandidate cand w) := by
  unfold RemoteBridge.onScanCandidate
  split
  · exact h
  · exact h.keep _ rfl rfl rfl rfl

lemma onScanDone (h : Serves P k w₀ w) (reason : UInt8) (nowMs : UInt32) :
    Serves P k w₀ (onScanDone b P reason nowMs w) := by
  have hnow : Serves P k w₀ (w.act (Server.setNow nowMs)) := h.keep _ rfl rfl rfl rfl
  unfold RemoteBridge.onScanDone
  dsimp only
  generalize w.act (Server.setNow nowMs) = w₁ at hnow ⊢
  split
  · exact hnow
  · exact (hnow.keep _ rfl rfl rfl rfl).ctlEnqueue _ _ _ _ _ _

lemma onPairPrompt (h : Serves P k w₀ w) (method : PromptMethod) (number remainingMs : UInt32) :
    Serves P k w₀ (onPairPrompt b P method number remainingMs w) := by
  unfold RemoteBridge.onPairPrompt
  dsimp only
  split
  · exact h
  · split
    · exact h
    · exact ((Serves.draw h).keep _ rfl rfl rfl rfl).ctlEnqueue _ _ _ _ _ _

lemma completePair (h : Serves P k w₀ w) (status : Status) (uncertain : Bool) :
    Serves P k w₀ (completePair b P status uncertain w) := by
  unfold RemoteBridge.completePair
  split
  · next hop =>
    have hkind : w.srv.op.kind ≠ some .forget := by
      intro hk
      simp [hk] at hop
    exact (Serves.act _ (bondKept_endOp hkind) h).opComplete _ _ _ _ _
  · exact h

lemma publishPair (h : Serves P k w₀ w) (status : Status) (publishReady : Bool)
    (connectionId : UInt32) : Serves P k w₀ (publishPair b P status publishReady connectionId w) := by
  unfold RemoteBridge.publishPair
  split
  · split
    · exact h.onLink _ _ _
    · split
      · exact h.onLink _ _ _
      · exact h.sendDeviceState _
  · exact (h.keep _ rfl rfl rfl rfl).onLink _ _ _

/-- A pairing that failed does not touch the store. -/
lemma onPairDone_failed (h : Serves P k w₀ w) {status : Status} (hs : status ≠ .ok)
    (peer : Option PeerRecord) (connectionId : UInt32) :
    Serves P k w₀ (onPairDone b P status false peer connectionId w) := by
  have hreported : Serves P k w₀ (w.act Server.pairReported) := h.keep _ rfl rfl rfl rfl
  unfold RemoteBridge.onPairDone
  simp only [hs, false_and, if_false, commitPeer, ne_eq, not_false_eq_true, if_true]
  exact (hreported.completePair _ _).publishPair _ _ _

/-- A pairing that succeeded, from the saved record on. -/
lemma onPairDone_saved {peer : PeerRecord} (hp : peer.peerId ≠ 0) (connectionId : UInt32)
    (hr : (P.save { peer with autoReconnect := true } (w.act Server.pairReported)).1 = true) :
    Serves P k
      (({ w.act Server.pairReported with
          env := (P.save { peer with autoReconnect := true } (w.act Server.pairReported)).2 } :
        World E).act (Server.setPeer { peer with autoReconnect := true }))
      (onPairDone b P .ok true (some peer) connectionId w) := by
  have hne : (peer.peerId == 0) = false := beq_eq_false_iff_ne.mpr hp
  unfold RemoteBridge.onPairDone
  simp only [commitPeer, hne, hr, Bool.true_eq_false, and_false, if_false, ne_eq, not_true_eq_false,
    Bool.false_eq_true, if_true]
  exact ((Serves.refl _).completePair _ _).publishPair _ _ _

/-- A pairing that succeeded but could not be saved. -/
lemma onPairDone_unsaved {peer : PeerRecord} (hp : peer.peerId ≠ 0) (connectionId : UInt32)
    (hr : (P.save { peer with autoReconnect := true } (w.act Server.pairReported)).1 = false) :
    Serves P k
      { w.act Server.pairReported with
        env := (P.save { peer with autoReconnect := true } (w.act Server.pairReported)).2 }
      (onPairDone b P .ok true (some peer) connectionId w) := by
  have hne : (peer.peerId == 0) = false := beq_eq_false_iff_ne.mpr hp
  unfold RemoteBridge.onPairDone
  simp only [commitPeer, hne, hr, Bool.true_eq_false, and_false, if_false, ne_eq, not_true_eq_false,
    Bool.false_eq_true]
  exact ((Serves.refl _).completePair _ _).publishPair _ _ _

/-- The deletion of the server, if there is one, ends. -/
lemma endForget (h : Serves P k w₀ w) (hk : 2 ≤ k) (result : Status) (uncertain : Bool)
    (hd : uncertain = true ∨ w.srv.device.peerValid = false) :
    Serves P k w₀ (if w.srv.op.active && w.srv.op.kind == some .forget then
      RemoteBridge.opComplete b P (w.act Server.endOp).srv.op.id result 0 0 uncertain
        (w.act Server.endOp) else w) := by
  split
  · next hop =>
    have hforget : w.srv.forgetting := by simpa [Server.forgetting] using hop
    exact (Serves.closed hk _ hforget hd h).ctlEnqueue _ _ _ _ _ _
  · exact h

/-- A deletion that failed does not touch the store. -/
lemma onForgetDone_failed (h : Serves P k w₀ w) (hk : 2 ≤ k) {status : Status} (hs : status ≠ .ok) :
    Serves P k w₀ (onForgetDone b P status true w) := by
  have hend := h.endForget (b := b) hk status true (.inl rfl)
  unfold RemoteBridge.onForgetDone
  simp only [hs, if_false, if_true, ne_eq, not_false_eq_true]
  exact hend.sendDeviceState _

/-- A deletion that succeeded, from the cleared store on. -/
lemma onForgetDone_cleared (hP : Keeps P) (hk : 2 ≤ k) (hr : (P.clear w).1 = true) :
    Serves P k (({ w with env := (P.clear w).2 } : World E).act Server.forgetPeer)
      (onForgetDone b P .ok false w) := by
  unfold RemoteBridge.onForgetDone
  simp only [hr, if_true, ne_eq, not_true_eq_false, if_false]
  generalize hw : ({ w with env := (P.clear w).2 } : World E).act Server.forgetPeer = w₁
  have hgone : w₁.srv.device.peerValid = false := by rw [← hw]; rfl
  have hreact : Serves P 1 w₁ (RemoteBridge.onLink b P .unbound 0 w.srv.nowMs w₁) :=
    (Serves.refl _).onLink _ _ _
  have hlink : Serves P k w₁ (RemoteBridge.onLink b P .unbound 0 w.srv.nowMs w₁) :=
    (Serves.refl _).onLink _ _ _
  exact hlink.endForget hk _ _ (.inr ((hreact.bondKept hP le_rfl).valid.trans hgone))

/-- A deletion whose store could not be cleared. -/
lemma onForgetDone_uncleared (hk : 2 ≤ k) (hr : (P.clear w).1 = false) :
    Serves P k { w with env := (P.clear w).2 } (onForgetDone b P .ok false w) := by
  have hend := (Serves.refl (P := P) (k := k) { w with env := (P.clear w).2 }).endForget (b := b) hk
    .storageFailed true (.inl rfl)
  unfold RemoteBridge.onForgetDone
  simp only [hr, if_true, Bool.false_eq_true, if_false, ne_eq, reduceCtorEq, not_false_eq_true]
  exact hend.sendDeviceState _

lemma onBattery (h : Serves P k w₀ w) (level charging : UInt8) :
    Serves P k w₀ (onBattery b P level charging w) := by
  unfold RemoteBridge.onBattery
  split
  · exact (h.keep _ rfl rfl rfl rfl).sendDeviceState _
  · exact h

lemma setProfile (h : Serves P k w₀ w) (profile : Option DeviceProfile) :
    Serves P k w₀ (setProfile b P profile w) := by
  unfold RemoteBridge.setProfile
  split
  · exact h
  · exact Serves.sendDeviceState (.note _ (h.keep _ rfl rfl rfl rfl)) _

lemma setVoiceCaps (h : Serves P k w₀ w) (caps : Option AudioCaps) :
    Serves P k w₀ (setVoiceCaps caps w) :=
  h.keep _ rfl rfl rfl rfl

lemma adapterFailed (h : Serves P k w₀ w) (reason : List UInt8) :
    Serves P k w₀ (adapterFailed b P reason w) :=
  .call _ rfl ((h.keep _ rfl rfl rfl rfl).onLink _ _ _)

lemma onUsbGone (h : Serves P k w₀ w) (nowMs : UInt32) : Serves P k w₀ (onUsbGone b P nowMs w) := by
  have hdown : Serves P k w₀ (RemoteBridge.sessionTeardown b P (w.act (Server.setNow nowMs))) :=
    (h.keep _ rfl rfl rfl rfl).sessionTeardown
  exact (hdown.keep _ rfl rfl rfl rfl).keep _ rfl rfl rfl rfl

/-! ## Tick -/

lemma tickRx (h : Serves P k w₀ w) (nowMs : UInt32) : Serves P k w₀ (tickRx b P nowMs w) := by
  unfold RemoteBridge.tickRx
  dsimp only
  split
  · exact ((h.keep _ rfl rfl rfl rfl).keep _ rfl rfl rfl rfl).sessionTeardown
  · exact h.keep _ rfl rfl rfl rfl

lemma tickHeartbeat (h : Serves P k w₀ w) (nowMs : UInt32) :
    Serves P k w₀ (tickHeartbeat b P nowMs w) := by
  unfold RemoteBridge.tickHeartbeat
  split
  · exact h.sessionTeardown
  · exact h

lemma tickFind (h : Serves P k w₀ w) (nowMs : UInt32) : Serves P k w₀ (tickFind b P nowMs w) := by
  have hexpire := Serves.ite ((w.srv.find.active && timeReached nowMs w.srv.find.endMs) = true)
    ((Serves.call .stopFind rfl (h.keep Server.expireFind rfl rfl rfl rfl)).ctlEnqueue (b := b) kindEvent
      EventOp.findDone.code .ok 0 0 (findDoneTlv (invoke P .stopFind
        (w.act Server.expireFind)).1.srv.find.searchId FindDone.expired.code)) h
  exact .ite _ (hexpire.keep _ rfl rfl rfl rfl) hexpire

lemma tickPrompt (h : Serves P k w₀ w) (nowMs : UInt32) : Serves P k w₀ (tickPrompt P nowMs w) := by
  unfold RemoteBridge.tickPrompt
  split
  · exact (h.keep _ rfl rfl rfl rfl).requestPairCancel
  · exact h

/-- The deadline of an operation; what becomes of a deletion is uncertain then. -/
lemma tickOp (h : Serves P k w₀ w) (hk : 2 ≤ k) (nowMs : UInt32) :
    Serves P k w₀ (tickOp b P nowMs w) := by
  unfold RemoteBridge.tickOp
  split
  · next hop =>
    have hactive : w.srv.op.active = true := (Bool.and_eq_true_iff.mp hop).1
    dsimp only
    by_cases hkind : w.srv.op.kind = some .forget
    · have hkind' : (w.act Server.endOp).srv.op.kind = some .forget := hkind
      rw [if_neg (by rw [hkind']; simp)]
      exact (Serves.closed hk _ ⟨hactive, hkind⟩ (.inl rfl) h).ctlEnqueue _ _ _ _ _ _
    · have hend : Serves P k w₀ (w.act Server.endOp) := .act _ (bondKept_endOp hkind) h
      split
      · exact hend.requestPairCancel.opComplete _ _ _ _ _
      · exact hend.opComplete _ _ _ _ _
  · exact h

lemma tickSource (h : Serves P k w₀ w) (nowMs : UInt32) : Serves P k w₀ (tickSource b P nowMs w) := by
  unfold RemoteBridge.tickSource
  dsimp only
  split
  · exact h
  · split
    · exact .call _ rfl (((h.keep _ rfl rfl rfl rfl).voiceFinishStream _ _).sendDeviceState _)
    · split
      · exact .call _ rfl ((h.keep _ rfl rfl rfl rfl).keep _ rfl rfl rfl rfl)
      · split
        · split
          · exact h.voiceFault _
          · split
            · exact .call _ rfl
                (((h.keep _ rfl rfl rfl rfl).voiceFinishStream _ _).keep _ rfl rfl rfl rfl)
            · exact h
        · exact h

lemma tickDeferred (h : Serves P k w₀ w) : Serves P k w₀ (tickDeferred b P w) := by
  unfold RemoteBridge.tickDeferred
  split
  · exact h
  · split
    · exact (h.ctlEnqueue _ _ _ _ _ _).keep _ rfl rfl rfl rfl
    · exact h

lemma tick (h : Serves P k w₀ w) (hk : 2 ≤ k) (nowMs : UInt32) : Serves P k w₀ (tick b P nowMs w) := by
  have hnow : Serves P k w₀ (w.act (Server.setNow nowMs)) := h.keep _ rfl rfl rfl rfl
  exact (((((((hnow.tickRx nowMs).tickHeartbeat nowMs).tickFind nowMs).tickPrompt nowMs).tickOp hk
    nowMs).tickSource nowMs).tickDeferred).flushOutput

end Serves

end RemoteBridge
