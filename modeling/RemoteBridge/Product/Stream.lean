import RemoteBridge.Product.Pump

/-!
# Voice delivery as moves

The functions of `Voice.lean` decompose into moves.  Two facts about whole runs of moves are needed on
the way: nothing but a `HELLO` opens a session, so what the backend reports during a teardown finds no
session and opens no stream; and a pump that keeps the session leaves the source side of the stream as
it is.
-/

namespace RemoteBridge

open World

variable {E : Type} {b : Build} {P : Platform E} {k : Nat} {w w' : World E}

/-! ## Fields that an operation leaves alone -/

section Frames

variable (s : Server)

@[simp] lemma session_putCtl (slot : CtlSlot) : (s.putCtl slot).session = s.session := by
  unfold Server.putCtl
  split <;> rfl

@[simp] lemma voice_putCtl (slot : CtlSlot) : (s.putCtl slot).voice = s.voice := by
  unfold Server.putCtl
  split <;> rfl

@[simp] lemma keys_putCtl (slot : CtlSlot) : (s.putCtl slot).keys = s.keys := by
  unfold Server.putCtl
  split <;> rfl

@[simp] lemma device_putCtl (slot : CtlSlot) : (s.putCtl slot).device = s.device := by
  unfold Server.putCtl
  split <;> rfl

@[simp] lemma op_putCtl (slot : CtlSlot) : (s.putCtl slot).op = s.op := by
  unfold Server.putCtl
  split <;> rfl

@[simp] lemma find_putCtl (slot : CtlSlot) : (s.putCtl slot).find = s.find := by
  unfold Server.putCtl
  split <;> rfl

@[simp] lemma prompt_putCtl (slot : CtlSlot) : (s.putCtl slot).prompt = s.prompt := by
  unfold Server.putCtl
  split <;> rfl

@[simp] lemma out_putCtl (slot : CtlSlot) : (s.putCtl slot).out = s.out := by
  unfold Server.putCtl
  split <;> rfl

@[simp] lemma session_freeSlot (i : Nat) : (s.freeSlot i).session = s.session := by
  unfold Server.freeSlot
  split <;> rfl

@[simp] lemma voice_freeSlot (i : Nat) : (s.freeSlot i).voice = s.voice := by
  unfold Server.freeSlot
  split <;> rfl

@[simp] lemma keys_freeSlot (i : Nat) : (s.freeSlot i).keys = s.keys := by
  unfold Server.freeSlot
  split <;> rfl

@[simp] lemma device_freeSlot (i : Nat) : (s.freeSlot i).device = s.device := by
  unfold Server.freeSlot
  split <;> rfl

@[simp] lemma op_freeSlot (i : Nat) : (s.freeSlot i).op = s.op := by
  unfold Server.freeSlot
  split <;> rfl

@[simp] lemma find_freeSlot (i : Nat) : (s.freeSlot i).find = s.find := by
  unfold Server.freeSlot
  split <;> rfl

@[simp] lemma prompt_freeSlot (i : Nat) : (s.freeSlot i).prompt = s.prompt := by
  unfold Server.freeSlot
  split <;> rfl

@[simp] lemma out_freeSlot (i : Nat) : (s.freeSlot i).out = s.out := by
  unfold Server.freeSlot
  split <;> rfl

@[simp] lemma session_settle (left : Bool) (state : LinkState) :
    (s.settle left state).session = s.session := by
  unfold Server.settle
  cases left <;> cases state.down <;> rfl

@[simp] lemma out_settle (left : Bool) (state : LinkState) : (s.settle left state).out = s.out := by
  unfold Server.settle
  cases left <;> cases state.down <;> rfl

@[simp] lemma core_settle (left : Bool) (state : LinkState) :
    (s.settle left state).voice.core = s.voice.core := by
  unfold Server.settle
  cases left <;> cases state.down <;> rfl

@[simp] lemma delivering_settle (left : Bool) (state : LinkState) :
    (s.settle left state).voice.delivering = s.voice.delivering := by
  have hcore := congrArg Voice.delivering (core_settle s left state)
  exact hcore

/-- A change of the keys, the order counter and the statistics. -/
structure OnlyKeys (s s' : Server) : Prop where
  cfg : s'.cfg = s.cfg
  nowMs : s'.nowMs = s.nowMs
  out : s'.out = s.out
  ctl : s'.ctl = s.ctl
  ctlUsed : s'.ctlUsed = s.ctlUsed
  session : s'.session = s.session
  op : s'.op = s.op
  find : s'.find = s.find
  prompt : s'.prompt = s.prompt
  device : s'.device = s.device
  voice : s'.voice = s.voice

variable {s} in
lemma OnlyKeys.trans {s' s'' : Server} (h₁ : OnlyKeys s s') (h₂ : OnlyKeys s' s'') : OnlyKeys s s'' :=
  ⟨h₂.cfg.trans h₁.cfg, h₂.nowMs.trans h₁.nowMs, h₂.out.trans h₁.out, h₂.ctl.trans h₁.ctl,
    h₂.ctlUsed.trans h₁.ctlUsed, h₂.session.trans h₁.session, h₂.op.trans h₁.op,
    h₂.find.trans h₁.find, h₂.prompt.trans h₁.prompt, h₂.device.trans h₁.device,
    h₂.voice.trans h₁.voice⟩

lemma onlyKeys_refl : OnlyKeys s s := ⟨rfl, rfl, rfl, rfl, rfl, rfl, rfl, rfl, rfl, rfl, rfl⟩

lemma onlyKeys_bumpInput : OnlyKeys s s.bumpInput :=
  ⟨rfl, rfl, rfl, rfl, rfl, rfl, rfl, rfl, rfl, rfl, rfl⟩

lemma onlyKeys_setPressed (bits : UInt64) : OnlyKeys s (s.setPressed bits) :=
  ⟨rfl, rfl, rfl, rfl, rfl, rfl, rfl, rfl, rfl, rfl, rfl⟩

lemma onlyKeys_setCaptured (us : UInt64) : OnlyKeys s (s.setCaptured us) :=
  ⟨rfl, rfl, rfl, rfl, rfl, rfl, rfl, rfl, rfl, rfl, rfl⟩

lemma onlyKeys_keyPush {s s' : Server} {kind : KeysKind} {reason : KeysReason} {bits us : UInt64}
    (h : s.keyPush kind reason bits us = some s') : OnlyKeys s s' := by
  unfold Server.keyPush at h
  split at h
  · cases h
  · obtain rfl := Option.some.inj h
    exact ⟨rfl, rfl, rfl, rfl, rfl, rfl, rfl, rfl, rfl, rfl, rfl⟩

lemma onlyKeys_keyPush_getD (kind : KeysKind) (reason : KeysReason) (bits us : UInt64) :
    OnlyKeys s ((s.keyPush kind reason bits us).getD s) := by
  cases h : s.keyPush kind reason bits us with
  | none => exact onlyKeys_refl s
  | some s' => exact onlyKeys_keyPush h

lemma onlyKeys_keysOverflow (us : UInt64) : OnlyKeys s (s.keysOverflow us) := by
  have hclear : OnlyKeys s { s with
      keys := { s.keys with queue := [] },
      stats := s.stats.count .inputResets } :=
    ⟨rfl, rfl, rfl, rfl, rfl, rfl, rfl, rfl, rfl, rfl, rfl⟩
  exact (((hclear.trans (onlyKeys_bumpInput _)).trans (onlyKeys_keyPush_getD _ _ _ _ _)).trans
    (onlyKeys_bumpInput _)).trans (onlyKeys_keyPush_getD _ _ _ _ _)

lemma onlyKeys_keysEmit (kind : KeysKind) (reason : KeysReason) (bits us : UInt64) :
    OnlyKeys s (s.keysEmit kind reason bits us) := by
  unfold Server.keysEmit
  split
  · exact onlyKeys_refl s
  · cases h : s.keyPush kind reason bits us with
    | none => exact onlyKeys_keysOverflow s us
    | some s' => exact onlyKeys_keyPush h

lemma onlyKeys_applyKeys (rep : KeysReport) : OnlyKeys s (s.applyKeys rep) := by
  unfold Server.applyKeys
  split
  · exact (((onlyKeys_setPressed _ _).trans (onlyKeys_bumpInput _)).trans
      (onlyKeys_setCaptured _ _)).trans (onlyKeys_keysEmit _ _ _ _ _)
  · have hreset := ((onlyKeys_bumpInput s).trans (onlyKeys_setCaptured _ rep.capturedUs)).trans
      (onlyKeys_keysEmit _ .reset rep.reason 0 rep.capturedUs)
    dsimp only
    split
    · exact ((hreset.trans (onlyKeys_setPressed _ _)).trans (onlyKeys_bumpInput _)).trans
        (onlyKeys_keysEmit _ _ _ _ _)
    · exact hreset.trans (onlyKeys_setPressed _ _)
  · exact ((onlyKeys_setPressed _ _).trans (onlyKeys_setCaptured _ _)).trans
      (onlyKeys_keysEmit _ _ _ _ _)

lemma onlyKeys_enableEvents : OnlyKeys s s.enableEvents := by
  have henable : OnlyKeys s { s with keys := { s.keys with enabled := true } } :=
    ⟨rfl, rfl, rfl, rfl, rfl, rfl, rfl, rfl, rfl, rfl, rfl⟩
  exact henable.trans (onlyKeys_keysEmit _ _ _ _ _)

/-- A change of the voice alone. -/
structure OnlyVoice (s s' : Server) : Prop where
  cfg : s'.cfg = s.cfg
  nowMs : s'.nowMs = s.nowMs
  orderCounter : s'.orderCounter = s.orderCounter
  out : s'.out = s.out
  ctl : s'.ctl = s.ctl
  ctlUsed : s'.ctlUsed = s.ctlUsed
  session : s'.session = s.session
  op : s'.op = s.op
  find : s'.find = s.find
  prompt : s'.prompt = s.prompt
  device : s'.device = s.device
  keys : s'.keys = s.keys

lemma onlyVoice_popMedia (item : MediaItem) : OnlyVoice s (s.popMedia item) :=
  ⟨rfl, rfl, rfl, rfl, rfl, rfl, rfl, rfl, rfl, rfl, rfl, rfl⟩

lemma onlyVoice_dataQueued (size samples : UInt32) (take : Nat) :
    OnlyVoice s (s.dataQueued size samples take) := by
  unfold Server.dataQueued
  dsimp only
  split <;> exact ⟨rfl, rfl, rfl, rfl, rfl, rfl, rfl, rfl, rfl, rfl, rfl, rfl⟩

lemma onlyVoice_endQueued (cut : Bool) : OnlyVoice s (s.endQueued cut) := by
  unfold Server.endQueued
  split <;> exact ⟨rfl, rfl, rfl, rfl, rfl, rfl, rfl, rfl, rfl, rfl, rfl, rfl⟩

end Frames

/-! ## Sessions only end -/

@[simp] lemma active_withdraw (b : Build) (s : Server) : (s.withdraw b).session.active = false := by
  unfold Server.withdraw
  dsimp only [Server.stopDelivery, Server.ctlClear]
  split <;> rfl

@[simp] lemma delivering_withdraw (b : Build) (s : Server) : (s.withdraw b).voice.delivering = false := by
  unfold Server.withdraw
  dsimp only [Server.stopDelivery, Server.ctlClear]
  split <;> rfl

@[simp] lemma acceptedMaxUnit_withdraw (b : Build) (s : Server) :
    (s.withdraw b).voice.acceptedMaxUnit = 0 := by
  unfold Server.withdraw
  dsimp only [Server.stopDelivery, Server.ctlClear]
  split <;> rfl

/-- The state of the device is announced, or the session ends. -/
lemma announce_cases (connCtx : UInt32) (w : World E) :
    (w.srv.ctlFits b w.srv.deviceInfoTlv.length = true ∧
      w.announce b connCtx = w.queue (w.srv.deviceSlot connCtx)) ∨
    w.announce b connCtx = (w.act Server.protocolError).withdraw b := by
  unfold World.announce
  split
  · next hfits => exact .inl ⟨hfits, rfl⟩
  · exact .inr rfl

lemma inactive_announce {connCtx : UInt32} (h : w.srv.session.active = false) :
    (w.announce b connCtx).srv.session.active = false := by
  rcases announce_cases (b := b) connCtx w with ⟨_, heq⟩ | heq
  · simpa [heq, World.queue] using h
  · simp [heq, World.withdraw]

lemma log_announce_mono {l : List Ev} (connCtx : UInt32) (h : l ⊆ w.log) :
    l ⊆ (w.announce b connCtx).log := by
  rcases announce_cases (b := b) connCtx w with ⟨_, heq⟩ | heq
  · rw [heq]
    exact List.subset_cons_of_subset _ h
  · rw [heq]
    exact List.subset_cons_of_subset _ h

/-- Without a unit limit no codec is accepted. -/
lemma codecAccepted_eq_false {s : Server} (h : s.voice.acceptedMaxUnit = 0) (f : AudioFormat) :
    s.codecAccepted f = false := by
  by_contra haccept
  simp only [Bool.not_eq_false, Server.codecAccepted, Bool.and_eq_true, bne_iff_ne,
    decide_eq_true_eq, h] at haccept
  obtain ⟨⟨⟨⟨_, hne⟩, hle⟩, _⟩, _⟩ := haccept
  exact hne (UInt32.le_zero_iff.mp hle)

/-- An operation that is over leaves the rest of the server alone. -/
lemma Retires.session (h : Retires w w') : w'.srv.session = w.srv.session := by
  cases h <;> rfl

lemma Retires.voice (h : Retires w w') : w'.srv.voice = w.srv.voice := by
  cases h <;> rfl

lemma Retires.log_mono (h : Retires w w') : w.log ⊆ w'.log := by
  cases h with
  | plain _ => exact List.Subset.refl _
  | cancel _ _ => exact List.subset_cons_self _ _

/-- No move opens a session. -/
lemma Moves.inactive (h : Moves b k w w') (hw : w.srv.session.active = false) :
    w'.srv.session.active = false := by
  induction h with
  | refl => exact hw
  | send _ _ _ _ ih => exact ih hw
  | flush _ _ ih => exact ih hw
  | emitCtl _ _ _ _ _ _ _ _ _ _ _ ih => simpa [World.emit, Server.putFrame] using ih hw
  | emitKey _ _ _ _ _ _ _ _ _ ih => exact ih hw
  | emitMedia _ _ _ _ _ _ _ _ _ _ ih => exact ih hw
  | pump _ _ _ _ ihf ih => exact ihf (ih hw)
  | teardown _ _ _ ihr => exact ihr (by simp [World.withdraw])
  | keys _ rep _ ih => simpa [onKeys, (onlyKeys_applyKeys _ rep).session] using ih hw
  | discard _ _ _ ih => exact ih hw
  | cut _ _ _ _ _ ha _ ihf ih => exact absurd ha (by simp [ihf (ih hw)])
  | drain _ _ _ _ _ _ ha _ ihf ih => exact absurd ha (by simp [ihf (ih hw)])
  | env _ _ _ ih => exact ih hw
  | quiet _ _ hq _ ih => simpa [hq.session] using ih hw
  | called _ _ _ _ _ ih => exact ih hw
  | fault _ _ _ ih => exact ih hw
  | event _ _ _ _ _ _ _ ih => simpa [World.queue] using ih hw
  | @link _ _ _ w₁ _ _ _ _ hn _ _ _ _ ihw ih =>
    have hnew : w₁.srv.session.active = false := by
      rcases hn with rfl | ⟨_, _, rfl⟩ <;> exact ih hw
    exact inactive_announce (by simpa using ihw hnew)
  | profile _ _ _ _ ih => exact inactive_announce (ih hw)
  | start _ _ _ _ _ _ ha _ ihf ih => exact absurd ha (by simp [ihf (ih hw)])
  | noStart _ _ _ _ _ _ _ ihf ih => exact ihf (ih hw)
  | format _ _ _ _ _ _ _ _ ha _ ihf ih => exact absurd ha (by simp [ihf (ih hw)])
  | unit _ _ _ _ _ ih => exact ih hw
  | fragment _ _ _ _ _ _ ha _ ihf ih => exact absurd ha (by simp [ihf (ih hw)])
  | resumeVoice _ _ _ ih => exact ih hw
  | prompt _ _ _ _ _ _ _ _ ih => exact ih hw
  | cancel _ _ _ _ ih => exact ih hw
  | finish _ _ _ hv _ _ _ ihm ih => exact ihm (by rw [hv.session]; exact ih hw)
  | granted _ _ _ ih => exact ih hw
  | enableEvents _ _ _ ih => simpa [World.subscribe, (onlyKeys_enableEvents _).session] using ih hw
  | stopEvents _ _ ih => exact ih hw
  | beginFind _ _ _ _ _ ih => exact ih hw
  | beginOp _ _ _ _ _ _ _ _ ih => exact ih hw
  | enableVoice _ _ _ _ _ _ ih => exact ih hw
  | disableVoice _ _ ih => exact ih hw

/-- The log only grows. -/
lemma Moves.log_mono (h : Moves b k w w') : w.log ⊆ w'.log := by
  have hcons : ∀ {e : Ev} {l l' : List Ev}, l ⊆ l' → l ⊆ e :: l' :=
    fun hsub => List.Subset.trans hsub (List.subset_cons_self _ _)
  induction h with
  | refl => exact List.Subset.refl _
  | send _ _ _ _ ih => exact hcons ih
  | flush _ _ ih => exact hcons ih
  | emitCtl _ _ _ _ _ _ _ _ _ _ _ ih => exact hcons ih
  | emitKey _ _ _ _ _ _ _ _ _ ih => exact hcons ih
  | emitMedia _ _ _ _ _ _ _ _ _ _ ih => exact hcons ih
  | pump _ _ _ _ ihf ih => exact List.Subset.trans ih ihf
  | teardown _ _ ih ihr => exact List.Subset.trans (hcons ih) ihr
  | keys _ _ _ ih => exact hcons ih
  | discard _ _ _ ih => exact ih
  | cut _ _ _ _ _ _ _ ihf ih => exact hcons (List.Subset.trans ih ihf)
  | drain _ _ _ _ _ _ _ _ ihf ih => exact hcons (List.Subset.trans ih ihf)
  | env _ _ _ ih => exact ih
  | quiet _ _ _ _ ih => exact ih
  | called _ _ _ _ _ ih => exact hcons ih
  | fault _ _ _ ih => exact hcons ih
  | event _ _ _ _ _ _ _ ih => exact hcons ih
  | @link _ _ w w₁ _ _ _ _ hn _ _ _ _ ihw ih =>
    have hnew : w.log ⊆ w₁.log := by
      rcases hn with rfl | ⟨_, _, rfl⟩
      · exact List.Subset.refl _
      · exact hcons (List.Subset.refl _)
    exact log_announce_mono _ (List.Subset.trans (List.Subset.trans ih hnew) ihw)
  | profile _ _ _ _ ih => exact log_announce_mono _ (hcons ih)
  | start _ _ _ _ _ _ _ _ ihf ih => exact hcons (List.Subset.trans ih ihf)
  | noStart _ _ _ _ _ _ _ ihf ih => exact List.Subset.trans ih ihf
  | format _ _ _ _ _ _ _ _ _ _ ihf ih => exact hcons (List.Subset.trans ih ihf)
  | unit _ _ _ _ _ ih => exact ih
  | fragment _ _ _ _ _ _ _ _ ihf ih => exact hcons (List.Subset.trans ih ihf)
  | resumeVoice _ _ _ ih => exact ih
  | prompt _ _ _ _ _ _ _ _ ih => exact ih
  | cancel _ _ _ _ ih => exact hcons ih
  | finish _ _ _ hv _ _ _ ihm ih => exact hcons (List.Subset.trans (List.Subset.trans ih hv.log_mono) ihm)
  | granted _ _ _ ih => exact hcons ih
  | enableEvents _ _ _ ih => exact hcons ih
  | stopEvents _ _ ih => exact ih
  | beginFind _ _ _ _ _ ih => exact ih
  | beginOp _ _ _ _ _ _ _ _ ih => exact hcons ih
  | enableVoice _ _ _ _ _ _ ih => exact ih
  | disableVoice _ _ ih => exact ih

lemma Moves.active_of_active (h : Moves b k w w') (hw : w'.srv.session.active = true) :
    w.srv.session.active = true := by
  by_contra hn
  rw [h.inactive (by simpa using hn)] at hw
  cases hw

lemma Quiet.delivering {s s' : Server} (h : Quiet s s') :
    s'.voice.delivering = s.voice.delivering := by
  have hcore := congrArg Voice.delivering h.stream
  exact hcore

lemma delivering_popMedia {item : MediaItem} {s : Server}
    (h : (s.popMedia item).voice.delivering = true) : s.voice.delivering = true := by
  unfold Server.popMedia at h
  dsimp only at h
  split at h
  · unfold Voice.delivered at h
    split at h
    · dsimp only at h
      split at h <;> exact h
    all_goals first | exact h | cases h
  · exact h

lemma idle_announce {connCtx : UInt32} (h : w.srv.voice.delivering = false) :
    (w.announce b connCtx).srv.voice.delivering = false := by
  rcases announce_cases (b := b) connCtx w with ⟨_, heq⟩ | heq
  · simpa [heq, World.queue] using h
  · simp [heq, World.withdraw]

/-- Without a session no stream is opened. -/
lemma Moves.idle (h : Moves b k w w') (hw : w.srv.session.active = false)
    (hd : w.srv.voice.delivering = false) : w'.srv.voice.delivering = false := by
  induction h with
  | refl => exact hd
  | send _ _ _ _ ih => exact ih hw hd
  | flush _ _ ih => exact ih hw hd
  | emitCtl _ _ _ _ _ _ _ _ _ _ _ ih => simpa [World.emit, Server.putFrame] using ih hw hd
  | emitKey _ _ _ _ _ _ _ _ _ ih => exact ih hw hd
  | emitMedia _ item _ _ _ ha _ _ _ h _ => exact absurd ha (by simp [h.inactive hw])
  | pump _ hd' _ _ _ ih => exact absurd hd' (by simp [ih hw hd])
  | teardown _ _ _ ihr => exact ihr (by simp [World.withdraw]) (by simp [World.withdraw])
  | keys _ rep _ ih => simpa [onKeys, (onlyKeys_applyKeys _ rep).voice] using ih hw hd
  | discard _ hd' _ ih => exact absurd hd' (by simp [ih hw hd])
  | cut _ _ hd' _ _ _ _ _ ih => exact absurd hd' (by simp [ih hw hd])
  | drain _ _ hd' _ _ _ _ _ _ ih => exact absurd hd' (by simp [ih hw hd])
  | env _ _ _ ih => exact ih hw hd
  | quiet _ _ hq _ ih => simpa [hq.delivering] using ih hw hd
  | called _ _ _ _ _ ih => exact ih hw hd
  | fault _ _ _ ih => exact ih hw hd
  | event _ _ _ _ _ _ _ ih => simpa [World.queue] using ih hw hd
  | @link _ _ _ w₁ _ _ _ _ hn _ _ _ h ihw ih =>
    have hnew : w₁.srv.session.active = false ∧ w₁.srv.voice.delivering = false := by
      rcases hn with rfl | ⟨_, _, rfl⟩ <;> exact ⟨h.inactive hw, ih hw hd⟩
    exact idle_announce (by simpa using ihw hnew.1 hnew.2)
  | profile _ _ _ _ ih => exact idle_announce (ih hw hd)
  | start _ _ _ _ _ hf ha h _ _ => exact absurd ha (by simp [hf.inactive (h.inactive hw)])
  | noStart _ _ _ _ _ _ _ _ _ => rfl
  | format _ _ hd' _ _ _ _ _ _ _ _ ih => exact absurd hd' (by simp [ih hw hd])
  | unit _ _ _ _ _ ih => exact ih hw hd
  | fragment _ _ _ _ ht _ _ _ _ ih => exact absurd ht.delivering (by simp [ih hw hd])
  | resumeVoice _ _ _ ih => exact ih hw hd
  | prompt _ _ _ _ _ _ _ _ ih => exact ih hw hd
  | cancel _ _ _ _ ih => exact ih hw hd
  | finish _ _ _ hv _ _ h ihm ih =>
    exact ihm (by rw [hv.session]; exact h.inactive hw) (by rw [hv.voice]; exact ih hw hd)
  | granted _ _ _ ih => exact ih hw hd
  | enableEvents _ _ _ ih => simpa [World.subscribe, (onlyKeys_enableEvents _).voice] using ih hw hd
  | stopEvents _ _ ih => exact ih hw hd
  | beginFind _ _ _ _ _ ih => exact ih hw hd
  | beginOp _ _ _ _ _ _ _ _ ih => exact ih hw hd
  | enableVoice _ _ _ _ _ _ ih => exact ih hw hd
  | disableVoice _ _ ih => exact ih hw hd

@[simp] lemma media_withdraw (s : Server) : (s.withdraw b).voice.media = [] := by
  unfold Server.withdraw
  dsimp only [Server.stopDelivery, Server.ctlClear]
  split <;> rfl

lemma media_announce {connCtx : UInt32} (h : w.srv.voice.media = []) :
    (w.announce b connCtx).srv.voice.media = [] := by
  rcases announce_cases (b := b) connCtx w with ⟨_, heq⟩ | heq
  · simpa [heq, World.queue] using h
  · simp [heq, World.withdraw]

/-- Without a session no media is queued. -/
lemma Moves.idle_media (h : Moves b k w w') (hw : w.srv.session.active = false)
    (hm : w.srv.voice.media = []) : w'.srv.voice.media = [] := by
  induction h with
  | refl => exact hm
  | send _ _ _ _ ih => exact ih hw hm
  | flush _ _ ih => exact ih hw hm
  | emitCtl _ _ _ _ _ _ _ _ _ _ _ ih => simpa [World.emit, Server.putFrame] using ih hw hm
  | emitKey _ _ _ _ _ _ _ _ _ ih => exact ih hw hm
  | emitMedia _ item _ _ _ ha _ _ _ h _ => exact absurd ha (by simp [h.inactive hw])
  | pump _ _ _ h ihf ih => exact ihf (h.inactive hw) (ih hw hm)
  | teardown _ _ _ ihr => exact ihr (by simp [World.withdraw]) (by simp [World.withdraw])
  | keys _ rep _ ih => simpa [onKeys, (onlyKeys_applyKeys _ rep).voice] using ih hw hm
  | discard _ _ _ ih => simp [Server.mediaDiscardCurrent, ih hw hm]
  | cut _ _ _ _ hf ha h _ _ => exact absurd ha (by simp [hf.inactive (h.inactive hw)])
  | drain _ _ _ _ _ hf ha h _ _ => exact absurd ha (by simp [hf.inactive (h.inactive hw)])
  | env _ _ _ ih => exact ih hw hm
  | quiet _ _ hq _ ih =>
    have hsame := congrArg Voice.media hq.stream
    exact hsame.trans (ih hw hm)
  | called _ _ _ _ _ ih => exact ih hw hm
  | fault _ _ _ ih => exact ih hw hm
  | event _ _ _ _ _ _ _ ih => simpa [World.queue] using ih hw hm
  | @link _ _ _ w₁ w₂ _ state _ hn _ _ _ h ihw ih =>
    have hnew : w₁.srv.session.active = false ∧ w₁.srv.voice.media = [] := by
      rcases hn with rfl | ⟨_, _, rfl⟩ <;> exact ⟨h.inactive hw, ih hw hm⟩
    have hsettle (s : Server) (left : Bool) : (s.settle left state).voice.media = s.voice.media := by
      have hcore := congrArg Voice.media (core_settle s left state)
      exact hcore
    exact media_announce ((hsettle _ _).trans (ihw hnew.1 hnew.2))
  | profile _ _ _ _ ih => exact media_announce (ih hw hm)
  | start _ _ _ _ _ hf ha h _ _ => exact absurd ha (by simp [hf.inactive (h.inactive hw)])
  | noStart _ _ _ _ _ _ h ihf ih => exact ihf (h.inactive hw) (ih hw hm)
  | format _ _ _ _ _ _ _ hf ha h _ _ => exact absurd ha (by simp [hf.inactive (h.inactive hw)])
  | unit _ _ _ _ _ ih => exact ih hw hm
  | fragment _ _ _ _ _ hf ha h _ _ => exact absurd ha (by simp [hf.inactive (h.inactive hw)])
  | resumeVoice _ _ _ ih => exact ih hw hm
  | prompt _ _ _ _ _ _ _ _ ih => exact ih hw hm
  | cancel _ _ _ _ ih => exact ih hw hm
  | finish _ _ _ hv _ _ h ihm ih =>
    exact ihm (by rw [hv.session]; exact h.inactive hw) (by rw [hv.voice]; exact ih hw hm)
  | granted _ _ _ ih => exact ih hw hm
  | enableEvents _ _ _ ih => simpa [World.subscribe, (onlyKeys_enableEvents _).voice] using ih hw hm
  | stopEvents _ _ ih => exact ih hw hm
  | beginFind _ _ _ _ _ ih => exact ih hw hm
  | beginOp _ _ _ _ _ _ _ _ ih => exact ih hw hm
  | enableVoice _ _ _ _ _ _ ih => exact ih hw hm
  | disableVoice _ _ ih => exact ih hw hm

/-- A teardown leaves no session and no stream. -/
lemma sessionTeardown_idle (hP : Backend b P) (w : World E) :
    (sessionTeardown b P w).srv.session.active = false ∧
      (sessionTeardown b P w).srv.voice.delivering = false := by
  obtain ⟨w', hw', hr⟩ : ∃ w', w' = w.withdraw b ∧ Moves b 2 w' (sessionTeardown b P w) :=
    ⟨_, rfl, moves_reports hP w⟩
  have hactive : w'.srv.session.active = false := by simp [hw', World.withdraw]
  exact ⟨hr.inactive hactive, hr.idle hactive (by simp [hw', World.withdraw])⟩

/-! ## What a pump keeps -/

/-- The source side of the voice: what was delivered, the queue and the stream's standing are wiped. -/
def Voice.source (v : Voice) : Voice :=
  { v with
    deliveredSamples := 0, deliveredBytes := 0, deliveredUnits := 0, deliveredEpoch := 0, media := [],
    delivering := false, ending := false, streamId := 0 }

lemma source_popMedia (item : MediaItem) (s : Server) :
    (s.popMedia item).voice.source = s.voice.source := by
  unfold Server.popMedia
  dsimp only
  split
  · unfold Voice.delivered
    split
    · dsimp only
      split <;> rfl
    all_goals rfl
  · rfl

lemma ending_popMedia {item : MediaItem} {s : Server} (h : s.voice.ending = false) :
    (s.popMedia item).voice.ending = false := by
  unfold Server.popMedia
  dsimp only
  split
  · unfold Voice.delivered
    split
    · dsimp only
      split <;> exact h
    all_goals first | exact h | rfl
  · exact h

/-- A pump that keeps the session keeps the source side of the stream. -/
lemma Moves.pump_keeps (h : Moves b 0 w w') (ha : w'.srv.session.active = true) :
    w'.srv.voice.source = w.srv.voice.source ∧
      (w.srv.voice.ending = false → w'.srv.voice.ending = false) := by
  generalize hk : 0 = k at h
  induction h with
  | refl => exact ⟨rfl, id⟩
  | send _ _ _ _ ih => exact ih ha hk
  | flush _ _ ih => exact ih ha hk
  | emitCtl _ _ _ _ _ _ _ _ _ _ _ ih =>
    simp only [srv_act, World.emit, srv_note, session_freeSlot, Server.putFrame, voice_freeSlot] at ha ⊢
    exact ih ha hk
  | emitKey _ _ _ _ _ _ _ _ _ ih => exact ih ha hk
  | emitMedia _ item _ _ _ _ _ _ _ _ ih =>
    obtain ⟨hsource, hending⟩ := ih ha hk
    exact ⟨(source_popMedia item _).trans hsource, fun he => ending_popMedia (hending he)⟩
  | teardown _ hr _ _ => exact absurd ha (by simp [hr.inactive (by simp [World.withdraw])])
  | _ => omega

/-! ## Events -/

/-- A reason that cuts a stream is one that is not drained, unless the adapter reported a fault that is
none. -/
def Cuts (reason : EndReason) (w : World E) : Prop := reason.drains = false ∨ OddFault w.log

lemma moves_event (hP : Backend b P) (hk : 2 ≤ k) (op : EventOp) (connectionId : UInt32)
    (payload : List UInt8) (w : World E) (hp : Reported w op payload) :
    Moves b k w (ctlEnqueue b P kindEvent op.code .ok 0 connectionId payload w) := by
  have herror : Moves b k w (w.act Server.protocolError) :=
    .step_quiet hk _ (by constructor <;> simp [Server.protocolError])
  unfold ctlEnqueue
  split
  · exact herror.trans (moves_sessionTeardown hP _)
  · next hfits => exact .event hk op connectionId payload hp (by simpa using hfits) (.refl w)

lemma moves_sendDeviceState (hP : Backend b P) (hk : 2 ≤ k) (connCtx : UInt32) (w : World E) :
    Moves b k w (sendDeviceState b P connCtx w) :=
  moves_event hP hk .deviceState connCtx _ w .device

/-- An operation that is over is completed. -/
lemma moves_opComplete (hP : Backend b P) {v : World E} (ho : w.srv.op.active = true)
    (hv : Retires w v) (hm : Moves b 2 v w') (result : Status) (peerId connectionId : UInt32)
    (uncertain : Bool) :
    Moves b 2 w (opComplete b P w'.srv.op.id result peerId connectionId uncertain w') :=
  (Moves.finish le_rfl _ ho hv hm rfl (.refl w)).trans
    (moves_event hP le_rfl .operation connectionId _ _ (.operation _ _ _ rfl))

/-! ## Ending a stream -/

/-- `media_enqueue` pumps, and then queues the item or finds no room or no session. -/
lemma mediaEnqueue_cases (hP : Backend b P) (op : EventOp) (payload : List UInt8) (w : World E) :
    ∃ w', Moves b 0 w w' ∧ (mediaEnqueue b P op payload w = (false, w') ∨
      (w'.srv.session.active = true ∧ mediaEnqueue b P op payload w = (true, w'.pushMedia op payload))) := by
  have hpump : Moves b 0 w (if w.srv.mediaFull b payload.length then flushOutput b P w else w) :=
    .ite (moves_flushOutput hP w) (.refl w)
  refine ⟨_, hpump, ?_⟩
  unfold mediaEnqueue
  generalize (if w.srv.mediaFull b payload.length then flushOutput b P w else w) = v
  dsimp only
  split
  · exact .inl rfl
  · next hroom =>
    simp only [Bool.or_eq_true, Bool.not_eq_true', not_or] at hroom
    exact .inr ⟨by simpa using hroom.1, rfl⟩

lemma moves_finishStream_cut (hP : Backend b P) (hk : 1 ≤ k) {reason : EndReason}
    (hr : Cuts reason w) (hd : w.srv.voice.delivering = true) :
    Moves b k w (finishStream b P reason true w) := by
  unfold finishStream
  simp only [if_true]
  obtain ⟨w', hw', heq | ⟨ha, heq⟩⟩ := mediaEnqueue_cases hP .voiceEnded
    ((w.act Server.mediaDiscardCurrent).srv.endTlv reason true) (w.act Server.mediaDiscardCurrent)
  · rw [heq]
    have hdiscard : Moves b k w (w.act Server.mediaDiscardCurrent) := .discard hk hd (.refl w)
    exact (Moves.pump (w := w.act Server.mediaDiscardCurrent) hk hd hw' hdiscard).trans
      (moves_sessionTeardown hP w')
  · rw [heq]
    exact .cut hk reason hd hr hw' ha (.refl w)

lemma moves_finishStream_drain (hP : Backend b P) (hk : 1 ≤ k) (reason : EndReason)
    (hd : w.srv.voice.delivering = true) (he : w.srv.voice.ending = false)
    (hu : w.srv.voice.unitOffset = 0) : Moves b k w (finishStream b P reason false w) := by
  unfold finishStream
  simp only [Bool.false_eq_true, if_false]
  obtain ⟨w', hw', heq | ⟨ha, heq⟩⟩ := mediaEnqueue_cases hP .voiceEnded (w.srv.endTlv reason false) w
  · rw [heq]
    exact (Moves.pump hk hd hw' (.refl w)).trans (moves_sessionTeardown hP w')
  · rw [heq]
    exact .drain hk reason hd he hu hw' ha (.refl w)

lemma moves_voiceFinishStream (hP : Backend b P) (hk : 1 ≤ k) {reason : EndReason} {clear : Bool}
    (hr : clear = true → Cuts reason w) : Moves b k w (voiceFinishStream b P reason clear w) := by
  unfold voiceFinishStream
  split
  · exact .refl w
  · next hd =>
    simp only [Bool.not_eq_true', Bool.not_eq_false] at hd
    split
    · exact moves_finishStream_cut hP hk (.inl rfl) hd
    · next hunit =>
      split
      · exact .refl w
      · next hending =>
        cases clear with
        | true => exact moves_finishStream_cut hP hk (hr rfl) hd
        | false =>
          exact moves_finishStream_drain hP hk reason hd (by simpa using hending) (by simpa using hunit)

/-- A stream that is cut is gone. -/
lemma delivering_finishStream_cut (hP : Backend b P) (reason : EndReason) (w : World E) :
    (finishStream b P reason true w).srv.voice.delivering = false := by
  unfold finishStream
  dsimp only
  split
  · exact (sessionTeardown_idle hP _).2
  · rfl

lemma delivering_voiceFinishStream (hP : Backend b P) (reason : EndReason) (w : World E) :
    (voiceFinishStream b P reason true w).srv.voice.delivering = false := by
  unfold voiceFinishStream
  split
  · next hd => simpa using hd
  · simp only [Bool.not_true, Bool.false_and, Bool.and_false, Bool.false_eq_true, if_false]
    exact delivering_finishStream_cut hP reason w

/-- The log only grows, so an odd fault stays. -/
lemma Cuts.note {reason : EndReason} (h : Cuts reason w) (e : Ev) : Cuts reason (w.note e) := by
  rcases h with h | ⟨r, hr, hd⟩
  · exact .inl h
  · exact .inr ⟨r, List.mem_cons_of_mem _ hr, hd⟩

lemma moves_voiceFault (hP : Backend b P) {reason : EndReason} (hr : Cuts reason w) :
    Moves b 2 w (voiceFault b P reason w) := by
  have hgrows : w.srv.stats.Grows (w.srv.countFault reason).stats := by
    unfold Server.countFault
    dsimp only
    split
    · exact (Stats.Grows.count _ _).trans (.count _ _)
    · exact .count _ _
  have hcount : Moves b 2 w (w.act (Server.countFault reason)) :=
    .step_quiet le_rfl _ ⟨rfl, rfl, rfl, rfl, rfl, rfl, rfl, rfl, rfl, rfl, rfl, id, id, id, rfl, rfl, hgrows⟩
  have hfinish : Moves b 2 (w.act (Server.countFault reason))
      (voiceFinishStream b P reason true (w.act (Server.countFault reason))) :=
    moves_voiceFinishStream hP (by omega) fun _ => hr
  have hstop : ∀ v : World E, Moves b 2 v (if v.srv.voice.sourceActive && !v.srv.voice.stopRequested
      then (invoke P .voiceRequestStop (v.act Server.requestStop)).1 else v) := by
    intro v
    have hreq : Moves b 2 v (v.act Server.requestStop) :=
      .step_quiet le_rfl _ (by constructor <;> simp [Server.requestStop, Voice.core])
    exact .ite (hreq.trans (moves_invoke hP le_rfl _ rfl _)) (.refl v)
  have hlost : ∀ v : World E, Moves b 2 v (v.act (Server.voiceLost reason)) := fun v =>
    .step_quiet le_rfl _ (by constructor <;> simp [Server.voiceLost, Voice.core])
  unfold voiceFault
  dsimp only
  split
  · exact (((hcount.trans hfinish).trans (hstop _)).trans (hlost _)).trans
      (moves_sendDeviceState hP le_rfl _ _)
  · exact (hcount.trans hfinish).trans (hstop _)

/-! ## Opening and feeding a stream -/

/-- The format of a stream that has just been opened. -/
lemma queueFormat_open {f : AudioFormat} (hcodec : w.srv.codecAccepted f = true) :
    queueFormat b P f true (w.act Server.openStream) =
      match mediaEnqueue b P .voiceStarted (w.srv.openStream.formatTlv f true)
        (w.act Server.openStream) with
      | (false, w) => (false, w)
      | (true, w) => (true, w.act (Server.formatQueued f 1)) := by
  have hopen : (w.act Server.openStream).srv.codecAccepted f = true := hcodec
  unfold queueFormat
  rw [hopen]
  rfl

lemma moves_onVoiceStart (hP : Backend b P) (f : AudioFormat) (nowMs : UInt32) (w : World E) :
    Moves b 2 w (onVoiceStart b P f nowMs w) := by
  have hrate : Moves b 2 w (w.act (Server.setSampleRate f.sampleRate)) :=
    .step_quiet le_rfl _ (by constructor <;> simp [Server.setSampleRate])
  refine hrate.trans ?_
  unfold onVoiceStart
  generalize w.act (Server.setSampleRate f.sampleRate) = w
  dsimp only
  split
  · exact moves_voiceFault hP (.inl rfl)
  · split
    · have hstop : Moves b 2 w (w.act fun s => { s with voice := { s.voice with
          stopRequested := true, stopDeadlineMs := nowMs + voiceStopMs } }) :=
        .step_quiet le_rfl _ (by constructor <;> simp [Voice.core])
      exact hstop.trans (moves_invoke hP le_rfl _ rfl _)
    · -- a stream that is still open is cut first
      have hover : Moves b 2 w (if w.srv.voice.delivering then
          voiceFinishStream b P .bufferOverrun true (w.act Server.countOverrun) else w) := by
        have hcount : Moves b 2 w (w.act Server.countOverrun) :=
          .step_quiet le_rfl _ (by constructor <;> simp [Server.countOverrun])
        exact .ite (hcount.trans (moves_voiceFinishStream hP (by omega) fun _ => .inl rfl)) (.refl w)
      have hclosed : (if w.srv.voice.delivering then
          voiceFinishStream b P .bufferOverrun true (w.act Server.countOverrun)
            else w).srv.voice.delivering = false := by
        split
        · exact delivering_voiceFinishStream hP _ _
        · next hd => simpa using hd
      refine hover.trans ?_
      revert hclosed
      generalize (if w.srv.voice.delivering then
        voiceFinishStream b P .bufferOverrun true (w.act Server.countOverrun) else w) = w
      intro hd
      split
      · exact moves_voiceFault hP (.inl rfl)
      · next hcodec =>
        simp only [Bool.not_eq_true', Bool.not_eq_false] at hcodec
        split
        · exact moves_sessionTeardown hP w
        · next hid =>
          have hid' : w.srv.voice.nextStreamId ≠ 0xffffffff := by simpa using hid
          rw [queueFormat_open hcodec]
          obtain ⟨w', hw', heq | ⟨ha, heq⟩⟩ := mediaEnqueue_cases hP .voiceStarted
            (w.srv.openStream.formatTlv f true) (w.act Server.openStream)
          · rw [heq]
            exact (Moves.noStart le_rfl f hd hcodec hid' hw' (.refl w)).trans
              (moves_voiceFault hP (.inl rfl))
          · rw [heq]
            exact .start le_rfl f hd hcodec hid' hw' ha (.refl w)

lemma moves_queueFormat (hP : Backend b P) (f : AudioFormat) (hd : w.srv.voice.delivering = true)
    (he : w.srv.voice.ending = false) : Moves b 2 w (queueFormat b P f false w).2 := by
  unfold queueFormat
  split
  · show Moves b 2 w (voiceFault b P .unsupportedFormat w)
    exact moves_voiceFault hP (.inl rfl)
  · next hcodec =>
    simp only [Bool.not_eq_true', Bool.not_eq_false] at hcodec
    split
    · show Moves b 2 w (voiceFault b P .sourceDataLost w)
      exact moves_voiceFault hP (.inl rfl)
    · next hunit =>
      simp only [Bool.or_eq_true, bne_iff_ne, beq_iff_eq, not_or, not_not] at hunit
      obtain ⟨w', hw', heq | ⟨ha, heq⟩⟩ := mediaEnqueue_cases hP .voiceFormat (w.srv.formatTlv f false) w
      · simp only [Bool.false_eq_true, if_false, heq]
        exact .pump (by omega) hd hw' (.refl w)
      · simp only [Bool.false_eq_true, if_false, heq]
        exact .format le_rfl f hd he hcodec hunit.1 hunit.2 hw' ha (.refl w)

lemma moves_onVoiceFormat (hP : Backend b P) (f : AudioFormat) (w : World E) :
    Moves b 2 w (onVoiceFormat b P f w) := by
  have hrate : Moves b 2 w (w.act (Server.setSampleRate f.sampleRate)) :=
    .step_quiet le_rfl _ (by constructor <;> simp [Server.setSampleRate])
  refine hrate.trans ?_
  unfold onVoiceFormat
  generalize w.act (Server.setSampleRate f.sampleRate) = w
  dsimp only
  split
  · next hopen =>
    simp only [Bool.and_eq_true, Bool.not_eq_true'] at hopen
    have hqueue := moves_queueFormat hP f hopen.1 hopen.2
    split
    · next heq => simpa [heq] using hqueue
    · next heq =>
      simp only [heq] at hqueue
      refine hqueue.trans ?_
      split
      · exact moves_voiceFault hP (.inl rfl)
      · exact .refl _
  · exact .refl w

/-- What the fragment loop keeps while it has bytes left. -/
structure Voice.Feeding (v : Voice) (size samples : UInt32) (data : List UInt8) : Prop where
  not_ending : v.ending = false
  size_le : size ≤ v.formatMaxUnit
  same_size : size = v.unitSize
  same_samples : samples = v.unitSamples
  in_unit : data ≠ [] → v.unitOffset.toNat + data.length ≤ size.toNat
  units_ne : data ≠ [] → v.sourceUnits ≠ 0xffffffff

lemma toNat_add_ofNat {a size : UInt32} {n : Nat} (h : a.toNat + n ≤ size.toNat) :
    (a + UInt32.ofNat n).toNat = a.toNat + n := by
  have hsize := size.toNat_lt
  rw [UInt32.toNat_add, UInt32.toNat_ofNat']
  omega

/-- After a fragment the loop either has no bytes left or is still inside the unit. -/
lemma Voice.Feeding.next {v : Voice} {s : Server} {size samples : UInt32} {data : List UInt8}
    (h : v.Feeding size samples data) (hsource : s.voice.source = v.source)
    (hending : s.voice.ending = false) (hne : data ≠ []) :
    (s.dataQueued size samples (data.take 256).length).voice.Feeding size samples (data.drop 256) := by
  have hfield {β : Type} (g : Voice → β) : g s.voice.source = g v.source := congrArg g hsource
  have hmax : s.voice.formatMaxUnit = v.formatMaxUnit := hfield Voice.formatMaxUnit
  have hsize : s.voice.unitSize = v.unitSize := hfield Voice.unitSize
  have hsamples : s.voice.unitSamples = v.unitSamples := hfield Voice.unitSamples
  have hoffset : s.voice.unitOffset = v.unitOffset := hfield Voice.unitOffset
  have hunits : s.voice.sourceUnits = v.sourceUnits := hfield Voice.sourceUnits
  have hbound := h.in_unit hne
  have hlen : (data.take 256).length ≤ data.length := by simp
  have hadd : (s.voice.unitOffset + UInt32.ofNat (data.take 256).length).toNat =
      v.unitOffset.toNat + (data.take 256).length := by
    rw [hoffset]
    have hfits : v.unitOffset.toNat + (data.take 256).length ≤ size.toNat := by omega
    exact toNat_add_ofNat hfits
  unfold Server.dataQueued
  dsimp only
  split
  · next hfull =>
    -- the unit is complete, so the fragment took all that was left
    have hlast : data.drop 256 = [] := by
      have hnat : v.unitOffset.toNat + (data.take 256).length = size.toNat := by
        rw [← hadd, beq_iff_eq.mp hfull]
      have hsplit : (data.take 256).length + (data.drop 256).length = data.length := by
        simp only [List.length_take, List.length_drop]
        omega
      exact List.length_eq_zero_iff.mp (by omega)
    exact ⟨hending, hmax ▸ h.size_le, hsize ▸ h.same_size, hsamples ▸ h.same_samples,
      fun hrest => absurd hlast hrest, fun hrest => absurd hlast hrest⟩
  · refine ⟨hending, hmax ▸ h.size_le, hsize ▸ h.same_size, hsamples ▸ h.same_samples,
      fun _ => ?_, fun _ => ?_⟩
    · dsimp only
      rw [hadd]
      simp only [List.length_take, List.length_drop]
      omega
    · dsimp only
      rw [hunits]
      exact h.units_ne hne

lemma moves_encodedLoop (hP : Backend b P) (size samples : UInt32) (fuel : Nat) (data : List UInt8)
    (w : World E) (h : w.srv.voice.Feeding size samples data) :
    Moves b 2 w (encodedLoop b P size samples fuel data w) := by
  induction fuel generalizing data w with
  | zero => exact .refl w
  | succ fuel ih =>
    unfold encodedLoop
    split
    · exact .refl w
    · next hmore =>
      simp only [Bool.or_eq_true, decide_eq_true_eq, Bool.not_eq_true', not_or,
        Bool.not_eq_false] at hmore
      obtain ⟨hne, hd⟩ := hmore
      split
      · exact moves_voiceFault hP (.inl rfl)
      · next hframe =>
        have htakes : w.srv.voice.TakesFragment size samples (data.take 256) :=
          { delivering := hd
            not_ending := h.not_ending
            size_le := h.size_le
            nonempty := by simpa using hne
            length_le := by simp
            in_unit := by
              have hbound := h.in_unit hne
              simp only [List.length_take]
              omega
            frame_ne := by simpa using hframe
            units_ne := h.units_ne hne
            same_size := h.same_size
            same_samples := h.same_samples }
        dsimp only
        obtain ⟨w', hw', heq | ⟨ha, heq⟩⟩ := mediaEnqueue_cases hP .voiceData
          (w.srv.dataPayload size samples (data.take 256)) w
        · rw [heq]
          exact (Moves.pump (by omega) hd hw' (.refl w)).trans (moves_voiceFault hP (.inl rfl))
        · rw [heq]
          obtain ⟨hsource, hending⟩ := hw'.pump_keeps ha
          have hnext := h.next (s := (w'.pushMedia .voiceData
            (w.srv.dataPayload size samples (data.take 256))).srv) hsource (hending h.not_ending) hne
          exact (Moves.fragment le_rfl size samples _ htakes hw' ha (.refl w)).trans (ih _ _ hnext)

lemma moves_onVoiceEncoded (hP : Backend b P) (data : List UInt8) (size offset samples nowMs : UInt32)
    (w : World E) : Moves b 2 w (onVoiceEncoded b P data size offset samples nowMs w) := by
  unfold onVoiceEncoded
  split
  · exact .refl w
  · have hseen : Moves b 2 w (w.act (Server.audioSeen nowMs)) :=
      .step_quiet le_rfl _ (by constructor <;> simp [Server.audioSeen, Voice.core])
    refine hseen.trans ?_
    generalize w.act (Server.audioSeen nowMs) = w
    dsimp only
    split
    · exact .refl w
    · next hopen =>
      simp only [Bool.or_eq_true, Bool.not_eq_true', not_or, Bool.not_eq_false,
        Bool.not_eq_true] at hopen
      split
      · exact moves_voiceFault hP (.inl rfl)
      · next hmax =>
        split
        · exact moves_voiceFault hP (.inl rfl)
        · next hcont =>
          simp only [Bool.not_eq_true', Bool.not_eq_false, Voice.continues, Bool.and_eq_true,
            bne_iff_ne, beq_iff_eq, decide_eq_true_eq, Bool.or_eq_true] at hcont
          obtain ⟨⟨⟨⟨⟨⟨hne, hsize⟩, hoff⟩, hle⟩, hlen⟩, hsame⟩, hunits⟩ := hcont
          have hunit : w.srv.voice.SameUnit size samples := by
            rw [Voice.SameUnit, ← hoff]
            exact hsame
          refine (Moves.unit le_rfl size samples hunit (.refl w)).trans
            (moves_encodedLoop hP size samples _ data _ ?_)
          refine ⟨hopen.2, UInt32.not_lt.mp hmax, rfl, rfl, fun _ => ?_, fun _ => hunits⟩
          rw [UInt32.toNat_sub_of_le _ _ hle] at hlen
          have hle' : offset.toNat ≤ size.toNat := hle
          have hoff' : w.srv.voice.unitOffset.toNat = offset.toNat := by rw [hoff]
          simp only [srv_act, Server.setUnit]
          omega

lemma moves_onVoice (hP : Backend b P) (ev : VoiceEvt) (nowMs : UInt32) (w : World E) :
    Moves b 2 w (onVoice b P ev nowMs w) := by
  have hnow : Moves b 2 w (w.act (Server.setNow nowMs)) :=
    .step_quiet le_rfl _ (by constructor <;> simp [Server.setNow])
  refine hnow.trans ?_
  unfold onVoice
  generalize w.act (Server.setNow nowMs) = w
  cases ev with
  | sourceBegin => exact .step_quiet le_rfl _ (by constructor <;> simp [Server.sourceBegin, Voice.core])
  | start f => exact moves_onVoiceStart hP f nowMs w
  | format f => exact moves_onVoiceFormat hP f w
  | encoded data size offset samples => exact moves_onVoiceEncoded hP data size offset samples nowMs w
  | fault reason =>
    have hcuts : Cuts reason (w.note (.fault reason)) := by
      cases hr : reason.drains with
      | false => exact .inl hr
      | true => exact .inr ⟨reason, List.mem_cons_self, hr⟩
    exact (Moves.fault le_rfl reason (.refl w)).trans (moves_voiceFault hP hcuts)
  | endOfStream reason =>
    have hend : Moves b 2 w (w.act Server.sourceEnd) :=
      .step_quiet le_rfl _ (by constructor <;> simp [Server.sourceEnd, Voice.core])
    refine hend.trans (moves_voiceFinishStream hP (by omega) fun hclear => .inl ?_)
    simpa using hclear

end RemoteBridge
