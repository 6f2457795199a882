import RemoteBridge.Properties.SessionIdle

/-!
# Events are enabled only on a ready link

Key states flow only while a session is active, a connection has an id and the link is `READY`.  The link
loses `READY` in the middle of `rbp_server_on_link`, before the events are switched off; what happens in
between is a run of level 1, and the gate is weaker there.

The gate is a fact that several properties rest on: `SessionIdle`, `CausalOrder` and `KeyConvergence` all
use that an enabled subscription has a session and a connection.  It is kept here with a parameter `r`, which
is true except inside of that window.

`EVENTS_ENABLE(true)` queues its reply before it enables the events.  If the reply finds no room, the
session is torn down and the events are enabled without one; runs in which this has happened are excluded
(`Unsubscribed`).
-/

namespace RemoteBridge

open World

variable {E : Type} {b : Build} {k : Nat} {w w' : World E} {r r' : Prop}

/-- The gate of key events; while the link is being left, `r` is false. -/
structure Gated (r : Prop) (w : World E) : Prop where
  idle : w.srv.session.active = false → w.srv.keys.enabled = false ∧ w.srv.keys.queue = []
  connected : w.srv.keys.enabled = true → w.srv.device.connectionId ≠ 0
  ready : r → w.srv.keys.enabled = true → w.srv.device.linkState = .ready

variable (b) in
/-- The gate, unless a granted subscription found no room. -/
def Gates (r : Prop) (w : World E) : Prop := ¬ Unsubscribed b w.log → Gated r w

lemma Gated.weaken (h : Gated True w) : Gated r w :=
  { h with ready := fun _ => h.ready trivial }

/-! ## Steps -/

/-- A step that leaves events, queue and connection alone. -/
lemma Gates.next (hw : Gates b r w) (hlog : w.log ⊆ w'.log)
    (ha : w'.srv.session.active = false → w.srv.session.active = false)
    (hk : w'.srv.keys.enabled = true → w.srv.keys.enabled = true)
    (hq : w.srv.keys.enabled = false → w.srv.keys.queue = [] → w'.srv.keys.queue = [])
    (hc : w'.srv.device.connectionId = w.srv.device.connectionId)
    (hs : w'.srv.device.linkState = w.srv.device.linkState) : Gates b r w' := by
  intro hu
  have hgate := hw fun h => hu (h.mono hlog)
  refine ⟨fun hi => ?_, fun he => ?_, fun hr he => ?_⟩
  · obtain ⟨hoff, hempty⟩ := hgate.idle (ha hi)
    exact ⟨Bool.eq_false_iff.mpr fun he => Bool.eq_false_iff.mp hoff (hk he), hq hoff hempty⟩
  · rw [hc]
    exact hgate.connected (hk he)
  · rw [hs]
    exact hgate.ready hr (hk he)

lemma Gates.act (hw : Gates b r w) (f : Server → Server)
    (ha : (f w.srv).session.active = false → w.srv.session.active = false)
    (hk : (f w.srv).keys = w.srv.keys) (hd : (f w.srv).device = w.srv.device) :
    Gates b r (w.act f) := by
  refine hw.next (List.Subset.refl _) ha ?_ ?_ (congrArg Device.connectionId hd)
    (congrArg Device.linkState hd)
  · rw [srv_act, hk]
    exact id
  · rw [srv_act, hk]
    exact fun _ => id

lemma Gates.note (hw : Gates b r w) (e : Ev) : Gates b r (w.note e) :=
  hw.next (List.subset_cons_self _ _) id id (fun _ => id) rfl rfl

lemma Gates.emit (hw : Gates b r w) (origin : Origin) (h : Header) (payload bytes : List UInt8)
    (next : UInt32) : Gates b r (w.emit b origin h payload bytes next) :=
  (hw.act _ id rfl rfl).note _

lemma Gates.queue (hw : Gates b r w) (slot : CtlSlot) : Gates b r (w.queue slot) :=
  (hw.act _ (by simp) (by simp) (by simp)).note _

/-- Events are off. -/
lemma Gates.disabled (hw : Gates b r w) (hlog : w.log ⊆ w'.log) (he : w'.srv.keys.enabled = false)
    (hq : w'.srv.keys.queue = [] ∨ (w'.srv.keys.queue = w.srv.keys.queue ∧
      (w'.srv.session.active = false → w.srv.session.active = false))) : Gates b r' w' := by
  intro hu
  have hgate := hw fun h => hu (h.mono hlog)
  have hoff : w'.srv.keys.enabled = true → False := fun hen => nomatch he.symm.trans hen
  refine ⟨fun hi => ⟨he, ?_⟩, fun hen => (hoff hen).elim, fun _ hen => (hoff hen).elim⟩
  rcases hq with hq | ⟨hq, ha⟩
  · exact hq
  · exact hq.trans (hgate.idle (ha hi)).2

@[simp] lemma keys_withdraw (s : Server) :
    (s.withdraw b).keys = { s.keys with queue := [], enabled := false } := by
  unfold Server.withdraw
  dsimp only [Server.stopDelivery, Server.ctlClear]
  split <;> rfl

@[simp] lemma device_withdraw (s : Server) : (s.withdraw b).device = s.device := by
  unfold Server.withdraw
  dsimp only [Server.stopDelivery, Server.ctlClear]
  split <;> rfl

lemma Gates.withdraw (hw : Gates b r w) : Gates b r' (w.withdraw b) :=
  hw.disabled (List.subset_cons_self _ _) (by simp [World.withdraw]) (.inl (by simp [World.withdraw]))

lemma Gates.keys (hw : Gates b r w) (rep : KeysReport) : Gates b r (onKeys rep w) := by
  have hsame := onlyKeys_applyKeys w.srv rep
  have hoff {s : Server} (h : s.keys.enabled = false) : (s.applyKeys rep).keys.enabled ≠ true := by
    simp [(applyKeys_disabled h rep).1]
  refine hw.next (List.subset_cons_self _ _) ?_ (fun he => ?_) (fun hd hq => ?_) ?_ ?_
  · exact fun hi => hsame.session ▸ hi
  · by_contra hd
    exact hoff (Bool.eq_false_iff.mpr hd) he
  · exact (applyKeys_disabled hd rep).2.trans hq
  · exact congrArg Device.connectionId hsame.device
  · exact congrArg Device.linkState hsame.device

lemma gates_subscribe (ha : w.srv.session.active = true)
    (hl : w.srv.device.linkState = .ready) (hc : w.srv.device.connectionId ≠ 0) :
    Gates b r w.subscribe := by
  have hsame := onlyKeys_enableEvents w.srv
  refine fun _ => ⟨fun hi => ?_, fun _ => ?_, fun _ _ => ?_⟩
  · have hactive : w.subscribe.srv.session.active = w.srv.session.active :=
      congrArg Session.active hsame.session
    rw [hactive, ha] at hi
    cases hi
  · exact (congrArg Device.connectionId hsame.device).trans_ne hc
  · exact (congrArg Device.linkState hsame.device).trans hl

lemma Gates.connect (hw : Gates b r w) (hc : w.srv.device.connectionId = 0) (proposed : UInt32) :
    Gates b r (w.connected proposed) := by
  intro hu
  have hgate := hw fun h => hu (h.mono (List.subset_cons_self _ _))
  have hoff : w.srv.keys.enabled = true → False := fun he => hgate.connected he hc
  exact ⟨hgate.idle, fun he => (hoff he).elim, fun _ he => (hoff he).elim⟩

lemma Gates.setLink (hw : Gates b r w) (state : LinkState) (hr : r' → state = .ready) :
    Gates b r' (w.act (Server.setLink state)) := by
  intro hu
  have hgate := hw hu
  exact ⟨hgate.idle, hgate.connected, fun h _ => hr h⟩

@[simp] lemma queue_settle (s : Server) (left : Bool) (state : LinkState) :
    (s.settle left state).keys.queue = s.keys.queue := by
  unfold Server.settle
  cases left <;> cases state.down <;> rfl

@[simp] lemma pressedBits_settle (s : Server) (left : Bool) (state : LinkState) :
    (s.settle left state).keys.pressedBits = s.keys.pressedBits := by
  unfold Server.settle
  cases left <;> cases state.down <;> rfl

lemma enabled_settle (s : Server) (left : Bool) (state : LinkState) :
    (s.settle left state).keys.enabled = (!left && s.keys.enabled) := by
  unfold Server.settle
  cases left <;> cases state.down <;> rfl

/-- The link has its new state: it stays `READY`, or events are off. -/
lemma Gates.link {w₁ w₂ : World E} {state : LinkState} (hr : r) (hnew : Gates b r w₁)
    (hlink : w₁.srv.device.linkState = w.srv.device.linkState)
    (hs : w.srv.leaves state = false → w₂ = w₁.act (Server.setLink state)) (hw₂ : Gates b False w₂) :
    Gates b r (w₂.act (Server.settle (w.srv.leaves state) state)) := by
  cases hleaves : w.srv.leaves state with
  | true =>
    refine hw₂.disabled (List.Subset.refl _) ?_ (.inr ⟨?_, ?_⟩)
    · simp [enabled_settle]
    · simp
    · simp
  | false =>
    obtain rfl := hs hleaves
    by_cases hstate : state = .ready
    · subst hstate
      exact hnew.setLink _ fun _ => rfl
    · -- the link was not ready before, so events are off
      have hnot : w.srv.device.linkState ≠ .ready := fun hready => by
        simp [Server.leaves, hready, hstate] at hleaves
      intro hu
      have hoff : w₁.srv.keys.enabled = false := Bool.eq_false_iff.mpr fun he =>
        hnot (hlink ▸ (hnew hu).ready hr he)
      refine hw₂.disabled (List.Subset.refl _) ?_ (.inr ⟨?_, ?_⟩) hu
      · simpa [enabled_settle, Server.setLink] using hoff
      · simp
      · simp

lemma Gates.announce (hw : Gates b r w) (connCtx : UInt32) : Gates b r (w.announce b connCtx) := by
  rcases announce_cases (b := b) connCtx w with ⟨_, heq⟩ | heq
  · rw [heq]
    exact hw.queue _
  · rw [heq]
    exact (hw.act _ id rfl rfl).withdraw

lemma Gates.push (hw : Gates b r w) (op : EventOp) (payload : List UInt8) (f : Server → Server)
    (hf : ∀ s, (f s).session = s.session ∧ (f s).keys = s.keys ∧ (f s).device = s.device) :
    Gates b r ((w.pushMedia op payload).act f) := by
  have hpush : Gates b r (w.pushMedia op payload) := (hw.act _ id rfl rfl).note _
  refine hpush.act f ?_ (hf _).2.1 (hf _).2.2
  rw [(hf _).1]
  exact id

lemma Gates.retires (hw : Gates b r w) (hr : Retires w w') : Gates b r w' := by
  cases hr with
  | plain _ => exact hw.act _ id rfl rfl
  | cancel _ _ => exact ((hw.act _ id rfl rfl).act _ id rfl rfl).note _

/-! ## Runs -/

lemma Moves.gates (h : Moves b k w w') (hr : 2 ≤ k → r) (hw : Gates b r w) : Gates b r w' := by
  induction h generalizing r with
  | refl => exact hw
  | send _ _ _ _ ih => exact ((ih hr hw).act _ id rfl rfl).note _
  | flush _ _ ih => exact (ih hr hw).note _
  | emitCtl _ i _ _ _ _ _ _ _ _ _ ih =>
    exact ((ih hr hw).emit _ _ _ _ _).act _ (by simp) (by simp) (by simp)
  | emitKey _ _ _ _ _ hq _ _ _ ih =>
    exact ((ih hr hw).emit _ _ _ _ _).next (List.Subset.refl _) id id
      (fun _ h => congrArg List.tail h) rfl rfl
  | emitMedia _ item _ _ _ _ _ _ _ _ ih =>
    exact ((ih hr hw).emit _ _ _ _ _).act _ id rfl rfl
  | pump _ _ _ _ ihf ih => exact ihf (by omega) (ih hr hw)
  | teardown _ _ ih ihr => exact fun hu => (ihr (fun _ => trivial) (ih hr hw).withdraw hu).weaken
  | keys _ rep _ ih => exact (ih hr hw).keys rep
  | discard _ _ _ ih => exact (ih hr hw).act _ id rfl rfl
  | cut _ _ _ _ _ _ _ ihf ih =>
    refine (ihf (by omega) ((ih hr hw).act _ id rfl rfl)).push _ _ _ fun s => ?_
    exact ⟨(onlyVoice_endQueued s true).session, (onlyVoice_endQueued s true).keys,
      (onlyVoice_endQueued s true).device⟩
  | drain _ _ _ _ _ _ _ _ ihf ih =>
    refine (ihf (by omega) (ih hr hw)).push _ _ _ fun s => ?_
    exact ⟨(onlyVoice_endQueued s false).session, (onlyVoice_endQueued s false).keys,
      (onlyVoice_endQueued s false).device⟩
  | env _ _ _ ih => exact (ih hr hw).next (List.Subset.refl _) id id (fun _ => id) rfl rfl
  | quiet _ f hq _ ih =>
    refine (ih hr hw).next (List.Subset.refl _) (fun ha => hq.session ▸ ha) (fun he => hq.keys ▸ he)
      (fun _ h => ?_) hq.connection hq.link
    exact hq.keys ▸ h
  | called _ _ _ _ _ ih => exact (ih hr hw).note _
  | fault _ _ _ ih => exact (ih hr hw).note _
  | event _ _ _ _ _ _ _ ih => exact (ih hr hw).queue _
  | @link _ _ v v₁ v₂ hk state _ hn _ hs _ _ ihw ih =>
    have hold := ih hr hw
    have hnew : Gates b r v₁ ∧ v₁.srv.device.linkState = v.srv.device.linkState := by
      rcases hn with rfl | ⟨hc, _, rfl⟩
      · exact ⟨hold, rfl⟩
      · exact ⟨hold.connect hc _, rfl⟩
    -- the backend is told while the gate is shut
    have hwindow := ihw (by omega) (hnew.1.setLink state (False.elim : False → _))
    exact (hnew.1.link (hr hk) hnew.2 hs hwindow).announce _
  | profile _ p _ _ ih =>
    have hset : Gates b r (World.profiled p _) :=
      (ih hr hw).next (List.subset_cons_self _ _) id id (fun _ => id) rfl rfl
    exact hset.announce _
  | start _ _ _ _ _ _ _ _ ihf ih =>
    exact (ihf (by omega) ((ih hr hw).act _ id rfl rfl)).push _ _ _ fun _ => ⟨rfl, rfl, rfl⟩
  | noStart _ _ _ _ _ _ _ ihf ih =>
    exact (ihf (by omega) ((ih hr hw).act _ id rfl rfl)).act _ id rfl rfl
  | format _ _ _ _ _ _ _ _ _ _ ihf ih =>
    exact (ihf (by omega) (ih hr hw)).push _ _ _ fun _ => ⟨rfl, rfl, rfl⟩
  | unit _ _ _ _ _ ih => exact (ih hr hw).act _ id rfl rfl
  | fragment _ _ _ _ _ _ _ _ ihf ih =>
    refine (ihf (by omega) (ih hr hw)).push _ _ _ fun s => ?_
    exact ⟨(onlyVoice_dataQueued s _ _ _).session, (onlyVoice_dataQueued s _ _ _).keys,
      (onlyVoice_dataQueued s _ _ _).device⟩
  | resumeVoice _ _ _ ih => exact (ih hr hw).act _ id rfl rfl
  | prompt _ _ _ _ _ _ _ _ ih => exact (ih hr hw).act _ id rfl rfl
  | cancel _ _ _ _ ih => exact ((ih hr hw).act _ id rfl rfl).note _
  | finish hk _ _ hv _ _ _ ihm ih =>
    exact ((ihm (fun _ => hr hk) ((ih hr hw).retires hv)).act _ id rfl rfl).note _
  | granted _ _ _ ih => exact (ih hr hw).note _
  | enableEvents _ hg _ ih =>
    rcases hg with ⟨ha, hl, hc, _⟩ | hung
    · exact gates_subscribe ha hl hc
    · exact fun hu => absurd (hung.mono (List.subset_cons_self _ _)) hu
  | stopEvents _ _ ih => exact (ih hr hw).disabled (List.Subset.refl _) rfl (.inl rfl)
  | beginFind _ _ _ _ _ ih => exact (ih hr hw).act _ id rfl rfl
  | beginOp _ _ _ _ _ _ _ _ ih => exact ((ih hr hw).act _ id rfl rfl).note _
  | enableVoice _ _ _ _ _ _ ih => exact (ih hr hw).act _ id rfl rfl
  | disableVoice _ _ ih => exact (ih hr hw).act _ id rfl rfl

lemma Answer.gates {h : Header} (ha : Answer b h w w') (hw : Gates b True w) : Gates b True w' := by
  have hmoves : ∀ {v v' : World E}, Moves b 2 v v' → Gates b True v → Gates b True v' :=
    fun hm => hm.gates fun _ => trivial
  have hkeep : ∀ {v : World E} (s : Server), Gates b True v → Gates b True (v.keepCommitted s h) :=
    fun _ hv => ((hv.act _ id rfl rfl).note _).note _
  have hpatch : ∀ {v : World E} (closing : UInt32), Gates b True v →
      Gates b True (v.act (Server.patchSlotZero closing)) := by
    intro v closing hv
    have hsame : (v.srv.patchSlotZero closing).session = v.srv.session ∧
        (v.srv.patchSlotZero closing).keys = v.srv.keys ∧
        (v.srv.patchSlotZero closing).device = v.srv.device := by
      unfold Server.patchSlotZero
      split <;> exact ⟨rfl, rfl, rfl⟩
    exact hv.act _ (by rw [hsame.1]; exact id) hsame.2.1 hsame.2.2
  cases ha with
  | reply status payload _ _ => exact (hw.note _).queue _
  | full len _ hr => exact hmoves hr ((hw.note _).act _ id rfl rfl).withdraw
  | deferred _ => exact (hw.act _ id rfl rfl).note _
  | goodbye _ hr _ => exact hpatch _ ((hkeep _ (hmoves hr hw.withdraw)).queue _)
  | goodbyeFull _ hr _ hr' =>
    exact hpatch _ (hmoves hr' ((hkeep _ (hmoves hr hw.withdraw)).act _ id rfl rfl).withdraw)

/-- A new session starts with events off. -/
lemma Gates.greet (hw : Gates b r w) (ha : w.srv.session.active = false) (h : Header) :
    Gates b r (w.greet h) := by
  intro hu
  have hgate := hw fun h => hu (h.mono (List.subset_cons_self _ _))
  have hoff : w.srv.keys.enabled = true → False := fun he => nomatch (hgate.idle ha).1.symm.trans he
  exact ⟨fun hi => (nomatch hi), fun he => (hoff he).elim, fun _ he => (hoff he).elim⟩

lemma Turns.gates {g : Prop} (h : Turns b g w w') (hw : Gates b True w) : Gates b True w' := by
  induction h with
  | refl => exact hw
  | moves hm _ ih => exact hm.gates (fun _ => trivial) ih
  | pump hm _ ih => exact hm.gates (fun _ => trivial) ih
  | seq _ _ _ ih => exact ih.act _ id rfl rfl
  | request hd payload _ hh _ ih =>
    obtain ⟨w₁, w₂, h₁, ha, h₂⟩ := hh
    have haccept : Gates b True (World.accept hd payload _) := (ih.act _ id rfl rfl).note _
    exact h₂.gates (fun _ => trivial) (ha.gates (h₁.gates (fun _ => trivial) haccept))
  | refuse _ _ _ _ _ _ _ ih => exact (ih.note _).queue _
  | refuseFull _ _ _ _ ih => exact ih.note _
  | raw _ _ _ _ _ ih => exact (ih.act _ id rfl rfl).note _
  | hello hd _ ha _ _ _ _ _ ih => exact (ih.greet ha hd).queue _
  | helloFull hd _ ha _ _ _ _ _ ih => exact ih.greet ha hd
  | exhausted _ _ ha _ _ _ ih =>
    exact ((ih.act _ (fun _ => ha) rfl rfl).act _ id rfl rfl).queue _
  | exhaustedFull _ ha _ _ ih => exact (ih.act _ (fun _ => ha) rfl rfl).act _ id rfl rfl
  | deferred _ _ _ _ _ _ _ ih => exact (ih.queue _).act _ id rfl rfl
  | forget _ _ ih => exact ih.act _ id rfl rfl
  | gone _ _ _ ih => exact (ih.act _ id rfl rfl).act _ id rfl rfl

lemma gates_init (cfg : Config) (profile : Option DeviceProfile) (loaded : Option PeerRecord)
    (env : E) :
    Gates b True ({ srv := Server.init b cfg profile loaded, env := env, log := [] } : World E) :=
  fun _ => ⟨fun _ => ⟨rfl, rfl⟩, nofun, fun _ => nofun⟩

end RemoteBridge
