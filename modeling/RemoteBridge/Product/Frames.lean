import RemoteBridge.Product.Turns

/-!
# The moves as far as frames are concerned

Most moves do not matter for the frames of a session.  `Frames b w w'` is a run of the steps that do: an
item is queued, a frame is sent, a session is torn down.  Everything else is one plain step, which may at
most drop queued keys and media items.  Every run of moves is such a run, so that an invariant about
frames has nine cases and not one for each move.
-/

namespace RemoteBridge

open World

variable {E : Type} (b : Build)

/-- The events that concern frames, order numbers or sessions. -/
def Ev.framed : Ev → Bool
  | .request _ _ _ | .answers _ _ _ | .deferred _ _ | .queued _ _ | .keys _ _ | .media _ _ _
  | .subscribed _ | .emitted _ _ _ | .refused _ _ | .opened _ _ | .closed _ | .parted _ _ => true
  | _ => false

/-- A change that queues nothing, sends nothing and keeps the session. -/
structure OffFrames (s s' : Server) : Prop where
  ctl : s'.ctl = s.ctl
  order : s'.orderCounter = s.orderCounter
  session : s'.session = s.session
  keys : s'.keys.queue ⊆ s.keys.queue
  media : s'.voice.media ⊆ s.voice.media
  deferred : s'.voice.okDeferred = s.voice.okDeferred

/-- A step that matters for frames. -/
inductive FrameStep : World E → World E → Prop
  | plain {w w' : World E} (l : List Ev) (hlog : w'.log = l ++ w.log)
      (hl : ∀ e ∈ l, e.framed = false) (hs : OffFrames w.srv w'.srv) : FrameStep w w'
  | keys {w : World E} (rep : KeysReport) : FrameStep w (onKeys rep w)
  | subscribe {w : World E} : FrameStep w w.subscribe
  | media {w : World E} (op : EventOp) (payload : List UInt8) (ha : w.srv.session.active = true) :
      FrameStep w (w.pushMedia op payload)
  | event {w : World E} (op : EventOp) (connectionId : UInt32) (payload : List UInt8)
      (hp : Reported w op payload) (hf : w.srv.ctlFits b payload.length = true) :
      FrameStep w (w.queue (w.srv.ctlSlotFor kindEvent op.code .ok 0 connectionId payload))
  | emitCtl {w : World E} (i : Nat) (slot : CtlSlot) (bytes : List UInt8) (next : UInt32)
      (hi : w.srv.ctl[i]? = some slot) (hu : slot.used = true)
      (ho : w.srv.ctlPeekOrder = some slot.order)
      (hs : Sendable b slot.header slot.payload w.srv bytes next) :
      FrameStep w ((w.emit b (.ctl slot) slot.header slot.payload bytes next).act (Server.freeSlot i))
  | emitKey {w : World E} (item : KeyItem) (rest : List KeyItem) (bytes : List UInt8) (next : UInt32)
      (hq : w.srv.keys.queue = item :: rest)
      (hs : Sendable b (w.srv.keyHeader item) item.buf w.srv bytes next) :
      FrameStep w ((w.emit b (.key item) (w.srv.keyHeader item) item.buf bytes next).act Server.popKey)
  | emitMedia {w : World E} (item : MediaItem) (rest : List MediaItem) (bytes : List UInt8)
      (next : UInt32) (ha : w.srv.session.active = true) (hq : w.srv.voice.media = item :: rest)
      (hs : Sendable b (w.srv.mediaHeader item) item.payload w.srv bytes next) :
      FrameStep w ((w.emit b (.media item) (w.srv.mediaHeader item) item.payload bytes next).act
        (Server.popMedia item))
  | withdraw {w : World E} : FrameStep w (w.withdraw b)

/-- A run of steps. -/
abbrev Frames : World E → World E → Prop := Relation.ReflTransGen (FrameStep b)

variable {b} {k : Nat} {w w' w'' : World E}

/-! ## Plain steps -/

lemma offFrames_refl (s : Server) : OffFrames s s :=
  ⟨rfl, rfl, rfl, List.Subset.refl _, List.Subset.refl _, rfl⟩

/-- A change of fields that no frame depends on. -/
lemma offFrames_of_eq {s s' : Server} (hc : s'.ctl = s.ctl) (ho : s'.orderCounter = s.orderCounter)
    (hs : s'.session = s.session) (hk : s'.keys.queue = s.keys.queue)
    (hm : s'.voice.media = s.voice.media) (hd : s'.voice.okDeferred = s.voice.okDeferred) :
    OffFrames s s' :=
  ⟨hc, ho, hs, hk ▸ List.Subset.refl _, hm ▸ List.Subset.refl _, hd⟩

lemma Quiet.offFrames {s s' : Server} (hq : Quiet s s') : OffFrames s s' := by
  have hfield {β : Type} (f : Voice → β) : f s'.voice.core = f s.voice.core := congrArg f hq.stream
  exact offFrames_of_eq hq.ctl hq.order hq.session (congrArg Keys.queue hq.keys)
    (hfield Voice.media) (hfield Voice.okDeferred)

lemma offFrames_settle (s : Server) (left : Bool) (state : LinkState) :
    OffFrames s (s.settle left state) := by
  unfold Server.settle
  cases left <;> cases state.down <;> exact offFrames_of_eq rfl rfl rfl rfl rfl rfl

lemma offFrames_endQueued (s : Server) (cut : Bool) : OffFrames s (s.endQueued cut) := by
  unfold Server.endQueued
  split <;> exact offFrames_of_eq rfl rfl rfl rfl rfl rfl

lemma offFrames_dataQueued (s : Server) (size samples : UInt32) (take : Nat) :
    OffFrames s (s.dataQueued size samples take) := by
  unfold Server.dataQueued
  dsimp only
  split <;> exact offFrames_of_eq rfl rfl rfl rfl rfl rfl

namespace Frames

lemma act (h : Frames b w w') (f : Server → Server) (hs : OffFrames w'.srv (f w'.srv)) :
    Frames b w (w'.act f) :=
  h.tail (.plain [] rfl (by simp) hs)

lemma note (h : Frames b w w') (e : Ev) (he : e.framed = false) : Frames b w (w'.note e) :=
  h.tail (.plain [e] rfl (by simpa using he) (offFrames_refl _))

lemma noted (h : Frames b w w') (f : Server → Server) (e : Ev) (he : e.framed = false)
    (hs : OffFrames w'.srv (f w'.srv)) : Frames b w ((w'.act f).note e) :=
  (h.act f hs).note e he

lemma push (h : Frames b w w') (op : EventOp) (payload : List UInt8) (f : Server → Server)
    (ha : w'.srv.session.active = true) (hf : ∀ s, OffFrames s (f s)) :
    Frames b w ((w'.pushMedia op payload).act f) :=
  Frames.act (h.tail (.media op payload ha)) f (hf _)

lemma announce (h : Frames b w w') (connCtx : UInt32) : Frames b w (w'.announce b connCtx) := by
  rcases announce_cases (b := b) connCtx w' with ⟨hf, heq⟩ | heq
  · rw [heq]
    exact h.tail (.event .deviceState connCtx _ .device hf)
  · rw [heq]
    exact Relation.ReflTransGen.tail (h.act _ (offFrames_of_eq rfl rfl rfl rfl rfl rfl)) .withdraw

lemma retires (h : Frames b w w') (hr : Retires w' w'') : Frames b w w'' := by
  have hend := h.act Server.endOp (offFrames_of_eq rfl rfl rfl rfl rfl rfl)
  cases hr with
  | plain _ => exact hend
  | cancel _ _ => exact Frames.noted hend _ _ rfl (offFrames_of_eq rfl rfl rfl rfl rfl rfl)

end Frames

/-- Moves are runs of steps. -/
lemma Moves.frames (h : Moves b k w w') : Frames b w w' := by
  have hsame : ∀ {s s' : Server}, s'.ctl = s.ctl → s'.orderCounter = s.orderCounter →
      s'.session = s.session → s'.keys.queue = s.keys.queue → s'.voice.media = s.voice.media →
      s'.voice.okDeferred = s.voice.okDeferred → OffFrames s s' := offFrames_of_eq
  induction h with
  | refl => exact .refl
  | send _ _ _ _ ih => exact ih.noted _ _ rfl (hsame rfl rfl rfl rfl rfl rfl)
  | flush _ _ ih => exact ih.note _ rfl
  | emitCtl _ i slot bytes next hi hu ho hs _ _ ih => exact ih.tail (.emitCtl i slot bytes next hi hu ho hs)
  | emitKey _ item rest bytes next hq _ hs _ ih => exact ih.tail (.emitKey item rest bytes next hq hs)
  | emitMedia _ item rest bytes next ha hq _ hs _ ih =>
    exact ih.tail (.emitMedia item rest bytes next ha hq hs)
  | pump _ _ _ _ ihf ih => exact ih.trans ihf
  | teardown _ _ ih ihr => exact Relation.ReflTransGen.trans (ih.tail .withdraw) ihr
  | keys _ rep _ ih => exact ih.tail (.keys rep)
  | discard _ _ _ ih =>
    exact ih.act _ ⟨rfl, rfl, rfl, List.Subset.refl _, (List.filter_sublist).subset, rfl⟩
  | cut _ _ _ _ _ ha _ ihf ih =>
    have hdiscard := ih.act Server.mediaDiscardCurrent
      ⟨rfl, rfl, rfl, List.Subset.refl _, (List.filter_sublist).subset, rfl⟩
    exact Frames.push (hdiscard.trans ihf) _ _ _ ha fun s => offFrames_endQueued s true
  | drain _ _ _ _ _ _ ha _ ihf ih =>
    exact Frames.push (ih.trans ihf) _ _ _ ha fun s => offFrames_endQueued s false
  | env _ _ _ ih => exact ih.tail (.plain [] rfl (by simp) (offFrames_refl _))
  | quiet _ _ hq _ ih => exact ih.act _ hq.offFrames
  | called _ _ _ _ _ ih => exact ih.note _ rfl
  | fault _ _ _ ih => exact ih.note _ rfl
  | event _ op conn payload hp hf _ ih => exact ih.tail (.event op conn payload hp hf)
  | @link _ w₀ _ w₁ _ _ state _ hn _ _ _ _ ihw ih =>
    have hnew : Frames b w₀ w₁ := by
      rcases hn with rfl | ⟨_, _, rfl⟩
      · exact ih
      · exact ih.noted _ _ rfl (hsame rfl rfl rfl rfl rfl rfl)
    have hset := hnew.act (Server.setLink state) (hsame rfl rfl rfl rfl rfl rfl)
    exact (Frames.act (hset.trans ihw) _ (offFrames_settle _ _ _)).announce _
  | profile _ _ _ _ ih => exact (ih.noted _ _ rfl (hsame rfl rfl rfl rfl rfl rfl)).announce _
  | start _ _ _ _ _ _ ha _ ihf ih =>
    have hopen := ih.act Server.openStream (hsame rfl rfl rfl rfl rfl rfl)
    exact Frames.push (hopen.trans ihf) _ _ _ ha fun _ => hsame rfl rfl rfl rfl rfl rfl
  | noStart _ _ _ _ _ _ _ ihf ih =>
    have hopen := ih.act Server.openStream (hsame rfl rfl rfl rfl rfl rfl)
    exact Frames.act (hopen.trans ihf) _ (hsame rfl rfl rfl rfl rfl rfl)
  | format _ _ _ _ _ _ _ _ ha _ ihf ih =>
    exact Frames.push (ih.trans ihf) _ _ _ ha fun _ => hsame rfl rfl rfl rfl rfl rfl
  | unit _ _ _ _ _ ih => exact ih.act _ (hsame rfl rfl rfl rfl rfl rfl)
  | fragment _ _ _ _ _ _ ha _ ihf ih =>
    exact Frames.push (ih.trans ihf) _ _ _ ha fun s => offFrames_dataQueued s _ _ _
  | resumeVoice _ _ _ ih => exact ih.act _ (hsame rfl rfl rfl rfl rfl rfl)
  | prompt _ _ _ _ _ _ _ _ ih => exact ih.act _ (hsame rfl rfl rfl rfl rfl rfl)
  | cancel _ _ _ _ ih => exact ih.noted _ _ rfl (hsame rfl rfl rfl rfl rfl rfl)
  | finish _ _ _ hv _ _ _ ihm ih =>
    exact Frames.noted ((ih.retires hv).trans ihm) _ _ rfl (hsame rfl rfl rfl rfl rfl rfl)
  | granted _ _ _ ih => exact ih.note _ rfl
  | enableEvents _ _ _ ih => exact ih.tail .subscribe
  | stopEvents _ _ ih =>
    exact ih.act _ ⟨rfl, rfl, rfl, List.nil_subset _, List.Subset.refl _, rfl⟩
  | beginFind _ _ _ _ _ ih => exact ih.act _ (hsame rfl rfl rfl rfl rfl rfl)
  | beginOp _ _ _ _ _ _ _ _ ih => exact ih.noted _ _ rfl (hsame rfl rfl rfl rfl rfl rfl)
  | enableVoice _ _ _ _ _ _ ih => exact ih.act _ (hsame rfl rfl rfl rfl rfl rfl)
  | disableVoice _ _ ih => exact ih.act _ (hsame rfl rfl rfl rfl rfl rfl)

end RemoteBridge
