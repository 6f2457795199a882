import RemoteBridge.Product.Steps

/-!
# Operations between requests

Only a request begins an operation.  Between requests the operation of the server keeps its id and its
kind, and once it is over it stays over: nothing that the radio reports brings it back or completes it
again.
-/

namespace RemoteBridge

open World

variable {E : Type} {b : Build} {k : Nat} {w w' w'' : World E}

/-- An operation is completed. -/
def Ev.completes : Ev → Bool
  | .completed _ _ => true
  | _ => false

/-- What happens to an operation while no request begins one. -/
structure OpKept (w w' : World E) : Prop where
  kind : w'.srv.op.kind = w.srv.op.kind
  id : w'.srv.op.id = w.srv.op.id
  idle : w.srv.op.active = false → w'.srv.op.active = false
  done : w.srv.op.active = false → w.srv.op.done = [] → w'.srv.op.done = []
  log : ∃ l, w'.log = l ++ w.log ∧
    ∀ e ∈ l, e.starts = false ∧ (w.srv.op.active = false → e.completes = false)

namespace OpKept

lemma refl (w : World E) : OpKept w w := ⟨rfl, rfl, fun h => h, fun _ h => h, [], rfl, by simp⟩

lemma trans (h₁ : OpKept w w') (h₂ : OpKept w' w'') : OpKept w w'' := by
  obtain ⟨l₁, hl₁, hp₁⟩ := h₁.log
  obtain ⟨l₂, hl₂, hp₂⟩ := h₂.log
  refine ⟨h₂.kind.trans h₁.kind, h₂.id.trans h₁.id, fun h => h₂.idle (h₁.idle h),
    fun h hd => h₂.done (h₁.idle h) (h₁.done h hd), l₂ ++ l₁, ?_, fun e he => ?_⟩
  · rw [hl₂, hl₁, List.append_assoc]
  · rcases List.mem_append.mp he with he | he
    · exact ⟨(hp₂ e he).1, fun h => (hp₂ e he).2 (h₁.idle h)⟩
    · exact hp₁ e he

/-- A step that leaves the operation alone. -/
lemma next {l : List Ev} (h : OpKept w w') (hop : w''.srv.op = w'.srv.op) (hlog : w''.log = l ++ w'.log)
    (hl : ∀ e ∈ l, e.starts = false ∧ e.completes = false) : OpKept w w'' := by
  have hstep : OpKept w' w'' := by
    refine ⟨by rw [hop], by rw [hop], ?_, ?_, l, hlog, fun e he => ⟨(hl e he).1, fun _ => (hl e he).2⟩⟩
    · rw [hop]
      exact fun ha => ha
    · rw [hop]
      exact fun _ hd => hd
  exact h.trans hstep

lemma act (h : OpKept w w') (f : Server → Server) (hop : (f w'.srv).op = w'.srv.op) :
    OpKept w (w'.act f) :=
  h.next (l := []) hop rfl (by simp)

lemma note (h : OpKept w w') (e : Ev) (hb : e.starts = false) (hc : e.completes = false) :
    OpKept w (w'.note e) :=
  h.next (l := [e]) rfl rfl (by simp [hb, hc])

lemma queue (h : OpKept w w') (slot : CtlSlot) : OpKept w (w'.queue slot) :=
  (h.act _ (op_putCtl _ slot)).note _ rfl rfl

lemma emit (h : OpKept w w') (origin : Origin) (hd : Header) (payload bytes : List UInt8)
    (next : UInt32) : OpKept w (w'.emit b origin hd payload bytes next) :=
  (h.act _ rfl).note _ rfl rfl

lemma push (h : OpKept w w') (op : EventOp) (payload : List UInt8) (f : Server → Server)
    (hf : ∀ s, (f s).op = s.op) : OpKept w ((w'.pushMedia op payload).act f) := by
  have hpush : OpKept w (w'.pushMedia op payload) :=
    h.next (l := [_]) rfl rfl (by simp [Ev.starts, Ev.completes])
  exact hpush.act f (hf _)

lemma op_withdraw (s : Server) : (s.withdraw b).op =
    { s.op with active := s.op.active && s.op.kind != some .pair, done := [] } := by
  unfold Server.withdraw
  dsimp only [Server.stopDelivery, Server.ctlClear]
  split <;> rfl

lemma withdraw (h : OpKept w w') : OpKept w (w'.withdraw b) := by
  have hop := op_withdraw (b := b) w'.srv
  have hstep : OpKept w' (w'.withdraw b) := by
    refine ⟨?_, ?_, fun ha => ?_, fun _ _ => ?_, [.closed w'.srv], rfl, by simp [Ev.starts, Ev.completes]⟩
    · simp [World.withdraw, hop]
    · simp [World.withdraw, hop]
    · simp [World.withdraw, hop, ha]
    · simp [World.withdraw, hop]
  exact h.trans hstep

lemma announce (h : OpKept w w') (connCtx : UInt32) : OpKept w (w'.announce b connCtx) := by
  rcases announce_cases (b := b) connCtx w' with ⟨_, heq⟩ | heq
  · rw [heq]
    exact h.queue _
  · rw [heq]
    exact (h.act _ rfl).withdraw

lemma op_settle (s : Server) (left : Bool) (state : LinkState) : (s.settle left state).op = s.op := by
  unfold Server.settle
  cases left <;> cases state.down <;> rfl

lemma quiet (h : OpKept w w') {f : Server → Server} (hq : Quiet w'.srv (f w'.srv)) :
    OpKept w (w'.act f) := by
  have hfield {β : Type} (g : Operation → β) :
      g { (f w'.srv).op with pairReadyPending := false } =
        g { w'.srv.op with pairReadyPending := false } := congrArg g hq.op
  have hstep : OpKept w' (w'.act f) :=
    ⟨hfield Operation.kind, hfield Operation.id, fun ha => (hfield Operation.active).trans ha,
      fun _ hd => (hfield Operation.done).trans hd, [], rfl, by simp⟩
  exact h.trans hstep

lemma retires (h : OpKept w w') (hr : Retires w' w'') : OpKept w w'' := by
  have hstep : OpKept w' w'' := by
    cases hr with
    | plain _ => exact ⟨rfl, rfl, fun _ => rfl, fun _ h => h, [], rfl, by simp⟩
    | cancel _ _ =>
      exact ⟨rfl, rfl, fun _ => rfl, fun _ h => h, [_], rfl, by simp [Ev.starts, Ev.completes]⟩
  exact h.trans hstep

/-- An operation that is over is completed; this cannot happen to one that was over already. -/
lemma complete {v : World E} (h₁ : OpKept w v) (ho : v.srv.op.active = true) (h₂ : OpKept v w')
    (d : OpDone) : OpKept w (w'.complete d) := by
  have h := h₁.trans h₂
  obtain ⟨l, hl, hp⟩ := h.log
  have hne {p : Prop} (hi : w.srv.op.active = false) : p := absurd (ho.symm.trans (h₁.idle hi)) nofun
  refine ⟨h.kind, h.id, hne, fun hi => hne hi, .completed d w'.srv :: l, congrArg _ hl,
    fun e he => ⟨?_, hne⟩⟩
  rcases List.mem_cons.mp he with rfl | he
  · rfl
  · exact (hp e he).1

end OpKept

lemma Moves.opKept (hk : k ≤ 2) (h : Moves b k w w') : OpKept w w' := by
  induction h with
  | refl => exact .refl _
  | send _ _ _ _ ih => exact ((ih hk).act _ rfl).note _ rfl rfl
  | flush _ _ ih => exact (ih hk).note _ rfl rfl
  | emitCtl _ _ _ _ _ _ _ _ _ _ _ ih => exact ((ih hk).emit _ _ _ _ _).act _ (op_freeSlot _ _)
  | emitKey _ _ _ _ _ _ _ _ _ ih => exact ((ih hk).emit _ _ _ _ _).act _ rfl
  | emitMedia _ _ _ _ _ _ _ _ _ _ ih => exact ((ih hk).emit _ _ _ _ _).act _ rfl
  | pump _ _ _ _ ihf ih => exact (ih hk).trans (ihf (by omega))
  | teardown _ _ ih ihr => exact (ih hk).withdraw.trans (ihr le_rfl)
  | keys _ rep _ ih => exact ((ih hk).act _ (onlyKeys_applyKeys _ rep).op).note _ rfl rfl
  | discard _ _ _ ih => exact (ih hk).act _ rfl
  | cut _ _ _ _ _ _ _ ihf ih =>
    exact (((ih hk).act _ rfl).trans (ihf (by omega))).push _ _ _ fun s => (onlyVoice_endQueued s true).op
  | drain _ _ _ _ _ _ _ _ ihf ih =>
    exact ((ih hk).trans (ihf (by omega))).push _ _ _ fun s => (onlyVoice_endQueued s false).op
  | env _ _ _ ih => exact (ih hk).next (l := []) rfl rfl (by simp)
  | quiet _ _ hq _ ih => exact (ih hk).quiet hq
  | called _ _ _ _ _ ih => exact (ih hk).note _ rfl rfl
  | fault _ _ _ ih => exact (ih hk).note _ rfl rfl
  | event _ _ _ _ _ _ _ ih => exact (ih hk).queue _
  | @link _ w₀ _ w₁ _ _ _ _ hn _ _ _ _ ihw ih =>
    have hnew : OpKept w₀ w₁ := by
      rcases hn with rfl | ⟨_, _, rfl⟩
      · exact ih hk
      · exact ((ih hk).act _ rfl).note _ rfl rfl
    exact (((hnew.act _ rfl).trans (ihw (by omega))).act _ (OpKept.op_settle _ _ _)).announce _
  | profile _ _ _ _ ih => exact (((ih hk).act _ rfl).note _ rfl rfl).announce _
  | start _ _ _ _ _ _ _ _ ihf ih =>
    exact (((ih hk).act _ rfl).trans (ihf (by omega))).push _ _ _ fun _ => rfl
  | noStart _ _ _ _ _ _ _ ihf ih => exact (((ih hk).act _ rfl).trans (ihf (by omega))).act _ rfl
  | format _ _ _ _ _ _ _ _ _ _ ihf ih =>
    exact ((ih hk).trans (ihf (by omega))).push _ _ _ fun _ => rfl
  | unit _ _ _ _ _ ih => exact (ih hk).act _ rfl
  | fragment _ _ _ _ _ _ _ _ ihf ih =>
    exact ((ih hk).trans (ihf (by omega))).push _ _ _ fun s => (onlyVoice_dataQueued s _ _ _).op
  | resumeVoice _ _ _ ih => exact (ih hk).act _ rfl
  | prompt _ _ _ _ _ _ _ _ ih => exact (ih hk).act _ rfl
  | cancel _ _ _ _ ih => exact ((ih hk).act _ rfl).note _ rfl rfl
  | finish _ d ho hv _ _ _ ihm ih =>
    exact (ih hk).complete ho (((OpKept.refl _).retires hv).trans (ihm le_rfl)) d
  | granted => omega
  | enableEvents => omega
  | stopEvents => omega
  | beginFind => omega
  | beginOp => omega
  | enableVoice => omega
  | disableVoice => omega

/-- A request that has begun no operation may still begin one. -/
lemma Begins.later {hd : Header} (h : Begins hd w) (hw : OpKept w w') : Begins hd w' := by
  obtain ⟨l, payload, s, l', hlog, hl⟩ := h
  obtain ⟨l₁, hlog₁, hl₁⟩ := hw.log
  refine ⟨l₁ ++ l, payload, s, l', by rw [hlog₁, hlog, List.append_assoc], fun e he => ?_⟩
  rcases List.mem_append.mp he with he | he
  · exact (hl₁ e he).1
  · exact hl e he

end RemoteBridge
