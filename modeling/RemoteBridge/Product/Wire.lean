import RemoteBridge.Product.Frames

/-!
# The moves as far as the output ring is concerned

The ring is written in one place, read in one place and cut in one place.  `WireSteps b w w'` is a run of
these three steps and of steps that leave the ring alone; every run of moves is such a run.
-/

namespace RemoteBridge

open World

variable {E : Type} (b : Build)

/-- The events that concern the ring, or the session whose frames go through it. -/
def Ev.wired : Ev → Bool
  | .sent _ | .emitted _ _ _ | .refused _ _ | .opened _ _ | .closed _ | .parted _ _ => true
  | _ => false

/-- A step that matters for the output ring. -/
inductive WireStep : World E → World E → Prop
  | plain {w w' : World E} (l : List Ev) (hlog : w'.log = l ++ w.log)
      (hl : ∀ e ∈ l, e.wired = false) (hout : w'.srv.out = w.srv.out) : WireStep w w'
  | send {w : World E} (n : Nat) (hn : n ≤ (w.srv.chunk b).length) : WireStep w (w.send b n)
  | emit {w : World E} (origin : Origin) (h : Header) (payload bytes : List UInt8) (next : UInt32)
      (hs : Sendable b h payload w.srv bytes next) : WireStep w (w.emit b origin h payload bytes next)
  | withdraw {w : World E} : WireStep w (w.withdraw b)

/-- A run of steps. -/
abbrev WireSteps : World E → World E → Prop := Relation.ReflTransGen (WireStep b)

variable {b} {k : Nat} {w w' w'' : World E}

namespace WireSteps

lemma act (h : WireSteps b w w') (f : Server → Server) (hf : (f w'.srv).out = w'.srv.out) :
    WireSteps b w (w'.act f) :=
  h.tail (.plain [] rfl (by simp) hf)

lemma note (h : WireSteps b w w') (e : Ev) (he : e.wired = false) : WireSteps b w (w'.note e) :=
  h.tail (.plain [e] rfl (by simpa using he) rfl)

lemma queue (h : WireSteps b w w') (slot : CtlSlot) : WireSteps b w (w'.queue slot) :=
  WireSteps.note (h.act _ (by simp)) _ rfl

lemma push (h : WireSteps b w w') (op : EventOp) (payload : List UInt8) (f : Server → Server)
    (hf : ∀ s, (f s).out = s.out) : WireSteps b w ((w'.pushMedia op payload).act f) := by
  have hpush : WireSteps b w (w'.pushMedia op payload) :=
    h.tail (.plain [_] rfl (by simp [Ev.wired]) rfl)
  exact hpush.act f (hf _)

lemma announce (h : WireSteps b w w') (connCtx : UInt32) : WireSteps b w (w'.announce b connCtx) := by
  rcases announce_cases (b := b) connCtx w' with ⟨_, heq⟩ | heq
  · rw [heq]
    exact h.queue _
  · rw [heq]
    exact Relation.ReflTransGen.tail (h.act _ rfl) .withdraw

lemma retires (h : WireSteps b w w') (hr : Retires w' w'') : WireSteps b w w'' := by
  cases hr with
  | plain _ => exact h.act _ rfl
  | cancel _ _ => exact WireSteps.note (WireSteps.act (h.act Server.endOp rfl) _ rfl) _ rfl

end WireSteps

/-- Moves are runs of steps. -/
lemma Moves.wire (h : Moves b k w w') : WireSteps b w w' := by
  induction h with
  | refl => exact .refl
  | send _ n hn _ ih => exact ih.tail (.send n hn)
  | flush _ _ ih => exact ih.note _ rfl
  | emitCtl _ i slot bytes next _ _ _ hs _ _ ih =>
    exact WireSteps.act (ih.tail (.emit _ _ _ bytes next hs)) _ (by simp)
  | emitKey _ item rest bytes next _ _ hs _ ih =>
    exact WireSteps.act (ih.tail (.emit _ _ _ bytes next hs)) _ rfl
  | emitMedia _ item rest bytes next _ _ _ hs _ ih =>
    exact WireSteps.act (ih.tail (.emit _ _ _ bytes next hs)) _ rfl
  | pump _ _ _ _ ihf ih => exact ih.trans ihf
  | teardown _ _ ih ihr => exact Relation.ReflTransGen.trans (ih.tail .withdraw) ihr
  | keys _ rep _ ih => exact WireSteps.note (ih.act _ (onlyKeys_applyKeys _ rep).out) _ rfl
  | discard _ _ _ ih => exact ih.act _ rfl
  | cut _ _ _ _ _ _ _ ihf ih =>
    have hdiscard := ih.act Server.mediaDiscardCurrent rfl
    exact WireSteps.push (hdiscard.trans ihf) _ _ _ fun s => (onlyVoice_endQueued s true).out
  | drain _ _ _ _ _ _ _ _ ihf ih =>
    exact WireSteps.push (ih.trans ihf) _ _ _ fun s => (onlyVoice_endQueued s false).out
  | env _ _ _ ih => exact ih.tail (.plain [] rfl (by simp) rfl)
  | quiet _ f hq _ ih => exact ih.act f hq.out
  | called _ _ _ _ _ ih => exact ih.note _ rfl
  | fault _ _ _ ih => exact ih.note _ rfl
  | event _ _ _ _ _ _ _ ih => exact ih.queue _
  | @link _ w₀ _ w₁ _ _ state _ hn _ _ _ _ ihw ih =>
    have hnew : WireSteps b w₀ w₁ := by
      rcases hn with rfl | ⟨_, _, rfl⟩
      · exact ih
      · exact WireSteps.note (ih.act _ rfl) _ rfl
    have hset := hnew.act (Server.setLink state) rfl
    exact (WireSteps.act (hset.trans ihw) _ (by simp)).announce _
  | profile _ _ _ _ ih => exact (WireSteps.note (ih.act _ rfl) _ rfl).announce _
  | start _ _ _ _ _ _ _ _ ihf ih =>
    have hopen := ih.act Server.openStream rfl
    exact WireSteps.push (hopen.trans ihf) _ _ _ fun _ => rfl
  | noStart _ _ _ _ _ _ _ ihf ih =>
    have hopen := ih.act Server.openStream rfl
    exact WireSteps.act (hopen.trans ihf) _ rfl
  | format _ _ _ _ _ _ _ _ _ _ ihf ih => exact WireSteps.push (ih.trans ihf) _ _ _ fun _ => rfl
  | unit _ _ _ _ _ ih => exact ih.act _ rfl
  | fragment _ _ _ _ _ _ _ _ ihf ih =>
    exact WireSteps.push (ih.trans ihf) _ _ _ fun s => (onlyVoice_dataQueued s _ _ _).out
  | resumeVoice _ _ _ ih => exact ih.act _ rfl
  | prompt _ _ _ _ _ _ _ _ ih => exact ih.act _ rfl
  | cancel _ _ _ _ ih => exact WireSteps.note (ih.act _ rfl) _ rfl
  | finish _ _ _ hv _ _ _ ihm ih =>
    exact WireSteps.note (WireSteps.act ((ih.retires hv).trans ihm) _ rfl) _ rfl
  | granted _ _ _ ih => exact ih.note _ rfl
  | enableEvents _ _ _ ih => exact WireSteps.note (ih.act _ (onlyKeys_enableEvents _).out) _ rfl
  | stopEvents _ _ ih => exact ih.act _ rfl
  | beginFind _ _ _ _ _ ih => exact ih.act _ rfl
  | beginOp _ _ _ _ _ _ _ _ ih => exact WireSteps.note (ih.act _ rfl) _ rfl
  | enableVoice _ _ _ _ _ _ ih => exact ih.act _ rfl
  | disableVoice _ _ ih => exact ih.act _ rfl

end RemoteBridge
