import RemoteBridge.Properties.ControlQueue
import RemoteBridge.Product.Host

/-!
# The life of an operation

`PAIR_BEGIN` and `FORGET_PEER` begin an operation, which ends later: the backend reports its outcome, or
its deadline passes, or the session of a pairing goes away.  Several of these can happen in one tick, and
each of them calls the backend, which may report the outcome synchronously.  Still every operation is
completed at most once, and every pairing is cancelled at most once, because a flag is taken back before
the call that could bring it back.

The host hears `ACCEPTED` before it hears anything else of an operation, as long as the order counter does
not wrap: the reply is the first frame that is queued after the operation was begun.
-/

namespace RemoteBridge

open World

variable {E : Type} {b : Build} {k : Nat} {w w' : World E}

/-! ## The property -/

/-- `pair_cancel` is called. -/
def Ev.cancels : Ev → Bool
  | .called .pairCancel _ => true
  | _ => false

/-- The last operation has this kind and id, and nothing since meets `p`. -/
def LastBegun (p : Ev → Bool) (kind : OpKind) (id : UInt32) (l : List Ev) : Prop :=
  ∃ l₁ h s l₂, l = l₁ ++ Ev.begun kind h s :: l₂ ∧ h.requestId = id ∧
    ∀ e ∈ l₁, e.begins = false ∧ p e = false

/-- Whether the slot holds an `OPERATION` event. -/
def CtlSlot.isOperation (slot : CtlSlot) : Bool :=
  slot.kind == kindEvent && slot.opcode == EventOp.operation.code

/-- Whether the slot holds a `PAIR_PROMPT` or an `OPERATION` event of operation `id`. -/
def CtlSlot.reports (id : UInt32) (slot : CtlSlot) : Bool :=
  slot.kind == kindEvent &&
    (slot.opcode == EventOp.pairPrompt.code || slot.opcode == EventOp.operation.code) &&
    (acceptedPayload id).isPrefixOf slot.payload

/-- What holds when an event happens after `l`: an operation is begun when none is active; it is completed
when it was begun and not completed since; an `OPERATION` event follows a completion; and a pairing is
cancelled when it is the last operation and not cancelled since. -/
def Ev.onceAfter : Ev → List Ev → Prop
  | .begun _ _ s, _ => s.op.active = false
  | .completed d _, l => ∃ kind, LastBegun Ev.completes kind d.opId l
  | .queued x _, l => x.isOperation = true → ∃ d s l', l = .completed d s :: l' ∧ x.payload = d.tlv
  | .called .pairCancel _, l => ∃ id, LastBegun Ev.cancels .pair id l
  | _, _ => True

/-- Operations are begun one at a time, completed at most once and cancelled at most once. -/
def OnceLog (log : List Ev) : Prop := ∀ e l, (e :: l) <:+ log → e.onceAfter l

/-- The reply that accepts an operation is sent before its events: when it is sent, no event of the
operation that was queued since the operation was begun has been sent. -/
def AcceptedFirst (log : List Ev) : Prop :=
  ∀ a h p l, (Ev.emitted (.ctl a) h p :: l) <:+ log → a.grants = true →
    ∀ x s, Ev.queued x s ∈ since a.requestId l → x.reports a.requestId = true →
      ∀ y h' p', Ev.emitted (.ctl y) h' p' ∈ l → y.item ≠ x.item

/-- The life of operations in a run. -/
structure OperationLifecycle (log : List Ev) : Prop where
  once : OnceLog log
  accepted : AcceptedFirst log

/-! ## The invariant -/

lemma LastBegun.append {p : Ev → Bool} {kind : OpKind} {id : UInt32} {l l' : List Ev}
    (h : LastBegun p kind id l') (hl : ∀ e ∈ l, e.begins = false ∧ p e = false) :
    LastBegun p kind id (l ++ l') := by
  obtain ⟨l₁, hd, s, l₂, rfl, hid, hl₁⟩ := h
  refine ⟨l ++ l₁, hd, s, l₂, (List.append_assoc ..).symm, hid, fun e he => ?_⟩
  rcases List.mem_append.mp he with he | he
  · exact hl e he
  · exact hl₁ e he

lemma LastBegun.cons {p : Ev → Bool} {kind : OpKind} {id : UInt32} {l : List Ev} {e : Ev}
    (h : LastBegun p kind id l) (hb : e.begins = false) (hp : p e = false) :
    LastBegun p kind id (e :: l) :=
  h.append (l := [e]) (by simp [hb, hp])

lemma lastBegun_begun (p : Ev → Bool) (kind : OpKind) (h : Header) (s : Server) (l : List Ev) :
    LastBegun p kind h.requestId (.begun kind h s :: l) :=
  ⟨[], h, s, l, rfl, rfl, by simp⟩

/-- The operation of the server against the log. -/
structure OpInv (l : List Ev) (s : Server) : Prop where
  running : s.op.active = true → ∃ kind, s.op.kind = some kind ∧ LastBegun Ev.completes kind s.op.id l
  begun : ∀ kind, s.op.kind = some kind → LastBegun (fun _ => false) kind s.op.id l
  uncancelled : s.prompt.cancelRequested = false → ∀ kind, s.op.kind = some kind →
    LastBegun Ev.cancels kind s.op.id l
  prompt : s.prompt.active = true → s.op.active = true ∧ s.op.kind = some .pair ∧
    s.prompt.cancelRequested = false
  closed : ∀ v, Ev.closed v ∈ l → v.prompt.active = true → v.op.kind = some .pair

/-- The invariant; it holds in every run. -/
def Operated (w : World E) : Prop := OnceLog w.log ∧ OpInv w.log w.srv

/-- The events that operations do not depend on. -/
def Ev.offOps : Ev → Bool
  | .begun _ _ _ => false
  | .completed _ _ => false
  | .queued x _ => !x.isOperation
  | .called .pairCancel _ => false
  | .closed _ => false
  | _ => true

lemma onceLog_cons {e : Ev} {l : List Ev} (hl : OnceLog l) (he : e.onceAfter l) : OnceLog (e :: l) := by
  intro e' l' hsuffix
  rcases List.suffix_cons_iff.mp hsuffix with heq | hold
  · obtain ⟨rfl, rfl⟩ := List.cons.inj heq
    exact he
  · exact hl e' l' hold

lemma onceAfter_of_offOps {e : Ev} (he : e.offOps = true) (l : List Ev) : e.onceAfter l := by
  unfold Ev.onceAfter
  split
  · cases he
  · cases he
  · next x _ _ =>
    intro hx
    simp [Ev.offOps, hx] at he
  · cases he
  · trivial

/-- The operation keeps its place when nothing of it happens. -/
lemma offOps_marks {e : Ev} (he : e.offOps = true) :
    e.begins = false ∧ e.completes = false ∧ e.cancels = false := by
  cases e with
  | called c s => cases c <;> first | exact ⟨rfl, rfl, rfl⟩ | cases he
  | _ => first | exact ⟨rfl, rfl, rfl⟩ | cases he

section Steps

variable {l : List Ev} {s s' : Server}

/-- A change outside of the operation; the prompt may be hidden. -/
lemma OpInv.same (h : OpInv l s) (ha : s'.op.active = s.op.active) (hk : s'.op.kind = s.op.kind)
    (hi : s'.op.id = s.op.id) (hc : s'.prompt.cancelRequested = s.prompt.cancelRequested)
    (hp : s'.prompt.active = true → s.prompt.active = true) : OpInv l s' := by
  refine ⟨?_, ?_, ?_, ?_, h.closed⟩
  · rw [ha, hk, hi]
    exact h.running
  · rw [hk, hi]
    exact h.begun
  · rw [hk, hi, hc]
    exact h.uncancelled
  · rw [ha, hk, hc]
    exact fun hs => h.prompt (hp hs)

lemma OpInv.note (h : OpInv l s) {e : Ev} (he : e.offOps = true) : OpInv (e :: l) s := by
  obtain ⟨hb, hc, hx⟩ := offOps_marks he
  refine ⟨fun ha => ?_, fun kind hk => (h.begun kind hk).cons hb rfl,
    fun hu kind hk => (h.uncancelled hu kind hk).cons hb hx, h.prompt, fun v hv => ?_⟩
  · obtain ⟨kind, hk, hlast⟩ := h.running ha
    exact ⟨kind, hk, hlast.cons hb hc⟩
  · exact h.closed v (mem_of_mem_cons he rfl hv)

lemma operated_notes {l l' : List Ev} (h : OnceLog l' ∧ OpInv l' s)
    (hl : ∀ e ∈ l, e.offOps = true) : OnceLog (l ++ l') ∧ OpInv (l ++ l') s := by
  induction l with
  | nil => exact h
  | cons e l ih =>
    obtain ⟨hlog, hinv⟩ := ih fun e he => hl e (List.mem_cons_of_mem _ he)
    have he := hl e (List.mem_cons_self ..)
    exact ⟨onceLog_cons hlog (onceAfter_of_offOps he _), hinv.note he⟩

end Steps

/-- A step outside of the operation. -/
lemma Operated.next {l : List Ev} (hw : Operated w) (hlog : w'.log = l ++ w.log)
    (hl : ∀ e ∈ l, e.offOps = true) (hop : w'.srv.op = w.srv.op)
    (hprompt : w'.srv.prompt = w.srv.prompt) : Operated w' := by
  obtain ⟨honce, hinv⟩ := hw
  unfold Operated
  rw [hlog]
  refine operated_notes ⟨honce, hinv.same ?_ ?_ ?_ ?_ ?_⟩ hl
  · rw [hop]
  · rw [hop]
  · rw [hop]
  · rw [hprompt]
  · rw [hprompt]
    exact id

lemma Operated.act (hw : Operated w) (f : Server → Server) (hop : (f w.srv).op = w.srv.op)
    (hprompt : (f w.srv).prompt = w.srv.prompt) : Operated (w.act f) :=
  hw.next (l := []) rfl (by simp) hop hprompt

lemma Operated.note (hw : Operated w) (e : Ev) (he : e.offOps = true) : Operated (w.note e) :=
  hw.next (l := [e]) rfl (by simpa using he) rfl rfl

lemma Operated.queue (hw : Operated w) (slot : CtlSlot) (hs : slot.isOperation = false) :
    Operated (w.queue slot) :=
  (hw.act _ (op_putCtl _ slot) (prompt_putCtl _ slot)).note _ (by simp [Ev.offOps, hs])

lemma Operated.emit (hw : Operated w) (origin : Origin) (h : Header) (payload bytes : List UInt8)
    (next : UInt32) : Operated (w.emit b origin h payload bytes next) :=
  (hw.act _ rfl rfl).note _ rfl

lemma Operated.push (hw : Operated w) (op : EventOp) (payload : List UInt8) (f : Server → Server)
    (hf : ∀ s, (f s).op = s.op ∧ (f s).prompt = s.prompt) :
    Operated ((w.pushMedia op payload).act f) := by
  have hpush : Operated (w.pushMedia op payload) := (hw.act _ rfl rfl).note _ rfl
  exact hpush.act f (hf _).1 (hf _).2

/-- A session is torn down; its pairing is over, a deletion goes on. -/
lemma Operated.withdraw (hw : Operated w) : Operated (w.withdraw b) := by
  obtain ⟨honce, hinv⟩ := hw
  have hop : (w.withdraw b).srv.op = _ := OpKept.op_withdraw w.srv
  have hprompt : (w.withdraw b).srv.prompt = _ := prompt_withdraw b w.srv
  refine ⟨onceLog_cons honce trivial, ?_, ?_, ?_, ?_, ?_⟩
  · rw [hop]
    intro ha
    simp only [Bool.and_eq_true] at ha
    obtain ⟨kind, hk, hlast⟩ := hinv.running ha.1
    exact ⟨kind, hk, hlast.cons rfl rfl⟩
  · rw [hop]
    exact fun kind hk => (hinv.begun kind hk).cons rfl rfl
  · rw [hop, hprompt]
    exact fun hc kind hk => (hinv.uncancelled hc kind hk).cons rfl rfl
  · rw [hprompt]
    exact fun h => nomatch h
  · intro v hv
    rcases List.mem_cons.mp hv with hv | hv
    · cases hv
      exact fun hp => (hinv.prompt hp).2.1
    · exact hinv.closed v hv

lemma Operated.announce (hw : Operated w) (connCtx : UInt32) : Operated (w.announce b connCtx) := by
  rcases announce_cases (b := b) connCtx w with ⟨_, heq⟩ | heq
  · rw [heq]
    exact hw.queue _ rfl
  · rw [heq]
    exact (hw.act Server.protocolError rfl rfl).withdraw

/-- The pairing is cancelled. -/
lemma Operated.cancel (hw : Operated w) (hc : w.srv.prompt.cancelRequested = false)
    (hk : w.srv.op.kind = some .pair) : Operated w.cancel := by
  obtain ⟨honce, hinv⟩ := hw
  refine ⟨onceLog_cons honce ⟨_, hinv.uncancelled hc _ hk⟩, fun ha => ?_,
    fun kind hk => (hinv.begun kind hk).cons rfl rfl, nofun, nofun, fun v hv => ?_⟩
  · obtain ⟨kind, hk, hlast⟩ := hinv.running ha
    exact ⟨kind, hk, hlast.cons rfl rfl⟩
  · rcases List.mem_cons.mp hv with hv | hv
    · cases hv
    · exact hinv.closed v hv

/-- The operation is over, and not completed yet. -/
lemma Operated.retires (hw : Operated w) (hr : Retires w w') : Operated w' := by
  obtain ⟨honce, hinv⟩ := hw
  have hend : (w.srv.prompt.active = true → False) → Operated (w.act Server.endOp) := fun hp =>
    ⟨honce, nofun, hinv.begun, hinv.uncancelled, fun h => (hp h).elim, hinv.closed⟩
  cases hr with
  | plain hp =>
    refine hend fun hactive => ?_
    obtain ⟨-, hkind, hcancel⟩ := hinv.prompt hactive
    rcases hp with hp | hp | hp
    · exact nomatch hactive.symm.trans hp
    · exact hp hkind
    · exact nomatch hcancel.symm.trans hp
  | cancel hc hk =>
    refine ⟨onceLog_cons honce ⟨_, hinv.uncancelled hc _ hk⟩, nofun,
      fun kind hk => (hinv.begun kind hk).cons rfl rfl, nofun, nofun, fun v hv => ?_⟩
    rcases List.mem_cons.mp hv with hv | hv
    · cases hv
    · exact hinv.closed v hv

/-- An operation that is over is completed. -/
lemma Operated.complete {d : OpDone} {kind : OpKind} (hw : Operated w)
    (hlast : LastBegun Ev.completes kind d.opId w.log) (hidle : w.srv.op.active = false) :
    Operated (w.complete d) := by
  obtain ⟨honce, hinv⟩ := hw
  refine ⟨onceLog_cons honce ⟨kind, hlast⟩, fun ha => ?_,
    fun kind hk => (hinv.begun kind hk).cons rfl rfl,
    fun hc kind hk => (hinv.uncancelled hc kind hk).cons rfl rfl, hinv.prompt, fun v hv => ?_⟩
  · exact nomatch hidle.symm.trans ha
  · rcases List.mem_cons.mp hv with hv | hv
    · cases hv
    · exact hinv.closed v hv

/-- What the backend reports while an operation ends does not complete it. -/
lemma Operated.finish {v : World E} {d : OpDone} (hw : Operated w) (ho : w.srv.op.active = true)
    (hv : Retires w v) (hm : Moves b 2 v w') (hd : d.opId = w'.srv.op.id) (hw' : Operated w') :
    Operated (w'.complete d) := by
  obtain ⟨kind, -, hlast⟩ := hw.2.running ho
  have hidle : v.srv.op.active = false := by cases hv <;> rfl
  have hid : v.srv.op.id = w.srv.op.id := by cases hv <;> rfl
  have hlast' : LastBegun Ev.completes kind w.srv.op.id v.log := by
    cases hv with
    | plain _ => exact hlast
    | cancel _ _ => exact hlast.cons rfl rfl
  have hkept := hm.opKept le_rfl
  obtain ⟨l, hlog, hl⟩ := hkept.log
  have hlast'' : LastBegun Ev.completes kind d.opId w'.log := by
    rw [hd, hkept.id, hid, hlog]
    exact hlast'.append fun e he => ⟨Ev.begins_of_starts (hl e he).1, (hl e he).2 hidle⟩
  exact hw'.complete hlast'' (hkept.idle hidle)

/-- An operation is begun. -/
lemma Operated.beginOp (hw : Operated w) (ho : w.srv.op.active = false) (kind : OpKind) (h : Header)
    (deadlineMs : UInt32) : Operated (w.beginOp kind h deadlineMs) := by
  obtain ⟨honce, hinv⟩ := hw
  refine ⟨onceLog_cons honce ho, fun _ => ⟨kind, rfl, lastBegun_begun ..⟩, ?_, fun _ => ?_,
    fun hp => ?_, fun v hv => ?_⟩
  · rintro _ ⟨⟩
    exact lastBegun_begun ..
  · rintro _ ⟨⟩
    exact lastBegun_begun ..
  · exact nomatch ho.symm.trans (hinv.prompt hp).1
  · rcases List.mem_cons.mp hv with hv | hv
    · cases hv
    · exact hinv.closed v hv

lemma Operated.event {op : EventOp} {connectionId : UInt32} {payload : List UInt8} (hw : Operated w)
    (hp : Reported w op payload) :
    Operated (w.queue (w.srv.ctlSlotFor kindEvent op.code .ok 0 connectionId payload)) := by
  cases hp with
  | device => exact hw.queue _ rfl
  | findDone => exact hw.queue _ rfl
  | prompt => exact hw.queue _ rfl
  | operation d s l hl =>
    generalize hslot : w.srv.ctlSlotFor kindEvent EventOp.operation.code .ok 0 connectionId d.tlv = slot
    have hpayload : slot.payload = d.tlv := by rw [← hslot]; rfl
    obtain ⟨honce, hinv⟩ := hw.act (Server.putCtl slot) (op_putCtl _ _) (prompt_putCtl _ _)
    refine ⟨onceLog_cons honce fun _ => ⟨d, s, l, hl, hpayload⟩, fun ha => ?_,
      fun kind hk => (hinv.begun kind hk).cons rfl rfl,
      fun hc kind hk => (hinv.uncancelled hc kind hk).cons rfl rfl, hinv.prompt, fun v hv => ?_⟩
    · obtain ⟨kind, hk, hlast⟩ := hinv.running ha
      exact ⟨kind, hk, hlast.cons rfl rfl⟩
    · rcases List.mem_cons.mp hv with hv | hv
      · cases hv
      · exact hinv.closed v hv

/-! ## Runs -/

lemma Quiet.operated {f : Server → Server} (hq : Quiet w.srv (f w.srv)) (hw : Operated w) :
    Operated (w.act f) := by
  have hfield {β : Type} (g : Operation → β) : g { (f w.srv).op with pairReadyPending := false } =
      g { w.srv.op with pairReadyPending := false } := congrArg g hq.op
  exact ⟨hw.1, hw.2.same (hfield Operation.active) (hfield Operation.kind) (hfield Operation.id)
    hq.cancel hq.prompt⟩

lemma Moves.operated (h : Moves b k w w') (hw : Operated w) : Operated w' := by
  induction h with
  | refl => exact hw
  | send _ _ _ _ ih => exact ((ih hw).act _ rfl rfl).note _ rfl
  | flush _ _ ih => exact (ih hw).note _ rfl
  | emitCtl _ _ _ _ _ _ _ _ _ _ _ ih =>
    exact ((ih hw).emit _ _ _ _ _).act _ (op_freeSlot _ _) (prompt_freeSlot _ _)
  | emitKey _ _ _ _ _ _ _ _ _ ih => exact ((ih hw).emit _ _ _ _ _).act _ rfl rfl
  | emitMedia _ _ _ _ _ _ _ _ _ _ ih => exact ((ih hw).emit _ _ _ _ _).act _ rfl rfl
  | pump _ _ _ _ ihf ih => exact ihf (ih hw)
  | teardown _ _ ih ihr => exact ihr (ih hw).withdraw
  | keys _ rep _ ih =>
    have hsame := onlyKeys_applyKeys
    exact ((ih hw).act _ (hsame _ rep).op (hsame _ rep).prompt).note _ rfl
  | discard _ _ _ ih => exact (ih hw).act _ rfl rfl
  | cut _ _ _ _ _ _ _ ihf ih =>
    refine (ihf ((ih hw).act _ rfl rfl)).push _ _ _ fun s => ?_
    exact ⟨(onlyVoice_endQueued s true).op, (onlyVoice_endQueued s true).prompt⟩
  | drain _ _ _ _ _ _ _ _ ihf ih =>
    refine (ihf (ih hw)).push _ _ _ fun s => ?_
    exact ⟨(onlyVoice_endQueued s false).op, (onlyVoice_endQueued s false).prompt⟩
  | env _ _ _ ih => exact (ih hw).next (l := []) rfl (by simp) rfl rfl
  | quiet _ _ hq _ ih => exact hq.operated (ih hw)
  | called _ c _ hp _ ih =>
    refine (ih hw).note _ ?_
    cases c <;> first | rfl | exact absurd rfl hp
  | fault _ _ _ ih => exact (ih hw).note _ rfl
  | event _ _ _ _ hp _ _ ih => exact (ih hw).event hp
  | @link _ _ _ w₁ _ _ _ _ hn _ _ _ _ ihw ih =>
    have hnew : Operated w₁ := by
      rcases hn with rfl | ⟨_, _, rfl⟩
      · exact ih hw
      · exact ((ih hw).act _ rfl rfl).note _ rfl
    -- what follows a change of the link leaves the prompt alone
    have hsettle : ∀ (s : Server) (left : Bool) (state : LinkState),
        (s.settle left state).prompt = s.prompt := by
      intro s left state
      unfold Server.settle
      cases left <;> cases state.down <;> rfl
    exact ((ihw (hnew.act _ rfl rfl)).act _ (OpKept.op_settle _ _ _) (hsettle _ _ _)).announce _
  | profile _ _ _ _ ih => exact (((ih hw).act _ rfl rfl).note _ rfl).announce _
  | start _ _ _ _ _ _ _ _ ihf ih =>
    exact (ihf ((ih hw).act _ rfl rfl)).push _ _ _ fun _ => ⟨rfl, rfl⟩
  | noStart _ _ _ _ _ _ _ ihf ih => exact (ihf ((ih hw).act _ rfl rfl)).act _ rfl rfl
  | format _ _ _ _ _ _ _ _ _ _ ihf ih => exact (ihf (ih hw)).push _ _ _ fun _ => ⟨rfl, rfl⟩
  | unit _ _ _ _ _ ih => exact (ih hw).act _ rfl rfl
  | fragment _ _ _ _ _ _ _ _ ihf ih =>
    refine (ihf (ih hw)).push _ _ _ fun s => ?_
    exact ⟨(onlyVoice_dataQueued s _ _ _).op, (onlyVoice_dataQueued s _ _ _).prompt⟩
  | resumeVoice _ _ _ ih => exact (ih hw).act _ rfl rfl
  | prompt _ _ _ _ _ ho hc _ ih =>
    obtain ⟨honce, hinv⟩ := ih hw
    exact ⟨honce, hinv.running, hinv.begun, hinv.uncancelled, fun _ => ⟨ho.1, ho.2, hc⟩, hinv.closed⟩
  | cancel _ hc hp _ ih =>
    refine (ih hw).cancel hc ?_
    obtain ⟨-, hinv⟩ := ih hw
    rcases hp with hp | hp | ⟨v, hv, hactive, hkind⟩
    · exact hp
    · exact (hinv.prompt hp).2.1
    · exact absurd (hinv.closed v hv hactive) hkind
  | finish _ _ ho hv hm hd _ ihm ih => exact (ih hw).finish ho hv hm hd (ihm ((ih hw).retires hv))
  | granted _ _ _ ih => exact (ih hw).note _ rfl
  | enableEvents _ _ _ ih =>
    have hsame := onlyKeys_enableEvents
    exact ((ih hw).act _ (hsame _).op (hsame _).prompt).note _ rfl
  | stopEvents _ _ ih => exact (ih hw).act _ rfl rfl
  | beginFind _ _ _ _ _ ih => exact (ih hw).act _ rfl rfl
  | beginOp _ kind hd dl ho _ _ _ ih => exact (ih hw).beginOp ho kind hd dl
  | enableVoice _ _ _ _ _ _ ih => exact (ih hw).act _ rfl rfl
  | disableVoice _ _ ih => exact (ih hw).act _ rfl rfl

lemma Answer.operated {h : Header} (ha : Answer b h w w') (hw : Operated w) : Operated w' := by
  have hpatch : ∀ {v : World E} (closing : UInt32), Operated v →
      Operated (v.act (Server.patchSlotZero closing)) := by
    intro v closing hv
    refine hv.act _ ?_ ?_
    all_goals
      unfold Server.patchSlotZero
      split <;> rfl
  have hkeep : ∀ {v : World E} (s : Server), Operated v → Operated (v.keepCommitted s h) := fun _ hv =>
    ((hv.act _ rfl rfl).note _ rfl).note _ rfl
  have herror : ∀ {v : World E}, Operated v → Operated (v.act Server.protocolError) :=
    fun hv => hv.act _ rfl rfl
  cases ha with
  | reply status payload _ _ => exact (hw.note _ rfl).queue _ rfl
  | full len _ hr => exact hr.operated (herror (hw.note _ rfl)).withdraw
  | deferred _ => exact (hw.act _ rfl rfl).note _ rfl
  | goodbye _ hr _ => exact hpatch _ ((hkeep _ (hr.operated hw.withdraw)).queue _ rfl)
  | goodbyeFull _ hr _ hr' =>
    exact hpatch _ (hr'.operated (herror (hkeep _ (hr.operated hw.withdraw))).withdraw)

lemma Turns.operated {g : Prop} (h : Turns b g w w') (hw : Operated w) : Operated w' := by
  have hgreet : ∀ {v : World E} (hd : Header), Operated v → Operated (v.greet hd) := fun _ hv =>
    ((hv.act Server.openSession rfl rfl).note _ rfl).act _ rfl rfl
  induction h with
  | refl => exact hw
  | moves hm _ ih => exact hm.operated ih
  | pump hm _ ih => exact hm.operated ih
  | seq _ _ _ ih => exact ih.act _ rfl rfl
  | request hd payload _ hh _ ih =>
    obtain ⟨w₁, w₂, h₁, ha, h₂⟩ := hh
    exact h₂.operated (ha.operated (h₁.operated ((ih.act _ rfl rfl).note _ rfl)))
  | refuse _ _ _ _ _ _ _ ih => exact (ih.note _ rfl).queue _ rfl
  | refuseFull _ _ _ _ ih => exact ih.note _ rfl
  | raw _ _ _ _ _ ih => exact (ih.act _ rfl rfl).note _ rfl
  | hello hd _ _ _ _ _ _ _ ih => exact (hgreet hd ih).queue _ rfl
  | helloFull hd _ _ _ _ _ _ _ ih => exact hgreet hd ih
  | exhausted _ _ _ _ _ _ ih => exact ((ih.act _ rfl rfl).act _ rfl rfl).queue _ rfl
  | exhaustedFull _ _ _ _ ih => exact (ih.act _ rfl rfl).act _ rfl rfl
  | deferred _ _ _ _ _ _ _ ih => exact (ih.queue _ rfl).act _ rfl rfl
  | forget _ _ ih => exact ih.act _ rfl rfl
  | gone _ _ _ ih => exact (ih.act _ rfl rfl).act _ rfl rfl

lemma onceLog_nil : OnceLog [] := by
  intro e l h
  exact absurd (List.suffix_nil.mp h) (List.cons_ne_nil e l)

lemma opInv_nil {s : Server} (hop : s.op = {}) (hprompt : s.prompt = {}) : OpInv [] s := by
  constructor
  · simp [hop]
  · simp [hop]
  · simp [hop]
  · simp [hprompt]
  · simp

lemma operated_init (cfg : Config) (profile : Option DeviceProfile) (loaded : Option PeerRecord)
    (env : E) :
    Operated ({ srv := Server.init b cfg profile loaded, env := env, log := [] } : World E) := by
  have hop : (Server.init b cfg profile loaded).op = {} := rfl
  have hprompt : (Server.init b cfg profile loaded).prompt = {} := rfl
  exact ⟨onceLog_nil, opInv_nil hop hprompt⟩

/-- Control frames that leave in order leave the acceptance of an operation first. -/
lemma QueueOrder.acceptedFirst {log : List Ev} (h : QueueOrder log) : AcceptedFirst log := by
  intro a hd p l hsuffix hgrants x s hx _ y h' p' hy heq
  have hleaves : LeavesInOrder l a := h _ _ hsuffix
  have hlt : y.order < a.order := hleaves.after y h' p' hy
  have hle : a.order ≤ x.order := hleaves.before hgrants x s hx
  have horder : y.item.order = x.item.order := congrArg CtlSlot.order heq
  have hlt' : x.order < a.order := lt_of_eq_of_lt horder.symm hlt
  exact UInt32.lt_irrefl _ (UInt32.lt_of_lt_of_le hlt' hle)

/-- In every run in which the order counter does not wrap, operations are begun one at a time, completed
and cancelled at most once, and accepted before anything else is said about them. -/
theorem reach_operationLifecycle (hw : Reach b anyInput w) (hlast : OrdersLast w.log) :
    OperationLifecycle w.log := by
  obtain ⟨cfg, profile, loaded, env, hturns⟩ := hw.turns (g := True) fun _ _ => trivial
  exact ⟨(hturns.operated (operated_init cfg profile loaded env)).1,
    (hturns.fifo (fifo_init cfg profile loaded env) hlast).1.acceptedFirst⟩

/-! ## A run in which the counter wraps -/

/-- A server that knows remote 5. -/
def boundServer : Server :=
  Server.init Build.default plainConfig none
    (some { peerId := 5, name := List.replicate 48 0, autoReconnect := true })

def boundWorld : World Unit := { srv := boundServer, env := (), log := [] }

lemma reach_boundWorld {ok : Input → Prop} : Reach Build.default ok boundWorld := .init ..

/-- A platform that deletes the remote at once, and whose output accepts everything. -/
def promptPlatform : Platform Unit :=
  { silentPlatform with
    call := fun c w => match c with
      | .forgetPeer => (onForgetDone Build.default silentPlatform .ok false w, .ok)
      | _ => (w, .ok)
    out := fun _ bytes => bytes.length
    out_le := fun _ _ => Nat.le_refl _ }

lemma promptPlatform_honest : Honest Build.default 1 promptPlatform := by
  intro c w
  cases c with
  | forgetPeer => exact .callback silentPlatform (.forgetDone .ok false) silentPlatform_honest (.refl w)
  | _ => exact .refl w

/-- A host opens a session and has the remote deleted; then the output is pumped. -/
def World.forgets (w : World Unit) : World Unit :=
  Input.flush.run Build.default promptPlatform
    ((w.listens (hostHeader .hello 0 1 0) 1 (tlvPutBytes 1 (List.replicate 16 7) [])).hears Build.default
      promptPlatform (hostHeader .forgetPeer 1 2 0) 2 (tlvPutU32 1 5 []))

lemma Reach.forgets {w : World Unit} (hw : Reach Build.default anyInput w)
    (hrx : w.srv.rx = RxParser.init 0)
    (hrx' : (w.listens (hostHeader .hello 0 1 0) 1
      (tlvPutBytes 1 (List.replicate 16 7) [])).srv.rx = RxParser.init 0) :
    Reach Build.default anyInput w.forgets := by
  have hlen : (tlvPutBytes 1 (List.replicate 16 7) []).length ≤ maxPayload := by decide
  have hlen' : (tlvPutU32 1 5 []).length ≤ maxPayload := by decide
  have hhello : Reach Build.default anyInput (w.listens (hostHeader .hello 0 1 0) 1
      (tlvPutBytes 1 (List.replicate 16 7) [])) := hw.listens (fun _ _ => trivial) hrx hlen
  have hforget := hhello.hears promptPlatform_honest (fun _ _ => trivial) hrx'
    (hostHeader .forgetPeer 1 2 0) 2 hlen'
  exact .input 1 promptPlatform .flush promptPlatform_honest trivial hforget

/-- `reach_operationLifecycle` applies to a deletion. -/
theorem operationLifecycle_forgets :
    OrdersLast boundWorld.forgets.log ∧ OperationLifecycle boundWorld.forgets.log := by
  have hlast : OrdersLast boundWorld.forgets.log := by
    have hnumbered : boundWorld.forgets.log.all Ev.numbered = true := by decide +kernel
    exact List.all_eq_true.mp hnumbered
  exact ⟨hlast, reach_operationLifecycle (reach_boundWorld.forgets rfl rfl) hlast⟩

/-- The slot of an announced device state. -/
def announcement (info : List UInt8) (order : UInt32) : CtlSlot :=
  { used := true, kind := kindEvent, opcode := EventOp.deviceState.code, payload := info, order := order }

/-- The server after a device state was announced in `slot` and dropped. -/
def idleServer (slot : CtlSlot) (order : UInt32) : Server :=
  { boundServer with
    orderCounter := order, ctl := { slot with used := false } :: List.replicate 5 {} }

/-- The remote is found to be away, and so is the host. -/
def World.idles (w : World Unit) : World Unit :=
  (Input.usbGone 0).run Build.default silentPlatform
    ((Input.callback (.link .disconnected 0 0)).run Build.default silentPlatform w)

lemma onLink_idleServer (slot : CtlSlot) (order : UInt32) (l : List Ev) :
    onLink Build.default silentPlatform .disconnected 0 0 ⟨idleServer slot order, (), l⟩ =
      World.queue (announcement boundServer.deviceInfoTlv (order + 1)) ⟨idleServer slot order, (), l⟩ := by
  have hmax : boundServer.deviceInfoTlv.length ≤ maxPayload := by decide +kernel
  have hbytes : boundServer.deviceInfoTlv.length ≤ 3072 := by decide +kernel
  have hinfo : (idleServer slot order).deviceInfoTlv = boundServer.deviceInfoTlv := rfl
  -- the text of the announcement does not matter, and is long
  generalize boundServer.deviceInfoTlv = info at *
  have hlink : onLink Build.default silentPlatform .disconnected 0 0 ⟨idleServer slot order, (), l⟩ =
      sendDeviceState Build.default silentPlatform 0 ⟨idleServer slot order, (), l⟩ := rfl
  have hfits : (idleServer slot order).ctlFits Build.default info.length = true := by
    have hslot : ((idleServer slot order).ctl.findIdx? fun slot => !slot.used) = some 0 := rfl
    have hroom : Build.default.ctlBytes - (idleServer slot order).ctlUsed = 3072 := rfl
    rw [Server.ctlFits, hslot, hroom, decide_eq_true hmax, decide_eq_true hbytes]
    rfl
  rw [hlink, sendDeviceState, ctlEnqueue, hinfo, hfits]
  rfl

lemma srv_onUsbGone_announcement (slot : CtlSlot) (info : List UInt8) (order : UInt32) (l : List Ev) :
    (onUsbGone Build.default silentPlatform 0
      (World.queue (announcement info (order + 1)) ⟨idleServer slot order, (), l⟩)).srv =
      idleServer (announcement info (order + 1)) (order + 1) := rfl

/-- The server after it has announced its device state `n` times. -/
def idledWorld (n : Nat) : World Unit := World.idles^[n] boundWorld

/-- The slot that is left. -/
def idledSlot : Nat → CtlSlot
  | 0 => {}
  | n + 1 => announcement boundServer.deviceInfoTlv (UInt32.ofNat n + 1)

/-- Idling moves the order counter and nothing else. -/
lemma srv_idledWorld (n : Nat) : (idledWorld n).srv = idleServer (idledSlot n) (UInt32.ofNat n) := by
  induction n with
  | zero => rfl
  | succ n ih =>
    have hworld : idledWorld n = ⟨idleServer (idledSlot n) (UInt32.ofNat n), (), (idledWorld n).log⟩ := by
      rw [← ih]
    have hstep : (idledWorld (n + 1)).srv = (onUsbGone Build.default silentPlatform 0
        (onLink Build.default silentPlatform .disconnected 0 0 (idledWorld n))).srv := by
      unfold idledWorld
      rw [Function.iterate_succ_apply']
      rfl
    rw [hstep, hworld, onLink_idleServer, srv_onUsbGone_announcement, idledSlot]
    congr 1
    exact (UInt32.ofNat_add n 1).symm

lemma reach_idledWorld (n : Nat) : Reach Build.default anyInput (idledWorld n) := by
  induction n with
  | zero => exact reach_boundWorld
  | succ n ih =>
    unfold idledWorld
    rw [Function.iterate_succ_apply']
    exact (ih.silent trivial).silent trivial

/-- The control frame that was sent at this event. -/
def Ev.sentSlot : Ev → Option CtlSlot
  | .emitted (.ctl a) _ _ => some a
  | _ => none

/-- The control frame that was queued at this event. -/
def Ev.queuedSlot : Ev → Option CtlSlot
  | .queued x _ => some x
  | _ => none

/-- The newest event sends the acceptance of an operation, and an event of the operation was sent before. -/
def outrun : List Ev → Bool
  | [] => false
  | e :: l => e.sentSlot.any fun a => a.grants && ((since a.requestId l).filterMap Ev.queuedSlot).any fun x =>
      x.reports a.requestId && (l.filterMap Ev.sentSlot).any fun y => y.item == x.item

lemma not_acceptedFirst_of_outrun {log l : List Ev} (hsuffix : l <:+ log) (h : outrun l = true) :
    ¬ AcceptedFirst log := by
  intro hfirst
  cases l with
  | nil => cases h
  | cons e l =>
    simp only [outrun, Option.any_eq_true, Bool.and_eq_true, List.any_eq_true, List.mem_filterMap,
      beq_iff_eq] at h
    obtain ⟨a, ha, hgrants, x, ⟨ex, hex, hx⟩, hreports, y, ⟨ey, hey, hy⟩, heq⟩ := h
    cases e with
    | emitted origin hd p =>
      cases origin with
      | ctl a' =>
        obtain rfl := Option.some.inj ha
        cases ex with
        | queued x' s =>
          obtain rfl := Option.some.inj hx
          cases ey with
          | emitted origin' hd' p' =>
            cases origin' with
            | ctl y' =>
              obtain rfl := Option.some.inj hy
              exact hfirst _ hd p l hsuffix hgrants _ s hex hreports _ hd' p' hey heq
            | _ => cases hy
          | _ => cases hy
        | _ => cases hx
      | _ => cases ha
    | _ => cases ha

/-- The world after `n` announcements, up to its log. -/
def idleWorld (n : Nat) (l : List Ev) : World Unit :=
  { srv := idleServer (idledSlot n) (UInt32.ofNat n), env := (), log := l }

lemma idleWorld_log_idledWorld (n : Nat) : idleWorld n (idledWorld n).log = idledWorld n := by
  unfold idleWorld
  rw [← srv_idledWorld n]

lemma rx_hello_idledWorld :
    ((idleWorld 0xfffffffd (idledWorld 0xfffffffd).log).listens (hostHeader .hello 0 1 0) 1
      (tlvPutBytes 1 (List.replicate 16 7) [])).srv.rx = RxParser.init 0 := by
  decide +kernel

lemma outrun_forgets :
    outrun ((idleWorld 0xfffffffd (idledWorld 0xfffffffd).log).forgets.log.drop 6) = true := by
  decide +kernel

/-- After 2^32 - 3 announcements `ACCEPTED` is the last frame before the counter wraps, and the `OPERATION`
event overtakes it. -/
theorem not_operationLifecycle_forgets :
    ¬ ∀ w : World Unit, Reach Build.default anyInput w → OperationLifecycle w.log := by
  intro h
  have hreach := reach_idledWorld 0xfffffffd
  have hrx : (idledWorld 0xfffffffd).srv.rx = RxParser.init 0 := by rw [srv_idledWorld]; rfl
  have hrx' := rx_hello_idledWorld
  have hout := outrun_forgets
  rw [idleWorld_log_idledWorld] at hrx' hout
  generalize idledWorld 0xfffffffd = w at hreach hrx hrx' hout
  have hlife := h _ (hreach.forgets hrx hrx')
  exact not_acceptedFirst_of_outrun (List.drop_suffix 6 _) hout hlife.accepted

end RemoteBridge
