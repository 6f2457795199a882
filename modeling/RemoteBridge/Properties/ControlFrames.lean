import RemoteBridge.Properties.FrameNumbers

/-!
# What control frames carry

The reply to `GET_DEVICE` and the event `DEVICE_STATE` carry the state of the device at the time at which
they were queued, and a frame carries the slot from which it was sent.  If nothing was left in the control
queue when a session began, then what is sent while it lasts was queued in it.

These are the facts that connect the log of the server with the bytes that a host is given.  The log notes
which slot a frame was made of; `CtlSlot.SentAs` and `KeyItem.SentAs` say what its header and its payload
are then, and `CtlSlot.Carries` what a slot holds when it is queued on a state.  A slot never changes between
the two, apart from its session, which `GOODBYE` writes into the first slot after its teardown; a session
that is over is no concern here.

The only other slot that is filled late is the reply to `VOICE_ENABLE`, which waits for the end of a stream.
The invariant keeps its opcode, and so it is known not to be about the device.

Which notices a host sees, and in which order, is left to `CausalOrder` and `ControlQueue`.
-/

namespace RemoteBridge

open World

variable {E : Type} {b : Build} {k : Nat} {w w' : World E} {log : List Ev} {s s' : Server}

/-! ## The property -/

/-- The opcodes of the events in the control queue. -/
def controlEvents : List UInt16 :=
  [EventOp.deviceState.code, EventOp.findDone.code, EventOp.pairPrompt.code, EventOp.operation.code]

/-- What a slot holds when it is queued on `s`. -/
structure CtlSlot.Carries (slot : CtlSlot) (s : Server) : Prop where
  notice : Notice.any.shows slot = true → slot.payload = s.deviceInfoTlv
  kind : slot.kind = kindResponse ∨ slot.kind = kindEvent
  event : slot.kind = kindEvent → slot.opcode ∈ controlEvents

/-- What the frame of a slot is. -/
structure CtlSlot.SentAs (slot : CtlSlot) (l : List Ev) (h : Header) (payload : List UInt8) : Prop where
  kind : h.kind = slot.kind
  opcode : h.opcode = slot.opcode
  status : h.status = slot.status
  payload : payload = slot.payload
  own : (sessionView l).live = true → (sessionView l).clean = true → ∃ s, Ev.queued slot s ∈ sess l

/-- What the frame of a key state is. -/
structure KeyItem.SentAs (it : KeyItem) (h : Header) (payload : List UInt8) : Prop where
  kind : h.kind = kindEvent
  opcode : h.opcode = EventOp.keysState.code
  connection : h.connectionId = it.connection
  payload : payload = it.buf

/-- What holds of the frames that are queued and sent after `l`. -/
def Ev.carriedAfter : Ev → List Ev → Prop
  | .queued slot s, _ => slot.Carries s
  | .emitted (.ctl slot) h payload, l => slot.SentAs l h payload
  | .emitted (.key it) h payload, _ => it.SentAs h payload
  | _, _ => True

/-- Frames are what was queued. -/
def Carried (log : List Ev) : Prop := ∀ e l, (e :: l) <:+ log → e.carriedAfter l

lemma carried_cons {e : Ev} (hlog : Carried log) (he : e.carriedAfter log) : Carried (e :: log) := by
  intro e' l' hsuffix
  rcases List.suffix_cons_iff.mp hsuffix with heq | hold
  · obtain ⟨rfl, rfl⟩ := List.cons.inj heq
    exact he
  · exact hlog e' l' hold

/-! ## The invariant -/

/-- What was sent is sound, what is queued belongs to the session, and a deferred reply is the one to
`VOICE_ENABLE`. -/
structure Carrying (w : World E) : Prop where
  frames : Carried w.log
  own : (sessionView w.log).live = true → (sessionView w.log).clean = true →
    ∀ slot ∈ w.srv.ctlQueued, ∃ s, Ev.queued slot s ∈ sess w.log
  deferred : ∀ d, w.srv.voice.okDeferred = some d → d.opcode = RequestOp.voiceEnable.code

/-- The event is no frame, queues none and begins or ends no session. -/
def Ev.frameless : Ev → Bool
  | .queued _ _ | .emitted _ _ _ | .refused _ _ | .opened _ _ | .closed _ => false
  | _ => true

namespace Carrying

/-- A step without frames. -/
lemma next {l : List Ev} (hw : Carrying w) (hlog : w'.log = l ++ w.log)
    (hl : ∀ e ∈ l, e.frameless = true) (hc : w'.srv.ctlQueued ⊆ w.srv.ctlQueued)
    (hd : ∀ d, w'.srv.voice.okDeferred = some d → d.opcode = RequestOp.voiceEnable.code) :
    Carrying w' := by
  have hview : sessionView w'.log = sessionView w.log := by
    rw [hlog]
    refine sessionView_append fun e he => ?_
    have hplain := hl e he
    cases e <;> first | rfl | cases hplain
  have hkept : Carried w'.log ∧ sess w'.log = l ++ sess w.log := by
    rw [hlog]
    clear hlog hview
    induction l with
    | nil => exact ⟨hw.frames, rfl⟩
    | cons e l ih =>
      rw [List.forall_mem_cons] at hl
      obtain ⟨hcarried, hsess⟩ := ih hl.2
      have he := hl.1
      refine ⟨carried_cons hcarried ?_, ?_⟩
      · cases e <;> trivial
      · rw [List.cons_append, sess_cons_within (by cases e <;> first | rfl | cases he), hsess]
        rfl
  refine ⟨hkept.1, ?_, hd⟩
  rw [hview, hkept.2]
  intro hlive hclean slot hslot
  obtain ⟨s, hs⟩ := hw.own hlive hclean slot (hc hslot)
  exact ⟨s, List.mem_append_right _ hs⟩

lemma act (hw : Carrying w) (f : Server → Server) (hc : (f w.srv).ctl = w.srv.ctl)
    (hd : (f w.srv).voice.okDeferred = w.srv.voice.okDeferred) : Carrying (w.act f) := by
  refine hw.next (l := []) rfl (by simp) ?_ fun d h => hw.deferred d (hd ▸ h)
  unfold Server.ctlQueued
  rw [srv_act, hc]
  exact List.Subset.refl _

lemma note (hw : Carrying w) (e : Ev) (he : e.frameless = true) : Carrying (w.note e) :=
  hw.next (l := [e]) rfl (by simpa using he) (List.Subset.refl _) hw.deferred

/-- A control frame is queued. -/
lemma queue {slot : CtlSlot} {len : Nat} (hw : Carrying w) (hf : w.srv.ctlFits b len = true)
    (hu : slot.used = true) (hs : slot.Carries w.srv) : Carrying (w.queue slot) := by
  obtain ⟨xs, ys, hq, hput⟩ := ctlQueued_putCtl hf hu
  have hsess : sess (w.queue slot).log = .queued slot w.srv :: sess w.log := sess_cons_within rfl _
  refine ⟨carried_cons hw.frames hs, fun hlive hclean x hx => ?_, ?_⟩
  · rw [hsess]
    change x ∈ (w.srv.putCtl slot).ctlQueued at hx
    rw [hput] at hx
    have hcases : x = slot ∨ x ∈ w.srv.ctlQueued := by
      rw [hq]
      simp only [List.mem_append, List.mem_cons] at hx ⊢
      tauto
    rcases hcases with rfl | hold
    · exact ⟨w.srv, List.mem_cons_self ..⟩
    · obtain ⟨s, hmem⟩ := hw.own hlive hclean x hold
      exact ⟨s, List.mem_cons_of_mem _ hmem⟩
  · have hvoice : (w.queue slot).srv.voice = w.srv.voice := voice_putCtl w.srv slot
    rw [hvoice]
    exact hw.deferred

/-- A frame is written. -/
lemma emit {origin : Origin} {h : Header} {payload : List UInt8} (hw : Carrying w)
    (bytes : List UInt8) (next : UInt32)
    (hs : (Ev.emitted origin (h.stamped w.srv.session.nextTxSeq payload.length) payload).carriedAfter
      w.log) : Carrying (w.emit b origin h payload bytes next) := by
  have hput : Carrying (w.act (·.putFrame b bytes next)) := hw.act _ rfl rfl
  refine ⟨carried_cons hput.frames hs, fun hlive hclean slot hslot => ?_, hput.deferred⟩
  obtain ⟨s, hmem⟩ := hw.own hlive hclean slot hslot
  have hsess : sess (w.emit b origin h payload bytes next).log =
      .emitted origin (h.stamped w.srv.session.nextTxSeq payload.length) payload :: sess w.log :=
    sess_cons_within rfl _
  exact ⟨s, hsess ▸ List.mem_cons_of_mem _ hmem⟩

lemma withdraw (hw : Carrying w) : Carrying (w.withdraw b) := by
  refine ⟨carried_cons hw.frames trivial, fun hlive => absurd hlive Bool.false_ne_true, ?_⟩
  have hdeferred : (w.srv.withdraw b).voice.okDeferred = w.srv.voice.okDeferred ∨
      (w.srv.withdraw b).voice.okDeferred = none := by
    unfold Server.withdraw
    dsimp only [Server.stopDelivery, Server.ctlClear]
    split <;> first | exact .inl rfl | exact .inr rfl
  intro d hd
  rcases hdeferred with hsame | hnone
  · exact hw.deferred d (hsame ▸ hd)
  · exact nomatch hnone.symm.trans hd

/-- A session begins. -/
lemma greet (hw : Carrying w) (h : Header) : Carrying (w.greet h) := by
  refine ⟨carried_cons hw.frames trivial, fun _ hclean slot hslot => ?_, hw.deferred⟩
  have hempty : w.srv.ctlQueued = [] := List.isEmpty_iff.mp hclean
  exact absurd (hempty ▸ hslot : slot ∈ []) List.not_mem_nil

end Carrying

/-! ## Runs -/

/-- What an event of a report carries. -/
lemma carries_event {op : EventOp} {payload : List UInt8} (hp : Reported w op payload)
    (connectionId : UInt32) :
    (w.srv.ctlSlotFor kindEvent op.code .ok 0 connectionId payload).Carries w.srv := by
  refine ⟨fun hshows => ?_, .inr rfl, fun _ => ?_⟩
  · cases hp with
    | device => rfl
    | findDone => cases hshows
    | prompt => cases hshows
    | operation => cases hshows
  · cases hp <;> simp [controlEvents, Server.ctlSlotFor]

/-- What a response carries. -/
lemma carries_response {slot : CtlSlot} (hk : slot.kind = kindResponse)
    (hs : slot.isReport = true → slot.payload = s.deviceInfoTlv) : slot.Carries s := by
  have hnot : ¬ kindResponse = kindEvent := by decide
  refine ⟨fun hshows => hs ?_, .inl hk, fun hevent => absurd (hk.symm.trans hevent) hnot⟩
  simpa [Notice.shows, CtlSlot.isDevice, hk, hnot] using hshows

/-- What a reply carries. -/
lemma carries_reply {h : Header} {status : Status} {payload : List UInt8}
    (hs : h.opcode = RequestOp.getDevice.code → status = .ok → payload = s.deviceInfoTlv) :
    (s'.replySlot h status payload).Carries s := by
  refine carries_response rfl fun hreport => ?_
  simp only [CtlSlot.isReport, Bool.and_eq_true, beq_iff_eq] at hreport
  refine hs hreport.1.2 ?_
  have hcode : status.code = Status.ok.code := hreport.2
  cases status <;> first | rfl | cases hcode

/-- The deferred reply says nothing about the device. -/
lemma carries_deferred {d : DeferredOk} (ho : d.opcode = RequestOp.voiceEnable.code) :
    (s.deferredSlot d).Carries s := by
  refine carries_response rfl fun hreport => ?_
  simp [CtlSlot.isReport, Server.deferredSlot, Server.ctlSlotFor, ho, RequestOp.code] at hreport

lemma FrameStep.carrying (h : FrameStep b w w') (hw : Carrying w) : Carrying w' := by
  cases h with
  | plain l hlog hl hs =>
    refine hw.next hlog (fun e he => ?_) ?_ fun d hd => hw.deferred d (hs.deferred ▸ hd)
    · have hplain := hl e he
      cases e <;> first | rfl | cases hplain
    · unfold Server.ctlQueued
      rw [hs.ctl]
      exact List.Subset.refl _
  | keys rep =>
    have hkeys := onlyKeys_applyKeys w.srv rep
    exact (hw.act (·.applyKeys rep) hkeys.ctl (congrArg Voice.okDeferred hkeys.voice)).note _ rfl
  | subscribe =>
    have hkeys := onlyKeys_enableEvents w.srv
    exact (hw.act Server.enableEvents hkeys.ctl (congrArg Voice.okDeferred hkeys.voice)).note _ rfl
  | media op payload ha => exact (hw.act _ rfl rfl).note _ rfl
  | event op connectionId payload hp hf => exact hw.queue hf rfl (carries_event hp connectionId)
  | emitCtl i slot bytes next hi hu ho hs =>
    have hslot : slot ∈ w.srv.ctlQueued := List.mem_filter.mpr ⟨List.mem_of_getElem? hi, hu⟩
    have hemit : Carrying (w.emit b (.ctl slot) slot.header slot.payload bytes next) :=
      hw.emit bytes next ⟨rfl, rfl, rfl, rfl, fun hlive hclean => hw.own hlive hclean slot hslot⟩
    obtain ⟨xs, ys, hq, hfree⟩ := ctlQueued_freeSlot (s := w.srv.putFrame b bytes next) hi hu
    refine hemit.next (l := []) rfl (by simp) ?_ ?_
    · show ((w.srv.putFrame b bytes next).freeSlot i).ctlQueued ⊆ (w.srv.putFrame b bytes next).ctlQueued
      rw [hq, hfree]
      exact ((List.sublist_cons_self slot ys).append_left xs).subset
    · have hvoice : ((w.srv.putFrame b bytes next).freeSlot i).voice = w.srv.voice := voice_freeSlot _ i
      intro d hd
      exact hw.deferred d (hvoice ▸ hd)
  | emitKey item rest bytes next hq hs =>
    have hemit : Carrying (w.emit b (.key item) (w.srv.keyHeader item) item.buf bytes next) :=
      hw.emit bytes next ⟨rfl, rfl, rfl, rfl⟩
    exact hemit.act _ rfl rfl
  | emitMedia item rest bytes next ha hq hs =>
    have hemit : Carrying (w.emit b (.media item) (w.srv.mediaHeader item) item.payload bytes next) :=
      hw.emit bytes next trivial
    have hdeferred := congrArg Voice.okDeferred (source_popMedia item
      (w.emit b (.media item) (w.srv.mediaHeader item) item.payload bytes next).srv)
    exact hemit.act (Server.popMedia item) (onlyVoice_popMedia _ item).ctl hdeferred
  | withdraw => exact hw.withdraw

lemma Moves.carrying (h : Moves b k w w') (hw : Carrying w) : Carrying w' := by
  have hframes := h.frames
  clear h
  induction hframes with
  | refl => exact hw
  | tail _ hstep ih => exact hstep.carrying ih

/-- A reply is queued. -/
lemma Carrying.reply {h : Header} {status : Status} {payload : List UInt8} (hw : Carrying w)
    (hf : w.srv.ctlFits b payload.length = true)
    (hs : h.opcode = RequestOp.getDevice.code → status = .ok → payload = w.srv.deviceInfoTlv) :
    Carrying ((w.note (.answers h payload.length w.srv)).queue (w.srv.replySlot h status payload)) :=
  (hw.note (.answers h payload.length w.srv) rfl).queue (b := b) hf rfl (carries_reply hs)

/-- Patching a slot of a session that is over. -/
lemma Carrying.patch {closing : UInt32} (hw : Carrying w) (hlive : (sessionView w.log).live = false) :
    Carrying (w.act (Server.patchSlotZero closing)) := by
  refine ⟨hw.frames, fun hl => absurd (hlive.symm.trans hl) Bool.false_ne_true, ?_⟩
  have hvoice := (patchSlotZero_same w.srv closing).2.2.2.1
  rw [srv_act, hvoice]
  exact hw.deferred

lemma Answer.carrying {h : Header} (ha : Answer b h w w') (hn : Numbering w) (hw : Carrying w) :
    Carrying w' := by
  have hnumbering := ha.numbering hn
  have herror : ∀ {u : World E}, Carrying u → Carrying (u.act Server.protocolError) := fun hu =>
    hu.act _ rfl rfl
  have hkeep : ∀ {u : World E} (s : Server), Carrying u → Carrying (u.keepCommitted s h) := fun s hu =>
    ((hu.act _ rfl rfl).note _ rfl).note _ rfl
  cases ha with
  | reply status payload hs hf => exact hw.reply hf hs.device
  | full len _ hr => exact hr.carrying (herror (hw.note _ rfl)).withdraw
  | deferred ho =>
    have hdeferred : Carrying (w.act (Server.deferOk h)) := by
      refine hw.next (l := []) rfl (by simp) (List.Subset.refl _) fun d hd => ?_
      obtain rfl := Option.some.inj hd
      exact ho
    exact hdeferred.note _ rfl
  | @goodbye v ho hr hf =>
    have hkept := hkeep w.srv (hr.carrying hw.withdraw)
    have hqueued : Carrying ((v.keepCommitted w.srv h).queue
        ((v.keepCommitted w.srv h).srv.replySlot h .ok [])) := by
      refine hkept.queue hf rfl (carries_reply fun hget => ?_)
      rw [ho] at hget
      cases hget
    have hactive : v.srv.session.active = false := hr.inactive (active_withdraw b w.srv)
    refine hqueued.patch ?_
    exact ((hr.numbering hn.withdraw).signed.active.symm.trans hactive)
  | @goodbyeFull v _ _ hr _ hr' =>
    have hlast := hr'.carrying (herror (hkeep w.srv (hr.carrying hw.withdraw))).withdraw
    refine hlast.patch ?_
    have hkept : Numbering (v.keepCommitted w.srv h) :=
      (((hr.numbering hn.withdraw).act _ rfl rfl).note _ rfl).note _ rfl
    have herr : Numbering ((v.keepCommitted w.srv h).act Server.protocolError) := hkept.act _ rfl rfl
    exact (hr'.numbering herr.withdraw).signed.active.symm.trans (hr'.inactive (active_withdraw b _))

lemma Turns.carrying {g : Prop} (h : Turns b g w w') (hn : Numbering w) (hw : Carrying w) :
    Carrying w' := by
  induction h with
  | refl => exact hw
  | moves hm _ ih => exact hm.carrying ih
  | pump hm _ ih => exact hm.carrying ih
  | seq _ _ _ ih => exact ih.act _ rfl rfl
  | request hd payload _ hh h ih =>
    obtain ⟨w₁, w₂, h₁, ha, h₂⟩ := hh
    have hnumber : Numbering (World.accept hd payload _) := ((h.numbering hn).act _ rfl rfl).note _ rfl
    have haccept : Carrying (World.accept hd payload _) := (ih.act _ rfl rfl).note _ rfl
    exact h₂.carrying (ha.carrying (h₁.numbering hnumber) (h₁.carrying haccept))
  | refuse hd status payload _ hs hf _ ih => exact ih.reply hf fun _ hok => absurd hok hs.2
  | refuseFull _ _ _ _ ih => exact ih.note _ rfl
  | raw payload out hlen _ _ ih =>
    have hset := ih.act (Server.setOut out) rfl rfl
    refine ⟨carried_cons hset.frames trivial, fun hlive hclean slot hslot => ?_, hset.deferred⟩
    obtain ⟨s, hs⟩ := hset.own hlive hclean slot hslot
    exact ⟨s, List.mem_cons_of_mem _ hs⟩
  | hello hd _ _ _ _ _ hf _ ih => exact (ih.greet hd).queue hf rfl (carries_response rfl nofun)
  | helloFull hd _ _ _ _ _ _ _ ih => exact ih.greet hd
  | exhausted hd nonce _ _ hf _ ih =>
    have hturned : Carrying (World.turnAway hd _) := (ih.act _ rfl rfl).act _ rfl rfl
    exact hturned.queue hf rfl (carries_response rfl nofun)
  | exhaustedFull hd _ _ _ ih => exact (ih.act _ rfl rfl).act _ rfl rfl
  | deferred d ho _ _ _ hf _ ih =>
    exact (ih.queue hf rfl (carries_deferred (ih.deferred d ho))).next (l := []) rfl (by simp)
      (List.Subset.refl _) nofun
  | forget _ _ ih => exact ih.next (l := []) rfl (by simp) (List.Subset.refl _) nofun
  | gone _ _ _ ih =>
    refine ih.next (l := []) rfl (by simp) ?_ ih.deferred
    have hempty : ∀ s : Server, s.ctlClear.ctlQueued = [] := fun s => by
      simp [Server.ctlQueued, Server.ctlClear]
    show Server.ctlQueued (Server.ctlClear _) ⊆ _
    rw [hempty]
    exact List.nil_subset _

lemma Reach.carrying {ok : Input → Prop} (hw : Reach b ok w) : Carrying w := by
  obtain ⟨cfg, profile, loaded, env, hturns⟩ := hw.turns (g := True) fun _ _ => trivial
  refine hturns.carrying (numbering_init cfg profile loaded env)
    ⟨fun e l h => ?_, fun hlive => absurd hlive Bool.false_ne_true, nofun⟩
  exact absurd (List.suffix_nil.mp h) (List.cons_ne_nil _ _)

end RemoteBridge
