import RemoteBridge.Properties.OutputDrain

/-!
# Requests are answered

A request that the server has taken in the open session has its reply in the control queue, or the reply was
written (`Reach.served`).  So once the queues have drained, the host hears an answer to each of its requests
(`reach_requests_answered`).  `VOICE_ENABLE` is left out: its reply may be put off until the stream has ended.

The argument follows the one request that is being handled: it alone may have no reply yet, and only until
its handler answers it.  A handler may do anything before that, and may be interrupted by callbacks; what
counts is that it has one answer (`Answer`), and that an answer which finds no room takes the session with
it, and with the session all requests that it owed a reply.

The two halves are put together with `OutputDrain`, where the host keeps reading.  What an answer says is
not looked at; a refusal is an answer.
-/

namespace RemoteBridge

open World

variable {E : Type} {b : Build} {k : Nat} {w w' : World E} {h : Header}

/-! ## Replies -/

/-- `slot` holds the reply to `h`, in the session of `h`. -/
structure CtlSlot.Answers (slot : CtlSlot) (h : Header) : Prop where
  kind : slot.kind = kindResponse
  opcode : slot.opcode = h.opcode
  request : slot.requestId = h.requestId
  connection : slot.connectionId = h.connectionId
  session : slot.session = h.sessionId

/-- The frame of `slot` was written. -/
def CtlSlot.Sent (slot : CtlSlot) (log : List Ev) : Prop :=
  ∃ tx, Ev.emitted (.ctl slot) (slot.header.stamped tx slot.payload.length) slot.payload ∈ log

/-- The reply to `h` is queued or was written. -/
def Replied (h : Header) (w : World E) : Prop :=
  ∃ slot : CtlSlot, slot.Answers h ∧ (slot ∈ w.srv.ctlQueued ∨ slot.Sent w.log)

/-- `h` was taken in the newest session, and its reply is not one that may be put off. -/
def Asked (h : Header) (log : List Ev) : Prop :=
  h.opcode ≠ RequestOp.voiceEnable.code ∧ ∃ payload s, Ev.request h payload s ∈ current log

/-- Every request of the open session has its reply, but for the one that is being handled. -/
def Served (pending : Option Header) (w : World E) : Prop :=
  w.srv.session.active = true → ∀ h, Asked h w.log →
    h.sessionId = w.srv.session.id ∧ (Replied h w ∨ pending = some h)

variable {pending : Option Header}

namespace Served

lemma off (ha : w.srv.session.active = false) : Served pending w :=
  fun hactive => absurd (ha.symm.trans hactive) Bool.false_ne_true

/-- A step that takes no request, begins no session and loses no reply. -/
lemma next {l : List Ev} (hw : Served pending w) (hlog : w'.log = l ++ w.log)
    (hl : ∀ e ∈ l, e.opens = false ∧ e.asks = false)
    (hs : w'.srv.session.active = true →
      w.srv.session.active = true ∧ w'.srv.session.id = w.srv.session.id)
    (hq : ∀ slot ∈ w.srv.ctlQueued, slot ∈ w'.srv.ctlQueued ∨ slot.Sent w'.log) :
    Served pending w' := by
  rintro hactive h ⟨hopcode, payload, s, hm⟩
  obtain ⟨ha, hid⟩ := hs hactive
  rw [hlog] at hm
  obtain ⟨hsession, hreply⟩ := hw ha h ⟨hopcode, payload, s, mem_current_append hl hm⟩
  refine ⟨hsession.trans hid.symm, hreply.imp_left ?_⟩
  rintro ⟨slot, hanswers, hslot | ⟨tx, hsent⟩⟩
  · exact ⟨slot, hanswers, hq slot hslot⟩
  · exact ⟨slot, hanswers, .inr ⟨tx, hlog ▸ List.mem_append_right l hsent⟩⟩

/-- A step that leaves the session and the control queue alone. -/
lemma same {l : List Ev} (hw : Served pending w) (hlog : w'.log = l ++ w.log)
    (hl : ∀ e ∈ l, e.opens = false ∧ e.asks = false)
    (ha : w'.srv.session.active = w.srv.session.active) (hid : w'.srv.session.id = w.srv.session.id)
    (hctl : w'.srv.ctl = w.srv.ctl) : Served pending w' := by
  refine hw.next hlog hl (fun h => ⟨ha ▸ h, hid⟩) fun slot hslot => .inl ?_
  unfold Server.ctlQueued at hslot ⊢
  rwa [hctl]

lemma act (hw : Served pending w) (f : Server → Server)
    (ha : (f w.srv).session.active = w.srv.session.active)
    (hid : (f w.srv).session.id = w.srv.session.id) (hctl : (f w.srv).ctl = w.srv.ctl) :
    Served pending (w.act f) :=
  hw.same (l := []) rfl (by simp) ha hid hctl

lemma note (hw : Served pending w) (e : Ev) (he : e.opens = false ∧ e.asks = false) :
    Served pending (w.note e) :=
  hw.same (l := [e]) rfl (by simpa using he) rfl rfl rfl

lemma queue {slot : CtlSlot} {len : Nat} (hw : Served pending w) (hf : w.srv.ctlFits b len = true)
    (hu : slot.used = true) : Served pending (w.queue slot) := by
  have hsession : (w.queue slot).srv.session = w.srv.session := session_putCtl w.srv slot
  refine hw.next (l := [Ev.queued slot w.srv]) rfl (by simp [Ev.opens, Ev.asks])
    (fun ha => ⟨hsession ▸ ha, congrArg Session.id hsession⟩) fun a ha => .inl ?_
  obtain ⟨xs, ys, hq, hput⟩ := ctlQueued_putCtl hf hu
  show a ∈ (w.srv.putCtl slot).ctlQueued
  rw [hput]
  rw [hq] at ha
  exact List.mem_append.mpr ((List.mem_append.mp ha).imp_right (List.mem_cons_of_mem slot))

end Served

/-- A slot that is queued is in the queue. -/
lemma mem_ctlQueued_queue {slot : CtlSlot} {len : Nat} (hf : w.srv.ctlFits b len = true)
    (hu : slot.used = true) : slot ∈ (w.queue slot).srv.ctlQueued := by
  obtain ⟨xs, ys, -, hput⟩ := ctlQueued_putCtl hf hu
  show slot ∈ (w.srv.putCtl slot).ctlQueued
  rw [hput]
  exact List.mem_append_right xs List.mem_cons_self

/-! ## Steps -/

lemma FrameStep.served (hstep : FrameStep b w w') (hw : Served pending w) : Served pending w' := by
  cases hstep with
  | plain l hlog hl hs =>
    refine hw.same hlog (fun e he => ?_) (congrArg Session.active hs.session)
      (congrArg Session.id hs.session) hs.ctl
    have hplain := hl e he
    cases e <;> first | exact ⟨rfl, rfl⟩ | cases hplain
  | keys rep =>
    have hkeys := onlyKeys_applyKeys w.srv rep
    exact hw.same (l := [Ev.keys rep w.srv]) rfl (by simp [Ev.opens, Ev.asks])
      (congrArg Session.active hkeys.session) (congrArg Session.id hkeys.session) hkeys.ctl
  | subscribe =>
    have hkeys := onlyKeys_enableEvents w.srv
    exact hw.same (l := [Ev.subscribed w.srv]) rfl (by simp [Ev.opens, Ev.asks])
      (congrArg Session.active hkeys.session) (congrArg Session.id hkeys.session) hkeys.ctl
  | media op payload _ =>
    exact hw.same (l := [Ev.media _ _ _]) rfl (by simp [Ev.opens, Ev.asks]) rfl rfl rfl
  | event op connectionId payload _ hf => exact hw.queue hf rfl
  | emitCtl i slot bytes next hi hu ho hs =>
    have hsession : ((w.srv.putFrame b bytes next).freeSlot i).session =
        (w.srv.putFrame b bytes next).session := session_freeSlot _ i
    refine hw.next (l := [Ev.emitted (.ctl slot) _ _]) rfl (by simp [Ev.opens, Ev.asks])
      (fun ha => ⟨?_, (congrArg Session.id hsession).trans rfl⟩) fun a ha => ?_
    · exact (congrArg Session.active hsession).symm.trans ha
    · obtain ⟨xs, ys, hq, hfree⟩ := ctlQueued_freeSlot (s := w.srv.putFrame b bytes next) hi hu
      have hold : w.srv.ctlQueued = xs ++ slot :: ys := hq
      rw [hold] at ha
      have hkept : a = slot ∨ a ∈ xs ++ ys := by
        simp only [List.mem_append, List.mem_cons] at ha ⊢
        tauto
      rcases hkept with rfl | hkept
      · exact .inr ⟨_, List.mem_cons_self⟩
      · refine .inl ?_
        show a ∈ ((w.srv.putFrame b bytes next).freeSlot i).ctlQueued
        rw [hfree]
        exact hkept
  | emitKey item rest bytes next _ _ =>
    exact hw.same (l := [Ev.emitted _ _ _]) rfl (by simp [Ev.opens, Ev.asks]) rfl rfl rfl
  | emitMedia item rest bytes next _ _ _ =>
    exact hw.same (l := [Ev.emitted _ _ _]) rfl (by simp [Ev.opens, Ev.asks]) rfl rfl rfl
  | withdraw => exact .off (active_withdraw b w.srv)

lemma Moves.served (hm : Moves b k w w') (hw : Served pending w) : Served pending w' := by
  have hframes := hm.frames
  clear hm
  induction hframes with
  | refl => exact hw
  | tail _ hstep ih => exact hstep.served ih

/-! ## Requests -/

/-- The request that is being handled gets its reply. -/
lemma Answer.served (ha : Answer b h w w') (hw : Served (some h) w) : Served none w' := by
  have hpatch : ∀ {u : World E} (closing : UInt32), u.srv.session.active = false →
      Served none (u.act (Server.patchSlotZero closing)) := by
    intro u closing hu
    refine .off (Eq.trans ?_ hu)
    show (u.srv.patchSlotZero closing).session.active = u.srv.session.active
    unfold Server.patchSlotZero
    split <;> rfl
  cases ha with
  | reply status payload _ hf =>
    have hnoted := hw.note (.answers h payload.length w.srv) ⟨rfl, rfl⟩
    have hqueued : Served (some h) ((w.note (.answers h payload.length w.srv)).queue
        (w.srv.replySlot h status payload)) := hnoted.queue hf rfl
    have hmem : w.srv.replySlot h status payload ∈ ((w.note (.answers h payload.length w.srv)).queue
        (w.srv.replySlot h status payload)).srv.ctlQueued := mem_ctlQueued_queue hf rfl
    intro hactive g hg
    obtain ⟨hsession, hreply⟩ := hqueued hactive g hg
    refine ⟨hsession, .inl ?_⟩
    rcases hreply with hreply | heq
    · exact hreply
    · obtain rfl := Option.some.inj heq
      refine ⟨_, ⟨rfl, rfl, rfl, rfl, ?_⟩, .inl hmem⟩
      refine (hsession.trans ?_).symm
      exact congrArg Session.id (session_putCtl w.srv _)
  | full len _ hr => exact .off (hr.inactive (active_withdraw b _))
  | deferred ho =>
    have hdeferred : Served (some h) (w.defer h) :=
      (hw.act (Server.deferOk h) rfl rfl rfl).note (.deferred h w.srv) ⟨rfl, rfl⟩
    intro hactive g hg
    obtain ⟨hsession, hreply⟩ := hdeferred hactive g hg
    refine ⟨hsession, .inl (hreply.resolve_right fun heq => hg.1 ?_)⟩
    rw [← Option.some.inj heq]
    exact ho
  | @goodbye v _ hr _ =>
    have hgone : v.srv.session.active = false := hr.inactive (active_withdraw b w.srv)
    refine hpatch _ ?_
    exact (congrArg Session.active (session_putCtl _ _)).trans hgone
  | goodbyeFull _ hr _ hr' => exact hpatch _ (hr'.inactive (active_withdraw b _))

/-- A request is taken. -/
lemma Served.accept {payload : List UInt8} (hw : Served none w) (hn : NewRequest h w.srv) :
    Served (some h) (w.accept h payload) := by
  rintro - g ⟨hopcode, payload', s, hm⟩
  rcases List.mem_cons.mp hm with heq | hold
  · cases heq
    exact ⟨hn.session, .inr rfl⟩
  · obtain ⟨hsession, hreply⟩ := hw hn.active g ⟨hopcode, payload', s, hold⟩
    refine ⟨hsession, .inl ?_⟩
    obtain ⟨slot, hanswers, hslot⟩ := hreply.resolve_right (by simp)
    exact ⟨slot, hanswers, hslot.imp_right fun ⟨tx, hsent⟩ => ⟨tx, List.mem_cons_of_mem _ hsent⟩⟩

/-- A session begins without requests. -/
lemma Served.greet (hd : Header) : Served pending (w.greet hd) := by
  rintro - g ⟨-, payload, s, hm⟩
  have hnone : current (w.greet hd).log = [] :=
    (current_cons _ _).trans (if_pos (show (Ev.opened _ w.srv).opens = true from rfl))
  rw [hnone] at hm
  exact absurd hm List.not_mem_nil

lemma Turns.served {g : Prop} (hturns : Turns b g w w') (hw : Served none w) : Served none w' := by
  induction hturns with
  | refl => exact hw
  | moves hm _ ih => exact hm.served ih
  | pump hm _ ih => exact hm.served ih
  | seq _ _ _ ih => exact ih.act _ rfl rfl rfl
  | request _ _ hn hh _ ih =>
    obtain ⟨w₁, w₂, h₁, ha, h₂⟩ := hh
    exact h₂.served (ha.served (h₁.served (ih.accept hn)))
  | refuse hd _ payload _ _ hf _ ih =>
    exact Served.queue (b := b) (ih.note _ ⟨rfl, rfl⟩) hf rfl
  | refuseFull _ _ _ _ ih => exact ih.note _ ⟨rfl, rfl⟩
  | raw _ _ _ _ _ ih => exact (ih.act _ rfl rfl rfl).note _ ⟨rfl, rfl⟩
  | hello hd _ _ _ _ _ hf _ _ => exact (Served.greet hd).queue hf rfl
  | helloFull hd _ _ _ _ _ _ _ _ => exact Served.greet hd
  | exhausted hd _ _ _ _ _ _ => exact .off (congrArg Session.active (session_putCtl _ _))
  | exhaustedFull hd _ _ _ _ => exact .off rfl
  | deferred d _ _ _ _ hf _ ih => exact (ih.queue hf rfl).act _ rfl rfl rfl
  | forget _ _ ih => exact ih.act _ rfl rfl rfl
  | gone _ ha _ _ => exact .off ha

/-- In every run the requests of the open session have their replies. -/
lemma Reach.served {ok : Input → Prop} (hw : Reach b ok w) : Served none w := by
  obtain ⟨cfg, profile, loaded, env, hturns⟩ := hw.turns (g := True) fun _ _ => trivial
  exact hturns.served (.off rfl)

/-! ## The host -/

/-- **Requests are answered.**  A request that the server took in the open session has its reply, in the
queue or written; only that to `VOICE_ENABLE` may still be put off.  So once the host has read what hosts that
take at least one byte at a time have been given after as many calls as the backlog counts, it has heard a
response to the request, with the numbers of the request. -/
theorem reach_requests_answered (hw : Reach b Input.keepsHost w) (ha : w.srv.session.active = true)
    (h : Header) (payload : List UInt8) (s : Server) (hasked : Ev.request h payload s ∈ current w.log)
    (hopcode : h.opcode ≠ RequestOp.voiceEnable.code) :
    (h.sessionId = w.srv.session.id ∧ Replied h w) ∧
      (maxEncoded ≤ b.outRing → w.srv.session.nextTxSeq.toNat + w.srv.queuedCount < 0xffffffff →
        ∀ hosts : List (Platform E), (∀ P ∈ hosts, P.Reads) → (∀ P ∈ hosts, ∃ n, Honest b n P) →
          w.srv.backlog ≤ hosts.length →
          ∀ schedule : List (List UInt8 × Nat),
            (schedule.map Prod.fst).flatten = sentBytes (flushes b hosts w).log →
            Python.Event.timeout ∉ (Python.FrameParser.feedAll schedule {}).1 →
            ∃ f : Header × List UInt8, Python.Event.heard f ∈ (Python.FrameParser.feedAll schedule {}).1 ∧
              f.1.kind = kindResponse ∧ f.1.opcode = h.opcode ∧ f.1.requestId = h.requestId ∧
              f.1.connectionId = h.connectionId ∧ f.1.sessionId = w.srv.session.id) := by
  obtain ⟨hid, hreply⟩ := hw.served ha h ⟨hopcode, payload, s, hasked⟩
  have hreplied : Replied h w := hreply.resolve_right (by simp)
  refine ⟨⟨hid, hreplied⟩, fun hring hnumbers hosts hreads hhonest hn schedule hbytes htime => ?_⟩
  obtain ⟨slot, hanswers, hslot⟩ := hreplied
  have hflow := Reach.flowing hw ha hnumbers
  obtain ⟨⟨l, hlog, hl⟩, hflow', -⟩ := pumps_flushes hosts hflow
  obtain ⟨hout, hctl, hkeys, hmedia⟩ := hflow.drained hring hosts hreads hn
  have hreach : Reach b Input.keepsHost (flushes b hosts w) := Reach.flushes trivial hosts hhonest hw
  have hheard := Reach.heard_all hreach hflow'.active schedule hbytes htime hout
  -- the reply was written before, or it was queued and has been written since
  have hsent : slot.Sent (flushes b hosts w).log := by
    rw [hlog]
    rcases hslot with hqueued | ⟨tx, hold⟩
    · have hitem : Origin.ctl slot ∈ w.srv.queuedItems :=
        List.mem_append_left _ (List.mem_append_left _ (List.mem_map_of_mem hqueued))
      obtain ⟨hd, p, he⟩ := (hl.mem_queuedItems hctl hkeys hmedia _).mp hitem
      obtain ⟨hp, tx, htx⟩ := hl.carried _ hd p he
      change p = slot.payload at hp
      change hd = slot.header.stamped tx slot.payload.length at htx
      subst hp htx
      exact ⟨tx, List.mem_append_left _ he⟩
    · exact ⟨tx, List.mem_append_right _ hold⟩
  obtain ⟨tx, he⟩ := hsent
  have hsession : slot.session = w.srv.session.id := hanswers.session.trans hid
  have hframe : (slot.header.stamped tx slot.payload.length, slot.payload) ∈
      framesOf (flushes b hosts w).srv.session.id (flushes b hosts w).log := by
    rw [hl.session]
    refine List.mem_filter.mpr ⟨?_, beq_iff_eq.mpr hsession⟩
    exact List.mem_reverse.mpr (List.mem_filterMap.mpr ⟨_, he, rfl⟩)
  have hmem := List.mem_map_of_mem (f := Python.Event.heard) hframe
  rw [← hheard] at hmem
  exact ⟨_, List.mem_of_mem_filter hmem, hanswers.kind, hanswers.opcode, hanswers.request,
    hanswers.connection, hsession⟩

/-- A host has opened a session and sent a `PING`; nothing has left the board yet. -/
def askingWorld : World Unit := greetingWorld.pinged 2

lemma greetingWorld_rx : greetingWorld.srv.rx = RxParser.init 0 := by decide +kernel

lemma reach_askingWorld : Reach Build.default Input.keepsHost askingWorld := by
  unfold askingWorld World.pinged
  exact (reach_greetingWorld fun _ _ => trivial).listens (fun _ _ => trivial) greetingWorld_rx
    (length_tlvPut_le (Nat.zero_le _))

lemma askingWorld_facts : askingWorld.srv.session.active = true ∧
    askingWorld.srv.session.nextTxSeq.toNat + askingWorld.srv.queuedCount < 0xffffffff ∧
    askingWorld.srv.backlog ≤ 1200 := by
  decide +kernel

/-- The request that is taken at an event. -/
def Ev.request? : Ev → Option Header
  | .request h _ _ => some h
  | _ => none

lemma askingWorld_request : ∃ h payload s, Ev.request h payload s ∈ current askingWorld.log ∧
    h.opcode = RequestOp.ping.code ∧ h.requestId = 2 := by
  have hping : ∃ h ∈ (current askingWorld.log).filterMap Ev.request?,
      h.opcode = RequestOp.ping.code ∧ h.requestId = 2 := by
    decide +kernel
  obtain ⟨h, hmem, hfields⟩ := hping
  obtain ⟨e, he, hsome⟩ := List.mem_filterMap.mp hmem
  cases e with
  | request h' payload s =>
    cases hsome
    exact ⟨h, payload, s, he, hfields⟩
  | _ => cases hsome

/-- The host hears the answer to its `PING`. -/
theorem reach_requests_answered_askingWorld :
    ∃ f : Header × List UInt8, Python.Event.heard f ∈ (Python.FrameParser.feedAll [(sentBytes
        (flushes Build.default (List.replicate 1200 thirstyPlatform) askingWorld).log, 0)] {}).1 ∧
      f.1.kind = kindResponse ∧ f.1.opcode = RequestOp.ping.code ∧ f.1.requestId = 2 := by
  obtain ⟨ha, hnumbers, hle⟩ := askingWorld_facts
  obtain ⟨h, payload, s, hasked, hping, hrequest⟩ := askingWorld_request
  obtain ⟨-, hanswered⟩ :=
    reach_requests_answered reach_askingWorld ha h payload s hasked (by rw [hping]; decide)
  obtain ⟨f, hheard, hkind, hopcode, hid, -, -⟩ := hanswered (by decide) hnumbers
    (List.replicate 1200 thirstyPlatform) (reads_replicate 1200) (honest_replicate 1200)
    (hle.trans_eq List.length_replicate.symm) [(_, 0)] (flatten_read _ 0) (Python.timeout_not_mem_feedAll _ 0)
  exact ⟨f, hheard, hkind, hopcode.trans hping, hid.trans hrequest⟩

end RemoteBridge
