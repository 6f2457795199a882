import RemoteBridge.Product.Frames
import RemoteBridge.Properties.CausalOrder

/-!
# Sessions and the numbers of frames

Sessions are numbered from one, and so are the frames of a session, over its queued replies and events, its
key states and its audio alike (`FrameNumbers`).  A frame carries the number of the newest session, or none:
control frames keep the session in which they were queued, and what the backend reports while a session is
torn down is queued without one.  If nothing was left in the control queue when a session began, then all
frames that are written as long as it lasts are its own.

One frame is not numbered like this.  The answer to a `HELLO` of another version belongs to no session even
while one is open; it goes to the ring at once, with the number one and session zero, and takes no number
away (`Ev.numberedAfter`, `refused`).

`SessionView` is what the log says about the newest session, and `Signed` compares it with the server: the
counter of sessions, the number of the next frame, and the sessions of the queued control frames.  The
sequence number stays at zero before the first session, so that a server that was never greeted sends
nothing.

Both counters have 32 bits, and both are guarded: a session whose numbers are spent is torn down, and a
board whose sessions are spent turns hosts away.  So there is no condition on runs here.
-/

namespace RemoteBridge

open World

variable {E : Type} {b : Build} {k : Nat} {w w' : World E} {log : List Ev} {v : SessionView} {s s' : Server}

/-! ## The property -/

/-- What the log says about the newest session. -/
structure SessionView where
  /-- Its number; zero before the first. -/
  id : UInt32 := 0
  /-- How many frames were written since it began. -/
  frames : Nat := 0
  /-- It was not torn down yet. -/
  live : Bool := false
  /-- The control queue was empty when it began. -/
  clean : Bool := false
  deriving DecidableEq, Repr

def SessionView.after : Ev → SessionView → SessionView
  | .opened id s, _ => ⟨id, 0, true, s.ctlQueued.isEmpty⟩
  | .emitted _ _ _, v => { v with frames := v.frames + 1 }
  | .closed _, v => { v with live := false }
  | _, v => v

def sessionView (log : List Ev) : SessionView := log.foldr SessionView.after {}

/-- A frame as the encoder writes it, of a kind that hosts know. -/
structure SoundFrame (h : Header) (payload : List UInt8) : Prop where
  stamped : h.stamped h.txSeq payload.length = h
  size : payload.length ≤ maxPayload
  flags : h.flags = 0
  kind : h.kind = kindResponse ∨ h.kind = kindEvent ∨ h.kind = kindAudio

/-- The frame with header `h` is the next of the newest session, and belongs to it or to none. -/
structure NextOf (v : SessionView) (h : Header) : Prop where
  begun : v.id ≠ 0
  number : h.txSeq.toNat = v.frames + 1
  session : h.sessionId = 0 ∨ h.sessionId = v.id
  own : v.live = true → v.clean = true → h.sessionId = v.id

/-- What holds of frames and openings behind `log`. -/
def Ev.numberedAfter (log : List Ev) : Ev → Prop
  | .emitted _ h payload => SoundFrame h payload ∧ NextOf (sessionView log) h
  | .refused h payload => SoundFrame h payload ∧ h.sessionId = 0 ∧ h.txSeq = 1
  | .opened id _ => id.toNat = (sessionView log).id.toNat + 1
  | _ => True

/-- Sessions and their frames are numbered from one. -/
def FrameNumbers (log : List Ev) : Prop := ∀ e l, (e :: l) <:+ log → e.numberedAfter l

/-! ## The invariant -/

/-- What the sequence numbers and the marks of frames depend on. -/
def Session.numbers (s : Session) : Bool × UInt32 × UInt32 × UInt32 := (s.active, s.id, s.counter, s.nextTxSeq)

/-- The server against the log. -/
structure Signed (v : SessionView) (s : Server) : Prop where
  counter : s.session.counter = v.id
  next : s.session.nextTxSeq.toNat = if v.id = 0 then 0 else v.frames + 1
  active : s.session.active = v.live
  id : s.session.id = if v.live then v.id else 0
  slots : ∀ slot ∈ s.ctlQueued, slot.session = 0 ∨ slot.session = v.id
  own : v.live = true → v.clean = true → ∀ slot ∈ s.ctlQueued, slot.session = v.id
  kinds : ∀ slot ∈ s.ctlQueued, slot.kind = kindResponse ∨ slot.kind = kindEvent

/-- The frames so far are numbered, and so will be the next. -/
structure Numbering (w : World E) : Prop where
  frames : FrameNumbers w.log
  signed : Signed (sessionView w.log) w.srv

/-- The events that the numbers depend on. -/
def Ev.numbers : Ev → Bool
  | .opened _ _ | .emitted _ _ _ | .refused _ _ | .closed _ => true
  | _ => false

lemma frameNumbers_cons {e : Ev} (hlog : FrameNumbers log) (he : e.numberedAfter log) :
    FrameNumbers (e :: log) := by
  intro e' l hsuffix
  rcases List.suffix_cons_iff.mp hsuffix with heq | hold
  · obtain ⟨rfl, rfl⟩ := List.cons.inj heq
    exact he
  · exact hlog e' l hold

lemma sessionView_cons (e : Ev) (log : List Ev) : sessionView (e :: log) = (sessionView log).after e := rfl

lemma sessionView_append {l : List Ev} (hl : ∀ e ∈ l, e.numbers = false) :
    sessionView (l ++ log) = sessionView log := by
  induction l with
  | nil => rfl
  | cons e l ih =>
    rw [List.forall_mem_cons] at hl
    have htail := ih hl.2
    have he := hl.1
    cases e with
    | opened | emitted | refused | closed => simp [Ev.numbers] at he
    | _ => exact htail

lemma frameNumbers_append {l : List Ev} (hlog : FrameNumbers log) (hl : ∀ e ∈ l, e.numbers = false) :
    FrameNumbers (l ++ log) := by
  induction l with
  | nil => exact hlog
  | cons e l ih =>
    rw [List.forall_mem_cons] at hl
    refine frameNumbers_cons (ih hl.2) ?_
    have he := hl.1
    cases e with
    | opened | emitted | refused | closed => simp [Ev.numbers] at he
    | _ => trivial

/-- Only the number of the session changes in the queue. -/
lemma mem_patchSlotZero {closing : UInt32} {a : CtlSlot} (ha : a ∈ (s.patchSlotZero closing).ctlQueued) :
    a ∈ s.ctlQueued ∨ ∃ x ∈ s.ctlQueued, a = { x with session := closing } := by
  unfold Server.patchSlotZero at ha
  split at ha
  · exact .inl ha
  · next first rest hcons =>
    unfold Server.ctlQueued at ha ⊢
    obtain ⟨ha, hu⟩ := List.mem_filter.mp ha
    rw [hcons]
    rcases List.mem_cons.mp ha with rfl | ha
    · exact .inr ⟨first, List.mem_filter.mpr ⟨List.mem_cons_self, hu⟩, rfl⟩
    · exact .inl (List.mem_filter.mpr ⟨List.mem_cons_of_mem _ ha, hu⟩)

namespace Signed

/-- The numbers of the session stay, and the control queue may shrink. -/
lemma same (h : Signed v s) (hn : s'.session.numbers = s.session.numbers)
    (hc : s'.ctlQueued ⊆ s.ctlQueued) : Signed v s' := by
  simp only [Session.numbers, Prod.mk.injEq] at hn
  obtain ⟨hactive, hid, hcounter, hnext⟩ := hn
  exact {
    counter := hcounter.trans h.counter
    next := by rw [hnext, h.next]
    active := hactive.trans h.active
    id := hid.trans h.id
    slots := fun slot hslot => h.slots slot (hc hslot)
    own := fun hlive hclean slot hslot => h.own hlive hclean slot (hc hslot)
    kinds := fun slot hslot => h.kinds slot (hc hslot) }

/-- A control frame is queued in the session of the moment. -/
lemma queue {slot : CtlSlot} {len : Nat} (h : Signed v s) (hf : s.ctlFits b len = true)
    (hu : slot.used = true) (hid : slot.session = s.session.id)
    (hk : slot.kind = kindResponse ∨ slot.kind = kindEvent) : Signed v (s.putCtl slot) := by
  obtain ⟨xs, ys, hq, hput⟩ := ctlQueued_putCtl hf hu
  have hmem : ∀ a ∈ (s.putCtl slot).ctlQueued, a = slot ∨ a ∈ s.ctlQueued := by
    intro a ha
    rw [hput] at ha
    rw [hq]
    simp only [List.mem_append, List.mem_cons] at ha ⊢
    tauto
  have hsession : slot.session = if v.live then v.id else 0 := hid.trans h.id
  refine ⟨by simpa using h.counter, by simpa using h.next, by simpa using h.active, by simpa using h.id,
    fun a ha => ?_, fun hlive hclean a ha => ?_, fun a ha => ?_⟩
  · rcases hmem a ha with rfl | ha
    · rw [hsession]
      split
      · exact .inr rfl
      · exact .inl rfl
    · exact h.slots a ha
  · rcases hmem a ha with rfl | ha
    · rw [hsession, if_pos hlive]
    · exact h.own hlive hclean a ha
  · rcases hmem a ha with rfl | ha
    · exact hk
    · exact h.kinds a ha

/-- The first slot gets the number of a session that is over, or none. -/
lemma patch {closing : UInt32} (h : Signed v s) (hlive : v.live = false)
    (hc : closing = 0 ∨ closing = v.id) : Signed v (s.patchSlotZero closing) := by
  have hsession := (patchSlotZero_same s closing).1
  refine ⟨hsession ▸ h.counter, hsession ▸ h.next, hsession ▸ h.active, hsession ▸ h.id,
    fun a ha => ?_, fun hl => absurd (hlive.symm.trans hl) Bool.false_ne_true, fun a ha => ?_⟩
  · rcases mem_patchSlotZero ha with ha | ⟨x, -, rfl⟩
    · exact h.slots a ha
    · exact hc
  · rcases mem_patchSlotZero ha with ha | ⟨x, hx, rfl⟩
    · exact h.kinds a ha
    · exact h.kinds x hx

end Signed

namespace Numbering

/-- A step that begins no session, ends none and writes nothing. -/
lemma next {l : List Ev} (hw : Numbering w) (hlog : w'.log = l ++ w.log)
    (hl : ∀ e ∈ l, e.numbers = false) (hs : Signed (sessionView w.log) w'.srv) : Numbering w' where
  frames := hlog ▸ frameNumbers_append hw.frames hl
  signed := by rwa [hlog, sessionView_append hl]

lemma same {l : List Ev} (hw : Numbering w) (hlog : w'.log = l ++ w.log)
    (hl : ∀ e ∈ l, e.numbers = false) (hn : w'.srv.session.numbers = w.srv.session.numbers)
    (hc : w'.srv.ctl = w.srv.ctl) : Numbering w' := by
  refine hw.next hlog hl (hw.signed.same hn ?_)
  unfold Server.ctlQueued
  rw [hc]
  exact List.Subset.refl _

lemma act (hw : Numbering w) (f : Server → Server)
    (hn : (f w.srv).session.numbers = w.srv.session.numbers) (hc : (f w.srv).ctl = w.srv.ctl) :
    Numbering (w.act f) :=
  hw.same (l := []) rfl (by simp) hn hc

lemma note (hw : Numbering w) (e : Ev) (he : e.numbers = false) : Numbering (w.note e) :=
  hw.same (l := [e]) rfl (by simpa using he) rfl rfl

lemma queue {slot : CtlSlot} {len : Nat} (hw : Numbering w) (hf : w.srv.ctlFits b len = true)
    (hu : slot.used = true) (hid : slot.session = w.srv.session.id)
    (hk : slot.kind = kindResponse ∨ slot.kind = kindEvent) : Numbering (w.queue slot) :=
  hw.next (l := [_]) rfl (by simp [Ev.numbers]) (hw.signed.queue hf hu hid hk)

/-- A frame is written. -/
lemma emit {origin : Origin} {h : Header} {payload bytes : List UInt8} {next : UInt32}
    (hw : Numbering w) (hs : Sendable b h payload w.srv bytes next) (hflags : h.flags = 0)
    (hkind : h.kind = kindResponse ∨ h.kind = kindEvent ∨ h.kind = kindAudio)
    (hsession : h.sessionId = 0 ∨ h.sessionId = (sessionView w.log).id)
    (hown : (sessionView w.log).live = true → (sessionView w.log).clean = true →
      h.sessionId = (sessionView w.log).id) :
    Numbering (w.emit b origin h payload bytes next) := by
  have henc := hs.encoded
  unfold frameEncode at henc
  split at henc
  · cases henc
  · next hlen =>
    obtain ⟨-, rfl⟩ := Prod.mk.inj (Option.some.inj henc)
    have htx := hw.signed.next
    have hne : w.srv.session.nextTxSeq.toNat ≠ 0 := fun h0 => hs.tx_ne_zero (UInt32.toNat_inj.mp h0)
    have hbegun : (sessionView w.log).id ≠ 0 := by
      intro h0
      rw [if_pos h0] at htx
      exact hne htx
    rw [if_neg hbegun] at htx
    have hnext : (w.srv.session.nextTxSeq + 1).toNat = (sessionView w.log).frames + 1 + 1 := by
      have hlt := w.srv.session.nextTxSeq.toNat_lt
      have hmax : w.srv.session.nextTxSeq.toNat ≠ 4294967295 := fun h =>
        hs.tx_ne_max (UInt32.toNat_inj.mp h)
      have hone : (1 : UInt32).toNat = 1 := rfl
      rw [UInt32.toNat_add, hone, Nat.mod_eq_of_lt (by omega), htx]
    refine ⟨frameNumbers_cons hw.frames ⟨⟨rfl, by omega, hflags, hkind⟩, hbegun, htx, hsession, hown⟩, ?_⟩
    exact {
      counter := hw.signed.counter
      next := hnext.trans (if_neg hbegun).symm
      active := hw.signed.active
      id := hw.signed.id
      slots := hw.signed.slots
      own := hw.signed.own
      kinds := hw.signed.kinds }

lemma withdraw (hw : Numbering w) : Numbering (w.withdraw b) where
  frames := frameNumbers_cons hw.frames trivial
  signed := by
    have hsession : (w.srv.withdraw b).session = { w.srv.session with active := false, id := 0 } := by
      unfold Server.withdraw
      dsimp only [Server.stopDelivery, Server.ctlClear]
      split <;> rfl
    have hempty : ∀ slot, slot ∉ (w.srv.withdraw b).ctlQueued := by simp
    exact {
      counter := (congrArg Session.counter hsession).trans hw.signed.counter
      next := (congrArg (fun s : Session => s.nextTxSeq.toNat) hsession).trans hw.signed.next
      active := congrArg Session.active hsession
      id := congrArg Session.id hsession
      slots := fun slot hslot => absurd hslot (hempty slot)
      own := fun hlive => absurd hlive Bool.false_ne_true
      kinds := fun slot hslot => absurd hslot (hempty slot) }

end Numbering

/-! ## Steps -/

lemma FrameStep.numbering (h : FrameStep b w w') (hw : Numbering w) : Numbering w' := by
  have hid := hw.signed.id
  have hcases : w.srv.session.id = 0 ∨ w.srv.session.id = (sessionView w.log).id := by
    rw [hid]
    split
    · exact .inr rfl
    · exact .inl rfl
  have hown : (sessionView w.log).live = true → (sessionView w.log).clean = true →
      w.srv.session.id = (sessionView w.log).id := fun hlive _ => hid.trans (if_pos hlive)
  cases h with
  | plain l hlog hl hs =>
    refine hw.same hlog (fun e he => ?_) (congrArg Session.numbers hs.session) hs.ctl
    have hplain := hl e he
    cases e <;> first | rfl | cases hplain
  | keys rep =>
    have hkeys := onlyKeys_applyKeys w.srv rep
    exact hw.same (l := [_]) rfl (by simp [Ev.numbers]) (congrArg Session.numbers hkeys.session) hkeys.ctl
  | subscribe =>
    have hkeys := onlyKeys_enableEvents w.srv
    exact hw.same (l := [_]) rfl (by simp [Ev.numbers]) (congrArg Session.numbers hkeys.session) hkeys.ctl
  | media op payload ha => exact hw.same (l := [_]) rfl (by simp [Ev.numbers]) rfl rfl
  | event op connectionId payload hp hf => exact hw.queue hf rfl rfl (.inr rfl)
  | emitCtl i slot bytes next hi hu ho hs =>
    have hslot : slot ∈ w.srv.ctlQueued := List.mem_filter.mpr ⟨List.mem_of_getElem? hi, hu⟩
    have hkind : slot.kind = kindResponse ∨ slot.kind = kindEvent ∨ slot.kind = kindAudio :=
      (hw.signed.kinds slot hslot).imp id .inl
    have hemit : Numbering (w.emit b (.ctl slot) _ _ bytes next) :=
      hw.emit hs rfl hkind (hw.signed.slots slot hslot) fun hlive hclean =>
        hw.signed.own hlive hclean slot hslot
    obtain ⟨xs, ys, hq, hfree⟩ := ctlQueued_freeSlot (s := w.srv.putFrame b bytes next) hi hu
    refine hemit.next (l := []) rfl (by simp) (hemit.signed.same ?_ ?_)
    · exact congrArg Session.numbers (session_freeSlot _ i)
    · show ((w.srv.putFrame b bytes next).freeSlot i).ctlQueued ⊆ (w.srv.putFrame b bytes next).ctlQueued
      rw [hq, hfree]
      exact ((List.sublist_cons_self slot ys).append_left xs).subset
  | emitKey item rest bytes next hq hs =>
    exact (hw.emit hs rfl (.inr (.inl rfl)) hcases hown).act _ rfl rfl
  | emitMedia item rest bytes next ha hq hs =>
    refine (hw.emit hs rfl ?_ hcases hown).act _ rfl rfl
    unfold Server.mediaHeader
    dsimp only
    split
    · exact .inr (.inr rfl)
    · exact .inr (.inl rfl)
  | withdraw => exact hw.withdraw

lemma Moves.numbering (h : Moves b k w w') (hw : Numbering w) : Numbering w' := by
  have hframes := h.frames
  clear h
  induction hframes with
  | refl => exact hw
  | tail _ hstep ih => exact hstep.numbering ih

/-- No move begins a session. -/
lemma Moves.view_id (h : Moves b k w w') : (sessionView w'.log).id = (sessionView w.log).id := by
  have hframes := h.frames
  clear h
  induction hframes with
  | refl => rfl
  | tail _ hstep ih =>
    rw [← ih]
    cases hstep with
    | plain l hlog hl hs =>
      rw [hlog, sessionView_append fun e he => ?_]
      have hplain := hl e he
      cases e <;> first | rfl | cases hplain
    | _ => rfl

/-! ## Sessions begin -/

/-- There is no session, and what is queued belongs to none. -/
structure Offline (s : Server) : Prop where
  id : s.session.id = 0
  slots : ∀ slot ∈ s.ctlQueued, slot.session = 0

lemma Offline.same (h : Offline s) (hid : s'.session.id = s.session.id)
    (hc : s'.ctlQueued ⊆ s.ctlQueued) : Offline s' :=
  ⟨hid.trans h.id, fun slot hslot => h.slots slot (hc hslot)⟩

lemma offline_withdraw (s : Server) : Offline (s.withdraw b) := by
  refine ⟨?_, by simp⟩
  unfold Server.withdraw
  dsimp only [Server.stopDelivery, Server.ctlClear]
  split <;> rfl

lemma FrameStep.offline (h : FrameStep b w w') (hw : Offline w.srv) : Offline w'.srv := by
  have hsame : ∀ {s s' : Server}, s'.ctl = s.ctl → s'.ctlQueued ⊆ s.ctlQueued := by
    intro s s' hc
    unfold Server.ctlQueued
    rw [hc]
    exact List.Subset.refl _
  cases h with
  | plain l hlog hl hs => exact hw.same (congrArg Session.id hs.session) (hsame hs.ctl)
  | keys rep =>
    have hkeys := onlyKeys_applyKeys w.srv rep
    exact hw.same (congrArg Session.id hkeys.session) (hsame hkeys.ctl)
  | subscribe =>
    have hkeys := onlyKeys_enableEvents w.srv
    exact hw.same (congrArg Session.id hkeys.session) (hsame hkeys.ctl)
  | media => exact hw.same rfl (hsame rfl)
  | event op connectionId payload hp hf =>
    obtain ⟨xs, ys, hq, hput⟩ := ctlQueued_putCtl hf
      (show (w.srv.ctlSlotFor kindEvent op.code .ok 0 connectionId payload).used = true from rfl)
    refine ⟨(congrArg Session.id (session_putCtl w.srv _)).trans hw.id, fun a ha => ?_⟩
    change a ∈ (w.srv.putCtl _).ctlQueued at ha
    rw [hput] at ha
    rcases List.mem_append.mp ha with ha | ha
    · exact hw.slots a (hq ▸ List.mem_append_left _ ha)
    · rcases List.mem_cons.mp ha with rfl | ha
      · exact hw.id
      · exact hw.slots a (hq ▸ List.mem_append_right _ ha)
  | emitCtl i slot bytes next hi hu ho hs =>
    obtain ⟨xs, ys, hq, hfree⟩ := ctlQueued_freeSlot (s := w.srv.putFrame b bytes next) hi hu
    refine Offline.same (s := w.srv.putFrame b bytes next) ⟨hw.id, hw.slots⟩
      (congrArg Session.id (session_freeSlot _ i)) ?_
    show ((w.srv.putFrame b bytes next).freeSlot i).ctlQueued ⊆ (w.srv.putFrame b bytes next).ctlQueued
    rw [hq, hfree]
    exact ((List.sublist_cons_self slot ys).append_left xs).subset
  | emitKey => exact ⟨hw.id, hw.slots⟩
  | emitMedia => exact ⟨hw.id, hw.slots⟩
  | withdraw => exact offline_withdraw w.srv

lemma Torn.offline (h : Torn b w) : Offline w.srv := by
  obtain ⟨v, hm⟩ := h
  have hframes := hm.frames
  clear hm
  induction hframes with
  | refl => exact offline_withdraw v.srv
  | tail _ hstep ih => exact hstep.offline ih

/-- A session begins; the control queue holds nothing of another one. -/
lemma Numbering.greet (hw : Numbering w) (ht : Torn b w) (hc : w.srv.session.counter ≠ 0xffffffff)
    (h : Header) : Numbering (w.greet h) := by
  have hcounter := hw.signed.counter
  have hid : (w.srv.session.counter + 1).toNat = w.srv.session.counter.toNat + 1 := by
    have hlt := w.srv.session.counter.toNat_lt
    have hmax : w.srv.session.counter.toNat ≠ 4294967295 := fun h => hc (UInt32.toNat_inj.mp h)
    have hone : (1 : UInt32).toNat = 1 := rfl
    rw [UInt32.toNat_add, hone, Nat.mod_eq_of_lt (by omega)]
  have hne : w.srv.session.counter + 1 ≠ 0 := by
    intro h0
    rw [h0] at hid
    exact absurd hid (Nat.zero_ne_add_one _)
  have hopened : (Ev.opened (w.srv.session.counter + 1) w.srv).numberedAfter w.log := by
    show (w.srv.session.counter + 1).toNat = _
    rw [hid, hcounter]
  refine ⟨frameNumbers_cons hw.frames hopened, ?_⟩
  exact {
    counter := rfl
    next := (if_neg hne).symm
    active := rfl
    id := rfl
    slots := fun slot hslot => .inl (ht.offline.slots slot hslot)
    own := by
      intro _ hclean slot hslot
      have hempty : w.srv.ctlQueued = [] := List.isEmpty_iff.mp hclean
      exact absurd (hempty ▸ hslot : slot ∈ []) List.not_mem_nil
    kinds := hw.signed.kinds }

/-! ## Runs -/

lemma Numbering.reply {h : Header} {status : Status} {payload : List UInt8} (hw : Numbering w)
    (hf : w.srv.ctlFits b payload.length = true) :
    Numbering ((w.note (.answers h payload.length w.srv)).queue (w.srv.replySlot h status payload)) :=
  (hw.note (.answers h payload.length w.srv) rfl).queue (b := b) hf rfl rfl (.inl rfl)

/-- After `GOODBYE` has torn its session down, its reply gets the number of that session. -/
lemma Numbering.parted (hw : Numbering w) (hr : Moves b 2 (w.withdraw b) w')
    {u : World E} (hu : Numbering u) (hlive : (sessionView u.log).live = false)
    (hid : (sessionView u.log).id = (sessionView w'.log).id) :
    Numbering (u.act (Server.patchSlotZero w.srv.session.id)) := by
  have hclosing : w.srv.session.id = 0 ∨ w.srv.session.id = (sessionView u.log).id := by
    have hold : (sessionView u.log).id = (sessionView w.log).id := hid.trans hr.view_id
    rw [hw.signed.id, hold]
    split
    · exact .inr rfl
    · exact .inl rfl
  exact hu.next (l := []) rfl (by simp) (hu.signed.patch hlive hclosing)

lemma Answer.numbering {h : Header} (ha : Answer b h w w') (hw : Numbering w) : Numbering w' := by
  have herror : ∀ {u : World E}, Numbering u → Numbering (u.act Server.protocolError) := fun hu =>
    hu.act _ rfl rfl
  have hkeep : ∀ {u : World E} (s : Server), Numbering u → Numbering (u.keepCommitted s h) := fun s hu =>
    ((hu.act _ rfl rfl).note _ rfl).note _ rfl
  cases ha with
  | reply status payload _ hf => exact hw.reply hf
  | full len _ hr => exact hr.numbering (herror (hw.note _ rfl)).withdraw
  | deferred _ => exact (hw.act _ rfl rfl).note _ rfl
  | @goodbye v _ hr hf =>
    have hkept := hkeep w.srv (hr.numbering hw.withdraw)
    have hqueued : Numbering ((v.keepCommitted w.srv h).queue
        ((v.keepCommitted w.srv h).srv.replySlot h .ok [])) :=
      hkept.queue hf rfl rfl (.inl rfl)
    have hactive : v.srv.session.active = false := hr.inactive (active_withdraw b w.srv)
    exact hw.parted hr hqueued (hkept.signed.active.symm.trans hactive) rfl
  | @goodbyeFull v _ _ hr _ hr' =>
    have hkept := hkeep w.srv (hr.numbering hw.withdraw)
    have hlast := hr'.numbering (herror hkept).withdraw
    refine hw.parted hr hlast (hlast.signed.active.symm.trans (hr'.inactive (active_withdraw b _))) ?_
    exact hr'.view_id

lemma Turns.numbering {g : Prop} (h : Turns b g w w') (hw : Numbering w) : Numbering w' := by
  induction h with
  | refl => exact hw
  | moves hm _ ih => exact hm.numbering ih
  | pump hm _ ih => exact hm.numbering ih
  | seq _ _ _ ih => exact ih.act _ rfl rfl
  | request hd payload _ hh _ ih =>
    obtain ⟨w₁, w₂, h₁, ha, h₂⟩ := hh
    exact h₂.numbering (ha.numbering (h₁.numbering ((ih.act _ rfl rfl).note _ rfl)))
  | refuse hd status payload _ _ hf _ ih => exact ih.reply hf
  | refuseFull _ _ _ _ ih => exact ih.note _ rfl
  | raw payload out hlen _ _ ih =>
    refine ⟨frameNumbers_cons ih.frames ⟨⟨rfl, hlen, rfl, .inl rfl⟩, rfl, rfl⟩, ?_⟩
    exact ih.signed.same rfl (List.Subset.refl _)
  | hello hd _ _ _ ht hc hf _ ih => exact (ih.greet ht hc hd).queue hf rfl rfl (.inl rfl)
  | helloFull hd _ _ _ ht hc _ _ ih => exact ih.greet ht hc hd
  | exhausted hd nonce ha _ hf _ ih =>
    have hturned : Numbering (World.turnAway hd _) :=
      (ih.act Server.noSession (by simp [Session.numbers, Server.noSession, ha]) rfl).act _ rfl rfl
    exact hturned.queue hf rfl rfl (.inl rfl)
  | exhaustedFull hd ha _ _ ih =>
    exact (ih.act Server.noSession (by simp [Session.numbers, Server.noSession, ha]) rfl).act _ rfl rfl
  | deferred d _ _ _ _ hf _ ih => exact (ih.queue hf rfl rfl (.inl rfl)).act _ rfl rfl
  | forget _ _ ih => exact ih.act _ rfl rfl
  | gone _ _ _ ih =>
    refine ih.next (l := []) rfl (by simp) (ih.signed.same rfl ?_)
    have hempty : ∀ s : Server, s.ctlClear.ctlQueued = [] := fun s => by
      simp [Server.ctlQueued, Server.ctlClear]
    show Server.ctlQueued (Server.ctlClear _) ⊆ _
    rw [hempty]
    exact List.nil_subset _

lemma numbering_init (cfg : Config) (profile : Option DeviceProfile) (loaded : Option PeerRecord) (env : E) :
    Numbering ({ srv := Server.init b cfg profile loaded, env := env, log := [] } : World E) := by
  have hempty : (Server.init b cfg profile loaded).ctlQueued = [] := by
    simp [Server.ctlQueued, Server.init]
  have hnone : ∀ slot, slot ∉ (Server.init b cfg profile loaded).ctlQueued := by simp [hempty]
  refine ⟨fun e l h => ?_, ?_⟩
  · exact absurd (List.suffix_nil.mp h) (List.cons_ne_nil _ _)
  · exact ⟨rfl, rfl, rfl, rfl, fun slot hslot => absurd hslot (hnone slot),
      fun h => absurd h Bool.false_ne_true, fun slot hslot => absurd hslot (hnone slot)⟩

lemma Reach.numbering {ok : Input → Prop} (hw : Reach b ok w) : Numbering w := by
  obtain ⟨cfg, profile, loaded, env, hturns⟩ := hw.turns (g := True) fun _ _ => trivial
  exact hturns.numbering (numbering_init cfg profile loaded env)

/-- **Sessions and their frames are numbered from one**, in every run. -/
theorem reach_frameNumbers (hw : Reach b anyInput w) : FrameNumbers w.log := hw.numbering.frames

/-- What a subscription queued is written, and the host says `HELLO` in another version. -/
def refusedWorld : World Unit :=
  (Input.usbRx (wireFrame futureHello []) 0).run Build.default thirstyPlatform
    (Input.flush.run Build.default thirstyPlatform subscribedWorld)

/-- A `PING` follows. -/
def numberedWorld : World Unit := Input.flush.run Build.default thirstyPlatform (refusedWorld.pinged 3)

/-- How many frames were written outside of any session. -/
def refusals (log : List Ev) : Nat := log.countP fun e => e matches .refused _ _

/-- What the runs come to; they share their beginning. -/
lemma numberedWorld_facts : refusedWorld.srv.rx = RxParser.init 0 ∧
    sessionView numberedWorld.log = ⟨1, 5, true, true⟩ ∧ refusals numberedWorld.log = 1 := by
  decide +kernel

lemma reach_numberedWorld : Reach Build.default anyInput numberedWorld := by
  have hrefused : Reach Build.default anyInput refusedWorld :=
    (reach_subscribedWorld.thirsty trivial).thirsty trivial
  exact (hrefused.pinged 3 numberedWorld_facts.1).thirsty trivial

/-- The refusal takes no number of the session: the session's five frames are numbered around it. -/
theorem reach_frameNumbers_numberedWorld :
    FrameNumbers numberedWorld.log ∧ sessionView numberedWorld.log = ⟨1, 5, true, true⟩ ∧
      refusals numberedWorld.log = 1 :=
  ⟨reach_frameNumbers reach_numberedWorld, numberedWorld_facts.2⟩

end RemoteBridge
