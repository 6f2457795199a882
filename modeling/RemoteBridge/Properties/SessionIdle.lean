import RemoteBridge.Product.Host

/-!
# Without a session the server is idle

Tearing a session down takes back everything the session owned: subscriptions, the stream, the search,
the prompt, the pairing and the queues of keys and media.  Whatever happens afterwards, up to the next
`HELLO`, nothing of this comes back.

Two requests break this.  `EVENTS_ENABLE(true)` and `PAIR_BEGIN` go on after they queued a reply, and a
reply that finds no room tears the session down.  The invariant holds in every run in which the frames of
these requests find room (`Granted`).

The invariant says of a server without a session that it is `Idle`.  It is needed at more moments than
between two inputs: a teardown calls the backend, which may report before it returns, and a report finds a
server that has given everything up already but whose teardown is not over.  So the invariant is kept by
every move, and the calls of a teardown come after its one step, `withdraw`.

An operation that deletes a peer is not owned by the session and goes on without it; what this does to the
next session is told in `OperationResults`.  The control queue may hold what the backend reports while there
is no session.
-/

namespace RemoteBridge

open World

variable {E : Type} {b : Build} {k : Nat} {w w' : World E}

/-- What a server without a session looks like. -/
structure Server.Idle (s : Server) : Prop where
  events : s.keys.enabled = false
  voice : s.voice.enabled = false
  find : s.find.active = false
  prompt : s.prompt.active = false
  delivering : s.voice.delivering = false
  stream : s.voice.streamId = 0
  keys : s.keys.queue = []
  media : s.voice.media = []
  pair : ¬ (s.op.active = true ∧ s.op.kind = some .pair)

/-- The session-idle property: without a session the server is idle, and no pairing was ever begun
without one. -/
structure SessionIdle (w : World E) : Prop where
  idle : w.srv.session.active = false → w.srv.Idle
  pairBegin : ∀ cid s, Ev.called (.pairBegin cid) s ∈ w.log → s.session.active = true

variable (b) in
/-- A granted request has a session and room for its frames. -/
def Ev.roomy : Ev → Bool
  | .granted lens s => s.roomFor b lens
  | _ => true

variable (b) in
/-- The frames of every granted request found room in a session. -/
def Granted (w : World E) : Prop := ∀ e ∈ w.log, e.roomy b = true

/-! ## The invariant -/

/-- The invariant: the server is idle without a session, and then it accepts no codec either. -/
structure Server.Quiescent (s : Server) : Prop extends s.Idle where
  maxUnit : s.voice.acceptedMaxUnit = 0

variable (b) in
/-- The session-idle property and what it rests on, unless a granted request found no room. -/
def Guarded (w : World E) : Prop :=
  ¬ Ungranted b w.log → (w.srv.session.active = false → w.srv.Quiescent) ∧
    ∀ cid s, Ev.called (.pairBegin cid) s ∈ w.log → s.session.active = true

lemma not_ungranted_of_cons {e : Ev} {l : List Ev} (h : ¬ Ungranted b (e :: l)) : ¬ Ungranted b l :=
  fun hu => h (hu.mono (List.subset_cons_self _ _))

/-- The invariant is about a few fields. -/
lemma Server.Quiescent.congr {s s' : Server} (h : s.Quiescent) (hk : s'.keys = s.keys)
    (hv : s'.voice = s.voice) (hf : s'.find = s.find) (hp : s'.prompt = s.prompt)
    (ho : s'.op = s.op) : s'.Quiescent := by
  refine ⟨⟨?_, ?_, ?_, ?_, ?_, ?_, ?_, ?_, ?_⟩, ?_⟩
  · exact hk ▸ h.events
  · exact hv ▸ h.voice
  · exact hf ▸ h.find
  · exact hp ▸ h.prompt
  · exact hv ▸ h.delivering
  · exact hv ▸ h.stream
  · exact hk ▸ h.keys
  · exact hv ▸ h.media
  · exact ho ▸ h.pair
  · exact hv ▸ h.maxUnit

lemma quiescent_withdraw (s : Server) : (s.withdraw b).Quiescent := by
  have hpair : ¬ ((s.op.active && s.op.kind != some OpKind.pair) = true ∧ s.op.kind = some .pair) := by
    rintro ⟨hactive, hkind⟩
    simp [hkind] at hactive
  unfold Server.withdraw
  dsimp only [Server.stopDelivery, Server.ctlClear]
  split <;> exact ⟨⟨rfl, rfl, rfl, rfl, rfl, rfl, rfl, rfl, hpair⟩, rfl⟩

lemma Quiet.quiescent {s s' : Server} (hq : Quiet s s') (h : s.Quiescent) : s'.Quiescent := by
  have hfield {β : Type} (f : Voice → β) : f s'.voice.core = f s.voice.core := congrArg f hq.stream
  refine ⟨⟨?_, ?_, ?_, ?_, ?_, ?_, ?_, ?_, ?_⟩, ?_⟩
  · exact hq.keys ▸ h.events
  · exact Bool.eq_false_iff.mpr fun hv => Bool.eq_false_iff.mp h.voice (hq.voice hv)
  · exact Bool.eq_false_iff.mpr fun hv => Bool.eq_false_iff.mp h.find (hq.find hv)
  · exact Bool.eq_false_iff.mpr fun hv => Bool.eq_false_iff.mp h.prompt (hq.prompt hv)
  · exact (hfield Voice.delivering).trans h.delivering
  · exact (hfield Voice.streamId).trans h.stream
  · exact hq.keys ▸ h.keys
  · exact (hfield Voice.media).trans h.media
  · rintro ⟨hactive, hkind⟩
    have hactive' := congrArg Operation.active hq.op
    have hkind' := congrArg Operation.kind hq.op
    exact h.pair ⟨hactive'.symm.trans hactive, hkind'.symm.trans hkind⟩
  · exact (hfield Voice.acceptedMaxUnit).trans h.maxUnit

/-- Key reports queue nothing while events are disabled. -/
lemma keysEmit_disabled {s : Server} (h : s.keys.enabled = false) (kind : KeysKind)
    (reason : KeysReason) (bits us : UInt64) : s.keysEmit kind reason bits us = s := by
  simp [Server.keysEmit, h]

lemma applyKeys_disabled {s : Server} (h : s.keys.enabled = false) (rep : KeysReport) :
    (s.applyKeys rep).keys.enabled = false ∧ (s.applyKeys rep).keys.queue = s.keys.queue := by
  unfold Server.applyKeys
  split
  · rw [keysEmit_disabled (by exact h)]
    exact ⟨h, rfl⟩
  · dsimp only
    rw [keysEmit_disabled (s := s.bumpInput.setCaptured rep.capturedUs) h]
    split
    · rw [keysEmit_disabled (by exact h)]
      exact ⟨h, rfl⟩
    · exact ⟨h, rfl⟩
  · rw [keysEmit_disabled (by exact h)]
    exact ⟨h, rfl⟩

lemma quiescent_applyKeys {s : Server} (h : s.Quiescent) (rep : KeysReport) :
    (s.applyKeys rep).Quiescent := by
  have hsame := onlyKeys_applyKeys s rep
  obtain ⟨henabled, hqueue⟩ := applyKeys_disabled h.events rep
  refine ⟨⟨henabled, ?_, ?_, ?_, ?_, ?_, hqueue.trans h.keys, ?_, ?_⟩, ?_⟩
  · exact hsame.voice ▸ h.voice
  · exact hsame.find ▸ h.find
  · exact hsame.prompt ▸ h.prompt
  · exact hsame.voice ▸ h.delivering
  · exact hsame.voice ▸ h.stream
  · exact hsame.voice ▸ h.media
  · exact hsame.op ▸ h.pair
  · exact hsame.voice ▸ h.maxUnit

/-! ## Moves keep it -/

def Ev.beginsPairing : Ev → Bool
  | .called (.pairBegin _) _ => true
  | _ => false

/-- A step that begins no pairing and keeps a server without a session quiescent. -/
lemma Guarded.next {l : List Ev} (hw : Guarded b w) (hlog : w'.log = l ++ w.log)
    (hl : ∀ e ∈ l, e.beginsPairing = false)
    (hq : w'.srv.session.active = false →
      w.srv.session.active = false ∧ (w.srv.Quiescent → w'.srv.Quiescent)) : Guarded b w' := by
  intro hu
  rw [hlog] at hu ⊢
  obtain ⟨hidle, hcalled⟩ := hw fun h => hu (h.mono (List.subset_append_right _ _))
  refine ⟨fun ha => (hq ha).2 (hidle (hq ha).1), fun cid s hmem => ?_⟩
  rcases List.mem_append.mp hmem with hnew | hold
  · exact absurd (hl _ hnew) nofun
  · exact hcalled cid s hold

/-- A step that leaves the log alone. -/
lemma Guarded.act (hw : Guarded b w) (f : Server → Server)
    (hq : (f w.srv).session.active = false →
      w.srv.session.active = false ∧ (w.srv.Quiescent → (f w.srv).Quiescent)) : Guarded b (w.act f) :=
  hw.next (l := []) rfl (by simp) hq

/-- A change of a server with a session. -/
lemma Guarded.held (hw : Guarded b w) (f : Server → Server) (ha : (f w.srv).session.active = true) :
    Guarded b (w.act f) :=
  hw.act f fun hinactive => absurd (ha.symm.trans hinactive) nofun

/-- A step that is recorded. -/
lemma Guarded.noted (hw : Guarded b w) (f : Server → Server) (e : Ev) (he : e.beginsPairing = false)
    (hq : (f w.srv).session.active = false →
      w.srv.session.active = false ∧ (w.srv.Quiescent → (f w.srv).Quiescent)) :
    Guarded b ((w.act f).note e) :=
  hw.next (l := [e]) rfl (by simpa using he) hq

lemma Guarded.note (hw : Guarded b w) (e : Ev) (he : e.beginsPairing = false) :
    Guarded b (w.note e) :=
  hw.next (l := [e]) rfl (by simpa using he) fun ha => ⟨ha, id⟩

lemma Guarded.emit (hw : Guarded b w) (origin : Origin) (h : Header) (payload bytes : List UInt8)
    (next : UInt32) : Guarded b (w.emit b origin h payload bytes next) :=
  hw.noted _ _ rfl fun ha => ⟨ha, (·.congr rfl rfl rfl rfl rfl)⟩

lemma Guarded.queue (hw : Guarded b w) (slot : CtlSlot) : Guarded b (w.queue slot) := by
  refine hw.noted _ _ rfl fun ha => ⟨by simpa using ha, fun hidle => ?_⟩
  exact hidle.congr (by simp) (by simp) (by simp) (by simp) (by simp)

lemma Guarded.withdraw (hw : Guarded b w) : Guarded b (w.withdraw b) := by
  intro hu
  obtain ⟨_, hcalled⟩ := hw (not_ungranted_of_cons hu)
  refine ⟨fun _ => quiescent_withdraw _, fun cid s hmem => ?_⟩
  rcases List.mem_cons.mp hmem with hhead | htail
  · cases hhead
  · exact hcalled cid s htail

/-- A media item is only queued in a session. -/
lemma Guarded.push (hw : Guarded b w) (ha : w.srv.session.active = true) (op : EventOp)
    (payload : List UInt8) (f : Server → Server) (hf : ∀ s, (f s).session = s.session) :
    Guarded b ((w.pushMedia op payload).act f) := by
  refine hw.next (l := [_]) rfl (by simp [Ev.beginsPairing]) fun hinactive => ?_
  rw [srv_act, hf] at hinactive
  exact absurd (ha.symm.trans hinactive) nofun

/-- Changes of fields outside of the invariant. -/
lemma Server.Quiescent.linkDown {s : Server} (h : s.Quiescent) : s.linkDown.Quiescent :=
  ⟨⟨h.events, rfl, h.find, h.prompt, h.delivering, h.stream, h.keys, h.media, h.pair⟩, h.maxUnit⟩

lemma Server.Quiescent.settle {s : Server} (h : s.Quiescent) (left : Bool) (state : LinkState) :
    (s.settle left state).Quiescent := by
  have hdisable : s.disableEvents.Quiescent :=
    ⟨⟨rfl, h.voice, h.find, h.prompt, h.delivering, h.stream, h.keys, h.media, h.pair⟩, h.maxUnit⟩
  unfold Server.settle
  cases left with
  | true =>
    cases state.down with
    | true => exact hdisable.linkDown
    | false => exact hdisable
  | false =>
    cases state.down with
    | true => exact h.linkDown
    | false => exact h

lemma Guarded.announce (hw : Guarded b w) (connCtx : UInt32) : Guarded b (w.announce b connCtx) := by
  rcases announce_cases (b := b) connCtx w with ⟨_, heq⟩ | heq
  · rw [heq]
    exact hw.queue _
  · rw [heq]
    exact (hw.act _ fun ha => ⟨ha, (·.congr rfl rfl rfl rfl rfl)⟩).withdraw

lemma Guarded.cancel (hw : Guarded b w) : Guarded b w.cancel :=
  hw.noted _ _ rfl fun ha => ⟨ha, fun h => ⟨⟨h.events, h.voice, h.find, rfl, h.delivering, h.stream,
    h.keys, h.media, h.pair⟩, h.maxUnit⟩⟩

lemma Guarded.retires (hw : Guarded b w) (hr : Retires w w') : Guarded b w' := by
  have hend : Guarded b (w.act Server.endOp) :=
    hw.act _ fun ha => ⟨ha, fun h => ⟨⟨h.events, h.voice, h.find, h.prompt, h.delivering, h.stream,
      h.keys, h.media, fun hpair => nomatch hpair.1⟩, h.maxUnit⟩⟩
  cases hr with
  | plain _ => exact hend
  | cancel _ _ => exact hend.cancel

lemma Moves.guarded (h : Moves b k w w') (hw : Guarded b w) : Guarded b w' := by
  induction h with
  | refl => exact hw
  | send _ _ _ _ ih => exact (ih hw).noted _ _ rfl fun ha => ⟨ha, (·.congr rfl rfl rfl rfl rfl)⟩
  | flush _ _ ih => exact (ih hw).note _ rfl
  | emitCtl _ i _ _ _ _ _ _ _ _ _ ih =>
    refine ((ih hw).emit _ _ _ _ _).act _ fun ha => ⟨by simpa using ha, fun hidle => ?_⟩
    exact hidle.congr (by simp) (by simp) (by simp) (by simp) (by simp)
  | emitKey _ item rest _ _ hq _ _ _ ih =>
    -- an idle server has no key state and no media to send
    refine ((ih hw).emit _ _ _ _ _).act _ fun ha => ⟨ha, fun hidle => ?_⟩
    exact absurd (hidle.keys.symm.trans hq) nofun
  | emitMedia _ item rest _ _ _ hq _ _ _ ih =>
    refine ((ih hw).emit _ _ _ _ _).act _ fun ha => ⟨ha, fun hidle => ?_⟩
    exact absurd (hidle.media.symm.trans hq) nofun
  | pump _ _ _ _ ihf ih => exact ihf (ih hw)
  | teardown _ _ ih ihr => exact ihr (ih hw).withdraw
  | keys _ rep _ ih =>
    refine (ih hw).noted _ _ rfl fun ha => ⟨?_, (quiescent_applyKeys · rep)⟩
    simpa [(onlyKeys_applyKeys _ rep).session] using ha
  | discard _ hd _ ih =>
    refine (ih hw).act _ fun ha => ⟨ha, fun hidle => ?_⟩
    exact absurd (hidle.delivering.symm.trans hd) nofun
  | cut _ _ hd _ _ ha _ ihf ih =>
    have hdiscard := (ih hw).act Server.mediaDiscardCurrent fun ha =>
      ⟨ha, fun hidle => absurd (hidle.delivering.symm.trans hd) nofun⟩
    exact (ihf hdiscard).push ha _ _ _ fun s => (onlyVoice_endQueued s true).session
  | drain _ _ _ _ _ _ ha _ ihf ih =>
    exact (ihf (ih hw)).push ha _ _ _ fun s => (onlyVoice_endQueued s false).session
  | env _ _ _ ih => exact (ih hw).next (l := []) rfl (by simp) fun ha => ⟨ha, id⟩
  | quiet _ f hq _ ih => exact (ih hw).act _ fun ha => ⟨hq.session ▸ ha, hq.quiescent⟩
  | called _ c hc _ _ ih =>
    -- a pairing is only asked for by a session that may
    intro hu
    obtain ⟨hidle, hcalled⟩ := ih hw (not_ungranted_of_cons hu)
    refine ⟨hidle, fun cid s hmem => ?_⟩
    rcases List.mem_cons.mp hmem with hhead | htail
    · obtain ⟨rfl, rfl⟩ : c = .pairBegin cid ∧ s = _ := by
        injection hhead with hc hs
        exact ⟨hc.symm, hs⟩
      exact (hc cid rfl).2.resolve_right (not_ungranted_of_cons hu)
    · exact hcalled cid s htail
  | fault _ _ _ ih => exact (ih hw).note _ rfl
  | event _ _ _ _ _ _ _ ih => exact (ih hw).queue _
  | @link _ _ _ w₁ _ _ state _ hn _ _ _ _ ihw ih =>
    have hnew : Guarded b w₁ := by
      rcases hn with rfl | ⟨_, _, rfl⟩
      · exact ih hw
      · exact (ih hw).noted _ _ rfl fun ha => ⟨ha, fun h => ⟨⟨h.events, h.voice, h.find, h.prompt,
          h.delivering, h.stream, h.keys, h.media, h.pair⟩, h.maxUnit⟩⟩
    have hset := hnew.act (Server.setLink state) fun ha => ⟨ha, (·.congr rfl rfl rfl rfl rfl)⟩
    exact ((ihw hset).act _ fun ha => ⟨by simpa using ha, (·.settle _ _)⟩).announce _
  | profile _ _ _ _ ih =>
    exact ((ih hw).noted _ _ rfl fun ha => ⟨ha, (·.congr rfl rfl rfl rfl rfl)⟩).announce _
  | start _ f _ hc _ _ ha _ ihf ih =>
    have hopen := (ih hw).act Server.openStream fun ha =>
      ⟨ha, fun hidle => absurd (codecAccepted_eq_false hidle.maxUnit f) (by simp [hc])⟩
    exact (ihf hopen).push ha _ _ _ fun _ => rfl
  | noStart _ f _ hc _ _ _ ihf ih =>
    have hopen := (ih hw).act Server.openStream fun ha =>
      ⟨ha, fun hidle => absurd (codecAccepted_eq_false hidle.maxUnit f) (by simp [hc])⟩
    exact (ihf hopen).act _ fun ha => ⟨ha, fun h => ⟨⟨h.events, h.voice, h.find, h.prompt, rfl, rfl,
      h.keys, h.media, h.pair⟩, h.maxUnit⟩⟩
  | format _ _ _ _ _ _ _ _ ha _ ihf ih => exact (ihf (ih hw)).push ha _ _ _ fun _ => rfl
  | unit _ _ _ _ _ ih =>
    exact (ih hw).act _ fun ha => ⟨ha, fun h => ⟨⟨h.events, h.voice, h.find, h.prompt,
      h.delivering, h.stream, h.keys, h.media, h.pair⟩, h.maxUnit⟩⟩
  | fragment _ _ _ _ _ _ ha _ ihf ih =>
    exact (ihf (ih hw)).push ha _ _ _ fun s => (onlyVoice_dataQueued s _ _ _).session
  | resumeVoice _ ha _ ih => exact (ih hw).held _ ha
  | prompt _ _ _ _ _ ho _ _ ih =>
    exact (ih hw).act _ fun ha => ⟨ha, fun hidle => absurd ho hidle.pair⟩
  | cancel _ _ _ _ ih => exact (ih hw).cancel
  | finish _ _ _ hv _ _ _ ihm ih =>
    exact (ihm ((ih hw).retires hv)).noted _ _ rfl fun ha => ⟨ha, fun h => ⟨⟨h.events, h.voice, h.find,
      h.prompt, h.delivering, h.stream, h.keys, h.media, h.pair⟩, h.maxUnit⟩⟩
  | granted _ _ _ ih => exact (ih hw).note _ rfl
  | enableEvents _ hg _ ih =>
    -- events are enabled within a session, unless a grant found no room, which is the exception
    intro hu
    rcases hg with ⟨ha, _⟩ | hung
    · have hheld := (ih hw).held Server.enableEvents (by rw [(onlyKeys_enableEvents _).session, ha])
      exact hheld.note (.subscribed _) rfl hu
    · exact absurd (hung.ungranted.mono (List.subset_cons_self _ _)) hu
  | stopEvents _ _ ih =>
    exact (ih hw).act _ fun ha => ⟨ha, fun h => ⟨⟨rfl, h.voice, h.find, h.prompt, h.delivering,
      h.stream, rfl, h.media, h.pair⟩, h.maxUnit⟩⟩
  | beginFind _ _ _ ha _ ih => exact (ih hw).held _ ha
  | beginOp _ kind hd deadlineMs _ _ ha _ ih =>
    intro hu
    cases kind with
    | pair =>
      have hheld := (ih hw).held (Server.beginOp .pair hd deadlineMs)
        ((ha rfl).resolve_right (not_ungranted_of_cons hu))
      exact hheld.note _ rfl hu
    | forget =>
      refine ((ih hw).noted _ _ rfl fun ha => ⟨ha, fun h => ⟨⟨h.events, h.voice, h.find, h.prompt,
        h.delivering, h.stream, h.keys, h.media, ?_⟩, h.maxUnit⟩⟩) hu
      exact fun hpair => nomatch hpair.2
  | enableVoice _ _ _ ha _ _ ih => exact (ih hw).held _ ha
  | disableVoice _ _ ih =>
    exact (ih hw).act _ fun ha => ⟨ha, fun h => ⟨⟨h.events, rfl, h.find, h.prompt, h.delivering,
      h.stream, h.keys, h.media, h.pair⟩, rfl⟩⟩

/-! ## Whole runs -/

lemma Answer.guarded {h : Header} (ha : Answer b h w w') (hw : Guarded b w) : Guarded b w' := by
  have hkeep : ∀ {v : World E} (s : Server), Guarded b v → Guarded b (v.keepCommitted s h) :=
    fun _ hv => (hv.noted _ _ rfl fun ha => ⟨ha, (·.congr rfl rfl rfl rfl rfl)⟩).note _ rfl
  have herror : ∀ {v : World E}, Guarded b v → Guarded b (v.act Server.protocolError) :=
    fun hv => hv.act _ fun ha => ⟨ha, (·.congr rfl rfl rfl rfl rfl)⟩
  have hpatch : ∀ {v : World E} (closing : UInt32), Guarded b v →
      Guarded b (v.act (Server.patchSlotZero closing)) := by
    intro v closing hv
    refine hv.act _ fun ha => ?_
    unfold Server.patchSlotZero at ha ⊢
    split at ha
    · exact ⟨ha, id⟩
    · exact ⟨ha, (·.congr rfl rfl rfl rfl rfl)⟩
  cases ha with
  | reply status payload _ _ => exact (hw.note _ rfl).queue _
  | full len _ hr => exact hr.guarded (herror (hw.note _ rfl)).withdraw
  | deferred _ =>
    exact hw.noted _ _ rfl fun ha => ⟨ha, fun h => ⟨⟨h.events, h.voice, h.find, h.prompt,
      h.delivering, h.stream, h.keys, h.media, h.pair⟩, h.maxUnit⟩⟩
  | goodbye _ hr _ => exact hpatch _ ((hkeep _ (hr.guarded hw.withdraw)).queue _)
  | goodbyeFull _ hr _ hr' =>
    exact hpatch _ (hr'.guarded (herror (hkeep _ (hr.guarded hw.withdraw))).withdraw)

lemma Handles.guarded {h : Header} (hh : Handles b h w w') (hw : Guarded b w) : Guarded b w' := by
  obtain ⟨w₁, w₂, h₁, ha, h₂⟩ := hh
  exact h₂.guarded (ha.guarded (h₁.guarded hw))

lemma Guarded.greet (hw : Guarded b w) (h : Header) : Guarded b (w.greet h) := by
  refine hw.next (l := [_]) rfl (by simp [Ev.beginsPairing]) fun hinactive => ?_
  exact absurd hinactive (by simp [World.greet, World.create, Server.openSession, Server.helloSeen])

lemma Turns.guarded {g : Prop} (h : Turns b g w w') (hw : Guarded b w) : Guarded b w' := by
  induction h with
  | refl => exact hw
  | moves hm _ ih => exact hm.guarded ih
  | pump hm _ ih => exact hm.guarded ih
  | seq _ _ _ ih => exact ih.act _ fun ha => ⟨ha, (·.congr rfl rfl rfl rfl rfl)⟩
  | request hd payload _ hh _ ih =>
    exact hh.guarded (ih.noted _ _ rfl fun ha => ⟨ha, (·.congr rfl rfl rfl rfl rfl)⟩)
  | refuse _ _ _ _ _ _ _ ih => exact (ih.note _ rfl).queue _
  | refuseFull _ _ _ _ ih => exact ih.note _ rfl
  | raw _ _ _ _ _ ih => exact ih.noted _ _ rfl fun ha => ⟨ha, (·.congr rfl rfl rfl rfl rfl)⟩
  | hello hd _ _ _ _ _ _ _ ih => exact (ih.greet hd).queue _
  | helloFull hd _ _ _ _ _ _ _ ih => exact ih.greet hd
  | exhausted _ _ ha _ _ _ ih =>
    exact ((ih.act _ fun _ => ⟨ha, (·.congr rfl rfl rfl rfl rfl)⟩).act _
      fun ha => ⟨ha, (·.congr rfl rfl rfl rfl rfl)⟩).queue _
  | exhaustedFull _ ha _ _ ih =>
    exact (ih.act _ fun _ => ⟨ha, (·.congr rfl rfl rfl rfl rfl)⟩).act _
      fun ha => ⟨ha, (·.congr rfl rfl rfl rfl rfl)⟩
  | deferred _ _ _ _ _ _ _ ih =>
    exact (ih.queue _).act _ fun ha => ⟨ha, fun h => ⟨⟨h.events, h.voice, h.find, h.prompt,
      h.delivering, h.stream, h.keys, h.media, h.pair⟩, h.maxUnit⟩⟩
  | forget _ _ ih =>
    exact ih.act _ fun ha => ⟨ha, fun h => ⟨⟨h.events, h.voice, h.find, h.prompt, h.delivering,
      h.stream, h.keys, h.media, h.pair⟩, h.maxUnit⟩⟩
  | gone _ _ _ ih =>
    exact (ih.act _ fun ha => ⟨ha, (·.congr rfl rfl rfl rfl rfl)⟩).act _
      fun ha => ⟨ha, (·.congr rfl rfl rfl rfl rfl)⟩

lemma guarded_init (cfg : Config) (profile : Option DeviceProfile) (loaded : Option PeerRecord)
    (env : E) :
    Guarded b ({ srv := Server.init b cfg profile loaded, env := env, log := [] } : World E) :=
  fun _ => ⟨fun _ => ⟨⟨rfl, rfl, rfl, rfl, rfl, rfl, rfl, rfl, fun h => nomatch h.1⟩, rfl⟩, by simp⟩

/-- In every run in which granted requests find room, a server without a session is idle, and no
pairing is begun without a session. -/
theorem reach_sessionIdle (hw : Reach b anyInput w) (hg : Granted b w) : SessionIdle w := by
  obtain ⟨cfg, profile, loaded, env, hturns⟩ := hw.turns (g := True) fun _ _ => trivial
  have hnever : ¬ Ungranted b w.log := by
    rintro ⟨lens, s, hs, hroom⟩
    have hroomy : s.roomFor b lens = true := hg _ hs
    rw [hroomy] at hroom
    cases hroom
  obtain ⟨hidle, hcalled⟩ := hturns.guarded (guarded_init cfg profile loaded env) hnever
  exact ⟨fun ha => (hidle ha).toIdle, hcalled⟩

/-! ## A run with room and one without -/

/-- Events are enabled on connection 7, and the host goes away. -/
def subscribedAndGone : World Unit :=
  (Input.usbGone 0).run Build.default silentPlatform
    (readyWorld.listens (hostHeader .eventsEnable 1 2 7) 2 (tlvPutBool 1 true []))

theorem reach_sessionIdle_subscribedAndGone :
    subscribedAndGone.srv.session.active = false ∧ SessionIdle subscribedAndGone := by
  refine ⟨by decide +kernel, reach_sessionIdle (b := Build.default) ?_ ?_⟩
  · exact ((reach_readyWorld (fun _ _ => trivial) trivial).listens (fun _ _ => trivial) rfl
      (by decide)).silent trivial
  · unfold Granted
    decide +kernel

/-- Four `PING`s fill the control queue behind the reply to `HELLO` and the state of the device, and
`EVENTS_ENABLE(true)` finds no room for its reply. -/
def crowdedWorld : World Unit :=
  (((((readyWorld.pinged 2).pinged 3).pinged 4).pinged 5).listens (hostHeader .eventsEnable 1 6 7) 6
    (tlvPutBool 1 true []))

lemma reach_crowdedWorld : Reach Build.default anyInput crowdedWorld := by
  have hready : Reach Build.default anyInput readyWorld := reach_readyWorld (fun _ _ => trivial) trivial
  have hpinged := (((hready.pinged 2 rfl).pinged 3 rfl).pinged 4 rfl).pinged 5 rfl
  exact hpinged.listens (fun _ _ => trivial) rfl (by decide)

/-- The session is gone, and events are enabled. -/
theorem crowdedWorld_not_idle :
    ¬ ∀ w : World Unit, Reach Build.default anyInput w → SessionIdle w := by
  intro hall
  have hidle := (hall _ reach_crowdedWorld).idle (by decide +kernel)
  have henabled : crowdedWorld.srv.keys.enabled = true := by decide +kernel
  rw [hidle.events] at henabled
  cases henabled

end RemoteBridge
