import RemoteBridge.Product.Frames
import RemoteBridge.Product.Host
import RemoteBridge.Properties.Statistics

/-!
# The end of a pairing

A successful pairing ends with two events: the `OPERATION` that tells its result, and the `DEVICE_STATE`
of the link that it leaves behind.  `rbp_server_on_pair_done` completes the operation first and reports
the link afterwards, so the result never comes last: whenever both events find room in the control queue,
the link state is queued behind the result (`pairResult_last_iff`).

The document has it the other way round, so the statement is an equivalence: the result comes last exactly
when the pairing leaves no connection behind, or when the result or the state of the link does not find room
in the control queue (`Server.pairOvertaken`).

The proof follows `on_pair_done` from call to call.  Each call may reach the backend, which may report
before it returns; such a report can queue more events, and it can end the session by filling the queue.
`Ev.closes` cuts the log into sessions, and the two events count only when they stand in one.

Pairings that fail leave no link and are not in question; they end with their result alone.
-/

namespace RemoteBridge

open World

variable {E : Type} {b : Build} {P : Platform E} {k : Nat} {w w' : World E}

/-! ## Logs grow -/

lemma FrameStep.log_suffix (h : FrameStep b w w') : w.log <:+ w'.log := by
  cases h with
  | plain l hlog => exact ⟨l, hlog.symm⟩
  | keys | subscribe | media | event | emitCtl | emitKey | emitMedia | withdraw => exact ⟨[_], rfl⟩

lemma Moves.log_suffix (h : Moves b k w w') : w.log <:+ w'.log := by
  have hframes := h.frames
  clear h
  induction hframes with
  | refl => exact List.suffix_refl _
  | tail _ hstep ih => exact ih.trans hstep.log_suffix

lemma Answer.log_suffix {h : Header} (ha : Answer b h w w') : w.log <:+ w'.log := by
  cases ha with
  | reply => exact ⟨[_, _], rfl⟩
  | full len _ hr => exact List.IsSuffix.trans ⟨[_, _], rfl⟩ hr.log_suffix
  | deferred => exact ⟨[_], rfl⟩
  | goodbye _ hr =>
    have hgone : w.log <:+ _ := List.IsSuffix.trans ⟨[_], rfl⟩ hr.log_suffix
    exact hgone.trans ⟨[_, _, _], rfl⟩
  | goodbyeFull _ hr _ hr' =>
    have hgone : w.log <:+ _ := List.IsSuffix.trans ⟨[_], rfl⟩ hr.log_suffix
    have hend := (List.suffix_cons _ _).trans hr'.log_suffix
    exact (hgone.trans ⟨[_, _], rfl⟩).trans hend

lemma Turns.log_suffix {g : Prop} (h : Turns b g w w') : w.log <:+ w'.log := by
  induction h with
  | refl => exact List.suffix_refl _
  | moves hm _ ih => exact ih.trans hm.log_suffix
  | pump hm _ ih => exact ih.trans hm.log_suffix
  | request _ _ _ hh _ ih =>
    obtain ⟨w₁, w₂, h₁, ha, h₂⟩ := hh
    have haccept := (List.suffix_cons _ _).trans h₁.log_suffix
    exact ((ih.trans haccept).trans ha.log_suffix).trans h₂.log_suffix
  | refuse _ _ _ _ _ _ _ ih => exact ih.trans ⟨[_, _], rfl⟩
  | refuseFull _ _ _ _ ih => exact ih.trans ⟨[_], rfl⟩
  | raw _ _ _ _ _ ih => exact ih.trans ⟨[_], rfl⟩
  | hello _ _ _ _ _ _ _ _ ih => exact ih.trans ⟨[_, _], rfl⟩
  | helloFull _ _ _ _ _ _ _ _ ih => exact ih.trans ⟨[_], rfl⟩
  | exhausted _ _ _ _ _ _ ih => exact ih.trans ⟨[_], rfl⟩
  | deferred _ _ _ _ _ _ _ ih => exact ih.trans ⟨[_], rfl⟩
  | seq _ _ _ ih => exact ih
  | exhaustedFull _ _ _ _ ih => exact ih
  | forget _ _ ih => exact ih
  | gone _ _ _ ih => exact ih

lemma Continues.log_suffix {ok : Input → Prop} (h : Continues b ok w w') : w.log <:+ w'.log := by
  induction h with
  | refl => exact List.suffix_refl _
  | env _ _ ih => exact ih
  | input n P i hP _ _ ih =>
    exact ih.trans (turns_input (g := True) hP.backend i (fun _ _ => trivial) _).log_suffix

/-! ## The result and the link -/

/-- The session ends here. -/
def Ev.closes : Ev → Bool
  | .closed _ => true
  | _ => false

/-- The `OPERATION` event of the finished operation `d` is queued. -/
def Ev.tellsResult (d : OpDone) : Ev → Bool
  | .queued slot _ =>
    slot.kind == kindEvent && slot.opcode == EventOp.operation.code && slot.payload == d.tlv
  | _ => false

/-- A `DEVICE_STATE` is queued that reports the connection `cid` as initialising or ready. -/
def Ev.tellsLink (cid : UInt32) : Ev → Bool
  | .queued slot s =>
    slot.kind == kindEvent && slot.opcode == EventOp.deviceState.code &&
      slot.payload == s.deviceInfoTlv && cid != 0 && s.device.connectionId == cid &&
      (s.device.linkState == .initializing || s.device.linkState == .ready)
  | _ => false

/-- Of the events `l` since the operation `d` was completed, newest first: while the session lasts, no
state of the connection `cid` is queued behind the result. -/
def ResultLast (d : OpDone) (cid : UInt32) (l : List Ev) : Prop :=
  (l.reverse.takeWhile fun e => !e.closes).Pairwise fun e e' =>
    e.tellsResult d = true → e'.tellsLink cid = false

instance (d : OpDone) (cid : UInt32) (l : List Ev) : Decidable (ResultLast d cid l) :=
  inferInstanceAs (Decidable (List.Pairwise _ _))

/-! ## What a pairing leaves behind -/

/-- The status with which `rbp_server_on_pair_done` completes the operation. -/
def pairStatus (P : Platform E) (status : Status) (committed : Bool) (peer : Option PeerRecord) (w : World E) :
    Status :=
  (commitPeer P (if status = .ok ∧ committed = false then .storageFailed else status) peer
    (w.act Server.pairReported)).1.1

/-- The server after the peer was saved and the operation ended. -/
def Server.pairCommitted (peer : PeerRecord) (s : Server) : Server :=
  (s.pairReported.setPeer { peer with autoReconnect := true }).endOp

/-- The server after the link was published. -/
def Server.linkPublished (publishReady : Bool) (proposed : UInt32) (s : Server) : Server :=
  if publishReady || s.device.linkState != .ready then
    (if s.device.connectionId == 0 then s.connect proposed else s).setLink
      (if publishReady then .ready else .initializing)
  else s

/-- The server that the last `DEVICE_STATE` of the pairing describes. -/
def Server.pairShown (peer : PeerRecord) (proposed : UInt32) (s : Server) : Server :=
  (s.pairCommitted peer).linkPublished s.op.pairReadyPending proposed

/-- The finished operation. -/
def Server.pairDone (peer : PeerRecord) (s : Server) : OpDone :=
  { opId := s.op.id, result := .ok, peerId := peer.peerId, connectionId := s.device.connectionId,
    uncertain := false }

/-- The slot of the `OPERATION` event of `d`. -/
def Server.resultSlot (d : OpDone) (s : Server) : CtlSlot :=
  s.ctlSlotFor kindEvent EventOp.operation.code .ok 0 d.connectionId d.tlv

/-- The pairing leaves a connection behind, and the control queue has room for the result and for the
state of the link behind it. -/
def Server.pairOvertaken (b : Build) (peer : PeerRecord) (proposed : UInt32) (s : Server) : Bool :=
  (s.pairShown peer proposed).device.connectionId != 0 &&
    s.ctlFits b (s.pairDone peer).tlv.length &&
    (s.putCtl (s.resultSlot (s.pairDone peer))).ctlFits b (s.pairShown peer proposed).deviceInfoTlv.length

lemma pairStatus_ok {status : Status} {committed : Bool} {peer : Option PeerRecord}
    (h : pairStatus P status committed peer w = .ok) :
    status = .ok ∧ committed = true ∧ ∃ rec, peer = some rec ∧ rec.peerId ≠ 0 ∧
      (P.save { rec with autoReconnect := true } (w.act Server.pairReported)).1 = true := by
  unfold pairStatus at h
  by_cases hstatus : (if status = .ok ∧ committed = false then Status.storageFailed else status) = .ok
  · have hboth : status = .ok ∧ committed = true := by
      cases committed with
      | true => exact ⟨by simpa using hstatus, rfl⟩
      | false =>
        by_cases hok : status = .ok
        · rw [if_pos ⟨hok, rfl⟩] at hstatus
          exact nomatch hstatus
        · rw [if_neg fun h => hok h.1] at hstatus
          exact absurd hstatus hok
    refine ⟨hboth.1, hboth.2, ?_⟩
    rw [hstatus] at h
    cases peer with
    | none => exact nomatch h
    | some rec =>
      refine ⟨rec, rfl, ?_⟩
      unfold commitPeer at h
      rw [if_neg (by simp)] at h
      dsimp only at h
      by_cases hid : (rec.peerId == 0) = true
      · rw [if_pos hid] at h
        exact nomatch h
      · rw [if_neg hid] at h
        refine ⟨by simpa using hid, ?_⟩
        by_contra hsave
        rw [if_neg hsave] at h
        exact nomatch h
  · unfold commitPeer at h
    rw [if_pos hstatus] at h
    exact absurd h hstatus

/-! ## The two events -/

lemma suffix_sessionTeardown (hP : Backend b P) (w : World E) :
    (.closed w.srv :: w.log) <:+ (sessionTeardown b P w).log :=
  (moves_reports hP w).log_suffix

lemma onPairDone_ok {rec : PeerRecord} (proposed : UInt32) (hid : rec.peerId ≠ 0)
    (hsave : (P.save { rec with autoReconnect := true } (w.act Server.pairReported)).1 = true)
    (ha : w.srv.op.active = true) (hk : w.srv.op.kind = some .pair) :
    ∃ v : World E, v.srv = w.srv.pairCommitted rec ∧ v.log = w.log ∧
      onPairDone b P .ok true (some rec) proposed w =
        publishPair b P .ok w.srv.op.pairReadyPending proposed
          (ctlEnqueue b P kindEvent EventOp.operation.code .ok 0 (w.srv.pairDone rec).connectionId
            (w.srv.pairDone rec).tlv (v.complete (w.srv.pairDone rec))) := by
  obtain ⟨v, hsrv, hlog, hcommit⟩ : ∃ v : World E,
      v.srv = w.srv.pairReported.setPeer { rec with autoReconnect := true } ∧ v.log = w.log ∧
        commitPeer P .ok (some rec) (w.act Server.pairReported) = ((.ok, false), v) := by
    refine ⟨({ w.act Server.pairReported with
      env := (P.save { rec with autoReconnect := true } (w.act Server.pairReported)).2 } : World E).act
        (Server.setPeer { rec with autoReconnect := true }), rfl, rfl, ?_⟩
    unfold commitPeer
    rw [if_neg (by simp)]
    dsimp only
    rw [if_neg (by simpa using hid), if_pos hsave]
  obtain ⟨srv, env, log⟩ := v
  obtain rfl := hsrv
  have hop : (w.srv.op.active && w.srv.op.kind == some .pair) = true := by rw [ha, hk]; rfl
  refine ⟨World.act Server.endOp ⟨_, env, log⟩, rfl, hlog, ?_⟩
  unfold onPairDone
  dsimp only
  rw [if_neg (by simp), hcommit]
  dsimp only
  unfold completePair
  exact congrArg (publishPair b P .ok w.srv.op.pairReadyPending proposed) (if_pos hop)

lemma deviceInfoTlv_congr {s s' : Server} (hd : s.device = s'.device) (hv : s.voice = s'.voice)
    (hc : s.cfg = s'.cfg) : s.deviceInfoTlv = s'.deviceInfoTlv := by
  unfold Server.deviceInfoTlv
  rw [hd, hv, hc]

lemma device_linkPublished {s s' : Server} (h : s.device = s'.device) (publishReady : Bool) (proposed : UInt32) :
    (s.linkPublished publishReady proposed).device = (s'.linkPublished publishReady proposed).device := by
  have hconnect : (s.connect proposed).device = (s'.connect proposed).device := by
    unfold Server.connect
    dsimp only
    rw [h]
  unfold Server.linkPublished
  rw [← h]
  by_cases hpublish : (publishReady || s.device.linkState != .ready) = true
  · rw [if_pos hpublish, if_pos hpublish]
    by_cases hnew : (s.device.connectionId == 0) = true
    · rw [if_pos hnew, if_pos hnew, Server.setLink, Server.setLink, hconnect]
    · rw [if_neg hnew, if_neg hnew, Server.setLink, Server.setLink, h]
  · rw [if_neg hpublish, if_neg hpublish, h]

lemma connectIfNew_up {state : LinkState} {proposed : UInt32} (hup : state.up = true)
    (hnew : (w.srv.device.connectionId == 0) = true)
    (hid : ((w.srv.device.freshConnection proposed).1 == 0) = false) :
    connectIfNew state proposed w = (state, w.connected proposed) := by
  have hboth : (w.srv.device.connectionId == 0 && state.up) = true := by rw [hnew, hup]; rfl
  unfold connectIfNew
  rw [if_pos hboth]
  dsimp only
  rw [hid, if_neg Bool.false_ne_true]

lemma linkPublished_same (s : Server) (publishReady : Bool) (proposed : UInt32) :
    (s.linkPublished publishReady proposed).voice = s.voice ∧
      (s.linkPublished publishReady proposed).cfg = s.cfg ∧
      (s.linkPublished publishReady proposed).ctl = s.ctl ∧
      (s.linkPublished publishReady proposed).ctlUsed = s.ctlUsed := by
  unfold Server.linkPublished
  by_cases hpublish : (publishReady || s.device.linkState != .ready) = true
  · rw [if_pos hpublish]
    by_cases hnew : (s.device.connectionId == 0) = true
    · rw [if_pos hnew]
      exact ⟨rfl, rfl, rfl, rfl⟩
    · rw [if_neg hnew]
      exact ⟨rfl, rfl, rfl, rfl⟩
  · rw [if_neg hpublish]
    exact ⟨rfl, rfl, rfl, rfl⟩

lemma info_linkPublished {s s' : Server} (hd : s.device = s'.device) (hv : s.voice = s'.voice)
    (hc : s.cfg = s'.cfg) (publishReady : Bool) (proposed : UInt32) :
    (s.linkPublished publishReady proposed).deviceInfoTlv =
      (s'.linkPublished publishReady proposed).deviceInfoTlv := by
  obtain ⟨hv₁, hc₁, -, -⟩ := linkPublished_same s publishReady proposed
  obtain ⟨hv₂, hc₂, -, -⟩ := linkPublished_same s' publishReady proposed
  refine deviceInfoTlv_congr (device_linkPublished hd _ _) ?_ ?_
  · rw [hv₁, hv₂, hv]
  · rw [hc₁, hc₂, hc]

lemma ctlFits_linkPublished (s : Server) (publishReady : Bool) (proposed : UInt32) (len : Nat) :
    (s.linkPublished publishReady proposed).ctlFits b len = s.ctlFits b len := by
  obtain ⟨-, -, hctl, hused⟩ := linkPublished_same s publishReady proposed
  unfold Server.ctlFits
  rw [hctl, hused]

lemma linkState_linkPublished (s : Server) (publishReady : Bool) (proposed : UInt32) :
    (s.linkPublished publishReady proposed).device.linkState = .initializing ∨
      (s.linkPublished publishReady proposed).device.linkState = .ready := by
  unfold Server.linkPublished
  by_cases hpublish : (publishReady || s.device.linkState != .ready) = true
  · rw [if_pos hpublish]
    cases publishReady with
    | true => exact .inr rfl
    | false => exact .inl rfl
  · rw [if_neg hpublish]
    simp only [Bool.or_eq_true, bne_iff_ne, ne_eq, not_or, not_not] at hpublish
    exact .inr hpublish.2

lemma cfg_putCtl (s : Server) (slot : CtlSlot) : (s.putCtl slot).cfg = s.cfg := by
  unfold Server.putCtl
  split <;> rfl

lemma ctlFits_putCtl_congr {s s' : Server} (hc : s.ctl = s'.ctl) (hu : s.ctlUsed = s'.ctlUsed) (slot : CtlSlot)
    (len : Nat) : (s.putCtl slot).ctlFits b len = (s'.putCtl slot).ctlFits b len := by
  unfold Server.putCtl Server.ctlFits
  rw [hc, hu]
  cases s'.ctl.findIdx? fun slot => !slot.used with
  | none => rw [hc, hu]
  | some i => rfl

/-- Publishing the link of a pairing that is over queues one state. -/
lemma publishPair_ok (hop : w.srv.op.active = false) (hpend : w.srv.op.pairReadyPending = false)
    {publishReady : Bool} {proposed : UInt32}
    (hcid : (w.srv.linkPublished publishReady proposed).device.connectionId ≠ 0) :
    ∃ (ctx : UInt32) (pre : List Ev) (v : World E),
      publishPair b P .ok publishReady proposed w = sendDeviceState b P ctx v ∧
      v.srv = w.srv.linkPublished publishReady proposed ∧ v.log = pre ++ w.log ∧
      ∀ e ∈ pre, e.closes = false ∧ ∀ cid, e.tellsLink cid = false := by
  -- the report of a link that is up: the connection may be new, the session is kept
  have hlink : ∀ state : LinkState, state.up = true → state.down = false →
      (w.srv.device.linkState = .ready → state = .ready) →
      ((if w.srv.device.connectionId == 0 then w.srv.connect proposed else w.srv).device.connectionId ≠ 0) →
      ∃ (ctx : UInt32) (pre : List Ev) (v : World E),
        onLink b P state proposed w.srv.nowMs w = sendDeviceState b P ctx v ∧
        v.srv = (if w.srv.device.connectionId == 0 then w.srv.connect proposed else w.srv).setLink state ∧
        v.log = pre ++ w.log ∧ ∀ e ∈ pre, e.closes = false ∧ ∀ cid, e.tellsLink cid = false := by
    intro state hup hdown hready hne
    have hwaits : w.srv.readyWaits state = false := by
      unfold Server.readyWaits
      rw [hop, Bool.and_false, Bool.false_and]
    have hnote : w.act (Server.notePairReady state) = w := by
      have hsame : w.srv.notePairReady state = w.srv := by
        unfold Server.notePairReady
        rw [hwaits, hpend]
        dsimp only
        rw [Bool.or_false, Bool.false_and, ← hpend]
      unfold World.act
      rw [hsame]
    have hnow : w.act (Server.setNow w.srv.nowMs) = w := rfl
    have hleave : ¬ (w.srv.device.linkState = .ready ∧ state ≠ .ready) := fun h => h.2 (hready h.1)
    unfold onLink
    dsimp only
    rw [hnow, hwaits, hnote, if_neg Bool.false_ne_true]
    by_cases hnew : (w.srv.device.connectionId == 0) = true
    · rw [if_pos hnew] at hne ⊢
      have hid : ((w.srv.device.freshConnection proposed).1 == 0) = false := beq_false_of_ne hne
      rw [connectIfNew_up hup hnew hid, enterLink, if_neg hleave, hdown, if_neg Bool.false_ne_true]
      exact ⟨_, [_], _, rfl, rfl, rfl, by simp [Ev.closes, Ev.tellsLink]⟩
    · have hold : connectIfNew state proposed w = (state, w) := if_neg (by simp [hnew])
      rw [if_neg hnew, hold, enterLink, if_neg hleave, hdown, if_neg Bool.false_ne_true]
      exact ⟨_, [], _, rfl, rfl, rfl, by simp⟩
  unfold publishPair Server.linkPublished
  unfold Server.linkPublished at hcid
  rw [if_pos rfl]
  -- the link is shown as ready when the backend has said so, and else as initializing
  by_cases hpublish : publishReady = true
  · subst hpublish
    rw [if_pos rfl]
    exact hlink .ready rfl rfl (fun _ => rfl) hcid
  · rw [Bool.not_eq_true] at hpublish
    subst hpublish
    rw [if_neg Bool.false_ne_true]
    by_cases hready : w.srv.device.linkState = .ready
    · rw [if_neg (not_not_intro hready)]
      refine ⟨_, [], w, rfl, ?_, rfl, by simp⟩
      rw [hready]
      rfl
    · have hne : (false || w.srv.device.linkState != .ready) = true := by simpa using hready
      rw [if_pos hready]
      rw [if_pos hne] at hcid ⊢
      exact hlink .initializing rfl rfl (fun h => absurd h hready) hcid

lemma ctlEnqueue_full (hP : Backend b P) (kind : UInt8) (opcode : UInt16) (status : Status)
    (requestId connectionId : UInt32) {payload : List UInt8} (h : w.srv.ctlFits b payload.length = false) :
    ∃ s, (.closed s :: w.log) <:+ (ctlEnqueue b P kind opcode status requestId connectionId payload w).log := by
  refine ⟨w.srv.protocolError, ?_⟩
  rw [ctlEnqueue, h, Bool.not_false, if_pos rfl]
  exact suffix_sessionTeardown hP (w.act Server.protocolError)

lemma ctlEnqueue_fits {kind : UInt8} {opcode : UInt16} {status : Status} {requestId connectionId : UInt32}
    {payload : List UInt8} (h : w.srv.ctlFits b payload.length = true) :
    ctlEnqueue b P kind opcode status requestId connectionId payload w =
      w.queue (w.srv.ctlSlotFor kind opcode status requestId connectionId payload) := by
  rw [ctlEnqueue, h, Bool.not_true, if_neg Bool.false_ne_true]

/-! ## The order of the two -/

section Order

variable {d : OpDone} {cid : UInt32} {pre l : List Ev}

/-- A session that ends at once tells nothing. -/
lemma resultLast_closed (s : Server) (l : List Ev) : ResultLast d cid (l ++ [Ev.closed s]) := by
  unfold ResultLast
  rw [List.reverse_append, List.reverse_singleton, List.singleton_append]
  exact List.Pairwise.nil

/-- A session that ends before the link is told has the result last. -/
lemma resultLast_cut (hpre : ∀ e ∈ pre, e.closes = false ∧ ∀ cid, e.tellsLink cid = false) (slot : CtlSlot)
    (s s' : Server) (l : List Ev) : ResultLast d cid (l ++ Ev.closed s' :: (pre ++ [Ev.queued slot s])) := by
  have hopen : ∀ e ∈ Ev.queued slot s :: pre.reverse, (!e.closes) = true := by
    intro e he
    rcases List.mem_cons.mp he with rfl | he
    · rfl
    · rw [(hpre e (List.mem_reverse.mp he)).1]
      rfl
  have hevents : (l ++ Ev.closed s' :: (pre ++ [Ev.queued slot s])).reverse =
      (Ev.queued slot s :: pre.reverse) ++ Ev.closed s' :: l.reverse := by simp
  have hrest : (Ev.closed s' :: l.reverse).takeWhile (fun e => !e.closes) = [] :=
    List.takeWhile_cons_of_neg (by simp [Ev.closes])
  unfold ResultLast
  rw [hevents, List.takeWhile_append_of_pos hopen, hrest, List.append_nil]
  refine List.pairwise_cons.mpr ⟨fun e he _ => ?_, List.pairwise_of_forall_mem_list fun _ _ e he _ => ?_⟩
  · exact (hpre e (List.mem_reverse.mp he)).2 cid
  · exact (hpre e (List.mem_reverse.mp he)).2 cid

/-- A link that is told behind the result in its session has overtaken it. -/
lemma not_resultLast (hpre : ∀ e ∈ pre, e.closes = false ∧ ∀ cid, e.tellsLink cid = false)
    {told state : Ev} (htold : told.tellsResult d = true) (hstate : state.tellsLink cid = true)
    (h₁ : told.closes = false) (h₂ : state.closes = false) (l : List Ev) :
    ¬ ResultLast d cid (l ++ state :: (pre ++ [told])) := by
  have hopen : ∀ e ∈ told :: (pre.reverse ++ [state]), (!e.closes) = true := by
    intro e he
    rcases List.mem_cons.mp he with rfl | he
    · rw [h₁]
      rfl
    · rcases List.mem_append.mp he with he | he
      · rw [(hpre e (List.mem_reverse.mp he)).1]
        rfl
      · rw [List.mem_singleton.mp he, h₂]
        rfl
  have hevents : (l ++ state :: (pre ++ [told])).reverse = told :: (pre.reverse ++ [state]) ++ l.reverse := by simp
  unfold ResultLast
  rw [hevents, List.takeWhile_append_of_pos hopen]
  intro hlast
  have hfirst := (List.pairwise_cons.mp hlast).1 state (by simp)
  rw [hfirst htold] at hstate
  exact Bool.false_ne_true hstate

/-- Without a connection there is nothing to tell. -/
lemma resultLast_zero (d : OpDone) (l : List Ev) : ResultLast d 0 l := by
  refine List.pairwise_of_forall_mem_list fun e _ e' _ _ => ?_
  cases e' with
  | queued slot s => simp [Ev.tellsLink]
  | _ => rfl

end Order

lemma resultSlot_complete {d : OpDone} {rec : PeerRecord} {v : World E} (hsrv : v.srv = w.srv.pairCommitted rec) :
    w.srv.resultSlot d =
      (v.complete d).srv.ctlSlotFor kindEvent EventOp.operation.code .ok 0 d.connectionId d.tlv := by
  obtain ⟨srv, env, log⟩ := v
  obtain rfl := hsrv
  rfl

/-- However a pairing completes with success, and whatever the run does then: the result is the last word
on the link exactly if the connection numbers are used up or the control queue has no room for both events.
-/
theorem pairResult_last_iff {n : Nat} (hP : Honest b n P) {status : Status} {committed : Bool}
    {peer : Option PeerRecord} (proposed : UInt32) (w : World E) (ha : w.srv.op.active = true)
    (hk : w.srv.op.kind = some .pair) (hok : pairStatus P status committed peer w = .ok)
    {ok : Input → Prop} {w' : World E}
    (hrun : Continues b ok (onPairDone b P status committed peer proposed w) w') :
    ∃ rec l s, peer = some rec ∧ w'.log = l ++ .completed (w.srv.pairDone rec) s :: w.log ∧
      (ResultLast (w.srv.pairDone rec) (w.srv.pairShown rec proposed).device.connectionId l ↔
        w.srv.pairOvertaken b rec proposed = false) := by
  obtain ⟨rfl, rfl, rec, rfl, hid, hsave⟩ := pairStatus_ok hok
  obtain ⟨v, hsrv, hlog, hdone⟩ := onPairDone_ok (b := b) proposed hid hsave ha hk
  refine ⟨rec, ?_⟩
  generalize hd : w.srv.pairDone rec = d at hdone ⊢
  have hlog' : (v.complete d).log = .completed d v.srv :: w.log := congrArg (List.cons _) hlog
  have hfirst : (v.complete d).srv.ctlFits b d.tlv.length = w.srv.ctlFits b d.tlv.length := by
    change v.srv.ctlFits b d.tlv.length = _
    rw [hsrv]
    rfl
  have hpublish := fun q : World E =>
    (moves_publishPair hP.backend .ok w.srv.op.pairReadyPending proposed q).log_suffix
  have hlater := hrun.log_suffix
  rw [hdone] at hlater
  -- the result finds room, or the session ends with it
  by_cases hfit : w.srv.ctlFits b d.tlv.length = true
  · rw [ctlEnqueue_fits (hfirst.trans hfit)] at hlater
    generalize hq : (v.complete d).queue
      ((v.complete d).srv.ctlSlotFor kindEvent EventOp.operation.code .ok 0 d.connectionId d.tlv) = q at hlater
    have hqlog : q.log = .queued (w.srv.resultSlot d) (v.complete d).srv :: (v.complete d).log := by
      rw [← hq, ← resultSlot_complete hsrv]
      rfl
    have hqdev : q.srv.device = (w.srv.pairCommitted rec).device := by
      rw [← hq, ← hsrv]
      exact device_putCtl _ _
    -- no link is shown: nothing follows the result
    by_cases hcid : (w.srv.pairShown rec proposed).device.connectionId = 0
    · obtain ⟨l, hl⟩ := (hpublish q).trans hlater
      refine ⟨l ++ [.queued (w.srv.resultSlot d) (v.complete d).srv], v.srv, rfl, ?_, ?_⟩
      · rw [← hl, hqlog, hlog', List.append_assoc]
        rfl
      · rw [hcid]
        refine iff_of_true (resultLast_zero d _) ?_
        rw [Server.pairOvertaken, hcid]
        rfl
    · have hqop : q.srv.op = (v.complete d).srv.op := by rw [← hq]; exact op_putCtl _ _
      have hidle : q.srv.op.active = false := by
        rw [hqop]
        change v.srv.op.active = false
        rw [hsrv]
        rfl
      have hpending : q.srv.op.pairReadyPending = false := by
        rw [hqop]
        change v.srv.op.pairReadyPending = false
        rw [hsrv]
        rfl
      have hdev := device_linkPublished hqdev w.srv.op.pairReadyPending proposed
      -- the link is published, and its state is asked for behind the result
      obtain ⟨ctx, pre, u, hpub, husrv, hulog, hpre⟩ :=
        publishPair_ok (b := b) (P := P) hidle hpending (by rw [hdev]; exact hcid)
      have hudev : u.srv.device = (w.srv.pairShown rec proposed).device := by rw [husrv]; exact hdev
      have hinfo : u.srv.deviceInfoTlv = (w.srv.pairShown rec proposed).deviceInfoTlv := by
        rw [husrv]
        refine info_linkPublished hqdev ?_ ?_ _ _
        · rw [← hq, ← hsrv]
          exact voice_putCtl _ _
        · rw [← hq, ← hsrv]
          exact cfg_putCtl _ _
      have hroom : u.srv.ctlFits b u.srv.deviceInfoTlv.length =
          (w.srv.putCtl (w.srv.resultSlot d)).ctlFits b (w.srv.pairShown rec proposed).deviceInfoTlv.length := by
        have hqctl : q.srv = (v.complete d).srv.putCtl (w.srv.resultSlot d) := by
          rw [← hq, ← resultSlot_complete hsrv]
          rfl
        rw [hinfo, husrv, ctlFits_linkPublished, hqctl]
        exact ctlFits_putCtl_congr (by change v.srv.ctl = _; rw [hsrv]; rfl)
          (by change v.srv.ctlUsed = _; rw [hsrv]; rfl) _ _
      rw [hpub, sendDeviceState] at hlater
      -- that state finds room too, or the session ends before it
      by_cases hfit₂ : u.srv.ctlFits b u.srv.deviceInfoTlv.length = true
      · rw [ctlEnqueue_fits hfit₂] at hlater
        obtain ⟨l, hl⟩ := hlater
        refine ⟨l ++ .queued (u.srv.deviceSlot ctx) u.srv :: (pre ++ [.queued (w.srv.resultSlot d) (v.complete d).srv]),
          v.srv, rfl, ?_, ?_⟩
        · have hulast : (u.queue (u.srv.deviceSlot ctx)).log = .queued (u.srv.deviceSlot ctx) u.srv ::
              (pre ++ .queued (w.srv.resultSlot d) (v.complete d).srv :: .completed d v.srv :: w.log) := by
            rw [← hlog', ← hqlog, ← hulog]
            rfl
          rw [← hl]
          refine (congrArg (l ++ ·) hulast).trans ?_
          simp
        · refine iff_of_false (not_resultLast hpre ?_ ?_ rfl rfl l) ?_
          · simp [Ev.tellsResult, Server.resultSlot, Server.ctlSlotFor]
          · have hstate := linkState_linkPublished q.srv w.srv.op.pairReadyPending proposed
            rw [← husrv] at hstate
            unfold Ev.tellsLink
            simp only [Server.deviceSlot, Server.ctlSlotFor, hudev] at hstate ⊢
            simpa using ⟨hcid, hstate⟩
          · rw [Server.pairOvertaken, hd, hfit, ← hroom, hfit₂]
            simpa using hcid
      · rw [Bool.not_eq_true] at hfit₂
        obtain ⟨s, hs⟩ := ctlEnqueue_full hP.backend kindEvent EventOp.deviceState.code .ok 0 ctx hfit₂
        obtain ⟨l, hl⟩ := hs.trans hlater
        refine ⟨l ++ .closed s :: (pre ++ [.queued (w.srv.resultSlot d) (v.complete d).srv]), v.srv, rfl, ?_, ?_⟩
        · rw [← hl, hulog, hqlog, hlog']
          simp
        · refine iff_of_true (resultLast_cut hpre _ _ _ l) ?_
          rw [Server.pairOvertaken, hd, ← hroom, hfit₂, Bool.and_false]
  · rw [Bool.not_eq_true] at hfit
    obtain ⟨s, hs⟩ := ctlEnqueue_full hP.backend kindEvent EventOp.operation.code .ok 0 d.connectionId
      (hfirst.trans hfit)
    obtain ⟨l, hl⟩ := (hs.trans (hpublish _)).trans hlater
    refine ⟨l ++ [.closed s], v.srv, rfl, ?_, ?_⟩
    · rw [← hl, hlog', List.append_assoc]
      rfl
    · refine iff_of_true (resultLast_closed s l) ?_
      rw [Server.pairOvertaken, hd, hfit, Bool.and_false, Bool.false_and]

/-- The remote that is found. -/
def foundRemote : Candidate := { candidateId := 1, support := 0, signal := 0, name := [], nameLen := 0 }

/-- A host searches. -/
def searchingWorld : World Unit :=
  (freshWorld.listens (hostHeader .hello 0 1 0) 1 (tlvPutBytes 1 (List.replicate 16 7) [])).listens
    (hostHeader .findStart 1 2 0) 2 (tlvPutU16 1 100 [])

/-- It pairs the remote that is found. -/
def pairingWorld : World Unit :=
  ((Input.callback (.scanCandidate foundRemote)).run Build.default silentPlatform searchingWorld).listens
    (hostHeader .pairBegin 1 3 0) 3 (tlvPutU32 2 1 (tlvPutU32 1 1 []))

lemma reach_pairingWorld : Reach Build.default anyInput pairingWorld := by
  have hrx : ∀ data nowMs, anyInput (.usbRx data nowMs) := fun _ _ => trivial
  have hsearching : Reach Build.default anyInput searchingWorld :=
    (reach_freshWorld.listens hrx rfl (by decide)).listens hrx rfl (by decide)
  have hfound : Reach Build.default anyInput
      ((Input.callback (.scanCandidate foundRemote)).run Build.default silentPlatform searchingWorld) :=
    hsearching.silent trivial
  exact hfound.listens hrx rfl (by decide)

/-- The peer that is saved. -/
def pairedRemote : PeerRecord := { peerId := 9, name := [], autoReconnect := false }

/-- The remote is paired, as connection 7. -/
def pairedWorld : World Unit :=
  onPairDone Build.default silentPlatform .ok true (some pairedRemote) 7 pairingWorld

lemma reach_pairedWorld : Reach Build.default anyInput pairedWorld :=
  reach_pairingWorld.silent (i := .callback (.pairDone .ok true (some pairedRemote) 7)) trivial

/-- `pairResult_last_iff` applies to this pairing. -/
theorem pairResult_last_paired :
    ∃ rec l s, some pairedRemote = some rec ∧
      pairedWorld.log = l ++ .completed (pairingWorld.srv.pairDone rec) s :: pairingWorld.log ∧
      (ResultLast (pairingWorld.srv.pairDone rec) (pairingWorld.srv.pairShown rec 7).device.connectionId l ↔
        pairingWorld.srv.pairOvertaken Build.default rec 7 = false) := by
  have ha : pairingWorld.srv.op.active = true := by decide +kernel
  have hk : pairingWorld.srv.op.kind = some .pair := by decide +kernel
  have hok : pairStatus silentPlatform .ok true (some pairedRemote) pairingWorld = .ok := by decide +kernel
  have hrun : Continues Build.default anyInput
      (onPairDone Build.default silentPlatform .ok true (some pairedRemote) 7 pairingWorld) pairedWorld := .refl _
  exact pairResult_last_iff silentPlatform_honest 7 pairingWorld ha hk hok hrun

/-- The operation that is completed here. -/
def Ev.outcome : Ev → Option OpDone
  | .completed d _ => some d
  | _ => none

lemma eq_completed {l : List Ev} {d : OpDone} (h : l.head?.bind Ev.outcome = some d) :
    ∃ s rest, l = .completed d s :: rest := by
  cases l with
  | nil => exact nomatch h
  | cons e rest =>
    cases e with
    | completed d' s =>
      obtain rfl : d' = d := Option.some.inj h
      exact ⟨s, rest, rfl⟩
    | _ => exact nomatch h

/-- Its result is told before the link. -/
theorem pairResult_overtaken :
    Reach Build.default anyInput pairedWorld ∧
      ∃ l d s older, pairedWorld.log = l ++ .completed d s :: older ∧ d.opId = pairingWorld.srv.op.id ∧
        d.result = .ok ∧ ¬ ResultLast d 7 l := by
  have hdone : (pairedWorld.log.drop 3).head?.bind Ev.outcome = some (pairingWorld.srv.pairDone pairedRemote) := by
    decide +kernel
  have hlast : ¬ ResultLast (pairingWorld.srv.pairDone pairedRemote) 7 (pairedWorld.log.take 3) := by
    decide +kernel
  obtain ⟨s, older, hdrop⟩ := eq_completed hdone
  refine ⟨reach_pairedWorld, _, _, s, older, ?_, rfl, rfl, hlast⟩
  rw [← hdrop, List.take_append_drop]

end RemoteBridge
