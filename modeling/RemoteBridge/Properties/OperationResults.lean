import RemoteBridge.Properties.OperationLifecycle

/-!
# What `GET_OPERATION` tells

The server keeps the operation in progress and the last four results, and a host asks for them by the id
of the request that began the operation.  Request ids restart with every session, so what is kept has to
belong to the session that asks.

Tearing a session down forgets the results and takes a pairing back, but not a deletion: it stays active,
and its result is kept whenever it comes.  A session that is created while a deletion of an earlier session
is active can ask for it, and finds it under an id that means something else, or finds it before its own
operation with the same id.  `OpensIdle` excludes this; then every answer is about the current session.
-/

namespace RemoteBridge

open World

variable {E : Type} {b : Build} {k : Nat} {w w' : World E}

/-! ## The property -/

/-- The result that is recorded at this event. -/
def Ev.result : Ev → Option OpDone
  | .completed d _ => some d
  | _ => none

/-- The results that were recorded, newest first. -/
def results (l : List Ev) : List OpDone := l.filterMap Ev.result

/-- An operation with this id was begun by a request. -/
def BegunIn (l : List Ev) (id : UInt32) : Prop :=
  ∃ kind h s, Ev.begun kind h s ∈ l ∧ h.requestId = id ∧ ∃ payload s', Ev.request h payload s' ∈ l

/-- The body for an operation in progress. -/
def Operation.pendingTlv (op : Operation) : List UInt8 :=
  operationTlv op.id false .accepted op.peerId op.connectionId false

/-- The body with which `GET_OPERATION` is answered, if the operation is found. -/
def Operation.answer (op : Operation) (id : UInt32) : Option (List UInt8) :=
  if op.active && op.id == id then some op.pendingTlv
  else (op.done.find? (·.opId == id)).map OpDone.tlv

/-- What `GET_OPERATION` tells about `id` in a session with log `l`: something only if the session has begun
an operation with this id, and then its most recent result, or that it is pending when there is none; and
each of the last four results is told. -/
structure FreshAnswer (op : Operation) (l : List Ev) (id : UInt32) : Prop where
  begun : ∀ body, op.answer id = some body → BegunIn l id
  fresh : ∀ body, op.answer id = some body →
    body = ((results l).find? (·.opId == id)).elim op.pendingTlv OpDone.tlv
  unknown : (∀ h payload s, Ev.request h payload s ∈ l → h.requestId ≠ id) → op.answer id = none
  kept : ∀ d ∈ (results l).take maxOperationResults, d.opId = id → op.answer id = some d.tlv

/-- A well-formed `GET_OPERATION` for `id`. -/
structure GetsOperation (h : Header) (payload : List UInt8) (id : UInt32) : Prop where
  opcode : h.opcode = RequestOp.getOperation.code
  management : h.connectionId = 0
  scanned : ∃ items, tlvScan payload = .ok items
  operation : required (tlvGetU32 payload 1) = some id

/-- How `GET_OPERATION` is answered. -/
def answerOperation (b : Build) (P : Platform E) (h : Header) (answer : Option (List UInt8)) (w : World E) :
    World E :=
  match answer with
  | some body => reply b P h .ok body w
  | none => respondError b P h .notFound none w

variable (E b) in
/-- Each `GET_OPERATION` of a run is answered with what the operation record says, and this is fresh. -/
def FreshAnswers (log : List Ev) : Prop :=
  ∀ h payload s l id, (Ev.request h payload s :: l) <:+ log → GetsOperation h payload id →
    (∀ (P : Platform E) (w : World E), w.srv = s →
      dispatchRequest b P h payload w = answerOperation b P h (s.op.answer id) w) ∧
      FreshAnswer s.op (sess l) id

/-- Every request is accepted on a state whose answers are fresh. -/
def FreshLog (log : List Ev) : Prop :=
  ∀ h payload s l, (Ev.request h payload s :: l) <:+ log → ∀ id, FreshAnswer s.op (sess l) id

/-! ## The condition -/

/-- If a session is created at this event, no operation is active and no result is kept. -/
def Ev.opensIdle : Ev → Bool
  | .opened _ s => !s.op.active && s.op.done.isEmpty
  | _ => true

/-- No session is created while an operation is active, or after one was completed by the backend while the
last session was torn down for it. -/
def OpensIdle (log : List Ev) : Prop := ∀ e ∈ log, e.opensIdle = true

lemma OpensIdle.of_append {l l' : List Ev} (h : OpensIdle (l ++ l')) : OpensIdle l' :=
  fun e he => h e (List.mem_append_right _ he)

/-! ## The handler -/

/-- A well-formed `GET_OPERATION` is answered with what the operation record says. -/
lemma dispatchRequest_getOperation (P : Platform E) {h : Header} {payload : List UInt8} {id : UInt32}
    (hg : GetsOperation h payload id) (w : World E) :
    dispatchRequest b P h payload w = answerOperation b P h (w.srv.op.answer id) w := by
  obtain ⟨items, hscan⟩ := hg.scanned
  have hop : RequestOp.ofCode h.opcode = some .getOperation := by rw [hg.opcode]; rfl
  have hdispatch : dispatchRequest b P h payload w = handleGetOperation b P h payload w := by
    unfold dispatchRequest
    rw [hscan, hop, hg.management]
    simp only [bne_self_eq_false, Bool.and_false]
    rfl
  rw [hdispatch]
  unfold handleGetOperation answerOperation Operation.answer
  rw [hg.operation]
  simp only
  split
  · next hactive =>
    have hid : w.srv.op.id = id := by simpa using (Bool.and_eq_true_iff.mp hactive).2
    simp only [Operation.pendingTlv, hid]
  · cases hfound : w.srv.op.done.find? (·.opId == id) with
    | none => rfl
    | some d =>
      have hid : d.opId = id := by simpa using List.find?_some hfound
      simp only [Option.map_some, OpDone.tlv, hid]

/-! ## The invariant -/

/-- A session is open: the log of the session begins where it was created. -/
def Opened (log : List Ev) : Prop := ∃ id s l, log = sess log ++ Ev.opened id s :: l

/-- What the server keeps, against the log of its session. -/
structure ResultsInv (l : List Ev) (op : Operation) (reqHwm : UInt32) : Prop where
  running : op.active = true → BegunIn l op.id ∧ ∀ d ∈ results l, d.opId ≠ op.id
  done : op.done.reverse = (results l).take maxOperationResults
  recorded : ∀ d ∈ results l, BegunIn l d.opId
  distinct : (results l).Pairwise (·.opId ≠ ·.opId)
  requests : ∀ h payload s, Ev.request h payload s ∈ l → h.requestId ≤ reqHwm
  -- a request that has not begun an operation yet is newer than all operations
  newest : ∀ l₁ h payload s l₂, l = l₁ ++ Ev.request h payload s :: l₂ →
    (∀ e ∈ l₁, e.starts = false) → ∀ kind h' s', Ev.begun kind h' s' ∈ l → h'.requestId < h.requestId
  begunRequests : ∀ kind h s, Ev.begun kind h s ∈ l → h.requestId ≤ reqHwm

/-- The answers were fresh so far, and are still fresh in an open session. -/
def Kept (w : World E) : Prop :=
  OpensIdle w.log → FreshLog w.log ∧ (w.srv.session.active = true →
    Opened w.log ∧ ResultsInv (sess w.log) w.srv.op w.srv.session.reqHwm)

/-- The events that the results do not depend on. -/
def Ev.offResults : Ev → Bool
  | .request _ _ _ => false
  | .begun _ _ _ => false
  | .completed _ _ => false
  | .opened _ _ => false
  | .closed _ => false
  | _ => true

section Sessions

variable {l log : List Ev}

lemma within_of_offResults {e : Ev} (he : e.offResults = true) : e.within = true := by
  cases e <;> first | rfl | cases he

lemma sess_append_offResults (hl : ∀ e ∈ l, e.offResults = true) : sess (l ++ log) = l ++ sess log := by
  induction l with
  | nil => rfl
  | cons e l ih =>
    have he := within_of_offResults (hl e (List.mem_cons_self ..))
    rw [List.cons_append, sess_cons_within he, ih fun e he => hl e (List.mem_cons_of_mem _ he)]
    rfl

lemma Opened.of_cons {e : Ev} (he : e.starts = false) (h : Opened (e :: log)) :
    e.within = true ∧ Opened log := by
  obtain ⟨id, s, l, hlog⟩ := h
  cases hw : e.within with
  | false =>
    rw [sess_cons_not_within hw] at hlog
    obtain ⟨rfl, -⟩ := List.cons.inj hlog
    cases he
  | true =>
    rw [sess_cons_within hw] at hlog
    exact ⟨rfl, id, s, l, (List.cons.inj hlog).2⟩

/-- In an open session, what happened since no session was created is part of the session. -/
lemma Opened.of_append (hl : ∀ e ∈ l, e.starts = false) (h : Opened (l ++ log)) :
    sess (l ++ log) = l ++ sess log ∧ Opened log := by
  induction l with
  | nil => exact ⟨rfl, h⟩
  | cons e l ih =>
    obtain ⟨hw, h'⟩ := h.of_cons (hl e (List.mem_cons_self ..))
    obtain ⟨hsess, hopen⟩ := ih (fun e he => hl e (List.mem_cons_of_mem _ he)) h'
    refine ⟨?_, hopen⟩
    rw [List.cons_append, sess_cons_within hw, hsess]
    rfl

lemma Opened.cons {e : Ev} (h : Opened log) (he : e.within = true) : Opened (e :: log) := by
  obtain ⟨id, s, l, hlog⟩ := h
  refine ⟨id, s, l, ?_⟩
  rw [sess_cons_within he, List.cons_append, ← hlog]

lemma opened_opened (id : UInt32) (s : Server) (log : List Ev) : Opened (.opened id s :: log) :=
  ⟨id, s, log, by rw [sess_cons_not_within rfl]; rfl⟩

end Sessions

section Steps

variable {l : List Ev} {op op' : Operation} {hwm : UInt32}

lemma BegunIn.mono {l' : List Ev} {id : UInt32} (h : BegunIn l id) (hl : l ⊆ l') : BegunIn l' id := by
  obtain ⟨kind, hd, s, hb, hid, payload, s', hr⟩ := h
  exact ⟨kind, hd, s, hl hb, hid, payload, s', hl hr⟩

lemma BegunIn.cons {e : Ev} {id : UInt32} (h : BegunIn l id) : BegunIn (e :: l) id :=
  h.mono (List.subset_cons_self _ _)

lemma results_cons_none {e : Ev} (he : e.result = none) (l : List Ev) : results (e :: l) = results l :=
  List.filterMap_cons_none he

lemma mem_of_mem_cons_ne {e x : Ev} (hx : x ∈ e :: l) (hne : x ≠ e) : x ∈ l :=
  (List.mem_cons.mp hx).resolve_left hne

/-- The answers are fresh. -/
lemma ResultsInv.answers (h : ResultsInv l op hwm) (id : UInt32) : FreshAnswer op l id := by
  have hmem : ∀ d ∈ op.done, d ∈ results l := by
    intro d hd
    have hrev : d ∈ (results l).take maxOperationResults := by
      rw [← h.done]
      exact List.mem_reverse.mpr hd
    exact List.mem_of_mem_take hrev
  -- two results with the same id are the same
  have hunique : ∀ d ∈ results l, ∀ d' ∈ results l, d.opId = d'.opId → d = d' := by
    intro d hd d' hd' hid
    have hsymm : Std.Symm fun d d' : OpDone => d.opId ≠ d'.opId := ⟨fun _ _ h => h.symm⟩
    by_contra hne
    exact h.distinct.forall hd hd' hne hid
  have hcases : ∀ body, op.answer id = some body →
      (op.active = true ∧ op.id = id ∧ body = op.pendingTlv) ∨
        ∃ d ∈ results l, d.opId = id ∧ body = d.tlv := by
    intro body hbody
    unfold Operation.answer at hbody
    split at hbody
    · next hactive =>
      obtain ⟨ha, hid⟩ := Bool.and_eq_true_iff.mp hactive
      exact .inl ⟨ha, by simpa using hid, (Option.some.inj hbody).symm⟩
    · obtain ⟨d, hfound, rfl⟩ := Option.map_eq_some_iff.mp hbody
      exact .inr ⟨d, hmem d (List.mem_of_find?_eq_some hfound), by simpa using List.find?_some hfound, rfl⟩
  have hbegun : ∀ body, op.answer id = some body → BegunIn l id := by
    intro body hbody
    rcases hcases body hbody with ⟨ha, rfl, -⟩ | ⟨d, hd, rfl, -⟩
    · exact (h.running ha).1
    · exact h.recorded d hd
  refine ⟨hbegun, fun body hbody => ?_, fun hnever => ?_, fun d hd hid => ?_⟩
  · rcases hcases body hbody with ⟨ha, rfl, rfl⟩ | ⟨d, hd, rfl, rfl⟩
    · have hnone : (results l).find? (·.opId == op.id) = none := by
        simpa using (h.running ha).2
      rw [hnone]
      rfl
    · cases hfound : (results l).find? (·.opId == d.opId) with
      | none =>
        have := List.find?_eq_none.mp hfound d hd
        simp at this
      | some d' =>
        have hd' : d' = d := hunique d' (List.mem_of_find?_eq_some hfound) d hd
          (by simpa using List.find?_some hfound)
        rw [hd']
        rfl
  · by_contra hne
    obtain ⟨body, hbody⟩ := Option.ne_none_iff_exists'.mp hne
    obtain ⟨kind, hd, s, -, hid, payload, s', hr⟩ := hbegun body hbody
    exact hnever hd payload s' hr hid
  · have hdone : d ∈ op.done := by
      rw [← List.mem_reverse, h.done]
      exact hd
    have hnot : (op.active && op.id == id) = false := by
      by_contra hactive
      obtain ⟨ha, heq⟩ : op.active = true ∧ op.id = id := by simpa using hactive
      exact (h.running ha).2 d (hmem d hdone) (hid.trans heq.symm)
    cases hfound : op.done.find? (·.opId == id) with
    | none =>
      have := List.find?_eq_none.mp hfound d hdone
      simp [hid] at this
    | some d' =>
      have hid' : d'.opId = id := by simpa using List.find?_some hfound
      have hd' : d' = d := hunique d' (hmem d' (List.mem_of_find?_eq_some hfound)) d (hmem d hdone)
        (hid'.trans hid.symm)
      unfold Operation.answer
      rw [hnot, hfound, hd']
      rfl

/-- A change of the operation that takes it back at most. -/
lemma ResultsInv.same (h : ResultsInv l op hwm) (ha : op'.active = true → op.active = true)
    (hi : op'.id = op.id) (hd : op'.done = op.done) : ResultsInv l op' hwm :=
  { h with
    running := fun hactive => hi ▸ h.running (ha hactive)
    done := hd ▸ h.done }

/-- The head of a log that has a request further down. -/
lemma eq_cons_append_request {e : Ev} {l₁ l₂ : List Ev} {h : Header} {payload : List UInt8} {s : Server}
    (he : ∀ h payload s, e ≠ .request h payload s) (heq : e :: l = l₁ ++ Ev.request h payload s :: l₂) :
    ∃ l₁', l₁ = e :: l₁' ∧ l = l₁' ++ Ev.request h payload s :: l₂ := by
  cases l₁ with
  | nil => exact absurd (List.cons.inj heq).1 (he _ _ _)
  | cons e' l₁' =>
    obtain ⟨rfl, hl⟩ := List.cons.inj heq
    exact ⟨l₁', rfl, hl⟩

lemma ResultsInv.note (h : ResultsInv l op hwm) {e : Ev} (he : e.offResults = true) :
    ResultsInv (e :: l) op hwm := by
  have hresults : results (e :: l) = results l :=
    results_cons_none (by cases e <;> first | rfl | cases he) l
  have hrequest : ∀ h payload s, e ≠ .request h payload s := by
    rintro _ _ _ rfl
    cases he
  have hbegun : ∀ kind h s, Ev.begun kind h s ∈ e :: l → Ev.begun kind h s ∈ l := by
    intro kind hd s hb
    refine mem_of_mem_cons_ne hb ?_
    rintro rfl
    cases he
  refine ⟨?_, ?_, ?_, ?_, fun hd p s hr => ?_, fun l₁ hd p s l₂ heq hl₁ kind h' s' hb => ?_,
    fun kind hd s hb => h.begunRequests kind hd s (hbegun kind hd s hb)⟩
  · rw [hresults]
    exact fun ha => ⟨(h.running ha).1.cons, (h.running ha).2⟩
  · rw [hresults]
    exact h.done
  · rw [hresults]
    exact fun d hd => (h.recorded d hd).cons
  · rw [hresults]
    exact h.distinct
  · exact h.requests hd p s (mem_of_mem_cons_ne hr (hrequest hd p s).symm)
  · obtain ⟨l₁', rfl, hl⟩ := eq_cons_append_request hrequest heq
    exact h.newest l₁' hd p s l₂ hl (fun e he => hl₁ e (List.mem_cons_of_mem _ he)) kind h' s'
      (hbegun kind h' s' hb)

lemma ResultsInv.notes {l' : List Ev} (h : ResultsInv l op hwm) (hl : ∀ e ∈ l', e.offResults = true) :
    ResultsInv (l' ++ l) op hwm := by
  induction l' with
  | nil => exact h
  | cons e l' ih =>
    exact (ih fun e he => hl e (List.mem_cons_of_mem _ he)).note (hl e (List.mem_cons_self ..))

/-- A request is accepted: its id is greater than all before it. -/
lemma ResultsInv.request (h : ResultsInv l op hwm) {hd : Header} (payload : List UInt8) (s : Server)
    (hnew : hwm < hd.requestId) : ResultsInv (.request hd payload s :: l) op hd.requestId := by
  have hresults : results (.request hd payload s :: l) = results l := results_cons_none rfl l
  have hbegun : ∀ kind h' s', Ev.begun kind h' s' ∈ Ev.request hd payload s :: l →
      h'.requestId < hd.requestId := by
    intro kind h' s' hb
    exact UInt32.lt_of_le_of_lt (h.begunRequests kind h' s' (mem_of_mem_cons_ne hb nofun)) hnew
  refine ⟨?_, ?_, ?_, ?_, fun h' p s' hr => ?_, fun l₁ h' p s' l₂ heq hl₁ kind h'' s'' hb => ?_,
    fun kind h' s' hb => UInt32.le_of_lt (hbegun kind h' s' hb)⟩
  · rw [hresults]
    exact fun ha => ⟨(h.running ha).1.cons, (h.running ha).2⟩
  · rw [hresults]
    exact h.done
  · rw [hresults]
    exact fun d hd => (h.recorded d hd).cons
  · rw [hresults]
    exact h.distinct
  · rcases List.mem_cons.mp hr with heq | hr
    · cases heq
      exact UInt32.le_refl _
    · exact UInt32.le_of_lt (UInt32.lt_of_le_of_lt (h.requests h' p s' hr) hnew)
  · cases l₁ with
    | nil =>
      obtain ⟨hreq, rfl⟩ := List.cons.inj heq
      cases hreq
      exact hbegun kind h'' s'' hb
    | cons e l₁ =>
      obtain ⟨rfl, hl⟩ := List.cons.inj heq
      exact h.newest l₁ h' p s' l₂ hl (fun e he => hl₁ e (List.mem_cons_of_mem _ he)) kind h'' s''
        (mem_of_mem_cons_ne hb nofun)

/-- An operation is begun by a request of the session. -/
lemma ResultsInv.begun (h : ResultsInv l op hwm) {l₁ l₂ : List Ev} {hd : Header} {payload : List UInt8}
    {s : Server} (hl : l = l₁ ++ Ev.request hd payload s :: l₂) (hl₁ : ∀ e ∈ l₁, e.starts = false)
    (kind : OpKind) (s' : Server) (hi : op'.id = hd.requestId) (hd' : op'.done = op.done) :
    ResultsInv (.begun kind hd s' :: l) op' hwm := by
  have hresults : results (.begun kind hd s' :: l) = results l := results_cons_none rfl l
  have hrequest : Ev.request hd payload s ∈ l := by
    rw [hl]
    exact List.mem_append_right _ (List.mem_cons_self ..)
  refine ⟨fun _ => ⟨?_, ?_⟩, ?_, ?_, ?_, fun h' p s'' hr => ?_, fun l₁' h' p s'' l₂' heq hl₁' => ?_,
    fun kind' h' s'' hb => ?_⟩
  · exact ⟨kind, hd, s', List.mem_cons_self .., hi.symm, payload, s, List.mem_cons_of_mem _ hrequest⟩
  · rw [hresults, hi]
    intro d hdone heq
    obtain ⟨kind', h', s'', hb, hid, -⟩ := h.recorded d hdone
    have hlt := h.newest l₁ hd payload s l₂ hl hl₁ kind' h' s'' hb
    rw [hid, heq] at hlt
    exact UInt32.lt_irrefl _ hlt
  · rw [hresults, hd']
    exact h.done
  · rw [hresults]
    exact fun d hd => (h.recorded d hd).cons
  · rw [hresults]
    exact h.distinct
  · exact h.requests h' p s'' (mem_of_mem_cons_ne hr nofun)
  · obtain ⟨l₁'', rfl, -⟩ := eq_cons_append_request (fun _ _ _ h => by cases h) heq
    have := hl₁' _ (List.mem_cons_self ..)
    cases this
  · rcases List.mem_cons.mp hb with heq | hb
    · cases heq
      exact h.requests hd payload s hrequest
    · exact h.begunRequests kind' h' s'' hb

/-- The last four of a list with a new head. -/
lemma take_four_cons {α : Type} {done rs : List α} (h : done.reverse = rs.take maxOperationResults) (d : α) :
    ((if done.length < maxOperationResults then done else done.tail) ++ [d]).reverse =
      (d :: rs).take maxOperationResults := by
  have htake : (d :: rs).take maxOperationResults = d :: rs.take 3 := rfl
  rw [htake, List.reverse_append, List.reverse_singleton, List.singleton_append]
  congr 1
  have hlen : done.length = min maxOperationResults rs.length := by
    rw [← List.length_reverse, h, List.length_take]
  have hmax : maxOperationResults = 4 := rfl
  rw [hmax] at h hlen ⊢
  split
  · next hlt =>
    rw [h, List.take_of_length_le (by omega), List.take_of_length_le (by omega)]
  · have hdrop : done.tail.reverse = done.reverse.dropLast := by
      rw [List.dropLast_reverse]
    have hthree : min (min 4 rs.length - 1) 4 = 3 := by omega
    rw [hdrop, h, List.dropLast_eq_take, List.length_take, List.take_take, hthree]

/-- The operation of the session is completed. -/
lemma ResultsInv.completed (h : ResultsInv l op hwm) {d : OpDone} (s : Server) (hb : BegunIn l d.opId)
    (hfirst : ∀ d' ∈ results l, d'.opId ≠ d.opId) (ha : op.active = false) :
    ResultsInv (.completed d s :: l) (op.pushDone d) hwm := by
  have hresults : results (.completed d s :: l) = d :: results l := List.filterMap_cons_some rfl
  refine ⟨fun hactive => absurd (ha.symm.trans hactive) nofun, ?_, ?_, ?_, fun h' p s' hr => ?_,
    fun l₁ h' p s' l₂ heq hl₁ kind h'' s'' hb => ?_, fun kind h' s' hb => ?_⟩
  · rw [hresults]
    exact take_four_cons h.done d
  · rw [hresults]
    intro d' hd'
    rcases List.mem_cons.mp hd' with rfl | hd'
    · exact hb.cons
    · exact (h.recorded d' hd').cons
  · rw [hresults]
    exact List.pairwise_cons.mpr ⟨fun d' hd' => (hfirst d' hd').symm, h.distinct⟩
  · exact h.requests h' p s' (mem_of_mem_cons_ne hr nofun)
  · obtain ⟨l₁', rfl, hl⟩ := eq_cons_append_request (fun _ _ _ h => by cases h) heq
    exact h.newest l₁' h' p s' l₂ hl (fun e he => hl₁ e (List.mem_cons_of_mem _ he)) kind h'' s''
      (mem_of_mem_cons_ne hb nofun)
  · exact h.begunRequests kind h' s' (mem_of_mem_cons_ne hb nofun)

/-- A new session. -/
lemma resultsInv_nil (ha : op.active = false) (hd : op.done = []) : ResultsInv [] op hwm where
  running := fun hactive => absurd (ha.symm.trans hactive) nofun
  done := by rw [hd]; rfl
  recorded := fun _ h => absurd h List.not_mem_nil
  distinct := .nil
  requests := fun _ _ _ h => absurd h List.not_mem_nil
  newest := fun _ _ _ _ _ _ _ _ _ _ h => absurd h List.not_mem_nil
  begunRequests := fun _ _ _ h => absurd h List.not_mem_nil

end Steps

/-! ## Runs -/

lemma freshLog_cons {e : Ev} {l : List Ev} (hl : FreshLog l) (he : ∀ h payload s, e ≠ .request h payload s) :
    FreshLog (e :: l) := by
  intro h payload s l' hsuffix
  rcases List.suffix_cons_iff.mp hsuffix with heq | hold
  · exact absurd (List.cons.inj heq).1.symm (he h payload s)
  · exact hl h payload s l' hold

lemma freshLog_append {l l' : List Ev} (hl' : FreshLog l') (hl : ∀ e ∈ l, e.offResults = true) :
    FreshLog (l ++ l') := by
  induction l with
  | nil => exact hl'
  | cons e l ih =>
    refine freshLog_cons (ih fun e he => hl e (List.mem_cons_of_mem _ he)) ?_
    rintro _ _ _ rfl
    exact nomatch hl _ (List.mem_cons_self ..)

/-- A step that leaves the results alone. -/
lemma Kept.next {l : List Ev} (hw : Kept w) (hlog : w'.log = l ++ w.log)
    (hl : ∀ e ∈ l, e.offResults = true) (hs : w'.srv.session.active = true → w.srv.session.active = true)
    (hr : w'.srv.session.reqHwm = w.srv.session.reqHwm)
    (ha : w'.srv.op.active = true → w.srv.op.active = true) (hi : w'.srv.op.id = w.srv.op.id)
    (hd : w'.srv.op.done = w.srv.op.done) : Kept w' := by
  intro hidle
  rw [hlog] at hidle ⊢
  obtain ⟨hfresh, hinv⟩ := hw hidle.of_append
  refine ⟨freshLog_append hfresh hl, fun hactive => ?_⟩
  obtain ⟨hopen, hresults⟩ := hinv (hs hactive)
  have hsess : sess (l ++ w.log) = l ++ sess w.log := sess_append_offResults hl
  obtain ⟨id, s, l', hl'⟩ := hopen
  refine ⟨⟨id, s, l', ?_⟩, ?_⟩
  · rw [hsess, List.append_assoc, ← hl']
  · rw [hsess, hr]
    exact (hresults.same ha hi hd).notes hl

lemma Kept.act (hw : Kept w) (f : Server → Server) (hop : (f w.srv).op = w.srv.op)
    (hs : (f w.srv).session = w.srv.session) : Kept (w.act f) := by
  refine hw.next (l := []) rfl (by simp) ?_ ?_ ?_ ?_ ?_
  all_goals simp [hop, hs]

lemma Kept.note (hw : Kept w) (e : Ev) (he : e.offResults = true) : Kept (w.note e) :=
  hw.next (l := [e]) rfl (by simpa using he) id rfl id rfl rfl

lemma Kept.queue (hw : Kept w) (slot : CtlSlot) : Kept (w.queue slot) :=
  (hw.act _ (op_putCtl _ slot) (session_putCtl _ slot)).note _ rfl

lemma Kept.emit (hw : Kept w) (origin : Origin) (h : Header) (payload bytes : List UInt8) (next : UInt32) :
    Kept (w.emit b origin h payload bytes next) :=
  hw.next (l := [_]) rfl (by simp [Ev.offResults]) id rfl id rfl rfl

lemma Kept.push (hw : Kept w) (op : EventOp) (payload : List UInt8) (f : Server → Server)
    (hf : ∀ s, (f s).op = s.op ∧ (f s).session = s.session) :
    Kept ((w.pushMedia op payload).act f) := by
  have hpush : Kept (w.pushMedia op payload) := (hw.act _ rfl rfl).note _ rfl
  exact hpush.act f (hf _).1 (hf _).2

/-- A session is torn down; nothing is asked until the next one. -/
lemma Kept.withdraw (hw : Kept w) : Kept (w.withdraw b) := by
  intro hidle
  have hlog : (w.withdraw b).log = [Ev.closed w.srv] ++ w.log := rfl
  rw [hlog] at hidle
  refine ⟨freshLog_cons (hw hidle.of_append).1 (fun _ _ _ h => by cases h), fun hactive => ?_⟩
  have hinactive : (w.withdraw b).srv.session.active = false := active_withdraw b w.srv
  exact absurd (hinactive.symm.trans hactive) nofun

lemma Kept.announce (hw : Kept w) (connCtx : UInt32) : Kept (w.announce b connCtx) := by
  rcases announce_cases (b := b) connCtx w with ⟨_, heq⟩ | heq
  · rw [heq]
    exact hw.queue _
  · rw [heq]
    exact (hw.act Server.protocolError rfl rfl).withdraw

lemma Kept.retires (hw : Kept w) (hr : Retires w w') : Kept w' := by
  cases hr with
  | plain _ => exact hw.next (l := []) rfl (by simp) (fun h => h) rfl nofun rfl rfl
  | cancel _ _ => exact hw.next (l := [_]) rfl (by simp [Ev.offResults]) (fun h => h) rfl nofun rfl rfl

/-- An operation is completed; what the backend reports before it does not complete it. -/
lemma Kept.finish {v : World E} {d : OpDone} (hw : Kept w) (ho : w.srv.op.active = true)
    (hv : Retires w v) (hm : Moves b 2 v w') (hd : d.opId = w'.srv.op.id) (hw' : Kept w') :
    Kept (w'.complete d) := by
  intro hidle
  have hlog : (w'.complete d).log = [Ev.completed d w'.srv] ++ w'.log := rfl
  rw [hlog] at hidle
  obtain ⟨hfresh, hinv⟩ := hw' hidle.of_append
  refine ⟨freshLog_cons hfresh (fun _ _ _ h => by cases h), fun hactive => ?_⟩
  obtain ⟨hopen, hresults⟩ := hinv hactive
  refine ⟨hopen.cons rfl, ?_⟩
  -- since `w` no session was created, so all of it is in the session
  have hkept := hm.opKept le_rfl
  have hover : v.srv.op.active = false := by cases hv <;> rfl
  have hid : v.srv.op.id = w.srv.op.id := by cases hv <;> rfl
  obtain ⟨l₁, hl₁, hstarts₁, hresults₁⟩ : ∃ l, v.log = l ++ w.log ∧ (∀ e ∈ l, e.starts = false) ∧
      results l = [] := by
    cases hv with
    | plain _ => exact ⟨[], rfl, by simp, rfl⟩
    | cancel _ _ => exact ⟨[_], rfl, by simp [Ev.starts], rfl⟩
  obtain ⟨l₂, hl₂, hl₂'⟩ := hkept.log
  have hresults₂ : results l₂ = [] := by
    refine List.filterMap_eq_nil_iff.mpr fun e he => ?_
    have hc := (hl₂' e he).2 hover
    cases e <;> first | rfl | cases hc
  have hlog' : w'.log = (l₂ ++ l₁) ++ w.log := by rw [hl₂, hl₁, List.append_assoc]
  have hstarts : ∀ e ∈ l₂ ++ l₁, e.starts = false := by
    intro e he
    rcases List.mem_append.mp he with he | he
    · exact (hl₂' e he).1
    · exact hstarts₁ e he
  have hactive' : w.srv.session.active = true := by
    have hv' : v.srv.session.active = true := hm.active_of_active hactive
    cases hv <;> exact hv'
  have hidle' : OpensIdle w.log := by
    have := hidle.of_append
    rw [hlog'] at this
    exact this.of_append
  obtain ⟨-, hinv'⟩ := hw hidle'
  obtain ⟨hbegun, hfirst⟩ := (hinv' hactive').2.running ho
  obtain ⟨hsess, -⟩ := Opened.of_append hstarts (hlog' ▸ hopen)
  have hopId : d.opId = w.srv.op.id := by rw [hd, hkept.id, hid]
  have hnothing : results (l₂ ++ l₁) = [] := by
    unfold results at *
    rw [List.filterMap_append, hresults₁, hresults₂]
    rfl
  have hsame : results (sess w'.log) = results (sess w.log) := by
    rw [hlog', hsess]
    unfold results at *
    rw [List.filterMap_append, hnothing]
    rfl
  have hcomplete : ResultsInv (sess (w'.complete d).log) (w'.srv.op.pushDone d) w'.srv.session.reqHwm := by
    refine hresults.completed _ ?_ ?_ (hkept.idle hover)
    · rw [hopId, hlog', hsess]
      exact hbegun.mono (List.subset_append_right _ _)
    · rw [hopId, hsame]
      exact hfirst
  exact hcomplete

/-- An operation is begun. -/
lemma Kept.beginOp (hw : Kept w) {hd : Header} (hb : Begins hd w) (kind : OpKind) (deadlineMs : UInt32) :
    Kept (w.beginOp kind hd deadlineMs) := by
  intro hidle
  have hlog : (w.beginOp kind hd deadlineMs).log = [Ev.begun kind hd w.srv] ++ w.log := rfl
  rw [hlog] at hidle
  obtain ⟨hfresh, hinv⟩ := hw hidle.of_append
  refine ⟨freshLog_cons hfresh (fun _ _ _ h => by cases h), fun hactive => ?_⟩
  obtain ⟨hopen, hresults⟩ := hinv hactive
  obtain ⟨l, payload, s, l', hl, hstarts⟩ := hb
  obtain ⟨hsess, hopen'⟩ := Opened.of_append hstarts (hl ▸ hopen)
  have hsess' : sess w.log = l ++ Ev.request hd payload s :: sess l' := by
    rw [hl, hsess, sess_cons_within rfl]
  exact ⟨hopen.cons rfl, hresults.begun hsess' hstarts kind w.srv rfl rfl⟩

/-- A request is accepted. -/
lemma Kept.accept (hw : Kept w) {hd : Header} (hn : NewRequest hd w.srv) (payload : List UInt8) :
    Kept (w.accept hd payload) := by
  intro hidle
  have hlog : (w.accept hd payload).log =
      [Ev.request hd payload (w.srv.acceptRequest hd)] ++ w.log := rfl
  rw [hlog] at hidle
  obtain ⟨hfresh, hinv⟩ := hw hidle.of_append
  obtain ⟨hopen, hresults⟩ := hinv hn.active
  refine ⟨?_, fun _ => ⟨hopen.cons rfl, hresults.request payload _ hn.id_new⟩⟩
  intro h p s l hsuffix
  rcases List.suffix_cons_iff.mp hsuffix with heq | hold
  · cases heq
    exact hresults.answers
  · exact hfresh h p s l hold

/-- No session is created. -/
lemma Kept.turnAway (hw : Kept w) (hd : Header) : Kept (w.turnAway hd) := by
  intro hidle
  exact ⟨(hw hidle).1, nofun⟩

/-- A session is created. -/
lemma Kept.greet (hw : Kept w) (hd : Header) : Kept (w.greet hd) := by
  intro hidle
  have hlog : (w.greet hd).log = [Ev.opened (w.srv.session.counter + 1) w.srv] ++ w.log := rfl
  rw [hlog] at hidle
  have hopens := hidle _ (List.mem_cons_self ..)
  obtain ⟨ha, hdone⟩ : w.srv.op.active = false ∧ w.srv.op.done = [] := by
    simpa [Ev.opensIdle] using hopens
  refine ⟨freshLog_cons (hw hidle.of_append).1 (fun _ _ _ h => by cases h), fun _ => ?_⟩
  exact ⟨opened_opened _ _ _, resultsInv_nil ha hdone⟩

lemma Quiet.kept {f : Server → Server} (hq : Quiet w.srv (f w.srv)) (hw : Kept w) : Kept (w.act f) := by
  have hfield {β : Type} (g : Operation → β) : g { (f w.srv).op with pairReadyPending := false } =
      g { w.srv.op with pairReadyPending := false } := congrArg g hq.op
  refine hw.next (l := []) rfl (by simp) ?_ ?_ (fun h => (hfield Operation.active).symm.trans h)
    (hfield Operation.id) (hfield Operation.done)
  · simp [hq.session]
  · simp [hq.session]

lemma Moves.kept (h : Moves b k w w') (hw : Kept w) : Kept w' := by
  induction h with
  | refl => exact hw
  | send _ _ _ _ ih => exact ((ih hw).act _ rfl rfl).note _ rfl
  | flush _ _ ih => exact (ih hw).note _ rfl
  | emitCtl _ _ _ _ _ _ _ _ _ _ _ ih =>
    exact ((ih hw).emit _ _ _ _ _).act _ (op_freeSlot _ _) (session_freeSlot _ _)
  | emitKey _ _ _ _ _ _ _ _ _ ih => exact ((ih hw).emit _ _ _ _ _).act _ rfl rfl
  | emitMedia _ _ _ _ _ _ _ _ _ _ ih => exact ((ih hw).emit _ _ _ _ _).act _ rfl rfl
  | pump _ _ _ _ ihf ih => exact ihf (ih hw)
  | teardown _ _ ih ihr => exact ihr (ih hw).withdraw
  | keys _ rep _ ih =>
    have hsame := onlyKeys_applyKeys
    exact ((ih hw).act _ (hsame _ rep).op (hsame _ rep).session).note _ rfl
  | discard _ _ _ ih => exact (ih hw).act _ rfl rfl
  | cut _ _ _ _ _ _ _ ihf ih =>
    refine (ihf ((ih hw).act _ rfl rfl)).push _ _ _ fun s => ?_
    exact ⟨(onlyVoice_endQueued s true).op, (onlyVoice_endQueued s true).session⟩
  | drain _ _ _ _ _ _ _ _ ihf ih =>
    refine (ihf (ih hw)).push _ _ _ fun s => ?_
    exact ⟨(onlyVoice_endQueued s false).op, (onlyVoice_endQueued s false).session⟩
  | env _ _ _ ih => exact (ih hw).next (l := []) rfl (by simp) (fun h => h) rfl (fun h => h) rfl rfl
  | quiet _ _ hq _ ih => exact hq.kept (ih hw)
  | called _ _ _ _ _ ih => exact (ih hw).note _ rfl
  | fault _ _ _ ih => exact (ih hw).note _ rfl
  | event _ _ _ _ _ _ _ ih => exact (ih hw).queue _
  | @link _ _ _ w₁ _ _ _ _ hn _ _ _ _ ihw ih =>
    have hnew : Kept w₁ := by
      rcases hn with rfl | ⟨_, _, rfl⟩
      · exact ih hw
      · exact ((ih hw).act _ rfl rfl).note _ rfl
    have hsettle : ∀ (s : Server) (left : Bool) (state : LinkState),
        (s.settle left state).session = s.session := by
      intro s left state
      unfold Server.settle
      cases left <;> cases state.down <;> rfl
    exact ((ihw (hnew.act _ rfl rfl)).act _ (OpKept.op_settle _ _ _) (hsettle _ _ _)).announce _
  | profile _ _ _ _ ih => exact (((ih hw).act _ rfl rfl).note _ rfl).announce _
  | start _ _ _ _ _ _ _ _ ihf ih =>
    exact (ihf ((ih hw).act _ rfl rfl)).push _ _ _ fun _ => ⟨rfl, rfl⟩
  | noStart _ _ _ _ _ _ _ ihf ih => exact (ihf ((ih hw).act _ rfl rfl)).act _ rfl rfl
  | format _ _ _ _ _ _ _ _ _ _ ihf ih => exact (ihf (ih hw)).push _ _ _ fun _ => ⟨rfl, rfl⟩
  | unit _ _ _ _ _ ih => exact (ih hw).act _ rfl rfl
  | fragment _ _ _ _ _ _ _ _ ihf ih =>
    refine (ihf (ih hw)).push _ _ _ fun s => ?_
    exact ⟨(onlyVoice_dataQueued s _ _ _).op, (onlyVoice_dataQueued s _ _ _).session⟩
  | resumeVoice _ _ _ ih => exact (ih hw).act _ rfl rfl
  | prompt _ _ _ _ _ _ _ _ ih => exact (ih hw).act _ rfl rfl
  | cancel _ _ _ _ ih => exact ((ih hw).act _ rfl rfl).note _ rfl
  | finish _ _ ho hv hm hd _ ihm ih => exact (ih hw).finish ho hv hm hd (ihm ((ih hw).retires hv))
  | granted _ _ _ ih => exact (ih hw).note _ rfl
  | enableEvents _ _ _ ih =>
    have hsame := onlyKeys_enableEvents
    exact ((ih hw).act _ (hsame _).op (hsame _).session).note _ rfl
  | stopEvents _ _ ih => exact (ih hw).act _ rfl rfl
  | beginFind _ _ _ _ _ ih => exact (ih hw).act _ rfl rfl
  | beginOp _ kind _ dl _ hb _ _ ih => exact (ih hw).beginOp hb kind dl
  | enableVoice _ _ _ _ _ _ ih => exact (ih hw).act _ rfl rfl
  | disableVoice _ _ ih => exact (ih hw).act _ rfl rfl

lemma Answer.kept {h : Header} (ha : Answer b h w w') (hw : Kept w) : Kept w' := by
  have hpatch : ∀ {v : World E} (closing : UInt32), Kept v → Kept (v.act (Server.patchSlotZero closing)) := by
    intro v closing hv
    refine hv.act _ ?_ ?_
    all_goals
      unfold Server.patchSlotZero
      split <;> rfl
  have hkeep : ∀ {v : World E} (s : Server), Kept v → Kept (v.keepCommitted s h) := fun _ hv =>
    ((hv.act _ rfl rfl).note _ rfl).note _ rfl
  have herror : ∀ {v : World E}, Kept v → Kept (v.act Server.protocolError) := fun hv => hv.act _ rfl rfl
  cases ha with
  | reply status payload _ _ => exact (hw.note _ rfl).queue _
  | full len _ hr => exact hr.kept (herror (hw.note _ rfl)).withdraw
  | deferred _ => exact (hw.act _ rfl rfl).note _ rfl
  | goodbye _ hr _ => exact hpatch _ ((hkeep _ (hr.kept hw.withdraw)).queue _)
  | goodbyeFull _ hr _ hr' =>
    exact hpatch _ (hr'.kept (herror (hkeep _ (hr.kept hw.withdraw))).withdraw)

lemma Turns.kept {g : Prop} (h : Turns b g w w') (hw : Kept w) : Kept w' := by
  induction h with
  | refl => exact hw
  | moves hm _ ih => exact hm.kept ih
  | pump hm _ ih => exact hm.kept ih
  | seq _ _ _ ih => exact ih.next (l := []) rfl (by simp) (fun h => h) rfl (fun h => h) rfl rfl
  | request hd payload hn hh _ ih =>
    obtain ⟨w₁, w₂, h₁, ha, h₂⟩ := hh
    exact h₂.kept (ha.kept (h₁.kept (ih.accept hn payload)))
  | refuse _ _ _ _ _ _ _ ih => exact (ih.note _ rfl).queue _
  | refuseFull _ _ _ _ ih => exact ih.note _ rfl
  | raw _ _ _ _ _ ih => exact (ih.act _ rfl rfl).note _ rfl
  | hello hd _ _ _ _ _ _ _ ih => exact (ih.greet hd).queue _
  | helloFull hd _ _ _ _ _ _ _ ih => exact ih.greet hd
  | exhausted hd _ _ _ _ _ ih => exact (ih.turnAway hd).queue _
  | exhaustedFull hd _ _ _ ih => exact ih.turnAway hd
  | deferred _ _ _ _ _ _ _ ih => exact (ih.queue _).act _ rfl rfl
  | forget _ _ ih => exact ih.act _ rfl rfl
  | gone _ _ _ ih => exact (ih.act _ rfl rfl).act _ rfl rfl

lemma kept_init (cfg : Config) (profile : Option DeviceProfile) (loaded : Option PeerRecord) (env : E) :
    Kept ({ srv := Server.init b cfg profile loaded, env := env, log := [] } : World E) := by
  have hactive : (Server.init b cfg profile loaded).session.active = false := rfl
  generalize Server.init b cfg profile loaded = s at hactive
  refine fun _ => ⟨fun h payload s' l hsuffix => ?_, fun ha => ?_⟩
  · exact absurd (List.suffix_nil.mp hsuffix) (List.cons_ne_nil _ _)
  · exact absurd (hactive.symm.trans ha) nofun

/-- In every run in which no session is created over an operation of an earlier one, each `GET_OPERATION`
tells about the current session, and the most recent result. -/
theorem reach_freshAnswers (hw : Reach b anyInput w) (hidle : OpensIdle w.log) :
    FreshAnswers E b w.log := by
  obtain ⟨cfg, profile, loaded, env, hturns⟩ := hw.turns (g := True) fun _ _ => trivial
  obtain ⟨hfresh, -⟩ := hturns.kept (kept_init cfg profile loaded env) hidle
  intro h payload s l id hsuffix hg
  refine ⟨fun P v hv => ?_, hfresh h payload s l hsuffix id⟩
  rw [← hv]
  exact dispatchRequest_getOperation P hg v

/-! ## A deletion of an earlier session -/

/-- A host opens a session and has remote 5 deleted as request 2; the deletion takes its time. -/
def deletingWorld : World Unit :=
  (boundWorld.listens (hostHeader .hello 0 1 0) 1 (tlvPutBytes 1 (List.replicate 16 7) [])).listens
    (hostHeader .forgetPeer 1 2 0) 2 (tlvPutU32 1 5 [])

lemma reach_deletingWorld : Reach Build.default anyInput deletingWorld :=
  (reach_boundWorld.listens (fun _ _ => trivial) rfl (by decide)).listens (fun _ _ => trivial) rfl (by decide)

/-- The host asks for request 2. -/
def askedWorld : World Unit :=
  deletingWorld.listens (hostHeader .getOperation 1 3 0) 3 (tlvPutU32 1 2 [])

/-- `reach_freshAnswers` applies to a deletion in progress. -/
theorem freshAnswers_askedWorld :
    OpensIdle askedWorld.log ∧ FreshAnswers Unit Build.default askedWorld.log := by
  have hidle : OpensIdle askedWorld.log := by
    have hall : askedWorld.log.all Ev.opensIdle = true := by decide +kernel
    exact List.all_eq_true.mp hall
  exact ⟨hidle, reach_freshAnswers (reach_deletingWorld.listens (fun _ _ => trivial) rfl (by decide)) hidle⟩

/-- Another host opens a session, and asks for request 2, which it has not used before. -/
def strangerWorld : World Unit :=
  (deletingWorld.listens (hostHeader .hello 0 1 0) 1 (tlvPutBytes 1 (List.replicate 16 9) [])).listens
    (hostHeader .getOperation 2 3 0) 2 (tlvPutU32 1 2 [])

/-- The newest event is a `GET_OPERATION` for `id` that finds something in a session without requests. -/
def misanswered (id : UInt32) : List Ev → Bool
  | .request h payload s :: l =>
    h.opcode == RequestOp.getOperation.code && h.connectionId == 0 && (tlvScan payload).isOk &&
      required (tlvGetU32 payload 1) == some id && (s.op.answer id).isSome &&
      (sess l).all fun e => match e with
        | .request _ _ _ => false
        | _ => true
  | _ => false

lemma not_freshAnswers_of_misanswered {id : UInt32} {l log : List Ev} (hsuffix : l <:+ log)
    (h : misanswered id l = true) : ¬ FreshAnswers E b log := by
  intro hfresh
  cases l with
  | nil => cases h
  | cons e l =>
    cases e with
    | request hd payload s =>
      simp only [misanswered, Bool.and_eq_true, beq_iff_eq] at h
      obtain ⟨⟨⟨⟨⟨hop, hmanage⟩, hscan⟩, hid⟩, hsome⟩, hnever⟩ := h
      have hscanned : ∃ items, tlvScan payload = .ok items := by
        cases hs : tlvScan payload with
        | error e => rw [hs] at hscan; cases hscan
        | ok items => exact ⟨items, rfl⟩
      have hnone := (hfresh hd payload s l id hsuffix ⟨hop, hmanage, hscanned, hid⟩).2.unknown
        fun h' p s' hr => nomatch List.all_eq_true.mp hnever _ hr
      rw [hnone] at hsome
      cases hsome
    | _ => cases h

/-- The deletion of the first session is reported to the second one. -/
theorem not_freshAnswers_strangerWorld :
    ¬ ∀ w : World Unit, Reach Build.default anyInput w → FreshAnswers Unit Build.default w.log := by
  intro h
  have hreach : Reach Build.default anyInput strangerWorld :=
    (reach_deletingWorld.listens (fun _ _ => trivial) rfl (by decide)).listens (fun _ _ => trivial) rfl
      (by decide)
  have hmis : misanswered 2 (strangerWorld.log.drop 2) = true := by decide +kernel
  exact not_freshAnswers_of_misanswered (List.drop_suffix 2 _) hmis (h _ hreach)

end RemoteBridge
