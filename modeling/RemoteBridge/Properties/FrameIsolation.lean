import RemoteBridge.Product.Frames
import RemoteBridge.Properties.QueueBounds

/-!
# Requests are dispatched once, and bad frames do nothing

`process_frame` looks at a frame in a fixed order: the checksum, the sizes and the unused fields, the kind,
`HELLO`, the version, the session, the sequence number, and at last the request id.  What passes all of it
is dispatched; `Server.refuses` is the disjunction of everything that does not.

## Requests

The high-water mark of the session is set before a request is dispatched, and everything that happens
inside of the dispatch, nested reports of the backend included, leaves it alone or ends the session.  So
the ids that are dispatched in a session increase (`RequestsIncrease`); a new session begins with an empty
list of them (`current` is the log since).

## Frames that are not taken

A frame that is not taken has one of four outcomes (`Isolated`):

* `kept`: it is dropped, and at most counted;
* `answered`: an error reply to it is queued;
* `closed`: the session is torn down;
* `refused`: it is a good `HELLO` of another version.  Its reply belongs to no session and goes to the
  output ring at once (`RefusalWritten`), and then the ring is pumped (`Drained`): the front of the ring
  goes to USB, bytes that waited there before included, and what was not accepted stays.

Before that at most the statistics and the sequence and liveness fields change (`Bookkept`).  That nothing
is begun by any of it is then a fact about four shapes (`Unstarted`).  For a teardown it is said under the
condition that the backend reports nothing from inside of its calls: what it reports there is its own doing.
-/

namespace RemoteBridge

open World

variable {E : Type} {b : Build} {P : Platform E} {k : Nat} {w w' : World E} {log : List Ev}

/-! ## The ids of a session -/

/-- A session begins. -/
def Ev.opens : Ev → Bool
  | .opened _ _ => true
  | _ => false

/-- A request is dispatched. -/
def Ev.asks : Ev → Bool
  | .request _ _ _ => true
  | _ => false

/-- The log since the newest session began, newest first. -/
def current (log : List Ev) : List Ev := log.takeWhile fun e => !e.opens

/-- Every dispatched request has a larger id than those before it in its session. -/
def RequestsIncrease (log : List Ev) : Prop :=
  ∀ h payload s l, (Ev.request h payload s :: l) <:+ log →
    ∀ h' payload' s', Ev.request h' payload' s' ∈ current l → h'.requestId < h.requestId

/-- The ids of the session are in order, and below the high-water mark. -/
structure Dispatched (w : World E) : Prop where
  increase : RequestsIncrease w.log
  hwm : w.srv.session.active = true →
    ∀ h payload s, Ev.request h payload s ∈ current w.log → h.requestId ≤ w.srv.session.reqHwm

lemma mem_current_append {l : List Ev} (hl : ∀ e ∈ l, e.opens = false ∧ e.asks = false) {h : Header}
    {payload : List UInt8} {s : Server} (hm : Ev.request h payload s ∈ current (l ++ log)) :
    Ev.request h payload s ∈ current log := by
  have hopen : ∀ e ∈ l, (!e.opens) = true := fun e he => by rw [(hl e he).1]; rfl
  unfold current at hm ⊢
  rw [List.takeWhile_append_of_pos hopen] at hm
  rcases List.mem_append.mp hm with hm | hm
  · exact nomatch (hl _ hm).2
  · exact hm

lemma RequestsIncrease.append {l : List Ev} (hlog : RequestsIncrease log)
    (hl : ∀ e ∈ l, e.opens = false ∧ e.asks = false) : RequestsIncrease (l ++ log) := by
  induction l with
  | nil => exact hlog
  | cons e l ih =>
    intro h payload s l' hsuffix
    rcases List.suffix_cons_iff.mp hsuffix with heq | hold
    · have he := (hl e (List.mem_cons_self ..)).2
      rw [← (List.cons.inj heq).1] at he
      exact nomatch he
    · exact ih (fun e he => hl e (List.mem_cons_of_mem _ he)) h payload s l' hold

namespace Dispatched

/-- A step that dispatches nothing and begins no session. -/
lemma next {l : List Ev} (hw : Dispatched w) (hlog : w'.log = l ++ w.log)
    (hl : ∀ e ∈ l, e.opens = false ∧ e.asks = false)
    (hs : w'.srv.session.active = true →
      w.srv.session.active = true ∧ w'.srv.session.reqHwm = w.srv.session.reqHwm) : Dispatched w' where
  increase := hlog ▸ hw.increase.append hl
  hwm := by
    intro ha h payload s hm
    rw [hlog] at hm
    rw [(hs ha).2]
    exact hw.hwm (hs ha).1 h payload s (mem_current_append hl hm)

/-- A step that keeps the session. -/
lemma same {l : List Ev} (hw : Dispatched w) (hlog : w'.log = l ++ w.log)
    (hl : ∀ e ∈ l, e.opens = false ∧ e.asks = false) (hs : w'.srv.session = w.srv.session) : Dispatched w' :=
  hw.next hlog hl fun ha => ⟨hs ▸ ha, by rw [hs]⟩

lemma withdraw (hw : Dispatched w) : Dispatched (w.withdraw b) := by
  have hidle : (w.withdraw b).srv.session.active = false := by
    change (w.srv.withdraw b).session.active = false
    unfold Server.withdraw
    dsimp only [Server.stopDelivery, Server.ctlClear]
    split <;> rfl
  exact hw.next (l := [Ev.closed w.srv]) rfl (by simp [Ev.opens, Ev.asks]) fun ha => absurd (hidle.symm.trans ha) nofun

lemma queue (hw : Dispatched w) (slot : CtlSlot) : Dispatched (w.queue slot) :=
  hw.same (l := [Ev.queued slot w.srv]) rfl (by simp [Ev.opens, Ev.asks]) (session_putCtl _ _)

lemma answers (hw : Dispatched w) (h : Header) (len : Nat) : Dispatched (w.note (.answers h len w.srv)) :=
  hw.same (l := [_]) rfl (by simp [Ev.opens, Ev.asks]) rfl

end Dispatched

lemma FrameStep.dispatched (h : FrameStep b w w') (hw : Dispatched w) : Dispatched w' := by
  cases h with
  | plain l hlog hl hs =>
    refine hw.same hlog (fun e he => ?_) hs.session
    have hplain := hl e he
    cases e <;> first | exact ⟨rfl, rfl⟩ | exact nomatch hplain
  | keys rep =>
    exact hw.same (l := [Ev.keys rep w.srv]) rfl (by simp [Ev.opens, Ev.asks]) (onlyKeys_applyKeys _ rep).session
  | subscribe =>
    exact hw.same (l := [Ev.subscribed w.srv]) rfl (by simp [Ev.opens, Ev.asks]) (onlyKeys_enableEvents _).session
  | media op payload ha =>
    exact hw.same (l := [Ev.media _ _ _]) rfl (by simp [Ev.opens, Ev.asks]) rfl
  | event op connectionId payload hp hf => exact hw.queue _
  | emitCtl i slot bytes next hi hu ho hs =>
    refine hw.next (l := [Ev.emitted _ _ _]) rfl (by simp [Ev.opens, Ev.asks]) fun ha => ?_
    have hsession : (Server.freeSlot i (w.srv.putFrame b bytes next)).session = (w.srv.putFrame b bytes next).session :=
      session_freeSlot _ i
    change (Server.freeSlot i (w.srv.putFrame b bytes next)).session.active = true at ha
    change _ ∧ (Server.freeSlot i (w.srv.putFrame b bytes next)).session.reqHwm = _
    rw [hsession] at ha ⊢
    exact ⟨ha, rfl⟩
  | emitKey item rest bytes next hq hs =>
    exact hw.next (l := [Ev.emitted _ _ _]) rfl (by simp [Ev.opens, Ev.asks]) fun ha => ⟨ha, rfl⟩
  | emitMedia item rest bytes next ha hq hs =>
    exact hw.next (l := [Ev.emitted _ _ _]) rfl (by simp [Ev.opens, Ev.asks]) fun ha => ⟨ha, rfl⟩
  | withdraw => exact hw.withdraw

lemma Moves.dispatched (h : Moves b k w w') (hw : Dispatched w) : Dispatched w' := by
  have hframes := h.frames
  clear h
  induction hframes with
  | refl => exact hw
  | tail _ hstep ih => exact hstep.dispatched ih

lemma Answer.dispatched {h : Header} (ha : Answer b h w w') (hw : Dispatched w) : Dispatched w' := by
  have hpatch : ∀ (v : World E) (session : UInt32), Dispatched v → Dispatched (v.act (Server.patchSlotZero session)) := by
    intro v session hv
    refine hv.same (l := []) rfl (by simp) ?_
    change (v.srv.patchSlotZero session).session = v.srv.session
    unfold Server.patchSlotZero
    split <;> rfl
  have hkeep : ∀ (v : World E) (s : Server), Dispatched v → Dispatched (v.keepCommitted s h) := fun v s hv =>
    hv.same (l := [_, _]) rfl (by simp [Ev.opens, Ev.asks]) rfl
  cases ha with
  | reply => exact (hw.answers h _).queue _
  | full len _ hr =>
    have hanswers : Dispatched ((w.note (.answers h len w.srv)).act Server.protocolError) :=
      (hw.answers h len).same (l := []) rfl (by simp) rfl
    exact hr.dispatched hanswers.withdraw
  | deferred => exact hw.same (l := [_]) rfl (by simp [Ev.opens, Ev.asks]) rfl
  | goodbye _ hr => exact hpatch _ _ ((hkeep _ _ (hr.dispatched hw.withdraw)).queue _)
  | goodbyeFull _ hr _ hr' =>
    have hkept := hkeep _ w.srv (hr.dispatched hw.withdraw)
    have herror : Dispatched (World.act Server.protocolError _) := hkept.same (l := []) rfl (by simp) rfl
    exact hpatch _ _ (hr'.dispatched herror.withdraw)

/-- The session of a `HELLO` begins without requests. -/
lemma dispatched_greet (hd : Header) (hw : Dispatched w) : Dispatched (w.greet hd) where
  increase := by
    intro h payload s l hsuffix
    rcases List.suffix_cons_iff.mp hsuffix with heq | hold
    · exact nomatch (List.cons.inj heq).1
    · exact hw.increase h payload s l hold
  hwm := by
    intro _ h payload s hm
    exact nomatch hm

/-- A request with a new id. -/
lemma dispatched_accept {hd : Header} {payload : List UInt8} (hw : Dispatched w) (hn : NewRequest hd w.srv) :
    Dispatched (w.accept hd payload) where
  increase := by
    intro h payload' s l hsuffix h' payload'' s' hm
    rcases List.suffix_cons_iff.mp hsuffix with heq | hold
    · obtain ⟨hhead, rfl⟩ := List.cons.inj heq
      cases hhead
      exact UInt32.lt_of_le_of_lt (hw.hwm hn.active h' payload'' s' hm) hn.id_new
    · exact hw.increase h payload' s l hold h' payload'' s' hm
  hwm := by
    intro _ h payload' s hm
    rcases List.mem_cons.mp hm with heq | hold
    · cases heq
      exact UInt32.le_refl _
    · exact UInt32.le_of_lt (UInt32.lt_of_le_of_lt (hw.hwm hn.active h payload' s hold) hn.id_new)

lemma Turns.dispatched {g : Prop} (h : Turns b g w w') (hw : Dispatched w) : Dispatched w' := by
  induction h with
  | refl => exact hw
  | moves hm _ ih => exact hm.dispatched ih
  | pump hm _ ih => exact hm.dispatched ih
  | seq _ _ _ ih => exact ih.next (l := []) rfl (by simp) fun ha => ⟨ha, rfl⟩
  | request _ _ hn hh _ ih =>
    obtain ⟨w₁, w₂, h₁, ha, h₂⟩ := hh
    exact h₂.dispatched (ha.dispatched (h₁.dispatched (dispatched_accept ih hn)))
  | refuse hd _ payload _ _ _ _ ih => exact (ih.answers hd payload.length).queue _
  | refuseFull _ _ _ _ ih => exact ih.same (l := [_]) rfl (by simp [Ev.opens, Ev.asks]) rfl
  | raw _ _ _ _ _ ih => exact ih.same (l := [_]) rfl (by simp [Ev.opens, Ev.asks]) rfl
  | hello hd _ _ _ _ _ _ _ ih => exact (dispatched_greet hd ih).queue _
  | helloFull hd _ _ _ _ _ _ _ ih => exact dispatched_greet hd ih
  | exhausted hd _ _ _ _ _ ih =>
    have hturned : Dispatched (World.turnAway hd _) := ih.next (l := []) rfl (by simp) fun ha => nomatch ha
    exact hturned.queue _
  | exhaustedFull _ _ _ _ ih => exact ih.next (l := []) rfl (by simp) fun ha => nomatch ha
  | deferred _ _ _ _ _ _ _ ih =>
    exact (ih.queue _).same (l := []) rfl (by simp) rfl
  | forget _ _ ih => exact ih.same (l := []) rfl (by simp) rfl
  | gone _ _ _ ih => exact ih.same (l := []) rfl (by simp) rfl

lemma Reach.dispatched {ok : Input → Prop} (hw : Reach b ok w) : Dispatched w := by
  obtain ⟨cfg, profile, loaded, env, hturns⟩ := hw.turns (g := True) fun _ _ => trivial
  refine hturns.dispatched ⟨?_, fun ha => nomatch ha⟩
  intro h payload s l hsuffix
  exact nomatch List.eq_nil_of_suffix_nil hsuffix

/-! ## Frames that are not taken -/

/-- `process_frame` does not take the frame.  It is damaged, not a plain request, or of another version; or
it is a `HELLO` that is not the first frame of a session; or it is not the next frame of this session, or
its request id is not new. -/
def Server.refuses (h : Header) (payload : List UInt8) (crcOk : Bool) (s : Server) : Bool :=
  !crcOk || h.payloadSize.toNat != payload.length || h.flags != 0 || h.reserved != 0 || h.status != 0 ||
    h.kind != kindRequest || h.major != rbpMajor || h.minor != rbpMinor ||
    if h.opcode == RequestOp.hello.code then !h.helloShape payload.length
    else !s.session.active || h.sessionId != s.session.id || h.txSeq == 0 ||
      h.txSeq != s.session.clientTxHwm + 1 || h.requestId == 0 || decide (h.requestId ≤ s.session.reqHwm)

/-- Only statistics and the sequence and liveness fields of the session differ, and nothing was recorded but
the size of an answer. -/
structure Bookkept (w w' : World E) : Prop where
  srv : w'.srv = { w.srv with
    stats := w'.srv.stats
    session := { w.srv.session with
      clientTxHwm := w'.srv.session.clientTxHwm, lastReqMs := w'.srv.session.lastReqMs } }
  env : w'.env = w.env
  log : ∃ l, w'.log = l ++ w.log ∧ ∀ e ∈ l, ∃ h len s, e = .answers h len s

/-- An error reply to the request `h`. -/
structure ErrorReply (h : Header) (slot : CtlSlot) : Prop where
  kind : slot.kind = kindResponse
  request : slot.requestId = h.requestId
  opcode : slot.opcode = h.opcode
  status : slot.status ≠ Status.ok.code ∧ slot.status ≠ Status.accepted.code

/-- A `HELLO` that is well formed but of another version. -/
structure OtherVersion (h : Header) (payload : List UInt8) (crcOk : Bool) : Prop where
  crc : crcOk = true
  hello : h.opcode = RequestOp.hello.code
  shape : h.helloShape payload.length = true
  version : h.major ≠ rbpMajor ∨ h.minor ≠ rbpMinor

/-- The body of the reply to it: the nonce, where there is one. -/
def mismatchPayload (payload : List UInt8) : List UInt8 :=
  (helloNonce payload).elim [] fun n => tlvPutBytes 3 n []

/-- Its header. -/
def mismatchReply (payload : List UInt8) : Header := mismatchHeader.stamped 1 (mismatchPayload payload).length

variable (b) in
/-- The reply is put behind what waits in the output ring, or is lost where it does not fit. -/
inductive RefusalWritten (payload : List UInt8) (w : World E) : World E → Prop
  | put (out : Ring UInt8)
      (ho : w.srv.out.write b.outRing (wireFrame (mismatchReply payload) (mismatchPayload payload)) = some out) :
      RefusalWritten payload w
        ((w.act (Server.setOut out)).note (.refused (mismatchReply payload) (mismatchPayload payload)))
  | lost (ho : b.outRing - w.srv.out.len <
      (wireFrame (mismatchReply payload) (mismatchPayload payload)).length) : RefusalWritten payload w w

variable (b) in
/-- The front of the output ring is handed to USB, and nothing else happens.  The ring of a reachable server
is sound, so the bytes are always accounted for. -/
structure Drained (w w' : World E) : Prop where
  srv : w'.srv = { w.srv with out := w'.srv.out }
  env : w'.env = w.env
  sent : ∃ l, w'.log = l ++ w.log ∧ (∀ e ∈ l, ∃ bytes, e = .sent bytes) ∧
    (w.srv.out.Ok b.outRing →
      sentBytes l ++ w'.srv.out.contents b.outRing = w.srv.out.contents b.outRing)

/-- What may come of a frame that is not taken. -/
inductive Isolated (b : Build) (P : Platform E) (h : Header) (payload : List UInt8) (crcOk : Bool)
    (w : World E) : World E → Prop
  | kept {w' : World E} (hk : Bookkept w w') : Isolated b P h payload crcOk w w'
  | answered {v : World E} (slot : CtlSlot) (hk : Bookkept w v) (he : ErrorReply h slot) :
      Isolated b P h payload crcOk w (v.queue slot)
  | closed {v : World E} (hk : Bookkept w v) : Isolated b P h payload crcOk w (sessionTeardown b P v)
  /-- The reply to a `HELLO` of another version goes into the output ring, which is pumped then. -/
  | refused {v w' : World E} (ho : OtherVersion h payload crcOk) (hw : RefusalWritten b payload w v)
      (hp : Drained b v w') : Isolated b P h payload crcOk w w'

lemma bookkept_refl (w : World E) : Bookkept w w := ⟨rfl, rfl, [], rfl, by simp⟩

lemma Bookkept.error {v : World E} (hk : Bookkept w v) : Bookkept w (v.act Server.protocolError) :=
  ⟨congrArg (fun s : Server => { s with stats := s.protocolError.stats }) hk.srv, hk.env, hk.log⟩

lemma Bookkept.answers {v : World E} (hk : Bookkept w v) (h : Header) (len : Nat) :
    Bookkept w (v.note (.answers h len v.srv)) := by
  obtain ⟨l, hlog, hl⟩ := hk.log
  refine ⟨hk.srv, hk.env, .answers h len v.srv :: l, ?_, ?_⟩
  · show _ :: v.log = _
    rw [hlog]
    rfl
  · intro e he
    rcases List.mem_cons.mp he with rfl | he
    · exact ⟨h, len, v.srv, rfl⟩
    · exact hl e he

lemma drained_refl (w : World E) : Drained b w w := ⟨rfl, rfl, [], rfl, by simp, fun _ => rfl⟩

/-- Bytes are handed over, and then the rest of the loop hands over more. -/
lemma Drained.send {n : Nat} (hn : n ≤ (w.srv.chunk b).length) (h : Drained b (w.send b n) w') :
    Drained b w w' := by
  obtain ⟨l, hlog, hl, hbytes⟩ := h.sent
  refine ⟨h.srv, h.env, l ++ [.sent ((w.srv.chunk b).take n)], ?_, ?_, fun hok => ?_⟩
  · rw [hlog, List.append_assoc]
    rfl
  · intro e he
    rcases List.mem_append.mp he with he | he
    · exact hl e he
    · exact ⟨_, List.mem_singleton.mp he⟩
  · obtain ⟨hcontents, hok'⟩ := contents_send hok hn
    rw [sentBytes_join, List.append_assoc, hbytes hok']
    exact hcontents

lemma drained_outDrainLoop (P : Platform E) (fuel : Nat) (w : World E) :
    Drained b w (outDrainLoop b P fuel w) := by
  induction fuel generalizing w with
  | zero => exact drained_refl w
  | succ fuel ih =>
    have hle := P.out_le w (w.srv.chunk b)
    unfold outDrainLoop
    dsimp only
    split
    · exact drained_refl w
    · split
      · exact drained_refl w
      · split
        · exact .send hle (drained_refl _)
        · exact .send hle (ih _)

lemma isolated_refuseVersion {h : Header} {payload : List UInt8} {crcOk : Bool}
    (ho : OtherVersion h payload crcOk) :
    Isolated b P h payload crcOk w (refuseVersion b P (helloNonce payload) w) := by
  cases hwrite : w.srv.out.write b.outRing (wireFrame (mismatchReply payload) (mismatchPayload payload)) with
  | none =>
    have hrun : refuseVersion b P (helloNonce payload) w = outDrain b P w := by
      unfold mismatchReply mismatchPayload at hwrite
      unfold refuseVersion
      dsimp only
      rw [hwrite]
    rw [hrun]
    refine .refused ho (.lost ?_) (drained_outDrainLoop P _ w)
    unfold Ring.write at hwrite
    split at hwrite
    · assumption
    · cases hwrite
  | some out =>
    have hrun : refuseVersion b P (helloNonce payload) w = outDrain b P
        ((w.act (Server.setOut out)).note (.refused (mismatchReply payload) (mismatchPayload payload))) := by
      have hfits := hwrite
      unfold mismatchReply mismatchPayload at hfits
      unfold refuseVersion
      dsimp only
      rw [hfits]
      rfl
    rw [hrun]
    exact .refused ho (.put out hwrite) (drained_outDrainLoop P _ _)

/-- A request that is answered with an error. -/
lemma isolated_respondError {h : Header} {payload : List UInt8} {crcOk : Bool} {status : Status}
    (hs : status ≠ .ok ∧ status ≠ .accepted)
    (msg : Option (List UInt8)) {v : World E} (hk : Bookkept w v) :
    Isolated b P h payload crcOk w (respondError b P h status msg v) := by
  have hcode : status.code ≠ Status.ok.code ∧ status.code ≠ Status.accepted.code := by
    obtain ⟨hok, haccepted⟩ := hs
    cases status <;> first | exact absurd rfl hok | exact absurd rfl haccepted | exact ⟨by decide, by decide⟩
  have hanswers : ∀ len, Bookkept w (v.note (.answers h len v.srv)) := hk.answers h
  unfold respondError reply ctlEnqueue
  split
  · exact .closed (hanswers _).error
  · exact .answered _ (hanswers _) ⟨rfl, rfl, rfl, hcode⟩

lemma isolated_failSession {h : Header} {payload : List UInt8} {crcOk : Bool} : Isolated b P h payload crcOk w (failSession b P w) :=
  .closed (bookkept_refl w).error

/-- A `HELLO` that is refused. -/
lemma isolated_handleHello {h : Header} {payload : List UInt8} {crcOk : Bool} (hcrc : crcOk = true)
    (hh : h.opcode = RequestOp.hello.code)
    (hr : h.helloShape payload.length = false ∨ (h.major != rbpMajor || h.minor != rbpMinor) = true) :
    Isolated b P h payload crcOk w (handleHello b P h payload w) := by
  unfold handleHello
  dsimp only
  by_cases hshape : h.helloShape payload.length = true
  · rw [if_neg (by simp [hshape]), if_pos (hr.resolve_left (by simp [hshape]))]
    have hversion := hr.resolve_left (by simp [hshape])
    simp only [Bool.or_eq_true, bne_iff_ne] at hversion
    exact isolated_refuseVersion ⟨hcrc, hh, hshape, hversion⟩
  · rw [if_pos (by simp [hshape])]
    exact .kept (bookkept_refl w).error

/-- A request whose id is not new. -/
lemma isolated_acceptFrame {h : Header} {payload : List UInt8} {crcOk : Bool} {v : World E} (hk : Bookkept w v)
    (hr : h.requestId = 0 ∨ h.requestId ≤ v.srv.session.reqHwm) : Isolated b P h payload crcOk w (acceptFrame b P h payload v) := by
  unfold acceptFrame
  by_cases hzero : h.requestId = 0
  · rw [if_pos (by simp [hzero])]
    exact isolated_respondError (by decide) _ hk
  · rw [if_neg (by simp [hzero]), if_pos (hr.resolve_left hzero)]
    exact isolated_respondError (by decide) _ hk

lemma isolated_processFrame {h : Header} {payload : List UInt8} {crcOk : Bool}
    (hr : w.srv.refuses h payload crcOk = true) : Isolated b P h payload crcOk w (processFrame b P h payload crcOk w) := by
  unfold Server.refuses at hr
  unfold processFrame
  dsimp only
  by_cases hcrc : crcOk = true
  · rw [if_neg (by simp [hcrc])]
    by_cases hdamaged : (h.payloadSize.toNat != payload.length || h.flags != 0 || h.reserved != 0 || h.status != 0) = true
    · rw [if_pos hdamaged]
      split
      · exact .closed (bookkept_refl w).error
      · exact .kept (bookkept_refl w).error
    rw [if_neg hdamaged]
    by_cases hkind : (h.kind != kindRequest) = true
    · rw [if_pos hkind]
      split
      · exact .kept (bookkept_refl w).error
      · exact .kept (bookkept_refl w)
    rw [if_neg hkind]
    by_cases hhello : (h.opcode == RequestOp.hello.code) = true
    · rw [if_pos hhello]
      rw [if_pos hhello] at hr
      simp only [Bool.or_eq_true, Bool.not_eq_true', hcrc, Bool.true_eq_false, false_or] at hr hdamaged
      refine isolated_handleHello hcrc (eq_of_beq hhello) ?_
      simp only [Bool.or_eq_true]
      tauto
    rw [if_neg hhello]
    rw [if_neg hhello] at hr
    by_cases hversion : (h.major != rbpMajor || h.minor != rbpMinor) = true
    · rw [if_pos hversion]
      split
      · exact .closed (bookkept_refl w)
      · exact .kept (bookkept_refl w)
    rw [if_neg hversion]
    by_cases hother : (!w.srv.session.active || h.sessionId != w.srv.session.id) = true
    · rw [if_pos hother]
      exact .kept (bookkept_refl w)
    rw [if_neg hother]
    by_cases hseq : (h.txSeq == 0 || w.srv.session.clientTxHwm == 0xffffffff ||
        h.txSeq != w.srv.session.clientTxHwm + 1) = true
    · rw [if_pos hseq]
      exact isolated_failSession
    rw [if_neg hseq]
    simp only [Bool.or_eq_true, Bool.not_eq_true', beq_iff_eq, decide_eq_true_eq, hcrc, Bool.true_eq_false,
      false_or] at hr hdamaged hversion hother hseq
    refine isolated_acceptFrame ⟨rfl, rfl, [], rfl, by simp⟩ ?_
    change _ ∨ h.requestId ≤ w.srv.session.reqHwm
    tauto
  · rw [if_pos (by simp [hcrc])]
    split
    · exact isolated_failSession
    · exact .kept (bookkept_refl w)

/-! ## Nothing is begun -/

/-- No operation, search or connection is begun, neither events nor voice are enabled, and the peer is
the same. -/
structure Unstarted (s s' : Server) : Prop where
  device : s'.device = s.device
  op : s'.op.active = true → s.op.active = true ∧ s'.op.id = s.op.id
  find : s'.find.active = true → s.find.active = true
  events : s'.keys.enabled = true → s.keys.enabled = true
  voice : s'.voice.enabled = true → s.voice.enabled = true

lemma unstarted_withdraw (s : Server) : Unstarted s (s.withdraw b) := by
  unfold Server.withdraw
  dsimp only [Server.stopDelivery, Server.ctlClear]
  split
  all_goals exact ⟨rfl, fun h => ⟨(Bool.and_eq_true_iff.mp h).1, rfl⟩, nofun, nofun, nofun⟩

lemma Bookkept.unstarted {v : World E} {s : Server} (hk : Bookkept w v) (h : Unstarted v.srv s) :
    Unstarted w.srv s := by
  rw [hk.srv] at h
  exact ⟨h.device, h.op, h.find, h.events, h.voice⟩

lemma unstarted_refl (s : Server) : Unstarted s s := ⟨rfl, fun h => ⟨h, rfl⟩, id, id, id⟩

/-- A teardown begins nothing, unless the backend does in the calls. -/
lemma unstarted_sessionTeardown (hP : ∀ c (v : World E), (P.call c v).1.srv = v.srv) (w : World E) :
    Unstarted w.srv (sessionTeardown b P w).srv := by
  have hcall : ∀ c (v : World E), (invoke P c v).1.srv = v.srv := fun c v => hP c _
  have hcancel : ∀ v : World E, Unstarted w.srv v.srv → Unstarted w.srv (requestPairCancel P v).srv := by
    intro v hv
    unfold requestPairCancel
    split
    · exact hv
    · rw [hcall]
      exact ⟨hv.device, hv.op, hv.find, hv.events, hv.voice⟩
  have hwithdraw : Unstarted w.srv (w.withdraw b).srv := unstarted_withdraw w.srv
  have hpair : Unstarted w.srv
      (if w.srv.pairToCancel then requestPairCancel P (w.withdraw b) else w.withdraw b).srv := by
    split
    · exact hcancel _ hwithdraw
    · exact hwithdraw
  unfold sessionTeardown
  dsimp only
  split
  · rw [hcall]
    split
    · rwa [hcall]
    · exact hpair
  · split
    · rwa [hcall]
    · exact hpair

lemma Isolated.unstarted {h : Header} {payload : List UInt8} {crcOk : Bool}
    (hw : Isolated b P h payload crcOk w w')
    (hP : ∀ c (v : World E), (P.call c v).1.srv = v.srv) : Unstarted w.srv w'.srv := by
  cases hw with
  | kept hk => exact hk.unstarted (unstarted_refl _)
  | answered slot hk _ =>
    refine hk.unstarted ?_
    change Unstarted _ (Server.putCtl slot _)
    exact ⟨device_putCtl _ slot, fun h => ⟨op_putCtl _ slot ▸ h, by rw [op_putCtl]⟩,
      fun h => find_putCtl _ slot ▸ h, fun h => keys_putCtl _ slot ▸ h, fun h => voice_putCtl _ slot ▸ h⟩
  | closed hk => exact hk.unstarted (unstarted_sessionTeardown hP _)
  | refused _ hv hp =>
    rw [hp.srv]
    cases hv with
    | put => exact ⟨rfl, fun h => ⟨h, rfl⟩, id, id, id⟩
    | lost => exact ⟨rfl, fun h => ⟨h, rfl⟩, id, id, id⟩

/-! ## The result -/

/-- A request is dispatched at most once, and a frame that is refused has no effects but its refusal. -/
theorem frames_isolated (b : Build) (ok : Input → Prop) :
    (∀ w : World E, Reach b ok w → RequestsIncrease w.log ∧ w.srv.out.Ok b.outRing) ∧
    ∀ (P : Platform E) (w : World E) (h : Header) (payload : List UInt8) (crcOk : Bool),
      w.srv.refuses h payload crcOk = true →
        Isolated b P h payload crcOk w (processFrame b P h payload crcOk w) ∧
        ((∀ c (v : World E), (P.call c v).1.srv = v.srv) →
          Unstarted w.srv (processFrame b P h payload crcOk w).srv) := by
  refine ⟨fun w hw => ⟨hw.dispatched.increase, hw.bounded.ok⟩, fun P w h payload crcOk hr => ?_⟩
  have hisolated := isolated_processFrame (b := b) (P := P) hr
  exact ⟨hisolated, hisolated.unstarted⟩

/-- The next frame, with the id of the request before it. -/
def repeated : Header := (hostHeader .ping 1 2 0).stamped 3 0

theorem frames_isolated_repeated :
    RequestsIncrease subscribedWorld.log ∧
      Isolated Build.default silentPlatform repeated [] true subscribedWorld
        (processFrame Build.default silentPlatform repeated [] true subscribedWorld) ∧
      Unstarted subscribedWorld.srv
        (processFrame Build.default silentPlatform repeated [] true subscribedWorld).srv := by
  have hisolated := frames_isolated (E := Unit) Build.default anyInput
  have hrefused : subscribedWorld.srv.refuses repeated [] true = true := by decide +kernel
  have hframe := hisolated.2 silentPlatform subscribedWorld repeated [] true hrefused
  exact ⟨(hisolated.1 subscribedWorld reach_subscribedWorld).1, hframe.1, hframe.2 fun _ _ => rfl⟩

/-- The reply to the `HELLO` waits in the output ring. -/
def waitingWorld : World Unit := Input.flush.run Build.default silentPlatform readyWorld

lemma reach_waitingWorld : Reach Build.default anyInput waitingWorld :=
  (reach_readyWorld (fun _ _ => trivial) trivial).silent trivial

/-- Its refusal sends what was waiting. -/
theorem refusal_sends_waiting :
    Reach Build.default anyInput waitingWorld ∧ waitingWorld.srv.refuses futureHello [] true = true ∧
      waitingWorld.srv.session.active = true ∧ 0 < waitingWorld.srv.out.len ∧
      (processFrame Build.default thirstyPlatform futureHello [] true waitingWorld).srv.session.active = true ∧
      (processFrame Build.default thirstyPlatform futureHello [] true waitingWorld).srv.out.len = 0 :=
  ⟨reach_waitingWorld, by decide +kernel⟩

end RemoteBridge
