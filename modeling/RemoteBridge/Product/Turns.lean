import RemoteBridge.Product.Operations

/-!
# Requests and whole runs as turns

A request that `process_frame` accepts is moves, one answer, and moves again.  The answer is a reply in
the control queue; or the queue is full and the session is gone; or the reply is kept for later; or the
request is `GOODBYE`, which answers after it has torn its own session down.

`Turns b g w w'` collects what a run does between inputs: moves and pumps, requests, refusals, sessions
being created and, if `g` allows it, the loss of the USB host.  Every run of the server is a run of turns.
-/

namespace RemoteBridge

open World

variable {E : Type} (b : Build)

/-! ## Answers -/

/-- The slot of a reply to `h`. -/
def Server.replySlot (s : Server) (h : Header) (status : Status) (payload : List UInt8) : CtlSlot :=
  s.ctlSlotFor kindResponse h.opcode status h.requestId h.connectionId payload

/-- `GOODBYE` keeps the frames that were committed before the teardown. -/
def World.keepCommitted (s : Server) (h : Header) (w : World E) : World E :=
  ((w.act (Server.setOutLen s.out.len)).note (.parted s (w.act (Server.setOutLen s.out.len)).srv)).note
    (.answers h 0 (w.act (Server.setOutLen s.out.len)).srv)

/-- `PAIR_BEGIN` and `FORGET_PEER` are accepted right after they have begun their operation. -/
def Grants (h : Header) (w : World E) : Prop :=
  h.opcode = RequestOp.pairBegin.code ∨ h.opcode = RequestOp.forgetPeer.code →
    ∃ kind s l, w.log = Ev.begun kind h s :: l

/-- What a reply says: `ACCEPTED` that an operation was begun, the answer to `GET_DEVICE` the state of
the device. -/
structure Truthful (h : Header) (status : Status) (payload : List UInt8) (w : World E) : Prop where
  accepted : status = .accepted → Grants h w
  device : h.opcode = RequestOp.getDevice.code → status = .ok → payload = w.srv.deviceInfoTlv

/-- How the request `h` is answered. -/
inductive Answer (h : Header) : World E → World E → Prop
  | reply {w : World E} (status : Status) (payload : List UInt8)
      (hs : Truthful h status payload w) (hf : w.srv.ctlFits b payload.length = true) :
      Answer h w ((w.note (.answers h payload.length w.srv)).queue (w.srv.replySlot h status payload))
  | full {w w' : World E} (len : Nat) (hf : w.srv.ctlFits b len = false)
      (hr : Moves b 2 (((w.note (.answers h len w.srv)).act Server.protocolError).withdraw b) w') :
      Answer h w w'
  | deferred {w : World E} (ho : h.opcode = RequestOp.voiceEnable.code) : Answer h w (w.defer h)
  | goodbye {w w' : World E} (ho : h.opcode = RequestOp.goodbye.code)
      (hr : Moves b 2 (w.withdraw b) w') (hf : (w'.keepCommitted w.srv h).srv.ctlFits b 0 = true) :
      Answer h w (((w'.keepCommitted w.srv h).queue
        ((w'.keepCommitted w.srv h).srv.replySlot h .ok [])).act
          (Server.patchSlotZero w.srv.session.id))
  | goodbyeFull {w w' w'' : World E} (ho : h.opcode = RequestOp.goodbye.code)
      (hr : Moves b 2 (w.withdraw b) w') (hf : (w'.keepCommitted w.srv h).srv.ctlFits b 0 = false)
      (hr' : Moves b 2 (((w'.keepCommitted w.srv h).act Server.protocolError).withdraw b) w'') :
      Answer h w (w''.act (Server.patchSlotZero w.srv.session.id))

/-- The request `h` is handled: moves, one answer, moves. -/
def Handles (h : Header) (w w' : World E) : Prop :=
  ∃ w₁ w₂, Moves b 3 w w₁ ∧ Answer b h w₁ w₂ ∧ Moves b 3 w₂ w'

/-! ## Turns -/

/-- `process_frame` takes the frame `h` as the next of the session. -/
structure NextFrame (h : Header) (s : Server) : Prop where
  active : s.session.active = true
  session : h.sessionId = s.session.id
  not_hello : h.opcode ≠ RequestOp.hello.code
  hwm_ne : s.session.clientTxHwm ≠ 0xffffffff
  tx : h.txSeq = s.session.clientTxHwm + 1

/-- The request id of `h` is new. -/
structure NewRequest (h : Header) (s : Server) : Prop where
  active : s.session.active = true
  session : h.sessionId = s.session.id
  not_hello : h.opcode ≠ RequestOp.hello.code
  tx : s.session.clientTxHwm = h.txSeq
  id_ne : h.requestId ≠ 0
  id_new : s.session.reqHwm < h.requestId

/-- A frame that is answered with a refusal: a `HELLO`, or a request with an id that is not new. -/
def Refusal (h : Header) (s : Server) : Prop :=
  h.opcode = RequestOp.hello.code ∨
    (s.session.active = true ∧ h.sessionId = s.session.id ∧ h.opcode ≠ RequestOp.hello.code ∧
      s.session.clientTxHwm = h.txSeq ∧ h.requestId ≤ s.session.reqHwm)

/-- The request `h` is accepted. -/
def World.accept (h : Header) (payload : List UInt8) (w : World E) : World E :=
  (w.act (Server.acceptRequest h)).note (.request h payload (w.srv.acceptRequest h))

/-- The slot of the reply to a `HELLO`. -/
def Server.helloSlot (s : Server) (h : Header) (nonce : List UInt8) : CtlSlot :=
  s.ctlSlotFor kindResponse RequestOp.hello.code .ok h.requestId 0 (s.helloTlv nonce)

/-- The slot of the deferred reply. -/
def Server.deferredSlot (s : Server) (d : DeferredOk) : CtlSlot :=
  s.ctlSlotFor kindResponse d.opcode .ok d.requestId d.connectionId
    (if d.isEnable then voiceEnableTlv false false else [])

/-- A session is created for the `HELLO` `h`. -/
def World.greet (h : Header) (w : World E) : World E := w.create.act (Server.helloSeen h)

/-- The session numbers are used up. -/
def World.turnAway (h : Header) (w : World E) : World E :=
  (w.act Server.noSession).act (Server.helloSeen h)

/-- A session has just been torn down. -/
def Torn (w : World E) : Prop := ∃ v : World E, Moves b 2 (v.withdraw b) w

/-- What happens between inputs; `g` says whether the USB host may go. -/
inductive Turns (g : Prop) : World E → World E → Prop
  | refl (w : World E) : Turns g w w
  | moves {w₀ w w' : World E} (hm : Moves b 2 w w') (h : Turns g w₀ w) : Turns g w₀ w'
  | pump {w₀ w w' : World E} (hm : Moves b 0 w w') (h : Turns g w₀ w) : Turns g w₀ w'
  | seq {w₀ w : World E} (hd : Header) (hn : NextFrame hd w.srv) (h : Turns g w₀ w) :
      Turns g w₀ (w.act (Server.acceptSeq hd))
  | request {w₀ w w' : World E} (hd : Header) (payload : List UInt8) (hn : NewRequest hd w.srv)
      (hh : Handles b hd (w.accept hd payload) w') (h : Turns g w₀ w) : Turns g w₀ w'
  | refuse {w₀ w : World E} (hd : Header) (status : Status) (payload : List UInt8)
      (hr : Refusal hd w.srv) (hs : status ≠ .accepted ∧ status ≠ .ok)
      (hf : w.srv.ctlFits b payload.length = true) (h : Turns g w₀ w) :
      Turns g w₀ ((w.note (.answers hd payload.length w.srv)).queue (w.srv.replySlot hd status payload))
  | refuseFull {w₀ w : World E} (hd : Header) (len : Nat) (hr : Refusal hd w.srv)
      (h : Turns g w₀ w) : Turns g w₀ (w.note (.answers hd len w.srv))
  /-- The reply to a `HELLO` of another version. -/
  | raw {w₀ w : World E} (payload : List UInt8) (out : Ring UInt8)
      (hlen : payload.length ≤ maxPayload)
      (ho : w.srv.out.write b.outRing (wireFrame (mismatchHeader.stamped 1 payload.length) payload) =
        some out) (h : Turns g w₀ w) :
      Turns g w₀ ((w.act (Server.setOut out)).note
        (.refused (mismatchHeader.stamped 1 payload.length) payload))
  | hello {w₀ w : World E} (hd : Header) (nonce : List UInt8) (ha : w.srv.session.active = false)
      (hdel : w.srv.voice.delivering = false) (ht : Torn b w) (hc : w.srv.session.counter ≠ 0xffffffff)
      (hf : (w.greet hd).srv.ctlFits b ((w.greet hd).srv.helloTlv nonce).length = true) (h : Turns g w₀ w) :
      Turns g w₀ ((w.greet hd).queue ((w.greet hd).srv.helloSlot hd nonce))
  | helloFull {w₀ w : World E} (hd : Header) (nonce : List UInt8) (ha : w.srv.session.active = false)
      (hdel : w.srv.voice.delivering = false) (ht : Torn b w) (hc : w.srv.session.counter ≠ 0xffffffff)
      (hf : (w.greet hd).srv.ctlFits b ((w.greet hd).srv.helloTlv nonce).length = false) (h : Turns g w₀ w) :
      Turns g w₀ (w.greet hd)
  | exhausted {w₀ w : World E} (hd : Header) (nonce : List UInt8)
      (ha : w.srv.session.active = false) (hc : w.srv.session.counter = 0xffffffff)
      (hf : (w.turnAway hd).srv.ctlFits b ((w.turnAway hd).srv.helloTlv nonce).length = true) (h : Turns g w₀ w) :
      Turns g w₀ ((w.turnAway hd).queue ((w.turnAway hd).srv.helloSlot hd nonce))
  | exhaustedFull {w₀ w : World E} (hd : Header) (ha : w.srv.session.active = false)
      (hc : w.srv.session.counter = 0xffffffff) (h : Turns g w₀ w) : Turns g w₀ (w.turnAway hd)
  /-- The deferred reply is queued. -/
  | deferred {w₀ w : World E} (d : DeferredOk) (ho : w.srv.voice.okDeferred = some d)
      (ha : w.srv.session.active = true) (hdel : w.srv.voice.delivering = false)
      (hm : w.srv.voice.media = [])
      (hf : w.srv.ctlFits b (w.srv.deferredSlot d).payload.length = true) (h : Turns g w₀ w) :
      Turns g w₀ ((w.queue (w.srv.deferredSlot d)).act Server.clearDeferred)
  | forget {w₀ w : World E} (ha : w.srv.session.active = false) (h : Turns g w₀ w) :
      Turns g w₀ (w.act Server.clearDeferred)
  /-- The USB host is gone. -/
  | gone {w₀ w : World E} (hg : g) (ha : w.srv.session.active = false) (h : Turns g w₀ w) :
      Turns g w₀ ((w.act Server.clearOut).act Server.ctlClear)

variable {b} {P : Platform E} {w w' w'' : World E} {h : Header}

lemma Turns.trans {g : Prop} (h₁ : Turns b g w w') (h₂ : Turns b g w' w'') : Turns b g w w'' := by
  induction h₂ with
  | refl => exact h₁
  | moves hm _ ih => exact .moves hm ih
  | pump hm _ ih => exact .pump hm ih
  | seq hd hn _ ih => exact .seq hd hn ih
  | request hd payload hn hh _ ih => exact .request hd payload hn hh ih
  | refuse hd status payload hr hs hf _ ih => exact .refuse hd status payload hr hs hf ih
  | refuseFull hd len hr _ ih => exact .refuseFull hd len hr ih
  | raw payload out hlen ho _ ih => exact .raw payload out hlen ho ih
  | hello hd nonce ha hdel ht hc hf _ ih => exact .hello hd nonce ha hdel ht hc hf ih
  | helloFull hd nonce ha hdel ht hc hf _ ih => exact .helloFull hd nonce ha hdel ht hc hf ih
  | exhausted hd nonce ha hc hf _ ih => exact .exhausted hd nonce ha hc hf ih
  | exhaustedFull hd ha hc _ ih => exact .exhaustedFull hd ha hc ih
  | deferred d ho ha hdel hm hf _ ih => exact .deferred d ho ha hdel hm hf ih
  | forget ha _ ih => exact .forget ha ih
  | gone hg ha _ ih => exact .gone hg ha ih

/-! ## Building blocks of handlers -/

lemma Moves.up (hm : Moves b 2 w w') : Moves b 3 w w' := hm.mono (by omega) (by omega)

lemma Handles.before (hm : Moves b 3 w w') (hh : Handles b h w' w'') : Handles b h w w'' := by
  obtain ⟨w₁, w₂, h₁, ha, h₂⟩ := hh
  exact ⟨w₁, w₂, hm.trans h₁, ha, h₂⟩

lemma Handles.after (hh : Handles b h w w') (hm : Moves b 3 w' w'') : Handles b h w w'' := by
  obtain ⟨w₁, w₂, h₁, ha, h₂⟩ := hh
  exact ⟨w₁, w₂, h₁, ha, h₂.trans hm⟩

lemma Handles.ite {c : Prop} [Decidable c] (ht : Handles b h w w') (he : Handles b h w w'') :
    Handles b h w (if c then w' else w'') := by
  split
  · exact ht
  · exact he

lemma Answer.handles (ha : Answer b h w w') : Handles b h w w' := ⟨w, w', .refl w, ha, .refl w'⟩

lemma answer_reply (hP : Backend b P) (status : Status) (payload : List UInt8) (w : World E)
    (hs : Truthful h status payload w) : Answer b h w (reply b P h status payload w) := by
  unfold reply ctlEnqueue
  split
  · next hfull =>
    exact .full payload.length (by simpa using hfull) (moves_reports hP _)
  · next hfits => exact .reply status payload hs (by simpa using hfits)

lemma opKept_reply (hP : Backend b P) (status : Status) (payload : List UInt8) (w : World E) :
    OpKept w (reply b P h status payload w) := by
  have hnote := (OpKept.refl w).note (.answers h payload.length w.srv) rfl rfl
  unfold reply ctlEnqueue
  split
  · exact (hnote.act _ rfl).withdraw.trans ((moves_reports hP _).opKept le_rfl)
  · exact hnote.queue _

lemma Answer.log_mono (ha : Answer b h w w') : w.log ⊆ w'.log := by
  have hcons : ∀ {e : Ev} {l l' : List Ev}, l ⊆ l' → l ⊆ e :: l' :=
    fun hsub => List.Subset.trans hsub (List.subset_cons_self _ _)
  cases ha with
  | reply status payload _ _ => exact hcons (hcons (List.Subset.refl _))
  | full len _ hr => exact List.Subset.trans (hcons (hcons (List.Subset.refl _))) hr.log_mono
  | deferred _ => exact hcons (List.Subset.refl _)
  | goodbye _ hr _ =>
    exact hcons (hcons (hcons (List.Subset.trans (hcons (List.Subset.refl _)) hr.log_mono)))
  | goodbyeFull _ hr _ hr' =>
    exact List.Subset.trans (hcons (hcons (hcons (List.Subset.trans (hcons (List.Subset.refl _))
      hr.log_mono)))) hr'.log_mono

section Replies

/-! The request is any but `GET_DEVICE`. -/

variable [hne : Fact (h.opcode ≠ RequestOp.getDevice.code)]

lemma truthful_other {status : Status} {payload : List UInt8} (hs : status = .accepted → Grants h w) :
    Truthful h status payload w :=
  ⟨hs, fun hd => absurd hd hne.out⟩

lemma handles_reply (hP : Backend b P) (status : Status) (payload : List UInt8) (w : World E)
    (hs : status = .accepted → Grants h w) :
    Handles b h w (reply b P h status payload w) :=
  (answer_reply hP status payload w (truthful_other hs)).handles

lemma handles_error (hP : Backend b P) (status : Status) (msg : Option (List UInt8)) (w : World E)
    (hs : status = .accepted → Grants h w) :
    Handles b h w (respondError b P h status msg w) :=
  handles_reply hP status _ w hs

lemma handles_notReady (hP : Backend b P) :
    Handles b h w (respondError b P h w.srv.notReadyStatus none w) := by
  have hstatus : w.srv.notReadyStatus ≠ .accepted := by
    unfold Server.notReadyStatus
    split <;> nofun
  exact handles_error hP _ _ w fun h => absurd h hstatus

lemma handles_text (hP : Backend b P) (status : Status) (msg : String) (w : World E)
    (hs : status = .accepted → Grants h w) :
    Handles b h w (respondText b P h status msg w) :=
  handles_reply hP status _ w hs

end Replies

lemma ofCode_eq {c : UInt16} {op : RequestOp} (ho : RequestOp.ofCode c = some op) : c = op.code := by
  have hfound := List.find?_some ho
  exact (beq_iff_eq.mp hfound).symm

/-- Other requests begin no operation. -/
lemma grants_other {op : RequestOp} (ho : h.opcode = op.code) (hp : op ≠ .pairBegin)
    (hf : op ≠ .forgetPeer) : Grants h w := by
  have hcode : ∀ op' : RequestOp, op.code = op'.code → op = op' := by
    cases op <;> intro op' h <;> cases op' <;> first | rfl | cases h
  rintro (hpair | hforget)
  · exact absurd (hcode _ (ho.symm.trans hpair)) hp
  · exact absurd (hcode _ (ho.symm.trans hforget)) hf

lemma handles_goodbye (hP : Backend b P) (ho : h.opcode = RequestOp.goodbye.code) :
    Handles b h w (handleGoodbye b P h w) := by
  have hr := moves_reports hP w
  refine Answer.handles ?_
  unfold handleGoodbye
  dsimp only
  generalize sessionTeardown b P w = w' at hr ⊢
  have hreply : reply b P h .ok [] ((w'.act (Server.setOutLen w.srv.out.len)).note
      (.parted w.srv (w'.act (Server.setOutLen w.srv.out.len)).srv)) =
      ctlEnqueue b P kindResponse h.opcode .ok h.requestId h.connectionId []
        (w'.keepCommitted w.srv h) := rfl
  rw [hreply, ctlEnqueue]
  split
  · next hfull =>
    exact .goodbyeFull ho hr (by simpa using hfull) (moves_reports hP _)
  · next hfits => exact .goodbye ho hr (by simpa using hfits)

/-! ## Handlers -/

section Handlers

variable (payload : List UInt8) [Fact (h.opcode ≠ RequestOp.getDevice.code)]

lemma handles_ping (hP : Backend b P) : Handles b h w (handlePing b P h payload w) := by
  unfold handlePing
  split
  · exact handles_text hP _ _ w (absurd · (by decide))
  · exact handles_reply hP _ _ w (absurd · (by decide))

lemma handles_getOperation (hP : Backend b P) :
    Handles b h w (handleGetOperation b P h payload w) := by
  unfold handleGetOperation
  split
  · exact handles_text hP _ _ w (absurd · (by decide))
  · dsimp only
    split
    · exact handles_reply hP _ _ w (absurd · (by decide))
    · split
      · exact handles_reply hP _ _ w (absurd · (by decide))
      · exact handles_error hP _ _ w (absurd · (by decide))

lemma handles_findStart (hP : Backend b P) (ho : h.opcode = RequestOp.findStart.code)
    (ha : w.srv.session.active = true) :
    Handles b h w (handleFindStart b P h payload w) := by
  unfold handleFindStart
  split
  · exact handles_text hP _ _ w (absurd · (by decide))
  · split
    · exact handles_text hP _ _ w (absurd · (by decide))
    · split
      · exact handles_error hP _ _ w (absurd · (by decide))
      · split
        · exact handles_text hP _ _ w (absurd · (by decide))
        · next dur _ _ _ _ =>
          obtain ⟨id, e, heq⟩ := drawId_cases P w
          rw [heq]
          dsimp only
          have hdraw : Moves b 3 w { w with env := e } := .env (by omega) _ (.refl w)
          have hbegin : Moves b 3 w (World.act (Server.beginFind id dur) { w with env := e }) :=
            .beginFind (w := { w with env := e }) le_rfl id dur ha hdraw
          have hcall := hbegin.trans (moves_invoke (k := 3) hP (by omega) (.startFind dur)
            rfl (World.act (Server.beginFind id dur) { w with env := e }))
          refine .before hcall ?_
          split
          · have habort : ∀ v : World E, Moves b 3 v (v.act Server.abortFind) := fun v =>
              .step_quiet (by omega) _ (by constructor <;> simp [Server.abortFind])
            exact .before (habort _)
              (handles_text hP _ _ _ fun _ => grants_other ho (absurd · (by decide)) (absurd · (by decide)))
          · exact handles_reply hP _ _ _ (absurd · (by decide))

lemma handles_findList (hP : Backend b P) : Handles b h w (handleFindList b P h payload w) := by
  unfold handleFindList
  split
  · dsimp only
    exact .ite (handles_text hP _ _ w (absurd · (by decide))) (.ite (handles_text hP _ _ w (absurd · (by decide))) (handles_reply hP _ _ w (absurd · (by decide))))
  · exact handles_text hP _ _ w (absurd · (by decide))

lemma handles_findStop (hP : Backend b P) : Handles b h w (handleFindStop b P h payload w) := by
  unfold handleFindStop
  split
  · exact handles_text hP _ _ w (absurd · (by decide))
  · split
    · exact handles_text hP _ _ w (absurd · (by decide))
    · have hend : Moves b 3 w (w.act fun s => s.endFind s.nowMs) :=
        .step_quiet (by omega) _ (by constructor <;> simp [Server.endFind])
      exact .after (.after (.before hend (handles_reply hP .ok _ _ (absurd · (by decide))))
        (moves_invoke hP (by omega) _ rfl _))
        (moves_event hP (by omega) .findDone 0 _ _ (.findDone _))

lemma handles_pairReply (hP : Backend b P) : Handles b h w (handlePairReply b P h payload w) := by
  have hhide : Moves b 3 w (w.act Server.hidePrompt) :=
    .step_quiet (by omega) _ (by constructor <;> simp [Server.hidePrompt])
  unfold handlePairReply
  split
  · dsimp only
    split
    · exact handles_text hP _ _ w (absurd · (by decide))
    · split
      · exact handles_text hP _ _ w (absurd · (by decide))
      · split
        · exact handles_text hP _ _ w (absurd · (by decide))
        · split
          · exact handles_text hP _ _ w (absurd · (by decide))
          · split
            · exact handles_text hP _ _ w (absurd · (by decide))
            · exact .after (.before hhide (handles_reply hP .ok _ _ (absurd · (by decide))))
                (moves_invoke hP (by omega) _ rfl _)
  · exact handles_text hP _ _ w (absurd · (by decide))

lemma handles_pairCancel (hP : Backend b P) : Handles b h w (handlePairCancel b P h payload w) := by
  have hhide : Moves b 3 w (w.act Server.hidePrompt) :=
    .step_quiet (by omega) _ (by constructor <;> simp [Server.hidePrompt])
  unfold handlePairCancel
  split
  · exact handles_text hP _ _ w (absurd · (by decide))
  · split
    · exact handles_text hP _ _ w (absurd · (by decide))
    · next hop =>
      simp only [Bool.or_eq_true, bne_iff_ne, not_or, not_not] at hop
      refine .after (.before hhide (handles_reply hP .ok _ _ (absurd · (by decide)))) (moves_requestPairCancel hP _ ?_).up
      exact .inl ((opKept_reply hP .ok [] _).kind.trans hop.1.2)

lemma handles_forgetPeer (hP : Backend b P) (hb : Begins h w) :
    Handles b h w (handleForgetPeer b P h payload w) := by
  unfold handleForgetPeer
  split
  · exact handles_text hP _ _ w (absurd · (by decide))
  · split
    · exact handles_error hP _ _ w (absurd · (by decide))
    · next hidle =>
      split
      · exact handles_text hP _ _ w (absurd · (by decide))
      · dsimp only
        have hop : Moves b 3 w (w.beginOp .forget h (w.srv.nowMs + forgetDeadlineMs)) :=
          .beginOp le_rfl .forget h _ (Bool.eq_false_iff.mpr hidle) hb (absurd · (by decide)) (.refl w)
        have hpause : ∀ v : World E, Moves b 3 v (v.act Server.pauseReconnect) := fun v =>
          .step_quiet (by omega) _ (by constructor <;> simp [Server.pauseReconnect])
        refine .before (hop.trans (hpause _)) (.after (handles_reply hP _ _ _ fun _ _ => ?_)
          (moves_invoke hP (by omega) _ rfl _))
        exact ⟨_, _, _, rfl⟩

lemma moves_resumeReconnect (w : World E) : Moves b 3 w (w.act Server.resumeReconnect) :=
  .step_quiet (by omega) _ (by constructor <;> simp [Server.resumeReconnect])

lemma moves_setAutoReconnect (enabled : Bool) (w : World E) :
    Moves b 3 w (w.act (Server.setAutoReconnect enabled)) :=
  .step_quiet (by omega) _ (by constructor <;> simp [Server.setAutoReconnect])

lemma handles_setReconnect (hP : Backend b P) : Handles b h w (handleSetReconnect b P h payload w) := by
  have hresume : ∀ (enabled : Bool) (v : World E),
      Moves b 3 v (if enabled then v.act Server.resumeReconnect else v) := fun enabled v =>
    .ite (moves_resumeReconnect v) (.refl v)
  unfold handleSetReconnect
  split
  · next pid enabled _ _ =>
    dsimp only
    split
    · exact handles_text hP _ _ w (absurd · (by decide))
    · split
      · exact .before (hresume _ w) (handles_reply hP _ _ _ (absurd · (by decide)))
      · have hset := moves_setAutoReconnect (b := b) enabled w
        generalize w.act (Server.setAutoReconnect enabled) = v at hset ⊢
        have hsave : Moves b 3 v { v with env := (P.save v.srv.device.peer v).2 } :=
          .env (by omega) _ (.refl v)
        refine .before (hset.trans hsave) ?_
        split
        · exact .before (moves_setAutoReconnect _ _) (handles_error hP _ _ _ (absurd · (by decide)))
        · exact .before (hresume _ _) (handles_reply hP _ _ _ (absurd · (by decide)))
  · exact handles_text hP _ _ w (absurd · (by decide))

lemma handles_connectPeer (hP : Backend b P) : Handles b h w (handleConnectPeer b P h payload w) := by
  unfold handleConnectPeer
  dsimp only
  split
  · exact handles_error hP _ _ w (absurd · (by decide))
  · split
    · exact handles_text hP _ _ w (absurd · (by decide))
    · split
      · exact handles_text hP _ _ w (absurd · (by decide))
      · split
        · exact handles_text hP _ _ w (absurd · (by decide))
        · exact .ite (handles_reply hP _ _ w (absurd · (by decide))) (.before ((moves_resumeReconnect w).trans
            (moves_invoke hP (by omega) _ rfl _)) (handles_reply hP _ _ _ (absurd · (by decide))))

lemma handles_disconnect (hP : Backend b P) : Handles b h w (handleDisconnect b P h w) := by
  have hpause : Moves b 3 w (w.act fun s =>
      { s.pauseReconnect with voice := { s.voice with resumePeer := 0 } }) :=
    .step_quiet (by omega) _ (by constructor <;> simp [Server.pauseReconnect, Voice.core])
  unfold handleDisconnect
  dsimp only
  refine .before hpause (.before ?_ (handles_reply hP _ _ _ (absurd · (by decide))))
  exact .ite (moves_invoke hP (by omega) _ rfl _) (.refl _)

lemma handles_keyCatalog (hP : Backend b P) : Handles b h w (handleKeyCatalog b P h payload w) := by
  unfold handleKeyCatalog
  split
  · exact handles_notReady hP
  · split
    · exact handles_text hP _ _ w (absurd · (by decide))
    · exact handles_text hP _ _ w (absurd · (by decide))
    · dsimp only
      split
      · exact handles_text hP _ _ w (absurd · (by decide))
      · exact .ite (handles_text hP _ _ w (absurd · (by decide))) (handles_reply hP _ _ w (absurd · (by decide)))

lemma handles_keysSnapshot (hP : Backend b P) : Handles b h w (handleKeysSnapshot b P h w) := by
  unfold handleKeysSnapshot
  exact .ite (handles_notReady hP) (handles_reply hP _ _ w (absurd · (by decide)))

lemma handles_getVoiceCaps (hP : Backend b P) : Handles b h w (handleGetVoiceCaps b P h w) := by
  unfold handleGetVoiceCaps
  exact .ite (handles_error hP _ _ w (absurd · (by decide))) (handles_reply hP _ _ w (absurd · (by decide)))

lemma handles_voiceStart (hP : Backend b P) (ho : h.opcode = RequestOp.voiceStart.code) :
    Handles b h w (handleVoiceStart b P h w) := by
  unfold handleVoiceStart
  dsimp only
  split
  · exact handles_error hP _ _ w (absurd · (by decide))
  · split
    · exact handles_error hP _ _ w (absurd · (by decide))
    · split
      · exact handles_text hP _ _ w (absurd · (by decide))
      · split
        · exact handles_text hP _ _ w (absurd · (by decide))
        · split
          · exact handles_error hP _ _ w (absurd · (by decide))
          · exact .before (moves_invoke hP (by omega) _ rfl _)
              (.ite (handles_error hP _ _ _ fun _ => grants_other ho (absurd · (by decide)) (absurd · (by decide)))
                (handles_reply hP _ _ _ (absurd · (by decide))))

lemma moves_requestStop (w : World E) : Moves b 3 w (w.act Server.requestStop) :=
  .step_quiet (by omega) _ (by constructor <;> simp [Server.requestStop, Voice.core])

lemma handles_voiceStop (hP : Backend b P) : Handles b h w (handleVoiceStop b P h payload w) := by
  unfold handleVoiceStop
  split
  · exact handles_notReady hP
  · split
    · exact handles_text hP _ _ w (absurd · (by decide))
    · split
      · exact handles_text hP _ _ w (absurd · (by decide))
      · dsimp only
        refine .before ?_ (handles_reply hP _ _ _ (absurd · (by decide)))
        exact .ite (.refl w) ((moves_requestStop w).trans (moves_invoke hP (by omega) _ rfl _))

/-! ### Requests that go on after their reply -/

lemma Ungranted.mono {l l' : List Ev} (hu : Ungranted b l) (hsub : l ⊆ l') : Ungranted b l' := by
  obtain ⟨lens, s, hs, hroom⟩ := hu
  exact ⟨lens, s, hsub hs, hroom⟩

lemma Unsubscribed.mono {l l' : List Ev} (hu : Unsubscribed b l) (hsub : l ⊆ l') : Unsubscribed b l' := by
  obtain ⟨s, hs, hroom⟩ := hu
  exact ⟨s, hsub hs, hroom⟩

/-- Without room for a granted request, the log says so. -/
lemma ungranted_of_full {lens : List Nat} (hroom : w.srv.roomFor b lens = false) :
    Ungranted b (w.note (.granted lens w.srv)).log :=
  ⟨lens, w.srv, List.mem_cons_self, hroom⟩

/-- Room for the frames of a granted request is room for the first of them. -/
lemma ctlFits_of_roomFor {s : Server} {len : Nat} {lens : List Nat} (hlen : len ≤ maxPayload)
    (hroom : s.roomFor b (len :: lens) = true) : s.ctlFits b len = true := by
  simp only [Server.roomFor, Bool.and_eq_true, decide_eq_true_eq, List.length_cons] at hroom
  obtain ⟨⟨-, hslots⟩, hbytes⟩ := hroom
  rw [List.sum_cons] at hbytes
  have hfree : (s.ctl.findIdx? fun slot => !slot.used).isSome = true := by
    obtain ⟨slot, hslot⟩ := List.exists_mem_of_length_pos (show 0 < (s.ctl.filter (!·.used)).length by omega)
    obtain ⟨hmem, hunused⟩ := List.mem_filter.mp hslot
    rw [List.findIdx?_isSome]
    exact List.any_eq_true.mpr ⟨slot, hmem, hunused⟩
  simp only [Server.ctlFits, hfree, Bool.true_and, Bool.and_eq_true, decide_eq_true_eq]
  omega

lemma handles_eventsEnable (hP : Backend b P) (ha : w.srv.session.active = true)
    (ho : h.opcode = RequestOp.eventsEnable.code) :
    Handles b h w (handleEventsEnable b P h payload w) := by
  unfold handleEventsEnable
  split
  · exact handles_notReady hP
  · next hready =>
    simp only [Bool.not_eq_true', Bool.not_eq_false, Server.connReadyFor, Bool.and_eq_true,
      decide_eq_true_eq, bne_iff_ne, beq_iff_eq] at hready
    obtain ⟨⟨hlink, hne⟩, hconn⟩ := hready
    split
    · exact handles_text hP _ _ w (absurd · (by decide))
    · have hgrant : Moves b 3 w (w.note (.granted [0] w.srv)) := .granted le_rfl _ (.refl w)
      refine .before hgrant ?_
      generalize hv : w.note (.granted [0] w.srv) = v
      unfold reply ctlEnqueue
      split
      · next hfull =>
        -- the session is gone, and events are enabled all the same
        have hroom : w.srv.roomFor b [0] = false := by
          by_contra hroom
          have hfits := ctlFits_of_roomFor (Nat.zero_le _) (by simpa using hroom)
          subst hv
          simp only [List.length_nil, srv_note, Bool.not_eq_true'] at hfull
          rw [hfits] at hfull
          cases hfull
        have hmoves := moves_reports hP ((v.note (.answers h 0 v.srv)).act Server.protocolError)
        have hung : Unsubscribed b (sessionTeardown b P
            ((v.note (.answers h 0 v.srv)).act Server.protocolError)).log := by
          have hnoted : Unsubscribed b (w.note (.granted [0] w.srv)).log :=
            ⟨w.srv, List.mem_cons_self, hroom⟩
          refine hnoted.mono ?_
          rw [hv]
          refine List.Subset.trans ?_ hmoves.log_mono
          intro e he
          exact List.mem_cons_of_mem _ (List.mem_cons_of_mem _ he)
        exact .after (Answer.full 0 (by simpa using hfull) hmoves).handles
          (.enableEvents le_rfl (.inr hung) (.refl _))
      · next hfits =>
        subst hv
        refine .after (Answer.reply .ok [] (truthful_other (absurd · (by decide))) (by simpa using hfits)).handles
          (.enableEvents le_rfl (.inl ⟨?_, ?_, ?_, _, _, _, rfl, rfl, ho, rfl, ?_⟩) (.refl _))
        · simpa [World.queue] using ha
        · simpa [World.queue] using hlink
        · simpa [World.queue, ← hconn] using hne
        · exact (orderCounter_putCtl (by simpa using hfits)).symm
    · have hstop : Moves b 3 w (w.act Server.stopEvents) := .stopEvents le_rfl (.refl w)
      exact .before hstop (handles_reply hP _ _ _ (absurd · (by decide)))

/-- A free slot that is filled leaves one free slot less. -/
lemma roomFor_putCtl {s : Server} {lens : List Nat} {slot : CtlSlot} (hu : slot.used = true)
    (hroom : s.roomFor b (slot.payload.length :: lens) = true) :
    (s.putCtl slot).roomFor b lens = true := by
  simp only [Server.roomFor, Bool.and_eq_true, decide_eq_true_eq, List.length_cons] at hroom
  obtain ⟨⟨hactive, hslots⟩, hsum⟩ := hroom
  rw [List.sum_cons] at hsum
  have hpos : 0 < (s.ctl.filter (!·.used)).length := by omega
  unfold Server.putCtl
  split
  · next hnone =>
    exfalso
    obtain ⟨x, hx⟩ := List.exists_mem_of_length_pos hpos
    obtain ⟨hmem, hunused⟩ := List.mem_filter.mp hx
    have hall := List.findIdx?_eq_none_iff.mp hnone x hmem
    rw [hall] at hunused
    cases hunused
  · next i hfind =>
    obtain ⟨hi, hfree, -⟩ := List.findIdx?_eq_some_iff_getElem.mp hfind
    obtain ⟨xs, ys, hbefore, hafter⟩ := filter_set_released (p := fun x : CtlSlot => !x.used)
      (c := slot) (List.getElem?_eq_getElem hi) hfree (by simp [hu])
    have hlen : ((s.ctl.set i slot).filter (!·.used)).length + 1 =
        (s.ctl.filter (!·.used)).length := by
      rw [hbefore, hafter]
      simp only [List.length_append, List.length_cons]
      omega
    simp only [Server.roomFor, Bool.and_eq_true, decide_eq_true_eq]
    exact ⟨⟨hactive, by omega⟩, by omega⟩

lemma length_findDoneTlv (searchId : UInt32) (reason : UInt8) :
    (findDoneTlv searchId reason).length = 13 := rfl

lemma length_acceptedPayload (id : UInt32) : (acceptedPayload id).length = 8 := rfl

/-- The reply, the operation and the backend call of a granted `PAIR_BEGIN`. -/
lemma handles_beginPair (hP : Backend b P) (cid : UInt32) (hidle : w.srv.op.active = false)
    (hb : Begins h w) (hroom : w.srv.roomFor b [8] = true ∨ Ungranted b w.log) :
    Handles b h w (beginPair b P h cid w) := by
  have hactive : w.srv.session.active = true ∨ Ungranted b w.log := by
    refine hroom.imp (fun hr => ?_) id
    simp only [Server.roomFor, Bool.and_eq_true] at hr
    exact hr.1.1
  have hbegin : Moves b 3 w (w.beginOp .pair h (w.srv.nowMs + pairDeadlineMs)) :=
    .beginOp le_rfl .pair h _ hidle hb (fun _ => hactive) (.refl w)
  have hcall : ∀ v : World E, (v.srv.session.active = true ∨ Ungranted b v.log) →
      Moves b 3 v (invoke P (.pairBegin cid) v).1 := by
    intro v hv
    have hnote : Moves b 3 v (v.note (.called (.pairBegin cid) v.srv)) :=
      .called (by omega) _ (fun _ _ => ⟨le_rfl, hv⟩) (fun h => BackendCall.noConfusion h) (.refl v)
    exact hnote.trans (hP _ _).up
  unfold beginPair
  refine .before hbegin ?_
  have hroom' : (w.beginOp .pair h (w.srv.nowMs + pairDeadlineMs)).srv.roomFor b [8] = true ∨
      Ungranted b (w.beginOp .pair h (w.srv.nowMs + pairDeadlineMs)).log :=
    hroom.imp id fun hung => hung.mono (List.subset_cons_self _ _)
  have hgrants : Grants h (w.beginOp .pair h (w.srv.nowMs + pairDeadlineMs)) := fun _ => ⟨_, _, _, rfl⟩
  generalize w.beginOp .pair h (w.srv.nowMs + pairDeadlineMs) = v at hroom' hgrants ⊢
  refine .after (handles_reply hP .accepted _ v fun _ => hgrants) (hcall _ ?_)
  rcases hroom' with hroom' | hung
  · left
    have hfits : v.srv.ctlFits b (acceptedPayload h.requestId).length = true :=
      ctlFits_of_roomFor (by simp [length_acceptedPayload, maxPayload]) hroom'
    simp only [Server.roomFor, Bool.and_eq_true] at hroom'
    unfold reply ctlEnqueue
    simpa [hfits, World.queue] using hroom'.1.1
  · exact .inr (hung.mono (answer_reply hP .accepted _ v (truthful_other fun _ => hgrants)).log_mono)

lemma handles_pairBegin (hP : Backend b P) (hb : Begins h w) :
    Handles b h w (handlePairBegin b P h payload w) := by
  unfold handlePairBegin
  split
  · next sid cid _ _ =>
    dsimp only
    split
    · exact handles_error hP _ _ w (absurd · (by decide))
    · next hidle =>
      have hidle : w.srv.op.active = false := Bool.eq_false_iff.mpr hidle
      split
      · exact handles_text hP _ _ w (absurd · (by decide))
      · split
        · exact handles_text hP _ _ w (absurd · (by decide))
        · split
          · exact handles_text hP _ _ w (absurd · (by decide))
          · split
            · -- the search gives way first
              have hhide : Moves b 2 w (w.act fun s => { s with find := { s.find with active := false } }) :=
                .step_quiet le_rfl _ (by constructor <;> simp)
              have htake : Moves b 2 w (takeoverFind P w) :=
                hhide.trans (moves_invoke hP le_rfl _ rfl _)
              refine .before htake.up ?_
              have hkept := htake.opKept le_rfl
              generalize takeoverFind P w = v at hkept ⊢
              have hgrant : Moves b 3 v (v.note (.granted [13, 8] v.srv)) := .granted le_rfl _ (.refl v)
              have hdone := moves_event (k := 2) hP le_rfl .findDone 0
                (findDoneTlv v.srv.find.searchId FindDone.pairTakeover.code)
                (v.note (.granted [13, 8] v.srv)) (.findDone _)
              have hkept := (hkept.note (.granted [13, 8] v.srv) rfl rfl).trans (hdone.opKept le_rfl)
              refine .before (hgrant.trans hdone.up)
                (handles_beginPair hP cid (hkept.idle hidle) (hb.later hkept) ?_)
              cases hroom : v.srv.roomFor b [13, 8] with
              | false => exact .inr ((ungranted_of_full hroom).mono hdone.log_mono)
              | true =>
                left
                have hfits : v.srv.ctlFits b 13 = true :=
                  ctlFits_of_roomFor (by simp [maxPayload]) hroom
                unfold ctlEnqueue
                rw [if_neg (by simpa [length_findDoneTlv] using hfits)]
                exact roomFor_putCtl rfl hroom
            · have hgrant : Moves b 3 w (w.note (.granted [8] w.srv)) := .granted le_rfl _ (.refl w)
              have hkept := (OpKept.refl w).note (.granted [8] w.srv) rfl rfl
              refine .before hgrant (handles_beginPair hP cid hidle (hb.later hkept) ?_)
              cases hroom : w.srv.roomFor b [8] with
              | true => exact .inl hroom
              | false => exact .inr (ungranted_of_full hroom)
  · exact handles_text hP _ _ w (absurd · (by decide))

lemma handles_denyVoice (hP : Backend b P) (ho : h.opcode = RequestOp.voiceEnable.code) :
    Handles b h w (denyVoice b P h w) := by
  have hdisable : Moves b 3 w (w.act Server.disableVoice) := .disableVoice le_rfl (.refl w)
  unfold denyVoice
  dsimp only
  generalize w.srv.voice.enabled = was
  generalize w.act Server.disableVoice = v at hdisable ⊢
  have hstop : Moves b 3 v (if !v.srv.voice.delivering && (v.srv.voice.sourceActive || was) then
      (invoke P .voiceRequestStop v).1 else v) :=
    .ite (moves_invoke hP (by omega) _ rfl _) (.refl v)
  refine .before (hdisable.trans hstop) ?_
  generalize (if !v.srv.voice.delivering && (v.srv.voice.sourceActive || was) then
      (invoke P .voiceRequestStop v).1 else v) = u
  split
  · have hcut : Moves b 3 u (voiceFinishStream b P .consumerDisabled true u) :=
      moves_voiceFinishStream hP (by omega) fun _ => .inl rfl
    refine .before hcut (.after (Answer.deferred ho).handles ?_)
    exact .ite (moves_invoke hP (by omega) _ rfl _) (.refl _)
  · exact handles_reply hP _ _ _ (absurd · (by decide))

/-- What a successful check of the parameters says about a stream that is being delivered. -/
lemma enableError_none {s : Server} {codecs : Option (List UInt8)} {maxUnit : Option UInt32}
    (he : s.enableError codecs maxUnit = none) (hd : s.voice.delivering = true) :
    s.voice.acceptedCodecs = codecs.getD [] ∧ s.voice.acceptedMaxUnit = maxUnit.getD 0 := by
  cases codecs with
  | none => cases he
  | some codecs =>
    cases maxUnit with
    | none => cases he
    | some maxUnit =>
      simp only [Server.enableError] at he
      split at he
      · cases he
      · split at he
        · cases he
        · split at he
          · cases he
          · next hbusy =>
            simpa [hd] using hbusy

lemma handles_voiceEnable (hP : Backend b P) (ho : h.opcode = RequestOp.voiceEnable.code)
    (ha : w.srv.session.active = true) : Handles b h w (handleVoiceEnable b P h payload w) := by
  unfold handleVoiceEnable
  split
  · exact handles_text hP _ _ w (absurd · (by decide))
  · dsimp only
    split
    · exact handles_notReady hP
    · split
      · next codecs maxUnit _ _ =>
        split
        · exact .ite (handles_error hP _ _ w (absurd · (by decide))) (handles_denyVoice hP ho)
        · split
          · exact handles_error hP _ _ w fun _ => grants_other ho (absurd · (by decide)) (absurd · (by decide))
          · next hnone =>
            have henable : Moves b 3 w
                (w.act (Server.enableVoice (codecs.getD []) (maxUnit.getD 0))) :=
              .enableVoice le_rfl _ _ ha (enableError_none hnone) (.refl w)
            exact .before henable (handles_reply hP _ _ _ (absurd · (by decide)))
      · exact handles_error hP _ _ w (absurd · (by decide))

lemma handles_dispatchOther (hP : Backend b P) (ha : w.srv.session.active = true)
    (hb : Begins h w) :
    Handles b h w (dispatchRequest b P h payload w) := by
  unfold dispatchRequest
  split
  · exact handles_text hP _ _ w (absurd · (by decide))
  · split
    · exact handles_text hP _ _ w (absurd · (by decide))
    · unfold dispatchOp
      split
      · exact handles_ping payload hP
      · exact handles_reply hP _ _ w (absurd · (by decide))
      · exact handles_reply hP _ _ w (absurd · (by decide))
      · exact handles_getOperation payload hP
      · exact handles_reply hP _ _ w (absurd · (by decide))
      · next hop => exact handles_goodbye hP (ofCode_eq hop)
      · next hop => exact handles_findStart payload hP (ofCode_eq hop) ha
      · exact handles_findList payload hP
      · exact handles_findStop payload hP
      · exact handles_pairBegin payload hP hb
      · exact handles_pairReply payload hP
      · exact handles_pairCancel payload hP
      · exact handles_forgetPeer payload hP hb
      · exact handles_setReconnect payload hP
      · exact handles_connectPeer payload hP
      · exact handles_disconnect hP
      · exact handles_keyCatalog payload hP
      · exact handles_keysSnapshot hP
      · next hop => exact handles_eventsEnable payload hP ha (ofCode_eq hop)
      · exact handles_getVoiceCaps hP
      · next hop => exact handles_voiceEnable payload hP (ofCode_eq hop) ha
      · next hop => exact handles_voiceStart hP (ofCode_eq hop)
      · exact handles_voiceStop payload hP
      · exact handles_error hP _ _ w (absurd · (by decide))
      · exact handles_error hP _ _ w (absurd · (by decide))

end Handlers

/-- `GET_DEVICE` is answered with the state of the device, or with an error. -/
lemma handles_getDevice (hP : Backend b P) (payload : List UInt8)
    (hd : h.opcode = RequestOp.getDevice.code) : Handles b h w (dispatchRequest b P h payload w) := by
  have herror (msg : String) : Handles b h w (respondText b P h .invalidArgument msg w) :=
    (answer_reply hP _ _ w ⟨(absurd · (by decide)), fun _ => (absurd · (by decide))⟩).handles
  have hop : RequestOp.ofCode h.opcode = some .getDevice := by
    rw [hd]
    rfl
  unfold dispatchRequest
  split
  · exact herror _
  · split
    · exact herror _
    · rw [hop]
      exact (answer_reply hP .ok _ w ⟨(absurd · (by decide)), fun _ _ => rfl⟩).handles

/-- Every request is handled. -/
lemma handles_dispatchRequest (hP : Backend b P) (payload : List UInt8)
    (ha : w.srv.session.active = true) (hb : Begins h w) :
    Handles b h w (dispatchRequest b P h payload w) := by
  by_cases hd : h.opcode = RequestOp.getDevice.code
  · exact handles_getDevice hP payload hd
  · have := Fact.mk hd
    exact handles_dispatchOther payload hP ha hb

/-! ## Frames -/

section Frames

variable {g : Prop}

lemma Turns.of_moves (hm : Moves b 2 w w') : Turns b g w w' := .moves hm (.refl w)

lemma Turns.of_pump (hm : Moves b 0 w w') : Turns b g w w' := .pump hm (.refl w)

lemma Turns.ite {c : Prop} [Decidable c] (ht : Turns b g w w') (he : Turns b g w w'') :
    Turns b g w (if c then w' else w'') := by
  split
  · exact ht
  · exact he

lemma turns_refuse (hP : Backend b P) (status : Status) (payload : List UInt8)
    (hr : Refusal h w.srv) (hs : status ≠ .accepted ∧ status ≠ .ok) :
    Turns b g w (reply b P h status payload w) := by
  unfold reply ctlEnqueue
  split
  · have hnote : Turns b g w (w.note (.answers h payload.length w.srv)) :=
      .refuseFull h payload.length hr (.refl w)
    exact .moves ((moves_protocolError _).trans (moves_sessionTeardown hP _)) hnote
  · next hfits => exact .refuse h status payload hr hs (by simpa using hfits) (.refl w)

lemma turns_refuseVersion (P : Platform E) (nonce : Option (List UInt8)) (w : World E) :
    Turns b g w (refuseVersion b P nonce w) := by
  unfold refuseVersion
  dsimp only
  split
  · exact .of_pump (moves_outDrain P w)
  · next out ho =>
    refine .pump (moves_outDrain P _) (.raw _ out ?_ ho (.refl w))
    cases nonce with
    | none => exact Nat.zero_le _
    | some n => exact length_tlvPutBytes_le (Nat.zero_le _)

lemma turns_greet (hP : Backend b P) (h : Header) (nonce : List UInt8) (w : World E) :
    Turns b g w (ctlEnqueue b P kindResponse RequestOp.hello.code .ok h.requestId 0
      (((sessionCreate b P w).act (Server.helloSeen h)).srv.helloTlv nonce)
      ((sessionCreate b P w).act (Server.helloSeen h))) := by
  have hteardown : Turns b g w (sessionTeardown b P w) := .of_moves (moves_sessionTeardown hP w)
  obtain ⟨ha, hdel⟩ := sessionTeardown_idle hP w
  have ht : Torn b (sessionTeardown b P w) := ⟨w, moves_reports hP w⟩
  refine hteardown.trans ?_
  unfold sessionCreate
  generalize sessionTeardown b P w = v at ha hdel ht ⊢
  dsimp only
  have hfull : ∀ u : World E, Turns b g u (sessionTeardown b P (u.act Server.protocolError)) :=
    fun u => .of_moves ((moves_protocolError _).trans (moves_sessionTeardown hP _))
  split
  · next hc =>
    rw [beq_iff_eq] at hc
    unfold ctlEnqueue
    split
    · exact (Turns.exhaustedFull h ha hc (.refl v)).trans (hfull _)
    · next hfits =>
      simp only [Bool.not_eq_true', Bool.not_eq_false] at hfits
      exact .exhausted h nonce ha hc hfits (.refl v)
  · next hc =>
    have hc' : v.srv.session.counter ≠ 0xffffffff := by simpa using hc
    unfold ctlEnqueue
    split
    · next hfits =>
      simp only [Bool.not_eq_true'] at hfits
      exact (Turns.helloFull h nonce ha hdel ht hc' hfits (.refl v)).trans (hfull _)
    · next hfits =>
      simp only [Bool.not_eq_true', Bool.not_eq_false] at hfits
      exact .hello h nonce ha hdel ht hc' hfits (.refl v)

lemma turns_handleHello (hP : Backend b P) (payload : List UInt8) (w : World E)
    (ho : h.opcode = RequestOp.hello.code) : Turns b g w (handleHello b P h payload w) := by
  unfold handleHello
  dsimp only
  split
  · exact .of_moves (moves_protocolError w)
  · split
    · exact turns_refuseVersion P _ w
    · split
      · exact .pump (moves_outDrain P _) (turns_refuse hP _ _ (.inl ho) ⟨nofun, nofun⟩)
      · split
        · exact .pump (moves_outDrain P _) (turns_refuse hP _ _ (.inl ho) ⟨nofun, nofun⟩)
        · exact .pump (moves_outDrain P _) (turns_greet hP h _ w)

lemma moves_failSession (hP : Backend b P) (w : World E) : Moves b 2 w (failSession b P w) :=
  (moves_protocolError w).trans (moves_sessionTeardown hP _)

lemma turns_acceptFrame (hP : Backend b P) (payload : List UInt8) (w : World E)
    (hn : NextFrame h w.srv) : Turns b g w (acceptFrame b P h payload (w.act (Server.acceptSeq h))) := by
  have hseq : Turns b g w (w.act (Server.acceptSeq h)) := .seq h hn (.refl w)
  refine hseq.trans ?_
  unfold acceptFrame
  split
  · next hid =>
    refine turns_refuse hP _ _ (.inr ⟨hn.active, hn.session, hn.not_hello, rfl, ?_⟩) ⟨nofun, nofun⟩
    rw [beq_iff_eq] at hid
    rw [hid]
    exact UInt32.zero_le
  · next hid =>
    split
    · next hdup => exact turns_refuse hP _ _ (.inr ⟨hn.active, hn.session, hn.not_hello, rfl, hdup⟩) ⟨nofun, nofun⟩
    · next hnew =>
      have hrequest : NewRequest h (w.act (Server.acceptSeq h)).srv :=
        { active := hn.active
          session := hn.session
          not_hello := hn.not_hello
          tx := rfl
          id_ne := by simpa using hid
          id_new := UInt32.not_le.mp hnew }
      have hbegins : Begins h ((w.act (Server.acceptSeq h)).accept h payload) :=
        ⟨[], payload, _, _, rfl, by simp⟩
      exact .request h payload hrequest (handles_dispatchRequest hP payload hn.active hbegins) (.refl _)

lemma turns_processFrame (hP : Backend b P) (payload : List UInt8) (crcOk : Bool) (w : World E) :
    Turns b g w (processFrame b P h payload crcOk w) := by
  have hfail : Turns b g w (failSession b P w) := .of_moves (moves_failSession hP w)
  have herror : Turns b g w (w.act Server.protocolError) := .of_moves (moves_protocolError w)
  have htear : ∀ v : World E, Turns b g v (sessionTeardown b P v) :=
    fun v => .of_moves (moves_sessionTeardown hP v)
  unfold processFrame
  split
  · exact .ite hfail (.refl w)
  · split
    · exact herror.trans (.ite (htear _) (.refl _))
    · split
      · exact .ite herror (.refl w)
      · split
        · next ho => exact turns_handleHello hP payload w (beq_iff_eq.mp ho)
        · next ho =>
          split
          · exact .ite (htear w) (.refl w)
          · split
            · exact .refl w
            · next hsession =>
              split
              · exact hfail
              · next hseq =>
                simp only [Bool.or_eq_true, Bool.not_eq_true', bne_iff_ne, not_or, not_not,
                  Bool.not_eq_false, beq_iff_eq] at hsession hseq ho
                exact turns_acceptFrame hP payload w
                  ⟨hsession.1, hsession.2, ho, hseq.1.2, hseq.2⟩

lemma turns_serverRxEvent (hP : Backend b P) (ev : RxEvent) (w : World E) :
    Turns b g w (serverRxEvent b P ev w) := by
  unfold serverRxEvent
  split
  · exact turns_processFrame hP _ _ w
  · exact .ite (.of_moves (moves_failSession hP w)) (.refl w)

lemma turns_onUsbRx (hP : Backend b P) (data : List UInt8) (nowMs : UInt32) (w : World E) :
    Turns b g w (onUsbRx b P data nowMs w) := by
  have hevents : ∀ (evs : List RxEvent) (v : World E),
      Turns b g v (evs.foldl (fun w ev => serverRxEvent b P ev w) v) := by
    intro evs
    induction evs with
    | nil => exact fun v => .refl v
    | cons ev evs ih => exact fun v => (turns_serverRxEvent hP ev v).trans (ih _)
  unfold onUsbRx
  dsimp only
  exact (Turns.of_moves ((moves_setNow nowMs w).trans (moves_setRx _ _))).trans (hevents _ _)

/-! ## Tick and whole runs -/

lemma turns_tickDeferred (hP : Backend b P) (w : World E) : Turns b g w (tickDeferred b P w) := by
  unfold tickDeferred
  split
  · exact .refl w
  · next d ho =>
    split
    · next hdue =>
      simp only [Bool.and_eq_true, Bool.not_eq_true', beq_iff_eq, List.length_eq_zero_iff] at hdue
      have hfull : Turns b g w ((sessionTeardown b P (w.act Server.protocolError)).act
          Server.clearDeferred) := by
        have hgone : Turns b g w (sessionTeardown b P (w.act Server.protocolError)) :=
          .of_moves ((moves_protocolError _).trans (moves_sessionTeardown hP _))
        exact .forget (sessionTeardown_idle hP _).1 hgone
      have hdeferred := fun hf => Turns.deferred (b := b) (g := g) d ho hdue.1.1 hdue.1.2 hdue.2 hf
        (.refl w)
      unfold Server.deferredSlot at hdeferred
      dsimp only
      generalize (if d.isEnable then voiceEnableTlv false false else []) = payload at hdeferred ⊢
      unfold ctlEnqueue
      cases hfits : w.srv.ctlFits b payload.length with
      | false => simpa [hfits] using hfull
      | true => simpa [hfits] using hdeferred hfits
    · exact .refl w

lemma turns_tick (hP : Backend b P) (nowMs : UInt32) (w : World E) :
    Turns b g w (tick b P nowMs w) := by
  have hphases : Moves b 2 w (tickSource b P nowMs (tickOp b P nowMs (tickPrompt P nowMs
      (tickFind b P nowMs (tickHeartbeat b P nowMs
        (tickRx b P nowMs (w.act (Server.setNow nowMs)))))))) :=
    (((((((moves_setNow nowMs w).trans (moves_tickRx hP nowMs _)).trans
      (moves_tickHeartbeat hP nowMs _)).trans (moves_tickFind hP nowMs _)).trans
        (moves_tickPrompt hP nowMs _)).trans (moves_tickOp hP nowMs _)).trans
          (moves_tickSource hP nowMs _))
  exact .pump (moves_flushOutput hP _) ((Turns.of_moves hphases).trans (turns_tickDeferred hP _))

lemma turns_onUsbGone (hP : Backend b P) (hg : g) (nowMs : UInt32) (w : World E) :
    Turns b g w (onUsbGone b P nowMs w) := by
  have hgone : Turns b g w (sessionTeardown b P (w.act (Server.setNow nowMs))) :=
    .of_moves ((moves_setNow nowMs w).trans (moves_sessionTeardown hP _))
  exact .gone hg (sessionTeardown_idle hP _).1 hgone

/-- Every input is a run of turns. -/
lemma turns_input (hP : Backend b P) (i : Input) (hg : ∀ nowMs, i = .usbGone nowMs → g) (w : World E) :
    Turns b g w (i.run b P w) := by
  cases i with
  | usbRx data nowMs => exact turns_onUsbRx hP data nowMs w
  | tick nowMs => exact turns_tick hP nowMs w
  | flush => exact .of_pump (moves_flushOutput hP w)
  | usbGone nowMs => exact turns_onUsbGone hP (hg nowMs rfl) nowMs w
  | callback cb => exact .of_moves (moves_callback hP cb w)

/-- Every run is a run of turns from an initial world. -/
theorem Reach.turns {ok : Input → Prop} (hg : ∀ nowMs, ok (.usbGone nowMs) → g)
    (hw : Reach b ok w) :
    ∃ cfg profile loaded, ∃ env : E,
      Turns b g { srv := Server.init b cfg profile loaded, env := env, log := [] } w := by
  induction hw with
  | init cfg profile loaded env => exact ⟨cfg, profile, loaded, env, .refl _⟩
  | env e _ ih =>
    obtain ⟨cfg, profile, loaded, env, ih⟩ := ih
    exact ⟨cfg, profile, loaded, env, .moves (.env le_rfl e (.refl _)) ih⟩
  | input n P i hP hi _ ih =>
    obtain ⟨cfg, profile, loaded, env, ih⟩ := ih
    exact ⟨cfg, profile, loaded, env,
      ih.trans (turns_input hP.backend i (fun nowMs h => hg nowMs (h ▸ hi)) _)⟩

end Frames

end RemoteBridge
