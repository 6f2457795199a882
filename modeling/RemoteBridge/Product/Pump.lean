import RemoteBridge.Product.Moves

/-!
# The output pump as moves

`session_teardown` and `rbp_server_flush_output` decompose into moves.  The loop of the pump carries one
fact that is not visible in a single turn: a pump that starts with at most four control frames in front
of keys and media has sent all of them before its burst is used up, so what it sends out of turn then
overtakes nothing.
-/

namespace RemoteBridge

open World

variable {E : Type} (b : Build) (P : Platform E)

/-- Backend functions touch the server only through callbacks. -/
def Backend : Prop := ∀ c (w : World E), Moves b 2 w (P.call c w).1

variable {b P}

/-! ## Tearing down -/

section Teardown

variable {k : Nat} {w w' : World E}

lemma Moves.step_quiet (hk : 2 ≤ k) (f : Server → Server) (hq : Quiet w.srv (f w.srv)) :
    Moves b k w (w.act f) :=
  .quiet hk f hq (.refl w)

lemma Moves.ite {c : Prop} [Decidable c] {v v' : World E} (h : Moves b k w v) (h' : Moves b k w v') :
    Moves b k w (if c then v else v') := by
  split
  · exact h
  · exact h'

/-- Callbacks and handlers contain what lower levels, the pump apart, do. -/
lemma Moves.mono {k k' : Nat} (hk : 1 ≤ k) (hkk : k ≤ k') (h : Moves b k w w') : Moves b k' w w' := by
  induction h with
  | refl => exact .refl _
  | send hk' => omega
  | flush hk' => omega
  | emitCtl hk' => omega
  | emitKey hk' => omega
  | emitMedia hk' => omega
  | pump hk' hd hf _ _ ih => exact .pump (hk'.trans hkk) hd hf (ih hk hkk)
  | teardown _ hr ih => exact .teardown (ih hk hkk) hr
  | keys hk' rep _ ih => exact .keys (hk'.trans hkk) rep (ih hk hkk)
  | discard hk' hd _ ih => exact .discard (hk'.trans hkk) hd (ih hk hkk)
  | cut hk' reason hd hr hf ha _ _ ih => exact .cut (hk'.trans hkk) reason hd hr hf ha (ih hk hkk)
  | drain hk' reason hd he hu hf ha _ _ ih =>
    exact .drain (hk'.trans hkk) reason hd he hu hf ha (ih hk hkk)
  | env hk' e _ ih => exact .env (hk'.trans hkk) e (ih hk hkk)
  | quiet hk' f hq _ ih => exact .quiet (hk'.trans hkk) f hq (ih hk hkk)
  | called hk' c hc hp _ ih =>
    exact .called (hk'.trans hkk) c (fun cid h => ⟨(hc cid h).1.trans hkk, (hc cid h).2⟩) hp (ih hk hkk)
  | fault hk' reason _ ih => exact .fault (hk'.trans hkk) reason (ih hk hkk)
  | event hk' op conn payload hp hf _ ih =>
    exact .event (hk'.trans hkk) op conn payload hp hf (ih hk hkk)
  | link hk' state ctx hn hc hs hw _ _ ih =>
    exact .link (hk'.trans hkk) state ctx hn hc hs hw (ih hk hkk)
  | profile hk' profile ctx _ ih => exact .profile (hk'.trans hkk) profile ctx (ih hk hkk)
  | start hk' f hd hc hn hf ha _ _ ih => exact .start (hk'.trans hkk) f hd hc hn hf ha (ih hk hkk)
  | noStart hk' f hd hc hn hf _ _ ih => exact .noStart (hk'.trans hkk) f hd hc hn hf (ih hk hkk)
  | format hk' f hd he hc hu hm hf ha _ _ ih =>
    exact .format (hk'.trans hkk) f hd he hc hu hm hf ha (ih hk hkk)
  | unit hk' size samples hu _ ih => exact .unit (hk'.trans hkk) size samples hu (ih hk hkk)
  | fragment hk' size samples fr ht hf ha _ _ ih =>
    exact .fragment (hk'.trans hkk) size samples fr ht hf ha (ih hk hkk)
  | resumeVoice hk' ha _ ih => exact .resumeVoice (hk'.trans hkk) ha (ih hk hkk)
  | prompt hk' id m n r ho hc _ ih => exact .prompt (hk'.trans hkk) id m n r ho hc (ih hk hkk)
  | cancel hk' hc hp _ ih => exact .cancel (hk'.trans hkk) hc hp (ih hk hkk)
  | finish hk' d ho hv hm hd _ _ ih => exact .finish (hk'.trans hkk) d ho hv hm hd (ih hk hkk)
  | granted hk' lens _ ih => exact .granted (hk'.trans hkk) lens (ih hk hkk)
  | enableEvents hk' hg _ ih => exact .enableEvents (hk'.trans hkk) hg (ih hk hkk)
  | stopEvents hk' _ ih => exact .stopEvents (hk'.trans hkk) (ih hk hkk)
  | beginFind hk' id d ha _ ih => exact .beginFind (hk'.trans hkk) id d ha (ih hk hkk)
  | beginOp hk' kind hd dl ho hb ha _ ih =>
    exact .beginOp (hk'.trans hkk) kind hd dl ho hb ha (ih hk hkk)
  | enableVoice hk' c m ha hs _ ih => exact .enableVoice (hk'.trans hkk) c m ha hs (ih hk hkk)
  | disableVoice hk' _ ih => exact .disableVoice (hk'.trans hkk) (ih hk hkk)

/-- The calls that neither begin nor cancel a pairing. -/
def BackendCall.ordinary : BackendCall → Bool
  | .pairBegin _ | .pairCancel => false
  | _ => true

lemma moves_invoke (hP : Backend b P) (hk : 2 ≤ k) (c : BackendCall) (hc : c.ordinary = true)
    (w : World E) : Moves b k w (invoke P c w).1 := by
  have hcall : Moves b k w (w.note (.called c w.srv)) := by
    refine .called hk c (fun cid h => ?_) (fun h => ?_) (.refl w)
    · subst h
      cases hc
    · subst h
      cases hc
  exact hcall.trans ((hP c _).mono (by omega) hk)

lemma moves_requestPairCancel (hP : Backend b P) (w : World E)
    (hp : w.srv.op.kind = some .pair ∨ w.srv.prompt.active = true ∨ Strayed w.log) :
    Moves b 2 w (requestPairCancel P w) := by
  unfold requestPairCancel
  split
  · exact .refl w
  · next hc =>
    have hcancel : Moves b 2 w w.cancel := .cancel le_rfl (Bool.eq_false_iff.mpr hc) hp (.refl w)
    exact hcancel.trans (hP _ _)

lemma opKind_withdraw (s : Server) : (s.withdraw b).op.kind = s.op.kind := by
  unfold Server.withdraw
  dsimp only [Server.stopDelivery, Server.ctlClear]
  split <;> rfl

/-- A pairing that a teardown cancels was one, or the log tells why not. -/
lemma pair_or_strayed (h : w.srv.pairToCancel = true) :
    (w.withdraw b).srv.op.kind = some .pair ∨ Strayed (w.withdraw b).log := by
  simp only [Server.pairToCancel, Bool.or_eq_true, Bool.and_eq_true, beq_iff_eq] at h
  by_cases hkind : w.srv.op.kind = some .pair
  · exact .inl ((opKind_withdraw w.srv).trans hkind)
  · exact .inr ⟨w.srv, List.mem_cons_self .., h.resolve_left fun h => hkind h.2, hkind⟩

/-- What the backend reports during a teardown. -/
lemma moves_reports (hP : Backend b P) (w : World E) :
    Moves b 2 (w.withdraw b) (sessionTeardown b P w) := by
  have hcancel : Moves b 2 (w.withdraw b)
      (if w.srv.pairToCancel then requestPairCancel P (w.withdraw b) else w.withdraw b) := by
    split
    · next hpair => exact moves_requestPairCancel hP _ ((pair_or_strayed hpair).imp id .inr)
    · exact .refl _
  have hfind : ∀ v, Moves b 2 v (if w.srv.find.active then (invoke P .stopFind v).1 else v) :=
    fun v => .ite (moves_invoke hP le_rfl _ rfl v) (.refl v)
  have hstop : ∀ v, Moves b 2 v (if w.srv.sourceToStop then (invoke P .voiceRequestStop v).1 else v) :=
    fun v => .ite (moves_invoke hP le_rfl _ rfl v) (.refl v)
  exact (hcancel.trans (hfind _)).trans (hstop _)

lemma moves_sessionTeardown (hP : Backend b P) (w : World E) : Moves b k w (sessionTeardown b P w) :=
  .teardown (.refl w) (moves_reports hP w)

end Teardown

/-! ## The control queue -/

section Queue

variable {s : Server}

lemma ctlQueued_freeSlot {i : Nat} {slot : CtlSlot} (hi : s.ctl[i]? = some slot)
    (hu : slot.used = true) :
    ∃ xs ys, s.ctlQueued = xs ++ slot :: ys ∧ (s.freeSlot i).ctlQueued = xs ++ ys := by
  obtain ⟨xs, ys, hq, hfree⟩ :=
    filter_set_released (p := fun slot : CtlSlot => slot.used) (c := { slot with used := false })
      hi hu rfl
  refine ⟨xs, ys, hq, ?_⟩
  simpa [Server.freeSlot, hi, Server.ctlQueued] using hfree

/-- A frame that finds room is one more in the queue. -/
lemma ctlQueued_putCtl {slot : CtlSlot} {len : Nat} (hf : s.ctlFits b len = true)
    (hu : slot.used = true) :
    ∃ xs ys, s.ctlQueued = xs ++ ys ∧ (s.putCtl slot).ctlQueued = xs ++ slot :: ys := by
  simp only [Server.ctlFits, Bool.and_eq_true] at hf
  obtain ⟨i, hi⟩ := Option.isSome_iff_exists.mp hf.1.1
  obtain ⟨hlt, hfree, -⟩ := List.findIdx?_eq_some_iff_getElem.mp hi
  obtain ⟨xs, ys, hq, hput⟩ := filter_set_taken (p := CtlSlot.used) (c := slot)
    (List.getElem?_eq_getElem hlt) (by simpa using hfree) hu
  refine ⟨xs, ys, hq, ?_⟩
  unfold Server.putCtl Server.ctlQueued
  rw [hi]
  exact hput

lemma orderCounter_putCtl {slot : CtlSlot} {len : Nat} (hf : s.ctlFits b len = true) :
    (s.putCtl slot).orderCounter = s.nextOrder := by
  simp only [Server.ctlFits, Bool.and_eq_true] at hf
  obtain ⟨i, hi⟩ := Option.isSome_iff_exists.mp hf.1.1
  unfold Server.putCtl
  rw [hi]

lemma ctlPeekOrder_le {o : UInt32} (h : s.ctlPeekOrder = some o) :
    ∀ slot ∈ s.ctlQueued, o ≤ slot.order := by
  intro slot hslot
  obtain ⟨hmem, hu⟩ := List.mem_filter.mp hslot
  exact (foldl_keepLeast_le h).2 slot hmem hu

lemma ctlQueued_of_peek_none (h : s.ctlPeekOrder = none) : s.ctlQueued = [] := by
  have hnone := (foldl_keepLeast_none h).2
  exact List.filter_eq_nil_iff.mpr fun slot hslot => by simp [hnone slot hslot]

/-- What the control queue overtakes only depends on the other two queues. -/
lemma overtakes_congr {s' : Server} (hk : s'.keys.queue = s.keys.queue)
    (hm : s'.voice.media = s.voice.media) (o : UInt32) : s'.overtakes o = s.overtakes o := by
  rw [Server.overtakes, Server.overtakes, hk, hm]

/-- Losing keys and media makes no frame stand in front. -/
lemma crowd_le {s' : Server} (hc : s'.ctl = s.ctl) (hk : s'.keys.queue ⊆ s.keys.queue)
    (hm : s'.voice.media ⊆ s.voice.media) : s'.crowd ≤ s.crowd := by
  have hover : ∀ o, s'.overtakes o = true → s.overtakes o = true := by
    intro o ho
    simp only [Server.overtakes, Bool.or_eq_true, List.any_eq_true] at ho ⊢
    rcases ho with ⟨it, hit, hlt⟩ | ⟨it, hit, hlt⟩
    · exact .inl ⟨it, hk hit, hlt⟩
    · exact .inr ⟨it, hm hit, hlt⟩
  have hq : s'.ctlQueued = s.ctlQueued := by rw [Server.ctlQueued, hc, Server.ctlQueued]
  unfold Server.crowd
  rw [hq, ← List.countP_eq_length_filter, ← List.countP_eq_length_filter]
  exact List.countP_mono_left fun slot _ h => hover _ h

/-- The oldest control frame is one of those in front, if there are any. -/
lemma crowd_freeSlot {i : Nat} {slot : CtlSlot} (hi : s.ctl[i]? = some slot)
    (hu : slot.used = true) (ho : s.ctlPeekOrder = some slot.order) :
    s.crowd = 0 ∧ (s.freeSlot i).crowd = 0 ∨ (s.freeSlot i).crowd + 1 = s.crowd := by
  obtain ⟨xs, ys, hq, hfree⟩ := ctlQueued_freeSlot hi hu
  have hover : ∀ o, (s.freeSlot i).overtakes o = s.overtakes o :=
    overtakes_congr (by simp [Server.freeSlot, hi]) (by simp [Server.freeSlot, hi])
  have hcrowd' : (s.freeSlot i).crowd = ((xs ++ ys).filter fun x => s.overtakes x.order).length := by
    unfold Server.crowd
    simp only [hfree, hover]
  have hcrowd : s.crowd = ((xs ++ slot :: ys).filter fun x => s.overtakes x.order).length := by
    unfold Server.crowd
    rw [hq]
  rw [hcrowd, hcrowd']
  by_cases hslot : s.overtakes slot.order = true
  · right
    simp [hslot]
    omega
  · left
    -- nothing younger than the oldest frame is overtaken either
    have hnone : ∀ x ∈ xs ++ slot :: ys, ¬ s.overtakes x.order = true := by
      intro x hx hover
      have hle : slot.order ≤ x.order := ctlPeekOrder_le ho x (hq ▸ hx)
      refine hslot ?_
      simp only [Server.overtakes, Bool.or_eq_true, List.any_eq_true, decide_eq_true_eq] at hover ⊢
      exact hover.imp (fun ⟨it, hit, hlt⟩ => ⟨it, hit, UInt32.lt_of_le_of_lt hle hlt⟩)
        (fun ⟨it, hit, hlt⟩ => ⟨it, hit, UInt32.lt_of_le_of_lt hle hlt⟩)
    have hzero : ((xs ++ slot :: ys).filter fun x => s.overtakes x.order) = [] :=
      List.filter_eq_nil_iff.mpr hnone
    refine ⟨by rw [hzero]; rfl, ?_⟩
    have hzero' : ((xs ++ ys).filter fun x => s.overtakes x.order) = [] :=
      List.filter_eq_nil_iff.mpr fun x hx => hnone x (by
        rcases List.mem_append.mp hx with hx | hx <;> simp [hx])
    rw [hzero']
    rfl

/-- With nothing in front, every queued key state and media item is in its turn. -/
lemma inOrder_of_crowd_zero (h : s.crowd = 0) :
    (∀ item ∈ s.keys.queue, s.InOrder item.order) ∧ ∀ item ∈ s.voice.media, s.InOrder item.order := by
  have hnone : ∀ slot ∈ s.ctlQueued, ¬ s.overtakes slot.order = true :=
    List.filter_eq_nil_iff.mp (List.length_eq_zero_iff.mp h)
  simp only [Server.overtakes, Bool.or_eq_true, List.any_eq_true, decide_eq_true_eq] at hnone
  exact ⟨fun item hitem slot hslot hlt => hnone slot hslot (.inl ⟨item, hitem, hlt⟩),
    fun item hitem slot hslot hlt => hnone slot hslot (.inr ⟨item, hitem, hlt⟩)⟩

end Queue

/-! ## Sending -/

section Send

variable {w : World E}

lemma moves_outDrainLoop (P : Platform E) (fuel : Nat) (w : World E) :
    Moves b 0 w (outDrainLoop b P fuel w) := by
  induction fuel generalizing w with
  | zero => exact .refl w
  | succ fuel ih =>
    have hsend : Moves b 0 w (w.send b (P.out w (w.srv.chunk b))) :=
      .send rfl _ (P.out_le w _) (.refl w)
    unfold outDrainLoop
    exact .ite (.refl w) (.ite (.refl w) (.ite hsend (hsend.trans (ih _))))

lemma moves_outDrain (P : Platform E) (w : World E) : Moves b 0 w (outDrain b P w) :=
  moves_outDrainLoop P _ w

/-- Draining changes the ring alone. -/
lemma outDrainLoop_keeps (P : Platform E) (fuel : Nat) (w : World E) :
    ∃ out, (outDrainLoop b P fuel w).srv = { w.srv with out := out } := by
  induction fuel generalizing w with
  | zero => exact ⟨w.srv.out, rfl⟩
  | succ fuel ih =>
    unfold outDrainLoop
    dsimp only
    split
    · exact ⟨w.srv.out, rfl⟩
    · split
      · exact ⟨w.srv.out, rfl⟩
      · split
        · exact ⟨_, rfl⟩
        · obtain ⟨out, hout⟩ := ih (w.send b (P.out w (w.srv.chunk b)))
          exact ⟨out, hout⟩

lemma mem_log_outDrainLoop (P : Platform E) {e : Ev} (fuel : Nat) (h : e ∈ w.log) :
    e ∈ (outDrainLoop b P fuel w).log := by
  induction fuel generalizing w with
  | zero => exact h
  | succ fuel ih =>
    have hsend : ∀ n, e ∈ (w.send b n).log := fun n => List.mem_cons_of_mem _ h
    unfold outDrainLoop
    dsimp only
    repeat' split
    · exact h
    · exact h
    · exact hsend _
    · exact ih (hsend _)

/-- `out_try_frame` writes the frame, or it leaves the server alone, or it ends the session. -/
lemma outTryFrame_cases (hP : Backend b P) (origin : Origin) (h : Header) (payload : List UInt8)
    (w : World E) :
    (∃ bytes next, Sendable b h payload w.srv bytes next ∧
      outTryFrame b P origin h payload w = (true, w.emit b origin h payload bytes next)) ∨
    ∃ w', Moves b 0 w w' ∧ outTryFrame b P origin h payload w = (false, w') := by
  unfold outTryFrame
  dsimp only
  split
  · exact .inr ⟨_, moves_sessionTeardown hP w, rfl⟩
  · next htx =>
    split
    · exact .inr ⟨w, .refl w, rfl⟩
    · split
      · exact .inr ⟨w, .refl w, rfl⟩
      · next bytes next henc =>
        split
        · exact .inr ⟨w, .refl w, rfl⟩
        · next hfits =>
          simp only [Bool.or_eq_true, beq_iff_eq, not_or] at htx
          exact .inl ⟨bytes, next, ⟨htx.1, htx.2, henc, by omega⟩, rfl⟩

/-- A turn of the control queue. -/
lemma ctlPop_cases (hP : Backend b P) (w : World E) :
    (∃ i slot bytes next, w.srv.ctl[i]? = some slot ∧ slot.used = true ∧
      w.srv.ctlPeekOrder = some slot.order ∧
      Sendable b slot.header slot.payload w.srv bytes next ∧
      ctlPop b P w =
        (true, (w.emit b (.ctl slot) slot.header slot.payload bytes next).act (Server.freeSlot i))) ∨
    ∃ w', Moves b 0 w w' ∧ ctlPop b P w = (false, w') := by
  unfold ctlPop
  split
  · exact .inr ⟨w, .refl w, rfl⟩
  · next order hpeek =>
    split
    · exact .inr ⟨w, .refl w, rfl⟩
    · next i hfind =>
      obtain ⟨hi, hslot, -⟩ := List.findIdx?_eq_some_iff_getElem.mp hfind
      have hget : w.srv.ctl[i]? = some (w.srv.ctl.getD i {}) := by
        simp [List.getElem?_eq_getElem hi]
      have hgetD : w.srv.ctl.getD i {} = w.srv.ctl[i] := by simp [hi]
      simp only [Bool.and_eq_true, beq_iff_eq, ← hgetD] at hslot
      dsimp only
      rcases outTryFrame_cases hP (.ctl (w.srv.ctl.getD i {})) (w.srv.ctl.getD i {}).header
        (w.srv.ctl.getD i {}).payload w with ⟨bytes, next, hs, heq⟩ | ⟨w', hw', heq⟩
      · exact .inl ⟨i, _, bytes, next, hget, hslot.1, hslot.2 ▸ hpeek, hs, by rw [heq]⟩
      · exact .inr ⟨w', hw', by rw [heq]⟩

/-- A turn of the key queue. -/
lemma keysFlushOne_cases (hP : Backend b P) (w : World E) :
    (∃ item rest bytes next, w.srv.keys.queue = item :: rest ∧
      Sendable b (w.srv.keyHeader item) item.buf w.srv bytes next ∧
      keysFlushOne b P w = (true,
        (w.emit b (.key item) (w.srv.keyHeader item) item.buf bytes next).act Server.popKey)) ∨
    ∃ w', Moves b 0 w w' ∧ keysFlushOne b P w = (false, w') := by
  unfold keysFlushOne
  split
  · exact .inr ⟨w, .refl w, rfl⟩
  · next item rest hq =>
    rcases outTryFrame_cases hP (.key item) (w.srv.keyHeader item) item.buf w with
      ⟨bytes, next, hs, heq⟩ | ⟨w', hw', heq⟩
    · exact .inl ⟨item, rest, bytes, next, hq, hs, by rw [heq]⟩
    · exact .inr ⟨w', hw', by rw [heq]⟩

/-- A turn of the media queue. -/
lemma mediaFlushOne_cases (hP : Backend b P) (w : World E) :
    (∃ item rest bytes next, w.srv.session.active = true ∧ w.srv.voice.media = item :: rest ∧
      Sendable b (w.srv.mediaHeader item) item.payload w.srv bytes next ∧
      mediaFlushOne b P w = (true,
        (w.emit b (.media item) (w.srv.mediaHeader item) item.payload bytes next).act
          (Server.popMedia item))) ∨
    ∃ w', Moves b 0 w w' ∧ mediaFlushOne b P w = (false, w') := by
  unfold mediaFlushOne
  split
  · exact .inr ⟨w, .refl w, rfl⟩
  · next hactive =>
    split
    · exact .inr ⟨w, .refl w, rfl⟩
    · next item rest hq =>
      split
      · exact .inr ⟨w, .refl w, rfl⟩
      · rcases outTryFrame_cases hP (.media item) (w.srv.mediaHeader item) item.payload w with
          ⟨bytes, next, hs, heq⟩ | ⟨w', hw', heq⟩
        · exact .inl ⟨item, rest, bytes, next, by simpa using hactive, hq, hs, by rw [heq]⟩
        · exact .inr ⟨w', hw', by rw [heq]⟩

end Send

/-! ## The scheduler -/

section Schedule

variable {s : Server} {n : Nat}

/-- A number that beats the oldest control frame is in order. -/
lemma inOrder_of_beats {k : UInt32}
    (h : (s.ctlPeekOrder.map fun o => (o, Turn.ctl)).all (fun m => m.1 == 0 || decide (k < m.1))) :
    s.InOrder k ∨ s.Wrapped := by
  cases hpeek : s.ctlPeekOrder with
  | none =>
    left
    intro slot hslot
    rw [ctlQueued_of_peek_none hpeek] at hslot
    cases hslot
  | some o =>
    simp only [hpeek, Option.map_some, Option.all_some, Bool.or_eq_true, beq_iff_eq,
      decide_eq_true_eq] at h
    rcases h with rfl | hlt
    · right
      rcases foldl_keepLeast_mem hpeek with hnone | ⟨slot, hmem, hu, hzero⟩
      · cases hnone
      · exact .inl ⟨slot, List.mem_filter.mpr ⟨hmem, hu⟩, hzero⟩
    · left
      intro slot hslot hslt
      have hle : o ≤ slot.order := ctlPeekOrder_le hpeek slot hslot
      have hlo : slot.order < o := UInt32.lt_trans hslt hlt
      exact UInt32.lt_irrefl _ (UInt32.lt_of_le_of_lt hle hlo)

lemma Server.InOrder.of_lt {k m : UInt32} (h : s.InOrder k) (hlt : m < k) : s.InOrder m :=
  fun slot hslot hs => h slot hslot (UInt32.lt_trans hs hlt)

/-- The case of `oldest_cases` in which only control frames and media compete. -/
lemma oldest_media {o m : UInt32} {turn : Turn}
    (h : (if (s.ctlPeekOrder.map fun o => (o, Turn.ctl)).all
        (fun n => n.1 == 0 || decide (m < n.1)) then some (m, Turn.media)
      else s.ctlPeekOrder.map fun o => (o, Turn.ctl)) = some (o, turn)) :
    turn ≠ .key ∧ (turn = .media → s.InOrder m ∨ s.Wrapped) := by
  split at h
  · next hbeat =>
    cases h
    exact ⟨nofun, fun _ => inOrder_of_beats hbeat⟩
  · simp only [Option.map_eq_some_iff, Prod.mk.injEq] at h
    obtain ⟨_, _, _, rfl⟩ := h
    exact ⟨nofun, nofun⟩

/-- A key or media head that the scheduler finds oldest is in its turn. -/
lemma oldest_cases {o : UInt32} {turn : Turn} (h : s.oldest = some (o, turn)) :
    (turn = .key → ∃ item rest, s.keys.queue = item :: rest ∧ (s.InOrder item.order ∨ s.Wrapped)) ∧
    (turn = .media →
      ∃ item rest, s.voice.media = item :: rest ∧ (s.InOrder item.order ∨ s.Wrapped)) := by
  unfold Server.oldest at h
  cases hk : s.keys.queue with
  | nil =>
    cases hm : s.voice.media with
    | nil =>
      simp only [hk, hm, List.head?_nil, Option.map_none, Option.map_eq_some_iff, Prod.mk.injEq] at h
      obtain ⟨_, _, _, rfl⟩ := h
      exact ⟨nofun, nofun⟩
    | cons m ms =>
      simp only [hk, hm, List.head?_nil, List.head?_cons, Option.map_none, Option.map_some] at h
      obtain ⟨hkey, hmedia⟩ := oldest_media h
      exact ⟨fun ht => absurd ht hkey, fun ht => ⟨m, ms, rfl, hmedia ht⟩⟩
  | cons key ks =>
    have hzero : key.order = 0 → s.Wrapped := fun hz => .inr ⟨key, by simp [hk], hz⟩
    cases hbeat : (s.ctlPeekOrder.map fun o => (o, Turn.ctl)).all
        (fun m => m.1 == 0 || decide (key.order < m.1)) with
    | false =>
      cases hm : s.voice.media with
      | nil =>
        simp only [hk, hm, List.head?_nil, List.head?_cons, Option.map_none, Option.map_some, hbeat,
          Bool.false_eq_true, if_false, Option.map_eq_some_iff, Prod.mk.injEq] at h
        obtain ⟨_, _, _, rfl⟩ := h
        exact ⟨nofun, nofun⟩
      | cons m ms =>
        simp only [hk, hm, List.head?_cons, Option.map_some, hbeat, Bool.false_eq_true,
          if_false] at h
        obtain ⟨hkey, hmedia⟩ := oldest_media h
        exact ⟨fun ht => absurd ht hkey, fun ht => ⟨m, ms, rfl, hmedia ht⟩⟩
    | true =>
      have hturn := inOrder_of_beats hbeat
      cases hm : s.voice.media with
      | nil =>
        simp only [hk, hm, List.head?_nil, List.head?_cons, Option.map_none, Option.map_some, hbeat,
          if_true, Option.some.injEq, Prod.mk.injEq] at h
        obtain ⟨_, rfl⟩ := h
        exact ⟨fun _ => ⟨key, ks, rfl, hturn⟩, nofun⟩
      | cons m ms =>
        simp only [hk, hm, List.head?_cons, Option.map_some, hbeat, if_true, Option.all_some,
          Bool.or_eq_true, beq_iff_eq, decide_eq_true_eq] at h
        split at h
        · next hbeat' =>
          cases h
          refine ⟨nofun, fun _ => ⟨m, ms, rfl, ?_⟩⟩
          rcases hbeat' with hz | hlt
          · exact .inr (hzero hz)
          · exact hturn.imp (·.of_lt hlt) id
        · cases h
          exact ⟨fun _ => ⟨key, ks, rfl, hturn⟩, nofun⟩

/-- A turn of keys or media is in order, or the burst of control frames is used up. -/
lemma schedule_cases {turn : Turn} (h : s.schedule n = some turn) :
    (turn = .key → ∃ item rest, s.keys.queue = item :: rest ∧
      (s.InOrder item.order ∨ s.Wrapped ∨ ctlFlushBurst ≤ n)) ∧
    (turn = .media → ∃ item rest, s.voice.media = item :: rest ∧
      (s.InOrder item.order ∨ s.Wrapped ∨ ctlFlushBurst ≤ n)) := by
  unfold Server.schedule at h
  split at h
  · cases h
  · split at h
    · next hburst =>
      cases hk : s.keys.queue with
      | nil =>
        cases hm : s.voice.media with
        | nil =>
          simp only [hk, hm, List.head?_nil, Option.some.injEq] at h
          subst h
          exact ⟨nofun, nofun⟩
        | cons m ms =>
          simp only [hk, hm, List.head?_nil, List.head?_cons, Option.some.injEq] at h
          subst h
          exact ⟨nofun, fun _ => ⟨m, ms, rfl, .inr (.inr hburst)⟩⟩
      | cons key ks =>
        cases hm : s.voice.media with
        | nil =>
          simp only [hk, hm, List.head?_nil, List.head?_cons, Option.some.injEq] at h
          subst h
          exact ⟨fun _ => ⟨key, ks, rfl, .inr (.inr hburst)⟩, nofun⟩
        | cons m ms =>
          exact ⟨fun _ => ⟨key, ks, rfl, .inr (.inr hburst)⟩,
            fun _ => ⟨m, ms, rfl, .inr (.inr hburst)⟩⟩
    · cases h
      exact ⟨nofun, nofun⟩
  · next o turn' hnot hold =>
    cases h
    obtain ⟨hkey, hmedia⟩ := oldest_cases hold
    refine ⟨fun ht => ?_, fun ht => ?_⟩
    · obtain ⟨item, rest, hq, ho⟩ := hkey ht
      exact ⟨item, rest, hq, ho.imp id .inl⟩
    · obtain ⟨item, rest, hq, ho⟩ := hmedia ht
      exact ⟨item, rest, hq, ho.imp id .inl⟩

/-- Control has a turn only if no key state is older than the frame that leaves. -/
lemma schedule_ctl {o : UInt32} (h : s.schedule n = some .ctl) (ho : s.ctlPeekOrder = some o) :
    ∀ it ∈ s.keys.queue.head?, ¬ it.order < o := by
  have hold : ∃ x, s.oldest = some (x, .ctl) := by
    unfold Server.schedule at h
    split at h
    · cases h
    · next x hold => exact ⟨x, hold⟩
    · next hnot hold =>
      cases h
      exact (hnot rfl).elim
  obtain ⟨x, hold⟩ := hold
  intro it hit hlt
  have hbeats : (s.ctlPeekOrder.map fun o => (o, Turn.ctl)).all
      (fun m => m.1 == 0 || decide (it.order < m.1)) = true := by
    simp [ho, hlt]
  unfold Server.oldest at hold
  rw [Option.mem_def.mp hit] at hold
  simp only [Option.map_some, hbeats, if_true] at hold
  -- a key state that beats control gives way to media at most
  cases hm : s.voice.media.head? with
  | none => simp [hm] at hold
  | some m =>
    simp only [hm, Option.map_some] at hold
    split at hold <;> cases hold

/-- After `n` control frames of a pump: it began crowded, or nothing is in front any more, or what is in
front fits the rest of the burst. -/
def Paced (n : Nat) (w : World E) : Prop :=
  Crowded w.log ∨ w.srv.crowd = 0 ∨ w.srv.crowd + n ≤ ctlFlushBurst

lemma Paced.crowd_zero {w : World E} (h : Paced n w) (hn : ctlFlushBurst ≤ n) :
    Crowded w.log ∨ w.srv.crowd = 0 := by
  rcases h with hc | hz | hle
  · exact .inl hc
  · exact .inr hz
  · exact .inr (by omega)

lemma Crowded.mono {l l' : List Ev} (h : Crowded l) (hsub : l ⊆ l') : Crowded l' := by
  obtain ⟨s, hs, hc⟩ := h
  exact ⟨s, hsub hs, hc⟩

end Schedule


/-! ## The loop -/

section Flush

variable {w : World E}

@[simp] lemma emit_log (origin : Origin) (h : Header) (payload bytes : List UInt8) (next : UInt32)
    (w : World E) :
    (w.emit b origin h payload bytes next).log =
      .emitted origin (h.stamped w.srv.session.nextTxSeq payload.length) payload :: w.log := rfl

lemma Voice.media_delivered (item : MediaItem) (v : Voice) : (v.delivered item).media = v.media := by
  unfold Voice.delivered
  split
  · dsimp only
    split <;> rfl
  all_goals rfl

lemma media_popMedia (item : MediaItem) (s : Server) :
    (s.popMedia item).voice.media = s.voice.media.tail := by
  unfold Server.popMedia
  dsimp only
  split
  · rw [Voice.media_delivered]
  · rfl

/-- One turn of the pump is a move, and the pump stays paced. -/
lemma moves_flushTurn (hP : Backend b P) {n : Nat} {turn : Turn} (hpace : Paced n w)
    (hturn : w.srv.schedule n = some turn) :
    Moves b 0 w (flushTurn b P turn w).2 ∧
      ((flushTurn b P turn w).1 = true →
        Paced (if turn = .ctl then n + 1 else n) (flushTurn b P turn w).2) := by
  obtain ⟨hkey, hmedia⟩ := schedule_cases hturn
  cases turn with
  | ctl =>
    rcases ctlPop_cases hP w with ⟨i, slot, bytes, next, hi, hu, ho, hs, heq⟩ | ⟨w', hw', heq⟩
    · have hmove : Moves b 0 w
          ((w.emit b (.ctl slot) slot.header slot.payload bytes next).act (Server.freeSlot i)) :=
        .emitCtl rfl i slot bytes next hi hu ho hs (schedule_ctl hturn ho) (.refl w)
      -- sending a control frame leaves what is in front to the slot that it frees
      have hcrowd : ((w.srv.putFrame b bytes next).freeSlot i).crowd = (w.srv.freeSlot i).crowd := by
        simp [Server.freeSlot, Server.putFrame, Server.crowd, Server.ctlQueued, Server.overtakes, hi]
      simp only [flushTurn, heq, if_true]
      refine ⟨hmove, fun _ => ?_⟩
      rcases hpace with hc | hpace
      · exact .inl (hc.mono (by simp [World.emit]))
      · right
        simp only [srv_act, World.emit, srv_note, hcrowd]
        rcases crowd_freeSlot hi hu ho with ⟨-, hz⟩ | hone
        · exact .inl hz
        · rcases hpace with hz | hle
          · omega
          · right
            omega
    · simp only [flushTurn, heq]
      exact ⟨hw', nofun⟩
  | key =>
    obtain ⟨item', rest', hq', horder⟩ := hkey rfl
    rcases keysFlushOne_cases hP w with ⟨item, rest, bytes, next, hq, hs, heq⟩ | ⟨w', hw', heq⟩
    · have hsame : item' = item := by rw [hq] at hq'; exact (List.cons.inj hq').1.symm
      subst hsame
      -- out of turn only after a burst, when nothing is in front any more
      have hin : InTurn w item'.order := by
        rcases horder with ho | hw | hburst
        · exact .inl ho
        · exact .inr (.inr hw)
        · rcases hpace.crowd_zero hburst with hc | hz
          · exact .inr (.inl hc)
          · exact .inl ((inOrder_of_crowd_zero hz).1 item' (by simp [hq]))
      have hle : ((w.srv.putFrame b bytes next).popKey).crowd ≤ w.srv.crowd :=
        crowd_le rfl (List.tail_sublist _).subset (List.Subset.refl _)
      simp only [flushTurn, heq, reduceCtorEq, if_false]
      refine ⟨.emitKey rfl item' rest bytes next hq hin hs (.refl w), fun _ => ?_⟩
      rcases hpace with hc | hz | hn
      · exact .inl (hc.mono (by simp [World.emit]))
      · exact .inr (.inl (Nat.le_zero.mp (hz ▸ hle)))
      · exact .inr (.inr (by simp only [srv_act, World.emit, srv_note]; omega))
    · simp only [flushTurn, heq]
      exact ⟨hw', nofun⟩
  | media =>
    obtain ⟨item', rest', hq', horder⟩ := hmedia rfl
    rcases mediaFlushOne_cases hP w with ⟨item, rest, bytes, next, ha, hq, hs, heq⟩ | ⟨w', hw', heq⟩
    · have hsame : item' = item := by rw [hq] at hq'; exact (List.cons.inj hq').1.symm
      subst hsame
      have hin : InTurn w item'.order := by
        rcases horder with ho | hw | hburst
        · exact .inl ho
        · exact .inr (.inr hw)
        · rcases hpace.crowd_zero hburst with hc | hz
          · exact .inr (.inl hc)
          · exact .inl ((inOrder_of_crowd_zero hz).2 item' (by simp [hq]))
      have hle : ((w.srv.putFrame b bytes next).popMedia item').crowd ≤ w.srv.crowd :=
        crowd_le rfl (List.Subset.refl _) (by rw [media_popMedia]; exact (List.tail_sublist _).subset)
      simp only [flushTurn, heq, reduceCtorEq, if_false]
      refine ⟨.emitMedia rfl item' rest bytes next ha hq hin hs (.refl w), fun _ => ?_⟩
      rcases hpace with hc | hz | hn
      · exact .inl (hc.mono (by simp [World.emit]))
      · exact .inr (.inl (Nat.le_zero.mp (hz ▸ hle)))
      · exact .inr (.inr (by simp only [srv_act, World.emit, srv_note]; omega))
    · simp only [flushTurn, heq]
      exact ⟨hw', nofun⟩

lemma moves_flushLoop (hP : Backend b P) (fuel n : Nat) (w : World E) (hpace : Paced n w) :
    Moves b 0 w (flushLoop b P fuel n w) := by
  induction fuel generalizing n w with
  | zero => exact .refl w
  | succ fuel ih =>
    unfold flushLoop
    split
    · exact .refl w
    · next turn hturn =>
      obtain ⟨hmove, hnext⟩ := moves_flushTurn hP hpace hturn
      split
      · next heq => simpa [heq] using hmove
      · next heq =>
        simp only [heq, forall_const] at hmove hnext
        exact hmove.trans (ih _ _ hnext)

/-- `rbp_server_flush_output` is a run of the pump. -/
lemma moves_flushOutput (hP : Backend b P) (w : World E) : Moves b 0 w (flushOutput b P w) := by
  have hflush : Moves b 0 w (w.note (.flush w.srv)) := .flush rfl (.refl w)
  have hdrain : Moves b 0 _ (outDrain b P (w.note (.flush w.srv))) := moves_outDrain P _
  have hpace : Paced 0 (outDrain b P (w.note (.flush w.srv))) := by
    obtain ⟨out, hout⟩ := outDrainLoop_keeps (b := b) P w.srv.out.len (w.note (.flush w.srv))
    have hmem : Ev.flush w.srv ∈ (outDrain b P (w.note (.flush w.srv))).log :=
      mem_log_outDrainLoop P _ List.mem_cons_self
    have hcrowd : (outDrain b P (w.note (.flush w.srv))).srv.crowd = w.srv.crowd := by
      unfold outDrain
      rw [srv_note, hout]
      rfl
    by_cases hc : ctlFlushBurst < w.srv.crowd
    · exact .inl ⟨w.srv, hmem, hc⟩
    · exact .inr (.inr (by omega))
  exact ((hflush.trans hdrain).trans (moves_flushLoop hP _ 0 _ hpace)).trans (moves_outDrain P _)

end Flush

end RemoteBridge
