import RemoteBridge.Properties.UnicomCapture

/-!
# The audio of a Unicom capture

While voice stays wanted and the session stays the same, the units that the server is told are those of
the bodies that the remote sent, in order and one for each.  The account of a capture is kept through turns,
keys, writes and losses, and from step to step through a whole run.

## The end of a capture

The end is decided by two timers that do not look at the ring.  Ticks may come at any distance, so the tick
that finds the end due can find several units in the ring, send one of them, and report a normal end over
the others; the last theorem shows such a run.  Where half a body is left, or the ring overruns, the reason
is lost data; here it is not.  `World.Drains` is the condition under which this does not happen: such a tick
finds at most the unit that it sends itself.  It speaks of the state before the tick, so what is needed of
the turn is that it does not make an end due that was not due before (`Undue`): a stop that the server asks
for in the middle of it only queues a command, and an end waits for that.

Where voice is wanted from the opening on the ring stays empty, the condition holds by itself and nothing
ever waits.
-/

namespace RemoteBridge.Unicom

/-- A tick that finds the end of a capture due, with no write under way and no part of a body heard, finds
at most one unit in the ring. -/
def World.Drains {E : Type} (w : World E) : Input E → Prop
  | .tick nowMs =>
    w.u.phase = .done → endDue { w.u with nowMs } = true → w.u.inFlight = 0 → w.u.part = 0 →
      w.u.preroll.len ≤ 1
  | _ => True

instance {E : Type} (w : World E) : (i : Input E) → Decidable (w.Drains i)
  | .tick nowMs => inferInstanceAs (Decidable (w.u.phase = .done → endDue { w.u with nowMs } = true →
      w.u.inFlight = 0 → w.u.part = 0 → w.u.preroll.len ≤ 1))
  | .notify .. => isTrue trivial
  | .writeDone _ => isTrue trivial
  | .micStop => isTrue trivial
  | .fail _ => isTrue trivial
  | .detach => isTrue trivial
  | .begin _ => isTrue trivial
  | .found .. => isTrue trivial
  | .subscribed => isTrue trivial
  | .server _ => isTrue trivial

/-- Every step of a run does so. -/
def DrainedRun {E : Type} (S : Surround E) : World E → List (Input E) → Prop
  | _, [] => True
  | w, i :: rest => w.Drains i ∧ DrainedRun S (i.run S w) rest

instance DrainedRun.decidable {E : Type} (S : Surround E) :
    (w : World E) → (inputs : List (Input E)) → Decidable (DrainedRun S w inputs)
  | _, [] => inferInstanceAs (Decidable True)
  | w, i :: rest =>
    have := DrainedRun.decidable S (i.run S w) rest
    inferInstanceAs (Decidable (w.Drains i ∧ DrainedRun S (i.run S w) rest))

section Steps

variable {E : Type} {S : Surround E} {w w' w'' : World E} {owed queue : List (List UInt8)}

/-! ## The timers -/

/-- A step does not make the end of a capture due, and does not fill the ring of one whose end is due. -/
def Undue (w w' : World E) : Prop :=
  endDue w'.u = true → endDue w.u = true ∧ w'.u.inFlight = w.u.inFlight ∧ w'.u.part = w.u.part ∧
    w'.u.preroll.len ≤ w.u.preroll.len

lemma Undue.trans (h : Undue w w') (h' : Undue w' w'') : Undue w w'' := by
  intro hdue
  obtain ⟨hdue', hflight', hpart', hlen'⟩ := h' hdue
  obtain ⟨hdue, hflight, hpart, hlen⟩ := h hdue'
  exact ⟨hdue, hflight'.trans hflight, hpart'.trans hpart, hlen'.trans hlen⟩

lemma Undue.refl (w : World E) : Undue w w := fun hdue => ⟨hdue, rfl, rfl, Nat.le_refl _⟩

/-- What the adapter asks and tells, and the server with it, are none of the timers. -/
lemma undue_log (env : E) (log : List Ev) (servers : List E) : Undue w { u := w.u, env, log, servers } :=
  fun hdue => ⟨hdue, rfl, rfl, Nat.le_refl _⟩

/-- A capture with a queued command does not end. -/
lemma not_due_of_command {u : State} (h : u.command ≠ 0) : endDue u = false := by
  unfold endDue
  rw [beq_eq_false_iff_ne.mpr h, Bool.and_false, Bool.false_and]

lemma undue_stop (w : World E) : Undue w (stop w) := by
  unfold stop
  split
  · exact .refl w
  · intro hdue
    have hqueued : endDue (w.act fun u =>
        let u := { u with closing := true, closeMs := u.nowMs }
        { (if u.announced then u else u.clear) with command := 2 }).u = false :=
      not_due_of_command (show (2 : UInt8) ≠ 0 by decide)
    exact absurd (hqueued.symm.trans hdue) Bool.false_ne_true

lemma undue_tell (t : Told) (w : World E) : Undue w (tell S t w) := by
  have htold : Undue w { w.told t with env := (S.tell t w.env).2 } := undue_log _ _ _
  unfold tell
  dsimp only
  split
  · exact htold.trans (undue_stop _)
  · exact htold

lemma undue_prerollCancel (w : World E) : Undue w (prerollCancel w) := by
  have hempty : Undue w (w.act fun u => { u with preroll := u.preroll.setLen 0 }) :=
    fun hdue => ⟨hdue, rfl, rfl, Nat.zero_le _⟩
  exact hempty.trans (undue_stop _)

lemma undue_askWanted (w : World E) : Undue w (w.askWanted S).2 := undue_log _ _ _

lemma undue_askSession (w : World E) : Undue w (w.askSession S).2 := undue_log _ _ _

lemma undue_announce (w : World E) : Undue w (announce S w) := by
  have hann : Undue w (w.act fun u => { u with announced := true }) :=
    fun hdue => ⟨hdue, rfl, rfl, Nat.le_refl _⟩
  exact hann.trans (undue_tell _ _)

lemma undue_emit (p : List UInt8) (w : World E) : Undue w (emit S p w).2 := by
  unfold emit
  dsimp only
  have hwanted : Undue w (w.askWanted S).2 := undue_askWanted w
  split
  · exact hwanted
  have hsession := hwanted.trans (undue_askSession (S := S) _)
  split
  · exact hsession
  split
  · exact hsession
  refine Undue.trans ?_ (undue_tell _ _)
  have hannounced : ∀ w' : World E, Undue w w' → Undue w (if w'.u.announced then w' else announce S w') := by
    intro w' h
    split
    · exact h
    · exact h.trans (undue_announce w')
  have hstarted : ∀ w' : World E, Undue w w' → Undue w
      (if w'.u.started then w'
        else tell S (.voice .start) (w'.act fun u => { u with started := true })) := by
    intro w' h
    split
    · exact h
    · have hact : Undue w' (w'.act fun u => { u with started := true }) :=
        fun hdue => ⟨hdue, rfl, rfl, Nat.le_refl _⟩
      exact h.trans (hact.trans (undue_tell _ _))
  exact hstarted _ (hannounced _ hsession)

/-! ## Ticks -/

lemma inv_tickOwner (h : Inv w) (hactive : w.u.active = true) : Inv (tickOwner S w) := by
  have hsession : Kept w (w.askSession S).2 := kept_askSession w
  have hasked : Inv (w.askSession S).2 := hsession.inv h
  unfold tickOwner
  dsimp only
  split
  · rename_i howner
    refine (grows_prerollCancel _).unsteady hasked.body fun hs => howner ?_
    rcases hasked.opened hs hactive with hgiven | hlive
    · exact hs.owner.trans hgiven.owner
    · exact hs.owner.trans hlive.account.owner
  split
  · rename_i hann
    have hwanted : Grows (w.askSession S).2 ((w.askSession S).2.askWanted S).2 := grows_askWanted _
    have hlive : Steady ((w.askSession S).2.askWanted S).2.log → Live [] (w.askSession S).2 := by
      intro hs
      rcases hasked.opened (hwanted.steady hs) hactive with hgiven | hlive
      · exact absurd (hgiven.unannounced.symm.trans hann) Bool.false_ne_true
      · exact hlive
    split
    · exact inv_opened hactive hasked.body fun hs => .inr ((hlive hs).asked fun _ => hann)
    · rename_i hno
      exact (grows_prerollCancel _).unsteady hasked.body fun hs => hno ((hlive hs).wanted hann hs)
  · exact hasked

lemma active_prerollCancel (w : World E) : (prerollCancel w).u.active = w.u.active := active_stop _

lemma active_tickOwner (w : World E) : (tickOwner S w).u.active = w.u.active := by
  unfold tickOwner
  dsimp only
  split
  · exact active_prerollCancel _
  split
  · split
    · rfl
    · exact active_prerollCancel _
  · rfl

lemma undue_tickOwner (w : World E) : Undue w (tickOwner S w) := by
  have hsession : Undue w (w.askSession S).2 := undue_askSession w
  unfold tickOwner
  dsimp only
  split
  · exact hsession.trans (undue_prerollCancel _)
  split
  · have hwanted := hsession.trans (undue_askWanted (S := S) _)
    split
    · exact hwanted
    · exact hwanted.trans (undue_prerollCancel _)
  · exact hsession

lemma active_tickAnnounce (w : World E) : (tickAnnounce S w).u.active = w.u.active := by
  unfold tickAnnounce
  split
  · dsimp only
    split
    · exact active_tell _ _
    · rfl
  · rfl

lemma undue_tickAnnounce (w : World E) : Undue w (tickAnnounce S w) := by
  have hwanted : Undue w (w.askWanted S).2 := undue_askWanted w
  unfold tickAnnounce
  split
  · dsimp only
    split
    · exact hwanted.trans (undue_announce _)
    · exact hwanted
  · exact .refl w

/-- The first answer that voice is wanted announces the capture; the ring waits for its turns. -/
lemma inv_tickAnnounce (h : Inv w) (hactive : w.u.active = true) : Inv (tickAnnounce S w) := by
  have hasked : Grows w (w.askWanted S).2 := grows_askWanted w
  unfold tickAnnounce
  split
  · rename_i hnot
    simp only [Bool.and_eq_true, Bool.not_eq_true'] at hnot
    obtain ⟨hun, hopen⟩ := hnot
    have hlive : Steady w.log → Live [] w := by
      intro hs
      rcases h.opened hs hactive with hgiven | hlive
      · exact absurd (hopen.symm.trans hgiven.closing) Bool.false_ne_true
      · exact hlive
    dsimp only
    split
    · rename_i hyes
      have hgrows : Grows w (announce S (w.askWanted S).2) := hasked.trans (grows_announce _)
      refine inv_opened ((active_tell _ _).trans hactive) (hgrows.body ▸ h.body) fun hs => .inr ?_
      have hold := hlive (hgrows.steady hs)
      have haccount := hold.account
      rw [List.append_nil] at haccount
      have hhead : Ev.asked (S.wanted w.env) ∈ current (w.askWanted S).2.log := List.mem_cons_self
      rw [show S.wanted w.env = true from hyes] at hhead
      have hopen' : Open (w.u.preroll.contents 8) (w.askWanted S).2 := by
        refine ⟨haccount.owner, fun hmem => ?_, haccount.account⟩
        rcases List.mem_cons.mp hmem with heq | hmem
        · cases heq
        · exact haccount.unended hmem
      have hsend : Sending _ w (announce S (w.askWanted S).2) :=
        sending_announce hopen' hhead rfl rfl hasked
      rw [← hsend.ring] at hsend
      refine hsend.live (hsend.ring ▸ hold.ring) fun hnever => ?_
      rw [hsend.ring]
      exact hold.first fun hmem => hnever (hgrows.mem hmem)
    · rename_i hno
      exact inv_opened hactive h.body fun hs =>
        .inr ((hlive (hasked.steady hs)).asked fun hyes => absurd hyes hno)
  · exact h

lemma kept_tickPreroll (hactive : w.u.active = true) : Kept w (tickPreroll w) := by
  unfold tickPreroll
  split
  · rename_i hcancel
    simp only [Bool.and_eq_true, Bool.not_eq_true'] at hcancel
    exact (prerollCancel_closed hactive hcancel.1.1).1
  · exact .refl w

lemma undue_tickPreroll (w : World E) : Undue w (tickPreroll w) := by
  unfold tickPreroll
  split
  · exact undue_prerollCancel w
  · exact .refl w

lemma contents_cons {r : Ring (List UInt8)} (hr : r.Ok 8) (hlen : r.len ≠ 0) :
    r.contents 8 = r.mem r.head :: (r.consume 8 1).contents 8 ∧ (r.consume 8 1).Ok 8 := by
  obtain ⟨hcontents, hok⟩ := Ring.contents_consume hr (n := 1) (by omega)
  refine ⟨?_, hok⟩
  have hhead : (r.contents 8)[0]? = some (r.mem r.head) := by
    rw [Ring.contents_getElem?, if_pos (by omega), Nat.add_zero, Nat.mod_eq_of_lt hr.head_lt]
  rw [hcontents]
  cases hqueue : r.contents 8 with
  | nil =>
    rw [hqueue] at hhead
    cases hhead
  | cons p rest =>
    rw [hqueue] at hhead
    rw [Option.some.inj hhead]
    rfl

/-- The unit that was sent leaves the ring. -/
lemma Sending.consume (h : Sending queue w w') (hcontents : (w'.u.preroll.consume 8 1).contents 8 = queue)
    (hring : (w'.u.preroll.consume 8 1).Ok 8) (hlate : .asked false ∈ current w'.log) :
    Live [] (w'.act fun u => { u with preroll := u.preroll.consume 8 1 }) := by
  have hopen := h.account
  rw [← hcontents, ← List.append_nil (Ring.contents _ _)] at hopen
  exact ⟨⟨hopen.owner, hopen.unended, hopen.account⟩, hring, ⟨fun _ => h.asked, fun _ => h.announced⟩,
    fun _ => h.announced, fun hnever => absurd hlate hnever⟩

/-- A turn sends the oldest unit of the ring, or finds that voice is not wanted yet. -/
lemma inv_drainOne (h : Inv w) (hactive : w.u.active = true) : Inv (drainOne S w) := by
  unfold drainOne
  split
  · exact h
  rename_i hlen
  have hemit := grows_emit (S := S) (w.u.preroll.mem w.u.preroll.head) w
  have hlive : Steady w.log → Live [] w := by
    intro hs
    rcases h.opened hs hactive with hgiven | hlive
    · exact absurd hgiven.empty hlen
    · exact hlive
  dsimp only
  split
  · rename_i hyes
    by_cases hs : Steady w.log
    · have hold := hlive hs
      obtain ⟨hcons, hring⟩ := contents_cons hold.ring hlen
      have haccount := hold.account
      rw [List.append_nil, hcons] at haccount
      have hsent := haccount.emit hyes
      refine inv_opened (hsent.active.trans hactive) (hemit.body ▸ h.body) fun _ => .inr ?_
      refine hsent.consume (by rw [hsent.ring]) (by rw [hsent.ring]; exact hring) ?_
      refine hsent.grows.mem ?_
      by_contra hnever
      exact hlen (hold.first hnever)
    · have hconsume : Grows w
          ((emit S (w.u.preroll.mem w.u.preroll.head) w).2.act
            fun u => { u with preroll := u.preroll.consume 8 1 }) := hemit.trans ⟨rfl, [], by simp, rfl⟩
      exact hconsume.unsteady h.body hs
  · rename_i hno
    by_cases hs : Steady (emit S (w.u.preroll.mem w.u.preroll.head) w).2.log
    · have hold := hlive (hemit.steady hs)
      obtain ⟨hfalse, heq⟩ := emit_refused hold.account.owner hold.closing hs (Bool.eq_false_iff.mpr hno)
      rw [heq]
      refine inv_opened hactive h.body fun _ => .inr (hold.asked fun hyes => ?_)
      exact absurd (hfalse.symm.trans hyes) Bool.false_ne_true
    · exact ⟨hemit.body ▸ h.body, fun hs' => absurd hs' hs, fun _ hs' => absurd hs' hs⟩

/-- A turn that leaves the end of a capture due has sent a unit, if there was one. -/
lemma drainOne_due (h : Inv w) (hactive : w.u.active = true) (hs : Steady (drainOne S w).log)
    (hdue : endDue (drainOne S w).u = true) :
    endDue w.u = true ∧ (drainOne S w).u.inFlight = w.u.inFlight ∧ (drainOne S w).u.part = w.u.part ∧
      (drainOne S w).u.preroll.len ≤ w.u.preroll.len - 1 := by
  have hemit := undue_emit (S := S) (w.u.preroll.mem w.u.preroll.head) w
  have hgrows := grows_emit (S := S) (w.u.preroll.mem w.u.preroll.head) w
  unfold drainOne at hs hdue ⊢
  split at hdue
  · rename_i hlen
    rw [if_pos hlen]
    exact ⟨hdue, rfl, rfl, by omega⟩
  rename_i hlen
  rw [if_neg hlen] at hs ⊢
  dsimp only at hs hdue ⊢
  split at hdue
  · rename_i hyes
    rw [if_pos hyes]
    obtain ⟨hbefore, hflight, hpart, hle⟩ := hemit hdue
    exact ⟨hbefore, hflight, hpart, Nat.sub_le_sub_right hle 1⟩
  · -- a capture that closes is announced, so the unit is not refused
    rename_i hno
    rw [if_neg hno] at hs
    obtain ⟨hbefore, -⟩ := hemit hdue
    have hclosing : w.u.closing = true := by
      unfold endDue at hbefore
      simp only [Bool.and_eq_true] at hbefore
      exact hbefore.1.1.2
    rcases h.opened (hgrows.steady hs) hactive with hgiven | hlive
    · exact absurd hgiven.empty hlen
    · obtain ⟨hfalse, heq⟩ :=
        emit_refused hlive.account.owner hlive.closing hs (Bool.eq_false_iff.mpr hno)
      rw [heq] at hs
      exact absurd (hfalse.symm.trans (hlive.wanted (hlive.closing hclosing) hs)) Bool.false_ne_true

lemma inv_tickCapture (h : Inv w) : Inv (tickCapture S w) := by
  unfold tickCapture
  split
  · rename_i hactive
    have howner := inv_tickOwner (S := S) h hactive
    have hactive' : (tickOwner S w).u.active = true := (active_tickOwner w).trans hactive
    have hannounce := inv_tickAnnounce (S := S) howner hactive'
    have hactive'' := (active_tickAnnounce (S := S) (tickOwner S w)).trans hactive'
    have hpreroll := kept_tickPreroll hactive''
    exact inv_drainOne (hpreroll.inv hannounce) (hpreroll.active.trans hactive'')
  · exact h

/-- The block of an open capture leaves one unit less in the ring when the end is due behind it. -/
lemma tickCapture_due (h : Inv w) (hs : Steady (tickCapture S w).log)
    (hdue : endDue (tickCapture S w).u = true) :
    endDue w.u = true ∧ (tickCapture S w).u.inFlight = w.u.inFlight ∧
      (tickCapture S w).u.part = w.u.part ∧
      (tickCapture S w).u.preroll.len ≤ w.u.preroll.len - 1 := by
  unfold tickCapture at hs hdue ⊢
  split at hdue
  · rename_i hactive
    rw [if_pos hactive] at hs ⊢
    have howner := inv_tickOwner (S := S) h hactive
    have hactive' : (tickOwner S w).u.active = true := (active_tickOwner w).trans hactive
    have hannounce := inv_tickAnnounce (S := S) howner hactive'
    have hactive'' := (active_tickAnnounce (S := S) (tickOwner S w)).trans hactive'
    have hpreroll := kept_tickPreroll hactive''
    obtain ⟨hdue', hflight', hpart', hlen'⟩ :=
      drainOne_due (hpreroll.inv hannounce) (hpreroll.active.trans hactive'') hs hdue
    have hundue : Undue w (tickPreroll (tickAnnounce S (tickOwner S w))) :=
      (undue_tickOwner w).trans ((undue_tickAnnounce _).trans (undue_tickPreroll _))
    obtain ⟨hdue, hflight, hpart, hlen⟩ := hundue hdue'
    exact ⟨hdue, hflight'.trans hflight, hpart'.trans hpart, by omega⟩
  · -- an end that is due belongs to an open capture
    rename_i hactive
    unfold endDue at hdue
    simp only [Bool.and_eq_true] at hdue
    exact absurd hdue.1.1.1 hactive

lemma inv_writeDone (h : Inv w) (ok : Bool) : Inv (writeDone S ok w) := by
  unfold writeDone
  split
  · split
    · exact (kept_act _ rfl rfl rfl rfl rfl rfl).inv h
    · exact inv_bad _ h.body h.accounted
  · exact h

lemma inv_tickCommand (h : Inv w) : Inv (tickCommand S w) := by
  unfold tickCommand
  split
  · exact h
  dsimp only
  generalize S.write _ _ = r
  have hsubmit : Inv { w.act fun u =>
      { u with inFlight := w.u.command, command := 0, commandDeadline := u.nowMs + 30000 } with
      env := r.2 } :=
    (kept_env r.2).inv ((kept_act _ rfl rfl rfl rfl rfl rfl).inv h)
  split
  · exact (kept_act _ rfl rfl rfl rfl rfl rfl).inv hsubmit
  · refine inv_bad _ h.body ?_
    exact ((kept_act (fun u => { u with inFlight := 0 }) rfl rfl rfl rfl rfl rfl).inv hsubmit).accounted
  · rename_i completion _
    have hdone : ∀ w' : World E, Inv w' → Inv (completion.elim w' fun ok => writeDone S ok w') := by
      intro w' h'
      cases completion with
      | none => exact h'
      | some ok => exact inv_writeDone h' ok
    have hrefresh : ∀ w' : World E, Inv w' → Inv (w'.act fun u => { u with refreshMs := u.nowMs + 5000 }) :=
      fun w' h' => (kept_act _ rfl rfl rfl (by simp only [State.assembly]) rfl rfl).inv h'
    have hafter := hdone _ hsubmit
    split
    · exact hrefresh _ hafter
    · exact hafter

/-- The rest of a turn; a capture whose end is due has nothing left in the ring. -/
lemma inv_tickRest (h : Inv w) (hring : Steady w.log → endDue w.u = true → w.u.inFlight = 0 →
    w.u.part = 0 → w.u.preroll.len = 0) : Inv (tickRest S w) := by
  unfold tickRest
  split
  · exact inv_bad _ h.body h.accounted
  split
  · split
    · exact inv_bad _ h.body h.accounted
    · exact h
  rename_i hflight
  split
  · rename_i hdue
    have hactive : w.u.active = true := by
      have hdue' := hdue
      unfold endDue at hdue'
      simp only [Bool.and_eq_true] at hdue'
      exact hdue'.1.1.1
    unfold endReason
    split
    · exact inv_finish (by decide) h.body h.accounted
    rename_i hpart
    split
    · have hzero : w.u.part = 0 := not_not.mp hpart
      exact inv_finish_normal h hactive hzero fun hs => hring hs hdue (not_not.mp hflight) hzero
    · exact inv_finish (by decide) h.body h.accounted
  split
  · exact inv_bad _ h.body h.accounted
  refine inv_tickCommand ?_
  split
  · exact (kept_act _ rfl rfl rfl rfl rfl rfl).inv h
  · exact h

/-! ## Captures open -/

lemma inv_startPending (h : Inv w) : Inv (startPending S w) := by
  unfold startPending
  split
  · exact h
  dsimp only
  split
  · exact (kept_act _ rfl rfl rfl rfl rfl rfl).inv ((kept_askSession w).inv h)
  · -- The account of the new capture starts with nothing heard and nothing sent.
    have hopened : ∀ w' : World E, w'.u.body.length = 48 → w'.u.preroll.head = 0 → w'.u.preroll.len = 0 →
        w'.u.part = 0 → w'.u.previousValid = false → w'.u.closing = false →
        w'.log = .asked (S.wanted w.env) :: .opened w'.u.captureSession :: .owner (S.session w.env) :: w.log →
        w'.u.announced = S.wanted w.env → w'.u.active = true → Inv w' := by
      intro w' hbody hhead hempty hpart hvalid hclosing hlog hannounced hactive
      have hcur : current w'.log = [.asked (S.wanted w.env)] := by
        rw [hlog]
        rfl
      have hprev : w'.u.assembly.prev = none := by
        show (if w'.u.previousValid then some w'.u.previous else none) = none
        rw [hvalid]
        rfl
      refine inv_opened hactive hbody fun _ => .inr ⟨⟨?_, ?_, [], [], ?_, ?_, .none hpart⟩, ⟨?_, ?_⟩, ?_,
        fun hyes => absurd (hclosing.symm.trans hyes) Bool.false_ne_true, fun _ => hempty⟩
      · rw [hlog]
        rfl
      · rw [hcur]
        simp
      · rw [hcur]
        rfl
      · rw [hprev, hcur, contents_eq_nil_of_len hempty]
        exact .nil
      · rw [hhead]
        decide
      · rw [hempty]
        decide
      · rw [hcur, hannounced, List.mem_singleton, Ev.asked.injEq]
        exact eq_comm
    split
    · exact (kept_tell rfl).inv (hopened _ h.body rfl rfl rfl rfl rfl rfl rfl rfl)
    · exact hopened _ h.body rfl rfl rfl rfl rfl rfl rfl rfl

/-- A capture that has just opened has its first command queued. -/
lemma undue_startPending (w : World E) : Undue w (startPending S w) := by
  unfold startPending
  split
  · exact .refl w
  dsimp only
  split
  · exact (undue_askSession w).trans fun hdue => ⟨hdue, rfl, rfl, Nat.le_refl _⟩
  · have hqueued : ∀ w' : World E, w'.u.command = 1 → Undue w w' := by
      intro w' hcommand hdue
      have hnot : endDue w'.u = false := not_due_of_command (by rw [hcommand]; decide)
      exact absurd (hnot.symm.trans hdue) Bool.false_ne_true
    split
    · exact (hqueued _ rfl).trans (undue_tell _ _)
    · exact hqueued _ rfl

lemma inv_becomeReady (h : Inv w) : Inv (becomeReady S w) :=
  (kept_tell rfl).inv ((kept_act _ rfl rfl rfl rfl rfl rfl).inv h)

lemma inv_tick (h : Inv w) (nowMs : UInt32) (hd : w.Drains (.tick nowMs)) : Inv (tick S nowMs w) := by
  have hnow : Inv (w.act fun u => { u with nowMs }) := (kept_act _ rfl rfl rfl rfl rfl rfl).inv h
  unfold tick
  dsimp only
  split
  · split
    · exact inv_becomeReady hnow
    · exact hnow
  · rename_i hdone
    split
    · have hstart := inv_startPending (S := S) hnow
      refine inv_tickRest (inv_tickCapture hstart) fun hs hdue hflight hpart => ?_
      -- the timers were due before the turn, whose unit is the last of the ring
      obtain ⟨hdue', hflight', hpart', hlen'⟩ := tickCapture_due hstart hs hdue
      obtain ⟨hdue, hflight'', hpart'', hlen⟩ := undue_startPending _ hdue'
      have hle : w.u.preroll.len ≤ 1 := by
        refine hd hdone hdue ?_ ?_
        · exact (hflight''.symm.trans hflight'.symm).trans hflight
        · exact (hpart''.symm.trans hpart'.symm).trans hpart
      have hlen'' : _ ≤ w.u.preroll.len := hlen
      omega
    · exact hnow
  · exact hnow

/-! ## Notifications -/

lemma inv_notifyHello (h : Inv w) (v : List UInt8) : Inv (notifyHello S v w) := by
  have hhello : Inv (w.act fun u => { u with hello := true }) := (kept_act _ rfl rfl rfl rfl rfl rfl).inv h
  unfold notifyHello
  split
  · exact inv_bad _ h.body h.accounted
  · dsimp only
    split
    · exact inv_becomeReady hhello
    · exact hhello

/-- A key that goes down while no capture is open may change the session of the next one. -/
lemma Inv.keyed (h : Inv w) (hactive : w.u.active = false) (session : UInt32) :
    Inv ((w.act fun u => { u with captureSession := session, pendingVoice := session != 0 }).note
      (.keyDown session)) := by
  have hquiet : ∀ e ∈ [Ev.keyDown session], e.quiet = true := by
    intro e he
    obtain rfl := List.mem_singleton.mp he
    rfl
  exact inv_closed hactive h.body ((h.closed hactive).quiet hquiet)

lemma inv_notifyVoiceKey (h : Inv w) (v : List UInt8) : Inv (notifyVoiceKey S v w) := by
  have hdown : ∀ down, Inv (w.act fun u => { u with down }) := fun down =>
    (kept_act _ rfl rfl rfl rfl rfl rfl).inv h
  unfold notifyVoiceKey
  split
  · exact inv_bad _ h.body h.accounted
  dsimp only
  split
  · exact ((kept_act _ rfl rfl rfl rfl rfl rfl).trans (kept_stop _)).inv (hdown _)
  refine inv_startPending ?_
  split
  · rename_i hedge
    have hactive : w.u.active = false := by
      simp only [Bool.and_eq_true, Bool.not_eq_true'] at hedge
      exact hedge.2
    have hasked : Inv ((w.act fun u => { u with down := v.getD 2 0 != 0 }).askSession S).2 :=
      (kept_askSession _).inv (hdown _)
    exact hasked.keyed hactive _
  · exact hdown _

/-- A notification leaves a capture that is given up as it is. -/
lemma GivenUp.heard (h : GivenUp w) (v : List UInt8) (f : State → State)
    (hclosing : (f w.u).closing = w.u.closing) (hannounced : (f w.u).announced = w.u.announced)
    (hring : (f w.u).preroll = w.u.preroll) (hsession : (f w.u).captureSession = w.u.captureSession) :
    GivenUp ((w.note (.heard v)).act f) := by
  refine ⟨h.owner.trans hsession.symm, hclosing.trans h.closing, hannounced.trans h.unannounced,
    (congrArg Ring.len hring).trans h.empty, fun hmem => ?_⟩
  rcases List.mem_cons.mp hmem with heq | hmem
  · cases heq
  · exact h.unwanted hmem

/-- A notification of a live capture enters its account and nothing else. -/
lemma Live.heard (h : Live [] w) (v : List UInt8) (f : State → State)
    (hclosing : (f w.u).closing = w.u.closing) (hannounced : (f w.u).announced = w.u.announced)
    (hring : (f w.u).preroll = w.u.preroll) (hsession : (f w.u).captureSession = w.u.captureSession)
    (haccount : ∃ heard rest, heardOf (current w.log) ++ [v] = heard ++ rest ∧
      Bodies (f w.u).assembly.prev heard (sentOf (current w.log) ++ (w.u.preroll.contents 8 ++ owed)) ∧
      (f w.u).assembly.Holds rest) :
    Live owed ((w.note (.heard v)).act f) := by
  have hmem : ∀ {b : Bool}, .asked b ∈ current (.heard v :: w.log) ↔ .asked b ∈ current w.log := by
    intro b
    show .asked b ∈ Ev.heard v :: current w.log ↔ _
    simp
  have hopen : Open (w.u.preroll.contents 8 ++ owed) ((w.note (.heard v)).act f) := by
    refine ⟨h.account.owner.trans hsession.symm, fun hend => ?_, haccount⟩
    rcases List.mem_cons.mp hend with heq | hend
    · cases heq
    · exact h.account.unended hend
  refine ⟨?_, ?_, ?_, fun hyes => ?_, fun hnever => ?_⟩
  · show Open ((f w.u).preroll.contents 8 ++ owed) _
    rw [hring]
    exact hopen
  · show (f w.u).preroll.Ok 8
    rw [hring]
    exact h.ring
  · show (f w.u).announced = true ↔ _
    rw [hannounced]
    exact h.answered.trans hmem.symm
  · exact hannounced.trans (h.closing (hclosing.symm.trans hyes))
  · exact (congrArg Ring.len hring).trans (h.first fun hold => hnever (hmem.mpr hold))

/-- A notification of an open capture that is no last part of a body leaves nothing undelivered. -/
lemma Inv.refused {v : List UInt8} (h : Inv w) (hactive : w.u.active = true)
    (hno : ∀ a b, w.u.assembly.Holds [a, b] → ¬ IsBody w.u.assembly.prev a b v) :
    Accounted (.heard v :: w.log) := by
  intro hs hasked
  have hsteady : Steady w.log := Steady.of_append (l := [.heard v]) (by simp) hs
  have hasked' : .asked true ∈ current w.log := by
    rcases List.mem_cons.mp hasked with heq | hmem
    · cases heq
    · exact hmem
  rcases h.opened hsteady hactive with hgiven | hlive
  · exact absurd hasked' hgiven.unwanted
  obtain ⟨heard, rest, hheard, hbodies, hholds⟩ := hlive.account.account
  refine ⟨_, _, heard, rest ++ [v], ?_, hbodies, ?_, fun hnever => ?_, fun hend => ?_⟩
  · show heardOf (current w.log) ++ [v] = _
    rw [hheard, List.append_assoc]
  · intro a b c tail heq
    cases hholds with
    | none => simp at heq
    | one => simp at heq
    | two hpart hlen hparts hnext hseq hsame hbody =>
      simp only [List.cons_append, List.nil_append, List.cons.injEq] at heq
      obtain ⟨rfl, rfl, rfl, -⟩ := heq
      exact hno _ _ (.two hpart hlen hparts hnext hseq hsame hbody)
  · rw [List.append_nil]
    exact contents_eq_nil_of_len (hlive.first fun hmem => hnever (List.mem_cons_of_mem _ hmem))
  · rcases List.mem_cons.mp hend with heq | hmem
    · cases heq
    · exact absurd hmem hlive.account.unended

/-- The third part of a body is one that the adapter takes. -/
lemma continues_of_isBody {u : State} {a b v : List UInt8} (hholds : u.assembly.Holds [a, b])
    (hbody : IsBody u.assembly.prev a b v) : continues u (seqOf v) (partOf v) = true := by
  cases hholds with
  | two hpart hlen hparts hnext hseq hsame hbody' =>
    have hpart' : u.part = 2 := hpart
    have hseq' : u.sequence = seqOf a := hseq
    unfold continues
    rw [hbody.parts.2.2, hpart', hseq', hbody.seqs.2]
    simp

/-- What `continues` says of the three places of a part. -/
lemma continues_spec {u : State} {seq part : UInt16} (h : continues u seq part = true) :
    part.toNat = u.part ∧ u.part ≤ 2 ∧ (u.part ≠ 0 → seq = u.sequence) ∧
      (u.part = 0 → ∀ p ∈ u.assembly.prev, seq = p + 1) := by
  unfold continues at h
  simp only [Bool.and_eq_true, beq_iff_eq, decide_eq_true_iff, Bool.or_eq_true, bne_iff_ne,
    Bool.not_eq_true'] at h
  obtain ⟨⟨⟨hpart, hle⟩, hsame⟩, hnext⟩ := h
  have hzero : part = 0 ↔ u.part = 0 := by
    rw [← hpart, ← UInt16.toNat_inj]
    rfl
  refine ⟨hpart, hpart ▸ hle, fun hne => ?_, fun hz p hp => ?_⟩
  · exact hsame.resolve_left fun h0 => hne (hzero.mp h0)
  · have hprev : (if u.previousValid then some u.previous else none) = some p := hp
    rcases hnext with (hne | hinvalid) | heq
    · exact absurd (hzero.mpr hz) hne
    · rw [hinvalid] at hprev
      cases hprev
    · split at hprev
      · rw [heq, Option.some.inj hprev]
      · cases hprev

lemma length_hear {u : State} {v : List UInt8} (hbody : u.body.length = 48) (hlen : v.length = 20)
    (hpart : u.part ≤ 2) : (u.hear v).body.length = 48 := by
  simp only [State.hear, List.length_append, List.length_take, List.length_drop]
  omega

lemma length_chunk {v : List UInt8} (h : v.length = 20) : (chunk v).length = 16 := by
  rw [chunk, List.length_drop, h]

/-- A part that is not the last of its body. -/
lemma Assembly.Holds.next {u : State} {rest : List (List UInt8)} {v : List UInt8}
    (h : u.assembly.Holds rest) (hlen : v.length = 20)
    (hc : continues u (seqOf v) (partOf v) = true) (hne : partOf v ≠ 2) :
    (u.hear v).assembly.Holds (rest ++ [v]) := by
  obtain ⟨hpart, hle, hsame, hnext⟩ := continues_spec hc
  have hprev : (u.hear v).assembly.prev = u.assembly.prev := rfl
  cases h with
  | none hzero =>
    have hzero' : u.part = 0 := hzero
    have hfirst : partOf v = 0 := by
      rw [← UInt16.toNat_inj, hpart, hzero']
      rfl
    refine .one (congrArg (· + 1) hzero') hlen hfirst (hprev ▸ hnext hzero') ?_ ?_
    · exact if_pos hfirst
    · show (u.body.take (16 * u.part) ++ chunk v ++ u.body.drop (16 * u.part + 16)).take 16 = chunk v
      rw [hzero', Nat.mul_zero, List.take_zero, List.nil_append, List.take_left' (length_chunk hlen)]
  | one hone hlen' hfirst hnext' hseq htake =>
    have hone' : u.part = 1 := hone
    have hseq' : u.sequence = seqOf _ := hseq
    have hsecond : partOf v = 1 := by
      rw [← UInt16.toNat_inj, hpart, hone']
      rfl
    have hv : seqOf v = seqOf _ := (hsame (by rw [hone']; decide)).trans hseq'
    refine .two (congrArg (· + 1) hone') ⟨hlen', hlen⟩ ⟨hfirst, hsecond⟩ (hprev ▸ hnext') ?_ hv ?_
    · refine (if_neg ?_).trans hseq'
      show ¬ partOf v = 0
      rw [hsecond]
      decide
    · have htake' : u.body.take 16 = chunk _ := htake
      show (u.body.take (16 * u.part) ++ chunk v ++ u.body.drop (16 * u.part + 16)).take 32 = _
      rw [hone', Nat.mul_one, htake', List.take_left' (by
        rw [List.length_append, length_chunk hlen', length_chunk hlen])]
  | two htwo =>
    have htwo' : u.part = 2 := htwo
    refine absurd ?_ hne
    rw [← UInt16.toNat_inj, hpart, htwo']
    rfl

/-- The last part of a body. -/
lemma Assembly.Holds.third {u : State} {rest : List (List UInt8)} {v : List UInt8}
    (h : u.assembly.Holds rest) (hbody : u.body.length = 48) (hc : continues u (seqOf v) (partOf v) = true)
    (htwo : partOf v = 2) :
    ∃ a b, rest = [a, b] ∧ (u.hear v).body = chunk a ++ chunk b ++ chunk v ∧ seqOf v = seqOf a ∧
      (trailerOk (u.hear v).body (seqOf v) = true → v.length = 20 → IsBody u.assembly.prev a b v) := by
  obtain ⟨hpart, -, hsame, -⟩ := continues_spec hc
  have hu : u.part = 2 := by
    rw [← hpart, htwo]
    rfl
  cases h with
  | none hzero => exact absurd (hzero.symm.trans hu) (by decide)
  | one hone => exact absurd (hone.symm.trans hu) (by decide)
  | @two a b _ hlen hparts hnext hseq hb htake =>
    have htake' : u.body.take 32 = chunk a ++ chunk b := htake
    have hseq' : u.sequence = seqOf a := hseq
    have hbody' : (u.hear v).body = chunk a ++ chunk b ++ chunk v := by
      show u.body.take (16 * u.part) ++ chunk v ++ u.body.drop (16 * u.part + 16) = _
      rw [hu, htake', List.drop_eq_nil_of_le (by omega), List.append_nil]
    have hv : seqOf v = seqOf a := (hsame (by rw [hu]; decide)).trans hseq'
    refine ⟨a, b, rfl, hbody', hv, fun htrailer hlenv => ?_⟩
    rw [hbody', hv] at htrailer
    exact ⟨⟨hlen.1, hlen.2, hlenv⟩, ⟨hparts.1, hparts.2, htwo⟩, ⟨hb, hv⟩, hnext, htrailer⟩

lemma inv_notifyAudio (h : Inv w) (v : List UInt8) : Inv (notifyAudio S v w) := by
  unfold notifyAudio
  split
  · exact h
  rename_i hactive
  rw [Bool.not_eq_true', Bool.not_eq_false] at hactive
  dsimp only
  split
  · -- a wrong length
    rename_i hlen
    exact inv_bad _ h.body (h.refused hactive fun a b _ hbody => hlen hbody.lengths.2.2)
  rename_i hlen
  rw [not_not] at hlen
  split
  · -- a part out of order
    rename_i hno
    refine inv_bad _ h.body (h.refused hactive fun a b hholds hbody => ?_)
    rw [show continues (w.note (.heard v)).u (get16 v 0) (get16 v 2) = true from
      continues_of_isBody hholds hbody] at hno
    cases hno
  rename_i hc
  rw [Bool.not_eq_true', Bool.not_eq_false] at hc
  have hcont : continues w.u (seqOf v) (partOf v) = true := hc
  have hle : w.u.part ≤ 2 := (continues_spec hcont).2.1
  have hbody := length_hear h.body hlen hle
  have hopened : Steady (.heard v :: w.log) → GivenUp w ∨ Live [] w := fun hs =>
    h.opened (Steady.of_append (l := [.heard v]) (by simp) hs) hactive
  split
  · -- a part before the last
    rename_i hne
    refine inv_opened hactive hbody fun hs => ?_
    rcases hopened hs with hgiven | hlive
    · exact .inl (hgiven.heard v (State.hear v) rfl rfl rfl rfl)
    · obtain ⟨heard, rest, hheard, hbodies, hholds⟩ := hlive.account.account
      refine .inr (hlive.heard v (State.hear v) rfl rfl rfl rfl
        ⟨heard, rest ++ [v], ?_, hbodies, hholds.next hlen hcont hne⟩)
      rw [hheard, List.append_assoc]
  rename_i htwo
  have htwo' : partOf v = 2 := not_not.mp htwo
  split
  · -- a wrong trailer
    rename_i htrailer
    refine inv_bad _ hbody (h.refused hactive fun a b hholds hb => ?_)
    obtain ⟨a', b', hrest, hbody', hv, -⟩ := hholds.third h.body hcont htwo'
    obtain ⟨rfl, rfl, -⟩ : a = a' ∧ b = b' ∧ True := by simpa using hrest
    have hok := hb.trailer
    rw [← hbody', ← hv] at hok
    rw [show trailerOk ((w.note (.heard v)).act (State.hear v)).u.body (get16 v 0) = true from hok]
      at htrailer
    cases htrailer
  · -- the last part makes a body, whose unit is owed from here on
    rename_i htrailer
    rw [Bool.not_eq_true', Bool.not_eq_false] at htrailer
    have htrailer' : trailerOk (w.u.hear v).body (seqOf v) = true := htrailer
    refine inv_takeUnit hactive hbody fun hs => ?_
    rcases hopened hs with hgiven | hlive
    · exact .inl (hgiven.heard v (fun u => (u.hear v).complete (seqOf v)) rfl rfl rfl rfl)
    · obtain ⟨heard, rest, hheard, hbodies, hholds⟩ := hlive.account.account
      obtain ⟨a, b, rfl, hbody', hv, hisBody⟩ := hholds.third h.body hcont htwo'
      have hunit : (w.u.hear v).body.take 40 = unitOf a b v := by rw [hbody', unitOf]
      rw [List.append_nil] at hbodies
      refine .inr (hlive.heard v (fun u => (u.hear v).complete (seqOf v)) rfl rfl rfl rfl
        ⟨heard ++ [a, b, v], [], ?_, ?_, .none rfl⟩)
      · rw [hheard, List.append_assoc, List.append_assoc]
        rfl
      · show Bodies (some (seqOf v)) _ (_ ++ (_ ++ [(w.u.hear v).body.take 40]))
        rw [hunit, hv, ← List.append_assoc]
        exact hbodies.snoc (hisBody htrailer' hlen)

lemma inv_notifyKeys (h : Inv w) (id : UInt8) (v : List UInt8) : Inv (notifyKeys S id v w) := by
  unfold notifyKeys
  split
  · exact inv_bad _ h.body h.accounted
  · exact (kept_tell rfl).inv h

lemma inv_notify (h : Inv w) (handle : UInt16) (value : Option (List UInt8)) :
    Inv (notify S handle value w) := by
  unfold notify
  split
  · exact h
  split
  · exact inv_bad _ h.body h.accounted
  split
  · exact inv_notifyHello h _
  split
  · exact inv_notifyVoiceKey h _
  split
  · exact h
  split
  · exact inv_notifyAudio h _
  split
  · split
    · exact inv_notifyKeys h _ _
    · split
      · exact inv_bad _ h.body h.accounted
      · exact h
  · split
    · exact (kept_tell rfl).inv h
    · exact h

lemma inv_run (h : Inv w) (i : Input E) (hd : w.Drains i) : Inv (i.run S w) := by
  cases i with
  | notify handle value => exact inv_notify h handle value
  | tick nowMs => exact inv_tick h nowMs hd
  | writeDone ok => exact inv_writeDone h ok
  | micStop => exact (kept_stop w).inv h
  | fail cause =>
    simp only [Input.run]
    split
    · exact h
    · exact (kept_fail cause w).inv h
  | detach =>
    have hquiet : ∀ e ∈ [Ev.detached], e.quiet = true := by
      intro e he
      obtain rfl := List.mem_singleton.mp he
      rfl
    exact inv_closed rfl (List.length_replicate ..) (h.accounted.quiet hquiet)
  | begin nowMs =>
    simp only [Input.run]
    split
    · exact (kept_act _ rfl rfl rfl rfl rfl rfl).inv h
    · exact h
  | found fd fc f8 chars batValueHandle =>
    simp only [Input.run]
    split
    · exact (kept_act _ rfl rfl rfl rfl rfl rfl).inv h
    · exact h
  | subscribed =>
    have hwait : Inv (w.act fun u => { u with phase := .wait, deadlineMs := u.nowMs + 2000 }) :=
      (kept_act _ rfl rfl rfl (by simp only [State.assembly]) rfl rfl).inv h
    simp only [Input.run]
    split
    · split
      · exact inv_becomeReady hwait
      · exact hwait
    · exact h
  | server env => exact (kept_env env).inv h

end Steps

/-- In a capture in which voice stays wanted for the session of its key, the server is told the units of the
bodies that the remote sends, in order, each of them once; those that are not told yet wait in the ring, and
after a normal end there are none.  No tick of the run ends a capture over a ring that still holds units. -/
theorem unicomRun_delivers {E : Type} (S : Surround E) (env : E) (inputs : List (Input E))
    (hdrains : DrainedRun S { u := {}, env, log := [] } inputs)
    (hsteady : Steady (unicomRun S env inputs).log)
    (hwanted : .asked true ∈ current (unicomRun S env inputs).log) :
    ∃ waiting, Delivered waiting (unicomRun S env inputs).log ∧
      ((unicomRun S env inputs).u.active = true →
        waiting = (unicomRun S env inputs).u.preroll.contents 8) := by
  have hrun : ∀ (inputs : List (Input E)) (w : World E), Inv w → DrainedRun S w inputs →
      Inv (inputs.foldl (Input.run S) w) := by
    intro inputs
    induction inputs with
    | nil => exact fun w h _ => h
    | cons i rest ih => exact fun w h hd => ih _ (inv_run h i hd.1) hd.2
  have hnew : Inv ({ u := {}, env, log := [] } : World E) := by
    refine inv_closed rfl (List.length_replicate ..) fun _ hasked => ?_
    exact absurd hasked (by simp [current])
  have hinv : Inv (unicomRun S env inputs) := hrun inputs _ hnew hdrains
  rcases hactive : (unicomRun S env inputs).u.active with _ | _
  · obtain ⟨waiting, hd⟩ := hinv.closed hactive hsteady hwanted
    exact ⟨waiting, hd, fun hno => absurd hno Bool.false_ne_true⟩
  · rcases hinv.opened hsteady hactive with hgiven | hlive
    · exact absurd hwanted hgiven.unwanted
    · exact ⟨_, hlive.delivered, fun _ => rfl⟩

/-- A server in session 1 that wants voice when told so, and a link that completes every write at once. -/
def switchedSurround : Surround Bool where
  wanted on := on
  session _ := 1
  tell _ on := (false, on)
  write _ on := (.accepted (some true), on)

/-- A notification of the voice key. -/
def voiceKeyBytes (down : UInt8) : List UInt8 := [0x82, 3, down] ++ List.replicate 17 0

/-- A part of body `number`. -/
def partBytes (number part : UInt8) (last : List UInt8) : List UInt8 :=
  [number, 0, part, 0] ++ List.replicate 10 (part + 1) ++ last

/-- The notifications of body `number`. -/
def bodyInputs (number : UInt8) : List (Input Bool) :=
  [.notify 2 (some (partBytes number 0 [1, 1, 1, 1, 1, 1])),
    .notify 2 (some (partBytes number 1 [2, 2, 9, 9, 9, 9])),
    .notify 2 (some (partBytes number 2 [number, 0, 9, 9, 9, 9]))]

/-- A press of the voice key before the host wants voice, and some bodies; voice is enabled, a tick comes ten
milliseconds after the press, the key is released, and two more ticks come. -/
def lateInputs (bodies : List (Input Bool)) : List (Input Bool) :=
  [.begin 0, .found 1 2 3 [] 4, .notify 1 (some helloBytes), .subscribed,
    .notify 3 (some (voiceKeyBytes 1))] ++
    bodies ++ [.server true, .tick 10, .notify 3 (some (voiceKeyBytes 0)), .tick 20, .tick 320]

/-- Two bodies: each of the first two ticks sends one of them, and the third finds the end due. -/
def shortCapture : List (Input Bool) := lateInputs (bodyInputs 7 ++ bodyInputs 8)

/-- Four bodies: the tick that finds the end due sends the third. -/
def longCapture : List (Input Bool) :=
  lateInputs (bodyInputs 7 ++ bodyInputs 8 ++ bodyInputs 9 ++ bodyInputs 10)

theorem unicomRun_delivers_short :
    (∃ waiting, Delivered waiting (unicomRun switchedSurround false shortCapture).log ∧
      ((unicomRun switchedSurround false shortCapture).u.active = true →
        waiting = (unicomRun switchedSurround false shortCapture).u.preroll.contents 8)) ∧
      (sentOf (current (unicomRun switchedSurround false shortCapture).log)).length = 2 ∧
      .told (.voice (.ended .normal)) ∈ current (unicomRun switchedSurround false shortCapture).log := by
  have hrun : DrainedRun switchedSurround { u := {}, env := false, log := [] } shortCapture ∧
      Steady (unicomRun switchedSurround false shortCapture).log ∧
      .asked true ∈ current (unicomRun switchedSurround false shortCapture).log ∧
      (sentOf (current (unicomRun switchedSurround false shortCapture).log)).length = 2 ∧
      .told (.voice (.ended .normal)) ∈ current (unicomRun switchedSurround false shortCapture).log := by
    decide +kernel
  obtain ⟨hdrains, hsteady, hwanted, hsent, hend⟩ := hrun
  exact ⟨unicomRun_delivers switchedSurround false shortCapture hdrains hsteady hwanted, hsent, hend⟩

/-- A body has three notifications and one unit. -/
lemma Bodies.length {prev : Option UInt16} {heard units : List (List UInt8)} (h : Bodies prev heard units) :
    heard.length = 3 * units.length := by
  induction h with
  | nil => rfl
  | snoc h hbody ih =>
    simp only [List.length_append, List.length_cons, List.length_nil, ih]
    omega

/-- A capture that ended normally has told one unit for every three notifications. -/
lemma Delivered.length {waiting : List (List UInt8)} {log : List Ev} (h : Delivered waiting log)
    (hend : .told (.voice (.ended .normal)) ∈ current log) :
    (heardOf (current log)).length = 3 * (sentOf (current log)).length := by
  obtain ⟨prev, heard, rest, hheard, hbodies, -, -, hnormal⟩ := h
  obtain ⟨rfl, rfl⟩ := hnormal hend
  rw [List.append_nil] at hheard hbodies
  rw [hheard]
  exact hbodies.length

/-- Voice stays wanted once it is, the capture ends as a normal one, and of its four bodies three are told. -/
theorem unicomRun_not_delivers_long :
    Steady (unicomRun switchedSurround false longCapture).log ∧
      .asked true ∈ current (unicomRun switchedSurround false longCapture).log ∧
      .told (.voice (.ended .normal)) ∈ current (unicomRun switchedSurround false longCapture).log ∧
      ¬ ∃ waiting, Delivered waiting (unicomRun switchedSurround false longCapture).log := by
  have hrun : Steady (unicomRun switchedSurround false longCapture).log ∧
      .asked true ∈ current (unicomRun switchedSurround false longCapture).log ∧
      .told (.voice (.ended .normal)) ∈ current (unicomRun switchedSurround false longCapture).log ∧
      (heardOf (current (unicomRun switchedSurround false longCapture).log)).length = 12 ∧
      (sentOf (current (unicomRun switchedSurround false longCapture).log)).length = 3 := by
    decide +kernel
  obtain ⟨hsteady, hwanted, hend, hheard, hsent⟩ := hrun
  refine ⟨hsteady, hwanted, hend, ?_⟩
  rintro ⟨waiting, hd⟩
  have hlength := hd.length hend
  rw [hheard, hsent] at hlength
  cases hlength

end RemoteBridge.Unicom
