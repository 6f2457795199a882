import RemoteBridge.Adapters.UnicomServer
import RemoteBridge.Properties.UnicomDelivery

/-!
# The voice events of the Unicom remote

The server hears captures: a source begins, perhaps starts and sends units, and ends, unless the link
goes first (`Trace`).  Before each unit the adapter has asked for the session that captures, and has found
that of the key; between the question and the unit it only announced the source and its stream (`Behind`).

The server may give its session up when it is told of the stream, and is then told the unit all the same.
It never takes another session up, so no unit goes to a session that is not that of its key.

## The server behind the fence

The adapter is followed with any server that answers it (`Surround`), and the answers it got are noted in
the log.  The last part puts the real server behind it, with any backend, and says what the fence is good
for: at the moment of a unit the session of the server is the one of the key, or there is none
(`Site.Fenced`).  Two facts about the server are used, that a call from the adapter does not open a session,
and that the answer to the question is the session it has at that moment.

## What is not said

The bytes of the units are the subject of `UnicomDelivery`.  The server drops a unit that it is told without
a stream, and this happens exactly when it has given the session up in between; nothing is said of how it
counts such a unit.
-/

namespace RemoteBridge.Unicom

/-! ## Statement -/

/-- Where the voice events of a capture stand. -/
inductive Stage where
  | idle
  | begun
  | streaming
  deriving DecidableEq, Repr

/-- The event is no voice event and not the end of the link. -/
def Ev.voiceless : Ev → Bool
  | .told (.voice _) => false
  | .detached => false
  | _ => true

/-- The voice events of a log, and where they stand. -/
inductive Trace : List Ev → Stage → Prop
  | nil : Trace [] .idle
  | begin {log} (h : Trace log .idle) : Trace (.told (.voice .sourceBegin) :: log) .begun
  | start {log} (h : Trace log .begun) : Trace (.told (.voice .start) :: log) .streaming
  | encoded {log p} (h : Trace log .streaming) : Trace (.told (.voice (.encoded p)) :: log) .streaming
  | ended {log stage reason} (h : Trace log stage) (hne : stage ≠ .idle) :
      Trace (.told (.voice (.ended reason)) :: log) .idle
  | detached {log stage} (h : Trace log stage) : Trace (.detached :: log) .idle
  | other {log stage e} (h : Trace log stage) (hv : Ev.voiceless e = true) : Trace (e :: log) stage

/-- The session that the voice key found when it last went down. -/
def keySession : List Ev → UInt32
  | [] => 0
  | .keyDown session :: _ => session
  | _ :: log => keySession log

section Servers

variable {E : Type}

/-- The surroundings after the server is told of these voice events. -/
def Surround.after (S : Surround E) (told : List VoiceMsg) (env : E) : E :=
  told.foldl (fun env e => (S.tell (.voice e) env).2) env

/-- The server has answered that it wants voice and that it captures for the session of the key; since
then it was told of the source and of the stream at most. -/
def Behind (S : Surround E) (key : UInt32) (env : E) : Prop :=
  ∃ first told, S.wanted first = true ∧ S.session first = key ∧ key ≠ 0 ∧
    told.Sublist [.sourceBegin, .start] ∧ env = S.after told first

/-- The event is a unit. -/
def Ev.isUnit : Ev → Bool
  | .told t => t.isUnit
  | _ => false

/-- Each unit finds the surroundings as they should be for the session of its key. -/
inductive Sent (ok : UInt32 → E → Prop) : List Ev → List E → Prop
  | nil : Sent ok [] []
  | unit {log envs p env} (h : Sent ok log envs) (hok : ok (keySession log) env) :
      Sent ok (.told (.voice (.encoded p)) :: log) (env :: envs)
  | other {log envs e} (h : Sent ok log envs) (he : Ev.isUnit e = false) : Sent ok (e :: log) envs

end Servers

/-- Where the adapter stands. -/
def State.stage (u : State) : Stage :=
  if u.announced then if u.started then .streaming else .begun else .idle

/-! ## Logs -/

section Logs

variable {E : Type} {ok ok' : UInt32 → E → Prop} {log l : List Ev} {envs : List E} {e : Ev} {stage : Stage}

lemma Sent.imp (h : Sent ok log envs) (himp : ∀ key env, ok key env → ok' key env) : Sent ok' log envs := by
  induction h with
  | nil => exact .nil
  | unit _ hok ih => exact ih.unit (himp _ _ hok)
  | other _ he ih => exact ih.other he

lemma Sent.exists_key (h : Sent ok log envs) : ∀ env ∈ envs, ∃ key, ok key env := by
  induction h with
  | nil => simp
  | unit _ hok ih =>
    intro env henv
    rcases List.mem_cons.mp henv with rfl | henv
    · exact ⟨_, hok⟩
    · exact ih env henv
  | other _ _ ih => exact ih

/-- The event is neither a voice event nor the end of the link, and no press of the voice key. -/
def Ev.plain : Ev → Bool
  | .told (.voice _) => false
  | .detached => false
  | .keyDown _ => false
  | _ => true

lemma Ev.voiceless_of_plain (h : e.plain = true) : e.voiceless = true := by
  cases e with
  | told t =>
    cases t with
    | voice v => cases h
    | _ => rfl
  | detached => cases h
  | _ => rfl

lemma Ev.not_isUnit_of_plain (h : e.plain = true) : e.isUnit = false := by
  cases e with
  | told t =>
    cases t with
    | voice v => cases h
    | _ => rfl
  | _ => rfl

lemma trace_plain (hl : ∀ e ∈ l, e.plain = true) (h : Trace log stage) : Trace (l ++ log) stage := by
  induction l with
  | nil => exact h
  | cons e l ih =>
    exact (ih fun e' he' => hl e' (List.mem_cons_of_mem _ he')).other
      (Ev.voiceless_of_plain (hl e List.mem_cons_self))

lemma sent_plain (hl : ∀ e ∈ l, e.plain = true) (h : Sent ok log envs) : Sent ok (l ++ log) envs := by
  induction l with
  | nil => exact h
  | cons e l ih =>
    exact (ih fun e' he' => hl e' (List.mem_cons_of_mem _ he')).other
      (Ev.not_isUnit_of_plain (hl e List.mem_cons_self))

lemma keySession_plain (hl : ∀ e ∈ l, e.plain = true) : keySession (l ++ log) = keySession log := by
  induction l with
  | nil => rfl
  | cons e l ih =>
    have hrest := ih fun e' he' => hl e' (List.mem_cons_of_mem _ he')
    have hhead := hl e List.mem_cons_self
    cases e with
    | keyDown s => cases hhead
    | _ => exact hrest

end Logs

/-! ## The invariant -/

/-- The trace stands where the adapter stands, and the adapter knows the session of the key. -/
structure Guards {E : Type} (S : Surround E) (w : World E) : Prop where
  trace : Trace w.log w.u.stage
  sent : Sent (Behind S) w.log w.servers
  announced : w.u.announced = true → w.u.active = true
  started : w.u.started = true → w.u.announced = true
  owner : w.u.pendingVoice = true ∨ w.u.active = true →
    keySession w.log = w.u.captureSession ∧ w.u.captureSession ≠ 0

section Steps

variable {E : Type} {S : Surround E} {w w' w'' : World E}

/-- A step that tells the server nothing about voice. -/
structure Calm (w w' : World E) : Prop where
  active : w'.u.active = w.u.active
  announced : w'.u.announced = w.u.announced
  started : w'.u.started = w.u.started
  pending : w'.u.pendingVoice = true → w.u.pendingVoice = true
  session : w'.u.captureSession = w.u.captureSession
  servers : w'.servers = w.servers
  log : ∃ l, (∀ e ∈ l, e.plain = true) ∧ w'.log = l ++ w.log

lemma Calm.refl (w : World E) : Calm w w := ⟨rfl, rfl, rfl, id, rfl, rfl, [], by simp, rfl⟩

lemma Calm.trans (h : Calm w w') (h' : Calm w' w'') : Calm w w'' := by
  obtain ⟨l, hl, hlog⟩ := h.log
  obtain ⟨l', hl', hlog'⟩ := h'.log
  refine ⟨h'.active.trans h.active, h'.announced.trans h.announced, h'.started.trans h.started,
    h.pending ∘ h'.pending, h'.session.trans h.session, h'.servers.trans h.servers, l' ++ l, ?_, ?_⟩
  · intro e he
    rcases List.mem_append.mp he with he | he
    · exact hl' e he
    · exact hl e he
  · rw [hlog', hlog, List.append_assoc]

lemma Calm.stage (h : Calm w w') : w'.u.stage = w.u.stage := by
  unfold State.stage
  rw [h.announced, h.started]

lemma Calm.guards (h : Calm w w') (hg : Guards S w) : Guards S w' := by
  obtain ⟨l, hl, hlog⟩ := h.log
  refine ⟨?_, ?_, ?_, ?_, ?_⟩
  · rw [hlog, h.stage]
    exact trace_plain hl hg.trace
  · rw [hlog, h.servers]
    exact sent_plain hl hg.sent
  · rw [h.announced, h.active]
    exact hg.announced
  · rw [h.started, h.announced]
    exact hg.started
  · intro hor
    rw [hlog, keySession_plain hl, h.session]
    refine hg.owner ?_
    rcases hor with hp | ha
    · exact Or.inl (h.pending hp)
    · exact Or.inr (h.active ▸ ha)

lemma calm_act (f : State → State) (hactive : (f w.u).active = w.u.active)
    (hannounced : (f w.u).announced = w.u.announced) (hstarted : (f w.u).started = w.u.started)
    (hpending : (f w.u).pendingVoice = true → w.u.pendingVoice = true)
    (hsession : (f w.u).captureSession = w.u.captureSession) : Calm w (w.act f) :=
  ⟨hactive, hannounced, hstarted, hpending, hsession, rfl, [], by simp, rfl⟩

lemma calm_note {e : Ev} (h : e.plain = true) : Calm w (w.note e) :=
  ⟨rfl, rfl, rfl, id, rfl, rfl, [e], by simpa using h, rfl⟩

lemma calm_env (env : E) : Calm w { w with env } := ⟨rfl, rfl, rfl, id, rfl, rfl, [], by simp, rfl⟩

lemma calm_stop (w : World E) : Calm w (stop w) := by
  unfold stop
  split
  · exact .refl w
  · unfold World.act
    dsimp only
    split
    · exact ⟨rfl, rfl, rfl, id, rfl, rfl, [], by simp, rfl⟩
    · exact ⟨rfl, rfl, rfl, id, rfl, rfl, [], by simp, rfl⟩

lemma calm_prerollCancel (w : World E) : Calm w (prerollCancel w) := by
  have hempty : Calm w (w.act fun u => { u with preroll := u.preroll.setLen 0 }) :=
    calm_act _ rfl rfl rfl id rfl
  exact hempty.trans (calm_stop _)

lemma calm_askWanted (w : World E) : Calm w (w.askWanted S).2 := calm_note rfl

lemma calm_askSession (w : World E) : Calm w (w.askSession S).2 := calm_note rfl

/-- The server is called with a message that is on its way. -/
lemma calm_told (t : Told) (w : World E) : Calm (w.told t) (tell S t w) := by
  have henv : Calm (w.told t) { w.told t with env := (S.tell t w.env).2 } := calm_env _
  unfold tell
  dsimp only
  split
  · exact henv.trans (calm_stop _)
  · exact henv

lemma calm_tell {t : Told} (h : (Ev.told t).plain = true) : Calm w (tell S t w) := by
  have hunit : t.isUnit = false := Ev.not_isUnit_of_plain h
  have htold : Calm w (w.told t) := by
    refine ⟨rfl, rfl, rfl, id, rfl, ?_, [.told t], by simpa using h, rfl⟩
    simp only [World.told, hunit, Bool.false_eq_true, if_false]
  exact htold.trans (calm_told t w)

lemma env_tell (t : Told) (w : World E) : (tell S t w).env = (S.tell t w.env).2 := by
  unfold tell stop
  dsimp only
  split
  · split <;> rfl
  · rfl

/-! ## Voice events -/

lemma guards_finish (reason : EndReason) (hg : Guards S w) : Guards S (finish S reason w) := by
  rw [finish_eq]
  split
  · rename_i hannounced
    refine (calm_told _ _).guards ⟨?_, ?_, by simp [World.told, World.act, State.over],
      by simp [World.told, World.act, State.over], ?_⟩
    · refine hg.trace.ended ?_
      unfold State.stage
      rw [if_pos hannounced]
      split <;> simp
    · exact hg.sent.other rfl
    · intro hor
      rcases hor with hp | ha
      · exact hg.owner (Or.inl hp)
      · cases ha
  · rename_i hannounced
    refine ⟨?_, hg.sent, by simp [World.act, State.over], by simp [World.act, State.over], ?_⟩
    · have hidle : w.u.stage = .idle := if_neg hannounced
      have htrace := hg.trace
      rw [hidle] at htrace
      exact htrace
    · intro hor
      rcases hor with hp | ha
      · exact hg.owner (Or.inl hp)
      · cases ha

lemma guards_bad (why : String) (hg : Guards S w) : Guards S (bad S why w) :=
  ((calm_act (fun u => { u with phase := .failed }) rfl rfl rfl id rfl).trans (calm_tell rfl)).guards
    (guards_finish .sourceDataLost hg)

lemma guards_announce (hg : Guards S w) (hactive : w.u.active = true) (hno : w.u.announced = false) :
    Guards S (announce S w) := by
  have hstarted : w.u.started = false := by
    rcases hs : w.u.started with _ | _
    · rfl
    · exact absurd (hg.started hs) (by rw [hno]; simp)
  have hidle : w.u.stage = .idle := if_neg (by rw [hno]; simp)
  have hbegun : State.stage { w.u with announced := true } = .begun := by
    unfold State.stage
    simp only [if_true, hstarted, Bool.false_eq_true, if_false]
  refine (calm_told _ _).guards ⟨?_, hg.sent.other rfl, fun _ => hactive, fun _ => rfl, hg.owner⟩
  show Trace (_ :: w.log) (State.stage { w.u with announced := true })
  rw [hbegun]
  exact .begin (hidle ▸ hg.trace)

/-- The source is announced at this point of `unicom_emit`. -/
lemma guards_announced (hg : Guards S w) (hactive : w.u.active = true) :
    Guards S (if w.u.announced then w else announce S w) ∧
      (if w.u.announced then w else announce S w).u.announced = true ∧
      (if w.u.announced then w else announce S w).u.active = true ∧
      (if w.u.announced then w else announce S w).u.captureSession = w.u.captureSession ∧
      ∃ announced : Bool, (if w.u.announced then w else announce S w).env =
        S.after (if announced then [] else [.sourceBegin]) w.env := by
  split
  · rename_i hann
    exact ⟨hg, hann, hactive, rfl, true, rfl⟩
  · rename_i hann
    exact ⟨guards_announce hg hactive (by simpa using hann), (calm_told _ _).announced,
      (calm_told _ _).active.trans hactive, (calm_told _ _).session, false, env_tell _ _⟩

/-- The stream is started at this point of `unicom_emit`. -/
lemma guards_started (hg : Guards S w) (hactive : w.u.active = true) (hann : w.u.announced = true) :
    Guards S (if w.u.started then w else tell S (.voice .start) (w.act fun u => { u with started := true })) ∧
      (if w.u.started then w
        else tell S (.voice .start) (w.act fun u => { u with started := true })).u.stage = .streaming ∧
      (if w.u.started then w
        else tell S (.voice .start) (w.act fun u => { u with started := true })).u.active = true ∧
      (if w.u.started then w
        else tell S (.voice .start) (w.act fun u => { u with started := true })).u.captureSession =
          w.u.captureSession ∧
      ∃ started : Bool, (if w.u.started then w
        else tell S (.voice .start) (w.act fun u => { u with started := true })).env =
        S.after (if started then [] else [.start]) w.env := by
  split
  · rename_i hstarted
    refine ⟨hg, ?_, hactive, rfl, true, rfl⟩
    unfold State.stage
    rw [if_pos hann, if_pos hstarted]
  · rename_i hstarted
    have hbegun : w.u.stage = .begun := by
      unfold State.stage
      rw [if_pos hann, if_neg hstarted]
    have hstreaming : State.stage { w.u with started := true } = .streaming := by
      unfold State.stage
      simp only [hann, if_true]
    have hcalm := calm_told (S := S) (.voice .start) (w.act fun u => { u with started := true })
    refine ⟨hcalm.guards ⟨?_, hg.sent.other rfl, hg.announced, fun _ => hann, hg.owner⟩,
      hcalm.stage.trans hstreaming, hcalm.active.trans hactive, hcalm.session, false,
      env_tell _ _⟩
    show Trace (_ :: w.log) (State.stage { w.u with started := true })
    rw [hstreaming]
    exact .start (hbegun ▸ hg.trace)

/-- What `unicom_emit` tells the server before a unit. -/
lemma heralds_sublist (announced started : Bool) :
    ((if announced then [] else [VoiceMsg.sourceBegin]) ++ (if started then [] else [VoiceMsg.start])).Sublist
      [.sourceBegin, .start] := by
  cases announced <;> cases started <;> decide

lemma guards_emit (p : List UInt8) (hg : Guards S w) (hactive : w.u.active = true) :
    Guards S (emit S p w).2 ∧ (emit S p w).2.u.active = true := by
  unfold emit
  dsimp only
  have hwanted : Calm w (w.askWanted S).2 := calm_askWanted w
  have hsession : Calm w ((w.askWanted S).2.askSession S).2 := hwanted.trans (calm_askSession _)
  split
  · exact ⟨hwanted.guards hg, hwanted.active.trans hactive⟩
  rename_i hask
  split
  · exact ⟨hsession.guards hg, hsession.active.trans hactive⟩
  rename_i howner
  split
  · exact ⟨hsession.guards hg, hsession.active.trans hactive⟩
  obtain ⟨hkey, hne⟩ := hg.owner (Or.inr hactive)
  have hwants : S.wanted w.env = true := by
    by_contra hno
    exact hask (by simpa [World.askWanted] using hno)
  have hasked : S.session w.env = w.u.captureSession := not_not.mp howner
  obtain ⟨hg₁, hann₁, hactive₁, hsame₁, announced, henv₁⟩ :=
    guards_announced (S := S) (hsession.guards hg) (hsession.active.trans hactive)
  obtain ⟨hg₂, hstage₂, hactive₂, hsame₂, started, henv₂⟩ := guards_started (S := S) hg₁ hactive₁ hann₁
  have hbehind : ∀ w' : World E, keySession w'.log = w'.u.captureSession →
      w'.u.captureSession = w.u.captureSession →
      (∃ announced started : Bool, w'.env = S.after (if started then [] else [.start])
        (S.after (if announced then [] else [.sourceBegin]) w.env)) → Behind S (keySession w'.log) w'.env := by
    rintro w' hkey' hsame' ⟨announced, started, henv'⟩
    refine ⟨w.env, _, hwants, ?_, ?_, heralds_sublist announced started, ?_⟩
    · rw [hkey', hsame', hasked]
    · rw [hkey', hsame']
      exact hne
    · rw [henv']
      exact (List.foldl_append ..).symm
  refine ⟨(calm_told _ _).guards ⟨?_, ?_, hg₂.announced, hg₂.started, hg₂.owner⟩,
    (calm_told _ _).active.trans hactive₂⟩
  · refine hstage₂ ▸ Trace.encoded ?_
    exact hstage₂ ▸ hg₂.trace
  · refine hg₂.sent.unit (hbehind _ (hg₂.owner (Or.inr hactive₂)).1 (hsame₂.trans hsame₁) ?_)
    exact ⟨announced, started, henv₂.trans (congrArg (S.after _) henv₁)⟩

/-! ## Captures and ticks -/

lemma guards_storeUnit (p : List UInt8) (hg : Guards S w) : Guards S (storeUnit S p w) := by
  unfold storeUnit
  split
  · split
    · exact guards_bad _ hg
    · exact (calm_prerollCancel w).guards hg
  · exact (calm_act _ rfl rfl rfl id rfl).guards hg

lemma guards_keepUnit (p : List UInt8) (hg : Guards S w) : Guards S (keepUnit S p w) := by
  have hwanted : Guards S (w.askWanted S).2 := (calm_askWanted w).guards hg
  unfold keepUnit
  dsimp only
  split
  · split
    · exact guards_storeUnit p hwanted
    · exact (calm_stop _).guards hwanted
  · exact guards_storeUnit p hg

lemma guards_takeUnit (p : List UInt8) (hg : Guards S w) (hactive : w.u.active = true) :
    Guards S (takeUnit S p w) := by
  have hsession : Calm w (w.askSession S).2 := calm_askSession w
  obtain ⟨hemit, -⟩ := guards_emit (S := S) p (hsession.guards hg) (hsession.active.trans hactive)
  unfold takeUnit
  split
  · exact hg
  dsimp only
  split
  · exact (hsession.trans (calm_prerollCancel _)).guards hg
  split
  · split
    · exact hemit
    · exact guards_keepUnit p hemit
  · exact guards_keepUnit p (hsession.guards hg)

lemma calm_tickOwner (w : World E) : Calm w (tickOwner S w) := by
  have hsession : Calm w (w.askSession S).2 := calm_askSession w
  unfold tickOwner
  dsimp only
  split
  · exact hsession.trans (calm_prerollCancel _)
  split
  · have hwanted := hsession.trans (calm_askWanted (S := S) _)
    split
    · exact hwanted
    · exact hwanted.trans (calm_prerollCancel _)
  · exact hsession

lemma calm_tickPreroll (w : World E) : Calm w (tickPreroll w) := by
  unfold tickPreroll
  split
  · exact calm_prerollCancel w
  · exact .refl w

lemma guards_tickAnnounce (hg : Guards S w) (hactive : w.u.active = true) : Guards S (tickAnnounce S w) := by
  have hwanted : Calm w (w.askWanted S).2 := calm_askWanted w
  unfold tickAnnounce
  split
  · rename_i hno
    dsimp only
    split
    · refine guards_announce (hwanted.guards hg) (hwanted.active.trans hactive) ?_
      simp only [Bool.and_eq_true, Bool.not_eq_true'] at hno
      exact hno.1
    · exact hwanted.guards hg
  · exact hg

lemma guards_drainOne (hg : Guards S w) (hactive : w.u.active = true) : Guards S (drainOne S w) := by
  obtain ⟨hemit, -⟩ := guards_emit (S := S) (w.u.preroll.mem w.u.preroll.head) hg hactive
  unfold drainOne
  split
  · exact hg
  · dsimp only
    split
    · exact (calm_act _ rfl rfl rfl id rfl).guards hemit
    · exact hemit

lemma guards_tickCapture (hg : Guards S w) : Guards S (tickCapture S w) := by
  unfold tickCapture
  split
  · rename_i hactive
    have howner : (tickOwner S w).u.active = true := (calm_tickOwner w).active.trans hactive
    refine guards_drainOne
      ((calm_tickPreroll _).guards (guards_tickAnnounce ((calm_tickOwner w).guards hg) howner)) ?_
    exact (calm_tickPreroll _).active.trans ((active_tickAnnounce _).trans howner)
  · exact hg

lemma guards_writeDone (hg : Guards S w) (ok : Bool) : Guards S (writeDone S ok w) := by
  unfold writeDone
  split
  · split
    · exact (calm_act _ rfl rfl rfl id rfl).guards hg
    · exact guards_bad _ hg
  · exact hg

lemma guards_tickCommand (hg : Guards S w) : Guards S (tickCommand S w) := by
  unfold tickCommand
  split
  · exact hg
  dsimp only
  generalize S.write _ _ = r
  have hsubmit : Guards S { w.act fun u =>
      { u with inFlight := w.u.command, command := 0, commandDeadline := u.nowMs + 30000 } with env := r.2 } :=
    (calm_env r.2).guards ((calm_act _ rfl rfl rfl id rfl).guards hg)
  split
  · exact (calm_act _ rfl rfl rfl id rfl).guards hsubmit
  · exact guards_bad _ ((calm_act _ rfl rfl rfl id rfl).guards hsubmit)
  · rename_i completion _
    have hdone : ∀ w' : World E, Guards S w' → Guards S (completion.elim w' fun ok => writeDone S ok w') := by
      intro w' h'
      cases completion with
      | none => exact h'
      | some ok => exact guards_writeDone h' ok
    have hafter := hdone _ hsubmit
    split
    · exact (calm_act _ rfl rfl rfl id rfl).guards hafter
    · exact hafter

lemma guards_tickRest (hg : Guards S w) : Guards S (tickRest S w) := by
  unfold tickRest
  split
  · exact guards_bad _ hg
  split
  · split
    · exact guards_bad _ hg
    · exact hg
  split
  · exact guards_finish _ hg
  split
  · exact guards_bad _ hg
  refine guards_tickCommand ?_
  split
  · exact (calm_act _ rfl rfl rfl id rfl).guards hg
  · exact hg

/-- A capture opens for the session of its key, which the adapter has just asked for. -/
lemma guards_startPending (hg : Guards S w) : Guards S (startPending S w) := by
  unfold startPending
  split
  · exact hg
  rename_i hopen
  simp only [Bool.or_eq_true, Bool.not_eq_true', not_or, Bool.not_eq_false, Bool.not_eq_true] at hopen
  obtain ⟨⟨⟨⟨hpending, -⟩, -⟩, -⟩, hactive⟩ := hopen
  obtain ⟨hkey, hne⟩ := hg.owner (Or.inl hpending)
  have hann : w.u.announced = false := by
    rcases ha : w.u.announced with _ | _
    · rfl
    · exact absurd (hg.announced ha) (by rw [hactive]; simp)
  have hidle : w.u.stage = .idle := if_neg (by rw [hann]; simp)
  have htrace := hg.trace
  rw [hidle] at htrace
  dsimp only
  split
  · exact (Calm.trans (calm_askSession w) (calm_act _ rfl rfl rfl (by simp) rfl)).guards hg
  · have hasked : Trace (.asked (S.wanted w.env) :: .opened w.u.captureSession ::
        .owner (S.session w.env) :: w.log) .idle :=
      ((htrace.other rfl).other rfl).other rfl
    have hsent : Sent (Behind S) (.asked (S.wanted w.env) :: .opened w.u.captureSession ::
        .owner (S.session w.env) :: w.log) w.servers :=
      ((hg.sent.other rfl).other rfl).other rfl
    split
    · rename_i hwanted
      have hyes : S.wanted w.env = true := hwanted
      refine (calm_told _ _).guards ⟨?_, hsent.other rfl, fun _ => rfl, fun h => ?_, fun _ => ⟨hkey, hne⟩⟩
      · have hbegun : ∀ u : State, u.announced = true → u.started = false → u.stage = .begun := by
          intro u ha hs
          unfold State.stage
          rw [if_pos ha, if_neg (by rw [hs]; simp)]
        refine Eq.mpr (congrArg (Trace _) (hbegun _ hyes rfl)) ?_
        exact .begin hasked
      · cases h
    · rename_i hwanted
      have hno : ¬ S.wanted w.env = true := hwanted
      refine ⟨?_, hsent, fun _ => rfl, fun h => ?_, fun _ => ⟨hkey, hne⟩⟩
      · exact Eq.mpr (congrArg (Trace _) (if_neg hno)) hasked
      · cases h

lemma guards_becomeReady (hg : Guards S w) : Guards S (becomeReady S w) :=
  (calm_tell rfl).guards ((calm_act _ rfl rfl rfl id rfl).guards hg)

lemma guards_tick (hg : Guards S w) (nowMs : UInt32) : Guards S (tick S nowMs w) := by
  have hnow : Guards S (w.act fun u => { u with nowMs }) := (calm_act _ rfl rfl rfl id rfl).guards hg
  unfold tick
  dsimp only
  split
  · split
    · exact guards_becomeReady hnow
    · exact hnow
  · split
    · exact guards_tickRest (guards_tickCapture (guards_startPending hnow))
    · exact hnow
  · exact hnow

/-! ## Notifications -/

lemma guards_notifyHello (hg : Guards S w) (v : List UInt8) : Guards S (notifyHello S v w) := by
  have hhello : Guards S (w.act fun u => { u with hello := true }) := (calm_act _ rfl rfl rfl id rfl).guards hg
  unfold notifyHello
  split
  · exact guards_bad _ hg
  · dsimp only
    split
    · exact guards_becomeReady hhello
    · exact hhello

/-- The key goes down while no capture is open: the session it finds is the one of the next capture. -/
lemma Guards.keyed (hg : Guards S w) (hactive : w.u.active = false) (session : UInt32) :
    Guards S ((w.act fun u => { u with captureSession := session, pendingVoice := session != 0 }).note
      (.keyDown session)) := by
  refine ⟨hg.trace.other rfl, hg.sent.other rfl, hg.announced, hg.started, fun hor => ⟨rfl, ?_⟩⟩
  rcases hor with hp | ha
  · exact bne_iff_ne.mp hp
  · exact absurd (hactive.symm.trans ha) (by simp)

lemma guards_notifyVoiceKey (hg : Guards S w) (v : List UInt8) : Guards S (notifyVoiceKey S v w) := by
  have hdown : ∀ down, Guards S (w.act fun u => { u with down }) := fun down =>
    (calm_act _ rfl rfl rfl id rfl).guards hg
  unfold notifyVoiceKey
  split
  · exact guards_bad _ hg
  dsimp only
  split
  · have hreleased : Guards S ((w.act fun u => { u with down := v.getD 2 0 != 0 }).act fun u =>
        { u with pendingVoice := false }) := (calm_act _ rfl rfl rfl (by simp) rfl).guards (hdown _)
    exact (calm_stop _).guards hreleased
  refine guards_startPending ?_
  split
  · rename_i hedge
    have hactive : w.u.active = false := by
      simp only [Bool.and_eq_true, Bool.not_eq_true'] at hedge
      exact hedge.2
    have hasked : Guards S ((w.act fun u => { u with down := v.getD 2 0 != 0 }).askSession S).2 :=
      (calm_askSession _).guards (hdown _)
    exact hasked.keyed hactive _
  · exact hdown _

lemma guards_notifyAudio (hg : Guards S w) (v : List UInt8) : Guards S (notifyAudio S v w) := by
  have hheard : Guards S (w.note (.heard v)) := (calm_note rfl).guards hg
  have hpart : Guards S ((w.note (.heard v)).act (State.hear v)) := (calm_act _ rfl rfl rfl id rfl).guards hheard
  unfold notifyAudio
  split
  · exact hg
  rename_i hactive
  rw [Bool.not_eq_true', Bool.not_eq_false] at hactive
  dsimp only
  split
  · exact guards_bad _ hheard
  split
  · exact guards_bad _ hheard
  split
  · exact hpart
  split
  · exact guards_bad _ hpart
  · exact guards_takeUnit _ ((calm_act _ rfl rfl rfl id rfl).guards hpart) hactive

lemma guards_notify (hg : Guards S w) (handle : UInt16) (value : Option (List UInt8)) :
    Guards S (notify S handle value w) := by
  unfold notify
  split
  · exact hg
  split
  · exact guards_bad _ hg
  split
  · exact guards_notifyHello hg _
  split
  · exact guards_notifyVoiceKey hg _
  split
  · exact hg
  split
  · exact guards_notifyAudio hg _
  split
  · split
    · unfold notifyKeys
      split
      · exact guards_bad _ hg
      · exact (calm_tell rfl).guards hg
    · split
      · exact guards_bad _ hg
      · exact hg
  · split
    · exact (calm_tell rfl).guards hg
    · exact hg

lemma guards_run (hg : Guards S w) (i : Input E) : Guards S (i.run S w) := by
  cases i with
  | notify handle value => exact guards_notify hg handle value
  | tick nowMs => exact guards_tick hg nowMs
  | writeDone ok => exact guards_writeDone hg ok
  | micStop => exact (calm_stop w).guards hg
  | fail cause =>
    simp only [Input.run]
    split
    · exact hg
    · exact ((calm_act (fun u => { u with phase := .failed }) rfl rfl rfl id rfl).trans (calm_tell rfl)).guards hg
  | detach =>
    refine ⟨hg.trace.detached, hg.sent.other rfl, by simp [Input.run, World.act, World.note],
      by simp [Input.run, World.act, World.note], ?_⟩
    intro hor
    rcases hor with hp | ha
    · cases hp
    · cases ha
  | begin nowMs =>
    simp only [Input.run]
    split
    · exact (calm_act _ rfl rfl rfl id rfl).guards hg
    · exact hg
  | found fd fc f8 chars batValueHandle =>
    simp only [Input.run]
    split
    · exact (calm_act _ rfl rfl rfl id rfl).guards hg
    · exact hg
  | subscribed =>
    have hwait : Guards S (w.act fun u => { u with phase := .wait, deadlineMs := u.nowMs + 2000 }) :=
      (calm_act _ rfl rfl rfl id rfl).guards hg
    simp only [Input.run]
    split
    · split
      · exact guards_becomeReady hwait
      · exact hwait
    · exact hg
  | server env => exact (calm_env env).guards hg

lemma guards_unicomRun (S : Surround E) (env : E) (inputs : List (Input E)) :
    Guards S (unicomRun S env inputs) := by
  have hrun : ∀ (inputs : List (Input E)) (w : World E), Guards S w → Guards S (inputs.foldl (Input.run S) w) := by
    intro inputs
    induction inputs with
    | nil => exact fun w h => h
    | cons i rest ih => exact fun w h => ih _ (guards_run h i)
  refine hrun inputs _ ⟨.nil, .nil, by simp, by simp, ?_⟩
  rintro (h | h) <;> cases h

end Steps

/-! ## The server behind the fence -/

section Server

variable {E : Type} {site : Site E} {key : UInt32}

/-- Voice messages open no session. -/
lemma sessionId_after (hP : Backend site.build site.platform) (told : List VoiceMsg)
    {w : RemoteBridge.World E} (h : w.srv.session.id = key ∨ w.srv.session.id = 0) :
    (site.surround.after told w).srv.session.id = key ∨ (site.surround.after told w).srv.session.id = 0 := by
  induction told generalizing w with
  | nil => exact h
  | cons e told ih =>
    refine ih (w := site.serve (.voice e) w) ?_
    rcases (site.moves_serve hP e w).sessionId with heq | hzero
    · rw [heq]
      exact h
    · exact Or.inr hzero

/-- Behind the fence the server captures for the session of the key, or not at all. -/
lemma Behind.captureSession (hP : Backend site.build site.platform) {w : RemoteBridge.World E}
    (h : Behind site.surround key w) : w.srv.voiceCaptureSession = key ∨ w.srv.voiceCaptureSession = 0 := by
  obtain ⟨first, told, -, hkey, hne, -, rfl⟩ := h
  have hfirst : first.srv.session.id = key := by
    have hcapture : first.srv.voiceCaptureSession = key := hkey
    rcases captureSession_cases first.srv with heq | hzero
    · exact heq.symm.trans hcapture
    · exact absurd (hcapture.symm.trans hzero) hne
  rcases captureSession_cases (site.surround.after told first).srv with heq | hzero
  · rcases sessionId_after hP told (Or.inl hfirst) with hid | hid
    · exact Or.inl (heq.trans hid)
    · exact Or.inr (heq.trans hid)
  · exact Or.inr hzero

/-- The server at a unit: it was asked and told as it should, and captures for no session but that of
the key. -/
def Site.Fenced (site : Site E) (key : UInt32) (w : RemoteBridge.World E) : Prop :=
  Behind site.surround key w ∧ (w.srv.voiceCaptureSession = key ∨ w.srv.voiceCaptureSession = 0)

end Server

/-- The voice events of a run are captures, and each unit is sent behind the fence. -/
theorem unicomRun_fenced {E : Type} (site : Site E) (hP : Backend site.build site.platform)
    (w : RemoteBridge.World E) (inputs : List (Input (RemoteBridge.World E))) :
    (∃ stage, Trace (unicomRun site.surround w inputs).log stage) ∧
      Sent site.Fenced (unicomRun site.surround w inputs).log (unicomRun site.surround w inputs).servers := by
  have hg := guards_unicomRun site.surround w inputs
  exact ⟨⟨_, hg.trace⟩, hg.sent.imp fun key env hb => ⟨hb, hb.captureSession hP⟩⟩

/-! ### A server that gives its session up -/

/-- The sizes of the firmware. -/
def firmwareBuild : Build where
  outRing := 768
  audioPool := 960
  ctlSlots := 6
  ctlBytes := 1536
  mediaDepth := 8
  outRing_pos := by decide

/-- The firmware with a silent backend and a link that completes every write at once. -/
def silentSite : Site Unit where
  build := firmwareBuild
  platform := silentPlatform
  clock w := w.srv.nowMs
  profile := { modelId := [], displayName := [], catalogRevision := 1, keys := [] }
  gatt _ w := (.accepted (some true), w)
  failure _ := []

/-- The server has loaded a peer. -/
def pairedWorld : RemoteBridge.World Unit :=
  { srv := Server.init firmwareBuild plainConfig none (some { peerId := 5, name := [], autoReconnect := true })
    env := ()
    log := [] }

/-- A host opens session 1, the remote gets ready, and the host enables voice. -/
def voiceWorld : RemoteBridge.World Unit :=
  (silentSite.serve (.ready true) (pairedWorld.hears firmwareBuild silentPlatform (hostHeader .hello 0 1 0) 1
    (tlvPutBytes 1 (List.replicate 16 7) []))).hears firmwareBuild silentPlatform (hostHeader .voiceEnable 1 2 1) 2
    (tlvPutU32 3 40 (tlvPutBytes 2 [2, 0, 0, 0, 1, 0] (tlvPutBool 1 true [])))

/-- A capture that the remote cuts off. -/
def cutCapture (w : RemoteBridge.World Unit) : RemoteBridge.World Unit :=
  silentSite.surround.after [.sourceBegin, .start, .ended .deviceError] w

/-- Five captures later the host has read nothing, and the queue for media is full. -/
def fullWorld : RemoteBridge.World Unit := Nat.repeat cutCapture 5 voiceWorld

/-- The voice key goes down, and a body comes. -/
def fullInputs : List (Input (RemoteBridge.World Unit)) :=
  [.begin 0, .found 1 2 3 [] 4, .notify 1 (some helloBytes), .subscribed, .server fullWorld,
    .notify 3 (some (voiceKeyBytes 1)), .notify 2 (some (partBytes 7 0 [1, 1, 1, 1, 1, 1])),
    .notify 2 (some (partBytes 7 1 [2, 2, 9, 9, 9, 9])), .notify 2 (some (partBytes 7 2 [7, 0, 9, 9, 9, 9]))]

theorem unicomRun_fenced_full :
    (∃ stage, Trace (unicomRun silentSite.surround pairedWorld fullInputs).log stage) ∧
      Sent silentSite.Fenced (unicomRun silentSite.surround pairedWorld fullInputs).log
        (unicomRun silentSite.surround pairedWorld fullInputs).servers :=
  unicomRun_fenced silentSite silentPlatform_honest.backend pairedWorld fullInputs

/-- The server cannot queue the start of the stream, fails voice, and is told the unit all the same. -/
theorem not_sent_capturing :
    ¬ Sent (fun key w => key ≠ 0 ∧ w.srv.voiceCaptureSession = key)
      (unicomRun silentSite.surround pairedWorld fullInputs).log
      (unicomRun silentSite.surround pairedWorld fullInputs).servers := by
  intro h
  have hzero : ((unicomRun silentSite.surround pairedWorld fullInputs).servers.any
      fun w => w.srv.voiceCaptureSession == 0) = true := by decide +kernel
  obtain ⟨w, hw, hnone⟩ := List.any_eq_true.mp hzero
  obtain ⟨key, hne, hkey⟩ := h.exists_key w hw
  exact hne (hkey.symm.trans (beq_iff_eq.mp hnone))

end RemoteBridge.Unicom
