import RemoteBridge.Adapters.Unicom

/-!
# The account of a Unicom capture

A press of the voice key opens a capture.  The remote then sends bodies of three notifications, and the
adapter owes the server one unit for each of them.  What a body is is said on the notifications of the
capture alone (`Bodies`): three parts in their places under one number, numbers that follow each other, and
a trailer that repeats what it must.  Nothing of the adapter's state enters into it.

## Two ways to the server

A unit goes to the server at once when the ring is empty and voice is wanted.  While the host has not
enabled voice yet, up to eight units wait in the ring, for a quarter of a second at most; the first answer
that voice is wanted announces the capture, and from then on the ring gives up one unit a turn while newer
units queue up behind.  The invariant (`Live`) therefore speaks of one queue: the units told, then the ring,
then the unit that is being handled are those of the bodies heard.  A capture that is closed before voice
was ever wanted is given up (`GivenUp`): its ring is cleared, nothing of it is announced and nothing of it
is ever told.

## What is assumed of the server

`Steady` is read off the answers that the adapter got: every session that it asked for since the opening is
that of the key, and voice, once wanted, stayed wanted.  The server is arbitrary apart from that; it may
change between any two inputs and may ask the adapter to stop in the middle of any call.  A step after which
a capture is not steady any more owes nothing, so each step is followed in two ways: `Grows` says that it
only adds to the log of the capture, whatever the answers are, and `Kept` that it leaves the account alone.

This module ends with the way of one unit, from the last part of its body to the server or into the ring.
Turns, keys and whole runs are the subject of the next one.
-/

namespace RemoteBridge.Unicom

/-! ## Statement -/

/-- The bytes of a notification behind its counters. -/
def chunk (d : List UInt8) : List UInt8 := d.drop 4

def seqOf (d : List UInt8) : UInt16 := get16 d 0

def partOf (d : List UInt8) : UInt16 := get16 d 2

/-- Three notifications are a body that may follow the body `prev`. -/
structure IsBody (prev : Option UInt16) (a b c : List UInt8) : Prop where
  lengths : a.length = 20 ∧ b.length = 20 ∧ c.length = 20
  parts : partOf a = 0 ∧ partOf b = 1 ∧ partOf c = 2
  seqs : seqOf b = seqOf a ∧ seqOf c = seqOf a
  next : ∀ p ∈ prev, seqOf a = p + 1
  trailer : trailerOk (chunk a ++ chunk b ++ chunk c) (seqOf a) = true

/-- The audio of a body. -/
def unitOf (a b c : List UInt8) : List UInt8 := (chunk a ++ chunk b ++ chunk c).take 40

/-- The number of the last body, the notifications of the bodies so far, and their units. -/
inductive Bodies : Option UInt16 → List (List UInt8) → List (List UInt8) → Prop
  | nil : Bodies none [] []
  | snoc {prev heard units a b c} (h : Bodies prev heard units) (hbody : IsBody prev a b c) :
      Bodies (some (seqOf a)) (heard ++ [a, b, c]) (units ++ [unitOf a b c])

/-- The events since the last capture opened. -/
def current : List Ev → List Ev
  | [] => []
  | .opened _ :: _ => []
  | e :: log => e :: current log

/-- The session of the key that opened the last capture. -/
def captureOwner : List Ev → UInt32
  | [] => 0
  | .opened session :: _ => session
  | _ :: log => captureOwner log

/-- The FC notifications, oldest first. -/
def heardOf : List Ev → List (List UInt8)
  | [] => []
  | .heard d :: log => heardOf log ++ [d]
  | _ :: log => heardOf log

/-- The units that the server was told, oldest first. -/
def sentOf : List Ev → List (List UInt8)
  | [] => []
  | .told (.voice (.encoded d)) :: log => sentOf log ++ [d]
  | _ :: log => sentOf log

/-- A session that the adapter was told is that of the key. -/
def Ev.agrees (owner : UInt32) : Ev → Bool
  | .owner session => session == owner
  | _ => true

/-- Voice was not refused any more once it was wanted; the newest answer comes first. -/
def StaysWanted : List Ev → Prop
  | [] => True
  | e :: log => (e = .asked false → .asked true ∉ log) ∧ StaysWanted log

instance StaysWanted.decidable : (log : List Ev) → Decidable (StaysWanted log)
  | [] => inferInstanceAs (Decidable True)
  | e :: log =>
    have := StaysWanted.decidable log
    inferInstanceAs (Decidable ((e = .asked false → .asked true ∉ log) ∧ StaysWanted log))

/-- In the last capture the session was that of the key, and voice stayed wanted. -/
def Steady (log : List Ev) : Prop :=
  (∀ e ∈ current log, e.agrees (captureOwner log) = true) ∧ StaysWanted (current log)

instance (log : List Ev) : Decidable (Steady log) := inferInstanceAs (Decidable (_ ∧ _))

/-- The units of the last capture, with those in `waiting` behind them, are those of its bodies; what is
left is no body.  Nothing waits where voice was wanted from the beginning, and nothing waits or is left
where the capture has ended normally. -/
def Delivered (waiting : List (List UInt8)) (log : List Ev) : Prop :=
  ∃ prev heard rest, heardOf (current log) = heard ++ rest ∧
    Bodies prev heard (sentOf (current log) ++ waiting) ∧
    (∀ a b c tail, rest = a :: b :: c :: tail → ¬ IsBody prev a b c) ∧
    (.asked false ∉ current log → waiting = []) ∧
    (.told (.voice (.ended .normal)) ∈ current log → rest = [] ∧ waiting = [])

/-! ## Logs that grow -/

/-- The event says nothing about voice, bodies, units and the end of a capture. -/
def Ev.quiet : Ev → Bool
  | .asked _ => false
  | .heard _ => false
  | .opened _ => false
  | .told (.voice (.encoded _)) => false
  | .told (.voice (.ended .normal)) => false
  | _ => true

section Logs

variable {l log : List Ev} {waiting : List (List UInt8)}

lemma current_cons {e : Ev} (h : ∀ s, e ≠ .opened s) : current (e :: log) = e :: current log := by
  cases e with
  | opened s => exact absurd rfl (h s)
  | _ => rfl

lemma captureOwner_cons {e : Ev} (h : ∀ s, e ≠ .opened s) : captureOwner (e :: log) = captureOwner log := by
  cases e with
  | opened s => exact absurd rfl (h s)
  | _ => rfl

lemma current_append (h : ∀ e ∈ l, ∀ s, e ≠ .opened s) : current (l ++ log) = l ++ current log := by
  induction l with
  | nil => rfl
  | cons e l ih =>
    rw [List.cons_append, current_cons (h e List.mem_cons_self),
      ih fun e' he' => h e' (List.mem_cons_of_mem _ he')]
    rfl

lemma captureOwner_append (h : ∀ e ∈ l, ∀ s, e ≠ .opened s) :
    captureOwner (l ++ log) = captureOwner log := by
  induction l with
  | nil => rfl
  | cons e l ih =>
    rw [List.cons_append, captureOwner_cons (h e List.mem_cons_self),
      ih fun e' he' => h e' (List.mem_cons_of_mem _ he')]

lemma StaysWanted.of_append (h : StaysWanted (l ++ log)) : StaysWanted log := by
  induction l with
  | nil => exact h
  | cons e l ih => exact ih h.2

lemma Steady.of_append (h : ∀ e ∈ l, ∀ s, e ≠ .opened s) (hs : Steady (l ++ log)) : Steady log := by
  obtain ⟨howner, hwanted⟩ := hs
  rw [current_append h] at howner hwanted
  rw [captureOwner_append h] at howner
  exact ⟨fun e he => howner e (List.mem_append_right l he), hwanted.of_append⟩

/-- The answer is the session of the key. -/
lemma Steady.owner {session : UInt32} (hs : Steady (.owner session :: log)) :
    session = captureOwner log :=
  eq_of_beq (hs.1 (.owner session) List.mem_cons_self)

/-- Voice that is refused was not wanted before. -/
lemma Steady.unwanted (hs : Steady (.asked false :: log)) : .asked true ∉ current log := hs.2.1 rfl

lemma Ev.not_opened_of_quiet {e : Ev} (h : e.quiet = true) (s : UInt32) : e ≠ .opened s := by
  rintro rfl
  cases h

lemma heardOf_quiet (h : ∀ e ∈ l, e.quiet = true) : heardOf (l ++ log) = heardOf log := by
  induction l with
  | nil => rfl
  | cons e l ih =>
    have hrest := ih fun e' he' => h e' (List.mem_cons_of_mem _ he')
    have hhead := h e List.mem_cons_self
    cases e with
    | heard d => cases hhead
    | _ => exact hrest

lemma sentOf_quiet (h : ∀ e ∈ l, e.quiet = true) : sentOf (l ++ log) = sentOf log := by
  induction l with
  | nil => rfl
  | cons e l ih =>
    have hrest := ih fun e' he' => h e' (List.mem_cons_of_mem _ he')
    have hhead := h e List.mem_cons_self
    cases e with
    | told t =>
      cases t with
      | voice v =>
        cases v with
        | encoded d => cases hhead
        | _ => exact hrest
      | _ => exact hrest
    | _ => exact hrest

/-- What an account speaks of is not among quiet events. -/
lemma mem_quiet {e : Ev} (he : e.quiet = false) (h : ∀ e ∈ l, e.quiet = true) :
    e ∈ l ++ log ↔ e ∈ log := by
  constructor
  · intro hmem
    rcases List.mem_append.mp hmem with hl | hlog
    · exact absurd ((h e hl).symm.trans he) (by decide)
    · exact hlog
  · exact List.mem_append_right l

/-- Quiet events leave the account of a capture as it is. -/
lemma Delivered.quiet (h : ∀ e ∈ l, e.quiet = true) (hd : Delivered waiting log) :
    Delivered waiting (l ++ log) := by
  obtain ⟨prev, heard, rest, hheard, hbodies, hrest, hfirst, hend⟩ := hd
  have hcur : current (l ++ log) = l ++ current log :=
    current_append fun e he => Ev.not_opened_of_quiet (h e he)
  refine ⟨prev, heard, rest, ?_, ?_, hrest, fun hnever => hfirst ?_, fun hmem => hend ?_⟩
  · rw [hcur, heardOf_quiet h, hheard]
  · rwa [hcur, sentOf_quiet h]
  · rwa [hcur, mem_quiet rfl h] at hnever
  · rwa [hcur, mem_quiet rfl h] at hmem

/-- A capture in which voice was wanted has delivered its units. -/
def Accounted (log : List Ev) : Prop :=
  Steady log → .asked true ∈ current log → ∃ waiting, Delivered waiting log

lemma Accounted.quiet (h : ∀ e ∈ l, e.quiet = true) (ha : Accounted log) : Accounted (l ++ log) := by
  have hno : ∀ e ∈ l, ∀ s, e ≠ .opened s := fun e he => Ev.not_opened_of_quiet (h e he)
  intro hs hasked
  rw [current_append hno, mem_quiet rfl h] at hasked
  obtain ⟨waiting, hd⟩ := ha (hs.of_append hno) hasked
  exact ⟨waiting, hd.quiet h⟩

end Logs

/-! ## The invariant -/

/-- Where a body is put together. -/
structure Assembly where
  part : Nat
  body : List UInt8
  sequence : UInt16
  previous : UInt16
  previousValid : Bool

def State.assembly (u : State) : Assembly where
  part := u.part
  body := u.body
  sequence := u.sequence
  previous := u.previous
  previousValid := u.previousValid

/-- The number of the last body. -/
def Assembly.prev (m : Assembly) : Option UInt16 := if m.previousValid then some m.previous else none

/-- The parts of the next body that have come. -/
inductive Assembly.Holds (m : Assembly) : List (List UInt8) → Prop
  | none (hpart : m.part = 0) : m.Holds []
  | one {a : List UInt8} (hpart : m.part = 1) (hlen : a.length = 20) (hfirst : partOf a = 0)
      (hnext : ∀ p ∈ m.prev, seqOf a = p + 1) (hseq : m.sequence = seqOf a)
      (hbody : m.body.take 16 = chunk a) : m.Holds [a]
  | two {a b : List UInt8} (hpart : m.part = 2) (hlen : a.length = 20 ∧ b.length = 20)
      (hparts : partOf a = 0 ∧ partOf b = 1) (hnext : ∀ p ∈ m.prev, seqOf a = p + 1)
      (hseq : m.sequence = seqOf a) (hsame : seqOf b = seqOf a)
      (hbody : m.body.take 32 = chunk a ++ chunk b) : m.Holds [a, b]

lemma Assembly.Holds.length {m : Assembly} {rest : List (List UInt8)} (h : m.Holds rest) :
    rest.length = m.part ∧ rest.length < 3 := by
  cases h with
  | none hpart => exact ⟨hpart.symm, by simp⟩
  | one hpart => exact ⟨hpart.symm, by simp⟩
  | two hpart => exact ⟨hpart.symm, by simp⟩

/-- An open capture: its bodies, with the units among them that the server was not told yet, and the parts
of the next body. -/
structure Open {E : Type} (queue : List (List UInt8)) (w : World E) : Prop where
  owner : captureOwner w.log = w.u.captureSession
  unended : .told (.voice (.ended .normal)) ∉ current w.log
  account : ∃ heard rest, heardOf (current w.log) = heard ++ rest ∧
    Bodies w.u.assembly.prev heard (sentOf (current w.log) ++ queue) ∧ w.u.assembly.Holds rest

/-- A capture that goes on: the units not told are those of the ring, and the ones that the adapter is about
to handle.  It is announced as soon as voice was wanted, and a capture that closes is. -/
structure Live {E : Type} (owed : List (List UInt8)) (w : World E) : Prop where
  account : Open (w.u.preroll.contents 8 ++ owed) w
  ring : w.u.preroll.Ok 8
  answered : w.u.announced = true ↔ .asked true ∈ current w.log
  closing : w.u.closing = true → w.u.announced = true
  first : .asked false ∉ current w.log → w.u.preroll.len = 0

/-- A capture that was closed before voice was wanted. -/
structure GivenUp {E : Type} (w : World E) : Prop where
  owner : captureOwner w.log = w.u.captureSession
  closing : w.u.closing = true
  unannounced : w.u.announced = false
  empty : w.u.preroll.len = 0
  unwanted : .asked true ∉ current w.log

/-- In a steady capture nothing is lost. -/
structure Inv {E : Type} (w : World E) : Prop where
  body : w.u.body.length = 48
  opened : Steady w.log → w.u.active = true → GivenUp w ∨ Live [] w
  closed : w.u.active = false → Accounted w.log

section Steps

variable {E : Type} {S : Surround E} {w w' w'' : World E} {owed queue : List (List UInt8)}

lemma Open.delivered (h : Open queue w) (hfirst : .asked false ∉ current w.log → queue = []) :
    Delivered queue w.log := by
  obtain ⟨heard, rest, hheard, hbodies, hholds⟩ := h.account
  refine ⟨_, heard, rest, hheard, hbodies, ?_, hfirst, fun hend => absurd hend h.unended⟩
  rintro a b c tail rfl
  have := hholds.length.2
  simp only [List.length_cons] at this
  omega

lemma contents_eq_nil_of_len {r : Ring (List UInt8)} (h : r.len = 0) : r.contents 8 = [] := by
  rw [← List.length_eq_zero_iff, Ring.length_contents, h]

lemma Live.delivered (h : Live [] w) : Delivered (w.u.preroll.contents 8) w.log := by
  have hopen := h.account
  rw [List.append_nil] at hopen
  exact hopen.delivered fun hnever => contents_eq_nil_of_len (h.first hnever)

lemma Inv.accounted (h : Inv w) : Accounted w.log := by
  intro hs hasked
  rcases hactive : w.u.active with _ | _
  · exact h.closed hactive hs hasked
  · rcases h.opened hs hactive with hgiven | hlive
    · exact absurd hasked hgiven.unwanted
    · exact ⟨_, hlive.delivered⟩

/-- A capture that is over. -/
lemma inv_closed (hactive : w.u.active = false) (hbody : w.u.body.length = 48) (hd : Accounted w.log) :
    Inv w :=
  ⟨hbody, fun _ hopen => absurd (hactive.symm.trans hopen) (by simp), fun _ => hd⟩

/-- A capture that is open. -/
lemma inv_opened (hactive : w.u.active = true) (hbody : w.u.body.length = 48)
    (ho : Steady w.log → GivenUp w ∨ Live [] w) : Inv w :=
  ⟨hbody, fun hs _ => ho hs, fun hno => absurd (hno.symm.trans hactive) (by simp)⟩

/-- A step within a capture. -/
structure Grows (w w' : World E) : Prop where
  body : w'.u.body = w.u.body
  log : ∃ l, (∀ e ∈ l, ∀ s, e ≠ .opened s) ∧ w'.log = l ++ w.log

lemma Grows.trans (h : Grows w w') (h' : Grows w' w'') : Grows w w'' := by
  obtain ⟨l, hl, hlog⟩ := h.log
  obtain ⟨l', hl', hlog'⟩ := h'.log
  refine ⟨h'.body.trans h.body, l' ++ l, ?_, ?_⟩
  · intro e he
    rcases List.mem_append.mp he with he | he
    · exact hl' e he
    · exact hl e he
  · rw [hlog', hlog, List.append_assoc]

lemma Grows.steady (h : Grows w w') (hs : Steady w'.log) : Steady w.log := by
  obtain ⟨l, hl, hlog⟩ := h.log
  rw [hlog] at hs
  exact hs.of_append hl

/-- What was there stays in the capture. -/
lemma Grows.mem (h : Grows w w') {e : Ev} (he : e ∈ current w.log) : e ∈ current w'.log := by
  obtain ⟨l, hl, hlog⟩ := h.log
  rw [hlog, current_append hl]
  exact List.mem_append_right l he

/-- The capture was not steady before the step. -/
lemma Grows.unsteady (h : Grows w w') (hbody : w.u.body.length = 48) (hno : ¬ Steady w.log) : Inv w' :=
  ⟨h.body ▸ hbody, fun hs => absurd (h.steady hs) hno, fun _ hs => absurd (h.steady hs) hno⟩

/-- A step that leaves the audio of a capture alone; a capture that was not announced may be given up. -/
structure Kept (w w' : World E) : Prop where
  active : w'.u.active = w.u.active
  announced : w'.u.announced = w.u.announced
  assembly : w'.u.assembly = w.u.assembly
  session : w'.u.captureSession = w.u.captureSession
  ring : (w'.u.preroll = w.u.preroll ∧ (w.u.announced = false → w'.u.closing = w.u.closing)) ∨
    (w.u.announced = false ∧ w'.u.closing = true ∧ w'.u.preroll.len = 0)
  log : ∃ l, (∀ e ∈ l, e.quiet = true) ∧ w'.log = l ++ w.log

lemma Kept.refl (w : World E) : Kept w w := ⟨rfl, rfl, rfl, rfl, .inl ⟨rfl, fun _ => rfl⟩, [], by simp, rfl⟩

lemma Kept.trans (h : Kept w w') (h' : Kept w' w'') : Kept w w'' := by
  obtain ⟨l, hl, hlog⟩ := h.log
  obtain ⟨l', hl', hlog'⟩ := h'.log
  refine ⟨h'.active.trans h.active, h'.announced.trans h.announced,
    h'.assembly.trans h.assembly, h'.session.trans h.session, ?_, l' ++ l, ?_, ?_⟩
  · -- a capture is given up at most once, and stays so
    rcases h'.ring with ⟨hring', hclosing'⟩ | ⟨hun, hgiven⟩
    · rcases h.ring with ⟨hring, hclosing⟩ | ⟨hun, hclosed, hempty⟩
      · refine .inl ⟨hring'.trans hring, fun hno => ?_⟩
        exact (hclosing' (h.announced.trans hno)).trans (hclosing hno)
      · refine .inr ⟨hun, (hclosing' (h.announced.trans hun)).trans hclosed, ?_⟩
        rw [hring', hempty]
    · exact .inr ⟨h.announced.symm.trans hun, hgiven⟩
  · intro e he
    rcases List.mem_append.mp he with he | he
    · exact hl' e he
    · exact hl e he
  · rw [hlog', hlog, List.append_assoc]

lemma Kept.grows (h : Kept w w') : Grows w w' := by
  obtain ⟨l, hl, hlog⟩ := h.log
  exact ⟨congrArg Assembly.body h.assembly, l, fun e he => Ev.not_opened_of_quiet (hl e he), hlog⟩

lemma Kept.mem_current (h : Kept w w') {e : Ev} (he : e.quiet = false) :
    e ∈ current w'.log ↔ e ∈ current w.log := by
  obtain ⟨l, hl, hlog⟩ := h.log
  rw [hlog, current_append fun e he => Ev.not_opened_of_quiet (hl e he), mem_quiet he hl]

lemma Kept.owner (h : Kept w w') (ho : captureOwner w.log = w.u.captureSession) :
    captureOwner w'.log = w'.u.captureSession := by
  obtain ⟨l, hl, hlog⟩ := h.log
  rw [hlog, captureOwner_append fun e he => Ev.not_opened_of_quiet (hl e he), ho, h.session]

lemma Kept.open (h : Kept w w') (ho : Open queue w) : Open queue w' := by
  obtain ⟨l, hl, hlog⟩ := h.log
  have hcur : current w'.log = l ++ current w.log := by
    rw [hlog, current_append fun e he => Ev.not_opened_of_quiet (hl e he)]
  refine ⟨h.owner ho.owner, ?_, ?_⟩
  · rw [h.mem_current rfl]
    exact ho.unended
  · rw [hcur, heardOf_quiet hl, sentOf_quiet hl, h.assembly]
    exact ho.account

lemma Kept.givenUp (h : Kept w w') (hg : GivenUp w) : GivenUp w' := by
  have hclosed : w'.u.closing = true ∧ w'.u.preroll.len = 0 := by
    rcases h.ring with ⟨hring, hclosing⟩ | ⟨-, hgiven⟩
    · exact ⟨(hclosing hg.unannounced).trans hg.closing, hring ▸ hg.empty⟩
    · exact hgiven
  refine ⟨h.owner hg.owner, hclosed.1, h.announced.trans hg.unannounced, hclosed.2, ?_⟩
  rw [h.mem_current rfl]
  exact hg.unwanted

/-- A capture that was not announced is given up with its ring. -/
lemma Kept.abandon (h : Kept w w') (hl : Live owed w) (hun : w.u.announced = false)
    (hclosed : w'.u.closing = true) (hempty : w'.u.preroll.len = 0) : GivenUp w' := by
  refine ⟨h.owner hl.account.owner, hclosed, h.announced.trans hun, hempty, ?_⟩
  rw [h.mem_current rfl, ← hl.answered, hun]
  exact Bool.false_ne_true

lemma Kept.live (h : Kept w w') (hl : Live owed w) : GivenUp w' ∨ Live owed w' := by
  rcases h.ring with ⟨hring, hclosing⟩ | ⟨hun, hclosed, hempty⟩
  · refine .inr ⟨hring ▸ h.open hl.account, hring ▸ hl.ring, ?_, fun hc => ?_, fun hnever => ?_⟩
    · rw [h.announced, h.mem_current rfl]
      exact hl.answered
    · rw [h.announced]
      rcases hann : w.u.announced with _ | _
      · exact hann.symm.trans (hl.closing ((hclosing hann).symm.trans hc))
      · rfl
    · rw [h.mem_current rfl] at hnever
      exact hring ▸ hl.first hnever
  · exact .inl (h.abandon hl hun hclosed hempty)

lemma Kept.accounted (h : Kept w w') (ha : Accounted w.log) : Accounted w'.log := by
  obtain ⟨l, hl, hlog⟩ := h.log
  rw [hlog]
  exact ha.quiet hl

lemma Kept.inv (h : Kept w w') (hi : Inv w) : Inv w' where
  body := (congrArg List.length h.grows.body).trans hi.body
  opened hs hactive :=
    (hi.opened (h.grows.steady hs) (h.active ▸ hactive)).elim (fun hg => .inl (h.givenUp hg)) h.live
  closed hactive := h.accounted (hi.closed (h.active ▸ hactive))

/-- A change of the state that is none of the audio. -/
lemma kept_act (f : State → State) (hactive : (f w.u).active = w.u.active)
    (hannounced : (f w.u).announced = w.u.announced) (hring : (f w.u).preroll = w.u.preroll)
    (hassembly : (f w.u).assembly = w.u.assembly) (hsession : (f w.u).captureSession = w.u.captureSession)
    (hclosing : (f w.u).closing = w.u.closing) : Kept w (w.act f) :=
  ⟨hactive, hannounced, hassembly, hsession, .inl ⟨hring, fun _ => hclosing⟩, [], by simp, rfl⟩

lemma kept_note {e : Ev} (h : e.quiet = true) : Kept w (w.note e) :=
  ⟨rfl, rfl, rfl, rfl, .inl ⟨rfl, fun _ => rfl⟩, [e], by simpa using h, rfl⟩

lemma kept_env (env : E) : Kept w { w with env } :=
  ⟨rfl, rfl, rfl, rfl, .inl ⟨rfl, fun _ => rfl⟩, [], by simp, rfl⟩

lemma kept_stop (w : World E) : Kept w (stop w) := by
  unfold stop
  split
  · exact .refl w
  · unfold World.act
    dsimp only
    by_cases h : w.u.announced
    · rw [if_pos h]
      exact ⟨rfl, rfl, rfl, rfl, .inl ⟨rfl, fun hno => absurd (h.symm.trans hno) (by decide)⟩, [],
        by simp, rfl⟩
    · -- the ring of a capture that nobody wanted is cleared
      rw [if_neg h]
      exact ⟨rfl, rfl, rfl, rfl, .inr ⟨Bool.eq_false_iff.mpr h, rfl, rfl⟩, [], by simp, rfl⟩

lemma kept_tell {t : Told} (h : (Ev.told t).quiet = true) : Kept w (tell S t w) := by
  have htold : Kept w { w.told t with env := (S.tell t w.env).2 } :=
    ⟨rfl, rfl, rfl, rfl, .inl ⟨rfl, fun _ => rfl⟩, [.told t], by simpa using h, rfl⟩
  unfold tell
  dsimp only
  split
  · exact htold.trans (kept_stop _)
  · exact htold

/-- A capture that is not announced is given up. -/
lemma prerollCancel_closed (hactive : w.u.active = true) (hun : w.u.announced = false) :
    Kept w (prerollCancel w) ∧ (prerollCancel w).u.closing = true ∧ (prerollCancel w).u.preroll.len = 0 := by
  unfold prerollCancel stop
  split
  · rename_i hstop
    have hclosed : w.u.closing = true := by
      have : (!w.u.active || w.u.closing) = true := hstop
      rwa [hactive, Bool.not_true, Bool.false_or] at this
    exact ⟨⟨rfl, rfl, rfl, rfl, .inr ⟨hun, hclosed, rfl⟩, [], by simp, rfl⟩, hclosed, rfl⟩
  · unfold World.act
    dsimp only
    rw [if_neg (Bool.eq_false_iff.mp hun)]
    exact ⟨⟨rfl, rfl, rfl, rfl, .inr ⟨hun, rfl, rfl⟩, [], by simp, rfl⟩, rfl, rfl⟩

lemma grows_stop (w : World E) : Grows w (stop w) := (kept_stop w).grows

lemma grows_prerollCancel (w : World E) : Grows w (prerollCancel w) := by
  have hempty : Grows w (w.act fun u => { u with preroll := u.preroll.setLen 0 }) := ⟨rfl, [], by simp, rfl⟩
  exact hempty.trans (grows_stop _)

lemma grows_askWanted (w : World E) : Grows w (w.askWanted S).2 :=
  ⟨rfl, [.asked (S.wanted w.env)], by simp, rfl⟩

lemma kept_askSession (w : World E) : Kept w (w.askSession S).2 := kept_note rfl

/-! ## Ends -/

lemma log_stop (w : World E) : (stop w).log = w.log := by
  unfold stop
  split <;> rfl

lemma log_tell (t : Told) (w : World E) : (tell S t w).log = .told t :: w.log := by
  unfold tell
  dsimp only
  split
  · exact log_stop _
  · rfl

lemma active_stop (w : World E) : (stop w).u.active = w.u.active := (kept_stop w).active

lemma grows_tell (t : Told) (w : World E) : Grows w (tell S t w) := by
  refine ⟨?_, [.told t], by simp, log_tell t w⟩
  unfold tell
  dsimp only
  split
  · exact (kept_stop _).grows.body
  · rfl

lemma active_tell (t : Told) (w : World E) : (tell S t w).u.active = w.u.active := by
  unfold tell
  dsimp only
  split
  · exact active_stop _
  · rfl

lemma quiet_ended {reason : EndReason} (h : reason ≠ .normal) :
    (Ev.told (.voice (.ended reason))).quiet = true := by
  cases reason with
  | normal => exact absurd rfl h
  | _ => rfl

/-- The state behind the end of a capture. -/
def State.over (u : State) : State :=
  { u.clear with
    active := false, started := false, closing := false, part := 0, previousValid := false
    announced := false }

lemma finish_eq (reason : EndReason) (w : World E) :
    finish S reason w =
      if w.u.announced then tell S (.voice (.ended reason)) (w.act State.over) else w.act State.over := rfl

lemma grows_finish (reason : EndReason) (w : World E) : Grows w (finish S reason w) := by
  have hover : Grows w (w.act State.over) := ⟨rfl, [], by simp, rfl⟩
  rw [finish_eq]
  split
  · exact hover.trans (grows_tell _ _)
  · exact hover

lemma inv_finish {reason : EndReason} (hreason : reason ≠ .normal) (hbody : w.u.body.length = 48)
    (hd : Accounted w.log) : Inv (finish S reason w) := by
  have hover : Inv (w.act State.over) := inv_closed rfl hbody hd
  rw [finish_eq]
  split
  · exact (kept_tell (quiet_ended hreason)).inv hover
  · exact hover

/-- At a normal end every notification is part of a unit that was sent: no part of a body is left, and no
unit in the ring. -/
lemma inv_finish_normal (h : Inv w) (hactive : w.u.active = true) (hpart : w.u.part = 0)
    (hring : Steady w.log → w.u.preroll.len = 0) : Inv (finish S .normal w) := by
  rw [finish_eq]
  split
  · rename_i hann
    have htold := grows_tell (S := S) (.voice (.ended .normal)) (w.act State.over)
    refine inv_closed ((active_tell _ _).trans rfl) ((congrArg List.length htold.body).trans h.body) ?_
    intro hs _
    have hsteady : Steady w.log := htold.steady hs
    rcases h.opened hsteady hactive with hgiven | hlive
    · exact absurd (hgiven.unannounced.symm.trans hann) Bool.false_ne_true
    · have hopen := hlive.account
      rw [contents_eq_nil_of_len (hring hsteady), List.append_nil] at hopen
      obtain ⟨heard, rest, hheard, hbodies, hholds⟩ := hopen.account
      have hnil : rest = [] := by
        have hlen := hholds.length.1
        rw [show w.u.assembly.part = 0 from hpart] at hlen
        exact List.length_eq_zero_iff.mp hlen
      subst hnil
      rw [log_tell]
      exact ⟨[], _, heard, [], hheard, hbodies, by simp, fun _ => rfl, fun _ => ⟨rfl, rfl⟩⟩
  · exact inv_closed rfl h.body h.accounted

lemma kept_fail (cause : String) (w : World E) : Kept w (fail S cause w) := by
  have hfailed : Kept w (w.act fun u => { u with phase := .failed }) := kept_act _ rfl rfl rfl rfl rfl rfl
  exact hfailed.trans (kept_tell rfl)

lemma grows_bad (why : String) (w : World E) : Grows w (bad S why w) :=
  (grows_finish .sourceDataLost w).trans (kept_fail why _).grows

lemma inv_bad (why : String) (hbody : w.u.body.length = 48) (hd : Accounted w.log) : Inv (bad S why w) :=
  (kept_fail why _).inv (inv_finish (by decide) hbody hd)

/-! ## Answers about voice -/

/-- An announced capture of a steady run gets the answer that voice is wanted. -/
lemma Live.wanted (h : Live owed w) (hann : w.u.announced = true) (hs : Steady (w.askWanted S).2.log) :
    S.wanted w.env = true := by
  rcases hw : S.wanted w.env with _ | _
  · have hno : Steady (.asked (S.wanted w.env) :: w.log) := hs
    rw [hw] at hno
    exact absurd (h.answered.mp hann) hno.unwanted
  · rfl

/-- An answer that does not ask for an announcement. -/
lemma Live.asked (h : Live owed w) (hann : S.wanted w.env = true → w.u.announced = true) :
    Live owed (w.askWanted S).2 := by
  have hopen := h.account
  refine ⟨⟨hopen.owner, ?_, hopen.account⟩, h.ring, ⟨fun hyes => ?_, fun hmem => ?_⟩, h.closing,
    fun hnever => ?_⟩
  · intro hmem
    rcases List.mem_cons.mp hmem with heq | hmem
    · cases heq
    · exact hopen.unended hmem
  · exact List.mem_cons_of_mem _ (h.answered.mp hyes)
  · rcases List.mem_cons.mp hmem with heq | hmem
    · exact hann (Ev.asked.inj heq).symm
    · exact h.answered.mpr hmem
  · exact h.first fun hmem => hnever (List.mem_cons_of_mem _ hmem)

/-- The adapter is about to send: voice is wanted and the capture announced, and of the queue only the ring
is left alone. -/
structure Sending (queue : List (List UInt8)) (w w' : World E) : Prop where
  account : Open queue w'
  announced : w'.u.announced = true
  asked : .asked true ∈ current w'.log
  active : w'.u.active = w.u.active
  ring : w'.u.preroll = w.u.preroll
  grows : Grows w w'

lemma Kept.sending (h : Kept w' w'') (hs : Sending queue w w') : Sending queue w w'' := by
  refine ⟨h.open hs.account, h.announced.trans hs.announced, h.grows.mem hs.asked,
    h.active.trans hs.active, ?_, hs.grows.trans h.grows⟩
  rcases h.ring with ⟨hring, -⟩ | ⟨hun, -⟩
  · exact hring.trans hs.ring
  · exact absurd (hun.symm.trans hs.announced) Bool.false_ne_true

lemma grows_announce (w : World E) : Grows w (announce S w) := by
  have hannounced : Grows w (w.act fun u => { u with announced := true }) := ⟨rfl, [], by simp, rfl⟩
  exact hannounced.trans (grows_tell _ _)

/-- The first voice event of a capture. -/
lemma sending_announce (hopen : Open queue w') (hasked : .asked true ∈ current w'.log)
    (hactive : w'.u.active = w.u.active) (hring : w'.u.preroll = w.u.preroll) (hgrows : Grows w w') :
    Sending queue w (announce S w') := by
  have hact : Grows w (w'.act fun u => { u with announced := true }) :=
    hgrows.trans ⟨rfl, [], by simp, rfl⟩
  exact (kept_tell rfl).sending
    ⟨⟨hopen.owner, hopen.unended, hopen.account⟩, rfl, hasked, hactive, hring, hact⟩

/-- The server is told the next unit of the queue. -/
lemma Sending.told {p : List UInt8} (h : Sending (p :: queue) w w') :
    Sending queue w (tell S (.voice (.encoded p)) w') := by
  have htold : Sending queue w (w'.told (.voice (.encoded p))) := by
    refine ⟨⟨h.account.owner, ?_, ?_⟩, h.announced, List.mem_cons_of_mem _ h.asked, h.active, h.ring,
      h.grows.trans ⟨rfl, [_], by simp, rfl⟩⟩
    · intro hmem
      rcases List.mem_cons.mp hmem with heq | hmem
      · cases heq
      · exact h.account.unended hmem
    · obtain ⟨heard, rest, hheard, hbodies, hholds⟩ := h.account.account
      refine ⟨heard, rest, hheard, ?_, hholds⟩
      show Bodies _ heard ((sentOf (current w'.log) ++ [p]) ++ queue)
      rw [List.append_assoc]
      exact hbodies
  have henv : Kept (w'.told (.voice (.encoded p)))
      { w'.told (.voice (.encoded p)) with env := (S.tell (.voice (.encoded p)) w'.env).2 } := kept_env _
  unfold tell
  dsimp only
  split
  · exact (henv.trans (kept_stop _)).sending htold
  · exact henv.sending htold

/-- What is left after a unit was sent is the ring. -/
lemma Sending.live (h : Sending (w'.u.preroll.contents 8) w w') (hring : w'.u.preroll.Ok 8)
    (hfirst : .asked false ∉ current w'.log → w'.u.preroll.len = 0) : Live [] w' :=
  ⟨by rw [List.append_nil]; exact h.account, hring, ⟨fun _ => h.asked, fun _ => h.announced⟩,
    fun _ => h.announced, hfirst⟩

/-! ## Units -/

lemma grows_emit (p : List UInt8) (w : World E) : Grows w (emit S p w).2 := by
  unfold emit
  dsimp only
  have hwanted : Grows w (w.askWanted S).2 := grows_askWanted w
  split
  · exact hwanted
  have hsession := hwanted.trans (kept_askSession (S := S) _).grows
  split
  · exact hsession
  split
  · exact hsession
  refine Grows.trans ?_ (grows_tell _ _)
  have hannounced : ∀ w' : World E, Grows w w' → Grows w (if w'.u.announced then w' else announce S w') := by
    intro w' h
    split
    · exact h
    · exact h.trans (grows_announce w')
  have hstarted : ∀ w' : World E, Grows w w' → Grows w
      (if w'.u.started then w'
        else tell S (.voice .start) (w'.act fun u => { u with started := true })) := by
    intro w' h
    split
    · exact h
    · exact h.trans ((kept_act _ rfl rfl rfl rfl rfl rfl).grows.trans (grows_tell _ _))
  exact hstarted _ (hannounced _ hsession)

/-- In a steady capture that goes on a unit is refused for one reason only. -/
lemma emit_refused {p : List UInt8} (howner : captureOwner w.log = w.u.captureSession)
    (hclosing : w.u.closing = true → w.u.announced = true) (hs : Steady (emit S p w).2.log)
    (hno : (emit S p w).1 = false) : S.wanted w.env = false ∧ (emit S p w).2 = (w.askWanted S).2 := by
  unfold emit at hs hno ⊢
  dsimp only at hs hno ⊢
  by_cases hask : (w.askWanted S).1 = true
  · rw [if_neg (by rw [hask]; decide)] at hs hno
    by_cases hsession :
        ((w.askWanted S).2.askSession S).1 ≠ ((w.askWanted S).2.askSession S).2.u.captureSession
    · rw [if_pos hsession] at hs
      exact absurd (hs.owner.trans howner) hsession
    · have hopen : ¬ (!((w.askWanted S).2.askSession S).2.u.announced &&
          ((w.askWanted S).2.askSession S).2.u.closing) = true := by
        intro hstop
        simp only [Bool.and_eq_true, Bool.not_eq_true'] at hstop
        exact absurd (hstop.1.symm.trans (hclosing hstop.2)) Bool.false_ne_true
      rw [if_neg hsession, if_neg hopen] at hno
      cases hno
  · rw [if_pos (by simpa using hask)]
    exact ⟨Bool.eq_false_iff.mpr hask, rfl⟩

/-- A unit that is sent is the next one of the queue. -/
lemma Open.emit {p : List UInt8} (h : Open (p :: queue) w) (hyes : (emit S p w).1 = true) :
    Sending queue w (Unicom.emit S p w).2 := by
  unfold Unicom.emit at hyes ⊢
  dsimp only at hyes ⊢
  split at hyes
  · cases hyes
  rename_i hask
  have hwanted : (w.askWanted S).1 = true := by simpa using hask
  rw [if_neg hask]
  split at hyes
  · cases hyes
  rename_i hsession
  rw [if_neg hsession]
  split at hyes
  · cases hyes
  rename_i hopen
  rw [if_neg hopen]
  -- the two questions leave the account and the ring alone
  have hgrows : Grows w ((w.askWanted S).2.askSession S).2 :=
    (grows_askWanted w).trans (kept_askSession _).grows
  have hasked : .asked true ∈ current ((w.askWanted S).2.askSession S).2.log := by
    refine (kept_askSession _).grows.mem ?_
    have hhead : Ev.asked (S.wanted w.env) ∈ current (w.askWanted S).2.log := List.mem_cons_self
    rwa [show S.wanted w.env = true from hwanted] at hhead
  have haccount : Open (p :: queue) ((w.askWanted S).2.askSession S).2 := by
    refine (kept_askSession _).open ⟨h.owner, fun hmem => ?_, h.account⟩
    rcases List.mem_cons.mp hmem with heq | hmem
    · cases heq
    · exact h.unended hmem
  have hannounced : Sending (p :: queue) w
      (if ((w.askWanted S).2.askSession S).2.u.announced then ((w.askWanted S).2.askSession S).2
        else announce S ((w.askWanted S).2.askSession S).2) := by
    split
    · rename_i hann
      exact ⟨haccount, hann, hasked, rfl, rfl, hgrows⟩
    · exact sending_announce haccount hasked rfl rfl hgrows
  have hstarted : ∀ w' : World E, Sending (p :: queue) w w' → Sending (p :: queue) w
      (if w'.u.started then w'
        else tell S (.voice .start) (w'.act fun u => { u with started := true })) := by
    intro w' h'
    split
    · exact h'
    · exact ((kept_act _ rfl rfl rfl rfl rfl rfl).trans (kept_tell rfl)).sending h'
  exact (hstarted _ hannounced).told

lemma grows_storeUnit (p : List UInt8) (w : World E) : Grows w (storeUnit S p w) := by
  unfold storeUnit
  split
  · split
    · exact grows_bad _ w
    · exact grows_prerollCancel w
  · exact ⟨rfl, [], by simp, rfl⟩

lemma grows_keepUnit (p : List UInt8) (w : World E) : Grows w (keepUnit S p w) := by
  have hwanted : Grows w (w.askWanted S).2 := grows_askWanted w
  unfold keepUnit
  dsimp only
  split
  · split
    · exact hwanted.trans (grows_storeUnit p _)
    · exact hwanted.trans (kept_stop _).grows
  · exact grows_storeUnit p w

/-- A ring that is not full takes a unit behind those that wait. -/
lemma contents_storeUnit {r : Ring (List UInt8)} {p : List UInt8} (hr : r.Ok 8) (hroom : r.len ≠ 8) :
    ((r.write 8 [p]).getD r).contents 8 = r.contents 8 ++ [p] ∧ ((r.write 8 [p]).getD r).Ok 8 := by
  have hlen := hr.len_le
  have hwrite := Ring.write_eq [p] hr (by rw [List.length_singleton]; omega)
  have hcontents := Ring.contents_write hr hwrite
  rwa [hwrite]

/-- The ring takes a unit behind those that wait, or the capture ends as one that has lost data, or it was
not announced yet and is given up. -/
lemma inv_storeUnit {p : List UInt8} (hactive : w.u.active = true) (hbody : w.u.body.length = 48)
    (hl : Steady w.log → Live [p] w ∧ .asked false ∈ current w.log) : Inv (storeUnit S p w) := by
  unfold storeUnit
  split
  · split
    · refine inv_bad _ hbody fun hs _ => ?_
      obtain ⟨hlive, hlate⟩ := hl hs
      exact ⟨_, hlive.account.delivered fun hnever => absurd hlate hnever⟩
    · rename_i hann
      have hun : w.u.announced = false := by simpa using hann
      obtain ⟨hkept, hclosed, hempty⟩ := prerollCancel_closed hactive hun
      refine inv_opened (hkept.active.trans hactive) (hkept.grows.body ▸ hbody) fun hs => .inl ?_
      exact hkept.abandon (hl (hkept.grows.steady hs)).1 hun hclosed hempty
  · rename_i hroom
    refine inv_opened hactive hbody fun hs => .inr ?_
    obtain ⟨hlive, hlate⟩ := hl hs
    obtain ⟨hcontents, hring⟩ := contents_storeUnit (p := p) hlive.ring hroom
    have hopen := hlive.account
    rw [← hcontents, ← List.append_nil (Ring.contents _ _)] at hopen
    exact ⟨⟨hopen.owner, hopen.unended, hopen.account⟩, hring, hlive.answered, hlive.closing,
      fun hnever => absurd hlate hnever⟩

/-- A unit that was not sent at once goes into the ring. -/
lemma inv_keepUnit {p : List UInt8} (hactive : w.u.active = true) (hbody : w.u.body.length = 48)
    (hl : Steady w.log → Live [p] w ∧ .asked false ∈ current w.log) : Inv (keepUnit S p w) := by
  have hasked : Grows w (w.askWanted S).2 := grows_askWanted w
  unfold keepUnit
  dsimp only
  split
  · rename_i hann
    split
    · refine inv_storeUnit hactive hbody fun hs => ?_
      obtain ⟨hlive, hlate⟩ := hl (hasked.steady hs)
      exact ⟨hlive.asked fun _ => hann, hasked.mem hlate⟩
    · -- an announced capture that is refused voice is not steady
      rename_i hno
      refine (grows_stop _).unsteady (hasked.body ▸ hbody) fun hs => hno ?_
      exact (hl (hasked.steady hs)).1.wanted hann hs
  · exact inv_storeUnit hactive hbody hl

/-- A complete body of an open capture. -/
lemma inv_takeUnit {p : List UInt8} (hactive : w.u.active = true) (hbody : w.u.body.length = 48)
    (ho : Steady w.log → GivenUp w ∨ Live [p] w) : Inv (takeUnit S p w) := by
  have hsession : Kept w (w.askSession S).2 := kept_askSession w
  -- the session is asked first, which keeps a capture alive or gives it up
  have hlive : Steady (w.askSession S).2.log → ¬ (!w.u.announced && w.u.closing) = true →
      Live [p] (w.askSession S).2 := by
    intro hs hopen
    rcases ho (hsession.grows.steady hs) with hgiven | hlive
    · exact absurd (by rw [hgiven.unannounced, hgiven.closing]; rfl) hopen
    · rcases hsession.live hlive with hgiven | hstill
      · exact absurd (by rw [show w.u.announced = false from hgiven.unannounced,
          show w.u.closing = true from hgiven.closing]; rfl) hopen
      · exact hstill
  unfold takeUnit
  dsimp only
  split
  · rename_i hgone
    refine inv_opened hactive hbody fun hs => .inl ?_
    rcases ho hs with hgiven | hlive
    · exact hgiven
    · simp only [Bool.and_eq_true, Bool.not_eq_true'] at hgone
      exact absurd (hgone.1.symm.trans (hlive.closing hgone.2)) Bool.false_ne_true
  rename_i hopen
  split
  · rename_i howner
    refine (grows_prerollCancel _).unsteady (hsession.grows.body ▸ hbody) fun hs => howner ?_
    exact hs.owner.trans (hlive hs hopen).account.owner
  split
  · rename_i hempty
    have hemit := grows_emit (S := S) p (w.askSession S).2
    have hbody' : (emit S p (w.askSession S).2).2.u.body.length = 48 :=
      (congrArg List.length (hsession.grows.trans hemit).body).trans hbody
    have hnext : Steady (w.askSession S).2.log → Open (p :: []) (w.askSession S).2 := by
      intro hs
      have hopen := (hlive hs hopen).account
      rwa [contents_eq_nil_of_len hempty] at hopen
    split
    · -- the unit was sent at once, and the ring is as empty as before
      rename_i hyes
      by_cases hs : Steady (w.askSession S).2.log
      · have hsent := (hnext hs).emit hyes
        have hstill : (emit S p (w.askSession S).2).2.u.preroll.len = 0 := hsent.ring ▸ hempty
        refine inv_opened (hsent.active.trans hactive) hbody' fun _ => .inr ?_
        have hring := (hlive hs hopen).ring
        rw [← contents_eq_nil_of_len hstill] at hsent
        exact hsent.live (hsent.ring ▸ hring) fun _ => hstill
      · exact hemit.unsteady (hsession.grows.body ▸ hbody) hs
    · -- voice is not wanted yet, so the unit is the first of the ring
      rename_i hno
      by_cases hs : Steady (emit S p (w.askSession S).2).2.log
      · have hlive' := hlive (hemit.steady hs) hopen
        obtain ⟨hfalse, heq⟩ :=
          emit_refused hlive'.account.owner hlive'.closing hs (Bool.eq_false_iff.mpr hno)
        rw [heq]
        refine inv_keepUnit hactive hbody fun _ => ⟨hlive'.asked fun hyes => ?_, ?_⟩
        · exact absurd (hfalse.symm.trans hyes) Bool.false_ne_true
        · show Ev.asked false ∈ .asked (S.wanted w.env) :: _
          rw [show S.wanted w.env = false from hfalse]
          exact List.mem_cons_self
      · exact (grows_keepUnit p _).unsteady hbody' hs
  · rename_i hqueue
    refine inv_keepUnit (hsession.active.trans hactive) (hsession.grows.body ▸ hbody) fun hs => ?_
    have hlive' := hlive hs hopen
    refine ⟨hlive', ?_⟩
    by_contra hnever
    exact hqueue (hlive'.first hnever)

end Steps

end RemoteBridge.Unicom
