import RemoteBridge.Properties.PeerAgreement

/-!
# The pairing transaction

A call of `rb_pair_begin` opens the journal and is answered later, by whatever ends the pairing: the
success, a failed connection, a lost link, a security callback, a deadline or the host.  Several of these
can happen to the same attempt, and inside each other.

`pair_pending` decides which of them counts.  `Answered` says that it makes the answers unique: the owner
of a pending pairing has no answer yet, and an answer takes the pairing back.  `Settles` says in what state
the journal is left then: bound, or to be rolled back.
-/

namespace RemoteBridge

open World

variable {b : Build} {sdk : Sdk} {k : Nat} {w w' w₀ : World Radio}

/-! ## One answer for each call -/

/-- The calls that were answered, newest first. -/
def answers (trace : List RadioMark) : List Nat :=
  trace.filterMap fun m =>
    match m.ev with
    | .pairDone n => some n
    | _ => none

/-- No call of `rb_pair_begin` is answered twice. -/
structure Answered (r : Radio) : Prop where
  once : (answers r.trace).Nodup
  made : ∀ n ∈ answers r.trace, 0 < n ∧ n ≤ r.pairs
  pending : r.central.pairPending = true → r.owner ∉ answers r.trace ∧ 0 < r.owner ∧ r.owner ≤ r.pairs
  /-- What was answered before a call is older than the call. -/
  begun : ∀ l m rest n, r.trace = l ++ m :: rest → m.ev = .pairBegin n → ∀ n' ∈ answers rest, n' < n

/-- The events that neither begin nor answer a pairing. -/
def RadioEv.besides : RadioEv → Bool
  | .pairBegin _ | .pairDone _ => false
  | _ => true

lemma answers_cons_besides {m : RadioMark} (h : m.ev.besides = true) (trace : List RadioMark) :
    answers (m :: trace) = answers trace := by
  refine List.filterMap_cons_none ?_
  cases he : m.ev with
  | pairDone n =>
    rw [he] at h
    cases h
  | _ => rfl

lemma answers_cons_done {m : RadioMark} {n : Nat} (h : m.ev = .pairDone n) (trace : List RadioMark) :
    answers (m :: trace) = n :: answers trace := by
  refine List.filterMap_cons_some ?_
  rw [h]

namespace Answered

variable {r : Radio}

/-- Only the statics change, and no pairing begins. -/
lemma tune (h : Answered r) {c : Central} {board : Board}
    (hp : c.pairPending = true → r.central.pairPending = true) :
    Answered { r with central := c, board := board } :=
  ⟨h.once, h.made, fun hc => h.pending (hp hc), h.begun⟩

lemma record (h : Answered r) {e : RadioEv} (he : e.besides = true) : Answered (r.record e) := by
  have hsame : answers (r.record e).trace = answers r.trace := answers_cons_besides he r.trace
  refine ⟨?_, ?_, ?_, ?_⟩
  · rw [hsame]
    exact h.once
  · rw [hsame]
    exact h.made
  · rw [hsame]
    exact h.pending
  · intro l m rest n htrace hm
    cases l with
    | nil =>
      obtain ⟨rfl, -⟩ := List.cons.inj htrace
      have hev : e = .pairBegin n := hm
      rw [hev] at he
      cases he
    | cons m' l => exact h.begun l m rest n (List.cons.inj htrace).2 hm

lemma write (h : Answered r) (sdk : Sdk) (write : BondWrite) : Answered (r.write sdk write).2 := by
  unfold Radio.write
  dsimp only
  split
  · split
    · exact ((h.record rfl).tune id).record rfl
    · exact (h.tune id).record rfl
  · split
    · exact (h.record rfl).tune id
    · exact h.tune id

/-- A call is made. -/
lemma begin (h : Answered r) :
    Answered (Radio.record (.pairBegin (r.pairs + 1)) { r with pairs := r.pairs + 1 }) := by
  have hsame : answers (Radio.record (.pairBegin (r.pairs + 1)) { r with pairs := r.pairs + 1 }).trace =
      answers r.trace := rfl
  refine ⟨?_, ?_, ?_, ?_⟩
  · rw [hsame]
    exact h.once
  · rw [hsame]
    exact fun n hn => ⟨(h.made n hn).1, Nat.le_succ_of_le (h.made n hn).2⟩
  · rw [hsame]
    exact fun hp => ⟨(h.pending hp).1, (h.pending hp).2.1, Nat.le_succ_of_le (h.pending hp).2.2⟩
  · intro l m rest n htrace hm
    cases l with
    | nil =>
      obtain ⟨rfl, hrest⟩ := List.cons.inj htrace
      have hn : r.pairs + 1 = n := by simpa using hm
      intro n' hn'
      have hold : rest = r.trace := hrest.symm
      rw [hold] at hn'
      exact hn ▸ Nat.lt_succ_of_le (h.made n' hn').2
    | cons m' l => exact h.begun l m rest n (List.cons.inj htrace).2 hm

/-- A call is answered that was not yet. -/
lemma done (h : Answered r) {n : Nat} (hn : n ∉ answers r.trace) (hmade : 0 < n ∧ n ≤ r.pairs)
    (hp : r.central.pairPending = true → r.owner ≠ n) : Answered (r.record (.pairDone n)) := by
  have hcons : answers (r.record (.pairDone n)).trace = n :: answers r.trace :=
    answers_cons_done rfl r.trace
  refine ⟨?_, ?_, ?_, ?_⟩
  · rw [hcons]
    exact List.nodup_cons.mpr ⟨hn, h.once⟩
  · rw [hcons]
    intro n' hn'
    rcases List.mem_cons.mp hn' with rfl | hn'
    · exact hmade
    · exact h.made n' hn'
  · rw [hcons]
    intro hpend
    obtain ⟨hout, hrange⟩ := h.pending hpend
    exact ⟨fun hin => (List.mem_cons.mp hin).elim (hp hpend) hout, hrange⟩
  · intro l m rest n' htrace hm
    cases l with
    | nil =>
      obtain ⟨rfl, -⟩ := List.cons.inj htrace
      cases hm
    | cons m' l => exact h.begun l m rest n' (List.cons.inj htrace).2 hm

/-- The pairing is taken back and answered. -/
lemma unpend {v : World Radio} (h : Answered v.env) (hp : v.env.central.pairPending = true)
    (f : Central → Central) (hf : (f v.env.central).pairPending = false) (board : Board) :
    Answered (({ v with env := { v.env with board := board } } : World Radio).tune f).unpend.env := by
  obtain ⟨hout, hrange⟩ := h.pending hp
  have htuned : Answered { v.env with central := f v.env.central, board := board } :=
    h.tune fun hc => absurd (hf.symm.trans hc) Bool.false_ne_true
  refine (htuned.record rfl).done ?_ hrange ?_
  · exact hout
  · intro hc
    rw [show (f v.env.central).pairPending = true from hc] at hf
    cases hf

lemma binding (h : Answered w.env) (hp : w.env.central.pairPending = true) (flags : UInt8) :
    Answered (w.binding flags).env :=
  h.unpend hp (fun c => { c with pairPending := false }) rfl _

end Answered

lemma answers_append (l l' : List RadioMark) : answers (l ++ l') = answers l ++ answers l' :=
  List.filterMap_append

/-- The last call has no answer. -/
lemma Unanswered.not_mem {n : Nat} {r : Radio} (h : Unanswered n r) (ha : Answered r) :
    n ∉ answers r.trace := by
  obtain ⟨-, -, l, m, rest, htrace, hm, hl⟩ := h
  have hnone : answers l = [] := by
    refine List.filterMap_eq_nil_iff.mpr fun m' hm' => ?_
    cases he : m'.ev with
    | pairDone n' => exact absurd he (hl m' hm' n')
    | _ => rfl
  have hmark : answers (m :: rest) = answers rest := by
    refine List.filterMap_cons_none ?_
    rw [hm]
  rw [htrace, answers_append, hnone, hmark, List.nil_append]
  intro hin
  exact lt_irrefl n (ha.begun l m rest n htrace hm n hin)

/-- Every function of the firmware answers a call at most once. -/
lemma Drives.answered (h : Drives b sdk k w w') (hw : Answered w.env) : Answered w'.env := by
  induction h with
  | refl => exact hw
  | act f hf _ ih => exact ih hw
  | note e _ ih => exact ih hw
  | record e he _ ih =>
    refine (ih hw).record ?_
    cases e with
    | pairBegin n => cases he
    | pairDone n => cases he
    | _ => rfl
  | tune f hs _ ih => exact (ih hw).tune fun hp => hs.pairPending.symm.trans hp
  | fail hp _ ih => exact (ih hw).unpend hp _ rfl _
  | closed hk d ho hd _ ih => exact ih hw
  | discover hk a hf _ ih => exact (ih hw).record rfl
  | establish hk t a hf _ ih => exact (ih hw).record rfl
  | beginOp hk kind hd dl ho _ ih => exact ih hw
  | countPair hk _ ih => exact (ih hw).begin
  | refuse hk n hn _ ih =>
    refine (ih hw).done (hn.not_mem (ih hw)) ⟨Nat.zero_lt_of_lt hn.owner, hn.last.le⟩ fun _ => ?_
    exact Nat.ne_of_lt hn.owner
  | unwritten hk wr ha hr _ ih => exact (ih hw).write sdk wr
  | @pend k w₀ w₁ hk n f ha hr hn hf _ ih =>
    have hn' : Unanswered n (w₁.write sdk .pair).2.env := hn.write .pair
    have hwritten := (ih hw).write sdk .pair
    refine ⟨hwritten.once, hwritten.made, fun _ => ?_, hwritten.begun⟩
    exact ⟨hn'.not_mem hwritten, Nat.zero_lt_of_lt hn'.owner, hn'.last.le⟩
  | forget hk ha hr _ ih => exact ((ih hw).write sdk .forget).tune id
  | flag hk e hv hr _ ih => exact (ih hw).write sdk _
  | bind hk fl p hp hi hz ht hr _ ih => exact ((ih hw).binding hp fl).write sdk (.save p)
  | unbound hk fl p hp hi ht hr hm _ ihm ih =>
    exact (ihm (((ih hw).binding hp fl).write sdk (.save p))).tune id
  | erase hk hr _ ih => exact (ih hw).record rfl
  | recovered hk f f' hc hr hf hm hf' _ ihm ih =>
    have hcleared := (ih hw).write sdk .clear
    exact (ihm hcleared).tune fun hp => (hf' _).pairPending.symm.trans hp

/-! ## How the journal is left -/

/-- The journal of a pairing that got `id` is bound, or will be rolled back. -/
def Settles (id : UInt32) (w : World Radio) : Prop :=
  w.env.central.recovering = true ∨
    (w.env.board.committed.state = 1 ∧ w.env.board.committed.peerId = id ∧ id ≠ 0)

/-- Every pairing that was taken back since `w₀` has left its journal in order, and a pairing that was
pending is pending still or was taken back. -/
def Settled (w₀ w : World Radio) : Prop :=
  ∃ l, w.env.trace = l ++ w₀.env.trace ∧
    (∀ m ∈ l, ∀ id, m.ev = .unpended id → Settles id w) ∧
    (w₀.env.central.pairPending = true →
      w.env.central.pairPending = true ∨ ∃ m ∈ l, ∃ id, m.ev = .unpended id)

namespace Settled

lemma refl (w : World Radio) : Settled w w :=
  ⟨[], rfl, fun _ h => absurd h List.not_mem_nil, .inl⟩

/-- The trace grows, and what was in order stays so. -/
lemma grow (h : Settled w₀ w) {l : List RadioMark} (ht : w'.env.trace = l ++ w.env.trace)
    (hl : ∀ m ∈ l, ∀ id, m.ev = .unpended id → Settles id w')
    (hs : ∀ id, Settles id w → Settles id w')
    (hp : w.env.central.pairPending = true →
      w'.env.central.pairPending = true ∨ ∃ m ∈ l, ∃ id, m.ev = .unpended id) : Settled w₀ w' := by
  obtain ⟨l₀, ht₀, hl₀, hp₀⟩ := h
  refine ⟨l ++ l₀, ?_, fun m hm id he => ?_, fun hstart => ?_⟩
  · rw [ht, ht₀, List.append_assoc]
  · rcases List.mem_append.mp hm with hm | hm
    · exact hl m hm id he
    · exact hs id (hl₀ m hm id he)
  · rcases hp₀ hstart with hpend | ⟨m, hm, hid⟩
    · rcases hp hpend with hpend' | ⟨m, hm, hid⟩
      · exact .inl hpend'
      · exact .inr ⟨m, List.mem_append_left _ hm, hid⟩
    · exact .inr ⟨m, List.mem_append_right _ hm, hid⟩

/-- No pairing ends. -/
lemma keep (h : Settled w₀ w) (ht : Unended w.env.trace w'.env.trace)
    (hs : ∀ id, Settles id w → Settles id w')
    (hp : w.env.central.pairPending = true → w'.env.central.pairPending = true) : Settled w₀ w' := by
  obtain ⟨l, ht, hl⟩ := ht
  refine h.grow ht (fun m hm id he => ?_) hs fun hpend => .inl (hp hpend)
  have hend := hl m hm
  rw [he] at hend
  cases hend

/-- The pairing ends, and all that ended before is in order by itself. -/
lemma unpend (h : Settled w₀ w) {l : List RadioMark} (ht : w'.env.trace = l ++ w.env.trace) {m : RadioMark}
    {id : UInt32} (hm : m ∈ l) (he : m.ev = .unpended id)
    (hl : ∀ m ∈ l, ∀ id, m.ev = .unpended id → Settles id w')
    (hs : ∀ id, Settles id w → Settles id w') : Settled w₀ w' :=
  h.grow ht hl hs fun _ => .inr ⟨m, hm, id, he⟩

end Settled

lemma settles_of_same {id : UInt32} (hr : w.env.central.recovering = true → w'.env.central.recovering = true)
    (hc : w'.env.board.committed = w.env.board.committed) (h : Settles id w) : Settles id w' := by
  rcases h with hrec | hbound
  · exact .inl (hr hrec)
  · refine .inr ?_
    rw [hc]
    exact hbound

/-- A pending pairing has nothing before it that is in order. -/
lemma not_settles_of_pending {id : UInt32} (h : PendingPair w) : ¬ Settles id w := by
  rintro (hrec | ⟨hstate, -⟩)
  · rw [h.alone] at hrec
    cases hrec
  · rw [h.state] at hstate
    cases hstate

namespace Settled

lemma fail (h : Settled w₀ w) (hw : Bonded w) (hp : w.env.central.pairPending = true) :
    Settled w₀ (w.tune (Central.failPair w.env.storageState)).unpend := by
  have hrec : (w.tune (Central.failPair w.env.storageState)).unpend.env.central.recovering = true := by
    show (w.env.storageState == 3) = true
    exact beq_iff_eq.mpr (hw.pending hp).state
  obtain ⟨c, hc⟩ : ∃ l, (w.tune (Central.failPair w.env.storageState)).unpend.env.trace =
      l ++ w.env.trace ∧ ∃ m ∈ l, ∃ id, m.ev = .unpended id :=
    ⟨[_, _], rfl, _, List.mem_cons_of_mem _ (List.mem_cons_self ..), _, rfl⟩
  exact h.grow hc.1 (fun _ _ _ _ => .inl hrec) (fun _ _ => .inl hrec) fun _ => .inr hc.2

lemma pend (h : Settled w₀ w) (hw : Bonded w) {f : Central → Central} {n : Nat}
    (ha : Attempts w .pair) (hr : (w.write sdk .pair).1 = true)
    (hf : ∀ c, Central.Same { c with pairPending := true, securityBlocked := false } (f c)) :
    Settled w₀ { (w.write sdk .pair).2.tune f with
      env := { ((w.write sdk .pair).2.tune f).env with owner := n } } := by
  obtain ⟨-, hrec⟩ := ha
  obtain ⟨-, -, hfree, -⟩ := committed_write_done hw.loaded hr
  refine h.keep (.write .pair w) (fun id hid => ?_) fun _ => (hf _).pairPending
  rcases hid with hrec' | ⟨hstate, hpeer, hz⟩
  · rw [hrec] at hrec'
    cases hrec'
  · exact absurd ⟨hstate, hpeer ▸ hz⟩ hfree

lemma forget (h : Settled w₀ w) :
    Settled w₀ ((w.write sdk .forget).2.tune fun c => { c.recover with deleteReport := true }) := by
  refine h.keep (.write .forget w) (fun _ _ => .inl rfl) fun hp => ?_
  show (w.write sdk .forget).2.env.central.pairPending = true
  rw [central_write]
  exact hp

lemma flag (h : Settled w₀ w) (hw : Bonded w) (enabled : Bool) (hv : w.srv.device.peerValid = true)
    (hr : ((w.flagged enabled).write sdk (.save (w.flagged enabled).srv.device.peer)).1 = true) :
    Settled w₀ ((w.flagged enabled).write sdk (.save (w.flagged enabled).srv.device.peer)).2 := by
  have hloaded : (w.flagged enabled).env.board.loaded = true := hw.loaded
  obtain ⟨hnew, -⟩ := committed_write_done hloaded hr
  refine h.keep (.write _ (w.flagged enabled)) (fun id hid => ?_) fun hp => ?_
  · rcases hid with hrec | ⟨hstate, hpeer, hz⟩
    · refine .inl ?_
      rw [central_write]
      exact hrec
    · refine .inr ?_
      rw [hnew]
      refine ⟨rfl, ?_, hz⟩
      rcases (hw.bound hv).2 with hbinds | ⟨hdel, -⟩
      · exact hbinds.id.symm.trans hpeer
      · rw [hdel] at hstate
        cases hstate
  · rw [central_write]
    exact hp

/-- The trace of a pairing that ends with a save. -/
lemma trace_binding (flags : UInt8) (peer : PeerRecord) (w : World Radio) :
    ∃ l, ((w.binding flags).write sdk (.save peer)).2.env.trace = l ++ w.env.trace ∧
      (∀ m ∈ l, ∀ id, m.ev = .unpended id → id = w.env.board.committed.counter) ∧
      ∃ m ∈ l, ∃ id, m.ev = .unpended id := by
  have hcounter : Board.boardPeerCounter
      ((w.stage flags).tune fun c => { c with pairPending := false }).env.board =
        w.env.board.committed.counter := by
    rw [← committed_stage flags w]
    exact (Board.boardPeerCounter_loadSlots _).symm
  obtain ⟨l, ht, hl⟩ := @Unended.write sdk (.save peer) (w.binding flags)
  obtain ⟨pair, hpair, hdone, hunp⟩ : ∃ pair, (w.binding flags).env.trace = pair ++ w.env.trace ∧
      (∀ m ∈ pair, ∀ id, m.ev = .unpended id → id = w.env.board.committed.counter) ∧
      ∃ m ∈ pair, ∃ id, m.ev = .unpended id := by
    refine ⟨[_, _], rfl, fun m hm id he => ?_, _, List.mem_cons_of_mem _ (List.mem_cons_self ..), _, rfl⟩
    rcases List.mem_cons.mp hm with rfl | hm
    · cases he
    · rw [List.mem_singleton.mp hm] at he
      rw [← hcounter]
      exact (RadioEv.unpended.inj he).symm
  refine ⟨l ++ pair, ?_, fun m hm id he => ?_, ?_⟩
  · rw [ht, hpair, List.append_assoc]
  · rcases List.mem_append.mp hm with hm | hm
    · have hend := hl m hm
      rw [he] at hend
      cases hend
    · exact hdone m hm id he
  · obtain ⟨m, hm, hid⟩ := hunp
    exact ⟨m, List.mem_append_right _ hm, hid⟩

lemma bind (h : Settled w₀ w) (hw : Bonded w) {flags : UInt8} {peer : PeerRecord}
    (hp : w.env.central.pairPending = true)
    (hi : peer = newPeer (Board.boardPeerCounter w.env.board)) (hz : peer.peerId ≠ 0)
    (hr : ((w.binding flags).write sdk (.save peer)).1 = true) :
    Settled w₀ (((w.binding flags).write sdk (.save peer)).2.act (Server.setPeer peer)) := by
  obtain ⟨l, ht, hl, hunp⟩ := @trace_binding sdk flags peer w
  have hid : w.env.board.committed.counter = peer.peerId := by
    rw [hi]
    exact Board.boardPeerCounter_loadSlots _
  obtain ⟨hnew, -⟩ := committed_write_done (hw.binding flags).loaded hr
  refine h.grow ht (fun m hm id he => .inr ?_)
    (fun id hid => absurd hid (not_settles_of_pending (hw.pending hp))) fun _ => .inr hunp
  show Committed.state (Board.committed ((w.binding flags).write sdk (.save peer)).2.env.board) = 1 ∧
    Committed.peerId (Board.committed ((w.binding flags).write sdk (.save peer)).2.env.board) = id ∧ id ≠ 0
  rw [hnew, hl m hm id he, hid]
  exact ⟨rfl, rfl, hz⟩

lemma unbound (h : Settled w₀ w) {flags : UInt8} {peer : PeerRecord}
    (hm : Drives b sdk 0 ((w.binding flags).write sdk (.save peer)).2 w') :
    Settled w₀ (w'.tune Central.recover) := by
  obtain ⟨l, ht, -, m, hin, hid⟩ := @trace_binding sdk flags peer w
  obtain ⟨l', ht'⟩ := hm.trace
  have htrace : (w'.tune Central.recover).env.trace = (l' ++ l) ++ w.env.trace := by
    rw [List.append_assoc, ← ht]
    exact ht'.symm
  exact h.grow htrace (fun _ _ _ _ => .inl rfl) (fun _ _ => .inl rfl) fun _ =>
    .inr ⟨m, List.mem_append_right _ hin, hid⟩

end Settled

/-- Up to the poll of a link, every pairing that is taken back leaves its journal in order. -/
lemma Drives.settled (h : Drives b sdk k w w') (hk : k ≤ 3) (hw : Bonded w) : Settled w w' := by
  induction h with
  | refl => exact .refl _
  | act f hf _ ih => exact (ih hk hw).keep (.refl _) (fun _ h => h) id
  | note e _ ih => exact (ih hk hw).keep (.refl _) (fun _ h => h) id
  | record e he _ ih => exact (ih hk hw).keep (.cons (quiet_of_plain he) _) (fun _ h => h) id
  | tune f hs _ ih =>
    refine (ih hk hw).keep (.refl _) (fun _ => settles_of_same (fun hrec => ?_) rfl) fun hp =>
      hs.pairPending.trans hp
    rcases hs.recovering with hsame | ⟨hk', -⟩
    · exact hsame.trans hrec
    · omega
  | fail hp hd ih => exact (ih hk hw).fail (hd.bonded hw) hp
  | closed hk' d ho hd _ ih => exact (ih hk hw).keep (.refl _) (fun _ h => h) id
  | discover hk' a hf _ ih => exact (ih hk hw).keep (.cons rfl _) (fun _ h => h) id
  | establish hk' t a hf _ ih => exact (ih hk hw).keep (.cons rfl _) (fun _ h => h) id
  | beginOp hk' kind hd dl ho _ ih => exact (ih hk hw).keep (.refl _) (fun _ h => h) id
  | countPair hk' _ ih => exact (ih hk hw).keep (.cons rfl _) (fun _ h => h) id
  | refuse hk' n hn _ ih =>
    refine (ih hk hw).grow (l := [_]) rfl (fun m hm id he => ?_) (fun _ h => h) .inl
    rw [List.mem_singleton.mp hm] at he
    cases he
  | unwritten hk' wr ha hr hd ih =>
    refine (ih hk hw).keep (.write wr _) (fun _ => settles_of_same ?_ ?_) ?_
    · rw [central_write]
      exact id
    · exact committed_write_failed (hd.bonded hw).loaded hr
    · rw [central_write]
      exact id
  | pend hk' n f ha hr hn hf hd ih => exact (ih hk hw).pend (hd.bonded hw) ha hr hf
  | forget hk' ha hr _ ih => exact (ih hk hw).forget
  | flag hk' e hv hr hd ih => exact (ih hk hw).flag (hd.bonded hw) e hv hr
  | bind hk' fl p hp hi hz ht hr hd ih => exact (ih hk hw).bind (hd.bonded hw) hp hi hz hr
  | unbound hk' fl p hp hi ht hr hm _ _ ih => exact (ih hk hw).unbound hm
  | erase hk' => omega
  | recovered hk' => omega

/-! ## The poll -/

/-- An SDK event does not touch the bond store. -/
lemma Drives.board_eq (h : Drives b sdk k w w') (hk : k ≤ 1) : w'.env.board = w.env.board := by
  induction h with
  | refl => rfl
  | act f hf _ ih => exact ih hk
  | note e _ ih => exact ih hk
  | record e he _ ih => exact ih hk
  | tune f hs _ ih => exact ih hk
  | fail hp _ ih => exact ih hk
  | closed hk' d ho hd _ ih => exact ih hk
  | discover hk' a hf _ ih => exact ih hk
  | establish hk' t a hf _ ih => exact ih hk
  | beginOp hk' => omega
  | countPair hk' => omega
  | refuse hk' => omega
  | unwritten hk' => omega
  | pend hk' => omega
  | forget hk' => omega
  | flag hk' => omega
  | bind hk' => omega
  | unbound hk' => omega
  | erase hk' => omega
  | recovered hk' => omega

lemma Shifts.radioFaulted {c c' : Central} (h : Shifts k c c') (hf : c.radioFaulted = true) :
    c'.radioFaulted = true := by
  cases h with
  | free h => exact h.radioFaulted.trans hf
  | drop h => exact h.radioFaulted.trans hf
  | demote state hd hn h => exact h.radioFaulted.trans hf
  | fault hk h => exact h.radioFaulted
  | block hk hs h => exact h.radioFaulted.trans hf
  | linkUp hk handle h => exact h.radioFaulted.trans hf
  | linkDown hk h => exact h.radioFaulted.trans hf
  | rest hk hs h => exact h.radioFaulted.trans hf
  | connect hk hs h => exact h.radioFaulted.trans hf
  | scan hk hs h => exact h.radioFaulted.trans hf
  | resolve hk hs hb h => exact h.radioFaulted.trans hf
  | aim hk next hb h => exact h.radioFaulted.trans hf
  | endRecovery hk h => exact h.radioFaulted.trans hf
  | unblock hk h => exact h.radioFaulted.trans hf

/-- A radio that has failed stays so. -/
lemma Drives.radioFaulted (h : Drives b sdk k w w') (hk : k ≤ 1)
    (hf : w.env.central.radioFaulted = true) : w'.env.central.radioFaulted = true := by
  induction h with
  | refl => exact hf
  | act f _ _ ih => exact ih hk hf
  | note e _ ih => exact ih hk hf
  | record e he _ ih => exact ih hk hf
  | tune f hs _ ih => exact hs.radioFaulted (ih hk hf)
  | fail hp _ ih => exact ih hk hf
  | closed hk' d ho hd _ ih => exact ih hk hf
  | discover hk' a _ _ ih => exact ih hk hf
  | establish hk' t a _ _ ih => exact ih hk hf
  | beginOp hk' => omega
  | countPair hk' => omega
  | refuse hk' => omega
  | unwritten hk' => omega
  | pend hk' => omega
  | forget hk' => omega
  | flag hk' => omega
  | bind hk' => omega
  | unbound hk' => omega
  | erase hk' => omega
  | recovered hk' => omega

/-- How the end of the pairing with the given id leaves the firmware: bound, to be rolled back, or failed
with the journal still open. -/
def PairLeft (id : UInt32) (w : World Radio) : Prop :=
  (w.env.board.committed.state = 1 ∧ w.env.board.committed.peerId = id) ∨
    w.env.central.recovering = true ∨
    (w.env.central.radioFaulted = true ∧ w.env.board.committed.state = 3)

/-- What an input makes of the pairing transaction. -/
structure PairStep (w w' : World Radio) : Prop where
  ended : ∃ l, w'.env.trace = l ++ w.env.trace ∧
    (∀ m ∈ l, ∀ id, m.ev = .unpended id → PairLeft id w') ∧
    (w.env.central.pairPending = true → w'.env.central.pairPending = false →
      ∃ m ∈ l, ∃ id, m.ev = .unpended id)

lemma Settled.pairStep (h : Settled w w') : PairStep w w' := by
  obtain ⟨l, ht, hl, hp⟩ := h
  refine ⟨l, ht, fun m hm id he => ?_, fun hstart hend => ?_⟩
  · rcases hl m hm id he with hrec | ⟨hstate, hid, -⟩
    · exact .inr (.inl hrec)
    · exact .inl ⟨hstate, hid⟩
  · refine (hp hstart).resolve_left fun hpend => ?_
    rw [hend] at hpend
    cases hpend

/-- Nothing ends where nothing is pending. -/
lemma Unended.pairStep (h : Unended w.env.trace w'.env.trace)
    (hp : w.env.central.pairPending = false) : PairStep w w' := by
  obtain ⟨l, ht, hl⟩ := h
  refine ⟨l, ht, fun m hm id he => ?_, fun hstart => ?_⟩
  · have hend := hl m hm
    rw [he] at hend
    cases hend
  · rw [hp] at hstart
    cases hstart

lemma Polled.pairStep (h : Polled b sdk w w') (hw : Bonded w) : PairStep w w' := by
  cases h with
  | event h => exact (h.settled (by omega) hw).pairStep
  | recovery hc h =>
    have hp := hw.not_pending_of_recovering hc
    exact (h.quiet (by decide) hp).2.pairStep hp
  | link h => exact (h.settled le_rfl hw).pairStep
  | failed w₁ h hf hc h' =>
    by_cases hp : w.env.central.pairPending = true
    · -- the pairing fails with the radio, and its journal stays as it is
      have hp₁ : w₁.env.central.pairPending = false := (h.bonded hw).not_pending_of_recovering hc
      obtain ⟨l, ht, -, hended⟩ := h.settled (by omega) hw
      obtain ⟨l', ht', hl'⟩ := (h'.quiet (by decide) hp₁).2
      have hboard : w'.env.board = w.env.board := (h'.board_eq le_rfl).trans (h.board_eq le_rfl)
      have hleft (id : UInt32) : PairLeft id w' := by
        refine .inr (.inr ⟨h'.radioFaulted le_rfl hf, ?_⟩)
        rw [hboard]
        exact (hw.pending hp).state
      refine ⟨l' ++ l, ?_, fun _ _ id _ => hleft id, fun _ _ => ?_⟩
      · rw [ht', List.append_assoc, ← ht]
        rfl
      · have hno : ¬ w₁.env.central.pairPending = true := by
          rw [hp₁]
          exact Bool.false_ne_true
        obtain ⟨m, hm, hid⟩ := (hended hp).resolve_left hno
        exact ⟨m, List.mem_append_right _ hm, hid⟩
    · rw [Bool.not_eq_true] at hp
      obtain ⟨hp₁, hq₁⟩ := h.quiet (by decide) hp
      exact (hq₁.trans (h'.quiet (by decide) hp₁).2).pairStep hp

lemma Stepped.pairStep (h : Stepped b sdk w w') (hw : Bonded w) : PairStep w w' := by
  cases h with
  | clock nowMs h =>
    rw [h]
    have hsettled : Settled w { w with env := { w.env with nowMs := nowMs } } :=
      (Settled.refl w).keep (.refl _) (fun _ h => h) id
    exact hsettled.pairStep
  | event h => exact (h.settled (by omega) hw).pairStep
  | request h => exact (h.settled (by omega) hw).pairStep
  | polled h => exact h.pairStep hw

lemma Stepped.answered (h : Stepped b sdk w w') (hw : Answered w.env) : Answered w'.env := by
  cases h with
  | clock nowMs h =>
    rw [h]
    exact ⟨hw.once, hw.made, hw.pending, hw.begun⟩
  | event h => exact h.answered hw
  | request h => exact h.answered hw
  | polled h =>
    cases h with
    | event h => exact h.answered hw
    | failed w₁ h hf hc h' => exact h'.answered ((h.answered hw).tune id)
    | recovery hc h => exact h.answered hw
    | link h => exact h.answered hw

lemma answered_boot (r : Reset) (sdk : Sdk) (n : Nat) : Answered (r.boot b sdk n []).env := by
  have hfresh : Answered (r.world b []).env := by
    refine ⟨List.nodup_nil, fun _ h => absurd h List.not_mem_nil, fun hp => (nomatch hp), ?_⟩
    intro l m rest n' htrace hm
    cases l with
    | nil =>
      obtain ⟨rfl, -⟩ := List.cons.inj htrace
      cases hm
    | cons m' l => exact absurd (List.cons.inj htrace).2 (by simp)
  obtain ⟨w₁, h₁, h₂⟩ := wchCentralInit_drives b sdk n r.registered (r.world b [])
  exact h₂.answered ((h₁.answered hfresh).tune id)

lemma Boots.answered (h : Boots b w) : Answered w.env := by
  induction h with
  | reset r sdk n => exact answered_boot r sdk n
  | input i sdk n hw ih => exact (i.kept sdk n hw.kept).1.answered ih

/-- In every run each call of `rb_pair_begin` is answered at most once, a pending pairing has its journal
open, and whatever the next input takes back leaves the journal bound, to be rolled back, or open on a radio
that has failed. -/
theorem boots_pairTransaction (h : Boots b w) :
    ((answers w.env.trace).Nodup ∧ ∀ n ∈ answers w.env.trace, 0 < n ∧ n ≤ w.env.pairs) ∧
      (w.env.central.pairPending = true → w.env.storageState = 3) ∧
      ∀ (i : RadioInput) (sdk : Sdk) (n : Nat), PairStep w (i.run b sdk (platform b sdk n) w) := by
  refine ⟨⟨h.answered.once, h.answered.made⟩, fun hp => (h.kept.bonded.pending hp).state, fun i sdk n => ?_⟩
  exact (i.kept sdk n h.kept).1.pairStep h.kept.bonded

/-- A pairing whose journal is open, and the poll that answers it. -/
theorem pairTransaction_boundBench :
    securedBench.env.storageState = 3 ∧ answers securedBench.env.trace = [] ∧
      PairStep securedBench boundBench ∧ answers boundBench.env.trace = [1] ∧
      boundBench.env.central.pairPending = false := by
  have hfacts : securedBench.env.central.pairPending = true ∧ answers securedBench.env.trace = [] ∧
      answers boundBench.env.trace = [1] ∧ boundBench.env.central.pairPending = false := by
    decide +kernel
  obtain ⟨hpending, hnone, hone, hended⟩ := hfacts
  obtain ⟨-, hopen, hstep⟩ := boots_pairTransaction boots_securedBench
  exact ⟨hopen hpending, hnone, hstep .poll pairedSdk 4, hone, hended⟩

end RemoteBridge
