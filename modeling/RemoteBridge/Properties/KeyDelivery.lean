import RemoteBridge.Properties.KeyConvergence

/-!
# No key state is lost silently

While events are enabled on a connection, the key states that are sent are the reports in their order.
Where the queue overflows, the queued states and the report that did not fit are replaced by a reset and
a snapshot of the pressed keys.  An overflow that finds only the snapshot of the one before still queued
replaces it too, so a replaced block has one reset for each overflow whose reset was already sent, and a
snapshot behind the last of them.

The account of a run cuts the reports into pieces that were delivered and pieces that were replaced.
-/

namespace RemoteBridge

open World

variable {E : Type} {b : Build} {P : Platform E} {w₀ w : World E}

/-! ## The account of what was reported -/

/-- What a key frame says, apart from its number. -/
structure KeyState where
  kind : KeysKind
  reason : KeysReason
  bits : UInt64
  capturedUs : UInt64
  deriving DecidableEq, Repr

def KeyItem.state (it : KeyItem) : KeyState :=
  { kind := it.kind, reason := it.reason, bits := it.bits, capturedUs := it.capturedUs }

/-- The key state of a physical report. -/
def KeysReport.state (rep : KeysReport) : KeyState :=
  { kind := .physical, reason := rep.reason, bits := rep.pressedBits, capturedUs := rep.capturedUs }

/-- The reset of an overflow. -/
def overflowReset (capturedUs : UInt64) : KeyState :=
  { kind := .reset, reason := .overflow, bits := 0, capturedUs := capturedUs }

/-- The snapshot behind the reset: the pressed keys of the report that overflowed. -/
def KeyState.recovery (st : KeyState) : KeyState :=
  { kind := .snapshot, reason := .none, bits := st.bits, capturedUs := st.capturedUs }

/-- A piece of what was reported: one state that is delivered, or a block that was queued when the state
behind it overflowed the queue. -/
inductive Piece where
  | delivered (st : KeyState)
  | replaced (block : List KeyState) (last : KeyState) (resets : List UInt64)

/-- The states that a piece accounts for. -/
def Piece.states : Piece → List KeyState
  | .delivered st => [st]
  | .replaced block last _ => block ++ [last]

/-- The frames that stand for them. -/
def Piece.frames : Piece → List KeyState
  | .delivered st => [st]
  | .replaced _ last resets => resets.map overflowReset ++ [last.recovery]

/-- A replaced block fills the queue, and at least one reset announces that it is missing. -/
def Piece.Whole : Piece → Prop
  | .delivered _ => True
  | .replaced block _ resets => keyQueueDepth ≤ block.length ∧ resets ≠ []

/-- The frames account for the states, piece by piece. -/
def Accounts (states frames : List KeyState) : Prop :=
  ∃ pieces : List Piece, (∀ p ∈ pieces, p.Whole) ∧ pieces.flatMap Piece.states = states ∧
    pieces.flatMap Piece.frames = frames

lemma Accounts.refl (states : List KeyState) : Accounts states states := by
  refine ⟨states.map .delivered, ?_, ?_, ?_⟩
  · intro p hp
    obtain ⟨st, -, rfl⟩ := List.mem_map.mp hp
    trivial
  · induction states with
    | nil => rfl
    | cons st states ih => exact congrArg (st :: ·) ih
  · induction states with
    | nil => rfl
    | cons st states ih => exact congrArg (st :: ·) ih

/-- A report that finds room is delivered as it is. -/
lemma Accounts.snoc {states frames : List KeyState} (h : Accounts states frames) (st : KeyState) :
    Accounts (states ++ [st]) (frames ++ [st]) := by
  obtain ⟨pieces, hwhole, rfl, rfl⟩ := h
  refine ⟨pieces ++ [.delivered st], ?_, ?_, ?_⟩
  · intro p hp
    rcases List.mem_append.mp hp with hp | hp
    · exact hwhole p hp
    · obtain rfl := List.mem_singleton.mp hp
      trivial
  · rw [List.flatMap_append]
    rfl
  · rw [List.flatMap_append]
    rfl

/-- The states of pieces are as many as their frames, as long as the frames fit into the queue. -/
lemma length_states {pieces : List Piece} (hwhole : ∀ p ∈ pieces, p.Whole)
    (hlen : keyQueueDepth ≤ (pieces.flatMap Piece.frames).length) :
    keyQueueDepth ≤ (pieces.flatMap Piece.states).length := by
  by_cases hall : ∀ p ∈ pieces, p.states = p.frames
  · rwa [List.flatMap_congr hall]
  · push Not at hall
    obtain ⟨p, hp, hne⟩ := hall
    have hp' : p.states.length ≤ (pieces.flatMap Piece.states).length :=
      (List.sublist_flatten_of_mem (List.mem_map_of_mem hp)).length_le
    cases p with
    | delivered st => exact absurd rfl hne
    | replaced block last resets =>
      have hblock := (hwhole _ hp).1
      simp only [Piece.states, List.length_append, List.length_singleton] at hp'
      omega

/-- What is cut off the front of a piece consists of resets of overflows. -/
lemma Piece.front {p : Piece} {front back : List KeyState} (h : p.frames = front ++ back)
    (hback : back ≠ []) : ∃ resets : List UInt64, front = resets.map overflowReset := by
  cases p with
  | delivered st =>
    cases front with
    | nil => exact ⟨[], rfl⟩
    | cons f front =>
      obtain ⟨-, hnil⟩ := List.append_eq_nil_iff.mp (List.cons.inj h).2.symm
      exact absurd hnil hback
  | replaced block last resets =>
    obtain ⟨back', st, rfl⟩ := List.eq_nil_or_concat' back |>.resolve_left hback
    have hinit : resets.map overflowReset = front ++ back' := by
      have h' : resets.map overflowReset ++ [last.recovery] = front ++ back' ++ [st] := by
        rw [List.append_assoc]
        exact h
      exact (List.append_inj' h' rfl).1
    obtain ⟨sent, rest, -, hsent, -⟩ := List.map_eq_append_iff.mp hinit
    exact ⟨sent, hsent.symm⟩

/-- A state that finds the queue full is replaced together with everything queued. -/
lemma Accounts.overflow {states sent waiting : List KeyState} (h : Accounts states (sent ++ waiting))
    (hfull : keyQueueDepth ≤ waiting.length) (st : KeyState) :
    Accounts (states ++ [st]) (sent ++ [overflowReset st.capturedUs, st.recovery]) := by
  obtain ⟨pieces, hwhole, rfl, hframes⟩ := h
  -- the pieces that are sent, what is sent of the piece that is cut, and the pieces still queued
  have hcut : ∃ (done : List Piece) (front : List UInt64) (rest : List Piece), pieces = done ++ rest ∧
      sent = done.flatMap Piece.frames ++ front.map overflowReset ∧
      keyQueueDepth ≤ (rest.flatMap Piece.frames).length := by
    rcases List.flatten_eq_append_iff.mp hframes with ⟨as, bs, has, rfl, rfl⟩ | ⟨as, bs, c, cs, ds, has, rfl, hw⟩
    · obtain ⟨done, rest, rfl, rfl, rfl⟩ := List.map_eq_append_iff.mp has
      exact ⟨done, [], rest, rfl, by simp [List.flatMap_def], hfull⟩
    · obtain ⟨done, rest, rfl, rfl, hrest⟩ := List.map_eq_append_iff.mp has
      obtain ⟨p, later, rfl, hp, rfl⟩ := List.map_eq_cons_iff.mp hrest
      obtain ⟨front, rfl⟩ := Piece.front hp (List.cons_ne_nil c cs)
      refine ⟨done, front, p :: later, rfl, by rw [List.flatMap_def], ?_⟩
      rw [hw] at hfull
      rw [List.flatMap_cons, hp, List.append_assoc, List.length_append, List.flatMap_def]
      omega
  obtain ⟨done, front, rest, rfl, rfl, hlen⟩ := hcut
  have hblock := length_states (fun p hp => hwhole p (List.mem_append_right _ hp)) hlen
  refine ⟨done ++ [.replaced (rest.flatMap Piece.states) st (front ++ [st.capturedUs])], ?_, ?_, ?_⟩
  · intro p hp
    rcases List.mem_append.mp hp with hp | hp
    · exact hwhole p (List.mem_append_left _ hp)
    · obtain rfl := List.mem_singleton.mp hp
      exact ⟨hblock, by simp⟩
  · simp [Piece.states]
  · simp [Piece.frames]

/-! ## Runs of reports and flushes -/

/-- The key frames that were sent, the first one first. -/
def keyFrames : List Ev → List KeyItem
  | [] => []
  | .emitted (.key it) _ _ :: l => keyFrames l ++ [it]
  | _ :: l => keyFrames l

/-- A frame still has a number in this session; without one, a flush ends the session and disables
events. -/
def Server.numbersFrame (s : Server) : Bool :=
  s.session.nextTxSeq != 0 && s.session.nextTxSeq != 0xffffffff

variable (b P) in
/-- Physical reports and flushes from `w₀` on, with events enabled all the time: the reports, and how many
of them found the queue full.  Anything else may happen between them that neither queues nor sends a key
state. -/
inductive KeyRun (w₀ : World E) : List KeysReport → Nat → World E → Prop
  | start : KeyRun w₀ [] 0 w₀
  | fits {reps : List KeysReport} {full : Nat} {w : World E} (rep : KeysReport)
      (hkind : rep.kind = .physical) (hroom : w.srv.keys.queue.length < keyQueueDepth)
      (h : KeyRun w₀ reps full w) : KeyRun w₀ (reps ++ [rep]) full (onKeys rep w)
  | overflows {reps : List KeysReport} {full : Nat} {w : World E} (rep : KeysReport)
      (hkind : rep.kind = .physical) (hfull : keyQueueDepth ≤ w.srv.keys.queue.length)
      (h : KeyRun w₀ reps full w) : KeyRun w₀ (reps ++ [rep]) (full + 1) (onKeys rep w)
  | flush {reps : List KeysReport} {full : Nat} {w : World E} (hseq : w.srv.numbersFrame = true)
      (h : KeyRun w₀ reps full w) : KeyRun w₀ reps full (keysFlushOne b P w).2
  | aside {reps : List KeysReport} {full : Nat} {w w' : World E} (hkeys : w'.srv.keys = w.srv.keys)
      (hlog : keyFrames w'.log = keyFrames w.log) (h : KeyRun w₀ reps full w) :
      KeyRun w₀ reps full w'

/-- Events are enabled, and what is queued is numbered upwards to the current number. -/
structure Subscribed (k : Keys) : Prop where
  enabled : k.enabled = true
  numbered : k.queue.Pairwise (·.inputSeq < ·.inputSeq)
  reached : ∀ it ∈ k.queue, it.inputSeq ≤ k.inputSeq

/-- A flush that has a number for its frame sends the first queued state, or it changes nothing. -/
lemma keysFlushOne_numbered (hseq : w.srv.numbersFrame = true) :
    (keysFlushOne b P w).2 = w ∨ ∃ it rest, w.srv.keys.queue = it :: rest ∧
      (keysFlushOne b P w).2.srv.keys = { w.srv.keys with queue := rest } ∧
      keyFrames (keysFlushOne b P w).2.log = keyFrames w.log ++ [it] := by
  unfold keysFlushOne
  split
  · exact .inl rfl
  · next it rest hq =>
    unfold Server.numbersFrame at hseq
    simp only [Bool.and_eq_true, bne_iff_ne] at hseq
    unfold outTryFrame
    simp only [Bool.or_eq_true, beq_iff_eq, hseq.1, hseq.2, or_self, if_false]
    by_cases hroom : b.outRing - w.srv.out.len < headerSize + it.buf.length + 6
    · exact .inl (by rw [if_pos hroom])
    · rw [if_neg hroom]
      split
      · next heq =>
        split at heq
        · exact .inl (Prod.mk.inj heq).2.symm
        · next bytes next _ =>
          by_cases hlen : b.outRing - w.srv.out.len < bytes.length
          · rw [if_pos hlen] at heq
            exact .inl (Prod.mk.inj heq).2.symm
          · rw [if_neg hlen] at heq
            cases (Prod.mk.inj heq).1
      · next heq =>
        split at heq
        · cases (Prod.mk.inj heq).1
        · next bytes next _ =>
          by_cases hlen : b.outRing - w.srv.out.len < bytes.length
          · rw [if_pos hlen] at heq
            cases (Prod.mk.inj heq).1
          · rw [if_neg hlen] at heq
            obtain rfl := (Prod.mk.inj heq).2
            refine .inr ⟨it, rest, hq, ?_, rfl⟩
            change { w.srv.keys with queue := w.srv.keys.queue.tail } = _
            rw [hq]
            rfl

/-- What the queue holds after a physical report that it has room for. -/
lemma keys_fits {s : Server} (he : s.keys.enabled = true) {rep : KeysReport}
    (hkind : rep.kind = .physical) (hroom : s.keys.queue.length < keyQueueDepth) :
    ∃ it : KeyItem, (s.applyKeys rep).keys.queue = s.keys.queue ++ [it] ∧
      it.inputSeq = s.keys.inputSeq + 1 ∧ it.state = rep.state ∧
      (s.applyKeys rep).keys.inputSeq = s.keys.inputSeq + 1 ∧
      (s.applyKeys rep).keys.enabled = true := by
  have hnot : ¬ s.keys.queue.length ≥ keyQueueDepth := by omega
  simp only [Server.applyKeys, hkind, Server.keysEmit, Server.keyPush, Server.setPressed,
    Server.setCaptured, Server.bumpInput, he, Bool.not_true, Bool.false_eq_true, if_false, if_neg hnot,
    Option.getD_some]
  exact ⟨_, rfl, rfl, rfl, trivial, trivial⟩

/-- What the queue holds after a physical report that it has no room for. -/
lemma keys_overflows {s : Server} (he : s.keys.enabled = true) {rep : KeysReport}
    (hkind : rep.kind = .physical) (hfull : keyQueueDepth ≤ s.keys.queue.length) :
    ∃ it₁ it₂ : KeyItem, (s.applyKeys rep).keys.queue = [it₁, it₂] ∧
      it₁.inputSeq = s.keys.inputSeq + 1 + 1 ∧ it₁.state = overflowReset rep.capturedUs ∧
      it₂.inputSeq = s.keys.inputSeq + 1 + 1 + 1 ∧ it₂.state = rep.state.recovery ∧
      (s.applyKeys rep).keys.inputSeq = s.keys.inputSeq + 1 + 1 + 1 ∧
      (s.applyKeys rep).keys.enabled = true := by
  simp only [Server.applyKeys, hkind, Server.keysEmit, Server.keyPush, Server.setPressed,
    Server.setCaptured, Server.bumpInput, he, Bool.not_true, Bool.false_eq_true, if_false,
    if_pos (ge_iff_le.mpr hfull), Option.getD_none]
  exact ⟨_, _, rfl, rfl, rfl, rfl, rfl, rfl, rfl⟩

/-- What a run keeps: what it sent and what it still holds account for the reports, and while the numbers
last they go up. -/
structure Delivery (w₀ : World E) (reps : List KeysReport) (full : Nat) (w : World E)
    (sent : List KeyItem) : Prop where
  frames : keyFrames w.log = keyFrames w₀.log ++ sent
  enabled : w.srv.keys.enabled = true
  account : Accounts (w₀.srv.keys.queue.map KeyItem.state ++ reps.map KeysReport.state)
    ((sent ++ w.srv.keys.queue).map KeyItem.state)
  unbroken : full = 0 → (sent ++ w.srv.keys.queue).map KeyItem.state =
    w₀.srv.keys.queue.map KeyItem.state ++ reps.map KeysReport.state
  counted : w₀.srv.keys.inputSeq.toNat + reps.length + 2 * full < 2 ^ 32 →
    w.srv.keys.inputSeq.toNat = w₀.srv.keys.inputSeq.toNat + reps.length + 2 * full
  numbered : w₀.srv.keys.inputSeq.toNat + reps.length + 2 * full < 2 ^ 32 →
    (sent ++ w.srv.keys.queue).Pairwise (·.inputSeq < ·.inputSeq)
  reached : w₀.srv.keys.inputSeq.toNat + reps.length + 2 * full < 2 ^ 32 →
    ∀ it ∈ sent ++ w.srv.keys.queue, it.inputSeq ≤ w.srv.keys.inputSeq

namespace Delivery

variable {reps : List KeysReport} {full : Nat} {sent : List KeyItem} {w' : World E}

/-- The world moves on with the same states sent and held. -/
lemma carry (h : Delivery w₀ reps full w sent) {sent' : List KeyItem}
    (hlog : keyFrames w'.log = keyFrames w₀.log ++ sent')
    (hheld : sent' ++ w'.srv.keys.queue = sent ++ w.srv.keys.queue)
    (he : w'.srv.keys.enabled = w.srv.keys.enabled) (hseq : w'.srv.keys.inputSeq = w.srv.keys.inputSeq) :
    Delivery w₀ reps full w' sent' where
  frames := hlog
  enabled := he.trans h.enabled
  account := hheld ▸ h.account
  unbroken := hheld ▸ h.unbroken
  counted := hseq ▸ h.counted
  numbered := hheld ▸ h.numbered
  reached := hheld ▸ hseq ▸ h.reached

lemma flush (h : Delivery w₀ reps full w sent) (hseq : w.srv.numbersFrame = true) :
    ∃ sent', Delivery w₀ reps full (keysFlushOne b P w).2 sent' := by
  rcases keysFlushOne_numbered (b := b) (P := P) hseq with hsame | ⟨it, rest, hq, hkeys, hlog⟩
  · exact ⟨sent, hsame.symm ▸ h⟩
  · refine ⟨sent ++ [it], h.carry ?_ ?_ (by rw [hkeys]) (by rw [hkeys])⟩
    · rw [hlog, h.frames, List.append_assoc]
    · rw [hkeys, hq, List.append_assoc]
      rfl

lemma fits (h : Delivery w₀ reps full w sent) {rep : KeysReport} (hkind : rep.kind = .physical)
    (hroom : w.srv.keys.queue.length < keyQueueDepth) :
    Delivery w₀ (reps ++ [rep]) full (onKeys rep w) sent := by
  obtain ⟨it, hq, hit, hst, hseq, he⟩ := keys_fits h.enabled hkind hroom
  have hnext (hb : w₀.srv.keys.inputSeq.toNat + (reps ++ [rep]).length + 2 * full < 2 ^ 32) :
      (w.srv.keys.inputSeq + 1).toNat = w₀.srv.keys.inputSeq.toNat + reps.length + 2 * full + 1 := by
    rw [List.length_append, List.length_singleton] at hb
    exact toNat_succ (h.counted (by omega)) (by omega)
  have hlower (hb : w₀.srv.keys.inputSeq.toNat + (reps ++ [rep]).length + 2 * full < 2 ^ 32) :
      w₀.srv.keys.inputSeq.toNat + reps.length + 2 * full < 2 ^ 32 := by
    rw [List.length_append, List.length_singleton] at hb
    omega
  have hbelow (hb : w₀.srv.keys.inputSeq.toNat + (reps ++ [rep]).length + 2 * full < 2 ^ 32) :
      ∀ x ∈ sent ++ w.srv.keys.queue, x.inputSeq < w.srv.keys.inputSeq + 1 := by
    intro x hx
    have hle := UInt32.le_iff_toNat_le.mp (h.reached (hlower hb) x hx)
    rw [UInt32.lt_iff_toNat_lt, hnext hb]
    have hcount := h.counted (hlower hb)
    omega
  refine ⟨h.frames, he, ?_, fun hfull => ?_, fun hb => ?_, fun hb => ?_, fun hb => ?_⟩
  · change Accounts _ ((sent ++ (w.srv.applyKeys rep).keys.queue).map KeyItem.state)
    have hheld : (sent ++ w.srv.keys.queue ++ [it]).map KeyItem.state =
        (sent ++ w.srv.keys.queue).map KeyItem.state ++ [rep.state] := by
      rw [List.map_append, List.map_singleton, hst]
    have hstates : (reps ++ [rep]).map KeysReport.state = reps.map KeysReport.state ++ [rep.state] := by
      rw [List.map_append, List.map_singleton]
    rw [hq, ← List.append_assoc, hheld, hstates, ← List.append_assoc]
    exact h.account.snoc rep.state
  · change (sent ++ (w.srv.applyKeys rep).keys.queue).map KeyItem.state = _
    rw [hq, ← List.append_assoc, List.map_append, h.unbroken hfull, List.map_append,
      List.append_assoc, List.map_singleton, List.map_singleton, hst]
  · change (w.srv.applyKeys rep).keys.inputSeq.toNat = _
    rw [hseq, hnext hb, List.length_append, List.length_singleton]
    omega
  · change (sent ++ (w.srv.applyKeys rep).keys.queue).Pairwise _
    rw [hq, ← List.append_assoc]
    refine List.pairwise_append.mpr ⟨h.numbered (hlower hb), List.pairwise_singleton _ _, ?_⟩
    intro x hx y hy
    obtain rfl := List.mem_singleton.mp hy
    exact hit ▸ hbelow hb x hx
  · change ∀ x ∈ sent ++ (w.srv.applyKeys rep).keys.queue, x.inputSeq ≤ (w.srv.applyKeys rep).keys.inputSeq
    rw [hq, hseq, ← List.append_assoc]
    intro x hx
    rcases List.mem_append.mp hx with hx | hx
    · exact UInt32.le_of_lt (hbelow hb x hx)
    · obtain rfl := List.mem_singleton.mp hx
      exact UInt32.le_of_eq hit

lemma overflows (h : Delivery w₀ reps full w sent) {rep : KeysReport} (hkind : rep.kind = .physical)
    (hfull : keyQueueDepth ≤ w.srv.keys.queue.length) :
    Delivery w₀ (reps ++ [rep]) (full + 1) (onKeys rep w) sent := by
  obtain ⟨it₁, it₂, hq, h₁, hst₁, h₂, hst₂, hseq, he⟩ := keys_overflows h.enabled hkind hfull
  -- as long as the numbers last, the report takes one and the two items that replace the queue the next two
  have hcount (hb : w₀.srv.keys.inputSeq.toNat + (reps ++ [rep]).length + 2 * (full + 1) < 2 ^ 32) :
      it₁.inputSeq.toNat = w.srv.keys.inputSeq.toNat + 2 ∧
      it₂.inputSeq.toNat = w.srv.keys.inputSeq.toNat + 3 ∧
      w.srv.keys.inputSeq.toNat = w₀.srv.keys.inputSeq.toNat + reps.length + 2 * full ∧
      w₀.srv.keys.inputSeq.toNat + reps.length + 2 * full < 2 ^ 32 := by
    rw [List.length_append, List.length_singleton] at hb
    have hold := h.counted (by omega)
    have hone := toNat_succ (x := w.srv.keys.inputSeq) rfl (by omega)
    have htwo := toNat_succ hone (by omega)
    have hthree := toNat_succ htwo (by omega)
    exact ⟨h₁ ▸ htwo, h₂ ▸ hthree, hold, by omega⟩
  refine ⟨h.frames, he, ?_, nofun, fun hb => ?_, fun hb => ?_, fun hb => ?_⟩
  · change Accounts _ ((sent ++ (w.srv.applyKeys rep).keys.queue).map KeyItem.state)
    have hstates : (reps ++ [rep]).map KeysReport.state = reps.map KeysReport.state ++ [rep.state] := by
      rw [List.map_append, List.map_singleton]
    have hacc := h.account
    rw [hq, hstates, ← List.append_assoc, List.map_append, List.map_cons, List.map_singleton, hst₁, hst₂]
    rw [List.map_append] at hacc
    exact hacc.overflow (by rwa [List.length_map]) rep.state
  · obtain ⟨-, htwo, hold, -⟩ := hcount hb
    change (w.srv.applyKeys rep).keys.inputSeq.toNat = _
    rw [hseq, ← h₂, htwo, hold, List.length_append, List.length_singleton]
    omega
  · obtain ⟨hone, htwo, hold, hlower⟩ := hcount hb
    have hsent : ∀ x ∈ sent, x.inputSeq.toNat ≤ w.srv.keys.inputSeq.toNat := fun x hx =>
      UInt32.le_iff_toNat_le.mp (h.reached hlower x (List.mem_append_left _ hx))
    change (sent ++ (w.srv.applyKeys rep).keys.queue).Pairwise _
    rw [hq]
    refine List.pairwise_append.mpr ⟨(List.pairwise_append.mp (h.numbered hlower)).1, ?_, ?_⟩
    · simp only [List.pairwise_cons, List.mem_singleton, forall_eq, List.not_mem_nil, false_imp_iff,
        implies_true, List.Pairwise.nil, and_true, UInt32.lt_iff_toNat_lt]
      omega
    · intro x hx y hy
      have hle := hsent x hx
      rw [UInt32.lt_iff_toNat_lt]
      rcases List.mem_cons.mp hy with rfl | hy
      · omega
      · obtain rfl := List.mem_singleton.mp hy
        omega
  · obtain ⟨hone, htwo, hold, hlower⟩ := hcount hb
    change ∀ x ∈ sent ++ (w.srv.applyKeys rep).keys.queue, x.inputSeq ≤ (w.srv.applyKeys rep).keys.inputSeq
    rw [hq, hseq, ← h₂]
    intro x hx
    rw [UInt32.le_iff_toNat_le]
    rcases List.mem_append.mp hx with hx | hx
    · have hle := UInt32.le_iff_toNat_le.mp (h.reached hlower x (List.mem_append_left _ hx))
      omega
    · rcases List.mem_cons.mp hx with rfl | hx
      · omega
      · obtain rfl := List.mem_singleton.mp hx
        exact le_refl _

end Delivery

/-- What a run has sent and still holds, by induction over the run. -/
lemma KeyRun.delivery {reps : List KeysReport} {full : Nat} (hs : Subscribed w₀.srv.keys)
    (h : KeyRun b P w₀ reps full w) : ∃ sent, Delivery w₀ reps full w sent := by
  induction h with
  | start =>
    exact ⟨[], (List.append_nil _).symm, hs.enabled, by simpa using .refl _, by simp, by simp,
      fun _ => hs.numbered, fun _ => hs.reached⟩
  | fits rep hkind hroom _ ih => exact ih.imp fun _ hd => hd.fits hkind hroom
  | overflows rep hkind hfull _ ih => exact ih.imp fun _ hd => hd.overflows hkind hfull
  | flush hseq _ ih =>
    obtain ⟨sent, hd⟩ := ih
    exact hd.flush hseq
  | aside hkeys hlog _ ih =>
    exact ih.imp fun _ hd => hd.carry (hlog.trans hd.frames) (by rw [hkeys]) (by rw [hkeys])
      (by rw [hkeys])

/-- While events are enabled, the key states that were sent or are queued are the reports in their order,
but for blocks that a reset and a snapshot replace, and their numbers go up as long as numbers last. -/
theorem keyRun_accounts {reps : List KeysReport} {full : Nat} (hs : Subscribed w₀.srv.keys)
    (h : KeyRun b P w₀ reps full w) :
    ∃ sent, keyFrames w.log = keyFrames w₀.log ++ sent ∧
      Accounts (w₀.srv.keys.queue.map KeyItem.state ++ reps.map KeysReport.state)
        ((sent ++ w.srv.keys.queue).map KeyItem.state) ∧
      (full = 0 → (sent ++ w.srv.keys.queue).map KeyItem.state =
        w₀.srv.keys.queue.map KeyItem.state ++ reps.map KeysReport.state) ∧
      (w₀.srv.keys.inputSeq.toNat + reps.length + 2 * full < 2 ^ 32 →
        (sent ++ w.srv.keys.queue).Pairwise (·.inputSeq < ·.inputSeq)) := by
  obtain ⟨sent, hd⟩ := h.delivery hs
  exact ⟨sent, hd.frames, hd.account, hd.unbroken, hd.numbered⟩

/-! ## A reset that no snapshot follows -/

/-- Two keys are reported pressed. -/
def keyPress : KeysReport := { kind := .physical, reason := .none, pressedBits := 6, capturedUs := 0 }

def World.presses (n : Nat) (w : World Unit) : World Unit := (onKeys keyPress)^[n] w

def World.flushed (w : World Unit) : World Unit := (keysFlushOne Build.default silentPlatform w).2

lemma KeyRun.presses {w₀ w : World Unit} {reps : List KeysReport} {full n : Nat}
    (h : KeyRun Build.default silentPlatform w₀ reps full w)
    (hroom : ∀ i < n, (w.presses i).srv.keys.queue.length < keyQueueDepth) :
    KeyRun Build.default silentPlatform w₀ (reps ++ List.replicate n keyPress) full (w.presses n) := by
  induction n with
  | zero => exact (List.append_nil reps).symm ▸ h
  | succ n ih =>
    have hrun := KeyRun.fits keyPress rfl (hroom n (Nat.lt_succ_self n))
      (ih fun i hi => hroom i (Nat.lt_succ_of_lt hi))
    rw [List.append_assoc, ← List.replicate_succ'] at hrun
    unfold World.presses
    rwa [Function.iterate_succ_apply']

/-- Eight presses behind the snapshot of the subscription overflow the queue. -/
def overfullWorld : World Unit := onKeys keyPress (subscribedWorld.presses 7)

/-- The reset is sent, and eight more presses overflow the queue over its snapshot. -/
def doubleResetWorld : World Unit := (onKeys keyPress (overfullWorld.flushed.presses 7)).flushed.flushed

/-- What the run with two overflows comes to; it is evaluated once. -/
lemma doubleResetWorld_facts :
    (subscribedWorld.srv.keys.enabled = true ∧
      subscribedWorld.srv.keys.queue.Pairwise (·.inputSeq < ·.inputSeq) ∧
      ∀ it ∈ subscribedWorld.srv.keys.queue, it.inputSeq ≤ subscribedWorld.srv.keys.inputSeq) ∧
    (∀ i < 7, (subscribedWorld.presses i).srv.keys.queue.length < keyQueueDepth) ∧
    keyQueueDepth ≤ (subscribedWorld.presses 7).srv.keys.queue.length ∧
    overfullWorld.srv.numbersFrame = true ∧
    (∀ i < 7, (overfullWorld.flushed.presses i).srv.keys.queue.length < keyQueueDepth) ∧
    keyQueueDepth ≤ (overfullWorld.flushed.presses 7).srv.keys.queue.length ∧
    (onKeys keyPress (overfullWorld.flushed.presses 7)).srv.numbersFrame = true ∧
    (onKeys keyPress (overfullWorld.flushed.presses 7)).flushed.srv.numbersFrame = true ∧
    subscribedWorld.srv.keys.inputSeq = 0 ∧ keyFrames subscribedWorld.log = [] ∧
    (keyFrames doubleResetWorld.log).map (·.kind) = [.reset, .reset, .snapshot] := by
  decide +kernel

lemma subscribed_subscribedWorld : Subscribed subscribedWorld.srv.keys := by
  obtain ⟨henabled, hnumbered, hreached⟩ := doubleResetWorld_facts.1
  exact ⟨henabled, hnumbered, hreached⟩

lemma keyRun_doubleResetWorld : KeyRun Build.default silentPlatform subscribedWorld
    (List.replicate 7 keyPress ++ [keyPress] ++ List.replicate 7 keyPress ++ [keyPress]) 2
    doubleResetWorld := by
  obtain ⟨-, hroom, hfull, hfirst, hroom', hfull', hsecond, hthird, -⟩ := doubleResetWorld_facts
  have hover : KeyRun Build.default silentPlatform subscribedWorld
      (List.replicate 7 keyPress ++ [keyPress]) 1 overfullWorld :=
    .overflows keyPress rfl hfull (KeyRun.start.presses hroom)
  have hreset : KeyRun Build.default silentPlatform subscribedWorld
      (List.replicate 7 keyPress ++ [keyPress]) 1 overfullWorld.flushed := .flush hfirst hover
  exact .flush hthird (.flush hsecond (.overflows keyPress rfl hfull' (hreset.presses hroom')))

/-- The frames of the run with two overflows account for its seventeen states. -/
theorem keyRun_accounts_doubleResetWorld : ∃ sent,
    keyFrames doubleResetWorld.log = keyFrames subscribedWorld.log ++ sent ∧
      Accounts (subscribedWorld.srv.keys.queue.map KeyItem.state ++ List.replicate 16 keyPress.state)
        ((sent ++ doubleResetWorld.srv.keys.queue).map KeyItem.state) ∧
      (sent ++ doubleResetWorld.srv.keys.queue).Pairwise (·.inputSeq < ·.inputSeq) := by
  obtain ⟨sent, hframes, hacc, -, hseq⟩ :=
    keyRun_accounts subscribed_subscribedWorld keyRun_doubleResetWorld
  have hzero : subscribedWorld.srv.keys.inputSeq = 0 := doubleResetWorld_facts.2.2.2.2.2.2.2.2.1
  refine ⟨sent, hframes, hacc, hseq ?_⟩
  rw [hzero]
  decide

/-- The subscribed connection with all its numbers but the last used up.  The number is set by hand here: the
adapter gets there with as many reports. -/
def spentWorld : World Unit :=
  subscribedWorld.act fun s => { s with keys := { s.keys with inputSeq := 0xffffffff } }

/-- One more report comes to two frames, of which the second begins the numbers again. -/
lemma spentWorld_facts :
    (spentWorld.srv.keys.enabled = true ∧
      spentWorld.srv.keys.queue.Pairwise (·.inputSeq < ·.inputSeq) ∧
      ∀ it ∈ spentWorld.srv.keys.queue, it.inputSeq ≤ spentWorld.srv.keys.inputSeq) ∧
    spentWorld.srv.keys.queue.length < keyQueueDepth ∧
    (onKeys keyPress spentWorld).srv.numbersFrame = true ∧
    (onKeys keyPress spentWorld).flushed.srv.numbersFrame = true ∧ keyFrames spentWorld.log = [] ∧
    ¬ (keyFrames (onKeys keyPress spentWorld).flushed.flushed.log).Pairwise
      (·.inputSeq < ·.inputSeq) := by
  decide +kernel

/-- A reset need not be followed by a snapshot, and fewer than `2^32` reports can use up the numbers. -/
theorem not_keyRun_inOrder :
    (¬ ∀ (w₀ w : World Unit) (reps : List KeysReport) (full : Nat), Subscribed w₀.srv.keys →
      KeyRun Build.default silentPlatform w₀ reps full w → reps.length < 2 ^ 32 →
      ∀ (before after : List KeyItem) (it₁ it₂ : KeyItem),
        keyFrames w.log = keyFrames w₀.log ++ before ++ it₁ :: it₂ :: after → it₁.kind = .reset →
        it₂.kind = .snapshot) ∧
    ¬ ∀ (w₀ w : World Unit) (reps : List KeysReport) (full : Nat), Subscribed w₀.srv.keys →
      KeyRun Build.default silentPlatform w₀ reps full w → reps.length < 2 ^ 32 →
      ∀ sent, keyFrames w.log = keyFrames w₀.log ++ sent →
        sent.Pairwise (·.inputSeq < ·.inputSeq) := by
  constructor
  · intro hall
    obtain ⟨-, -, -, -, -, -, -, -, -, hnone, hkinds⟩ := doubleResetWorld_facts
    obtain ⟨it₁, rest, hlog, hreset, hrest⟩ := List.map_eq_cons_iff.mp hkinds
    obtain ⟨it₂, rest, rfl, hreset', hrest⟩ := List.map_eq_cons_iff.mp hrest
    obtain ⟨it₃, rest, rfl, -, hnil⟩ := List.map_eq_cons_iff.mp hrest
    obtain rfl := List.map_eq_nil_iff.mp hnil
    have hsnap := hall _ _ _ _ subscribed_subscribedWorld keyRun_doubleResetWorld (by decide) [] [it₃]
      it₁ it₂ (by rw [hlog, hnone]; rfl) hreset
    rw [hreset'] at hsnap
    cases hsnap
  · intro hall
    obtain ⟨⟨henabled, hnumbered, hreached⟩, hroom, hfirst, hsecond, hnone, hnot⟩ := spentWorld_facts
    have hrun : KeyRun Build.default silentPlatform spentWorld ([] ++ [keyPress]) 0
        (onKeys keyPress spentWorld).flushed.flushed :=
      .flush hsecond (.flush hfirst (.fits keyPress rfl hroom .start))
    have hwrap := hall _ _ _ _ ⟨henabled, hnumbered, hreached⟩ hrun (by decide) _
      (by rw [hnone, List.nil_append])
    exact hnot hwrap

end RemoteBridge
