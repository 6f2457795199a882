import RemoteBridge.Product.Faults

/-!
# The fault log as a suffix of runs

The history of the log is the list of its calls.  Its maximal runs of equal calls are what the log
records: a snapshot is the last four of them, each with its length and the number and time of its last
call (`faultRun_snapshot`).

Two calls are equal for the log when domain, stage, code and context are.  A call that equals the newest
record raises its counter, which saturates, and takes over its time and its number; any other call is a new
record, and the oldest of four gives way.  So the log is a function of the runs of its history, and the
general part of the argument, what one more call does to the runs, is in `Framework.RunLength`.

The number of a record counts calls, wraps at 2 ^ 32 and skips zero (`serialOf`); its time is what was set
last before the call.  Evictions are counted too, and this counter saturates.
-/

namespace RemoteBridge

/-! ## The history -/

/-- A call of `rbp_fault_record` and the clock it found. -/
structure FaultCall where
  domain : UInt16
  stage : UInt16
  code : UInt32
  context : UInt32
  boardMs : UInt32
  deriving DecidableEq, Repr

/-- The calls report the same. -/
def FaultCall.same (c c' : FaultCall) : Bool :=
  c.domain == c'.domain && c.stage == c'.stage && c.code == c'.code && c.context == c'.context

/-- The calls of a history that begins at the time `ms`. -/
def callsFrom (ms : UInt32) : List FaultOp → List FaultCall
  | [] => []
  | .setTime boardMs :: ops => callsFrom boardMs ops
  | .record domain stage code context :: ops =>
    { domain, stage, code, context, boardMs := ms } :: callsFrom ms ops

/-- The calls of a history with their numbers, from one. -/
def callsOf (ops : List FaultOp) : List (FaultCall × Nat) := (callsFrom 0 ops).zipIdx 1

/-- The clock after a history. -/
def clockAfter (ms : UInt32) : List FaultOp → UInt32
  | [] => ms
  | .setTime boardMs :: ops => clockAfter boardMs ops
  | .record .. :: ops => clockAfter ms ops

/-- The maximal runs of equal calls. -/
def runsOf (calls : List (FaultCall × Nat)) : List (List (FaultCall × Nat)) :=
  calls.splitBy fun x y => x.1.same y.1

/-- The numbering of calls, which wraps at `2 ^ 32` and skips zero. -/
def serialOf (n : Nat) : UInt32 := if n = 0 then 0 else UInt32.ofNat ((n - 1) % (2 ^ 32 - 1) + 1)

/-- A number that saturates. -/
def saturated (n : Nat) : UInt32 := UInt32.ofNat (min n (2 ^ 32 - 1))

/-- The record of a run: the number and time of its last call, and its length. -/
def faultOf (run : List (FaultCall × Nat)) : Option Fault :=
  run.getLast?.map fun (c, n) =>
    { sequence := serialOf n, domain := c.domain, stage := c.stage, code := c.code, context := c.context,
      count := saturated run.length, boardMs := c.boardMs }

section Histories

variable (ms : UInt32) (ops : List FaultOp)

lemma clockAfter_concat (op : FaultOp) : clockAfter ms (ops ++ [op]) = clockAfter (clockAfter ms ops) [op] := by
  induction ops generalizing ms with
  | nil => rfl
  | cons o ops ih =>
    cases o with
    | setTime boardMs => exact ih boardMs
    | record domain stage code context => exact ih ms

lemma callsFrom_concat (op : FaultOp) :
    callsFrom ms (ops ++ [op]) = callsFrom ms ops ++ callsFrom (clockAfter ms ops) [op] := by
  induction ops generalizing ms with
  | nil => rfl
  | cons o ops ih =>
    cases o with
    | setTime boardMs => exact ih boardMs
    | record domain stage code context => exact congrArg (List.cons _) (ih ms)

lemma callsOf_setTime (boardMs : UInt32) : callsOf (ops ++ [.setTime boardMs]) = callsOf ops := by
  unfold callsOf
  rw [callsFrom_concat]
  simp [callsFrom]

lemma callsOf_record (domain stage : UInt16) (code context : UInt32) :
    callsOf (ops ++ [.record domain stage code context]) =
      callsOf ops ++
        [({ domain, stage, code, context, boardMs := clockAfter 0 ops }, (callsOf ops).length + 1)] := by
  unfold callsOf
  rw [callsFrom_concat, List.zipIdx_append, List.length_zipIdx]
  simp [callsFrom, Nat.add_comm]

end Histories

/-! ## Numbers -/

lemma nextSerial_serialOf (n : Nat) : FaultLog.nextSerial (serialOf n) = serialOf (n + 1) := by
  unfold FaultLog.nextSerial serialOf
  rw [if_neg (Nat.succ_ne_zero n), Nat.add_sub_cancel]
  rcases Nat.eq_zero_or_pos n with rfl | hn
  · decide
  rw [if_neg hn.ne']
  have hlt : (n - 1) % (2 ^ 32 - 1) < 2 ^ 32 - 1 := Nat.mod_lt _ (by decide)
  have hnext : n % (2 ^ 32 - 1) = ((n - 1) % (2 ^ 32 - 1) + 1) % (2 ^ 32 - 1) := by
    rw [Nat.mod_add_mod, Nat.sub_add_cancel hn]
  rw [hnext]
  generalize (n - 1) % (2 ^ 32 - 1) = m at hlt
  have hsucc : UInt32.ofNat (m + 1) + 1 = UInt32.ofNat (m + 2) := by
    rw [← UInt32.ofNat_one, ← UInt32.ofNat_add]
  rw [hsucc]
  by_cases hwrap : m + 2 = 2 ^ 32
  · have hm : m = 2 ^ 32 - 2 := by omega
    subst hm
    decide
  · have hne : UInt32.ofNat (m + 2) ≠ 0 := by
      intro hzero
      have := congrArg UInt32.toNat hzero
      rw [UInt32.toNat_ofNat_of_lt' (by simp [UInt32.size]; omega)] at this
      simp at this
    rw [if_neg hne, Nat.mod_eq_of_lt (by omega)]

lemma saturated_succ (n : Nat) :
    (if saturated n ≠ 0xffffffff then saturated n + 1 else saturated n) = saturated (n + 1) := by
  unfold saturated
  by_cases h : n < 2 ^ 32 - 1
  · have hne : UInt32.ofNat (min n (2 ^ 32 - 1)) ≠ 0xffffffff := by
      intro heq
      have := congrArg UInt32.toNat heq
      rw [Nat.min_eq_left (by omega), UInt32.toNat_ofNat_of_lt' (by simp [UInt32.size]; omega)] at this
      simp at this
      omega
    rw [if_pos hne, Nat.min_eq_left (by omega), Nat.min_eq_left (by omega), UInt32.ofNat_add]
    rfl
  · rw [Nat.min_eq_right (by omega), Nat.min_eq_right (by omega)]
    decide

/-! ## The log against its history -/

/-- What the log holds after these calls. -/
structure Holds (calls : List (FaultCall × Nat)) (l : FaultLog) : Prop where
  serial : l.serial = serialOf calls.length
  evictions : l.evictions = saturated ((runsOf calls).length - faultCapacity)
  used : l.used = min (runsOf calls).length faultCapacity
  next : l.next = (runsOf calls).length % faultCapacity
  records : ∀ j run, (runsOf calls)[j]? = some run → (runsOf calls).length ≤ j + faultCapacity →
    faultOf run = some (l.records (j % faultCapacity))

section Step

variable {calls : List (FaultCall × Nat)} {l : FaultLog} {c : FaultCall}

lemma faultOf_concat (run : List (FaultCall × Nat)) (c : FaultCall) (n : Nat) :
    faultOf (run ++ [(c, n)]) =
      some { sequence := serialOf n, domain := c.domain, stage := c.stage, code := c.code,
             context := c.context, count := saturated (run.length + 1), boardMs := c.boardMs } := by
  unfold faultOf
  rw [List.getLast?_concat, List.length_append]
  rfl

/-- The newest record is that of the last run, which ends with the last call. -/
lemma Holds.newest (h : Holds calls l) {runs : List (List (FaultCall × Nat))} {run : List (FaultCall × Nat)}
    (hruns : runsOf calls = runs ++ [run]) :
    faultOf run = some (l.records ((l.next + faultCapacity - 1) % faultCapacity)) := by
  have hlen : (runsOf calls).length = runs.length + 1 := by simp [hruns]
  have hlast := h.records runs.length run (by simp [hruns]) (by rw [hlen]; unfold faultCapacity; omega)
  have hplace : (l.next + faultCapacity - 1) % faultCapacity = runs.length % faultCapacity := by
    rw [h.next, hlen]
    unfold faultCapacity
    omega
  rw [hplace]
  exact hlast

/-- Two of the last four places differ. -/
lemma place_ne {j k : Nat} (hj : j < k) (hk : k < j + faultCapacity) :
    j % faultCapacity ≠ k % faultCapacity := by
  unfold faultCapacity at hk ⊢
  omega

/-- A call that repeats the last one. -/
lemma Holds.merge (h : Holds calls l) {runs : List (List (FaultCall × Nat))} {run : List (FaultCall × Nat)}
    (hruns : runsOf calls = runs ++ [run]) (hne : run ≠ []) (hsame : (run.getLast hne).1.same c = true)
    (hc : c.boardMs = l.clockMs) :
    Holds (calls ++ [(c, calls.length + 1)]) (l.record c.domain c.stage c.code c.context) := by
  -- the call prolongs the last run
  have hnew : runsOf (calls ++ [(c, calls.length + 1)]) = runs ++ [run ++ [(c, calls.length + 1)]] :=
    splitBy_concat_of_rel hruns hne hsame
  have hlen : (runsOf calls).length = runs.length + 1 := by simp [hruns]
  have hlen' : (runsOf (calls ++ [(c, calls.length + 1)])).length = runs.length + 1 := by simp [hnew]
  have hplace : (l.next + faultCapacity - 1) % faultCapacity = runs.length % faultCapacity := by
    rw [h.next, hlen]
    unfold faultCapacity
    omega
  have hnewest := h.newest hruns
  unfold faultOf at hnewest
  rw [List.getLast?_eq_some_getLast hne, Option.map_some, Option.some_inj] at hnewest
  simp only [FaultCall.same, Bool.and_eq_true, beq_iff_eq] at hsame
  obtain ⟨⟨⟨hdomain, hstage⟩, hcode⟩, hcontext⟩ := hsame
  have hcount : (l.records ((l.next + faultCapacity - 1) % faultCapacity)).count = saturated run.length := by
    rw [← hnewest]
  -- whose record is the newest, so that it is counted up
  have hrepeats : l.used ≠ 0 ∧ (l.records ((l.next + faultCapacity - 1) % faultCapacity)).domain = c.domain ∧
      (l.records ((l.next + faultCapacity - 1) % faultCapacity)).stage = c.stage ∧
      (l.records ((l.next + faultCapacity - 1) % faultCapacity)).code = c.code ∧
      (l.records ((l.next + faultCapacity - 1) % faultCapacity)).context = c.context := by
    rw [← hnewest]
    refine ⟨?_, hdomain, hstage, hcode, hcontext⟩
    rw [h.used, hlen]
    unfold faultCapacity
    omega
  have hrecord : l.record c.domain c.stage c.code c.context =
      { l with
        serial := serialOf (calls.length + 1)
        records := Function.update l.records (runs.length % faultCapacity)
          { sequence := serialOf (calls.length + 1), domain := c.domain, stage := c.stage, code := c.code,
            context := c.context, count := saturated (run.length + 1), boardMs := c.boardMs } } := by
    unfold FaultLog.record
    dsimp only
    rw [if_pos hrepeats, hcount, saturated_succ, hrepeats.2.1, hrepeats.2.2.1, hrepeats.2.2.2.1,
      hrepeats.2.2.2.2, h.serial, nextSerial_serialOf, hplace, hc]
  rw [hrecord]
  refine ⟨?_, ?_, ?_, ?_, ?_⟩
  · rw [List.length_append]
    rfl
  · rw [hlen', ← hlen]
    exact h.evictions
  · rw [hlen', ← hlen]
    exact h.used
  · rw [hlen', ← hlen]
    exact h.next
  · intro j run' hrun' hj
    rw [hlen'] at hj
    rw [hnew] at hrun'
    dsimp only
    rcases Nat.lt_trichotomy j runs.length with hlt | heq | hgt
    · rw [List.getElem?_append_left hlt] at hrun'
      rw [Function.update_of_ne (place_ne hlt (by omega))]
      exact h.records j run' (by rw [hruns, List.getElem?_append_left hlt, hrun']) (by rw [hlen]; exact hj)
    · subst heq
      rw [List.getElem?_concat_length, Option.some_inj] at hrun'
      rw [← hrun', faultOf_concat, Function.update_self]
    · rw [List.getElem?_eq_none (by simp; omega)] at hrun'
      cases hrun'

/-- A call that differs from the last one. -/
lemma Holds.append (h : Holds calls l) (hother : ∀ x ∈ calls.getLast?, x.1.same c = false)
    (hc : c.boardMs = l.clockMs) :
    Holds (calls ++ [(c, calls.length + 1)]) (l.record c.domain c.stage c.code c.context) := by
  -- the call begins a run of its own
  have hnew : runsOf (calls ++ [(c, calls.length + 1)]) = runsOf calls ++ [[(c, calls.length + 1)]] :=
    splitBy_concat_of_not_rel hother
  have hlen' : (runsOf (calls ++ [(c, calls.length + 1)])).length = (runsOf calls).length + 1 := by
    simp [hnew]
  -- and the newest record is of the run before, so it does not repeat
  have hnot : ¬ (l.used ≠ 0 ∧ (l.records ((l.next + faultCapacity - 1) % faultCapacity)).domain = c.domain ∧
      (l.records ((l.next + faultCapacity - 1) % faultCapacity)).stage = c.stage ∧
      (l.records ((l.next + faultCapacity - 1) % faultCapacity)).code = c.code ∧
      (l.records ((l.next + faultCapacity - 1) % faultCapacity)).context = c.context) := by
    rintro ⟨hused, hdomain, hstage, hcode, hcontext⟩
    have hcalls : calls ≠ [] := by
      rintro rfl
      exact hused h.used
    obtain ⟨runs, run, hne, hruns, hlast⟩ :=
      exists_splitBy_concat (r := fun x y : FaultCall × Nat => x.1.same y.1) hcalls
    have hnewest := h.newest hruns
    unfold faultOf at hnewest
    rw [List.getLast?_eq_some_getLast hne, Option.map_some, Option.some_inj] at hnewest
    have hdiffer := hother _ (List.getLast?_eq_some_getLast hcalls)
    rw [← hlast] at hdiffer
    rw [← hnewest] at hdomain hstage hcode hcontext
    simp only at hdomain hstage hcode hcontext
    unfold FaultCall.same at hdiffer
    rw [hdomain, hstage, hcode, hcontext] at hdiffer
    simp at hdiffer
  have hrecord : l.record c.domain c.stage c.code c.context =
      { serial := serialOf (calls.length + 1)
        clockMs := l.clockMs
        evictions := if l.used = faultCapacity ∧ l.evictions ≠ 0xffffffff then l.evictions + 1 else l.evictions
        records := Function.update l.records l.next
          { sequence := serialOf (calls.length + 1), domain := c.domain, stage := c.stage, code := c.code,
            context := c.context, count := 1, boardMs := c.boardMs }
        next := (l.next + 1) % faultCapacity
        used := if l.used < faultCapacity then l.used + 1 else l.used } := by
    unfold FaultLog.record
    dsimp only
    rw [if_neg hnot, h.serial, nextSerial_serialOf, hc]
  rw [hrecord]
  refine ⟨?_, ?_, ?_, ?_, ?_⟩
  · rw [List.length_append]
    rfl
  · rw [hlen', h.used, h.evictions]
    by_cases hfull : faultCapacity ≤ (runsOf calls).length
    · rw [Nat.succ_sub hfull, ← saturated_succ, Nat.min_eq_right hfull]
      simp only [true_and]
    · have hzero : (runsOf calls).length - faultCapacity = 0 ∧ (runsOf calls).length + 1 - faultCapacity = 0 := by
        omega
      rw [if_neg (by omega), hzero.1, hzero.2]
  · dsimp only
    rw [hlen', h.used]
    unfold faultCapacity
    split <;> omega
  · dsimp only
    rw [hlen', h.next]
    unfold faultCapacity
    omega
  · intro j run' hrun' hj
    rw [hlen'] at hj
    rw [hnew] at hrun'
    dsimp only
    rw [h.next]
    -- an old run keeps its record, the new run has the one just written
    rcases Nat.lt_trichotomy j (runsOf calls).length with hlt | heq | hgt
    · rw [List.getElem?_append_left hlt] at hrun'
      rw [Function.update_of_ne (place_ne hlt (by omega))]
      exact h.records j run' hrun' (by omega)
    · subst heq
      rw [List.getElem?_concat_length, Option.some_inj] at hrun'
      rw [← hrun', Function.update_self]
      rfl
    · rw [List.getElem?_eq_none (by simp; omega)] at hrun'
      cases hrun'

/-- The records are read from the oldest. -/
lemma Holds.snapshot (h : Holds calls l) :
    l.snapshot.1.map some = ((runsOf calls).drop ((runsOf calls).length - faultCapacity)).map faultOf := by
  refine List.ext_getElem? fun i => ?_
  simp only [FaultLog.snapshot, List.map_map, List.getElem?_map, List.getElem?_drop]
  by_cases hi : i < l.used
  · have hlt : (runsOf calls).length - faultCapacity + i < (runsOf calls).length := by
      rw [h.used] at hi
      omega
    have hplace : (l.next + faultCapacity - l.used + i) % faultCapacity =
        ((runsOf calls).length - faultCapacity + i) % faultCapacity := by
      rw [h.used] at hi
      rw [h.next, h.used]
      unfold faultCapacity at hi ⊢
      omega
    have hrecord := h.records _ _ (List.getElem?_eq_getElem hlt) (by omega)
    rw [List.getElem?_range hi, List.getElem?_eq_getElem hlt, Option.map_some, Option.map_some, hrecord,
      Function.comp_apply, hplace]
  · have hge : (runsOf calls).length ≤ (runsOf calls).length - faultCapacity + i := by
      rw [h.used] at hi
      omega
    rw [List.getElem?_eq_none (by simpa using hi), List.getElem?_eq_none hge]
    rfl

/-- One step of a run. -/
lemma Holds.run {ops : List FaultOp} (h : Holds (callsOf ops) l) (hclock : l.clockMs = clockAfter 0 ops)
    (op : FaultOp) :
    Holds (callsOf (ops ++ [op])) (op.run l) ∧ (op.run l).clockMs = clockAfter 0 (ops ++ [op]) := by
  cases op with
  | setTime boardMs =>
    rw [callsOf_setTime, clockAfter_concat]
    exact ⟨⟨h.serial, h.evictions, h.used, h.next, h.records⟩, rfl⟩
  | record domain stage code context =>
    rw [callsOf_record, clockAfter_concat, ← hclock]
    have hclock' : (l.record domain stage code context).clockMs = l.clockMs := by
      unfold FaultLog.record
      dsimp only
      split <;> rfl
    refine ⟨?_, hclock'⟩
    by_cases hcalls : callsOf ops = []
    · exact h.append (c := { domain, stage, code, context, boardMs := l.clockMs }) (by simp [hcalls]) rfl
    · obtain ⟨runs, run, hne, hruns, hlast⟩ :=
        exists_splitBy_concat (r := fun x y : FaultCall × Nat => x.1.same y.1) hcalls
      cases hsame : (run.getLast hne).1.same { domain, stage, code, context, boardMs := l.clockMs } with
      | true => exact h.merge hruns hne hsame rfl
      | false =>
        refine h.append (c := { domain, stage, code, context, boardMs := l.clockMs }) ?_ rfl
        intro x hx
        rw [List.getLast?_eq_some_getLast hcalls, Option.mem_some_iff, ← hlast] at hx
        rw [← hx]
        exact hsame

end Step

/-- A snapshot shows the last four runs of equal calls, the number of calls, and how many runs were
dropped. -/
theorem faultRun_snapshot (ops : List FaultOp) :
    (faultRun ops).snapshot.1.map some =
        ((runsOf (callsOf ops)).drop ((runsOf (callsOf ops)).length - faultCapacity)).map faultOf ∧
      (faultRun ops).snapshot.2.1 = serialOf (callsOf ops).length ∧
      (faultRun ops).snapshot.2.2 = saturated ((runsOf (callsOf ops)).length - faultCapacity) := by
  have hrun : Holds (callsOf ops) (faultRun ops) ∧ (faultRun ops).clockMs = clockAfter 0 ops := by
    induction ops using List.reverseRecOn with
    | nil => exact ⟨⟨rfl, rfl, rfl, rfl, by simp [callsOf, callsFrom, runsOf]⟩, rfl⟩
    | append_singleton ops op ih =>
      unfold faultRun
      rw [List.foldl_concat]
      exact ih.1.run ih.2 op
  obtain ⟨h, -⟩ := hrun
  refine ⟨?_, h.serial, h.evictions⟩
  exact h.snapshot

example : (faultRun [.record 1 2 3 4, .setTime 9, .record 1 2 3 4, .record 1 2 5 4]).snapshot =
    ([{ sequence := 2, domain := 1, stage := 2, code := 3, context := 4, count := 2, boardMs := 9 },
      { sequence := 3, domain := 1, stage := 2, code := 5, context := 4, count := 1, boardMs := 9 }], 3, 0) := by
  decide

end RemoteBridge
