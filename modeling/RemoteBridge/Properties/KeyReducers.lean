import RemoteBridge.Client.LogicalKeys

/-!
# The logical key reducers agree

A call to a reducer leads to one batch of reports: ups, then downs, then at most one snapshot or reset.
`Batch` is the batch without the order of the keys; the C reducer shows it in the order of the slots,
the other two in the order of the key ids, and that the same batch is shown by all three is the
agreement.  That the reports lead a host from the old pressed set to the new one is then a fact about
batches, proved once.

The Python and the .NET reducer emit the very same events, and their snapshots carry the pressed keys
(`PayloadsAgree`).  The C reducer differs in three respects: without a catalog it answers a report with
`false` where the others return in silence, it gives the reason of a report in every event where the others
give it in ups and resets only, and its snapshot carries no keys: the application reads them from the reducer.
-/

namespace RemoteBridge

/-! ## Statement -/

/-- The calls of an application. -/
inductive KeyCall where
  | install (source : InputSource) (ids : List UInt16)
  | feed (seq : UInt32) (time bits : UInt64) (kind reason : UInt8)
  | reset (code : UInt8) (text : String)

/-- What the events of all three reducers have: not their reason, which they give to different events, and
not the keys of a snapshot, for which a C event has no field (`PayloadsAgree` is about these). -/
structure KeyReport where
  source : InputSource
  kind : KeyEventKind
  key : UInt16
  capturedUs : UInt64
  inputSeq : UInt32
  synthetic : Bool
  deriving DecidableEq, Repr

def CKeys.Event.report (e : CKeys.Event) : KeyReport :=
  { source := e.source, kind := e.kind, key := e.keyId, capturedUs := e.capturedUs,
    inputSeq := e.inputSeq, synthetic := e.synthetic }

def KeyEvent.report (e : KeyEvent) : KeyReport :=
  { source := e.source, kind := e.kind, key := e.keyId, capturedUs := e.capturedUs,
    inputSeq := e.inputSeq, synthetic := e.synthetic }

/-- What an application sees of a call: whether the reducer took it, and the reports. -/
structure KeyOutcome where
  taken : Bool
  reports : List KeyReport

/-- A reducer, as an application uses it. -/
structure KeyReducer where
  State : Type
  init : State
  call : KeyCall → State → State × KeyOutcome
  pressed : State → List UInt16

/-- Whether a call returned without throwing. -/
def returned {ε α : Type} : Except ε α → Bool
  | .ok _ => true
  | .error _ => false

def cReducer : KeyReducer where
  State := CKeys.State
  init := CKeys.State.zero
  call
    | .install source ids, s =>
      let (ok, s, events) := CKeys.install source ids s
      (s, { taken := ok, reports := events.map CKeys.Event.report })
    | .feed seq time bits kind reason, s =>
      let (ok, s, events) := CKeys.feed seq time bits kind reason s
      (s, { taken := ok, reports := events.map CKeys.Event.report })
    | .reset code _, s =>
      let (s, events) := CKeys.reset code s
      (s, { taken := true, reports := events.map CKeys.Event.report })
  pressed s := s.keysOf s.bits

/-- The catalog of the ids in slot order. -/
def pyCatalog (ids : List UInt16) : List PyKeys.LogicalKey :=
  ids.zipIdx.map fun p => { slot := p.2, keyId := p.1 }

/-- A report is taken where a catalog is installed and nothing is thrown. -/
def pyReducer : KeyReducer where
  State := PyKeys.State
  init := {}
  call
    | .install source ids, s =>
      let (result, s, events) := PyKeys.install source (pyCatalog ids) ids.length s
      (s, { taken := returned result, reports := events.map KeyEvent.report })
    | .feed seq time bits kind reason, s =>
      let ready := s.source.isSome
      let (result, s, events) := PyKeys.feed seq time bits.toNat kind reason s
      (s, { taken := ready && returned result, reports := events.map KeyEvent.report })
    | .reset _ text, s =>
      let (s, events) := PyKeys.reset text s
      (s, { taken := true, reports := events.map KeyEvent.report })
  pressed s := s.pressedKeys

def netCatalog (ids : List UInt16) : List NetKeys.KeyDefinition :=
  ids.zipIdx.map fun p => { slot := UInt8.ofNat p.2, id := p.1 }

def netReducer : KeyReducer where
  State := NetKeys.State
  init := {}
  call
    | .install source ids, s =>
      let (result, s, events) := NetKeys.install source (netCatalog ids) ids.length s
      (s, { taken := returned result, reports := events.map KeyEvent.report })
    | .feed seq time bits kind reason, s =>
      let ready := s.source.isSome
      let (result, s, events) := NetKeys.feed seq time bits kind reason s
      (s, { taken := ready && returned result, reports := events.map KeyEvent.report })
    | .reset _ text, s =>
      let (s, events) := NetKeys.reset text s
      (s, { taken := true, reports := events.map KeyEvent.report })
  pressed s := s.held

/-- What a report does to the keys a host takes to be down, `pressed` being the reducer's own set. -/
def hostReport (pressed held : Finset UInt16) (r : KeyReport) : Finset UInt16 :=
  match r.kind with
  | .down => insert r.key held
  | .up => held.erase r.key
  | .snapshot => pressed
  | .reset => ∅

/-- No key goes down that is held, and none goes up that is not. -/
def Legal (pressed : Finset UInt16) : Finset UInt16 → List KeyReport → Prop
  | _, [] => True
  | held, r :: rs =>
    (r.kind = .down → r.key ∉ held) ∧ (r.kind = .up → r.key ∈ held) ∧
      Legal pressed (hostReport pressed held r) rs

namespace KeyReducer

variable (R : KeyReducer)

/-- The pressed keys of a state, as a set. -/
def held (s : R.State) : Finset UInt16 := (R.pressed s).toFinset

/-- The state after a sequence of calls, and the keys its host takes to be down. -/
def run (calls : List KeyCall) : R.State × Finset UInt16 :=
  calls.foldl (fun x call =>
    ((R.call call x.1).1,
      (R.call call x.1).2.reports.foldl (hostReport (R.held (R.call call x.1).1)) x.2)) (R.init, ∅)

/-- After the calls the host is right, and a further call reports what it should. -/
structure Faithful (calls : List KeyCall) : Prop where
  folded : (R.run calls).2 = R.held (R.run calls).1
  legal : ∀ call, Legal (R.held (R.call call (R.run calls).1).1) (R.run calls).2
    (R.call call (R.run calls).1).2.reports
  ordered : ∀ call, (R.call call (R.run calls).1).2.reports.Pairwise fun a b =>
    a.kind = .down → b.kind ≠ .up
  snapshot : ∀ seq time bits reason,
    ∀ r ∈ (R.call (.feed seq time bits 0 reason) (R.run calls).1).2.reports, r.kind ≠ .down ∧ r.kind ≠ .up
  reset : ∀ code text,
    (∀ key ∈ R.pressed (R.run calls).1,
      ∃ r ∈ (R.call (.reset code text) (R.run calls).1).2.reports, r.kind = .up ∧ r.key = key) ∧
    R.pressed (R.call (.reset code text) (R.run calls).1).1 = []

end KeyReducer

/-- The same reports, up to the order of the keys inside the ups and inside the downs. -/
def SameReports (xs ys : List KeyReport) : Prop :=
  ∃ us us' ds ds' rest : List KeyReport,
    xs = us ++ ds ++ rest ∧ ys = us' ++ ds' ++ rest ∧ us.Perm us' ∧ ds.Perm ds' ∧
      (∀ r ∈ us, r.kind = .up) ∧ (∀ r ∈ ds, r.kind = .down) ∧ ∀ r ∈ rest, r.kind ≠ .up ∧ r.kind ≠ .down

/-- After the same calls, two reducers take the same call and report the same. -/
def ReducersAgree (R Q : KeyReducer) (calls : List KeyCall) : Prop :=
  ∀ call, (R.call call (R.run calls).1).2.taken = (Q.call call (Q.run calls).1).2.taken ∧
    SameReports (R.call call (R.run calls).1).2.reports (Q.call call (Q.run calls).1).2.reports

/-- The events of a call to the Python reducer. -/
def PyKeys.emitted (call : KeyCall) (s : PyKeys.State) : List KeyEvent :=
  match call with
  | .install source ids => (PyKeys.install source (pyCatalog ids) ids.length s).2.2
  | .feed seq time bits kind reason => (PyKeys.feed seq time bits.toNat kind reason s).2.2
  | .reset _ text => (PyKeys.reset text s).2

/-- The events of a call to the .NET reducer. -/
def NetKeys.emitted (call : KeyCall) (s : NetKeys.State) : List KeyEvent :=
  match call with
  | .install source ids => (NetKeys.install source (netCatalog ids) ids.length s).2.2
  | .feed seq time bits kind reason => (NetKeys.feed seq time bits kind reason s).2.2
  | .reset _ text => (NetKeys.reset text s).2

/-- A snapshot carries the pressed keys in ascending order, and no other event carries any. -/
def KeyEvent.Carries (pressed : Finset UInt16) (e : KeyEvent) : Prop :=
  if e.kind = .snapshot then e.pressedKeys.Pairwise (· < ·) ∧ e.pressedKeys.toFinset = pressed
  else e.pressedKeys = []

/-- After the same calls, the Python and the .NET reducer answer a call with the same events, field for
field, and their snapshots carry what is pressed after the call. -/
structure PayloadsAgree (calls : List KeyCall) : Prop where
  pyReports : ∀ call, (pyReducer.call call (pyReducer.run calls).1).2.reports =
    (PyKeys.emitted call (pyReducer.run calls).1).map KeyEvent.report
  netReports : ∀ call, (netReducer.call call (netReducer.run calls).1).2.reports =
    (NetKeys.emitted call (netReducer.run calls).1).map KeyEvent.report
  same : ∀ call, PyKeys.emitted call (pyReducer.run calls).1 = NetKeys.emitted call (netReducer.run calls).1
  pyCarries : ∀ call, ∀ e ∈ PyKeys.emitted call (pyReducer.run calls).1,
    e.Carries (pyReducer.held (pyReducer.call call (pyReducer.run calls).1).1)
  netCarries : ∀ call, ∀ e ∈ NetKeys.emitted call (netReducer.run calls).1,
    e.Carries (netReducer.held (netReducer.call call (netReducer.run calls).1).1)

/-! ## Batches -/

/-- The reports of a call, without the order of the keys. -/
structure Batch where
  ups : List UInt16
  downs : List UInt16
  up : UInt16 → KeyReport
  down : UInt16 → KeyReport
  rest : List KeyReport

namespace Batch

/-- The reports show the batch. -/
def Shown (b : Batch) (reports : List KeyReport) : Prop :=
  ∃ us ds : List UInt16, us.Perm b.ups ∧ ds.Perm b.downs ∧ reports = us.map b.up ++ ds.map b.down ++ b.rest

/-- The batch leads from one pressed set to another. -/
structure Fits (b : Batch) (before after : Finset UInt16) : Prop where
  up : ∀ k, (b.up k).kind = .up ∧ (b.up k).key = k
  down : ∀ k, (b.down k).kind = .down ∧ (b.down k).key = k
  ups : b.ups.Nodup ∧ ∀ k ∈ b.ups, k ∈ before
  downs : b.downs.Nodup ∧ ∀ k ∈ b.downs, k ∉ before
  rest : (b.rest = [] ∧ after = before \ b.ups.toFinset ∪ b.downs.toFinset) ∨
    (∃ r, b.rest = [r] ∧ r.kind = .snapshot ∧ b.ups = [] ∧ b.downs = []) ∨
    ∃ r, b.rest = [r] ∧ r.kind = .reset ∧ after = ∅

variable {b : Batch} {before after held : Finset UInt16} {reports reports' : List KeyReport}

lemma foldl_ups {us : List UInt16} (hup : ∀ k, (b.up k).kind = .up ∧ (b.up k).key = k) :
    (us.map b.up).foldl (hostReport after) held = held \ us.toFinset := by
  induction us generalizing held with
  | nil => simp
  | cons k us ih =>
    have hhost : hostReport after held (b.up k) = held.erase k := by
      unfold hostReport
      rw [(hup k).1, (hup k).2]
    rw [List.map_cons, List.foldl_cons, hhost, ih, List.toFinset_cons]
    ext x
    simp only [Finset.mem_sdiff, Finset.mem_erase, Finset.mem_insert, not_or]
    tauto

lemma foldl_downs {ds : List UInt16} (hdown : ∀ k, (b.down k).kind = .down ∧ (b.down k).key = k) :
    (ds.map b.down).foldl (hostReport after) held = held ∪ ds.toFinset := by
  induction ds generalizing held with
  | nil => simp
  | cons k ds ih =>
    have hhost : hostReport after held (b.down k) = insert k held := by
      unfold hostReport
      rw [(hdown k).1, (hdown k).2]
    rw [List.map_cons, List.foldl_cons, hhost, ih, List.toFinset_cons]
    ext x
    simp only [Finset.mem_union, Finset.mem_insert]
    tauto

lemma legal_append {xs ys : List KeyReport} :
    Legal after held (xs ++ ys) ↔ Legal after held xs ∧ Legal after (xs.foldl (hostReport after) held) ys := by
  induction xs generalizing held with
  | nil => simp [Legal]
  | cons r xs ih =>
    rw [List.cons_append, Legal, Legal, ih, List.foldl_cons]
    tauto

lemma legal_ups {us : List UInt16} (hup : ∀ k, (b.up k).kind = .up ∧ (b.up k).key = k) (hnd : us.Nodup)
    (hmem : ∀ k ∈ us, k ∈ held) : Legal after held (us.map b.up) := by
  induction us generalizing held with
  | nil => trivial
  | cons k us ih =>
    obtain ⟨hnew, hnd⟩ := List.nodup_cons.mp hnd
    have hhost : hostReport after held (b.up k) = held.erase k := by
      unfold hostReport
      rw [(hup k).1, (hup k).2]
    rw [List.map_cons, Legal, (hup k).1, (hup k).2, hhost]
    refine ⟨fun h => absurd h (by decide), fun _ => hmem k List.mem_cons_self, ih hnd ?_⟩
    intro x hx
    rw [Finset.mem_erase]
    exact ⟨fun heq => hnew (heq ▸ hx), hmem x (List.mem_cons_of_mem _ hx)⟩

lemma legal_downs {ds : List UInt16} (hdown : ∀ k, (b.down k).kind = .down ∧ (b.down k).key = k)
    (hnd : ds.Nodup) (hmem : ∀ k ∈ ds, k ∉ held) : Legal after held (ds.map b.down) := by
  induction ds generalizing held with
  | nil => trivial
  | cons k ds ih =>
    obtain ⟨hnew, hnd⟩ := List.nodup_cons.mp hnd
    have hhost : hostReport after held (b.down k) = insert k held := by
      unfold hostReport
      rw [(hdown k).1, (hdown k).2]
    rw [List.map_cons, Legal, (hdown k).1, (hdown k).2, hhost]
    refine ⟨fun _ => hmem k List.mem_cons_self, fun h => absurd h (by decide), ih hnd ?_⟩
    intro x hx
    rw [Finset.mem_insert, not_or]
    exact ⟨fun heq => hnew (heq ▸ hx), hmem x (List.mem_cons_of_mem _ hx)⟩

/-- The host follows a batch from one pressed set to the other. -/
lemma Fits.foldl (h : b.Fits before after) (hs : b.Shown reports) :
    reports.foldl (hostReport after) before = after := by
  obtain ⟨us, ds, hus, hds, rfl⟩ := hs
  rw [List.foldl_append, List.foldl_append, foldl_ups h.up, foldl_downs h.down]
  obtain ⟨hrest, hafter⟩ | ⟨r, hrest, hkind, -, -⟩ | ⟨r, hrest, hkind, hafter⟩ := h.rest
  · rw [hrest, List.foldl_nil, hafter, List.toFinset_eq_of_perm _ _ hus, List.toFinset_eq_of_perm _ _ hds]
  · rw [hrest, List.foldl_cons, List.foldl_nil, hostReport, hkind]
  · rw [hrest, List.foldl_cons, List.foldl_nil, hostReport, hkind, hafter]

lemma Fits.legal (h : b.Fits before after) (hs : b.Shown reports) : Legal after before reports := by
  obtain ⟨us, ds, hus, hds, rfl⟩ := hs
  rw [legal_append, legal_append]
  refine ⟨⟨legal_ups h.up (hus.nodup_iff.mpr h.ups.1) fun k hk => h.ups.2 k (hus.mem_iff.mp hk), ?_⟩, ?_⟩
  · rw [foldl_ups h.up]
    refine legal_downs h.down (hds.nodup_iff.mpr h.downs.1) ?_
    intro k hk hmem
    exact h.downs.2 k (hds.mem_iff.mp hk) (Finset.mem_sdiff.mp hmem).1
  · obtain ⟨hrest, -⟩ | ⟨r, hrest, hkind, -, -⟩ | ⟨r, hrest, hkind, -⟩ := h.rest
    · rw [hrest]
      trivial
    · rw [hrest, Legal, hkind]
      exact ⟨fun h => absurd h (by decide), fun h => absurd h (by decide), trivial⟩
    · rw [hrest, Legal, hkind]
      exact ⟨fun h => absurd h (by decide), fun h => absurd h (by decide), trivial⟩

lemma Fits.rest_kind (h : b.Fits before after) {r : KeyReport} (hr : r ∈ b.rest) :
    r.kind ≠ .up ∧ r.kind ≠ .down := by
  obtain ⟨hrest, -⟩ | ⟨r', hrest, hkind, -, -⟩ | ⟨r', hrest, hkind, -⟩ := h.rest
  · rw [hrest] at hr
    exact absurd hr List.not_mem_nil
  · rw [hrest, List.mem_singleton] at hr
    rw [hr, hkind]
    decide
  · rw [hrest, List.mem_singleton] at hr
    rw [hr, hkind]
    decide

lemma Fits.ordered (h : b.Fits before after) (hs : b.Shown reports) :
    reports.Pairwise fun a c => a.kind = .down → c.kind ≠ .up := by
  obtain ⟨us, ds, -, -, rfl⟩ := hs
  have hrest : ∀ r ∈ ds.map b.down ++ b.rest, r.kind ≠ .up := by
    intro r hr
    obtain hr | hr := List.mem_append.mp hr
    · obtain ⟨k, -, rfl⟩ := List.mem_map.mp hr
      rw [(h.down k).1]
      decide
    · exact (h.rest_kind hr).1
  rw [List.append_assoc, List.pairwise_append]
  refine ⟨?_, ?_, ?_⟩
  · refine List.pairwise_of_forall_mem_list ?_
    intro r hr c _ hdown
    obtain ⟨k, -, rfl⟩ := List.mem_map.mp hr
    rw [(h.up k).1] at hdown
    exact absurd hdown (by decide)
  · refine List.pairwise_of_forall_mem_list ?_
    intro _ _ c hc _
    exact hrest c hc
  · intro r _ c hc _
    exact hrest c hc

lemma Fits.same (h : b.Fits before after) (hs : b.Shown reports) (hs' : b.Shown reports') :
    SameReports reports reports' := by
  obtain ⟨us, ds, hus, hds, rfl⟩ := hs
  obtain ⟨us', ds', hus', hds', rfl⟩ := hs'
  refine ⟨_, _, _, _, _, rfl, rfl, (hus.trans hus'.symm).map _, (hds.trans hds'.symm).map _, ?_, ?_, ?_⟩
  · intro r hr
    obtain ⟨k, -, rfl⟩ := List.mem_map.mp hr
    exact (h.up k).1
  · intro r hr
    obtain ⟨k, -, rfl⟩ := List.mem_map.mp hr
    exact (h.down k).1
  · intro r hr
    exact h.rest_kind hr

end Batch

/-! ## Slots -/

/-- The keys of the slots with `f`. -/
def heldBy (ids : List UInt16) (f : Nat → Bool) : List UInt16 :=
  (ids.zipIdx.filter fun p => f p.2).map Prod.fst

section Slots

variable {ids : List UInt16} {f g : Nat → Bool}

lemma mem_heldBy {k : UInt16} : k ∈ heldBy ids f ↔ ∃ i, ids[i]? = some k ∧ f i = true := by
  unfold heldBy
  rw [List.mem_map]
  constructor
  · rintro ⟨⟨k', i⟩, hmem, rfl⟩
    obtain ⟨hzip, hf⟩ := List.mem_filter.mp hmem
    exact ⟨i, List.mem_zipIdx_iff_getElem?.mp hzip, hf⟩
  · rintro ⟨i, hget, hf⟩
    exact ⟨(k, i), List.mem_filter.mpr ⟨List.mem_zipIdx_iff_getElem?.mpr hget, hf⟩, rfl⟩

lemma nodup_heldBy (h : ids.Nodup) : (heldBy ids f).Nodup := by
  have hsub : (heldBy ids f).Sublist (ids.zipIdx.map Prod.fst) := List.filter_sublist.map _
  rw [List.zipIdx_map_fst] at hsub
  exact h.sublist hsub

lemma slot_inj (h : ids.Nodup) {i j : Nat} {k : UInt16} (hi : ids[i]? = some k) (hj : ids[j]? = some k) :
    i = j := by
  obtain ⟨hilt, hi'⟩ := List.getElem?_eq_some_iff.mp hi
  obtain ⟨hjlt, hj'⟩ := List.getElem?_eq_some_iff.mp hj
  exact (List.Nodup.getElem_inj_iff h).mp (hi'.trans hj'.symm)

/-- A difference of sets of keys is one of sets of slots, since no key has two slots. -/
lemma heldBy_diff (h : ids.Nodup) :
    (heldBy ids f).filter (· ∉ heldBy ids g) = heldBy ids (fun i => f i && !g i) := by
  unfold heldBy
  rw [List.filter_map, List.filter_filter]
  congr 1
  apply List.filter_congr
  rintro ⟨k, i⟩ hmem
  have hi : ids[i]? = some k := List.mem_zipIdx_iff_getElem?.mp hmem
  have hg : k ∈ heldBy ids g ↔ g i = true := by
    rw [mem_heldBy]
    constructor
    · rintro ⟨j, hj, hgj⟩
      rwa [slot_inj h hi hj]
    · intro hgi
      exact ⟨i, hi, hgi⟩
  unfold heldBy at hg
  simp only [Function.comp_apply, hg]
  cases f i with
  | _ => cases g i with
    | _ => rfl

end Slots

lemma bit_uint64 (mask : UInt64) {i : Nat} (hi : i < 64) :
    (mask &&& ((1 : UInt64) <<< UInt64.ofNat i) != 0) = mask.toNat.testBit i := by
  have hshift : ((1 : UInt64) <<< UInt64.ofNat i).toNat = 2 ^ i := by
    rw [UInt64.toNat_shiftLeft, UInt64.toNat_ofNat_of_lt' (lt_trans hi (by decide)), Nat.mod_eq_of_lt hi,
      UInt64.toNat_one, Nat.shiftLeft_eq, one_mul]
    exact Nat.mod_eq_of_lt (Nat.pow_lt_pow_right (by decide) hi)
  have hzero : (mask &&& ((1 : UInt64) <<< UInt64.ofNat i)) = 0 ↔ mask.toNat &&& 2 ^ i = 0 := by
    rw [← UInt64.toNat_inj, UInt64.toNat_and, hshift]
    rfl
  rw [Bool.eq_iff_iff, bne_iff_ne, Ne, hzero, Nat.and_two_pow]
  cases mask.toNat.testBit i with
  | false => simp
  | true => simp

lemma bit_nat (bits i : Nat) : (bits &&& (1 <<< i) != 0) = bits.testBit i := by
  rw [Nat.shiftLeft_eq, one_mul, Nat.and_two_pow]
  cases bits.testBit i with
  | false => simp
  | true => simp

/-- The slots that are in one mask and not in the other. -/
lemma testBit_andNot (a b : UInt64) {i : Nat} (hi : i < 64) :
    (a &&& ~~~b).toNat.testBit i = (a.toNat.testBit i && !b.toNat.testBit i) := by
  have hnot : (~~~b).toNat = 2 ^ 64 - (b.toNat + 1) := by
    rw [UInt64.toNat_not]
    show 2 ^ 64 - 1 - b.toNat = _
    omega
  rw [UInt64.toNat_and, Nat.testBit_and, hnot, Nat.testBit_two_pow_sub_succ b.toNat_lt, decide_eq_true hi,
    Bool.true_and]

lemma keysOf_eq {s : CKeys.State} (hshort : s.keyIds.length ≤ 64) {mask : UInt64} {f : Nat → Bool}
    (hf : ∀ i < 64, mask.toNat.testBit i = f i) : s.keysOf mask = heldBy s.keyIds f := by
  unfold CKeys.State.keysOf heldBy
  congr 1
  apply List.filter_congr
  rintro ⟨k, i⟩ hmem
  have hi : s.keyIds[i]? = some k := List.mem_zipIdx_iff_getElem?.mp hmem
  obtain ⟨hlt, -⟩ := List.getElem?_eq_some_iff.mp hi
  show (mask &&& ((1 : UInt64) <<< UInt64.ofNat i) != 0) = f i
  rw [bit_uint64 mask (by omega), hf i (by omega)]

lemma pressedKeys_eq {s : PyKeys.State} {ids : List UInt16} (hnd : ids.Nodup) (hcat : s.catalog = pyCatalog ids) :
    s.pressedKeys = heldBy ids s.bits.testBit := by
  have hfilter : (s.catalog.filter fun k => s.bits &&& (1 <<< k.slot) != 0).map PyKeys.LogicalKey.keyId =
      heldBy ids s.bits.testBit := by
    rw [hcat, pyCatalog, List.filter_map, List.map_map]
    simp only [bit_nat, Function.comp_def]
    rfl
  rw [PyKeys.State.pressedKeys, hfilter, (nodup_heldBy hnd).dedup]

lemma held_perm {s : NetKeys.State} {ids : List UInt16} (hshort : ids.length ≤ 64)
    (hcat : s.catalog = netCatalog ids) : s.held.Perm (heldBy ids s.bits.toNat.testBit) := by
  have hfilter : (s.catalog.filter fun k => s.bits &&& ((1 : UInt64) <<< k.slot.toUInt64) != 0).map
      NetKeys.KeyDefinition.id = heldBy ids s.bits.toNat.testBit := by
    rw [hcat, netCatalog, List.filter_map, List.map_map]
    unfold heldBy
    congr 1
    apply List.filter_congr
    rintro ⟨k, i⟩ hmem
    have hi : ids[i]? = some k := List.mem_zipIdx_iff_getElem?.mp hmem
    obtain ⟨hlt, -⟩ := List.getElem?_eq_some_iff.mp hi
    have hslot : (UInt8.ofNat i).toUInt64 = UInt64.ofNat i := by
      apply UInt64.toNat_inj.mp
      rw [UInt8.toNat_toUInt64, UInt8.toNat_ofNat_of_lt' (lt_of_lt_of_le hlt (le_trans hshort (by decide))),
        UInt64.toNat_ofNat_of_lt' (lt_of_lt_of_le hlt (le_trans hshort (by decide)))]
    show (s.bits &&& ((1 : UInt64) <<< (UInt8.ofNat i).toUInt64) != 0) = s.bits.toNat.testBit i
    rw [hslot, bit_uint64 s.bits (by omega)]
  rw [NetKeys.State.held, hfilter]
  exact List.mergeSort_perm _ _

lemma eraseDups_of_nodup {l : List UInt16} (h : l.Nodup) : l.eraseDups = l := by
  induction l with
  | nil => rfl
  | cons a l ih =>
    obtain ⟨hnew, hnd⟩ := List.nodup_cons.mp h
    have hfilter : l.filter (fun b => !b == a) = l := by
      rw [List.filter_eq_self]
      intro b hb
      rw [Bool.not_eq_true', beq_eq_false_iff_ne]
      rintro rfl
      exact hnew hb
    rw [List.eraseDups_cons, hfilter, ih hnd]

lemma sortedSet_perm {l : List UInt16} (h : l.Nodup) : (PyKeys.sortedSet l).Perm l := by
  rw [PyKeys.sortedSet, h.dedup]
  exact List.mergeSort_perm _ _

lemma length_eraseDups_le (l : List UInt16) : l.eraseDups.length ≤ l.length := by
  induction hn : l.length using Nat.strong_induction_on generalizing l with
  | _ n ih =>
    cases l with
    | nil => exact Nat.zero_le n
    | cons a l =>
      have hfilter := List.length_filter_le (fun b => !b == a) l
      have hrest := ih _ (lt_of_le_of_lt hfilter (by rw [← hn]; exact Nat.lt_succ_self _)) _ rfl
      rw [List.eraseDups_cons, List.length_cons]
      rw [List.length_cons] at hn
      omega

lemma length_eraseDups_iff {l : List UInt16} : l.eraseDups.length = l.length ↔ l.Nodup := by
  constructor
  · intro h
    induction l with
    | nil => exact List.nodup_nil
    | cons a l ih =>
      have hle := length_eraseDups_le (l.filter fun b => !b == a)
      have hfilter := List.length_filter_le (fun b => !b == a) l
      rw [List.eraseDups_cons, List.length_cons, List.length_cons] at h
      have hall : l.filter (fun b => !b == a) = l :=
        List.filter_sublist.eq_of_length (by omega)
      rw [hall] at h
      refine List.nodup_cons.mpr ⟨?_, ih (by omega)⟩
      intro ha
      have hne := List.of_mem_filter (hall.symm ▸ ha : a ∈ l.filter fun b => !b == a)
      rw [beq_self_eq_true] at hne
      exact Bool.false_ne_true hne
  · intro h
    rw [eraseDups_of_nodup h]

lemma length_dedup_iff {l : List UInt16} : l.dedup.length = l.length ↔ l.Nodup := by
  constructor
  · intro h
    have heq := (List.dedup_sublist l).eq_of_length h
    rw [← heq]
    exact List.nodup_dedup l
  · intro h
    rw [h.dedup]

/-! ## One call -/

/-- A source and a catalog that can be installed. -/
def Installable (source : InputSource) (ids : List UInt16) : Prop :=
  source.sessionId ≠ 0 ∧ source.peerId ≠ 0 ∧ source.connectionId ≠ 0 ∧ ids.length ≤ 64 ∧ 0 ∉ ids ∧ ids.Nodup

instance (source : InputSource) (ids : List UInt16) : Decidable (Installable source ids) :=
  inferInstanceAs (Decidable (_ ∧ _))

section Install

variable {source : InputSource} {ids : List UInt16}

/-- The buffer has room for the NUL. -/
lemma modelBuffer_terminated (source : InputSource) : (CKeys.modelBuffer source).contains 0 = true := by
  have hfits := source.fits
  rw [List.contains_iff_mem, CKeys.modelBuffer, List.mem_append]
  exact Or.inr (List.mem_replicate.mpr ⟨by omega, rfl⟩)

lemma cInstall_eq (c : CKeys.State) :
    CKeys.install source ids c =
      if Installable source ids then
        (true, { (CKeys.reset 0 c).1 with source, keyIds := ids, ready := true }, (CKeys.reset 0 c).2)
      else (false, c, []) := by
  have hfirst : (!(CKeys.modelBuffer source).contains 0 || source.sessionId == 0 || source.peerId == 0 ||
      source.connectionId == 0 || decide (ids.length > 64)) = true ↔
      source.sessionId = 0 ∨ source.peerId = 0 ∨ source.connectionId = 0 ∨ 64 < ids.length := by
    rw [modelBuffer_terminated]
    simp [or_assoc]
  have hsecond : (ids.contains 0 || !decide ids.Nodup) = true ↔ 0 ∈ ids ∨ ¬ ids.Nodup := by
    simp
  unfold CKeys.install
  rw [if_congr hfirst rfl rfl, if_congr hsecond rfl rfl]
  by_cases h : Installable source ids
  · obtain ⟨h1, h2, h3, h4, h5, h6⟩ := h
    have hfields : ¬ (source.sessionId = 0 ∨ source.peerId = 0 ∨ source.connectionId = 0 ∨ 64 < ids.length) := by
      simp only [not_or, not_lt]
      exact ⟨h1, h2, h3, h4⟩
    rw [if_neg hfields, if_neg (not_or_intro h5 (not_not_intro h6)), if_pos ⟨h1, h2, h3, h4, h5, h6⟩]
  · rw [if_neg h]
    by_cases hfields : source.sessionId = 0 ∨ source.peerId = 0 ∨ source.connectionId = 0 ∨ 64 < ids.length
    · rw [if_pos hfields]
    · rw [if_neg hfields, if_pos]
      simp only [not_or, not_lt] at hfields
      by_contra hids
      simp only [not_or, not_not] at hids
      exact h ⟨hfields.1, hfields.2.1, hfields.2.2.1, hfields.2.2.2, hids.1, hids.2⟩

lemma slots_pyCatalog (ids : List UInt16) :
    (pyCatalog ids).map PyKeys.LogicalKey.slot = List.range ids.length := by
  rw [pyCatalog, List.map_map]
  show ids.zipIdx.map Prod.snd = _
  rw [List.zipIdx_map_snd, List.range_eq_range']

lemma keys_pyCatalog (ids : List UInt16) : (pyCatalog ids).map PyKeys.LogicalKey.keyId = ids := by
  rw [pyCatalog, List.map_map]
  exact List.zipIdx_map_fst 0 ids

lemma pyInstall_eq (p : PyKeys.State) :
    PyKeys.install source (pyCatalog ids) ids.length p =
      if Installable source ids then
        (.ok (), { source := some source, catalog := pyCatalog ids, bits := 0, seq := none },
          (PyKeys.reset "catalog_changed" p).2)
      else (.error .invalidCatalog, p, []) := by
  have hlen : (pyCatalog ids).length = ids.length := by rw [pyCatalog, List.length_map, List.length_zipIdx]
  have hzero : (∃ k ∈ pyCatalog ids, ¬ 0 < k.keyId) ↔ 0 ∈ ids := by
    have hpos : ∀ k : UInt16, ¬ 0 < k ↔ k = 0 := by
      intro k
      rw [UInt16.lt_iff_toNat_lt, ← UInt16.toNat_inj, UInt16.toNat_zero]
      omega
    conv_rhs => rw [← keys_pyCatalog ids, List.mem_map]
    simp only [hpos]
  unfold PyKeys.install
  rw [hlen, slots_pyCatalog, keys_pyCatalog, Int.toNat_natCast]
  by_cases h : Installable source ids
  · obtain ⟨h1, h2, h3, h4, h5, h6⟩ := h
    have hinst : Installable source ids := ⟨h1, h2, h3, h4, h5, h6⟩
    rw [if_pos hinst, if_neg]
    simp only [hzero, ne_eq, Int.natCast_inj, length_dedup_iff, not_or, not_not]
    exact ⟨h1, h3, h2, ⟨by omega, by omega⟩, trivial, trivial, h6, h5⟩
  · rw [if_neg h, if_pos]
    by_contra hbad
    simp only [hzero, ne_eq, Int.natCast_inj, length_dedup_iff, not_or, not_not] at hbad
    obtain ⟨h1, h3, h2, ⟨-, h4⟩, -, -, h6, h5⟩ := hbad
    exact h ⟨h1, h2, h3, by omega, h5, h6⟩

lemma slots_netCatalog (hshort : ids.length ≤ 64) : (netCatalog ids).map (·.slot.toNat) = List.range ids.length := by
  rw [← slots_pyCatalog, netCatalog, pyCatalog, List.map_map, List.map_map]
  apply List.map_congr_left
  rintro ⟨k, i⟩ hmem
  have hi : ids[i]? = some k := List.mem_zipIdx_iff_getElem?.mp hmem
  obtain ⟨hlt, -⟩ := List.getElem?_eq_some_iff.mp hi
  exact UInt8.toNat_ofNat_of_lt' (lt_of_lt_of_le hlt (le_trans hshort (by decide)))

lemma keys_netCatalog (ids : List UInt16) : (netCatalog ids).map NetKeys.KeyDefinition.id = ids := by
  rw [netCatalog, List.map_map]
  exact List.zipIdx_map_fst 0 ids

lemma netInstall_eq (n : NetKeys.State) :
    NetKeys.install source (netCatalog ids) ids.length n =
      if Installable source ids then
        (.ok (), { (NetKeys.reset "catalog_changed" n).1 with
          source := some source, catalog := netCatalog ids }, (NetKeys.reset "catalog_changed" n).2)
      else (.error .invalidCatalog, n, []) := by
  have hlen : (netCatalog ids).length = ids.length := by rw [netCatalog, List.length_map, List.length_zipIdx]
  have hzero : (∃ k ∈ netCatalog ids, k.id = 0) ↔ 0 ∈ ids := by
    conv_rhs => rw [← keys_netCatalog ids, List.mem_map]
  unfold NetKeys.install
  rw [hlen, keys_netCatalog, Int.toNat_natCast]
  by_cases h : Installable source ids
  · obtain ⟨h1, h2, h3, h4, h5, h6⟩ := h
    have hinst : Installable source ids := ⟨h1, h2, h3, h4, h5, h6⟩
    rw [if_pos hinst, if_neg]
    simp only [hzero, ne_eq, Int.natCast_inj, length_eraseDups_iff, slots_netCatalog h4, not_or, not_not]
    exact ⟨h1, h3, h2, ⟨by omega, by omega⟩, trivial, trivial, h5, h6⟩
  · rw [if_neg h, if_pos]
    by_contra hbad
    simp only [hzero, ne_eq, Int.natCast_inj, length_eraseDups_iff, not_or, not_not] at hbad
    obtain ⟨h1, h3, h2, ⟨-, h4⟩, -, -, h5, h6⟩ := hbad
    exact h ⟨h1, h2, h3, by omega, h5, h6⟩

end Install

/-- The three reducers hold the same data. -/
structure Mirrors (c : CKeys.State) (p : PyKeys.State) (n : NetKeys.State) : Prop where
  nodup : c.keyIds.Nodup
  short : c.keyIds.length ≤ 64
  idle : c.ready = false → c.keyIds = [] ∧ c.bits = 0 ∧ c.haveSequence = false
  pySource : p.source = if c.ready then some c.source else none
  pyKeys : p.catalog = pyCatalog c.keyIds
  pyBits : p.bits = c.bits.toNat
  pySeq : p.seq = if c.haveSequence then some c.sequence else none
  netSource : n.source = if c.ready then some c.source else none
  netKeys : n.catalog = netCatalog c.keyIds
  netBits : n.bits = c.bits
  netSeq : n.sequence = if c.haveSequence then some c.sequence else none

/-- The pressed keys. -/
def CKeys.State.pressed (c : CKeys.State) : List UInt16 := heldBy c.keyIds c.bits.toNat.testBit

namespace Mirrors

variable {c : CKeys.State} {p : PyKeys.State} {n : NetKeys.State}

lemma init : Mirrors {} {} {} :=
  ⟨List.nodup_nil, Nat.zero_le _, fun _ => ⟨rfl, rfl, rfl⟩, rfl, rfl, rfl, rfl, rfl, rfl, rfl, rfl⟩

lemma cPressed (h : Mirrors c p n) : cReducer.pressed c = c.pressed := keysOf_eq h.short fun _ _ => rfl

lemma pyPressed (h : Mirrors c p n) : p.pressedKeys = c.pressed := by
  rw [pressedKeys_eq h.nodup h.pyKeys, h.pyBits]
  rfl

lemma netPressed (h : Mirrors c p n) : n.held.Perm c.pressed := by
  have hperm := held_perm h.short h.netKeys
  rwa [h.netBits] at hperm

lemma nodup_pressed (h : Mirrors c p n) : c.pressed.Nodup := nodup_heldBy h.nodup

/-- The three pressed sets are one. -/
lemma held_eq (h : Mirrors c p n) : cReducer.held c = c.pressed.toFinset ∧
    pyReducer.held p = c.pressed.toFinset ∧ netReducer.held n = c.pressed.toFinset := by
  refine ⟨?_, ?_, ?_⟩
  · show (cReducer.pressed c).toFinset = _
    rw [h.cPressed]
  · show p.pressedKeys.toFinset = _
    rw [h.pyPressed]
  · exact List.toFinset_eq_of_perm _ _ h.netPressed

end Mirrors

namespace Batch

/-- The batch of a key state that replaces another. -/
def ofFeed (source : InputSource) (time : UInt64) (seq : UInt32) (isReset : Bool) (before after : List UInt16) :
    Batch where
  ups := before.filter (· ∉ after)
  downs := after.filter (· ∉ before)
  up key := { source, kind := .up, key, capturedUs := time, inputSeq := seq, synthetic := isReset }
  down key := { source, kind := .down, key, capturedUs := time, inputSeq := seq, synthetic := false }
  rest :=
    if isReset then
      [{ source, kind := .reset, key := 0, capturedUs := time, inputSeq := seq, synthetic := true }]
    else []

def ofSnapshot (source : InputSource) (time : UInt64) (seq : UInt32) : Batch where
  ups := []
  downs := []
  up key := { source, kind := .up, key, capturedUs := time, inputSeq := seq, synthetic := true }
  down key := { source, kind := .down, key, capturedUs := time, inputSeq := seq, synthetic := true }
  rest := [{ source, kind := .snapshot, key := 0, capturedUs := time, inputSeq := seq, synthetic := true }]

/-- The batch of a reset; nothing is said where no catalog was installed. -/
def ofReset (ready : Bool) (source : InputSource) (before : List UInt16) : Batch where
  ups := before
  downs := []
  up key := { source, kind := .up, key, capturedUs := 0, inputSeq := 0, synthetic := true }
  down key := { source, kind := .down, key, capturedUs := 0, inputSeq := 0, synthetic := false }
  rest :=
    if ready then
      [{ source, kind := .reset, key := 0, capturedUs := 0, inputSeq := 0, synthetic := true }]
    else []

def silent : Batch where
  ups := []
  downs := []
  up key := { source := .zero, kind := .up, key, capturedUs := 0, inputSeq := 0, synthetic := true }
  down key := { source := .zero, kind := .down, key, capturedUs := 0, inputSeq := 0, synthetic := false }
  rest := []

variable {source : InputSource} {time : UInt64} {seq : UInt32} {before after : List UInt16}

lemma ofFeed_fits {isReset : Bool} (hb : before.Nodup) (ha : after.Nodup) (hreset : isReset = true → after = []) :
    (ofFeed source time seq isReset before after).Fits before.toFinset after.toFinset where
  up _ := ⟨rfl, rfl⟩
  down _ := ⟨rfl, rfl⟩
  ups := ⟨hb.filter _, fun k hk => List.mem_toFinset.mpr (List.mem_filter.mp hk).1⟩
  downs := by
    refine ⟨ha.filter _, ?_⟩
    intro k hk
    rw [List.mem_toFinset]
    exact of_decide_eq_true (List.mem_filter.mp hk).2
  rest := by
    cases isReset with
    | true =>
      rw [hreset rfl]
      exact Or.inr (Or.inr ⟨_, rfl, rfl, rfl⟩)
    | false =>
      refine Or.inl ⟨rfl, ?_⟩
      ext k
      simp only [ofFeed, Finset.mem_union, Finset.mem_sdiff, List.mem_toFinset, List.mem_filter, decide_eq_true_eq]
      tauto

lemma ofSnapshot_fits : (ofSnapshot source time seq).Fits before.toFinset after.toFinset where
  up _ := ⟨rfl, rfl⟩
  down _ := ⟨rfl, rfl⟩
  ups := ⟨List.nodup_nil, fun _ hk => absurd hk List.not_mem_nil⟩
  downs := ⟨List.nodup_nil, fun _ hk => absurd hk List.not_mem_nil⟩
  rest := Or.inr (Or.inl ⟨_, rfl, rfl, rfl, rfl⟩)

lemma ofReset_fits {ready : Bool} (hb : before.Nodup) (hidle : ready = false → before = []) :
    (ofReset ready source before).Fits before.toFinset ∅ where
  up _ := ⟨rfl, rfl⟩
  down _ := ⟨rfl, rfl⟩
  ups := ⟨hb, fun _ hk => List.mem_toFinset.mpr hk⟩
  downs := ⟨List.nodup_nil, fun _ hk => absurd hk List.not_mem_nil⟩
  rest := by
    cases ready with
    | true => exact Or.inr (Or.inr ⟨_, rfl, rfl, rfl⟩)
    | false =>
      rw [hidle rfl]
      exact Or.inl ⟨rfl, rfl⟩

lemma silent_fits {keys : Finset UInt16} : silent.Fits keys keys where
  up _ := ⟨rfl, rfl⟩
  down _ := ⟨rfl, rfl⟩
  ups := ⟨List.nodup_nil, fun _ hk => absurd hk List.not_mem_nil⟩
  downs := ⟨List.nodup_nil, fun _ hk => absurd hk List.not_mem_nil⟩
  rest := by
    refine Or.inl ⟨rfl, ?_⟩
    show keys = keys \ ∅ ∪ ∅
    rw [Finset.sdiff_empty, Finset.union_empty]

lemma silent_shown : silent.Shown [] := ⟨[], [], List.Perm.nil, List.Perm.nil, rfl⟩

end Batch

/-- What the three reducers do with a call that has this batch. -/
structure Does (b : Batch) (c : CKeys.State) (taken : Bool)
    (c' : CKeys.State × KeyOutcome) (p' : PyKeys.State × KeyOutcome) (n' : NetKeys.State × KeyOutcome) :
    Prop where
  mirrors : Mirrors c'.1 p'.1 n'.1
  fits : b.Fits c.pressed.toFinset c'.1.pressed.toFinset
  cTaken : c'.2.taken = taken
  pyTaken : p'.2.taken = taken
  netTaken : n'.2.taken = taken
  cShown : b.Shown c'.2.reports
  pyShown : b.Shown p'.2.reports
  netShown : b.Shown n'.2.reports

namespace Mirrors

variable {c : CKeys.State} {p : PyKeys.State} {n : NetKeys.State}

lemma silent (h : Mirrors c p n) (taken : Bool) :
    Does .silent c taken (c, { taken, reports := [] }) (p, { taken, reports := [] })
      (n, { taken, reports := [] }) :=
  ⟨h, Batch.silent_fits, rfl, rfl, rfl, Batch.silent_shown, Batch.silent_shown, Batch.silent_shown⟩

lemma pressed_idle (h : Mirrors c p n) (hready : c.ready = false) : c.pressed = [] := by
  rw [CKeys.State.pressed, (h.idle hready).1]
  rfl

/-- A reset clears the three reducers and shows one batch. -/
lemma reset (h : Mirrors c p n) (code : UInt8) (text : String) :
    ((CKeys.reset code c).1 = {} ∧
      (Batch.ofReset c.ready c.source c.pressed).Shown ((CKeys.reset code c).2.map CKeys.Event.report)) ∧
    ((PyKeys.reset text p).1 = {} ∧
      (Batch.ofReset c.ready c.source c.pressed).Shown ((PyKeys.reset text p).2.map KeyEvent.report)) ∧
    ((NetKeys.reset text n).1 = {} ∧
      (Batch.ofReset c.ready c.source c.pressed).Shown ((NetKeys.reset text n).2.map KeyEvent.report)) := by
  have hpy := h.pySource
  have hnet := h.netSource
  unfold CKeys.reset PyKeys.reset NetKeys.reset
  cases hready : c.ready with
  | false =>
    obtain ⟨hkeys, hbits, hseq⟩ := h.idle hready
    rw [hready, if_neg Bool.false_ne_true] at hpy hnet
    rw [if_neg Bool.false_ne_true, hpy, hnet, h.pressed_idle hready]
    have hclear : ({ bits := c.bits } : CKeys.State) = {} := by rw [hbits]
    exact ⟨⟨hclear, [], [], .nil, .nil, rfl⟩, ⟨rfl, [], [], .nil, .nil, rfl⟩, rfl, [], [], .nil, .nil, rfl⟩
  | true =>
    rw [hready, if_pos rfl] at hpy hnet
    rw [if_pos rfl, hpy, hnet]
    refine ⟨⟨rfl, c.pressed, [], .refl _, .nil, ?_⟩, ⟨rfl, PyKeys.sortedSet p.pressedKeys, [], ?_, .nil, ?_⟩,
      rfl, n.held, [], h.netPressed, .nil, ?_⟩
    · have hkeys : c.keysOf c.bits = c.pressed := h.cPressed
      rw [hkeys, List.map_append, List.map_map]
      simp only [List.map_nil, List.append_nil]
      rfl
    · rw [h.pyPressed]
      exact sortedSet_perm h.nodup_pressed
    · simp only [List.map_append, List.map_map, List.map_nil, List.append_nil]
      rfl
    · simp only [List.map_append, List.map_map, List.map_nil, List.append_nil]
      rfl

lemma does_reset (h : Mirrors c p n) (code : UInt8) (text : String) :
    Does (.ofReset c.ready c.source c.pressed) c true
      (cReducer.call (.reset code text) c) (pyReducer.call (.reset code text) p)
      (netReducer.call (.reset code text) n) := by
  obtain ⟨⟨hc, hcs⟩, ⟨hp, hps⟩, hn, hns⟩ := h.reset code text
  refine ⟨?_, ?_, rfl, rfl, rfl, hcs, hps, hns⟩
  · show Mirrors (CKeys.reset code c).1 (PyKeys.reset text p).1 (NetKeys.reset text n).1
    rw [hc, hp, hn]
    exact init
  · show Batch.Fits _ _ (CKeys.reset code c).1.pressed.toFinset
    rw [hc]
    exact Batch.ofReset_fits h.nodup_pressed h.pressed_idle

lemma does_install (h : Mirrors c p n) (source : InputSource) (ids : List UInt16) :
    ∃ b taken, Does b c taken
      (cReducer.call (.install source ids) c) (pyReducer.call (.install source ids) p)
      (netReducer.call (.install source ids) n) := by
  have hccall : cReducer.call (.install source ids) c =
      ((CKeys.install source ids c).2.1,
        { taken := (CKeys.install source ids c).1,
          reports := (CKeys.install source ids c).2.2.map CKeys.Event.report }) := rfl
  have hpcall : pyReducer.call (.install source ids) p =
      ((PyKeys.install source (pyCatalog ids) ids.length p).2.1,
        { taken := returned (PyKeys.install source (pyCatalog ids) ids.length p).1,
          reports := (PyKeys.install source (pyCatalog ids) ids.length p).2.2.map KeyEvent.report }) := rfl
  have hncall : netReducer.call (.install source ids) n =
      ((NetKeys.install source (netCatalog ids) ids.length n).2.1,
        { taken := returned (NetKeys.install source (netCatalog ids) ids.length n).1,
          reports := (NetKeys.install source (netCatalog ids) ids.length n).2.2.map KeyEvent.report }) := rfl
  rw [hccall, hpcall, hncall, cInstall_eq, pyInstall_eq, netInstall_eq]
  by_cases hok : Installable source ids
  · rw [if_pos hok, if_pos hok, if_pos hok]
    obtain ⟨⟨hc, hcs⟩, ⟨-, hps⟩, hn, hns⟩ := h.reset 0 "catalog_changed"
    rw [hc, hn]
    refine ⟨.ofReset c.ready c.source c.pressed, true, ⟨?_, ?_, rfl, rfl, rfl, hcs, hps, hns⟩⟩
    · obtain ⟨-, -, -, hshort, -, hnd⟩ := hok
      exact ⟨hnd, hshort, fun hready => absurd hready.symm Bool.false_ne_true, rfl, rfl, rfl, rfl, rfl, rfl, rfl, rfl⟩
    · have hnone : (heldBy ids (fun i => Nat.testBit 0 i)) = [] := by
        unfold heldBy
        simp
      show Batch.Fits _ _ (heldBy ids (fun i => Nat.testBit 0 i)).toFinset
      rw [hnone]
      exact Batch.ofReset_fits h.nodup_pressed h.pressed_idle
  · rw [if_neg hok, if_neg hok, if_neg hok]
    exact ⟨.silent, false, h.silent false⟩

/-- A report with values that no reducer takes. -/
def Refused (c : CKeys.State) (bits : UInt64) (kind reason : UInt8) : Prop :=
  kind > 2 ∨ reason > 3 ∨ (kind = 2 ∧ bits ≠ 0) ∨
    (c.keyIds.length < 64 ∧ bits >>> UInt64.ofNat c.keyIds.length ≠ 0)

instance (c : CKeys.State) (bits : UInt64) (kind reason : UInt8) : Decidable (Refused c bits kind reason) :=
  inferInstanceAs (Decidable (_ ∨ _))

/-- A report that is older than the last one, or the last one again. -/
def Stale (c : CKeys.State) (seq : UInt32) (kind : UInt8) : Prop :=
  c.haveSequence = true ∧ (seq < c.sequence ∨ (seq = c.sequence ∧ kind ≠ 2))

instance (c : CKeys.State) (seq : UInt32) (kind : UInt8) : Decidable (Stale c seq kind) :=
  inferInstanceAs (Decidable (_ ∧ _))

/-- The state after a report that is taken. -/
def fed (c : CKeys.State) (seq : UInt32) (bits : UInt64) : CKeys.State :=
  { c with bits, sequence := seq, haveSequence := true }

section Feed

variable {seq : UInt32} {time bits : UInt64} {kind reason : UInt8}

lemma cFeed_eq (hready : c.ready = true) :
    CKeys.feed seq time bits kind reason c =
      if Refused c bits kind reason then (false, c, [])
      else if Stale c seq kind then (true, c, [])
      else if kind = 0 then (true, fed c seq bits, [(fed c seq bits).emit .snapshot true time seq reason 0])
      else
        (true, fed c seq bits,
          (c.keysOf (c.bits &&& ~~~bits)).map ((fed c seq bits).emit .up (kind == 2) time seq reason) ++
            (c.keysOf (bits &&& ~~~c.bits)).map ((fed c seq bits).emit .down false time seq reason) ++
            if kind == 2 then [(fed c seq bits).emit .reset true time seq reason 0] else []) := by
  have hrefused : (!c.ready || decide (kind > 2) || decide (reason > 3) || (kind == 2 && bits != 0) ||
      (decide (c.keyIds.length < 64) && bits >>> UInt64.ofNat c.keyIds.length != 0)) = true ↔
      Refused c bits kind reason := by
    rw [hready]
    simp [Refused, or_assoc]
  have hstale : (c.haveSequence && (decide (seq < c.sequence) || (seq == c.sequence && kind != 2))) = true ↔
      Stale c seq kind := by
    simp [Stale]
  have hzero : (kind == 0) = true ↔ kind = 0 := beq_iff_eq
  unfold CKeys.feed
  rw [if_congr hrefused rfl rfl, if_congr hstale rfl rfl]
  dsimp only
  rw [if_congr hzero rfl rfl]
  rfl

lemma not_mem_kinds (kind : UInt8) : kind ∉ ([0, 1, 2] : List UInt8) ↔ kind > 2 := by
  revert kind
  decide +kernel

/-- The shifts of the three reducers find the same unknown slots. -/
lemma unknown_slot (h : Mirrors c p n) :
    bits.toNat >>> p.catalog.length ≠ 0 ↔
      c.keyIds.length < 64 ∧ bits >>> UInt64.ofNat c.keyIds.length ≠ 0 := by
  have hlen : p.catalog.length = c.keyIds.length := by
    rw [h.pyKeys, pyCatalog, List.length_map, List.length_zipIdx]
  have hshort := h.short
  rw [hlen]
  by_cases hlt : c.keyIds.length < 64
  · have hshift : (bits >>> UInt64.ofNat c.keyIds.length).toNat = bits.toNat >>> c.keyIds.length := by
      rw [UInt64.toNat_shiftRight, UInt64.toNat_ofNat_of_lt' (lt_trans hlt (by decide)), Nat.mod_eq_of_lt hlt]
    rw [← hshift, Ne, Ne, ← UInt64.toNat_inj]
    exact ⟨fun hne => ⟨hlt, hne⟩, fun hne => hne.2⟩
  · have heq : c.keyIds.length = 64 := by omega
    rw [heq, Nat.shiftRight_eq_div_pow, Nat.div_eq_of_lt bits.toNat_lt]
    simp

lemma py_stale (h : Mirrors c p n) :
    (∃ s, p.seq = some s ∧ (seq < s ∨ (seq = s ∧ kind ≠ 2))) ↔ Stale c seq kind := by
  rw [h.pySeq]
  unfold Stale
  cases c.haveSequence with
  | false => simp
  | true => simp

lemma net_stale (h : Mirrors c p n) :
    (∃ s, n.sequence = some s ∧ (seq < s ∨ (seq = s ∧ kind ≠ 2))) ↔ Stale c seq kind := by
  rw [h.netSeq]
  unfold Stale
  cases c.haveSequence with
  | false => simp
  | true => simp

/-- The states of the other two after a report that is taken. -/
lemma fed_mirrors (h : Mirrors c p n) (hready : c.ready = true) (seq : UInt32) (bits : UInt64) :
    Mirrors (fed c seq bits) { p with bits := bits.toNat, seq := some seq }
      { n with bits, sequence := some seq } where
  nodup := h.nodup
  short := h.short
  idle hidle := absurd (hready.symm.trans hidle) Bool.true_eq_false.mp
  pySource := h.pySource
  pyKeys := h.pyKeys
  pyBits := rfl
  pySeq := rfl
  netSource := h.netSource
  netKeys := h.netKeys
  netBits := rfl
  netSeq := rfl

lemma pyFeed_eq (h : Mirrors c p n) (hready : c.ready = true) (seq : UInt32) (time bits : UInt64)
    (kind reason : UInt8) :
    (Refused c bits kind reason → ∃ e, PyKeys.feed seq time bits.toNat kind reason p = (.error e, p, [])) ∧
    (¬ Refused c bits kind reason → PyKeys.feed seq time bits.toNat kind reason p =
      if Stale c seq kind then (.ok (), p, [])
      else
        let p' : PyKeys.State := { p with bits := bits.toNat, seq := some seq }
        if kind = 0 then
          (.ok (), p', [{ source := c.source, kind := .snapshot, capturedUs := time, inputSeq := seq,
                          synthetic := true, pressedKeys := PyKeys.sortedSet p'.pressedKeys }])
        else
          (.ok (), p',
            (PyKeys.sortedSet (p.pressedKeys.filter (· ∉ p'.pressedKeys))).map (fun key =>
              { source := c.source, kind := .up, keyId := key, capturedUs := time, inputSeq := seq,
                synthetic := kind == 2, reason := toString reason.toNat }) ++
            (PyKeys.sortedSet (p'.pressedKeys.filter (· ∉ p.pressedKeys))).map (fun key =>
              { source := c.source, kind := .down, keyId := key, capturedUs := time, inputSeq := seq }) ++
            if kind = 2 then
              [{ source := c.source, kind := .reset, capturedUs := time, inputSeq := seq, synthetic := true,
                 reason := toString reason.toNat }]
            else [])) := by
  have hsource : p.source = some c.source := by rw [h.pySource, if_pos hready]
  have hstate : (kind ∉ ([0, 1, 2] : List UInt8) ∨ ¬ reason ≤ 3 ∨ (kind = 2 ∧ bits.toNat ≠ 0)) ↔
      kind > 2 ∨ reason > 3 ∨ (kind = 2 ∧ bits ≠ 0) := by
    rw [not_mem_kinds, UInt8.not_le, Ne, Ne, ← UInt64.toNat_inj]
    rfl
  unfold PyKeys.feed
  rw [hsource]
  dsimp only
  rw [if_congr hstate rfl rfl, if_congr h.unknown_slot rfl rfl, if_congr h.py_stale rfl rfl]
  constructor
  · intro hbad
    by_cases hvalue : kind > 2 ∨ reason > 3 ∨ (kind = 2 ∧ bits ≠ 0)
    · exact ⟨.stateValues, if_pos hvalue⟩
    · rw [if_neg hvalue, if_pos (by unfold Refused at hbad; tauto)]
      exact ⟨.unknownSlot, rfl⟩
  · intro hok
    rw [if_neg (fun hbad => hok (by unfold Refused; tauto)), if_neg (fun hbad => hok (by unfold Refused; tauto))]

lemma netFeed_eq (h : Mirrors c p n) (hready : c.ready = true) (seq : UInt32) (time bits : UInt64)
    (kind reason : UInt8) :
    (Refused c bits kind reason → ∃ e, NetKeys.feed seq time bits kind reason n = (.error e, n, [])) ∧
    (¬ Refused c bits kind reason → NetKeys.feed seq time bits kind reason n =
      if Stale c seq kind then (.ok (), n, [])
      else
        let n' : NetKeys.State := { n with bits, sequence := some seq }
        if kind = 0 then
          (.ok (), n', [{ source := c.source, kind := .snapshot, capturedUs := time, inputSeq := seq,
                          synthetic := true, pressedKeys := n'.held }])
        else
          (.ok (), n',
            (n.held.filter (· ∉ n'.held)).eraseDups.map (fun key =>
              { source := c.source, kind := .up, keyId := key, capturedUs := time, inputSeq := seq,
                synthetic := kind == 2, reason := toString reason.toNat }) ++
            (n'.held.filter (· ∉ n.held)).eraseDups.map (fun key =>
              { source := c.source, kind := .down, keyId := key, capturedUs := time, inputSeq := seq }) ++
            if kind = 2 then
              [{ source := c.source, kind := .reset, capturedUs := time, inputSeq := seq, synthetic := true,
                 reason := toString reason.toNat }]
            else [])) := by
  have hsource : n.source = some c.source := by rw [h.netSource, if_pos hready]
  have hlen : n.catalog.length = c.keyIds.length := by
    rw [h.netKeys, netCatalog, List.length_map, List.length_zipIdx]
  unfold NetKeys.feed
  rw [hsource, hlen]
  dsimp only
  rw [if_congr h.net_stale rfl rfl]
  constructor
  · intro hbad
    by_cases hvalue : kind > 2 ∨ reason > 3 ∨ (kind = 2 ∧ bits ≠ 0)
    · exact ⟨.stateValues, if_pos hvalue⟩
    · rw [if_neg hvalue, if_pos (by unfold Refused at hbad; tauto)]
      exact ⟨.unknownSlot, rfl⟩
  · intro hok
    rw [if_neg (fun hbad => hok (by unfold Refused; tauto)), if_neg (fun hbad => hok (by unfold Refused; tauto))]

/-- The batch of a report that is taken. -/
def feedBatch (c : CKeys.State) (seq : UInt32) (time bits : UInt64) (kind : UInt8) : Batch :=
  if kind = 0 then .ofSnapshot c.source time seq
  else .ofFeed c.source time seq (kind == 2) c.pressed (fed c seq bits).pressed

lemma feedBatch_fits (h : Mirrors c p n) (hok : ¬ Refused c bits kind reason) (seq : UInt32) (time : UInt64) :
    (feedBatch c seq time bits kind).Fits c.pressed.toFinset (fed c seq bits).pressed.toFinset := by
  unfold feedBatch
  by_cases hzero : kind = 0
  · rw [if_pos hzero]
    exact Batch.ofSnapshot_fits
  · rw [if_neg hzero]
    refine Batch.ofFeed_fits h.nodup_pressed (nodup_heldBy h.nodup) ?_
    intro hreset
    have hbits : bits = 0 := by
      by_contra hne
      exact hok (Or.inr (Or.inr (Or.inl ⟨beq_iff_eq.mp hreset, hne⟩)))
    show heldBy c.keyIds bits.toNat.testBit = []
    rw [hbits]
    unfold heldBy
    simp

lemma cFeed_shown (h : Mirrors c p n) (seq : UInt32) (time bits : UInt64) (kind reason : UInt8) :
    (feedBatch c seq time bits kind).Shown
      ((if kind = 0 then [(fed c seq bits).emit .snapshot true time seq reason 0]
        else
          (c.keysOf (c.bits &&& ~~~bits)).map ((fed c seq bits).emit .up (kind == 2) time seq reason) ++
            (c.keysOf (bits &&& ~~~c.bits)).map ((fed c seq bits).emit .down false time seq reason) ++
            if kind == 2 then [(fed c seq bits).emit .reset true time seq reason 0] else []).map
        CKeys.Event.report) := by
  unfold feedBatch
  by_cases hzero : kind = 0
  · rw [if_pos hzero, if_pos hzero]
    exact ⟨[], [], .nil, .nil, rfl⟩
  · rw [if_neg hzero, if_neg hzero]
    have hups : c.keysOf (c.bits &&& ~~~bits) = c.pressed.filter (· ∉ (fed c seq bits).pressed) := by
      rw [keysOf_eq h.short fun i hi => testBit_andNot c.bits bits hi]
      exact (heldBy_diff h.nodup).symm
    have hdowns : c.keysOf (bits &&& ~~~c.bits) = (fed c seq bits).pressed.filter (· ∉ c.pressed) := by
      rw [keysOf_eq h.short fun i hi => testBit_andNot bits c.bits hi]
      exact (heldBy_diff h.nodup).symm
    rw [hups, hdowns]
    refine ⟨_, _, .refl _, .refl _, ?_⟩
    rw [List.map_append, List.map_append, List.map_map, List.map_map]
    cases hreset : (kind == 2) with
    | false => rfl
    | true => rfl

lemma pyFeed_shown {source : InputSource} {p p' : PyKeys.State} {before after : List UInt16}
    (hb : before.Nodup) (ha : after.Nodup) (hp : p.pressedKeys = before) (hp' : p'.pressedKeys = after) :
    (Batch.ofFeed source time seq (kind == 2) before after).Shown
      (((PyKeys.sortedSet (p.pressedKeys.filter (· ∉ p'.pressedKeys))).map (fun key =>
          ({ source, kind := .up, keyId := key, capturedUs := time, inputSeq := seq, synthetic := kind == 2,
             reason := toString reason.toNat } : KeyEvent)) ++
        (PyKeys.sortedSet (p'.pressedKeys.filter (· ∉ p.pressedKeys))).map (fun key =>
          ({ source, kind := .down, keyId := key, capturedUs := time, inputSeq := seq } : KeyEvent)) ++
        if kind = 2 then
          [({ source, kind := .reset, capturedUs := time, inputSeq := seq, synthetic := true,
              reason := toString reason.toNat } : KeyEvent)]
        else []).map KeyEvent.report) := by
  rw [hp, hp']
  refine ⟨_, _, sortedSet_perm (hb.filter _), sortedSet_perm (ha.filter _), ?_⟩
  rw [List.map_append, List.map_append, List.map_map, List.map_map]
  by_cases hreset : kind = 2
  · rw [if_pos hreset, hreset]
    rfl
  · rw [if_neg hreset]
    unfold Batch.ofFeed
    rw [beq_false_of_ne hreset]
    rfl

lemma netFeed_shown {source : InputSource} {n n' : NetKeys.State} {before after : List UInt16}
    (hb : before.Nodup) (ha : after.Nodup) (hn : n.held.Perm before) (hn' : n'.held.Perm after) :
    (Batch.ofFeed source time seq (kind == 2) before after).Shown
      (((n.held.filter (· ∉ n'.held)).eraseDups.map (fun key =>
          ({ source, kind := .up, keyId := key, capturedUs := time, inputSeq := seq, synthetic := kind == 2,
             reason := toString reason.toNat } : KeyEvent)) ++
        (n'.held.filter (· ∉ n.held)).eraseDups.map (fun key =>
          ({ source, kind := .down, keyId := key, capturedUs := time, inputSeq := seq } : KeyEvent)) ++
        if kind = 2 then
          [({ source, kind := .reset, capturedUs := time, inputSeq := seq, synthetic := true,
              reason := toString reason.toNat } : KeyEvent)]
        else []).map KeyEvent.report) := by
  have hups : (n.held.filter (· ∉ n'.held)).Perm (before.filter (· ∉ after)) := by
    simp only [hn'.mem_iff]
    exact hn.filter _
  have hdowns : (n'.held.filter (· ∉ n.held)).Perm (after.filter (· ∉ before)) := by
    simp only [hn.mem_iff]
    exact hn'.filter _
  rw [eraseDups_of_nodup (hups.nodup_iff.mpr (hb.filter _)),
    eraseDups_of_nodup (hdowns.nodup_iff.mpr (ha.filter _))]
  refine ⟨_, _, hups, hdowns, ?_⟩
  rw [List.map_append, List.map_append, List.map_map, List.map_map]
  by_cases hreset : kind = 2
  · rw [if_pos hreset, hreset]
    rfl
  · rw [if_neg hreset]
    unfold Batch.ofFeed
    rw [beq_false_of_ne hreset]
    rfl

lemma does_feed (h : Mirrors c p n) (seq : UInt32) (time bits : UInt64) (kind reason : UInt8) :
    ∃ b taken, (kind = 0 → b.ups = [] ∧ b.downs = []) ∧ Does b c taken
      (cReducer.call (.feed seq time bits kind reason) c) (pyReducer.call (.feed seq time bits kind reason) p)
      (netReducer.call (.feed seq time bits kind reason) n) := by
  have hccall : cReducer.call (.feed seq time bits kind reason) c =
      ((CKeys.feed seq time bits kind reason c).2.1,
        { taken := (CKeys.feed seq time bits kind reason c).1,
          reports := (CKeys.feed seq time bits kind reason c).2.2.map CKeys.Event.report }) := rfl
  have hpcall : pyReducer.call (.feed seq time bits kind reason) p =
      ((PyKeys.feed seq time bits.toNat kind reason p).2.1,
        { taken := p.source.isSome && returned (PyKeys.feed seq time bits.toNat kind reason p).1,
          reports := (PyKeys.feed seq time bits.toNat kind reason p).2.2.map KeyEvent.report }) := rfl
  have hncall : netReducer.call (.feed seq time bits kind reason) n =
      ((NetKeys.feed seq time bits kind reason n).2.1,
        { taken := n.source.isSome && returned (NetKeys.feed seq time bits kind reason n).1,
          reports := (NetKeys.feed seq time bits kind reason n).2.2.map KeyEvent.report }) := rfl
  rw [hccall, hpcall, hncall]
  -- no source yet: all three drop the event
  cases hready : c.ready with
  | false =>
    have hp : p.source = none := by
      rw [h.pySource, hready]
      rfl
    have hn : n.source = none := by
      rw [h.netSource, hready]
      rfl
    have hcfeed : CKeys.feed seq time bits kind reason c = (false, c, []) := by
      unfold CKeys.feed
      rw [hready]
      rfl
    have hpfeed : PyKeys.feed seq time bits.toNat kind reason p = (.ok (), p, []) := by
      unfold PyKeys.feed
      rw [hp]
    have hnfeed : NetKeys.feed seq time bits kind reason n = (.ok (), n, []) := by
      unfold NetKeys.feed
      rw [hn]
    rw [hcfeed, hpfeed, hnfeed, hp, hn]
    exact ⟨.silent, false, fun _ => ⟨rfl, rfl⟩, h.silent false⟩
  | true =>
    have hp : p.source.isSome = true := by rw [h.pySource, hready]; rfl
    have hn : n.source.isSome = true := by rw [h.netSource, hready]; rfl
    obtain ⟨hpbad, hpok⟩ := h.pyFeed_eq hready seq time bits kind reason
    obtain ⟨hnbad, hnok⟩ := h.netFeed_eq hready seq time bits kind reason
    rw [cFeed_eq hready, hp, hn]
    -- the event is malformed: all three refuse it
    by_cases hbad : Refused c bits kind reason
    · obtain ⟨e, hpe⟩ := hpbad hbad
      obtain ⟨e', hne⟩ := hnbad hbad
      rw [if_pos hbad, hpe, hne]
      exact ⟨.silent, false, fun _ => ⟨rfl, rfl⟩, h.silent false⟩
    · rw [if_neg hbad, hpok hbad, hnok hbad]
      -- the event is old: all three take it and report nothing
      by_cases hstale : Stale c seq kind
      · rw [if_pos hstale, if_pos hstale, if_pos hstale]
        exact ⟨.silent, true, fun _ => ⟨rfl, rfl⟩, h.silent true⟩
      · rw [if_neg hstale, if_neg hstale, if_neg hstale]
        have hmirrors := h.fed_mirrors hready seq bits
        have hfits := h.feedBatch_fits hbad seq time
        have hshown := h.cFeed_shown seq time bits kind reason
        -- a snapshot reports no edges
        by_cases hzero : kind = 0
        · rw [if_pos hzero] at hshown
          rw [if_pos hzero, if_pos hzero, if_pos hzero]
          refine ⟨feedBatch c seq time bits kind, true, ?_,
            ⟨hmirrors, hfits, rfl, rfl, rfl, hshown, ⟨[], [], ?_, ?_, ?_⟩, ⟨[], [], ?_, ?_, ?_⟩⟩⟩
          all_goals
            unfold feedBatch
            rw [if_pos hzero]
          · exact fun _ => ⟨rfl, rfl⟩
          · exact .nil
          · exact .nil
          · rfl
          · exact .nil
          · exact .nil
          · rfl
        · rw [if_neg hzero] at hshown
          rw [if_neg hzero, if_neg hzero, if_neg hzero]
          refine ⟨feedBatch c seq time bits kind, true, fun h0 => absurd h0 hzero,
            ⟨hmirrors, hfits, rfl, rfl, rfl, hshown, ?_, ?_⟩⟩
          · unfold feedBatch
            rw [if_neg hzero]
            exact pyFeed_shown h.nodup_pressed (nodup_heldBy h.nodup) h.pyPressed hmirrors.pyPressed
          · unfold feedBatch
            rw [if_neg hzero]
            exact netFeed_shown h.nodup_pressed (nodup_heldBy h.nodup) h.netPressed hmirrors.netPressed

end Feed

end Mirrors

/-! ## Payloads -/

section Payloads

variable {c c' : CKeys.State} {p p' : PyKeys.State} {n n' : NetKeys.State} {l l' : List UInt16}

lemma sortedSet_ascending (l : List UInt16) : (PyKeys.sortedSet l).Pairwise (· < ·) := by
  have hle : (PyKeys.sortedSet l).Pairwise (· ≤ ·) :=
    List.pairwise_mergeSort' (· ≤ ·) l.dedup
  have hnd : (PyKeys.sortedSet l).Nodup := (List.mergeSort_perm _ _).nodup_iff.mpr (List.nodup_dedup l)
  exact hle.imp₂ (fun _ _ hab hne => UInt16.lt_of_le_of_ne hab hne) hnd

lemma toFinset_sortedSet (l : List UInt16) : (PyKeys.sortedSet l).toFinset = l.toFinset := by
  rw [PyKeys.sortedSet, List.toFinset_eq_of_perm _ _ (List.mergeSort_perm _ _)]
  ext key
  rw [List.mem_toFinset, List.mem_toFinset, List.mem_dedup]

/-- A list in order is the sorted set of its elements. -/
lemma eq_sortedSet (hl : l.Pairwise (· ≤ ·)) (hperm : l.Perm l') (hnd : l'.Nodup) :
    l = PyKeys.sortedSet l' :=
  (hperm.trans (sortedSet_perm hnd).symm).eq_of_pairwise' hl
    ((sortedSet_ascending l').imp fun hab => UInt16.le_of_lt hab)

lemma held_ascending (n : NetKeys.State) : n.held.Pairwise (· ≤ ·) := List.pairwise_mergeSort' (· ≤ ·) _

/-- Both show the pressed keys in ascending order. -/
lemma Mirrors.netHeld (h : Mirrors c p n) : n.held = PyKeys.sortedSet p.pressedKeys := by
  rw [h.pyPressed]
  exact eq_sortedSet (held_ascending n) h.netPressed h.nodup_pressed

/-- The keys that go from one set to another are sorted by the one and still in order for the other. -/
lemma Mirrors.netDiff (h : Mirrors c p n) (h' : Mirrors c' p' n') :
    (n.held.filter (· ∉ n'.held)).eraseDups = PyKeys.sortedSet (p.pressedKeys.filter (· ∉ p'.pressedKeys)) := by
  rw [h.pyPressed, h'.pyPressed]
  have hperm : (n.held.filter (· ∉ n'.held)).Perm (c.pressed.filter (· ∉ c'.pressed)) := by
    simp only [h'.netPressed.mem_iff]
    exact h.netPressed.filter _
  have hnd := h.nodup_pressed.filter (· ∉ c'.pressed)
  rw [eraseDups_of_nodup (hperm.nodup_iff.mpr hnd)]
  exact eq_sortedSet ((held_ascending n).filter _) hperm hnd

lemma Mirrors.reset_events (h : Mirrors c p n) (text : String) :
    (PyKeys.reset text p).2 = (NetKeys.reset text n).2 := by
  unfold PyKeys.reset NetKeys.reset
  rw [h.netHeld, h.netSource, h.pySource]

lemma Mirrors.feed_events (h : Mirrors c p n) (seq : UInt32) (time bits : UInt64) (kind reason : UInt8) :
    (PyKeys.feed seq time bits.toNat kind reason p).2.2 = (NetKeys.feed seq time bits kind reason n).2.2 := by
  cases hready : c.ready with
  | false =>
    have hp : p.source = none := by rw [h.pySource, hready]; rfl
    have hn : n.source = none := by rw [h.netSource, hready]; rfl
    unfold PyKeys.feed NetKeys.feed
    rw [hp, hn]
  | true =>
    obtain ⟨hpbad, hpok⟩ := h.pyFeed_eq hready seq time bits kind reason
    obtain ⟨hnbad, hnok⟩ := h.netFeed_eq hready seq time bits kind reason
    by_cases hbad : Refused c bits kind reason
    · obtain ⟨e, hpe⟩ := hpbad hbad
      obtain ⟨e', hne⟩ := hnbad hbad
      rw [hpe, hne]
    · rw [hpok hbad, hnok hbad]
      by_cases hstale : Stale c seq kind
      · rw [if_pos hstale, if_pos hstale]
      · have hfed := h.fed_mirrors hready seq bits
        rw [if_neg hstale, if_neg hstale]
        dsimp only
        rw [hfed.netHeld.symm, hfed.netDiff h, h.netDiff hfed]
        by_cases hzero : kind = 0
        · rw [if_pos hzero, if_pos hzero]
        · rw [if_neg hzero, if_neg hzero]

lemma Mirrors.same_events (h : Mirrors c p n) (call : KeyCall) :
    PyKeys.emitted call p = NetKeys.emitted call n := by
  cases call with
  | install source ids =>
    show (PyKeys.install _ _ _ p).2.2 = (NetKeys.install _ _ _ n).2.2
    rw [pyInstall_eq, netInstall_eq]
    by_cases hok : Installable source ids
    · rw [if_pos hok, if_pos hok]
      exact h.reset_events _
    · rw [if_neg hok, if_neg hok]
  | feed seq time bits kind reason => exact h.feed_events seq time bits kind reason
  | reset code text => exact h.reset_events text

/-- The events of a reset carry no keys. -/
lemma reset_carries (text : String) (p : PyKeys.State) (keys : Finset UInt16) :
    ∀ e ∈ (PyKeys.reset text p).2, e.Carries keys := by
  unfold PyKeys.reset
  cases p.source with
  | none => simp
  | some source =>
    intro e he
    rcases List.mem_append.mp he with he | he
    · obtain ⟨key, -, rfl⟩ := List.mem_map.mp he
      rfl
    · rw [List.mem_singleton] at he
      subst he
      rfl

lemma Mirrors.feed_carries (h : Mirrors c p n) (seq : UInt32) (time bits : UInt64) (kind reason : UInt8) :
    ∀ e ∈ (PyKeys.feed seq time bits.toNat kind reason p).2.2,
      e.Carries (PyKeys.feed seq time bits.toNat kind reason p).2.1.pressedKeys.toFinset := by
  cases hready : c.ready with
  | false =>
    have hp : p.source = none := by rw [h.pySource, hready]; rfl
    unfold PyKeys.feed
    rw [hp]
    simp
  | true =>
    obtain ⟨hpbad, hpok⟩ := h.pyFeed_eq hready seq time bits kind reason
    by_cases hbad : Refused c bits kind reason
    · obtain ⟨e, hpe⟩ := hpbad hbad
      rw [hpe]
      simp
    · rw [hpok hbad]
      by_cases hstale : Stale c seq kind
      · rw [if_pos hstale]
        simp
      · rw [if_neg hstale]
        dsimp only
        by_cases hzero : kind = 0
        · rw [if_pos hzero]
          intro e he
          rw [List.mem_singleton] at he
          subst he
          exact ⟨sortedSet_ascending _, toFinset_sortedSet _⟩
        · rw [if_neg hzero]
          intro e he
          rcases List.mem_append.mp he with he | he
          · rcases List.mem_append.mp he with he | he
            · obtain ⟨key, -, rfl⟩ := List.mem_map.mp he
              rfl
            · obtain ⟨key, -, rfl⟩ := List.mem_map.mp he
              rfl
          · split at he
            · rw [List.mem_singleton] at he
              subst he
              rfl
            · exact absurd he List.not_mem_nil

lemma Mirrors.py_carries (h : Mirrors c p n) (call : KeyCall) :
    ∀ e ∈ PyKeys.emitted call p, e.Carries (pyReducer.held (pyReducer.call call p).1) := by
  cases call with
  | install source ids =>
    show ∀ e ∈ (PyKeys.install _ _ _ p).2.2, _
    rw [pyInstall_eq]
    by_cases hok : Installable source ids
    · rw [if_pos hok]
      exact reset_carries _ p _
    · rw [if_neg hok]
      simp
  | feed seq time bits kind reason => exact h.feed_carries seq time bits kind reason
  | reset code text => exact reset_carries text p _

end Payloads

/-! ## Runs -/

/-- What a batch says about the call it answers. -/
def Batch.Answers (b : Batch) (before after : Finset UInt16) : KeyCall → Prop
  | .install _ _ => True
  | .feed _ _ _ kind _ => kind = 0 → b.ups = [] ∧ b.downs = []
  | .reset _ _ => (∀ k ∈ before, k ∈ b.ups) ∧ after = ∅

lemma Mirrors.does {c : CKeys.State} {p : PyKeys.State} {n : NetKeys.State} (h : Mirrors c p n) (call : KeyCall) :
    ∃ b taken, b.Answers c.pressed.toFinset (cReducer.call call c).1.pressed.toFinset call ∧
      Does b c taken (cReducer.call call c) (pyReducer.call call p) (netReducer.call call n) := by
  cases call with
  | install source ids =>
    obtain ⟨b, taken, hdoes⟩ := h.does_install source ids
    exact ⟨b, taken, trivial, hdoes⟩
  | feed seq time bits kind reason => exact h.does_feed seq time bits kind reason
  | reset code text =>
    refine ⟨_, _, ⟨fun k hk => List.mem_toFinset.mp hk, ?_⟩, h.does_reset code text⟩
    show (CKeys.reset code c).1.pressed.toFinset = ∅
    rw [(h.reset code text).1.1]
    rfl

lemma KeyReducer.run_snoc (R : KeyReducer) (calls : List KeyCall) (call : KeyCall) :
    R.run (calls ++ [call]) =
      ((R.call call (R.run calls).1).1,
        (R.call call (R.run calls).1).2.reports.foldl
          (hostReport (R.held (R.call call (R.run calls).1).1)) (R.run calls).2) := by
  rw [KeyReducer.run, List.foldl_append]
  rfl

/-- The three reducers go through a run together, and their hosts with them. -/
lemma run_mirrors (calls : List KeyCall) :
    Mirrors (cReducer.run calls).1 (pyReducer.run calls).1 (netReducer.run calls).1 ∧
      (cReducer.run calls).2 = cReducer.held (cReducer.run calls).1 ∧
      (pyReducer.run calls).2 = pyReducer.held (pyReducer.run calls).1 ∧
      (netReducer.run calls).2 = netReducer.held (netReducer.run calls).1 := by
  induction calls using List.reverseRecOn with
  | nil => exact ⟨.init, rfl, rfl, Mirrors.init.held_eq.2.2.symm⟩
  | append_singleton calls call ih =>
    obtain ⟨h, hc, hp, hn⟩ := ih
    obtain ⟨hc', hp', hn'⟩ := h.held_eq
    obtain ⟨b, taken, -, hdoes⟩ := h.does call
    obtain ⟨hcd, hpd, hnd⟩ := hdoes.mirrors.held_eq
    rw [cReducer.run_snoc, pyReducer.run_snoc, netReducer.run_snoc, hc, hp, hn, hc', hp', hn', hcd, hpd, hnd]
    exact ⟨hdoes.mirrors, hdoes.fits.foldl hdoes.cShown, hdoes.fits.foldl hdoes.pyShown,
      hdoes.fits.foldl hdoes.netShown⟩

/-- A reducer whose calls all show fitting batches is faithful. -/
lemma KeyReducer.faithful_of {R : KeyReducer} {calls : List KeyCall}
    (hheld : (R.run calls).2 = R.held (R.run calls).1)
    (hcalls : ∀ call, ∃ b : Batch,
      b.Answers (R.held (R.run calls).1) (R.held (R.call call (R.run calls).1).1) call ∧
      b.Fits (R.held (R.run calls).1) (R.held (R.call call (R.run calls).1).1) ∧
      b.Shown (R.call call (R.run calls).1).2.reports) : R.Faithful calls where
  folded := hheld
  legal call := by
    obtain ⟨b, -, hfits, hshown⟩ := hcalls call
    rw [hheld]
    exact hfits.legal hshown
  ordered call := by
    obtain ⟨b, -, hfits, hshown⟩ := hcalls call
    exact hfits.ordered hshown
  snapshot seq time bits reason := by
    obtain ⟨b, hanswers, hfits, hshown⟩ := hcalls (.feed seq time bits 0 reason)
    obtain ⟨hups, hdowns⟩ := hanswers rfl
    obtain ⟨us, ds, hus, hds, hreports⟩ := hshown
    rw [hups] at hus
    rw [hdowns] at hds
    rw [hreports, hus.eq_nil, hds.eq_nil]
    intro r hr
    exact (hfits.rest_kind hr).symm
  reset code text := by
    obtain ⟨b, ⟨hall, hafter⟩, hfits, us, ds, hus, -, hreports⟩ := hcalls (.reset code text)
    constructor
    · intro key hkey
      have hmem : key ∈ us := hus.mem_iff.mpr (hall key (List.mem_toFinset.mpr hkey))
      refine ⟨b.up key, ?_, hfits.up key⟩
      rw [hreports]
      exact List.mem_append_left _ (List.mem_append_left _ (List.mem_map_of_mem hmem))
    · exact List.toFinset_eq_empty_iff _ |>.mp hafter

lemma run_payloads (calls : List KeyCall) : PayloadsAgree calls := by
  obtain ⟨h, -⟩ := run_mirrors calls
  refine ⟨fun call => ?_, fun call => ?_, h.same_events, h.py_carries, fun call e he => ?_⟩
  · cases call <;> rfl
  · cases call <;> rfl
  · obtain ⟨b, taken, -, hdoes⟩ := h.does call
    rw [hdoes.mirrors.held_eq.2.2, ← hdoes.mirrors.held_eq.2.1]
    exact h.py_carries call e (h.same_events call ▸ he)

/-! ## Faithful reducers that agree -/

/-- What the reducers have in common after any calls. -/
theorem keyReducers_agree (calls : List KeyCall) :
    (cReducer.Faithful calls ∧ pyReducer.Faithful calls ∧ netReducer.Faithful calls) ∧
      ReducersAgree cReducer pyReducer calls ∧ ReducersAgree cReducer netReducer calls ∧
      PayloadsAgree calls := by
  obtain ⟨h, hc, hp, hn⟩ := run_mirrors calls
  obtain ⟨hch, hph, hnh⟩ := h.held_eq
  refine ⟨⟨?_, ?_, ?_⟩, ?_, ?_, run_payloads calls⟩
  · refine KeyReducer.faithful_of hc fun call => ?_
    obtain ⟨b, taken, hanswers, hdoes⟩ := h.does call
    rw [hch, hdoes.mirrors.held_eq.1]
    exact ⟨b, hanswers, hdoes.fits, hdoes.cShown⟩
  · refine KeyReducer.faithful_of hp fun call => ?_
    obtain ⟨b, taken, hanswers, hdoes⟩ := h.does call
    rw [hph, hdoes.mirrors.held_eq.2.1]
    exact ⟨b, hanswers, hdoes.fits, hdoes.pyShown⟩
  · refine KeyReducer.faithful_of hn fun call => ?_
    obtain ⟨b, taken, hanswers, hdoes⟩ := h.does call
    rw [hnh, hdoes.mirrors.held_eq.2.2]
    exact ⟨b, hanswers, hdoes.fits, hdoes.netShown⟩
  · intro call
    obtain ⟨b, taken, -, hdoes⟩ := h.does call
    exact ⟨hdoes.cTaken.trans hdoes.pyTaken.symm, hdoes.fits.same hdoes.cShown hdoes.pyShown⟩
  · intro call
    obtain ⟨b, taken, -, hdoes⟩ := h.does call
    exact ⟨hdoes.cTaken.trans hdoes.netTaken.symm, hdoes.fits.same hdoes.cShown hdoes.netShown⟩

/-- The C and the Python reducer answer every report alike, and their events have the same reasons. -/
def AnswersAlike (calls : List KeyCall) : Prop :=
  ∀ seq time bits kind reason,
    (CKeys.feed seq time bits kind reason (cReducer.run calls).1).1 =
      returned (PyKeys.feed seq time bits.toNat kind reason (pyReducer.run calls).1).1 ∧
    ((CKeys.feed seq time bits kind reason (cReducer.run calls).1).2.2.map
      fun e => (e.report, toString e.reason.toNat)).Perm
      ((PyKeys.feed seq time bits.toNat kind reason (pyReducer.run calls).1).2.2.map
        fun e => (e.report, e.reason))

/-- The C reducer refuses a report for which no catalog is installed, which the Python reducer lets pass;
and it gives the reason of a press, which the Python reducer leaves out. -/
theorem not_answersAlike :
    ¬ AnswersAlike [] ∧ ¬ AnswersAlike [.install { sessionId := 1, peerId := 1, connectionId := 1 } [7]] := by
  constructor
  · intro h
    exact absurd (h 1 0 0 0 0).1 (by decide)
  · intro h
    exact absurd (h 1 0 1 1 2).2 (by decide +kernel)

end RemoteBridge
