import RemoteBridge.Board.Cache

/-!
# What the GATT cache remembers

A cache that answered with the bytes of an old save would send the bridge to handles that are not there.
The store keeps its place in RAM, so a save that fails after its commit word leaves a newer slot behind
that the running firmware does not know of.  That is harmless as long as the next successful save writes:
it goes to that very slot.  But two saves are answered without writing, the one whose bytes are stored
already and the tombstone over nothing, and after such an answer a reset brings the unknown slot back.

`Fresh` is the promise, made about the history of saves: the bytes are those of a save with no successful
save after it.  `Kept` is the invariant that carries it.  The condition on runs is that no save is answered
without writing while a slot unknown to the RAM is newer.
-/

namespace RemoteBridge

namespace Cache

/-! ## Histories and runs -/

/-- Some slot is newer than the one the RAM counts as current. -/
def hidden (c : Cache) : Bool :=
  (List.finRange 2).any fun i => valid (c.slots i) && c.slot != some i && c.generation < genOf (c.slots i)

/-- The save is answered without writing, although a newer slot is hidden. -/
def masks (readOk : Nat → Bool) (peer : UInt32) (data : List UInt8) (c : Cache) : Bool :=
  let (have_, c) := c.loadBond.readLatest readOk
  c.bound peer && data.length ≤ maxData && c.loaded && !c.ioFailed && settled have_ peer data && c.hidden

/-- One call of `board_cache_save`: what it was to store, whether it returned true, and whether it was
answered over a hidden slot.  A call that a power cut interrupts has not returned true. -/
structure Attempt where
  peer : UInt32
  data : List UInt8
  ok : Bool
  masked : Bool

/-- The bytes of a save for this peer after which no save has succeeded; it may be a successful one, or one
that failed or was cut. -/
def Fresh (log : List Attempt) (peer : UInt32) (data : List UInt8) : Prop :=
  ∃ newer a older, log = newer ++ a :: older ∧ a.peer = peer ∧ a.data = data ∧ ∀ a' ∈ newer, a'.ok = false

/-- What a save that does not complete may leave in its slot: a slot that passes `gac_valid` is the old one,
not yet touched, or the new one with every byte programmed. -/
def Leaves (readOk : Nat → Bool) (peer : UInt32) (data : List UInt8) (c : Cache) : CacheIo → Prop
  | .complete => True
  | .failed content =>
    let c := (c.loadBond.readLatest readOk).2
    valid content = true → content = c.slots c.nextSlot ∨ content = page (c.generation + 1) peer data

/-- Saves, cuts, loads, resets and bond changes in any order, from an EEPROM without a valid slot.  The
reads of every call and the bond store after every bond change or reset are arbitrary. -/
inductive Runs : Cache → List Attempt → Prop
  | start (board : Board) (slots : Fin 2 → Page) (h : ∀ i, valid (slots i) = false) :
      Runs (boot board slots) []
  | save {c : Cache} {log : List Attempt} (readOk : Nat → Bool) (peer : UInt32) (data : List UInt8)
      (io : CacheIo) (hio : Leaves readOk peer data c io) (h : Runs c log) :
      Runs (c.boardCacheSave readOk peer data io).2
        (⟨peer, data, (c.boardCacheSave readOk peer data io).1, c.masks readOk peer data⟩ :: log)
  | cut {c : Cache} {log : List Attempt} (readOk : Nat → Bool) (peer : UInt32) (data : List UInt8)
      (content : Page) (hio : Leaves readOk peer data c (.failed content)) (board : Board) (h : Runs c log) :
      Runs (boot board (c.boardCacheSave readOk peer data (.failed content)).2.slots)
        (⟨peer, data, false, false⟩ :: log)
  | load {c : Cache} {log : List Attempt} (readOk : Nat → Bool) (peer : UInt32) (cap : Nat)
      (h : Runs c log) : Runs (c.boardCacheLoad readOk peer cap).2 log
  | rebond {c : Cache} {log : List Attempt} (board : Board) (h : Runs c log) :
      Runs { c with board := board } log
  | reset {c : Cache} {log : List Attempt} (board : Board) (h : Runs c log) : Runs (boot board c.slots) log

/-- What a load may return: nothing, or fresh bytes of the peer that is bound now. -/
def LoadsFresh (c : Cache) (log : List Attempt) : Prop :=
  ∀ readOk peer cap, (c.boardCacheLoad readOk peer cap).1 ≠ [] →
    c.loadBond.bound peer = true ∧ Fresh log peer (c.boardCacheLoad readOk peer cap).1

/-! ## The invariant -/

/-- The slot promises fresh bytes. -/
abbrev FreshSlot (log : List Attempt) (p : Page) : Prop := Fresh log (peerOf p) (dataOf p)

/-- The valid slots have different generations and the newest one is fresh: what a reset relies on. -/
structure Stored (slots : Fin 2 → Page) (log : List Attempt) : Prop where
  positive : ∀ i, valid (slots i) = true → 0 < genOf (slots i)
  distinct : ∀ i j, valid (slots i) = true → valid (slots j) = true →
    genOf (slots i) = genOf (slots j) → i = j
  newest : ∀ i, valid (slots i) = true →
    (∀ j, valid (slots j) = true → genOf (slots j) ≤ genOf (slots i)) → FreshSlot log (slots i)

/-- Once the RAM knows the slots, the one that it counts as current is fresh too. -/
structure Kept (c : Cache) (log : List Attempt) : Prop where
  stored : Stored c.slots log
  held : c.loaded = true → ∀ i, c.slot = some i →
    valid (c.slots i) = true ∧ genOf (c.slots i) = c.generation ∧ FreshSlot log (c.slots i)
  empty : c.loaded = true → c.slot = none → c.generation = 0 ∧ valid (c.slots 1) = false

variable {readOk : Nat → Bool} {c : Cache} {log : List Attempt} {peer : UInt32} {data : List UInt8}

lemma Fresh.cons (h : Fresh log peer data) {a : Attempt} (ha : a.ok = false) :
    Fresh (a :: log) peer data := by
  obtain ⟨newer, e, older, hlog, hpeer, hdata, hold⟩ := h
  refine ⟨a :: newer, e, older, by rw [hlog]; rfl, hpeer, hdata, fun a' hin => ?_⟩
  rcases List.mem_cons.mp hin with rfl | hin
  · exact ha
  · exact hold a' hin

lemma fresh_head (a : Attempt) (log : List Attempt) : Fresh (a :: log) a.peer a.data :=
  ⟨[], a, log, rfl, rfl, rfl, fun _ h => absurd h List.not_mem_nil⟩

lemma Kept.cons (h : Kept c log) {a : Attempt} (ha : a.ok = false) : Kept c (a :: log) :=
  ⟨⟨h.stored.positive, h.stored.distinct, fun i hv hmax => (h.stored.newest i hv hmax).cons ha⟩,
    fun hl i hi => ⟨(h.held hl i hi).1, (h.held hl i hi).2.1, (h.held hl i hi).2.2.cons ha⟩, h.empty⟩

lemma Kept.boot (h : Kept c log) (board : Board) : Kept (boot board c.slots) log :=
  ⟨h.stored, fun hl => absurd hl Bool.false_ne_true, fun hl => absurd hl Bool.false_ne_true⟩

/-! ## Reading -/

variable (readOk) in
/-- The slots that a scan finds: the newest valid one, or none. -/
lemma scanSlots_spec (hl : c.loaded = false) :
    (c.scanSlots readOk).slots = c.slots ∧
      ((c.scanSlots readOk).loaded = true →
        (∀ i, (c.scanSlots readOk).slot = some i → valid (c.slots i) = true ∧
          genOf (c.slots i) = (c.scanSlots readOk).generation ∧
          ∀ j, valid (c.slots j) = true → genOf (c.slots j) ≤ genOf (c.slots i)) ∧
        ((c.scanSlots readOk).slot = none →
          (c.scanSlots readOk).generation = 0 ∧ ∀ j, valid (c.slots j) = false)) := by
  unfold scanSlots readFailed
  cases h0 : readOk 0
  · simp [hl]
  · cases h1 : readOk 1
    · unfold scan
      by_cases hv0 : valid (c.slots 0) = true
      · simp [hv0, hl]
      · simp [hv0, hl]
    · unfold scan
      by_cases hv0 : valid (c.slots 0) = true
      · by_cases hv1 : valid (c.slots 1) = true
        · by_cases hlt : genOf (c.slots 0) < genOf (c.slots 1)
          · simp [hv0, hv1, hlt, Fin.forall_fin_two, UInt32.le_of_lt hlt]
          · simp [hv0, hv1, hlt, Fin.forall_fin_two, UInt32.not_lt.mp hlt]
        · simp [hv0, hv1, Fin.forall_fin_two]
      · by_cases hv1 : valid (c.slots 1) = true
        · simp [hv0, hv1, Fin.forall_fin_two]
        · simp [hv0, hv1, Fin.forall_fin_two]

/-- The scan keeps the promise. -/
lemma Kept.scanSlots (h : Kept c log) (hl : c.loaded = false) : Kept (c.scanSlots readOk) log := by
  obtain ⟨hslots, hfound⟩ := scanSlots_spec readOk hl
  refine ⟨hslots ▸ h.stored, fun hload i hi => ?_, fun hload hnone => ?_⟩
  · obtain ⟨hv, hgen, hmax⟩ := (hfound hload).1 i hi
    rw [hslots]
    exact ⟨hv, hgen, h.stored.newest i hv hmax⟩
  · obtain ⟨hgen, hv⟩ := (hfound hload).2 hnone
    rw [hslots]
    exact ⟨hgen, hv 1⟩

variable (readOk) in
/-- `gac_read_latest` keeps the promise, and the page it returns is the current slot. -/
lemma Kept.readLatest (h : Kept c log) :
    Kept (c.readLatest readOk).2 log ∧ (c.readLatest readOk).2.slots = c.slots ∧
      (c.readLatest readOk).2.board = c.board ∧
      (∀ p, (c.readLatest readOk).1 = some p → (c.readLatest readOk).2.loaded = true ∧
        ∃ i, (c.readLatest readOk).2.slot = some i ∧ p = (c.readLatest readOk).2.slots i) ∧
      ((c.readLatest readOk).2.loaded = true → (c.readLatest readOk).2.ioFailed = false →
        (c.readLatest readOk).1 = none → (c.readLatest readOk).2.slot = none) := by
  have hstart : Kept { c with ioFailed := false } log := ⟨h.stored, h.held, h.empty⟩
  obtain ⟨c', hc', hkept, hslots, hboard⟩ : ∃ c',
      (if c.loaded then { c with ioFailed := false } else
        ({ c with ioFailed := false } : Cache).scanSlots readOk) = c' ∧
        Kept c' log ∧ c'.slots = c.slots ∧ c'.board = c.board := by
    refine ⟨_, rfl, ?_⟩
    by_cases hl : c.loaded = true
    · rw [if_pos hl]
      exact ⟨hstart, rfl, rfl⟩
    · rw [if_neg hl]
      have hl' : ({ c with ioFailed := false } : Cache).loaded = false := Bool.eq_false_iff.mpr hl
      refine ⟨hstart.scanSlots hl', (scanSlots_spec readOk hl').1, ?_⟩
      unfold Cache.scanSlots scan readFailed
      dsimp only
      repeat' split
      all_goals rfl
  unfold Cache.readLatest
  dsimp only
  rw [hc']
  by_cases hl : c'.loaded = true
  · rw [if_neg (by rw [hl]; decide)]
    cases hslot : c'.slot with
    | none =>
      exact ⟨hkept, hslots, hboard, fun p hp => absurd hp.symm (Option.some_ne_none p), fun _ _ _ => hslot⟩
    | some i =>
      dsimp only
      cases readOk 2 with
      | false =>
        have hfailed : Kept c'.readFailed log := ⟨hkept.stored, hkept.held, hkept.empty⟩
        rw [if_pos (by decide)]
        exact ⟨hfailed, hslots, hboard, fun p hp => absurd hp.symm (Option.some_ne_none p),
          fun _ hio => absurd hio.symm Bool.false_ne_true⟩
      | true =>
        rw [if_neg (by decide), if_pos (hkept.held hl i hslot).1]
        exact ⟨hkept, hslots, hboard, fun p hp => ⟨hl, i, hslot, (Option.some.inj hp).symm⟩,
          fun _ _ hnone => absurd hnone (Option.some_ne_none _)⟩
  · rw [if_pos (by rw [Bool.eq_false_iff.mpr hl]; decide)]
    exact ⟨hkept, hslots, hboard, fun p hp => absurd hp.symm (Option.some_ne_none p),
      fun hload => absurd hload hl⟩

/-! ## Saving -/

lemma lt_succ_of_ne {g : UInt32} (h : g ≠ 0xffffffff) : g < g + 1 := by
  have hmax : g.toNat ≠ 0xffffffff := fun heq => h (UInt32.toNat_inj.mp heq)
  have hlt := g.toNat_lt
  rw [UInt32.lt_iff_toNat_lt, UInt32.toNat_add]
  show g.toNat < (g.toNat + 1) % 2 ^ 32
  omega

/-- The slots other than the one a save goes to: the current one, or an empty one. -/
lemma Kept.other (h : Kept c log) (hl : c.loaded = true) {i : Fin 2} (hi : i ≠ c.nextSlot)
    (hv : valid (c.slots i) = true) : c.slot = some i ∧ genOf (c.slots i) = c.generation := by
  cases hslot : c.slot with
  | none =>
    rw [nextSlot, hslot] at hi
    have hone : i = 1 := (fin_two i).resolve_left hi
    rw [hone, (h.empty hl hslot).2] at hv
    exact absurd hv Bool.false_ne_true
  | some s =>
    rw [nextSlot, hslot] at hi
    have hs : i = s := by
      revert hi
      rcases fin_two i with rfl | rfl <;> rcases fin_two s with rfl | rfl <;> decide
    rw [hs]
    exact ⟨rfl, (h.held hl s hslot).2.1⟩

/-- The slot a save goes to is not the current one. -/
lemma nextSlot_ne {c : Cache} {i : Fin 2} (h : c.slot = some i) : i ≠ c.nextSlot := by
  rw [nextSlot, h]
  rcases fin_two i with rfl | rfl <;> decide

/-- A slot is replaced by one that is newer than the other and fresh. -/
lemma Stored.put {slots : Fin 2 → Page} (h : Stored slots log) {t : Fin 2} {new : Page}
    {log' : List Attempt} (hgen : 0 < genOf new)
    (hold : ∀ i, i ≠ t → valid (slots i) = true → genOf (slots i) < genOf new)
    (hv : valid new = true) (hfresh : FreshSlot log' new) : Stored (Function.update slots t new) log' := by
  have hsame : ∀ i, i ≠ t → Function.update slots t new i = slots i := fun i hi =>
    Function.update_of_ne hi _ _
  have hnew : Function.update slots t new t = new := Function.update_self ..
  refine ⟨fun i hi => ?_, fun i j hi hj heq => ?_, fun i hi hmax => ?_⟩
  · by_cases hit : i = t
    · rw [hit, hnew]
      exact hgen
    · rw [hsame i hit] at hi ⊢
      exact h.positive i hi
  · by_cases hit : i = t
    · by_cases hjt : j = t
      · rw [hit, hjt]
      · rw [hsame j hjt] at hj heq
        rw [hit, hnew] at heq
        have hlt := hold j hjt hj
        rw [heq] at hlt
        exact absurd hlt (UInt32.lt_irrefl _)
    · by_cases hjt : j = t
      · rw [hsame i hit] at hi heq
        rw [hjt, hnew] at heq
        have hlt := hold i hit hi
        rw [heq] at hlt
        exact absurd hlt (UInt32.lt_irrefl _)
      · rw [hsame i hit] at hi heq
        rw [hsame j hjt] at hj heq
        exact h.distinct i j hi hj heq
  · by_cases hit : i = t
    · rw [hit, hnew]
      exact hfresh
    · -- the new slot is newer, so this one is not the newest
      have hle := hmax t (hnew.symm ▸ hv)
      rw [hsame i hit] at hi hle
      rw [hnew] at hle
      exact absurd (hold i hit hi) (UInt32.not_lt.mpr hle)

/-- A slot is lost; the other one, if it is valid, is fresh. -/
lemma Stored.drop {slots : Fin 2 → Page} (h : Stored slots log) {t : Fin 2} {content : Page}
    {log' : List Attempt} (hv : valid content = false)
    (hold : ∀ i, i ≠ t → valid (slots i) = true → FreshSlot log' (slots i)) :
    Stored (Function.update slots t content) log' := by
  have hother : ∀ i, valid (Function.update slots t content i) = true →
      i ≠ t ∧ Function.update slots t content i = slots i := by
    intro i hi
    by_cases hit : i = t
    · rw [hit, Function.update_self, hv] at hi
      exact absurd hi Bool.false_ne_true
    · exact ⟨hit, Function.update_of_ne hit _ _⟩
  refine ⟨fun i hi => ?_, fun i j hi hj heq => ?_, fun i hi _ => ?_⟩
  · obtain ⟨-, hsame⟩ := hother i hi
    rw [hsame] at hi ⊢
    exact h.positive i hi
  · rw [(hother i hi).2, (hother j hj).2] at heq
    exact h.distinct i j ((hother i hi).2 ▸ hi) ((hother j hj).2 ▸ hj) heq
  · obtain ⟨hit, hsame⟩ := hother i hi
    rw [hsame] at hi ⊢
    exact hold i hit hi

section Write

variable {a : Attempt}

/-- The assembled slot is newer than the current one. -/
lemma Kept.older (h : Kept c log) (hl : c.loaded = true) (hg : c.generation ≠ 0xffffffff)
    (hd : data.length ≤ maxData) (i : Fin 2) (hi : i ≠ c.nextSlot) (hv : valid (c.slots i) = true) :
    genOf (c.slots i) < genOf (page (c.generation + 1) peer data) := by
  rw [(h.other hl hi hv).2, genOf_page hd]
  exact lt_succ_of_ne hg

lemma freshSlot_page (hd : data.length ≤ maxData) (hp : a.peer = peer) (hdata : a.data = data)
    (gen : UInt32) : FreshSlot (a :: log) (page gen peer data) := by
  show Fresh _ (peerOf _) (dataOf _)
  rw [peerOf_page hd, dataOf_page hd, ← hp, ← hdata]
  exact fresh_head a log

lemma Kept.put (h : Kept c log) (hl : c.loaded = true) (hg : c.generation ≠ 0xffffffff)
    (hd : data.length ≤ maxData) (hp : a.peer = peer) (hdata : a.data = data) :
    Stored (Function.update c.slots c.nextSlot (page (c.generation + 1) peer data)) (a :: log) := by
  have hpos : 0 < genOf (page (c.generation + 1) peer data) := by
    rw [genOf_page hd]
    exact UInt32.lt_of_le_of_lt UInt32.zero_le (lt_succ_of_ne hg)
  exact h.stored.put hpos (h.older hl hg hd) (valid_page hd _ _) (freshSlot_page hd hp hdata _)

/-- A save that fails leaves its slot as it was, invalid, or complete; the promise stands in each case. -/
lemma Kept.failed (h : Kept c log) (hl : c.loaded = true) (hg : c.generation ≠ 0xffffffff)
    (hd : data.length ≤ maxData) {content : Page}
    (hc : valid content = true → content = c.slots c.nextSlot ∨
      content = page (c.generation + 1) peer data)
    (ha : a.ok = false) (hp : a.peer = peer) (hdata : a.data = data) :
    Kept { c with slots := Function.update c.slots c.nextSlot content } (a :: log) := by
  have hcons := h.cons ha
  have hsame : ∀ i, i ≠ c.nextSlot →
      Function.update c.slots c.nextSlot content i = c.slots i := fun i hi => Function.update_of_ne hi _ _
  have hstored : Stored (Function.update c.slots c.nextSlot content) (a :: log) := by
    by_cases hv : valid content = true
    · rcases hc hv with hold | hfull
      · rw [hold, Function.update_eq_self]
        exact hcons.stored
      · rw [hfull]
        exact h.put hl hg hd hp hdata
    · refine h.stored.drop (Bool.eq_false_iff.mpr hv) fun i hi hv => ?_
      exact (hcons.held hl i (h.other hl hi hv).1).2.2
  refine ⟨hstored, fun hl i hi => ?_, fun hl hnone => ?_⟩
  · show valid (Function.update c.slots c.nextSlot content i) = true ∧
      genOf (Function.update c.slots c.nextSlot content i) = c.generation ∧
        FreshSlot (a :: log) (Function.update c.slots c.nextSlot content i)
    rw [hsame i (nextSlot_ne hi)]
    exact hcons.held hl i hi
  · have hne : (1 : Fin 2) ≠ c.nextSlot := by
      rw [nextSlot, hnone]
      decide
    show c.generation = 0 ∧ valid (Function.update c.slots c.nextSlot content 1) = false
    rw [hsame 1 hne]
    exact hcons.empty hl hnone

/-- A save that succeeds is the newest slot and the current one. -/
lemma Kept.saved (h : Kept c log) (hl : c.loaded = true) (hg : c.generation ≠ 0xffffffff)
    (hd : data.length ≤ maxData) (hp : a.peer = peer) (hdata : a.data = data) :
    Kept { c with
      slots := Function.update c.slots c.nextSlot (page (c.generation + 1) peer data)
      slot := some c.nextSlot
      generation := c.generation + 1 } (a :: log) := by
  refine ⟨h.put hl hg hd hp hdata, fun _ i hi => ?_, fun _ hnone => absurd hnone (Option.some_ne_none _)⟩
  obtain rfl : c.nextSlot = i := Option.some.inj hi
  show valid (Function.update c.slots c.nextSlot (page (c.generation + 1) peer data) c.nextSlot) = true ∧
    genOf (Function.update c.slots c.nextSlot (page (c.generation + 1) peer data) c.nextSlot) =
      c.generation + 1 ∧
    FreshSlot (a :: log) (Function.update c.slots c.nextSlot (page (c.generation + 1) peer data) c.nextSlot)
  rw [Function.update_self]
  exact ⟨valid_page hd _ _, genOf_page hd _ _, freshSlot_page hd hp hdata _⟩

end Write

/-! ## Saves that do not write -/

lemma not_hidden (h : c.hidden = false) {i : Fin 2} (hv : valid (c.slots i) = true)
    (hne : c.slot ≠ some i) : genOf (c.slots i) ≤ c.generation := by
  unfold hidden at h
  have hi := List.any_eq_false.mp h i (List.mem_finRange i)
  by_contra hlt
  exact hi (by simp [hv, hne, UInt32.not_le.mp hlt])

/-- A save that is answered without writing, with no newer slot hidden. -/
lemma Kept.settle (h : Kept c log) (hl : c.loaded = true) {have_ : Option Page}
    (hsome : ∀ p, have_ = some p → ∃ i, c.slot = some i ∧ p = c.slots i)
    (hnone : have_ = none → c.slot = none) (hs : settled have_ peer data = true) (hh : c.hidden = false)
    {a : Attempt} (hp : a.peer = peer) (hdata : a.data = data) : Kept c (a :: log) := by
  cases have_ with
  | some p =>
    obtain ⟨i, hi, rfl⟩ := hsome p rfl
    obtain ⟨hv, hgen, -⟩ := h.held hl i hi
    have hfresh : FreshSlot (a :: log) (c.slots i) := by
      unfold settled at hs
      simp only [Bool.and_eq_true, Bool.or_eq_true, beq_iff_eq, List.isEmpty_iff] at hs
      obtain ⟨⟨hpeer, hlen⟩, hbytes⟩ := hs
      have hsame : dataOf (c.slots i) = data := by
        rcases hbytes with hnil | hbytes
        · rw [hnil] at hlen ⊢
          rw [dataOf, hlen]
          rfl
        · exact hbytes
      show Fresh _ (peerOf _) (dataOf _)
      rw [hpeer, hsame, ← hp, ← hdata]
      exact fresh_head a log
    refine ⟨⟨h.stored.positive, h.stored.distinct, fun j hj hmax => ?_⟩, fun _ j hj => ?_, h.empty⟩
    · by_cases hji : j = i
      · rw [hji]
        exact hfresh
      · -- the other slot is older
        have hle := not_hidden hh hj (fun h => hji (Option.some.inj (hi.symm.trans h)).symm)
        have hge := hmax i hv
        rw [hgen] at hge
        exact absurd (h.stored.distinct j i hj hv ((UInt32.le_antisymm hle hge).trans hgen.symm)) hji
    · obtain rfl : i = j := Option.some.inj (hi.symm.trans hj)
      exact ⟨hv, hgen, hfresh⟩
  | none =>
    have hslot := hnone rfl
    have hno : ∀ i, valid (c.slots i) ≠ true := by
      intro i hv
      have hle := not_hidden hh hv (fun h => Option.some_ne_none i (h.symm.trans hslot))
      rw [(h.empty hl hslot).1] at hle
      exact absurd (h.stored.positive i hv) (UInt32.not_lt.mpr hle)
    exact ⟨⟨h.stored.positive, h.stored.distinct, fun j hj => absurd hj (hno j)⟩,
      fun _ j hj => absurd (hj.symm.trans hslot) (Option.some_ne_none j), h.empty⟩

/-! ## Every call -/

/-- `board_cache_save`, whether it returns or is cut before it can. -/
lemma Kept.boardCacheSave (h : Kept c log) {io : CacheIo} (hio : Leaves readOk peer data c io) {a : Attempt}
    (ha : (a.ok = (c.boardCacheSave readOk peer data io).1 ∧ c.masks readOk peer data = false) ∨
      (a.ok = false ∧ ∃ content, io = .failed content))
    (hp : a.peer = peer) (hdata : a.data = data) :
    Kept (c.boardCacheSave readOk peer data io).2 (a :: log) := by
  have hbond : Kept c.loadBond log := ⟨h.stored, h.held, h.empty⟩
  obtain ⟨hkept, -, hboard, hsome, hnone⟩ := hbond.readLatest readOk
  unfold Leaves at hio
  unfold masks at ha
  unfold Cache.boardCacheSave at ha ⊢
  dsimp only at hio ha ⊢
  generalize c.loadBond.readLatest readOk = r at hkept hsome hnone hio ha hboard ⊢
  obtain ⟨have_, c'⟩ := r
  dsimp only at hkept hsome hnone hio ha hboard ⊢
  by_cases href : (!c.loadBond.bound peer || decide (data.length > maxData)) = true
  · -- refused
    rw [if_pos href] at ha ⊢
    exact hbond.cons (ha.elim And.left And.left)
  · rw [if_neg href] at ha ⊢
    simp only [Bool.or_eq_true, Bool.not_eq_true', decide_eq_true_eq, not_or, Bool.not_eq_false, not_lt]
      at href
    obtain ⟨hbound, hd⟩ := href
    by_cases hio' : (!c'.loaded || c'.ioFailed) = true
    · -- a read failed
      rw [if_pos hio'] at ha ⊢
      exact hkept.cons (ha.elim And.left And.left)
    · rw [if_neg hio'] at ha ⊢
      simp only [Bool.or_eq_true, Bool.not_eq_true', not_or, Bool.not_eq_false, Bool.not_eq_true] at hio'
      obtain ⟨hl, hfailed⟩ := hio'
      by_cases hs : settled have_ peer data = true
      · -- answered without writing
        rw [if_pos hs] at ha ⊢
        rcases ha with ⟨-, hm⟩ | ⟨hok, -⟩
        · have hbound' : c'.bound peer = true := by
            unfold bound
            rw [hboard]
            exact hbound
          have hh : c'.hidden = false := by
            rw [hbound', hl, hfailed, hs, decide_eq_true hd] at hm
            simpa using hm
          exact hkept.settle hl (fun p hp => (hsome p hp).2) (fun hn => hnone hl hfailed hn) hs hh hp hdata
        · exact hkept.cons hok
      · rw [if_neg hs] at ha ⊢
        by_cases hg : (c'.generation == 0xffffffff) = true
        · -- no generation left
          rw [if_pos hg] at ha ⊢
          exact hkept.cons (ha.elim And.left And.left)
        · rw [if_neg hg] at ha ⊢
          have hg' : c'.generation ≠ 0xffffffff := by simpa using hg
          cases io with
          | failed content => exact hkept.failed hl hg' hd hio (ha.elim And.left And.left) hp hdata
          | complete => exact hkept.saved hl hg' hd hp hdata

lemma Kept.boardCacheLoad (h : Kept c log) (cap : Nat) :
    Kept (c.boardCacheLoad readOk peer cap).2 log ∧
      ((c.boardCacheLoad readOk peer cap).1 ≠ [] →
        c.loadBond.bound peer = true ∧ Fresh log peer (c.boardCacheLoad readOk peer cap).1) := by
  have hbond : Kept c.loadBond log := ⟨h.stored, h.held, h.empty⟩
  obtain ⟨hkept, -, -, hsome, -⟩ := hbond.readLatest readOk
  unfold Cache.boardCacheLoad
  dsimp only
  generalize c.loadBond.readLatest readOk = r at hkept hsome ⊢
  obtain ⟨have_, c'⟩ := r
  dsimp only at hkept hsome ⊢
  by_cases hbound : c.loadBond.bound peer = true
  · rw [hbound, Bool.not_true, if_neg Bool.false_ne_true]
    cases have_ with
    | none => exact ⟨hkept, fun hne => absurd rfl hne⟩
    | some p =>
      dsimp only
      by_cases hfit : (peerOf p != peer || decide (lenOf p > cap)) = true
      · rw [if_pos hfit]
        exact ⟨hkept, fun hne => absurd rfl hne⟩
      · rw [if_neg hfit]
        simp only [Bool.or_eq_true, bne_iff_ne, decide_eq_true_eq, not_or, not_not] at hfit
        obtain ⟨hl, i, hi, rfl⟩ := hsome p rfl
        have hfresh := (hkept.held hl i hi).2.2
        unfold FreshSlot at hfresh
        rw [hfit.1] at hfresh
        dsimp only
        exact ⟨hkept, fun _ => ⟨rfl, hfresh⟩⟩
  · rw [Bool.eq_false_iff.mpr hbound, Bool.not_false, if_pos rfl]
    exact ⟨hbond, fun hne => absurd rfl hne⟩

/-! ## Every run -/

lemma Runs.kept (h : Runs c log) (hm : ∀ a ∈ log, a.masked = false) : Kept c log := by
  induction h with
  | start board slots hv =>
    refine ⟨⟨fun i hi => ?_, fun i j hi => ?_, fun i hi => ?_⟩, fun hl => absurd hl Bool.false_ne_true,
      fun hl => absurd hl Bool.false_ne_true⟩
    all_goals exact absurd ((hv i).symm.trans hi) Bool.false_ne_true
  | save readOk peer data io hio _ ih =>
    have hlog := ih fun a ha => hm a (List.mem_cons_of_mem _ ha)
    exact hlog.boardCacheSave hio (.inl ⟨rfl, hm _ (List.mem_cons_self ..)⟩) rfl rfl
  | cut readOk peer data content hio board _ ih =>
    have hlog := ih fun a ha => hm a (List.mem_cons_of_mem _ ha)
    exact (hlog.boardCacheSave hio (.inr ⟨rfl, content, rfl⟩) rfl rfl).boot board
  | load readOk peer cap _ ih => exact ((ih hm).boardCacheLoad cap).1
  | rebond board _ ih => exact ⟨(ih hm).stored, (ih hm).held, (ih hm).empty⟩
  | reset board _ ih => exact (ih hm).boot board

/-- A load returns nothing, or the bytes of the last successful save for the bound peer or of a later attempt,
in every run in which no save is answered over a hidden slot. -/
theorem runs_loadsFresh (h : Runs c log) (hm : ∀ a ∈ log, a.masked = false) : LoadsFresh c log :=
  fun _ _ cap hne => ((h.kept hm).boardCacheLoad cap).2 hne

/-! ## The slip

The firmware runs on a board that is bound, has stored one slot and written another one of which it does not
know.  The lemmas are about any such board and slots; the run at the end is a concrete one. -/

/-- Every read succeeds. -/
def allRead : Nat → Bool := fun _ => true

/-- The bond store is loaded and names the peer. -/
structure Binds (board : Board) (peer : UInt32) : Prop where
  loaded : board.loaded = true
  state : board.storageState = 1
  peer_eq : get32 board.current 16 = peer
  peer_ne : peer ≠ 0

/-- The slot is valid and has these fields. -/
structure IsSlot (p : Page) (gen peer : UInt32) (data : List UInt8) : Prop where
  valid_eq : valid p = true
  gen_eq : genOf p = gen
  peer_eq : peerOf p = peer
  len_eq : lenOf p = data.length
  data_eq : dataOf p = data

lemma isSlot_page (hd : data.length ≤ maxData) (gen peer : UInt32) :
    IsSlot (page gen peer data) gen peer data :=
  ⟨valid_page hd gen peer, genOf_page hd gen peer, peerOf_page hd gen peer, lenOf_page hd gen peer,
    dataOf_page hd gen peer⟩

lemma IsSlot.settled {p : Page} {gen : UInt32} {data' : List UInt8} (h : IsSlot p gen peer data) :
    settled (some p) peer data' = (data'.length == data.length && (data'.isEmpty || data == data')) := by
  unfold Cache.settled
  dsimp only
  rw [h.peer_eq, h.len_eq, h.data_eq, beq_self_eq_true, Bool.true_and]
  congr 1
  exact Bool.beq_comm

section Slip

variable {board : Board} {p₁ p₂ : Page} {x y : UInt8}

lemma Binds.loadBond (h : Binds board peer) {c : Cache} (hc : c.board = board) : c.loadBond = c := by
  have hload : c.board.loadSlots = c.board := by
    unfold Board.loadSlots
    rw [hc, h.loaded, if_pos rfl]
  unfold Cache.loadBond
  rw [hload]

lemma Binds.bound (h : Binds board peer) {c : Cache} (hc : c.board = board) : c.bound peer = true := by
  unfold Cache.bound
  rw [hc, h.state, h.peer_eq]
  simp [h.peer_ne]

/-- A board whose current slot is the first one. -/
def running (board : Board) (slots : Fin 2 → Page) : Cache :=
  { board := board, slots := slots, slot := some 0, generation := 1, loaded := true }

/-- The slots of a board that has stored one record, and those of a board that has stored two. -/
def oneSlot (p₁ : Page) : Fin 2 → Page := Function.update (fun _ => FlashPage.erased) 0 p₁

def twoSlots (p₁ p₂ : Page) : Fin 2 → Page := Function.update (oneSlot p₁) 1 p₂

lemma oneSlot_zero : oneSlot p₁ 0 = p₁ := Function.update_self ..

lemma twoSlots_zero : twoSlots p₁ p₂ 0 = p₁ := by
  rw [twoSlots, Function.update_of_ne (by decide), oneSlot_zero]

lemma twoSlots_one : twoSlots p₁ p₂ 1 = p₂ := Function.update_self ..

lemma one_le_maxData (x : UInt8) : [x].length ≤ maxData := by
  show 1 ≤ 384
  decide

lemma not_valid_erased : valid (FlashPage.erased : Page) = false := by decide +kernel

lemma readLatest_running {slots : Fin 2 → Page} (h : slots 0 = p₁) (hv : valid p₁ = true) :
    (running board slots).readLatest allRead = (some p₁, running board slots) := by
  show (if valid (slots 0) then some (slots 0) else none, running board slots) = _
  rw [h, hv, if_pos rfl]

lemma readLatest_erased : (boot board fun _ => FlashPage.erased).readLatest allRead =
    (none, { (boot board fun _ => FlashPage.erased) with loaded := true }) := by
  simp [readLatest, scanSlots, scan, boot, not_valid_erased, allRead]

/-- A reset finds the newer slot. -/
lemma readLatest_twoSlots (h₁ : IsSlot p₁ 1 peer [x]) (h₂ : IsSlot p₂ 2 peer [y]) :
    (boot board (twoSlots p₁ p₂)).readLatest allRead =
      (some p₂, { running board (twoSlots p₁ p₂) with slot := some 1, generation := 2 }) := by
  simp [readLatest, scanSlots, scan, boot, running, allRead, twoSlots_zero, twoSlots_one, h₁.valid_eq,
    h₁.gen_eq, h₂.valid_eq, h₂.gen_eq]

/-- `board_cache_save` of one byte on a bound board, from the decision on. -/
lemma save_eq (h : Binds board peer) {c : Cache} (hc : c.board = board) {have_ : Option Page} {c' : Cache}
    (hr : c.readLatest allRead = (have_, c')) (hl : c'.loaded = true) (hf : c'.ioFailed = false) (io : CacheIo) :
    c.boardCacheSave allRead peer [x] io =
      if settled have_ peer [x] then (true, c')
      else if c'.generation == 0xffffffff then (false, c')
      else
        match io with
        | .failed content => (false, { c' with slots := Function.update c'.slots c'.nextSlot content })
        | .complete =>
          (true, { c' with
            slots := Function.update c'.slots c'.nextSlot (page (c'.generation + 1) peer [x])
            slot := some c'.nextSlot
            generation := c'.generation + 1 }) := by
  have hlen : ¬ [x].length > maxData := Nat.not_lt.mpr (one_le_maxData x)
  unfold boardCacheSave
  dsimp only
  rw [h.loadBond hc, h.bound hc, hr]
  dsimp only
  rw [decide_eq_false hlen, hl, hf]
  rfl

/-- The first save completes. -/
lemma save_first (h : Binds board peer) :
    (boot board fun _ => FlashPage.erased).boardCacheSave allRead peer [x] .complete =
      (true, running board (oneSlot (page 1 peer [x]))) := by
  rw [save_eq h rfl readLatest_erased rfl rfl]
  rfl

/-- A later save programs the whole slot, but its last read-back fails. -/
lemma save_unverified (h : Binds board peer) (h₁ : IsSlot p₁ 1 peer [x]) (hxy : (x == y) = false) :
    (running board (oneSlot p₁)).boardCacheSave allRead peer [y] (.failed p₂) =
      (false, running board (twoSlots p₁ p₂)) := by
  have hs : settled (some p₁) peer [y] = false := by
    rw [h₁.settled]
    simpa using hxy
  rw [save_eq h rfl (readLatest_running oneSlot_zero h₁.valid_eq) rfl rfl, hs]
  rfl

/-- The bytes of the first save once more: the answer is true, and nothing is written. -/
lemma save_again (h : Binds board peer) (h₁ : IsSlot p₁ 1 peer [x]) (io : CacheIo) :
    (running board (twoSlots p₁ p₂)).boardCacheSave allRead peer [x] io =
      (true, running board (twoSlots p₁ p₂)) := by
  have hs : settled (some p₁) peer [x] = true := by
    rw [h₁.settled]
    simp
  rw [save_eq h rfl (readLatest_running twoSlots_zero h₁.valid_eq) rfl rfl, hs, if_pos rfl]

/-- After a reset the slot of the failed save is the newest. -/
lemma load_again (h : Binds board peer) (h₁ : IsSlot p₁ 1 peer [x]) (h₂ : IsSlot p₂ 2 peer [y]) :
    ((boot board (twoSlots p₁ p₂)).boardCacheLoad allRead peer 384).1 = [y] := by
  unfold boardCacheLoad
  dsimp only
  rw [h.loadBond rfl, h.bound rfl, readLatest_twoSlots h₁ h₂]
  dsimp only
  rw [h₂.peer_eq, h₂.len_eq, h₂.data_eq]
  simp

/-- The run of two saves, the second one unverified. -/
lemma runs_unverified (h : Binds board peer) (hxy : (x == y) = false) :
    ∃ m m', Runs (running board (twoSlots (page 1 peer [x]) (page 2 peer [y])))
      [⟨peer, [y], false, m⟩, ⟨peer, [x], true, m'⟩] ∧
      m = (running board (oneSlot (page 1 peer [x]))).masks allRead peer [y] ∧
      m' = (boot board fun _ => FlashPage.erased).masks allRead peer [x] := by
  have hp := isSlot_page (one_le_maxData x) 1 peer
  generalize hpage : page 1 peer [x] = p at hp
  have hstart : Runs (boot board fun _ => FlashPage.erased) [] := .start _ _ fun _ => not_valid_erased
  have hfirst := hstart.save allRead peer [x] .complete trivial
  rw [save_first h, hpage] at hfirst
  have hleaves : Leaves allRead peer [y] (running board (oneSlot p)) (.failed (page 2 peer [y])) := by
    unfold Leaves
    dsimp only
    rw [h.loadBond rfl, readLatest_running oneSlot_zero hp.valid_eq]
    exact fun _ => .inr rfl
  have hsecond := hfirst.save allRead peer [y] _ hleaves
  rw [save_unverified h hp hxy] at hsecond
  exact ⟨_, _, hsecond, rfl, rfl⟩

end Slip

/-- A board that has bound peer 7. -/
def boundBoard : Board :=
  (Board.storeSave (Board.boot (fun _ => FlashPage.erased) allRead) ⟨7, [], false⟩ .complete).2

lemma binds_boundBoard : Binds boundBoard 7 :=
  ⟨by decide +kernel, by decide +kernel, by decide +kernel, by decide⟩

/-- A save that failed after its commit word comes back over the successful save after it. -/
theorem not_loadsFresh_hiddenSlot : ¬ ∀ c log, Runs c log → LoadsFresh c log := by
  intro hall
  have hbinds := binds_boundBoard
  generalize boundBoard = board at hbinds
  have h₁ := isSlot_page (one_le_maxData 1) 1 7
  have h₂ := isSlot_page (one_le_maxData 2) 2 7
  obtain ⟨m, m', hrun, -, -⟩ := @runs_unverified 7 board 1 2 hbinds (by decide)
  generalize page 1 7 [1] = p₁ at h₁ hrun
  generalize page 2 7 [2] = p₂ at h₂ hrun
  have hagain := hrun.save allRead 7 [1] .complete trivial
  rw [save_again hbinds h₁] at hagain
  have hload := load_again hbinds h₁ h₂
  obtain ⟨-, newer, a, older, hlog, -, hdata, hfail⟩ := hall _ _ (hagain.reset board) allRead 7 384
    (fun hnil => absurd (hload.symm.trans hnil) (by decide))
  have hbytes : a.data = [2] := hdata.trans hload
  -- only the failed save has these bytes, and the save after it succeeded
  cases newer with
  | nil =>
    obtain ⟨rfl, -⟩ := List.cons.inj hlog
    have hone : ([1] : List UInt8) = [2] := hbytes
    exact absurd hone (by decide)
  | cons a' newer =>
    obtain ⟨rfl, -⟩ := List.cons.inj hlog
    have hok : true = false := hfail _ (List.mem_cons_self ..)
    exact absurd hok.symm Bool.false_ne_true

/-- A save and a failed one on the bound board: neither is answered over a hidden slot. -/
theorem loadsFresh_running :
    LoadsFresh (running boundBoard (twoSlots (page 1 7 [1]) (page 2 7 [2])))
      [⟨7, [2], false, false⟩, ⟨7, [1], true, false⟩] := by
  have hbinds := binds_boundBoard
  obtain ⟨m, m', hrun, hm, hm'⟩ := @runs_unverified 7 boundBoard 1 2 hbinds (by decide)
  have h₁ := isSlot_page (one_le_maxData 1) 1 7
  generalize boundBoard = board at hbinds hrun hm hm' ⊢
  generalize page 1 7 [1] = p₁ at h₁ hrun hm ⊢
  generalize page 2 7 [2] = p₂ at hrun ⊢
  have hsecond : m = false := by
    rw [hm]
    unfold masks
    rw [hbinds.loadBond rfl, readLatest_running oneSlot_zero h₁.valid_eq]
    dsimp only
    rw [h₁.settled]
    simp
  have hfirst : m' = false := by
    rw [hm']
    unfold masks
    rw [hbinds.loadBond rfl, readLatest_erased]
    simp [settled]
  rw [hsecond, hfirst] at hrun
  refine runs_loadsFresh hrun fun a ha => ?_
  rcases List.mem_cons.mp ha with rfl | ha
  · rfl
  · obtain rfl := List.mem_singleton.mp ha
    rfl

end Cache

end RemoteBridge
