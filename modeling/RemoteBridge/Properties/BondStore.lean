import RemoteBridge.Board.Power

/-!
# Crash atomicity of the bond store

The two-slot argument for `write_record`.  A run of the store (`Journal`) is any sequence of staging
calls, completed writes, writes that report an error, power cycles and power cuts inside a write.  It
carries two ghosts: `p`, the record committed last, and `u`, the records that reached the EEPROM to
the last byte although their `write_record` reported an error (a read-back that could not be
performed).

`Holds b i p` is the invariant of a board with a committed record: the record in RAM is the one in
slot `i`, and whatever is in the other slot loses the scan of `load_slots`, unless it is one of the
records of `u`.  One lemma says what a write that did not return leaves behind
(`Holds.of_partial`, `Holds.reload`), and the run lemma follows by induction.
-/

namespace RemoteBridge
namespace Board

/-- The store after a reset, with every EEPROM read of the load succeeding. -/
def reboot (slot : Fin 2 → Page) : Board := loadSlots (boot slot readsWork)

/-- `load_slots` takes exactly the record of page `p`: its bytes, its state, and no other page's. -/
structure LoadsAs (slot : Fin 2 → Page) (p : Page) : Prop where
  slot_eq : ∃ i, (reboot slot).currentSlot = some i ∧ slot i = p
  current_eq : (reboot slot).current = (FlashPage.bytes p).take 80
  state_eq : (reboot slot).storageState = (FlashPage.bytes p).getD 8 0
  state_ne : (reboot slot).storageState ≠ 255

/-- What is assumed of a page on which a write did not complete: it passes `valid` only if all its
bytes are programmed, those of the record that was there or those of the record being written. -/
def TornDetected (old : Page) (f : Fields) (c : Page) : Prop :=
  valid c = true → c = old ∨ c = f.page

/-- The same of a page that a power cut left, needed only where the cut fell into the erase: a torn
body or commit word is recognised by the layout (`tornDetected_of_cut`). -/
def EraseDetected (old : Page) (f : Fields) (c : Page) : Prop :=
  FlashOp.erase.Torn old c → TornDetected old f c

lemma tornDetected_of_cut {f : Fields} {old c : Page} (hcut : CutDuring (writeOps f) old c)
    (hd : EraseDetected old f c) : TornDetected old f c := by
  rcases cutDuring_writeOps hcut with herase | hbody | hcommit
  · exact hd herase
  · intro hv
    exact absurd hv (by rw [not_valid_of_body_torn hbody]; exact Bool.false_ne_true)
  · intro hv
    exact Or.inr (eq_page_of_commit_torn hv hcommit)

/-- The runs of the store, with the record committed last and the records that are complete on the
EEPROM without their `write_record` having reported success. -/
inductive Journal : Board → Page → Set Page → Prop
  /-- Any content with a committed record. -/
  | start {slot : Fin 2 → Page} {p : Page} (h : valid (slot 0) = true ∨ valid (slot 1) = true)
      (hp : LoadsAs slot p) : Journal (reboot slot) p ∅
  /-- `board_addr_stage`, `board_addr_invalidate` and `board_hid_flags_stage`; the address type comes
  from `read_identity`, which admits 0 and 1. -/
  | stage {b : Board} {p : Page} {u : Set Page} (addr : Fin 6 → UInt8) (type : UInt8)
      (isValid : Bool) (flags : UInt8) (ht : type ≤ 1) (h : Journal b p u) :
      Journal { b with stagedAddr := addr, stagedType := type, stagedValid := isValid,
                       stagedHidFlags := flags } p u
  /-- A write refused before it reaches the EEPROM. -/
  | refused {b : Board} {p : Page} {u : Set Page} (state : UInt8) (peer : Option PeerRecord)
      (counter : UInt32) (io : WriteIo) (hc : canWrite b = false) (h : Journal b p u) :
      Journal (writeRecord b state peer counter io).2 p u
  /-- A write that completes. -/
  | write {b : Board} {p : Page} {u : Set Page} (state : UInt8) (peer : Option PeerRecord)
      (counter : UInt32) (hs : 1 ≤ state ∧ state ≤ 3) (hc : canWrite b = true)
      (h : Journal b p u) :
      Journal (writeRecord b state peer counter .complete).2
        (recordFields b state peer counter).page ∅
  /-- A write that reports an error and leaves `c` in its slot. -/
  | failed {b : Board} {p : Page} {u : Set Page} (state : UInt8) (peer : Option PeerRecord)
      (counter : UInt32) (c : Page) (hc : canWrite b = true)
      (hd : TornDetected (b.slot (nextSlot b)) (recordFields b state peer counter) c)
      (h : Journal b p u) :
      Journal (writeRecord b state peer counter (.failed c)).2 p
        {q | q ∈ u ∨ q = c ∧ c = (recordFields b state peer counter).page}
  /-- Power is lost outside a write. -/
  | powerCycle {b : Board} {p r : Page} {u : Set Page} (hr : LoadsAs b.slot r)
      (h : Journal b p u) : Journal (reboot b.slot) r ∅
  /-- Power is lost inside the erase, the body program or the commit-word program. -/
  | cut {b : Board} {p r : Page} {u : Set Page} (state : UInt8) (peer : Option PeerRecord)
      (counter : UInt32) (c : Page) (hc : canWrite b = true)
      (hcut : CutDuring (writeOps (recordFields b state peer counter)) (b.slot (nextSlot b)) c)
      (hd : EraseDetected (b.slot (nextSlot b)) (recordFields b state peer counter) c)
      (hr : LoadsAs (Function.update b.slot (nextSlot b) c) r)
      (h : Journal b p u) : Journal (reboot (Function.update b.slot (nextSlot b) c)) r ∅

/-! ## The invariant -/

/-- The other slot loses against slot `i` in the scan of `load_slots`. -/
def Loses (slot : Fin 2 → Page) (i : Fin 2) : Prop :=
  valid (slot (1 - i)) = true →
    generation (FlashPage.bytes (slot (1 - i))) < generation (FlashPage.bytes (slot i)) ∨
      (i = 0 ∧ generation (FlashPage.bytes (slot (1 - i))) = generation (FlashPage.bytes (slot i)))

/-- The board has loaded the committed record `p` of slot `i`. -/
structure Holds (b : Board) (i : Fin 2) (p : Page) (u : Set Page) : Prop where
  isLoaded : b.loaded = true
  current_slot : b.currentSlot = some i
  slot_eq : b.slot i = p
  isValid : valid p = true
  current_eq : b.current = (FlashPage.bytes p).take 80
  state_eq : b.storageState = (FlashPage.bytes p).getD 8 0
  staged_le : b.stagedType ≤ 1
  /-- A complete record in the other slot is older, or was written without a success report. -/
  other : Loses b.slot i ∨ (b.slot (1 - i) ∈ u ∧
    generation (FlashPage.bytes p) < generation (FlashPage.bytes (b.slot (1 - i))))

lemma sub_sub_fin2 (i : Fin 2) : 1 - (1 - i) = i := by
  match i with
  | 0 => rfl
  | 1 => rfl

lemma sub_ne_fin2 (i : Fin 2) : 1 - i ≠ i := by
  match i with
  | 0 => decide
  | 1 => decide

lemma state_ne_of_valid {p : Page} (h : valid p = true) : (FlashPage.bytes p).getD 8 0 ≠ 255 := by
  intro h255
  have hle := ((valid_iff p).mp h).2.2.2.2.1
  rw [h255] at hle
  exact absurd hle (by decide)

lemma getD_take_eighty (b : List UInt8) {k : Nat} (hk : k < 80) : (b.take 80).getD k 0 = b.getD k 0 := by
  simp only [List.getD_eq_getElem?_getD, List.getElem?_take, hk, if_true]

/-- A reboot loads the slot that wins the scan. -/
lemma holds_reboot {slot : Fin 2 → Page} {i : Fin 2} (h : Newest slot i) :
    Holds (reboot slot) i (slot i) ∅ := by
  have hload : reboot slot = _ := loadSlots_boot_of_newest h
  rw [hload]
  refine ⟨rfl, rfl, rfl, h.1, rfl, ?_, ?_, Or.inl h.2⟩
  · exact getD_take_eighty (FlashPage.bytes (slot i)) (k := 8) (by decide)
  · have hbyte := getD_take_eighty (FlashPage.bytes (slot i)) (k := 23) (by decide)
    have htype : (FlashPage.bytes (slot i)).getD 23 0 ≤ 1 :=
      ((valid_iff _).mp h.1).2.2.2.2.2.2.2
    rw [← hbyte] at htype
    exact htype

lemma loadsAs_of_newest {slot : Fin 2 → Page} {i : Fin 2} (h : Newest slot i) :
    LoadsAs slot (slot i) := by
  have hh := holds_reboot h
  exact ⟨⟨i, hh.current_slot, rfl⟩, hh.current_eq, hh.state_eq,
    hh.state_eq ▸ state_ne_of_valid h.1⟩

/-- `load_slots` is a function: a content loads as one page. -/
lemma newest_of_loadsAs {slot : Fin 2 → Page} {p : Page}
    (h : valid (slot 0) = true ∨ valid (slot 1) = true) (hp : LoadsAs slot p) :
    ∃ i, Newest slot i ∧ slot i = p := by
  obtain ⟨i, hi⟩ := exists_newest h
  obtain ⟨j, hj, hslot⟩ := hp.slot_eq
  have hcur := (holds_reboot hi).current_slot
  rw [hj] at hcur
  obtain rfl := Option.some.inj hcur
  exact ⟨j, hi, hslot⟩

namespace Holds

variable {b : Board} {i : Fin 2} {p : Page} {u : Set Page}

lemma valid_slot (h : Holds b i p u) : valid (b.slot i) = true := h.slot_eq ▸ h.isValid

lemma some_valid (h : Holds b i p u) : valid (b.slot 0) = true ∨ valid (b.slot 1) = true := by
  match i, h.valid_slot with
  | 0, hv => exact Or.inl hv
  | 1, hv => exact Or.inr hv

lemma loadSlots_eq (h : Holds b i p u) : loadSlots b = b := by
  simp [loadSlots, h.isLoaded]

lemma nextSlot_eq (h : Holds b i p u) : nextSlot b = 1 - i := by
  simp [nextSlot, h.current_slot]

lemma gen_eq (h : Holds b i p u) (state : UInt8) (peer : Option PeerRecord) (counter : UInt32) :
    (recordFields b state peer counter).gen = generation (FlashPage.bytes p) + 1 := by
  simp [recordFields, h.current_slot, h.current_eq, generation_take]

/-- The generation counter does not wrap: a write at the last generation is refused. -/
lemma lt_gen (h : Holds b i p u) (hc : canWrite b = true) (state : UInt8)
    (peer : Option PeerRecord) (counter : UInt32) :
    generation (FlashPage.bytes p) < (recordFields b state peer counter).gen := by
  have hne : generation (FlashPage.bytes p) ≠ 0xffffffff := by
    intro hmax
    simp [canWrite, h.current_slot, h.current_eq, generation_take, hmax] at hc
  rw [h.gen_eq, UInt32.lt_iff_toNat_lt, UInt32.toNat_add]
  have hlt := UInt32.toNat_lt (generation (FlashPage.bytes p))
  have hne' : (generation (FlashPage.bytes p)).toNat ≠ 4294967295 := fun hn =>
    hne (UInt32.toNat_inj.mp hn)
  have hone : (1 : UInt32).toNat = 1 := rfl
  omega

/-- The record assembled from a board that holds one is a committed page once it is written. -/
lemma valid_record (h : Holds b i p u) {state : UInt8} (hs : 1 ≤ state ∧ state ≤ 3)
    (peer : Option PeerRecord) (counter : UInt32) :
    valid (recordFields b state peer counter).page = true := by
  refine valid_page hs ?_ ?_ h.staged_le
  · simp only [recordFields]
    split <;> decide
  · simp only [recordFields]
    split <;> decide

/-! ## One write -/

lemma writeRecord_refused (h : Holds b i p u) (hc : canWrite b = false) (state : UInt8)
    (peer : Option PeerRecord) (counter : UInt32) (io : WriteIo) :
    (writeRecord b state peer counter io).2 = b := by
  simp [writeRecord, h.loadSlots_eq, hc]

/-- A completed write moves the board to the other slot. -/
lemma write (h : Holds b i p u) (hc : canWrite b = true) {state : UInt8}
    (hs : 1 ≤ state ∧ state ≤ 3) (peer : Option PeerRecord) (counter : UInt32) :
    Holds (writeRecord b state peer counter .complete).2 (1 - i)
      (recordFields b state peer counter).page ∅ := by
  have heq : (writeRecord b state peer counter .complete).2 =
      { b with
        slot := Function.update b.slot (1 - i) (recordFields b state peer counter).page
        current := (recordFields b state peer counter).head
        currentSlot := some (1 - i)
        storageState := state } := by
    simp [writeRecord, h.loadSlots_eq, hc, h.nextSlot_eq, runFlashOps_writeOps]
  have hother : Function.update b.slot (1 - i) (recordFields b state peer counter).page (1 - (1 - i))
      = p := by
    rw [Function.update_of_ne (sub_ne_fin2 (1 - i)), sub_sub_fin2, h.slot_eq]
  rw [heq]
  refine ⟨h.isLoaded, rfl, Function.update_self _ _ _, h.valid_record hs peer counter, ?_, ?_,
    h.staged_le, Or.inl fun _ => Or.inl ?_⟩
  · exact (Fields.take_bytes_page _).symm
  · rw [← getD_take_eighty _ (by decide : 8 < 80), Fields.take_bytes_page]
    rfl
  · have hlt := h.lt_gen hc state peer counter
    dsimp only
    rw [hother, Function.update_self, Fields.generation_page]
    exact hlt

/-- A write that did not complete leaves the board on its record.  What it left in the other slot is
older, incomplete, or the complete new record. -/
lemma of_partial (h : Holds b i p u) (hc : canWrite b = true) {state : UInt8}
    {peer : Option PeerRecord} {counter : UInt32} {c : Page}
    (hd : TornDetected (b.slot (nextSlot b)) (recordFields b state peer counter) c) :
    Holds { b with slot := Function.update b.slot (nextSlot b) c } i p
      {q | q ∈ u ∨ q = c ∧ c = (recordFields b state peer counter).page} := by
  have hlt := h.lt_gen hc state peer counter
  rw [h.nextSlot_eq] at hd ⊢
  have hsame : Function.update b.slot (1 - i) c i = b.slot i :=
    Function.update_of_ne (sub_ne_fin2 i).symm _ _
  refine ⟨h.isLoaded, h.current_slot, hsame.trans h.slot_eq, h.isValid, h.current_eq, h.state_eq,
    h.staged_le, ?_⟩
  simp only [Loses, Function.update_self, hsame]
  by_cases hv : valid c = true
  · rcases hd hv with hold | hnew
    · -- The erase had not touched the page yet: what was there before is there now.
      subst hold
      rcases h.other with hloses | ⟨hmem, hgen⟩
      · exact Or.inl hloses
      · exact Or.inr ⟨Or.inl hmem, hgen⟩
    · refine Or.inr ⟨Or.inr ⟨rfl, hnew⟩, ?_⟩
      rw [hnew, Fields.generation_page]
      exact hlt
  · exact Or.inl fun hv' => absurd hv' hv

/-- What a reset makes of the board. -/
lemma reload (h : Holds b i p u) : ∃ r, LoadsAs b.slot r ∧ (r = p ∨ r ∈ u) := by
  by_cases hv : valid (b.slot (1 - i)) = true
  · rcases h.other with hloses | ⟨hmem, hgen⟩
    · exact ⟨p, h.slot_eq ▸ loadsAs_of_newest ⟨h.valid_slot, hloses⟩, Or.inl rfl⟩
    · have hnewest : Newest b.slot (1 - i) := by
        refine ⟨hv, fun _ => Or.inl ?_⟩
        rw [sub_sub_fin2, h.slot_eq]
        exact hgen
      exact ⟨_, loadsAs_of_newest hnewest, Or.inr hmem⟩
  · have hnewest : Newest b.slot i := ⟨h.valid_slot, fun hv' => absurd hv' hv⟩
    exact ⟨p, h.slot_eq ▸ loadsAs_of_newest hnewest, Or.inl rfl⟩

end Holds

/-! ## Whole runs -/

/-- The invariant holds along every run. -/
lemma Journal.holds {b : Board} {p : Page} {u : Set Page} (h : Journal b p u) :
    ∃ i, Holds b i p u := by
  induction h with
  | start hv hp =>
    obtain ⟨i, hi, rfl⟩ := newest_of_loadsAs hv hp
    exact ⟨i, holds_reboot hi⟩
  | stage addr type isValid flags ht _ ih =>
    obtain ⟨i, hi⟩ := ih
    exact ⟨i, { hi with staged_le := ht }⟩
  | refused state peer counter io hc _ ih =>
    obtain ⟨i, hi⟩ := ih
    exact ⟨i, (hi.writeRecord_refused hc state peer counter io).symm ▸ hi⟩
  | write state peer counter hs hc _ ih =>
    obtain ⟨i, hi⟩ := ih
    exact ⟨1 - i, hi.write hc hs peer counter⟩
  | @failed b p u state peer counter c hc hd _ ih =>
    obtain ⟨i, hi⟩ := ih
    have heq : (writeRecord b state peer counter (.failed c)).2 =
        { b with slot := Function.update b.slot (nextSlot b) c } := by
      simp [writeRecord, hi.loadSlots_eq, hc]
    exact ⟨i, heq ▸ hi.of_partial hc hd⟩
  | powerCycle hr _ ih =>
    obtain ⟨i, hi⟩ := ih
    obtain ⟨j, hj, rfl⟩ := newest_of_loadsAs hi.some_valid hr
    exact ⟨j, holds_reboot hj⟩
  | cut state peer counter c hc hcut hd hr _ ih =>
    obtain ⟨i, hi⟩ := ih
    obtain ⟨j, hj, rfl⟩ := newest_of_loadsAs
      (hi.of_partial hc (tornDetected_of_cut hcut hd)).some_valid hr
    exact ⟨j, holds_reboot hj⟩

/-- Crash atomicity.  In every state of every run the board serves the record committed last, and a
reset loads it again (or a record of `u`, which is as complete on the EEPROM).  A power cut at any
point of any write leaves a store that loads the record committed last or the one being written:
never state 255, an older record or a mixture. -/
theorem journal_crash_atomic {b : Board} {p : Page} {u : Set Page} (h : Journal b p u) :
    (b.current = (FlashPage.bytes p).take 80 ∧ b.storageState = (FlashPage.bytes p).getD 8 0 ∧
      b.storageState ≠ 255) ∧
    (∃ r, LoadsAs b.slot r ∧ (r = p ∨ r ∈ u)) ∧
    (∀ (state : UInt8) (peer : Option PeerRecord) (counter : UInt32) (c : Page),
      canWrite b = true →
      CutDuring (writeOps (recordFields b state peer counter)) (b.slot (nextSlot b)) c →
      EraseDetected (b.slot (nextSlot b)) (recordFields b state peer counter) c →
      ∃ r, LoadsAs (Function.update b.slot (nextSlot b) c) r ∧
        (r = p ∨ r ∈ u ∨ r = (recordFields b state peer counter).page)) := by
  obtain ⟨i, hi⟩ := h.holds
  refine ⟨⟨hi.current_eq, hi.state_eq, hi.state_eq ▸ state_ne_of_valid hi.isValid⟩, hi.reload, ?_⟩
  intro state peer counter c hc hcut hd
  obtain ⟨r, hr, hmem⟩ := (hi.of_partial hc (tornDetected_of_cut hcut hd)).reload
  refine ⟨r, hr, ?_⟩
  rcases hmem with rfl | hu | ⟨rfl, hnew⟩
  · exact Or.inl rfl
  · exact Or.inr (Or.inl hu)
  · exact Or.inr (Or.inr hnew)

/-- An EEPROM with one committed record, the initial pending journal, in slot 0. -/
def firstJournal : Fin 2 → Page := fun i => if i = 0 then expectedFields.page else FlashPage.erased

lemma firstJournal_newest : Newest firstJournal 0 := by
  refine ⟨valid_page (by decide) (by decide) (by decide) (by decide), fun h => ?_⟩
  have herased : valid (firstJournal (1 - 0)) = false := by decide +kernel
  rw [herased] at h
  exact absurd h Bool.false_ne_true

/-- A page on which the body program stopped after the magic. -/
def tornMagic : Page := FlashPage.ofBytes magic

lemma cutDuring_tornMagic (f : Fields) (old : Page) : CutDuring (writeOps f) old tornMagic := by
  refine ⟨[.erase], .program 0 f.body, [.program commitOff (put32 commitWord)], rfl, fun i => ?_⟩
  have hpre : runFlashOps [FlashOp.erase] old = (FlashPage.erased : Page) := rfl
  rw [hpre, program_body]
  refine ⟨?_, ?_⟩
  · by_cases hi : i.val < 4
    · have hmagic : f.bodyPage i = tornMagic i := by
        have hlen : i.val < magic.length := hi
        simp only [Fields.bodyPage, Fields.body, Fields.covered, Fields.head, tornMagic,
          FlashPage.ofBytes, List.append_assoc]
        exact List.getD_append _ _ _ _ hlen
      rw [hmagic, UInt8.and_self]
    · have hones : tornMagic i = 255 := List.getD_eq_default _ _ (Nat.le_of_not_lt hi)
      rw [hones, uint8_and_allOnes]
  · exact uint8_and_allOnes _

lemma tornMagic_unrecognised :
    valid tornMagic = false ∧ pendingBody tornMagic = false ∧ isErased tornMagic = false := by
  refine ⟨by decide +kernel, by decide +kernel, by decide +kernel⟩

/-- A board that has found a record can write one. -/
lemma canWrite_reboot {slot : Fin 2 → Page} {i : Fin 2} (h : Newest slot i)
    (hgen : generation (FlashPage.bytes (slot i)) ≠ 0xffffffff) : canWrite (reboot slot) = true := by
  have hheld := holds_reboot h
  have hstate := state_ne_of_valid hheld.isValid
  simp only [canWrite, hheld.state_eq, hheld.current_slot, hheld.current_eq, generation_take,
    Option.isSome_some, Bool.true_and, bne_iff_ne.mpr hstate, beq_eq_false_iff_ne.mpr hgen,
    Bool.not_false]

/-- The EEPROM after power was lost inside the next write, behind its magic. -/
def cutJournal : Fin 2 → Page := Function.update firstJournal 1 tornMagic

lemma cutJournal_newest : Newest cutJournal 0 := by
  have hother : cutJournal (1 - 0) = tornMagic := Function.update_self _ _ _
  refine ⟨firstJournal_newest.1, fun h => ?_⟩
  rw [hother, tornMagic_unrecognised.1] at h
  exact absurd h Bool.false_ne_true

/-- The first record is served again after the cut, and the write is done once more. -/
theorem journal_crash_atomic_cutJournal :
    Journal (reboot cutJournal) (firstJournal 0) ∅ ∧
      (reboot cutJournal).current = (FlashPage.bytes (firstJournal 0)).take 80 ∧
      Journal (writeRecord (reboot cutJournal) 1 none 1 .complete).2
        (recordFields (reboot cutJournal) 1 none 1).page ∅ ∧
      (writeRecord (reboot cutJournal) 1 none 1 .complete).2.storageState ≠ 255 := by
  have hstart : Journal (reboot firstJournal) (firstJournal 0) ∅ :=
    Journal.start (Or.inl firstJournal_newest.1) (loadsAs_of_newest firstJournal_newest)
  have hgen : generation (FlashPage.bytes (firstJournal 0)) ≠ 0xffffffff := by
    have hone : generation (FlashPage.bytes expectedFields.page) = 1 := Fields.generation_page _
    exact fun h => absurd (hone.symm.trans h) (by decide)
  have hheld := holds_reboot firstJournal_newest
  have hnext : nextSlot (reboot firstJournal) = 1 := by simp [nextSlot, hheld.current_slot]
  have hsame : cutJournal 0 = firstJournal 0 := Function.update_of_ne (by decide) _ _
  have hslots : Function.update (reboot firstJournal).slot (nextSlot (reboot firstJournal)) tornMagic =
      cutJournal := by
    have hslot : (reboot firstJournal).slot = firstJournal := by
      unfold reboot
      rw [loadSlots_boot_of_newest firstJournal_newest]
      rfl
    rw [hnext, hslot]
    rfl
  have hloads : LoadsAs cutJournal (firstJournal 0) := hsame ▸ loadsAs_of_newest cutJournal_newest
  have hcut : Journal (reboot cutJournal) (firstJournal 0) ∅ := by
    rw [← hslots] at hloads ⊢
    exact Journal.cut 1 none 1 tornMagic (canWrite_reboot firstJournal_newest hgen)
      (cutDuring_tornMagic _ _) (fun _ hv => absurd hv (by rw [tornMagic_unrecognised.1]; decide))
      hloads hstart
  have hcan : canWrite (reboot cutJournal) = true := canWrite_reboot cutJournal_newest (hsame ▸ hgen)
  have hwrite := Journal.write 1 none 1 (by decide) hcan hcut
  exact ⟨hcut, (journal_crash_atomic hcut).1.1, hwrite, (journal_crash_atomic hwrite).1.2.2⟩

end Board
end RemoteBridge
