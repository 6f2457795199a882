import RemoteBridge.Properties.BondStore

/-!
# Recovery of a factory-blank board

Before the first record is committed the two-slot argument of `BondStore` does not apply.  `load_slots`
then has two recognisers for a torn first journal: a body with a correct CRC and no commit word
(`pendingBody`), and a slot 0 that is bit-compatible with the one record `board_begin_pair` can write
on a blank board, slot 1 still being erased.

The reachable boards fall into three shapes (`Shape`).  A blank board stays blank or becomes torn; a
board that is based on a committed or CRC-complete slot stays so, because writes go to the other slot.
The torn shape is the delicate one: it is recognised only while slot 1 is erased, and the recovery
write that follows it goes to slot 1.  A cut there that leaves neither an erased page nor a
CRC-complete body makes the next load answer 255.  `CutOk` says that this cut does not happen, and is
exactly the condition under which the board keeps recovering.
-/

namespace RemoteBridge
namespace Board

/-! ## The calls of `wch_central` -/

/-- The store writes that the radio side issues. -/
inductive StoreCall where
  | beginPair
  | clear
  | save (peer : PeerRecord)
  | forget

namespace StoreCall

/-- The board function behind a call, served without an EEPROM error. -/
def run (call : StoreCall) (b : Board) : Bool × Board :=
  match call with
  | .beginPair => boardBeginPair b .complete
  | .clear => storeClear b .complete
  | .save peer => storeSave b peer .complete
  | .forget => boardBeginForget b .complete

/-- The record a call writes, on a loaded board; `none` when the call is refused before the EEPROM. -/
def record (call : StoreCall) (b : Board) : Option Fields :=
  if !canWrite b then none
  else
    match call with
    | .beginPair =>
      if (b.storageState == 1 && get32 b.current 16 != 0) || boardPeerCounter b == 0xffffffff then none
      else
        some (recordFields { b with stagedValid := false, stagedHidFlags := 255 } 3 none
          (boardPeerCounter b + 1))
    | .clear => some (recordFields { b with stagedValid := false } 1 none (boardPeerCounter b))
    | .save peer =>
      if peer.peerId == 0 then none else some (recordFields b 1 (some peer) (boardPeerCounter b))
    | .forget => some (recordFields b 2 none (boardPeerCounter b))

/-- On a board that was never written only `board_begin_pair` is issued: saving, forgetting and
clearing need a peer or a pending journal. -/
def Issued (call : StoreCall) (b : Board) : Prop := b.storageState = 0 → call = .beginPair

end StoreCall

/-- Both slots erased. -/
def blankSlots : Fin 2 → Page := fun _ => FlashPage.erased

/-- Runs from a factory-blank EEPROM, restricted to power cuts that meet `ok`. -/
inductive FactoryRun (ok : Board → Page → Prop) : Board → Prop
  | blank : FactoryRun ok (reboot blankSlots)
  /-- Staging happens when a pairing completes, that is after `board_begin_pair`. -/
  | stage {b : Board} (addr : Fin 6 → UInt8) (type : UInt8) (isValid : Bool) (flags : UInt8)
      (ht : type ≤ 1) (hs : b.storageState ≠ 0) (h : FactoryRun ok b) :
      FactoryRun ok { b with stagedAddr := addr, stagedType := type, stagedValid := isValid,
                             stagedHidFlags := flags }
  | call {b : Board} (call : StoreCall) (hi : call.Issued b) (h : FactoryRun ok b) :
      FactoryRun ok (call.run b).2
  | reset {b : Board} (h : FactoryRun ok b) : FactoryRun ok (reboot b.slot)
  | cut {b : Board} {f : Fields} (call : StoreCall) (c : Page) (hi : call.Issued b)
      (hf : call.record b = some f) (hcut : CutDuring (writeOps f) (b.slot (nextSlot b)) c)
      (hok : ok b c) (h : FactoryRun ok b) :
      FactoryRun ok (reboot (Function.update b.slot (nextSlot b) c))

/-- The cut does not strand a torn first journal: when neither slot is committed or CRC-complete, the
page it leaves is erased, CRC-complete or committed. -/
def CutOk (b : Board) (c : Page) : Prop :=
  b.storageState ≠ 0 → (∀ i, valid (b.slot i) = false ∧ pendingBody (b.slot i) = false) →
    isErased c = true ∨ pendingBody c = true ∨ valid c = true

/-! ## Shapes -/

/-- The slot is committed, or its body is complete. -/
def Recognised (p : Page) : Prop := valid p = true ∨ pendingBody p = true

/-- The board works from a recognised slot. -/
structure Based (b : Board) (i : Fin 2) : Prop where
  isLoaded : b.loaded = true
  current_slot : b.currentSlot = some i
  recognised : Recognised (b.slot i)
  state_ne : b.storageState ≠ 0 ∧ b.storageState ≠ 255
  staged_le : b.stagedType ≤ 1

/-- The only programmed slot is a torn copy of the initial journal. -/
structure TornFirst (b : Board) : Prop where
  isLoaded : b.loaded = true
  current_slot : b.currentSlot = some 0
  current_eq : b.current = expectedFields.head
  not_recognised : ¬ Recognised (b.slot 0)
  programmed : isErased (b.slot 0) = false
  compatible_zero : compatible (b.slot 0) expectedFields.page = true
  erased_one : isErased (b.slot 1) = true
  state_eq : b.storageState = 3
  staged_le : b.stagedType ≤ 1

/-- The three shapes of a reachable board. -/
def Shape (b : Board) : Prop := b = scanning blankSlots ∨ TornFirst b ∨ ∃ i, Based b i

/-! ## What the calls do -/

namespace StoreCall

variable {call : StoreCall} {b : Board} {f : Fields}

/-- The board with its address dropped, and its HID flags replaced, as `store_clear` and
`board_begin_pair` have it when they write. -/
def unstaged (b : Board) (g : UInt8) : Board := { b with stagedValid := false, stagedHidFlags := g }

/-- Staged fields do not decide where a completed write goes. -/
lemma writeRecord_complete (hl : b.loaded = true) (hc : canWrite b = true) (state : UInt8)
    (peer : Option PeerRecord) (counter : UInt32) :
    (writeRecord b state peer counter .complete).2 =
      { b with
        slot := Function.update b.slot (nextSlot b) (recordFields b state peer counter).page
        current := (recordFields b state peer counter).head
        currentSlot := some (nextSlot b)
        storageState := state } := by
  simp [writeRecord, loadSlots_of_loaded hl, hc, runFlashOps_writeOps]

lemma writeRecord_refused (hl : b.loaded = true) (hc : canWrite b = false) (state : UInt8)
    (peer : Option PeerRecord) (counter : UInt32) :
    (writeRecord b state peer counter .complete).2 = b := by
  simp [writeRecord, loadSlots_of_loaded hl, hc]

lemma boardPeerCounter_staged (hl : b.loaded = true) (v : Bool) :
    boardPeerCounter { b with stagedValid := v } = boardPeerCounter b := by
  simp [boardPeerCounter, loadSlots, hl]

/-- A refused call changes staged fields at most. -/
lemma run_of_none (hl : b.loaded = true) (h : call.record b = none) :
    ∃ v g, (call.run b).2 = { b with stagedValid := v, stagedHidFlags := g } := by
  cases hc : canWrite b with
  | false =>
    match call with
    | .beginPair =>
      simp only [run, boardBeginPair, loadSlots_of_loaded hl]
      split
      · exact ⟨b.stagedValid, b.stagedHidFlags, rfl⟩
      · exact ⟨false, 255, writeRecord_refused (b := unstaged b 255) hl hc _ _ _⟩
    | .clear =>
      exact ⟨false, b.stagedHidFlags,
        writeRecord_refused (b := unstaged b b.stagedHidFlags) hl hc _ _ _⟩
    | .save peer =>
      refine ⟨b.stagedValid, b.stagedHidFlags, ?_⟩
      simp only [run, storeSave]
      split
      · rfl
      · exact writeRecord_refused hl hc _ _ _
    | .forget => exact ⟨b.stagedValid, b.stagedHidFlags, writeRecord_refused hl hc _ _ _⟩
  | true =>
    match call with
    | .beginPair =>
      refine ⟨b.stagedValid, b.stagedHidFlags, ?_⟩
      simp only [record, hc, Bool.not_true, Bool.false_eq_true, if_false] at h
      split at h
      next hno =>
        simp only [run, boardBeginPair, loadSlots_of_loaded hl, Bool.or_assoc, hno, Bool.or_true,
          if_true]
      next => exact absurd h (Option.some_ne_none _)
    | .clear => simp [record, hc] at h
    | .save peer =>
      refine ⟨b.stagedValid, b.stagedHidFlags, ?_⟩
      have hzero : peer.peerId = 0 := by simpa [record, hc] using h
      simp [run, storeSave, hzero]
    | .forget => simp [record, hc] at h

/-- An accepted call commits its record in the next slot. -/
lemma run_of_some (hl : b.loaded = true) (h : call.record b = some f) :
    ∃ v g, (call.run b).2 =
      { b with slot := Function.update b.slot (nextSlot b) f.page, current := f.head,
               currentSlot := some (nextSlot b), storageState := f.state,
               stagedValid := v, stagedHidFlags := g } := by
  have hc : canWrite b = true := by
    by_contra hno
    simp [record, hno] at h
  simp only [record, hc, Bool.not_true, Bool.false_eq_true, if_false] at h
  match call with
  | .beginPair =>
    dsimp only at h
    split at h
    next => exact absurd h.symm (Option.some_ne_none _)
    next hno =>
      have hne : b.storageState ≠ 255 := by
        intro h255
        simp [canWrite, h255] at hc
      obtain rfl := Option.some.inj h
      have hrun : run .beginPair b = writeRecord { b with stagedValid := false, stagedHidFlags := 255 }
          3 none (boardPeerCounter b + 1) .complete := by
        have hcond : (b.storageState == 255 || (b.storageState == 1 && get32 b.current 16 != 0) ||
            boardPeerCounter b == 0xffffffff) = false := by
          rw [Bool.or_assoc, Bool.not_eq_true _ |>.mp hno, Bool.or_false]
          simpa using hne
        simp only [run, boardBeginPair, loadSlots_of_loaded hl, hcond, Bool.false_eq_true, if_false]
      exact ⟨false, 255, hrun ▸ writeRecord_complete (b := unstaged b 255) hl hc _ _ _⟩
  | .clear =>
    obtain rfl := Option.some.inj h
    have hrun : run .clear b =
        writeRecord { b with stagedValid := false } 1 none (boardPeerCounter b) .complete := by
      simp only [run, storeClear, boardPeerCounter_staged hl]
    exact ⟨false, b.stagedHidFlags,
      hrun ▸ writeRecord_complete (b := unstaged b b.stagedHidFlags) hl hc _ _ _⟩
  | .save peer =>
    dsimp only at h
    split at h
    next => exact absurd h.symm (Option.some_ne_none _)
    next hzero =>
      obtain rfl := Option.some.inj h
      refine ⟨b.stagedValid, b.stagedHidFlags, ?_⟩
      simp only [run, storeSave, if_neg hzero]
      exact writeRecord_complete hl hc _ _ _
  | .forget =>
    obtain rfl := Option.some.inj h
    exact ⟨b.stagedValid, b.stagedHidFlags, writeRecord_complete hl hc _ _ _⟩

/-- The record of an accepted call is in range. -/
lemma record_range (ht : b.stagedType ≤ 1) (h : call.record b = some f) :
    (1 ≤ f.state ∧ f.state ≤ 3) ∧ f.autoReconnect ≤ 1 ∧ f.addrValid ≤ 1 ∧ f.addrType ≤ 1 := by
  have hrange : ∀ (b' : Board) (state : UInt8) (peer : Option PeerRecord) (counter : UInt32),
      b'.stagedType = b.stagedType → 1 ≤ state ∧ state ≤ 3 →
      (1 ≤ (recordFields b' state peer counter).state ∧
        (recordFields b' state peer counter).state ≤ 3) ∧
      (recordFields b' state peer counter).autoReconnect ≤ 1 ∧
      (recordFields b' state peer counter).addrValid ≤ 1 ∧
      (recordFields b' state peer counter).addrType ≤ 1 := by
    intro b' state peer counter heq hs
    refine ⟨hs, ?_, ?_, ?_⟩
    · simp only [recordFields]
      split <;> decide
    · simp only [recordFields]
      split <;> decide
    · simp only [recordFields, heq]
      exact ht
  simp only [record] at h
  split at h
  · exact absurd h.symm (Option.some_ne_none _)
  · cases call with
    | beginPair =>
      dsimp only at h
      split at h
      next => exact absurd h.symm (Option.some_ne_none _)
      next => exact Option.some.inj h ▸ hrange _ 3 none _ rfl (by decide)
    | clear => exact Option.some.inj h ▸ hrange _ 1 none _ rfl (by decide)
    | save peer =>
      dsimp only at h
      split at h
      next => exact absurd h.symm (Option.some_ne_none _)
      next => exact Option.some.inj h ▸ hrange _ 1 (some peer) _ rfl (by decide)
    | forget => exact Option.some.inj h ▸ hrange _ 2 none _ rfl (by decide)

end StoreCall

/-! ## What a reset sees -/

lemma isErased_iff (p : Page) : isErased p = true ↔ p = FlashPage.erased := by
  constructor
  · intro h
    funext i
    have hall := List.all_eq_true.mp h
    have hmem : p i ∈ FlashPage.bytes p := List.mem_ofFn.mpr ⟨i, rfl⟩
    exact eq_of_beq (hall _ hmem)
  · rintro rfl
    refine List.all_eq_true.mpr fun x hx => ?_
    obtain ⟨i, rfl⟩ := List.mem_ofFn.mp hx
    rfl

lemma not_isErased_of_magic {p : Page} (h : (FlashPage.bytes p).take 4 = magic) :
    isErased p = false := by
  by_contra hno
  rw [Bool.not_eq_false, isErased_iff] at hno
  rw [hno] at h
  exact absurd h (by decide +kernel)

lemma not_isErased_of_pendingBody {p : Page} (h : pendingBody p = true) : isErased p = false := by
  simp only [pendingBody, Bool.and_eq_true, beq_iff_eq] at h
  exact not_isErased_of_magic h.1.1

lemma erased_unrecognised : valid (FlashPage.erased : Page) = false ∧
    pendingBody (FlashPage.erased : Page) = false := by
  constructor <;> decide +kernel

lemma dirty_eq (b : Board) : dirty b = (!isErased (b.slot 0) || !isErased (b.slot 1)) := by
  have hpage : ∀ p : Page, (FlashPage.bytes p).any (· != 255) = !isErased p := by
    intro p
    simp [isErased, List.all_eq_not_any_not, bne]
  have hrange : List.finRange 2 = [0, 1] := rfl
  simp [dirty, hpage, hrange]

lemma range_of_valid {p : Page} (h : valid p = true) :
    (FlashPage.bytes p).getD 8 0 ≠ 0 ∧ (FlashPage.bytes p).getD 8 0 ≠ 255 := by
  refine ⟨fun h0 => ?_, state_ne_of_valid h⟩
  have hle := ((valid_iff p).mp h).2.2.2.1
  rw [h0] at hle
  exact absurd hle (by decide)

lemma based_of_holds {b : Board} {i : Fin 2} {p : Page} {u : Set Page} (h : Holds b i p u) :
    Based b i :=
  ⟨h.isLoaded, h.current_slot, Or.inl h.valid_slot, h.state_eq ▸ range_of_valid h.isValid, h.staged_le⟩

lemma three_state : (3 : UInt8) ≠ 0 ∧ (3 : UInt8) ≠ 255 := by decide

/-- A reset with a recognised slot works from one. -/
lemma based_reboot {slot : Fin 2 → Page} {i : Fin 2} (h : Recognised (slot i)) :
    ∃ j, Based (reboot slot) j := by
  by_cases hv : valid (slot 0) = true ∨ valid (slot 1) = true
  · obtain ⟨j, hj⟩ := exists_newest hv
    exact ⟨j, based_of_holds (holds_reboot hj)⟩
  · have h0 : valid (slot 0) = false := by simpa using fun h => hv (Or.inl h)
    have h1 : valid (slot 1) = false := by simpa using fun h => hv (Or.inr h)
    have hpend : pendingBody (slot i) = true := by
      rcases h with h | h
      · rcases fin_two i with rfl | rfl
        · exact absurd (Or.inl h) hv
        · exact absurd (Or.inr h) hv
      · exact h
    have hdirty : dirty (scanning slot) = true := by
      rw [dirty_eq]
      have hne := not_isErased_of_pendingBody hpend
      rcases fin_two i with rfl | rfl
      · simp [scanning, hne]
      · simp [scanning, hne]
    rw [reboot, loadSlots_boot_of_none h0 h1, if_pos hdirty]
    by_cases hp0 : pendingBody (slot 0) = true
    · refine ⟨0, ?_⟩
      simp only [loadTorn, scanning, hp0, if_true, Bool.not_true, Bool.false_eq_true, if_false]
      exact ⟨rfl, rfl, Or.inr hp0, three_state, UInt8.zero_le⟩
    · have hp1 : pendingBody (slot 1) = true := by
        rcases fin_two i with rfl | rfl
        · exact absurd hpend hp0
        · exact hpend
      refine ⟨1, ?_⟩
      simp only [loadTorn, scanning, hp0, hp1, if_true, Bool.not_true, Bool.false_eq_true, if_false]
      exact ⟨rfl, rfl, Or.inr hp1, three_state, UInt8.zero_le⟩

lemma reboot_blank : reboot blankSlots = scanning blankSlots := by
  have hv := erased_unrecognised.1
  have hdirty : dirty (scanning blankSlots) = false := by
    rw [dirty_eq]
    simp [scanning, blankSlots, (isErased_iff _).mpr rfl]
  have hload := @loadSlots_boot_of_none blankSlots hv hv
  rw [reboot, hload, hdirty]
  rfl

/-- The load of an EEPROM whose slots are programmed but not recognised. -/
lemma reboot_unrecognised {slot : Fin 2 → Page} (h0 : ¬ Recognised (slot 0))
    (h1 : ¬ Recognised (slot 1)) (hdirty : isErased (slot 0) = false ∨ isErased (slot 1) = false) :
    reboot slot =
      if isErased (slot 1) && compatible (slot 0) expectedFields.page then
        { scanning slot with current := expectedFields.head, currentSlot := some 0,
                             storageState := 3 }
      else { scanning slot with storageState := 255 } := by
  simp only [Recognised, not_or, Bool.not_eq_true] at h0 h1
  have hd : dirty (scanning slot) = true := by
    rw [dirty_eq]
    rcases hdirty with h | h <;> simp [scanning, h]
  rw [reboot, loadSlots_boot_of_none h0.1 h1.1, if_pos hd]
  have hread : (scanning slot).readOk = readsWork := rfl
  have hslot : (scanning slot).slot = slot := rfl
  simp only [loadTorn, hread, hslot, h0.2, h1.2, Bool.not_true, Bool.false_eq_true, if_false]
  cases isErased (slot 1) <;> cases compatible (slot 0) expectedFields.page <;> rfl

/-! ## The first journal -/

lemma compatible_iff (p q : Page) : compatible p q = true ↔ ∀ j, p j &&& q j = q j := by
  simp [compatible, List.all_eq_true]

/-- The record `board_begin_pair` writes on a blank board is the one the second recogniser expects. -/
lemma record_blank : StoreCall.record .beginPair (scanning blankSlots) = some expectedFields := by
  have hrec : StoreCall.record .beginPair (scanning blankSlots) =
      some (recordFields (StoreCall.unstaged (scanning blankSlots) 255) 3 none 1) := rfl
  have hname : (fun i : Fin 48 => if i.val < 47 then padded 48 [] i else 0) = fun _ => (0 : UInt8) := by
    funext i
    simp [padded]
  rw [hrec]
  exact congrArg (fun name => some { expectedFields with name := name }) hname

/-- Whatever a cut leaves of the initial journal is compatible with it. -/
lemma compatible_of_cut {f : Fields} {c : Page} (h : CutDuring (writeOps f) FlashPage.erased c) :
    compatible c f.page = true := by
  rw [compatible_iff]
  intro j
  rcases cutDuring_writeOps h with herase | hbody | hcommit
  · have hj := herase j
    have hc : c j = 255 := by simpa [FlashPage.erased] using hj
    rw [hc, uint8_allOnes_and]
  · by_cases hlt : j.val < commitOff
    · rw [UInt8.and_comm, ← f.bodyPage_apply_of_lt j hlt]
      exact hbody j
    · have hc := hbody j
      rw [f.bodyPage_apply_of_ge j (Nat.le_of_not_lt hlt), uint8_allOnes_and] at hc
      rw [hc, uint8_allOnes_and]
  · rw [UInt8.and_comm]
    exact (hcommit j).1

/-! ## Steps -/

lemma Shape.isLoaded {b : Board} (h : Shape b) : b.loaded = true := by
  rcases h with rfl | htorn | ⟨i, hi⟩
  · rfl
  · exact htorn.isLoaded
  · exact hi.isLoaded

lemma Shape.state_ne {b : Board} (h : Shape b) : b.storageState ≠ 255 := by
  rcases h with rfl | htorn | ⟨i, hi⟩
  · exact (by decide : (0 : UInt8) ≠ 255)
  · exact htorn.state_eq ▸ three_state.2
  · exact hi.state_ne.2

lemma Shape.staged_le {b : Board} (h : Shape b) : b.stagedType ≤ 1 := by
  rcases h with rfl | htorn | ⟨i, hi⟩
  · exact UInt8.zero_le
  · exact htorn.staged_le
  · exact hi.staged_le

/-- Staged fields other than the address type do not matter, and nothing is staged on a blank board. -/
lemma Shape.restage {b : Board} (h : Shape b) (hs : b.storageState ≠ 0) (addr : Fin 6 → UInt8)
    {type : UInt8} (ht : type ≤ 1) (v : Bool) (g : UInt8) :
    Shape { b with stagedAddr := addr, stagedType := type, stagedValid := v, stagedHidFlags := g } := by
  rcases h with rfl | htorn | ⟨i, hi⟩
  · exact absurd rfl hs
  · exact Or.inr (Or.inl { htorn with staged_le := ht })
  · exact Or.inr (Or.inr ⟨i, { hi with staged_le := ht }⟩)

/-- The torn first journal is loaded as pending. -/
lemma tornFirst_reboot {slot : Fin 2 → Page} (h0 : ¬ Recognised (slot 0))
    (hprog : isErased (slot 0) = false) (hcompat : compatible (slot 0) expectedFields.page = true)
    (h1 : isErased (slot 1) = true) : TornFirst (reboot slot) := by
  have hnot : ¬ Recognised (slot 1) := by
    rw [(isErased_iff _).mp h1]
    simp [Recognised, erased_unrecognised]
  rw [reboot_unrecognised h0 hnot (Or.inl hprog), h1, hcompat]
  exact ⟨rfl, rfl, rfl, h0, hprog, hcompat, h1, rfl, UInt8.zero_le⟩

/-- A reset keeps the shape. -/
lemma Shape.reset {b : Board} (h : Shape b) : Shape (reboot b.slot) := by
  rcases h with rfl | htorn | ⟨i, hi⟩
  · exact Or.inl reboot_blank
  · exact Or.inr (Or.inl (tornFirst_reboot htorn.not_recognised htorn.programmed
      htorn.compatible_zero htorn.erased_one))
  · exact Or.inr (Or.inr (based_reboot hi.recognised))

/-- A call that is not cut keeps the shape, or leads to a board based on the new record. -/
lemma Shape.call {b : Board} (h : Shape b) {call : StoreCall} (hi : call.Issued b) :
    Shape (call.run b).2 := by
  cases hrec : call.record b with
  | none =>
    obtain ⟨v, g, hrun⟩ := StoreCall.run_of_none h.isLoaded hrec
    have hs : b.storageState ≠ 0 := by
      intro h0
      rcases h with rfl | htorn | ⟨i, hi'⟩
      · obtain rfl := hi rfl
        rw [record_blank] at hrec
        exact absurd hrec (Option.some_ne_none _)
      · exact three_state.1 (htorn.state_eq ▸ h0)
      · exact hi'.state_ne.1 h0
    rw [hrun]
    exact h.restage hs b.stagedAddr h.staged_le v g
  | some f =>
    obtain ⟨v, g, hrun⟩ := StoreCall.run_of_some h.isLoaded hrec
    obtain ⟨hs, ha, hv, ht⟩ := StoreCall.record_range h.staged_le hrec
    have hstate : f.state ≠ 0 ∧ f.state ≠ 255 := by
      constructor
      · intro h0
        exact absurd (h0 ▸ hs.1) (by decide)
      · intro h255
        exact absurd (h255 ▸ hs.2) (by decide)
    rw [hrun]
    refine Or.inr (Or.inr ⟨nextSlot b, h.isLoaded, rfl, Or.inl ?_, hstate, h.staged_le⟩)
    dsimp only
    rw [Function.update_self]
    exact valid_page hs ha hv ht

/-- A cut on a blank board leaves it blank, torn, or based on a recognised slot 0. -/
lemma shape_cut_blank {c : Page} (hcut : CutDuring (writeOps expectedFields) FlashPage.erased c) :
    Shape (reboot (Function.update blankSlots 0 c)) := by
  have hslot0 : Function.update blankSlots 0 c 0 = c := Function.update_self _ _ _
  have hslot1 : Function.update blankSlots 0 c 1 = FlashPage.erased :=
    Function.update_of_ne (by decide) _ _
  by_cases hr : Recognised c
  · exact Or.inr (Or.inr (based_reboot (i := 0) (hslot0.symm ▸ hr)))
  · cases he : isErased c with
    | true =>
      have hsame : Function.update blankSlots 0 c = blankSlots := by
        rw [(isErased_iff c).mp he]
        exact Function.update_eq_self 0 blankSlots
      exact Or.inl (hsame.symm ▸ reboot_blank)
    | false =>
      refine Or.inr (Or.inl (tornFirst_reboot ?_ ?_ ?_ ?_))
      · exact hslot0.symm ▸ hr
      · exact hslot0.symm ▸ he
      · exact hslot0.symm ▸ compatible_of_cut hcut
      · exact hslot1.symm ▸ (isErased_iff _).mpr rfl

lemma TornFirst.none {b : Board} (h : TornFirst b) (i : Fin 2) :
    valid (b.slot i) = false ∧ pendingBody (b.slot i) = false := by
  match i with
  | 0 => simpa [Recognised] using h.not_recognised
  | 1 =>
    rw [(isErased_iff _).mp h.erased_one]
    exact erased_unrecognised

/-- A cut in slot 1 after a torn first journal is recoverable exactly when `CutOk` holds. -/
lemma TornFirst.cut {b : Board} (h : TornFirst b) (c : Page) :
    (CutOk b c → Shape (reboot (Function.update b.slot 1 c))) ∧
      (¬ CutOk b c → (reboot (Function.update b.slot 1 c)).storageState = 255) := by
  have hslot0 : Function.update b.slot 1 c 0 = b.slot 0 := Function.update_of_ne (by decide) _ _
  have hslot1 : Function.update b.slot 1 c 1 = c := Function.update_self _ _ _
  have hs : b.storageState ≠ 0 := h.state_eq ▸ three_state.1
  have hnone := h.none
  constructor
  · intro hok
    rcases hok hs hnone with he | hp | hv
    · refine Or.inr (Or.inl (tornFirst_reboot ?_ ?_ ?_ ?_))
      · exact hslot0.symm ▸ h.not_recognised
      · exact hslot0.symm ▸ h.programmed
      · exact hslot0.symm ▸ h.compatible_zero
      · exact hslot1.symm ▸ he
    · exact Or.inr (Or.inr (based_reboot (i := 1) (hslot1.symm ▸ Or.inr hp)))
    · exact Or.inr (Or.inr (based_reboot (i := 1) (hslot1.symm ▸ Or.inl hv)))
  · intro hno
    have hbad : isErased c = false ∧ pendingBody c = false ∧ valid c = false := by
      simpa only [CutOk, hs, hnone, ne_eq, not_false_eq_true, forall_const, and_self, not_or,
        Bool.not_eq_true, true_implies] using hno
    have hunrec : ¬ Recognised c := by simp [Recognised, hbad]
    rw [reboot_unrecognised (hslot0.symm ▸ h.not_recognised) (hslot1.symm ▸ hunrec)
      (Or.inr (hslot1.symm ▸ hbad.1)), hslot1, hbad.1]
    rfl

/-- Every cut is recoverable exactly when `CutOk` holds. -/
lemma Shape.cut {b : Board} (h : Shape b) {call : StoreCall} {f : Fields} {c : Page}
    (hi : call.Issued b) (hf : call.record b = some f)
    (hcut : CutDuring (writeOps f) (b.slot (nextSlot b)) c) :
    (CutOk b c → Shape (reboot (Function.update b.slot (nextSlot b) c))) ∧
      (¬ CutOk b c →
        (reboot (Function.update b.slot (nextSlot b) c)).storageState = 255) := by
  rcases h with rfl | htorn | ⟨i, hbased⟩
  · obtain rfl := hi rfl
    rw [record_blank] at hf
    obtain rfl := Option.some.inj hf
    exact ⟨fun _ => shape_cut_blank hcut, fun hno => absurd (fun h0 => absurd rfl h0) hno⟩
  · have hnext : nextSlot b = 1 := by simp [nextSlot, htorn.current_slot]
    rw [hnext]
    exact htorn.cut c
  · have hnext : nextSlot b = 1 - i := by simp [nextSlot, hbased.current_slot]
    have hsame : Function.update b.slot (1 - i) c i = b.slot i :=
      Function.update_of_ne (sub_ne_fin2 i).symm _ _
    rw [hnext]
    refine ⟨fun _ => Or.inr (Or.inr (based_reboot (i := i) (hsame.symm ▸ hbased.recognised))), ?_⟩
    intro hno
    refine absurd (fun _ hnone => ?_) hno
    rcases hbased.recognised with hv | hp
    · exact absurd hv (by rw [(hnone i).1]; exact Bool.false_ne_true)
    · exact absurd hp (by rw [(hnone i).2]; exact Bool.false_ne_true)

/-! ## Whole runs -/

lemma FactoryRun.shape {b : Board} (h : FactoryRun CutOk b) : Shape b := by
  induction h with
  | blank => exact Or.inl reboot_blank
  | stage addr type isValid flags ht hs _ ih => exact ih.restage hs addr ht isValid flags
  | call call hi _ ih => exact ih.call hi
  | reset _ ih => exact ih.reset
  | cut call c hi hf hcut hok _ ih => exact (ih.cut hi hf hcut).1 hok

/-- A factory-blank board keeps recovering as long as no cut strands a torn first journal, and not
longer: at every point of such a run a further cut leads to state 255 exactly when it does. -/
theorem factoryRun_recovers_iff_cutOk {b : Board} (h : FactoryRun CutOk b) :
    b.storageState ≠ 255 ∧
    ∀ (call : StoreCall) (f : Fields) (c : Page), call.Issued b → call.record b = some f →
      CutDuring (writeOps f) (b.slot (nextSlot b)) c →
      ((reboot (Function.update b.slot (nextSlot b) c)).storageState ≠ 255 ↔ CutOk b c) := by
  refine ⟨h.shape.state_ne, ?_⟩
  intro call f c hi hf hcut
  obtain ⟨hgood, hbad⟩ := h.shape.cut hi hf hcut
  constructor
  · intro hne
    by_contra hno
    exact hne (hbad hno)
  · intro hok
    exact (hgood hok).state_ne

/-- A blank board with its first journal. -/
def pairingBoard : Board := (StoreCall.run .beginPair (reboot blankSlots)).2

/-- Power is lost behind the magic of the next record. -/
def cutBoard : Board := reboot (Function.update pairingBoard.slot (nextSlot pairingBoard) tornMagic)

/-- The board comes back with its first journal. -/
theorem factoryRun_recovers_cutBoard : FactoryRun CutOk cutBoard ∧ cutBoard.storageState ≠ 255 := by
  have hpair : FactoryRun CutOk pairingBoard := FactoryRun.call .beginPair (fun _ => rfl) FactoryRun.blank
  have hvalid : valid (pairingBoard.slot 0) = true := by decide +kernel
  have hrecord : ∃ f, StoreCall.record .clear pairingBoard = some f :=
    Option.isSome_iff_exists.mp (by decide +kernel)
  obtain ⟨f, hf⟩ := hrecord
  have hissued : StoreCall.Issued .clear pairingBoard := fun hzero => absurd hzero (by decide +kernel)
  have hok : CutOk pairingBoard tornMagic := fun _ hnone =>
    absurd hvalid (by rw [(hnone 0).1]; exact Bool.false_ne_true)
  have hcut := FactoryRun.cut .clear tornMagic hissued hf (cutDuring_tornMagic _ _) hok hpair
  exact ⟨hcut, (factoryRun_recovers_iff_cutOk hcut).1⟩

/-! ## A board that does not recover -/

/-- The board after a reboot from a first `board_begin_pair` that was cut behind the magic. -/
lemma tornFirst_tornMagic : TornFirst (reboot (Function.update blankSlots 0 tornMagic)) := by
  obtain ⟨hv, hp, he⟩ := tornMagic_unrecognised
  have hslot0 : Function.update blankSlots 0 tornMagic 0 = tornMagic := Function.update_self _ _ _
  have hslot1 : Function.update blankSlots 0 tornMagic 1 = FlashPage.erased :=
    Function.update_of_ne (by decide) _ _
  refine tornFirst_reboot ?_ ?_ ?_ ?_
  · rw [hslot0]
    simp [Recognised, hv, hp]
  · rw [hslot0]
    exact he
  · rw [hslot0]
    exact compatible_of_cut (cutDuring_tornMagic expectedFields FlashPage.erased)
  · rw [hslot1]
    exact (isErased_iff _).mpr rfl

/-- The first `board_begin_pair` is cut, and the `store_clear` of the recovery that follows the reboot
is cut as well: the next load answers 255. -/
theorem factoryRun_not_recovering :
    ¬ ∀ b, FactoryRun (fun _ _ => True) b → b.storageState ≠ 255 := by
  intro hall
  have hblank : reboot blankSlots = scanning blankSlots := reboot_blank
  have hfirst : FactoryRun (fun _ _ => True) (reboot (Function.update blankSlots 0 tornMagic)) := by
    have hstart : FactoryRun (fun _ _ => True) (reboot blankSlots) := FactoryRun.blank
    rw [hblank] at hstart
    have hnext : nextSlot (scanning blankSlots) = 0 := rfl
    have hslot : (scanning blankSlots).slot = blankSlots := rfl
    have hcut := FactoryRun.cut .beginPair tornMagic (fun _ => rfl) record_blank
      (cutDuring_tornMagic _ _) trivial hstart
    rwa [hnext, hslot] at hcut
  have htorn := tornFirst_tornMagic
  have hnext : nextSlot (reboot (Function.update blankSlots 0 tornMagic)) = 1 := by
    simp [nextSlot, htorn.current_slot]
  have hstate : (reboot (Function.update blankSlots 0 tornMagic)).storageState ≠ 0 :=
    htorn.state_eq ▸ three_state.1
  have hwrite : canWrite (reboot (Function.update blankSlots 0 tornMagic)) = true := by
    have hgen : generation expectedFields.head ≠ 0xffffffff := by
      rw [Fields.generation_head]
      decide
    simp [canWrite, htorn.state_eq, htorn.current_slot, htorn.current_eq, hgen]
  have hrec : ∃ f, StoreCall.record .clear (reboot (Function.update blankSlots 0 tornMagic)) =
      some f := by
    simp [StoreCall.record, hwrite]
  obtain ⟨f, hf⟩ := hrec
  have hsecond := FactoryRun.cut .clear tornMagic (fun h0 => absurd h0 hstate) hf
    (cutDuring_tornMagic _ _) trivial hfirst
  rw [hnext] at hsecond
  refine hall _ hsecond ((htorn.cut tornMagic).2 fun hok => ?_)
  obtain ⟨hv, hp, he⟩ := tornMagic_unrecognised
  have hnone : ∀ i, valid ((reboot (Function.update blankSlots 0 tornMagic)).slot i) = false ∧
      pendingBody ((reboot (Function.update blankSlots 0 tornMagic)).slot i) = false := htorn.none
  rcases hok hstate hnone with h | h | h
  · rw [he] at h
    exact Bool.false_ne_true h
  · rw [hp] at h
    exact Bool.false_ne_true h
  · rw [hv] at h
    exact Bool.false_ne_true h

end Board
end RemoteBridge
