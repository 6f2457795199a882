import RemoteBridge.Properties.FactoryRecovery
import RemoteBridge.Properties.PairTransaction

/-!
# The life of a board

A board lives through many boots: it runs, loses its power at some moment, perhaps in the middle of a write
to the bond store, and starts again with what is then in the EEPROM.  `Lives` are these runs.

The history of a board is a list of marks, the newest first.  `Keeps R` is what survives the power cuts:
whatever record the next start may find in the EEPROM stands in the relation `R` to the history.  One lemma
says what a write makes of it, whether it succeeds, fails or is cut, and one what a start makes of it.

The relation is a parameter, for two properties of whole lives are proved with it, and they differ in the
relation only (`BondHistory`).  What a relation has to do is written down once (`Ledger`): it holds of a
record that has just been entered, it stays when a mark is added that enters none, and it stays when a start
could not read the EEPROM.

A start may find more than the last committed record.  A write that failed behind its commit word, or was cut
there, leaves a page that the running firmware does not count on; `Found` says of the pages that whatever a
start may take from them stands in the relation.  A cut comes between two marks or inside a write (`CutAt`).
-/

namespace RemoteBridge

open World Board

/-! ## Records on pages -/

namespace Board

/-- What the record of a page says. -/
def pageRecord (p : Page) : Committed :=
  let bytes := FlashPage.bytes p
  { state := bytes.getD 8 0
    counter := get32 bytes 12
    peerId := get32 bytes 16
    autoReconnect := bytes.getD 21 0 != 0 }

lemma get32_take (bytes : List UInt8) {k : Nat} (hk : k + 4 ≤ 80) :
    get32 (bytes.take 80) k = get32 bytes k := by
  unfold get32
  rw [List.drop_take, List.take_take, Nat.min_eq_left (by omega)]

lemma pageRecord_page (f : Fields) : pageRecord f.page =
    { state := f.state, counter := f.counter, peerId := f.peerId,
      autoReconnect := f.autoReconnect != 0 } := by
  have hbyte {k : Nat} (hk : k < 80) : (FlashPage.bytes f.page).getD k 0 = f.head.getD k 0 := by
    rw [← getD_take_eighty _ hk, f.take_bytes_page]
  have hword {k : Nat} (hk : k + 4 ≤ 80) : get32 (FlashPage.bytes f.page) k = get32 f.head k := by
    rw [← get32_take _ hk, f.take_bytes_page]
  unfold pageRecord
  dsimp only
  rw [hbyte (by decide), hbyte (by decide), hword (by decide), hword (by decide), f.counter_head,
    f.peerId_head, f.autoReconnect_head]
  rfl

lemma committed_of_loaded {b : Board} (h : b.loaded = true) :
    b.committed = { state := b.storageState, counter := boardPeerCounter b,
                    peerId := get32 b.current 16, autoReconnect := b.current.getD 21 0 != 0 } := by
  unfold committed
  rw [loadSlots_of_loaded h]

lemma Holds.committed {b : Board} {i : Fin 2} {p : Page} {u : Set Page} (h : Holds b i p u) :
    b.committed = pageRecord p := by
  have hcounter : boardPeerCounter b = get32 (FlashPage.bytes p) 12 := by
    unfold boardPeerCounter
    rw [loadSlots_of_loaded h.isLoaded]
    dsimp only
    rw [h.current_slot, if_neg (by exact Bool.false_ne_true), h.current_eq, get32_take _ (by decide)]
  rw [committed_of_loaded h.isLoaded, hcounter, h.state_eq, h.current_eq, get32_take _ (by decide),
    getD_take_eighty _ (by decide)]
  rfl

end Board

/-! ## Writes -/

namespace BondWrite

/-- The state of the record that a write commits. -/
def state : BondWrite → UInt8
  | .pair => 3
  | .forget => 2
  | .save _ | .clear => 1

/-- The peer of the record. -/
def peer : BondWrite → Option PeerRecord
  | .save peer => some peer
  | _ => none

/-- The counter of the record. -/
def counter (b : Board) : BondWrite → UInt32
  | .pair => boardPeerCounter b + 1
  | _ => boardPeerCounter b

/-- What a write does to the staged fields. -/
def staged (b : Board) : BondWrite → Board
  | .pair => { b with stagedValid := false, stagedHidFlags := 255 }
  | .clear => { b with stagedValid := false }
  | _ => b

/-- The record that a write programs. -/
def fields (b : Board) (write : BondWrite) : Board.Fields :=
  recordFields (write.staged b) write.state write.peer (write.counter b)

/-- Whether a write is refused before `write_record`. -/
def refused (b : Board) : BondWrite → Bool
  | .pair => b.storageState == 255 || (b.storageState == 1 && get32 b.current 16 != 0) ||
      boardPeerCounter b == 0xffffffff
  | .save peer => peer.peerId == 0
  | _ => false

variable {b : Board} {write : BondWrite} {io : WriteIo}

lemma state_range (write : BondWrite) : 1 ≤ write.state ∧ write.state ≤ 3 := by
  cases write <;> simp [state]

lemma staged_eq (b : Board) (write : BondWrite) : ∃ v flags,
    write.staged b = { b with stagedValid := v, stagedHidFlags := flags } := by
  cases write with
  | pair => exact ⟨_, _, rfl⟩
  | forget => exact ⟨_, _, rfl⟩
  | save peer => exact ⟨_, _, rfl⟩
  | clear => exact ⟨_, _, rfl⟩

lemma canWrite_staged (b : Board) (write : BondWrite) : canWrite (write.staged b) = canWrite b := by
  obtain ⟨v, flags, h⟩ := staged_eq b write
  rw [h]
  rfl

/-- The record on the page is the one that counts as committed. -/
lemma pageRecord_fields (hl : b.loaded = true) (write : BondWrite) :
    pageRecord (write.fields b).page = write.commits b.committed := by
  rw [pageRecord_page, committed_of_loaded hl]
  cases write with
  | pair => rfl
  | forget => rfl
  | clear => rfl
  | save peer =>
    unfold fields recordFields commits
    obtain ⟨id, name, auto⟩ := peer
    cases auto <;> rfl

lemma run_refused (hl : b.loaded = true) (h : write.refused b = true) : write.run b io = (false, b) := by
  cases write with
  | pair =>
    unfold run boardBeginPair
    dsimp only
    rw [loadSlots_of_loaded hl]
    exact if_pos h
  | save peer =>
    unfold run storeSave
    exact if_pos h
  | forget => cases h
  | clear => cases h

lemma run_eq (hl : b.loaded = true) (h : write.refused b = false) :
    write.run b io = writeRecord (write.staged b) write.state write.peer (write.counter b) io := by
  cases write with
  | pair =>
    unfold run boardBeginPair
    dsimp only
    rw [loadSlots_of_loaded hl]
    exact if_neg (Bool.eq_false_iff.mp h)
  | save peer =>
    unfold run storeSave
    exact if_neg (Bool.eq_false_iff.mp h)
  | forget => rfl
  | clear =>
    unfold run storeClear
    dsimp only
    have hcounter : boardPeerCounter { b with stagedValid := false } = boardPeerCounter b := by
      unfold boardPeerCounter
      rw [loadSlots_of_loaded hl, loadSlots_of_loaded (by exact hl)]
    rw [hcounter]
    rfl

/-- What a write does: it is refused before it reaches the EEPROM, or succeeds, or leaves some content on
its page. -/
lemma run_cases (hl : b.loaded = true) (write : BondWrite) (io : WriteIo) :
    (write.reaches b = false ∧ ∃ b', write.run b io = (false, b') ∧ (b' = b ∨ b' = write.staged b)) ∨
    (write.reaches b = true ∧ canWrite b = true ∧
      ((∃ b', write.run b io = (true, b') ∧
        b' = (writeRecord (write.staged b) write.state write.peer (write.counter b) .complete).2) ∨
       ∃ c, io = .failed c ∧ write.run b io =
        (false, { write.staged b with slot := Function.update b.slot (nextSlot b) c }))) := by
  have hloaded : (write.staged b).loaded = true := by
    obtain ⟨v, flags, h⟩ := staged_eq b write
    rw [h]
    exact hl
  have hslots := loadSlots_of_loaded hloaded
  by_cases hr : write.refused b = true
  · exact .inl ⟨congrArg Prod.fst (run_refused hl hr), b, run_refused hl hr, .inl rfl⟩
  · rw [Bool.not_eq_true] at hr
    unfold reaches
    rw [run_eq hl hr, run_eq hl hr]
    unfold writeRecord
    dsimp only
    rw [hslots, canWrite_staged]
    by_cases hc : canWrite b = true
    · refine .inr ?_
      rw [hc]
      refine ⟨rfl, rfl, ?_⟩
      cases io with
      | complete => exact .inl ⟨_, rfl, rfl⟩
      | failed c =>
        refine .inr ⟨c, rfl, ?_⟩
        obtain ⟨v, flags, h⟩ := staged_eq b write
        rw [h]
        rfl
    · rw [Bool.not_eq_true] at hc
      rw [hc]
      exact .inl ⟨rfl, _, rfl, .inr rfl⟩

end BondWrite

/-! ## Histories -/

/-- A write has succeeded, or a start has looked at the EEPROM. -/
def RadioEv.historic : RadioEv → Bool
  | .committed _ | .lost => true
  | _ => false

/-- The records of a history, the newest first: those that were committed and those the starts found. -/
def records (H : List RadioMark) : List Committed :=
  (H.filter (·.ev.historic)).map (·.board.committed)

/-- Nothing was bound or deleted yet. -/
def Vacant (H : List RadioMark) : Prop := ∀ c ∈ records H, c.state ≠ 1 ∧ c.state ≠ 2

section Records

variable {H : List RadioMark} {m : RadioMark}

lemma records_cons_of_other (h : m.ev.historic = false) : records (m :: H) = records H := by
  unfold records
  rw [List.filter_cons_of_neg (by rw [h]; exact Bool.false_ne_true)]

lemma records_cons (h : m.ev.historic = true) : records (m :: H) = m.board.committed :: records H := by
  unfold records
  rw [List.filter_cons_of_pos (by exact h), List.map_cons]

lemma Vacant.other (hu : Vacant H) (h : m.ev.historic = false) : Vacant (m :: H) := by
  unfold Vacant
  rw [records_cons_of_other h]
  exact hu

lemma Vacant.entered (hu : Vacant H) (h : m.ev.historic = true)
    (hs : m.board.committed.state ≠ 1 ∧ m.board.committed.state ≠ 2) : Vacant (m :: H) := by
  intro c hc
  rw [records_cons h] at hc
  rcases List.mem_cons.mp hc with rfl | hc
  · exact hs
  · exact hu c hc

end Records

/-- A relation between a history and the record that the next start may find. -/
structure Ledger (R : List RadioMark → Committed → Prop) : Prop where
  other {H : List RadioMark} {m : RadioMark} {c : Committed} (hm : m.ev.historic = false) (h : R H c) :
    R (m :: H) c
  /-- The record itself is entered. -/
  entered {H : List RadioMark} {m : RadioMark} (hm : m.ev.historic = true) (h : R H m.board.committed) :
    R (m :: H) m.board.committed
  /-- A start could not read the EEPROM. -/
  unread {H : List RadioMark} {m : RadioMark} {c : Committed} (hm : m.ev.historic = true)
    (hs : m.board.committed.state = 255) (h : R H c) : R (m :: H) c
  vacant {H : List RadioMark} {c : Committed} (hu : Vacant H) (hs : c.state ≠ 1) : R H c

variable {R : List RadioMark → Committed → Prop} {H H' : List RadioMark} {b : Board}

/-- What a start finds: the record of one page, or nothing that was ever complete. -/
inductive Found (R : List RadioMark → Committed → Prop) (H : List RadioMark) (slot : Fin 2 → Page) :
    Prop
  | page (i : Fin 2) (hn : Newest slot i) (hr : R H (pageRecord (slot i)))
  | blank (hv : ∀ i, valid (slot i) = false) (hu : Vacant H)

/-- A board stands on its record, has lost the EEPROM, or has nothing complete on it. -/
inductive Keeps (R : List RadioMark → Committed → Prop) (H : List RadioMark) (b : Board) : Prop
  | record (i : Fin 2) (p : Page) (u : Set Page) (hh : Board.Holds b i p u) (hr : R H (pageRecord p))
      (hu : ∀ q ∈ u, R H (pageRecord q))
  | shut (hl : b.loaded = true) (hs : b.storageState = 255) (hf : Found R H b.slot)
  | blank (hl : b.loaded = true) (hs : b.storageState = 0 ∨ b.storageState = 3) (ht : b.stagedType ≤ 1)
      (hv : valid (b.slot (1 - nextSlot b)) = false)
      (hr : valid (b.slot (nextSlot b)) = true → R H (pageRecord (b.slot (nextSlot b))))
      (hu : Vacant H)

lemma Found.mono {slot : Fin 2 → Page} (h : Found R H slot) (hR : ∀ c, R H c → R H' c)
    (hU : Vacant H → Vacant H') : Found R H' slot := by
  cases h with
  | page i hn hr => exact .page i hn (hR _ hr)
  | blank hv hu => exact .blank hv (hU hu)

/-- With one page that is not complete, the other one decides. -/
lemma found_of_single {slot : Fin 2 → Page} (j : Fin 2) (hv : valid (slot (1 - j)) = false)
    (hr : valid (slot j) = true → R H (pageRecord (slot j))) (hu : Vacant H) : Found R H slot := by
  by_cases hj : valid (slot j) = true
  · refine .page j ⟨hj, fun h => ?_⟩ (hr hj)
    rw [hv] at h
    cases h
  · refine .blank (fun i => ?_) hu
    have hij : ∀ i j : Fin 2, i = j ∨ i = 1 - j := by decide
    rcases hij i j with rfl | rfl
    · exact Bool.eq_false_iff.mpr hj
    · exact hv

/-- A completed write onto a board without a complete record leaves it with one. -/
lemma holds_written {state : UInt8} {peer : Option PeerRecord} {counter : UInt32} (hl : b.loaded = true)
    (hc : canWrite b = true) (hs : 1 ≤ state ∧ state ≤ 3) (ht : b.stagedType ≤ 1)
    (hv : valid (b.slot (1 - nextSlot b)) = false) :
    Board.Holds (writeRecord b state peer counter .complete).2 (nextSlot b)
      (recordFields b state peer counter).page ∅ := by
  have hvalid : valid (recordFields b state peer counter).page = true := by
    refine valid_page hs ?_ ?_ ht
    · simp only [recordFields]
      split <;> decide
    · simp only [recordFields]
      split <;> decide
  rw [StoreCall.writeRecord_complete hl hc]
  refine ⟨hl, rfl, Function.update_self _ _ _, hvalid, (Board.Fields.take_bytes_page _).symm, ?_, ht,
    Or.inl fun h => ?_⟩
  · rw [← getD_take_eighty _ (by decide : 8 < 80), Board.Fields.take_bytes_page]
    rfl
  · have hother : Function.update b.slot (nextSlot b) (recordFields b state peer counter).page
        (1 - nextSlot b) = b.slot (1 - nextSlot b) := Function.update_of_ne (sub_ne_fin2 _) _ _
    dsimp only at h
    rw [hother, hv] at h
    cases h

namespace Keeps

lemma found (h : Keeps R H b) : Found R H b.slot := by
  cases h with
  | record i p u hh hr hu =>
    obtain ⟨q, hload, hq⟩ := hh.reload
    obtain ⟨j, hj, rfl⟩ := newest_of_loadsAs hh.some_valid hload
    refine .page j hj ?_
    rcases hq with hq | hq
    · rw [hq]
      exact hr
    · exact hu _ hq
  | shut hl hs hf => exact hf
  | blank hl hs ht hv hr hu => exact found_of_single _ hv hr hu

lemma isLoaded (h : Keeps R H b) : b.loaded = true := by
  cases h with
  | record i p u hh hr hu => exact hh.isLoaded
  | shut hl hs hf => exact hl
  | blank hl hs ht hv hr hu => exact hl

lemma mono (h : Keeps R H b) (hR : ∀ c, R H c → R H' c) (hU : Vacant H → Vacant H') :
    Keeps R H' b := by
  cases h with
  | record i p u hh hr hu => exact .record i p u hh (hR _ hr) fun q hq => hR _ (hu q hq)
  | shut hl hs hf => exact .shut hl hs (hf.mono hR hU)
  | blank hl hs ht hv hr hu => exact .blank hl hs ht hv (fun h => hR _ (hr h)) (hU hu)

lemma other (h : Keeps R H b) (hL : Ledger R) {m : RadioMark} (hm : m.ev.historic = false) :
    Keeps R (m :: H) b :=
  h.mono (fun _ => hL.other hm) fun hu => hu.other hm

/-- The record of a board that can read its EEPROM. -/
lemma committed (h : Keeps R H b) (hL : Ledger R) (hs : b.storageState ≠ 255) : R H b.committed := by
  cases h with
  | record i p u hh hr hu =>
    rw [hh.committed]
    exact hr
  | shut hl hs' hf => exact absurd hs' hs
  | blank hl hs' ht hv hr hu =>
    refine hL.vacant hu ?_
    rw [committed_of_loaded hl]
    show b.storageState ≠ 1
    rcases hs' with hs' | hs'
    · simp [hs']
    · simp [hs']

/-- The staged fields are of no consequence, as long as the address type is one of the two there are. -/
lemma restage (h : Keeps R H b) (addr : Fin 6 → UInt8) {type : UInt8} (isValid : Bool) (flags : UInt8)
    (ht : type ≤ 1) :
    Keeps R H { b with
      stagedAddr := addr, stagedType := type, stagedValid := isValid, stagedHidFlags := flags } := by
  cases h with
  | record i p u hh hr hu => exact .record i p u { hh with staged_le := ht } hr hu
  | shut hl hs hf => exact .shut hl hs hf
  | blank hl hs ht' hv hr hu => exact .blank hl hs ht hv hr hu

lemma unstage (h : Keeps R H b) (isValid : Bool) (flags : UInt8) :
    Keeps R H { b with stagedValid := isValid, stagedHidFlags := flags } := by
  cases h with
  | record i p u hh hr hu => exact .record i p u { hh with staged_le := hh.staged_le } hr hu
  | shut hl hs hf => exact .shut hl hs hf
  | blank hl hs ht hv hr hu => exact .blank hl hs ht hv hr hu

variable {state : UInt8} {peer : Option PeerRecord} {counter : UInt32}

/-- A write that did not complete. -/
lemma torn (h : Keeps R H b) (hc : canWrite b = true) {c : Page}
    (hd : TornDetected (b.slot (nextSlot b)) (recordFields b state peer counter) c)
    (hnew : R H (pageRecord (recordFields b state peer counter).page)) :
    Keeps R H { b with slot := Function.update b.slot (nextSlot b) c } := by
  cases h with
  | record i p u hh hr hu =>
    refine .record i p _ (hh.of_partial hc hd) hr fun q hq => ?_
    rcases hq with hq | ⟨rfl, hq⟩
    · exact hu q hq
    · rw [hq]
      exact hnew
  | shut hl hs hf =>
    unfold canWrite at hc
    rw [hs] at hc
    cases hc
  | blank hl hs ht hv hr hu =>
    refine .blank hl hs ht ?_ ?_ hu
    · show valid (Function.update b.slot (nextSlot b) c (1 - nextSlot b)) = false
      rw [Function.update_of_ne (sub_ne_fin2 _)]
      exact hv
    · show valid (Function.update b.slot (nextSlot b) c (nextSlot b)) = true →
        R H (pageRecord (Function.update b.slot (nextSlot b) c (nextSlot b)))
      rw [Function.update_self]
      intro hvalid
      rcases hd hvalid with hold | hpage
      · rw [hold] at hvalid ⊢
        exact hr hvalid
      · rw [hpage]
        exact hnew

/-- A write that completed; whatever happened before is out of reach. -/
lemma written (h : Keeps R H b) (hc : canWrite b = true) (hs : 1 ≤ state ∧ state ≤ 3)
    (hnew : R H' (pageRecord (recordFields b state peer counter).page)) :
    Keeps R H' (writeRecord b state peer counter .complete).2 := by
  cases h with
  | record i p u hh hr hu =>
    exact .record (1 - i) _ ∅ (hh.write hc hs peer counter) hnew fun q hq => absurd hq (Set.notMem_empty q)
  | shut hl hs' hf =>
    unfold canWrite at hc
    rw [hs'] at hc
    cases hc
  | blank hl hs' ht hv hr hu =>
    exact .record _ _ ∅ (holds_written hl hc hs ht hv) hnew fun q hq => absurd hq (Set.notMem_empty q)

end Keeps

/-! ## Starts -/

lemma slot_pick (b : Board) (i : Fin 2) : (pick b i).slot = b.slot := by
  unfold pick
  dsimp only
  split <;> rfl

lemma pick_of_not_valid {b : Board} {i : Fin 2} (h : valid (b.slot i) = false) : pick b i = b := by
  unfold pick
  rw [h]
  exact if_neg Bool.false_ne_true

/-- Without a record a start ends on a journal that was torn, or gives up. -/
lemma loadTorn_cases (b : Board) :
    (loadTorn b).slot = b.slot ∧ (loadTorn b).loaded = b.loaded ∧
      (loadTorn b).stagedType = b.stagedType ∧
      ((loadTorn b).storageState = 255 ∨ (loadTorn b).storageState = 3) := by
  unfold loadTorn
  dsimp only
  repeat' split
  all_goals
    refine ⟨rfl, rfl, rfl, ?_⟩
    first
      | exact .inl rfl
      | exact .inr rfl

/-- A start takes the record that wins the scan. -/
lemma holds_loadCommitted {b : Board} {slot : Fin 2 → Page} {i : Fin 2} (h : Newest slot i)
    (hs : b.slot = slot) (hl : b.loaded = true) :
    Board.Holds (loadCommitted { b with current := (FlashPage.bytes (slot i)).take 80, currentSlot := some i })
      i (slot i) ∅ := by
  subst hs
  refine ⟨hl, rfl, rfl, h.1, rfl, ?_, ?_, Or.inl h.2⟩
  · exact getD_take_eighty (FlashPage.bytes (b.slot i)) (k := 8) (by decide)
  · have hbyte := getD_take_eighty (FlashPage.bytes (b.slot i)) (k := 23) (by decide)
    have htype : (FlashPage.bytes (b.slot i)).getD 23 0 ≤ 1 :=
      ((valid_iff _).mp h.1).2.2.2.2.2.2.2
    rw [← hbyte] at htype
    exact htype

/-- What a start makes of the EEPROM. -/
lemma load_cases (slot : Fin 2 → Page) (readOk : Nat → Bool) :
    (loadSlots (boot slot readOk)).slot = slot ∧
      ((loadSlots (boot slot readOk)).storageState = 255 ∨
        ((∃ i, valid (slot i) = true) ∧
          ∀ i, Newest slot i → Board.Holds (loadSlots (boot slot readOk)) i (slot i) ∅) ∨
        ((∀ i, valid (slot i) = false) ∧ ((loadSlots (boot slot readOk)).storageState = 0 ∨
          (loadSlots (boot slot readOk)).storageState = 3) ∧
          (loadSlots (boot slot readOk)).stagedType ≤ 1)) := by
  unfold loadSlots
  rw [if_neg (by exact Bool.false_ne_true)]
  dsimp only
  split
  · exact ⟨rfl, .inl rfl⟩
  · split
    · exact ⟨slot_pick _ _, .inl rfl⟩
    · generalize hstart : ({ boot slot readOk with loaded := true, storageState := 0 } : Board) = start
      have hslot : start.slot = slot := by
        rw [← hstart]
        rfl
      have hnone : start.currentSlot = none := by
        rw [← hstart]
        rfl
      have hloaded : start.loaded = true := by
        rw [← hstart]
      have htype : start.stagedType ≤ 1 := by
        rw [← hstart]
        exact UInt8.zero_le
      by_cases hv : valid (slot 0) = true ∨ valid (slot 1) = true
      · have hpicks {i : Fin 2} (hi : Newest slot i) := pick_pick_boot hi start hslot hnone
        obtain ⟨i, hi⟩ := exists_newest hv
        refine ⟨?_, .inr (.inl ⟨⟨i, hi.1⟩, fun j hj => ?_⟩)⟩
        · rw [hpicks hi]
          exact hslot
        · rw [hpicks hj]
          exact holds_loadCommitted hj hslot hloaded
      · rw [not_or, Bool.not_eq_true, Bool.not_eq_true] at hv
        have hall : ∀ i, valid (slot i) = false := fun i => by
          rcases fin_two i with rfl | rfl
          · exact hv.1
          · exact hv.2
        have hpicks : pick (pick start 0) 1 = start := by
          have hfirst : pick start 0 = start := pick_of_not_valid (by rw [hslot]; exact hv.1)
          rw [hfirst, pick_of_not_valid (by rw [hslot]; exact hv.2)]
        rw [hpicks, hnone, if_neg (by exact Bool.false_ne_true)]
        split
        · obtain ⟨htslot, -, httype, htstate⟩ := loadTorn_cases start
          rw [htslot, httype]
          refine ⟨hslot, htstate.imp id fun hs => .inr ⟨hall, .inr hs, htype⟩⟩
        · refine ⟨hslot, .inr (.inr ⟨hall, .inl ?_, htype⟩)⟩
          rw [← hstart]

/-- A start on what it finds. -/
lemma keeps_load (hL : Ledger R) {slot : Fin 2 → Page} {readOk : Nat → Bool} (hf : Found R H slot)
    {m : RadioMark} (hm : m.ev = .lost) (hb : m.board = loadSlots (boot slot readOk)) :
    Keeps R (m :: H) m.board := by
  have hist : m.ev.historic = true := by
    rw [hm]
    rfl
  obtain ⟨hslot, hcases⟩ := load_cases slot readOk
  have hl := loaded_loadSlots (boot slot readOk)
  rw [← hb] at hslot hcases hl
  have hstate : m.board.committed.state = m.board.storageState := by rw [committed_of_loaded hl]
  rcases hcases with hs | ⟨⟨i, hvalid⟩, hh⟩ | ⟨hv, hs, ht⟩
  · rw [hs] at hstate
    refine .shut hl hs ?_
    rw [hslot]
    exact hf.mono (fun _ => hL.unread hist hstate) fun hu => hu.entered hist (by simp [hstate])
  · cases hf with
    | page j hj hr =>
      refine .record j _ ∅ (hh j hj) ?_ fun q hq => absurd hq (Set.notMem_empty q)
      rw [← (hh j hj).committed] at hr ⊢
      exact hL.entered hist hr
    | blank hv hu =>
      rw [hv] at hvalid
      cases hvalid
  · cases hf with
    | page j hj hr =>
      have hvalid := hj.1
      rw [hv] at hvalid
      cases hvalid
    | blank _ hu =>
      refine .blank hl hs ht (by rw [hslot, hv]) (fun h => ?_) (hu.entered hist ?_)
      · rw [hslot, hv] at h
        cases h
      · rw [hstate]
        rcases hs with hs | hs
        · simp [hs]
        · simp [hs]

/-! ## Lives -/

/-- What is assumed of the EEPROM: a page on which a write failed passes for a record only if it is the one
that was there, or the complete new one. -/
def Sdk.Detects (sdk : Sdk) : Prop :=
  ∀ (write : BondWrite) (r : Radio) (c : Page), sdk.eeprom write r = .failed c →
    TornDetected (r.board.slot (nextSlot r.board)) (write.fields r.board) c

/-- What a power cut may leave in the EEPROM, when the mark is the last one before it. -/
inductive CutAt (m : RadioMark) : (Fin 2 → Page) → Prop
  | between : CutAt m m.board.slot
  | inside (write : BondWrite) (c : Page) (he : m.ev = .writing write)
      (hcut : CutDuring (writeOps (write.fields m.board)) (m.board.slot (nextSlot m.board)) c)
      (hd : EraseDetected (m.board.slot (nextSlot m.board)) (write.fields m.board) c) :
      CutAt m (Function.update m.board.slot (nextSlot m.board) c)

/-- The lives of a board that begins with the pages `slot₀`: the marks of the earlier boots, and the world
of the present one. -/
inductive Lives (b : Build) (slot₀ : Fin 2 → Page) : List RadioMark → World Radio → Prop
  | start (r : Reset) (sdk : Sdk) (n : Nat) (hr : r.slot = slot₀) : Lives b slot₀ [] (r.boot b sdk n [])
  | input {past : List RadioMark} {w : World Radio} (i : RadioInput) (sdk : Sdk) (n : Nat)
      (hd : sdk.Detects) (h : Lives b slot₀ past w) :
      Lives b slot₀ past (i.run b sdk (platform b sdk n) w)
  /-- A reset between two inputs. -/
  | reset {past : List RadioMark} {w : World Radio} (r : Reset) (sdk : Sdk) (n : Nat)
      (hr : r.slot = w.env.board.slot) (h : Lives b slot₀ past w) :
      Lives b slot₀ (w.env.trace ++ past) (r.boot b sdk n [])
  /-- The power is lost inside an input, after the mark `m`; what the trace has after it did not happen. -/
  | cut {past l t : List RadioMark} {m : RadioMark} {w : World Radio} (r : Reset) (sdk : Sdk) (n : Nat)
      (ht : w.env.trace = l ++ m :: t) (hr : CutAt m r.slot) (h : Lives b slot₀ past w) :
      Lives b slot₀ (m :: t ++ past) (r.boot b sdk n [])

/-- The record of every start that a power cut may lead to, now or earlier in this boot, stands in the
relation to its history. -/
structure Ledgered (R : List RadioMark → Committed → Prop) (past : List RadioMark) (r : Radio) :
    Prop where
  board : Keeps R (r.trace ++ past) r.board
  cuts : ∀ l m t, r.trace = l ++ m :: t → ∀ slot, CutAt m slot → Found R (m :: t ++ past) slot

namespace Ledgered

variable {past : List RadioMark} {r r' : Radio} {sdk : Sdk}

lemma push (h : Ledgered R past r) {m : RadioMark} (ht : r'.trace = m :: r.trace)
    (hb : Keeps R (m :: (r.trace ++ past)) r'.board)
    (hc : ∀ slot, CutAt m slot → Found R (m :: (r.trace ++ past)) slot) : Ledgered R past r' := by
  refine ⟨?_, fun l m' t heq slot hcut => ?_⟩
  · rw [ht]
    exact hb
  · rw [ht] at heq
    cases l with
    | nil =>
      obtain ⟨rfl, rfl⟩ := List.cons.inj heq
      exact hc slot hcut
    | cons a l => exact h.cuts l m' t (List.cons.inj heq).2 slot hcut

/-- The board changes without a mark. -/
lemma onto (h : Ledgered R past r) (ht : r'.trace = r.trace) (hb : Keeps R (r.trace ++ past) r'.board) :
    Ledgered R past r' := by
  refine ⟨?_, ?_⟩
  · rw [ht]
    exact hb
  · rw [ht]
    exact h.cuts

/-- A mark that is no write. -/
lemma mark (h : Ledgered R past r) (hL : Ledger R) {m : RadioMark} (ht : r'.trace = m :: r.trace)
    (hb : r'.board = r.board) (hm : m.board = r.board) (he : m.ev.historic = false)
    (hw : ∀ write, m.ev ≠ .writing write) : Ledgered R past r' := by
  have hkeeps := h.board.other hL he
  refine h.push ht (by rw [hb]; exact hkeeps) fun slot hcut => ?_
  cases hcut with
  | between =>
    rw [hm]
    exact hkeeps.found
  | inside write c he' hcut hd => exact absurd he' (hw write)

lemma keeps_staged (h : Keeps R H b) (write : BondWrite) : Keeps R H (write.staged b) := by
  obtain ⟨v, flags, heq⟩ := write.staged_eq b
  rw [heq]
  exact h.unstage v flags

/-- What a write leaves on its page when it does not complete. -/
lemma keeps_torn {write : BondWrite} (h : Keeps R H b) (hc : canWrite b = true) {c : Page}
    (hd : TornDetected (b.slot (nextSlot b)) (write.fields b) c)
    (hnew : R H (pageRecord (write.fields b).page)) :
    Keeps R H { write.staged b with slot := Function.update b.slot (nextSlot b) c } := by
  have hstaged := keeps_staged h write
  unfold BondWrite.fields at hd hnew
  obtain ⟨v, flags, heq⟩ := write.staged_eq b
  rw [heq] at hstaged hd hnew ⊢
  exact hstaged.torn hc hd hnew

/-- A write is attempted: if it reaches the EEPROM, its record has to be one that a start may find. -/
lemma write (h : Ledgered R past r) (hL : Ledger R) (hd : sdk.Detects) (write : BondWrite)
    (hnew : write.reaches r.board = true →
      R ({ ev := .writing write, central := r.central, board := r.board } :: (r.trace ++ past))
        (write.commits r.board.committed)) :
    Ledgered R past (r.write sdk write).2 := by
  have hl := h.board.isLoaded
  -- the write never reaches the page
  obtain ⟨hreach, b', hrun, hb'⟩ | ⟨hreach, hc, hdone⟩ := write.run_cases hl (sdk.eeprom write r)
  · have heq : (r.write sdk write).2 = { r with board := b' } := by
      unfold Radio.write
      dsimp only
      rw [hrun, hreach]
      rfl
    rw [heq]
    refine h.onto rfl ?_
    rcases hb' with rfl | rfl
    · exact h.board
    · exact keeps_staged h.board write
  · have hpage := BondWrite.pageRecord_fields hl write
    have hrecord := hnew hreach
    rw [← hpage] at hrecord
    have hkeeps := h.board.other hL (m := { ev := .writing write, central := r.central, board := r.board })
      rfl
    -- from here on a power cut finds the page as it was, or torn
    have hwriting : Ledgered R past (r.record (.writing write)) := by
      refine h.push rfl hkeeps fun slot hcut => ?_
      cases hcut with
      | between => exact hkeeps.found
      | inside write' c he hcut hdetect =>
        obtain rfl := RadioEv.writing.inj he
        exact (keeps_torn hkeeps hc (tornDetected_of_cut hcut hdetect) hrecord).found
    -- the page is written, or the write fails half way
    rcases hdone with ⟨b', hrun, hb'⟩ | ⟨c, hio, hrun⟩
    · have heq : (r.write sdk write).2 =
          ({ r.record (.writing write) with board := b' } : Radio).record (.committed write) := by
        unfold Radio.write
        dsimp only
        rw [hrun, hreach]
        rfl
      have hcommitted : b'.committed = write.commits r.board.committed := by
        have htrue : (write.run r.board (sdk.eeprom write r)).1 = true := by rw [hrun]
        have hdone := (BondWrite.committed_done hl htrue).1
        rw [hrun] at hdone
        exact hdone
      have hentered := hL.entered (m := { ev := .committed write, central := r.central, board := b' }) rfl
        (by rw [hcommitted, ← hpage]; exact hrecord)
      have hkeeps' : Keeps R ({ ev := .committed write, central := r.central, board := b' } ::
          { ev := .writing write, central := r.central, board := r.board } :: (r.trace ++ past)) b' := by
        rw [hcommitted, ← hpage] at hentered
        have hwritten := (keeps_staged hkeeps write).written (by rw [write.canWrite_staged]; exact hc)
          write.state_range hentered
        rw [← hb'] at hwritten
        exact hwritten
      rw [heq]
      refine hwriting.push rfl hkeeps' fun slot hcut => ?_
      cases hcut with
      | between => exact hkeeps'.found
      | inside write' c he hcut hdetect => cases he
    · have heq : (r.write sdk write).2 = { r.record (.writing write) with
          board := { write.staged r.board with
            slot := Function.update r.board.slot (nextSlot r.board) c } } := by
        unfold Radio.write
        dsimp only
        rw [hrun, hreach]
        rfl
      rw [heq]
      exact hwriting.onto rfl (keeps_torn hkeeps hc (hd write r c hio) hrecord)

end Ledgered

end RemoteBridge
