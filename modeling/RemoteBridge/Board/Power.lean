import RemoteBridge.Board.Store

/-!
# Pages, cuts and what a reboot sees

The lemmas that connect the byte layout of a record with the two questions a reboot asks of a page:
is it committed (`valid`), and is it a journal body without a commit word (`pendingBody`).

A completed write leaves exactly `Fields.page` (`runFlashOps_writeOps`).  A write cut by power loss
leaves a page of one of three kinds (`cutDuring_writeOps`), according to the operation the cut fell
into; a cut inside the body is never committed (`not_valid_of_body_torn`), and a cut inside the commit
word is committed only when nothing of the page is missing (`eq_page_of_commit_torn`).
-/

namespace RemoteBridge
namespace Board

/-! ## The layout -/

@[simp] lemma Fields.length_head (f : Fields) : f.head.length = 80 := by
  simp only [Fields.head, magic, List.length_append, length_put32, List.length_ofFn,
    List.length_cons, List.length_nil]

@[simp] lemma Fields.length_covered (f : Fields) : f.covered.length = 248 := by
  rw [Fields.covered, List.length_append, f.length_head, List.length_replicate]

@[simp] lemma Fields.length_body (f : Fields) : f.body.length = 252 := by
  simp [Fields.body]

lemma Fields.bytes_page (f : Fields) :
    FlashPage.bytes f.page = f.body ++ put32 commitWord :=
  FlashPage.bytes_ofBytes (by simp)

/-- The page with its body programmed and its commit word still erased. -/
def Fields.bodyPage (f : Fields) : Page := FlashPage.ofBytes f.body

lemma Fields.bodyPage_apply_of_lt (f : Fields) (i : Fin slotSize) (h : i.val < commitOff) :
    f.bodyPage i = f.page i := by
  have hlen : i.val < f.body.length := by simpa [commitOff] using h
  exact (List.getD_append _ _ _ _ hlen).symm

lemma Fields.bodyPage_apply_of_ge (f : Fields) (i : Fin slotSize) (h : commitOff ≤ i.val) :
    f.bodyPage i = 255 := by
  have hlen : f.body.length ≤ i.val := by simpa [commitOff] using h
  exact List.getD_eq_default _ _ hlen

/-! ## The operations of one write -/

lemma program_body (f : Fields) :
    (FlashOp.program 0 f.body).apply (FlashPage.erased : Page) = f.bodyPage := by
  funext i
  by_cases h : i.val < f.body.length
  · have hin : 0 ≤ i.val ∧ i.val < 0 + f.body.length := by omega
    simp only [FlashOp.apply, FlashPage.erased, if_pos hin, uint8_allOnes_and, Nat.sub_zero]
    rfl
  · have hge : f.body.length ≤ i.val := Nat.le_of_not_lt h
    have hout : ¬ (0 ≤ i.val ∧ i.val < 0 + f.body.length) := by omega
    simp only [FlashOp.apply, FlashPage.erased, if_neg hout]
    exact (List.getD_eq_default _ _ hge).symm

lemma program_commit (f : Fields) :
    (FlashOp.program commitOff (put32 commitWord)).apply f.bodyPage = f.page := by
  funext i
  by_cases h : i.val < commitOff
  · have hno : ¬ (commitOff ≤ i.val ∧ i.val < commitOff + (put32 commitWord).length) := by omega
    simp only [FlashOp.apply, if_neg hno]
    exact f.bodyPage_apply_of_lt i h
  · have hge : commitOff ≤ i.val := Nat.le_of_not_lt h
    have hlt : i.val < 256 := i.isLt
    have hyes : commitOff ≤ i.val ∧ i.val < commitOff + (put32 commitWord).length := by
      constructor
      · exact hge
      · simp only [length_put32, commitOff]
        omega
    have hlen : f.body.length ≤ i.val := by simpa [commitOff] using hge
    simp only [FlashOp.apply, if_pos hyes, f.bodyPage_apply_of_ge i hge, uint8_allOnes_and]
    rw [Fields.page, FlashPage.ofBytes, List.getD_append_right _ _ _ _ hlen, f.length_body]
    rfl

/-- A write that completes leaves exactly the assembled page. -/
lemma runFlashOps_writeOps (f : Fields) (old : Page) : runFlashOps (writeOps f) old = f.page := by
  have herase : FlashOp.erase.apply old = FlashPage.erased := rfl
  simp only [runFlashOps, writeOps, List.foldl_cons, List.foldl_nil, herase, program_body,
    program_commit]

/-- The three places a power cut can fall into. -/
lemma cutDuring_writeOps {f : Fields} {old c : Page} (h : CutDuring (writeOps f) old c) :
    (∀ i, old i &&& c i = old i) ∨ (∀ i, f.bodyPage i &&& c i = f.bodyPage i) ∨
      (∀ i, f.page i &&& c i = f.page i ∧ c i &&& f.bodyPage i = c i) := by
  obtain ⟨before, op, after, heq, htorn⟩ := h
  have hbody := program_body f
  have hcommit := program_commit f
  match before, heq with
  | [], heq =>
    simp only [writeOps, List.nil_append, List.cons.injEq] at heq
    obtain ⟨rfl, -⟩ := heq
    exact Or.inl htorn
  | [_], heq =>
    simp only [writeOps, List.cons_append, List.nil_append, List.cons.injEq] at heq
    obtain ⟨rfl, rfl, -⟩ := heq
    refine Or.inr (Or.inl fun i => ?_)
    have hi := (htorn i).1
    have hpre : runFlashOps [FlashOp.erase] old = (FlashPage.erased : Page) := rfl
    rwa [hpre, hbody] at hi
  | [_, _], heq =>
    simp only [writeOps, List.cons_append, List.nil_append, List.cons.injEq] at heq
    obtain ⟨rfl, rfl, rfl, -⟩ := heq
    refine Or.inr (Or.inr fun i => ?_)
    have hi := htorn i
    have hpre : runFlashOps [FlashOp.erase, FlashOp.program 0 f.body] old = f.bodyPage := hbody
    rwa [hpre, hcommit] at hi
  | _ :: _ :: _ :: _, heq =>
    exact absurd (congrArg List.length heq) (by simp [writeOps])

/-! ## What `valid` says about a page -/

/-- The conjuncts of `valid`. -/
lemma valid_iff (p : Page) :
    valid p = true ↔
      (FlashPage.bytes p).take 4 = magic ∧
      get32 (FlashPage.bytes p) commitOff = commitWord ∧
      get32 (FlashPage.bytes p) crcOff = crc32c ((FlashPage.bytes p).take crcOff) ∧
      1 ≤ (FlashPage.bytes p).getD 8 0 ∧ (FlashPage.bytes p).getD 8 0 ≤ 3 ∧
      (FlashPage.bytes p).getD 21 0 ≤ 1 ∧ (FlashPage.bytes p).getD 22 0 ≤ 1 ∧
      (FlashPage.bytes p).getD 23 0 ≤ 1 := by
  simp only [valid, Bool.and_eq_true, beq_iff_eq, decide_eq_true_eq, and_assoc]

/-- A committed page ends in the commit word, byte for byte. -/
lemma drop_commit_of_valid {p : Page} (h : valid p = true) :
    (FlashPage.bytes p).drop commitOff = put32 commitWord := by
  have hword := ((valid_iff p).mp h).2.1
  have hlen : ((FlashPage.bytes p).drop commitOff).length = 4 := by
    rw [List.length_drop, FlashPage.length_bytes]
    rfl
  have htake : ((FlashPage.bytes p).drop commitOff).take 4 = (FlashPage.bytes p).drop commitOff :=
    List.take_of_length_le (by omega)
  apply leNat_inj (by rw [hlen, length_put32])
  have hlt := leNat_lt ((FlashPage.bytes p).drop commitOff)
  rw [hlen] at hlt
  rw [get32, htake] at hword
  have hnat := congrArg UInt32.toNat hword
  rw [UInt32.toNat_ofNat', Nat.mod_eq_of_lt (by omega)] at hnat
  rw [hnat, put32, leNat_leBytes_of_lt (UInt32.toNat_lt _)]

/-- The byte of a committed page at a commit-word position. -/
lemma commit_byte_of_valid {p : Page} (h : valid p = true) (i : Fin slotSize)
    (hi : commitOff ≤ i.val) : p i = (put32 commitWord).getD (i.val - commitOff) 0 := by
  rw [← drop_commit_of_valid h, ← FlashPage.bytes_getD p i 0]
  simp only [List.getD_eq_getElem?_getD, List.getElem?_drop, Nat.add_sub_cancel' hi]

/-- A cut inside the body never leaves a committed page: the commit word is still erased. -/
lemma not_valid_of_body_torn {f : Fields} {c : Page}
    (h : ∀ i, f.bodyPage i &&& c i = f.bodyPage i) : valid c = false := by
  by_contra hv
  rw [Bool.not_eq_false] at hv
  have hlast : commitOff ≤ (252 : Fin slotSize).val := by decide
  have hc := commit_byte_of_valid hv 252 hlast
  have htorn := h 252
  rw [f.bodyPage_apply_of_ge 252 hlast, uint8_allOnes_and, hc] at htorn
  exact absurd htorn (by decide)

/-- A cut inside the commit word leaves a committed page only when the page is complete. -/
lemma eq_page_of_commit_torn {f : Fields} {c : Page} (hv : valid c = true)
    (h : ∀ i, f.page i &&& c i = f.page i ∧ c i &&& f.bodyPage i = c i) : c = f.page := by
  funext i
  by_cases hi : i.val < commitOff
  · have h2 := (h i).2
    rw [f.bodyPage_apply_of_lt i hi] at h2
    exact (uint8_eq_of_and_eq (h i).1 h2).symm
  · have hge : commitOff ≤ i.val := Nat.le_of_not_lt hi
    have hlen : f.body.length ≤ i.val := by simpa [commitOff] using hge
    rw [commit_byte_of_valid hv i hge]
    have hlt : i.val < 256 := i.isLt
    have hidx : i.val - commitOff < (put32 commitWord).length := by
      simp only [length_put32, commitOff]
      omega
    rw [Fields.page, FlashPage.ofBytes, List.getD_append_right _ _ _ _ hlen, f.length_body,
      List.getD_eq_getElem _ _ hidx]
    exact (List.getD_eq_getElem _ _ hidx).symm

/-- The assembled page is committed when its fields are in range. -/
lemma valid_page {f : Fields} (hs : 1 ≤ f.state ∧ f.state ≤ 3) (ha : f.autoReconnect ≤ 1)
    (hv : f.addrValid ≤ 1) (ht : f.addrType ≤ 1) : valid f.page = true := by
  rw [valid_iff, f.bytes_page]
  have hmagic : (f.body ++ put32 commitWord).take 4 = magic := by
    simp only [Fields.body, Fields.covered, Fields.head, List.append_assoc]
    exact List.take_left' rfl
  have hcommit : get32 (f.body ++ put32 commitWord) commitOff = commitWord := by
    have hlen : commitOff = f.body.length := by simp [commitOff]
    simpa using get32_field f.body [] commitWord hlen
  have hcrc : get32 (f.body ++ put32 commitWord) crcOff = crc32c f.covered :=
    get32_field f.covered (put32 commitWord) _ (by simp [crcOff])
  have hcov : (f.body ++ put32 commitWord).take crcOff = f.covered := by
    rw [Fields.body, List.append_assoc, List.take_left' (by simp [crcOff])]
  have hbyte : ∀ k, k < 80 → (f.body ++ put32 commitWord).getD k 0 = f.head.getD k 0 := by
    intro k hk
    have hk' : k < f.head.length := by simpa using hk
    simp only [Fields.body, Fields.covered, List.append_assoc]
    exact List.getD_append _ _ _ _ hk'
  refine ⟨hmagic, hcommit, ?_, ?_, ?_, ?_, ?_, ?_⟩
  · rw [hcrc, hcov]
  · rw [hbyte 8 (by omega)]; exact hs.1
  · rw [hbyte 8 (by omega)]; exact hs.2
  · rw [hbyte 21 (by omega)]; exact ha
  · rw [hbyte 22 (by omega)]; exact hv
  · rw [hbyte 23 (by omega)]; exact ht

/-- The generation of a page can be read off the 80 bytes kept in RAM. -/
lemma generation_take (b : List UInt8) : generation (b.take 80) = generation b := by
  unfold generation get32
  rw [List.drop_take, List.take_take]
  rfl

lemma Fields.generation_head (f : Fields) : generation f.head = f.gen := by
  have := get32_field magic
    ([f.state, 255, 255, 255] ++ put32 f.counter ++ put32 f.peerId ++
      [255, f.autoReconnect, f.addrValid, f.addrType] ++ List.ofFn f.addr ++ [f.hidFlags, 255] ++
      List.ofFn f.name) f.gen (by simp [magic] : 4 = magic.length)
  simpa only [generation, Fields.head, List.append_assoc] using this

lemma Fields.take_bytes_page (f : Fields) : (FlashPage.bytes f.page).take 80 = f.head := by
  rw [f.bytes_page, Fields.body, Fields.covered, List.append_assoc, List.append_assoc,
    List.take_left' f.length_head]

lemma Fields.generation_page (f : Fields) : generation (FlashPage.bytes f.page) = f.gen := by
  rw [← generation_take, f.take_bytes_page, f.generation_head]

/-! ## What the load after a reboot does -/

lemma loadSlots_of_loaded {b : Board} (h : b.loaded = true) : loadSlots b = b := by
  simp [loadSlots, h]

/-- Slot `i` holds a committed record that the scan of `load_slots` prefers to the other slot. -/
def Newest (slot : Fin 2 → Page) (i : Fin 2) : Prop :=
  valid (slot i) = true ∧
    (valid (slot (1 - i)) = true →
      generation (FlashPage.bytes (slot (1 - i))) < generation (FlashPage.bytes (slot i)) ∨
        (i = 0 ∧ generation (FlashPage.bytes (slot (1 - i))) =
          generation (FlashPage.bytes (slot i))))

/-- Some slot is preferred as soon as one is committed. -/
lemma exists_newest {slot : Fin 2 → Page}
    (h : valid (slot 0) = true ∨ valid (slot 1) = true) : ∃ i, Newest slot i := by
  by_cases h0 : valid (slot 0) = true
  · by_cases h1 : valid (slot 1) = true
    · by_cases hlt : generation (FlashPage.bytes (slot 0)) < generation (FlashPage.bytes (slot 1))
      · exact ⟨1, h1, fun _ => Or.inl hlt⟩
      · refine ⟨0, h0, fun _ => ?_⟩
        rcases UInt32.lt_or_eq_of_le (UInt32.not_lt.mp hlt) with hgt | heq
        · exact Or.inl hgt
        · exact Or.inr ⟨rfl, heq⟩
    · exact ⟨0, h0, fun h => absurd h h1⟩
  · rcases h with h | h
    · exact absurd h h0
    · exact ⟨1, h, fun h => absurd h h0⟩

/-- All reads of the load succeed. -/
abbrev readsWork : Nat → Bool := fun _ => true

/-- The two turns of the scan, on a board that has just booted. -/
lemma pick_pick_boot {slot : Fin 2 → Page} {i : Fin 2} (h : Newest slot i) (b : Board)
    (hslot : b.slot = slot) (hnone : b.currentSlot = none) :
    pick (pick b 0) 1 =
      { b with current := (FlashPage.bytes (slot i)).take 80, currentSlot := some i } := by
  subst hslot
  obtain ⟨hv, hold⟩ := h
  match i with
  | 0 =>
    have hfirst : pick b 0 = { b with current := (FlashPage.bytes (b.slot 0)).take 80,
                                      currentSlot := some 0 } := by
      simp [pick, hv, hnone]
    rw [hfirst]
    by_cases h1 : valid (b.slot 1) = true
    · have hle : ¬ generation (FlashPage.bytes (b.slot 0)) <
          generation (FlashPage.bytes (b.slot 1)) := by
        rcases hold h1 with hlt | ⟨-, heq⟩
        · exact UInt32.not_lt.mpr (UInt32.le_of_lt hlt)
        · exact UInt32.not_lt.mpr (UInt32.le_of_eq heq)
      simp [pick, generation_take, hle]
    · simp [pick, h1]
  | 1 =>
    by_cases h0 : valid (b.slot 0) = true
    · have hlt : generation (FlashPage.bytes (b.slot 0)) <
          generation (FlashPage.bytes (b.slot 1)) := by
        rcases hold h0 with hlt | ⟨hne, -⟩
        · exact hlt
        · exact absurd hne (by decide)
      have hfirst : pick b 0 = { b with current := (FlashPage.bytes (b.slot 0)).take 80,
                                        currentSlot := some 0 } := by
        simp [pick, h0, hnone]
      rw [hfirst]
      simp [pick, hv, generation_take, hlt]
    · simp [pick, h0, hv, hnone]

/-- A booted board at the point where the scan of `load_slots` starts. -/
def scanning (slot : Fin 2 → Page) : Board where
  slot := slot
  readOk := readsWork
  current := List.replicate 80 0
  currentSlot := none
  storageState := 0
  loaded := true
  stagedAddr := fun _ => 0
  stagedType := 0
  stagedValid := false
  stagedHidFlags := 255

@[simp] lemma pick_readOk (b : Board) (i : Fin 2) : (pick b i).readOk = b.readOk := by
  simp only [pick]
  split <;> rfl

lemma loadSlots_boot (slot : Fin 2 → Page) :
    loadSlots (boot slot readsWork) =
      if (pick (pick (scanning slot) 0) 1).currentSlot.isSome then
        loadCommitted (pick (pick (scanning slot) 0) 1)
      else if dirty (pick (pick (scanning slot) 0) 1) then
        loadTorn (pick (pick (scanning slot) 0) 1)
      else pick (pick (scanning slot) 0) 1 := by
  have hscan : (scanning slot).readOk = readsWork := rfl
  have hboot : loadSlots (boot slot readsWork) =
      if !(scanning slot).readOk 0 then { scanning slot with storageState := 255 }
      else if !(pick (scanning slot) 0).readOk 1 then
        { pick (scanning slot) 0 with storageState := 255 }
      else if (pick (pick (scanning slot) 0) 1).currentSlot.isSome then
        loadCommitted (pick (pick (scanning slot) 0) 1)
      else if dirty (pick (pick (scanning slot) 0) 1) then
        loadTorn (pick (pick (scanning slot) 0) 1)
      else pick (pick (scanning slot) 0) 1 := rfl
  rw [hboot, pick_readOk, hscan]
  simp

/-- With a preferred slot, the load takes its record. -/
lemma loadSlots_boot_of_newest {slot : Fin 2 → Page} {i : Fin 2} (h : Newest slot i) :
    loadSlots (boot slot readsWork) =
      loadCommitted { scanning slot with
        current := (FlashPage.bytes (slot i)).take 80, currentSlot := some i } := by
  have hpick := pick_pick_boot h (scanning slot) rfl rfl
  rw [loadSlots_boot, hpick]
  rfl

/-- Without a committed slot the scan leaves the booted board as it is. -/
lemma loadSlots_boot_of_none {slot : Fin 2 → Page} (h0 : valid (slot 0) = false)
    (h1 : valid (slot 1) = false) :
    loadSlots (boot slot readsWork) =
      if dirty (scanning slot) then loadTorn (scanning slot) else scanning slot := by
  have hpick0 : pick (scanning slot) 0 = scanning slot := by
    simp [pick, scanning, h0]
  have hpick1 : pick (scanning slot) 1 = scanning slot := by
    simp [pick, scanning, h1]
  rw [loadSlots_boot, hpick0, hpick1]
  rfl

end Board
end RemoteBridge
