import RemoteBridge.Board.Power
import RemoteBridge.Radio.Events

/-!
# The committed record

`board.c` keeps a copy of the record that was committed last: the record that `load_slots` found at the
start, or the one that the last `write_record` wrote when it returned `true` (`current` and
`storage_state`).  `Board.committed` is what the rest of the firmware can see of it, through
`board_storage_state`, `board_peer_counter` and the loader of the peer record.

The lemmas say what each write to the bond store makes of it: a write that fails leaves it alone,
whatever it left in the EEPROM.  The copy and the pages agree after a write that succeeded and after a
start.  After a write that failed the page that it began may hold the old record, the new one or part of
one; which record the next start finds is a matter of the pages alone, and the subject of the crash
atomicity of the journal.
-/

namespace RemoteBridge

/-- What the committed record says. -/
structure Committed where
  state : UInt8
  counter : UInt32
  peerId : UInt32
  autoReconnect : Bool

namespace Board

/-- The committed record of a board. -/
def committed (b : Board) : Committed :=
  let b := loadSlots b
  { state := b.storageState
    counter := boardPeerCounter b
    peerId := get32 b.current 16
    autoReconnect := b.current.getD 21 0 != 0 }

lemma loaded_pick (b : Board) (i : Fin 2) : (pick b i).loaded = b.loaded := by
  unfold pick
  dsimp only
  split <;> rfl

lemma loaded_loadTorn (b : Board) : (loadTorn b).loaded = b.loaded := by
  unfold loadTorn
  dsimp only
  repeat' split
  all_goals rfl

lemma loaded_loadSlots (b : Board) : (loadSlots b).loaded = true := by
  by_cases h : b.loaded = true
  · rw [loadSlots_of_loaded h]
    exact h
  · unfold loadSlots
    rw [if_neg h]
    dsimp only
    repeat' split
    all_goals simp only [loaded_loadTorn, loadCommitted, loaded_pick]

lemma loadSlots_loadSlots (b : Board) : loadSlots (loadSlots b) = loadSlots b :=
  loadSlots_of_loaded (loaded_loadSlots b)

lemma boardPeerCounter_loadSlots (b : Board) : boardPeerCounter (loadSlots b) = boardPeerCounter b := by
  unfold boardPeerCounter
  rw [loadSlots_loadSlots]

/-- Boards that agree in these fields have the same committed record. -/
lemma committed_congr {b b' : Board} (hb : b.loaded = true) (hb' : b'.loaded = true)
    (hs : b'.storageState = b.storageState) (hc : b'.current = b.current)
    (hi : b'.currentSlot = b.currentSlot) : b'.committed = b.committed := by
  simp only [committed, boardPeerCounter, loadSlots_of_loaded hb, loadSlots_of_loaded hb', hs, hc, hi]

lemma committed_loadSlots (b : Board) : (loadSlots b).committed = b.committed := by
  unfold committed
  rw [loadSlots_loadSlots]

lemma committed_boardAddrStage (b : Board) (addr : Fin 6 → UInt8) (type : UInt8) :
    (b.boardAddrStage addr type).committed = b.committed := by
  rw [← committed_loadSlots b]
  exact committed_congr (loaded_loadSlots b) (loaded_loadSlots b) rfl rfl rfl

lemma committed_boardHidFlagsStage (b : Board) (flags : UInt8) :
    (b.boardHidFlagsStage flags).committed = b.committed := by
  rw [← committed_loadSlots b]
  exact committed_congr (loaded_loadSlots b) (loaded_loadSlots b) rfl rfl rfl

/-! ## Records -/

lemma Fields.counter_head (f : Fields) : get32 f.head 12 = f.counter := by
  have hoff : 12 = (magic ++ put32 f.gen ++ [f.state, 255, 255, 255]).length := by simp [magic]
  have := get32_field _ (put32 f.peerId ++ [255, f.autoReconnect, f.addrValid, f.addrType] ++
    List.ofFn f.addr ++ [f.hidFlags, 255] ++ List.ofFn f.name) f.counter hoff
  simpa only [Fields.head, List.append_assoc] using this

lemma Fields.peerId_head (f : Fields) : get32 f.head 16 = f.peerId := by
  have hoff : 16 = (magic ++ put32 f.gen ++ [f.state, 255, 255, 255] ++ put32 f.counter).length := by
    simp [magic]
  have := get32_field _ ([255, f.autoReconnect, f.addrValid, f.addrType] ++ List.ofFn f.addr ++
    [f.hidFlags, 255] ++ List.ofFn f.name) f.peerId hoff
  simpa only [Fields.head, List.append_assoc] using this

lemma Fields.autoReconnect_head (f : Fields) : f.head.getD 21 0 = f.autoReconnect := by
  have hlen : (magic ++ put32 f.gen ++ [f.state, 255, 255, 255] ++ put32 f.counter ++
      put32 f.peerId).length = 20 := by simp [magic]
  have hhead : f.head = (magic ++ put32 f.gen ++ [f.state, 255, 255, 255] ++ put32 f.counter ++
      put32 f.peerId) ++ ([255, f.autoReconnect, f.addrValid, f.addrType] ++ List.ofFn f.addr ++
      [f.hidFlags, 255] ++ List.ofFn f.name) := by
    simp only [Fields.head, List.append_assoc]
  rw [hhead, List.getD_append_right _ _ _ _ (by rw [hlen]; omega), hlen]
  rfl

/-! ## Writes -/

/-- A write that fails leaves the committed record alone. -/
lemma committed_writeRecord_failed {b : Board} {state : UInt8} {peer : Option PeerRecord}
    {counter : UInt32} {io : WriteIo} (h : (writeRecord b state peer counter io).1 = false) :
    (writeRecord b state peer counter io).2.committed = b.committed := by
  rw [← committed_loadSlots b]
  unfold writeRecord at h ⊢
  dsimp only at h ⊢
  split
  · rfl
  · next hc =>
    rw [if_neg hc] at h
    cases io with
    | complete => cases h
    | failed c => exact committed_congr (loaded_loadSlots b) (loaded_loadSlots b) rfl rfl rfl

/-- A write that succeeds has committed its record. -/
lemma committed_writeRecord {b : Board} {state : UInt8} {peer : Option PeerRecord}
    {counter : UInt32} {io : WriteIo} (h : (writeRecord b state peer counter io).1 = true) :
    (writeRecord b state peer counter io).2.committed =
      { state := state, counter := counter, peerId := (peer.map (·.peerId)).getD 0
        autoReconnect := peer.any (·.autoReconnect) } ∧
      b.committed.state ≠ 255 := by
  have hstate : b.committed.state = (loadSlots b).storageState := rfl
  have hloaded := loaded_loadSlots b
  rw [hstate]
  unfold writeRecord at h ⊢
  dsimp only at h ⊢
  generalize loadSlots b = b₁ at h hloaded ⊢
  split
  · next hc =>
    rw [if_pos hc] at h
    cases h
  · next hc =>
    rw [if_neg hc] at h
    cases io with
    | failed c => cases h
    | complete =>
      refine ⟨?_, fun hs => ?_⟩
      · dsimp only
        unfold committed boardPeerCounter
        rw [loadSlots_of_loaded (by exact hloaded)]
        dsimp only
        rw [loadSlots_of_loaded (by exact hloaded)]
        dsimp only
        rw [Fields.peerId_head, Fields.counter_head, Fields.autoReconnect_head]
        unfold recordFields
        dsimp only [Option.isNone]
        cases peer.any (·.autoReconnect) <;> rfl
      · rw [canWrite, hs] at hc
        exact hc rfl

lemma loaded_writeRecord (b : Board) (state : UInt8) (peer : Option PeerRecord) (counter : UInt32)
    (io : WriteIo) : (writeRecord b state peer counter io).2.loaded = true := by
  have hloaded := loaded_loadSlots b
  unfold writeRecord
  dsimp only
  split
  · exact hloaded
  · cases io with
    | failed c => exact hloaded
    | complete => exact hloaded

end Board

namespace BondWrite

open Board

variable {b : Board} {write : BondWrite} {io : WriteIo}

/-- The record that a write commits. -/
def commits (c : Committed) : BondWrite → Committed
  | .pair => { state := 3, counter := c.counter + 1, peerId := 0, autoReconnect := false }
  | .forget => { state := 2, counter := c.counter, peerId := 0, autoReconnect := false }
  | .save peer =>
    { state := 1, counter := c.counter, peerId := peer.peerId, autoReconnect := peer.autoReconnect }
  | .clear => { state := 1, counter := c.counter, peerId := 0, autoReconnect := false }

/-- The records on which a write can succeed. -/
def Admits (c : Committed) : BondWrite → Prop
  | .pair => ¬ (c.state = 1 ∧ c.peerId ≠ 0) ∧ c.counter ≠ 0xffffffff
  | .save peer => peer.peerId ≠ 0
  | _ => True

lemma loaded_run (hl : b.loaded = true) (write : BondWrite) (io : WriteIo) :
    (write.run b io).2.loaded = true := by
  cases write with
  | pair =>
    unfold run boardBeginPair
    dsimp only
    split
    · exact loaded_loadSlots b
    · exact loaded_writeRecord _ _ _ _ _
  | forget => exact loaded_writeRecord _ _ _ _ _
  | save peer =>
    unfold run storeSave
    dsimp only
    split
    · exact hl
    · exact loaded_writeRecord _ _ _ _ _
  | clear => exact loaded_writeRecord _ _ _ _ _

lemma committed_unstaged (hl : b.loaded = true) (v : Bool) (flags : UInt8) :
    ({ b with stagedValid := v, stagedHidFlags := flags } : Board).committed = b.committed :=
  committed_congr hl hl rfl rfl rfl

/-- A write that fails leaves the committed record alone. -/
lemma committed_failed (hl : b.loaded = true) (h : (write.run b io).1 = false) :
    (write.run b io).2.committed = b.committed := by
  cases write with
  | pair =>
    unfold run boardBeginPair at h ⊢
    dsimp only at h ⊢
    rw [loadSlots_of_loaded hl] at h ⊢
    split
    · rfl
    · next hc =>
      rw [if_neg hc] at h
      rw [committed_writeRecord_failed h]
      exact committed_unstaged hl _ _
  | forget => exact committed_writeRecord_failed h
  | save peer =>
    unfold run storeSave at h ⊢
    dsimp only at h ⊢
    split
    · rfl
    · next hc =>
      rw [if_neg hc] at h
      exact committed_writeRecord_failed h
  | clear =>
    refine (committed_writeRecord_failed h).trans ?_
    exact committed_congr hl hl rfl rfl rfl

/-- A write that succeeds has committed its record. -/
lemma committed_done (hl : b.loaded = true) (h : (write.run b io).1 = true) :
    (write.run b io).2.committed = write.commits b.committed ∧ b.committed.state ≠ 255 ∧
      write.Admits b.committed := by
  have hcounter : b.committed.counter = boardPeerCounter b := by
    unfold committed
    rw [loadSlots_of_loaded hl]
  have hstate : b.committed.state = b.storageState := by
    unfold committed
    rw [loadSlots_of_loaded hl]
  have hid : b.committed.peerId = get32 b.current 16 := by
    unfold committed
    rw [loadSlots_of_loaded hl]
  cases write with
  | pair =>
    unfold run boardBeginPair at h ⊢
    dsimp only at h ⊢
    rw [loadSlots_of_loaded hl] at h ⊢
    split
    · next hc =>
      rw [if_pos hc] at h
      cases h
    · next hc =>
      rw [if_neg hc] at h
      -- what a write that returned true has committed
      obtain ⟨hnew, hok⟩ := committed_writeRecord h
      rw [committed_unstaged hl] at hok
      simp only [Bool.or_eq_true, beq_iff_eq, Bool.and_eq_true, bne_iff_ne, not_or] at hc
      refine ⟨?_, hok, ?_, ?_⟩
      · rw [hnew, commits, hcounter]
        rfl
      · rw [hstate, hid]
        exact hc.1.2
      · rw [hcounter]
        exact hc.2
  | forget =>
    obtain ⟨hnew, hok⟩ := committed_writeRecord h
    refine ⟨?_, hok, trivial⟩
    rw [commits, hcounter]
    exact hnew
  | save peer =>
    unfold run storeSave at h ⊢
    dsimp only at h ⊢
    split
    · next hc =>
      rw [if_pos hc] at h
      cases h
    · next hc =>
      rw [if_neg hc] at h
      obtain ⟨hnew, hok⟩ := committed_writeRecord h
      refine ⟨?_, hok, fun hz => hc (by rw [hz]; rfl)⟩
      rw [hnew, commits, hcounter]
      rfl
  | clear =>
    obtain ⟨hnew, hok⟩ := committed_writeRecord h
    have hsame : ({ b with stagedValid := false } : Board).committed = b.committed :=
      committed_congr hl hl rfl rfl rfl
    rw [hsame] at hok
    refine ⟨?_, hok, trivial⟩
    refine Eq.trans hnew ?_
    rw [commits, ← hsame]
    unfold committed
    rw [loadSlots_of_loaded (by exact hl)]
    rfl

end BondWrite

/-! ## The radio around a write -/

namespace World

variable (sdk : Sdk) (write : BondWrite) (w : World Radio)

@[simp] lemma srv_write : (w.write sdk write).2.srv = w.srv := rfl

@[simp] lemma log_write : (w.write sdk write).2.log = w.log := rfl

/-- A write changes the board and the trace. -/
lemma env_write : ∃ trace, (w.write sdk write).2.env =
    { w.env with board := (write.run w.env.board (sdk.eeprom write w.env)).2, trace := trace } := by
  unfold World.write Radio.write
  dsimp only
  split <;> split
  · exact ⟨_, rfl⟩
  · exact ⟨_, rfl⟩
  · exact ⟨_, rfl⟩
  · exact ⟨_, rfl⟩

@[simp] lemma central_write : (w.write sdk write).2.env.central = w.env.central := by
  obtain ⟨_, h⟩ := w.env_write sdk write
  rw [h]

@[simp] lemma pairs_write : (w.write sdk write).2.env.pairs = w.env.pairs := by
  obtain ⟨_, h⟩ := w.env_write sdk write
  rw [h]

@[simp] lemma owner_write : (w.write sdk write).2.env.owner = w.env.owner := by
  obtain ⟨_, h⟩ := w.env_write sdk write
  rw [h]

@[simp] lemma board_write :
    (w.write sdk write).2.env.board = (write.run w.env.board (sdk.eeprom write w.env)).2 := by
  obtain ⟨_, h⟩ := w.env_write sdk write
  rw [h]

variable {sdk write w}

lemma committed_write_failed (hl : w.env.board.loaded = true) (h : (w.write sdk write).1 = false) :
    (w.write sdk write).2.env.board.committed = w.env.board.committed := by
  rw [board_write]
  exact BondWrite.committed_failed hl h

lemma committed_write_done (hl : w.env.board.loaded = true) (h : (w.write sdk write).1 = true) :
    (w.write sdk write).2.env.board.committed = write.commits w.env.board.committed ∧
      w.env.board.committed.state ≠ 255 ∧ write.Admits w.env.board.committed := by
  rw [board_write]
  exact BondWrite.committed_done hl h

lemma loaded_write (hl : w.env.board.loaded = true) :
    (w.write sdk write).2.env.board.loaded = true := by
  rw [board_write]
  exact BondWrite.loaded_run hl _ _

end World

end RemoteBridge
