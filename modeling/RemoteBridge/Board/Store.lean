import RemoteBridge.Framework.Flash
import RemoteBridge.Protocol.Crc

/-!
# The bond store of `board.c`

Two 256-byte EEPROM pages hold the bond journal.  A record is written into the page that is not
current: erase, program the 252-byte body with its CRC, read back, program the 4-byte commit word,
read back.  `loadSlots` picks the committed page with the larger generation, and falls back to two
recognisers for a first journal that was torn before its commit word.

`Board` is the static data of the file next to the EEPROM it drives.  EEPROM operations can fail, so
the reads of a boot are answered by `readOk` and each `writeRecord` takes a `WriteIo` that says how
the EEPROM served it; a power cut is not a result of the function but a content left in the slot, and
is treated in `Board/Power.lean`.

The fault-log and trace calls of the source do not influence the store and are left out.
-/

namespace RemoteBridge

/-- `rbp_peer_record_t`.  `name` is the text before its terminating NUL. -/
structure PeerRecord where
  peerId : UInt32
  name : List UInt8
  autoReconnect : Bool
  deriving DecidableEq, Repr

/-- Slots are numbered by numerals of `Fin 2`. -/
instance neZero_two : NeZero 2 := ⟨two_ne_zero⟩

lemma fin_two (i : Fin 2) : i = 0 ∨ i = 1 := by fin_cases i <;> simp

namespace Board

/-- `STORE_SLOT_SIZE`. -/
abbrev slotSize : Nat := 256

def crcOff : Nat := 248

def commitOff : Nat := 252

/-- The record magic, `RBS2`. -/
def magic : List UInt8 := [0x52, 0x42, 0x53, 0x32]

/-- `COMMIT_WORD`. -/
def commitWord : UInt32 := 0x43544252

/-- One bond slot. -/
abbrev Page : Type := FlashPage slotSize

end Board

/-- The file-scope state of `board.c` together with the EEPROM pages. -/
structure Board where
  slot : Fin 2 → Board.Page
  /-- Whether the `k`-th `checked_read` of the load after this boot succeeds. -/
  readOk : Nat → Bool
  current : List UInt8
  currentSlot : Option (Fin 2)
  storageState : UInt8
  loaded : Bool
  stagedAddr : Fin 6 → UInt8
  stagedType : UInt8
  stagedValid : Bool
  stagedHidFlags : UInt8

namespace Board

/-! ## Records and pages -/

/-- `valid`: magic, commit word, CRC over the first 248 bytes, and the small field ranges. -/
def valid (p : Page) : Bool :=
  let b := FlashPage.bytes p
  b.take 4 == magic && get32 b commitOff == commitWord &&
    get32 b crcOff == crc32c (b.take crcOff) && decide (1 ≤ b.getD 8 0) && decide (b.getD 8 0 ≤ 3) &&
    decide (b.getD 21 0 ≤ 1) && decide (b.getD 22 0 ≤ 1) && decide (b.getD 23 0 ≤ 1)

/-- The generation word of a record prefix. -/
def generation (b : List UInt8) : UInt32 := get32 b 4

/-- A journal whose body is complete but whose commit word is not: the first recogniser of the torn
first write. -/
def pendingBody (p : Page) : Bool :=
  let b := FlashPage.bytes p
  b.take 4 == magic && b.getD 8 0 == 3 && get32 b crcOff == crc32c (b.take crcOff)

/-- The fields of a record, in the order of the page. -/
structure Fields where
  gen : UInt32
  state : UInt8
  counter : UInt32
  peerId : UInt32
  autoReconnect : UInt8
  addrValid : UInt8
  addrType : UInt8
  addr : Fin 6 → UInt8
  hidFlags : UInt8
  name : Fin 48 → UInt8

/-- The 80-byte prefix that `current` keeps in RAM. -/
def Fields.head (f : Fields) : List UInt8 :=
  magic ++ put32 f.gen ++ [f.state, 255, 255, 255] ++ put32 f.counter ++ put32 f.peerId ++
    [255, f.autoReconnect, f.addrValid, f.addrType] ++ List.ofFn f.addr ++ [f.hidFlags, 255] ++
    List.ofFn f.name

/-- The bytes the CRC covers. -/
def Fields.covered (f : Fields) : List UInt8 := f.head ++ List.replicate 168 255

/-- The 252 bytes programmed first. -/
def Fields.body (f : Fields) : List UInt8 := f.covered ++ put32 (crc32c f.covered)

/-- The complete page, commit word included. -/
def Fields.page (f : Fields) : Page := FlashPage.ofBytes (f.body ++ put32 commitWord)

/-! ## `load_slots` -/

/-- One turn of the scan loop: take a valid page that is the first one or newer than the one held. -/
def pick (b : Board) (i : Fin 2) : Board :=
  let bytes := FlashPage.bytes (b.slot i)
  if valid (b.slot i) &&
      (b.currentSlot.isNone || decide (generation b.current < generation bytes)) then
    { b with current := bytes.take 80, currentSlot := some i }
  else b

/-- Some byte of some page is programmed. -/
def dirty (b : Board) : Bool :=
  (List.finRange 2).any fun i => (FlashPage.bytes (b.slot i)).any (· != 255)

/-- The initial pending journal that the second recogniser compares with. -/
def expectedFields : Fields where
  gen := 1
  state := 3
  counter := 1
  peerId := 0
  autoReconnect := 0
  addrValid := 0
  addrType := 0
  addr := fun _ => 0
  hidFlags := 255
  name := fun _ => 0

/-- Every bit that `expected` keeps set is set in the page: the page can be a partially programmed
copy of `expected`. -/
def compatible (p expected : Page) : Bool :=
  (List.finRange slotSize).all fun j => p j &&& expected j == expected j

def isErased (p : Page) : Bool := (FlashPage.bytes p).all (· == 255)

/-- The branch of `load_slots` without a committed record on a programmed EEPROM. -/
def loadTorn (b : Board) : Board :=
  let fail := { b with storageState := 255 }
  if !b.readOk 2 then fail
  else if pendingBody (b.slot 0) then
    { b with current := (FlashPage.bytes (b.slot 0)).take 80, currentSlot := some 0,
             storageState := 3 }
  else if !b.readOk 3 then fail
  else if pendingBody (b.slot 1) then
    { b with current := (FlashPage.bytes (b.slot 1)).take 80, currentSlot := some 1,
             storageState := 3 }
  else if !b.readOk 4 then fail
  else if !isErased (b.slot 1) then fail
  else if !b.readOk 5 then fail
  else if !compatible (b.slot 0) expectedFields.page then fail
  else { b with current := expectedFields.head, currentSlot := some 0, storageState := 3 }

/-- The branch of `load_slots` with a committed record: state and staged fields come from it. -/
def loadCommitted (b : Board) : Board :=
  { b with
    storageState := b.current.getD 8 0
    stagedValid := b.current.getD 22 0 != 0
    stagedType := b.current.getD 23 0
    stagedAddr := fun i => b.current.getD (24 + i.val) 0
    stagedHidFlags := if b.current.getD 30 0 ≤ 3 then b.current.getD 30 0 else 255 }

/-- `load_slots`. -/
def loadSlots (b : Board) : Board :=
  if b.loaded then b
  else
    let b := { b with loaded := true, storageState := 0 }
    if !b.readOk 0 then { b with storageState := 255 }
    else
      let b := pick b 0
      if !b.readOk 1 then { b with storageState := 255 }
      else
        let b := pick b 1
        if b.currentSlot.isSome then loadCommitted b
        else if dirty b then loadTorn b
        else b

/-! ## `write_record` and its callers -/

/-- How the EEPROM served the operations of one `write_record`. -/
inductive WriteIo where
  /-- Every operation succeeded and both read-backs compared equal. -/
  | complete
  /-- An operation reported failure or a read-back differed; the slot was left with `content`. -/
  | failed (content : Page)

/-- Zero-padded copy of the first `n` bytes, as `memset` followed by `memcpy`. -/
def padded (n : Nat) (name : List UInt8) : Fin n → UInt8 := fun i => name.getD i 0

/-- The record `write_record` assembles from its arguments and the staged fields. -/
def recordFields (b : Board) (state : UInt8) (peer : Option PeerRecord) (counter : UInt32) :
    Fields where
  gen := (if b.currentSlot.isNone then 0 else generation b.current) + 1
  state := state
  counter := counter
  peerId := (peer.map (·.peerId)).getD 0
  autoReconnect := if peer.any (·.autoReconnect) then 1 else 0
  addrValid := if peer.isSome && b.stagedValid then 1 else 0
  addrType := b.stagedType
  addr := b.stagedAddr
  hidFlags := if peer.isSome then b.stagedHidFlags else 255
  name := fun i => if i.val < 47 then padded 48 ((peer.map (·.name)).getD []) i else 0

/-- The slot a write goes to: never the current one. -/
def nextSlot (b : Board) : Fin 2 :=
  match b.currentSlot with
  | none => 0
  | some i => 1 - i

/-- The EEPROM operations of `write_record` on its slot, in order.  The read-backs between them
change nothing. -/
def writeOps (f : Fields) : List FlashOp :=
  [.erase, .program 0 f.body, .program commitOff (put32 commitWord)]

/-- Whether `write_record` reaches the EEPROM. -/
def canWrite (b : Board) : Bool :=
  b.storageState != 255 && !(b.currentSlot.isSome && generation b.current == 0xffffffff)

/-- `write_record`. -/
def writeRecord (b : Board) (state : UInt8) (peer : Option PeerRecord) (counter : UInt32)
    (io : WriteIo) : Bool × Board :=
  let b := loadSlots b
  if !canWrite b then (false, b)
  else
    let f := recordFields b state peer counter
    match io with
    | .failed c => (false, { b with slot := Function.update b.slot (nextSlot b) c })
    | .complete =>
      (true, { b with
        slot := Function.update b.slot (nextSlot b) (runFlashOps (writeOps f) (b.slot (nextSlot b)))
        current := f.head
        currentSlot := some (nextSlot b)
        storageState := state })

def boardPeerCounter (b : Board) : UInt32 :=
  let b := loadSlots b
  if b.currentSlot.isNone then 0 else get32 b.current 12

/-- `board_begin_pair`. -/
def boardBeginPair (b : Board) (io : WriteIo) : Bool × Board :=
  let b := loadSlots b
  let counter := boardPeerCounter b
  if b.storageState == 255 || (b.storageState == 1 && get32 b.current 16 != 0) ||
      counter == 0xffffffff then (false, b)
  else writeRecord { b with stagedValid := false, stagedHidFlags := 255 } 3 none (counter + 1) io

/-- `board_begin_forget`. -/
def boardBeginForget (b : Board) (io : WriteIo) : Bool × Board :=
  writeRecord b 2 none (boardPeerCounter b) io

/-- `board_addr_stage`. -/
def boardAddrStage (b : Board) (addr : Fin 6 → UInt8) (type : UInt8) : Board :=
  { loadSlots b with stagedAddr := addr, stagedType := type, stagedValid := true }

/-- `board_hid_flags_stage`. -/
def boardHidFlagsStage (b : Board) (flags : UInt8) : Board :=
  { loadSlots b with stagedHidFlags := if flags ≤ 3 then flags else 255 }

/-- `store_load`. -/
def storeLoad (b : Board) : Option PeerRecord × Board :=
  let b := loadSlots b
  if b.storageState != 1 then (none, b)
  else
    (some { peerId := get32 b.current 16
            name := ((b.current.drop 32).take 47).takeWhile (· != 0)
            autoReconnect := b.current.getD 21 0 != 0 }, b)

/-- `store_save`. -/
def storeSave (b : Board) (peer : PeerRecord) (io : WriteIo) : Bool × Board :=
  if peer.peerId == 0 then (false, b)
  else writeRecord b 1 (some peer) (boardPeerCounter b) io

/-- `store_clear`. -/
def storeClear (b : Board) (io : WriteIo) : Bool × Board :=
  let b := { b with stagedValid := false }
  writeRecord b 1 none (boardPeerCounter b) io

/-- The board as a reset leaves it: the pages survive, the statics take their initial values. -/
def boot (slot : Fin 2 → Page) (readOk : Nat → Bool) : Board where
  slot := slot
  readOk := readOk
  current := List.replicate 80 0
  currentSlot := none
  storageState := 0
  loaded := false
  stagedAddr := fun _ => 0
  stagedType := 0
  stagedValid := false
  stagedHidFlags := 255

end Board

end RemoteBridge
