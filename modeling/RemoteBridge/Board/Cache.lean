import RemoteBridge.Board.Store

/-!
# The GATT cache store of `cache_store.inc`

Two 512-byte slots of the data EEPROM hold the attribute cache of the bonded peer, apart from the bond
journal.  A save goes to the slot that is not current: erase its two pages, program 508 bytes with their
CRC, read back, program the commit word, read back.  The slot and the generation that count are kept in
RAM from the first access on; a save of no bytes leaves a tombstone.

`Cache` is the static data of the file next to the slots and the bond store, whose record decides for whom
the cache speaks.  Reads of one call are answered by `readOk`, and a `CacheIo` says how the EEPROM served
the rest of a save.
-/

namespace RemoteBridge

namespace Cache

/-- `BOARD_CACHE_MAX`. -/
def maxData : Nat := 384

/-- `GAC_CRC`. -/
def crcOff : Nat := 504

/-- `GAC_COMMIT`. -/
def commitOff : Nat := 508

/-- `GAC_WORD`. -/
def commitWord : UInt32 := 0x31434147

/-- The slot magic, `GCS1`. -/
def magic : List UInt8 := [0x47, 0x43, 0x53, 0x31]

/-- One cache slot. -/
abbrev Page : Type := FlashPage 512

/-- The generation of a slot. -/
def genOf (p : Page) : UInt32 := get32 (FlashPage.bytes p) 4

/-- The peer a slot was written for. -/
def peerOf (p : Page) : UInt32 := get32 (FlashPage.bytes p) 8

/-- The number of bytes a slot holds. -/
def lenOf (p : Page) : Nat := (get32 (FlashPage.bytes p) 12).toNat

/-- The bytes a slot holds. -/
def dataOf (p : Page) : List UInt8 := ((FlashPage.bytes p).drop 16).take (lenOf p)

/-- `gac_valid`. -/
def valid (p : Page) : Bool :=
  let b := FlashPage.bytes p
  b.take 4 == magic && get32 b commitOff == commitWord && get32 b crcOff == crc32c (b.take crcOff) &&
    decide (lenOf p ≤ maxData)

/-- The bytes the CRC covers. -/
def covered (gen peer : UInt32) (data : List UInt8) : List UInt8 :=
  magic ++ put32 gen ++ put32 peer ++ put32 (UInt32.ofNat data.length) ++ data ++
    List.replicate (488 - data.length) 255

/-- The slot that a save assembles, commit word included. -/
def page (gen peer : UInt32) (data : List UInt8) : Page :=
  FlashPage.ofBytes (covered gen peer data ++ put32 (crc32c (covered gen peer data)) ++ put32 commitWord)

end Cache

/-- The file-scope state of `cache_store.inc`, with the EEPROM and the bond store. -/
structure Cache where
  board : Board
  slots : Fin 2 → Cache.Page
  /-- `gac_slot`; -1 is `none`. -/
  slot : Option (Fin 2) := none
  generation : UInt32 := 0
  loaded : Bool := false
  ioFailed : Bool := false

/-- How the EEPROM served the erase, the programming and the read-backs of a save. -/
inductive CacheIo where
  /-- Every operation succeeded and both read-backs compared equal. -/
  | complete
  /-- An operation reported failure or a read-back differed; the slot was left with `content`. -/
  | failed (content : Cache.Page)

namespace Cache

variable (readOk : Nat → Bool)

/-- A read has failed. -/
def readFailed (c : Cache) : Cache := { c with ioFailed := true }

/-- One turn of the scan loop. -/
def scan (c : Cache) (i : Fin 2) : Cache :=
  if valid (c.slots i) && (c.slot.isNone || c.generation < genOf (c.slots i)) then
    { c with slot := some i, generation := genOf (c.slots i) }
  else c

/-- The branch of `gac_read_latest` that runs once. -/
def scanSlots (c : Cache) : Cache :=
  let c := { c with slot := none, generation := 0 }
  if !readOk 0 then c.readFailed
  else
    let c := c.scan 0
    if !readOk 1 then c.readFailed
    else { c.scan 1 with loaded := true }

/-- `gac_read_latest`; the page is the one it leaves in the caller's buffer when it returns true. -/
def readLatest (c : Cache) : Option Page × Cache :=
  let c := { c with ioFailed := false }
  let c := if c.loaded then c else c.scanSlots readOk
  if !c.loaded then (none, c)
  else
    match c.slot with
    | none => (none, c)
    | some i =>
      if !readOk 2 then (none, c.readFailed)
      else (if valid (c.slots i) then some (c.slots i) else none, c)

/-- Whether the bond record names this peer. -/
def bound (peer : UInt32) (c : Cache) : Bool :=
  peer != 0 && c.board.storageState == 1 && get32 c.board.current 16 == peer

/-- `load_slots`. -/
def loadBond (c : Cache) : Cache := { c with board := c.board.loadSlots }

/-- `board_cache_load`; no bytes stand for the result 0. -/
def boardCacheLoad (peer : UInt32) (cap : Nat) (c : Cache) : List UInt8 × Cache :=
  let c := c.loadBond
  if !c.bound peer then ([], c)
  else
    match c.readLatest readOk with
    | (none, c) => ([], c)
    | (some p, c) => if peerOf p != peer || lenOf p > cap then ([], c) else (dataOf p, c)

/-- The slot a save goes to. -/
def nextSlot (c : Cache) : Fin 2 :=
  match c.slot with
  | none => 0
  | some i => 1 - i

/-- The two answers that a save gives without writing: the bytes are there already, or there is nothing
to forget. -/
def settled (have_ : Option Page) (peer : UInt32) (data : List UInt8) : Bool :=
  match have_ with
  | some p => peerOf p == peer && lenOf p == data.length && (data.isEmpty || dataOf p == data)
  | none => data.isEmpty

/-- `board_cache_save`. -/
def boardCacheSave (peer : UInt32) (data : List UInt8) (io : CacheIo) (c : Cache) : Bool × Cache :=
  let c := c.loadBond
  if !c.bound peer || data.length > maxData then (false, c)
  else
    let (have_, c) := c.readLatest readOk
    if !c.loaded || c.ioFailed then (false, c)
    else if settled have_ peer data then (true, c)
    else if c.generation == 0xffffffff then (false, c)
    else
      match io with
      | .failed content => (false, { c with slots := Function.update c.slots c.nextSlot content })
      | .complete =>
        (true, { c with
          slots := Function.update c.slots c.nextSlot (page (c.generation + 1) peer data)
          slot := some c.nextSlot
          generation := c.generation + 1 })

/-- The state as a reset leaves it. -/
def boot (board : Board) (slots : Fin 2 → Page) : Cache := { board := board, slots := slots }

/-! ## The layout of a slot -/

lemma length_covered {data : List UInt8} (h : data.length ≤ maxData) (gen peer : UInt32) :
    (covered gen peer data).length = 504 := by
  unfold maxData at h
  simp only [covered, magic, List.length_append, length_put32, List.length_replicate, List.length_cons,
    List.length_nil]
  omega

lemma bytes_page {data : List UInt8} (h : data.length ≤ maxData) (gen peer : UInt32) :
    FlashPage.bytes (page gen peer data) =
      covered gen peer data ++ put32 (crc32c (covered gen peer data)) ++ put32 commitWord := by
  apply FlashPage.bytes_ofBytes
  rw [List.length_append, List.length_append, length_covered h, length_put32, length_put32]

/-- The fields of a slot stand before its data. -/
lemma covered_eq (gen peer : UInt32) (data : List UInt8) :
    covered gen peer data = magic ++ put32 gen ++ put32 peer ++ put32 (UInt32.ofNat data.length) ++
      (data ++ List.replicate (488 - data.length) 255) := List.append_assoc ..

lemma genOf_page {data : List UInt8} (h : data.length ≤ maxData) (gen peer : UInt32) :
    genOf (page gen peer data) = gen := by
  have := get32_field magic (put32 peer ++ put32 (UInt32.ofNat data.length) ++ data ++
    List.replicate (488 - data.length) 255 ++ put32 (crc32c (covered gen peer data)) ++
      put32 commitWord) gen (rfl : 4 = magic.length)
  rw [genOf, bytes_page h]
  simpa only [covered, List.append_assoc] using this

lemma peerOf_page {data : List UInt8} (h : data.length ≤ maxData) (gen peer : UInt32) :
    peerOf (page gen peer data) = peer := by
  have hoff : 8 = (magic ++ put32 gen).length := by simp [magic]
  have := get32_field _ (put32 (UInt32.ofNat data.length) ++ data ++
    List.replicate (488 - data.length) 255 ++ put32 (crc32c (covered gen peer data)) ++
      put32 commitWord) peer hoff
  rw [peerOf, bytes_page h]
  simpa only [covered, List.append_assoc] using this

lemma lenOf_page {data : List UInt8} (h : data.length ≤ maxData) (gen peer : UInt32) :
    lenOf (page gen peer data) = data.length := by
  have hoff : 12 = (magic ++ put32 gen ++ put32 peer).length := by simp [magic]
  have := get32_field _ (data ++ List.replicate (488 - data.length) 255 ++
    put32 (crc32c (covered gen peer data)) ++ put32 commitWord) (UInt32.ofNat data.length) hoff
  have hlen : data.length < 2 ^ 32 := by
    unfold maxData at h
    omega
  rw [lenOf, bytes_page h]
  simp only [covered, List.append_assoc] at this ⊢
  rw [this]
  exact UInt32.toNat_ofNat_of_lt' hlen

lemma dataOf_page {data : List UInt8} (h : data.length ≤ maxData) (gen peer : UInt32) :
    dataOf (page gen peer data) = data := by
  have hhead : (magic ++ put32 gen ++ put32 peer ++ put32 (UInt32.ofNat data.length)).length = 16 := by
    simp [magic]
  rw [dataOf, lenOf_page h, bytes_page h, covered_eq]
  simp only [List.append_assoc]
  rw [← List.append_assoc magic, ← List.append_assoc (magic ++ put32 gen),
    ← List.append_assoc (magic ++ put32 gen ++ put32 peer), List.drop_left' hhead, List.take_left' rfl]

/-- An assembled slot is valid. -/
lemma valid_page {data : List UInt8} (h : data.length ≤ maxData) (gen peer : UInt32) :
    valid (page gen peer data) = true := by
  have hcov := length_covered h gen peer
  have hmagic : (FlashPage.bytes (page gen peer data)).take 4 = magic := by
    rw [bytes_page h]
    simp only [covered, List.append_assoc]
    exact List.take_left' rfl
  have hcommit : get32 (FlashPage.bytes (page gen peer data)) commitOff = commitWord := by
    have hoff : commitOff = (covered gen peer data ++ put32 (crc32c (covered gen peer data))).length := by
      rw [List.length_append, hcov, length_put32]
      rfl
    rw [bytes_page h]
    simpa using get32_field _ [] commitWord hoff
  have hcrc : get32 (FlashPage.bytes (page gen peer data)) crcOff = crc32c (covered gen peer data) := by
    rw [bytes_page h]
    exact get32_field _ _ _ hcov.symm
  have htake : (FlashPage.bytes (page gen peer data)).take crcOff = covered gen peer data := by
    rw [bytes_page h, List.append_assoc]
    exact List.take_left' hcov
  unfold valid
  dsimp only
  rw [hmagic, hcommit, hcrc, htake, lenOf_page h, decide_eq_true h]
  simp

end Cache

end RemoteBridge
