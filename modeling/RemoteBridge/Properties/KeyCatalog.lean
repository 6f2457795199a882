import RemoteBridge.Client.Listings
import RemoteBridge.Product.Host

/-!
# The key catalog page by page

`KEY_CATALOG` replies with at most twelve entries and the cursor of the next page.  The buffer of 500
bytes, which is larger than the 480 bytes of a TLV field, never cuts a page: twelve entries take at most
433 bytes.

The client reads a page behind the pages before it (`CatalogScan.keys`), and its loop ends because the
cursor grows; what it has in the end is the catalog (`keyCatalog_complete`).

The module follows the way of an entry.  The server packs a key as its slot, its id and the name, cut to 32
bytes (`catalogEntry`), and twelve of them make a page (`page`).  The client takes a page apart again and
refuses slots and key ids that it has seen, and a name that is not UTF-8; a name that was cut in the middle
of a character is such a name, so the client's half is about profiles whose names survive the cut.  `Pages`
is the list of the pages that a client sees when it follows the cursors.

The profile may change between two pages.  The client compares the revisions of the pages and gives up when
they differ; what is proved is about one catalog, as it is while the profile stays.
-/

namespace RemoteBridge

open Utf8

/-! ## Packing -/

lemma packEntries_eq_take {entries : List (List UInt8)} {room len m : Nat} (hm : ∀ e ∈ entries, e.length ≤ m)
    (hfit : len + room * m + 1 ≤ 500) : packEntries entries room len = entries.take room := by
  induction entries generalizing room len with
  | nil => cases room <;> rfl
  | cons e rest ih =>
    cases room with
    | zero => rfl
    | succ room =>
      have he := hm e (List.mem_cons_self ..)
      have hroom : (room + 1) * m = room * m + m := Nat.succ_mul ..
      have hrest : packEntries rest room (len + e.length) = rest.take room :=
        ih (fun e he => hm e (List.mem_cons_of_mem _ he)) (by omega)
      rw [packEntries, if_neg (by omega), hrest, List.take_succ_cons]

lemma length_catalogEntry (slot : Nat) (key : UInt16 × List UInt8) : (catalogEntry slot key).length ≤ 36 := by
  have hname := List.length_take_le 32 key.2
  unfold catalogEntry
  simp only [List.length_append, List.length_cons, List.length_nil, length_put16]
  omega

namespace DeviceProfile

variable (p : DeviceProfile)

/-- The page of `KEY_CATALOG` at a cursor. -/
def page (cursor : Nat) : List (List UInt8) := packEntries (p.entriesFrom cursor) 12 1

/-- The cursor that goes with it. -/
def nextPage (cursor : Nat) : UInt8 := nextCursor cursor (p.page cursor).length p.keys.length

lemma length_entriesFrom (cursor : Nat) : (p.entriesFrom cursor).length = p.keys.length - cursor := by
  unfold entriesFrom
  rw [List.length_mapIdx, List.length_drop]

lemma entriesFrom_eq_drop (cursor : Nat) : p.entriesFrom cursor = (p.entriesFrom 0).drop cursor := by
  refine List.ext_getElem? fun i => ?_
  unfold entriesFrom
  rw [List.getElem?_drop, List.getElem?_mapIdx, List.getElem?_mapIdx, List.getElem?_drop, List.drop_zero,
    Nat.zero_add]

lemma page_eq (cursor : Nat) : p.page cursor = ((p.entriesFrom 0).drop cursor).take 12 := by
  have hsmall : ∀ e ∈ p.entriesFrom cursor, e.length ≤ 36 := by
    intro e he
    unfold entriesFrom at he
    rw [List.mem_mapIdx] at he
    obtain ⟨i, hi, rfl⟩ := he
    exact length_catalogEntry _ _
  unfold page
  rw [packEntries_eq_take hsmall (by decide), entriesFrom_eq_drop]

lemma length_page (cursor : Nat) : (p.page cursor).length = min 12 (p.keys.length - cursor) := by
  rw [page_eq, List.length_take, List.length_drop, length_entriesFrom, Nat.sub_zero]

lemma nextPage_eq (cursor : Nat) :
    p.nextPage cursor = if p.keys.length ≤ cursor + 12 then 255 else UInt8.ofNat (cursor + 12) := by
  unfold nextPage nextCursor
  rw [length_page]
  by_cases hlast : p.keys.length ≤ cursor + 12
  · rw [if_pos (by omega), if_pos hlast]
  · rw [if_neg (by omega), if_neg hlast, Nat.min_eq_left (by omega)]

/-- The entries of a page fit into one field. -/
lemma length_entryList (cursor : Nat) : (entryList (p.page cursor)).length ≤ 433 := by
  have hsum : ∀ l : List (List UInt8), (∀ e ∈ l, e.length ≤ 36) → l.flatten.length ≤ 36 * l.length := by
    intro l hl
    induction l with
    | nil => exact Nat.le_refl 0
    | cons e l ih =>
      have he := hl e (List.mem_cons_self ..)
      have hl := ih fun e he => hl e (List.mem_cons_of_mem _ he)
      rw [List.flatten_cons, List.length_append, List.length_cons]
      omega
  have hsmall : ∀ e ∈ p.page cursor, e.length ≤ 36 := by
    intro e he
    rw [page_eq] at he
    have he := List.mem_of_mem_drop (List.mem_of_mem_take he)
    unfold entriesFrom at he
    rw [List.mem_mapIdx] at he
    obtain ⟨i, hi, rfl⟩ := he
    exact length_catalogEntry _ _
  have hlen := hsum _ hsmall
  have hcount : (p.page cursor).length ≤ 12 := by
    rw [length_page]
    exact Nat.min_le_left _ _
  unfold entryList
  rw [List.length_cons]
  omega

/-- The payload of a page. -/
def pagePayload (cursor : Nat) : List UInt8 :=
  tlvField 1 .u32 (put32 p.catalogRevision) ++ tlvField 2 .u8 [p.nextPage cursor] ++
    tlvField 3 .bytes (entryList (p.page cursor))

lemma length_pagePayload (cursor : Nat) : (p.pagePayload cursor).length ≤ 450 := by
  have hlist := p.length_entryList cursor
  unfold pagePayload tlvField
  simp only [List.length_append, List.length_cons, List.length_nil, length_put16, length_put32]
  omega

end DeviceProfile

/-! ## The server -/

section Server

variable {E : Type} (b : Build) (P : Platform E) {p : DeviceProfile} {h : Header} {w : World E}

/-- The request for any page but the first. -/
lemma catalogRequest_eq {cursor : Nat} (hne : cursor ≠ 0) :
    Python.catalogRequest cursor = [1, 1, 1, 0, UInt8.ofNat cursor] := by
  have hone : put16 (UInt16.ofNat 1) = [1, 0] := by decide
  have hput : tlvPutU8 1 (UInt8.ofNat cursor) [] = [1, 1] ++ put16 (UInt16.ofNat 1) ++ [UInt8.ofNat cursor] := rfl
  rw [Python.catalogRequest, if_neg hne, hput, hone]
  rfl

lemma tlvGetU8_catalogRequest (cursor : Nat) :
    tlvGetU8 (Python.catalogRequest cursor) 1 = .ok (if cursor = 0 then none else some (UInt8.ofNat cursor)) := by
  by_cases hzero : cursor = 0
  · rw [if_pos hzero, hzero]
    rfl
  · rw [if_neg hzero, catalogRequest_eq hzero]
    rfl

/-- The reply to the request for a page. -/
lemma handleKeyCatalog_page (hready : w.srv.connReadyFor h = true) (hp : w.srv.device.profile = some p)
    (hle : p.keys.length ≤ 64) {cursor : Nat} (hlt : cursor < p.keys.length) :
    handleKeyCatalog b P h (Python.catalogRequest cursor) w = reply b P h .ok (p.pagePayload cursor) w := by
  have hget := tlvGetU8_catalogRequest cursor
  have hcursor : ((required (tlvGetU8 (Python.catalogRequest cursor) 1)).getD 0).toNat = cursor := by
    rw [hget]
    by_cases hzero : cursor = 0
    · rw [if_pos hzero, hzero]
      rfl
    · rw [if_neg hzero]
      exact UInt8.toNat_ofNat_of_lt' (by simp [UInt8.size]; omega)
  have hlist := p.length_entryList cursor
  have hpage : tlvPutBytes 3 (entryList (p.page cursor))
      (tlvPutU8 2 (p.nextPage cursor) (tlvPutU32 1 p.catalogRevision [])) = p.pagePayload cursor := by
    have hrevision : tlvPutU32 1 p.catalogRevision [] = tlvField 1 .u32 (put32 p.catalogRevision) := rfl
    have hnext : tlvPutU8 2 (p.nextPage cursor) (tlvField 1 .u32 (put32 p.catalogRevision)) =
        tlvField 1 .u32 (put32 p.catalogRevision) ++ tlvField 2 .u8 [p.nextPage cursor] := rfl
    rw [hrevision, hnext, tlvPutBytes, if_neg (by unfold tlvMaxBytes; omega), tlvPut, if_neg]
    · rfl
    · have htwo : (tlvField 1 .u32 (put32 p.catalogRevision) ++
          tlvField 2 .u8 [p.nextPage cursor]).length = 13 := rfl
      rw [htwo]
      unfold maxPayload
      omega
  rw [hget] at hcursor
  unfold handleKeyCatalog
  rw [hready, hget]
  simp only [Bool.not_true, Bool.false_eq_true, if_false, hp]
  rw [hcursor, if_neg (by omega)]
  exact congrArg (reply b P h .ok · w) hpage

end Server

/-! ## The client -/

namespace Python

/-- The dictionary of a page. -/
def pageTable (p : DeviceProfile) (cursor : Nat) : List (UInt8 × PyTlvValue) :=
  [(1, .int p.catalogRevision.toNat), (2, .int (p.nextPage cursor).toNat),
    (3, .bytes (entryList (p.page cursor)))]

/-- What `schema.parse` makes of a page. -/
lemma schemaParse_pagePayload (p : DeviceProfile) (cursor : Nat) :
    schemaParse keyCatalogFields (p.pagePayload cursor) = .ok (pageTable p cursor) := by
  have hlist := p.length_entryList cursor
  have hfuel : ∃ fuel, (p.pagePayload cursor).length = fuel + 3 := by
    refine ⟨(p.pagePayload cursor).length - 3, ?_⟩
    unfold DeviceProfile.pagePayload tlvField
    simp only [List.length_append, List.length_cons, List.length_nil]
    omega
  obtain ⟨fuel, hfuel⟩ := hfuel
  have hloop : schemaLoop keyCatalogFields (fuel + 3) [] (p.pagePayload cursor) =
      some (pageTable p cursor) := by
    have hthird : schemaLoop keyCatalogFields (fuel + 1) [2, 1] (tlvField 3 .bytes (entryList (p.page cursor)) ++ []) =
        some [(3, .bytes (entryList (p.page cursor)))] := by
      rw [schemaLoop_field (by omega) (by decide) rfl rfl (pyScalar_bytes (by omega)), schemaLoop_nil]
      rfl
    unfold DeviceProfile.pagePayload
    rw [List.append_assoc, schemaLoop_field (by rw [length_put32]; decide) (by decide) rfl rfl (pyScalar_u32 _),
      schemaLoop_field (by rw [List.length_singleton]; decide) (by decide) rfl rfl (pyScalar_u8 _), ← List.append_nil (tlvField 3 _ _), hthird]
    rfl
  unfold schemaParse
  rw [hfuel, hloop]
  rfl

/-! ## The entries of a page -/

/-- The name of a key as it is sent. -/
def sentName (key : UInt16 × List UInt8) : String := (decode? (key.2.take 32)).getD ""

/-- The client has read the keys from the slot `start` on. -/
def CatalogScan.keys (start : Nat) : List (UInt16 × List UInt8) → CatalogScan → CatalogScan
  | [], s => s
  | key :: keys, s =>
    CatalogScan.keys (start + 1) keys
      { result := s.result ++ [⟨start, key.1.toNat, sentName key⟩]
        seenSlots := start :: s.seenSlots
        seenIds := key.1.toNat :: s.seenIds }

/-- What a page needs to be read behind a scan. -/
structure Readable (start : Nat) (keys : List (UInt16 × List UInt8)) (s : CatalogScan) : Prop where
  room : start + keys.length ≤ 64
  slots : ∀ slot ∈ s.seenSlots, slot < start
  ids : ∀ key ∈ keys, key.1.toNat ∉ s.seenIds
  distinct : (keys.map Prod.fst).Nodup
  nonzero : ∀ key ∈ keys, key.1 ≠ 0
  names : ∀ key ∈ keys, WellFormed (key.2.take 32)

variable {start : Nat} {key : UInt16 × List UInt8} {keys : List (UInt16 × List UInt8)} {s : CatalogScan}

lemma Readable.tail (h : Readable start (key :: keys) s) :
    Readable (start + 1) keys
      { result := s.result ++ [⟨start, key.1.toNat, sentName key⟩]
        seenSlots := start :: s.seenSlots
        seenIds := key.1.toNat :: s.seenIds } := by
  have hdistinct := h.distinct
  rw [List.map_cons, List.nodup_cons] at hdistinct
  refine ⟨?_, ?_, ?_, hdistinct.2, fun k hk => h.nonzero k (List.mem_cons_of_mem _ hk),
    fun k hk => h.names k (List.mem_cons_of_mem _ hk)⟩
  · have hroom := h.room
    rw [List.length_cons] at hroom
    omega
  · intro slot hslot
    rcases List.mem_cons.mp hslot with rfl | hslot
    · exact Nat.lt_succ_self _
    · exact Nat.lt_succ_of_lt (h.slots slot hslot)
  · intro k hk hmem
    rcases List.mem_cons.mp hmem with heq | hmem
    · exact hdistinct.1 (List.mem_map.mpr ⟨k, hk, UInt16.toNat_inj.mp heq⟩)
    · exact h.ids k (List.mem_cons_of_mem _ hk) hmem

lemma decode?_sentName (h : WellFormed (key.2.take 32)) : decode? (key.2.take 32) = some (sentName key) := by
  obtain ⟨cs, hcs⟩ := h
  have hsome : decode? (key.2.take 32) = some (String.ofList cs) := by
    rw [decode?_eq_some_iff, String.toList_ofList, hcs]
  unfold sentName
  rw [hsome, Option.getD_some]

/-- An entry as its bytes. -/
lemma catalogEntry_eq (start : Nat) (key : UInt16 × List UInt8) :
    catalogEntry start key = UInt8.ofNat start :: UInt8.ofNat key.1.toNat :: UInt8.ofNat (key.1.toNat / 256) ::
      UInt8.ofNat (key.2.take 32).length :: key.2.take 32 := by
  rfl

lemma toNat_sentLength (key : UInt16 × List UInt8) :
    (UInt8.ofNat (key.2.take 32).length).toNat = (key.2.take 32).length := by
  have hlen := List.length_take_le 32 key.2
  exact UInt8.toNat_ofNat_of_lt' (Nat.lt_of_le_of_lt hlen (by decide))

lemma flatten_entries (start : Nat) (key : UInt16 × List UInt8) (keys : List (UInt16 × List UInt8)) :
    ((key :: keys).mapIdx fun i key => catalogEntry (start + i) key).flatten =
      catalogEntry start key ++ (keys.mapIdx fun i key => catalogEntry (start + 1 + i) key).flatten := by
  have hshift : (fun i key => catalogEntry (start + (i + 1)) key) =
      fun i key => catalogEntry (start + 1 + i) key := by
    funext i key
    rw [Nat.add_right_comm, Nat.add_assoc]
  rw [List.mapIdx_cons, List.flatten_cons, hshift, Nat.add_zero]

lemma entriesValid_page (start : Nat) (hnames : ∀ key ∈ keys, WellFormed (key.2.take 32)) :
    entriesValid 4 keys.length (keys.mapIdx fun i key => catalogEntry (start + i) key).flatten = true := by
  induction keys generalizing start with
  | nil => rfl
  | cons key keys ih =>
    have hlen := List.length_take_le 32 key.2
    have hname := decode?_sentName (hnames key (List.mem_cons_self ..))
    have hrest := ih (start + 1) fun k hk => hnames k (List.mem_cons_of_mem _ hk)
    rw [flatten_entries, catalogEntry_eq, List.length_cons, entriesValid]
    generalize (keys.mapIdx fun i key => catalogEntry (start + 1 + i) key).flatten = rest at hrest
    simp only [List.cons_append, List.length_cons, List.getD_cons_succ, List.getD_cons_zero, toNat_sentLength,
      List.drop_succ_cons, List.drop_zero, List.length_append]
    rw [if_neg (by omega), if_neg (by omega), List.take_left, hname]
    simp only [Option.isNone_some, Bool.false_eq_true, if_false]
    rw [Nat.add_comm 4, List.drop_succ_cons, List.drop_succ_cons, List.drop_succ_cons, List.drop_succ_cons,
      List.drop_left]
    exact hrest

lemma catalogEntries_page (h : Readable start keys s) :
    catalogEntries keys.length (keys.mapIdx fun i key => catalogEntry (start + i) key).flatten s =
      some (s.keys start keys) := by
  induction keys generalizing start s with
  | nil => rfl
  | cons key keys ih =>
    have hlen := List.length_take_le 32 key.2
    have hname := decode?_sentName (h.names key (List.mem_cons_self ..))
    have hid : (UInt8.ofNat key.1.toNat).toNat + 256 * (UInt8.ofNat (key.1.toNat / 256)).toNat = key.1.toNat := by
      have hlt := key.1.toNat_lt
      rw [UInt8.toNat_ofNat', UInt8.toNat_ofNat']
      omega
    have hroom := h.room
    rw [List.length_cons] at hroom
    have hslot : (UInt8.ofNat start).toNat = start :=
      UInt8.toNat_ofNat_of_lt' (Nat.lt_of_lt_of_le (m := 64) (by omega) (by decide))
    have hfresh : start ∉ s.seenSlots := fun hmem => Nat.lt_irrefl _ (h.slots start hmem)
    have hids := h.ids key (List.mem_cons_self ..)
    have hnonzero : key.1.toNat ≠ 0 := fun hzero =>
      h.nonzero key (List.mem_cons_self ..) (UInt16.toNat_inj.mp hzero)
    rw [flatten_entries, catalogEntry_eq, List.length_cons]
    simp only [List.cons_append, catalogEntries]
    rw [hslot, hid, toNat_sentLength, if_neg, List.take_left, List.drop_left, hname]
    · exact ih h.tail
    · rw [List.length_append]
      rintro (hlarge | hseen | hseen | hzero | hlong | hshort)
      · omega
      · exact hfresh hseen
      · exact hids hseen
      · exact hnonzero hzero
      · omega
      · omega

/-! ## The loop over the pages -/

lemma CatalogScan.keys_append (start : Nat) (keys keys' : List (UInt16 × List UInt8)) (s : CatalogScan) :
    s.keys start (keys ++ keys') = (s.keys start keys).keys (start + keys.length) keys' := by
  induction keys generalizing start s with
  | nil => rfl
  | cons key keys ih =>
    rw [List.cons_append, CatalogScan.keys, CatalogScan.keys, ih, List.length_cons, Nat.add_right_comm,
      Nat.add_assoc]

lemma CatalogScan.result_keys (start : Nat) (keys : List (UInt16 × List UInt8)) (s : CatalogScan) :
    (s.keys start keys).result =
      s.result ++ keys.mapIdx fun i key => ⟨start + i, key.1.toNat, sentName key⟩ := by
  induction keys generalizing start s with
  | nil => exact (List.append_nil _).symm
  | cons key keys ih =>
    have hshift : (fun i (key : UInt16 × List UInt8) => (⟨start + (i + 1), key.1.toNat, sentName key⟩ : KeyDef)) =
        fun i key => ⟨start + 1 + i, key.1.toNat, sentName key⟩ := by
      funext i key
      rw [Nat.add_right_comm, Nat.add_assoc]
    rw [CatalogScan.keys, ih, List.mapIdx_cons, hshift, List.append_assoc]
    rfl

lemma CatalogScan.mem_seenSlots {n : Nat} (h : n ∈ (s.keys start keys).seenSlots) :
    n ∈ s.seenSlots ∨ n < start + keys.length := by
  induction keys generalizing start s with
  | nil => exact .inl h
  | cons key keys ih =>
    rw [List.length_cons]
    rcases ih h with hmem | hlt
    · rcases List.mem_cons.mp hmem with rfl | hmem
      · exact .inr (by omega)
      · exact .inl hmem
    · exact .inr (by omega)

lemma CatalogScan.mem_seenIds {n : Nat} (h : n ∈ (s.keys start keys).seenIds) :
    n ∈ s.seenIds ∨ ∃ key ∈ keys, key.1.toNat = n := by
  induction keys generalizing start s with
  | nil => exact .inl h
  | cons key keys ih =>
    rcases ih h with hmem | ⟨k, hk, hn⟩
    · rcases List.mem_cons.mp hmem with rfl | hmem
      · exact .inr ⟨key, List.mem_cons_self .., rfl⟩
      · exact .inl hmem
    · exact .inr ⟨k, List.mem_cons_of_mem _ hk, hn⟩

/-- A catalog that the client can read. -/
structure ReadableCatalog (p : DeviceProfile) : Prop where
  pos : 0 < p.keys.length
  le : p.keys.length ≤ 64
  distinct : (p.keys.map Prod.fst).Nodup
  nonzero : ∀ key ∈ p.keys, key.1 ≠ 0
  names : ∀ key ∈ p.keys, WellFormed (key.2.take 32)

lemma page_eq_mapIdx (p : DeviceProfile) (cursor : Nat) :
    p.page cursor = ((p.keys.drop cursor).take 12).mapIdx fun i key => catalogEntry (cursor + i) key := by
  rw [p.page_eq, ← p.entriesFrom_eq_drop]
  refine List.ext_getElem? fun i => ?_
  unfold DeviceProfile.entriesFrom
  rw [List.getElem?_take, List.getElem?_mapIdx, List.getElem?_mapIdx, List.getElem?_take]
  split <;> rfl

section Loop

variable {p : DeviceProfile} (hp : ReadableCatalog p)
include hp

/-- The page at a cursor is readable behind the pages before it. -/
lemma ReadableCatalog.page {cursor : Nat} (hlt : cursor < p.keys.length) :
    Readable cursor ((p.keys.drop cursor).take 12) (({} : CatalogScan).keys 0 (p.keys.take cursor)) := by
  have hsub : (p.keys.drop cursor).take 12 ⊆ p.keys := fun key hkey =>
    List.mem_of_mem_drop (List.mem_of_mem_take hkey)
  have hdistinct := hp.distinct
  rw [← List.take_append_drop cursor p.keys, List.map_append, List.nodup_append] at hdistinct
  have hle := hp.le
  refine ⟨?_, ?_, ?_, ?_, fun key hkey => hp.nonzero key (hsub hkey), fun key hkey => hp.names key (hsub hkey)⟩
  · rw [List.length_take, List.length_drop]
    omega
  · intro slot hslot
    rcases CatalogScan.mem_seenSlots hslot with hmem | hlt
    · cases hmem
    · rw [List.length_take] at hlt
      omega
  · intro key hkey hmem
    rcases CatalogScan.mem_seenIds hmem with hmem | ⟨key', hkey', heq⟩
    · cases hmem
    · have hleft : key'.1 ∈ (p.keys.take cursor).map Prod.fst := List.mem_map_of_mem hkey'
      have hright : key.1 ∈ (p.keys.drop cursor).map Prod.fst :=
        List.mem_map_of_mem (List.mem_of_mem_take hkey)
      exact hdistinct.2.2 _ hleft _ hright (UInt16.toNat_inj.mp heq)
  · rw [List.map_take]
    exact hdistinct.2.1.sublist (List.take_sublist _ _)

/-- One turn of the loop. -/
lemma ReadableCatalog.catalogPage {ask : List UInt8 → Option (Nat × List UInt8)} {cursor : Nat}
    {revision : Option Nat} (hlt : cursor < p.keys.length)
    (hask : ask (catalogRequest cursor) = some (0, p.pagePayload cursor))
    (hrevision : revision.isSome → revision = some p.catalogRevision.toNat) :
    Python.catalogPage ask cursor revision (({} : CatalogScan).keys 0 (p.keys.take cursor)) =
      some (p.catalogRevision.toNat, (p.nextPage cursor).toNat,
        ({} : CatalogScan).keys 0 (p.keys.take (cursor + 12))) := by
  have hpage := hp.page hlt
  have hle := hp.le
  have hcount : (p.page cursor).length = ((p.keys.drop cursor).take 12).length := by
    rw [page_eq_mapIdx, List.length_mapIdx]
  have hsmall : (p.page cursor).length ≤ 12 := by
    rw [p.length_page]
    exact Nat.min_le_left _ _
  have hbyte : (UInt8.ofNat (p.page cursor).length).toNat = (p.page cursor).length :=
    UInt8.toNat_ofNat_of_lt' (Nat.lt_of_le_of_lt hsmall (by decide))
  have hvalid := entriesValid_page cursor hpage.names
  have hentries := catalogEntries_page hpage
  rw [← page_eq_mapIdx, ← hcount] at hvalid hentries
  have hscan : (({} : CatalogScan).keys 0 (p.keys.take cursor)).keys cursor ((p.keys.drop cursor).take 12) =
      ({} : CatalogScan).keys 0 (p.keys.take (cursor + 12)) := by
    rw [List.take_add, CatalogScan.keys_append, List.length_take, Nat.min_eq_left (Nat.le_of_lt hlt), Nat.zero_add]
  have hrevisionAt : intAt (pageTable p cursor) 1 = p.catalogRevision.toNat := rfl
  have hnextAt : intAt (pageTable p cursor) 2 = (p.nextPage cursor).toNat := rfl
  have hlistAt : bytesAt (pageTable p cursor) 3 =
      UInt8.ofNat (p.page cursor).length :: (p.page cursor).flatten := rfl
  have hlisting : validateListing keyCatalogFields 3 64 4 0 (p.pagePayload cursor) =
      some (pageTable p cursor) := by
    unfold validateListing
    rw [schemaParse_pagePayload, if_neg (by omega), if_neg (by omega)]
    dsimp only
    rw [hlistAt]
    dsimp only
    rw [hbyte, if_neg (by omega), if_pos hvalid]
  unfold Python.catalogPage
  rw [hask]
  dsimp only
  rw [if_neg (by omega), hlisting]
  dsimp only
  rw [hrevisionAt, hlistAt, hnextAt, if_neg (fun h => h.2 (hrevision h.1))]
  dsimp only
  rw [hbyte, if_neg (by omega), hentries, hscan]
  rfl

/-- The loop from a page on. -/
lemma ReadableCatalog.loop {ask : List UInt8 → Option (Nat × List UInt8)} (device : Option KnownDevice)
    (hask : ∀ cursor < p.keys.length, ask (catalogRequest cursor) = some (0, p.pagePayload cursor))
    (cursor : Nat) (revision : Option Nat) (hlt : cursor < p.keys.length)
    (hrevision : revision.isSome → revision = some p.catalogRevision.toNat) :
    keyCatalogLoop ask device cursor revision (({} : CatalogScan).keys 0 (p.keys.take cursor)) =
      catalogDone device p.catalogRevision.toNat (({} : CatalogScan).keys 0 p.keys) := by
  have hle := hp.le
  induction hleft : p.keys.length - cursor using Nat.strongRecOn generalizing cursor revision with
  | ind left ih =>
    rw [keyCatalogLoop, hp.catalogPage hlt (hask cursor hlt) hrevision]
    dsimp only
    rw [p.nextPage_eq]
    by_cases hlast : p.keys.length ≤ cursor + 12
    · rw [if_pos hlast, if_pos (by decide), List.take_of_length_le hlast]
    · have hnext : (UInt8.ofNat (cursor + 12)).toNat = cursor + 12 :=
        UInt8.toNat_ofNat_of_lt' (Nat.lt_of_lt_of_le (m := 64) (by omega) (by decide))
      rw [if_neg hlast, hnext, if_neg (by omega), if_pos (by omega)]
      exact ih _ (by omega) _ _ (by omega) (fun _ => rfl) rfl

end Loop

end Python

/-! ## The catalog -/

/-- Following `next_cursor` from a cursor until 255 gives these pages. -/
inductive Pages (p : DeviceProfile) : Nat → List (List (List UInt8)) → Prop
  | last (cursor : Nat) (hlt : cursor < p.keys.length) (h : p.nextPage cursor = 255) :
      Pages p cursor [p.page cursor]
  | next (cursor : Nat) (pages : List (List (List UInt8))) (hlt : cursor < p.keys.length)
      (h : p.nextPage cursor ≠ 255)
      (hp : Pages p (p.nextPage cursor).toNat pages) : Pages p cursor (p.page cursor :: pages)

lemma exists_pages {p : DeviceProfile} (hle : p.keys.length ≤ 64) {cursor : Nat} (hlt : cursor < p.keys.length) :
    ∃ pages, Pages p cursor pages ∧ pages.flatten = p.entriesFrom cursor := by
  induction hleft : p.keys.length - cursor using Nat.strongRecOn generalizing cursor with
  | ind left ih =>
    by_cases hlast : p.keys.length ≤ cursor + 12
    · refine ⟨[p.page cursor], .last cursor hlt (by rw [p.nextPage_eq, if_pos hlast]), ?_⟩
      rw [List.flatten_singleton, p.page_eq, ← p.entriesFrom_eq_drop, List.take_of_length_le]
      rw [p.length_entriesFrom]
      omega
    · have hbyte : (UInt8.ofNat (cursor + 12)).toNat = cursor + 12 :=
        UInt8.toNat_ofNat_of_lt' (Nat.lt_of_lt_of_le (m := 64) (by omega) (by decide))
      have hnext : p.nextPage cursor = UInt8.ofNat (cursor + 12) := by rw [p.nextPage_eq, if_neg hlast]
      obtain ⟨pages, hpages, hflat⟩ := @ih _ (by omega) (cursor + 12) (by omega) rfl
      refine ⟨p.page cursor :: pages, .next cursor pages hlt ?_ ?_, ?_⟩
      · rw [hnext]
        intro heq
        have hnat := congrArg UInt8.toNat heq
        rw [hbyte] at hnat
        change cursor + 12 = 255 at hnat
        omega
      · rw [hnext, hbyte]
        exact hpages
      · rw [List.flatten_cons, hflat, p.page_eq, p.entriesFrom_eq_drop cursor, p.entriesFrom_eq_drop (cursor + 12),
          ← List.drop_drop, List.take_append_drop]

open Python in
/-- Every page fits its field and its frame, the pages from cursor 0 on list all keys in order, and the
client reads them when its checks on ids and names can be met. -/
theorem keyCatalog_complete {E : Type} (b : Build) (P : Platform E) (p : DeviceProfile)
    (hpos : 0 < p.keys.length) (hle : p.keys.length ≤ 64) :
    (∀ (h : Header) (w : World E), w.srv.connReadyFor h = true → w.srv.device.profile = some p →
      ∀ cursor < p.keys.length,
        handleKeyCatalog b P h (catalogRequest cursor) w = reply b P h .ok (p.pagePayload cursor) w) ∧
    (∀ cursor, (entryList (p.page cursor)).length ≤ tlvMaxBytes ∧
      (p.pagePayload cursor).length ≤ maxPayload) ∧
    (∃ pages, Pages p 0 pages ∧ pages.flatten = p.keys.mapIdx catalogEntry) ∧
    ((p.keys.map Prod.fst).Nodup → (∀ key ∈ p.keys, key.1 ≠ 0) →
      (∀ key ∈ p.keys, WellFormed (key.2.take 32)) →
      ∀ (ask : List UInt8 → Option (Nat × List UInt8)) (device : Option KnownDevice),
        (∀ cursor < p.keys.length, ask (catalogRequest cursor) = some (0, p.pagePayload cursor)) →
        (∀ d, device = some d → d.state = 5 →
          d.catalogRevision = p.catalogRevision.toNat ∧ d.keyCount = p.keys.length) →
        ∃ defs, keyCatalog ask device = some defs ∧
          defs.map (fun d => (d.slot, d.keyId, some d.name)) =
            p.keys.mapIdx fun i key => (i, key.1.toNat, decode? (key.2.take 32))) := by
  refine ⟨fun h w hready hp cursor hlt => handleKeyCatalog_page b P hready hp hle hlt, fun cursor => ?_, ?_, ?_⟩
  · have hlist := p.length_entryList cursor
    have hpayload := p.length_pagePayload cursor
    exact ⟨Nat.le_trans hlist (by decide), Nat.le_trans hpayload (by decide)⟩
  · obtain ⟨pages, hpages, hflat⟩ := exists_pages hle hpos
    refine ⟨pages, hpages, hflat.trans ?_⟩
    unfold DeviceProfile.entriesFrom
    simp only [List.drop_zero, Nat.zero_add]
  · intro hdistinct hnonzero hnames ask device hask hdevice
    have hp : ReadableCatalog p := ⟨hpos, hle, hdistinct, hnonzero, hnames⟩
    have hloop := hp.loop device hask 0 none hpos (fun h => nomatch h)
    have hresult : (({} : CatalogScan).keys 0 p.keys).result =
        p.keys.mapIdx fun i key => ⟨i, key.1.toNat, sentName key⟩ := by
      rw [CatalogScan.result_keys]
      simp only [Nat.zero_add]
      rfl
    refine ⟨p.keys.mapIdx fun i key => ⟨i, key.1.toNat, sentName key⟩, hloop.trans ?_, ?_⟩
    · -- the client wants the slots to be numbered through
      have hslots : (p.keys.mapIdx fun i key => (⟨i, key.1.toNat, sentName key⟩ : KeyDef)).map KeyDef.slot =
          List.range p.keys.length := by
        refine List.ext_getElem (by simp) fun i hi hi' => ?_
        simp
      unfold catalogDone
      rw [hresult, List.length_mapIdx, if_neg (fun h => h hslots), if_neg]
      rw [Option.any_eq_true]
      rintro ⟨d, hd, hwrong⟩
      rw [Bool.and_eq_true, beq_iff_eq, Bool.or_eq_true, bne_iff_ne, bne_iff_ne] at hwrong
      obtain ⟨hrevision, hcount⟩ := hdevice d hd hwrong.1
      rcases hwrong.2 with hne | hne
      · exact hne hrevision.symm
      · exact hne hcount.symm
    · refine List.ext_getElem (by simp) fun i hi hi' => ?_
      have hlt : i < p.keys.length := by simpa using hi'
      have hmem : p.keys[i] ∈ p.keys := List.getElem_mem _
      simp [decode?_sentName (hnames _ hmem)]

/-- A profile with 13 keys, which take two pages. -/
def twoPages : DeviceProfile :=
  { modelId := [], displayName := [], catalogRevision := 1,
    keys := (List.range 13).map fun i => (UInt16.ofNat (i + 1), [UInt8.ofNat (i + 65)]) }

open Python in
theorem keyCatalog_complete_twoPages :
    (∃ pages, Pages twoPages 0 pages ∧ pages.flatten = twoPages.keys.mapIdx catalogEntry) ∧
      ∃ defs, keyCatalog
          (fun request => some (0, twoPages.pagePayload (request.getD 4 0).toNat)) (some ⟨5, 1, 13⟩) = some defs ∧
        defs.map (fun d => (d.slot, d.keyId, some d.name)) =
          twoPages.keys.mapIdx fun i key => (i, key.1.toNat, decode? (key.2.take 32)) := by
  obtain ⟨-, -, hpages, hclient⟩ :=
    keyCatalog_complete Build.default silentPlatform twoPages (by decide) (by decide)
  refine ⟨hpages, hclient (by decide) (by decide) ?_ _ _ ?_ ?_⟩
  · have hascii : ∀ i < 13, [Char.ofNat (i + 65)].flatMap String.utf8EncodeChar = [UInt8.ofNat (i + 65)] := by
      decide
    intro key hkey
    obtain ⟨i, hi, rfl⟩ := List.mem_map.mp hkey
    exact ⟨[Char.ofNat (i + 65)], hascii i (List.mem_range.mp hi)⟩
  · intro cursor hlt
    have hlt : cursor < 13 := hlt
    by_cases hzero : cursor = 0
    · rw [hzero]
      rfl
    · rw [catalogRequest_eq hzero]
      have hbyte : (UInt8.ofNat cursor).toNat = cursor := UInt8.toNat_ofNat_of_lt' (Nat.lt_trans hlt (by decide))
      simp [hbyte]
  · rintro d hd -
    obtain rfl := Option.some.inj hd
    decide

end RemoteBridge
