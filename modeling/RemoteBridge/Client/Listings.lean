import RemoteBridge.Client.AudioStream

/-!
# The lists that the Python client fetches

`key_catalog` and `find_list` of `client.py`, with the part of `validate_response` of `schema.py` that
every reply with a list passes first.  A list is a count and then the entries, each a few fixed bytes, the
last of them the length of a name, and the name.

A request is its payload, and what comes back is the status and the payload of the reply; `none` stands
for every exception.
-/

namespace RemoteBridge.Python

open Utf8

/-! ## `validate_response` -/

/-- `ERROR`. -/
def errorFields : List Field := [⟨1, 6, false⟩, ⟨2, 5, false⟩, ⟨3, 7, false⟩]

/-- `RESPONSES[OP_KEY_CATALOG]`. -/
def keyCatalogFields : List Field := [⟨1, 3, true⟩, ⟨2, 1, true⟩, ⟨3, 7, true⟩]

/-- `RESPONSES[OP_FIND_LIST]`. -/
def findListFields : List Field := [⟨1, 1, true⟩, ⟨2, 7, true⟩]

/-- Whether `count` entries with `head` bytes before the name take up all the bytes. -/
def entriesValid (head : Nat) : Nat → List UInt8 → Bool
  | 0, rest => rest.isEmpty
  | count + 1, rest =>
    if rest.length < head then false
    else
      let length := (rest.getD (head - 1) 0).toNat
      if length > 48 ∨ head + length > rest.length then false
      else if (decode? ((rest.drop head).take length)).isNone then false
      else entriesValid head count (rest.drop (head + length))

/-- `validate_response` of a reply with a list in the field `tag`. -/
def validateListing (fields : List Field) (tag : UInt8) (maximum head : Nat) (status : Nat)
    (payload : List UInt8) : Option (List (UInt8 × PyTlvValue)) :=
  if status ≥ 2 then (schemaParse errorFields payload).toOption
  else if status ≠ 0 then none
  else
    match schemaParse fields payload with
    | .error _ => none
    | .ok t =>
      match bytesAt t tag with
      | [] => none
      | count :: rest =>
        if count.toNat > maximum then none
        else if entriesValid head count.toNat rest then some t
        else none

/-! ## `key_catalog` -/

structure KeyDef where
  slot : Nat
  keyId : Nat
  name : String
  deriving DecidableEq, Repr

/-- The entries so far. -/
structure CatalogScan where
  result : List KeyDef := []
  seenSlots : List Nat := []
  seenIds : List Nat := []

/-- The loop over the entries of a page. -/
def catalogEntries : Nat → List UInt8 → CatalogScan → Option CatalogScan
  | 0, rest, s => if rest = [] then some s else none
  | count + 1, slot :: id0 :: id1 :: length :: rest, s =>
    let keyId := id0.toNat + 256 * id1.toNat
    if slot.toNat ≥ 64 ∨ slot.toNat ∈ s.seenSlots ∨ keyId ∈ s.seenIds ∨ keyId = 0 ∨ length.toNat > 48 ∨
        length.toNat > rest.length then none
    else
      match decode? (rest.take length.toNat) with
      | none => none
      | some name =>
        catalogEntries count (rest.drop length.toNat)
          { result := s.result ++ [⟨slot.toNat, keyId, name⟩]
            seenSlots := slot.toNat :: s.seenSlots
            seenIds := keyId :: s.seenIds }
  | _ + 1, _, _ => none

/-- What the checks read of `self.device`. -/
structure KnownDevice where
  state : Nat
  catalogRevision : Nat
  keyCount : Nat
  deriving DecidableEq, Repr

/-- The request for a page. -/
def catalogRequest (cursor : Nat) : List UInt8 := if cursor = 0 then [] else tlvPutU8 1 (UInt8.ofNat cursor) []

/-- What the loop does with one page: the revision, the next cursor, and the entries so far. -/
def catalogPage (ask : List UInt8 → Option (Nat × List UInt8)) (cursor : Nat) (revision : Option Nat)
    (s : CatalogScan) : Option (Nat × Nat × CatalogScan) :=
  match ask (catalogRequest cursor) with
  | none => none
  | some (status, payload) =>
    if status ≠ 0 ∧ status ≠ 1 then none
    else
      match validateListing keyCatalogFields 3 64 4 status payload with
      | none => none
      | some t =>
        if revision.isSome ∧ revision ≠ some (intAt t 1) then none
        else
          match bytesAt t 3 with
          | [] => none
          | count :: rest =>
            if count.toNat > 64 then none
            else (catalogEntries count.toNat rest s).map fun s => (intAt t 1, intAt t 2, s)

/-- The checks behind the loop. -/
def catalogDone (device : Option KnownDevice) (revision : Nat) (s : CatalogScan) : Option (List KeyDef) :=
  if s.result.map KeyDef.slot ≠ List.range s.result.length then none
  else if device.any fun d =>
      d.state == 5 && (revision != d.catalogRevision || s.result.length != d.keyCount) then none
  else some s.result

/-- The loop of `key_catalog`; the cursor grows and stays below 64. -/
def keyCatalogLoop (ask : List UInt8 → Option (Nat × List UInt8)) (device : Option KnownDevice)
    (cursor : Nat) (revision : Option Nat) (s : CatalogScan) : Option (List KeyDef) :=
  match catalogPage ask cursor revision s with
  | none => none
  | some (revision, next, s) =>
    if next = 255 then catalogDone device revision s
    else if cursor < next ∧ next < 64 then keyCatalogLoop ask device next (some revision) s
    else none
termination_by 64 - cursor

/-- `key_catalog`; `ask` is the request with the check that the connection is still the same. -/
def keyCatalog (ask : List UInt8 → Option (Nat × List UInt8)) (device : Option KnownDevice) :
    Option (List KeyDef) :=
  keyCatalogLoop ask device 0 none {}

/-! ## `find_list` -/

structure FoundCandidate where
  candidateId : Nat
  support : Nat
  signal : Nat
  name : String
  deriving DecidableEq, Repr

/-- The loop over the entries. -/
def candidateEntries : Nat → List UInt8 → Option (List FoundCandidate)
  | 0, rest => if rest = [] then some [] else none
  | count + 1, i0 :: i1 :: i2 :: i3 :: support :: signal :: length :: rest =>
    let id := leNat [i0, i1, i2, i3]
    if length.toNat > 48 ∨ length.toNat > rest.length ∨ id = 0 ∨ support.toNat > 2 then none
    else
      match decode? (rest.take length.toNat) with
      | none => none
      | some name =>
        (candidateEntries count (rest.drop length.toNat)).map
          (⟨id, support.toNat, signal.toNat, name⟩ :: ·)
  | _ + 1, _ => none

/-- `find_list`: the next cursor and the candidates. -/
def findList (ask : List UInt8 → Option (Nat × List UInt8)) (searchId cursor : Nat) :
    Option (Nat × List FoundCandidate) :=
  match ask (tlvPutU8 2 (UInt8.ofNat cursor) (tlvPutU32 1 (UInt32.ofNat searchId) [])) with
  | none => none
  | some (status, payload) =>
    if status ≠ 0 ∧ status ≠ 1 then none
    else
      match validateListing findListFields 2 8 7 status payload with
      | none => none
      | some t =>
        match bytesAt t 2 with
        | [] => none
        | count :: rest =>
          if count.toNat > 8 then none
          else (candidateEntries count.toNat rest).map fun entries => (intAt t 1, entries)

/-! ## Reading what the server writes -/

/-- The bytes of a field, as the loop takes them apart. -/
lemma tlvField_append (tag : UInt8) (type : TlvType) {v : List UInt8} (hlen : v.length < 65536)
    (rest : List UInt8) :
    tlvField tag type v ++ rest = tag :: type.code :: UInt8.ofNat v.length ::
      UInt8.ofNat (v.length / 256) :: (v ++ rest) ∧
    (UInt8.ofNat v.length).toNat + 256 * (UInt8.ofNat (v.length / 256)).toNat = v.length := by
  have hput : put16 (UInt16.ofNat v.length) = [UInt8.ofNat v.length, UInt8.ofNat (v.length / 256)] := by
    have hnat : (UInt16.ofNat v.length).toNat = v.length := UInt16.toNat_ofNat_of_lt' hlen
    rw [put16, hnat]
    rfl
  refine ⟨?_, ?_⟩
  · unfold tlvField
    rw [hput]
    simp
  · rw [UInt8.toNat_ofNat', UInt8.toNat_ofNat']
    omega

/-- A field of a payload is read by its row in the table. -/
lemma schemaLoop_field {fields : List Field} {fuel : Nat} {seen rest v : List UInt8} {tag : UInt8}
    {type : TlvType} {f : Field} {value : PyTlvValue} (hlen : v.length < 65536) (hseen : tag ∉ seen)
    (hfind : fields.find? (fun f => f.tag == tag) = some f) (htype : type.code = f.type)
    (hvalue : pyScalar type.code v = some value) :
    schemaLoop fields (fuel + 1) seen (tlvField tag type v ++ rest) =
      (schemaLoop fields fuel (tag :: seen) rest).map ((tag, value) :: ·) := by
  obtain ⟨hbytes, hlength⟩ := tlvField_append tag type hlen rest
  rw [hbytes, schemaLoop, hlength, if_neg (by rw [List.length_append]; omega), if_neg hseen, hfind,
    List.take_left, List.drop_left]
  simp only [htype, ne_eq, not_true_eq_false, if_false]
  rw [← htype, hvalue]

/-- A field that was read is new, and has its value unless the table has no row for it. -/
lemma schemaLoop_read {fields : List Field} {fuel : Nat} {seen rest v : List UInt8} {tag : UInt8}
    {type : TlvType} {t : List (UInt8 × PyTlvValue)} (hlen : v.length < 65536)
    (h : schemaLoop fields fuel seen (tlvField tag type v ++ rest) = some t) :
    tag ∉ seen ∧ ∃ fuel',
      (fields.find? (fun f => f.tag == tag) = none ∧ schemaLoop fields fuel' (tag :: seen) rest = some t) ∨
      ∃ value t', pyScalar type.code v = some value ∧
        schemaLoop fields fuel' (tag :: seen) rest = some t' ∧ t = (tag, value) :: t' := by
  obtain ⟨hbytes, hlength⟩ := tlvField_append tag type hlen rest
  rw [hbytes] at h
  cases fuel with
  | zero =>
    unfold schemaLoop at h
    cases h
  | succ fuel =>
    rw [schemaLoop, hlength, if_neg (by rw [List.length_append]; omega), List.take_left,
      List.drop_left] at h
    split at h
    · cases h
    · next hseen =>
      refine ⟨hseen, fuel, ?_⟩
      split at h
      · next hfind => exact .inl ⟨hfind, h⟩
      · split at h
        · cases h
        · split at h
          · cases h
          · next value hvalue =>
            obtain ⟨t', hloop, rfl⟩ := Option.map_eq_some_iff.mp h
            exact .inr ⟨value, t', hvalue, hloop, rfl⟩

lemma schemaLoop_nil (fields : List Field) (fuel : Nat) (seen : List UInt8) :
    schemaLoop fields fuel seen [] = some [] := by
  cases fuel <;> rfl

lemma pyScalar_u8 (v : UInt8) : pyScalar TlvType.u8.code [v] = some (.int v.toNat) := by
  simp [pyScalar, TlvType.code, leNat]

lemma pyScalar_u32 (v : UInt32) : pyScalar TlvType.u32.code (put32 v) = some (.int v.toNat) := by
  have hlen : (put32 v).length = 4 := length_put32 v
  have hnat : leNat (put32 v) = v.toNat := leNat_leBytes_of_lt v.toNat_lt
  simp [pyScalar, TlvType.code, hlen, hnat]

lemma pyScalar_bytes {v : List UInt8} (hlen : v.length ≤ 480) :
    pyScalar TlvType.bytes.code v = some (.bytes v) := by
  simp [pyScalar, TlvType.code, hlen]

end RemoteBridge.Python
