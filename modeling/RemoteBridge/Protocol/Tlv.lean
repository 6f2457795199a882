import RemoteBridge.Framework.Bytes
import RemoteBridge.Protocol.Frame

/-!
# TLV fields

The flat codec of `rbp_tlv.c`: `tag | type | length | value`.  A writer is the list of bytes written so
far; a field that does not fit is dropped, as in the source (whose `overflow` flag and tag-order check
are not read by the server and are left out).  The reader walks the whole message before it answers,
so that a malformed or duplicated field anywhere rejects every getter.
-/

namespace RemoteBridge

/-- The value types of `defs.h`. -/
inductive TlvType where
  | u8
  | u16
  | u32
  | u64
  | bool
  | text
  | bytes
  deriving DecidableEq, Repr

def TlvType.code : TlvType → UInt8
  | .u8 => 1
  | .u16 => 2
  | .u32 => 3
  | .u64 => 4
  | .bool => 5
  | .text => 6
  | .bytes => 7

def tlvMaxText : Nat := 96

def tlvMaxBytes : Nat := 480

/-! ## Writer -/

/-- One encoded field. -/
def tlvField (tag : UInt8) (type : TlvType) (v : List UInt8) : List UInt8 :=
  [tag, type.code] ++ put16 (UInt16.ofNat v.length) ++ v

/-- `w_put`. -/
def tlvPut (tag : UInt8) (type : TlvType) (v : List UInt8) (w : List UInt8) : List UInt8 :=
  if w.length + 4 + v.length > maxPayload then w else w ++ tlvField tag type v

def tlvPutU8 (tag v : UInt8) : List UInt8 → List UInt8 := tlvPut tag .u8 [v]

def tlvPutU16 (tag : UInt8) (v : UInt16) : List UInt8 → List UInt8 := tlvPut tag .u16 (put16 v)

def tlvPutU32 (tag : UInt8) (v : UInt32) : List UInt8 → List UInt8 := tlvPut tag .u32 (put32 v)

def tlvPutU64 (tag : UInt8) (v : UInt64) : List UInt8 → List UInt8 := tlvPut tag .u64 (put64 v)

def tlvPutBool (tag : UInt8) (v : Bool) : List UInt8 → List UInt8 :=
  tlvPut tag .bool [if v then 1 else 0]

/-- `rbp_tlv_put_text`; the argument is the text before its NUL. -/
def tlvPutText (tag : UInt8) (text : List UInt8) (w : List UInt8) : List UInt8 :=
  if text.length > tlvMaxText then w else tlvPut tag .text text w

def tlvPutBytes (tag : UInt8) (v : List UInt8) (w : List UInt8) : List UInt8 :=
  if v.length > tlvMaxBytes then w else tlvPut tag .bytes v w

/-- The writer never exceeds its buffer. -/
lemma length_tlvPut_le {tag : UInt8} {type : TlvType} {v w : List UInt8}
    (hw : w.length ≤ maxPayload) : (tlvPut tag type v w).length ≤ maxPayload := by
  unfold tlvPut
  split
  · exact hw
  · next hfits =>
    simp only [tlvField, List.length_append, List.length_cons, List.length_nil, length_put16]
    omega

lemma length_tlvPutBytes_le {tag : UInt8} {v w : List UInt8} (hw : w.length ≤ maxPayload) :
    (tlvPutBytes tag v w).length ≤ maxPayload := by
  unfold tlvPutBytes
  split
  · exact hw
  · exact length_tlvPut_le hw

/-! ## Reader -/

inductive TlvErr where
  | malformed
  | duplicate
  | type
  | value
  deriving DecidableEq, Repr

/-- A field as `rbp_tlv_next` returns it; the type is not checked yet. -/
structure TlvEntry where
  tag : UInt8
  type : UInt8
  value : List UInt8
  deriving DecidableEq, Repr

/-- The fields of a message, by repeated `rbp_tlv_next`.  Every field takes at least four bytes, so
`fuel` is the length of the message. -/
def tlvEntries : Nat → List UInt8 → List UInt8 → Except TlvErr (List TlvEntry)
  | _, _, [] => .ok []
  | fuel + 1, seen, tag :: type :: l0 :: l1 :: rest =>
    let len := l0.toNat + 256 * l1.toNat
    if rest.length < len then .error .malformed
    else if tag ∈ seen then .error .duplicate
    else
      match tlvEntries fuel (tag :: seen) (rest.drop len) with
      | .error e => .error e
      | .ok entries => .ok ({ tag := tag, type := type, value := rest.take len } :: entries)
  | _, _, _ => .error .malformed

/-- The envelope check of `dispatch_request`, and the walk of `scan`. -/
def tlvScan (payload : List UInt8) : Except TlvErr (List TlvEntry) :=
  tlvEntries payload.length [] payload

/-- `get_fixed`; `wantLen` is 0 where any length will do. -/
def tlvGetFixed (payload : List UInt8) (tag : UInt8) (type : TlvType) (wantLen : Nat) :
    Except TlvErr (Option (List UInt8)) :=
  match tlvScan payload with
  | .error e => .error e
  | .ok entries =>
    match entries.find? (·.tag == tag) with
    | none => .ok none
    | some entry =>
      if entry.type != type.code || (wantLen != 0 && entry.value.length != wantLen) then .error .type
      else .ok (some entry.value)

def tlvGetU8 (payload : List UInt8) (tag : UInt8) : Except TlvErr (Option UInt8) :=
  (tlvGetFixed payload tag .u8 1).map (·.map (·.getD 0 0))

def tlvGetU16 (payload : List UInt8) (tag : UInt8) : Except TlvErr (Option UInt16) :=
  (tlvGetFixed payload tag .u16 2).map (·.map (get16 · 0))

def tlvGetU32 (payload : List UInt8) (tag : UInt8) : Except TlvErr (Option UInt32) :=
  (tlvGetFixed payload tag .u32 4).map (·.map (get32 · 0))

def tlvGetBool (payload : List UInt8) (tag : UInt8) : Except TlvErr (Option Bool) :=
  match tlvGetFixed payload tag .bool 1 with
  | .error e => .error e
  | .ok none => .ok none
  | .ok (some v) => if v.getD 0 0 > 1 then .error .value else .ok (some (v.getD 0 0 != 0))

def tlvGetBytes (payload : List UInt8) (tag : UInt8) : Except TlvErr (Option (List UInt8)) :=
  match tlvGetFixed payload tag .bytes 0 with
  | .error e => .error e
  | .ok none => .ok none
  | .ok (some v) => if v.length > tlvMaxBytes then .error .value else .ok (some v)

/-- The value of a required field; a decoding error counts as absent. -/
def required {α : Type} : Except TlvErr (Option α) → Option α
  | .ok v => v
  | .error _ => none

end RemoteBridge
