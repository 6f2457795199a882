import RemoteBridge.Protocol.Text
import RemoteBridge.Protocol.Tlv

/-!
# The TLV codec in full, and its two other readers

`Tlv` holds what the server uses of `rbp_tlv.c`.  Here is the rest: the writer with the `overflow` flag
that the callers outside the server read, the reader with its bit set of tags, the getters for texts and
64-bit numbers, and the readers of the Python and the .NET client.
-/

namespace RemoteBridge

open Utf8

/-! ## Writer -/

/-- `rbp_tlv_writer_t`. -/
structure TlvWriter where
  buf : List UInt8 := []
  overflow : Bool := false
  lastTag : Int := -1
  deriving DecidableEq, Repr

namespace TlvWriter

/-- `w_put`.  A tag out of order is written all the same. -/
def put (tag : UInt8) (type : TlvType) (v : List UInt8) (w : TlvWriter) : TlvWriter :=
  let w := { w with overflow := w.overflow || decide (w.lastTag ≥ tag.toNat), lastTag := tag.toNat }
  if w.buf.length + 4 + v.length > maxPayload then { w with overflow := true }
  else { w with buf := tlvPut tag type v w.buf }

def putU8 (tag v : UInt8) : TlvWriter → TlvWriter := put tag .u8 [v]

def putU16 (tag : UInt8) (v : UInt16) : TlvWriter → TlvWriter := put tag .u16 (put16 v)

def putU32 (tag : UInt8) (v : UInt32) : TlvWriter → TlvWriter := put tag .u32 (put32 v)

def putU64 (tag : UInt8) (v : UInt64) : TlvWriter → TlvWriter := put tag .u64 (put64 v)

def putBool (tag : UInt8) (v : Bool) : TlvWriter → TlvWriter := put tag .bool [if v then 1 else 0]

/-- `rbp_tlv_put_text`; the argument is the text before its NUL. -/
def putText (tag : UInt8) (text : List UInt8) (w : TlvWriter) : TlvWriter :=
  if text.length > tlvMaxText then { w with overflow := true } else put tag .text text w

def putBytes (tag : UInt8) (v : List UInt8) (w : TlvWriter) : TlvWriter :=
  if v.length > tlvMaxBytes then { w with overflow := true } else put tag .bytes v w

end TlvWriter

/-! ## Reader -/

/-- `rbp_tlv_reader_t`; `seenTags` has 32 bytes, of which `seenTags i` is the one at `i`. -/
structure TlvReader where
  buf : List UInt8
  pos : Nat
  seenTags : Nat → UInt8
  valid : Bool

namespace TlvReader

/-- `rbp_tlv_reader_init`. -/
def init (buf : List UInt8) : TlvReader := { buf, pos := 0, seenTags := fun _ => 0, valid := true }

def seen (r : TlvReader) (t : UInt8) : Bool := r.seenTags (t >>> 3).toNat &&& (1 <<< (t &&& 7)) != 0

def mark (r : TlvReader) (t : UInt8) : TlvReader :=
  { r with
    seenTags := fun i =>
      if i = (t >>> 3).toNat then r.seenTags i ||| (1 <<< (t &&& 7)) else r.seenTags i }

/-- `rbp_tlv_next`. -/
def next (r : TlvReader) : Except TlvErr TlvEntry × TlvReader :=
  if !r.valid then (.error .malformed, r)
  else if r.pos = r.buf.length then (.error .malformed, r)
  else if r.buf.length - r.pos < 4 then (.error .malformed, { r with valid := false })
  else
    let t := r.buf.getD r.pos 0
    let type := r.buf.getD (r.pos + 1) 0
    let l := (r.buf.getD (r.pos + 2) 0).toNat + 256 * (r.buf.getD (r.pos + 3) 0).toNat
    if r.buf.length - r.pos - 4 < l then (.error .malformed, { r with valid := false })
    else if r.seen t then (.error .duplicate, { r with valid := false })
    else
      let r := r.mark t
      let r := { r with pos := r.pos + 4 + l }
      (.ok { tag := t, type := type, value := (r.buf.drop (r.pos - l)).take l }, r)

/-- Iterating `rbp_tlv_next` to the end, as the callers do; every entry takes four bytes at least, so
`fuel` is the length. -/
def walk : Nat → TlvReader → Except TlvErr (List TlvEntry)
  | 0, r => if r.pos < r.buf.length then .error .malformed else .ok []
  | fuel + 1, r =>
    if r.pos < r.buf.length then
      match r.next with
      | (.error e, _) => .error e
      | (.ok entry, r) =>
        match walk fuel r with
        | .error e => .error e
        | .ok entries => .ok (entry :: entries)
    else .ok []

end TlvReader

def tlvGetU64 (payload : List UInt8) (tag : UInt8) : Except TlvErr (Option UInt64) :=
  (tlvGetFixed payload tag .u64 8).map (·.map (get64 · 0))

def tlvGetText (payload : List UInt8) (tag : UInt8) : Except TlvErr (Option (List UInt8)) :=
  match tlvGetFixed payload tag .text 0 with
  | .error e => .error e
  | .ok none => .ok none
  | .ok (some v) =>
    if v.length > tlvMaxText then .error .value
    else if v.length > 0 ∧ utf8Valid v = false then .error .value
    else .ok (some v)

/-! ## `parse_tlv` of the Python client -/

/-- What `TlvError` reports. -/
inductive PyTlvError where
  | header
  | bounds
  | duplicate
  | scalar (tag type : UInt8) (length : Nat)
  deriving DecidableEq, Repr

/-- A value of the dictionary. -/
inductive PyTlvValue where
  | int (v : Nat)
  | bool (v : Bool)
  | str (v : String)
  | bytes (v : List UInt8)
  | raw (type : UInt8) (v : List UInt8)
  deriving DecidableEq, Repr

def pyValidateUtf8 (raw : List UInt8) : Bool :=
  match decode? raw with
  | none => false
  | some s => decide ('\x00' ∉ s.toList)

/-- The value of one entry, or none where it has no typed form. -/
def pyScalar (type : UInt8) (value : List UInt8) : Option PyTlvValue :=
  if type = 1 ∧ value.length = 1 then some (.int (leNat value))
  else if type = 2 ∧ value.length = 2 then some (.int (leNat value))
  else if type = 3 ∧ value.length = 4 then some (.int (leNat value))
  else if type = 4 ∧ value.length = 8 then some (.int (leNat value))
  else if type = 5 ∧ value.length = 1 ∧ value.getD 0 0 ≤ 1 then some (.bool (value.getD 0 0 != 0))
  else if type = 6 ∧ value.length ≤ 96 ∧ pyValidateUtf8 value = true then (decode? value).map .str
  else if type = 7 ∧ value.length ≤ 480 then some (.bytes value)
  else none

/-- The loop of `parse_tlv` without a schema; the dictionary keeps the order of insertion. -/
def pyParseLoop (strictScalars : Bool) :
    Nat → List UInt8 → List UInt8 → Except PyTlvError (List (UInt8 × PyTlvValue))
  | _, _, [] => .ok []
  | fuel + 1, seen, tag :: type :: l0 :: l1 :: rest =>
    let length := l0.toNat + 256 * l1.toNat
    if rest.length < length then .error .bounds
    else if tag ∈ seen then .error .duplicate
    else
      match (pyScalar type (rest.take length)).orElse
          (fun _ => if strictScalars then none else some (.raw type (rest.take length))) with
      | none => .error (.scalar tag type length)
      | some value =>
        match pyParseLoop strictScalars fuel (tag :: seen) (rest.drop length) with
        | .error e => .error e
        | .ok out => .ok ((tag, value) :: out)
  | _, _, _ => .error .header

def pyParseTlv (buf : List UInt8) (strictScalars : Bool) : Except PyTlvError (List (UInt8 × PyTlvValue)) :=
  pyParseLoop strictScalars buf.length [] buf

/-! ## `Tlv.Parse` of the .NET client -/

/-- What `InvalidDataException` reports; a text that does not decode throws out of the decoder. -/
inductive NetTlvError where
  | header
  | boundsDuplicate
  | value
  | decoder
  deriving DecidableEq, Repr

/-- The `valid` of `Tlv.Parse` without a schema. -/
def netValid (type : UInt8) (v : List UInt8) : Bool :=
  match type.toNat with
  | 1 => v.length == 1
  | 2 => v.length == 2
  | 3 => v.length == 4
  | 4 => v.length == 8
  | 5 => v.length == 1 && v.getD 0 0 ≤ 1
  | 6 => v.length ≤ 96 && !v.contains 0
  | 7 => v.length ≤ 480
  | _ => true

def netParseLoop : Nat → List UInt8 → List UInt8 → Except NetTlvError (List TlvEntry)
  | _, _, [] => .ok []
  | fuel + 1, seen, tag :: type :: l0 :: l1 :: rest =>
    let n := l0.toNat + 256 * l1.toNat
    if rest.length < n ∨ tag ∈ seen then .error .boundsDuplicate
    else if netValid type (rest.take n) = false then .error .value
    else if type = 6 ∧ decode? (rest.take n) = none then .error .decoder
    else
      match netParseLoop fuel (tag :: seen) (rest.drop n) with
      | .error e => .error e
      | .ok items => .ok ({ tag := tag, type := type, value := rest.take n } :: items)
  | _, _, _ => .error .header

def netParse (data : List UInt8) : Except NetTlvError (List TlvEntry) :=
  netParseLoop data.length [] data

end RemoteBridge
