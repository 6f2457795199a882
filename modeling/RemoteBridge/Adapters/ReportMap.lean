import RemoteBridge.Framework.Bytes
import RemoteBridge.Framework.HidReport

/-!
# The report map parser

`hogp_report_map_parse` and `hogp_decode_report` of `report_map.c`.  The parser walks the short items of
a descriptor and rejects whatever it does not support.  It keeps one record for each report id and one
field for each variable element or array; the decoder reads the fields of one report.

The checks of the parser keep every field within the integer types of its C structure, so the records
hold plain numbers.
-/

namespace RemoteBridge

def hogpMaxMapSize : Nat := 512

def hogpMaxInputReports : Nat := 8

def hogpMaxFields : Nat := 64

/-- `hogp_input_report_t`. -/
structure HogpInputReport where
  reportId : Nat
  usagePage : Nat
  bits : Nat := 0
  bytes : Nat := 0
  deriving DecidableEq, Repr

/-- `hogp_field_t`. -/
structure HogpField where
  offset : Nat
  page : Nat
  usageMin : Nat
  usageMax : Nat
  logicalMin : Nat := 0
  reportId : Nat
  size : Nat
  count : Nat
  isVariable : Bool := false
  deriving DecidableEq, Repr

/-- `hogp_report_map_t`; the counts are the lengths. -/
structure HogpReportMap where
  fields : List HogpField := []
  inputs : List HogpInputReport := []
  usesReportIds : Bool := false
  deriving DecidableEq, Repr

/-- The locals of `hogp_report_map_parse`; the stack has its top in front. -/
structure MapParser where
  out : HogpReportMap := {}
  g : HidGlobals := {}
  stack : List HidGlobals := []
  depth : Nat := 0
  usages : List Nat := []
  umin : Nat := 0
  umax : Nat := 0
  haveMin : Bool := false
  haveMax : Bool := false
  deriving DecidableEq, Repr

/-! ## Items -/

/-- One short item from its first byte on; `none` for a long item and for one that is cut off. -/
def readItem (first : UInt8) (d : List UInt8) : Option (HidItem × List UInt8) :=
  let n := if (first &&& 3).toNat = 3 then 4 else (first &&& 3).toNat
  if first = 0xfe then none
  else if d.length < n then none
  else
    some ({ kind := ((first >>> 2) &&& 3).toNat, tag := (first >>> 4).toNat, size := n,
            value := leNat (d.take n) }, d.drop n)

namespace MapParser

/-- The items of type 1. -/
def globalItem (it : HidItem) (p : MapParser) : Option MapParser :=
  match it.tag with
  | 0 => if it.value > 65535 then none else some { p with g := { p.g with page := it.value } }
  | 1 => some { p with g := { p.g with lmin := it.value } }
  | 2 => some { p with g := { p.g with lmax := it.value } }
  | 7 => some { p with g := { p.g with size := it.value } }
  | 8 =>
    if it.value = 0 ∨ it.value > 255 then none
    else some { p with g := { p.g with id := it.value }, out := { p.out with usesReportIds := true } }
  | 9 => some { p with g := { p.g with count := it.value } }
  | 10 => if p.stack.length = 4 then none else some { p with stack := p.g :: p.stack }
  | 11 => if p.stack = [] then none else some { p with g := p.stack.headD p.g, stack := p.stack.tail }
  | _ => some p

/-- The items of type 2. -/
def localItem (it : HidItem) (p : MapParser) : Option MapParser :=
  match it.tag with
  | 0 =>
    if p.usages.length = 32 then none else some { p with usages := p.usages ++ [it.usage p.g] }
  | 1 => some { p with umin := it.usage p.g, haveMin := true }
  | 2 => some { p with umax := it.usage p.g, haveMax := true }
  | 10 => none
  | _ => some p

/-- Whether an Input item is vendor data. -/
def vendor (p : MapParser) : Bool :=
  decide (p.g.page ≥ 0xff00) && !(p.haveMin && decide (p.umin >>> 16 < 0xff00)) &&
    p.usages.all fun u => !decide (u >>> 16 < 0xff00)

/-- The usage of the `j`-th variable element. -/
def usage (j : Nat) (p : MapParser) : Nat :=
  if p.usages.length ≠ 0 then p.usages.getD (if j < p.usages.length then j else p.usages.length - 1) 0
  else p.umin + if j ≤ p.umax - p.umin then j else p.umax - p.umin

end MapParser

/-- The report of an id; a new one as long as there is room.  The ids of the reports differ. -/
def HogpReportMap.report (g : HidGlobals) (out : HogpReportMap) :
    Option (HogpInputReport × HogpReportMap) :=
  match out.inputs.find? (·.reportId = g.id) with
  | some r => some (r, out)
  | none =>
    if out.inputs.length = hogpMaxInputReports then none
    else
      let r : HogpInputReport := { reportId := g.id, usagePage := g.page }
      some (r, { out with inputs := out.inputs ++ [r] })

/-- The report has grown up to bit `last`. -/
def HogpReportMap.grow (id last : Nat) (out : HogpReportMap) : HogpReportMap :=
  { out with inputs := out.inputs.map fun r =>
      if r.reportId = id then { r with bits := last, bytes := (last + 7) / 8 } else r }

def HogpReportMap.pushField (f : HogpField) (out : HogpReportMap) : Option HogpReportMap :=
  if out.fields.length = hogpMaxFields then none else some { out with fields := out.fields ++ [f] }

namespace MapParser

/-- The field of the `j`-th variable element. -/
def variableField (bits j : Nat) (p : MapParser) : HogpField :=
  { reportId := p.g.id, offset := bits + j * p.g.size, size := p.g.size, count := 1,
    page := p.usage j >>> 16, usageMin := p.usage j &&& 65535, usageMax := p.usage j &&& 65535,
    isVariable := true }

def arrayField (bits : Nat) (p : MapParser) : HogpField :=
  { reportId := p.g.id, offset := bits, size := p.g.size, count := p.g.count, page := p.umin >>> 16,
    usageMin := p.umin &&& 65535, usageMax := p.umax &&& 65535, logicalMin := p.g.lmin }

/-- The fields of an Input item with flags `v`, from bit `bits` up to bit `last`. -/
def addFields (v bits last : Nat) (out : HogpReportMap) (p : MapParser) : Option HogpReportMap :=
  if last > 512 then none
  else if v &&& 0x104 ≠ 0 then none
  else if p.haveMin ≠ p.haveMax ∨
      (p.haveMin ∧ (p.umax < p.umin ∨ p.umax >>> 16 ≠ p.umin >>> 16)) then none
  else if v.testBit 1 then
    if p.usages.length = 0 ∧ !p.haveMin then none
    else (List.range p.g.count).foldlM (fun out j => out.pushField (p.variableField bits j)) out
  else if !p.haveMin ∨ p.g.lmin > 65535 ∨ p.g.lmax > 65535 ∨ p.g.lmax < p.g.lmin then none
  else out.pushField (p.arrayField bits)

/-- An Input item with flags `v`. -/
def inputItem (v : Nat) (p : MapParser) : Option MapParser :=
  if p.g.size = 0 ∨ p.g.size > 65535 ∨ p.g.count = 0 ∨ p.g.count > 65535 then none
  else if !p.vendor ∧ (p.g.size > 16 ∨ p.g.count > 64) then none
  else
    (p.out.report p.g).bind fun (r, out) =>
      if p.g.size * p.g.count > 65535 - r.bits then none
      else
        let last := r.bits + p.g.size * p.g.count
        let added := if !v.testBit 0 ∧ !p.vendor then p.addFields v r.bits last out else some out
        added.map fun out => { p with out := out.grow p.g.id last }

/-- The items of type 0; each of them ends the local state. -/
def mainItem (it : HidItem) (p : MapParser) : Option MapParser :=
  let done := match it.tag with
    | 10 => if p.depth + 1 > 16 then none else some { p with depth := p.depth + 1 }
    | 12 => if p.depth = 0 then none else some { p with depth := p.depth - 1 }
    | 8 => p.inputItem it.value
    | _ => some p
  done.map fun p => { p with usages := [], haveMin := false, haveMax := false }

/-- One item. -/
def step (p : MapParser) (it : HidItem) : Option MapParser :=
  match it.kind with
  | 0 => p.mainItem it
  | 1 => p.globalItem it
  | 2 => p.localItem it
  | _ => some p

/-- The loop; an item takes at least one byte, so the length of the descriptor is fuel enough. -/
def loop : Nat → List UInt8 → MapParser → Option MapParser
  | _, [], p => some p
  | 0, _ :: _, _ => none
  | fuel + 1, first :: d, p =>
    (readItem first d).bind fun (it, rest) => (p.step it).bind (loop fuel rest)

/-- An item leaves fewer bytes. -/
lemma length_readItem {first : UInt8} {d rest : List UInt8} {it : HidItem}
    (h : readItem first d = some (it, rest)) : rest.length ≤ d.length := by
  unfold readItem at h
  dsimp only at h
  generalize (if (first &&& 3).toNat = 3 then 4 else (first &&& 3).toNat) = n at h
  split at h
  · cases h
  · split at h
    · cases h
    · obtain ⟨-, rfl⟩ := Prod.mk.inj (Option.some.inj h)
      rw [List.length_drop]
      exact Nat.sub_le _ _

/-- The loop does not run out of fuel: any fuel from the length on gives the same result. -/
lemma loop_fuel {n m : Nat} {d : List UInt8} {p : MapParser} (hn : d.length ≤ n) (hm : d.length ≤ m) :
    p.loop n d = p.loop m d := by
  induction n generalizing m d p with
  | zero =>
    obtain rfl := List.length_eq_zero_iff.mp (Nat.le_zero.mp hn)
    cases m <;> rfl
  | succ n ih =>
    cases d with
    | nil => cases m <;> rfl
    | cons first d =>
      obtain ⟨m, rfl⟩ := Nat.exists_eq_succ_of_ne_zero (Nat.ne_of_gt (Nat.zero_lt_of_lt hm))
      unfold loop
      cases hread : readItem first d with
      | none => rfl
      | some read =>
        obtain ⟨it, rest⟩ := read
        have hrest := length_readItem hread
        rw [List.length_cons] at hn hm
        simp only [Option.bind_some]
        refine Option.bind_congr fun q _ => ih (by omega) (by omega)

/-- What follows the loop: only reports with a field are kept. -/
def finish (p : MapParser) : Option HogpReportMap :=
  if p.depth ≠ 0 ∨ p.stack ≠ [] ∨ p.out.inputs = [] then none
  else if p.out.usesReportIds ∧ p.out.inputs.any (·.reportId = 0) then none
  else
    let kept := p.out.inputs.filter fun r => p.out.fields.any (·.reportId = r.reportId)
    if kept.any (·.bits > 512) then none
    else if kept = [] then none
    else some { p.out with inputs := kept }

end MapParser

/-- `hogp_report_map_parse`. -/
def hogpReportMapParse (d : List UInt8) : Option HogpReportMap :=
  if d = [] ∨ d.length > hogpMaxMapSize then none
  else (MapParser.loop d.length d {}).bind MapParser.finish

/-- The items of a descriptor. -/
def readItems : Nat → List UInt8 → Option (List HidItem)
  | _, [] => some []
  | 0, _ :: _ => none
  | fuel + 1, first :: d =>
    (readItem first d).bind fun (it, rest) => (readItems fuel rest).map (it :: ·)

def hidItems (d : List UInt8) : Option (List HidItem) := readItems d.length d

/-! ## Decoding -/

/-- `hogp_usage_to_key`. -/
def hogpUsageToKey (usagePage usage : Nat) : Nat :=
  match usagePage, usage with
  | 0x07, 0x4f => 0x0006
  | 0x07, 0x50 => 0x0005
  | 0x07, 0x51 => 0x0004
  | 0x07, 0x52 => 0x0003
  | 0x07, 0x28 => 0x0007
  | 0x07, 0x29 => 0x0008
  | 0x07, 0x4a => 0x0009
  | 0x07, 0x65 => 0x000a
  | 0x07, 0x66 => 0x0001
  | 0x07, 0x80 => 0x000c
  | 0x07, 0x81 => 0x000d
  | 0x07, 0x3e => 0x0002
  | 0x07, 0xf1 => 0x0008
  | 0x07, 0x35 => 0x000b
  | 0x0c, 0x030 => 0x0001
  | 0x0c, 0x041 => 0x0007
  | 0x0c, 0x042 => 0x0003
  | 0x0c, 0x043 => 0x0004
  | 0x0c, 0x044 => 0x0005
  | 0x0c, 0x045 => 0x0006
  | 0x0c, 0x0cf => 0x0002
  | 0x0c, 0x0e9 => 0x000c
  | 0x0c, 0x0ea => 0x000d
  | 0x0c, 0x040 => 0x000a
  | 0x0c, 0x223 => 0x0009
  | 0x0c, 0x224 => 0x0008
  | _, _ => 0xffff

/-- A key that has a bit is set. -/
def pressKey (key : Nat) (keys : UInt64) : UInt64 :=
  if key ≠ 0xffff ∧ key < 64 ∧ key ≠ 0 then keys ||| (1 <<< UInt64.ofNat key) else keys

/-- `hogp_decode_boot_keyboard`. -/
def hogpDecodeBootKeyboard (data : List UInt8) : Option UInt64 :=
  if data.length ≠ 8 ∨ data.getD 1 0 ≠ 0 then none
  else
    (data.drop 2).foldlM (fun keys b =>
      if b.toNat ≥ 1 ∧ b.toNat ≤ 3 then none
      else some (pressKey (hogpUsageToKey 7 b.toNat) keys)) 0

namespace HogpField

/-- The value of the `j`-th element of a field. -/
def value (data : List UInt8) (j : Nat) (f : HogpField) : Nat :=
  dataValue data (f.offset + j * f.size) f.size

/-- The `j`-th element of a field. -/
def press (data : List UInt8) (f : HogpField) (keys : UInt64) (j : Nat) : Option UInt64 :=
  let value := f.value data j
  if f.isVariable then
    if value = 0 then some keys else some (pressKey (hogpUsageToKey f.page f.usageMin) keys)
  else if value < f.logicalMin ∨ value - f.logicalMin > f.usageMax - f.usageMin then none
  else
    let usage := f.usageMin + value - f.logicalMin
    if f.page = 7 ∧ usage ≥ 1 ∧ usage ≤ 3 then none
    else some (pressKey (hogpUsageToKey f.page (usage % 65536)) keys)

/-- All elements of a field. -/
def decode (data : List UInt8) (keys : UInt64) (f : HogpField) : Option UInt64 :=
  (List.range f.count).foldlM (f.press data) keys

end HogpField

/-- `hogp_decode_report`. -/
def hogpDecodeReport (map : HogpReportMap) (id : Nat) (data : List UInt8) : Option UInt64 :=
  match map.inputs.find? (·.reportId = id) with
  | none => none
  | some r =>
    if data.length ≠ r.bytes then none
    else (map.fields.filter (·.reportId = id)).foldlM (HogpField.decode data) 0

end RemoteBridge
