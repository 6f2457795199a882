import Mathlib

/-!
# Input reports of a HID descriptor

What the Input items of a report descriptor mean.  A descriptor is a list of short items.  The global
items and the local items before an Input item form its context, and the item lays out `count` elements
of `size` bits behind all earlier Input items of its report.  An element is a control, pressed while its
value is not zero, or a selector, whose value picks one of a range of usages.

A usage is one number, its page in the upper half.
-/

namespace RemoteBridge

/-- A short item. -/
structure HidItem where
  kind : Nat
  tag : Nat
  size : Nat
  value : Nat
  deriving DecidableEq, Repr

/-- The global state of a descriptor. -/
structure HidGlobals where
  page : Nat := 0
  size : Nat := 0
  count : Nat := 0
  id : Nat := 0
  lmin : Nat := 0
  lmax : Nat := 0
  deriving DecidableEq, Repr

/-- Everything that decides the meaning of the next main item. -/
structure HidContext where
  globals : HidGlobals := {}
  stack : List HidGlobals := []
  usages : List Nat := []
  usageMin : Option Nat := none
  usageMax : Option Nat := none
  deriving DecidableEq, Repr

namespace HidItem

/-- The usage that a local item names: a whole usage, or one on the current page. -/
def usage (it : HidItem) (g : HidGlobals) : Nat :=
  if it.size = 4 then it.value else g.page <<< 16 ||| it.value

/-- The item is an Input item. -/
def IsInput (it : HidItem) : Prop := it.kind = 0 ∧ it.tag = 8

instance (it : HidItem) : Decidable it.IsInput := inferInstanceAs (Decidable (_ ∧ _))

end HidItem

namespace HidContext

/-- A global item. -/
def afterGlobal (it : HidItem) (c : HidContext) : HidContext :=
  match it.tag with
  | 0 => { c with globals := { c.globals with page := it.value } }
  | 1 => { c with globals := { c.globals with lmin := it.value } }
  | 2 => { c with globals := { c.globals with lmax := it.value } }
  | 7 => { c with globals := { c.globals with size := it.value } }
  | 8 => { c with globals := { c.globals with id := it.value } }
  | 9 => { c with globals := { c.globals with count := it.value } }
  | 10 => { c with stack := c.globals :: c.stack }
  | 11 => { c with globals := c.stack.headD c.globals, stack := c.stack.tail }
  | _ => c

/-- A local item. -/
def afterLocal (it : HidItem) (c : HidContext) : HidContext :=
  match it.tag with
  | 0 => { c with usages := c.usages ++ [it.usage c.globals] }
  | 1 => { c with usageMin := some (it.usage c.globals) }
  | 2 => { c with usageMax := some (it.usage c.globals) }
  | _ => c

/-- The local state is forgotten behind every main item. -/
def afterMain (c : HidContext) : HidContext := { globals := c.globals, stack := c.stack }

/-- The context behind an item. -/
def after (it : HidItem) (c : HidContext) : HidContext :=
  match it.kind with
  | 0 => c.afterMain
  | 1 => c.afterGlobal it
  | 2 => c.afterLocal it
  | _ => c

/-- Reserved global items change nothing. -/
lemma afterGlobal_reserved {it : HidItem} (c : HidContext) (h : ∀ n ∈ [0, 1, 2, 7, 8, 9, 10, 11], it.tag ≠ n) :
    c.afterGlobal it = c := by
  unfold afterGlobal
  split
  case h_9 => rfl
  all_goals
    next htag => exact absurd htag (h _ (by decide))

/-- Items of the reserved kind change nothing. -/
lemma after_reserved {it : HidItem} (c : HidContext) (h : ∀ n ∈ [0, 1, 2], it.kind ≠ n) :
    c.after it = c := by
  unfold after
  split
  case h_4 => rfl
  all_goals
    next hkind => exact absurd hkind (h _ (by decide))

end HidContext

/-- An Input item in its context. -/
structure InputItem where
  context : HidContext
  flags : Nat
  deriving DecidableEq, Repr

/-- The Input items of a descriptor, in their order. -/
def inputItems : HidContext → List HidItem → List InputItem
  | _, [] => []
  | c, it :: rest =>
    if it.IsInput then { context := c, flags := it.value } :: inputItems (c.after it) rest
    else inputItems (c.after it) rest

/-- What an element of a report says. -/
inductive HidMeaning where
  /-- The usage is pressed while the value is not zero. -/
  | control (usage : Nat)
  /-- The value picks a usage of the range, counted from `lmin`. -/
  | selector (umin umax lmin : Nat)
  deriving DecidableEq, Repr

/-- An element of a report. -/
structure HidElement where
  offset : Nat
  size : Nat
  meaning : HidMeaning
  deriving DecidableEq, Repr

namespace InputItem

variable (it : InputItem)

def id : Nat := it.context.globals.id

def size : Nat := it.context.globals.size

def count : Nat := it.context.globals.count

/-- The bits that the item takes in its report. -/
def width : Nat := it.size * it.count

def Constant : Prop := it.flags.testBit 0 = true

def Variable : Prop := it.flags.testBit 1 = true

/-- All that the item says about usages is on vendor pages. -/
def Vendor : Prop :=
  0xff00 ≤ it.context.globals.page ∧ (∀ u ∈ it.context.usageMin, 0xff00 ≤ u >>> 16) ∧
    ∀ u ∈ it.context.usages, 0xff00 ≤ u >>> 16

/-- The item lays out elements with a meaning. -/
def Meaningful : Prop := ¬ it.Constant ∧ ¬ it.Vendor

instance : Decidable it.Constant := inferInstanceAs (Decidable (_ = _))

instance : Decidable it.Variable := inferInstanceAs (Decidable (_ = _))

instance : Decidable it.Vendor := inferInstanceAs (Decidable (_ ∧ _ ∧ _))

instance : Decidable it.Meaningful := inferInstanceAs (Decidable (_ ∧ _))

def umin : Nat := it.context.usageMin.getD 0

def umax : Nat := it.context.usageMax.getD 0

/-- The usage of the `j`-th variable element: the last one is repeated. -/
def usageAt (j : Nat) : Nat :=
  if it.context.usages = [] then it.umin + min j (it.umax - it.umin)
  else it.context.usages.getD (min j (it.context.usages.length - 1)) 0

def meaningAt (j : Nat) : HidMeaning :=
  if it.Variable then .control (it.usageAt j)
  else .selector it.umin it.umax it.context.globals.lmin

/-- The elements of the item, from bit `start` on. -/
def elements (start : Nat) : List HidElement :=
  if it.Meaningful then
    (List.range it.count).map fun j =>
      { offset := start + j * it.size, size := it.size, meaning := it.meaningAt j }
  else []

end InputItem

/-- The bits that Input items take in the report `id`. -/
def bitsOf (id : Nat) (ins : List InputItem) : Nat :=
  ((ins.filter fun it => it.id = id).map InputItem.width).sum

/-- An element of the report `id`: its item lies behind all earlier Input items of the report. -/
def Places (ins : List InputItem) (id : Nat) (e : HidElement) : Prop :=
  ∃ before it later, ins = before ++ it :: later ∧ it.id = id ∧ e ∈ it.elements (bitsOf id before)

/-- A bit of a report. -/
def dataBit (data : List UInt8) (i : Nat) : Nat := ((data.getD (i / 8) 0).toNat >>> (i % 8)) &&& 1

/-- The number in `size` bits from `offset` on, the lowest bit first. -/
def dataValue (data : List UInt8) (offset size : Nat) : Nat :=
  (List.range size).foldl (fun v k => v ||| dataBit data (offset + k) <<< k) 0

namespace HidElement

variable (data : List UInt8)

def value (e : HidElement) : Nat := dataValue data e.offset e.size

/-- The element presses a usage. -/
def Presses (e : HidElement) (usage : Nat) : Prop :=
  match e.meaning with
  | .control u => e.value data ≠ 0 ∧ usage = u
  | .selector umin _ lmin => usage = umin + (e.value data - lmin)

/-- The element has no valid value: it is out of the range, or a rollover code of a keyboard. -/
def Faults (e : HidElement) : Prop :=
  match e.meaning with
  | .control _ => False
  | .selector umin umax lmin =>
    e.value data < lmin ∨ umax - umin < e.value data - lmin ∨
      ((umin + (e.value data - lmin)) >>> 16 = 7 ∧ (umin + (e.value data - lmin)) % 65536 ∈ [1, 2, 3])

end HidElement

lemma bitsOf_concat (id : Nat) (ins : List InputItem) (it : InputItem) :
    bitsOf id (ins ++ [it]) = bitsOf id ins + if it.id = id then it.width else 0 := by
  unfold bitsOf
  by_cases h : it.id = id
  · simp [List.filter_append, h]
  · simp [List.filter_append, h]

/-- Elements of a longer descriptor: those of the earlier items, and those of the last one. -/
lemma places_concat {ins : List InputItem} {it : InputItem} {id : Nat} {e : HidElement} :
    Places (ins ++ [it]) id e ↔ Places ins id e ∨ (it.id = id ∧ e ∈ it.elements (bitsOf id ins)) := by
  constructor
  · rintro ⟨before, x, later, heq, hid, he⟩
    rcases List.eq_nil_or_concat' later with rfl | ⟨later, y, rfl⟩
    · obtain ⟨rfl, hx⟩ := List.append_inj' heq rfl
      obtain rfl := List.cons.inj hx |>.1
      exact .inr ⟨hid, he⟩
    · rw [← List.cons_append, ← List.append_assoc] at heq
      obtain ⟨rfl, -⟩ := List.append_inj' heq rfl
      exact .inl ⟨before, x, later, rfl, hid, he⟩
  · rintro (⟨before, x, later, rfl, hid, he⟩ | ⟨hid, he⟩)
    · exact ⟨before, x, later ++ [it], by simp, hid, he⟩
    · exact ⟨ins, it, [], rfl, hid, he⟩

lemma not_places_nil {id : Nat} {e : HidElement} : ¬ Places [] id e := by
  rintro ⟨before, it, later, heq, -⟩
  simp at heq

end RemoteBridge
