import RemoteBridge.Framework.Bytes

/-!
# Logical key reducers

The three reducers that turn the key states of a session into key events: `rbp_input.c`,
`rbp/input.py` and `LogicalInput.cs`.  They hold the same data in different clothes.  The C reducer
walks its slots in order and answers with a flag, the Python reducer takes differences of sets and
sorts them, the .NET reducer sorts first, and both of these throw.
-/

namespace RemoteBridge

/-- Where key states come from.  The C structure keeps the model in a buffer of 41 bytes with its NUL. -/
structure InputSource where
  receiverId : UInt64 := 0
  sessionId : UInt32 := 0
  peerId : UInt32 := 0
  connectionId : UInt32 := 0
  catalogRevision : UInt32 := 0
  modelId : List UInt8 := []
  fits : modelId.length ≤ 40 := by decide
  deriving DecidableEq, Repr

/-- The source of a reducer without a catalog. -/
abbrev InputSource.zero : InputSource := {}

inductive KeyEventKind where
  | down
  | up
  | snapshot
  | reset
  deriving DecidableEq, Repr

/-! ## `rbp_input.c` -/

namespace CKeys

/-- `rbp_input_event_t`. -/
structure Event where
  source : InputSource
  capturedUs : UInt64
  inputSeq : UInt32
  keyId : UInt16
  kind : KeyEventKind
  reason : UInt8
  synthetic : Bool
  deriving DecidableEq, Repr

/-- `rbp_input_t`; `keyIds` is `key_ids` up to `count`. -/
structure State where
  source : InputSource := {}
  keyIds : List UInt16 := []
  bits : UInt64 := 0
  sequence : UInt32 := 0
  ready : Bool := false
  haveSequence : Bool := false
  deriving DecidableEq, Repr

/-- The zeroed structure. -/
abbrev State.zero : State := {}

/-- The keys of the slots in `mask`, in the order of the slots. -/
def State.keysOf (s : State) (mask : UInt64) : List UInt16 :=
  (s.keyIds.zipIdx.filter fun p => mask &&& ((1 : UInt64) <<< UInt64.ofNat p.2) != 0).map Prod.fst

/-- `emit`. -/
def State.emit (s : State) (kind : KeyEventKind) (synthetic : Bool) (time : UInt64) (seq : UInt32)
    (reason : UInt8) (key : UInt16) : Event :=
  { source := s.source, capturedUs := time, inputSeq := seq, keyId := key, kind, reason, synthetic }

/-- `rbp_input_reset`. -/
def reset (reason : UInt8) (s : State) : State × List Event :=
  let cleared : State := { s with keyIds := [], haveSequence := false, sequence := 0, source := {} }
  if s.ready then
    ({ cleared with bits := 0, ready := false },
      (s.keysOf s.bits).map (s.emit .up true 0 0 reason) ++ [s.emit .reset true 0 0 reason 0])
  else (cleared, [])

/-- The buffer of `model_id`. -/
def modelBuffer (source : InputSource) : List UInt8 :=
  source.modelId ++ List.replicate (41 - source.modelId.length) 0

/-- `rbp_input_install`. -/
def install (source : InputSource) (ids : List UInt16) (s : State) : Bool × State × List Event :=
  if !(modelBuffer source).contains 0 || source.sessionId == 0 || source.peerId == 0 ||
      source.connectionId == 0 || decide (ids.length > 64) then (false, s, [])
  else if ids.contains 0 || !decide ids.Nodup then (false, s, [])
  else
    let (s, events) := reset 0 s
    (true, { s with source, keyIds := ids, ready := true }, events)

/-- `rbp_input_feed`. -/
def feed (seq : UInt32) (time bits : UInt64) (kind reason : UInt8) (s : State) :
    Bool × State × List Event :=
  if !s.ready || decide (kind > 2) || decide (reason > 3) || (kind == 2 && bits != 0) ||
      (decide (s.keyIds.length < 64) && bits >>> UInt64.ofNat s.keyIds.length != 0) then (false, s, [])
  else if s.haveSequence && (decide (seq < s.sequence) || (seq == s.sequence && kind != 2)) then
    (true, s, [])
  else
    let previous := s.bits
    let s := { s with bits, sequence := seq, haveSequence := true }
    if kind == 0 then (true, s, [s.emit .snapshot true time seq reason 0])
    else
      (true, s,
        (s.keysOf (previous &&& ~~~bits)).map (s.emit .up (kind == 2) time seq reason) ++
          (s.keysOf (bits &&& ~~~previous)).map (s.emit .down false time seq reason) ++
          if kind == 2 then [s.emit .reset true time seq reason 0] else [])

end CKeys

/-- The event of the Python and of the .NET reducer. -/
structure KeyEvent where
  source : InputSource
  kind : KeyEventKind
  keyId : UInt16 := 0
  capturedUs : UInt64 := 0
  inputSeq : UInt32 := 0
  synthetic : Bool := false
  pressedKeys : List UInt16 := []
  reason : String := ""
  deriving DecidableEq, Repr

/-! ## `rbp/input.py` -/

namespace PyKeys

structure LogicalKey where
  slot : Nat
  keyId : UInt16
  deriving DecidableEq, Repr

structure State where
  source : Option InputSource := none
  catalog : List LogicalKey := []
  bits : Nat := 0
  seq : Option UInt32 := none
  deriving DecidableEq, Repr

/-- The messages of `ValueError`. -/
inductive Error where
  | invalidCatalog
  | stateValues
  | unknownSlot
  deriving DecidableEq, Repr

/-- `sorted` of a set. -/
def sortedSet (keys : List UInt16) : List UInt16 := keys.dedup.mergeSort (fun a b => decide (a ≤ b))

/-- `pressed_keys`, as the list of a set. -/
def State.pressedKeys (s : State) : List UInt16 :=
  ((s.catalog.filter fun k => s.bits &&& (1 <<< k.slot) != 0).map LogicalKey.keyId).dedup

def reset (reason : String) (s : State) : State × List KeyEvent :=
  let held := sortedSet s.pressedKeys
  let events :=
    match s.source with
    | none => []
    | some source =>
      held.map (fun key => { source, kind := .up, keyId := key, synthetic := true, reason }) ++
        [{ source, kind := .reset, synthetic := true, reason }]
  ({}, events)

def install (source : InputSource) (catalog : List LogicalKey) (keyCount : Int) (s : State) :
    Except Error Unit × State × List KeyEvent :=
  if source.sessionId = 0 ∨ source.connectionId = 0 ∨ source.peerId = 0 ∨ ¬ (0 ≤ keyCount ∧ keyCount ≤ 64) ∨
      (catalog.length : Int) ≠ keyCount ∨ catalog.map LogicalKey.slot ≠ List.range keyCount.toNat ∨
      ((catalog.map LogicalKey.keyId).dedup.length : Int) ≠ keyCount ∨ ∃ k ∈ catalog, ¬ 0 < k.keyId then
    (.error .invalidCatalog, s, [])
  else
    let (_, events) := reset "catalog_changed" s
    (.ok (), { source := some source, catalog, bits := 0, seq := none }, events)

def feed (inputSeq : UInt32) (capturedUs : UInt64) (pressedBits : Nat) (kind reason : UInt8) (s : State) :
    Except Error Unit × State × List KeyEvent :=
  match s.source with
  | none => (.ok (), s, [])
  | some source =>
    if kind ∉ [0, 1, 2] ∨ ¬ reason ≤ 3 ∨ (kind = 2 ∧ pressedBits ≠ 0) then (.error .stateValues, s, [])
    else if pressedBits >>> s.catalog.length ≠ 0 then (.error .unknownSlot, s, [])
    else if ∃ seq, s.seq = some seq ∧ (inputSeq < seq ∨ (inputSeq = seq ∧ kind ≠ 2)) then (.ok (), s, [])
    else
      let before := s.pressedKeys
      let s := { s with bits := pressedBits, seq := some inputSeq }
      let after := s.pressedKeys
      if kind = 0 then
        (.ok (), s, [{ source, kind := .snapshot, capturedUs, inputSeq, synthetic := true,
                       pressedKeys := sortedSet after }])
      else
        (.ok (), s,
          (sortedSet (before.filter (· ∉ after))).map (fun key =>
            { source, kind := .up, keyId := key, capturedUs, inputSeq, synthetic := kind == 2,
              reason := toString reason.toNat }) ++
          (sortedSet (after.filter (· ∉ before))).map (fun key =>
            { source, kind := .down, keyId := key, capturedUs, inputSeq }) ++
          if kind = 2 then
            [{ source, kind := .reset, capturedUs, inputSeq, synthetic := true,
               reason := toString reason.toNat }]
          else [])

end PyKeys

/-! ## `LogicalInput.cs` -/

namespace NetKeys

structure KeyDefinition where
  slot : UInt8
  id : UInt16
  deriving DecidableEq, Repr

structure State where
  source : Option InputSource := none
  catalog : List KeyDefinition := []
  bits : UInt64 := 0
  sequence : Option UInt32 := none
  deriving DecidableEq, Repr

/-- The messages of `InvalidDataException`. -/
inductive Error where
  | invalidCatalog
  | stateValues
  | unknownSlot
  deriving DecidableEq, Repr

/-- `Held`. -/
def State.held (s : State) : List UInt16 :=
  ((s.catalog.filter fun k => s.bits &&& ((1 : UInt64) <<< k.slot.toUInt64) != 0).map
    KeyDefinition.id).mergeSort (fun a b => decide (a ≤ b))

def reset (reason : String) (s : State) : State × List KeyEvent :=
  let events :=
    match s.source with
    | none => []
    | some source =>
      s.held.map (fun key => { source, kind := .up, keyId := key, synthetic := true, reason }) ++
        [{ source, kind := .reset, synthetic := true, reason }]
  ({}, events)

def install (source : InputSource) (catalog : List KeyDefinition) (count : Int) (s : State) :
    Except Error Unit × State × List KeyEvent :=
  if source.sessionId = 0 ∨ source.connectionId = 0 ∨ source.peerId = 0 ∨ (count < 0 ∨ count > 64) ∨
      (catalog.length : Int) ≠ count ∨ catalog.map (·.slot.toNat) ≠ List.range count.toNat ∨
      (∃ k ∈ catalog, k.id = 0) ∨ ((catalog.map KeyDefinition.id).eraseDups.length : Int) ≠ count then
    (.error .invalidCatalog, s, [])
  else
    let (s, events) := reset "catalog_changed" s
    (.ok (), { s with source := some source, catalog }, events)

def feed (sequence : UInt32) (capturedUs bits : UInt64) (kind reason : UInt8) (s : State) :
    Except Error Unit × State × List KeyEvent :=
  match s.source with
  | none => (.ok (), s, [])
  | some source =>
    if kind > 2 ∨ reason > 3 ∨ (kind = 2 ∧ bits ≠ 0) then (.error .stateValues, s, [])
    else if s.catalog.length < 64 ∧ bits >>> UInt64.ofNat s.catalog.length ≠ 0 then
      (.error .unknownSlot, s, [])
    else if ∃ seq, s.sequence = some seq ∧ (sequence < seq ∨ (sequence = seq ∧ kind ≠ 2)) then (.ok (), s, [])
    else
      let before := s.held
      let s := { s with bits, sequence := some sequence }
      let after := s.held
      if kind = 0 then
        (.ok (), s, [{ source, kind := .snapshot, capturedUs, inputSeq := sequence, synthetic := true,
                       pressedKeys := after }])
      else
        (.ok (), s,
          (before.filter (· ∉ after)).eraseDups.map (fun key =>
            { source, kind := .up, keyId := key, capturedUs, inputSeq := sequence, synthetic := kind == 2,
              reason := toString reason.toNat }) ++
          (after.filter (· ∉ before)).eraseDups.map (fun key =>
            { source, kind := .down, keyId := key, capturedUs, inputSeq := sequence }) ++
          if kind = 2 then
            [{ source, kind := .reset, capturedUs, inputSeq := sequence, synthetic := true,
               reason := toString reason.toNat }]
          else [])

end NetKeys

end RemoteBridge
