import RemoteBridge.Client.BridgeClient
import RemoteBridge.Client.Listings

/-!
# What the Python client holds of the keys

The raw key state of `BridgeClient`, as `_handle_event` and `_session_broken` of `client.py` keep it: the
sequence number and the pressed set of the last `KEYS_STATE`, and how many keys the device has.  A state
that breaks a rule raises, and this ends the session.  The number of keys is known from the state of the
device, and so is the connection, whose change makes the client forget what it knew of the keys.

`keyAside` makes this the part of the client that holds no voice state.  The events of pairing, operations
and searches hold no key state, but they have checks of their own, and so have the responses
(`validate_response` of `schema.py`); what fails one of them ends the session like a wrong key state.  The
logical keys, which an application may switch on, see every state behind these checks and are modelled
apart.
-/

namespace RemoteBridge.Python

/-! ## Events and responses without key state -/

/-- `OPERATION`. -/
def operationFields : List Field :=
  [⟨1, 3, true⟩, ⟨2, 1, true⟩, ⟨3, 2, true⟩, ⟨4, 3, false⟩, ⟨5, 3, false⟩, ⟨6, 5, false⟩]

/-- `EVENTS[OP_PAIR_PROMPT_EV]`. -/
def promptFields : List Field :=
  [⟨1, 3, true⟩, ⟨2, 3, true⟩, ⟨3, 1, true⟩, ⟨4, 3, false⟩, ⟨5, 3, true⟩]

/-- `EVENTS[OP_FIND_DONE_EV]`. -/
def findDoneFields : List Field := [⟨1, 3, true⟩, ⟨2, 1, true⟩]

/-- The check of `_handle_event` on a prompt: whether it raises. -/
def promptRefused (t : List (UInt8 × PyTlvValue)) : Bool :=
  intAt t 1 == 0 || intAt t 2 == 0 || decide (intAt t 3 > 3) ||
    ((t.lookup 4).isSome && decide (intAt t 4 > 999999)) ||
    ((intAt t 3 == 2 || intAt t 3 == 3) && (t.lookup 4).isNone)

/-- Whether `parse` returns. -/
def parses (fields : List Field) (payload : List UInt8) : Bool := (schemaParse fields payload).toBool

/-- Whether `_handle_event` returns for an event of pairing, an operation or a search. -/
def takesEvent (op : Nat) (payload : List UInt8) : Bool :=
  if op = 0x0181 then
    match schemaParse promptFields payload with
    | .error _ => false
    | .ok t => !promptRefused t
  else if op = 0x0182 then parses operationFields payload
  else if op = 0x0180 then parses findDoneFields payload
  else true

/-- `RESPONSES`, without the lists and the key state. -/
def responseFields : List (Nat × List Field) :=
  [(0x0001, [⟨1, 7, true⟩, ⟨2, 7, true⟩, ⟨3, 6, true⟩, ⟨4, 1, true⟩, ⟨5, 2, true⟩, ⟨6, 3, true⟩]),
    (0x0002, [⟨1, 3, true⟩, ⟨2, 4, true⟩]),
    (0x0003, deviceFields),
    (0x0004, [⟨1, 3, true⟩, ⟨2, 6, true⟩, ⟨3, 5, true⟩]),
    (0x0005, operationFields),
    (0x0006, [⟨1, 3, true⟩, ⟨2, 3, true⟩, ⟨3, 3, true⟩, ⟨4, 3, true⟩, ⟨5, 2, true⟩, ⟨6, 3, false⟩,
      ⟨7, 7, false⟩, ⟨8, 3, false⟩]),
    (0x0007, []),
    (0x0100, [⟨1, 3, true⟩]),
    (0x0102, []),
    (0x0110, [⟨1, 3, true⟩]),
    (0x0111, []),
    (0x0112, []),
    (0x0113, [⟨1, 3, true⟩]),
    (0x0114, []),
    (0x0115, []),
    (0x0116, []),
    (0x0202, []),
    (0x0302, [⟨1, 7, true⟩, ⟨2, 3, true⟩, ⟨3, 2, true⟩]),
    (0x0300, [⟨1, 5, true⟩, ⟨2, 5, true⟩]),
    (0x0301, []),
    (0x0303, [])]

/-- `validate_response`; whether it returns. -/
def validateResponse (op status : Nat) (payload : List UInt8) : Bool :=
  if op = 0x0101 then (validateListing findListFields 2 8 7 status payload).isSome
  else if op = 0x0200 then (validateListing keyCatalogFields 3 64 4 status payload).isSome
  else if status ≥ 2 then parses errorFields payload
  else if status ≠ (if op = 0x0110 ∨ op = 0x0113 then 1 else 0) then false
  else if op = 0x0201 then decide (payload.length = 24)
  else
    match responseFields.lookup op with
    | none => false
    | some fields =>
      match schemaParse fields payload with
      | .error _ => false
      | .ok t => op != 0x0003 || !deviceRefused t

/-! ## Key state -/

/-- `KeysState`. -/
structure KeysState where
  inputSeq : Nat
  capturedUs : Nat
  pressedBits : Nat
  kind : Nat
  reason : Nat
  deriving DecidableEq, Repr

/-- `_keys`; `none` when it raises. -/
def keys (payload : List UInt8) : Option KeysState :=
  if payload.length ≠ 24 then none
  else
    match structUnpack [4, 8, 8, 1, 1, 2] payload with
    | [seq, captured, bits, kind, reason, reserved] =>
      if reserved ≠ 0 ∨ kind > 2 ∨ reason > 3 ∨ (kind = 2 ∧ bits ≠ 0) then none
      else some ⟨seq, captured, bits, kind, reason⟩
    | _ => none

/-- `keys_seq`, `_have_keys` and `pressed_bits`, with the `key_count` of the device once there is one. -/
structure KeyHold where
  keyCount : Option Nat := none
  haveKeys : Bool := false
  keysSeq : Nat := 0
  pressedBits : Nat := 0
  deriving DecidableEq, Repr

/-- What `_handle_event` does with a key state; `none` when it raises. -/
def KeyHold.feed (k : KeyHold) (st : KeysState) : Option KeyHold :=
  if k.keyCount.any fun n => st.pressedBits >>> n != 0 then none
  else if k.haveKeys ∧ st.inputSeq < k.keysSeq then none
  else if k.haveKeys ∧ st.kind ≠ 2 ∧ st.inputSeq ≤ k.keysSeq then some k
  else some { k with haveKeys := true, keysSeq := st.inputSeq, pressedBits := st.pressedBits }

/-- The key state as the part of the client that holds no voice state. -/
def keyAside : Aside KeyHold where
  event op payload k :=
    if op = 0x0280 then (keys payload).bind k.feed
    else if takesEvent op payload then some k
    else none
  response := validateResponse
  device t moved k :=
    let k := if moved then { k with haveKeys := false, keysSeq := 0, pressedBits := 0 } else k
    { k with keyCount := some (intAt t 7) }
  broken _ := {}

end RemoteBridge.Python
