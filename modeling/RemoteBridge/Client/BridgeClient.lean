import RemoteBridge.Client.AudioStream
import RemoteBridge.Client.FrameParser

/-!
# The session of the Python client

`BridgeClient` of `client.py`: what it does with a decoded frame, and every place that touches the voice
stream.  Each application callback about voice is recorded in `calls`, oldest first.

The methods of the application wait for responses and meanwhile handle frames, so each of them is here as
the steps between two waits.  Key state, pairing prompts, operations and searches hold no voice state:
they are a parameter (`Aside`) that may refuse an event, and so are the checks on responses.
-/

namespace RemoteBridge.Python

/-! ## State -/

/-- The voice callbacks of the application. -/
inductive VoiceCall where
  | start (f : AudioFormat)
  | data (c : EncodedFragment)
  | format (f : AudioFormat)
  | finish (e : AudioEnd)
  | abort (streamId : Nat) (reason : String)
  deriving DecidableEq, Repr

/-- The parts of the client that hold no voice state. -/
structure Aside (σ : Type) where
  /-- The events of keys, pairing, operations and searches; `none` when one of them raises. -/
  event : Nat → List UInt8 → σ → Option σ
  /-- `validate_response`; whether it returns. -/
  response : Nat → Nat → List UInt8 → Bool
  /-- A device state, and whether the connection is a new one. -/
  device : List (UInt8 × PyTlvValue) → Bool → σ → σ
  /-- What `_session_broken` resets of them. -/
  broken : σ → σ

/-- A pending request; internal ones keep the cookie of a heartbeat. -/
structure PendingRequest where
  opcode : Nat
  connection : Nat
  cookie : Option Nat

structure BridgeClient (σ : Type) where
  sessionId : Nat := 0
  connectionId : Nat := 0
  rxSeq : Nat := 0
  reqId : Nat := 0
  helloNonce : Option (List UInt8) := none
  pending : List (Nat × PendingRequest) := []
  stream : Option AudioStream := none
  audioIgnored : Bool := false
  acceptedCodecs : List (Nat × Nat) := []
  audioMaxUnit : Nat := 0
  aside : σ
  calls : List VoiceCall := []

namespace BridgeClient

variable {σ : Type} (A : Aside σ)

/-- A callback. -/
def call (v : VoiceCall) (c : BridgeClient σ) : BridgeClient σ := { c with calls := c.calls ++ [v] }

/-! ## Aborts -/

/-- `_reject_audio`; the reply that disables voice is an RPC of its own. -/
def rejectAudio (reason : String) (c : BridgeClient σ) : BridgeClient σ :=
  if c.audioIgnored then c
  else
    let sid := c.stream.elim 0 AudioStream.streamId
    call (.abort sid reason) { c with stream := none, audioIgnored := true }

/-- `_abort_voice`. -/
def abortVoice (reason : String) (c : BridgeClient σ) : BridgeClient σ :=
  match c.stream with
  | none => c
  | some active => call (.abort active.streamId reason) { c with stream := none }

/-- `_session_broken`. -/
def sessionBroken (c : BridgeClient σ) : BridgeClient σ :=
  let c := { c with sessionId := 0, connectionId := 0, rxSeq := 0, aside := A.broken c.aside }
  { c.abortVoice "session_lost" with
    audioIgnored := false, acceptedCodecs := [], audioMaxUnit := 0, pending := [] }

/-! ## Events -/

/-- The `try` block of the voice events. -/
def voiceEvent (op : Nat) (payload : List UInt8) (checked now : Nat) (c : BridgeClient σ) :
    Except Raised (BridgeClient σ) :=
  if op = 0x0380 ∨ op = 0x0383 then do
    let f ← AudioFormat.fromTlv (← schemaParse voiceFormatFields payload)
    if op = 0x0380 then
      if c.stream.isSome then throw (.audioError "overlapping streams")
      else
        let s ← AudioStream.init f c.acceptedCodecs c.audioMaxUnit
        return call (.start f) { c with stream := some s }
    else
      match c.stream with
      | none => throw (.audioError "FORMAT without START")
      | some s =>
        let s ← s.format f
        return call (.format f) { c with stream := some s }
  else if op = 0x0381 then
    match c.stream with
    | none => throw (.audioError "DATA without START")
    | some s => do
      let fragment ← EncodedFragment.parse payload
      let s ← s.feed fragment checked now
      return call (.data fragment) { c with stream := some s }
  else do
    let e := AudioEnd.fromTlv (← schemaParse voiceEndedFields payload)
    match c.stream with
    | none => throw (.audioError "END without START")
    | some s =>
      s.finish e
      return call (.finish e) { c with stream := none }

/-- The voice events with their `except`, and the flag that drops the rest of a rejected stream. -/
def handleVoice (op : Nat) (payload : List UInt8) (checked now : Nat) (c : BridgeClient σ) :
    Option (BridgeClient σ) :=
  if c.audioIgnored then some (if op = 0x0382 then { c with audioIgnored := false } else c)
  else
    match c.voiceEvent op payload checked now with
    | .ok c => some c
    | .error (.audioError reason) => some (c.rejectAudio reason)
    | .error .protocol => none

/-- A valid device state, in an event or as the reply to GET_DEVICE. -/
def takeDevice (t : List (UInt8 × PyTlvValue)) (c : BridgeClient σ) : BridgeClient σ :=
  let moved := intAt t 1 != c.connectionId
  let c := if moved then c.abortVoice "connection_changed" else c
  { c with aside := A.device t moved c.aside, connectionId := intAt t 1 }

/-- The kind that the frame of an event has. -/
def eventKind (op : Nat) : Nat := if op = 0x0381 then 4 else 3

/-- `_handle_event`; `none` when it raises. -/
def handleEvent (hdr : Header) (payload : List UInt8) (checked now : Nat) (c : BridgeClient σ) :
    Option (BridgeClient σ) :=
  let op := hdr.opcode
  if hdr.kind ≠ eventKind op then none
  else if op = 0x0183 then
    match schemaParse deviceFields payload with
    | .error _ => none
    | .ok t => if deviceRefused t then none else some (c.takeDevice A t)
  else if op ∈ [0x0280, 0x0380, 0x0381, 0x0382, 0x0383] ∧
      (c.connectionId = 0 ∨ hdr.connectionId ≠ c.connectionId) then none
  else if op ∈ [0x0380, 0x0381, 0x0382, 0x0383] then c.handleVoice op payload checked now
  else (A.event op payload c.aside).map fun aside => { c with aside }

/-! ## Frames -/

/-- The branch of a response; what waits for it gets it from the table. -/
def handleResponse (hdr : Header) (payload : List UInt8) (c : BridgeClient σ) : Option (BridgeClient σ) :=
  match c.pending.lookup hdr.requestId with
  | none => some c
  | some ev =>
    if hdr.opcode ≠ ev.opcode ∨ hdr.connectionId ≠ ev.connection ∨ hdr.status > 17 then none
    else if !A.response hdr.opcode hdr.status payload then none
    else
      match ev.cookie with
      | none => some c
      | some cookie =>
        if hdr.status ≠ 0 then none
        else
          match schemaParse [⟨1, 3, true⟩, ⟨2, 4, true⟩] payload with
          | .error _ => none
          | .ok t =>
            if intAt t 1 ≠ cookie then none
            else some { c with pending := c.pending.filter fun p => p.1 != hdr.requestId }

/-- The first branch of `_handle_frame`: only the answer to the nonce opens a session. -/
def handleHello (nonce : List UInt8) (hdr : Header) (payload : List UInt8) (crcOk : Bool)
    (c : BridgeClient σ) : BridgeClient σ :=
  if crcOk = false ∨ hdr.kind ≠ 2 ∨ hdr.opcode ≠ 0x0001 ∨ hdr.requestId ≠ 1 ∨ hdr.txSeq ≠ 1 ∨
      hdr.connectionId ≠ 0 then c
  else if hdr.status = 17 then
    match schemaParse [⟨1, 6, false⟩, ⟨2, 5, false⟩, ⟨3, 7, true⟩] payload with
    | .error _ => c
    | .ok t => if bytesAt t 3 ≠ nonce then c else { c with helloNonce := none }
  else if hdr.status = 0 then
    if hdr.major ≠ 3 ∨ hdr.minor ≠ 0 ∨ hdr.sessionId = 0 then c
    else
      match schemaParse [⟨1, 7, true⟩, ⟨2, 7, true⟩, ⟨3, 6, true⟩, ⟨4, 1, true⟩, ⟨5, 2, true⟩, ⟨6, 3, true⟩]
          payload with
      | .error _ => c
      | .ok t =>
        if bytesAt t 1 ≠ nonce ∨ (bytesAt t 2).length ≠ 16 ∨ ¬ (1 ≤ intAt t 4 ∧ intAt t 4 ≤ 64) ∨
            intAt t 5 ≠ 512 then c
        else { c with sessionId := hdr.sessionId, rxSeq := 1, helloNonce := none }
  else c

/-- The `try` block of `_handle_frame`. -/
def acceptFrame (hdr : Header) (payload : List UInt8) (checked now : Nat) (c : BridgeClient σ) :
    Option (BridgeClient σ) :=
  if hdr.major ≠ 3 ∨ hdr.minor ≠ 0 ∨ hdr.flags ≠ 0 ∨ hdr.payloadSize ≠ payload.length ∨
      hdr.txSeq ≠ c.rxSeq + 1 then none
  else
    let c := { c with rxSeq := hdr.txSeq }
    if hdr.kind = 2 then c.handleResponse A hdr payload
    else if hdr.kind = 3 ∨ hdr.kind = 4 then
      if hdr.requestId ≠ 0 ∨ hdr.status ≠ 0 then none else c.handleEvent A hdr payload checked now
    else none

/-- `_handle_frame`. -/
def handleFrame (hdr : Header) (payload : List UInt8) (crcOk : Bool) (checked now : Nat)
    (c : BridgeClient σ) : BridgeClient σ :=
  match c.helloNonce with
  | some nonce => c.handleHello nonce hdr payload crcOk
  | none =>
    if c.sessionId = 0 then c
    else if crcOk = false then c.sessionBroken A
    else if hdr.sessionId ≠ c.sessionId then c
    else (c.acceptFrame A hdr payload checked now).getD (c.sessionBroken A)

/-- The check of `_pump` and `drain` on a unit that stays incomplete. -/
def checkTimeout (now : Nat) (c : BridgeClient σ) : BridgeClient σ :=
  match c.stream with
  | none => c
  | some s =>
    match s.checkTimeout now with
    | .error (.audioError reason) => c.rejectAudio reason
    | _ => c

/-! ## Requests -/

/-- `_new_request`, up to the write. -/
def newRequest (opcode : Nat) (cookie : Option Nat) (c : BridgeClient σ) : BridgeClient σ :=
  if c.sessionId = 0 ∨ 4 ≤ c.pending.length then c
  else if 0xfffffffe ≤ c.reqId then c.sessionBroken A
  else
    let connection := if 0x200 ≤ opcode ∧ opcode ≤ 0x0303 then c.connectionId else 0
    { c with reqId := c.reqId + 1, pending := c.pending ++ [(c.reqId + 1, { opcode, connection, cookie })] }

/-- What `get_device` does with the payload of its response. -/
def getDevice (payload : List UInt8) (c : BridgeClient σ) : BridgeClient σ :=
  match schemaParse deviceFields payload with
  | .error _ => c
  | .ok t => c.takeDevice A t

end BridgeClient

/-- What the client is given: the events of its frame parser, and what happens between them. -/
inductive ClientInput (σ : Type) where
  | parsed (e : Event) (checked now : Nat)
  | timeout (now : Nat)
  /-- A failed read or write, a heartbeat or ping that fails, GOODBYE, and cancelled IO. -/
  | sessionLost
  /-- `hello` sends its request with a fresh nonce. -/
  | hello (nonce : List UInt8)
  /-- `hello` returns or raises. -/
  | helloEnded (ok : Bool)
  | request (opcode : Nat) (cookie : Option Nat)
  /-- `_request` forgets its request. -/
  | requestEnded (requestId : Nat)
  | getDevice (payload : List UInt8)
  /-- `voice_enable` offers its codecs before the request, and takes the old ones back when it fails. -/
  | voiceCodecs (accepted : List (Nat × Nat)) (maxUnit : Nat)
  /-- `voice_enable` after its response. -/
  | voiceEnabled (enable : Bool)
  /-- Anything else that the application does. -/
  | aside (s : σ)

/-- An event of the frame parser in `_pump`. -/
def BridgeClient.handleParsed {σ : Type} (A : Aside σ) (checked now : Nat) (c : BridgeClient σ) :
    Event → BridgeClient σ
  | .frame hdr payload crcOk => c.handleFrame A hdr payload crcOk checked now
  | _ => if c.helloNonce = none ∧ c.sessionId ≠ 0 then c.sessionBroken A else c

/-- One step of the client. -/
def ClientInput.run {σ : Type} (A : Aside σ) (c : BridgeClient σ) : ClientInput σ → BridgeClient σ
  | .parsed e checked now => c.handleParsed A checked now e
  | .timeout now => c.checkTimeout now
  | .sessionLost => c.sessionBroken A
  | .hello nonce => { c.sessionBroken A with helloNonce := some nonce, reqId := 1 }
  | .helloEnded ok => { (if ok then c else c.sessionBroken A) with helloNonce := none }
  | .request opcode cookie => c.newRequest A opcode cookie
  | .requestEnded id => { c with pending := c.pending.filter fun p => p.1 != id }
  | .getDevice payload => c.getDevice A payload
  | .voiceCodecs accepted maxUnit => { c with acceptedCodecs := accepted, audioMaxUnit := maxUnit }
  | .voiceEnabled enable =>
    if enable then { c with audioIgnored := false }
    else { c with acceptedCodecs := [], audioMaxUnit := 0 }
  | .aside s => { c with aside := s }

/-- A run of a new client. -/
def clientRun {σ : Type} (A : Aside σ) (s : σ) (inputs : List (ClientInput σ)) : BridgeClient σ :=
  inputs.foldl (ClientInput.run A) { aside := s }

end RemoteBridge.Python
