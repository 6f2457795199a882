import RemoteBridge.Adapters.KeyState
import RemoteBridge.Framework.Ring
import RemoteBridge.Product.Server

/-!
# The Unicom runtime

The voice engine of the Unicom remote, `unicom_runtime.inc`.  A press of the voice key opens a capture;
the remote sends bodies of three FC notifications, and each complete body is a unit of audio.  Units go
straight to the server, or wait in a ring of eight while nobody wants them yet.

The adapter asks the server whether voice is wanted and which session captures, and tells it what happens;
while it is told, the server may ask the adapter to stop.  The log keeps questions with their answers,
messages and what the remote sent, the newest first.
-/

namespace RemoteBridge.Unicom

/-! ## State -/

/-- The states of the adapter that the runtime tells apart; discovery is one. -/
inductive Phase where
  | idle
  | discovery
  | wait
  | done
  | failed
  deriving DecidableEq, Repr

/-- The `unicom` part of `rc003_adapter_t`, and the fields of the adapter that the runtime uses.  The ring
holds units, not bytes. -/
structure State where
  hello : Bool := false
  active : Bool := false
  started : Bool := false
  closing : Bool := false
  previousValid : Bool := false
  down : Bool := false
  pendingVoice : Bool := false
  announced : Bool := false
  part : Nat := 0
  command : UInt8 := 0
  inFlight : UInt8 := 0
  sequence : UInt16 := 0
  previous : UInt16 := 0
  commandDeadline : UInt32 := 0
  refreshMs : UInt32 := 0
  lastAudioMs : UInt32 := 0
  closeMs : UInt32 := 0
  body : List UInt8 := List.replicate 48 0
  preroll : Ring (List UInt8) := { mem := fun _ => List.replicate 40 0, head := 0, len := 0 }
  captureSession : UInt32 := 0
  captureMs : UInt32 := 0
  phase : Phase := .idle
  ready : Bool := false
  voiceReady : Bool := false
  nowMs : UInt32 := 0
  deadlineMs : UInt32 := 0
  fd : UInt16 := 0
  fc : UInt16 := 0
  f8 : UInt16 := 0
  chars : List ReportChar := []
  batValueHandle : UInt16 := 0

/-- The voice events of the runtime; the format is always the same, and a unit has 40 bytes. -/
inductive VoiceMsg where
  | sourceBegin
  | start
  | encoded (data : List UInt8)
  | ended (reason : EndReason)
  deriving DecidableEq, Repr

/-- What the adapter tells the server. -/
inductive Told where
  | voice (e : VoiceMsg)
  /-- Profile, codecs, voice state and the ready link. -/
  | ready (voice : Bool)
  | keys (bits : UInt64)
  | battery (level : UInt8)
  | failed (cause : String)
  deriving DecidableEq, Repr

/-- The message is a unit of audio. -/
def Told.isUnit : Told → Bool
  | .voice (.encoded _) => true
  | _ => false

/-- What happens at the adapter. -/
inductive Ev where
  /-- `rbp_server_voice_wanted` and its answer. -/
  | asked (wanted : Bool)
  /-- `rbp_server_voice_capture_session` and its answer. -/
  | owner (session : UInt32)
  | told (t : Told)
  /-- The voice key goes down and finds this session. -/
  | keyDown (session : UInt32)
  /-- A capture opens for the session of its key. -/
  | opened (session : UInt32)
  /-- An FC notification of an open capture. -/
  | heard (data : List UInt8)
  | detached
  deriving DecidableEq, Repr

/-- What `write_value` answers; a transport may complete the write before it returns. -/
inductive Written where
  | retry
  | rejected
  | accepted (completion : Option Bool)

/-- The surroundings of the adapter. -/
structure Surround (E : Type) where
  wanted : E → Bool
  session : E → UInt32
  /-- Whether the server asks the adapter to stop while it is told. -/
  tell : Told → E → Bool × E
  write : UInt8 → E → Written × E

structure World (E : Type) where
  u : State
  env : E
  log : List Ev
  /-- The surroundings at each unit that the server was told, the newest first. -/
  servers : List E := []

variable {E : Type} (S : Surround E)

namespace World

def act (f : State → State) (w : World E) : World E := { w with u := f w.u }

def note (e : Ev) (w : World E) : World E := { w with log := e :: w.log }

def askWanted (w : World E) : Bool × World E := (S.wanted w.env, w.note (.asked (S.wanted w.env)))

def askSession (w : World E) : UInt32 × World E := (S.session w.env, w.note (.owner (S.session w.env)))

/-- The message is on its way. -/
def told (t : Told) (w : World E) : World E :=
  { w with log := .told t :: w.log, servers := if t.isUnit then w.env :: w.servers else w.servers }

end World

/-- Forget the units that wait. -/
def State.clear (u : State) : State := { u with preroll := { u.preroll with head := 0, len := 0 } }

/-- `(int32_t)(now - deadline) >= 0`. -/
def past (nowMs deadlineMs : UInt32) : Bool := decide ((nowMs - deadlineMs).toNat < 2 ^ 31)

/-! ## Captures -/

/-- `unicom_stop`. -/
def stop (w : World E) : World E :=
  if !w.u.active || w.u.closing then w
  else
    w.act fun u =>
      let u := { u with closing := true, closeMs := u.nowMs }
      { (if u.announced then u else u.clear) with command := 2 }

/-- A call of the server, which may ask to stop before it returns. -/
def tell (t : Told) (w : World E) : World E :=
  let r := S.tell t w.env
  let w : World E := { w.told t with env := r.2 }
  if r.1 then stop w else w

/-- `unicom_end`. -/
def finish (reason : EndReason) (w : World E) : World E :=
  let announced := w.u.announced
  let w := w.act fun u =>
    { u.clear with
      active := false, started := false, closing := false, part := 0, previousValid := false
      announced := false }
  if announced then tell S (.voice (.ended reason)) w else w

/-- `fail_init`. -/
def fail (cause : String) (w : World E) : World E :=
  tell S (.failed cause) (w.act fun u => { u with phase := .failed })

/-- `unicom_bad` and `unicom_stream_fault`, which differ in what becomes of the cache. -/
def bad (why : String) (w : World E) : World E := fail S why (finish S .sourceDataLost w)

/-- `unicom_ready`. -/
def becomeReady (w : World E) : World E :=
  tell S (.ready w.u.hello) (w.act fun u => { u with phase := .done, ready := true, voiceReady := u.hello })

/-- `unicom_start_pending`. -/
def startPending (w : World E) : World E :=
  if !w.u.pendingVoice || !w.u.down || !w.u.ready || !w.u.voiceReady || w.u.active then w
  else
    let (owner, w) := w.askSession S
    let w := w.act fun u => { u with pendingVoice := false }
    if owner = 0 ∨ owner ≠ w.u.captureSession then w
    else
      let w := (w.act fun u =>
        { u.clear with
          active := true, started := false, closing := false, part := 0, previousValid := false
          command := 1, lastAudioMs := u.nowMs, captureMs := u.nowMs }).note (.opened w.u.captureSession)
      let (wanted, w) := w.askWanted S
      let w := w.act fun u => { u with announced := wanted }
      if wanted then tell S (.voice .sourceBegin) w else w

/-- The first voice event of a capture. -/
def announce (w : World E) : World E :=
  tell S (.voice .sourceBegin) (w.act fun u => { u with announced := true })

/-- `unicom_emit`. -/
def emit (p : List UInt8) (w : World E) : Bool × World E :=
  let (wanted, w) := w.askWanted S
  if !wanted then (false, w)
  else
    let (session, w) := w.askSession S
    if session ≠ w.u.captureSession then (false, w)
    else if !w.u.announced && w.u.closing then (false, w)
    else
      let w := if w.u.announced then w else announce S w
      let w :=
        if w.u.started then w
        else tell S (.voice .start) (w.act fun u => { u with started := true })
      (true, tell S (.voice (.encoded p)) w)

/-- `unicom_preroll_cancel`. -/
def prerollCancel (w : World E) : World E :=
  stop (w.act fun u => { u with preroll := u.preroll.setLen 0 })

/-! ## `unicom_tick` -/

/-- At most one unit leaves the ring in a turn. -/
def drainOne (w : World E) : World E :=
  if w.u.preroll.len = 0 then w
  else
    let (sent, w) := emit S (w.u.preroll.mem w.u.preroll.head) w
    if sent then w.act fun u => { u with preroll := u.preroll.consume 8 1 } else w

/-- The session has changed, or voice is not wanted any more. -/
def tickOwner (w : World E) : World E :=
  let (session, w) := w.askSession S
  if session ≠ w.u.captureSession then prerollCancel w
  else if w.u.announced then
    let (wanted, w) := w.askWanted S
    if wanted then w else prerollCancel w
  else w

/-- Voice is wanted now. -/
def tickAnnounce (w : World E) : World E :=
  if !w.u.announced && !w.u.closing then
    let (wanted, w) := w.askWanted S
    if wanted then announce S w else w
  else w

/-- Nobody wanted voice for a quarter of a second. -/
def tickPreroll (w : World E) : World E :=
  if !w.u.announced && !w.u.closing && decide (250 ≤ w.u.nowMs - w.u.captureMs) then prerollCancel w else w

/-- The block of an open capture. -/
def tickCapture (w : World E) : World E :=
  if w.u.active then drainOne S (tickPreroll (tickAnnounce S (tickOwner S w))) else w

/-- What `rc003_adapter_on_gatt` does with the answer to a write. -/
def writeDone (ok : Bool) (w : World E) : World E :=
  if w.u.phase = .done && w.u.inFlight != 0 then
    if ok then w.act fun u => { u with inFlight := 0 } else bad S "Unicom FB write failed" w
  else w

/-- A queued command. -/
def tickCommand (w : World E) : World E :=
  if w.u.command = 0 then w
  else
    let cmd := w.u.command
    let w := w.act fun u =>
      { u with inFlight := cmd, command := 0, commandDeadline := u.nowMs + 30000 }
    let r := S.write (if cmd = 1 then 1 else 0) w.env
    let w : World E := { w with env := r.2 }
    match r.1 with
    | .retry => w.act fun u => { u with inFlight := 0, command := cmd }
    | .rejected => bad S "Unicom command rejected" (w.act fun u => { u with inFlight := 0 })
    | .accepted completion =>
      let w := completion.elim w fun ok => writeDone S ok w
      if cmd = 1 then w.act fun u => { u with refreshMs := u.nowMs + 5000 } else w

/-- The reason at the end of a capture. -/
def endReason (u : State) : EndReason :=
  if u.part ≠ 0 then .sourceDataLost else if u.started then .normal else .deviceError

/-- The capture has been closed and the remote is quiet, or a second has passed. -/
def endDue (u : State) : Bool :=
  u.active && u.closing && u.command == 0 &&
    ((decide (300 ≤ u.nowMs - u.lastAudioMs) && decide (300 ≤ u.nowMs - u.closeMs)) ||
      decide (1000 ≤ u.nowMs - u.closeMs))

/-- The rest of `unicom_tick`. -/
def tickRest (w : World E) : World E :=
  if w.u.closing && w.u.command != 0 && w.u.inFlight == 0 && decide (2000 ≤ w.u.nowMs - w.u.closeMs) then
    bad S "Unicom stop submission timeout" w
  else if w.u.inFlight ≠ 0 then
    if past w.u.nowMs w.u.commandDeadline then bad S "Unicom command timeout" w else w
  else if endDue w.u then finish S (endReason w.u) w
  else if w.u.active && !w.u.closing && decide (2000 ≤ w.u.nowMs - w.u.lastAudioMs) then
    bad S "Unicom audio timeout" w
  else
    tickCommand S
      (if w.u.active && !w.u.closing && w.u.started && past w.u.nowMs w.u.refreshMs then
        w.act fun u => { u with command := 1 }
      else w)

/-- `rc003_adapter_tick` for this remote. -/
def tick (nowMs : UInt32) (w : World E) : World E :=
  let w := w.act fun u => { u with nowMs }
  match w.u.phase with
  | .wait => if w.u.hello || past w.u.nowMs w.u.deadlineMs then becomeReady S w else w
  | .done => if w.u.voiceReady then tickRest S (tickCapture S (startPending S w)) else w
  | _ => w

/-! ## `unicom_notify` -/

/-- The greeting of the remote. -/
def helloBytes : List UInt8 := [0x10, 1, 0x4b, 0x2a, 3, 2, 4, 0, 2, 3]

def notifyHello (v : List UInt8) (w : World E) : World E :=
  if v ≠ helloBytes then bad S "Unicom initialization mismatch" w
  else
    let first := !w.u.hello
    let w := w.act fun u => { u with hello := true }
    if first && (w.u.phase = .wait || w.u.phase = .done) then becomeReady S w else w

/-- The voice key. -/
def notifyVoiceKey (v : List UInt8) (w : World E) : World E :=
  if ¬ (v.length = 20 ∧ v.getD 0 0 = 0x82 ∧ v.getD 1 0 = 3 ∧ v.getD 2 0 ≤ 1 ∧ ∀ b ∈ v.drop 3, b = 0) then
    bad S "Unicom F8 mismatch" w
  else
    let down := v.getD 2 0 != 0
    let edge := down && !w.u.down
    let w := w.act fun u => { u with down }
    if !down then stop (w.act fun u => { u with pendingVoice := false })
    else
      let w :=
        if edge && !w.u.active then
          let (session, w) := w.askSession S
          (w.act fun u => { u with captureSession := session, pendingVoice := session != 0 }).note
            (.keyDown session)
        else w
      startPending S w

/-- Parts come in order, with one number for each body. -/
def continues (u : State) (seq part : UInt16) : Bool :=
  part.toNat == u.part && decide (part.toNat ≤ 2) && (part == 0 || seq == u.sequence) &&
    (part != 0 || !u.previousValid || seq == u.previous + 1)

/-- The trailer of a body repeats its number and four of its bytes. -/
def trailerOk (body : List UInt8) (seq : UInt16) : Bool :=
  get16 body 42 == seq && (body.drop 44).take 4 == (body.drop 28).take 4

/-- The ring takes a unit, unless it is full. -/
def storeUnit (p : List UInt8) (w : World E) : World E :=
  if w.u.preroll.len = 8 then
    if w.u.announced then bad S "Unicom buffered audio overrun" w else prerollCancel w
  else w.act fun u => { u with preroll := (u.preroll.write 8 [p]).getD u.preroll }

/-- A unit that was not sent at once. -/
def keepUnit (p : List UInt8) (w : World E) : World E :=
  if w.u.announced then
    let (wanted, w) := w.askWanted S
    if wanted then storeUnit S p w else stop w
  else storeUnit S p w

/-- A complete body. -/
def takeUnit (p : List UInt8) (w : World E) : World E :=
  if !w.u.announced && w.u.closing then w
  else
    let (session, w) := w.askSession S
    if session ≠ w.u.captureSession then prerollCancel w
    else if w.u.preroll.len = 0 then
      let (sent, w) := emit S p w
      if sent then w else keepUnit S p w
    else keepUnit S p w

/-- A part goes to its place in the body. -/
def State.hear (v : List UInt8) (u : State) : State :=
  { u with
    sequence := if get16 v 2 = 0 then get16 v 0 else u.sequence
    body := u.body.take (16 * u.part) ++ v.drop 4 ++ u.body.drop (16 * u.part + 16)
    part := u.part + 1
    lastAudioMs := u.nowMs }

/-- The next part is the first of a body again. -/
def State.complete (seq : UInt16) (u : State) : State :=
  { u with part := 0, previous := seq, previousValid := true }

/-- A part of a body. -/
def notifyAudio (v : List UInt8) (w : World E) : World E :=
  if !w.u.active then w
  else
    let w := w.note (.heard v)
    let seq := get16 v 0
    let part := get16 v 2
    if v.length ≠ 20 then bad S "Unicom FC length" w
    else if !continues w.u seq part then bad S "Unicom FC continuity" w
    else
      let w := w.act (State.hear v)
      if part ≠ 2 then w
      else if !trailerOk w.u.body seq then bad S "Unicom FC trailer" w
      else takeUnit S (w.u.body.take 40) (w.act (State.complete seq))

/-- `unicom_keys`; the reports of all characteristics together are kept by the key state. -/
def notifyKeys (id : UInt8) (v : List UInt8) (w : World E) : World E :=
  match unicomDecode id v with
  | none => bad S "Unicom unknown key report" w
  | some bits => tell S (.keys bits) w

/-- `unicom_notify`, behind the check of `rc003_adapter_on_gatt`; no value is an empty notification. -/
def notify (handle : UInt16) (value : Option (List UInt8)) (w : World E) : World E :=
  if w.u.phase = .idle ∨ w.u.phase = .failed then w
  else
    match value with
    | none => bad S "Unicom empty notification" w
    | some v =>
      if handle = w.u.fd then notifyHello S v w
      else if handle = w.u.f8 then notifyVoiceKey S v w
      else if !w.u.ready then w
      else if handle = w.u.fc then notifyAudio S v w
      else
        match w.u.chars.find? fun c => c.valueHandle = handle with
        | some c =>
          if c.reportId = 1 ∨ c.reportId = 3 then notifyKeys S c.reportId v w
          else if (c.reportId = 0xf9 ∧ v.length ≠ 1) ∨ (c.reportId = 4 ∧ v.length ≠ 20) then
            bad S "Unicom extension length" w
          else w
        | none =>
          if handle = w.u.batValueHandle ∧ v.length = 1 ∧ v.getD 0 0 ≤ 100 then
            tell S (.battery (v.getD 0 0)) w
          else w

/-! ## Runs -/

inductive Input (E : Type) where
  | notify (handle : UInt16) (value : Option (List UInt8))
  | tick (nowMs : UInt32)
  | writeDone (ok : Bool)
  /-- `rc003_adapter_mic_stop`. -/
  | micStop
  /-- The bearer or the attributes of the remote fail. -/
  | fail (cause : String)
  | detach
  /-- Discovery starts, finds the handles, and ends with the subscription of FD. -/
  | begin (nowMs : UInt32)
  | found (fd fc f8 : UInt16) (chars : List ReportChar) (batValueHandle : UInt16)
  | subscribed
  /-- The server changes. -/
  | server (env : E)

def Input.run (w : World E) : Input E → World E
  | .notify handle value => Unicom.notify S handle value w
  | .tick nowMs => Unicom.tick S nowMs w
  | .writeDone ok => Unicom.writeDone S ok w
  | .micStop => stop w
  | .fail cause => if w.u.phase = .idle ∨ w.u.phase = .failed then w else Unicom.fail S cause w
  | .detach =>
    (w.act fun u =>
      { fd := u.fd, fc := u.fc, f8 := u.f8, chars := u.chars, batValueHandle := u.batValueHandle }).note .detached
  | .begin nowMs => if w.u.phase = .idle then w.act fun u => { u with phase := .discovery, nowMs } else w
  | .found fd fc f8 chars batValueHandle =>
    if w.u.phase = .discovery then w.act fun u => { u with fd, fc, f8, chars, batValueHandle } else w
  | .subscribed =>
    if w.u.phase = .discovery then
      let w := w.act fun u => { u with phase := .wait, deadlineMs := u.nowMs + 2000 }
      if w.u.hello then becomeReady S w else w
    else w
  | .server env => { w with env }

/-- A run of a new adapter. -/
def unicomRun (env : E) (inputs : List (Input E)) : World E :=
  inputs.foldl (Input.run S) { u := {}, env, log := [] }

end RemoteBridge.Unicom
