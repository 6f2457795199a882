import RemoteBridge.Product.Turns

/-!
# What a host sends

Frames of a host as the server's receiver sees them.  A receiver between frames that is fed the bytes of
one encoded frame reports exactly this frame, so a run can be followed from frame to frame without
decoding bytes.
-/

namespace RemoteBridge

open World

variable {E : Type} (b : Build) (P : Platform E)

/-- The header of a request. -/
def hostHeader (op : RequestOp) (sessionId requestId connectionId : UInt32) : Header :=
  { kind := kindRequest, sessionId := sessionId, opcode := op.code, requestId := requestId,
    connectionId := connectionId }

/-- A `HELLO` of a version that does not exist. -/
def futureHello : Header :=
  { (hostHeader .hello 0 1 0).stamped 1 0 with major := 9 }

/-- The server hears one frame, at its current time. -/
def World.hears (h : Header) (txSeq : UInt32) (payload : List UInt8) (w : World E) : World E :=
  processFrame b P (h.stamped txSeq payload.length) payload true
    ((w.act (Server.setNow w.srv.nowMs)).act (Server.setRx (RxParser.init w.srv.nowMs)))

variable {b P} {w : World E}

/-- Hearing a frame is receiving its bytes. -/
lemma onUsbRx_wireFrame {start : UInt32} (hrx : w.srv.rx = RxParser.init start) (h : Header)
    (txSeq : UInt32) {payload : List UInt8} (hlen : payload.length ≤ maxPayload) :
    onUsbRx b P (wireFrame (h.stamped txSeq payload.length) payload) w.srv.nowMs w =
      w.hears b P h txSeq payload := by
  have hdrain := RxParser.drain_wireFrame w.srv.nowMs start h txSeq hlen
  unfold onUsbRx World.hears
  simp only [srv_act, Server.setNow, hrx, hdrain, List.foldl_cons, List.foldl_nil, serverRxEvent]

/-- A heard frame is an input of a run. -/
lemma Reach.hears {ok : Input → Prop} {n : Nat} {start : UInt32} (hw : Reach b ok w)
    (hP : Honest b n P) (hok : ∀ data nowMs, ok (.usbRx data nowMs))
    (hrx : w.srv.rx = RxParser.init start) (h : Header) (txSeq : UInt32) {payload : List UInt8}
    (hlen : payload.length ≤ maxPayload) : Reach b ok (w.hears b P h txSeq payload) := by
  have hinput := Reach.input n P (.usbRx (wireFrame (h.stamped txSeq payload.length) payload)
    w.srv.nowMs) hP (hok _ _) hw
  rw [← onUsbRx_wireFrame hrx h txSeq hlen]
  exact hinput

/-- A platform whose backend functions succeed and report nothing, and whose output accepts nothing. -/
def silentPlatform : Platform Unit where
  call := fun _ w => (w, .ok)
  out := fun _ _ => 0
  out_le := fun _ _ => Nat.zero_le _
  save := fun _ _ => (true, ())
  clear := fun _ => (true, ())
  rng := fun _ => (1, ())
  faults := fun _ => ([], 0, 0)

lemma silentPlatform_honest : Honest b 0 silentPlatform := fun _ w => .refl w

/-- The same with an output that takes all bytes. -/
def thirstyPlatform : Platform Unit :=
  { silentPlatform with
    out := fun _ bytes => bytes.length
    out_le := fun _ _ => le_rfl }

lemma thirstyPlatform_honest : Honest b 0 thirstyPlatform := fun _ w => .refl w

/-- A configuration. -/
def plainConfig : Config :=
  { maxKeys := 16, maxCaptureMs := 0, bridgeUid := List.replicate 16 0, firmwareVersion := none,
    resetReason := 0, hasVoiceStart := true }

/-- The server after its start, with nothing stored. -/
def freshWorld : World Unit := { srv := Server.init Build.default plainConfig none none, env := (), log := [] }

lemma reach_freshWorld {ok : Input → Prop} : Reach Build.default ok freshWorld :=
  .init plainConfig none none ()

/-- A frame heard on the default build, with a silent backend. -/
def World.listens (h : Header) (txSeq : UInt32) (payload : List UInt8) (w : World Unit) : World Unit :=
  w.hears Build.default silentPlatform h txSeq payload

section Silent

variable {ok : Input → Prop} {w : World Unit}

lemma Reach.listens (hw : Reach Build.default ok w) (hok : ∀ data nowMs, ok (.usbRx data nowMs))
    (hrx : w.srv.rx = RxParser.init 0) {h : Header} {txSeq : UInt32} {payload : List UInt8}
    (hlen : payload.length ≤ maxPayload) : Reach Build.default ok (w.listens h txSeq payload) :=
  hw.hears silentPlatform_honest hok hrx h txSeq hlen

lemma Reach.silent (hw : Reach Build.default ok w) {i : Input} (hi : ok i) :
    Reach Build.default ok (i.run Build.default silentPlatform w) :=
  .input 0 silentPlatform i silentPlatform_honest hi hw

lemma Reach.thirsty (hw : Reach Build.default ok w) {i : Input} (hi : ok i) :
    Reach Build.default ok (i.run Build.default thirstyPlatform w) :=
  .input 0 thirstyPlatform i thirstyPlatform_honest hi hw

/-- A host opens a session, and the remote connects as connection 7. -/
def readyWorld : World Unit :=
  (Input.callback (.link .ready 7 0)).run Build.default silentPlatform
    (freshWorld.listens (hostHeader .hello 0 1 0) 1 (tlvPutBytes 1 (List.replicate 16 7) []))

lemma reach_readyWorld (hrx : ∀ data nowMs, ok (.usbRx data nowMs))
    (hlink : ok (.callback (.link .ready 7 0))) : Reach Build.default ok readyWorld :=
  (reach_freshWorld.listens hrx rfl (by decide)).silent hlink

/-- A host subscribes to the keys of connection 7. -/
def subscribedWorld : World Unit :=
  readyWorld.listens (hostHeader .eventsEnable 1 2 7) 2 (tlvPutBool 1 true [])

lemma reach_subscribedWorld : Reach Build.default anyInput subscribedWorld :=
  (reach_readyWorld (fun _ _ => trivial) trivial).listens (fun _ _ => trivial) rfl (by decide)

/-- A `PING` with the given number as request id, sequence number and cookie. -/
def World.pinged (n : UInt32) (w : World Unit) : World Unit :=
  w.listens (hostHeader .ping 1 n 0) n (tlvPutU32 1 n [])

lemma Reach.pinged (hw : Reach Build.default anyInput w) (n : UInt32)
    (hrx : w.srv.rx = RxParser.init 0) : Reach Build.default anyInput (w.pinged n) :=
  hw.listens (fun _ _ => trivial) hrx (length_tlvPut_le (Nat.zero_le _))

end Silent

end RemoteBridge
