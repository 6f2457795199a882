import RemoteBridge.Adapters.Unicom
import RemoteBridge.Product.Frames
import RemoteBridge.Product.Host

/-!
# The server behind the Unicom runtime

The surroundings of the adapter are the server itself: its two questions are functions of `rbp_server.c`,
and each message is one of its callbacks.  No callback opens a session, so a message leaves the session
that captures as it is, or there is none any more.
-/

namespace RemoteBridge

/-- `rbp_server_voice_wanted`. -/
def Server.voiceWanted (s : Server) : Bool := s.session.active && s.voice.enabled && !s.voice.waitingIdle

/-- `rbp_server_voice_capture_session`. -/
def Server.voiceCaptureSession (s : Server) : UInt32 :=
  if s.session.active && s.device.peerValid && !s.voice.denied && !s.voice.waitingIdle &&
      s.device.voiceState != .unsupported && s.device.voiceState != .failed then s.session.id
  else 0

/-! ## Sessions -/

section Sessions

variable {E : Type} {b : Build} {k : Nat} {w w' : World E}

lemma sessionId_withdraw (s : Server) : (s.withdraw b).session.id = 0 := by
  unfold Server.withdraw
  dsimp only
  split <;> rfl

lemma FrameStep.sessionId (h : FrameStep b w w') :
    w'.srv.session.id = w.srv.session.id ∨ w'.srv.session.id = 0 := by
  cases h with
  | plain l hlog hl hs => exact Or.inl (by rw [hs.session])
  | keys rep => exact Or.inl (congrArg Session.id (onlyKeys_applyKeys w.srv rep).session)
  | subscribe => exact Or.inl (congrArg Session.id (onlyKeys_enableEvents w.srv).session)
  | event op connectionId payload hp hf => exact Or.inl (congrArg Session.id (session_putCtl w.srv _))
  | emitCtl i slot bytes next hi hu ho hs => exact Or.inl ((congrArg Session.id (session_freeSlot _ i)).trans rfl)
  | withdraw => exact Or.inr (sessionId_withdraw w.srv)
  | media _ _ _ => exact Or.inl rfl
  | emitKey _ _ _ _ _ _ => exact Or.inl rfl
  | emitMedia _ _ _ _ _ _ _ => exact Or.inl rfl

/-- No callback opens a session. -/
lemma Moves.sessionId (h : Moves b k w w') :
    w'.srv.session.id = w.srv.session.id ∨ w'.srv.session.id = 0 := by
  have hframes : Frames b w w' := h.frames
  clear h
  induction hframes with
  | refl => exact Or.inl rfl
  | tail _ hstep ih =>
    rcases hstep.sessionId with heq | hzero
    · rw [heq]
      exact ih
    · exact Or.inr hzero

/-- A capture is for the session, or there is none. -/
lemma captureSession_cases (s : Server) :
    s.voiceCaptureSession = s.session.id ∨ s.voiceCaptureSession = 0 := by
  unfold Server.voiceCaptureSession
  split
  · exact Or.inl rfl
  · exact Or.inr rfl

end Sessions

namespace Unicom

/-! ## Messages -/

/-- The format of every stream. -/
def icoFormat : AudioFormat :=
  { codecId := 2, codecRevision := 1, sampleRate := 16000, channels := 1, maxUnitBytes := 40, config := [] }

def VoiceMsg.event : VoiceMsg → VoiceEvt
  | .sourceBegin => .sourceBegin
  | .start => .start icoFormat
  | .encoded data => .encoded data 40 0 320
  | .ended reason => .endOfStream reason

/-- Where the adapter runs: `now_ms` of the adapter, its profile, its transport and the text of a failure. -/
structure Site (E : Type) where
  build : Build
  platform : Platform E
  clock : RemoteBridge.World E → UInt32
  profile : DeviceProfile
  gatt : UInt8 → RemoteBridge.World E → Written × RemoteBridge.World E
  failure : String → List UInt8

variable {E : Type}

/-- What the server is called with. -/
def Site.callbacks (site : Site E) (now : UInt32) : Told → List Callback
  | .voice e => [.voice e.event now]
  | .ready voice =>
    [.profile (some site.profile), .voiceCaps (some { codecs := [{ id := 2, revision := 1 }], maxUnitBytes := 40 }),
      .voiceState (if voice then .ready else .unsupported) (if voice then .htt else .unavailable)
        (if voice then 16000 else 0),
      .link .ready 0 now]
  | .keys bits =>
    [.keys { kind := .physical, reason := .none, pressedBits := bits, capturedUs := now.toUInt64 * 1000 }]
  | .battery level => [.battery level 0]
  | .failed cause => [.adapterFailed (site.failure cause)]

/-- The server asks for a stop. -/
def stopCall : RemoteBridge.Ev → Bool
  | .called .voiceRequestStop _ => true
  | _ => false

/-- The server serves a message. -/
def Site.serve (site : Site E) (t : Told) (w : RemoteBridge.World E) : RemoteBridge.World E :=
  (site.callbacks (site.clock w) t).foldl (fun w c => c.run site.build site.platform w) w

/-- The server as the surroundings of the adapter. -/
def Site.surround (site : Site E) : Surround (RemoteBridge.World E) where
  wanted w := w.srv.voiceWanted
  session w := w.srv.voiceCaptureSession
  tell t w := (decide (w.log.countP stopCall < (site.serve t w).log.countP stopCall), site.serve t w)
  write := site.gatt

lemma Site.moves_serve (site : Site E) (hP : Backend site.build site.platform) (e : VoiceMsg)
    (w : RemoteBridge.World E) : Moves site.build 2 w (site.serve (.voice e) w) :=
  moves_callback hP (.voice e.event (site.clock w)) w

end Unicom

end RemoteBridge
