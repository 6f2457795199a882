import RemoteBridge.Product.Requests

/-!
# Runs of the server

A run is any sequence of inputs: received bytes, ticks, output pumps, USB resets and callbacks of the
radio and the adapter.  At every input the platform may be another one; what it is wired to answers as
it likes.

What a backend function may do to the server is limited to the callbacks of `rbp_server.h`, which it may
make synchronously, in any number and order, and which may call backend functions again.  `Honest n`
says this for platforms whose callbacks nest at most `n` deep.
-/

namespace RemoteBridge

variable {E : Type} (b : Build)

/-- The functions that the radio and the adapter call. -/
inductive Callback where
  | scanCandidate (cand : Candidate)
  | scanDone (reason : UInt8) (nowMs : UInt32)
  | pairPrompt (method : PromptMethod) (number remainingMs : UInt32)
  | pairDone (status : Status) (peerCommitted : Bool) (peer : Option PeerRecord) (connectionId : UInt32)
  | forgetDone (status : Status) (uncertain : Bool)
  | link (state : LinkState) (connectionId nowMs : UInt32)
  | linkMessage (msg : List UInt8)
  | peerChanged (peer : PeerRecord)
  | keys (rep : KeysReport)
  | voice (ev : VoiceEvt) (nowMs : UInt32)
  | voiceState (state : VoiceState) (interaction : VoiceInteraction) (rate : UInt32)
  | battery (level charging : UInt8)
  | profile (profile : Option DeviceProfile)
  | voiceCaps (caps : Option AudioCaps)
  | adapterFailed (reason : List UInt8)

/-- The callback as the server executes it. -/
def Callback.run (P : Platform E) : Callback → World E → World E
  | .scanCandidate cand => onScanCandidate cand
  | .scanDone reason nowMs => onScanDone b P reason nowMs
  | .pairPrompt method number remainingMs => onPairPrompt b P method number remainingMs
  | .pairDone status committed peer connectionId => onPairDone b P status committed peer connectionId
  | .forgetDone status uncertain => onForgetDone b P status uncertain
  | .link state connectionId nowMs => onLink b P state connectionId nowMs
  | .linkMessage msg => onLinkMessage msg
  | .peerChanged peer => onPeerChanged peer
  | .keys rep => onKeys rep
  | .voice ev nowMs => onVoice b P ev nowMs
  | .voiceState state interaction rate => onVoiceState b P state interaction rate
  | .battery level charging => onBattery b P level charging
  | .profile p => setProfile b P p
  | .voiceCaps caps => setVoiceCaps caps
  | .adapterFailed reason => RemoteBridge.adapterFailed b P reason

/-- What a backend function may do before it returns: change its own state and report, the reports
being served by platforms that meet `H`. -/
inductive Reports (H : Platform E → Prop) : World E → World E → Prop
  | refl (w : World E) : Reports H w w
  | env {w w' : World E} (e : E) (h : Reports H w w') : Reports H w { w' with env := e }
  | callback {w w' : World E} (P : Platform E) (cb : Callback) (hP : H P) (h : Reports H w w') :
      Reports H w (cb.run b P w')

/-- Backend functions touch the server only through callbacks, nested at most `n` deep. -/
def Honest : Nat → Platform E → Prop
  | 0 => fun P => ∀ c w, Reports b (fun _ => False) w (P.call c w).1
  | n + 1 => fun P => ∀ c w, Reports b (Honest n) w (P.call c w).1

/-- What can happen to the server from outside. -/
inductive Input where
  | usbRx (data : List UInt8) (nowMs : UInt32)
  | tick (nowMs : UInt32)
  | flush
  | usbGone (nowMs : UInt32)
  | callback (cb : Callback)

def Input.run (P : Platform E) : Input → World E → World E
  | .usbRx data nowMs => onUsbRx b P data nowMs
  | .tick nowMs => RemoteBridge.tick b P nowMs
  | .flush => flushOutput b P
  | .usbGone nowMs => onUsbGone b P nowMs
  | .callback cb => cb.run b P

/-- The worlds between the inputs of a run whose inputs meet `ok`. -/
inductive Reach (ok : Input → Prop) : World E → Prop
  | init (cfg : Config) (profile : Option DeviceProfile) (loaded : Option PeerRecord) (env : E) :
      Reach ok { srv := Server.init b cfg profile loaded, env := env, log := [] }
  | env {w : World E} (e : E) (h : Reach ok w) : Reach ok { w with env := e }
  | input {w : World E} (n : Nat) (P : Platform E) (i : Input) (hP : Honest b n P) (hi : ok i)
      (h : Reach ok w) : Reach ok (i.run b P w)

/-- Any input. -/
def anyInput : Input → Prop := fun _ => True

end RemoteBridge
