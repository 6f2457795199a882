import RemoteBridge.Product.Host
import RemoteBridge.Radio.Polls

/-!
# The firmware

One boot of the bridge: `main` initialises the board store, the server and the radio, and then runs
whatever the tasks, the SDK and the adapter call, in any order.  The SDK may answer every input
differently, and callbacks may nest to any depth.

`RadioInput.stepped` summarises the last three modules: whatever the input is, the step is a run of
`Drives`, or the poll.
-/

namespace RemoteBridge

open World

/-! ## Start -/

/-- What a reset finds. -/
structure Reset where
  slot : Fin 2 → Board.Page
  /-- Which EEPROM reads of the load succeed. -/
  readOk : Nat → Bool
  cfg : Config
  profile : Option DeviceProfile
  /-- The audio formats that the adapter supports. -/
  caps : Option AudioCaps
  nowMs : UInt32
  /-- The task of the radio got an id. -/
  registered : Bool

/-- The world after `rbp_server_init` and `rc003_adapter_init`; `trace` is what happened before. -/
def Reset.world (b : Build) (r : Reset) (trace : List RadioMark) : World Radio :=
  let load := (Board.boot r.slot r.readOk).storeLoad
  let radio : Radio := { central := {}, board := load.2, nowMs := r.nowMs, trace := trace }
  setVoiceCaps r.caps
    { srv := Server.init b r.cfg r.profile load.1, env := radio.record .lost, log := [] }

/-- The world after `main` has initialised everything. -/
def Reset.boot (b : Build) (sdk : Sdk) (n : Nat) (r : Reset) (trace : List RadioMark) : World Radio :=
  wchCentralInit b sdk (platform b sdk n) r.registered (r.world b trace)

/-! ## Inputs -/

/-- What can happen to the firmware. -/
inductive RadioInput where
  /-- The clock moves on. -/
  | clock (nowMs : UInt32)
  | usbGone
  | usbRx (data : List UInt8)
  | tick
  /-- `rc003_adapter_tick`. -/
  | adapterTick
  | gap (e : GapEvent)
  | passcode (handle : UInt16) (inputs outputs : Bool)
  | pairState (handle : UInt16) (state : PairingState) (status : UInt8)
  | gattMessage (handle : UInt16) (notification : Bool)
  | start
  | poll

section

variable (b : Build) (sdk : Sdk) (P : Platform Radio)

/-- The input as the firmware executes it. -/
def RadioInput.run (w : World Radio) : RadioInput → World Radio
  | .clock nowMs => { w with env := { w.env with nowMs := nowMs } }
  | .usbGone => onUsbGone b P w.env.nowMs w
  | .usbRx data => onUsbRx b P data w.env.nowMs w
  | .tick => RemoteBridge.tick b P w.env.nowMs w
  | .adapterTick => adapt b sdk P .tick w
  | .gap e => wcEventCb b sdk P e w
  | .passcode handle inputs outputs => wcPasscodeCb b sdk P handle inputs outputs w
  | .pairState handle state status => wcPairStateCb b sdk P handle state status w
  | .gattMessage handle notification => onGattMessage b sdk P handle notification w
  | .start => startDevice b sdk P w
  | .poll => RemoteBridge.poll b sdk P w

end

/-- The worlds between the inputs of one boot. -/
inductive Boots (b : Build) : World Radio → Prop
  | reset (r : Reset) (sdk : Sdk) (n : Nat) : Boots b (r.boot b sdk n [])
  | input {w : World Radio} (i : RadioInput) (sdk : Sdk) (n : Nat) (h : Boots b w) :
      Boots b (i.run b sdk (platform b sdk n) w)

/-! ## Steps -/

/-- What one input does. -/
inductive Stepped (b : Build) (sdk : Sdk) (w w' : World Radio) : Prop
  | clock (nowMs : UInt32) (h : w' = { w with env := { w.env with nowMs := nowMs } })
  | event (h : Drives b sdk 1 w w')
  | request (h : Drives b sdk 2 w w')
  | polled (h : Polled b sdk w w')

lemma RadioInput.stepped {b : Build} {w : World Radio} (i : RadioInput) (sdk : Sdk) (n : Nat)
    (hb : w.env.central.seeks → w.env.central.securityBlocked = false) (hj : w.env.Journalled) :
    Stepped b sdk w (i.run b sdk (platform b sdk n) w) := by
  have hP := wired_platform b sdk n
  have hQ := backed_platform b sdk n
  have h₁ : Drives b sdk 1 w w := .refl w
  cases i with
  | clock nowMs => exact .clock nowMs rfl
  | usbGone => exact .event (h₁.serve hP ((Serves.refl _).onUsbGone _))
  | usbRx data => exact .request ((Drives.refl w).onUsbRx hP hQ hj.owner data _)
  | tick => exact .event (h₁.tick hP le_rfl _)
  | adapterTick => exact .event (h₁.adapt hP _)
  | gap e => exact .event (h₁.wcEventCb hP le_rfl hb e)
  | passcode handle inputs outputs => exact .event (h₁.wcPasscodeCb hP _ _ _)
  | pairState handle state status => exact .event (h₁.wcPairStateCb hP le_rfl _ _ _)
  | gattMessage handle notification => exact .event (h₁.onGattMessage hP _ _)
  | start => exact .event (h₁.startDevice hP le_rfl)
  | poll => exact .polled (polled_poll hP hj)

/-- The initialisation of the radio: two runs of events around the look at the journal. -/
lemma wchCentralInit_drives (b : Build) (sdk : Sdk) (n : Nat) (registered : Bool) (w : World Radio) :
    ∃ w₁, Drives b sdk 1 w w₁ ∧
      Drives b sdk 1 (w₁.tune fun c =>
          { c with recovering := w₁.env.storageState == 2 || w₁.env.storageState == 3,
                   recoveryDeadline := 0 })
        (wchCentralInit b sdk (platform b sdk n) registered w) := by
  have hP := wired_platform b sdk n
  have hstart : Drives b sdk 1 w (w.tune fun c => { c with deadline := w.env.nowMs + cancelTimeoutMs }) :=
    (Drives.refl w).free _ ⟨rfl, rfl, rfl, rfl, rfl, rfl, rfl, rfl⟩
  have hregister : Drives b sdk 1 w (if registered then
      (w.tune fun c => { c with deadline := w.env.nowMs + cancelTimeoutMs })
      else radioFault b sdk (platform b sdk n) "TMOS task registration failed"
        (w.tune fun c => { c with deadline := w.env.nowMs + cancelTimeoutMs })) := by
    split
    · exact hstart
    · exact hstart.radioFault hP le_rfl _
  have hconfig := (hregister.configures hP le_rfl "GAP configuration failed" gapConfig
    (by simp [gapConfig, RadioEv.plain])).configures hP le_rfl "bond configuration failed" bondConfig
    (by simp [bondConfig, RadioEv.plain])
  have hclient : (RadioEv.asked .initClient).plain = true := rfl
  unfold wchCentralInit
  dsimp only
  generalize (List.foldl _ (List.foldl _ _ _) bondConfig) = w₁ at hconfig ⊢
  have hlook : Drives b sdk 1 (w₁.tune fun c =>
      { c with recovering := w₁.env.storageState == 2 || w₁.env.storageState == 3, recoveryDeadline := 0 })
      (w₁.tune fun c =>
      { c with recovering := w₁.env.storageState == 2 || w₁.env.storageState == 3,
               recoveryDeadline := 0 }) := .refl _
  refine ⟨w₁, hconfig, ?_⟩
  generalize (w₁.tune fun c =>
      { c with recovering := w₁.env.storageState == 2 || w₁.env.storageState == 3,
               recoveryDeadline := 0 }) = w₂ at hlook ⊢
  split
  · exact (hlook.radioFault hP le_rfl _).configure hP le_rfl _ hclient
  · exact hlook.configure hP le_rfl _ hclient

/-! ## A bench -/

/-- An SDK, an EEPROM and an adapter that do what they are asked; USB takes nothing. -/
def benchSdk : Sdk where
  status := fun _ _ => 0
  bondCount := fun _ => 0
  bondRecord := fun _ => (fun i => UInt8.ofNat (i.val + 1), 0)
  irk := fun _ _ => 0
  resolves := fun _ _ => false
  encrypted := fun _ => true
  rand := fun _ => 0
  eeprom := fun _ _ => .complete
  cacheFails := fun _ => false
  adapterReady := fun _ => true
  hidFlags := fun _ => 255
  capturing := fun _ => false
  reports := fun _ _ => []
  micStartStatus := fun _ => .ok
  usbAccepts := fun _ _ => 0
  rng := fun _ => 1
  faults := fun _ => ([], 0, 0)

/-- A reset with the given pages in the EEPROM. -/
def benchReset (slot : Fin 2 → Board.Page) : Reset where
  slot := slot
  readOk := fun _ => true
  cfg := plainConfig
  profile := none
  caps := none
  nowMs := 0
  registered := true

/-- The firmware on a blank board. -/
def blankBench : World Radio :=
  (benchReset fun _ => FlashPage.erased).boot Build.default benchSdk 4 []

lemma boots_blankBench : Boots Build.default blankBench := .reset _ _ _

/-- An input on the bench. -/
def World.bench (i : RadioInput) (w : World Radio) : World Radio :=
  i.run Build.default benchSdk (platform Build.default benchSdk 4) w

lemma Boots.bench {w : World Radio} (h : Boots Build.default w) (i : RadioInput) :
    Boots Build.default (w.bench i) :=
  .input i benchSdk 4 h

/-- A request of the host on the bench. -/
def World.benchHears (h : Header) (txSeq : UInt32) (payload : List UInt8) (w : World Radio) :
    World Radio :=
  w.hears Build.default (platform Build.default benchSdk 4) h txSeq payload

/-- What USB brings on the bench is the request. -/
lemma bench_wireFrame {w : World Radio} (hrx : w.srv.rx = RxParser.init 0)
    (hnow : w.srv.nowMs = w.env.nowMs) (h : Header) (txSeq : UInt32) (payload : List UInt8)
    (hlen : payload.length ≤ maxPayload) :
    w.bench (.usbRx (wireFrame (h.stamped txSeq payload.length) payload)) = w.benchHears h txSeq payload := by
  show onUsbRx _ _ _ w.env.nowMs w = _
  rw [← hnow]
  exact onUsbRx_wireFrame hrx h txSeq hlen

lemma Boots.benchHears {w : World Radio} (hw : Boots Build.default w)
    (hrx : w.srv.rx = RxParser.init 0) (hnow : w.srv.nowMs = w.env.nowMs) (h : Header)
    (txSeq : UInt32) (payload : List UInt8) (hlen : payload.length ≤ maxPayload) :
    Boots Build.default (w.benchHears h txSeq payload) := by
  rw [← bench_wireFrame hrx hnow h txSeq payload hlen]
  exact hw.bench _

end RemoteBridge
