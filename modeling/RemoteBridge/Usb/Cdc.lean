import RemoteBridge.Framework.IndexRing

/-!
# The USB serial link of `usb_cdc.c`

The controller's interrupt handler and the task share two rings and a handful of flags.  `Bulk` is the
state of the data endpoint: the rings, the flags, the control register of endpoint 2 and the packet that
stands in its IN buffer.  `Control` is the state of the control endpoint, of the notification endpoint and
of the descriptors; nothing of it is read by the data path.

Every interrupt and every task call is one function from a `Port` to a `Port`: the task masks the USB
interrupt around each of its calls, and the handler never calls back.  `Irq` is what the handler finds in
the controller's registers.  The log is ghost state: it records, newest first, the bytes that crossed each
end of the two rings, the packets that were loaded and taken, and the losses.

The data toggles are kept as the code keeps them, although only the controller reads them.  Trace calls
are left out.
-/

namespace RemoteBridge

namespace Usb

/-- `RX_RING`. -/
def rxRing : Nat := 64

/-- `TX_RING`. -/
def txRing : Nat := 512

/-- How an endpoint answers a token: the `UEP_R_RES` and `UEP_T_RES` fields. -/
inductive Response where
  | ack
  | nak
  | stall
  deriving DecidableEq, Repr

/-- A `UEPn_CTRL` register. -/
structure EndpointCtrl where
  rTog : Bool := false
  tTog : Bool := false
  rRes : Response := .nak
  tRes : Response := .nak

/-- The states of a control transfer. -/
inductive CtrlState where
  | idle
  | dataIn
  | statusOut
  | statusIn
  | lineOut
  deriving DecidableEq, Repr

/-- The data path: endpoint 2. -/
structure Bulk where
  rx : IndexRing UInt8
  tx : IndexRing UInt8
  txInflight : Bool := false
  txZlp : Bool := false
  configured : Bool := false
  suspended : Bool := false
  haltIn : Bool := false
  haltOut : Bool := false
  /-- `lifecycle_lost`. -/
  lost : Bool := false
  ctrl : EndpointCtrl := {}
  /-- The IN half of `ep2_buf`, up to `R8_UEP2_T_LEN`. -/
  packet : List UInt8 := []

/-- The control path: endpoints 0 and 1. -/
structure Control where
  dtrOn : Bool := false
  lineCoding : List UInt8 := [0x00, 0xc2, 0x01, 0, 0, 0, 8]
  serialDesc : List UInt8 := []
  /-- The bytes that `ctrl_ptr` and `ctrl_left` still stand for. -/
  left : List UInt8 := []
  zlp : Bool := false
  pendingAddress : UInt8 := 0
  addressPending : Bool := false
  state : CtrlState := .idle
  /-- `R8_USB_DEV_AD`. -/
  address : UInt8 := 0
  ep0 : EndpointCtrl := {}
  packet0 : List UInt8 := []
  ep1 : EndpointCtrl := {}
  packet1 : List UInt8 := []

/-- What the log records. -/
inductive UsbEv where
  /-- The handler took an OUT packet into the ring. -/
  | received (data : List UInt8)
  /-- `usb_cdc_read` returned these bytes. -/
  | returned (data : List UInt8)
  /-- `usb_cdc_write` accepted these bytes. -/
  | accepted (data : List UInt8)
  /-- `tx_kick` loaded an IN packet. -/
  | loaded (packet : List UInt8)
  /-- The host took the IN packet that was loaded. -/
  | sent (packet : List UInt8)
  /-- `lose_transport`. -/
  | lost
  /-- `usb_cdc_take_lost` returned this. -/
  | taken (lost : Bool)
  deriving DecidableEq, Repr

/-- The file-scope state of `usb_cdc.c` and the controller's registers. -/
structure Port where
  bulk : Bulk
  ctrl : Control
  log : List UsbEv := []

/-- Eight bytes of a SETUP packet, as `setup` reads them. -/
structure SetupPacket where
  type : UInt8
  req : UInt8
  value : UInt16
  index : UInt16
  len : UInt16
  deriving DecidableEq, Repr

/-- The token of a completed transfer; the SETUP token is reported by its own bit. -/
inductive Token where
  | out
  | sof
  | input
  | setup
  deriving DecidableEq, Repr

/-- The registers that `USB_IRQHandler` reads. -/
structure Irq where
  busRst : Bool := false
  transfer : Bool := false
  suspend : Bool := false
  togOk : Bool := false
  token : Token := .setup
  endpoint : UInt8 := 0
  /-- The bytes that the controller put into the endpoint's OUT buffer, `R8_USB_RX_LEN` of them. -/
  data : List UInt8 := []
  /-- The SETUP packet that is pending, and whether it was already there when the handler began. -/
  setup : Option (Bool × SetupPacket) := none
  /-- `RB_UMS_SUSPEND`. -/
  misSuspend : Bool := false

/-! ## Descriptors -/

def devDesc : List UInt8 :=
  [0x12, 0x01, 0x10, 0x01, 0x02, 0x00, 0x00, 0x40, 0x86, 0x1A, 0x57, 0x58, 0x01, 0x00, 0x01, 0x02, 0x03,
    0x01]

/-- `cfg_desc`; its length field is `CFG_DESC_LEN`. -/
def cfgDesc : List UInt8 :=
  [0x09, 0x02, 75, 0, 0x02, 0x01, 0x00, 0x80, 0x32,
    0x08, 0x0B, 0x00, 0x02, 0x02, 0x02, 0x01, 0x00,
    0x09, 0x04, 0x00, 0x00, 0x01, 0x02, 0x02, 0x01, 0x00,
    0x05, 0x24, 0x00, 0x10, 0x01,
    0x05, 0x24, 0x01, 0x00, 0x01,
    0x04, 0x24, 0x02, 0x02,
    0x05, 0x24, 0x06, 0x00, 0x01,
    0x07, 0x05, 0x81, 0x03, 0x10, 0x00, 0x01,
    0x09, 0x04, 0x01, 0x00, 0x02, 0x0A, 0x00, 0x00, 0x00,
    0x07, 0x05, 0x02, 0x02, 0x40, 0x00, 0x00,
    0x07, 0x05, 0x82, 0x02, 0x40, 0x00, 0x00]

example : cfgDesc.length = 75 := by decide

def langDesc : List UInt8 := [0x04, 0x03, 0x09, 0x04]

def mfrDesc : List UInt8 := [0x0E, 0x03, 0x52, 0, 0x42, 0, 0x50, 0, 0x20, 0, 0x42, 0, 0x52, 0]

def prodDesc : List UInt8 :=
  [0x18, 0x03, 0x42, 0, 0x72, 0, 0x69, 0, 0x64, 0, 0x67, 0, 0x65, 0, 0x20, 0, 0x55, 0, 0x53, 0, 0x42, 0,
    0, 0]

/-- One character of the serial number. -/
def hexDigit (n : UInt8) : UInt8 := if n < 10 then 0x30 + n else 0x37 + n

/-- The two characters of a byte. -/
def hexByte (byte : UInt8) : List UInt8 := [hexDigit (byte >>> 4), 0, hexDigit (byte &&& 15), 0]

/-- The serial number descriptor that `usb_cdc_init` builds from the chip's unique id. -/
def serialDescOf (uid : Fin 8 → UInt8) : List UInt8 :=
  34 :: 3 :: (List.ofFn uid).flatMap hexByte

/-! ## The data path -/

namespace Bulk

/-- `rx_arm`. -/
def rxArm (b : Bulk) : Bulk :=
  { b with ctrl := { b.ctrl with rRes :=
      if b.haltOut then .stall
      else if b.configured && !b.suspended && !b.lost && 64 ≤ rxRing - b.rx.len then .ack else .nak } }

/-- `data_reset`. -/
def dataReset (resetToggles : Bool) (b : Bulk) : Bulk :=
  { b with
    rx := b.rx.clear
    tx := b.tx.clear
    txInflight := false
    txZlp := false
    packet := []
    ctrl :=
      { rTog := !resetToggles && b.ctrl.rTog
        tTog := !resetToggles && b.ctrl.tTog
        rRes := if b.haltOut then .stall else .nak
        tRes := if b.haltIn then .stall else .nak } }

/-- Whether `tx_kick` may load a packet at all. -/
def sends (b : Bulk) : Bool := !b.haltIn && b.configured && !b.suspended && !b.lost

/-- The packet `tx_kick` loads next. -/
def nextPacket (b : Bulk) : List UInt8 := (b.tx.drain txRing 64).1

/-- The state after `tx_kick` has loaded a packet. -/
def load (b : Bulk) : Bulk :=
  { b with
    tx := (b.tx.drain txRing 64).2
    txZlp := b.nextPacket.length == 64
    txInflight := true
    packet := b.nextPacket
    ctrl := { b.ctrl with tRes := .ack } }

end Bulk

namespace Port

/-- A step of the data path that nothing records. -/
def act (p : Port) (f : Bulk → Bulk) : Port := { p with bulk := f p.bulk }

/-- A step of the control path. -/
def tune (p : Port) (f : Control → Control) : Port := { p with ctrl := f p.ctrl }

/-- Record an event. -/
def note (p : Port) (e : UsbEv) : Port := { p with log := e :: p.log }

/-- `lose_transport`. -/
def loseTransport (p : Port) : Port :=
  (p.act fun b => Bulk.dataReset false { b with lost := true }).note .lost

/-- `tx_kick`. -/
def txKick (p : Port) : Port :=
  if p.bulk.txInflight || !p.bulk.sends then p
  else if p.bulk.tx.len == 0 && !p.bulk.txZlp then p
  else (p.act Bulk.load).note (.loaded p.bulk.nextPacket)

/-! ## The control path -/

/-- `ctrl_stall`. -/
def ctrlStall (p : Port) : Port :=
  p.tune fun c => { c with
    state := .idle, ep0 := { rTog := true, tTog := true, rRes := .stall, tRes := .stall } }

/-- `ctrl_next`. -/
def ctrlNext (p : Port) : Port :=
  p.tune fun c => { c with
    packet0 := c.left.take 64
    left := c.left.drop 64
    zlp := !c.left.isEmpty && c.zlp
    ep0 := { c.ep0 with rRes := .nak, tRes := .ack } }

/-- `ctrl_send`. -/
def ctrlSend (data : List UInt8) (requested : UInt16) (p : Port) : Port :=
  (p.tune fun c => { c with
    left := data.take requested.toNat
    zlp := data.length < requested.toNat && (data.take requested.toNat).length % 64 == 0
    state := .dataIn
    ep0 := { rTog := true, tTog := true, rRes := .ack, tRes := .ack } }).ctrlNext

/-- `ctrl_status`. -/
def ctrlStatus (p : Port) : Port :=
  p.tune fun c => { c with
    state := .statusIn
    packet0 := []
    ep0 := { rTog := true, tTog := true, rRes := .nak, tRes := .ack } }

/-- `serial_state`. -/
def serialState (p : Port) : Port :=
  if !p.bulk.configured then p
  else p.tune fun c => { c with
    packet1 := [0xa1, 0x20, 0, 0, 0, 0, 2, 0, 3, 0]
    ep1 := { c.ep1 with tRes := .ack } }

/-- The endpoint of a halt request, `index` of a SET_FEATURE or CLEAR_FEATURE. -/
def setHalt (input halt : Bool) (b : Bulk) : Bulk :=
  let b := if input then { b with haltIn := halt } else { b with haltOut := halt }
  let res := if halt then Response.stall else .nak
  if input then { b with ctrl := { b.ctrl with tRes := res, tTog := halt && b.ctrl.tTog } }
  else { b with ctrl := { b.ctrl with rRes := res, rTog := halt && b.ctrl.rTog } }

/-- GET_DESCRIPTOR: the descriptor of a type and number. -/
def descriptor (p : Port) (value : UInt16) : Option (List UInt8) :=
  match (value >>> 8).toNat, (value &&& 255).toNat with
  | 1, 0 => some devDesc
  | 2, 0 => some cfgDesc
  | 3, 0 => some langDesc
  | 3, 1 => some mfrDesc
  | 3, 2 => some prodDesc
  | 3, 3 => some p.ctrl.serialDesc
  | _, _ => none

/-- The first byte of a GET_STATUS reply; `none` for an interface or endpoint that is not there. -/
def statusOf (p : Port) (r : SetupPacket) : Option Bool :=
  if r.type == 0x81 && r.index > 1 then none
  else if r.type == 0x82 then
    if r.index == 0x82 then some (p.bulk.ctrl.tRes == .stall)
    else if r.index == 2 then some (p.bulk.ctrl.rRes == .stall)
    else if r.index == 0x81 then some (p.ctrl.ep1.tRes == .stall)
    else if r.index != 0 && r.index != 0x80 then none
    else some false
  else some false

/-- SET_FEATURE (request 3) and CLEAR_FEATURE (request 1) of an endpoint's halt. -/
def setupHalt (r : SetupPacket) (p : Port) : Port :=
  if r.index == 0x81 then
    (p.tune fun c => { c with ep1 :=
      if r.req == 3 then { rTog := false, tTog := c.ep1.tTog, rRes := .ack, tRes := .stall }
      else { rTog := false, tTog := false, rRes := .ack, tRes := .nak } }).ctrlStatus
  else if r.index != 0x82 && r.index != 2 then p.ctrlStall
  else
    (((p.loseTransport).act (setHalt (r.index == 0x82) (r.req == 3))).act Bulk.rxArm).ctrlStatus

/-- SET_CONFIGURATION. -/
def setupConfiguration (r : SetupPacket) (p : Port) : Port :=
  let p := (p.act fun b => { b with haltIn := false, haltOut := false }).loseTransport
  let p := (p.act (Bulk.dataReset true)).act fun b => { b with configured := r.value != 0 }
  let p := p.tune fun c => { c with ep1 := { rTog := false, tTog := false, rRes := .ack, tRes := .nak } }
  p.serialState.ctrlStatus

/-- `setup`: decode a control request. -/
def setup (r : SetupPacket) (p : Port) : Port :=
  let p := p.tune fun c => { c with left := [], zlp := false, addressPending := false }
  if r.type == 0x80 && r.req == 6 then
    match p.descriptor r.value with
    | some data => p.ctrlSend data r.len
    | none => p.ctrlStall
  else if r.type == 0 && r.req == 5 && r.value < 128 && r.index == 0 && r.len == 0 then
    (p.tune fun c => { c with pendingAddress := r.value.toUInt8, addressPending := true }).ctrlStatus
  else if r.type == 0 && r.req == 9 && r.value ≤ 1 && r.index == 0 && r.len == 0 then
    p.setupConfiguration r
  else if r.type == 0x80 && r.req == 8 && r.value == 0 && r.index == 0 && r.len == 1 then
    p.ctrlSend [if p.bulk.configured then 1 else 0] r.len
  else if r.req == 0 && r.value == 0 && r.len == 2 && (r.type == 0x80 || r.type == 0x81 || r.type == 0x82)
  then
    match p.statusOf r with
    | some halted => p.ctrlSend [if halted then 1 else 0, 0] r.len
    | none => p.ctrlStall
  else if r.type == 2 && (r.req == 1 || r.req == 3) && r.value == 0 && r.len == 0 then
    p.setupHalt r
  else if r.type == 0x81 && r.req == 10 && r.value == 0 && r.index < 2 && r.len == 1 then
    p.ctrlSend [0] r.len
  else if r.type == 1 && r.req == 11 && r.value == 0 && r.index < 2 && r.len == 0 then
    p.ctrlStatus
  else if r.type == 0x21 && r.index == 0 then
    if r.req == 0x20 && r.len == 7 && r.value == 0 then
      p.tune fun c => { c with
        state := .lineOut, ep0 := { rTog := true, tTog := true, rRes := .ack, tRes := .nak } }
    else if r.req == 0x22 && r.len == 0 && r.value ≤ 3 then
      (p.tune fun c => { c with dtrOn := r.value &&& 1 != 0 }).ctrlStatus
    else p.ctrlStall
  else if r.type == 0xa1 && r.req == 0x21 && r.index == 0 && r.value == 0 && r.len == 7 then
    p.ctrlSend p.ctrl.lineCoding r.len
  else p.ctrlStall

/-! ## `USB_IRQHandler` -/

/-- OUT on endpoint 2. -/
def outPacket (data : List UInt8) (p : Port) : Port :=
  let p := p.act fun b => { b with ctrl := { b.ctrl with rTog := !b.ctrl.rTog } }
  let p :=
    if data.length > 64 || rxRing - p.bulk.rx.len < data.length then p.loseTransport
    else (p.act fun b => { b with rx := (b.rx.fill rxRing data).2 }).note (.received data)
  p.act Bulk.rxArm

/-- IN on endpoint 2: the host has the packet, the next one is loaded. -/
def inDone (p : Port) : Port :=
  let p := if p.bulk.ctrl.tRes == .ack then p.note (.sent p.bulk.packet) else p
  (p.act fun b => { b with
    ctrl := { b.ctrl with tTog := !b.ctrl.tTog, tRes := .nak }, txInflight := false }).txKick

/-- IN on endpoint 0. -/
def ctrlIn (setupPending : Bool) (p : Port) : Port :=
  if p.ctrl.state == .dataIn && !setupPending then
    let p := p.tune fun c => { c with ep0 := { c.ep0 with tTog := !c.ep0.tTog } }
    if !p.ctrl.left.isEmpty || p.ctrl.zlp then p.ctrlNext
    else p.tune fun c => { c with
      state := .statusOut, ep0 := { rTog := true, tTog := false, rRes := .ack, tRes := .nak } }
  else if p.ctrl.state == .statusIn then
    p.tune fun c => { c with
      address := if c.addressPending then c.pendingAddress else c.address
      addressPending := false
      state := .idle
      ep0 := { rTog := false, tTog := false, rRes := .ack, tRes := .nak } }
  else p

/-- OUT on endpoint 0. -/
def ctrlOut (setupPending togOk : Bool) (data : List UInt8) (p : Port) : Port :=
  if setupPending || !togOk then p
  else if p.ctrl.state == .lineOut && data.length == 7 then
    (p.tune fun c => { c with lineCoding := data }).ctrlStatus
  else if p.ctrl.state == .statusOut && data.length == 0 then
    p.tune fun c => { c with
      state := .idle, ep0 := { rTog := false, tTog := false, rRes := .ack, tRes := .nak } }
  else p.ctrlStall

/-- The token switch of the handler. -/
def transfer (i : Irq) (p : Port) : Port :=
  let setupPending := i.setup.any (·.1)
  match i.token, i.endpoint.toNat with
  | .out, 2 => if i.togOk then p.outPacket i.data else p
  | .input, 2 => p.inDone
  | .input, 1 => p.tune fun c => { c with ep1 := { c.ep1 with tTog := !c.ep1.tTog, tRes := .nak } }
  | .input, 0 => p.ctrlIn setupPending
  | .out, 0 => p.ctrlOut setupPending i.togOk i.data
  | _, _ => p

/-- A bus reset. -/
def busReset (p : Port) : Port :=
  let p := p.act fun b => { b with configured := false, suspended := false, haltIn := false, haltOut := false }
  let p := p.tune fun c => { c with address := 0, dtrOn := false, state := .idle, addressPending := false }
  let p := p.loseTransport.act (Bulk.dataReset true)
  p.tune fun c => { c with
    ep0 := { rTog := false, tTog := false, rRes := .ack, tRes := .nak }
    ep1 := { rTog := false, tTog := false, rRes := .ack, tRes := .nak } }

/-- A suspend or a resume. -/
def suspend (now : Bool) (p : Port) : Port :=
  let p := p.act fun b => { b with suspended := now }
  if now then p.loseTransport else p

/-- `USB_IRQHandler`. -/
def irq (i : Irq) (p : Port) : Port :=
  if i.busRst then p.busReset
  else
    let p :=
      if i.transfer then
        let p := p.transfer i
        match i.setup with
        | some (_, r) =>
          (p.tune fun c => { c with
            ep0 := { rTog := true, tTog := true, rRes := .ack, tRes := .nak } }).setup r
        | none => p
      else p
    if i.suspend then p.suspend i.misSuspend else p

/-! ## Task calls -/

/-- `usb_cdc_take_lost`. -/
def takeLost (p : Port) : Bool × Port :=
  let lost := p.bulk.lost
  (lost, ((p.act fun b => { b with lost := false }).act Bulk.rxArm).note (.taken lost))

/-- `usb_cdc_read`. -/
def read (cap : Nat) (p : Port) : List UInt8 × Port :=
  let (data, rx) := p.bulk.rx.drain rxRing cap
  (data, ((p.act fun b => { b with rx := rx }).act Bulk.rxArm).note (.returned data))

/-- `usb_cdc_write`. -/
def write (data : List UInt8) (p : Port) : Nat × Port :=
  if p.bulk.configured && !p.bulk.suspended && !p.bulk.lost then
    let (n, tx) := p.bulk.tx.fill txRing data
    (n, ((p.act fun b => { b with tx := tx }).note (.accepted (data.take n))).txKick)
  else (0, p.txKick)

/-- `usb_cdc_flush_tx`. -/
def flushTx (p : Port) : Port := p.txKick

/-- `usb_cdc_init`. -/
def init (uid : Fin 8 → UInt8) (rx tx : Nat → UInt8) : Port :=
  { bulk := Bulk.dataReset true { rx := { mem := rx }, tx := { mem := tx } }
    ctrl :=
      { serialDesc := serialDescOf uid
        ep0 := { rTog := false, tTog := false, rRes := .ack, tRes := .nak }
        ep1 := { rTog := false, tTog := false, rRes := .ack, tRes := .nak } } }

end Port

end Usb

end RemoteBridge
