import RemoteBridge.Adapters.Discovery

/-!
# The GATT client of the board

`wch_gatt.c`: it submits the procedures of the adapter to the BLE library, one at a time, and turns the
messages of the library into the events of the adapter.  The library is a parameter; what it answers to a
submission may depend on everything it was asked before.

An event may make the adapter submit the next procedure before the handler of the message is done.  The
handler knows by `generation`, which counts the procedures that were accepted or completed.

The records of the fault log are left out here.  A notification is checked here; what the adapter makes of
it is a step of `Heard`.
-/

namespace RemoteBridge

/-- `gop_t`. -/
inductive Gop where
  | none
  | exchangeMtu
  | discSvc
  | readChars
  | discDescs
  | readValue
  | readLong
  | write
  | failed
  deriving DecidableEq, Repr

/-- What the client asks of the BLE library. -/
inductive GattRequest where
  | exchangeMtu (mtu : UInt16)
  | discService (uuid : List UInt8)
  | discChars (first last : UInt16) (uuid : List UInt8)
  | discDescs (first last : UInt16)
  | readValue (handle : UInt16)
  | readLong (handle offset : UInt16)
  | write (handle : UInt16) (value : List UInt8)
  | command (handle : UInt16) (value : List UInt8)
  | confirm
  deriving DecidableEq, Repr

/-- The BLE library: the status of a call, and whether there is a buffer for a write. -/
structure BleSdk (S : Type) where
  call : GattRequest → S → UInt8 × S
  alloc : Nat → S → Bool × S

/-- `SUCCESS`, and the other statuses the client knows. -/
def sdkSuccess : UInt8 := 0

def msgBufferNotAvail : UInt8 := 0x04

def bleMemAllocError : UInt8 := 0x13

def bleNoResources : UInt8 := 0x15

def blePending : UInt8 := 0x16

def bleTimeout : UInt8 := 0x17

def bleProcedureComplete : UInt8 := 0x1a

/-- The ATT errors the client knows. -/
def attInvalidPdu : UInt8 := 0x04

def attInvalidOffset : UInt8 := 0x07

def attAttrNotFound : UInt8 := 0x0a

def attInvalidValueSize : UInt8 := 0x0d

/-- `GAP_CONNHANDLE_INIT`. -/
def gapConnHandleInit : UInt16 := 0xfffe

/-- The static variables of `wch_gatt.c`, with the state of the library. -/
structure Wch (S : Type) where
  connHandle : UInt16 := gapConnHandleInit
  negMtu : UInt16 := 23
  curOp : Gop := .failed
  generation : UInt32 := 0
  readOffset : UInt16 := 0
  foundService : Bool := false
  pendingStart : UInt16 := 0
  pendingEnd : UInt16 := 0
  sdk : S

/-- `rejected`. -/
def rejected (status : UInt8) : GattRet :=
  if status = sdkSuccess then .ok
  else if status = blePending ∨ status = bleMemAllocError ∨ status = bleNoResources ∨
      status = msgBufferNotAvail then .retry
  else .rejected

/-- The two bytes of a short UUID. -/
def uuidBytes (uuid : UInt16) : List UInt8 := [uuid.toUInt8, (uuid >>> 8).toUInt8]

namespace Wch

variable {S : Type}

/-- A call of the library; if it accepts, the procedure owns the client. -/
def start (sdk : BleSdk S) (op : Gop) (c : GattRequest) (own : Wch S → Wch S) (w : Wch S) :
    GattRet × Wch S :=
  let r := sdk.call c w.sdk
  let w := { w with sdk := r.2 }
  match rejected r.1 with
  | .ok => (.ok, { own w with generation := w.generation + 1, curOp := op })
  | other => (other, w)

/-- The handles a response may have. -/
def pending (first last : UInt16) (w : Wch S) : Wch S := { w with pendingStart := first, pendingEnd := last }

/-- `op_exchange_mtu` and its siblings, once no procedure is pending. -/
def submitFree (sdk : BleSdk S) (r : GattReq) (w : Wch S) : GattRet × Wch S :=
  match r with
  | .exchangeMtu mtu => start sdk .exchangeMtu (.exchangeMtu mtu) id w
  | .discService16 uuid =>
    start sdk .discSvc (.discService (uuidBytes uuid))
      (fun w => { w.pending 1 0xffff with foundService := false }) w
  | .discService128 uuid =>
    start sdk .discSvc (.discService uuid) (fun w => { w.pending 1 0xffff with foundService := false }) w
  | .readChars16 first last uuid =>
    start sdk .readChars (.discChars first last (uuidBytes uuid)) (pending first last) w
  | .readChars128 first last uuid =>
    start sdk .readChars (.discChars first last uuid) (pending first last) w
  | .discDescs first last => start sdk .discDescs (.discDescs first last) (pending first last) w
  | .readValue handle => start sdk .readValue (.readValue handle) (pending handle handle) w
  | .readLong handle offset =>
    start sdk .readLong (.readLong handle offset)
      (fun w => { w.pending handle handle with readOffset := offset }) w
  | .write handle value =>
    let r := sdk.alloc value.length w.sdk
    if r.1 then start sdk .write (.write handle value) (pending handle handle) { w with sdk := r.2 }
    else (.retry, { w with sdk := r.2 })
  | .command handle value =>
    if value.length + 3 > w.negMtu.toNat then (.rejected, w)
    else
      let r := sdk.alloc value.length w.sdk
      if r.1 then
        let c := sdk.call (.command handle value) r.2
        (rejected c.1, { w with sdk := c.2 })
      else (.retry, { w with sdk := r.2 })

/-- The table `k_gatt`: every operation first asks who owns the client. -/
def submit (sdk : BleSdk S) (r : GattReq) (w : Wch S) : GattRet × Wch S :=
  if w.curOp = .failed then (.rejected, w)
  else if w.curOp ≠ .none then (.retry, w)
  else submitFree sdk r w

/-- `k_gatt`. -/
def client (sdk : BleSdk S) : GattClient (Wch S) where
  submit := submit sdk

end Wch

/-! ## Messages -/

/-- The payload of a message of the library, by its method.  A value without a buffer has a length but no
data. -/
inductive GattMsg where
  | errorRsp (reqOpcode : UInt8) (handle : UInt16) (errCode : UInt8)
  | exchangeMtuRsp (serverRxMtu : UInt16)
  | findByTypeValueRsp (numInfo : Nat) (handles : Option (List UInt8))
  | readByTypeRsp (len numPairs : Nat) (data : Option (List UInt8))
  | findInfoRsp (format : UInt8) (numInfo : Nat) (info : Option (List UInt8))
  | readRsp (value : Option (List UInt8))
  | readBlobRsp (value : Option (List UInt8))
  | writeRsp
  | handleValueNoti (handle : UInt16) (value : Option (List UInt8))
  | handleValueInd (handle : UInt16) (value : Option (List UInt8))
  | mtuUpdated
  | flowCtrlViolated
  | other
  deriving DecidableEq, Repr

/-- `gattMsgEvent_t`. -/
structure GattMsgEvent where
  connHandle : UInt16
  status : UInt8 := sdkSuccess
  msg : GattMsg
  deriving DecidableEq, Repr

/-- The request opcode of a procedure, `expected`. -/
def Gop.request : Gop → Option UInt8
  | .exchangeMtu => some 0x02
  | .discSvc => some 0x06
  | .readChars => some 0x08
  | .discDescs => some 0x04
  | .readValue => some 0x0a
  | .readLong => some 0x0c
  | .write => some 0x12
  | .none | .failed => Option.none

/-- The message is the response of a procedure. -/
def GattMsg.answers (op : Gop) : GattMsg → Bool
  | .exchangeMtuRsp _ => op == .exchangeMtu
  | .findByTypeValueRsp _ _ => op == .discSvc
  | .readByTypeRsp _ _ _ => op == .readChars
  | .findInfoRsp _ _ _ => op == .discDescs
  | .readRsp _ => op == .readValue
  | .readBlobRsp _ => op == .readLong
  | .writeRsp => op == .write
  | _ => false

/-- Procedures of several responses, of which the last is marked. -/
def Gop.multi : Gop → Bool
  | .discSvc | .readChars | .discDescs | .readLong => true
  | _ => false

/-- `ATT_ERROR_RSP`. -/
def GattMsg.isError : GattMsg → Bool
  | .errorRsp _ _ _ => true
  | _ => false

/-- A message that the pending procedure can have caused: its response or an error, with success or, if
the procedure has several responses, as the last. -/
def Gop.takes (op : Gop) (e : GattMsgEvent) : Bool :=
  (e.msg.answers op || e.msg.isError) &&
    (e.status == sdkSuccess || e.status == bleProcedureComplete && op.multi)

/-- An error that no pending request can have caused. -/
def unrelated {S : Type} (w : Wch S) (reqOpcode : UInt8) (handle : UInt16) : Bool :=
  match w.curOp.request with
  | none => true
  | some expected =>
    reqOpcode != expected ||
      (w.curOp != .exchangeMtu && (handle < w.pendingStart || w.pendingEnd < handle))

/-- A payload that the library cannot have received with this MTU. -/
def oversized {S : Type} (w : Wch S) : GattMsg → Bool
  | .findByTypeValueRsp numInfo handles =>
    numInfo != 0 && handles.isNone || numInfo > (w.negMtu.toNat - 1) / 4
  | .findInfoRsp format numInfo info =>
    numInfo != 0 && (format != 1 && format != 2 || info.isNone ||
      numInfo > (w.negMtu.toNat - 2) / (if format = 1 then 4 else 18))
  | .readRsp value => value.all fun v => v.length > w.negMtu.toNat - 1
  | .readBlobRsp value =>
    value.all fun v => v.length > w.negMtu.toNat - 1 || v.length > 65535 - w.readOffset.toNat
  | _ => false

/-- Two bytes of a buffer. -/
def le16At (data : List UInt8) (i : Nat) : UInt16 :=
  (data.getD i 0).toUInt16 ||| ((data.getD (i + 1) 0).toUInt16 <<< 8)

namespace DiscWorld

variable {S : Type} (b : AdapterBuild) (sdk : BleSdk S)

/-- A change of the client. -/
def client (f : Wch S → Wch S) (w : DiscWorld (Wch S)) : DiscWorld (Wch S) := { w with gatt := f w.gatt }

/-- `emit`. -/
def emit (e : GattEvt) (w : DiscWorld (Wch S)) : DiscWorld (Wch S) := onGatt b (Wch.client sdk) e w

/-- `bearer_failed`. -/
def bearerFailed (status : UInt8) (w : DiscWorld (Wch S)) : DiscWorld (Wch S) :=
  emit b sdk (.bearerFailed status)
    (w.client fun g => { g with generation := g.generation + 1, curOp := .failed })

/-- The procedure is over: its owner is forgotten before the adapter hears of it. -/
def emitEnd (e : GattEvt) (w : DiscWorld (Wch S)) : DiscWorld (Wch S) :=
  emit b sdk e (w.client fun g => { g with generation := g.generation + 1, curOp := .none })

/-- `emit_done`. -/
def emitDone : DiscWorld (Wch S) → DiscWorld (Wch S) := emitEnd b sdk .procDone

/-- `emit_error`. -/
def emitError (status : UInt8) : DiscWorld (Wch S) → DiscWorld (Wch S) := emitEnd b sdk (.procError status)

/-- The events of a response, until one of them makes the adapter submit another procedure. -/
def emitAll : List GattEvt → UInt32 → DiscWorld (Wch S) → DiscWorld (Wch S)
  | [], _, w => w
  | e :: es, generation, w =>
    let w := emit b sdk e w
    if w.gatt.generation = generation then emitAll es generation w else w

/-- The end of a response to a procedure of several. -/
def endMulti (complete : Bool) (generation : UInt32) (w : DiscWorld (Wch S)) : DiscWorld (Wch S) :=
  if w.gatt.generation = generation ∧ complete = true then emitDone b sdk w else w

/-- An error to a search, which ends it when nothing more is found. -/
def endSearch (errCode : UInt8) (w : DiscWorld (Wch S)) : DiscWorld (Wch S) :=
  if errCode = attAttrNotFound then emitDone b sdk w else emitError b sdk errCode w

/-- A response that the adapter hears of with its own event; its owner is forgotten first, and unless the
adapter goes on, the procedure is done. -/
def emitThenDone (e : GattEvt) (generation : UInt32) (w : DiscWorld (Wch S)) : DiscWorld (Wch S) :=
  let w := emit b sdk e (w.client fun g => { g with curOp := .none })
  if w.gatt.generation = generation then emitDone b sdk w else w

/-- `GOP_EXCHANGE_MTU`. -/
def onMtu (m : GattMsg) (w : DiscWorld (Wch S)) : DiscWorld (Wch S) :=
  match m with
  | .exchangeMtuRsp serverRxMtu =>
    let negMtu := if serverRxMtu > b.attMtu then b.attMtu else serverRxMtu
    let generation := w.gatt.generation
    let w := w.client fun g => { g with negMtu }
    if negMtu < 23 then bearerFailed b sdk attInvalidValueSize w
    else emitThenDone b sdk (.mtuUpdated negMtu) generation w
  | .errorRsp _ _ errCode => emitError b sdk errCode w
  | _ => w

/-- `GOP_DISC_SVC`; only the first service is used. -/
def onSvc (m : GattMsg) (complete : Bool) (w : DiscWorld (Wch S)) : DiscWorld (Wch S) :=
  match m with
  | .findByTypeValueRsp numInfo handles =>
    let generation := w.gatt.generation
    let found := handles.getD []
    let w := if 0 < numInfo ∧ w.gatt.foundService = false then
        emit b sdk (.serviceFound (le16At found 0) (le16At found 2))
          (w.client fun g => { g with foundService := true })
      else w
    endMulti b sdk complete generation w
  | .errorRsp _ _ errCode =>
    if errCode ≠ attAttrNotFound then emitError b sdk errCode w
    else if w.gatt.foundService then emitDone b sdk w
    else emit b sdk .serviceNotFound (w.client fun g => { g with curOp := .none })
  | _ => w

/-- `GOP_READ_CHARS`. -/
def onChars (m : GattMsg) (complete : Bool) (w : DiscWorld (Wch S)) : DiscWorld (Wch S) :=
  match m with
  | .readByTypeRsp len numPairs data =>
    let generation := w.gatt.generation
    if 0 < numPairs ∧ ((len ≠ 7 ∧ len ≠ 21) ∨ data.isNone = true ∨
        numPairs > (w.gatt.negMtu.toNat - 2) / len) then bearerFailed b sdk attInvalidValueSize w
    else
      let found := (List.range numPairs).map fun i =>
        GattEvt.charsFound (((data.getD []).drop (i * len + 2)).take (len - 2))
      endMulti b sdk complete generation (emitAll b sdk found generation w)
  | .errorRsp _ _ errCode => endSearch b sdk errCode w
  | _ => w

/-- `GOP_DISC_DESCS`; descriptors with long UUIDs are skipped. -/
def onDescsRsp (m : GattMsg) (complete : Bool) (w : DiscWorld (Wch S)) : DiscWorld (Wch S) :=
  match m with
  | .findInfoRsp format numInfo info =>
    let generation := w.gatt.generation
    let found := if format = 1 then (List.range numInfo).map fun i =>
        GattEvt.descFound (le16At (info.getD []) (4 * i)) (le16At (info.getD []) (4 * i + 2))
      else []
    endMulti b sdk complete generation (emitAll b sdk found generation w)
  | .errorRsp _ _ errCode => endSearch b sdk errCode w
  | _ => w

/-- `GOP_READ_VALUE`; a value that fills the response may be longer. -/
def onValue (m : GattMsg) (w : DiscWorld (Wch S)) : DiscWorld (Wch S) :=
  match m with
  | .readRsp value =>
    let value := value.getD []
    emit b sdk (.readRsp value 0 (decide (value.length < w.gatt.negMtu.toNat - 1)))
      (w.client fun g => { g with curOp := .none })
  | .errorRsp _ _ errCode => emitError b sdk errCode w
  | _ => w

/-- `GOP_READ_LONG`; the length may be a multiple of what a response carries. -/
def onLong (m : GattMsg) (complete : Bool) (w : DiscWorld (Wch S)) : DiscWorld (Wch S) :=
  match m with
  | .readBlobRsp value =>
    let value := value.getD []
    let offset := w.gatt.readOffset
    emit b sdk (.readRsp value offset complete) (w.client fun g => { g with
      readOffset := offset + UInt16.ofNat value.length
      curOp := if complete then .none else g.curOp })
  | .errorRsp _ _ errCode =>
    if errCode = attInvalidOffset ∧ w.gatt.readOffset ≠ 0 then
      emit b sdk (.readRsp [] w.gatt.readOffset true) (w.client fun g => { g with curOp := .none })
    else emitError b sdk errCode w
  | _ => w

/-- `GOP_WRITE`. -/
def onWriteRsp (m : GattMsg) (w : DiscWorld (Wch S)) : DiscWorld (Wch S) :=
  match m with
  | .writeRsp => emitThenDone b sdk .writeDone w.gatt.generation w
  | .errorRsp _ _ errCode => emitError b sdk errCode w
  | _ => w

/-- The second `switch` of `wch_gatt_on_msg`. -/
def onAnswer (m : GattMsg) (complete : Bool) (w : DiscWorld (Wch S)) : DiscWorld (Wch S) :=
  match w.gatt.curOp with
  | .exchangeMtu => onMtu b sdk m w
  | .discSvc => onSvc b sdk m complete w
  | .readChars => onChars b sdk m complete w
  | .discDescs => onDescsRsp b sdk m complete w
  | .readValue => onValue b sdk m w
  | .readLong => onLong b sdk m complete w
  | .write => onWriteRsp b sdk m w
  | .none | .failed => w

/-- A notification or an indication; the latter is confirmed. -/
def onNotify (e : GattMsgEvent) (handle : UInt16) (value : Option (List UInt8)) (confirm : Bool)
    (w : DiscWorld (Wch S)) : DiscWorld (Wch S) :=
  if e.status ≠ sdkSuccess then bearerFailed b sdk e.status w
  else if value.all fun v => v.length + 3 > w.gatt.negMtu.toNat then
    bearerFailed b sdk attInvalidValueSize w
  else
    emit b sdk (.notify handle (value.getD []))
      (if confirm then w.client fun g => { g with sdk := (sdk.call .confirm g.sdk).2 } else w)

/-- An answer to the pending procedure, after the checks that belong to any message. -/
def onResponse (e : GattMsgEvent) (w : DiscWorld (Wch S)) : DiscWorld (Wch S) :=
  if e.msg = .mtuUpdated then w
  else if e.msg = .flowCtrlViolated then bearerFailed b sdk attInvalidPdu w
  else if w.gatt.curOp = .none then w
  else if w.gatt.curOp.takes e = false then bearerFailed b sdk attInvalidPdu w
  else if oversized w.gatt e.msg then bearerFailed b sdk attInvalidValueSize w
  else onAnswer b sdk e.msg (e.status == bleProcedureComplete) w

/-- `wch_gatt_on_msg`. -/
def onMsg (e : GattMsgEvent) (w : DiscWorld (Wch S)) : DiscWorld (Wch S) :=
  if e.connHandle ≠ w.gatt.connHandle ∨ w.gatt.connHandle = gapConnHandleInit ∨ w.gatt.curOp = .failed then w
  else
    match e.msg with
    | .errorRsp reqOpcode handle errCode =>
      if e.status = sdkSuccess ∧ unrelated w.gatt reqOpcode handle = true then bearerFailed b sdk errCode w
      else if e.status = bleTimeout then bearerFailed b sdk bleTimeout w
      else onResponse b sdk e w
    | .handleValueNoti handle value =>
      if e.status = bleTimeout then bearerFailed b sdk bleTimeout w
      else onNotify b sdk e handle value false w
    | .handleValueInd handle value =>
      if e.status = bleTimeout then bearerFailed b sdk bleTimeout w
      else onNotify b sdk e handle value true w
    | _ =>
      if e.status = bleTimeout then bearerFailed b sdk bleTimeout w else onResponse b sdk e w

end DiscWorld

end RemoteBridge
