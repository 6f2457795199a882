import RemoteBridge.Framework.Bytes
import RemoteBridge.Protocol.Cobs
import RemoteBridge.Protocol.Crc

/-!
# Frames

The frame layer of `rbp_frame.c`.  A frame is a 32-byte header, a payload of up to 512 bytes and a
CRC32C over both, COBS-encoded and ended by one zero byte (`frameEncode`).  The receiver
(`RxParser`) collects the bytes between two zeros and reports one event for each run.

`RxParser.drain_wireFrame` closes the loop: an idle receiver that is fed an encoded frame reports exactly
that frame, with a correct CRC, and is idle again.
-/

namespace RemoteBridge

/-! ## Constants of `defs.h` -/

def rbpMagic0 : UInt8 := 0x52

def rbpMagic1 : UInt8 := 0x42

def rbpMajor : UInt8 := 3

def rbpMinor : UInt8 := 0

def headerSize : Nat := 32

def maxPayload : Nat := 512

/-- `RBP_MAX_FRAME_RAW`. -/
def maxFrameRaw : Nat := 548

/-- `RBP_COBS_RECV_MAX`. -/
def cobsRecvMax : Nat := 551

def kindRequest : UInt8 := 1

def kindResponse : UInt8 := 2

def kindEvent : UInt8 := 3

def kindAudio : UInt8 := 4

/-! ## Headers -/

/-- `rbp_header_t`. -/
structure Header where
  magic0 : UInt8 := 0
  magic1 : UInt8 := 0
  major : UInt8 := 0
  minor : UInt8 := 0
  kind : UInt8 := 0
  flags : UInt8 := 0
  headerSize : UInt16 := 0
  sessionId : UInt32 := 0
  txSeq : UInt32 := 0
  requestId : UInt32 := 0
  opcode : UInt16 := 0
  status : UInt16 := 0
  payloadSize : UInt16 := 0
  reserved : UInt16 := 0
  connectionId : UInt32 := 0
  deriving DecidableEq, Repr

namespace Header

/-- `rbp_header_pack`. -/
def pack (h : Header) : List UInt8 :=
  [h.magic0, h.magic1, h.major, h.minor, h.kind, h.flags] ++ put16 h.headerSize ++
    put32 h.sessionId ++ put32 h.txSeq ++ put32 h.requestId ++ put16 h.opcode ++ put16 h.status ++
    put16 h.payloadSize ++ put16 h.reserved ++ put32 h.connectionId

/-- The fields that `rbp_header_parse` reads. -/
def read (b : List UInt8) : Header where
  magic0 := b.getD 0 0
  magic1 := b.getD 1 0
  major := b.getD 2 0
  minor := b.getD 3 0
  kind := b.getD 4 0
  flags := b.getD 5 0
  headerSize := get16 b 6
  sessionId := get32 b 8
  txSeq := get32 b 12
  requestId := get32 b 16
  opcode := get16 b 20
  status := get16 b 22
  payloadSize := get16 b 24
  reserved := get16 b 26
  connectionId := get32 b 28

/-- `rbp_header_parse`; `none` when magic, header size or the reserved field are wrong. -/
def parse (b : List UInt8) : Option Header :=
  let h := read b
  if h.magic0 == rbpMagic0 && h.magic1 == rbpMagic1 && h.headerSize == 32 && h.reserved == 0 then
    some h
  else none

/-- The header as the encoder sends it. -/
def stamped (h : Header) (txSeq : UInt32) (len : Nat) : Header :=
  { h with magic0 := rbpMagic0, magic1 := rbpMagic1, major := rbpMajor, minor := rbpMinor,
           headerSize := 32, txSeq := txSeq, reserved := 0, payloadSize := UInt16.ofNat len }

end Header

/-! ## The encoder -/

/-- Header and payload with their CRC. -/
def rawFrame (h : Header) (payload : List UInt8) : List UInt8 :=
  h.pack ++ payload ++ put32 (crc32c (h.pack ++ payload))

/-- The bytes of a frame on the wire. -/
def wireFrame (h : Header) (payload : List UInt8) : List UInt8 := cobsEncode (rawFrame h payload) ++ [0]

/-- `rbp_frame_encode`: the wire bytes and the next sequence number; `none` when the payload is too
long. -/
def frameEncode (h : Header) (nextTxSeq : UInt32) (payload : List UInt8) :
    Option (List UInt8 × UInt32) :=
  if payload.length > maxPayload then none
  else some (wireFrame (h.stamped nextTxSeq payload.length) payload, nextTxSeq + 1)

/-- The running COBS block and CRC of `encode_payload`. -/
structure EncodeState where
  cobs : CobsState := { done := [], block := [] }
  crc : UInt32 := 0xffffffff

/-- One byte through `encode_payload`; the CRC covers header and payload, not its own trailer. -/
def encodeByte (covered : Bool) (s : EncodeState) (byte : UInt8) : EncodeState :=
  { cobs := cobsByte s.cobs byte, crc := if covered then crc32cUpdate s.crc byte else s.crc }

/-- `encode_payload`: header, payload and CRC go through one encoder, without a copy of the frame. -/
def encodePayload (h : Header) (nextTxSeq : UInt32) (payload : List UInt8) :
    Option (List UInt8 × UInt32) :=
  if payload.length > maxPayload then none
  else
    let s := (h.stamped nextTxSeq payload.length).pack.foldl (encodeByte true) {}
    let s := payload.foldl (encodeByte true) s
    let s := (put32 (s.crc ^^^ 0xffffffff)).foldl (encodeByte false) s
    some (s.cobs.close ++ [0], nextTxSeq + 1)

/-! ## The receiver -/

inductive RxState where
  | idle
  | inFrame
  /-- Dropping bytes until the next delimiter. -/
  | discard
  deriving DecidableEq, Repr

/-- `rbp_rxparser_t`. -/
structure RxParser where
  state : RxState
  buf : List UInt8
  frameStartMs : UInt32
  deriving DecidableEq, Repr

/-- `rbp_rx_event_t`, with the context of a frame. -/
inductive RxEvent where
  | frame (header : Header) (payload : List UInt8) (crcOk : Bool)
  | overflow
  | timeout
  | garbage
  deriving DecidableEq, Repr

namespace RxParser

/-- `rbp_rxparser_init` and `rx_reset`. -/
def init (nowMs : UInt32) : RxParser := { state := .idle, buf := [], frameStartMs := nowMs }

/-- What a complete run of bytes is. -/
def decodeRun (run : List UInt8) : RxEvent :=
  match cobsDecode run with
  | none => .garbage
  | some raw =>
    if headerSize + 4 ≤ raw.length ∧ raw.length ≤ maxFrameRaw then
      match Header.parse raw with
      | none => .garbage
      | some h =>
        .frame h ((raw.drop headerSize).take (raw.length - headerSize - 4))
          (crc32c (raw.take (raw.length - 4)) == get32 raw (raw.length - 4))
    else .garbage

/-- The byte loop of `rbp_rxparser_feed`: the first event, with the bytes after it. -/
def feedBytes (nowMs : UInt32) : List UInt8 → RxParser → Option RxEvent × List UInt8 × RxParser
  | [], p => (none, [], p)
  | b :: data, p =>
    if p.state = .discard then feedBytes nowMs data (if b == 0 then init nowMs else p)
    else if b == 0 then
      if p.state = .inFrame ∧ p.buf ≠ [] then (some (decodeRun p.buf), data, init nowMs)
      else feedBytes nowMs data (init nowMs)
    else
      let p := if p.state = .idle then { state := .inFrame, buf := [], frameStartMs := nowMs } else p
      if p.buf.length ≥ cobsRecvMax then (some .overflow, data, { p with state := .discard })
      else feedBytes nowMs data { p with buf := p.buf ++ [b] }

/-- `rbp_rxparser_feed`. -/
def feed (p : RxParser) (data : List UInt8) (nowMs : UInt32) :
    Option RxEvent × List UInt8 × RxParser :=
  if p.state = .inFrame ∧ nowMs - p.frameStartMs ≥ 1000 then
    (some .timeout, data, { p with state := .discard, buf := [] })
  else
    let r := feedBytes nowMs data p
    if r.1 = none ∧ r.2.2.state = .inFrame ∧ nowMs - r.2.2.frameStartMs > 1000 then
      (some .timeout, [], { r.2.2 with state := .discard, buf := [] })
    else r

/-- `rbp_rx_drain`: the events of a received chunk and the receiver after it.  Every turn consumes a
byte, except for one time-out at the start. -/
def drainLoop (nowMs : UInt32) : Nat → RxParser → List UInt8 → List RxEvent × RxParser
  | 0, p, _ => ([], p)
  | fuel + 1, p, data =>
    if data = [] then ([], p)
    else
      match p.feed data nowMs with
      | (none, _, p') => ([], p')
      | (some e, rest, p') =>
        let r := drainLoop nowMs fuel p' rest
        (e :: r.1, r.2)

def drain (p : RxParser) (data : List UInt8) (nowMs : UInt32) : List RxEvent × RxParser :=
  drainLoop nowMs (data.length + 1) p data

end RxParser

/-! ## The streaming encoder -/

lemma foldl_encodeByte (covered : Bool) (bytes : List UInt8) (s : EncodeState) :
    bytes.foldl (encodeByte covered) s =
      { cobs := bytes.foldl cobsByte s.cobs,
        crc := if covered then bytes.foldl crc32cUpdate s.crc else s.crc } := by
  induction bytes generalizing s with
  | nil => cases covered <;> rfl
  | cons byte bytes ih =>
    rw [List.foldl_cons, ih, List.foldl_cons, List.foldl_cons]
    cases covered <;> rfl

/-- Streaming the three pieces is encoding them at once. -/
lemma encodePayload_eq_frameEncode (h : Header) (nextTxSeq : UInt32) (payload : List UInt8) :
    encodePayload h nextTxSeq payload = frameEncode h nextTxSeq payload := by
  unfold encodePayload frameEncode
  split
  · rfl
  · simp only [foldl_encodeByte, if_true, Bool.false_eq_true, if_false]
    rw [wireFrame, rawFrame, cobsEncode, List.foldl_append, List.foldl_append, crc32c,
      List.foldl_append]

/-! ## Header round trip -/

lemma Header.length_pack (h : Header) : h.pack.length = 32 := by
  simp [Header.pack]

/-- Reading back a packed header, whatever follows it. -/
lemma Header.read_pack (h : Header) (rest : List UInt8) : Header.read (h.pack ++ rest) = h := by
  have hs6 := get16_field [h.magic0, h.magic1, h.major, h.minor, h.kind, h.flags]
    (put32 h.sessionId ++ put32 h.txSeq ++ put32 h.requestId ++ put16 h.opcode ++ put16 h.status ++
      put16 h.payloadSize ++ put16 h.reserved ++ put32 h.connectionId ++ rest) h.headerSize
    (rfl : 6 = _)
  have hs8 := get32_field ([h.magic0, h.magic1, h.major, h.minor, h.kind, h.flags] ++
      put16 h.headerSize)
    (put32 h.txSeq ++ put32 h.requestId ++ put16 h.opcode ++ put16 h.status ++
      put16 h.payloadSize ++ put16 h.reserved ++ put32 h.connectionId ++ rest) h.sessionId
    (by simp : 8 = _)
  have hs12 := get32_field ([h.magic0, h.magic1, h.major, h.minor, h.kind, h.flags] ++
      put16 h.headerSize ++ put32 h.sessionId)
    (put32 h.requestId ++ put16 h.opcode ++ put16 h.status ++
      put16 h.payloadSize ++ put16 h.reserved ++ put32 h.connectionId ++ rest) h.txSeq
    (by simp : 12 = _)
  have hs16 := get32_field ([h.magic0, h.magic1, h.major, h.minor, h.kind, h.flags] ++
      put16 h.headerSize ++ put32 h.sessionId ++ put32 h.txSeq)
    (put16 h.opcode ++ put16 h.status ++
      put16 h.payloadSize ++ put16 h.reserved ++ put32 h.connectionId ++ rest) h.requestId
    (by simp : 16 = _)
  have hs20 := get16_field ([h.magic0, h.magic1, h.major, h.minor, h.kind, h.flags] ++
      put16 h.headerSize ++ put32 h.sessionId ++ put32 h.txSeq ++ put32 h.requestId)
    (put16 h.status ++ put16 h.payloadSize ++ put16 h.reserved ++ put32 h.connectionId ++ rest)
    h.opcode (by simp : 20 = _)
  have hs22 := get16_field ([h.magic0, h.magic1, h.major, h.minor, h.kind, h.flags] ++
      put16 h.headerSize ++ put32 h.sessionId ++ put32 h.txSeq ++ put32 h.requestId ++
      put16 h.opcode)
    (put16 h.payloadSize ++ put16 h.reserved ++ put32 h.connectionId ++ rest)
    h.status (by simp : 22 = _)
  have hs24 := get16_field ([h.magic0, h.magic1, h.major, h.minor, h.kind, h.flags] ++
      put16 h.headerSize ++ put32 h.sessionId ++ put32 h.txSeq ++ put32 h.requestId ++
      put16 h.opcode ++ put16 h.status)
    (put16 h.reserved ++ put32 h.connectionId ++ rest) h.payloadSize (by simp : 24 = _)
  have hs26 := get16_field ([h.magic0, h.magic1, h.major, h.minor, h.kind, h.flags] ++
      put16 h.headerSize ++ put32 h.sessionId ++ put32 h.txSeq ++ put32 h.requestId ++
      put16 h.opcode ++ put16 h.status ++ put16 h.payloadSize)
    (put32 h.connectionId ++ rest) h.reserved (by simp : 26 = _)
  have hs28 := get32_field ([h.magic0, h.magic1, h.major, h.minor, h.kind, h.flags] ++
      put16 h.headerSize ++ put32 h.sessionId ++ put32 h.txSeq ++ put32 h.requestId ++
      put16 h.opcode ++ put16 h.status ++ put16 h.payloadSize ++ put16 h.reserved)
    rest h.connectionId (by simp : 28 = _)
  simp only [List.append_assoc] at hs6 hs8 hs12 hs16 hs20 hs22 hs24 hs26 hs28
  simp only [Header.read, Header.pack, List.append_assoc, hs6, hs8, hs12, hs16, hs20, hs22, hs24,
    hs26, hs28]
  rfl

lemma Header.parse_pack {h : Header} (h0 : h.magic0 = rbpMagic0) (h1 : h.magic1 = rbpMagic1)
    (hsize : h.headerSize = 32) (hres : h.reserved = 0) (rest : List UInt8) :
    Header.parse (h.pack ++ rest) = some h := by
  simp [Header.parse, Header.read_pack, h0, h1, hsize, hres]

/-! ## Frame round trip -/

namespace RxParser

/-- A complete run that encodes a stamped frame is reported as that frame. -/
lemma decodeRun_cobsEncode (h : Header) (txSeq : UInt32) {payload : List UInt8}
    (hlen : payload.length ≤ maxPayload) :
    decodeRun (cobsEncode (rawFrame (h.stamped txSeq payload.length) payload)) =
      .frame (h.stamped txSeq payload.length) payload true := by
  set sh := h.stamped txSeq payload.length with hsh
  have hpack : sh.pack.length = 32 := sh.length_pack
  have hraw : (rawFrame sh payload).length = payload.length + 36 := by
    rw [rawFrame, List.length_append, List.length_append, length_put32, hpack]
    omega
  have hmax : maxPayload = 512 := rfl
  have hrange : headerSize + 4 ≤ (rawFrame sh payload).length ∧
      (rawFrame sh payload).length ≤ maxFrameRaw := by
    rw [hraw, headerSize, maxFrameRaw]
    omega
  have hparse : Header.parse (rawFrame sh payload) = some sh := by
    rw [rawFrame, List.append_assoc]
    exact Header.parse_pack rfl rfl rfl rfl _
  have hdrop : (rawFrame sh payload).drop headerSize = payload ++ put32 (crc32c (sh.pack ++ payload)) := by
    rw [rawFrame, List.append_assoc]
    exact List.drop_left' hpack
  have hbody : (rawFrame sh payload).take ((rawFrame sh payload).length - 4) = sh.pack ++ payload := by
    rw [hraw]
    exact List.take_left' (by rw [List.length_append, hpack]; omega)
  have hcrc : get32 (rawFrame sh payload) ((rawFrame sh payload).length - 4) =
      crc32c (sh.pack ++ payload) := by
    have hfield := get32_field (sh.pack ++ payload) [] (crc32c (sh.pack ++ payload))
      (by rw [List.length_append, hpack, hraw]; omega :
        (rawFrame sh payload).length - 4 = (sh.pack ++ payload).length)
    rwa [List.append_nil] at hfield
  have hpay : (payload ++ put32 (crc32c (sh.pack ++ payload))).take
      ((rawFrame sh payload).length - headerSize - 4) = payload := by
    rw [hraw, headerSize]
    exact List.take_left' (by omega)
  simp only [decodeRun, cobsDecode_cobsEncode, if_pos hrange, hparse, hdrop, hbody, hcrc, hpay,
    beq_self_eq_true]

/-- A run of non-zero bytes is collected up to its delimiter. -/
lemma feedBytes_run (nowMs start : UInt32) {run buf : List UInt8} (hrun : 0 ∉ run)
    (hlen : buf.length + run.length ≤ cobsRecvMax) (hne : buf ++ run ≠ []) (rest : List UInt8) :
    feedBytes nowMs (run ++ 0 :: rest) { state := .inFrame, buf := buf, frameStartMs := start } =
      (some (decodeRun (buf ++ run)), rest, init nowMs) := by
  induction run generalizing buf with
  | nil =>
    rw [List.append_nil] at hne
    simp [feedBytes, hne]
  | cons b run ih =>
    rw [List.mem_cons, not_or] at hrun
    have hb : (b == 0) = false := by simpa using Ne.symm hrun.1
    rw [List.length_cons] at hlen
    have hroom : ¬ buf.length ≥ cobsRecvMax := by omega
    have ih' := @ih (buf ++ [b]) hrun.2
      (by rw [List.length_append, List.length_singleton]; omega) (by simp)
    rw [List.append_assoc, List.singleton_append] at ih'
    simpa [feedBytes, hb, hroom] using ih'

/-- An idle receiver reports a run up to its delimiter and is idle again. -/
lemma feed_idle_run (nowMs start : UInt32) {run : List UInt8} (hrun : 0 ∉ run)
    (hlen : run.length ≤ cobsRecvMax) (hne : run ≠ []) (rest : List UInt8) :
    feed (init start) (run ++ 0 :: rest) nowMs = (some (decodeRun run), rest, init nowMs) := by
  have hbytes : feedBytes nowMs (run ++ 0 :: rest) (init start) =
      (some (decodeRun run), rest, init nowMs) := by
    match run with
    | [] => exact absurd rfl hne
    | b :: run =>
      rw [List.mem_cons, not_or] at hrun
      have hb : (b == 0) = false := by simpa using Ne.symm hrun.1
      have hcollect := @feedBytes_run nowMs nowMs run [b] hrun.2
        (by rw [List.length_cons] at hlen; rw [List.length_singleton]; omega) (by simp) rest
      simpa [feedBytes, init, hb, cobsRecvMax] using hcollect
  have hidle : ¬ ((init start).state = .inFrame ∧ nowMs - (init start).frameStartMs ≥ 1000) := by
    simp [init]
  rw [feed, if_neg hidle, hbytes]
  simp

/-- An idle receiver that is fed an encoded frame reports that frame. -/
lemma drain_wireFrame (nowMs start : UInt32) (h : Header) (txSeq : UInt32) {payload : List UInt8}
    (hlen : payload.length ≤ maxPayload) :
    drain (init start) (wireFrame (h.stamped txSeq payload.length) payload) nowMs =
      ([.frame (h.stamped txSeq payload.length) payload true], init nowMs) := by
  set raw := rawFrame (h.stamped txSeq payload.length) payload with hraw
  have hrawLen : raw.length = payload.length + 36 := by
    rw [hraw, rawFrame, List.length_append, List.length_append, length_put32, Header.length_pack]
    omega
  have hencLen : (cobsEncode raw).length ≤ cobsRecvMax := by
    have hle := length_cobsEncode_le raw
    have hmax : maxPayload = 512 := rfl
    have hrecv : cobsRecvMax = 551 := rfl
    omega
  have hne : cobsEncode raw ≠ [] := by
    rw [cobsEncode_eq]
    exact cobsFrom_ne_nil _ _
  have hfeed := feed_idle_run nowMs start (zero_not_mem_cobsEncode raw) hencLen hne []
  rw [hraw, decodeRun_cobsEncode h txSeq hlen, ← hraw] at hfeed
  have hwire : wireFrame (h.stamped txSeq payload.length) payload = cobsEncode raw ++ 0 :: [] := rfl
  have hnonempty : cobsEncode raw ++ 0 :: [] ≠ [] := by simp
  rw [drain, hwire, drainLoop, if_neg hnonempty, hfeed]
  simp [drainLoop]

end RxParser

end RemoteBridge
