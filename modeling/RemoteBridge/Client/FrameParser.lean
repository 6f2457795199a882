import RemoteBridge.Client.Wire
import RemoteBridge.Protocol.Receiver

/-!
# The receiver of the Python client

`FrameParser` of `wire.py`.  It keeps its own copy of a run and an optional start time where the C
receiver has three states and decodes in place, and it refuses some frames that the C layer leaves to the
server: those whose payload size is wrong, whose flags are set or whose kind is unknown.

The two receivers stay in step (`Python.Mirrors`) as long as the clock of the C layer does not come
round.
-/

namespace RemoteBridge.Python

/-! ## Definitions -/

/-- The loop of `cobs_decode`; every turn consumes at least the code byte. -/
def cobsDecodeLoop (src : List UInt8) : Nat → Nat → List UInt8 → Option (List UInt8)
  | 0, i, out => if i < src.length then none else some out
  | fuel + 1, i, out =>
    if i < src.length then
      let code := src.getD i 0
      let i := i + 1
      if code == 0 then none
      else
        let block := code.toNat - 1
        if src.length - i < block then none
        else
          let out := out ++ (src.drop i).take block
          let i := i + block
          cobsDecodeLoop src fuel i (if code < 0xff && i != src.length then out ++ [0] else out)
    else some out

/-- `cobs_decode`. -/
def cobsDecode (src : List UInt8) : Option (List UInt8) := cobsDecodeLoop src src.length 0 []

/-- The events of `FrameParser.feed`. -/
inductive Event where
  | timeout
  | overflow
  | garbage
  | frame (header : Header) (payload : List UInt8) (good : Bool)
  deriving DecidableEq, Repr

/-- `FrameParser`. -/
structure FrameParser where
  buf : List UInt8 := []
  startMs : Option Nat := none
  discard : Bool := false
  deriving DecidableEq, Repr

/-- The kinds of frames. -/
def knownKind (kind : Nat) : Bool := kind == 1 || kind == 2 || kind == 3 || kind == 4

/-- What `feed` makes of a complete run. -/
def decodeRun (run : List UInt8) : Event :=
  match cobsDecode run with
  | none => .garbage
  | some raw =>
    if ¬ (32 + 4 ≤ raw.length ∧ raw.length ≤ 548) then .garbage
    else
      match Header.unpack (raw.take 32) with
      | none => .garbage
      | some h =>
        if h.payloadSize ≠ raw.length - 32 - 4 || h.flags != 0 || !knownKind h.kind then .garbage
        else
          .frame h ((raw.drop 32).take (raw.length - 32 - 4))
            (leNat ((raw.drop (raw.length - 4)).take 4) == (crc32c (raw.take (raw.length - 4))).toNat)

namespace FrameParser

/-- One turn of the byte loop of `feed`. -/
def byte (nowMs : Nat) (b : UInt8) (p : FrameParser) : Option Event × FrameParser :=
  if p.discard then (none, if b == 0 then { p with discard := false, startMs := none } else p)
  else if b == 0 then
    if p.buf = [] then (none, p)
    else (some (decodeRun p.buf), { p with buf := [], startMs := none })
  else
    let p := if p.buf = [] then { p with startMs := some nowMs } else p
    let p := { p with buf := p.buf ++ [b] }
    if p.buf.length > 551 then (some .overflow, { p with buf := [], discard := true }) else (none, p)

/-- The age check of `feed`. -/
def expire (nowMs : Nat) (p : FrameParser) : List Event × FrameParser :=
  if p.buf ≠ [] ∧ p.startMs.any (fun start => decide (start + 1000 ≤ nowMs)) then
    ([.timeout], { p with buf := [], discard := true })
  else ([], p)

/-- `FrameParser.feed`. -/
def feed (p : FrameParser) (data : List UInt8) (nowMs : Nat) : List Event × FrameParser :=
  let r := scan (byte nowMs) data (p.expire nowMs).2
  ((p.expire nowMs).1 ++ r.1, r.2)

end FrameParser

/-! ## Runs -/

lemma cobsDecodeLoop_eq (src : List UInt8) (fuel i : Nat) (out : List UInt8)
    (hi : i ≤ src.length) :
    cobsDecodeLoop src fuel i out =
      (RemoteBridge.cobsDecodeLoop fuel (src.drop i)).map (out ++ ·) := by
  induction fuel generalizing i out with
  | zero =>
    rw [cobsDecodeLoop]
    by_cases hlt : i < src.length
    · rw [if_pos hlt, List.drop_eq_getElem_cons hlt]
      rfl
    · rw [if_neg hlt, List.drop_eq_nil_of_le (by omega)]
      simp [RemoteBridge.cobsDecodeLoop]
  | succ fuel ih =>
    rw [cobsDecodeLoop]
    by_cases hlt : i < src.length
    · have hcode : src.getD i 0 = src[i] := by
        rw [List.getD_eq_getElem?_getD, List.getElem?_eq_getElem hlt, Option.getD_some]
      have hleft : src.length - (i + 1) = (src.drop (i + 1)).length := (List.length_drop ..).symm
      rw [if_pos hlt, List.drop_eq_getElem_cons hlt, RemoteBridge.cobsDecodeLoop]
      dsimp only
      rw [hcode, hleft]
      split
      · rfl
      · split
        · rfl
        next hroom =>
          rw [← hleft] at hroom
          have hend : (i + 1 + (src[i].toNat - 1) != src.length) =
              !(src.drop (i + 1 + (src[i].toNat - 1))).isEmpty := by
            rw [Bool.eq_iff_iff, bne_iff_ne, Bool.not_eq_true', List.isEmpty_eq_false_iff, ne_eq,
              ne_eq, List.drop_eq_nil_iff]
            omega
          rw [ih _ _ (by omega), List.drop_drop, hend, Option.map_map]
          congr 1
          funext rest
          cases hzero : (decide (src[i] < 0xff) && !(src.drop (i + 1 + (src[i].toNat - 1))).isEmpty) <;>
            simp
    · rw [if_neg hlt, List.drop_eq_nil_of_le (by omega)]
      simp [RemoteBridge.cobsDecodeLoop]

lemma cobsDecode_eq (src : List UInt8) : cobsDecode src = RemoteBridge.cobsDecode src := by
  rw [cobsDecode, cobsDecodeLoop_eq _ _ _ _ (Nat.zero_le _)]
  simp [RemoteBridge.cobsDecode]

/-- The C frames that Python refuses. -/
def refuses (h : RemoteBridge.Header) (payload : List UInt8) : Bool :=
  h.payloadSize.toNat != payload.length || h.flags != 0 || !knownKind h.kind.toNat

/-- What Python reports for an event of the C receiver. -/
def translate : RxEvent → Event
  | .timeout => .timeout
  | .overflow => .overflow
  | .garbage => .garbage
  | .frame h payload crcOk => if refuses h payload then .garbage else .frame (.ofC h) payload crcOk

/-- A run is decoded alike. -/
lemma decodeRun_eq (run : List UInt8) : decodeRun run = translate (RxParser.decodeRun run) := by
  unfold decodeRun RxParser.decodeRun
  rw [cobsDecode_eq]
  cases RemoteBridge.cobsDecode run with
  | none => rfl
  | some raw =>
    dsimp only
    by_cases hlen : 32 + 4 ≤ raw.length ∧ raw.length ≤ 548
    · rw [if_neg (not_not.mpr hlen), Header.unpack_eq (by omega),
        if_pos (show headerSize + 4 ≤ raw.length ∧ raw.length ≤ maxFrameRaw from hlen)]
      cases RemoteBridge.Header.parse raw with
      | none => rfl
      | some h =>
        have hpay : ((raw.drop headerSize).take (raw.length - headerSize - 4)).length =
            raw.length - 32 - 4 := by
          rw [List.length_take, List.length_drop, headerSize]
          omega
        have hrefuse : (decide (h.payloadSize.toNat ≠ raw.length - 32 - 4) || h.flags.toNat != 0 ||
            !knownKind h.kind.toNat) =
            refuses h ((raw.drop headerSize).take (raw.length - headerSize - 4)) := by
          have hflags : (h.flags.toNat != 0) = (h.flags != 0) := by
            rw [Bool.eq_iff_iff, bne_iff_ne, bne_iff_ne, ne_eq, ne_eq, ← UInt8.toNat_inj]
            rfl
          rw [refuses, hpay, hflags]
          congr 2
          rw [Bool.eq_iff_iff, decide_eq_true_iff, bne_iff_ne]
        have hcrc : (leNat ((raw.drop (raw.length - 4)).take 4) ==
            (crc32c (raw.take (raw.length - 4))).toNat) =
            (RemoteBridge.crc32c (raw.take (raw.length - 4)) == get32 raw (raw.length - 4)) := by
          rw [crc32c_eq, ← toNat_get32, Bool.eq_iff_iff, beq_iff_eq, beq_iff_eq, UInt32.toNat_inj]
          exact eq_comm
        simp only [Option.map_some, Header.ofC, translate]
        rw [hrefuse, hcrc]
        rfl
    · rw [if_pos hlen,
        if_neg (show ¬ (headerSize + 4 ≤ raw.length ∧ raw.length ≤ maxFrameRaw) from hlen)]
      rfl

/-! ## In step -/

/-- The two receivers have seen the same bytes; a frame in progress was begun at `start`, between `first`
and `now`. -/
inductive Mirrors (first now : Nat) : RxParser → FrameParser → Prop
  | idle (buf : List UInt8) (startMs : UInt32) (start : Option Nat) :
      Mirrors first now ⟨.idle, buf, startMs⟩ ⟨[], start, false⟩
  | inFrame (buf : List UInt8) (start : Nat) (hne : buf ≠ []) (hlen : buf.length ≤ 551)
      (hfirst : first ≤ start) (hle : start ≤ now) :
      Mirrors first now ⟨.inFrame, buf, UInt32.ofNat start⟩ ⟨buf, some start, false⟩
  | discard (buf : List UInt8) (startMs : UInt32) (start : Option Nat) :
      Mirrors first now ⟨.discard, buf, startMs⟩ ⟨[], start, true⟩

/-- One byte keeps the receivers in step. -/
lemma Mirrors.byte {first now : Nat} (hnow : first ≤ now) (b : UInt8) (p : RxParser) (q : FrameParser)
    (h : Mirrors first now p q) :
    Mirrors first now (RxParser.byte (UInt32.ofNat now) b p).2 (q.byte now b).2 ∧
      (q.byte now b).1 = (RxParser.byte (UInt32.ofNat now) b p).1.map translate := by
  by_cases hzero : b = 0
  · subst hzero
    cases h with
    | idle => exact ⟨.idle _ _ _, rfl⟩
    | inFrame buf start hne hlen hfirst hle =>
      have hp : RxParser.byte (UInt32.ofNat now) 0 ⟨.inFrame, buf, UInt32.ofNat start⟩ =
          (some (RxParser.decodeRun buf), RxParser.init (UInt32.ofNat now)) := by
        simp [RxParser.byte, hne]
      have hq : FrameParser.byte now 0 ⟨buf, some start, false⟩ = (some (decodeRun buf), {}) := by
        simp [FrameParser.byte, hne]
      rw [hp, hq, decodeRun_eq]
      exact ⟨.idle _ _ _, rfl⟩
    | discard => exact ⟨.idle _ _ _, rfl⟩
  · have hb : (b == 0) = false := by simpa using hzero
    cases h with
    | idle =>
      simp only [RxParser.byte, FrameParser.byte, hb]
      exact ⟨.inFrame [b] now (by simp) (by simp) hnow (Nat.le_refl _), rfl⟩
    | inFrame buf start hne hlen hfirst hle =>
      have hlast : (buf ++ [b]).length = buf.length + 1 := by simp
      by_cases hfull : buf.length ≥ cobsRecvMax
      · -- the 552nd byte
        have hover : (buf ++ [b]).length > 551 := by
          rw [hlast]
          exact Nat.lt_succ_of_le hfull
        simp only [RxParser.byte, FrameParser.byte, hb, hne, if_false, reduceCtorEq, hfull, hover,
          if_true]
        exact ⟨.discard _ _ _, rfl⟩
      · have hroom : ¬ (buf ++ [b]).length > 551 := by
          rw [hlast]
          exact fun hover => hfull (Nat.le_of_lt_succ hover)
        simp only [RxParser.byte, FrameParser.byte, hb, hne, if_false, reduceCtorEq, hfull, hroom]
        exact ⟨.inFrame _ start (by simp) (Nat.le_of_not_lt hroom) hfirst hle, rfl⟩
    | discard =>
      simp only [RxParser.byte, FrameParser.byte, hb]
      exact ⟨.discard _ _ _, rfl⟩

/-- The age of a frame, as far as the clock does not come round. -/
lemma age_toNat {start now : Nat} (hle : start ≤ now) (hlt : now < start + 2 ^ 32) :
    (UInt32.ofNat now - UInt32.ofNat start).toNat = now - start := by
  rw [UInt32.toNat_sub, UInt32.toNat_ofNat', UInt32.toNat_ofNat']
  omega

/-- Both receivers drop a frame at the same age. -/
lemma Mirrors.expire {first now : Nat} {p : RxParser} {q : FrameParser} (h : Mirrors first now p q)
    (hspan : now < first + 2 ^ 32) :
    Mirrors first now (p.expire (UInt32.ofNat now)).2 (q.expire now).2 ∧
      (q.expire now).1 = (p.expire (UInt32.ofNat now)).1.map translate := by
  cases h with
  | idle => exact ⟨.idle _ _ _, rfl⟩
  | inFrame buf start hne hlen hfirst hle =>
    have hage : UInt32.ofNat now - UInt32.ofNat start ≥ 1000 ↔ start + 1000 ≤ now := by
      rw [ge_iff_le, UInt32.le_iff_toNat_le, age_toNat hle (by omega)]
      show 1000 ≤ now - start ↔ _
      omega
    by_cases hold : start + 1000 ≤ now
    · have hc : UInt32.ofNat now - UInt32.ofNat start ≥ 1000 := hage.mpr hold
      simp only [RxParser.expire, FrameParser.expire, hc, hne, hold, Option.any_some, ne_eq,
        not_false_eq_true, and_self, decide_true, if_true]
      exact ⟨.discard _ _ _, rfl⟩
    · have hc : ¬ UInt32.ofNat now - UInt32.ofNat start ≥ 1000 := fun h => hold (hage.mp h)
      simp only [RxParser.expire, FrameParser.expire, hc, hold, Option.any_some, and_false,
        decide_false, Bool.false_eq_true, if_false]
      exact ⟨.inFrame buf start hne hlen hfirst hle, rfl⟩
  | discard => exact ⟨.discard _ _ _, rfl⟩

/-- A chunk is received alike. -/
lemma Mirrors.feed {first now : Nat} {p : RxParser} {q : FrameParser} (h : Mirrors first now p q)
    (hnow : first ≤ now) (hspan : now < first + 2 ^ 32) (data : List UInt8) :
    Mirrors first now (scan (RxParser.byte (UInt32.ofNat now)) data (p.expire (UInt32.ofNat now)).2).2
        (q.feed data now).2 ∧
      (q.feed data now).1 = ((p.expire (UInt32.ofNat now)).1 ++
        (scan (RxParser.byte (UInt32.ofNat now)) data (p.expire (UInt32.ofNat now)).2).1).map
          translate := by
  obtain ⟨hexpired, hevents⟩ := h.expire hspan
  obtain ⟨hnext, hscan⟩ := scan_simulates (R := Mirrors first now) (f := translate) (Mirrors.byte hnow)
    data hexpired
  refine ⟨hnext, ?_⟩
  rw [List.map_append, ← hevents, ← hscan]
  rfl

/-- Time passes. -/
lemma Mirrors.later {first now now' : Nat} {p : RxParser} {q : FrameParser}
    (h : Mirrors first now p q) (hle : now ≤ now') : Mirrors first now' p q := by
  cases h with
  | idle => exact .idle _ _ _
  | inFrame buf start hne hlen hfirst hle' => exact .inFrame buf start hne hlen hfirst (Nat.le_trans hle' hle)
  | discard => exact .discard _ _ _

end RemoteBridge.Python
