import RemoteBridge.Framework.Memory
import RemoteBridge.Protocol.Frame

/-!
# The frame layer with its pointers

`rbp_cobs_encode`, `rbp_cobs_decode` and `encode_payload` work on raw memory: the encoder patches the
code byte of the open block through `codep`, and the decoder may run with source and destination the same
buffer.  Here the memory is a function, and the pointers are addresses in it.

Each function is followed to the function on byte strings (`Protocol/Cobs`, `Protocol/Frame`) by one
invariant: `Writes` for the encoder, and for the decoder that it writes behind its read cursor or beside
its source.
-/

namespace RemoteBridge

/-! ## Encoding -/

/-- The variables of the encoder; `mem` is the memory that `dst` and `codep` point into. -/
structure CobsWriter where
  mem : Nat → UInt8
  dst : Nat
  codep : Nat
  code : UInt8

namespace CobsWriter

/-- The place of the first code byte is left out. -/
def start (mem : Nat → UInt8) (out : Nat) : CobsWriter := { mem := mem, dst := out + 1, codep := out, code := 1 }

/-- `*codep = code; code = 1; codep = dst++`. -/
def closeBlock (w : CobsWriter) : CobsWriter :=
  { mem := Function.update w.mem w.codep w.code, dst := w.dst + 1, codep := w.dst, code := 1 }

/-- `*dst++ = byte; code++`. -/
def append (byte : UInt8) (w : CobsWriter) : CobsWriter :=
  { mem := Function.update w.mem w.dst byte, dst := w.dst + 1, codep := w.codep, code := w.code + 1 }

/-- One byte of the loop. -/
def byte (w : CobsWriter) (byte : UInt8) : CobsWriter :=
  if byte == 0 then w.closeBlock
  else
    let w := w.append byte
    if w.code == 0xff then w.closeBlock else w

end CobsWriter

/-- `rbp_cobs_encode` to address `out`: the memory and the number of bytes. -/
def cobsEncodeAt (mem : Nat → UInt8) (out : Nat) (src : List UInt8) : (Nat → UInt8) × Nat :=
  let w := src.foldl CobsWriter.byte (.start mem out)
  (Function.update w.mem w.codep w.code, w.dst - out)

/-- The variables of `encode_payload`. -/
structure PayloadWriter where
  cobs : CobsWriter
  crc : UInt32

/-- One byte of the loop of `encode_payload`; `covered` is `part < 2`. -/
def PayloadWriter.byte (covered : Bool) (w : PayloadWriter) (byte : UInt8) : PayloadWriter :=
  { cobs := w.cobs.byte byte, crc := if covered then crc32cUpdate w.crc byte else w.crc }

/-- `encode_payload` to address `out`: the memory, the number of bytes, and the next sequence number. -/
def encodePayloadAt (mem : Nat → UInt8) (out : Nat) (h : Header) (nextTxSeq : UInt32) (payload : List UInt8) :
    (Nat → UInt8) × Nat × UInt32 :=
  if payload.length > maxPayload then (mem, 0, nextTxSeq)
  else
    let header := (h.stamped nextTxSeq payload.length).pack
    let w := header.foldl (PayloadWriter.byte true) { cobs := .start mem out, crc := 0xffffffff }
    let w := payload.foldl (PayloadWriter.byte true) w
    let tail := put32 (w.crc ^^^ 0xffffffff)
    let w := tail.foldl (PayloadWriter.byte false) w
    let mem := Function.update w.cobs.mem w.cobs.codep w.cobs.code
    (Function.update mem w.cobs.dst 0, w.cobs.dst + 1 - out, nextTxSeq + 1)

/-- The memory from `out` on holds the closed blocks, a place for a code byte, and the open block. -/
structure Writes (out : Nat) (s : CobsState) (w : CobsWriter) : Prop where
  room : s.block.length < 254
  codep : w.codep = out + s.done.length
  dst : w.dst = w.codep + 1 + s.block.length
  code : w.code = UInt8.ofNat (s.block.length + 1)
  done : window w.mem out s.done.length = s.done
  block : window w.mem (w.codep + 1) s.block.length = s.block

namespace Writes

variable {out : Nat} {s : CobsState} {w : CobsWriter}

lemma start (mem : Nat → UInt8) (out : Nat) : Writes out { done := [], block := [] } (.start mem out) :=
  ⟨by decide, rfl, rfl, rfl, rfl, rfl⟩

/-- The output up to `dst`, once the code byte is patched. -/
lemma patched (h : Writes out s w) :
    window (Function.update w.mem w.codep w.code) out (s.close).length = s.close ∧
      w.dst = out + (s.close).length := by
  have hlen : (s.close).length = s.done.length + (1 + s.block.length) := by
    rw [CobsState.close, List.length_append, length_codedBlock, Nat.add_comm s.block.length]
  have hcodep := h.codep
  have hdst := h.dst
  refine ⟨?_, by omega⟩
  rw [hlen, window_add, window_add, window_one, window_update _ (.inr (by omega)), ← h.codep,
    window_update _ (.inl (by omega)), Function.update_self, h.done, h.block, h.code]
  rfl

lemma closeBlock (h : Writes out s w) {s' : CobsState} (hdone : s'.done = s.done ++ codedBlock s.block)
    (hblock : s'.block = []) : Writes out s' w.closeBlock := by
  obtain ⟨hwindow, hdst⟩ := h.patched
  have hclose : s'.done = s.close := hdone
  refine ⟨by rw [hblock]; decide, ?_, ?_, ?_, ?_, ?_⟩
  · rw [hclose]
    exact hdst
  · rw [hblock]
    rfl
  · rw [hblock]
    rfl
  · rw [hclose]
    exact hwindow
  · rw [hblock]
    rfl

/-- A byte that is not zero goes into the open block. -/
lemma append (h : Writes out s w) (byte : UInt8) (hroom : s.block.length + 1 < 254) :
    Writes out { done := s.done, block := s.block ++ [byte] } (w.append byte) := by
  have hcodep := h.codep
  have hdst := h.dst
  refine ⟨by simpa using hroom, hcodep, ?_, ?_, ?_, ?_⟩
  · simp only [CobsWriter.append, List.length_append, List.length_singleton]
    omega
  · simp only [CobsWriter.append, List.length_append, List.length_singleton, h.code]
    rw [← UInt8.ofNat_one, ← UInt8.ofNat_add]
  · change window (Function.update w.mem w.dst byte) out s.done.length = s.done
    rw [window_update _ (.inr (by omega)), h.done]
  · change window (Function.update w.mem w.dst byte) (w.codep + 1) (s.block ++ [byte]).length = _
    rw [List.length_append, List.length_singleton, window_succ, window_update _ (.inr (by omega)), h.block,
      ← hdst, Function.update_self]

lemma byte (h : Writes out s w) (byte : UInt8) : Writes out (cobsByte s byte) (w.byte byte) := by
  have hroom := h.room
  have hnext : (w.append byte).code = UInt8.ofNat (s.block.length + 2) := by
    change w.code + 1 = _
    rw [h.code, ← UInt8.ofNat_one, ← UInt8.ofNat_add]
  have hfull : ((w.append byte).code == 0xff) = (s.block.length + 2 == 0xff) := by
    rw [hnext, Bool.eq_iff_iff, beq_iff_eq, beq_iff_eq, ← UInt8.toNat_inj, UInt8.toNat_ofNat',
      Nat.mod_eq_of_lt (by omega)]
    rfl
  unfold cobsByte CobsWriter.byte
  dsimp only
  rw [hfull]
  split
  · exact h.closeBlock rfl rfl
  · split
    next hlen =>
      -- The block is full only now, so `append` would break its bound; it is closed in the same turn.
      have hlen : s.block.length + 2 = 255 := by simpa using hlen
      have hcodep := h.codep
      have hdst := h.dst
      have hpatched : Function.update (w.append byte).mem (w.append byte).codep (w.append byte).code =
          Function.update (Function.update w.mem w.dst byte) w.codep (UInt8.ofNat (s.block.length + 2)) := by
        rw [hnext]
        rfl
      have hblocks : (s.done ++ codedBlock (s.block ++ [byte])).length = s.done.length + (1 + (s.block.length + 1)) := by
        rw [List.length_append, length_codedBlock, List.length_append, List.length_singleton]
        omega
      refine ⟨Nat.zero_lt_succ 253, ?_, rfl, rfl, ?_, rfl⟩
      · change w.dst + 1 = _
        rw [hblocks]
        omega
      · change window (Function.update _ _ _) out _ = _
        rw [hpatched, hblocks, window_add, window_add, window_one, window_update _ (.inr (by omega)),
          window_update _ (.inr (by omega)), ← hcodep, Function.update_self, window_update _ (.inl (by omega)),
          window_succ, window_update _ (.inr (by omega)), h.done, h.block, ← hdst, Function.update_self, codedBlock,
          List.length_append, List.length_singleton]
        rfl
    next hlen =>
      have hne : s.block.length + 2 ≠ 255 := by simpa using hlen
      exact h.append byte (by omega)

lemma bytes (h : Writes out s w) (src : List UInt8) : Writes out (src.foldl cobsByte s) (src.foldl CobsWriter.byte w) := by
  induction src generalizing s w with
  | nil => exact h
  | cons b src ih => exact ih (h.byte b)

end Writes

/-- `rbp_cobs_encode` writes the encoding. -/
lemma cobsEncodeAt_eq (mem : Nat → UInt8) (out : Nat) (src : List UInt8) :
    window (cobsEncodeAt mem out src).1 out (cobsEncodeAt mem out src).2 = cobsEncode src := by
  obtain ⟨hwindow, hdst⟩ := ((Writes.start mem out).bytes src).patched
  unfold cobsEncodeAt
  dsimp only
  rw [hdst, Nat.add_sub_cancel_left, hwindow]
  rfl

lemma foldl_payloadWriter (covered : Bool) (bytes : List UInt8) (w : PayloadWriter) :
    bytes.foldl (PayloadWriter.byte covered) w =
      { cobs := bytes.foldl CobsWriter.byte w.cobs,
        crc := if covered then bytes.foldl crc32cUpdate w.crc else w.crc } := by
  induction bytes generalizing w with
  | nil => cases covered <;> rfl
  | cons byte bytes ih =>
    rw [List.foldl_cons, ih, List.foldl_cons, List.foldl_cons]
    cases covered <;> rfl

/-- `encode_payload` writes the frame. -/
lemma encodePayloadAt_eq (mem : Nat → UInt8) (out : Nat) (h : Header) (nextTxSeq : UInt32) {payload : List UInt8}
    (hlen : payload.length ≤ maxPayload) :
    window (encodePayloadAt mem out h nextTxSeq payload).1 out (encodePayloadAt mem out h nextTxSeq payload).2.1 =
        wireFrame (h.stamped nextTxSeq payload.length) payload ∧
      (encodePayloadAt mem out h nextTxSeq payload).2.2 = nextTxSeq + 1 := by
  have hpatched := ((Writes.start mem out).bytes
    (rawFrame (h.stamped nextTxSeq payload.length) payload)).patched
  unfold encodePayloadAt
  rw [if_neg (Nat.not_lt.mpr hlen)]
  simp only [foldl_payloadWriter, if_true, Bool.false_eq_true, if_false, ← List.foldl_append]
  obtain ⟨hwindow, hdst⟩ := hpatched
  rw [rawFrame, crc32c] at hwindow hdst
  refine ⟨?_, trivial⟩
  rw [hdst, Nat.add_assoc, Nat.add_sub_cancel_left, window_succ, window_update _ (.inr (by omega)), hwindow,
    Function.update_self]
  rfl

/-! ## Decoding -/

/-- The variables of the decoder.  `writes` is not in the source: each write, with where the read cursor
is then. -/
structure CobsReader where
  mem : Nat → UInt8
  src : Nat
  dst : Nat
  writes : List (Nat × Nat) := []

namespace CobsReader

/-- `*dst++ = value`. -/
def put (value : UInt8) (r : CobsReader) : CobsReader :=
  { mem := Function.update r.mem r.dst value, src := r.src, dst := r.dst + 1, writes := (r.dst, r.src) :: r.writes }

/-- `*src++`, without the value. -/
def skip (r : CobsReader) : CobsReader := { r with src := r.src + 1 }

/-- The loop that copies a block. -/
def copyBlock : Nat → CobsReader → CobsReader
  | 0, r => r
  | n + 1, r => copyBlock n (r.put (r.mem r.src)).skip

/-- The loop of `rbp_cobs_decode` up to address `last`, and whether the input was well formed.  Each turn
reads at least the code byte, so `fuel` is the number of bytes. -/
def decodeLoop (last : Nat) : Nat → CobsReader → Bool × CobsReader
  | 0, r => (decide (last ≤ r.src), r)
  | fuel + 1, r =>
    if r.src < last then
      let code := r.mem r.src
      let r := r.skip
      if code == 0 then (false, r)
      else if last - r.src < code.toNat - 1 then (false, r)
      else
        let r := copyBlock (code.toNat - 1) r
        decodeLoop last fuel (if code < 0xff && r.src != last then r.put 0 else r)
    else (true, r)

end CobsReader

/-- `rbp_cobs_decode` of the `len` bytes at `src` to address `dst`: the length, which is 0 after an error,
and the state at the end. -/
def cobsDecodeAt (mem : Nat → UInt8) (src len dst : Nat) : Nat × CobsReader :=
  let r := CobsReader.decodeLoop (src + len) len { mem := mem, src := src, dst := dst }
  (if r.1 then r.2.dst - dst else 0, r.2)

namespace CobsReader

variable {r : CobsReader} {last : Nat}

/-- Where the decoder may write: behind the read cursor, or behind its source. -/
def Apart (last : Nat) (r : CobsReader) : Prop := r.dst ≤ r.src ∨ last ≤ r.dst

/-- Every write was behind the read cursor. -/
def Behind (r : CobsReader) : Prop := ∀ p ∈ r.writes, p.1 < p.2

lemma Behind.put (h : r.Behind) (hlt : r.dst < r.src) (value : UInt8) : (r.put value).Behind := by
  intro p hp
  rcases List.mem_cons.mp hp with rfl | hp
  · exact hlt
  · exact h p hp

/-- A block is copied as it was before. -/
lemma copyBlock_spec (n : Nat) (hlast : r.src + n ≤ last) (h : r.dst < r.src ∨ last ≤ r.dst) :
    (copyBlock n r).src = r.src + n ∧ (copyBlock n r).dst = r.dst + n ∧
      window (copyBlock n r).mem r.dst n = window r.mem r.src n ∧
      (∀ a, a < r.dst ∨ r.dst + n ≤ a → (copyBlock n r).mem a = r.mem a) ∧
      (r.dst < r.src → r.Behind → (copyBlock n r).Behind) := by
  induction n generalizing r with
  | zero => exact ⟨rfl, rfl, rfl, fun _ _ => rfl, fun _ hb => hb⟩
  | succ n ih =>
    obtain ⟨next, hnext⟩ : ∃ next, next = (r.put (r.mem r.src)).skip := ⟨_, rfl⟩
    have hsrc : next.src = r.src + 1 := by rw [hnext]; rfl
    have hdst : next.dst = r.dst + 1 := by rw [hnext]; rfl
    have hmem : next.mem = Function.update r.mem r.dst (r.mem r.src) := by rw [hnext]; rfl
    obtain ⟨hs, hd, hw, hold, hbehind⟩ := ih (r := next) (by omega) (by omega)
    have hcopy : copyBlock (n + 1) r = copyBlock n next := by rw [copyBlock, hnext]
    rw [hcopy]
    refine ⟨by omega, by omega, ?_, fun a ha => ?_, fun hlt hb => hbehind (by omega) ?_⟩
    · have hfirst : (copyBlock n next).mem r.dst = r.mem r.src := by
        rw [hold _ (.inl (by omega)), hmem, Function.update_self]
      have hrest : window next.mem next.src n = window r.mem (r.src + 1) n := by
        rw [hmem, hsrc, window_update _ (by omega)]
      rw [window_cons, window_cons, hfirst, ← hdst, hw, hrest]
    · rw [hold a (by omega), hmem, Function.update_of_ne (by omega)]
    · rw [hnext]
      exact hb.put hlt (r.mem r.src)

/-- The decoder on memory does what the decoder on byte strings does: the result, the bytes it has left
behind, and which of its writes were behind the read cursor. -/
structure Decoded (last : Nat) (result : Option (List UInt8)) (r : CobsReader) (out : Bool × CobsReader) : Prop where
  ok : out.1 = result.isSome
  dst : ∀ bytes ∈ result, out.2.dst = r.dst + bytes.length
  bytes : ∀ bytes ∈ result, window out.2.mem r.dst bytes.length = bytes
  length_le : ∀ bytes ∈ result, bytes.length ≤ last - r.src
  before : ∀ a < r.dst, out.2.mem a = r.mem a
  behind : r.dst ≤ r.src → r.Behind → out.2.Behind

lemma decoded_failed {out : CobsReader} (hmem : out.mem = r.mem) (hwrites : out.writes = r.writes) :
    Decoded last none r (false, out) :=
  ⟨rfl, nofun, nofun, nofun, fun a _ => by rw [hmem], fun _ hb p hp => hb p (hwrites ▸ hp)⟩

/-- Some bytes are written, and the rest is decoded behind them. -/
lemma Decoded.prepend {result : Option (List UInt8)} {next : CobsReader} {out : Bool × CobsReader} {head : List UInt8}
    (hd : Decoded last result next out) (hdst : next.dst = r.dst + head.length)
    (hsrc : r.src + head.length ≤ next.src ∧ next.src ≤ last) (hhead : window next.mem r.dst head.length = head)
    (hold : ∀ a < r.dst, next.mem a = r.mem a)
    (hbehind : r.dst ≤ r.src → r.Behind → next.dst ≤ next.src ∧ next.Behind) :
    Decoded last (result.map (head ++ ·)) r out where
  ok := hd.ok.trans Option.isSome_map.symm
  dst := by
    intro bytes hb
    obtain ⟨tail, ht, rfl⟩ := Option.mem_map.mp hb
    rw [hd.dst tail ht, hdst, List.length_append, Nat.add_assoc]
  bytes := by
    intro bytes hb
    obtain ⟨tail, ht, rfl⟩ := Option.mem_map.mp hb
    have hkept : window out.2.mem r.dst head.length = window next.mem r.dst head.length :=
      window_congr fun i hi => hd.before _ (by omega)
    rw [List.length_append, window_add, hkept, hhead, ← hdst, hd.bytes tail ht]
  length_le := by
    intro bytes hb
    obtain ⟨tail, ht, rfl⟩ := Option.mem_map.mp hb
    have htail := hd.length_le tail ht
    rw [List.length_append]
    omega
  before := fun a ha => (hd.before a (by omega)).trans (hold a ha)
  behind := fun hle hb => hd.behind (hbehind hle hb).1 (hbehind hle hb).2

lemma decoded_decodeLoop (fuel : Nat) (hfuel : last - r.src ≤ fuel) (hsrc : r.src ≤ last) (h : r.Apart last) :
    Decoded last (cobsDecodeLoop fuel (window r.mem r.src (last - r.src))) r (decodeLoop last fuel r) := by
  induction fuel generalizing r with
  | zero =>
    have hend : last - r.src = 0 := by omega
    have hdone : decide (last ≤ r.src) = true := decide_eq_true (by omega)
    rw [hend, window_zero, decodeLoop, hdone, cobsDecodeLoop]
    exact ⟨rfl, by simp, by simp, by simp, fun _ _ => rfl, fun _ hb => hb⟩
  | succ fuel ih =>
    unfold decodeLoop
    by_cases hmore : r.src < last
    · obtain ⟨k, hk⟩ : ∃ k, last - r.src = k + 1 := ⟨last - r.src - 1, by omega⟩
      have hk' : last - r.skip.src = k := by
        change last - (r.src + 1) = k
        omega
      rw [if_pos hmore, hk, window_cons, cobsDecodeLoop, length_window]
      dsimp only
      rw [hk']
      by_cases hzero : (r.mem r.src == 0) = true
      · rw [if_pos hzero, if_pos hzero]
        exact decoded_failed rfl rfl
      rw [if_neg hzero, if_neg hzero]
      by_cases hshort : k < (r.mem r.src).toNat - 1
      · rw [if_pos hshort, if_pos hshort]
        exact decoded_failed rfl rfl
      rw [if_neg hshort, if_neg hshort]
      obtain ⟨block, hblock⟩ : ∃ block, block = (r.mem r.src).toNat - 1 := ⟨_, rfl⟩
      rw [← hblock] at hshort ⊢
      obtain ⟨hs, hd, hw, hold, hbehind⟩ := @copyBlock_spec r.skip last block
        (by change r.src + 1 + block ≤ last; omega) (h.imp_left Nat.lt_succ_of_le)
      change (copyBlock block r.skip).src = r.src + 1 + block at hs
      change (copyBlock block r.skip).dst = r.dst + block at hd
      change window (copyBlock block r.skip).mem r.dst block = window r.mem (r.src + 1) block at hw
      generalize copyBlock block r.skip = copied at hs hd hw hold hbehind ⊢
      -- The zero is implied on both sides by the same condition.
      have hrest : (window r.mem (r.src + 1) k).drop block = window r.mem (r.src + 1 + block) (k - block) :=
        drop_window (by omega)
      have hlast : (!(window r.mem (r.src + 1 + block) (k - block)).isEmpty) = (copied.src != last) := by
        rw [isEmpty_window, Bool.eq_iff_iff, Bool.not_eq_true', decide_eq_false_iff_not, bne_iff_ne, hs]
        omega
      rw [hrest, hlast, take_window (by omega)]
      have hrun : ∀ (next : CobsReader) (zeros : List UInt8), zeros.length ≤ 1 → next.src = copied.src →
          next.dst = copied.dst + zeros.length → window next.mem copied.dst zeros.length = zeros →
          (∀ a, a < copied.dst ∨ copied.dst + zeros.length ≤ a → next.mem a = copied.mem a) →
          (copied.dst < copied.src → copied.Behind → next.Behind) →
          Decoded last ((cobsDecodeLoop fuel (window r.mem (r.src + 1 + block) (k - block))).map
            fun out => window r.mem (r.src + 1) block ++ zeros ++ out) r (decodeLoop last fuel next) := by
        intro next zeros hone hsrc' hdst' hzeros hkept hbehind'
        have hunread : window next.mem next.src (last - next.src) = window r.mem (r.src + 1 + block) (k - block) := by
          have hlen : last - next.src = k - block := by omega
          rw [hlen]
          refine window_congr fun i hi => ?_
          rcases h with hle | hle
          · rw [hkept _ (.inr (by omega)), hold _ (.inr (by change r.dst + block ≤ _; omega)), hsrc', hs]
            rfl
          · rw [hkept _ (.inl (by omega)), hold _ (.inl (by change _ < r.dst; omega)), hsrc', hs]
            rfl
        have hnext := ih (r := next) (by omega) (by omega) (by
          rcases h with hle | hle
          · exact .inl (by omega)
          · exact .inr (by omega))
        rw [hunread] at hnext
        refine hnext.prepend ?_ ?_ ?_ ?_ ?_
        · rw [List.length_append, length_window]
          omega
        · rw [List.length_append, length_window]
          omega
        · have hcopied : window next.mem r.dst block = window r.mem (r.src + 1) block := by
            rw [← hw]
            exact window_congr fun i hi => hkept _ (.inl (by omega))
          rw [List.length_append, length_window, window_add, hcopied, ← hd, hzeros]
        · intro a ha
          rw [hkept a (.inl (by omega)), hold a (.inl ha)]
          rfl
        · intro hle hb
          exact ⟨by omega, hbehind' (by omega) (hbehind (Nat.lt_succ_of_le hle) hb)⟩
      by_cases hz : (decide (r.mem r.src < 0xff) && copied.src != last) = true
      · rw [if_pos hz, if_pos hz]
        refine hrun (copied.put 0) [0] (Nat.le_refl _) rfl rfl ?_ (fun a ha => ?_) (fun hlt hb => hb.put hlt 0)
        · rw [List.length_singleton, window_one]
          exact congrArg (fun x => [x]) (Function.update_self ..)
        · refine Function.update_of_ne ?_ ..
          rw [List.length_singleton] at ha
          omega
      · rw [if_neg hz, if_neg hz]
        exact hrun copied [] (Nat.zero_le _) rfl rfl rfl (fun _ _ => rfl) (fun _ hb => hb)
    · have hend : last - r.src = 0 := by omega
      rw [if_neg hmore, hend, window_zero, cobsDecodeLoop]
      exact ⟨rfl, by simp, by simp, by simp, fun _ _ => rfl, fun _ hb => hb⟩

end CobsReader

end RemoteBridge
