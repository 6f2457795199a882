import RemoteBridge.Protocol.Receiver

/-!
# Framing on the serial line

The line has no packets: a sender writes encoded frames, and the receiver finds them again in whatever
pieces the bytes arrive.  Two properties make this work.

* Resynchronisation (`drain_resynchronises`): a delimiter and an encoded frame are received as this frame
  by a receiver in any state whatever.  What was left over is reported before it, as at most one event.
* Chunking (`drainAll_eq_drain`): how the bytes are cut into chunks does not matter.

The receiver is `rbp_rx_drain` of `rbp_frame.c`.  It keeps the bytes since the last delimiter and decodes
them when the next one comes; a frame that grows too long puts it into a state in which it waits for the
delimiter.  Resynchronisation is therefore a case analysis over what the receiver may hold when the delimiter
comes, and chunking is an induction in which one call and the two calls it is cut into do the same.

The receiver also gives up a frame that stays incomplete for too long.  The time of a call is an argument of
it, and the two properties hold at every time; what a timeout reports is part of what was left over.
-/

namespace RemoteBridge

open RxParser

/-! ## Frames on the wire -/

/-- The encoded bytes end with the only delimiter, and fit the transmit buffer. -/
lemma encodePayload_shape {h : Header} {txSeq next : UInt32} {payload bytes : List UInt8}
    (henc : encodePayload h txSeq payload = some (bytes, next)) :
    (∃ run, bytes = run ++ [0] ∧ 0 ∉ run) ∧ bytes.length ≤ 552 := by
  rw [encodePayload_eq_frameEncode, frameEncode] at henc
  split at henc
  · cases henc
  · next hlen =>
    obtain ⟨rfl, -⟩ := Prod.mk.inj (Option.some.inj henc)
    refine ⟨⟨_, rfl, zero_not_mem_cobsEncode _⟩, ?_⟩
    have hraw : (rawFrame (h.stamped txSeq payload.length) payload).length = payload.length + 36 := by
      rw [rawFrame, List.length_append, List.length_append, length_put32, Header.length_pack]
      omega
    have hcobs := length_cobsEncode_le (rawFrame (h.stamped txSeq payload.length) payload)
    have hmax : maxPayload = 512 := rfl
    rw [wireFrame, List.length_append, List.length_singleton]
    omega

/-- An idle receiver scans an encoded frame as this frame. -/
lemma scan_wireFrame (nowMs : UInt32) (h : Header) (txSeq : UInt32) {payload : List UInt8}
    (hlen : payload.length ≤ maxPayload) :
    scan (byte nowMs) (wireFrame (h.stamped txSeq payload.length) payload) (RxParser.init nowMs) =
      ([.frame (h.stamped txSeq payload.length) payload true], RxParser.init nowMs) := by
  have hne : wireFrame (h.stamped txSeq payload.length) payload ≠ [] := by simp [wireFrame]
  have hdrain := drain_wireFrame nowMs nowMs h txSeq hlen
  rw [drain_eq hne, expire_young (young_init _ _), List.nil_append] at hdrain
  dsimp only at hdrain
  generalize scan (byte nowMs) _ (RxParser.init nowMs) = r at hdrain ⊢
  exact hdrain

/-! ## Resynchronisation -/

/-- What a receiver reports for what it has left over, when a delimiter comes. -/
def RxParser.leftover (nowMs : UInt32) (p : RxParser) : List RxEvent :=
  (expire nowMs p).1 ++ (byte nowMs 0 (expire nowMs p).2).1.toList

/-- A delimiter ends what is in progress and makes any receiver idle. -/
lemma byte_zero (nowMs : UInt32) (p : RxParser) :
    byte nowMs 0 p = (if p.state = .inFrame ∧ p.buf ≠ [] then some (decodeRun p.buf) else none,
      RxParser.init nowMs) := by
  unfold byte
  split
  · next hdiscard => simp [hdiscard]
  · rfl

lemma decodeRun_ne_overflow (run : List UInt8) : decodeRun run ≠ .overflow := by
  unfold decodeRun
  split
  · exact nofun
  · split
    · split <;> exact nofun
    · exact nofun

/-- Leftover bytes are reported at most once, as a time-out or as what they decode to. -/
lemma leftover_cases (nowMs : UInt32) (p : RxParser) :
    (p.leftover nowMs).length ≤ 1 ∧ ∀ e ∈ p.leftover nowMs, e ≠ .overflow := by
  rw [leftover, byte_zero, expire]
  split
  · simp
  · dsimp only
    split
    · simpa using decodeRun_ne_overflow p.buf
    · simp

/-- A delimiter and an encoded frame are received as this frame, in whatever state the receiver is. -/
theorem drain_resynchronises (p : RxParser) (nowMs : UInt32) (h : Header) (txSeq : UInt32)
    (payload : List UInt8) (hlen : payload.length ≤ maxPayload) :
    ∃ bytes next, encodePayload h txSeq payload = some (bytes, next) ∧
      (∃ before, before.length ≤ 1 ∧ (∀ e ∈ before, e ≠ .overflow) ∧
        p.drain (0 :: bytes) nowMs =
          (before ++ [.frame (h.stamped txSeq payload.length) payload true], RxParser.init nowMs)) ∧
      (∃ run, bytes = run ++ [0] ∧ 0 ∉ run) ∧ bytes.length ≤ 552 := by
  have henc : encodePayload h txSeq payload =
      some (wireFrame (h.stamped txSeq payload.length) payload, txSeq + 1) := by
    rw [encodePayload_eq_frameEncode, frameEncode, if_neg (by omega)]
  obtain ⟨hcount, hkind⟩ := leftover_cases nowMs p
  refine ⟨_, _, henc, ⟨p.leftover nowMs, hcount, hkind, ?_⟩, encodePayload_shape henc⟩
  rw [drain_eq (List.cons_ne_nil _ _), scan_cons, leftover, byte_zero]
  dsimp only
  rw [scan_wireFrame nowMs h txSeq hlen, List.append_assoc]

/-- A receiver in the middle of a frame gets a `PING`. -/
theorem drain_resynchronises_ping :
    ([1, 2] : List UInt8).length ≤ maxPayload ∧ ∃ bytes next before,
      encodePayload { kind := kindRequest, opcode := 2 } 9 [1, 2] = some (bytes, next) ∧
      ({ state := .inFrame, buf := [5, 6], frameStartMs := 0 } : RxParser).drain (0 :: bytes) 4 =
        (before ++ [.frame (Header.stamped { kind := kindRequest, opcode := 2 } 9 2) [1, 2] true],
          RxParser.init 4) := by
  have hlen : ([1, 2] : List UInt8).length ≤ maxPayload := by decide
  obtain ⟨bytes, next, henc, ⟨before, -, -, hdrain⟩, -⟩ :=
    drain_resynchronises { state := .inFrame, buf := [5, 6], frameStartMs := 0 } 4
      { kind := kindRequest, opcode := 2 } 9 [1, 2] hlen
  exact ⟨hlen, bytes, next, before, henc, hdrain⟩

/-! ## Chunks -/

/-- The loop of `rbp_rx_drain`: it ends when no bytes are left or a call reports nothing. -/
inductive Drains (nowMs : UInt32) : RxParser → List UInt8 → List RxEvent → RxParser → Prop
  | done (p : RxParser) : Drains nowMs p [] [] p
  | quiet {p p' : RxParser} {data rest : List UInt8} (hne : data ≠ [])
      (hfeed : p.feed data nowMs = (none, rest, p')) : Drains nowMs p data [] p'
  | event {p p' p'' : RxParser} {data rest : List UInt8} {e : RxEvent} {events : List RxEvent}
      (hne : data ≠ []) (hfeed : p.feed data nowMs = (some e, rest, p'))
      (h : Drains nowMs p' rest events p'') : Drains nowMs p data (e :: events) p''

/-- On a young frame every turn consumes a byte. -/
lemma drains_young {nowMs : UInt32} (n : Nat) {p : RxParser} {data : List UInt8}
    (h : Young nowMs p) (hn : data.length ≤ n) :
    Drains nowMs p data (scan (byte nowMs) data p).1 (scan (byte nowMs) data p).2 := by
  induction n generalizing p data with
  | zero =>
    obtain rfl := List.eq_nil_of_length_eq_zero (Nat.le_zero.mp hn)
    exact .done p
  | succ n ih =>
    by_cases hne : data = []
    · subst hne
      exact .done p
    · match hone : scanOne (byte nowMs) data p with
      | (none, rest, p') =>
        rw [(scan_of_scanOne_none hone).1]
        exact .quiet hne ((feed_young h data).trans hone)
      | (some e, rest, p') =>
        obtain ⟨hscan, hlen⟩ := scan_of_scanOne_some hone
        have hyoung : Young nowMs p' := by
          have hkept := scanOne_keeps (young_byte nowMs) data h
          rw [hone] at hkept
          exact hkept
        rw [hscan]
        exact .event hne ((feed_young h data).trans hone) (ih hyoung (by omega))

/-- The loop ends on every input, with the result of `drain`. -/
lemma drains_drain (nowMs : UInt32) (p : RxParser) (data : List UInt8) :
    Drains nowMs p data (p.drain data nowMs).1 (p.drain data nowMs).2 := by
  by_cases hne : data = []
  · subst hne
    exact .done p
  · rw [drain_eq hne]
    have hrest := drains_young data.length (young_expire nowMs p) (Nat.le_refl data.length)
    by_cases h : Young nowMs p
    · rw [expire_young h] at hrest ⊢
      exact hrest
    · obtain ⟨hfeed, hevents⟩ := feed_old h data
      rw [hevents]
      exact .event hne hfeed hrest

/-- Chunks are drained one after the other. -/
def RxParser.drainAll (nowMs : UInt32) : List (List UInt8) → RxParser → List RxEvent × RxParser
  | [], p => ([], p)
  | chunk :: chunks, p =>
    let r := p.drain chunk nowMs
    let t := drainAll nowMs chunks r.2
    (r.1 ++ t.1, t.2)

lemma drainAll_young {nowMs : UInt32} {p : RxParser} {chunks : List (List UInt8)}
    (hne : ∀ c ∈ chunks, c ≠ []) (h : Young nowMs p) :
    p.drainAll nowMs chunks = scan (byte nowMs) chunks.flatten p := by
  induction chunks generalizing p with
  | nil => rfl
  | cons chunk chunks ih =>
    rw [drainAll, drain_eq (hne chunk (List.mem_cons_self ..)), expire_young h, List.flatten_cons,
      scan_append, List.nil_append]
    dsimp only
    rw [ih (fun c hc => hne c (List.mem_cons_of_mem _ hc)) (young_scan chunk h)]

/-- Chunks are received as the bytes they hold. -/
lemma drainAll_chunks (nowMs : UInt32) (p : RxParser) {chunks : List (List UInt8)}
    (hne : ∀ c ∈ chunks, c ≠ []) : p.drainAll nowMs chunks = p.drain chunks.flatten nowMs := by
  cases chunks with
  | nil => rfl
  | cons chunk chunks =>
    -- the age is looked at by the first chunk only
    have hfirst : chunk ≠ [] := hne chunk (List.mem_cons_self ..)
    have hall : (chunk :: chunks).flatten ≠ [] := by simp [hfirst]
    have hyoung : Young nowMs (scan (byte nowMs) chunk (expire nowMs p).2).2 :=
      young_scan chunk (young_expire nowMs p)
    rw [drainAll, drain_eq hfirst, drain_eq hall, List.flatten_cons, scan_append]
    dsimp only
    rw [drainAll_young (fun c hc => hne c (List.mem_cons_of_mem _ hc)) hyoung, List.append_assoc]

/-- Chunks are received as the bytes they hold, and the receiver comes to an end on every input. -/
theorem drainAll_eq_drain (nowMs : UInt32) (p : RxParser) (chunks : List (List UInt8))
    (hne : ∀ c ∈ chunks, c ≠ []) :
    p.drainAll nowMs chunks = p.drain chunks.flatten nowMs ∧
      ∀ data, Drains nowMs p data (p.drain data nowMs).1 (p.drain data nowMs).2 :=
  ⟨drainAll_chunks nowMs p hne, drains_drain nowMs p⟩

/-- A frame that has timed out is dropped, and two chunks end it and begin another one. -/
theorem drainAll_eq_drain_timeout :
    (∀ c ∈ ([[7, 0], [3]] : List (List UInt8)), c ≠ []) ∧
      ({ state := .inFrame, buf := [5], frameStartMs := 0 } : RxParser).drainAll 1000 [[7, 0], [3]] =
        ([.timeout], { state := .inFrame, buf := [3], frameStartMs := 1000 }) := by
  have hne : ∀ c ∈ ([[7, 0], [3]] : List (List UInt8)), c ≠ [] := by decide
  refine ⟨hne, ?_⟩
  rw [(drainAll_eq_drain 1000 _ _ hne).1]
  decide

end RemoteBridge
