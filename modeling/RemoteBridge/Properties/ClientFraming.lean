import RemoteBridge.Client.FrameParser
import RemoteBridge.Properties.Framing
import RemoteBridge.Product.Host

/-!
# Clients and the board on one line

The two ends of the line are written independently.  Two properties say that they fit.

* The receivers of the board and of the Python client report the same events for the same bytes at the
  same times (`receivers_agree`), except for the frames that Python refuses at once.
* A host that opens a session must be heard, whatever an earlier host has left in the board's receiver.
  The Python client writes a delimiter before its `HELLO`, as the protocol demands of a host that
  recovers; the .NET client does not, and is heard only by an idle receiver (`openings_heard`).
-/

namespace RemoteBridge

open RxParser

/-! ## Equal receivers -/

/-- `rbp_rxparser_feed`, called again on what it leaves as long as it reports something. -/
def RxParser.receiveLoop (nowMs : UInt32) : Nat → RxParser → List UInt8 → List RxEvent × RxParser
  | 0, p, _ => ([], p)
  | fuel + 1, p, data =>
    match p.feed data nowMs with
    | (none, _, p') => ([], p')
    | (some e, rest, p') =>
      let r := receiveLoop nowMs fuel p' rest
      (e :: r.1, r.2)

/-- A chunk, which may be empty: every call but the first and the last consumes a byte. -/
def RxParser.receive (p : RxParser) (data : List UInt8) (nowMs : UInt32) : List RxEvent × RxParser :=
  receiveLoop nowMs (data.length + 2) p data

/-- A schedule of chunks with their times. -/
def RxParser.receiveAll : List (List UInt8 × Nat) → RxParser → List RxEvent × RxParser
  | [], p => ([], p)
  | (data, now) :: schedule, p =>
    let r := p.receive data (UInt32.ofNat now)
    let t := receiveAll schedule r.2
    (r.1 ++ t.1, t.2)

/-- The same for the Python client. -/
def Python.FrameParser.feedAll : List (List UInt8 × Nat) → FrameParser → List Event × FrameParser
  | [], p => ([], p)
  | (data, now) :: schedule, p =>
    let r := p.feed data now
    let t := feedAll schedule r.2
    (r.1 ++ t.1, t.2)

lemma receiveLoop_young {nowMs : UInt32} {fuel : Nat} {p : RxParser} {data : List UInt8}
    (h : Young nowMs p) (hfuel : data.length < fuel) :
    p.receiveLoop nowMs fuel data = scan (byte nowMs) data p := by
  induction fuel generalizing p data with
  | zero => omega
  | succ fuel ih =>
    rw [receiveLoop, feed_young h]
    split
    · next rest p' hone => rw [(scan_of_scanOne_none hone).1]
    · next e rest p' hone =>
      obtain ⟨hscan, hlen⟩ := scan_of_scanOne_some hone
      have hyoung : Young nowMs p' := by
        have hkept := scanOne_keeps (young_byte nowMs) data h
        rw [hone] at hkept
        exact hkept
      rw [hscan, ih hyoung (by omega)]

lemma receive_eq (p : RxParser) (data : List UInt8) (nowMs : UInt32) :
    p.receive data nowMs = ((expire nowMs p).1 ++ (scan (byte nowMs) data (expire nowMs p).2).1,
      (scan (byte nowMs) data (expire nowMs p).2).2) := by
  unfold receive
  by_cases h : Young nowMs p
  · rw [receiveLoop_young h (by omega), expire_young h, List.nil_append]
  · obtain ⟨hfeed, hevents⟩ := feed_old h data
    rw [receiveLoop, hfeed, hevents]
    dsimp only
    rw [receiveLoop_young (young_expire nowMs p) (by omega)]
    rfl

/-- Receivers in step stay in step over a schedule. -/
lemma mirrors_schedule {first now : Nat} {p : RxParser} {q : Python.FrameParser}
    {schedule : List (List UInt8 × Nat)} (h : Python.Mirrors first now p q) (hnow : first ≤ now)
    (hsorted : (now :: schedule.map (·.2)).Pairwise (· ≤ ·))
    (hspan : ∀ x ∈ schedule, x.2 < first + 2 ^ 32) :
    (q.feedAll schedule).1 = (p.receiveAll schedule).1.map Python.translate := by
  induction schedule generalizing now p q with
  | nil => rfl
  | cons x schedule ih =>
    obtain ⟨data, t⟩ := x
    obtain ⟨hfrom, hrest⟩ := List.pairwise_cons.mp hsorted
    have hle : now ≤ t := hfrom t (by simp)
    obtain ⟨hnext, hevents⟩ := (h.later hle).feed (hnow.trans hle)
      (hspan (data, t) (List.mem_cons_self ..)) data
    have htail := ih hnext (hnow.trans hle) hrest fun y hy => hspan y (List.mem_cons_of_mem _ hy)
    rw [Python.FrameParser.feedAll, receiveAll, receive_eq]
    dsimp only
    rw [htail, hevents, ← List.map_append]

/-- The receivers of the board and of the Python client report the same events, up to the frames that
Python refuses. -/
theorem receivers_agree (schedule : List (List UInt8 × Nat)) (startMs : UInt32)
    (hsorted : (schedule.map (·.2)).Pairwise (· ≤ ·))
    (hspan : ∀ x ∈ schedule, ∀ y ∈ schedule, y.2 - x.2 < 2 ^ 32) :
    (Python.FrameParser.feedAll schedule {}).1 =
      ((RxParser.init startMs).receiveAll schedule).1.map Python.translate := by
  cases schedule with
  | nil => rfl
  | cons x schedule =>
    obtain ⟨hfrom, _⟩ := List.pairwise_cons.mp hsorted
    have hidle : Python.Mirrors x.2 x.2 (RxParser.init startMs) {} := .idle _ _ _
    refine mirrors_schedule hidle (Nat.le_refl _) ?_ fun y hy => ?_
    · exact List.pairwise_cons.mpr ⟨fun t ht => (List.mem_cons.mp ht).elim (fun h => h ▸ Nat.le_refl _)
        (hfrom t), hsorted⟩
    · have hdiff := hspan x (List.mem_cons_self ..) y hy
      omega

/-- A frame that is a second old is dropped by both, an empty chunk being enough for it. -/
theorem receivers_agree_timeout :
    (([([3, 5], 10), ([], 1010), ([0, 0, 7, 0], 1020)] : List (List UInt8 × Nat)).map
        (·.2)).Pairwise (· ≤ ·) ∧
      (Python.FrameParser.feedAll [([3, 5], 10), ([], 1010), ([0, 0, 7, 0], 1020)] {}).1 =
        [.timeout, .garbage] := by
  have hsorted : (([([3, 5], 10), ([], 1010), ([0, 0, 7, 0], 1020)] : List (List UInt8 × Nat)).map
      (·.2)).Pairwise (· ≤ ·) := by decide
  refine ⟨hsorted, ?_⟩
  rw [receivers_agree _ 0 hsorted (by decide)]
  decide

/-! ## The bytes that open a session -/

/-- The header of a `HELLO`. -/
def helloHeader : Header := { kind := kindRequest, requestId := 1, opcode := RequestOp.hello.code }

/-- What `BridgeClient.hello` of the Python client writes. -/
def Python.hello (nonce : List UInt8) : Option (List UInt8) :=
  (encodeFrame { kind := 1, sessionId := 0, requestId := 1, opcode := 0x0001 } (tlvBlob 1 nonce) 1).map
    ([0] ++ ·)

/-- What `BridgeClient.OpenAsync` of the .NET client writes. -/
def Dotnet.openAsync (nonce : List UInt8) : Option (List UInt8) :=
  encode { kind := 1, session := 0, sequence := 1, request := 1, opcode := 1, status := 0,
           connection := 0, payload := tlvBlob 1 nonce }

/-- The payload of a `HELLO`. -/
def helloPayload (nonce : List UInt8) : List UInt8 := [1, 7] ++ leBytes 2 nonce.length ++ nonce

/-- The `HELLO` as the receiver reports it. -/
def helloEvent (nonce : List UInt8) : RxEvent :=
  .frame (helloHeader.stamped 1 (helloPayload nonce).length) (helloPayload nonce) true

/-- The frame of a `HELLO`. -/
def helloFrame (nonce : List UInt8) : List UInt8 :=
  wireFrame (helloHeader.stamped 1 (helloPayload nonce).length) (helloPayload nonce)

section Nonce

variable {nonce : List UInt8} (hn : nonce.length = 16)

include hn

lemma length_helloPayload : (helloPayload nonce).length = 20 := by
  rw [helloPayload, List.length_append, List.length_append, length_leBytes, hn]
  rfl

lemma python_hello : Python.hello nonce = some (0 :: helloFrame nonce) := by
  have hlen : (helloPayload nonce).length ≤ maxPayload := by
    rw [length_helloPayload hn]
    decide
  have hone : (1 : UInt32) ≠ 0 := by decide
  have henc := Python.encodeFrame_eq helloHeader hone hlen
  have hheader : ({ Python.Header.ofC helloHeader with major := 3, minor := 0 } : Python.Header) =
      { kind := 1, sessionId := 0, requestId := 1, opcode := 0x0001 } := by decide
  rw [hheader] at henc
  have hone : (1 : UInt32).toNat = 1 := rfl
  rw [hone] at henc
  have hpayload : Python.tlvBlob 1 nonce = helloPayload nonce := rfl
  rw [Python.hello, hpayload, henc, Option.map_some, helloFrame, List.singleton_append]

lemma dotnet_openAsync : Dotnet.openAsync nonce = some (helloFrame nonce) := by
  have hpayload : Dotnet.tlvBlob 1 nonce = helloPayload nonce := by
    rw [Dotnet.tlvBlob, helloPayload, hn]
    rfl
  have hlen : (helloPayload nonce).length ≤ maxPayload := by
    rw [length_helloPayload hn]
    decide
  unfold Dotnet.openAsync
  rw [hpayload]
  exact Dotnet.encode_eq (by simp) hlen

end Nonce

/-! ## What a receiver can be left with -/

/-- The states that the board's receiver can be in. -/
inductive RxReach : RxParser → Prop
  | init (nowMs : UInt32) : RxReach (RxParser.init nowMs)
  | drain {p : RxParser} (data : List UInt8) (nowMs : UInt32) (h : RxReach p) :
      RxReach (p.drain data nowMs).2

/-- A frame in progress has bytes. -/
def Begun (p : RxParser) : Prop := p.state = .inFrame → p.buf ≠ []

lemma begun_byte (nowMs : UInt32) (b : UInt8) (p : RxParser) (h : Begun p) :
    Begun (byte nowMs b p).2 := by
  unfold byte
  split
  · split
    · exact nofun
    · exact h
  · split
    · exact nofun
    · dsimp only
      generalize (if p.state = .idle then
        ({ state := .inFrame, buf := [], frameStartMs := nowMs } : RxParser) else p) = q
      split
      · exact nofun
      · exact fun _ => by simp

lemma RxReach.begun {p : RxParser} (h : RxReach p) : Begun p := by
  induction h with
  | init => exact nofun
  | @drain p data nowMs _ ih =>
    have hexpired : Begun (expire nowMs p).2 := by
      unfold expire
      split
      · exact nofun
      · exact ih
    by_cases hne : data = []
    · subst hne
      exact ih
    · rw [drain_eq hne]
      exact scan_keeps (begun_byte nowMs) data hexpired

/-! ## Frames behind leftover bytes -/

/-- A receiver that discards drops a frame with its delimiter. -/
lemma scan_discard (nowMs : UInt32) {run : List UInt8} (hrun : 0 ∉ run) (buf : List UInt8)
    (start : UInt32) :
    scan (byte nowMs) (run ++ [0]) { state := .discard, buf := buf, frameStartMs := start } =
      ([], RxParser.init nowMs) := by
  induction run with
  | nil => rfl
  | cons b run ih =>
    rw [List.mem_cons, not_or] at hrun
    have hb : (b == 0) = false := by simpa using Ne.symm hrun.1
    have hbyte : byte nowMs b { state := .discard, buf := buf, frameStartMs := start } =
        (none, { state := .discard, buf := buf, frameStartMs := start }) := by
      simp [byte, hb]
    rw [List.cons_append, scan_cons, hbyte]
    exact ih hrun.2

/-- A receiver with a frame in progress takes what follows as its continuation. -/
lemma scan_inFrame (nowMs : UInt32) {run : List UInt8} (hrun : 0 ∉ run) {buf : List UInt8}
    (hbuf : buf ≠ []) (start : UInt32) :
    (scan (byte nowMs) (run ++ [0]) { state := .inFrame, buf := buf, frameStartMs := start }).1 =
      [.overflow] ∨
    (scan (byte nowMs) (run ++ [0]) { state := .inFrame, buf := buf, frameStartMs := start }).1 =
      [decodeRun (buf ++ run)] := by
  induction run generalizing buf with
  | nil =>
    right
    rw [List.nil_append, scan_cons, List.append_nil]
    simp [byte, hbuf]
  | cons b run ih =>
    rw [List.mem_cons, not_or] at hrun
    have hb : (b == 0) = false := by simpa using Ne.symm hrun.1
    by_cases hfull : buf.length ≥ cobsRecvMax
    · left
      have hbyte : byte nowMs b { state := .inFrame, buf := buf, frameStartMs := start } =
          (some .overflow, { state := .discard, buf := buf, frameStartMs := start }) := by
        simp [byte, hb, hfull]
      rw [List.cons_append, scan_cons, hbyte]
      dsimp only
      rw [scan_discard nowMs hrun.2]
      rfl
    · have hbyte : byte nowMs b { state := .inFrame, buf := buf, frameStartMs := start } =
          (none, { state := .inFrame, buf := buf ++ [b], frameStartMs := start }) := by
        simp [byte, hb, hfull]
      rw [List.cons_append, scan_cons, hbyte]
      have hne : buf ++ [b] ≠ [] := by simp
      have hnext := ih hrun.2 hne
      rw [List.append_assoc] at hnext
      exact hnext

/-- A short record has one code byte more than it has bytes. -/
lemma length_of_cobsDecodeLoop {fuel : Nat} {src raw : List UInt8}
    (h : cobsDecodeLoop fuel src = some raw) (hne : src ≠ []) (hshort : raw.length < 254) :
    src.length = raw.length + 1 := by
  induction fuel generalizing src raw with
  | zero =>
    cases src with
    | nil => exact absurd rfl hne
    | cons code src => cases h
  | succ fuel ih =>
    cases src with
    | nil => exact absurd rfl hne
    | cons code src =>
      rw [cobsDecodeLoop] at h
      split at h
      · cases h
      · split at h
        · cases h
        next hroom =>
          have hcode := code.toNat_lt
          obtain ⟨out, hout, rfl⟩ := Option.map_eq_some_iff.mp h
          simp only [List.length_append, List.length_take] at hshort
          by_cases hlast : src.drop (code.toNat - 1) = []
          · have hend := List.drop_eq_nil_iff.mp hlast
            rw [hlast] at hout ⊢
            obtain rfl : [] = out := by cases fuel <;> simpa [cobsDecodeLoop] using hout
            simp only [List.isEmpty_nil, Bool.not_true, Bool.and_false, Bool.false_eq_true, if_false,
              List.append_nil, List.length_take, List.length_cons]
            omega
          · have hsmall : decide (code < 0xff) = true := by
              rw [decide_eq_true_iff, UInt8.lt_iff_toNat_lt]
              show code.toNat < 255
              omega
            have hempty : (src.drop (code.toNat - 1)).isEmpty = false :=
              List.isEmpty_eq_false_iff.mpr hlast
            have hrest := ih hout hlast (by omega)
            rw [List.length_drop] at hrest
            simp only [hsmall, hempty, Bool.not_false, Bool.and_true, if_true, List.length_append,
              List.length_take, List.length_cons, List.length_nil]
            omega

/-- A run with a short payload has one length only. -/
lemma length_of_decodeRun {run payload : List UInt8} {h : Header} {crcOk : Bool}
    (hdec : decodeRun run = .frame h payload crcOk) (hshort : payload.length + 36 < 254) :
    run.length = payload.length + 37 := by
  unfold decodeRun at hdec
  split at hdec
  · cases hdec
  next raw hraw =>
    split at hdec
    next hlen =>
      split at hdec
      · cases hdec
      · injection hdec with _ hpayload _
        have hraw36 : raw.length = payload.length + 36 := by
          rw [← hpayload, List.length_take, List.length_drop]
          simp only [headerSize] at hlen ⊢
          omega
        have hne : run ≠ [] := by
          rintro rfl
          obtain rfl : [] = raw := by simpa [cobsDecode, cobsDecodeLoop] using hraw
          simp at hraw36
        rw [length_of_cobsDecodeLoop hraw hne (by omega), hraw36]
    · cases hdec

/-! ## Who is heard -/

section Nonce

variable {nonce : List UInt8} (hn : nonce.length = 16)

include hn

lemma decodeRun_hello :
    decodeRun (cobsEncode (rawFrame (helloHeader.stamped 1 (helloPayload nonce).length)
      (helloPayload nonce))) = helloEvent nonce :=
  decodeRun_cobsEncode helloHeader 1 (by rw [length_helloPayload hn]; decide)

/-- Behind other bytes a `HELLO` is not the frame it is. -/
lemma decodeRun_behind {buf : List UInt8} (hbuf : buf ≠ []) :
    decodeRun (buf ++ cobsEncode (rawFrame (helloHeader.stamped 1 (helloPayload nonce).length)
      (helloPayload nonce))) ≠ helloEvent nonce := by
  intro hdec
  have hshort : (helloPayload nonce).length + 36 < 254 := by
    rw [length_helloPayload hn]
    decide
  have hboth := length_of_decodeRun hdec hshort
  have halone := length_of_decodeRun (decodeRun_hello hn) hshort
  rw [List.length_append, halone] at hboth
  exact hbuf (List.eq_nil_of_length_eq_zero (by omega))

/-- An idle receiver hears a `HELLO`. -/
lemma idle_hears {p : RxParser} (hp : p.state = .idle) (nowMs : UInt32) :
    helloEvent nonce ∈ (p.drain (helloFrame nonce) nowMs).1 := by
  have hlen : (helloPayload nonce).length ≤ maxPayload := by
    rw [length_helloPayload hn]
    decide
  have hyoung : Young nowMs p := fun hin => absurd (hp.symm.trans hin) nofun
  have hframe : helloFrame nonce ≠ [] := by simp [helloFrame, wireFrame]
  -- an idle receiver forgets what it has
  have hfresh : ∀ b, byte nowMs b p = byte nowMs b (RxParser.init nowMs) := by
    intro b
    simp [byte, hp, RxParser.init]
  have hscan : scan (byte nowMs) (helloFrame nonce) p =
      scan (byte nowMs) (helloFrame nonce) (RxParser.init nowMs) := by
    generalize helloFrame nonce = bytes at hframe
    cases bytes with
    | nil => exact absurd rfl hframe
    | cons b bytes => rw [scan_cons, scan_cons, hfresh]
  have hevents := scan_wireFrame nowMs helloHeader 1 hlen
  rw [drain_eq hframe, expire_young hyoung, hscan]
  dsimp only
  rw [helloFrame, hevents, List.nil_append]
  exact List.mem_singleton_self _

/-- Any other receiver does not. -/
lemma busy_deaf {p : RxParser} (hp : p.state ≠ .idle) (hbegun : Begun p) (nowMs : UInt32) :
    helloEvent nonce ∉ (p.drain (helloFrame nonce) nowMs).1 := by
  have hframe : helloFrame nonce ≠ [] := by simp [helloFrame, wireFrame]
  have hzero := zero_not_mem_cobsEncode (rawFrame (helloHeader.stamped 1 (helloPayload nonce).length)
    (helloPayload nonce))
  have hdropped : ∀ buf start, (scan (byte nowMs) (helloFrame nonce)
      { state := .discard, buf := buf, frameStartMs := start }).1 = [] := fun buf start =>
    congrArg Prod.fst (scan_discard nowMs hzero buf start)
  rw [drain_eq hframe]
  obtain ⟨state, buf, start⟩ := p
  cases state with
  | idle => exact absurd rfl hp
  | discard =>
    have hexpire : expire nowMs ⟨.discard, buf, start⟩ = ([], ⟨.discard, buf, start⟩) := rfl
    rw [hexpire, hdropped]
    exact List.not_mem_nil
  | inFrame =>
    by_cases hold : nowMs - start ≥ 1000
    · have hexpire : expire nowMs ⟨.inFrame, buf, start⟩ = ([.timeout], ⟨.discard, [], start⟩) :=
        if_pos ⟨rfl, hold⟩
      rw [hexpire, hdropped]
      simp [helloEvent]
    · have hexpire : expire nowMs ⟨.inFrame, buf, start⟩ = ([], ⟨.inFrame, buf, start⟩) :=
        if_neg fun h => hold h.2
      have hbuf : buf ≠ [] := hbegun rfl
      rw [hexpire, List.nil_append]
      rcases scan_inFrame nowMs hzero hbuf start with hevents | hevents
      · rw [helloFrame, wireFrame, hevents]
        simp [helloEvent]
      · rw [helloFrame, wireFrame, hevents, List.mem_singleton]
        exact (decodeRun_behind hn hbuf).symm

/-- A receiver in any state hears a `HELLO` behind a delimiter. -/
lemma delimited_heard (p : RxParser) (nowMs : UInt32) :
    helloEvent nonce ∈ (p.drain (0 :: helloFrame nonce) nowMs).1 := by
  have hlen : (helloPayload nonce).length ≤ maxPayload := by
    rw [length_helloPayload hn]
    decide
  rw [drain_eq (List.cons_ne_nil _ _), scan_cons, byte_zero]
  dsimp only
  rw [helloFrame, scan_wireFrame nowMs helloHeader 1 hlen]
  simp [helloEvent]

end Nonce

/-- The event is handed to `handle_hello`. -/
lemma serverRxEvent_hello {E : Type} (b : Build) (P : Platform E) {nonce : List UInt8}
    (hn : nonce.length = 16) (w : World E) :
    serverRxEvent b P (helloEvent nonce) w =
      handleHello b P (helloHeader.stamped 1 (helloPayload nonce).length) (helloPayload nonce) w := by
  have hsize : ((helloHeader.stamped 1 (helloPayload nonce).length).payloadSize.toNat !=
      (helloPayload nonce).length) = false := by
    rw [length_helloPayload hn]
    decide
  have hplain : (helloHeader.stamped 1 (helloPayload nonce).length).flags = 0 ∧
      (helloHeader.stamped 1 (helloPayload nonce).length).reserved = 0 ∧
      (helloHeader.stamped 1 (helloPayload nonce).length).status = 0 ∧
      (helloHeader.stamped 1 (helloPayload nonce).length).kind = kindRequest ∧
      (helloHeader.stamped 1 (helloPayload nonce).length).opcode = RequestOp.hello.code :=
    ⟨rfl, rfl, rfl, rfl, rfl⟩
  simp [helloEvent, serverRxEvent, processFrame, hsize, hplain]

/-- The bytes of the Python client are heard in every state, in whatever chunks they arrive; those of the
.NET client exactly by an idle receiver.  What is heard is handed to `handle_hello`. -/
theorem openings_heard {E : Type} (b : Build) (P : Platform E) (p : RxParser) (hp : RxReach p)
    (nowMs : UInt32) (nonce : List UInt8) (hn : nonce.length = 16) :
    (∀ w : World E, serverRxEvent b P (helloEvent nonce) w =
      handleHello b P (helloHeader.stamped 1 (helloPayload nonce).length) (helloPayload nonce) w) ∧
    (∃ bytes, Python.hello nonce = some bytes ∧ ∀ chunks : List (List UInt8),
      (∀ c ∈ chunks, c ≠ []) → chunks.flatten = bytes →
        helloEvent nonce ∈ (p.drainAll nowMs chunks).1) ∧
    ∃ bytes, Dotnet.openAsync nonce = some bytes ∧
      ((∀ chunks : List (List UInt8), (∀ c ∈ chunks, c ≠ []) → chunks.flatten = bytes →
        helloEvent nonce ∈ (p.drainAll nowMs chunks).1) ↔ p.state = .idle) := by
  refine ⟨serverRxEvent_hello b P hn, ⟨_, python_hello hn, ?_⟩, _, dotnet_openAsync hn, ?_, ?_⟩
  · intro chunks hne hflat
    rw [drainAll_chunks nowMs p hne, hflat]
    exact delimited_heard hn p nowMs
  · intro hheard
    by_contra hbusy
    have hframe : helloFrame nonce ≠ [] := by simp [helloFrame, wireFrame]
    have hone := hheard [helloFrame nonce] (by simpa using hframe) (by simp)
    rw [drainAll_chunks nowMs p (by simpa using hframe)] at hone
    exact busy_deaf hn hbusy hp.begun nowMs (by simpa using hone)
  · intro hidle chunks hne hflat
    rw [drainAll_chunks nowMs p hne, hflat]
    exact idle_hears hn hidle nowMs

/-- A receiver after its start. -/
theorem openings_heard_fresh :
    ∃ bytes, Dotnet.openAsync (List.replicate 16 7) = some bytes ∧
      ((∀ chunks : List (List UInt8), (∀ c ∈ chunks, c ≠ []) → chunks.flatten = bytes →
        helloEvent (List.replicate 16 7) ∈ ((RxParser.init 0).drainAll 5 chunks).1) ↔
          (RxParser.init 0).state = .idle) :=
  (openings_heard Build.default silentPlatform (RxParser.init 0) (.init 0) 5 (List.replicate 16 7)
    (by simp)).2.2

/-- A host that died behind its first byte keeps the next one from being heard. -/
theorem dotnet_opening_lost :
    ¬ ∀ (p : RxParser) (nowMs : UInt32) (nonce bytes : List UInt8), RxReach p → nonce.length = 16 →
      Dotnet.openAsync nonce = some bytes → helloEvent nonce ∈ (p.drain bytes nowMs).1 := by
  intro hall
  have hreach : RxReach ((RxParser.init 0).drain [5] 0).2 := .drain [5] 0 (.init 0)
  have hn : (List.replicate 16 (7 : UInt8)).length = 16 := by simp
  have hheard := hall _ 3 _ _ hreach hn (dotnet_openAsync hn)
  exact busy_deaf hn (by decide) hreach.begun 3 hheard

end RemoteBridge
