import RemoteBridge.Framework.Scanner
import RemoteBridge.Protocol.Frame

/-!
# The receiver byte by byte

`rbp_rxparser_feed` stops at every event and is called again on the bytes behind it, and each call first
looks at the age of the frame in progress.  Seen from outside this is one scanner: a frame that is too old
when bytes arrive is dropped (`RxParser.expire`), and then every byte is one step (`RxParser.byte`).

The second time-out check of the source, behind the byte loop, never fires: a frame that is still in
progress there is either younger than a second or was begun at the same moment.
-/

namespace RemoteBridge.RxParser

/-! ## One byte -/

/-- One turn of the byte loop. -/
def byte (nowMs : UInt32) (b : UInt8) (p : RxParser) : Option RxEvent × RxParser :=
  if p.state = .discard then (none, if b == 0 then init nowMs else p)
  else if b == 0 then
    (if p.state = .inFrame ∧ p.buf ≠ [] then some (decodeRun p.buf) else none, init nowMs)
  else
    let p := if p.state = .idle then { state := .inFrame, buf := [], frameStartMs := nowMs } else p
    if p.buf.length ≥ cobsRecvMax then (some .overflow, { p with state := .discard })
    else (none, { p with buf := p.buf ++ [b] })

lemma feedBytes_eq_scanOne (nowMs : UInt32) (data : List UInt8) (p : RxParser) :
    feedBytes nowMs data p = scanOne (byte nowMs) data p := by
  induction data generalizing p with
  | nil => rfl
  | cons b data ih =>
    rw [feedBytes, scanOne, byte]
    split
    · exact ih _
    · split
      · split
        · rfl
        · exact ih _
      · dsimp only
        generalize (if p.state = .idle then
          ({ state := .inFrame, buf := [], frameStartMs := nowMs } : RxParser) else p) = q
        by_cases hfull : q.buf.length ≥ cobsRecvMax
        · rw [if_pos hfull, if_pos hfull]
        · rw [if_neg hfull, if_neg hfull]
          exact ih _

/-! ## Age -/

/-- The frame in progress is younger than a second. -/
def Young (nowMs : UInt32) (p : RxParser) : Prop := p.state = .inFrame → nowMs - p.frameStartMs < 1000

instance (nowMs : UInt32) (p : RxParser) : Decidable (Young nowMs p) :=
  inferInstanceAs (Decidable (_ → _))

/-- A frame that is too old is dropped up to its delimiter. -/
def expire (nowMs : UInt32) (p : RxParser) : List RxEvent × RxParser :=
  if p.state = .inFrame ∧ nowMs - p.frameStartMs ≥ 1000 then
    ([.timeout], { p with state := .discard, buf := [] })
  else ([], p)

lemma young_init (nowMs start : UInt32) : Young nowMs (init start) := nofun

lemma young_now {nowMs : UInt32} {p : RxParser} (h : p.frameStartMs = nowMs) : Young nowMs p := by
  intro _
  rw [h, UInt32.sub_self]
  decide

lemma expire_young {nowMs : UInt32} {p : RxParser} (h : Young nowMs p) : expire nowMs p = ([], p) := by
  refine if_neg fun hold => ?_
  exact absurd (h hold.1) (UInt32.not_lt.mpr hold.2)

lemma young_expire (nowMs : UInt32) (p : RxParser) : Young nowMs (expire nowMs p).2 := by
  unfold expire
  split
  · exact nofun
  · next hyoung => exact fun hin => UInt32.not_le.mp fun hold => hyoung ⟨hin, hold⟩

/-- Bytes do not age a frame. -/
lemma young_byte (nowMs : UInt32) (b : UInt8) (p : RxParser) (h : Young nowMs p) :
    Young nowMs (byte nowMs b p).2 := by
  unfold byte
  split
  · split
    · exact young_init _ _
    · exact h
  · split
    · exact young_init _ _
    · dsimp only
      have hstart : Young nowMs (if p.state = .idle then
          { state := .inFrame, buf := [], frameStartMs := nowMs } else p) := by
        split
        · exact young_now rfl
        · exact h
      generalize (if p.state = .idle then
        ({ state := .inFrame, buf := [], frameStartMs := nowMs } : RxParser) else p) = q at hstart
      split
      · exact nofun
      · exact hstart

lemma young_scan {nowMs : UInt32} {p : RxParser} (data : List UInt8) (h : Young nowMs p) :
    Young nowMs (scan (byte nowMs) data p).2 :=
  scan_keeps (young_byte nowMs) data h

/-! ## Calls -/

/-- A call on a young frame is the byte loop. -/
lemma feed_young {nowMs : UInt32} {p : RxParser} (h : Young nowMs p) (data : List UInt8) :
    feed p data nowMs = scanOne (byte nowMs) data p := by
  have hnot : ¬ (p.state = .inFrame ∧ nowMs - p.frameStartMs ≥ 1000) := fun hold =>
    absurd (h hold.1) (UInt32.not_lt.mpr hold.2)
  have hend : Young nowMs (scanOne (byte nowMs) data p).2.2 := scanOne_keeps (young_byte nowMs) data h
  rw [feed, if_neg hnot, feedBytes_eq_scanOne]
  refine if_neg fun hlate => ?_
  exact absurd (UInt32.lt_trans hlate.2.2 (hend hlate.2.1)) (UInt32.lt_irrefl _)

/-- A call on an old frame reports the time-out and leaves all bytes. -/
lemma feed_old {nowMs : UInt32} {p : RxParser} (h : ¬ Young nowMs p) (data : List UInt8) :
    feed p data nowMs = (some .timeout, data, (expire nowMs p).2) ∧
      (expire nowMs p).1 = [.timeout] := by
  have hold : p.state = .inFrame ∧ nowMs - p.frameStartMs ≥ 1000 := by
    unfold Young at h
    rw [Classical.not_imp, UInt32.not_lt] at h
    exact h
  rw [feed, expire, if_pos hold, if_pos hold]
  exact ⟨rfl, rfl⟩

/-- The loop of `rbp_rx_drain` on a young frame. -/
lemma drainLoop_young {nowMs : UInt32} {fuel : Nat} {p : RxParser} {data : List UInt8}
    (h : Young nowMs p) (hfuel : data.length ≤ fuel) :
    drainLoop nowMs fuel p data = scan (byte nowMs) data p := by
  induction fuel generalizing p data with
  | zero =>
    obtain rfl := List.eq_nil_of_length_eq_zero (Nat.le_zero.mp hfuel)
    rfl
  | succ fuel ih =>
    rw [drainLoop]
    split
    · next hnil =>
      rw [hnil]
      rfl
    · rw [feed_young h]
      split
      · next rest p' hone => rw [(scan_of_scanOne_none hone).1]
      · next e rest p' hone =>
        obtain ⟨hscan, hlen⟩ := scan_of_scanOne_some hone
        have hyoung : Young nowMs p' := by
          have hkept := scanOne_keeps (young_byte nowMs) data h
          rw [hone] at hkept
          exact hkept
        rw [hscan, ih hyoung (by omega)]

/-- `rbp_rx_drain` as a scanner. -/
lemma drain_eq {data : List UInt8} (hne : data ≠ []) (p : RxParser) (nowMs : UInt32) :
    drain p data nowMs = ((expire nowMs p).1 ++ (scan (byte nowMs) data (expire nowMs p).2).1,
      (scan (byte nowMs) data (expire nowMs p).2).2) := by
  unfold drain
  by_cases h : Young nowMs p
  · rw [drainLoop_young h (Nat.le_succ _), expire_young h, List.nil_append]
  · obtain ⟨hfeed, hevents⟩ := feed_old h data
    rw [drainLoop, if_neg hne, hfeed, hevents]
    dsimp only
    rw [drainLoop_young (young_expire nowMs p) (Nat.le_refl _)]
    rfl

end RemoteBridge.RxParser
