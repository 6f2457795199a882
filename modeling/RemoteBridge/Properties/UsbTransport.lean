import RemoteBridge.Usb.Cdc

/-!
# The serial link loses nothing between two losses

The interrupt handler and the task meet in two rings.  `Carries` says what holds of the rings, the flags
and the log after every step: what came in at one end of a ring since the last loss is what went out at
the other end, followed by what the ring still holds.  The two flags that delivery depends on are `txZlp`,
which is set exactly while a full packet is under way, so that a packet of 64 bytes never stays the last
one, and `lost`, which keeps both rings shut until the task has taken notice.

A loss is where the argument is short: everything before it falls out of the epoch, and both rings are
empty.
-/

namespace RemoteBridge

namespace Usb

/-- The event ends an epoch. -/
def UsbEv.isLost : UsbEv → Bool
  | .lost => true
  | _ => false

/-- The events since the last loss, newest first. -/
def epoch : List UsbEv → List UsbEv
  | [] => []
  | e :: log => if e.isLost then [] else e :: epoch log

/-- What a part of the log says, oldest first. -/
def gather {α : Type} (f : UsbEv → List α) : List UsbEv → List α
  | [] => []
  | e :: log => gather f log ++ f e

/-- The bytes that a received packet brings. -/
def UsbEv.bytesIn : UsbEv → List UInt8
  | .received data => data
  | _ => []

/-- The bytes that a read returns. -/
def UsbEv.bytesRead : UsbEv → List UInt8
  | .returned data => data
  | _ => []

/-- The bytes that a write hands over. -/
def UsbEv.bytesWritten : UsbEv → List UInt8
  | .accepted data => data
  | _ => []

/-- The packet that is loaded. -/
def UsbEv.packetLoaded : UsbEv → List (List UInt8)
  | .loaded packet => [packet]
  | _ => []

/-- The packet that the host takes. -/
def UsbEv.packetSent : UsbEv → List (List UInt8)
  | .sent packet => [packet]
  | _ => []

/-- A byte enters the link, from either side. -/
def UsbEv.enters : UsbEv → Bool
  | .received _ => true
  | .accepted _ => true
  | _ => false

/-- After a loss nothing enters before the task has been told. -/
def Fenced (log : List UsbEv) : Prop :=
  ∀ newer e older, log = newer ++ e :: older → e.enters = true → .lost ∈ older → .taken true ∈ epoch older

/-- The packet that is on its way to the host. -/
def Bulk.underway (b : Bulk) : List (List UInt8) := if b.txInflight then [b.packet] else []

/-- What entered each ring since the last loss is what left it and what it still holds, and what was loaded
is what the host took and the packet under way. -/
structure Flows (log : List UsbEv) (rx tx : List UInt8) (underway : List (List UInt8)) : Prop where
  out : gather UsbEv.bytesIn (epoch log) = gather UsbEv.bytesRead (epoch log) ++ rx
  input : gather UsbEv.bytesWritten (epoch log) = (gather UsbEv.packetLoaded (epoch log)).flatten ++ tx
  sent : gather UsbEv.packetLoaded (epoch log) = gather UsbEv.packetSent (epoch log) ++ underway

/-- The rings, the flags and the log agree; `loading` allows a full packet whose successor is about to be
loaded. -/
structure Carries (loading : Bool) (b : Bulk) (log : List UsbEv) : Prop where
  rx_ok : b.rx.Ok rxRing
  tx_ok : b.tx.Ok txRing
  flows : Flows log (b.rx.contents rxRing) (b.tx.contents txRing) b.underway
  full : ∀ q, (gather UsbEv.packetLoaded (epoch log)).getLast? = some q → q.length = 64 → b.txZlp = true
  zlp : b.txZlp = true → b.txInflight = true ∨ (loading = true ∧ b.sends = true)
  inflight : b.txInflight = true ↔ b.ctrl.tRes = .ack
  sends : b.txInflight = true → b.sends = true
  armed : b.ctrl.rRes = .ack → b.rx.len = 0 ∧ b.lost = false
  fence : Fenced log
  opened : b.lost = false → .lost ∈ log → .taken true ∈ epoch log

variable {b b' : Bulk} {log : List UsbEv} {p : Port} {loading : Bool}

/-! ## Logs -/

lemma Fenced.cons {e : UsbEv} (h : Fenced log)
    (he : e.enters = true → .lost ∈ log → .taken true ∈ epoch log) : Fenced (e :: log) := by
  intro newer e' older hlog hin
  cases newer with
  | nil =>
    obtain ⟨rfl, rfl⟩ := List.cons.inj hlog
    exact he hin
  | cons e'' newer => exact h newer e' older (List.cons.inj hlog).2 hin

/-- An event that brings nothing in. -/
lemma Fenced.quiet {e : UsbEv} (h : Fenced log) (he : e.enters = false) : Fenced (e :: log) :=
  h.cons fun hin => absurd (he.symm.trans hin) Bool.false_ne_true

lemma epoch_cons {e : UsbEv} (he : e.isLost = false) : epoch (e :: log) = e :: epoch log := by
  show (if e.isLost then [] else e :: epoch log) = _
  rw [he]
  rfl

/-- Between two losses the notice of the first one stands. -/
lemma opened_cons {e : UsbEv} (he : e.isLost = false) (h : .lost ∈ log → .taken true ∈ epoch log) :
    .lost ∈ e :: log → .taken true ∈ epoch (e :: log) := by
  intro hin
  rw [epoch_cons he]
  rcases List.mem_cons.mp hin with heq | hin
  · rw [← heq] at he
    exact absurd he.symm Bool.false_ne_true
  · exact List.mem_cons_of_mem _ (h hin)

namespace Flows

variable {rx tx data q : List UInt8} {underway : List (List UInt8)}

lemma lost (log : List UsbEv) : Flows (.lost :: log) [] [] [] := ⟨rfl, rfl, rfl⟩

lemma received (h : Flows log rx tx underway) (data : List UInt8) :
    Flows (.received data :: log) (rx ++ data) tx underway := by
  refine ⟨?_, ?_, ?_⟩ <;> rw [epoch_cons rfl]
  · show gather UsbEv.bytesIn (epoch log) ++ data = (gather UsbEv.bytesRead (epoch log) ++ []) ++ _
    rw [h.out, List.append_nil, List.append_assoc]
  · simpa [gather, UsbEv.bytesWritten, UsbEv.packetLoaded] using h.input
  · simpa [gather, UsbEv.packetSent, UsbEv.packetLoaded] using h.sent

lemma returned (h : Flows log (data ++ rx) tx underway) : Flows (.returned data :: log) rx tx underway := by
  refine ⟨?_, ?_, ?_⟩ <;> rw [epoch_cons rfl]
  · show gather UsbEv.bytesIn (epoch log) ++ [] = (gather UsbEv.bytesRead (epoch log) ++ data) ++ _
    rw [h.out, List.append_nil, List.append_assoc]
  · simpa [gather, UsbEv.bytesWritten, UsbEv.packetLoaded] using h.input
  · simpa [gather, UsbEv.packetSent, UsbEv.packetLoaded] using h.sent

lemma accepted (h : Flows log rx tx underway) (data : List UInt8) :
    Flows (.accepted data :: log) rx (tx ++ data) underway := by
  refine ⟨?_, ?_, ?_⟩ <;> rw [epoch_cons rfl]
  · simpa [gather, UsbEv.bytesIn, UsbEv.bytesRead] using h.out
  · show gather UsbEv.bytesWritten (epoch log) ++ data =
      (gather UsbEv.packetLoaded (epoch log) ++ []).flatten ++ _
    rw [h.input, List.append_nil, List.append_assoc]
  · simpa [gather, UsbEv.packetSent, UsbEv.packetLoaded] using h.sent

lemma loaded (h : Flows log rx (q ++ tx) []) : Flows (.loaded q :: log) rx tx [q] := by
  refine ⟨?_, ?_, ?_⟩ <;> rw [epoch_cons rfl]
  · simpa [gather, UsbEv.bytesIn, UsbEv.bytesRead] using h.out
  · show gather UsbEv.bytesWritten (epoch log) ++ [] =
      (gather UsbEv.packetLoaded (epoch log) ++ [q]).flatten ++ tx
    rw [h.input, List.append_nil, List.flatten_append, List.append_assoc, List.flatten_singleton]
  · show gather UsbEv.packetLoaded (epoch log) ++ [q] = (gather UsbEv.packetSent (epoch log) ++ []) ++ [q]
    rw [h.sent]

lemma sent_cons (h : Flows log rx tx [q]) : Flows (.sent q :: log) rx tx [] := by
  refine ⟨?_, ?_, ?_⟩ <;> rw [epoch_cons rfl]
  · simpa [gather, UsbEv.bytesIn, UsbEv.bytesRead] using h.out
  · simpa [gather, UsbEv.bytesWritten, UsbEv.packetLoaded] using h.input
  · show gather UsbEv.packetLoaded (epoch log) ++ [] = (gather UsbEv.packetSent (epoch log) ++ [q]) ++ []
    rw [h.sent, List.append_nil]

lemma taken (h : Flows log rx tx underway) (lost : Bool) : Flows (.taken lost :: log) rx tx underway := by
  refine ⟨?_, ?_, ?_⟩ <;> rw [epoch_cons rfl]
  · simpa [gather, UsbEv.bytesIn, UsbEv.bytesRead] using h.out
  · simpa [gather, UsbEv.bytesWritten, UsbEv.packetLoaded] using h.input
  · simpa [gather, UsbEv.packetSent, UsbEv.packetLoaded] using h.sent

end Flows

/-- The last packet is the same after an event that loads none. -/
lemma full_cons {e : UsbEv} (he : e.isLost = false) (hl : e.packetLoaded = []) {zlp : Bool}
    (h : ∀ q, (gather UsbEv.packetLoaded (epoch log)).getLast? = some q → q.length = 64 → zlp = true) :
    ∀ q, (gather UsbEv.packetLoaded (epoch (e :: log))).getLast? = some q → q.length = 64 → zlp = true := by
  have hsame : gather UsbEv.packetLoaded (epoch (e :: log)) = gather UsbEv.packetLoaded (epoch log) := by
    rw [epoch_cons he, gather, hl, List.append_nil]
  rw [hsame]
  exact h

lemma nak_ne_ack : Response.nak ≠ .ack := by decide

lemma sends_iff : b.sends = true ↔
    b.haltIn = false ∧ b.configured = true ∧ b.suspended = false ∧ b.lost = false := by
  simp only [Bulk.sends, Bool.and_eq_true, Bool.not_eq_true', and_assoc]

namespace Carries

/-! ## Losses -/

/-- Whatever a loss leaves behind carries on, with both rings empty and both directions shut. -/
lemma lose (h : Fenced log) (hrx : b.rx.clear = b.rx) (htx : b.tx.clear = b.tx)
    (hflight : b.txInflight = false) (hzlp : b.txZlp = false) (hr : b.ctrl.rRes ≠ .ack)
    (ht : b.ctrl.tRes ≠ .ack) (hlost : b.lost = true) : Carries false b (.lost :: log) where
  rx_ok := hrx ▸ IndexRing.ok_clear (by decide)
  tx_ok := htx ▸ IndexRing.ok_clear (by decide)
  flows := by
    rw [← hrx, ← htx, IndexRing.contents_clear, IndexRing.contents_clear, Bulk.underway, hflight]
    exact .lost log
  full := fun q hq => absurd hq.symm (Option.some_ne_none q)
  zlp := fun h => absurd (hzlp.symm.trans h) Bool.false_ne_true
  inflight := by
    rw [hflight]
    exact ⟨fun h => absurd h Bool.false_ne_true, fun h => absurd h ht⟩
  sends := fun h => absurd (hflight.symm.trans h) Bool.false_ne_true
  armed := fun h => absurd h hr
  fence := h.quiet rfl
  opened := fun h => absurd (hlost.symm.trans h) (by decide)

lemma loseTransport (h : Fenced p.log) :
    Carries false p.loseTransport.bulk p.loseTransport.log := by
  refine lose h rfl rfl rfl rfl ?_ ?_ rfl
  · show (if p.bulk.haltOut then Response.stall else .nak) ≠ .ack
    split <;> decide
  · show (if p.bulk.haltIn then Response.stall else .nak) ≠ .ack
    split <;> decide

/-! ## Loading and sending -/

/-- `tx_kick` loads what is due. -/
lemma txKick (h : Carries loading p.bulk p.log) : Carries false p.txKick.bulk p.txKick.log := by
  have hkeep : (p.bulk.txZlp = true → p.bulk.txInflight = true) → Carries false p.bulk p.log := fun hz =>
    { h with zlp := fun hzlp => .inl (hz hzlp) }
  unfold Port.txKick
  by_cases hstop : (p.bulk.txInflight || !p.bulk.sends) = true
  · rw [if_pos hstop]
    refine hkeep fun hzlp => ?_
    rcases h.zlp hzlp with hflight | ⟨-, hsends⟩
    · exact hflight
    · rw [hsends, Bool.not_true, Bool.or_false] at hstop
      exact hstop
  · rw [if_neg hstop]
    rw [Bool.not_eq_true, Bool.or_eq_false_iff, Bool.not_eq_false'] at hstop
    obtain ⟨hflight, hsends⟩ := hstop
    by_cases hidle : (p.bulk.tx.len == 0 && !p.bulk.txZlp) = true
    · rw [if_pos hidle]
      rw [Bool.and_eq_true, Bool.not_eq_true'] at hidle
      exact hkeep fun hzlp => absurd (hidle.2.symm.trans hzlp) Bool.false_ne_true
    · rw [if_neg hidle]
      obtain ⟨hok, hcontents, -⟩ := IndexRing.drain_spec 64 h.tx_ok
      have hflows := h.flows
      rw [Bulk.underway, hflight, hcontents] at hflows
      refine ⟨h.rx_ok, hok, hflows.loaded, fun q hq hlen => ?_, fun _ => .inl rfl,
        ⟨fun _ => rfl, fun _ => rfl⟩, fun _ => hsends, h.armed, h.fence.quiet rfl,
        fun hlost => opened_cons rfl (h.opened hlost)⟩
      have hlast : q = p.bulk.nextPacket := by
        have hq' : (gather UsbEv.packetLoaded (epoch p.log) ++ [p.bulk.nextPacket]).getLast? = some q := hq
        rw [List.getLast?_concat] at hq'
        exact (Option.some.inj hq').symm
      show (p.bulk.nextPacket.length == 64) = true
      rw [← hlast, hlen]
      rfl

/-- The host takes the packet; the successor of a full one is loaded at once. -/
lemma inDone (h : Carries false p.bulk p.log) : Carries false p.inDone.bulk p.inDone.log := by
  unfold Port.inDone
  have hidle : false = true ↔ Response.nak = .ack :=
    ⟨fun h => absurd h Bool.false_ne_true, fun h => absurd h nak_ne_ack⟩
  apply @txKick _ true
  by_cases hack : p.bulk.ctrl.tRes = .ack
  · have hflight := h.inflight.mpr hack
    have hflows := h.flows
    rw [Bulk.underway, hflight] at hflows
    rw [hack, beq_self_eq_true, if_pos rfl]
    exact ⟨h.rx_ok, h.tx_ok, hflows.sent_cons, full_cons rfl rfl h.full,
      fun _ => .inr ⟨rfl, h.sends hflight⟩, hidle, fun h => absurd h Bool.false_ne_true, h.armed,
      h.fence.quiet rfl, fun hlost => opened_cons rfl (h.opened hlost)⟩
  · -- an interrupt without a packet under way
    have hflight : p.bulk.txInflight = false := Bool.eq_false_iff.mpr fun h' => hack (h.inflight.mp h')
    have hflows := h.flows
    rw [Bulk.underway, hflight] at hflows
    rw [beq_eq_false_iff_ne.mpr hack, if_neg Bool.false_ne_true]
    refine ⟨h.rx_ok, h.tx_ok, hflows, h.full, fun hzlp => ?_, hidle,
      fun h => absurd h Bool.false_ne_true, h.armed, h.fence, h.opened⟩
    rcases h.zlp hzlp with hin | ⟨hfalse, -⟩
    · exact absurd (hflight.symm.trans hin) Bool.false_ne_true
    · exact absurd hfalse Bool.false_ne_true

/-! ## The OUT side -/

/-- `rx_arm` may open the endpoint only on an empty ring. -/
lemma rxArm (h : Carries loading { b with ctrl := { b.ctrl with rRes := .nak } } log) :
    Carries loading b.rxArm log := by
  refine ⟨h.rx_ok, h.tx_ok, h.flows, h.full, h.zlp, h.inflight, h.sends, fun hack => ?_, h.fence, h.opened⟩
  have hres : (if b.haltOut then Response.stall
      else if b.configured && !b.suspended && !b.lost && 64 ≤ rxRing - b.rx.len then .ack else .nak) =
        .ack := hack
  split at hres
  · exact absurd hres (by decide)
  · split at hres
    · next hopen =>
      simp only [Bool.and_eq_true, Bool.not_eq_true', decide_eq_true_eq] at hopen
      obtain ⟨⟨-, hlost⟩, hroom⟩ := hopen
      have hlen : b.rx.len ≤ 64 := h.rx_ok.len_le
      have hempty : b.rx.len = 0 := by
        unfold rxRing at hroom
        omega
      exact ⟨hempty, hlost⟩
    · exact absurd hres (by decide)

/-- An endpoint that is not armed needs nothing. -/
lemma shut (h : Carries loading b log) :
    Carries loading { b with ctrl := { b.ctrl with rRes := .nak } } log :=
  ⟨h.rx_ok, h.tx_ok, h.flows, h.full, h.zlp, h.inflight, h.sends, fun hack => absurd hack nak_ne_ack,
    h.fence, h.opened⟩

/-- An OUT packet that arrives while the endpoint is armed. -/
lemma outPacket (h : Carries false p.bulk p.log) (ha : p.bulk.ctrl.rRes = .ack) (data : List UInt8) :
    Carries false (p.outPacket data).bulk (p.outPacket data).log := by
  obtain ⟨hempty, hlost⟩ := h.armed ha
  unfold Port.outPacket
  dsimp only
  apply rxArm
  split
  · exact (loseTransport (p := p.act _) h.fence).shut
  · next hroom =>
    simp only [Bool.or_eq_true, decide_eq_true_eq, not_or, not_lt] at hroom
    obtain ⟨hok, hcontents, hcount⟩ := IndexRing.fill_spec data h.rx_ok
    have hall : (IndexRing.fill rxRing data p.bulk.rx).1 = data.length := by
      rw [hcount]
      exact Nat.min_eq_left hroom.2
    rw [hall, List.take_length] at hcontents
    have hflows := h.flows.received data
    rw [← hcontents] at hflows
    exact ⟨hok, h.tx_ok, hflows, full_cons rfl rfl h.full, h.zlp, h.inflight, h.sends,
      fun hack => absurd hack nak_ne_ack, h.fence.cons fun _ => h.opened hlost,
      fun hlost => opened_cons rfl (h.opened hlost)⟩

/-! ## Task calls -/

lemma takeLost (h : Carries false p.bulk p.log) : Carries false p.takeLost.2.bulk p.takeLost.2.log := by
  apply rxArm
  refine ⟨h.rx_ok, h.tx_ok, h.flows.taken _, full_cons rfl rfl h.full, fun hzlp => ?_, h.inflight,
    fun hflight => ?_, fun hack => absurd hack nak_ne_ack, h.fence.quiet rfl, fun _ => ?_⟩
  · rcases h.zlp hzlp with hin | ⟨hfalse, -⟩
    · exact .inl hin
    · exact absurd hfalse Bool.false_ne_true
  · obtain ⟨hhalt, hconf, hsusp, -⟩ := sends_iff.mp (h.sends hflight)
    exact sends_iff.mpr ⟨hhalt, hconf, hsusp, rfl⟩
  · -- either the loss is taken now, or an earlier call has taken it
    by_cases hlost : p.bulk.lost = true
    · intro _
      show .taken true ∈ epoch (.taken p.bulk.lost :: p.log)
      rw [hlost, epoch_cons rfl]
      exact List.mem_cons_self ..
    · exact opened_cons rfl (h.opened (Bool.eq_false_iff.mpr hlost))

lemma read (h : Carries false p.bulk p.log) (cap : Nat) :
    Carries false (p.read cap).2.bulk (p.read cap).2.log := by
  obtain ⟨hok, hcontents, -⟩ := IndexRing.drain_spec cap h.rx_ok
  have hflows := h.flows
  rw [hcontents] at hflows
  apply rxArm
  exact ⟨hok, h.tx_ok, hflows.returned, full_cons rfl rfl h.full, h.zlp, h.inflight, h.sends,
    fun hack => absurd hack nak_ne_ack, h.fence.quiet rfl, fun hlost => opened_cons rfl (h.opened hlost)⟩

lemma write (h : Carries false p.bulk p.log) (data : List UInt8) :
    Carries false (p.write data).2.bulk (p.write data).2.log := by
  unfold Port.write
  split
  · next hopen =>
    simp only [Bool.and_eq_true, Bool.not_eq_true'] at hopen
    obtain ⟨hok, hcontents, -⟩ := IndexRing.fill_spec data h.tx_ok
    have hflows := h.flows.accepted (data.take (IndexRing.fill txRing data p.bulk.tx).1)
    rw [← hcontents] at hflows
    apply @txKick _ false
    exact ⟨h.rx_ok, hok, hflows, full_cons rfl rfl h.full, h.zlp, h.inflight, h.sends, h.armed,
      h.fence.cons fun _ => h.opened hopen.2, fun hlost => opened_cons rfl (h.opened hlost)⟩
  · exact h.txKick

end Carries

/-! ## The handler -/

/-- The data path of a port is in order. -/
def Port.Sound (p : Port) : Prop := Carries false p.bulk p.log

namespace Port.Sound

lemma ite {c : Prop} [Decidable c] {p q : Port} (hp : p.Sound) (hq : q.Sound) :
    (if c then p else q).Sound := by
  split
  · exact hp
  · exact hq

lemma suspend (h : p.Sound) (now : Bool) : (p.suspend now).Sound := by
  unfold Port.suspend
  cases now with
  | true => exact Carries.loseTransport (p := p.act _) h.fence
  | false =>
    refine ⟨h.rx_ok, h.tx_ok, h.flows, h.full, fun hzlp => ?_, h.inflight, fun hflight => ?_, h.armed,
      h.fence, h.opened⟩
    · rcases h.zlp hzlp with hin | ⟨hfalse, -⟩
      · exact .inl hin
      · exact absurd hfalse Bool.false_ne_true
    · obtain ⟨hhalt, hconf, -, hlost⟩ := sends_iff.mp (h.sends hflight)
      exact sends_iff.mpr ⟨hhalt, hconf, rfl, hlost⟩

lemma busReset (h : p.Sound) : p.busReset.Sound :=
  .lose h.fence rfl rfl rfl rfl nak_ne_ack nak_ne_ack rfl

lemma setupConfiguration (h : p.Sound) (r : SetupPacket) : (p.setupConfiguration r).Sound := by
  unfold Port.setupConfiguration Port.serialState
  apply ite
  · exact .lose h.fence rfl rfl rfl rfl nak_ne_ack nak_ne_ack rfl
  · exact .lose h.fence rfl rfl rfl rfl nak_ne_ack nak_ne_ack rfl

lemma setupHalt (h : p.Sound) (r : SetupPacket) : (p.setupHalt r).Sound := by
  unfold Port.setupHalt
  refine ite h (ite h ?_)
  show Carries false _ _
  apply Carries.rxArm
  cases hinput : (r.index == 0x82)
  · refine .lose h.fence rfl rfl rfl rfl nak_ne_ack ?_ rfl
    show (if p.bulk.haltIn then Response.stall else .nak) ≠ .ack
    split <;> decide
  · refine .lose h.fence rfl rfl rfl rfl nak_ne_ack ?_ rfl
    show (if r.req == 3 then Response.stall else .nak) ≠ .ack
    split <;> decide

/-- Only a configuration and a halt reach the data path. -/
lemma setup (h : p.Sound) (r : SetupPacket) : (p.setup r).Sound := by
  unfold Port.setup
  have h' : (p.tune fun c => { c with left := [], zlp := false, addressPending := false }).Sound := h
  generalize (p.tune fun c => { c with left := [], zlp := false, addressPending := false }) = p' at h'
  have hclass : Sound (if r.req == 0x20 && r.len == 7 && r.value == 0 then
        p'.tune fun c => { c with
          state := .lineOut, ep0 := { rTog := true, tTog := true, rRes := .ack, tRes := .nak } }
      else if r.req == 0x22 && r.len == 0 && r.value ≤ 3 then
        (p'.tune fun c => { c with dtrOn := r.value &&& 1 != 0 }).ctrlStatus
      else p'.ctrlStall) := ite h' (ite h' h')
  refine ite ?_ (ite h' (ite (h'.setupConfiguration r) (ite h' (ite ?_
    (ite (h'.setupHalt r) (ite h' (ite h' (ite hclass (ite h' h')))))))))
  · cases p'.descriptor r.value with
    | some data => exact h'
    | none => exact h'
  · cases p'.statusOf r with
    | some halted => exact h'
    | none => exact h'

lemma ctrlIn (h : p.Sound) (setupPending : Bool) : (p.ctrlIn setupPending).Sound := by
  unfold Port.ctrlIn
  dsimp only
  exact ite (ite h h) (ite h h)

lemma ctrlOut (h : p.Sound) (setupPending togOk : Bool) (data : List UInt8) :
    (p.ctrlOut setupPending togOk data).Sound := by
  unfold Port.ctrlOut
  exact ite h (ite h (ite h h))

lemma transfer (h : p.Sound) (i : Irq)
    (ha : i.token = .out → i.endpoint = 2 → p.bulk.ctrl.rRes = .ack) : (p.transfer i).Sound := by
  unfold Port.transfer
  dsimp only
  split
  · next htoken hendpoint =>
    have hend : i.endpoint = 2 := UInt8.toNat_inj.mp hendpoint
    have hout : (p.outPacket i.data).Sound := Carries.outPacket h (ha htoken hend) i.data
    split
    · exact hout
    · exact h
  · exact Carries.inDone h
  · exact h
  · exact h.ctrlIn _
  · exact h.ctrlOut _ _ _
  · exact h

lemma irq (h : p.Sound) (i : Irq)
    (ha : i.token = .out → i.endpoint = 2 → p.bulk.ctrl.rRes = .ack) : (p.irq i).Sound := by
  have htransfer := h.transfer i ha
  have hready : ((p.transfer i).tune fun c => { c with
      ep0 := { rTog := true, tTog := true, rRes := .ack, tRes := .nak } }).Sound := htransfer
  unfold Port.irq
  refine ite h.busReset ?_
  refine ite (.suspend ?_ _) ?_
  all_goals
    refine ite ?_ h
    cases i.setup with
    | some early => exact hready.setup early.2
    | none => exact htransfer

end Port.Sound

/-! ## Runs -/

/-- The controller delivers an OUT packet on endpoint 2 only while it is armed to acknowledge one. -/
def Port.Admits (p : Port) (i : Irq) : Prop :=
  i.token = .out → i.endpoint = 2 → p.bulk.ctrl.rRes = .ack

/-- The ports that interrupts and task calls lead to, in any order. -/
inductive Runs : Port → Prop
  | init (uid : Fin 8 → UInt8) (rx tx : Nat → UInt8) : Runs (Port.init uid rx tx)
  | irq {p : Port} (i : Irq) (hi : p.Admits i) (h : Runs p) : Runs (p.irq i)
  | takeLost {p : Port} (h : Runs p) : Runs p.takeLost.2
  | read {p : Port} (cap : Nat) (h : Runs p) : Runs (p.read cap).2
  | write {p : Port} (data : List UInt8) (h : Runs p) : Runs (p.write data).2
  | flushTx {p : Port} (h : Runs p) : Runs p.flushTx

lemma Runs.sound (h : Runs p) : p.Sound := by
  induction h with
  | init uid rx tx =>
    refine ⟨IndexRing.ok_clear (by decide), IndexRing.ok_clear (by decide), ⟨rfl, rfl, rfl⟩,
      fun q hq => absurd hq.symm (Option.some_ne_none q), fun hzlp => absurd hzlp Bool.false_ne_true,
      ⟨fun h => absurd h Bool.false_ne_true, fun h => absurd h nak_ne_ack⟩,
      fun h => absurd h Bool.false_ne_true, fun h => absurd h nak_ne_ack, ?_, fun _ h => ?_⟩
    · intro newer e older hlog
      exact absurd (congrArg List.length hlog) (by simp [Port.init])
    · exact absurd h List.not_mem_nil
  | irq i hi _ ih => exact ih.irq i hi
  | takeLost _ ih => exact ih.takeLost
  | read cap _ ih => exact ih.read cap
  | write data _ ih => exact ih.write data
  | flushTx _ ih => exact ih.txKick

/-! ## What the two ends are told -/

/-- `tx_kick` takes nothing from the task. -/
lemma bytesWritten_txKick (p : Port) :
    gather UsbEv.bytesWritten (epoch p.txKick.log) = gather UsbEv.bytesWritten (epoch p.log) := by
  unfold Port.txKick
  split
  · rfl
  · split
    · rfl
    · show gather UsbEv.bytesWritten (epoch (.loaded p.bulk.nextPacket :: p.log)) = _
      rw [epoch_cons rfl]
      exact List.append_nil _

/-- The bytes that a write hands over are the first of the bytes offered, as many as its result says. -/
lemma bytesWritten_write (p : Port) (data : List UInt8) :
    gather UsbEv.bytesWritten (epoch (p.write data).2.log) =
      gather UsbEv.bytesWritten (epoch p.log) ++ data.take (p.write data).1 := by
  unfold Port.write
  split
  · refine (bytesWritten_txKick _).trans ?_
    show gather UsbEv.bytesWritten (epoch (.accepted _ :: p.log)) = _
    rw [epoch_cons rfl]
    rfl
  · -- a closed transport takes no byte and says 0
    rw [List.take_zero, List.append_nil]
    exact bytesWritten_txKick p

/-- A write takes what fits into the ring, or nothing while the transport is shut. -/
lemma write_count (h : p.Sound) (data : List UInt8) :
    (p.write data).1 =
      if p.bulk.configured && !p.bulk.suspended && !p.bulk.lost then
        min data.length (txRing - p.bulk.tx.len) else 0 := by
  unfold Port.write
  split
  · exact (IndexRing.fill_spec data h.tx_ok).2.2
  · rfl

/-- An OUT packet on the armed endpoint is received whole; one that is too long loses the transport. -/
lemma outPacket_log (h : p.Sound) (ha : p.bulk.ctrl.rRes = .ack) (data : List UInt8) :
    (p.outPacket data).log = (if data.length ≤ 64 then .received data else .lost) :: p.log := by
  obtain ⟨hempty, -⟩ := h.armed ha
  have hroom : rxRing - p.bulk.rx.len = 64 := by rw [hempty]; rfl
  unfold Port.outPacket
  show Port.log (if (decide (data.length > 64) || decide (rxRing - p.bulk.rx.len < data.length)) = true
    then _ else _) = _
  rw [hroom]
  by_cases hlen : data.length ≤ 64
  · have hfits : ¬(decide (data.length > 64) || decide (64 < data.length)) = true := by
      simp only [Bool.or_eq_true, decide_eq_true_eq]
      omega
    rw [if_neg hfits, if_pos hlen]
    rfl
  · have hlong : (decide (data.length > 64) || decide (64 < data.length)) = true := by
      simp only [Bool.or_eq_true, decide_eq_true_eq]
      omega
    rw [if_pos hlong, if_neg hlen]
    rfl

/-- What the link owes the host and the task, between two losses and across one.  The first fields speak of
the log; the others tie the log to what the calls return and to what the interrupts bring, in any state
that a run reaches. -/
structure Transport (p : Port) : Prop where
  /-- The bytes returned are the bytes received, up to those that wait in the ring. -/
  out : gather UsbEv.bytesIn (epoch p.log) =
    gather UsbEv.bytesRead (epoch p.log) ++ p.bulk.rx.contents rxRing
  /-- A read returns the oldest of the bytes that wait. -/
  read : ∀ cap, (p.read cap).1 = (p.bulk.rx.contents rxRing).take cap
  /-- The packets loaded hold the bytes accepted, up to those that wait in the ring. -/
  input : gather UsbEv.bytesWritten (epoch p.log) =
    (gather UsbEv.packetLoaded (epoch p.log)).flatten ++ p.bulk.tx.contents txRing
  /-- The host takes the packets in the order in which they were loaded; at most one is under way. -/
  sent : gather UsbEv.packetLoaded (epoch p.log) = gather UsbEv.packetSent (epoch p.log) ++ p.bulk.underway
  /-- A full packet that the host has taken is followed by another one. -/
  terminated : ∀ before q after, gather UsbEv.packetSent (epoch p.log) = before ++ q :: after →
    q.length = 64 → after ++ p.bulk.underway ≠ []
  /-- After a loss no byte is received or accepted until `usb_cdc_take_lost` has returned true. -/
  fence : Fenced p.log
  /-- An OUT packet that the armed endpoint takes is received, or the transport is lost. -/
  packet : p.bulk.ctrl.rRes = .ack → ∀ data,
    (p.outPacket data).log = (if data.length ≤ 64 then .received data else .lost) :: p.log
  /-- The bytes accepted by a write are as many of the first ones offered as `usb_cdc_write` returns. -/
  accepted : ∀ data, gather UsbEv.bytesWritten (epoch (p.write data).2.log) =
    gather UsbEv.bytesWritten (epoch p.log) ++ data.take (p.write data).1
  /-- `usb_cdc_write` returns the room in the ring, and 0 while the transport is shut. -/
  count : ∀ data, (p.write data).1 =
    if p.bulk.configured && !p.bulk.suspended && !p.bulk.lost then
      min data.length (txRing - p.bulk.tx.len) else 0
  /-- What `usb_cdc_take_lost` returns is what the log says. -/
  taken : p.takeLost.2.log = .taken p.takeLost.1 :: p.log
  /-- `usb_cdc_take_lost` returns true after a loss that it has not told yet. -/
  told : .lost ∈ p.log → .taken true ∉ epoch p.log → p.takeLost.1 = true

/-- The serial link is lossless between two losses, and nothing crosses one. -/
theorem runs_transport (h : Runs p) : Transport p := by
  have hsound := h.sound
  refine ⟨hsound.flows.out, fun cap => IndexRing.drain_eq_take cap hsound.rx_ok, hsound.flows.input,
    hsound.flows.sent, fun before q after hsent hlen hnone => ?_, hsound.fence,
    outPacket_log hsound, bytesWritten_write p, write_count hsound, rfl, fun hlost huntold => ?_⟩
  · -- the last packet taken would be full and the last one loaded, so its successor is due
    obtain ⟨hafter, hunder⟩ := List.append_eq_nil_iff.mp hnone
    have hlast : (gather UsbEv.packetLoaded (epoch p.log)).getLast? = some q := by
      rw [hsound.flows.sent, hsent, hafter, hunder, List.append_nil, List.getLast?_concat]
    have hflight : p.bulk.txInflight = true := by
      rcases hsound.zlp (hsound.full q hlast hlen) with hin | ⟨hfalse, -⟩
      · exact hin
      · exact absurd hfalse Bool.false_ne_true
    rw [Bulk.underway, hflight, if_pos rfl] at hunder
    exact absurd hunder (List.cons_ne_nil _ _)
  · by_contra hnot
    exact huntold (hsound.opened (Bool.eq_false_iff.mpr hnot) hlost)

/-- SET_CONFIGURATION(1). -/
def configure : Irq :=
  { transfer := true, setup := some (true, { type := 0, req := 9, value := 1, index := 0, len := 0 }) }

/-- A configured link; the host sends three bytes and fetches one full packet of the 65 written. -/
def benchPort : Port :=
  (((((Port.init (fun _ => 0) (fun _ => 0) (fun _ => 0)).irq configure).takeLost.2).irq
    { transfer := true, togOk := true, token := .out, endpoint := 2, data := [1, 2, 3] }).write
      (List.replicate 65 7)).2.irq { transfer := true, token := .input, endpoint := 2 }

theorem transport_benchPort : Transport benchPort ∧
    gather UsbEv.bytesIn (epoch benchPort.log) = [1, 2, 3] ∧
    gather UsbEv.packetSent (epoch benchPort.log) = [List.replicate 64 7] ∧
    benchPort.bulk.underway = [[7]] := by
  refine ⟨runs_transport ?_, by decide +kernel, by decide +kernel, by decide +kernel⟩
  refine .irq _ (fun h => absurd h (by decide)) (.write _ (.irq _ (fun _ _ => ?_) (.takeLost
    (.irq _ (fun h => absurd h (by decide)) (.init _ _ _)))))
  decide +kernel

end Usb

end RemoteBridge
