import RemoteBridge.Properties.BondJournal

/-!
# One owner of the radio

The link handle, the state and what the SDK is asked for belong together: a handle is held exactly in the
two states of a link, and a scan or a connection is begun only on a radio that is free.

Both are invariants over every run of the firmware.  The state that a search runs in needs a companion:
while the radio looks for its peer, or has seen it, reconnecting is not blocked (`Central.Owned.unblocked`);
this is what makes the connection at the end of the search a permitted one.

The one way to lose the invariant is inside `begin_link`.  Between `WC_CONNECTING` and the call of
`GAPRole_CentralEstablishLink` it reports to the server, and a server without room for the event ends its
session, cancels the pairing and disconnects, from inside the report.  `begin_link` does not look again:
it asks for the link while the cancellation is outstanding.
-/

namespace RemoteBridge

open World

variable {b : Build} {sdk : Sdk} {k : Nat} {w w' : World Radio}

/-! ## The invariant -/

/-- The statics agree about who owns the radio. -/
structure Central.Owned (c : Central) : Prop where
  handle : c.connHandle ≠ connHandleInit ↔ c.wcState.linked = true
  unblocked : c.seeks → c.securityBlocked = false

lemma Central.Same.owned {c c' : Central} (hs : c.Same c') (h : c.Owned) : c'.Owned := by
  refine ⟨?_, fun hseek => ?_⟩
  · rw [hs.connHandle, hs.wcState]
    exact h.handle
  · rw [hs.securityBlocked]
    unfold Central.seeks at hseek
    rw [hs.wcState, hs.nextLink] at hseek
    exact h.unblocked hseek

lemma Demotes.linked {s s' : WcState} (h : Demotes s s') : s'.linked = s.linked := by
  cases h <;> rfl

/-- Only a search is stopped by stopping a scan. -/
lemma Demotes.of_scanStopping {s : WcState} (h : Demotes s .scanStopping) : s = .scan ∨ s = .resolve := by
  cases h with
  | scan => exact .inl rfl
  | resolve => exact .inr rfl

lemma Demotes.ne_resolve {s s' : WcState} (h : Demotes s s') : s' ≠ .resolve := by
  cases h <;> exact fun h => nomatch h

/-- Nothing that happens to the statics breaks the agreement. -/
lemma Shifts.owned {c c' : Central} (h : Shifts k c c') (ho : c.Owned) : c'.Owned := by
  have hidle (hs : c.wcState = .idle) : ¬ c.connHandle ≠ connHandleInit := by
    rw [ho.handle, hs]
    exact Bool.false_ne_true
  cases h with
  | free h => exact h.owned ho
  | drop h =>
    refine h.owned ⟨ho.handle, fun hs => ho.unblocked ?_⟩
    exact hs.imp id fun hs => absurd rfl hs.2
  | demote state hd hn h =>
    refine h.owned ⟨?_, ?_⟩
    · rw [hd.linked]
      exact ho.handle
    · rintro (hs | ⟨hs, hnext⟩)
      · exact absurd hs hd.ne_resolve
      · -- the state before was a search for the peer, or had nobody to connect to
        have hstop : state = .scanStopping := hs
        rw [hstop] at hd
        rcases hd.of_scanStopping with hscan | hresolve
        · exact absurd (hn hscan) hnext
        · exact ho.unblocked (.inl hresolve)
  | fault hk h => exact h.owned ⟨ho.handle, ho.unblocked⟩
  | block hk hs h =>
    refine h.owned ⟨ho.handle, ?_⟩
    rintro (hseek | ⟨hseek, -⟩)
    · exact absurd hseek hs.1
    · exact absurd hseek hs.2
  | linkUp hk handle h =>
    refine h.owned ⟨⟨fun _ => rfl, fun _ => handle.2⟩, ?_⟩
    rintro (hseek | ⟨hseek, -⟩)
    · cases hseek
    · cases hseek
  | linkDown hk h =>
    refine h.owned ⟨⟨fun hne => absurd rfl hne, (nomatch ·)⟩, ?_⟩
    rintro (hseek | ⟨hseek, -⟩)
    · cases hseek
    · cases hseek
  | rest hk hs h =>
    refine h.owned ⟨⟨fun hne => ?_, (nomatch ·)⟩, ?_⟩
    · have hlinked := ho.handle.mp hne
      rw [hs] at hlinked
      cases hlinked
    · rintro (hseek | ⟨hseek, -⟩)
      · cases hseek
      · cases hseek
  | connect hk hs h =>
    refine h.owned ⟨⟨fun hne => absurd hne (hidle hs), (nomatch ·)⟩, ?_⟩
    rintro (hseek | ⟨hseek, -⟩)
    · cases hseek
    · cases hseek
  | scan hk hs h =>
    refine h.owned ⟨⟨fun hne => absurd hne (hidle hs), (nomatch ·)⟩, ?_⟩
    rintro (hseek | ⟨hseek, -⟩)
    · cases hseek
    · cases hseek
  | resolve hk hs hb h =>
    exact h.owned ⟨⟨fun hne => absurd hne (hidle hs), (nomatch ·)⟩, fun _ => hb⟩
  | aim hk next hb h => exact h.owned ⟨ho.handle, fun _ => hb⟩
  | endRecovery hk h => exact h.owned ⟨ho.handle, ho.unblocked⟩
  | unblock hk h => exact h.owned ⟨ho.handle, fun _ => rfl⟩

/-- What is asked of the SDK is asked on a radio in a state for it. -/
structure RadioMark.Permitted (b : Build) (trace : List RadioMark) (m : RadioMark) : Prop where
  owned : m.central.Owned
  discovery : ∀ a, m.ev = .asked (.startDiscovery a) → m.central.Free
  link : ∀ t a, m.ev = .asked (.establishLink t a) →
    (m.central.Free ∧ m.central.securityBlocked = false) ∨ Interrupted b trace

lemma Interrupted.mono {trace trace' : List RadioMark} (h : Interrupted b trace)
    (hs : trace <:+ trace') : Interrupted b trace' := by
  obtain ⟨m, hm, s, hs'⟩ := h
  exact ⟨m, hs.subset hm, s, hs'⟩

/-- The SDK is asked for a scan or a link. -/
def RadioEv.starts : RadioEv → Bool
  | .asked (.startDiscovery _) | .asked (.establishLink _ _) => true
  | _ => false

/-- The radio has one owner, now and whenever the SDK was asked. -/
structure Radio.Owned (b : Build) (r : Radio) : Prop where
  central : r.central.Owned
  marks : ∀ m ∈ r.trace, m.Permitted b r.trace

namespace Radio.Owned

variable {r : Radio}

lemma mono_marks (h : r.Owned b) {trace : List RadioMark} (hs : r.trace <:+ trace) {m : RadioMark}
    (hm : m ∈ r.trace) : m.Permitted b trace :=
  ⟨(h.marks m hm).owned, (h.marks m hm).discovery,
    fun t a he => ((h.marks m hm).link t a he).imp id (·.mono hs)⟩

lemma record (h : r.Owned b) (e : RadioEv) (hd : ∀ a, e = .asked (.startDiscovery a) → r.central.Free)
    (hl : ∀ t a, e = .asked (.establishLink t a) →
      (r.central.Free ∧ r.central.securityBlocked = false) ∨ Interrupted b r.trace) :
    (r.record e).Owned b := by
  have hgrow : r.trace <:+ (r.record e).trace := ⟨[_], rfl⟩
  refine ⟨h.central, fun m hm => ?_⟩
  rcases List.mem_cons.mp hm with rfl | hm
  · exact ⟨h.central, hd, fun t a he => (hl t a he).imp id (·.mono hgrow)⟩
  · exact h.mono_marks hgrow hm

lemma record_calm (h : r.Owned b) {e : RadioEv} (he : e.starts = false) : (r.record e).Owned b := by
  refine h.record e (fun a ha => ?_) fun t a ha => ?_
  · rw [ha] at he
    cases he
  · rw [ha] at he
    cases he

lemma record_plain (h : r.Owned b) {e : RadioEv} (he : e.plain = true) : (r.record e).Owned b := by
  refine h.record e (fun a ha => ?_) fun t a ha => ?_
  · rw [ha] at he
    cases he
  · rw [ha] at he
    cases he

lemma write (h : r.Owned b) (sdk : Sdk) (write : BondWrite) : (r.write sdk write).2.Owned b := by
  have hwriting : (r.record (.writing write)).Owned b := h.record_calm rfl
  have honto {r : Radio} (h : r.Owned b) (board : Board) : ({ r with board := board } : Radio).Owned b :=
    ⟨h.central, h.marks⟩
  unfold Radio.write
  dsimp only
  split
  · split
    · exact (honto hwriting _).record_calm rfl
    · exact (honto h _).record_calm rfl
  · split
    · exact honto hwriting _
    · exact honto h _

end Radio.Owned

lemma owned_unpend (h : w.env.Owned b) : w.unpend.env.Owned b :=
  (h.record_calm rfl).record_calm rfl

lemma owned_countPair (h : w.env.Owned b) : w.countPair.env.Owned b := by
  have hcount : Radio.Owned b { w.env with pairs := w.env.pairs + 1 } := ⟨h.central, h.marks⟩
  exact hcount.record_calm rfl

lemma owned_binding (h : w.env.Owned b) (flags : UInt8) : (w.binding flags).env.Owned b := by
  have hstaged : ((w.stage flags).tune fun c => { c with pairPending := false }).env.Owned b :=
    ⟨⟨h.central.handle, h.central.unblocked⟩, h.marks⟩
  exact owned_unpend hstaged

/-- Every function of the firmware leaves the radio with one owner. -/
lemma Drives.owned (h : Drives b sdk k w w') (ho : w.env.Owned b) : w'.env.Owned b := by
  have htune {v : World Radio} (hv : v.env.Owned b) (f : Central → Central)
      (hf : v.env.central.Owned → (f v.env.central).Owned) : (v.tune f).env.Owned b :=
    ⟨hf hv.central, hv.marks⟩
  induction h with
  | refl => exact ho
  | act f hf _ ih => exact ih ho
  | note e _ ih => exact ih ho
  | record e he _ ih => exact (ih ho).record_plain he
  | tune f hs _ ih => exact htune (ih ho) f hs.owned
  | fail hp _ ih =>
    exact owned_unpend (htune (ih ho) _ fun h => ⟨h.handle, h.unblocked⟩)
  | closed hk d hop hd _ ih => exact ih ho
  | discover hk a hf _ ih => exact (ih ho).record _ (fun _ _ => hf) fun _ _ => nofun
  | establish hk t a hf _ ih => exact (ih ho).record _ (fun _ => nofun) fun _ _ _ => hf
  | beginOp hk kind hd dl hop _ ih => exact ih ho
  | countPair hk _ ih => exact owned_countPair (ih ho)
  | refuse hk n hn _ ih => exact (ih ho).record_calm rfl
  | unwritten hk wr ha hr _ ih => exact (ih ho).write sdk wr
  | pend hk n f ha hr hn hf _ ih =>
    have hpend := htune (v := (World.write sdk .pair _).2) ((ih ho).write sdk .pair) f fun h =>
      (hf _).owned ⟨h.handle, fun _ => rfl⟩
    exact ⟨hpend.central, hpend.marks⟩
  | forget hk ha hr _ ih =>
    exact htune (v := (World.write sdk .forget _).2) ((ih ho).write sdk .forget) _ fun h =>
      ⟨h.handle, h.unblocked⟩
  | flag hk e hv hr _ ih => exact (ih ho).write sdk _
  | bind hk fl p hp hi hz ht hr _ ih => exact (owned_binding (ih ho) fl).write sdk (.save p)
  | unbound hk fl p hp hi ht hr hm _ ihm ih =>
    have hmiddle := ihm ((owned_binding (ih ho) fl).write sdk (.save p))
    exact htune hmiddle _ fun h => ⟨h.handle, h.unblocked⟩
  | erase hk hr _ ih => exact (ih ho).record_calm rfl
  | recovered hk f f' hc hr hf hm hf' _ ihm ih =>
    exact htune (ihm ((ih ho).write sdk .clear)) _ fun h =>
      (hf' _).owned ⟨h.handle, fun _ => rfl⟩

/-! ## Whole runs -/

/-- What every moment between two inputs has. -/
structure OwnerKept (b : Build) (w : World Radio) : Prop where
  owned : w.env.Owned b
  bonded : Bonded w
  owner : w.env.owner ≤ w.env.pairs

lemma Drives.kept (h : Drives b sdk k w w') (hw : OwnerKept b w) : OwnerKept b w' :=
  ⟨h.owned hw.owned, h.bonded hw.bonded, h.owner_le hw.owner⟩

lemma kept_endRecovery (hw : OwnerKept b w) (hc : w.env.central.recovering = true) :
    OwnerKept b (w.tune Central.endRecovery) := by
  refine ⟨⟨⟨hw.owned.central.handle, hw.owned.central.unblocked⟩, hw.owned.marks⟩, ?_, hw.owner⟩
  refine hw.bonded.tune _ fun hp => ?_
  have hno := hw.bonded.not_pending_of_recovering hc
  have hp' : w.env.central.pairPending = true := hp
  rw [hno] at hp'
  cases hp'

lemma Polled.kept (h : Polled b sdk w w') (hw : OwnerKept b w) : OwnerKept b w' := by
  cases h with
  | event h => exact h.kept hw
  | failed w₁ h hf hc h' => exact h'.kept (kept_endRecovery (h.kept hw) hc)
  | recovery hc h => exact h.kept hw
  | link h => exact h.kept hw

lemma Stepped.kept (h : Stepped b sdk w w') (hw : OwnerKept b w) : OwnerKept b w' := by
  cases h with
  | clock nowMs h =>
    rw [h]
    exact ⟨⟨hw.owned.central, hw.owned.marks⟩,
      hw.bonded.of_kept hw.bonded.loaded rfl rfl rfl .inl id fun hp => ⟨hp, rfl⟩, hw.owner⟩
  | event h => exact h.kept hw
  | request h => exact h.kept hw
  | polled h => exact h.kept hw

/-- One input. -/
lemma RadioInput.kept (i : RadioInput) (sdk : Sdk) (n : Nat) (hw : OwnerKept b w) :
    Stepped b sdk w (i.run b sdk (platform b sdk n) w) ∧
      OwnerKept b (i.run b sdk (platform b sdk n) w) := by
  have hstep := i.stepped (b := b) sdk n hw.owned.central.unblocked
    (hw.bonded.journalled hw.owner)
  exact ⟨hstep, hstep.kept hw⟩

/-- The statics before anything has happened. -/
lemma owned_fresh : ({} : Central).Owned := by
  refine ⟨⟨fun h => absurd rfl h, (nomatch ·)⟩, ?_⟩
  rintro (h | ⟨h, -⟩)
  · cases h
  · cases h

/-- Initialisation, on top of a trace of earlier boots. -/
lemma kept_boot (r : Reset) (sdk : Sdk) (n : Nat) (trace : List RadioMark)
    (ht : ∀ m ∈ trace, m.Permitted b trace) : OwnerKept b (r.boot b sdk n trace) := by
  have hstart : OwnerKept b (r.world b trace) := by
    have hradio (board : Board) : Radio.Owned b
        { central := {}, board := board, nowMs := r.nowMs, trace := trace } := ⟨owned_fresh, ht⟩
    exact ⟨(hradio _).record_calm rfl, bonded_world b r trace, le_rfl⟩
  obtain ⟨w₁, h₁, h₂⟩ := wchCentralInit_drives b sdk n r.registered (r.world b trace)
  have hw₁ := h₁.kept hstart
  have hp : w₁.env.central.pairPending = false := (h₁.quiet (by decide) rfl).1
  refine h₂.kept ⟨⟨⟨hw₁.owned.central.handle, hw₁.owned.central.unblocked⟩, hw₁.owned.marks⟩, ?_,
    hw₁.owner⟩
  refine hw₁.bonded.tune _ fun hp' => ?_
  have hp'' : w₁.env.central.pairPending = true := hp'
  rw [hp] at hp''
  cases hp''

lemma Boots.kept (h : Boots b w) : OwnerKept b w := by
  induction h with
  | reset r sdk n => exact kept_boot r sdk n [] fun _ h => absurd h List.not_mem_nil
  | input i sdk n _ ih => exact (i.kept sdk n ih).2

/-! ## One owner at a time -/

/-- The handle is held exactly in the states of a link. -/
def Central.HandleMatches (c : Central) : Prop :=
  c.connHandle ≠ connHandleInit ↔ c.wcState = .connected ∨ c.wcState = .disconnecting

/-- No link is owned, nothing is being cancelled or terminated, and the radio works. -/
structure Central.MayStart (c : Central) : Prop where
  unowned : c.connHandle = connHandleInit ∧ c.wcState ≠ .connected
  settled : c.wcState ≠ .scanStopping ∧ c.wcState ≠ .connectCancel ∧ c.wcState ≠ .disconnecting
  recovered : c.recovering = false
  sound : c.radioFaulted = false

/-- One owner of the radio, at the end of a run and whenever the SDK was asked for something. -/
structure SingleOwner (r : Radio) : Prop where
  now : r.central.HandleMatches
  asked : ∀ m ∈ r.trace, m.central.HandleMatches
  discovery : ∀ m ∈ r.trace, ∀ a, m.ev = .asked (.startDiscovery a) → m.central.MayStart
  link : ∀ m ∈ r.trace, ∀ t a, m.ev = .asked (.establishLink t a) →
    m.central.MayStart ∧ (m.central.pairPending = false → m.central.securityBlocked = false)

lemma WcState.linked_iff (s : WcState) : s.linked = true ↔ s = .connected ∨ s = .disconnecting := by
  cases s <;> simp [WcState.linked]

lemma Central.Owned.handleMatches {c : Central} (h : c.Owned) : c.HandleMatches :=
  h.handle.trans (WcState.linked_iff _)

lemma Central.Owned.mayStart {c : Central} (h : c.Owned) (hf : c.Free) : c.MayStart := by
  have hunlinked : ¬ c.wcState.linked = true := by
    rw [hf.unlinked]
    exact Bool.false_ne_true
  have hwaits := hf.settled
  refine ⟨⟨?_, fun hs => hunlinked (by rw [hs]; rfl)⟩, ⟨?_, ?_, ?_⟩, hf.recovered, hf.sound⟩
  · by_contra hne
    exact hunlinked (h.handle.mp hne)
  · intro hs
    rw [hs] at hwaits
    cases hwaits
  · intro hs
    rw [hs] at hwaits
    cases hwaits
  · intro hs
    rw [hs] at hwaits
    cases hwaits

/-- In every run in which no report of a connecting link is interrupted the radio has one owner. -/
theorem boots_singleOwner (h : Boots b w) (hi : ¬ Interrupted b w.env.trace) : SingleOwner w.env := by
  have hkept := h.kept.owned
  refine ⟨hkept.central.handleMatches, fun m hm => (hkept.marks m hm).owned.handleMatches,
    fun m hm a he => ?_, fun m hm t a he => ?_⟩
  · exact (hkept.marks m hm).owned.mayStart ((hkept.marks m hm).discovery a he)
  · obtain ⟨hfree, hblocked⟩ := ((hkept.marks m hm).link t a he).resolve_right hi
    exact ⟨(hkept.marks m hm).owned.mayStart hfree, fun _ => hblocked⟩

/-! ## A pairing that is cancelled inside `begin_link` -/

/-- A remote with a HID service advertises. -/
def benchAdvert : DeviceInfo :=
  { eventType := 0, addrType := 0, addr := fun _ => 7, rssi := 0, data := [3, 3, 0x12, 0x18] }

/-- A host has started a search, which finds a remote. -/
def foundBench : World Radio :=
  ((((blankBench.bench (.gap (.deviceInitDone 0))).benchHears (hostHeader .hello 0 1 0) 1
    (tlvPutBytes 1 (List.replicate 16 7) [])).benchHears (hostHeader .findStart 1 2 0) 2
      (tlvPutU16 1 1000 [])).bench (.gap (.deviceInfo benchAdvert)))

/-- The host pairs with the remote, and goes on to ping while USB takes nothing. -/
def pairingBench : World Radio :=
  ((foundBench.benchHears (hostHeader .pairBegin 1 3 0) 3 (tlvPutU32 2 1 (tlvPutU32 1 1 []))).benchHears
    (hostHeader .ping 1 4 0) 4 (tlvPutU32 1 4 [])).benchHears (hostHeader .ping 1 5 0) 5 (tlvPutU32 1 5 [])

/-- The scan is over. -/
def cancelledBench : World Radio := pairingBench.bench (.gap (.deviceDiscovery 0))

lemma boots_foundBench : Boots Build.default foundBench := by
  have hinit := boots_blankBench.bench (.gap (.deviceInitDone 0))
  have hhello := hinit.benchHears (by decide +kernel) (by decide +kernel) (hostHeader .hello 0 1 0) 1
    (tlvPutBytes 1 (List.replicate 16 7) []) (by decide)
  have hfind := hhello.benchHears (by decide +kernel) (by decide +kernel) (hostHeader .findStart 1 2 0) 2
    (tlvPutU16 1 1000 []) (by decide)
  exact hfind.bench _

lemma boots_pairingBench : Boots Build.default pairingBench := by
  have hpair := boots_foundBench.benchHears (by decide +kernel) (by decide +kernel)
    (hostHeader .pairBegin 1 3 0) 3 (tlvPutU32 2 1 (tlvPutU32 1 1 [])) (by decide)
  have hping := hpair.benchHears (by decide +kernel) (by decide +kernel) (hostHeader .ping 1 4 0) 4
    (tlvPutU32 1 4 []) (by decide)
  exact hping.benchHears (by decide +kernel) (by decide +kernel) (hostHeader .ping 1 5 0) 5
    (tlvPutU32 1 5 []) (by decide)

/-- No report of a connecting link can be interrupted. -/
def uninterrupted (b : Build) (trace : List RadioMark) : Bool :=
  trace.all fun m =>
    match m.ev with
    | .linking s => !s.interrupts b
    | _ => true

lemma not_interrupted {trace : List RadioMark} (h : uninterrupted b trace = true) : ¬ Interrupted b trace := by
  rintro ⟨m, hm, s, he, hi⟩
  have hm' := List.all_eq_true.mp h m hm
  rw [he] at hm'
  simp only [hi] at hm'
  cases hm'

/-- `boots_singleOwner` applies to the run up to the pings. -/
theorem singleOwner_pairingBench :
    ¬ Interrupted Build.default pairingBench.env.trace ∧ SingleOwner pairingBench.env := by
  have hi : ¬ Interrupted Build.default pairingBench.env.trace := not_interrupted (by decide +kernel)
  exact ⟨hi, boots_singleOwner boots_pairingBench hi⟩

/-- The newest mark asks for a link while a cancellation is outstanding. -/
def asksWhileCancelling (trace : List RadioMark) : Bool :=
  match trace with
  | [] => false
  | m :: _ =>
    (match m.ev with
      | .asked (.establishLink _ _) => true
      | _ => false) && decide (m.central.wcState = .connectCancel)

/-- The SDK is asked for a link that is being cancelled. -/
theorem not_singleOwner_cancelledBench :
    ¬ ∀ w : World Radio, Boots Build.default w → SingleOwner w.env := by
  intro hall
  have howner := hall cancelledBench (boots_pairingBench.bench _)
  have hasks : asksWhileCancelling cancelledBench.env.trace = true := by decide +kernel
  generalize cancelledBench.env = r at howner hasks
  cases htrace : r.trace with
  | nil =>
    rw [htrace] at hasks
    cases hasks
  | cons m rest =>
    rw [htrace] at hasks
    obtain ⟨hlink, hcancel⟩ := Bool.and_eq_true_iff.mp hasks
    have hstate : m.central.wcState = .connectCancel := of_decide_eq_true hcancel
    split at hlink
    · next t a he =>
      have hm : m ∈ r.trace := by
        rw [htrace]
        exact List.mem_cons_self ..
      exact (howner.link m hm t a he).1.settled.2.1 hstate
    · cases hlink

end RemoteBridge
