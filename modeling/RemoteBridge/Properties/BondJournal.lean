import RemoteBridge.Radio.System

/-!
# The server, the radio and the bond journal

Three parties hold a part of the bond: the server knows its peer, the radio knows whether a pairing or a
recovery is in progress, and the board store holds the committed record.  `Bonded` is what they agree on
at every moment of a boot, also between the steps of one input:

* while a pairing is pending the journal is open and nobody else writes it;
* a server without a peer never sits on a bound record;
* a server with a peer sits on the record of this peer, unless a deletion is under way or has failed.
-/

namespace RemoteBridge

open World

variable {b : Build} {sdk : Sdk} {k : Nat} {w w' : World Radio}

/-- Pairing is begun and ended by other means. -/
lemma Shifts.pairPending {c c' : Central} (h : Shifts k c c') : c'.pairPending = c.pairPending := by
  cases h with
  | free h => exact h.pairPending
  | drop h => exact h.pairPending
  | demote state hd hn h => exact h.pairPending
  | fault hk h => exact h.pairPending
  | block hk hs h => exact h.pairPending
  | linkUp hk handle h => exact h.pairPending
  | linkDown hk h => exact h.pairPending
  | rest hk hs h => exact h.pairPending
  | connect hk hs h => exact h.pairPending
  | scan hk hs h => exact h.pairPending
  | resolve hk hs hb h => exact h.pairPending
  | aim hk next hb h => exact h.pairPending
  | endRecovery hk h => exact h.pairPending
  | unblock hk h => exact h.pairPending

/-- A recovery is begun by other means, and never ended but by the poll. -/
lemma Shifts.recovering {c c' : Central} (h : Shifts k c c') :
    c'.recovering = c.recovering ∨ (4 ≤ k ∧ c'.recovering = false) := by
  cases h with
  | free h => exact .inl h.recovering
  | drop h => exact .inl h.recovering
  | demote state hd hn h => exact .inl h.recovering
  | fault hk h => exact .inl h.recovering
  | block hk hs h => exact .inl h.recovering
  | linkUp hk handle h => exact .inl h.recovering
  | linkDown hk h => exact .inl h.recovering
  | rest hk hs h => exact .inl h.recovering
  | connect hk hs h => exact .inl h.recovering
  | scan hk hs h => exact .inl h.recovering
  | resolve hk hs hb h => exact .inl h.recovering
  | aim hk next hb h => exact .inl h.recovering
  | endRecovery hk h => exact .inr ⟨hk, h.recovering⟩
  | unblock hk h => exact .inl h.recovering

/-- Some operation has completed with an uncertain result. -/
def Uncertain (log : List Ev) : Prop := ∃ d s, Ev.completed d s ∈ log ∧ d.uncertain = true

/-- The committed record binds the peer. -/
structure Committed.Binds (c : Committed) (peer : PeerRecord) : Prop where
  state : c.state = 1
  id : c.peerId = peer.peerId
  auto : c.autoReconnect = peer.autoReconnect

/-- A pairing in progress has its journal to itself. -/
structure PendingPair (w : World Radio) : Prop where
  state : w.env.board.committed.state = 3
  counter : w.env.board.committed.counter ≠ 0
  alone : w.env.central.recovering = false
  free : w.srv.device.peerValid = false

/-- The three parties agree. -/
structure Bonded (w : World Radio) : Prop where
  loaded : w.env.board.loaded = true
  pending : w.env.central.pairPending = true → PendingPair w
  unbound : w.srv.device.peerValid = false →
    ¬ (w.env.board.committed.state = 1 ∧ w.env.board.committed.peerId ≠ 0)
  bound : w.srv.device.peerValid = true → w.srv.device.peer.peerId ≠ 0 ∧
    (w.env.board.committed.Binds w.srv.device.peer ∨
      (w.env.board.committed.state = 2 ∧ (w.srv.forgetting ∨ Uncertain w.log)))

namespace Bonded

lemma journalled (h : Bonded w) (ho : w.env.owner ≤ w.env.pairs) : w.env.Journalled :=
  ⟨h.loaded, ho, fun hp => ⟨(h.pending hp).state, (h.pending hp).counter⟩⟩

/-- A server with a peer has no pairing in progress. -/
lemma not_pending (h : Bonded w) (hv : w.srv.device.peerValid = true) :
    w.env.central.pairPending = false := by
  refine Bool.eq_false_iff.mpr fun hp => ?_
  have hfree := (h.pending hp).free
  rw [hv] at hfree
  cases hfree

/-- Nor has a radio in recovery. -/
lemma not_pending_of_recovering (h : Bonded w) (hc : w.env.central.recovering = true) :
    w.env.central.pairPending = false := by
  refine Bool.eq_false_iff.mpr fun hp => ?_
  have halone := (h.pending hp).alone
  rw [hc] at halone
  cases halone

/-- The agreement survives a step that keeps the record, the peer and a deletion. -/
lemma of_kept (h : Bonded w) (hl : w'.env.board.loaded = true)
    (hc : w'.env.board.committed = w.env.board.committed)
    (hpeer : w'.srv.device.peer = w.srv.device.peer)
    (hv : w'.srv.device.peerValid = w.srv.device.peerValid)
    (ho : w.srv.forgetting → w'.srv.forgetting ∨ Uncertain w'.log ∨ w'.srv.device.peerValid = false)
    (hlog : Uncertain w.log → Uncertain w'.log)
    (hp : w'.env.central.pairPending = true →
      w.env.central.pairPending = true ∧ w'.env.central.recovering = w.env.central.recovering) :
    Bonded w' := by
  refine ⟨hl, fun hpend => ?_, fun hun => ?_, fun hval => ?_⟩
  · obtain ⟨hpend₀, hrec⟩ := hp hpend
    obtain ⟨hstate, hcounter, halone, hfree⟩ := h.pending hpend₀
    refine ⟨?_, ?_, hrec.trans halone, hv.trans hfree⟩
    · rw [hc]
      exact hstate
    · rw [hc]
      exact hcounter
  · rw [hc]
    exact h.unbound (hv.symm.trans hun)
  · rw [hc, hpeer]
    obtain ⟨hid, hrecord⟩ := h.bound (hv.symm.trans hval)
    refine ⟨hid, hrecord.imp id fun ⟨hstate, hdel⟩ => ⟨hstate, ?_⟩⟩
    rcases hdel with hforget | hunc
    · rcases ho hforget with hforget' | hunc | hgone
      · exact .inl hforget'
      · exact .inr hunc
      · rw [hval] at hgone
        cases hgone
    · exact .inr (hlog hunc)

/-- The radio changes its statics. -/
lemma tune (h : Bonded w) (f : Central → Central)
    (hp : (f w.env.central).pairPending = true →
      w.env.central.pairPending = true ∧ (f w.env.central).recovering = w.env.central.recovering) :
    Bonded (w.tune f) :=
  h.of_kept h.loaded rfl rfl rfl .inl id hp

lemma shifts (h : Bonded w) {f : Central → Central} (hs : Shifts k w.env.central (f w.env.central)) :
    Bonded (w.tune f) := by
  refine h.tune f fun hp => ?_
  rw [hs.pairPending] at hp
  refine ⟨hp, ?_⟩
  rcases hs.recovering with hrec | ⟨-, hrec⟩
  · exact hrec
  · exact hrec.trans (h.pending hp).alone.symm

/-- A write fails. -/
lemma unwritten (h : Bonded w) {write : BondWrite} (hr : (w.write sdk write).1 = false) :
    Bonded (w.write sdk write).2 := by
  refine h.of_kept (loaded_write h.loaded) (committed_write_failed h.loaded hr) rfl rfl .inl id ?_
  rw [central_write]
  exact fun hp => ⟨hp, rfl⟩

/-- The journal of a pairing is opened. -/
lemma pend (h : Bonded w) {f : Central → Central} {n : Nat} (ha : Attempts w .pair)
    (hr : (w.write sdk .pair).1 = true)
    (hf : ∀ c, Central.Same { c with pairPending := true, securityBlocked := false } (f c)) :
    Bonded { (w.write sdk .pair).2.tune f with
      env := { ((w.write sdk .pair).2.tune f).env with owner := n } } := by
  obtain ⟨hv, hrec⟩ := ha
  obtain ⟨hnew, -, -, hmax⟩ := committed_write_done h.loaded hr
  have hcounter : w.env.board.committed.counter + 1 ≠ 0 := by
    intro hz
    have hwrap : (w.env.board.committed.counter + 1).toNat = 0 := by
      rw [hz]
      rfl
    have hone : (1 : UInt32).toNat = 1 := rfl
    have hlt := w.env.board.committed.counter.toNat_lt
    rw [UInt32.toNat_add, hone] at hwrap
    refine hmax (UInt32.toNat_inj.mp ?_)
    show w.env.board.committed.counter.toNat = 4294967295
    omega
  refine ⟨loaded_write h.loaded, fun _ => ⟨?_, ?_, ?_, hv⟩, fun _ => ?_, fun hval => ?_⟩
  · show Committed.state (Board.committed (w.write sdk .pair).2.env.board) = 3
    rw [hnew]
    rfl
  · show Committed.counter (Board.committed (w.write sdk .pair).2.env.board) ≠ 0
    rw [hnew]
    exact hcounter
  · show (f (w.write sdk .pair).2.env.central).recovering = false
    rw [(hf _).recovering, central_write]
    exact hrec
  · show ¬ (Committed.state (Board.committed (w.write sdk .pair).2.env.board) = 1 ∧ _)
    rw [hnew]
    exact fun h => nomatch h.1
  · have hval' : w.srv.device.peerValid = true := hval
    rw [hv] at hval'
    cases hval'

/-- The journal of a deletion is opened. -/
lemma forget (h : Bonded w) {f : Central → Central} (hv : w.srv.device.peerValid = true)
    (ho : w.srv.forgetting) (hr : (w.write sdk .forget).1 = true)
    (hf : ∀ c, (f c).pairPending = c.pairPending) : Bonded ((w.write sdk .forget).2.tune f) := by
  obtain ⟨hnew, -⟩ := committed_write_done h.loaded hr
  have hstate : ((w.write sdk .forget).2.tune f).env.board.committed.state = 2 := by
    rw [board_tune, hnew]
    rfl
  refine ⟨loaded_write h.loaded, fun hp => ?_, fun hun => ?_, fun _ => ⟨(h.bound hv).1, .inr ⟨hstate, .inl ho⟩⟩⟩
  · rw [central_tune, hf, central_write, h.not_pending hv] at hp
    cases hp
  · have hun' : w.srv.device.peerValid = false := hun
    rw [hv] at hun'
    cases hun'

/-- The record of the server's peer is saved. -/
lemma saved {v : World Radio} (hl : v.env.board.loaded = true) {peer : PeerRecord}
    (hr : (v.write sdk (.save peer)).1 = true) (f : Server → Server)
    (hp : v.env.central.pairPending = false) (hpeer : (f v.srv).device.peer = peer)
    (hv : (f v.srv).device.peerValid = true) (hid : peer.peerId ≠ 0) :
    Bonded ((v.write sdk (.save peer)).2.act f) := by
  obtain ⟨hnew, -⟩ := committed_write_done hl hr
  refine ⟨loaded_write hl, fun hpend => ?_, fun hun => ?_, fun _ => ?_⟩
  · have hpend' : (v.write sdk (.save peer)).2.env.central.pairPending = true := hpend
    rw [central_write, hp] at hpend'
    cases hpend'
  · have hun' : (f v.srv).device.peerValid = false := hun
    rw [hv] at hun'
    cases hun'
  · show (f v.srv).device.peer.peerId ≠ 0 ∧
      (Committed.Binds (Board.committed (v.write sdk (.save peer)).2.env.board) (f v.srv).device.peer ∨ _)
    rw [hpeer, hnew]
    exact ⟨hid, .inl ⟨rfl, rfl, rfl⟩⟩

/-- The store is cleared and the server forgets its peer. -/
lemma cleared (h : Bonded w) (hc : w.env.central.recovering = true)
    (hr : (w.write sdk .clear).1 = true) {f : Server → Server}
    (hf : (f w.srv).device.peerValid = false) : Bonded ((w.write sdk .clear).2.act f) := by
  obtain ⟨hnew, -⟩ := committed_write_done h.loaded hr
  refine ⟨loaded_write h.loaded, fun hp => ?_, fun _ => ?_, fun hval => ?_⟩
  · have hp' : (w.write sdk .clear).2.env.central.pairPending = true := hp
    rw [central_write, h.not_pending_of_recovering hc] at hp'
    cases hp'
  · show ¬ (_ ∧ Committed.peerId (Board.committed (w.write sdk .clear).2.env.board) ≠ 0)
    rw [hnew]
    exact fun h => h.2 rfl
  · have hval' : (f w.srv).device.peerValid = true := hval
    rw [hf] at hval'
    cases hval'

/-- A new peer is about to be bound: the pairing is not pending any more. -/
lemma binding (h : Bonded w) (flags : UInt8) : Bonded (w.binding flags) := by
  refine h.of_kept (loaded_stage flags w) (committed_stage flags w) rfl rfl (fun ho => .inl ho) id ?_
  exact fun hp' => nomatch hp'

end Bonded

lemma uncertain_cons {log : List Ev} (e : Ev) (h : Uncertain log) : Uncertain (e :: log) := by
  obtain ⟨d, s, hm, hd⟩ := h
  exact ⟨d, s, List.mem_cons_of_mem _ hm, hd⟩

/-- A server that keeps the bond keeps a deletion. -/
lemma BondKept.forgetting {s s' : Server} (h : BondKept s s') (ho : s.forgetting) : s'.forgetting :=
  ⟨(h.forget ho.2).trans ho.1, h.kind.trans ho.2⟩

/-- Every function of the firmware keeps the three parties in agreement. -/
lemma Drives.bonded (h : Drives b sdk k w w') (hw : Bonded w) : Bonded w' := by
  induction h with
  | refl => exact hw
  | act f hf _ ih =>
    exact (ih hw).of_kept (ih hw).loaded rfl hf.peer hf.valid (fun ho => .inl (hf.forgetting ho)) id
      fun hp => ⟨hp, rfl⟩
  | note e _ ih =>
    exact (ih hw).of_kept (ih hw).loaded rfl rfl rfl .inl (uncertain_cons e) fun hp => ⟨hp, rfl⟩
  | record e he _ ih => exact (ih hw).of_kept (ih hw).loaded rfl rfl rfl .inl id fun hp => ⟨hp, rfl⟩
  | tune f hs _ ih => exact (ih hw).shifts hs
  | fail hp _ ih =>
    exact (ih hw).of_kept (ih hw).loaded rfl rfl rfl .inl id fun hp' => nomatch hp'
  | closed hk d ho hd _ ih =>
    refine (ih hw).of_kept (ih hw).loaded rfl rfl rfl (fun _ => .inr ?_) (uncertain_cons _)
      fun hp => ⟨hp, rfl⟩
    rcases hd with hunc | hgone
    · exact .inl ⟨d, _, List.mem_cons_self .., hunc⟩
    · exact .inr hgone
  | discover hk a hf _ ih => exact (ih hw).of_kept (ih hw).loaded rfl rfl rfl .inl id fun hp => ⟨hp, rfl⟩
  | establish hk t a hf _ ih =>
    exact (ih hw).of_kept (ih hw).loaded rfl rfl rfl .inl id fun hp => ⟨hp, rfl⟩
  | beginOp hk kind hd dl ho _ ih =>
    refine (ih hw).of_kept (ih hw).loaded rfl rfl rfl (fun hforget => ?_) (uncertain_cons _)
      fun hp => ⟨hp, rfl⟩
    have hactive := hforget.1
    rw [ho] at hactive
    cases hactive
  | countPair hk _ ih => exact (ih hw).of_kept (ih hw).loaded rfl rfl rfl .inl id fun hp => ⟨hp, rfl⟩
  | refuse hk n hn _ ih => exact (ih hw).of_kept (ih hw).loaded rfl rfl rfl .inl id fun hp => ⟨hp, rfl⟩
  | unwritten hk wr ha hr _ ih => exact (ih hw).unwritten hr
  | pend hk n f ha hr hn hf _ ih => exact (ih hw).pend ha hr hf
  | forget hk ha hr _ ih =>
    obtain ⟨⟩ | ⟨hv, ho⟩ := ha
    exact (ih hw).forget hv ho hr fun _ => rfl
  | flag hk e hv hr _ ih =>
    exact Bonded.saved (v := World.flagged e _) (ih hw).loaded hr id ((ih hw).not_pending hv) rfl hv
      ((ih hw).bound hv).1
  | bind hk fl p hp hi hz ht hr _ ih =>
    exact Bonded.saved ((ih hw).binding fl).loaded hr (Server.setPeer p) rfl rfl rfl hz
  | unbound hk fl p hp hi ht hr hm _ ihm ih =>
    have hbefore := ((ih hw).binding fl).unwritten hr
    have hafter := ihm hbefore
    refine hafter.tune _ fun hpend => ?_
    have hfirst := hm.reacted.pending hpend
    rw [central_write] at hfirst
    cases hfirst
  | erase hk hr _ ih => exact (ih hw).of_kept (ih hw).loaded rfl rfl rfl .inl id fun hp => ⟨hp, rfl⟩
  | recovered hk f f' hc hr hf hm hf' _ ihm ih =>
    have hcleared := (ih hw).cleared hc hr (hf _).1
    have hafter := ihm hcleared
    refine hafter.tune _ fun hpend => ?_
    rw [(hf' _).pairPending] at hpend
    refine ⟨hpend, ?_⟩
    rw [(hf' _).recovering]
    exact ((hafter.pending hpend).alone).symm

/-! ## Without a pairing -/

/-- The end of a pairing. -/
def RadioEv.ends : RadioEv → Bool
  | .unpended _ | .pairDone _ => true
  | _ => false

/-- The trace grows by marks that end no pairing. -/
def Unended (trace trace' : List RadioMark) : Prop := ∃ l, trace' = l ++ trace ∧ ∀ m ∈ l, m.ev.ends = false

namespace Unended

variable {trace trace' trace'' : List RadioMark}

lemma refl (trace : List RadioMark) : Unended trace trace := ⟨[], rfl, fun _ h => absurd h List.not_mem_nil⟩

lemma trans (h₁ : Unended trace trace') (h₂ : Unended trace' trace'') : Unended trace trace'' := by
  obtain ⟨l₁, rfl, hl₁⟩ := h₁
  obtain ⟨l₂, rfl, hl₂⟩ := h₂
  refine ⟨l₂ ++ l₁, (List.append_assoc ..).symm, fun m hm => ?_⟩
  rcases List.mem_append.mp hm with hm | hm
  · exact hl₂ m hm
  · exact hl₁ m hm

lemma cons {m : RadioMark} (hm : m.ev.ends = false) (trace : List RadioMark) : Unended trace (m :: trace) :=
  ⟨[m], rfl, fun _ h => List.mem_singleton.mp h ▸ hm⟩

lemma write (write : BondWrite) (w : World Radio) :
    Unended w.env.trace (w.write sdk write).2.env.trace := by
  unfold World.write Radio.write
  dsimp only
  split
  · split
    · exact (cons rfl _).trans (cons rfl _)
    · exact cons rfl _
  · split
    · exact cons rfl _
    · exact refl _

end Unended

lemma quiet_of_plain {e : RadioEv} (he : e.plain = true) : e.ends = false := by
  cases e with
  | asked call => rfl
  | linking s => rfl
  | adapted call => rfl
  | pairBegin n => cases he
  | pairDone n => cases he
  | unpended c => cases he
  | writing wr => cases he
  | committed wr => cases he
  | lost => cases he

/-- Without a pairing in progress and without a request none ends. -/
lemma Drives.quiet (h : Drives b sdk k w w') (hk : k ≠ 2) (hp : w.env.central.pairPending = false) :
    w'.env.central.pairPending = false ∧ Unended w.env.trace w'.env.trace := by
  induction h with
  | refl => exact ⟨hp, .refl _⟩
  | act f hf _ ih => exact ih hk hp
  | note e _ ih => exact ih hk hp
  | record e he _ ih => exact ⟨(ih hk hp).1, (ih hk hp).2.trans (.cons (quiet_of_plain he) _)⟩
  | tune f hs _ ih =>
    refine ⟨?_, (ih hk hp).2⟩
    rw [central_tune, hs.pairPending]
    exact (ih hk hp).1
  | fail hpend _ ih =>
    rw [(ih hk hp).1] at hpend
    cases hpend
  | closed hk' d ho hd _ ih => exact ih hk hp
  | discover hk' a hf _ ih => exact ⟨(ih hk hp).1, (ih hk hp).2.trans (.cons rfl _)⟩
  | establish hk' t a hf _ ih => exact ⟨(ih hk hp).1, (ih hk hp).2.trans (.cons rfl _)⟩
  | beginOp hk' => exact absurd hk' hk
  | countPair hk' => exact absurd hk' hk
  | refuse hk' => exact absurd hk' hk
  | unwritten hk' wr ha hr _ ih =>
    refine ⟨?_, (ih hk hp).2.trans (.write wr _)⟩
    rw [central_write]
    exact (ih hk hp).1
  | pend hk' => exact absurd hk' hk
  | forget hk' => exact absurd hk' hk
  | flag hk' => exact absurd hk' hk
  | bind hk' fl p hpend hi hz ht hr _ ih =>
    rw [(ih hk hp).1] at hpend
    cases hpend
  | unbound hk' fl p hpend hi ht hr hm _ ihm ih =>
    rw [(ih hk hp).1] at hpend
    cases hpend
  | erase hk' hr _ ih => exact ⟨(ih hk hp).1, (ih hk hp).2.trans (.cons rfl _)⟩
  | recovered hk' f f' hc hr hf hm hf' _ ihm ih =>
    obtain ⟨hp₁, hq₁⟩ := ih hk hp
    have hp₂ := (congrArg Central.pairPending (central_write sdk .clear _)).trans hp₁
    obtain ⟨hp₃, hq₃⟩ := ihm (by decide) hp₂
    refine ⟨?_, hq₁.trans ((Unended.write .clear _).trans hq₃)⟩
    rw [central_tune, (hf' _).pairPending]
    exact hp₃

/-! ## Start -/

/-- The server starts with the peer of the committed record. -/
lemma bonded_world (b : Build) (r : Reset) (trace : List RadioMark) : Bonded (r.world b trace) := by
  have hloaded := Board.loaded_loadSlots (Board.boot r.slot r.readOk)
  have hcommitted := Board.committed_loadSlots (Board.boot r.slot r.readOk)
  unfold Reset.world Board.storeLoad
  dsimp only
  generalize hboard : Board.loadSlots (Board.boot r.slot r.readOk) = board at hloaded ⊢
  have hstate : board.committed.state = board.storageState := by
    unfold Board.committed
    rw [Board.loadSlots_of_loaded hloaded]
  have hid : board.committed.peerId = get32 board.current 16 := by
    unfold Board.committed
    rw [Board.loadSlots_of_loaded hloaded]
  have hauto : board.committed.autoReconnect = (board.current.getD 21 0 != 0) := by
    unfold Board.committed
    rw [Board.loadSlots_of_loaded hloaded]
  by_cases hs : board.storageState = 1
  · have hne : (board.storageState != 1) = false := by
      rw [hs]
      rfl
    rw [hne, if_neg Bool.false_ne_true]
    refine ⟨hloaded, nofun, fun hun => ?_, fun hval => ?_⟩
    · have hzero : (get32 board.current 16 != 0) = false := hun
      rintro ⟨-, hnz⟩
      exact hnz (hid.trans (by simpa using hzero))
    · have hnz : (get32 board.current 16 != 0) = true := hval
      exact ⟨bne_iff_ne.mp hnz, .inl ⟨hstate.trans hs, hid, hauto⟩⟩
  · have hne : (board.storageState != 1) = true := by
      rw [bne_iff_ne]
      exact hs
    rw [hne, if_pos rfl]
    exact ⟨hloaded, nofun, fun _ hbad => hs (hstate.symm.trans hbad.1), nofun⟩

end RemoteBridge
