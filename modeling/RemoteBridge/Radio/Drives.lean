import RemoteBridge.Product.Bond
import RemoteBridge.Radio.Journal

/-!
# The moves of the radio

What `Moves` is for the server, `Drives` is for the server, the radio and the bond store together: every
function of `wch_central.c` is a composition of a small number of moves, each with the conditions under
which the code makes it, and the properties of the whole are proved by induction over them.

`Drives b sdk k w w'` collects what functions of level `k` can do:

* level 0: a reaction.  This is all that can happen inside a callback: links are given up, scans are
  stopped, a pairing is failed, and nothing is written;
* level 1: an SDK event, which may also connect, scan and block;
* level 2: a request, which may also write the journal of a pairing or a deletion, and the reconnect flag;
* level 3: the poll of a link, which may also bind a new peer;
* level 4: the poll of a recovery, which may also erase the bonds and end the recovery.

What only a request does is not part of the levels above it.

`Shifts` says what becomes of the statics that the properties are about; the other statics are free.
-/

namespace RemoteBridge

open World

/-! ## Changes of the statics -/

/-- The statics that the properties are about are the same. -/
structure Central.Same (c c' : Central) : Prop where
  connHandle : c'.connHandle = c.connHandle
  wcState : c'.wcState = c.wcState
  nextLink : c'.nextLink = c.nextLink
  radioFaulted : c'.radioFaulted = c.radioFaulted
  securityBlocked : c'.securityBlocked = c.securityBlocked
  pairPending : c'.pairPending = c.pairPending
  recovering : c'.recovering = c.recovering
  deleteReport : c'.deleteReport = c.deleteReport

lemma Central.Same.refl (c : Central) : c.Same c := ⟨rfl, rfl, rfl, rfl, rfl, rfl, rfl, rfl⟩

/-- What is owned is being given up. -/
inductive Demotes : WcState → WcState → Prop
  | scan : Demotes .scan .scanStopping
  | resolve : Demotes .resolve .scanStopping
  | connecting : Demotes .connecting .connectCancel
  | connected : Demotes .connected .disconnecting

/-- A link is owned. -/
def WcState.linked : WcState → Bool
  | .connected | .disconnecting => true
  | _ => false

/-- What functions of level `k` do to the statics. -/
inductive Shifts : Nat → Central → Central → Prop
  | free {k : Nat} {c c' : Central} (h : c.Same c') : Shifts k c c'
  | drop {k : Nat} {c c' : Central} (h : { c with nextLink := .none }.Same c') : Shifts k c c'
  | demote {k : Nat} {c c' : Central} (state : WcState) (hd : Demotes c.wcState state)
      (hn : c.wcState = .scan → c.nextLink = .none) (h : { c with wcState := state }.Same c') :
      Shifts k c c'
  | fault {k : Nat} {c c' : Central} (hk : 1 ≤ k) (h : { c with radioFaulted := true }.Same c') :
      Shifts k c c'
  | block {k : Nat} {c c' : Central} (hk : 1 ≤ k) (hs : c.wcState ≠ .resolve ∧ c.wcState ≠ .scanStopping)
      (h : { c with securityBlocked := true }.Same c') : Shifts k c c'
  | linkUp {k : Nat} {c c' : Central} (hk : 1 ≤ k) (handle : LinkHandle)
      (h : { c with connHandle := handle.val, wcState := .connected }.Same c') : Shifts k c c'
  | linkDown {k : Nat} {c c' : Central} (hk : 1 ≤ k)
      (h : { c with connHandle := connHandleInit, wcState := .idle }.Same c') : Shifts k c c'
  /-- A terminal event without a link. -/
  | rest {k : Nat} {c c' : Central} (hk : 1 ≤ k) (hs : c.wcState.linked = false)
      (h : { c with wcState := .idle }.Same c') : Shifts k c c'
  | connect {k : Nat} {c c' : Central} (hk : 1 ≤ k) (hs : c.wcState = .idle)
      (h : { c with wcState := .connecting }.Same c') : Shifts k c c'
  | scan {k : Nat} {c c' : Central} (hk : 1 ≤ k) (hs : c.wcState = .idle)
      (h : { c with wcState := .scan }.Same c') : Shifts k c c'
  | resolve {k : Nat} {c c' : Central} (hk : 1 ≤ k) (hs : c.wcState = .idle)
      (hb : c.securityBlocked = false) (h : { c with wcState := .resolve }.Same c') : Shifts k c c'
  | aim {k : Nat} {c c' : Central} (hk : 1 ≤ k) (next : NextLink) (hb : c.securityBlocked = false)
      (h : { c with nextLink := next }.Same c') : Shifts k c c'
  /-- A recovery is over. -/
  | endRecovery {k : Nat} {c c' : Central} (hk : 4 ≤ k)
      (h : { c with recovering := false }.Same c') : Shifts k c c'
  | unblock {k : Nat} {c c' : Central} (hk : 4 ≤ k)
      (h : { c with securityBlocked := false }.Same c') : Shifts k c c'

lemma Shifts.mono {k k' : Nat} {c c' : Central} (hkk : k ≤ k') (h : Shifts k c c') :
    Shifts k' c c' := by
  cases h with
  | free h => exact .free h
  | drop h => exact .drop h
  | demote s hd hn h => exact .demote s hd hn h
  | fault hk h => exact .fault (hk.trans hkk) h
  | block hk hs h => exact .block (hk.trans hkk) hs h
  | linkUp hk l h => exact .linkUp (hk.trans hkk) l h
  | linkDown hk h => exact .linkDown (hk.trans hkk) h
  | rest hk hs h => exact .rest (hk.trans hkk) hs h
  | connect hk hs h => exact .connect (hk.trans hkk) hs h
  | scan hk hs h => exact .scan (hk.trans hkk) hs h
  | resolve hk hs hb h => exact .resolve (hk.trans hkk) hs hb h
  | aim hk n hb h => exact .aim (hk.trans hkk) n hb h
  | endRecovery hk h => exact .endRecovery (hk.trans hkk) h
  | unblock hk h => exact .unblock (hk.trans hkk) h

/-! ## Moves -/

/-- The events that are recorded without a condition. -/
def RadioEv.plain : RadioEv → Bool
  | .asked (.startDiscovery _) | .asked (.establishLink _ _) | .asked .eraseAllBonds => false
  | .asked _ | .adapted _ | .linking _ => true
  | _ => false

/-- The radio owns nothing and may begin something. -/
structure Central.Free (c : Central) : Prop where
  unlinked : c.wcState.linked = false
  settled : c.wcState.waits = false
  sound : c.radioFaulted = false
  recovered : c.recovering = false

/-- The radio looks for a peer, or has seen the one to connect to. -/
def Central.seeks (c : Central) : Prop :=
  c.wcState = .resolve ∨ (c.wcState = .scanStopping ∧ c.nextLink ≠ .none)

/-- The server as it announces a link that is being connected, when it has left none. -/
def Server.linkReport (s : Server) : Server :=
  let s := s.notePairReady .connecting
  let fresh := s.device.connectionId == 0
  let state := if fresh && (s.device.freshConnection 0).1 == 0 then LinkState.error else .connecting
  let s := (if fresh then s.connect 0 else s).setLink state
  if state.down then s.linkDown else s

/-- The report of a link that is being connected may make the server call the backend for more than the
end of a search: it leaves a ready link, or it has no room for the event and its session ends with a
pairing or a voice source to take back. -/
def Server.interrupts (b : Build) (s : Server) : Bool :=
  let r := s.linkReport
  decide (s.device.linkState = .ready) ||
    (!r.ctlFits b r.deviceInfoTlv.length &&
      ((r.pairToCancel && !r.prompt.cancelRequested) || r.sourceToStop))

/-- Some report of a link that is being connected could be interrupted. -/
def Interrupted (b : Build) (trace : List RadioMark) : Prop :=
  ∃ m ∈ trace, ∃ s, m.ev = .linking s ∧ s.interrupts b = true

/-- The `n`-th call of `rb_pair_begin` is the last one, and neither answered nor taken on yet. -/
structure Unanswered (n : Nat) (r : Radio) : Prop where
  last : n = r.pairs
  owner : r.owner < n
  begun : ∃ l m rest, r.trace = l ++ m :: rest ∧ m.ev = .pairBegin n ∧ ∀ m' ∈ l, ∀ n', m'.ev ≠ .pairDone n'

/-- When a write to the bond store is attempted. -/
inductive Attempts (w : World Radio) : BondWrite → Prop
  | pair (hv : w.srv.device.peerValid = false) (hr : w.env.central.recovering = false) : Attempts w .pair
  | forget (hv : w.srv.device.peerValid = true) (ho : w.srv.forgetting) : Attempts w .forget
  | flag (hv : w.srv.device.peerValid = true) (enabled : Bool) :
      Attempts w (.save (w.flagged enabled).srv.device.peer)
  | clear (hr : w.env.central.recovering = true) : Attempts w .clear

variable (b : Build) (sdk : Sdk)

/-- The pairing of `w` is about to be bound: the record is staged and the server is told. -/
def World.binding (flags : UInt8) (w : World Radio) : World Radio :=
  (((w.stage flags).tune fun c => { c with pairPending := false }).unpend).act Server.pairReported

/-- What functions of level `k` can do. -/
inductive Drives : Nat → World Radio → World Radio → Prop
  | refl {k : Nat} (w : World Radio) : Drives k w w
  | act {k : Nat} {w₀ w : World Radio} (f : Server → Server) (hf : BondKept w.srv (f w.srv))
      (h : Drives k w₀ w) : Drives k w₀ (w.act f)
  | note {k : Nat} {w₀ w : World Radio} (e : Ev) (h : Drives k w₀ w) : Drives k w₀ (w.note e)
  | record {k : Nat} {w₀ w : World Radio} (e : RadioEv) (he : e.plain = true) (h : Drives k w₀ w) :
      Drives k w₀ (w.record e)
  | tune {k : Nat} {w₀ w : World Radio} (f : Central → Central)
      (hs : Shifts k w.env.central (f w.env.central)) (h : Drives k w₀ w) : Drives k w₀ (w.tune f)
  /-- A pairing fails. -/
  | fail {k : Nat} {w₀ w : World Radio} (hp : w.env.central.pairPending = true) (h : Drives k w₀ w) :
      Drives k w₀ (w.tune (Central.failPair w.env.storageState)).unpend
  /-- A deletion ends; it has failed, or the peer is gone. -/
  | closed {k : Nat} {w₀ w : World Radio} (hk : 1 ≤ k) (d : OpDone) (ho : w.srv.forgetting)
      (hd : d.uncertain = true ∨ w.srv.device.peerValid = false) (h : Drives k w₀ w) :
      Drives k w₀ ((w.act Server.endOp).complete d)
  | discover {k : Nat} {w₀ w : World Radio} (hk : 1 ≤ k) (activeScan : Bool)
      (hf : w.env.central.Free) (h : Drives k w₀ w) :
      Drives k w₀ (w.record (.asked (.startDiscovery activeScan)))
  | establish {k : Nat} {w₀ w : World Radio} (hk : 1 ≤ k) (type : UInt8) (addr : BdAddr)
      (hf : (w.env.central.Free ∧ w.env.central.securityBlocked = false) ∨
        Interrupted b w.env.trace) (h : Drives k w₀ w) :
      Drives k w₀ (w.record (.asked (.establishLink type addr)))
  | beginOp {k : Nat} {w₀ w : World Radio} (hk : k = 2) (kind : OpKind) (hd : Header)
      (deadlineMs : UInt32) (ho : w.srv.op.active = false) (h : Drives k w₀ w) :
      Drives k w₀ (w.beginOp kind hd deadlineMs)
  | countPair {k : Nat} {w₀ w : World Radio} (hk : k = 2) (h : Drives k w₀ w) : Drives k w₀ w.countPair
  /-- A pairing is refused. -/
  | refuse {k : Nat} {w₀ w : World Radio} (hk : k = 2) (n : Nat) (hn : Unanswered n w.env)
      (h : Drives k w₀ w) : Drives k w₀ (w.record (.pairDone n))
  /-- A write to the bond store fails. -/
  | unwritten {k : Nat} {w₀ w : World Radio} (hk : 2 ≤ k) (write : BondWrite) (ha : Attempts w write)
      (hr : (w.write sdk write).1 = false) (h : Drives k w₀ w) : Drives k w₀ (w.write sdk write).2
  /-- The journal of a pairing is open. -/
  | pend {k : Nat} {w₀ w : World Radio} (hk : k = 2) (n : Nat) (f : Central → Central)
      (ha : Attempts w .pair) (hr : (w.write sdk .pair).1 = true) (hn : Unanswered n w.env)
      (hf : ∀ c, Central.Same { c with pairPending := true, securityBlocked := false } (f c))
      (h : Drives k w₀ w) :
      Drives k w₀ { (w.write sdk .pair).2.tune f with
        env := { ((w.write sdk .pair).2.tune f).env with owner := n } }
  /-- The journal of a deletion is open. -/
  | forget {k : Nat} {w₀ w : World Radio} (hk : k = 2) (ha : Attempts w .forget)
      (hr : (w.write sdk .forget).1 = true) (h : Drives k w₀ w) :
      Drives k w₀ ((w.write sdk .forget).2.tune fun c => { c.recover with deleteReport := true })
  /-- The reconnect flag is saved. -/
  | flag {k : Nat} {w₀ w : World Radio} (hk : k = 2) (enabled : Bool)
      (hv : w.srv.device.peerValid = true)
      (hr : ((w.flagged enabled).write sdk (.save (w.flagged enabled).srv.device.peer)).1 = true)
      (h : Drives k w₀ w) :
      Drives k w₀ ((w.flagged enabled).write sdk (.save (w.flagged enabled).srv.device.peer)).2
  /-- A new peer is bound. -/
  | bind {k : Nat} {w₀ w : World Radio} (hk : 3 ≤ k) (flags : UInt8) (peer : PeerRecord)
      (hp : w.env.central.pairPending = true) (hi : peer = newPeer (Board.boardPeerCounter w.env.board))
      (hz : peer.peerId ≠ 0) (ht : w.env.central.identityType ≤ 1) (hr : ((w.binding flags).write sdk (.save peer)).1 = true)
      (h : Drives k w₀ w) :
      Drives k w₀ (((w.binding flags).write sdk (.save peer)).2.act (Server.setPeer peer))
  /-- A new peer cannot be bound: the pairing is rolled back, after whatever the server does then. -/
  | unbound {k : Nat} {w₀ w w' : World Radio} (hk : 3 ≤ k) (flags : UInt8) (peer : PeerRecord)
      (hp : w.env.central.pairPending = true) (hi : peer = newPeer (Board.boardPeerCounter w.env.board))
      (ht : w.env.central.identityType ≤ 1) (hr : ((w.binding flags).write sdk (.save peer)).1 = false)
      (hm : Drives 0 ((w.binding flags).write sdk (.save peer)).2 w') (h : Drives k w₀ w) :
      Drives k w₀ (w'.tune Central.recover)
  | erase {k : Nat} {w₀ w : World Radio} (hk : 4 ≤ k) (hr : w.env.central.recovering = true)
      (h : Drives k w₀ w) : Drives k w₀ (w.record (.asked .eraseAllBonds))
  /-- The bond is gone: the store is cleared, the server forgets its peer, and the recovery is over. -/
  | recovered {k : Nat} {w₀ w w' : World Radio} (hk : 4 ≤ k) (f : Server → Server)
      (f' : Central → Central) (hc : w.env.central.recovering = true)
      (hr : (w.write sdk .clear).1 = true)
      (hf : ∀ s, (f s).device.peerValid = false ∧ (f s).op = s.op)
      (hm : Drives 1 ((w.write sdk .clear).2.act f) w')
      (hf' : ∀ c, Central.Same { c with recovering := false, securityBlocked := false } (f' c))
      (h : Drives k w₀ w) : Drives k w₀ (w'.tune f')

namespace Drives

variable {b sdk} {k k' : Nat} {w₀ w w' : World Radio}

lemma trans (h₁ : Drives b sdk k w₀ w) (h₂ : Drives b sdk k w w') : Drives b sdk k w₀ w' := by
  induction h₂ with
  | refl => exact h₁
  | act f hf _ ih => exact .act f hf (ih h₁)
  | note e _ ih => exact .note e (ih h₁)
  | record e he _ ih => exact .record e he (ih h₁)
  | tune f hs _ ih => exact .tune f hs (ih h₁)
  | fail hp _ ih => exact .fail hp (ih h₁)
  | closed hk d ho hd _ ih => exact .closed hk d ho hd (ih h₁)
  | discover hk a hf _ ih => exact .discover hk a hf (ih h₁)
  | establish hk t a hf _ ih => exact .establish hk t a hf (ih h₁)
  | beginOp hk kind hd dl ho _ ih => exact .beginOp hk kind hd dl ho (ih h₁)
  | countPair hk _ ih => exact .countPair hk (ih h₁)
  | refuse hk n hn _ ih => exact .refuse hk n hn (ih h₁)
  | unwritten hk wr ha hr _ ih => exact .unwritten hk wr ha hr (ih h₁)
  | pend hk n f ha hr hn hf _ ih => exact .pend hk n f ha hr hn hf (ih h₁)
  | forget hk ha hr _ ih => exact .forget hk ha hr (ih h₁)
  | flag hk e hv hr _ ih => exact .flag hk e hv hr (ih h₁)
  | bind hk fl p hp hi hz ht hr _ ih => exact .bind hk fl p hp hi hz ht hr (ih h₁)
  | unbound hk fl p hp hi ht hr hm _ _ ih => exact .unbound hk fl p hp hi ht hr hm (ih h₁)
  | erase hk hr _ ih => exact .erase hk hr (ih h₁)
  | recovered hk f f' hc hr hf hm hf' _ _ ih => exact .recovered hk f f' hc hr hf hm hf' (ih h₁)

/-- What a reaction or an SDK event does, a request or the poll may do as well. -/
lemma mono (hk₁ : k ≤ 1) (hkk : k ≤ k') (h : Drives b sdk k w w') : Drives b sdk k' w w' := by
  induction h with
  | refl => exact .refl _
  | act f hf _ ih => exact .act f hf (ih hk₁ hkk)
  | note e _ ih => exact .note e (ih hk₁ hkk)
  | record e he _ ih => exact .record e he (ih hk₁ hkk)
  | tune f hs _ ih => exact .tune f (hs.mono hkk) (ih hk₁ hkk)
  | fail hp _ ih => exact .fail hp (ih hk₁ hkk)
  | closed hk d ho hd _ ih => exact .closed (hk.trans hkk) d ho hd (ih hk₁ hkk)
  | discover hk a hf _ ih => exact .discover (hk.trans hkk) a hf (ih hk₁ hkk)
  | establish hk t a hf _ ih => exact .establish (hk.trans hkk) t a hf (ih hk₁ hkk)
  | beginOp hk => omega
  | countPair hk => omega
  | refuse hk => omega
  | unwritten hk => omega
  | pend hk => omega
  | forget hk => omega
  | flag hk => omega
  | bind hk => omega
  | unbound hk => omega
  | erase hk => omega
  | recovered hk => omega

/-- A pairing is owned by a call that was made. -/
lemma owner_le (h : Drives b sdk k w w') (ho : w.env.owner ≤ w.env.pairs) :
    w'.env.owner ≤ w'.env.pairs := by
  induction h with
  | refl => exact ho
  | act f hf _ ih => exact ih ho
  | note e _ ih => exact ih ho
  | record e he _ ih => exact ih ho
  | tune f hs _ ih => exact ih ho
  | fail hp _ ih => exact ih ho
  | closed hk d hop hd _ ih => exact ih ho
  | discover hk a hf _ ih => exact ih ho
  | establish hk t a hf _ ih => exact ih ho
  | beginOp hk kind hd dl hop _ ih => exact ih ho
  | countPair hk _ ih => exact Nat.le_succ_of_le (ih ho)
  | refuse hk n hn _ ih => exact ih ho
  | unwritten hk wr ha hr _ ih =>
    rw [owner_write, pairs_write]
    exact ih ho
  | pend hk n f ha hr hn hf _ ih =>
    show n ≤ (World.write sdk .pair _).2.env.pairs
    rw [pairs_write]
    exact hn.last.le
  | forget hk ha hr _ ih =>
    show (World.write sdk .forget _).2.env.owner ≤ (World.write sdk .forget _).2.env.pairs
    rw [owner_write, pairs_write]
    exact ih ho
  | flag hk e hv hr _ ih =>
    rw [owner_write, pairs_write]
    exact ih ho
  | bind hk fl p hp hi hz ht hr _ ih =>
    show (World.write sdk (.save p) (World.binding fl _)).2.env.owner ≤
      (World.write sdk (.save p) (World.binding fl _)).2.env.pairs
    rw [owner_write, pairs_write]
    exact ih ho
  | unbound hk fl p hp hi ht hr hm _ ihm ih =>
    refine ihm ?_
    rw [owner_write, pairs_write]
    exact ih ho
  | erase hk hr _ ih => exact ih ho
  | recovered hk f f' hc hr hf hm hf' _ ihm ih =>
    refine ihm ?_
    show (World.write sdk .clear _).2.env.owner ≤ (World.write sdk .clear _).2.env.pairs
    rw [owner_write, pairs_write]
    exact ih ho

/-- A write adds to the trace. -/
lemma trace_write (write : BondWrite) (w : World Radio) :
    w.env.trace <:+ (w.write sdk write).2.env.trace := by
  unfold World.write Radio.write
  dsimp only
  split <;> split
  · exact ⟨[_, _], rfl⟩
  · exact ⟨[_], rfl⟩
  · exact ⟨[_], rfl⟩
  · exact List.suffix_rfl

/-- The trace only grows. -/
lemma trace (h : Drives b sdk k w w') : w.env.trace <:+ w'.env.trace := by
  induction h with
  | refl => exact List.suffix_rfl
  | act f hf _ ih => exact ih
  | note e _ ih => exact ih
  | record e he _ ih => exact ih.trans ⟨[_], rfl⟩
  | tune f hs _ ih => exact ih
  | fail hp _ ih => exact ih.trans ⟨[_, _], rfl⟩
  | closed hk d ho hd _ ih => exact ih
  | discover hk a hf _ ih => exact ih.trans ⟨[_], rfl⟩
  | establish hk t a hf _ ih => exact ih.trans ⟨[_], rfl⟩
  | beginOp hk kind hd dl ho _ ih => exact ih
  | countPair hk _ ih => exact ih.trans ⟨[_], rfl⟩
  | refuse hk n hn _ ih => exact ih.trans ⟨[_], rfl⟩
  | unwritten hk wr ha hr _ ih => exact ih.trans (trace_write wr _)
  | pend hk n f ha hr hn hf _ ih => exact ih.trans (trace_write .pair _)
  | forget hk ha hr _ ih => exact ih.trans (trace_write .forget _)
  | flag hk e hv hr _ ih => exact ih.trans (trace_write _ (World.flagged e _))
  | bind hk fl p hp hi hz ht hr _ ih =>
    refine ih.trans (List.IsSuffix.trans ?_ (trace_write (.save p) (World.binding fl _)))
    exact ⟨[_, _], rfl⟩
  | unbound hk fl p hp hi ht hr hm _ ihm ih =>
    refine ih.trans (List.IsSuffix.trans ?_ ((trace_write (.save p) (World.binding fl _)).trans ihm))
    exact ⟨[_, _], rfl⟩
  | erase hk hr _ ih => exact ih.trans ⟨[_], rfl⟩
  | recovered hk f f' hc hr hf hm hf' _ ihm ih =>
    exact ih.trans ((trace_write .clear _).trans ihm)

end Drives

end RemoteBridge
