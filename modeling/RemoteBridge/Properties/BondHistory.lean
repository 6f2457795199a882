import RemoteBridge.Framework.History
import RemoteBridge.Properties.BondLedger
import RemoteBridge.Properties.PeerAgreement

/-!
# The records of a board

What the records of the bond store say over a whole life, with its power cuts:

* a peer id is used for one pairing.  Two bound records with the journal of a pairing between them have
  different ids, the later one the larger; without one between them it is the same peer;
* a deletion stays.  After the record of a deletion no peer is bound without a new pairing, and the bonds of
  the SDK are erased only while the record is a deletion or an open pairing, as long as the reconnect flag
  is not saved while a deletion is pending.  The server does serve `SET_RECONNECT` then, and the flag is
  saved with the record of the peer that is being deleted.
-/

namespace RemoteBridge

open World Board

/-! ## What is said of the records -/

/-- The record binds a peer. -/
def Committed.Bound (c : Committed) : Prop := c.state = 1 ∧ c.peerId ≠ 0

/-- What the id of a bound record has to do with an older record `d`, with the records `l` between them: a
pairing, which opens its journal with a record of state 3, takes a larger id; without one the peer is the
same. -/
structure IdAfter (id : UInt32) (l : List Committed) (d : Committed) : Prop where
  larger : d.Bound → (∃ e ∈ l, e.state = 3) → d.peerId < id
  same : d.Bound → (∀ e ∈ l, e.state ≠ 3) → d.peerId = id

/-- The ids of successive pairings increase. -/
def IdsIncrease (H : List Committed) : Prop := Descends (fun c l d => c.Bound → IdAfter c.peerId l d) H

/-- After a deletion a peer is bound by a new pairing only. -/
def Restores (c : Committed) (l : List Committed) (d : Committed) : Prop :=
  c.Bound → d.state = 2 → ∃ e ∈ l, e.state = 3

/-- No deletion is undone. -/
def DeletionsStay (H : List Committed) : Prop := Descends Restores H

/-- No reconnect flag is saved while the committed record is the one of a deletion. -/
def Careful (H : List RadioMark) : Prop :=
  ∀ m ∈ H, ∀ peer, m.ev = .writing (.save peer) → m.board.committed.state ≠ 2

lemma Careful.of_append {l H : List RadioMark} (h : Careful (l ++ H)) : Careful H :=
  fun m hm => h m (List.mem_append_right l hm)

lemma Careful.of_cons {m : RadioMark} {H : List RadioMark} (h : Careful (m :: H)) : Careful H :=
  h.of_append (l := [m])

/-! ## Two ledgers -/

/-- The record `c` continues the ids of the history. -/
structure IdsLedger (H : List Committed) (c : Committed) : Prop where
  chain : IdsIncrease H
  next : c.Bound → Older (IdAfter c.peerId) H
  below : ∀ d ∈ H, d.Bound → d.peerId ≤ c.counter
  unused : c.state = 3 → ∀ d ∈ H, d.Bound → d.peerId < c.counter
  own : c.Bound → c.peerId ≤ c.counter

/-- The record `c` does not undo a deletion of the history. -/
structure DeletionLedger (H : List Committed) (c : Committed) : Prop where
  chain : DeletionsStay H
  next : c.Bound → Older (Restores c) H

section Ledgers

variable {H : List Committed} {c c' e : Committed} {id : UInt32}

lemma Committed.Bound.ne_three (h : c.Bound) : c.state ≠ 3 := by
  rw [h.1]
  decide

lemma Committed.Bound.ne_two (h : c.Bound) : c.state ≠ 2 := by
  rw [h.1]
  decide

/-- A record of another kind than the journal of a pairing in between. -/
lemma IdAfter.between {l : List Committed} (h : IdAfter id l c) (he : e.state ≠ 3) :
    IdAfter id (e :: l) c := by
  constructor
  · intro hb hex
    refine h.larger hb ?_
    obtain ⟨x, hx, hs⟩ := hex
    rcases List.mem_cons.mp hx with rfl | hx
    · exact absurd hs he
    · exact ⟨x, hx, hs⟩
  · intro hb hall
    exact h.same hb fun x hx => hall x (List.mem_cons_of_mem e hx)

/-- A record that is not bound, and no journal of a pairing, does not matter to the ids. -/
lemma older_idAfter_cons (he : e.state ≠ 3) (hid : e.Bound → e.peerId = id) (h : Older (IdAfter id) H) :
    Older (IdAfter id) (e :: H) := by
  refine older_cons.mpr ⟨⟨fun _ hex => ?_, fun hb _ => hid hb⟩, h.mono fun l d _ hd => hd.between he⟩
  obtain ⟨x, hx, -⟩ := hex
  exact absurd hx List.not_mem_nil

namespace IdsLedger

lemma entered (h : IdsLedger H c) : IdsLedger (c :: H) c := by
  refine ⟨descends_cons.mpr ⟨?_, h.chain⟩, fun hb => ?_, fun d hd hb => ?_, fun hs d hd hb => ?_, h.own⟩
  · intro l d l' heq hb
    exact h.next hb l d l' heq
  · exact older_idAfter_cons hb.ne_three (fun _ => rfl) (h.next hb)
  · rcases List.mem_cons.mp hd with rfl | hd
    · exact h.own hb
    · exact h.below d hd hb
  · rcases List.mem_cons.mp hd with rfl | hd
    · exact absurd hs hb.ne_three
    · exact h.unused hs d hd hb

lemma unread (h : IdsLedger H c) (he : e.state = 255) : IdsLedger (e :: H) c := by
  have hno : ¬ e.Bound := fun hb => by
    have hone := hb.1
    rw [he] at hone
    exact absurd hone (by decide)
  have hthree : e.state ≠ 3 := by
    rw [he]
    decide
  have hmem {d : Committed} (hd : d ∈ e :: H) (hb : d.Bound) : d ∈ H := by
    rcases List.mem_cons.mp hd with rfl | hd
    · exact absurd hb hno
    · exact hd
  refine ⟨descends_cons.mpr ⟨?_, h.chain⟩, fun hb => ?_, fun d hd hb => h.below d (hmem hd hb) hb,
    fun hs d hd hb => h.unused hs d (hmem hd hb) hb, h.own⟩
  · exact older_of_all fun l d _ hb => absurd hb hno
  · exact older_idAfter_cons hthree (fun hb' => absurd hb' hno) (h.next hb)

/-- A record without a peer whose counter goes on. -/
lemma unbound (h : IdsLedger H c) (hb : ¬ c'.Bound) (hc : c.counter ≤ c'.counter)
    (hs : c'.state = 3 → c.counter < c'.counter) : IdsLedger H c' := by
  refine ⟨h.chain, fun hb' => absurd hb' hb, fun d hd hd' => UInt32.le_trans (h.below d hd hd') hc,
    fun hs' d hd hd' => ?_, fun hb' => absurd hb' hb⟩
  exact UInt32.lt_of_le_of_lt (h.below d hd hd') (hs hs')

/-- A record of a peer that the history may go on with. -/
lemma bound (h : IdsLedger H c) (hn : Older (IdAfter c'.peerId) H) (hs : c'.state = 1)
    (hc : c'.counter = c.counter) (hid : c'.peerId ≤ c.counter) : IdsLedger H c' := by
  refine ⟨h.chain, fun _ => hn, fun d hd hb => ?_, fun hs' => ?_, fun _ => ?_⟩
  · rw [hc]
    exact h.below d hd hb
  · rw [hs] at hs'
    exact absurd hs' (by decide)
  · rw [hc]
    exact hid

end IdsLedger

/-- The journal of a pairing is the newest record: every older peer has a smaller id than its counter. -/
lemma IdsLedger.pairing (h : IdsLedger (c :: H) c) (hs : c.state = 3) :
    Older (IdAfter c.counter) (c :: H) := by
  have hno : ¬ c.Bound := fun hb => hb.ne_three hs
  refine older_cons.mpr ⟨⟨fun hb => absurd hb hno, fun hb => absurd hb hno⟩, ?_⟩
  refine older_of_all fun l d hd => ⟨fun hb _ => ?_, fun _ hall => ?_⟩
  · exact h.unused hs d (List.mem_cons_of_mem c hd) hb
  · exact absurd hs (hall c (List.mem_cons_self ..))

lemma Restores.between {l : List Committed} {d : Committed} (h : Restores c l d) :
    Restores c (e :: l) d := by
  intro hb hd
  obtain ⟨x, hx, hs⟩ := h hb hd
  exact ⟨x, List.mem_cons_of_mem e hx, hs⟩

/-- Every record but a deletion may be entered. -/
lemma older_restores_cons (he : e.state ≠ 2) (h : Older (Restores c) H) : Older (Restores c) (e :: H) :=
  older_cons.mpr ⟨fun _ hs => absurd hs he, h.mono fun _ _ _ hd => hd.between⟩

/-- The journal of a pairing is the newest record: no deletion is open. -/
lemma older_restores_pairing (he : e.state = 3) : Older (Restores c) (e :: H) := by
  refine older_cons.mpr ⟨fun _ hs => ?_, older_of_all fun l d _ _ _ => ?_⟩
  · rw [he] at hs
    exact absurd hs (by decide)
  · exact ⟨e, List.mem_cons_self .., he⟩

namespace DeletionLedger

lemma entered (h : DeletionLedger H c) : DeletionLedger (c :: H) c := by
  refine ⟨descends_cons.mpr ⟨fun l d l' heq hb => h.next hb l d l' heq hb, h.chain⟩, fun hb => ?_⟩
  exact older_restores_cons hb.ne_two (h.next hb)

lemma unread (h : DeletionLedger H c) (he : e.state = 255) : DeletionLedger (e :: H) c := by
  refine ⟨descends_cons.mpr ⟨older_of_all fun l d _ hb => ?_, h.chain⟩, fun hb => ?_⟩
  · have hone := hb.1
    rw [he] at hone
    exact absurd hone (by decide)
  · refine older_restores_cons ?_ (h.next hb)
    rw [he]
    decide

lemma unbound (h : DeletionLedger H c) (hb : ¬ c'.Bound) : DeletionLedger H c' :=
  ⟨h.chain, fun hb' => absurd hb' hb⟩

end DeletionLedger

end Ledgers

/-- What the records of a life are checked by: the ids, if the life begins with an empty EEPROM, and the
deletions, as long as it is careful. -/
structure Upholds (blank : Prop) (H : List RadioMark) (c : Committed) : Prop where
  ids : blank → IdsLedger (records H) c
  deletions : Careful H → DeletionLedger (records H) c

lemma ledger_upholds (blank : Prop) : Ledger (Upholds blank) where
  other hm h := by
    refine ⟨fun hb => ?_, fun hc => ?_⟩
    · rw [records_cons_of_other hm]
      exact h.ids hb
    · rw [records_cons_of_other hm]
      exact h.deletions hc.of_cons
  entered hm h := by
    refine ⟨fun hb => ?_, fun hc => ?_⟩
    · rw [records_cons hm]
      exact (h.ids hb).entered
    · rw [records_cons hm]
      exact (h.deletions hc.of_cons).entered
  unread hm hs h := by
    refine ⟨fun hb => ?_, fun hc => ?_⟩
    · rw [records_cons hm]
      exact (h.ids hb).unread hs
    · rw [records_cons hm]
      exact (h.deletions hc.of_cons).unread hs
  vacant {H c} hu hs := by
    have hno {d : Committed} (hd : d ∈ records H) : ¬ d.Bound := fun hb => (hu d hd).1 hb.1
    have hc : ¬ c.Bound := fun hb => hs hb.1
    refine ⟨fun _ => ⟨?_, fun hb => absurd hb hc, fun d hd hb => absurd hb (hno hd),
      fun _ d hd hb => absurd hb (hno hd), fun hb => absurd hb hc⟩, fun _ => ⟨?_, fun hb => absurd hb hc⟩⟩
    · exact descends_of_all fun d hd l _ hb => absurd hb (hno hd)
    · exact descends_of_all fun d hd l _ hb => absurd hb (hno hd)

/-! ## One world -/

/-- The bonds may be erased: a deletion or a pairing is open. -/
def Committed.Erasable (c : Committed) : Prop := c.state = 2 ∨ c.state = 3

/-- The bonds were erased while this was allowed, whenever the history before was careful. -/
def ErasesAllowed (H : List RadioMark) : Prop :=
  ∀ l m t, H = l ++ m :: t → m.ev = .asked .eraseAllBonds → Careful t → m.board.committed.Erasable

lemma ErasesAllowed.cons {H : List RadioMark} {m : RadioMark} (h : ErasesAllowed H)
    (hm : m.ev = .asked .eraseAllBonds → Careful H → m.board.committed.Erasable) :
    ErasesAllowed (m :: H) := by
  intro l m' t heq
  cases l with
  | nil =>
    obtain ⟨rfl, rfl⟩ := List.cons.inj heq
    exact hm
  | cons a l => exact h l m' t (List.cons.inj heq).2

/-- The events that write nothing and erase nothing. -/
def RadioEv.still : RadioEv → Bool
  | .writing _ | .committed _ | .lost | .asked .eraseAllBonds => false
  | _ => true

/-- What a world is to its history. -/
structure Lived (blank : Prop) (past : List RadioMark) (w : World Radio) : Prop where
  ledger : Ledgered (Upholds blank) past w.env
  latest : ∃ rest, records (w.env.trace ++ past) = w.env.board.committed :: rest
  peer : blank → w.srv.device.peerValid = true →
    w.srv.device.peer.peerId ≤ w.env.board.committed.counter ∧
      Older (IdAfter w.srv.device.peer.peerId) (records (w.env.trace ++ past))
  recovery : Careful (w.env.trace ++ past) → w.env.central.recovering = true →
    w.env.board.committed.Erasable
  erases : ErasesAllowed (w.env.trace ++ past)

/-- A step leaves the board and the peer alone, and begins no recovery without a journal for it. -/
structure Spares (w w' : World Radio) : Prop where
  board : w'.env.board = w.env.board
  valid : w'.srv.device.peerValid = w.srv.device.peerValid
  id : w'.srv.device.peer.peerId = w.srv.device.peer.peerId
  recovering : w'.env.central.recovering = true →
    w.env.central.recovering = true ∨ w.env.board.committed.Erasable

variable {b : Build} {sdk : Sdk} {k : Nat} {w w' : World Radio} {blank : Prop} {past : List RadioMark}

lemma still_of_plain {e : RadioEv} (he : e.plain = true) : e.still = true := by
  cases e with
  | asked call =>
    cases call with
    | eraseAllBonds => cases he
    | _ => rfl
  | linking s => rfl
  | adapted call => rfl
  | pairBegin n => rfl
  | pairDone n => rfl
  | unpended c => rfl
  | writing wr => cases he
  | committed wr => cases he
  | lost => cases he

lemma historic_of_still {e : RadioEv} (he : e.still = true) : e.historic = false := by
  cases e with
  | committed wr => cases he
  | lost => cases he
  | _ => rfl

namespace Lived

lemma keep (h : Lived blank past w) (ht : w'.env.trace = w.env.trace) (hs : Spares w w') :
    Lived blank past w' := by
  refine ⟨h.ledger.onto ht ?_, ?_, fun hb hv => ?_, fun hc hr => ?_, ?_⟩
  · rw [hs.board]
    exact h.ledger.board
  · rw [ht, hs.board]
    exact h.latest
  · rw [ht, hs.board, hs.id]
    exact h.peer hb (hs.valid.symm.trans hv)
  · rw [ht] at hc
    rw [hs.board]
    exact (hs.recovering hr).elim (h.recovery hc) id
  · rw [ht]
    exact h.erases

/-- A mark that matters to nothing. -/
lemma mark (h : Lived blank past w) {m : RadioMark} (ht : w'.env.trace = m :: w.env.trace)
    (hm : m.board = w.env.board) (he : m.ev.still = true) (hs : Spares w w') : Lived blank past w' := by
  have hist := historic_of_still he
  have hnew : w'.env.trace ++ past = m :: (w.env.trace ++ past) := by rw [ht, List.cons_append]
  have hrecords : records (w'.env.trace ++ past) = records (w.env.trace ++ past) := by
    rw [hnew, records_cons_of_other hist]
  refine ⟨h.ledger.mark (ledger_upholds blank) ht hs.board hm hist fun write hw => ?_, ?_,
    fun hb hv => ?_, fun hc hr => ?_, ?_⟩
  · rw [hw] at he
    cases he
  · rw [hrecords, hs.board]
    exact h.latest
  · rw [hrecords, hs.board, hs.id]
    exact h.peer hb (hs.valid.symm.trans hv)
  · rw [hnew] at hc
    rw [hs.board]
    exact (hs.recovering hr).elim (h.recovery hc.of_cons) id
  · rw [hnew]
    refine h.erases.cons fun hm' => ?_
    rw [hm'] at he
    cases he

lemma marks {l : List RadioMark} (h : Lived blank past w) (ht : w'.env.trace = l ++ w.env.trace)
    (hl : ∀ m ∈ l, m.ev.still = true ∧ m.board = w.env.board) (hs : Spares w w') :
    Lived blank past w' := by
  induction l generalizing w' with
  | nil => exact h.keep ht hs
  | cons m l ih =>
    have hrest : Lived blank past { w' with env := { w'.env with trace := l ++ w.env.trace } } :=
      ih rfl (fun m' hm' => hl m' (List.mem_cons_of_mem m hm'))
        ⟨hs.board, hs.valid, hs.id, hs.recovering⟩
    obtain ⟨he, hm⟩ := hl m (List.mem_cons_self ..)
    exact hrest.mark ht (hm.trans hs.board.symm) he ⟨rfl, rfl, rfl, .inl⟩

lemma record (h : Lived blank past w) {e : RadioEv} (he : e.still = true) : Lived blank past (w.record e) :=
  h.mark rfl rfl he ⟨rfl, rfl, rfl, .inl⟩

/-- The record of a board that is about to write. -/
lemma current (h : Lived blank past w) {write : BondWrite} (hr : write.reaches w.env.board = true) :
    Upholds blank (w.env.trace ++ past) w.env.board.committed ∧ write.Admits w.env.board.committed := by
  have hl := h.ledger.board.isLoaded
  obtain ⟨-, hstate, hadmits⟩ := BondWrite.committed_done hl hr
  refine ⟨h.ledger.board.committed (ledger_upholds blank) fun hs => hstate ?_, hadmits⟩
  rw [committed_of_loaded hl]
  exact hs

end Lived

/-- The history with the mark of a write that is about to begin. -/
def World.attempted (write : BondWrite) (past : List RadioMark) (w : World Radio) : List RadioMark :=
  { ev := .writing write, central := w.env.central, board := w.env.board } :: (w.env.trace ++ past)

/-- The record of a write may be found by a start. -/
def Allowed (blank : Prop) (past : List RadioMark) (write : BondWrite) (w : World Radio) : Prop :=
  write.reaches w.env.board = true →
    Upholds blank (w.attempted write past) (write.commits w.env.board.committed)

@[simp] lemma records_attempted (write : BondWrite) (past : List RadioMark) (w : World Radio) :
    records (w.attempted write past) = records (w.env.trace ++ past) :=
  records_cons_of_other rfl

/-- Records without a peer are always allowed. -/
lemma Lived.allowed_unbound (h : Lived blank past w) {write : BondWrite}
    (hb : ¬ (write.commits w.env.board.committed).Bound)
    (hc : write.Admits w.env.board.committed →
      w.env.board.committed.counter ≤ (write.commits w.env.board.committed).counter ∧
      ((write.commits w.env.board.committed).state = 3 →
        w.env.board.committed.counter < (write.commits w.env.board.committed).counter)) :
    Allowed blank past write w := by
  intro hr
  obtain ⟨hnow, hadmits⟩ := h.current hr
  obtain ⟨hle, hlt⟩ := hc hadmits
  refine ⟨fun hblank => ?_, fun hcare => ?_⟩
  · rw [records_attempted]
    exact (hnow.ids hblank).unbound hb hle hlt
  · rw [records_attempted]
    exact (hnow.deletions hcare.of_cons).unbound hb

lemma lt_add_one_of_ne {n : UInt32} (h : n ≠ 0xffffffff) : n < n + 1 := by
  have hne : n.toNat ≠ 4294967295 := fun hn => h (UInt32.toNat_inj.mp hn)
  have hone : (1 : UInt32).toNat = 1 := rfl
  have hlt := n.toNat_lt
  rw [UInt32.lt_iff_toNat_lt, UInt32.toNat_add]
  omega

/-- Every write that is attempted is allowed: the reconnect flag because the history is careful, or the
server's peer is the committed one. -/
lemma Lived.allowed (h : Lived blank past w) (hb : Bonded w) {write : BondWrite} (ha : Attempts w write) :
    Allowed blank past write w := by
  cases ha with
  | pair hv hr =>
    refine h.allowed_unbound (fun hbound => hbound.ne_three rfl) fun hadmits => ?_
    have hlt := lt_add_one_of_ne hadmits.2
    exact ⟨UInt32.le_of_lt hlt, fun _ => hlt⟩
  | forget hv ho =>
    exact h.allowed_unbound (fun hbound => hbound.ne_two rfl) fun _ =>
      ⟨UInt32.le_refl _, fun hs => by cases hs⟩
  | clear hr =>
    exact h.allowed_unbound (fun hbound => hbound.2 rfl) fun _ =>
      ⟨UInt32.le_refl _, fun hs => by cases hs⟩
  | flag hv enabled =>
    intro hr
    obtain ⟨hnow, -⟩ := h.current hr
    refine ⟨fun hblank => ?_, fun hcare => ?_⟩
    · obtain ⟨hle, hnext⟩ := h.peer hblank hv
      rw [records_attempted]
      exact (hnow.ids hblank).bound hnext rfl rfl hle
    · have hstate := hcare _ (List.mem_cons_self ..) _ rfl
      obtain ⟨hid, hbinds | ⟨hdeleted, -⟩⟩ := hb.bound hv
      · have hold := hnow.deletions hcare.of_cons
        rw [records_attempted]
        have hbound : w.env.board.committed.Bound := ⟨hbinds.state, by rw [hbinds.id]; exact hid⟩
        exact ⟨hold.chain, fun _ => (hold.next hbound).mono fun l d _ hd _ => hd hbound⟩
      · exact absurd hdeleted hstate

/-! ## Steps -/

/-- The trace after a write that has succeeded. -/
lemma trace_written {write : BondWrite} (hl : w.env.board.loaded = true)
    (hr : (w.write sdk write).1 = true) :
    (w.write sdk write).2.env.trace =
      { ev := .committed write, central := w.env.central, board := (w.write sdk write).2.env.board } ::
      { ev := .writing write, central := w.env.central, board := w.env.board } :: w.env.trace := by
  have hreach : write.reaches w.env.board = true := by
    obtain ⟨-, b', hrun, -⟩ | ⟨hreach, -⟩ := write.run_cases hl (sdk.eeprom write w.env)
    · have hfalse : (write.run w.env.board (sdk.eeprom write w.env)).1 = true := hr
      rw [hrun] at hfalse
      cases hfalse
    · exact hreach
  have hrun : (write.run w.env.board (sdk.eeprom write w.env)).1 = true := hr
  unfold World.write Radio.write
  dsimp only
  rw [hreach, hrun]
  rfl

/-- The trace after a write that has failed. -/
lemma trace_unwritten {write : BondWrite} (hr : (w.write sdk write).1 = false) :
    (w.write sdk write).2.env.trace = w.env.trace ∨
    (w.write sdk write).2.env.trace =
      { ev := .writing write, central := w.env.central, board := w.env.board } :: w.env.trace := by
  have hrun : (write.run w.env.board (sdk.eeprom write w.env)).1 = false := hr
  unfold World.write Radio.write
  dsimp only
  rw [hrun]
  cases write.reaches w.env.board with
  | true => exact .inr rfl
  | false => exact .inl rfl

namespace Lived

/-- A write fails. -/
lemma unwritten (h : Lived blank past w) (hd : sdk.Detects) {write : BondWrite}
    (ha : Allowed blank past write w) (hr : (w.write sdk write).1 = false) :
    Lived blank past (w.write sdk write).2 := by
  have hledger := h.ledger.write (ledger_upholds blank) hd write ha
  have hsame := committed_write_failed h.ledger.board.isLoaded hr
  have hrec : (w.write sdk write).2.env.central.recovering = w.env.central.recovering := by
    rw [central_write]
  rcases trace_unwritten hr with ht | ht
  · refine ⟨hledger, ?_, ?_, ?_, ?_⟩
    · rw [ht, hsame]
      exact h.latest
    · rw [ht, hsame]
      exact h.peer
    · rw [ht, hsame, hrec]
      exact h.recovery
    · rw [ht]
      exact h.erases
  · have hrecords : records ((w.write sdk write).2.env.trace ++ past) = records (w.env.trace ++ past) := by
      rw [ht, List.cons_append, records_cons_of_other rfl]
    refine ⟨hledger, ?_, ?_, ?_, ?_⟩
    · rw [hrecords, hsame]
      exact h.latest
    · rw [hrecords, hsame]
      exact h.peer
    · rw [ht, hsame, hrec]
      exact fun hc => h.recovery hc.of_cons
    · rw [ht]
      exact h.erases.cons fun he => by cases he

/-- A write succeeds; `w'` is a world after it. -/
lemma written (h : Lived blank past w) (hd : sdk.Detects) {write : BondWrite}
    (ha : Allowed blank past write w) (hr : (w.write sdk write).1 = true)
    (henv : w'.env.trace = (w.write sdk write).2.env.trace ∧
      w'.env.board = (w.write sdk write).2.env.board)
    (hpeer : blank → w'.srv.device.peerValid = true →
      w'.srv.device.peer.peerId ≤ (write.commits w.env.board.committed).counter ∧
        Older (IdAfter w'.srv.device.peer.peerId)
          (write.commits w.env.board.committed :: records (w.env.trace ++ past)))
    (hrec : Careful (w.attempted write past) → w'.env.central.recovering = true →
      (write.commits w.env.board.committed).Erasable) : Lived blank past w' := by
  obtain ⟨ht, hb⟩ := henv
  have hl := h.ledger.board.isLoaded
  have hledger := h.ledger.write (ledger_upholds blank) hd write ha
  obtain ⟨hnew, -⟩ := committed_write_done hl hr
  have hwritten := trace_written hl hr
  have hrecords : records (w'.env.trace ++ past) =
      write.commits w.env.board.committed :: records (w.env.trace ++ past) := by
    rw [ht, hwritten, List.cons_append, List.cons_append, records_cons rfl, records_cons_of_other rfl]
    rw [hnew]
  refine ⟨hledger.onto ht ?_, ⟨records (w.env.trace ++ past), ?_⟩, fun hblank hv => ?_,
    fun hc hrecovering => ?_, ?_⟩
  · rw [hb]
    exact hledger.board
  · rw [hrecords, hb, hnew]
  · rw [hrecords, hb, hnew]
    exact hpeer hblank hv
  · rw [ht, hwritten] at hc
    rw [hb, hnew]
    exact hrec hc.of_cons hrecovering
  · rw [ht, hwritten]
    exact (h.erases.cons fun he => by cases he).cons fun he => by cases he

/-- A new peer is about to be bound. -/
lemma binding (h : Lived blank past w) (flags : UInt8) (ht : w.env.central.identityType ≤ 1) :
    Lived blank past (w.binding flags) := by
  have hl := h.ledger.board.isLoaded
  have hstage : Lived blank past (w.stage flags) := by
    have hcommitted := committed_stage flags w
    have hboard : (w.stage flags).env.board = { w.env.board with
        stagedAddr := w.env.central.identity, stagedType := w.env.central.identityType,
        stagedValid := true, stagedHidFlags := if flags ≤ 3 then flags else 255 } := by
      show (w.env.board.boardAddrStage _ _).boardHidFlagsStage flags = _
      unfold boardHidFlagsStage boardAddrStage
      rw [loadSlots_of_loaded hl]
      rw [loadSlots_of_loaded (by exact hl)]
    refine ⟨h.ledger.onto rfl ?_, ?_, ?_, ?_, h.erases⟩
    · rw [hboard]
      exact h.ledger.board.restage _ _ _ ht
    · rw [hcommitted]
      exact h.latest
    · rw [hcommitted]
      exact h.peer
    · rw [hcommitted]
      exact h.recovery
  refine hstage.marks (l := [_, _]) rfl (fun m hm => ?_) ⟨rfl, rfl, rfl, .inl⟩
  rcases List.mem_cons.mp hm with rfl | hm
  · exact ⟨rfl, rfl⟩
  · obtain rfl := List.mem_singleton.mp hm
    exact ⟨rfl, rfl⟩

end Lived

/-- The journal of a pairing is open: every older peer has a smaller id. -/
lemma Lived.pairing (h : Lived blank past w) (hs : w.env.board.committed.state = 3) (hb : blank) :
    Older (IdAfter w.env.board.committed.counter) (records (w.env.trace ++ past)) := by
  have hstate : w.env.board.storageState ≠ 255 := by
    intro hs'
    rw [committed_of_loaded h.ledger.board.isLoaded] at hs
    exact absurd (hs.symm.trans hs') (by decide)
  have hids := (h.ledger.board.committed (ledger_upholds blank) hstate).ids hb
  obtain ⟨rest, hrest⟩ := h.latest
  rw [hrest] at hids ⊢
  exact hids.pairing hs

/-- The record of the new peer is allowed then. -/
lemma Lived.allowed_bind (h : Lived blank past w) {peer : PeerRecord}
    (hs : w.env.board.committed.state = 3) (hid : peer.peerId = w.env.board.committed.counter) :
    Allowed blank past (.save peer) w := by
  intro hr
  obtain ⟨hnow, -⟩ := h.current hr
  refine ⟨fun hblank => ?_, fun hcare => ?_⟩
  · rw [records_attempted]
    refine (hnow.ids hblank).bound ?_ rfl rfl (UInt32.le_of_eq hid)
    show Older (IdAfter peer.peerId) _
    rw [hid]
    exact h.pairing hs hblank
  · obtain ⟨rest, hrest⟩ := h.latest
    rw [records_attempted]
    refine ⟨(hnow.deletions hcare.of_cons).chain, fun _ => ?_⟩
    rw [hrest]
    exact older_restores_pairing hs

/-- The bonds are erased. -/
lemma Lived.erase (h : Lived blank past w) (hr : w.env.central.recovering = true) :
    Lived blank past (w.record (.asked .eraseAllBonds)) := by
  have hrecords : records ((w.record (.asked .eraseAllBonds)).env.trace ++ past) =
      records (w.env.trace ++ past) := records_cons_of_other rfl
  refine ⟨h.ledger.mark (ledger_upholds blank) rfl rfl rfl rfl fun write hw => ?_, ?_, ?_,
    fun hc => h.recovery hc.of_cons, h.erases.cons fun _ hc => h.recovery hc hr⟩
  · cases hw
  · rw [hrecords]
    exact h.latest
  · rw [hrecords]
    exact h.peer

/-- What reactions and events add to the trace. -/
lemma Drives.still (h : Drives b sdk k w w') (hk : k ≤ 1) : ∃ l, w'.env.trace = l ++ w.env.trace ∧
    ∀ m ∈ l, m.ev.still = true ∧ m.board = w.env.board := by
  have hcons {v : World Radio} (hv : ∃ l, v.env.trace = l ++ w.env.trace ∧
      ∀ m ∈ l, m.ev.still = true ∧ m.board = w.env.board) {e : RadioEv} (c : Central)
      (he : e.still = true) (hb : v.env.board = w.env.board) :
      ∃ l, { ev := e, central := c, board := v.env.board } :: v.env.trace = l ++ w.env.trace ∧
        ∀ m ∈ l, m.ev.still = true ∧ m.board = w.env.board := by
    obtain ⟨l, ht, hl⟩ := hv
    refine ⟨{ ev := e, central := c, board := v.env.board } :: l, by rw [ht, List.cons_append],
      fun m hm => ?_⟩
    rcases List.mem_cons.mp hm with rfl | hm
    · exact ⟨he, hb⟩
    · exact hl m hm
  induction h with
  | refl => exact ⟨[], rfl, fun m hm => absurd hm List.not_mem_nil⟩
  | act f hf _ ih => exact ih hk hcons
  | note e _ ih => exact ih hk hcons
  | record e he hd ih => exact hcons (ih hk hcons) _ (still_of_plain he) (hd.board_eq hk)
  | tune f hs _ ih => exact ih hk hcons
  | @fail k w₀ w₁ hp hd ih =>
    have hfirst := hcons (ih hk hcons) (e := .unpended (boardPeerCounter w₁.env.board))
      (Central.failPair w₁.env.storageState w₁.env.central) rfl (hd.board_eq hk)
    exact hcons (v := (w₁.tune (Central.failPair w₁.env.storageState)).record (.unpended _)) hfirst _
      rfl (hd.board_eq hk)
  | closed hk' d ho hd _ ih => exact ih hk hcons
  | discover hk' a hf hd ih => exact hcons (ih hk hcons) _ rfl (hd.board_eq hk)
  | establish hk' t a hf hd ih => exact hcons (ih hk hcons) _ rfl (hd.board_eq hk)
  | beginOp hk' => omega
  | countPair hk' => omega
  | refuse hk' => omega
  | unwritten hk' => omega
  | pend hk' => omega
  | forget hk' => omega
  | flag hk' => omega
  | bind hk' => omega
  | unbound hk' => omega
  | erase hk' => omega
  | recovered hk' => omega

/-- Reactions and events leave the peer alone. -/
lemma Drives.peer_eq (h : Drives b sdk k w w') (hk : k ≤ 1) :
    w'.srv.device.peer = w.srv.device.peer ∧ w'.srv.device.peerValid = w.srv.device.peerValid := by
  induction h with
  | refl => exact ⟨rfl, rfl⟩
  | act f hf _ ih => exact ⟨hf.peer.trans (ih hk).1, hf.valid.trans (ih hk).2⟩
  | note e _ ih => exact ih hk
  | record e he _ ih => exact ih hk
  | tune f hs _ ih => exact ih hk
  | fail hp _ ih => exact ih hk
  | closed hk' d ho hd _ ih => exact ih hk
  | discover hk' a hf _ ih => exact ih hk
  | establish hk' t a hf _ ih => exact ih hk
  | beginOp hk' => omega
  | countPair hk' => omega
  | refuse hk' => omega
  | unwritten hk' => omega
  | pend hk' => omega
  | forget hk' => omega
  | flag hk' => omega
  | bind hk' => omega
  | unbound hk' => omega
  | erase hk' => omega
  | recovered hk' => omega

/-- Every function of the firmware keeps what a world is to its history. -/
lemma Drives.lived (h : Drives b sdk k w w') (hd : 2 ≤ k → sdk.Detects) (hbond : Bonded w)
    (hw : Lived blank past w) : Lived blank past w' := by
  induction h with
  | refl => exact hw
  | act f hf _ ih =>
    exact (ih hd hbond hw).keep rfl ⟨rfl, hf.valid, congrArg PeerRecord.peerId hf.peer, .inl⟩
  | note e _ ih => exact (ih hd hbond hw).keep rfl ⟨rfl, rfl, rfl, .inl⟩
  | record e he _ ih => exact (ih hd hbond hw).record (still_of_plain he)
  | tune f hs _ ih =>
    refine (ih hd hbond hw).keep rfl ⟨rfl, rfl, rfl, fun hr => .inl ?_⟩
    rcases hs.recovering with hsame | ⟨-, hoff⟩
    · exact hsame.symm.trans hr
    · exact absurd (hoff.symm.trans hr) Bool.false_ne_true
  | @fail k w₀ w₁ hp _ ih =>
    have hfailed : Lived blank past (w₁.tune (Central.failPair w₁.env.storageState)) :=
      (ih hd hbond hw).keep rfl ⟨rfl, rfl, rfl, fun hr => .inr (.inr (eq_of_beq hr))⟩
    exact (hfailed.record rfl).record rfl
  | closed hk d ho hdone _ ih => exact (ih hd hbond hw).keep rfl ⟨rfl, rfl, rfl, .inl⟩
  | discover hk a hf _ ih => exact (ih hd hbond hw).record rfl
  | establish hk t a hf _ ih => exact (ih hd hbond hw).record rfl
  | beginOp hk kind hdr dl ho _ ih => exact (ih hd hbond hw).keep rfl ⟨rfl, rfl, rfl, .inl⟩
  | countPair hk _ ih => exact (ih hd hbond hw).mark rfl rfl rfl ⟨rfl, rfl, rfl, .inl⟩
  | refuse hk n hn _ ih => exact (ih hd hbond hw).record rfl
  | unwritten hk wr ha hr hsub ih =>
    have hlived := ih hd hbond hw
    exact hlived.unwritten (hd hk) (hlived.allowed (hsub.bonded hbond) ha) hr
  | @pend k w₀ w₁ hk n f ha hr hn hf hsub ih =>
    have hlived := ih hd hbond hw
    obtain ⟨hv, hrec⟩ := id ha
    refine hlived.written (hd hk.ge) (hlived.allowed (hsub.bonded hbond) ha) hr ⟨rfl, rfl⟩
      (fun _ hval => ?_) fun _ hrec' => ?_
    · have hval' : w₁.srv.device.peerValid = true := hval
      rw [hv] at hval'
      cases hval'
    · have hkept : (f (w₁.write sdk .pair).2.env.central).recovering = true := hrec'
      rw [(hf _).recovering, central_write] at hkept
      exact absurd (hrec.symm.trans hkept) Bool.false_ne_true
  | @forget k w₀ w₁ hk ha hr hsub ih =>
    have hlived := ih hd hbond hw
    refine hlived.written (hd hk.ge) (hlived.allowed (hsub.bonded hbond) ha) hr ⟨rfl, rfl⟩
      (fun hb hval => ?_) fun _ _ => .inl rfl
    obtain ⟨hle, hold⟩ := hlived.peer hb hval
    have hthree : (BondWrite.forget.commits w₁.env.board.committed).state ≠ 3 := fun hs => by cases hs
    exact ⟨hle, older_idAfter_cons hthree (fun hbound => absurd rfl hbound.ne_two) hold⟩
  | @flag k w₀ w₁ hk e hv hr hsub ih =>
    have hlived := ih hd hbond hw
    have hmid := hsub.bonded hbond
    have hflagged : Lived blank past (w₁.flagged e) := hlived.keep rfl ⟨rfl, rfl, rfl, .inl⟩
    refine hflagged.written (hd hk.ge) (hlived.allowed hmid (.flag hv e)) hr ⟨rfl, rfl⟩
      (fun hb hval => ?_) fun hc hrec => ?_
    · obtain ⟨hle, hold⟩ := hlived.peer hb hv
      have hthree : ((BondWrite.save (w₁.flagged e).srv.device.peer).commits
          w₁.env.board.committed).state ≠ 3 := fun hs => by cases hs
      exact ⟨hle, older_idAfter_cons hthree (fun _ => rfl) hold⟩
    · -- a recovery is in progress, so the record is a deletion's: the flag was not to be saved
      have hstate := hc _ (List.mem_cons_self ..) _ rfl
      have hrec' : (w₁.write sdk (.save (w₁.flagged e).srv.device.peer)).2.env.central.recovering = true :=
        hrec
      rw [central_write] at hrec'
      have hopen := (hlived.recovery hc.of_cons hrec').resolve_left hstate
      rcases (hmid.bound hv).2 with hbinds | ⟨hdeleted, -⟩
      · exact absurd (hopen.symm.trans hbinds.state) (by decide)
      · exact absurd hdeleted hstate
  | @bind k w₀ w₁ hk fl p hp hi hz ht hr hsub ih =>
    have hmid := hsub.bonded hbond
    have hbinding := (ih hd hbond hw).binding fl ht
    have hsame : (w₁.binding fl).env.board.committed = w₁.env.board.committed := committed_stage fl w₁
    have hstate : (w₁.binding fl).env.board.committed.state = 3 := by
      rw [hsame]
      exact (hmid.pending hp).state
    have hid : p.peerId = (w₁.binding fl).env.board.committed.counter := by
      rw [hsame, hi]
      exact (boardPeerCounter_loadSlots _).symm
    refine hbinding.written (hd (by omega)) (hbinding.allowed_bind hstate hid) hr ⟨rfl, rfl⟩
      (fun hb _ => ⟨UInt32.le_of_eq hid, ?_⟩) fun _ hrec => ?_
    · have hthree : ((BondWrite.save p).commits (w₁.binding fl).env.board.committed).state ≠ 3 :=
        fun hs => by cases hs
      refine older_idAfter_cons hthree (fun _ => rfl) ?_
      show Older (IdAfter p.peerId) _
      rw [hid]
      exact hbinding.pairing hstate hb
    · have hrec' : ((w₁.binding fl).write sdk (.save p)).2.env.central.recovering = true := hrec
      rw [central_write] at hrec'
      exact absurd ((hmid.pending hp).alone.symm.trans hrec') Bool.false_ne_true
  | @unbound k w₀ w₁ w₂ hk fl p hp hi ht hr hm hsub ihm ih =>
    have hmid := hsub.bonded hbond
    have hbinding := (ih hd hbond hw).binding fl ht
    have hsame : (w₁.binding fl).env.board.committed = w₁.env.board.committed := committed_stage fl w₁
    have hstate : (w₁.binding fl).env.board.committed.state = 3 := by
      rw [hsame]
      exact (hmid.pending hp).state
    have hid : p.peerId = (w₁.binding fl).env.board.committed.counter := by
      rw [hsame, hi]
      exact (boardPeerCounter_loadSlots _).symm
    have hfailed := hbinding.unwritten (hd (by omega)) (hbinding.allowed_bind hstate hid) hr
    have hafter := ihm (fun hk => by omega) ((hmid.binding fl).unwritten hr) hfailed
    refine hafter.keep rfl ⟨rfl, rfl, rfl, fun _ => .inr (.inr ?_)⟩
    rw [hm.board_eq (Nat.zero_le 1), committed_write_failed hbinding.ledger.board.isLoaded hr]
    exact hstate
  | erase hk hr _ ih => exact (ih hd hbond hw).erase hr
  | @recovered k w₀ w₁ w₂ hk f f' hc hr hf hm hf' hsub ihm ih =>
    have hlived := ih hd hbond hw
    -- the store is cleared while the recovery still runs; it is over when the function returns
    have hcleared : Lived blank past
        (((w₁.write sdk .clear).2.act f).tune fun c => { c with recovering := false }) :=
      hlived.written (hd (by omega)) (hlived.allowed (hsub.bonded hbond) (.clear hc)) hr ⟨rfl, rfl⟩
        (fun _ hval => absurd ((hf _).1.symm.trans hval) Bool.false_ne_true)
        fun _ hrec => absurd hrec Bool.false_ne_true
    obtain ⟨l, htrace, hl⟩ := hm.still le_rfl
    obtain ⟨hpeer, hvalid⟩ := hm.peer_eq le_rfl
    refine hcleared.marks htrace hl
      ⟨hm.board_eq le_rfl, hvalid, congrArg PeerRecord.peerId hpeer, fun hrec => ?_⟩
    rw [central_tune, (hf' _).recovering] at hrec
    exact absurd hrec Bool.false_ne_true

/-! ## Whole lives -/

lemma Polled.lived (h : Polled b sdk w w') (hd : sdk.Detects) (hbond : Bonded w)
    (hw : Lived blank past w) : Lived blank past w' := by
  cases h with
  | event h => exact h.lived (fun _ => hd) hbond hw
  | failed w₁ h hf hc h' =>
    have hended : Lived blank past (w₁.tune Central.endRecovery) :=
      (h.lived (fun _ => hd) hbond hw).keep rfl
        ⟨rfl, rfl, rfl, fun hr => absurd hr Bool.false_ne_true⟩
    refine h'.lived (fun _ => hd) ?_ hended
    have hmid := h.bonded hbond
    refine hmid.tune _ fun hp => ?_
    exact absurd ((hmid.not_pending_of_recovering hc).symm.trans hp) Bool.false_ne_true
  | recovery hc h => exact h.lived (fun _ => hd) hbond hw
  | link h => exact h.lived (fun _ => hd) hbond hw

lemma Stepped.lived (h : Stepped b sdk w w') (hd : sdk.Detects) (hbond : Bonded w)
    (hw : Lived blank past w) : Lived blank past w' := by
  cases h with
  | clock nowMs h =>
    rw [h]
    exact hw.keep rfl ⟨rfl, rfl, rfl, .inl⟩
  | event h => exact h.lived (fun _ => hd) hbond hw
  | request h => exact h.lived (fun _ => hd) hbond hw
  | polled h => exact h.lived hd hbond hw

/-- What a start has loaded. -/
lemma board_world (b : Build) (r : Reset) (trace : List RadioMark) :
    (r.world b trace).env.board = loadSlots (boot r.slot r.readOk) := by
  unfold Reset.world storeLoad
  dsimp only
  split <;> rfl

/-- The start of the server, on the record that was found. -/
lemma lived_world (r : Reset) (hf : Found (Upholds blank) past r.slot) (he : ErasesAllowed past) :
    Lived blank past (r.world b []) := by
  have hboard := board_world b r []
  have hbond := bonded_world b r []
  generalize hw : r.world b [] = w at hboard hbond
  have htrace : w.env.trace = [{ ev := .lost, central := {}, board := w.env.board }] := by
    rw [← hw]
    rfl
  have hlog : w.log = [] := by
    rw [← hw]
    rfl
  have hop : w.srv.op.active = false := by
    rw [← hw]
    rfl
  have hrec : w.env.central.recovering = false := by
    rw [← hw]
    rfl
  -- what the pages held when the power went is what the board has loaded
  have hkeeps : Keeps (Upholds blank) ({ ev := .lost, central := {}, board := w.env.board } :: past)
      w.env.board := keeps_load (ledger_upholds blank) hf rfl hboard
  refine ⟨⟨?_, fun l m t heq slot hcut => ?_⟩, ⟨records past, ?_⟩, fun hb hv => ?_, fun _ hr => ?_, ?_⟩
  · rw [htrace]
    exact hkeeps
  · rw [htrace] at heq
    cases l with
    | nil =>
      obtain ⟨rfl, rfl⟩ := List.cons.inj heq
      cases hcut with
      | between => exact hkeeps.found
      | inside write c hev => cases hev
    | cons a l =>
      have hnil := (List.cons.inj heq).2
      exact absurd hnil.symm (by simp)
  · rw [htrace, List.cons_append, List.nil_append, records_cons rfl]
  · obtain ⟨hid, hrecord⟩ := hbond.bound hv
    have hbinds := hrecord.resolve_right ?_
    · have hstate : w.env.board.storageState ≠ 255 := by
        intro hs
        have hone := hbinds.state
        rw [committed_of_loaded hbond.loaded] at hone
        exact absurd (hone.symm.trans hs) (by decide)
      have hids := (hkeeps.committed (ledger_upholds blank) hstate).ids hb
      have hbound : w.env.board.committed.Bound := ⟨hbinds.state, by rw [hbinds.id]; exact hid⟩
      rw [htrace, ← hbinds.id]
      exact ⟨hids.own hbound, hids.next hbound⟩
    · rintro ⟨-, hforget | ⟨d, s, hmem, -⟩⟩
      · exact absurd (hop.symm.trans hforget.1) Bool.false_ne_true
      · rw [hlog] at hmem
        exact absurd hmem List.not_mem_nil
  · exact absurd (hrec.symm.trans hr) Bool.false_ne_true
  · rw [htrace]
    exact he.cons fun hev => by cases hev

/-- The initialisation of a boot. -/
lemma lived_boot (r : Reset) (sdk : Sdk) (n : Nat) (hf : Found (Upholds blank) past r.slot)
    (he : ErasesAllowed past) : Lived blank past (r.boot b sdk n []) := by
  have hbond := bonded_world b r []
  obtain ⟨w₁, h₁, h₂⟩ := wchCentralInit_drives b sdk n r.registered (r.world b [])
  have hw₁ : Lived blank past w₁ := h₁.lived (fun hk => by omega) hbond (lived_world r hf he)
  have hbond₁ := h₁.bonded hbond
  have hp : w₁.env.central.pairPending = false := (h₁.quiet (by decide) rfl).1
  refine h₂.lived (fun hk => by omega) (hbond₁.tune _ fun hp' => ?_)
    (hw₁.keep rfl ⟨rfl, rfl, rfl, fun hr => ?_⟩)
  · exact absurd (hp.symm.trans hp') Bool.false_ne_true
  · exact .inr ((Bool.or_eq_true_iff.mp hr).imp eq_of_beq eq_of_beq)

lemma Lives.lived {slot₀ : Fin 2 → Page} (h : Lives b slot₀ past w) :
    OwnerKept b w ∧ Lived (∀ i, valid (slot₀ i) = false) past w := by
  have hboot (r : Reset) (sdk : Sdk) (n : Nat) : OwnerKept b (r.boot b sdk n []) :=
    kept_boot r sdk n [] fun _ h => absurd h List.not_mem_nil
  induction h with
  | start r sdk n hr =>
    refine ⟨hboot r sdk n, lived_boot r sdk n ?_ fun l m t heq => ?_⟩
    · rw [hr]
      by_cases hv : valid (slot₀ 0) = true ∨ valid (slot₀ 1) = true
      · obtain ⟨i, hi⟩ := exists_newest hv
        refine .page i hi ⟨fun hblank => ?_, fun _ => ?_⟩
        · exact absurd ((hblank i).symm.trans hi.1) Bool.false_ne_true
        · exact ⟨descends_of_all fun d hd => absurd hd List.not_mem_nil,
            fun _ => older_of_all fun l d hd => absurd hd List.not_mem_nil⟩
      · rw [not_or, Bool.not_eq_true, Bool.not_eq_true] at hv
        refine .blank (fun i => ?_) fun c hc => absurd hc List.not_mem_nil
        rcases fin_two i with rfl | rfl
        · exact hv.1
        · exact hv.2
    · exact absurd heq.symm (by simp)
  | input i sdk n hd _ ih =>
    obtain ⟨hstep, hkept⟩ := i.kept sdk n ih.1
    exact ⟨hkept, hstep.lived hd ih.1.bonded ih.2⟩
  | reset r sdk n hr _ ih =>
    refine ⟨hboot r sdk n, lived_boot r sdk n ?_ ih.2.erases⟩
    rw [hr]
    exact ih.2.ledger.board.found
  | @cut past l t m w r sdk n ht hr _ ih =>
    refine ⟨hboot r sdk n, lived_boot r sdk n (ih.2.ledger.cuts l m t ht r.slot hr) ?_⟩
    intro l' m' t' heq
    refine ih.2.erases (l ++ l') m' t' ?_
    rw [ht, List.append_assoc, List.append_assoc, ← heq]

/-- What a start finds has a history in order. -/
lemma Found.descends {slot : Fin 2 → Page} {H : List RadioMark} (h : Found (Upholds blank) H slot) :
    (blank → IdsIncrease (records H)) ∧ (Careful H → DeletionsStay (records H)) := by
  cases h with
  | page i hn hr => exact ⟨fun hb => (hr.ids hb).chain, fun hc => (hr.deletions hc).chain⟩
  | blank hv hu =>
    have hno {d : Committed} (hd : d ∈ records H) : ¬ d.Bound := fun hb => (hu d hd).1 hb.1
    exact ⟨fun _ => descends_of_all fun d hd l _ hb => absurd hb (hno hd),
      fun _ => descends_of_all fun d hd l _ hb => absurd hb (hno hd)⟩

lemma not_valid_blank (i : Fin 2) : valid (blankSlots i) = false := by
  show valid FlashPage.erased = false
  decide +kernel

/-! ## Runs on the bench -/

lemma detects_of_complete (h : ∀ write r, sdk.eeprom write r = .complete) : sdk.Detects := by
  intro write r c hfailed
  rw [h] at hfailed
  cases hfailed

/-- A frame can be heard: the receiver is idle and the clocks agree. -/
abbrev World.Ready (w : World Radio) : Prop := w.srv.rx = RxParser.init 0 ∧ w.srv.nowMs = w.env.nowMs

/-- The lives of an erased board on the bench. -/
abbrev BenchLife (w : World Radio) : Prop := Lives Build.default blankSlots [] w

namespace BenchLife

lemma bench (h : BenchLife w) (i : RadioInput) : BenchLife (w.bench i) :=
  .input i benchSdk 4 (detects_of_complete fun _ _ => rfl) h

lemma paired (h : BenchLife w) (i : RadioInput) : BenchLife (w.pairedBench i) :=
  .input i pairedSdk 4 (detects_of_complete fun _ _ => rfl) h

lemma benchHears (hw : BenchLife w) (hready : w.Ready) (h : Header) (txSeq : UInt32)
    (payload : List UInt8) (hlen : payload.length ≤ maxPayload) :
    BenchLife (w.benchHears h txSeq payload) := by
  rw [← bench_wireFrame hready.1 hready.2 h txSeq payload hlen]
  exact hw.bench _

end BenchLife

lemma benchLife_boundBench : BenchLife boundBench := by
  have hblank : BenchLife blankBench := .start _ _ _ rfl
  have hhello := (hblank.bench (.gap (.deviceInitDone 0))).benchHears (by decide +kernel)
    (hostHeader .hello 0 1 0) 1 (tlvPutBytes 1 (List.replicate 16 7) []) (by decide)
  have hfind := hhello.benchHears (by decide +kernel) (hostHeader .findStart 1 2 0) 2
    (tlvPutU16 1 1000 []) (by decide)
  have hpair := (hfind.bench (.gap (.deviceInfo benchAdvert))).benchHears (by decide +kernel)
    (hostHeader .pairBegin 1 3 0) 3 (tlvPutU32 2 1 (tlvPutU32 1 1 [])) (by decide)
  exact ((((hpair.bench _).paired .tick).bench _).bench _).paired .poll

/-- The host has the peer deleted. -/
def forgottenBench : World Radio :=
  boundBench.benchHears (hostHeader .forgetPeer 1 4 0) 4 (tlvPutU32 1 1 [])

/-- The host changes the reconnect flag of the peer that is being deleted. -/
def restoredBench : World Radio :=
  forgottenBench.benchHears (hostHeader .setReconnect 1 5 0) 5 (tlvPutBool 2 false (tlvPutU32 1 1 []))

/-- The link of the deleted peer ends; one poll has the bonds erased, and the next finds none and completes
the deletion.  Its events find no room behind what the host has not read, so the session is over. -/
def deletedBench : World Radio :=
  ((forgottenBench.bench (.gap (.linkTerminated 1 0))).bench .poll).bench .poll

/-- The host says `HELLO` again. -/
def greetedAgainBench : World Radio :=
  deletedBench.benchHears (hostHeader .hello 0 1 0) 1 (tlvPutBytes 1 (List.replicate 16 7) [])

/-- A second search finds the remote again. -/
def foundAgainBench : World Radio :=
  (greetedAgainBench.benchHears (hostHeader .findStart 2 2 0) 2 (tlvPutU16 1 1000 [])).bench
    (.gap (.deviceInfo benchAdvert))

/-- The host pairs with it once more. -/
def reboundBench : World Radio :=
  (((((foundAgainBench.benchHears (hostHeader .pairBegin 2 3 0) 3
    (tlvPutU32 2 1 (tlvPutU32 1 1 []))).bench (.gap (.deviceDiscovery 0))).pairedBench .poll).bench
      (.gap (.linkEstablished 0 benchHandle))).bench (.pairState 1 .bondSaved 0)).pairedBench .poll

/-- The states and peers of the records. -/
def summary (H : List Committed) : List (UInt8 × UInt32) := H.map fun c => (c.state, c.peerId)

/-- Whether a history is careful. -/
def careful (H : List RadioMark) : Bool :=
  H.all fun m =>
    match m.ev with
    | .writing (.save _) => m.board.committed.state != 2
    | _ => true

lemma careful_of_all {H : List RadioMark} (h : careful H = true) : Careful H := by
  intro m hm peer he
  have hm' := List.all_eq_true.mp h m hm
  rw [he] at hm'
  exact bne_iff_ne.mp hm'

/-- The SDK is asked to erase all bonds. -/
def RadioMark.erases (m : RadioMark) : Bool :=
  match m.ev with
  | .asked .eraseAllBonds => true
  | _ => false

lemma ev_of_erases {m : RadioMark} (h : m.erases = true) : m.ev = .asked .eraseAllBonds := by
  unfold RadioMark.erases at h
  split at h
  · assumption
  · cases h

/-- What the runs on the bench come to.  One evaluation serves all of it: the runs share their beginnings,
and each begins with a boot. -/
lemma bench_facts :
    (boundBench.Ready ∧ forgottenBench.Ready ∧ deletedBench.Ready ∧ greetedAgainBench.Ready ∧
      foundAgainBench.Ready) ∧
      summary (records restoredBench.env.trace) = [(1, 1), (2, 0), (1, 1), (3, 0), (0, 0)] ∧
      summary (records reboundBench.env.trace) =
        [(1, 2), (3, 0), (1, 0), (2, 0), (1, 1), (3, 0), (0, 0)] ∧
      careful reboundBench.env.trace = true ∧ reboundBench.env.trace.any RadioMark.erases = true := by
  decide +kernel

lemma benchLife_forgottenBench : BenchLife forgottenBench :=
  benchLife_boundBench.benchHears bench_facts.1.1 (hostHeader .forgetPeer 1 4 0) 4 (tlvPutU32 1 1 [])
    (by decide)

lemma benchLife_restoredBench : BenchLife restoredBench :=
  benchLife_forgottenBench.benchHears bench_facts.1.2.1 (hostHeader .setReconnect 1 5 0) 5
    (tlvPutBool 2 false (tlvPutU32 1 1 [])) (by decide)

lemma benchLife_reboundBench : BenchLife reboundBench := by
  obtain ⟨-, -, hdeleted, hgreeted, hfound⟩ := bench_facts.1
  have hdelete : BenchLife deletedBench := ((benchLife_forgottenBench.bench _).bench .poll).bench .poll
  have hhello : BenchLife greetedAgainBench := hdelete.benchHears hdeleted (hostHeader .hello 0 1 0) 1
    (tlvPutBytes 1 (List.replicate 16 7) []) (by decide)
  have hfind := hhello.benchHears hgreeted (hostHeader .findStart 2 2 0) 2 (tlvPutU16 1 1000 []) (by decide)
  have hlist : BenchLife foundAgainBench := hfind.bench (.gap (.deviceInfo benchAdvert))
  have hpair := hlist.benchHears hfound (hostHeader .pairBegin 2 3 0) 3
    (tlvPutU32 2 1 (tlvPutU32 1 1 [])) (by decide)
  exact ((((hpair.bench _).paired .poll).bench _).bench _).paired .poll

/-! ## The ids and the deletions of a life -/

/-- Peer ids are not used again.  In every life of a board that began with an erased EEPROM, of two bound
records with a pairing between them the later one has the larger id. -/
theorem lives_peerIds (h : Lives b blankSlots past w) : IdsIncrease (records (w.env.trace ++ past)) :=
  h.lived.2.ledger.board.found.descends.1 not_valid_blank

/-- A board that was paired, deleted its peer and was paired again. -/
theorem peerIds_reboundBench :
    summary (records reboundBench.env.trace) = [(1, 2), (3, 0), (1, 0), (2, 0), (1, 1), (3, 0), (0, 0)] ∧
      IdsIncrease (records (reboundBench.env.trace ++ [])) :=
  ⟨bench_facts.2.2.1, lives_peerIds benchLife_reboundBench⟩

/-- A deletion stays.  In every life in which no reconnect flag is saved while the record is a deletion, no
peer is bound after a deletion without a new pairing, and the bonds of the SDK are erased only while a
deletion or a pairing is open. -/
theorem lives_deletions {slot₀ : Fin 2 → Page} (h : Lives b slot₀ past w)
    (hc : Careful (w.env.trace ++ past)) :
    DeletionsStay (records (w.env.trace ++ past)) ∧
      ∀ m ∈ w.env.trace ++ past, m.ev = .asked .eraseAllBonds → m.board.committed.Erasable := by
  have hlived := h.lived.2
  refine ⟨hlived.ledger.board.found.descends.2 hc, fun m hm he => ?_⟩
  obtain ⟨l, t, heq⟩ := List.append_of_mem hm
  refine hlived.erases l m t heq he ?_
  rw [heq] at hc
  exact hc.of_append.of_cons

/-- A deletion that ends, and for which the bonds are erased, before the next pairing. -/
theorem deletions_reboundBench :
    Careful reboundBench.env.trace ∧
      (∃ m ∈ reboundBench.env.trace, m.ev = .asked .eraseAllBonds ∧ m.board.committed.Erasable) ∧
      DeletionsStay (records reboundBench.env.trace) := by
  obtain ⟨-, -, -, hcareful, herased⟩ := bench_facts
  have hlife := benchLife_reboundBench
  generalize reboundBench = w at hcareful herased hlife ⊢
  have hc := careful_of_all hcareful
  obtain ⟨hstay, hasked⟩ := lives_deletions hlife ((List.append_nil w.env.trace).symm ▸ hc)
  rw [List.append_nil] at hstay hasked
  obtain ⟨m, hm, he⟩ := List.any_eq_true.mp herased
  exact ⟨hc, ⟨m, hm, ev_of_erases he, hasked m hm (ev_of_erases he)⟩, hstay⟩

/-- The deleted peer is bound again. -/
theorem not_deletions_restoredBench :
    ¬ ∀ past w, Lives Build.default blankSlots past w →
      DeletionsStay (records (w.env.trace ++ past)) := by
  intro hall
  have hstay := hall [] restoredBench benchLife_restoredBench
  have hsummary := bench_facts.2.1
  rw [List.append_nil] at hstay
  generalize records restoredBench.env.trace = H at hstay hsummary
  obtain ⟨c, H, rfl, hc, hsummary⟩ := List.map_eq_cons_iff.mp hsummary
  obtain ⟨d, H, rfl, hd, -⟩ := List.map_eq_cons_iff.mp hsummary
  obtain ⟨hstate, hid⟩ := Prod.mk.inj hc
  have hbound : c.Bound := by
    refine ⟨hstate, ?_⟩
    rw [hid]
    decide
  obtain ⟨e, he, -⟩ := hstay [] c (d :: H) rfl [] d H rfl hbound (Prod.mk.inj hd).1
  exact absurd he List.not_mem_nil

end RemoteBridge
