import RemoteBridge.Properties.RadioOwnership

/-!
# The server's peer is the committed one

`Bonded` allows one disagreement: a deletion that is under way, or has ended without a certain result.
Outside of these the server shows a peer exactly when the committed record binds it.

The committed record is the one that `board.c` holds (`Board.committed`): the copy that it made of the
last record which it wrote with success, or found at its start.  What is in the pages of the EEPROM is not
part of the statement.  A write that fails leaves the copy alone, while its page may hold the old record,
the new one or neither, and the server goes by the result of the write; a failed write of the bond store
during a deletion is one of the uncertain results that are left out here.
-/

namespace RemoteBridge

open World

variable {b : Build} {w : World Radio}

/-- In every reachable state without an operation and without an uncertain result since the start, the
server's peer is the one of the committed record, as `board.c` holds it. -/
theorem boots_peerAgreement (h : Boots b w) (ho : w.srv.op.active = false) (hu : ¬ Uncertain w.log)
    (id : UInt32) (auto : Bool) :
    (w.srv.device.peerValid = true ∧ w.srv.device.peer.peerId = id ∧
        w.srv.device.peer.autoReconnect = auto) ↔
      (w.env.board.committed.state = 1 ∧ id ≠ 0 ∧ w.env.board.committed.peerId = id ∧
        w.env.board.committed.autoReconnect = auto) := by
  have hbonded := h.kept.bonded
  -- no deletion is under way, and none has failed
  have hbinds (hv : w.srv.device.peerValid = true) : w.env.board.committed.Binds w.srv.device.peer := by
    refine (hbonded.bound hv).2.resolve_right ?_
    rintro ⟨-, hforget | hunc⟩
    · have hactive := hforget.1
      rw [ho] at hactive
      cases hactive
    · exact hu hunc
  constructor
  · rintro ⟨hv, rfl, rfl⟩
    exact ⟨(hbinds hv).state, (hbonded.bound hv).1, (hbinds hv).id, (hbinds hv).auto⟩
  · rintro ⟨hstate, hz, rfl, rfl⟩
    have hv : w.srv.device.peerValid = true := by
      by_contra hno
      exact hbonded.unbound (Bool.eq_false_iff.mpr hno) ⟨hstate, hz⟩
    exact ⟨hv, (hbinds hv).id.symm, (hbinds hv).auto.symm⟩

/-! ## A bound remote -/

/-- USB takes what it gets, and the SDK holds one bond. -/
def pairedSdk : Sdk :=
  { benchSdk with bondCount := fun _ => 1, usbAccepts := fun _ bytes => bytes.length }

/-- An input after the remote has bonded. -/
def World.pairedBench (i : RadioInput) (w : World Radio) : World Radio :=
  i.run Build.default pairedSdk (platform Build.default pairedSdk 4) w

/-- The handle of the link. -/
def benchHandle : LinkHandle := ⟨1, by decide⟩

/-- The host pairs with the remote that the search has found; link, encryption and bond come up. -/
def securedBench : World Radio :=
  ((((foundBench.benchHears (hostHeader .pairBegin 1 3 0) 3
    (tlvPutU32 2 1 (tlvPutU32 1 1 []))).bench (.gap (.deviceDiscovery 0))).pairedBench .tick).bench
      (.gap (.linkEstablished 0 benchHandle))).bench (.pairState 1 .bondSaved 0)

/-- The poll binds it. -/
def boundBench : World Radio := securedBench.pairedBench .poll

lemma Boots.paired {w : World Radio} (h : Boots Build.default w) (i : RadioInput) :
    Boots Build.default (w.pairedBench i) :=
  .input i pairedSdk 4 h

lemma boots_securedBench : Boots Build.default securedBench := by
  have hpair := boots_foundBench.benchHears (by decide +kernel) (by decide +kernel)
    (hostHeader .pairBegin 1 3 0) 3 (tlvPutU32 2 1 (tlvPutU32 1 1 [])) (by decide)
  exact (((hpair.bench _).paired .tick).bench _).bench _

lemma boots_boundBench : Boots Build.default boundBench := boots_securedBench.paired .poll

/-- No result in the log is uncertain. -/
def certain (log : List Ev) : Bool :=
  log.all fun e =>
    match e with
    | .completed d _ => !d.uncertain
    | _ => true

lemma not_uncertain {log : List Ev} (h : certain log = true) : ¬ Uncertain log := by
  rintro ⟨d, s, hm, hd⟩
  have hm' := List.all_eq_true.mp h _ hm
  simp only [hd] at hm'
  cases hm'

/-- `boots_peerAgreement` applies to the remote that was just bound as peer 1. -/
theorem peerAgreement_boundBench :
    boundBench.srv.op.active = false ∧ ¬ Uncertain boundBench.log ∧
      (boundBench.srv.device.peerValid = true ∧ boundBench.srv.device.peer.peerId = 1 ∧
        boundBench.srv.device.peer.autoReconnect = true) ∧
      boundBench.env.board.committed.state = 1 ∧ boundBench.env.board.committed.peerId = 1 := by
  have hall : boundBench.srv.op.active = false ∧ certain boundBench.log = true ∧
      boundBench.srv.device.peerValid = true ∧ boundBench.srv.device.peer.peerId = 1 ∧
      boundBench.srv.device.peer.autoReconnect = true := by decide +kernel
  obtain ⟨hidle, hlog, hpeer⟩ := hall
  have hcertain := not_uncertain hlog
  have hrecord := (boots_peerAgreement boots_boundBench hidle hcertain 1 true).mp hpeer
  exact ⟨hidle, hcertain, hpeer, hrecord.1, hrecord.2.2.1⟩

end RemoteBridge
