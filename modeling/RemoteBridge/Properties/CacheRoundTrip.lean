import RemoteBridge.Properties.DiscoveryProgress
import RemoteBridge.Properties.DiscoverySound

/-!
# Cached attributes come back

In every life of the adapter, an exported record is that of a finished discovery, so the import takes it back
exactly when the attributes are restorable.
-/

namespace RemoteBridge

namespace DiscWorld

open Rc003 (Imported Coherent Recorded Seeking Over Unfinished Gathered MapKnown StageAt Finding VoiceFound)

variable {G : Type} {b : AdapterBuild} {client : GattClient G} {w w' : DiscWorld G} {s : DiscState}

/-! ## Whole lives -/

/-- The lives of an adapter, from its initialisation: it is started on a link, takes the steps of a
discovery or of a restore, is given to a bond, detached from the link, and handed records of any kind. -/
inductive Life (b : AdapterBuild) (client : GattClient G) : DiscWorld G → Prop
  | init (gatt : G) : Life b client ⟨.init, gatt, []⟩
  | start {w : DiscWorld G} (nowMs peerId : UInt32) :
    Life b client w → Life b client (startBound b client nowMs peerId w.a w.gatt)
  | step {w w' : DiscWorld G} : Life b client w → Step b client w w' → Life b client w'
  | commitBond {w : DiscWorld G} (peer : UInt32) :
    Life b client w → Life b client (w.act (Rc003.commitBond peer))
  | detach {w : DiscWorld G} : Life b client w → Life b client (w.act Rc003.detach)
  | cacheImport {w : DiscWorld G} (peer : UInt32) (p : List UInt8) :
    Life b client w → Life b client (w.act fun a => (Rc003.cacheImport peer p a).2)

lemma over_init : Over Rc003.init := ⟨⟨rfl, rfl, rfl⟩, rfl, fun hf => absurd hf (by decide)⟩

/-- A valid cache is that of a finished discovery. -/
lemma imported_of_valid {a : Rc003} (h : Coherent b a) (hvalid : a.cacheValid = true) : Imported b a := by
  rcases h with h | h | h
  · exact h
  · exact absurd (h.unfinished.2.1.symm.trans hvalid) Bool.false_ne_true
  · exact absurd (h.unfinished.2.1.symm.trans hvalid) Bool.false_ne_true

lemma restores_restoredFirst (a : Rc003) : (restoredFirst b a).restores = true := by
  unfold restoredFirst
  split_ifs <;> rfl

lemma sound_startBound {a : Rc003} (h : Coherent b a) (nowMs peerId : UInt32) (gatt : G) :
    Coherent b (startBound b client nowMs peerId a gatt).a := by
  unfold startBound
  split_ifs with hcached
  · have hheld := imported_of_valid h hcached.2.1
    refine .inl (imported_go ?_ rfl (restores_restoredFirst a))
    exact hheld.of rfl fun hd => ⟨rfl, (hheld.live hd).2⟩
  · refine seeking_go (.startAt ⟨rfl, rfl, rfl⟩ rfl (by decide) fun f hfirst _ => ?_)
    cases f
    case short => exact Nat.zero_le _
    case subscribed => exact fun c hc => absurd hc List.not_mem_nil
    case waiting => exact fun c hc => absurd hc List.not_mem_nil
    all_goals exact absurd hfirst (by decide)

lemma sound_commitBond {a : Rc003} (h : Coherent b a) (peer : UInt32) : Coherent b (a.commitBond peer) := by
  have hbound (hu : Unfinished a) :
      Unfinished { a with cachePeerId := peer, cacheValid := a.cacheSafe && a.voiceReady } := by
    refine ⟨hu.1, ?_, hu.2.2⟩
    rw [hu.2.2, Bool.and_false]
  unfold Rc003.commitBond
  split_ifs
  · exact h
  · rcases h with h | h | h
    · exact .inl (h.same rfl rfl rfl)
    · exact .inr (.inl (h.same rfl rfl rfl (hbound h.unfinished)))
    · exact .inr (.inr (h.same rfl rfl (hbound h.unfinished)))

lemma sound_detach {a : Rc003} (h : Coherent b a) : Coherent b a.detach := by
  unfold Rc003.detach
  split_ifs with hvalid
  · exact .inl ((imported_of_valid h hvalid).ended rfl rfl)
  · exact .inr (.inr over_init)

lemma sound_cacheImport {a : Rc003} (h : Coherent b a) (peer : UInt32) (p : List UInt8) :
    Coherent b (Rc003.cacheImport peer p a).2 := by
  obtain hi | hi | ⟨r, hi, hstate, -, hkept, hknown⟩ := Rc003.cacheImport_cases peer p a
  · rw [hi]
    exact h
  · rw [hi]
    exact .inr (.inr over_init)
  · rw [hi]
    refine .inl ⟨hkept, hknown b, fun hd => ?_⟩
    rw [hstate] at hd
    cases hd

lemma Life.sound (h : Life b client w) : Coherent b w.a := by
  induction h with
  | init gatt => exact .inr (.inr over_init)
  | start nowMs peerId _ ih => exact sound_startBound ih nowMs peerId _
  | step _ hstep ih => exact sound_step ih hstep
  | commitBond peer _ ih => exact sound_commitBond ih peer
  | detach _ ih => exact sound_detach ih
  | cacheImport peer p _ ih => exact sound_cacheImport ih peer p

end DiscWorld

lemma DiscWorld.Life.hear {G : Type} {b : AdapterBuild} {client : GattClient G} {w : DiscWorld G}
    (h : Life b client w) (es : List GattEvt) : Life b client (w.hear b client es) := by
  induction es generalizing w with
  | nil => exact h
  | cons e es ih => exact ih (h.step (.gatt w e))

open Rc003 DiscWorld in
/-- **Cached attributes come back.**  Whenever an adapter exports a record, the import of the record into an
initialised adapter restores the profile, the handles, the characteristics, the map and the flags, and the
restored adapter exports the same record, exactly if each report characteristic has a value handle of its
own and an input, output or feature type, and the simulator was given a known map.  An import that fails, of
whatever bytes, leaves the adapter initialised. -/
theorem cache_roundTrip {G : Type} {b : AdapterBuild} {client : GattClient G} {w : DiscWorld G}
    (h : Life b client w) {cap : Nat} (hn : w.a.cacheExport cap ≠ []) :
    ((∃ a', cacheImport w.a.cachePeerId (w.a.cacheExport cap) .init = (true, a') ∧ RestoresRecord w.a cap a') ↔
        (b.simulator = true → w.a.unicom.selected = true ∨ w.a.rc003BootLayout = true) ∧
        (∀ c ∈ w.a.chars, c.valueHandle ≠ 0 ∧ 1 ≤ c.reportType ∧ c.reportType ≤ 3) ∧
          (w.a.chars.map ReportAttr.valueHandle).Nodup) ∧
      ∀ peer p, (cacheImport peer p .init).1 = false → (cacheImport peer p .init).2 = .init := by
  have hexports := exports_of_ne hn
  have hheld := imported_of_valid h.sound hexports.valid
  obtain ⟨hback, hfail⟩ := hexports.roundTrip hheld.kept
  refine ⟨⟨fun ⟨a', hi, _⟩ => ?_, fun hc => ?_⟩, fun peer p hi => ?_⟩
  · have hrestorable : Restorable w.a := by
      by_contra hno
      exact Bool.false_ne_true (congrArg Prod.fst ((hfail hno).symm.trans hi))
    exact ⟨fun _ => hrestorable.profile, hrestorable.chars, hrestorable.handles⟩
  · obtain ⟨hsim, hchars, hhandles⟩ := hc
    refine hback ⟨?_, hchars, hhandles⟩
    cases hb : b.simulator with
    | false => exact hheld.known hb
    | true => exact hsim hb
  · obtain hsame | hsame | ⟨r, hsame, -⟩ := cacheImport_cases peer p .init
    · exact congrArg Prod.snd hsame
    · exact congrArg Prod.snd hsame
    · rw [hsame] at hi
      cases hi

/-! ## A discovered remote -/

open DiscWorld in
/-- An RC003 that answered all of it, and then told its capabilities. -/
def discoveredBench : DiscWorld Unit :=
  let asked :=
    (startBound ⟨23, false⟩ eagerClient 0 7 .init ()).hear ⟨23, false⟩ eagerClient rc003Responses
  finishVoiceReady (asked.act fun a => { a with capsValid := true, interaction := 0, sampleRate := 16000 })

open DiscWorld in
lemma life_discoveredBench : Life ⟨23, false⟩ eagerClient discoveredBench :=
  .step ((Life.start 0 7 (.init ())).hear rc003Responses)
    (.heard (.control _ true 0 16000 (by decide +kernel) (by decide +kernel)))

open Rc003 in
theorem cache_roundTrip_discoveredBench :
    ∃ a', cacheImport discoveredBench.a.cachePeerId (discoveredBench.a.cacheExport 1024) .init =
        (true, a') ∧
      RestoresRecord discoveredBench.a 1024 a' := by
  obtain ⟨hn, hlayout, hchars, hhandles⟩ : discoveredBench.a.cacheExport 1024 ≠ [] ∧
      discoveredBench.a.rc003BootLayout = true ∧
      (∀ c ∈ discoveredBench.a.chars, c.valueHandle ≠ 0 ∧ 1 ≤ c.reportType ∧ c.reportType ≤ 3) ∧
      (discoveredBench.a.chars.map ReportAttr.valueHandle).Nodup := by
    decide +kernel
  exact (cache_roundTrip life_discoveredBench hn).1.mpr ⟨fun _ => .inr hlayout, hchars, hhandles⟩

end RemoteBridge
