import RemoteBridge.Product.Host

/-!
# The statistics over whole runs

The four counters of `GET_STATS` are counted up at many places, all of them by `++` on a `uint32_t`.
Nothing else touches them, so along a run the counters grow by counted events alone (`Continues.grows`),
and each shows the number of its events modulo `2 ^ 32` (`Stats.Sound`).

A counter is therefore nondecreasing and equal to the saturated number of its events as long as it has
counted fewer than `2 ^ 32` of them (`reach_statistics`).  The document has the counters saturate, which
they do not: the next event takes a counter from its maximum to zero (`protocolErrors_wrap`).

What is an event of a counter is decided by the code: the log has a mark for each place that counts, put
there by the function that counts.  So the statement is not that the right things are counted, but that
nothing is lost and nothing but counting happens, in whatever way the places are reached, from a request, a
callback or a tick, and in the middle of a teardown.

The statistics outlive sessions and are not stored; they begin at zero with each boot.
-/

namespace RemoteBridge

open World

/-! ## Counting -/

namespace Stats

/-- How many events a counter has counted. -/
def events (c : Counter) (st : Stats) : Nat := st.counted.count c

/-- Every counter shows the number of its events modulo `2 ^ 32`. -/
def Sound (st : Stats) : Prop := ∀ c, st.value c = UInt32.ofNat (st.events c)

variable {st st' : Stats}

lemma events_count (c c' : Counter) (st : Stats) :
    (st.count c').events c = st.events c + if c' = c then 1 else 0 := by
  cases c' <;> simp [count, events, List.count_cons]

lemma value_count (c c' : Counter) (st : Stats) :
    (st.count c').value c = st.value c + if c' = c then 1 else 0 := by
  cases c' <;> cases c <;> simp [count, value]

lemma Sound.count (h : st.Sound) (c : Counter) : (st.count c).Sound := by
  intro c'
  rw [value_count, events_count, UInt32.ofNat_add, h c']
  split <;> rfl

lemma Sound.grows (h : st.Sound) (hg : st.Grows st') : st'.Sound := by
  obtain ⟨cs, rfl⟩ := hg
  induction cs with
  | nil => exact h
  | cons c cs ih => exact ih.count c

lemma Grows.events_le (hg : st.Grows st') (c : Counter) : st.events c ≤ st'.events c := by
  obtain ⟨cs, rfl⟩ := hg
  induction cs with
  | nil => exact le_rfl
  | cons c' cs ih =>
    rw [List.foldr_cons, events_count]
    exact Nat.le_add_right_of_le ih

lemma Sound.value_toNat (h : st.Sound) {c : Counter} (hc : st.events c < 2 ^ 32) :
    (st.value c).toNat = st.events c := by
  rw [h c]
  exact UInt32.toNat_ofNat_of_lt' hc

end Stats

/-! ## Functions that count -/

section Functions

variable (s : Server)

lemma stats_keyPush {s' : Server} {kind : KeysKind} {reason : KeysReason} {bits us : UInt64}
    (h : s.keyPush kind reason bits us = some s') : s'.stats = s.stats := by
  unfold Server.keyPush at h
  split at h
  · cases h
  · rw [← Option.some.inj h]

lemma stats_keyPush_getD (kind : KeysKind) (reason : KeysReason) (bits us : UInt64) :
    ((s.keyPush kind reason bits us).getD s).stats = s.stats := by
  cases h : s.keyPush kind reason bits us with
  | none => rfl
  | some s' => exact stats_keyPush s h

lemma stats_keysOverflow (us : UInt64) : (s.keysOverflow us).stats = s.stats.count .inputResets := by
  unfold Server.keysOverflow
  dsimp only
  rw [stats_keyPush_getD, Server.bumpInput, stats_keyPush_getD]
  rfl

lemma grows_keysEmit (kind : KeysKind) (reason : KeysReason) (bits us : UInt64) :
    s.stats.Grows (s.keysEmit kind reason bits us).stats := by
  unfold Server.keysEmit
  split
  · exact .refl _
  · cases h : s.keyPush kind reason bits us with
    | none =>
      rw [Option.getD_none, stats_keysOverflow]
      exact .count _ _
    | some s' =>
      rw [Option.getD_some, stats_keyPush s h]
      exact .refl _

lemma grows_applyKeys (rep : KeysReport) : s.stats.Grows (s.applyKeys rep).stats := by
  unfold Server.applyKeys
  split
  · exact grows_keysEmit ((s.setPressed _).bumpInput.setCaptured _) _ _ _ _
  · have hreset : s.stats.Grows
        ((s.bumpInput.setCaptured rep.capturedUs).keysEmit .reset rep.reason 0 rep.capturedUs).stats :=
      grows_keysEmit (s.bumpInput.setCaptured rep.capturedUs) _ _ _ _
    dsimp only
    generalize (s.bumpInput.setCaptured rep.capturedUs).keysEmit .reset rep.reason 0 rep.capturedUs = t
      at hreset ⊢
    split
    · exact hreset.trans (grows_keysEmit (t.setPressed rep.pressedBits).bumpInput _ _ _ _)
    · exact hreset
  · exact grows_keysEmit ((s.setPressed _).setCaptured _) _ _ _ _

lemma grows_enableEvents : s.stats.Grows s.enableEvents.stats := grows_keysEmit _ _ _ _ _

lemma stats_withdraw (b : Build) : (s.withdraw b).stats = s.stats := by
  unfold Server.withdraw
  dsimp only [Server.stopDelivery, Server.ctlClear]
  split <;> rfl

lemma stats_settle (left : Bool) (state : LinkState) : (s.settle left state).stats = s.stats := by
  unfold Server.settle
  cases left <;> cases state.down <;> rfl

lemma stats_endQueued (cut : Bool) : (s.endQueued cut).stats = s.stats := by
  unfold Server.endQueued
  split <;> rfl

lemma stats_dataQueued (size samples : UInt32) (take : Nat) :
    (s.dataQueued size samples take).stats = s.stats := by
  unfold Server.dataQueued
  dsimp only
  split <;> rfl

lemma stats_putCtl (slot : CtlSlot) : (s.putCtl slot).stats = s.stats := by
  unfold Server.putCtl
  split <;> rfl

lemma stats_freeSlot (i : Nat) : (s.freeSlot i).stats = s.stats := by
  unfold Server.freeSlot
  split <;> rfl

lemma stats_patchSlotZero (session : UInt32) : (s.patchSlotZero session).stats = s.stats := by
  unfold Server.patchSlotZero
  split <;> rfl

end Functions

/-! ## Moves and turns -/

variable {E : Type} {b : Build} {k : Nat} {w w₀ w' w'' : World E}

/-- Between the worlds, counters have only counted. -/
def Grew (w w' : World E) : Prop := w.srv.stats.Grows w'.srv.stats

namespace Grew

lemma refl (w : World E) : Grew w w := Stats.Grows.refl _

lemma trans (h : Grew w w') (h' : Grew w' w'') : Grew w w'' := Stats.Grows.trans h h'

lemma grow (h : Grew w w') (f : Server → Server) (hf : w'.srv.stats.Grows (f w'.srv).stats) :
    Grew w (w'.act f) :=
  Stats.Grows.trans h hf

lemma same (h : Grew w w') (hs : w''.srv.stats = w'.srv.stats) : Grew w w'' :=
  Stats.Grows.trans h (hs ▸ .refl _)

lemma queue (h : Grew w w') (slot : CtlSlot) : Grew w (w'.queue slot) := h.same (stats_putCtl _ slot)

lemma withdraw (h : Grew w w') : Grew w (w'.withdraw b) := h.same (stats_withdraw _ b)

lemma error (h : Grew w w') : Grew w (w'.act Server.protocolError) :=
  h.grow _ (Stats.Grows.count .protocolErrors _)

lemma announce (h : Grew w w') (connCtx : UInt32) : Grew w (w'.announce b connCtx) := by
  rcases announce_cases (b := b) connCtx w' with ⟨_, heq⟩ | heq
  · rw [heq]
    exact h.queue _
  · rw [heq]
    exact h.error.withdraw

lemma push (h : Grew w w') (op : EventOp) (payload : List UInt8) (f : Server → Server)
    (hf : ∀ s, (f s).stats = s.stats) : Grew w ((w'.pushMedia op payload).act f) :=
  h.same (hf _)

lemma retires (h : Grew w w') (hr : Retires w' w'') : Grew w w'' := by
  cases hr with
  | plain _ => exact h.same rfl
  | cancel _ _ => exact h.same rfl

end Grew

lemma Moves.grew (h : Moves b k w w') : Grew w w' := by
  induction h with
  | refl => exact .refl _
  | send _ _ _ _ ih => exact ih.same rfl
  | flush _ _ ih => exact ih
  | emitCtl _ _ _ _ _ _ _ _ _ _ _ ih => exact ih.same (stats_freeSlot _ _)
  | emitKey _ _ _ _ _ _ _ _ _ ih => exact ih.same rfl
  | emitMedia _ _ _ _ _ _ _ _ _ _ ih => exact ih.same rfl
  | pump _ _ _ _ ihf ih => exact ih.trans ihf
  | teardown _ _ ih ihr => exact ih.withdraw.trans ihr
  | keys _ rep _ ih => exact ih.grow _ (grows_applyKeys _ rep)
  | discard _ _ _ ih => exact ih.same rfl
  | cut _ _ _ _ _ _ _ ihf ih =>
    exact ((ih.same rfl).trans ihf).push _ _ _ (stats_endQueued · true)
  | drain _ _ _ _ _ _ _ _ ihf ih => exact (ih.trans ihf).push _ _ _ (stats_endQueued · false)
  | env _ _ _ ih => exact ih
  | quiet _ f hq _ ih => exact ih.grow f hq.stats
  | called _ _ _ _ _ ih => exact ih
  | fault _ _ _ ih => exact ih
  | event _ _ _ _ _ _ _ ih => exact ih.queue _
  | @link _ w₀ _ w₁ _ _ _ _ hn _ _ _ _ ihw ih =>
    have hnew : Grew w₀ w₁ := by
      rcases hn with rfl | ⟨_, _, rfl⟩
      · exact ih
      · exact ih.same rfl
    exact (((hnew.same rfl).trans ihw).same (stats_settle _ _ _)).announce _
  | profile _ profile _ _ ih =>
    have hprofiled : Grew _ (World.profiled profile _) := ih.same rfl
    exact hprofiled.announce _
  | start _ _ _ _ _ _ _ _ ihf ih => exact ((ih.same rfl).trans ihf).push _ _ _ fun _ => rfl
  | noStart _ _ _ _ _ _ _ ihf ih => exact ((ih.same rfl).trans ihf).same rfl
  | format _ _ _ _ _ _ _ _ _ _ ihf ih => exact (ih.trans ihf).push _ _ _ fun _ => rfl
  | unit _ _ _ _ _ ih => exact ih.same rfl
  | fragment _ _ _ _ _ _ _ _ ihf ih => exact (ih.trans ihf).push _ _ _ (stats_dataQueued · _ _ _)
  | resumeVoice _ _ _ ih => exact ih.same rfl
  | prompt _ _ _ _ _ _ _ _ ih => exact ih.same rfl
  | cancel _ _ _ _ ih => exact ih.same rfl
  | finish _ _ _ hv _ _ _ ihm ih => exact ((ih.retires hv).trans ihm).same rfl
  | granted _ _ _ ih => exact ih
  | enableEvents _ _ _ ih => exact ih.grow _ (grows_enableEvents _)
  | stopEvents _ _ ih => exact ih.same rfl
  | beginFind _ _ _ _ _ ih => exact ih.same rfl
  | beginOp _ _ _ _ _ _ _ _ ih => exact ih.same rfl
  | enableVoice _ _ _ _ _ _ ih => exact ih.same rfl
  | disableVoice _ _ ih => exact ih.same rfl

lemma Answer.grew {h : Header} (ha : Answer b h w w') : Grew w w' := by
  have hkeep {v v' : World E} (s : Server) (hv : Grew v v') : Grew v (v'.keepCommitted s h) := hv.same rfl
  cases ha with
  | reply _ _ _ _ => exact (Grew.refl w).queue _
  | full _ _ hr => exact (Grew.refl w).error.withdraw.trans hr.grew
  | deferred _ => exact (Grew.refl w).same rfl
  | goodbye _ hr _ =>
    exact ((hkeep _ ((Grew.refl w).withdraw.trans hr.grew)).queue _).same (stats_patchSlotZero _ _)
  | goodbyeFull _ hr _ hr' =>
    have hgone := (hkeep w.srv ((Grew.refl w).withdraw.trans hr.grew)).error.withdraw.trans hr'.grew
    exact hgone.same (stats_patchSlotZero _ _)

lemma Turns.grew {g : Prop} (h : Turns b g w w') : Grew w w' := by
  induction h with
  | refl => exact .refl _
  | moves hm _ ih => exact ih.trans hm.grew
  | pump hm _ ih => exact ih.trans hm.grew
  | seq _ _ _ ih => exact ih.same rfl
  | request _ _ _ hh _ ih =>
    obtain ⟨w₁, w₂, h₁, ha, h₂⟩ := hh
    have haccept := ih.same rfl
    exact ((haccept.trans h₁.grew).trans ha.grew).trans h₂.grew
  | refuse _ _ _ _ _ _ _ ih => exact ih.queue _
  | refuseFull _ _ _ _ ih => exact ih
  | raw _ _ _ _ _ ih => exact ih.same rfl
  | hello hd _ _ _ _ _ _ _ ih =>
    have hgreet : Grew _ (World.greet hd _) := ih.same rfl
    exact hgreet.queue _
  | helloFull _ _ _ _ _ _ _ _ ih => exact ih.same rfl
  | exhausted hd _ _ _ _ _ ih =>
    have hturned : Grew _ (World.turnAway hd _) := ih.same rfl
    exact hturned.queue _
  | exhaustedFull _ _ _ _ ih => exact ih.same rfl
  | deferred _ _ _ _ _ _ _ ih => exact (ih.queue _).same rfl
  | forget _ _ ih => exact ih.same rfl
  | gone _ _ _ ih => exact ih.same rfl

/-! ## Whole runs -/

variable (b) in
/-- The run goes on from one world to another. -/
inductive Continues (ok : Input → Prop) : World E → World E → Prop
  | refl (w : World E) : Continues ok w w
  | env {w₀ w : World E} (e : E) (h : Continues ok w₀ w) : Continues ok w₀ { w with env := e }
  | input {w₀ w : World E} (n : Nat) (P : Platform E) (i : Input) (hP : Honest b n P) (hi : ok i)
      (h : Continues ok w₀ w) : Continues ok w₀ (i.run b P w)

lemma Continues.reach {ok : Input → Prop} (h : Continues b ok w w') (hw : Reach b ok w) : Reach b ok w' := by
  induction h with
  | refl => exact hw
  | env e _ ih => exact .env e ih
  | input n P i hP hi _ ih => exact .input n P i hP hi ih

lemma Continues.grew {ok : Input → Prop} (h : Continues b ok w w') : Grew w w' := by
  induction h with
  | refl => exact .refl _
  | env _ _ ih => exact ih
  | input n P i hP _ _ ih =>
    exact ih.trans (turns_input (g := True) hP.backend i (fun _ _ => trivial) _).grew

lemma Reach.soundStats {ok : Input → Prop} (hw : Reach b ok w) : w.srv.stats.Sound := by
  obtain ⟨cfg, profile, loaded, env, hturns⟩ := hw.turns (g := True) fun _ _ => trivial
  refine Stats.Sound.grows ?_ hturns.grew
  rintro (_ | _ | _ | _) <;> rfl

/-- A counter that has counted fewer than `2 ^ 32` events shows their number, which is then also the
saturated number, and has never gone back. -/
theorem reach_statistics (hw : Reach b anyInput w) (hc : Continues b anyInput w w') (c : Counter)
    (hevents : w'.srv.stats.events c < 2 ^ 32) :
    (w'.srv.stats.value c).toNat = min (w'.srv.stats.events c) (2 ^ 32 - 1) ∧
      w.srv.stats.value c ≤ w'.srv.stats.value c := by
  have hle := Stats.Grows.events_le hc.grew c
  have hbefore := hw.soundStats.value_toNat (Nat.lt_of_le_of_lt hle hevents)
  have hafter := (hc.reach hw).soundStats.value_toNat hevents
  refine ⟨?_, ?_⟩
  · rw [hafter]
    omega
  · rw [UInt32.le_iff_toNat_le, hbefore, hafter]
    exact hle

/-! ## A counter that wraps -/

/-- A `HELLO` with the request id 2. -/
def World.mishears (w : World Unit) : World Unit := w.listens (hostHeader .hello 0 2 0) 1 []

lemma mishears_eq {w : World Unit} (hrx : w.srv.rx = RxParser.init 0) (hnow : w.srv.nowMs = 0) :
    w.mishears = w.act Server.protocolError := by
  have hsame : (w.act (Server.setNow w.srv.nowMs)).act (Server.setRx (RxParser.init w.srv.nowMs)) = w := by
    rw [hnow, ← hrx, ← hnow]
    rfl
  unfold World.mishears World.listens World.hears
  rw [hsame]
  rfl

/-- The server after its start and `n` such frames. -/
def misheardWorld (n : Nat) : World Unit := World.mishears^[n] freshWorld

lemma misheardWorld_succ (n : Nat) : misheardWorld (n + 1) = (misheardWorld n).mishears :=
  Function.iterate_succ_apply' ..

lemma misheardWorld_srv (n : Nat) : (misheardWorld n).srv =
    { freshWorld.srv with stats := (List.replicate n Counter.protocolErrors).foldr Stats.count {} } := by
  induction n with
  | zero => rfl
  | succ n ih =>
    rw [misheardWorld_succ, mishears_eq (by rw [ih]; rfl) (by rw [ih]; rfl), srv_act, ih]
    rfl

lemma misheardWorld_continues (n k : Nat) :
    Continues Build.default anyInput (misheardWorld n) (misheardWorld (n + k)) := by
  induction k with
  | zero => exact .refl _
  | succ k ih =>
    have hrx : (misheardWorld (n + k)).srv.rx = RxParser.init 0 := by
      rw [misheardWorld_srv]
      rfl
    have hinput := Continues.input 0 silentPlatform
      (.usbRx (wireFrame ((hostHeader .hello 0 2 0).stamped 1 0) []) (misheardWorld (n + k)).srv.nowMs)
      silentPlatform_honest trivial ih
    rw [← Nat.add_assoc, misheardWorld_succ, World.mishears, World.listens,
      ← onUsbRx_wireFrame hrx (hostHeader .hello 0 2 0) 1 (Nat.zero_le _)]
    exact hinput

lemma reach_misheardWorld (n : Nat) : Reach Build.default anyInput (misheardWorld n) := by
  have hrun := misheardWorld_continues 0 n
  rw [Nat.zero_add] at hrun
  exact hrun.reach reach_freshWorld

lemma events_misheardWorld (n : Nat) : (misheardWorld n).srv.stats.events .protocolErrors = n := by
  rw [misheardWorld_srv]
  induction n with
  | zero => rfl
  | succ n ih =>
    rw [List.replicate_succ, List.foldr_cons, Stats.events_count]
    exact congrArg (· + 1) ih

/-- Three malformed frames are three protocol errors. -/
theorem reach_statistics_misheardWorld :
    (misheardWorld 3).srv.stats.events .protocolErrors < 2 ^ 32 ∧
      ((misheardWorld 3).srv.stats.value .protocolErrors).toNat = min 3 (2 ^ 32 - 1) ∧
      (misheardWorld 1).srv.stats.value .protocolErrors ≤ (misheardWorld 3).srv.stats.value .protocolErrors := by
  have hevents := events_misheardWorld 3
  have hfew : (misheardWorld 3).srv.stats.events .protocolErrors < 2 ^ 32 := by
    rw [hevents]
    decide
  have hrun := reach_statistics (reach_misheardWorld 1) (misheardWorld_continues 1 2) .protocolErrors hfew
  rw [hevents] at hrun
  exact ⟨hfew, hrun⟩

/-- After `2 ^ 32 - 1` malformed frames the counter is at its maximum, and after one more it is zero. -/
theorem protocolErrors_wrap :
    Reach Build.default anyInput (misheardWorld (2 ^ 32 - 1)) ∧
      Continues Build.default anyInput (misheardWorld (2 ^ 32 - 1)) (misheardWorld (2 ^ 32)) ∧
      (misheardWorld (2 ^ 32 - 1)).srv.stats.value .protocolErrors = 0xffffffff ∧
      (misheardWorld (2 ^ 32)).srv.stats.value .protocolErrors = 0 ∧
      (misheardWorld (2 ^ 32)).srv.stats.events .protocolErrors = 2 ^ 32 := by
  have hshows (n : Nat) : (misheardWorld n).srv.stats.value .protocolErrors = UInt32.ofNat n := by
    rw [(reach_misheardWorld n).soundStats .protocolErrors, events_misheardWorld]
  refine ⟨reach_misheardWorld _, misheardWorld_continues (2 ^ 32 - 1) 1, ?_, ?_, events_misheardWorld _⟩
  · rw [hshows]
    rfl
  · rw [hshows]
    rfl

end RemoteBridge
