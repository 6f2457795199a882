import RemoteBridge.Framework.Delimited
import RemoteBridge.Product.Host

/-!
# The wire carries whole frames

What `out()` has accepted and what is still in the output ring are together a concatenation of encoded
frames: frames are appended whole, bytes leave at the front, and a teardown cuts the ring behind its first
delimiter, which is the end of the frame in transit.  `GOODBYE` puts the ring back as it was before its
teardown; this is sound because a server without a session and without a stream never pumps, so the
backend's reports during the teardown leave the memory of the ring alone.
-/

namespace RemoteBridge

open World

variable {E : Type} {b : Build} {k : Nat} {w w' : World E}

/-! ## Statement -/

/-- The bytes `out()` has accepted; the log is newest first. -/
def sentBytes : List Ev → List UInt8
  | [] => []
  | .sent bytes :: log => sentBytes log ++ bytes
  | _ :: log => sentBytes log

/-- A complete frame: a run without a delimiter that decodes, with a correct CRC, and one delimiter. -/
def CompleteFrame (f : List UInt8) : Prop :=
  ∃ run h payload, 0 ∉ run ∧ f = run ++ [0] ∧ RxParser.decodeRun run = .frame h payload true

/-- Complete frames, and then a prefix of one more. -/
def FrameStream (bytes : List UInt8) : Prop :=
  ∃ (fs : List (List UInt8)) (tail f : List UInt8),
    (∀ g ∈ fs, CompleteFrame g) ∧ bytes = fs.flatten ++ tail ∧ CompleteFrame f ∧ tail <+: f

variable (b) in
/-- The bytes on the wire are whole frames at every moment; a teardown keeps the ring up to its first
delimiter; and `GOODBYE` keeps all of it. -/
structure WireIntegrity (w : World E) : Prop where
  stream : ∀ log, log <:+ w.log → FrameStream (sentBytes log)
  teardown : ∀ s, Ev.closed s ∈ w.log →
    (s.withdraw b).out.contents b.outRing = upTo 0 (s.out.contents b.outRing)
  goodbye : ∀ s s', Ev.parted s s' ∈ w.log → s'.out.contents b.outRing = s.out.contents b.outRing

/-! ## Frames -/

lemma completeFrame_wireFrame (h : Header) (txSeq : UInt32) (payload : List UInt8)
    (hlen : payload.length ≤ maxPayload) :
    CompleteFrame (wireFrame (h.stamped txSeq payload.length) payload) :=
  ⟨_, _, _, zero_not_mem_cobsEncode _, rfl, RxParser.decodeRun_cobsEncode h txSeq hlen⟩

lemma CompleteFrame.framed {f : List UInt8} (h : CompleteFrame f) : Framed 0 f := by
  obtain ⟨run, _, _, hrun, hf, _⟩ := h
  exact ⟨run, hrun, hf⟩

lemma Sendable.complete {h : Header} {payload bytes : List UInt8} {s : Server} {next : UInt32}
    (hs : Sendable b h payload s bytes next) : CompleteFrame bytes := by
  have henc := hs.encoded
  unfold frameEncode at henc
  split at henc
  · cases henc
  · next hlen =>
    obtain ⟨rfl, -⟩ := Prod.mk.inj (Option.some.inj henc)
    exact completeFrame_wireFrame h _ payload (by omega)

/-- A prefix of whole frames is whole frames and a prefix of one more. -/
lemma frameStream_upTo {fs : List (List UInt8)} {bytes : List UInt8}
    (hfs : ∀ f ∈ fs, CompleteFrame f) (h : bytes <+: fs.flatten) : FrameStream bytes := by
  obtain ⟨last, hlast⟩ : ∃ last, CompleteFrame last :=
    ⟨_, completeFrame_wireFrame {} 0 [] (Nat.zero_le _)⟩
  obtain ⟨gs, tail, hgs, hbytes, f, hf, htail⟩ := @exists_complete_upTo _ _ _ h last
  refine ⟨gs, tail, f, fun g hg => hfs g (hgs.subset hg), hbytes, ?_, htail⟩
  rcases hf with hf | rfl
  · exact hfs f hf
  · exact hlast

/-! ## The ring -/

/-- The part of the ring that a teardown keeps. -/
lemma contents_cut {s : Server} (hok : s.out.Ok b.outRing) :
    (s.out.setLen (s.firstFrameLen b)).contents b.outRing = upTo 0 (s.out.contents b.outRing) ∧
      (s.out.setLen (s.firstFrameLen b)).Ok b.outRing := by
  have hle : s.firstFrameLen b ≤ s.out.len := by
    unfold Server.firstFrameLen
    cases hfind : (List.range s.out.len).find? fun i =>
        s.out.mem ((s.out.head + i) % b.outRing) == 0 with
    | none => simp
    | some i =>
      have hi := List.mem_range.mp (List.mem_of_find?_eq_some hfind)
      simpa using Nat.succ_le_of_lt hi
  obtain ⟨hcontents, hok'⟩ := Ring.contents_setLen hok hle
  refine ⟨?_, hok'⟩
  rw [hcontents]
  exact take_find_eq_upTo (fun i => s.out.mem ((s.out.head + i) % b.outRing)) s.out.len

lemma out_withdraw (s : Server) : (s.withdraw b).out = s.out.setLen (s.firstFrameLen b) := by
  unfold Server.withdraw
  dsimp only [Server.stopDelivery, Server.ctlClear]
  split <;> rfl

/-! ## The invariant -/

variable (b) in
/-- Accepted bytes and ring contents are whole frames. -/
structure Streams (w : World E) : Prop where
  ok : w.srv.out.Ok b.outRing
  whole : ∃ fs : List (List UInt8), (∀ f ∈ fs, CompleteFrame f) ∧
    sentBytes w.log ++ w.srv.out.contents b.outRing = fs.flatten
  teardown : ∀ s, Ev.closed s ∈ w.log →
    (s.withdraw b).out.contents b.outRing = upTo 0 (s.out.contents b.outRing)
  goodbye : ∀ s s', Ev.parted s s' ∈ w.log → s'.out.contents b.outRing = s.out.contents b.outRing

/-- The events that the invariant reads. -/
def Ev.onWire : Ev → Bool
  | .sent _ | .closed _ | .parted _ _ => true
  | _ => false

lemma sentBytes_append {l log : List Ev} (hl : ∀ e ∈ l, e.onWire = false) :
    sentBytes (l ++ log) = sentBytes log := by
  induction l with
  | nil => rfl
  | cons e l ih =>
    rw [List.forall_mem_cons] at hl
    cases e <;> first | exact ih hl.2 | cases hl.1

/-- A step that leaves the ring alone. -/
lemma Streams.next {l : List Ev} (hw : Streams b w) (hlog : w'.log = l ++ w.log)
    (hl : ∀ e ∈ l, e.onWire = false) (hout : w'.srv.out = w.srv.out) : Streams b w' := by
  have hold : ∀ e ∈ w'.log, e.onWire = true → e ∈ w.log := by
    intro e he hwire
    rw [hlog] at he
    rcases List.mem_append.mp he with hnew | hold
    · rw [hl e hnew] at hwire
      cases hwire
    · exact hold
  refine ⟨hout ▸ hw.ok, ?_, fun s hs => hw.teardown s (hold _ hs rfl),
    fun s s' hs => hw.goodbye s s' (hold _ hs rfl)⟩
  rw [hlog, sentBytes_append hl, hout]
  exact hw.whole

lemma Streams.act (hw : Streams b w) (f : Server → Server) (hf : (f w.srv).out = w.srv.out) :
    Streams b (w.act f) :=
  hw.next (l := []) rfl (by simp) hf

lemma Streams.note (hw : Streams b w) (e : Ev) (he : e.onWire = false) : Streams b (w.note e) :=
  hw.next (l := [e]) rfl (by simpa using he) rfl

lemma Streams.queue (hw : Streams b w) (slot : CtlSlot) : Streams b (w.queue slot) :=
  (hw.act _ (by simp)).note _ rfl

/-- A frame is appended whole. -/
lemma Streams.append {out : Ring UInt8} {bytes : List UInt8} {l : List Ev} (hw : Streams b w)
    (hwrite : w.srv.out.write b.outRing bytes = some out) (hbytes : CompleteFrame bytes)
    (hout : w'.srv.out = out) (hlog : w'.log = l ++ w.log) (hl : ∀ e ∈ l, e.onWire = false) :
    Streams b w' := by
  obtain ⟨hcontents, hok⟩ := Ring.contents_write hw.ok hwrite
  obtain ⟨fs, hfs, hwhole⟩ := hw.whole
  have hsame : Streams b { w' with srv := { w'.srv with out := w.srv.out } } :=
    hw.next hlog hl rfl
  refine ⟨hout ▸ hok, ⟨fs ++ [bytes], ?_, ?_⟩, hsame.teardown, hsame.goodbye⟩
  · intro f hf
    rcases List.mem_append.mp hf with hf | hf
    · exact hfs f hf
    · rw [List.mem_singleton.mp hf]
      exact hbytes
  · rw [hout, hcontents, hlog, sentBytes_append hl, ← List.append_assoc, hwhole]
    simp

lemma Sendable.write {h : Header} {payload bytes : List UInt8} {s : Server} {next : UInt32}
    (hs : Sendable b h payload s bytes next) (hok : s.out.Ok b.outRing) :
    s.out.write b.outRing bytes = some ((s.out.write b.outRing bytes).getD s.out) := by
  rw [Ring.write_eq bytes hok hs.fits]
  rfl

lemma Streams.emit (hw : Streams b w) {origin : Origin} {h : Header} {payload bytes : List UInt8}
    {next : UInt32} (hs : Sendable b h payload w.srv bytes next) :
    Streams b (w.emit b origin h payload bytes next) :=
  hw.append (l := [_]) (hs.write hw.ok) hs.complete rfl rfl (by simp [Ev.onWire])

/-- The bytes that leave are the first of the ring. -/
lemma contents_send {n : Nat} (hok : w.srv.out.Ok b.outRing) (hn : n ≤ (w.srv.chunk b).length) :
    (w.srv.chunk b).take n ++ (w.send b n).srv.out.contents b.outRing = w.srv.out.contents b.outRing ∧
      (w.send b n).srv.out.Ok b.outRing := by
  have hchunk : (w.srv.chunk b).take n = (w.srv.out.contents b.outRing).take n := by
    unfold Server.chunk at hn ⊢
    rw [List.take_take]
    congr 1
    rw [List.length_take] at hn
    omega
  have hlen : n ≤ w.srv.out.len := by
    unfold Server.chunk at hn
    rw [List.length_take, Ring.length_contents] at hn
    omega
  obtain ⟨hcontents, hok'⟩ := Ring.contents_consume hok hlen
  refine ⟨?_, hok'⟩
  show _ ++ (w.srv.out.consume b.outRing n).contents b.outRing = _
  rw [hchunk, hcontents, List.take_append_drop]

/-- Bytes leave the ring in their order. -/
lemma Streams.send (hw : Streams b w) {n : Nat} (hn : n ≤ (w.srv.chunk b).length) :
    Streams b (w.send b n) := by
  obtain ⟨hcontents, hok⟩ := contents_send hw.ok hn
  obtain ⟨fs, hfs, hwhole⟩ := hw.whole
  have hold : ∀ {e : Ev}, e ∈ (w.send b n).log → (∀ bytes, e ≠ .sent bytes) → e ∈ w.log := by
    intro e he hne
    rcases List.mem_cons.mp he with hhead | htail
    · exact absurd hhead (hne _)
    · exact htail
  refine ⟨hok, ⟨fs, hfs, ?_⟩, fun s hs => hw.teardown s (hold hs (by simp)),
    fun s s' hs => hw.goodbye s s' (hold hs (by simp))⟩
  show sentBytes w.log ++ (w.srv.chunk b).take n ++ (w.send b n).srv.out.contents b.outRing = fs.flatten
  rw [List.append_assoc, hcontents, hwhole]

/-- A teardown cuts the ring behind the frame in transit. -/
lemma Streams.withdraw (hw : Streams b w) : Streams b (w.withdraw b) := by
  obtain ⟨hcontents, hok⟩ := contents_cut hw.ok
  obtain ⟨fs, hfs, hwhole⟩ := hw.whole
  obtain ⟨gs, hgs, hcut⟩ := exists_stream_upTo (fun f hf => (hfs f hf).framed) hwhole
  have hout : (w.withdraw b).srv.out = w.srv.out.setLen (w.srv.firstFrameLen b) := out_withdraw w.srv
  refine ⟨hout ▸ hok, ⟨gs, fun g hg => hfs g (hgs.subset hg), ?_⟩, fun s hs => ?_, fun s s' hs => ?_⟩
  · rw [hout, hcontents]
    exact hcut
  · rcases List.mem_cons.mp hs with hhead | htail
    · obtain rfl : s = w.srv := by injection hhead
      rw [out_withdraw]
      exact hcontents
    · exact hw.teardown s htail
  · rcases List.mem_cons.mp hs with hhead | htail
    · cases hhead
    · exact hw.goodbye s s' htail

lemma Streams.push (hw : Streams b w) (op : EventOp) (payload : List UInt8) (f : Server → Server)
    (hf : ∀ s, (f s).out = s.out) : Streams b ((w.pushMedia op payload).act f) :=
  hw.next (l := [_]) rfl (by simp [Ev.onWire]) (hf _)

lemma Streams.announce (hw : Streams b w) (connCtx : UInt32) : Streams b (w.announce b connCtx) := by
  rcases announce_cases (b := b) connCtx w with ⟨_, heq⟩ | heq
  · rw [heq]
    exact hw.queue _
  · rw [heq]
    exact (hw.act _ rfl).withdraw

lemma Streams.retires (hw : Streams b w) (hr : Retires w w') : Streams b w' := by
  cases hr with
  | plain _ => exact hw.act _ rfl
  | cancel _ _ => exact ((hw.act _ rfl).act _ rfl).note _ rfl

lemma Moves.streams (h : Moves b k w w') (hw : Streams b w) : Streams b w' := by
  induction h with
  | refl => exact hw
  | send _ _ hn _ ih => exact (ih hw).send hn
  | flush _ _ ih => exact (ih hw).note _ rfl
  | emitCtl _ _ _ _ _ _ _ _ hs _ _ ih => exact ((ih hw).emit hs).act _ (by simp)
  | emitKey _ _ _ _ _ _ _ hs _ ih => exact ((ih hw).emit hs).act _ rfl
  | emitMedia _ _ _ _ _ _ _ _ hs _ ih => exact ((ih hw).emit hs).act _ rfl
  | pump _ _ _ _ ihf ih => exact ihf (ih hw)
  | teardown _ _ ih ihr => exact ihr (ih hw).withdraw
  | keys _ rep _ ih => exact ((ih hw).act _ (onlyKeys_applyKeys _ rep).out).note _ rfl
  | discard _ _ _ ih => exact (ih hw).act _ rfl
  | cut _ _ _ _ _ _ _ ihf ih =>
    exact (ihf ((ih hw).act _ rfl)).push _ _ _ fun s => (onlyVoice_endQueued s true).out
  | drain _ _ _ _ _ _ _ _ ihf ih =>
    exact (ihf (ih hw)).push _ _ _ fun s => (onlyVoice_endQueued s false).out
  | env _ _ _ ih => exact (ih hw).next (l := []) rfl (by simp) rfl
  | quiet _ f hq _ ih => exact (ih hw).act _ hq.out
  | called _ _ _ _ _ ih => exact (ih hw).note _ rfl
  | fault _ _ _ ih => exact (ih hw).note _ rfl
  | event _ _ _ _ _ _ _ ih => exact (ih hw).queue _
  | @link _ _ _ w₁ _ _ _ _ hn _ _ _ _ ihw ih =>
    have hnew : Streams b w₁ := by
      rcases hn with rfl | ⟨_, _, rfl⟩
      · exact ih hw
      · exact ((ih hw).act _ rfl).note _ rfl
    exact ((ihw (hnew.act _ rfl)).act _ (by simp)).announce _
  | profile _ _ _ _ ih => exact (((ih hw).act _ rfl).note _ rfl).announce _
  | start _ _ _ _ _ _ _ _ ihf ih => exact (ihf ((ih hw).act _ rfl)).push _ _ _ fun _ => rfl
  | noStart _ _ _ _ _ _ _ ihf ih => exact (ihf ((ih hw).act _ rfl)).act _ rfl
  | format _ _ _ _ _ _ _ _ _ _ ihf ih => exact (ihf (ih hw)).push _ _ _ fun _ => rfl
  | unit _ _ _ _ _ ih => exact (ih hw).act _ rfl
  | fragment _ _ _ _ _ _ _ _ ihf ih =>
    exact (ihf (ih hw)).push _ _ _ fun s => (onlyVoice_dataQueued s _ _ _).out
  | resumeVoice _ _ _ ih => exact (ih hw).act _ rfl
  | prompt _ _ _ _ _ _ _ _ ih => exact (ih hw).act _ rfl
  | cancel _ _ _ _ ih => exact ((ih hw).act _ rfl).note _ rfl
  | finish _ _ _ hv _ _ _ ihm ih => exact ((ihm ((ih hw).retires hv)).act _ rfl).note _ rfl
  | granted _ _ _ ih => exact (ih hw).note _ rfl
  | enableEvents _ _ _ ih => exact ((ih hw).act _ (onlyKeys_enableEvents _).out).note _ rfl
  | stopEvents _ _ ih => exact (ih hw).act _ rfl
  | beginFind _ _ _ _ _ ih => exact (ih hw).act _ rfl
  | beginOp _ _ _ _ _ _ _ _ ih => exact ((ih hw).act _ rfl).note _ rfl
  | enableVoice _ _ _ _ _ _ ih => exact (ih hw).act _ rfl
  | disableVoice _ _ ih => exact (ih hw).act _ rfl

/-! ## Reports without a session -/

/-- The memory of the ring, its head and the accepted bytes are untouched, and no codec is accepted. -/
structure Untouched (w w' : World E) : Prop where
  mem : w'.srv.out.mem = w.srv.out.mem
  head : w'.srv.out.head = w.srv.out.head
  sent : sentBytes w'.log = sentBytes w.log
  maxUnit : w'.srv.voice.acceptedMaxUnit = 0

lemma Untouched.next {l : List Ev} {v : World E} (h : Untouched w w') (hlog : v.log = l ++ w'.log)
    (hl : ∀ e ∈ l, e.onWire = false) (hout : v.srv.out = w'.srv.out)
    (hmax : v.srv.voice.acceptedMaxUnit = w'.srv.voice.acceptedMaxUnit) : Untouched w v :=
  ⟨hout ▸ h.mem, hout ▸ h.head, by rw [hlog, sentBytes_append hl, h.sent], hmax.trans h.maxUnit⟩

lemma Untouched.act (h : Untouched w w') (f : Server → Server) (hout : (f w'.srv).out = w'.srv.out)
    (hmax : (f w'.srv).voice.acceptedMaxUnit = w'.srv.voice.acceptedMaxUnit) :
    Untouched w (w'.act f) :=
  h.next (l := []) rfl (by simp) hout hmax

lemma Untouched.note (h : Untouched w w') (e : Ev) (he : e.onWire = false) : Untouched w (w'.note e) :=
  h.next (l := [e]) rfl (by simpa using he) rfl rfl

lemma Untouched.trans {v : World E} (h₁ : Untouched w w') (h₂ : Untouched w' v) : Untouched w v :=
  ⟨h₂.mem.trans h₁.mem, h₂.head.trans h₁.head, h₂.sent.trans h₁.sent, h₂.maxUnit⟩

lemma untouched_withdraw (w : World E) : Untouched w (w.withdraw b) := by
  have hout : (w.withdraw b).srv.out = w.srv.out.setLen (w.srv.firstFrameLen b) := out_withdraw w.srv
  exact ⟨by rw [hout]; rfl, by rw [hout]; rfl, rfl, by simp [World.withdraw]⟩

lemma Untouched.announce (h : Untouched w w') (connCtx : UInt32) :
    Untouched w (w'.announce b connCtx) := by
  rcases announce_cases (b := b) connCtx w' with ⟨_, heq⟩ | heq
  · rw [heq]
    exact (h.act _ (by simp) (by simp)).note _ rfl
  · rw [heq]
    exact (h.act _ rfl rfl).trans (untouched_withdraw _)

lemma Untouched.retires {v : World E} (h : Untouched w w') (hr : Retires w' v) : Untouched w v := by
  cases hr with
  | plain _ => exact h.act _ rfl rfl
  | cancel _ _ => exact ((h.act _ rfl rfl).act _ rfl rfl).note _ rfl

/-- What the backend reports without a session and a stream never reaches the ring. -/
lemma Moves.untouched (h : Moves b k w w') (hk : 1 ≤ k) (ha : w.srv.session.active = false)
    (hd : w.srv.voice.delivering = false) (hm : w.srv.voice.acceptedMaxUnit = 0) :
    Untouched w w' := by
  induction h with
  | refl => exact ⟨rfl, rfl, rfl, hm⟩
  | send hk' => omega
  | flush hk' => omega
  | emitCtl hk' => omega
  | emitKey hk' => omega
  | emitMedia hk' => omega
  | pump _ hd' _ h => exact absurd hd' (by simp [h.idle ha hd])
  | @teardown _ _ v _ h hr ih ihr =>
    have hcut : Untouched v (v.withdraw b) := untouched_withdraw v
    exact ((ih hk ha hd hm).trans hcut).trans (ihr (by omega) (by simp [World.withdraw])
      (by simp [World.withdraw]) hcut.maxUnit)
  | @keys _ _ v _ rep _ ih =>
    have hsame := onlyKeys_applyKeys v.srv rep
    exact ((ih hk ha hd hm).act _ hsame.out (by rw [hsame.voice])).note _ rfl
  | discard _ hd' h =>
    -- without a session no stream is delivered, so the steps of a stream do not occur
    exact absurd hd' (by simp [h.idle ha hd])
  | cut _ _ hd' _ _ _ h => exact absurd hd' (by simp [h.idle ha hd])
  | drain _ _ hd' _ _ _ _ h => exact absurd hd' (by simp [h.idle ha hd])
  | env _ _ _ ih => exact (ih hk ha hd hm).next (l := []) rfl (by simp) rfl rfl
  | quiet _ f hq _ ih =>
    have hmax := congrArg Voice.acceptedMaxUnit hq.stream
    exact (ih hk ha hd hm).act _ hq.out hmax
  | called _ _ _ _ _ ih => exact (ih hk ha hd hm).note _ rfl
  | fault _ _ _ ih => exact (ih hk ha hd hm).note _ rfl
  | event _ _ _ _ _ _ _ ih => exact ((ih hk ha hd hm).act _ (by simp) (by simp)).note _ rfl
  | @link _ _ v v₁ v₂ _ state _ hn _ _ _ h ihw ih =>
    have hbefore := ih hk ha hd hm
    have hset : Untouched v (v₁.act (Server.setLink state)) ∧ v₁.srv.session.active = false ∧
        v₁.srv.voice.delivering = false := by
      rcases hn with rfl | ⟨_, _, rfl⟩
      all_goals exact ⟨⟨rfl, rfl, rfl, hbefore.maxUnit⟩, h.inactive ha, h.idle ha hd⟩
    have hwindow := ihw (by omega) hset.2.1 hset.2.2 hset.1.maxUnit
    have hmax := congrArg Voice.acceptedMaxUnit (core_settle v₂.srv (v.srv.leaves state) state)
    exact (((hbefore.trans hset.1).trans hwindow).act _ (by simp) hmax).announce _
  | profile _ _ _ _ ih => exact (((ih hk ha hd hm).act _ rfl rfl).note _ rfl).announce _
  | start _ f _ hc _ _ _ _ _ ih =>
    exact absurd hc (by simp [codecAccepted_eq_false (ih hk ha hd hm).maxUnit])
  | noStart _ f _ hc _ _ _ _ ih =>
    exact absurd hc (by simp [codecAccepted_eq_false (ih hk ha hd hm).maxUnit])
  | format _ _ hd' _ _ _ _ _ _ h => exact absurd hd' (by simp [h.idle ha hd])
  | unit _ _ _ _ _ ih => exact (ih hk ha hd hm).act _ rfl rfl
  | fragment _ _ _ _ ht _ _ h => exact absurd ht.delivering (by simp [h.idle ha hd])
  | resumeVoice _ _ _ ih => exact (ih hk ha hd hm).act _ rfl rfl
  | prompt _ _ _ _ _ _ _ _ ih => exact (ih hk ha hd hm).act _ rfl rfl
  | cancel _ _ _ _ ih => exact ((ih hk ha hd hm).act _ rfl rfl).note _ rfl
  | finish _ _ _ hv _ _ h ihm ih =>
    have hbefore := (ih hk ha hd hm).retires hv
    have hafter := ihm (by omega) (by rw [hv.session]; exact h.inactive ha)
      (by rw [hv.voice]; exact h.idle ha hd) hbefore.maxUnit
    exact ((hbefore.trans hafter).act _ rfl rfl).note _ rfl
  | granted _ _ _ ih => exact (ih hk ha hd hm).note _ rfl
  | enableEvents _ _ _ ih =>
    have hsame := onlyKeys_enableEvents
    exact ((ih hk ha hd hm).act _ (hsame _).out (by rw [(hsame _).voice])).note _ rfl
  | stopEvents _ _ ih => exact (ih hk ha hd hm).act _ rfl rfl
  | beginFind _ _ _ _ _ ih => exact (ih hk ha hd hm).act _ rfl rfl
  | beginOp _ _ _ _ _ _ _ _ ih => exact ((ih hk ha hd hm).act _ rfl rfl).note _ rfl
  | enableVoice _ _ _ ha' _ h => exact absurd ha' (by simp [h.inactive ha])
  | disableVoice _ _ ih =>
    have hbefore := ih hk ha hd hm
    exact ⟨hbefore.mem, hbefore.head, hbefore.sent, rfl⟩

/-- `GOODBYE` gets the ring back as it was. -/
lemma Streams.keepCommitted (hw : Streams b w) (hr : Moves b 2 (w.withdraw b) w') (h : Header) :
    Streams b (w'.keepCommitted w.srv h) := by
  have hcut : Untouched w (w.withdraw b) := untouched_withdraw w
  have huntouched := hcut.trans (hr.untouched (by omega) (by simp [World.withdraw])
    (by simp [World.withdraw]) hcut.maxUnit)
  have hout : (w'.keepCommitted w.srv h).srv.out = w.srv.out := by
    have hring : w'.srv.out.setLen w.srv.out.len = w.srv.out := by
      rw [Ring.setLen, huntouched.mem, huntouched.head]
    exact hring
  have hafter := hr.streams hw.withdraw
  obtain ⟨fs, hfs, hwhole⟩ := hw.whole
  refine ⟨hout ▸ hw.ok, ⟨fs, hfs, ?_⟩, fun s hs => ?_, fun s s' hs => ?_⟩
  · rw [hout]
    show sentBytes w'.log ++ _ = _
    rw [huntouched.sent, hwhole]
  · rcases List.mem_cons.mp hs with hhead | hs
    · cases hhead
    · rcases List.mem_cons.mp hs with hhead | hs
      · cases hhead
      · exact hafter.teardown s hs
  · rcases List.mem_cons.mp hs with hhead | hs
    · cases hhead
    · rcases List.mem_cons.mp hs with hhead | hs
      · obtain ⟨rfl, rfl⟩ : s = w.srv ∧ s' = (w'.act (Server.setOutLen w.srv.out.len)).srv := by
          injection hhead with h₁ h₂
          exact ⟨h₁, h₂⟩
        exact congrArg (Ring.contents b.outRing) hout
      · exact hafter.goodbye s s' hs

/-! ## Whole runs -/

lemma Answer.streams {h : Header} (ha : Answer b h w w') (hw : Streams b w) : Streams b w' := by
  have hpatch : ∀ {v : World E} (closing : UInt32), Streams b v →
      Streams b (v.act (Server.patchSlotZero closing)) := by
    intro v closing hv
    refine hv.act _ ?_
    unfold Server.patchSlotZero
    split <;> rfl
  cases ha with
  | reply status payload _ _ => exact (hw.note _ rfl).queue _
  | full len _ hr => exact hr.streams ((hw.note _ rfl).act _ rfl).withdraw
  | deferred _ => exact (hw.act _ rfl).note _ rfl
  | goodbye _ hr _ => exact hpatch _ ((hw.keepCommitted hr h).queue _)
  | goodbyeFull _ hr _ hr' =>
    exact hpatch _ (hr'.streams ((hw.keepCommitted hr h).act _ rfl).withdraw)

lemma Handles.streams {h : Header} (hh : Handles b h w w') (hw : Streams b w) : Streams b w' := by
  obtain ⟨w₁, w₂, h₁, ha, h₂⟩ := hh
  exact h₂.streams (ha.streams (h₁.streams hw))

lemma Turns.streams {g : Prop} (hg : ¬ g) (h : Turns b g w w') (hw : Streams b w) : Streams b w' := by
  induction h with
  | refl => exact hw
  | moves hm _ ih => exact hm.streams ih
  | pump hm _ ih => exact hm.streams ih
  | seq _ _ _ ih => exact ih.act _ rfl
  | request hd payload _ hh _ ih => exact hh.streams ((ih.act _ rfl).note _ rfl)
  | refuse _ _ _ _ _ _ _ ih => exact (ih.note _ rfl).queue _
  | refuseFull _ _ _ _ ih => exact ih.note _ rfl
  | raw payload out hlen ho _ ih =>
    exact ih.append (l := [_]) ho (completeFrame_wireFrame _ _ _ hlen) rfl rfl (by simp [Ev.onWire])
  | hello _ _ _ _ _ _ _ _ ih => exact (((ih.act _ rfl).note _ rfl).act _ rfl).queue _
  | helloFull _ _ _ _ _ _ _ _ ih => exact ((ih.act _ rfl).note _ rfl).act _ rfl
  | exhausted _ _ _ _ _ _ ih => exact ((ih.act _ rfl).act _ rfl).queue _
  | exhaustedFull _ _ _ _ ih => exact (ih.act _ rfl).act _ rfl
  | deferred _ _ _ _ _ _ _ ih => exact (ih.queue _).act _ rfl
  | forget _ _ ih => exact ih.act _ rfl
  | gone h' => exact absurd h' hg

lemma sentBytes_join (l log : List Ev) : sentBytes (l ++ log) = sentBytes log ++ sentBytes l := by
  induction l with
  | nil => exact (List.append_nil _).symm
  | cons e l ih =>
    cases e with
    | sent bytes =>
      show sentBytes (l ++ log) ++ bytes = sentBytes log ++ (sentBytes l ++ bytes)
      rw [ih, List.append_assoc]
    | _ => exact ih

lemma sentBytes_grows {log log' : List Ev} (h : log <:+ log') : sentBytes log <+: sentBytes log' := by
  obtain ⟨l, rfl⟩ := h
  exact ⟨sentBytes l, (sentBytes_join l log).symm⟩

/-- Inputs other than the loss of the USB host. -/
def Input.keepsHost : Input → Prop
  | .usbGone _ => False
  | _ => True

/-- In every run without the loss of the USB host the wire carries whole frames. -/
theorem reach_wireIntegrity (hw : Reach b Input.keepsHost w) : WireIntegrity b w := by
  obtain ⟨cfg, profile, loaded, env, hturns⟩ := hw.turns (g := False) fun _ h => h
  have hinit : Streams b
      ({ srv := Server.init b cfg profile loaded, env := env, log := [] } : World E) :=
    ⟨⟨b.outRing_pos, Nat.zero_le _⟩, ⟨[], by simp, rfl⟩, by simp, by simp⟩
  have hstreams := hturns.streams id hinit
  obtain ⟨fs, hfs, hwhole⟩ := hstreams.whole
  refine ⟨fun log hlog => ?_, hstreams.teardown, hstreams.goodbye⟩
  have hprefix : sentBytes log <+: fs.flatten :=
    (sentBytes_grows hlog).trans ⟨w.srv.out.contents b.outRing, hwhole⟩
  exact frameStream_upTo hfs hprefix

/-- A platform that takes ten bytes at a time. -/
def sippingPlatform : Platform Unit :=
  { silentPlatform with
    out := fun _ bytes => min 10 bytes.length
    out_le := fun _ _ => Nat.min_le_right _ _ }

/-- Ten bytes of the first reply are accepted, and a second `HELLO` cuts the ring behind that reply. -/
def cutWorld : World Unit :=
  (Input.flush.run Build.default sippingPlatform readyWorld).listens
    (hostHeader .hello 0 1 0) 1 (tlvPutBytes 1 (List.replicate 16 7) [])

/-- The new session says `GOODBYE`, and everything is accepted. -/
def partedWorld : World Unit :=
  Input.flush.run Build.default thirstyPlatform
    ((Input.flush.run Build.default sippingPlatform cutWorld).listens (hostHeader .goodbye 2 2 0) 2 [])

/-- What the runs come to; they share their beginning. -/
lemma partedWorld_facts :
    (Input.flush.run Build.default sippingPlatform readyWorld).srv.rx = RxParser.init 0 ∧
      (Input.flush.run Build.default sippingPlatform cutWorld).srv.rx = RxParser.init 0 ∧
      (sentBytes partedWorld.log).length = 246 ∧ partedWorld.srv.out.len = 0 := by
  decide +kernel

lemma reach_partedWorld : Reach Build.default Input.keepsHost partedWorld := by
  have hsip : ∀ {w : World Unit}, Reach Build.default Input.keepsHost w →
      Reach Build.default Input.keepsHost (Input.flush.run Build.default sippingPlatform w) := fun hw =>
    .input 0 sippingPlatform .flush (fun _ w => .refl w) trivial hw
  have hcut : Reach Build.default Input.keepsHost cutWorld :=
    (hsip (reach_readyWorld (fun _ _ => trivial) trivial)).listens (fun _ _ => trivial)
      partedWorld_facts.1 (by decide)
  exact ((hsip hcut).listens (fun _ _ => trivial) partedWorld_facts.2.1 (by decide)).thirsty trivial

/-- Whole frames, through a teardown with a frame in transit and through `GOODBYE`. -/
theorem reach_wireIntegrity_parted :
    WireIntegrity Build.default partedWorld ∧ (sentBytes partedWorld.log).length = 246 ∧
      partedWorld.srv.out.len = 0 :=
  ⟨reach_wireIntegrity reach_partedWorld, partedWorld_facts.2.2⟩

end RemoteBridge
