import RemoteBridge.Product.Wire
import RemoteBridge.Properties.ClientFraming
import RemoteBridge.Properties.FrameIsolation
import RemoteBridge.Properties.FrameNumbers
import RemoteBridge.Properties.PairingOrder
import RemoteBridge.Properties.WireStream

/-!
# The frames of a session reach the host

As long as a session lasts, a host that reads the line from the start hears exactly the frames that the
server has written in the session, none missing, none twice, in their order and unaltered, however the
bytes are cut into reads (`reach_frames_delivered`).  What teardowns cut from the ring belongs to sessions
that are over.

Three things are put together for this.  `FrameNumbers` says that the frames of a session carry its number
and count from one.  `WireStream` says that the line carries whole frames, apart from the remainder of one
that a teardown has cut.  And `Framing` says that a receiver finds the frames again in whatever pieces the
bytes arrive.  The new part is what the ring keeps (`Conveys`): the bytes that were accepted and those that
still wait are the encoded frames of the log, except for what was cut, and a cut takes away frames of the
session that ends with it only.

The host is the Python `FrameParser`.  It hears the frames of earlier sessions too; those of the newest are
told apart by the number in their headers.

Frames that are written and still in the ring have not been heard yet.  That they will be is the subject of
`OutputDrain`.
-/

namespace RemoteBridge

open World

variable {E : Type} {b : Build} {k : Nat} {w w' : World E} {log : List Ev} {id : UInt32}

/-! ## Frames in the log -/

/-- The frame that is written at an event. -/
def Ev.frame? : Ev → Option (Header × List UInt8)
  | .emitted _ h payload => some (h, payload)
  | .refused h payload => some (h, payload)
  | _ => none

/-- The frames that were written, oldest first; the log is newest first. -/
def writtenFrames (log : List Ev) : List (Header × List UInt8) := (log.filterMap Ev.frame?).reverse

/-- The frames that carry the number of a session. -/
def framesOf (id : UInt32) (log : List Ev) : List (Header × List UInt8) :=
  (writtenFrames log).filter fun f => f.1.sessionId == id

/-- A frame on the wire. -/
def encoded (f : Header × List UInt8) : List UInt8 := wireFrame f.1 f.2

lemma writtenFrames_cons (e : Ev) (log : List Ev) :
    writtenFrames (e :: log) = writtenFrames log ++ e.frame?.toList := by
  unfold writtenFrames
  rw [List.filterMap_cons]
  cases e.frame? <;> simp

lemma current_cons (e : Ev) (log : List Ev) :
    current (e :: log) = if e.opens then [] else e :: current log := by
  unfold current
  rw [List.takeWhile_cons]
  cases e.opens <;> rfl

variable (log) in
/-- Events that do not concern the ring. -/
lemma log_append {l : List Ev} (hl : ∀ e ∈ l, e.wired = false) :
    sentBytes (l ++ log) = sentBytes log ∧ writtenFrames (l ++ log) = writtenFrames log ∧
      writtenFrames (current (l ++ log)) = writtenFrames (current log) ∧
      sessionView (l ++ log) = sessionView log := by
  induction l with
  | nil => exact ⟨rfl, rfl, rfl, rfl⟩
  | cons e l ih =>
    rw [List.forall_mem_cons] at hl
    obtain ⟨hsent, hwritten, hcurrent, hview⟩ := ih hl.2
    have hnone : e.opens = false ∧ e.frame? = none := by
      have he := hl.1
      cases e <;> first | exact ⟨rfl, rfl⟩ | simp [Ev.wired] at he
    rw [List.cons_append, writtenFrames_cons, current_cons, hnone.1, if_neg Bool.false_ne_true,
      writtenFrames_cons, hnone.2, Option.toList_none, List.append_nil, List.append_nil]
    refine ⟨?_, hwritten, hcurrent, ?_⟩
    · rw [← hsent, ← List.singleton_append]
      refine sentBytes_append fun e' he' => ?_
      obtain rfl := List.mem_singleton.mp he'
      have he := hl.1
      cases e' <;> first | rfl | simp [Ev.wired] at he
    · rw [← hview, ← List.singleton_append]
      refine sessionView_append fun e' he' => ?_
      obtain rfl := List.mem_singleton.mp he'
      have he := hl.1
      cases e' <;> first | rfl | simp [Ev.wired] at he

/-! ## What the ring keeps -/

variable (b) in
/-- What `out()` has accepted and what the ring holds are written frames in their order, and with them all
frames of a session that lasts. -/
structure Conveys (w : World E) : Prop where
  ok : w.srv.out.Ok b.outRing
  kept : ∃ fs : List (Header × List UInt8), fs.Sublist (writtenFrames w.log) ∧
    ((sessionView w.log).live = true → writtenFrames (current w.log) <:+ fs) ∧
    sentBytes w.log ++ w.srv.out.contents b.outRing = (fs.map encoded).flatten

lemma framed_encoded (f : Header × List UInt8) : Framed 0 (encoded f) :=
  ⟨_, zero_not_mem_cobsEncode _, rfl⟩

namespace Conveys

/-- A step that leaves the ring alone. -/
lemma next {l : List Ev} (hw : Conveys b w) (hlog : w'.log = l ++ w.log) (hl : ∀ e ∈ l, e.wired = false)
    (hout : w'.srv.out = w.srv.out) : Conveys b w' := by
  obtain ⟨hsent, hwritten, hcurrent, hview⟩ := log_append w.log hl
  refine ⟨hout ▸ hw.ok, ?_⟩
  rw [hlog, hsent, hwritten, hcurrent, hview, hout]
  exact hw.kept

lemma act (hw : Conveys b w) (f : Server → Server) (hf : (f w.srv).out = w.srv.out) :
    Conveys b (w.act f) :=
  hw.next (l := []) rfl (by simp) hf

lemma note (hw : Conveys b w) (e : Ev) (he : e.wired = false) : Conveys b (w.note e) :=
  hw.next (l := [e]) rfl (by simpa using he) rfl

lemma queue (hw : Conveys b w) (slot : CtlSlot) : Conveys b (w.queue slot) :=
  (hw.act _ (by simp)).note _ rfl

/-- A frame is appended whole. -/
lemma write {out : Ring UInt8} {bytes : List UInt8} {e : Ev} {f : Header × List UInt8} (hw : Conveys b w)
    (hwrite : w.srv.out.write b.outRing bytes = some out) (hf : encoded f = bytes) (he : e.frame? = some f)
    (hout : w'.srv.out = out) (hlog : w'.log = e :: w.log) : Conveys b w' := by
  obtain ⟨hcontents, hok⟩ := Ring.contents_write hw.ok hwrite
  obtain ⟨fs, hsub, hcurrent, hbytes⟩ := hw.kept
  have hevent : e.opens = false ∧ sentBytes (e :: w.log) = sentBytes w.log ∧
      (sessionView (e :: w.log)).live = (sessionView w.log).live := by
    cases e <;> first | exact ⟨rfl, rfl, rfl⟩ | cases he
  obtain ⟨hopens, hsent, hlive⟩ := hevent
  refine ⟨hout ▸ hok, fs ++ [f], ?_, fun h => ?_, ?_⟩
  · rw [hlog, writtenFrames_cons, he]
    exact hsub.append_right _
  · rw [hlog, hlive] at h
    obtain ⟨front, hfront⟩ := hcurrent h
    refine ⟨front, ?_⟩
    rw [hlog, current_cons, hopens, if_neg Bool.false_ne_true, writtenFrames_cons, he, ← hfront,
      List.append_assoc]
    rfl
  · rw [hlog, hsent, hout, hcontents, ← List.append_assoc, hbytes, ← hf]
    simp

lemma withdraw (hw : Conveys b w) : Conveys b (w.withdraw b) := by
  obtain ⟨hcontents, hok⟩ := contents_cut hw.ok
  obtain ⟨fs, hsub, -, hbytes⟩ := hw.kept
  have hout : (w.withdraw b).srv.out = w.srv.out.setLen (w.srv.firstFrameLen b) := out_withdraw w.srv
  have hframed : ∀ g ∈ fs.map encoded, Framed 0 g := by
    intro g hg
    obtain ⟨f, -, rfl⟩ := List.mem_map.mp hg
    exact framed_encoded f
  obtain ⟨gs, hgs, hcut⟩ := exists_stream_upTo hframed hbytes
  obtain ⟨fs', hfs', rfl⟩ : ∃ fs', fs' <+: fs ∧ gs = fs'.map encoded := by
    refine ⟨fs.take gs.length, List.take_prefix _ _, ?_⟩
    rw [List.map_take]
    exact List.prefix_iff_eq_take.mp hgs
  refine ⟨hout ▸ hok, fs', hfs'.sublist.trans hsub, fun h => absurd h Bool.false_ne_true, ?_⟩
  rw [hout, hcontents]
  exact hcut

end Conveys

lemma WireStep.conveys (h : WireStep b w w') (hw : Conveys b w) : Conveys b w' := by
  cases h with
  | plain l hlog hl hout => exact hw.next hlog hl hout
  | send n hn =>
    have hchunk : (w.srv.chunk b).take n = (w.srv.out.contents b.outRing).take n := by
      unfold Server.chunk at hn ⊢
      rw [List.take_take]
      congr 1
      rw [List.length_take] at hn
      omega
    have hlen : n ≤ w.srv.out.len := by
      unfold Server.chunk at hn
      rw [List.length_take, Ring.length_contents] at hn
      omega
    obtain ⟨hcontents, hok⟩ := Ring.contents_consume hw.ok hlen
    obtain ⟨fs, hsub, hcurrent, hbytes⟩ := hw.kept
    have hwritten : writtenFrames (w.send b n).log = writtenFrames w.log := by
      unfold World.send
      rw [log_note, writtenFrames_cons]
      exact List.append_nil _
    have hnow : writtenFrames (current (w.send b n).log) = writtenFrames (current w.log) := by
      unfold World.send
      rw [log_note, current_cons, if_neg (by simp [Ev.opens]), writtenFrames_cons]
      exact List.append_nil _
    refine ⟨hok, fs, by rw [hwritten]; exact hsub, fun h => by rw [hnow]; exact hcurrent h, ?_⟩
    show sentBytes w.log ++ (w.srv.chunk b).take n ++
      (w.srv.out.consume b.outRing n).contents b.outRing = (fs.map encoded).flatten
    rw [hchunk, hcontents, List.append_assoc, List.take_append_drop, hbytes]
  | emit origin h payload bytes next hs =>
    have henc := hs.encoded
    unfold frameEncode at henc
    split at henc
    · cases henc
    · have hbytes : encoded (h.stamped w.srv.session.nextTxSeq payload.length, payload) = bytes :=
        (Prod.mk.inj (Option.some.inj henc)).1
      exact hw.write (hs.write hw.ok) hbytes rfl rfl rfl
  | withdraw => exact hw.withdraw

lemma Moves.conveys (h : Moves b k w w') (hw : Conveys b w) : Conveys b w' := by
  have hwire := h.wire
  clear h
  induction hwire with
  | refl => exact hw
  | tail _ hstep ih => exact hstep.conveys ih

lemma writtenFrames_sublist {log' : List Ev} (h : log <:+ log') :
    (writtenFrames log).Sublist (writtenFrames log') :=
  (h.sublist.filterMap _).reverse

/-- `GOODBYE` gets the ring back as it was. -/
lemma Conveys.keepCommitted (hw : Conveys b w) (hn : Numbering w) (hr : Moves b 2 (w.withdraw b) w')
    (h : Header) :
    Conveys b (w'.keepCommitted w.srv h) := by
  have hcut : Untouched w (w.withdraw b) := untouched_withdraw w
  have hidle : (w.withdraw b).srv.session.active = false := active_withdraw b w.srv
  have huntouched := hcut.trans (hr.untouched (by omega) hidle (delivering_withdraw b w.srv) hcut.maxUnit)
  have hout : (w'.keepCommitted w.srv h).srv.out = w.srv.out := by
    have hring : w'.srv.out.setLen w.srv.out.len = w.srv.out := by
      rw [Ring.setLen, huntouched.mem, huntouched.head]
    exact hring
  obtain ⟨fs, hsub, -, hbytes⟩ := hw.kept
  have hgrown : w.log <:+ (w'.keepCommitted w.srv h).log :=
    ((List.suffix_cons _ _).trans hr.log_suffix).trans
      ((List.suffix_cons _ _).trans (List.suffix_cons _ _))
  refine ⟨hout ▸ hw.ok, fs, hsub.trans (writtenFrames_sublist hgrown), fun hlive => ?_, ?_⟩
  · have hdead : (sessionView w'.log).live = false :=
      (hr.numbering hn.withdraw).signed.active.symm.trans (hr.inactive hidle)
    exact absurd (hdead.symm.trans hlive) Bool.false_ne_true
  · rw [hout]
    show sentBytes w'.log ++ _ = _
    rw [huntouched.sent, hbytes]

/-! ## Whole runs -/

lemma Answer.conveys {h : Header} (ha : Answer b h w w') (hw : Conveys b w) (hn : Numbering w) :
    Conveys b w' := by
  have hpatch : ∀ {u : World E} (closing : UInt32), Conveys b u →
      Conveys b (u.act (Server.patchSlotZero closing)) := by
    intro u closing hu
    refine hu.act _ ?_
    unfold Server.patchSlotZero
    split <;> rfl
  cases ha with
  | reply status payload _ _ => exact (hw.note _ rfl).queue _
  | full len _ hr => exact hr.conveys ((hw.note _ rfl).act _ rfl).withdraw
  | deferred _ => exact (hw.act _ rfl).note _ rfl
  | goodbye _ hr _ => exact hpatch _ ((hw.keepCommitted hn hr h).queue _)
  | goodbyeFull _ hr _ hr' => exact hpatch _ (hr'.conveys ((hw.keepCommitted hn hr h).act _ rfl).withdraw)

/-- A session begins, without frames. -/
lemma Conveys.greet (hw : Conveys b w) (h : Header) : Conveys b (w.greet h) := by
  obtain ⟨fs, hsub, -, hbytes⟩ := hw.kept
  refine ⟨hw.ok, fs, ?_, fun _ => ?_, hbytes⟩
  · show fs.Sublist (writtenFrames (Ev.opened _ w.srv :: w.log))
    rw [writtenFrames_cons]
    exact hsub.trans (List.sublist_append_left _ _)
  · show writtenFrames (current (Ev.opened _ w.srv :: w.log)) <:+ fs
    rw [current_cons, if_pos (show (Ev.opened _ w.srv).opens = true from rfl)]
    exact List.nil_suffix

lemma Turns.conveys {g : Prop} (hg : ¬ g) (h : Turns b g w w') (hw : Conveys b w) (hn : Numbering w) :
    Conveys b w' := by
  induction h with
  | refl => exact hw
  | moves hm _ ih => exact hm.conveys ih
  | pump hm _ ih => exact hm.conveys ih
  | seq _ _ _ ih => exact ih.act _ rfl
  | request hd payload _ hh h ih =>
    obtain ⟨w₁, w₂, h₁, ha, h₂⟩ := hh
    have hnow := h₁.numbering (((h.numbering hn).act (Server.acceptRequest hd) rfl rfl).note
      (.request hd payload _) rfl)
    exact h₂.conveys (ha.conveys (h₁.conveys ((ih.act _ rfl).note _ rfl)) hnow)
  | refuse _ _ _ _ _ _ _ ih => exact (ih.note _ rfl).queue _
  | refuseFull _ _ _ _ ih => exact ih.note _ rfl
  | raw payload out hlen ho _ ih =>
    exact ih.write (f := (mismatchHeader.stamped 1 payload.length, payload)) ho rfl rfl rfl rfl
  | hello hd _ _ _ _ _ _ _ ih => exact (ih.greet hd).queue _
  | helloFull hd _ _ _ _ _ _ _ ih => exact ih.greet hd
  | exhausted _ _ _ _ _ _ ih => exact ((ih.act _ rfl).act _ rfl).queue _
  | exhaustedFull _ _ _ _ ih => exact (ih.act _ rfl).act _ rfl
  | deferred _ _ _ _ _ _ _ ih => exact (ih.queue _).act _ rfl
  | forget _ _ ih => exact ih.act _ rfl
  | gone h' => exact absurd h' hg

lemma Reach.conveys (hw : Reach b Input.keepsHost w) : Conveys b w := by
  obtain ⟨cfg, profile, loaded, env, hturns⟩ := hw.turns (g := False) fun _ h => h
  have hinit : Conveys b
      ({ srv := Server.init b cfg profile loaded, env := env, log := [] } : World E) :=
    ⟨⟨b.outRing_pos, Nat.zero_le _⟩, [], List.Sublist.refl _, fun h => absurd h Bool.false_ne_true, rfl⟩
  have hstart : Reach b Input.keepsHost _ := .init cfg profile loaded env
  exact hturns.conveys id hinit hstart.numbering

/-! ## The frames of the newest session -/

/-- No frame carries the number of a session to come. -/
lemma session_le (hlog : FrameNumbers log) :
    ∀ f ∈ writtenFrames log, f.1.sessionId.toNat ≤ (sessionView log).id.toNat := by
  induction log with
  | nil => exact fun f hf => absurd hf List.not_mem_nil
  | cons e log ih =>
    have hold := ih fun e' l hl => hlog e' l (hl.trans (List.suffix_cons _ _))
    have he := hlog e log (List.suffix_refl _)
    intro f hf
    rw [writtenFrames_cons] at hf
    cases e with
    | emitted origin h payload =>
      rcases List.mem_append.mp hf with hf | hf
      · exact hold f hf
      · obtain rfl := List.mem_singleton.mp hf
        rcases he.2.session with h0 | hid
        · rw [h0]
          exact Nat.zero_le _
        · rw [hid]
          exact Nat.le_refl _
    | refused h payload =>
      rcases List.mem_append.mp hf with hf | hf
      · exact hold f hf
      · obtain rfl := List.mem_singleton.mp hf
        rw [he.2.1]
        exact Nat.zero_le _
    | opened id s =>
      have hid : id.toNat = (sessionView log).id.toNat + 1 := he
      rw [show (Ev.opened id s).frame? = none from rfl, Option.toList_none, List.append_nil] at hf
      exact (hold f hf).trans (hid ▸ Nat.le_succ _)
    | _ => exact hold f (by simpa [Ev.frame?] using hf)

/-- A session that lasts has begun. -/
lemma view_begun (hlog : FrameNumbers log) (hlive : (sessionView log).live = true) :
    ∃ s, Ev.opened (sessionView log).id s ∈ log ∧ (sessionView log).clean = s.ctlQueued.isEmpty ∧
      (sessionView log).id ≠ 0 := by
  induction log with
  | nil => exact absurd hlive Bool.false_ne_true
  | cons e log ih =>
    have hold := ih fun e' l hl => hlog e' l (hl.trans (List.suffix_cons _ _))
    cases e with
    | opened id s =>
      refine ⟨s, List.mem_cons_self, rfl, fun h0 => ?_⟩
      have hid : id.toNat = (sessionView log).id.toNat + 1 := hlog _ _ (List.suffix_refl _)
      rw [show id = 0 from h0] at hid
      exact absurd hid (Nat.zero_ne_add_one _)
    | closed s => exact absurd hlive Bool.false_ne_true
    | _ =>
      obtain ⟨s, hs, hclean, hid⟩ := hold hlive
      exact ⟨s, List.mem_cons_of_mem _ hs, hclean, hid⟩

/-- What was written before the newest session has other numbers. -/
lemma framesOf_current (hlog : FrameNumbers log) (hid : (sessionView log).id ≠ 0) :
    ∃ older, writtenFrames log = older ++ writtenFrames (current log) ∧
      ∀ f ∈ older, f.1.sessionId ≠ (sessionView log).id := by
  induction log with
  | nil => exact absurd rfl hid
  | cons e log ih =>
    have hsuffix : FrameNumbers log := fun e' l hl => hlog e' l (hl.trans (List.suffix_cons _ _))
    rw [writtenFrames_cons, current_cons]
    cases hopens : e.opens with
    | true =>
      have hnone : e.frame? = none := by
        cases e <;> first | rfl | cases hopens
      rw [if_pos rfl, hnone]
      refine ⟨writtenFrames log, by simp [writtenFrames], fun f hf heq => ?_⟩
      have hle := session_le hsuffix f hf
      have hid : (sessionView (e :: log)).id.toNat = (sessionView log).id.toNat + 1 := by
        cases e with
        | opened id s => exact hlog _ _ (List.suffix_refl _)
        | _ => cases hopens
      rw [heq, hid] at hle
      omega
    | false =>
      have hview : (sessionView (e :: log)).id = (sessionView log).id := by
        cases e <;> first | rfl | cases hopens
      rw [hview] at hid ⊢
      obtain ⟨older, hwritten, hother⟩ := ih hsuffix hid
      refine ⟨older, ?_, hother⟩
      rw [if_neg Bool.false_ne_true, writtenFrames_cons, hwritten, List.append_assoc]

/-- The frames of a session that lasts are numbered from one. -/
lemma numbers_current (hlog : FrameNumbers log) (hlive : (sessionView log).live = true)
    (hclean : (sessionView log).clean = true) :
    ((writtenFrames (current log)).filter fun f => f.1.sessionId == (sessionView log).id).map
        (fun f => f.1.txSeq.toNat) = List.range' 1 (sessionView log).frames := by
  induction log with
  | nil => exact absurd hlive Bool.false_ne_true
  | cons e log ih =>
    have hsuffix : FrameNumbers log := fun e' l hl => hlog e' l (hl.trans (List.suffix_cons _ _))
    have he := hlog e log (List.suffix_refl _)
    rw [current_cons]
    cases e with
    | opened id s => rfl
    | closed s => exact absurd hlive Bool.false_ne_true
    | emitted origin h payload =>
      have hsession : h.sessionId = (sessionView log).id := he.2.own hlive hclean
      rw [if_neg (by simp [Ev.opens]), writtenFrames_cons]
      show ((_ ++ [(h, payload)]).filter fun f => f.1.sessionId == (sessionView log).id).map _ =
        List.range' 1 ((sessionView log).frames + 1)
      rw [List.filter_append, List.map_append, ih hsuffix hlive hclean, List.range'_1_concat]
      simp [hsession, he.2.number, Nat.add_comm]
    | refused h payload =>
      have hne : h.sessionId ≠ (sessionView log).id := by
        obtain ⟨-, -, -, hid⟩ := view_begun hsuffix hlive
        exact fun heq => hid (heq.symm.trans he.2.1)
      rw [if_neg (by simp [Ev.opens]), writtenFrames_cons]
      show ((_ ++ [(h, payload)]).filter fun f => f.1.sessionId == (sessionView log).id).map _ =
        List.range' 1 (sessionView log).frames
      rw [List.filter_append, List.map_append, ih hsuffix hlive hclean]
      simp [hne]
    | _ =>
      have hold := ih hsuffix hlive hclean
      rw [if_neg (by simp [Ev.opens]), writtenFrames_cons]
      simpa [Ev.frame?, sessionView_cons, SessionView.after] using hold

/-! ## The receiver of the host -/

namespace Python

/-- Receivers that differ at most in when their frame began. -/
def FrameParser.Alike (p q : FrameParser) : Prop := p.buf = q.buf ∧ p.discard = q.discard

lemma FrameParser.Alike.byte {p q : FrameParser} (h : p.Alike q) (now now' : Nat) (x : UInt8) :
    (p.byte now x).2.Alike (q.byte now' x).2 ∧ (q.byte now' x).1 = (p.byte now x).1 := by
  obtain ⟨buf, start, discard⟩ := p
  obtain ⟨buf', start', discard'⟩ := q
  obtain ⟨rfl, rfl⟩ : buf = buf' ∧ discard = discard' := h
  unfold FrameParser.byte FrameParser.Alike
  dsimp only
  split
  · split <;> exact ⟨⟨rfl, rfl⟩, rfl⟩
  · split
    · split <;> exact ⟨⟨rfl, rfl⟩, rfl⟩
    · split <;> split <;> simp_all

lemma FrameParser.Alike.scan {p q : FrameParser} (h : p.Alike q) (now now' : Nat) (data : List UInt8) :
    (scan (FrameParser.byte now) data p).2.Alike (scan (FrameParser.byte now') data q).2 ∧
      (scan (FrameParser.byte now') data q).1 = (scan (FrameParser.byte now) data p).1 := by
  have hstep : ∀ (x : UInt8) (s s' : FrameParser), s.Alike s' →
      (FrameParser.byte now x s).2.Alike (FrameParser.byte now' x s').2 ∧
        (FrameParser.byte now' x s').1 = (FrameParser.byte now x s).1.map id :=
    fun x s s' hs => by simpa using hs.byte now now' x
  simpa using scan_simulates hstep data h

/-- Without time-outs the cut of the bytes into reads does not matter. -/
lemma feedAll_untimed {schedule : List (List UInt8 × Nat)} {p q : FrameParser} (h : p.Alike q)
    (hno : Event.timeout ∉ (p.feedAll schedule).1) :
    (p.feedAll schedule).1 = (scan (FrameParser.byte 0) (schedule.map Prod.fst).flatten q).1 := by
  induction schedule generalizing p q with
  | nil => rfl
  | cons x schedule ih =>
    obtain ⟨data, now⟩ := x
    rw [FrameParser.feedAll] at hno ⊢
    dsimp only at hno ⊢
    rw [List.mem_append, not_or] at hno
    have hyoung : p.expire now = ([], p) := by
      unfold FrameParser.expire
      split
      · next hold =>
        have hevent : Event.timeout ∈ (p.feed data now).1 := by
          unfold FrameParser.feed FrameParser.expire
          rw [if_pos hold]
          exact List.mem_append_left _ List.mem_cons_self
        exact absurd hevent hno.1
      · rfl
    have hfeed : p.feed data now = scan (FrameParser.byte now) data p := by
      unfold FrameParser.feed
      rw [hyoung]
      rfl
    obtain ⟨hnext, hevents⟩ := h.scan now 0 data
    rw [hfeed] at hno ⊢
    rw [ih hnext hno.2, List.map_cons, List.flatten_cons, scan_append, hevents]

/-- The event of a frame that arrives whole. -/
def Event.heard (f : RemoteBridge.Header × List UInt8) : Event := .frame (.ofC f.1) f.2 true

/-- A frame of the session with the given number. -/
def Event.isOf (id : UInt32) : Event → Bool
  | .frame h _ _ => h.sessionId == id.toNat
  | _ => false

lemma isOf_heard (id : UInt32) (f : RemoteBridge.Header × List UInt8) :
    (Event.heard f).isOf id = (f.1.sessionId == id) := by
  rw [Bool.eq_iff_iff, beq_iff_eq, ← UInt32.toNat_inj]
  exact beq_iff_eq

/-- A new receiver hears one frame. -/
lemma scan_sound {h : RemoteBridge.Header} {payload : List UInt8} (hf : SoundFrame h payload) :
    (scan (FrameParser.byte 0) (wireFrame h payload) {}).1 = [Event.heard (h, payload)] ∧
      FrameParser.Alike {} (scan (FrameParser.byte 0) (wireFrame h payload) {}).2 := by
  have hc := scan_wireFrame (UInt32.ofNat 0) h h.txSeq hf.size
  rw [hf.stamped] at hc
  have hinit : RxParser.init (UInt32.ofNat 0) = ⟨.idle, [], UInt32.ofNat 0⟩ := rfl
  obtain ⟨hend, hevents⟩ := scan_simulates (R := Mirrors 0 0) (f := translate)
    (Mirrors.byte (Nat.le_refl 0)) (wireFrame h payload) (.idle [] (UInt32.ofNat 0) none)
  rw [hinit] at hc
  rw [hc] at hend hevents
  have hkept : refuses h payload = false := by
    have hsize : h.payloadSize.toNat = payload.length := by
      have hle : payload.length ≤ 512 := hf.size
      rw [← hf.stamped]
      show (UInt16.ofNat payload.length).toNat = _
      rw [UInt16.toNat_ofNat', Nat.mod_eq_of_lt (by omega)]
    have hkind : knownKind h.kind.toNat = true := by
      rcases hf.kind with hk | hk | hk
      all_goals
        rw [hk]
        rfl
    simp [refuses, hsize, hkind, hf.flags]
  refine ⟨?_, ?_⟩
  · rw [hevents]
    simp [translate, hkept, Event.heard]
  · generalize (scan (FrameParser.byte 0) (wireFrame h payload) {}).2 = q at hend
    cases hend with
    | idle => exact ⟨rfl, rfl⟩

/-- So does one that waits. -/
lemma scan_encoded {f : RemoteBridge.Header × List UInt8} (hf : SoundFrame f.1 f.2) {q : FrameParser}
    (hq : FrameParser.Alike {} q) :
    (scan (FrameParser.byte 0) (encoded f) q).1 = [Event.heard f] ∧
      FrameParser.Alike {} (scan (FrameParser.byte 0) (encoded f) q).2 := by
  obtain ⟨hevents, hwaiting⟩ := scan_sound hf
  rw [show encoded f = wireFrame f.1 f.2 from rfl]
  obtain ⟨halike, hsame⟩ := hq.scan 0 0 (wireFrame f.1 f.2)
  refine ⟨?_, hwaiting.1.trans halike.1, hwaiting.2.trans halike.2⟩
  rw [hsame, hevents]

lemma scan_frames {fs : List (RemoteBridge.Header × List UInt8)} (hfs : ∀ f ∈ fs, SoundFrame f.1 f.2)
    {q : FrameParser} (hq : FrameParser.Alike {} q) :
    (scan (FrameParser.byte 0) (fs.map encoded).flatten q).1 = fs.map Event.heard ∧
      FrameParser.Alike {} (scan (FrameParser.byte 0) (fs.map encoded).flatten q).2 := by
  induction fs generalizing q with
  | nil => exact ⟨rfl, hq⟩
  | cons f fs ih =>
    obtain ⟨hevent, hnext⟩ := scan_encoded (hfs f List.mem_cons_self) hq
    obtain ⟨hevents, hend⟩ := ih (fun g hg => hfs g (List.mem_cons_of_mem _ hg)) hnext
    rw [List.map_cons, List.flatten_cons, scan_append, hevent, hevents]
    exact ⟨rfl, hend⟩

/-- A frame that is not complete is not heard. -/
lemma scan_partial {run : List UInt8} (hrun : 0 ∉ run) {q : FrameParser} (hq : q.discard = false)
    (hlen : q.buf.length + run.length ≤ 551) : (scan (FrameParser.byte 0) run q).1 = [] := by
  induction run generalizing q with
  | nil => rfl
  | cons x run ih =>
    rw [List.mem_cons, not_or] at hrun
    rw [List.length_cons] at hlen
    have hx : (x == 0) = false := by simpa using Ne.symm hrun.1
    have hroom : ¬ (q.buf ++ [x]).length > 551 := by
      rw [List.length_append, List.length_singleton]
      omega
    obtain ⟨start, hbyte⟩ : ∃ start, q.byte 0 x = (none, ⟨q.buf ++ [x], start, false⟩) := by
      unfold FrameParser.byte
      rw [hq, hx, if_neg Bool.false_ne_true, if_neg Bool.false_ne_true]
      by_cases hbuf : q.buf = []
      · exact ⟨some 0, by simp [hbuf]⟩
      · exact ⟨q.startMs, by simp only [hbuf, if_false, hroom, hq]⟩
    rw [scan_cons, hbyte]
    refine ih hrun.2 rfl ?_
    dsimp only
    rw [List.length_append, List.length_singleton]
    omega

lemma decodeRun_ne_timeout (run : List UInt8) : decodeRun run ≠ .timeout := by
  unfold decodeRun
  repeat' split
  all_goals simp

/-- Only the age of a frame is reported as a time-out. -/
lemma FrameParser.byte_ne_timeout (now : Nat) (x : UInt8) (q : FrameParser) :
    (q.byte now x).1 ≠ some .timeout := by
  unfold FrameParser.byte
  dsimp only
  split
  · simp
  · split
    · split
      · simp
      · exact fun h => decodeRun_ne_timeout q.buf (Option.some.inj h)
    · split
      all_goals split
      all_goals simp

/-- One read does not wait. -/
lemma timeout_not_mem_feedAll (data : List UInt8) (now : Nat) :
    Event.timeout ∉ (FrameParser.feedAll [(data, now)] {}).1 := by
  have hscan : ∀ (data : List UInt8) (q : FrameParser),
      Event.timeout ∉ (scan (FrameParser.byte now) data q).1 := by
    intro data
    induction data with
    | nil => exact fun q => List.not_mem_nil
    | cons x data ih =>
      intro q hmem
      rw [scan_cons] at hmem
      rcases List.mem_append.mp hmem with hmem | hmem
      · exact FrameParser.byte_ne_timeout now x q (Option.mem_toList.mp hmem)
      · exact ih _ hmem
  intro hmem
  have hfeed : (FrameParser.feedAll [(data, now)] {}).1 = (scan (FrameParser.byte now) data {}).1 := by
    rw [FrameParser.feedAll, FrameParser.feedAll]
    exact List.append_nil _
  exact hscan data {} (hfeed ▸ hmem)

end Python

/-- What is heard of the first part of a stream of frames: the frames that are complete. -/
lemma scan_stream {fs : List (Header × List UInt8)} (hfs : ∀ f ∈ fs, SoundFrame f.1 f.2)
    {bytes rest : List UInt8} (h : bytes ++ rest = (fs.map encoded).flatten) {q : Python.FrameParser}
    (hq : Python.FrameParser.Alike {} q) :
    ∃ n, (scan (Python.FrameParser.byte 0) bytes q).1 = (fs.take n).map Python.Event.heard := by
  induction fs generalizing bytes q with
  | nil =>
    obtain ⟨rfl, -⟩ : bytes = [] ∧ rest = [] := by simpa using h
    exact ⟨0, rfl⟩
  | cons f fs ih =>
    have hf := hfs f List.mem_cons_self
    rw [List.map_cons, List.flatten_cons] at h
    rcases List.append_eq_append_iff.mp h with ⟨last, hlast, -⟩ | ⟨later, hbytes, hlater⟩
    · cases hcases : last.reverse with
      | nil =>
        -- the first frame is complete, and nothing follows
        obtain rfl : last = [] := List.reverse_eq_nil_iff.mp hcases
        rw [List.append_nil] at hlast
        exact ⟨1, by rw [← hlast, (Python.scan_encoded hf hq).1]; rfl⟩
      | cons x xs =>
        have hend : last = xs.reverse ++ [x] := by
          rw [← List.reverse_reverse last, hcases, List.reverse_cons]
        have hrun : cobsEncode (rawFrame f.1 f.2) = bytes ++ xs.reverse := by
          have hboth : cobsEncode (rawFrame f.1 f.2) ++ [0] = (bytes ++ xs.reverse) ++ [x] := by
            rw [List.append_assoc, ← hend]
            exact hlast
          exact (List.append_inj' hboth rfl).1
        have hzero : 0 ∉ bytes := by
          have hnone := zero_not_mem_cobsEncode (rawFrame f.1 f.2)
          rw [hrun] at hnone
          exact fun hmem => hnone (List.mem_append_left _ hmem)
        have hlen : bytes.length ≤ 551 := by
          have henc : encodePayload f.1 f.1.txSeq f.2 = some (encoded f, f.1.txSeq + 1) := by
            have hsize := hf.size
            rw [encodePayload_eq_frameEncode, frameEncode, if_neg (by omega), hf.stamped]
            rfl
          have hwhole := (encodePayload_shape henc).2
          rw [hlast, hend, List.length_append, List.length_append, List.length_singleton] at hwhole
          omega
        refine ⟨0, Python.scan_partial hzero hq.2.symm ?_⟩
        rw [← hq.1]
        simpa using hlen
    · obtain ⟨hevent, hnext⟩ := Python.scan_encoded hf hq
      obtain ⟨n, hn⟩ := ih (fun g hg => hfs g (List.mem_cons_of_mem _ hg)) hlater.symm hnext
      exact ⟨n + 1, by rw [hbytes, scan_append, hevent, hn]; rfl⟩

/-! ## Delivery -/

/-- Everything that was written is sound. -/
lemma sound_written (hlog : FrameNumbers log) : ∀ f ∈ writtenFrames log, SoundFrame f.1 f.2 := by
  induction log with
  | nil => exact fun f hf => absurd hf List.not_mem_nil
  | cons e log ih =>
    have hold := ih fun e' l hl => hlog e' l (hl.trans (List.suffix_cons _ _))
    have he := hlog e log (List.suffix_refl _)
    intro f hf
    rw [writtenFrames_cons] at hf
    rcases List.mem_append.mp hf with hf | hf
    · exact hold f hf
    · cases e with
      | emitted | refused =>
        obtain rfl := List.mem_singleton.mp hf
        exact he.1
      | _ => exact absurd hf List.not_mem_nil

/-- What a host hears of one session. -/
lemma filter_heard (id : UInt32) (gs : List (Header × List UInt8)) :
    (gs.map Python.Event.heard).filter (Python.Event.isOf id) =
      (gs.filter fun f => f.1.sessionId == id).map Python.Event.heard := by
  rw [List.filter_map]
  exact congrArg (List.map Python.Event.heard)
    (List.filter_congr fun f _ => Python.isOf_heard id f)

section Delivery

variable (hw : Reach b Input.keepsHost w) (ha : w.srv.session.active = true)
include hw ha

/-- The session that lasts is the newest one, and all its frames were written since it began. -/
lemma Reach.frames_current :
    w.srv.session.id = (sessionView w.log).id ∧ (sessionView w.log).live = true ∧
      ∃ older, writtenFrames w.log = older ++ writtenFrames (current w.log) ∧
        older.filter (fun f => f.1.sessionId == w.srv.session.id) = [] ∧
        framesOf w.srv.session.id w.log =
          (writtenFrames (current w.log)).filter fun f => f.1.sessionId == w.srv.session.id := by
  have hnum := Reach.numbering hw
  have hlive : (sessionView w.log).live = true := hnum.signed.active.symm.trans ha
  have hid : w.srv.session.id = (sessionView w.log).id := hnum.signed.id.trans (if_pos hlive)
  obtain ⟨s, hs, hclean, hne⟩ := view_begun hnum.frames hlive
  obtain ⟨older, hwritten, hother⟩ := framesOf_current hnum.frames hne
  have hnone : older.filter (fun f => f.1.sessionId == w.srv.session.id) = [] :=
    List.filter_eq_nil_iff.mpr fun f hf heq => hother f hf (hid ▸ beq_iff_eq.mp heq)
  refine ⟨hid, hlive, older, hwritten, hnone, ?_⟩
  unfold framesOf
  rw [hwritten, List.filter_append, hnone, List.nil_append]

/-- What a host hears are the first of some written frames, which include those of the session. -/
lemma Reach.heard_frames (schedule : List (List UInt8 × Nat))
    (hbytes : (schedule.map Prod.fst).flatten = sentBytes w.log)
    (htime : Python.Event.timeout ∉ (Python.FrameParser.feedAll schedule {}).1) :
    ∃ fs : List (Header × List UInt8), fs.Sublist (writtenFrames w.log) ∧
      fs.filter (fun f => f.1.sessionId == w.srv.session.id) = framesOf w.srv.session.id w.log ∧
      (∃ n, (Python.FrameParser.feedAll schedule {}).1 = (fs.take n).map Python.Event.heard) ∧
      (w.srv.out.len = 0 → (Python.FrameParser.feedAll schedule {}).1 = fs.map Python.Event.heard) := by
  have hnum := Reach.numbering hw
  obtain ⟨fs, hsub, hlast, hstream⟩ := hw.conveys.kept
  obtain ⟨hid, hlive, older, hwritten, hnone, hown⟩ := Reach.frames_current hw ha
  have hsound : ∀ f ∈ fs, SoundFrame f.1 f.2 := fun f hf => sound_written hnum.frames f (hsub.subset hf)
  have hevents : (Python.FrameParser.feedAll schedule {}).1 =
      (scan (Python.FrameParser.byte 0) (sentBytes w.log) {}).1 := by
    rw [← hbytes]
    exact Python.feedAll_untimed ⟨rfl, rfl⟩ htime
  obtain ⟨n, hn⟩ := scan_stream hsound hstream (q := {}) ⟨rfl, rfl⟩
  refine ⟨fs, hsub, ?_, ⟨n, hevents.trans hn⟩, fun hempty => ?_⟩
  · -- what the ring has lost is older than the session
    obtain ⟨front, rfl⟩ := hlast hlive
    rw [hwritten] at hsub
    have hfront := ((List.append_sublist_append_right _).mp hsub).filter
      fun f => f.1.sessionId == w.srv.session.id
    rw [hnone] at hfront
    rw [List.filter_append, List.sublist_nil.mp hfront, List.nil_append, hown]
  · have hall : sentBytes w.log = (fs.map encoded).flatten := by
      rw [← hstream, List.eq_nil_of_length_eq_zero (Ring.length_contents.trans hempty), List.append_nil]
    rw [hevents, hall]
    exact (Python.scan_frames hsound ⟨rfl, rfl⟩).1

/-- Once the ring is empty, all frames of the session are heard. -/
lemma Reach.heard_all (schedule : List (List UInt8 × Nat))
    (hbytes : (schedule.map Prod.fst).flatten = sentBytes w.log)
    (htime : Python.Event.timeout ∉ (Python.FrameParser.feedAll schedule {}).1)
    (hempty : w.srv.out.len = 0) :
    (Python.FrameParser.feedAll schedule {}).1.filter (Python.Event.isOf w.srv.session.id) =
      (framesOf w.srv.session.id w.log).map Python.Event.heard := by
  obtain ⟨fs, -, hown, -, hall⟩ := Reach.heard_frames hw ha schedule hbytes htime
  rw [hall hempty, filter_heard, hown]

end Delivery

/-- **The frames of a session reach the host.**  The host has read what `out()` has accepted so far, in any
pieces, and its receiver has not reported a time-out.  Then it has heard nothing but frames that were written.
Those of the session that lasts are the first ones written in it, and all of them if the ring is empty.  If no
control frame was queued when the session began, they are numbered from one. -/
theorem reach_frames_delivered (hw : Reach b Input.keepsHost w) (ha : w.srv.session.active = true)
    (schedule : List (List UInt8 × Nat)) (hbytes : (schedule.map Prod.fst).flatten = sentBytes w.log)
    (htime : Python.Event.timeout ∉ (Python.FrameParser.feedAll schedule {}).1) :
    let events := (Python.FrameParser.feedAll schedule {}).1
    let heard := events.filter (Python.Event.isOf w.srv.session.id)
    let written := framesOf w.srv.session.id w.log
    (∀ e ∈ events, ∃ f ∈ writtenFrames w.log, e = Python.Event.heard f) ∧
      heard <+: written.map Python.Event.heard ∧
      (w.srv.out.len = 0 → heard = written.map Python.Event.heard) ∧
      ((∀ s, Ev.opened w.srv.session.id s ∈ w.log → s.ctlQueued = []) →
        written.map (fun f => f.1.txSeq.toNat) = List.range' 1 written.length) := by
  intro events heard written
  have hnum := Reach.numbering hw
  obtain ⟨hid, hlive, older, -, -, hown⟩ := Reach.frames_current hw ha
  obtain ⟨s, hs, hclean, -⟩ := view_begun hnum.frames hlive
  obtain ⟨fs, hsub, hkept, ⟨n, hn⟩, -⟩ := Reach.heard_frames hw ha schedule hbytes htime
  refine ⟨fun e he => ?_, ?_, Reach.heard_all hw ha schedule hbytes htime, fun hopened => ?_⟩
  · rw [show events = _ from hn] at he
    obtain ⟨f, hf, rfl⟩ := List.mem_map.mp he
    exact ⟨f, hsub.subset (List.mem_of_mem_take hf), rfl⟩
  · show events.filter _ <+: (framesOf _ _).map _
    rw [show events = _ from hn, filter_heard, ← hkept]
    exact ((List.take_prefix n fs).filter _).map _
  · have hempty : s.ctlQueued.isEmpty = true := by rw [hopened s (hid ▸ hs)]; rfl
    have hnumbers := numbers_current hnum.frames hlive (hclean.trans hempty)
    rw [← hid, ← hown] at hnumbers
    show (framesOf w.srv.session.id w.log).map _ = List.range' 1 (framesOf w.srv.session.id w.log).length
    rw [hnumbers]
    congr 1
    simpa using (congrArg List.length hnumbers).symm

lemma flatten_read (bytes : List UInt8) (now : Nat) :
    (([(bytes, now)] : List (List UInt8 × Nat)).map Prod.fst).flatten = bytes := by
  simp

/-- A host opens a session and reads the reply. -/
def greetedWorld : World Unit :=
  Input.flush.run Build.default thirstyPlatform
    (freshWorld.listens (hostHeader .hello 0 1 0) 1 (tlvPutBytes 1 (List.replicate 16 7) []))

lemma reach_greetedWorld : Reach Build.default Input.keepsHost greetedWorld :=
  .input 0 thirstyPlatform .flush (fun _ w => .refl w) trivial
    (reach_freshWorld.listens (fun _ _ => trivial) rfl (by decide))

/-- The reply is heard in one read, as the first frame of session 1. -/
theorem reach_frames_delivered_greetedWorld :
    (Python.FrameParser.feedAll [(sentBytes greetedWorld.log, 0)] {}).1.filter (Python.Event.isOf 1) =
        (framesOf 1 greetedWorld.log).map Python.Event.heard ∧
      (framesOf 1 greetedWorld.log).map (fun f => f.1.txSeq) = [1] := by
  have hworld : greetedWorld.srv.session.active = true ∧ greetedWorld.srv.session.id = 1 ∧
      greetedWorld.srv.out.len = 0 ∧ (framesOf 1 greetedWorld.log).map (fun f => f.1.txSeq) = [1] := by
    decide +kernel
  obtain ⟨ha, hid, hempty, htx⟩ := hworld
  have hno := Python.timeout_not_mem_feedAll (sentBytes greetedWorld.log) 0
  obtain ⟨-, -, hall, -⟩ := reach_frames_delivered reach_greetedWorld ha
    [(sentBytes greetedWorld.log, 0)] (flatten_read _ 0) hno
  rw [hid] at hall
  exact ⟨hall hempty, htx⟩

end RemoteBridge
