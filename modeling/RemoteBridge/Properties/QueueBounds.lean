import RemoteBridge.Product.Host
import RemoteBridge.Product.Wire
import RemoteBridge.Properties.FrameNumbers
import RemoteBridge.Properties.WireStream

/-!
# What the queues hold

In every run the output ring is sound, and no queued payload is longer than a frame can carry
(`Reach.bounded`): control frames are checked when they are queued, and the bodies of media items are
written by a bounded TLV writer or are fragments of at most 256 bytes.

This is what keeps the pump from getting stuck.  `outTryFrame` refuses a frame that is too long for the
encoder and one that does not fit into the ring at the moment.  The second will fit later; the first would
stay at the head of its queue for ever, and there is none.
-/

namespace RemoteBridge

open World

variable {E : Type} {b : Build} {k : Nat} {w w' : World E} {s s' : Server}

/-! ## Payloads fit their frames -/

/-- No queued payload is too long for a frame. -/
structure Server.Sized (s : Server) : Prop where
  ctl : ∀ slot ∈ s.ctlQueued, slot.payload.length ≤ maxPayload
  media : ∀ item ∈ s.voice.media, item.payload.length ≤ maxPayload

namespace Server.Sized

lemma less (h : s.Sized) (hc : s'.ctlQueued ⊆ s.ctlQueued) (hm : s'.voice.media ⊆ s.voice.media) :
    s'.Sized :=
  ⟨fun slot hslot => h.ctl slot (hc hslot), fun item hitem => h.media item (hm hitem)⟩

lemma off (h : s.Sized) (ho : OffFrames s s') : s'.Sized := by
  have hc : s'.ctlQueued = s.ctlQueued := by rw [Server.ctlQueued, ho.ctl, Server.ctlQueued]
  exact h.less (hc ▸ List.Subset.refl _) ho.media

lemma onlyKeys (h : s.Sized) (hk : OnlyKeys s s') : s'.Sized := by
  have hc : s'.ctlQueued = s.ctlQueued := by rw [Server.ctlQueued, hk.ctl, Server.ctlQueued]
  exact h.less (hc ▸ List.Subset.refl _) (hk.voice ▸ List.Subset.refl _)

lemma queue {slot : CtlSlot} (h : s.Sized) (hf : s.ctlFits b slot.payload.length = true)
    (hu : slot.used = true) : (s.putCtl slot).Sized := by
  obtain ⟨xs, ys, hq, hput⟩ := ctlQueued_putCtl hf hu
  have hlen : slot.payload.length ≤ maxPayload := by
    simp only [Server.ctlFits, Bool.and_eq_true, decide_eq_true_eq] at hf
    exact hf.1.2
  refine ⟨fun a ha => ?_, fun item hitem => h.media item ?_⟩
  · rw [hput] at ha
    rcases List.mem_append.mp ha with ha | ha
    · exact h.ctl a (hq ▸ List.mem_append_left _ ha)
    · rcases List.mem_cons.mp ha with rfl | ha
      · exact hlen
      · exact h.ctl a (hq ▸ List.mem_append_right _ ha)
  · simpa using hitem

lemma push {payload : List UInt8} (h : s.Sized) (op : EventOp) (hlen : payload.length ≤ maxPayload) :
    (s.putMedia (s.mediaItem op payload)).Sized := by
  refine ⟨h.ctl, fun item hitem => ?_⟩
  rcases List.mem_append.mp hitem with hold | hnew
  · exact h.media item hold
  · obtain rfl := List.mem_singleton.mp hnew
    exact hlen

lemma freeSlot (h : s.Sized) (i : Nat) : (s.freeSlot i).Sized := by
  refine h.less ?_ (by simp)
  cases hi : s.ctl[i]? with
  | none => simp [Server.freeSlot, hi]
  | some slot =>
    intro a ha
    by_cases hu : slot.used = true
    · obtain ⟨xs, ys, hq, hfree⟩ := ctlQueued_freeSlot hi hu
      rw [hfree] at ha
      rw [hq]
      exact ((List.sublist_cons_self slot ys).append_left xs).subset ha
    · simp only [Server.ctlQueued, Server.freeSlot, hi, List.mem_filter] at ha ⊢
      obtain ⟨hmem, hused⟩ := ha
      rcases List.mem_or_eq_of_mem_set hmem with hmem | rfl
      · exact ⟨hmem, hused⟩
      · simp at hused

lemma putFrame (h : s.Sized) (bytes : List UInt8) (next : UInt32) : (s.putFrame b bytes next).Sized :=
  ⟨h.ctl, h.media⟩

lemma popMedia (h : s.Sized) (item : MediaItem) : (s.popMedia item).Sized :=
  h.less (List.Subset.refl _) (by rw [media_popMedia]; exact List.tail_subset _)

lemma withdraw (s : Server) : (s.withdraw b).Sized := by
  have hctl : (s.withdraw b).ctlQueued = [] := by
    unfold Server.withdraw Server.ctlQueued
    dsimp only [Server.stopDelivery, Server.ctlClear]
    split <;> simp
  have hmedia : (s.withdraw b).voice.media = [] := by
    unfold Server.withdraw
    dsimp only [Server.stopDelivery, Server.ctlClear]
    split <;> rfl
  exact ⟨fun slot hslot => absurd (hctl ▸ hslot) List.not_mem_nil,
    fun item hitem => absurd (hmedia ▸ hitem) List.not_mem_nil⟩

lemma announce (h : w.srv.Sized) (connCtx : UInt32) : (w.announce b connCtx).srv.Sized := by
  rcases announce_cases (b := b) connCtx w with ⟨hf, heq⟩ | heq
  · rw [heq]
    exact h.queue hf rfl
  · rw [heq]
    exact withdraw _

end Server.Sized

lemma length_endTlv_le (reason : EndReason) (cut : Bool) : (s.endTlv reason cut).length ≤ maxPayload := by
  unfold Server.endTlv tlvPutU32 tlvPutU64 tlvPutU8
  dsimp only
  iterate 7 refine length_tlvPut_le ?_
  exact Nat.zero_le _

lemma length_formatTlv_le (f : AudioFormat) (start : Bool) : (s.formatTlv f start).length ≤ maxPayload := by
  unfold Server.formatTlv tlvPutU32 tlvPutU64 tlvPutU16 tlvPutU8
  dsimp only
  iterate 4 refine length_tlvPut_le ?_
  refine length_tlvPutBytes_le ?_
  iterate 6 refine length_tlvPut_le ?_
  exact Nat.zero_le _

lemma length_dataPayload_le {size samples : UInt32} {fragment : List UInt8} (hlen : fragment.length ≤ 256) :
    (s.dataPayload size samples fragment).length ≤ maxPayload := by
  have hmax : maxPayload = 512 := rfl
  simp [Server.dataPayload]
  omega

/-- A media item is queued, and the stream moves on. -/
lemma Server.Sized.pushed {payload : List UInt8} (h : w.srv.Sized) (op : EventOp)
    (hlen : payload.length ≤ maxPayload) (f : Server → Server) (hf : ∀ s, OffFrames s (f s)) :
    ((w.pushMedia op payload).act f).srv.Sized :=
  (h.push op hlen).off (hf _)

lemma Moves.sized (h : Moves b k w w') (hw : w.srv.Sized) : w'.srv.Sized := by
  have hsame : ∀ {s s' : Server}, s'.ctl = s.ctl → s'.orderCounter = s.orderCounter →
      s'.session = s.session → s'.keys.queue = s.keys.queue → s'.voice.media = s.voice.media →
      s'.voice.okDeferred = s.voice.okDeferred → OffFrames s s' := offFrames_of_eq
  have hdiscard : ∀ s : Server, OffFrames s s.mediaDiscardCurrent := fun s =>
    ⟨rfl, rfl, rfl, List.Subset.refl _, List.filter_sublist.subset, rfl⟩
  induction h with
  | refl => exact hw
  | send _ _ _ _ ih | flush _ _ ih | called _ _ _ _ _ ih | fault _ _ _ ih | granted _ _ _ ih
  | env _ _ _ ih => exact ⟨(ih hw).ctl, (ih hw).media⟩
  | emitCtl _ i slot bytes next _ _ _ _ _ _ ih =>
    exact ((ih hw).putFrame bytes next).freeSlot i
  | emitKey _ _ _ _ _ _ _ _ _ ih => exact ⟨(ih hw).ctl, (ih hw).media⟩
  | emitMedia _ item _ bytes next _ _ _ _ _ ih =>
    exact ((ih hw).putFrame bytes next).popMedia item
  | pump _ _ _ _ ihf ih => exact ihf (ih hw)
  | teardown _ _ _ ihr => exact ihr (Server.Sized.withdraw _)
  | keys _ rep _ ih => exact (ih hw).onlyKeys (onlyKeys_applyKeys _ rep)
  | discard _ _ _ ih => exact (ih hw).off (hdiscard _)
  | cut _ reason _ _ _ _ _ ihf ih =>
    refine Server.Sized.pushed ?_ _ ?_ _ fun s => offFrames_endQueued s true
    · exact ihf ((ih hw).off (hdiscard _))
    · exact length_endTlv_le reason true
  | drain _ reason _ _ _ _ _ _ ihf ih =>
    refine Server.Sized.pushed ?_ _ ?_ _ fun s => offFrames_endQueued s false
    · exact ihf (ih hw)
    · exact length_endTlv_le reason false
  | quiet _ _ hq _ ih => exact (ih hw).off hq.offFrames
  | event _ _ _ _ _ hf _ ih => exact (ih hw).queue hf rfl
  | link _ _ _ hn _ _ _ _ ihw ih =>
    have hnew := ih hw
    refine Server.Sized.announce ((ihw ?_).off (offFrames_settle _ _ _)) _
    rcases hn with rfl | ⟨_, _, rfl⟩
    · exact ⟨hnew.ctl, hnew.media⟩
    · exact ⟨hnew.ctl, hnew.media⟩
  | profile _ _ _ _ ih =>
    refine Server.Sized.announce ?_ _
    exact (ih hw).off (hsame rfl rfl rfl rfl rfl rfl)
  | start _ f _ _ _ _ _ _ ihf ih =>
    refine Server.Sized.pushed ?_ _ ?_ _ fun _ => hsame rfl rfl rfl rfl rfl rfl
    · exact ihf ((ih hw).off (hsame rfl rfl rfl rfl rfl rfl))
    · exact length_formatTlv_le f true
  | noStart _ _ _ _ _ _ _ ihf ih =>
    have hopen := ihf ((ih hw).off (hsame rfl rfl rfl rfl rfl rfl))
    exact hopen.off (hsame rfl rfl rfl rfl rfl rfl)
  | format _ f _ _ _ _ _ _ _ _ ihf ih =>
    refine Server.Sized.pushed ?_ _ ?_ _ fun _ => hsame rfl rfl rfl rfl rfl rfl
    · exact ihf (ih hw)
    · exact length_formatTlv_le f false
  | fragment _ _ _ _ ht _ _ _ ihf ih =>
    refine Server.Sized.pushed ?_ _ ?_ _ fun s => offFrames_dataQueued s _ _ _
    · exact ihf (ih hw)
    · exact length_dataPayload_le ht.length_le
  | finish _ _ _ hv _ _ _ ihm ih =>
    have hended : (Server.endOp _).Sized := (ih hw).off (hsame rfl rfl rfl rfl rfl rfl)
    refine (ihm ?_).off (hsame rfl rfl rfl rfl rfl rfl)
    cases hv with
    | plain _ => exact hended
    | cancel _ _ => exact hended.off (hsame rfl rfl rfl rfl rfl rfl)
  | enableEvents _ _ _ ih => exact (ih hw).onlyKeys (onlyKeys_enableEvents _)
  | stopEvents _ _ ih => exact ⟨(ih hw).ctl, (ih hw).media⟩
  | unit _ _ _ _ _ ih | resumeVoice _ _ _ ih | prompt _ _ _ _ _ _ _ _ ih | cancel _ _ _ _ ih
  | beginFind _ _ _ _ _ ih | beginOp _ _ _ _ _ _ _ _ ih | enableVoice _ _ _ _ _ _ ih
  | disableVoice _ _ ih => exact ⟨(ih hw).ctl, (ih hw).media⟩

lemma Moves.ringOk (h : Moves b k w w') (hw : w.srv.out.Ok b.outRing) : w'.srv.out.Ok b.outRing := by
  have hwire := h.wire
  clear h
  induction hwire with
  | refl => exact hw
  | @tail v _ _ hstep ih =>
    cases hstep with
    | plain _ _ _ hout => exact hout ▸ ih
    | send n hn =>
      refine (Ring.contents_consume ih ?_).2
      unfold Server.chunk at hn
      rw [List.length_take, Ring.length_contents] at hn
      omega
    | emit _ _ _ bytes next hs => exact (Ring.contents_write ih (hs.write ih)).2
    | withdraw =>
      have hout : (v.withdraw b).srv.out = v.srv.out.setLen (v.srv.firstFrameLen b) := out_withdraw v.srv
      exact hout ▸ (contents_cut ih).2

variable (b) in
/-- The ring is sound and the queues are sized. -/
structure Server.Bounded (s : Server) : Prop where
  ok : s.out.Ok b.outRing
  sized : s.Sized

namespace Server.Bounded

lemma off (h : s.Bounded b) (hout : s'.out = s.out) (ho : OffFrames s s') : s'.Bounded b :=
  ⟨hout ▸ h.ok, h.sized.off ho⟩

lemma queue {slot : CtlSlot} (h : s.Bounded b) (hf : s.ctlFits b slot.payload.length = true)
    (hu : slot.used = true) : (s.putCtl slot).Bounded b :=
  ⟨by simpa using h.ok, h.sized.queue hf hu⟩

lemma moves (h : w.srv.Bounded b) (hm : Moves b k w w') : w'.srv.Bounded b :=
  ⟨hm.ringOk h.ok, hm.sized h.sized⟩

lemma withdraw (h : s.Bounded b) : (s.withdraw b).Bounded b :=
  ⟨out_withdraw (b := b) s ▸ (contents_cut h.ok).2, Server.Sized.withdraw s⟩

lemma patch (h : s.Bounded b) (closing : UInt32) : (s.patchSlotZero closing).Bounded b := by
  refine ⟨?_, fun a ha => ?_, ?_⟩
  · unfold Server.patchSlotZero
    split <;> exact h.ok
  · rcases mem_patchSlotZero ha with ha | ⟨x, hx, rfl⟩
    · exact h.sized.ctl a ha
    · exact h.sized.ctl x hx
  · unfold Server.patchSlotZero
    split <;> exact h.sized.media

end Server.Bounded

lemma Answer.bounded {h : Header} (ha : Answer b h w w') (hw : w.srv.Bounded b) : w'.srv.Bounded b := by
  have hkeep : ∀ {u v : World E}, u.srv.Bounded b → v.srv.Bounded b →
      (v.keepCommitted u.srv h).srv.Bounded b := fun hu hv =>
    ⟨⟨hv.ok.head_lt, hu.ok.len_le⟩, hv.sized.ctl, hv.sized.media⟩
  have herror : ∀ {s : Server}, s.Bounded b → (s.protocolError).Bounded b := fun hs =>
    ⟨hs.ok, hs.sized.ctl, hs.sized.media⟩
  cases ha with
  | reply status payload _ hf => exact hw.queue hf rfl
  | full len _ hr => exact Server.Bounded.moves (herror hw).withdraw hr
  | deferred _ => exact ⟨hw.ok, hw.sized.ctl, hw.sized.media⟩
  | @goodbye v _ hr hf =>
    have hkept := hkeep hw (Server.Bounded.moves hw.withdraw hr)
    have hqueued : ((v.keepCommitted w.srv h).srv.putCtl
        ((v.keepCommitted w.srv h).srv.replySlot h .ok [])).Bounded b := hkept.queue hf rfl
    exact hqueued.patch _
  | goodbyeFull _ hr _ hr' =>
    have hkept := hkeep hw (Server.Bounded.moves hw.withdraw hr)
    exact (Server.Bounded.moves (herror hkept).withdraw hr').patch _

lemma Turns.bounded {g : Prop} (h : Turns b g w w') (hw : w.srv.Bounded b) : w'.srv.Bounded b := by
  have hoff : ∀ {s s' : Server}, s.Bounded b → s'.out = s.out → s'.ctl = s.ctl →
      s'.voice.media = s.voice.media → s'.Bounded b := by
    intro s s' hs hout hctl hmedia
    have hc : s'.ctlQueued = s.ctlQueued := by rw [Server.ctlQueued, hctl, Server.ctlQueued]
    exact ⟨hout ▸ hs.ok, hs.sized.less (hc ▸ List.Subset.refl _) (hmedia ▸ List.Subset.refl _)⟩
  induction h with
  | refl => exact hw
  | moves hm _ ih => exact ih.moves hm
  | pump hm _ ih => exact ih.moves hm
  | seq _ _ _ ih => exact hoff ih rfl rfl rfl
  | request hd payload _ hh _ ih =>
    obtain ⟨w₁, w₂, h₁, ha, h₂⟩ := hh
    have haccept : (World.accept hd payload _).srv.Bounded b := hoff ih rfl rfl rfl
    exact (ha.bounded (haccept.moves h₁)).moves h₂
  | refuse hd status payload _ _ hf _ ih => exact ih.queue hf rfl
  | refuseFull _ _ _ _ ih => exact ih
  | raw payload out hlen ho _ ih =>
    exact ⟨(Ring.contents_write ih.ok ho).2, ih.sized.ctl, ih.sized.media⟩
  | hello hd _ _ _ _ _ hf _ ih =>
    have hgreet : (World.greet hd _).srv.Bounded b := hoff ih rfl rfl rfl
    exact hgreet.queue hf rfl
  | helloFull hd _ _ _ _ _ _ _ ih => exact hoff ih rfl rfl rfl
  | exhausted hd _ _ _ hf _ ih =>
    have hturned : (World.turnAway hd _).srv.Bounded b := hoff ih rfl rfl rfl
    exact hturned.queue hf rfl
  | exhaustedFull hd _ _ _ ih => exact hoff ih rfl rfl rfl
  | deferred d _ _ _ _ hf _ ih =>
    have hqueued : (Server.putCtl (Server.deferredSlot _ d) _).Bounded b := ih.queue hf rfl
    exact hoff hqueued rfl rfl rfl
  | forget _ _ ih => exact hoff ih rfl rfl rfl
  | gone _ _ _ ih =>
    have hempty : ∀ s : Server, s.ctlClear.ctlQueued = [] := fun s => by
      simp [Server.ctlQueued, Server.ctlClear]
    refine ⟨⟨b.outRing_pos, Nat.zero_le _⟩, fun slot hslot => ?_, ih.sized.media⟩
    exact absurd (hempty _ ▸ hslot) List.not_mem_nil

lemma Reach.bounded {ok : Input → Prop} (hw : Reach b ok w) : w.srv.Bounded b := by
  obtain ⟨cfg, profile, loaded, env, hturns⟩ := hw.turns (g := True) fun _ _ => trivial
  have hempty : (Server.init b cfg profile loaded).ctlQueued = [] := by
    simp [Server.ctlQueued, Server.init]
  refine hturns.bounded ⟨⟨b.outRing_pos, Nat.zero_le _⟩, fun slot hslot => ?_, fun item hitem => ?_⟩
  · exact absurd (hempty ▸ hslot) List.not_mem_nil
  · exact absurd hitem List.not_mem_nil

end RemoteBridge
