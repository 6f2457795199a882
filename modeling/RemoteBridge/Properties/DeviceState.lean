import RemoteBridge.Client.Listings
import RemoteBridge.Product.Voice

/-!
# What a client reads of the state of the device

The payload of a `DEVICE_STATE`, and of the answer to `GET_DEVICE`, is written field by field, and a field
that finds no room in the message is left out.  So a message is made of some of the fields that it may
have (`MadeOf`), and a client that accepts it has read each field that it requires: among them the
connection and the number of keys, which are the server's.

Whether a message is accepted is another matter.  The texts come from the profile and from the adapter,
and the client refuses a text that is too long or that is not UTF-8, and values out of range.
-/

namespace RemoteBridge

/-! ## Messages made of fields -/

/-- A field that a message may have. -/
structure TlvPart where
  tag : UInt8
  type : TlvType
  value : List UInt8

def TlvPart.bytes (g : TlvPart) : List UInt8 := tlvField g.tag g.type g.value

/-- The message `w` is made of some of the fields `fs`, in their order. -/
def MadeOf (fs : List TlvPart) (w : List UInt8) : Prop :=
  ∃ gs : List TlvPart, gs.Sublist fs ∧ (∀ g ∈ gs, g.value.length < 65536) ∧ w = (gs.map TlvPart.bytes).flatten

section MadeOf

variable {fs : List TlvPart} {w : List UInt8}

lemma madeOf_nil : MadeOf [] [] := ⟨[], List.Sublist.refl _, by simp, rfl⟩

lemma MadeOf.skip (h : MadeOf fs w) (f : TlvPart) : MadeOf (fs ++ [f]) w := by
  obtain ⟨gs, hsub, hlen, hw⟩ := h
  exact ⟨gs, hsub.trans (List.sublist_append_left _ _), hlen, hw⟩

lemma MadeOf.put (h : MadeOf fs w) (tag : UInt8) (type : TlvType) (v : List UInt8) :
    MadeOf (fs ++ [⟨tag, type, v⟩]) (tlvPut tag type v w) := by
  unfold tlvPut
  split
  · exact h.skip _
  · next hfits =>
    obtain ⟨gs, hsub, hlen, hw⟩ := h
    have hmax : maxPayload = 512 := rfl
    refine ⟨gs ++ [⟨tag, type, v⟩], hsub.append_right _, ?_, ?_⟩
    · intro g hg
      rcases List.mem_append.mp hg with hg | hg
      · exact hlen g hg
      · obtain rfl := List.mem_singleton.mp hg
        show v.length < 65536
        omega
    · rw [hw]
      simp [TlvPart.bytes]

lemma MadeOf.putU8 (h : MadeOf fs w) (tag v : UInt8) :
    MadeOf (fs ++ [⟨tag, .u8, [v]⟩]) (tlvPutU8 tag v w) := h.put tag .u8 [v]

lemma MadeOf.putU16 (h : MadeOf fs w) (tag : UInt8) (v : UInt16) :
    MadeOf (fs ++ [⟨tag, .u16, put16 v⟩]) (tlvPutU16 tag v w) := h.put tag .u16 _

lemma MadeOf.putU32 (h : MadeOf fs w) (tag : UInt8) (v : UInt32) :
    MadeOf (fs ++ [⟨tag, .u32, put32 v⟩]) (tlvPutU32 tag v w) := h.put tag .u32 _

lemma MadeOf.putBool (h : MadeOf fs w) (tag : UInt8) (v : Bool) :
    MadeOf (fs ++ [⟨tag, .bool, [if v then 1 else 0]⟩]) (tlvPutBool tag v w) := h.put tag .bool _

lemma MadeOf.putText (h : MadeOf fs w) (tag : UInt8) (v : List UInt8) :
    MadeOf (fs ++ [⟨tag, .text, v⟩]) (tlvPutText tag v w) := by
  unfold tlvPutText
  split
  · exact h.skip _
  · exact h.put tag .text v

/-- A text that is left out when it is empty. -/
lemma MadeOf.putSome (h : MadeOf fs w) (tag : UInt8) (v : List UInt8) :
    MadeOf (fs ++ [⟨tag, .text, v⟩]) (if v = [] then w else tlvPutText tag v w) := by
  split
  · exact h.skip _
  · exact h.putText tag v

end MadeOf

/-! ## Reading them -/

namespace Python

variable {fields : List Field} {gs : List TlvPart} {t : List (UInt8 × PyTlvValue)}

/-- What was read of a message: the tags were new, each field of the table has its value, and there is
nothing else. -/
structure ReadOf (fields : List Field) (gs : List TlvPart) (seen : List UInt8)
    (t : List (UInt8 × PyTlvValue)) : Prop where
  fresh : ∀ g ∈ gs, g.tag ∉ seen
  value : ∀ g ∈ gs, fields.find? (fun f => f.tag == g.tag) ≠ none →
    ∃ v, pyScalar g.type.code g.value = some v ∧ t.lookup g.tag = some v
  only : ∀ tag v, t.lookup tag = some v → ∃ g ∈ gs, g.tag = tag

lemma readOf_schemaLoop {fuel : Nat} {seen : List UInt8} (hlen : ∀ g ∈ gs, g.value.length < 65536)
    (h : schemaLoop fields fuel seen (gs.map TlvPart.bytes).flatten = some t) :
    ReadOf fields gs seen t := by
  induction gs generalizing fuel seen t with
  | nil =>
    rw [List.map_nil, List.flatten_nil, schemaLoop_nil] at h
    obtain rfl := Option.some.inj h
    exact ⟨by simp, by simp, by simp⟩
  | cons g gs ih =>
    rw [List.forall_mem_cons] at hlen
    rw [List.map_cons, List.flatten_cons] at h
    obtain ⟨hseen, fuel', hcases⟩ := schemaLoop_read hlen.1 h
    rcases hcases with ⟨hfind, hloop⟩ | ⟨value, t', hvalue, hloop, rfl⟩
    · have hrest := ih hlen.2 hloop
      refine ⟨?_, ?_, fun tag v hv => ?_⟩
      · exact List.forall_mem_cons.mpr ⟨hseen, fun x hx hmem =>
          hrest.fresh x hx (List.mem_cons_of_mem _ hmem)⟩
      · exact List.forall_mem_cons.mpr ⟨fun hne => absurd hfind hne, hrest.value⟩
      · obtain ⟨x, hx, htag⟩ := hrest.only tag v hv
        exact ⟨x, List.mem_cons_of_mem _ hx, htag⟩
    · have hrest := ih hlen.2 hloop
      have hother : ∀ x ∈ gs, x.tag ≠ g.tag := fun x hx heq =>
        hrest.fresh x hx (heq ▸ List.mem_cons_self ..)
      refine ⟨?_, ?_, fun tag v hv => ?_⟩
      · exact List.forall_mem_cons.mpr ⟨hseen, fun x hx hmem =>
          hrest.fresh x hx (List.mem_cons_of_mem _ hmem)⟩
      · refine List.forall_mem_cons.mpr ⟨fun _ => ⟨value, hvalue, by simp⟩, fun x hx hne => ?_⟩
        obtain ⟨v, hscalar, hlookup⟩ := hrest.value x hx hne
        refine ⟨v, hscalar, ?_⟩
        rw [List.lookup_cons, beq_eq_false_iff_ne.mpr (hother x hx)]
        exact hlookup
      · rw [List.lookup_cons] at hv
        cases heq : tag == g.tag with
        | true => exact ⟨g, List.mem_cons_self .., (beq_iff_eq.mp heq).symm⟩
        | false =>
          rw [heq] at hv
          obtain ⟨x, hx, htag⟩ := hrest.only tag v hv
          exact ⟨x, List.mem_cons_of_mem _ hx, htag⟩

/-- A required field that only one of the fields can be has the value of that one. -/
lemma intAt_madeOf {fs : List TlvPart} {w : List UInt8} {f : Field} {g : TlvPart} {n : Nat}
    (hw : MadeOf fs w) (h : schemaParse fields w = .ok t) (hf : f ∈ fields) (hr : f.required = true)
    (hg : ∀ x ∈ fs, x.tag = f.tag → x = g) (hn : pyScalar g.type.code g.value = some (.int n)) :
    intAt t f.tag = n := by
  obtain ⟨gs, hsub, hlen, rfl⟩ := hw
  unfold schemaParse at h
  split at h
  · cases h
  · next out hloop =>
    have hread := readOf_schemaLoop hlen hloop
    split at h
    · cases h
    · next hany =>
      obtain rfl : out = t := by
        injection h
      have hpresent : ¬ (out.lookup f.tag).isNone = true := fun hnone =>
        hany (List.any_eq_true.mpr ⟨f, hf, by rw [hr, hnone]; rfl⟩)
      have hsome : out.lookup f.tag ≠ none := fun hnone => hpresent (by rw [hnone]; rfl)
      obtain ⟨v, hv⟩ := Option.ne_none_iff_exists'.mp hsome
      obtain ⟨x, hx, htag⟩ := hread.only _ _ hv
      obtain rfl := hg x (hsub.subset hx) htag
      have hrow : fields.find? (fun f => f.tag == x.tag) ≠ none := by
        rw [Ne, List.find?_eq_none]
        exact fun hno => hno f hf (beq_iff_eq.mpr htag.symm)
      obtain ⟨v', hscalar, hlookup⟩ := hread.value x hx hrow
      rw [hn] at hscalar
      obtain rfl := Option.some.inj hscalar
      unfold intAt
      rw [← htag, hlookup]

end Python

/-! ## The state of the device -/

/-- The fields of `DEVICE_STATE`. -/
def Server.deviceParts (s : Server) : List TlvPart :=
  let d := s.device
  let p := d.shownProfile
  [⟨1, .u32, put32 d.connectionId⟩, ⟨2, .u32, put32 (if d.peerValid then d.peer.peerId else 0)⟩,
    ⟨3, .u8, [d.linkState.code]⟩, ⟨4, .text, p.elim [] (·.modelId)⟩,
    ⟨5, .text, p.elim (if d.peerValid then d.peer.name else []) (·.displayName)⟩,
    ⟨6, .u32, put32 (p.elim 0 (·.catalogRevision))⟩,
    ⟨7, .u8, [p.elim 0 fun p => UInt8.ofNat p.keys.length]⟩, ⟨8, .u8, [d.voiceState.code]⟩,
    ⟨9, .u32, put32 (if d.voiceState = .ready then d.voiceSampleRate else 0)⟩, ⟨10, .u8, [d.battery]⟩,
    ⟨11, .u8, [d.charging]⟩, ⟨12, .bool, [if s.voice.enabled then 1 else 0]⟩,
    ⟨13, .bool, [if s.voice.delivering then 1 else 0]⟩,
    ⟨14, .u32, put32 (if s.voice.delivering then s.voice.streamId else 0)⟩,
    ⟨15, .bool, [if s.voice.waitingIdle then 1 else 0]⟩, ⟨16, .u16, put16 d.condition.code⟩,
    ⟨17, .text, cText d.linkMsg⟩, ⟨18, .u8, [d.voiceInteraction.code]⟩,
    ⟨19, .u32, put32 (if d.voiceState ≠ .absent then s.cfg.maxCaptureMs else 0)⟩]

lemma madeOf_deviceInfoTlv (s : Server) : MadeOf s.deviceParts s.deviceInfoTlv := by
  have hlink := ((madeOf_nil.putU32 1 s.device.connectionId).putU32 2
    (if s.device.peerValid then s.device.peer.peerId else 0)).putU8 3 s.device.linkState.code
  have hmodel := (((hlink.putText 4 (s.device.shownProfile.elim [] (·.modelId))).putText 5
    (s.device.shownProfile.elim (if s.device.peerValid then s.device.peer.name else [])
      (·.displayName))).putU32 6 (s.device.shownProfile.elim 0 (·.catalogRevision))).putU8 7
      (s.device.shownProfile.elim 0 fun p => UInt8.ofNat p.keys.length)
  have hvoice := (((hmodel.putU8 8 s.device.voiceState.code).putU32 9
    (if s.device.voiceState = .ready then s.device.voiceSampleRate else 0)).putU8 10
      s.device.battery).putU8 11 s.device.charging
  have hstream := ((((hvoice.putBool 12 s.voice.enabled).putBool 13 s.voice.delivering).putU32 14
    (if s.voice.delivering then s.voice.streamId else 0)).putBool 15 s.voice.waitingIdle).putU16 16
      s.device.condition.code
  have hlast := ((hstream.putSome 17 (cText s.device.linkMsg)).putU8 18
    s.device.voiceInteraction.code).putU32 19
      (if s.device.voiceState ≠ .absent then s.cfg.maxCaptureMs else 0)
  simp only [List.nil_append, List.cons_append] at hlast
  exact hlast

namespace Python

/-- The client takes the state of a device: it has its fields, and their values are in range. -/
def acceptsDevice (payload : List UInt8) : Bool :=
  match schemaParse deviceFields payload with
  | .error _ => false
  | .ok t => !deviceRefused t

lemma exists_of_acceptsDevice {payload : List UInt8} (h : acceptsDevice payload = true) :
    ∃ t, schemaParse deviceFields payload = .ok t ∧ deviceRefused t = false := by
  unfold acceptsDevice at h
  split at h
  · cases h
  · next t hparse => exact ⟨t, hparse, by simpa using h⟩

/-- What the client reads of the state of a device is its connection and its number of keys. -/
lemma intAt_deviceInfoTlv {s : Server} {t : List (UInt8 × PyTlvValue)}
    (h : schemaParse deviceFields s.deviceInfoTlv = .ok t) :
    intAt t 1 = s.device.connectionId.toNat ∧
      intAt t 7 = (s.device.shownProfile.elim 0 fun p => UInt8.ofNat p.keys.length).toNat := by
  have hmade := madeOf_deviceInfoTlv s
  refine ⟨?_, ?_⟩
  · refine intAt_madeOf (f := ⟨1, 3, true⟩) (g := ⟨1, .u32, put32 s.device.connectionId⟩) hmade h
      (by simp [deviceFields]) rfl ?_ (pyScalar_u32 _)
    simp [Server.deviceParts]
  · refine intAt_madeOf (f := ⟨7, 1, true⟩)
      (g := ⟨7, .u8, [s.device.shownProfile.elim 0 fun p => UInt8.ofNat p.keys.length]⟩) hmade h
      (by simp [deviceFields]) rfl ?_ (pyScalar_u8 _)
    simp [Server.deviceParts]

end Python

end RemoteBridge
