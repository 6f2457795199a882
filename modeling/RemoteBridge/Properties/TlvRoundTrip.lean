import RemoteBridge.Protocol.TlvCodec

/-!
# TLV messages

Three readers go over the same grammar: a concatenation of entries with distinct tags.  The C reader
keeps the tags it has seen in a bit set, the Python and the .NET reader in a set, and `tlvEntries` in a
list; the bit set is brought down to the list first, and everything else is about the list.

Text fields are where the readers part.  `rbp_tlv_get_text` reads every code point, and its range check
for the surrogates stands in the branch of the four-byte forms, so a text with a three-byte surrogate
passes here and nowhere else.
-/

namespace RemoteBridge

open Utf8

/-! ## Statement -/

/-- The bytes of an entry. -/
def TlvEntry.encode (e : TlvEntry) : List UInt8 :=
  [e.tag, e.type] ++ put16 (UInt16.ofNat e.value.length) ++ e.value

/-- The message is a concatenation of complete entries with distinct tags. -/
structure Spell (entries : List TlvEntry) (buf : List UInt8) : Prop where
  bytes : entries.flatMap TlvEntry.encode = buf
  complete : ∀ e ∈ entries, e.value.length < 65536
  distinct : (entries.map TlvEntry.tag).Nodup

/-- The argument of a typed put. -/
inductive TlvValue where
  | u8 (v : UInt8)
  | u16 (v : UInt16)
  | u32 (v : UInt32)
  | u64 (v : UInt64)
  | bool (v : Bool)
  | text (v : List UInt8)
  | bytes (v : List UInt8)
  deriving DecidableEq, Repr

namespace TlvValue

/-- The typed put of the value. -/
def put (tag : UInt8) : TlvValue → TlvWriter → TlvWriter
  | .u8 v => .putU8 tag v
  | .u16 v => .putU16 tag v
  | .u32 v => .putU32 tag v
  | .u64 v => .putU64 tag v
  | .bool v => .putBool tag v
  | .text v => .putText tag v
  | .bytes v => .putBytes tag v

/-- The typed getter of the value returns it. -/
def ReadBack (payload : List UInt8) (tag : UInt8) : TlvValue → Prop
  | .u8 v => tlvGetU8 payload tag = .ok (some v)
  | .u16 v => tlvGetU16 payload tag = .ok (some v)
  | .u32 v => tlvGetU32 payload tag = .ok (some v)
  | .u64 v => tlvGetU64 payload tag = .ok (some v)
  | .bool v => tlvGetBool payload tag = .ok (some v)
  | .text v => tlvGetText payload tag = .ok (some v)
  | .bytes v => tlvGetBytes payload tag = .ok (some v)

/-- Texts are well-formed C strings. -/
def IsText : TlvValue → Prop
  | .text v => WellFormed v ∧ 0 ∉ v
  | _ => True

end TlvValue

/-- The message that a sequence of puts leaves. -/
def TlvWriter.putAll (puts : List (UInt8 × TlvValue)) (w : TlvWriter) : TlvWriter :=
  puts.foldl (fun w p => p.2.put p.1 w) w

/-- Every getter reports the tag absent. -/
structure TlvAbsent (payload : List UInt8) (tag : UInt8) : Prop where
  u8 : tlvGetU8 payload tag = .ok none
  u16 : tlvGetU16 payload tag = .ok none
  u32 : tlvGetU32 payload tag = .ok none
  u64 : tlvGetU64 payload tag = .ok none
  bool : tlvGetBool payload tag = .ok none
  text : tlvGetText payload tag = .ok none
  bytes : tlvGetBytes payload tag = .ok none

/-! ## The bit set of tags -/

namespace TlvReader

variable {r : TlvReader} {t t' : UInt8}

lemma or_and_right (a b c : UInt8) : (a ||| b) &&& c = (a &&& c) ||| (b &&& c) := by
  apply UInt8.toNat_inj.mp
  rw [UInt8.toNat_and, UInt8.toNat_or, UInt8.toNat_or, UInt8.toNat_and, UInt8.toNat_and,
    Nat.and_or_distrib_right]

lemma bits_meet (t t' : UInt8) :
    (1 <<< (t &&& 7)) &&& (1 <<< (t' &&& 7)) = (0 : UInt8) ↔ (t &&& 7) ≠ (t' &&& 7) := by
  have hfin : ∀ i j : Fin 8,
      (1 <<< UInt8.ofNat i) &&& (1 <<< UInt8.ofNat j) = (0 : UInt8) ↔ UInt8.ofNat i ≠ UInt8.ofNat j := by
    decide +kernel
  have hlow : ∀ t : UInt8, ∃ i : Fin 8, t &&& 7 = UInt8.ofNat i := by
    decide +kernel
  obtain ⟨i, hi⟩ := hlow t
  obtain ⟨j, hj⟩ := hlow t'
  rw [hi, hj]
  exact hfin i j

/-- A tag is its byte in the set and its bit in that byte. -/
lemma tag_eq_iff (t t' : UInt8) : t = t' ↔ t >>> 3 = t' >>> 3 ∧ t &&& 7 = t' &&& 7 := by
  have hsplit : ∀ t : UInt8, t.toNat = 8 * (t >>> 3).toNat + (t &&& 7).toNat := by
    decide +kernel
  constructor
  · rintro rfl
    exact ⟨rfl, rfl⟩
  · rintro ⟨hbyte, hbit⟩
    apply UInt8.toNat_inj.mp
    rw [hsplit t, hsplit t', hbyte, hbit]

lemma seen_init (buf : List UInt8) (t : UInt8) : (init buf).seen t = false := by
  unfold seen init
  simp

lemma seen_mark (r : TlvReader) (t t' : UInt8) : (r.mark t).seen t' = (t == t' || r.seen t') := by
  unfold seen mark
  dsimp only
  by_cases hbyte : t' >>> 3 = t >>> 3
  · rw [if_pos (congrArg UInt8.toNat hbyte), Bool.eq_iff_iff, bne_iff_ne, or_and_right,
      Ne, UInt8.or_eq_zero_iff, bits_meet, Bool.or_eq_true, beq_iff_eq, bne_iff_ne, tag_eq_iff t t']
    tauto
  · rw [if_neg (fun h => hbyte (UInt8.toNat_inj.mp h))]
    have hne : (t == t') = false := by
      rw [beq_eq_false_iff_ne]
      rintro rfl
      exact hbyte rfl
    rw [hne, Bool.false_or]

lemma next_short (hvalid : r.valid = true) (hlt : r.pos < r.buf.length)
    (hshort : (r.buf.drop r.pos).length < 4) : r.next.1 = .error .malformed := by
  rw [List.length_drop] at hshort
  unfold next
  rw [if_neg (by rw [hvalid]; decide), if_neg (Nat.ne_of_lt hlt), if_pos hshort]

lemma walk_short {fuel : Nat} (hvalid : r.valid = true) (hlt : r.pos < r.buf.length)
    (hshort : (r.buf.drop r.pos).length < 4) : r.walk (fuel + 1) = .error .malformed := by
  have hnext := next_short hvalid hlt hshort
  rw [walk, if_pos hlt]
  generalize r.next = res at hnext
  obtain ⟨out, r'⟩ := res
  dsimp only at hnext
  rw [hnext]

/-- `rbp_tlv_next` in terms of the bytes that are left. -/
lemma next_cons {t type l0 l1 : UInt8} {rest : List UInt8} (hvalid : r.valid = true)
    (hrest : r.buf.drop r.pos = t :: type :: l0 :: l1 :: rest) :
    r.next =
      if rest.length < l0.toNat + 256 * l1.toNat then (.error .malformed, { r with valid := false })
      else if r.seen t then (.error .duplicate, { r with valid := false })
      else (.ok { tag := t, type := type, value := rest.take (l0.toNat + 256 * l1.toNat) },
        { r.mark t with pos := r.pos + 4 + (l0.toNat + 256 * l1.toNat) }) := by
  have hget : ∀ i, r.buf.getD (r.pos + i) 0 = (r.buf.drop r.pos).getD i 0 := by
    intro i
    simp only [List.getD_eq_getElem?_getD, List.getElem?_drop]
  have hget0 : r.buf.getD r.pos 0 = t := by
    rw [← Nat.add_zero r.pos, hget 0, hrest]
    rfl
  have hlen : r.buf.length - r.pos = rest.length + 4 := by
    rw [← List.length_drop, hrest]
    rfl
  have hdrop : r.buf.drop (r.pos + 4) = rest := by
    rw [← List.drop_drop, hrest]
    rfl
  unfold next
  rw [if_neg (by rw [hvalid]; decide), if_neg (by omega), if_neg (by omega), hget0, hget 1, hget 2, hget 3,
    hrest]
  show (if r.buf.length - r.pos - 4 < l0.toNat + 256 * l1.toNat then _ else _ : _ × TlvReader) = _
  rw [hlen, Nat.add_sub_cancel]
  by_cases hbound : rest.length < l0.toNat + 256 * l1.toNat
  · rw [if_pos hbound, if_pos hbound]
  · rw [if_neg hbound, if_neg hbound]
    by_cases hdup : r.seen t = true
    · rw [if_pos hdup, if_pos hdup]
    · rw [if_neg hdup, if_neg hdup]
      have hpos : r.pos + 4 + (l0.toNat + 256 * l1.toNat) - (l0.toNat + 256 * l1.toNat) = r.pos + 4 :=
        Nat.add_sub_cancel _ _
      refine Prod.ext (congrArg Except.ok ?_) rfl
      show TlvEntry.mk t type ((r.buf.drop (r.pos + 4 + (l0.toNat + 256 * l1.toNat) -
        (l0.toNat + 256 * l1.toNat))).take _) = _
      rw [hpos, hdrop]
      rfl

/-- With the same tags behind them, the reader and the list of tags read the same entries. -/
lemma walk_eq {seen : List UInt8} {fuel : Nat} (hvalid : r.valid = true)
    (hseen : ∀ t, r.seen t = decide (t ∈ seen)) :
    r.walk fuel = tlvEntries fuel seen (r.buf.drop r.pos) := by
  induction fuel generalizing r seen with
  | zero =>
    rw [walk]
    by_cases hlt : r.pos < r.buf.length
    · rw [if_pos hlt, tlvEntries]
      · intro h
        exact absurd (List.drop_eq_nil_iff.mp h) (not_le_of_gt hlt)
      · intro _ _ _ _ _ _ h
        exact absurd h (Nat.succ_ne_zero _).symm
    · rw [if_neg hlt, List.drop_eq_nil_of_le (not_lt.mp hlt)]
      rfl
  | succ fuel ih =>
    by_cases hlt : r.pos < r.buf.length
    · match hrest : r.buf.drop r.pos with
      | [] => exact absurd (List.drop_eq_nil_iff.mp hrest) (not_le_of_gt hlt)
      | [_] => exact walk_short hvalid hlt (by rw [hrest]; show 1 < 4; decide)
      | [_, _] => exact walk_short hvalid hlt (by rw [hrest]; show 2 < 4; decide)
      | [_, _, _] => exact walk_short hvalid hlt (by rw [hrest]; show 3 < 4; decide)
      | t :: type :: l0 :: l1 :: rest =>
        rw [walk, if_pos hlt, next_cons hvalid hrest, tlvEntries]
        dsimp only
        by_cases hbound : rest.length < l0.toNat + 256 * l1.toNat
        · rw [if_pos hbound, if_pos hbound]
        · rw [if_neg hbound, if_neg hbound]
          have hmem : r.seen t = true ↔ t ∈ seen := by rw [hseen t, decide_eq_true_iff]
          by_cases hdup : t ∈ seen
          · rw [if_pos (hmem.mpr hdup), if_pos hdup]
          · rw [if_neg (fun h => hdup (hmem.mp h)), if_neg hdup]
            have hseen' : ∀ t', (r.mark t).seen t' = decide (t' ∈ t :: seen) := by
              intro t'
              rw [seen_mark, hseen t', Bool.eq_iff_iff, Bool.or_eq_true, beq_iff_eq, decide_eq_true_iff,
                decide_eq_true_iff, List.mem_cons, eq_comm]
            have hdrop : r.buf.drop (r.pos + 4 + (l0.toNat + 256 * l1.toNat)) =
                rest.drop (l0.toNat + 256 * l1.toNat) := by
              have hfour : r.buf.drop (r.pos + 4) = rest := by
                rw [← List.drop_drop, hrest]
                rfl
              rw [← hfour, List.drop_drop]
            have htail := @ih { r.mark t with pos := r.pos + 4 + (l0.toNat + 256 * l1.toNat) } (t :: seen)
              hvalid hseen'
            rw [show (r.mark t).buf = r.buf from rfl, hdrop] at htail
            dsimp only
            rewrite [htail]
            rfl
    · rw [walk, if_neg hlt, List.drop_eq_nil_of_le (not_lt.mp hlt)]
      rfl

/-- Iterating over a whole message is the walk of `tlvScan`. -/
lemma walk_init (buf : List UInt8) : (init buf).walk buf.length = tlvScan buf :=
  walk_eq rfl (fun t => by rw [seen_init]; rfl)

end TlvReader

/-! ## The grammar -/

lemma TlvEntry.encode_eq {e : TlvEntry} (hlen : e.value.length < 65536) :
    ∃ l0 l1 : UInt8, e.encode = e.tag :: e.type :: l0 :: l1 :: e.value ∧
      l0.toNat + 256 * l1.toNat = e.value.length := by
  have hput : put16 (UInt16.ofNat e.value.length) =
      [UInt8.ofNat e.value.length, UInt8.ofNat (e.value.length / 256)] := by
    have hnat : (UInt16.ofNat e.value.length).toNat = e.value.length := UInt16.toNat_ofNat_of_lt' hlen
    rw [put16, hnat]
    rfl
  refine ⟨UInt8.ofNat e.value.length, UInt8.ofNat (e.value.length / 256), ?_, ?_⟩
  · rw [TlvEntry.encode, hput]
    rfl
  · have hlo : (UInt8.ofNat e.value.length).toNat = e.value.length % 256 := UInt8.toNat_ofNat'
    have hhi : (UInt8.ofNat (e.value.length / 256)).toNat = e.value.length / 256 % 256 := UInt8.toNat_ofNat'
    rw [hlo, hhi]
    omega

lemma length_pair_inj {l0 l1 m0 m1 : UInt8} (h : l0.toNat + 256 * l1.toNat = m0.toNat + 256 * m1.toNat) :
    l0 = m0 ∧ l1 = m1 := by
  have h0 := l0.toNat_lt
  have h1 := m0.toNat_lt
  exact ⟨UInt8.toNat_inj.mp (by omega), UInt8.toNat_inj.mp (by omega)⟩

lemma four_le_encode (e : TlvEntry) : 4 ≤ e.encode.length := by
  unfold TlvEntry.encode
  rw [List.length_append, List.length_append, length_put16]
  show 4 ≤ 2 + 2 + e.value.length
  omega

lemma Spell.length {entries : List TlvEntry} {buf : List UInt8} (h : Spell entries buf)
    (hne : entries ≠ []) : 4 ≤ buf.length := by
  obtain ⟨e, es, rfl⟩ := List.exists_cons_of_ne_nil hne
  have hlen := four_le_encode e
  rw [← h.bytes, List.flatMap_cons, List.length_append]
  omega

lemma not_spelled {seen buf : List UInt8} {entries : List TlvEntry} {out : Except TlvErr (List TlvEntry)}
    {e : TlvErr} (hout : out = .error e) (hne : buf ≠ []) (hshort : buf.length < 4) :
    out = .ok entries ↔ Spell entries buf ∧ ∀ e ∈ entries, e.tag ∉ seen := by
  constructor
  · intro h
    rw [hout] at h
    cases h
  · rintro ⟨h, -⟩
    by_cases hnil : entries = []
    · rw [hnil] at h
      exact absurd h.bytes.symm hne
    · exact absurd (h.length hnil) (not_le_of_gt hshort)

section Entry

variable {fuel : Nat} {seen rest : List UInt8} {t type l0 l1 : UInt8} {entries : List TlvEntry}

lemma tlvEntries_cons_iff :
    tlvEntries (fuel + 1) seen (t :: type :: l0 :: l1 :: rest) = .ok entries ↔
      l0.toNat + 256 * l1.toNat ≤ rest.length ∧ t ∉ seen ∧
        ∃ es, tlvEntries fuel (t :: seen) (rest.drop (l0.toNat + 256 * l1.toNat)) = .ok es ∧
          entries = { tag := t, type := type, value := rest.take (l0.toNat + 256 * l1.toNat) } :: es := by
  rw [tlvEntries]
  constructor
  · intro h
    split_ifs at h with hbound hdup
    cases htail : tlvEntries fuel (t :: seen) (rest.drop (l0.toNat + 256 * l1.toNat)) with
    | error e =>
      rw [htail] at h
      cases h
    | ok es =>
      rw [htail] at h
      exact ⟨not_lt.mp hbound, hdup, es, rfl, (Except.ok.inj h).symm⟩
  · rintro ⟨hbound, hdup, es, htail, rfl⟩
    rw [if_neg (not_lt_of_ge hbound), if_neg hdup, htail]

/-- The first entry of a message is the one its first bytes announce. -/
lemma spell_cons_iff :
    Spell entries (t :: type :: l0 :: l1 :: rest) ↔
      l0.toNat + 256 * l1.toNat ≤ rest.length ∧
        ∃ es, Spell es (rest.drop (l0.toNat + 256 * l1.toNat)) ∧ (∀ e ∈ es, e.tag ≠ t) ∧
          entries = { tag := t, type := type, value := rest.take (l0.toNat + 256 * l1.toNat) } :: es := by
  constructor
  · intro h
    cases entries with
    | nil => exact absurd h.bytes.symm (List.cons_ne_nil _ _)
    | cons e es =>
      obtain ⟨m0, m1, henc, hlen⟩ := TlvEntry.encode_eq (h.complete e List.mem_cons_self)
      have hbytes := h.bytes
      rw [List.flatMap_cons, henc] at hbytes
      simp only [List.cons_append, List.cons.injEq] at hbytes
      obtain ⟨htag, htype, h0, h1, hrest⟩ := hbytes
      have hnodup := List.nodup_cons.mp h.distinct
      rw [← h0, ← h1, hlen, ← hrest, List.length_append, List.drop_left, List.take_left]
      refine ⟨Nat.le_add_right _ _, es, ⟨rfl, ?_, hnodup.2⟩, ?_, ?_⟩
      · intro e' he'
        exact h.complete e' (List.mem_cons_of_mem _ he')
      · intro e' he' heq
        rw [← htag] at heq
        exact hnodup.1 (List.mem_map.mpr ⟨e', he', heq⟩)
      · rw [← htag, ← htype]
  · rintro ⟨hbound, es, h, hnew, rfl⟩
    have h0 := l0.toNat_lt
    have h1 := l1.toNat_lt
    have hlen : (rest.take (l0.toNat + 256 * l1.toNat)).length = l0.toNat + 256 * l1.toNat :=
      List.length_take_of_le hbound
    have hlt : (rest.take (l0.toNat + 256 * l1.toNat)).length < 65536 := by omega
    obtain ⟨m0, m1, henc, hm⟩ := TlvEntry.encode_eq
      (e := { tag := t, type := type, value := rest.take (l0.toNat + 256 * l1.toNat) }) hlt
    obtain ⟨rfl, rfl⟩ := length_pair_inj (hm.trans hlen)
    refine ⟨?_, ?_, ?_⟩
    · rw [List.flatMap_cons, henc, h.bytes]
      simp only [List.cons_append, List.take_append_drop]
    · intro e he
      obtain rfl | he := List.mem_cons.mp he
      · exact hlt
      · exact h.complete e he
    · rw [List.map_cons, List.nodup_cons]
      refine ⟨?_, h.distinct⟩
      intro hmem
      obtain ⟨e, he, heq⟩ := List.mem_map.mp hmem
      exact hnew e he heq

end Entry

/-- The walk is correct: it returns the entries that spell the message, if their tags are new. -/
lemma tlvEntries_iff {fuel : Nat} {seen buf : List UInt8} {entries : List TlvEntry}
    (hfuel : buf.length ≤ fuel) :
    tlvEntries fuel seen buf = .ok entries ↔ Spell entries buf ∧ ∀ e ∈ entries, e.tag ∉ seen := by
  induction fuel generalizing seen buf entries with
  | zero =>
    rw [List.length_eq_zero_iff.mp (Nat.le_zero.mp hfuel)]
    constructor
    · intro h
      rw [← Except.ok.inj h]
      exact ⟨⟨rfl, by simp, List.nodup_nil⟩, by simp⟩
    · rintro ⟨h, -⟩
      by_cases hne : entries = []
      · rw [hne]
        rfl
      · exact absurd (h.length hne) (by decide)
  | succ fuel ih =>
    match buf with
    | [] =>
      constructor
      · intro h
        rw [← Except.ok.inj h]
        exact ⟨⟨rfl, by simp, List.nodup_nil⟩, by simp⟩
      · rintro ⟨h, -⟩
        by_cases hne : entries = []
        · rw [hne]
          rfl
        · exact absurd (h.length hne) (by decide)
    | [_] =>
      -- fewer than four bytes are no entry
      exact not_spelled rfl (List.cons_ne_nil _ _) (by show 1 < 4; decide)
    | [_, _] => exact not_spelled rfl (List.cons_ne_nil _ _) (by show 2 < 4; decide)
    | [_, _, _] => exact not_spelled rfl (List.cons_ne_nil _ _) (by show 3 < 4; decide)
    | t :: type :: l0 :: l1 :: rest =>
      have hfuel' : (rest.drop (l0.toNat + 256 * l1.toNat)).length ≤ fuel := by
        rw [List.length_cons, List.length_cons, List.length_cons, List.length_cons] at hfuel
        rw [List.length_drop]
        omega
      rw [tlvEntries_cons_iff, spell_cons_iff]
      constructor
      · rintro ⟨hbound, hnew, es, htail, rfl⟩
        obtain ⟨hspell, hes⟩ := (ih hfuel').mp htail
        refine ⟨⟨hbound, es, hspell, ?_, rfl⟩, ?_⟩
        · intro e he heq
          exact hes e he (heq ▸ List.mem_cons_self)
        · intro e he
          obtain rfl | he := List.mem_cons.mp he
          · exact hnew
          · exact fun hmem => hes e he (List.mem_cons_of_mem _ hmem)
      · rintro ⟨⟨hbound, es, hspell, hne, rfl⟩, hnew⟩
        refine ⟨hbound, hnew _ List.mem_cons_self, es, (ih hfuel').mpr ⟨hspell, ?_⟩, rfl⟩
        intro e he hmem
        obtain heq | hmem := List.mem_cons.mp hmem
        · exact hne e he heq
        · exact hnew e (List.mem_cons_of_mem _ he) hmem

lemma tlvScan_iff {buf : List UInt8} {entries : List TlvEntry} :
    tlvScan buf = .ok entries ↔ Spell entries buf := by
  rw [tlvScan, tlvEntries_iff le_rfl]
  exact ⟨fun h => h.1, fun h => ⟨h, fun _ _ => List.not_mem_nil⟩⟩

/-! ## The other readers -/

section Entry

variable {fuel : Nat} {seen rest : List UInt8} {t type l0 l1 : UInt8}

lemma pyParseLoop_cons_iff {strict : Bool} {out : List (UInt8 × PyTlvValue)} :
    pyParseLoop strict (fuel + 1) seen (t :: type :: l0 :: l1 :: rest) = .ok out ↔
      l0.toNat + 256 * l1.toNat ≤ rest.length ∧ t ∉ seen ∧
        ∃ value tail,
          (pyScalar type (rest.take (l0.toNat + 256 * l1.toNat))).orElse (fun _ =>
            if strict then none else some (.raw type (rest.take (l0.toNat + 256 * l1.toNat)))) = some value ∧
          pyParseLoop strict fuel (t :: seen) (rest.drop (l0.toNat + 256 * l1.toNat)) = .ok tail ∧
          out = (t, value) :: tail := by
  rw [pyParseLoop]
  constructor
  · intro h
    by_cases hbound : rest.length < l0.toNat + 256 * l1.toNat
    · rw [if_pos hbound] at h
      cases h
    by_cases hdup : t ∈ seen
    · rw [if_neg hbound, if_pos hdup] at h
      cases h
    rw [if_neg hbound, if_neg hdup] at h
    split at h
    · cases h
    · next value hvalue =>
      split at h
      · cases h
      · next tail htail =>
        exact ⟨not_lt.mp hbound, hdup, value, tail, hvalue, htail, (Except.ok.inj h).symm⟩
  · rintro ⟨hbound, hdup, value, tail, hvalue, htail, rfl⟩
    rw [if_neg (not_lt_of_ge hbound), if_neg hdup, hvalue]
    dsimp only
    rw [htail]

lemma netParseLoop_cons_iff {out : List TlvEntry} :
    netParseLoop (fuel + 1) seen (t :: type :: l0 :: l1 :: rest) = .ok out ↔
      l0.toNat + 256 * l1.toNat ≤ rest.length ∧ t ∉ seen ∧
        netValid type (rest.take (l0.toNat + 256 * l1.toNat)) = true ∧
        ¬ (type = 6 ∧ decode? (rest.take (l0.toNat + 256 * l1.toNat)) = none) ∧
        ∃ tail, netParseLoop fuel (t :: seen) (rest.drop (l0.toNat + 256 * l1.toNat)) = .ok tail ∧
          out = { tag := t, type := type, value := rest.take (l0.toNat + 256 * l1.toNat) } :: tail := by
  rw [netParseLoop]
  constructor
  · intro h
    split_ifs at h with hbad hvalid htext
    obtain ⟨hbound, hdup⟩ := not_or.mp hbad
    split at h
    · cases h
    · next tail htail =>
      exact ⟨not_lt.mp hbound, hdup, Bool.not_eq_false _ ▸ hvalid, htext, tail, htail,
        (Except.ok.inj h).symm⟩
  · rintro ⟨hbound, hdup, hvalid, htext, tail, htail, rfl⟩
    rw [if_neg (not_or_intro (not_lt_of_ge hbound) hdup), if_neg (by rw [hvalid]; decide), if_neg htext, htail]

end Entry

/-- Without strict scalars, `parse_tlv` keeps an entry of any type and any value. -/
lemma pyParseLoop_lenient {fuel : Nat} {seen buf : List UInt8} :
    (∃ out, pyParseLoop false fuel seen buf = .ok out) ↔ ∃ es, tlvEntries fuel seen buf = .ok es := by
  induction fuel generalizing seen buf with
  | zero =>
    match buf with
    | [] => exact ⟨fun _ => ⟨[], rfl⟩, fun _ => ⟨[], rfl⟩⟩
    | t :: rest => simp [pyParseLoop, tlvEntries]
  | succ fuel ih =>
    match buf with
    | [] => exact ⟨fun _ => ⟨[], rfl⟩, fun _ => ⟨[], rfl⟩⟩
    | [_] => simp [pyParseLoop, tlvEntries]
    | [_, _] => simp [pyParseLoop, tlvEntries]
    | [_, _, _] => simp [pyParseLoop, tlvEntries]
    | t :: type :: l0 :: l1 :: rest =>
      constructor
      · rintro ⟨out, h⟩
        obtain ⟨hbound, hdup, _, tail, _, htail, _⟩ := pyParseLoop_cons_iff.mp h
        obtain ⟨es, hes⟩ := ih.mp ⟨tail, htail⟩
        exact ⟨_, tlvEntries_cons_iff.mpr ⟨hbound, hdup, es, hes, rfl⟩⟩
      · rintro ⟨entries, h⟩
        obtain ⟨hbound, hdup, es, hes, _⟩ := tlvEntries_cons_iff.mp h
        obtain ⟨tail, htail⟩ := ih.mpr ⟨es, hes⟩
        have hvalue : ∃ value, (pyScalar type (rest.take (l0.toNat + 256 * l1.toNat))).orElse (fun _ =>
            if false then none else some (.raw type (rest.take (l0.toNat + 256 * l1.toNat)))) = some value := by
          cases pyScalar type (rest.take (l0.toNat + 256 * l1.toNat)) with
          | none => exact ⟨_, rfl⟩
          | some value => exact ⟨value, rfl⟩
        obtain ⟨value, hvalue⟩ := hvalue
        exact ⟨_, pyParseLoop_cons_iff.mpr ⟨hbound, hdup, value, tail, hvalue, htail, rfl⟩⟩

/-! ## The writer -/

/-- The entry that a typed put writes. -/
def TlvValue.entry (tag : UInt8) : TlvValue → TlvEntry
  | .u8 v => { tag, type := 1, value := [v] }
  | .u16 v => { tag, type := 2, value := put16 v }
  | .u32 v => { tag, type := 3, value := put32 v }
  | .u64 v => { tag, type := 4, value := put64 v }
  | .bool v => { tag, type := 5, value := [if v then 1 else 0] }
  | .text v => { tag, type := 6, value := v }
  | .bytes v => { tag, type := 7, value := v }

/-- The bounds that the typed puts check. -/
def TlvValue.Bounded : TlvValue → Prop
  | .text v => v.length ≤ tlvMaxText
  | .bytes v => v.length ≤ tlvMaxBytes
  | _ => True

namespace TlvWriter

variable {w : TlvWriter} {tag : UInt8}

/-- A put that leaves no overflow is in order, and has written its entry. -/
lemma put_written {type : TlvType} {v : List UInt8} (h : (w.put tag type v).overflow = false) :
    w.overflow = false ∧ w.lastTag < tag.toNat ∧ (w.put tag type v).lastTag = tag.toNat ∧
      (w.put tag type v).buf = w.buf ++ tlvField tag type v ∧ v.length ≤ maxPayload := by
  unfold put at h ⊢
  dsimp only at h ⊢
  by_cases hfits : w.buf.length + 4 + v.length > maxPayload
  · rw [if_pos hfits] at h
    cases h
  · rw [if_neg hfits] at h ⊢
    obtain ⟨hover, horder⟩ := Bool.or_eq_false_iff.mp h
    refine ⟨hover, lt_of_not_ge (of_decide_eq_false horder), rfl, ?_, by omega⟩
    show tlvPut tag type v w.buf = _
    rw [tlvPut, if_neg hfits]

lemma putValue_written {v : TlvValue} (h : (v.put tag w).overflow = false) :
    w.overflow = false ∧ w.lastTag < tag.toNat ∧ (v.put tag w).lastTag = tag.toNat ∧
      (v.put tag w).buf = w.buf ++ (v.entry tag).encode ∧ (v.entry tag).value.length ≤ maxPayload ∧
      v.Bounded := by
  cases v with
  | u8 v =>
    obtain ⟨h1, h2, h3, h4, h5⟩ := put_written h
    exact ⟨h1, h2, h3, h4, h5, trivial⟩
  | u16 v =>
    obtain ⟨h1, h2, h3, h4, h5⟩ := put_written h
    exact ⟨h1, h2, h3, h4, h5, trivial⟩
  | u32 v =>
    obtain ⟨h1, h2, h3, h4, h5⟩ := put_written h
    exact ⟨h1, h2, h3, h4, h5, trivial⟩
  | u64 v =>
    obtain ⟨h1, h2, h3, h4, h5⟩ := put_written h
    exact ⟨h1, h2, h3, h4, h5, trivial⟩
  | bool v =>
    obtain ⟨h1, h2, h3, h4, h5⟩ := put_written h
    exact ⟨h1, h2, h3, h4, h5, trivial⟩
  | text v =>
    by_cases hlen : v.length > tlvMaxText
    · have hput : (TlvValue.text v).put tag w = { w with overflow := true } := if_pos hlen
      rw [hput] at h
      cases h
    · have hput : (TlvValue.text v).put tag w = put tag .text v w := if_neg hlen
      rw [hput] at h ⊢
      obtain ⟨h1, h2, h3, h4, h5⟩ := put_written h
      exact ⟨h1, h2, h3, h4, h5, not_lt.mp hlen⟩
  | bytes v =>
    by_cases hlen : v.length > tlvMaxBytes
    · have hput : (TlvValue.bytes v).put tag w = { w with overflow := true } := if_pos hlen
      rw [hput] at h
      cases h
    · have hput : (TlvValue.bytes v).put tag w = put tag .bytes v w := if_neg hlen
      rw [hput] at h ⊢
      obtain ⟨h1, h2, h3, h4, h5⟩ := put_written h
      exact ⟨h1, h2, h3, h4, h5, not_lt.mp hlen⟩

/-- The entries of a sequence of puts. -/
def entries (puts : List (UInt8 × TlvValue)) : List TlvEntry := puts.map (fun p => p.2.entry p.1)

/-- A sequence of puts that leaves no overflow has written all its entries, in ascending order. -/
lemma putAll_written {puts : List (UInt8 × TlvValue)} (h : (w.putAll puts).overflow = false) :
    w.overflow = false ∧ (w.putAll puts).buf = w.buf ++ (entries puts).flatMap TlvEntry.encode ∧
      (∀ p ∈ puts, w.lastTag < p.1.toNat) ∧ (puts.map Prod.fst).Nodup ∧
      ∀ p ∈ puts, (p.2.entry p.1).value.length ≤ maxPayload ∧ p.2.Bounded := by
  induction puts generalizing w with
  | nil => exact ⟨h, (List.append_nil _).symm, by simp, List.nodup_nil, by simp⟩
  | cons p puts ih =>
    obtain ⟨hover, hbuf, hlast, hdistinct, hall⟩ := ih h
    obtain ⟨hover', hlast', htag, hbuf', hlen, hbounded⟩ := putValue_written hover
    rw [htag] at hlast
    refine ⟨hover', ?_, ?_, ?_, ?_⟩
    · show ((p.2.put p.1 w).putAll puts).buf = _
      rw [hbuf, hbuf', List.append_assoc]
      rfl
    · intro q hq
      obtain rfl | hq := List.mem_cons.mp hq
      · exact hlast'
      · exact lt_trans hlast' (hlast q hq)
    · rw [List.map_cons, List.nodup_cons]
      refine ⟨?_, hdistinct⟩
      intro hmem
      obtain ⟨q, hq, heq⟩ := List.mem_map.mp hmem
      have hlt := hlast q hq
      rw [heq] at hlt
      exact lt_irrefl _ hlt
    · intro q hq
      obtain rfl | hq := List.mem_cons.mp hq
      · exact ⟨hlen, hbounded⟩
      · exact hall q hq

lemma tags_entries (puts : List (UInt8 × TlvValue)) :
    (entries puts).map TlvEntry.tag = puts.map Prod.fst := by
  rw [entries, List.map_map]
  apply List.map_congr_left
  intro p _
  show (p.2.entry p.1).tag = p.1
  cases p.2 with
  | _ => rfl

lemma spell_putAll {puts : List (UInt8 × TlvValue)} (h : (putAll puts {}).overflow = false) :
    Spell (entries puts) (putAll puts {}).buf := by
  obtain ⟨-, hbuf, -, hdistinct, hall⟩ := putAll_written h
  refine ⟨hbuf.symm, ?_, ?_⟩
  · intro e he
    obtain ⟨p, hp, rfl⟩ := List.mem_map.mp he
    exact lt_of_le_of_lt (hall p hp).1 (by decide)
  · rw [tags_entries]
    exact hdistinct

end TlvWriter

/-! ## The getters -/

section Getters

variable {buf : List UInt8} {entries : List TlvEntry} {tag : UInt8}

lemma find_of_spelled (h : Spell entries buf) {e : TlvEntry} (he : e ∈ entries) :
    entries.find? (·.tag == e.tag) = some e := by
  have hnodup := h.distinct
  clear h
  induction entries with
  | nil => exact absurd he List.not_mem_nil
  | cons e' es ih =>
    obtain ⟨hnew, hrest⟩ := List.nodup_cons.mp hnodup
    obtain rfl | he := List.mem_cons.mp he
    · exact List.find?_cons_of_pos (beq_self_eq_true _)
    · have hne : (e'.tag == e.tag) = false := by
        rw [beq_eq_false_iff_ne]
        intro heq
        exact hnew (List.mem_map.mpr ⟨e, he, heq.symm⟩)
      rw [List.find?_cons_of_neg (by rw [hne]; decide)]
      exact ih he hrest

lemma getFixed_of_spelled (h : Spell entries buf) {e : TlvEntry} (he : e ∈ entries) (type : TlvType)
    (wantLen : Nat) (htype : e.type = type.code) (hlen : wantLen = 0 ∨ e.value.length = wantLen) :
    tlvGetFixed buf e.tag type wantLen = .ok (some e.value) := by
  unfold tlvGetFixed
  rw [tlvScan_iff.mpr h]
  dsimp only
  rw [find_of_spelled h he]
  dsimp only
  rw [if_neg]
  rw [htype]
  obtain rfl | rfl := hlen <;> simp

lemma getFixed_absent (h : Spell entries buf) (htag : tag ∉ entries.map TlvEntry.tag) (type : TlvType)
    (wantLen : Nat) : tlvGetFixed buf tag type wantLen = .ok none := by
  have hfind : entries.find? (·.tag == tag) = none := by
    rw [List.find?_eq_none]
    intro e he heq
    exact htag (List.mem_map.mpr ⟨e, he, beq_iff_eq.mp heq⟩)
  unfold tlvGetFixed
  rw [tlvScan_iff.mpr h]
  dsimp only
  rw [hfind]

lemma absent_of_spelled (h : Spell entries buf) (htag : tag ∉ entries.map TlvEntry.tag) :
    TlvAbsent buf tag := by
  have hfixed := getFixed_absent h htag
  constructor
  · rw [tlvGetU8, hfixed]
    rfl
  · rw [tlvGetU16, hfixed]
    rfl
  · rw [tlvGetU32, hfixed]
    rfl
  · rw [tlvGetU64, hfixed]
    rfl
  · rw [tlvGetBool, hfixed]
  · rw [tlvGetText, hfixed]
  · rw [tlvGetBytes, hfixed]

lemma readBack_of_spelled (h : Spell entries buf) {v : TlvValue} (he : v.entry tag ∈ entries)
    (hbounded : v.Bounded) (htext : v.IsText) : v.ReadBack buf tag := by
  cases v with
  | u8 v =>
    have hfixed : tlvGetFixed buf tag .u8 1 = .ok (some [v]) :=
      getFixed_of_spelled h he .u8 1 rfl (Or.inr rfl)
    show tlvGetU8 buf tag = _
    rw [tlvGetU8, hfixed]
    rfl
  | u16 v =>
    have hfixed : tlvGetFixed buf tag .u16 2 = .ok (some (put16 v)) :=
      getFixed_of_spelled h he .u16 2 rfl (Or.inr (length_put16 v))
    show tlvGetU16 buf tag = _
    rw [tlvGetU16, hfixed]
    exact congrArg (fun x => Except.ok (some x)) (by simpa using get16_field [] [] v rfl)
  | u32 v =>
    have hfixed : tlvGetFixed buf tag .u32 4 = .ok (some (put32 v)) :=
      getFixed_of_spelled h he .u32 4 rfl (Or.inr (length_put32 v))
    show tlvGetU32 buf tag = _
    rw [tlvGetU32, hfixed]
    exact congrArg (fun x => Except.ok (some x)) (by simpa using get32_field [] [] v rfl)
  | u64 v =>
    have hfixed : tlvGetFixed buf tag .u64 8 = .ok (some (put64 v)) :=
      getFixed_of_spelled h he .u64 8 rfl (Or.inr (length_put64 v))
    show tlvGetU64 buf tag = _
    rw [tlvGetU64, hfixed]
    exact congrArg (fun x => Except.ok (some x)) (by simpa using get64_field [] [] v rfl)
  | bool v =>
    have hfixed : tlvGetFixed buf tag .bool 1 = .ok (some [if v then 1 else 0]) :=
      getFixed_of_spelled h he .bool 1 rfl (Or.inr rfl)
    show tlvGetBool buf tag = _
    rw [tlvGetBool, hfixed]
    cases v with
    | false => rfl
    | true => rfl
  | text v =>
    have hfixed : tlvGetFixed buf tag .text 0 = .ok (some v) :=
      getFixed_of_spelled h he .text 0 rfl (Or.inl rfl)
    obtain ⟨vs, hvs, henc⟩ := wellFormed_iff.mp htext
    have hvalid : utf8Valid v = true := utf8Valid_iff.mpr ⟨vs, fun x hx => (hvs x hx).1, henc⟩
    show tlvGetText buf tag = _
    rw [tlvGetText, hfixed]
    show (if v.length > tlvMaxText then _ else _) = _
    rw [if_neg (not_lt_of_ge hbounded), if_neg (fun hbad => absurd (hvalid.symm.trans hbad.2) (by decide))]
  | bytes v =>
    have hfixed : tlvGetFixed buf tag .bytes 0 = .ok (some v) :=
      getFixed_of_spelled h he .bytes 0 rfl (Or.inl rfl)
    show tlvGetBytes buf tag = _
    rw [tlvGetBytes, hfixed]
    exact if_neg (not_lt_of_ge hbounded)

end Getters

/-! ## Both round trips -/

/-- What is put is read back, and nothing else; the reader accepts the messages that the grammar spells
and returns their entries; and the lenient reader of the Python client accepts the same messages. -/
theorem tlv_roundTrip :
    (∀ puts : List (UInt8 × TlvValue), (∀ p ∈ puts, p.2.IsText) →
      (TlvWriter.putAll puts {}).overflow = false →
        (∀ p ∈ puts, p.2.ReadBack (TlvWriter.putAll puts {}).buf p.1) ∧
        ∀ tag, tag ∉ puts.map Prod.fst → TlvAbsent (TlvWriter.putAll puts {}).buf tag) ∧
    ∀ buf : List UInt8,
      ((∃ es, (TlvReader.init buf).walk buf.length = .ok es) ↔ ∃ es, Spell es buf) ∧
      (∀ es, (TlvReader.init buf).walk buf.length = .ok es → es.flatMap TlvEntry.encode = buf) ∧
      ((∃ out, pyParseTlv buf false = .ok out) ↔ ∃ es, (TlvReader.init buf).walk buf.length = .ok es) := by
  constructor
  · intro puts htexts hover
    have hspell := TlvWriter.spell_putAll hover
    obtain ⟨-, -, -, -, hall⟩ := TlvWriter.putAll_written hover
    constructor
    · intro p hp
      exact readBack_of_spelled hspell (List.mem_map.mpr ⟨p, hp, rfl⟩) (hall p hp).2 (htexts p hp)
    · intro tag htag
      apply absent_of_spelled hspell
      rwa [TlvWriter.tags_entries]
  · intro buf
    rw [TlvReader.walk_init]
    refine ⟨?_, ?_, pyParseLoop_lenient⟩
    · simp only [tlvScan_iff]
    · intro es h
      exact (tlvScan_iff.mp h).bytes

theorem tlv_roundTrip_named :
    ∀ p ∈ [((1 : UInt8), TlvValue.u8 5), (4, .text [0x52, 0x43]), (9, .bool true)],
      p.2.ReadBack (TlvWriter.putAll [(1, .u8 5), (4, .text [0x52, 0x43]), (9, .bool true)] {}).buf p.1 := by
  have htexts : ∀ p ∈ [((1 : UInt8), TlvValue.u8 5), (4, .text [0x52, 0x43]), (9, .bool true)], p.2.IsText := by
    intro p hp
    simp only [List.mem_cons, List.not_mem_nil, or_false] at hp
    obtain rfl | rfl | rfl := hp
    · trivial
    · exact ⟨⟨['R', 'C'], by decide⟩, by decide⟩
    · trivial
  exact (tlv_roundTrip.1 _ htexts (by decide)).1

/-! ## Texts -/

/-- `rbp_tlv_get_text` returns the bytes as the text of a message. -/
def CText (tag : UInt8) (v : List UInt8) : Prop := tlvGetText (tlvField tag .text v) tag = .ok (some v)

/-- `parse_tlv` returns the string of the bytes. -/
def PyText (tag : UInt8) (v : List UInt8) : Prop :=
  ∃ s, pyParseTlv (tlvField tag .text v) true = .ok [(tag, .str s)] ∧ decode? v = some s

/-- `Tlv.Parse` returns the bytes. -/
def NetText (tag : UInt8) (v : List UInt8) : Prop :=
  netParse (tlvField tag .text v) = .ok [{ tag, type := 6, value := v }]

/-- At most 96 bytes of well-formed UTF-8 without NUL. -/
def RfcText (v : List UInt8) : Prop := v.length ≤ 96 ∧ WellFormed v ∧ 0 ∉ v

/-- The three clients' texts are those of RFC 3629, and the names that `candidate_name` copies are among
them. -/
structure TextsAgree (tag : UInt8) (v advertised : List UInt8) : Prop where
  rfc : CText tag v ↔ RfcText v
  python : CText tag v ↔ PyText tag v
  dotnet : CText tag v ↔ NetText tag v
  name : candidateBytes advertised ≠ [] → CText tag (candidateBytes advertised)

/-- At most 96 bytes that encode code points without NUL, a surrogate among them. -/
def HoldsSurrogate (v : List UInt8) : Prop :=
  v.length ≤ 96 ∧ ∃ vs, (∀ x ∈ vs, IsPoint x) ∧ encodePoints vs = v ∧ ∃ x ∈ vs, IsSurrogate x

section Texts

variable {tag : UInt8} {v : List UInt8}

lemma tlvField_text (tag : UInt8) (v : List UInt8) :
    ∃ l0 l1 : UInt8, tlvField tag .text v = tag :: 6 :: l0 :: l1 :: v ∧
      (v.length < 65536 → l0.toNat + 256 * l1.toNat = v.length) := by
  refine ⟨UInt8.ofNat (UInt16.ofNat v.length).toNat, UInt8.ofNat ((UInt16.ofNat v.length).toNat / 256), rfl,
    ?_⟩
  intro hlen
  obtain ⟨l0, l1, henc, hl⟩ := TlvEntry.encode_eq (e := { tag, type := 6, value := v }) hlen
  have hbytes : tlvField tag .text v = tag :: 6 :: l0 :: l1 :: v := henc
  unfold tlvField put16 at hbytes
  simp only [leBytes, List.cons_append, List.nil_append, List.cons.injEq] at hbytes
  rw [hbytes.2.2.1, hbytes.2.2.2.1]
  exact hl

lemma spell_text (hlen : v.length < 65536) :
    Spell [{ tag, type := 6, value := v }] (tlvField tag .text v) where
  bytes := List.append_nil _
  complete := by
    intro e he
    rw [List.mem_singleton.mp he]
    exact hlen
  distinct := List.nodup_singleton tag

lemma tlvGetText_some {payload : List UInt8} (h : tlvGetText payload tag = .ok (some v)) :
    v.length ≤ 96 ∧ utf8Valid v = true := by
  unfold tlvGetText at h
  split at h
  · cases h
  · cases h
  · next v' _ =>
    split_ifs at h with hlong hbad
    obtain rfl := Option.some.inj (Except.ok.inj h)
    refine ⟨not_lt.mp hlong, ?_⟩
    by_cases hpos : v'.length > 0
    · exact Bool.eq_true_of_not_eq_false fun hvalid => hbad ⟨hpos, hvalid⟩
    · rw [List.length_eq_zero_iff.mp (Nat.le_zero.mp (not_lt.mp hpos))]
      rfl

lemma cText_iff : CText tag v ↔ v.length ≤ 96 ∧ utf8Valid v = true := by
  constructor
  · exact tlvGetText_some
  · rintro ⟨hlen, hvalid⟩
    have hfixed : tlvGetFixed (tlvField tag .text v) tag .text 0 = .ok (some v) :=
      getFixed_of_spelled (spell_text (lt_of_le_of_lt hlen (by decide))) (List.mem_singleton_self _) .text 0
        rfl (Or.inl rfl)
    unfold CText tlvGetText
    rw [hfixed]
    have hshort : ¬ v.length > tlvMaxText := not_lt_of_ge hlen
    dsimp only
    rw [if_neg hshort, if_neg]
    rintro ⟨-, hbad⟩
    exact absurd (hvalid.symm.trans hbad) (by decide)

lemma pyScalar_text (v : List UInt8) :
    pyScalar 6 v = if v.length ≤ 96 ∧ pyValidateUtf8 v = true then (decode? v).map .str else none := by
  unfold pyScalar
  simp

lemma pyValidateUtf8_iff : pyValidateUtf8 v = true ↔ WellFormed v ∧ 0 ∉ v := by
  rw [← decode?_without_nul, pyValidateUtf8]
  cases decode? v with
  | none => simp
  | some s => simp

lemma pyText_iff : PyText tag v ↔ RfcText v := by
  obtain ⟨l0, l1, hfield, hl⟩ := tlvField_text tag v
  unfold PyText RfcText pyParseTlv
  rw [hfield, List.length_cons]
  constructor
  · rintro ⟨s, hparse, hs⟩
    obtain ⟨-, -, value, tail, hvalue, -, hout⟩ := pyParseLoop_cons_iff.mp hparse
    obtain ⟨hpair, -⟩ := List.cons.inj hout
    rw [← (Prod.mk.inj hpair).2] at hvalue
    rw [pyScalar_text] at hvalue
    by_cases hok : (v.take (l0.toNat + 256 * l1.toNat)).length ≤ 96 ∧
        pyValidateUtf8 (v.take (l0.toNat + 256 * l1.toNat)) = true
    · rw [if_pos hok] at hvalue
      cases hdecode : decode? (v.take (l0.toNat + 256 * l1.toNat)) with
      | none =>
        rw [hdecode] at hvalue
        cases hvalue
      | some s' =>
        rw [hdecode] at hvalue
        cases hvalue
        have hsame := (decode?_eq_some_iff.mp hdecode).symm.trans (decode?_eq_some_iff.mp hs)
        rw [hsame] at hok
        exact ⟨hok.1, pyValidateUtf8_iff.mp hok.2⟩
    · rw [if_neg hok] at hvalue
      cases hvalue
  · rintro ⟨hlen, htext⟩
    obtain ⟨s, hs, -⟩ := decode?_without_nul.mpr htext
    have hlv := hl (lt_of_le_of_lt hlen (by decide))
    refine ⟨s, pyParseLoop_cons_iff.mpr ?_, hs⟩
    rw [hlv, List.take_length, List.drop_length, pyScalar_text, if_pos ⟨hlen, pyValidateUtf8_iff.mpr htext⟩, hs]
    exact ⟨le_rfl, List.not_mem_nil, .str s, [], rfl, rfl, rfl⟩

lemma netValid_text : netValid 6 v = true ↔ v.length ≤ 96 ∧ 0 ∉ v := by
  unfold netValid
  simp

lemma netText_iff : NetText tag v ↔ RfcText v := by
  obtain ⟨l0, l1, hfield, hl⟩ := tlvField_text tag v
  unfold NetText RfcText netParse
  rw [hfield, List.length_cons]
  constructor
  · intro hparse
    obtain ⟨-, -, hvalid, hdecode, tail, -, hout⟩ := netParseLoop_cons_iff.mp hparse
    obtain ⟨hentry, -⟩ := List.cons.inj hout
    have hsame : v = v.take (l0.toNat + 256 * l1.toNat) := congrArg TlvEntry.value hentry
    rw [← hsame] at hvalid hdecode
    obtain ⟨hlen, hzero⟩ := netValid_text.mp hvalid
    obtain ⟨s, hs⟩ := Option.ne_none_iff_exists'.mp fun hnone => hdecode ⟨rfl, hnone⟩
    exact ⟨hlen, ⟨s.toList, decode?_eq_some_iff.mp hs⟩, hzero⟩
  · rintro ⟨hlen, htext⟩
    obtain ⟨s, hs, -⟩ := decode?_without_nul.mpr htext
    have hlv := hl (lt_of_le_of_lt hlen (by decide))
    refine netParseLoop_cons_iff.mpr ?_
    rw [hlv, List.take_length, List.drop_length]
    refine ⟨le_rfl, List.not_mem_nil, netValid_text.mpr ⟨hlen, htext.2⟩, ?_, [], rfl, rfl⟩
    rintro ⟨-, hnone⟩
    rw [hs] at hnone
    cases hnone

lemma RfcText.cText (h : RfcText v) : CText tag v := by
  obtain ⟨vs, hvs, henc⟩ := wellFormed_iff.mp h.2
  exact cText_iff.mpr ⟨h.1, utf8Valid_iff.mpr ⟨vs, fun x hx => (hvs x hx).1, henc⟩⟩

lemma HoldsSurrogate.cText (h : HoldsSurrogate v) : CText tag v := by
  obtain ⟨hlen, vs, hvs, henc, -⟩ := h
  exact cText_iff.mpr ⟨hlen, utf8Valid_iff.mpr ⟨vs, hvs, henc⟩⟩

lemma HoldsSurrogate.not_rfcText (h : HoldsSurrogate v) : ¬ RfcText v := by
  obtain ⟨-, vs, hvs, henc, x, hx, hsur⟩ := h
  rintro ⟨-, htext⟩
  obtain ⟨ws, hws, henc'⟩ := wellFormed_iff.mp htext
  have hsame : vs = ws :=
    encodePoints_inj (fun v hv => (hvs v hv).2) (fun w hw => (hws w hw).1.2) (henc.trans henc'.symm)
  rw [hsame] at hx
  exact (hws x hx).2 hsur

lemma rfcText_of_cText (h : CText tag v) (hsur : ¬ HoldsSurrogate v) : RfcText v := by
  obtain ⟨hlen, hvalid⟩ := cText_iff.mp h
  obtain ⟨vs, hvs, henc⟩ := utf8Valid_iff.mp hvalid
  refine ⟨hlen, wellFormed_iff.mpr ⟨vs, ?_, henc⟩⟩
  intro x hx
  exact ⟨hvs x hx, fun hx' => hsur ⟨hlen, vs, hvs, henc, x, hx, hx'⟩⟩

lemma cText_candidateBytes (advertised : List UInt8) : CText tag (candidateBytes advertised) := by
  have hnone : ∀ w ∈ ([] : List Nat), IsNamePoint w := fun _ h => absurd h List.not_mem_nil
  obtain ⟨vs, hvs, henc, hlen⟩ := candidateBytesLoop_spec (s := advertised) advertised.length 0 hnone rfl le_rfl
    (by decide)
  refine cText_iff.mpr ⟨?_, utf8Valid_iff.mpr ⟨vs, ?_, henc.symm⟩⟩
  · exact le_trans (Nat.le_of_lt hlen) (by decide)
  · intro x hx
    obtain ⟨hlow, hhigh, -⟩ := hvs x hx
    exact ⟨by omega, hhigh⟩

end Texts

/-- The implementations agree on a text exactly if it is not the encoding of code points with a surrogate
among them. -/
theorem textsAgree_iff (tag : UInt8) (v advertised : List UInt8) :
    TextsAgree tag v advertised ↔ ¬ HoldsSurrogate v := by
  constructor
  · intro h hsur
    exact hsur.not_rfcText (h.rfc.mp hsur.cText)
  · intro hsur
    have hrfc : CText tag v ↔ RfcText v := ⟨fun h => rfcText_of_cText h hsur, RfcText.cText⟩
    exact ⟨hrfc, hrfc.trans pyText_iff.symm, hrfc.trans netText_iff.symm,
      fun _ => cText_candidateBytes advertised⟩

/-- `ED A0 80` is the byte form of U+D800. -/
theorem not_textsAgree_surrogate : ¬ TextsAgree 1 [0xED, 0xA0, 0x80] [] := by
  have hsur : HoldsSurrogate [0xED, 0xA0, 0x80] := by
    refine ⟨by decide, [0xd800], ?_, by decide, 0xd800, by decide, by decide⟩
    intro x hx
    rw [List.mem_singleton.mp hx]
    exact ⟨by decide, by decide⟩
  intro h
  exact hsur.not_rfcText (h.rfc.mp hsur.cText)

end RemoteBridge
