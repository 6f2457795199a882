import Mathlib

/-!
# UTF-8 as a code of numbers

The byte form of a code point, on numbers, so that it also covers the surrogates, which have a byte form
but are no characters.  A text is well formed when it is the encoding of a list of `Char`, that is of
Unicode scalar values; this is RFC 3629, whose excluded forms are exactly the ones no `Char` has.

A hand-written validator reads one code point at a time and then goes on with the rest.  `Reads` says
what it reads, and `Reads.step` is the induction step from one code point to a text.
-/

namespace RemoteBridge

namespace Utf8

/-- The bytes of a code point.  Below `0x110000` this is injective, surrogates included. -/
def encodePoint (v : Nat) : List UInt8 :=
  if v ≤ 0x7f then [UInt8.ofNat v]
  else if v ≤ 0x7ff then [UInt8.ofNat (v / 64 + 0xc0), UInt8.ofNat (v % 64 + 0x80)]
  else if v ≤ 0xffff then
    [UInt8.ofNat (v / 4096 + 0xe0), UInt8.ofNat (v / 64 % 64 + 0x80), UInt8.ofNat (v % 64 + 0x80)]
  else
    [UInt8.ofNat (v / 262144 + 0xf0), UInt8.ofNat (v / 4096 % 64 + 0x80),
      UInt8.ofNat (v / 64 % 64 + 0x80), UInt8.ofNat (v % 64 + 0x80)]

def encodePoints (vs : List Nat) : List UInt8 := vs.flatMap encodePoint

/-- Code points that have no character. -/
def IsSurrogate (v : Nat) : Prop := 0xd800 ≤ v ∧ v ≤ 0xdfff

instance (v : Nat) : Decidable (IsSurrogate v) := inferInstanceAs (Decidable (_ ∧ _))

/-- A code point that a text without NUL may hold, surrogates included. -/
def IsPoint (v : Nat) : Prop := v ≠ 0 ∧ v ≤ 0x10ffff

/-- RFC 3629. -/
def WellFormed (bytes : List UInt8) : Prop := ∃ cs : List Char, cs.flatMap String.utf8EncodeChar = bytes

/-! ## Code points -/

lemma toNat_le (c : Char) : c.toNat ≤ 0x10ffff := by
  have hvalid := c.valid
  simp only [UInt32.isValidChar, Nat.isValidChar] at hvalid
  show c.val.toNat ≤ 0x10ffff
  omega

lemma utf8EncodeChar_eq (c : Char) : String.utf8EncodeChar c = encodePoint c.toNat := by
  have hc : c.val.toNat ≤ 0x10ffff := toNat_le c
  have h2 : c.val.toNat ≤ 0x7ff → c.val.toNat / 64 % 32 = c.val.toNat / 64 := by omega
  have h3 : c.val.toNat ≤ 0xffff → c.val.toNat / 4096 % 16 = c.val.toNat / 4096 := by omega
  have h4 : c.val.toNat / 262144 % 8 = c.val.toNat / 262144 := by omega
  unfold String.utf8EncodeChar encodePoint Char.toNat
  dsimp only
  split
  · rfl
  · split
    · next h => rw [h2 h]
    · split
      · next h => rw [h3 h]
      · rw [h4]

lemma encodePoint_ne_nil (v : Nat) : encodePoint v ≠ [] := by
  unfold encodePoint
  split_ifs <;> simp

lemma length_encodePoint_pos (v : Nat) : 0 < (encodePoint v).length :=
  List.length_pos_iff.mpr (encodePoint_ne_nil v)

lemma toNat_byte {n : Nat} (hn : n < 256) : (UInt8.ofNat n).toNat = n := UInt8.toNat_ofNat_of_lt' hn

lemma ofNat_eq_iff {n : Nat} {b : UInt8} (hn : n < 256) : UInt8.ofNat n = b ↔ n = b.toNat := by
  rw [← UInt8.toNat_inj, toNat_byte hn]

/-- Only NUL has a zero byte. -/
lemma zero_mem_encodePoint {v : Nat} (hv : v ≤ 0x10ffff) : 0 ∈ encodePoint v ↔ v = 0 := by
  have hzero : ∀ n, n < 256 → (0 = UInt8.ofNat n ↔ n = 0) := by
    intro n hn
    rw [eq_comm, ofNat_eq_iff hn]
    rfl
  unfold encodePoint
  split_ifs <;> simp only [List.mem_cons, List.not_mem_nil, or_false]
  · rw [hzero _ (by omega)]
  · rw [hzero _ (by omega), hzero _ (by omega)]
    omega
  · rw [hzero _ (by omega), hzero _ (by omega), hzero _ (by omega)]
    omega
  · rw [hzero _ (by omega), hzero _ (by omega), hzero _ (by omega), hzero _ (by omega)]
    omega

/-- No code point's bytes begin another's. -/
lemma encodePoint_append_inj {v w : Nat} {s t : List UInt8} (hv : v ≤ 0x10ffff) (hw : w ≤ 0x10ffff)
    (h : encodePoint v ++ s = encodePoint w ++ t) : v = w ∧ s = t := by
  have hbyte : ∀ {m n : Nat}, m < 256 → n < 256 → UInt8.ofNat m = UInt8.ofNat n → m = n := by
    intro m n hm hn hmn
    rwa [ofNat_eq_iff hm, toNat_byte hn] at hmn
  unfold encodePoint at h
  split_ifs at h <;> simp only [List.cons_append, List.nil_append, List.cons.injEq] at h
  all_goals
    have hlead := hbyte (by omega) (by omega) h.1
  · exact ⟨by omega, h.2⟩
  all_goals try omega
  · have h1 := hbyte (by omega) (by omega) h.2.1
    exact ⟨by omega, h.2.2⟩
  · have h1 := hbyte (by omega) (by omega) h.2.1
    have h2 := hbyte (by omega) (by omega) h.2.2.1
    exact ⟨by omega, h.2.2.2⟩
  · have h1 := hbyte (by omega) (by omega) h.2.1
    have h2 := hbyte (by omega) (by omega) h.2.2.1
    have h3 := hbyte (by omega) (by omega) h.2.2.2.1
    exact ⟨by omega, h.2.2.2.2⟩

lemma encodePoints_inj {vs ws : List Nat} (hvs : ∀ v ∈ vs, v ≤ 0x10ffff) (hws : ∀ w ∈ ws, w ≤ 0x10ffff)
    (h : encodePoints vs = encodePoints ws) : vs = ws := by
  induction vs generalizing ws with
  | nil =>
    cases ws with
    | nil => rfl
    | cons w ws =>
      simp only [encodePoints, List.flatMap_nil, List.flatMap_cons] at h
      exact absurd (List.append_eq_nil_iff.mp h.symm).1 (encodePoint_ne_nil w)
  | cons v vs ih =>
    cases ws with
    | nil =>
      simp only [encodePoints, List.flatMap_nil, List.flatMap_cons] at h
      exact absurd (List.append_eq_nil_iff.mp h).1 (encodePoint_ne_nil v)
    | cons w ws =>
      simp only [encodePoints, List.flatMap_cons] at h
      obtain ⟨rfl, hrest⟩ := encodePoint_append_inj (hvs v List.mem_cons_self) (hws w List.mem_cons_self) h
      rw [ih (fun x hx => hvs x (List.mem_cons_of_mem _ hx))
        (fun x hx => hws x (List.mem_cons_of_mem _ hx)) hrest]

/-- Well-formed texts without NUL are the encodings of code points other than surrogates. -/
lemma wellFormed_iff {bytes : List UInt8} :
    WellFormed bytes ∧ 0 ∉ bytes ↔
      ∃ vs : List Nat, (∀ v ∈ vs, IsPoint v ∧ ¬ IsSurrogate v) ∧ encodePoints vs = bytes := by
  constructor
  · rintro ⟨⟨cs, rfl⟩, hzero⟩
    refine ⟨cs.map Char.toNat, ?_, ?_⟩
    · intro v hv
      obtain ⟨c, hc, rfl⟩ := List.mem_map.mp hv
      have hvalid := c.valid
      simp only [UInt32.isValidChar, Nat.isValidChar] at hvalid
      refine ⟨⟨?_, ?_⟩, ?_⟩
      · intro hnul
        apply hzero
        rw [List.mem_flatMap]
        refine ⟨c, hc, ?_⟩
        rw [utf8EncodeChar_eq, hnul]
        decide
      · show c.val.toNat ≤ 0x10ffff
        omega
      · rintro ⟨hlo, hhi⟩
        have hlo' : 0xd800 ≤ c.val.toNat := hlo
        have hhi' : c.val.toNat ≤ 0xdfff := hhi
        omega
    · rw [encodePoints, List.flatMap_map]
      apply List.flatMap_congr
      intro c _
      exact (utf8EncodeChar_eq c).symm
  · rintro ⟨vs, hvs, rfl⟩
    constructor
    · refine ⟨vs.map Char.ofNat, ?_⟩
      rw [encodePoints, List.flatMap_map]
      apply List.flatMap_congr
      intro v hv
      obtain ⟨⟨_, hle⟩, hsur⟩ := hvs v hv
      have hvalid : v.isValidChar := by
        simp only [IsSurrogate] at hsur
        simp only [Nat.isValidChar]
        omega
      rw [utf8EncodeChar_eq, Char.toNat_ofNat, if_pos hvalid]
    · intro hzero
      obtain ⟨v, hv, hmem⟩ := List.mem_flatMap.mp hzero
      obtain ⟨⟨hne, hle⟩, -⟩ := hvs v hv
      exact hne ((zero_mem_encodePoint hle).mp hmem)

/-! ## Strict decoding -/

/-- The decoder of a language whose strings are sequences of characters. -/
def decode? (bytes : List UInt8) : Option String := String.fromUTF8? bytes.toByteArray

lemma data_utf8Encode (cs : List Char) :
    cs.utf8Encode = (cs.flatMap String.utf8EncodeChar).toByteArray := rfl

lemma decode?_eq_some_iff {bytes : List UInt8} {s : String} :
    decode? bytes = some s ↔ s.toList.flatMap String.utf8EncodeChar = bytes := by
  have hinj : ∀ a b : List UInt8, a.toByteArray = b.toByteArray ↔ a = b := by
    intro a b
    constructor
    · intro h
      simpa using congrArg (fun x => x.data.toList) h
    · rintro rfl
      rfl
  unfold decode? String.fromUTF8?
  constructor
  · intro h
    split_ifs at h with hvalid
    rw [← Option.some.inj h, ← hinj, ← data_utf8Encode, String.utf8Encode_toList]
    rfl
  · rintro rfl
    rw [← data_utf8Encode, dif_pos ByteArray.isValidUTF8_utf8Encode, Option.some.injEq,
      ← String.toByteArray_inj, ← String.utf8Encode_toList (b := s)]
    rfl

lemma zero_mem_encode_iff {cs : List Char} : 0 ∈ cs.flatMap String.utf8EncodeChar ↔ '\x00' ∈ cs := by
  rw [List.mem_flatMap]
  constructor
  · rintro ⟨c, hc, hmem⟩
    rw [utf8EncodeChar_eq, zero_mem_encodePoint (toNat_le c)] at hmem
    rwa [show '\x00' = c from Char.toNat_inj.mp hmem.symm]
  · intro hnul
    exact ⟨'\x00', hnul, by decide⟩

/-- Decodable without NUL, for characters as for bytes. -/
lemma decode?_without_nul {bytes : List UInt8} :
    (∃ s, decode? bytes = some s ∧ '\x00' ∉ s.toList) ↔ WellFormed bytes ∧ 0 ∉ bytes := by
  constructor
  · rintro ⟨s, hs, hnul⟩
    rw [decode?_eq_some_iff] at hs
    refine ⟨⟨s.toList, hs⟩, ?_⟩
    rwa [← hs, zero_mem_encode_iff]
  · rintro ⟨⟨cs, rfl⟩, hzero⟩
    rw [zero_mem_encode_iff] at hzero
    refine ⟨String.ofList cs, decode?_eq_some_iff.mpr ?_, ?_⟩
    · rw [String.toList_ofList]
    · rwa [String.toList_ofList]

/-! ## Validators -/

/-- `next`, given a byte and what follows, reads exactly the code points with `ok`. -/
structure Reads (next : UInt8 → List UInt8 → Option (Nat × List UInt8)) (ok : Nat → Prop) : Prop where
  sound : ∀ {c s v t}, next c s = some (v, t) → ok v ∧ encodePoint v ++ t = c :: s
  complete : ∀ {c s v t}, ok v → encodePoint v ++ t = c :: s → next c s = some (v, t)

variable {next : UInt8 → List UInt8 → Option (Nat × List UInt8)} {ok : Nat → Prop}

/-- The first code point of a text that encodes some, and the text that is left. -/
lemma Reads.step (h : Reads next ok) {c : UInt8} {s : List UInt8} :
    (∃ vs, (∀ v ∈ vs, ok v) ∧ encodePoints vs = c :: s) ↔
      ∃ v t, next c s = some (v, t) ∧ ∃ vs, (∀ v ∈ vs, ok v) ∧ encodePoints vs = t := by
  constructor
  · rintro ⟨vs, hvs, henc⟩
    cases vs with
    | nil => exact absurd henc (List.cons_ne_nil c s).symm
    | cons v vs =>
      refine ⟨v, encodePoints vs, h.complete (hvs v List.mem_cons_self) henc, vs, ?_, rfl⟩
      intro x hx
      exact hvs x (List.mem_cons_of_mem _ hx)
  · rintro ⟨v, t, hnext, vs, hvs, rfl⟩
    obtain ⟨hv, henc⟩ := h.sound hnext
    refine ⟨v :: vs, ?_, henc⟩
    intro x hx
    cases hx with
    | head => exact hv
    | tail _ hx => exact hvs x hx

lemma Reads.shorter (h : Reads next ok) {c : UInt8} {s t : List UInt8} {v : Nat}
    (hnext : next c s = some (v, t)) : t.length ≤ s.length := by
  have henc := congrArg List.length (h.sound hnext).2
  have hpos := length_encodePoint_pos v
  rw [List.length_append, List.length_cons] at henc
  omega

end Utf8

end RemoteBridge
