import RemoteBridge.Framework.Utf8

/-!
# Text validation

The two validators of the firmware: `utf8_valid` of `rbp_tlv.c`, which every text field passes, and
`candidate_name` of `wch_central.c`, which reads the name in an advertisement.  They share the loop over
the continuation bytes and differ in the lead bytes, in the range checks behind it, and in what they do
with the characters below a space.

`utf8_valid` excludes the surrogates in the branch of the four-byte forms, where none can be; the
three-byte branch, where they are, checks for overlong forms only.
-/

namespace RemoteBridge

open Utf8

/-- The continuation bytes of a sequence: the code point so far, and what follows it. -/
def utf8Tail : Nat → Nat → List UInt8 → Option (Nat × List UInt8)
  | 0, cp, s => some (cp, s)
  | n + 1, cp, b :: s =>
    if b &&& 0xC0 ≠ 0x80 then none else utf8Tail n (cp <<< 6 ||| (b &&& 0x3F).toNat) s
  | _ + 1, _, [] => none

/-! ## `utf8_valid` -/

/-- The lead byte: its bits of the code point, and the number of bytes that follow. -/
def utf8Lead (c : UInt8) : Option (Nat × Nat) :=
  if c &&& 0xE0 = 0xC0 ∧ c ≥ 0xC2 then some ((c &&& 0x1F).toNat, 1)
  else if c &&& 0xF0 = 0xE0 then some ((c &&& 0x0F).toNat, 2)
  else if c &&& 0xF8 = 0xF0 ∧ c ≤ 0xF4 then some ((c &&& 0x07).toNat, 3)
  else none

/-- One turn of the loop. -/
def utf8Next (c : UInt8) (s : List UInt8) : Option (Nat × List UInt8) :=
  if c = 0 then none
  else if c < 0x80 then some (c.toNat, s)
  else
    match utf8Lead c with
    | none => none
    | some (lead, n) =>
      match utf8Tail n lead s with
      | none => none
      | some (cp, rest) =>
        if n = 2 ∧ cp < 0x800 then none
        else if n = 3 ∧ (cp < 0x10000 ∨ cp ≥ 0xD800 ∧ cp ≤ 0xDFFF) then none
        else if n = 3 ∧ cp > 0x10FFFF then none
        else some (cp, rest)

/-- Every turn takes a byte at least, so `fuel` is the length. -/
def utf8ValidLoop : Nat → List UInt8 → Bool
  | _, [] => true
  | 0, _ => false
  | fuel + 1, c :: s =>
    match utf8Next c s with
    | none => false
    | some (_, rest) => utf8ValidLoop fuel rest

def utf8Valid (s : List UInt8) : Bool := utf8ValidLoop s.length s

/-! ## `candidate_name` -/

/-- The size of the name in `rbp_candidate_t`, with its NUL. -/
def candidateNameSize : Nat := 48

def nameLead (c : UInt8) : Option (Nat × Nat) :=
  if c ≥ 0xc2 ∧ c ≤ 0xdf then some ((c &&& 31).toNat, 2)
  else if c ≥ 0xe0 ∧ c ≤ 0xef then some ((c &&& 15).toNat, 3)
  else if c ≥ 0xf0 ∧ c ≤ 0xf4 then some ((c &&& 7).toNat, 4)
  else if c ≥ 0x80 ∨ c < 0x20 then none
  else some (c.toNat, 1)

def nameNext (c : UInt8) (s : List UInt8) : Option (Nat × List UInt8) :=
  match nameLead c with
  | none => none
  | some (lead, k) =>
    match utf8Tail (k - 1) lead s with
    | none => none
    | some (cp, rest) =>
      if k = 3 ∧ cp < 0x800 ∨ k = 4 ∧ cp < 0x10000 ∨ cp > 0x10ffff ∨ cp ≥ 0xd800 ∧ cp ≤ 0xdfff then none
      else some (cp, rest)

/-- `i` bytes are behind, and `out` is the name so far; a character that would not leave room for the
NUL is not copied. -/
def candidateBytesLoop : Nat → Nat → List UInt8 → List UInt8 → List UInt8
  | _, _, out, [] => out
  | 0, _, _, _ => []
  | fuel + 1, i, out, c :: s =>
    match nameNext c s with
    | none => []
    | some (_, rest) =>
      let k := (c :: s).length - rest.length
      candidateBytesLoop fuel (i + k)
        (if i + k < candidateNameSize then out ++ (c :: s).take k else out) rest

/-- The bytes of the name that `candidate_name` takes from an advertisement; none for the result 0. -/
def candidateBytes (p : List UInt8) : List UInt8 := candidateBytesLoop p.length 0 [] p

/-! ## What they read -/

section Bits

variable (c : UInt8)

lemma continues_iff : c &&& 0xC0 = 0x80 ↔ 0x80 ≤ c.toNat ∧ c.toNat < 0xC0 := by
  revert c
  decide +kernel

lemma lead_two_iff : (c &&& 0xE0 = 0xC0 ∧ c ≥ 0xC2) ↔ 0xC2 ≤ c.toNat ∧ c.toNat < 0xE0 := by
  revert c
  decide +kernel

lemma lead_three_iff : c &&& 0xF0 = 0xE0 ↔ 0xE0 ≤ c.toNat ∧ c.toNat < 0xF0 := by
  revert c
  decide +kernel

lemma lead_four_iff : (c &&& 0xF8 = 0xF0 ∧ c ≤ 0xF4) ↔ 0xF0 ≤ c.toNat ∧ c.toNat ≤ 0xF4 := by
  revert c
  decide +kernel

lemma toNat_and_31 : (c &&& 31).toNat = c.toNat % 32 := by
  rw [UInt8.toNat_and]
  exact Nat.and_two_pow_sub_one_eq_mod c.toNat 5

lemma toNat_and_15 : (c &&& 15).toNat = c.toNat % 16 := by
  rw [UInt8.toNat_and]
  exact Nat.and_two_pow_sub_one_eq_mod c.toNat 4

lemma toNat_and_7 : (c &&& 7).toNat = c.toNat % 8 := by
  rw [UInt8.toNat_and]
  exact Nat.and_two_pow_sub_one_eq_mod c.toNat 3

lemma append_bits (cp : Nat) : cp <<< 6 ||| (c &&& 0x3F).toNat = cp * 64 + c.toNat % 64 := by
  have hbits : (c &&& 0x3F).toNat = c.toNat % 64 := by
    rw [UInt8.toNat_and]
    exact Nat.and_two_pow_sub_one_eq_mod c.toNat 6
  have hlt : c.toNat % 64 < 2 ^ 6 := Nat.mod_lt _ (by decide)
  rw [hbits, ← Nat.shiftLeft_add_eq_or_of_lt hlt, Nat.shiftLeft_eq]

end Bits

variable {c : UInt8} {s t : List UInt8} {v : Nat}

lemma utf8Tail_succ {n cp : Nat} {r : Nat × List UInt8} :
    utf8Tail (n + 1) cp s = some r ↔
      ∃ b t, s = b :: t ∧ 0x80 ≤ b.toNat ∧ b.toNat < 0xC0 ∧
        utf8Tail n (cp * 64 + b.toNat % 64) t = some r := by
  cases s with
  | nil =>
    constructor
    · intro h
      exact absurd h.symm (Option.some_ne_none r)
    · rintro ⟨b, t, hs, -⟩
      exact absurd hs (List.cons_ne_nil b t).symm
  | cons b s =>
    rw [utf8Tail, append_bits]
    constructor
    · intro h
      by_cases hb : b &&& 0xC0 = 0x80
      · rw [if_neg (not_not_intro hb)] at h
        obtain ⟨hlo, hhi⟩ := (continues_iff b).mp hb
        exact ⟨b, s, rfl, hlo, hhi, h⟩
      · rw [if_pos hb] at h
        exact absurd h.symm (Option.some_ne_none r)
    · rintro ⟨b', t, hs, hlo, hhi, h⟩
      obtain ⟨rfl, rfl⟩ := List.cons.inj hs
      rw [if_neg (not_not_intro ((continues_iff b).mpr ⟨hlo, hhi⟩))]
      exact h

/-- The lead byte of a code point. -/
lemma lead_cases (hv : v ≤ 0x10ffff) (h : encodePoint v ++ t = c :: s) :
    (v ≤ 0x7f ∧ c.toNat = v ∧ t = s) ∨ (0x80 ≤ v ∧ v ≤ 0x7ff ∧ 0xC2 ≤ c.toNat ∧ c.toNat < 0xE0) ∨
      (0x800 ≤ v ∧ v ≤ 0xffff ∧ 0xE0 ≤ c.toNat ∧ c.toNat < 0xF0) ∨
      (0x10000 ≤ v ∧ 0xF0 ≤ c.toNat ∧ c.toNat ≤ 0xF4) := by
  unfold encodePoint at h
  split_ifs at h with h1 h2 h3 <;> simp only [List.cons_append, List.nil_append, List.cons.injEq] at h
  · have hc := (ofNat_eq_iff (by omega)).mp h.1
    exact Or.inl ⟨h1, hc.symm, h.2⟩
  · have hc := (ofNat_eq_iff (by omega)).mp h.1
    omega
  · have hc := (ofNat_eq_iff (by omega)).mp h.1
    omega
  · have hc := (ofNat_eq_iff (by omega)).mp h.1
    omega

lemma two_bytes (hc : 0xC2 ≤ c.toNat) (hc' : c.toNat < 0xE0) :
    utf8Tail 1 (c.toNat % 32) s = some (v, t) ↔ 0x80 ≤ v ∧ v ≤ 0x7ff ∧ encodePoint v ++ t = c :: s := by
  constructor
  · intro h
    obtain ⟨b, t', rfl, hlo, hhi, h⟩ := utf8Tail_succ.mp h
    obtain ⟨rfl, rfl⟩ := Prod.mk.inj (Option.some.inj h)
    refine ⟨by omega, by omega, ?_⟩
    rw [encodePoint, if_neg (by omega), if_pos (by omega), (ofNat_eq_iff (b := c) (by omega)).mpr (by omega),
      (ofNat_eq_iff (b := b) (by omega)).mpr (by omega)]
    rfl
  · rintro ⟨hlo, hhi, h⟩
    rw [encodePoint, if_neg (by omega), if_pos hhi] at h
    simp only [List.cons_append, List.nil_append, List.cons.injEq] at h
    have h0 := (ofNat_eq_iff (by omega)).mp h.1
    refine utf8Tail_succ.mpr ⟨UInt8.ofNat (v % 64 + 0x80), t, h.2.symm, ?_⟩
    rw [toNat_byte (by omega)]
    refine ⟨by omega, by omega, ?_⟩
    rw [utf8Tail]
    congr 2
    omega

lemma three_bytes (hc : 0xE0 ≤ c.toNat) (hc' : c.toNat < 0xF0) (hv : 0x800 ≤ v) :
    utf8Tail 2 (c.toNat % 16) s = some (v, t) ↔ v ≤ 0xffff ∧ encodePoint v ++ t = c :: s := by
  constructor
  · intro h
    obtain ⟨b, t', rfl, hlo, hhi, h⟩ := utf8Tail_succ.mp h
    obtain ⟨b', t', rfl, hlo', hhi', h⟩ := utf8Tail_succ.mp h
    obtain ⟨rfl, rfl⟩ := Prod.mk.inj (Option.some.inj h)
    refine ⟨by omega, ?_⟩
    rw [encodePoint, if_neg (by omega), if_neg (by omega), if_pos (by omega),
      (ofNat_eq_iff (b := c) (by omega)).mpr (by omega), (ofNat_eq_iff (b := b) (by omega)).mpr (by omega),
      (ofNat_eq_iff (b := b') (by omega)).mpr (by omega)]
    rfl
  · rintro ⟨hhi, h⟩
    rw [encodePoint, if_neg (by omega), if_neg (by omega), if_pos hhi] at h
    simp only [List.cons_append, List.nil_append, List.cons.injEq] at h
    have h0 := (ofNat_eq_iff (by omega)).mp h.1
    refine utf8Tail_succ.mpr ⟨UInt8.ofNat (v / 64 % 64 + 0x80), _, h.2.symm, ?_⟩
    rw [toNat_byte (by omega)]
    refine ⟨by omega, by omega, utf8Tail_succ.mpr ⟨UInt8.ofNat (v % 64 + 0x80), t, rfl, ?_⟩⟩
    rw [toNat_byte (by omega)]
    refine ⟨by omega, by omega, ?_⟩
    rw [utf8Tail]
    congr 2
    omega

lemma four_bytes (hc : 0xF0 ≤ c.toNat) (hc' : c.toNat ≤ 0xF4) (hv : 0x10000 ≤ v) (hv' : v ≤ 0x10ffff) :
    utf8Tail 3 (c.toNat % 8) s = some (v, t) ↔ encodePoint v ++ t = c :: s := by
  constructor
  · intro h
    obtain ⟨b, t', rfl, hlo, hhi, h⟩ := utf8Tail_succ.mp h
    obtain ⟨b', t', rfl, hlo', hhi', h⟩ := utf8Tail_succ.mp h
    obtain ⟨b'', t', rfl, hlo'', hhi'', h⟩ := utf8Tail_succ.mp h
    obtain ⟨rfl, rfl⟩ := Prod.mk.inj (Option.some.inj h)
    rw [encodePoint, if_neg (by omega), if_neg (by omega), if_neg (by omega),
      (ofNat_eq_iff (b := c) (by omega)).mpr (by omega), (ofNat_eq_iff (b := b) (by omega)).mpr (by omega),
      (ofNat_eq_iff (b := b') (by omega)).mpr (by omega),
      (ofNat_eq_iff (b := b'') (by omega)).mpr (by omega)]
    rfl
  · intro h
    rw [encodePoint, if_neg (by omega), if_neg (by omega), if_neg (by omega)] at h
    simp only [List.cons_append, List.nil_append, List.cons.injEq] at h
    have h0 := (ofNat_eq_iff (by omega)).mp h.1
    refine utf8Tail_succ.mpr ⟨UInt8.ofNat (v / 4096 % 64 + 0x80), _, h.2.symm, ?_⟩
    rw [toNat_byte (by omega)]
    refine ⟨by omega, by omega, utf8Tail_succ.mpr ⟨UInt8.ofNat (v / 64 % 64 + 0x80), _, rfl, ?_⟩⟩
    rw [toNat_byte (by omega)]
    refine ⟨by omega, by omega, utf8Tail_succ.mpr ⟨UInt8.ofNat (v % 64 + 0x80), t, rfl, ?_⟩⟩
    rw [toNat_byte (by omega)]
    refine ⟨by omega, by omega, ?_⟩
    rw [utf8Tail]
    congr 2
    omega

/-! ## The two readers -/

/-- `utf8_valid` reads every code point there is, surrogates included. -/
lemma reads_utf8Next : Reads utf8Next IsPoint where
  sound := by
    intro c s v t h
    unfold utf8Next at h
    split_ifs at h with h0 h1
    · obtain ⟨rfl, rfl⟩ := Prod.mk.inj (Option.some.inj h)
      have hlt : c.toNat < 0x80 := h1
      have hne : c.toNat ≠ 0 := fun hz => h0 (UInt8.toNat_inj.mp hz)
      refine ⟨⟨hne, by omega⟩, ?_⟩
      rw [encodePoint, if_pos (by omega), (ofNat_eq_iff (by omega)).mpr rfl]
      rfl
    · unfold utf8Lead at h
      rw [toNat_and_31, toNat_and_15, toNat_and_7] at h
      -- by the length that the lead byte announces
      split_ifs at h with h2 h3 h4
      · obtain ⟨hlo, hhi⟩ := (lead_two_iff c).mp h2
        dsimp only at h
        split at h
        · exact absurd h.symm (Option.some_ne_none _)
        · next cp rest htail =>
          obtain ⟨hv, hv', henc⟩ := (two_bytes hlo hhi).mp htail
          rw [if_neg (by omega), if_neg (by omega), if_neg (by omega)] at h
          obtain ⟨rfl, rfl⟩ := Prod.mk.inj (Option.some.inj h)
          exact ⟨⟨by omega, by omega⟩, henc⟩
      · obtain ⟨hlo, hhi⟩ := (lead_three_iff c).mp h3
        dsimp only at h
        split at h
        · exact absurd h.symm (Option.some_ne_none _)
        · next cp rest htail =>
          split_ifs at h with h5 h6 h7
          obtain ⟨rfl, rfl⟩ := Prod.mk.inj (Option.some.inj h)
          obtain ⟨hv, henc⟩ := (three_bytes hlo hhi (by omega)).mp htail
          exact ⟨⟨by omega, by omega⟩, henc⟩
      · obtain ⟨hlo, hhi⟩ := (lead_four_iff c).mp h4
        dsimp only at h
        split at h
        · exact absurd h.symm (Option.some_ne_none _)
        · next cp rest htail =>
          split_ifs at h with h5 h6 h7
          obtain ⟨rfl, rfl⟩ := Prod.mk.inj (Option.some.inj h)
          exact ⟨⟨by omega, by omega⟩, (four_bytes hlo hhi (by omega) (by omega)).mp htail⟩
  complete := by
    intro c s v t hv henc
    obtain ⟨hne, hle⟩ := hv
    unfold utf8Next utf8Lead
    rw [toNat_and_31, toNat_and_15, toNat_and_7, if_congr (lead_two_iff c) rfl rfl,
      if_congr (lead_three_iff c) rfl rfl, if_congr (lead_four_iff c) rfl rfl]
    have hzero : c = 0 ↔ c.toNat = 0 := UInt8.toNat_inj.symm
    have hascii : c < 0x80 ↔ c.toNat < 0x80 := Iff.rfl
    rw [if_congr hzero rfl rfl, if_congr hascii rfl rfl]
    -- by the length of the form of the point
    obtain ⟨h1, h2, h3⟩ | ⟨h1, h2, h3, h4⟩ | ⟨h1, h2, h3, h4⟩ | ⟨h1, h2, h3⟩ := lead_cases hle henc
    · rw [if_neg (by omega), if_pos (by omega), h2, h3]
    · rw [if_neg (by omega), if_neg (by omega), if_pos ⟨h3, h4⟩]
      dsimp only
      rw [(two_bytes h3 h4).mpr ⟨h1, h2, henc⟩]
      dsimp only
      rw [if_neg (by omega), if_neg (by omega), if_neg (by omega)]
    · rw [if_neg (by omega), if_neg (by omega), if_neg (by omega), if_pos ⟨h3, h4⟩]
      dsimp only
      rw [(three_bytes h3 h4 h1).mpr ⟨h2, henc⟩]
      dsimp only
      rw [if_neg (by omega), if_neg (by omega), if_neg (by omega)]
    · rw [if_neg (by omega), if_neg (by omega), if_neg (by omega), if_neg (by omega), if_pos ⟨h2, h3⟩]
      dsimp only
      rw [(four_bytes h2 h3 h1 hle).mpr henc]
      dsimp only
      rw [if_neg (by omega), if_neg (by omega), if_neg (by omega)]

lemma utf8ValidLoop_iff {fuel : Nat} (hfuel : s.length ≤ fuel) :
    utf8ValidLoop fuel s = true ↔ ∃ vs, (∀ v ∈ vs, IsPoint v) ∧ encodePoints vs = s := by
  induction fuel generalizing s with
  | zero =>
    rw [List.length_eq_zero_iff.mp (Nat.le_zero.mp hfuel)]
    exact ⟨fun _ => ⟨[], by simp, rfl⟩, fun _ => rfl⟩
  | succ fuel ih =>
    cases s with
    | nil => exact ⟨fun _ => ⟨[], by simp, rfl⟩, fun _ => rfl⟩
    | cons c s =>
      rw [reads_utf8Next.step, utf8ValidLoop]
      cases hnext : utf8Next c s with
      | none => simp
      | some r =>
        obtain ⟨v, rest⟩ := r
        have hshort := reads_utf8Next.shorter hnext
        rw [List.length_cons] at hfuel
        dsimp only
        rw [ih (by omega)]
        constructor
        · intro h
          exact ⟨v, rest, rfl, h⟩
        · rintro ⟨v', rest', heq, h⟩
          obtain ⟨rfl, rfl⟩ := Prod.mk.inj (Option.some.inj heq)
          exact h

/-- What `utf8_valid` accepts: the encodings of code points, surrogates included, without NUL. -/
lemma utf8Valid_iff : utf8Valid s = true ↔ ∃ vs, (∀ v ∈ vs, IsPoint v) ∧ encodePoints vs = s :=
  utf8ValidLoop_iff le_rfl

/-- What the advertised name may hold. -/
def IsNamePoint (v : Nat) : Prop := 0x20 ≤ v ∧ v ≤ 0x10ffff ∧ ¬ IsSurrogate v

lemma nameNext_sound (h : nameNext c s = some (v, t)) : IsNamePoint v ∧ encodePoint v ++ t = c :: s := by
  have hge : ∀ n : UInt8, c ≥ n ↔ n.toNat ≤ c.toNat := fun n => Iff.rfl
  have hle : ∀ n : UInt8, c ≤ n ↔ c.toNat ≤ n.toNat := fun n => Iff.rfl
  have hlt : ∀ n : UInt8, c < n ↔ c.toNat < n.toNat := fun n => Iff.rfl
  unfold nameNext nameLead at h
  rw [toNat_and_31, toNat_and_15, toNat_and_7] at h
  simp only [hge, hle, hlt, UInt8.reduceToNat] at h
  simp only [IsNamePoint, IsSurrogate]
  split_ifs at h with h1 h2 h3 h4
  · dsimp only at h
    split at h
    · exact absurd h.symm (Option.some_ne_none _)
    · next cp rest htail =>
      split_ifs at h with h5
      obtain ⟨rfl, rfl⟩ := Prod.mk.inj (Option.some.inj h)
      obtain ⟨hv, hv', henc⟩ := (two_bytes h1.1 (by omega)).mp htail
      exact ⟨⟨by omega, by omega, by omega⟩, henc⟩
  · dsimp only at h
    split at h
    · exact absurd h.symm (Option.some_ne_none _)
    · next cp rest htail =>
      split_ifs at h with h5
      obtain ⟨rfl, rfl⟩ := Prod.mk.inj (Option.some.inj h)
      obtain ⟨hv, henc⟩ := (three_bytes h2.1 (by omega) (by omega)).mp htail
      exact ⟨⟨by omega, by omega, by omega⟩, henc⟩
  · dsimp only at h
    split at h
    · exact absurd h.symm (Option.some_ne_none _)
    · next cp rest htail =>
      split_ifs at h with h5
      obtain ⟨rfl, rfl⟩ := Prod.mk.inj (Option.some.inj h)
      have henc := (four_bytes h3.1 h3.2 (by omega) (by omega)).mp htail
      exact ⟨⟨by omega, by omega, by omega⟩, henc⟩
  · have htail : utf8Tail (1 - 1) c.toNat s = some (c.toNat, s) := rfl
    dsimp only at h
    rw [htail] at h
    dsimp only at h
    rw [if_neg (by omega)] at h
    obtain ⟨rfl, rfl⟩ := Prod.mk.inj (Option.some.inj h)
    refine ⟨⟨by omega, by omega, by omega⟩, ?_⟩
    rw [encodePoint, if_pos (by omega), (ofNat_eq_iff (by omega)).mpr rfl]
    rfl

/-- The name is made of whole characters, and leaves room for its NUL. -/
lemma candidateBytesLoop_spec (fuel i : Nat) {out : List UInt8} {ws : List Nat}
    (hws : ∀ w ∈ ws, IsNamePoint w) (hout : out = encodePoints ws) (hi : out.length ≤ i)
    (hsize : out.length < candidateNameSize) :
    ∃ vs, (∀ w ∈ vs, IsNamePoint w) ∧ candidateBytesLoop fuel i out s = encodePoints vs ∧
      (candidateBytesLoop fuel i out s).length < candidateNameSize := by
  have hempty : ([] : List UInt8).length < candidateNameSize := by decide
  induction fuel generalizing i out ws s with
  | zero =>
    cases s with
    | nil => exact ⟨ws, hws, hout, hsize⟩
    | cons c s => exact ⟨[], by simp, rfl, hempty⟩
  | succ fuel ih =>
    cases s with
    | nil => exact ⟨ws, hws, hout, hsize⟩
    | cons c s =>
      rw [candidateBytesLoop]
      cases hnext : nameNext c s with
      | none => exact ⟨[], by simp, rfl, hempty⟩
      | some r =>
        obtain ⟨v, rest⟩ := r
        obtain ⟨hv, henc⟩ := nameNext_sound hnext
        dsimp only
        have hk : (c :: s).length - rest.length = (encodePoint v).length := by
          rw [← henc, List.length_append]
          omega
        rw [hk, ← henc, List.take_left' rfl]
        by_cases hfits : i + (encodePoint v).length < candidateNameSize
        · rw [if_pos hfits]
          refine ih _ (?_ : ∀ w ∈ ws ++ [v], IsNamePoint w) ?_ ?_ ?_
          · intro w hw
            obtain hw | hw := List.mem_append.mp hw
            · exact hws w hw
            · rw [List.mem_singleton.mp hw]
              exact hv
          · rw [hout, encodePoints, encodePoints, List.flatMap_append, List.flatMap_singleton]
          · rw [List.length_append]
            omega
          · rw [List.length_append]
            omega
        · rw [if_neg hfits]
          exact ih _ hws hout (by omega) hsize

end RemoteBridge
