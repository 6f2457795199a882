import Mathlib

/-!
# Little-endian byte strings

The wire, the EEPROM records and the audio headers all store integers as little-endian byte
strings of a fixed width.  This file holds the one encoder `leBytes`, its decoder `leNat`, and the
two round trips between them.  Everything is stated on `Nat` with the width as a parameter, so the
16, 32 and 64 bit accessors of the protocol are instances.
-/

namespace RemoteBridge

/-- The `n` low bytes of `v`, least significant first. -/
def leBytes : Nat → Nat → List UInt8
  | 0, _ => []
  | n + 1, v => UInt8.ofNat v :: leBytes n (v / 256)

/-- The value of a little-endian byte string. -/
def leNat : List UInt8 → Nat
  | [] => 0
  | b :: bs => b.toNat + 256 * leNat bs

@[simp] lemma length_leBytes (n v : Nat) : (leBytes n v).length = n := by
  induction n generalizing v with
  | zero => rfl
  | succ n ih => simp [leBytes, ih]

/-- Decoding the `n` low bytes gives the value modulo `256 ^ n`. -/
lemma leNat_leBytes (n v : Nat) : leNat (leBytes n v) = v % 256 ^ n := by
  induction n generalizing v with
  | zero => simp [leBytes, leNat, Nat.mod_one]
  | succ n ih =>
    rw [leBytes, leNat, ih, Nat.pow_succ', Nat.mod_mul]
    simp

lemma leNat_leBytes_of_lt {n v : Nat} (h : v < 256 ^ n) : leNat (leBytes n v) = v := by
  rw [leNat_leBytes, Nat.mod_eq_of_lt h]

/-- A byte string of length `n` denotes a number below `256 ^ n`. -/
lemma leNat_lt (bs : List UInt8) : leNat bs < 256 ^ bs.length := by
  induction bs with
  | nil => simp [leNat]
  | cons b bs ih =>
    have hb : b.toNat < 256 := b.toNat_lt
    rw [leNat, List.length_cons, Nat.pow_succ']
    omega

/-- Re-encoding a decoded byte string gives it back. -/
lemma leBytes_leNat (bs : List UInt8) : leBytes bs.length (leNat bs) = bs := by
  induction bs with
  | nil => rfl
  | cons b bs ih =>
    have hb : b.toNat < 256 := b.toNat_lt
    have hdiv : (b.toNat + 256 * leNat bs) / 256 = leNat bs := by omega
    have hhead : UInt8.ofNat (b.toNat + 256 * leNat bs) = b := by
      apply UInt8.toNat_inj.mp
      simp only [UInt8.toNat_ofNat']
      omega
    rw [leNat, List.length_cons, leBytes, hdiv, ih, hhead]

/-- Byte strings of the same length with the same value are equal. -/
lemma leNat_inj {as bs : List UInt8} (hlen : as.length = bs.length) (h : leNat as = leNat bs) :
    as = bs := by
  rw [← leBytes_leNat as, ← leBytes_leNat bs, hlen, h]

/-! ## Fixed-width accessors

The sources write these as shift-and-mask helpers (`put16`, `put32`, `audio_put`, `get32`,
`audio_u32`); each is the width-2, width-4 or width-8 instance of the codec above. -/

def put16 (v : UInt16) : List UInt8 := leBytes 2 v.toNat

def put32 (v : UInt32) : List UInt8 := leBytes 4 v.toNat

def put64 (v : UInt64) : List UInt8 := leBytes 8 v.toNat

/-- The 16 bit value at offset `off` of a buffer. -/
def get16 (p : List UInt8) (off : Nat) : UInt16 := UInt16.ofNat (leNat ((p.drop off).take 2))

/-- The 32 bit value at offset `off` of a buffer. -/
def get32 (p : List UInt8) (off : Nat) : UInt32 := UInt32.ofNat (leNat ((p.drop off).take 4))

/-- The 64 bit value at offset `off` of a buffer. -/
def get64 (p : List UInt8) (off : Nat) : UInt64 := UInt64.ofNat (leNat ((p.drop off).take 8))

@[simp] lemma length_put16 (v : UInt16) : (put16 v).length = 2 := length_leBytes 2 _

@[simp] lemma length_put32 (v : UInt32) : (put32 v).length = 4 := length_leBytes 4 _

@[simp] lemma length_put64 (v : UInt64) : (put64 v).length = 8 := length_leBytes 8 _

/-- Reading a field back from the middle of a buffer. -/
lemma leNat_field {pre post : List UInt8} {off n v : Nat} (hoff : off = pre.length) :
    leNat (((pre ++ leBytes n v ++ post).drop off).take n) = v % 256 ^ n := by
  rw [hoff, List.append_assoc, List.drop_left, List.take_left' (length_leBytes n v),
    leNat_leBytes]

lemma get16_field (pre post : List UInt8) {off : Nat} (v : UInt16) (hoff : off = pre.length) :
    get16 (pre ++ put16 v ++ post) off = v := by
  have hlt : v.toNat < 256 ^ 2 := v.toNat_lt
  rw [get16, put16, leNat_field hoff, Nat.mod_eq_of_lt hlt, UInt16.ofNat_toNat]

lemma get32_field (pre post : List UInt8) {off : Nat} (v : UInt32) (hoff : off = pre.length) :
    get32 (pre ++ put32 v ++ post) off = v := by
  have hlt : v.toNat < 256 ^ 4 := v.toNat_lt
  rw [get32, put32, leNat_field hoff, Nat.mod_eq_of_lt hlt, UInt32.ofNat_toNat]

lemma get64_field (pre post : List UInt8) {off : Nat} (v : UInt64) (hoff : off = pre.length) :
    get64 (pre ++ put64 v ++ post) off = v := by
  have hlt : v.toNat < 256 ^ 8 := v.toNat_lt
  rw [get64, put64, leNat_field hoff, Nat.mod_eq_of_lt hlt, UInt64.ofNat_toNat]

/-- The text of a C string literal, as its bytes. -/
def ascii (s : String) : List UInt8 := s.toList.map (fun c => UInt8.ofNat c.toNat)

end RemoteBridge
