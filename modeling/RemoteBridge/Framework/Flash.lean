import Mathlib

/-!
# Erase-before-write storage and power loss

A page of flash is erased to all ones and programmed by clearing bits.  A power cut can fall inside
either operation.  `FlashOp.Torn` says what a page may hold after such a cut, and promises nothing
beyond the physics: an interrupted erase has only raised bits, an interrupted program has only
cleared bits that the operation was going to clear.

`CutDuring ops p c` collects this over a sequence of operations on one page: the operations before
the cut are complete, one is torn, and the rest never ran.
-/

namespace RemoteBridge

/-- The contents of one erase page of `n` bytes. -/
abbrev FlashPage (n : Nat) : Type := Fin n → UInt8

namespace FlashPage

variable {n : Nat}

/-- The erased page. -/
def erased : FlashPage n := fun _ => 255

/-- The page as a byte string. -/
def bytes (p : FlashPage n) : List UInt8 := List.ofFn p

/-- The page that holds a byte string, erased after its end. -/
def ofBytes (bs : List UInt8) : FlashPage n := fun i => bs.getD i 255

@[simp] lemma length_bytes (p : FlashPage n) : (bytes p).length = n := by simp [bytes]

lemma bytes_ofBytes {bs : List UInt8} (h : bs.length = n) : bytes (ofBytes bs : FlashPage n) = bs := by
  subst h
  apply List.ext_getElem
  · simp
  · intro i h1 h2
    simp [bytes, ofBytes, List.getElem?_eq_getElem h2]

lemma bytes_getD (p : FlashPage n) (i : Fin n) (d : UInt8) : (bytes p).getD i d = p i := by
  simp [bytes]

end FlashPage

/-- The two mutating operations on a page. -/
inductive FlashOp where
  | erase
  | program (off : Nat) (data : List UInt8)

namespace FlashOp

variable {n : Nat}

/-- The page after the operation has completed. -/
def apply (op : FlashOp) (p : FlashPage n) : FlashPage n :=
  match op with
  | .erase => FlashPage.erased
  | .program off data => fun i =>
      if off ≤ i.val ∧ i.val < off + data.length then p i &&& data.getD (i.val - off) 255 else p i

/-- What the page may hold when power is lost during the operation. -/
def Torn (op : FlashOp) (p c : FlashPage n) : Prop :=
  match op with
  | .erase => ∀ i, p i &&& c i = p i
  | .program off data =>
      ∀ i, (program off data).apply p i &&& c i = (program off data).apply p i ∧ c i &&& p i = c i

end FlashOp

/-- A page after a sequence of completed operations. -/
def runFlashOps {n : Nat} (ops : List FlashOp) (p : FlashPage n) : FlashPage n :=
  ops.foldl (fun q op => op.apply q) p

/-- `c` is a content that a power cut during `ops`, started on `p`, can leave behind. -/
def CutDuring {n : Nat} (ops : List FlashOp) (p c : FlashPage n) : Prop :=
  ∃ before op after, ops = before ++ op :: after ∧ op.Torn (runFlashOps before p) c

/-! ## Bit facts -/

@[simp] lemma uint8_and_allOnes (b : UInt8) : b &&& 255 = b := by
  apply UInt8.toBitVec_inj.mp
  simpa using BitVec.and_allOnes (x := b.toBitVec)

@[simp] lemma uint8_allOnes_and (b : UInt8) : 255 &&& b = b := by
  rw [UInt8.and_comm, uint8_and_allOnes]

lemma uint8_eq_of_and_eq {a b : UInt8} (h1 : a &&& b = a) (h2 : b &&& a = b) : a = b := by
  rw [← h1, UInt8.and_comm, h2]

end RemoteBridge
