import Mathlib

/-!
# Ring buffers

A ring of capacity `cap` is a memory with the index `head` of its first byte and the number `len` of
bytes in use.  `Ring.contents` reads the queue that the ring stands for; the operations are the ones a
driver performs on the indices, and each has one lemma that says what it does to the contents.
-/

namespace RemoteBridge

/-- `memcpy` into a memory. -/
def copyInto {α : Type} (mem : Nat → α) (pos : Nat) (data : List α) : Nat → α := fun i =>
  if h : pos ≤ i ∧ i - pos < data.length then data.get ⟨i - pos, h.2⟩ else mem i

/-- A ring buffer. -/
structure Ring (α : Type) where
  mem : Nat → α
  head : Nat
  len : Nat

namespace Ring

variable {α : Type} (cap : Nat) (r : Ring α)

/-- The queue a ring stands for, oldest first. -/
def contents : List α := (List.range r.len).map fun i => r.mem ((r.head + i) % cap)

/-- The indices are in range. -/
structure Ok : Prop where
  head_lt : r.head < cap
  len_le : r.len ≤ cap

/-- `ring_write`: the copy may be split by the end of the memory.  `none` when the data do not fit. -/
def write (data : List α) : Option (Ring α) :=
  if cap - r.len < data.length then none
  else
    let tail := if r.head + r.len ≥ cap then r.head + r.len - cap else r.head + r.len
    let first := min (cap - tail) data.length
    let mem := copyInto r.mem tail (data.take first)
    let mem := if data.length > first then copyInto mem 0 (data.drop first) else mem
    some { mem := mem, head := r.head, len := r.len + data.length }

/-- Consume `n` bytes. -/
def consume (n : Nat) : Ring α :=
  { mem := r.mem, head := (r.head + n) % cap, len := r.len - n }

/-- Set the number of bytes in use, without touching the memory. -/
def setLen (n : Nat) : Ring α := { mem := r.mem, head := r.head, len := n }

variable {cap r}

@[simp] lemma length_contents : (r.contents cap).length = r.len := by simp [contents]

lemma contents_getElem? (i : Nat) :
    (r.contents cap)[i]? = if i < r.len then some (r.mem ((r.head + i) % cap)) else none := by
  by_cases h : i < r.len
  · simp [contents, h]
  · simp [contents, h]

lemma copyInto_of_mem {mem : Nat → α} {pos i : Nat} {data : List α} (h : i < data.length) :
    copyInto mem pos data (pos + i) = data.get ⟨i, h⟩ := by
  have hin : pos ≤ pos + i ∧ pos + i - pos < data.length := by omega
  simp only [copyInto, dif_pos hin]
  congr 2
  omega

lemma copyInto_of_not_mem {mem : Nat → α} {pos i : Nat} {data : List α}
    (h : i < pos ∨ pos + data.length ≤ i) : copyInto mem pos data i = mem i := by
  have hout : ¬ (pos ≤ i ∧ i - pos < data.length) := by omega
  simp only [copyInto, dif_neg hout]

lemma mod_wrap {x : Nat} (h : x < cap + cap) : x % cap = if x < cap then x else x - cap := by
  split
  next hlt => exact Nat.mod_eq_of_lt hlt
  next hge => rw [Nat.mod_eq_sub_mod (Nat.le_of_not_lt hge), Nat.mod_eq_of_lt (by omega)]

/-- The memory after the two copies of a write that starts at `tail`. -/
def splitCopy (cap : Nat) (mem : Nat → α) (tail : Nat) (data : List α) : Nat → α :=
  if data.length > min (cap - tail) data.length then
    copyInto (copyInto mem tail (data.take (min (cap - tail) data.length))) 0
      (data.drop (min (cap - tail) data.length))
  else copyInto mem tail (data.take (min (cap - tail) data.length))

/-- The `k`-th byte lands at its place modulo the capacity. -/
lemma splitCopy_data {mem : Nat → α} {tail k : Nat} {data : List α} (htail : tail < cap)
    (hn : data.length ≤ cap) (hk : k < data.length) :
    splitCopy cap mem tail data ((tail + k) % cap) = data.get ⟨k, hk⟩ := by
  rw [mod_wrap (by omega)]
  unfold splitCopy
  by_cases hlt : tail + k < cap
  · have hfirst : k < (data.take (min (cap - tail) data.length)).length := by
      rw [List.length_take]
      omega
    have hcopy := @copyInto_of_mem _ mem tail k _ hfirst
    rw [if_pos hlt]
    split
    next hwrap =>
      rw [copyInto_of_not_mem (Or.inr (by rw [List.length_drop]; omega)), hcopy]
      simp
    next => rw [hcopy]; simp
  · rw [if_neg hlt, if_pos (by omega)]
    have hk' : tail + k - cap = 0 + (k - min (cap - tail) data.length) := by omega
    have hsecond : k - min (cap - tail) data.length <
        (data.drop (min (cap - tail) data.length)).length := by
      rw [List.length_drop]
      omega
    rw [hk', copyInto_of_mem hsecond]
    simp only [List.get_eq_getElem, List.getElem_drop]
    congr 1
    omega

/-- Places outside the written range keep their byte. -/
lemma splitCopy_old {mem : Nat → α} {tail k : Nat} {data : List α} (htail : tail < cap)
    (hk : data.length ≤ k) (hcap : k < cap) :
    splitCopy cap mem tail data ((tail + k) % cap) = mem ((tail + k) % cap) := by
  rw [mod_wrap (by omega)]
  unfold splitCopy
  have hfirst : (data.take (min (cap - tail) data.length)).length =
      min (cap - tail) data.length := by
    rw [List.length_take]
    omega
  by_cases hlt : tail + k < cap
  · rw [if_pos hlt, if_neg (by omega), copyInto_of_not_mem (Or.inr (by omega))]
  · rw [if_neg hlt]
    split
    next hwrap =>
      rw [copyInto_of_not_mem (Or.inr (by rw [List.length_drop]; omega)),
        copyInto_of_not_mem (Or.inl (by omega))]
    next => rw [copyInto_of_not_mem (Or.inl (by omega))]

lemma write_eq (data : List α) (hr : r.Ok cap) (hfit : data.length ≤ cap - r.len) :
    r.write cap data =
      some { mem := splitCopy cap r.mem ((r.head + r.len) % cap) data, head := r.head,
             len := r.len + data.length } := by
  obtain ⟨hhead, hlen⟩ := hr
  have htail : (if r.head + r.len ≥ cap then r.head + r.len - cap else r.head + r.len) =
      (r.head + r.len) % cap := by
    rw [mod_wrap (by omega)]
    split <;> split <;> omega
  simp only [write, if_neg (by omega : ¬ cap - r.len < data.length), htail]
  rfl

/-- A write that fits appends to the contents, whether or not it wraps. -/
lemma contents_write {data : List α} {r' : Ring α} (hr : r.Ok cap) (h : r.write cap data = some r') :
    r'.contents cap = r.contents cap ++ data ∧ r'.Ok cap := by
  obtain ⟨hhead, hlen⟩ := hr
  have hfit : data.length ≤ cap - r.len := by
    by_contra hno
    simp only [write, if_pos (Nat.lt_of_not_le hno)] at h
    exact absurd h.symm (Option.some_ne_none _)
  rw [write_eq data ⟨hhead, hlen⟩ hfit] at h
  obtain rfl := Option.some.inj h
  refine ⟨?_, ⟨hhead, by dsimp only; omega⟩⟩
  have htail : (r.head + r.len) % cap < cap := Nat.mod_lt _ (by omega)
  -- Both kinds of place are reached from the tail: the new bytes at `k`, the old ones one lap later.
  have hplace : ∀ k, ((r.head + r.len) % cap + k) % cap = (r.head + r.len + k) % cap := by
    intro k
    rw [Nat.mod_add_mod]
  apply List.ext_getElem?
  intro i
  rw [contents_getElem?, List.getElem?_append, length_contents, contents_getElem?]
  dsimp only
  by_cases hi : i < r.len
  · have hlap : (r.head + i) % cap = ((r.head + r.len) % cap + (cap - r.len + i)) % cap := by
      rw [hplace, show r.head + r.len + (cap - r.len + i) = r.head + i + cap by omega,
        Nat.add_mod_right]
    rw [if_pos (by omega), if_pos hi, if_pos hi, hlap, splitCopy_old htail (by omega) (by omega)]
  · by_cases hd : i - r.len < data.length
    · have hnew : (r.head + i) % cap = ((r.head + r.len) % cap + (i - r.len)) % cap := by
        rw [hplace, show r.head + r.len + (i - r.len) = r.head + i by omega]
      rw [if_pos (by omega), if_neg hi, hnew, splitCopy_data htail (by omega) hd,
        List.getElem?_eq_getElem hd]
      rfl
    · rw [if_neg (by omega), if_neg hi, List.getElem?_eq_none (by omega)]

/-- Consuming drops from the front. -/
lemma contents_consume {n : Nat} (hr : r.Ok cap) (hn : n ≤ r.len) :
    (r.consume cap n).contents cap = (r.contents cap).drop n ∧ (r.consume cap n).Ok cap := by
  obtain ⟨hhead, hlen⟩ := hr
  refine ⟨?_, ⟨Nat.mod_lt _ (by omega), by simp only [consume]; omega⟩⟩
  apply List.ext_getElem?
  intro i
  rw [contents_getElem?, List.getElem?_drop, contents_getElem?]
  simp only [consume, Nat.mod_add_mod, Nat.add_assoc]
  by_cases hi : i < r.len - n
  · rw [if_pos hi, if_pos (by omega)]
  · rw [if_neg hi, if_neg (by omega)]

/-- Cutting the length keeps a prefix. -/
lemma contents_setLen {n : Nat} (hr : r.Ok cap) (hn : n ≤ r.len) :
    (r.setLen n).contents cap = (r.contents cap).take n ∧ (r.setLen n).Ok cap := by
  refine ⟨?_, ⟨hr.head_lt, Nat.le_trans hn hr.len_le⟩⟩
  apply List.ext_getElem?
  intro i
  rw [contents_getElem?, List.getElem?_take, contents_getElem?]
  have hlen : (r.setLen n).len = n := rfl
  by_cases hi : i < n
  · rw [if_pos (hlen ▸ hi), if_pos hi, if_pos (by omega)]
    rfl
  · rw [if_neg (hlen ▸ hi), if_neg hi]

end Ring

end RemoteBridge
