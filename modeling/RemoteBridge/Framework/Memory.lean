import RemoteBridge.Framework.Ring

/-!
# Windows of a memory

A memory is a function from addresses, and `window mem pos n` is the string of the `n` bytes from `pos`
on.  Programs that move bytes in place are followed through the windows they leave alone and the windows
they fill; a ring is a memory seen from its head (`Ring.turned`), in which the places of the queue are
the first ones.
-/

namespace RemoteBridge

variable {α : Type} {mem mem' : Nat → α} {pos pos' n : Nat}

/-- The `n` bytes from `pos` on. -/
def window (mem : Nat → α) (pos n : Nat) : List α := (List.range n).map fun i => mem (pos + i)

/-- `memmove`: the copy is as if the bytes were read before any is written. -/
def memmove (mem : Nat → α) (dst src n : Nat) : Nat → α := copyInto mem dst (window mem src n)

@[simp] lemma length_window : (window mem pos n).length = n := by simp [window]

@[simp] lemma window_zero : window mem pos 0 = [] := rfl

lemma window_congr (h : ∀ i < n, mem (pos + i) = mem' (pos' + i)) : window mem pos n = window mem' pos' n :=
  List.map_congr_left fun i hi => h i (List.mem_range.mp hi)

lemma window_succ : window mem pos (n + 1) = window mem pos n ++ [mem (pos + n)] := by
  rw [window, List.range_succ, List.map_append]
  rfl

lemma window_add (m : Nat) : window mem pos (m + n) = window mem pos m ++ window mem (pos + m) n := by
  induction n with
  | zero => exact (List.append_nil _).symm
  | succ n ih => rw [← Nat.add_assoc, window_succ, ih, window_succ, List.append_assoc, Nat.add_assoc]

lemma window_one : window mem pos 1 = [mem pos] := rfl

lemma window_cons : window mem pos (n + 1) = mem pos :: window mem (pos + 1) n := by
  rw [Nat.add_comm n 1, window_add, window_one]
  rfl

lemma isEmpty_window : (window mem pos n).isEmpty = decide (n = 0) := by
  cases n with
  | zero => rfl
  | succ n => rw [window_cons]; rfl

lemma take_window {k : Nat} (hk : k ≤ n) : (window mem pos n).take k = window mem pos k := by
  obtain ⟨m, rfl⟩ := Nat.exists_eq_add_of_le hk
  rw [window_add, List.take_left' length_window]

lemma drop_window {k : Nat} (hk : k ≤ n) : (window mem pos n).drop k = window mem (pos + k) (n - k) := by
  obtain ⟨m, rfl⟩ := Nat.exists_eq_add_of_le hk
  rw [window_add, List.drop_left' length_window, Nat.add_sub_cancel_left]

/-- A write beside the window. -/
lemma window_update {a : Nat} (x : α) (h : a < pos ∨ pos + n ≤ a) :
    window (Function.update mem a x) pos n = window mem pos n :=
  window_congr fun i hi => Function.update_of_ne (by omega) _ _

/-- A copied string can be read back. -/
lemma window_copyInto (data : List α) : window (copyInto mem pos data) pos data.length = data := by
  refine List.ext_getElem length_window fun i hi hi' => ?_
  simp only [window, List.getElem_map, List.getElem_range]
  rw [Ring.copyInto_of_mem hi']
  rfl

/-- A copy beside the window. -/
lemma window_copyInto_of_apart {data : List α} (h : pos + n ≤ pos' ∨ pos' + data.length ≤ pos) :
    window (copyInto mem pos' data) pos n = window mem pos n :=
  window_congr fun i hi => Ring.copyInto_of_not_mem (by omega)

/-- A window of the moved bytes. -/
lemma window_memmove {dst src k a m : Nat} (h : a + m ≤ k) :
    window (memmove mem dst src k) (dst + a) m = window mem (src + a) m := by
  refine window_congr fun i hi => ?_
  have hin : a + i < (window mem src k).length := by
    rw [length_window]
    omega
  rw [Nat.add_assoc, memmove, Ring.copyInto_of_mem hin]
  simp only [window, List.get_eq_getElem, List.getElem_map, List.getElem_range, Nat.add_assoc]

namespace Ring

variable {cap : Nat} {r : Ring α}

/-- The memory of a ring from its head on. -/
def turned (cap : Nat) (r : Ring α) : Nat → α := fun i => r.mem ((r.head + i) % cap)

/-- A write into a ring is a copy behind what it holds. -/
lemma turned_write {data : List α} {r' : Ring α} (hr : r.Ok cap) (h : r.write cap data = some r') :
    r'.head = r.head ∧ r'.len = r.len + data.length ∧ r'.len ≤ cap ∧
      ∀ i < cap, r'.turned cap i = copyInto (r.turned cap) r.len data i := by
  have hfit : data.length ≤ cap - r.len := by
    by_contra hno
    rw [write, if_pos (Nat.lt_of_not_le hno)] at h
    cases h
  have hlen := hr.len_le
  have htail : (r.head + r.len) % cap < cap := Nat.mod_lt _ (Nat.zero_lt_of_lt hr.head_lt)
  rw [write_eq data hr hfit] at h
  obtain rfl := Option.some.inj h
  refine ⟨rfl, rfl, by dsimp only; omega, fun i hi => ?_⟩
  change splitCopy cap r.mem ((r.head + r.len) % cap) data ((r.head + i) % cap) = _
  by_cases hin : r.len ≤ i ∧ i - r.len < data.length
  · obtain ⟨k, rfl⟩ := Nat.exists_eq_add_of_le hin.1
    have hk : k < data.length := by omega
    have hplace : (r.head + (r.len + k)) % cap = ((r.head + r.len) % cap + k) % cap := by
      rw [Nat.mod_add_mod, Nat.add_assoc]
    rw [hplace, splitCopy_data htail (by omega) hk, copyInto_of_mem hk]
  · -- Seen from the tail, a place before it lies one lap later.
    have hold : (r.head + i) % cap =
        ((r.head + r.len) % cap + (if r.len ≤ i then i - r.len else cap - r.len + i)) % cap := by
      rw [Nat.mod_add_mod]
      split
      · congr 1
        omega
      · rw [show r.head + r.len + (cap - r.len + i) = r.head + i + cap by omega, Nat.add_mod_right]
    rw [hold, splitCopy_old htail (by split <;> omega) (by split <;> omega), ← hold,
      copyInto_of_not_mem (by omega)]
    rfl

/-- Copy `n` bytes out of a ring, from `offset` bytes behind its head on; the copy may be split by the end
of the memory. -/
def read (cap : Nat) (r : Ring α) (offset n : Nat) : List α :=
  let pos := (r.head + offset) % cap
  let first := min (cap - pos) n
  window r.mem pos first ++ (if n > first then window r.mem 0 (n - first) else [])

lemma read_eq_window {offset : Nat} (hn : n ≤ cap) : r.read cap offset n = window (r.turned cap) offset n := by
  rcases Nat.eq_zero_or_pos n with rfl | hpos
  · simp [read]
  unfold read
  dsimp only
  obtain ⟨place, hplace⟩ : ∃ place, place = (r.head + offset) % cap := ⟨_, rfl⟩
  have hlt : place < cap := hplace ▸ Nat.mod_lt _ (by omega)
  have hturned : ∀ i, r.turned cap (offset + i) = r.mem ((place + i) % cap) := by
    intro i
    rw [turned, hplace, Nat.mod_add_mod, Nat.add_assoc]
  rw [← hplace]
  by_cases hsplit : n > min (cap - place) n
  · obtain ⟨first, hfirst⟩ : ∃ first, first = min (cap - place) n := ⟨_, rfl⟩
    obtain ⟨rest, rfl⟩ : ∃ rest, n = first + rest := ⟨n - first, by omega⟩
    rw [if_pos hsplit, ← hfirst, Nat.add_sub_cancel_left, window_add]
    congr 1
    · refine window_congr fun i hi => ?_
      rw [hturned, Nat.mod_eq_of_lt (by omega)]
    · refine window_congr fun i hi => ?_
      have hwrap : place + (first + i) = i + cap := by omega
      rw [Nat.add_assoc, hturned, hwrap, Nat.add_mod_right, Nat.mod_eq_of_lt (by omega), Nat.zero_add]
  · have hfirst : min (cap - place) n = n := by omega
    rw [if_neg hsplit, hfirst, List.append_nil]
    refine window_congr fun i hi => ?_
    rw [hturned, Nat.mod_eq_of_lt (by omega)]

/-- Put one element behind the others. -/
def put (cap : Nat) (r : Ring α) (x : α) : Ring α :=
  { mem := Function.update r.mem ((r.head + r.len) % cap) x, head := r.head, len := r.len + 1 }

lemma turned_put (hlen : r.len < cap) (x : α) :
    ∀ i < cap, (r.put cap x).turned cap i = Function.update (r.turned cap) r.len x i := by
  intro i hi
  change Function.update r.mem ((r.head + r.len) % cap) x ((r.head + i) % cap) = _
  by_cases heq : i = r.len
  · rw [heq, Function.update_self, Function.update_self]
  · have hplace : (r.head + i) % cap ≠ (r.head + r.len) % cap := by
      intro hmod
      have hcancel : i % cap = r.len % cap := Nat.ModEq.add_left_cancel' r.head hmod
      rw [Nat.mod_eq_of_lt hi, Nat.mod_eq_of_lt hlen] at hcancel
      exact heq hcancel
    rw [Function.update_of_ne hplace, Function.update_of_ne heq]
    rfl

lemma Ok.put (hr : r.Ok cap) (hlen : r.len < cap) (x : α) : (r.put cap x).Ok cap := ⟨hr.head_lt, hlen⟩

lemma Ok.consume (hr : r.Ok cap) (k : Nat) : (r.consume cap k).Ok cap :=
  ⟨Nat.mod_lt _ (Nat.zero_lt_of_lt hr.head_lt), le_trans (Nat.sub_le _ _) hr.len_le⟩

lemma turned_consume (k i : Nat) : (r.consume cap k).turned cap i = r.turned cap (k + i) := by
  change r.mem (((r.head + k) % cap + i) % cap) = _
  rw [Nat.mod_add_mod, Nat.add_assoc]
  rfl

end Ring

end RemoteBridge
