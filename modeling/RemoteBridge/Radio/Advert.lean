import RemoteBridge.Protocol.Text
import RemoteBridge.Radio.Events

/-!
# Advertisements, read by read

`on_device`, `candidate_name` and `rc003_adapter_match` once more, as they index the data of the SDK.  A
read is `data[i]?`, so a function below returns `none` when it reads a byte that is not there; where C
stops at the first byte of a pair or of a character that does not match, the functions below read all of
it.  `DeviceInfo.readAt_eq` says that no read is outside, and that the result is the one of
`Radio.Events`, which splits the data into fields first.

The second half is about the characters of a name: `candidate_name` takes the first ones that fit
(`fitting`) when all of the text is valid (`ValidName`), and nothing otherwise.
-/

namespace RemoteBridge

open Utf8

/-! ## The reads -/

/-- What `on_device` knows when it has seen all fields; a name is its offset and its length. -/
structure AdScan where
  name : Option (Nat × Nat) := none
  hid : Bool := false
  voiceHint : Bool := false
  deriving DecidableEq, Repr

/-- The bytes from an offset on. -/
def readBytes (data : List UInt8) (p : Nat) : Nat → Option (List UInt8)
  | 0 => some []
  | n + 1 => do
    let c ← data[p]?
    let rest ← readBytes data (p + 1) n
    some (c :: rest)

section Reads

variable (data : List UInt8)

/-- The loop over the services of a field with `len` bytes at `d`. -/
def uuidLoop (d len : Nat) : Nat → Nat → AdScan → Option AdScan
  | 0, _, s => some s
  | fuel + 1, j, s =>
    if j + 1 < len then do
      let x ← data[d + j]?
      let y ← data[d + j + 1]?
      uuidLoop d len fuel (j + 2)
        { s with
          hid := s.hid || (x == 0x12 && y == 0x18)
          voiceHint := s.voiceHint || (x == 0x00 && y == 0xfd) }
    else some s

/-- A field of some type with `len` bytes at `d`. -/
def scanField (d len : Nat) (type : UInt8) (s : AdScan) : Option AdScan :=
  let s := if type = 8 ∨ type = 9 then { s with name := some (d, len) } else s
  if type = 2 ∨ type = 3 then uuidLoop data d len len 0 s else some s

/-- The loop over the fields; the inner `none` is the `return` at a field that is cut off. -/
def scanLoop : Nat → Nat → AdScan → Option (Option AdScan)
  | 0, _, s => some (some s)
  | fuel + 1, pos, s =>
    if pos < data.length then do
      let n ← data[pos]?
      if n = 0 then some (some s)
      else if pos + n.toNat + 1 > data.length then some none
      else do
        let type ← data[pos + 1]?
        let s ← scanField data (pos + 2) (n.toNat - 1) type s
        scanLoop fuel (pos + n.toNat + 1) s
    else some (some s)

/-- The loop of `candidate_name` over `n` bytes at `p`: what it has copied, and whether the text was valid. -/
def candidateNameAt (p n : Nat) : Nat → Nat → List UInt8 → Option (List UInt8 × Bool)
  | 0, _, out => some (out, true)
  | fuel + 1, i, out =>
    if i < n then do
      let c ← data[p + i]?
      match leadByte c with
      | none => some (out, false)
      | some (k, bits) =>
        if i + k > n then some (out, false)
        else do
          let rest ← readBytes data (p + i + 1) (k - 1)
          match codePoint bits rest with
          | none => some (out, false)
          | some cp =>
            if badCodePoint k cp then some (out, false)
            else candidateNameAt p n fuel (i + k) (if i + k < 48 then out ++ c :: rest else out)
    else some (out, true)

/-- A byte next to a word, unless the name ends there. -/
def readUnless (ends : Prop) [Decidable ends] (i : Nat) : Option (Option UInt8) :=
  if ends then some none else data[i]?.map some

/-- The loop of `rc003_adapter_match` over the name. -/
def matchLoop (p n : Nat) : Nat → Nat → Option Bool
  | 0, _ => some false
  | fuel + 1, i =>
    if i + 5 ≤ n then do
      let before ← readUnless data (i = 0) (p + (i - 1))
      let word ← readBytes data (p + i) 5
      let behind ← readUnless data (i + 5 = n) (p + (i + 5))
      if nameBoundary before && (word.getD 0 0 == 0x52 || word.getD 0 0 == 0x72) &&
          (word.getD 1 0 == 0x43 || word.getD 1 0 == 0x63) && (word.drop 2) == [0x30, 0x30, 0x33] &&
          nameBoundary behind then some true
      else matchLoop p n fuel (i + 1)
    else some false

/-- `rc003_adapter_match`. -/
def matchAt (name : Option (Nat × Nat)) : Option UInt8 :=
  match name with
  | none => some 0
  | some (p, n) => do
    let same ← if n = miVoiceName.length then (readBytes data p n).map (· == miVoiceName) else some false
    if same then some 1
    else do
      let found ← matchLoop data p n n 0
      some (if found then 1 else 0)

/-- `c.name` and `c.name_len`. -/
def nameAt (name : Option (Nat × Nat)) : Option (List UInt8 × UInt8) :=
  match name with
  | none => some (List.replicate 48 0, 0)
  | some (p, n) => do
    let r ← candidateNameAt data p n n 0 []
    some (r.1 ++ List.replicate (48 - r.1.length) 0, if r.2 then UInt8.ofNat r.1.length else 0)

end Reads

/-- What `on_device` takes from the data of a report. -/
structure AdReport where
  support : UInt8
  hid : Bool
  voiceHint : Bool
  name : List UInt8 × UInt8
  deriving DecidableEq, Repr

/-- The reads of `on_device`; the inner `none` is a report with a field that is cut off. -/
def DeviceInfo.readAt (info : DeviceInfo) : Option (Option AdReport) := do
  match ← scanLoop info.data info.data.length 0 {} with
  | none => some none
  | some s => do
    let support ← matchAt info.data s.name
    let name ← nameAt info.data s.name
    some (some { support := support, hid := s.hid, voiceHint := s.voiceHint, name := name })

/-- The fields of a report, unless one of them is cut off. -/
def DeviceInfo.fields (info : DeviceInfo) : Option (List (UInt8 × List UInt8)) :=
  adFields info.data.length info.data

/-- The same from the fields. -/
def adReport (fields : List (UInt8 × List UInt8)) : AdReport :=
  { support := rc003AdapterMatch (adName fields)
    hid := adService 0x12 0x18 fields
    voiceHint := adService 0x00 0xfd fields
    name := (adName fields).elim (List.replicate 48 0, 0) candidateName }

/-! ## No read is outside -/

variable {data : List UInt8}

lemma readBytes_eq {p n : Nat} (h : p + n ≤ data.length) : readBytes data p n = some ((data.drop p).take n) := by
  induction n generalizing p with
  | zero => rfl
  | succ n ih =>
    have hp : p < data.length := by omega
    rw [readBytes, List.getElem?_eq_getElem hp, ih (by omega), List.drop_eq_getElem_cons hp, List.take_succ_cons]
    rfl

/-- The text at an offset. -/
def AdScan.text (data : List UInt8) (s : AdScan) : Option (List UInt8) :=
  s.name.map fun r => (data.drop r.1).take r.2

/-- A name lies inside the data. -/
def AdScan.Inside (data : List UInt8) (s : AdScan) : Prop := ∀ r, s.name = some r → r.1 + r.2 ≤ data.length

lemma uuidLoop_eq {d len : Nat} (h : d + len ≤ data.length) (fuel j : Nat) (hfuel : len ≤ j + fuel) (s : AdScan) :
    uuidLoop data d len fuel j s = some { s with
      hid := s.hid || hasUuid 0x12 0x18 ((data.drop (d + j)).take (len - j))
      voiceHint := s.voiceHint || hasUuid 0x00 0xfd ((data.drop (d + j)).take (len - j)) } := by
  induction fuel generalizing j s with
  | zero =>
    have hend : len - j = 0 := by omega
    rw [uuidLoop, hend, List.take_zero]
    simp [hasUuid]
  | succ fuel ih =>
    rw [uuidLoop]
    by_cases hpair : j + 1 < len
    · have hx : d + j < data.length := by omega
      have hy : d + j + 1 < data.length := by omega
      obtain ⟨rest, hrest⟩ : ∃ rest, len - j = rest + 2 := ⟨len - j - 2, by omega⟩
      have hnext : len - (j + 2) = rest := by omega
      have hsplit : (data.drop (d + j)).take (len - j) =
          data[d + j] :: data[d + j + 1] :: (data.drop (d + (j + 2))).take (len - (j + 2)) := by
        rw [hrest, hnext, List.drop_eq_getElem_cons hx, List.drop_eq_getElem_cons hy, List.take_succ_cons,
          List.take_succ_cons]
        rfl
      rw [if_pos hpair, hsplit, List.getElem?_eq_getElem hx, List.getElem?_eq_getElem hy]
      simp only [Option.bind_eq_bind, Option.bind_some]
      rw [ih _ (by omega)]
      simp only [hasUuid, Bool.or_assoc]
    · have hshort : ((data.drop (d + j)).take (len - j)).length ≤ 1 := by
        have := List.length_take_le (len - j) (data.drop (d + j))
        omega
      have hnone : ∀ lo hi, hasUuid lo hi ((data.drop (d + j)).take (len - j)) = false := by
        intro lo hi
        match (data.drop (d + j)).take (len - j), hshort with
        | [], _ => rfl
        | [_], _ => rfl
      rw [if_neg hpair, hnone, hnone, Bool.or_false, Bool.or_false]

/-- A field whose type is one of the two for a local name. -/
def isName (type : UInt8) : Bool := type == 8 || type == 9

/-- A field whose type is one of the two for a list of services. -/
def isServices (type : UInt8) : Bool := type == 2 || type == 3

lemma adName_cons (f : UInt8 × List UInt8) (fields : List (UInt8 × List UInt8)) :
    adName (f :: fields) = (adName fields).or (if isName f.1 then some f.2 else none) := by
  unfold adName isName
  rw [List.filter_cons]
  by_cases hname : (f.1 == 8 || f.1 == 9) = true
  · rw [if_pos hname, if_pos hname, List.getLast?_cons]
    cases (fields.filter fun f => f.1 == 8 || f.1 == 9).getLast? <;> rfl
  · rw [if_neg hname, if_neg hname, Option.or_none]

lemma adService_cons (lo hi : UInt8) (f : UInt8 × List UInt8) (fields : List (UInt8 × List UInt8)) :
    adService lo hi (f :: fields) = (isServices f.1 && hasUuid lo hi f.2 || adService lo hi fields) := rfl

/-- One field of the data. -/
lemma adFields_cons {fuel pos : Nat} (hpos : pos < data.length) :
    adFields (fuel + 1) (data.drop pos) =
      if data[pos] = 0 then some []
      else if pos + data[pos].toNat + 1 > data.length then none
      else (adFields fuel (data.drop (pos + data[pos].toNat + 1))).map
        ((data.getD (pos + 1) 0, (data.drop (pos + 2)).take (data[pos].toNat - 1)) :: ·) := by
  have hlen : (data.drop (pos + 1)).length = data.length - (pos + 1) := List.length_drop ..
  rw [List.drop_eq_getElem_cons hpos, adFields, hlen]
  by_cases hzero : data[pos] = 0
  · rw [if_pos hzero, if_pos (by rw [hzero]; rfl)]
  · rw [if_neg hzero, if_neg (by rwa [beq_iff_eq])]
    by_cases hcut : pos + data[pos].toNat + 1 > data.length
    · rw [if_pos hcut, if_pos (by omega)]
    · have hdata : ((data.drop (pos + 1)).take data[pos].toNat).drop 1 =
          (data.drop (pos + 2)).take (data[pos].toNat - 1) := by
        rw [List.drop_take, List.drop_drop]
      have hrest : (data.drop (pos + 1)).drop data[pos].toNat = data.drop (pos + data[pos].toNat + 1) := by
        rw [List.drop_drop]
        congr 1
        omega
      have htype : (data.drop (pos + 1)).getD 0 0 = data.getD (pos + 1) 0 := by
        rw [List.getD_eq_getElem?_getD, List.getD_eq_getElem?_getD, List.getElem?_drop, Nat.add_zero]
      rw [if_neg hcut, if_neg (by omega), hdata, hrest, htype]

/-- What the scan of some fields makes of a scan. -/
def AdScan.Reads (data : List UInt8) (s s' : AdScan) (fields : List (UInt8 × List UInt8)) : Prop :=
  s'.Inside data ∧ s'.text data = (adName fields).or (s.text data) ∧
    s'.hid = (s.hid || adService 0x12 0x18 fields) ∧
    s'.voiceHint = (s.voiceHint || adService 0x00 0xfd fields)

lemma AdScan.Reads.trans {s s₁ s' : AdScan} {f : UInt8 × List UInt8} {fields : List (UInt8 × List UInt8)}
    (h₁ : s.Reads data s₁ [f]) (h : s₁.Reads data s' fields) : s.Reads data s' (f :: fields) := by
  obtain ⟨-, htext₁, hhid₁, hvoice₁⟩ := h₁
  obtain ⟨hinside, htext, hhid, hvoice⟩ := h
  have hnone : adName [] = none := rfl
  refine ⟨hinside, ?_, ?_, ?_⟩
  · rw [htext, htext₁, adName_cons, adName_cons, hnone, Option.none_or, Option.or_assoc]
  · rw [hhid, hhid₁, adService_cons, adService_cons]
    simp [adService, Bool.or_assoc]
  · rw [hvoice, hvoice₁, adService_cons, adService_cons]
    simp [adService, Bool.or_assoc]

lemma scanField_reads {d len : Nat} (h : d + len ≤ data.length) (type : UInt8) {s : AdScan} (hs : s.Inside data) :
    ∃ s', scanField data d len type s = some s' ∧ s.Reads data s' [(type, (data.drop d).take len)] := by
  have hnil : ∀ lo hi, adService lo hi [] = false := fun _ _ => rfl
  have hnone : adName [] = none := rfl
  unfold scanField AdScan.Reads
  simp only [adName_cons, adService_cons, hnil, hnone, Option.none_or, Bool.or_false]
  by_cases hname : type = 8 ∨ type = 9
  · have hservices : ¬ (type = 2 ∨ type = 3) := by rcases hname with rfl | rfl <;> decide
    have hisName : isName type = true := by rcases hname with rfl | rfl <;> rfl
    have hisServices : isServices type = false := by rcases hname with rfl | rfl <;> rfl
    rw [if_pos hname, if_neg hservices]
    refine ⟨_, rfl, ?_, ?_, ?_, ?_⟩
    · rintro r hr
      obtain rfl := Option.some.inj hr
      exact h
    · rw [hisName, if_pos rfl]
      rfl
    · rw [hisServices, Bool.false_and, Bool.or_false]
    · rw [hisServices, Bool.false_and, Bool.or_false]
  · have hisName : isName type = false := by
      rw [isName, Bool.or_eq_false_iff, beq_eq_false_iff_ne, beq_eq_false_iff_ne]
      exact not_or.mp hname
    rw [if_neg hname, hisName]
    by_cases hservices : type = 2 ∨ type = 3
    · have hisServices : isServices type = true := by rcases hservices with rfl | rfl <;> rfl
      rw [if_pos hservices, hisServices, uuidLoop_eq h len 0 (by omega)]
      exact ⟨_, rfl, hs, rfl, rfl, rfl⟩
    · have hisServices : isServices type = false := by
        rw [isServices, Bool.or_eq_false_iff, beq_eq_false_iff_ne, beq_eq_false_iff_ne]
        exact not_or.mp hservices
      rw [if_neg hservices, hisServices]
      exact ⟨s, rfl, hs, rfl, (Bool.or_false _).symm, (Bool.or_false _).symm⟩

/-- The scan of a report ends, with what its fields say. -/
lemma scanLoop_eq {fuel pos : Nat} {s : AdScan} (hs : s.Inside data) :
    (adFields fuel (data.drop pos) = none ∧ scanLoop data fuel pos s = some none) ∨
      ∃ fields s', adFields fuel (data.drop pos) = some fields ∧ scanLoop data fuel pos s = some (some s') ∧
        s.Reads data s' fields := by
  induction fuel generalizing pos s with
  | zero => exact Or.inr ⟨[], s, rfl, rfl, hs, rfl, (Bool.or_false _).symm, (Bool.or_false _).symm⟩
  | succ fuel ih =>
    have hend : s.Reads data s [] := ⟨hs, rfl, (Bool.or_false _).symm, (Bool.or_false _).symm⟩
    by_cases hpos : pos < data.length
    · rw [adFields_cons hpos, scanLoop, if_pos hpos, List.getElem?_eq_getElem hpos]
      simp only [Option.bind_eq_bind, Option.bind_some]
      by_cases hzero : data[pos] = 0
      · rw [if_pos hzero, if_pos hzero]
        exact Or.inr ⟨[], s, rfl, rfl, hend⟩
      · rw [if_neg hzero, if_neg hzero]
        by_cases hcut : pos + data[pos].toNat + 1 > data.length
        · rw [if_pos hcut, if_pos hcut]
          exact Or.inl ⟨rfl, rfl⟩
        · have hn : data[pos].toNat ≠ 0 := fun h => hzero (UInt8.toNat_inj.mp h)
          have htype : pos + 1 < data.length := by omega
          have hget : data.getD (pos + 1) 0 = data[pos + 1] := by
            rw [List.getD_eq_getElem?_getD, List.getElem?_eq_getElem htype, Option.getD_some]
          have hfits : pos + 2 + (data[pos].toNat - 1) ≤ data.length := by omega
          obtain ⟨s₁, hfield, hread⟩ := scanField_reads hfits data[pos + 1] hs
          rw [if_neg hcut, if_neg hcut, List.getElem?_eq_getElem htype, hget]
          simp only [Option.bind_some, hfield]
          rcases @ih (pos + data[pos].toNat + 1) _ hread.1 with ⟨hnone, hscan⟩ | ⟨fields, s', hfields, hscan, hrest⟩
          · exact Or.inl ⟨by rw [hnone]; rfl, hscan⟩
          · exact Or.inr ⟨_, s', by rw [hfields]; rfl, hscan, hread.trans hrest⟩
    · have hdrop : data.drop pos = [] := List.drop_eq_nil_of_le (by omega)
      rw [hdrop, scanLoop, if_neg hpos]
      exact Or.inr ⟨[], s, rfl, rfl, hend⟩

lemma leadByte_size {c : UInt8} {r : Nat × UInt32} (h : leadByte c = some r) : 1 ≤ r.1 ∧ r.1 ≤ 4 := by
  unfold leadByte at h
  split_ifs at h <;> obtain rfl := Option.some.inj h <;> simp

/-- The copy is the one of the list, behind what was copied before. -/
lemma candidateNameAt_eq {p n : Nat} (h : p + n ≤ data.length) (fuel i : Nat) (out : List UInt8) :
    candidateNameAt data p n fuel i out = some
      (out ++ (candidateNameLoop fuel i ((data.drop (p + i)).take (n - i))).1,
        (candidateNameLoop fuel i ((data.drop (p + i)).take (n - i))).2) := by
  induction fuel generalizing i out with
  | zero => rw [candidateNameAt, candidateNameLoop, List.append_nil]
  | succ fuel ih =>
    rw [candidateNameAt]
    by_cases hi : i < n
    · have hc : p + i < data.length := by omega
      obtain ⟨left, hleft⟩ : ∃ left, n - i = left + 1 := ⟨n - i - 1, by omega⟩
      have htext : (data.drop (p + i)).take (n - i) = data[p + i] :: (data.drop (p + i + 1)).take left := by
        rw [hleft, List.drop_eq_getElem_cons hc, List.take_succ_cons]
      have hlen : ((data.drop (p + i + 1)).take left).length = left := by
        rw [List.length_take, List.length_drop]
        omega
      rw [if_pos hi, htext, List.getElem?_eq_getElem hc, candidateNameLoop, hlen]
      simp only [Option.bind_eq_bind, Option.bind_some]
      cases hlead : leadByte data[p + i] with
      | none => simp only [List.append_nil]
      | some r =>
        obtain ⟨k, bits⟩ := r
        have hk := leadByte_size hlead
        dsimp only at hk ⊢
        by_cases hcut : i + k > n
        · rw [if_pos hcut, if_pos (by omega), List.append_nil]
        · have hrest : readBytes data (p + i + 1) (k - 1) = some (((data.drop (p + i + 1)).take left).take (k - 1)) := by
            rw [readBytes_eq (by omega), List.take_take, Nat.min_eq_left (by omega)]
          rw [if_neg hcut, if_neg (by omega), hrest]
          simp only [Option.bind_some]
          cases hpoint : codePoint bits (((data.drop (p + i + 1)).take left).take (k - 1)) with
          | none => simp only [List.append_nil]
          | some cp =>
            dsimp only
            by_cases hbad : badCodePoint k cp = true
            · rw [if_pos hbad, if_pos hbad, List.append_nil]
            · have hnext : ((data.drop (p + i + 1)).take left).drop (k - 1) =
                  (data.drop (p + (i + k))).take (n - (i + k)) := by
                rw [List.drop_take, List.drop_drop]
                congr 1
                · omega
                · congr 1
                  omega
              rw [if_neg hbad, if_neg hbad, ih, hnext]
              by_cases hfits : i + k < 48
              · rw [if_pos hfits, if_pos hfits, List.append_assoc]
              · rw [if_neg hfits, if_neg hfits]
    · have hnil : (data.drop (p + i)).take (n - i) = [] := by
        rw [Nat.sub_eq_zero_of_le (by omega), List.take_zero]
      rw [if_neg hi, hnil, candidateNameLoop, List.append_nil]

lemma nameAt_eq {name : Option (Nat × Nat)} (h : ∀ r, name = some r → r.1 + r.2 ≤ data.length) :
    nameAt data name = some ((name.map fun r => (data.drop r.1).take r.2).elim (List.replicate 48 0, 0)
      candidateName) := by
  cases name with
  | none => rfl
  | some r =>
    obtain ⟨p, n⟩ := r
    have hin : p + n ≤ data.length := h _ rfl
    have hlen : ((data.drop p).take n).length = n := by
      rw [List.length_take, List.length_drop]
      omega
    rw [nameAt, candidateNameAt_eq hin]
    simp only [Nat.add_zero, Nat.sub_zero, List.nil_append, Option.bind_eq_bind, Option.bind_some, Option.map_some,
      Option.elim_some, candidateName, hlen]

/-- The word of `rc003_adapter_match` at some offset of the name. -/
def isModelWord (name : List UInt8) (i : Nat) : Bool :=
  (i == 0 || nameBoundary (name[i - 1]?)) &&
    (name.getD i 0 == 0x52 || name.getD i 0 == 0x72) &&
    (name.getD (i + 1) 0 == 0x43 || name.getD (i + 1) 0 == 0x63) &&
    (name.drop (i + 2)).take 3 == [0x30, 0x30, 0x33] && nameBoundary (name[i + 5]?)

lemma rc003AdapterMatch_some (name : List UInt8) : rc003AdapterMatch (some name) =
    if name == miVoiceName || (List.range (name.length - 4)).any (isModelWord name) then 1 else 0 := rfl

lemma matchLoop_eq {p n : Nat} (h : p + n ≤ data.length) (fuel i : Nat) (hfuel : n ≤ i + fuel) :
    matchLoop data p n fuel i =
      some ((List.range' i (n - 4 - i)).any (isModelWord ((data.drop p).take n))) := by
  have hname : ((data.drop p).take n).length = n := by
    rw [List.length_take, List.length_drop]
    omega
  have hget : ∀ j, j < n → data[p + j]? = ((data.drop p).take n)[j]? := by
    intro j hj
    rw [List.getElem?_take_of_lt hj, List.getElem?_drop]
  induction fuel generalizing i with
  | zero =>
    have hend : n - 4 - i = 0 := by omega
    rw [matchLoop, hend]
    rfl
  | succ fuel ih =>
    rw [matchLoop]
    by_cases hi : i + 5 ≤ n
    · obtain ⟨left, hleft⟩ : ∃ left, n - 4 - i = left + 1 := ⟨n - 4 - i - 1, by omega⟩
      have hnext : n - 4 - (i + 1) = left := by omega
      have hbefore : readUnless data (i = 0) (p + (i - 1)) =
          some (if i = 0 then none else ((data.drop p).take n)[i - 1]?) := by
        unfold readUnless
        by_cases hzero : i = 0
        · rw [if_pos hzero, if_pos hzero]
        · have hin : p + (i - 1) < data.length := by omega
          rw [if_neg hzero, if_neg hzero, ← hget (i - 1) (by omega), List.getElem?_eq_getElem hin, Option.map_some]
      have hbehind : readUnless data (i + 5 = n) (p + (i + 5)) =
          some (((data.drop p).take n)[i + 5]?) := by
        unfold readUnless
        by_cases hlast : i + 5 = n
        · rw [if_pos hlast, List.getElem?_eq_none (by omega)]
        · have hin : p + (i + 5) < data.length := by omega
          rw [if_neg hlast, ← hget (i + 5) (by omega), List.getElem?_eq_getElem hin, Option.map_some]
      have hword : (data.drop (p + i)).take 5 = (((data.drop p).take n).drop i).take 5 := by
        rw [List.drop_take, List.take_take, List.drop_drop, Nat.min_eq_left (by omega)]
      have hfound : (nameBoundary (if i = 0 then none else ((data.drop p).take n)[i - 1]?) &&
          (((data.drop (p + i)).take 5).getD 0 0 == 0x52 || ((data.drop (p + i)).take 5).getD 0 0 == 0x72) &&
          (((data.drop (p + i)).take 5).getD 1 0 == 0x43 || ((data.drop (p + i)).take 5).getD 1 0 == 0x63) &&
          ((data.drop (p + i)).take 5).drop 2 == [0x30, 0x30, 0x33] &&
          nameBoundary (((data.drop p).take n)[i + 5]?)) = isModelWord ((data.drop p).take n) i := by
        generalize (data.drop p).take n = name at hword hname
        have hfirst : ((name.drop i).take 5).getD 0 0 = name.getD i 0 := by
          simp [List.getD_eq_getElem?_getD]
        have hsecond : ((name.drop i).take 5).getD 1 0 = name.getD (i + 1) 0 := by
          simp [List.getD_eq_getElem?_getD]
        have hdigits : ((name.drop i).take 5).drop 2 = (name.drop (i + 2)).take 3 := by
          rw [List.drop_take, List.drop_drop]
        rw [hword, hfirst, hsecond, hdigits, isModelWord]
        by_cases hzero : i = 0
        · rw [if_pos hzero, hzero]
          rfl
        · rw [if_neg hzero, beq_eq_false_iff_ne.mpr hzero, Bool.false_or]
      rw [if_pos hi, hbefore, readBytes_eq (by omega), hbehind, hleft, List.range'_succ, List.any_cons]
      simp only [Option.bind_eq_bind, Option.bind_some]
      rw [hfound, ih (i + 1) (by omega), hnext]
      cases isModelWord ((data.drop p).take n) i <;> rfl
    · have hend : n - 4 - i = 0 := by omega
      rw [if_neg hi, hend]
      rfl

lemma matchAt_eq {name : Option (Nat × Nat)} (h : ∀ r, name = some r → r.1 + r.2 ≤ data.length) :
    matchAt data name = some (rc003AdapterMatch (name.map fun r => (data.drop r.1).take r.2)) := by
  cases name with
  | none => rfl
  | some r =>
    obtain ⟨p, n⟩ := r
    have hin : p + n ≤ data.length := h _ rfl
    have hlen : ((data.drop p).take n).length = n := by
      rw [List.length_take, List.length_drop]
      omega
    rw [Option.map_some, rc003AdapterMatch_some, matchAt, hlen, List.range_eq_range', readBytes_eq hin,
      matchLoop_eq hin n 0 (by omega), Nat.sub_zero]
    generalize (data.drop p).take n = text at hlen
    by_cases hsize : n = miVoiceName.length
    · rw [if_pos hsize]
      simp only [Option.map_some, Option.bind_eq_bind, Option.bind_some]
      cases text == miVoiceName <;> rfl
    · have hne : (text == miVoiceName) = false := by
        rw [beq_eq_false_iff_ne]
        rintro rfl
        exact hsize hlen.symm
      rw [if_neg hsize, hne]
      rfl

/-- `on_device` reads nothing outside the data, and what it reads is what the fields say. -/
lemma DeviceInfo.readAt_eq (info : DeviceInfo) : info.readAt = some (info.fields.map adReport) := by
  have hinside : ({} : AdScan).Inside info.data := fun r hr => nomatch hr
  unfold DeviceInfo.readAt DeviceInfo.fields
  rcases @scanLoop_eq info.data info.data.length 0 _ hinside with
    ⟨hnone, hscan⟩ | ⟨fields, s, hfields, hscan, hin, htext, hhid, hvoice⟩
  · rw [List.drop_zero] at hnone
    rw [hscan, hnone]
    rfl
  · have htext : (s.name.map fun r => (info.data.drop r.1).take r.2) = adName fields :=
      htext.trans (Option.or_none ..)
    rw [List.drop_zero] at hfields
    rw [hscan, hfields]
    simp only [Option.bind_eq_bind, Option.bind_some]
    rw [matchAt_eq hin, nameAt_eq hin, htext, hhid, hvoice]
    rfl

/-! ## The report as it is executed -/

/-- `c` as `on_device` fills it. -/
def DeviceInfo.candidateOf (info : DeviceInfo) (r : AdReport) (i : Nat) (fresh : Bool) : Candidate :=
  let default := defaultName r.support r.hid
  let shown := if r.name.2 == 0 && fresh then (copyName r.name.1 48 default, UInt8.ofNat default.length)
    else if r.name.2 == 0 then (r.name.1.set 0 0, 0)
    else r.name
  { candidateId := UInt32.ofNat (i + 1)
    support := r.support
    signal := if info.rssi > -60 then 3 else if info.rssi > -75 then 2 else 1
    name := shown.1
    nameLen := shown.2 }

/-- `on_device` with its reads; `none` is a read outside the data. -/
def onDeviceAt (sdk : Sdk) (info : DeviceInfo) (w : World Radio) : Option (World Radio) :=
  let c := w.env.central
  if c.wcState = .resolve then some (resolveAdvertisement sdk info.addr info.addrType info.eventType w)
  else if c.wcState ≠ .scan then some w
  else
    match info.readAt with
    | none => none
    | some none => some w
    | some (some r) =>
      match c.candidates.findIdx? fun k => k.2 == info.addrType && List.ofFn k.1 == List.ofFn info.addr with
      | some i => some (onScanCandidate (info.candidateOf r i false) w)
      | none =>
        let discoverable := info.eventType == 0 || info.eventType == 4
        if !(discoverable && (r.support != 0 || r.hid || r.voiceHint || r.name.2 != 0)) ||
            c.candidates.length == maxCand then some w
        else
          some (onScanCandidate (info.candidateOf r c.candidates.length true)
            (w.tune fun c => { c with candidates := c.candidates ++ [(info.addr, info.addrType)] }))

lemma admitted_eq (info : DeviceInfo) (fields : List (UInt8 × List UInt8)) :
    info.admitted fields = ((info.eventType == 0 || info.eventType == 4) &&
      ((adReport fields).support != 0 || (adReport fields).hid || (adReport fields).voiceHint ||
        (adReport fields).name.2 != 0)) := by
  unfold DeviceInfo.admitted adReport
  cases adName fields <;> rfl

/-- No read of `on_device` is outside the data of its report. -/
lemma onDeviceAt_eq (sdk : Sdk) (info : DeviceInfo) (w : World Radio) :
    onDeviceAt sdk info w = some (onDevice sdk info w) := by
  unfold onDeviceAt onDevice
  dsimp only
  rw [info.readAt_eq]
  by_cases hresolve : w.env.central.wcState = .resolve
  · rw [if_pos hresolve, if_pos hresolve]
  · rw [if_neg hresolve, if_neg hresolve]
    by_cases hscan : w.env.central.wcState ≠ .scan
    · rw [if_pos hscan, if_pos hscan]
    · rw [if_neg hscan, if_neg hscan]
      unfold DeviceInfo.fields
      cases adFields info.data.length info.data with
      | none => rfl
      | some fields =>
        simp only [Option.map_some, admitted_eq]
        cases w.env.central.candidates.findIdx? fun k =>
            k.2 == info.addrType && List.ofFn k.1 == List.ofFn info.addr with
        | some i => rfl
        | none => exact (apply_ite some _ _ _).symm

/-! ## The characters of a name -/

lemma nameLead_eq (c : UInt8) : nameLead c = (leadByte c).map fun r => (r.2.toNat, r.1) := by
  revert c
  decide +kernel

lemma codePoint_cons (cp : UInt32) (b : UInt8) (rest : List UInt8) :
    codePoint cp (b :: rest) =
      if b &&& 0xC0 ≠ 0x80 then none else codePoint ((cp <<< 6) ||| (b.toUInt32 &&& 63)) rest := by
  unfold codePoint
  rw [List.any_cons, List.foldl_cons]
  by_cases hb : b &&& 0xC0 = 0x80
  · have hok : (b &&& 0xC0 != 0x80) = false := bne_eq_false_iff_eq.mpr hb
    rw [hok, Bool.false_or, if_neg (not_not_intro hb)]
  · have hbad : (b &&& 0xC0 != 0x80) = true := bne_iff_ne.mpr hb
    rw [hbad, Bool.true_or, if_pos rfl, if_pos hb]

/-- Six more bits do not overflow. -/
lemma toNat_append_bits {cp : UInt32} (b : UInt8) (h : cp.toNat < 2 ^ 26) :
    ((cp <<< 6) ||| (b.toUInt32 &&& 63)).toNat = cp.toNat <<< 6 ||| (b &&& 0x3F).toNat := by
  have hshift : (cp <<< 6).toNat = cp.toNat <<< 6 := by
    rw [UInt32.toNat_shiftLeft]
    have hsix : (6 : UInt32).toNat % 32 = 6 := rfl
    rw [hsix, Nat.shiftLeft_eq]
    omega
  have hbyte : (b.toUInt32 &&& 63).toNat = (b &&& 0x3F).toNat := by
    rw [UInt32.toNat_and, UInt8.toNat_and, UInt8.toNat_toUInt32]
    rfl
  rw [UInt32.toNat_or, hshift, hbyte]

/-- The two loops over the continuation bytes. -/
lemma utf8Tail_eq {n : Nat} {cp : UInt32} {s : List UInt8} (h : (cp.toNat + 1) * 64 ^ n ≤ 2 ^ 32) :
    utf8Tail n cp.toNat s =
      if s.length < n then none else (codePoint cp (s.take n)).map fun cp => (cp.toNat, s.drop n) := by
  induction n generalizing cp s with
  | zero => rfl
  | succ n ih =>
    cases s with
    | nil => rfl
    | cons b s =>
      have hlarge : (cp.toNat + 1) * 64 * 64 ^ n ≤ 2 ^ 32 := by
        rw [Nat.mul_assoc, Nat.mul_comm 64, ← Nat.pow_succ]
        exact h
      have hpow : 1 ≤ 64 ^ n := Nat.one_le_pow _ _ (by decide)
      have hsmall : (cp.toNat + 1) * 64 ≤ 2 ^ 32 := Nat.le_trans (Nat.le_mul_of_pos_right _ hpow) hlarge
      have hbound : cp.toNat < 2 ^ 26 := by omega
      have hnat := toNat_append_bits b hbound
      rw [utf8Tail, List.take_succ_cons, List.drop_succ_cons, codePoint_cons, List.length_cons]
      by_cases hb : b &&& 0xC0 = 0x80
      · have hnext : ((((cp <<< 6) ||| (b.toUInt32 &&& 63)).toNat) + 1) * 64 ^ n ≤ 2 ^ 32 := by
          refine Nat.le_trans (Nat.mul_le_mul_right _ ?_) hlarge
          rw [hnat, append_bits]
          omega
        rw [if_neg (not_not_intro hb), if_neg (not_not_intro hb), ← hnat, ih hnext]
        exact if_congr (by omega) rfl rfl
      · rw [if_pos hb, if_pos hb]
        exact (ite_self _).symm

lemma badCodePoint_iff {k : Nat} {cp : UInt32} : badCodePoint k cp = true ↔
    k = 3 ∧ cp.toNat < 0x800 ∨ k = 4 ∧ cp.toNat < 0x10000 ∨ cp.toNat > 0x10ffff ∨
      cp.toNat ≥ 0xd800 ∧ cp.toNat ≤ 0xdfff := by
  unfold badCodePoint
  simp only [Bool.or_eq_true, Bool.and_eq_true, beq_iff_eq, decide_eq_true_eq, UInt32.lt_iff_toNat_lt,
    UInt32.le_iff_toNat_le, gt_iff_lt, UInt32.reduceToNat, or_assoc, ge_iff_le]

lemma leadByte_small {c : UInt8} {r : Nat × UInt32} (h : leadByte c = some r) :
    (r.2.toNat + 1) * 64 ^ (r.1 - 1) ≤ 2 ^ 32 := by
  have hall : ∀ c : UInt8, (leadByte c).all fun r => decide ((r.2.toNat + 1) * 64 ^ (r.1 - 1) ≤ 2 ^ 32) := by
    decide +kernel
  have hc := hall c
  rw [h] at hc
  exact of_decide_eq_true hc

/-- One turn of the loop over a name. -/
lemma nameNext_eq (c : UInt8) (s : List UInt8) : nameNext c s =
    (leadByte c).bind fun r =>
      if s.length < r.1 - 1 then none
      else (codePoint r.2 (s.take (r.1 - 1))).bind fun cp =>
        if badCodePoint r.1 cp then none else some (cp.toNat, s.drop (r.1 - 1)) := by
  unfold nameNext
  rw [nameLead_eq]
  cases hlead : leadByte c with
  | none => rfl
  | some r =>
    obtain ⟨k, bits⟩ := r
    simp only [Option.map_some, Option.bind_some]
    rw [utf8Tail_eq (leadByte_small hlead)]
    by_cases hshort : s.length < k - 1
    · rw [if_pos hshort, if_pos hshort]
    · rw [if_neg hshort, if_neg hshort]
      cases codePoint bits (s.take (k - 1)) with
      | none => rfl
      | some cp =>
        simp only [Option.map_some, Option.bind_some]
        exact if_congr badCodePoint_iff.symm rfl rfl

/-- The loop over a name reads the characters from the space on. -/
lemma reads_nameNext : Reads nameNext IsNamePoint where
  sound := nameNext_sound
  complete := by
    intro c s v t hv henc
    obtain ⟨hlo, hle, hsurrogate⟩ := hv
    have hge : ∀ n : UInt8, c ≥ n ↔ n.toNat ≤ c.toNat := fun n => Iff.rfl
    have hle' : ∀ n : UInt8, c ≤ n ↔ c.toNat ≤ n.toNat := fun n => Iff.rfl
    have hlt : ∀ n : UInt8, c < n ↔ c.toNat < n.toNat := fun n => Iff.rfl
    unfold nameNext nameLead
    rw [toNat_and_31, toNat_and_15, toNat_and_7]
    simp only [hge, hle', hlt, UInt8.reduceToNat]
    simp only [IsSurrogate] at hsurrogate
    obtain ⟨h1, h2, h3⟩ | ⟨h1, h2, h3, h4⟩ | ⟨h1, h2, h3, h4⟩ | ⟨h1, h2, h3⟩ := lead_cases hle henc
    · have htail : utf8Tail (1 - 1) c.toNat s = some (c.toNat, s) := rfl
      rw [if_neg (by omega), if_neg (by omega), if_neg (by omega), if_neg (by omega)]
      dsimp only
      rw [htail]
      dsimp only
      rw [if_neg (by omega), h2, h3]
    · rw [if_pos (by omega)]
      dsimp only
      rw [(two_bytes h3 h4).mpr ⟨h1, h2, henc⟩]
      dsimp only
      rw [if_neg (by omega)]
    · rw [if_neg (by omega), if_pos (by omega)]
      dsimp only
      rw [(three_bytes h3 h4 h1).mpr ⟨h2, henc⟩]
      dsimp only
      rw [if_neg (by omega)]
    · rw [if_neg (by omega), if_neg (by omega), if_pos (by omega)]
      dsimp only
      rw [(four_bytes h2 h3 h1 hle).mpr henc]
      dsimp only
      rw [if_neg (by omega)]

/-- The text of a name that counts: characters from the space on, and at least one of them. -/
def ValidName (text : List UInt8) : Prop :=
  ∃ vs, vs ≠ [] ∧ (∀ v ∈ vs, IsNamePoint v) ∧ encodePoints vs = text

/-- The first characters that take up at most `room` bytes. -/
def fitting (room : Nat) : List Nat → List Nat
  | [] => []
  | v :: vs =>
    if (encodePoint v).length ≤ room then v :: fitting (room - (encodePoint v).length) vs else []

lemma fitting_zero (vs : List Nat) : fitting 0 vs = [] := by
  cases vs with
  | nil => rfl
  | cons v vs =>
    have hpos := length_encodePoint_pos v
    rw [fitting, if_neg (by omega)]

lemma exists_fitting_append (room : Nat) (vs : List Nat) : ∃ ws, vs = fitting room vs ++ ws ∧
    ∀ w ∈ ws.head?, room < (encodePoints (fitting room vs)).length + (encodePoint w).length := by
  induction vs generalizing room with
  | nil => exact ⟨[], rfl, fun w hw => nomatch hw⟩
  | cons v vs ih =>
    rw [fitting]
    by_cases hfits : (encodePoint v).length ≤ room
    · obtain ⟨ws, hws, hnext⟩ := ih (room - (encodePoint v).length)
      rw [if_pos hfits]
      refine ⟨ws, by rw [List.cons_append, ← hws], fun w hw => ?_⟩
      have hlater := hnext w hw
      rw [encodePoints, List.flatMap_cons, List.length_append]
      change _ < _ + (encodePoints _).length + _
      omega
    · rw [if_neg hfits]
      refine ⟨v :: vs, rfl, fun w hw => ?_⟩
      obtain rfl := Option.some.inj hw
      change room < 0 + _
      omega

lemma length_fitting (room : Nat) (vs : List Nat) : (encodePoints (fitting room vs)).length ≤ room := by
  induction vs generalizing room with
  | nil => exact Nat.zero_le _
  | cons v vs ih =>
    rw [fitting]
    by_cases hfits : (encodePoint v).length ≤ room
    · have hrest := ih (room - (encodePoint v).length)
      rw [if_pos hfits, encodePoints, List.flatMap_cons, List.length_append]
      exact Nat.le_trans (Nat.add_le_add_left hrest _) (by omega)
    · rw [if_neg hfits]
      exact Nat.zero_le _

/-- A turn of the loop that reads a character. -/
lemma candidateNameLoop_next {c : UInt8} {s t : List UInt8} {v : Nat} (h : nameNext c s = some (v, t))
    (fuel i : Nat) : candidateNameLoop (fuel + 1) i (c :: s) =
      (if i + (encodePoint v).length < 48 then encodePoint v ++ (candidateNameLoop fuel (i + (encodePoint v).length) t).1
        else (candidateNameLoop fuel (i + (encodePoint v).length) t).1,
        (candidateNameLoop fuel (i + (encodePoint v).length) t).2) := by
  have henc := (nameNext_sound h).2
  rw [nameNext_eq] at h
  rw [candidateNameLoop]
  cases hlead : leadByte c with
  | none => rw [hlead] at h; exact absurd h (by simp)
  | some r =>
    obtain ⟨k, bits⟩ := r
    have hk := leadByte_size hlead
    rw [hlead] at h
    dsimp only [Option.bind_some] at h hk ⊢
    by_cases hshort : s.length < k - 1
    · rw [if_pos hshort] at h
      exact absurd h (by simp)
    · rw [if_neg hshort] at h ⊢
      cases hpoint : codePoint bits (s.take (k - 1)) with
      | none => rw [hpoint] at h; exact absurd h (by simp)
      | some cp =>
        rw [hpoint] at h
        dsimp only [Option.bind_some] at h ⊢
        by_cases hbad : badCodePoint k cp = true
        · rw [if_pos hbad] at h
          exact absurd h (by simp)
        · rw [if_neg hbad] at h ⊢
          obtain ⟨-, rfl⟩ := Prod.mk.inj (Option.some.inj h)
          have hchar : encodePoint v = c :: s.take (k - 1) := by
            have hsplit : encodePoint v ++ s.drop (k - 1) = (c :: s.take (k - 1)) ++ s.drop (k - 1) := by
              rw [henc, List.cons_append, List.take_append_drop]
            exact List.append_cancel_right hsplit
          have hlen : (encodePoint v).length = k := by
            rw [hchar, List.length_cons, List.length_take]
            omega
          rw [hlen, hchar]

/-- A turn of the loop that reads none. -/
lemma candidateNameLoop_stop {c : UInt8} {s : List UInt8} (h : nameNext c s = none) (fuel i : Nat) :
    candidateNameLoop (fuel + 1) i (c :: s) = ([], false) := by
  rw [nameNext_eq] at h
  rw [candidateNameLoop]
  cases hlead : leadByte c with
  | none => rfl
  | some r =>
    obtain ⟨k, bits⟩ := r
    rw [hlead] at h
    dsimp only [Option.bind_some] at h ⊢
    by_cases hshort : s.length < k - 1
    · rw [if_pos hshort]
    · rw [if_neg hshort] at h ⊢
      cases hpoint : codePoint bits (s.take (k - 1)) with
      | none => rfl
      | some cp =>
        rw [hpoint] at h
        dsimp only [Option.bind_some] at h ⊢
        by_cases hbad : badCodePoint k cp = true
        · rw [if_pos hbad]
        · rw [if_neg hbad] at h
          exact absurd h (by simp)

lemma candidateNameLoop_valid {vs : List Nat} (hvs : ∀ v ∈ vs, IsNamePoint v) {fuel : Nat}
    (hfuel : (encodePoints vs).length ≤ fuel) (i : Nat) :
    candidateNameLoop fuel i (encodePoints vs) = (encodePoints (fitting (47 - i) vs), true) := by
  induction vs generalizing fuel i with
  | nil => cases fuel <;> rfl
  | cons v vs ih =>
    have hpos := length_encodePoint_pos v
    have hsplit : encodePoints (v :: vs) = encodePoint v ++ encodePoints vs := rfl
    rw [hsplit, List.length_append] at hfuel
    obtain ⟨c, s, hcs⟩ := List.exists_cons_of_ne_nil (encodePoint_ne_nil v)
    have hnext : nameNext c (s ++ encodePoints vs) = some (v, encodePoints vs) :=
      reads_nameNext.complete (hvs v (List.mem_cons_self ..)) (by rw [hcs, List.cons_append])
    obtain ⟨fuel, rfl⟩ : ∃ left, fuel = left + 1 := ⟨fuel - 1, by omega⟩
    have hleft : (encodePoints vs).length ≤ fuel := by omega
    have hrest := ih (fun v hv => hvs v (List.mem_cons_of_mem _ hv)) hleft (i + (encodePoint v).length)
    rw [hsplit, hcs, List.cons_append, candidateNameLoop_next hnext, hrest, fitting, ← Nat.sub_sub]
    by_cases hfits : i + (encodePoint v).length < 48
    · rw [if_pos hfits, if_pos (by omega)]
      rfl
    · have hroom : 47 - i - (encodePoint v).length = 0 := by omega
      rw [if_neg hfits, if_neg (by omega), hroom, fitting_zero]

lemma candidateNameLoop_invalid {s : List UInt8} {fuel : Nat} (hfuel : s.length ≤ fuel) (i : Nat)
    (h : ¬ ∃ vs, (∀ v ∈ vs, IsNamePoint v) ∧ encodePoints vs = s) : (candidateNameLoop fuel i s).2 = false := by
  induction fuel generalizing i s with
  | zero => exact absurd ⟨[], by simp, (List.length_eq_zero_iff.mp (Nat.le_zero.mp hfuel)).symm⟩ h
  | succ fuel ih =>
    cases s with
    | nil => exact absurd ⟨[], by simp, rfl⟩ h
    | cons c s =>
      rw [List.length_cons] at hfuel
      cases hnext : nameNext c s with
      | none => rw [candidateNameLoop_stop hnext]
      | some r =>
        obtain ⟨v, t⟩ := r
        have hshort := reads_nameNext.shorter hnext
        rw [candidateNameLoop_next hnext]
        exact ih (by omega) _ fun hrest => h (reads_nameNext.step.mpr ⟨v, t, hnext, hrest⟩)

/-- The first characters of a text, as many as fit before the NUL of a buffer of 48 bytes. -/
def NameCut (name text : List UInt8) : Prop :=
  ∃ vs ws, (∀ v ∈ vs ++ ws, IsNamePoint v) ∧ encodePoints (vs ++ ws) = text ∧ encodePoints vs = name ∧
    name ≠ [] ∧ name.length ≤ 47 ∧ ∀ w ∈ ws.head?, 47 < name.length + (encodePoint w).length

lemma length_encodePoint_le (v : Nat) : (encodePoint v).length ≤ 4 := by
  unfold encodePoint
  split_ifs <;> simp

lemma candidateName_valid {text : List UInt8} (h : ValidName text) :
    ∃ name, NameCut name text ∧
      candidateName text = (name ++ List.replicate (48 - name.length) 0, UInt8.ofNat name.length) := by
  obtain ⟨vs, hne, hvs, rfl⟩ := h
  obtain ⟨ws, hws, hnext⟩ := exists_fitting_append 47 vs
  refine ⟨encodePoints (fitting 47 vs), ⟨fitting 47 vs, ws, ?_, ?_, rfl, ?_, length_fitting 47 vs, hnext⟩, ?_⟩
  · rw [← hws]
    exact hvs
  · rw [← hws]
  · obtain ⟨v, rest, rfl⟩ := List.exists_cons_of_ne_nil hne
    have hfits := length_encodePoint_le v
    rw [fitting, if_pos (by omega), encodePoints, List.flatMap_cons]
    exact fun hnil => encodePoint_ne_nil v (List.append_eq_nil_iff.mp hnil).1
  · unfold candidateName
    rw [candidateNameLoop_valid hvs le_rfl 0]
    rfl

lemma candidateName_invalid {text : List UInt8} (h : ¬ ValidName text) : (candidateName text).2 = 0 := by
  unfold candidateName
  by_cases hpoints : ∃ vs, (∀ v ∈ vs, IsNamePoint v) ∧ encodePoints vs = text
  · obtain ⟨vs, hvs, rfl⟩ := hpoints
    have hnil : vs = [] := by
      by_contra hne
      exact h ⟨vs, hne, hvs, rfl⟩
    rw [hnil]
    rfl
  · dsimp only
    rw [candidateNameLoop_invalid le_rfl 0 hpoints]
    rfl

lemma zero_notMem_of_nameCut {name text : List UInt8} (h : NameCut name text) : 0 ∉ name := by
  obtain ⟨vs, ws, hvs, -, rfl, -⟩ := h
  intro hzero
  obtain ⟨v, hv, hmem⟩ := List.mem_flatMap.mp hzero
  obtain ⟨hlo, hle, -⟩ := hvs v (List.mem_append_left _ hv)
  rw [zero_mem_encodePoint hle] at hmem
  omega

end RemoteBridge
