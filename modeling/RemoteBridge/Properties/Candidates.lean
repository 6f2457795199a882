import RemoteBridge.Properties.KeyCatalog
import RemoteBridge.Properties.RadioOwnership
import RemoteBridge.Radio.Advert

/-!
# The candidates of a search

The radio and the server keep a table of candidates each: the radio that of the addresses, which
`PAIR_BEGIN` reads, and the server that of the entries, which `FIND_LIST` sends.  A search starts with
both of them empty, and `Tables` says that from then on they go together, slot by slot.

The name of a candidate is that of the last report with a valid one.  Reports count from the one that
admits the device on: a report that is neither connectable nor a scan response leaves no trace of a device
that is not listed yet, not even of its name.  In one report the last of the name fields counts, and a
report with a field that is cut off counts for nothing.
-/

namespace RemoteBridge

open Utf8 World

/-! ## A report -/

namespace DeviceInfo

variable (info : DeviceInfo)

/-- Who sent it. -/
def device : BdAddr × UInt8 := (info.addr, info.addrType)

/-- The local name in it. -/
def localName : Option (List UInt8) := info.fields.bind adName

/-- It admits a device that is not listed. -/
def Admits : Prop := ∃ fields, info.fields = some fields ∧ info.admitted fields = true

/-- The name that a device gets which it admits without a valid one. -/
def defaultName : List UInt8 :=
  RemoteBridge.defaultName (rc003AdapterMatch info.localName)
    (info.fields.any fun fields => adService 0x12 0x18 fields)

end DeviceInfo

/-- The last valid name that a device has advertised. -/
def LastName (device : BdAddr × UInt8) (reports : List DeviceInfo) (text : List UInt8) : Prop :=
  ∃ before r after, reports = before ++ r :: after ∧ r.device = device ∧ r.localName = some text ∧ ValidName text ∧
    ∀ r' ∈ after, r'.device = device → ∀ text', r'.localName = some text' → ¬ ValidName text'

/-- It has advertised none. -/
def NoName (device : BdAddr × UInt8) (reports : List DeviceInfo) : Prop :=
  ∀ r ∈ reports, r.device = device → ∀ text, r.localName = some text → ¬ ValidName text

/-- What is shown of a device: from the report that admits it on, its last valid name cut to the size of
the buffer, or the name that belongs to that report. -/
def Named (device : BdAddr × UInt8) (reports : List DeviceInfo) (name : List UInt8) : Prop :=
  ∃ before first after, reports = before ++ first :: after ∧ first.device = device ∧ first.Admits ∧
    (∀ r ∈ before, r.device = device → ¬ r.Admits) ∧
    ((∃ text, LastName device (first :: after) text ∧ NameCut name text) ∨
      (NoName device (first :: after) ∧ name = first.defaultName))

section Names

variable {device : BdAddr × UInt8} {reports : List DeviceInfo} {r : DeviceInfo} {name text : List UInt8}

lemma LastName.silent (h : LastName device reports text)
    (hr : r.device = device → ∀ text', r.localName = some text' → ¬ ValidName text') :
    LastName device (reports ++ [r]) text := by
  obtain ⟨before, r₀, after, rfl, hdevice, hname, hvalid, hlast⟩ := h
  refine ⟨before, r₀, after ++ [r], by simp, hdevice, hname, hvalid, ?_⟩
  intro r' hr'
  rcases List.mem_append.mp hr' with hr' | hr'
  · exact hlast r' hr'
  · rw [List.mem_singleton.mp hr']
    exact hr

/-- A report without a valid name of the device changes nothing. -/
lemma Named.silent (h : Named device reports name)
    (hr : r.device = device → ∀ text', r.localName = some text' → ¬ ValidName text') :
    Named device (reports ++ [r]) name := by
  obtain ⟨before, first, after, rfl, hdevice, hadmits, hbefore, hname⟩ := h
  refine ⟨before, first, after ++ [r], by simp, hdevice, hadmits, hbefore, ?_⟩
  rcases hname with ⟨text, hlast, hcut⟩ | ⟨hnone, hname⟩
  · exact Or.inl ⟨text, hlast.silent hr, hcut⟩
  · refine Or.inr ⟨?_, hname⟩
    intro r' hr'
    rw [← List.cons_append] at hr'
    rcases List.mem_append.mp hr' with hr' | hr'
    · exact hnone r' hr'
    · rw [List.mem_singleton.mp hr']
      exact hr

/-- A report with a valid one replaces the name. -/
lemma Named.renamed (h : Named device reports name) (hdevice : r.device = device) (htext : r.localName = some text)
    (hvalid : ValidName text) {name' : List UInt8} (hcut : NameCut name' text) :
    Named device (reports ++ [r]) name' := by
  obtain ⟨before, first, after, rfl, hfirst, hadmits, hbefore, -⟩ := h
  refine ⟨before, first, after ++ [r], by simp, hfirst, hadmits, hbefore, Or.inl ⟨text, ?_, hcut⟩⟩
  exact ⟨first :: after, r, [], by simp, hdevice, htext, hvalid, fun r' hr' => nomatch hr'⟩

end Names

/-! ## An entry -/

/-- The entry shows a name. -/
structure Candidate.Shows (c : Candidate) (name : List UInt8) : Prop where
  text : cText c.name = name
  len : c.nameLen.toNat = name.length
  short : name.length ≤ 47

lemma cText_copyName {dst src : List UInt8} (h : (cText src).length ≤ 47) :
    cText (copyName dst 48 src) = cText src := by
  have hne : ∀ c ∈ src.takeWhile (· != 0), (c != 0) = true := by
    intro c hc
    exact List.mem_takeWhile_imp (p := fun c => c != 0) hc
  unfold copyName
  rw [List.take_of_length_le (by exact h), List.append_assoc, cText, List.takeWhile_append_of_pos hne]
  simp [cText]

namespace Candidate

variable {c new : Candidate} {name : List UInt8}

lemma Shows.taken (h : c.Shows name) : c.name.take c.nameLen.toNat = name := by
  have hprefix : cText c.name <+: c.name := List.takeWhile_prefix _
  obtain ⟨rest, hrest⟩ := hprefix
  rw [h.text] at hrest
  rw [h.len, ← hrest, List.take_left]

lemma Shows.copied (h : c.Shows name) (dst : List UInt8) : ({ c with name := copyName dst 48 c.name } : Candidate).Shows name := by
  have hshort : (cText c.name).length ≤ 47 := by
    rw [h.text]
    exact h.short
  exact ⟨(cText_copyName hshort).trans h.text, h.len, h.short⟩

lemma Shows.refresh (h : new.Shows name) (hne : new.nameLen ≠ 0) : (c.refresh new).Shows name := by
  have hshort : (cText new.name).length ≤ 47 := by
    rw [h.text]
    exact h.short
  unfold Candidate.refresh
  rw [bne_iff_ne.mpr hne]
  simp only [if_true]
  exact ⟨(cText_copyName hshort).trans h.text, h.len, h.short⟩

lemma Shows.kept (h : c.Shows name) (hzero : new.nameLen = 0) : (c.refresh new).Shows name := by
  unfold Candidate.refresh
  rw [hzero, bne_self_eq_false]
  exact ⟨h.text, h.len, h.short⟩

end Candidate

section Reported

variable {info : DeviceInfo} {fields : List (UInt8 × List UInt8)} (i : Nat) (fresh : Bool)

/-- What a report says apart from the name. -/
lemma candidate_plain : (info.candidate fields i fresh).candidateId = UInt32.ofNat (i + 1) ∧
    (info.candidate fields i fresh).support = rc003AdapterMatch (adName fields) := ⟨rfl, rfl⟩

lemma candidate_valid {text : List UInt8} (hname : adName fields = some text) (hvalid : ValidName text) :
    ∃ name, NameCut name text ∧ (info.candidate fields i fresh).Shows name ∧
      (info.candidate fields i fresh).nameLen ≠ 0 := by
  obtain ⟨name, hcut, heq⟩ := candidateName_valid hvalid
  have hzero := zero_notMem_of_nameCut hcut
  obtain ⟨vs, ws, hvs, htext, henc, hne, hshort, hlast⟩ := hcut
  have hlen : (UInt8.ofNat name.length).toNat = name.length :=
    UInt8.toNat_ofNat_of_lt' (Nat.lt_of_le_of_lt hshort (by decide))
  have hpos : 0 < name.length := List.length_pos_iff.mpr hne
  have hnonzero : (UInt8.ofNat name.length == 0) = false := by
    rw [beq_eq_false_iff_ne]
    intro h
    have hnat := congrArg UInt8.toNat h
    rw [hlen] at hnat
    change name.length = 0 at hnat
    omega
  have hcandidate : (info.candidate fields i fresh).name = name ++ List.replicate (48 - name.length) 0 ∧
      (info.candidate fields i fresh).nameLen = UInt8.ofNat name.length := by
    unfold DeviceInfo.candidate
    rw [hname, Option.elim_some, heq]
    simp only [hnonzero, Bool.false_and, Bool.false_eq_true, if_false, and_self]
  refine ⟨name, ⟨vs, ws, hvs, htext, henc, hne, hshort, hlast⟩, ⟨?_, ?_, hshort⟩, ?_⟩
  · have hall : ∀ c ∈ name, (c != 0) = true := by
      intro c hc
      rw [bne_iff_ne]
      rintro rfl
      exact hzero hc
    rw [hcandidate.1, cText, List.takeWhile_append_of_pos hall]
    obtain ⟨room, hroom⟩ : ∃ room, 48 - name.length = room + 1 := ⟨47 - name.length, by omega⟩
    rw [hroom, List.replicate_succ]
    simp
  · rw [hcandidate.2, hlen]
  · rw [hcandidate.2]
    exact beq_eq_false_iff_ne.mp hnonzero

/-- What `candidate_name` leaves of a report without a valid name. -/
lemma exists_invalid (hnone : ∀ text, adName fields = some text → ¬ ValidName text) :
    ∃ buf, (adName fields).elim (List.replicate 48 0, (0 : UInt8)) candidateName = (buf, 0) := by
  cases hname : adName fields with
  | none => exact ⟨_, rfl⟩
  | some text => exact ⟨(candidateName text).1, Prod.ext rfl (candidateName_invalid (hnone text hname))⟩

lemma candidate_silent (hnone : ∀ text, adName fields = some text → ¬ ValidName text) :
    (info.candidate fields i false).nameLen = 0 := by
  obtain ⟨buf, hbuf⟩ := exists_invalid hnone
  unfold DeviceInfo.candidate
  rw [hbuf]
  rfl

lemma candidate_default (hnone : ∀ text, adName fields = some text → ¬ ValidName text) :
    (info.candidate fields i true).Shows
      (defaultName (rc003AdapterMatch (adName fields)) (adService 0x12 0x18 fields)) := by
  obtain ⟨buf, hbuf⟩ := exists_invalid hnone
  have hcandidate : (info.candidate fields i true).name =
        copyName buf 48 (defaultName (rc003AdapterMatch (adName fields)) (adService 0x12 0x18 fields)) ∧
      (info.candidate fields i true).nameLen = UInt8.ofNat
        (defaultName (rc003AdapterMatch (adName fields)) (adService 0x12 0x18 fields)).length := by
    unfold DeviceInfo.candidate
    rw [hbuf]
    exact ⟨rfl, rfl⟩
  have hdefaults : ∀ support hid, cText (defaultName support hid) = defaultName support hid ∧
      (defaultName support hid).length ≤ 19 := by
    intro support hid
    unfold defaultName
    split_ifs <;> decide
  obtain ⟨htext, hlen⟩ := hdefaults (rc003AdapterMatch (adName fields)) (adService 0x12 0x18 fields)
  refine ⟨?_, ?_, by omega⟩
  · rw [hcandidate.1, cText_copyName (by rw [htext]; omega), htext]
  · rw [hcandidate.2]
    exact UInt8.toNat_ofNat_of_lt' (Nat.lt_of_le_of_lt hlen (by decide))

end Reported

/-! ## The two tables -/

/-- The entry of a device in slot `i`. -/
structure Listed (reports : List DeviceInfo) (device : BdAddr × UInt8) (i : Nat) (c : Candidate) : Prop where
  id : c.candidateId = UInt32.ofNat (i + 1)
  support : c.support.toNat ≤ 1
  named : ∃ name, c.Shows name ∧ Named device reports name

/-- The tables after the reports of a search. -/
structure Tables (reports : List DeviceInfo) (candidates : List (BdAddr × UInt8)) (cand : List Candidate) : Prop where
  length : cand.length = candidates.length
  small : candidates.length ≤ maxCand
  nodup : candidates.Nodup
  listed : ∀ i device c, candidates[i]? = some device → cand[i]? = some c → Listed reports device i c
  admitted : ∀ r ∈ reports, r.Admits → r.device ∈ candidates ∨ candidates.length = maxCand

section Step

variable {reports : List DeviceInfo} {candidates : List (BdAddr × UInt8)} {cand : List Candidate}
  {info : DeviceInfo} {fields : List (UInt8 × List UInt8)} {i : Nat}

lemma Listed.silent {device : BdAddr × UInt8} {c : Candidate} (h : Listed reports device i c)
    (hr : info.device = device → ∀ text, info.localName = some text → ¬ ValidName text) :
    Listed (reports ++ [info]) device i c := by
  obtain ⟨name, hshows, hnamed⟩ := h.named
  exact ⟨h.id, h.support, name, hshows, hnamed.silent hr⟩

lemma ofNat_id_inj {i j : Nat} (hi : i ≤ maxCand) (hj : j ≤ maxCand)
    (h : UInt32.ofNat (i + 1) = UInt32.ofNat (j + 1)) : i = j := by
  have hnat := congrArg UInt32.toNat h
  have hlt : maxCand + 1 < UInt32.size := by decide
  rw [UInt32.toNat_ofNat_of_lt' (Nat.lt_of_le_of_lt (Nat.succ_le_succ hi) hlt),
    UInt32.toNat_ofNat_of_lt' (Nat.lt_of_le_of_lt (Nat.succ_le_succ hj) hlt)] at hnat
  omega

namespace Tables

lemma start : Tables [] [] [] where
  length := rfl
  small := Nat.zero_le _
  nodup := List.nodup_nil
  listed := fun _ _ _ h => nomatch h
  admitted := fun _ hr => nomatch hr

/-- A report that changes no table. -/
lemma silent (h : Tables reports candidates cand)
    (hr : info.device ∈ candidates → ∀ text, info.localName = some text → ¬ ValidName text)
    (ha : info.Admits → info.device ∈ candidates ∨ candidates.length = maxCand) :
    Tables (reports ++ [info]) candidates cand where
  length := h.length
  small := h.small
  nodup := h.nodup
  listed := by
    intro i device c hdevice hc
    refine (h.listed i device c hdevice hc).silent ?_
    rintro rfl
    exact hr (List.mem_of_getElem? hdevice)
  admitted := by
    intro r hr'
    rcases List.mem_append.mp hr' with hr' | hr'
    · exact h.admitted r hr'
    · rw [List.mem_singleton.mp hr']
      exact ha

/-- The slot of an id. -/
lemma findIdx_id (h : Tables reports candidates cand) {j : Nat} (hj : j ≤ maxCand) :
    cand.findIdx? (·.candidateId == UInt32.ofNat (j + 1)) = if j < cand.length then some j else none := by
  have hid : ∀ k (hk : k < cand.length), cand[k].candidateId = UInt32.ofNat (k + 1) := by
    intro k hk
    have hk' : k < candidates.length := h.length ▸ hk
    exact (h.listed k _ _ (List.getElem?_eq_getElem hk') (List.getElem?_eq_getElem hk)).id
  have hle : cand.length ≤ maxCand := h.length ▸ h.small
  by_cases hlt : j < cand.length
  · rw [if_pos hlt, List.findIdx?_eq_some_iff_getElem]
    refine ⟨hlt, by rw [hid j hlt, beq_self_eq_true], ?_⟩
    intro k hk heq
    rw [hid k (by omega), beq_iff_eq] at heq
    have := ofNat_id_inj (by omega) hj heq
    omega
  · rw [if_neg hlt, List.findIdx?_eq_none_iff]
    intro c hc
    obtain ⟨k, hk, rfl⟩ := List.mem_iff_getElem.mp hc
    rw [hid k hk, beq_eq_false_iff_ne]
    intro heq
    have := ofNat_id_inj (by omega) hj heq
    omega

end Tables

lemma localName_eq (hfields : info.fields = some fields) : info.localName = adName fields := by
  unfold DeviceInfo.localName
  rw [hfields, Option.bind_some]

lemma support_le (name : Option (List UInt8)) : (rc003AdapterMatch name).toNat ≤ 1 := by
  cases name with
  | none => decide
  | some text =>
    rw [rc003AdapterMatch_some]
    split_ifs <;> decide

lemma support_max_le {a b : UInt8} (ha : a.toNat ≤ 1) (hb : b.toNat ≤ 1) : (if a > b then a else b).toNat ≤ 1 := by
  split_ifs
  · exact ha
  · exact hb

/-- A device that is listed reports again. -/
lemma Tables.refresh (h : Tables reports candidates cand) (hfields : info.fields = some fields)
    (hi : candidates[i]? = some info.device) :
    Tables (reports ++ [info]) candidates (cand.modify i (·.refresh (info.candidate fields i false))) where
  length := by rw [List.length_modify, h.length]
  small := h.small
  nodup := h.nodup
  listed := by
    intro j device c hdevice hc
    by_cases hij : i = j
    · subst hij
      obtain rfl : info.device = device := Option.some.inj (hi.symm.trans hdevice)
      rw [List.getElem?_modify_eq] at hc
      obtain ⟨c₀, hc₀, rfl⟩ := Option.map_eq_some_iff.mp hc
      have hold := h.listed i _ c₀ hdevice hc₀
      obtain ⟨name, hshows, hnamed⟩ := hold.named
      refine ⟨hold.id, support_max_le (support_le _) hold.support, ?_⟩
      by_cases hname : ∃ text, adName fields = some text ∧ ValidName text
      · obtain ⟨text, htext, hvalid⟩ := hname
        obtain ⟨name', hcut, hshows', hne⟩ := candidate_valid i false htext hvalid
        exact ⟨name', hshows'.refresh hne,
          hnamed.renamed rfl ((localName_eq hfields).trans htext) hvalid hcut⟩
      · have hnone : ∀ text, adName fields = some text → ¬ ValidName text :=
          fun text htext hvalid => hname ⟨text, htext, hvalid⟩
        refine ⟨name, hshows.kept (candidate_silent i hnone), hnamed.silent fun _ => ?_⟩
        rw [localName_eq hfields]
        exact hnone
    · rw [List.getElem?_modify_ne _ _ hij] at hc
      refine (h.listed j device c hdevice hc).silent ?_
      rintro rfl
      obtain ⟨hi', hix⟩ := List.getElem?_eq_some_iff.mp hi
      obtain ⟨hj', hjx⟩ := List.getElem?_eq_some_iff.mp hdevice
      exact absurd (h.nodup.getElem_inj_iff.mp (hix.trans hjx.symm)) hij
  admitted := by
    intro r hr
    rcases List.mem_append.mp hr with hr | hr
    · exact h.admitted r hr
    · rw [List.mem_singleton.mp hr]
      exact fun _ => Or.inl (List.mem_of_getElem? hi)

/-- A device is listed. -/
lemma Tables.add (h : Tables reports candidates cand) (hfields : info.fields = some fields)
    (hnew : info.device ∉ candidates) (hadmitted : info.admitted fields = true) (hroom : candidates.length < maxCand) :
    Tables (reports ++ [info]) (candidates ++ [info.device])
      (cand ++ [{ info.candidate fields candidates.length true with
        name := copyName (info.candidate fields candidates.length true).name 48
          (info.candidate fields candidates.length true).name }]) where
  length := by rw [List.length_append, List.length_append, h.length]; rfl
  small := by rw [List.length_append]; exact hroom
  nodup := List.nodup_append.mpr ⟨h.nodup, List.nodup_singleton _, by
    intro a ha b hb
    rw [List.mem_singleton.mp hb]
    rintro rfl
    exact hnew ha⟩
  listed := by
    intro j device c hdevice hc
    by_cases hj : j < candidates.length
    · rw [List.getElem?_append_left hj] at hdevice
      rw [List.getElem?_append_left (h.length ▸ hj)] at hc
      refine (h.listed j device c hdevice hc).silent ?_
      rintro rfl
      exact absurd (List.mem_of_getElem? hdevice) hnew
    · have hj' : j = candidates.length := by
        have hlt := (List.getElem?_eq_some_iff.mp hdevice).1
        rw [List.length_append, List.length_singleton] at hlt
        omega
      rw [hj', List.getElem?_concat_length] at hdevice
      rw [hj', ← h.length, List.getElem?_concat_length] at hc
      obtain rfl := Option.some.inj hdevice
      obtain rfl := Option.some.inj hc
      rw [h.length, hj']
      -- no report before this one admitted the device
      have hbefore : ∀ r ∈ reports, r.device = info.device → ¬ r.Admits := by
        intro r hr hdevice hadmits
        rcases h.admitted r hr hadmits with hmem | hfull
        · exact hnew (hdevice ▸ hmem)
        · omega
      refine ⟨rfl, support_le _, ?_⟩
      -- its name is the advertised one or the default of its kind
      by_cases hname : ∃ text, adName fields = some text ∧ ValidName text
      · obtain ⟨text, htext, hvalid⟩ := hname
        obtain ⟨name, hcut, hshows, -⟩ := candidate_valid candidates.length true htext hvalid
        refine ⟨name, hshows.copied _, reports, info, [], rfl, rfl, ⟨fields, hfields, hadmitted⟩, hbefore, ?_⟩
        refine Or.inl ⟨text, ⟨[], info, [], rfl, rfl, (localName_eq hfields).trans htext, hvalid, ?_⟩, hcut⟩
        exact fun r hr => nomatch hr
      · have hnone : ∀ text, adName fields = some text → ¬ ValidName text :=
          fun text htext hvalid => hname ⟨text, htext, hvalid⟩
        have hdefault : info.defaultName =
            defaultName (rc003AdapterMatch (adName fields)) (adService 0x12 0x18 fields) := by
          unfold DeviceInfo.defaultName
          rw [localName_eq hfields, hfields]
          rfl
        refine ⟨_, (candidate_default candidates.length hnone).copied _, reports, info, [], rfl, rfl,
          ⟨fields, hfields, hadmitted⟩, hbefore, Or.inr ⟨?_, hdefault.symm⟩⟩
        intro r hr _
        rw [List.mem_singleton.mp hr, localName_eq hfields]
        exact hnone
  admitted := by
    intro r hr hadmits
    rcases List.mem_append.mp hr with hr | hr
    · rcases h.admitted r hr hadmits with hmem | hfull
      · exact Or.inl (List.mem_append_left _ hmem)
      · omega
    · rw [List.mem_singleton.mp hr]
      exact Or.inl (List.mem_append_right _ (List.mem_singleton_self _))

end Step

/-! ## A search -/

/-- The tables of the radio and of the server. -/
def InWorld (reports : List DeviceInfo) (w : World Radio) : Prop :=
  Tables reports w.env.central.candidates w.srv.find.cand

section Report

variable {reports : List DeviceInfo} {info : DeviceInfo} {sdk : Sdk} {w : World Radio}

lemma isDevice_iff (k : BdAddr × UInt8) :
    (k.2 == info.addrType && List.ofFn k.1 == List.ofFn info.addr) = true ↔ k = info.device := by
  rw [Bool.and_eq_true, beq_iff_eq, beq_iff_eq, List.ofFn_inj]
  constructor
  · rintro ⟨htype, haddr⟩
    exact Prod.ext haddr htype
  · rintro rfl
    exact ⟨rfl, rfl⟩

/-- A report during the scan. -/
lemma onDevice_scan (hscan : w.env.central.wcState = .scan) :
    onDevice sdk info w =
      match info.fields with
      | none => w
      | some fields =>
        match w.env.central.candidates.findIdx? fun k => k.2 == info.addrType && List.ofFn k.1 == List.ofFn info.addr with
        | some i => onScanCandidate (info.candidate fields i false) w
        | none =>
          if !info.admitted fields || w.env.central.candidates.length == maxCand then w
          else onScanCandidate (info.candidate fields w.env.central.candidates.length true)
            (w.tune fun c => { c with candidates := c.candidates ++ [(info.addr, info.addrType)] }) := by
  unfold onDevice
  rw [if_neg (by rw [hscan]; decide), if_neg (not_not_intro hscan)]
  rfl

lemma onScanCandidate_active (c : Candidate) (ha : w.srv.find.active = true) :
    onScanCandidate c w = w.act fun s => { s with find := s.find.addCandidate c } := by
  unfold onScanCandidate
  rw [ha]
  rfl

/-- What the server does with a device that is listed. -/
lemma InWorld.addCandidate_some (h : InWorld reports w) {i : Nat} (hi : i < w.env.central.candidates.length)
    (fields : List (UInt8 × List UInt8)) :
    w.srv.find.addCandidate (info.candidate fields i false) =
      { w.srv.find with cand := w.srv.find.cand.modify i (·.refresh (info.candidate fields i false)) } := by
  have hsmall := h.small
  have hlen : i < w.srv.find.cand.length := by
    rw [h.length]
    exact hi
  have hfind := h.findIdx_id (j := i) (by omega)
  rw [if_pos hlen] at hfind
  unfold Find.addCandidate
  rw [(candidate_plain i false).1, hfind]

/-- What the server does with a device that is not. -/
lemma InWorld.addCandidate_none (h : InWorld reports w) (hroom : w.env.central.candidates.length < maxCand)
    (fields : List (UInt8 × List UInt8)) :
    w.srv.find.addCandidate (info.candidate fields w.env.central.candidates.length true) =
      { w.srv.find with cand := w.srv.find.cand ++
        [{ info.candidate fields w.env.central.candidates.length true with
          name := copyName (info.candidate fields w.env.central.candidates.length true).name 48
            (info.candidate fields w.env.central.candidates.length true).name }] } := by
  have hlen := h.length
  have hfind := h.findIdx_id (j := w.env.central.candidates.length) (by omega)
  rw [if_neg (by omega)] at hfind
  have hsize : ¬ w.srv.find.cand.length ≥ maxCandidates := by
    rw [hlen]
    exact Nat.not_le_of_lt hroom
  unfold Find.addCandidate
  rw [(candidate_plain _ true).1, hfind]
  dsimp only
  rw [if_neg hsize]
  rfl

/-- A report keeps the tables together, and every device in its slot. -/
lemma InWorld.report (sdk : Sdk) (info : DeviceInfo) (h : InWorld reports w) (hscan : w.env.central.wcState = .scan)
    (ha : w.srv.find.active = true) :
    InWorld (reports ++ [info]) (onDevice sdk info w) ∧
      w.env.central.candidates <+: (onDevice sdk info w).env.central.candidates ∧
      (onDevice sdk info w).srv.find.active = true ∧
      (onDevice sdk info w).srv.find.searchId = w.srv.find.searchId := by
  rw [onDevice_scan hscan]
  -- the data of the report does not parse: nothing happens
  cases hfields : info.fields with
  | none =>
    have hname : info.localName = none := by rw [DeviceInfo.localName, hfields]; rfl
    refine ⟨h.silent (fun _ text htext => ?_) ?_, List.prefix_refl _, ha, rfl⟩
    · rw [hname] at htext
      exact nomatch htext
    · rintro ⟨fields, hsome, -⟩
      rw [hfields] at hsome
      exact nomatch hsome
  | some fields =>
    dsimp only
    cases hfind : w.env.central.candidates.findIdx? fun k =>
        k.2 == info.addrType && List.ofFn k.1 == List.ofFn info.addr with
    | some i =>
      -- the device is listed already, and its candidate is refreshed
      obtain ⟨hi, hdevice, -⟩ := List.findIdx?_eq_some_iff_getElem.mp hfind
      have hslot : w.env.central.candidates[i]? = some info.device := by
        rw [List.getElem?_eq_getElem hi, (isDevice_iff _).mp hdevice]
      dsimp only
      rw [onScanCandidate_active _ ha]
      refine ⟨?_, List.prefix_refl _, ?_, ?_⟩
      · show Tables _ _ (w.srv.find.addCandidate _).cand
        rw [h.addCandidate_some hi]
        exact Tables.refresh h hfields hslot
      · show (w.srv.find.addCandidate _).active = true
        rw [h.addCandidate_some hi]
        exact ha
      · show (w.srv.find.addCandidate _).searchId = _
        rw [h.addCandidate_some hi]
    | none =>
      have hnew : info.device ∉ w.env.central.candidates := by
        intro hmem
        have hfalse := List.findIdx?_eq_none_iff.mp hfind _ hmem
        rw [(isDevice_iff _).mpr rfl] at hfalse
        exact nomatch hfalse
      dsimp only
      -- the device is new: it is not admitted or there is no room, or it is added
      by_cases hskip : (!info.admitted fields || w.env.central.candidates.length == maxCand) = true
      · rw [if_pos hskip]
        refine ⟨h.silent (fun hmem => absurd hmem hnew) ?_, List.prefix_refl _, ha, rfl⟩
        rintro ⟨fields', hsome, hadmitted⟩
        rw [hfields] at hsome
        obtain rfl := Option.some.inj hsome
        rw [hadmitted, Bool.not_true, Bool.false_or, beq_iff_eq] at hskip
        exact Or.inr hskip
      · rw [Bool.not_eq_true, Bool.or_eq_false_iff, Bool.not_eq_false', beq_eq_false_iff_ne] at hskip
        obtain ⟨hadmitted, hfull⟩ := hskip
        have hroom : w.env.central.candidates.length < maxCand := Nat.lt_of_le_of_ne h.small hfull
        have hgo : ¬ (!info.admitted fields || w.env.central.candidates.length == maxCand) = true := by
          rw [hadmitted, beq_eq_false_iff_ne.mpr hfull]
          decide
        have hactive : (w.tune fun c =>
            { c with candidates := c.candidates ++ [(info.addr, info.addrType)] }).srv.find.active = true := ha
        rw [if_neg hgo, onScanCandidate_active _ hactive]
        refine ⟨?_, List.prefix_append _ _, ?_, ?_⟩
        · show Tables _ _ (w.srv.find.addCandidate _).cand
          rw [h.addCandidate_none hroom]
          exact Tables.add h hfields hnew hadmitted hroom
        · show (w.srv.find.addCandidate _).active = true
          rw [h.addCandidate_none hroom]
          exact ha
        · show (w.srv.find.addCandidate _).searchId = _
          rw [h.addCandidate_none hroom]

end Report

/-- The reports that the radio hears from `w₀` on.  What happens in between leaves both tables alone. -/
inductive Searches (sdk : Sdk) (w₀ : World Radio) : List DeviceInfo → World Radio → Prop
  | start : Searches sdk w₀ [] w₀
  | report {reports : List DeviceInfo} {w : World Radio} (info : DeviceInfo) (hs : w.env.central.wcState = .scan)
      (ha : w.srv.find.active = true) (h : Searches sdk w₀ reports w) :
      Searches sdk w₀ (reports ++ [info]) (onDevice sdk info w)
  | other {reports : List DeviceInfo} {w : World Radio} (w' : World Radio)
      (hc : w'.env.central.candidates = w.env.central.candidates)
      (hf : w'.srv.find.cand = w.srv.find.cand) (hi : w'.srv.find.searchId = w.srv.find.searchId)
      (hl : w'.srv.find.active = true ∨ w'.srv.find.valid = true) (h : Searches sdk w₀ reports w) :
      Searches sdk w₀ reports w'

namespace Searches

variable {sdk : Sdk} {w₀ w w' : World Radio} {reports later : List DeviceInfo}

/-- The tables go together all the time. -/
lemma inWorld (h : Searches sdk w₀ later w) (hstart : InWorld reports w₀) : InWorld (reports ++ later) w := by
  induction h with
  | start =>
    rw [List.append_nil]
    exact hstart
  | report info hs ha _ ih =>
    rw [← List.append_assoc]
    exact (ih.report _ _ hs ha).1
  | other w' hc hf hi hl _ ih =>
    unfold InWorld
    rw [hc, hf]
    exact ih

/-- A device keeps its slot. -/
lemma grows (h : Searches sdk w₀ later w) (hstart : InWorld reports w₀) :
    w₀.env.central.candidates <+: w.env.central.candidates := by
  induction h with
  | start => exact List.prefix_refl _
  | report info hs ha hrun ih => exact ih.trans ((hrun.inWorld hstart).report _ _ hs ha).2.1
  | other w' hc hf hi hl _ ih =>
    rw [hc]
    exact ih

/-- The search keeps its id, and can be asked for. -/
lemma searchId (h : Searches sdk w₀ later w) (hstart : InWorld reports w₀) (ha : w₀.srv.find.active = true) :
    w.srv.find.searchId = w₀.srv.find.searchId ∧ (w.srv.find.active = true ∨ w.srv.find.valid = true) := by
  induction h with
  | start => exact ⟨rfl, Or.inl ha⟩
  | report info hs ha' hrun ih =>
    have hstep := (hrun.inWorld hstart).report sdk info hs ha'
    exact ⟨hstep.2.2.2.trans ih.1, Or.inl hstep.2.2.1⟩
  | other w' hc hf hi hl _ ih => exact ⟨hi.trans ih.1, hl⟩

end Searches

/-! ## Its start -/

lemma candidates_askAll (sdk : Sdk) (calls : List SdkCall) (w : World Radio) :
    (askAll sdk calls w).2.env.central = w.env.central ∧ (askAll sdk calls w).2.srv = w.srv := by
  induction calls generalizing w with
  | nil => exact ⟨rfl, rfl⟩
  | cons call calls ih =>
    rw [askAll]
    by_cases hfail : ((ask sdk call w).1 != 0) = true
    · rw [if_pos hfail]
      exact ⟨rfl, rfl⟩
    · rw [if_neg hfail]
      exact ih _

/-- A search that the radio has accepted starts with empty tables. -/
lemma started {b : Build} {sdk : Sdk} {n : Nat} {id : UInt32} {dur : UInt16} {w w₀ : World Radio}
    (h : invoke (platform b sdk (n + 1)) (.startFind dur) (w.act (Server.beginFind id dur)) = (w₀, .ok)) :
    InWorld [] w₀ ∧ w₀.env.central.wcState = .scan ∧ w₀.srv.find.active = true ∧ w₀.srv.find.searchId = id := by
  change rbStartFind sdk dur _ = _ at h
  unfold rbStartFind at h
  dsimp only at h
  split_ifs at h with h1 h2 h3
  · exact nomatch (Prod.mk.inj h).2
  · exact nomatch (Prod.mk.inj h).2
  · have hask := candidates_askAll sdk [.setParamValue .discScan (scanTicks dur).toUInt16,
      .setParamValue .discScanInt 36, .setParamValue .discScanWind 18, .startDiscovery true]
      (((w.act (Server.beginFind id dur)).note
        (.called (.startFind dur) (w.act (Server.beginFind id dur)).srv)).tune fun c => { c with candidates := [] })
    obtain ⟨rfl, -⟩ := Prod.mk.inj h
    generalize askAll sdk _ _ = r at hask
    obtain ⟨status, v⟩ := r
    obtain ⟨hcentral, hsrv⟩ := hask
    refine ⟨?_, rfl, ?_, ?_⟩
    · show Tables [] v.env.central.candidates v.srv.find.cand
      rw [hcentral, hsrv]
      exact Tables.start
    · show v.srv.find.active = true
      rw [hsrv]
      rfl
    · show v.srv.find.searchId = id
      rw [hsrv]
      rfl
  · exact nomatch (Prod.mk.inj h).2
  · exact nomatch (Prod.mk.inj h).2

/-! ## The list -/

/-- The payload of the reply to `FIND_LIST` from cursor 0. -/
def listPayload (cand : List Candidate) : List UInt8 :=
  tlvField 1 .u8 [255] ++ tlvField 2 .bytes (entryList (cand.map Candidate.entry))

/-- The request. -/
def listRequest (searchId : UInt32) : List UInt8 := tlvPutU8 2 0 (tlvPutU32 1 searchId [])

/-- The entries fit, and are what the tables say. -/
structure Packed (cand : List Candidate) : Prop where
  small : cand.length ≤ maxCand
  ids : ∀ c ∈ cand, c.candidateId ≠ 0
  support : ∀ c ∈ cand, c.support.toNat ≤ 1
  named : ∀ c ∈ cand, ∃ name, c.Shows name ∧ WellFormed name

lemma Candidate.Shows.entry_eq {c : Candidate} {name : List UInt8} (h : c.Shows name) :
    c.entry = put32 c.candidateId ++ [c.support, c.signal, c.nameLen] ++ name := by
  have hlen : c.nameLen.toNat ≤ c.name.length := by
    have hprefix : cText c.name <+: c.name := List.takeWhile_prefix _
    rw [h.len, ← h.text]
    exact hprefix.length_le
  have hbytes : ((List.range c.nameLen.toNat).map fun k => c.name.getD k 0) = name := by
    rw [← h.taken]
    refine List.ext_getElem (by simp [hlen]) fun i hi hi' => ?_
    rw [List.length_map, List.length_range] at hi
    rw [List.getElem_map, List.getElem_range, List.getElem_take, List.getD_eq_getElem?_getD,
      List.getElem?_eq_getElem (by omega), Option.getD_some]
  unfold Candidate.entry
  rw [hbytes]

lemma Packed.length_entry {cand : List Candidate} (h : Packed cand) : ∀ e ∈ cand.map Candidate.entry, e.length ≤ 54 := by
  intro e he
  obtain ⟨c, hc, rfl⟩ := List.mem_map.mp he
  obtain ⟨name, hshows, -⟩ := h.named c hc
  have hshort := hshows.short
  rw [hshows.entry_eq, List.length_append, List.length_append, length_put32]
  change 4 + 3 + name.length ≤ 54
  omega

lemma length_flatten_le {l : List (List UInt8)} {m : Nat} (hl : ∀ e ∈ l, e.length ≤ m) :
    l.flatten.length ≤ m * l.length := by
  induction l with
  | nil => exact Nat.zero_le _
  | cons e l ih =>
    have he := hl e (List.mem_cons_self ..)
    have hrest := ih fun e he => hl e (List.mem_cons_of_mem _ he)
    rw [List.flatten_cons, List.length_append, List.length_cons, Nat.mul_succ]
    omega

lemma Packed.length_entryList {cand : List Candidate} (h : Packed cand) :
    (entryList (cand.map Candidate.entry)).length ≤ 433 := by
  have hflat := length_flatten_le h.length_entry
  have hsmall : cand.length ≤ 8 := h.small
  rw [List.length_map] at hflat
  unfold entryList
  rw [List.length_cons]
  omega

lemma Packed.length_listPayload {cand : List Candidate} (h : Packed cand) : (listPayload cand).length ≤ 442 := by
  have hlist := h.length_entryList
  unfold listPayload tlvField
  simp only [List.length_append, List.length_cons, List.length_nil, length_put16]
  omega

lemma tlvGet_listRequest (searchId : UInt32) :
    required (tlvGetU32 (listRequest searchId) 1) = some searchId ∧
      required (tlvGetU8 (listRequest searchId) 2) = some 0 := by
  obtain ⟨a, b, c, d, hid⟩ : ∃ a b c d, put32 searchId = [a, b, c, d] := ⟨_, _, _, _, rfl⟩
  have hget : get32 (put32 searchId) 0 = searchId := by
    have hfield : get32 ([] ++ put32 searchId ++ []) 0 = searchId := get32_field [] [] searchId rfl
    rwa [List.nil_append, List.append_nil] at hfield
  have hbytes : listRequest searchId = [1, 3, 4, 0, a, b, c, d, 2, 1, 1, 0, 0] := by
    have hput : listRequest searchId =
        [1, 3] ++ put16 (UInt16.ofNat 4) ++ put32 searchId ++ [2, 1] ++ put16 (UInt16.ofNat 1) ++ [0] := rfl
    rw [hput, hid]
    rfl
  rw [hid] at hget
  rw [hbytes]
  constructor
  · exact congrArg some hget
  · rfl

/-- The reply to `FIND_LIST` from cursor 0. -/
lemma handleFindList_zero {E : Type} (b : Build) (P : Platform E) (h : Header) (w : World E)
    (hl : w.srv.find.active = true ∨ w.srv.find.valid = true) (hp : Packed w.srv.find.cand) :
    handleFindList b P h (listRequest w.srv.find.searchId) w = reply b P h .ok (listPayload w.srv.find.cand) w := by
  obtain ⟨hid, hcursor⟩ := tlvGet_listRequest w.srv.find.searchId
  have hlive : (w.srv.find.searchId != w.srv.find.searchId || (!w.srv.find.active && !w.srv.find.valid)) = false := by
    rw [bne_self_eq_false, Bool.false_or]
    rcases hl with hl | hl
    · rw [hl]
      rfl
    · rw [hl, Bool.not_true, Bool.and_false]
  have hsmall : w.srv.find.cand.length ≤ 8 := hp.small
  have hall : packEntries ((w.srv.find.cand.drop 0).map Candidate.entry) 8 1 = w.srv.find.cand.map Candidate.entry := by
    rw [List.drop_zero, packEntries_eq_take hp.length_entry (by decide), List.take_of_length_le]
    rw [List.length_map]
    exact hsmall
  have hlist := hp.length_entryList
  have hnext : nextCursor 0 (w.srv.find.cand.map Candidate.entry).length w.srv.find.cand.length = 255 := by
    unfold nextCursor
    rw [List.length_map, if_pos (by omega)]
  have hpayload : tlvPutBytes 2 (entryList (w.srv.find.cand.map Candidate.entry)) (tlvPutU8 1 255 []) =
      listPayload w.srv.find.cand := by
    have hfirst : tlvPutU8 1 255 [] = tlvField 1 .u8 [255] := rfl
    rw [hfirst, tlvPutBytes, if_neg (by unfold tlvMaxBytes; omega), tlvPut, if_neg]
    · rfl
    · have hfive : (tlvField 1 .u8 [255]).length = 5 := rfl
      rw [hfive]
      unfold maxPayload
      omega
  unfold handleFindList
  rw [hid, hcursor]
  dsimp only
  rw [hlive, if_neg (by decide), if_neg (by decide)]
  have hzero : (0 : UInt8).toNat = 0 := rfl
  rw [hzero, hall, hnext, hpayload]

/-! ## The client -/

namespace Python

/-- A candidate as the client has it. -/
def found (c : Candidate) : FoundCandidate :=
  ⟨c.candidateId.toNat, c.support.toNat, c.signal.toNat, (decode? (c.name.take c.nameLen.toNat)).getD ""⟩

/-- The dictionary of the reply. -/
def listTable (cand : List Candidate) : List (UInt8 × PyTlvValue) :=
  [(1, .int 255), (2, .bytes (entryList (cand.map Candidate.entry)))]

lemma schemaParse_listPayload {cand : List Candidate} (h : Packed cand) :
    schemaParse findListFields (listPayload cand) = .ok (listTable cand) := by
  have hlist := h.length_entryList
  obtain ⟨fuel, hfuel⟩ : ∃ fuel, (listPayload cand).length = fuel + 2 := by
    refine ⟨(listPayload cand).length - 2, ?_⟩
    unfold listPayload tlvField
    simp only [List.length_append, List.length_cons, List.length_nil]
    omega
  have hloop : schemaLoop findListFields (fuel + 2) [] (listPayload cand) = some (listTable cand) := by
    have hsecond : schemaLoop findListFields (fuel + 1) [1]
        (tlvField 2 .bytes (entryList (cand.map Candidate.entry)) ++ []) =
          some [(2, .bytes (entryList (cand.map Candidate.entry)))] := by
      rw [schemaLoop_field (by omega) (by decide) rfl rfl (pyScalar_bytes (by omega)), schemaLoop_nil]
      rfl
    unfold listPayload
    rw [schemaLoop_field (by rw [List.length_singleton]; decide) (by decide) rfl rfl (pyScalar_u8 _),
      ← List.append_nil (tlvField 2 _ _), hsecond]
    rfl
  unfold schemaParse
  rw [hfuel, hloop]
  rfl

lemma Packed.tail {c : Candidate} {cand : List Candidate} (h : Packed (c :: cand)) : Packed cand where
  small := Nat.le_of_succ_le h.small
  ids := fun c hc => h.ids c (List.mem_cons_of_mem _ hc)
  support := fun c hc => h.support c (List.mem_cons_of_mem _ hc)
  named := fun c hc => h.named c (List.mem_cons_of_mem _ hc)

/-- An entry as its bytes. -/
lemma exists_entry {c : Candidate} {cand : List Candidate} (h : Packed (c :: cand)) :
    ∃ (a b d e : UInt8) (name : List UInt8) (text : String), c.entry = a :: b :: d :: e :: c.support :: c.signal :: c.nameLen :: name ∧
      leNat [a, b, d, e] = c.candidateId.toNat ∧ c.nameLen.toNat = name.length ∧ name.length ≤ 47 ∧
      decode? name = some text ∧ found c = ⟨c.candidateId.toNat, c.support.toNat, c.signal.toNat, text⟩ := by
  obtain ⟨name, hshows, cs, hcs⟩ := h.named c (List.mem_cons_self ..)
  have hdecode : decode? name = some (String.ofList cs) := by
    rw [decode?_eq_some_iff, String.toList_ofList, hcs]
  have hid : leNat (put32 c.candidateId) = c.candidateId.toNat := leNat_leBytes_of_lt c.candidateId.toNat_lt
  obtain ⟨a, b, d, e, hbytes⟩ : ∃ a b d e, put32 c.candidateId = [a, b, d, e] := ⟨_, _, _, _, rfl⟩
  refine ⟨a, b, d, e, name, String.ofList cs, ?_, hbytes ▸ hid, hshows.len, hshows.short, hdecode, ?_⟩
  · rw [hshows.entry_eq, hbytes]
    rfl
  · unfold found
    rw [hshows.taken, hdecode, Option.getD_some]

lemma entriesValid_list {cand : List Candidate} (h : Packed cand) :
    entriesValid 7 cand.length (cand.map Candidate.entry).flatten = true := by
  induction cand with
  | nil => rfl
  | cons c cand ih =>
    obtain ⟨a, b, d, e, name, text, hentry, -, hlen, hshort, hdecode, -⟩ := exists_entry h
    have hrest := ih (Packed.tail h)
    rw [List.map_cons, List.flatten_cons, hentry, List.length_cons, entriesValid]
    generalize (cand.map Candidate.entry).flatten = rest at hrest
    simp only [List.cons_append, List.length_cons, List.getD_cons_succ, List.getD_cons_zero, hlen,
      List.drop_succ_cons, List.drop_zero, List.length_append]
    rw [if_neg (by omega), if_neg (by omega), List.take_left, hdecode]
    simp only [Option.isNone_some, Bool.false_eq_true, if_false]
    rw [Nat.add_comm 7]
    simp only [List.drop_succ_cons, List.drop_left]
    exact hrest

lemma candidateEntries_list {cand : List Candidate} (h : Packed cand) :
    candidateEntries cand.length (cand.map Candidate.entry).flatten = some (cand.map found) := by
  induction cand with
  | nil => rfl
  | cons c cand ih =>
    obtain ⟨a, b, d, e, name, text, hentry, hid, hlen, hshort, hdecode, hfound⟩ := exists_entry h
    have hnonzero : c.candidateId.toNat ≠ 0 := fun hzero =>
      h.ids c (List.mem_cons_self ..) (UInt32.toNat_inj.mp hzero)
    have hsupport := h.support c (List.mem_cons_self ..)
    rw [List.map_cons, List.flatten_cons, hentry, List.length_cons]
    simp only [List.cons_append, candidateEntries]
    rw [hid, hlen, if_neg, List.take_left, List.drop_left, hdecode]
    · simp only [ih (Packed.tail h), Option.map_some, List.map_cons, hfound]
    · rw [List.length_append]
      rintro (hlong | hcut | hzero | hlarge)
      · omega
      · omega
      · exact hnonzero hzero
      · omega

lemma findList_listPayload {cand : List Candidate} (h : Packed cand) (searchId : UInt32)
    {ask : List UInt8 → Option (Nat × List UInt8)}
    (hask : ask (listRequest searchId) = some (0, listPayload cand)) :
    findList ask searchId.toNat 0 = some (255, cand.map found) := by
  have hsmall : cand.length ≤ 8 := h.small
  have hrequest : tlvPutU8 2 (UInt8.ofNat 0) (tlvPutU32 1 (UInt32.ofNat searchId.toNat) []) = listRequest searchId := by
    rw [UInt32.ofNat_toNat]
    rfl
  have hcount : (UInt8.ofNat (cand.map Candidate.entry).length).toNat = cand.length := by
    rw [List.length_map]
    exact UInt8.toNat_ofNat_of_lt' (Nat.lt_of_le_of_lt hsmall (by decide))
  have hbytes : bytesAt (listTable cand) 2 =
      UInt8.ofNat (cand.map Candidate.entry).length :: (cand.map Candidate.entry).flatten := rfl
  have hvalid : validateListing findListFields 2 8 7 0 (listPayload cand) = some (listTable cand) := by
    unfold validateListing
    rw [if_neg (by decide), if_neg (by decide), schemaParse_listPayload h]
    dsimp only
    rw [hbytes]
    dsimp only
    rw [hcount, if_neg (by omega), entriesValid_list h, if_pos rfl]
  unfold findList
  rw [hrequest, hask]
  dsimp only
  rw [if_neg (by decide), hvalid]
  dsimp only
  rw [hbytes]
  dsimp only
  rw [hcount, if_neg (by omega), candidateEntries_list h]
  rfl

end Python

/-! ## The search as a whole -/

lemma wellFormed_of_nameCut {name text : List UInt8} (h : NameCut name text) : WellFormed name := by
  obtain ⟨vs, ws, hvs, -, rfl, -⟩ := h
  refine (wellFormed_iff.mpr ⟨vs, fun v hv => ?_, rfl⟩).1
  obtain ⟨hlo, hle, hsurrogate⟩ := hvs v (List.mem_append_left _ hv)
  exact ⟨⟨by omega, hle⟩, hsurrogate⟩

lemma wellFormed_defaultName (support : UInt8) (hid : Bool) : WellFormed (defaultName support hid) := by
  unfold defaultName
  split_ifs
  · exact ⟨"Xiaomi RC003".toList, by decide⟩
  · exact ⟨"BLE HID candidate".toList, by decide⟩
  · exact ⟨"BLE voice candidate".toList, by decide⟩

lemma Named.wellFormed {device : BdAddr × UInt8} {reports : List DeviceInfo} {name : List UInt8}
    (h : Named device reports name) : WellFormed name := by
  obtain ⟨before, first, after, -, -, -, -, ⟨text, -, hcut⟩ | ⟨-, rfl⟩⟩ := h
  · exact wellFormed_of_nameCut hcut
  · exact wellFormed_defaultName _ _

lemma ofNat_id_ne_zero {i : Nat} (hi : i < maxCand) : UInt32.ofNat (i + 1) ≠ 0 := by
  intro hzero
  have hnat := congrArg UInt32.toNat hzero
  rw [UInt32.toNat_ofNat_of_lt' (Nat.lt_of_le_of_lt (Nat.succ_le_of_lt hi) (by decide))] at hnat
  exact Nat.succ_ne_zero i hnat

namespace InWorld

variable {reports : List DeviceInfo} {w : World Radio}

/-- The entry in a slot. -/
lemma listedAt (h : InWorld reports w) {i : Nat} (hi : i < w.srv.find.cand.length) :
    ∃ device, w.env.central.candidates[i]? = some device ∧ Listed reports device i w.srv.find.cand[i] := by
  have hi' : i < w.env.central.candidates.length := h.length ▸ hi
  exact ⟨_, List.getElem?_eq_getElem hi', h.listed i _ _ (List.getElem?_eq_getElem hi') (List.getElem?_eq_getElem hi)⟩

lemma packed (h : InWorld reports w) : Packed w.srv.find.cand := by
  have hsmall : w.srv.find.cand.length ≤ maxCand := h.length ▸ h.small
  have hall : ∀ c ∈ w.srv.find.cand, ∃ i device, i < maxCand ∧ Listed reports device i c := by
    intro c hc
    obtain ⟨i, hi, rfl⟩ := List.mem_iff_getElem.mp hc
    obtain ⟨device, -, hlisted⟩ := h.listedAt hi
    exact ⟨i, device, by omega, hlisted⟩
  refine ⟨hsmall, ?_, ?_, ?_⟩
  · intro c hc
    obtain ⟨i, device, hi, hlisted⟩ := hall c hc
    rw [hlisted.id]
    exact ofNat_id_ne_zero hi
  · intro c hc
    obtain ⟨i, device, -, hlisted⟩ := hall c hc
    exact hlisted.support
  · intro c hc
    obtain ⟨i, device, -, hlisted⟩ := hall c hc
    obtain ⟨name, hshows, hnamed⟩ := hlisted.named
    exact ⟨name, hshows, hnamed.wellFormed⟩

lemma nodup_ids (h : InWorld reports w) : (w.srv.find.cand.map Candidate.candidateId).Nodup := by
  have hsmall : w.srv.find.cand.length ≤ maxCand := h.length ▸ h.small
  rw [List.nodup_iff_injective_get]
  rintro ⟨i, hi⟩ ⟨j, hj⟩ heq
  rw [List.length_map] at hi hj
  obtain ⟨device, -, hlisted⟩ := h.listedAt hi
  obtain ⟨device', -, hlisted'⟩ := h.listedAt hj
  rw [List.get_eq_getElem, List.get_eq_getElem, List.getElem_map, List.getElem_map, hlisted.id, hlisted'.id] at heq
  have hi' : i ≤ maxCand := Nat.le_of_lt (Nat.lt_of_lt_of_le hi hsmall)
  have hj' : j ≤ maxCand := Nat.le_of_lt (Nat.lt_of_lt_of_le hj hsmall)
  exact Fin.ext (ofNat_id_inj hi' hj' heq)

end InWorld

open Python in
/-- After any reports of a search that the radio has accepted, the list has at most eight entries, one for
each device that a report has admitted, with the id of its slot, which it keeps; it shows the last valid
name that the device has advertised from then on; the reply from cursor 0 fits, and the client reads it; and
no report is read outside its data. -/
theorem candidates_listed {b : Build} {sdk : Sdk} {n : Nat} {id : UInt32} {dur : UInt16} {w w₀ w₁ : World Radio}
    (hstart : invoke (platform b sdk (n + 1)) (.startFind dur) (w.act (Server.beginFind id dur)) = (w₀, .ok))
    {reports : List DeviceInfo} (hrun : Searches sdk w₀ reports w₁) :
    (w₁.srv.find.cand.length ≤ 8 ∧ w₁.srv.find.cand.length = w₁.env.central.candidates.length ∧
      w₁.env.central.candidates.Nodup ∧
      (w₁.srv.find.cand.map Candidate.candidateId).Nodup ∧ ∀ c ∈ w₁.srv.find.cand, c.candidateId ≠ 0) ∧
    (∀ i device c, w₁.env.central.candidates[i]? = some device → w₁.srv.find.cand[i]? = some c →
      c.candidateId = UInt32.ofNat (i + 1) ∧ c.nameLen.toNat ≤ 47 ∧
        Named device reports (c.name.take c.nameLen.toNat)) ∧
    (∀ r ∈ reports, r.Admits →
      r.device ∈ w₁.env.central.candidates ∨ w₁.env.central.candidates.length = 8) ∧
    (∀ later w₂, Searches sdk w₁ later w₂ → ∀ i device, w₁.env.central.candidates[i]? = some device →
      w₂.env.central.candidates[i]? = some device ∧
        ∃ c, w₂.srv.find.cand[i]? = some c ∧ c.candidateId = UInt32.ofNat (i + 1)) ∧
    (∀ (m : Nat) (h : Header), handleFindList b (platform b sdk m) h (listRequest id) w₁ =
      reply b (platform b sdk m) h .ok (listPayload w₁.srv.find.cand) w₁) ∧
    ((entryList (w₁.srv.find.cand.map Candidate.entry)).length ≤ tlvMaxBytes ∧
      (listPayload w₁.srv.find.cand).length ≤ maxPayload) ∧
    (∀ ask, ask (listRequest id) = some (0, listPayload w₁.srv.find.cand) →
      findList ask id.toNat 0 = some (255, w₁.srv.find.cand.map found) ∧
        ∀ c ∈ w₁.srv.find.cand, decode? (c.name.take c.nameLen.toNat) = some (found c).name) ∧
    ∀ (info : DeviceInfo) (v : World Radio), onDeviceAt sdk info v = some (onDevice sdk info v) := by
  obtain ⟨hempty, -, hactive, hid⟩ := started hstart
  have htables : InWorld reports w₁ := hrun.inWorld hempty
  have hpacked := htables.packed
  obtain ⟨hsearch, hlive⟩ := hrun.searchId hempty hactive
  have hsame : w₁.srv.find.searchId = id := hsearch.trans hid
  refine ⟨⟨hpacked.small, htables.length, htables.nodup, htables.nodup_ids, hpacked.ids⟩, ?_, htables.admitted, ?_,
    ?_, ?_, ?_, onDeviceAt_eq sdk⟩
  · intro i device c hdevice hc
    have hlisted := htables.listed i device c hdevice hc
    obtain ⟨name, hshows, hnamed⟩ := hlisted.named
    refine ⟨hlisted.id, hshows.len ▸ hshows.short, ?_⟩
    rw [hshows.taken]
    exact hnamed
  · intro later w₂ hlater i device hdevice
    -- later reports only append, so that a place keeps its device
    obtain ⟨rest, hrest⟩ := hlater.grows htables
    have hi := (List.getElem?_eq_some_iff.mp hdevice).1
    have hdevice' : w₂.env.central.candidates[i]? = some device := by
      rw [← hrest, List.getElem?_append_left hi]
      exact hdevice
    have htables' := hlater.inWorld htables
    have hi' : i < w₂.srv.find.cand.length := by
      rw [htables'.length]
      exact (List.getElem?_eq_some_iff.mp hdevice').1
    obtain ⟨device', -, hlisted⟩ := htables'.listedAt hi'
    exact ⟨hdevice', _, List.getElem?_eq_getElem hi', hlisted.id⟩
  · intro m h
    rw [← hsame]
    exact handleFindList_zero b _ h w₁ hlive hpacked
  · exact ⟨Nat.le_trans hpacked.length_entryList (by decide), Nat.le_trans hpacked.length_listPayload (by decide)⟩
  · intro ask hask
    refine ⟨findList_listPayload hpacked id hask, fun c hc => ?_⟩
    obtain ⟨name, hshows, cs, hcs⟩ := hpacked.named c hc
    have hdecode : decode? name = some (String.ofList cs) := by
      rw [decode?_eq_some_iff, String.toList_ofList, hcs]
    unfold found
    rw [hshows.taken, hdecode, Option.getD_some]

/-! ## A name that nobody hears -/

/-- A device says its name in a report that admits nobody. -/
def nameAdvert : DeviceInfo := { benchAdvert with eventType := 2, data := [2, 9, 0x41] }

/-- A search has started on the bench. -/
def searchBench : World Radio × Status :=
  invoke (platform Build.default benchSdk 1) (.startFind 1000)
    ((blankBench.bench (.gap (.deviceInitDone 0))).act (Server.beginFind 1 1000))

/-- The device is heard twice, the second time with its services. -/
def unnamedBench : World Radio := onDevice benchSdk benchAdvert (onDevice benchSdk nameAdvert searchBench.1)

lemma searches_unnamedBench : Searches benchSdk searchBench.1 [nameAdvert, benchAdvert] unnamedBench := by
  have hfirst : Searches benchSdk searchBench.1 [nameAdvert] (onDevice benchSdk nameAdvert searchBench.1) :=
    .report nameAdvert (by decide +kernel) (by decide +kernel) .start
  exact .report benchAdvert (by decide +kernel) (by decide +kernel) hfirst

lemma searchBench_ok : searchBench = (searchBench.1, .ok) := by
  have hok : searchBench.2 = .ok := by decide +kernel
  rw [← hok]

/-- `candidates_listed` applies to the search on the bench, which lists the device in slot 0. -/
theorem candidates_listed_unnamedBench :
    unnamedBench.srv.find.cand.length ≤ 8 ∧ unnamedBench.env.central.candidates = [benchAdvert.device] ∧
      ∀ h, handleFindList Build.default (platform Build.default benchSdk 1) h (listRequest 1) unnamedBench =
        reply Build.default (platform Build.default benchSdk 1) h .ok (listPayload unnamedBench.srv.find.cand)
          unnamedBench := by
  obtain ⟨hsize, -, -, -, hlist, -⟩ := candidates_listed searchBench_ok searches_unnamedBench
  exact ⟨hsize.1, by decide +kernel, hlist 1⟩

/-- The device has advertised a valid name in the search, and is listed under a default one. -/
theorem unnamedBench_name :
    searchBench = (searchBench.1, .ok) ∧ Searches benchSdk searchBench.1 [nameAdvert, benchAdvert] unnamedBench ∧
      LastName benchAdvert.device [nameAdvert, benchAdvert] [0x41] ∧
      unnamedBench.env.central.candidates[0]? = some benchAdvert.device ∧
      ∃ c, unnamedBench.srv.find.cand[0]? = some c ∧
        c.name.take c.nameLen.toNat = ascii "BLE HID candidate" ∧
        ¬ NameCut (c.name.take c.nameLen.toNat) [0x41] := by
  have hname : ∃ c, unnamedBench.srv.find.cand[0]? = some c ∧
      c.name.take c.nameLen.toNat = ascii "BLE HID candidate" :=
    ⟨(unnamedBench.srv.find.cand[0]?).getD ⟨0, 0, 0, [], 0⟩, by decide +kernel, by decide +kernel⟩
  obtain ⟨c, hc, hshown⟩ := hname
  refine ⟨searchBench_ok, searches_unnamedBench, ⟨[], nameAdvert, [benchAdvert], rfl, rfl, rfl, ?_, ?_⟩, by decide +kernel, c, hc,
    hshown, ?_⟩
  · refine ⟨[0x41], by decide, ?_, rfl⟩
    intro v hv
    rw [List.mem_singleton.mp hv]
    exact ⟨by decide, by decide, by decide⟩
  · intro r hr _ text htext
    rw [List.mem_singleton.mp hr] at htext
    exact nomatch (show none = some text from htext)
  · rw [hshown]
    rintro ⟨vs, ws, -, htext, hname, -⟩
    have hlen := congrArg List.length htext
    rw [encodePoints, List.flatMap_append, List.length_append] at hlen
    have hlong : (vs.flatMap encodePoint).length = 17 := congrArg List.length hname
    rw [hlong] at hlen
    change 17 + _ = 1 at hlen
    omega

end RemoteBridge
