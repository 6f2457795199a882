import RemoteBridge.Adapters.ReportMap

/-!
# Key reports are decoded as their descriptor says

For every descriptor that the parser accepts, the decoder reads a report the way its Input items say.
The parser is compared with the items item by item: its state is the context of the next item, and its
fields are the elements that the items so far lay out.

The specification is the one of HID.  Global items set the page, the report id, the size and the count of
the fields to come, local items set their usages, and an Input item lays out a field for each of its count,
behind those of the same report that were laid out before it (`elements`).  The parser does the same with a
table of fields and running offsets, and refuses what its tables do not hold; so it is a refinement of the
specification on the descriptors it accepts, and `Laid` says so after every item.

Decoding then reads each field at its offset.  A variable field stands for one usage, and the elements of an
array field hold usages; the decoder walks over both kinds and collects the keys (`Presses`).

Output and Feature items lay out nothing that an input report has, and collections are only counted.
-/

namespace RemoteBridge

/-! ## The context of the parser -/

/-- The context that the parser holds. -/
def MapParser.context (p : MapParser) : HidContext :=
  { globals := p.g, stack := p.stack, usages := p.usages,
    usageMin := if p.haveMin then some p.umin else none,
    usageMax := if p.haveMax then some p.umax else none }

/-- The Input item that the parser is about to take. -/
def MapParser.item (v : Nat) (p : MapParser) : InputItem := { context := p.context, flags := v }

section Context

variable {p p' : MapParser} {it : HidItem}

lemma context_globalItem (h : p.globalItem it = some p') : p'.context = p.context.afterGlobal it := by
  obtain ⟨kind, tag, size, value⟩ := it
  unfold MapParser.globalItem at h
  dsimp only at h
  split at h
  -- the page, the report id and the two stack operations are checked
  case h_1 | h_5 | h_7 | h_8 =>
    split at h
    · cases h
    · obtain rfl := Option.some.inj h
      rfl
  case h_2 | h_3 | h_4 | h_6 =>
    obtain rfl := Option.some.inj h
    rfl
  case h_9 =>
    obtain rfl := Option.some.inj h
    refine (HidContext.afterGlobal_reserved _ fun n hn htag => ?_).symm
    simp_all

lemma context_localItem (h : p.localItem it = some p') : p'.context = p.context.afterLocal it := by
  obtain ⟨kind, tag, size, value⟩ := it
  unfold MapParser.localItem at h
  unfold HidContext.afterLocal
  dsimp only at h ⊢
  split at h
  case h_1 =>
    split at h
    · cases h
    · obtain rfl := Option.some.inj h
      rfl
  case h_2 | h_3 =>
    obtain rfl := Option.some.inj h
    rfl
  case h_4 => cases h
  case h_5 =>
    obtain rfl := Option.some.inj h
    split
    case h_4 => rfl
    all_goals contradiction

/-- An Input item leaves the global state alone. -/
lemma globals_inputItem {v : Nat} (h : p.inputItem v = some p') :
    p'.g = p.g ∧ p'.stack = p.stack := by
  unfold MapParser.inputItem at h
  split at h
  · cases h
  · split at h
    · cases h
    · obtain ⟨⟨r, out⟩, -, h⟩ := Option.bind_eq_some_iff.mp h
      dsimp only at h
      split at h
      · cases h
      · obtain ⟨out', -, rfl⟩ := Option.map_eq_some_iff.mp h
        exact ⟨rfl, rfl⟩

lemma context_mainItem (h : p.mainItem it = some p') : p'.context = p.context.afterMain := by
  unfold MapParser.mainItem at h
  obtain ⟨q, hq, rfl⟩ := Option.map_eq_some_iff.mp h
  have hglobals : q.g = p.g ∧ q.stack = p.stack := by
    split at hq
    · split at hq
      · cases hq
      · obtain rfl := Option.some.inj hq
        exact ⟨rfl, rfl⟩
    · split at hq
      · cases hq
      · obtain rfl := Option.some.inj hq
        exact ⟨rfl, rfl⟩
    · exact globals_inputItem hq
    · obtain rfl := Option.some.inj hq
      exact ⟨rfl, rfl⟩
  unfold MapParser.context HidContext.afterMain
  simp only [hglobals.1, hglobals.2, Bool.false_eq_true, if_false]

/-- The parser holds the context of the next item. -/
lemma context_step (h : p.step it = some p') : p'.context = p.context.after it := by
  obtain ⟨kind, tag, size, value⟩ := it
  unfold MapParser.step at h
  dsimp only at h
  split at h
  · exact context_mainItem h
  · exact context_globalItem h
  · exact context_localItem h
  · obtain rfl := Option.some.inj h
    refine (HidContext.after_reserved _ fun n hn hkind => ?_).symm
    simp_all

/-- An item that is no Input item leaves fields and reports alone. -/
lemma out_step (h : p.step it = some p') (hin : ¬ it.IsInput) :
    p'.out.fields = p.out.fields ∧ p'.out.inputs = p.out.inputs := by
  unfold MapParser.step at h
  split at h
  · next hkind =>
    unfold MapParser.mainItem at h
    obtain ⟨q, hq, rfl⟩ := Option.map_eq_some_iff.mp h
    split at hq
    · split at hq
      · cases hq
      · obtain rfl := Option.some.inj hq
        exact ⟨rfl, rfl⟩
    · split at hq
      · cases hq
      · obtain rfl := Option.some.inj hq
        exact ⟨rfl, rfl⟩
    · next htag => exact absurd ⟨hkind, htag⟩ hin
    · obtain rfl := Option.some.inj hq
      exact ⟨rfl, rfl⟩
  · unfold MapParser.globalItem at h
    split at h
    all_goals try split at h
    all_goals first
      | (obtain rfl := Option.some.inj h; exact ⟨rfl, rfl⟩)
      | cases h
  · unfold MapParser.localItem at h
    split at h
    all_goals try split at h
    all_goals first
      | (obtain rfl := Option.some.inj h; exact ⟨rfl, rfl⟩)
      | cases h
  · obtain rfl := Option.some.inj h
    exact ⟨rfl, rfl⟩

end Context

/-! ## The elements of a field -/

namespace HogpField

/-- The `j`-th element of a field. -/
def element (f : HogpField) (j : Nat) : HidElement :=
  { offset := f.offset + j * f.size
    size := f.size
    meaning :=
      if f.isVariable then .control (f.page * 65536 + f.usageMin)
      else .selector (f.page * 65536 + f.usageMin) (f.page * 65536 + f.usageMax) f.logicalMin }

def elements (f : HogpField) : List HidElement := (List.range f.count).map f.element

/-- The first bit behind a field. -/
def last (f : HogpField) : Nat := f.offset + f.count * f.size

/-- A field has elements, and its usages are on one page. -/
structure Valid (f : HogpField) : Prop where
  count : 0 < f.count
  order : f.usageMin ≤ f.usageMax
  high : f.usageMax < 65536

end HogpField

/-- The fields of an Input item whose elements start at bit `start`. -/
structure Fields (it : InputItem) (start : Nat) (fs : List HogpField) : Prop where
  elements : fs.flatMap HogpField.elements = it.elements start
  id : ∀ f ∈ fs, f.reportId = it.id
  low : ∀ f ∈ fs, start ≤ f.offset
  high : ∀ f ∈ fs, f.last ≤ start + it.width
  apart : fs.Pairwise fun f g => f.last ≤ g.offset
  valid : ∀ f ∈ fs, f.Valid

/-- Both halves of a usage. -/
lemma usage_halves (u : Nat) : (u >>> 16) * 65536 + (u &&& 65535) = u := by
  have hlow : u &&& 65535 = u % 65536 := Nat.and_two_pow_sub_one_eq_mod u 16
  have hhigh : u >>> 16 = u / 65536 := Nat.shiftRight_eq_div_pow u 16
  omega

lemma and_low_lt (u : Nat) : u &&& 65535 < 65536 := Nat.lt_succ_of_le Nat.and_le_right

section Input

variable {p : MapParser} {v : Nat}

lemma vendor_iff : (p.item v).Vendor ↔ p.vendor = true := by
  unfold InputItem.Vendor MapParser.vendor MapParser.item MapParser.context
  cases hmin : p.haveMin <;> simp [and_assoc]

lemma meaningful_iff : (p.item v).Meaningful ↔ (!v.testBit 0) = true ∧ (!p.vendor) = true := by
  unfold InputItem.Meaningful
  rw [vendor_iff]
  unfold InputItem.Constant MapParser.item
  simp

/-- The fields that are pushed, one behind the other. -/
lemma foldlM_pushField {α : Type} {field : α → HogpField} {l : List α} {out out' : HogpReportMap}
    (h : l.foldlM (fun out a => out.pushField (field a)) out = some out') :
    out' = { out with fields := out.fields ++ l.map field } := by
  induction l generalizing out with
  | nil =>
    obtain rfl := Option.some.inj h
    simp
  | cons a l ih =>
    rw [List.foldlM_cons] at h
    obtain ⟨out₁, h₁, h₂⟩ := Option.bind_eq_some_iff.mp h
    unfold HogpReportMap.pushField at h₁
    split at h₁
    · cases h₁
    · obtain rfl := Option.some.inj h₁
      rw [ih h₂]
      simp

/-- One field for each variable element. -/
lemma fields_variable (hm : (p.item v).Meaningful) (hv : v.testBit 1 = true)
    (hmin : p.usages.length = 0 → p.haveMin = true) (hmax : p.haveMin = p.haveMax) (start : Nat) :
    Fields (p.item v) start ((List.range p.g.count).map (p.variableField start)) := by
  have husage (j : Nat) : (p.item v).usageAt j = p.usage j := by
    unfold InputItem.usageAt MapParser.usage InputItem.umin InputItem.umax MapParser.item
      MapParser.context
    by_cases hnil : p.usages = []
    · have hlow := hmin (by rw [hnil]; rfl)
      rw [hlow] at hmax
      simp only [hnil, hlow, ← hmax, if_true, Option.getD_some, List.length_nil, ne_eq,
        not_true_eq_false, if_false]
      split <;> omega
    · have hlen : p.usages.length ≠ 0 := fun h => hnil (List.length_eq_zero_iff.mp h)
      simp only [if_neg hnil, ne_eq, if_pos hlen]
      congr 1
      split <;> omega
  refine ⟨?_, ?_, ?_, ?_, ?_, ?_⟩
  · unfold InputItem.elements
    rw [if_pos hm, List.flatMap_map]
    change (List.range p.g.count).flatMap _ = (List.range p.g.count).map _
    rw [← List.flatMap_pure_eq_map]
    refine List.flatMap_congr fun j _ => ?_
    have hmeaning : (p.item v).meaningAt j = .control (p.usage j) := by
      unfold InputItem.meaningAt
      rw [if_pos (show (p.item v).Variable from hv), husage]
    simp only [HogpField.elements, HogpField.element, MapParser.variableField, List.range_one,
      List.map_singleton, Nat.zero_mul, Nat.add_zero, if_true, usage_halves, Function.comp_apply,
      hmeaning]
    rfl
  · intro f hf
    obtain ⟨j, -, rfl⟩ := List.mem_map.mp hf
    rfl
  · intro f hf
    obtain ⟨j, -, rfl⟩ := List.mem_map.mp hf
    exact Nat.le_add_right _ _
  · intro f hf
    obtain ⟨j, hj, rfl⟩ := List.mem_map.mp hf
    have hlt : (j + 1) * p.g.size ≤ p.g.count * p.g.size := Nat.mul_le_mul_right _ (List.mem_range.mp hj)
    change start + j * p.g.size + 1 * p.g.size ≤ start + p.g.size * p.g.count
    rw [Nat.mul_comm p.g.size]
    linarith
  · refine List.Pairwise.map _ (fun i j hij => ?_) List.pairwise_lt_range
    have hle : (i + 1) * p.g.size ≤ j * p.g.size := Nat.mul_le_mul_right _ hij
    change start + i * p.g.size + 1 * p.g.size ≤ start + j * p.g.size
    linarith
  · intro f hf
    obtain ⟨j, -, rfl⟩ := List.mem_map.mp hf
    exact ⟨Nat.one_pos, le_refl _, and_low_lt _⟩

/-- One field for an array. -/
lemma fields_array (hm : (p.item v).Meaningful) (hv : v.testBit 1 = false) (hmin : p.haveMin = true)
    (hmax : p.haveMin = p.haveMax) (horder : p.umin ≤ p.umax)
    (hpage : p.umax >>> 16 = p.umin >>> 16) (hcount : 0 < p.g.count) (start : Nat) : Fields (p.item v) start [p.arrayField start] := by
  have hlow : (p.item v).umin = p.umin := by
    unfold InputItem.umin MapParser.item MapParser.context
    simp only [hmin, if_true, Option.getD_some]
  have hhigh : (p.item v).umax = p.umax := by
    unfold InputItem.umax MapParser.item MapParser.context
    simp only [← hmax, hmin, if_true, Option.getD_some]
  have hmeaning (j : Nat) : (p.item v).meaningAt j = .selector p.umin p.umax p.g.lmin := by
    unfold InputItem.meaningAt
    rw [if_neg (show ¬ (p.item v).Variable from Bool.eq_false_iff.mp hv), hlow, hhigh]
    rfl
  refine ⟨?_, ?_, ?_, ?_, List.pairwise_singleton _ _, ?_⟩
  · unfold InputItem.elements
    rw [if_pos hm, List.flatMap_singleton]
    refine List.map_congr_left fun j _ => ?_
    have hupper : p.umin >>> 16 * 65536 + (p.umax &&& 65535) = p.umax := by
      rw [← hpage]
      exact usage_halves _
    simp only [HogpField.element, MapParser.arrayField, Bool.false_eq_true, if_false, usage_halves,
      hupper, hmeaning]
    rfl
  · intro f hf
    obtain rfl := List.mem_singleton.mp hf
    rfl
  · intro f hf
    obtain rfl := List.mem_singleton.mp hf
    exact le_refl _
  · intro f hf
    obtain rfl := List.mem_singleton.mp hf
    change start + p.g.count * p.g.size ≤ start + p.g.size * p.g.count
    rw [Nat.mul_comm]
  · intro f hf
    obtain rfl := List.mem_singleton.mp hf
    refine ⟨hcount, ?_, and_low_lt _⟩
    have hmin := usage_halves p.umin
    have hmax := usage_halves p.umax
    change p.umin &&& 65535 ≤ p.umax &&& 65535
    omega

lemma fields_addFields {start last : Nat} {out out' : HogpReportMap} (hm : (p.item v).Meaningful)
    (hcount : 0 < p.g.count) (h : p.addFields v start last out = some out') :
    ∃ fs, out' = { out with fields := out.fields ++ fs } ∧ Fields (p.item v) start fs := by
  unfold MapParser.addFields at h
  split at h
  · cases h
  · split at h
    · cases h
    · split at h
      · cases h
      · next hrange =>
        simp only [ne_eq, not_or, not_not, not_and] at hrange
        split at h
        · next hv =>
          split at h
          · cases h
          · next husage =>
            refine ⟨_, foldlM_pushField h, fields_variable hm hv (fun hlen => ?_) hrange.1 start⟩
            by_contra hmin
            exact husage ⟨hlen, by simpa using hmin⟩
        · next hv =>
          split at h
          · cases h
          · next harray =>
            simp only [not_or, Bool.not_eq_true', Bool.not_eq_false] at harray
            unfold HogpReportMap.pushField at h
            split at h
            · cases h
            · obtain rfl := Option.some.inj h
              obtain ⟨horder, hpage⟩ := hrange.2 harray.1
              exact ⟨_, rfl, fields_array hm (Bool.eq_false_iff.mpr hv) harray.1 hrange.1
                (Nat.le_of_not_lt horder) hpage hcount start⟩

end Input

/-! ## The parser lays out the Input items -/

/-- The fields and reports of the parser are what the Input items so far lay out. -/
structure Laid (ins : List InputItem) (out : HogpReportMap) : Prop where
  placed : ∀ id e, Places ins id e ↔ ∃ f ∈ out.fields, f.reportId = id ∧ e ∈ f.elements
  bits : ∀ r ∈ out.inputs, r.bits = bitsOf r.reportId ins ∧ r.bytes = (r.bits + 7) / 8
  known : ∀ it ∈ ins, ∃ r ∈ out.inputs, r.reportId = it.id
  inside : ∀ f ∈ out.fields, f.last ≤ bitsOf f.reportId ins
  apart : out.fields.Pairwise fun f g => f.reportId = g.reportId → f.last ≤ g.offset
  valid : ∀ f ∈ out.fields, f.Valid

lemma laid_nil : Laid [] {} where
  placed := fun _ _ => ⟨fun h => absurd h not_places_nil, fun ⟨_, hf, _⟩ => nomatch hf⟩
  bits := nofun
  known := nofun
  inside := nofun
  apart := .nil
  valid := nofun

namespace Laid

variable {ins : List InputItem} {out out' : HogpReportMap}

/-- Only fields and reports count. -/
lemma congr (h : Laid ins out) (hf : out'.fields = out.fields) (hi : out'.inputs = out.inputs) :
    Laid ins out' := by
  obtain ⟨placed, bits, known, inside, apart, valid⟩ := h
  rw [← hf] at placed inside apart valid
  rw [← hi] at bits known
  exact ⟨placed, bits, known, inside, apart, valid⟩

/-- A report of the id is found or added. -/
lemma report (h : Laid ins out) {g : HidGlobals} {r : HogpInputReport}
    (hr : out.report g = some (r, out')) :
    Laid ins out' ∧ out'.fields = out.fields ∧ r.bits = bitsOf g.id ins ∧
      ∃ r ∈ out'.inputs, r.reportId = g.id := by
  unfold HogpReportMap.report at hr
  split at hr
  · next r' hfind =>
    obtain ⟨rfl, rfl⟩ := Prod.mk.inj (Option.some.inj hr)
    have hid : r'.reportId = g.id := by simpa using List.find?_some hfind
    have hmem := List.mem_of_find?_eq_some hfind
    exact ⟨h, rfl, hid ▸ (h.bits r' hmem).1, r', hmem, hid⟩
  · next hfind =>
    split at hr
    · cases hr
    · obtain ⟨rfl, rfl⟩ := Prod.mk.inj (Option.some.inj hr)
      have hnew : bitsOf g.id ins = 0 := by
        have hnone : ins.filter (fun it => it.id = g.id) = [] := by
          rw [List.filter_eq_nil_iff]
          intro it hit heq
          obtain ⟨r, hr, hid⟩ := h.known it hit
          have hne := List.find?_eq_none.mp hfind r hr
          simp only [decide_eq_true_eq] at heq hne
          exact hne (hid.trans heq)
        unfold bitsOf
        rw [hnone]
        rfl
      refine ⟨⟨h.placed, ?_, ?_, h.inside, h.apart, h.valid⟩, rfl, hnew.symm, _,
        List.mem_append_right _ (List.mem_singleton_self _), rfl⟩
      · intro r hr
        rcases List.mem_append.mp hr with hr | hr
        · exact h.bits r hr
        · obtain rfl := List.mem_singleton.mp hr
          exact ⟨hnew.symm, by norm_num⟩
      · intro it hit
        obtain ⟨r, hr, hid⟩ := h.known it hit
        exact ⟨r, List.mem_append_left _ hr, hid⟩

/-- The fields of one more Input item come behind the others, and its report grows by its width. -/
lemma snoc (h : Laid ins out) {it : InputItem} {fs : List HogpField}
    (hfs : Fields it (bitsOf it.id ins) fs) (hr : ∃ r ∈ out.inputs, r.reportId = it.id) :
    Laid (ins ++ [it])
      (HogpReportMap.grow it.id (bitsOf it.id ins + it.width)
        { out with fields := out.fields ++ fs }) where
  placed := by
    intro id e
    -- the elements of the item are those of its fields
    have hmem : e ∈ it.elements (bitsOf it.id ins) ↔ ∃ f ∈ fs, e ∈ f.elements := by
      rw [← hfs.elements, List.mem_flatMap]
    rw [places_concat, h.placed id e]
    constructor
    · rintro (⟨f, hf, hid, he⟩ | ⟨rfl, he⟩)
      · exact ⟨f, List.mem_append_left _ hf, hid, he⟩
      · obtain ⟨f, hf, he⟩ := hmem.mp he
        exact ⟨f, List.mem_append_right _ hf, hfs.id f hf, he⟩
    · rintro ⟨f, hf, hid, he⟩
      rcases List.mem_append.mp hf with hf | hf
      · exact .inl ⟨f, hf, hid, he⟩
      · obtain rfl := (hfs.id f hf).symm.trans hid
        exact .inr ⟨rfl, hmem.mpr ⟨f, hf, he⟩⟩
  bits := by
    intro r hr
    obtain ⟨r', hr', rfl⟩ := List.mem_map.mp hr
    rw [bitsOf_concat]
    by_cases hid : r'.reportId = it.id
    · rw [if_pos hid]
      refine ⟨?_, rfl⟩
      dsimp only
      rw [if_pos hid.symm, hid]
    · rw [if_neg hid, if_neg (Ne.symm hid)]
      exact h.bits r' hr'
  known := by
    have hgrow {id : Nat} (h : ∃ r ∈ out.inputs, r.reportId = id) :
        ∃ r ∈ (HogpReportMap.grow it.id (bitsOf it.id ins + it.width)
          { out with fields := out.fields ++ fs }).inputs, r.reportId = id := by
      obtain ⟨r, hr, hid⟩ := h
      refine ⟨_, List.mem_map_of_mem hr, ?_⟩
      split
      · exact hid
      · exact hid
    intro x hx
    rcases List.mem_append.mp hx with hx | hx
    · exact hgrow (h.known x hx)
    · obtain rfl := List.mem_singleton.mp hx
      exact hgrow hr
  inside := by
    intro f hf
    rw [bitsOf_concat]
    rcases List.mem_append.mp hf with hf | hf
    · exact (h.inside f hf).trans (Nat.le_add_right _ _)
    · rw [hfs.id f hf, if_pos rfl]
      exact hfs.high f hf
  apart := by
    -- the fields of one item do not overlap, and they begin where the report ended
    have hnew : fs.Pairwise fun f g => f.reportId = g.reportId → f.last ≤ g.offset := by
      refine hfs.apart.imp ?_
      intro f g hle _
      exact hle
    refine List.pairwise_append.mpr ⟨h.apart, hnew, ?_⟩
    intro f hf g hg hid
    have hinside := h.inside f hf
    rw [hid, hfs.id g hg] at hinside
    exact hinside.trans (hfs.low g hg)
  valid := by
    intro f hf
    rcases List.mem_append.mp hf with hf | hf
    · exact h.valid f hf
    · exact hfs.valid f hf

/-- An Input item is laid out. -/
lemma inputItem {p p' : MapParser} {v : Nat} (h : Laid ins p.out) (hstep : p.inputItem v = some p') :
    Laid (ins ++ [p.item v]) p'.out := by
  unfold MapParser.inputItem at hstep
  split at hstep
  · cases hstep
  · next hsize =>
    have hcount : 0 < p.g.count := by
      by_contra hzero
      exact hsize (.inr (.inr (.inl (by omega))))
    split at hstep
    · cases hstep
    · obtain ⟨⟨r, out₁⟩, hr, hstep⟩ := Option.bind_eq_some_iff.mp hstep
      obtain ⟨h₁, hfields, hbits, hmem⟩ := h.report hr
      dsimp only at hstep
      split at hstep
      · cases hstep
      · obtain ⟨out₂, hadd, rfl⟩ := Option.map_eq_some_iff.mp hstep
        have hfs : ∃ fs, out₂ = { out₁ with fields := out₁.fields ++ fs } ∧
            Fields (p.item v) r.bits fs := by
          by_cases hm : (p.item v).Meaningful
          · rw [if_pos (meaningful_iff.mp hm)] at hadd
            exact fields_addFields hm hcount hadd
          · rw [if_neg fun hboth => hm (meaningful_iff.mpr hboth)] at hadd
            obtain rfl := Option.some.inj hadd
            refine ⟨[], by simp, ?_, nofun, nofun, nofun, .nil, nofun⟩
            unfold InputItem.elements
            rw [if_neg hm]
            rfl
        obtain ⟨fs, rfl, hfs⟩ := hfs
        rw [hbits] at hfs ⊢
        exact h₁.snoc hfs hmem

/-- One item of the descriptor. -/
lemma step {p p' : MapParser} {it : HidItem} (h : Laid ins p.out) (hstep : p.step it = some p') :
    Laid (ins ++ if it.IsInput then [p.item it.value] else []) p'.out := by
  by_cases hin : it.IsInput
  · rw [if_pos hin]
    unfold MapParser.step at hstep
    simp only [hin.1] at hstep
    unfold MapParser.mainItem at hstep
    simp only [hin.2] at hstep
    obtain ⟨q, hq, rfl⟩ := Option.map_eq_some_iff.mp hstep
    have hlaid := h.inputItem hq
    exact hlaid
  · rw [if_neg hin, List.append_nil]
    obtain ⟨hfields, hinputs⟩ := out_step hstep hin
    exact h.congr hfields hinputs

/-- The whole descriptor, by induction over its items. -/
lemma loop {fuel : Nat} {d : List UInt8} {p p' : MapParser} (h : Laid ins p.out)
    (hloop : p.loop fuel d = some p') :
    ∃ items, readItems fuel d = some items ∧ Laid (ins ++ inputItems p.context items) p'.out := by
  induction fuel generalizing d p ins with
  | zero =>
    cases d with
    | nil =>
      obtain rfl := Option.some.inj hloop
      exact ⟨[], rfl, by simpa [inputItems] using h⟩
    | cons first d => cases hloop
  | succ fuel ih =>
    cases d with
    | nil =>
      obtain rfl := Option.some.inj hloop
      exact ⟨[], rfl, by simpa [inputItems] using h⟩
    | cons first d =>
      unfold MapParser.loop at hloop
      obtain ⟨⟨it, rest⟩, hread, hloop⟩ := Option.bind_eq_some_iff.mp hloop
      obtain ⟨q, hq, hloop⟩ := Option.bind_eq_some_iff.mp hloop
      obtain ⟨items, hitems, hlaid⟩ := ih (h.step hq) hloop
      refine ⟨it :: items, ?_, ?_⟩
      · unfold readItems
        rw [hread, Option.bind_some]
        exact congrArg (Option.map (it :: ·)) hitems
      · rw [context_step hq, List.append_assoc] at hlaid
        unfold inputItems
        by_cases hin : it.IsInput
        · rwa [if_pos hin] at hlaid ⊢
        · rwa [if_neg hin] at hlaid ⊢

end Laid

/-! ## Decoding -/

/-- The key `k` is in a set of keys. -/
def HasKey (keys : UInt64) (k : Nat) : Prop := keys.toNat.testBit k = true

/-- An element presses the key `k`. -/
def HidElement.PressesKey (data : List UInt8) (e : HidElement) (k : Nat) : Prop :=
  k ≠ 0 ∧ ∃ u, e.Presses data u ∧ hogpUsageToKey (u >>> 16) (u % 65536) = k

lemma hasKey_pressKey {key k : Nat} {keys : UInt64} (hk : k < 64) :
    HasKey (pressKey key keys) k ↔ HasKey keys k ∨ (k ≠ 0 ∧ key = k) := by
  unfold pressKey HasKey
  by_cases hkey : key ≠ 0xffff ∧ key < 64 ∧ key ≠ 0
  · obtain ⟨-, hlt, hne⟩ := hkey
    have hbit : (1 <<< UInt64.ofNat key : UInt64).toNat = 2 ^ key := by
      have hofNat : (UInt64.ofNat key).toNat = key := UInt64.toNat_ofNat_of_lt (by
        rw [show UInt64.size = 2 ^ 64 from rfl]
        omega)
      rw [UInt64.toNat_shiftLeft, hofNat, UInt64.toNat_one, Nat.mod_eq_of_lt hlt, Nat.shiftLeft_eq,
        Nat.one_mul]
      exact Nat.mod_eq_of_lt (Nat.pow_lt_pow_right (by norm_num) hlt)
    rw [if_pos ⟨by omega, hlt, hne⟩, UInt64.toNat_or, Nat.testBit_or, hbit, Nat.testBit_two_pow,
      Bool.or_eq_true, decide_eq_true_eq]
    constructor
    · rintro (h | rfl)
      · exact .inl h
      · exact .inr ⟨hne, rfl⟩
    · rintro (h | ⟨-, rfl⟩)
      · exact .inl h
      · exact .inr rfl
  · rw [if_neg hkey]
    constructor
    · exact .inl
    · rintro (h | ⟨hne, rfl⟩)
      · exact h
      · exact absurd ⟨by omega, hk, hne⟩ hkey

/-- A step of the decoder fails on a fault, and otherwise adds the keys. -/
structure Presses (press : UInt64 → Option UInt64) (Fault : Prop) (Key : Nat → Prop) : Prop where
  none : ∀ keys, press keys = none ↔ Fault
  some : ∀ keys keys', press keys = some keys' → ∀ k < 64, (HasKey keys' k ↔ HasKey keys k ∨ Key k)

/-- Steps one behind the other fail on a fault of one of them, and otherwise add the keys of all. -/
lemma presses_foldlM {α : Type} {press : UInt64 → α → Option UInt64} {Fault : α → Prop}
    {Key : α → Nat → Prop} {l : List α} (h : ∀ a ∈ l, Presses (press · a) (Fault a) (Key a)) :
    Presses (l.foldlM press) (∃ a ∈ l, Fault a) (fun k => ∃ a ∈ l, Key a k) := by
  induction l with
  | nil =>
    refine ⟨fun keys => ⟨nofun, fun ⟨_, ha, _⟩ => nomatch ha⟩, ?_⟩
    rintro keys keys' heq k -
    obtain rfl := Option.some.inj heq
    simp
  | cons a l ih =>
    have ha := h a List.mem_cons_self
    have hl := ih fun x hx => h x (List.mem_cons_of_mem a hx)
    refine ⟨fun keys => ?_, ?_⟩
    · rw [List.foldlM_cons, List.exists_mem_cons_iff]
      cases hpress : press keys a with
      | none => exact ⟨fun _ => .inl ((ha.none keys).mp hpress), fun _ => rfl⟩
      | some keys₁ =>
        have hnot : ¬ Fault a := fun hfault => by
          rw [(ha.none keys).mpr hfault] at hpress
          cases hpress
        rw [or_iff_right hnot]
        exact hl.none keys₁
    · intro keys keys' heq k hk
      rw [List.foldlM_cons] at heq
      obtain ⟨keys₁, h₁, h₂⟩ := Option.bind_eq_some_iff.mp heq
      rw [List.exists_mem_cons_iff, hl.some keys₁ keys' h₂ k hk, ha.some keys keys₁ h₁ k hk, or_assoc]

namespace HogpField

variable {f : HogpField} (data : List UInt8) (j : Nat)

/-- A usage on the page of a field has both its halves. -/
lemma page_usage (page : Nat) {u : Nat} (hu : u < 65536) :
    (page * 65536 + u) >>> 16 = page ∧ (page * 65536 + u) % 65536 = u := by
  rw [Nat.shiftRight_eq_div_pow]
  omega

/-- A variable element. -/
lemma presses_control (hf : f.Valid) (hv : f.isVariable = true) :
    Presses (f.press data · j) ((f.element j).Faults data) ((f.element j).PressesKey data) := by
  obtain ⟨hpage, husage⟩ := page_usage f.page (hf.order.trans_lt hf.high)
  have hmeaning : (f.element j).meaning = .control (f.page * 65536 + f.usageMin) := by
    unfold HogpField.element
    rw [if_pos hv]
  have hfaults : ¬ (f.element j).Faults data := by
    unfold HidElement.Faults
    rw [hmeaning]
    exact not_false
  have hkeys (k : Nat) : (f.element j).PressesKey data k ↔
      f.value data j ≠ 0 ∧ k ≠ 0 ∧ hogpUsageToKey f.page f.usageMin = k := by
    unfold HidElement.PressesKey HidElement.Presses
    rw [hmeaning]
    constructor
    · rintro ⟨hk, u, ⟨hne, rfl⟩, hkey⟩
      rw [hpage, husage] at hkey
      exact ⟨hne, hk, hkey⟩
    · rintro ⟨hne, hk, hkey⟩
      exact ⟨hk, _, ⟨hne, rfl⟩, by rwa [hpage, husage]⟩
  unfold HogpField.press
  simp only [hv, if_true]
  refine ⟨fun keys => ?_, fun keys keys' heq k hk => ?_⟩
  · refine iff_of_false ?_ hfaults
    split
    · exact nofun
    · exact nofun
  · rw [hkeys]
    split at heq
    · next hzero =>
      obtain rfl := Option.some.inj heq
      rw [or_iff_left fun h => h.1 hzero]
    · next hne =>
      obtain rfl := Option.some.inj heq
      rw [hasKey_pressKey hk, and_iff_right hne]

/-- An array element. -/
lemma presses_selector (hf : f.Valid) (hv : ¬ f.isVariable = true) :
    Presses (f.press data · j) ((f.element j).Faults data) ((f.element j).PressesKey data) := by
  have horder := hf.order
  have hhigh := hf.high
  have hmeaning : (f.element j).meaning =
      .selector (f.page * 65536 + f.usageMin) (f.page * 65536 + f.usageMax) f.logicalMin := by
    unfold HogpField.element
    rw [if_neg hv]
  have hvalue : (f.element j).value data = f.value data j := rfl
  have hspan : f.page * 65536 + f.usageMax - (f.page * 65536 + f.usageMin) =
      f.usageMax - f.usageMin := by omega
  unfold HogpField.press HidElement.Faults
  simp only [Bool.eq_false_iff.mpr hv, Bool.false_eq_true, if_false, hmeaning, hvalue, hspan]
  by_cases hrange : f.value data j < f.logicalMin ∨
      f.value data j - f.logicalMin > f.usageMax - f.usageMin
  · simp only [if_pos hrange]
    refine ⟨fun keys => iff_of_true rfl ?_, nofun⟩
    rcases hrange with h | h
    · exact .inl h
    · exact .inr (.inl h)
  · simp only [if_neg hrange]
    -- the usage is on the page of the field
    have hsub : f.usageMin + f.value data j - f.logicalMin =
        f.usageMin + (f.value data j - f.logicalMin) := by omega
    have hlt : f.usageMin + (f.value data j - f.logicalMin) < 65536 := by omega
    obtain ⟨hpage, husage⟩ := page_usage f.page hlt
    have hkeys (k : Nat) : (f.element j).PressesKey data k ↔ k ≠ 0 ∧
        hogpUsageToKey f.page (f.usageMin + (f.value data j - f.logicalMin)) = k := by
      unfold HidElement.PressesKey HidElement.Presses
      simp only [hmeaning, hvalue, exists_eq_left, Nat.add_assoc, hpage, husage]
    rw [hsub, Nat.mod_eq_of_lt hlt, Nat.add_assoc, hpage, husage]
    simp only [List.mem_cons, List.not_mem_nil, or_false]
    by_cases hroll : f.page = 7 ∧ f.usageMin + (f.value data j - f.logicalMin) ≥ 1 ∧
        f.usageMin + (f.value data j - f.logicalMin) ≤ 3
    · simp only [if_pos hroll]
      exact ⟨fun keys => iff_of_true rfl (.inr (.inr ⟨hroll.1, by omega⟩)), nofun⟩
    · simp only [if_neg hroll]
      refine ⟨fun keys => iff_of_false nofun ?_, fun keys keys' heq k hk => ?_⟩
      · rintro (h | h | ⟨h7, hcode⟩)
        · exact hrange (.inl h)
        · exact hrange (.inr h)
        · exact hroll ⟨h7, by omega, by omega⟩
      · obtain rfl := Option.some.inj heq
        rw [hasKey_pressKey hk, hkeys]

/-- All elements of a field. -/
lemma presses_decode (hf : f.Valid) :
    Presses (f.decode data ·) (∃ e ∈ f.elements, e.Faults data)
      (fun k => ∃ e ∈ f.elements, e.PressesKey data k) := by
  have hall : Presses ((List.range f.count).foldlM (f.press data))
      (∃ j ∈ List.range f.count, (f.element j).Faults data)
      (fun k => ∃ j ∈ List.range f.count, (f.element j).PressesKey data k) := by
    refine presses_foldlM fun j _ => ?_
    by_cases hv : f.isVariable = true
    · exact presses_control data j hf hv
    · exact presses_selector data j hf hv
  unfold HogpField.elements
  simp only [List.mem_map, exists_exists_and_eq_and]
  exact hall

end HogpField

/-! ## A descriptor and its reports -/

/-- A report map decodes reports as Input items say. -/
structure Decodes (ins : List InputItem) (map : HogpReportMap) : Prop where
  /-- The map has the reports in which some element has a meaning. -/
  reports : ∀ id, (∃ r ∈ map.inputs, r.reportId = id) ↔ ∃ e, Places ins id e
  /-- Their length counts all Input items. -/
  bytes : ∀ r ∈ map.inputs, r.bytes = (bitsOf r.reportId ins + 7) / 8
  length : ∀ id data keys, hogpDecodeReport map id data = some keys →
    ∃ r ∈ map.inputs, r.reportId = id ∧ data.length = r.bytes
  /-- Only bytes of the report are read. -/
  inside : ∀ f ∈ map.fields, ∀ r ∈ map.inputs, f.reportId = r.reportId → ∀ j < f.count, ∀ k < f.size,
    (f.offset + j * f.size + k) / 8 < r.bytes
  /-- The elements of the map are the elements of the Input items. -/
  elements : ∀ id e, Places ins id e ↔ ∃ f ∈ map.fields, f.reportId = id ∧ e ∈ f.elements
  keys : ∀ id data keys, hogpDecodeReport map id data = some keys → ∀ k < 64,
    (HasKey keys k ↔ ∃ e, Places ins id e ∧ e.PressesKey data k)
  fails : ∀ data, ∀ r ∈ map.inputs, data.length = r.bytes →
    (hogpDecodeReport map r.reportId data = none ↔ ∃ e, Places ins r.reportId e ∧ e.Faults data)
  apart : map.fields.Pairwise fun f g => f.reportId = g.reportId → f.last ≤ g.offset

/-- What is left of a parser that has read the whole descriptor. -/
lemma finish_eq {p : MapParser} {map : HogpReportMap} (h : p.finish = some map) :
    map.fields = p.out.fields ∧
      map.inputs = p.out.inputs.filter fun r => p.out.fields.any (·.reportId = r.reportId) := by
  unfold MapParser.finish at h
  split at h
  · cases h
  · split at h
    · cases h
    · dsimp only at h
      split at h
      · cases h
      · split at h
        · cases h
        · obtain rfl := Option.some.inj h
          exact ⟨rfl, rfl⟩

/-- The fields of one report. -/
lemma presses_report {map : HogpReportMap} (hvalid : ∀ f ∈ map.fields, f.Valid) {ins : List InputItem}
    (hplaced : ∀ id e, Places ins id e ↔ ∃ f ∈ map.fields, f.reportId = id ∧ e ∈ f.elements) (id : Nat)
    (data : List UInt8) :
    Presses ((map.fields.filter (·.reportId = id)).foldlM (HogpField.decode data))
      (∃ e, Places ins id e ∧ e.Faults data) (fun k => ∃ e, Places ins id e ∧ e.PressesKey data k) := by
  have hall := presses_foldlM fun (f : HogpField) (hf : f ∈ map.fields.filter (·.reportId = id)) =>
    HogpField.presses_decode data (hvalid f (List.mem_of_mem_filter hf))
  have hmove (Q : HidElement → Prop) : (∃ e, Places ins id e ∧ Q e) ↔
      ∃ f ∈ map.fields.filter (·.reportId = id), ∃ e ∈ f.elements, Q e := by
    constructor
    · rintro ⟨e, he, hQ⟩
      obtain ⟨f, hf, hid, he⟩ := (hplaced id e).mp he
      exact ⟨f, List.mem_filter.mpr ⟨hf, decide_eq_true hid⟩, e, he, hQ⟩
    · rintro ⟨f, hf, e, he, hQ⟩
      obtain ⟨hf, hid⟩ := List.mem_filter.mp hf
      exact ⟨e, (hplaced id e).mpr ⟨f, hf, of_decide_eq_true hid, he⟩, hQ⟩
  simp only [hmove]
  exact hall

/-- For every accepted descriptor, reports are decoded as its Input items say. -/
theorem hogpReportMapParse_decodes {d : List UInt8} {map : HogpReportMap}
    (h : hogpReportMapParse d = some map) :
    ∃ items, hidItems d = some items ∧ Decodes (inputItems {} items) map := by
  unfold hogpReportMapParse at h
  split at h
  · cases h
  · obtain ⟨p, hloop, hfinish⟩ := Option.bind_eq_some_iff.mp h
    -- the loop has laid out every input item; what remains is to sort the fields
    obtain ⟨items, hitems, hlaid⟩ := laid_nil.loop hloop
    rw [List.nil_append] at hlaid
    refine ⟨items, hitems, ?_⟩
    change Laid (inputItems {} items) p.out at hlaid
    generalize inputItems {} items = ins at hlaid
    obtain ⟨hfields, hinputs⟩ := finish_eq hfinish
    have hplaced : ∀ id e, Places ins id e ↔ ∃ f ∈ map.fields, f.reportId = id ∧ e ∈ f.elements := by
      rw [hfields]
      exact hlaid.placed
    have hvalid : ∀ f ∈ map.fields, f.Valid := by
      rw [hfields]
      exact hlaid.valid
    -- a report is kept when it has a field
    have hmem {r : HogpInputReport} : r ∈ map.inputs ↔
        r ∈ p.out.inputs ∧ ∃ f ∈ map.fields, f.reportId = r.reportId := by
      rw [hinputs, hfields, List.mem_filter, List.any_eq_true]
      simp only [decide_eq_true_eq]
    have hbytes : ∀ r ∈ map.inputs, r.bytes = (bitsOf r.reportId ins + 7) / 8 := by
      intro r hr
      obtain ⟨hbits, hbytes⟩ := hlaid.bits r (hmem.mp hr).1
      rw [hbytes, hbits]
    -- a report is looked up by its id
    have hfind {id : Nat} {r : HogpInputReport} (hr : map.inputs.find? (·.reportId = id) = some r) :
        r ∈ map.inputs ∧ r.reportId = id := by
      have hid := List.find?_some hr
      exact ⟨List.mem_of_find?_eq_some hr, of_decide_eq_true hid⟩
    have hpress := presses_report hvalid hplaced
    refine ⟨fun id => ⟨?_, ?_⟩, hbytes, fun id data keys heq => ?_, ?_, hplaced,
      fun id data keys heq => ?_, fun data r hr hlen => ?_, ?_⟩
    · rintro ⟨r, hr, rfl⟩
      obtain ⟨-, f, hf, hid⟩ := hmem.mp hr
      have hfirst : f.element 0 ∈ f.elements :=
        List.mem_map_of_mem (List.mem_range.mpr (hvalid f hf).count)
      exact ⟨_, (hplaced _ _).mpr ⟨f, hf, hid, hfirst⟩⟩
    · rintro ⟨e, he⟩
      have hitem := he
      obtain ⟨before, it, later, rfl, rfl, -⟩ := hitem
      obtain ⟨f, hf, hid, -⟩ := (hplaced _ e).mp he
      obtain ⟨r, hr, hrid⟩ := hlaid.known it (by simp)
      exact ⟨r, hmem.mpr ⟨hr, f, hf, hid.trans hrid.symm⟩, hrid⟩
    · unfold hogpDecodeReport at heq
      split at heq
      · cases heq
      · next r hr =>
        obtain ⟨hr, hid⟩ := hfind hr
        split at heq
        · cases heq
        · next hlen => exact ⟨r, hr, hid, not_not.mp hlen⟩
    · intro f hf r hr hid j hj k hk
      have hin := hlaid.inside f (hfields ▸ hf)
      have hle : (j + 1) * f.size ≤ f.count * f.size := Nat.mul_le_mul_right _ hj
      have hrow : (j + 1) * f.size = j * f.size + f.size := Nat.succ_mul _ _
      unfold HogpField.last at hin
      rw [hbytes r hr, ← hid]
      omega
    · unfold hogpDecodeReport at heq
      split at heq
      · cases heq
      · split at heq
        · cases heq
        · intro k hk
          have hkeys := (hpress id data).some 0 keys heq k hk
          have hzero : ¬ HasKey 0 k := by
            unfold HasKey
            simp
          rwa [or_iff_right hzero] at hkeys
    · have hsome : ∃ r', map.inputs.find? (·.reportId = r.reportId) = some r' := by
        rw [← Option.isSome_iff_exists, List.find?_isSome]
        exact ⟨r, hr, decide_eq_true rfl⟩
      obtain ⟨r', hr'⟩ := hsome
      obtain ⟨hmem', hid⟩ := hfind hr'
      have hlen' : data.length = r'.bytes := by rw [hlen, hbytes r hr, hbytes r' hmem', hid]
      unfold hogpDecodeReport
      rw [hr']
      simp only [ne_eq, hlen', not_true_eq_false, if_false]
      exact (hpress r.reportId data).none 0
    · rw [hfields]
      exact hlaid.apart

/-- A keyboard: eight modifiers, a constant byte and an array of six keys. -/
def keyboardMap : List UInt8 :=
  [0x05, 0x01, 0x09, 0x06, 0xa1, 0x01, 0x85, 0x01, 0x05, 0x07, 0x19, 0xe0, 0x29, 0xe7, 0x15, 0x00, 0x25,
   0x01, 0x75, 0x01, 0x95, 0x08, 0x81, 0x02, 0x95, 0x01, 0x75, 0x08, 0x81, 0x01, 0x95, 0x06, 0x75, 0x08,
   0x15, 0x00, 0x26, 0xff, 0x00, 0x05, 0x07, 0x19, 0x00, 0x2a, 0xff, 0x00, 0x81, 0x00, 0xc0]

/-- The keyboard reports two keys, up and OK, and rejects a rollover code. -/
theorem keyboardMap_decodes : ∃ map items, hogpReportMapParse keyboardMap = some map ∧
    hidItems keyboardMap = some items ∧ Decodes (inputItems {} items) map ∧
    hogpDecodeReport map 1 [0, 0, 0x52, 0, 0, 0, 0, 0x28] = some 0x88 ∧
    hogpDecodeReport map 1 [0, 0, 0x01, 0, 0, 0, 0, 0x28] = none := by
  have hparse : (hogpReportMapParse keyboardMap).isSome = true := by decide +kernel
  obtain ⟨map, hmap⟩ := Option.isSome_iff_exists.mp hparse
  obtain ⟨items, hitems, hdecodes⟩ := hogpReportMapParse_decodes hmap
  have hruns : (hogpReportMapParse keyboardMap).map (fun map =>
      (hogpDecodeReport map 1 [0, 0, 0x52, 0, 0, 0, 0, 0x28],
        hogpDecodeReport map 1 [0, 0, 0x01, 0, 0, 0, 0, 0x28])) = some (some 0x88, none) := by
    decide +kernel
  rw [hmap] at hruns
  obtain ⟨hkeys, hroll⟩ := Prod.mk.inj (Option.some.inj hruns)
  exact ⟨map, items, hmap, hitems, hdecodes, hkeys, hroll⟩

end RemoteBridge
