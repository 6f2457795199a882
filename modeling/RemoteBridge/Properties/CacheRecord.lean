import RemoteBridge.Adapters.AttributeCache

/-!
# What a cache record keeps

The bytes of an exported record, read back at the places where the import reads them, are the attributes
they were written from.  What the import then makes of them is decided by the attributes alone: it takes a
record back exactly when its map is that of a known profile and each report characteristic has a handle of
its own and one of the three report types.

A record has a head of fixed layout, a part of fixed length for each report characteristic, and the map.
Each field is read back by a lemma of its own, and the import is then evaluated on the record as a whole
(`cacheImport_record`).  The voice reports of a Unicom remote are not in the record; the import finds them
again among the characteristics, as discovery did, and what it finds depends on the characteristics alone
(`VoiceAgree`).

Import may change what the attributes do not determine.  `SameRecord` is equality as far as an export can
see, and a record that is taken back gives the same record when it is exported again (`RestoresRecord`).

The checksum and the slots in which a record is stored belong to the cache and are not looked at here.
-/

namespace RemoteBridge

/-! ## Fields of a record -/

lemma get16_append {p : List UInt8} (q : List UInt8) {off : Nat} (h : off + 2 ≤ p.length) :
    get16 (p ++ q) off = get16 p off := by
  have hlen : 2 ≤ (p.drop off).length := by
    rw [List.length_drop]
    omega
  unfold get16
  rw [List.drop_append_of_le_length (by omega), List.take_append_of_le_length hlen]

lemma getD_append {p : List UInt8} (q : List UInt8) {i : Nat} (h : i < p.length) :
    (p ++ q).getD i 0 = p.getD i 0 := by
  rw [List.getD_eq_getElem?_getD, List.getElem?_append_left h, List.getD_eq_getElem?_getD]

/-- Reading a byte back from the middle of a buffer. -/
lemma getD_field (pre : List UInt8) {post : List UInt8} {x : UInt8} {i : Nat} (h : i = pre.length) :
    (pre ++ x :: post).getD i 0 = x := by
  rw [h, List.getD_eq_getElem?_getD, List.getElem?_append_right le_rfl, Nat.sub_self]
  rfl

lemma get16_put16 (v : UInt16) (q : List UInt8) : get16 (put16 v ++ q) 0 = v := get16_field [] q v rfl

/-- Blocks of one length, up to the `i`-th. -/
lemma drop_flatMap {α : Type} (f : α → List UInt8) {k : Nat} (hf : ∀ x, (f x).length = k) (l : List α)
    (i : Nat) : (l.flatMap f).drop (k * i) = (l.drop i).flatMap f := by
  induction l generalizing i with
  | nil => simp
  | cons x l ih =>
    cases i with
    | zero => rfl
    | succ i =>
      rw [List.flatMap_cons, List.drop_succ_cons, ← ih, Nat.mul_succ, Nat.add_comm,
        ← List.drop_drop, List.drop_left' (hf x)]

namespace ReportAttr

@[simp] lemma length_cached (c : ReportAttr) : c.cached.length = cacheChar := by simp [cached, cacheChar]

/-- A characteristic is read back from its bytes. -/
lemma ofCached_cached (c : ReportAttr) (q : List UInt8) : ofCached (c.cached ++ q) = c := by
  have hvalue : get16 (c.cached ++ q) 0 = c.valueHandle :=
    get16_field [] _ c.valueHandle rfl
  have hcccd : get16 (c.cached ++ q) 2 = c.cccdHandle := by
    rw [cached, List.append_assoc, List.append_assoc]
    exact get16_field _ _ c.cccdHandle rfl
  have href : get16 (c.cached ++ q) 4 = c.refHandle := by
    rw [cached, List.append_assoc]
    exact get16_field _ _ c.refHandle rfl
  obtain ⟨value, cccd, ref, id, type, properties, usage, subscribed⟩ := c
  unfold ofCached
  rw [hvalue, hcccd, href]
  cases subscribed <;> rfl

/-- A characteristic that an import accepts. -/
def Cacheable (c : ReportAttr) : Prop :=
  c.valueHandle ≠ 0 ∧ 1 ≤ c.reportType ∧ c.reportType ≤ 3 ∧ (c.subscribed = true → c.cccdHandle ≠ 0)

/-- The byte of `subscribed` is never above one. -/
lemma cachedCharOk_cached (c : ReportAttr) (q : List UInt8) :
    cachedCharOk (c.cached ++ q) = true ↔ c.Cacheable := by
  have hfields := ofCached_cached c q
  have hvalue : get16 (c.cached ++ q) 0 = c.valueHandle := congrArg valueHandle hfields
  have hcccd : get16 (c.cached ++ q) 2 = c.cccdHandle := congrArg cccdHandle hfields
  have htype : (c.cached ++ q).getD 7 0 = c.reportType := by
    have := congrArg reportType hfields
    exact this
  have hone : 1 ≤ c.reportType ↔ c.reportType ≠ 0 := by
    rw [UInt8.le_iff_toNat_le, ne_eq, ← UInt8.toNat_inj]
    exact Nat.one_le_iff_ne_zero
  have hsub : (c.cached ++ q).getD 10 0 = if c.subscribed then 1 else 0 := rfl
  unfold cachedCharOk Cacheable
  rw [hvalue, hcccd, htype, hsub, hone]
  cases c.subscribed <;> simp [and_assoc]

end ReportAttr

namespace Rc003

variable {a : Rc003} {cap : Nat} {peer : UInt32}

@[simp] lemma length_cacheHead (a : Rc003) : a.cacheHead.length = cacheHeader := by
  simp [cacheHead, handles, cacheMagic, cacheHeader]

@[simp] lemma length_body (chars : List ReportAttr) :
    (chars.flatMap ReportAttr.cached).length = cacheChar * chars.length := by
  rw [List.length_flatMap, List.map_congr_left fun c _ => c.length_cached, List.map_const', List.sum_replicate,
    Nat.mul_comm]
  rfl

/-- The record of an adapter. -/
def record (a : Rc003) : List UInt8 := a.cacheHead ++ a.chars.flatMap ReportAttr.cached ++ a.mapBuf

@[simp] lemma length_record (a : Rc003) : a.record.length = a.cacheLength := by
  rw [record, List.length_append, List.length_append, length_cacheHead, length_body]
  rfl

lemma record_eq (a : Rc003) :
    a.record = a.cacheHead ++ (a.chars.flatMap ReportAttr.cached ++ a.mapBuf) := List.append_assoc ..

/-- What is in the record of an adapter, where the import looks for it. -/
lemma get16_record (a : Rc003) {off : Nat} (h : off + 2 ≤ cacheHeader) :
    get16 a.record off = get16 a.cacheHead off := by
  rw [record_eq]
  exact get16_append _ (by rwa [length_cacheHead])

lemma getD_record (a : Rc003) {i : Nat} (h : i < cacheHeader) :
    a.record.getD i 0 = a.cacheHead.getD i 0 := by
  rw [record_eq]
  exact getD_append _ (by rwa [length_cacheHead])

lemma get16_handle (a : Rc003) {i : Nat} (h : i < 14) : get16 a.record (8 + 2 * i) = a.handles.getD i 0 := by
  rw [get16_record a (by unfold cacheHeader; omega)]
  interval_cases i <;> exact get16_put16 _ []

lemma drop_record (a : Rc003) (i : Nat) :
    cachedBytes a.record i = (a.chars.flatMap ReportAttr.cached ++ a.mapBuf).drop (cacheChar * i) := by
  unfold cachedBytes
  rw [record_eq, ← List.drop_drop, List.drop_left' a.length_cacheHead]

lemma cachedBytes_record {i : Nat} (h : i < a.chars.length) : cachedBytes a.record i =
    a.chars[i].cached ++ ((a.chars.drop (i + 1)).flatMap ReportAttr.cached ++ a.mapBuf) := by
  have hlen : cacheChar * i ≤ (a.chars.flatMap ReportAttr.cached).length := by
    rw [length_body]
    exact Nat.mul_le_mul_left _ h.le
  rw [drop_record, List.drop_append_of_le_length hlen, drop_flatMap _ ReportAttr.length_cached,
    List.drop_eq_getElem_cons h, List.flatMap_cons, List.append_assoc]

lemma map_record (a : Rc003) : a.record.drop (cacheHeader + cacheChar * a.chars.length) = a.mapBuf := by
  have hdrop := drop_record a a.chars.length
  rw [List.drop_left' (length_body _)] at hdrop
  exact hdrop

/-- The characteristics of a record are those it was written from. -/
lemma chars_record (a : Rc003) : ((List.range a.chars.length).map fun i =>
    ReportAttr.ofCached (cachedBytes a.record i)) = a.chars := by
  refine List.ext_getElem ?_ fun i _ hi => ?_
  · rw [List.length_map, List.length_range]
  · rw [List.getElem_map, List.getElem_range, cachedBytes_record hi, ReportAttr.ofCached_cached]

lemma cachedCharsOk_record (a : Rc003) : cachedCharsOk a.record a.chars.length = true ↔
    (∀ c ∈ a.chars, c.Cacheable) ∧ (a.chars.map ReportAttr.valueHandle).Nodup := by
  have hhandle {i : Nat} (hi : i < a.chars.length) :
      get16 (cachedBytes a.record i) 0 = a.chars[i].valueHandle := by
    rw [cachedBytes_record hi]
    exact congrArg ReportAttr.valueHandle (ReportAttr.ofCached_cached a.chars[i] _)
  have hnodup : (a.chars.map ReportAttr.valueHandle).Nodup ↔ ∀ i (hi : i < a.chars.length) j (hj : j < i),
      a.chars[i].valueHandle ≠ (a.chars.get ⟨j, hj.trans hi⟩).valueHandle := by
    rw [List.nodup_iff_pairwise_ne, List.pairwise_map, List.pairwise_iff_getElem]
    constructor
    · intro h i hi j hj
      exact (h j i (hj.trans hi) hi hj).symm
    · intro h j i _ hi hj
      exact (h i hi j hj).symm
  have hchars : (∀ c ∈ a.chars, c.Cacheable) ↔ ∀ i (hi : i < a.chars.length), a.chars[i].Cacheable :=
    List.forall_mem_iff_getElem
  unfold cachedCharsOk
  rw [hnodup, hchars, List.all_eq_true]
  simp only [List.mem_range, Bool.and_eq_true, List.all_eq_true, bne_iff_ne]
  constructor
  · intro h
    refine ⟨fun i hi => ?_, fun i hi j hj => ?_⟩
    · have hok := (h i hi).1
      rwa [cachedBytes_record hi, ReportAttr.cachedCharOk_cached] at hok
    · have hne := (h i hi).2 j hj
      rwa [hhandle hi, hhandle (hj.trans hi)] at hne
  · rintro ⟨hchars, hne⟩ i hi
    refine ⟨?_, fun j hj => ?_⟩
    · rw [cachedBytes_record hi, ReportAttr.cachedCharOk_cached]
      exact hchars i hi
    · rw [hhandle hi, hhandle (hj.trans hi)]
      exact hne i hi j hj

/-! ## The reports of a Unicom remote -/

/-- The voice handles of these reports agree. -/
structure VoiceAgree (ids : List UInt8) (u v : UnicomAttr) : Prop where
  fb : 0xfb ∈ ids → u.fb = v.fb
  fc : 0xfc ∈ ids → u.fc = v.fc
  f8 : 0xf8 ∈ ids → u.f8 = v.f8

namespace VoiceAgree

variable {ids : List UInt8} {id : UInt8} {u v : UnicomAttr}

lemma refl (ids : List UInt8) (u : UnicomAttr) : VoiceAgree ids u u :=
  ⟨fun _ => rfl, fun _ => rfl, fun _ => rfl⟩

lemma trans {x : UnicomAttr} (h : VoiceAgree ids u v) (h' : VoiceAgree ids v x) : VoiceAgree ids u x :=
  ⟨fun hm => (h.fb hm).trans (h'.fb hm), fun hm => (h.fc hm).trans (h'.fc hm),
    fun hm => (h.f8 hm).trans (h'.f8 hm)⟩

lemma symm (h : VoiceAgree ids u v) : VoiceAgree ids v u :=
  ⟨fun hm => (h.fb hm).symm, fun hm => (h.fc hm).symm, fun hm => (h.f8 hm).symm⟩

lemma cons (h : VoiceAgree ids u v) (h' : VoiceAgree [id] u v) : VoiceAgree (id :: ids) u v where
  fb hm := (List.mem_cons.mp hm).elim (fun he => h'.fb (List.mem_singleton.mpr he)) h.fb
  fc hm := (List.mem_cons.mp hm).elim (fun he => h'.fc (List.mem_singleton.mpr he)) h.fc
  f8 hm := (List.mem_cons.mp hm).elim (fun he => h'.f8 (List.mem_singleton.mpr he)) h.f8

/-- One characteristic is judged alike, and whichever it is it keeps the agreement.  A match brings the
voice handle of the report into agreement. -/
lemma report (h : VoiceAgree ids u v) (id : UInt8) (n : Nat) (ok : Bool) (c : ReportAttr) :
    (unicomReport id (u, n, ok) c).2 = (unicomReport id (v, n, ok) c).2 ∧
      VoiceAgree ids (unicomReport id (u, n, ok) c).1 (unicomReport id (v, n, ok) c).1 ∧
      ((unicomReport id (u, n, ok) c).2.2 = true → n < (unicomReport id (u, n, ok) c).2.1 →
        VoiceAgree [id] (unicomReport id (u, n, ok) c).1 (unicomReport id (v, n, ok) c).1) := by
  unfold unicomReport
  by_cases hskip : ok = false ∨ c.reportId ≠ id
  · simp only [if_pos hskip]
    exact ⟨trivial, h, fun _ hlt => absurd hlt (lt_irrefl _)⟩
  · simp only [if_neg hskip]
    by_cases hbad : c.reportType ≠ (if id = 0xfb ∨ id = 0xfa then 2 else 1) ∨
        (if id = 0xfb ∨ id = 0xfa then c.properties &&& 8 = 0
          else c.properties &&& 0x10 = 0 ∨ c.subscribed = false)
    · simp only [if_pos hbad]
      exact ⟨trivial, h, fun hf => absurd hf Bool.false_ne_true⟩
    · simp only [if_neg hbad]
      refine ⟨trivial, ⟨fun hm => ?_, fun hm => ?_, fun hm => ?_⟩,
        fun _ _ => ⟨fun hm => ?_, fun hm => ?_, fun hm => ?_⟩⟩
      · rw [h.fb hm]
      · rw [h.fc hm]
      · rw [h.f8 hm]
      all_goals rw [List.mem_singleton] at hm; subst hm; rfl

/-- The number of matches only grows. -/
lemma le_report (id : UInt8) (s : UnicomAttr × Nat × Bool) (c : ReportAttr) :
    s.2.1 ≤ (unicomReport id s c).2.1 := by
  unfold unicomReport
  dsimp only
  split
  · exact le_rfl
  · rw [apply_ite Prod.snd, apply_ite Prod.fst]
    split_ifs <;> exact Nat.le_succ _

/-- After a fault nothing is judged any more. -/
lemma report_stopped {s : UnicomAttr × Nat × Bool} (h : s.2.2 = false) (c : ReportAttr) :
    unicomReport id s c = s := by
  unfold unicomReport
  rw [if_pos (.inl h)]

lemma ok_foldl {s : UnicomAttr × Nat × Bool} (chars : List ReportAttr)
    (h : (chars.foldl (unicomReport id) s).2.2 = true) : s.2.2 = true := by
  induction chars generalizing s with
  | nil => exact h
  | cons c chars ih =>
    by_contra hs
    rw [List.foldl_cons, report_stopped (Bool.not_eq_true _ ▸ hs)] at h
    exact hs (ih h)

lemma reports (h : VoiceAgree ids u v) (id : UInt8) (n : Nat) (ok : Bool) (chars : List ReportAttr) :
    (chars.foldl (unicomReport id) (u, n, ok)).2 = (chars.foldl (unicomReport id) (v, n, ok)).2 ∧
      VoiceAgree ids (chars.foldl (unicomReport id) (u, n, ok)).1
        (chars.foldl (unicomReport id) (v, n, ok)).1 ∧
      ((chars.foldl (unicomReport id) (u, n, ok)).2.2 = true →
        n < (chars.foldl (unicomReport id) (u, n, ok)).2.1 →
        VoiceAgree [id] (chars.foldl (unicomReport id) (u, n, ok)).1
          (chars.foldl (unicomReport id) (v, n, ok)).1) := by
  induction chars generalizing ids u v n ok with
  | nil => exact ⟨rfl, h, fun _ hlt => absurd hlt (lt_irrefl _)⟩
  | cons c chars ih =>
    obtain ⟨hsame, hkeep, hnew⟩ := h.report id n ok c
    rw [List.foldl_cons, List.foldl_cons]
    have hu : unicomReport id (u, n, ok) c = ((unicomReport id (u, n, ok) c).1,
      (unicomReport id (u, n, ok) c).2.1, (unicomReport id (u, n, ok) c).2.2) := rfl
    have hv : unicomReport id (v, n, ok) c = ((unicomReport id (v, n, ok) c).1,
      (unicomReport id (u, n, ok) c).2.1, (unicomReport id (u, n, ok) c).2.2) := by rw [hsame]
    rw [hu, hv]
    obtain ⟨hsame', hkeep', hnew'⟩ :=
      ih hkeep (unicomReport id (u, n, ok) c).2.1 (unicomReport id (u, n, ok) c).2.2
    refine ⟨hsame', hkeep', fun hok hlt => ?_⟩
    -- Either this characteristic matched, and the rest keeps what it set, or the rest has a match.
    rcases (le_report id (u, n, ok) c).eq_or_lt with heq | hmatch
    · exact hnew' hok (heq ▸ hlt)
    · exact (ih (hnew (ok_foldl chars hok) hmatch) _ _).2.1

/-- Both are complete or neither is. -/
lemma unicomId (h : VoiceAgree ids u v) (id : UInt8) (ok : Bool) (chars : List ReportAttr) :
    (Rc003.unicomId chars (u, ok) id).2 = (Rc003.unicomId chars (v, ok) id).2 ∧
      VoiceAgree ids (Rc003.unicomId chars (u, ok) id).1 (Rc003.unicomId chars (v, ok) id).1 ∧
      ((Rc003.unicomId chars (u, ok) id).2 = true →
        VoiceAgree (id :: ids) (Rc003.unicomId chars (u, ok) id).1 (Rc003.unicomId chars (v, ok) id).1) := by
  obtain ⟨hsame, hkeep, hnew⟩ := h.reports id 0 true chars
  unfold Rc003.unicomId
  by_cases hok : ok = false
  · simp only [if_pos hok]
    exact ⟨trivial, h, fun ht => absurd hok (by rw [ht]; decide)⟩
  · simp only [if_neg hok]
    refine ⟨by rw [hsame], hkeep, fun ht => hkeep.cons ?_⟩
    obtain ⟨htrue, hone⟩ := Bool.and_eq_true_iff.mp ht
    exact hnew htrue (by rw [eq_of_beq hone]; decide)

lemma stopped (chars : List ReportAttr) (u : UnicomAttr) (ids : List UInt8) :
    ids.foldl (Rc003.unicomId chars) (u, false) = (u, false) := by
  induction ids with
  | nil => rfl
  | cons id ids ih =>
    rw [List.foldl_cons]
    exact ih

lemma foldl_ids (h : VoiceAgree ids u v) (ok : Bool) (chars : List ReportAttr) (rest : List UInt8) :
    (rest.foldl (Rc003.unicomId chars) (u, ok)).2 = (rest.foldl (Rc003.unicomId chars) (v, ok)).2 ∧
      ((rest.foldl (Rc003.unicomId chars) (u, ok)).2 = true →
        VoiceAgree (rest.reverse ++ ids) (rest.foldl (Rc003.unicomId chars) (u, ok)).1
          (rest.foldl (Rc003.unicomId chars) (v, ok)).1) := by
  induction rest generalizing ids u v ok with
  | nil => exact ⟨rfl, fun _ => h⟩
  | cons id rest ih =>
    obtain ⟨hsame, -, hnew⟩ := h.unicomId id ok chars
    rw [List.foldl_cons, List.foldl_cons]
    cases hok : (Rc003.unicomId chars (u, ok) id).2 with
    | false =>
      have hu : Rc003.unicomId chars (u, ok) id = ((Rc003.unicomId chars (u, ok) id).1, false) :=
        Prod.ext rfl hok
      have hv : Rc003.unicomId chars (v, ok) id = ((Rc003.unicomId chars (v, ok) id).1, false) :=
        Prod.ext rfl (hsame.symm.trans hok)
      rw [hu, hv, stopped, stopped]
      exact ⟨rfl, fun ht => absurd ht Bool.false_ne_true⟩
    | true =>
      have hu : Rc003.unicomId chars (u, ok) id = ((Rc003.unicomId chars (u, ok) id).1, true) :=
        Prod.ext rfl hok
      have hv : Rc003.unicomId chars (v, ok) id = ((Rc003.unicomId chars (v, ok) id).1, true) :=
        Prod.ext rfl (hsame.symm.trans hok)
      rw [hu, hv, List.reverse_cons, List.append_assoc]
      exact ih (hnew hok) true

end VoiceAgree

/-- The reports the voice handles come from. -/
def voiceIds : List UInt8 := [0xfb, 0xfc, 0xf8]

lemma VoiceAgree.all {ids : List UInt8} {u v : UnicomAttr} (h : VoiceAgree ids u v) (hids : voiceIds ⊆ ids) :
    VoiceAgree voiceIds u v :=
  ⟨fun hm => h.fb (hids hm), fun hm => h.fc (hids hm), fun hm => h.f8 (hids hm)⟩

/-- What `unicom_reports` finds depends on the characteristics alone. -/
lemma unicomReports_agree {a a' : Rc003} (hchars : a'.chars = a.chars) :
    a.unicomReports.2 = a'.unicomReports.2 ∧
      (a.unicomReports.2 = true → VoiceAgree voiceIds a.unicomReports.1 a'.unicomReports.1) := by
  have hnone : VoiceAgree [] a.unicom a'.unicom := 
    ⟨fun hm => absurd hm List.not_mem_nil, fun hm => absurd hm List.not_mem_nil,
      fun hm => absurd hm List.not_mem_nil⟩
  obtain ⟨hsame, hnew⟩ := hnone.foldl_ids true a.chars [1, 3, 0xfc, 0xfb, 0xf8, 0xfa, 0xf9, 4]
  unfold unicomReports
  rw [hchars]
  by_cases hlen : a.chars.length ≠ 8
  · rw [if_pos hlen, if_pos hlen]
    exact ⟨rfl, fun ht => absurd ht Bool.false_ne_true⟩
  · rw [if_neg hlen, if_neg hlen]
    exact ⟨hsame, fun hok => (hnew hok).all (by decide)⟩

/-- It leaves the other attributes of the voice service alone. -/
def UnicomSame (u v : UnicomAttr) : Prop :=
  v.selected = u.selected ∧ v.hello = u.hello ∧ v.fd = u.fd ∧ v.fdCccd = u.fdCccd

lemma unicomReport_same (id : UInt8) (chars : List ReportAttr) (s : UnicomAttr × Nat × Bool) :
    UnicomSame s.1 (chars.foldl (unicomReport id) s).1 := by
  induction chars generalizing s with
  | nil => exact ⟨rfl, rfl, rfl, rfl⟩
  | cons c chars ih =>
    have hstep : UnicomSame s.1 (unicomReport id s c).1 := by
      unfold unicomReport
      dsimp only
      split_ifs <;> exact ⟨rfl, rfl, rfl, rfl⟩
    obtain ⟨h₁, h₂, h₃, h₄⟩ := ih (unicomReport id s c)
    exact ⟨h₁.trans hstep.1, h₂.trans hstep.2.1, h₃.trans hstep.2.2.1, h₄.trans hstep.2.2.2⟩

lemma unicomReports_same (a : Rc003) : UnicomSame a.unicom a.unicomReports.1 := by
  have hids (s : UnicomAttr × Bool) (ids : List UInt8) :
      UnicomSame s.1 (ids.foldl (unicomId a.chars) s).1 := by
    induction ids generalizing s with
    | nil => exact ⟨rfl, rfl, rfl, rfl⟩
    | cons id ids ih =>
      have hstep : UnicomSame s.1 (unicomId a.chars s id).1 := by
        unfold unicomId
        split
        · exact ⟨rfl, rfl, rfl, rfl⟩
        · exact unicomReport_same id a.chars _
      obtain ⟨h₁, h₂, h₃, h₄⟩ := ih (unicomId a.chars s id)
      exact ⟨h₁.trans hstep.1, h₂.trans hstep.2.1, h₃.trans hstep.2.2.1, h₄.trans hstep.2.2.2⟩
  unfold unicomReports
  split
  · exact ⟨rfl, rfl, rfl, rfl⟩
  · exact hids _ _

/-- The voice handles of a Unicom remote are those of its reports. -/
structure VoiceFound (a : Rc003) : Prop where
  complete : a.unicomReports.2 = true
  found : VoiceAgree voiceIds a.unicom a.unicomReports.1

namespace VoiceFound

variable {a' : Rc003}

/-- They are found again whatever the handles were before. -/
lemma again (h : VoiceFound a) (hchars : a'.chars = a.chars) :
    a'.unicomReports.2 = true ∧ VoiceAgree voiceIds a.unicom a'.unicomReports.1 := by
  obtain ⟨hsame, hagree⟩ := unicomReports_agree hchars
  exact ⟨hsame.symm.trans h.complete, h.found.trans (hagree h.complete)⟩

lemma congr (h : VoiceFound a) (hchars : a'.chars = a.chars) (hu : VoiceAgree voiceIds a.unicom a'.unicom) :
    VoiceFound a' := by
  obtain ⟨hcomplete, hfound⟩ := h.again hchars
  exact ⟨hcomplete, hu.symm.trans hfound⟩

lemma of_reports (h : a.unicomReports.2 = true) : VoiceFound { a with unicom := a.unicomReports.1 } := by
  have hchars : ({ a with unicom := a.unicomReports.1 } : Rc003).chars = a.chars := rfl
  obtain ⟨hsame, hagree⟩ := unicomReports_agree hchars
  exact ⟨hsame.symm.trans h, hagree h⟩

end VoiceFound

/-! ## Export -/

/-- The attributes that are in a record. -/
structure SameRecord (a a' : Rc003) : Prop where
  selected : a'.unicom.selected = a.unicom.selected
  boot : a'.rc003BootLayout = a.rc003BootLayout
  handles : a'.handles = a.handles
  chars : a'.chars = a.chars
  map : a'.mapBuf = a.mapBuf
  hidFlags : a'.hidFlags = a.hidFlags
  hidInfoValid : a'.hidInfoValid = a.hidInfoValid
  voiceKeyVerified : a'.voiceKeyVerified = a.voiceKeyVerified
  atvvPresent : a'.atvvPresent = a.atvvPresent

lemma SameRecord.record_eq {a' : Rc003} (h : SameRecord a a') : a'.record = a.record := by
  unfold record cacheHead cacheFlags cacheLength
  rw [h.selected, h.boot, h.handles, h.chars, h.map, h.hidFlags, h.hidInfoValid, h.voiceKeyVerified,
    h.atvvPresent]

/-- The condition of an export. -/
structure Exports (a : Rc003) (cap : Nat) : Prop where
  valid : a.cacheValid = true
  safe : a.cacheSafe = true
  peer : a.cachePeerId ≠ 0
  chars : a.chars.length ≠ 0
  map : a.mapBuf.length ≤ hogpMaxMapSize
  cap : a.cacheLength ≤ cap

lemma Exports.eq (h : Exports a cap) : a.cacheExport cap = a.record := by
  unfold cacheExport
  rw [if_neg]
  · rfl
  · rintro (hf | hf | hf | hf | hf | hf | hf)
    · exact Bool.false_ne_true (hf.symm.trans h.valid)
    · exact Bool.false_ne_true (hf.symm.trans h.safe)
    · exact h.peer hf
    · exact h.chars hf
    · exact absurd a.fits (not_le.mpr hf)
    · exact absurd h.map (not_le.mpr hf)
    · exact absurd h.cap (not_le.mpr hf)

lemma Exports.congr {a' : Rc003} (h : Exports a cap) (hs : SameRecord a a') (hvalid : a'.cacheValid = true)
    (hsafe : a'.cacheSafe = true) (hpeer : a'.cachePeerId ≠ 0) : Exports a' cap where
  valid := hvalid
  safe := hsafe
  peer := hpeer
  chars := by rw [hs.chars]; exact h.chars
  map := by rw [hs.map]; exact h.map
  cap := by
    unfold cacheLength
    rw [hs.chars, hs.map]
    exact h.cap

lemma exports_of_ne (h : a.cacheExport cap ≠ []) : Exports a cap := by
  unfold cacheExport at h
  split_ifs at h with hno
  · exact absurd rfl h
  · simp only [not_or, Bool.not_eq_false, not_lt] at hno
    obtain ⟨hvalid, hsafe, hpeer, hchars, -, hmap, hcap⟩ := hno
    exact ⟨hvalid, hsafe, hpeer, hchars, hmap, hcap⟩

/-! ## Import -/

/-- The attributes of a discovery that came to its end. -/
structure Gathered (a : Rc003) : Prop where
  short : a.mapBuf.length ≤ hogpMaxMapSize
  subscribed : ∀ c ∈ a.chars, c.subscribed = true → c.cccdHandle ≠ 0
  changed : a.serviceChangedHandle ≠ 0 → a.serviceChangedCccd ≠ 0
  selected : a.unicom.selected = (a.mapBuf == unicomMap)
  boot : a.rc003BootLayout = bootLayoutMap a.mapBuf
  unicom : a.unicom.selected = true → a.unicom.fd ≠ 0 ∧ a.unicom.fdCccd ≠ 0 ∧ VoiceFound a
  atvv : a.unicom.selected = false → (hogpReportMapParse a.mapBuf).isSome = true ∧
    a.atvvPresent = true ∧ a.atvvTxHandle ≠ 0 ∧ a.atvvCtlHandle ≠ 0 ∧ a.atvvCtlCccd ≠ 0 ∧
      a.atvvAudioHandle ≠ 0 ∧ a.atvvAudioCccd ≠ 0

/-- The attributes that something is known of. -/
def attributes (a : Rc003) : List ReportAttr × List UInt8 × List UInt16 × List Bool :=
  (a.chars, a.mapBuf,
    [a.atvvTxHandle, a.atvvCtlHandle, a.atvvCtlCccd, a.atvvAudioHandle, a.atvvAudioCccd,
      a.serviceChangedHandle, a.serviceChangedCccd, a.unicom.fd, a.unicom.fdCccd, a.unicom.fb, a.unicom.fc,
      a.unicom.f8],
    [a.unicom.selected, a.rc003BootLayout, a.atvvPresent])

lemma Gathered.congr {a' : Rc003} (h : Gathered a) (hs : a'.attributes = a.attributes) : Gathered a' := by
  simp only [attributes, Prod.mk.injEq, List.cons.injEq] at hs
  obtain ⟨hchars, hmap, ⟨htx, hctl, hctlCccd, haudio, haudioCccd, hchanged, hcccd, hfd, hfdCccd, hfb, hfc,
    hf8, -⟩, hselected, hboot, hpresent, -⟩ := hs
  refine ⟨?_, ?_, ?_, ?_, ?_, fun hs => ?_, fun hs => ?_⟩
  · rw [hmap]; exact h.short
  · rw [hchars]; exact h.subscribed
  · rw [hchanged, hcccd]; exact h.changed
  · rw [hselected, hmap]; exact h.selected
  · rw [hboot, hmap]; exact h.boot
  · obtain ⟨hfd', hfdCccd', hvoice⟩ := h.unicom (hselected.symm.trans hs)
    rw [hfd, hfdCccd]
    exact ⟨hfd', hfdCccd',
      hvoice.congr hchars ⟨fun _ => hfb.symm, fun _ => hfc.symm, fun _ => hf8.symm⟩⟩
  · rw [hmap, hpresent, htx, hctl, hctlCccd, haudio, haudioCccd]
    exact h.atvv (hselected.symm.trans hs)

/-- The two known maps differ. -/
lemma Gathered.not_both (h : Gathered a) : ¬(a.unicom.selected = true ∧ a.rc003BootLayout = true) := by
  rintro ⟨hselected, hboot⟩
  rw [h.selected, beq_iff_eq] at hselected
  rw [h.boot, hselected, bootLayoutMap, Bool.and_eq_true, beq_iff_eq] at hboot
  exact absurd hboot.1 (by decide +kernel)

/-- The attributes that an import takes back. -/
structure Restorable (a : Rc003) : Prop where
  profile : a.unicom.selected = true ∨ a.rc003BootLayout = true
  chars : ∀ c ∈ a.chars, c.valueHandle ≠ 0 ∧ 1 ≤ c.reportType ∧ c.reportType ≤ 3
  handles : (a.chars.map ReportAttr.valueHandle).Nodup

section Restore

variable {p map : List UInt8} {unicom xiaomi : Bool} {count : Nat} (h : count ≤ maxReportChars)

lemma restoreAttributes_handles : (restoreAttributes p map unicom xiaomi count h).handles =
    (List.range 14).map fun i => get16 p (8 + 2 * i) := rfl

lemma restoreAttributes_hidInfoValid :
    (restoreAttributes p map unicom xiaomi count h).hidInfoValid = (p.getD 39 0 != 0) := rfl

lemma restoreAttributes_voiceKeyVerified :
    (restoreAttributes p map unicom xiaomi count h).voiceKeyVerified = (p.getD 6 0 &&& 4 != 0) := rfl

lemma restoreAttributes_atvvPresent :
    (restoreAttributes p map unicom xiaomi count h).atvvPresent = (p.getD 6 0 &&& 8 != 0) := rfl

end Restore

lemma handles_record (a : Rc003) : ((List.range 14).map fun i => get16 a.record (8 + 2 * i)) = a.handles := by
  refine List.ext_getElem ?_ fun i _ hi => ?_
  · rw [List.length_map, List.length_range]
    rfl
  · rw [List.getElem_map, List.getElem_range, get16_handle a hi, List.getD_eq_getElem _ _ hi]

lemma flags_record (a : Rc003) : a.record.getD 6 0 = a.cacheFlags := by
  rw [getD_record a (by decide)]
  exact getD_field (cacheMagic ++ put16 (UInt16.ofNat a.cacheLength)) rfl

lemma count_record (a : Rc003) : a.record.getD 7 0 = UInt8.ofNat a.chars.length := by
  rw [getD_record a (by decide)]
  exact getD_field (cacheMagic ++ put16 (UInt16.ofNat a.cacheLength) ++ [a.cacheFlags]) rfl

/-- The header up to the handles. -/
lemma cacheHead_eq (a : Rc003) : ∃ pre : List UInt8, pre.length = 38 ∧ a.cacheHead =
    pre ++ a.hidFlags :: (if a.hidInfoValid then 1 else 0) ::
      (put16 (UInt16.ofNat a.mapBuf.length) ++ List.replicate 6 0) := by
  refine ⟨cacheMagic ++ put16 (UInt16.ofNat a.cacheLength) ++
    [a.cacheFlags, UInt8.ofNat a.chars.length] ++ a.handles.flatMap put16 ++ [0, 0], ?_, ?_⟩
  · simp [handles, cacheMagic]
  · unfold cacheHead
    simp only [List.append_assoc, List.cons_append, List.nil_append]

lemma hidFlags_record (a : Rc003) : a.record.getD 38 0 = a.hidFlags := by
  obtain ⟨pre, hpre, heq⟩ := cacheHead_eq a
  rw [getD_record a (by decide), heq]
  exact getD_field pre hpre.symm

lemma hidInfoValid_record (a : Rc003) :
    a.record.getD 39 0 = if a.hidInfoValid then 1 else 0 := by
  obtain ⟨pre, hpre, heq⟩ := cacheHead_eq a
  rw [getD_record a (by decide), heq, ← List.singleton_append, ← List.append_assoc]
  exact getD_field (pre ++ [a.hidFlags]) (by rw [List.length_append, hpre]; rfl)

lemma toNat_ofNat16 {n : Nat} (h : n < 65536) : (UInt16.ofNat n).toNat = n := by
  rw [UInt16.toNat_ofNat', Nat.mod_eq_of_lt h]

lemma mapLength_record (a : Rc003) : get16 a.record 40 = UInt16.ofNat a.mapBuf.length := by
  obtain ⟨pre, hpre, heq⟩ := cacheHead_eq a
  rw [get16_record a (by decide), heq, ← List.singleton_append, ← List.singleton_append (l := _ ++ _),
    ← List.append_assoc, ← List.append_assoc, ← List.append_assoc]
  exact get16_field _ _ _ (by simp [hpre])

lemma length_in_record (a : Rc003) : get16 a.record 4 = UInt16.ofNat a.cacheLength := by
  rw [get16_record a (by decide)]
  unfold cacheHead
  simp only [List.append_assoc]
  rw [← List.append_assoc]
  exact get16_field cacheMagic _ _ rfl

lemma magic_record (a : Rc003) : a.record.take 4 = cacheMagic := by
  rw [record_eq]
  unfold cacheHead
  simp only [List.append_assoc]
  exact List.take_left' rfl

/-- What an import reads in the record of an adapter are the attributes of the adapter. -/
lemma restoreAttributes_record (a : Rc003) : SameRecord a
    (restoreAttributes a.record a.mapBuf a.unicom.selected a.rc003BootLayout a.chars.length a.fits) where
  selected := rfl
  boot := rfl
  handles := (restoreAttributes_handles a.fits).trans (handles_record a)
  chars := chars_record a
  map := rfl
  hidFlags := hidFlags_record a
  hidInfoValid := by
    rw [restoreAttributes_hidInfoValid, hidInfoValid_record]
    cases a.hidInfoValid <;> rfl
  voiceKeyVerified := by
    rw [restoreAttributes_voiceKeyVerified, flags_record]
    unfold cacheFlags
    cases a.unicom.selected <;> cases a.rc003BootLayout <;> cases a.voiceKeyVerified <;>
      cases a.atvvPresent <;> rfl
  atvvPresent := by
    rw [restoreAttributes_atvvPresent, flags_record]
    unfold cacheFlags
    cases a.unicom.selected <;> cases a.rc003BootLayout <;> cases a.voiceKeyVerified <;>
      cases a.atvvPresent <;> rfl

/-- The checks of an import on the header of an exported record. -/
lemma head_record (h : Exports a cap) :
    (a.record.getD 7 0).toNat = a.chars.length ∧ (get16 a.record 40).toNat = a.mapBuf.length ∧
      (get16 a.record 4).toNat = a.record.length := by
  have hchars := a.fits
  have hmap := h.map
  have hlen : a.cacheLength < 65536 := by
    unfold cacheLength cacheHeader cacheChar
    unfold maxReportChars at hchars
    unfold hogpMaxMapSize at hmap
    omega
  refine ⟨?_, ?_, ?_⟩
  · rw [count_record, UInt8.toNat_ofNat', Nat.mod_eq_of_lt]
    unfold maxReportChars at hchars
    omega
  · unfold hogpMaxMapSize at hmap
    rw [mapLength_record, toNat_ofNat16 (by omega)]
  · rw [length_in_record, toNat_ofNat16 hlen, length_record]

/-- The import of an exported record, once its header is checked. -/
lemma cacheImport_record (h : Exports a cap) (hk : Gathered a) (hpeer : peer ≠ 0) :
    cacheImport peer a.record init =
      if ¬(a.unicom.selected = true ∨ a.rc003BootLayout = true) ∨
          cachedCharsOk a.record a.chars.length = false then (false, init)
      else
        match (restoreAttributes a.record a.mapBuf a.unicom.selected a.rc003BootLayout a.chars.length
          a.fits).restoreProfile with
        | some a' =>
          if a'.serviceChangedHandle ≠ 0 ∧ a'.serviceChangedCccd = 0 then (false, init)
          else (true, { a' with
            initWithoutSync := a.rc003BootLayout
            cachePeerId := peer
            cacheSafe := true
            cacheValid := true })
        | none => (false, init) := by
  obtain ⟨hcount, hmap, hlen⟩ := head_record h
  have hflags : a.record.getD 6 0 &&& 0xf0 = 0 := by
    rw [flags_record]
    unfold cacheFlags
    cases a.unicom.selected <;> cases a.rc003BootLayout <;> cases a.voiceKeyVerified <;>
      cases a.atvvPresent <;> rfl
  have hvalid : ¬1 < a.record.getD 39 0 := by
    rw [hidInfoValid_record]
    cases a.hidInfoValid <;> decide
  have hchars : a.record.getD 7 0 ≠ 0 := by
    intro hzero
    rw [hzero] at hcount
    exact h.chars hcount.symm
  have htotal : a.record.length = cacheHeader + cacheChar * a.chars.length + a.mapBuf.length := length_record a
  -- a record that was exported passes every check on its header
  have hhead : ¬(init.state ≠ .idle ∨ peer = 0 ∨ a.record.length < cacheHeader ∨
      a.record.take 4 ≠ cacheMagic ∨ (get16 a.record 4).toNat ≠ a.record.length ∨
      a.record.getD 6 0 &&& 0xf0 ≠ 0 ∨ a.record.getD 7 0 = 0 ∨
      maxReportChars < (a.record.getD 7 0).toNat ∨ 1 < a.record.getD 39 0) := by
    rintro (hf | hf | hf | hf | hf | hf | hf | hf | hf)
    · exact hf rfl
    · exact hpeer hf
    · omega
    · exact hf (magic_record a)
    · exact hf hlen
    · exact hf hflags
    · exact hchars hf
    · rw [hcount] at hf
      exact absurd a.fits (not_le.mpr hf)
    · exact hvalid hf
  -- and on its lengths
  have hsize : ¬(hogpMaxMapSize < a.mapBuf.length ∨
      a.record.length ≠ cacheHeader + cacheChar * a.chars.length + a.mapBuf.length) := by
    rintro (hf | hf)
    · exact absurd h.map (not_le.mpr hf)
    · exact hf htotal
  unfold cacheImport
  rw [if_neg hhead]
  dsimp only
  rw [hcount, hmap, if_neg hsize, map_record, ← hk.selected, ← hk.boot]
  -- what is left is the profile, which may be none of the two
  have hprofile : (a.record.getD 6 0 &&& 3 ≠
      (if a.unicom.selected then 1 else if a.rc003BootLayout then 2 else 0) ∨
        a.unicom.selected = false ∧ a.rc003BootLayout = false) ↔
      ¬(a.unicom.selected = true ∨ a.rc003BootLayout = true) := by
    have hone := hk.not_both
    rw [flags_record]
    unfold cacheFlags
    revert hone
    cases a.unicom.selected <;> cases a.rc003BootLayout <;> cases a.voiceKeyVerified <;>
      cases a.atvvPresent <;> decide
  by_cases hno : ¬(a.unicom.selected = true ∨ a.rc003BootLayout = true)
  · rw [if_pos (hprofile.mpr hno), if_pos (.inl hno)]
  · rw [if_neg fun hf => hno (hprofile.mp hf)]
    by_cases hok : cachedCharsOk a.record a.chars.length = false
    · rw [if_pos hok, if_pos (.inr hok)]
    · rw [if_neg hok, if_neg fun hf => hf.elim hno hok]
      exact (dif_pos a.fits).trans rfl

lemma restorable_iff (hk : Gathered a) : Restorable a ↔
    (a.unicom.selected = true ∨ a.rc003BootLayout = true) ∧
      cachedCharsOk a.record a.chars.length = true := by
  rw [cachedCharsOk_record]
  constructor
  · intro h
    refine ⟨h.profile, fun c hc => ?_, h.handles⟩
    obtain ⟨hvalue, hone, hthree⟩ := h.chars c hc
    exact ⟨hvalue, hone, hthree, hk.subscribed c hc⟩
  · rintro ⟨hprofile, hchars, hhandles⟩
    refine ⟨hprofile, fun c hc => ?_, hhandles⟩
    obtain ⟨hvalue, hone, hthree, -⟩ := hchars c hc
    exact ⟨hvalue, hone, hthree⟩

namespace SameRecord

variable {a' a'' : Rc003}

lemma trans (h : SameRecord a a') (h' : SameRecord a' a'') : SameRecord a a'' :=
  ⟨h'.selected.trans h.selected, h'.boot.trans h.boot, h'.handles.trans h.handles,
    h'.chars.trans h.chars, h'.map.trans h.map, h'.hidFlags.trans h.hidFlags,
    h'.hidInfoValid.trans h.hidInfoValid, h'.voiceKeyVerified.trans h.voiceKeyVerified,
    h'.atvvPresent.trans h.atvvPresent⟩

/-- The profile of restored attributes is complete when that of the attributes was. -/
lemma restoreProfile (h : SameRecord a a') (hk : Gathered a) : ∃ r, a'.restoreProfile = some r ∧
    SameRecord a' r ∧ (a.unicom.selected = true → VoiceAgree voiceIds a.unicom r.unicom) := by
  have hhandles := h.handles
  simp only [Rc003.handles, List.cons.injEq] at hhandles
  obtain ⟨-, -, -, -, -, htx, hctl, hctlCccd, haudio, haudioCccd, -, -, hfd, hfdCccd, -⟩ := hhandles
  unfold Rc003.restoreProfile
  cases hselected : a.unicom.selected with
  | true =>
    obtain ⟨hfd', hfdCccd', hvoice⟩ := hk.unicom hselected
    obtain ⟨hcomplete, hagree⟩ := hvoice.again h.chars
    obtain ⟨hsame, -, hsamefd, hsameCccd⟩ := unicomReports_same a'
    rw [if_pos (h.selected.trans hselected), if_pos ⟨hfd ▸ hfd', hfdCccd ▸ hfdCccd', hcomplete⟩]
    refine ⟨_, rfl, ⟨hsame, rfl, ?_, rfl, rfl, rfl, rfl, rfl, rfl⟩, fun _ => hagree⟩
    simp only [Rc003.handles]
    rw [hsamefd, hsameCccd]
  | false =>
    obtain ⟨hparse, hpresent, htx', hctl', hctlCccd', haudio', haudioCccd'⟩ := hk.atvv hselected
    obtain ⟨map, hmap⟩ := Option.isSome_iff_exists.mp hparse
    have hnot : ¬a'.unicom.selected = true := by
      rw [h.selected, hselected]
      exact Bool.false_ne_true
    rw [if_neg hnot, h.map, hmap]
    dsimp only
    rw [if_pos ⟨h.atvvPresent.trans hpresent, htx ▸ htx', hctl ▸ hctl', hctlCccd ▸ hctlCccd',
      haudio ▸ haudio', haudioCccd ▸ haudioCccd'⟩]
    exact ⟨_, rfl, ⟨rfl, rfl, rfl, rfl, h.map.symm, rfl, rfl, rfl, rfl⟩,
      fun hf => absurd hf Bool.false_ne_true⟩

end SameRecord

/-- Exported attributes come back, in an adapter that exports them again. -/
structure RestoresRecord (a : Rc003) (cap : Nat) (a' : Rc003) : Prop where
  same : SameRecord a a'
  voice : a.unicom.selected = true →
    a'.unicom.fb = a.unicom.fb ∧ a'.unicom.fc = a.unicom.fc ∧ a'.unicom.f8 = a.unicom.f8
  again : a'.cacheExport cap = a.cacheExport cap

/-- The import of an export succeeds and restores the attributes, or fails, by the attributes alone. -/
lemma Exports.roundTrip (h : Exports a cap) (hk : Gathered a) :
    (Restorable a → ∃ a', cacheImport a.cachePeerId (a.cacheExport cap) init = (true, a') ∧
        RestoresRecord a cap a') ∧
      (¬Restorable a → cacheImport a.cachePeerId (a.cacheExport cap) init = (false, init)) := by
  rw [h.eq, cacheImport_record h hk h.peer, restorable_iff hk]
  constructor
  · rintro ⟨hprofile, hok⟩
    rw [if_neg fun hf => hf.elim (fun hn => hn hprofile) fun hn => Bool.false_ne_true (hn.symm.trans hok)]
    have hsame := restoreAttributes_record a
    obtain ⟨r, hr, hrsame, hvoice⟩ := hsame.restoreProfile hk
    have hall := hsame.trans hrsame
    have hhandles := hall.handles
    simp only [handles, List.cons.injEq] at hhandles
    obtain ⟨-, -, -, -, -, -, -, -, -, -, hchanged, hcccd, -⟩ := hhandles
    have hsafe : ¬(r.serviceChangedHandle ≠ 0 ∧ r.serviceChangedCccd = 0) := by
      rw [hchanged, hcccd]
      exact fun hf => hk.changed hf.1 hf.2
    rw [hr]
    dsimp only
    rw [if_neg hsafe]
    have hlast : SameRecord a { r with
        initWithoutSync := a.rc003BootLayout
        cachePeerId := a.cachePeerId
        cacheSafe := true
        cacheValid := true } :=
      hall.trans ⟨rfl, rfl, rfl, rfl, rfl, rfl, rfl, rfl, rfl⟩
    refine ⟨_, rfl, ⟨hlast, fun hs => ?_, ?_⟩⟩
    · obtain ⟨hfb, hfc, hf8⟩ := hvoice hs
      exact ⟨(hfb (by decide)).symm, (hfc (by decide)).symm, (hf8 (by decide)).symm⟩
    · exact (h.congr hlast rfl rfl h.peer).eq.trans (hlast.record_eq.trans h.eq.symm)
  · intro hno
    rw [if_pos]
    by_cases hprofile : a.unicom.selected = true ∨ a.rc003BootLayout = true
    · exact .inr (Bool.not_eq_true _ ▸ fun hok => hno ⟨hprofile, hok⟩)
    · exact .inl hprofile

/-! ## Imports of other records -/

lemma restoreProfile_some {r : Rc003} (h : a.restoreProfile = some r) :
    (a.unicom.selected = true ∧ a.unicom.fd ≠ 0 ∧ a.unicom.fdCccd ≠ 0 ∧ a.unicomReports.2 = true ∧
        r = { a with unicom := a.unicomReports.1 }) ∨
      a.unicom.selected = false ∧ (hogpReportMapParse a.mapBuf).isSome = true ∧
        (a.atvvPresent = true ∧ a.atvvTxHandle ≠ 0 ∧ a.atvvCtlHandle ≠ 0 ∧ a.atvvCtlCccd ≠ 0 ∧
          a.atvvAudioHandle ≠ 0 ∧ a.atvvAudioCccd ≠ 0) ∧ ∃ map, r = { a with map } := by
  unfold restoreProfile at h
  by_cases hselected : a.unicom.selected = true
  · rw [if_pos hselected] at h
    split_ifs at h with hunicom
    obtain ⟨hfd, hfdCccd, hcomplete⟩ := hunicom
    exact .inl ⟨hselected, hfd, hfdCccd, hcomplete, (Option.some.inj h).symm⟩
  · rw [if_neg hselected] at h
    cases hparse : hogpReportMapParse a.mapBuf with
    | none =>
      rw [hparse] at h
      cases h
    | some map =>
      rw [hparse] at h
      dsimp only at h
      split_ifs at h with hatvv
      exact .inr ⟨Bool.not_eq_true _ ▸ hselected, rfl, hatvv, map, (Option.some.inj h).symm⟩

lemma restoreProfile_keeps {r : Rc003} (h : a.restoreProfile = some r) :
    (r.unicom.selected = a.unicom.selected ∧ r.rc003BootLayout = a.rc003BootLayout) ∧
      r.state = a.state ∧ r.restoring = a.restoring ∧ r.voiceReady = a.voiceReady := by
  rcases restoreProfile_some h with ⟨-, -, -, -, rfl⟩ | ⟨-, -, -, map, rfl⟩
  · exact ⟨⟨(unicomReports_same a).1, rfl⟩, rfl, rfl, rfl⟩
  · exact ⟨⟨rfl, rfl⟩, rfl, rfl, rfl⟩

/-- The attributes of a profile that was restored. -/
lemma Gathered.of_restoreProfile {r : Rc003} (h : a.restoreProfile = some r)
    (hshort : a.mapBuf.length ≤ hogpMaxMapSize)
    (hsubscribed : ∀ c ∈ a.chars, c.subscribed = true → c.cccdHandle ≠ 0)
    (hchanged : r.serviceChangedHandle ≠ 0 → r.serviceChangedCccd ≠ 0)
    (hselected : a.unicom.selected = (a.mapBuf == unicomMap))
    (hboot : a.rc003BootLayout = bootLayoutMap a.mapBuf) : Gathered r := by
  rcases restoreProfile_some h with ⟨hs, hfd, hfdCccd, hcomplete, rfl⟩ | ⟨hs, hparse, hatvv, map, rfl⟩
  · obtain ⟨hsame, -, hsamefd, hsameCccd⟩ := unicomReports_same a
    refine ⟨hshort, hsubscribed, hchanged, hsame.trans hselected, hboot, fun _ => ?_, fun hf => ?_⟩
    · exact ⟨hsamefd ▸ hfd, hsameCccd ▸ hfdCccd, .of_reports hcomplete⟩
    · exact absurd ((hsame.trans hs).symm.trans hf) (Bool.false_ne_true ∘ Eq.symm)
  · exact ⟨hshort, hsubscribed, hchanged, hselected, hboot,
      fun hf => absurd (hs.symm.trans hf) Bool.false_ne_true, fun _ => ⟨hparse, hatvv⟩⟩

lemma subscribed_of_ok {q : List UInt8} (h : cachedCharOk q = true) :
    (ReportAttr.ofCached q).subscribed = true → (ReportAttr.ofCached q).cccdHandle ≠ 0 := by
  unfold cachedCharOk at h
  intro hsub hzero
  change (q.getD 10 0 != 0) = true at hsub
  change get16 q 2 = 0 at hzero
  rw [hsub, hzero] at h
  simp at h

/-- A known profile in a build without the simulator. -/
def MapKnown (b : AdapterBuild) (a : Rc003) : Prop :=
  b.simulator = false → a.unicom.selected = true ∨ a.rc003BootLayout = true

/-- An import leaves an adapter as it was, initialises it, or gives it attributes of a known profile. -/
lemma cacheImport_cases (peer : UInt32) (p : List UInt8) (a : Rc003) :
    cacheImport peer p a = (false, a) ∨ cacheImport peer p a = (false, init) ∨
      ∃ r, cacheImport peer p a = (true, r) ∧ r.state = .idle ∧ r.restoring = false ∧ Gathered r ∧
        ∀ b, MapKnown b r := by
  unfold cacheImport
  split_ifs with hhead
  · exact .inl rfl
  dsimp only
  generalize hcount : (p.getD 7 0).toNat = count
  generalize hml : (get16 p 40).toNat = ml
  by_cases hsize : hogpMaxMapSize < ml ∨ p.length ≠ cacheHeader + cacheChar * count + ml
  · rw [if_pos hsize]
    exact .inl rfl
  rw [if_neg hsize]
  generalize hmap : p.drop (cacheHeader + cacheChar * count) = map
  generalize hunicom : (map == unicomMap) = unicom
  generalize hxiaomi : bootLayoutMap map = xiaomi
  by_cases hprofile : p.getD 6 0 &&& 3 ≠ (if unicom then 1 else if xiaomi then 2 else 0) ∨
      unicom = false ∧ xiaomi = false
  · rw [if_pos hprofile]
    exact .inl rfl
  rw [if_neg hprofile]
  by_cases hchars : cachedCharsOk p count = false
  · rw [if_pos hchars]
    exact .inl rfl
  rw [if_neg hchars]
  split_ifs with hfits
  · -- the header is good; what remains is whether the profile can be restored
    cases hr : (restoreAttributes p map unicom xiaomi count hfits).restoreProfile with
    | none => exact .inr (.inl rfl)
    | some r =>
      dsimp only
      split_ifs with hunsafe
      · exact .inr (.inl rfl)
      have hlen : map.length = ml := by
        rw [← hmap, List.length_drop]
        omega
      have hkept : Gathered r := by
        refine Gathered.of_restoreProfile hr ?_ (fun c hc => ?_) (fun hne hzero => hunsafe ⟨hne, hzero⟩)
          hunicom.symm hxiaomi.symm
        · change map.length ≤ hogpMaxMapSize
          omega
        · obtain ⟨i, hi, rfl⟩ := List.mem_map.mp hc
          have hok := List.all_eq_true.mp (Bool.not_eq_false _ ▸ hchars) i hi
          exact subscribed_of_ok (Bool.and_eq_true_iff.mp hok).1
      have hknown : r.unicom.selected = true ∨ r.rc003BootLayout = true := by
        have hsome : unicom = true ∨ xiaomi = true := by
          by_contra hno
          rw [not_or, Bool.not_eq_true, Bool.not_eq_true] at hno
          exact hprofile (.inr hno)
        obtain ⟨hs, hb⟩ := (restoreProfile_keeps hr).1
        rw [hs, hb]
        exact hsome
      obtain ⟨hstate, hrestoring, hready⟩ := (restoreProfile_keeps hr).2
      exact .inr (.inr ⟨_, rfl, hstate, hrestoring, hkept.congr rfl, fun _ _ => hknown⟩)
  · exact .inl rfl

end Rc003

end RemoteBridge
