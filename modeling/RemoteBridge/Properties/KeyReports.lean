import RemoteBridge.Adapters.KeyState
import RemoteBridge.Properties.HidDecoding

/-!
# Key reports show the keys that are held

Whatever happens at the adapter, the bits that it sent last are the slots of the keys in the latest
report of each characteristic, a report is sent when this set changes and only then, and no bit is
beyond the keys of the profile that the server was given.

The log is written by the adapter that is judged by it.  `KeyInput.heard` therefore says what each input
makes of the keys of a characteristic, from the input and the state of the adapter before it, and the
keys in the log are these.
-/

namespace RemoteBridge

/-! ## Sets of bits -/

lemma hasKey_or (x y : UInt64) (s : Nat) : HasKey (x ||| y) s ↔ HasKey x s ∨ HasKey y s := by
  unfold HasKey
  rw [UInt64.toNat_or, Nat.testBit_or, Bool.or_eq_true]

lemma not_hasKey_zero (s : Nat) : ¬ HasKey 0 s := by
  unfold HasKey
  simp

lemma lt_of_hasKey {x : UInt64} {s : Nat} (h : HasKey x s) : s < 64 := by
  by_contra hge
  have hlt : x.toNat < 2 ^ s := x.toNat_lt.trans_le (Nat.pow_le_pow_right (by norm_num) (by omega))
  unfold HasKey at h
  rw [Nat.testBit_lt_two_pow hlt] at h
  cases h

lemma hasKey_ext {x y : UInt64} (h : ∀ s, HasKey x s ↔ HasKey y s) : x = y := by
  refine UInt64.toNat_inj.mp (Nat.eq_of_testBit_eq fun s => ?_)
  exact Bool.eq_iff_iff.mpr (h s)

lemma hasKey_setBit {n s : Nat} {bits : UInt64} (hn : n < 64) :
    HasKey (setBit n bits) s ↔ HasKey bits s ∨ s = n := by
  have hbit : (1 <<< UInt64.ofNat n : UInt64).toNat = 2 ^ n := by
    have hofNat : (UInt64.ofNat n).toNat = n := UInt64.toNat_ofNat_of_lt (by
      rw [show UInt64.size = 2 ^ 64 from rfl]
      omega)
    rw [UInt64.toNat_shiftLeft, hofNat, UInt64.toNat_one, Nat.mod_eq_of_lt hn, Nat.shiftLeft_eq,
      Nat.one_mul]
    exact Nat.mod_eq_of_lt (Nat.pow_lt_pow_right (by norm_num) hn)
  unfold setBit
  rw [hasKey_or]
  unfold HasKey
  rw [hbit, Nat.testBit_two_pow, decide_eq_true_eq, eq_comm (a := n)]

/-- A fold that sets bits. -/
lemma hasKey_foldl {α : Type} {step : UInt64 → α → UInt64} {S : α → Nat → Prop} {l : List α}
    (hstep : ∀ a ∈ l, ∀ bits s, HasKey (step bits a) s ↔ HasKey bits s ∨ S a s) (bits : UInt64)
    (s : Nat) : HasKey (l.foldl step bits) s ↔ HasKey bits s ∨ ∃ a ∈ l, S a s := by
  induction l generalizing bits with
  | nil => simp
  | cons a l ih =>
    rw [List.foldl_cons, ih fun x hx => hstep x (List.mem_cons_of_mem a hx),
      hstep a List.mem_cons_self, List.exists_mem_cons_iff, or_assoc]

/-! ## What the log says -/

/-- The keys in the latest report of a characteristic; none before its first report. -/
def latestKeys (i : Nat) : List KeyEv → UInt64
  | [] => 0
  | .reset :: _ => 0
  | .report j keys :: l => if j = i then keys else latestKeys i l
  | _ :: l => latestKeys i l

/-- The key count of the profile that the server was given last. -/
def lastKeyCount : List KeyEv → Nat
  | [] => 0
  | .profile n :: _ => n
  | _ :: l => lastKeyCount l

/-- The bits of the key reports, the latest one first. -/
def sentBits : List KeyEv → List UInt64
  | [] => []
  | .sent bits :: l => bits :: sentBits l
  | _ :: l => sentBits l

/-- A key shows in a slot. -/
def ShowsKey (a : KeyAdapter) (keys : UInt64) (s : Nat) : Prop :=
  if a.unicom then HasKey keys s
  else ∃ k, 0 < k ∧ HasKey keys k ∧ keySlot k = s ∧ s < 64 ∧ (k = keyVoice → a.voiceKeyVerified = true)

/-- The slot is held in the latest report of some characteristic. -/
def Held (w : KeyWorld) (s : Nat) : Prop :=
  ∃ i < w.a.chars.length, ShowsKey w.a (latestKeys i w.log) s

/-! ## The invariant -/

/-- The keys of the characteristics are those of the log, and the server has the profile for them. -/
structure Heard (w : KeyWorld) : Prop where
  kept : ∀ i, w.a.keysByReport i = latestKeys i w.log
  beyond : ∀ i, w.a.chars.length ≤ i → latestKeys i w.log = 0
  rc003 : w.a.unicom = false → w.a.live = true →
    lastKeyCount w.log = if w.a.voiceKeyVerified then rc003VoiceKeyCount else rc003KeyCount
  unicom : w.a.unicom = true → w.a.live = true → w.a.ready = true → lastKeyCount w.log = unicomKeyCount
  waits : w.a.unicom = true → w.a.ready = false → ∀ i, latestKeys i w.log = 0
  slots : w.a.unicom = true → ∀ i s, HasKey (latestKeys i w.log) s → s < unicomKeyCount

/-- What holds between two inputs. -/
structure KeysInv (w : KeyWorld) : Prop extends Heard w where
  pressed : ∀ s, HasKey w.a.pressedBits s ↔ Held w s
  bound : ∀ s, HasKey w.a.pressedBits s → s < lastKeyCount w.log

lemma hasKey_union {w : KeyWorld} (h : ∀ i, w.a.keysByReport i = latestKeys i w.log) (k : Nat) :
    HasKey w.a.union k ↔ ∃ i < w.a.chars.length, HasKey (latestKeys i w.log) k := by
  unfold KeyAdapter.union
  rw [hasKey_foldl (S := fun i k => HasKey (w.a.keysByReport i) k) fun i _ bits s => hasKey_or _ _ s]
  simp only [List.mem_range, h, or_iff_right (not_hasKey_zero k)]

lemma hasKey_slots (keys : UInt64) (verified : Bool) (s : Nat) :
    HasKey (KeyAdapter.slots keys verified) s ↔
      ∃ k, 0 < k ∧ HasKey keys k ∧ keySlot k = s ∧ s < 64 ∧ (k = keyVoice → verified = true) := by
  unfold KeyAdapter.slots
  rw [hasKey_foldl (S := fun k s => HasKey keys k ∧ keySlot k = s ∧ s < 64 ∧
    (k = keyVoice → verified = true)) ?_, or_iff_right (not_hasKey_zero s)]
  · constructor
    · rintro ⟨k, hk, hkeys, hrest⟩
      have hpos := (List.mem_range'_1.mp hk).1
      exact ⟨k, hpos, hkeys, hrest⟩
    · rintro ⟨k, hpos, hkeys, hrest⟩
      have hlt := lt_of_hasKey hkeys
      exact ⟨k, List.mem_range'_1.mpr ⟨hpos, by omega⟩, hkeys, hrest⟩
  · intro k _ bits t
    have hguard : (KeyAdapter.hasBit keys k && !(k == keyVoice && !verified) &&
        decide (keySlot k < 64)) = true ↔
        HasKey keys k ∧ (k = keyVoice → verified = true) ∧ keySlot k < 64 := by
      unfold HasKey KeyAdapter.hasBit
      cases verified <;> simp [and_assoc]
    by_cases hset : HasKey keys k ∧ (k = keyVoice → verified = true) ∧ keySlot k < 64
    · rw [if_pos (hguard.mpr hset), hasKey_setBit hset.2.2]
      constructor
      · rintro (h | rfl)
        · exact .inl h
        · exact .inr ⟨hset.1, rfl, hset.2.2, hset.2.1⟩
      · rintro (h | ⟨-, rfl, -, -⟩)
        · exact .inl h
        · exact .inr rfl
    · rw [if_neg fun h => hset (hguard.mp h)]
      constructor
      · exact .inl
      · rintro (h | ⟨hkeys, rfl, hlt, hvoice⟩)
        · exact h
        · exact absurd ⟨hkeys, hvoice, hlt⟩ hset

/-- The slots of the RC003 are those of its profile; the voice key has the last one. -/
lemma keySlot_lt {k : Nat} (h : keySlot k < 64) :
    keySlot k < rc003VoiceKeyCount ∧ (k ≠ keyVoice → keySlot k < rc003KeyCount) := by
  unfold keySlot at h ⊢
  cases hfind : rc003Keys.findIdx? (· = k) with
  | none =>
    rw [hfind] at h
    exact absurd h (by decide)
  | some i =>
    obtain ⟨hi, hkey, -⟩ := List.findIdx?_eq_some_iff_getElem.mp hfind
    simp only [decide_eq_true_eq] at hkey
    have hi' : i < 13 := hi
    refine ⟨hi', fun hne => ?_⟩
    change i < 12
    by_contra hge
    obtain rfl : i = 12 := by omega
    exact hne hkey.symm

/-- A slot that shows is one of the profile. -/
lemma showsKey_lt {a : KeyAdapter} {keys : UInt64} {s : Nat} (hu : a.unicom = false)
    (h : ShowsKey a keys s) :
    s < if a.voiceKeyVerified then rc003VoiceKeyCount else rc003KeyCount := by
  unfold ShowsKey at h
  rw [hu, if_neg Bool.false_ne_true] at h
  obtain ⟨k, -, -, rfl, hlt, hvoice⟩ := h
  obtain ⟨hall, hrest⟩ := keySlot_lt hlt
  split
  · exact hall
  · next hver => exact hrest fun hk => hver (hvoice hk)

lemma showsKey_unicom {a : KeyAdapter} {keys : UInt64} {s : Nat} (hu : a.unicom = true) :
    ShowsKey a keys s ↔ HasKey keys s := by
  unfold ShowsKey
  rw [if_pos hu]

/-- A characteristic without keys shows nothing. -/
lemma not_showsKey_zero {a : KeyAdapter} {s : Nat} : ¬ ShowsKey a 0 s := by
  unfold ShowsKey
  split
  · exact not_hasKey_zero s
  · rintro ⟨k, -, hkey, -⟩
    exact not_hasKey_zero k hkey

/-! ## Notifications -/

/-- An input sends the held slots if they change, and nothing otherwise. -/
structure Sends (w w' : KeyWorld) : Prop where
  inv : KeysInv w'
  sent : sentBits w'.log =
    if w'.a.pressedBits = w.a.pressedBits then sentBits w.log else w'.a.pressedBits :: sentBits w.log

lemma Sends.refl {w : KeyWorld} (h : KeysInv w) : Sends w w := ⟨h, (if_pos rfl).symm⟩

/-- The right bits are sent if they are not the ones sent last. -/
lemma sends_sendKeys {w v : KeyWorld} {bits : UInt64} (h : Heard v) (hbits : ∀ s, HasKey bits s ↔ Held v s)
    (hbound : ∀ s, HasKey bits s → s < lastKeyCount v.log) (hpressed : v.a.pressedBits = w.a.pressedBits)
    (hsent : sentBits v.log = sentBits w.log) : Sends w (sendKeys bits v) := by
  unfold sendKeys
  by_cases hsame : bits = v.a.pressedBits
  · rw [if_neg (by simp [hsame])]
    refine ⟨⟨h, fun s => ?_, fun s hs => ?_⟩, ?_⟩
    · rw [← hsame]
      exact hbits s
    · rw [← hsame] at hs
      exact hbound s hs
    · rw [if_pos hpressed, hsent]
  · rw [if_pos (by simpa using hsame)]
    refine ⟨⟨⟨h.kept, h.beyond, h.rc003, h.unicom, h.waits, h.slots⟩, hbits, hbound⟩, ?_⟩
    have hne : bits ≠ w.a.pressedBits := hpressed ▸ hsame
    change bits :: sentBits v.log = if bits = w.a.pressedBits then _ else _
    rw [if_neg hne, hsent]
    rfl

/-- A report of a characteristic is heard. -/
lemma heard_report {w : KeyWorld} (h : Heard w) {i : Nat} (hi : i < w.a.chars.length) {keys : UInt64}
    (hready : w.a.unicom = true → w.a.ready = true)
    (hslots : w.a.unicom = true → ∀ s, HasKey keys s → s < unicomKeyCount) :
    Heard ((w.act (KeyAdapter.hear i keys)).note (.report i keys)) where
  kept := by
    intro j
    change (if j = i then keys else w.a.keysByReport j) = if i = j then keys else latestKeys j w.log
    rw [h.kept j]
    by_cases hj : j = i
    · rw [if_pos hj, if_pos hj.symm]
    · rw [if_neg hj, if_neg (Ne.symm hj)]
  beyond := by
    intro j hj
    change (if i = j then keys else latestKeys j w.log) = 0
    have hlen : w.a.chars.length ≤ j := hj
    rw [if_neg (by omega), h.beyond j hlen]
  rc003 := h.rc003
  unicom := h.unicom
  waits := fun hu hnot => absurd (hready hu) (Bool.eq_false_iff.mp hnot)
  slots := by
    intro hu j s
    change HasKey (if i = j then keys else latestKeys j w.log) s → _
    split
    · exact hslots hu s
    · exact h.slots hu j s

/-- The voice key is verified by its release; from then on its slot shows. -/
lemma sends_recomputeKeys {w v : KeyWorld} (h : Heard v) (hu : v.a.unicom = false)
    (hlive : v.a.live = true) (hpressed : v.a.pressedBits = w.a.pressedBits)
    (hsent : sentBits v.log = sentBits w.log) : Sends w (recomputeKeys v) := by
  unfold recomputeKeys
  dsimp only
  generalize hvoice : KeyAdapter.hasBit v.a.union keyVoice = voiceNow
  have hverified : ∃ u : KeyWorld, u = (if (!voiceNow && v.a.voiceDownSeen && !v.a.voiceKeyVerified) = true then
      (v.act fun a => { a with voiceKeyVerified := true }).note (.profile rc003VoiceKeyCount) else v) ∧
      Heard u ∧ u.a.unicom = false ∧ u.a.live = true ∧ u.a.pressedBits = w.a.pressedBits ∧
      sentBits u.log = sentBits w.log ∧ u.a.union = v.a.union := by
    split
    · exact ⟨_, rfl, ⟨h.kept, h.beyond, fun _ _ => rfl, fun hun => absurd (hu.symm.trans hun) nofun, h.waits,
        h.slots⟩, hu, hlive, hpressed, hsent, rfl⟩
    · exact ⟨v, rfl, h, hu, hlive, hpressed, hsent, rfl⟩
  obtain ⟨u, hueq, hheard, huu, hulive, hupressed, husent, hunion⟩ := hverified
  rw [← hueq, ← hunion]
  have hseen : Heard (u.act fun a => { a with voiceDownSeen := voiceNow }) :=
    ⟨hheard.kept, hheard.beyond, hheard.rc003, hheard.unicom, hheard.waits, hheard.slots⟩
  have hbits (s : Nat) : HasKey (KeyAdapter.slots u.a.union u.a.voiceKeyVerified) s ↔
      Held (u.act fun a => { a with voiceDownSeen := voiceNow }) s := by
    rw [hasKey_slots]
    constructor
    · rintro ⟨k, hpos, hkey, hrest⟩
      obtain ⟨i, hi, hkeys⟩ := (hasKey_union hheard.kept k).mp hkey
      refine ⟨i, hi, ?_⟩
      unfold ShowsKey
      rw [if_neg (by exact Bool.eq_false_iff.mp huu)]
      exact ⟨k, hpos, hkeys, hrest⟩
    · rintro ⟨i, hi, hshows⟩
      unfold ShowsKey at hshows
      rw [if_neg (by exact Bool.eq_false_iff.mp huu)] at hshows
      obtain ⟨k, hpos, hkeys, hrest⟩ := hshows
      exact ⟨k, hpos, (hasKey_union hheard.kept k).mpr ⟨i, hi, hkeys⟩, hrest⟩
  refine sends_sendKeys hseen hbits (fun s hs => ?_) hupressed husent
  obtain ⟨i, -, hshows⟩ := (hbits s).mp hs
  have hlt := showsKey_lt huu hshows
  exact hlt.trans_eq (hheard.rc003 huu hulive).symm

/-- A notification of the RC003. -/
lemma sends_rc003Notify {w : KeyWorld} (h : KeysInv w) (hu : w.a.unicom = false) (hlive : w.a.live = true)
    (handle : UInt16) (data : List UInt8) : Sends w (rc003Notify handle data w) := by
  unfold rc003Notify
  split
  · exact .refl h
  · next i hfind =>
    obtain ⟨hi, -, -⟩ := List.findIdx?_eq_some_iff_getElem.mp hfind
    dsimp only
    split
    · exact .refl h
    · have hnot (hun : w.a.unicom = true) : False := absurd (hu.symm.trans hun) nofun
      exact sends_recomputeKeys (heard_report h.toHeard hi (fun hun => (hnot hun).elim)
        fun hun => (hnot hun).elim) hu hlive rfl rfl

/-- The slots of a Unicom report are those of its profile. -/
lemma lt_of_unicomDecode {id : UInt8} {data : List UInt8} {bits : UInt64}
    (h : unicomDecode id data = some bits) {s : Nat} (hs : HasKey bits s) : s < unicomKeyCount := by
  unfold unicomDecode at h
  split at h
  · cases h
  · split at h
    · obtain rfl := Option.some.inj h
      rw [hasKey_foldl (S := fun j s => (((unicomUsages id data).any fun u =>
        unicomKeysMap[j]? = some (id.toNat, u)) = true) ∧ s = j) ?_, or_iff_right (not_hasKey_zero s)] at hs
      · obtain ⟨j, hj, -, rfl⟩ := hs
        exact List.mem_range.mp hj
      · intro j hj bits t
        have hlt : j < 64 := (List.mem_range.mp hj).trans (by decide)
        split
        · next hany => rw [hasKey_setBit hlt, and_iff_right hany]
        · next hany => rw [or_iff_left fun h => hany h.1]
    · cases h

/-- A notification of the Unicom remote. -/
lemma sends_unicomNotify {w : KeyWorld} (h : KeysInv w) (hu : w.a.unicom = true) (hlive : w.a.live = true)
    (handle : UInt16) (data : List UInt8) : Sends w (unicomNotify handle data w) := by
  have hbad : Sends w (unicomBad w) :=
    ⟨⟨⟨h.kept, h.beyond, nofun, nofun, h.waits, h.slots⟩, h.pressed, h.bound⟩, (if_pos rfl).symm⟩
  unfold unicomNotify
  split
  · exact .refl h
  · next hnot =>
    have hready : w.a.ready = true := by simpa using hnot
    split
    · exact .refl h
    · next i hfind =>
      obtain ⟨hi, -, -⟩ := List.findIdx?_eq_some_iff_getElem.mp hfind
      dsimp only
      split
      · unfold unicomKeys
        split
        · exact hbad
        · next bits hdecode =>
          have hheard := heard_report h.toHeard hi (fun _ => hready) fun _ s => lt_of_unicomDecode hdecode
          have hbits (s : Nat) := hasKey_union hheard.kept s
          refine sends_sendKeys hheard (fun s => (hbits s).trans ?_) (fun s hs => ?_) rfl rfl
          · exact exists_congr fun j => and_congr_right fun _ => (showsKey_unicom hu).symm
          · obtain ⟨j, -, hkeys⟩ := (hbits s).mp hs
            exact (hheard.slots hu j s hkeys).trans_eq (hheard.unicom hu hlive hready).symm
      · split
        · exact hbad
        · exact .refl h

/-! ## Everything else -/

/-- Nothing is held where no report was heard. -/
lemma not_held {w : KeyWorld} (h : ∀ i, latestKeys i w.log = 0) (s : Nat) : ¬ Held w s := by
  rintro ⟨i, -, hshows⟩
  rw [h i] at hshows
  exact not_showsKey_zero hshows

/-- The adapter starts over. -/
lemma keysInv_reset {w : KeyWorld} (hkeys : ∀ i, w.a.keysByReport i = 0) (hpressed : w.a.pressedBits = 0)
    (hlatest : ∀ i, latestKeys i w.log = 0) (hready : w.a.unicom = true → w.a.ready = false)
    (hlive : w.a.unicom = false → w.a.live = true →
      lastKeyCount w.log = if w.a.voiceKeyVerified then rc003VoiceKeyCount else rc003KeyCount) :
    KeysInv w where
  kept := fun i => (hkeys i).trans (hlatest i).symm
  beyond := fun i _ => hlatest i
  rc003 := hlive
  unicom := fun hu _ hr => absurd ((hready hu).symm.trans hr) nofun
  waits := fun _ _ => hlatest
  slots := fun _ i s hs => absurd (hlatest i ▸ hs) (not_hasKey_zero s)
  pressed := fun s => iff_of_false (hpressed ▸ not_hasKey_zero s) (not_held hlatest s)
  bound := fun s hs => absurd (hpressed ▸ hs) (not_hasKey_zero s)

/-- The characteristics change without a report. -/
lemma keysInv_chars {w : KeyWorld} (h : KeysInv w) {chars : List ReportChar}
    (hlen : w.a.chars.length ≤ chars.length) : KeysInv (w.act fun a => { a with chars := chars }) where
  kept := h.kept
  beyond := fun i hi => h.beyond i (hlen.trans hi)
  rc003 := h.rc003
  unicom := h.unicom
  waits := h.waits
  slots := h.slots
  pressed := by
    intro s
    refine (h.pressed s).trans ⟨?_, ?_⟩
    · rintro ⟨i, hi, hshows⟩
      exact ⟨i, hi.trans_le hlen, hshows⟩
    · rintro ⟨i, hi, hshows⟩
      refine ⟨i, ?_, hshows⟩
      by_contra hge
      have hzero := h.beyond i (Nat.le_of_not_lt hge)
      change ShowsKey _ (latestKeys i w.log) s at hshows
      rw [hzero] at hshows
      exact not_showsKey_zero hshows
  bound := h.bound

/-- The bits stay within a profile that covers what the adapter shows. -/
lemma lt_cachedKeyCount {w : KeyWorld} (h : KeysInv w) {s : Nat} (hs : HasKey w.a.pressedBits s) :
    s < w.a.cachedKeyCount := by
  obtain ⟨i, -, hshows⟩ := (h.pressed s).mp hs
  unfold KeyAdapter.cachedKeyCount
  split
  · next hu => exact h.slots hu i s ((showsKey_unicom hu).mp hshows)
  · next hu => exact showsKey_lt (Bool.eq_false_iff.mpr hu) hshows

lemma keysInv_run {w : KeyWorld} (h : KeysInv w) (i : KeyInput) : KeysInv (i.run w) := by
  cases i with
  | startFresh => exact keysInv_reset (fun _ => rfl) rfl (fun _ => rfl) nofun (fun _ _ => rfl)
  | startCached =>
    -- a cached start keeps the reports and their keys
    refine ⟨⟨h.kept, h.beyond, fun hu _ => ?_, fun hu _ _ => ?_, h.waits, h.slots⟩, h.pressed,
      fun s hs => lt_cachedKeyCount h hs⟩
    · change w.a.cachedKeyCount = _
      have hu' : w.a.unicom = false := hu
      unfold KeyAdapter.cachedKeyCount
      rw [if_neg (Bool.eq_false_iff.mp hu')]
      rfl
    · change w.a.cachedKeyCount = _
      have hu' : w.a.unicom = true := hu
      unfold KeyAdapter.cachedKeyCount
      rw [if_pos hu']
  | readMap unicom map bootLayout =>
    simp only [KeyInput.run]
    split
    · next hguard =>
      simp only [Bool.and_eq_true, Bool.not_eq_true', List.isEmpty_iff] at hguard
      obtain ⟨⟨⟨hlive, hready⟩, hu⟩, hchars⟩ := hguard
      -- no characteristic is known yet, so no report counts
      have hlatest (i : Nat) : latestKeys i w.log = 0 := h.beyond i (by simp [hchars])
      have hpressed : w.a.pressedBits = 0 := hasKey_ext fun s =>
        iff_of_false (fun hs => not_held hlatest s ((h.pressed s).mp hs)) (not_hasKey_zero s)
      exact keysInv_reset (fun i => (h.kept i).trans (hlatest i)) hpressed hlatest (fun _ => hready)
        fun _ _ => h.rc003 hu hlive
    · exact h
  | charFound handle =>
    simp only [KeyInput.run]
    split
    · exact keysInv_chars h (by simp)
    · exact h
  | charReference i id type => exact keysInv_chars h (by simp)
  | charSubscribed i => exact keysInv_chars h (by simp)
  | done =>
    simp only [KeyInput.run]
    split
    · exact h
    · split
      · next hu =>
        refine ⟨⟨h.kept, h.beyond, fun hrc => absurd (hu.symm.trans hrc) nofun, fun _ _ _ => rfl,
          fun _ hnot => absurd hnot nofun, h.slots⟩, h.pressed, fun s hs => ?_⟩
        have hlt := lt_cachedKeyCount h hs
        unfold KeyAdapter.cachedKeyCount at hlt
        rwa [if_pos hu] at hlt
      · next hu =>
        exact ⟨⟨h.kept, h.beyond, h.rc003, fun hun => absurd hun hu, fun hun => absurd hun hu, h.slots⟩,
          h.pressed, h.bound⟩
  | detach keep =>
    simp only [KeyInput.run]
    split
    · exact keysInv_reset (fun _ => rfl) rfl (fun _ => rfl) (fun _ => rfl) nofun
    · exact keysInv_reset (fun _ => rfl) rfl (fun _ => rfl) nofun nofun
  | fail => exact ⟨⟨h.kept, h.beyond, nofun, nofun, h.waits, h.slots⟩, h.pressed, h.bound⟩
  | restore unicom map bootLayout verified chars =>
    exact keysInv_reset (fun _ => rfl) rfl (fun _ => rfl) (fun _ => rfl) nofun
  | notify handle data =>
    simp only [KeyInput.run]
    split
    · exact h
    · next hlive =>
      have hlive' : w.a.live = true := by simpa using hlive
      split
      · -- a report of a live adapter; each profile has its own decoder
        next hu => exact (sends_unicomNotify h hu hlive' handle data).inv
      · next hu => exact (sends_rc003Notify h (Bool.eq_false_iff.mpr hu) hlive' handle data).inv

lemma sends_notify {w : KeyWorld} (h : KeysInv w) (handle : UInt16) (data : List UInt8) :
    Sends w ((KeyInput.notify handle data).run w) := by
  simp only [KeyInput.run]
  split
  · exact .refl h
  · next hlive =>
    have hlive' : w.a.live = true := by simpa using hlive
    split
    · next hu => exact sends_unicomNotify h hu hlive' handle data
    · next hu => exact sends_rc003Notify h (Bool.eq_false_iff.mpr hu) hlive' handle data

/-- The adapter after its inputs. -/
def keyRun (inputs : List KeyInput) : KeyWorld := inputs.foldl KeyInput.run {}

/-- The invariant in every run, by induction over its inputs. -/
lemma keysInv_keyRun (inputs : List KeyInput) : KeysInv (keyRun inputs) := by
  induction inputs using List.reverseRecOn with
  | nil => exact keysInv_reset (fun _ => rfl) rfl (fun _ => rfl) nofun nofun
  | append_singleton inputs i ih =>
    unfold keyRun at ih ⊢
    rw [List.foldl_append]
    exact keysInv_run ih i

/-- The keys in a report of this characteristic; `none` when the adapter does not take it. -/
def KeyAdapter.takes (c : ReportChar) (data : List UInt8) (a : KeyAdapter) : Option UInt64 :=
  if a.unicom then
    if a.ready && decide (c.reportId = 1 ∨ c.reportId = 3) then unicomDecode c.reportId data else none
  else if c.reportType == 1 && c.subscribed then some ((a.decode c data).getD 0) else none

/-- What an input makes of the keys of the characteristic `j`. -/
def KeyInput.heard (a : KeyAdapter) (j : Nat) (keys : UInt64) : KeyInput → UInt64
  | .notify handle data =>
    if a.live && a.chars.findIdx? (·.valueHandle = handle) == some j then
      (a.takes (a.chars.getD j { valueHandle := handle }) data).getD keys
    else keys
  | .startFresh => 0
  | .detach _ => 0
  | .restore _ _ _ _ _ => 0
  | _ => keys

/-- What the key reports of an adapter say. -/
structure KeyReporting (w : KeyWorld) : Prop where
  /-- The bits are the slots held in the latest reports, within the profile of the server. -/
  pressed : ∀ s, HasKey w.a.pressedBits s ↔ Held w s
  bound : ∀ s, HasKey w.a.pressedBits s → s < lastKeyCount w.log
  /-- The latest reports are those among the inputs. -/
  heard : ∀ (i : KeyInput) (j : Nat), latestKeys j (i.run w).log = i.heard w.a j (latestKeys j w.log)
  /-- A notification that changes what is held sends it, and another one sends nothing. -/
  unchanged : ∀ handle data, (∀ s, Held ((KeyInput.notify handle data).run w) s ↔ Held w s) →
    sentBits ((KeyInput.notify handle data).run w).log = sentBits w.log
  changed : ∀ handle data, ¬ (∀ s, Held ((KeyInput.notify handle data).run w) s ↔ Held w s) →
    ∃ bits, sentBits ((KeyInput.notify handle data).run w).log = bits :: sentBits w.log ∧
      (∀ s, HasKey bits s ↔ Held ((KeyInput.notify handle data).run w) s) ∧
      ∀ s, HasKey bits s → s < lastKeyCount ((KeyInput.notify handle data).run w).log
  /-- Nothing but a notification sends keys. -/
  quiet : ∀ i : KeyInput, (∀ handle data, i ≠ .notify handle data) →
    sentBits (i.run w).log = sentBits w.log
  /-- A subscribed report of the RC003 is heard; a malformed one has no keys. -/
  rc003 : w.a.live = true → w.a.unicom = false → ∀ handle data i c,
    w.a.chars.findIdx? (·.valueHandle = handle) = some i → w.a.chars[i]? = some c →
      c.reportType = 1 → c.subscribed = true →
        latestKeys i ((KeyInput.notify handle data).run w).log = (w.a.decode c data).getD 0
  /-- A malformed report fails the adapter of the Unicom remote and sends nothing. -/
  unicom : w.a.live = true → w.a.unicom = true → w.a.ready = true → ∀ handle data i c,
    w.a.chars.findIdx? (·.valueHandle = handle) = some i → w.a.chars[i]? = some c →
      (c.reportId = 1 ∨ c.reportId = 3) → (∀ bits, unicomDecode c.reportId data = some bits →
        latestKeys i ((KeyInput.notify handle data).run w).log = bits) ∧
      (unicomDecode c.reportId data = none →
        ((KeyInput.notify handle data).run w).a.live = false ∧
          ((KeyInput.notify handle data).run w).log = w.log)

lemma latestKeys_sendKeys (i : Nat) (bits : UInt64) (w : KeyWorld) :
    latestKeys i (sendKeys bits w).log = latestKeys i w.log := by
  unfold sendKeys
  split
  · rfl
  · rfl

lemma latestKeys_recomputeKeys (i : Nat) (w : KeyWorld) :
    latestKeys i (recomputeKeys w).log = latestKeys i w.log := by
  unfold recomputeKeys
  dsimp only
  rw [latestKeys_sendKeys]
  split
  · rfl
  · rfl

lemma latestKeys_note (j i : Nat) (keys : UInt64) (w : KeyWorld) :
    latestKeys j (w.note (.report i keys)).log = if i = j then keys else latestKeys j w.log := rfl

lemma takes_rc003 {a : KeyAdapter} (hu : a.unicom = false) (c : ReportChar) (data : List UInt8) :
    a.takes c data = if c.reportType == 1 && c.subscribed then some ((a.decode c data).getD 0) else none := by
  unfold KeyAdapter.takes
  rw [hu, if_neg Bool.false_ne_true]

lemma takes_unicom {a : KeyAdapter} (hu : a.unicom = true) (c : ReportChar) (data : List UInt8) :
    a.takes c data =
      if a.ready && decide (c.reportId = 1 ∨ c.reportId = 3) then unicomDecode c.reportId data else none := by
  unfold KeyAdapter.takes
  rw [hu, if_pos rfl]

/-- A notification says something about one characteristic at most. -/
lemma heard_notify {a : KeyAdapter} (hl : a.live = true) (handle : UInt16) (data : List UInt8) (j : Nat)
    (keys : UInt64) : (KeyInput.notify handle data).heard a j keys =
      if a.chars.findIdx? (·.valueHandle = handle) = some j then
        (a.takes (a.chars.getD j { valueHandle := handle }) data).getD keys
      else keys := by
  simp [KeyInput.heard, hl]

lemma latestKeys_rc003Notify (handle : UInt16) (data : List UInt8) {w : KeyWorld}
    (hl : w.a.live = true) (hu : w.a.unicom = false) (j : Nat) :
    latestKeys j (rc003Notify handle data w).log =
      (KeyInput.notify handle data).heard w.a j (latestKeys j w.log) := by
  rw [heard_notify hl, takes_rc003 hu]
  unfold rc003Notify
  cases hfind : w.a.chars.findIdx? (·.valueHandle = handle) with
  | none => simp
  | some i =>
    have hskip (c : ReportChar) : (c.reportType != 1 || !c.subscribed) =
        !(c.reportType == 1 && c.subscribed) := by
      rw [Bool.not_and]
      rfl
    dsimp only
    rw [hskip]
    by_cases hij : i = j
    · subst hij
      cases (w.a.chars.getD i { valueHandle := handle }).reportType == 1 &&
          (w.a.chars.getD i { valueHandle := handle }).subscribed with
      | false => simp
      | true =>
        rw [Bool.not_true, if_neg Bool.false_ne_true, latestKeys_recomputeKeys, latestKeys_note]
        simp
    · rw [if_neg fun h => hij (Option.some.inj h)]
      split
      · rfl
      · rw [latestKeys_recomputeKeys, latestKeys_note, if_neg hij]
        rfl

lemma latestKeys_unicomNotify (handle : UInt16) (data : List UInt8) {w : KeyWorld}
    (hl : w.a.live = true) (hu : w.a.unicom = true) (j : Nat) :
    latestKeys j (unicomNotify handle data w).log =
      (KeyInput.notify handle data).heard w.a j (latestKeys j w.log) := by
  rw [heard_notify hl, takes_unicom hu]
  unfold unicomNotify
  cases hready : w.a.ready with
  | false => simp
  | true =>
    rw [Bool.not_true, if_neg Bool.false_ne_true]
    cases hfind : w.a.chars.findIdx? (·.valueHandle = handle) with
    | none => simp
    | some i =>
      dsimp only
      by_cases hid : (w.a.chars.getD i { valueHandle := handle }).reportId = 1 ∨
          (w.a.chars.getD i { valueHandle := handle }).reportId = 3
      · rw [if_pos hid]
        unfold unicomKeys
        by_cases hij : i = j
        · subst hij
          rw [if_pos rfl, Bool.true_and, if_pos (decide_eq_true hid)]
          cases unicomDecode (w.a.chars.getD i { valueHandle := handle }).reportId data with
          | none => rfl
          | some bits =>
            dsimp only
            rw [latestKeys_sendKeys, latestKeys_note, if_pos rfl, Option.getD_some]
        · rw [if_neg fun h => hij (Option.some.inj h)]
          cases unicomDecode (w.a.chars.getD i { valueHandle := handle }).reportId data with
          | none => rfl
          | some bits =>
            dsimp only
            rw [latestKeys_sendKeys, latestKeys_note, if_neg hij]
            rfl
      · rw [if_neg hid]
        -- another report changes no key
        have hlog : latestKeys j w.log = if some i = some j then
            (if (true && decide ((w.a.chars.getD j { valueHandle := handle }).reportId = 1 ∨
                (w.a.chars.getD j { valueHandle := handle }).reportId = 3)) = true then
              unicomDecode (w.a.chars.getD j { valueHandle := handle }).reportId data
              else none).getD (latestKeys j w.log)
            else latestKeys j w.log := by
          by_cases hij : i = j
          · subst hij
            rw [if_pos rfl, Bool.true_and, if_neg fun h => hid (of_decide_eq_true h), Option.getD_none]
          · rw [if_neg fun h => hij (Option.some.inj h)]
        split
        · exact hlog
        · exact hlog

/-- What an input makes of the latest reports. -/
lemma latestKeys_run (i : KeyInput) (w : KeyWorld) (j : Nat) :
    latestKeys j (i.run w).log = i.heard w.a j (latestKeys j w.log) := by
  cases i with
  | notify handle data =>
    simp only [KeyInput.run]
    cases hl : w.a.live with
    | false => simp [KeyInput.heard, hl]
    | true =>
      rw [Bool.not_true, if_neg Bool.false_ne_true]
      cases hu : w.a.unicom with
      | false => exact latestKeys_rc003Notify handle data hl hu j
      | true => exact latestKeys_unicomNotify handle data hl hu j
  | readMap | charFound | done =>
    simp only [KeyInput.run]
    repeat' split
    all_goals rfl
  | detach keep =>
    simp only [KeyInput.run]
    split <;> rfl
  | startFresh | startCached | charReference | charSubscribed | fail | restore => rfl

/-- The key reports of every run show what is held. -/
theorem keyRun_reporting (inputs : List KeyInput) : KeyReporting (keyRun inputs) := by
  have h := keysInv_keyRun inputs
  generalize keyRun inputs = w at h
  -- the held keys are those of the bits, so the two change together
  have hsame (handle : UInt16) (data : List UInt8) :
      (∀ s, Held ((KeyInput.notify handle data).run w) s ↔ Held w s) ↔
        ((KeyInput.notify handle data).run w).a.pressedBits = w.a.pressedBits := by
    have hinv := (sends_notify h handle data).inv
    constructor
    · exact fun hheld => hasKey_ext fun s =>
        (hinv.pressed s).trans ((hheld s).trans (h.pressed s).symm)
    · intro heq s
      rw [← hinv.pressed s, ← h.pressed s, heq]
  refine ⟨h.pressed, h.bound, fun i j => latestKeys_run i w j, fun handle data hheld => ?_,
    fun handle data hheld => ?_, fun i hi => ?_, ?_, ?_⟩
  · rw [(sends_notify h handle data).sent, if_pos ((hsame handle data).mp hheld)]
  · have hsends := sends_notify h handle data
    refine ⟨_, ?_, hsends.inv.pressed, hsends.inv.bound⟩
    rw [hsends.sent, if_neg fun heq => hheld ((hsame handle data).mpr heq)]
  · cases i with
    | notify handle data => exact absurd rfl (hi handle data)
    | readMap | charFound | done | detach =>
      simp only [KeyInput.run]
      repeat' split
      all_goals rfl
    | startFresh | startCached | charReference | charSubscribed | fail | restore => rfl
  · intro hlive hu handle data i c hfind hc htype hsub
    have hget : w.a.chars.getD i { valueHandle := handle } = c := by
      rw [List.getD_eq_getElem?_getD, hc, Option.getD_some]
    simp only [KeyInput.run, hlive, hu, Bool.not_true, Bool.false_eq_true, if_false]
    unfold rc003Notify
    simp only [hfind, hget, htype, hsub, bne_self_eq_false, Bool.not_true, Bool.or_self,
      Bool.false_eq_true, if_false]
    rw [latestKeys_recomputeKeys]
    change (if i = i then _ else _) = _
    rw [if_pos rfl]
  · intro hlive hu hready handle data i c hfind hc hid
    have hget : w.a.chars.getD i { valueHandle := handle } = c := by
      rw [List.getD_eq_getElem?_getD, hc, Option.getD_some]
    have hrun : (KeyInput.notify handle data).run w = unicomKeys i c.reportId data w := by
      simp only [KeyInput.run, hlive, hu, Bool.not_true, Bool.false_eq_true, if_false, if_true]
      unfold unicomNotify
      simp only [hready, hfind, hget, Bool.not_true, Bool.false_eq_true, if_false, if_pos hid]
    rw [hrun]
    unfold unicomKeys
    refine ⟨fun bits hdecode => ?_, fun hdecode => ?_⟩
    · rw [hdecode]
      dsimp only
      rw [latestKeys_sendKeys]
      change (if i = i then _ else _) = _
      rw [if_pos rfl]
    · rw [hdecode]
      exact ⟨rfl, rfl⟩

/-- The voice key of the RC003 shows from its second press on. -/
example : sentBits (keyRun [.startFresh, .readMap false {} true, .charFound 9, .charReference 0 1 1,
    .charSubscribed 0, .done, .notify 9 [0, 0, 0x52, 0, 0, 0, 0, 0], .notify 9 [0, 0, 0x3e, 0, 0, 0, 0, 0],
    .notify 9 [0, 0, 1, 0, 0, 0, 0, 0], .notify 9 [0, 0, 0x3e, 0, 0, 0, 0, 0]]).log = [0x1000, 0, 2] := by
  decide +kernel

end RemoteBridge
