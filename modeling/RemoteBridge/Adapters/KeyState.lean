import RemoteBridge.Adapters.ReportMap

/-!
# The key state of the adapter

What `rc003_adapter.c` and `unicom_runtime.inc` do with key notifications.  Each report characteristic
has the keys of its latest report; for the RC003 these are key ids, for the Unicom remote slots.  The
adapter sends the slots of all of them to the server when they change.

Discovery, caches and failures are modelled as far as they touch the keys: which characteristics there
are, how they are decoded, and which profile the server was given.  Discovery reads the map once, before
it enumerates the characteristics.
-/

namespace RemoteBridge

/-- `RBP_KEY_VOICE`. -/
def keyVoice : Nat := 2

/-- The key ids of `rc003_keys`, by slot. -/
def rc003Keys : List Nat := [1, 3, 4, 5, 6, 7, 8, 9, 10, 11, 12, 13, 2]

/-- The key counts of `RBP_PROFILE_RC003`, `RBP_PROFILE_RC003_VOICE` and `RBP_PROFILE_UNICOM`. -/
def rc003KeyCount : Nat := 12

def rc003VoiceKeyCount : Nat := 13

def unicomKeyCount : Nat := 28

/-- `unicom_keys_map`: the report and the usage of each slot. -/
def unicomKeysMap : List (Nat × Nat) :=
  [(1, 102), (1, 127), (3, 246), (1, 82), (1, 81), (1, 80), (1, 79), (1, 40), (3, 547), (3, 1023), (1, 243),
   (1, 128), (1, 129), (3, 156), (3, 157), (1, 234), (1, 30), (1, 31), (1, 32), (1, 33), (1, 34), (1, 35),
   (1, 36), (1, 37), (1, 38), (3, 771), (1, 39), (3, 772)]

/-- `rc003_report_char_t`, as far as keys go. -/
structure ReportChar where
  valueHandle : UInt16
  reportId : UInt8 := 0
  reportType : UInt8 := 0
  subscribed : Bool := false
  deriving DecidableEq, Repr

/-- `rc003_adapter_t`, as far as keys go.  A report that was never heard has no keys. -/
structure KeyAdapter where
  unicom : Bool := false
  map : HogpReportMap := {}
  bootLayout : Bool := false
  chars : List ReportChar := []
  keysByReport : Nat → UInt64 := fun _ => 0
  voiceDownSeen : Bool := false
  voiceKeyVerified : Bool := false
  pressedBits : UInt64 := 0
  ready : Bool := false
  /-- The state is neither `ST_IDLE` nor `ST_FAILED`. -/
  live : Bool := false

/-- What happens at the adapter: it takes a report of a characteristic, gives the server a profile or a
key report, or starts over without keys. -/
inductive KeyEv where
  | report (index : Nat) (keys : UInt64)
  | profile (keyCount : Nat)
  | sent (bits : UInt64)
  | reset
  deriving DecidableEq, Repr

/-- The adapter with its log, the newest event first. -/
structure KeyWorld where
  a : KeyAdapter := {}
  log : List KeyEv := []

namespace KeyWorld

def act (f : KeyAdapter → KeyAdapter) (w : KeyWorld) : KeyWorld := { w with a := f w.a }

def note (e : KeyEv) (w : KeyWorld) : KeyWorld := { w with log := e :: w.log }

end KeyWorld

/-- A bit is set. -/
def setBit (n : Nat) (bits : UInt64) : UInt64 := bits ||| (1 <<< UInt64.ofNat n)

/-- `key_slot`. -/
def keySlot (key : Nat) : Nat := (rc003Keys.findIdx? (· = key)).getD 0xffff

namespace KeyAdapter

/-- The union over all report characteristics. -/
def union (a : KeyAdapter) : UInt64 :=
  (List.range a.chars.length).foldl (fun keys i => keys ||| a.keysByReport i) 0

/-- Whether a set of keys has the key `k`. -/
def hasBit (keys : UInt64) (k : Nat) : Bool := keys.toNat.testBit k

/-- The slots of a set of keys. -/
def slots (keys : UInt64) (verified : Bool) : UInt64 :=
  (List.range' 1 63).foldl (fun bits k =>
    if hasBit keys k && !(k == keyVoice && !verified) && decide (keySlot k < 64) then
      setBit (keySlot k) bits
    else bits) 0

def hear (i : Nat) (keys : UInt64) (a : KeyAdapter) : KeyAdapter :=
  { a with keysByReport := fun j => if j = i then keys else a.keysByReport j }

end KeyAdapter

/-- `key_state_send`, when the bits have changed. -/
def sendKeys (bits : UInt64) (w : KeyWorld) : KeyWorld :=
  if bits != w.a.pressedBits then (w.act fun a => { a with pressedBits := bits }).note (.sent bits) else w

/-- `recompute_keys`. -/
def recomputeKeys (w : KeyWorld) : KeyWorld :=
  let keys := w.a.union
  let voiceNow := KeyAdapter.hasBit keys keyVoice
  let w :=
    if !voiceNow && w.a.voiceDownSeen && !w.a.voiceKeyVerified then
      (w.act fun a => { a with voiceKeyVerified := true }).note (.profile rc003VoiceKeyCount)
    else w
  let w := w.act fun a => { a with voiceDownSeen := voiceNow }
  sendKeys (KeyAdapter.slots keys w.a.voiceKeyVerified) w

/-- The keys of a report of the RC003; `none` when it is malformed. -/
def KeyAdapter.decode (c : ReportChar) (data : List UInt8) (a : KeyAdapter) : Option UInt64 :=
  if a.bootLayout && c.reportId == 1 && data.length == 8 then hogpDecodeBootKeyboard data
  else hogpDecodeReport a.map c.reportId.toNat data

/-- A notification of the RC003; a malformed report counts as one without keys. -/
def rc003Notify (handle : UInt16) (data : List UInt8) (w : KeyWorld) : KeyWorld :=
  match w.a.chars.findIdx? (·.valueHandle = handle) with
  | none => w
  | some i =>
    let c := w.a.chars.getD i { valueHandle := handle }
    if c.reportType != 1 || !c.subscribed then w
    else
      let keys := (w.a.decode c data).getD 0
      recomputeKeys ((w.act (KeyAdapter.hear i keys)).note (.report i keys))

/-- The usages of a Unicom report. -/
def unicomUsages (id : UInt8) (data : List UInt8) : List Nat :=
  if id = 1 then (data.drop 2).map UInt8.toNat
  else [(data.getD 0 0).toNat + 256 * (data.getD 1 0).toNat]

/-- The slots of a Unicom report; `none` when its layout or a usage is unknown. -/
def unicomDecode (id : UInt8) (data : List UInt8) : Option UInt64 :=
  if (id = 1 ∧ (data.length ≠ 8 ∨ data.getD 0 0 ≠ 0 ∨ data.getD 1 0 ≠ 0)) ∨
      (id = 3 ∧ data.length ≠ 2) then none
  else if (unicomUsages id data).all fun u => u = 0 ∨ (id.toNat, u) ∈ unicomKeysMap then
    some ((List.range unicomKeysMap.length).foldl (fun bits j =>
      if (unicomUsages id data).any fun u => unicomKeysMap[j]? = some (id.toNat, u) then setBit j bits
      else bits) 0)
  else none

/-- `unicom_bad`, as far as keys go: the adapter fails. -/
def unicomBad (w : KeyWorld) : KeyWorld := w.act fun a => { a with live := false }

/-- `unicom_keys`. -/
def unicomKeys (i : Nat) (id : UInt8) (data : List UInt8) (w : KeyWorld) : KeyWorld :=
  match unicomDecode id data with
  | none => unicomBad w
  | some bits =>
    let w := (w.act (KeyAdapter.hear i bits)).note (.report i bits)
    sendKeys w.a.union w

/-- A notification of a report characteristic of the Unicom remote. -/
def unicomNotify (handle : UInt16) (data : List UInt8) (w : KeyWorld) : KeyWorld :=
  if !w.a.ready then w
  else
    match w.a.chars.findIdx? (·.valueHandle = handle) with
    | none => w
    | some i =>
      let id := (w.a.chars.getD i { valueHandle := handle }).reportId
      if id = 1 ∨ id = 3 then unicomKeys i id data w
      else if (id = 0xf9 ∧ data.length ≠ 1) ∨ (id = 4 ∧ data.length ≠ 20) then unicomBad w
      else w

/-- What happens to the adapter. -/
inductive KeyInput where
  /-- `rc003_adapter_start_bound`, without and with cached attributes. -/
  | startFresh
  | startCached
  /-- Discovery: the map, a characteristic, its report reference, its subscription, the end. -/
  | readMap (unicom : Bool) (map : HogpReportMap) (bootLayout : Bool)
  | charFound (handle : UInt16)
  | charReference (i : Nat) (id type : UInt8)
  | charSubscribed (i : Nat)
  | done
  /-- `rc003_adapter_detach`; the attributes are kept when the cache is valid. -/
  | detach (keep : Bool)
  | fail
  /-- A cache is loaded. -/
  | restore (unicom : Bool) (map : HogpReportMap) (bootLayout verified : Bool) (chars : List ReportChar)
  | notify (handle : UInt16) (data : List UInt8)

/-- The profile of the cached attributes. -/
def KeyAdapter.cachedKeyCount (a : KeyAdapter) : Nat :=
  if a.unicom then unicomKeyCount else if a.voiceKeyVerified then rc003VoiceKeyCount else rc003KeyCount

/-- `RC003_MAX_REPORT_CHARS`. -/
def maxReportChars : Nat := 8

def KeyInput.run (w : KeyWorld) : KeyInput → KeyWorld
  | .startFresh =>
    { a := { live := true }, log := .profile rc003KeyCount :: .reset :: w.log }
  | .startCached => (w.act fun a => { a with live := true }).note (.profile w.a.cachedKeyCount)
  | .readMap unicom map bootLayout =>
    if w.a.live && !w.a.ready && !w.a.unicom && w.a.chars.isEmpty then
      w.act fun a => { a with unicom := unicom, map := map, bootLayout := bootLayout }
    else w
  | .charFound handle =>
    if w.a.live && decide (w.a.chars.length < maxReportChars) then
      w.act fun a => { a with chars := a.chars ++ [{ valueHandle := handle }] }
    else w
  | .charReference i id type =>
    w.act fun a => { a with chars := a.chars.modify i fun c => { c with reportId := id, reportType := type } }
  | .charSubscribed i =>
    w.act fun a => { a with chars := a.chars.modify i fun c => { c with subscribed := true } }
  | .done =>
    if !w.a.live then w
    else if w.a.unicom then (w.act fun a => { a with ready := true }).note (.profile unicomKeyCount)
    else w.act fun a => { a with ready := true }
  | .detach keep =>
    if keep then
      { a := { w.a with
          live := false, ready := false, voiceDownSeen := false, pressedBits := 0, keysByReport := fun _ => 0 }
        log := .reset :: w.log }
    else { a := {}, log := .reset :: w.log }
  | .fail => w.act fun a => { a with live := false }
  | .restore unicom map bootLayout verified chars =>
    { a := { unicom := unicom, map := map, bootLayout := bootLayout, voiceKeyVerified := verified,
             chars := chars }
      log := .reset :: w.log }
  | .notify handle data =>
    if !w.a.live then w else if w.a.unicom then unicomNotify handle data w else rc003Notify handle data w

end RemoteBridge
