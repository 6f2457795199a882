import RemoteBridge.Adapters.Discovery

/-!
# The attribute cache of the adapter

`cache.inc`: the attributes of a remote as one record of bytes, written after a discovery and read at the
next start, so that a bonded remote need not be discovered again.  The record has a header of 48 bytes, 11
bytes for each report characteristic, and the report map.

`rc003_adapter_detach` and `rc003_adapter_commit_bond` are here too, which keep the attributes between two
links and give them to a bond.  What `rc003_adapter_init` tells the server is left out.
-/

namespace RemoteBridge

/-- `CACHE_HEADER`. -/
def cacheHeader : Nat := 48

/-- `CACHE_CHAR`. -/
def cacheChar : Nat := 11

/-- The magic of a record. -/
def cacheMagic : List UInt8 := [0x47, 0x41, 0x43, 0x31]

namespace Rc003

/-- `rc003_adapter_init`. -/
def init : Rc003 where
  fits := Nat.zero_le _

/-! ## Export -/

/-- The handles of a record, in their order. -/
def handles (a : Rc003) : List UInt16 :=
  [a.protocolModeHandle, a.hidInfoHandle, a.mapValueHandle, a.batValueHandle, a.batCccdHandle,
    a.atvvTxHandle, a.atvvCtlHandle, a.atvvCtlCccd, a.atvvAudioHandle, a.atvvAudioCccd,
    a.serviceChangedHandle, a.serviceChangedCccd, a.unicom.fd, a.unicom.fdCccd]

/-- The flags of a record. -/
def cacheFlags (a : Rc003) : UInt8 :=
  (if a.unicom.selected then 1 else 0) ||| (if a.rc003BootLayout then 2 else 0) |||
    (if a.voiceKeyVerified then 4 else 0) ||| (if a.atvvPresent then 8 else 0)

/-- The length of a record. -/
def cacheLength (a : Rc003) : Nat := cacheHeader + cacheChar * a.chars.length + a.mapBuf.length

/-- The header of a record; two bytes after the handles and the last six are not used. -/
def cacheHead (a : Rc003) : List UInt8 :=
  cacheMagic ++ put16 (UInt16.ofNat a.cacheLength) ++ [a.cacheFlags, UInt8.ofNat a.chars.length] ++
    a.handles.flatMap put16 ++ [0, 0] ++ [a.hidFlags, if a.hidInfoValid then 1 else 0] ++
    put16 (UInt16.ofNat a.mapBuf.length) ++ List.replicate 6 0

end Rc003

/-- A characteristic in a record. -/
def ReportAttr.cached (c : ReportAttr) : List UInt8 :=
  put16 c.valueHandle ++ put16 c.cccdHandle ++ put16 c.refHandle ++
    [c.reportId, c.reportType, c.properties, c.usagePage, if c.subscribed then 1 else 0]

/-- `rc003_adapter_cache_export`: the bytes it writes into a buffer of `cap`. -/
def Rc003.cacheExport (a : Rc003) (cap : Nat) : List UInt8 :=
  if a.cacheValid = false ∨ a.cacheSafe = false ∨ a.cachePeerId = 0 ∨ a.chars.length = 0 ∨
      maxReportChars < a.chars.length ∨ hogpMaxMapSize < a.mapBuf.length ∨ cap < a.cacheLength then []
  else a.cacheHead ++ a.chars.flatMap ReportAttr.cached ++ a.mapBuf

/-! ## Import -/

/-- The bytes of the `i`-th characteristic of a record. -/
def cachedBytes (p : List UInt8) (i : Nat) : List UInt8 := p.drop (cacheHeader + cacheChar * i)

/-- A characteristic from its bytes. -/
def ReportAttr.ofCached (q : List UInt8) : ReportAttr where
  valueHandle := get16 q 0
  cccdHandle := get16 q 2
  refHandle := get16 q 4
  reportId := q.getD 6 0
  reportType := q.getD 7 0
  properties := q.getD 8 0
  usagePage := q.getD 9 0
  subscribed := q.getD 10 0 != 0

/-- What the import asks of the bytes of a characteristic. -/
def cachedCharOk (q : List UInt8) : Bool :=
  !(get16 q 0 == 0 || q.getD 7 0 < 1 || 3 < q.getD 7 0 || 1 < q.getD 10 0 ||
    (q.getD 10 0 != 0 && get16 q 2 == 0))

/-- The loop of the import over the characteristics, each compared with those before it. -/
def cachedCharsOk (p : List UInt8) (count : Nat) : Bool :=
  (List.range count).all fun i => cachedCharOk (cachedBytes p i) &&
    (List.range i).all fun j => get16 (cachedBytes p i) 0 != get16 (cachedBytes p j) 0

namespace Rc003

/-- The attributes of a record, in an adapter that was just initialised. -/
def restoreAttributes (p map : List UInt8) (unicom xiaomi : Bool) (count : Nat)
    (hcount : count ≤ maxReportChars) : Rc003 where
  unicom := { selected := unicom, fd := get16 p 32, fdCccd := get16 p 34 }
  rc003BootLayout := xiaomi
  voiceKeyVerified := p.getD 6 0 &&& 4 != 0
  atvvPresent := p.getD 6 0 &&& 8 != 0
  protocolModeHandle := get16 p 8
  hidInfoHandle := get16 p 10
  mapValueHandle := get16 p 12
  batValueHandle := get16 p 14
  batCccdHandle := get16 p 16
  atvvTxHandle := get16 p 18
  atvvCtlHandle := get16 p 20
  atvvCtlCccd := get16 p 22
  atvvAudioHandle := get16 p 24
  atvvAudioCccd := get16 p 26
  serviceChangedHandle := get16 p 28
  serviceChangedCccd := get16 p 30
  hidFlags := p.getD 38 0
  hidInfoValid := p.getD 39 0 != 0
  mapBuf := map
  chars := (List.range count).map fun i => ReportAttr.ofCached (cachedBytes p i)
  fits := by rw [List.length_map, List.length_range]; exact hcount

/-- The profile of restored attributes is complete: the voice handles of a Unicom remote are found again,
and the map of an RC003 is parsed again. -/
def restoreProfile (a : Rc003) : Option Rc003 :=
  if a.unicom.selected then
    if a.unicom.fd ≠ 0 ∧ a.unicom.fdCccd ≠ 0 ∧ a.unicomReports.2 = true then
      some { a with unicom := a.unicomReports.1 }
    else none
  else
    match hogpReportMapParse a.mapBuf with
    | some map =>
      if a.atvvPresent = true ∧ a.atvvTxHandle ≠ 0 ∧ a.atvvCtlHandle ≠ 0 ∧ a.atvvCtlCccd ≠ 0 ∧
          a.atvvAudioHandle ≠ 0 ∧ a.atvvAudioCccd ≠ 0 then some { a with map } else none
    | none => none

/-- `rc003_adapter_cache_import`. -/
def cacheImport (peer : UInt32) (p : List UInt8) (a : Rc003) : Bool × Rc003 :=
  if a.state ≠ .idle ∨ peer = 0 ∨ p.length < cacheHeader ∨ p.take 4 ≠ cacheMagic ∨
      (get16 p 4).toNat ≠ p.length ∨ p.getD 6 0 &&& 0xf0 ≠ 0 ∨ p.getD 7 0 = 0 ∨
      maxReportChars < (p.getD 7 0).toNat ∨ 1 < p.getD 39 0 then (false, a)
  else
    let ml := (get16 p 40).toNat
    let count := (p.getD 7 0).toNat
    if hogpMaxMapSize < ml ∨ p.length ≠ cacheHeader + cacheChar * count + ml then (false, a)
    else
      let map := p.drop (cacheHeader + cacheChar * count)
      let unicom := map == unicomMap
      let xiaomi := bootLayoutMap map
      if p.getD 6 0 &&& 3 ≠ (if unicom then 1 else if xiaomi then 2 else 0) ∨
          unicom = false ∧ xiaomi = false then (false, a)
      else if cachedCharsOk p count = false then (false, a)
      else if hcount : count ≤ maxReportChars then
        match (restoreAttributes p map unicom xiaomi count hcount).restoreProfile with
        | some a' =>
          if a'.serviceChangedHandle ≠ 0 ∧ a'.serviceChangedCccd = 0 then (false, init)
          else (true, { a' with
            initWithoutSync := xiaomi, cachePeerId := peer, cacheSafe := true, cacheValid := true })
        | none => (false, init)
      else (false, a)

/-! ## Between two links -/

/-- `rc003_adapter_commit_bond`. -/
def commitBond (peer : UInt32) (a : Rc003) : Rc003 :=
  if peer = 0 ∨ a.ready = false then a
  else { a with cachePeerId := peer, cacheValid := a.cacheSafe && a.voiceReady }

/-- `rc003_adapter_detach`; a cache that is not valid is forgotten with everything else. -/
def detach (a : Rc003) : Rc003 :=
  if a.cacheValid then
    { a with
      capsValid := false
      interaction := 0
      sampleRate := 0
      initWithoutSync := a.rc003BootLayout
      state := .idle
      retry := false
      ready := false
      voiceReady := false
      restoring := false
      pendingSearch := false
      capsRequested := false
      voiceDownSeen := false
      unicom := { a.unicom with hello := a.unicom.hello && !a.unicom.selected } }
  else init

end Rc003

end RemoteBridge
