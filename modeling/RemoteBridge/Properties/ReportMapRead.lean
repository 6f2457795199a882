import RemoteBridge.Adapters.WchGatt
import RemoteBridge.Properties.DiscoveryProgress

/-!
# Reading the report map

The report map is longer than one response, so it comes in fragments: the first in the response to a read,
the rest in the responses to a long read, whose end has three forms.  The library reads from where it was
asked to; `reader` is how far it is.  The adapter counts the bytes it has, the client the offset of the
next fragment, and the three agree.

## What is assumed

The library and the remote are not part of the firmware.  `LongReads` says what is relied upon: a long read
that is accepted goes on at the offset that it was given, and one that is not accepted is not refused for
good.  Between two fragments there may be ticks before the deadline, notes to the application, and steps of
the library that leave the reader alone (`Interlude`).

## The argument

`Reading` is the invariant of a read in progress: what the adapter has is a prefix of the value, and its
length is the offset at which the client and the library go on.  A fragment makes the prefix longer or ends
the read (`reading_delivery`), and an interlude changes nothing (`reading_interlude`).  A fragment for any
other offset is refused and fails the discovery.  At the end the prefix is the whole value, and it is what
the parser is given (`Ended`).
-/

namespace RemoteBridge

namespace DiscWorld

variable {S : Type} {b : AdapterBuild} {sdk : BleSdk S} {reader : S → Nat} {value : List UInt8}
variable {w w' : DiscWorld (Wch S)}

/-- What the library promises of a long read: it reads from the offset it is asked for, and a client that
waits gets it at last. -/
structure LongReads (sdk : BleSdk S) (reader : S → Nat) : Prop where
  begins : ∀ handle offset s, rejected (sdk.call (.readLong handle offset) s).1 = .ok →
    reader (sdk.call (.readLong handle offset) s).2 = offset.toNat
  waits : ∀ handle offset s, rejected (sdk.call (.readLong handle offset) s).1 ≠ .rejected

/-- What a response can carry: `neg_mtu - 1`. -/
def carried (w : DiscWorld (Wch S)) : Nat := w.gatt.negMtu.toNat - 1

/-- The map is being read. -/
def Live (w : DiscWorld (Wch S)) : Prop := w.a.state = .readMap ∨ w.a.state = .readMapCont

/-- A message on the link of the adapter. -/
def message (w : DiscWorld (Wch S)) (m : GattMsg) (status : UInt8) : GattMsgEvent :=
  { connHandle := w.gatt.connHandle, status, msg := m }

/-- The library delivers the next fragment of `value`. -/
inductive Delivery (b : AdapterBuild) (sdk : BleSdk S) (reader : S → Nat) (value : List UInt8) :
    DiscWorld (Wch S) → DiscWorld (Wch S) → Prop
  | first (w : DiscWorld (Wch S)) : w.gatt.curOp = .readValue →
    Delivery b sdk reader value w
      (onMsg b sdk (w.message (.readRsp (some (value.take w.carried))) sdkSuccess) w)
  | blob (w : DiscWorld (Wch S)) (s : S) : w.gatt.curOp = .readLong →
    reader w.gatt.sdk + w.carried ≤ value.length → reader s = reader w.gatt.sdk + w.carried →
    Delivery b sdk reader value w
      (onMsg b sdk
        (w.message (.readBlobRsp (some ((value.drop (reader w.gatt.sdk)).take w.carried))) sdkSuccess)
        (w.client fun g => { g with sdk := s }))
  | last (w : DiscWorld (Wch S)) : w.gatt.curOp = .readLong → reader w.gatt.sdk ≤ value.length →
    value.length < reader w.gatt.sdk + w.carried →
    Delivery b sdk reader value w
      (onMsg b sdk
        (w.message (.readBlobRsp (some (value.drop (reader w.gatt.sdk)))) bleProcedureComplete) w)
  | beyond (w : DiscWorld (Wch S)) : w.gatt.curOp = .readLong → reader w.gatt.sdk = value.length →
    Delivery b sdk reader value w
      (onMsg b sdk (w.message (.errorRsp 0x0c w.a.mapValueHandle attInvalidOffset) sdkSuccess) w)

/-- What may happen between two fragments, within the deadlines. -/
inductive Interlude (b : AdapterBuild) (sdk : BleSdk S) (reader : S → Nat) :
    DiscWorld (Wch S) → DiscWorld (Wch S) → Prop
  | tick (w : DiscWorld (Wch S)) (nowMs : UInt32) : passed nowMs w.a.initDeadlineMs = false →
    passed nowMs w.a.deadlineMs = false → Interlude b sdk reader w (tick b (Wch.client sdk) nowMs w)
  | quiet (w : DiscWorld (Wch S)) (down search verified : Bool) :
    Interlude b sdk reader w (w.act fun a => { a with
      voiceDownSeen := down, pendingSearch := search, voiceKeyVerified := verified })
  | told (w : DiscWorld (Wch S)) (t : DiscTold) : Interlude b sdk reader w (w.tell t)
  | library (w : DiscWorld (Wch S)) (s : S) : reader s = reader w.gatt.sdk →
    Interlude b sdk reader w (w.client fun g => { g with sdk := s })

/-- A step of the read. -/
def ReadStep (b : AdapterBuild) (sdk : BleSdk S) (reader : S → Nat) (value : List UInt8)
    (w w' : DiscWorld (Wch S)) : Prop :=
  Live w ∧ (Delivery b sdk reader value w w' ∨ Interlude b sdk reader w w')

/-! ## The invariant -/

/-- Where the read stands. -/
inductive Phase where
  | asked
  | refused
  | rest
  deriving DecidableEq

/-- The procedure that is pending. -/
def Phase.owner : Phase → Gop
  | .asked => .readValue
  | .refused => .none
  | .rest => .readLong

/-- What holds while the map is read. -/
structure Reading (reader : S → Nat) (value : List UInt8) (w : DiscWorld (Wch S)) (p : Phase) : Prop where
  linked : w.gatt.connHandle ≠ gapConnHandleInit
  mtu : 23 ≤ w.gatt.negMtu.toNat
  /-- What was assembled is the beginning of the value. -/
  assembled : w.a.mapBuf = value.take w.a.mapBuf.length
  most : w.a.mapBuf.length ≤ 512
  state : w.a.state = if p = .asked then .readMap else .readMapCont
  again : w.a.retry = decide (p = .refused)
  owner : w.gatt.curOp = p.owner
  longer : w.a.mapLongStarted = decide (p ≠ .asked)
  empty : p = .asked → w.a.mapBuf = []
  more : p ≠ .asked → 0 < w.a.mapBuf.length
  /-- The client and the library are as far as the adapter. -/
  offset : p = .rest → w.gatt.readOffset.toNat = w.a.mapBuf.length ∧ reader w.gatt.sdk = w.a.mapBuf.length
  pending : p = .rest →
    w.gatt.pendingStart = w.a.mapValueHandle ∧ w.gatt.pendingEnd = w.a.mapValueHandle

/-- How a read can end. -/
def Ended (b : AdapterBuild) (sdk : BleSdk S) (value : List UInt8) (w : DiscWorld (Wch S)) : Prop :=
  (value.length ≤ 512 ∧ ∃ v : DiscWorld (Wch S), Live v ∧ v.a.mapBuf = value ∧
    w = mapComplete b (Wch.client sdk) v) ∨ (512 < value.length ∧ w.a.state = .failed)

/-! ## Submissions -/

@[simp] theorem failInit_state (cause : String) (invalidate : Bool) (w : DiscWorld (Wch S)) :
    (failInit cause invalidate w).a.state = .failed := by
  unfold failInit
  dsimp only
  split_ifs <;> rfl

/-- A failure while the map is read ends discovery. -/
theorem handleOpFailure_live (hlive : Live w) :
    (handleOpFailure b (Wch.client sdk) w).a.state = .failed := by
  rw [handleOpFailure]
  split_ifs
  · exact failInit_state _ _ _
  · have hop : failureOp w.a = (w.a, .bad "failed") := by
      rcases hlive with hs | hs <;> rw [failureOp, hs]
    rw [hop]
    exact failInit_state _ _ _

/-- A long read that the client accepts begins where the adapter is. -/
theorem submit_long (hreads : LongReads sdk reader) (handle offset : UInt16) {g : Wch S}
    (hfree : g.curOp = .none) :
    ((Wch.submit sdk (.readLong handle offset) g).1 = .retry ∧
      ∃ s, (Wch.submit sdk (.readLong handle offset) g).2 = { g with sdk := s }) ∨
    ((Wch.submit sdk (.readLong handle offset) g).1 = .ok ∧
      ∃ s, reader s = offset.toNat ∧ (Wch.submit sdk (.readLong handle offset) g).2 =
        { g with
          sdk := s
          pendingStart := handle
          pendingEnd := handle
          readOffset := offset
          generation := g.generation + 1
          curOp := .readLong }) := by
  have hsubmit : Wch.submit sdk (.readLong handle offset) g =
      Wch.start sdk .readLong (.readLong handle offset)
        (fun w => { w.pending handle handle with readOffset := offset }) g := by
    unfold Wch.submit
    rw [if_neg (by rw [hfree]; decide), if_neg (not_not.mpr hfree)]
    rfl
  rw [hsubmit, Wch.start]
  cases hret : rejected (sdk.call (.readLong handle offset) g.sdk).1 with
  | ok => exact .inr ⟨rfl, _, hreads.begins handle offset g.sdk hret, rfl⟩
  | retry => exact .inl ⟨rfl, _, rfl⟩
  | rejected => exact absurd hret (hreads.waits handle offset g.sdk)

/-- The rest of the map is asked for, now or at a later tick. -/
theorem reading_ask (hreads : LongReads sdk reader) (hlinked : w.gatt.connHandle ≠ gapConnHandleInit)
    (hmtu : 23 ≤ w.gatt.negMtu.toNat) (hassembled : w.a.mapBuf = value.take w.a.mapBuf.length)
    (hmost : w.a.mapBuf.length ≤ 512) (hmore : 0 < w.a.mapBuf.length)
    (hstate : w.a.state = .readMapCont) (hfree : w.gatt.curOp = .none)
    (hlong : w.a.mapLongStarted = true) :
    Reading reader value (beginNext b (Wch.client sdk) w) .refused ∨
      Reading reader value (beginNext b (Wch.client sdk) w) .rest := by
  have hop : w.a.beginOp b =
      (w.a, .ask (.readLong w.a.mapValueHandle (UInt16.ofNat w.a.mapBuf.length))) := by
    rw [Rc003.beginOp, hstate]
  have hoffset : (UInt16.ofNat w.a.mapBuf.length).toNat = w.a.mapBuf.length := by
    rw [UInt16.toNat_ofNat']
    omega
  generalize hr : GattReq.readLong w.a.mapValueHandle (UInt16.ofNat w.a.mapBuf.length) = r at hop
  have hworld : ∀ g : Wch S, ((Wch.client sdk).submit r w.gatt).2 = g →
      w.submit (Wch.client sdk) w.a r = { w with gatt := g, log := .asked r :: w.log } := by
    rintro g rfl
    rfl
  rw [beginNext, hop]
  dsimp only
  have hsubmitted := submit_long hreads w.a.mapValueHandle (UInt16.ofNat w.a.mapBuf.length) hfree
  rw [hr] at hsubmitted
  -- the library refuses for now, or the rest of the value is asked for
  rcases hsubmitted with ⟨hret, s, hgatt⟩ | ⟨hret, s, hs, hgatt⟩
  · left
    rw [hworld _ hgatt, show ((Wch.client sdk).submit r w.gatt).1 = .retry from hret]
    exact {
      linked := hlinked
      mtu := hmtu
      assembled := hassembled
      most := hmost
      state := hstate
      again := rfl
      owner := hfree
      longer := hlong
      empty := fun h => by cases h
      more := fun _ => hmore
      offset := fun h => by cases h
      pending := fun h => by cases h }
  · right
    rw [hworld _ hgatt, show ((Wch.client sdk).submit r w.gatt).1 = .ok from hret]
    dsimp only
    rw [dif_neg (by rw [hstate]; decide), accepted, if_neg (by rw [hstate]; decide)]
    exact {
      linked := hlinked
      mtu := hmtu
      assembled := hassembled
      most := hmost
      state := hstate
      again := rfl
      owner := rfl
      longer := hlong
      empty := fun h => by cases h
      more := fun _ => hmore
      offset := fun _ => ⟨hoffset, hs.trans hoffset⟩
      pending := fun _ => ⟨rfl, rfl⟩ }

/-! ## Fragments -/

theorem act_gatt (f : Rc003 → Rc003) (w : DiscWorld (Wch S)) : (w.act f).gatt = w.gatt := rfl

/-- Only the deadline changes. -/
theorem extend_a (e : GattEvt) (w : DiscWorld (Wch S)) : (extend e w).a =
    if e.extends then { w.a with deadlineMs := w.a.nowMs + attResponseTimeoutMs } else w.a := by
  unfold extend
  split_ifs <;> rfl

@[simp] theorem extend_state (e : GattEvt) (w : DiscWorld (Wch S)) :
    (extend e w).a.state = w.a.state := by
  rw [extend_a]
  split_ifs <;> rfl

@[simp] theorem extend_mapBuf (e : GattEvt) (w : DiscWorld (Wch S)) :
    (extend e w).a.mapBuf = w.a.mapBuf := by
  rw [extend_a]
  split_ifs <;> rfl

@[simp] theorem extend_mapLongStarted (e : GattEvt) (w : DiscWorld (Wch S)) :
    (extend e w).a.mapLongStarted = w.a.mapLongStarted := by
  rw [extend_a]
  split_ifs <;> rfl

@[simp] theorem extend_retry (e : GattEvt) (w : DiscWorld (Wch S)) :
    (extend e w).a.retry = w.a.retry := by
  rw [extend_a]
  split_ifs <;> rfl

@[simp] theorem extend_mapValueHandle (e : GattEvt) (w : DiscWorld (Wch S)) :
    (extend e w).a.mapValueHandle = w.a.mapValueHandle := by
  rw [extend_a]
  split_ifs <;> rfl

@[simp] theorem extend_gatt (e : GattEvt) (w : DiscWorld (Wch S)) : (extend e w).gatt = w.gatt := by
  unfold extend
  split_ifs
  · rw [act_gatt]
  · rfl

/-- A read response reaches the code of the map, with more time for the procedure. -/
theorem onGatt_fragment (hlive : Live w) (v : List UInt8) (offset : UInt16) (complete : Bool) :
    onGatt b (Wch.client sdk) (.readRsp v offset complete) w =
      onMap b (Wch.client sdk) (.readRsp v offset complete) (extend (.readRsp v offset complete) w) := by
  unfold onGatt
  rcases hlive with hs | hs
  all_goals
    rw [if_neg (by rw [hs]; decide)]
    dsimp only
    unfold onState
    rw [extend_state, hs]

theorem live_extend (hlive : Live w) (e : GattEvt) : Live (extend e w) := by
  unfold Live
  rw [extend_state]
  exact hlive

theorem live_client (hlive : Live w) (f : Wch S → Wch S) : Live (w.client f) := hlive

/-- A fragment at an unexpected offset, or beyond the buffer, ends discovery. -/
theorem fragment_refused (hlive : Live w) {v : List UInt8} {offset : UInt16} {complete : Bool}
    (hbad : v.length > 512 - w.a.mapBuf.length ∨ offset.toNat ≠ w.a.mapBuf.length) :
    (onGatt b (Wch.client sdk) (.readRsp v offset complete) w).a.state = .failed := by
  rw [onGatt_fragment hlive, onMap, extend_mapBuf, hogpMaxMapSize, if_pos hbad]
  exact handleOpFailure_live (live_extend hlive _)

/-- The last fragment completes the map. -/
theorem fragment_last (b : AdapterBuild) (sdk : BleSdk S) (hlive : Live w) {v : List UInt8} {o : UInt16}
    (hroom : v.length ≤ 512 - w.a.mapBuf.length) (hoffset : o.toNat = w.a.mapBuf.length) :
    ∃ u : DiscWorld (Wch S), Live u ∧ u.a.mapBuf = w.a.mapBuf ++ v ∧
      onGatt b (Wch.client sdk) (.readRsp v o true) w = mapComplete b (Wch.client sdk) u := by
  refine ⟨(extend (.readRsp v o true) w).act fun a => { a with mapBuf := a.mapBuf ++ v },
    live_extend hlive _, congrArg (· ++ v) (extend_mapBuf _ w), ?_⟩
  rw [onGatt_fragment hlive, onMap, extend_mapBuf, hogpMaxMapSize, if_neg (by omega)]
  rfl

/-- Any other fragment is kept; after the first, the rest is asked for. -/
theorem fragment_first (b : AdapterBuild) (hreads : LongReads sdk reader) {v : List UInt8}
    {u : DiscWorld (Wch S)} (h : Reading reader value w .asked) (hgatt : u.gatt = { w.gatt with curOp := .none })
    (ha : u.a = w.a) (hv : v = value.take v.length) (hpos : 0 < v.length) (hroom : v.length ≤ 512) :
    Reading reader value (onGatt b (Wch.client sdk) (.readRsp v 0 false) u) .refused ∨
      Reading reader value (onGatt b (Wch.client sdk) (.readRsp v 0 false) u) .rest := by
  have hstate : u.a.state = .readMap := by rw [ha]; exact h.state
  have hempty : u.a.mapBuf = [] := by rw [ha]; exact h.empty rfl
  have hlong : u.a.mapLongStarted = false := by rw [ha]; exact h.longer
  have hgood : ¬(v.length > 512 - ([] : List UInt8).length ∨
      (0 : UInt16).toNat ≠ ([] : List UInt8).length) := by
    rintro (hbig | hne)
    · exact absurd hroom (by simpa using hbig)
    · exact hne rfl
  rw [onGatt_fragment (.inl hstate), onMap, extend_mapBuf, hempty, hogpMaxMapSize, if_neg hgood]
  generalize hx : extend (.readRsp v 0 false) u = x
  have hbuf : x.a.mapBuf = [] := by rw [← hx, extend_mapBuf]; exact hempty
  have hxgatt : x.gatt = { w.gatt with curOp := .none } := by rw [← hx, extend_gatt]; exact hgatt
  have hxlong : x.a.mapLongStarted = false := by rw [← hx, extend_mapLongStarted]; exact hlong
  dsimp only
  rw [if_neg (by decide), if_neg (by change ¬x.a.mapLongStarted = true; rw [hxlong]; decide), go]
  refine reading_ask hreads ?_ ?_ ?_ ?_ ?_ rfl ?_ rfl
  · change x.gatt.connHandle ≠ _
    rw [hxgatt]
    exact h.linked
  · change 23 ≤ x.gatt.negMtu.toNat
    rw [hxgatt]
    exact h.mtu
  · change x.a.mapBuf ++ v = value.take (x.a.mapBuf ++ v).length
    rw [hbuf]
    exact hv
  · change (x.a.mapBuf ++ v).length ≤ 512
    rw [hbuf]
    exact hroom
  · change 0 < (x.a.mapBuf ++ v).length
    rw [hbuf]
    exact hpos
  · change x.gatt.curOp = .none
    rw [hxgatt]

/-- A full fragment of the rest is kept, and all three are further on. -/
theorem fragment_rest (b : AdapterBuild) (sdk : BleSdk S) {v : List UInt8} {s : S}
    {u : DiscWorld (Wch S)} (h : Reading reader value w .rest)
    (hgatt : u.gatt = { w.gatt with
      sdk := s, readOffset := w.gatt.readOffset + UInt16.ofNat v.length })
    (ha : u.a = w.a) (hv : w.a.mapBuf ++ v = value.take (w.a.mapBuf.length + v.length))
    (hroom : w.a.mapBuf.length + v.length ≤ 512) (hs : reader s = w.a.mapBuf.length + v.length) :
    Reading reader value (onGatt b (Wch.client sdk) (.readRsp v w.gatt.readOffset false) u) .rest ∧
      (onGatt b (Wch.client sdk) (.readRsp v w.gatt.readOffset false) u).a.mapBuf = w.a.mapBuf ++ v := by
  have hstate : u.a.state = .readMapCont := by rw [ha]; exact h.state
  have hoffset := (h.offset rfl).1
  -- neither of the two checks on a fragment strikes
  have hgood : ¬(v.length > 512 - u.a.mapBuf.length ∨
      w.gatt.readOffset.toNat ≠ u.a.mapBuf.length) := by
    rw [ha]
    omega
  rw [onGatt_fragment (.inr hstate), onMap, extend_mapBuf, hogpMaxMapSize, if_neg hgood]
  generalize hx : extend (.readRsp v w.gatt.readOffset false) u = x
  have hbuf : x.a.mapBuf = w.a.mapBuf := by rw [← hx, extend_mapBuf, ha]
  have hxgatt : x.gatt = u.gatt := by rw [← hx, extend_gatt]
  have hxlong : x.a.mapLongStarted = true := by
    rw [← hx, extend_mapLongStarted, ha]
    exact h.longer
  dsimp only
  rw [if_neg (by decide), if_pos (by change x.a.mapLongStarted = true; exact hxlong)]
  refine ⟨?_, congrArg (· ++ v) hbuf⟩
  have hlen : (x.a.mapBuf ++ v).length = w.a.mapBuf.length + v.length := by
    rw [hbuf, List.length_append]
  exact {
    linked := by
      change x.gatt.connHandle ≠ _
      rw [hxgatt, hgatt]
      exact h.linked
    mtu := by
      change 23 ≤ x.gatt.negMtu.toNat
      rw [hxgatt, hgatt]
      exact h.mtu
    assembled := by
      change x.a.mapBuf ++ v = value.take (x.a.mapBuf ++ v).length
      rw [hlen, hbuf]
      exact hv
    most := by
      change (x.a.mapBuf ++ v).length ≤ 512
      omega
    state := by
      change x.a.state = _
      rw [← hx, extend_state]
      exact hstate
    again := by
      change x.a.retry = _
      rw [← hx, extend_retry, ha]
      exact h.again
    owner := by
      change x.gatt.curOp = _
      rw [hxgatt, hgatt]
      exact h.owner
    longer := hxlong
    empty := nofun
    more := by
      intro _
      change 0 < (x.a.mapBuf ++ v).length
      have := h.more nofun
      omega
    offset := by
      intro _
      change x.gatt.readOffset.toNat = (x.a.mapBuf ++ v).length ∧
        reader x.gatt.sdk = (x.a.mapBuf ++ v).length
      rw [hxgatt, hgatt, hlen]
      refine ⟨?_, hs⟩
      rw [UInt16.toNat_add, UInt16.toNat_ofNat', hoffset]
      omega
    pending := by
      intro _
      change x.gatt.pendingStart = x.a.mapValueHandle ∧ x.gatt.pendingEnd = x.a.mapValueHandle
      rw [hxgatt, hgatt, ← hx, extend_mapValueHandle, ha]
      exact h.pending rfl }

/-! ## Messages -/

/-- A message on the link passes the first check while a procedure is pending. -/
theorem heeded (hlinked : w.gatt.connHandle ≠ gapConnHandleInit) (howner : w.gatt.curOp ≠ .failed) :
    ¬(w.gatt.connHandle ≠ w.gatt.connHandle ∨ w.gatt.connHandle = gapConnHandleInit ∨
      w.gatt.curOp = .failed) := by
  rintro (hne | hinit | hop)
  · exact hne rfl
  · exact hlinked hinit
  · exact howner hop

/-- A response that passes all checks. -/
theorem onResponse_answer {e : GattMsgEvent} (hmtu : e.msg ≠ .mtuUpdated) (hflow : e.msg ≠ .flowCtrlViolated)
    (howner : w.gatt.curOp ≠ .none) (htakes : w.gatt.curOp.takes e = true)
    (hsize : oversized w.gatt e.msg = false) :
    onResponse b sdk e w = onAnswer b sdk e.msg (e.status == bleProcedureComplete) w := by
  rw [onResponse, if_neg hmtu, if_neg hflow, if_neg howner, if_neg (by rw [htakes]; decide),
    if_neg (by rw [hsize]; decide)]

/-- The response to the read becomes a fragment at offset zero. -/
theorem onMsg_first (hlinked : w.gatt.connHandle ≠ gapConnHandleInit) (howner : w.gatt.curOp = .readValue)
    {v : List UInt8} (hv : v.length ≤ w.carried) :
    onMsg b sdk (w.message (.readRsp (some v)) sdkSuccess) w =
      onGatt b (Wch.client sdk) (.readRsp v 0 (decide (v.length < w.carried)))
        (w.client fun g => { g with curOp := .none }) := by
  have hsize : oversized w.gatt (.readRsp (some v)) = false := by
    simp only [oversized, Option.all_some, decide_eq_false_iff_not, not_lt]
    exact hv
  unfold onMsg message
  rw [if_neg (heeded hlinked (by rw [howner]; decide))]
  dsimp only
  rw [if_neg (by decide), onResponse_answer (by nofun) (by nofun) (by rw [howner]; decide) (by rw [howner]; rfl) hsize,
    onAnswer, howner]
  rfl

/-- A fragment of the rest has the offset the client has counted. -/
theorem onMsg_blob (hlinked : w.gatt.connHandle ≠ gapConnHandleInit) (howner : w.gatt.curOp = .readLong)
    {v : List UInt8} (hv : v.length ≤ w.carried) (hfits : v.length ≤ 65535 - w.gatt.readOffset.toNat)
    (complete : Bool) :
    onMsg b sdk (w.message (.readBlobRsp (some v)) (if complete then bleProcedureComplete else sdkSuccess)) w =
      onGatt b (Wch.client sdk) (.readRsp v w.gatt.readOffset complete) (w.client fun g => { g with
        readOffset := g.readOffset + UInt16.ofNat v.length
        curOp := if complete then .none else g.curOp }) := by
  have hsize : oversized w.gatt (.readBlobRsp (some v)) = false := by
    simp only [oversized, Option.all_some, Bool.or_eq_false_iff, decide_eq_false_iff_not, not_lt]
    exact ⟨hv, hfits⟩
  unfold onMsg message
  rw [if_neg (heeded hlinked (by rw [howner]; decide))]
  dsimp only
  cases complete with
  | false =>
    rw [if_neg (by decide), onResponse_answer (by nofun) (by nofun) (by rw [howner]; decide) (by rw [howner]; rfl) hsize,
      onAnswer, howner]
    rfl
  | true =>
    rw [if_neg (by decide), onResponse_answer (by nofun) (by nofun) (by rw [howner]; decide) (by rw [howner]; rfl) hsize,
      onAnswer, howner]
    rfl

/-- An invalid offset is the end of a value that fills its last response. -/
theorem onMsg_beyond (hlinked : w.gatt.connHandle ≠ gapConnHandleInit) (howner : w.gatt.curOp = .readLong)
    (hoffset : w.gatt.readOffset ≠ 0) {handle : UInt16}
    (hpending : w.gatt.pendingStart = handle ∧ w.gatt.pendingEnd = handle) :
    onMsg b sdk (w.message (.errorRsp 0x0c handle attInvalidOffset) sdkSuccess) w =
      onGatt b (Wch.client sdk) (.readRsp [] w.gatt.readOffset true)
        (w.client fun g => { g with curOp := .none }) := by
  have hrelated : unrelated w.gatt 0x0c handle = false := by
    unfold unrelated
    rw [howner, hpending.1, hpending.2]
    simp [Gop.request]
  unfold onMsg message
  rw [if_neg (heeded hlinked (by rw [howner]; decide))]
  dsimp only
  rw [if_neg (by rw [hrelated]; decide), if_neg (by decide),
    onResponse_answer (by nofun) (by nofun) (by rw [howner]; decide) (by rw [howner]; rfl) rfl, onAnswer, howner]
  dsimp only
  rw [onLong, if_pos ⟨rfl, hoffset⟩]
  rfl

theorem onGatt_bearerFailed (hlive : Live w) (status : UInt8) :
    (onGatt b (Wch.client sdk) (.bearerFailed status) w).a.state = .failed := by
  have hs : ¬(w.a.state = .idle ∨ w.a.state = .failed) := by
    rcases hlive with hs | hs <;> rw [hs] <;> decide
  rw [onGatt, if_neg hs]
  dsimp only
  split_ifs
  · exact failInit_state _ _ _
  · exact failInit_state _ _ _

/-- A fragment beyond the last offset resets the link. -/
theorem onMsg_oversized (hlive : Live w) (hlinked : w.gatt.connHandle ≠ gapConnHandleInit)
    (howner : w.gatt.curOp = .readLong) {v : List UInt8}
    (hbig : 65535 - w.gatt.readOffset.toNat < v.length) (complete : Bool) :
    (onMsg b sdk (w.message (.readBlobRsp (some v)) (if complete then bleProcedureComplete else sdkSuccess))
      w).a.state = .failed := by
  have hsize : oversized w.gatt (.readBlobRsp (some v)) = true := by
    simp only [oversized, Option.all_some, Bool.or_eq_true, decide_eq_true_eq]
    exact .inr hbig
  have hfailed : (bearerFailed b sdk attInvalidValueSize w).a.state = .failed := by
    unfold bearerFailed emit
    exact onGatt_bearerFailed (live_client hlive _) _
  unfold onMsg message
  rw [if_neg (heeded hlinked (by rw [howner]; decide))]
  dsimp only
  cases complete with
  | false =>
    rw [if_neg (by decide), onResponse, if_neg (by nofun), if_neg (by nofun), if_neg (by rw [howner]; decide),
      if_neg (by rw [howner]; exact fun h => Bool.noConfusion h), if_pos hsize]
    exact hfailed
  | true =>
    rw [if_neg (by decide), onResponse, if_neg (by nofun), if_neg (by nofun), if_neg (by rw [howner]; decide),
      if_neg (by rw [howner]; exact fun h => Bool.noConfusion h), if_pos hsize]
    exact hfailed

/-! ## Steps -/

/-- The phase is read off the owner of the client. -/
theorem Reading.phase_asked {p : Phase} (h : Reading reader value w p) (howner : w.gatt.curOp = .readValue) :
    p = .asked := by
  have hp := h.owner
  rw [howner] at hp
  cases p with
  | asked => rfl
  | refused => cases hp
  | rest => cases hp

theorem Reading.phase_rest {p : Phase} (h : Reading reader value w p) (howner : w.gatt.curOp = .readLong) :
    p = .rest := by
  have hp := h.owner
  rw [howner] at hp
  cases p with
  | asked => cases hp
  | refused => cases hp
  | rest => rfl

theorem Reading.live {p : Phase} (h : Reading reader value w p) : Live w := by
  have hs := h.state
  unfold Live
  split_ifs at hs
  · exact .inl hs
  · exact .inr hs

theorem Reading.length_le {p : Phase} (h : Reading reader value w p) :
    w.a.mapBuf.length ≤ value.length := by
  have hlen := congrArg List.length h.assembled
  rw [List.length_take] at hlen
  omega

/-- A fragment keeps the invariant with a longer map, or ends the read. -/
theorem reading_delivery (hreads : LongReads sdk reader) {p : Phase} (h : Reading reader value w p)
    (hstep : Delivery b sdk reader value w w') :
    (∃ q, Reading reader value w' q ∧ w.a.mapBuf.length < w'.a.mapBuf.length) ∨ Ended b sdk value w' := by
  have hcarried : 22 ≤ w.carried := by
    have := h.mtu
    unfold carried
    omega
  cases hstep with
  | first howner =>
    obtain rfl := h.phase_asked howner
    have hempty : w.a.mapBuf = [] := h.empty rfl
    have hlen : (value.take w.carried).length = min w.carried value.length := List.length_take
    rw [onMsg_first h.linked howner (by omega)]
    -- the first response does not fit into the map buffer
    by_cases hbig : 512 < (value.take w.carried).length
    · refine .inr (.inr ⟨by omega, fragment_refused (live_client h.live _) (.inl ?_)⟩)
      change 512 - w.a.mapBuf.length < _
      omega
    -- a response shorter than the MTU is the whole value
    by_cases hall : value.length < w.carried
    · have htake : value.take w.carried = value := List.take_of_length_le hall.le
      rw [htake, decide_eq_true hall]
      obtain ⟨u, hu, hbuf, heq⟩ := fragment_last b sdk (w := w.client fun g => { g with curOp := .none })
        (v := value) (o := 0) h.live (by change _ ≤ 512 - w.a.mapBuf.length; rw [hempty, List.length_nil]; rw [htake] at hbig; omega)
        (by change _ = w.a.mapBuf.length; rw [hempty]; rfl)
      refine .inr (.inl ⟨by rw [htake] at hbig; omega, u, hu, ?_, heq⟩)
      change u.a.mapBuf = w.a.mapBuf ++ value at hbuf
      rw [hbuf, hempty, List.nil_append]
    · have hfull : (value.take w.carried).length = w.carried := by omega
      rw [decide_eq_false (by omega)]
      left
      have hnext := fragment_first b (v := value.take w.carried)
        (u := w.client fun g => { g with curOp := .none }) hreads h rfl rfl
        (by rw [hfull]) (by omega) (by omega)
      rw [hempty, List.length_nil]
      rcases hnext with hnext | hnext
      · exact ⟨.refused, hnext, hnext.more nofun⟩
      · exact ⟨.rest, hnext, hnext.more nofun⟩
  | blob s howner hmore hs =>
    obtain rfl := h.phase_rest howner
    obtain ⟨hoffset, hreader⟩ := h.offset rfl
    have hlen : ((value.drop (reader w.gatt.sdk)).take w.carried).length = w.carried := by
      rw [List.length_take, List.length_drop]
      omega
    have hmost := h.most
    have hmsg : ∀ v, (w.message (.readBlobRsp (some v)) sdkSuccess) =
        ((w.client fun g => { g with sdk := s }).message (.readBlobRsp (some v))
          (if false then bleProcedureComplete else sdkSuccess)) := fun _ => rfl
    rw [hmsg]
    generalize hv : (value.drop (reader w.gatt.sdk)).take w.carried = v at hlen
    by_cases hfits : v.length ≤ 65535 - w.gatt.readOffset.toNat
    · rw [onMsg_blob (w := w.client fun g => { g with sdk := s }) h.linked howner hlen.le hfits]
      by_cases hbig : 512 - w.a.mapBuf.length < v.length
      · exact .inr (.inr ⟨by omega, fragment_refused (live_client (live_client h.live _) _) (.inl hbig)⟩)
      · -- the fragment continues the bytes that are there
        have hjoin : w.a.mapBuf ++ v = value.take (w.a.mapBuf.length + v.length) := by
          rw [hlen, ← hv, hreader, List.take_add, ← h.assembled]
        obtain ⟨hnext, hbuf⟩ := fragment_rest b sdk (s := s)
          (u := (w.client fun g => { g with sdk := s }).client fun g => { g with
            readOffset := g.readOffset + UInt16.ofNat v.length
            curOp := if false then .none else g.curOp }) h rfl rfl hjoin (by omega) (by omega)
        refine .inl ⟨.rest, hnext, ?_⟩
        change _ < (onGatt b (Wch.client sdk) (.readRsp v w.gatt.readOffset false) _).a.mapBuf.length
        rw [hbuf, List.length_append]
        omega
    · exact .inr (.inr ⟨by omega, onMsg_oversized (w := w.client fun g => { g with sdk := s })
        h.live h.linked howner (by change 65535 - w.gatt.readOffset.toNat < _; omega) false⟩)
  | last howner hle hlast =>
    obtain rfl := h.phase_rest howner
    obtain ⟨hoffset, hreader⟩ := h.offset rfl
    have hmost := h.most
    have hlen : (value.drop (reader w.gatt.sdk)).length = value.length - reader w.gatt.sdk :=
      List.length_drop
    have hjoin : w.a.mapBuf ++ value.drop (reader w.gatt.sdk) = value := by
      rw [hreader]
      conv_lhs => rw [h.assembled]
      rw [List.length_take, Nat.min_eq_left h.length_le, List.take_append_drop]
    have hmsg : ∀ v, (w.message (.readBlobRsp (some v)) bleProcedureComplete) =
        (w.message (.readBlobRsp (some v)) (if true then bleProcedureComplete else sdkSuccess)) :=
      fun _ => rfl
    rw [hmsg]
    by_cases hfits : (value.drop (reader w.gatt.sdk)).length ≤ 65535 - w.gatt.readOffset.toNat
    · rw [onMsg_blob h.linked howner (by omega) hfits]
      by_cases hbig : 512 - w.a.mapBuf.length < (value.drop (reader w.gatt.sdk)).length
      · exact .inr (.inr ⟨by omega, fragment_refused (live_client h.live _) (.inl hbig)⟩)
      · obtain ⟨u, hu, hbuf, heq⟩ := fragment_last b sdk
          (w := w.client fun g => { g with
            readOffset := g.readOffset + UInt16.ofNat (value.drop (reader w.gatt.sdk)).length
            curOp := if true then .none else g.curOp })
          (v := value.drop (reader w.gatt.sdk)) (o := w.gatt.readOffset) h.live (not_lt.mp hbig) hoffset
        exact .inr (.inl ⟨by omega, u, hu, hbuf.trans hjoin, heq⟩)
    · exact .inr (.inr ⟨by omega, onMsg_oversized h.live h.linked howner (by omega) true⟩)
  | beyond howner heq =>
    obtain rfl := h.phase_rest howner
    obtain ⟨hoffset, hreader⟩ := h.offset rfl
    have hmore := h.more nofun
    have hne : w.gatt.readOffset ≠ 0 := by
      intro hzero
      rw [hzero] at hoffset
      exact absurd hoffset.symm hmore.ne'
    rw [onMsg_beyond h.linked howner hne (h.pending rfl)]
    obtain ⟨u, hu, hbuf, hend⟩ := fragment_last b sdk
      (w := w.client fun g => { g with curOp := .none }) (v := []) (o := w.gatt.readOffset)
      h.live (Nat.zero_le _) hoffset
    have hmost := h.most
    refine .inr (.inl ⟨by omega, u, hu, ?_, hend⟩)
    change u.a.mapBuf = w.a.mapBuf ++ [] at hbuf
    rw [hbuf, List.append_nil, h.assembled]
    exact List.take_of_length_le (by omega)

/-- What the invariant does not mention may change. -/
theorem Reading.other {p : Phase} {s : S} (h : Reading reader value w p)
    (hgatt : w'.gatt = { w.gatt with sdk := s }) (hs : reader s = reader w.gatt.sdk)
    (hbuf : w'.a.mapBuf = w.a.mapBuf) (hstate : w'.a.state = w.a.state) (hretry : w'.a.retry = w.a.retry)
    (hlong : w'.a.mapLongStarted = w.a.mapLongStarted)
    (hhandle : w'.a.mapValueHandle = w.a.mapValueHandle) : Reading reader value w' p where
  linked := by rw [hgatt]; exact h.linked
  mtu := by rw [hgatt]; exact h.mtu
  assembled := by rw [hbuf]; exact h.assembled
  most := by rw [hbuf]; exact h.most
  state := by rw [hstate]; exact h.state
  again := by rw [hretry]; exact h.again
  owner := by rw [hgatt]; exact h.owner
  longer := by rw [hlong]; exact h.longer
  empty := by rw [hbuf]; exact h.empty
  more := by rw [hbuf]; exact h.more
  offset := by rw [hgatt, hbuf]; intro hp; exact ⟨(h.offset hp).1, hs.trans (h.offset hp).2⟩
  pending := by rw [hgatt, hhandle]; exact h.pending

/-- A tick within the deadlines does no more than to ask again. -/
theorem tick_live (hlive : Live w) {nowMs : UInt32} (hinit : passed nowMs w.a.initDeadlineMs = false)
    (hdeadline : passed nowMs w.a.deadlineMs = false) :
    tick b (Wch.client sdk) nowMs w =
      if w.a.retry then beginNext b (Wch.client sdk) (w.act fun a => { a with nowMs })
      else w.act fun a => { a with nowMs } := by
  have hdead : ¬(w.a.state = .idle ∨ w.a.state = .failed) := by
    rcases hlive with hs | hs <;> rw [hs] <;> decide
  have hwait : ¬(w.a.unicom.selected = true ∧ w.a.state = .unicomWait) := by
    rintro ⟨-, hw⟩
    rcases hlive with hs | hs <;> rw [hs] at hw <;> cases hw
  have hdone : w.a.state ≠ .done := by
    rcases hlive with hs | hs <;> rw [hs] <;> decide
  unfold tick
  change (if w.a.state = .idle ∨ w.a.state = .failed then _
    else if w.a.unicom.selected = true ∧ w.a.state = .unicomWait then _
    else if w.a.state = .done then _
    else if passed nowMs w.a.initDeadlineMs = true then _
    else if passed nowMs w.a.deadlineMs = true then _
    else if w.a.retry = true then _ else _) = _
  rw [if_neg hdead, if_neg hwait, if_neg hdone, if_neg (by rw [hinit]; decide),
    if_neg (by rw [hdeadline]; decide)]

theorem reading_interlude (hreads : LongReads sdk reader) {p : Phase} (h : Reading reader value w p)
    (hstep : Interlude b sdk reader w w') : ∃ q, Reading reader value w' q := by
  cases hstep with
  | tick nowMs hinit hdeadline =>
    have hnow : Reading reader value (w.act fun a => { a with nowMs }) p :=
      h.other (s := w.gatt.sdk) rfl rfl rfl rfl rfl rfl rfl
    rw [tick_live h.live hinit hdeadline]
    split_ifs with hretry
    · -- only a refused submission is retried
      obtain rfl : p = .refused := by
        have hagain := h.again
        rw [hretry] at hagain
        exact of_decide_eq_true hagain.symm
      rcases reading_ask hreads hnow.linked hnow.mtu hnow.assembled hnow.most (hnow.more nofun) hnow.state
        hnow.owner hnow.longer with hnext | hnext
      · exact ⟨_, hnext⟩
      · exact ⟨_, hnext⟩
    · exact ⟨p, hnow⟩
  | quiet => exact ⟨p, h.other (s := w.gatt.sdk) rfl rfl rfl rfl rfl rfl rfl⟩
  | told => exact ⟨p, h.other (s := w.gatt.sdk) rfl rfl rfl rfl rfl rfl rfl⟩
  | library s hs => exact ⟨p, h.other (s := s) rfl hs rfl rfl rfl rfl rfl⟩

/-- The report characteristics are looked for, or that fails. -/
theorem beginNext_reports {w : DiscWorld (Wch S)} (hstate : w.a.state = .enumReportChars) :
    (beginNext b (Wch.client sdk) w).a.state = .failed ∨
      (beginNext b (Wch.client sdk) w).a.state = .enumReportChars := by
  have hop : w.a.beginOp b = (w.a, .ask (.readChars16 w.a.svcStart w.a.svcEnd 0x2a4d)) := by
    rw [Rc003.beginOp, hstate]
  rw [beginNext, hop]
  dsimp only
  cases ((Wch.client sdk).submit (.readChars16 w.a.svcStart w.a.svcEnd 0x2a4d) w.gatt).1 with
  | ok =>
    right
    dsimp only
    rw [dif_neg (by rw [hstate]; decide), accepted, if_neg (by change w.a.state ≠ _; rw [hstate]; decide)]
    exact hstate
  | retry => exact .inr hstate
  | rejected =>
    left
    dsimp only
    generalize hx : (w.submit (Wch.client sdk) w.a (.readChars16 w.a.svcStart w.a.svcEnd 0x2a4d)).act
      (fun a => { a with retry := false }) = x
    have hxstate : x.a.state = .enumReportChars := by rw [← hx]; exact hstate
    rw [handleOpFailure]
    split_ifs
    · exact failInit_state _ _ _
    · have hfail : failureOp x.a = (x.a, .bad "failed") := by rw [failureOp, hxstate]
      rw [hfail]
      exact failInit_state _ _ _

/-- When the map is complete, discovery goes on with the report characteristics, or it ends. -/
theorem mapComplete_not_live (hlive : Live w) : ¬Live (mapComplete b (Wch.client sdk) w) := by
  have hstop : ∀ x : DiscWorld (Wch S), x.a.state = .failed ∨ x.a.state = .enumReportChars → ¬Live x := by
    rintro x hx (hs | hs)
    all_goals
      rw [hs] at hx
      rcases hx with hx | hx <;> cases hx
  unfold mapComplete
  cases htake : w.a.takeMap with
  | none => exact hstop _ (.inl (handleOpFailure_live hlive))
  | some a =>
    dsimp only
    split_ifs
    · exact hstop _ (.inl (failInit_state _ _ _))
    · exact hstop _ (beginNext_reports rfl)

theorem Ended.not_live (h : Ended b sdk value w) : ¬Live w := by
  rcases h with ⟨-, v, hlive, -, rfl⟩ | ⟨-, hfailed⟩
  · exact mapComplete_not_live hlive
  · rintro (hs | hs)
    all_goals
      rw [hs] at hfailed
      cases hfailed

/-! ## Runs -/

theorem reading_step (hreads : LongReads sdk reader) {p : Phase} (h : Reading reader value w p)
    (hstep : ReadStep b sdk reader value w w') : (∃ q, Reading reader value w' q) ∨ Ended b sdk value w' := by
  rcases hstep.2 with hd | hi
  · rcases reading_delivery hreads h hd with ⟨q, hq, -⟩ | hend
    · exact .inl ⟨q, hq⟩
    · exact .inr hend
  · exact .inl (reading_interlude hreads h hi)

theorem reading_run (hreads : LongReads sdk reader) {p : Phase} (h : Reading reader value w p)
    (hrun : Relation.ReflTransGen (ReadStep b sdk reader value) w w') :
    (∃ q, Reading reader value w' q) ∨ Ended b sdk value w' := by
  induction hrun with
  | refl => exact .inl ⟨p, h⟩
  | tail _ hstep ih =>
    rcases ih with ⟨q, hq⟩ | hend
    · exact reading_step hreads hq hstep
    · exact absurd hstep.1 hend.not_live

/-- The read that the client accepts begins the invariant. -/
theorem reading_asked (hlinked : w.gatt.connHandle ≠ gapConnHandleInit) (hmtu : 23 ≤ w.gatt.negMtu.toNat)
    (hstate : w.a.state = .readMap) (hfree : w.gatt.curOp = .none)
    (haccepted : (sdk.call (.readValue w.a.mapValueHandle) w.gatt.sdk).1 = sdkSuccess) :
    Reading reader value (beginNext b (Wch.client sdk) w) .asked := by
  have hop : w.a.beginOp b =
      ({ w.a with mapBuf := [], mapLongStarted := false }, .ask (.readValue w.a.mapValueHandle)) := by
    generalize w.a = a at hstate
    cases a
    cases hstate
    rfl
  have hsubmit : (Wch.client sdk).submit (.readValue w.a.mapValueHandle) w.gatt =
      (.ok, { (w.gatt.pending w.a.mapValueHandle w.a.mapValueHandle) with
        sdk := (sdk.call (.readValue w.a.mapValueHandle) w.gatt.sdk).2
        generation := w.gatt.generation + 1
        curOp := .readValue }) := by
    change Wch.submit sdk (.readValue w.a.mapValueHandle) w.gatt = _
    unfold Wch.submit
    rw [if_neg (by rw [hfree]; decide), if_neg (not_not.mpr hfree), Wch.submitFree, Wch.start, haccepted]
    rfl
  have hret : ((Wch.client sdk).submit (.readValue w.a.mapValueHandle) w.gatt).1 = .ok := by rw [hsubmit]
  have hworld : ∀ a r, w.submit (Wch.client sdk) a r =
      { a, gatt := ((Wch.client sdk).submit r w.gatt).2, log := .asked r :: w.log } := fun _ _ => rfl
  rw [beginNext, hop]
  dsimp only
  rw [hret, hworld, hsubmit]
  dsimp only
  rw [dif_neg (by rw [hstate]; decide), accepted, if_neg (by change w.a.state ≠ _; rw [hstate]; decide)]
  exact {
    linked := hlinked
    mtu := hmtu
    assembled := rfl
    most := Nat.zero_le _
    state := hstate
    again := rfl
    owner := rfl
    longer := rfl
    empty := fun _ => rfl
    more := fun hp => absurd rfl hp
    offset := fun h => by cases h
    pending := fun h => by cases h }

/-- Unless a submission waits, the library has a next fragment. -/
theorem exists_delivery {p : Phase} (h : Reading reader value w p) (hretry : w.a.retry = false)
    (hfree : ∀ n, ∃ s, reader s = n) : ∃ w', Delivery b sdk reader value w w' := by
  cases p with
  | asked => exact ⟨_, .first w h.owner⟩
  | refused =>
    have hagain := h.again
    rw [hretry] at hagain
    cases hagain
  | rest =>
    obtain ⟨-, hreader⟩ := h.offset rfl
    by_cases hmore : reader w.gatt.sdk + w.carried ≤ value.length
    · obtain ⟨s, hs⟩ := hfree (reader w.gatt.sdk + w.carried)
      exact ⟨_, .blob w s h.owner hmore hs⟩
    · exact ⟨_, .last w h.owner (by rw [hreader]; exact h.length_le) (not_le.mp hmore)⟩

end DiscWorld

open DiscWorld in
/-- In every run of a read that the library has accepted, what is assembled is the beginning of the value,
and the read ends with the whole of it if it has at most 512 bytes, and in failure if it has more.  Every
fragment brings the end nearer, and one that is out of place fails discovery. -/
theorem report_map_read {S : Type} (b : AdapterBuild) (sdk : BleSdk S) (reader : S → Nat)
    (hreads : LongReads sdk reader) (hreader : ∀ n, ∃ s, reader s = n) (value : List UInt8)
    {w w' : DiscWorld (Wch S)} (hlinked : w.gatt.connHandle ≠ gapConnHandleInit)
    (hmtu : 23 ≤ w.gatt.negMtu.toNat) (hstate : w.a.state = .readMap) (hfree : w.gatt.curOp = .none)
    (haccepted : (sdk.call (.readValue w.a.mapValueHandle) w.gatt.sdk).1 = sdkSuccess)
    (hrun : Relation.ReflTransGen (ReadStep b sdk reader value) (beginNext b (Wch.client sdk) w) w') :
    (Live w' ∧ w'.a.mapBuf = value.take w'.a.mapBuf.length ∧ w'.a.mapBuf.length ≤ 512 ∧
        (w'.a.retry = false → ∃ w'', Delivery b sdk reader value w' w'') ∧
        (∀ w'', Delivery b sdk reader value w' w'' →
          Live w'' ∧ w'.a.mapBuf.length < w''.a.mapBuf.length ∨ Ended b sdk value w'') ∧
        ∀ v offset complete, offset.toNat ≠ w'.a.mapBuf.length →
          (onGatt b (Wch.client sdk) (.readRsp v offset complete) w').a.state = .failed) ∨
      Ended b sdk value w' := by
  have hasked : Reading reader value (beginNext b (Wch.client sdk) w) .asked :=
    reading_asked hlinked hmtu hstate hfree haccepted
  rcases reading_run hreads hasked hrun with ⟨q, h⟩ | hend
  · refine .inl ⟨h.live, h.assembled, h.most, fun hretry => exists_delivery h hretry hreader, ?_, ?_⟩
    · intro w'' hd
      rcases reading_delivery hreads h hd with ⟨q', hq', hlonger⟩ | hend
      · exact .inl ⟨hq'.live, hlonger⟩
      · exact .inr hend
    · intro v offset complete hoffset
      exact fragment_refused h.live (.inr hoffset)
  · exact .inr hend

/-- A library that accepts everything and knows where a long read is. -/
def eagerSdk : BleSdk Nat where
  call c s := match c with
    | .readLong _ offset => (sdkSuccess, offset.toNat)
    | _ => (sdkSuccess, s)
  alloc _ s := (true, s)

theorem eagerSdk_longReads : DiscWorld.LongReads eagerSdk id where
  begins _ _ _ _ := rfl
  waits _ _ _ := by simp [eagerSdk, rejected]

/-- An adapter that is about to read the map, on a link with the least MTU. -/
def mapBench : DiscWorld (Wch Nat) where
  a := { state := .readMap, mapValueHandle := 42, fits := Nat.zero_le _ }
  gatt := { connHandle := 1, curOp := .none, sdk := 0 }
  log := []

/-- The read of the map of an RC003 is accepted. -/
def mapStarted : DiscWorld (Wch Nat) := DiscWorld.beginNext ⟨23, false⟩ (Wch.client eagerSdk) mapBench

/-- The first response. -/
def mapFirst : DiscWorld (Wch Nat) :=
  DiscWorld.onMsg ⟨23, false⟩ eagerSdk
    (mapStarted.message (.readRsp (some (rc003Map.take mapStarted.carried))) sdkSuccess) mapStarted

/-- A full fragment, with the library at `next` then. -/
def DiscWorld.fragment (next : Nat) (w : DiscWorld (Wch Nat)) : DiscWorld (Wch Nat) :=
  DiscWorld.onMsg ⟨23, false⟩ eagerSdk
    (w.message (.readBlobRsp (some ((rc003Map.drop w.gatt.sdk).take w.carried))) sdkSuccess)
    (w.client fun g => { g with sdk := next })

/-- Two full fragments behind the first response. -/
def mapFragments : DiscWorld (Wch Nat) := (mapFirst.fragment 44).fragment 66

/-- The rest of the map is shorter than a fragment. -/
def mapRead : DiscWorld (Wch Nat) :=
  DiscWorld.onMsg ⟨23, false⟩ eagerSdk
    (mapFragments.message (.readBlobRsp (some (rc003Map.drop mapFragments.gatt.sdk))) bleProcedureComplete)
    mapFragments

/-- The adapter waits for a fragment at `offset`. -/
def DiscWorld.waitsAt (offset : Nat) (w : DiscWorld (Wch Nat)) : Bool :=
  w.a.state == .readMapCont && w.gatt.curOp == .readLong && w.gatt.sdk == offset && w.carried == 22

/-- Where the run stands after each fragment; it is evaluated once. -/
lemma mapRead_states :
    mapStarted.a.state = .readMap ∧ mapStarted.gatt.curOp = .readValue ∧ mapFirst.waitsAt 22 = true ∧
      (mapFirst.fragment 44).waitsAt 44 = true ∧ mapFragments.waitsAt 66 = true ∧
      mapRead.a.state = .enumReportChars := by
  decide +kernel

lemma DiscWorld.waitsAt_iff {offset : Nat} {w : DiscWorld (Wch Nat)} : w.waitsAt offset = true ↔
    w.a.state = .readMapCont ∧ w.gatt.curOp = .readLong ∧ w.gatt.sdk = offset ∧ w.carried = 22 := by
  simp [DiscWorld.waitsAt, and_assoc]

open DiscWorld in
lemma reads_mapRead :
    Relation.ReflTransGen (ReadStep ⟨23, false⟩ eagerSdk id rc003Map) mapStarted mapRead := by
  obtain ⟨hstate, hop, hone, htwo, hthree, -⟩ := mapRead_states
  obtain ⟨hstate₁, hop₁, hat₁, hlen₁⟩ := waitsAt_iff.mp hone
  obtain ⟨hstate₂, hop₂, hat₂, hlen₂⟩ := waitsAt_iff.mp htwo
  obtain ⟨hstate₃, hop₃, hat₃, hlen₃⟩ := waitsAt_iff.mp hthree
  have hlength : rc003Map.length = 86 := rfl
  have hfirst : ReadStep ⟨23, false⟩ eagerSdk id rc003Map mapStarted mapFirst :=
    ⟨.inl hstate, .inl (.first mapStarted hop)⟩
  have hsecond : ReadStep ⟨23, false⟩ eagerSdk id rc003Map mapFirst (mapFirst.fragment 44) :=
    ⟨.inr hstate₁, .inl (.blob mapFirst 44 hop₁ (by simp [hat₁, hlen₁, hlength]) (by simp [hat₁, hlen₁]))⟩
  have hthird : ReadStep ⟨23, false⟩ eagerSdk id rc003Map (mapFirst.fragment 44) mapFragments :=
    ⟨.inr hstate₂, .inl (.blob _ 66 hop₂ (by simp [hat₂, hlen₂, hlength]) (by simp [hat₂, hlen₂]))⟩
  have hlast : ReadStep ⟨23, false⟩ eagerSdk id rc003Map mapFragments mapRead :=
    ⟨.inr hstate₃, .inl (.last mapFragments hop₃ (by simp [hat₃, hlength]) (by simp [hat₃, hlen₃, hlength]))⟩
  exact (((Relation.ReflTransGen.single hfirst).tail hsecond).tail hthird).tail hlast

open DiscWorld in
/-- The map is read to its end. -/
theorem report_map_read_rc003 : Ended ⟨23, false⟩ eagerSdk rc003Map mapRead := by
  have hread := report_map_read ⟨23, false⟩ eagerSdk id eagerSdk_longReads (fun n => ⟨n, rfl⟩) rc003Map
    (by decide) (by decide) rfl rfl rfl reads_mapRead
  have hstate : mapRead.a.state = .enumReportChars := mapRead_states.2.2.2.2.2
  refine hread.resolve_left fun h => ?_
  rcases h.1 with h | h
  · rw [hstate] at h
    cases h
  · rw [hstate] at h
    cases h

end RemoteBridge
