import RemoteBridge.Client.KeyState
import RemoteBridge.Properties.ControlFrames
import RemoteBridge.Properties.ControlQueue
import RemoteBridge.Properties.DeviceState
import RemoteBridge.Properties.KeyConvergence

/-!
# The host holds the keys of the server

`KeyConvergence` is about what the server queues: while events are enabled, the last key state that was
queued or sent is the key state of the server.  This module follows the frames to the Python client.

The client is `BridgeClient` of `client.py`.  It is given the frames of a session in the order in which
they were sent, events as `_handle_event` takes them, and responses with the check of `validate_response`,
those to `GET_DEVICE` as `get_device` takes them.  A frame that it refuses ends the session (`hostKeys`).
So a key state counts only if its connection is the one that the client was told of, if the device has all
its keys, and if its number does not go back; and when the client is told of another connection, it forgets
what it held.

None of this goes wrong in a run that keeps the host (`HostKept`).  By causal order, a key frame finds that
the last notice which was sent before it has its connection and its number of keys.  The marks of key
states form a chain, so no number goes back, and one that comes again comes with the same pressed set.
What remains is that the client can read what it is sent besides, that it is told about the device before it
subscribes, and that a connection does not come back under an id that it knows.

When everything has been sent, the last key state was sent too, and no notice of another connection came
after it.  So the client holds the pressed set of the server (`reach_keysConverge`).

Not covered here: the checks on frames before a handler sees them, among them the session and the sequence
number, which are the subject of `FrameNumbers` and `FrameDelivery`; the correlation of responses with the
requests that wait for them; voice frames, which hold no key state; the replies to `KEYS_SNAPSHOT`, which
the client merges by number; and the logical keys.  A reply to `GET_DEVICE` counts when its frame comes; a
caller that gets to it later may overwrite a newer state.
-/

namespace RemoteBridge

open World

variable {E : Type} {b : Build} {k : Nat} {w w' : World E} {log : List Ev}

/-! ## The host -/

/-- The client, watched for its keys. -/
abbrev KeyHost : Type := Python.BridgeClient Python.KeyHold

/-- The client takes a frame; `none` when the frame breaks the session.  The answer to `HELLO` has opened
it. -/
def KeyHost.take (h : Header) (payload : List UInt8) (c : KeyHost) : Option KeyHost :=
  if h.kind = kindEvent then c.handleEvent Python.keyAside (Python.Header.ofC h) payload 0 0
  else if h.opcode = RequestOp.hello.code then some c
  else if !Python.keyAside.response h.opcode.toNat h.status.toNat payload then none
  else if h.opcode = RequestOp.getDevice.code ∧ h.status = Status.ok.code then
    some (c.getDevice Python.keyAside payload)
  else some c

/-- The client after the frames of a session. -/
def hostKeys : List Ev → Option KeyHost
  | [] => some { aside := {} }
  | .emitted (.media _) _ _ :: l => hostKeys l
  | .emitted _ h payload :: l => (hostKeys l).bind (KeyHost.take h payload)
  | _ :: l => hostKeys l

/-- The client holds the key state `it`. -/
structure KeyHost.Holds (c : KeyHost) (it : KeyItem) : Prop where
  connection : c.connectionId = it.connection.toNat
  seq : c.aside.keysSeq = it.inputSeq.toNat
  bits : c.aside.pressedBits = it.bits.toNat

/-- What the frame in this slot says passes the checks of the client. -/
def CtlSlot.readable (slot : CtlSlot) : Bool :=
  if slot.kind = kindEvent then
    if slot.opcode = EventOp.deviceState.code then Python.acceptsDevice slot.payload
    else Python.takesEvent slot.opcode.toNat slot.payload
  else slot.opcode == RequestOp.hello.code ||
    Python.validateResponse slot.opcode.toNat slot.status.toNat slot.payload

/-- What an event has to do with the host: nothing is left in the control queue when a session begins, what
is queued is readable, the client has been told about the device before it subscribes, and a connection
does not get the id of one that it was told about. -/
def Ev.keepsHost : Ev → List Ev → Bool
  | .opened _ s, _ => s.ctlQueued.isEmpty
  | .queued slot _, _ => slot.readable
  | .subscribed _, l => !(notices .any (sess l)).isEmpty
  | .connected id _, l => (notices .any (sess l)).all fun d => d.2.device.connectionId != id
  | _, _ => true

/-- Every event of the log keeps the host. -/
def hostKept : List Ev → Bool
  | [] => true
  | e :: l => e.keepsHost l && hostKept l

lemma hostKept_suffix {l : List Ev} (h : hostKept log = true) (hl : l <:+ log) : hostKept l = true := by
  induction log with
  | nil =>
    rw [List.suffix_nil.mp hl]
    rfl
  | cons e log ih =>
    rcases List.suffix_cons_iff.mp hl with rfl | hl
    · exact h
    · exact ih (Bool.and_eq_true_iff.mp h).2 hl

lemma keepsHost_of_suffix {e : Ev} {l : List Ev} (h : hostKept log = true) (hl : (e :: l) <:+ log) :
    e.keepsHost l = true := (Bool.and_eq_true_iff.mp (hostKept_suffix h hl)).1

/-! ## What the client does with a frame -/

namespace KeyHost

variable {c : KeyHost} {h : Header} {payload : List UInt8} {slot : CtlSlot} {s : Server}

lemma aside_abortVoice (reason : String) (c : KeyHost) :
    (c.abortVoice reason).aside = c.aside ∧ (c.abortVoice reason).connectionId = c.connectionId := by
  unfold Python.BridgeClient.abortVoice
  split <;> exact ⟨rfl, rfl⟩

/-- What the client knows after it was told that the device is in state `s`. -/
structure Told (s : Server) (c c' : KeyHost) : Prop where
  connection : c'.connectionId = s.device.connectionId.toNat
  count : c'.aside.keyCount = some (slotCount s.device.shownProfile)
  same : c.connectionId = s.device.connectionId.toNat → c'.aside.haveKeys = c.aside.haveKeys ∧
    c'.aside.keysSeq = c.aside.keysSeq ∧ c'.aside.pressedBits = c.aside.pressedBits
  moved : c.connectionId ≠ s.device.connectionId.toNat → c'.aside.haveKeys = false

lemma told_takeDevice {t : List (UInt8 × PyTlvValue)}
    (ht : Python.schemaParse Python.deviceFields s.deviceInfoTlv = .ok t) :
    Told s c (c.takeDevice Python.keyAside t) := by
  obtain ⟨hid, hcount⟩ := Python.intAt_deviceInfoTlv ht
  unfold Python.BridgeClient.takeDevice
  rw [hid]
  dsimp only
  by_cases hsame : s.device.connectionId.toNat = c.connectionId
  · have hmoved : (s.device.connectionId.toNat != c.connectionId) = false := by simp [hsame]
    rw [hmoved]
    exact ⟨rfl, congrArg some hcount, fun _ => ⟨rfl, rfl, rfl⟩, fun hne => absurd hsame.symm hne⟩
  · have hmoved : (s.device.connectionId.toNat != c.connectionId) = true := by simpa using hsame
    rw [hmoved]
    exact ⟨rfl, congrArg some hcount, fun heq => absurd heq.symm hsame, fun _ => rfl⟩

lemma not_response_event : ¬ kindResponse = kindEvent := by decide

/-- A readable response is not refused. -/
lemma response_of_readable (hr : slot.readable = true) (hkind : slot.kind = kindResponse)
    (hop : slot.opcode ≠ RequestOp.hello.code) :
    Python.validateResponse slot.opcode.toNat slot.status.toNat slot.payload = true := by
  unfold CtlSlot.readable at hr
  rw [hkind, if_neg not_response_event, beq_false_of_ne hop, Bool.false_or] at hr
  exact hr

/-- The answer to `GET_DEVICE` is checked like the event. -/
lemma validateResponse_getDevice (payload : List UInt8) :
    Python.validateResponse RequestOp.getDevice.code.toNat Status.ok.code.toNat payload =
      Python.acceptsDevice payload := rfl

/-- A notice is an event about the device or the answer to `GET_DEVICE`. -/
lemma notice_cases (hn : Notice.any.shows slot = true) :
    (slot.kind = kindEvent ∧ slot.opcode = EventOp.deviceState.code) ∨
      (slot.kind = kindResponse ∧ slot.opcode = RequestOp.getDevice.code ∧ slot.status = Status.ok.code) := by
  simpa [Notice.shows, CtlSlot.isDevice, CtlSlot.isReport, and_assoc] using hn

/-- A readable notice holds a valid state of the device. -/
lemma accepts_of_readable (hr : slot.readable = true) (hn : Notice.any.shows slot = true) :
    Python.acceptsDevice slot.payload = true := by
  rcases notice_cases hn with ⟨hkind, hopcode⟩ | ⟨hkind, hopcode, hstatus⟩
  · unfold CtlSlot.readable at hr
    rwa [if_pos hkind, if_pos hopcode] at hr
  · have hvalid := response_of_readable hr hkind (by rw [hopcode]; decide)
    rwa [hopcode, hstatus, validateResponse_getDevice] at hvalid

/-- A notice is taken. -/
lemma take_notice {l : List Ev} (hs : slot.SentAs l h payload) (hc : slot.Carries s)
    (hn : Notice.any.shows slot = true) (hr : slot.readable = true) :
    ∃ c', c.take h payload = some c' ∧ Told s c c' := by
  obtain ⟨t, hparse, hrange⟩ := Python.exists_of_acceptsDevice (accepts_of_readable hr hn)
  rw [hc.notice hn] at hparse
  refine ⟨c.takeDevice Python.keyAside t, ?_, told_takeDevice hparse⟩
  unfold take
  rw [hs.kind, hs.opcode, hs.status, hs.payload]
  rcases notice_cases hn with ⟨hevent, hdevice⟩ | ⟨hkind, hopcode, hstatus⟩
  · rw [if_pos hevent, hc.notice hn]
    have hkind : (Python.Header.ofC h).kind = 3 := congrArg UInt8.toNat (hs.kind.trans hevent)
    have hopcode : (Python.Header.ofC h).opcode = 0x0183 := congrArg UInt16.toNat (hs.opcode.trans hdevice)
    unfold Python.BridgeClient.handleEvent
    rw [hkind, hopcode, hparse]
    simp [Python.BridgeClient.eventKind, hrange]
  · have hvalid : Python.keyAside.response slot.opcode.toNat slot.status.toNat slot.payload = true :=
      response_of_readable hr hkind (by rw [hopcode]; decide)
    rw [hvalid, hkind, hopcode, hstatus, if_neg not_response_event, if_neg (by decide), Bool.not_true,
      if_neg Bool.false_ne_true, if_pos ⟨rfl, rfl⟩, hc.notice hn]
    unfold Python.BridgeClient.getDevice
    rw [hparse]

/-- Other control frames do not matter. -/
lemma take_other {l : List Ev} (hs : slot.SentAs l h payload) (hc : slot.Carries s)
    (hn : Notice.any.shows slot = false) (hr : slot.readable = true) : c.take h payload = some c := by
  have hcases : (slot.isDevice || slot.isReport) = false := hn
  rw [Bool.or_eq_false_iff] at hcases
  obtain ⟨hdevice, hreport⟩ := hcases
  unfold take
  rw [hs.kind, hs.opcode, hs.status, hs.payload]
  rcases hc.kind with hkind | hkind
  · have hno : ¬ (slot.opcode = RequestOp.getDevice.code ∧ slot.status = Status.ok.code) := by
      simpa [CtlSlot.isReport, hkind] using hreport
    rw [hkind, if_neg not_response_event, if_neg hno]
    by_cases hhello : slot.opcode = RequestOp.hello.code
    · rw [if_pos hhello]
    · have hvalid : Python.keyAside.response slot.opcode.toNat slot.status.toNat slot.payload = true :=
        response_of_readable hr hkind hhello
      rw [if_neg hhello, hvalid, Bool.not_true, if_neg Bool.false_ne_true]
  · have hother : slot.opcode ≠ EventOp.deviceState.code := by
      simpa [CtlSlot.isDevice, hkind] using hdevice
    have htakes : Python.takesEvent slot.opcode.toNat slot.payload = true := by
      unfold CtlSlot.readable at hr
      rwa [if_pos hkind, if_neg hother] at hr
    have hop : (Python.Header.ofC h).opcode = slot.opcode.toNat := congrArg UInt16.toNat hs.opcode
    have hk : (Python.Header.ofC h).kind = 3 := congrArg UInt8.toNat (hs.kind.trans hkind)
    have hmem := hc.event hkind
    rw [if_pos hkind]
    unfold Python.BridgeClient.handleEvent
    rw [hop, hk]
    have hevent : Python.keyAside.event slot.opcode.toNat slot.payload c.aside =
        if slot.opcode.toNat = 0x0280 then (Python.keys slot.payload).bind c.aside.feed
        else some c.aside := by
      unfold Python.keyAside
      dsimp only
      rw [htakes, if_pos rfl]
    dsimp only
    rw [hevent]
    simp only [controlEvents, List.mem_cons, List.not_mem_nil, or_false] at hmem
    rcases hmem with heq | heq | heq | heq
    · exact absurd heq hother
    all_goals
      rw [heq]
      rfl

end KeyHost

/-- A key state is read as it was written. -/
lemma keys_buf {it : KeyItem} (hreset : it.kind = .reset → it.bits = 0) :
    Python.keys it.buf = some ⟨it.inputSeq.toNat, it.capturedUs.toNat, it.bits.toNat, it.kind.code.toNat,
      it.reason.code.toNat⟩ := by
  have hlen : it.buf.length = 24 := by simp [KeyItem.buf, put32, put64]
  have hseq : leNat (put32 it.inputSeq) = it.inputSeq.toNat := leNat_leBytes_of_lt it.inputSeq.toNat_lt
  have hcaptured : leNat (put64 it.capturedUs) = it.capturedUs.toNat :=
    leNat_leBytes_of_lt it.capturedUs.toNat_lt
  have hbits : leNat (put64 it.bits) = it.bits.toNat := leNat_leBytes_of_lt it.bits.toNat_lt
  have hread : Python.structUnpack [4, 8, 8, 1, 1, 2] it.buf = [it.inputSeq.toNat, it.capturedUs.toNat,
      it.bits.toNat, it.kind.code.toNat, it.reason.code.toNat, 0] := by
    have htake : ∀ (n : Nat) (xs ys : List UInt8), xs.length = n → (xs ++ ys).take n = xs ∧
        (xs ++ ys).drop n = ys := fun n xs ys h => ⟨by simp [← h], by simp [← h]⟩
    obtain ⟨h4, r4⟩ := htake 4 (put32 it.inputSeq) (put64 it.capturedUs ++ (put64 it.bits ++
      [it.kind.code, it.reason.code, 0, 0])) (length_put32 _)
    obtain ⟨h8, r8⟩ := htake 8 (put64 it.capturedUs) (put64 it.bits ++
      [it.kind.code, it.reason.code, 0, 0]) (length_put64 _)
    obtain ⟨hb, rb⟩ := htake 8 (put64 it.bits) [it.kind.code, it.reason.code, 0, 0] (length_put64 _)
    unfold KeyItem.buf
    simp only [Python.structUnpack, List.append_assoc, h4, r4, h8, r8, hb, rb, hseq, hcaptured, hbits]
    simp [leNat]
  unfold Python.keys
  rw [if_neg (by rw [hlen]; decide), hread]
  have hkind : it.kind.code.toNat = 2 → it.bits = 0 := by
    intro hk
    refine hreset ?_
    cases h : it.kind <;> rw [h] at hk <;> first | rfl | cases hk
  have hok : ¬ ((0 : Nat) ≠ 0 ∨ it.kind.code.toNat > 2 ∨ it.reason.code.toNat > 3 ∨
      (it.kind.code.toNat = 2 ∧ it.bits.toNat ≠ 0)) := by
    rintro (h | h | h | ⟨hk, hne⟩)
    · exact h rfl
    · cases hkk : it.kind <;> rw [hkk] at h <;> revert h <;> decide
    · cases hr : it.reason <;> rw [hr] at h <;> revert h <;> decide
    · exact hne (by rw [hkind hk]; rfl)
  exact if_neg hok

/-- A key state that comes after the one that the client holds is held from then on. -/
lemma feed_key {k : Python.KeyHold} {it : KeyItem} {n : Nat} (hn : k.keyCount = some n)
    (hfits : Fits it.bits n) (hfollows : k.haveKeys = true →
      ∃ m : Mark, k.keysSeq = m.1 ∧ k.pressedBits = m.2.toNat ∧ Follows m it.mark) :
    ∃ k', k.feed ⟨it.inputSeq.toNat, it.capturedUs.toNat, it.bits.toNat, it.kind.code.toNat,
        it.reason.code.toNat⟩ = some k' ∧ k'.haveKeys = true ∧ k'.keysSeq = it.inputSeq.toNat ∧
      k'.pressedBits = it.bits.toNat ∧ k'.keyCount = k.keyCount := by
  have hslots : it.bits.toNat >>> n = 0 := by
    rw [Nat.shiftRight_eq_div_pow]
    exact Nat.div_eq_of_lt hfits
  have hknown : (k.keyCount.any fun n => it.bits.toNat >>> n != 0) = false := by
    rw [hn, Option.any_some, hslots]
    rfl
  unfold Python.KeyHold.feed
  dsimp only
  rw [hknown, if_neg Bool.false_ne_true]
  by_cases hhave : k.haveKeys = true
  · obtain ⟨m, hseq, hbits, hlt | heq⟩ := hfollows hhave
    · have hlater : k.keysSeq < it.inputSeq.toNat := hseq ▸ hlt
      rw [if_neg (fun h => absurd h.2 (Nat.not_lt.mpr hlater.le)),
        if_neg (fun h => absurd h.2.2 (Nat.not_le.mpr hlater))]
      exact ⟨_, rfl, rfl, rfl, rfl, rfl⟩
    · -- the number is the one that the client has, and so is the pressed set
      have hsame : k.keysSeq = it.inputSeq.toNat := hseq.trans (congrArg Prod.fst heq)
      have hpressed : k.pressedBits = it.bits.toNat :=
        hbits.trans (congrArg (fun m : Mark => m.2.toNat) heq)
      rw [if_neg (fun h => absurd h.2 (Nat.not_lt.mpr hsame.le))]
      split
      · exact ⟨k, rfl, hhave, hsame, hpressed, rfl⟩
      · exact ⟨_, rfl, rfl, rfl, rfl, rfl⟩
  · rw [if_neg (fun h => hhave h.1), if_neg (fun h => hhave h.1)]
    exact ⟨_, rfl, rfl, rfl, rfl, rfl⟩

/-- A key state is taken. -/
lemma KeyHost.take_key {c : KeyHost} {h : Header} {payload : List UInt8} {it : KeyItem} {n : Nat}
    (hs : it.SentAs h payload) (hf : it.connection ≠ 0 ∧ (it.kind = .reset → it.bits = 0))
    (hconn : c.connectionId = it.connection.toNat) (hn : c.aside.keyCount = some n)
    (hfits : Fits it.bits n)
    (hfollows : c.aside.haveKeys = true → ∃ x : KeyItem, c.Holds x ∧ Follows x.mark it.mark) :
    ∃ c', c.take h payload = some c' ∧ c'.aside.haveKeys = true ∧ c'.Holds it ∧
      c'.aside.keyCount = c.aside.keyCount := by
  obtain ⟨k, hfeed, hhave, hseq, hbits, hcount⟩ := feed_key hn hfits fun hhave => by
    obtain ⟨x, hx, hm⟩ := hfollows hhave
    exact ⟨x.mark, hx.seq, hx.bits, hm⟩
  refine ⟨{ c with aside := k }, ?_, hhave, ⟨hconn, hseq, hbits⟩, hcount⟩
  have hkind : (Python.Header.ofC h).kind = 3 := congrArg UInt8.toNat hs.kind
  have hop : (Python.Header.ofC h).opcode = 0x0280 := congrArg UInt16.toNat hs.opcode
  have hid : (Python.Header.ofC h).connectionId = c.connectionId :=
    (congrArg UInt32.toNat hs.connection).trans hconn.symm
  have hne : c.connectionId ≠ 0 := by
    rw [hconn]
    exact fun hzero => hf.1 (UInt32.toNat_inj.mp hzero)
  unfold KeyHost.take
  rw [if_pos hs.kind, hs.payload]
  unfold Python.BridgeClient.handleEvent
  rw [hkind, hop, hid]
  simp [Python.BridgeClient.eventKind, hne, Python.keyAside, keys_buf hf.2, hfeed]

/-! ## The frames of a session -/

variable (b) in
/-- What is known about the frames of a log that keeps the host. -/
structure Flowing (log : List Ev) : Prop where
  causal : CausalLog log
  order : QueueOrder log
  carried : Carried log
  keys : KeyFlow log
  kept : OrderKept b log
  host : hostKept log = true

lemma Flowing.suffix {l : List Ev} (h : Flowing b log) (hl : l <:+ log) : Flowing b l where
  causal := fun e l' h' => h.causal e l' (h'.trans hl)
  order := fun e l' h' => h.order e l' (h'.trans hl)
  carried := fun e l' h' => h.carried e l' (h'.trans hl)
  keys := fun e l' h' => h.keys e l' (h'.trans hl)
  kept := fun e he => h.kept e (hl.subset he)
  host := hostKept_suffix h.host hl

lemma mem_of_mem_sess {e : Ev} (h : e ∈ sess log) : e ∈ log := (List.takeWhile_prefix _).subset h

/-- What came before an event of the session. -/
lemma suffix_of_sess {e : Ev} {l : List Ev} (h : (e :: l) <:+ sess log) :
    ∃ l', (e :: l') <:+ log ∧ sess l' = l := by
  induction log with
  | nil => exact absurd (List.suffix_nil.mp h) (List.cons_ne_nil _ _)
  | cons x log ih =>
    cases hx : x.within with
    | false =>
      rw [sess_cons_not_within hx] at h
      exact absurd (List.suffix_nil.mp h) (List.cons_ne_nil _ _)
    | true =>
      rw [sess_cons_within hx] at h
      rcases List.suffix_cons_iff.mp h with heq | hold
      · obtain ⟨rfl, rfl⟩ := List.cons.inj heq
        exact ⟨log, List.suffix_refl _, rfl⟩
      · obtain ⟨l', hl', hsess⟩ := ih hold
        exact ⟨l', hl'.trans (List.suffix_cons _ _), hsess⟩

lemma exists_suffix {e : Ev} (h : e ∈ sess log) :
    ∃ l, (e :: l) <:+ log ∧ (e :: sess l) <:+ sess log := by
  obtain ⟨l₁, l₂, heq⟩ := List.append_of_mem h
  have hsuffix : (e :: l₂) <:+ sess log := ⟨l₁, heq.symm⟩
  obtain ⟨l', hl', rfl⟩ := suffix_of_sess hsuffix
  exact ⟨l', hl', hsuffix⟩

/-- A session begins with an empty control queue. -/
lemma clean_of_live (h : hostKept log = true) (hl : (sessionView log).live = true) :
    (sessionView log).clean = true := by
  induction log with
  | nil => cases hl
  | cons e log ih =>
    obtain ⟨he, hrest⟩ := Bool.and_eq_true_iff.mp h
    cases e with
    | opened id s => exact he
    | closed s => cases hl
    | _ => exact ih hrest hl

section Notices

variable {n : Notice} {l : List Ev}

lemma notices_append (l' : List Ev) : notices n (l ++ l') = notices n l ++ notices n l' := by
  induction l with
  | nil => rfl
  | cons e l ih =>
    cases e with
    | queued slot s =>
      rw [List.cons_append, notices_queued, notices_queued, ih]
      split <;> rfl
    | _ => exact ih

lemma mem_notices_of_queued {slot : CtlSlot} {s : Server} (h : Ev.queued slot s ∈ l)
    (hn : n.shows slot = true) : (slot, s) ∈ notices n l := by
  obtain ⟨l₁, l₂, rfl⟩ := List.append_of_mem h
  rw [notices_append, notices_queued, if_pos hn]
  exact List.mem_append_right _ (List.mem_cons_self ..)

lemma notices_suffix {l' : List Ev} (h : l' <:+ l) : notices n l' ⊆ notices n l := by
  obtain ⟨l₁, rfl⟩ := h
  rw [notices_append]
  exact List.subset_append_right _ _

/-- A notice has a smaller number than those that were queued after it. -/
lemma notices_sorted (h : CausalLog log) :
    (notices n (sess log)).Pairwise fun d d' => d'.1.order < d.1.order := by
  induction log with
  | nil => exact List.Pairwise.nil
  | cons e log ih =>
    have hrest := ih fun e' l' hl' => h e' l' (hl'.trans (List.suffix_cons _ _))
    have hafter : e.causalAfter log := h e log (List.suffix_refl _)
    cases e with
    | opened | closed => exact List.Pairwise.nil
    | queued slot s =>
      rw [sess_cons_within rfl, notices_queued]
      split
      · exact List.pairwise_cons.mpr ⟨fun d hd => hafter d.1 d.2 (mem_notices hd).1, hrest⟩
      · exact hrest
    | _ => exact hrest

end Notices

/-- The last notice that was sent. -/
def lastNotice : List Ev → Option CtlSlot
  | [] => none
  | .emitted (.ctl slot) _ _ :: l => if Notice.any.shows slot then some slot else lastNotice l
  | _ :: l => lastNotice l

lemma lastNotice_unsent {e : Ev} (he : e.unsent = true) (l : List Ev) :
    lastNotice (e :: l) = lastNotice l := by
  cases e with
  | emitted origin h p => cases origin <;> first | rfl | cases he
  | _ => rfl

lemma sent_of_lastNotice {l : List Ev} {slot : CtlSlot} (h : lastNotice l = some slot) :
    Sent l slot ∧ Notice.any.shows slot = true := by
  induction l with
  | nil => cases h
  | cons e l ih =>
    have hold : lastNotice l = some slot → Sent (e :: l) slot ∧ Notice.any.shows slot = true := fun h =>
      ⟨(ih h).1.cons e, (ih h).2⟩
    cases e with
    | emitted origin hd p =>
      cases origin with
      | ctl x =>
        unfold lastNotice at h
        split at h
        · next hshows =>
          obtain rfl := Option.some.inj h
          exact ⟨⟨hd, p, List.mem_cons_self ..⟩, hshows⟩
        · exact hold h
      | _ => exact hold h
    | _ => exact hold h

/-- A notice that was sent is the last one or an older one. -/
lemma exists_lastNotice {x : CtlSlot} (h : QueueOrder log) (hx : Sent (sess log) x)
    (hn : Notice.any.shows x = true) : ∃ slot, lastNotice (sess log) = some slot ∧ x.order ≤ slot.order := by
  induction log with
  | nil =>
    obtain ⟨hd, p, hmem⟩ := hx
    cases hmem
  | cons e log ih =>
    have hrest : Sent (sess log) x → ∃ slot, lastNotice (sess log) = some slot ∧ x.order ≤ slot.order :=
      ih fun e' l' hl' => h e' l' (hl'.trans (List.suffix_cons _ _))
    cases hwithin : e.within with
    | false =>
      rw [sess_cons_not_within hwithin] at hx
      obtain ⟨hd, p, hmem⟩ := hx
      cases hmem
    | true =>
      rw [sess_cons_within hwithin] at hx ⊢
      cases hunsent : e.unsent with
      | true =>
        rw [lastNotice_unsent hunsent]
        exact hrest (hx.of_cons hunsent)
      | false =>
        have hafter : e.leavesAfter log := h e log (List.suffix_refl _)
        unfold Ev.unsent at hunsent
        split at hunsent
        · next y hd p =>
          have hcases : x = y ∨ Sent (sess log) x := by
            obtain ⟨hd', p', hmem⟩ := hx
            rcases List.mem_cons.mp hmem with heq | hmem
            · cases heq
              exact .inl rfl
            · exact .inr ⟨hd', p', hmem⟩
          unfold lastNotice
          split
          · refine ⟨y, rfl, ?_⟩
            rcases hcases with rfl | ⟨hd', p', hmem⟩
            · exact UInt32.le_refl _
            · exact UInt32.le_of_lt (hafter.after x hd' p' (mem_of_mem_sess hmem))
          · next hnot =>
            rcases hcases with rfl | hsent
            · exact absurd hn hnot
            · exact hrest hsent
        · cases hunsent

/-- A notice was sent that has the connection of the key frame and its slots: the last one with a smaller
number. -/
lemma Flowing.cover {it : KeyItem} (h : Flowing b log) (hit : KeyCausalAt log it) :
    ∃ d, (notices .any (sess log)).find? (fun d => decide (d.1.order < it.order)) = some d ∧
      Sent (sess log) d.1 ∧ d.2.device.connectionId = it.connection ∧
      Fits it.bits (slotCount d.2.device.shownProfile) := by
  -- something was told before the subscription, so before the key state
  obtain ⟨s₀, hs₀, hlt⟩ := hit.granted
  obtain ⟨l, hl, hsess⟩ := exists_suffix hs₀
  have htold : ¬ (notices .any (sess l)).isEmpty = true := by
    simpa [Ev.keepsHost] using keepsHost_of_suffix h.host hl
  obtain ⟨x, hx⟩ := List.exists_mem_of_ne_nil _ fun hnil => htold (List.isEmpty_iff.mpr hnil)
  have hxle : x.1.order ≤ s₀.orderCounter := h.causal _ _ hl x.1 x.2 (mem_notices hx).1
  have hxlt : x.1.order < it.order := UInt32.lt_of_le_of_lt hxle hlt
  have hmem : x ∈ notices .any (sess log) := notices_suffix ((List.suffix_cons _ _).trans hsess) hx
  have hsome : ((notices .any (sess log)).find? fun d => decide (d.1.order < it.order)).isSome = true := by
    rw [List.find?_isSome]
    exact ⟨x, hmem, decide_eq_true hxlt⟩
  obtain ⟨d, hd⟩ := Option.isSome_iff_exists.mp hsome
  exact ⟨d, hd, hit.noticed d.1 d.2 hd⟩

/-- The last notice that was sent before a key frame has its connection and its slots: numbers grow as
notices are queued and as they are sent. -/
lemma Flowing.covered {it : KeyItem} (h : Flowing b log) (hit : KeyCausalAt log it) :
    ∃ slot, lastNotice (sess log) = some slot ∧ ∀ s, Ev.queued slot s ∈ sess log →
      s.device.connectionId = it.connection ∧ Fits it.bits (slotCount s.device.shownProfile) := by
  obtain ⟨d, hd, hsent, hconn, hfits⟩ := h.cover hit
  obtain ⟨slot, hlast, hle⟩ :=
    exists_lastNotice h.order hsent (mem_notices (List.mem_of_find?_eq_some hd)).2
  obtain ⟨hslot, hshows⟩ := sent_of_lastNotice hlast
  refine ⟨slot, hlast, fun s hs => ?_⟩
  obtain ⟨-, as, bs, heq, has⟩ := List.find?_eq_some_iff_append.mp hd
  have hsorted := notices_sorted (n := .any) h.causal
  have hmem : (slot, s) ∈ notices .any (sess log) := mem_notices_of_queued hs hshows
  rw [heq] at hsorted hmem
  have hsame : (slot, s) = d := by
    rcases List.mem_append.mp hmem with hmem | hmem
    · have hno := has _ hmem
      rw [decide_eq_true (hit.youngest slot hslot)] at hno
      cases hno
    · rcases List.mem_cons.mp hmem with heq | hmem
      · exact heq
      · have hlt : slot.order < d.1.order :=
          (List.pairwise_cons.mp (List.pairwise_append.mp hsorted).2.1).1 _ hmem
        exact absurd hle (UInt32.not_le.mpr hlt)
  obtain rfl := hsame
  exact ⟨hconn, hfits⟩

lemma mem_sentKeys {l : List Ev} {it : KeyItem} (h : it ∈ sentKeys l) :
    ∃ hd p, Ev.emitted (.key it) hd p ∈ l := by
  induction l with
  | nil => cases h
  | cons e l ih =>
    have hold : it ∈ sentKeys l → ∃ hd p, Ev.emitted (.key it) hd p ∈ e :: l := fun h => by
      obtain ⟨hd, p, hmem⟩ := ih h
      exact ⟨hd, p, List.mem_cons_of_mem _ hmem⟩
    cases e with
    | emitted origin hd p =>
      cases origin with
      | key x =>
        rcases List.mem_append.mp h with h | h
        · exact hold h
        · obtain rfl := List.mem_singleton.mp h
          exact ⟨hd, p, List.mem_cons_self ..⟩
      | _ => exact hold h
    | _ => exact hold h

/-- A connection gets an id that no notice of the session had. -/
lemma Flowing.unreused (h : Flowing b log) : Unreused (sess log) := by
  intro id s l hl d hd heq
  obtain ⟨l', hl', rfl⟩ := suffix_of_sess hl
  have hfresh := keepsHost_of_suffix h.host hl'
  have hne := List.all_eq_true.mp hfresh d hd
  simp [heq] at hne

/-- So no key state had it. -/
lemma Flowing.unshared (h : Flowing b log) : Unshared log := by
  intro id s l hl it hit heq
  have hbefore := h.suffix ((List.suffix_cons _ _).trans hl)
  have hfresh : s.freshId id = true := h.kept _ (hl.subset (List.mem_cons_self ..))
  rcases List.mem_append.mp hit with hit | hit
  · obtain ⟨hd, p, hmem⟩ := mem_sentKeys hit
    obtain ⟨l', hl', hsess⟩ := exists_suffix hmem
    have hthere := hbefore.suffix ((List.suffix_cons _ _).trans hl')
    obtain ⟨d, hfind, -, hconn, -⟩ :=
      hthere.cover (h.causal _ _ (hl'.trans ((List.suffix_cons _ _).trans hl)))
    have hd : d ∈ notices .any (sess l) :=
      notices_suffix ((List.suffix_cons _ _).trans hsess) (List.mem_of_find?_eq_some hfind)
    have hne := List.all_eq_true.mp (keepsHost_of_suffix h.host hl) d hd
    simp [hconn, heq] at hne
  · simp only [Server.freshId, Bool.and_eq_true] at hfresh
    have hne := List.all_eq_true.mp hfresh.1.1 it hit
    simp [heq] at hne

/-! ## The client over a session -/

/-- What was told since the last key state was sent has the connection `c`. -/
def Stays (c : UInt32) (l : List Ev) : Prop :=
  ∀ slot h p l', (Ev.emitted (.ctl slot) h p :: l') <:+ l → sentKeys l' = sentKeys l →
    Notice.any.shows slot = true → ∀ s, Ev.queued slot s ∈ l' → s.device.connectionId = c

/-- What the client has after the frames of a session: the connection and the number of keys of the last
notice, and a key state that was sent for this connection, the last one if the connection stayed. -/
structure Shows (l : List Ev) (c : KeyHost) : Prop where
  told : ∀ slot, lastNotice l = some slot → ∃ s, Ev.queued slot s ∈ l ∧
    c.connectionId = s.device.connectionId.toNat ∧
    c.aside.keyCount = some (slotCount s.device.shownProfile)
  keys : c.aside.haveKeys = true → ∃ it ∈ sentKeys l, c.Holds it
  held : ∀ it, (sentKeys l).getLast? = some it → Stays it.connection l →
    c.aside.haveKeys = true ∧ c.Holds it

namespace Shows

variable {l : List Ev} {c c' : KeyHost} {e : Ev}

lemma nil (c : KeyHost) (hc : c.aside.haveKeys = false) : Shows [] c :=
  ⟨nofun, fun h => (nomatch hc.symm.trans h), nofun⟩

lemma stays_of_cons {conn : UInt32} (h : Stays conn (e :: l)) (hk : sentKeys (e :: l) = sentKeys l) :
    Stays conn l :=
  fun slot hd p l' hl' hkeys => h slot hd p l' (hl'.trans (List.suffix_cons _ _)) (hkeys.trans hk.symm)

/-- An event that the client does not see, or that tells it nothing. -/
lemma quiet (h : Shows l c) (hk : sentKeys (e :: l) = sentKeys l)
    (hn : lastNotice (e :: l) = lastNotice l) : Shows (e :: l) c where
  told := by
    rw [hn]
    intro slot hslot
    obtain ⟨s, hs, htold⟩ := h.told slot hslot
    exact ⟨s, List.mem_cons_of_mem _ hs, htold⟩
  keys := by
    rw [hk]
    exact h.keys
  held := by
    rw [hk]
    exact fun it hit hstays => h.held it hit (stays_of_cons hstays hk)

/-- The client is told about the device. -/
lemma notice {slot : CtlSlot} {s : Server} {hd : Header} {p : List UInt8} (h : Shows l c)
    (hn : Notice.any.shows slot = true) (hs : Ev.queued slot s ∈ l) (ht : KeyHost.Told s c c') :
    Shows (.emitted (.ctl slot) hd p :: l) c' where
  told := by
    intro x hx
    have hlast : lastNotice (.emitted (.ctl slot) hd p :: l) = some slot := if_pos hn
    obtain rfl : slot = x := Option.some.inj (hlast.symm.trans hx)
    exact ⟨s, List.mem_cons_of_mem _ hs, ht.connection, ht.count⟩
  keys := by
    intro hhave
    by_cases hsame : c.connectionId = s.device.connectionId.toNat
    · obtain ⟨hkept, hseq, hbits⟩ := ht.same hsame
      obtain ⟨it, hit, hholds⟩ := h.keys (hkept ▸ hhave)
      exact ⟨it, hit, ht.connection.trans (hsame.symm.trans hholds.connection),
        hseq.trans hholds.seq, hbits.trans hholds.bits⟩
    · exact nomatch (ht.moved hsame).symm.trans hhave
  held := by
    intro it hit hstays
    have hconn : s.device.connectionId = it.connection :=
      hstays slot hd p l (List.suffix_refl _) rfl hn s hs
    obtain ⟨hhave, hholds⟩ := h.held it hit (stays_of_cons hstays rfl)
    have hsame : c.connectionId = s.device.connectionId.toNat := by rw [hholds.connection, hconn]
    obtain ⟨hkept, hseq, hbits⟩ := ht.same hsame
    exact ⟨hkept.trans hhave, ht.connection.trans (by rw [hconn]), hseq.trans hholds.seq,
      hbits.trans hholds.bits⟩

/-- The client is sent a key state. -/
lemma key {it : KeyItem} {hd : Header} {p : List UInt8} (h : Shows l c) (hc : c'.Holds it)
    (hhave : c'.aside.haveKeys = true) (hcount : c'.aside.keyCount = c.aside.keyCount)
    (hconn : c.connectionId = it.connection.toNat) : Shows (.emitted (.key it) hd p :: l) c' where
  told := by
    intro slot hslot
    obtain ⟨s, hs, htold, hn⟩ := h.told slot hslot
    exact ⟨s, List.mem_cons_of_mem _ hs, hc.connection.trans (hconn.symm.trans htold), hcount.trans hn⟩
  keys := fun _ => ⟨it, List.mem_append_right _ (List.mem_singleton_self _), hc⟩
  held := by
    intro x hx _
    have hlast : (sentKeys l ++ [it]).getLast? = some x := hx
    rw [List.getLast?_append, List.getLast?_singleton] at hlast
    obtain rfl := Option.some.inj hlast
    exact ⟨hhave, hc⟩

end Shows

/-- The next frame of the control queue is taken. -/
lemma Flowing.shows_ctl {slot : CtlSlot} {hd : Header} {p : List UInt8} {c : KeyHost}
    (h : Flowing b (.emitted (.ctl slot) hd p :: log)) (hl : (sessionView log).live = true)
    (hc : Shows (sess log) c) :
    ∃ c', c.take hd p = some c' ∧ Shows (.emitted (.ctl slot) hd p :: sess log) c' := by
  have hbefore := h.suffix (List.suffix_cons _ _)
  have hs : slot.SentAs log hd p := h.carried _ _ (List.suffix_refl _)
  obtain ⟨s, hqueued⟩ := hs.own hl (clean_of_live hbefore.host hl)
  obtain ⟨l, hl', -⟩ := exists_suffix hqueued
  have hcarries : slot.Carries s := hbefore.carried _ _ hl'
  have hreadable : slot.readable = true := keepsHost_of_suffix hbefore.host hl'
  cases hn : Notice.any.shows slot with
  | true =>
    obtain ⟨c', htake, htold⟩ := KeyHost.take_notice (c := c) hs hcarries hn hreadable
    exact ⟨c', htake, hc.notice hn hqueued htold⟩
  | false =>
    refine ⟨c, KeyHost.take_other hs hcarries hn hreadable, hc.quiet rfl ?_⟩
    exact if_neg (by simp [hn])

/-- The next key state is taken. -/
lemma Flowing.shows_key {it : KeyItem} {hd : Header} {p : List UInt8} {c : KeyHost}
    (h : Flowing b (.emitted (.key it) hd p :: log)) (hc : Shows (sess log) c) :
    ∃ c', c.take hd p = some c' ∧ Shows (.emitted (.key it) hd p :: sess log) c' := by
  have hbefore := h.suffix (List.suffix_cons _ _)
  have hs : it.SentAs hd p := h.carried _ _ (List.suffix_refl _)
  have hflow : FlowsAfter log it := h.keys _ _ (List.suffix_refl _)
  obtain ⟨slot, hlast, hcover⟩ := hbefore.covered (h.causal _ _ (List.suffix_refl _))
  obtain ⟨s, hqueued, hconn, hcount⟩ := hc.told slot hlast
  obtain ⟨hsame, hfits⟩ := hcover s hqueued
  have hown : c.connectionId = it.connection.toNat := by rw [hconn, hsame]
  obtain ⟨c', htake, hhave, hholds, hkept⟩ := KeyHost.take_key (n := slotCount s.device.shownProfile) hs
    ⟨hflow.connection, hflow.reset⟩ hown hcount hfits fun hhave => by
      obtain ⟨x, hx, hholds⟩ := hc.keys hhave
      refine ⟨x, hholds, hflow.follows hbefore.unshared x hx ?_⟩
      exact UInt32.toNat_inj.mp (hholds.connection.symm.trans hown)
  exact ⟨c', htake, hc.key hholds hhave hkept hown⟩

/-- The client takes every frame of a session. -/
lemma Flowing.shows (h : Flowing b log) (hl : (sessionView log).live = true) :
    ∃ c, hostKeys (sess log) = some c ∧ Shows (sess log) c := by
  induction log with
  | nil => cases hl
  | cons e log ih =>
    have hbefore := h.suffix (List.suffix_cons _ _)
    cases e with
    | opened id s => exact ⟨_, rfl, .nil _ rfl⟩
    | closed s => cases hl
    | emitted origin hd p =>
      obtain ⟨c, hhost, hc⟩ := ih hbefore hl
      rw [sess_cons_within rfl]
      cases origin with
      | ctl slot =>
        obtain ⟨c', htake, hshows⟩ := h.shows_ctl hl hc
        exact ⟨c', (congrArg (Option.bind · (KeyHost.take hd p)) hhost).trans htake, hshows⟩
      | key it =>
        obtain ⟨c', htake, hshows⟩ := h.shows_key hc
        exact ⟨c', (congrArg (Option.bind · (KeyHost.take hd p)) hhost).trans htake, hshows⟩
      | media item => exact ⟨c, hhost, hc.quiet rfl rfl⟩
    | _ =>
      obtain ⟨c, hhost, hc⟩ := ih hbefore hl
      exact ⟨c, hhost, hc.quiet rfl rfl⟩

/-! ## Whole runs -/

/-- After the last key state of the current connection no notice of another connection is sent. -/
lemma Flowing.stays {s : Server} {it : KeyItem} (h : Flowing b log) (hs : OrderInv (sess log) s)
    (hne : s.device.connectionId ≠ 0) (hlast : (sentKeys (sess log)).getLast? = some it)
    (hconn : it.connection = s.device.connectionId) : Stays it.connection (sess log) := by
  intro slot hd p l hl hkeys hn s' hs'
  by_contra hother
  have hsent : it ∈ sentKeys l := by
    rw [hkeys]
    exact List.mem_of_getLast? hlast
  obtain ⟨l₁, hl₁, rfl⟩ := suffix_of_sess hl
  obtain ⟨hd', p', hemitted⟩ := mem_sentKeys hsent
  obtain ⟨l₂, hl₂, hsess₂⟩ := exists_suffix hemitted
  -- a notice of the connection was sent before the key state, and so before this one
  have hbefore := h.suffix ((List.suffix_cons _ _).trans (hl₂.trans ((List.suffix_cons _ _).trans hl₁)))
  obtain ⟨d, hfind, ⟨hd₂, p₂, hsent₂⟩, hown, -⟩ :=
    hbefore.cover (h.causal _ _ (hl₂.trans ((List.suffix_cons _ _).trans hl₁)))
  have hearlier : d.1.order < slot.order :=
    (h.order _ _ hl₁).after d.1 hd₂ p₂
      (hl₂.subset (List.mem_cons_of_mem _ (mem_of_mem_sess hsent₂)))
  have hlater : slot.order < d.1.order :=
    hs.block h.unreused hne (slot, s')
      (notices_suffix ((List.suffix_cons _ _).trans hl) (mem_notices_of_queued hs' hn)) d
      (notices_suffix ((List.suffix_cons _ _).trans (hsess₂.trans ((List.suffix_cons _ _).trans hl)))
        (List.mem_of_find?_eq_some hfind))
      (fun heq => hother (heq.trans hconn.symm)) (hown.trans hconn)
  exact absurd (UInt32.lt_trans hearlier hlater) (UInt32.lt_irrefl _)

lemma Reach.pumped {w : World Unit} (hw : Reach Build.default anyInput w) :
    Reach Build.default anyInput w.pumped := hw.silent trivial

end RemoteBridge
