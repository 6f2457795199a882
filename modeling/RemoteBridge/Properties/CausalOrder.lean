import RemoteBridge.Properties.EventGate

/-!
# Causal order under the fairness scheduler

A key or voice frame depends on control frames that were queued before it: the reply that granted the
subscription, and the `DEVICE_STATE` that announced its connection and its key slots.  The scheduler
merges three queues by a global order number, so these control frames leave first.

There is one exception, by which control frames cannot starve the others: after a burst of four control
frames a key or voice frame has its turn, whatever is still in front of it.  The order is kept in every
run whose pumps never begin with more control frames in front of a key or voice frame than the burst
holds (`Ev.keepsOrder`).

Everything is said about the session of the moment: `sess l` is the part of the log since the last session
began or ended.

What is stated is what the board sends, and in which order; no client is modelled here.  A client that
takes every frame when it comes has seen the announcement of a connection and of its keys before the
frames that use them; `HostKeys` follows the key states to the Python client on this ground.  That client
takes the reply to `GET_DEVICE` when its caller gets to it, which may be after a newer `DEVICE_STATE`; what
this does to the client is outside of the order of the frames.
-/

namespace RemoteBridge

open World

variable {E : Type} {b : Build} {k : Nat} {w w' : World E}

/-! ## The property -/

/-- Neither the begin nor the end of a session. -/
def Ev.within : Ev → Bool
  | .opened _ _ => false
  | .closed _ => false
  | _ => true

/-- The log of the current session, newest first. -/
def sess (l : List Ev) : List Ev := l.takeWhile (·.within)

/-- The frame in this slot has been sent. -/
def Sent (l : List Ev) (slot : CtlSlot) : Prop := ∃ h p, Ev.emitted (.ctl slot) h p ∈ l

/-- Whether the slot holds a `DEVICE_STATE`. -/
def CtlSlot.isDevice (slot : CtlSlot) : Bool :=
  slot.kind == kindEvent && slot.opcode == EventOp.deviceState.code

/-- The frame in this slot is a `DEVICE_STATE` that describes `s`. -/
structure Describes (slot : CtlSlot) (s : Server) : Prop where
  isDevice : slot.isDevice = true
  payload : slot.payload = s.deviceInfoTlv

/-- The number of key slots that a profile has, as far as `DEVICE_STATE` can tell. -/
def slotCount (p : Option DeviceProfile) : Nat := (p.elim 0 fun p => UInt8.ofNat p.keys.length).toNat

/-- Only the first `n` keys are pressed. -/
def Fits (bits : UInt64) (n : Nat) : Prop := bits.toNat < 2 ^ n

instance (bits : UInt64) (n : Nat) : Decidable (Fits bits n) := inferInstanceAs (Decidable (_ < _))

/-- The `DEVICE_STATE` frames that were queued, with the states they were queued on, newest first. -/
def devices : List Ev → List (CtlSlot × Server)
  | [] => []
  | .queued slot s :: l => if slot.isDevice then (slot, s) :: devices l else devices l
  | _ :: l => devices l

/-- Whether the slot holds the answer to a `GET_DEVICE`. -/
def CtlSlot.isReport (slot : CtlSlot) : Bool :=
  slot.kind == kindResponse && slot.opcode == RequestOp.getDevice.code && slot.status == Status.ok.code

/-- The frames that tell a client about the device: `DEVICE_STATE`, or the answers to `GET_DEVICE` too. -/
inductive Notice where
  | event
  | any

def Notice.shows (n : Notice) (slot : CtlSlot) : Bool :=
  match n with
  | .event => slot.isDevice
  | .any => slot.isDevice || slot.isReport

/-- The notices that were queued, with the states they were queued on, newest first. -/
def notices (n : Notice) : List Ev → List (CtlSlot × Server)
  | [] => []
  | .queued slot s :: l => if n.shows slot then (slot, s) :: notices n l else notices n l
  | _ :: l => notices n l

/-- What a key or voice frame finds when it is sent after `l`: every control frame that was queued before
it has been sent, among them a `DEVICE_STATE` with its connection, if this connection is not older than
the session. -/
structure CausalAt (l : List Ev) (order connection : UInt32) : Prop where
  before : ∀ slot s, Ev.queued slot s ∈ sess l → slot.order < order → Sent (sess l) slot
  announced : ∀ s, Ev.connected connection s ∈ sess l → ∃ slot s', Sent (sess l) slot ∧
    Describes slot s' ∧ s'.device.connectionId = connection

/-- What a key frame finds besides: the reply to each `EVENTS_ENABLE(true)` that was granted before it was
queued, so the one that caused its snapshot; the last `DEVICE_STATE` before it, and the last notice of any
kind, have its connection and all its key slots; and no younger control frame has been sent. -/
structure KeyCausalAt (l : List Ev) (item : KeyItem) : Prop extends
    CausalAt l item.order item.connection where
  subscribed : ∀ s, Ev.subscribed s ∈ sess l → s.orderCounter < item.order →
    ∃ slot, Sent (sess l) slot ∧ slot.kind = kindResponse ∧
      slot.opcode = RequestOp.eventsEnable.code ∧ slot.status = Status.ok.code ∧
      slot.order = s.orderCounter
  covered : ∀ slot s, (devices (sess l)).find? (fun d => decide (d.1.order < item.order)) =
    some (slot, s) → Sent (sess l) slot ∧ Describes slot s ∧
      s.device.connectionId = item.connection ∧ Fits item.bits (slotCount s.device.shownProfile)
  noticed : ∀ slot s, (notices .any (sess l)).find? (fun d => decide (d.1.order < item.order)) =
    some (slot, s) → Sent (sess l) slot ∧ s.device.connectionId = item.connection ∧
      Fits item.bits (slotCount s.device.shownProfile)
  granted : ∃ s, Ev.subscribed s ∈ sess l ∧ s.orderCounter < item.order
  youngest : ∀ slot, Sent (sess l) slot → slot.order < item.order

/-- What a sent frame finds, and a queued one; a subscription is younger than what was queued before it. -/
def Ev.causalAfter : Ev → List Ev → Prop
  | .emitted (.key item) _ _, l => KeyCausalAt l item
  | .emitted (.media item) _ _, l => CausalAt l item.order item.connection
  | .queued slot _, l => ∀ x s, Ev.queued x s ∈ sess l → x.order < slot.order
  | .subscribed s₀, l => ∀ x s, Ev.queued x s ∈ sess l → x.order ≤ s₀.orderCounter
  | _, _ => True

/-- Causal order: whenever a key or voice frame was sent, what it depends on had been sent; and control
frames are numbered as they are queued. -/
def CausalLog (log : List Ev) : Prop := ∀ e l, (e :: l) <:+ log → e.causalAfter l

/-! ## The condition -/

/-- The order numbers that a report or a subscription takes, four at most, do not wrap. -/
def Server.ordersLeft (s : Server) : Bool := decide (s.orderCounter.toNat + 4 < 2 ^ 32)

/-- No queued frame and no open stream belongs to connection `id`. -/
def Server.freshId (s : Server) (id : UInt32) : Bool :=
  s.keys.queue.all (·.connection != id) && s.voice.media.all (·.connection != id) &&
    !(s.voice.delivering && s.voice.streamConnection == id)

variable (b) in
/-- When an event keeps the causal order: a pump does not begin crowded, a granted request finds room,
order numbers do not wrap, connection ids are not reused while frames are queued under them, and the
adapter reports keys that the profile has. -/
def Ev.keepsOrder : Ev → Bool
  | .flush s => decide (s.crowd ≤ ctlFlushBurst)
  | .granted lens s => lens != [0] || s.roomFor b lens
  | .queued slot _ => slot.order != 0
  | .media item _ _ => item.order != 0
  | .keys rep s => s.ordersLeft && decide (Fits rep.pressedBits (slotCount s.device.profile))
  | .subscribed s => s.ordersLeft
  | .connected id s => s.freshId id
  | .profiled s => decide (Fits s.keys.pressedBits (slotCount s.device.profile))
  | _ => true

variable (b) in
def OrderKept (log : List Ev) : Prop := ∀ e ∈ log, e.keepsOrder b = true

lemma OrderKept.of_append {l l' : List Ev} (h : OrderKept b (l ++ l')) : OrderKept b l' :=
  fun e he => h e (List.mem_append_right _ he)

lemma OrderKept.of_cons {e : Ev} {l : List Ev} (h : OrderKept b (e :: l)) : OrderKept b l :=
  OrderKept.of_append (l := [e]) h

lemma OrderKept.granted {l : List Ev} (h : OrderKept b l) : ¬ Unsubscribed b l := by
  rintro ⟨s, hs, hroom⟩
  have hok : s.roomFor b [0] = true := h _ hs
  rw [hroom] at hok
  cases hok

lemma OrderKept.not_crowded {l : List Ev} (h : OrderKept b l) : ¬ Crowded l := by
  rintro ⟨s, hs, hcrowd⟩
  have hok : s.crowd ≤ ctlFlushBurst := of_decide_eq_true (h _ hs)
  omega

/-! ## The log of a session -/

lemma sess_cons_within {e : Ev} (he : e.within = true) (l : List Ev) : sess (e :: l) = e :: sess l :=
  List.takeWhile_cons_of_pos he

lemma sess_cons_not_within {e : Ev} (he : e.within = false) (l : List Ev) : sess (e :: l) = [] :=
  List.takeWhile_cons_of_neg (by simp [he])

lemma Sent.cons {l : List Ev} {slot : CtlSlot} (h : Sent l slot) (e : Ev) : Sent (e :: l) slot := by
  obtain ⟨hd, p, hmem⟩ := h
  exact ⟨hd, p, List.mem_cons_of_mem _ hmem⟩

lemma causalLog_cons {e : Ev} {l : List Ev} (hl : CausalLog l) (he : e.causalAfter l) :
    CausalLog (e :: l) := by
  intro e' l' hsuffix
  rcases List.suffix_cons_iff.mp hsuffix with heq | hold
  · obtain ⟨rfl, rfl⟩ := List.cons.inj heq
    exact he
  · exact hl e' l' hold

/-- The events that leave the queues, the connections and the subscriptions of a session alone. -/
def Ev.silent : Ev → Bool
  | .queued _ _ => false
  | .connected _ _ => false
  | .subscribed _ => false
  | .opened _ _ => false
  | .closed _ => false
  | _ => true

lemma within_of_silent {e : Ev} (he : e.silent = true) : e.within = true := by
  cases e <;> first | rfl | cases he

/-- An event that a new one is told apart from is an older one. -/
lemma mem_of_mem_cons {f : Ev → Bool} {e x : Ev} {l : List Ev} (he : f e = true) (hx : f x = false)
    (h : x ∈ e :: l) : x ∈ l := by
  rcases List.mem_cons.mp h with rfl | h
  · rw [hx] at he
    cases he
  · exact h

lemma mem_of_silent {e x : Ev} {l : List Ev} (he : e.silent = true) (hx : x.silent = false)
    (h : x ∈ e :: l) : x ∈ l := mem_of_mem_cons he hx h

section Notices

variable {n : Notice}

lemma notices_silent {e : Ev} (he : e.silent = true) (l : List Ev) :
    notices n (e :: l) = notices n l := by
  cases e <;> first | rfl | cases he

lemma notices_queued (slot : CtlSlot) (s : Server) (l : List Ev) :
    notices n (.queued slot s :: l) =
      if n.shows slot then (slot, s) :: notices n l else notices n l := rfl

lemma devices_eq (l : List Ev) : devices l = notices .event l := by
  induction l with
  | nil => rfl
  | cons e l ih =>
    cases e with
    | queued slot s =>
      unfold devices
      rw [notices_queued, ih]
      rfl
    | _ => exact ih

lemma mem_notices {l : List Ev} {d : CtlSlot × Server} (h : d ∈ notices n l) :
    Ev.queued d.1 d.2 ∈ l ∧ n.shows d.1 = true := by
  induction l with
  | nil => cases h
  | cons e l ih =>
    have hold : d ∈ notices n l → Ev.queued d.1 d.2 ∈ e :: l ∧ n.shows d.1 = true := fun h =>
      ⟨List.mem_cons_of_mem _ (ih h).1, (ih h).2⟩
    cases e with
    | queued slot s =>
      rw [notices_queued] at h
      split at h
      · next hshows =>
        rcases List.mem_cons.mp h with rfl | h
        · exact ⟨List.mem_cons_self .., hshows⟩
        · exact hold h
      · exact hold h
    | _ => exact hold h

end Notices

/-! ## The invariant -/

/-- A connection that is not older than the session has been announced. -/
def Known (l : List Ev) (c : UInt32) : Prop :=
  ∀ s, Ev.connected c s ∈ l → ∃ slot s', Ev.queued slot s' ∈ l ∧ Describes slot s' ∧
    s'.device.connectionId = c

/-- It has been announced by a frame with a smaller number. -/
def Tagged (l : List Ev) (order c : UInt32) : Prop :=
  ∀ s, Ev.connected c s ∈ l → ∃ slot s', Ev.queued slot s' ∈ l ∧ Describes slot s' ∧
    s'.device.connectionId = c ∧ slot.order < order

/-- The last notice before the key state has its connection and its slots. -/
def Covers (n : Notice) (l : List Ev) (it : KeyItem) : Prop :=
  ∀ d, (notices n l).find? (fun d => decide (d.1.order < it.order)) = some d →
    d.2.device.connectionId = it.connection ∧ Fits it.bits (slotCount d.2.device.shownProfile)

/-- No connection has the id of one that was announced before it. -/
def Unreused (l : List Ev) : Prop :=
  ∀ id s l', (Ev.connected id s :: l') <:+ l → ∀ d ∈ notices .any l', d.2.device.connectionId ≠ id

lemma Unreused.of_cons {e : Ev} {l : List Ev} (h : Unreused (e :: l)) : Unreused l :=
  fun id s l' hl => h id s l' (hl.trans (List.suffix_cons _ _))

/-- The server's queues against the log `l` of the session. -/
structure OrderInv (l : List Ev) (s : Server) : Prop where
  ctl : ∀ slot ∈ s.ctlQueued, slot.order ≠ 0 ∧ slot.order ≤ s.orderCounter
  key : ∀ it ∈ s.keys.queue, it.order ≠ 0 ∧ it.order ≤ s.orderCounter
  sorted : s.keys.queue.Pairwise (·.order < ·.order)
  apart : ∀ slot ∈ s.ctlQueued, ∀ it ∈ s.keys.queue, slot.order ≠ it.order
  sent : ∀ slot, Sent l slot → slot.order ≤ s.orderCounter ∧ ∀ it ∈ s.keys.queue, slot.order < it.order
  kept : s.session.active = true → ∀ slot s', Ev.queued slot s' ∈ l →
    slot ∈ s.ctlQueued ∨ Sent l slot
  bound : ∀ slot s', Ev.queued slot s' ∈ l → slot.order ≤ s.orderCounter
  described : ∀ d ∈ devices l, Describes d.1 d.2
  replied : ∀ s', Ev.subscribed s' ∈ l → ∃ slot s'', Ev.queued slot s'' ∈ l ∧
    slot.kind = kindResponse ∧ slot.opcode = RequestOp.eventsEnable.code ∧
    slot.status = Status.ok.code ∧ slot.order = s'.orderCounter
  granted : ∀ it ∈ s.keys.queue, ∃ s', Ev.subscribed s' ∈ l ∧ s'.orderCounter < it.order
  keyTag : ∀ it ∈ s.keys.queue, Tagged l it.order it.connection
  mediaTag : ∀ it ∈ s.voice.media, Tagged l it.order it.connection
  stream : s.voice.delivering = true → Known l s.voice.streamConnection
  cover : ∀ n, ∀ it ∈ s.keys.queue, Covers n l it
  fits : Fits s.keys.pressedBits (slotCount s.device.profile)
  /-- The notices of the current connection are younger than all others. -/
  block : Unreused l → s.device.connectionId ≠ 0 → ∀ d ∈ notices .any l, ∀ d' ∈ notices .any l,
    d.2.device.connectionId ≠ s.device.connectionId → d'.2.device.connectionId = s.device.connectionId →
      d.1.order < d'.1.order

/-- What has been announced is up to date; while the link is being left, `r` is false. -/
structure Current (r : Prop) (l : List Ev) (s : Server) : Prop where
  known : r ∨ s.keys.enabled = true → Known l s.device.connectionId
  latest : (r ∧ s.device.linkState = .ready) ∨ s.keys.enabled = true →
    ∀ n d, (notices n l).head? = some d → d.2.device.connectionId = s.device.connectionId ∧
      slotCount d.2.device.shownProfile = slotCount s.device.profile
  granted : s.keys.enabled = true → ∃ s', Ev.subscribed s' ∈ l ∧ s'.orderCounter ≤ s.orderCounter

variable (b) in
/-- The invariant holds unless the log tells why not. -/
def Ordered (r : Prop) (w : World E) : Prop :=
  OrderKept b w.log → CausalLog w.log ∧ OrderInv (sess w.log) w.srv ∧ Current r (sess w.log) w.srv

section Silent

variable {r : Prop} {l : List Ev} {s s' : Server} {e : Ev}

lemma Known.silent {c : UInt32} (h : Known l c) (he : e.silent = true) : Known (e :: l) c := by
  intro s hs
  obtain ⟨slot, s', hq, hrest⟩ := h s (mem_of_silent he rfl hs)
  exact ⟨slot, s', List.mem_cons_of_mem _ hq, hrest⟩

lemma Tagged.silent {order c : UInt32} (h : Tagged l order c) (he : e.silent = true) :
    Tagged (e :: l) order c := by
  intro s hs
  obtain ⟨slot, s', hq, hrest⟩ := h s (mem_of_silent he rfl hs)
  exact ⟨slot, s', List.mem_cons_of_mem _ hq, hrest⟩

/-- No frame of the control queue is sent here. -/
def Ev.unsent : Ev → Bool
  | .emitted (.ctl _) _ _ => false
  | _ => true

lemma Sent.of_cons {slot : CtlSlot} (he : e.unsent = true) (h : Sent (e :: l) slot) : Sent l slot := by
  obtain ⟨hd, p, hmem⟩ := h
  exact ⟨hd, p, mem_of_mem_cons he rfl hmem⟩

lemma OrderInv.silent (h : OrderInv l s) (he : e.silent = true) (hs : e.unsent = true) :
    OrderInv (e :: l) s where
  ctl := h.ctl
  key := h.key
  sorted := h.sorted
  apart := h.apart
  sent := fun slot hsent => h.sent slot (hsent.of_cons hs)
  kept := fun ha slot s' hq => (h.kept ha slot s' (mem_of_silent he rfl hq)).imp id (·.cons e)
  bound := fun slot s' hq => h.bound slot s' (mem_of_silent he rfl hq)
  described := by
    rw [devices_eq, notices_silent he, ← devices_eq]
    exact h.described
  replied := by
    intro s' hs
    obtain ⟨slot, s'', hq, hrest⟩ := h.replied s' (mem_of_silent he rfl hs)
    exact ⟨slot, s'', List.mem_cons_of_mem _ hq, hrest⟩
  granted := by
    intro it hit
    obtain ⟨s', hs', hlt⟩ := h.granted it hit
    exact ⟨s', List.mem_cons_of_mem _ hs', hlt⟩
  keyTag := fun it hit => (h.keyTag it hit).silent he
  mediaTag := fun it hit => (h.mediaTag it hit).silent he
  stream := fun hd => (h.stream hd).silent he
  cover := by
    unfold Covers
    intro n
    rw [notices_silent he]
    exact h.cover n
  fits := h.fits
  block := by
    rw [notices_silent he]
    exact fun hl => h.block hl.of_cons

lemma Current.silent (h : Current r l s) (he : e.silent = true) : Current r (e :: l) s where
  known := fun hr => (h.known hr).silent he
  latest := by
    intro hr n
    rw [notices_silent he]
    exact h.latest hr n
  granted := by
    intro hen
    obtain ⟨s', hs', hle⟩ := h.granted hen
    exact ⟨s', List.mem_cons_of_mem _ hs', hle⟩

/-- A change of the server that queues nothing and announces nothing new. -/
structure Shrinks (s s' : Server) : Prop where
  ctl : s'.ctlQueued = s.ctlQueued
  order : s'.orderCounter = s.orderCounter
  active : s'.session.active = true → s.session.active = true
  queue : s'.keys.queue.Sublist s.keys.queue
  media : s'.voice.media ⊆ s.voice.media
  stream : s'.voice.delivering = true →
    s.voice.delivering = true ∧ s'.voice.streamConnection = s.voice.streamConnection
  pressed : s'.keys.pressedBits = s.keys.pressedBits
  profile : s'.device.profile = s.device.profile
  connection : s'.device.connectionId = s.device.connectionId ∨ s'.device.connectionId = 0

lemma OrderInv.shrink (h : OrderInv l s) (hs : Shrinks s s') : OrderInv l s' where
  ctl := by
    rw [hs.ctl, hs.order]
    exact h.ctl
  key := by
    rw [hs.order]
    exact fun it hit => h.key it (hs.queue.subset hit)
  sorted := h.sorted.sublist hs.queue
  apart := by
    rw [hs.ctl]
    exact fun slot hslot it hit => h.apart slot hslot it (hs.queue.subset hit)
  sent := by
    rw [hs.order]
    exact fun slot hsent => ⟨(h.sent slot hsent).1, fun it hit =>
      (h.sent slot hsent).2 it (hs.queue.subset hit)⟩
  kept := by
    rw [hs.ctl]
    exact fun ha => h.kept (hs.active ha)
  bound := by
    rw [hs.order]
    exact h.bound
  described := h.described
  replied := h.replied
  granted := fun it hit => h.granted it (hs.queue.subset hit)
  keyTag := fun it hit => h.keyTag it (hs.queue.subset hit)
  mediaTag := fun it hit => h.mediaTag it (hs.media hit)
  stream := by
    intro hd
    rw [(hs.stream hd).2]
    exact h.stream (hs.stream hd).1
  cover := fun n it hit => h.cover n it (hs.queue.subset hit)
  fits := by
    rw [hs.pressed, hs.profile]
    exact h.fits
  block := by
    intro hl hne
    have hsame := hs.connection.resolve_right hne
    rw [hsame] at hne ⊢
    exact h.block hl hne

lemma Current.shrink (h : Current r l s)
    (he : s'.keys.enabled = true → s.keys.enabled = true)
    (hc : s'.device.connectionId = s.device.connectionId)
    (hl : s'.device.linkState = s.device.linkState) (hp : s'.device.profile = s.device.profile)
    (ho : s.orderCounter ≤ s'.orderCounter) : Current r l s' where
  known := by
    rw [hc]
    exact fun hr => h.known (hr.imp id he)
  latest := by
    rw [hc, hl, hp]
    exact fun hr => h.latest (hr.imp id he)
  granted := by
    intro hen
    obtain ⟨s₀, hs₀, hle⟩ := h.granted (he hen)
    exact ⟨s₀, hs₀, UInt32.le_trans hle ho⟩

lemma Current.weaken (h : Current True l s) : Current r l s where
  known := fun hr => h.known (hr.imp (fun _ => trivial) id)
  latest := fun hr => h.latest (hr.imp (fun hready => ⟨trivial, hready.2⟩) id)
  granted := h.granted

/-- The start of a session: nothing is queued and nothing is known. -/
lemma not_sent_nil (slot : CtlSlot) : ¬ Sent [] slot := by
  rintro ⟨h, p, hmem⟩
  cases hmem

lemma orderInv_nil (hc : ∀ slot ∈ s.ctlQueued, slot.order ≠ 0 ∧ slot.order ≤ s.orderCounter)
    (hk : s.keys.queue = []) (hm : s.voice.media = [])
    (hf : Fits s.keys.pressedBits (slotCount s.device.profile)) : OrderInv [] s where
  ctl := hc
  key := by simp [hk]
  sorted := by simp [hk]
  apart := by simp [hk]
  sent := fun slot hsent => absurd hsent (not_sent_nil slot)
  kept := by simp
  bound := by simp
  described := by simp [devices]
  replied := by simp
  granted := by simp [hk]
  keyTag := by simp [hk]
  mediaTag := by simp [hm]
  stream := fun _ _ h => nomatch h
  cover := by simp [hk]
  fits := hf
  block := fun _ _ d hd => nomatch hd

/-- Nothing has been announced to a session that begins. -/
lemma current_nil (he : s.keys.enabled = false) : Current r [] s :=
  ⟨fun _ _ h => (nomatch h), fun _ _ _ h => (nomatch h), fun hen => nomatch he.symm.trans hen⟩

end Silent

/-! ## Control frames -/

section Control

variable {r : Prop} {l : List Ev} {s : Server} {slot : CtlSlot}

lemma lt_nextOrder {x : UInt32} (hne : s.nextOrder ≠ 0) (hx : x ≤ s.orderCounter) :
    x < s.nextOrder := by
  have hnat : s.nextOrder.toNat ≠ 0 := fun h => hne (UInt32.toNat.inj h)
  rw [UInt32.le_iff_toNat_le] at hx
  rw [UInt32.lt_iff_toNat_lt]
  unfold Server.nextOrder at hnat ⊢
  have hlt := s.orderCounter.toNat_lt
  rw [UInt32.toNat_add, UInt32.toNat_one] at hnat ⊢
  omega

/-- The event is not the begin of connection `c`. -/
def Ev.unconnected (c : UInt32) : Ev → Bool
  | .connected id _ => id != c
  | _ => true

/-- The event is not a subscription. -/
def Ev.unsubscribed : Ev → Bool
  | .subscribed _ => false
  | _ => true

lemma Known.cons {c : UInt32} {e : Ev} (h : Known l c) (he : e.unconnected c = true) :
    Known (e :: l) c := by
  intro s hs
  obtain ⟨slot, s', hq, hrest⟩ := h s (mem_of_mem_cons he (by simp [Ev.unconnected]) hs)
  exact ⟨slot, s', List.mem_cons_of_mem _ hq, hrest⟩

lemma Tagged.cons {order c : UInt32} {e : Ev} (h : Tagged l order c)
    (he : e.unconnected c = true) : Tagged (e :: l) order c := by
  intro s hs
  obtain ⟨slot, s', hq, hrest⟩ := h s (mem_of_mem_cons he (by simp [Ev.unconnected]) hs)
  exact ⟨slot, s', List.mem_cons_of_mem _ hq, hrest⟩

/-- A control frame is queued. -/
lemma OrderInv.queue {len : Nat} (h : OrderInv l s) (hf : s.ctlFits b len = true)
    (hu : slot.used = true) (ho : slot.order = s.nextOrder) (hne : slot.order ≠ 0)
    (hd : slot.isDevice = true → slot.payload = s.deviceInfoTlv) :
    OrderInv (.queued slot s :: l) (s.putCtl slot) := by
  obtain ⟨xs, ys, hold, hnew⟩ := ctlQueued_putCtl hf hu
  have hcounter : (s.putCtl slot).orderCounter = s.nextOrder := orderCounter_putCtl hf
  -- the new slot is younger than every number given so far
  have hlt : ∀ {x : UInt32}, x ≤ s.orderCounter → x < slot.order := fun hx =>
    ho ▸ lt_nextOrder (ho ▸ hne) hx
  have hmem : ∀ x, x ∈ s.ctlQueued → x ∈ (s.putCtl slot).ctlQueued := by
    intro x hx
    rw [hold] at hx
    rw [hnew]
    rcases List.mem_append.mp hx with hx | hx <;> simp [hx]
  -- and it is the only new one
  have hqueued : ∀ x ∈ (s.putCtl slot).ctlQueued, x = slot ∨ x ∈ s.ctlQueued := by
    intro x hx
    rw [hnew] at hx
    rw [hold]
    simp only [List.mem_append, List.mem_cons] at hx ⊢
    tauto
  have hunsent : ∀ {x}, Sent (.queued slot s :: l) x → Sent l x := fun hx => hx.of_cons rfl
  refine ⟨?_, ?_, ?_, ?_, ?_, ?_, ?_, ?_, ?_, ?_, ?_, ?_, ?_, ?_, ?_, ?_⟩
  · rw [hcounter, ← ho]
    intro x hx
    rcases hqueued x hx with rfl | hx
    · exact ⟨hne, UInt32.le_refl _⟩
    · exact ⟨(h.ctl x hx).1, UInt32.le_of_lt (hlt (h.ctl x hx).2)⟩
  · rw [keys_putCtl, hcounter, ← ho]
    exact fun it hit => ⟨(h.key it hit).1, UInt32.le_of_lt (hlt (h.key it hit).2)⟩
  · rw [keys_putCtl]
    exact h.sorted
  · rw [keys_putCtl]
    intro x hx it hit
    rcases hqueued x hx with rfl | hx
    · exact (UInt32.ne_of_lt (hlt (h.key it hit).2)).symm
    · exact h.apart x hx it hit
  · rw [keys_putCtl, hcounter, ← ho]
    exact fun x hx => ⟨UInt32.le_of_lt (hlt (h.sent x (hunsent hx)).1), (h.sent x (hunsent hx)).2⟩
  · rw [session_putCtl]
    intro ha x s' hx
    rcases List.mem_cons.mp hx with heq | hx
    · obtain ⟨rfl, -⟩ : x = slot ∧ s' = s := by
        injection heq with h₁ h₂
        exact ⟨h₁, h₂⟩
      exact .inl (by simp [hnew])
    · exact (h.kept ha x s' hx).imp (hmem x) (·.cons _)
  · rw [hcounter, ← ho]
    intro x s' hx
    rcases List.mem_cons.mp hx with heq | hx
    · obtain ⟨rfl, -⟩ : x = slot ∧ s' = s := by
        injection heq with h₁ h₂
        exact ⟨h₁, h₂⟩
      exact UInt32.le_refl _
    · exact UInt32.le_of_lt (hlt (h.bound x s' hx))
  · unfold devices
    split
    · next hdevice =>
      intro d hmem
      rcases List.mem_cons.mp hmem with rfl | hmem
      · exact ⟨hdevice, hd hdevice⟩
      · exact h.described d hmem
    · exact h.described
  · intro s' hs
    obtain ⟨x, s'', hx, hrest⟩ := h.replied s'
      (mem_of_mem_cons (f := Ev.unsubscribed) rfl rfl hs)
    exact ⟨x, s'', List.mem_cons_of_mem _ hx, hrest⟩
  · rw [keys_putCtl]
    intro it hit
    obtain ⟨s', hs', hlt'⟩ := h.granted it hit
    exact ⟨s', List.mem_cons_of_mem _ hs', hlt'⟩
  · rw [keys_putCtl]
    exact fun it hit => (h.keyTag it hit).cons rfl
  · rw [voice_putCtl]
    exact fun it hit => (h.mediaTag it hit).cons rfl
  · rw [voice_putCtl]
    exact fun hd => (h.stream hd).cons rfl
  · rw [keys_putCtl]
    intro n it hit d
    rw [notices_queued]
    split
    · -- the new frame is younger than every queued key state
      have hyoung : ¬ (slot.order < it.order) := fun hlt' =>
        UInt32.lt_irrefl _ (UInt32.lt_trans (UInt32.lt_of_le_of_lt (h.key it hit).2
          (hlt (UInt32.le_refl _))) hlt')
      rw [List.find?_cons_of_neg (by simpa using hyoung)]
      exact h.cover n it hit d
    · exact h.cover n it hit d
  · rw [keys_putCtl, device_putCtl]
    exact h.fits
  · rw [device_putCtl]
    intro hl hconn d hd d' hd' hother hown
    rw [notices_queued] at hd hd'
    have hold := h.block hl.of_cons hconn
    have hcases : ∀ {x : CtlSlot × Server}, x ∈ (if Notice.any.shows slot then
        (slot, s) :: notices .any l else notices .any l) → x = (slot, s) ∨ x ∈ notices .any l := by
      intro x hx
      split at hx
      · exact List.mem_cons.mp hx
      · exact .inr hx
    rcases hcases hd with rfl | hd
    · exact absurd rfl hother
    · rcases hcases hd' with rfl | hd'
      · exact hlt (h.bound _ _ (mem_notices hd).1)
      · exact hold d hd d' hd' hother hown

/-- What a notice says is up to date. -/
lemma latest_queue (h : Current r l s)
    (hready : slot.isReport = true → s.keys.enabled = true → s.device.linkState = .ready)
    (hd : slot.isDevice = false) (hr : (r ∧ s.device.linkState = .ready) ∨ s.keys.enabled = true)
    (n : Notice) (d : CtlSlot × Server) (hhead : (notices n (.queued slot s :: l)).head? = some d) :
    d.2.device.connectionId = s.device.connectionId ∧
      slotCount d.2.device.shownProfile = slotCount s.device.profile := by
  rw [notices_queued] at hhead
  split at hhead
  · next hshows =>
    obtain rfl := Option.some.inj hhead
    refine ⟨rfl, ?_⟩
    have hreport : slot.isReport = true := by
      cases n with
      | event => exact absurd (hd.symm.trans hshows) nofun
      | any => simpa [Notice.shows, hd] using hshows
    have hshown : s.device.linkState = .ready := hr.elim And.right (hready hreport)
    unfold Device.shownProfile
    rw [if_pos hshown]
  · exact h.latest hr n d hhead

lemma Current.queue {len : Nat} (h : Current r l s) (hf : s.ctlFits b len = true)
    (hne : s.nextOrder ≠ 0) (hd : slot.isDevice = false)
    (hready : slot.isReport = true → s.keys.enabled = true → s.device.linkState = .ready) :
    Current r (.queued slot s :: l) (s.putCtl slot) where
  known := by
    rw [keys_putCtl, device_putCtl]
    exact fun hr => (h.known hr).cons rfl
  latest := by
    rw [keys_putCtl, device_putCtl]
    exact fun hr n d hhead => latest_queue h hready hd hr n d hhead
  granted := by
    rw [keys_putCtl, orderCounter_putCtl hf]
    intro hen
    obtain ⟨s', hs', hle⟩ := h.granted hen
    exact ⟨s', List.mem_cons_of_mem _ hs', UInt32.le_of_lt (lt_nextOrder hne hle)⟩

/-- A `DEVICE_STATE` brings everything up to date. -/
lemma current_device {len : Nat} (hf : s.ctlFits b len = true) (hne : s.nextOrder ≠ 0)
    (hd : slot.isDevice = true) (hp : slot.payload = s.deviceInfoTlv)
    (hready : s.keys.enabled = true → s.device.linkState = .ready)
    (hg : s.keys.enabled = true → ∃ s', Ev.subscribed s' ∈ l ∧ s'.orderCounter ≤ s.orderCounter) :
    Current r (.queued slot s :: l) (s.putCtl slot) where
  known := by
    rw [device_putCtl]
    exact fun _ _ _ => ⟨slot, s, List.mem_cons_self .., ⟨hd, hp⟩, rfl⟩
  latest := by
    rw [keys_putCtl, device_putCtl]
    intro hr n d hhead
    have hshown : s.device.linkState = .ready := hr.elim And.right hready
    have hshows : n.shows slot = true := by cases n <;> simp [Notice.shows, hd]
    rw [notices_queued, if_pos hshows, List.head?_cons] at hhead
    obtain rfl := Option.some.inj hhead
    refine ⟨rfl, ?_⟩
    unfold Device.shownProfile
    rw [if_pos hshown]
  granted := by
    rw [keys_putCtl, orderCounter_putCtl hf]
    intro hen
    obtain ⟨s', hs', hle⟩ := hg hen
    exact ⟨s', List.mem_cons_of_mem _ hs', UInt32.le_of_lt (lt_nextOrder hne hle)⟩

@[simp] lemma orderCounter_freeSlot (s : Server) (i : Nat) :
    (s.freeSlot i).orderCounter = s.orderCounter := by
  unfold Server.freeSlot
  split <;> rfl

/-- A control frame is sent, ahead of every queued key state. -/
lemma OrderInv.emitCtl {i : Nat} {h : Header} {p : List UInt8} (hinv : OrderInv l s)
    (hi : s.ctl[i]? = some slot) (hu : slot.used = true)
    (hq : ∀ it ∈ s.keys.queue.head?, ¬ it.order < slot.order) :
    OrderInv (.emitted (.ctl slot) h p :: l) (s.freeSlot i) := by
  obtain ⟨xs, ys, hold, hnew⟩ := ctlQueued_freeSlot hi hu
  have hcounter : (s.freeSlot i).orderCounter = s.orderCounter := orderCounter_freeSlot s i
  have hslot : slot ∈ s.ctlQueued := hold ▸ List.mem_append_right _ (List.mem_cons_self ..)
  have hsub : ∀ x ∈ (s.freeSlot i).ctlQueued, x ∈ s.ctlQueued := by
    intro x hx
    rw [hnew] at hx
    rw [hold]
    rcases List.mem_append.mp hx with hx | hx <;> simp [hx]
  -- the slot is sent in its turn: every queued key state is younger
  have hfirst : ∀ it ∈ s.keys.queue, slot.order < it.order := by
    intro it hit
    cases hqueue : s.keys.queue with
    | nil =>
      rw [hqueue] at hit
      cases hit
    | cons it₀ rest =>
      have hmem : it₀ ∈ s.keys.queue := hqueue ▸ List.mem_cons_self ..
      have hle : slot.order ≤ it₀.order := UInt32.not_lt.mp (hq it₀ (by rw [hqueue]; rfl))
      have hlt : slot.order < it₀.order := UInt32.lt_of_le_of_ne hle (hinv.apart slot hslot it₀ hmem)
      have hsorted := hinv.sorted
      rw [hqueue] at hit hsorted
      rcases List.mem_cons.mp hit with rfl | hit
      · exact hlt
      · exact UInt32.lt_trans hlt ((List.pairwise_cons.mp hsorted).1 it hit)
  refine {
    ctl := ?_, key := ?_, sorted := ?_, apart := ?_, sent := ?_, kept := ?_, bound := ?_
    described := hinv.described, replied := ?_, granted := ?_, keyTag := ?_, mediaTag := ?_, stream := ?_
    cover := ?_, fits := ?_, block := ?_ }
  · rw [hcounter]
    exact fun x hx => hinv.ctl x (hsub x hx)
  · rw [keys_freeSlot, hcounter]
    exact hinv.key
  · rw [keys_freeSlot]
    exact hinv.sorted
  · rw [keys_freeSlot]
    exact fun x hx => hinv.apart x (hsub x hx)
  · rw [keys_freeSlot, hcounter]
    rintro x ⟨hd, pl, hmem⟩
    rcases List.mem_cons.mp hmem with heq | hmem
    · obtain rfl : x = slot := by
        injection heq with horigin
        injection horigin
      exact ⟨(hinv.ctl x hslot).2, hfirst⟩
    · exact hinv.sent x ⟨hd, pl, hmem⟩
  · rw [session_freeSlot]
    intro ha x s' hx
    -- a frame that was queued is still queued, or it is the one that is sent
    rcases hinv.kept ha x s' (mem_of_silent rfl rfl hx) with hx | hx
    · rw [hold] at hx
      by_cases heq : x = slot
      · exact .inr ⟨h, p, heq ▸ List.mem_cons_self ..⟩
      · left
        rw [hnew]
        rcases List.mem_append.mp hx with hx | hx
        · exact List.mem_append_left _ hx
        · exact List.mem_append_right _ ((List.mem_cons.mp hx).resolve_left heq)
    · exact .inr (hx.cons _)
  · rw [hcounter]
    exact fun x s' hx => hinv.bound x s' (mem_of_silent rfl rfl hx)
  · intro s' hs
    obtain ⟨x, s'', hx, hrest⟩ := hinv.replied s' (mem_of_silent rfl rfl hs)
    exact ⟨x, s'', List.mem_cons_of_mem _ hx, hrest⟩
  · rw [keys_freeSlot]
    intro it hit
    obtain ⟨s', hs', hlt⟩ := hinv.granted it hit
    exact ⟨s', List.mem_cons_of_mem _ hs', hlt⟩
  · rw [keys_freeSlot]
    exact fun it hit => (hinv.keyTag it hit).silent rfl
  · rw [voice_freeSlot]
    exact fun it hit => (hinv.mediaTag it hit).silent rfl
  · rw [voice_freeSlot]
    exact fun hd => (hinv.stream hd).silent rfl
  · rw [keys_freeSlot]
    exact hinv.cover
  · rw [keys_freeSlot, device_freeSlot]
    exact hinv.fits
  · rw [device_freeSlot]
    exact fun hl => hinv.block hl.of_cons

end Control

/-! ## Sending keys and media -/

section Sending

variable {log : List Ev} {s : Server}

/-- The frame with the smallest number depends on nothing that is still queued. -/
lemma OrderInv.causalAt {order c : UInt32} (h : OrderInv (sess log) s)
    (ha : s.session.active = true) (ho : s.InOrder order) (ht : Tagged (sess log) order c) :
    CausalAt log order c := by
  have hbefore : ∀ slot s', Ev.queued slot s' ∈ sess log → slot.order < order →
      Sent (sess log) slot := by
    intro slot s' hq hlt
    rcases h.kept ha slot s' hq with hqueued | hsent
    · exact absurd hlt (ho slot hqueued)
    · exact hsent
  refine ⟨hbefore, fun s' hs => ?_⟩
  obtain ⟨slot, s'', hq, hdesc, hconn, hlt⟩ := ht s' hs
  exact ⟨slot, s'', hbefore slot s'' hq hlt, hdesc, hconn⟩

lemma OrderInv.keyCausalAt {item : KeyItem} (h : OrderInv (sess log) s)
    (ha : s.session.active = true) (ho : s.InOrder item.order) (hitem : item ∈ s.keys.queue) :
    KeyCausalAt log item := by
  have hcausal := h.causalAt ha ho (h.keyTag item hitem)
  have hnoticed : ∀ n slot s', (notices n (sess log)).find?
      (fun d => decide (d.1.order < item.order)) = some (slot, s') → Sent (sess log) slot ∧
        s'.device.connectionId = item.connection ∧
        Fits item.bits (slotCount s'.device.shownProfile) := by
    intro n slot s' hfind
    have hmem := List.mem_of_find?_eq_some hfind
    have hlt : slot.order < item.order := by simpa using List.find?_some hfind
    exact ⟨hcausal.before slot s' (mem_notices hmem).1 hlt, h.cover n item hitem _ hfind⟩
  refine ⟨hcausal, fun s' hs hlt => ?_, fun slot s' hfind => ?_, hnoticed .any, h.granted item hitem,
    fun slot hsent => (h.sent slot hsent).2 item hitem⟩
  · obtain ⟨slot, s'', hq, hkind, hop, hstatus, horder⟩ := h.replied s' hs
    exact ⟨slot, hcausal.before slot s'' hq (horder ▸ hlt), hkind, hop, hstatus, horder⟩
  · have hmem := h.described _ (List.mem_of_find?_eq_some hfind)
    rw [devices_eq] at hfind
    obtain ⟨hsent, hconn, hfits⟩ := hnoticed .event slot s' hfind
    exact ⟨hsent, hmem, hconn, hfits⟩

/-- A turn that is no exception is in order. -/
lemma OrderInv.inOrder {order : UInt32} (h : OrderInv (sess log) w.srv) (hlog : OrderKept b w.log)
    (ht : InTurn w order) : w.srv.InOrder order := by
  rcases ht with ho | hcrowded | hwrapped
  · exact ho
  · exact absurd hcrowded hlog.not_crowded
  · rcases hwrapped with ⟨slot, hslot, hzero⟩ | ⟨it, hit, hzero⟩
    · exact absurd hzero (h.ctl slot hslot).1
    · exact absurd hzero (h.key it hit).1

end Sending

/-! ## Queuing keys -/

/-- Key states are queued in the order of their numbers. -/
structure Ascending (s : Server) : Prop where
  sorted : s.keys.queue.Pairwise (·.order < ·.order)
  bound : ∀ it ∈ s.keys.queue, it.order ≤ s.orderCounter

/-- The step from `s` to `s'` takes at most `n` order numbers, and what it queues belongs to the current
connection and to the first `c` slots. -/
structure Appends (n c : Nat) (s s' : Server) : Prop where
  order_le : s.orderCounter.toNat ≤ s'.orderCounter.toNat
  order_add : s'.orderCounter.toNat ≤ s.orderCounter.toNat + n
  connection : s'.device.connectionId = s.device.connectionId
  items : ∀ it ∈ s'.keys.queue, it ∈ s.keys.queue ∨
    (s.orderCounter.toNat < it.order.toNat ∧ it.order.toNat ≤ s'.orderCounter.toNat ∧
      it.connection = s.device.connectionId ∧ Fits it.bits c)
  ascending : Ascending s → Ascending s'

section Keys

variable {s s' s'' : Server} {n m c : Nat}

lemma Appends.trans (h₁ : Appends n c s s') (h₂ : Appends m c s' s'') : Appends (n + m) c s s'' where
  order_le := h₁.order_le.trans h₂.order_le
  order_add := by
    have hn := h₁.order_add
    have hm := h₂.order_add
    omega
  connection := h₂.connection.trans h₁.connection
  items := by
    intro it hit
    rcases h₂.items it hit with hold | ⟨hlt, hle, hconn, hfits⟩
    · refine (h₁.items it hold).imp id fun ⟨hlt, hle, hrest⟩ => ⟨hlt, ?_, hrest⟩
      exact hle.trans h₂.order_le
    · exact .inr ⟨h₁.order_le.trans_lt hlt, hle, hconn.trans h₁.connection, hfits⟩
  ascending := h₂.ascending ∘ h₁.ascending

/-- A change that queues nothing. -/
lemma Appends.none (ho : s'.orderCounter = s.orderCounter) (hd : s'.device = s.device)
    (hq : s'.keys.queue.Sublist s.keys.queue) : Appends 0 c s s' where
  order_le := by rw [ho]
  order_add := by
    rw [ho]
    exact le_rfl
  connection := by rw [hd]
  items := fun _ hit => .inl (hq.subset hit)
  ascending := by
    intro h
    refine ⟨h.sorted.sublist hq, ?_⟩
    rw [ho]
    exact fun it hit => h.bound it (hq.subset hit)

lemma toNat_nextOrder (h : s.orderCounter.toNat + 1 < 2 ^ 32) :
    s.nextOrder.toNat = s.orderCounter.toNat + 1 := by
  unfold Server.nextOrder
  rw [UInt32.toNat_add, UInt32.toNat_one]
  exact Nat.mod_eq_of_lt h

lemma appends_keyPush {kind : KeysKind} {reason : KeysReason} {bits us : UInt64}
    (hn : s.orderCounter.toNat + 1 < 2 ^ 32) (hf : Fits bits c) :
    Appends 1 c s ((s.keyPush kind reason bits us).getD s) := by
  have hnext := toNat_nextOrder hn
  unfold Server.keyPush
  split
  · exact ⟨le_rfl, Nat.le_succ _, rfl, fun _ => .inl, id⟩
  · refine ⟨?_, ?_, rfl, fun it hit => ?_, fun h => ⟨?_, fun it hit => ?_⟩⟩
    · show s.orderCounter.toNat ≤ s.nextOrder.toNat
      omega
    · exact hnext.le
    · rcases List.mem_append.mp hit with hit | hit
      · exact .inl hit
      · obtain rfl := List.mem_singleton.mp hit
        exact .inr ⟨by show _ < s.nextOrder.toNat; omega, le_rfl, rfl, hf⟩
    · refine List.pairwise_append.mpr ⟨h.sorted, List.pairwise_singleton _ _, fun x hx y hy => ?_⟩
      obtain rfl := List.mem_singleton.mp hy
      have hle : x.order.toNat ≤ s.orderCounter.toNat := UInt32.le_iff_toNat_le.mp (h.bound x hx)
      refine UInt32.lt_iff_toNat_lt.mpr ?_
      show x.order.toNat < s.nextOrder.toNat
      omega
    · rcases List.mem_append.mp hit with hit | hit
      · have hle : it.order.toNat ≤ s.orderCounter.toNat := UInt32.le_iff_toNat_le.mp (h.bound it hit)
        refine UInt32.le_iff_toNat_le.mpr ?_
        show it.order.toNat ≤ s.nextOrder.toNat
        omega
      · obtain rfl := List.mem_singleton.mp hit
        exact UInt32.le_refl _

lemma fits_zero (c : Nat) : Fits 0 c := Nat.two_pow_pos c

/-- The two states with which a full queue starts again. -/
lemma appends_restart {us : UInt64} (hn : s.orderCounter.toNat + 2 < 2 ^ 32)
    (hp : Fits s.keys.pressedBits c) :
    Appends 2 c s
      ((((s.keyPush .reset .overflow 0 us).getD s).bumpInput.keyPush .snapshot .none
        ((s.keyPush .reset .overflow 0 us).getD s).bumpInput.keys.pressedBits us).getD
          ((s.keyPush .reset .overflow 0 us).getD s).bumpInput) := by
  have hfirst : Appends 1 c s ((s.keyPush .reset .overflow 0 us).getD s) :=
    appends_keyPush (by omega) (fits_zero c)
  have hkeep : ((s.keyPush .reset .overflow 0 us).getD s).keys.pressedBits = s.keys.pressedBits := by
    unfold Server.keyPush
    split <;> rfl
  generalize (s.keyPush .reset .overflow 0 us).getD s = s₁ at hfirst hkeep ⊢
  have hbump : Appends 0 c s₁ s₁.bumpInput := .none rfl rfl (List.Sublist.refl _)
  have hsofar := hfirst.trans hbump
  have hbits : Fits s₁.bumpInput.keys.pressedBits c := by
    have hsame : s₁.bumpInput.keys.pressedBits = s.keys.pressedBits := hkeep
    rw [hsame]
    exact hp
  have hle := hsofar.order_add
  exact hsofar.trans (appends_keyPush (by omega) hbits)

lemma appends_keysEmit {kind : KeysKind} {reason : KeysReason} {bits us : UInt64}
    (hn : s.orderCounter.toNat + 2 < 2 ^ 32) (hf : Fits bits c) (hp : Fits s.keys.pressedBits c) :
    Appends 2 c s (s.keysEmit kind reason bits us) := by
  unfold Server.keysEmit
  split
  · exact ⟨le_rfl, Nat.le_add_right _ _, rfl, fun _ => .inl, id⟩
  · cases hpush : s.keyPush kind reason bits us with
    | some s₁ =>
      have happ : Appends 1 c s ((s.keyPush kind reason bits us).getD s) :=
        appends_keyPush (by omega) hf
      rw [hpush] at happ
      exact ⟨happ.order_le, happ.order_add.trans (by omega), happ.connection, happ.items, happ.ascending⟩
    | none =>
      have hclear : Appends 0 c s (Server.bumpInput { s with
          keys := { s.keys with queue := [] },
          stats := s.stats.count .inputResets }) :=
        .none rfl rfl (List.nil_sublist _)
      exact hclear.trans (appends_restart hn hp)

lemma appends_applyKeys {rep : KeysReport} (hn : s.ordersLeft = true)
    (hf : Fits rep.pressedBits c) (hp : Fits s.keys.pressedBits c) :
    Appends 4 c s (s.applyKeys rep) := by
  have hbound : s.orderCounter.toNat + 4 < 2 ^ 32 := of_decide_eq_true hn
  have hweaken : ∀ {t : Server}, Appends 2 c s t → Appends 4 c s t := fun h =>
    ⟨h.order_le, h.order_add.trans (by omega), h.connection, h.items, h.ascending⟩
  unfold Server.applyKeys
  split
  · have hset : Appends 0 c s (((s.setPressed rep.pressedBits).bumpInput).setCaptured rep.capturedUs) :=
      .none rfl rfl (List.Sublist.refl _)
    refine hweaken (hset.trans (appends_keysEmit ?_ hf hf))
    show s.orderCounter.toNat + 2 < 2 ^ 32
    omega
  · have hset : Appends 0 c s (s.bumpInput.setCaptured rep.capturedUs) := .none rfl rfl (List.Sublist.refl _)
    have hbound' : (s.bumpInput.setCaptured rep.capturedUs).orderCounter.toNat + 2 < 2 ^ 32 := by
      show s.orderCounter.toNat + 2 < 2 ^ 32
      omega
    have hfirst : Appends (0 + 2) c s ((s.bumpInput.setCaptured rep.capturedUs).keysEmit .reset
        rep.reason 0 rep.capturedUs) := hset.trans (appends_keysEmit hbound' (fits_zero c) hp)
    dsimp only
    generalize (s.bumpInput.setCaptured rep.capturedUs).keysEmit .reset rep.reason 0
      rep.capturedUs = s₁ at hfirst ⊢
    split
    · have hset' : Appends 0 c s₁ (s₁.setPressed rep.pressedBits).bumpInput :=
        .none rfl rfl (List.Sublist.refl _)
      refine (hfirst.trans hset').trans (appends_keysEmit ?_ hf hf)
      have hle := hfirst.order_add
      show s₁.orderCounter.toNat + 2 < 2 ^ 32
      omega
    · have hset' : Appends 0 c s₁ (s₁.setPressed 0) := .none rfl rfl (List.Sublist.refl _)
      exact hweaken (hfirst.trans hset')
  · have hset : Appends 0 c s ((s.setPressed rep.pressedBits).setCaptured rep.capturedUs) :=
      .none rfl rfl (List.Sublist.refl _)
    refine hweaken (hset.trans (appends_keysEmit ?_ hf hf))
    show s.orderCounter.toNat + 2 < 2 ^ 32
    omega

lemma appends_enableEvents (hn : s.ordersLeft = true) (hp : Fits s.keys.pressedBits c) :
    Appends 2 c s s.enableEvents := by
  have hbound : s.orderCounter.toNat + 4 < 2 ^ 32 := of_decide_eq_true hn
  have hset : Appends 0 c s { s with keys := { s.keys with enabled := true } } :=
    .none rfl rfl (List.Sublist.refl _)
  refine hset.trans (appends_keysEmit ?_ hp hp)
  show s.orderCounter.toNat + 2 < 2 ^ 32
  omega

lemma pressed_keysEmit (kind : KeysKind) (reason : KeysReason) (bits us : UInt64) :
    (s.keysEmit kind reason bits us).keys.pressedBits = s.keys.pressedBits := by
  have hpush : ∀ (t : Server) (kind : KeysKind) (reason : KeysReason) (bits : UInt64),
      ((t.keyPush kind reason bits us).getD t).keys.pressedBits = t.keys.pressedBits := by
    intro t kind reason bits
    unfold Server.keyPush
    split <;> rfl
  unfold Server.keysEmit
  split
  · rfl
  · cases h : s.keyPush kind reason bits us with
    | some s₁ =>
      have hone := hpush s kind reason bits
      rw [h] at hone
      exact hone
    | none =>
      unfold Server.keysOverflow
      dsimp only [Option.getD_none]
      rw [hpush]
      exact hpush _ _ _ _

/-- The pressed set is the reported one. -/
lemma pressed_applyKeys (rep : KeysReport) : (s.applyKeys rep).keys.pressedBits = rep.pressedBits := by
  unfold Server.applyKeys
  split
  · rw [pressed_keysEmit]
    rfl
  · dsimp only
    split
    · rw [pressed_keysEmit]
      rfl
    · next hzero =>
      have hnone : rep.pressedBits = 0 := by simpa using hzero
      exact hnone.symm
  · rw [pressed_keysEmit]
    rfl

/-- Key states are queued, and the last `DEVICE_STATE` has their connection and their slots. -/
lemma OrderInv.appends {l : List Ev} (h : OrderInv l s) (ha : Appends n c s s') (hs : OnlyKeys s s')
    (hp : Fits s'.keys.pressedBits (slotCount s.device.profile))
    (hcur : s'.keys.queue = s.keys.queue ∨ (Known l s.device.connectionId ∧
      (∀ n d, (notices n l).head? = some d → d.2.device.connectionId = s.device.connectionId ∧
        slotCount d.2.device.shownProfile = c) ∧
      ∃ s₀, Ev.subscribed s₀ ∈ l ∧ s₀.orderCounter ≤ s.orderCounter)) : OrderInv l s' := by
  have hctl : s'.ctlQueued = s.ctlQueued := by rw [Server.ctlQueued, hs.ctl, Server.ctlQueued]
  have hle : s.orderCounter ≤ s'.orderCounter := UInt32.le_iff_toNat_le.mpr ha.order_le
  -- a key state of the new queue is an old one, or younger than all that was there
  have hnew : ∀ it ∈ s'.keys.queue, it ∈ s.keys.queue ∨
      (s.orderCounter < it.order ∧ it.order ≤ s'.orderCounter ∧
        it.connection = s.device.connectionId ∧ Fits it.bits c ∧ Known l s.device.connectionId ∧
        (∀ n d, (notices n l).head? = some d → d.2.device.connectionId = s.device.connectionId ∧
          slotCount d.2.device.shownProfile = c) ∧
        ∃ s₀, Ev.subscribed s₀ ∈ l ∧ s₀.orderCounter ≤ s.orderCounter) := by
    intro it hit
    rcases hcur with hsame | hcur
    · exact .inl (hsame ▸ hit)
    · rcases ha.items it hit with hold | ⟨hlt, hle, hconn, hfits⟩
      · exact .inl hold
      · exact .inr ⟨UInt32.lt_iff_toNat_lt.mpr hlt, UInt32.le_iff_toNat_le.mpr hle, hconn, hfits, hcur⟩
  -- so it is younger than whatever is bounded by the old counter
  have hyounger : ∀ {o : UInt32}, o ≤ s.orderCounter → ∀ it ∈ s'.keys.queue, it ∉ s.keys.queue →
      o < it.order := by
    intro o ho it hit hnot
    rcases hnew it hit with hold | ⟨hlt, -⟩
    · exact absurd hold hnot
    · exact UInt32.lt_of_le_of_lt ho hlt
  have hascending := ha.ascending ⟨h.sorted, fun it hit => (h.key it hit).2⟩
  refine {
    ctl := ?_, key := ?_, sorted := hascending.sorted, apart := ?_, sent := ?_, kept := ?_, bound := ?_
    described := h.described, replied := h.replied, granted := ?_, keyTag := ?_, mediaTag := ?_
    stream := ?_, cover := ?_, fits := ?_, block := ?_ }
  · rw [hctl]
    exact fun slot hslot => ⟨(h.ctl slot hslot).1, UInt32.le_trans (h.ctl slot hslot).2 hle⟩
  · intro it hit
    rcases hnew it hit with hold | ⟨hlt, hle', -⟩
    · exact ⟨(h.key it hold).1, UInt32.le_trans (h.key it hold).2 hle⟩
    · refine ⟨fun hzero => ?_, hle'⟩
      rw [hzero] at hlt
      exact absurd hlt (UInt32.not_lt.mpr (UInt32.zero_le))
  · rw [hctl]
    intro slot hslot it hit
    by_cases hold : it ∈ s.keys.queue
    · exact h.apart slot hslot it hold
    · exact UInt32.ne_of_lt (hyounger (h.ctl slot hslot).2 it hit hold)
  · intro slot hsent
    refine ⟨UInt32.le_trans (h.sent slot hsent).1 hle, fun it hit => ?_⟩
    by_cases hold : it ∈ s.keys.queue
    · exact (h.sent slot hsent).2 it hold
    · exact hyounger (h.sent slot hsent).1 it hit hold
  · rw [hctl, hs.session]
    exact h.kept
  · exact fun slot s'' hq => UInt32.le_trans (h.bound slot s'' hq) hle
  · intro it hit
    rcases hnew it hit with hold | ⟨hlt, -, -, -, -, -, s₀, hs₀, hle'⟩
    · exact h.granted it hold
    · exact ⟨s₀, hs₀, UInt32.lt_of_le_of_lt hle' hlt⟩
  · intro it hit
    rcases hnew it hit with hold | ⟨hlt, -, hconn, -, hknown, -⟩
    · exact h.keyTag it hold
    · rw [hconn]
      intro t ht
      obtain ⟨slot, t', hq, hdesc, hid⟩ := hknown t ht
      exact ⟨slot, t', hq, hdesc, hid, UInt32.lt_of_le_of_lt (h.bound slot t' hq) hlt⟩
  · rw [hs.voice]
    exact h.mediaTag
  · rw [hs.voice]
    exact h.stream
  · intro n it hit
    rcases hnew it hit with hold | ⟨hlt, -, hconn, hfits, -, hlatest, -⟩
    · exact h.cover n it hold
    · -- every notice is older than a new state, so the last one counts
      intro d hfind
      cases hdev : notices n l with
      | nil =>
        rw [hdev] at hfind
        cases hfind
      | cons d₀ ds =>
        have hmem : d₀ ∈ notices n l := hdev ▸ List.mem_cons_self ..
        have hold : d₀.1.order < it.order :=
          UInt32.lt_of_le_of_lt (h.bound _ _ (mem_notices hmem).1) hlt
        rw [hdev, List.find?_cons_of_pos (by simpa using hold)] at hfind
        obtain rfl := Option.some.inj hfind
        obtain ⟨hid, hcount⟩ := hlatest n d₀ (by rw [hdev]; rfl)
        rw [hid, hcount, hconn]
        exact ⟨rfl, hfits⟩
  · rw [hs.device]
    exact hp
  · rw [hs.device]
    exact h.block

end Keys

/-! ## Steps -/

section Steps

variable {r r' : Prop}

/-- A silent event. -/
lemma Ordered.note (hw : Ordered b r w) (e : Ev) (he : e.silent = true) (hs : e.unsent = true)
    (hc : CausalLog w.log → OrderInv (sess w.log) w.srv → OrderKept b w.log → e.causalAfter w.log) :
    Ordered b r (w.note e) := by
  intro hkept
  obtain ⟨hlog, hinv, hcur⟩ := hw hkept.of_cons
  rw [log_note, srv_note, sess_cons_within (within_of_silent he)]
  exact ⟨causalLog_cons hlog (hc hlog hinv hkept.of_cons), hinv.silent he hs, hcur.silent he⟩

/-- A silent event that is no frame. -/
def Ev.plain : Ev → Bool
  | .emitted _ _ _ => false
  | e => e.silent

lemma Ordered.plain (hw : Ordered b r w) (e : Ev) (he : e.plain = true) : Ordered b r (w.note e) := by
  refine hw.note e ?_ ?_ fun _ _ _ => ?_
  · cases e <;> first | exact he | cases he
  · cases e <;> first | rfl | cases he
  · cases e <;> trivial

/-- A change of the server that queues and announces nothing. -/
lemma Ordered.shrink (hw : Ordered b r w) (f : Server → Server) (hs : Shrinks w.srv (f w.srv))
    (he : (f w.srv).keys.enabled = true → w.srv.keys.enabled = true)
    (hc : (f w.srv).device.connectionId = w.srv.device.connectionId)
    (hl : (f w.srv).device.linkState = w.srv.device.linkState) : Ordered b r (w.act f) := by
  intro hkept
  obtain ⟨hlog, hinv, hcur⟩ := hw hkept
  exact ⟨hlog, hinv.shrink hs, hcur.shrink he hc hl hs.profile (hs.order ▸ UInt32.le_refl _)⟩

/-- A change outside of the queues, the link, the keys and the stream. -/
lemma Ordered.act (hw : Ordered b r w) (f : Server → Server) (hq : Quiet w.srv (f w.srv)) :
    Ordered b r (w.act f) := by
  have hfield {β : Type} (g : Voice → β) : g (f w.srv).voice.core = g w.srv.voice.core :=
    congrArg g hq.stream
  refine hw.shrink f ⟨?_, hq.order, ?_, ?_, ?_, ?_, ?_, hq.profile, .inl hq.connection⟩ ?_ hq.connection
    hq.link
  · rw [Server.ctlQueued, hq.ctl, Server.ctlQueued]
  · rw [hq.session]
    exact id
  · rw [hq.keys]
  · have hmedia : (f w.srv).voice.media = w.srv.voice.media := hfield Voice.media
    rw [hmedia]
    exact List.Subset.refl _
  · exact fun hd => ⟨(hfield Voice.delivering).symm.trans hd, hfield Voice.streamConnection⟩
  · rw [hq.keys]
  · rw [hq.keys]
    exact id

/-- A change of the ring alone. -/
lemma shrinks_ring {s s' : Server} (hc : s'.ctl = s.ctl) (ho : s'.orderCounter = s.orderCounter)
    (hs : s'.session.active = s.session.active) (hk : s'.keys = s.keys) (hv : s'.voice = s.voice)
    (hd : s'.device = s.device) : Shrinks s s' where
  ctl := by rw [Server.ctlQueued, hc, Server.ctlQueued]
  order := ho
  active := by
    rw [hs]
    exact id
  queue := by rw [hk]
  media := by
    rw [hv]
    exact List.Subset.refl _
  stream := by
    rw [hv]
    exact fun hd => ⟨hd, rfl⟩
  pressed := by rw [hk]
  profile := by rw [hd]
  connection := .inl (by rw [hd])

lemma Ordered.same (hw : Ordered b r w) (f : Server → Server) (hc : (f w.srv).ctl = w.srv.ctl)
    (ho : (f w.srv).orderCounter = w.srv.orderCounter)
    (hs : (f w.srv).session.active = w.srv.session.active) (hk : (f w.srv).keys = w.srv.keys)
    (hv : (f w.srv).voice = w.srv.voice) (hd : (f w.srv).device = w.srv.device) :
    Ordered b r (w.act f) := by
  refine hw.shrink f (shrinks_ring hc ho hs hk hv hd) ?_ ?_ ?_
  · rw [hk]
    exact id
  · rw [hd]
  · rw [hd]

lemma Ordered.retires (hw : Ordered b r w) (hr : Retires w w') : Ordered b r w' := by
  have hend := hw.same Server.endOp rfl rfl rfl rfl rfl rfl
  cases hr with
  | plain _ => exact hend
  | cancel _ _ => exact (hend.same _ rfl rfl rfl rfl rfl rfl).plain _ rfl

/-- A frame that is queued now is younger than all that were. -/
lemma OrderInv.youngest {slot : CtlSlot} (hinv : OrderInv (sess w.log) w.srv)
    (ho : slot.order = w.srv.nextOrder) (hne : slot.order ≠ 0) :
    (Ev.queued slot w.srv).causalAfter w.log := by
  intro x s hx
  rw [ho] at hne ⊢
  exact lt_nextOrder hne (hinv.bound x s hx)

/-- A control frame that is no `DEVICE_STATE` is queued; an answer that describes the device is up to date
as long as the link is ready. -/
lemma Ordered.queue {slot : CtlSlot} {len : Nat} (hw : Ordered b r w)
    (hf : w.srv.ctlFits b len = true) (hu : slot.used = true) (ho : slot.order = w.srv.nextOrder)
    (hd : slot.isDevice = false) (hr : slot.isReport = false ∨ Gates b True w) :
    Ordered b r (w.queue slot) := by
  intro hkept
  have hne : slot.order ≠ 0 := by simpa [Ev.keepsOrder] using hkept _ (List.mem_cons_self ..)
  obtain ⟨hlog, hinv, hcur⟩ := hw hkept.of_cons
  have hready : slot.isReport = true → w.srv.keys.enabled = true →
      w.srv.device.linkState = .ready := by
    intro hreport he
    rcases hr with hno | hg
    · exact nomatch hno.symm.trans hreport
    · exact (hg hkept.of_cons.granted).ready trivial he
  have hsess : sess (w.queue slot).log = .queued slot w.srv :: sess w.log := sess_cons_within rfl _
  rw [hsess]
  refine ⟨causalLog_cons hlog (hinv.youngest ho hne), ?_, hcur.queue hf (ho ▸ hne) hd hready⟩
  exact hinv.queue hf hu ho hne fun h => nomatch hd.symm.trans h

/-- What is known while the state of the device changes, until it is announced again. -/
structure Changing (l : List Ev) (s : Server) : Prop where
  inv : OrderInv l s
  granted : s.keys.enabled = true → ∃ s₀, Ev.subscribed s₀ ∈ l ∧ s₀.orderCounter ≤ s.orderCounter

lemma Ordered.changing (hw : Ordered b r w) (hkept : OrderKept b w.log) :
    CausalLog w.log ∧ Changing (sess w.log) w.srv :=
  ⟨(hw hkept).1, (hw hkept).2.1, (hw hkept).2.2.granted⟩

/-- A `DEVICE_STATE` is queued; nothing has to be up to date before. -/
lemma ordered_device {connCtx : UInt32} (hw : OrderKept b w.log → CausalLog w.log ∧
      Changing (sess w.log) w.srv) (hf : w.srv.ctlFits b w.srv.deviceInfoTlv.length = true)
    (hready : ¬ Unsubscribed b w.log → w.srv.keys.enabled = true → w.srv.device.linkState = .ready) :
    Ordered b r (w.queue (w.srv.deviceSlot connCtx)) := by
  intro hkept
  have hne : (w.srv.deviceSlot connCtx).order ≠ 0 := by
    simpa [Ev.keepsOrder] using hkept _ (List.mem_cons_self ..)
  obtain ⟨hlog, hinv, hgranted⟩ := hw hkept.of_cons
  have hsess : sess (w.queue (w.srv.deviceSlot connCtx)).log =
      .queued (w.srv.deviceSlot connCtx) w.srv :: sess w.log := sess_cons_within rfl _
  rw [hsess]
  exact ⟨causalLog_cons hlog (hinv.youngest rfl hne), hinv.queue hf rfl rfl hne fun _ => rfl,
    current_device hf hne rfl rfl (hready hkept.of_cons.granted) hgranted⟩

@[simp] lemma ctlQueued_withdraw (s : Server) : (s.withdraw b).ctlQueued = [] := by
  unfold Server.withdraw Server.ctlQueued
  dsimp only [Server.stopDelivery, Server.ctlClear]
  split <;> simp

/-- A session ends. -/
lemma ordered_withdraw (hw : OrderKept b w.log → CausalLog w.log ∧ OrderInv (sess w.log) w.srv) :
    Ordered b r (w.withdraw b) := by
  intro hkept
  obtain ⟨hlog, hinv⟩ := hw hkept.of_cons
  have hsess : sess (w.withdraw b).log = [] := sess_cons_not_within rfl _
  rw [hsess]
  refine ⟨causalLog_cons hlog trivial, orderInv_nil ?_ ?_ ?_ ?_, current_nil ?_⟩
  · simp [World.withdraw]
  · simp [World.withdraw]
  · simp [World.withdraw]
  · simpa [World.withdraw] using hinv.fits
  · simp [World.withdraw]

lemma Ordered.withdraw (hw : Ordered b r w) : Ordered b r' (w.withdraw b) :=
  ordered_withdraw fun hkept => ⟨(hw hkept).1, (hw hkept).2.1⟩

/-- The state of the device is announced. -/
lemma ordered_announce {connCtx : UInt32} (hw : OrderKept b w.log → CausalLog w.log ∧
      Changing (sess w.log) w.srv)
    (hready : ¬ Unsubscribed b w.log → w.srv.keys.enabled = true → w.srv.device.linkState = .ready) :
    Ordered b r (w.announce b connCtx) := by
  rcases announce_cases (b := b) connCtx w with ⟨hf, heq⟩ | heq
  · rw [heq]
    exact ordered_device hw hf hready
  · rw [heq]
    refine ordered_withdraw (w := w.act Server.protocolError) fun hkept => ?_
    obtain ⟨hlog, hinv, -⟩ := hw hkept
    exact ⟨hlog, hinv.shrink (shrinks_ring rfl rfl rfl rfl rfl rfl)⟩

lemma Ordered.keys (hw : Ordered b r w) (rep : KeysReport) : Ordered b r (onKeys rep w) := by
  intro hkept
  have hok := hkept _ (List.mem_cons_self ..)
  simp only [Ev.keepsOrder, Bool.and_eq_true, decide_eq_true_eq] at hok
  obtain ⟨hlog, hinv, hcur⟩ := hw hkept.of_cons
  have hsame := onlyKeys_applyKeys w.srv rep
  have happ := appends_applyKeys hok.1 hok.2 hinv.fits
  have hsess : sess (onKeys rep w).log = .keys rep w.srv :: sess w.log := sess_cons_within rfl _
  have henabled : (w.srv.applyKeys rep).keys.enabled = true → w.srv.keys.enabled = true := by
    intro he
    by_contra hd
    rw [(applyKeys_disabled (Bool.eq_false_iff.mpr hd) rep).1] at he
    cases he
  rw [hsess]
  refine ⟨causalLog_cons hlog trivial, ?_, ?_⟩
  · refine (hinv.appends happ hsame ?_ ?_).silent rfl rfl
    · rw [pressed_applyKeys]
      exact hok.2
    · cases he : w.srv.keys.enabled with
      | false => exact .inl (applyKeys_disabled he rep).2
      | true => exact .inr ⟨hcur.known (.inr he), hcur.latest (.inr he), hcur.granted he⟩
  · exact (hcur.shrink henabled (congrArg Device.connectionId hsame.device)
      (congrArg Device.linkState hsame.device) (congrArg Device.profile hsame.device)
      (UInt32.le_iff_toNat_le.mpr happ.order_le)).silent rfl

/-- A change of the voice that queues nothing and opens no stream. -/
lemma Ordered.voiced (hw : Ordered b r w) (f : Server → Server) (hf : OnlyVoice w.srv (f w.srv))
    (hm : (f w.srv).voice.media ⊆ w.srv.voice.media)
    (hs : (f w.srv).voice.delivering = true → w.srv.voice.delivering = true ∧
      (f w.srv).voice.streamConnection = w.srv.voice.streamConnection) : Ordered b r (w.act f) := by
  refine hw.shrink f ⟨?_, hf.orderCounter, ?_, ?_, hm, hs, ?_, ?_, ?_⟩ ?_ ?_ ?_
  · rw [Server.ctlQueued, hf.ctl, Server.ctlQueued]
  · rw [hf.session]
    exact id
  · rw [hf.keys]
  · rw [hf.keys]
  · rw [hf.device]
  · exact .inl (by rw [hf.device])
  · rw [hf.keys]
    exact id
  · rw [hf.device]
  · rw [hf.device]

lemma Ordered.setVoice (hw : Ordered b r w) {v : Voice} (f : Server → Server)
    (hf : f w.srv = { w.srv with voice := v }) (hm : v.media = w.srv.voice.media)
    (hd : v.delivering = w.srv.voice.delivering)
    (hc : v.streamConnection = w.srv.voice.streamConnection) : Ordered b r (w.act f) := by
  refine hw.voiced f ?_ ?_ ?_
  · rw [hf]
    exact ⟨rfl, rfl, rfl, rfl, rfl, rfl, rfl, rfl, rfl, rfl, rfl, rfl⟩
  · rw [hf]
    exact hm ▸ List.Subset.refl _
  · rw [hf]
    exact fun h => ⟨hd ▸ h, hc⟩

/-- A frame is written to the ring, before its item leaves the queue. -/
lemma Ordered.emit {origin : Origin} {h : Header} {payload : List UInt8} (hw : Ordered b r w)
    (bytes : List UInt8) (next : UInt32) (hs : ∀ h', (Ev.emitted origin h' payload).unsent = true)
    (hc : CausalLog w.log → OrderInv (sess w.log) w.srv → OrderKept b w.log →
      ∀ h', (Ev.emitted origin h' payload).causalAfter w.log) :
    Ordered b r (w.emit b origin h payload bytes next) := by
  have hput : Ordered b r (w.act (·.putFrame b bytes next)) := hw.same _ rfl rfl rfl rfl rfl rfl
  exact hput.note _ rfl (hs _) fun hlog _ hkept => hc hlog (hw hkept).2.1 hkept _

/-- A key state is sent. -/
lemma Ordered.emitKey {item : KeyItem} {rest : List KeyItem} (hw : Ordered b r w)
    (hg : Gates b r w) (hq : w.srv.keys.queue = item :: rest) (ht : InTurn w item.order)
    (h : Header) (bytes : List UInt8) (next : UInt32) :
    Ordered b r ((w.emit b (.key item) h item.buf bytes next).act Server.popKey) := by
  have hemit : Ordered b r (w.emit b (.key item) h item.buf bytes next) := by
    refine hw.emit bytes next (fun _ => rfl) fun _ hinv hkept h' => ?_
    have hactive : w.srv.session.active = true := by
      by_contra hidle
      have hempty := ((hg hkept.granted).idle (Bool.eq_false_iff.mpr hidle)).2
      rw [hq] at hempty
      cases hempty
    exact hinv.keyCausalAt hactive (hinv.inOrder hkept ht) (hq ▸ List.mem_cons_self ..)
  exact hemit.shrink Server.popKey ⟨rfl, rfl, id, List.tail_sublist _, List.Subset.refl _,
    fun hd => ⟨hd, rfl⟩, rfl, rfl, .inl rfl⟩ id rfl rfl

/-- A media item is sent. -/
lemma Ordered.emitMedia {item : MediaItem} {rest : List MediaItem} (hw : Ordered b r w)
    (ha : w.srv.session.active = true) (hq : w.srv.voice.media = item :: rest)
    (ht : InTurn w item.order) (h : Header) (bytes : List UInt8) (next : UInt32) :
    Ordered b r ((w.emit b (.media item) h item.payload bytes next).act (Server.popMedia item)) := by
  have hemit : Ordered b r (w.emit b (.media item) h item.payload bytes next) := by
    refine hw.emit bytes next (fun _ => rfl) fun _ hinv hkept h' => ?_
    exact hinv.causalAt ha (hinv.inOrder hkept ht)
      (hinv.mediaTag item (hq ▸ List.mem_cons_self ..))
  refine hemit.voiced _ (onlyVoice_popMedia _ item) ?_ fun hd => ⟨delivering_popMedia hd, ?_⟩
  · rw [media_popMedia]
    exact (List.tail_sublist _).subset
  · have hsame := congrArg Voice.streamConnection (source_popMedia item
      (w.emit b (.media item) h item.payload bytes next).srv)
    exact hsame

/-- A control frame is sent. -/
lemma Ordered.emitCtl {i : Nat} {slot : CtlSlot} (hw : Ordered b r w)
    (hi : w.srv.ctl[i]? = some slot) (hu : slot.used = true)
    (hq : ∀ it ∈ w.srv.keys.queue.head?, ¬ it.order < slot.order) (h : Header) (bytes : List UInt8)
    (next : UInt32) :
    Ordered b r ((w.emit b (.ctl slot) h slot.payload bytes next).act (Server.freeSlot i)) := by
  intro hkept
  have hput : Ordered b r (w.act (·.putFrame b bytes next)) := hw.same _ rfl rfl rfl rfl rfl rfl
  obtain ⟨hlog, hinv, hcur⟩ := hput hkept.of_cons
  have hsess : ∀ h' p, sess (.emitted (.ctl slot) h' p :: w.log) =
      .emitted (.ctl slot) h' p :: sess w.log := fun _ _ => sess_cons_within rfl _
  refine ⟨causalLog_cons hlog trivial, ?_, ?_⟩
  · rw [log_act, World.emit, log_note, log_act, hsess]
    exact hinv.emitCtl hi hu hq
  · rw [log_act, World.emit, log_note, log_act, hsess]
    refine (hcur.shrink ?_ ?_ ?_ ?_ ?_).silent rfl
    · rw [srv_act, keys_freeSlot]
      exact id
    · rw [srv_act, device_freeSlot]
      rfl
    · rw [srv_act, device_freeSlot]
      rfl
    · rw [srv_act, device_freeSlot]
      rfl
    · exact (orderCounter_freeSlot _ i).symm ▸ UInt32.le_refl _

/-! ## Streams -/

/-- A pump that keeps the session begins no connection. -/
lemma Moves.pump_known {c : UInt32} (h : Moves b 0 w w') (ha : w'.srv.session.active = true)
    (hc : Known (sess w.log) c) : Known (sess w'.log) c := by
  have hnote : ∀ {e : Ev} {l : List Ev}, e.silent = true → Known (sess l) c →
      Known (sess (e :: l)) c := by
    intro e l he hl
    rw [sess_cons_within (within_of_silent he)]
    exact hl.silent he
  generalize hk : 0 = k at h
  induction h with
  | refl => exact hc
  | send _ _ _ _ ih => exact hnote rfl (ih ha hc hk)
  | flush _ _ ih => exact hnote rfl (ih ha hc hk)
  | emitCtl _ _ _ _ _ _ _ _ _ _ _ ih =>
    simp only [srv_act, World.emit, srv_note, session_freeSlot, Server.putFrame] at ha
    exact hnote rfl (ih ha hc hk)
  | emitKey _ _ _ _ _ _ _ _ _ ih => exact hnote rfl (ih ha hc hk)
  | emitMedia _ _ _ _ _ _ _ _ _ _ ih => exact hnote rfl (ih ha hc hk)
  | teardown _ hr _ _ => exact absurd ha (by simp [hr.inactive (by simp [World.withdraw])])
  | _ => omega

/-- A media item is queued. -/
lemma OrderInv.push {l : List Ev} {s : Server} {op : EventOp} {payload : List UInt8}
    (h : OrderInv l s) (hne : s.nextOrder ≠ 0) (hknown : Known l s.voice.streamConnection) :
    OrderInv l (s.putMedia (s.mediaItem op payload)) where
  ctl := fun x hx => ⟨(h.ctl x hx).1, UInt32.le_of_lt (lt_nextOrder hne (h.ctl x hx).2)⟩
  key := fun it hit => ⟨(h.key it hit).1, UInt32.le_of_lt (lt_nextOrder hne (h.key it hit).2)⟩
  sorted := h.sorted
  apart := h.apart
  sent := fun x hx => ⟨UInt32.le_of_lt (lt_nextOrder hne (h.sent x hx).1), (h.sent x hx).2⟩
  kept := h.kept
  bound := fun slot s' hq => UInt32.le_of_lt (lt_nextOrder hne (h.bound slot s' hq))
  described := h.described
  replied := h.replied
  granted := h.granted
  keyTag := h.keyTag
  mediaTag := by
    intro it hit
    rcases List.mem_append.mp hit with hold | hnew
    · exact h.mediaTag it hold
    · obtain rfl := List.mem_singleton.mp hnew
      intro s' hs
      obtain ⟨slot, s'', hq, hdesc, hid⟩ := hknown s' hs
      exact ⟨slot, s'', hq, hdesc, hid, lt_nextOrder hne (h.bound slot s'' hq)⟩
  stream := h.stream
  cover := h.cover
  fits := h.fits
  block := h.block

lemma Ordered.push (hw : Ordered b r w) (op : EventOp) (payload : List UInt8)
    (hknown : OrderKept b w.log → Known (sess w.log) w.srv.voice.streamConnection) :
    Ordered b r (w.pushMedia op payload) := by
  intro hkept
  have hne : w.srv.nextOrder ≠ 0 := by
    have hok := hkept _ (List.mem_cons_self ..)
    simpa [Ev.keepsOrder, Server.mediaItem] using hok
  obtain ⟨hlog, hinv, hcur⟩ := hw hkept.of_cons
  have hsess : sess (w.pushMedia op payload).log =
      .media (w.srv.mediaItem op payload) w.srv.voice.acceptedCodecs w.srv.voice.acceptedMaxUnit ::
        sess w.log := sess_cons_within rfl _
  rw [hsess]
  refine ⟨causalLog_cons hlog trivial, (hinv.push hne (hknown hkept.of_cons)).silent rfl rfl, ?_⟩
  have hshrink : Current r (sess w.log) (w.srv.putMedia (w.srv.mediaItem op payload)) :=
    hcur.shrink id rfl rfl rfl (UInt32.le_of_lt (lt_nextOrder hne (UInt32.le_refl _)))
  exact hshrink.silent rfl

/-- An item of the open stream is queued behind a pump. -/
lemma Ordered.pushed (hw : Ordered b r w) (hw' : Ordered b r w') (hf : Moves b 0 w w')
    (ha : w'.srv.session.active = true) (hd : w.srv.voice.delivering = true) (op : EventOp)
    (payload : List UInt8) : Ordered b r (w'.pushMedia op payload) := by
  refine hw'.push op payload fun hkept => ?_
  have hbefore : OrderKept b w.log := fun e he => hkept e (hf.log_mono he)
  have hsame : w'.srv.voice.streamConnection = w.srv.voice.streamConnection := by
    have hsource := congrArg Voice.streamConnection (hf.pump_keeps ha).1
    exact hsource
  rw [hsame]
  exact hf.pump_known ha ((hw hbefore).2.1.stream hd)

/-- A stream is opened on the current connection. -/
lemma Ordered.openStream (hw : Ordered b r w) (hr : r) : Ordered b r (w.act Server.openStream) := by
  intro hkept
  obtain ⟨hlog, hinv, hcur⟩ := hw hkept
  refine ⟨hlog, ?_, hcur.shrink id rfl rfl rfl (UInt32.le_refl _)⟩
  exact { hinv with stream := fun _ => hcur.known (.inl hr) }

lemma Ordered.discard (hw : Ordered b r w) : Ordered b r (w.act Server.mediaDiscardCurrent) := by
  refine hw.voiced _ ⟨rfl, rfl, rfl, rfl, rfl, rfl, rfl, rfl, rfl, rfl, rfl, rfl⟩ ?_ fun hd => ⟨hd, rfl⟩
  exact List.filter_sublist.subset

lemma Ordered.endQueued (hw : Ordered b r w) (cut : Bool) :
    Ordered b r (w.act (Server.endQueued cut)) := by
  refine hw.voiced _ (onlyVoice_endQueued _ cut) ?_ ?_
  · cases cut <;> exact List.Subset.refl _
  · cases cut
    · exact fun hd => ⟨hd, rfl⟩
    · exact nofun

lemma Ordered.dataQueued (hw : Ordered b r w) (size samples : UInt32) (take : Nat) :
    Ordered b r (w.act (Server.dataQueued size samples take)) := by
  have hsame : (w.srv.dataQueued size samples take).voice.media = w.srv.voice.media ∧
      (w.srv.dataQueued size samples take).voice.delivering = w.srv.voice.delivering ∧
      (w.srv.dataQueued size samples take).voice.streamConnection =
        w.srv.voice.streamConnection := by
    unfold Server.dataQueued
    dsimp only
    split <;> exact ⟨rfl, rfl, rfl⟩
  refine hw.voiced _ (onlyVoice_dataQueued _ size samples take) ?_ fun hd => ?_
  · rw [hsame.1]
    exact List.Subset.refl _
  · exact ⟨hsame.2.1.symm.trans hd, hsame.2.2⟩

/-! ## Subscriptions, connections and sessions -/

lemma Ordered.stopEvents (hw : Ordered b r w) : Ordered b r (w.act Server.stopEvents) :=
  hw.shrink _ ⟨rfl, rfl, id, List.nil_sublist _, List.Subset.refl _, fun hd => ⟨hd, rfl⟩, rfl, rfl,
    .inl rfl⟩ nofun rfl rfl

/-- The event is no queued control frame. -/
def Ev.unqueued : Ev → Bool
  | .queued _ _ => false
  | _ => true

/-- A subscription was answered. -/
lemma OrderInv.subscribed {l : List Ev} {s s₀ : Server} (h : OrderInv l s)
    (hr : ∃ slot s', Ev.queued slot s' ∈ l ∧ slot.kind = kindResponse ∧
      slot.opcode = RequestOp.eventsEnable.code ∧ slot.status = Status.ok.code ∧
      slot.order = s₀.orderCounter) : OrderInv (.subscribed s₀ :: l) s where
  ctl := h.ctl
  key := h.key
  sorted := h.sorted
  apart := h.apart
  sent := fun slot hsent => h.sent slot (hsent.of_cons rfl)
  kept := fun ha slot s' hq =>
    (h.kept ha slot s' (mem_of_mem_cons (f := Ev.unqueued) rfl rfl hq)).imp id (·.cons _)
  bound := fun slot s' hq => h.bound slot s' (mem_of_mem_cons (f := Ev.unqueued) rfl rfl hq)
  described := h.described
  replied := by
    intro s' hs
    have hrep : ∃ slot s'', Ev.queued slot s'' ∈ l ∧ slot.kind = kindResponse ∧
        slot.opcode = RequestOp.eventsEnable.code ∧ slot.status = Status.ok.code ∧
        slot.order = s'.orderCounter := by
      rcases List.mem_cons.mp hs with heq | hs
      · injection heq with heq
        exact heq ▸ hr
      · exact h.replied s' hs
    obtain ⟨slot, s'', hq, hrest⟩ := hrep
    exact ⟨slot, s'', List.mem_cons_of_mem _ hq, hrest⟩
  granted := by
    intro it hit
    obtain ⟨s', hs', hlt⟩ := h.granted it hit
    exact ⟨s', List.mem_cons_of_mem _ hs', hlt⟩
  keyTag := fun it hit => (h.keyTag it hit).cons rfl
  mediaTag := fun it hit => (h.mediaTag it hit).cons rfl
  stream := fun hd => (h.stream hd).cons rfl
  cover := h.cover
  fits := h.fits
  block := fun hl => h.block hl.of_cons

lemma pressed_enableEvents (s : Server) : s.enableEvents.keys.pressedBits = s.keys.pressedBits :=
  pressed_keysEmit _ _ _ _

/-- A host subscribes to a link that is ready. -/
lemma Ordered.subscribe (hw : Ordered b r w) (hr : r) (hl : w.srv.device.linkState = .ready)
    (hs : Subscribes w) : Ordered b r w.subscribe := by
  intro hkept
  have hleft : w.srv.ordersLeft = true := hkept _ (List.mem_cons_self ..)
  obtain ⟨hlog, hinv, hcur⟩ := hw hkept.of_cons
  have hsame := onlyKeys_enableEvents w.srv
  have happ := appends_enableEvents hleft hinv.fits
  have hknown : Known (.subscribed w.srv :: sess w.log) w.srv.device.connectionId :=
    (hcur.known (.inl hr)).cons rfl
  have hlatest := hcur.latest (.inl ⟨hr, hl⟩)
  have hreplied : OrderInv (.subscribed w.srv :: sess w.log) w.srv := by
    refine hinv.subscribed ?_
    obtain ⟨slot, s', l, heq, hrest⟩ := hs
    refine ⟨slot, s', ?_, hrest⟩
    rw [heq, sess_cons_within rfl]
    exact List.mem_cons_self ..
  have hsess : sess w.subscribe.log = .subscribed w.srv :: sess w.log := sess_cons_within rfl _
  rw [hsess]
  refine ⟨causalLog_cons hlog hinv.bound, ?_, ⟨fun _ => ?_, fun _ => ?_, fun _ => ?_⟩⟩
  · have hpressed : w.subscribe.srv.keys.pressedBits = w.srv.keys.pressedBits :=
      pressed_enableEvents w.srv
    exact hreplied.appends happ hsame (by rw [hpressed]; exact hinv.fits)
      (.inr ⟨hknown, hlatest, w.srv, List.mem_cons_self .., UInt32.le_refl _⟩)
  · have hid : w.subscribe.srv.device.connectionId = w.srv.device.connectionId :=
      congrArg Device.connectionId hsame.device
    rw [hid]
    exact hknown
  · have hdevice : w.subscribe.srv.device = w.srv.device := hsame.device
    rw [hdevice]
    exact hlatest
  · exact ⟨w.srv, List.mem_cons_self .., UInt32.le_iff_toNat_le.mpr happ.order_le⟩

/-- A connection begins; what is queued belongs to others. -/
lemma OrderInv.connect {l : List Ev} {s : Server} {proposed : UInt32} (h : OrderInv l s)
    (hf : s.freshId (s.device.freshConnection proposed).1 = true) :
    OrderInv (.connected (s.device.freshConnection proposed).1 s :: l) (s.connect proposed) := by
  unfold Server.freshId at hf
  simp only [Bool.and_eq_true, Bool.not_eq_true', Bool.and_eq_false_iff] at hf
  obtain ⟨⟨hkeys, hmedia⟩, hstream⟩ := hf
  have hother : ∀ {c : UInt32}, (c != (s.device.freshConnection proposed).1) = true →
      (Ev.connected (s.device.freshConnection proposed).1 s).unconnected c = true := by
    intro c hc
    exact bne_iff_ne.mpr (bne_iff_ne.mp hc).symm
  refine ⟨h.ctl, h.key, h.sorted, h.apart, fun slot hsent => h.sent slot (hsent.of_cons rfl),
    fun ha slot s' hq => ?_, fun slot s' hq => ?_, h.described, ?_, ?_, ?_, ?_, ?_, h.cover,
    fits_zero _, fun hl _ d _ d' hd' _ hown => absurd hown (hl _ _ _ (List.suffix_refl _) d' hd')⟩
  · exact (h.kept ha slot s' (mem_of_mem_cons (f := Ev.unqueued) rfl rfl hq)).imp id (·.cons _)
  · exact h.bound slot s' (mem_of_mem_cons (f := Ev.unqueued) rfl rfl hq)
  · intro s' hs
    obtain ⟨slot, s'', hq, hrest⟩ := h.replied s' (mem_of_mem_cons (f := Ev.unsubscribed) rfl rfl hs)
    exact ⟨slot, s'', List.mem_cons_of_mem _ hq, hrest⟩
  · intro it hit
    obtain ⟨s', hs', hlt⟩ := h.granted it hit
    exact ⟨s', List.mem_cons_of_mem _ hs', hlt⟩
  · exact fun it hit => (h.keyTag it hit).cons (hother (List.all_eq_true.mp hkeys it hit))
  · exact fun it hit => (h.mediaTag it hit).cons (hother (List.all_eq_true.mp hmedia it hit))
  · intro hd
    refine (h.stream hd).cons (hother ?_)
    rcases hstream with hoff | hne
    · exact absurd (hoff.symm.trans hd) nofun
    · simpa using hne

lemma Ordered.connect (hw : Ordered b r w) (hg : Gates b r w)
    (hc : w.srv.device.connectionId = 0) (proposed : UInt32) :
    Ordered b False (w.connected proposed) := by
  intro hkept
  have hfresh : w.srv.freshId (w.srv.device.freshConnection proposed).1 = true :=
    hkept _ (List.mem_cons_self ..)
  obtain ⟨hlog, hinv, _⟩ := hw hkept.of_cons
  have hoff : w.srv.keys.enabled = true → False := fun he =>
    (hg hkept.of_cons.granted).connected he hc
  have hsess : sess (w.connected proposed).log =
      .connected (w.srv.device.freshConnection proposed).1 w.srv :: sess w.log :=
    sess_cons_within rfl _
  rw [hsess]
  refine ⟨causalLog_cons hlog trivial, hinv.connect hfresh, fun h => ?_, fun h => ?_, fun h => ?_⟩
  · exact (h.elim id hoff).elim
  · exact (h.elim And.left hoff).elim
  · exact (hoff h).elim

/-- The link is about to change. -/
lemma Ordered.setLink (hw : Ordered b r w) (state : LinkState) :
    Ordered b False (w.act (Server.setLink state)) := by
  intro hkept
  obtain ⟨hlog, hinv, hcur⟩ := hw hkept
  refine ⟨hlog, { hinv with }, fun h => ?_, fun h => ?_, hcur.granted⟩
  · exact hcur.known (.inr (h.resolve_left id))
  · exact hcur.latest (.inr (h.resolve_left And.left))

lemma shrinks_settle (s : Server) (left : Bool) (state : LinkState) :
    Shrinks s (s.settle left state) := by
  have hcore := core_settle s left state
  have hfield {β : Type} (g : Voice → β) : g (s.settle left state).voice.core = g s.voice.core :=
    congrArg g hcore
  refine ⟨?_, ?_, ?_, ?_, ?_, ?_, pressedBits_settle s left state, ?_, ?_⟩
  · unfold Server.settle
    cases left <;> cases state.down <;> rfl
  · unfold Server.settle
    cases left <;> cases state.down <;> rfl
  · rw [session_settle]
    exact id
  · rw [queue_settle]
  · have hmedia : (s.settle left state).voice.media = s.voice.media := hfield Voice.media
    rw [hmedia]
    exact List.Subset.refl _
  · exact fun hd => ⟨(hfield Voice.delivering).symm.trans hd, hfield Voice.streamConnection⟩
  · unfold Server.settle
    cases left <;> cases state.down <;> rfl
  · unfold Server.settle
    cases left <;> cases state.down <;> first | exact .inl rfl | exact .inr rfl

lemma Changing.settle {l : List Ev} {s : Server} (h : Changing l s) (left : Bool) (state : LinkState) :
    Changing l (s.settle left state) where
  inv := h.inv.shrink (shrinks_settle s left state)
  granted := by
    rw [(shrinks_settle s left state).order, enabled_settle, Bool.and_eq_true]
    exact fun hen => h.granted hen.2

/-- Without a session the control queue may change. -/
lemma Ordered.idle (hw : Ordered b r w) (f : Server → Server)
    (ha : (f w.srv).session.active = false)
    (hc : ∀ slot ∈ (f w.srv).ctlQueued, ∃ x ∈ w.srv.ctlQueued, x.order = slot.order)
    (ho : (f w.srv).orderCounter = w.srv.orderCounter) (hk : (f w.srv).keys = w.srv.keys)
    (hv : (f w.srv).voice = w.srv.voice) (hd : (f w.srv).device = w.srv.device) :
    Ordered b r (w.act f) := by
  intro hkept
  obtain ⟨hlog, hinv, hcur⟩ := hw hkept
  refine ⟨hlog, ⟨?_, ?_, ?_, ?_, ?_, ?_, ?_, hinv.described, hinv.replied, ?_, ?_, ?_, ?_, ?_, ?_, ?_⟩, ?_⟩
  · rw [srv_act, ho]
    intro slot hslot
    obtain ⟨x, hx, heq⟩ := hc slot hslot
    exact heq ▸ hinv.ctl x hx
  · rw [srv_act, hk, ho]
    exact hinv.key
  · rw [srv_act, hk]
    exact hinv.sorted
  · rw [srv_act, hk]
    intro slot hslot it hit
    obtain ⟨x, hx, heq⟩ := hc slot hslot
    exact heq ▸ hinv.apart x hx it hit
  · rw [srv_act, hk, ho]
    exact hinv.sent
  · exact fun h => nomatch ha.symm.trans h
  · rw [srv_act, ho]
    exact hinv.bound
  · rw [srv_act, hk]
    exact hinv.granted
  · rw [srv_act, hk]
    exact hinv.keyTag
  · rw [srv_act, hv]
    exact hinv.mediaTag
  · rw [srv_act, hv]
    exact hinv.stream
  · rw [srv_act, hk]
    exact hinv.cover
  · rw [srv_act, hk, hd]
    exact hinv.fits
  · rw [srv_act, hd]
    exact hinv.block
  · refine hcur.shrink ?_ ?_ ?_ ?_ ?_
    · rw [srv_act, hk]
      exact id
    · rw [srv_act, hd]
    · rw [srv_act, hd]
    · rw [srv_act, hd]
    · rw [srv_act, ho]
      exact UInt32.le_refl _

lemma patchSlotZero_same (s : Server) (closing : UInt32) :
    (s.patchSlotZero closing).session = s.session ∧
      (s.patchSlotZero closing).orderCounter = s.orderCounter ∧
      (s.patchSlotZero closing).keys = s.keys ∧ (s.patchSlotZero closing).voice = s.voice ∧
      (s.patchSlotZero closing).device = s.device := by
  unfold Server.patchSlotZero
  split <;> exact ⟨rfl, rfl, rfl, rfl, rfl⟩

/-- Patching a slot keeps its number. -/
lemma patchSlotZero_orders (s : Server) (closing : UInt32) :
    ∀ slot ∈ (s.patchSlotZero closing).ctlQueued, ∃ x ∈ s.ctlQueued, x.order = slot.order := by
  intro slot hslot
  unfold Server.patchSlotZero Server.ctlQueued at hslot
  unfold Server.ctlQueued
  split at hslot
  · next hnil => exact ⟨slot, hslot, rfl⟩
  · next first rest hcons =>
    obtain ⟨hmem, hused⟩ := List.mem_filter.mp hslot
    rcases List.mem_cons.mp hmem with rfl | hrest
    · exact ⟨first, List.mem_filter.mpr ⟨hcons ▸ List.mem_cons_self .., hused⟩, rfl⟩
    · exact ⟨slot, List.mem_filter.mpr ⟨hcons ▸ List.mem_cons_of_mem _ hrest, hused⟩, rfl⟩

/-- Nothing of a torn session is queued as media. -/
lemma Torn.media (h : Torn b w) : w.srv.voice.media = [] := by
  obtain ⟨v, hm⟩ := h
  exact hm.idle_media (by simp [World.withdraw]) (by simp [World.withdraw])

/-- A session begins. -/
lemma Ordered.greet (hw : Ordered b r w) (hg : Gates b r w) (ht : Torn b w)
    (ha : w.srv.session.active = false) (h : Header) : Ordered b r (w.greet h) := by
  intro hkept
  obtain ⟨hlog, hinv, _⟩ := hw hkept.of_cons
  have hidle := (hg hkept.of_cons.granted).idle ha
  have hsess : sess (w.greet h).log = [] := sess_cons_not_within rfl _
  rw [hsess]
  exact ⟨causalLog_cons hlog trivial, orderInv_nil hinv.ctl hidle.2 ht.media hinv.fits,
    current_nil hidle.1⟩

end Steps

/-! ## Runs -/

lemma Moves.ordered {r : Prop} (h : Moves b k w w') (hr : 2 ≤ k → r) (hg : Gates b r w)
    (hw : Ordered b r w) : Ordered b r w' := by
  induction h generalizing r with
  | refl => exact hw
  | send _ _ _ _ ih =>
    exact ((ih hr hg hw).same _ rfl rfl rfl rfl rfl rfl).plain _ rfl
  | flush _ _ ih => exact (ih hr hg hw).plain _ rfl
  | emitCtl _ i _ _ _ hi hu _ _ hq _ ih => exact (ih hr hg hw).emitCtl hi hu hq _ _ _
  | emitKey _ _ _ _ _ hq ht _ h ih => exact (ih hr hg hw).emitKey (h.gates hr hg) hq ht _ _ _
  | emitMedia _ item _ _ _ ha hq ht _ _ ih => exact (ih hr hg hw).emitMedia ha hq ht _ _ _
  | pump _ _ _ h ihf ih => exact ihf (by omega) (h.gates hr hg) (ih hr hg hw)
  | teardown h _ ih ihr =>
    intro hkept
    obtain ⟨hlog, hinv, hcur⟩ := ihr (r := True) (fun _ => trivial) (h.gates hr hg).withdraw
      (ih hr hg hw).withdraw hkept
    exact ⟨hlog, hinv, hcur.weaken⟩
  | keys _ rep _ ih => exact (ih hr hg hw).keys rep
  | discard _ _ _ ih => exact (ih hr hg hw).discard
  | cut _ _ hd _ hf ha h ihf ih =>
    have hold := (ih hr hg hw).discard
    have hnew := ihf (by omega) ((h.gates hr hg).act _ id rfl rfl) hold
    exact (hold.pushed hnew hf ha hd _ _).endQueued true
  | drain _ _ hd _ _ hf ha h ihf ih =>
    have hnew := ihf (by omega) (h.gates hr hg) (ih hr hg hw)
    exact ((ih hr hg hw).pushed hnew hf ha hd _ _).endQueued false
  | env _ _ _ ih => exact ih hr hg hw
  | quiet _ f hq _ ih => exact (ih hr hg hw).act f hq
  | called _ _ _ _ _ ih => exact (ih hr hg hw).plain _ rfl
  | fault _ _ _ ih => exact (ih hr hg hw).plain _ rfl
  | event hk op _ _ hp hf h ih =>
    cases hp with
    | device =>
      exact ordered_device (ih hr hg hw).changing hf fun hu => (h.gates hr hg hu).ready (hr hk)
    | findDone => exact (ih hr hg hw).queue hf rfl rfl rfl (.inl rfl)
    | prompt => exact (ih hr hg hw).queue hf rfl rfl rfl (.inl rfl)
    | operation => exact (ih hr hg hw).queue hf rfl rfl rfl (.inl rfl)
  | @link _ _ v v₁ v₂ hk state _ hn _ hs _ h ihw ih =>
    have hnew : Gates b r v₁ ∧ (∃ r', Ordered b r' v₁) ∧
        v₁.srv.device.linkState = v.srv.device.linkState := by
      rcases hn with rfl | ⟨hc, proposed, rfl⟩
      · exact ⟨h.gates hr hg, ⟨r, ih hr hg hw⟩, rfl⟩
      · exact ⟨(h.gates hr hg).connect hc _, ⟨False, (ih hr hg hw).connect (h.gates hr hg) hc _⟩, rfl⟩
    obtain ⟨hgate, ⟨r', hord⟩, hlink⟩ := hnew
    have hclosed := hgate.setLink state (False.elim : False → _)
    -- within the report to the backend the gate is shut, so nothing may use the new link
    have hwindow := ihw (by omega) hclosed (hord.setLink state)
    have hopen := hgate.link (hr hk) hlink hs (Moves.gates ‹_› (by omega) hclosed)
    refine ordered_announce (fun hkept => ?_) fun hu => (hopen hu).ready (hr hk)
    obtain ⟨hlog, hchanging⟩ := hwindow.changing hkept
    exact ⟨hlog, hchanging.settle _ _⟩
  | @profile _ _ v hk p _ h ih =>
    refine ordered_announce (fun hkept => ?_) fun hu => ?_
    · -- the step is one that keeps the order, so the new profile has a slot for every pressed key
      have hfits : Fits v.srv.keys.pressedBits (slotCount p) := by
        have hok := hkept _ (List.mem_cons_self ..)
        exact of_decide_eq_true hok
      obtain ⟨hlog, hinv, hcur⟩ := ih hr hg hw hkept.of_cons
      have hsess : sess (World.profiled p v).log =
          .profiled (v.srv.setProfile p) :: sess v.log := sess_cons_within rfl _
      rw [hsess]
      refine ⟨causalLog_cons hlog trivial, OrderInv.silent ?_ rfl rfl, fun hen => ?_⟩
      · exact { hinv with fits := hfits }
      · obtain ⟨s₀, hs₀, hle⟩ := hcur.granted hen
        exact ⟨s₀, List.mem_cons_of_mem _ hs₀, hle⟩
    · exact (h.gates hr hg fun hung => hu (hung.mono (List.subset_cons_self _ _))).ready (hr hk)
  | start hk _ _ _ _ hf ha h ihf ih =>
    have hold := (ih hr hg hw).openStream (hr hk)
    have hnew := ihf (by omega) ((h.gates hr hg).act _ id rfl rfl) hold
    exact (hold.pushed hnew hf ha rfl _ _).setVoice _ rfl rfl rfl rfl
  | noStart hk _ _ _ _ _ h ihf ih =>
    have hnew := ihf (by omega) ((h.gates hr hg).act _ id rfl rfl) ((ih hr hg hw).openStream (hr hk))
    exact hnew.voiced _ ⟨rfl, rfl, rfl, rfl, rfl, rfl, rfl, rfl, rfl, rfl, rfl, rfl⟩
      (List.Subset.refl _) nofun
  | format _ _ hd _ _ _ _ hf ha h ihf ih =>
    have hnew := ihf (by omega) (h.gates hr hg) (ih hr hg hw)
    exact ((ih hr hg hw).pushed hnew hf ha hd _ _).setVoice _ rfl rfl rfl rfl
  | unit _ _ _ _ _ ih => exact (ih hr hg hw).setVoice _ rfl rfl rfl rfl
  | fragment _ _ _ _ ht hf ha h ihf ih =>
    have hnew := ihf (by omega) (h.gates hr hg) (ih hr hg hw)
    exact ((ih hr hg hw).pushed hnew hf ha ht.delivering _ _).dataQueued _ _ _
  | resumeVoice _ _ _ ih => exact (ih hr hg hw).setVoice _ rfl rfl rfl rfl
  | prompt _ _ _ _ _ _ _ _ ih => exact (ih hr hg hw).same _ rfl rfl rfl rfl rfl rfl
  | cancel _ _ _ _ ih => exact ((ih hr hg hw).same _ rfl rfl rfl rfl rfl rfl).plain _ rfl
  | finish hk _ _ hv _ _ h ihm ih =>
    have hm := ihm (fun _ => hr hk) ((h.gates hr hg).retires hv) ((ih hr hg hw).retires hv)
    exact (hm.same _ rfl rfl rfl rfl rfl rfl).plain _ rfl
  | granted _ _ _ ih => exact (ih hr hg hw).plain _ rfl
  | enableEvents hk hg' _ ih =>
    rcases hg' with ⟨_, hl, _, hs⟩ | hung
    · exact (ih hr hg hw).subscribe (hr (by omega)) hl hs
    · exact fun hkept => absurd (hung.mono (List.subset_cons_self _ _)) hkept.granted
  | stopEvents _ _ ih => exact (ih hr hg hw).stopEvents
  | beginFind _ _ _ _ _ ih => exact (ih hr hg hw).same _ rfl rfl rfl rfl rfl rfl
  | beginOp _ _ _ _ _ _ _ _ ih => exact ((ih hr hg hw).same _ rfl rfl rfl rfl rfl rfl).plain _ rfl
  | enableVoice _ _ _ _ _ _ ih => exact (ih hr hg hw).setVoice _ rfl rfl rfl rfl
  | disableVoice _ _ ih => exact (ih hr hg hw).setVoice _ rfl rfl rfl rfl

lemma Answer.ordered {h : Header} (ha : Answer b h w w') (hg : Gates b True w)
    (hw : Ordered b True w) : Ordered b True w' := by
  have hreply : ∀ (s : Server) (status : Status) (payload : List UInt8),
      (s.replySlot h status payload).isDevice = false := fun _ _ _ => rfl
  have hreports : ∀ {v v' : World E}, Moves b 2 (v.withdraw b) v' → Gates b True v →
      Ordered b True v → Ordered b True v' :=
    fun hr hgv hv => hr.ordered (fun _ => trivial) hgv.withdraw hv.withdraw
  have hkeep : ∀ {v : World E} (s : Server), Ordered b True v → Ordered b True (v.keepCommitted s h) :=
    fun _ hv => ((hv.same _ rfl rfl rfl rfl rfl rfl).plain _ rfl).plain _ rfl
  have hpatch : ∀ {v : World E} (closing : UInt32), v.srv.session.active = false →
      Ordered b True v → Ordered b True (v.act (Server.patchSlotZero closing)) := by
    intro v closing hidle hv
    have hsame := patchSlotZero_same v.srv closing
    refine hv.idle _ ?_ (patchSlotZero_orders v.srv closing) hsame.2.1 hsame.2.2.1 hsame.2.2.2.1
      hsame.2.2.2.2
    rw [hsame.1]
    exact hidle
  cases ha with
  | reply status payload _ hf =>
    exact (hw.plain _ rfl).queue hf rfl rfl (hreply _ _ _) (.inr (hg.note _))
  | full len _ hr =>
    exact hreports hr ((hg.note _).act _ id rfl rfl)
      ((hw.plain _ rfl).same _ rfl rfl rfl rfl rfl rfl)
  | deferred _ =>
    exact (hw.setVoice (v := { w.srv.voice with okDeferred := some h.deferredOk }) _ rfl rfl rfl
      rfl).plain _ rfl
  | goodbye _ hr hf =>
    have hclosed := hr.gates (r := True) (fun _ => trivial) hg.withdraw
    refine hpatch _ ?_ ((hkeep _ (hreports hr hg hw)).queue hf rfl rfl (hreply _ _ _)
      (.inr (((hclosed.act _ id rfl rfl).note _).note _)))
    have hidle := hr.inactive (by simp [World.withdraw])
    simpa [World.queue, World.keepCommitted, Server.setOutLen] using hidle
  | goodbyeFull _ hr _ hr' =>
    have hclosed : Gates b True (w.withdraw b) := hg.withdraw
    have hgate := hr.gates (fun _ => trivial) hclosed
    refine hpatch _ (hr'.inactive (by simp [World.withdraw])) (hreports hr' ?_ ?_)
    · exact (((hgate.act _ id rfl rfl).note _).note _).act _ id rfl rfl
    · exact (hkeep _ (hreports hr hg hw)).same _ rfl rfl rfl rfl rfl rfl

lemma Turns.ordered {g : Prop} (h : Turns b g w w') (hg : Gates b True w)
    (hw : Ordered b True w) : Ordered b True w' := by
  have hreply : ∀ (s : Server) (hd : Header) (status : Status) (payload : List UInt8),
      (s.replySlot hd status payload).isDevice = false := fun _ _ _ _ => rfl
  induction h with
  | refl => exact hw
  | moves hm h ih => exact hm.ordered (fun _ => trivial) (h.gates hg) ih
  | pump hm h ih => exact hm.ordered (fun _ => trivial) (h.gates hg) ih
  | seq _ _ _ ih => exact ih.same _ rfl rfl rfl rfl rfl rfl
  | request hd payload _ hh h ih =>
    obtain ⟨w₁, w₂, h₁, ha, h₂⟩ := hh
    have hgate : Gates b True (World.accept hd payload _) := ((h.gates hg).act _ id rfl rfl).note _
    have haccept : Ordered b True (World.accept hd payload _) :=
      (ih.same _ rfl rfl rfl rfl rfl rfl).plain _ rfl
    have hgate₁ := h₁.gates (fun _ => trivial) hgate
    exact h₂.ordered (fun _ => trivial) (ha.gates hgate₁)
      (ha.ordered hgate₁ (h₁.ordered (fun _ => trivial) hgate haccept))
  | refuse _ _ _ _ _ hf h ih =>
    exact (ih.plain _ rfl).queue hf rfl rfl (hreply _ _ _ _) (.inr ((h.gates hg).note _))
  | refuseFull _ _ _ _ ih => exact ih.plain _ rfl
  | raw _ _ _ _ _ ih =>
    exact (ih.same _ rfl rfl rfl rfl rfl rfl).plain _ rfl
  | hello hd _ ha _ ht _ hf h ih =>
    exact (ih.greet (h.gates hg) ht ha hd).queue hf rfl rfl rfl (.inl rfl)
  | helloFull hd _ ha _ ht _ _ h ih => exact ih.greet (h.gates hg) ht ha hd
  | exhausted _ _ ha _ hf _ ih =>
    exact ((ih.same _ rfl rfl ha.symm rfl rfl rfl).same _ rfl rfl rfl rfl rfl rfl).queue hf rfl rfl rfl
      (.inl rfl)
  | exhaustedFull _ ha _ _ ih =>
    exact (ih.same _ rfl rfl ha.symm rfl rfl rfl).same _ rfl rfl rfl rfl rfl rfl
  | deferred _ _ _ _ _ hf h ih =>
    exact (ih.queue hf rfl rfl rfl (.inr (h.gates hg))).setVoice _ rfl rfl rfl rfl
  | forget _ _ ih => exact ih.setVoice _ rfl rfl rfl rfl
  | gone _ ha _ ih =>
    refine (ih.same Server.clearOut rfl rfl rfl rfl rfl rfl).idle Server.ctlClear ha ?_ rfl rfl rfl rfl
    intro slot hslot
    obtain ⟨hmem, hused⟩ := List.mem_filter.mp hslot
    obtain ⟨x, _, rfl⟩ := List.mem_map.mp hmem
    cases hused

lemma ordered_init (cfg : Config) (profile : Option DeviceProfile) (loaded : Option PeerRecord)
    (env : E) :
    Ordered b True ({ srv := Server.init b cfg profile loaded, env := env, log := [] } : World E) := by
  refine fun _ => ⟨fun _ _ h => absurd (List.suffix_nil.mp h) nofun, ?_, current_nil rfl⟩
  refine orderInv_nil (fun slot hslot => ?_) rfl rfl (fits_zero _)
  simp [Server.ctlQueued, Server.init] at hslot

/-- In every run whose steps keep the order, whatever a key or voice frame depends on is sent before
it. -/
theorem reach_causalOrder (hw : Reach b anyInput w) (hk : OrderKept b w.log) : CausalLog w.log := by
  obtain ⟨cfg, profile, loaded, env, hturns⟩ := hw.turns (g := True) fun _ _ => trivial
  exact (hturns.ordered (gates_init cfg profile loaded env) (ordered_init cfg profile loaded env) hk).1

/-! ## A run in order and one out of order -/

/-- The output is pumped while nothing accepts bytes. -/
def World.pumped (w : World Unit) : World Unit := Input.flush.run Build.default silentPlatform w

/-- The event is the frame of a key state. -/
def Ev.isKeyFrame : Ev → Bool
  | .emitted (.key _) _ _ => true
  | _ => false

theorem reach_causalOrder_subscribedWorld :
    subscribedWorld.pumped.log.any (·.isKeyFrame) = true ∧ CausalLog subscribedWorld.pumped.log := by
  have hfacts : subscribedWorld.pumped.log.any (·.isKeyFrame) = true ∧
      ∀ e ∈ subscribedWorld.pumped.log, e.keepsOrder Build.default = true := by
    decide +kernel
  exact ⟨hfacts.1, reach_causalOrder (b := Build.default) (reach_subscribedWorld.silent trivial) hfacts.2⟩

/-- The event is a subscription that was answered before `item` was queued. -/
def Ev.subscribes (item : KeyItem) : Ev → Bool
  | .subscribed s => decide (s.orderCounter < item.order)
  | _ => false

/-- The event is the frame of the reply to a subscription. -/
def Ev.isGrant : Ev → Bool
  | .emitted (.ctl slot) _ _ => slot.opcode == RequestOp.eventsEnable.code
  | _ => false

/-- The last frame but one is a key state that overtook the reply to its subscription. -/
def overtaken : List Ev → Bool
  | _ :: .emitted (.key item) _ _ :: l =>
    (sess l).any (·.subscribes item) && (sess l).all (fun e => !e.isGrant)
  | _ => false

lemma not_causal_of_overtaken {log : List Ev} (h : overtaken log = true) : ¬ CausalLog log := by
  intro hcausal
  unfold overtaken at h
  split at h
  · next e item hd p l =>
    rw [Bool.and_eq_true, List.any_eq_true, List.all_eq_true] at h
    obtain ⟨⟨e', hmem, hsub⟩, hnone⟩ := h
    have hkey : KeyCausalAt l item := hcausal _ _ (List.suffix_cons ..)
    unfold Ev.subscribes at hsub
    split at hsub
    · obtain ⟨slot, ⟨hd', p', hsent⟩, -, hop, -⟩ := hkey.subscribed _ hmem (of_decide_eq_true hsub)
      have hgrant := hnone _ hsent
      simp [Ev.isGrant, hop] at hgrant
    · cases hsub
  · cases h

/-- Two `PING`s stand in front of the reply to the subscription. -/
def lateGrantWorld : World Unit :=
  ((readyWorld.pinged 2).pinged 3).listens (hostHeader .eventsEnable 1 4 7) 4 (tlvPutBool 1 true [])

lemma reach_lateGrantWorld : Reach Build.default anyInput lateGrantWorld :=
  (((reach_readyWorld (fun _ _ => trivial) trivial).pinged 2 rfl).pinged 3 rfl).listens
    (fun _ _ => trivial) rfl (by decide)

/-- Four control frames leave, and then the snapshot, before the reply that granted it. -/
theorem lateGrantWorld_not_causal :
    ¬ ∀ w : World Unit, Reach Build.default anyInput w → CausalLog w.log := by
  intro hall
  have hovertaken : overtaken lateGrantWorld.pumped.log = true := by decide +kernel
  exact not_causal_of_overtaken hovertaken (hall _ (reach_lateGrantWorld.silent trivial))

end RemoteBridge
