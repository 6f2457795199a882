import RemoteBridge.Framework.Memory
import RemoteBridge.Product.Voice

/-!
# The pool of the media queue

The media queue of the server is kept in two rings: one of markers, `media_q`, and one of payload bytes,
`audio_pool`.  When a stream is cut, its items are taken out of the middle, and what stays is moved up in
place: the loop of `media_discard_current` reads the payloads behind the bytes that it has already written.

`MediaPool.items` is the queue that the two rings hold, and one lemma for each operation says what it does
to this list.
-/

namespace RemoteBridge

/-- `media_marker_t`. -/
structure MediaMarker where
  stream : UInt32
  connection : UInt32
  order : UInt32
  opcode : EventOp
  len : Nat
  deriving DecidableEq, Repr

/-- The item of a marker. -/
def MediaMarker.item (m : MediaMarker) (payload : List UInt8) : MediaItem :=
  { stream := m.stream, connection := m.connection, order := m.order, opcode := m.opcode, payload := payload }

/-- The marker of an item. -/
def MediaItem.marker (item : MediaItem) : MediaMarker :=
  { stream := item.stream, connection := item.connection, order := item.order, opcode := item.opcode,
    len := item.payload.length }

/-- What cutting the stream `streamId` leaves in the queue. -/
def MediaItem.stays (streamId : UInt32) (item : MediaItem) : Bool :=
  !(item.stream == streamId && item.opcode != .voiceStarted)

/-- Where `out_try_frame` has no sequence number left and tears the session down. -/
def txExhausted (nextTxSeq : UInt32) : Bool := nextTxSeq == 0 || nextTxSeq == 0xffffffff

/-- What `media_flush_one` depends on besides the queue: the room in the output ring, the next sequence number,
and whether the encoded frame goes into the ring. -/
structure MediaSend where
  room : Nat
  nextTxSeq : UInt32
  sent : Bool

/-- One turn of `rbp_server_flush_output`: an item of this queue, or a frame of another one, of which only the
sequence number matters here. -/
inductive FlushTurn where
  | media (send : MediaSend)
  | other (nextTxSeq : UInt32)

/-- The media queue of `struct rbp_server`: `audio_pool`, `audio_head` and `audio_len` are one ring,
`media_q`, `media_head` and `media_count` the other. -/
structure MediaPool where
  sessionActive : Bool
  audio : Ring UInt8
  mediaQ : Ring MediaMarker

namespace MediaPool

variable (b : Build) (p : MediaPool)

/-- What `session_teardown` does to the queue. -/
def teardown : MediaPool :=
  { sessionActive := false, audio := { p.audio with head := 0, len := 0 }, mediaQ := { p.mediaQ with head := 0, len := 0 } }

/-- `audio_read`. -/
def audioRead (offset len : Nat) : List UInt8 := p.audio.read b.audioPool offset len

/-- Whether an item of `len` bytes does not fit. -/
def full (len : Nat) : Bool :=
  decide (p.mediaQ.len ≥ b.mediaDepth) || decide (b.audioPool - p.audio.len < len)

/-- A marker and its bytes go behind the others.  The source ignores what `ring_write` answers. -/
def put (m : MediaMarker) (payload : List UInt8) : MediaPool :=
  { p with audio := (p.audio.write b.audioPool payload).getD p.audio, mediaQ := p.mediaQ.put b.mediaDepth m }

/-- The front item leaves the queue. -/
def leave (m : MediaMarker) : MediaPool :=
  { p with audio := p.audio.consume b.audioPool m.len, mediaQ := p.mediaQ.consume b.mediaDepth 1 }

/-- `media_flush_one`: the item that was sent, if any. -/
def flushOne (send : MediaSend) : Option MediaItem × MediaPool :=
  if !p.sessionActive || p.mediaQ.len == 0 then (none, p)
  else
    let m := p.mediaQ.mem p.mediaQ.head
    if send.room < headerSize + m.len + 6 then (none, p)
    else
      let payload := p.audioRead b 0 m.len
      if txExhausted send.nextTxSeq then (none, p.teardown)
      else if !send.sent then (none, p)
      else (some (m.item payload), p.leave b m)

/-- One turn of `rbp_server_flush_output`. -/
def flushTurn : FlushTurn → MediaPool
  | .media send => (p.flushOne b send).2
  | .other nextTxSeq => if txExhausted nextTxSeq then p.teardown else p

/-- `rbp_server_flush_output`. -/
def flush (turns : List FlushTurn) : MediaPool := turns.foldl (flushTurn b) p

/-- `media_enqueue` with the item that the stream and the next order number make of the operation; `turns` are
those of the flush, if there is one. -/
def enqueue (turns : List FlushTurn) (item : MediaItem) : Bool × MediaPool :=
  let p := if p.full b item.payload.length then p.flush b turns else p
  if !p.sessionActive || p.full b item.payload.length then (false, p)
  else (true, p.put b item.marker item.payload)

/-- Where the loop of `media_discard_current` is: `audio.len` of the pool is `write`, and `mediaQ.len` is
`kept`. -/
structure Compaction where
  pool : MediaPool
  read : Nat

/-- One turn of the loop. -/
def discardStep (streamId : UInt32) (i : Nat) (c : Compaction) : Compaction :=
  let m := c.pool.mediaQ.turned b.mediaDepth i
  let payload := c.pool.audioRead b c.read m.len
  let read := c.read + m.len
  if m.stream == streamId && m.opcode != .voiceStarted then { c with read := read }
  else { pool := c.pool.put b m payload, read := read }

/-- `media_discard_current` for the stream `streamId`. -/
def discardCurrent (streamId : UInt32) : MediaPool :=
  ((List.range p.mediaQ.len).foldl (fun c i => discardStep b streamId i c)
    { pool := { p with audio := p.audio.setLen 0, mediaQ := p.mediaQ.setLen 0 }, read := 0 }).pool

/-! ## What is queued -/

/-- The markers, oldest first. -/
def markers : List MediaMarker := window (p.mediaQ.turned b.mediaDepth) 0 p.mediaQ.len

end MediaPool

/-- The items of the markers, whose payloads lie one behind the other from `pos` on. -/
def mediaEntries (mem : Nat → UInt8) : Nat → List MediaMarker → List MediaItem
  | _, [] => []
  | pos, m :: ms => m.item (window mem pos m.len) :: mediaEntries mem (pos + m.len) ms

/-- The bytes of the markers. -/
def mediaBytes (ms : List MediaMarker) : Nat := (ms.map (·.len)).sum

/-- The media queue, oldest first. -/
def MediaPool.items (b : Build) (p : MediaPool) : List MediaItem :=
  mediaEntries (p.audio.turned b.audioPool) 0 (p.markers b)

/-! ## The queue as a list -/

/-- The media queue as a list, and whether there is a session. -/
structure MediaQueue where
  active : Bool
  items : List MediaItem
  deriving DecidableEq

namespace MediaQueue

variable (b : Build) (q : MediaQueue)

/-- Whether there is no place for an item of `n` bytes. -/
def full (n : Nat) : Bool :=
  decide (q.items.length ≥ b.mediaDepth) || decide (b.audioPool - (q.items.map (·.payload.length)).sum < n)

/-- Without a session nothing is queued. -/
def teardown : MediaQueue := { active := false, items := [] }

/-- The front item is sent, or nothing happens, or there is no sequence number for it. -/
def flushOne (send : MediaSend) : Option MediaItem × MediaQueue :=
  match q.items with
  | [] => (none, q)
  | item :: rest =>
    if !q.active || decide (send.room < headerSize + item.payload.length + 6) then (none, q)
    else if txExhausted send.nextTxSeq then (none, teardown)
    else if send.sent then (some item, { q with items := rest })
    else (none, q)

def flushTurn : FlushTurn → MediaQueue
  | .media send => (q.flushOne send).2
  | .other nextTxSeq => if txExhausted nextTxSeq then teardown else q

def flush (turns : List FlushTurn) : MediaQueue := turns.foldl flushTurn q

/-- An item is appended when there is a session and a place for it. -/
def enqueue (turns : List FlushTurn) (item : MediaItem) : Bool × MediaQueue :=
  let q := if q.full b item.payload.length then q.flush turns else q
  if !q.active || q.full b item.payload.length then (false, q)
  else (true, { q with items := q.items ++ [item] })

/-- What stays is kept in its order. -/
def discardCurrent (streamId : UInt32) : MediaQueue := { q with items := q.items.filter (·.stays streamId) }

end MediaQueue

/-- The queue that the two rings hold. -/
def MediaPool.queue (b : Build) (p : MediaPool) : MediaQueue := { active := p.sessionActive, items := p.items b }

/-- The indices of both rings are in range, and the bytes are those of the markers. -/
structure MediaPool.Ok (b : Build) (p : MediaPool) : Prop where
  audio : p.audio.Ok b.audioPool
  mediaQ : p.mediaQ.Ok b.mediaDepth
  bytes : mediaBytes (p.markers b) = p.audio.len

section Entries

variable {mem mem' : Nat → UInt8} {pos : Nat} {ms ms' : List MediaMarker}

lemma mediaEntries_append : mediaEntries mem pos (ms ++ ms') =
    mediaEntries mem pos ms ++ mediaEntries mem (pos + mediaBytes ms) ms' := by
  induction ms generalizing pos with
  | nil => rfl
  | cons m ms ih =>
    rw [List.cons_append, mediaEntries, ih, mediaEntries, List.cons_append, mediaBytes, mediaBytes, List.map_cons,
      List.sum_cons, Nat.add_assoc]

lemma mediaEntries_congr {pos' : Nat} (h : ∀ i < mediaBytes ms, mem (pos + i) = mem' (pos' + i)) :
    mediaEntries mem pos ms = mediaEntries mem' pos' ms := by
  induction ms generalizing pos pos' with
  | nil => rfl
  | cons m ms ih =>
    have hbytes : mediaBytes (m :: ms) = m.len + mediaBytes ms := List.sum_cons
    have hrest : mediaEntries mem (pos + m.len) ms = mediaEntries mem' (pos' + m.len) ms := by
      refine ih fun i hi => ?_
      rw [Nat.add_assoc, Nat.add_assoc]
      exact h (m.len + i) (by omega)
    rw [mediaEntries, mediaEntries, window_congr fun i hi => h i (by omega), hrest]

lemma mediaBytes_append : mediaBytes (ms ++ ms') = mediaBytes ms + mediaBytes ms' := by
  rw [mediaBytes, List.map_append, List.sum_append]
  rfl

/-- The bytes are those of the payloads. -/
lemma sum_mediaEntries : ((mediaEntries mem pos ms).map (·.payload.length)).sum = mediaBytes ms := by
  induction ms generalizing pos with
  | nil => rfl
  | cons m ms ih =>
    have hlen : (m.item (window mem pos m.len)).payload.length = m.len := length_window
    rw [mediaEntries, List.map_cons, List.sum_cons, ih, hlen]
    exact List.sum_cons.symm

lemma length_mediaEntries : (mediaEntries mem pos ms).length = ms.length := by
  induction ms generalizing pos with
  | nil => rfl
  | cons m ms ih => rw [mediaEntries, List.length_cons, ih, List.length_cons]

end Entries

namespace MediaPool

section Steps

variable {b : Build} {p : MediaPool}

lemma length_items : (p.items b).length = p.mediaQ.len := by
  rw [items, length_mediaEntries, markers, length_window]

lemma Ok.sum_items (h : p.Ok b) : ((p.items b).map (·.payload.length)).sum = p.audio.len := by
  rw [items, sum_mediaEntries, h.bytes]

/-- An item goes behind the others, and the bytes and markers behind it stay as they are. -/
lemma Ok.put {m : MediaMarker} {payload : List UInt8} (h : p.Ok b) (hlen : m.len = payload.length)
    (hq : p.mediaQ.len < b.mediaDepth) (hroom : payload.length ≤ b.audioPool - p.audio.len) :
    (p.put b m payload).Ok b ∧ (p.put b m payload).items b = p.items b ++ [m.item payload] ∧
      (p.put b m payload).audio.len = p.audio.len + payload.length ∧
      (∀ i, p.audio.len + payload.length ≤ i → i < b.audioPool →
        (p.put b m payload).audio.turned b.audioPool i = p.audio.turned b.audioPool i) ∧
      ∀ i, p.mediaQ.len < i → i < b.mediaDepth →
        (p.put b m payload).mediaQ.turned b.mediaDepth i = p.mediaQ.turned b.mediaDepth i := by
  have hle := h.audio.len_le
  obtain ⟨audio, haudio⟩ : ∃ audio, p.audio.write b.audioPool payload = some audio :=
    ⟨_, Ring.write_eq payload h.audio hroom⟩
  obtain ⟨hhead, haudioLen, haudioLe, hbytes⟩ := Ring.turned_write h.audio haudio
  have hput : p.put b m payload = { p with audio := audio, mediaQ := p.mediaQ.put b.mediaDepth m } := by
    rw [MediaPool.put, haudio, Option.getD_some]
  have hmarker := Ring.turned_put hq m
  have hmarkers : (p.put b m payload).markers b = p.markers b ++ [m] := by
    rw [hput]
    change window ((p.mediaQ.put b.mediaDepth m).turned b.mediaDepth) 0 (p.mediaQ.len + 1) = _
    rw [window_succ, Nat.zero_add, hmarker _ hq, Function.update_self]
    congr 1
    refine window_congr fun i hi => ?_
    rw [Nat.zero_add, hmarker i (by omega), Function.update_of_ne (by omega)]
  -- the items before read the bytes that they have read, the new one its own
  have hold : mediaEntries (audio.turned b.audioPool) 0 (p.markers b) = p.items b := by
    refine mediaEntries_congr fun i hi => ?_
    rw [h.bytes] at hi
    rw [Nat.zero_add, hbytes i (by omega), Ring.copyInto_of_not_mem (.inl hi)]
  have hnew : window (audio.turned b.audioPool) p.audio.len m.len = payload := by
    have hcopy : window (copyInto (p.audio.turned b.audioPool) p.audio.len payload) p.audio.len payload.length = payload :=
      window_copyInto payload
    rw [hlen]
    refine (window_congr fun i hi => ?_).trans hcopy
    exact hbytes _ (by omega)
  refine ⟨⟨?_, ?_, ?_⟩, ?_, ?_, ?_, ?_⟩
  · rw [hput]
    exact ⟨hhead ▸ h.audio.head_lt, haudioLe⟩
  · rw [hput]
    exact h.mediaQ.put hq m
  · rw [hmarkers, mediaBytes_append, h.bytes, hput]
    change p.audio.len + (m.len + 0) = audio.len
    omega
  · rw [items, hmarkers, hput, mediaEntries_append, hold, h.bytes, Nat.zero_add]
    change _ ++ [m.item (window (audio.turned b.audioPool) p.audio.len m.len)] = _
    rw [hnew]
  · rw [hput]
    exact haudioLen
  · intro i hi hlt
    rw [hput]
    exact (hbytes i hlt).trans (Ring.copyInto_of_not_mem (.inr hi))
  · intro i hi hlt
    rw [hput]
    exact (hmarker i hlt).trans (Function.update_of_ne (by omega) _ _)

lemma markers_cons (hq : p.mediaQ.len ≠ 0) :
    p.markers b = p.mediaQ.turned b.mediaDepth 0 :: window (p.mediaQ.turned b.mediaDepth) 1 (p.mediaQ.len - 1) := by
  obtain ⟨n, hn⟩ := Nat.exists_eq_succ_of_ne_zero hq
  rw [markers, hn, Nat.succ_eq_add_one, window_cons, Nat.add_sub_cancel]

lemma markers_leave (m : MediaMarker) :
    (p.leave b m).markers b = window (p.mediaQ.turned b.mediaDepth) 1 (p.mediaQ.len - 1) := by
  refine window_congr fun i _ => ?_
  rw [Nat.zero_add]
  exact Ring.turned_consume _ _

/-- The front item leaves, and the others stay as they are. -/
lemma Ok.leave {m : MediaMarker} (h : p.Ok b) (hq : p.mediaQ.len ≠ 0) (hm : m = p.mediaQ.turned b.mediaDepth 0) :
    (p.leave b m).Ok b ∧
      p.items b = m.item (window (p.audio.turned b.audioPool) 0 m.len) :: (p.leave b m).items b := by
  have hmarkers := markers_cons (b := b) hq
  rw [← hm] at hmarkers
  have hsum : mediaBytes (p.markers b) =
      m.len + mediaBytes (window (p.mediaQ.turned b.mediaDepth) 1 (p.mediaQ.len - 1)) := by
    rw [hmarkers]
    exact List.sum_cons
  have hbytes := h.bytes
  refine ⟨⟨h.audio.consume _, h.mediaQ.consume _, ?_⟩, ?_⟩
  · rw [markers_leave]
    change _ = p.audio.len - m.len
    omega
  · rw [items, hmarkers, mediaEntries, items, markers_leave, Nat.zero_add]
    congr 1
    refine mediaEntries_congr fun i _ => ?_
    rw [Nat.zero_add]
    exact (Ring.turned_consume _ _).symm

lemma Ok.teardown (h : p.Ok b) : p.teardown.Ok b :=
  ⟨⟨Nat.zero_lt_of_lt h.audio.head_lt, Nat.zero_le _⟩, ⟨Nat.zero_lt_of_lt h.mediaQ.head_lt, Nat.zero_le _⟩, rfl⟩

lemma queue_teardown : p.teardown.queue b = MediaQueue.teardown := rfl

/-- `media_flush_one` on the list. -/
lemma Ok.flushOne (h : p.Ok b) (send : MediaSend) :
    (p.flushOne b send).2.Ok b ∧ ((p.flushOne b send).1, (p.flushOne b send).2.queue b) = (p.queue b).flushOne send := by
  unfold MediaPool.flushOne
  by_cases hq : p.mediaQ.len = 0
  · have hnil : (p.queue b).items = [] := List.length_eq_zero_iff.mp (length_items.trans hq)
    have hzero : (p.mediaQ.len == 0) = true := beq_iff_eq.mpr hq
    rw [hzero, Bool.or_true, if_pos rfl, MediaQueue.flushOne, hnil]
    exact ⟨h, rfl⟩
  · obtain ⟨m, hm⟩ : ∃ m, m = p.mediaQ.turned b.mediaDepth 0 := ⟨_, rfl⟩
    have hfront : p.mediaQ.mem p.mediaQ.head = m := by
      rw [hm, Ring.turned, Nat.add_zero, Nat.mod_eq_of_lt h.mediaQ.head_lt]
    obtain ⟨hok, hitems⟩ := h.leave hq hm
    have hzero : (p.mediaQ.len == 0) = false := beq_eq_false_iff_ne.mpr hq
    have hpayload : (m.item (window (p.audio.turned b.audioPool) 0 m.len)).payload.length = m.len := length_window
    have hlen : m.len ≤ b.audioPool := by
      have hsum := h.sum_items
      rw [hitems, List.map_cons, List.sum_cons, hpayload] at hsum
      have hle := h.audio.len_le
      omega
    have hread : p.audioRead b 0 m.len = window (p.audio.turned b.audioPool) 0 m.len := Ring.read_eq_window hlen
    have hlist : (p.queue b).items = m.item (window (p.audio.turned b.audioPool) 0 m.len) :: (p.leave b m).items b := hitems
    rw [hzero, Bool.or_false, hfront, MediaQueue.flushOne, hlist]
    dsimp only
    rw [hread, hpayload]
    change _ ∧ _ = if (!p.sessionActive || _) = true then _ else _
    cases p.sessionActive with
    | false => exact ⟨h, rfl⟩
    | true =>
      by_cases hroom : send.room < headerSize + m.len + 6
      · rw [Bool.not_true, if_neg Bool.false_ne_true, if_pos hroom, decide_eq_true hroom]
        exact ⟨h, rfl⟩
      · rw [Bool.not_true, if_neg Bool.false_ne_true, if_neg hroom, decide_eq_false hroom, Bool.or_false,
          if_neg Bool.false_ne_true]
        cases txExhausted send.nextTxSeq with
        | true => exact ⟨h.teardown, rfl⟩
        | false =>
          cases send.sent with
          | false => exact ⟨h, rfl⟩
          | true => exact ⟨hok, rfl⟩

lemma Ok.flushTurn (h : p.Ok b) (turn : FlushTurn) :
    (p.flushTurn b turn).Ok b ∧ (p.flushTurn b turn).queue b = (p.queue b).flushTurn turn := by
  cases turn with
  | media send => exact ⟨(h.flushOne send).1, congrArg Prod.snd (h.flushOne send).2⟩
  | other nextTxSeq =>
    unfold MediaPool.flushTurn MediaQueue.flushTurn
    dsimp only
    split
    · exact ⟨h.teardown, rfl⟩
    · exact ⟨h, rfl⟩

/-- `rbp_server_flush_output` on the list. -/
lemma Ok.flush (h : p.Ok b) (turns : List FlushTurn) :
    (p.flush b turns).Ok b ∧ (p.flush b turns).queue b = (p.queue b).flush turns := by
  unfold MediaPool.flush MediaQueue.flush
  induction turns generalizing p with
  | nil => exact ⟨h, rfl⟩
  | cons turn turns ih =>
    obtain ⟨hok, hqueue⟩ := h.flushTurn turn
    rw [List.foldl_cons, List.foldl_cons, ← hqueue]
    exact ih hok

lemma Ok.full_eq (h : p.Ok b) (n : Nat) : p.full b n = (p.queue b).full b n := by
  unfold MediaPool.full MediaQueue.full MediaPool.queue
  dsimp only
  rw [length_items, h.sum_items]

/-- `media_enqueue` on the list. -/
lemma Ok.enqueue (h : p.Ok b) (turns : List FlushTurn) (item : MediaItem) :
    (p.enqueue b turns item).2.Ok b ∧
      ((p.enqueue b turns item).1, (p.enqueue b turns item).2.queue b) = (p.queue b).enqueue b turns item := by
  unfold MediaPool.enqueue MediaQueue.enqueue
  obtain ⟨p', hp'⟩ : ∃ p', p' = if p.full b item.payload.length then p.flush b turns else p := ⟨_, rfl⟩
  have hflushed : p'.Ok b ∧ p'.queue b =
      if (p.queue b).full b item.payload.length then (p.queue b).flush turns else p.queue b := by
    rw [hp', h.full_eq]
    split
    · exact h.flush turns
    · exact ⟨h, rfl⟩
  obtain ⟨hok, hqueue⟩ := hflushed
  dsimp only
  rw [← hp', ← hqueue, hok.full_eq]
  change _ ∧ _ = if (!p'.sessionActive || _) = true then _ else _
  by_cases hfail : (!p'.sessionActive || (p'.queue b).full b item.payload.length) = true
  · rw [if_pos hfail, if_pos hfail]
    exact ⟨hok, rfl⟩
  · have hroom := hfail
    rw [← hok.full_eq, full] at hroom
    simp only [Bool.or_eq_true, Bool.not_eq_true', decide_eq_true_eq, not_or, Nat.not_le, Nat.not_lt] at hroom
    obtain ⟨hput, happend, -⟩ := hok.put (m := item.marker) rfl hroom.2.1 hroom.2.2
    rw [if_neg hfail, if_neg hfail]
    refine ⟨hput, ?_⟩
    unfold MediaPool.queue
    rw [happend]
    rfl

/-- What the loop of `media_discard_current` has done before turn `i`: the pool holds what stays of the items
that were read, and everything from the read cursor on is as it was. -/
structure Compacted (b : Build) (p : MediaPool) (streamId : UInt32) (i : Nat) (c : Compaction) : Prop where
  ok : c.pool.Ok b
  active : c.pool.sessionActive = p.sessionActive
  items : c.pool.items b = (mediaEntries (p.audio.turned b.audioPool) 0
    (window (p.mediaQ.turned b.mediaDepth) 0 i)).filter (·.stays streamId)
  read : c.read = mediaBytes (window (p.mediaQ.turned b.mediaDepth) 0 i)
  write_le : c.pool.audio.len ≤ c.read
  kept_le : c.pool.mediaQ.len ≤ i
  bytes : ∀ j, c.read ≤ j → j < b.audioPool → c.pool.audio.turned b.audioPool j = p.audio.turned b.audioPool j
  markers : ∀ j, i ≤ j → j < b.mediaDepth → c.pool.mediaQ.turned b.mediaDepth j = p.mediaQ.turned b.mediaDepth j

variable {streamId : UInt32} {i : Nat} {c : Compaction}

/-- The loop reads within the pool. -/
lemma Ok.read_le (h : p.Ok b) (hi : i < p.mediaQ.len) :
    mediaBytes (window (p.mediaQ.turned b.mediaDepth) 0 i) + (p.mediaQ.turned b.mediaDepth i).len ≤ p.audio.len := by
  obtain ⟨k, hk⟩ := Nat.exists_eq_add_of_lt hi
  have hsplit : p.markers b = window (p.mediaQ.turned b.mediaDepth) 0 i ++
      p.mediaQ.turned b.mediaDepth i :: window (p.mediaQ.turned b.mediaDepth) (i + 1) k := by
    rw [markers, hk, Nat.add_assoc, window_add, Nat.zero_add, window_cons]
  have hbytes := h.bytes
  rw [hsplit, mediaBytes_append] at hbytes
  have hcons : mediaBytes (p.mediaQ.turned b.mediaDepth i :: window (p.mediaQ.turned b.mediaDepth) (i + 1) k) =
      (p.mediaQ.turned b.mediaDepth i).len + mediaBytes (window (p.mediaQ.turned b.mediaDepth) (i + 1) k) := List.sum_cons
  omega

/-- One turn.  The write cursor is never ahead of the read cursor, so that a payload that is moved up does not
reach the bytes that are still to be read. -/
lemma Compacted.step (h : p.Ok b) (hc : Compacted b p streamId i c) (hi : i < p.mediaQ.len) :
    Compacted b p streamId (i + 1) (discardStep b streamId i c) := by
  have hdepth := h.mediaQ.len_le
  have hpool := h.audio.len_le
  have hwithin := h.read_le hi
  obtain ⟨m, hm⟩ : ∃ m, m = p.mediaQ.turned b.mediaDepth i := ⟨_, rfl⟩
  have hmarker : c.pool.mediaQ.turned b.mediaDepth i = m := by rw [hm, hc.markers i (Nat.le_refl _) (by omega)]
  rw [← hc.read, ← hm] at hwithin
  have hpayload : c.pool.audioRead b c.read m.len = window (p.audio.turned b.audioPool) c.read m.len :=
    (Ring.read_eq_window (by omega)).trans (window_congr fun j hj => hc.bytes _ (by omega) (by omega))
  have hread : c.read + m.len = mediaBytes (window (p.mediaQ.turned b.mediaDepth) 0 (i + 1)) := by
    rw [window_succ, Nat.zero_add, mediaBytes_append, ← hc.read, ← hm]
    rfl
  have hentries : (mediaEntries (p.audio.turned b.audioPool) 0
      (window (p.mediaQ.turned b.mediaDepth) 0 (i + 1))).filter (·.stays streamId) =
        c.pool.items b ++ [m.item (window (p.audio.turned b.audioPool) c.read m.len)].filter (·.stays streamId) := by
    rw [window_succ, Nat.zero_add, mediaEntries_append, List.filter_append, ← hc.items, ← hm, Nat.zero_add, ← hc.read]
    rfl
  have hwrite := hc.write_le
  have hkept := hc.kept_le
  unfold discardStep
  dsimp only
  rw [hmarker, hpayload]
  -- the item belongs to the stream that ends and is dropped, or it is moved up to those that are kept
  by_cases hgoes : (m.stream == streamId && m.opcode != .voiceStarted) = true
  · have hstays : (m.item (window (p.audio.turned b.audioPool) c.read m.len)).stays streamId = false := by
      unfold MediaItem.stays MediaMarker.item
      rw [hgoes]
      rfl
    rw [if_pos hgoes]
    refine ⟨hc.ok, hc.active, ?_, hread, by dsimp only; omega, by dsimp only; omega, fun j hj => ?_, fun j hj => ?_⟩
    · rw [hentries, List.filter_cons_of_neg (by simp [hstays]), List.filter_nil, List.append_nil]
    · exact hc.bytes j (by dsimp only at hj; omega)
    · exact hc.markers j (by omega)
  · have hstays : (m.item (window (p.audio.turned b.audioPool) c.read m.len)).stays streamId = true := by
      unfold MediaItem.stays MediaMarker.item
      rw [Bool.not_eq_true] at hgoes
      rw [hgoes]
      rfl
    have hlength : m.len = (window (p.audio.turned b.audioPool) c.read m.len).length := length_window.symm
    obtain ⟨hok, hitems, hlen, hbytes, hmarkers⟩ := hc.ok.put hlength (by omega) (by omega)
    rw [length_window] at hlen hbytes
    rw [if_neg hgoes]
    refine ⟨hok, hc.active, ?_, hread, by dsimp only; omega, ?_, fun j hj hlt => ?_, fun j hj hlt => ?_⟩
    · rw [hentries, List.filter_cons_of_pos hstays, List.filter_nil]
      exact hitems
    · exact Nat.succ_le_succ hkept
    · dsimp only at hj ⊢
      rw [hbytes j (by omega) hlt]
      exact hc.bytes j (by omega) hlt
    · dsimp only
      rw [hmarkers j (by omega) hlt]
      exact hc.markers j (by omega) hlt

/-- The loop. -/
lemma Ok.compacted (h : p.Ok b) (streamId : UInt32) (hi : i ≤ p.mediaQ.len) :
    Compacted b p streamId i ((List.range i).foldl (fun c i => discardStep b streamId i c)
      { pool := { p with audio := p.audio.setLen 0, mediaQ := p.mediaQ.setLen 0 }, read := 0 }) := by
  induction i with
  | zero =>
    exact ⟨⟨⟨h.audio.head_lt, Nat.zero_le _⟩, ⟨h.mediaQ.head_lt, Nat.zero_le _⟩, rfl⟩, rfl, rfl, rfl, Nat.le_refl _,
      Nat.le_refl _, fun _ _ _ => rfl, fun _ _ _ => rfl⟩
  | succ i ih =>
    rw [List.range_succ, List.foldl_append]
    exact (ih (Nat.le_of_succ_le hi)).step h hi

/-- `media_discard_current` on the list. -/
lemma Ok.discardCurrent (h : p.Ok b) (streamId : UInt32) :
    (p.discardCurrent b streamId).Ok b ∧
      (p.discardCurrent b streamId).queue b = (p.queue b).discardCurrent streamId := by
  have hloop := h.compacted streamId (Nat.le_refl _)
  refine ⟨hloop.ok, ?_⟩
  unfold MediaPool.queue MediaQueue.discardCurrent
  congr 1
  · exact hloop.active
  · exact hloop.items

end Steps

end MediaPool

end RemoteBridge
