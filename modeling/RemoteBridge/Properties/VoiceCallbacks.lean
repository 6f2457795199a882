import RemoteBridge.Client.BridgeClient

/-!
# Voice callbacks come in brackets

What the application hears of a stream is a START, fragments and formats, and one END or abort; the
brackets of two streams do not overlap, and the fragments of one follow each other without gap.  The
grammar of the callbacks (`Opened`, `Complete`) is stated without the client; the stream that the client
holds says where in it the callbacks stand (`Stands`).

One callback lies outside the brackets: a voice event that is refused while no stream runs is reported as
the abort of stream 0, and 0 is the id of no stream.  A board that announces a stream id again, after
its first stream is over, opens a second bracket for it.
-/

namespace RemoteBridge.Python

/-! ## The grammar of the callbacks -/

namespace EncodedFragment

/-- The last byte of the fragment is the last of its unit. -/
def Ends (c : EncodedFragment) : Prop := c.fragmentOffset + c.data.length = c.unitSize

/-- The first fragment of a stream. -/
structure Opens (c : EncodedFragment) : Prop where
  frame : c.frameSeq = 1
  unit : c.unitSeq = 1
  offset : c.fragmentOffset = 0
  samples : c.firstSampleIndex = 0

/-- `c` is the fragment behind `p`: the next of the same unit, or the first of the next unit. -/
structure Follows (p c : EncodedFragment) : Prop where
  frame : c.frameSeq = p.frameSeq + 1
  fresh : p.Ends → c.unitSeq = p.unitSeq + 1 ∧ c.fragmentOffset = 0 ∧
    c.firstSampleIndex = nextSamples p.firstSampleIndex p.unitSampleCount
  within : ¬ p.Ends → c.unitMeta = p.unitMeta ∧ c.fragmentOffset = p.fragmentOffset + p.data.length

/-- The fragment is a non-empty part of its unit. -/
structure Fits (c : EncodedFragment) : Prop where
  nonempty : c.data ≠ []
  bounded : c.fragmentOffset + c.data.length ≤ c.unitSize

end EncodedFragment

/-- The callbacks of a stream that is not over, and its last fragment. -/
inductive Opened (id : Nat) : List VoiceCall → Option EncodedFragment → Prop
  | start {f : AudioFormat} (hid : f.streamId = id) (hpos : 0 < id) : Opened id [.start f] none
  | format {calls last} {f : AudioFormat} (h : Opened id calls last) (hid : f.streamId = id)
      (hends : ∀ p ∈ last, p.Ends) : Opened id (calls ++ [.format f]) last
  | first {calls} {c : EncodedFragment} (h : Opened id calls none) (hid : c.streamId = id) (hopens : c.Opens)
      (hfits : c.Fits) : Opened id (calls ++ [.data c]) (some c)
  | next {calls p} {c : EncodedFragment} (h : Opened id calls (some p)) (hid : c.streamId = id)
      (hfollows : p.Follows c) (hfits : c.Fits) : Opened id (calls ++ [.data c]) (some c)

/-- Callbacks of streams that are over, and of events that were refused without a stream. -/
inductive Complete : List VoiceCall → Prop
  | nil : Complete []
  | finish {calls id opened last} {e : AudioEnd} (h : Complete calls) (ho : Opened id opened last)
      (hid : e.streamId = id) : Complete (calls ++ opened ++ [.finish e])
  | abort {calls id opened last reason} (h : Complete calls) (ho : Opened id opened last) :
      Complete (calls ++ opened ++ [.abort id reason])
  | refused {calls reason} (h : Complete calls) : Complete (calls ++ [.abort 0 reason])

/-- A bracket is open exactly while the client holds a stream. -/
structure BridgeClient.Bracketed {σ : Type} (c : BridgeClient σ) : Prop where
  idle : c.stream = none → Complete c.calls
  streaming : ∀ s, c.stream = some s → ∃ before opened last,
    c.calls = before ++ opened ∧ Complete before ∧ Opened s.streamId opened last

/-! ## What a stream has taken -/

/-- The counters of a stream stand behind its last fragment. -/
inductive AudioStream.Stands (s : AudioStream) : Option EncodedFragment → Prop
  | fresh (hseq : s.seq = 0) (hunit : s.unit = 1) (hoffset : s.offset = 0) (hsamples : s.samples = 0) :
      s.Stands none
  | between {p : EncodedFragment} (hends : p.Ends) (hseq : s.seq = p.frameSeq) (hunit : s.unit = p.unitSeq + 1)
      (hoffset : s.offset = 0) (hsamples : s.samples = nextSamples p.firstSampleIndex p.unitSampleCount) :
      s.Stands (some p)
  | within {p : EncodedFragment} (hends : ¬ p.Ends) (hseq : s.seq = p.frameSeq)
      (hoffset : s.offset = p.fragmentOffset + p.data.length) (hpos : s.offset ≠ 0)
      (hpending : s.pending = some p.unitMeta) : s.Stands (some p)

/-- A computation that returns has returned at each step. -/
lemma ok_of_bind {α β : Type} {x : Except Raised α} {g : α → Except Raised β} {b : β} (h : x >>= g = .ok b) :
    ∃ a, x = .ok a ∧ g a = .ok b := by
  cases x with
  | error e => cases h
  | ok a => exact ⟨a, rfl, h⟩

namespace AudioStream

variable {s s' : AudioStream} {f : AudioFormat} {c : EncodedFragment} {last : Option EncodedFragment}

lemma checked_eq {f' : AudioFormat} (h : f.checked = .ok f') : f' = f ∧ 0 < f.streamId := by
  unfold AudioFormat.checked at h
  split_ifs at h with hbounds
  exact ⟨(Except.ok.inj h).symm, hbounds.1⟩

lemma format_ok (h : s.format f = .ok s') :
    f.streamId = s.streamId ∧ 0 < f.streamId ∧ s.offset = 0 ∧ s' = { s with fmt := f, epoch := f.epoch } := by
  unfold format at h
  obtain ⟨f', hc, hok⟩ := ok_of_bind h
  obtain ⟨rfl, hpos⟩ := checked_eq hc
  split at hok
  · cases hok
  · split at hok
    · cases hok
    · rename_i hbound
      push Not at hbound
      exact ⟨hbound.1, hpos, hbound.2.2.1, (Except.ok.inj hok).symm⟩

lemma init_ok {accepted : List (Nat × Nat)} {maxUnit : Nat} (h : init f accepted maxUnit = .ok s) :
    s.streamId = f.streamId ∧ 0 < f.streamId ∧ s.Stands none := by
  obtain ⟨-, hpos, -, rfl⟩ := format_ok h
  exact ⟨rfl, hpos, .fresh rfl rfl rfl rfl⟩

/-- A format is taken between two units and leaves the counters alone. -/
lemma Stands.format (hs : s.Stands last) (h : s.format f = .ok s') :
    s'.Stands last ∧ ∀ p ∈ last, p.Ends := by
  obtain ⟨-, -, hzero, rfl⟩ := format_ok h
  cases hs with
  | fresh hseq hunit hoffset hsamples => exact ⟨.fresh hseq hunit hoffset hsamples, by simp⟩
  | between hends hseq hunit hoffset hsamples =>
    refine ⟨.between hends hseq hunit hoffset hsamples, fun p hp => ?_⟩
    rwa [← Option.some.inj hp]
  | within hends hseq hoffset hpos hpending => exact absurd hzero hpos

/-- What `feed` has checked of a fragment it takes. -/
structure Takes (s : AudioStream) (c : EncodedFragment) : Prop where
  stream : c.streamId = s.streamId
  frame : c.frameSeq = s.seq + 1
  unit : c.unitSeq = s.unit
  offset : c.fragmentOffset = s.offset
  samples : c.firstSampleIndex = s.samples
  same : s.pending.isSome → s.pending = some c.unitMeta
  fits : c.Fits

lemma feed_ok {checked now : Nat} (h : s.feed c checked now = .ok s') :
    s.Takes c ∧ s'.streamId = s.streamId ∧ s'.Stands (some c) := by
  unfold feed at h
  obtain ⟨-, -, hok⟩ := ok_of_bind h
  split at hok
  · cases hok
  rename_i hdata
  split at hok
  · cases hok
  rename_i hcont
  push Not at hcont
  obtain ⟨hstream, hframe, -, hunit, -, hoffset, hsamples, hroom, hsame⟩ := hcont
  have htakes : s.Takes c :=
    ⟨hstream, hframe, hunit, hoffset, hsamples, hsame, ⟨hdata, by rw [hoffset]; omega⟩⟩
  dsimp only at hok
  by_cases hends : s.offset + c.data.length = c.unitSize
  · rw [if_pos hends] at hok
    obtain rfl := Except.ok.inj hok
    refine ⟨htakes, rfl, .between ?_ rfl ?_ rfl ?_⟩
    · exact (congrArg (· + c.data.length) hoffset).trans hends
    · exact congrArg (· + 1) hunit.symm
    · exact congrArg (nextSamples · c.unitSampleCount) hsamples.symm
  · rw [if_neg hends] at hok
    obtain rfl := Except.ok.inj hok
    refine ⟨htakes, rfl, .within ?_ rfl ?_ ?_ rfl⟩
    · intro hc
      exact hends ((congrArg (· + c.data.length) hoffset).symm.trans hc)
    · exact congrArg (· + c.data.length) hoffset.symm
    · have hlen : c.data.length ≠ 0 := fun hzero => hdata (List.length_eq_zero_iff.mp hzero)
      change s.offset + c.data.length ≠ 0
      omega

/-- A fragment that a stream takes continues it. -/
lemma Takes.opened {id : Nat} {calls : List VoiceCall} (h : s.Takes c) (hid : s.streamId = id)
    (hs : s.Stands last) (ho : Opened id calls last) : Opened id (calls ++ [.data c]) (some c) := by
  have hc : c.streamId = id := h.stream.trans hid
  cases hs with
  | fresh hseq hunit hoffset hsamples =>
    refine ho.first hc ⟨?_, ?_, ?_, ?_⟩ h.fits
    · rw [h.frame, hseq]
    · rw [h.unit, hunit]
    · rw [h.offset, hoffset]
    · rw [h.samples, hsamples]
  | between hends hseq hunit hoffset hsamples =>
    refine ho.next hc ⟨?_, fun _ => ⟨?_, ?_, ?_⟩, fun hno => absurd hends hno⟩ h.fits
    · rw [h.frame, hseq]
    · rw [h.unit, hunit]
    · rw [h.offset, hoffset]
    · rw [h.samples, hsamples]
  | within hends hseq hoffset hpos hpending =>
    have hmeta := h.same (by rw [hpending]; rfl)
    refine ho.next hc ⟨?_, fun hyes => absurd hyes hends, fun _ => ⟨?_, ?_⟩⟩ h.fits
    · rw [h.frame, hseq]
    · exact Option.some.inj (hmeta.symm.trans hpending)
    · rw [h.offset, hoffset]

lemma finish_ok {e : AudioEnd} (h : s.finish e = .ok ()) : e.streamId = s.streamId := by
  unfold finish at h
  split at h
  · cases h
  · rename_i hno
    push Not at hno
    exact hno.1

end AudioStream

/-! ## The client -/

namespace BridgeClient

variable {σ : Type} {c c' : BridgeClient σ}

/-- The callbacks are where the stream of the client stands. -/
structure Inv (c : BridgeClient σ) : Prop where
  idle : c.stream = none → Complete c.calls
  streaming : ∀ s, c.stream = some s → ∃ before opened last,
    c.calls = before ++ opened ∧ Complete before ∧ Opened s.streamId opened last ∧ s.Stands last

lemma Inv.bracketed (h : c.Inv) : c.Bracketed where
  idle := h.idle
  streaming s hs :=
    let ⟨before, opened, last, hcalls, hbefore, hopened, _⟩ := h.streaming s hs
    ⟨before, opened, last, hcalls, hbefore, hopened⟩

/-- The invariant reads the stream and the callbacks. -/
lemma Inv.congr (h : c.Inv) (hstream : c'.stream = c.stream) (hcalls : c'.calls = c.calls) : c'.Inv where
  idle hs := hcalls ▸ h.idle (hstream ▸ hs)
  streaming s hs := hcalls ▸ h.streaming s (hstream ▸ hs)

/-- A client without a stream and with brackets that are over. -/
lemma Inv.of_complete (hstream : c.stream = none) (h : Complete c.calls) : c.Inv where
  idle _ := h
  streaming s hs := absurd (hstream.symm.trans hs) (by simp)

/-- An abort closes the open bracket. -/
lemma Inv.abort {s : AudioStream} (h : c.Inv) (hs : c.stream = some s) (reason : String) :
    Complete (c.calls ++ [.abort s.streamId reason]) := by
  obtain ⟨before, opened, last, hcalls, hbefore, hopened, -⟩ := h.streaming s hs
  rw [hcalls]
  exact hbefore.abort hopened

lemma Inv.rejectAudio (h : c.Inv) (reason : String) : (c.rejectAudio reason).Inv := by
  unfold BridgeClient.rejectAudio
  split
  · exact h
  · refine .of_complete rfl ?_
    rcases hs : c.stream with _ | s
    · exact (h.idle hs).refused
    · exact h.abort hs reason

lemma Inv.abortVoice (h : c.Inv) (reason : String) :
    (c.abortVoice reason).Inv ∧ (c.abortVoice reason).stream = none := by
  unfold BridgeClient.abortVoice
  split
  · rename_i hs
    exact ⟨h, hs⟩
  · rename_i s hs
    exact ⟨.of_complete rfl (h.abort hs reason), rfl⟩

lemma Inv.sessionBroken (h : c.Inv) (A : Aside σ) : (c.sessionBroken A).Inv := by
  have hreset : Inv { c with sessionId := 0, connectionId := 0, rxSeq := 0, aside := A.broken c.aside } :=
    h.congr rfl rfl
  exact (hreset.abortVoice "session_lost").1.congr rfl rfl

/-- A voice event that does not raise. -/
lemma Inv.voiceEvent {op : Nat} {payload : List UInt8} {checked now : Nat} (h : c.Inv)
    (hok : c.voiceEvent op payload checked now = .ok c') : c'.Inv := by
  unfold BridgeClient.voiceEvent at hok
  split at hok
  · obtain ⟨t, -, hok⟩ := ok_of_bind hok
    obtain ⟨f, -, hok⟩ := ok_of_bind hok
    split at hok
    · -- START opens a bracket behind those that are over.
      split at hok
      · cases hok
      rename_i hnone
      obtain ⟨s, hs, hok⟩ := ok_of_bind hok
      obtain ⟨hid, hpos, hstands⟩ := AudioStream.init_ok hs
      obtain rfl := Except.ok.inj hok
      refine ⟨fun hidle => absurd hidle (by simp [call]), fun s' hs' => ?_⟩
      obtain rfl := Option.some.inj hs'
      refine ⟨c.calls, [.start f], none, rfl, h.idle ?_, .start hid.symm (hid ▸ hpos), hstands⟩
      simpa using hnone
    · split at hok
      · cases hok
      rename_i s hs
      obtain ⟨s₁, hs₁, hok⟩ := ok_of_bind hok
      obtain ⟨before, opened, last, hcalls, hbefore, hopened, hstands⟩ := h.streaming s hs
      obtain ⟨hid, -, -, hsame⟩ := AudioStream.format_ok hs₁
      obtain ⟨hstands₁, hends⟩ := hstands.format hs₁
      obtain rfl := Except.ok.inj hok
      refine ⟨fun hidle => absurd hidle (by simp [call]), fun s' hs' => ?_⟩
      obtain rfl := Option.some.inj hs'
      have hsid : s₁.streamId = s.streamId := by rw [hsame]
      refine ⟨before, opened ++ [.format f], last, ?_, hbefore, ?_, hstands₁⟩
      · simp only [call, hcalls, List.append_assoc]
      · rw [hsid]
        exact hopened.format hid hends
  · split at hok
    · split at hok
      · cases hok
      rename_i s hs
      obtain ⟨fragment, -, hok⟩ := ok_of_bind hok
      obtain ⟨s₁, hs₁, hok⟩ := ok_of_bind hok
      obtain ⟨before, opened, last, hcalls, hbefore, hopened, hstands⟩ := h.streaming s hs
      obtain ⟨htakes, hsid, hstands₁⟩ := AudioStream.feed_ok hs₁
      obtain rfl := Except.ok.inj hok
      refine ⟨fun hidle => absurd hidle (by simp [call]), fun s' hs' => ?_⟩
      obtain rfl := Option.some.inj hs'
      refine ⟨before, opened ++ [.data fragment], some fragment, ?_, hbefore, ?_, hstands₁⟩
      · simp only [call, hcalls, List.append_assoc]
      · rw [hsid]
        exact htakes.opened rfl hstands hopened
    · -- END closes the bracket of its stream.
      obtain ⟨t, -, hok⟩ := ok_of_bind hok
      split at hok
      · cases hok
      rename_i s hs
      obtain ⟨⟨⟩, hfin, hok⟩ := ok_of_bind hok
      obtain ⟨before, opened, last, hcalls, hbefore, hopened, -⟩ := h.streaming s hs
      obtain rfl := Except.ok.inj hok
      refine .of_complete rfl ?_
      simp only [call, hcalls]
      exact hbefore.finish hopened (AudioStream.finish_ok hfin)

lemma Inv.handleVoice {op : Nat} {payload : List UInt8} {checked now : Nat} (h : c.Inv)
    (hok : c.handleVoice op payload checked now = some c') : c'.Inv := by
  unfold BridgeClient.handleVoice at hok
  split at hok
  · obtain rfl := Option.some.inj hok
    split
    · exact h.congr rfl rfl
    · exact h
  · split at hok
    · rename_i c₁ hc₁
      obtain rfl := Option.some.inj hok
      exact h.voiceEvent hc₁
    · obtain rfl := Option.some.inj hok
      exact h.rejectAudio _
    · cases hok

lemma Inv.takeDevice (h : c.Inv) (A : Aside σ) (t : List (UInt8 × PyTlvValue)) : (c.takeDevice A t).Inv := by
  unfold BridgeClient.takeDevice
  dsimp only
  split
  · exact (h.abortVoice "connection_changed").1.congr rfl rfl
  · exact h.congr rfl rfl

lemma Inv.handleEvent {A : Aside σ} {hdr : Header} {payload : List UInt8} {checked now : Nat} (h : c.Inv)
    (hok : c.handleEvent A hdr payload checked now = some c') : c'.Inv := by
  unfold BridgeClient.handleEvent at hok
  dsimp only at hok
  split at hok
  · cases hok
  split at hok
  · split at hok
    · cases hok
    · split at hok
      · cases hok
      · obtain rfl := Option.some.inj hok
        exact h.takeDevice A _
  split at hok
  · cases hok
  split at hok
  · exact h.handleVoice hok
  · obtain ⟨aside, -, rfl⟩ := Option.map_eq_some_iff.mp hok
    exact h.congr rfl rfl

lemma Inv.handleResponse {A : Aside σ} {hdr : Header} {payload : List UInt8} (h : c.Inv)
    (hok : c.handleResponse A hdr payload = some c') : c'.Inv := by
  unfold BridgeClient.handleResponse at hok
  split at hok
  · obtain rfl := Option.some.inj hok
    exact h
  split at hok
  · cases hok
  split at hok
  · cases hok
  split at hok
  · obtain rfl := Option.some.inj hok
    exact h
  split at hok
  · cases hok
  split at hok
  · cases hok
  split at hok
  · cases hok
  · obtain rfl := Option.some.inj hok
    exact h.congr rfl rfl

lemma Inv.handleHello (h : c.Inv) (nonce : List UInt8) (hdr : Header) (payload : List UInt8) (crcOk : Bool) :
    (c.handleHello nonce hdr payload crcOk).Inv := by
  unfold BridgeClient.handleHello
  repeat' split
  all_goals first
    | exact h
    | exact h.congr rfl rfl

lemma Inv.handleFrame (h : c.Inv) (A : Aside σ) (hdr : Header) (payload : List UInt8) (crcOk : Bool)
    (checked now : Nat) : (c.handleFrame A hdr payload crcOk checked now).Inv := by
  unfold BridgeClient.handleFrame
  split
  · exact h.handleHello _ hdr payload crcOk
  split
  · exact h
  split
  · exact h.sessionBroken A
  split
  · exact h
  rcases hok : c.acceptFrame A hdr payload checked now with _ | c'
  · exact h.sessionBroken A
  unfold BridgeClient.acceptFrame at hok
  have hseq : Inv { c with rxSeq := hdr.txSeq } := h.congr rfl rfl
  split at hok
  · cases hok
  dsimp only at hok
  split at hok
  · exact hseq.handleResponse hok
  split at hok
  · split at hok
    · cases hok
    · exact hseq.handleEvent hok
  · cases hok

lemma Inv.checkTimeout (h : c.Inv) (now : Nat) : (c.checkTimeout now).Inv := by
  unfold BridgeClient.checkTimeout
  split
  · exact h
  split
  · exact h.rejectAudio _
  · exact h

lemma Inv.newRequest (h : c.Inv) (A : Aside σ) (opcode : Nat) (cookie : Option Nat) :
    (c.newRequest A opcode cookie).Inv := by
  unfold BridgeClient.newRequest
  split
  · exact h
  split
  · exact h.sessionBroken A
  · exact h.congr rfl rfl

lemma Inv.getDevice (h : c.Inv) (A : Aside σ) (payload : List UInt8) : (c.getDevice A payload).Inv := by
  unfold BridgeClient.getDevice
  split
  · exact h
  · exact h.takeDevice A _

lemma Inv.handleParsed (h : c.Inv) (A : Aside σ) (checked now : Nat) (e : Event) :
    (c.handleParsed A checked now e).Inv := by
  have hbroken : Inv (if c.helloNonce = none ∧ c.sessionId ≠ 0 then c.sessionBroken A else c) := by
    split
    · exact h.sessionBroken A
    · exact h
  cases e with
  | frame hdr payload crcOk => exact h.handleFrame A hdr payload crcOk checked now
  | timeout => exact hbroken
  | overflow => exact hbroken
  | garbage => exact hbroken

lemma Inv.run (h : c.Inv) (A : Aside σ) (i : ClientInput σ) : (i.run A c).Inv := by
  cases i with
  | parsed e checked now => exact h.handleParsed A checked now e
  | timeout now => exact h.checkTimeout now
  | sessionLost => exact h.sessionBroken A
  | hello nonce => exact (h.sessionBroken A).congr rfl rfl
  | helloEnded ok =>
    cases ok with
    | false => exact (h.sessionBroken A).congr rfl rfl
    | true => exact h.congr rfl rfl
  | request opcode cookie => exact h.newRequest A opcode cookie
  | requestEnded id => exact h.congr rfl rfl
  | getDevice payload => exact h.getDevice A payload
  | voiceCodecs accepted maxUnit => exact h.congr rfl rfl
  | voiceEnabled enable => cases enable <;> exact h.congr rfl rfl
  | aside s => exact h.congr rfl rfl

end BridgeClient

/-- Whatever a client is given, its voice callbacks are brackets. -/
theorem clientRun_bracketed {σ : Type} (A : Aside σ) (s : σ) (inputs : List (ClientInput σ)) :
    (clientRun A s inputs).Bracketed := by
  have hrun : ∀ (inputs : List (ClientInput σ)) (c : BridgeClient σ), c.Inv →
      (inputs.foldl (ClientInput.run A) c).Inv := by
    intro inputs
    induction inputs with
    | nil => exact fun c h => h
    | cons i rest ih => exact fun c h => ih _ (h.run A i)
  exact (hrun inputs { aside := s } (.of_complete rfl .nil)).bracketed

/-! ## What lies outside the brackets -/

namespace VoiceCall

/-- The stream that a callback names. -/
def streamId : VoiceCall → Nat
  | start f => f.streamId
  | data c => c.streamId
  | format f => f.streamId
  | finish e => e.streamId
  | abort id _ => id

end VoiceCall

/-- Fragments and formats, and at most one end or abort behind them. -/
def isClosing : List VoiceCall → Bool
  | [] => true
  | [.finish _] => true
  | [.abort _ _] => true
  | .data _ :: rest => isClosing rest
  | .format _ :: rest => isClosing rest
  | _ => false

/-- No callback at all, or one bracket. -/
def isBracket : List VoiceCall → Bool
  | [] => true
  | .start _ :: rest => isClosing rest
  | _ => false

/-- The callbacks that name a stream. -/
def BridgeClient.callsOf {σ : Type} (id : Nat) (c : BridgeClient σ) : List VoiceCall :=
  c.calls.filter fun v => v.streamId == id

/-- Other parts that take everything. -/
def lenientAside : Aside Unit where
  event _ _ _ := some ()
  response _ _ _ := true
  device _ _ _ := ()
  broken _ := ()

/-- A frame of the board in session 1. -/
def boardFrame (kind opcode txSeq connection : Nat) (payload : List UInt8) : ClientInput Unit :=
  .parsed
    (.frame
      { kind, sessionId := 1, txSeq, requestId := if kind = 2 then 1 else 0, opcode,
        payloadSize := payload.length, connectionId := connection } payload true) 0 0

/-- The answer to the nonce, and a device with connection 1. -/
def connectedInputs : List (ClientInput Unit) :=
  [.hello [9],
    boardFrame 2 0x0001 1 0
      (tlvField 1 .bytes [9] ++ tlvField 2 .bytes (List.replicate 16 0) ++ tlvField 3 .text [] ++
        tlvField 4 .u8 [64] ++ tlvField 5 .u16 (put16 512) ++ tlvField 6 .u32 (put32 0)),
    boardFrame 3 0x0183 2 0
      (tlvField 1 .u32 (put32 1) ++ tlvField 2 .u32 (put32 1) ++ tlvField 3 .u8 [5] ++ tlvField 4 .text [] ++
        tlvField 5 .text [] ++ tlvField 6 .u32 (put32 1) ++ tlvField 7 .u8 [1] ++ tlvField 8 .u8 [1] ++
        tlvField 9 .u32 (put32 16000) ++ tlvField 10 .u8 [80] ++ tlvField 11 .u8 [0] ++ tlvField 12 .bool [1] ++
        tlvField 13 .bool [0] ++ tlvField 14 .u32 (put32 0) ++ tlvField 15 .bool [0] ++ tlvField 16 .u16 (put16 0) ++
        tlvField 18 .u8 [1] ++ tlvField 19 .u32 (put32 0))]

/-- A fragment that no START announced. -/
def unstartedInputs : List (ClientInput Unit) := connectedInputs ++ [boardFrame 4 0x0381 3 1 []]

/-- The START of stream 7. -/
def startPayload : List UInt8 :=
  tlvField 1 .u32 (put32 7) ++ tlvField 2 .u32 (put32 1) ++ tlvField 3 .u32 (put32 1) ++
    tlvField 4 .u16 (put16 1) ++ tlvField 5 .u32 (put32 16000) ++ tlvField 6 .u8 [1] ++ tlvField 7 .bytes [] ++
    tlvField 8 .u32 (put32 40) ++ tlvField 9 .u64 (put64 0) ++ tlvField 10 .u64 (put64 0) ++
    tlvField 11 .u32 (put32 1)

/-- The END of stream 7 before its first fragment. -/
def endPayload : List UInt8 :=
  tlvField 1 .u32 (put32 7) ++ tlvField 2 .u8 [0] ++ tlvField 3 .u64 (put64 0) ++ tlvField 4 .u64 (put64 0) ++
    tlvField 5 .u32 (put32 0) ++ tlvField 6 .u64 (put64 0) ++ tlvField 7 .u32 (put32 1)

/-- Stream 7 is announced again behind its end. -/
def repeatedInputs : List (ClientInput Unit) :=
  connectedInputs ++
    [.voiceCodecs [(1, 1)] 65536, boardFrame 3 0x0380 3 1 startPayload, boardFrame 3 0x0382 4 1 endPayload,
      boardFrame 3 0x0380 5 1 startPayload]

/-- Stream 0 has an abort without START, and a repeated id has two brackets. -/
theorem not_isBracket :
    isBracket ((clientRun lenientAside () unstartedInputs).callsOf 0) = false ∧
      isBracket ((clientRun lenientAside () repeatedInputs).callsOf 7) = false := by
  decide +kernel

end RemoteBridge.Python
