/-
The playout buffer of a source without a clock is the clock of what it sends.

A run of `SynthClock` is a list of frames pushed and ticks.  `Ticked` says what a tick
can do; the accounts of the frames, the timeline and the talk spurts of whole runs
follow from it.
-/
import RtpBridge.Session.Playout.Grid

namespace RtpBridge.Session.Playout

open Wire Machine List Option

variable {start : SynthClock} {out : List SynthFrame} {payload : Bytes} {pushed : List Bytes}

inductive SynthCall where
  | push (payload : Bytes)
  | drainTick
deriving DecidableEq

structure SynthFrame where
  packet : RoutedRtpPacket
  real : Bool
deriving DecidableEq

structure SynthRecord where
  wasIdle : Bool
  frame : Option SynthFrame
deriving DecidableEq

namespace SynthClock

variable {s s' : SynthClock}

def call (s : SynthClock) : SynthCall → SynthClock × SynthRecord
  | .push payload => (s.push payload, ⟨s.state == .idle, none⟩)
  | .drainTick =>
    let (s', out) := s.drainTick
    (s', ⟨s.state == .idle, out.map fun packet => ⟨packet, !s.queue.isEmpty⟩⟩)

/-! ## One call -/

def stamp (s : SynthClock) (marker : Bool) (payload : Bytes) : RoutedRtpPacket :=
  { sourceEndpointId := s.sourceId, payloadType := l16Pt, sequenceNumber := s.seq,
    timestamp := s.ts, ssrc := s.ssrc, marker := marker, payload := payload }

def advance (s : SynthClock) : SynthClock := { s with seq := s.seq + 1, ts := s.ts + s.tsStep }

def line (s : SynthClock) : UInt32 × UInt32 × Bytes := (s.ssrc, s.tsStep, s.silence)

inductive Ticked (s : SynthClock) : SynthClock → Option RoutedRtpPacket → Prop
  | idle (hi : s.state = .idle) : Ticked s s none
  | waiting (ticks : Nat) (hs : s.state = .prebuffering) :
      Ticked s { s with prebufferTicks := ticks } none
  | frame (payload : Bytes) (rest : List Bytes) (ticks target : Nat) (underran : Bool)
      (ha : s.state ≠ .idle) (hq : s.queue = payload :: rest)
      (ht : target = s.targetFrames ∨
        target = s.targetFrames + 1 ∧ s.targetFrames < synthMaxTargetFrames) :
      Ticked s
        { s.advance with queue := rest, state := .active, prebufferTicks := ticks,
                         underflowTicks := 0, targetFrames := target,
                         underranThisSpurt := underran, pendingMarker := false }
        (some (s.stamp s.pendingMarker payload))
  | silence (ticks : Nat) (ha : s.state ≠ .idle) (hq : s.queue = [])
      (hf : s.underflowTicks + 1 ≤ synthIdleTicks) :
      Ticked s
        { s.advance with
            state := .active, prebufferTicks := ticks, underflowTicks := s.underflowTicks + 1,
            counters := { s.counters with underflowFills := s.counters.underflowFills + 1 } }
        (some (s.stamp false s.silence))
  | ended (ticks target : Nat) (ha : s.state ≠ .idle) (hq : s.queue = [])
      (ht : target = s.targetFrames ∨
        target + 1 = s.targetFrames ∧ synthTargetFrames < s.targetFrames) :
      Ticked s
        { s with state := .idle, prebufferTicks := ticks, underflowTicks := 0,
                 targetFrames := target } none

theorem emitActive_ticked (ticks : Nat) (ha : s.state ≠ .idle) :
    Ticked s ({ s with prebufferTicks := ticks, state := .active } : SynthClock).emitActive.1
      ({ s with prebufferTicks := ticks, state := .active } : SynthClock).emitActive.2 := by
  unfold emitActive
  dsimp only
  split
  · rename_i payload rest hq
    unfold emit
    dsimp only
    rw [Bool.not_false, Bool.and_true]
    have hm : (if s.pendingMarker = true then false else s.pendingMarker) = false := by
      cases s.pendingMarker with
      | true => rfl
      | false => rfl
    split
    · rw [hm]
      refine .frame payload rest ticks _ true ha hq ?_
      grind
    · rw [hm]
      exact .frame payload rest ticks _ _ ha hq (.inl rfl)
  · rename_i hq
    split
    · refine .ended ticks _ ha hq ?_
      grind
    rename_i hf
    unfold emit
    rw [Bool.not_true, Bool.and_false]
    exact .silence ticks ha hq (Nat.le_of_not_lt hf)

theorem drainTick_ticked (s : SynthClock) : Ticked s s.drainTick.1 s.drainTick.2 := by
  unfold drainTick
  split
  · rename_i hi
    exact .idle hi
  · rename_i hs
    dsimp only
    split
    · exact emitActive_ticked _ (by rw [hs]; decide)
    · exact .waiting _ hs
  rename_i hs
  have ht := emitActive_ticked (s := s) s.prebufferTicks (by rw [hs]; decide)
  rw [← hs] at ht
  exact ht

structure Pushed (s : SynthClock) (payload : Bytes) (s' : SynthClock) : Prop where
  seq : s'.seq = s.seq
  ts : s'.ts = s.ts
  line : s'.line = s.line
  awake : s'.state ≠ .idle
  queue : s'.queue = (s.queue ++ [payload]).drop (s.queue.length + 1 - synthMaxFrames)
  dropped : s'.counters.overflowDrops =
    s.counters.overflowDrops + (s.queue.length + 1 - synthMaxFrames)
  fills : s'.counters.underflowFills = s.counters.underflowFills
  marker : s'.pendingMarker = (s.state == .idle || s.pendingMarker)
  underflow : s'.underflowTicks = s.underflowTicks
  target : s'.targetFrames = s.targetFrames

theorem push_pushed (s : SynthClock) (payload : Bytes) : Pushed s payload (s.push payload) := by
  have hl : (s.queue ++ [payload]).length = s.queue.length + 1 := length_append
  unfold push
  by_cases hi : s.state = .idle
  · rw [if_pos hi]
    dsimp only
    rw [hl]
    refine ⟨rfl, rfl, rfl, ?_, rfl, rfl, rfl, ?_, rfl, rfl⟩
    · dsimp only
      split <;> decide
    · rw [hi]
      rfl
  rw [if_neg hi]
  dsimp only
  rw [hl]
  refine ⟨rfl, rfl, rfl, ?_, rfl, rfl, rfl, ?_, rfl, rfl⟩
  · dsimp only
    split
    · decide
    · exact hi
  grind

/-! ## Runs -/

abbrev History := List (SynthCall × SynthRecord)

variable {tr : History}

def frames (tr : History) : List SynthFrame := tr.filterMap fun x => x.2.frame

def payloads (tr : History) : List Bytes :=
  tr.filterMap fun
    | (.push payload, _) => some payload
    | (.drainTick, _) => none

theorem frames_append (tr : History) (x : SynthCall) (idle : Bool) (out : Option SynthFrame) :
    frames (tr ++ [(x, ⟨idle, out⟩)]) = frames tr ++ out.toList := by
  grind [frames]

theorem payloads_push (tr : History) (payload : Bytes) (r : SynthRecord) :
    payloads (tr ++ [(.push payload, r)]) = payloads tr ++ [payload] := filterMap_append

theorem payloads_drainTick (tr : History) (r : SynthRecord) :
    payloads (tr ++ [(.drainTick, r)]) = payloads tr :=
  filterMap_append.trans (append_nil _)

def tickRecord (s : SynthClock) (out : Option RoutedRtpPacket) : SynthRecord :=
  ⟨s.state == .idle, out.map fun packet => ⟨packet, !s.queue.isEmpty⟩⟩

theorem run_induction {P : History → SynthClock → Prop} (h : P [] start)
    (hp : ∀ tr s payload s', Pushed s payload s' → P tr s →
      P (tr ++ [(.push payload, ⟨s.state == .idle, none⟩)]) s')
    (ht : ∀ tr s s' out, Ticked s s' out → P tr s →
      P (tr ++ [(.drainTick, s.tickRecord out)]) s') (calls : List SynthCall) :
    P (trace call start calls) (exec call start calls) := by
  refine history_induction h (fun tr s x hP => ?_) calls
  cases x with
  | push payload => exact hp tr s payload _ (s.push_pushed payload) hP
  | drainTick => exact ht tr s _ _ s.drainTick_ticked hP

/-! ## The timeline -/

/-- The packets so far are numbered from the start of the timeline on, and the next one
follows them. -/
structure OnTime (start : SynthClock) (out : List SynthFrame) (s : SynthClock) : Prop where
  seq : s.seq = start.seq + UInt16.ofNat out.length
  ts : s.ts = start.ts + UInt32.ofNat out.length * start.tsStep
  line : s.line = start.line
  stamps : out.map (fun f => (f.packet.sequenceNumber, f.packet.timestamp, f.packet.ssrc)) =
    (List.range out.length).map fun i =>
      (start.seq + UInt16.ofNat i, start.ts + UInt32.ofNat i * start.tsStep, start.ssrc)
  filled : ∀ f ∈ out, f.real = false → f.packet.payload = start.silence

theorem OnTime.send (h : OnTime start out s) (hse : s'.seq = s.seq + 1)
    (hts : s'.ts = s.ts + s.tsStep) (hli : s'.line = s.line) (marker real : Bool)
    (hp : real = false → payload = s.silence) :
    OnTime start (out ++ [⟨s.stamp marker payload, real⟩]) s' := by
  obtain ⟨hss, hst, hs⟩ : s.ssrc = start.ssrc ∧ s.tsStep = start.tsStep ∧
      s.silence = start.silence := by grind [h.line, SynthClock.line]
  have hl : (out ++ [(⟨s.stamp marker payload, real⟩ : SynthFrame)]).length =
      out.length + 1 := length_append
  refine ⟨?_, ?_, hli.trans h.line, ?_, ?_⟩
  · rw [hse, h.seq, hl, UInt16.ofNat_add, UInt16.add_assoc]
    rfl
  · rw [hts, h.ts, hst, hl, UInt32.ofNat_add, UInt32.add_mul, UInt32.add_assoc]
    rw [show UInt32.ofNat 1 = 1 from rfl, UInt32.one_mul]
  · rw [hl, map_append, h.stamps, range_succ, map_append]
    refine congrArg (_ ++ ·) ?_
    show [(s.seq, s.ts, s.ssrc)] = [_]
    rw [h.seq, h.ts, hss]
  intro f hf hr
  rcases mem_append.mp hf with hf | hf
  · exact h.filled f hf hr
  · rw [mem_singleton.mp hf] at hr ⊢
    exact (hp hr).trans hs

theorem OnTime.wait (h : OnTime start out s) (hse : s'.seq = s.seq) (hts : s'.ts = s.ts)
    (hli : s'.line = s.line) : OnTime start (out ++ []) s' := by
  rw [append_nil]
  exact ⟨hse.trans h.seq, hts.trans h.ts, hli.trans h.line, h.stamps, h.filled⟩

theorem onTime_run (start : SynthClock) (calls : List SynthCall) :
    OnTime start (frames (trace call start calls)) (exec call start calls) := by
  refine run_induction (P := fun tr s => OnTime start (frames tr) s) ?_ ?_ ?_ calls
  · refine ⟨(UInt16.add_zero _).symm, ?_, rfl, rfl, fun f hf => absurd hf not_mem_nil⟩
    show start.ts = start.ts + 0 * start.tsStep
    rw [UInt32.zero_mul, UInt32.add_zero]
  · intro tr s payload s' hp h
    rw [frames_append]
    exact h.wait hp.seq hp.ts hp.line
  intro tr s s' out ht h
  rw [frames_append]
  cases ht with
  | idle hi => exact h.wait rfl rfl rfl
  | waiting ticks hs => exact h.wait rfl rfl rfl
  | frame payload rest ticks target underran ha hq hta =>
    refine h.send ?_ ?_ ?_ _ _ fun hr => ?_
    · rfl
    · rfl
    · rfl
    · rw [hq] at hr
      cases hr
  | silence ticks ha hq hfe =>
    refine h.send ?_ ?_ ?_ _ _ fun _ => rfl
    · rfl
    · rfl
    · rfl
  | ended ticks target ha hq hta => exact h.wait rfl rfl rfl

/-! ## The frames -/

def Flow (pushed : List Bytes) (out : List SynthFrame) (s : SynthClock) : Prop :=
  ∃ gone : List (Bytes × Bool), pushed = gone.map Prod.fst ++ s.queue ∧
    (out.filter SynthFrame.real).map (fun f => f.packet.payload) =
      (gone.filter Prod.snd).map Prod.fst ∧
    s.counters.overflowDrops = (gone.filter fun g => !g.2).length

/-- The two counters are the frames dropped and the packets of silence. -/
structure Counted (pushed : List Bytes) (out : List SynthFrame) (s : SynthClock) : Prop where
  flow : Flow pushed out s
  fills : s.counters.underflowFills = (out.filter fun f => !f.real).length

section

variable (h : Counted pushed out s)
include h

theorem Counted.wait (hq : s'.queue = s.queue)
    (hc : s'.counters = s.counters) : Counted pushed (out ++ []) s' := by
  obtain ⟨gone, hp, hs, hd⟩ := h.flow
  rw [append_nil]
  refine ⟨⟨gone, ?_, hs, ?_⟩, ?_⟩
  · rw [hq]
    exact hp
  · rw [hc]
    exact hd
  · rw [hc]
    exact h.fills

theorem Counted.push (hp : Pushed s payload s') : Counted (pushed ++ [payload]) (out ++ []) s' := by
  obtain ⟨gone, hpu, hs, hd⟩ := h.flow
  rw [append_nil]
  -- what is dropped is the front of the queue
  refine ⟨⟨gone ++ ((s.queue ++ [payload]).take (s.queue.length + 1 - synthMaxFrames)).map
    (·, false), ?_, ?_, ?_⟩, hp.fills.trans h.fills⟩
  · rw [hp.queue, hpu, List.map_append, List.map_map, List.append_assoc, List.append_assoc]
    refine congrArg (_ ++ ·) ?_
    show _ = ((s.queue ++ [payload]).take _).map id ++ _
    rw [List.map_id, List.take_append_drop]
  · rw [List.filter_append, List.filter_map, hs]
    simp
  have ha : ∀ l : List Bytes, (l.map (·, false)).filter (fun g => !g.2) = l.map (·, false) := by
    intro l
    apply filter_eq_self.mpr
    intro g hg
    obtain ⟨b, -, rfl⟩ := mem_map.mp hg
    rfl
  grind [hp.dropped]

theorem Counted.send {rest : List Bytes}
    (hq : s.queue = payload :: rest) (hr : s'.queue = rest)
    (hc : s'.counters = s.counters) (marker : Bool) :
    Counted pushed (out ++ [⟨s.stamp marker payload, true⟩]) s' := by
  obtain ⟨gone, hp, hs, hd⟩ := h.flow
  refine ⟨⟨gone ++ [(payload, true)], ?_, ?_, ?_⟩, ?_⟩
  · rw [hp, hq, hr, map_append, append_assoc]
    rfl
  · rw [filter_append, map_append, hs, filter_append, map_append]
    rfl
  · rw [hc, hd, filter_append]
    exact congrArg List.length (append_nil _).symm
  · rw [hc, h.fills, filter_append]
    exact congrArg List.length (append_nil _).symm

theorem Counted.fill (hq : s'.queue = s.queue)
    (hc : s'.counters = { s.counters with underflowFills := s.counters.underflowFills + 1 })
    (packet : RoutedRtpPacket) : Counted pushed (out ++ [⟨packet, false⟩]) s' := by
  obtain ⟨gone, hp, hs, hd⟩ := h.flow
  refine ⟨⟨gone, ?_, ?_, ?_⟩, ?_⟩
  · rw [hq]
    exact hp
  · rw [filter_append, map_append, hs]
    exact append_nil _
  · rw [hc]
    exact hd
  · rw [hc, filter_append, length_append]
    exact congrArg (· + 1) h.fills

end

theorem counted_run (sourceId : EndpointId) (clockRate ssrc : UInt32) (seq : UInt16) (ts : UInt32)
    (calls : List SynthCall) :
    Counted (payloads (trace call (synth sourceId clockRate ssrc seq ts) calls))
      (frames (trace call (synth sourceId clockRate ssrc seq ts) calls))
      (exec call (synth sourceId clockRate ssrc seq ts) calls) := by
  refine run_induction (P := fun tr s => Counted (payloads tr) (frames tr) s) ?_ ?_ ?_ calls
  · exact ⟨⟨[], rfl, rfl, rfl⟩, rfl⟩
  · intro tr s payload s' hp h
    rw [frames_append, payloads_push]
    exact h.push hp
  intro tr s s' out ht h
  rw [payloads_drainTick]
  unfold tickRecord
  rw [frames_append]
  cases ht with
  | idle hi => exact h.wait rfl rfl
  | waiting ticks hs => exact h.wait rfl rfl
  | frame payload rest ticks target underran ha hq hta =>
    rw [show (!s.queue.isEmpty) = true by rw [hq]; rfl]
    refine h.send hq ?_ ?_ _
    · rfl
    · rfl
  | silence ticks ha hq hf =>
    rw [hq]
    refine h.fill ?_ ?_ _
    · rfl
    · rfl
  | ended ticks target ha hq hta => exact h.wait rfl rfl

/-! ## Talk spurts -/

/-- An idle buffer is empty, and one that has not sent the first frame of a spurt is not. -/
structure Bounded (s : SynthClock) : Prop where
  idle : s.state = .idle → s.queue = []
  pending : s.state ≠ .idle → s.pendingMarker = true → s.queue ≠ []
  length : s.queue.length ≤ synthMaxFrames
  low : synthTargetFrames ≤ s.targetFrames
  high : s.targetFrames ≤ synthMaxTargetFrames

theorem Bounded.push (h : Bounded s) (hp : Pushed s payload s') : Bounded s' := by
  have hl : s'.queue.length = s.queue.length + 1 - (s.queue.length + 1 - synthMaxFrames) := by
    rw [hp.queue, length_drop, length_append]
    rfl
  have hr : synthMaxFrames = 14 := rfl
  refine ⟨fun hi => absurd hi hp.awake, fun _ _ he => ?_, by omega, ?_, ?_⟩
  · rw [he] at hl
    have hn : ([] : List Bytes).length = 0 := rfl
    omega
  · rw [hp.target]
    exact h.low
  · rw [hp.target]
    exact h.high

theorem Bounded.tick (h : Bounded s) {out : Option RoutedRtpPacket} (ht : Ticked s s' out) :
    Bounded s' := by
  have hl := h.length
  have hlo := h.low
  have hh := h.high
  cases ht with
  | idle hi => exact h
  | waiting ticks hs => exact ⟨h.idle, h.pending, hl, hlo, hh⟩
  | frame payload rest ticks target underran ha hq hta =>
    rw [hq] at hl
    refine ⟨fun hi => SynthState.noConfusion hi, fun _ hp => ?_, Nat.le_of_succ_le hl, ?_, ?_⟩
    · exact absurd hp Bool.false_ne_true
    · show synthTargetFrames ≤ target
      omega
    · show target ≤ synthMaxTargetFrames
      omega
  | silence ticks ha hq hf =>
    refine ⟨fun _ => hq, fun _ hp => h.pending ha hp, hl, hlo, hh⟩
  | ended ticks target ha hq hta =>
    refine ⟨fun _ => hq, fun ha => absurd rfl ha, hl, ?_, ?_⟩
    · show synthTargetFrames ≤ target
      omega
    · show target ≤ synthMaxTargetFrames
      omega

def Unsent (tr : History) : Bool :=
  !(since (fun x => x.2.wasIdle) tr).any fun x => x.2.frame.any SynthFrame.real

/-- The marker waits for the first frame of a spurt, and the packets of silence since the
last frame are counted. -/
structure InSpurt (tr : History) (s : SynthClock) : Prop where
  bounded : Bounded s
  marker : s.state ≠ .idle → s.pendingMarker = Unsent tr
  silence : (since SynthFrame.real (frames tr)).length ≤ synthIdleTicks
  underflow : s.state ≠ .idle → s.pendingMarker = false →
    (since SynthFrame.real (frames tr)).length = s.underflowTicks

theorem unsent_append (tr : History) (x : SynthCall) (idle : Bool) (out : Option SynthFrame) :
    Unsent (tr ++ [(x, ⟨idle, out⟩)]) = (idle || (!out.any SynthFrame.real && Unsent tr)) := by
  unfold Unsent
  rw [since_append]
  grind

theorem beq_idle_of_awake (h : s.state ≠ .idle) : (s.state == .idle) = false :=
  beq_false_of_ne h

theorem InSpurt.push (h : InSpurt tr s) (hp : Pushed s payload s') :
    InSpurt (tr ++ [(.push payload, ⟨s.state == .idle, none⟩)]) s' := by
  have hf : frames (tr ++ [(.push payload, ⟨s.state == .idle, none⟩)]) = frames tr :=
    (frames_append tr _ _ none).trans (append_nil _)
  refine ⟨h.bounded.push hp, fun _ => ?_, ?_, fun _ hs => ?_⟩
  · rw [unsent_append, hp.marker]
    by_cases hi : s.state = .idle
    · rw [hi]
      rfl
    · rw [h.marker hi]
      rfl
  · rw [hf]
    exact h.silence
  rw [hp.marker, Bool.or_eq_false_iff] at hs
  have ha : s.state ≠ .idle := fun hi => by
    rw [hi] at hs
    exact absurd hs.1 (by decide)
  rw [hf, hp.underflow]
  exact h.underflow ha hs.2

theorem InSpurt.quiet (h : InSpurt tr s) (hb : Bounded s')
    (hs : s'.state = .idle ∨ s'.state = s.state) (hm : s'.pendingMarker = s.pendingMarker)
    (ht : s'.state = s.state → s'.underflowTicks = s.underflowTicks) :
    InSpurt (tr ++ [(.drainTick, s.tickRecord none)]) s' := by
  have hf : frames (tr ++ [(.drainTick, s.tickRecord none)]) = frames tr :=
    (frames_append tr _ _ none).trans (append_nil _)
  have hsame : s'.state ≠ .idle → s'.state = s.state := fun ha =>
    hs.resolve_left ha
  refine ⟨hb, fun ha => ?_, ?_, fun ha hse => ?_⟩
  · grind [tickRecord, unsent_append, h.marker]
  · rw [hf]
    exact h.silence
  have hbe : s.state ≠ .idle := by
    rw [← hsame ha]
    exact ha
  rw [hf, ht (hsame ha)]
  exact h.underflow hbe (hm ▸ hse)

theorem InSpurt.tick (h : InSpurt tr s) {out : Option RoutedRtpPacket} (ht : Ticked s s' out) :
    InSpurt (tr ++ [(.drainTick, s.tickRecord out)]) s' := by
  have hb := h.bounded.tick ht
  cases ht with
  | idle hi => exact h.quiet hb (.inr rfl) rfl fun _ => rfl
  | waiting ticks hs => exact h.quiet hb (.inr rfl) rfl fun _ => rfl
  | frame payload rest ticks target underran ha hq hta =>
    have hr : (!s.queue.isEmpty) = true := by
      rw [hq]
      rfl
    unfold tickRecord
    rw [hr, beq_idle_of_awake ha]
    refine ⟨hb, fun _ => ?_, ?_, fun _ _ => ?_⟩
    · rw [unsent_append]
      rfl
    · rw [frames_append, map_some, toList_some, since_append]
      exact Nat.zero_le _
    · rw [frames_append, map_some, toList_some, since_append]
      rfl
  | silence ticks ha hq hf =>
    -- the first frame of the spurt has been sent, or the queue would not be empty
    have hse : s.pendingMarker = false := by
      cases hp : s.pendingMarker with
      | false => rfl
      | true => exact absurd hq (h.bounded.pending ha hp)
    have hc := h.underflow ha hse
    unfold tickRecord
    rw [hq, beq_idle_of_awake ha]
    have hsi : (since SynthFrame.real (frames (tr ++ [(.drainTick, ⟨false,
        some ⟨s.stamp false s.silence, false⟩⟩)]))).length = s.underflowTicks + 1 := by
      rw [frames_append, toList_some, since_append, if_neg Bool.false_ne_true, length_cons, hc]
    refine ⟨hb, fun _ => ?_, hsi.trans_le hf, fun _ _ => hsi⟩
    rw [unsent_append]
    exact (h.marker ha).trans rfl
  | ended ticks target ha hq hta =>
    refine h.quiet hb (.inl rfl) rfl fun hs => ?_
    exact absurd hs.symm ha

theorem inSpurt_run (sourceId : EndpointId) (clockRate ssrc : UInt32) (seq : UInt16) (ts : UInt32)
    (calls : List SynthCall) :
    InSpurt (trace call (synth sourceId clockRate ssrc seq ts) calls)
      (exec call (synth sourceId clockRate ssrc seq ts) calls) := by
  refine run_induction ?_ (fun tr s payload s' hp h => h.push hp)
    (fun tr s s' out ht h => h.tick ht) calls
  have hta : synthTargetFrames ≤ synthMaxTargetFrames := by decide
  refine ⟨⟨fun _ => rfl, fun ha => absurd rfl ha, Nat.zero_le _, le_refl _, hta⟩,
    fun ha => absurd rfl ha, Nat.zero_le _, fun ha => absurd rfl ha⟩

theorem InSpurt.marked (h : InSpurt tr s) {f : SynthFrame}
    (hf : (s.call .drainTick).2.frame = some f) : f.packet.marker = (f.real && Unsent tr) := by
  have ht := s.drainTick_ticked
  unfold call at hf
  generalize s.drainTick = r at ht hf
  obtain ⟨s', out⟩ := r
  cases ht with
  | idle hi => cases hf
  | waiting ticks hs => cases hf
  | frame payload rest ticks target underran ha hq hta =>
    rw [hq] at hf
    cases hf
    exact h.marker ha
  | silence ticks ha hq hfe =>
    rw [hq] at hf
    cases hf
    rfl
  | ended ticks target ha hq hta => cases hf

/-- A source without a clock is played on a timeline of its own: every packet follows the
one before, every frame is sent or dropped as the oldest, gaps are filled with counted
silence, and the first frame after an idle period alone is marked. -/
theorem synth_clock_master (sourceId : EndpointId) (clockRate ssrc : UInt32) (seq : UInt16)
    (ts : UInt32) (calls : List SynthCall) (s : SynthClock) (tr : History)
    (hs : s = exec call (synth sourceId clockRate ssrc seq ts) calls)
    (htr : tr = trace call (synth sourceId clockRate ssrc seq ts) calls) :
    ((frames tr).map fun f =>
        (f.packet.sequenceNumber, f.packet.timestamp, f.packet.ssrc)) =
        ((List.range (frames tr).length).map fun i =>
          (seq + UInt16.ofNat i, ts + UInt32.ofNat i * (clockRate / 50), ssrc)) ∧
      Flow (payloads tr) (frames tr) s ∧
      (payloads tr).length = ((frames tr).filter SynthFrame.real).length +
        s.counters.overflowDrops + s.queue.length ∧
      s.counters.underflowFills = ((frames tr).filter fun f => !f.real).length ∧
      (∀ f ∈ frames tr, f.real = false →
        f.packet.payload = List.replicate ((clockRate / 50).toNat * 2) 0) ∧
      (∀ f, (s.call .drainTick).2.frame = some f → f.packet.marker = (f.real && Unsent tr)) ∧
      (s.state = .idle → s.queue = []) ∧
      s.queue.length ≤ 14 ∧ 3 ≤ s.targetFrames ∧ s.targetFrames ≤ 7 ∧
      (since SynthFrame.real (frames tr)).length ≤ 10 := by
  have htime := onTime_run (synth sourceId clockRate ssrc seq ts) calls
  have hcounted := counted_run sourceId clockRate ssrc seq ts calls
  have hspurt := inSpurt_run sourceId clockRate ssrc seq ts calls
  rw [← hs, ← htr] at htime hcounted hspurt
  have hb := hspurt.bounded
  refine ⟨htime.stamps, hcounted.flow, ?_, hcounted.fills, htime.filled,
    fun f hf => hspurt.marked hf, hb.idle, hb.length, hb.low, hb.high, hspurt.silence⟩
  obtain ⟨gone, hpushed, hsent, hdropped⟩ := hcounted.flow
  have hparts := length_eq_length_filter_add (l := gone) Prod.snd
  have hsent := congrArg List.length hsent
  rw [length_map, length_map] at hsent
  rw [hpushed, hdropped, hsent, length_append, length_map, hparts]

def sampleSpurt : List SynthCall :=
  [.push [1, 1], .push [2, 2], .push [3, 3], .drainTick, .drainTick, .drainTick, .drainTick,
    .drainTick]

theorem sampleSpurt_clock : ((frames (trace call (synth 1 50 7 65534 0) sampleSpurt)).map fun f =>
        (f.packet.sequenceNumber, f.packet.payload, f.packet.marker)) =
        [(65534, [1, 1], true), (65535, [2, 2], false), (0, [3, 3], false), (1, [0, 0], false),
          (2, [0, 0], false)] ∧
      (exec call (synth 1 50 7 65534 0) sampleSpurt).counters.underflowFills =
        ((frames (trace call (synth 1 50 7 65534 0) sampleSpurt)).filter
          fun f => !f.real).length := by
  refine ⟨by decide +kernel, ?_⟩
  exact (synth_clock_master 1 50 7 65534 0 sampleSpurt _ _ rfl rfl).2.2.2.1

end SynthClock
end RtpBridge.Session.Playout
