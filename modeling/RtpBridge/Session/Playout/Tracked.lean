/-
The playout buffer of a network source, `TrackedClock` of `session/playout.rs`.

Packets are reordered by their extended sequence number.  A mixer-fed buffer plays
each of them when its sender timestamp is due against an anchor; the other kind
releases them as soon as they are in order.  Points in time and durations are
nanoseconds.  The loops of the source that skip stale heads and shed the oldest
packets take a prefix of the queue, and they are written that way.  A subtraction
that leaves the range of the clock is left out, and so is the codec format, which
nothing here reads.  The `u64` counters of drops and fills are natural numbers: each
counts packets or grid ticks, and none reaches 2 ^ 64.
-/
import RtpBridge.Base.OrderedMap
import RtpBridge.Session.Rtp.Endpoint

namespace RtpBridge.Session.Playout

open List

variable {gridNow : Int} {anchor : UInt32 × Int} {pkt : RoutedRtpPacket} {ext : Nat}

def millis (n : Int) : Int := n * 10 ^ 6

def frame : Int := millis 20

theorem frame_eq : frame = 20000000 := rfl

def trackedShallow : Int := millis 40

def trackedMixerTarget : Int := millis 60

def trackedMixerMax : Int := millis 200

def trackedMaxFrames : Nat := 16

def reorderMaxFrames : Nat := 256

def reorderDepth : Nat := 3

def trackedGapReset : Int := millis 200

structure PlayoutCounters where
  overflowDrops : Nat := 0
  underflowFills : Nat := 0
  lateDrops : Nat := 0
deriving DecidableEq

abbrev Entry := Nat × RoutedRtpPacket

variable {head : Entry}

structure TrackedClock where
  sourceId : EndpointId
  clockRate : UInt32
  ssrc : Option UInt32 := none
  roc : UInt32 := 0
  maxSeq : UInt16 := 0
  seenAny : Bool := false
  lastEmittedExt : Option Nat := none
  lastArrival : Option Int := none
  anchor : Option (UInt32 × Int) := none
  targetDelay : Int
  maxDelay : Int
  mixerFed : Bool
  maxFrames : Nat
  queue : OrderedMap RoutedRtpPacket := ∅
  pendingMarker : Bool := true
  underflowRun : Nat := 0
  counters : PlayoutCounters := {}

variable {b c c' start : TrackedClock}

def tracked (sourceId : EndpointId) (clockRate : UInt32) (mixerFed : Bool) : TrackedClock :=
  { sourceId := sourceId, clockRate := max clockRate 1,
    targetDelay := if mixerFed then trackedMixerTarget else trackedShallow,
    maxDelay := if mixerFed then trackedMixerMax else trackedShallow,
    mixerFed := mixerFed,
    maxFrames := if mixerFed then trackedMaxFrames else reorderMaxFrames }

namespace TrackedClock

def hasPending (c : TrackedClock) : Bool := !c.queue.isEmpty

/-! ### Arrivals -/

def reset (c : TrackedClock) (ssrc : UInt32) : TrackedClock :=
  { c with ssrc := some ssrc, roc := 0, seenAny := false, lastEmittedExt := none,
           lastArrival := none, anchor := none, queue := ∅, pendingMarker := true,
           underflowRun := 0 }

/-- The sequence number with its rollover counter; only a newer one moves the counter.
Nothing older than the first epoch has one. -/
def extendSeq (c : TrackedClock) (seq : UInt16) : TrackedClock × Option Nat :=
  let ext := fun roc : UInt32 => roc.toNat * 2 ^ 16 + seq.toNat
  if c.seenAny = false then ({ c with seenAny := true, maxSeq := seq }, some (ext c.roc))
  else if seq - c.maxSeq < 0x8000 then
    let roc := if seq < c.maxSeq then c.roc + 1 else c.roc
    ({ c with roc := roc, maxSeq := seq }, some (ext roc))
  else if c.maxSeq < seq then (c, if c.roc = 0 then none else some (ext (c.roc - 1)))
  else (c, some (ext c.roc))

def adopt (c : TrackedClock) (ssrc : UInt32) : TrackedClock :=
  match c.ssrc with
  | some cur => if cur = ssrc then c else c.reset ssrc
  | none => { c with ssrc := some ssrc }

def endSpurt (c : TrackedClock) (arrival : Int) : TrackedClock :=
  if c.queue.isEmpty && c.lastArrival.any fun last => trackedGapReset < arrival - last then
    { c with anchor := none, pendingMarker := true, underflowRun := 0 }
  else c

def countLate (c : TrackedClock) (n : Nat) : TrackedClock :=
  { c with counters := { c.counters with lateDrops := c.counters.lateDrops + n } }

def enqueue (c : TrackedClock) (ext : Nat) (pkt : RoutedRtpPacket) (arrival : Int) : TrackedClock :=
  let anchor := c.anchor.getD (pkt.timestamp, arrival + c.targetDelay)
  let queue := c.queue.insert ext pkt
  let shed := queue.entries.take (queue.size - c.maxFrames)
  let queue := queue.drop (queue.size - c.maxFrames)
  { c with
      queue := queue,
      lastEmittedExt := (shed.getLast?.map Prod.fst).or c.lastEmittedExt,
      counters := { c.counters with
        overflowDrops := c.counters.overflowDrops + shed.length },
      anchor :=
        if shed.isEmpty then some anchor
        else
          match queue.first? with
          | some head => some (head.2.timestamp, arrival + c.targetDelay)
          | none => some anchor }

def meet (c : TrackedClock) (pkt : RoutedRtpPacket) (arrival : Int) : TrackedClock :=
  { (c.adopt pkt.ssrc).endSpurt arrival with lastArrival := some arrival }

def push (c : TrackedClock) (pkt : RoutedRtpPacket) (arrival : Int) : TrackedClock :=
  match (c.meet pkt arrival).extendSeq pkt.sequenceNumber with
  | (c, none) => c.countLate 1
  | (c, some ext) =>
    if c.lastEmittedExt.any (ext ≤ ·) then c.countLate 1 else c.enqueue ext pkt arrival

/-! ### Playout -/

def mediaTime (c : TrackedClock) (ticks : UInt32) : Int :=
  ((ticks.toNat * 1000000 / c.clockRate.toNat : Nat) : Int) * 1000

def playTime (c : TrackedClock) (ts anchorTs : UInt32) (anchorPlay : Int) : Int :=
  if ts - anchorTs < 0x80000000 then anchorPlay + c.mediaTime (ts - anchorTs)
  else anchorPlay - c.mediaTime (anchorTs - ts)

def takeHead (c : TrackedClock) (head : Entry) : TrackedClock × RoutedRtpPacket :=
  ({ c with queue := c.queue.drop 1, lastEmittedExt := some head.1, pendingMarker := false },
    { head.2 with marker := head.2.marker || c.pendingMarker, sourceEndpointId := c.sourceId })

def playOf (c : TrackedClock) (anchor : UInt32 × Int) (e : Entry) : Int :=
  c.playTime e.2.timestamp anchor.1 anchor.2

def isStale (c : TrackedClock) (anchor : UInt32 × Int) (gridNow : Int) (e : Entry) : Bool :=
  c.playOf anchor e ≤ gridNow && c.maxDelay < gridNow - c.playOf anchor e

def skipStale (c : TrackedClock) (anchor : UInt32 × Int) (gridNow : Int) : TrackedClock :=
  let skipped := c.queue.entries.takeWhile (c.isStale anchor gridNow)
  { c.countLate skipped.length with
      queue := c.queue.dropWhile (c.isStale anchor gridNow),
      lastEmittedExt := (skipped.getLast?.map Prod.fst).or c.lastEmittedExt }

def underflow (c : TrackedClock) : TrackedClock :=
  if 3 ≤ c.underflowRun + 1 ∧ c.targetDelay < c.maxDelay then
    { c with targetDelay := min (c.targetDelay + frame) c.maxDelay, underflowRun := 0 }
  else { c with underflowRun := c.underflowRun + 1 }

def drainPaced (c : TrackedClock) (gridNow : Int) : TrackedClock × Option RoutedRtpPacket :=
  match c.anchor with
  | none => (c, none)
  | some anchor =>
    let c := c.skipStale anchor gridNow
    match c.queue.first? with
    | none => (c.underflow, none)
    | some head =>
      if gridNow < c.playOf anchor head then (c, none)
      else
        let (c, pkt) := ({ c with underflowRun := 0 } : TrackedClock).takeHead head
        (c, some pkt)

def releasable (c : TrackedClock) (head : Entry) : Bool :=
  match c.lastEmittedExt with
  | none => true
  | some last => head.1 == last + 1 || reorderDepth ≤ c.queue.size

def drainReorder (c : TrackedClock) : TrackedClock × Option RoutedRtpPacket :=
  match c.queue.first? with
  | none => (c, none)
  | some head =>
    if c.releasable head then
      let (c, pkt) := c.takeHead head
      (c, some pkt)
    else (c, none)

def drainTick (c : TrackedClock) (gridNow : Int) : TrackedClock × Option RoutedRtpPacket :=
  if c.mixerFed then c.drainPaced gridNow else c.drainReorder

def drainTimes (gridNow : Int) : Nat → TrackedClock → TrackedClock × List RoutedRtpPacket
  | 0, c => (c, [])
  | n + 1, c =>
    match c.drainTick gridNow with
    | (c, none) => (c, [])
    | (c, some pkt) =>
      let (c, pkts) := drainTimes gridNow n c
      (c, pkt :: pkts)

/-- A tick of the grid.  Every drained packet leaves the queue, so the bound is never
reached. -/
def tick (c : TrackedClock) (gridNow : Int) : TrackedClock × List RoutedRtpPacket :=
  drainTimes gridNow (c.queue.size + 1) c

/-! ### What draining does -/

structure Steady (c c' : TrackedClock) : Prop where
  sourceId : c'.sourceId = c.sourceId
  clockRate : c'.clockRate = c.clockRate
  ssrc : c'.ssrc = c.ssrc
  roc : c'.roc = c.roc
  maxSeq : c'.maxSeq = c.maxSeq
  seenAny : c'.seenAny = c.seenAny
  lastArrival : c'.lastArrival = c.lastArrival
  anchor : c'.anchor = c.anchor
  maxDelay : c'.maxDelay = c.maxDelay
  mixerFed : c'.mixerFed = c.mixerFed
  maxFrames : c'.maxFrames = c.maxFrames
  grows : c.targetDelay ≤ c'.targetDelay
  capped : c.targetDelay ≤ c.maxDelay → c'.targetDelay ≤ c.maxDelay

theorem Steady.refl (c : TrackedClock) : c.Steady c :=
  ⟨rfl, rfl, rfl, rfl, rfl, rfl, rfl, rfl, rfl, rfl, rfl, le_refl _, fun h => h⟩

theorem Steady.trans {a : TrackedClock} (hab : a.Steady b) (hbc : b.Steady c) : a.Steady c where
  sourceId := hbc.sourceId.trans hab.sourceId
  clockRate := hbc.clockRate.trans hab.clockRate
  ssrc := hbc.ssrc.trans hab.ssrc
  roc := hbc.roc.trans hab.roc
  maxSeq := hbc.maxSeq.trans hab.maxSeq
  seenAny := hbc.seenAny.trans hab.seenAny
  lastArrival := hbc.lastArrival.trans hab.lastArrival
  anchor := hbc.anchor.trans hab.anchor
  maxDelay := hbc.maxDelay.trans hab.maxDelay
  mixerFed := hbc.mixerFed.trans hab.mixerFed
  maxFrames := hbc.maxFrames.trans hab.maxFrames
  grows := le_trans hab.grows hbc.grows
  capped := by
    intro h
    have hc := hbc.capped
    rw [hab.maxDelay] at hc
    exact hc (hab.capped h)

def strip (pkt : RoutedRtpPacket) : RoutedRtpPacket :=
  { pkt with marker := false, sourceEndpointId := 0 }

def IsDue (c : TrackedClock) (gridNow : Int) (e : Entry) : Prop :=
  ∃ anchor, c.anchor = some anchor ∧ c.playOf anchor e ≤ gridNow

def skips (c : TrackedClock) (gridNow : Int) (e : Entry) : Bool :=
  c.mixerFed && c.anchor.any fun anchor => c.isStale anchor gridNow e

theorem Steady.playOf (h : c.Steady c') (anchor : UInt32 × Int) (e : Entry) :
    c'.playOf anchor e = c.playOf anchor e := by
  simp only [TrackedClock.playOf, playTime, mediaTime, h.clockRate]

theorem Steady.skips (h : c.Steady c') (gridNow : Int) (e : Entry) :
    c'.skips gridNow e = c.skips gridNow e := by
  simp only [TrackedClock.skips, isStale, h.playOf, h.maxDelay, h.mixerFed, h.anchor]

theorem Steady.isDue (h : c.Steady c') {e : Entry} : c'.IsDue gridNow e ↔ c.IsDue gridNow e := by
  simp only [IsDue, h.playOf, h.anchor]

structure Popped (c : TrackedClock) (gridNow : Int) (c' : TrackedClock)
    (outs : List RoutedRtpPacket) (popped : List Entry) : Prop where
  steady : c.Steady c'
  split : c.queue.entries = popped ++ c'.queue.entries
  last : c'.lastEmittedExt = (popped.getLast?.map Prod.fst).or c.lastEmittedExt
  outs : outs.map strip = (popped.filter fun e => !c.skips gridNow e).map fun e => strip e.2
  due : c.mixerFed = true → ∀ e ∈ popped, c.IsDue gridNow e

theorem Popped.trans {a : TrackedClock} {o o' : List RoutedRtpPacket} {p p' : List Entry}
    (hab : a.Popped gridNow b o p) (hbc : b.Popped gridNow c o' p') :
    a.Popped gridNow c (o ++ o') (p ++ p') where
  steady := hab.steady.trans hbc.steady
  split := by rw [hab.split, hbc.split, append_assoc]
  last := by grind [hbc.last, hab.last]
  outs := by
    rw [map_append, hab.outs, hbc.outs, filter_append, map_append]
    simp only [hab.steady.skips]
  due := by
    intro hf e he
    rcases mem_append.mp he with he | he
    · exact hab.due hf e he
    · exact hab.steady.isDue.mp (hbc.due (hab.steady.mixerFed.trans hf) e he)

def Blocked (c : TrackedClock) (gridNow : Int) : Prop :=
  ∀ head, c.queue.first? = some head →
    if c.mixerFed then ¬c.IsDue gridNow head else c.releasable head = false

theorem entries_of_first? (h : c.queue.first? = some head) :
    c.queue.entries = head :: (c.queue.drop 1).entries := by
  obtain ⟨rest, hr⟩ := List.head?_eq_some_iff.mp h
  show c.queue.entries = head :: c.queue.entries.drop 1
  rw [hr]
  rfl

theorem Popped.takeHead (h : c.queue.first? = some head) (hp : c.skips gridNow head = false)
    (hd : c.mixerFed = true → c.IsDue gridNow head) :
    c.Popped gridNow (c.takeHead head).1 [(c.takeHead head).2] [head] where
  steady := ⟨rfl, rfl, rfl, rfl, rfl, rfl, rfl, rfl, rfl, rfl, rfl, le_refl _, fun h => h⟩
  split := entries_of_first? h
  last := rfl
  outs := by
    rw [filter_cons, if_pos (by rw [hp]; rfl)]
    rfl
  due := by
    intro hf e he
    rw [mem_singleton.mp he]
    exact hd hf

theorem isStale_isDue {e : Entry} (h : c.isStale anchor gridNow e = true) :
    c.playOf anchor e ≤ gridNow := by
  rw [isStale, Bool.and_eq_true] at h
  exact of_decide_eq_true h.1

theorem Popped.skipStale (hf : c.mixerFed = true) (ha : c.anchor = some anchor)
    (gridNow : Int) :
    c.Popped gridNow (c.skipStale anchor gridNow) []
      (c.queue.entries.takeWhile (c.isStale anchor gridNow)) where
  steady := ⟨rfl, rfl, rfl, rfl, rfl, rfl, rfl, rfl, rfl, rfl, rfl, le_refl _, fun h => h⟩
  split := takeWhile_append_dropWhile.symm
  last := rfl
  outs := by
    rw [filter_eq_nil_iff.mpr]
    · rfl
    · intro e he
      simp [TrackedClock.skips, hf, ha, mem_takeWhile_imp he]
  due := by
    intro _ e he
    exact ⟨anchor, ha, isStale_isDue (mem_takeWhile_imp he)⟩

theorem Steady.underflow (c : TrackedClock) : c.Steady c.underflow := by
  unfold TrackedClock.underflow
  split
  · refine ⟨rfl, rfl, rfl, rfl, rfl, rfl, rfl, rfl, rfl, rfl, rfl, ?_, fun _ => ?_⟩
    · show c.targetDelay ≤ min (c.targetDelay + frame) c.maxDelay
      have hf : (0 : Int) ≤ frame := by decide
      omega
    · exact min_le_right _ _
  · exact ⟨rfl, rfl, rfl, rfl, rfl, rfl, rfl, rfl, rfl, rfl, rfl, le_refl _, fun h => h⟩

theorem Popped.of_steady {o : List RoutedRtpPacket} {p : List Entry} (h : c.Popped gridNow b o p)
    (hs : b.Steady c') (hq : c'.queue = b.queue)
    (hl : c'.lastEmittedExt = b.lastEmittedExt) : c.Popped gridNow c' o p where
  __ := h
  steady := h.steady.trans hs
  split := by rw [hq]; exact h.split
  last := by rw [hl]; exact h.last

theorem queue_underflow (c : TrackedClock) : c.underflow.queue = c.queue := by
  unfold underflow
  split <;> rfl

theorem lastEmittedExt_underflow (c : TrackedClock) :
    c.underflow.lastEmittedExt = c.lastEmittedExt := by
  unfold underflow
  split <;> rfl

theorem Popped.refl (c : TrackedClock) (gridNow : Int) : c.Popped gridNow c [] [] :=
  ⟨Steady.refl c, rfl, rfl, rfl, fun _ _ he => nomatch he⟩

theorem not_isStale_skipStale (h : (c.skipStale anchor gridNow).queue.first? = some head) :
    c.isStale anchor gridNow head = false := by
  have hd : (c.queue.entries.dropWhile (c.isStale anchor gridNow)).head? = some head := h
  have hn := List.head?_dropWhile_not (c.isStale anchor gridNow) c.queue.entries
  rw [hd] at hn
  simpa using hn

theorem drainPaced_popped (hf : c.mixerFed = true) (gridNow : Int) :
    (∃ popped, c.Popped gridNow (c.drainPaced gridNow).1 (c.drainPaced gridNow).2.toList popped) ∧
      ((c.drainPaced gridNow).2 = none → (c.drainPaced gridNow).1.Blocked gridNow) := by
  unfold drainPaced
  split
  · rename_i ha
    refine ⟨⟨[], Popped.refl c gridNow⟩, fun _ head hh => ?_⟩
    rw [if_pos hf]
    rintro ⟨anchor, hso, -⟩
    rw [ha] at hso
    cases hso
  rename_i anchor ha
  have hs := Popped.skipStale hf ha gridNow
  dsimp only
  split
  · rename_i hem
    refine ⟨⟨_, hs.of_steady (Steady.underflow _) (queue_underflow _)
      (lastEmittedExt_underflow _)⟩, fun _ head hh => ?_⟩
    rw [queue_underflow, hem] at hh
    cases hh
  rename_i head hh
  split
  · refine ⟨⟨_, hs⟩, fun _ e he => ?_⟩
    rw [if_pos (hs.steady.mixerFed.trans hf)]
    rintro ⟨anchor', hso, hd⟩
    grind [hs.steady.anchor]
  rename_i hd
  refine ⟨⟨c.queue.entries.takeWhile (c.isStale anchor gridNow) ++ ([] ++ [head]), ?_⟩,
    fun hn => by cases hn⟩
  have hpo : (c.skipStale anchor gridNow).Popped gridNow
      { c.skipStale anchor gridNow with underflowRun := 0 } [] [] :=
    (Popped.refl _ gridNow).of_steady ⟨rfl, rfl, rfl, rfl, rfl, rfl, rfl, rfl, rfl, rfl, rfl,
      le_refl _, fun h => h⟩ rfl rfl
  have hp : ({ c.skipStale anchor gridNow with underflowRun := 0 } : TrackedClock).skips
      gridNow head = false := by
    rw [hpo.steady.skips, hs.steady.skips, TrackedClock.skips, hf, ha]
    exact not_isStale_skipStale hh
  exact hs.trans (hpo.trans (Popped.takeHead hh hp
    fun _ => ⟨anchor, hs.steady.anchor.trans ha, not_lt.mp hd⟩))

theorem drainReorder_popped (hf : c.mixerFed = false) (gridNow : Int) :
    (∃ popped, c.Popped gridNow c.drainReorder.1 c.drainReorder.2.toList popped) ∧
      (c.drainReorder.2 = none → c.drainReorder.1.Blocked gridNow) := by
  have hp : ¬c.mixerFed = true := by
    rw [hf]
    decide
  unfold drainReorder
  split
  · rename_i hem
    refine ⟨⟨[], Popped.refl c gridNow⟩, fun _ head hh => ?_⟩
    rw [hem] at hh
    cases hh
  rename_i head hh
  split
  · refine ⟨⟨[head], Popped.takeHead hh ?_ fun h => absurd h hp⟩, fun hn => by cases hn⟩
    rw [TrackedClock.skips, hf]
    rfl
  · refine ⟨⟨[], Popped.refl c gridNow⟩, fun _ e he => ?_⟩
    grind

theorem drainTick_popped (c : TrackedClock) (gridNow : Int) :
    (∃ popped, c.Popped gridNow (c.drainTick gridNow).1 (c.drainTick gridNow).2.toList popped) ∧
      ((c.drainTick gridNow).2 = none → (c.drainTick gridNow).1.Blocked gridNow) := by
  unfold drainTick
  cases hf : c.mixerFed with
  | true => exact drainPaced_popped hf gridNow
  | false => exact drainReorder_popped hf gridNow

theorem Popped.size_lt {popped : List Entry} (h : c.Popped gridNow c' [pkt] popped) :
    c'.queue.size < c.queue.size := by
  cases popped with
  | nil => cases h.outs
  | cons e rest =>
    have hs := congrArg List.length h.split
    rw [length_append, length_cons] at hs
    show c'.queue.entries.length < c.queue.entries.length
    omega

theorem drainTimes_popped {n : Nat} : ∀ {c : TrackedClock}, c.queue.size < n →
    ∃ popped, c.Popped gridNow (drainTimes gridNow n c).1 (drainTimes gridNow n c).2 popped ∧
      (drainTimes gridNow n c).1.Blocked gridNow := by
  induction n with
  | zero => exact fun h => absurd h (Nat.not_lt_zero _)
  | succ n ih =>
    intro c hs
    obtain ⟨⟨popped, hp⟩, hb⟩ := c.drainTick_popped gridNow
    rw [drainTimes]
    generalize c.drainTick gridNow = result at hp hb
    obtain ⟨c', out⟩ := result
    cases out with
    | none => exact ⟨popped, hp, hb rfl⟩
    | some pkt =>
      have hle : c'.queue.size < c.queue.size := hp.size_lt
      obtain ⟨later, hl, he⟩ := ih (c := c') (by omega)
      exact ⟨popped ++ later, hp.trans hl, he⟩

theorem tick_popped (c : TrackedClock) (gridNow : Int) :
    ∃ popped, c.Popped gridNow (c.tick gridNow).1 (c.tick gridNow).2 popped ∧
      (c.tick gridNow).1.Blocked gridNow :=
  drainTimes_popped (Nat.lt_succ_self _)

/-! ### What an arrival does -/

def extMax (c : TrackedClock) : Nat := c.roc.toNat * 2 ^ 16 + c.maxSeq.toNat

theorem extendSeq_of_eq {d : TrackedClock} (hr : d.roc = c.roc) (hm : d.maxSeq = c.maxSeq)
    (hs : d.seenAny = c.seenAny) (seq : UInt16) :
    d.extendSeq seq =
      ({ d with roc := (c.extendSeq seq).1.roc, maxSeq := (c.extendSeq seq).1.maxSeq,
                seenAny := (c.extendSeq seq).1.seenAny }, (c.extendSeq seq).2) := by
  cases d
  grind [extendSeq]

structure Ahead (c : TrackedClock) (seq : UInt16) (ext : Nat) : Prop where
  extends_to : (c.extendSeq seq).2 = some ext
  newest : (c.extendSeq seq).1.extMax = ext
  last : ∀ l ∈ c.lastEmittedExt, l < ext
  queue : ∀ e ∈ c.queue.entries, e.1 < ext

def anchorAt (c : TrackedClock) (ts : UInt32) (arrival : Int) : UInt32 × Int :=
  (c.endSpurt arrival).anchor.getD (ts, arrival + c.targetDelay)

structure Pushed (c : TrackedClock) (pkt : RoutedRtpPacket) (arrival : Int) (ext : Nat)
    (c' : TrackedClock) : Prop where
  sourceId : c'.sourceId = c.sourceId
  clockRate : c'.clockRate = c.clockRate
  maxDelay : c'.maxDelay = c.maxDelay
  mixerFed : c'.mixerFed = c.mixerFed
  maxFrames : c'.maxFrames = c.maxFrames
  targetDelay : c'.targetDelay = c.targetDelay
  ssrc : c'.ssrc = some pkt.ssrc
  extMax : c'.extMax = ext
  seenAny : c'.seenAny = true
  lastArrival : c'.lastArrival = some arrival
  queue : c'.queue.entries = (c.queue.entries ++ [(ext, pkt)]).drop (c.queue.size + 1 - c.maxFrames)
  shed : c'.lastEmittedExt =
    (((c.queue.entries ++ [(ext, pkt)]).take (c.queue.size + 1 - c.maxFrames)).getLast?.map
      Prod.fst).or c.lastEmittedExt
  keeps : c.queue.size < c.maxFrames → c'.anchor = some (c.anchorAt pkt.timestamp arrival)

theorem seenAny_extendSeq (c : TrackedClock) (seq : UInt16) :
    (c.extendSeq seq).1.seenAny = true := by grind [extendSeq]

theorem adopt_of_same {ssrc : UInt32} (h : ∀ cur ∈ c.ssrc, cur = ssrc) :
    c.adopt ssrc = { c with ssrc := some ssrc } := by
  unfold adopt
  split
  · rename_i cur hc
    have hsame := h cur hc
    rw [if_pos hsame, ← hsame, ← hc]
  · rfl

structure Met (c : TrackedClock) (pkt : RoutedRtpPacket) (arrival : Int) (d : TrackedClock) :
    Prop where
  sourceId : d.sourceId = c.sourceId
  clockRate : d.clockRate = c.clockRate
  maxDelay : d.maxDelay = c.maxDelay
  mixerFed : d.mixerFed = c.mixerFed
  maxFrames : d.maxFrames = c.maxFrames
  targetDelay : d.targetDelay = c.targetDelay
  ssrc : d.ssrc = some pkt.ssrc
  roc : d.roc = c.roc
  maxSeq : d.maxSeq = c.maxSeq
  seenAny : d.seenAny = c.seenAny
  lastArrival : d.lastArrival = some arrival
  lastEmittedExt : d.lastEmittedExt = c.lastEmittedExt
  queue : d.queue = c.queue
  anchor : d.anchor = (c.endSpurt arrival).anchor

theorem meet_of_same (h : ∀ cur ∈ c.ssrc, cur = pkt.ssrc) (arrival : Int) :
    c.Met pkt arrival (c.meet pkt arrival) := by
  unfold meet endSpurt
  rw [adopt_of_same h]
  split
  · exact ⟨rfl, rfl, rfl, rfl, rfl, rfl, rfl, rfl, rfl, rfl, rfl, rfl, rfl, by
      unfold endSpurt; rw [if_pos (by assumption)]⟩
  · exact ⟨rfl, rfl, rfl, rfl, rfl, rfl, rfl, rfl, rfl, rfl, rfl, rfl, rfl, by
      unfold endSpurt; rw [if_neg (by assumption)]⟩

section

variable (pkt : RoutedRtpPacket) (arrival : Int) (h : ∀ e ∈ c.queue.entries, e.1 < ext)
include h

theorem enqueue_queue : (c.enqueue ext pkt arrival).queue.entries =
      (c.queue.entries ++ [(ext, pkt)]).drop (c.queue.size + 1 - c.maxFrames) := by
  unfold enqueue OrderedMap.drop OrderedMap.size
  dsimp only
  rw [OrderedMap.entries_insert_last pkt h, length_append, length_singleton]

theorem enqueue_shed : (c.enqueue ext pkt arrival).lastEmittedExt =
      (((c.queue.entries ++ [(ext, pkt)]).take (c.queue.size + 1 - c.maxFrames)).getLast?.map
        Prod.fst).or c.lastEmittedExt := by
  unfold enqueue OrderedMap.size
  dsimp only
  rw [OrderedMap.entries_insert_last pkt h, length_append, length_singleton]

theorem enqueue_anchor (hr : c.queue.size < c.maxFrames) : (c.enqueue ext pkt arrival).anchor =
      some (c.anchor.getD (pkt.timestamp, arrival + c.targetDelay)) := by
  have hs : (c.queue.insert ext pkt).size = c.queue.size + 1 := by
    rw [OrderedMap.size, OrderedMap.entries_insert_last pkt h, length_append]
    rfl
  have hn : (c.queue.insert ext pkt).entries.take
      ((c.queue.insert ext pkt).size - c.maxFrames) = [] := by
    rw [hs, show c.queue.size + 1 - c.maxFrames = 0 by omega]
    rfl
  unfold enqueue
  dsimp only
  rw [hn]
  rfl

end

theorem push_ahead (hs : ∀ cur ∈ c.ssrc, cur = pkt.ssrc) (h : c.Ahead pkt.sequenceNumber ext)
    (arrival : Int) : c.Pushed pkt arrival ext (c.push pkt arrival) := by
  have hm := meet_of_same hs arrival
  unfold push
  generalize c.meet pkt arrival = d at hm
  rw [extendSeq_of_eq hm.roc hm.maxSeq hm.seenAny, h.extends_to]
  dsimp only
  have hla : (d.lastEmittedExt.any fun l => decide (ext ≤ l)) = false := by
    rw [hm.lastEmittedExt]
    cases hls : c.lastEmittedExt with
    | none => rfl
    | some l =>
      have hl := h.last l hls
      simp only [Option.any_some, decide_eq_false_iff_not]
      omega
  rw [if_neg (by rw [hla]; decide)]
  have hq : ∀ e ∈ d.queue.entries, e.1 < ext := by
    rw [hm.queue]
    exact h.queue
  refine ⟨hm.sourceId, hm.clockRate, hm.maxDelay, hm.mixerFed, hm.maxFrames,
    hm.targetDelay, hm.ssrc, h.newest, seenAny_extendSeq c _, hm.lastArrival, ?_, ?_, ?_⟩
  · rw [enqueue_queue pkt arrival (by exact hq), hm.queue, hm.maxFrames]
  · rw [enqueue_shed pkt arrival (by exact hq), hm.queue, hm.maxFrames, hm.lastEmittedExt]
  grind [anchorAt, hm.anchor, hm.targetDelay, hm.queue, hm.maxFrames, enqueue_anchor]

theorem Pushed.last {arrival : Int} (h : c.Pushed pkt arrival ext c')
    (ha : ∀ l ∈ c.lastEmittedExt, l < ext) (hq : ∀ e ∈ c.queue.entries, e.1 < ext)
    (hf : 0 < c.maxFrames) : ∀ l ∈ c'.lastEmittedExt, l < ext := by
  grind [h.shed, OrderedMap.size]

theorem extendSeq_forward (hs : c.seenAny = true) {seq : UInt16} {d : Nat} (hd : d < 2 ^ 15)
    (hse : seq.toNat = (c.extMax + d) % 2 ^ 16) :
    (c.extendSeq seq).2 = some ((c.extMax + d) % 2 ^ 48) ∧
      (c.extendSeq seq).1.extMax = (c.extMax + d) % 2 ^ 48 := by
  have hlt := c.maxSeq.toNat_lt
  have hr := c.roc.toNat_lt
  have hm : c.extMax % 2 ^ 16 = c.maxSeq.toNat := by
    unfold extMax
    omega
  have hsu : (seq - c.maxSeq).toNat = d := by
    rw [UInt16.toNat_sub]
    omega
  have ha : seq - c.maxSeq < 0x8000 := by
    rw [UInt16.lt_iff_toNat_lt, hsu]
    exact hd
  have hn : (if seq < c.maxSeq then c.roc + 1 else c.roc).toNat * 2 ^ 16 + seq.toNat =
      (c.extMax + d) % 2 ^ 48 := by
    -- the counter moves when the sequence number wraps
    by_cases hw : seq < c.maxSeq
    · rw [if_pos hw]
      rw [UInt16.lt_iff_toNat_lt] at hw
      show (c.roc.toNat + 1) % 2 ^ 32 * 2 ^ 16 + seq.toNat = (c.extMax + d) % 2 ^ 48
      unfold extMax at hse ⊢
      omega
    · grind [UInt16.lt_iff_toNat_lt, extMax]
  unfold extendSeq
  rw [if_neg (by rw [hs]; decide), if_pos ha]
  exact ⟨congrArg some hn, hn⟩

theorem extendSeq_backward (hs : c.seenAny = true) {seq : UInt16} {d : Nat} (hp : 0 < d)
    (hd : d < 2 ^ 15) (hse : (seq.toNat + d) % 2 ^ 16 = c.maxSeq.toNat) :
    (∀ ext ∈ (c.extendSeq seq).2, ext + d = c.extMax) ∧
      (c.extendSeq seq).1.extMax = c.extMax := by
  have hlt := seq.toNat_lt
  have hr := c.roc.toNat_lt
  have hb : ¬seq - c.maxSeq < 0x8000 := by
    show ¬(2 ^ 16 - c.maxSeq.toNat + seq.toNat) % 2 ^ 16 < 2 ^ 15
    omega
  unfold extendSeq
  rw [if_neg (by rw [hs]; decide), if_neg hb]
  by_cases hw : c.maxSeq < seq
  · rw [if_pos hw]
    rw [UInt16.lt_iff_toNat_lt] at hw
    refine ⟨fun ext he => ?_, rfl⟩
    split at he
    · exact (Option.not_mem_none _ he).elim
    rename_i hz
    cases he
    have hne : c.roc.toNat ≠ 0 := fun h => hz (UInt32.toNat_inj.mp h)
    show (2 ^ 32 - 1 + c.roc.toNat) % 2 ^ 32 * 2 ^ 16 + seq.toNat + d = c.extMax
    unfold extMax
    omega
  · grind [UInt16.lt_iff_toNat_lt, extMax]

theorem ahead_next (hs : c.seenAny = true) (hb : c.extMax + 1 < 2 ^ 48)
    (hla : ∀ l ∈ c.lastEmittedExt, l ≤ c.extMax) (hq : ∀ e ∈ c.queue.entries, e.1 ≤ c.extMax) :
    c.Ahead (c.maxSeq + 1) (c.extMax + 1) := by
  have hse : (c.maxSeq + 1).toNat = (c.extMax + 1) % 2 ^ 16 := by
    show (c.maxSeq.toNat + 1) % 2 ^ 16 = (c.extMax + 1) % 2 ^ 16
    unfold extMax
    omega
  have het := extendSeq_forward hs (by decide) hse
  rw [Nat.mod_eq_of_lt hb] at het
  exact ⟨het.1, het.2, fun l hl => Nat.lt_succ_of_le (hla l hl),
    fun e he => Nat.lt_succ_of_le (hq e he)⟩

/-! ### Runs -/

structure Sound (start c : TrackedClock) : Prop where
  sourceId : c.sourceId = start.sourceId
  clockRate : c.clockRate = start.clockRate
  maxDelay : c.maxDelay = start.maxDelay
  mixerFed : c.mixerFed = start.mixerFed
  maxFrames : c.maxFrames = start.maxFrames
  deep : start.targetDelay ≤ c.targetDelay
  capped : c.targetDelay ≤ start.maxDelay
  anchored : c.queue.entries ≠ [] → c.anchor.isSome

section

variable (h : Sound start c)
include h

theorem Sound.popped {outs : List RoutedRtpPacket} {popped : List Entry}
    (hp : c.Popped gridNow c' outs popped) : Sound start c' where
  sourceId := hp.steady.sourceId.trans h.sourceId
  clockRate := hp.steady.clockRate.trans h.clockRate
  maxDelay := hp.steady.maxDelay.trans h.maxDelay
  mixerFed := hp.steady.mixerFed.trans h.mixerFed
  maxFrames := hp.steady.maxFrames.trans h.maxFrames
  deep := le_trans h.deep hp.steady.grows
  capped := by
    have hc := hp.steady.capped
    rw [h.maxDelay] at hc
    exact hc h.capped
  anchored := by
    intro hne
    rw [hp.steady.anchor]
    apply h.anchored
    rw [hp.split]
    exact fun hn => hne (append_eq_nil_iff.mp hn).2

theorem Sound.adopt (ssrc : UInt32) : Sound start (c.adopt ssrc) := by
  unfold TrackedClock.adopt
  split
  · split
    · exact h
    · exact ⟨h.sourceId, h.clockRate, h.maxDelay, h.mixerFed, h.maxFrames, h.deep, h.capped,
        fun hne => absurd rfl hne⟩
  · exact ⟨h.sourceId, h.clockRate, h.maxDelay, h.mixerFed, h.maxFrames, h.deep, h.capped,
      h.anchored⟩

theorem Sound.endSpurt (arrival : Int) : Sound start (c.endSpurt arrival) := by
  unfold TrackedClock.endSpurt
  split
  · rename_i hg
    rw [Bool.and_eq_true, OrderedMap.isEmpty_iff] at hg
    exact ⟨h.sourceId, h.clockRate, h.maxDelay, h.mixerFed, h.maxFrames, h.deep, h.capped,
      fun hne => absurd hg.1 hne⟩
  · exact h

theorem Sound.meet (pkt : RoutedRtpPacket) (arrival : Int) : Sound start (c.meet pkt arrival) := by
  have hs := (h.adopt pkt.ssrc).endSpurt arrival
  exact ⟨hs.sourceId, hs.clockRate, hs.maxDelay, hs.mixerFed, hs.maxFrames,
    hs.deep, hs.capped, hs.anchored⟩

theorem Sound.extendSeq (seq : UInt16) : Sound start (c.extendSeq seq).1 := by
  rw [extendSeq_of_eq (c := c) (d := c) rfl rfl rfl]
  exact ⟨h.sourceId, h.clockRate, h.maxDelay, h.mixerFed, h.maxFrames, h.deep, h.capped, h.anchored⟩

theorem Sound.countLate (n : Nat) : Sound start (c.countLate n) :=
  ⟨h.sourceId, h.clockRate, h.maxDelay, h.mixerFed, h.maxFrames, h.deep, h.capped, h.anchored⟩

theorem Sound.enqueue (ext : Nat) (pkt : RoutedRtpPacket) (arrival : Int) :
    Sound start (c.enqueue ext pkt arrival) := by
  refine ⟨h.sourceId, h.clockRate, h.maxDelay, h.mixerFed, h.maxFrames, h.deep, h.capped,
    fun _ => ?_⟩
  unfold TrackedClock.enqueue
  dsimp only
  split
  · rfl
  split <;> rfl

theorem Sound.push (pkt : RoutedRtpPacket) (arrival : Int) : Sound start (c.push pkt arrival) := by
  have he := (h.meet pkt arrival).extendSeq pkt.sequenceNumber
  grind [TrackedClock.push, he.countLate, he.enqueue]

end

end TrackedClock

inductive PlayoutInput where
  | push (pkt : RoutedRtpPacket) (arrival : Int)
  | drain (gridNow : Int)
  | tick (gridNow : Int)
deriving DecidableEq

namespace TrackedClock

def step (c : TrackedClock) : PlayoutInput → TrackedClock × List RoutedRtpPacket
  | .push pkt arrival => (c.push pkt arrival, [])
  | .drain gridNow =>
    let (c, out) := c.drainTick gridNow
    (c, out.toList)
  | .tick gridNow => c.tick gridNow

theorem Sound.step (h : Sound start c) (x : PlayoutInput) : Sound start (c.step x).1 := by
  cases x with
  | push pkt arrival => exact h.push pkt arrival
  | drain gridNow =>
    obtain ⟨⟨popped, hp⟩, -⟩ := c.drainTick_popped gridNow
    exact h.popped hp
  | tick gridNow =>
    obtain ⟨popped, hp, -⟩ := c.tick_popped gridNow
    exact h.popped hp

theorem sound_run (sourceId : EndpointId) (clockRate : UInt32) (mixerFed : Bool)
    (inputs : List PlayoutInput) :
    Sound (tracked sourceId clockRate mixerFed)
      (Machine.exec step (tracked sourceId clockRate mixerFed) inputs) := by
  apply Machine.exec_induction
  · refine ⟨rfl, rfl, rfl, rfl, rfl, le_refl _, ?_, fun hne => absurd rfl hne⟩
    cases mixerFed with
    | true => exact (by decide : trackedMixerTarget ≤ trackedMixerMax)
    | false => exact le_refl trackedShallow
  · exact fun c x h => h.step x

end TrackedClock
end RtpBridge.Session.Playout
