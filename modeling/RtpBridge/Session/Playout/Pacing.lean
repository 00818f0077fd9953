/-
A paced playout buffer under a steady sender.
-/
import RtpBridge.Session.Playout.Grid

namespace RtpBridge.Session.Playout

open Wire Machine List Option TrackedClock

structure Stream where
  packet : Nat → RoutedRtpPacket
  ssrc : UInt32
  seq : UInt16
  ts : UInt32
  step : UInt32
  ssrc_packet : ∀ k, (packet k).ssrc = ssrc
  seq_packet : ∀ k, (packet k).sequenceNumber = seq + UInt16.ofNat k
  ts_packet : ∀ k, (packet k).timestamp = ts + UInt32.ofNat k * step

/-- The first arrival, the time between two of them, and the first tick after it. -/
structure Schedule where
  start : Int
  period : Int
  grid : Int
  soon : grid ≤ start + frame

variable {σ : Schedule} {k : Nat}

namespace Schedule

def arrival (σ : Schedule) (k : Nat) : Int := σ.start + k * σ.period

def tick (σ : Schedule) (m : Nat) : Int := σ.grid + m * frame

def lag (σ : Schedule) (k : Nat) : Int := k * (σ.period - frame)

theorem arrival_eq (σ : Schedule) (k : Nat) : σ.arrival k = σ.start + k * frame + σ.lag k := by
  unfold arrival lag
  ring

theorem tick_succ (σ : Schedule) (m : Nat) : σ.tick (m + 1) = σ.tick m + frame := by
  unfold tick
  push_cast
  ring

theorem arrival_succ (σ : Schedule) (k : Nat) : σ.arrival (k + 1) = σ.arrival k + σ.period := by
  unfold arrival
  push_cast
  ring

theorem arrival_gap {d : Int} (h : d ≤ σ.period) {j : Nat} (hjk : j ≤ k) :
    σ.arrival j + ((k : Int) - j) * d ≤ σ.arrival k := by
  unfold arrival
  nlinarith

theorem arrival_mono (h : 0 ≤ σ.period) {j : Nat} (hjk : j ≤ k) :
    σ.arrival j ≤ σ.arrival k := by
  have hg := arrival_gap h hjk
  omega

end Schedule

def PlayoutInput.isPush : PlayoutInput → Bool
  | .push _ _ => true
  | _ => false

def PlayoutInput.isTick : PlayoutInput → Bool
  | .tick _ => true
  | _ => false

def arrivals (inputs : List PlayoutInput) : Nat := inputs.countP PlayoutInput.isPush

def gridTicks (inputs : List PlayoutInput) : Nat := inputs.countP PlayoutInput.isTick

def handedOut (tr : List (PlayoutInput × List RoutedRtpPacket)) : List RoutedRtpPacket :=
  (tr.flatMap Prod.snd).map strip

def Emits (tr : List (PlayoutInput × List RoutedRtpPacket)) (pkt : RoutedRtpPacket) : Prop :=
  strip pkt ∈ handedOut tr

instance (tr : List (PlayoutInput × List RoutedRtpPacket)) (pkt : RoutedRtpPacket) :
    Decidable (Emits tr pkt) :=
  inferInstanceAs (Decidable (_ ∈ _))

/-- The next packet of the stream or the next tick, whichever is earlier; the run starts
with a packet. -/
def Follows (stream : Stream) (σ : Schedule) (tr : List (PlayoutInput × List RoutedRtpPacket))
    (_ : TrackedClock) : PlayoutInput → Prop
  | .push pkt arrival =>
    pkt = stream.packet (arrivals (tr.map Prod.fst)) ∧
      arrival = σ.arrival (arrivals (tr.map Prod.fst)) ∧
      arrival ≤ σ.tick (gridTicks (tr.map Prod.fst))
  | .tick gridNow =>
    0 < arrivals (tr.map Prod.fst) ∧ gridNow = σ.tick (gridTicks (tr.map Prod.fst)) ∧
      gridNow ≤ σ.arrival (arrivals (tr.map Prod.fst))
  | .drain _ => False

/-! ## Sequence numbers -/

variable {c' : TrackedClock} {arrival : Int}

namespace TrackedClock

variable {c : TrackedClock} {ext k : Nat} {stream : Stream}

theorem ext_mod {seq : UInt16} (h : (c.extendSeq seq).2 = some ext) : ext % 2 ^ 16 = seq.toNat := by
  have hlt := seq.toNat_lt
  unfold extendSeq at h
  grind

structure Expects (stream : Stream) (ext : Nat) (k : Nat) (c : TrackedClock) : Prop where
  ssrc : ∀ cur ∈ c.ssrc, cur = stream.ssrc
  ahead : c.Ahead (stream.seq + UInt16.ofNat k) (ext + k)

theorem Expects.popped (h : c.Expects stream ext k) {gridNow : Int} {outs : List RoutedRtpPacket}
    {popped : List Entry} (hp : c.Popped gridNow c' outs popped) :
    c'.Expects stream ext k where
  ssrc := by
    rw [hp.steady.ssrc]
    exact h.ssrc
  ahead := by
    have het := extendSeq_of_eq hp.steady.roc hp.steady.maxSeq hp.steady.seenAny
      (stream.seq + UInt16.ofNat k)
    refine ⟨?_, ?_, fun l hl => ?_, fun e he => ?_⟩
    · rw [het]
      exact h.ahead.extends_to
    · rw [het]
      exact h.ahead.newest
    · rw [hp.last] at hl
      rcases or_eq_some_iff.mp hl with hpo | ⟨-, hold⟩
      · obtain ⟨e, he, rfl⟩ := map_eq_some_iff.mp hpo
        apply h.ahead.queue e
        rw [hp.split]
        exact mem_append_left _ (mem_of_getLast? he)
      · exact h.ahead.last l hold
    apply h.ahead.queue e
    rw [hp.split]
    exact mem_append_right _ he

theorem Expects.pushed (h : c.Expects stream ext k) (arrival : Int) :
    c.Pushed (stream.packet k) arrival (ext + k) (c.push (stream.packet k) arrival) := by
  grind [push_ahead, stream.ssrc_packet, h.ssrc, stream.seq_packet, h.ahead]

theorem Expects.next (h : c.Expects stream ext k)
    (hp : c.Pushed (stream.packet k) arrival (ext + k) c') (hf : 0 < c.maxFrames)
    (hb : ext + k + 1 < 2 ^ 48) : c'.Expects stream ext (k + 1) where
  ssrc := by simp [hp.ssrc, stream.ssrc_packet]
  ahead := by
    have hne : c'.maxSeq + 1 = stream.seq + UInt16.ofNat (k + 1) := by
      have hm : c'.maxSeq = stream.seq + UInt16.ofNat k := by
        apply UInt16.toNat_inj.mp
        rw [← ext_mod h.ahead.extends_to, ← hp.extMax, extMax]
        have hlt := c'.maxSeq.toNat_lt
        omega
      rw [hm, UInt16.ofNat_add, UInt16.add_assoc]
      rfl
    have hn : c'.extMax + 1 = ext + (k + 1) := by
      rw [hp.extMax]
      omega
    rw [← hne, ← hn]
    apply ahead_next hp.seenAny
    · rw [hp.extMax]
      exact hb
    · intro l hl
      rw [hp.extMax]
      exact Nat.le_of_lt (hp.last h.ahead.last h.ahead.queue hf l hl)
    intro e he
    rw [hp.queue] at he
    rw [hp.extMax]
    rcases mem_append.mp (mem_of_mem_drop he) with hold | hnw
    · exact Nat.le_of_lt (h.ahead.queue e hold)
    · rw [mem_singleton.mp hnw]

end TrackedClock

/-! ## Play times -/

theorem Stream.ts_first (stream : Stream) : (stream.packet 0).timestamp = stream.ts := by
  rw [stream.ts_packet]
  show stream.ts + 0 * stream.step = stream.ts
  rw [UInt32.zero_mul, UInt32.add_zero]

theorem Stream.ts_sub (stream : Stream) (ts : UInt32) {i : Nat}
    (h : (stream.ts - ts).toNat + i * stream.step.toNat < 2 ^ 32) :
    ((stream.packet i).timestamp - ts).toNat = (stream.ts - ts).toNat + i * stream.step.toNat := by
  have hs : (stream.packet i).timestamp - ts =
      stream.ts - ts + UInt32.ofNat (i * stream.step.toNat) := by
    rw [stream.ts_packet, UInt32.ofNat_mul, UInt32.ofNat_toNat, UInt32.sub_eq_add_neg,
      UInt32.sub_eq_add_neg, UInt32.add_assoc, UInt32.add_assoc, UInt32.add_comm (-ts)]
  rw [hs, UInt32.toNat_add, UInt32.toNat_ofNat']
  omega

variable {c : TrackedClock} {stream : Stream} {n : Nat}

namespace TrackedClock

theorem playOf_packet {anchor : UInt32 × Int} {i : Nat}
    (hr : c.clockRate.toNat = 50 * stream.step.toNat) (hs : 0 < stream.step.toNat)
    (hsp : (stream.ts - anchor.1).toNat + n * stream.step.toNat < 2 ^ 31) (hi : i ≤ n) (key : Nat) :
    c.playOf anchor (key, stream.packet i) =
      anchor.2 + c.mediaTime (stream.ts - anchor.1) + i * frame := by
  have hle : i * stream.step.toNat ≤ n * stream.step.toNat := Nat.mul_le_mul_right _ hi
  have hsu := stream.ts_sub anchor.1 (i := i) (by omega)
  have ha : (stream.packet i).timestamp - anchor.1 < 0x80000000 := by
    rw [UInt32.lt_iff_toNat_lt]
    show _ < 2 ^ 31
    omega
  unfold playOf playTime
  rw [if_pos ha]
  unfold mediaTime
  rw [hsu, hr]
  have hw : ((stream.ts - anchor.1).toNat + i * stream.step.toNat) * 1000000 /
      (50 * stream.step.toNat) =
      (stream.ts - anchor.1).toNat * 1000000 / (50 * stream.step.toNat) + i * 20000 := by
    have hsm : ((stream.ts - anchor.1).toNat + i * stream.step.toNat) * 1000000 =
        (stream.ts - anchor.1).toNat * 1000000 + 50 * stream.step.toNat * (i * 20000) := by
      ring
    rw [hsm, Nat.add_mul_div_left _ _ (by omega)]
  rw [hw, frame_eq]
  push_cast
  ring

end TrackedClock

/-! ## The queue -/

def Stream.entries (stream : Stream) (ext first count : Nat) : List Entry :=
  (List.range' first count).map fun i => (ext + i, stream.packet i)

theorem Stream.entries_concat (stream : Stream) (ext first count : Nat) :
    stream.entries ext first (count + 1) =
      stream.entries ext first count ++
        [(ext + (first + count), stream.packet (first + count))] := by
  unfold entries
  rw [List.range'_concat, map_append, Nat.one_mul]
  rfl

theorem Stream.length_entries (stream : Stream) (ext first count : Nat) :
    (stream.entries ext first count).length = count := by
  rw [entries, length_map, length_range']

theorem Stream.head?_entries (stream : Stream) (ext first : Nat) {count : Nat} (h : 0 < count) :
    (stream.entries ext first count).head? = some (ext + first, stream.packet first) := by
  obtain ⟨more, rfl⟩ := Nat.exists_eq_succ_of_ne_zero (by omega : count ≠ 0)
  rfl

variable {c : TrackedClock} {ext : Nat}

theorem Stream.entries_split {first count : Nat} {before after : List Entry}
    (h : stream.entries ext first count = before ++ after) :
    ∃ n, n ≤ count ∧ before = stream.entries ext first n ∧
      after = stream.entries ext (first + n) (count - n) := by
  have hl := congrArg List.length h
  rw [stream.length_entries, length_append] at hl
  have hp : stream.entries ext first count = stream.entries ext first before.length ++
      stream.entries ext (first + before.length) (count - before.length) := by
    unfold entries
    rw [← map_append, List.range'_append_1, Nat.add_sub_cancel' (by omega)]
  rw [hp] at h
  obtain ⟨hb, ha⟩ := append_inj h (stream.length_entries ext first _)
  exact ⟨before.length, by omega, hb.symm, ha.symm⟩

/-! ## One step -/

/-- No pause ends a talk spurt, and packets that come early find room in the queue. -/
structure Pace (σ : Schedule) (target : Int) (n : Nat) : Prop where
  apart : millis 10 ≤ σ.period
  close : σ.period ≤ trackedGapReset
  fast : ∀ k < n, -σ.lag k ≤ millis 300 - target

def Sent (stream : Stream) (σ : Schedule) (target : Int) (j : Nat)
    (outs : List RoutedRtpPacket) : Prop :=
  ∃ sent : List Nat, outs = sent.map (fun i => strip (stream.packet i)) ∧
    (∀ i ∈ sent, i < j ∧ σ.arrival i ≤ σ.start + target + i * frame + trackedMixerMax) ∧
    ∀ i < j, σ.lag i ≤ target + millis 180 → i ∈ sent

structure Flowing (stream : Stream) (σ : Schedule) (anchor : UInt32 × Int) (target : Int)
    (ext n k m j : Nat) (outs : List RoutedRtpPacket) (c : TrackedClock) : Prop where
  fed : c.mixerFed = true
  maxDelay : c.maxDelay = trackedMixerMax
  maxFrames : c.maxFrames = trackedMaxFrames
  expects : c.Expects stream ext k
  anchored : c.anchor = some anchor
  plays : ∀ i < n, ∀ key, c.playOf anchor (key, stream.packet i) = σ.start + target + i * frame
  started : 0 < k
  lastArrival : c.lastArrival = some (σ.arrival (k - 1))
  le : j ≤ k
  queue : c.queue.entries = stream.entries ext j (k - j)
  waiting : ∀ i, j ≤ i → i < k →
    σ.tick m - frame < σ.start + target + i * frame ∨ σ.tick m - frame ≤ σ.arrival i
  reached : σ.arrival (k - 1) ≤ σ.tick m
  due : σ.tick m - frame ≤ σ.arrival k
  sent : Sent stream σ target j outs

theorem TrackedClock.anchorAt_of_close {anchor : UInt32 × Int} {last : Int}
    (ha : c.anchor = some anchor) (hl : c.lastArrival = some last)
    (hc : arrival - last ≤ trackedGapReset) (ts : UInt32) : c.anchorAt ts arrival = anchor := by
  have hs : c.endSpurt arrival = c := by
    unfold endSpurt
    rw [hl, any_some, decide_eq_false (not_lt.mpr hc), Bool.and_false]
    rfl
  rw [anchorAt, hs, ha]
  rfl

theorem TrackedClock.Pushed.playOf {pkt : RoutedRtpPacket} (h : c.Pushed pkt arrival ext c')
    (anchor : UInt32 × Int) (e : Entry) :
    c'.playOf anchor e = c.playOf anchor e := by
  simp only [TrackedClock.playOf, playTime, mediaTime, h.clockRate]

theorem TrackedClock.Pushed.entries {pkt : RoutedRtpPacket} (h : c.Pushed pkt arrival ext c')
    (hr : c.queue.size < c.maxFrames) :
    c'.queue.entries = c.queue.entries ++ [(ext, pkt)] := by
  rw [h.queue, show c.queue.size + 1 - c.maxFrames = 0 by omega, drop_zero]

section Steps

variable {stream : Stream} {σ : Schedule} {anchor : UInt32 × Int} {target : Int}
  {ext n k m j : Nat} {outs : List RoutedRtpPacket} {c : TrackedClock}

section

variable (h : Flowing stream σ anchor target ext n k m j outs c)
include h

theorem Flowing.size : c.queue.size = k - j := by
  rw [OrderedMap.size, h.queue, stream.length_entries]

theorem Flowing.room (hp : Pace σ target n) (hk : k < n) (hd : σ.arrival k ≤ σ.tick m) :
    c.queue.size < c.maxFrames := by
  rw [h.size, h.maxFrames]
  by_cases he : k - j = 0
  · rw [he]
    decide
  have hh := h.waiting j (le_refl j) (by omega)
  have hf := hp.fast k hk
  have hg := Schedule.arrival_gap hp.apart h.le
  have ha := σ.arrival_eq k
  unfold millis at hf hg
  rw [frame_eq] at hh ha
  show k - j < 16
  rcases hh with hl | hfr <;> omega

theorem Flowing.push (hpa : Pace σ target n) (het : ext + n < 2 ^ 48) (hk : k < n)
    (hd : σ.arrival k ≤ σ.tick m) :
    Flowing stream σ anchor target ext n (k + 1) m j outs
      (c.push (stream.packet k) (σ.arrival k)) := by
  have hr := h.room hpa hk hd
  have hp := h.expects.pushed (σ.arrival k)
  have hl : σ.arrival k = σ.arrival (k - 1) + σ.period := by
    rw [← σ.arrival_succ, Nat.sub_add_cancel h.started]
  have hpe := hpa.apart
  have hc := hpa.close
  unfold millis at hpe
  refine ⟨hp.mixerFed.trans h.fed, hp.maxDelay.trans h.maxDelay,
    hp.maxFrames.trans h.maxFrames, ?_, ?_, fun i hi key => ?_, Nat.succ_pos k,
    hp.lastArrival, Nat.le_succ_of_le h.le, ?_, fun i hji hik => ?_, hd, ?_, h.sent⟩
  · exact h.expects.next hp (by rw [h.maxFrames]; decide) (by omega)
  · rw [hp.keeps hr, anchorAt_of_close h.anchored h.lastArrival (by omega)]
  · rw [hp.playOf, h.plays i hi]
  · have hle := h.le
    rw [hp.entries hr, h.queue, show k + 1 - j = k - j + 1 by omega,
      stream.entries_concat, Nat.add_sub_cancel' h.le]
  · rcases Nat.lt_succ_iff_lt_or_eq.mp hik with hlt | rfl
    · exact h.waiting i hji hlt
    · exact Or.inr h.due
  rw [σ.arrival_succ]
  have hd' := h.due
  omega

end

variable {i : Nat}

section

variable (h : Flowing stream σ anchor target ext n k m j outs c)
include h

theorem Flowing.skips_iff (hi : i < n) (key : Nat) (gridNow : Int) :
    c.skips gridNow (key, stream.packet i) = true ↔
      trackedMixerMax < gridNow - (σ.start + target + i * frame) := by
  have hm : (0 : Int) ≤ trackedMixerMax := by decide
  rw [skips, h.fed, h.anchored, any_some, Bool.true_and,
    isStale, h.plays i hi, h.maxDelay, Bool.and_eq_true, decide_eq_true_iff,
    decide_eq_true_iff]
  omega

theorem Sent.popped (hpe : 0 ≤ σ.period) (hk : k ≤ n) {count : Nat} (hc : j + count ≤ k)
    {new : List RoutedRtpPacket}
    (hnw : new = ((stream.entries ext j count).filter
      fun e => !c.skips (σ.tick m) e).map fun e => strip e.2) :
    Sent stream σ target (j + count) (outs ++ new) := by
  obtain ⟨sent, hs, hl, hal⟩ := h.sent
  let kept := (List.range' j count).filter fun i => !c.skips (σ.tick m) (ext + i, stream.packet i)
  refine ⟨sent ++ kept, ?_, fun i hi => ?_, fun i hi hlg => ?_⟩
  · rw [hnw, hs, List.map_append, Stream.entries, List.filter_map, List.map_map]
    rfl
  · rcases mem_append.mp hi with hold | hke
    · obtain ⟨hlt, hle⟩ := hl i hold
      exact ⟨by omega, hle⟩
    obtain ⟨hr, hp⟩ := mem_filter.mp hke
    rw [mem_range'_1] at hr
    -- the packet has arrived by the tick that plays it
    have har : σ.arrival i ≤ σ.tick m :=
      le_trans (Schedule.arrival_mono hpe (by omega)) h.reached
    have hfr : ¬trackedMixerMax < σ.tick m - (σ.start + target + i * frame) := by
      rw [← h.skips_iff (by omega) (ext + i)]
      simpa using hp
    exact ⟨by omega, by omega⟩
  · by_cases hold : i < j
    · exact mem_append_left _ (hal i hold hlg)
    apply mem_append_right
    refine mem_filter.mpr ⟨mem_range'_1.mpr (by omega), ?_⟩
    have hw := h.waiting i (by omega) (by omega)
    have ha := σ.arrival_eq i
    have hfr : ¬c.skips (σ.tick m) (ext + i, stream.packet i) = true := by
      rw [h.skips_iff (by omega)]
      unfold trackedMixerMax millis
      unfold millis at hlg
      rw [frame_eq] at hw ha ⊢
      rcases hw with hla | hfr <;> omega
    simpa using hfr

theorem Flowing.tick (hp : Pace σ target n) (hk : k ≤ n) (hd : σ.tick m ≤ σ.arrival k) :
    ∃ j', Flowing stream σ anchor target ext n k (m + 1) j'
      (outs ++ (c.tick (σ.tick m)).2.map strip) (c.tick (σ.tick m)).1 := by
  obtain ⟨popped, hpo, hb⟩ := c.tick_popped (σ.tick m)
  have hs := hpo.split
  rw [h.queue] at hs
  obtain ⟨count, hc, rfl, hr⟩ := Stream.entries_split hs
  have hle := h.le
  have hpe := hp.apart
  unfold millis at hpe
  have hne := σ.tick_succ m
  refine ⟨j + count, hpo.steady.mixerFed.trans h.fed, hpo.steady.maxDelay.trans h.maxDelay,
    hpo.steady.maxFrames.trans h.maxFrames, h.expects.popped hpo,
    hpo.steady.anchor.trans h.anchored, fun i hi key => ?_, h.started,
    hpo.steady.lastArrival.trans h.lastArrival, by omega, ?_, fun i hji hik => ?_, ?_, ?_,
    Sent.popped h (by omega) hk (by omega) hpo.outs⟩
  · rw [hpo.steady.playOf, h.plays i hi]
  · rw [hr, Nat.sub_sub]
  · -- the head must wait, and so must everything behind it
    have hh := hb (ext + (j + count), stream.packet (j + count)) (by
      rw [OrderedMap.first?, hr]
      exact stream.head?_entries _ _ (by omega))
    rw [hpo.steady.mixerFed, h.fed, hpo.steady.isDue] at hh
    have hl : σ.tick m < σ.start + target + ((j + count : Nat) : Int) * frame := by
      rw [← h.plays (j + count) (by omega) (ext + (j + count))]
      by_contra hn
      exact hh ⟨anchor, h.anchored, not_lt.mp hn⟩
    rw [frame_eq] at hl hne ⊢
    omega
  · have hre := h.reached
    rw [hne, frame_eq]
    omega
  · omega

theorem Flowing.behind (hp : Pace σ target n) (hk : k ≤ n) : k ≤ j + 16 := by
  by_cases he : k ≤ j
  · omega
  have hh := h.waiting j (le_refl j) (by omega)
  have hf := hp.fast (k - 1) (by omega)
  have hg := Schedule.arrival_gap hp.apart (by omega : j ≤ k - 1)
  have ha := σ.arrival_eq (k - 1)
  have hre := h.reached
  unfold millis at hf hg
  rw [frame_eq] at hh ha
  rcases hh with hl | hfr <;> omega

end

theorem Sent.mem (h : Sent stream σ target j outs) (hi : i < j)
    (hlg : σ.lag i ≤ target + millis 180) : strip (stream.packet i) ∈ outs := by
  obtain ⟨sent, rfl, -, hal⟩ := h
  exact mem_map.mpr ⟨i, hal i hi hlg, rfl⟩

theorem Stream.ts_injective (stream : Stream) (hs : 0 < stream.step.toNat)
    (hsp : n * stream.step.toNat < 2 ^ 31) {i' : Nat} (hi : i < n) (hi' : i' < n)
    (h : (stream.packet i).timestamp = (stream.packet i').timestamp) : i = i' := by
  have hz : (stream.ts - stream.ts).toNat = 0 := by
    rw [UInt32.sub_self]
    rfl
  have ho : ∀ i < n, ((stream.packet i).timestamp - stream.ts).toNat = i * stream.step.toNat := by
    intro i hi
    have hle : i * stream.step.toNat ≤ n * stream.step.toNat :=
      Nat.mul_le_mul_right _ (Nat.le_of_lt hi)
    rw [stream.ts_sub stream.ts (by omega), hz, Nat.zero_add]
  have hm := ho i hi
  rw [h, ho i' hi'] at hm
  exact (Nat.eq_of_mul_eq_mul_right hs hm).symm

theorem Sent.not_mem (h : Sent stream σ target j outs) (hs : 0 < stream.step.toNat)
    (hsp : n * stream.step.toNat < 2 ^ 31) (hj : j ≤ n) (hi : i < n)
    (hl : σ.start + target + i * frame + trackedMixerMax < σ.arrival i) :
    strip (stream.packet i) ∉ outs := by
  obtain ⟨sent, rfl, hse, -⟩ := h
  intro hm
  obtain ⟨i', hi', hsame⟩ := mem_map.mp hm
  obtain ⟨hlt, ha⟩ := hse i' hi'
  have hts : (strip (stream.packet i')).timestamp =
      (strip (stream.packet i)).timestamp := by rw [hsame]
  have heq := stream.ts_injective hs hsp (by omega) hi hts
  rw [heq] at ha
  exact absurd ha (not_le.mpr hl)

end Steps

/-! ## Runs -/

theorem handedOut_append (tr : List (PlayoutInput × List RoutedRtpPacket)) (x : PlayoutInput)
    (outs : List RoutedRtpPacket) :
    handedOut (tr ++ [(x, outs)]) = handedOut tr ++ outs.map strip := by
  simp [handedOut]

theorem arrivals_append (inputs : List PlayoutInput) (x : PlayoutInput) :
    arrivals (inputs ++ [x]) = arrivals inputs + if x.isPush then 1 else 0 := by
  rw [arrivals, countP_append, countP_singleton]
  rfl

theorem gridTicks_append (inputs : List PlayoutInput) (x : PlayoutInput) :
    gridTicks (inputs ++ [x]) = gridTicks inputs + if x.isTick then 1 else 0 := by
  rw [gridTicks, countP_append, countP_singleton]
  rfl

theorem arrivals_cons (x : PlayoutInput) (rest : List PlayoutInput) :
    arrivals (x :: rest) = arrivals rest + if x.isPush then 1 else 0 := countP_cons

theorem gridTicks_cons (x : PlayoutInput) (rest : List PlayoutInput) :
    gridTicks (x :: rest) = gridTicks rest + if x.isTick then 1 else 0 := countP_cons

variable {inputs : List PlayoutInput}

theorem arrivals_le_of_prefix {before rest : List PlayoutInput} {x : PlayoutInput}
    (h : inputs = before ++ x :: rest) :
    arrivals before + (if x.isPush then 1 else 0) ≤ arrivals inputs := by
  rw [h, ← singleton_append, ← append_assoc, ← arrivals_append]
  exact (sublist_append_left _ _).countP_le

theorem follows_induction {Q : Nat → Nat → List RoutedRtpPacket → TrackedClock → Prop}
    (hst : 0 < n → σ.start ≤ σ.grid → Q 1 0 [] (c.push (stream.packet 0) (σ.arrival 0)))
    (hpu : ∀ k m outs c', Q k m outs c' → k < n → σ.arrival k ≤ σ.tick m →
      Q (k + 1) m outs (c'.push (stream.packet k) (σ.arrival k)))
    (ht : ∀ k m outs c', Q k m outs c' → k ≤ n → σ.tick m ≤ σ.arrival k →
      Q k (m + 1) (outs ++ (c'.tick (σ.tick m)).2.map strip) (c'.tick (σ.tick m)).1)
    (hru : Along step (Follows stream σ) c inputs) (hn : arrivals inputs ≤ n)
    (hs : 0 < arrivals inputs) :
    Q (arrivals inputs) (gridTicks inputs) (handedOut (trace step c inputs))
      (exec step c inputs) := by
  have hp : Along step
      (fun tr _ x => ∃ rest, inputs = tr.map Prod.fst ++ x :: rest) c inputs :=
    along_prefix c inputs
  have hi := along_induction (P := fun tr c' => (tr = [] ∧ c' = c) ∨
      Q (arrivals (tr.map Prod.fst)) (gridTicks (tr.map Prod.fst)) (handedOut tr) c')
    (Or.inl ⟨rfl, rfl⟩)
    (fun tr c' x ⟨hf, rest, hr⟩ hP => by
      have hc := arrivals_le_of_prefix hr
      right
      rw [handedOut_append, map_append, map_singleton, arrivals_append, gridTicks_append]
      cases x with
      | drain gridNow => exact hf.elim
      | push pkt arrival =>
        obtain ⟨hpk, ha, hd⟩ := hf
        simp only [PlayoutInput.isPush, if_true] at hc ⊢
        subst hpk ha
        rcases hP with ⟨rfl, rfl⟩ | hQ
        · exact hst (by omega)
            (by simpa [Schedule.arrival, Schedule.tick, arrivals, gridTicks] using hd)
        · rw [show (step c' _).2.map strip = [] from rfl, append_nil]
          exact hpu _ _ _ _ hQ (by omega) hd
      | tick gridNow =>
        obtain ⟨hs, hg, hd⟩ := hf
        simp only [PlayoutInput.isPush] at hc ⊢
        subst hg
        rcases hP with ⟨rfl, rfl⟩ | hQ
        · exact absurd hs (Nat.lt_irrefl 0)
        · exact ht _ _ _ _ hQ (by omega) hd)
    (hru.and hp)
  rw [trace_inputs] at hi
  rcases hi with ⟨hni, -⟩ | hQ
  · have hl := congrArg List.length hni
    rw [length_trace] at hl
    rw [length_eq_zero_iff.mp hl] at hs
    exact absurd hs (Nat.lt_irrefl 0)
  · exact hQ

section

variable {target : Int} {ext : Nat} (hfe : c.mixerFed = true) (hd : c.maxDelay = trackedMixerMax)
  (hf : c.maxFrames = trackedMaxFrames) (hem : c.queue.entries = []) (he : c.Expects stream ext 0)
  (het : ext + n < 2 ^ 48)
  (hpl : ∀ i < n, ∀ key, c.playOf (c.anchorAt stream.ts σ.start) (key, stream.packet i) =
    σ.start + target + i * frame) (hpa : Pace σ target n)
include hfe hd hf hem he het hpl hpa

theorem Flowing.start (hn : 0 < n) (hdu : σ.start ≤ σ.grid) :
    Flowing stream σ (c.anchorAt stream.ts σ.start) target ext n 1 0 0 []
      (c.push (stream.packet 0) (σ.arrival 0)) := by
  have hfi : σ.arrival 0 = σ.start := by
    unfold Schedule.arrival
    simp
  have hg : σ.tick 0 = σ.grid := by
    unfold Schedule.tick
    simp
  have hp := he.pushed (σ.arrival 0)
  have hr : c.queue.size < c.maxFrames := by
    rw [OrderedMap.size, hem, hf]
    decide
  have hpe := hpa.apart
  have hs := σ.soon
  unfold millis at hpe
  refine ⟨hp.mixerFed.trans hfe, hp.maxDelay.trans hd,
    hp.maxFrames.trans hf, ?_, ?_, fun i hi key => ?_, Nat.one_pos,
    hp.lastArrival, Nat.zero_le 1, ?_, fun i _ hi => ?_, ?_, ?_, ?_⟩
  · exact he.next hp (by rw [hf]; decide) (by omega)
  · rw [hp.keeps hr, stream.ts_first, hfi]
  · rw [hp.playOf, hpl i hi]
  · rw [hp.entries hr, hem]
    rfl
  · rw [Nat.lt_one_iff.mp hi]
    omega
  · rw [hfi, hg]
    exact hdu
  · rw [σ.arrival_succ]
    omega
  · exact ⟨[], rfl, fun i hi => (by cases hi), fun i hi => absurd hi (Nat.not_lt_zero i)⟩

theorem flowing_run (hru : Along step (Follows stream σ) c inputs) (hn : arrivals inputs ≤ n)
    (hs : 0 < arrivals inputs) :
    ∃ j, Flowing stream σ (c.anchorAt stream.ts σ.start) target ext n (arrivals inputs)
      (gridTicks inputs) j (handedOut (trace step c inputs))
      (exec step c inputs) := by
  apply follows_induction (Q := fun k m outs c' => ∃ j, Flowing stream σ
    (c.anchorAt stream.ts σ.start) target ext n k m j outs c') _ _ _ hru hn hs
  · intro hpo hfi
    exact ⟨0, Flowing.start hfe hd hf hem he het hpl hpa hpo hfi⟩
  · rintro k m outs c' ⟨j, h⟩ hk hdu
    exact ⟨j, h.push hpa het hk hdu⟩
  · rintro k m outs c' ⟨j, h⟩ hk hdu
    exact h.tick hpa hk hdu

end

/-! ## A new buffer -/

namespace TrackedClock

section

variable (sourceId : EndpointId)

theorem clockRate_tracked {clockRate : UInt32} (h : 0 < clockRate.toNat)
    (mixerFed : Bool) : (tracked sourceId clockRate mixerFed).clockRate = clockRate := by
  have ho : (1 : UInt32) ≤ clockRate := UInt32.le_iff_toNat_le.mpr h
  show (if clockRate ≤ 1 then 1 else clockRate) = clockRate
  split
  · rename_i hle
    exact UInt32.le_antisymm ho hle
  · rfl

theorem exec_tracked_ticks (clockRate : UInt32) (lead : List Int) :
    exec step (tracked sourceId clockRate true) (lead.map .tick) =
      tracked sourceId clockRate true := by
  induction lead with
  | nil => rfl
  | cons gridNow rest ih => exact ih

theorem expects_tracked (clockRate : UInt32) (mixerFed : Bool) (stream : Stream) :
    (tracked sourceId clockRate mixerFed).Expects stream stream.seq.toNat 0 where
  ssrc := fun cur hc => nomatch hc
  ahead := by
    have hf : stream.seq + UInt16.ofNat 0 = stream.seq := UInt16.add_zero _
    rw [hf]
    have het : (0 : UInt32).toNat * 2 ^ 16 + stream.seq.toNat = stream.seq.toNat + 0 := by
      rw [UInt32.toNat_zero, Nat.zero_mul, Nat.zero_add, Nat.add_zero]
    exact ⟨congrArg some het, het, fun l hl => (nomatch hl), fun e he => (nomatch he)⟩

end

end TrackedClock

variable {σ : Schedule} {stream : Stream} {n : Nat}

theorem Schedule.abs_lag_le (σ : Schedule) (h : k ≤ n) :
    |σ.lag k| ≤ n * |σ.period - frame| := by
  rw [lag, abs_mul]
  exact mul_le_mul_of_nonneg_right (by exact_mod_cast h) (abs_nonneg _)

theorem pace_of_drift (hpe : |σ.period - frame| ≤ 20000)
    (hd : n * |σ.period - frame| ≤ millis 240) : Pace σ trackedMixerTarget n := by
  have hb := abs_le.mp hpe
  rw [frame_eq] at hb
  refine ⟨?_, ?_, fun k hk => ?_⟩
  · unfold millis
    omega
  · unfold trackedGapReset millis
    omega
  have hlg := neg_le_of_abs_le (le_trans (σ.abs_lag_le (Nat.le_of_lt hk)) hd)
  unfold trackedMixerTarget millis
  unfold millis at hlg
  omega

theorem flowing_tracked (sourceId : EndpointId) {clockRate : UInt32}
    (hr : clockRate.toNat = 50 * stream.step.toNat) (hs : 0 < stream.step.toNat)
    (hsp : n * stream.step.toNat < 2 ^ 31) (hp : Pace σ trackedMixerTarget n)
    {inputs : List PlayoutInput}
    (hru : Along step (Follows stream σ) (tracked sourceId clockRate true) inputs)
    (hn : arrivals inputs ≤ n) (hso : 0 < arrivals inputs) :
    ∃ j, Flowing stream σ (stream.ts, σ.start + trackedMixerTarget) trackedMixerTarget
      stream.seq.toNat n (arrivals inputs) (gridTicks inputs) j
      (handedOut (trace step (tracked sourceId clockRate true) inputs))
      (exec step (tracked sourceId clockRate true) inputs) := by
  have hc : (tracked sourceId clockRate true).clockRate = clockRate :=
    clockRate_tracked sourceId (by omega) true
  have hf : n ≤ n * stream.step.toNat := Nat.le_mul_of_pos_right n hs
  have hse := stream.seq.toNat_lt
  apply flowing_run rfl rfl rfl rfl (expects_tracked sourceId clockRate true stream)
    (by omega) _ hp hru hn hso
  intro i hi key
  show TrackedClock.playOf _ (stream.ts, σ.start + trackedMixerTarget) _ = _
  rw [playOf_packet (by rw [hc, hr]) hs (by simpa using hsp) (Nat.le_of_lt hi)]
  simp [mediaTime]

/-! ## A run of every schedule -/

def scheduled (stream : Stream) (σ : Schedule) : Nat → Nat → Nat → List PlayoutInput
  | 0, _, _ => []
  | n + 1, k, m =>
    if σ.arrival k ≤ σ.tick m then
      .push (stream.packet k) (σ.arrival k) :: scheduled stream σ n (k + 1) m
    else .tick (σ.tick m) :: scheduled stream σ n k (m + 1)

theorem scheduled_follows (hf : σ.start ≤ σ.grid) :
    ∀ {k m : Nat} (tr : List (PlayoutInput × List RoutedRtpPacket)) (c : TrackedClock),
      arrivals (tr.map Prod.fst) = k → gridTicks (tr.map Prod.fst) = m → (k = 0 → m = 0) →
        AlongFrom step (Follows stream σ) tr c (scheduled stream σ n k m) := by
  induction n with
  | zero => exact fun _ _ _ _ _ => trivial
  | succ n ih =>
    intro k m tr c hk hm hst
    rw [scheduled]
    split
    · rename_i hd
      refine ⟨?_, ih _ _ ?_ ?_ fun h => absurd h (Nat.succ_ne_zero k)⟩
      · rw [Follows, hk, hm]
        exact ⟨rfl, rfl, hd⟩
      · rw [map_append, map_singleton, arrivals_append, hk]
        rfl
      · rw [map_append, map_singleton, gridTicks_append, hm]
        rfl
    rename_i hn
    have hpo : 0 < k := by
      by_contra hz
      have hk0 : k = 0 := by omega
      rw [hk0, hst hk0] at hn
      apply hn
      simpa [Schedule.arrival, Schedule.tick] using hf
    refine ⟨?_, ih _ _ ?_ ?_ fun h => absurd h (by omega)⟩
    · rw [Follows, hk, hm]
      exact ⟨hpo, rfl, le_of_lt (not_le.mp hn)⟩
    · rw [map_append, map_singleton, arrivals_append, hk]
      rfl
    · rw [map_append, map_singleton, gridTicks_append, hm]
      rfl

theorem scheduled_along (hf : σ.start ≤ σ.grid) (n : Nat) (c : TrackedClock) :
    Along step (Follows stream σ) c (scheduled stream σ n 0 0) :=
  scheduled_follows hf [] c rfl rfl fun _ => rfl

theorem scheduled_counts (hpe : 0 ≤ σ.period) : ∀ {k m : Nat}, σ.tick m - frame ≤ σ.arrival k →
      arrivals (scheduled stream σ n k m) + gridTicks (scheduled stream σ n k m) = n ∧
        σ.tick (m + gridTicks (scheduled stream σ n k m)) - frame ≤
          σ.arrival (k + arrivals (scheduled stream σ n k m)) := by
  induction n with
  | zero => exact fun h => ⟨rfl, h⟩
  | succ n ih =>
    intro k m hd
    rw [scheduled]
    split
    · obtain ⟨hc, he⟩ := ih (k := k + 1) (m := m) (by rw [σ.arrival_succ]; omega)
      simp only [arrivals_cons, gridTicks_cons, PlayoutInput.isPush, PlayoutInput.isTick,
        Bool.false_eq_true, if_true, if_false]
      rw [← Nat.add_assoc k, Nat.add_right_comm k]
      exact ⟨by omega, he⟩
    obtain ⟨hc, he⟩ := ih (k := k) (m := m + 1) (by rw [σ.tick_succ]; omega)
    simp only [arrivals_cons, gridTicks_cons, PlayoutInput.isPush, PlayoutInput.isTick,
      Bool.false_eq_true, if_true, if_false]
    rw [← Nat.add_assoc m, Nat.add_right_comm m]
    exact ⟨by omega, he⟩

/-- A paced buffer plays a sender whose period is a frame up to a thousandth, while the
drift summed up since the first packet is at most 240 ms and the timestamps stay within
half their range. -/
theorem paced_plays_recent {stream : Stream} {σ : Schedule} (sourceId : EndpointId)
    {clockRate : UInt32} (hrate : clockRate.toNat = 50 * stream.step.toNat)
    (hstep : 0 < stream.step.toNat) (hperiod : |σ.period - frame| ≤ 20000) (lead : List Int)
    {inputs : List PlayoutInput}
    (hrun : Along step (Follows stream σ)
      (exec step (tracked sourceId clockRate true) (lead.map .tick)) inputs)
    (hdrift : arrivals inputs * |σ.period - frame| ≤ millis 240)
    (hspan : arrivals inputs * stream.step.toNat < 2 ^ 31) (hmany : 100 ≤ arrivals inputs) :
    ∃ i, arrivals inputs ≤ i + 100 ∧ i < arrivals inputs ∧
      Emits (trace step
        (exec step (tracked sourceId clockRate true) (lead.map .tick)) inputs)
        (stream.packet i) := by
  rw [exec_tracked_ticks] at hrun ⊢
  have hpace := pace_of_drift hperiod hdrift
  obtain ⟨j, hflowing⟩ :=
    flowing_tracked sourceId hrate hstep hspan hpace hrun (le_refl _) (by omega)
  have hbehind := hflowing.behind hpace (le_refl _)
  refine ⟨arrivals inputs - 100, by omega, by omega, hflowing.sent.mem (by omega) ?_⟩
  have hlag := le_of_abs_le (le_trans (σ.abs_lag_le (Nat.sub_le (arrivals inputs) 100)) hdrift)
  unfold trackedMixerTarget millis
  unfold millis at hlag
  omega

def sampleStream (seq : UInt16) (ts step : UInt32) : Stream where
  packet k := samplePacket (seq + UInt16.ofNat k) (ts + UInt32.ofNat k * step)
  ssrc := 7
  seq := seq
  ts := ts
  step := step
  ssrc_packet _ := rfl
  seq_packet _ := rfl
  ts_packet _ := rfl

def sampleSchedule : Schedule := ⟨0, 20010000, millis 5, by decide⟩

theorem sampleSchedule_plays_recent : ∃ i, 110 ≤ i + 100 ∧ i < 110 ∧
      Emits (trace step
        (exec step (tracked 1 8000 true) ([-frame, 0].map .tick))
        (scheduled (sampleStream 65500 7 160) sampleSchedule 220 0 0))
        ((sampleStream 65500 7 160).packet i) := by
  have hcount : arrivals (scheduled (sampleStream 65500 7 160) sampleSchedule 220 0 0) = 110 := by
    decide +kernel
  have hrun : Along step (Follows (sampleStream 65500 7 160) sampleSchedule)
      (exec step (tracked 1 8000 true) ([-frame, 0].map .tick))
      (scheduled (sampleStream 65500 7 160) sampleSchedule 220 0 0) :=
    scheduled_along (by decide) 220 _
  have hplays := paced_plays_recent 1 (by decide) (by decide) (by decide) [-frame, 0] hrun
    (by rw [hcount]; decide) (by decide) (by rw [hcount]; decide)
  rw [hcount] at hplays
  exact hplays

def slowSchedule : Schedule := ⟨0, 20020000, 0, by decide⟩

theorem slowSchedule_pace (n : Nat) : Pace slowSchedule trackedMixerTarget n where
  apart := by decide
  close := by decide
  fast := by
    intro k _
    show -((k : Int) * (20020000 - frame)) ≤ millis 300 - trackedMixerTarget
    unfold trackedMixerTarget millis
    rw [frame_eq]
    omega

/-- After 260 seconds every packet of a sender that is slow by a thousandth is stale when
it arrives, and none is played again. -/
theorem paced_starves_slow_sender : (8000 : UInt32).toNat = 50 * (sampleStream 0 0 160).step.toNat ∧
    |slowSchedule.period - frame| ≤ 20000 ∧
    ∃ inputs, Along step (Follows (sampleStream 0 0 160) slowSchedule)
        (tracked 1 8000 true) inputs ∧
      100 ≤ arrivals inputs ∧
      ∀ i, arrivals inputs ≤ i + 100 → i < arrivals inputs →
        ¬Emits (trace step (tracked 1 8000 true) inputs)
          ((sampleStream 0 0 160).packet i) := by
  refine ⟨by decide, by decide, scheduled (sampleStream 0 0 160) slowSchedule 26500 0 0, ?_⟩
  have hrun : Along step (Follows (sampleStream 0 0 160) slowSchedule)
      (tracked 1 8000 true) (scheduled (sampleStream 0 0 160) slowSchedule 26500 0 0) :=
    scheduled_along (by decide) 26500 _
  have hcounts : arrivals (scheduled (sampleStream 0 0 160) slowSchedule 26500 0 0) +
        gridTicks (scheduled (sampleStream 0 0 160) slowSchedule 26500 0 0) = 26500 ∧
      slowSchedule.tick (0 + gridTicks (scheduled (sampleStream 0 0 160) slowSchedule 26500 0 0)) -
        frame ≤ slowSchedule.arrival
          (0 + arrivals (scheduled (sampleStream 0 0 160) slowSchedule 26500 0 0)) :=
    scheduled_counts (by decide) (by decide)
  obtain ⟨hcount, hend⟩ := hcounts
  generalize scheduled (sampleStream 0 0 160) slowSchedule 26500 0 0 = inputs at hrun hcount hend
  have hmany : 13200 ≤ arrivals inputs := by
    unfold Schedule.tick Schedule.arrival slowSchedule at hend
    dsimp only at hend
    rw [frame_eq] at hend
    omega
  obtain ⟨j, hflowing⟩ := flowing_tracked 1 (n := 26500) (by decide) (by decide) (by decide)
    (slowSchedule_pace 26500) hrun (by omega) (by omega)
  refine ⟨hrun, by omega, fun i hrecent hi => ?_⟩
  have hle := hflowing.le
  apply hflowing.sent.not_mem (n := 26500) (by decide) (by decide) (by omega) (by omega)
  show (0 : Int) + trackedMixerTarget + i * frame + trackedMixerMax < 0 + i * 20020000
  unfold trackedMixerTarget trackedMixerMax millis
  rw [frame_eq]
  omega

end RtpBridge.Session.Playout
