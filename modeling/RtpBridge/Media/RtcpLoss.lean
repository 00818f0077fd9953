/-
The loss statistics of `RtcpStats` against an ideal count.
-/
import Mathlib.Order.Interval.Finset.Nat
import RtpBridge.Base.Machine
import RtpBridge.Media.Rtcp

namespace RtpBridge.Rtcp

open Machine List

/-! ## The ideal count -/

structure Arrival where
  ssrc : UInt32
  index : Nat
  now : Nat := 0
  timestamp : UInt32 := 0
  payloadLen : Nat := 0
  clockRate : UInt32 := 0

inductive LossEvent where
  | received (a : Arrival)
  | report

structure Generation where
  ssrc : UInt32
  first : Nat
  highest : Nat
  arrived : List Nat
  expectedBefore : Nat := 0
  receivedBefore : Nat := 0

namespace Generation

def start (a : Arrival) : Generation :=
  { ssrc := a.ssrc, first := a.index, highest := a.index, arrived := [a.index] }

def expected (g : Generation) : Nat := g.highest - g.first + 1

def missing (g : Generation) : Finset Nat := Finset.Icc g.first g.highest \ g.arrived.toFinset

def fraction (g : Generation) : Nat :=
  let e := g.expected - g.expectedBefore
  let r := g.arrived.length - g.receivedBefore
  if e ≤ r then 0 else 256 * (e - r) / e

def Admits (g : Generation) (index : Nat) : Prop :=
  index ∉ g.arrived ∧ g.first ≤ index ∧ index ≤ g.highest + (2 ^ 15 - 1) ∧
    g.highest ≤ index + (2 ^ 15 - 1) ∧ index - g.first + 1 < 2 ^ 31

end Generation

def count : List Generation → LossEvent → List Generation
  | [], .received a => [.start a]
  | g :: rest, .received a =>
    if g.ssrc = a.ssrc then
      { g with highest := max g.highest a.index, arrived := a.index :: g.arrived } :: rest
    else .start a :: g :: rest
  | [], .report => []
  | g :: rest, .report =>
    { g with expectedBefore := g.expected, receivedBefore := g.arrived.length } :: rest

def Admitted : List Generation → LossEvent → Prop
  | g :: _, .received a => g.ssrc = a.ssrc → g.Admits a.index
  | _, _ => True

def Conforming : List Generation → List LossEvent → Prop
  | _, [] => True
  | gs, e :: rest => Admitted gs e ∧ Conforming (count gs e) rest

def totalMissing (gs : List Generation) : Nat := (gs.map fun g => g.missing.card).sum

/-! ## The statistics follow the ideal -/

def lossStep (stats : RtcpStats) : LossEvent → RtcpStats × Option UInt8
  | .received a =>
    (stats.recordReceived a.now a.ssrc (UInt16.ofNat a.index) a.timestamp a.payloadLen
      a.clockRate, none)
  | .report => (stats.fractionLostAndUpdate.1, some stats.fractionLostAndUpdate.2)

structure Tracks (stats : RtcpStats) (g : Generation) (gs : List Generation) : Prop where
  ssrc : stats.currentSsrc = some g.ssrc
  running : stats.seqInitialized = true
  base : stats.baseSeq.toNat = g.first % 2 ^ 16
  highest : stats.extendedMaxSeq.toNat = g.first % 2 ^ 16 + (g.highest - g.first)
  received : stats.packetsReceived.toNat = g.arrived.length
  expectedPrior : stats.expectedPrior.toNat = g.expectedBefore
  receivedPrior : stats.receivedPrior.toNat = g.receivedBefore
  lost : stats.lostAccumulated.toNat = min (totalMissing gs) (2 ^ 32 - 1)
  ordered : g.first ≤ g.highest
  span : g.expected < 2 ^ 31
  nodup : g.arrived.Nodup
  within : ∀ i ∈ g.arrived, g.first ≤ i ∧ i ≤ g.highest
  before : g.expectedBefore ≤ g.expected ∧ g.receivedBefore ≤ g.arrived.length
  raised : g.arrived.length = g.receivedBefore → g.expected = g.expectedBefore

section Tracks

variable {stats : RtcpStats} {g : Generation} {gs : List Generation} {a : Arrival}

theorem Tracks.card_missing (h : Tracks stats g gs) :
    g.missing.card + g.arrived.length = g.expected := by
  have ho := h.ordered
  have hs : g.arrived.toFinset ⊆ Finset.Icc g.first g.highest := fun i hi =>
    Finset.mem_Icc.mpr (h.within i (mem_toFinset.mp hi))
  have hc := Finset.card_sdiff_add_card_eq_card hs
  rw [toFinset_card_of_nodup h.nodup, Nat.card_Icc] at hc
  rw [Generation.missing, Generation.expected]
  omega

theorem Tracks.expectedPackets (h : Tracks stats g gs) :
    stats.expectedPackets.toNat = g.expected := by
  have hb := h.base
  have hh := h.highest
  have hs := h.span
  rw [RtcpStats.expectedPackets, if_pos h.running, UInt32.toNat_add, UInt32.toNat_sub]
  rw [Generation.expected] at hs ⊢
  simp only [UInt32.toNat_one]
  omega

theorem toNat_saturatingAdd32 (x y : UInt32) :
    (saturatingAdd32 x y).toNat = min (x.toNat + y.toNat) (2 ^ 32 - 1) := by
  unfold saturatingAdd32
  split
  · rw [UInt32.toNat_add]
    omega
  · rw [Nat.min_eq_right (by omega)]
    rfl

section

variable (h : Tracks stats g gs)
include h

theorem Tracks.currentGenLost :
    stats.currentGenLost.toNat = g.missing.card := by
  have he := h.expectedPackets
  have hr := h.received
  have hc := h.card_missing
  have hle : stats.packetsReceived ≤ stats.expectedPackets := by
    rw [UInt32.le_iff_toNat_le]
    omega
  rw [RtcpStats.currentGenLost, saturatingSub32, if_pos hle, UInt32.toNat_sub_of_le _ _ hle]
  omega

theorem Tracks.cumulativeLost :
    stats.cumulativeLost.toNat = min (totalMissing (g :: gs)) (2 ^ 32 - 1) := by
  rw [RtcpStats.cumulativeLost, toNat_saturatingAdd32, h.lost, h.currentGenLost, totalMissing,
    totalMissing, map_cons, sum_cons]
  omega

theorem Tracks.intervals :
    (stats.expectedPackets - stats.expectedPrior).toNat = g.expected - g.expectedBefore ∧
      (stats.packetsReceived - stats.receivedPrior).toNat =
        g.arrived.length - g.receivedBefore := by
  obtain ⟨he, hr⟩ := h.before
  have hl := h.card_missing
  have hs := h.span
  rw [UInt32.toNat_sub, UInt32.toNat_sub, h.expectedPackets, h.expectedPrior, h.received,
    h.receivedPrior]
  omega

theorem Tracks.fraction :
    stats.fractionLostAndUpdate.2.toNat = g.fraction := by
  obtain ⟨he, hr⟩ := h.intervals
  have hra := h.raised
  have hb := h.before
  simp only [RtcpStats.fractionLostAndUpdate, Generation.fraction,
    UInt32.le_iff_toNat_le, ← UInt32.toNat_inj, UInt32.toNat_zero]
  split
  · rw [if_pos (by omega)]
    rfl
  rw [UInt32.toNat_sub_of_le _ _ (by rw [UInt32.le_iff_toNat_le]; omega), he, hr,
    if_neg (by omega)]
  -- a packet has arrived, so the quotient is below 256
  have hlt : (g.expected - g.expectedBefore - (g.arrived.length - g.receivedBefore)) * 256 /
      (g.expected - g.expectedBefore) < 256 := by
    rw [Nat.div_lt_iff_lt_mul (by omega)]
    omega
  rw [Nat.min_eq_left (by omega), Nat.mul_comm, UInt8.toNat_ofNat_of_lt' (by rwa [Nat.mul_comm])]

theorem Tracks.report :
    Tracks stats.fractionLostAndUpdate.1
      { g with expectedBefore := g.expected, receivedBefore := g.arrived.length } gs := by
  have hs : stats.fractionLostAndUpdate.1 =
      { stats with expectedPrior := stats.expectedPackets,
                   receivedPrior := stats.packetsReceived } := by
    simp only [RtcpStats.fractionLostAndUpdate]
    split <;> rfl
  rw [hs]
  exact { h with
    expectedPrior := h.expectedPackets
    receivedPrior := h.received
    before := ⟨Nat.le_refl _, Nat.le_refl _⟩
    raised := fun _ => rfl }

theorem Tracks.jitter (now : Nat) (timestamp clockRate : UInt32) :
    Tracks (stats.trackJitter now timestamp clockRate) g gs := by
  unfold RtcpStats.trackJitter
  split
  · exact { h with }
  · exact h

end

def RtcpStats.nextMax (stats : RtcpStats) (seq : UInt16) : UInt32 :=
  let delta := seq - stats.extendedMaxSeq.toUInt16
  if delta ≠ 0 ∧ delta < 0x8000 then stats.extendedMaxSeq + delta.toUInt32
  else stats.extendedMaxSeq

theorem RtcpStats.trackSequence_running (hr : stats.seqInitialized = true) (n m : UInt32)
    (seq : UInt16) :
    RtcpStats.trackSequence { stats with packetsReceived := n, octetsReceived := m } seq =
      { stats with
        packetsReceived := n, octetsReceived := m, extendedMaxSeq := stats.nextMax seq } := by
  simp only [trackSequence, nextMax, hr, if_true]
  split <;> rfl

theorem Tracks.delta (h : Tracks stats g gs) (index : Nat) :
    (UInt16.ofNat index - stats.extendedMaxSeq.toUInt16).toNat =
      (2 ^ 16 - g.highest % 2 ^ 16 + index % 2 ^ 16) % 2 ^ 16 := by
  have ho := h.ordered
  rw [UInt16.toNat_sub, UInt32.toNat_toUInt16, h.highest, UInt16.toNat_ofNat']
  omega

theorem Tracks.received_same (h : Tracks stats g gs) (hs : g.ssrc = a.ssrc)
    (ha : g.Admits a.index) :
    Tracks (lossStep stats (.received a)).1
      { g with highest := max g.highest a.index, arrived := a.index :: g.arrived } gs := by
  obtain ⟨hne, hfi, hh, hl, hsp⟩ := ha
  have hd := h.delta a.index
  have hold := h.highest
  have ho := h.ordered
  have hca := h.card_missing
  have he := h.span
  have hk : stats.startGeneration a.ssrc = stats := if_pos (h.ssrc.trans (congrArg some hs))
  have hc : (stats.packetsReceived + 1).toNat = g.arrived.length + 1 := by
    rw [UInt32.toNat_add, h.received, UInt32.toNat_one]
    omega
  rw [Generation.expected] at he
  have hm : (stats.nextMax (UInt16.ofNat a.index)).toNat =
      g.first % 2 ^ 16 + (max g.highest a.index - g.first) := by
    unfold RtcpStats.nextMax
    simp only [UInt16.lt_iff_toNat_lt, ne_eq, ← UInt16.toNat_inj, UInt16.toNat_zero]
    split <;> rename_i hf
    · rw [UInt32.toNat_add, UInt16.toNat_toUInt32]
      have hn : (0x8000 : UInt16).toNat = 2 ^ 15 := rfl
      omega
    · have hn : (0x8000 : UInt16).toNat = 2 ^ 15 := rfl
      omega
  simp only [lossStep, RtcpStats.recordReceived, hk, RtcpStats.trackSequence_running h.running]
  refine Tracks.jitter ?_ _ _ _
  exact { h with
    highest := hm
    received := hc
    ordered := by simp only; omega
    span := by simp only [Generation.expected]; omega
    nodup := nodup_cons.mpr ⟨hne, h.nodup⟩
    within := fun i hi => by
      rcases mem_cons.mp hi with rfl | hi
      · simp only; omega
      have := h.within i hi
      simp only
      omega
    before := by
      have := h.before
      simp only [Generation.expected, length_cons] at this ⊢
      omega
    raised := fun hsame => by
      have := h.before
      simp only [length_cons] at hsame
      omega }

theorem Tracks.received_first (ho : stats.currentSsrc ≠ some a.ssrc)
    (hl : (stats.startGeneration a.ssrc).lostAccumulated.toNat =
      min (totalMissing gs) (2 ^ 32 - 1)) :
    Tracks (lossStep stats (.received a)).1 (.start a) gs := by
  refine Tracks.jitter ?_ _ _ _
  unfold RtcpStats.startGeneration at hl ⊢
  rw [if_neg ho] at hl ⊢
  exact {
    ssrc := rfl
    running := rfl
    base := by
      rfl
    highest := by
      show (UInt16.ofNat a.index).toUInt32.toNat = _
      simp [Generation.start]
    received := rfl
    expectedPrior := rfl
    receivedPrior := rfl
    lost := hl
    ordered := Nat.le_refl _
    span := by simp [Generation.expected, Generation.start]
    nodup := nodup_singleton _
    within := fun i hi => by
      rw [mem_singleton.mp hi]
      exact ⟨Nat.le_refl _, Nat.le_refl _⟩
    before := ⟨Nat.zero_le _, Nat.zero_le _⟩
    raised := fun hsame => by cases hsame }

def Counts (stats : RtcpStats) : List Generation → Prop
  | [] => stats = {}
  | g :: gs => Tracks stats g gs

theorem Counts.step {e : LossEvent} (h : Counts stats gs) (ha : Admitted gs e) :
    Counts (lossStep stats e).1 (count gs e) := by
  cases gs with
  | nil =>
    subst h
    cases e with
    | received a => exact Tracks.received_first (Option.some_ne_none a.ssrc).symm rfl
    | report => rfl
  | cons g gs =>
    cases e with
    | received a =>
      rw [count]
      split
      · rename_i hs
        exact Tracks.received_same h hs (ha hs)
      rename_i hs
      have ho : stats.currentSsrc ≠ some a.ssrc := fun heq =>
        hs (Option.some.inj ((Tracks.ssrc h).symm.trans heq))
      refine Tracks.received_first ho ?_
      rw [RtcpStats.startGeneration, if_neg ho, ← Tracks.cumulativeLost h]
      exact congrArg UInt32.toNat (if_pos (by rw [Tracks.ssrc h]; rfl))
    | report => exact Tracks.report h

theorem Counts.run {events : List LossEvent} (h : Counts stats gs)
    (hc : Conforming gs events) :
    Counts (exec lossStep stats events) (events.foldl count gs) := by
  induction events generalizing stats gs with
  | nil => exact h
  | cons e rest ih => exact ih (h.step hc.1) hc.2

end Tracks

/-- The statistics of every conforming run: the highest sequence number with its
rollovers, the loss of all generations up to the bound of its counter, and the fraction
that the next report returns. -/
theorem loss_counted (events : List LossEvent) (hconforming : Conforming [] events) :
    (exec lossStep {} events).cumulativeLost.toNat =
        min (totalMissing (events.foldl count [])) (2 ^ 32 - 1) ∧
      ∀ g ∈ (events.foldl count []).head?,
        (exec lossStep {} events).extendedMaxSeq.toNat =
            g.first % 2 ^ 16 + (g.highest - g.first) ∧
          (exec lossStep {} events).fractionLostAndUpdate.2.toNat = g.fraction := by
  have hcounts : Counts (exec lossStep {} events) (events.foldl count []) :=
    Counts.run (show Counts {} [] from rfl) hconforming
  cases hgs : events.foldl count [] with
  | nil =>
    rw [hgs] at hcounts
    rw [show exec lossStep {} events = {} from hcounts]
    exact ⟨rfl, fun g hg => (Option.not_mem_none g hg).elim⟩
  | cons g gs =>
    rw [hgs] at hcounts
    refine ⟨Tracks.cumulativeLost hcounts, fun g' hg => ?_⟩
    rw [← Option.some.inj hg]
    exact ⟨Tracks.highest hcounts, Tracks.fraction hcounts⟩

def sampleRollover : List LossEvent :=
  [.received { ssrc := 7, index := 65534 }, .received { ssrc := 7, index := 65537 }]

theorem sampleRollover_counted :
    (exec lossStep {} sampleRollover).cumulativeLost.toNat =
        min (totalMissing (sampleRollover.foldl count [])) (2 ^ 32 - 1) ∧
      (exec lossStep {} sampleRollover).cumulativeLost = 2 :=
  ⟨(loss_counted sampleRollover ⟨trivial, fun _ => by unfold Generation.Admits; decide,
    trivial⟩).1, by decide⟩

/-! ## The counter saturates -/

def stride (ssrc : UInt32) (m : Nat) : List LossEvent :=
  (List.range (m + 1)).map fun i => .received { ssrc, index := 32767 * i }

def strideGeneration (ssrc : UInt32) (m : Nat) : Generation :=
  { ssrc, first := 0, highest := 32767 * m,
    arrived := ((List.range (m + 1)).map (32767 * ·)).reverse }

theorem conforming_append (gs : List Generation) (before after : List LossEvent) :
    Conforming gs (before ++ after) ↔
      Conforming gs before ∧ Conforming (before.foldl count gs) after := by
  induction before generalizing gs with
  | nil => exact (and_iff_right trivial).symm
  | cons e rest ih => exact (and_congr_right fun _ => ih (count gs e)).trans and_assoc.symm

theorem stride_run (ssrc : UInt32) (gs : List Generation) {m : Nat} (hm : m ≤ 65538)
    (ho : ∀ g ∈ gs.head?, g.ssrc ≠ ssrc) :
    Conforming gs (stride ssrc m) ∧
      (stride ssrc m).foldl count gs = strideGeneration ssrc m :: gs := by
  induction m with
  | zero =>
    cases gs with
    | nil => exact ⟨⟨trivial, trivial⟩, rfl⟩
    | cons g gs =>
      have hne : g.ssrc ≠ ssrc := ho g rfl
      exact ⟨⟨fun heq => absurd heq hne, trivial⟩, if_neg hne⟩
  | succ m ih =>
    obtain ⟨hc, hr⟩ := ih (by omega)
    have hs : stride ssrc (m + 1) =
        stride ssrc m ++ [.received { ssrc, index := 32767 * (m + 1) }] := by
      rw [stride, range_succ, map_append]
      rfl
    rw [hs, conforming_append, foldl_append, hr]
    refine ⟨⟨hc, fun _ => ?_, trivial⟩, ?_⟩
    · refine ⟨?_, ?_⟩
      · simp [strideGeneration]
      · simp only [strideGeneration]
        omega
    have hma : max (32767 * m) (32767 * (m + 1)) = 32767 * (m + 1) := by omega
    simp only [foldl_cons, count, if_true, strideGeneration, hma]
    rw [range_succ (n := m + 1), map_append, reverse_append]
    rfl

theorem le_missing_stride (ssrc : UInt32) (m : Nat) :
    32766 * m ≤ (strideGeneration ssrc m).missing.card := by
  have hs := Finset.le_card_sdiff (strideGeneration ssrc m).arrived.toFinset
    (Finset.Icc (strideGeneration ssrc m).first (strideGeneration ssrc m).highest)
  have ha := (strideGeneration ssrc m).arrived.toFinset_card_le
  have hl : (strideGeneration ssrc m).arrived.length = m + 1 := by simp [strideGeneration]
  rw [Nat.card_Icc] at hs
  simp only [strideGeneration] at hs ha hl
  simp only [Generation.missing, strideGeneration]
  omega

def flood (m : Nat) : List LossEvent := stride 1 m ++ (stride 2 m ++ stride 3 m)

theorem flood_run {m : Nat} (hm : m = 65538) :
    Conforming [] (flood m) ∧
      (exec lossStep {} (flood m)).cumulativeLost.toNat <
        totalMissing ((flood m).foldl count []) := by
  have hlt := (exec lossStep {} (flood m)).cumulativeLost.toNat_lt
  obtain ⟨hfi, ho⟩ := stride_run 1 [] hm.le (by simp)
  obtain ⟨hs, htw⟩ := stride_run 2 [strideGeneration 1 m] hm.le
    (by simp [strideGeneration])
  obtain ⟨ht, hth⟩ := stride_run 3 [strideGeneration 2 m, strideGeneration 1 m]
    hm.le (by simp [strideGeneration])
  have h1 := le_missing_stride 1 m
  have h2 := le_missing_stride 2 m
  have h3 := le_missing_stride 3 m
  rw [flood] at hlt ⊢
  rw [conforming_append, conforming_append, foldl_append, foldl_append, ho, htw,
    hth]
  refine ⟨⟨hfi, hs, ht⟩, ?_⟩
  simp only [totalMissing, map_cons, sum_cons]
  omega

/-- Of the largest span, they lose more packets than the counter can hold. -/
theorem flood_saturates :
    Conforming [] (flood 65538) ∧
      (exec lossStep {} (flood 65538)).cumulativeLost.toNat <
        totalMissing ((flood 65538).foldl count []) :=
  flood_run rfl

end RtpBridge.Rtcp
