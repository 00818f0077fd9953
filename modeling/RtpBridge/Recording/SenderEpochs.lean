/-
How `pcap2audio` puts the packets of a channel back into the order they were sent in:
`epoch_sequence_keys` and the loop of `decode_channel_to` in `bin/pcap2audio.rs`.
-/
import Mathlib.Data.List.Sort
import Mathlib.Algebra.Group.Nat.Defs

namespace RtpBridge.Pcap2Audio

open List

structure RtpPacket where
  epoch : UInt32
  ssrc : UInt32
  seq : UInt16
  ts : UInt32
  capture : Nat
  clockRate : Nat
deriving DecidableEq

def unwrap (prev : Option UInt16) (ext : Int) (seq : UInt16) : Int :=
  match prev with
  | none => seq.toNat
  | some pv => ext + (seq - pv).toBitVec.toInt

def keysFrom (first : RtpPacket) (prev : Option UInt16) (ext highest : Int) :
    List RtpPacket → List Int
  | [] => []
  | p :: rest =>
    if p.epoch ≠ first.epoch ∨ p.ssrc ≠ first.ssrc then []
    else
      let ext := unwrap prev ext p.seq
      if ext < highest - 512 ∨ highest + 16384 < ext then []
      else ext :: keysFrom first (some p.seq) ext (max highest ext) rest

def epochSequenceKeys : List RtpPacket → List Int
  | [] => []
  | first :: rest => keysFrom first none 0 first.seq.toNat (first :: rest)

def epochs : List RtpPacket → List (List RtpPacket)
  | [] => []
  | p :: rest =>
    let n := (epochSequenceKeys (p :: rest)).length
    (p :: rest).take n :: epochs (rest.drop (n - 1))
termination_by packets => packets.length

def sortByKey (keys : List Int) : List Nat :=
  (List.range keys.length).mergeSort fun i j => keys.getD i 0 ≤ keys.getD j 0

theorem epochSequenceKeys_cons (p : RtpPacket) (rest : List RtpPacket) :
    epochSequenceKeys (p :: rest) =
      (p.seq.toNat : Int) :: keysFrom p (some p.seq) p.seq.toNat p.seq.toNat rest := by
  rw [epochSequenceKeys, keysFrom, if_neg (by simp)]
  dsimp only [unwrap]
  rw [if_neg (by omega), max_self]

theorem keysFrom_same (first : RtpPacket) (prev : Option UInt16) (ext highest : Int)
    (packets : List RtpPacket) :
    ∀ p ∈ packets.take (keysFrom first prev ext highest packets).length,
      p.epoch = first.epoch ∧ p.ssrc = first.ssrc := by
  induction packets generalizing prev ext highest with
  | nil => simp
  | cons q packets ih =>
    unfold keysFrom
    split
    · simp
    rename_i hq
    dsimp only
    split
    · simp
    intro p hp
    rcases mem_cons.mp hp with rfl | hp
    · simpa using hq
    · exact ih _ _ _ p hp

theorem epochs_spec (packets : List RtpPacket) : (epochs packets).flatten = packets ∧
      ∀ e ∈ epochs packets, e ≠ [] ∧ ∀ p ∈ e, ∀ q ∈ e, p.ssrc = q.ssrc ∧ p.epoch = q.epoch := by
  induction packets using epochs.induct with
  | case1 => simp [epochs]
  | case2 p rest n ih =>
    obtain ⟨hflat, hsame⟩ := ih
    have hn : n = n - 1 + 1 := by
      simp only [n, epochSequenceKeys_cons, length_cons, Nat.add_sub_cancel]
    rw [epochs]
    refine ⟨?_, fun e he => ?_⟩
    · rw [flatten_cons, hflat]
      show (p :: rest).take n ++ _ = _
      rw [hn]
      simp
    rcases mem_cons.mp he with rfl | he
    · have hp := keysFrom_same p none 0 p.seq.toNat (p :: rest)
      refine ⟨?_, fun a ha b hb => ?_⟩
      · show (p :: rest).take n ≠ []
        rw [hn]
        simp
      · exact ⟨(hp a ha).2.trans (hp b hb).2.symm, (hp a ha).1.trans (hp b hb).1.symm⟩
    · exact hsame e he

/-! ## The true numbers -/

abbrev Numbered := RtpPacket × Int

def Within (highest : Int) : List Int → Prop
  | [] => True
  | n :: rest => highest - 512 ≤ n ∧ n ≤ highest + 16384 ∧ Within (max highest n) rest

/-- Packets of one source whose numbers move in steps that 16 bits tell apart, inside the
window. -/
structure Regular (first : Numbered) (run : List Numbered) : Prop where
  same : ∀ x ∈ run, x.1.epoch = first.1.epoch ∧ x.1.ssrc = first.1.ssrc
  numbered : ∀ x ∈ first :: run, (x.1.seq.toNat : Int) = x.2 % 65536
  close : (first :: run).IsChain fun a b => (b.2 - a.2).natAbs < 2 ^ 15
  within : Within first.2 (run.map Prod.snd)

theorem toInt_sub_eq {a b : UInt16} {m n : Int} (ha : (a.toNat : Int) = m % 65536)
    (hb : (b.toNat : Int) = n % 65536) (hlt : (n - m).natAbs < 2 ^ 15) :
    (b - a).toBitVec.toInt = n - m := by
  have hsub : (b - a).toBitVec.toNat = (65536 - a.toNat + b.toNat) % 65536 := UInt16.toNat_sub b a
  rw [BitVec.toInt_eq_toNat_cond]
  split <;> omega

theorem Regular.keysFrom {x : Numbered} {run : List Numbered} {highest c : Int}
    (first : RtpPacket) (rest : List RtpPacket)
    (hsame : ∀ y ∈ run, y.1.epoch = first.epoch ∧ y.1.ssrc = first.ssrc)
    (hnum : ∀ y ∈ x :: run, (y.1.seq.toNat : Int) = y.2 % 65536)
    (hclose : (x :: run).IsChain fun a b => (b.2 - a.2).natAbs < 2 ^ 15)
    (hwithin : Within highest (run.map Prod.snd)) :
    ∃ prev ext high, keysFrom first (some x.1.seq) (x.2 + c) (highest + c)
        (run.map Prod.fst ++ rest) =
      run.map (fun y => y.2 + c) ++ Pcap2Audio.keysFrom first prev ext high rest := by
  induction run generalizing x highest with
  | nil => exact ⟨_, _, _, rfl⟩
  | cons y run ih =>
    obtain ⟨hlow, hhigh, hwithin⟩ := hwithin
    obtain ⟨hxy, hclose⟩ := isChain_cons_cons.mp hclose
    have hy := hsame y mem_cons_self
    have hkey : unwrap (some x.1.seq) (x.2 + c) y.1.seq = y.2 + c := by
      rw [unwrap, toInt_sub_eq (hnum x (by simp)) (hnum y (by simp)) hxy]
      omega
    obtain ⟨prev, ext, high, hrun⟩ := ih
      (fun z hz => hsame z (mem_cons_of_mem y hz))
      (fun z hz => hnum z (mem_cons_of_mem x hz)) hclose hwithin
    refine ⟨prev, ext, high, ?_⟩
    rw [map_cons, cons_append, Pcap2Audio.keysFrom, if_neg (by simp [hy])]
    rw [hkey, if_neg (by omega), show max (highest + c) (y.2 + c) = max highest y.2 + c by omega,
      hrun]
    rfl

theorem sortByKey_perm (keys : List Int) : (sortByKey keys).Perm (List.range keys.length) :=
  mergeSort_perm _ _

theorem sortByKey_pairwise (keys : List Int) : (sortByKey keys).Pairwise fun i j =>
      keys.getD i 0 < keys.getD j 0 ∨ keys.getD i 0 = keys.getD j 0 ∧ i ≤ j := by
  unfold sortByKey
  rw [← mergeSort_zipIdx, pairwise_map]
  refine (pairwise_mergeSort (zipIdxLE_trans (by simp; omega))
    (zipIdxLE_total (by simp; omega)) _).imp_of_mem fun {a b} ha hb hab => ?_
  have hidx : ∀ x ∈ (List.range keys.length).zipIdx, x.2 = x.1 := by
    intro x hx
    have := mem_zipIdx hx
    simp_all
  have h1 := hidx a ((mergeSort_perm _ _).subset ha)
  have h2 := hidx b ((mergeSort_perm _ _).subset hb)
  unfold List.zipIdxLE at hab
  grind

/-! ## The output position -/

structure Channel where
  outRate : Nat
  maximum : Nat
  sampleAt : Nat → Nat

def Channel.target (ch : Channel) (firstTs : UInt32) (anchor : Nat) (p : RtpPacket) : Nat :=
  let relTicks := p.ts - firstTs
  let captureTarget := ch.sampleAt p.capture
  let rtpTarget :=
    if relTicks ≠ 0 ∧ relTicks ≤ 0x80000000 then
      relTicks.toNat * ch.outRate / p.clockRate + anchor
    else captureTarget
  if 2 * ch.outRate < (rtpTarget - captureTarget) + (captureTarget - rtpTarget) then captureTarget
  else rtpTarget

variable {D : Type} {ch : Channel} {decode : D → RtpPacket → Except String (D × Option Nat)}

/-- The positions behind the packets of an epoch, and whether it was written to its end.  A
packet that does not decode is left out. -/
def writeEpoch (ch : Channel) (decode : D → RtpPacket → Except String (D × Option Nat))
    (firstTs : UInt32) (anchor : Nat) : D → Nat → List RtpPacket → List Nat × Bool
  | _, _, [] => ([], true)
  | d, written, p :: rest =>
    match decode d p with
    | .error _ => ([], false)
    | .ok (d, none) => writeEpoch ch decode firstTs anchor d written rest
    | .ok (d, some samples) =>
      let stop := max (ch.target firstTs anchor p) written + samples
      if ch.maximum < stop then ([], false)
      else ((writeEpoch ch decode firstTs anchor d stop rest).map (stop :: ·) id)

def decodeChannel (ch : Channel) (decode : D → RtpPacket → Except String (D × Option Nat))
    (fresh : D) : Nat → List RtpPacket → List Nat
  | _, [] => []
  | written, p :: rest =>
    let keys := epochSequenceKeys (p :: rest)
    let epoch := (p :: rest).take keys.length
    let sorted := (sortByKey keys).filterMap fun i => epoch[i]?
    let firstTs := (sorted.head?.map RtpPacket.ts).getD 0
    let anchor := ch.sampleAt ((epoch.map RtpPacket.capture).min?.getD 0)
    let (positions, whole) := writeEpoch ch decode firstTs anchor fresh written sorted
    positions ++ if whole then
        decodeChannel ch decode fresh (positions.getLastD written) (rest.drop (keys.length - 1))
      else []
termination_by _ packets => packets.length

theorem isChain_append_of_last {w : Nat} {a b : List Nat} (ha : (w :: a).IsChain (· ≤ ·))
    (hb : (a.getLastD w :: b).IsChain (· ≤ ·)) : (w :: (a ++ b)).IsChain (· ≤ ·) := by
  induction a generalizing w with
  | nil => exact hb
  | cons x a ih =>
    obtain ⟨hx, ha⟩ := isChain_cons_cons.mp ha
    rw [getLastD_cons] at hb
    exact isChain_cons_cons.mpr ⟨hx, ih ha hb⟩

theorem writeEpoch_chain (firstTs : UInt32) (anchor : Nat) (d : D) (written : Nat)
    (packets : List RtpPacket) :
    (written :: (writeEpoch ch decode firstTs anchor d written packets).1).IsChain (· ≤ ·) := by
  induction packets generalizing d written with
  | nil => exact .singleton _
  | cons p rest ih =>
    unfold writeEpoch
    split
    · exact .singleton _
    · exact ih _ _
    dsimp only
    split
    · exact .singleton _
    · exact isChain_cons_cons.mpr
        ⟨Nat.le_trans (Nat.le_max_right _ _) (Nat.le_add_right _ _), ih _ _⟩

theorem decodeChannel_chain (fresh : D) (written : Nat) (packets : List RtpPacket) :
    (written :: decodeChannel ch decode fresh written packets).IsChain (· ≤ ·) := by
  induction hn : packets.length using Nat.strong_induction_on generalizing written packets with
  | _ n ih =>
    cases packets with
    | nil =>
      rw [decodeChannel]
      exact .singleton _
    | cons p rest =>
      rw [decodeChannel]
      refine isChain_append_of_last (writeEpoch_chain _ _ _ _ _) ?_
      split
      · refine ih _ ?_ _ _ rfl
        rw [length_cons] at hn
        rw [length_drop]
        omega
      · exact .singleton _

theorem Regular.keys {first : Numbered} {run : List Numbered} (h : Regular first run)
    (rest : List RtpPacket) :
    ∃ c more, epochSequenceKeys ((first :: run).map Prod.fst ++ rest) =
      (first :: run).map (fun x => x.2 + c) ++ more ∧
      ((∀ q ∈ rest.head?, q.epoch ≠ first.1.epoch ∨ q.ssrc ≠ first.1.ssrc) → more = []) := by
  obtain ⟨prev, ext, high, hrun⟩ := Regular.keysFrom (c := first.1.seq.toNat - first.2) first.1 rest
    h.same h.numbered h.close h.within
  refine ⟨first.1.seq.toNat - first.2, Pcap2Audio.keysFrom first.1 prev ext high rest, ?_, ?_⟩
  · rw [show first.2 + (first.1.seq.toNat - first.2) = (first.1.seq.toNat : Int) by omega] at hrun
    rw [map_cons, cons_append, epochSequenceKeys_cons, hrun, map_cons,
      show first.2 + (first.1.seq.toNat - first.2) = (first.1.seq.toNat : Int) by omega]
    rfl
  intro hq
  cases rest with
  | nil => rfl
  | cons q rest => exact if_pos (hq q rfl)

def sampleNumbered (n : Nat) : Numbered :=
  (⟨0, 7, UInt16.ofNat n, 0, 0, 8000⟩, n)

/-- Packets that cross the wrap of the sequence numbers, two of them swapped. -/
def sampleWrap : List Numbered := [65536, 65535, 65537].map sampleNumbered

theorem sampleWrap_regular : Regular (sampleNumbered 65534) sampleWrap where
  same := by decide
  numbered := by decide
  close := by decide
  within := by simp [Within, sampleWrap, sampleNumbered]

end RtpBridge.Pcap2Audio
