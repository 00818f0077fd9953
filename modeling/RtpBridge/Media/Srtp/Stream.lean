/-
The per-SSRC state of an SRTP context.

A stream keeps a rollover counter, the highest sequence number and a 64-packet
replay window.  The sender moves it with `updateRoc`, the receiver guesses the
rollover counter of a packet with `estimateRoc` and commits it with
`checkReplay`.  The lemmas read all three over the 48-bit packet index: the
sender's index grows by the modular step of the sequence number, the receiver's
guess is the index itself for every index within `2 ^ 15` of the highest, and
the window is a sliding replay window over indices.
-/
import RtpBridge.Base.Window
import RtpBridge.Media.Srtp.Primitives

namespace RtpBridge.Srtp

/-- A stream that has seen no sequence number has not rolled over either.  The
receiver relies on it: its first packet is authenticated with counter zero. -/
structure SrtpStreamState where
  roc : UInt32 := 0
  highestSeq : UInt16 := 0
  seqInitialized : Bool := false
  replayWindow : BitVec 64 := 0
  protectedPackets : Nat := 0
  acceptedPackets : Nat := 0
  roc_eq_zero : seqInitialized = false → roc = 0 := by decide
deriving DecidableEq

variable {st : SrtpStreamState}

def packetIndex (roc : UInt32) (seq : UInt16) : UInt64 := (roc.toUInt64 <<< 16) ||| seq.toUInt64

theorem packetIndex_toNat (roc : UInt32) (seq : UInt16) :
    (packetIndex roc seq).toNat = roc.toNat * 2 ^ 16 + seq.toNat := by
  have hs : (roc.toUInt64 <<< 16).toNat = roc.toNat <<< 16 := by
    rw [UInt64.toNat_shiftLeft, Nat.shiftLeft_eq, Nat.shiftLeft_eq]
    have hr := roc.toNat_lt
    exact Nat.mod_eq_of_lt (by simp; omega)
  have hor := Nat.shiftLeft_add_eq_or_of_lt (i := 16) seq.toNat_lt roc.toNat
  rw [packetIndex, UInt64.toNat_or, hs, UInt16.toNat_toUInt64, ← hor, Nat.shiftLeft_eq]

theorem packetIndex_lt (roc : UInt32) (seq : UInt16) : (packetIndex roc seq).toNat < 2 ^ 48 := by
  have hr := roc.toNat_lt
  have hs := seq.toNat_lt
  rw [packetIndex_toNat]
  omega

/-- The window update that RTP and RTCP streams share: the new bitmap and whether
the index is the new highest one, or the error of an index that is too old or
marked, given the distance behind the highest. -/
def slideWindow (highest index : Nat) (window : BitVec 64) (tooOld duplicate : Nat → String) :
    Except String (BitVec 64 × Bool) :=
  if highest < index then
    let delta := index - highest
    .ok (if delta < 64 then (window <<< delta) ||| 1 else 1, true)
  else
    let delta := highest - index
    if 64 ≤ delta then .error (tooOld delta)
    else if window &&& (1#64 <<< delta) ≠ 0 then .error (duplicate delta)
    else .ok (window ||| (1#64 <<< delta), false)

theorem slideWindow_spec (highest index : Nat) (window : BitVec 64)
    (tooOld duplicate : Nat → String) :
    (∃ bits advanced, slideWindow highest index window tooOld duplicate = .ok (bits, advanced) ∧
      Window.accept { highest := highest, bits := window } index =
        some { highest := if advanced then index else highest, bits := bits }) ∨
    ∃ e, slideWindow highest index window tooOld duplicate = .error e ∧
      Window.accept { highest := highest, bits := window } index = none := by
  unfold slideWindow Window.accept
  by_cases ha : highest < index
  · left
    rw [if_pos ha, if_pos ha]
    exact ⟨_, true, rfl, rfl⟩
  rw [if_neg ha, if_neg ha]
  by_cases hold : 64 ≤ highest - index
  · right
    rw [if_pos hold, if_pos hold]
    exact ⟨_, rfl, rfl⟩
  rw [if_neg hold, if_neg hold]
  have hb := Window.and_shift_ne_zero window (highest - index)
  by_cases hd : window.getLsbD (highest - index) = true
  · right
    rw [if_pos (hb.mpr hd), if_pos hd]
    exact ⟨_, rfl, rfl⟩
  left
  rw [if_neg (mt hb.mp hd), if_neg hd]
  exact ⟨_, false, rfl, rfl⟩

namespace SrtpStreamState

def updateRoc (st : SrtpStreamState) (seq : UInt16) : SrtpStreamState :=
  if h : st.seqInitialized = false then
    { st with highestSeq := seq, seqInitialized := true, replayWindow := 1,
              roc_eq_zero := fun _ => st.roc_eq_zero h }
  else if seq < 0x8000 ∧ 0x8000 < st.highestSeq then
    -- The counter is a `u32` and wraps in release builds.
    { st with roc := st.roc + 1, highestSeq := seq, roc_eq_zero := fun hf => absurd hf h }
  else if st.highestSeq < seq then { st with highestSeq := seq }
  else st

def estimateRoc (st : SrtpStreamState) (seq : UInt16) : UInt32 × UInt64 :=
  if st.seqInitialized = false then (0, seq.toUInt64)
  else
    let roc :=
      if st.highestSeq < 0x8000 then
        if st.highestSeq + 0x8000 < seq then st.roc - 1 else st.roc
      else if seq < st.highestSeq - 0x8000 then st.roc + 1
      else st.roc
    (roc, packetIndex roc seq)

def checkReplay (st : SrtpStreamState) (seq : UInt16) :
    SrtpStreamState × Except String (UInt32 × UInt64) :=
  if h : st.seqInitialized = false then
    ({ st with highestSeq := seq, seqInitialized := true, replayWindow := 1,
               roc_eq_zero := fun _ => st.roc_eq_zero h }, .ok (0, seq.toUInt64))
  else
    let (estimatedRoc, index) := st.estimateRoc seq
    let highestIndex := packetIndex st.roc st.highestSeq
    match slideWindow highestIndex.toNat index.toNat st.replayWindow
        (fun delta => s!"SRTP replay: packet too old (delta={delta})")
        (fun delta => s!"SRTP replay: duplicate packet (seq={seq.toNat}, delta={delta})") with
    | .error e => (st, .error e)
    | .ok (window, true) =>
      ({ st with replayWindow := window, highestSeq := seq, roc := estimatedRoc,
                 roc_eq_zero := fun hf => absurd hf h }, .ok (estimatedRoc, index))
    | .ok (window, false) => ({ st with replayWindow := window }, .ok (estimatedRoc, index))

def window (st : SrtpStreamState) : Window 64 :=
  { highest := (packetIndex st.roc st.highestSeq).toNat, bits := st.replayWindow }

def window? (st : SrtpStreamState) : Option (Window 64) :=
  if st.seqInitialized then some st.window else none

theorem window?_eq_some (h : st.seqInitialized = true) : st.window? = some st.window := by
  rw [window?, if_pos h]

theorem packetIndex_zero (seq : UInt16) : packetIndex 0 seq = seq.toUInt64 := by
  apply UInt64.toNat_inj.mp
  simp [packetIndex_toNat]

theorem estimateRoc_index (st : SrtpStreamState) (seq : UInt16) :
    (st.estimateRoc seq).2 = packetIndex (st.estimateRoc seq).1 seq := by
  unfold estimateRoc
  split
  · exact (packetIndex_zero seq).symm
  · rfl

theorem estimateRoc_of_uninitialized (h : st.seqInitialized = false) (seq : UInt16) :
    st.estimateRoc seq = (0, packetIndex 0 seq) := by
  rw [estimateRoc, if_pos h, packetIndex_zero]

theorem estimateRoc_eq (hi : st.seqInitialized = true) {roc : UInt32} {seq : UInt16}
    (ha : (packetIndex roc seq).toNat < st.window.highest + 2 ^ 15)
    (hb : st.window.highest < (packetIndex roc seq).toNat + 2 ^ 15) :
    st.estimateRoc seq = (roc, packetIndex roc seq) := by
  have hro : (st.estimateRoc seq).1 = roc := by
    rw [estimateRoc, if_neg (by simp [hi])]
    dsimp only
    simp only [window, packetIndex_toNat] at ha hb
    have hs := seq.toNat_lt
    have hh := st.highestSeq.toNat_lt
    have hr := roc.toNat_lt
    apply UInt32.toNat_inj.mp
    split
    · rename_i hl
      have hl' : st.highestSeq.toNat < 0x8000 := by simpa [UInt16.lt_iff_toNat_lt] using hl
      have hsu : (st.highestSeq + 0x8000).toNat = st.highestSeq.toNat + 0x8000 := by
        simp
        omega
      split
      · rename_i hf
        rw [UInt16.lt_iff_toNat_lt] at hf
        rw [UInt32.toNat_sub]
        simp only [UInt32.reduceToNat]
        omega
      rename_i hf
      rw [UInt16.lt_iff_toNat_lt] at hf
      omega
    · rename_i hhi
      have hhi' : 0x8000 ≤ st.highestSeq.toNat := by
        simpa [UInt16.lt_iff_toNat_lt] using hhi
      have hd : (st.highestSeq - 0x8000).toNat = st.highestSeq.toNat - 0x8000 := by
        rw [UInt16.toNat_sub]
        simp only [UInt16.reduceToNat]
        omega
      split
      · rename_i hw
        rw [UInt16.lt_iff_toNat_lt] at hw
        rw [UInt32.toNat_add]
        simp only [UInt32.reduceToNat]
        omega
      rename_i hw
      rw [UInt16.lt_iff_toNat_lt] at hw
      omega
  rw [Prod.ext_iff, estimateRoc_index, hro]
  exact ⟨rfl, rfl⟩

theorem checkReplay_spec (st : SrtpStreamState) (seq : UInt16) :
    (∃ st', st.checkReplay seq = (st', .ok (st.estimateRoc seq)) ∧
        st'.seqInitialized = true ∧
        Window.receive st.window? (st.estimateRoc seq).2.toNat = some st'.window ∧
        st'.protectedPackets = st.protectedPackets ∧
        st'.acceptedPackets = st.acceptedPackets) ∨
      ∃ e, st.checkReplay seq = (st, .error e) ∧
        Window.receive st.window? (st.estimateRoc seq).2.toNat = none := by
  cases hi : st.seqInitialized with
  | false =>
    left
    have hr := st.roc_eq_zero hi
    refine ⟨(st.checkReplay seq).1, ?_, ?_, ?_, ?_, ?_⟩
    · simp [checkReplay, estimateRoc, hi]
    · simp [checkReplay, hi]
    · simp [checkReplay, estimateRoc, hi, window?, window, Window.receive, Window.first,
        hr, packetIndex_zero]
    · simp [checkReplay, hi]
    · simp [checkReplay, hi]
  | true =>
    rw [window?_eq_some hi]
    have hid := estimateRoc_index st seq
    simp only [checkReplay, hi]
    generalize st.estimateRoc seq = est at hid ⊢
    rcases slideWindow_spec (packetIndex st.roc st.highestSeq).toNat est.2.toNat
        st.replayWindow
        (fun delta => s!"SRTP replay: packet too old (delta={delta})")
        (fun delta => s!"SRTP replay: duplicate packet (seq={seq.toNat}, delta={delta})")
      with ⟨bits, advanced, hs, ha⟩ | ⟨e, hs, ha⟩
    · left
      rw [hs]
      cases advanced with
      | true =>
        refine ⟨_, rfl, rfl, ha.trans ?_, rfl, rfl⟩
        simp only [window, ← hid, if_true]
      | false => exact ⟨_, rfl, rfl, ha, rfl, rfl⟩
    right
    rw [hs]
    exact ⟨e, rfl, ha⟩

theorem checkReplay_ne {st' : SrtpStreamState} {seq : UInt16} {r : UInt32 × UInt64}
    (h : st.checkReplay seq = (st', .ok r)) : st' ≠ st := by
  rcases st.checkReplay_spec seq with ⟨_, hs, hi, hw, -⟩ | ⟨e, hs, -⟩
  · rw [hs] at h
    cases h
    rintro rfl
    rw [window?_eq_some hi] at hw
    exact Window.accept_ne hw rfl
  · rw [hs] at h
    cases h

/-! The sender's side.  `e` is the index of the packet sent last.  A context that
was used before may hold a highest sequence number above that of `e`; it is then
in the same half of the sequence space as long as `e` is in the lower one, which
is all the wrap test looks at. -/

def seqStep (e : Nat) (seq : UInt16) : Nat := (seq.toNat + 2 ^ 16 - e % 2 ^ 16) % 2 ^ 16

structure Follows (st : SrtpStreamState) (e : Nat) : Prop where
  initialized : st.seqInitialized = true
  roc : st.roc.toNat = e / 2 ^ 16
  seq_le : e % 2 ^ 16 ≤ st.highestSeq.toNat
  lower_half : e % 2 ^ 16 < 0x8000 → st.highestSeq.toNat ≤ 0x8000

theorem updateRoc_counts (st : SrtpStreamState) (seq : UInt16) :
    (st.updateRoc seq).protectedPackets = st.protectedPackets ∧
      (st.updateRoc seq).acceptedPackets = st.acceptedPackets := by grind [updateRoc]

theorem updateRoc_follows (st : SrtpStreamState) (seq : UInt16) :
    (st.updateRoc seq).Follows (packetIndex (st.updateRoc seq).roc seq).toNat := by
  have hs := seq.toNat_lt
  have hd : ∀ r : UInt32, (packetIndex r seq).toNat / 2 ^ 16 = r.toNat := by
    intro r
    rw [packetIndex_toNat]
    omega
  have hm : ∀ r : UInt32, (packetIndex r seq).toNat % 2 ^ 16 = seq.toNat := by
    intro r
    rw [packetIndex_toNat]
    omega
  refine ⟨?_, (hd _).symm, ?_, ?_⟩
  · unfold updateRoc
    grind
  · rw [hm]
    unfold updateRoc
    split
    · exact Nat.le_refl _
    split
    · exact Nat.le_refl _
    split
    · exact Nat.le_refl _
    · rename_i hle
      exact UInt16.le_iff_toNat_le.mp (UInt16.not_lt.mp hle)
  grind [updateRoc, UInt16.lt_iff_toNat_lt]

theorem Follows.updateRoc_index {e : Nat} (h : st.Follows e) {seq : UInt16}
    (hp : 1 ≤ seqStep e seq) (hm : seqStep e seq ≤ 0x7FFF) (hsp : e + seqStep e seq < 2 ^ 48) :
    (packetIndex (st.updateRoc seq).roc seq).toNat = e + seqStep e seq := by
  obtain ⟨hi, hr, hle, hl⟩ := h
  have hse := seq.toNat_lt
  rw [packetIndex_toNat, updateRoc, dif_neg (by simp [hi])]
  unfold seqStep at *
  by_cases hw : seq < 0x8000 ∧ 0x8000 < st.highestSeq
  · rw [if_pos hw]
    rw [UInt16.lt_iff_toNat_lt, UInt16.lt_iff_toNat_lt] at hw
    simp only [UInt16.reduceToNat] at hw
    have hn : (st.roc + 1).toNat = st.roc.toNat + 1 := by
      rw [UInt32.toNat_add]
      exact Nat.mod_eq_of_lt (by simp only [UInt32.reduceToNat]; omega)
    simp only [hn]
    omega
  grind [UInt16.lt_iff_toNat_lt]

end SrtpStreamState
end RtpBridge.Srtp
