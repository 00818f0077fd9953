/-
Sliding replay windows.
-/
import Mathlib

namespace RtpBridge

structure Window (n : Nat) where
  highest : Nat
  bits : BitVec n

namespace Window

variable {n : Nat}

def first (i : Nat) : Window n := { highest := i, bits := 1#n }

def accept (w : Window n) (i : Nat) : Option (Window n) :=
  if w.highest < i then
    some { highest := i,
           bits := if i - w.highest < n then (w.bits <<< (i - w.highest)) ||| 1#n else 1#n }
  else if n ≤ w.highest - i then none
  else if w.bits.getLsbD (w.highest - i) then none
  else some { w with bits := w.bits ||| (1#n <<< (w.highest - i)) }

def Covers (w : Window n) (seen : Nat → Prop) : Prop :=
  ∀ i, seen i → i ≤ w.highest ∧ (w.highest - i < n → w.bits.getLsbD (w.highest - i) = true)

/-- The accepted indices are bounded by the window, and inside it they are the
marked ones. -/
def Exact (w : Window n) (seen : Nat → Prop) : Prop :=
  (∀ i, seen i → i ≤ w.highest) ∧
    ∀ i, i ≤ w.highest → w.highest - i < n → (w.bits.getLsbD (w.highest - i) = true ↔ seen i)

variable {v w w' : Window n} {seen : Nat → Prop} {d i k : Nat}

theorem Exact.covers (h : w.Exact seen) : w.Covers seen :=
  fun i hi => ⟨h.1 i hi, fun hd => (h.2 i (h.1 i hi) hd).mpr hi⟩

theorem accept_highest (h : w.accept i = some w') : w'.highest = max w.highest i := by
  grind [accept]

theorem getLsbD_one_shift (hd : d < n) : (1#n <<< k).getLsbD d = decide (d = k) := by grind

theorem and_shift_ne_zero (b : BitVec n) (k : Nat) :
    b &&& (1#n <<< k) ≠ 0 ↔ b.getLsbD k = true := by
  constructor
  · grind
  intro hs hz
  have hg := congrArg (fun b : BitVec n => b.getLsbD k) hz
  simp [getLsbD_one_shift (BitVec.lt_of_getLsbD hs), hs] at hg

theorem getLsbD_first (hd : d < n) : (1#n).getLsbD d = decide (d = 0) := by
  by_cases h0 : d = 0
  · subst h0
    simp [hd]
  · simp [h0]

theorem accept_getLsbD {j : Nat} (h : w.accept i = some w') (hj : j ≤ w'.highest)
    (hd : w'.highest - j < n) :
    w'.bits.getLsbD (w'.highest - j) =
      (decide (j = i) || (decide (j ≤ w.highest) && w.bits.getLsbD (w.highest - j))) := by
  unfold accept at h
  split at h
  · cases h
    by_cases hn : i - w.highest < n
    · grind
    -- The window jumped past its own width, so only the new index is inside it.
    rw [if_neg hn, getLsbD_first hd]
    by_cases hji : j = i
    · simp [hji]
    · grind
  grind

theorem accept_ne (h : w.accept i = some w') : w' ≠ w := by
  rintro rfl
  have hi := accept_highest h
  have hset := accept_getLsbD (j := i) h (by omega)
  unfold accept at h
  grind

theorem Covers.not_seen (hw : w.Covers seen) (h : w.accept i = some w') : ¬ seen i := by
  intro hi
  obtain ⟨hle, hb⟩ := hw i hi
  grind [accept]

theorem Covers.accept (hw : w.Covers seen) (h : w.accept i = some w') :
    w'.Covers fun j => j = i ∨ seen j := by
  have hm := accept_highest h
  intro j hj
  have hle : j ≤ w'.highest := by
    rcases hj with rfl | hj
    · omega
    · have := (hw j hj).1
      omega
  refine ⟨hle, fun hd => ?_⟩
  rw [accept_getLsbD h hle hd]
  rcases hj with rfl | hj
  · simp
  obtain ⟨hjw, hb⟩ := hw j hj
  have hdw : w.highest - j < n := by omega
  simp [hjw, hb hdw]

theorem Exact.accept (hw : w.Exact seen) (h : w.accept i = some w') :
    w'.Exact fun j => j = i ∨ seen j := by
  have hm := accept_highest h
  refine ⟨fun j hj => (hw.covers.accept h j hj).1, fun j hle hd => ?_⟩
  rw [accept_getLsbD h hle hd]
  by_cases hjw : j ≤ w.highest
  · have hdw : w.highest - j < n := by omega
    simp [hjw, hw.2 j hjw hdw]
  · have hns : ¬ seen j := fun hs => hjw (hw.1 j hs)
    simp [hjw, hns]

theorem first_exact (i : Nat) : (first i : Window n).Exact fun j => j = i := by
  refine ⟨fun j hj => Nat.le_of_eq hj, fun j hle hd => ?_⟩
  simp only [first] at hle hd ⊢
  rw [getLsbD_first hd]
  simp only [decide_eq_true_eq]
  omega

theorem Exact.accept_isSome (hw : w.Exact seen) (hne : ¬ seen i) (hn : w.highest < i + n) :
    (w.accept i).isSome = true := by
  unfold Window.accept
  split
  · rfl
  rename_i hle
  have hd : w.highest - i < n := by omega
  rw [if_neg (Nat.not_le.mpr hd)]
  have hb : ¬ w.bits.getLsbD (w.highest - i) = true := by
    rw [hw.2 i (Nat.le_of_not_lt hle) hd]
    exact hne
  rw [if_neg hb]
  rfl

/-! ## Windows that open with the first index -/

def receive (w : Option (Window n)) (i : Nat) : Option (Window n) :=
  match w with
  | none => some (first i)
  | some w => w.accept i

def Tracks (w : Option (Window n)) (seen : Nat → Prop) : Prop :=
  match w with
  | none => ∀ i, ¬ seen i
  | some w => w.Covers seen

def Records (w : Option (Window n)) (seen : Nat → Prop) : Prop :=
  match w with
  | none => ∀ i, ¬ seen i
  | some w => w.Exact seen ∧ seen w.highest

theorem Tracks.mono {w : Option (Window n)} {seen' : Nat → Prop} (h : Tracks w seen)
    (hs : ∀ i, seen' i → seen i) : Tracks w seen' := by
  cases w with
  | none => exact fun i hi => h i (hs i hi)
  | some w => exact fun i hi => h i (hs i hi)

theorem Tracks.not_seen {w : Option (Window n)} (h : Tracks w seen) (hv : receive w i = some v) :
    ¬ seen i := by
  cases w with
  | none => exact h i
  | some w => exact Covers.not_seen h hv

theorem Tracks.receive {w : Option (Window n)} (h : Tracks w seen) (hv : receive w i = some v) :
    Tracks (some v) fun j => j = i ∨ seen j := by
  cases w with
  | none =>
    cases hv
    intro j hj
    exact (first_exact i).covers j (hj.resolve_right (h j))
  | some w => exact Covers.accept h hv

theorem Records.receive {w : Option (Window n)} (h : Records w seen) (hv : receive w i = some v) :
    Records (some v) fun j => j = i ∨ seen j := by
  cases w with
  | none =>
    cases hv
    have hi : (fun j => j = i ∨ seen j) = fun j => j = i := by
      funext j
      simp [show ¬ seen j from h j]
    rw [hi]
    exact ⟨first_exact i, rfl⟩
  | some w =>
    refine ⟨Exact.accept h.1 hv, ?_⟩
    have hm : v.highest = max w.highest i := accept_highest hv
    by_cases hle : w.highest ≤ i
    · omega
    right
    rw [hm, Nat.max_eq_left (by omega)]
    exact h.2

theorem Records.receive_isSome {w : Option (Window n)} (h : Records w seen) (hne : ¬ seen i)
    (hn : ∀ v, w = some v → v.highest < i + n) : (Window.receive w i).isSome = true := by
  cases w with
  | none => rfl
  | some w => exact Exact.accept_isSome h.1 hne (hn w rfl)

theorem receive_highest (h : receive (some w) i = some w') : w.highest ≤ w'.highest := by
  have hm := accept_highest h
  omega

/-! ## Tables of windows

One window per key, against a list of keyed indices in order of arrival. -/

section Table

variable {K : Type*} {w w' : K → Option (Window n)} {seen : List (K × Nat)} {k : K} {i : Nat}

def TracksAll (w : K → Option (Window n)) (seen : List (K × Nat)) : Prop :=
  ∀ k, Tracks (w k) fun i => (k, i) ∈ seen

def RecordsAll (w : K → Option (Window n)) (seen : List (K × Nat)) : Prop :=
  ∀ k, Records (w k) fun i => (k, i) ∈ seen

structure Received (w w' : K → Option (Window n)) (k : K) (i : Nat) : Prop where
  own : ∃ v, receive (w k) i = some v ∧ w' k = some v
  others : ∀ j, j ≠ k → w' j = w j

theorem tracksAll_nil (w : K → Option (Window n)) : TracksAll w [] := by
  intro k
  cases hw : w k with
  | none => exact fun i hi => absurd hi List.not_mem_nil
  | some v => exact fun i hi => absurd hi List.not_mem_nil

theorem TracksAll.not_mem (h : TracksAll w seen) (hr : Received w w' k i) : (k, i) ∉ seen := by
  obtain ⟨v, hv, -⟩ := hr.own
  exact (h k).not_seen hv

theorem mem_append_own {j : Nat} : (k, j) ∈ seen ++ [(k, i)] ↔ j = i ∨ (k, j) ∈ seen := by
  simp [or_comm]

theorem mem_append_other {k' : K} {j : Nat} (h : k' ≠ k) :
    (k', j) ∈ seen ++ [(k, i)] ↔ (k', j) ∈ seen := by
  simp [h]

theorem TracksAll.received (h : TracksAll w seen) (hr : Received w w' k i) :
    TracksAll w' (seen ++ [(k, i)]) := by
  intro k'
  by_cases hk : k' = k
  · subst hk
    obtain ⟨v, hv, hv'⟩ := hr.own
    rw [hv']
    exact ((h k').receive hv).mono fun _ => mem_append_own.mp
  · rw [hr.others k' hk]
    exact (h k').mono fun _ => (mem_append_other hk).mp

theorem TracksAll.received_unseen (h : TracksAll w seen) (hr : Received w w' k i) :
    TracksAll w' seen := by
  intro k'
  exact (h.received hr k').mono fun _ hj => List.mem_append_left _ hj

theorem RecordsAll.received (h : RecordsAll w seen) (hr : Received w w' k i) :
    RecordsAll w' (seen ++ [(k, i)]) := by
  intro k'
  by_cases hk : k' = k
  · subst hk
    obtain ⟨v, hv, hv'⟩ := hr.own
    have hre := (h k').receive hv
    grind
  have hi : (fun j => (k', j) ∈ seen ++ [(k, i)]) = fun j => (k', j) ∈ seen := by
    funext j
    exact propext (mem_append_other hk)
  rw [hr.others k' hk, hi]
  exact h k'

theorem RecordsAll.of_mem_iff {seen' : List (K × Nat)} (h : RecordsAll w seen)
    (hi : ∀ x, x ∈ seen' ↔ x ∈ seen) : RecordsAll w seen' := by
  intro k
  have hp : (fun i => (k, i) ∈ seen') = fun i => (k, i) ∈ seen := by
    funext i
    exact propext (hi (k, i))
  rw [hp]
  exact h k

theorem RecordsAll.refuses (h : RecordsAll w seen) (hs : (k, i) ∈ seen) :
    receive (w k) i = none := by
  have hre := h k
  cases hw : w k with
  | none =>
    rw [hw] at hre
    exact absurd hs (hre i)
  | some v =>
    rw [hw] at hre
    rw [receive]
    cases ha : v.accept i with
    | none => rfl
    | some u => exact absurd hs (hre.1.covers.not_seen ha)

def highestOf [DecidableEq K] (seen : List (K × Nat)) (k : K) : Option Nat :=
  ((seen.filter fun x => x.1 = k).map Prod.snd).max?

theorem RecordsAll.highestOf_eq [DecidableEq K] (h : RecordsAll w seen) (k : K) :
    highestOf seen k = (w k).map Window.highest := by
  have hre := h k
  have hm : ∀ j, j ∈ (seen.filter fun x => x.1 = k).map Prod.snd ↔ (k, j) ∈ seen := by
    simp
  cases hw : w k with
  | none =>
    rw [hw] at hre
    rw [Option.map_none, highestOf, List.max?_eq_none_iff, List.eq_nil_iff_forall_not_mem]
    exact fun j hj => hre j ((hm j).mp hj)
  | some v =>
    rw [hw] at hre
    rw [Option.map_some, highestOf, List.max?_eq_some_iff]
    exact ⟨(hm _).mpr hre.2, fun j hj => hre.1.1 j ((hm j).mp hj)⟩

end Table

end Window
end RtpBridge
