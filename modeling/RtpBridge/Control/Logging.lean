/-
The masking of long digit runs in logged paths, `redact_digit_runs` of `control/logging.rs`.
-/
import Mathlib.Order.Basic
import RtpBridge.Base.Text

namespace RtpBridge.Logging

open List

def flush (digits : Text) : Text :=
  if 6 ≤ digits.length then replicate digits.length '~' else digits

def redactStep (state : Text × Text) (character : Char) : Text × Text :=
  if character.isDigit then (state.1, state.2 ++ [character])
  else (state.1 ++ flush state.2 ++ if character ≠ '\x00' then [character] else [], [])

def redactDigitRuns (value : Text) : Text :=
  ((value ++ ['\x00']).foldl redactStep ([], [])).1

def digitAt (t : Text) (i : Nat) : Bool := t[i]?.any Char.isDigit

def InLongRun (t : Text) (i : Nat) : Prop :=
  ∃ j, j ≤ i ∧ i < j + 6 ∧ ∀ k, j ≤ k → k < j + 6 → digitAt t k = true

variable {t d r : Text} {c : Char} {i : Nat}

/-! ## Runs -/

theorem digitAt_left (hd : d.all Char.isDigit) (hi : i < d.length) : digitAt (d ++ r) i = true := by
  rw [digitAt, getElem?_append_left hi, getElem?_eq_getElem hi]
  exact all_eq_true.mp hd _ (getElem_mem hi)

theorem digitAt_right : digitAt (d ++ r) (d.length + i) = digitAt r i := by
  rw [digitAt, digitAt, getElem?_append_right (Nat.le_add_right _ _), Nat.add_sub_cancel_left]

theorem longRun_left (hd : d.all Char.isDigit) (hr : digitAt r 0 = false) (hi : i < d.length) :
    InLongRun (d ++ r) i ↔ 6 ≤ d.length := by
  constructor
  · rintro ⟨j, hj, -, hall⟩
    by_contra hn
    have := hall d.length (by omega) (by omega)
    rw [← Nat.add_zero d.length, digitAt_right, hr] at this
    cases this
  · intro hl
    exact ⟨min i (d.length - 6), by omega, by omega, fun k _ hk => digitAt_left hd (by omega)⟩

theorem longRun_right (hc : c.isDigit = false) :
    InLongRun (d ++ c :: r) (d.length + (i + 1)) ↔ InLongRun r i := by
  have hr : ∀ k, digitAt (d ++ c :: r) (d.length + (k + 1)) = digitAt r k := fun k => by
    rw [digitAt_right]
    rfl
  constructor
  · rintro ⟨j, hj, hi, hall⟩
    have hlt : d.length < j := by
      by_contra hn
      have := hall (d.length + 0) (by omega) (by omega)
      rw [digitAt_right, digitAt, getElem?_cons_zero, Option.any_some, hc] at this
      cases this
    refine ⟨j - d.length - 1, by omega, by omega, fun k hjk hk => ?_⟩
    rw [← hr]
    exact hall _ (by omega) (by omega)
  · rintro ⟨j, hj, hi, hall⟩
    refine ⟨d.length + (j + 1), by omega, by omega, fun k hjk hk => ?_⟩
    have := hr (k - d.length - 1)
    rw [show d.length + (k - d.length - 1 + 1) = k by omega] at this
    rw [this]
    exact hall _ (by omega) (by omega)

/-! ## The loop -/

theorem foldl_out (out ds : Text) :
    (t.foldl redactStep (out, ds)).1 = out ++ (t.foldl redactStep ([], ds)).1 := by
  induction t generalizing out ds with
  | nil => exact (append_nil out).symm
  | cons c t ih =>
    rw [foldl_cons, foldl_cons, redactStep, redactStep]
    split
    · exact ih out _
    · rw [ih, ih ([] ++ _ ++ _)]
      simp

theorem foldl_digits (hd : d.all Char.isDigit) :
    (d ++ r).foldl redactStep ([], []) = r.foldl redactStep ([], d) := by
  have hf : ∀ ds, d.foldl redactStep ([], ds) = ([], ds ++ d) := by
    induction d with
    | nil => simp
    | cons c d ih =>
      intro ds
      rw [all_cons, Bool.and_eq_true] at hd
      rw [foldl_cons, redactStep, if_pos hd.1, ih hd.2]
      simp
  rw [foldl_append, hf, nil_append]

theorem redact_digits (hd : d.all Char.isDigit) : redactDigitRuns d = flush d := by
  rw [redactDigitRuns, foldl_digits hd]
  simp [redactStep]

theorem redact_cons (hd : d.all Char.isDigit) (hc : c.isDigit = false) (h0 : c ≠ '\x00') :
    redactDigitRuns (d ++ c :: r) = flush d ++ c :: redactDigitRuns r := by
  rw [redactDigitRuns, append_assoc, foldl_digits hd, cons_append, foldl_cons, redactStep,
    if_neg (by simp [hc]), if_pos h0, foldl_out, redactDigitRuns]
  simp

theorem getElem?_flush : (flush d)[i]? = d[i]?.map fun c => if 6 ≤ d.length then '~' else c := by
  unfold flush
  split
  · rw [getElem?_replicate]
    split <;> simp_all
  · simp

theorem length_flush : (flush d).length = d.length := by
  unfold flush
  split <;> simp

theorem exists_run (t : Text) : ∃ d r, t = d ++ r ∧ d.all Char.isDigit ∧ digitAt r 0 = false := by
  induction t with
  | nil => exact ⟨[], [], rfl, rfl, rfl⟩
  | cons c t ih =>
    obtain ⟨d, r, rfl, hd, hr⟩ := ih
    cases hc : c.isDigit with
    | true => exact ⟨c :: d, r, rfl, by simp [hc, hd], hr⟩
    | false => exact ⟨[], c :: (d ++ r), rfl, rfl, hc⟩

open Classical in
theorem getElem?_redact (h : '\x00' ∉ t) :
    (redactDigitRuns t)[i]? = t[i]?.map fun c => if InLongRun t i then '~' else c := by
  induction hn : t.length using Nat.strongRecOn generalizing t i with
  | _ n ih =>
    obtain ⟨d, r, rfl, hd, hr⟩ := exists_run t
    have hl : i < d.length → (flush d)[i]? =
        (d ++ r)[i]?.map fun c => if InLongRun (d ++ r) i then '~' else c := fun hi => by
      simp only [getElem?_flush, getElem?_append_left hi, longRun_left hd hr hi]
    cases r with
    | nil =>
      rw [append_nil] at hl ⊢
      rw [redact_digits hd]
      rcases Nat.lt_or_ge i d.length with hi | hi
      · exact hl hi
      · rw [getElem?_eq_none (length_flush.trans_le hi), getElem?_eq_none hi]
        rfl
    | cons c r =>
      have hm : c ≠ '\x00' ∧ '\x00' ∉ r := by
        simp only [mem_append, mem_cons, not_or] at h
        exact ⟨Ne.symm h.2.1, h.2.2⟩
      rw [redact_cons hd hr hm.1]
      rcases Nat.lt_or_ge i d.length with hi | hi
      · rw [getElem?_append_left (hi.trans_eq length_flush.symm)]
        exact hl hi
      obtain ⟨k, rfl⟩ := Nat.exists_eq_add_of_le hi
      rw [getElem?_append_right (length_flush.trans_le hi), length_flush, Nat.add_sub_cancel_left,
        getElem?_append_right hi, Nat.add_sub_cancel_left]
      cases k with
      | zero =>
        have hno : ¬ InLongRun (d ++ c :: r) (d.length + 0) := by
          rintro ⟨j, hj, hi, hall⟩
          have := hall _ hj hi
          rw [digitAt_right, hr] at this
          cases this
        rw [getElem?_cons_zero, getElem?_cons_zero, Option.map_some, if_neg hno]
      | succ k =>
        rw [getElem?_cons_succ, getElem?_cons_succ, longRun_right hr]
        exact ih r.length (by rw [← hn]; simp; omega) hm.2 rfl

theorem no_long_run (h : '\x00' ∉ t) : ¬ InLongRun (redactDigitRuns t) i := by
  classical
  rintro ⟨j, -, -, hall⟩
  -- a digit of the output is the digit of the input, outside every long run
  have hin : ∀ k, j ≤ k → k < j + 6 → digitAt t k = true ∧ ¬ InLongRun t k := by
    intro k hj hk
    have hd := hall k hj hk
    rw [digitAt, getElem?_redact h] at hd
    rw [digitAt]
    cases ht : t[k]? with
    | none => simp [ht] at hd
    | some c =>
      rw [ht] at hd
      split at hd
      · cases hd
      · exact ⟨hd, ‹_›⟩
  exact (hin j (Nat.le_refl j) (by omega)).2 ⟨j, Nat.le_refl j, by omega,
    fun k hj hk => (hin k hj hk).1⟩

theorem nul_not_mem_foldl {out ds : Text} (ho : '\x00' ∉ out) (hd : '\x00' ∉ ds) :
    '\x00' ∉ (t.foldl redactStep (out, ds)).1 := by
  induction t generalizing out ds with
  | nil => exact ho
  | cons c t ih =>
    rw [foldl_cons, redactStep]
    split
    · rename_i hc
      refine ih ho fun hm => ?_
      rcases mem_append.mp hm with hm | hm
      · exact hd hm
      · rw [← mem_singleton.mp hm] at hc
        exact absurd hc (by decide)
    · have hf : '\x00' ∉ flush ds := by
        unfold flush
        split
        · simp
        · exact hd
      refine ih (fun hm => ?_) not_mem_nil
      rcases mem_append.mp hm with hm | hm
      · exact (mem_append.mp hm).elim ho hf
      · split at hm
        · exact ‹c ≠ _› (mem_singleton.mp hm).symm
        · cases hm

open Classical in
/-- Exactly the digits of runs of six or more are masked, none is left and masking again changes
nothing, if and only if there is no NUL in the text: no NUL is ever written. -/
theorem redact_masks_runs (value : Text) :
    ((∀ i, ¬ InLongRun (redactDigitRuns value) i) ∧
    (∀ i, (redactDigitRuns value)[i]? =
      value[i]?.map fun c => if InLongRun value i then '~' else c) ∧
    redactDigitRuns (redactDigitRuns value) = redactDigitRuns value) ↔ '\x00' ∉ value := by
  have h' : ∀ t, '\x00' ∉ redactDigitRuns t := fun t => nul_not_mem_foldl not_mem_nil not_mem_nil
  constructor
  · rintro ⟨-, hsame, -⟩ hm
    obtain ⟨i, hi⟩ := getElem?_of_mem hm
    have hno : ¬ InLongRun value i := fun ⟨j, hj, hij, hall⟩ => by
      have := hall i hj hij
      rw [digitAt, hi] at this
      cases this
    have hout := hsame i
    rw [hi, Option.map_some, if_neg hno] at hout
    exact h' value (mem_of_getElem? hout)
  · intro h
    refine ⟨fun i => no_long_run h, fun i => getElem?_redact h, ext_getElem? fun i => ?_⟩
    rw [getElem?_redact (h' value), Option.map_congr fun c _ => if_neg (no_long_run h),
      Option.map_id']

/-- A NUL ends a run but is not written: the digits around it make one run of six. -/
theorem nul_joins_runs :
    redactDigitRuns ['1', '2', '3', '\x00', '4', '5', '6'] = ['1', '2', '3', '4', '5', '6'] ∧
    InLongRun (redactDigitRuns ['1', '2', '3', '\x00', '4', '5', '6']) 0 ∧
    redactDigitRuns (redactDigitRuns ['1', '2', '3', '\x00', '4', '5', '6']) =
      replicate 6 '~' := by
  have hr : ∀ k < 6, digitAt ['1', '2', '3', '4', '5', '6'] k = true := by decide
  exact ⟨by decide, ⟨0, Nat.le_refl 0, by decide, fun k _ hk => hr k (by omega)⟩, by decide⟩

end RtpBridge.Logging
