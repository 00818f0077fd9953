/-
The outgoing timestamps of one stream that several sources feed in turn.
-/
import Mathlib.Data.UInt

namespace RtpBridge

structure Timeline (S : Type*) where
  lastOut : Option UInt32 := none
  lastSource : Option S := none
  lastSourceTs : Option UInt32 := none
  learned : Option UInt32 := none
deriving DecidableEq

namespace Timeline

def saturatingMul (a : UInt32) (k : Nat) : UInt32 := UInt32.ofNat (min (a.toNat * k) (2 ^ 32 - 1))

theorem toNat_saturatingMul (a : UInt32) (k : Nat) :
    (saturatingMul a k).toNat = min (a.toNat * k) (2 ^ 32 - 1) := by
  have hlt : min (a.toNat * k) (2 ^ 32 - 1) < 2 ^ 32 := by omega
  rw [saturatingMul, UInt32.toNat_ofNat', Nat.mod_eq_of_lt hlt]

theorem le_saturatingMul {a d : UInt32} {k : Nat} :
    d ≤ saturatingMul a k ↔ d.toNat ≤ a.toNat * k := by
  have hd := d.toNat_lt
  rw [UInt32.le_iff_toNat_le, toNat_saturatingMul]
  omega

variable {S : Type*}

def bump (t : Timeline S) (nominal : UInt32) : UInt32 := t.learned.getD nominal

def advance [DecidableEq S] (t : Timeline S) (nominal : UInt32) (source : S) (ts : UInt32)
    (marker : Bool) : Timeline S × UInt32 × Bool :=
  let (learned, out, talkSpurt) :=
    match t.lastOut with
    | none => (t.learned, ts, marker)
    | some lastOut =>
      match t.lastSource, t.lastSourceTs with
      | some lastSource, some lastTs =>
        if lastSource = source then
          let delta := ts - lastTs
          if delta = 0 then (t.learned, lastOut, false)
          else if saturatingMul (t.bump nominal) 10 < delta then
            (t.learned, lastOut + t.bump nominal, true)
          else
            (if delta ≤ saturatingMul (t.bump nominal) 2 then some delta else t.learned,
              lastOut + delta, false)
        else (t.learned, lastOut + t.bump nominal, true)
      | _, _ => (t.learned, lastOut + t.bump nominal, true)
  (⟨some out, some source, some ts, learned⟩, out, marker || talkSpurt)

inductive Advanced (t : Timeline S) (nominal : UInt32) (source : S) (ts : UInt32)
    (marker : Bool) : Timeline S × UInt32 × Bool → Prop where
  | first (hl : t.lastOut = none) : Advanced t nominal source ts marker
        (⟨some ts, some source, some ts, t.learned⟩, ts, marker)
  | repeated {last : UInt32} (hl : t.lastOut = some last)
      (hs : t.lastSource = some source) (hts : t.lastSourceTs = some ts) :
      Advanced t nominal source ts marker
        (⟨some last, some source, some ts, t.learned⟩, last, marker)
  | followed {last lastTs : UInt32} (hl : t.lastOut = some last)
      (hs : t.lastSource = some source) (hts : t.lastSourceTs = some lastTs)
      (hm : ts - lastTs ≠ 0)
      (hsa : (ts - lastTs).toNat ≤ (t.bump nominal).toNat * 10) :
      Advanced t nominal source ts marker
        (⟨some (last + (ts - lastTs)), some source, some ts,
          if (ts - lastTs).toNat ≤ (t.bump nominal).toNat * 2 then some (ts - lastTs)
          else t.learned⟩,
          last + (ts - lastTs), marker)
  | bumped {last : UInt32} (hl : t.lastOut = some last)
      (hb : ∀ lastTs, t.lastSource = some source → t.lastSourceTs = some lastTs →
        (t.bump nominal).toNat * 10 < (ts - lastTs).toNat) :
      Advanced t nominal source ts marker
        (⟨some (last + t.bump nominal), some source, some ts, t.learned⟩,
          last + t.bump nominal, true)

theorem advance_cases [DecidableEq S] (t : Timeline S) (nominal : UInt32) (source : S) (ts : UInt32)
    (marker : Bool) :
    Advanced t nominal source ts marker (t.advance nominal source ts marker) := by
  unfold advance
  split
  rename_i learned out talkSpurt hm
  split at hm
  case h_1 hl =>
    cases hm
    rw [Bool.or_self]
    exact .first hl
  rename_i last hl
  split at hm
  case h_2 hn =>
    -- no timestamp to follow: the source is new, or its clock was forgotten
    cases hm
    rw [Bool.or_true]
    exact .bumped hl fun lastTs hs hts => absurd hts (hn _ _ hs)
  rename_i lastSource lastTs hs hts
  split at hm
  case isFalse ho =>
    cases hm
    rw [Bool.or_true]
    refine .bumped hl fun _ hsame _ => absurd ?_ ho
    exact Option.some.inj (hs.symm.trans hsame)
  rename_i hsame
  rw [hsame] at hs
  dsimp only at hm
  split at hm
  case isTrue hz =>
    cases hm
    rw [Bool.or_false]
    exact .repeated hl hs (sub_eq_zero.mp hz ▸ hts)
  rename_i hmo
  split at hm
  case isTrue hj =>
    cases hm
    rw [Bool.or_true]
    refine .bumped hl fun lastTs' _ hts' => ?_
    rw [← Option.some.inj (hts.symm.trans hts')]
    exact Nat.not_le.mp fun hle => UInt32.not_le.mpr hj (le_saturatingMul.mpr hle)
  rename_i hsa
  cases hm
  simp only [Bool.or_false, le_saturatingMul]
  exact .followed hl hs hts hmo (le_saturatingMul.mp (UInt32.not_lt.mp hsa))

variable {t t' : Timeline S} {nominal ts out : UInt32} {source : S} {marker marker' : Bool}

theorem Advanced.bounded {last : UInt32}
    (h : Advanced t nominal source ts marker (t', out, marker')) (hl : t.lastOut = some last)
    (hb : (t.bump nominal).toNat ≤ nominal.toNat) :
    (out - last).toNat ≤ 10 * nominal.toNat := by
  cases h with
  | first hn => simp [hn] at hl
  | repeated hl' =>
    rw [Option.some.inj (hl.symm.trans hl'), sub_self]
    exact Nat.zero_le _
  | followed hl' _ _ _ hsa =>
    rw [Option.some.inj (hl.symm.trans hl'), add_sub_cancel_left]
    omega
  | bumped hl' =>
    rw [Option.some.inj (hl.symm.trans hl'), add_sub_cancel_left]
    omega

theorem Advanced.switched {last : UInt32}
    (h : Advanced t nominal source ts marker (t', out, marker')) (hl : t.lastOut = some last)
    (ho : t.lastSource ≠ some source) (hb : t.bump nominal ≠ 0) :
    out - last ≠ 0 ∧ marker' = true := by
  cases h with
  | first hn => simp [hn] at hl
  | repeated _ hs => exact absurd hs ho
  | followed _ hs => exact absurd hs ho
  | bumped hl' =>
    rw [Option.some.inj (hl.symm.trans hl'), add_sub_cancel_left]
    exact ⟨hb, rfl⟩

/-! ## A source with a constant step -/

structure StandsAt (t : Timeline S) (source : S) (ts out : UInt32) : Prop where
  lastOut : t.lastOut = some out
  lastSource : t.lastSource = some source
  lastSourceTs : t.lastSourceTs = some ts

def Follows (t : Timeline S) (nominal d : UInt32) : Prop :=
  d.toNat ≤ (t.bump nominal).toNat * 10

theorem Advanced.standsAt (h : Advanced t nominal source ts marker (t', out, marker')) :
    t'.StandsAt source ts out := by
  cases h with
  | first => exact ⟨rfl, rfl, rfl⟩
  | repeated => exact ⟨rfl, rfl, rfl⟩
  | followed => exact ⟨rfl, rfl, rfl⟩
  | bumped => exact ⟨rfl, rfl, rfl⟩

theorem StandsAt.repeats {out' : UInt32} (h : t.StandsAt source ts out)
    (ha : Advanced t nominal source ts marker (t', out', marker')) :
    out' = out ∧ marker' = marker := by
  cases ha with
  | first hl => simp [h.lastOut] at hl
  | repeated hl => exact ⟨Option.some.inj (hl.symm.trans h.lastOut), rfl⟩
  | followed _ _ hts hm =>
    cases Option.some.inj (h.lastSourceTs.symm.trans hts)
    exact absurd (sub_self ts) hm
  | bumped _ hb =>
    have hj := hb ts h.lastSource h.lastSourceTs
    rw [sub_self] at hj
    exact absurd hj (Nat.not_lt_zero _)

theorem Advanced.keeps_marker (h : Advanced t nominal source ts true (t', out, marker)) :
    marker = true := by
  cases h with
  | first => rfl
  | repeated => rfl
  | followed => rfl
  | bumped => rfl

theorem StandsAt.advance_follows [DecidableEq S] {d : UInt32} (h : t.StandsAt source ts out)
    (hd : t.Follows nominal d) (marker : Bool) :
    (t.advance nominal source (ts + d) marker).2 = (out + d, marker) ∧
      (t.advance nominal source (ts + d) marker).1.Follows nominal d := by
  have hc := t.advance_cases nominal source (ts + d) marker
  generalize t.advance nominal source (ts + d) marker = result at hc
  cases hc with
  | first hl => simp [h.lastOut] at hl
  | repeated hl _ hts =>
    have hz : d = 0 := left_eq_add.mp (Option.some.inj (h.lastSourceTs.symm.trans hts))
    cases Option.some.inj (h.lastOut.symm.trans hl)
    subst hz
    exact ⟨by simp, Nat.zero_le _⟩
  | followed hl _ hts hm hsa =>
    cases Option.some.inj (h.lastOut.symm.trans hl)
    cases Option.some.inj (h.lastSourceTs.symm.trans hts)
    rw [add_sub_cancel_left]
    refine ⟨rfl, ?_⟩
    by_cases hle : d.toNat ≤ (t.bump nominal).toNat * 2
    · rw [if_pos hle]
      show d.toNat ≤ d.toNat * 10
      omega
    · rw [if_neg hle]
      exact hd
  | bumped _ hb =>
    have hj := hb ts h.lastSource h.lastSourceTs
    rw [add_sub_cancel_left] at hj
    exact absurd hd (Nat.not_le.mpr hj)

theorem StandsAt.advance_jumps [DecidableEq S] {d : UInt32} (h : t.StandsAt source ts out)
    (hd : ¬t.Follows nominal d) (marker : Bool) :
    (t.advance nominal source (ts + d) marker).2 = (out + t.bump nominal, true) ∧
      ¬(t.advance nominal source (ts + d) marker).1.Follows nominal d := by
  have hc := t.advance_cases nominal source (ts + d) marker
  generalize t.advance nominal source (ts + d) marker = result at hc
  cases hc with
  | first hl => simp [h.lastOut] at hl
  | repeated hl _ hts =>
    have hz : d = 0 := left_eq_add.mp (Option.some.inj (h.lastSourceTs.symm.trans hts))
    exact absurd (hz ▸ Nat.zero_le _ : t.Follows nominal d) hd
  | followed _ _ hts _ hsa =>
    cases Option.some.inj (h.lastSourceTs.symm.trans hts)
    rw [add_sub_cancel_left] at hsa
    exact absurd hsa hd
  | bumped hl =>
    cases Option.some.inj (h.lastOut.symm.trans hl)
    exact ⟨rfl, hd⟩

end Timeline
end RtpBridge
