/-
A receiver that changes keys: the context in use and, while the sender may still
be on either key, the one that replaces it.
-/
import Mathlib.Data.Option.Basic

namespace RtpBridge

open Option

structure Switchover (C : Type*) where
  rx : Option C := none
  rxNew : Option C := none
deriving DecidableEq

namespace Switchover

variable {C D E : Type*}

def newest (sw : Switchover C) : Option C := sw.rxNew.or sw.rx

def active (sw : Switchover C) : Bool := sw.rx.isSome || sw.rxNew.isSome

def promote (sw : Switchover C) : Switchover C :=
  if sw.rxNew.isSome then { rx := sw.rxNew, rxNew := none } else sw

def mapNewest (f : C → C) (sw : Switchover C) : Switchover C :=
  match sw.rxNew with
  | some c => { sw with rxNew := some (f c) }
  | none => { sw with rx := sw.rx.map f }

def receive (unprotect : C → D → C × Except E D) (sw : Switchover C) (data : D) :
    Switchover C × Option D :=
  match sw.rxNew with
  | some new =>
    match unprotect new data with
    | (new, .ok plain) => ({ rx := some new, rxNew := none }, some plain)
    | (new, .error _) =>
      match sw.rx with
      | some old =>
        match unprotect old data with
        | (old, .ok plain) => ({ rx := some old, rxNew := some new }, some plain)
        | (old, .error _) => ({ rx := some old, rxNew := some new }, none)
      | none => ({ rx := none, rxNew := some new }, none)
  | none =>
    match sw.rx with
    | some ctx =>
      match unprotect ctx data with
      | (ctx, .ok plain) => ({ rx := some ctx, rxNew := none }, some plain)
      | (ctx, .error _) => ({ rx := some ctx, rxNew := none }, none)
    | none => (sw, some data)

instance : Membership C (Switchover C) where
  mem sw c := sw.rx = some c ∨ sw.rxNew = some c

variable {sw : Switchover C} {c : C} {plain : D}

theorem mem_def : c ∈ sw ↔ sw.rx = some c ∨ sw.rxNew = some c :=
  Iff.rfl

theorem active_iff : sw.active = true ↔ ∃ c, c ∈ sw := by
  simp only [active, Bool.or_eq_true, isSome_iff_exists, mem_def, exists_or]

theorem mem_of_newest (h : sw.newest = some c) : c ∈ sw := by
  rcases or_eq_some_iff.mp h with hn | ⟨-, hrx⟩
  · exact Or.inr hn
  · exact Or.inl hrx

theorem active_eq_isSome_newest (sw : Switchover C) : sw.active = sw.newest.isSome := by
  rw [active, newest, isSome_or, Bool.or_comm]

/-! ## Ending a switchover and changing the newest context -/

@[simp] theorem newest_promote (sw : Switchover C) : sw.promote.newest = sw.newest := by
  unfold promote newest
  cases h : sw.rxNew with
  | none => simp [h]
  | some c => simp

@[simp] theorem rxNew_promote (sw : Switchover C) : sw.promote.rxNew = none := by
  unfold promote
  cases h : sw.rxNew with
  | none => simp [h]
  | some c => simp

theorem mem_promote : c ∈ sw.promote ↔ sw.newest = some c := by
  rw [← newest_promote, newest, mem_def]
  simp

theorem isSome_rx_promote (h : sw.rx.isSome) : sw.promote.rx.isSome := by
  unfold promote
  split
  · assumption
  · exact h

theorem newest_of_mem (h : sw.rxNew = none) (hc : c ∈ sw) : sw.newest = some c := by
  rcases hc with hrx | hn
  · rw [newest, h, none_or, hrx]
  · rw [h] at hn
    cases hn

section

variable (f : C → C) (sw : Switchover C)

@[simp] theorem isSome_rx_mapNewest : (sw.mapNewest f).rx.isSome = sw.rx.isSome := by
  unfold mapNewest
  cases sw.rxNew with
  | none => exact isSome_map
  | some c => rfl

@[simp] theorem isSome_rxNew_mapNewest : (sw.mapNewest f).rxNew.isSome = sw.rxNew.isSome := by
  unfold mapNewest
  cases h : sw.rxNew with
  | none => simp
  | some c => rfl

theorem newest_mapNewest : (sw.mapNewest f).newest = sw.newest.map f := by
  unfold mapNewest newest
  cases sw.rxNew with
  | none => simp
  | some c => simp

@[simp] theorem active_mapNewest : (sw.mapNewest f).active = sw.active := by
  rw [active_eq_isSome_newest, active_eq_isSome_newest, newest_mapNewest, isSome_map]

end

theorem all_mapNewest {T : C → Prop} {f : C → C} (hf : ∀ c, T c → T (f c)) (h : ∀ c ∈ sw, T c) :
    ∀ c ∈ sw.mapNewest f, T c := by
  intro c hc
  unfold mapNewest at hc
  cases hn : sw.rxNew with
  | none =>
    rw [hn] at hc
    rcases hc with hrx | ha
    · obtain ⟨b, hb, rfl⟩ := map_eq_some_iff.mp hrx
      exact hf b (h b (Or.inl hb))
    · exact absurd ha (by simp)
  | some b =>
    rw [hn] at hc
    rcases hc with hrx | hb
    · exact h c (Or.inl hrx)
    · cases hb
      exact hf b (h b (Or.inr hn))

/-! ## One datagram -/

inductive Receives (unprotect : C → D → C × Except E D) (data : D) :
    Switchover C → Switchover C → Option D → Prop where
  | plain : Receives unprotect data { rx := none, rxNew := none } { rx := none, rxNew := none }
      (some data)
  | newAccepts {old : Option C} {c c' : C} {plain : D} (h : unprotect c data = (c', .ok plain)) :
      Receives unprotect data { rx := old, rxNew := some c } { rx := some c', rxNew := none }
        (some plain)
  | oldAccepts {new : Option C} {c c' : C} {plain : D} (h : unprotect c data = (c', .ok plain))
      (hn : ∀ b ∈ new, ∃ e, (unprotect b data).2 = .error e) :
      Receives unprotect data { rx := some c, rxNew := new }
        { rx := some c', rxNew := new.map fun b => (unprotect b data).1 } (some plain)
  | refused {old new : Option C} (ha : old.isSome ∨ new.isSome)
      (hold : ∀ b ∈ old, ∃ e, (unprotect b data).2 = .error e)
      (hn : ∀ b ∈ new, ∃ e, (unprotect b data).2 = .error e) :
      Receives unprotect data { rx := old, rxNew := new }
        { rx := old.map fun b => (unprotect b data).1,
          rxNew := new.map fun b => (unprotect b data).1 } none

variable (unprotect : C → D → C × Except E D) (sw : Switchover C) (data : D)

theorem receives : Receives unprotect data sw (sw.receive unprotect data).1
    (sw.receive unprotect data).2 := by
  obtain ⟨rx, rxNew⟩ := sw
  cases rxNew with
  | none =>
    cases rx with
    | none => exact .plain
    | some c =>
      rcases hc : unprotect c data with ⟨c', result⟩
      have hno : ∀ b ∈ (none : Option C), ∃ e, (unprotect b data).2 = .error e := by simp
      cases result with
      | ok plain =>
        simp only [receive, hc]
        exact .oldAccepts hc hno
      | error e =>
        have hold : ∀ b ∈ some c, ∃ e, (unprotect b data).2 = .error e := by
          rintro b ⟨⟩
          exact ⟨e, by rw [hc]⟩
        have ho := Receives.refused (Or.inl rfl) hold hno
        simpa only [receive, hc, map_some, map_none] using ho
  | some n =>
    rcases hn : unprotect n data with ⟨n', result⟩
    cases result with
    | ok plain =>
      simp only [receive, hn]
      exact .newAccepts hn
    | error e =>
      have hne : ∀ b ∈ some n, ∃ e, (unprotect b data).2 = .error e := by
        rintro b ⟨⟩
        exact ⟨e, by rw [hn]⟩
      cases rx with
      | none =>
        have ho : Receives unprotect data { rx := none, rxNew := some n } _ none :=
          .refused (Or.inr rfl) (by simp) hne
        simpa only [receive, hn, map_some, map_none] using ho
      | some c =>
        rcases hc : unprotect c data with ⟨c', result⟩
        cases result with
        | ok plain =>
          have ho := Receives.oldAccepts hc hne
          simpa only [receive, hn, hc, map_some] using ho
        | error e' =>
          have hold : ∀ b ∈ some c, ∃ e, (unprotect b data).2 = .error e := by
            rintro b ⟨⟩
            exact ⟨e', by rw [hc]⟩
          have ho := Receives.refused (Or.inl rfl) hold hne
          simpa only [receive, hn, hc, map_some] using ho

variable {unprotect sw data} {sw' : Switchover C} {out : Option D}

section

variable (hr : Receives unprotect data sw sw' out)
include hr

theorem Receives.all {T : C → Prop}
    (hT : ∀ c, T c → T (unprotect c data).1) (h : ∀ c ∈ sw, T c) : ∀ c ∈ sw', T c := by
  have hm : ∀ {o : Option C} {c : C}, (∀ b, o = some b → T b) →
      o.map (fun b => (unprotect b data).1) = some c → T c := by
    intro o c ho hc
    obtain ⟨b, hb, rfl⟩ := map_eq_some_iff.mp hc
    exact hT b (ho b hb)
  cases hr with
  | plain => exact h
  | newAccepts hc =>
    rintro b (⟨⟨⟩⟩ | hb)
    · have hs := hT _ (h _ (Or.inr rfl))
      rwa [hc] at hs
    · cases hb
  | oldAccepts hc hn =>
    rintro b (⟨⟨⟩⟩ | hb)
    · have hs := hT _ (h _ (Or.inl rfl))
      rwa [hc] at hs
    · exact hm (fun b hb => h b (Or.inr hb)) hb
  | refused ha hold hn =>
    rintro b (hb | hb)
    · exact hm (fun b hb => h b (Or.inl hb)) hb
    · exact hm (fun b hb => h b (Or.inr hb)) hb

theorem Receives.newest : sw'.newest = sw.newest.map fun c => (unprotect c data).1 := by
  cases hr with
  | plain => rfl
  | newAccepts hc => simp [Switchover.newest, hc]
  | @oldAccepts new c c' plain hc hn => grind [Switchover.newest]
  | @refused old new ha hold hn => grind [Switchover.newest]

theorem Receives.active : sw'.active = sw.active := by
  rw [active_eq_isSome_newest, active_eq_isSome_newest, hr.newest, isSome_map]

theorem Receives.isSome_rx (h : sw.rx.isSome) : sw'.rx.isSome := by
  cases hr with
  | plain => exact h
  | newAccepts hc => rfl
  | oldAccepts hc hn => rfl
  | refused ha hold hn => rwa [isSome_map]

theorem Receives.isSome_rxNew (h : sw'.rxNew.isSome) : sw.rxNew.isSome := by
  cases hr with
  | plain => exact h
  | newAccepts hc => rfl
  | oldAccepts hc hn => rwa [isSome_map] at h
  | refused ha hold hn => rwa [isSome_map] at h

theorem Receives.rxNew_eq_none (h : sw.rxNew = none) : sw'.rxNew = none := by
  by_contra hs
  have hb := hr.isSome_rxNew (isSome_iff_ne_none.mpr hs)
  rw [h] at hb
  cases hb

end

theorem Receives.accepted_by (hr : Receives unprotect data sw sw' (some plain))
    (ha : sw.active = true) : ∃ c ∈ sw, (unprotect c data).2 = .ok plain := by
  cases hr with
  | plain => cases ha
  | newAccepts hc => exact ⟨_, Or.inr rfl, by rw [hc]⟩
  | oldAccepts hc hn => exact ⟨_, Or.inl rfl, by rw [hc]⟩

theorem accepted_by (h : (sw.receive unprotect data).2 = some plain) (ha : sw.active = true) :
    ∃ c ∈ sw, (unprotect c data).2 = .ok plain :=
  Receives.accepted_by (h ▸ receives unprotect sw data) ha

theorem Receives.plain_of_inactive (hr : Receives unprotect data sw sw' (some plain))
    (hi : sw.active ≠ true) : plain = data := by
  cases hr with
  | plain => rfl
  | newAccepts hc => exact absurd (active_iff.mpr ⟨_, Or.inr rfl⟩) hi
  | oldAccepts hc hn => exact absurd (active_iff.mpr ⟨_, Or.inl rfl⟩) hi

theorem Receives.of_newest_accepts (hr : Receives unprotect data sw sw' out)
    (hc : sw.newest = some c) (hp : (unprotect c data).2 = .ok plain) {b : C} (hb : b ∈ sw') :
    b = (unprotect c data).1 := by
  have hno : ¬ ∃ e, (unprotect c data).2 = .error e := by
    rintro ⟨e, he⟩
    rw [hp] at he
    cases he
  cases hr with
  | plain => cases hc
  | newAccepts h =>
    cases hc
    rcases hb with ⟨⟨⟩⟩ | hb
    · rw [h]
    · cases hb
  | @oldAccepts new old old' p h hne =>
    cases new with
    | some n =>
      cases hc
      exact absurd (hne _ rfl) hno
    | none =>
      cases hc
      rcases hb with ⟨⟨⟩⟩ | hb
      · rw [h]
      · cases hb
  | @refused old new ha hold hne =>
    rcases or_eq_some_iff.mp hc with hn | ⟨-, ho⟩
    · exact absurd (hne c hn) hno
    · exact absurd (hold c ho) hno

/-- The newest context that takes a datagram is the only one left. -/
theorem Receives.newest_accepts (hr : Receives unprotect data sw sw' out)
    (hc : sw.newest = some c) (hp : (unprotect c data).2 = .ok plain) :
    sw'.active = true ∧ ∀ b ∈ sw', sw'.newest = some b := by
  have hn : sw'.newest = some (unprotect c data).1 := by
    rw [hr.newest, hc]
    rfl
  refine ⟨?_, fun b hb => ?_⟩
  · rw [active_eq_isSome_newest, hn]
    rfl
  · rw [hn, hr.of_newest_accepts hc hp hb]

end Switchover
end RtpBridge
