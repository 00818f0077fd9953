/-
Custody of values that change hands.
-/
import Mathlib.Logic.Basic
import Mathlib.Logic.ExistsUnique

namespace RtpBridge.Custody

variable {H K V : Type*} {held held' : H → K → Option V}

def Exclusive (held : H → K → Option V) : Prop :=
  ∀ k h h' v v', held h k = some v → held h' k = some v' → h = h'

variable {a b h : H} {k : K} {v : V}

theorem Exclusive.existsUnique (hex : Exclusive held) (hv : held h k = some v) :
    ∃! h, held h k = some v :=
  ⟨h, hv, fun _ hv' => hex k _ _ v v hv' hv⟩

theorem Exclusive.eq_none (hex : Exclusive held) {h' : H} (hv : held h k = some v) (hne : h' ≠ h) :
    held h' k = none := by
  cases hv' : held h' k with
  | none => rfl
  | some v' => exact absurd (hex k h' h v' v hv' hv) hne

variable [DecidableEq H] [DecidableEq K]

def move (held : H → K → Option V) (a b : H) (k : K) : H → K → Option V :=
  fun h j => if j = k then if h = b then held a k else if h = a then none else held h j
    else held h j

theorem move_of_ne {j : K} (hj : j ≠ k) : move held a b k h j = held h j :=
  if_neg hj

theorem move_self (a b : H) (k : K) : move held a b k b k = held a k := by
  rw [move, if_pos rfl, if_pos rfl]

theorem Exclusive.move_eq_none (hex : Exclusive held) (hv : held a k = some v) (hne : h ≠ b) :
    move held a b k h k = none := by grind [move, hex.eq_none]

inductive HandOver (held : H → K → Option V) : (H → K → Option V) → Prop
  | same : HandOver held held
  | moved (a b : H) (k : K) (v : V) (hv : held a k = some v) : HandOver held (move held a b k)

theorem HandOver.exclusive (h : HandOver held held') (hex : Exclusive held) : Exclusive held' := by
  cases h with
  | same => exact hex
  | moved a b k v hv =>
    intro j h h' w w' hw hw'
    by_cases hj : j = k
    · subst hj
      -- only the receiver holds the key that moved
      grind [hex.move_eq_none]
    · rw [move_of_ne hj] at hw hw'
      exact hex j h h' w w' hw hw'

theorem HandOver.kept (h : HandOver held held') (hex : Exclusive held) {j : K} {w : V} :
    (∃ h, held' h j = some w) ↔ ∃ h, held h j = some w := by
  cases h with
  | same => rfl
  | moved a b k v hv =>
    by_cases hj : j = k
    · subst hj
      constructor
      · grind [move_self, hex.move_eq_none]
      rintro ⟨h, hw⟩
      have ha : h = a := hex j h a w v hw hv
      subst ha
      exact ⟨b, by rw [move_self, hw]⟩
    · simp only [move_of_ne hj]

/-! ## Promises -/

structure Ledger {I P : Type*} (owner : I → P → Prop) (promised : P → Prop) : Prop where
  promised_of_owner : ∀ i p, owner i p → promised p
  owned : ∀ p, promised p → ∃ i, owner i p
  unique : ∀ i j p, owner i p → owner j p → i = j

namespace Ledger

variable {I P : Type*} {owner owner' : I → P → Prop} {promised promised' : P → Prop}

theorem add (h : Ledger owner promised) {i : I} {p : P} (hf : ¬ promised p)
    (ho : ∀ j q, owner' j q ↔ owner j q ∨ j = i ∧ q = p)
    (hp : ∀ q, promised' q ↔ promised q ∨ q = p) : Ledger owner' promised' where
  promised_of_owner j q hj := by grind [h.promised_of_owner]
  owned q hq := by
    rcases (hp q).mp hq with hold | hn
    · obtain ⟨j, hj⟩ := h.owned q hold
      exact ⟨j, (ho j q).mpr (.inl hj)⟩
    · exact ⟨i, (ho i q).mpr (.inr ⟨rfl, hn⟩)⟩
  unique j k q hj hk := by grind [h.unique, h.promised_of_owner]

theorem discharge (h : Ledger owner promised) {i : I} {p : P} (hi : owner i p)
    (ho : ∀ j q, owner' j q ↔ owner j q ∧ ¬ (j = i ∧ q = p))
    (hp : ∀ q, promised' q ↔ promised q ∧ q ≠ p) : Ledger owner' promised' where
  promised_of_owner j q hj := by grind [h.promised_of_owner, h.unique]
  owned q hq := by grind [h.owned]
  unique j k q hj hk := h.unique j k q ((ho j q).mp hj).1 ((ho k q).mp hk).1

end Ledger

end RtpBridge.Custody
