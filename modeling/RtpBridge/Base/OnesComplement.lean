/-
Checksums in one's complement: the 16-bit words of a text, their sum with end-around
carry, and the same sum taken in one go and folded at the end.
-/
import RtpBridge.Base.Bytes

namespace RtpBridge.Wire

open List

def words : Bytes → List Nat
  | [] => []
  | [b] => [b.toNat * 256]
  | a :: b :: rest => (a.toNat * 256 + b.toNat) :: words rest

def onesAdd (a b : Nat) : Nat := if a + b ≤ 0xFFFF then a + b else a + b - 0xFFFF

def onesSum (data : Bytes) : Nat := (words data).foldl onesAdd 0

def foldCarries (sum : Nat) : Nat :=
  if 0xFFFF < sum then foldCarries (sum % 2 ^ 16 + sum / 2 ^ 16) else sum
termination_by sum
decreasing_by omega

theorem words_append {a : Bytes} (b : Bytes) (h : a.length % 2 = 0) :
    words (a ++ b) = words a ++ words b := by
  induction a using words.induct with
  | case1 => rfl
  | case2 => simp at h
  | case3 x y rest ih =>
    rw [cons_append, cons_append, words, words, ih (by simp only [length_cons] at h; omega),
      cons_append]

theorem words_beBytes (n : Nat) : words (beBytes 2 n) = [n % 2 ^ 16] := by
  have h := beNat_beBytes 2 n
  simp only [beBytes, beNat] at h
  simp only [words, beBytes]
  rw [show n % 2 ^ 16 = n % 256 ^ 2 from rfl, ← h]
  simp

theorem word_le (data : Bytes) : ∀ w ∈ words data, w ≤ 0xFFFF := by
  induction data using words.induct with
  | case1 => exact nofun
  | case2 b =>
    have := b.toNat_lt
    simp only [words, mem_singleton]
    omega
  | case3 a b rest ih =>
    have := a.toNat_lt
    have := b.toNat_lt
    simp only [words, forall_mem_cons]
    exact ⟨by omega, ih⟩

theorem foldCarries_spec (sum : Nat) :
    foldCarries sum ≤ 0xFFFF ∧ foldCarries sum % 0xFFFF = sum % 0xFFFF ∧
      (foldCarries sum = 0 → sum = 0) := by
  induction sum using foldCarries.induct with
  | case1 sum h ih =>
    rw [foldCarries, if_pos h]
    omega
  | case2 sum h =>
    rw [foldCarries, if_neg h]
    omega

theorem foldl_onesAdd {ws : List Nat} (h : ∀ w ∈ ws, w ≤ 0xFFFF) {a : Nat} (ha : a ≤ 0xFFFF) :
    ws.foldl onesAdd a ≤ 0xFFFF ∧ ws.foldl onesAdd a % 0xFFFF = (a + ws.sum) % 0xFFFF ∧
      (ws.foldl onesAdd a = 0 → a + ws.sum = 0) := by
  induction ws generalizing a with
  | nil => simpa using ha
  | cons w ws ih =>
    obtain ⟨hw, hws⟩ := forall_mem_cons.mp h
    have hn : onesAdd a w ≤ 0xFFFF ∧ onesAdd a w % 0xFFFF = (a + w) % 0xFFFF ∧
        (onesAdd a w = 0 → a + w = 0) := by
      unfold onesAdd
      split <;> omega
    obtain ⟨hl, hm, hz⟩ := ih hws hn.1
    rw [foldl_cons, sum_cons]
    omega

theorem onesSum_eq_full {data : Bytes} (hm : (words data).sum % 0xFFFF = 0)
    (hp : 0 < (words data).sum) : onesSum data = 0xFFFF := by
  have h := foldl_onesAdd (word_le data) (Nat.zero_le 0xFFFF)
  unfold onesSum
  omega

end RtpBridge.Wire
