/-
Base64 with the standard alphabet and canonical padding.
-/
import RtpBridge.Base.Bytes

namespace RtpBridge.Base64

open Wire

def symbol (i : Nat) : Char :=
  if i < 26 then Char.ofNat (65 + i)
  else if i < 52 then Char.ofNat (71 + i)
  else if i < 62 then Char.ofNat (i - 4)
  else if i = 62 then '+'
  else '/'

def value (c : Char) : Option Nat :=
  let n := c.toNat
  if 65 ≤ n ∧ n ≤ 90 then some (n - 65)
  else if 97 ≤ n ∧ n ≤ 122 then some (n - 71)
  else if 48 ≤ n ∧ n ≤ 57 then some (n + 4)
  else if c = '+' then some 62
  else if c = '/' then some 63
  else none

def encode : Bytes → List Char
  | [] => []
  | [a] => [symbol (a.toNat / 4), symbol (a.toNat % 4 * 16), '=', '=']
  | [a, b] =>
    [symbol (a.toNat / 4), symbol (a.toNat % 4 * 16 + b.toNat / 16), symbol (b.toNat % 16 * 4), '=']
  | a :: b :: c :: rest =>
    symbol (a.toNat / 4) :: symbol (a.toNat % 4 * 16 + b.toNat / 16) ::
      symbol (b.toNat % 16 * 4 + c.toNat / 64) :: symbol (c.toNat % 64) :: encode rest

def first (x y : Nat) : UInt8 := UInt8.ofNat (x * 4 + y / 16)
def second (y z : Nat) : UInt8 := UInt8.ofNat (y % 16 * 16 + z / 4)
def third (z w : Nat) : UInt8 := UInt8.ofNat (z % 4 * 64 + w)

def decode : List Char → Except String Bytes
  | [] => .ok []
  | p :: q :: r :: s :: rest =>
    match value p, value q with
    | some x, some y =>
      if r = '=' ∧ s = '=' ∧ rest = [] then
        if y % 16 = 0 then .ok [first x y] else .error "Invalid last symbol"
      else
        match value r with
        | none => .error "Invalid symbol"
        | some z =>
          if s = '=' ∧ rest = [] then
            if z % 4 = 0 then .ok [first x y, second y z]
            else .error "Invalid last symbol"
          else
            match value s with
            | none => .error "Invalid symbol"
            | some w =>
              match decode rest with
              | .ok data => .ok (first x y :: second y z :: third z w :: data)
              | .error e => .error e
    | _, _ => .error "Invalid symbol"
  | _ => .error "Invalid input length"

theorem value_symbol {i : Nat} (h : i < 64) : value (symbol i) = some i := by
  have ha : ∀ i < 64, value (symbol i) = some i := by decide
  exact ha i h

theorem symbol_ne_pad {i : Nat} (h : i < 64) : symbol i ≠ '=' := by
  intro hp
  have hv := value_symbol h
  rw [hp] at hv
  cases hv

theorem first_eq (a : UInt8) {k : Nat} (hk : k < 16) :
    first (a.toNat / 4) (a.toNat % 4 * 16 + k) = a := by
  have ha := a.toNat_lt
  apply UInt8.toNat_inj.mp
  simp only [first, UInt8.toNat_ofNat']
  omega

theorem second_eq (b : UInt8) (j : Nat) {k : Nat} (hk : k < 4) :
    second (j * 16 + b.toNat / 16) (b.toNat % 16 * 4 + k) = b := by
  have hb := b.toNat_lt
  apply UInt8.toNat_inj.mp
  simp only [second, UInt8.toNat_ofNat']
  omega

theorem third_eq (c : UInt8) (j : Nat) : third (j * 4 + c.toNat / 64) (c.toNat % 64) = c := by
  have hc := c.toNat_lt
  apply UInt8.toNat_inj.mp
  simp only [third, UInt8.toNat_ofNat']
  omega

theorem decode_encode (data : Bytes) : decode (encode data) = .ok data := by
  fun_induction encode data with
  | case1 => rfl
  | case2 a =>
    have ha := a.toNat_lt
    have hf := first_eq a (k := 0) (by decide)
    simp only [Nat.add_zero] at hf
    simp [decode, value_symbol (show a.toNat / 4 < 64 by omega),
      value_symbol (show a.toNat % 4 * 16 < 64 by omega), hf]
  | case3 a b =>
    have ha := a.toNat_lt
    have hb := b.toNat_lt
    have hl : b.toNat % 16 * 4 < 64 := by omega
    have hf := first_eq a (show b.toNat / 16 < 16 by omega)
    have hs := second_eq b (a.toNat % 4) (k := 0) (by decide)
    simp only [Nat.add_zero] at hs
    simp [decode, value_symbol (show a.toNat / 4 < 64 by omega),
      value_symbol (show a.toNat % 4 * 16 + b.toNat / 16 < 64 by omega),
      value_symbol hl, symbol_ne_pad hl, hf, hs]
  | case4 a b c rest ih =>
    have ha := a.toNat_lt
    have hb := b.toNat_lt
    have hc := c.toNat_lt
    have hm : b.toNat % 16 * 4 + c.toNat / 64 < 64 := by omega
    have hl : c.toNat % 64 < 64 := by omega
    have hf := first_eq a (show b.toNat / 16 < 16 by omega)
    have hs := second_eq b (a.toNat % 4) (show c.toNat / 64 < 4 by omega)
    have ht := third_eq c (b.toNat % 16)
    simp [decode, value_symbol (show a.toNat / 4 < 64 by omega),
      value_symbol (show a.toNat % 4 * 16 + b.toNat / 16 < 64 by omega),
      value_symbol hm, value_symbol hl, symbol_ne_pad hl, ih,
      hf, hs, ht]

end RtpBridge.Base64
