/-
Byte strings and big-endian integers.
-/
import Mathlib.Data.List.Basic
import Mathlib.Tactic.Ring

namespace RtpBridge.Wire

open List

variable {i n : Nat}

abbrev Bytes := List UInt8

variable {p q : Bytes}

/-- Byte `i`, zero past the end.  Every reader checks the length first. -/
def byteAt (data : Bytes) (i : Nat) : UInt8 := data.getD i 0

def beNat : Bytes → Nat
  | [] => 0
  | b :: rest => b.toNat * 256 ^ rest.length + beNat rest

def beBytes : Nat → Nat → Bytes
  | 0, _ => []
  | w + 1, n => UInt8.ofNat (n / 256 ^ w) :: beBytes w n

def u16At (data : Bytes) (i : Nat) : UInt16 :=
  UInt16.ofNat (beNat [byteAt data i, byteAt data (i + 1)])

def u32At (data : Bytes) (i : Nat) : UInt32 :=
  UInt32.ofNat (beNat [byteAt data i, byteAt data (i + 1), byteAt data (i + 2),
    byteAt data (i + 3)])

def xorBytes (a b : Bytes) : Bytes := List.zipWith (· ^^^ ·) a b

@[simp] theorem length_beBytes (w n : Nat) : (beBytes w n).length = w := by
  induction w with
  | zero => rfl
  | succ w ih => simp [beBytes, ih]

theorem beNat_lt (data : Bytes) : beNat data < 256 ^ data.length := by
  induction data with
  | nil => simp [beNat]
  | cons b rest ih =>
    have hb : b.toNat ≤ 255 := Nat.le_of_lt_succ b.toNat_lt
    have hm : b.toNat * 256 ^ rest.length ≤ 255 * 256 ^ rest.length :=
      Nat.mul_le_mul_right _ hb
    simp only [beNat, length_cons]
    omega

theorem beNat_beBytes (w n : Nat) : beNat (beBytes w n) = n % 256 ^ w := by
  induction w with
  | zero => simp [beBytes, beNat, Nat.mod_one]
  | succ w ih =>
    have hb : (UInt8.ofNat (n / 256 ^ w)).toNat = n / 256 ^ w % 256 := by simp
    rw [beBytes, beNat, length_beBytes, ih, hb, Nat.pow_succ, Nat.mod_mul]
    ring

theorem beBytes_add_mul (w n k : Nat) : beBytes w (n + k * 256 ^ w) = beBytes w n := by
  induction w generalizing k with
  | zero => rfl
  | succ w ih =>
    have hs : n + k * 256 ^ (w + 1) = n + (k * 256) * 256 ^ w := by ring
    rw [beBytes, beBytes, hs, ih (k * 256)]
    rw [Nat.add_mul_div_right _ _ (Nat.pow_pos (by decide))]
    simp

theorem beBytes_beNat (data : Bytes) : beBytes data.length (beNat data) = data := by
  induction data with
  | nil => rfl
  | cons b rest ih =>
    have hlt := beNat_lt rest
    have hd : (b.toNat * 256 ^ rest.length + beNat rest) / 256 ^ rest.length = b.toNat := by
      rw [Nat.add_comm, Nat.add_mul_div_right _ _ (Nat.pow_pos (by decide)),
        Nat.div_eq_of_lt hlt, Nat.zero_add]
    rw [length_cons, beNat, beBytes, hd, Nat.add_comm, beBytes_add_mul, ih]
    simp

theorem beNat_append (a b : Bytes) : beNat (a ++ b) = beNat a * 256 ^ b.length + beNat b := by
  induction a with
  | nil => simp [beNat]
  | cons x rest ih =>
    rw [cons_append, beNat, ih, beNat, length_append]
    ring

theorem beBytes_inj {w m : Nat} (hn : n < 256 ^ w) (hm : m < 256 ^ w)
    (h : beBytes w n = beBytes w m) : n = m := by
  have hnm := congrArg beNat h
  rwa [beNat_beBytes, beNat_beBytes, Nat.mod_eq_of_lt hn, Nat.mod_eq_of_lt hm] at hnm

theorem beBytes_append (w k n : Nat) :
    beBytes (w + k) n = beBytes w (n / 256 ^ k) ++ beBytes k n := by
  induction w with
  | zero => simp [beBytes]
  | succ w ih =>
    grind [Nat.div_div_eq_div_mul, beBytes]

theorem read_of_lt (hi : i < p.length) : p[i]? = some (byteAt p i) := by
  rw [byteAt, getD_eq_getElem?_getD, getElem?_eq_getElem hi, Option.getD_some]

theorem byteAt_of_take_eq (h : q.take n = p.take n) (hi : i < n) : byteAt q i = byteAt p i := by
  have hg := congrArg (fun l : Bytes => l[i]?) h
  simp only [List.getElem?_take, if_pos hi] at hg
  simp only [byteAt, getD_eq_getElem?_getD, hg]

theorem u16At_of_take_eq (h : q.take n = p.take n) (hi : i + 1 < n) : u16At q i = u16At p i := by
  rw [u16At, u16At, byteAt_of_take_eq h (by omega), byteAt_of_take_eq h hi]

theorem u32At_of_take_eq (h : q.take n = p.take n) (hi : i + 3 < n) : u32At q i = u32At p i := by
  rw [u32At, u32At, byteAt_of_take_eq h (by omega), byteAt_of_take_eq h (by omega),
    byteAt_of_take_eq h (by omega), byteAt_of_take_eq h hi]

theorem byteAt_append_right (a b : Bytes) (i : Nat) :
    byteAt (a ++ b) (a.length + i) = byteAt b i := by
  simp only [byteAt, getD_eq_getElem?_getD]
  rw [List.getElem?_append_right (Nat.le_add_right _ _), Nat.add_sub_cancel_left]

theorem u16At_append_beBytes (before after : Bytes) (v : UInt16) :
    u16At (before ++ (beBytes 2 v.toNat ++ after)) before.length = v := by
  have h0 := byteAt_append_right before (beBytes 2 v.toNat ++ after) 0
  rw [Nat.add_zero] at h0
  rw [u16At, h0, byteAt_append_right]
  show UInt16.ofNat (beNat (beBytes 2 v.toNat)) = v
  simp [beNat_beBytes]

theorem u32At_append_beBytes (before after : Bytes) (v : UInt32) :
    u32At (before ++ (beBytes 4 v.toNat ++ after)) before.length = v := by
  have h0 := byteAt_append_right before (beBytes 4 v.toNat ++ after) 0
  rw [Nat.add_zero] at h0
  rw [u32At, h0, byteAt_append_right, byteAt_append_right, byteAt_append_right]
  show UInt32.ofNat (beNat (beBytes 4 v.toNat)) = v
  simp [beNat_beBytes]

@[simp] theorem length_xorBytes (a b : Bytes) : (xorBytes a b).length = min a.length b.length := by
  simp [xorBytes]

theorem xorBytes_xorBytes {data mask : Bytes} (h : data.length ≤ mask.length) :
    xorBytes (xorBytes data mask) mask = data := by
  induction data generalizing mask with
  | nil => rfl
  | cons x xs ih =>
    cases mask with
    | nil => simp at h
    | cons m ms =>
      grind [xorBytes, zipWith_cons_cons, UInt8.xor_assoc, UInt8.xor_self]

theorem xorBytes_right_inj {a b mask : Bytes} (ha : a.length ≤ mask.length)
    (hb : b.length ≤ mask.length) (h : xorBytes a mask = xorBytes b mask) : a = b := by
  rw [← xorBytes_xorBytes ha, h, xorBytes_xorBytes hb]

end RtpBridge.Wire
