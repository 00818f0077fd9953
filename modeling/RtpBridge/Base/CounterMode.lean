/-
Counter mode over an arbitrary block function.
-/
import RtpBridge.Base.Bytes

namespace RtpBridge.CounterMode

open Wire

def counterBlock (iv : Bytes) (j : Nat) : Bytes := beBytes 16 (beNat iv + j)

def blockCount (n : Nat) : Nat := (n + 15) / 16

def keystream (block : Bytes → Vector UInt8 16) (iv : Bytes) (blocks : Nat) : Bytes :=
  (List.range blocks).flatMap fun j => (block (counterBlock iv j)).toList

def applyKeystream (block : Bytes → Vector UInt8 16) (iv data : Bytes) : Bytes :=
  xorBytes data (keystream block iv (blockCount data.length))

@[simp] theorem length_keystream (block : Bytes → Vector UInt8 16) (iv : Bytes) (blocks : Nat) :
    (keystream block iv blocks).length = 16 * blocks := by
  rw [keystream]
  simp [Nat.mul_comm]

theorem length_le_blockCount (n : Nat) : n ≤ 16 * blockCount n := by
  unfold blockCount
  omega

@[simp] theorem length_applyKeystream (block : Bytes → Vector UInt8 16) (iv data : Bytes) :
    (applyKeystream block iv data).length = data.length := by
  rw [applyKeystream, length_xorBytes, length_keystream]
  exact Nat.min_eq_left (length_le_blockCount _)

@[simp] theorem applyKeystream_applyKeystream (block : Bytes → Vector UInt8 16)
    (iv data : Bytes) : applyKeystream block iv (applyKeystream block iv data) = data := by
  grind [applyKeystream, length_applyKeystream, xorBytes_xorBytes, length_keystream,
    length_le_blockCount]

theorem counterBlock_ne {iv iv' : Bytes} (hl : iv.length = 16) (hl' : iv'.length = 16)
    (hlo : iv.drop 14 = [0, 0]) (hlo' : iv'.drop 14 = [0, 0])
    (hne : iv.take 14 ≠ iv'.take 14) {j k : Nat} (hj : j < 2 ^ 16) (hk : k < 2 ^ 16) :
    counterBlock iv j ≠ counterBlock iv' k := by
  have ht : ∀ x : Bytes, x.length = 16 → (x.take 14).length = 14 := by
    intro x hx
    rw [List.length_take, hx, Nat.min_eq_left (by decide)]
  have hs : ∀ x : Bytes, x.drop 14 = [0, 0] → beNat x = beNat (x.take 14) * 2 ^ 16 := by
    intro x hd
    calc beNat x = beNat (x.take 14 ++ x.drop 14) := by rw [List.take_append_drop]
      _ = beNat (x.take 14) * 2 ^ 16 := by rw [hd, beNat_append]; simp [beNat]
  have hlt : ∀ x : Bytes, x.length = 16 → beNat (x.take 14) < 256 ^ 14 := by
    intro x hx
    have h := beNat_lt (x.take 14)
    rwa [ht x hx] at h
  intro h
  have hiv := hlt iv hl
  have hiv' := hlt iv' hl'
  have hn := beBytes_inj (w := 16)
    (by rw [hs iv hlo]; omega) (by rw [hs iv' hlo']; omega) h
  rw [hs iv hlo, hs iv' hlo'] at hn
  have hh : beNat (iv.take 14) = beNat (iv'.take 14) := by omega
  apply hne
  rw [← beBytes_beNat (iv.take 14), ← beBytes_beNat (iv'.take 14), ht iv hl, ht iv' hl', hh]

end RtpBridge.CounterMode
