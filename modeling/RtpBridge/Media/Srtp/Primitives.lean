/-
The cryptographic boundary of `media/srtp.rs`.

AES-128, HMAC-SHA1 and the base64 codec come from crates and are parameters
here.  Counter mode is built from the block function, so that enciphering is its
own inverse is a theorem and not an assumption; of base64 the development uses
only that the decoder undoes the encoder.  The key derivation, the initial
counter blocks and the RTP header length are the crate's own code.
-/
import Mathlib.Data.Vector.Defs
import RtpBridge.Base.Aes128
import RtpBridge.Base.Base64
import RtpBridge.Base.CounterMode
import RtpBridge.Base.HmacSha1
import RtpBridge.Base.Text

namespace RtpBridge.Srtp

open Wire CounterMode
open List hiding Vector

variable {index : UInt64}

structure Primitives where
  aes128 : Bytes → Bytes → Vector UInt8 16
  hmacSha1 : Bytes → Bytes → Vector UInt8 20
  /-- The standard alphabet with padding; the error is the decoder's text. -/
  base64Decode : Text → Except String Bytes
  base64Encode : Bytes → Text
  base64Decode_encode : ∀ data, base64Decode (base64Encode data) = .ok data

/-- The functions the crates compute, for running the model. -/
def Primitives.reference : Primitives :=
  { aes128 := Aes128.encrypt, hmacSha1 := HmacSha1.hmac, base64Decode := Base64.decode,
    base64Encode := Base64.encode,
    base64Decode_encode := Base64.decode_encode }

def sampleKey : Text := "4fl6DT4Bi+DWT6MsBt5BOQ7Gda1Jiv7rtpYLOqvm".toList

def srtpAuthTagLen : Nat := 10
def srtpMasterKeyLen : Nat := 16
def srtpMasterSaltLen : Nat := 14
def maxSrtpPacketsPerMasterKey : Nat := 2 ^ 48
def maxSrtcpPacketsPerMasterKey : Nat := 2 ^ 31
def maxRecvSsrcs : Nat := 64
def maxSendSsrcs : Nat := 64

/-- `{x:#x}` of Rust's formatter. -/
def hexText (n : Nat) : String := "0x" ++ String.ofList (Nat.toDigits 16 n)

variable (P : Primitives)

/-- `Ctr128BE<Aes128>::apply_keystream`. -/
def aes128Ctr (key iv data : Bytes) : Bytes := applyKeystream (P.aes128 key) iv data

@[simp] theorem length_aes128Ctr (key iv data : Bytes) :
    (aes128Ctr P key iv data).length = data.length :=
  length_applyKeystream _ _ _

@[simp] theorem aes128Ctr_aes128Ctr (key iv data : Bytes) :
    aes128Ctr P key iv (aes128Ctr P key iv data) = data :=
  applyKeystream_applyKeystream _ _ _

def authTag (key message : Bytes) : Bytes := (P.hmacSha1 key message).toList.take srtpAuthTagLen

@[simp] theorem length_authTag (key message : Bytes) : (authTag P key message).length = 10 := by
  simp [authTag, srtpAuthTagLen]

def base64Decode (input : Text) : Except String Bytes :=
  match P.base64Decode input with
  | .ok data => .ok data
  | .error e => .error ("Invalid base64: " ++ e)

/-- How a context is made from the key of an SDES line. -/
theorem keyed_eq_ok {P : Primitives} {α : Type} {key : Text} {life : Nat} {e : String}
    {invalid : Bytes → String} {make : Bytes → α} {ctx : α} :
    (if life = 0 ∨ maxSrtpPacketsPerMasterKey < life then .error e
      else match base64Decode P key with
        | .error e => .error e
        | .ok material =>
          if material.length ≠ srtpMasterKeyLen + srtpMasterSaltLen then .error (invalid material)
          else .ok (make material)) = Except.ok ctx ↔
      (life ≠ 0 ∧ life ≤ maxSrtpPacketsPerMasterKey) ∧
        ∃ material, base64Decode P key = .ok material ∧ material.length = 30 ∧
          ctx = make material := by
  by_cases hl : life = 0 ∨ maxSrtpPacketsPerMasterKey < life
  · grind
  rw [if_neg hl]
  have hr : life ≠ 0 ∧ life ≤ maxSrtpPacketsPerMasterKey :=
    ⟨fun h => hl (Or.inl h), Nat.not_lt.mp fun h => hl (Or.inr h)⟩
  cases base64Decode P key with
  | error e => simp
  | ok material =>
    by_cases hle : material.length = 30
    · simp [srtpMasterKeyLen, srtpMasterSaltLen, hle, hr, eq_comm]
    · simp [srtpMasterKeyLen, srtpMasterSaltLen, hle]

theorem base64Decode_base64Encode (data : Bytes) :
    base64Decode P (P.base64Encode data) = .ok data := by
  rw [base64Decode, P.base64Decode_encode]

def srtpKdf (masterKey masterSalt : Bytes) (label : UInt8) (outLen : Nat) : Vector UInt8 outLen :=
  let x : Bytes := [0, 0, 0, 0, 0, 0, 0, label, 0, 0, 0, 0, 0, 0]
  let iv := xorBytes masterSalt x ++ [0, 0]
  ⟨(aes128Ctr P masterKey iv (List.replicate outLen 0)).toArray, by simp⟩

def ivBlock (salt : Vector UInt8 14) (ssrc : UInt32) (index : UInt64) : Bytes :=
  xorBytes (([0, 0, 0, 0] : Bytes) ++ beBytes 4 ssrc.toNat ++ beBytes 8 (index <<< 16).toNat)
    (salt.toList ++ [0, 0])

def computeIv (salt : Vector UInt8 14) (ssrc : UInt32) (index : UInt64) : Bytes :=
  ivBlock salt ssrc index

def computeSrtcpIv (salt : Vector UInt8 14) (ssrc srtcpIndex : UInt32) : Bytes :=
  ivBlock salt ssrc srtcpIndex.toUInt64

section

variable (salt : Vector UInt8 14) (ssrc : UInt32)

@[simp] theorem length_ivBlock (index : UInt64) : (ivBlock salt ssrc index).length = 16 := by
  simp [ivBlock]

theorem ivBlock_eq (hi : index.toNat < 2 ^ 48) : ivBlock salt ssrc index =
      xorBytes (([0, 0, 0, 0] : Bytes) ++ beBytes 4 ssrc.toNat ++ beBytes 6 index.toNat)
        salt.toList ++ [0, 0] := by
  have hs : (index <<< 16).toNat = index.toNat * 256 ^ 2 := by
    rw [UInt64.toNat_shiftLeft, Nat.shiftLeft_eq]
    exact Nat.mod_eq_of_lt (by simp; omega)
  have hz : beBytes 2 (index.toNat * 256 ^ 2) = [0, 0] := by
    rw [← Nat.zero_add (index.toNat * 256 ^ 2), beBytes_add_mul]
    rfl
  rw [ivBlock, hs, beBytes_append 6 2, Nat.mul_div_cancel _ (by decide), hz,
    ← append_assoc, xorBytes, zipWith_append (by simp)]
  rfl

theorem ivBlock_drop (hi : index.toNat < 2 ^ 48) : (ivBlock salt ssrc index).drop 14 = [0, 0] := by
  rw [ivBlock_eq salt ssrc hi]
  exact drop_left' (by simp)

end

theorem ivBlock_take_inj {salt : Vector UInt8 14} {ssrc ssrc' : UInt32} {index' : UInt64}
    (hi : index.toNat < 2 ^ 48) (hi' : index'.toNat < 2 ^ 48)
    (h : (ivBlock salt ssrc index).take 14 = (ivBlock salt ssrc' index').take 14) :
    ssrc = ssrc' ∧ index = index' := by
  rw [ivBlock_eq salt ssrc hi, ivBlock_eq salt ssrc' hi',
    take_left' (by simp), take_left' (by simp)] at h
  have hp := xorBytes_right_inj (by simp) (by simp) h
  obtain ⟨hh, hid⟩ := append_inj' hp (by simp)
  obtain ⟨-, hs⟩ := append_inj' hh (by simp)
  exact ⟨UInt32.toNat_inj.mp (beBytes_inj ssrc.toNat_lt ssrc'.toNat_lt hs),
    UInt64.toNat_inj.mp (beBytes_inj hi hi' hid)⟩

/-- The full header length with CSRC list and extension, or nothing when the
packet is shorter than the header it declares. -/
def rtpHeaderLen (packet : Bytes) : Option Nat :=
  if packet.length < 12 then none
  else
    let len := 12 + (byteAt packet 0 &&& 0x0F).toNat * 4
    if packet.length < len then none
    else if byteAt packet 0 &&& 0x10 ≠ 0 then
      if packet.length < len + 4 then none
      else
        let len' := (u16At packet (len + 2)).toNat * 4 + 4 + len
        if packet.length < len' then none else some len'
    else some len

theorem rtpHeaderLen_bounds {packet : Bytes} {n : Nat} (h : rtpHeaderLen packet = some n) :
    12 ≤ n ∧ n ≤ packet.length := by grind [rtpHeaderLen]

theorem rtpHeaderLen_of_take_eq {p q : Bytes} {n : Nat} (h : rtpHeaderLen p = some n)
    (hl : q.length = p.length) (ht : q.take n = p.take n) : rtpHeaderLen q = some n := by
  have hb := rtpHeaderLen_bounds h
  have h0 : byteAt q 0 = byteAt p 0 := byteAt_of_take_eq ht (by omega)
  have he : ∀ i, i + 1 < n → u16At q i = u16At p i := fun i hi => u16At_of_take_eq ht hi
  simp only [rtpHeaderLen] at h ⊢
  rw [hl, h0]
  split at h
  · cases h
  rename_i h12
  rw [if_neg h12]
  split at h
  · cases h
  rename_i hcc
  rw [if_neg hcc]
  split at h
  · grind
  rename_i hx
  rw [if_neg hx]
  exact h

end RtpBridge.Srtp
