/-
The AES-128 block cipher, encryption direction.
-/
import RtpBridge.Base.Bytes

namespace RtpBridge.Aes128

open Wire

def sboxRows : List Nat :=
  [0x637c777bf26b6fc53001672bfed7ab76, 0xca82c97dfa5947f0add4a2af9ca472c0,
   0xb7fd9326363ff7cc34a5e5f171d83115, 0x04c723c31896059a071280e2eb27b275,
   0x09832c1a1b6e5aa0523bd6b329e32f84, 0x53d100ed20fcb15b6acbbe394a4c58cf,
   0xd0efaafb434d338545f9027f503c9fa8, 0x51a3408f929d38f5bcb6da2110fff3d2,
   0xcd0c13ec5f974417c4a77e3d645d1973, 0x60814fdc222a908846eeb814de5e0bdb,
   0xe0323a0a4906245cc2d3ac629195e479, 0xe7c8376d8dd54ea96c56f4ea657aae08,
   0xba78252e1ca6b4c6e8dd741f4bbd8b8a, 0x703eb5664803f60e613557b986c11d9e,
   0xe1f8981169d98e949b1e87e9ce5528df, 0x8ca1890dbfe6426841992d0fb054bb16]

def sbox (b : Nat) : Nat := (sboxRows.getD (b / 16) 0 >>> (8 * (15 - b % 16))) % 256

def double (b : Nat) : Nat := if b < 128 then 2 * b else (2 * b) ^^^ 0x11b

def shiftRows (s : List Nat) : List Nat :=
  [0, 5, 10, 15, 4, 9, 14, 3, 8, 13, 2, 7, 12, 1, 6, 11].map fun i => s.getD i 0

def mixColumns : List Nat → List Nat
  | a :: b :: c :: d :: rest =>
    let all := a ^^^ b ^^^ c ^^^ d
    (a ^^^ all ^^^ double (a ^^^ b)) :: (b ^^^ all ^^^ double (b ^^^ c)) ::
      (c ^^^ all ^^^ double (c ^^^ d)) :: (d ^^^ all ^^^ double (d ^^^ a)) :: mixColumns rest
  | _ => []

def addBytes (a b : List Nat) : List Nat := List.zipWith (· ^^^ ·) a b

def nextKey (rcon : Nat) (key : List Nat) : List Nat :=
  let at' := fun i => key.getD i 0
  let w0 := addBytes (key.take 4) [sbox (at' 13) ^^^ rcon, sbox (at' 14), sbox (at' 15),
    sbox (at' 12)]
  let w1 := addBytes ((key.drop 4).take 4) w0
  let w2 := addBytes ((key.drop 8).take 4) w1
  let w3 := addBytes ((key.drop 12).take 4) w2
  w0 ++ w1 ++ w2 ++ w3

def rounds : List Nat → List Nat → List Nat → List Nat
  | [], _, state => state
  | [rcon], key, state => addBytes (shiftRows (state.map sbox)) (nextKey rcon key)
  | rcon :: rest, key, state =>
    let key := nextKey rcon key
    rounds rest key (addBytes (mixColumns (shiftRows (state.map sbox))) key)

def roundConstants : List Nat := [1, 2, 4, 8, 16, 32, 64, 128, 27, 54]

def encrypt (key block : Bytes) : Vector UInt8 16 :=
  let key := key.map UInt8.toNat
  let out := rounds roundConstants key (addBytes (block.map UInt8.toNat) key)
  Vector.ofFn fun i => UInt8.ofNat (out.getD i 0)

end RtpBridge.Aes128
