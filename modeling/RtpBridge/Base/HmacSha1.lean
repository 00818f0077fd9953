/-
SHA-1 and the keyed hash over it.
-/
import RtpBridge.Base.Bytes

namespace RtpBridge.HmacSha1

open Wire

def word : Nat := 2 ^ 32

def rotl (n x : Nat) : Nat := (x <<< n ||| x >>> (32 - n)) % word

structure Digest where
  a : Nat
  b : Nat
  c : Nat
  d : Nat
  e : Nat

def initial : Digest :=
  { a := 0x67452301, b := 0xEFCDAB89, c := 0x98BADCFE, d := 0x10325476, e := 0xC3D2E1F0 }

def extend : Nat → List Nat → List Nat
  | 0, ws => ws
  | n + 1, ws =>
    extend n (rotl 1 (ws.getD 2 0 ^^^ ws.getD 7 0 ^^^ ws.getD 13 0 ^^^ ws.getD 15 0) :: ws)

def mix (t b c d : Nat) : Nat :=
  if t < 20 then ((b &&& c) ||| ((b ^^^ 0xFFFFFFFF) &&& d)) + 0x5A827999
  else if t < 40 then (b ^^^ c ^^^ d) + 0x6ED9EBA1
  else if t < 60 then ((b &&& c) ||| (b &&& d) ||| (c &&& d)) + 0x8F1BBCDC
  else (b ^^^ c ^^^ d) + 0xCA62C1D6

def rounds : Nat → List Nat → Digest → Digest
  | _, [], s => s
  | t, w :: ws, s =>
    rounds (t + 1) ws
      { a := (rotl 5 s.a + mix t s.b s.c s.d + s.e + w) % word,
        b := s.a, c := rotl 30 s.b, d := s.c, e := s.d }

def compress (s : Digest) (block : List Nat) : Digest :=
  let r := rounds 0 (extend 64 block.reverse).reverse s
  { a := (s.a + r.a) % word, b := (s.b + r.b) % word, c := (s.c + r.c) % word,
    d := (s.d + r.d) % word, e := (s.e + r.e) % word }

def words : Bytes → List Nat
  | a :: b :: c :: d :: rest => beNat [a, b, c, d] :: words rest
  | _ => []

def padded (message : Bytes) : Bytes :=
  message ++ 0x80 :: List.replicate ((119 - message.length % 64) % 64) 0 ++
    beBytes 8 (8 * message.length)

def blocks : Nat → List Nat → Digest → Digest
  | 0, _, s => s
  | n + 1, ws, s => blocks n (ws.drop 16) (compress s (ws.take 16))

def sha1 (message : Bytes) : Digest :=
  blocks ((padded message).length / 64) (words (padded message)) initial

def Digest.bytes (s : Digest) : Vector UInt8 20 :=
  ⟨(beBytes 4 s.a ++ beBytes 4 s.b ++ beBytes 4 s.c ++ beBytes 4 s.d ++ beBytes 4 s.e).toArray,
    by simp⟩

def keyBlock (key : Bytes) : Bytes :=
  let key := if 64 < key.length then (sha1 key).bytes.toList else key
  key ++ List.replicate (64 - key.length) 0

def hmac (key message : Bytes) : Vector UInt8 20 :=
  let block := keyBlock key
  let inner := sha1 (block.map (· ^^^ 0x36) ++ message)
  (sha1 (block.map (· ^^^ 0x5C) ++ inner.bytes.toList)).bytes

end RtpBridge.HmacSha1
