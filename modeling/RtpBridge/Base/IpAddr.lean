/-
Internet addresses as Rust's standard library reads and prints them, and the
prefixes of address ranges.
-/
import RtpBridge.Base.Text

namespace RtpBridge

inductive IpAddr where
  | v4 (bits : BitVec 32)
  | v6 (bits : BitVec 128)
deriving DecidableEq

namespace IpAddr

def isIpv6 : IpAddr → Bool
  | .v4 _ => false
  | .v6 _ => true

def toCanonical : IpAddr → IpAddr
  | .v4 bits => .v4 bits
  | .v6 bits => if bits >>> 32 = 0xFFFF then .v4 (bits.setWidth 32) else .v6 bits

def isLoopback : IpAddr → Bool
  | .v4 bits => bits >>> 24 == 127
  | .v6 bits => bits == 1

/-! ## Text -/

def parseOctet (t : Text) : Option Nat :=
  if t.isEmpty || 3 < t.length || !t.allDigits || (1 < t.length && t.startsWith ['0']) ||
      255 < t.digitsValue then none
  else some t.digitsValue

def parseIpv4 (t : Text) : Option (BitVec 32) :=
  match (t.splitOn '.').map parseOctet with
  | [some a, some b, some c, some d] => some (BitVec.ofNat 32 (((a * 256 + b) * 256 + c) * 256 + d))
  | _ => none

def hexDigit (c : Char) : Option Nat :=
  if c.isDigit then some (c.toNat - '0'.toNat)
  else if 'a' ≤ c ∧ c ≤ 'f' then some (c.toNat - 'a'.toNat + 10)
  else if 'A' ≤ c ∧ c ≤ 'F' then some (c.toNat - 'A'.toNat + 10)
  else none

def parseGroup (t : Text) : Option Nat :=
  if t.isEmpty || 4 < t.length then none
  else t.foldlM (fun n c => (hexDigit c).map (n * 16 + ·)) 0

def parseGroups (allowIpv4 : Bool) : List Text → Option (List Nat)
  | [] => some []
  | [last] =>
    match (if allowIpv4 then parseIpv4 last else none) with
    | some bits => some [bits.toNat / 2 ^ 16, bits.toNat % 2 ^ 16]
    | none => (parseGroup last).map ([·])
  | piece :: rest => do
      let group ← parseGroup piece
      let groups ← parseGroups allowIpv4 rest
      return group :: groups

def splitDoubleColon : Text → Option (Text × Text)
  | ':' :: ':' :: rest => some ([], rest)
  | c :: rest => (splitDoubleColon rest).map fun (before, after) => (c :: before, after)
  | [] => none

def colonPieces (t : Text) : List Text := if t.isEmpty then [] else t.splitOn ':'

def ofGroups (groups : List Nat) : BitVec 128 :=
  BitVec.ofNat 128 (groups.foldl (fun n group => n * 2 ^ 16 + group) 0)

def parseIpv6 (t : Text) : Option (BitVec 128) :=
  match splitDoubleColon t with
  | none => do
      let groups ← parseGroups true (colonPieces t)
      if groups.length = 8 then some (ofGroups groups) else none
  | some (before, after) => do
      let head ← parseGroups false (colonPieces before)
      let tail ← parseGroups true (colonPieces after)
      -- the two colons stand for at least one group
      if head.length + tail.length ≤ 7 then
        some (ofGroups (head ++ List.replicate (8 - head.length - tail.length) 0 ++ tail))
      else none

def parse (t : Text) : Option IpAddr :=
  match parseIpv4 t with
  | some bits => some (.v4 bits)
  | none => (parseIpv6 t).map .v6

def showIpv4 (bits : BitVec 32) : Text :=
  Text.join ([24, 16, 8, 0].map fun shift => Text.ofNat (bits.toNat / 2 ^ shift % 256)) '.'

def groupsOf (bits : BitVec 128) : List Nat :=
  [112, 96, 80, 64, 48, 32, 16, 0].map fun shift => bits.toNat / 2 ^ shift % 2 ^ 16

def zeroRun (groups : List Nat) : Nat := (groups.takeWhile (· == 0)).length

def longestZeroRun (groups : List Nat) : Nat × Nat :=
  (List.range groups.length).foldl
    (fun best start =>
      if best.2 < zeroRun (groups.drop start) then (start, zeroRun (groups.drop start)) else best)
    (0, 0)

def showGroups (groups : List Nat) : Text := Text.join (groups.map (Nat.toDigits 16)) ':'

def showIpv6 (bits : BitVec 128) : Text :=
  if bits >>> 32 = 0xFFFF then "::ffff:".toList ++ showIpv4 (bits.setWidth 32)
  else
    let groups := groupsOf bits
    let (start, len) := longestZeroRun groups
    if 1 < len then
      showGroups (groups.take start) ++ [':', ':'] ++ showGroups (groups.drop (start + len))
    else showGroups groups

protected def toText : IpAddr → Text
  | .v4 bits => showIpv4 bits
  | .v6 bits => showIpv6 bits

example : parse "203.0.113.7".toList = some (.v4 0xCB007107) := by decide +kernel

example :
    (parse "2001:db8::1:0.0.0.2".toList).map IpAddr.toText = some "2001:db8::1:0:2".toList := by
  decide +kernel

end IpAddr

inductive SocketAddr where
  | v4 (ip : BitVec 32) (port : UInt16)
  | v6 (ip : BitVec 128) (port : UInt16) (flowinfo scopeId : UInt32)
deriving DecidableEq

namespace SocketAddr

protected def new : IpAddr → UInt16 → SocketAddr
  | .v4 ip, port => .v4 ip port
  | .v6 ip, port => .v6 ip port 0 0

def ip : SocketAddr → IpAddr
  | .v4 ip _ => .v4 ip
  | .v6 ip _ _ _ => .v6 ip

def port : SocketAddr → UInt16
  | .v4 _ port => port
  | .v6 _ port _ _ => port

def isIpv6 (addr : SocketAddr) : Bool := addr.ip.isIpv6

end SocketAddr

inductive IpNet where
  | v4 (addr : BitVec 32) (prefixLen : Fin 33)
  | v6 (addr : BitVec 128) (prefixLen : Fin 129)
deriving DecidableEq

-- Fixed here, so that prefix lengths elaborate alike under all imports.
instance IpNet.neZero33 : @NeZero Nat Zero.ofOfNat0 33 := ⟨by decide⟩
instance IpNet.neZero129 : @NeZero Nat Zero.ofOfNat0 129 := ⟨by decide⟩

namespace IpNet

def contains : IpNet → IpAddr → Bool
  | .v4 addr len, .v4 bits => (addr ^^^ bits) >>> (32 - len.val) == 0
  | .v6 addr len, .v6 bits => (addr ^^^ bits) >>> (128 - len.val) == 0
  | _, _ => false

end IpNet
end RtpBridge
