/-
Text as a list of characters, with the `str` methods a line parser uses.
-/
import Mathlib.Algebra.Group.Nat.Defs
import Mathlib.Data.List.Basic

namespace RtpBridge

abbrev Text := List Char

namespace Text

/-- `char::is_whitespace`, the `White_Space` property. -/
def isWhitespace (c : Char) : Bool :=
  let n := c.toNat
  (9 ≤ n && n ≤ 13) || n == 32 || n == 0x85 || n == 0xA0 || n == 0x1680 ||
    (0x2000 ≤ n && n ≤ 0x200A) || n == 0x2028 || n == 0x2029 || n == 0x202F || n == 0x205F ||
    n == 0x3000

def trim (t : Text) : Text :=
  ((t.dropWhile isWhitespace).reverse.dropWhile isWhitespace).reverse

def splitWhitespace (t : Text) : List Text :=
  (t.splitOnP isWhitespace).filter fun part => !part.isEmpty

/-- `str::lines`: a line ends with `\n` or `\r\n`, and the text after the last one
is a line only if there is any. -/
def lines (t : Text) : List Text :=
  let parts := t.splitOn '\n'
  let ended := parts.dropLast.map fun line =>
    if line.getLast? = some '\r' then line.dropLast else line
  ended ++ parts.getLast?.toList.filter fun line => !line.isEmpty

def startsWith (t pre : Text) : Bool := pre.isPrefixOf t

def stripPrefix (t pre : Text) : Option Text :=
  if t.startsWith pre then some (t.drop pre.length) else none

def splitOnce (t : Text) (c : Char) : Option (Text × Text) :=
  match t.dropWhile (· ≠ c) with
  | [] => none
  | _ :: rest => some (t.takeWhile (· ≠ c), rest)

def allDigits (t : Text) : Bool := t.all Char.isDigit

def digitsValue (t : Text) : Nat := t.foldl (fun n c => n * 10 + (c.toNat - '0'.toNat)) 0

/-- The `FromStr` of an unsigned integer type with `limit` values. -/
def parseUnsigned (limit : Nat) (t : Text) : Option Nat :=
  let digits := (t.stripPrefix ['+']).getD t
  if digits.isEmpty || !digits.allDigits || limit ≤ digits.digitsValue then none
  else some digits.digitsValue

def parseU8 (t : Text) : Option UInt8 := (t.parseUnsigned (2 ^ 8)).map UInt8.ofNat
def parseU16 (t : Text) : Option UInt16 := (t.parseUnsigned (2 ^ 16)).map UInt16.ofNat
def parseU32 (t : Text) : Option UInt32 := (t.parseUnsigned (2 ^ 32)).map UInt32.ofNat

def toAsciiLowercase (t : Text) : Text := t.map Char.toLower
def toAsciiUppercase (t : Text) : Text := t.map Char.toUpper

def eqIgnoreAsciiCase (s t : Text) : Bool := s.toAsciiLowercase == t.toAsciiLowercase

def ofNat (n : Nat) : Text := Nat.toDigits 10 n

def join (parts : List Text) (sep : Char) : Text := List.intercalate [sep] parts

end Text
end RtpBridge
