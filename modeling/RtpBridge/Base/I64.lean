/-
Signed 64 bit numbers as Rust reads, prints and adds them.
-/
import RtpBridge.Base.Rows
import Mathlib.Algebra.Ring.Int.Defs

namespace RtpBridge.I64

def least : Int := -9223372036854775808
def greatest : Int := 9223372036854775807

def clamp (n : Int) : Int := max least (min n greatest)

def saturatingAdd (a b : Int) : Int := clamp (a + b)

def saturatingSub (a b : Int) : Int := clamp (a - b)

/-- `as i64` of an unsigned number. -/
def ofU64 (n : Nat) : Int := if n < 2 ^ 63 then n else n - 2 ^ 64

/-- `str::parse`. -/
def parse (t : Text) : Option Int :=
  match t with
  | '-' :: digits =>
      if digits.isEmpty || !Text.allDigits digits || 2 ^ 63 < Text.digitsValue digits then none
      else some (-(Text.digitsValue digits : Int))
  | _ => (Text.parseUnsigned (2 ^ 63) t).map Int.ofNat

/-- `Display`. -/
protected def toText (n : Int) : Text :=
  if n < 0 then '-' :: Text.ofNat n.natAbs else Text.ofNat n.natAbs

theorem le_of_saturatingSub_le {a b m : Int} (h : saturatingSub a b ≤ m) (hm : m < greatest) :
    a - b ≤ m := by
  unfold saturatingSub clamp least at h
  omega

theorem le_of_le_saturatingAdd {a b n : Int} (h : n ≤ saturatingAdd a b) (hs : least ≤ a + b) :
    n ≤ a + b := by
  unfold saturatingAdd clamp greatest at h
  omega

theorem toText_inj {m n : Int} (h : I64.toText m = I64.toText n) : m = n := by
  have hm : ∀ k : Nat, '-' ∉ Text.ofNat k := Text.not_mem_ofNat (by decide)
  have ha : ∀ {j k : Nat}, Text.ofNat j = Text.ofNat k → j = k := by
    intro j k heq
    rw [← Text.digitsValue_ofNat j, heq, Text.digitsValue_ofNat]
  unfold I64.toText at h
  split at h
  · split at h
    · have hsame := ha (List.cons.inj h).2
      omega
    · exact absurd (h ▸ List.mem_cons_self) (hm _)
  split at h
  · exact absurd (h ▸ List.mem_cons_self) (hm _)
  · have hsame := ha h
    omega

theorem no_newline_toText (n : Int) : '\n' ∉ I64.toText n := by
  have hd : '\n' ∉ Text.ofNat n.natAbs := Text.not_mem_ofNat (by decide) _
  unfold I64.toText
  split
  · intro hme
    rcases List.mem_cons.mp hme with hm | hme
    · exact absurd hm (by decide)
    · exact hd hme
  · exact hd

end RtpBridge.I64
