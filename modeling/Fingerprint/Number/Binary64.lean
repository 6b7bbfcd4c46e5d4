import Fingerprint.Text.Basic

/-! # Binary floating point

The values of the 64-bit binary format. A finite value is `significand * 2 ^ exponent`, where the
significand has at most 53 bits and the exponent is at least -1074; it is kept in the one form
whose significand has exactly 53 bits or whose exponent is -1074. `ofRatio` rounds a ratio to the
nearest value, a tie to the even significand; everything else is exact arithmetic. -/
set_option autoImplicit false
namespace Fingerprint

/-- The quotient rounded to the nearest number, a half to the even one. -/
def roundDiv (num den : Nat) : Nat :=
  let q := num / den
  let r := num % den
  if 2 * r < den then q
  else if den < 2 * r then q + 1
  else q + q % 2

inductive Binary64 where
  | nan
  | infinite (negative : Bool)
  | finite (negative : Bool) (significand : Nat) (exponent : Int)
deriving DecidableEq, Inhabited

namespace Binary64

def leadingBit : Nat := 1 <<< 52

def tenTo (n : Nat) : Nat := Nat.pow 10 n

def zero : Binary64 := .finite false 0 (-1074)

/-- `num / den / 2 ^ e` as a ratio of natural numbers. -/
def scaled (num den : Nat) (e : Int) : Nat × Nat :=
  if 0 ≤ e then (num, den <<< e.toNat) else (num <<< (-e).toNat, den)

/-- The exponent that leaves 53 bits before the point, or -1074 where that would be too small. -/
def exponentFor (num den : Nat) : Int :=
  let guess : Int := (num.log2 : Int) - (den.log2 : Int) - 52
  let (n, d) := scaled num den guess
  let e := if n / d < leadingBit then guess - 1 else guess
  max e (-1074)

def ofRatio (negative : Bool) (num den : Nat) : Binary64 :=
  if num = 0 then .finite negative 0 (-1074)
  else
    let e := exponentFor num den
    let (n, d) := scaled num den e
    let m := roundDiv n d
    let (m, e) := if m = 2 * leadingBit then (leadingBit, e + 1) else (m, e)
    if 971 < e then .infinite negative else .finite negative m e

/-- `digits * 10 ^ power`, rounded. Powers far outside the format's range are settled by the number
of digits alone. -/
def ofDecimal (negative : Bool) (digits : Nat) (power : Int) : Binary64 :=
  let length : Int := (Nat.toDigits 10 digits).length
  if digits = 0 then .finite negative 0 (-1074)
  else if 310 < length + power then .infinite negative
  else if length + power < -330 then .finite negative 0 (-1074)
  else if 0 ≤ power then ofRatio negative (digits * tenTo power.toNat) 1
  else ofRatio negative digits (tenTo (-power).toNat)

/-- The nearest value, or none where that would be infinite. -/
def ofInt? (i : Int) : Option Binary64 :=
  match ofRatio (i < 0) i.natAbs 1 with
  | .finite s m e => some (.finite s m e)
  | _ => none

def ratio (m : Nat) (e : Int) : Nat × Nat :=
  if 0 ≤ e then (m <<< e.toNat, 1) else (m, 1 <<< (-e).toNat)

def isZero : Binary64 → Bool
  | .finite _ 0 _ => true
  | _ => false

def nonpositive : Binary64 → Bool
  | .nan => false
  | .infinite s => s
  | .finite s m _ => s || m == 0

def truncate? : Binary64 → Option Int
  | .finite s m e =>
    let (n, d) := ratio m e
    some (if s then -((n / d : Nat) : Int) else ((n / d : Nat) : Int))
  | _ => none

def toInt? : Binary64 → Option Int
  | .finite s m e =>
    let (n, d) := ratio m e
    if n % d = 0 then some (if s then -((n / d : Nat) : Int) else ((n / d : Nat) : Int)) else none
  | _ => none

end Binary64
end Fingerprint
