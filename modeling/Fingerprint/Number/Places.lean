import Fingerprint.Number.Shortest

/-! # A given number of digits

Writes a magnitude with a fixed number of places, in scientific notation, or with a number of
significant digits. Rounding is exact: to the nearest, a tie to the even digit. -/
set_option autoImplicit false
namespace Fingerprint.Binary64

def roundScaled (num den : Nat) (power : Int) : Nat :=
  if 0 ≤ power then roundDiv (num * tenTo power.toNat) den
  else roundDiv num (den * tenTo (-power).toNat)

/-- `point` decides whether a point is written where no digit follows it. -/
def fixed (places : Nat) (point : Bool) (m : Nat) (e : Int) : Text :=
  let (num, den) := ratio m e
  let digits := Text.padLeft '0' (places + 1) (Text.ofNat (roundScaled num den places))
  let whole := digits.take (digits.length - places)
  let rest := digits.drop (digits.length - places)
  Text.concat [whole, if places = 0 && !point then [] else ".", rest]

/-- `count` significant digits and the power of ten of the first. -/
def significant (count : Nat) (m : Nat) (e : Int) : Text × Int :=
  if m = 0 then (List.replicate count '0', 0)
  else
    let (num, den) := ratio m e
    let top := magnitude num den
    let digits := Text.ofNat (roundScaled num den ((count : Int) - 1 - top))
    if digits.length = count then (digits, top) else (digits.take count, top + 1)

def exponential (places : Nat) (point : Bool) (m : Nat) (e : Int) : Text :=
  let (digits, power) := significant (places + 1) m e
  Text.concat [digits.take 1, if places = 0 && !point then [] else ".", digits.drop 1, "e",
    exponentText power]

def dropTrailing (mark : CodePoint) (t : Text) : Text :=
  (t.reverse.dropWhile (· == mark)).reverse

/-- The shorter of the two notations for `precision` significant digits: scientific when the power
of ten is below -4 or not below the precision. Without `keepZeros` trailing zeros go. -/
def general (precision : Nat) (keepZeros : Bool) (m : Nat) (e : Int) : Text :=
  let count := max precision 1
  let (digits, power) := significant count m e
  if power < -4 || (count : Int) ≤ power then
    let rest := if keepZeros then digits.drop 1 else dropTrailing '0' (digits.drop 1)
    Text.concat [digits.take 1, if rest.isEmpty && !keepZeros then [] else ".", rest, "e",
      exponentText power]
  else
    let point := power + 1
    let whole : Text := if point ≤ 0 then "0" else digits.take point.toNat
    let rest : Text :=
      if point ≤ 0 then Text.concat [List.replicate (-point).toNat '0', digits]
      else digits.drop point.toNat
    let rest := if keepZeros then rest else dropTrailing '0' rest
    Text.concat [whole, if rest.isEmpty && !keepZeros then [] else ".", rest]

end Fingerprint.Binary64
