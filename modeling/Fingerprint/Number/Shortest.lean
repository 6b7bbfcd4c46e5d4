import Fingerprint.Number.Binary64

/-! # The shortest decimal

`shortest` gives the fewest digits that read back as a finite value, and of those the nearest to
it. It tests, for one digit, two digits and so on, the value's two neighbours on that decimal grid
against the interval of numbers that round to the value. `text` writes the digits: positionally
while the point stands within sixteen digits and at most four zeros follow it, else with an
exponent of at least two digits; a whole number keeps one zero after the point. -/
set_option autoImplicit false
namespace Fingerprint.Binary64

/-- The numbers that round to a value, as `low / den` and `high / den` around `num / den`; the
ends belong to it when `closed`. -/
structure Interval where
  low : Nat
  num : Nat
  high : Nat
  den : Nat
  closed : Bool

/-- Below a power of two the grid is twice as fine, so the gap there is half as wide. -/
def interval (m : Nat) (e : Int) : Interval :=
  let below := if m = leadingBit && -1074 < e then 1 else 2
  let (unit, den) := ratio 1 (e - 2)
  ⟨(4 * m - below) * unit, 4 * m * unit, (4 * m + 2) * unit, den, m % 2 == 0⟩

def Interval.holds (i : Interval) (num den : Nat) : Bool :=
  let left := i.low * den
  let right := i.high * den
  let x := num * i.den
  if i.closed then left ≤ x && x ≤ right else left < x && x < right

/-- The power of ten of the leading digit of `num / den`. -/
def magnitude (num den : Nat) : Int :=
  let guess : Int :=
    ((Nat.toDigits 10 num).length : Int) - ((Nat.toDigits 10 den).length : Int)
  let (n, d) :=
    if 0 ≤ guess then (num, den * tenTo guess.toNat) else (num * tenTo (-guess).toNat, den)
  if n < d then guess - 1 else guess

/-- The better neighbour on the grid of multiples of `10 ^ power`, if one reads back. -/
def onGrid? (i : Interval) (power : Int) : Option Nat :=
  let (up, down) := if 0 ≤ power then (tenTo power.toNat, 1) else (1, tenTo (-power).toNat)
  let below := i.num * down / (i.den * up)
  let above := below + 1
  let lowOk := i.holds (below * up) down
  let highOk := i.holds (above * up) down
  let gapBelow := i.num * down - below * up * i.den
  let gapAbove := above * up * i.den - i.num * down
  if lowOk && highOk then
    some (if gapBelow < gapAbove || (gapBelow == gapAbove && below % 2 == 0) then below else above)
  else if lowOk then some below
  else if highOk then some above
  else none

def search (i : Interval) (top : Int) : Nat → Nat → Nat × Int
  | _, 0 => (i.num / i.den, 0)
  | count, fuel + 1 =>
    let power := top - (count : Int) + 1
    match onGrid? i power with
    | some digits => (digits, power)
    | none => search i top (count + 1) fuel

def shortest (m : Nat) (e : Int) : Nat × Int :=
  let i := interval m e
  search i (magnitude i.num i.den) 1 17

def stripZeros : Nat → Nat → Int → Nat × Int
  | 0, digits, power => (digits, power)
  | fuel + 1, digits, power =>
    if digits ≠ 0 && digits % 10 == 0 then stripZeros fuel (digits / 10) (power + 1)
    else (digits, power)

def signed (negative : Bool) (t : Text) : Text := if negative then "-" ++ t else t

def exponentText (power : Int) : Text :=
  (if power < 0 then "-" else "+") ++ Text.padLeft '0' 2 (Text.ofNat power.natAbs)

def positional (digits : Text) (point : Int) : Text :=
  if point ≤ 0 then Text.concat ["0.", List.replicate (-point).toNat '0', digits]
  else if point < digits.length then
    Text.concat [digits.take point.toNat, ".", digits.drop point.toNat]
  else Text.concat [Text.padRight '0' point.toNat digits, ".0"]

def scientific (digits : Text) (power : Int) : Text :=
  Text.concat [digits.take 1, if digits.length ≤ 1 then [] else ".", digits.drop 1, "e",
    exponentText power]

def text : Binary64 → Text
  | .nan => "nan"
  | .infinite s => signed s "inf"
  | .finite s 0 _ => signed s "0.0"
  | .finite s m e =>
    let (digits, power) := shortest m e
    let (digits, power) := stripZeros 17 digits power
    let written := Text.ofNat digits
    let point : Int := written.length + power
    signed s (if -4 < point && point ≤ 16 then positional written point
      else scientific written (point - 1))

end Fingerprint.Binary64
