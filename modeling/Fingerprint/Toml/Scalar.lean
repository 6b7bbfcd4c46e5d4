import Fingerprint.Toml.Basic

/-! # TOML: numbers, dates and times

Scalars that are no strings. A run of digits may hold single underscores between digits. A date
comes before a time and a time before a number, since each may begin like the next. -/
set_option autoImplicit false
namespace Fingerprint.Toml

/-- The digits of a run without its underscores, and what follows the run. -/
def digitRun (isDigit : CodePoint → Bool) : Text → Text × Text
  | [] => ([], [])
  | [c] => if isDigit c then ([c], []) else ([], [c])
  | c :: d :: rest =>
    if isDigit c then
      if d = '_' then
        if rest.head?.any isDigit then
          let (digits, rest) := digitRun isDigit rest
          (c :: digits, rest)
        else ([c], d :: rest)
      else
        let (digits, rest) := digitRun isDigit (d :: rest)
        (c :: digits, rest)
    else ([], c :: d :: rest)

def twoDigits? (low high : Nat) : Text → Option (Nat × Text)
  | a :: b :: rest =>
    let n := 10 * a.digitValue + b.digitValue
    if a.isDigit && b.isDigit && low ≤ n && n ≤ high then some (n, rest) else none
  | _ => none

def expect? (mark : CodePoint) : Text → Option Text
  | c :: rest => if c = mark then some rest else none
  | [] => none

/-- The fraction of a second in millionths; further digits are dropped. -/
def fraction (t : Text) : Nat × Text :=
  match t with
  | c :: rest =>
    let digits := rest.takeWhile CodePoint.isDigit
    if c = '.' && !digits.isEmpty then
      (Text.natOfDigits (Text.padRight '0' 6 (digits.take 6)), rest.dropWhile CodePoint.isDigit)
    else (0, t)
  | [] => (0, [])

def time? (t : Text) : Option (TimeOfDay × Text) := do
  let (hour, t) ← twoDigits? 0 23 t
  let (minute, t) ← twoDigits? 0 59 (← expect? ':' t)
  let (second, t) ← twoDigits? 0 59 (← expect? ':' t)
  let (micro, t) := fraction t
  return (⟨hour, minute, second, micro⟩, t)

def day? (t : Text) : Option (Day × Text) := do
  let (century, t) ← twoDigits? 0 99 t
  let (year, t) ← twoDigits? 0 99 t
  let (month, t) ← twoDigits? 1 12 (← expect? '-' t)
  let (day, t) ← twoDigits? 1 31 (← expect? '-' t)
  return (⟨100 * century + year, month, day⟩, t)

def signedOffset? (t : Text) : Option (Int × Text) := do
  let (hour, t) ← twoDigits? 0 23 t
  let (minute, t) ← twoDigits? 0 59 (← expect? ':' t)
  return (60 * hour + minute, t)

def offset? : Text → Option (Int × Text)
  | [] => none
  | c :: rest =>
    if c = 'Z' || c = 'z' then some (0, rest)
    else if c = '+' then signedOffset? rest
    else if c = '-' then (signedOffset? rest).map fun (n, rest) => (-n, rest)
    else none

def timeAfter? : Text → Option (TimeOfDay × Text)
  | [] => none
  | c :: rest => if c = 'T' || c = 't' || c = ' ' then time? rest else none

/-- A date with or without a time and an offset, or a time alone. The date need not exist. -/
def moment? (t : Text) : Option (Moment × Text) :=
  match day? t with
  | none => (time? t).map fun (time, rest) => (.time time, rest)
  | some (day, t) =>
    match timeAfter? t with
    | none => some (.day day, t)
    | some (time, t) =>
      match offset? t with
      | none => some (.floating day time, t)
      | some (offset, t) => some (.zoned day time offset, t)

def isOnCalendar : Moment → Bool
  | .day d | .floating d _ | .zoned d _ _ => d.isValid
  | .time _ => true

def digitLimit : Nat := 4300

def isHexDigit (c : CodePoint) : Bool := (hexValue? c).isSome

def numberOf (base : Nat) (digits : Text) : Nat :=
  digits.foldl (fun n c => base * n + (hexValue? c).getD 0) 0

def based? (t : Text) : Option (Int × Text) := do
  match t with
  | zero :: letter :: rest =>
    if zero ≠ '0' then failure
    let (base, isDigit) ←
      if letter = 'x' then some (16, isHexDigit)
      else if letter = 'o' then some (8, fun c => c.isDigit && c.digitValue < 8)
      else if letter = 'b' then some (2, fun c => c.isDigit && c.digitValue < 2)
      else none
    let (digits, rest) := digitRun isDigit rest
    if digits.isEmpty then failure
    return ((numberOf base digits : Nat), rest)
  | _ => none

def sign (t : Text) : Bool × Text :=
  match t with
  | c :: rest => if c = '-' then (true, rest) else if c = '+' then (false, rest) else (false, t)
  | [] => (false, [])

/-- The whole part of a decimal number: a zero alone, or digits that begin with none. -/
def whole? : Text → Option (Text × Text)
  | [] => none
  | c :: rest =>
    if c = '0' then some ([c], rest)
    else if c.isDigit then some (digitRun CodePoint.isDigit (c :: rest))
    else none

def decimals (t : Text) : Option Text × Text :=
  match t with
  | c :: rest =>
    let (digits, after) := digitRun CodePoint.isDigit rest
    if c = '.' && !digits.isEmpty then (some digits, after) else (none, t)
  | [] => (none, [])

def power (t : Text) : Option Int × Text :=
  match t with
  | c :: rest =>
    let (negative, digits) := sign rest
    let (digits, after) := digitRun CodePoint.isDigit digits
    if (c = 'e' || c = 'E') && !digits.isEmpty then
      let n : Int := Text.natOfDigits digits
      (some (if negative then -n else n), after)
    else (none, t)
  | [] => (none, [])

/-- A decimal number: an integer, or with a point or a power of ten a floating one. -/
def decimal? (t : Text) : Option (Except Refusal Value × Text) := do
  let (negative, t) := sign t
  let (digits, t) ← whole? t
  let (places, t) := decimals t
  let (exponent, t) := power t
  match places, exponent with
  | none, none =>
    if digitLimit < digits.length then return (.error (.tooManyDigits digits.length), t)
    let n : Int := Text.natOfDigits digits
    return (.ok (.int (if negative then -n else n)), t)
  | places, exponent =>
    let places := places.getD []
    return (.ok (.float (.ofDecimal negative (Text.natOfDigits (digits ++ places))
      (exponent.getD 0 - places.length))), t)

def unusual? (t : Text) : Option (Value × Text) :=
  let (negative, rest) := sign t
  if rest.startsWith "inf" then some (.float (.infinite negative), rest.drop 3)
  else if rest.startsWith "nan" then some (.float .nan, rest.drop 3)
  else none

def truth? (t : Text) : Option (Value × Text) :=
  if t.startsWith "true" then some (.bool true, t.drop 4)
  else if t.startsWith "false" then some (.bool false, t.drop 5)
  else none

def scalar (t : Text) : Except Refusal (Value × Text) :=
  match truth? t with
  | some found => .ok found
  | none =>
    match moment? t with
    | some (m, rest) => if isOnCalendar m then .ok (.moment m, rest) else refuse t
    | none =>
      match based? t with
      | some (i, rest) => .ok (.int i, rest)
      | none =>
        match decimal? t with
        | some (v, rest) => v.map fun v => (v, rest)
        | none =>
          match unusual? t with
          | some found => .ok found
          | none => refuse t

end Fingerprint.Toml
