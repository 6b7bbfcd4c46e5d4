import Fingerprint.Text.Basic

/-! # Dates and times

Days of the Gregorian calendar, times of day to the microsecond, and both together with or without
an offset from universal time, written as in ISO 8601. -/
set_option autoImplicit false
namespace Fingerprint

structure Day where
  year : Nat
  month : Nat
  day : Nat
deriving DecidableEq

structure TimeOfDay where
  hour : Nat
  minute : Nat
  second : Nat
  micro : Nat
deriving DecidableEq

inductive Moment where
  | day (d : Day)
  | time (t : TimeOfDay)
  | floating (d : Day) (t : TimeOfDay)
  | zoned (d : Day) (t : TimeOfDay) (offsetMinutes : Int)
deriving DecidableEq

def isLeapYear (year : Nat) : Bool := year % 4 == 0 && (year % 100 != 0 || year % 400 == 0)

def daysInMonth (year month : Nat) : Nat :=
  if month = 2 then (if isLeapYear year then 29 else 28)
  else if month = 4 || month = 6 || month = 9 || month = 11 then 30
  else 31

namespace Day

def isValid (d : Day) : Bool :=
  1 ≤ d.year && 1 ≤ d.month && d.month ≤ 12 && 1 ≤ d.day && d.day ≤ daysInMonth d.year d.month

def text (d : Day) : Text :=
  Text.concat [Text.ofDigits 10 4 d.year, "-", Text.ofDigits 10 2 d.month, "-",
    Text.ofDigits 10 2 d.day]

end Day

namespace TimeOfDay

def isValid (t : TimeOfDay) : Bool := t.hour < 24 && t.minute < 60 && t.second < 60

/-- The fraction is left out when it is zero. -/
def text (t : TimeOfDay) : Text :=
  Text.concat [Text.ofDigits 10 2 t.hour, ":", Text.ofDigits 10 2 t.minute, ":",
    Text.ofDigits 10 2 t.second, if t.micro = 0 then [] else ".",
    if t.micro = 0 then [] else Text.ofDigits 10 6 t.micro]

end TimeOfDay

def Moment.text : Moment → Text
  | .day d => d.text
  | .time t => t.text
  | .floating d t => Text.concat [d.text, "T", t.text]
  | .zoned d t offset =>
    Text.concat [d.text, "T", t.text, if offset < 0 then "-" else "+",
      Text.ofDigits 10 2 (offset.natAbs / 60), ":", Text.ofDigits 10 2 (offset.natAbs % 60)]

end Fingerprint
