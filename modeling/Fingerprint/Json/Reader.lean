import Fingerprint.Value.Basic

/-! # Reading JSON

Reads a JSON text into a value. Besides the standard the words `NaN` and `Infinity` are numbers, and
an escape may stand for half of a surrogate pair. Of equal names in an object the last one counts,
in the place of the first. -/
set_option autoImplicit false
namespace Fingerprint.Json

inductive Refusal where
  | malformed
  | tooDeep
deriving DecidableEq

abbrev ValueReader := Text → Except Refusal (Value × Text)

def isBlank (c : CodePoint) : Bool := c = ' ' || c = '\t' || c = '\n' || c = '\r'

def skipBlanks (t : Text) : Text := t.dropWhile isBlank

def expect (mark : CodePoint) (t : Text) : Except Refusal Text :=
  match skipBlanks t with
  | c :: rest => if c = mark then .ok rest else .error .malformed
  | [] => .error .malformed

def escapeLetters : List (CodePoint × CodePoint) :=
  [('"', '"'), ('\\', '\\'), ('/', '/'), ('b', '\x08'), ('f', '\x0c'), ('n', '\n'), ('r', '\r'),
    ('t', '\t')]

/-- Puts a code unit behind those taken, the last of them first: the halves of a surrogate pair
that were both written as escapes become one code point. -/
def takeUnit (afterHigh : Bool) (unit : Nat) (taken : Text) : Text :=
  match afterHigh, taken with
  | true, high :: before =>
    if 0xDC00 ≤ unit && unit ≤ 0xDFFF then
      CodePoint.ofNat (0x10000 + (high.val - 0xD800) * 0x400 + (unit - 0xDC00)) :: before
    else CodePoint.ofNat unit :: taken
  | _, _ => CodePoint.ofNat unit :: taken

/-- Where the reader of a string is; `afterHigh` tells that the last escape was the first half of a
surrogate pair and that nothing has come since. -/
inductive Escaping where
  | plain (afterHigh : Bool)
  | escape (afterHigh : Bool)
  | hex (afterHigh : Bool) (left value : Nat)

/-- Reads a string behind its opening quote; `taken` holds it in reverse. -/
def stringAfter (state : Escaping) (taken : Text) : Text → Except Refusal (Text × Text)
  | [] => .error .malformed
  | c :: rest =>
    match state with
    | .hex afterHigh left value =>
      match hexValue? c with
      | none => .error .malformed
      | some d =>
        let n := 16 * value + d
        match left with
        | 0 =>
          let isHigh := 0xD800 ≤ n && n ≤ 0xDBFF
          stringAfter (.plain isHigh) (takeUnit afterHigh n taken) rest
        | left + 1 => stringAfter (.hex afterHigh left n) taken rest
    | .escape afterHigh =>
      if c = 'u' then stringAfter (.hex afterHigh 3 0) taken rest
      else match escapeLetters.lookup c with
        | some c => stringAfter (.plain false) (c :: taken) rest
        | none => .error .malformed
    | .plain afterHigh =>
      if c = '"' then .ok (taken.reverse, rest)
      else if c = '\\' then stringAfter (.escape afterHigh) taken rest
      else if c.val < 0x20 then .error .malformed
      else stringAfter (.plain false) (c :: taken) rest

def digitLimit : Nat := 4300

def decimals (t : Text) : Option Text × Text :=
  match t with
  | c :: rest =>
    let digits := rest.takeWhile CodePoint.isDigit
    if c = '.' && !digits.isEmpty then (some digits, rest.dropWhile CodePoint.isDigit)
    else (none, t)
  | [] => (none, [])

def sign (t : Text) : Bool × Text :=
  match t with
  | c :: rest => if c = '-' then (true, rest) else if c = '+' then (false, rest) else (false, t)
  | [] => (false, [])

def power (t : Text) : Option Int × Text :=
  match t with
  | c :: rest =>
    let (negative, rest) := sign rest
    let digits := rest.takeWhile CodePoint.isDigit
    if (c = 'e' || c = 'E') && !digits.isEmpty then
      let n : Int := Text.natOfDigits digits
      (some (if negative then -n else n), rest.dropWhile CodePoint.isDigit)
    else (none, t)
  | [] => (none, [])

def number (negative : Bool) (t : Text) : Except Refusal (Value × Text) :=
  let run : Text := t.takeWhile CodePoint.isDigit
  let digits := if Text.startsWith run "0" then run.take 1 else run
  let (places, rest) := decimals (t.drop digits.length)
  let (exponent, rest) := power rest
  if digits.isEmpty then .error .malformed
  else match places, exponent with
    | none, none =>
      if digitLimit < digits.length then .error .malformed
      else
        let n : Int := Text.natOfDigits digits
        .ok (.int (if negative then -n else n), rest)
    | places, exponent =>
      let places := places.getD []
      .ok (.float (.ofDecimal negative (Text.natOfDigits (digits ++ places))
        (exponent.getD 0 - places.length)), rest)

def words : List (Text × Value) :=
  [("null", .null), ("true", .bool true), ("false", .bool false), ("NaN", .float .nan),
    ("Infinity", .float (.infinite false)), ("-Infinity", .float (.infinite true))]

def scalar (t : Text) : Except Refusal (Value × Text) :=
  match words.find? fun (word, _) => t.startsWith word with
  | some (word, v) => .ok (v, t.drop word.length)
  | none =>
    if t.startsWith "-" then number true (t.drop 1)
    else number false t

def arrayWithin (item : ValueReader) : Nat → List Value → ValueReader
  | 0, _, _ => .error .malformed
  | fuel + 1, taken, t => do
    let (v, t) ← item t
    match skipBlanks t with
    | [] => .error .malformed
    | c :: rest =>
      if c = ']' then .ok (.list (v :: taken).reverse, rest)
      else if c = ',' then arrayWithin item fuel (v :: taken) rest
      else .error .malformed

def objectWithin (item : ValueReader) : Nat → Entries → ValueReader
  | 0, _, _ => .error .malformed
  | fuel + 1, taken, t => do
    let (name, t) ← stringAfter (.plain false) [] (← expect '"' t)
    let (v, t) ← item (← expect ':' t)
    let taken := taken.put (.text name) v
    match skipBlanks t with
    | [] => .error .malformed
    | c :: rest =>
      if c = '}' then .ok (.dict taken, rest)
      else if c = ',' then objectWithin item fuel taken rest
      else .error .malformed

def depthLimit : Nat := 965

/-- A value after blanks; arrays and objects nest at most `depth` deep. -/
def value : Nat → ValueReader
  | 0, _ => .error .tooDeep
  | depth + 1, t =>
    match skipBlanks t with
    | [] => .error .malformed
    | c :: rest =>
      if c = '"' then do
        let (content, rest) ← stringAfter (.plain false) [] rest
        return (.text content, rest)
      else if c = '[' then
        match expect ']' rest with
        | .ok rest => .ok (.list [], rest)
        | .error _ => arrayWithin (value depth) t.length [] rest
      else if c = '{' then
        match expect '}' rest with
        | .ok rest => .ok (.dict [], rest)
        | .error _ => objectWithin (value depth) t.length [] rest
      else scalar (c :: rest)

def read (t : Text) : Except Refusal Value := do
  let (v, rest) ← value depthLimit t
  if (skipBlanks rest).isEmpty then return v else throw .malformed

end Fingerprint.Json
