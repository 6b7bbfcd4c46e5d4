import Fingerprint.Failure
import Fingerprint.Record
import Fingerprint.Text.Blank
import Fingerprint.Text.Case

/-! # Values of settings

A setting is written as a value of its type, or as a text or number that stands for one. Each
reading tells the issue of a value that does not fit. -/
set_option autoImplicit false
namespace Fingerprint.Settings

/-- The text that a value is written as, in a text or in UTF-8 bytes. Bytes that are no UTF-8, or a
text that has none, are `none`. -/
def written? : Value → Option (Option Text)
  | .text t => some (if t.any CodePoint.isSurrogate then none else some t)
  | .bytes b => some (Utf8.decode? b)
  | _ => none

def smallLetters (t : Text) : Text :=
  t.map fun c => if 0x41 ≤ c.val && c.val ≤ 0x5A then CodePoint.ofNat (c.val + 0x20) else c

def falseWords : List Text := ["0", "off", "f", "false", "n", "no"]

def trueWords : List Text := ["1", "on", "t", "true", "y", "yes"]

/-- The truth value that a word stands for, in any case of its ASCII letters. -/
def truthOfText (t : Text) : Except Issue Bool :=
  if falseWords.contains (smallLetters t) then .ok false
  else if trueWords.contains (smallLetters t) then .ok true
  else .error .boolParsing

def fitsWord (i : Int) : Bool := -0x8000000000000000 ≤ i && i < 0x8000000000000000

def truth (v : Value) : Except Issue Bool :=
  match written? v with
  | some (some t) => truthOfText t
  | some none => .error .boolParsing
  | none =>
    match v with
    | .bool b => .ok b
    | .int 0 => .ok false
    | .int 1 => .ok true
    | .int i => .error (if fitsWord i then .boolParsing else .boolType)
    | .float x =>
      if x.toInt? = some 0 then .ok false
      else if x.toInt? = some 1 then .ok true
      else .error .boolType
    | _ => .error .boolType

/-- Blank code points around a number: the separators U+001C to U+001F are none of them. -/
def isPadding (c : CodePoint) : Bool := c.isBlank && !(0x1C ≤ c.val && c.val ≤ 0x1F)

def trimPadding (t : Text) : Text :=
  ((t.dropWhile isPadding).reverse.dropWhile isPadding).reverse

/-- Drops the zeros that lead a number, and underscores between them, down to its first other
digit, to the zero before its point, or to its last code point. -/
def dropZeros (last : CodePoint) : Text → Option Text
  | [] => some [last]
  | c :: rest =>
    if c = '0' || c = '_' then dropZeros c rest
    else if c.isDigit then some (c :: rest)
    else if c = '.' then some (last :: c :: rest)
    else none

def leadingZeros : Text → Option Text
  | [] => none
  | c :: rest =>
    if c = '0' then dropZeros c rest
    else if c.isDigit || c = '-' then some (c :: rest)
    else none

def dropPointZeros (t : Text) : Text :=
  match Text.splitFirst? "." t with
  | some (whole, zeros) => if !zeros.isEmpty && zeros.all (· == '0') then whole else t
  | none => t

def dropUnderscores (t : Text) : Text :=
  if t.startsWith "_" || t.endsWith "_" || (Text.splitFirst? "__" t).isSome then t
  else t.filter fun c => c ≠ '_'

/-- A decimal integer with nothing before its sign and no zero that leads further digits. -/
def plainInteger? (t : Text) : Option Int :=
  let (negative, digits) : Bool × Text := match t with
    | c :: rest => if c = '-' then (true, rest) else (false, t)
    | [] => (false, [])
  if digits.isEmpty || !digits.all CodePoint.isDigit then none
  else if digits.startsWith "0" && digits.length ≠ 1 then none
  else some (if negative then -(Text.natOfDigits digits : Int) else Text.natOfDigits digits)

def lengthLimit : Nat := 4300

/-- An integer: digits with an optional sign, with single underscores between digits, and with no
other decimals than zeros. -/
def integerOfText (t : Text) : Except Issue Int :=
  let trimmed := trimPadding t
  let unsigned : Option Text := match trimmed with
    | c :: rest =>
      if c ≠ '+' then some trimmed else if Text.startsWith rest "-" then none else some rest
    | [] => none
  match unsigned.bind leadingZeros with
  | none => .error .intParsing
  | some t =>
    let t := dropUnderscores (dropPointZeros t)
    match plainInteger? t with
    | none => .error .intParsing
    | some i =>
      if lengthLimit < t.countP CodePoint.isDigit then .error .intTooLong else .ok i

def integer (v : Value) : Except Issue Int :=
  match written? v with
  | some (some t) => integerOfText t
  | some none => .error .intParsing
  | none =>
    match v with
    | .bool b => .ok (if b then 1 else 0)
    | .int i => .ok i
    | .float x =>
      match x.truncate?, x.toInt? with
      | none, _ => .error .notFinite
      | some _, none => .error .intFromFloat
      | some _, some i => if fitsWord i then .ok i else .error .intTooLong
    | _ => .error .intType

def chunkSize (v : Value) : Except Issue Int := do
  let i ← integer v
  if i ≤ 0 then throw (.rejected "chunk_size must be a positive number of bytes")
  return i

def level : Value → Except Issue Level
  | .text t =>
    match Level.ofName? t.trim.lower with
    | some l => .ok l
    | none => .error .unknownChoice
  | _ => .error .unknownChoice

def optionalText : Value → Except Issue (Option Text)
  | .null => .ok none
  | .buffer b => optionalBytes b
  | .bytes b => optionalBytes b
  | .text t => .ok (some t)
  | _ => .error .textType
where
  optionalBytes (b : Bytes) : Except Issue (Option Text) :=
    match Utf8.decode? b with
    | some t => .ok (some t)
    | none => .error .textType

end Fingerprint.Settings
