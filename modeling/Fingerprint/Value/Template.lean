import Fingerprint.Number.Places
import Fingerprint.Value.Literal

/-! # Message templates

A template is a text in which a percent sign starts a directive: an optional key in parentheses,
flags, a width, a precision, and one letter that tells how the next argument is written; two
percent signs are one in the message. Arguments are either values that the directives take one
after the other, all of which have to be taken, or one table that the keys look into. A template
that does not fit its arguments has no message. -/
set_option autoImplicit false
namespace Fingerprint.Template

/-- A width or precision: left out, written in the template, or taken from the arguments. -/
inductive Count where
  | absent
  | fixed (n : Nat)
  | argument

structure Directive where
  key : Option Text
  flags : Text
  width : Count
  precision : Count
  letter : CodePoint

inductive Segment where
  | plain (c : CodePoint)
  | directive (d : Directive)

def closeKey? (depth : Nat) : Text → Option (Text × Text)
  | [] => none
  | c :: rest =>
    if c = ')' then
      match depth with
      | 0 => some ([], rest)
      | n + 1 => (closeKey? n rest).map fun (key, rest) => (c :: key, rest)
    else
      (closeKey? (if c = '(' then depth + 1 else depth) rest).map fun (key, rest) =>
        (c :: key, rest)

def key? : Text → Option (Option Text × Text)
  | [] => some (none, [])
  | c :: rest =>
    if c = '(' then (closeKey? 0 rest).map fun (key, rest) => (some key, rest)
    else some (none, c :: rest)

def isFlag (c : CodePoint) : Bool := c = '-' || c = '+' || c = ' ' || c = '#' || c = '0'

def count : Text → Count × Text
  | [] => (.absent, [])
  | c :: rest =>
    if c = '*' then (.argument, rest)
    else if c.isDigit then
      (.fixed (Text.natOfDigits ((c :: rest).takeWhile CodePoint.isDigit)),
        (c :: rest).dropWhile CodePoint.isDigit)
    else (.absent, c :: rest)

def precision : Text → Count × Text
  | [] => (.absent, [])
  | c :: rest =>
    if c = '.' then
      match count rest with
      | (.absent, rest) => (.fixed 0, rest)
      | found => found
    else (.absent, c :: rest)

def dropSize : Text → Text
  | [] => []
  | c :: rest => if c = 'h' || c = 'l' || c = 'L' then rest else c :: rest

def directive? (t : Text) : Option (Directive × Text) := do
  let (key, t) ← key? t
  let flags := t.takeWhile isFlag
  let (width, t) := count (t.dropWhile isFlag)
  let (precision, t) := precision t
  match dropSize t with
  | [] => none
  | letter :: rest => some (⟨key, flags, width, precision, letter⟩, rest)

/-- Reads at most `fuel` segments; two percent signs are a plain one. -/
def segmentsWithin : Nat → Text → Option (List Segment)
  | _, [] => some []
  | 0, _ :: _ => none
  | fuel + 1, c :: rest =>
    if c = '%' then
      if Text.startsWith rest "%" then do
        return .plain c :: (← segmentsWithin fuel (rest.drop 1))
      else do
        let (d, rest) ← directive? rest
        return .directive d :: (← segmentsWithin fuel rest)
    else do
      return .plain c :: (← segmentsWithin fuel rest)

/-- A segment takes at least one code point, so the length of the text bounds their number. -/
def segments? (t : Text) : Option (List Segment) := segmentsWithin t.length t

/-- The arguments that are left. A table counts as one value until a key has been looked up. -/
inductive Arguments where
  | values (vs : List Value)
  | table (entries : Entries) (current : Option Value)

namespace Arguments

def ofList : List Value → Arguments
  | [.dict []] => .values [.dict []]
  | [.dict es] => .table es (some (.dict es))
  | [.proxy []] => .values [.proxy []]
  | [.proxy es] => .table es (some (.proxy es))
  | vs => .values vs

def next? : Arguments → Option (Value × Arguments)
  | .values (v :: vs) => some (v, .values vs)
  | .values [] => none
  | .table es (some v) => some (v, .table es none)
  | .table _ none => none

def select? (key : Text) : Arguments → Option Arguments
  | .values _ => none
  | .table es _ => (es.get? key).map fun v => .table es (some v)

def isUsedUp : Arguments → Bool
  | .values vs => vs.isEmpty
  | .table .. => true

def integer? (args : Arguments) : Option (Int × Arguments) := do
  match ← args.next? with
  | (.int i, args) => some (i, args)
  | (.bool b, args) => some (if b then 1 else 0, args)
  | _ => none

end Arguments

structure Written where
  sign : Text
  mark : Text
  body : Text

structure Layout where
  left : Bool
  plus : Bool
  blank : Bool
  alternate : Bool
  zeros : Bool
  width : Nat
  precision : Option Nat

/-- Fills up to the width: on the right with blanks, on the left with blanks before the sign or
with zeros after the mark. -/
def Layout.place (l : Layout) (zeros : Bool) (w : Written) : Text :=
  let size := w.sign.length + w.mark.length + w.body.length
  let missing := l.width - size
  if l.left then Text.concat [w.sign, w.mark, w.body, List.replicate missing ' ']
  else if zeros then Text.concat [w.sign, w.mark, List.replicate missing '0', w.body]
  else Text.concat [List.replicate missing ' ', w.sign, w.mark, w.body]

def Layout.sign (l : Layout) (negative : Bool) : Text :=
  if negative then "-" else if l.plus then "+" else if l.blank then " " else []

def Layout.text (l : Layout) (t : Text) : Text :=
  l.place false ⟨[], [], match l.precision with
    | some n => t.take n
    | none => t⟩

def capitals (t : Text) : Text :=
  t.map fun c => if 0x61 ≤ c.val && c.val ≤ 0x7A then CodePoint.ofNat (c.val - 0x20) else c

def Layout.integer (l : Layout) (base : Nat) (mark : Text) (i : Int) : Text :=
  l.place l.zeros ⟨l.sign (i < 0), if l.alternate then mark else [],
    Text.ofDigits base (l.precision.getD 1) i.natAbs⟩

def Layout.number (l : Layout) (write : Nat → Int → Text) (capital : Bool) (x : Binary64) : Text :=
  let (negative, body) : Bool × Text := match x with
    | .nan => (false, "nan")
    | .infinite s => (s, "inf")
    | .finite s m e => (s, write m e)
  l.place l.zeros ⟨l.sign negative, [], if capital then capitals body else body⟩

def wholeNumber? : Value → Option Int
  | .bool b => some (if b then 1 else 0)
  | .int i => some i
  | .float x => x.truncate?
  | _ => none

def exactInteger? : Value → Option Int
  | .bool b => some (if b then 1 else 0)
  | .int i => some i
  | _ => none

def real? : Value → Option Binary64
  | .bool b => Binary64.ofInt? (if b then 1 else 0)
  | .int i => Binary64.ofInt? i
  | .float x => some x
  | _ => none

def codePoint? : Value → Option CodePoint
  | .text [c] => some c
  | .int i => if h : 0 ≤ i ∧ i.toNat < 0x110000 then some ⟨i.toNat, h.2⟩ else none
  | .bool b => some (.ofNat (if b then 1 else 0))
  | _ => none

def asciiOnly (t : Text) : Text :=
  t.flatMap fun c => if c.val < 0x80 then [c] else Text.escaped c

def Layout.write? (l : Layout) (letter : CodePoint) (v : Value) : Option Text :=
  let digits := l.precision.getD 6
  if letter = 's' then some (l.text v.shown)
  else if letter = 'r' then some (l.text v.literal)
  else if letter = 'a' then some (l.text (asciiOnly v.literal))
  else if letter = 'c' then (codePoint? v).map fun c => l.place false ⟨[], [], [c]⟩
  else if letter = 'd' || letter = 'i' || letter = 'u' then (wholeNumber? v).map (l.integer 10 [])
  else if letter = 'o' then (exactInteger? v).map (l.integer 8 "0o")
  else if letter = 'x' then (exactInteger? v).map (l.integer 16 "0x")
  else if letter = 'X' then (exactInteger? v).map fun i => capitals (l.integer 16 "0x" i)
  else if letter = 'f' || letter = 'F' then
    (real? v).map (l.number (Binary64.fixed digits l.alternate) (letter = 'F'))
  else if letter = 'e' || letter = 'E' then
    (real? v).map (l.number (Binary64.exponential digits l.alternate) (letter = 'E'))
  else if letter = 'g' || letter = 'G' then
    (real? v).map (l.number (Binary64.general digits l.alternate) (letter = 'G'))
  else none

/-- Reads a count off the arguments where the template leaves it to them. -/
def Count.value? (args : Arguments) : Count → Option (Option Int × Arguments)
  | .absent => some (none, args)
  | .fixed n => if 0x8000000000000000 ≤ n then none else some (some n, args)
  | .argument => args.integer?.map fun (i, args) => (some i, args)

/-- One directive. A negative width means its magnitude, set to the left; a negative precision is
one of zero. -/
def Directive.write? (d : Directive) (args : Arguments) : Option (Text × Arguments) := do
  let args ← match d.key with
    | some key => args.select? key
    | none => some args
  let (width, args) ← d.width.value? args
  let (precision, args) ← d.precision.value? args
  let (v, args) ← args.next?
  let w := width.getD 0
  let layout : Layout :=
    ⟨d.flags.contains '-' || w < 0, d.flags.contains '+', d.flags.contains ' ',
      d.flags.contains '#', d.flags.contains '0', w.natAbs, precision.map Int.toNat⟩
  return (← layout.write? d.letter v, args)

def fill? (args : Arguments) : List Segment → Option Text
  | [] => if args.isUsedUp then some [] else none
  | .plain c :: rest => (fill? args rest).map (c :: ·)
  | .directive d :: rest => do
    let (t, args) ← d.write? args
    return t ++ (← fill? args rest)

/-- The message of a template with its arguments. Without arguments the template is the message as
it stands; a single table that is not empty serves the keys. -/
def message? (template : Value) (args : List Value) : Option Text :=
  if args.isEmpty then some template.shown
  else do fill? (.ofList args) (← segments? template.shown)

end Fingerprint.Template
