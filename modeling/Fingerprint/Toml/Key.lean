import Fingerprint.Toml.Basic

/-! # TOML: strings and keys

A string stands between quotes, single ones for a content taken as it is and double ones for one
with escapes; three quotes let it run over several lines. A key is a chain of parts between dots,
each a bare word or a string on one line. -/
set_option autoImplicit false
namespace Fingerprint.Toml

inductive Escaping where
  | plain
  | escape
  | hex (left value : Nat)
  /-- After a backslash and a blank: the line has to end. -/
  | lineEnd
  /-- After a line that ended in a backslash: blanks and breaks do not count. -/
  | gap

def escapeLetters : List (CodePoint × CodePoint) :=
  [('b', '\x08'), ('t', '\t'), ('n', '\n'), ('f', '\x0c'), ('r', '\r'), ('"', '"'), ('\\', '\\')]

def scalar? (n : Nat) : Option CodePoint :=
  if n < 0xD800 || (0xDFFF < n && n < 0x110000) then some (CodePoint.ofNat n) else none

/-- Reads a string with escapes behind its opening quotes; `taken` holds it in reverse. -/
def escapedString (lines : Bool) (state : Escaping) (taken : Text) :
    Text → Except Refusal (Text × Text)
  | [] => refuse []
  | c :: rest =>
    let state := match state with
      | .gap => if isBlankOrBreak c then Escaping.gap else .plain
      | s => s
    match state with
    | .gap => escapedString lines .gap taken rest
    | .lineEnd =>
      if c = '\n' then escapedString lines .gap taken rest
      else if isBlank c then escapedString lines .lineEnd taken rest
      else refuse rest
    | .hex left value =>
      match hexValue? c with
      | none => refuse rest
      | some d =>
        match left with
        | 0 => match scalar? (16 * value + d) with
          | some c => escapedString lines .plain (c :: taken) rest
          | none => refuse rest
        | n + 1 => escapedString lines (.hex n (16 * value + d)) taken rest
    | .escape =>
      if lines && c = '\n' then escapedString lines .gap taken rest
      else if lines && isBlank c then escapedString lines .lineEnd taken rest
      else if c = 'u' then escapedString lines (.hex 3 0) taken rest
      else if c = 'U' then escapedString lines (.hex 7 0) taken rest
      else match escapeLetters.lookup c with
        | some c => escapedString lines .plain (c :: taken) rest
        | none => refuse rest
    | .plain =>
      if c = '"' then
        if lines then
          match rest with
          | a :: b :: after =>
            if a = '"' && b = '"' then .ok (taken.reverse, after)
            else escapedString lines .plain (c :: taken) (a :: b :: after)
          | rest => escapedString lines .plain (c :: taken) rest
        else .ok (taken.reverse, rest)
      else if c = '\\' then escapedString lines .escape taken rest
      else if isIllegal lines c then refuse rest
      else escapedString lines .plain (c :: taken) rest

def literalString (lines : Bool) (t : Text) : Except Refusal (Text × Text) :=
  match Text.splitFirst? (if lines then "'''" else "'") t with
  | none => refuse []
  | some (content, rest) => if content.any (isIllegal lines) then refuse t else .ok (content, rest)

/-- A string over several lines may end in up to two quotes of its own. -/
def extraQuotes (quote : CodePoint) (content rest : Text) : Text × Text :=
  let extra := (rest.takeWhile (· == quote)).take 2
  (content ++ extra, rest.drop extra.length)

def dropBreak : Text → Text
  | [] => []
  | c :: rest => if c = '\n' then rest else c :: rest

def stringAfter (quote : CodePoint) (t : Text) : Except Refusal (Text × Text) :=
  if t.startsWith [quote, quote] then do
    let t := dropBreak (t.drop 2)
    let (content, rest) ←
      if quote = '"' then escapedString true .plain [] t else literalString true t
    return extraQuotes quote content rest
  else if quote = '"' then escapedString false .plain [] t
  else literalString false t

def isBare (c : CodePoint) : Bool :=
  c.isDigit || (0x61 ≤ c.val && c.val ≤ 0x7A) || (0x41 ≤ c.val && c.val ≤ 0x5A) || c = '-' ||
    c = '_'

def keyPart : Text → Except Refusal (Text × Text)
  | [] => refuse []
  | c :: rest =>
    if isBare c then .ok ((c :: rest).takeWhile isBare, (c :: rest).dropWhile isBare)
    else if c = '\'' then literalString false rest
    else if c = '"' then escapedString false .plain [] rest
    else refuse rest

def keyWithin : Nat → Text → Except Refusal (List Text × Text)
  | 0, t => do
    let (part, rest) ← keyPart t
    return ([part], skipBlanks rest)
  | fuel + 1, t => do
    let (part, rest) ← keyPart t
    match skipBlanks rest with
    | [] => return ([part], [])
    | c :: after =>
      if c = '.' then do
        let (parts, rest) ← keyWithin fuel (skipBlanks after)
        return (part :: parts, rest)
      else return ([part], c :: after)

/-- A key stays on its line, which bounds the number of its parts. -/
def key (t : Text) : Except Refusal (List Text × Text) :=
  keyWithin (t.takeWhile (!isBreak ·)).length t

end Fingerprint.Toml
