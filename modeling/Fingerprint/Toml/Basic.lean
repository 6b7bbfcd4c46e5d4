import Fingerprint.Value.Basic

/-! # TOML: refusals, blanks and comments

A reader takes a part off the front of a text and leaves the rest. It refuses a text that is not
TOML at the place where it stops, and besides a nesting or a number that goes beyond a limit. -/
set_option autoImplicit false
namespace Fingerprint.Toml

inductive Refusal where
  /-- Not TOML; `left` code points had not been read. -/
  | malformed (left : Nat)
  | tooDeep
  | tooManyDigits (count : Nat)
deriving DecidableEq

def refuse {α : Type} (rest : Text) : Except Refusal α := .error (.malformed rest.length)

def isBlank (c : CodePoint) : Bool := c = ' ' || c = '\t'

def isBreak (c : CodePoint) : Bool := c = '\n'

def isBlankOrBreak (c : CodePoint) : Bool := isBlank c || isBreak c

def skipBlanks (t : Text) : Text := t.dropWhile isBlank

/-- The controls that stand nowhere; a line feed among them only where lines may not break. -/
def isIllegal (breaks : Bool) (c : CodePoint) : Bool :=
  (c.val < 0x20 || c.val = 0x7F) && c ≠ '\t' && !(breaks && isBreak c)

def skipComment : Text → Except Refusal Text
  | [] => .ok []
  | c :: rest =>
    if c = '#' then
      if (rest.takeWhile (!isBreak ·)).any (isIllegal false) then refuse rest
      else .ok (rest.dropWhile (!isBreak ·))
    else .ok (c :: rest)

/-- Drops what may stand between the members of an array: at most `fuel` lines of blanks, breaks
and comments. -/
def skipLinesWithin : Nat → Text → Except Refusal Text
  | 0, t => .ok t
  | fuel + 1, t => do
    let rest ← skipComment (t.dropWhile isBlankOrBreak)
    if rest.length = t.length then return rest
    skipLinesWithin fuel rest

def skipLines (t : Text) : Except Refusal Text := skipLinesWithin (t.length + 1) t

end Fingerprint.Toml
