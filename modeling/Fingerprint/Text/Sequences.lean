import Fingerprint.Text.Basic

/-! # Escape sequences

A terminal takes an escape character, an opening bracket, parameters and a letter for a command.
Output that goes to no terminal is written without such sequences. They are sought from left to
right, and what stands around one is not read again: it may come together to a new sequence. -/
set_option autoImplicit false
namespace Fingerprint

namespace CodePoint

def escape : CodePoint := .ofNat 0x1B

/-- Digits, semicolons and question marks. -/
def isParameter (c : CodePoint) : Bool := c.isDigit || c = ';' || c = '?'

def isLetter (c : CodePoint) : Bool :=
  (0x41 ≤ c.val && c.val ≤ 0x5A) || (0x61 ≤ c.val && c.val ≤ 0x7A)

end CodePoint

namespace Text
open CodePoint

/-- `held` is what has been read of a sequence that is not over. -/
def sift (held : Text) : Text → Text
  | [] => held
  | c :: rest =>
    if c = escape then held ++ sift [escape] rest
    else match held with
      | [] => c :: sift [] rest
      | [_] => if c = '[' then sift [escape, '['] rest else held ++ c :: sift [] rest
      | _ =>
        if c.isParameter then sift (held ++ [c]) rest
        else if c.isLetter then sift [] rest
        else held ++ c :: sift [] rest

def withoutSequences (t : Text) : Text := sift [] t

end Text
end Fingerprint
