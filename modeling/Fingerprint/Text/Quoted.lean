import Fingerprint.Text.Basic
import Fingerprint.Text.PrintableData

/-! # Quoted literals

How a text or a byte string is shown inside a message. The quote is a single one, unless the
content holds single quotes and no double ones. Whatever does not print is escaped: three controls
by a letter, the rest by two, four or eight hexadecimal digits. -/
set_option autoImplicit false
namespace Fingerprint

def CodePoint.isPrintable (c : CodePoint) : Bool :=
  go c.val Text.printableRanges
where
  go (n : Nat) : List (Nat × Nat) → Bool
    | [] => false
    | (first, last) :: rest => if last < n then go n rest else first ≤ n

namespace Text

/-- A backslash and hexadecimal digits, as many as the code point needs of two, four and eight. -/
def escaped (c : CodePoint) : Text :=
  if c.val < 0x100 then "\\x" ++ ofDigits 16 2 c.val
  else if c.val < 0x10000 then "\\u" ++ ofDigits 16 4 c.val
  else "\\U" ++ ofDigits 16 8 c.val

def quoteFor (single double : Bool) : Char := if single && !double then '"' else '\''

def quotedUnit (quote c : CodePoint) : Text :=
  if c = '\\' || c = quote then ['\\', c]
  else if c = '\t' then "\\t"
  else if c = '\n' then "\\n"
  else if c = '\r' then "\\r"
  else if c.isPrintable then [c]
  else escaped c

def quoted (t : Text) : Text :=
  let quote : CodePoint := quoteFor (t.contains '\'') (t.contains '"')
  [quote] ++ t.flatMap (quotedUnit quote) ++ [quote]

end Text

namespace Bytes

def quotedUnit (always : UInt8 → Bool) (b : UInt8) : Text :=
  let c := CodePoint.ofNat b.toNat
  if always b || c = '\\' then ['\\', c]
  else if c = '\t' then "\\t"
  else if c = '\n' then "\\n"
  else if c = '\r' then "\\r"
  else if 0x20 ≤ b && b < 0x7F then [c]
  else Text.escaped c

/-- The content between its quotes; `always` tells the bytes that take a backslash. -/
def quotedWith (quote : Char) (always : UInt8 → Bool) (b : Bytes) : Text :=
  [(quote : CodePoint)] ++ b.flatMap (quotedUnit always) ++ [(quote : CodePoint)]

def quote (b : Bytes) : Char := Text.quoteFor (b.contains 0x27) (b.contains 0x22)

def quoted (b : Bytes) : Text :=
  quotedWith (quote b) (fun x => x.toNat == (quote b).toNat) b

/-- In the literal of a buffer a single quote is escaped whatever the quote around it. -/
def quotedBuffer (b : Bytes) : Text :=
  quotedWith (quote b) (fun x => x.toNat == (quote b).toNat || x == 0x27) b

def hexDigit (n : Nat) : CodePoint := CodePoint.ofNat (if n < 10 then 0x30 + n else 0x57 + n)

def hex (b : Bytes) : Text := b.flatMap fun x => [hexDigit (x.toNat / 16), hexDigit (x.toNat % 16)]

end Bytes
end Fingerprint
