import Fingerprint.Number.Shortest
import Fingerprint.Value.Basic

/-! # Writing JSON

Writes a value on one line and in ASCII: quotes, backslashes, controls and everything beyond ASCII
are escaped, the code points above U+FFFF as surrogate pairs. Numbers are written so that they read
back as they are. Only plain data has a JSON form: the keys of its dictionaries are texts, and it
holds no bytes, sets or objects. -/
set_option autoImplicit false
namespace Fingerprint.Json

def escapedUnit (n : Nat) : Text := "\\u" ++ Text.ofDigits 16 4 n

/-- The two halves of a surrogate pair for a code point above U+FFFF. -/
def surrogates (n : Nat) : Nat × Nat :=
  (0xD800 + (n - 0x10000) / 0x400, 0xDC00 + (n - 0x10000) % 0x400)

def printUnit (c : CodePoint) : Text :=
  if c = '"' || c = '\\' then ['\\', c]
  else if 0x20 ≤ c.val && c.val < 0x7F then [c]
  else if c.val < 0x10000 then escapedUnit c.val
  else
    let (high, low) := surrogates c.val
    escapedUnit high ++ escapedUnit low

def printText (t : Text) : Text := Text.concat ["\"", t.flatMap printUnit, "\""]

def printFloat : Binary64 → Text
  | .nan => "NaN"
  | .infinite negative => if negative then "-Infinity" else "Infinity"
  | x => x.text

mutual

def print? : Value → Option Text
  | .null => some "null"
  | .bool b => some (if b then "true" else "false")
  | .int i => some (Text.ofInt i)
  | .float x => some (printFloat x)
  | .text t => some (printText t)
  | .list vs => (printMembers? vs).map fun parts => Text.concat ["[", Text.join "," parts, "]"]
  | .dict es =>
    (printEntries? es).map fun parts => Text.concat ["\x7b", Text.join "," parts, "\x7d"]
  | _ => none

def printMembers? : List Value → Option (List Text)
  | [] => some []
  | v :: rest => return (← print? v) :: (← printMembers? rest)

def printEntries? : List (Value × Value) → Option (List Text)
  | [] => some []
  | (.text name, v) :: rest => do
    let entry := Text.concat [printText name, ":", ← print? v]
    return entry :: (← printEntries? rest)
  | _ => none

end

end Fingerprint.Json
