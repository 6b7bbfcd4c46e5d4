/-! # Text

A text is a sequence of code points. Unpaired surrogates are allowed, because names of files and
command-line arguments may hold them; every other module speaks of names, messages and paths
through this type. Character and string literals coerce to it. -/
set_option autoImplicit false
namespace Fingerprint

abbrev CodePoint := Fin 0x110000

abbrev Text := List CodePoint

abbrev Bytes := List UInt8

namespace CodePoint

def ofChar (c : Char) : CodePoint :=
  ⟨c.val.toNat, by
    rcases c.valid with h | ⟨_, h⟩
    · exact Nat.lt_trans h (by decide)
    · exact h⟩

instance : Coe Char CodePoint := ⟨ofChar⟩

/-- A number outside the code space stands for U+0000. -/
def ofNat (n : Nat) : CodePoint := if h : n < 0x110000 then ⟨n, h⟩ else 0

def isSurrogate (c : CodePoint) : Bool := 0xD800 ≤ c.val && c.val ≤ 0xDFFF

def isDigit (c : CodePoint) : Bool := 0x30 ≤ c.val && c.val ≤ 0x39

/-- The value of an ASCII digit; other code points count as zero. -/
def digitValue (c : CodePoint) : Nat := if c.isDigit then c.val - 0x30 else 0

end CodePoint

namespace Text

def ofString (s : String) : Text := s.toList.map CodePoint.ofChar

instance : Coe String Text := ⟨ofString⟩

def ofNat (n : Nat) : Text := (Nat.toDigits 10 n).map CodePoint.ofChar

def ofInt : Int → Text
  | .ofNat n => ofNat n
  | .negSucc n => ofString "-" ++ ofNat (n + 1)

def concat (parts : List Text) : Text := parts.flatten

def join (separator : Text) : List Text → Text
  | [] => []
  | [t] => t
  | t :: u :: rest => t ++ separator ++ join separator (u :: rest)

def startsWith (t start : Text) : Bool := start.isPrefixOf t

def endsWith (t tail : Text) : Bool := tail.isSuffixOf t

/-- The order of code points, of two texts of which one begins the other the shorter first. -/
def comesBefore : Text → Text → Bool
  | [], _ => true
  | _ :: _, [] => false
  | a :: t, b :: u => a.val < b.val || (a == b && comesBefore t u)

def splitFirst? (separator : Text) : Text → Option (Text × Text)
  | [] => if separator = [] then some ([], []) else none
  | c :: rest =>
    if separator.isPrefixOf (c :: rest) then some ([], (c :: rest).drop separator.length)
    else (splitFirst? separator rest).map fun (before, after) => (c :: before, after)

def splitAt (mark : CodePoint) : Text → List Text
  | [] => [[]]
  | c :: rest =>
    if c = mark then [] :: splitAt mark rest
    else match splitAt mark rest with
      | [] => [[c]]
      | piece :: pieces => (c :: piece) :: pieces

def padLeft (mark : CodePoint) (width : Nat) (t : Text) : Text :=
  List.replicate (width - t.length) mark ++ t

def padRight (mark : CodePoint) (width : Nat) (t : Text) : Text :=
  t ++ List.replicate (width - t.length) mark

/-- The digits of `n` in a base up to sixteen, lower case, at least `width` of them. -/
def ofDigits (base width n : Nat) : Text :=
  padLeft '0' width ((Nat.toDigits base n).map CodePoint.ofChar)

def natOfDigits (t : Text) : Nat := t.foldl (fun n c => 10 * n + c.digitValue) 0

/-- The text as a string, unless it holds a surrogate. -/
def toString? (t : Text) : Option String :=
  if t.any CodePoint.isSurrogate then none
  else some (String.ofList (t.map fun c => Char.ofNat c.val))

end Text

def hexValue? (c : CodePoint) : Option Nat :=
  if c.isDigit then some (c.val - 0x30)
  else if 0x61 ≤ c.val && c.val ≤ 0x66 then some (c.val - 0x57)
  else if 0x41 ≤ c.val && c.val ≤ 0x46 then some (c.val - 0x37)
  else none

end Fingerprint
