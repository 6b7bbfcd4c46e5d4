import Fingerprint.Text.Basic
import Fingerprint.Text.CaseData

/-! # Letter case

The full case mappings of a text, code point by code point. A mapping may lengthen the text; it
does not look at what stands beside a code point. -/
set_option autoImplicit false
namespace Fingerprint.Text

namespace Case

/-- The row that moves `n`; rows are sorted, so the first one that ends at or after `n` decides. -/
def shift (n : Nat) : List Row → Int
  | [] => 0
  | (first, last, step, by_) :: rest =>
    if last < n then shift n rest
    else if first ≤ n && (n - first) % step == 0 then by_ else 0

def map (rows : List Row) (several : List (Nat × List Nat)) (c : CodePoint) : Text :=
  match several.lookup c.val with
  | some cs => cs.map CodePoint.ofNat
  | none => [CodePoint.ofNat ((c.val : Int) + shift c.val rows).toNat]

end Case

def lower (t : Text) : Text := t.flatMap (Case.map Case.lowerRows Case.lowerSeveral)

def upper (t : Text) : Text := t.flatMap (Case.map Case.upperRows Case.upperSeveral)

end Fingerprint.Text

namespace Fingerprint.Bytes

def lower (b : Bytes) : Bytes := b.map fun x => if 0x41 ≤ x && x ≤ 0x5A then x + 0x20 else x

end Fingerprint.Bytes
