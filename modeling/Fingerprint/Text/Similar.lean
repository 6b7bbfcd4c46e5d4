import Fingerprint.Text.Basic

/-! # Similar words

How alike two words are: the longest run that both contain, and then the same on either side of it,
taken together and set against the length of both. It serves to suggest a known word in place of an
unknown one. -/
set_option autoImplicit false
namespace Fingerprint.Text

def commonStart : Text → Text → Nat
  | a :: as, b :: bs => if a = b then commonStart as bs + 1 else 0
  | _, _ => 0

structure Run where
  left : Nat
  right : Nat
  length : Nat
deriving DecidableEq

def longestFrom (a : Text) (left : Nat) (best : Run) (right : Nat) : Text → Run
  | [] => best
  | c :: rest =>
    let n := commonStart a (c :: rest)
    longestFrom a left (if best.length < n then ⟨left, right, n⟩ else best) (right + 1) rest

/-- The longest common run; of several the one that starts first in `a`, then first in `b`. -/
def longestRun (b : Text) (left : Nat) (best : Run) : Text → Run
  | [] => best
  | c :: rest => longestRun b (left + 1) (longestFrom (c :: rest) left best 0 b) rest

/-- The number of code points in common runs, at most `fuel` of them deep. -/
def sharedWithin : Nat → Text → Text → Nat
  | 0, _, _ => 0
  | fuel + 1, a, b =>
    let run := longestRun b 0 ⟨0, 0, 0⟩ a
    if run.length = 0 then 0
    else sharedWithin fuel (a.take run.left) (b.take run.right) + run.length +
      sharedWithin fuel (a.drop (run.left + run.length)) (b.drop (run.right + run.length))

def shared (a b : Text) : Nat := sharedWithin (a.length + 1) a b

/-- Whether at least three fifths of both words together are shared. -/
def isSimilar (a b : Text) : Bool := 3 * (a.length + b.length) ≤ 5 * (2 * shared a b)

def similar (known : List Text) (word : Text) : List Text := known.filter fun k => isSimilar k word

end Fingerprint.Text
