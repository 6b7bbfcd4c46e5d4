import Fingerprint.Text.Basic

/-! # UTF-8

`encode?` writes a text and refuses surrogates; `decode?` reads bytes back and refuses everything
that no text is written as. `scan` is the reader underneath: it cuts bytes into code points and
broken pieces, a broken piece being the longest start of a sequence that nothing completes.

Names of files use the escaped form: a byte outside valid UTF-8 stands as one of U+DC80 to U+DCFF.
`encodeEscaped` writes such a text, or tells the first run of surrogates that stands for no byte. -/
set_option autoImplicit false
namespace Fingerprint.Utf8

def unit? (c : CodePoint) : Option Bytes :=
  let n := c.val
  if n < 0x80 then some [.ofNat n]
  else if n < 0x800 then some [.ofNat (0xC0 + n / 64), .ofNat (0x80 + n % 64)]
  else if c.isSurrogate then none
  else if n < 0x10000 then
    some [.ofNat (0xE0 + n / 4096), .ofNat (0x80 + n / 64 % 64), .ofNat (0x80 + n % 64)]
  else
    some [.ofNat (0xF0 + n / 262144), .ofNat (0x80 + n / 4096 % 64), .ofNat (0x80 + n / 64 % 64),
      .ofNat (0x80 + n % 64)]

def encode? (t : Text) : Option Bytes := (t.mapM unit?).map List.flatten

inductive Piece where
  | point (c : CodePoint)
  | broken (bytes : Bytes)
deriving DecidableEq

/-- What a first byte asks for: the bits it gives, the number of further bytes, and the range of
the first of them. -/
def lead? (b : UInt8) : Option (Nat × Nat × UInt8 × UInt8) :=
  let n := b.toNat
  if n < 0x80 then some (n, 0, 0x80, 0xBF)
  else if n < 0xC2 then none
  else if n < 0xE0 then some (n - 0xC0, 1, 0x80, 0xBF)
  else if n < 0xF0 then
    some (n - 0xE0, 2, if n = 0xE0 then 0xA0 else 0x80, if n = 0xED then 0x9F else 0xBF)
  else if n < 0xF5 then
    some (n - 0xF0, 3, if n = 0xF0 then 0x90 else 0x80, if n = 0xF4 then 0x8F else 0xBF)
  else none

/-- Reads `more` further bytes onto `value`; `seen` holds, last first, the bytes read so far. -/
def finish (value : Nat) (seen : Bytes) : Nat → UInt8 → UInt8 → Bytes → Piece × Bytes
  | 0, _, _, rest => (.point (CodePoint.ofNat value), rest)
  | _ + 1, _, _, [] => (.broken seen.reverse, [])
  | more + 1, low, high, b :: rest =>
    if low ≤ b && b ≤ high then
      finish (value * 64 + b.toNat % 64) (b :: seen) more 0x80 0xBF rest
    else (.broken seen.reverse, b :: rest)

theorem length_finish_le (value : Nat) (seen : Bytes) (more : Nat) (low high : UInt8)
    (rest : Bytes) :
    (finish value seen more low high rest).2.length ≤ rest.length := by
  induction more generalizing value seen low high rest with
  | zero => simp [finish]
  | succ more ih =>
    cases rest with
    | nil => simp [finish]
    | cons b rest =>
      simp only [finish]
      split
      · exact Nat.le_succ_of_le (ih ..)
      · simp

def head (b : UInt8) (rest : Bytes) : Piece × Bytes :=
  match lead? b with
  | none => (.broken [b], rest)
  | some (value, more, low, high) => finish value [b] more low high rest

theorem length_head_le (b : UInt8) (rest : Bytes) : (head b rest).2.length ≤ rest.length := by
  unfold head
  split
  · simp
  · exact length_finish_le ..

def scanOnto (pieces : List Piece) : Bytes → List Piece
  | [] => pieces.reverse
  | b :: rest => scanOnto ((head b rest).1 :: pieces) (head b rest).2
termination_by bytes => bytes.length
decreasing_by exact Nat.lt_succ_of_le (length_head_le b rest)

def scan (bytes : Bytes) : List Piece := scanOnto [] bytes

def decode? (bytes : Bytes) : Option Text :=
  (scan bytes).mapM fun
    | .point c => some c
    | .broken _ => none

/-- The text of a name: a byte outside valid UTF-8 becomes U+DC00 plus the byte. -/
def decodeEscaped (bytes : Bytes) : Text :=
  (scan bytes).flatMap fun
    | .point c => [c]
    | .broken bs => bs.map fun b => CodePoint.ofNat (0xDC00 + b.toNat)

/-- Every broken piece becomes one replacement character. -/
def decodeReplacing (bytes : Bytes) : Text :=
  (scan bytes).map fun
    | .point c => c
    | .broken _ => CodePoint.ofNat 0xFFFD

def isEscape (c : CodePoint) : Bool := 0xDC80 ≤ c.val && c.val ≤ 0xDCFF

/-- A run of code points that cannot be encoded: its first one, its offset and its length. -/
structure Unencodable where
  first : CodePoint
  offset : Nat
  count : Nat
deriving DecidableEq

/-- The first run of surrogates that `allowed` does not excuse. The run starts at its first
unexcused member and lasts as long as surrogates follow. -/
def unencodable? (allowed : CodePoint → Bool) (offset : Nat) : Text → Option Unencodable
  | [] => none
  | c :: rest =>
    if c.isSurrogate && !allowed c then
      some ⟨c, offset, 1 + (rest.takeWhile CodePoint.isSurrogate).length⟩
    else unencodable? allowed (offset + 1) rest

def unitEscaped (c : CodePoint) : Bytes :=
  if isEscape c then [.ofNat (c.val - 0xDC00)] else (unit? c).getD []

def encodeEscaped (t : Text) : Except Unencodable Bytes :=
  match unencodable? isEscape 0 t with
  | some run => .error run
  | none => .ok (t.flatMap unitEscaped)

end Fingerprint.Utf8
