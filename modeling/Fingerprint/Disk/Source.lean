import Fingerprint.Failure

/-! # Reading a file

A source is what stands behind a path when it is opened for reading: a refusal, a stored content,
or replies fixed in advance. `consume` reads a source piece by piece into a state until the first
empty reply, a fault, or a piece that the state does not take; it tells the events as well: one
opening, one read for every reply asked for, and one closing once the source was open. -/
set_option autoImplicit false
namespace Fingerprint

inductive FileEvent where
  | opened (path mode : Text)
  | read (size : Value)
  | closed

inductive Reply where
  | data (v : Value)
  | fault (f : Fault)

inductive Source where
  | refused (f : Fault)
  | stored (content : Bytes)
  | scripted (replies : List Reply)

namespace Source

/-- The pieces of `size + 1` bytes, the last one shorter, in reverse onto `pieces`. -/
def piecesOnto (size : Nat) (pieces : List Bytes) : Bytes → List Bytes
  | [] => pieces
  | b :: rest => piecesOnto size ((b :: rest.take size) :: pieces) (rest.drop size)
termination_by content => content.length
decreasing_by simp only [List.length_drop, List.length_cons]; omega

def pieces (size : Nat) (content : Bytes) : List Bytes :=
  match size with
  | 0 => []
  | n + 1 => (piecesOnto n [] content).reverse

/-- What a read gives is an object with a header of 33 bytes, whose size fits a machine word. -/
def readLimit : Int := 0x8000000000000000 - 33

def readSize : Value → Except Fault Nat
  | .bool b => .ok (if b then 1 else 0)
  | .int i => if readLimit ≤ i then .error ⟨.overflow, []⟩ else .ok i.toNat
  | _ => .error .wrongType

/-- What successive reads give; after the last of them every read is empty. -/
def replies (size : Value) : Source → List Reply
  | refused _ => []
  | stored content =>
    match readSize size with
    | .error f => [.fault f]
    | .ok n => (pieces n content).map fun b => .data (.bytes b)
  | scripted rs => rs

end Source

section
variable {σ : Type}

/-- Takes replies in until the first empty one; the number of reads comes with the result. -/
def feed (step : σ → Value → Except Error σ) (s : σ) (reads : Nat) :
    List Reply → Except Error σ × Nat
  | [] => (.ok s, reads + 1)
  | .fault f :: _ => (.error (.fault f), reads + 1)
  | .data v :: rest =>
    if v.isEmptyBytes then (.ok s, reads + 1)
    else match step s v with
      | .error e => (.error e, reads + 1)
      | .ok s => feed step s (reads + 1) rest

/-- A fault of the file itself becomes a failure that carries the path. -/
def Error.aboutFile (path : Text) : Error → Error
  | .fault f => if f.isFileFault then .failure (.unreadable (.text path) f) else .fault f
  | e => e

def consume (source : Source) (path : Text) (size : Value) (step : σ → Value → Except Error σ)
    (s : σ) : Except Error σ × List FileEvent :=
  match source with
  | .refused f => (.error (Error.aboutFile path (.fault f)), [.opened path "rb"])
  | _ =>
    let (result, reads) := feed step s 0 (source.replies size)
    (result.mapError (Error.aboutFile path),
      .opened path "rb" :: (List.replicate reads (.read size) ++ [.closed]))

end
end Fingerprint
