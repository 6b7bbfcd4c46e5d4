import Fingerprint.Disk.Source
import Fingerprint.Input
import Fingerprint.Strategy.Basic

/-! # Descriptors

A descriptor binds the name of an algorithm to the strategy that carries it out. It guards every
step of the strategy: a fault of the primitive becomes a failure that names the algorithm, and a
digest leaves only in the shape that the algorithm promises. -/
set_option autoImplicit false
namespace Fingerprint

structure Descriptor (η : Type) where
  name : Text
  digestLength : Int
  strategy : Strategy η
  extended : Bool

namespace Value

def length? : Value → Option Nat
  | .text t => some t.length
  | .bytes b | .buffer b | .view b _ => some b.length
  | .list vs | .tuple vs | .set vs => some vs.length
  | .dict es => some es.length
  | _ => none

def nonpositive : Value → Except Fault Bool
  | .bool b => .ok !b
  | .int i => .ok (i ≤ 0)
  | .float x => .ok x.nonpositive
  | _ => .error .wrongType

end Value

namespace Text

def isHexUnit (c : CodePoint) : Bool :=
  c.isDigit || (0x61 ≤ c.val && c.val ≤ 0x66)

/-- Lower-case hexadecimal digits, at least one, to the end of the line: a line feed may end it. -/
def isHexLine (t : Text) : Bool :=
  let digits := t.takeWhile isHexUnit
  let rest := t.dropWhile isHexUnit
  !digits.isEmpty && (rest.isEmpty || rest == "\n")

end Text

namespace Descriptor
variable {η : Type}

def ofStrategy (s : Strategy η) : Descriptor η := ⟨s.name, s.digestLength, s, s.extended⟩

def hexLength (d : Descriptor η) : Int := 2 * d.digestLength

def guarded {α : Type} (d : Descriptor η) (message : Text) : Except Fault α → Except Error α
  | .ok a => .ok a
  | .error f =>
    if f.isFatal then .error (.fault f)
    else .error (.failure (.primitive message d.name [] (some f)))

def newHasher (d : Descriptor η) : Except Error η :=
  d.guarded "Hash primitive unavailable" d.strategy.create

def update (d : Descriptor η) (h : η) (v : Value) : Except Error η :=
  d.guarded "Hash primitive failed during update" (d.strategy.update h v)

def malformed (d : Descriptor η) (length : Nat) : Failure :=
  .primitive "Hash primitive returned a malformed digest" d.name
    [("expected_length", .int d.hexLength), ("actual_length", .int length)] none

/-- Lets a digest through that has the promised length and shape. What has no length, or has it
and is no text, cannot be checked at all. -/
def checked (d : Descriptor η) (digest : Value) : Except Error Text :=
  match digest.length? with
  | none => .error (.fault .wrongType)
  | some n =>
    if (n : Int) ≠ d.hexLength then .error (.failure (d.malformed n))
    else match digest with
      | .text t => if t.isHexLine then .ok t else .error (.failure (d.malformed n))
      | _ => .error (.fault .wrongType)

def finalize (d : Descriptor η) (h : η) : Except Error Text :=
  match d.guarded "Hash primitive failed during finalize" (d.strategy.hexDigest h) with
  | .error e => .error e
  | .ok digest => d.checked digest

def computeData (d : Descriptor η) (v : Value) : Except Error Text := do
  let content ← (Input.data v).mapError Error.failure
  let h ← d.newHasher
  let h ← d.update h content
  d.finalize h

def badChunkSize (size : Value) : Error :=
  .failure ⟨.validation, "chunk_size must be positive", [("chunk_size", size)], none⟩

/-- Everything that is checked before the file is opened. -/
def prepareFile (d : Descriptor η) (path size : Value) : Except Error (Text × η) := do
  let path ← Input.path path
  if ← size.nonpositive.mapError Error.fault then throw (badChunkSize size)
  let h ← d.newHasher
  return (path, h)

/-- Hashes a file in reads of the given size; `sources` tells what stands behind a path. -/
def computeFile (d : Descriptor η) (sources : Text → Source) (path size : Value) :
    Except Error Text × List FileEvent :=
  match d.prepareFile path size with
  | .error e => (.error e, [])
  | .ok (path, h) =>
    let (result, events) := consume (sources path) path size d.update h
    (result >>= d.finalize, events)

end Descriptor

def collapse {α : Type} : Except Error α → Except Error (Option α)
  | .ok a => .ok (some a)
  | .error (.failure _) => .ok none
  | .error e => .error e

namespace Descriptor
variable {η : Type}

def hashData (d : Descriptor η) (v : Value) : Except Error (Option Text) :=
  collapse (d.computeData v)

def hashFile (d : Descriptor η) (sources : Text → Source) (path size : Value) :
    Except Error (Option Text) × List FileEvent :=
  let (result, events) := d.computeFile sources path size
  (collapse result, events)

end Descriptor
end Fingerprint
