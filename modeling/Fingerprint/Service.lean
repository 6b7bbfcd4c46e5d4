import Fingerprint.Catalog
import Fingerprint.Record

/-! # The digest service

A service looks an algorithm up in its catalog and hashes data or files with it; files are read in
pieces of one size. The `compute` functions end with an error, the `hash` functions leave nothing
instead of a failure and tell in one record why. `computeFileMany` reads a file once for several
algorithms. -/
set_option autoImplicit false
namespace Fingerprint

namespace Value

def members : Value → Except Fault (List Value)
  | .list vs | .tuple vs | .set vs => .ok vs
  | .dict es | .proxy es => .ok (es.map Prod.fst)
  | .checked s => .ok (s.val.entries.map fun (name, v) => .tuple [name, v])
  | .text t => .ok (t.map fun c => .text [c])
  | .bytes b | .buffer b | .view b _ => .ok (b.map fun x => .int x.toNat)
  | _ => .error .wrongType

end Value

structure Service (η : Type) where
  catalog : Catalog η
  chunkSize : Value

namespace Service
variable {η : Type}

def defaultChunkSize : Int := 8388608

def checkChunkSize (chunkSize : Value) : Except Fault Unit := do
  if ← chunkSize.nonpositive then
    throw ⟨.value, ["chunk_size must be a positive number of bytes"]⟩

def make (catalog : Catalog η) (chunkSize : Value) : Except Fault (Service η) := do
  checkChunkSize chunkSize
  return ⟨catalog, chunkSize⟩

def require (s : Service η) (algorithm : Value) : Except Error (Descriptor η) :=
  s.catalog.require algorithm

def computeData (s : Service η) (algorithm v : Value) : Except Error Text := do
  (← s.require algorithm).computeData v

def computeFile (s : Service η) (sources : Text → Source) (algorithm path : Value) :
    Except Error Text × List FileEvent :=
  match s.require algorithm with
  | .error e => (.error e, [])
  | .ok d => d.computeFile sources path s.chunkSize

/-- The descriptors of a list of algorithms, each once, in the order of their first mention. -/
def requireAll (s : Service η) (found : List (Descriptor η)) :
    List Value → Except Error (List (Descriptor η))
  | [] => .ok found
  | algorithm :: rest => do
    let d ← s.require algorithm
    s.requireAll (if found.any fun f => f.name == d.name then found else found ++ [d]) rest

def newHashers : List (Descriptor η) → Except Error (List (Descriptor η × η))
  | [] => .ok []
  | d :: rest => do
    let h ← d.newHasher
    return (d, h) :: (← newHashers rest)

def updateAll (piece : Value) : List (Descriptor η × η) → Except Error (List (Descriptor η × η))
  | [] => .ok []
  | (d, h) :: rest => do
    let h ← d.update h piece
    return (d, h) :: (← updateAll piece rest)

def finalizeAll : List (Descriptor η × η) → Except Error (List (Text × Text))
  | [] => .ok []
  | (d, h) :: rest => do
    let digest ← d.finalize h
    return (d.name, digest) :: (← finalizeAll rest)

def prepareMany (s : Service η) (path algorithms : Value) :
    Except Error (Text × List (Descriptor η × η)) := do
  let members ← algorithms.members.mapError Error.fault
  let descriptors ← s.requireAll [] members
  let path ← Input.path path
  return (path, ← newHashers descriptors)

def computeFileMany (s : Service η) (sources : Text → Source) (path algorithms : Value) :
    Except Error (List (Text × Text)) × List FileEvent :=
  match s.prepareMany path algorithms with
  | .error e => (.error e, [])
  | .ok (path, hashers) =>
    let (result, events) :=
      consume (sources path) path s.chunkSize (fun hs piece => updateAll piece hs) hashers
    (result >>= finalizeAll, events)

def noResult (call : Text) (subject : Value) (f : Failure) : Record :=
  ⟨.debug, Text.concat [call, "(", subject.shown, ") returned no result: ", f.text]⟩

/-- A failure leaves nothing but a record. -/
def reported {α : Type} (call : Text) (subject : Value) :
    Except Error α → Except Error (Option α × List Record)
  | .ok a => .ok (some a, [])
  | .error (.failure f) => .ok (none, [noResult call subject f])
  | .error e => .error e

def hashData (s : Service η) (algorithm v : Value) : Except Error (Option Text × List Record) :=
  reported "hash_data" algorithm (s.computeData algorithm v)

def hashFile (s : Service η) (sources : Text → Source) (algorithm path : Value) :
    Except Error (Option Text × List Record) × List FileEvent :=
  let (result, events) := s.computeFile sources algorithm path
  (reported "hash_file" algorithm result, events)

def hashFileMany (s : Service η) (sources : Text → Source) (path algorithms : Value) :
    Except Error (Option (List (Text × Text)) × List Record) × List FileEvent :=
  let (result, events) := s.computeFileMany sources path algorithms
  (reported "hash_file_many" algorithms result, events)

end Service
end Fingerprint
