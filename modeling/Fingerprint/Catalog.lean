import Fingerprint.Descriptor
import Fingerprint.Strategy.Hasher
import Fingerprint.Value.Rendered

/-! # Catalogs

A catalog binds names to descriptors, in the order in which their strategies were given and without
a name twice. It is filled once and never changes. -/
set_option autoImplicit false
namespace Fingerprint

structure Catalog (η : Type) where
  /-- The setting that chose the algorithms, as it was given. -/
  extended : Value
  descriptors : List (Descriptor η)

namespace Catalog
variable {η : Type}

def names (c : Catalog η) : List Text := c.descriptors.map Descriptor.name

def register (descriptors : List (Descriptor η)) :
    List (Strategy η) → Except Failure (List (Descriptor η))
  | [] => .ok descriptors
  | s :: rest =>
    if descriptors.any fun d => d.name == s.name then .error (.duplicateAlgorithm s.name)
    else register (descriptors ++ [.ofStrategy s]) rest

/-- A strategy as it is handed over: its name is a text, or a value that cannot be a key. -/
inductive Offer (η : Type) where
  | named (s : Strategy η)
  | unnamed

def registerOffers (descriptors : List (Descriptor η)) :
    List (Offer η) → Except Error (List (Descriptor η))
  | [] => .ok descriptors
  | .unnamed :: _ => .error (.fault .wrongType)
  | .named s :: rest =>
    match register descriptors [s] with
    | .error f => .error (.failure f)
    | .ok ds => registerOffers ds rest

def ofOffers (extended : Value) (offers : List (Offer η)) : Except Error (Catalog η) :=
  (registerOffers [] offers).map fun ds => ⟨extended, ds⟩

def find? (c : Catalog η) (name : Text) : Option (Descriptor η) :=
  c.descriptors.find? fun d => d.name == name

/-- Only a text can name an algorithm. -/
def get? (c : Catalog η) : Value → Option (Descriptor η)
  | .text name => c.find? name
  | _ => none

/-- The error for an algorithm that is not there names it by its text, which has to be built. -/
def require (c : Catalog η) (algorithm : Value) : Except Error (Descriptor η) :=
  match c.get? algorithm with
  | some d => .ok d
  | none =>
    match algorithm.rendered with
    | .ok name => .error (.failure (.unknownAlgorithm name c.names))
    | .error f => .error (.fault f)

def contains (c : Catalog η) (algorithm : Value) : Bool := (c.get? algorithm).isSome

def size (c : Catalog η) : Nat := c.descriptors.length

/-- A loop over a catalog visits its descriptors in their order. -/
instance {m : Type → Type} [Monad m] : ForIn m (Catalog η) (Descriptor η) where
  forIn c start visit := forIn c.descriptors start visit

/-- Name, length of the digest in bytes, and whether the algorithm is an extended one. -/
def rows (c : Catalog η) : List (Text × Int × Bool) :=
  c.descriptors.map fun d => (d.name, d.digestLength, d.extended)

def rendered (c : Catalog η) : Except Fault Text :=
  c.extended.rendered.map fun extended =>
    Text.concat ["AlgorithmCatalog(extended=", extended, ", names=",
      (Value.list (c.names.map .text)).literal, ")"]

def algorithms (extended : Value) : List Hash.Algorithm :=
  Hash.Algorithm.core ++ if extended.isTrue then Hash.Algorithm.further else []

/-- The catalog of the standard algorithms, with `faults` for those that cannot be started. -/
def standard (faults : List (Hash.Algorithm × Fault)) (extended : Value) : Catalog Hasher :=
  ⟨extended, (algorithms extended).map fun a =>
    .ofStrategy (match faults.lookup a with
      | some fault => Strategy.unavailable a fault
      | none => Strategy.ofAlgorithm a)⟩

end Catalog
end Fingerprint
