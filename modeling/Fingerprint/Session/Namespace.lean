import Fingerprint.Session.Hashing
import Fingerprint.Session.Start

/-! # Functions by name

Every algorithm of a catalog is offered under two names: its own, for data, and with an ending for
files. The functions that the program offers as a whole follow from settings that are loaded once;
besides them there are functions that take the algorithm as an argument. -/
set_option autoImplicit false
namespace Fingerprint

inductive Subject where
  | data
  | file
deriving DecidableEq

structure NamedFunction where
  algorithm : Text
  subject : Subject
deriving DecidableEq

namespace NamedFunction

def name (f : NamedFunction) : Text :=
  match f.subject with
  | .data => f.algorithm
  | .file => f.algorithm ++ "_file"

def doc (f : NamedFunction) : Text :=
  match f.subject with
  | .data =>
    Text.concat ["Return the ", f.algorithm.upper,
      " digest of data (bytes-like or str) as lowercase hex.\n\n",
      "Returns None if data is not bytes-like or str."]
  | .file =>
    Text.concat ["Return the ", f.algorithm.upper,
      " digest of the file at path as lowercase hex.\n\n",
      "Returns None if path is not a str path or the file cannot be read."]

end NamedFunction

/-- Functions by their names, each name once. -/
abbrev Namespace := List (Text × NamedFunction)

namespace Namespace

def put (f : NamedFunction) : Namespace → Namespace
  | [] => [(f.name, f)]
  | (n, g) :: rest => if n = f.name then (n, f) :: rest else (n, g) :: put f rest

/-- The functions for data, and after them those for files. -/
def ofAlgorithms (names : List Text) : Namespace :=
  let functions := names.map (⟨·, .data⟩) ++ names.map (⟨·, .file⟩)
  functions.foldl (fun kept f => put f kept) []

def names (n : Namespace) : List Text := n.map Prod.fst

def find? (n : Namespace) (name : Text) : Option NamedFunction := n.lookup name

end Namespace

namespace Session

def namespaceOf (service : Instance) : Except Fault Namespace :=
  (serviceOf service).map fun (s, _) => .ofAlgorithms s.catalog.names

def callNamed (service : Instance) (f : NamedFunction) (args : List Value) :
    Action (Option Text) :=
  match args with
  | [v] =>
    match f.subject with
    | .data => hashData service (.text f.algorithm) v
    | .file => hashFile service (.text f.algorithm) v
  | _ => Action.fail .wrongType

end Session

structure PublicNames where
  catalog : Catalog Hasher
  service : Instance
  functions : Namespace

namespace PublicNames

def version : Text := "0.1.0"

def general : List Text :=
  ["CATALOG", "EXTENDED", "available_algorithms", "build_namespace", "hash_data", "hash_file"]

def all (p : PublicNames) : List Text := general ++ p.functions.names ++ [("__version__" : Text)]

def load : Action PublicNames := do
  let s ← Session.loadSettings none .null false
  let catalog := Catalog.standard (← get).faults (.bool s.digest.extended)
  let held ← Session.newObject fun n => .catalog n catalog
  let service ← Session.newService held (.int s.digest.chunkSize) .nothing
  return ⟨catalog, service, ← Action.ofFault (Session.namespaceOf service)⟩

def textOrNull : Option Text → Value
  | some t => .text t
  | none => .null

def call (p : PublicNames) (name : Text) (args : List Value) : Action Value :=
  if name = "hash_data" then
    match args with
    | [algorithm, v] => return textOrNull (← Session.hashData p.service algorithm v)
    | _ => Action.fail .wrongType
  else if name = "hash_file" then
    match args with
    | [algorithm, path] => return textOrNull (← Session.hashFile p.service algorithm path)
    | _ => Action.fail .wrongType
  else if name = "available_algorithms" then
    if args.isEmpty then return .list (p.catalog.names.map .text) else Action.fail .wrongType
  else match p.functions.find? name with
    | some f => return textOrNull (← Session.callNamed p.service f args)
    | none =>
      if name = "build_namespace" && args.length = 1 then Action.fail .noAttribute
      else if p.all.contains name then Action.fail .wrongType
      else Action.fail .noAttribute

def builderDoc : Text :=
  Text.concat ["\n    Map each catalog algorithm to its data and file functions.\n\n    Args:\n",
    "        service: Dispatcher whose catalog decides which names exist\n\n    Returns:\n",
    "        Dict with ``<name>`` entries followed by ``<name>_file`` entries,\n",
    "        in catalog order.\n    "]

def describe (p : PublicNames) (name : Text) : Option (Text × Text) :=
  if name = "hash_data" then
    some (name, "Digest in-memory data with the named algorithm; None on any failure.")
  else if name = "hash_file" then
    some (name, "Digest a file with the named algorithm; None on any failure.")
  else if name = "available_algorithms" then
    some (name, "Names of the algorithms this process exposes.")
  else if name = "build_namespace" then some (name, builderDoc)
  else (p.functions.find? name).map fun f => (f.name, f.doc)

end PublicNames
end Fingerprint
