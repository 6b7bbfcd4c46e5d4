import Fingerprint.FaultKind
import Fingerprint.Moment
import Fingerprint.Number.Binary64
import Fingerprint.Settings.Parts

/-! # Values

Callers hand over values of any type, configuration files and environment variables hold tables of
them, and messages show them. One type covers all: the plain data, the byte containers, the
collections, sections of the settings, paths, and objects of which only the name of the type is
known. -/
set_option autoImplicit false
namespace Fingerprint

inductive Value where
  | null
  | bool (b : Bool)
  | int (i : Int)
  | float (x : Binary64)
  | text (t : Text)
  | bytes (b : Bytes)
  | buffer (b : Bytes)
  /-- A window on a buffer: its bytes in order, and whether they lie next to each other. -/
  | view (b : Bytes) (contiguous : Bool)
  | list (items : List Value)
  | tuple (items : List Value)
  | set (items : List Value)
  | dict (entries : List (Value × Value))
  /-- A view on a dictionary: a mapping that is no dictionary itself. -/
  | proxy (entries : List (Value × Value))
  | checked (s : Settings.CheckedSection)
  | path (t : Text)
  /-- An object of the named type that stands for a path and resolves to the given value. -/
  | pathLike (typeName : Text) (resolved : Value)
  | object (typeName : Text)
  /-- An object of the named type that raises a fault when its text is asked for. -/
  | mute (typeName : Text) (kind : FaultKind) (details : List Value)
  | type (name : Text)
  | moment (m : Moment)
deriving Inhabited

namespace Value

instance : Coe Text Value := ⟨.text⟩

instance : Coe String Value := ⟨fun s => .text (Text.ofString s)⟩

instance : Coe Int Value := ⟨.int⟩

def typeName : Value → Text
  | null => "NoneType"
  | bool _ => "bool"
  | int _ => "int"
  | float _ => "float"
  | text _ => "str"
  | bytes _ => "bytes"
  | buffer _ => "bytearray"
  | view .. => "memoryview"
  | list _ => "list"
  | tuple _ => "tuple"
  | set _ => "set"
  | dict _ => "dict"
  | proxy _ => "mappingproxy"
  | checked ⟨.digest _, _⟩ => "DigestConfig"
  | checked ⟨.logging _, _⟩ => "LoggingConfig"
  | path _ => "PosixPath"
  | pathLike name _ | object name | mute name .. => name
  | type _ => "type"
  | moment (.day _) => "date"
  | moment (.time _) => "time"
  | moment _ => "datetime"

/-- Whether the value counts as present: zero, nothing and everything empty do not. -/
def isTrue : Value → Bool
  | null => false
  | bool b => b
  | int i => i != 0
  | float x => !x.isZero
  | text t => !t.isEmpty
  | bytes b | buffer b | view b _ => !b.isEmpty
  | list vs | tuple vs | set vs => !vs.isEmpty
  | dict es | proxy es => !es.isEmpty
  | _ => true

def content? : Value → Option Bytes
  | bytes b | buffer b | view b _ => some b
  | _ => none

/-- An end of file: a byte container without bytes. -/
def isEmptyBytes (v : Value) : Bool := v.content? == some []

def text? : Value → Option Text
  | text t => some t
  | _ => none

/-- The number that a key stands for: truth values count as one and zero. -/
def number? : Value → Option Int
  | bool b => some (if b then 1 else 0)
  | int i => some i
  | float x => x.toInt?
  | _ => none

mutual

/-- Whether two keys are the same key: numbers agree across their types, as do byte containers. -/
def agrees : Value → Value → Bool
  | null, null => true
  | text a, text b => a == b
  | path a, path b => a == b
  | tuple as, tuple bs => agreesAll as bs
  | type a, type b => a == b
  | moment a, moment b => a == b
  | a, b =>
    match a.number?, b.number? with
    | some i, some j => i == j
    | _, _ =>
      match a, b with
      | float x, float y => x == y && x != .nan
      | a, b => match a.content?, b.content? with
        | some x, some y => x == y
        | _, _ => false

def agreesAll : List Value → List Value → Bool
  | [], [] => true
  | a :: as, b :: bs => agrees a b && agreesAll as bs
  | _, _ => false

end

def isKey : Value → Bool
  | list _ | set _ | dict _ | proxy _ | checked _ | buffer _ => false
  | tuple vs => allKeys vs
  | _ => true
where
  allKeys : List Value → Bool
    | [] => true
    | v :: vs => isKey v && allKeys vs

end Value

/-- A dictionary in the order in which its keys first came. -/
abbrev Entries := List (Value × Value)

namespace Entries

def get? (key : Text) : Entries → Option Value
  | [] => none
  | (k, v) :: rest => if k.text? = some key then some v else get? key rest

def names (es : Entries) : List Text := es.filterMap fun entry => entry.1.text?

/-- Writes a value in the place of its key, or at the end when the key is new. -/
def put (key v : Value) : Entries → Entries
  | [] => [(key, v)]
  | (k, w) :: rest => if k.agrees key then (k, v) :: rest else (k, w) :: put key v rest

def ofPairs (pairs : List (Value × Value)) : Entries :=
  pairs.foldl (fun es (k, v) => put k v es) []

end Entries

namespace Settings

def DigestSection.entries (s : DigestSection) : Entries :=
  [(.text "extended", .bool s.extended), (.text "chunk_size", .int s.chunkSize)]

def LoggingSection.entries (s : LoggingSection) : Entries :=
  [(.text "level", .text s.level.name), (.text "console", .bool s.console),
    (.text "file", .bool s.file)]

def Section.entries : Section → Entries
  | digest s => s.entries
  | logging s => s.entries

end Settings

/-- The members of a set in the order in which they first came. -/
def Value.distinct (vs : List Value) : List Value :=
  vs.foldl (fun kept v => if kept.any (·.agrees v) then kept else kept ++ [v]) []

end Fingerprint
