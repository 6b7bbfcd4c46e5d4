import Fingerprint.Disk.Path
import Fingerprint.Disk.Source
import Fingerprint.Fault

/-! # The disk

Files and directories by the names on their way from the root; names are bytes. Looking a path up
follows it part by part: two dots lead back, and whatever stands before a slash has to be a
directory. Each way to fail is a system fault on the path as it was given. -/
set_option autoImplicit false
namespace Fingerprint

inductive DiskEntry where
  | file (content : Bytes)
  | directory

/-- The names from the root to an entry. -/
abbrev Location := List Bytes

structure Disk where
  entries : List (Location × DiskEntry)

/-- Where a path leads: to an entry, or to a free name in a directory. -/
inductive Lookup where
  | found (place : Location) (entry : DiskEntry)
  | free (place : Location)

namespace Disk

def empty : Disk := ⟨[]⟩

def get? (d : Disk) : Location → Option DiskEntry
  | [] => some .directory
  | l => d.entries.lookup l

def put (d : Disk) (l : Location) (e : DiskEntry) : Disk :=
  if d.entries.any (·.1 == l) then
    ⟨d.entries.map fun (k, v) => if k == l then (k, e) else (k, v)⟩
  else ⟨d.entries ++ [(l, e)]⟩

def erase (d : Disk) (l : Location) : Disk := ⟨d.entries.filter fun (k, _) => k != l⟩

def splitSlash : Bytes → List Bytes
  | [] => [[]]
  | b :: rest =>
    if b = 0x2F then [] :: splitSlash rest
    else match splitSlash rest with
      | [] => [[b]]
      | part :: parts => (b :: part) :: parts

/-- Follows the parts of a path from a location. `mustBeDirectory` tells that a slash ends it. -/
def walk (d : Disk) (path : Text) (here : Location) : List Bytes → Except Fault Lookup
  | [] => match d.get? here with
    | some e => .ok (.found here e)
    | none => .error (.notFound path)
  | part :: rest =>
    match d.get? here with
    | none => .error (.notFound path)
    | some (.file _) => .error (.notDirectory path)
    | some .directory =>
      if part = [] || part = [0x2E] then walk d path here rest
      else if part = [0x2E, 0x2E] then walk d path here.dropLast rest
      else if 255 < part.length then .error (.nameTooLong path)
      else
        let there := here ++ [part]
        match d.get? there, rest with
        | none, [] => .ok (.free there)
        | none, _ => .error (.notFound path)
        | some _, _ => walk d path there rest

/-- The bytes of a path, when a system call can take it. -/
def pathBytes (path : Text) : Except Fault Bytes :=
  match Utf8.encodeEscaped path with
  | .error run => .error (.unencodable run)
  | .ok bytes => if bytes.contains 0 then .error .nulByte else .ok bytes

def locationOf (path : Path) : Location := path.parts.map fun part => part.flatMap Utf8.unitEscaped

def lookup (d : Disk) (cwd : Path) (path : Text) : Except Fault Lookup := do
  let bytes ← pathBytes path
  if bytes.isEmpty then throw (.notFound path)
  if 4095 < bytes.length then throw (.nameTooLong path)
  d.walk path (if bytes.head? = some 0x2F then [] else locationOf cwd) (splitSlash bytes)

def source (d : Disk) (cwd : Path) (path : Text) : Source :=
  match d.lookup cwd path with
  | .error f => .refused f
  | .ok (.found _ (.file content)) => .stored content
  | .ok (.found _ .directory) => .refused (.isDirectory path)
  | .ok (.free _) => .refused (.notFound path)

/-- Whether something is there. A path that leads nowhere, or that no system call can take, leads
to nothing; any other fault stays one. -/
def exists? (d : Disk) (cwd : Path) (path : Text) : Except Fault Bool :=
  match d.lookup cwd path with
  | .ok (.found ..) => .ok true
  | .ok (.free _) => .ok false
  | .error f =>
    if f.kind = .notFound || f.kind = .notDirectory || f.kind.isValue then .ok false else .error f

def isDirectory (d : Disk) (cwd : Path) (path : Text) : Bool :=
  match d.lookup cwd path with
  | .ok (.found _ .directory) => true
  | _ => false

def makeDirectory (d : Disk) (cwd : Path) (path : Text) : Except Fault Disk := do
  match ← d.lookup cwd path with
  | .found .. => throw (.fileExists path)
  | .free l => return d.put l .directory

/-- Makes a directory that may be there already, and its ancestors where they are missing. The
directories that were made stay when a later one cannot be made. -/
def makeDirectories (d : Disk) (cwd : Path) (root : Text) : List Text → Disk × Option Fault
  | [] => (d, none)
  | part :: ancestors =>
    let path := (Path.mk root (part :: ancestors).reverse).text
    let orPresent (d : Disk) : Except Fault Disk → Disk × Option Fault
      | .ok d => (d, none)
      | .error f => (d, if d.isDirectory cwd path then none else some f)
    match d.makeDirectory cwd path with
    | .ok d => (d, none)
    | .error f =>
      if f.kind = .notFound then
        match d.makeDirectories cwd root ancestors with
        | (d, some f) => (d, some f)
        | (d, none) => orPresent d (d.makeDirectory cwd path)
      else orPresent d (.error f)

def touch (d : Disk) (cwd : Path) (path : Text) : Except Fault Disk := do
  match ← d.lookup cwd path with
  | .found _ .directory => throw (.isDirectory path)
  | .found _ (.file _) => return d
  | .free l => return d.put l (.file [])

def content? (d : Disk) (cwd : Path) (path : Text) : Option Bytes :=
  match d.lookup cwd path with
  | .ok (.found _ (.file content)) => some content
  | _ => none

def append (d : Disk) (cwd : Path) (path : Text) (more : Bytes) : Disk :=
  match d.lookup cwd path with
  | .ok (.found l (.file content)) => d.put l (.file (content ++ more))
  | .ok (.free l) => d.put l (.file more)
  | _ => d

def write (d : Disk) (cwd : Path) (path : Text) (content : Bytes) : Except Fault Disk := do
  match ← d.lookup cwd path with
  | .found _ .directory => throw (.isDirectory path)
  | .found l _ | .free l => return d.put l (.file content)

def remove (d : Disk) (cwd : Path) (path : Text) : Except Fault Disk := do
  match ← d.lookup cwd path with
  | .found l (.file _) => return d.erase l
  | .found _ .directory => throw (.isDirectory path)
  | .free _ => throw (.notFound path)

def rename (d : Disk) (cwd : Path) (source target : Text) : Disk :=
  match d.lookup cwd source, d.lookup cwd target with
  | .ok (.found l (.file content)), .ok (.found t (.file _)) => (d.erase l).put t (.file content)
  | .ok (.found l (.file content)), .ok (.free t) => (d.erase l).put t (.file content)
  | _, _ => d

def list (d : Disk) (cwd : Path) (path : Text) : Except Fault (List (Text × Nat)) := do
  match ← d.lookup cwd path with
  | .free _ => throw (.notFound path)
  | .found _ (.file _) => throw (.notDirectory path)
  | .found here .directory =>
    let inside := d.entries.filterMap fun (l, e) =>
      match l.getLast? with
      | some name =>
        if l.dropLast == here then
          some (Utf8.decodeEscaped name, match e with
            | .file content => content.length
            | .directory => 4096)
        else none
      | none => none
    return inside.mergeSort fun a b => a.1.comesBefore b.1

end Disk
end Fingerprint
