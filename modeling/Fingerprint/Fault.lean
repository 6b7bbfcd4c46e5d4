import Fingerprint.Text.Utf8
import Fingerprint.Value.Literal

/-! # Faults

A fault is what the system, a hash primitive or a malformed call raises, before this library has
said anything about it. Its kind decides which family it belongs to, and with it whether a file
operation that meets it reports a file that cannot be read. -/
set_option autoImplicit false
namespace Fingerprint

structure Fault where
  kind : FaultKind
  details : List Value

namespace Fault

def isFatal (f : Fault) : Bool :=
  match f.kind with
  | .fatal _ => true
  | _ => false

/-- The families that the reader of a file turns into an unreadable file. -/
def isFileFault (f : Fault) : Bool := f.kind.isSystem || f.kind.isValue

/-- The number, reason and names of a system fault that has them. -/
def systemDetails? (f : Fault) : Option (Value × Value × List Value) :=
  if f.kind.isSystem then
    match f.details with
    | [number, reason] => some (number, reason, [])
    | [number, reason, name] => some (number, reason, [name])
    | [number, reason, name, _] => some (number, reason, [name])
    | [number, reason, name, _, target] => some (number, reason, [name, target])
    | _ => none
  else none

def reason? (f : Fault) : Option Value := f.systemDetails?.map fun d => d.2.1

def plainText : List Value → Text
  | [] => []
  | [v] => v.shown
  | vs => (Value.tuple vs).literal

def text (f : Fault) : Text :=
  match f.systemDetails?, f.kind, f.details with
  | some (number, reason, names), _, _ =>
    let start := Text.concat ["[Errno ", number.shown, "] ", reason.shown]
    match names with
    | [name, target] => Text.concat [start, ": ", name.literal, " -> ", target.literal]
    | [name] => Text.concat [start, ": ", name.literal]
    | _ => start
  | none, .key, [v] => v.literal
  | none, _, details => plainText details

/-- A system fault that this library meets itself, on the path it was working on. -/
def onPath (number : Int) (reason path : Text) : Fault :=
  ⟨.ofNumber number, [.int number, .text reason, .text path]⟩

def notFound (path : Text) : Fault := onPath 2 "No such file or directory" path

def notDirectory (path : Text) : Fault := onPath 20 "Not a directory" path

def isDirectory (path : Text) : Fault := onPath 21 "Is a directory" path

def fileExists (path : Text) : Fault := onPath 17 "File exists" path

def nameTooLong (path : Text) : Fault := onPath 36 "File name too long" path

def nulByte : Fault := ⟨.value, ["embedded null byte"]⟩

def unencodable (run : Utf8.Unencodable) : Fault :=
  let place :=
    if run.count = 1 then
      Text.concat ["character '", Text.escaped run.first, "' in position ", Text.ofNat run.offset]
    else
      Text.concat ["characters in position ", Text.ofNat run.offset, "-",
        Text.ofNat (run.offset + run.count - 1)]
  ⟨.encoding, [.text (Text.concat ["'utf-8' codec can't encode ", place,
    ": surrogates not allowed"])]⟩

def undecodable : Fault := ⟨.decoding, ["invalid utf-8"]⟩

def wrongType : Fault := ⟨.type, []⟩

def noAttribute : Fault := ⟨.attribute, []⟩

end Fault
end Fingerprint
