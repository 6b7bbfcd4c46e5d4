import Fingerprint.Diagnosis
import Fingerprint.Host
import Fingerprint.Toml.Document

/-! # The config file

A config file is looked for in a directory and its ancestors: in each, a file of this program comes
before a project file, which counts only when it has a table for this program. A project file that
cannot be read is passed over with a record. -/
set_option autoImplicit false
namespace Fingerprint.Settings

inductive ConfigFault where
  | unreadable (f : Fault)
  | malformed (detail : Text)
  /-- Anything that is no matter of the file alone and ends the operation. -/
  | escaping (f : Fault)

def ConfigFault.ofFault (f : Fault) : ConfigFault :=
  if f.kind.isSystem then .unreadable f else .escaping f

def ConfigFault.ofRefusal (t : Text) : Toml.Refusal → ConfigFault
  | .malformed left => .malformed (Toml.malformedText t left)
  | .tooDeep => .escaping ⟨.other "RecursionError", []⟩
  | .tooManyDigits n =>
    .escaping ⟨.value, [.text (Text.concat
      ["Exceeds the limit (", Text.ofNat Toml.digitLimit,
        " digits) for integer string conversion: value has ", Text.ofNat n,
        " digits; use sys.set_int_max_str_digits() to increase the limit"])]⟩

def projectFileName : Text := "pyproject.toml"

/-- The settings that a document holds: a project file keeps them in a table of its own. -/
def settingsTable (path : Path) (document : Entries) : Except Fault Value :=
  if path.name = projectFileName then
    match document.get? "tool" with
    | none => .ok (.dict [])
    | some (.dict tools) => .ok ((Entries.get? "digestkit" tools).getD (.dict []))
    | some _ => .error .noAttribute
  else .ok (.dict document)

/-- The settings in a config file. They need not be a table. -/
def readConfig (h : Host) (path : Path) : Except ConfigFault Value := do
  let bytes ← (h.content path.text).mapError ConfigFault.ofFault
  let t ← match Utf8.decode? bytes with
    | some t => pure t
    | none => throw (.escaping .undecodable)
  let document ← (Toml.document t).mapError (ConfigFault.ofRefusal t)
  (settingsTable path document).mapError .escaping

def configPath (directory : Path) : Path := (directory.child ".digestkit").child "config.toml"

def skipping (path : Path) (reason : Text) : Record :=
  ⟨.debug, Text.concat ["Skipping unreadable ", path.text, ": ", reason]⟩

def findIn (h : Host) : List Path → Diagnosed (Option Path)
  | [] => return none
  | directory :: rest => do
    let own := configPath directory
    if ← .ofFault (h.exists? own.text) then return some own
    let project := directory.child projectFileName
    if ← .ofFault (h.exists? project.text) then
      match readConfig h project with
      | .ok v => if v.isTrue then return some project
      | .error (.unreadable f) => Diagnosed.note (skipping project f.text)
      | .error (.malformed detail) => Diagnosed.note (skipping project detail)
      | .error (.escaping f) => throw (.fault f)
    findIn h rest

def startDirectory (h : Host) (start : Value) : Except Fault Path :=
  if !start.isTrue then .ok h.directory
  else match start with
    | .text t => .ok (.ofText t)
    | .path t => .ok (.ofText t)
    | .pathLike _ (.text t) => .ok (.ofText t)
    | _ => .error .wrongType

def findConfig (h : Host) (start : Value) : Diagnosed (Option Path) := do
  findIn h (← .ofFault (startDirectory h start)).chain

end Fingerprint.Settings
