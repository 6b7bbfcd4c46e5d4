import Fingerprint.Settings.Coercion

/-! # Sections of the settings

A section is read from a table: fields that are missing keep their defaults, other names are
ignored, and the issues of all fields are told together. A section that is there already is taken as
it is. A field can be set later under the same rules. What bears another name is refused, unless the
name begins with an underscore: that is kept beside the fields. -/
set_option autoImplicit false
namespace Fingerprint.Settings

abbrev Issues := List (List Text × Issue)

def issuesOf {α : Type} : Except Issues α → Issues
  | .ok _ => []
  | .error is => is

def field {α : Type} (table : Entries) (name : Text) (default : α)
    (read : Value → Except Issue α) : Except Issues α :=
  match table.get? name with
  | none => .ok default
  | some v => (read v).mapError fun i => [([name], i)]

def tableOf : Value → Except Issues Entries
  | .dict es | .proxy es => .ok es
  | _ => .error [([], .notATable)]

def beneath (name : Text) (is : Issues) : Issues := is.map fun (place, i) => (name :: place, i)

/-- Names of what is kept beside the fields, where nothing checks it. -/
def isPrivate (name : Text) : Bool := name.startsWith "_"

/-- The section after a name that is no field's was assigned to. -/
def assignUnknown {α : Type} (s : α) (name : Text) : Except Issues α :=
  if isPrivate name then .ok s else .error [([name], .noSuchField)]

namespace DigestSection

def ofEntries (table : Entries) : Except Issues DigestSection :=
  match field table "extended" default.extended truth,
      field table "chunk_size" default.chunkSize Settings.chunkSize with
  | .ok extended, .ok size => .ok ⟨extended, size⟩
  | extended, size => .error (issuesOf extended ++ issuesOf size)

def ofValue : Value → Except Issues DigestSection
  | .checked ⟨.digest s, _⟩ => .ok s
  | v => tableOf v >>= ofEntries

def assign (s : DigestSection) (name : Text) (v : Value) : Except Issues DigestSection :=
  if name = "extended" then do return { s with extended := ← field [(name, v)] name true truth }
  else if name = "chunk_size" then do
    return { s with chunkSize := ← field [(name, v)] name 1 Settings.chunkSize }
  else assignUnknown s name

end DigestSection

namespace LoggingSection

def ofEntries (table : Entries) : Except Issues LoggingSection :=
  match field table "level" default.level Settings.level,
      field table "console" default.console truth, field table "file" default.file truth with
  | .ok level, .ok console, .ok file => .ok ⟨level, console, file⟩
  | level, console, file => .error (issuesOf level ++ issuesOf console ++ issuesOf file)

def ofValue : Value → Except Issues LoggingSection
  | .checked ⟨.logging s, _⟩ => .ok s
  | v => tableOf v >>= ofEntries

def assign (s : LoggingSection) (name : Text) (v : Value) : Except Issues LoggingSection :=
  if name = "level" then do
    return { s with level := ← field [(name, v)] name .warning Settings.level }
  else if name = "console" then do return { s with console := ← field [(name, v)] name true truth }
  else if name = "file" then do return { s with file := ← field [(name, v)] name true truth }
  else assignUnknown s name

end LoggingSection

namespace Section

def fields (s : Section) : List Text := s.entries.names

def assign : Section → Text → Value → Except Issues Section
  | digest s, name, v => (s.assign name v).map digest
  | logging s, name, v => (s.assign name v).map logging

end Section
end Fingerprint.Settings
