import Fingerprint.Settings.ConfigFile

/-! # The config file as a source

A source reads its config file when it is first asked and keeps what came of that, whatever happens
to the file later. A file that cannot be read gives an empty table and the reason. -/
set_option autoImplicit false
namespace Fingerprint.Settings

/-- What came of reading the config file: the settings it gave, and the file that gave them or the
reason why none did. -/
structure ConfigReading where
  settings : Value
  file : Option Text
  error : Option Text

def ConfigReading.nothing : ConfigReading := ⟨.dict [], none, none⟩

/-- The value of one setting. Only a table has settings. -/
def ConfigReading.value (c : ConfigReading) (name : Text) : Except Fault Value :=
  match c.settings with
  | .dict es => .ok ((Entries.get? name es).getD .null)
  | _ => .error .noAttribute

/-- Reads the named config file, or the one that a search finds. A file that cannot be read gives
nothing and leaves a record. -/
def readSettings (h : Host) (named : Option Path) (start : Value) : Diagnosed ConfigReading := do
  let path? ← match named with
    | some path => pure (some path)
    | none => findConfig h start
  let unread (error : Text) : Diagnosed ConfigReading := do
    Diagnosed.note ⟨.warning, error⟩
    return { ConfigReading.nothing with error := some error }
  match path? with
  | none => return .nothing
  | some path =>
    match readConfig h path with
    | .ok v => return ⟨v, some path.text, none⟩
    | .error (.malformed detail) =>
      unread (Text.concat ["Failed to parse config file ", path.text, ": ", detail])
    | .error (.unreadable f) =>
      let reason := match f.reason? with
        | some reason => if reason.isTrue then reason.shown else f.text
        | none => f.text
      unread (Text.concat ["Failed to read config file ", path.text, ": ", reason])
    | .error (.escaping f) => throw (.fault f)

structure ConfigSource where
  /-- The file to read; without one it is looked for. -/
  named : Option Path
  start : Value
  reading : Option ConfigReading

namespace ConfigSource

def make (named : Option Path) (start : Value) : ConfigSource := ⟨named, start, none⟩

/-- The reading, and the source after the call. A first call that ends with an error leaves nothing
read, and later calls give that. -/
def read (c : ConfigSource) (h : Host) : Diagnosed ConfigReading × ConfigSource :=
  match c.reading with
  | some r => (pure r, c)
  | none =>
    let x := readSettings h c.named c.start
    (x, { c with reading := some (x.outcome.1.toOption.getD .nothing) })

end ConfigSource
end Fingerprint.Settings
