import Fingerprint.Settings.ConfigSource
import Fingerprint.Settings.Environment
import Fingerprint.Settings.Section

/-! # Settings

Settings come from three sources: values given by the caller win over the environment, and the
environment over the config file. Sections are merged field by field; what no source gives keeps
its default. -/
set_option autoImplicit false
namespace Fingerprint

structure Settings where
  digest : Settings.DigestSection
  logging : Settings.LoggingSection
  configFile : Option Text
  configError : Option Text
deriving DecidableEq

namespace Settings

def sectionOf {α : Type} (merged : Entries) (name : Text) (default : α)
    (read : Value → Except Issues α) : Except Issues α :=
  match merged.get? name with
  | none => .ok default
  | some v => (read v).mapError (beneath name)

def ofEntries (merged : Entries) : Except Issues Settings :=
  match sectionOf merged "digest" DigestSection.default DigestSection.ofValue,
      sectionOf merged "logging" LoggingSection.default LoggingSection.ofValue,
      field merged "config_file" none optionalText,
      field merged "config_error" none optionalText with
  | .ok digest, .ok logging, .ok file, .ok error => .ok ⟨digest, logging, file, error⟩
  | digest, logging, file, error =>
    .error (issuesOf digest ++ issuesOf logging ++ issuesOf file ++ issuesOf error)

def variableStart : Text := "digestkit_"

/-- The variables that have a meaning, in their usual spelling. -/
def variableNames : List Text :=
  ([("digest" : Text), "digest__extended", "digest__chunk_size", "logging", "logging__level",
    "logging__console", "logging__file", "config_file", "config_error"]).map fun name =>
      (variableStart ++ name).upper

def ofEnvironment (environment : List (Text × Text)) : Except Error Entries := do
  let vars := Environment.lowered environment
  let digest ← Environment.sectionValue? vars variableStart "digest" ["extended", "chunk_size"]
  let logging ← Environment.sectionValue? vars variableStart "logging" ["level", "console", "file"]
  let named (name : Text) (v : Option Value) : Entries := (v.map fun v => (.text name, v)).toList
  return named "digest" digest ++ named "logging" logging ++
    named "config_file" (Environment.textValue? vars variableStart "config_file") ++
    named "config_error" (Environment.textValue? vars variableStart "config_error")

/-- Lays the other sources over the config file. One that is no table cannot take them in. -/
def overConfig (config : Value) (above : Entries) : Except Fault Entries :=
  match config with
  | .dict below => .ok (Environment.merge below above)
  | .list _ => if above.isEmpty then .error .noAttribute else .error .wrongType
  | _ => .error .noAttribute

/-- Settings from the values given, the environment, and a config file that is read after it. -/
def assemble (given : Entries) (h : Host) (source : ConfigSource) :
    Diagnosed (Settings × ConfigReading) := do
  let environment ← .ofExcept (ofEnvironment h.environment)
  let config ← (source.read h).1
  let above := Environment.merge environment given
  let merged ← .ofFault (overConfig config.settings above)
  match ofEntries merged with
  | .ok s => return (s, config)
  | .error issues => throw (.invalid issues)

def ofGiven (h : Host) (given : Entries) : Diagnosed Settings :=
  return (← assemble given h (.make none .null)).1

/-- Settings from the environment and a config file. A strict loading fails where the file could
not be read. -/
def load (h : Host) (named : Option Path) (start : Value) (strict : Bool) : Diagnosed Settings := do
  let (s, config) ← assemble [] h (.make named start)
  match strict, config.error with
  | true, some error =>
    throw (.failure (.unusableConfig error ((named.map Path.text).getD [])))
  | _, error => return { s with configFile := config.file, configError := error }

def find (h : Host) (start : Value) : Diagnosed (Option Text) :=
  return (← findConfig h start).map Path.text

end Settings
end Fingerprint
