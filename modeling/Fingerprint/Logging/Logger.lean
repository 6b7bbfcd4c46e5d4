import Fingerprint.Logging.LogFile
import Fingerprint.Settings.Section
import Fingerprint.Value.Template

/-! # Loggers

Loggers are known by name. Each has a level and handlers, which write the records that the level
lets through: to the console, to a log file, or nowhere. Setting a logger up replaces its handlers,
so all that share a name write where the last one was set up to write. -/
set_option autoImplicit false
namespace Fingerprint

inductive Handler where
  | console
  | file (path : Text)
  | silent
deriving DecidableEq

structure Logger where
  level : Level
  handlers : List Handler
deriving DecidableEq

/-- What loggers write to, and the loggers by their names. -/
structure Journal where
  disk : Disk
  console : Text
  loggers : List (Text × Logger)

namespace Logger

/-- The name of the logger above all others, which also answers to the empty name. -/
def topName : Text := "root"

def properName (name : Text) : Text := if name.isEmpty then topName else name

def line (clock name : Text) (level : Level) (message : Text) : Text :=
  Text.concat [clock, " [", level.label, "] ", name, ": ", message]

end Logger

namespace Journal

def logger? (j : Journal) (name : Text) : Option Logger := j.loggers.lookup (Logger.properName name)

def putLogger (j : Journal) (name : Text) (l : Logger) : Journal :=
  let name := Logger.properName name
  { j with loggers := (name, l) :: j.loggers.filter fun (n, _) => n != name }

def print (j : Journal) (line : Text) : Journal :=
  let shown := line.flatMap fun c => if c.isSurrogate then Text.escaped c else [c]
  { j with console := Text.concat [j.console, shown, "\n"] }

/-- Writes a line through a handler. A line that a file does not take is lost. -/
def write (line : Text) (j : Journal) : Handler → Journal
  | .console => j.print line
  | .file path =>
    match LogFile.add j.disk path line with
    | .ok disk => { j with disk }
    | .error _ => j
  | .silent => j

/-- Writes a record that the level of its logger lets through. A message whose template does not
fit its arguments is lost. Without any handler, as where setting up failed, a warning or error goes
to the console as a bare message. -/
def log (j : Journal) (clock name : Text) (level : Level) (template : Value) (args : List Value) :
    Journal :=
  match j.logger? name, Template.message? template args with
  | some l, some message =>
    if level.severity < l.level.severity then j
    else if l.handlers.isEmpty then
      if level.severity < Level.warning.severity then j else j.print message
    else
      l.handlers.foldl (write (Logger.line clock (Logger.properName name) level message)) j
  | _, _ => j

def openFile (d : Disk) (cwd path : Path) : Disk × Except Fault Text :=
  match d.makeDirectories cwd path.root path.parent.parts.reverse with
  | (d, some f) => (d, .error f)
  | (d, none) =>
    let place := (cwd.within path).collapsed.text
    match d.touch LogFile.root place with
    | .ok d => (d, .ok place)
    | .error f => (d, .error f)

/-- Sets a logger up from a section of the settings. When the log file cannot be opened, the logger
is left without handlers. -/
def setUp (j : Journal) (cwd : Path) (s : Settings.LoggingSection) (name : Text) (file : Path) :
    Journal × Option Fault :=
  let console : List Handler := if s.console then [.console] else []
  if s.file then
    match openFile j.disk cwd file with
    | (disk, .error f) => (({ j with disk }).putLogger name ⟨s.level, []⟩, some f)
    | (disk, .ok place) =>
      (({ j with disk }).putLogger name ⟨s.level, console ++ [Handler.file place]⟩, none)
  else
    (j.putLogger name ⟨s.level, if console.isEmpty then [.silent] else console⟩, none)

end Journal
end Fingerprint
