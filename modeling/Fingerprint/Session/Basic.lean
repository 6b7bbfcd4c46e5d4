import Fingerprint.Logging.Logger
import Fingerprint.Service
import Fingerprint.Settings.Basic

/-! # Sessions

A session is everything that operations of one program share: the host, the loggers with what they
have written, and the containers that hand out settings, loggers, catalogs and services. An action
changes a session and may end with an error; what it changed before the error stays. -/
set_option autoImplicit false
namespace Fingerprint

inductive ServiceKey where
  | settings
  | logger
  | catalog
  | service
  | text
  | number
deriving DecidableEq

/-- Anything that is handed out. Each object bears the number under which it was made, so that two
objects with the same content stay apart. -/
inductive Instance where
  | value (serial : Nat) (v : Value)
  | settings (serial : Nat) (s : Settings)
  | logger (serial : Nat) (name : Text)
  | silentLogger (serial : Nat)
  | recorder (serial : Nat)
  | catalog (serial : Nat) (c : Catalog Hasher)
  | service (serial : Nat) (chunkSize : Value) (catalog logger : Instance)
deriving Inhabited

namespace Instance

def nothing : Instance := .value 0 .null

def serial : Instance → Nat
  | value n _ | settings n _ | logger n _ | silentLogger n | recorder n | catalog n _ => n
  | service n .. => n

def isNothing : Instance → Bool
  | value _ .null => true
  | _ => false

/-- A catalog counts by its members, as collections do. -/
def isTrue : Instance → Bool
  | value _ v => v.isTrue
  | catalog _ c => !c.descriptors.isEmpty
  | _ => true

def typeName : Instance → Text
  | value _ v => v.typeName
  | settings .. => "DigestkitSettings"
  | logger .. => "DigestLogger"
  | silentLogger _ => "NullLogger"
  | recorder _ => "Recorder"
  | catalog .. => "AlgorithmCatalog"
  | service .. => "DigestService"

end Instance

inductive Factory where
  /-- The number of the run, as a list. -/
  | counting
  | failing
  | nothing
  | constant (t : Text)
  | logger (s : Settings.LoggingSection)
  | catalog (extended : Bool)
  | service (chunkSize : Int)

inductive Provider where
  | ready (i : Instance)
  /-- One instance for all, made on demand. -/
  | shared (f : Factory) (made : Option Instance)

structure Container where
  serial : Nat
  providers : List (ServiceKey × Provider)

structure Session where
  host : Host
  home : Path
  /-- The date and time that log lines begin with. -/
  clock : Text
  console : Text
  loggers : List (Text × Logger)
  /-- What recorders have taken down. -/
  recorded : List Record
  /-- What has happened to files that were opened for hashing. -/
  fileEvents : List FileEvent
  globalContainer : Option Container
  containers : List Container
  started : Bool
  objects : Nat
  factoryRuns : Nat
  /-- Algorithms that cannot be started, with the fault that shows it. -/
  faults : List (Hash.Algorithm × Fault)

abbrev Action := ExceptT Error (StateM Session)

namespace Action

def ofExcept {α : Type} : Except Error α → Action α
  | .ok a => pure a
  | .error e => throw e

def ofFault {α : Type} (x : Except Fault α) : Action α := ofExcept (x.mapError Error.fault)

def fail {α : Type} (f : Fault) : Action α := throw (.fault f)

def runOn {α : Type} (s : Session) (a : Action α) : Except Error α × Session := (a.run s).run

end Action

namespace Session

def onHost (host : Host) (home : Path) (clock : Text) : Session where
  host
  home
  clock
  console := []
  loggers := []
  recorded := []
  fileEvents := []
  globalContainer := none
  containers := []
  started := false
  objects := 0
  factoryRuns := 0
  faults := []

def journal (s : Session) : Journal := ⟨s.host.disk, s.console, s.loggers⟩

def withJournal (s : Session) (j : Journal) : Session :=
  { s with host := { s.host with disk := j.disk }, console := j.console, loggers := j.loggers }

def newSerial : Action Nat :=
  modifyGet fun s => (s.objects, { s with objects := s.objects + 1 })

def newObject (make : Nat → Instance) : Action Instance := return make (← newSerial)

def logFile (s : Session) : Path := (s.home.child ".digestkit").child "digestkit.log"

def newLogger (part : Settings.LoggingSection) (name : Text) (file : Option Path) :
    Action Instance := do
  let s ← get
  let (j, fault) := s.journal.setUp s.host.directory part name (file.getD s.logFile)
  set (s.withJournal j)
  match fault with
  | some f => Action.fail f
  | none => newObject fun n => .logger n name

def logTo (i : Instance) (level : Level) (template : Value) (args : List Value) : Action Unit :=
  match i with
  | .logger _ name =>
    modify fun s => s.withJournal (s.journal.log s.clock name level template args)
  | .silentLogger _ => pure ()
  | .recorder _ =>
    match Template.message? template args with
    | some message => modify fun s => { s with recorded := s.recorded ++ [⟨level, message⟩] }
    | none => Action.fail .wrongType
  | _ => Action.fail .noAttribute

def defaultLoggerName : Text := "digestkit"

end Session
end Fingerprint
