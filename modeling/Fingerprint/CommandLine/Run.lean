import Fingerprint.CommandLine.Arguments
import Fingerprint.Session.Hashing
import Fingerprint.Session.Start
import Fingerprint.Text.Sequences

/-! # Running the command line

A run reads its arguments, starts the program with the settings they ask for, and carries out one
task. It ends with a status, or with an error that no one has met. What it writes goes to no
terminal, so it is written without escape sequences. -/
set_option autoImplicit false
namespace Fingerprint.CommandLine

inductive Ending where
  | status (code : Nat)
  | escaped (e : Error)

/-- A session together with standard input and what has gone to standard output. -/
structure Terminal where
  session : Session
  input : Bytes
  output : Text

abbrev Running := ExceptT Ending (StateM Terminal)

namespace Running

def finish {α : Type} (code : Nat) : Running α := throw (.status code)

def attempt {α : Type} (a : Action α) : Running (Except Error α) :=
  modifyGet fun t =>
    let (result, session) := a.runOn t.session
    (result, { t with session })

def perform {α : Type} (a : Action α) : Running α := do
  match ← attempt a with
  | .ok x => return x
  | .error e => throw (.escaped e)

/-- Writes to standard output, which takes no halves of surrogate pairs. -/
def print (t : Text) : Running Unit :=
  let written := t.withoutSequences
  match Utf8.unencodable? (fun _ => false) 0 written with
  | some run => throw (.escaped (.fault (.unencodable run)))
  | none => modify fun s => { s with output := s.output ++ written }

/-- Writes to standard error, where halves of surrogate pairs are escaped. -/
def complain (t : Text) : Running Unit :=
  let shown := t.withoutSequences.flatMap fun c => if c.isSurrogate then Text.escaped c else [c]
  modify fun s => { s with session := { s.session with console := s.session.console ++ shown } }

def refuse {α : Type} (s : Scope) (m : Misuse) : Running α := do
  complain (m.report s)
  finish 2

def readArguments (s : Scope) (args : List Text) : Running Arguments := do
  match Arguments.ofList s args with
  | .error m => refuse s m
  | .ok a =>
    match a.notice? s with
    | some notice => do
      print notice
      finish 0
    | none => return a

end Running

open Running

/-- The config file that is named; it may be missing but no directory. -/
def configPath (a : Arguments) : Running (Option Path) := do
  match a.value? "--config" with
  | none => return none
  | some t =>
    let host := (← get).session.host
    match host.disk.lookup host.directory t with
    | .ok (.found _ .directory) =>
      let shown := match Utf8.encodeEscaped t with
        | .ok bytes => Utf8.decodeReplacing bytes
        | .error _ => t
      refuse .program (.directory shown)
    | .error f => if f.kind.isSystem then return some (.ofText t) else throw (.escaped (.fault f))
    | _ => return some (.ofText t)

structure Program where
  service : Instance
  catalog : Catalog Hasher
  logger : Instance

/-- Starts the program. A config file that was named has to be read without failure. -/
def startProgram (config : Option Path) : Action Program := do
  let s ← Session.loadSettings config .null config.isSome
  Session.reset
  let _ ← Session.start (some (← Session.newSerial, s)) none .null
  let service ← Session.resolve .global .service
  let logger ← Session.resolve .global .logger
  return ⟨service, (← Action.ofFault (Session.serviceOf service)).1.catalog, logger⟩

def openProgram (config : Option Path) : Running Program := do
  match ← attempt (startProgram config) with
  | .ok p => return p
  | .error (.failure f) =>
    if f.kind.isConfig then
      complain (Text.concat ["Error: ", f.text, "\n"])
      finish 1
    else throw (.escaped (.failure f))
  | .error e => throw (.escaped e)

def algorithmName (p : Program) (c : Command) (t : Text) : Running Text := do
  match p.catalog.find? t.lower with
  | some d => return d.name
  | none => refuse (.command c) (.unknownAlgorithm t p.catalog.names)

def row (name : Text) (length : Int) (extended : Bool) : Text :=
  Text.concat [name.padRight ' ' 8, (Text.ofInt (8 * length)).padLeft ' ' 5, " bits  ",
    if extended then "extended" else "core", "\n"]

def listAlgorithms (p : Program) : Running Unit :=
  p.catalog.rows.forM fun (name, length, extended) => print (row name length extended)

def digestData (p : Program) (name : Text) (text : Option Text) : Running Unit := do
  let input := (← get).input
  let content : Value := match text with
    | some t => .text t
    | none => .bytes input
  match ← attempt (Session.computeData p.service (.text name) content) with
  | .ok digest => print (digest ++ "\n")
  | .error (.failure f) => do
    perform (Session.logTo p.logger .error
      (.text (Text.concat ["data digest failed: ", f.text])) [])
    complain (Text.concat ["digestkit: ", f.text, "\n"])
    finish f.exitCode
  | .error e => throw (.escaped e)

/-- What the command for files tells of a failure, and what it does about it. -/
structure Setback where
  message : Text
  /-- Message and context in one line. -/
  text : Text
  exitCode : Int
  recoverable : Bool

def Setback.ofFailure (f : Failure) : Setback :=
  ⟨f.message.shown, f.text, f.exitCode, f.recoverable⟩

/-- Reports on files in turn. A setback that another file cannot share in ends the run; the status is
the highest of all setbacks, and none of them brings it below what it was. -/
def digestFiles (logger : Instance) (compute : Text → Action (Except Setback Text)) (status : Int) :
    List Text → Running Int
  | [] => return status
  | path :: rest => do
    match ← perform (compute path) with
    | .ok digest => do
      print (Text.concat [digest, "  ", path, "\n"])
      digestFiles logger compute status rest
    | .error b => do
      perform (Session.logTo logger .warning
        (.text (Text.concat ["file digest failed for ", path, ": ", b.text])) [])
      complain (Text.concat ["digestkit: ", path, ": ", b.message, "\n"])
      let status := max status b.exitCode
      if b.recoverable then digestFiles logger compute status rest else return status

def reportFiles (logger : Instance) (compute : Text → Action (Except Setback Text))
    (paths : List Text) : Running Unit := do
  let status ← digestFiles logger compute 0 paths
  if status ≠ 0 then finish status.toNat

def Program.digest (p : Program) (name path : Text) : Action (Except Setback Text) :=
  tryCatch (do return .ok (← Session.computeFile p.service (.text name) (.text path))) fun
    | .failure f => return .error (.ofFailure f)
    | e => throw e

def carryOut (p : Program) : Task → Running Unit
  | .algorithms => listAlgorithms p
  | .data algorithm text => do digestData p (← algorithmName p .data algorithm) text
  | .file algorithm paths => do
    reportFiles p.logger (p.digest (← algorithmName p .file algorithm)) paths

/-- Runs the command of the given name. A word that names none but looks like an option is read as
one before it is refused. -/
def runCommand (name : Text) (args : List Text) (config : Option Path) : Running Unit := do
  match Command.ofName? name with
  | none => do
    if name.startsWith "-" then
      let _ ← configPath (← readArguments .program (name :: args))
    refuse .program (.unknownCommand name)
  | some c => do
    let p ← openProgram config
    let a ← readArguments (.command c) args
    match Task.ofArguments c a.rest with
    | .error m => refuse (.command c) m
    | .ok task => carryOut p task

def main (args : List Text) : Running Unit := do
  let a ← readArguments .program args
  let config ← configPath a
  match a.rest with
  | [] => print Scope.program.help
  | name :: args => runCommand name args config

/-- An interrupt is told on standard error; a run that simply comes to its end has status zero. -/
def settle (t : Terminal) : Except Ending Unit → Ending × Terminal
  | .ok _ => (.status 0, t)
  | .error (.escaped (.fault f)) =>
    if f.kind = .fatal "KeyboardInterrupt" then
      let session := { t.session with console := t.session.console ++ "\nAborted!\n" }
      (.status 1, { t with session })
    else (.escaped (.fault f), t)
  | .error ending => (ending, t)

/-- Runs a command line in a session: how it ended, and the terminal after it. -/
def run (s : Session) (input : Bytes) (args : List Text) : Ending × Terminal :=
  let (result, t) := ((main args).run ⟨s, input, []⟩).run
  settle t result

end Fingerprint.CommandLine
