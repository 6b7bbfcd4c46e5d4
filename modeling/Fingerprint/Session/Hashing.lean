import Fingerprint.Session.Container

/-! # Hashing in a session

The calls of a service, with files taken from the host and with records handed to the service's
logger. -/
set_option autoImplicit false
namespace Fingerprint.Session

/-- A service with a catalog that can be looked into, and its logger. -/
def serviceOf : Instance → Except Fault (Service Hasher × Instance)
  | .service _ size (.catalog _ c) logger => .ok (⟨c, size⟩, logger)
  | _ => .error .noAttribute

def noteEvents (events : List FileEvent) : Action Unit :=
  modify fun s => { s with fileEvents := s.fileEvents ++ events }

def computeData (i : Instance) (algorithm v : Value) : Action Text := do
  let (s, _) ← Action.ofFault (serviceOf i)
  Action.ofExcept (s.computeData algorithm v)

def computeFile (i : Instance) (algorithm path : Value) : Action Text := do
  let (s, _) ← Action.ofFault (serviceOf i)
  let (result, events) := s.computeFile (← get).host.source algorithm path
  noteEvents events
  Action.ofExcept result

def computeFileMany (i : Instance) (path algorithms : Value) : Action (List (Text × Text)) := do
  let (s, _) ← Action.ofFault (serviceOf i)
  let (result, events) := s.computeFileMany (← get).host.source path algorithms
  noteEvents events
  Action.ofExcept result

def reported {α : Type} (logger : Instance) (outcome : Except Error (Option α × List Record)) :
    Action (Option α) := do
  let (result, records) ← Action.ofExcept outcome
  report logger records
  return result

def hashData (i : Instance) (algorithm v : Value) : Action (Option Text) := do
  let (s, logger) ← Action.ofFault (serviceOf i)
  reported logger (s.hashData algorithm v)

def hashFile (i : Instance) (algorithm path : Value) : Action (Option Text) := do
  let (s, logger) ← Action.ofFault (serviceOf i)
  let (outcome, events) := s.hashFile (← get).host.source algorithm path
  noteEvents events
  reported logger outcome

def hashFileMany (i : Instance) (path algorithms : Value) :
    Action (Option (List (Text × Text))) := do
  let (s, logger) ← Action.ofFault (serviceOf i)
  let (outcome, events) := s.hashFileMany (← get).host.source path algorithms
  noteEvents events
  reported logger outcome

/-- The logger that a service uses: its own, else the shared one at the time of the call. -/
def loggerOf : Instance → Action Instance
  | .service _ _ _ logger => if logger.isTrue then pure logger else sharedLogger
  | _ => Action.fail .noAttribute

end Fingerprint.Session
