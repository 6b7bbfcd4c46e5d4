import Fingerprint.Session.Container

/-! # Starting a program

Starting binds settings, logger, catalog and service in the container for the whole program, once;
a second start changes nothing until the first is undone. -/
set_option autoImplicit false
namespace Fingerprint.Session

def loadSettings (named : Option Path) (start : Value) (strict : Bool) : Action Settings :=
  diagnose fun h => Settings.load h named start strict

def registerServices (serial : Nat) (s : Settings) : Action Unit := do
  register .global .settings (.settings serial s) none
  register .global .logger .nothing (some (.logger s.logging))
  register .global .catalog .nothing (some (.catalog s.digest.extended))
  register .global .service .nothing (some (.service s.digest.chunkSize))
  match s.configError with
  | some error =>
    if !error.isEmpty then logTo (← resolve .global .logger) .warning (.text error) []
  | none => pure ()

def start (given : Option (Nat × Settings)) (named : Option Path) (startDirectory : Value) :
    Action Container := do
  let c ← container .global
  if (← get).started then return c
  let (serial, s) ← match given with
    | some (serial, s) => pure (serial, s)
    | none => do
      let s ← loadSettings named startDirectory false
      pure (← newSerial, s)
  registerServices serial s
  modify fun s => { s with started := true }
  container .global

def reset : Action Unit := do
  dropContainer
  modify fun s => { s with started := false }

end Fingerprint.Session
