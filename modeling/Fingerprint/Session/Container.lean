import Fingerprint.Session.Basic

/-! # Containers

A container binds keys to instances or to factories, which make one instance for all when they are
first asked. There is one container for the whole program, made when it is first needed, and any
number of others. The library works without any of them: where no logger is bound, records go to a
silent one. -/
set_option autoImplicit false
namespace Fingerprint

def ServiceKey.label : ServiceKey → Text
  | settings => "<class 'digestkit.core.settings.DigestkitSettings'>"
  | logger => "<class 'digestkit.core.interfaces.logger.ILogger'>"
  | catalog => "<class 'digestkit.hashing.registry.AlgorithmCatalog'>"
  | service => "<class 'digestkit.services.digest.DigestService'>"
  | text => "<class 'str'>"
  | number => "<class 'int'>"

namespace Container

def provider? (c : Container) (key : ServiceKey) : Option Provider := c.providers.lookup key

def bind (c : Container) (key : ServiceKey) (p : Provider) : Container :=
  { c with providers := (key, p) :: c.providers.filter fun (k, _) => k != key }

/-- Binds a key to an instance, or to a factory when there is no instance. -/
def register (c : Container) (key : ServiceKey) (i : Instance) (f : Option Factory) :
    Except Fault Container :=
  if i.isNothing then
    match f with
    | some f => .ok (c.bind key (.shared f none))
    | none => .error ⟨.value, ["Must provide either implementation or factory"]⟩
  else .ok (c.bind key (.ready i))

end Container

namespace Session

/-- The container for the whole program, or another one by its number, counted from one. -/
inductive Slot where
  | global
  | numbered (n : Nat)
deriving DecidableEq

def newContainer : Action Container := return ⟨← newSerial, []⟩

def container (slot : Slot) : Action Container := do
  let s ← get
  match slot with
  | .global =>
    match s.globalContainer with
    | some c => return c
    | none =>
      let c ← newContainer
      modify fun s => { s with globalContainer := some c }
      return c
  | .numbered n =>
    match s.containers[n - 1]? with
    | some c => return c
    | none => Action.fail ⟨.key, []⟩

def setContainer (slot : Slot) (c : Container) : Action Unit :=
  match slot with
  | .global => modify fun s => { s with globalContainer := some c }
  | .numbered n => modify fun s => { s with containers := s.containers.set (n - 1) c }

def addContainer : Action Nat := do
  let c ← newContainer
  modify fun s => { s with containers := s.containers ++ [c] }
  return (← get).containers.length

def register (slot : Slot) (key : ServiceKey) (i : Instance) (f : Option Factory) :
    Action Unit := do
  setContainer slot (← Action.ofFault ((← container slot).register key i f))

def dropContainer : Action Unit := modify fun s => { s with globalContainer := none }

abbrev Lookup := Slot → ServiceKey → Action (Option Instance)

def orElseMake (found : Option Instance) (default : Action Instance) : Action Instance :=
  match found with
  | some i => if i.isNothing then default else pure i
  | none => default

/-- The logger that library calls without one of their own use. -/
def sharedLoggerBy (ask : Lookup) : Action Instance := do
  orElseMake (← ask .global .logger) (newObject .silentLogger)

/-- Hands records to a logger of the caller's, or to the shared one where that counts as missing. -/
def reportBy (ask : Lookup) (own : Instance) (records : List Record) : Action Unit :=
  records.forM fun r => do
    let logger ← if own.isTrue then pure own else sharedLoggerBy ask
    logTo logger r.level (.text r.message) []

def diagnoseBy {α : Type} (ask : Lookup) (x : Host → Diagnosed α) : Action α := do
  let (result, records) := (x (← get).host).outcome
  reportBy ask .nothing records
  Action.ofExcept result

def newCatalog (extended : Value) : Action Instance := do
  let c := Catalog.standard (← get).faults extended
  newObject fun n => .catalog n c

def defaultCatalogBy (ask : Lookup) : Action Instance := do
  let s ← diagnoseBy ask fun h => Settings.load h none .null false
  newCatalog (.bool s.digest.extended)

def newServiceBy (ask : Lookup) (catalog : Instance) (chunkSize : Value) (logger : Instance) :
    Action Instance := do
  Action.ofFault (Service.checkChunkSize chunkSize)
  let catalog ← if catalog.isNothing then defaultCatalogBy ask else pure catalog
  newObject fun n => .service n chunkSize catalog logger

def missing (key : ServiceKey) : Fault :=
  ⟨.key, [.text (Text.concat ["No provider registered for: ", key.label])]⟩

def requireBy (ask : Lookup) (slot : Slot) (key : ServiceKey) : Action Instance := do
  match ← ask slot key with
  | some i => return i
  | none => Action.fail (missing key)

def countRun : Action Nat :=
  modifyGet fun s => (s.factoryRuns + 1, { s with factoryRuns := s.factoryRuns + 1 })

/-- Makes an instance; what it is made of is looked up in the same container. -/
def makeBy (ask : Lookup) (slot : Slot) : Factory → Action Instance
  | .counting => do
    let run ← countRun
    newObject fun n => .value n (.list [.int run])
  | .failing => do
    let run ← countRun
    Action.fail ⟨.value, [.text (Text.concat ["factory failed ", Text.ofNat run])]⟩
  | .nothing => do
    let _ ← countRun
    return .nothing
  | .constant t => do
    let _ ← countRun
    newObject fun n => .value n (.text t)
  | .logger s => newLogger s defaultLoggerName none
  | .catalog extended => newCatalog (.bool extended)
  | .service chunkSize => do
    let catalog ← requireBy ask slot .catalog
    let logger ← requireBy ask slot .logger
    newServiceBy ask catalog (.int chunkSize) logger

/-- Keeps what a factory has made, so that it is made once. Nothing is not worth keeping. -/
def keepMade (slot : Slot) (key : ServiceKey) (f : Factory) (i : Instance) : Action Unit := do
  if !i.isNothing then
    setContainer slot ((← container slot).bind key (.shared f (some i)))

/-- Looks a key up; factories ask for one another at most `depth` deep. -/
def tryResolveWithin : Nat → Lookup
  | 0, _, _ => Action.fail ⟨.other "RecursionError", []⟩
  | depth + 1, slot, key => do
    match (← container slot).provider? key with
    | none => return none
    | some (.ready i) => return some i
    | some (.shared _ (some i)) => return some i
    | some (.shared f none) =>
      let i ← makeBy (tryResolveWithin depth) slot f
      keepMade slot key f i
      return some i

/-- A service asks for a catalog and a logger, and these ask for no more than the shared logger. -/
def tryResolve : Lookup := tryResolveWithin 5

def resolve (slot : Slot) (key : ServiceKey) : Action Instance := requireBy tryResolve slot key

def resolveOrDefault (key : ServiceKey) (default : Action Instance) : Action Instance := do
  orElseMake (← tryResolve .global key) default

def sharedLogger : Action Instance := sharedLoggerBy tryResolve

def report (own : Instance) (records : List Record) : Action Unit := reportBy tryResolve own records

def diagnose {α : Type} (x : Host → Diagnosed α) : Action α := diagnoseBy tryResolve x

def newService (catalog : Instance) (chunkSize : Value) (logger : Instance) : Action Instance :=
  newServiceBy tryResolve catalog chunkSize logger

end Session
end Fingerprint
