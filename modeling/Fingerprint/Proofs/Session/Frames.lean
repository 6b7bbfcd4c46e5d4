import Fingerprint.Proofs.Session.Providers
import Fingerprint.Session.Hashing
import Fingerprint.Session.Start

/-! # What actions leave alone

An action stays within a relation of sessions when, however it ends, it leads from a session to one
that is related to it (`Action.Within`). Making objects, logging and asking for the container are
still steps: they register nothing, mark no start and open no file for hashing. A relation that is
an order and has all still steps is a `Frame`, and the actions made of such steps are within every
frame. Registering and starting are within those that are `Ambient`. -/
set_option autoImplicit false
namespace Fingerprint
open Fingerprint.Action

namespace Session

/-- The sessions differ in what loggers wrote, in numbers and in empty containers alone. -/
structure Still (s s' : Session) : Prop where
  provided : ∀ key, s'.provided key = s.provided key
  started : s'.started = s.started
  fileEvents : s'.fileEvents = s.fileEvents
  faults : s'.faults = s.faults
  devices : s'.host.devices = s.host.devices
  directory : s'.host.directory = s.host.directory
  home : s'.home = s.home
  clock : s'.clock = s.clock

theorem Still.refl (s : Session) : s.Still s := ⟨fun _ => rfl, rfl, rfl, rfl, rfl, rfl, rfl, rfl⟩

/-- A relation of sessions that runs made of still steps do not leave. -/
class Frame (R : Session → Session → Prop) : Prop where
  trans : ∀ s s' s'', R s s' → R s' s'' → R s s''
  still : ∀ s s', s.Still s' → R s s'

theorem Frame.refl (R : Session → Session → Prop) [Frame R] (s : Session) : R s s :=
  Frame.still s s (.refl s)

end Session

/-- However it ends, the action leads to a session that is related to the one before. -/
def Action.Within (R : Session → Session → Prop) {α : Type} (a : Action α) : Prop :=
  ∀ s : Session, R s (runOn s a).2

theorem Action.Within.modify {R : Session → Session → Prop} (g : Session → Session)
    (leads : ∀ s : Session, R s (g s)) :
    Within R (MonadState.modifyGet fun s => ((), g s) : Action Unit) := leads

variable {R : Session → Session → Prop} [Session.Frame R]

namespace Action.Within
variable {α β : Type}

theorem pure (a : α) : Within R (Pure.pure a) := fun s => Session.Frame.refl R s

theorem get : Within R (MonadState.get : Action Session) := fun s => Session.Frame.refl R s

theorem fail (f : Fault) : Within R (Action.fail f : Action α) := fun s => Session.Frame.refl R s

theorem ofExcept (x : Except Error α) : Within R (Action.ofExcept x) := by
  intro s
  rw [runOn_ofExcept]
  exact Session.Frame.refl R s

theorem ofFault (x : Except Fault α) : Within R (Action.ofFault x) := ofExcept _

theorem bind {x : Action α} {f : α → Action β} (first : Within R x)
    (rest : ∀ a, Within R (f a)) : Within R (x >>= f) := by
  intro s
  have before := first s
  rw [runOn_bind]
  cases run : runOn s x with
  | mk result s₁ =>
      rw [run] at before
      cases result with
      | ok a => exact Session.Frame.trans _ _ _ before (rest a s₁)
      | error e => exact before

theorem still {a : Action α} (quiet : ∀ s : Session, s.Still (runOn s a).2) : Within R a :=
  fun s => Session.Frame.still _ _ (quiet s)

end Action.Within

namespace Session

/-! ## Still steps -/

theorem still_newSerial : Action.Within R newSerial :=
  .still fun _ => ⟨fun _ => rfl, rfl, rfl, rfl, rfl, rfl, rfl, rfl⟩

theorem still_newObject (make : Nat → Instance) : Action.Within R (newObject make) :=
  .bind still_newSerial fun _ => .pure _

theorem still_countRun : Action.Within R countRun :=
  .still fun _ => ⟨fun _ => rfl, rfl, rfl, rfl, rfl, rfl, rfl, rfl⟩

theorem still_newLogger (part : Settings.LoggingSection) (name : Text) (file : Option Path) :
    Action.Within R (newLogger part name file) := by
  apply Action.Within.still
  intro s
  rw [runOn_newLogger]
  split <;> exact ⟨fun _ => rfl, rfl, rfl, rfl, rfl, rfl, rfl, rfl⟩

theorem still_logTo (i : Instance) (level : Level) (template : Value) (args : List Value) :
    Action.Within R (logTo i level template args) := by
  apply Action.Within.still
  intro s
  cases i with
  | recorder serial =>
      unfold logTo
      cases Template.message? template args with
      | some message => exact ⟨fun _ => rfl, rfl, rfl, rfl, rfl, rfl, rfl, rfl⟩
      | none => exact .refl s
  | _ => exact ⟨fun _ => rfl, rfl, rfl, rfl, rfl, rfl, rfl, rfl⟩

theorem still_container (slot : Slot) : Action.Within R (container slot) := by
  apply Action.Within.still
  intro s
  cases slot with
  | global =>
      cases present : s.globalContainer with
      | some c =>
          rw [container_present s c present]
          exact .refl s
      | none =>
          unfold container
          rw [runOn_get_bind]
          simp only [present]
          refine ⟨?_, rfl, rfl, rfl, rfl, rfl, rfl, rfl⟩
          intro key
          rw [provided, provided, present]
          rfl
  | numbered n =>
      unfold container
      rw [runOn_get_bind]
      simp only
      cases s.containers[n - 1]? with
      | some c => exact .refl s
      | none => exact .refl s

/-! ## Actions made of a lookup and still steps -/

section
variable (ask : Lookup) (asking : ∀ slot key, Action.Within R (ask slot key))
include asking

theorem within_requireBy (slot : Slot) (key : ServiceKey) :
    Action.Within R (requireBy ask slot key) := by
  refine .bind (asking slot key) fun found => ?_
  cases found with
  | some i => exact .pure i
  | none => exact .fail _

theorem within_sharedLoggerBy : Action.Within R (sharedLoggerBy ask) := by
  refine .bind (asking .global .logger) fun found => ?_
  unfold orElseMake
  split
  · split
    · exact still_newObject _
    · exact .pure _
  · exact still_newObject _

theorem within_reportBy (own : Instance) (records : List Record) :
    Action.Within R (reportBy ask own records) := by
  unfold reportBy
  induction records with
  | nil => exact .pure ()
  | cons r rest ih =>
      refine .bind ?_ fun _ => ih
      split
      · exact .bind (.pure own) fun _ => still_logTo _ _ _ _
      · exact .bind (within_sharedLoggerBy ask asking) fun _ => still_logTo _ _ _ _

theorem within_diagnoseBy {α : Type} (x : Host → Diagnosed α) :
    Action.Within R (diagnoseBy ask x) :=
  .bind .get fun _ => .bind (within_reportBy ask asking _ _) fun _ => .ofExcept _

theorem within_newServiceBy (catalog : Instance) (size : Value) (logger : Instance) :
    Action.Within R (newServiceBy ask catalog size logger) := by
  refine .bind (.ofFault _) fun _ => ?_
  have made : Action.Within R (defaultCatalogBy ask) :=
    .bind (within_diagnoseBy ask asking _) fun _ => .bind .get fun _ => still_newObject _
  dsimp only
  split
  · exact .bind made fun _ => still_newObject _
  · exact .bind (.pure _) fun _ => still_newObject _

theorem within_makeBy (slot : Slot) (f : Factory) : Action.Within R (makeBy ask slot f) := by
  cases f with
  | counting => exact .bind still_countRun fun _ => still_newObject _
  | failing => exact .bind still_countRun fun _ => .fail _
  | nothing => exact .bind still_countRun fun _ => .pure _
  | constant t => exact .bind still_countRun fun _ => still_newObject _
  | logger part => exact still_newLogger part _ none
  | catalog extended => exact .bind .get fun _ => still_newObject _
  | service size =>
      exact .bind (within_requireBy ask asking slot .catalog) fun _ =>
        .bind (within_requireBy ask asking slot .logger) fun _ =>
          within_newServiceBy ask asking _ _ _

end

theorem within_reported {α : Type} (asking : ∀ slot key, Action.Within R (tryResolve slot key))
    (logger : Instance) (outcome : Except Error (Option α × List Record)) :
    Action.Within R (reported logger outcome) :=
  .bind (.ofExcept outcome) fun _ =>
    .bind (within_reportBy tryResolve asking logger _) fun _ => .pure _

/-! ## Actions that register and start -/

/-- A frame that containers and the mark of a start do not matter to. -/
class Ambient (R : Session → Session → Prop) : Prop extends Frame R where
  stores : ∀ (s : Session) (c : Option Container), R s { s with globalContainer := c }
  storesAside : ∀ (s : Session) (cs : List Container), R s { s with containers := cs }
  marks : ∀ (s : Session) (started : Bool), R s { s with started }

section
variable {A : Session → Session → Prop} [Ambient A]

theorem ambient_setContainer (slot : Slot) (c : Container) :
    Action.Within A (setContainer slot c) := by
  cases slot with
  | global => exact .modify _ fun s => Ambient.stores s _
  | numbered n => exact .modify _ fun s => Ambient.storesAside s _

theorem ambient_register (slot : Slot) (key : ServiceKey) (i : Instance) (f : Option Factory) :
    Action.Within A (register slot key i f) :=
  .bind (still_container slot) fun _ => .bind (.ofFault _) fun _ => ambient_setContainer slot _

theorem ambient_keepMade (slot : Slot) (key : ServiceKey) (f : Factory) (i : Instance) :
    Action.Within A (keepMade slot key f i) := by
  unfold keepMade
  split
  · exact .bind (still_container slot) fun _ => ambient_setContainer slot _
  · exact .pure ()

theorem ambient_tryResolveWithin (depth : Nat) (slot : Slot) (key : ServiceKey) :
    Action.Within A (tryResolveWithin depth slot key) := by
  induction depth generalizing slot key with
  | zero => exact .fail _
  | succ depth ih =>
      refine .bind (still_container slot) fun c => ?_
      split
      · exact .pure none
      · exact .pure _
      · exact .pure _
      · exact .bind (within_makeBy _ ih slot _) fun i =>
          .bind (ambient_keepMade slot key _ i) fun _ => .pure _

theorem ambient_resolve (slot : Slot) (key : ServiceKey) : Action.Within A (resolve slot key) :=
  within_requireBy tryResolve (ambient_tryResolveWithin 5) slot key

theorem ambient_loadSettings (named : Option Path) (directory : Value) (strict : Bool) :
    Action.Within A (loadSettings named directory strict) :=
  within_diagnoseBy tryResolve (ambient_tryResolveWithin 5)
    fun h => Settings.load h named directory strict

theorem ambient_registerServices (serial : Nat) (from_ : Settings) :
    Action.Within A (registerServices serial from_) := by
  refine .bind (ambient_register _ _ _ _) fun _ => .bind (ambient_register _ _ _ _) fun _ =>
    .bind (ambient_register _ _ _ _) fun _ => .bind (ambient_register _ _ _ _) fun _ => ?_
  split
  · split
    · exact .bind (ambient_resolve _ _) fun _ => still_logTo _ _ _ _
    · exact .pure ()
  · exact .pure ()

theorem ambient_start (given : Option (Nat × Settings)) (named : Option Path) (directory : Value) :
    Action.Within A (start given named directory) := by
  have marks : Action.Within A (modify fun s : Session => { s with started := true }) :=
    .modify _ fun s => Ambient.marks s true
  refine .bind (still_container .global) fun c => .bind .get fun s => ?_
  split
  · exact .pure c
  · have rest (serial : Nat) (from_ : Settings) : Action.Within A (do
        registerServices serial from_
        modify fun s : Session => { s with started := true }
        container .global) :=
      .bind (ambient_registerServices serial from_) fun _ => .bind marks fun _ =>
        still_container .global
    cases given with
    | some entry => exact rest entry.1 entry.2
    | none =>
        exact .bind (ambient_loadSettings named directory false) fun s =>
          .bind still_newSerial fun n => rest n s

theorem ambient_reset : Action.Within A reset :=
  .bind (.modify _ fun s => Ambient.stores s none) fun _ => .modify _ fun s => Ambient.marks s false

end

/-- No file was opened for hashing; the algorithms that cannot be started and the devices are the
same. -/
structure Unread (s s' : Session) : Prop where
  fileEvents : s'.fileEvents = s.fileEvents
  faults : s'.faults = s.faults
  devices : s'.host.devices = s.host.devices

instance : Ambient Unread where
  trans _ _ _ first second :=
    ⟨second.fileEvents.trans first.fileEvents, second.faults.trans first.faults,
      second.devices.trans first.devices⟩
  still _ _ quiet := ⟨quiet.fileEvents, quiet.faults, quiet.devices⟩
  stores _ _ := ⟨rfl, rfl, rfl⟩
  storesAside _ _ := ⟨rfl, rfl, rfl⟩
  marks _ _ := ⟨rfl, rfl, rfl⟩

/-- Relative paths, the log file and the dates of log lines are the same. -/
structure Placed (s s' : Session) : Prop where
  directory : s'.host.directory = s.host.directory
  home : s'.home = s.home
  clock : s'.clock = s.clock

instance : Ambient Placed where
  trans _ _ _ first second :=
    ⟨second.directory.trans first.directory, second.home.trans first.home,
      second.clock.trans first.clock⟩
  still _ _ quiet := ⟨quiet.directory, quiet.home, quiet.clock⟩
  stores _ _ := ⟨rfl, rfl, rfl⟩
  storesAside _ _ := ⟨rfl, rfl, rfl⟩
  marks _ _ := ⟨rfl, rfl, rfl⟩

end Session
end Fingerprint
