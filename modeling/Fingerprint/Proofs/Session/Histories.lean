import Fingerprint.Proofs.Session.Hashing
import Fingerprint.Proofs.Session.StartUp
import Mathlib.Data.List.Induction

/-! # Histories of a program

A program is started, reset, looked into, registered with and used in any order (`Operation`); a
history is a list of operations, of which each may end with an error and still leaves a session
(`after`). What one operation does is said once (`Performs`). The mark of a start and the
registrations stay in step under all of them but one: dropping the container of a started program
takes the registrations and leaves the mark, and no start repairs that until a reset. -/
set_option autoImplicit false
namespace Fingerprint
open Fingerprint.Action

/-- A call of a service that leaves nothing instead of a failure. -/
inductive Call where
  | data (algorithm v : Value)
  | file (algorithm path : Value)
  | files (path algorithms : Value)

namespace Call

def Result : Call → Type
  | .data .. | .file .. => Text
  | .files .. => List (Text × Text)

def hash (i : Instance) : (c : Call) → Action (Option c.Result)
  | .data algorithm v => Session.hashData i algorithm v
  | .file algorithm path => Session.hashFile i algorithm path
  | .files path algorithms => Session.hashFileMany i path algorithms

end Call

inductive Operation where
  | start (given : Option (Nat × Settings)) (named : Option Path) (directory : Value)
  | reset
  | dropContainer
  | container (slot : Session.Slot)
  | addContainer
  | register (slot : Session.Slot) (key : ServiceKey) (i : Instance) (f : Option Factory)
  | tryResolve (slot : Session.Slot) (key : ServiceKey)
  | resolve (slot : Session.Slot) (key : ServiceKey)
  | newService (catalog : Instance) (chunkSize : Value) (logger : Instance)
  | hash (c : Call) (service : Instance)
  /-- Files, variables and the directory change without the program. -/
  | outside (host : Host)

def Operation.Registers : Operation → Prop
  | .register .. => True
  | _ => False

namespace Session

def perform (s : Session) : Operation → Session
  | .start given named directory => (runOn s (start given named directory)).2
  | .reset => (runOn s reset).2
  | .dropContainer => (runOn s dropContainer).2
  | .container slot => (runOn s (container slot)).2
  | .addContainer => (runOn s addContainer).2
  | .register slot key i f => (runOn s (register slot key i f)).2
  | .tryResolve slot key => (runOn s (tryResolve slot key)).2
  | .resolve slot key => (runOn s (resolve slot key)).2
  | .newService catalog chunkSize logger => (runOn s (newService catalog chunkSize logger)).2
  | .hash c service => (runOn s (c.hash service)).2
  | .outside host => { s with host }

def after (s : Session) (ops : List Operation) : Session := ops.foldl perform s

theorem after_concat (s : Session) (ops : List Operation) (op : Operation) :
    s.after (ops ++ [op]) = (s.after ops).perform op := List.foldl_concat ..

theorem after_append (s : Session) (ops later : List Operation) :
    s.after (ops ++ later) = (s.after ops).after later := List.foldl_append

/-! ## What one operation does -/

def offeredBy (i : Instance) (f : Option Factory) : Option Provider :=
  if i.isNothing then f.map fun f => .shared f none else some (.ready i)

theorem register_ends (s : Session) (key : ServiceKey) (i : Instance) (f : Option Factory) :
    (runOn s (register .global key i f)).2.started = s.started ∧
      ∀ other, (runOn s (register .global key i f)).2.provided other =
        if other = key then (offeredBy i f).or (s.provided key) else s.provided other := by
  cases offer : offeredBy i f with
  | some p =>
      have binds (c : Container) : c.register key i f = .ok (c.bind key p) := by
        unfold Container.register
        unfold offeredBy at offer
        cases nothing : i.isNothing with
        | true =>
            rw [nothing] at offer
            obtain ⟨f', rfl, rfl⟩ := Option.map_eq_some_iff.mp offer
            rfl
        | false =>
            rw [nothing] at offer
            cases offer
            rfl
      obtain ⟨s', run, bound⟩ := register_returns s key i f p binds
      rw [run]
      refine ⟨bound.continues.started, ?_⟩
      intro other
      split
      next same =>
        rw [same]
        exact bound.bound
      next different => exact bound.others other different
  | none =>
      have refused (c : Container) : ∃ fault, c.register key i f = .error fault := by
        unfold Container.register
        unfold offeredBy at offer
        cases nothing : i.isNothing with
        | true =>
            rw [nothing] at offer
            cases f with
            | none => exact ⟨_, rfl⟩
            | some f => cases offer
        | false =>
            rw [nothing] at offer
            cases offer
      obtain ⟨c, s', found, -, same, continues⟩ := container_provided s
      obtain ⟨fault, refusal⟩ := refused c
      have run : runOn s (register .global key i f) = (.error (.fault fault), s') := by
        unfold register
        rw [runOn_bind_ok s s' _ _ c found, refusal]
        rfl
      rw [run]
      refine ⟨continues.started, ?_⟩
      intro other
      rw [same other, Option.none_or]
      split
      next here => rw [here]
      next => rfl

/-- What an operation does to the registrations and to the mark of a start. -/
inductive Performs (s : Session) : Operation → Session → Prop
  | keeps (op : Operation) (s' : Session) (unreset : op ≠ .reset) (keeps : s.Keeps s') :
      Performs s op s'
  | starts (given : Option (Nat × Settings)) (named : Option Path) (directory : Value)
      (from_ : Settings) (s' : Session) (was : s.started = false) (adds : s.AddsStart s' from_) :
      Performs s (.start given named directory) s'
  | resets (s' : Session) (unmarked : s'.started = false) (bare : ∀ key, s'.provided key = none) :
      Performs s .reset s'
  | drops (s' : Session) (same : s'.started = s.started) (bare : ∀ key, s'.provided key = none) :
      Performs s .dropContainer s'
  | registers (key : ServiceKey) (i : Instance) (f : Option Factory) (s' : Session)
      (same : s'.started = s.started) (bound : ∀ other, s'.provided other =
        if other = key then (offeredBy i f).or (s.provided key) else s.provided other) :
      Performs s (.register .global key i f) s'

theorem performs_perform (s : Session) (op : Operation) : s.Performs op (s.perform op) := by
  cases op with
  | start given named directory =>
      have ends := start_ends s given named directory
      change s.Performs _ (runOn s (start given named directory)).2
      generalize runOn s (start given named directory) = run at ends ⊢
      obtain ⟨result, s'⟩ := run
      cases ends with
      | again c _ was handed keeps => exact .keeps _ s' nofun keeps
      | unloaded e s₀ _ was nothing continues failed keeps => exact .keeps _ s' nofun keeps
      | concluded from_ c _ was uses adds => exact .starts given named directory from_ s' was adds
      | untold from_ e _ was uses adds => exact .starts given named directory from_ s' was adds
  | reset => exact .resets _ rfl fun _ => rfl
  | dropContainer => exact .drops _ rfl fun _ => rfl
  | container slot => exact .keeps _ _ nofun (still_container slot s)
  | addContainer => exact .keeps _ _ nofun (.of_same s _ rfl fun _ => rfl)
  | register slot key i f =>
      cases slot with
      | global =>
          obtain ⟨same, bound⟩ := register_ends s key i f
          exact .registers key i f _ same bound
      | numbered n =>
          have elsewhere : Action.Keeps (register (.numbered n) key i f) :=
            .bind (still_container _) fun c => .bind (.ofFault _) fun c' =>
              .modify _ fun s => .of_same s _ rfl fun _ => rfl
          exact .keeps _ _ nofun (elsewhere s)
  | tryResolve slot key => exact .keeps _ _ nofun (keeps_tryResolve slot key s)
  | resolve slot key => exact .keeps _ _ nofun (keeps_resolve slot key s)
  | newService catalog chunkSize logger =>
      exact .keeps _ _ nofun (within_newServiceBy tryResolve keeps_tryResolve catalog chunkSize logger s)
  | hash c service =>
      cases c with
      | data algorithm v => exact .keeps _ _ nofun (keeps_hashData service algorithm v s)
      | file algorithm path => exact .keeps _ _ nofun (keeps_hashFile service algorithm path s)
      | files path algorithms => exact .keeps _ _ nofun (keeps_hashFileMany service path algorithms s)
  | outside host => exact .keeps _ _ nofun (.of_same s _ rfl fun _ => rfl)

/-! ## The mark and the registrations -/

def Complete (s : Session) : Prop := ∀ key ∈ startKeys, s.registered key ≠ none

theorem Complete.of_keeps (s s' : Session) (complete : s.Complete) (keeps : s.Keeps s') :
    s'.Complete := by
  intro key member
  rw [keeps.registered]
  exact complete key member

theorem Complete.of_registers (s s' : Session) (complete : s.Complete) (key : ServiceKey)
    (i : Instance) (f : Option Factory) (bound : ∀ other, s'.provided other =
      if other = key then (offeredBy i f).or (s.provided key) else s.provided other) :
    s'.Complete := by
  intro other member
  have before := complete other member
  unfold Session.registered at before ⊢
  rw [bound other]
  split
  next same =>
    rw [same] at before
    cases offeredBy i f with
    | some p => exact nofun
    | none => exact before
  next => exact before

theorem AddsStart.complete (s s' : Session) (from_ : Settings) (adds : s.AddsStart s' from_) :
    s'.Complete := by
  intro key member
  obtain ⟨serial, stands⟩ := adds.registered
  obtain ⟨p, new⟩ := offered_of_startKeys serial from_ key member
  rw [stands key, new]
  exact nofun

/-- The container was dropped while the program was started, and no reset has come since. -/
def Abandoned (s : Session) (ops : List Operation) : Prop :=
  ∃ earlier later, ops = earlier ++ .dropContainer :: later ∧
    (s.after earlier).started = true ∧ .reset ∉ later

theorem Abandoned.concat (s : Session) (ops : List Operation) (op : Operation)
    (abandoned : s.Abandoned ops) (unreset : op ≠ .reset) : s.Abandoned (ops ++ [op]) := by
  obtain ⟨earlier, later, rfl, marked, none⟩ := abandoned
  refine ⟨earlier, later ++ [op], by simp, marked, ?_⟩
  simp only [List.mem_append, List.mem_singleton, not_or]
  exact ⟨none, unreset.symm⟩

theorem complete_or_abandoned (s : Session) (fresh : s.started = false) (ops : List Operation)
    (marked : (s.after ops).started = true) : (s.after ops).Complete ∨ s.Abandoned ops := by
  -- From the end: what the last operation did decides which of the two holds after it.
  induction ops using List.reverseRecOn with
  | nil => cases fresh.symm.trans marked
  | append_singleton ops op ih =>
      have step := performs_perform (s.after ops) op
      rw [after_concat] at marked ⊢
      generalize (s.after ops).perform op = s' at step marked ⊢
      cases step with
      | keeps _ _ unreset keeps =>
          rcases ih (keeps.started.symm.trans marked) with complete | abandoned
          · exact Or.inl (complete.of_keeps _ _ keeps)
          · exact Or.inr (abandoned.concat _ _ _ unreset)
      | starts _ _ _ from_ _ was adds => exact Or.inl (adds.complete _ _ _)
      | resets _ unmarked => cases unmarked.symm.trans marked
      | drops _ same bare =>
          exact Or.inr ⟨ops, [], rfl, same.symm.trans marked, List.not_mem_nil⟩
      | registers key i f _ same bound =>
          rcases ih (same.symm.trans marked) with complete | abandoned
          · exact Or.inl (complete.of_registers _ _ key i f bound)
          · exact Or.inr (abandoned.concat _ _ _ nofun)

theorem started_perform (s : Session) (marked : s.started = true) (op : Operation)
    (unreset : op ≠ .reset) : (s.perform op).started = true := by
  have step := performs_perform s op
  generalize s.perform op = s' at step ⊢
  cases step with
  | keeps _ _ _ keeps => exact keeps.started.trans marked
  | starts _ _ _ _ _ was => cases was.symm.trans marked
  | resets => exact absurd rfl unreset
  | drops _ same => exact same.trans marked
  | registers _ _ _ _ same => exact same.trans marked

/-- Under the mark of a start nothing comes to be registered but by the caller. -/
theorem bare_perform (s : Session) (marked : s.started = true)
    (bare : ∀ key, s.registered key = none) (op : Operation) (unregistered : ¬ op.Registers)
    (key : ServiceKey) : (s.perform op).registered key = none := by
  have step := performs_perform s op
  generalize s.perform op = s' at step ⊢
  cases step with
  | keeps _ _ _ keeps => rw [keeps.registered, bare]
  | starts _ _ _ _ _ was => cases was.symm.trans marked
  | resets _ _ none => rw [registered, none, Option.map_none]
  | drops _ _ none => rw [registered, none, Option.map_none]
  | registers => exact absurd trivial unregistered

section
variable (s : Session) (marked : s.started = true) (ops : List Operation) (unreset : .reset ∉ ops)
include marked unreset

theorem started_after : (s.after ops).started = true := by
  induction ops generalizing s with
  | nil => exact marked
  | cons op rest ih =>
      rw [List.mem_cons, not_or] at unreset
      obtain ⟨first, others⟩ := unreset
      exact ih (s.perform op) (started_perform s marked op (Ne.symm first)) others

theorem bare_after (bare : ∀ key, s.registered key = none)
    (unregistered : ∀ op ∈ ops, ¬ op.Registers) (key : ServiceKey) :
    (s.after ops).registered key = none := by
  induction ops generalizing s with
  | nil => exact bare key
  | cons op rest ih =>
      rw [List.mem_cons, not_or] at unreset
      obtain ⟨first, others⟩ := unreset
      have still := started_perform s marked op (Ne.symm first)
      have none := bare_perform s marked bare op (unregistered op List.mem_cons_self)
      exact ih (s.perform op) still others none
        fun op member => unregistered op (List.mem_cons_of_mem _ member)

end

theorem registered_eq_none_iff (s : Session) (c : Container) (present : s.globalContainer = some c)
    (key : ServiceKey) : s.registered key = none ↔ c.provider? key = none := by
  rw [registered, provided, present]
  exact Option.map_eq_none_iff

/-- After a history that begins unstarted, the mark of a start and a start that returns both stand
for a container with everything registered, unless the container was dropped under the mark and no
reset has come since. Then the mark stays, and without registrations of the caller's own every start
returns a container with nothing in it. -/
theorem started_program_has_complete_container_unless_abandoned (s : Session)
    (fresh : s.started = false) (ops : List Operation) :
    (¬ s.Abandoned ops →
      ((s.after ops).started = true → (s.after ops).Complete) ∧
      ∀ (given : Option (Nat × Settings)) (named : Option Path) (directory : Value) (c : Container)
          (s' : Session), runOn (s.after ops) (start given named directory) = (.ok c, s') →
        s'.globalContainer = some c ∧ s'.started = true ∧
          ∀ key ∈ startKeys, c.provider? key ≠ none) ∧
    (s.Abandoned ops →
      (s.after ops).started = true ∧
      ∀ (given : Option (Nat × Settings)) (named : Option Path) (directory : Value),
        ∃ c s', runOn (s.after ops) (start given named directory) = (.ok c, s') ∧
          s'.globalContainer = some c ∧
          ((∀ op ∈ ops, ¬ op.Registers) → ∀ key, c.provider? key = none)) := by
  constructor
  · intro kept
    have complete (marked : (s.after ops).started = true) : (s.after ops).Complete :=
      (complete_or_abandoned s fresh ops marked).resolve_right kept
    refine ⟨complete, ?_⟩
    intro given named directory c s' run
    have filled (handed : s'.globalContainer = some c) (all : s'.Complete) :
        ∀ key ∈ startKeys, c.provider? key ≠ none := by
      intro key member missing
      exact all key member ((registered_eq_none_iff s' c handed key).mpr missing)
    have ends := start_ends (s.after ops) given named directory
    rw [run] at ends
    cases ends with
    | again _ _ was handed keeps =>
        exact ⟨handed, keeps.started.trans was, filled handed ((complete was).of_keeps _ _ keeps)⟩
    | concluded from_ _ _ was uses adds handed marked =>
        exact ⟨handed, marked, filled handed (adds.complete _ _ _)⟩
  · rintro ⟨earlier, later, rfl, marked, unreset⟩
    let dropped : Session := (s.after earlier).perform .dropContainer
    have held : dropped.started = true := marked
    have now : s.after (earlier ++ .dropContainer :: later) = dropped.after later :=
      s.after_append _ _
    rw [now]
    have still := started_after dropped held later unreset
    refine ⟨still, ?_⟩
    intro given named directory
    have ends := start_ends (dropped.after later) given named directory
    cases run : runOn (dropped.after later) (start given named directory) with
    | mk result s' =>
        rw [run] at ends
        cases ends with
        | again c _ was handed keeps =>
            refine ⟨c, s', rfl, handed, ?_⟩
            intro unregistered key
            have bare := bare_after dropped held later unreset (fun _ => rfl)
              (fun op member =>
                unregistered op (List.mem_append_right _ (List.mem_cons_of_mem _ member))) key
            rw [← keeps.registered] at bare
            exact (registered_eq_none_iff s' c handed key).mp bare
        | unloaded _ _ _ was => cases was.symm.trans still
        | concluded _ _ _ was => cases was.symm.trans still
        | untold _ _ _ was => cases was.symm.trans still

theorem started_program_has_complete_container_unless_abandoned_started_twice :
    let once : List Operation := [.start (some (0, ⟨.default, .default, none, none⟩)) none .null]
    onEmptyDisk.started = false ∧
      (¬ onEmptyDisk.Abandoned once ∧
        ∃ c s', runOn (onEmptyDisk.after once) (start none none .null) = (.ok c, s') ∧
          s'.globalContainer = some c ∧ ∀ key ∈ startKeys, c.provider? key ≠ none) ∧
      onEmptyDisk.Abandoned (once ++ [.dropContainer]) ∧
        (onEmptyDisk.after (once ++ [.dropContainer])).started = true := by
  intro once
  have kept : ¬ onEmptyDisk.Abandoned once := by
    rintro ⟨earlier, later, same, -⟩
    have member : Operation.dropContainer ∈ once := by
      rw [same]
      exact List.mem_append_right _ List.mem_cons_self
    cases List.mem_singleton.mp member
  have abandoned : onEmptyDisk.Abandoned (once ++ [.dropContainer]) :=
    ⟨once, [], rfl, rfl, List.not_mem_nil⟩
  have run : runOn (onEmptyDisk.after once) (start none none .null) = (.ok _, _) := rfl
  obtain ⟨whole, -⟩ := started_program_has_complete_container_unless_abandoned onEmptyDisk rfl once
  obtain ⟨-, left⟩ := started_program_has_complete_container_unless_abandoned onEmptyDisk rfl
    (once ++ [.dropContainer])
  obtain ⟨handed, -, filled⟩ := (whole kept).2 none none .null _ _ run
  exact ⟨rfl, ⟨kept, _, _, run, handed, filled⟩, abandoned, (left abandoned).1⟩

/-- Dropping the container of a started program leaves the mark, and the next start returns an empty
container. -/
theorem start_hands_out_empty_container :
    let ops : List Operation :=
      [.start (some (0, ⟨.default, .default, none, none⟩)) none .null, .dropContainer]
    (onEmptyDisk.after ops).started = true ∧
      (∀ key ∈ startKeys, (onEmptyDisk.after ops).registered key = none) ∧
      ∃ c s', runOn (onEmptyDisk.after ops) (start none none .null) = (.ok c, s') ∧
        c.providers = [] := by
  intro ops
  exact ⟨rfl, fun _ _ => rfl, _, _, rfl, rfl⟩

end Session
end Fingerprint
