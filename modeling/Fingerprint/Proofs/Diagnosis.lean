import Fingerprint.Diagnosis
import Fingerprint.Proofs.Outcome

/-! # Running computations that leave records

`runFrom` runs a computation after some records have been left; `outcome` is the run after none. A
chain runs its steps one after the other until one ends it. -/
set_option autoImplicit false
namespace Fingerprint.Diagnosed
variable {α β : Type}

def runFrom (records : List Record) (x : Diagnosed α) : Except Error α × List Record :=
  (x.run records).run

theorem outcome_eq (x : Diagnosed α) : x.outcome = x.runFrom [] := rfl

theorem runFrom_bind (records : List Record) (x : Diagnosed α) (f : α → Diagnosed β) :
    (x >>= f).runFrom records = match x.runFrom records with
      | (.ok a, left) => (f a).runFrom left
      | (.error e, left) => (.error e, left) := by
  have opened : (x >>= f).runFrom records =
      (ExceptT.bindCont f (x.runFrom records).1 (x.runFrom records).2).run := rfl
  rw [opened]
  rcases x.runFrom records with ⟨_ | _, _⟩ <;> rfl

theorem runFrom_bind_ok (records left : List Record) (x : Diagnosed α) (f : α → Diagnosed β) (a : α)
    (first : x.runFrom records = (.ok a, left)) :
    (x >>= f).runFrom records = (f a).runFrom left := by
  rw [runFrom_bind, first]

theorem runFrom_bind_error (records left : List Record) (x : Diagnosed α) (f : α → Diagnosed β)
    (e : Error) (first : x.runFrom records = (.error e, left)) :
    (x >>= f).runFrom records = (.error e, left) := by
  rw [runFrom_bind, first]

theorem runFrom_ofFault_bind (records : List Record) (x : Except Fault α) (f : α → Diagnosed β) :
    (ofFault x >>= f).runFrom records = match x with
      | .ok a => (f a).runFrom records
      | .error e => (.error (.fault e), records) := by
  cases x with
  | ok a => exact runFrom_bind_ok records records _ f a rfl
  | error e => exact runFrom_bind_error records records _ f _ rfl

@[simp] theorem runFrom_pure (records : List Record) (a : α) :
    (pure a : Diagnosed α).runFrom records = (.ok a, records) := rfl

@[simp] theorem runFrom_ofExcept (records : List Record) (x : Except Error α) :
    (ofExcept x).runFrom records = (x, records) := by
  cases x <;> rfl

@[simp] theorem runFrom_ofFault (records : List Record) (x : Except Fault α) :
    (ofFault x).runFrom records = (x.mapError Error.fault, records) :=
  runFrom_ofExcept records _

end Fingerprint.Diagnosed
