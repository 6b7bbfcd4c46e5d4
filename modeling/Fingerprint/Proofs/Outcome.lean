import Fingerprint.Service

/-! # Outcomes

How the outcome of a computation is taken apart: a chain of steps gives a result when each step
does, and ends with the error of the first step that does not. Outcomes that failures leave empty
give a result exactly where the strict ones do. `FailsOnly` says that nothing but failures ends a
computation. -/
set_option autoImplicit false
namespace Fingerprint

section
variable {ε α β : Type}

theorem bind_eq_ok_iff (x : Except ε α) (f : α → Except ε β) (b : β) :
    (x >>= f) = .ok b ↔ ∃ a, x = .ok a ∧ f a = .ok b := by
  cases x with
  | ok a =>
      constructor
      · intro run
        exact ⟨a, rfl, run⟩
      · rintro ⟨a', same, run⟩
        cases same
        exact run
  | error e =>
      constructor
      · intro run
        cases run
      · rintro ⟨a, same, -⟩
        cases same

theorem bind_eq_error_iff (x : Except ε α) (f : α → Except ε β) (e : ε) :
    (x >>= f) = .error e ↔ x = .error e ∨ ∃ a, x = .ok a ∧ f a = .error e := by
  cases x with
  | ok a =>
      constructor
      · intro run
        exact Or.inr ⟨a, rfl, run⟩
      · rintro (same | ⟨a', same, run⟩)
        · cases same
        · cases same
          exact run
  | error e' =>
      constructor
      · intro run
        cases run
        exact Or.inl rfl
      · rintro (same | ⟨a, same, -⟩)
        · cases same
          rfl
        · cases same

theorem map_eq_ok_iff (x : Except ε α) (f : α → β) (b : β) :
    x.map f = .ok b ↔ ∃ a, x = .ok a ∧ f a = b := by
  cases x with
  | ok a => simp [Except.map]
  | error e => simp [Except.map]

theorem map_eq_error_iff (x : Except ε α) (f : α → β) (e : ε) :
    x.map f = .error e ↔ x = .error e := by
  cases x with
  | ok a => simp [Except.map]
  | error e' => simp [Except.map]

theorem mapError_ok {δ : Type} (a : α) (f : ε → δ) :
    (Except.ok a).mapError f = .ok a := rfl

theorem mapError_error {δ : Type} (e : ε) (f : ε → δ) :
    (Except.error e : Except ε α).mapError f = .error (f e) := rfl

theorem mapError_eq_ok_iff {δ : Type} (x : Except ε α) (f : ε → δ) (a : α) :
    x.mapError f = .ok a ↔ x = .ok a := by
  cases x with
  | ok a' => simp [mapError_ok]
  | error e => simp [mapError_error]

theorem mapError_eq_error_iff {δ : Type} (x : Except ε α) (f : ε → δ) (d : δ) :
    x.mapError f = .error d ↔ ∃ e, x = .error e ∧ f e = d := by
  cases x with
  | ok a => simp [mapError_ok]
  | error e => simp [mapError_error]

end

variable {α : Type}

theorem collapse_eq_some_iff (x : Except Error α) (a : α) :
    collapse x = .ok (some a) ↔ x = .ok a := by
  cases x with
  | ok a' => simp [collapse]
  | error e => cases e <;> simp [collapse]

theorem reported_eq_some (call : Text) (subject : Value) (x : Except Error α) (a : α)
    (records : List Record) (ends : Service.reported call subject x = .ok (some a, records)) :
    x = .ok a := by
  cases x with
  | ok a' =>
      cases ends
      rfl
  | error e => cases e <;> cases ends

def FailsOnly (x : Except Error α) : Prop := ∀ e, x = .error e → ∃ f, e = .failure f

theorem FailsOnly.bind {β : Type} {x : Except Error α} {f : α → Except Error β}
    (first : FailsOnly x) (second : ∀ a, x = .ok a → FailsOnly (f a)) : FailsOnly (x >>= f) := by
  intro e ends
  rcases (bind_eq_error_iff x f e).mp ends with early | ⟨a, passed, late⟩
  · exact first e early
  · exact second a passed e late

theorem failsOnly_of_ok {x : Except Error α} {a : α} (passed : x = .ok a) : FailsOnly x := by
  intro e ends
  rw [passed] at ends
  cases ends

theorem reported_eq_ok (call : Text) (subject : Value) (x : Except Error α) (fails : FailsOnly x) :
    ∃ result, Service.reported call subject x = .ok result := by
  cases x with
  | ok a => exact ⟨_, rfl⟩
  | error e =>
      obtain ⟨f, rfl⟩ := fails e rfl
      exact ⟨_, rfl⟩

theorem reported_returns_iff (call : Text) (subject : Value) (x : Except Error α) :
    (∃ result, Service.reported call subject x = .ok result) ↔ FailsOnly x := by
  refine ⟨?_, reported_eq_ok call subject x⟩
  rintro ⟨result, returned⟩ e rfl
  cases e with
  | failure f => exact ⟨f, rfl⟩
  | _ => cases returned

theorem collapse_returns_iff (x : Except Error α) :
    (∃ result, collapse x = .ok result) ↔ FailsOnly x := by
  constructor
  · rintro ⟨result, returned⟩ e rfl
    cases e with
    | failure f => exact ⟨f, rfl⟩
    | _ => cases returned
  · intro fails
    cases x with
    | ok a => exact ⟨some a, rfl⟩
    | error e =>
        obtain ⟨f, rfl⟩ := fails e rfl
        exact ⟨none, rfl⟩

end Fingerprint
