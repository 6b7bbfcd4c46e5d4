import Fingerprint.Session.Hashing
import Fingerprint.Proofs.Outcome

/-! # Running actions

What a run of an action gives, construct by construct. Loggers of the library's own kinds take any
message (`logTo_returns`), so that reporting to one of them never ends an action
(`report_returns`). -/
set_option autoImplicit false
namespace Fingerprint

namespace Action
variable {α β : Type}

theorem runOn_bind (s : Session) (x : Action α) (f : α → Action β) :
    runOn s (x >>= f) = match runOn s x with
      | (.ok a, s') => runOn s' (f a)
      | (.error e, s') => (.error e, s') := by
  have opened : runOn s (x >>= f) =
      (ExceptT.bindCont f (runOn s x).1 (runOn s x).2).run := rfl
  rw [opened]
  rcases runOn s x with ⟨_ | _, _⟩ <;> rfl

theorem runOn_bind_ok (s s' : Session) (x : Action α) (f : α → Action β) (a : α)
    (first : runOn s x = (.ok a, s')) : runOn s (x >>= f) = runOn s' (f a) := by
  rw [runOn_bind, first]

theorem runOn_bind_congr (s t : Session) (x y : Action α) (f : α → Action β)
    (same : runOn s x = runOn t y) : runOn s (x >>= f) = runOn t (y >>= f) := by
  rw [runOn_bind, runOn_bind, same]

theorem runOn_bind_eq_ok (s s' : Session) (x : Action α) (f : α → Action β) (b : β)
    (run : runOn s (x >>= f) = (.ok b, s')) :
    ∃ a s₁, runOn s x = (.ok a, s₁) ∧ runOn s₁ (f a) = (.ok b, s') := by
  rw [runOn_bind] at run
  cases first : runOn s x with
  | mk result s₁ =>
      rw [first] at run
      cases result with
      | ok a => exact ⟨a, s₁, rfl, run⟩
      | error e => cases run

theorem runOn_pure (s : Session) (a : α) : runOn s (pure a : Action α) = (.ok a, s) := rfl

theorem runOn_get_bind (s : Session) (f : Session → Action β) :
    runOn s (get >>= f) = runOn s (f s) := rfl

theorem runOn_tryCatch (s : Session) (x : Action α) (f : Error → Action α) :
    runOn s (tryCatch x f) = match runOn s x with
      | (.ok a, s') => (.ok a, s')
      | (.error e, s') => runOn s' (f e) := by
  have opened : runOn s (tryCatch x f) = ExceptT.tryCatch x f s := rfl
  have first : x s = runOn s x := rfl
  rw [opened, ExceptT.tryCatch, ExceptT.mk]
  simp only [bind, StateT.bind, first]
  rcases runOn s x with ⟨_ | _, _⟩ <;> rfl

theorem runOn_ofExcept (s : Session) (x : Except Error α) : runOn s (ofExcept x) = (x, s) := by
  cases x <;> rfl

end Action

open Fingerprint.Action

inductive Instance.IsLogger : Instance → Prop where
  | logger (serial : Nat) (name : Text) : IsLogger (.logger serial name)
  | silent (serial : Nat) : IsLogger (.silentLogger serial)
  | recorder (serial : Nat) : IsLogger (.recorder serial)

theorem Template.message_without_arguments (template : Value) :
    Template.message? template [] = some template.shown := rfl

namespace Session

theorem logTo_returns (s : Session) (i : Instance) (isLogger : i.IsLogger) (level : Level)
    (message : Text) : ∃ s', runOn s (logTo i level (.text message) []) = (.ok (), s') := by
  cases isLogger with
  | logger serial name => exact ⟨_, rfl⟩
  | silent serial => exact ⟨s, rfl⟩
  | recorder serial =>
      rw [logTo, Template.message_without_arguments]
      exact ⟨_, rfl⟩

/-- A new logger, or the reason why it could not be set up; the journal is that of setting up. -/
theorem runOn_newLogger (s : Session) (part : Settings.LoggingSection) (name : Text)
    (file : Option Path) : runOn s (newLogger part name file) =
      match s.journal.setUp s.host.directory part name (file.getD s.logFile) with
      | (j, none) =>
        (.ok (.logger s.objects name), { s.withJournal j with objects := s.objects + 1 })
      | (j, some f) => (.error (.fault f), s.withJournal j) := by
  unfold newLogger
  rw [runOn_get_bind]
  rcases s.journal.setUp s.host.directory part name (file.getD s.logFile) with ⟨j, _ | f⟩ <;> rfl

theorem report_returns (s : Session) (own : Instance) (isLogger : own.IsLogger)
    (records : List Record) : ∃ s', runOn s (report own records) = (.ok (), s') := by
  have counts : own.isTrue = true := by cases isLogger <;> rfl
  unfold report reportBy
  rw [counts]
  induction records generalizing s with
  | nil => exact ⟨s, rfl⟩
  | cons r rest ih =>
      obtain ⟨s₁, logged⟩ := logTo_returns s own isLogger r.level r.message
      obtain ⟨s₂, others⟩ := ih s₁
      refine ⟨s₂, ?_⟩
      exact (runOn_bind_ok s s₁ _ _ () logged).trans others

end Session
end Fingerprint
