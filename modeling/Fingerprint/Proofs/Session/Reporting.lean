import Fingerprint.Proofs.Session.Histories

/-! # Who takes a record

A call that computes nothing because of a failure leaves one record, which the service's own logger
takes, or else the logger that is bound at that moment (`Taken`). A bound logger may have to be made
first, and then the record and the result of the call depend on whether it can be made
(`LoggerStuck`). -/
set_option autoImplicit false
namespace Fingerprint
open Fingerprint.Action

namespace Call

def compute (i : Instance) : (c : Call) → Action c.Result
  | .data algorithm v => Session.computeData i algorithm v
  | .file algorithm path => Session.computeFile i algorithm path
  | .files path algorithms => Session.computeFileMany i path algorithms

def name : Call → Text
  | .data .. => "hash_data"
  | .file .. => "hash_file"
  | .files .. => "hash_file_many"

def subject : Call → Value
  | .data algorithm _ | .file algorithm _ => algorithm
  | .files _ algorithms => algorithms

def record (c : Call) (f : Failure) : Record := Service.noResult c.name c.subject f

end Call

namespace Instance.IsLogger

theorem something (i : Instance) (isLogger : i.IsLogger) : i.isNothing = false := by
  cases isLogger <;> rfl

theorem isTrue (i : Instance) (isLogger : i.IsLogger) : i.isTrue = true := by
  cases isLogger <;> rfl

end Instance.IsLogger

namespace Session

/-! ## Taking a record -/

def handed (s : Session) (l : Instance) (r : Record) : Session :=
  match l with
  | .logger _ name => s.withJournal (s.journal.log s.clock name r.level (.text r.message) [])
  | .recorder _ => { s with recorded := s.recorded ++ [r] }
  | _ => s

theorem logTo_handed (s : Session) (l : Instance) (isLogger : l.IsLogger) (r : Record) :
    runOn s (logTo l r.level (.text r.message) []) = (.ok (), s.handed l r) := by
  cases isLogger with
  | logger serial name => rfl
  | silent serial => rfl
  | recorder serial =>
      rw [logTo, Template.message_without_arguments]
      rfl

theorem logTo_misfit (s : Session) (i : Instance) (misfit : ¬ i.IsLogger) (r : Record) :
    runOn s (logTo i r.level (.text r.message) []) = (.error (.fault .noAttribute), s) := by
  cases i with
  | logger serial name => exact absurd (.logger serial name) misfit
  | silentLogger serial => exact absurd (.silent serial) misfit
  | recorder serial => exact absurd (.recorder serial) misfit
  | _ => rfl

/-- No logger wrote anything in between. -/
structure Unheard (s s' : Session) : Prop where
  host : s'.host = s.host
  console : s'.console = s.console
  loggers : s'.loggers = s.loggers
  recorded : s'.recorded = s.recorded

def AtHand (s : Session) (i : Instance) : Prop :=
  s.provided .logger = some (.ready i) ∨ ∃ f, s.provided .logger = some (.shared f (some i))

/-- Asked now, the factory fails or makes something that is no logger. -/
def Stuck (s : Session) : Factory → Prop
  | .nothing => False
  | .logger part => ¬ s.Opens part
  | _ => True

/-- What is bound for loggers is none, or it is still to be made and cannot be made now. -/
def LoggerStuck (s : Session) : Prop :=
  (∃ i, s.AtHand i ∧ i.isNothing = false ∧ ¬ i.IsLogger) ∨
    ∃ f, s.provided .logger = some (.shared f none) ∧ s.Stuck f

/-- Who takes the record of a service with the given logger, and what comes of it. -/
inductive Taken (s : Session) (r : Record) : Instance → Except Error Unit → Session → Prop
  | own (l : Instance) (isLogger : l.IsLogger) : Taken s r l (.ok ()) (s.handed l r)
  | bound (l : Instance) (isLogger : l.IsLogger) (there : s.AtHand l) :
      Taken s r .nothing (.ok ()) (s.handed l r)
  | made (part : Settings.LoggingSection) (l : Instance) (s' : Session) (isLogger : l.IsLogger)
      (fresh : s.provided .logger = some (.shared (.logger part) none)) (opens : s.Opens part)
      (quiet : s'.recorded = s.recorded ∧ s'.console = s.console)
      (found : runOn s (tryResolve .global .logger) = (.ok (some l), s')) :
      Taken s r .nothing (.ok ()) (s'.handed l r)
  | nobody (s' : Session) (unheard : s.Unheard s')
      (missing : s.provided .logger = none ∨ (∃ i, s.AtHand i ∧ i.isNothing = true) ∨
        s.provided .logger = some (.shared .nothing none)) :
      Taken s r .nothing (.ok ()) s'
  | stuck (e : Error) (s' : Session) (stuck : s.LoggerStuck) : Taken s r .nothing (.error e) s'

namespace AtHand

theorem unique (s : Session) (i j : Instance) (here : s.AtHand i) (there : s.AtHand j) : i = j := by
  rcases here with ready | ⟨f, kept⟩
  · rcases there with ready' | ⟨f', kept'⟩
    · cases ready.symm.trans ready'
      rfl
    · cases ready.symm.trans kept'
  · rcases there with ready' | ⟨f', kept'⟩
    · cases kept.symm.trans ready'
    · cases kept.symm.trans kept'
      rfl

theorem not_fresh (s : Session) (i : Instance) (here : s.AtHand i) (f : Factory) :
    s.provided .logger ≠ some (.shared f none) := by
  intro fresh
  rcases here with ready | ⟨f', kept⟩
  · cases ready.symm.trans fresh
  · cases kept.symm.trans fresh

theorem bound (s : Session) (i : Instance) (here : s.AtHand i) : s.provided .logger ≠ none := by
  intro unbound
  rcases here with ready | ⟨f, kept⟩
  · cases unbound.symm.trans ready
  · cases unbound.symm.trans kept

theorem found (s : Session) (i : Instance) (here : s.AtHand i) :
    runOn s (tryResolve .global .logger) = (.ok (some i), s) := by
  rcases here with ready | ⟨f, kept⟩
  · exact tryResolve_ready 4 s .logger i ready
  · exact tryResolve_kept 4 s .logger f i kept

end AtHand

theorem Taken.ok_iff (s : Session) (r : Record) (own : Instance) (delivered : Except Error Unit)
    (s' : Session) (taken : s.Taken r own delivered s') :
    delivered = .ok () ↔ ¬ (own = .nothing ∧ s.LoggerStuck) := by
  have done (x : Prop) (free : ¬ x) : Except.ok (ε := Error) () = .ok () ↔ ¬ x :=
    ⟨fun _ => free, fun _ => rfl⟩
  cases taken with
  | own l isLogger =>
      refine done _ ?_
      rintro ⟨rfl, -⟩
      cases isLogger
  | bound l isLogger there =>
      refine done _ ?_
      rintro ⟨-, ⟨i, here, -, misfit⟩ | ⟨f, fresh, -⟩⟩
      · exact misfit (there.unique s l i here ▸ isLogger)
      · exact there.not_fresh s l f fresh
  | made part l s' isLogger fresh opens quiet found =>
      refine done _ ?_
      rintro ⟨-, ⟨i, here, -⟩ | ⟨f, fresh', stuck⟩⟩
      · exact here.not_fresh s i _ fresh
      · cases fresh.symm.trans fresh'
        exact stuck opens
  | nobody s' unheard missing =>
      refine done _ ?_
      rintro ⟨-, ⟨i, here, something, -⟩ | ⟨f, fresh, stuck⟩⟩
      · rcases missing with unbound | ⟨j, there, nothing⟩ | none
        · exact here.bound s i unbound
        · cases here.unique s i j there
          cases nothing.symm.trans something
        · exact here.not_fresh s i _ none
      · rcases missing with unbound | ⟨j, there, -⟩ | none
        · cases unbound.symm.trans fresh
        · exact there.not_fresh s j f fresh
        · cases none.symm.trans fresh
          exact stuck
  | stuck e s' stuck => exact ⟨nofun, fun free => absurd ⟨rfl, stuck⟩ free⟩

/-! ## Reporting -/

section
variable (s : Session) (r : Record)

theorem report_own (own : Instance) (isLogger : own.IsLogger) :
    runOn s (report own [r]) = (.ok (), s.handed own r) := by
  have taken := logTo_handed s own isLogger r
  unfold report reportBy
  rw [isLogger.isTrue]
  exact (runOn_bind_ok s _ _ _ () taken).trans rfl

theorem report_shared : runOn s (report .nothing [r]) =
    runOn s (sharedLogger >>= fun l => logTo l r.level (.text r.message) []) := by
  have one : report .nothing [r] =
      (sharedLogger >>= fun l => logTo l r.level (.text r.message) []) >>= fun _ => pure () := rfl
  rw [one, bind_pure_unit]

theorem reportBy_cons (rest : List Record) : reportBy tryResolve .nothing (r :: rest) =
    (report .nothing [r] >>= fun _ => reportBy tryResolve .nothing rest) := by
  simp only [report, reportBy, List.forM_eq_forM, List.forM_cons, List.forM_nil, bind_assoc,
    pure_bind]

section
variable (s' : Session)

theorem report_found (i : Instance) (something : i.isNothing = false)
    (found : runOn s (tryResolve .global .logger) = (.ok (some i), s')) :
    runOn s (report .nothing [r]) = runOn s' (logTo i r.level (.text r.message) []) := by
  have shared : runOn s sharedLogger = (.ok i, s') := by
    unfold sharedLogger sharedLoggerBy
    rw [runOn_bind_ok s s' _ _ _ found, orElseMake, something]
    rfl
  rw [report_shared, runOn_bind_ok s s' _ _ i shared]

theorem report_missing (found : Option Instance)
    (missing : ∀ i, found = some i → i.isNothing = true)
    (looked : runOn s (tryResolve .global .logger) = (.ok found, s')) :
    runOn s (report .nothing [r]) = (.ok (), { s' with objects := s'.objects + 1 }) := by
  have silent : runOn s sharedLogger =
      (.ok (.silentLogger s'.objects), { s' with objects := s'.objects + 1 }) := by
    unfold sharedLogger sharedLoggerBy
    rw [runOn_bind_ok s s' _ _ _ looked]
    cases found with
    | none => rfl
    | some i =>
        rw [orElseMake, missing i rfl]
        rfl
  rw [report_shared, runOn_bind_ok s _ _ _ _ silent]
  rfl

theorem report_fails (e : Error) (fails : runOn s (tryResolve .global .logger) = (.error e, s')) :
    runOn s (report .nothing [r]) = (.error e, s') := by
  have raised : runOn s sharedLogger = (.error e, s') := by
    unfold sharedLogger sharedLoggerBy
    rw [runOn_bind, fails]
  rw [report_shared, runOn_bind, raised]

end

theorem taken_atHand (i : Instance) (there : s.AtHand i) :
    ∃ delivered s', Taken s r .nothing delivered s' ∧
      runOn s (report .nothing [r]) = (delivered, s') := by
  have found := there.found s i
  cases kind : i.isNothing with
  | true =>
      have unheard : s.Unheard { s with objects := s.objects + 1 } := ⟨rfl, rfl, rfl, rfl⟩
      have missing : ∀ j, some i = some j → j.isNothing = true := by
        rintro _ ⟨⟩
        exact kind
      exact ⟨_, _, .nobody _ unheard (Or.inr (Or.inl ⟨i, there, kind⟩)),
        report_missing s r s (some i) missing found⟩
  | false =>
      have handing := report_found s r s i kind found
      by_cases isLogger : i.IsLogger
      · exact ⟨_, _, .bound i isLogger there, handing.trans (logTo_handed s i isLogger r)⟩
      · exact ⟨_, _, .stuck _ s (Or.inl ⟨i, there, kind, isLogger⟩),
          handing.trans (logTo_misfit s i isLogger r)⟩

theorem report_other (f : Factory) (fresh : s.provided .logger = some (.shared f none))
    (other : ∀ i, f.Gives i → i.isNothing = false ∧ ¬ i.IsLogger) :
    ∃ e s', runOn s (report .nothing [r]) = (.error e, s') := by
  cases makes : runOn s (makeBy (tryResolveWithin 4) .global f) with
  | mk result s₁ =>
      cases result with
      | error e =>
          have failed := tryResolve_fails 4 s s₁ .logger f fresh e makes
          exact ⟨e, s₁, report_fails s r s₁ e failed⟩
      | ok i =>
          obtain ⟨something, misfit⟩ := other i (gives_of_makeBy _ _ f s s₁ i makes)
          obtain ⟨s₂, found, -⟩ := tryResolve_makes 4 s s₁ .logger f fresh i makes something
          exact ⟨_, s₂, (report_found s r s₂ i something found).trans (logTo_misfit s₂ i misfit r)⟩

theorem taken_fresh (f : Factory) (fresh : s.provided .logger = some (.shared f none)) :
    ∃ delivered s', Taken s r .nothing delivered s' ∧
      runOn s (report .nothing [r]) = (delivered, s') := by
  have misfits (stuck : s.Stuck f)
      (other : ∀ i, f.Gives i → i.isNothing = false ∧ ¬ i.IsLogger) :
      ∃ delivered s', Taken s r .nothing delivered s' ∧
        runOn s (report .nothing [r]) = (delivered, s') := by
    obtain ⟨e, s', ended⟩ := report_other s r f fresh other
    exact ⟨_, s', .stuck e s' (Or.inr ⟨f, fresh, stuck⟩), ended⟩
  cases f with
  | nothing =>
      let s₁ : Session := { s with factoryRuns := s.factoryRuns + 1 }
      have makes : runOn s (makeBy (tryResolveWithin 4) .global .nothing) = (.ok .nothing, s₁) := rfl
      have found := tryResolve_empty 4 s s₁ .logger _ fresh makes
      have missing : ∀ i, some Instance.nothing = some i → i.isNothing = true := by
        rintro _ ⟨⟩
        rfl
      have unheard : s.Unheard { s₁ with objects := s₁.objects + 1 } := ⟨rfl, rfl, rfl, rfl⟩
      exact ⟨_, _, .nobody _ unheard (Or.inr (Or.inr fresh)),
        report_missing s r s₁ _ missing found⟩
  | logger part =>
      obtain ⟨s', sets, ⟨opens, n, found, -⟩ | ⟨closed, e, failed, -⟩⟩ :=
        tryResolve_fresh_logger 4 s part fresh
      · have isLogger : (Instance.logger n defaultLoggerName).IsLogger := .logger _ _
        exact ⟨_, _, .made part _ s' isLogger fresh opens ⟨sets.recorded, sets.console⟩ found,
          (report_found s r s' _ rfl found).trans (logTo_handed s' _ isLogger r)⟩
      · exact ⟨_, s', .stuck e s' (Or.inr ⟨_, fresh, closed⟩), report_fails s r s' e failed⟩
  | counting | failing | constant | catalog | service =>
      refine misfits trivial ?_
      rintro i gives
      cases gives
      all_goals exact ⟨rfl, nofun⟩

theorem taken_report (own : Instance) (given : own.IsLogger ∨ own = .nothing) :
    ∃ delivered s', Taken s r own delivered s' ∧ runOn s (report own [r]) = (delivered, s') := by
  rcases given with isLogger | rfl
  · exact ⟨_, _, .own own isLogger, report_own s r own isLogger⟩
  · cases bound : s.provided .logger with
    | none =>
        obtain ⟨s', found, continues⟩ := tryResolve_unbound 4 s .logger bound
        have unheard : s.Unheard { s' with objects := s'.objects + 1 } :=
          ⟨continues.host, continues.console, continues.loggers, continues.recorded⟩
        exact ⟨_, _, .nobody _ unheard (Or.inl bound), report_missing s r s' none nofun found⟩
    | some p =>
        cases p with
        | ready i => exact taken_atHand s r i (Or.inl bound)
        | shared f made =>
            cases made with
            | some i => exact taken_atHand s r i (Or.inr ⟨f, bound⟩)
            | none => exact taken_fresh s r f bound

end
/-! ## Calls -/

def noting (s : Session) (events : List FileEvent) : Session :=
  { s with fileEvents := s.fileEvents ++ events }

theorem noting_nil (s : Session) : s.noting [] = s := by
  unfold noting
  rw [List.append_nil]

theorem noting_noting (s : Session) (events more : List FileEvent) :
    (s.noting events).noting more = s.noting (events ++ more) := by
  unfold noting
  rw [List.append_assoc]

theorem runOn_hash (s : Session) (call : Call) (serial k : Nat) (size : Value) (c : Catalog Hasher)
    (own : Instance) : ∃ outcome events,
      runOn s (call.compute (.service serial size (.catalog k c) own)) =
        (outcome, s.noting events) ∧
      runOn s (call.hash (.service serial size (.catalog k c) own)) =
        runOn (s.noting events) (reported own (Service.reported call.name call.subject outcome)) := by
  let service : Service Hasher := ⟨c, size⟩
  cases call with
  | data algorithm v =>
      refine ⟨service.computeData algorithm v, [], ?_, ?_⟩
      · rw [noting_nil]
        exact runOn_ofExcept s _
      · rw [noting_nil]
        rfl
  | file algorithm path =>
      let read := service.computeFile s.host.source algorithm path
      exact ⟨read.1, read.2, runOn_ofExcept (s.noting read.2) read.1, rfl⟩
  | files path algorithms =>
      let read := service.computeFileMany s.host.source path algorithms
      exact ⟨read.1, read.2, runOn_ofExcept (s.noting read.2) read.1, rfl⟩

theorem runOn_reported_failure {α : Type} (s : Session) (own : Instance) (call : Text)
    (subject : Value) (f : Failure) (delivered : Except Error Unit) (s' : Session)
    (told : runOn s (report own [Service.noResult call subject f]) = (delivered, s')) :
    runOn s (reported own (Service.reported (α := α) call subject (.error (.failure f)))) =
      (delivered.map fun _ => none, s') := by
  unfold reported Service.reported
  rw [runOn_bind_ok s s _ _ _ (runOn_ofExcept s _), runOn_bind, told]
  cases delivered <;> rfl

end Session
end Fingerprint
