import Fingerprint.Proofs.Session.Action
import Fingerprint.Proofs.Value.Tables
import Fingerprint.Session.Container

/-! # What the container for the whole program provides

`provided` tells what a key is bound to, also where there is no container yet. Registering binds one
key; looking a key up keeps what its factory makes, and leaves what other keys are bound to. A
factory for loggers fails exactly where the logger cannot be set up (`Settled`). -/
set_option autoImplicit false
namespace Fingerprint
open Fingerprint.Action

namespace Container

theorem provider?_bind_same (c : Container) (key : ServiceKey) (p : Provider) :
    (c.bind key p).provider? key = some p := by
  simp [bind, provider?]

theorem provider?_bind_other (c : Container) (key other : ServiceKey) (p : Provider)
    (different : other ≠ key) : (c.bind key p).provider? other = c.provider? other := by
  have missed : (other == key) = false := beq_eq_false_iff_ne.mpr different
  unfold bind provider?
  rw [List.lookup_cons, missed]
  exact (lookup_filter_key (· != key) c.providers other).trans
    (if_pos (bne_iff_ne.mpr different))

end Container

namespace Session

def provided (s : Session) (key : ServiceKey) : Option Provider :=
  s.globalContainer.bind fun c => c.provider? key

/-- The later session differs in containers and in the number of objects alone. -/
structure Continues (s s' : Session) : Prop where
  host : s'.host = s.host
  home : s'.home = s.home
  console : s'.console = s.console
  loggers : s'.loggers = s.loggers
  recorded : s'.recorded = s.recorded
  started : s'.started = s.started
  faults : s'.faults = s.faults

theorem Continues.refl (s : Session) : Continues s s := ⟨rfl, rfl, rfl, rfl, rfl, rfl, rfl⟩

theorem Continues.trans (s s' s'' : Session) (first : Continues s s') (second : Continues s' s'') :
    Continues s s'' where
  host := second.host.trans first.host
  home := second.home.trans first.home
  console := second.console.trans first.console
  loggers := second.loggers.trans first.loggers
  recorded := second.recorded.trans first.recorded
  started := second.started.trans first.started
  faults := second.faults.trans first.faults

/-! ## The container -/

theorem container_present (s : Session) (c : Container) (present : s.globalContainer = some c) :
    runOn s (container .global) = (.ok c, s) := by
  unfold container
  rw [runOn_get_bind]
  simp only [present]
  rfl

theorem container_returns (s : Session) : ∃ c s', runOn s (container .global) = (.ok c, s') ∧
    s'.globalContainer = some c ∧ (∀ key, c.provider? key = s.provided key) ∧
    Continues s s' := by
  cases present : s.globalContainer with
  | some c =>
      refine ⟨c, s, container_present s c present, present, ?_, .refl s⟩
      intro key
      rw [provided, present]
      rfl
  | none =>
      have made : runOn s (container .global) = (.ok ⟨s.objects, []⟩,
          { s with objects := s.objects + 1, globalContainer := some ⟨s.objects, []⟩ }) := by
        unfold container
        rw [runOn_get_bind]
        simp only [present]
        rfl
      refine ⟨_, _, made, rfl, ?_, ⟨rfl, rfl, rfl, rfl, rfl, rfl, rfl⟩⟩
      intro key
      rw [provided, present]
      rfl

theorem container_provided (s : Session) : ∃ c s', runOn s (container .global) = (.ok c, s') ∧
    s'.globalContainer = some c ∧ (∀ key, s'.provided key = s.provided key) ∧ Continues s s' := by
  obtain ⟨c, s', found, present, same, continues⟩ := container_returns s
  refine ⟨c, s', found, present, ?_, continues⟩
  intro key
  rw [provided, present]
  exact same key

/-- A session whose container binds one more key. -/
def binding (s : Session) (c : Container) (key : ServiceKey) (p : Provider) : Session :=
  { s with globalContainer := some (c.bind key p) }

theorem provided_binding_same (s : Session) (c : Container) (key : ServiceKey) (p : Provider) :
    (s.binding c key p).provided key = some p :=
  c.provider?_bind_same key p

theorem provided_binding_other (s : Session) (c : Container) (key other : ServiceKey)
    (p : Provider) (present : s.globalContainer = some c) (different : other ≠ key) :
    (s.binding c key p).provided other = s.provided other := by
  have kept := c.provider?_bind_other key other p different
  rw [provided, provided, present]
  exact kept

theorem continues_binding (s : Session) (c : Container) (key : ServiceKey) (p : Provider) :
    Continues s (s.binding c key p) := ⟨rfl, rfl, rfl, rfl, rfl, rfl, rfl⟩

/-- One key is bound to a provider, and nothing else is changed. -/
structure Binds (s s' : Session) (key : ServiceKey) (p : Provider) : Prop where
  bound : s'.provided key = some p
  others : ∀ other, other ≠ key → s'.provided other = s.provided other
  continues : Continues s s'

theorem binds_binding (s s' : Session) (c : Container) (key : ServiceKey) (p : Provider)
    (present : s'.globalContainer = some c) (same : ∀ key, s'.provided key = s.provided key)
    (continues : Continues s s') : Binds s (s'.binding c key p) key p where
  bound := s'.provided_binding_same c key p
  others other different :=
    (s'.provided_binding_other c key other p present different).trans (same other)
  continues := continues.trans _ _ _ (s'.continues_binding c key p)

theorem register_returns (s : Session) (key : ServiceKey) (i : Instance) (f : Option Factory)
    (p : Provider) (binds : ∀ c : Container, c.register key i f = .ok (c.bind key p)) :
    ∃ s', runOn s (register .global key i f) = (.ok (), s') ∧ Binds s s' key p := by
  obtain ⟨c, s₁, found, present, same, continues⟩ := container_provided s
  refine ⟨s₁.binding c key p, ?_, binds_binding s s₁ c key p present same continues⟩
  unfold register
  rw [runOn_bind_ok s s₁ _ _ c found, binds c]
  rfl

theorem keepMade_returns (s : Session) (key : ServiceKey) (f : Factory) (i : Instance)
    (something : i.isNothing = false) :
    ∃ s', runOn s (keepMade .global key f i) = (.ok (), s') ∧
      Binds s s' key (.shared f (some i)) := by
  obtain ⟨c, s₁, found, present, same, continues⟩ := container_provided s
  refine ⟨s₁.binding c key _, ?_, binds_binding s s₁ c key _ present same continues⟩
  unfold keepMade
  rw [something]
  exact runOn_bind_ok s s₁ _ _ c found

/-! ## Looking keys up -/

theorem container_providing (s : Session) (key : ServiceKey) (p : Provider)
    (bound : s.provided key = some p) :
    ∃ c, runOn s (container .global) = (.ok c, s) ∧ c.provider? key = some p := by
  obtain ⟨c, present, provider⟩ := Option.bind_eq_some_iff.mp bound
  exact ⟨c, container_present s c present, provider⟩

theorem tryResolve_unbound (depth : Nat) (s : Session) (key : ServiceKey)
    (unbound : s.provided key = none) :
    ∃ s', runOn s (tryResolveWithin (depth + 1) .global key) = (.ok none, s') ∧ Continues s s' := by
  obtain ⟨c, s', found, -, same, continues⟩ := container_returns s
  refine ⟨s', ?_, continues⟩
  rw [tryResolveWithin, runOn_bind_ok s s' _ _ c found]
  simp only [(same key).trans unbound]
  rfl

theorem tryResolve_ready (depth : Nat) (s : Session) (key : ServiceKey) (i : Instance)
    (bound : s.provided key = some (.ready i)) :
    runOn s (tryResolveWithin (depth + 1) .global key) = (.ok (some i), s) := by
  obtain ⟨c, found, provider⟩ := container_providing s key _ bound
  rw [tryResolveWithin, runOn_bind_ok s s _ _ c found]
  simp only [provider]
  rfl

theorem tryResolve_kept (depth : Nat) (s : Session) (key : ServiceKey) (f : Factory) (i : Instance)
    (bound : s.provided key = some (.shared f (some i))) :
    runOn s (tryResolveWithin (depth + 1) .global key) = (.ok (some i), s) := by
  obtain ⟨c, found, provider⟩ := container_providing s key _ bound
  rw [tryResolveWithin, runOn_bind_ok s s _ _ c found]
  simp only [provider]
  rfl

section
variable (depth : Nat) (s s' : Session) (key : ServiceKey) (f : Factory)
  (bound : s.provided key = some (.shared f none))
include bound

theorem tryResolve_asks : runOn s (tryResolveWithin (depth + 1) .global key) = runOn s (do
    let i ← makeBy (tryResolveWithin depth) .global f
    keepMade .global key f i
    return some i) := by
  obtain ⟨c, found, provider⟩ := container_providing s key _ bound
  rw [tryResolveWithin, runOn_bind_ok s s _ _ c found]
  simp only [provider]

theorem tryResolve_makes (i : Instance)
    (makes : runOn s (makeBy (tryResolveWithin depth) .global f) = (.ok i, s'))
    (something : i.isNothing = false) :
    ∃ s'', runOn s (tryResolveWithin (depth + 1) .global key) = (.ok (some i), s'') ∧
      Binds s' s'' key (.shared f (some i)) := by
  obtain ⟨s'', kept, binds⟩ := keepMade_returns s' key f i something
  refine ⟨s'', ?_, binds⟩
  rw [tryResolve_asks depth s key f bound, runOn_bind_ok s s' _ _ i makes]
  exact runOn_bind_ok s' s'' _ _ () kept

theorem tryResolve_empty
    (makes : runOn s (makeBy (tryResolveWithin depth) .global f) = (.ok .nothing, s')) :
    runOn s (tryResolveWithin (depth + 1) .global key) = (.ok (some .nothing), s') := by
  rw [tryResolve_asks depth s key f bound, runOn_bind_ok s s' _ _ _ makes]
  rfl

theorem tryResolve_fails (e : Error)
    (fails : runOn s (makeBy (tryResolveWithin depth) .global f) = (.error e, s')) :
    runOn s (tryResolveWithin (depth + 1) .global key) = (.error e, s') := by
  rw [tryResolve_asks depth s key f bound, runOn_bind, fails]

end

/-! ## Loggers -/

/-- A logger of the section can be set up: its log file, if it has one, can be opened. -/
def Opens (s : Session) (part : Settings.LoggingSection) : Prop :=
  (s.journal.setUp s.host.directory part defaultLoggerName s.logFile).2 = none

theorem opens_of_no_file (s : Session) (part : Settings.LoggingSection) (noFile : part.file = false) :
    s.Opens part := by
  unfold Opens Journal.setUp
  rw [noFile]
  rfl

theorem Continues.opens_iff (s s' : Session) (part : Settings.LoggingSection)
    (continues : Continues s s') : s'.Opens part ↔ s.Opens part := by
  unfold Opens journal logFile
  rw [continues.host, continues.home, continues.console, continues.loggers]

theorem Continues.journal (s s' : Session) (continues : Continues s s') : s'.journal = s.journal := by
  unfold Session.journal
  rw [continues.host, continues.console, continues.loggers]

theorem console_setUp (j : Journal) (cwd : Path) (part : Settings.LoggingSection) (name : Text)
    (file : Path) : (j.setUp cwd part name file).1.console = j.console := by
  unfold Journal.setUp
  cases part.file with
  | false => rfl
  | true =>
      simp only [if_true]
      split <;> rfl

/-- The default logger has been set up as far as that went, and nothing else has changed. -/
structure SetsUp (s : Session) (part : Settings.LoggingSection) (s' : Session) : Prop where
  journal : s'.journal = (s.journal.setUp s.host.directory part defaultLoggerName s.logFile).1
  faults : s'.faults = s.faults
  recorded : s'.recorded = s.recorded
  others : ∀ key, key ≠ .logger → s'.provided key = s.provided key

theorem SetsUp.console (s s' : Session) (part : Settings.LoggingSection) (sets : s.SetsUp part s') :
    s'.console = s.console := by
  have silent := console_setUp s.journal s.host.directory part defaultLoggerName s.logFile
  rw [← sets.journal] at silent
  exact silent

theorem tryResolve_fresh_logger (depth : Nat) (s : Session) (part : Settings.LoggingSection)
    (fresh : s.provided .logger = some (.shared (.logger part) none)) :
    ∃ s', s.SetsUp part s' ∧
      ((s.Opens part ∧ ∃ n,
        runOn s (tryResolveWithin (depth + 1) .global .logger) =
          (.ok (some (.logger n defaultLoggerName)), s') ∧
        s'.provided .logger = some (.shared (.logger part) (some (.logger n defaultLoggerName)))) ∨
      (¬ s.Opens part ∧ ∃ e,
        runOn s (tryResolveWithin (depth + 1) .global .logger) = (.error e, s') ∧
        s'.provided .logger = s.provided .logger)) := by
  cases set : s.journal.setUp s.host.directory part defaultLoggerName s.logFile with
  | mk j fault =>
      have after : (s.withJournal j).journal =
          (s.journal.setUp s.host.directory part defaultLoggerName s.logFile).1 := by
        rw [set]
        rfl
      cases fault with
      | none =>
          have opens : s.Opens part := congrArg Prod.snd set
          let s₁ : Session := { s.withJournal j with objects := s.objects + 1 }
          have makes : runOn s (newLogger part defaultLoggerName none) =
              (.ok (.logger s.objects defaultLoggerName), s₁) := by
            rw [runOn_newLogger, Option.getD_none, set]
          obtain ⟨s', found, binds⟩ := tryResolve_makes depth s s₁ .logger _ fresh _ makes rfl
          exact ⟨s', ⟨(binds.continues.journal s₁ s').trans after, binds.continues.faults,
            binds.continues.recorded, binds.others⟩, Or.inl ⟨opens, _, found, binds.bound⟩⟩
      | some f =>
          have closed : ¬ s.Opens part := by
            intro opens
            rw [Opens, set] at opens
            cases opens
          have fails : runOn s (newLogger part defaultLoggerName none) =
              (.error (.fault f), s.withJournal j) := by
            rw [runOn_newLogger, Option.getD_none, set]
          exact ⟨_, ⟨after, rfl, rfl, fun _ _ => rfl⟩,
            Or.inr ⟨closed, _, tryResolve_fails depth s _ .logger _ fresh _ fails, rfl⟩⟩

def ProvidesLogger (s : Session) (part : Settings.LoggingSection) : Prop :=
  s.provided .logger = some (.shared (.logger part) none) ∨
    ∃ n, s.provided .logger = some (.shared (.logger part) (some (.logger n defaultLoggerName)))

def Settled (s : Session) (part : Settings.LoggingSection) : Prop :=
  s.provided .logger = some (.shared (.logger part) none) → s.Opens part

/-- Looking the logger up gives one and keeps it, or fails because it cannot be set up. -/
theorem tryResolve_logger (depth : Nat) (s : Session) (part : Settings.LoggingSection)
    (provides : s.ProvidesLogger part) :
    (s.Settled part ∧ ∃ n s',
      runOn s (tryResolveWithin (depth + 1) .global .logger) =
        (.ok (some (.logger n defaultLoggerName)), s') ∧
      s'.provided .logger = some (.shared (.logger part) (some (.logger n defaultLoggerName))) ∧
      (∀ key, key ≠ .logger → s'.provided key = s.provided key) ∧ s'.faults = s.faults) ∨
    (¬ s.Settled part ∧ ∃ e s',
      runOn s (tryResolveWithin (depth + 1) .global .logger) = (.error e, s')) := by
  rcases provides with fresh | ⟨n, kept⟩
  · obtain ⟨s', sets, ⟨opens, n, found, bound⟩ | ⟨closed, e, fails, -⟩⟩ :=
      tryResolve_fresh_logger depth s part fresh
    · exact Or.inl ⟨fun _ => opens, n, s', found, bound, sets.others, sets.faults⟩
    · exact Or.inr ⟨fun settled => closed (settled fresh), e, s', fails⟩
  · refine Or.inl ⟨?_, n, s, tryResolve_kept depth s .logger _ _ kept, kept, fun _ _ => rfl, rfl⟩
    intro fresh
    rw [kept] at fresh
    cases fresh

end Session
end Fingerprint
