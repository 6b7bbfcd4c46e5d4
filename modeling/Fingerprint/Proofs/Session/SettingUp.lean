import Fingerprint.Proofs.Session.Action
import Fingerprint.Proofs.Value.Tables
import Fingerprint.Session.Container

/-! # Setting loggers up

Setting a logger up gives it a level and the handlers that its section asks for, or no handlers where
its log file cannot be opened (`logger?_setUp`). Nothing else changes a logger
(`logger?_performStep`), so the last time that one was set up under its name decides what it is
(`logger?_performSteps`). What becomes of a record is up to the logger that it is handed to alone
(`log_agrees`). -/
set_option autoImplicit false
namespace Fingerprint
open Fingerprint.Action

/-- The handlers that a section asks for, with a log file in its place. -/
def Settings.LoggingSection.handlers (part : Settings.LoggingSection) (place : Text) :
    List Handler :=
  (if part.console then [.console] else []) ++ (if part.file then [.file place] else []) ++
    if part.console || part.file then [] else [.silent]

namespace Journal

structure Agrees (j j' : Journal) : Prop where
  disk : j'.disk = j.disk
  console : j'.console = j.console

section
variable (j : Journal)

/-! ## Loggers by their names -/

theorem logger?_putLogger_same (name : Text) (l : Logger) (same : Text)
    (own : Logger.properName same = Logger.properName name) :
    (j.putLogger name l).logger? same = some l := by
  unfold putLogger logger?
  rw [own]
  exact List.lookup_cons_self

theorem logger?_putLogger_other (name : Text) (l : Logger) (other : Text)
    (different : Logger.properName other ≠ Logger.properName name) :
    (j.putLogger name l).logger? other = j.logger? other := by
  have missed : (Logger.properName other == Logger.properName name) = false :=
    beq_eq_false_iff_ne.mpr different
  unfold putLogger logger?
  rw [List.lookup_cons, missed]
  exact (lookup_filter_key (· != Logger.properName name) j.loggers _).trans
    (if_pos (bne_iff_ne.mpr different))

theorem loggers_write (line : Text) (h : Handler) : (j.write line h).loggers = j.loggers := by
  cases h with
  | console => rfl
  | silent => rfl
  | file path =>
      unfold write
      dsimp only
      split <;> rfl

theorem loggers_foldl_write (line : Text) (handlers : List Handler) :
    (handlers.foldl (write line) j).loggers = j.loggers := by
  induction handlers generalizing j with
  | nil => rfl
  | cons h rest ih => exact (ih (j.write line h)).trans (j.loggers_write line h)

theorem loggers_log (clock name : Text) (level : Level) (template : Value) (args : List Value) :
    (j.log clock name level template args).loggers = j.loggers := by
  unfold log
  split
  · split
    · rfl
    · split
      · split <;> rfl
      · exact j.loggers_foldl_write _ _
  · rfl

/-! ## Setting up -/

section
variable (cwd : Path) (part : Settings.LoggingSection) (name : Text) (file : Path)

theorem setUp_fails_iff (f : Fault) : (j.setUp cwd part name file).2 = some f ↔
    part.file = true ∧ (openFile j.disk cwd file).2 = .error f := by
  unfold setUp
  cases part.file with
  | false => simp
  | true =>
      rcases openFile j.disk cwd file with ⟨d, _ | _⟩ <;> simp

theorem place_of_openFile (d : Disk) (place : Text) (opened : (openFile d cwd file).2 = .ok place) :
    place = (cwd.within file).collapsed.text := by
  unfold openFile at opened
  split at opened
  · cases opened
  · dsimp only at opened
    split at opened <;> cases opened
    rfl

theorem logger?_setUp (same : Text) (own : Logger.properName same = Logger.properName name) :
    (j.setUp cwd part name file).1.logger? same = some ⟨part.level,
      if (j.setUp cwd part name file).2 = none then
        part.handlers (cwd.within file).collapsed.text else []⟩ := by
  unfold setUp Settings.LoggingSection.handlers
  cases part.file with
  | false =>
      rw [if_neg Bool.false_ne_true, if_pos rfl, logger?_putLogger_same _ _ _ _ own]
      cases part.console <;> rfl
  | true =>
      rw [if_pos rfl]
      cases opening : openFile j.disk cwd file with
      | mk d opened =>
          cases opened with
          | error f => exact logger?_putLogger_same _ _ _ _ own
          | ok place =>
              have same : place = (cwd.within file).collapsed.text :=
                place_of_openFile cwd file j.disk place (by rw [opening])
              rw [← same]
              refine (logger?_putLogger_same _ _ _ _ own).trans ?_
              cases part.console <;> rfl

theorem logger?_setUp_other (other : Text)
    (different : Logger.properName other ≠ Logger.properName name) :
    (j.setUp cwd part name file).1.logger? other = j.logger? other := by
  unfold setUp
  dsimp only
  split
  · split
    · exact logger?_putLogger_other _ _ _ _ different
    · exact logger?_putLogger_other _ _ _ _ different
  · exact logger?_putLogger_other _ _ _ _ different

end

/-! ## Writing -/

variable (j' : Journal)

theorem Agrees.write (agree : j.Agrees j') (line : Text) (h : Handler) :
    (j.write line h).Agrees (j'.write line h) := by
  cases h with
  | console => exact ⟨agree.disk, congrArg (fun shown => Text.concat [shown, _, "\n"]) agree.console⟩
  | silent => exact agree
  | file path =>
      unfold Journal.write
      dsimp only
      rw [agree.disk]
      split
      · exact ⟨rfl, agree.console⟩
      · exact agree

theorem Agrees.foldl_write (agree : j.Agrees j') (line : Text) (handlers : List Handler) :
    (handlers.foldl (Journal.write line) j).Agrees (handlers.foldl (Journal.write line) j') := by
  induction handlers generalizing j j' with
  | nil => exact agree
  | cons h rest ih => exact ih _ _ (agree.write j j' line h)

theorem log_agrees (agree : j.Agrees j') (clock name : Text) (level : Level) (template : Value)
    (args : List Value) (own : j'.logger? name = j.logger? name) :
    (j.log clock name level template args).Agrees (j'.log clock name level template args) := by
  unfold log
  rw [own]
  split
  · split
    · exact agree
    · split
      · split
        · exact agree
        · exact agree.write j j' _ .console
      · exact agree.foldl_write j j' _ _
  · exact agree

end
end Journal

namespace Session

/-! ## Steps of a program -/

inductive LoggerStep where
  /-- A logger is set up. -/
  | builds (part : Settings.LoggingSection) (name : Text) (file : Option Path)
  /-- A record is handed to whatever serves as a logger. -/
  | logs (i : Instance) (level : Level) (template : Value) (args : List Value)
  /-- The machine changes, and time passes. -/
  | passes (host : Host) (clock : Text)

namespace LoggerStep

def Builds (name : Text) : LoggerStep → Prop
  | builds _ own _ => Logger.properName own = Logger.properName name
  | logs .. | passes .. => False

def action : LoggerStep → Action Unit
  | builds part name file => do let _ ← newLogger part name file
  | logs i level template args => logTo i level template args
  | passes host clock => modify fun s => { s with host, clock }

end LoggerStep

def performStep (s : Session) (step : LoggerStep) : Session := (runOn s step.action).2

def performSteps (s : Session) (steps : List LoggerStep) : Session := steps.foldl performStep s

theorem performSteps_append (s : Session) (steps more : List LoggerStep) :
    s.performSteps (steps ++ more) = (s.performSteps steps).performSteps more := List.foldl_append

section
variable (s : Session) (part : Settings.LoggingSection) (own : Text) (file : Option Path)

def logPlace : Text := (s.host.directory.within (file.getD s.logFile)).collapsed.text

def Refuses : Prop := part.file = true ∧
  ∃ f, (Journal.openFile s.host.disk s.host.directory (file.getD s.logFile)).2 = .error f

theorem refuses_iff : s.Refuses part file ↔
    (s.journal.setUp s.host.directory part own (file.getD s.logFile)).2 ≠ none := by
  rw [Option.ne_none_iff_exists']
  simp only [Journal.setUp_fails_iff, exists_and_left]
  rfl

theorem newLogger_fails_iff :
    (∃ e, (runOn s (newLogger part own file)).1 = .error e) ↔ s.Refuses part file := by
  rw [refuses_iff s part own, runOn_newLogger]
  split
  next set => simp [set]
  next set => simp [set]

theorem journal_newLogger : (runOn s (newLogger part own file)).2.journal =
    (s.journal.setUp s.host.directory part own (file.getD s.logFile)).1 := by
  rw [runOn_newLogger]
  split
  next set => rw [set]; rfl
  next set => rw [set]; rfl

theorem performStep_builds :
    s.performStep (.builds part own file) = (runOn s (newLogger part own file)).2 := by
  unfold performStep LoggerStep.action
  rw [runOn_bind]
  cases runOn s (newLogger part own file) with
  | mk result s' => cases result <;> rfl

/-- A logger that is set up has the level of its section, and the handlers that the section asks for
unless its log file cannot be opened. -/
theorem logger?_performStep_builds (name : Text)
    (same : Logger.properName own = Logger.properName name) :
    (s.Refuses part file → (s.performStep (.builds part own file)).journal.logger? name =
      some ⟨part.level, []⟩) ∧
    (¬ s.Refuses part file → (s.performStep (.builds part own file)).journal.logger? name =
      some ⟨part.level, part.handlers (s.logPlace file)⟩) := by
  have set := s.journal.logger?_setUp s.host.directory part own (file.getD s.logFile) name same.symm
  rw [performStep_builds, journal_newLogger, set, refuses_iff s part own]
  constructor
  · intro refused
    rw [if_neg refused]
  · intro opened
    rw [if_pos (Classical.not_not.mp opened)]
    rfl

end

theorem logger?_performStep (s : Session) (step : LoggerStep) (name : Text)
    (other : ¬ step.Builds name) :
    (s.performStep step).journal.logger? name = s.journal.logger? name := by
  cases step with
  | builds part own file =>
      rw [performStep_builds, journal_newLogger]
      exact s.journal.logger?_setUp_other _ _ _ _ name fun same => other same.symm
  | logs i level template args =>
      have kept (j : Journal) (same : j.loggers = s.journal.loggers) :
          j.logger? name = s.journal.logger? name := congrArg (List.lookup _) same
      apply kept
      cases i with
      | logger serial own => exact s.journal.loggers_log _ _ _ _ _
      | recorder serial =>
          unfold performStep LoggerStep.action logTo
          dsimp only
          split <;> rfl
      | _ => rfl
  | passes host clock => rfl

theorem logger?_performSteps (s : Session) (steps : List LoggerStep) (name : Text)
    (others : ∀ step ∈ steps, ¬ step.Builds name) :
    (s.performSteps steps).journal.logger? name = s.journal.logger? name := by
  induction steps generalizing s with
  | nil => rfl
  | cons step rest ih =>
      have first := logger?_performStep s step name (others step List.mem_cons_self)
      exact (ih (s.performStep step) fun later member =>
        others later (List.mem_cons_of_mem step member)).trans first

/-- After any steps a logger is as it was set up last under its name: it has the level of that
section, and the handlers that the section asks for, unless its log file could not be opened, so that
setting it up failed. Then it is left without handlers. A logger that was not set up is as at the
start. What is written of a record is up to the logger that it is handed to, and to no other one. -/
theorem logger_is_as_last_set_up (s : Session) (steps : List LoggerStep) (name : Text) :
    let last := (s.performSteps steps).journal
    ((∀ step ∈ steps, ¬ step.Builds name) → last.logger? name = s.journal.logger? name) ∧
    (∀ (before after : List LoggerStep) (part : Settings.LoggingSection) (own : Text)
        (file : Option Path), steps = before ++ .builds part own file :: after →
      Logger.properName own = Logger.properName name → (∀ step ∈ after, ¬ step.Builds name) →
      let now := s.performSteps before
      ((∃ e, (runOn now (newLogger part own file)).1 = .error e) ↔ now.Refuses part file) ∧
      (now.Refuses part file → last.logger? name = some ⟨part.level, []⟩) ∧
      (¬ now.Refuses part file →
        last.logger? name = some ⟨part.level, part.handlers (now.logPlace file)⟩)) ∧
    ∀ (j : Journal) (clock : Text) (level : Level) (template : Value) (args : List Value),
      last.Agrees j → j.logger? name = last.logger? name →
      (last.log clock name level template args).Agrees (j.log clock name level template args) := by
  intro last
  refine ⟨logger?_performSteps s steps name, ?_, ?_⟩
  · intro before after part own file split same latest now
    have made : last = ((now.performStep (.builds part own file)).performSteps after).journal := by
      have joined := s.performSteps_append before (.builds part own file :: after)
      rw [← split] at joined
      exact congrArg journal joined
    have kept := logger?_performSteps (now.performStep (.builds part own file)) after name latest
    rw [made, kept]
    exact ⟨newLogger_fails_iff now part own file, logger?_performStep_builds now part own file name same⟩
  · intro j clock level template args agree own
    exact last.log_agrees j agree clock name level template args own

/-- A machine with a file where a log file could ask for a directory. -/
def beforeFile : Session :=
  onHost ⟨⟨[([[0x78]], .file [])]⟩, .ofText "/", [], []⟩ (.ofText "/") "clock"

theorem logger_is_as_last_set_up_console_then_blocked_file :
    let toConsole : LoggerStep := .builds ⟨.warning, true, false⟩ "a" none
    let toFile : LoggerStep := .builds ⟨.error, false, true⟩ "a" (some (.ofText "x/y"))
    (beforeFile.performSteps [toConsole]).journal.logger? "a" = some ⟨.warning, [.console]⟩ ∧
      (beforeFile.performSteps [toConsole, toFile]).journal.logger? "a" = some ⟨.error, []⟩ := by
  intro toConsole toFile
  obtain ⟨-, first, -⟩ := logger_is_as_last_set_up beforeFile [toConsole] "a"
  obtain ⟨-, second, -⟩ := logger_is_as_last_set_up beforeFile [toConsole, toFile] "a"
  obtain ⟨-, -, opened⟩ := first [] [] _ _ _ rfl rfl nofun
  obtain ⟨-, refused, -⟩ := second [toConsole] [] _ _ _ rfl rfl nofun
  exact ⟨opened fun refuses => Bool.noConfusion refuses.1, refused ⟨rfl, _, rfl⟩⟩

/-- Setting up that fails takes the handlers away and changes the level. -/
theorem failed_set_up_takes_handlers_away :
    let s := beforeFile.performStep (.builds ⟨.warning, true, false⟩ "a" none)
    let failed := runOn s (newLogger ⟨.error, false, true⟩ "a" (some (.ofText "x/y")))
    s.journal.logger? "a" = some ⟨.warning, [.console]⟩ ∧
      failed.1 = .error (.fault (.fileExists "x")) ∧
      failed.2.journal.logger? "a" = some ⟨.error, []⟩ :=
  ⟨rfl, rfl, rfl⟩

end Session
end Fingerprint
