import Fingerprint.Proofs.Session.Hearing
import Fingerprint.Proofs.Settings.Sources

/-! # Invocations in one process

Each invocation finds its own machine and the session that those before it left. It loads settings
while the logger of the last start is still bound, and then starts afresh. So what there is to tell
of a config file reaches the logger that lingers and then the one of this start (`run_hears`), and
which of them there are is the history of the process (`lingers_afterAll_iff`). -/
set_option autoImplicit false
namespace Fingerprint
open Fingerprint.Action

namespace Settings

theorem reason_nonempty (p : Path) (fault : ConfigFault) (reason : Text)
    (told : recordedReason p fault = some reason) : reason.isEmpty = false := by
  cases fault with
  | malformed detail =>
      cases told
      rfl
  | unreadable f =>
      cases told
      rfl
  | escaping f => cases told

section
variable (h : Host) (named : Option Path) (start : Value)

theorem load_of_strict (strict : Bool) (from_ : Settings) (records : List Record)
    (loaded : (load h named start strict).outcome = (.ok from_, records)) :
    (load h named start false).outcome = (.ok from_, records) := by
  cases strict with
  | false => exact loaded
  | true =>
      rw [outcome_load_strict] at loaded
      cases lenient : (load h named start false).outcome with
      | mk result notes =>
          rw [lenient] at loaded
          cases result with
          | error e => cases loaded
          | ok s =>
              cases told : s.configError with
              | none =>
                  simp only [told] at loaded
                  exact loaded
              | some reason =>
                  simp only [told] at loaded
                  cases loaded

theorem nonempty_of_reading (config : ConfigReading) (records : List Record)
    (ends : ReadingEnds h named start (.ok config, records)) (reason : Text)
    (told : config.error = some reason) : reason.isEmpty = false := by
  cases ends with
  | nowhere => cases told
  | taken => cases told
  | recorded p fault _ _ found failed recorded =>
      cases told
      exact reason_nonempty p fault reason recorded

theorem warnings_of_load (strict : Bool) (from_ : Settings) (records : List Record)
    (loaded : (load h named start strict).outcome = (.ok from_, records)) :
    warnings records = from_.complaints ∧
      from_.complaints = (from_.configError.map fun reason => ⟨.warning, reason⟩).toList := by
  have lenient := load_of_strict h named start strict from_ records loaded
  obtain ⟨vars, config, merged, -, read, -, rfl⟩ :=
    (load_eq_ok_iff h named start from_ records).mp lenient
  have ends := reading_ends h named start
  rw [read] at ends
  have warned : warnings records = (config.error.map fun reason => ⟨.warning, reason⟩).toList :=
    (warnings_of_reading h named start _ ends).1
  have complained : (toldBy config merged).complaints =
      (config.error.map fun reason => ⟨.warning, reason⟩).toList := by
    cases told : config.error with
    | none => simp only [complaints, toldBy, told, Option.map_none, Option.toList_none]
    | some reason =>
        have nonempty := nonempty_of_reading h named start config records ends reason told
        simp only [complaints, toldBy, told, nonempty, Bool.false_eq_true, if_false,
          Option.map_some, Option.toList_some]
  exact ⟨warned.trans complained.symm, complained⟩

end
end Settings

namespace CommandLine
open Session

structure Invocation where
  host : Host
  home : Path
  clock : Text
  /-- The config file that is named. -/
  config : Option Path

namespace Invocation

/-- The session at the call: the machine is the one that is found, and the rest is left from what
came before. -/
def enter (v : Invocation) (s : Session) : Session :=
  { s with host := v.host, home := v.home, clock := v.clock }

def loads (v : Invocation) (s : Session) : Except Error Settings × Session :=
  runOn (v.enter s) (loadSettings v.config .null v.config.isSome)

def run (v : Invocation) (s : Session) : Except Error Program × Session :=
  runOn (v.enter s) (startProgram v.config)

def notes (v : Invocation) : List Record :=
  (Settings.load v.host v.config .null v.config.isSome).outcome.2

end Invocation

def afterAll (s : Session) (vs : List Invocation) : Session :=
  vs.foldl (fun s v => (v.run s).2) s

/-- A logger of an earlier start is still bound. -/
def Lingers (s : Session) : Prop := s.provided .logger ≠ none

instance (s : Session) : Decidable (Lingers s) := inferInstanceAs (Decidable (_ ≠ none))

section
variable (v : Invocation) (s : Session) (logger : s.StartLogger)
include logger

theorem loads_hears :
    (v.enter s).Hears ((v.enter s).heard v.notes) (v.loads s).2 ∧ (v.loads s).2.StartLogger ∧
      (Lingers (v.loads s).2 ↔ Lingers s) ∧
      ∀ from_, (v.loads s).1 = .ok from_ →
        (Settings.load v.host v.config .null v.config.isSome).outcome = (.ok from_, v.notes) ∧
          (Lingers s → LoggerEvent.records ((v.enter s).heard v.notes) = v.notes) := by
  let load := fun h => Settings.load h v.config .null v.config.isSome
  obtain ⟨told, s₁, run, heard, after, bound, taken⟩ :=
    reportBy_hears (v.enter s) logger v.notes
  have loaded : v.loads s = _ := runOn_diagnose (v.enter s) load
  have noted : (load (v.enter s).host).outcome.2 = v.notes := rfl
  rw [noted, run] at loaded
  rw [loaded]
  cases told with
  | error e =>
      refine ⟨heard, after, not_congr bound, ?_⟩
      intro from_ loaded
      cases loaded
  | ok _ =>
      refine ⟨heard, after, not_congr bound, fun from_ same => ⟨?_, taken rfl⟩⟩
      exact Prod.ext same rfl

omit logger in
theorem run_of_unloaded (e : Error) (failed : (v.loads s).1 = .error e) :
    v.run s = (.error e, (v.loads s).2) := by
  have loads : runOn (v.enter s) (loadSettings v.config .null v.config.isSome) =
      (.error e, (v.loads s).2) := Prod.ext failed rfl
  unfold Invocation.run
  rw [startProgram_eq, runOn_bind, loads]

/-- An invocation with settings is heard while it loads them and while it starts. It returns exactly
where its own logger can be set up, and leaves a logger bound. -/
theorem run_hears (from_ : Settings) (loaded : (v.loads s).1 = .ok from_) :
    let s₁ := (v.loads s).2
    (v.enter s).Hears ((v.enter s).heard v.notes ++ s₁.opening from_) (v.run s).2 ∧
      (v.run s).2.StartLogger ∧ Lingers (v.run s).2 ∧
      ((∃ p, (v.run s).1 = .ok p) ↔ s₁.Opens from_.logging) := by
  intro s₁
  obtain ⟨before, -, -, known⟩ := loads_hears v s logger
  have loads : runOn (v.enter s) (loadSettings v.config .null v.config.isSome) = (.ok from_, s₁) :=
    Prod.ext loaded rfl
  have validated := Settings.validated_of_load v.host v.config .null from_
    (congrArg Prod.fst (known from_ loaded).1)
  obtain ⟨result, s', started, heard, provides, returns⟩ :=
    afresh_hears s₁ from_ validated.positive
  have run : v.run s = (result, s') := by
    unfold Invocation.run
    rw [startProgram_eq, runOn_bind_ok _ s₁ _ _ from_ loads, started]
  have lingers : Lingers s' := by
    unfold Lingers
    rcases provides with fresh | ⟨n, kept⟩
    · rw [fresh]
      nofun
    · rw [kept]
      nofun
  rw [run]
  exact ⟨before.trans _ _ _ _ _ heard, Or.inr ⟨_, provides⟩, lingers, returns⟩

/-- What an invocation with settings tells as a warning: what there is to tell, to the logger that
lingers and to its own. -/
theorem warnings_of_run (from_ : Settings) (loaded : (v.loads s).1 = .ok from_) :
    let s₁ := (v.loads s).2
    Settings.warnings (LoggerEvent.records ((v.enter s).heard v.notes ++ s₁.opening from_)) =
      (if Lingers s then from_.complaints else []) ++
        if s₁.Opens from_.logging then from_.complaints else [] := by
  intro s₁
  obtain ⟨-, -, -, known⟩ := loads_hears v s logger
  obtain ⟨outcome, taken⟩ := known from_ loaded
  obtain ⟨warned, -⟩ := Settings.warnings_of_load v.host v.config .null _ from_ v.notes outcome
  have all : Settings.warnings from_.complaints = from_.complaints := by
    rw [← warned]
    exact List.filter_eq_self.mpr fun r member => (List.mem_filter.mp member).2
  have opening : LoggerEvent.records (s₁.opening from_) =
      if s₁.Opens from_.logging then from_.complaints else [] := by
    unfold opening
    by_cases opens : s₁.Opens from_.logging
    · rw [if_pos opens, if_pos opens]
      exact LoggerEvent.records_taken _
    · rw [if_neg opens, if_neg opens]
      rfl
  have lingering : Settings.warnings (LoggerEvent.records ((v.enter s).heard v.notes)) =
      if Lingers s then from_.complaints else [] := by
    by_cases bound : Lingers s
    · rw [if_pos bound, taken bound, warned]
    · have unbound : (v.enter s).provided .logger = none := not_not.mp bound
      rw [if_neg bound, heard_unbound _ _ unbound]
      rfl
  rw [LoggerEvent.records_append, Settings.warnings, List.filter_append]
  refine congrArg₂ _ lingering ?_
  rw [opening]
  split
  · exact all
  · rfl

theorem lingers_run_iff : (v.run s).2.StartLogger ∧
    (Lingers (v.run s).2 ↔ Lingers s ∨ ∃ from_, (v.loads s).1 = .ok from_) := by
  cases loaded : (v.loads s).1 with
  | error e =>
      obtain ⟨-, after, bound, -⟩ := loads_hears v s logger
      rw [run_of_unloaded v s e loaded]
      exact ⟨after, bound.trans (or_iff_left nofun).symm⟩
  | ok from_ =>
      obtain ⟨-, after, lingers, -⟩ := run_hears v s logger from_ loaded
      exact ⟨after, iff_of_true lingers (Or.inr ⟨from_, rfl⟩)⟩

end

def SomeLoaded (s : Session) (vs : List Invocation) : Prop :=
  ∃ earlier v later from_, vs = earlier ++ v :: later ∧ (v.loads (afterAll s earlier)).1 = .ok from_

theorem someLoaded_cons_iff (s : Session) (v : Invocation) (vs : List Invocation) :
    SomeLoaded s (v :: vs) ↔ (∃ from_, (v.loads s).1 = .ok from_) ∨ SomeLoaded (v.run s).2 vs := by
  constructor
  · rintro ⟨_ | ⟨first, earlier⟩, w, later, from_, split, loaded⟩
    · obtain ⟨rfl, rfl⟩ := List.cons_eq_cons.mp split
      exact Or.inl ⟨from_, loaded⟩
    · obtain ⟨rfl, rest⟩ := List.cons_eq_cons.mp split
      exact Or.inr ⟨earlier, w, later, from_, rest, loaded⟩
  · rintro (⟨from_, loaded⟩ | ⟨earlier, w, later, from_, rfl, loaded⟩)
    · exact ⟨[], v, vs, from_, rfl, loaded⟩
    · exact ⟨v :: earlier, w, later, from_, rfl, loaded⟩

/-- Over invocations, what is bound for loggers stays one of a start, and there is one as soon as an
invocation has had settings. -/
theorem lingers_afterAll_iff (s : Session) (logger : s.StartLogger) (vs : List Invocation) :
    (afterAll s vs).StartLogger ∧ (Lingers (afterAll s vs) ↔ Lingers s ∨ SomeLoaded s vs) := by
  induction vs generalizing s with
  | nil =>
      have none : ¬ SomeLoaded s [] := by
        rintro ⟨earlier, v, later, from_, split, -⟩
        cases List.append_eq_nil_iff.mp split.symm |>.2
      exact ⟨logger, (or_iff_left none).symm⟩
  | cons v vs ih =>
      obtain ⟨after, lingers⟩ := lingers_run_iff v s logger
      obtain ⟨last, ends⟩ := ih (v.run s).2 after
      refine ⟨last, ?_⟩
      rw [someLoaded_cons_iff, ← or_assoc, ← lingers]
      exact ends

/-- In a process that begins without a logger, an invocation whose settings have a config error warns
of it once for the logger that an earlier invocation has left, if any, and once for its own if that
can be set up; without a config error it warns of nothing. Loggers hear no more than that, whatever
the invocations before found and came to, and an invocation returns exactly where its own logger can
be set up. -/
theorem config_error_is_told_once_unless_logger_lingers_or_is_blocked (s : Session)
    (bare : s.provided .logger = none) (earlier : List Invocation) (v : Invocation)
    (from_ : Settings) (s₁ : Session) (loaded : v.loads (afterAll s earlier) = (.ok from_, s₁)) :
    let found := v.enter (afterAll s earlier)
    let events := found.heard v.notes ++ s₁.opening from_
    let left := v.run (afterAll s earlier)
    found.Hears events left.2 ∧
      (from_.configError = none → Settings.warnings (LoggerEvent.records events) = []) ∧
      (∀ reason, from_.configError = some reason →
        Settings.warnings (LoggerEvent.records events) =
          List.replicate ((if Lingers (afterAll s earlier) then 1 else 0) +
            if s₁.Opens from_.logging then 1 else 0) ⟨.warning, reason⟩) ∧
      (Lingers (afterAll s earlier) ↔ SomeLoaded s earlier) ∧
      ((∃ p, left.1 = .ok p) ↔ s₁.Opens from_.logging) := by
  intro found events left
  obtain ⟨logger, lingers⟩ := lingers_afterAll_iff s (Or.inl bare) earlier
  have settings : (v.loads (afterAll s earlier)).1 = .ok from_ := by rw [loaded]
  obtain ⟨heard, -, -, returns⟩ := run_hears v _ logger from_ settings
  have warned := warnings_of_run v _ logger from_ settings
  obtain ⟨-, -, -, known⟩ := loads_hears v _ logger
  obtain ⟨-, told⟩ := Settings.warnings_of_load v.host v.config .null _ from_ v.notes
    (known from_ settings).1
  rw [loaded] at heard returns warned
  refine ⟨heard, fun clean => ?_, fun reason problem => ?_,
    lingers.trans (or_iff_right (not_not.mpr bare)), returns⟩
  · have nothing : from_.complaints = [] := by
      rw [told, clean]
      rfl
    rw [warned, nothing, ite_self, ite_self]
    rfl
  · have once : from_.complaints = [⟨.warning, reason⟩] := by
      rw [told, problem]
      rfl
    rw [warned, once, List.replicate_add]
    split <;> split <;> rfl

/-- A machine where the config file is a directory, so that it cannot be read, and logging goes to
the console. -/
def unreadableConfig : Invocation where
  host := { Settings.onFiles [([Disk.nameBytes ".digestkit"], .directory),
      ([Disk.nameBytes ".digestkit", Disk.nameBytes "config.toml"], .directory)] with
    environment := [("DIGESTKIT_LOGGING__CONSOLE", "true")] }
  home := .ofText "/"
  clock := "clock"
  config := none

theorem loads_unreadableConfig : ∃ from_ s₁, unreadableConfig.loads
      (onHost unreadableConfig.host unreadableConfig.home unreadableConfig.clock) = (.ok from_, s₁) ∧
    from_.logging.file = false ∧ from_.configError =
      some "Failed to read config file /.digestkit/config.toml: Is a directory" :=
  ⟨_, _, rfl, rfl, by decide +kernel⟩

/-- The first invocation on that machine warns once. -/
theorem config_error_is_told_once_unless_logger_lingers_or_is_blocked_first_call :
    let v := unreadableConfig
    let s := onHost v.host v.home v.clock
    let reason : Text := "Failed to read config file /.digestkit/config.toml: Is a directory"
    ∃ events, (v.enter s).Hears events (v.run s).2 ∧
      Settings.warnings (LoggerEvent.records events) = [⟨.warning, reason⟩] ∧
      ∃ p, (v.run s).1 = .ok p := by
  intro v s reason
  obtain ⟨from_, s₁, loaded, noFile, problem⟩ := loads_unreadableConfig
  obtain ⟨heard, -, told, -, returns⟩ :=
    config_error_is_told_once_unless_logger_lingers_or_is_blocked s rfl [] v from_ s₁ loaded
  have opens := s₁.opens_of_no_file from_.logging noFile
  have bare : ¬ Lingers (afterAll s []) := fun lingering => lingering rfl
  refine ⟨_, heard, ?_, returns.mpr opens⟩
  rw [told reason problem, if_neg bare, if_pos opens]
  rfl

/-- The second invocation on that machine warns twice. -/
theorem second_invocation_tells_config_error_twice :
    let v := unreadableConfig
    let s := onHost v.host v.home v.clock
    let line : Text := "clock [WARNING] digestkit: " ++
      ("Failed to read config file /.digestkit/config.toml: Is a directory\n" : Text)
    (v.run s).2.console = line ∧ (v.run (v.run s).2).2.console = line ++ (line ++ line) := by
  decide +kernel

end CommandLine
end Fingerprint
