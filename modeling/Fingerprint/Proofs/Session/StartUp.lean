import Fingerprint.CommandLine.Run
import Fingerprint.Proofs.Disk.Erasing
import Fingerprint.Proofs.Session.Registrations
import Fingerprint.Proofs.Session.Starting
import Fingerprint.Proofs.Settings.Assembling
import Fingerprint.Proofs.Settings.Content

/-! # How a start ends

A start has four ends (`StartEnds`): it finds the program started, it has no settings because they
cannot be loaded, it registers the settings and what follows from them, or it has registered them
and fails to tell why their config file was not used. Only the second end leaves the registrations
as they were, so a start-up that fails keeps everything exactly until the settings are there. -/
set_option autoImplicit false
namespace Fingerprint
open Fingerprint.Action

namespace Session

/-- The four registrations for the settings stand over those that there were. -/
def AddsStart (s s' : Session) (from_ : Settings) : Prop :=
  ∃ serial, ∀ key, Option.Rel Provider.Becomes ((offered serial from_ key).or (s.provided key))
    (s'.provided key)

def startKeys : List ServiceKey := [.settings, .logger, .catalog, .service]

theorem mem_startKeys_iff (key : ServiceKey) : key ∈ startKeys ↔
    key = .settings ∨ key = .logger ∨ key = .catalog ∨ key = .service := by
  simp [startKeys]

theorem offered_of_startKeys (serial : Nat) (from_ : Settings) (key : ServiceKey)
    (member : key ∈ startKeys) : ∃ p, offered serial from_ key = some p := by
  rcases (mem_startKeys_iff key).mp member with rfl | rfl | rfl | rfl
  all_goals exact ⟨_, rfl⟩

theorem fresh_offered (serial : Nat) (from_ : Settings) (key : ServiceKey) :
    (offered serial from_ key).map Provider.fresh = offered serial from_ key := by
  cases key <;> rfl

namespace AddsStart

theorem of_keeps (s s₁ s₂ s' : Session) (from_ : Settings) (before : s.Keeps s₁)
    (adds : s₁.AddsStart s₂ from_) (after : s₂.Keeps s') : s.AddsStart s' from_ := by
  obtain ⟨serial, bound⟩ := adds
  refine ⟨serial, ?_⟩
  intro key
  have stands := bound key
  refine Provider.Becomes.trans_rel _ _ _ ?_ (after.provided key)
  cases new : offered serial from_ key with
  | some p =>
      rw [new] at stands
      exact stands
  | none =>
      rw [new] at stands
      exact Provider.Becomes.trans_rel _ _ _ (before.provided key) stands

theorem registered (s s' : Session) (from_ : Settings) (adds : s.AddsStart s' from_) :
    ∃ serial, ∀ key, s'.registered key = (offered serial from_ key).or (s.registered key) := by
  obtain ⟨serial, bound⟩ := adds
  refine ⟨serial, ?_⟩
  intro key
  rw [Session.registered, Provider.fresh_of_rel _ _ (bound key), Option.map_or, fresh_offered]
  rfl

theorem alone (s s' : Session) (from_ : Settings) (adds : s.AddsStart s' from_)
    (bare : ∀ key, s.registered key = none) :
    ∃ serial, ∀ key, s'.registered key = offered serial from_ key := by
  obtain ⟨serial, bound⟩ := adds.registered
  refine ⟨serial, ?_⟩
  intro key
  rw [bound key, bare key, Option.or_none]

end AddsStart

/-- Telling the reason is all that can fail, and only where there is one. -/
theorem registerServices_ends (s : Session) (serial : Nat) (from_ : Settings) :
    (runOn s (registerServices serial from_)).2.started = s.started ∧
      s.AddsStart (runOn s (registerServices serial from_)).2 from_ ∧
      ((runOn s (registerServices serial from_)).1 = .ok () ∨ from_.Tells) := by
  obtain ⟨s₁, continues, bound, run⟩ := register_factories s serial from_
  have adds : s.AddsStart s₁ from_ := by
    refine ⟨serial, ?_⟩
    intro key
    rw [bound key]
    exact Provider.Becomes.refl _
  unfold registerServices
  rw [run]
  split
  next reason told =>
    by_cases empty : reason.isEmpty
    · rw [empty]
      exact ⟨continues.started, adds, Or.inl rfl⟩
    · have tells : from_.Tells := ⟨reason, told, fun none => empty (by rw [none]; rfl)⟩
      have telling : Action.Keeps (do
          if !reason.isEmpty then logTo (← resolve .global .logger) .warning (.text reason) []) := by
        split
        · exact .bind (keeps_resolve _ _) fun _ => still_logTo _ _ _ _
        · exact .pure ()
      have kept := telling s₁
      exact ⟨kept.started.trans continues.started,
        adds.of_keeps _ _ _ _ _ (.refl s) kept, Or.inr tells⟩
  next => exact ⟨continues.started, adds, Or.inl rfl⟩

inductive StartEnds (s : Session) (given : Option (Nat × Settings)) (named : Option Path)
    (directory : Value) : Except Error Container → Session → Prop
  | again (c : Container) (s' : Session) (was : s.started = true)
      (handed : s'.globalContainer = some c) (keeps : s.Keeps s') :
      StartEnds s given named directory (.ok c) s'
  | unloaded (e : Error) (s₀ s' : Session) (was : s.started = false) (nothing : given = none)
      (continues : Continues s s₀)
      (failed : runOn s₀ (loadSettings named directory false) = (.error e, s'))
      (keeps : s.Keeps s') : StartEnds s given named directory (.error e) s'
  | concluded (from_ : Settings) (c : Container) (s' : Session) (was : s.started = false)
      (uses : Uses s given named directory from_) (adds : s.AddsStart s' from_)
      (handed : s'.globalContainer = some c) (marked : s'.started = true) :
      StartEnds s given named directory (.ok c) s'
  | untold (from_ : Settings) (e : Error) (s' : Session) (was : s.started = false)
      (uses : Uses s given named directory from_) (adds : s.AddsStart s' from_)
      (tells : from_.Tells) (unmarked : s'.started = false) :
      StartEnds s given named directory (.error e) s'

section
variable (s : Session) (given : Option (Nat × Settings)) (named : Option Path) (directory : Value)

theorem startEnds_conclude (s₁ : Session) (serial : Nat) (from_ : Settings)
    (was : s.started = false) (uses : Uses s given named directory from_) (keeps : s.Keeps s₁) :
    StartEnds s given named directory (runOn s₁ (conclude serial from_)).1
      (runOn s₁ (conclude serial from_)).2 := by
  obtain ⟨unmarked, adds, fails⟩ := registerServices_ends s₁ serial from_
  unfold conclude
  rw [runOn_bind]
  cases run : runOn s₁ (registerServices serial from_) with
  | mk result s₂ =>
      rw [run] at unmarked adds fails
      cases result with
      | ok _ =>
          let s₃ : Session := { s₂ with started := true }
          obtain ⟨c, s₄, found, handed, same, continues⟩ := container_provided s₃
          have left : runOn s₂ (do
              modify fun s => { s with started := true }
              container .global) = (.ok c, s₄) := found
          dsimp only
          rw [left]
          have asked : s₃.Keeps s₄ := continues.keeps s₃ s₄ same
          have found : s₁.AddsStart s₃ from_ := adds
          exact .concluded from_ c s₄ was uses (found.of_keeps _ _ _ _ _ keeps asked)
            handed continues.started
      | error e =>
          have tells := fails.resolve_left fun done => by cases done
          exact .untold from_ e s₂ was uses (adds.of_keeps _ _ _ _ _ keeps (.refl s₂)) tells
            (unmarked.trans (keeps.started.trans was))

theorem start_ends : StartEnds s given named directory (runOn s (start given named directory)).1
    (runOn s (start given named directory)).2 := by
  cases was : s.started with
  | true =>
      obtain ⟨c, s', found, handed, same, continues⟩ := container_provided s
      have run : runOn s (start given named directory) = (.ok c, s') := by
        unfold start
        rw [runOn_bind_ok s s' _ _ c found, runOn_get_bind, continues.started, was]
        rfl
      rw [run]
      exact .again c s' was handed (continues.keeps s s' same)
  | false =>
      cases given with
      | some entry =>
          obtain ⟨serial, from_⟩ := entry
          obtain ⟨s₀, continues, same, run⟩ := start_given s was named directory serial from_
          rw [run]
          exact startEnds_conclude s _ named directory s₀ serial from_ was (Or.inl rfl)
            (continues.keeps s s₀ same)
      | none =>
          obtain ⟨s₀, continues, same, run⟩ := start_loaded s was named directory
          have before := continues.keeps s s₀ same
          have loading := keeps_loadSettings named directory false s₀
          rw [run, runOn_bind]
          cases load : runOn s₀ (loadSettings named directory false) with
          | mk result s₁ =>
              rw [load] at loading
              cases result with
              | error e =>
                  exact .unloaded e s₀ s₁ was rfl continues load (before.trans _ _ _ loading)
              | ok from_ =>
                  have outcome := outcome_of_diagnose s₀ s₁ _ from_ load
                  rw [continues.host] at outcome
                  let s₂ : Session := { s₁ with objects := s₁.objects + 1 }
                  have numbered : s.Keeps s₂ :=
                    before.trans _ _ _ (loading.trans _ _ _ (still_newSerial s₁))
                  exact startEnds_conclude s none named directory s₂ s₁.objects from_ was
                    (Or.inr ⟨rfl, outcome⟩) numbered

end

/-! ## Starting a program afresh -/

theorem eq_of_uses_given (s : Session) (serial : Nat) (from_ used : Settings) (named : Option Path)
    (directory : Value) (uses : Uses s (some (serial, from_)) named directory used) :
    used = from_ := by
  rcases uses with same | ⟨none, -⟩
  · exact (Option.some.inj same).symm
  · cases none

def serving : Action CommandLine.Program := do
  let service ← resolve .global .service
  let logger ← resolve .global .logger
  return ⟨service, (← Action.ofFault (serviceOf service)).1.catalog, logger⟩

theorem keeps_serving : Action.Keeps serving :=
  .bind (keeps_resolve _ _) fun _ => .bind (keeps_resolve _ _) fun _ =>
    .bind (.ofFault _) fun _ => .pure _

/-- A program with a service over the standard catalog, both as the settings say. -/
def servingBy (faults : List (Hash.Algorithm × Fault)) (from_ : Settings) (m k n : Nat) :
    CommandLine.Program :=
  let catalog := Catalog.standard faults (.bool from_.digest.extended)
  ⟨.service m (.int from_.digest.chunkSize) (.catalog k catalog) (.logger n defaultLoggerName),
    catalog, .logger n defaultLoggerName⟩

theorem serving_returns (s s' : Session) (from_ : Settings) (m k n : Nat) (f : Factory)
    (service : runOn s (resolve .global .service) = (.ok (.service m (.int from_.digest.chunkSize)
      (.catalog k (Catalog.standard s.faults (.bool from_.digest.extended)))
      (.logger n defaultLoggerName)), s'))
    (kept : s'.provided .logger = some (.shared f (some (.logger n defaultLoggerName)))) :
    runOn s serving = (.ok (servingBy s.faults from_ m k n), s') := by
  have logger := resolve_eq 5 s' s' .logger _ (tryResolve_kept 4 s' .logger _ _ kept)
  unfold serving
  rw [runOn_bind_ok s s' _ _ _ service]
  exact runOn_bind_ok s' s' _ _ _ logger

/-- A start with settings that are there, in place of any start before. -/
def restart (from_ : Settings) : Action Container := do
  reset
  start (some (← newSerial, from_)) none .null

/-- A program is started afresh, with the settings that it has loaded. -/
def afresh (from_ : Settings) : Action CommandLine.Program := do
  let _ ← restart from_
  serving

theorem startProgram_eq (config : Option Path) : CommandLine.startProgram config =
    loadSettings config .null config.isSome >>= afresh := rfl

/-- How a program can fail to start once its settings are there: the reason why the config file was
not used cannot be told, or there is none, and no service can be looked up. -/
inductive FailsLate (s : Session) (from_ : Settings) (e : Error) (s' : Session) : Prop where
  | untold (tells : from_.Tells) (fails : runOn s (restart from_) = (.error e, s'))
      (unmarked : s'.started = false)
  | unserved (silent : ¬ from_.Tells) (c : Container) (s₁ : Session)
      (starts : runOn s (restart from_) = (.ok c, s₁)) (fails : runOn s₁ serving = (.error e, s'))
      (marked : s'.started = true)

theorem afresh_fails (s : Session) (from_ : Settings) (positive : 0 < from_.digest.chunkSize)
    (e : Error) (s' : Session) (fails : runOn s (afresh from_) = (.error e, s')) :
    ∃ serial, (∀ key, s'.registered key = offered serial from_ key) ∧ FailsLate s from_ e s' := by
  let s₁ : Session := { s with globalContainer := none, started := false }
  let s₂ : Session := { s₁ with objects := s₁.objects + 1 }
  -- A reset leaves nothing registered, so what is registered afterwards is due to the start.
  have bare (key : ServiceKey) : s₂.registered key = none := rfl
  have restarts : runOn s (restart from_) =
      runOn s₂ (start (some (s₁.objects, from_)) none .null) := rfl
  have ends := start_ends s₂ (some (s₁.objects, from_)) none .null
  unfold afresh at fails
  rw [runOn_bind, restarts] at fails
  cases run : runOn s₂ (start (some (s₁.objects, from_)) none .null) with
  | mk result s₃ =>
      rw [run] at fails ends restarts
      cases ends with
      | again c _ was => cases was
      | unloaded _ _ _ _ nothing => cases nothing
      | concluded used c _ _ uses adds handed marked =>
          obtain rfl := eq_of_uses_given s₂ _ from_ used none .null uses
          have kept := keeps_serving s₃
          dsimp only at fails
          rw [fails] at kept
          obtain ⟨serial, alone⟩ := (adds.of_keeps _ _ _ _ _ (.refl s₂) kept).alone _ _ _ bare
          refine ⟨serial, alone, .unserved ?_ c s₃ restarts fails (kept.started.trans marked)⟩
          -- A logger that has taken the reason is there for the service as well.
          intro tells
          obtain ⟨ready, settled⟩ := settled_of_start s₂ rfl none .null s₁.objects used c s₃ run
          rcases resolve_service_and_logger s₃ used ready positive with
            ⟨-, m, k, n, s₄, service, logger⟩ | ⟨unsettled, -⟩
          · cases (serving_returns s₃ s₄ used m k n _ service logger).symm.trans fails
          · exact unsettled (settled tells)
      | untold used _ _ _ uses adds tells unmarked =>
          obtain rfl := eq_of_uses_given s₂ _ from_ used none .null uses
          cases fails
          obtain ⟨serial, alone⟩ := adds.alone _ _ _ bare
          exact ⟨serial, alone, .untold tells restarts unmarked⟩

/-- What the registrations and the mark are after a program failed to start: those of before while
the settings are not there, and those of the settings alone from then on. -/
theorem startProgram_fails (s : Session) (config : Option Path) (e : Error) (s' : Session)
    (fails : runOn s (CommandLine.startProgram config) = (.error e, s')) :
    (runOn s (loadSettings config .null config.isSome) = (.error e, s') ∧ s.Keeps s') ∨
    ∃ from_ s₁ serial,
      runOn s (loadSettings config .null config.isSome) = (.ok from_, s₁) ∧
      (∀ key, s'.registered key = offered serial from_ key) ∧ FailsLate s₁ from_ e s' := by
  have loading := keeps_loadSettings config .null config.isSome s
  rw [startProgram_eq, runOn_bind] at fails
  cases load : runOn s (loadSettings config .null config.isSome) with
  | mk result s₁ =>
      rw [load] at fails loading
      cases result with
      | error e' =>
          cases fails
          exact Or.inl ⟨rfl, loading⟩
      | ok from_ =>
          have validated := Settings.validated_of_load s.host config .null from_
            (outcome_of_diagnose s s₁ _ from_ load)
          obtain ⟨serial, alone, late⟩ :=
            afresh_fails s₁ from_ (validated.positive from_.digest) e s' fails
          exact Or.inr ⟨from_, s₁, serial, rfl, alone, late⟩

/-- A start-up that fails leaves the registrations and the mark of a start exactly as they were as
long as the settings are not there. After that a start leaves the four registrations of its settings
over those that there were, and a program that is started afresh leaves them alone; it is marked as
started unless there was a reason to tell why the config file was not used. -/
theorem failing_start_up_keeps_all_until_settings_are_there (s : Session) :
    (∀ (given : Option (Nat × Settings)) (named : Option Path) (directory : Value) (e : Error)
        (s' : Session), runOn s (start given named directory) = (.error e, s') →
      s'.started = s.started ∧
      ((given = none ∧
          (∃ s₀, Continues s s₀ ∧ runOn s₀ (loadSettings named directory false) = (.error e, s')) ∧
          ∀ key, s'.registered key = s.registered key) ∨
        ∃ from_ serial, Uses s given named directory from_ ∧ from_.Tells ∧
          ∀ key, s'.registered key = (offered serial from_ key).or (s.registered key))) ∧
    ∀ (config : Option Path) (e : Error) (s' : Session),
      runOn s (CommandLine.startProgram config) = (.error e, s') →
      (runOn s (loadSettings config .null config.isSome) = (.error e, s') ∧
        s'.started = s.started ∧ ∀ key, s'.registered key = s.registered key) ∨
      ∃ from_ s₁ serial,
        runOn s (loadSettings config .null config.isSome) = (.ok from_, s₁) ∧
        (∀ key, s'.registered key = offered serial from_ key) ∧ FailsLate s₁ from_ e s' := by
  constructor
  · intro given named directory e s' fails
    have ends := start_ends s given named directory
    rw [fails] at ends
    cases ends with
    | unloaded _ s₀ _ was nothing continues failed keeps =>
        exact ⟨keeps.started, Or.inl ⟨nothing, ⟨s₀, continues, failed⟩, keeps.registered _ _⟩⟩
    | untold from_ _ _ was uses adds tells unmarked =>
        obtain ⟨serial, stands⟩ := adds.registered
        exact ⟨unmarked.trans was.symm, Or.inr ⟨from_, serial, uses, tells, stands⟩⟩
  · intro config e s' fails
    rcases startProgram_fails s config e s' fails with ⟨failed, keeps⟩ | late
    · exact Or.inl ⟨failed, keeps.started, keeps.registered _ _⟩
    · exact Or.inr late

/-- A session in which the directory for the log file cannot be made: a file has its name. -/
def withBlockedLog : Session :=
  onHost (Settings.onFiles [([Disk.nameBytes ".digestkit"], .file [])]) (.ofText "/") "clock"

/-- Settings that ask for a log file and have a reason to tell in it. -/
def untellable : Settings := ⟨.default, ⟨.warning, false, true⟩, none, some "no table"⟩

def asksForLogFile : Session :=
  { withBlockedLog with
    host := withBlockedLog.host.setVariable "DIGESTKIT_LOGGING__FILE" "true" }

theorem failing_start_up_keeps_all_until_settings_are_there_blocked_log :
    (∃ e s', runOn withBlockedLog (start (some (0, untellable)) none .null) = (.error e, s') ∧
      s'.started = withBlockedLog.started ∧
      ∃ serial, ∀ key, s'.registered key =
        (offered serial untellable key).or (withBlockedLog.registered key)) ∧
    ∃ e s', runOn asksForLogFile (CommandLine.startProgram none) = (.error e, s') ∧
      ∃ from_ serial, ∀ key, s'.registered key = offered serial from_ key := by
  constructor
  · have fails : runOn withBlockedLog (start (some (0, untellable)) none .null) =
        (.error (.fault (.fileExists "/.digestkit")), _) := rfl
    obtain ⟨starts, -⟩ := failing_start_up_keeps_all_until_settings_are_there withBlockedLog
    obtain ⟨unmarked, ⟨nothing, -⟩ | ⟨from_, serial, uses, -, stands⟩⟩ :=
      starts _ none .null _ _ fails
    · cases nothing
    · obtain rfl := eq_of_uses_given _ _ untellable from_ none .null uses
      exact ⟨_, _, fails, unmarked, serial, stands⟩
  · have raised : (runOn asksForLogFile (CommandLine.startProgram none)).1 =
        .error (.fault (.fileExists "/.digestkit")) := rfl
    have loaded : (runOn asksForLogFile (loadSettings none .null false)).1 =
        .ok ⟨.default, ⟨.warning, false, true⟩, none, none⟩ := rfl
    cases run : runOn asksForLogFile (CommandLine.startProgram none) with
    | mk result s' =>
        rw [run] at raised
        cases raised
        obtain ⟨-, programs⟩ := failing_start_up_keeps_all_until_settings_are_there asksForLogFile
        rcases programs none _ s' run with ⟨unloaded, -⟩ | ⟨from_, s₁, serial, -, alone, -⟩
        · have failed : (runOn asksForLogFile (loadSettings none .null false)).1 = .error _ :=
            congrArg Prod.fst unloaded
          cases loaded.symm.trans failed
        · exact ⟨_, s', rfl, from_, serial, alone⟩

/-- A start that fails leaves four registrations behind where there were none. -/
theorem failed_start_leaves_registrations :
    ∃ e s', runOn withBlockedLog (start (some (0, untellable)) none .null) = (.error e, s') ∧
      ∀ key ∈ startKeys, withBlockedLog.registered key = none ∧ s'.registered key ≠ none := by
  refine ⟨_, _, rfl, ?_⟩
  intro key member
  rcases (mem_startKeys_iff key).mp member with rfl | rfl | rfl | rfl
  all_goals exact ⟨rfl, nofun⟩

end Session
end Fingerprint
