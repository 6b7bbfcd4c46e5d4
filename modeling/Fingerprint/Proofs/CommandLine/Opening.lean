import Fingerprint.Proofs.Session.StartUp
import Fingerprint.Proofs.Settings.Assembling

/-! # Opening the program from the command line

A command first opens the program. A failure of the configuration becomes a message and the status
one, and every other error goes through (`openProgram_problem`, `openProgram_escapes`). A run whose
arguments name a config file and a command (`Asks`) ends as its opening does where that fails. The
program itself starts whenever its settings are there and the log file can be opened. -/
set_option autoImplicit false
namespace Fingerprint
open Fingerprint.Action

namespace Session

def Writable (s : Session) : Prop :=
  ∃ place, (Journal.openFile s.host.disk s.host.directory s.logFile).2 = .ok place

theorem opens_of_writable (s : Session) (writable : s.Writable) (part : Settings.LoggingSection) :
    s.Opens part := by
  obtain ⟨place, opened⟩ := writable
  cases kind : part.file with
  | false => exact opens_of_no_file s part kind
  | true =>
      unfold Opens Journal.setUp
      rw [kind, if_pos rfl]
      cases file : Journal.openFile s.journal.disk s.host.directory s.logFile with
      | mk disk result =>
          have same : result = .ok place := (congrArg Prod.snd file).symm.trans opened
          rw [same]

theorem ambient_serving {A : Session → Session → Prop} [Ambient A] : Action.Within A serving :=
  .bind (ambient_resolve _ _) fun _ => .bind (ambient_resolve _ _) fun _ =>
    .bind (.ofFault _) fun _ => .pure _

theorem ambient_afresh {A : Session → Session → Prop} [Ambient A] (from_ : Settings) :
    Action.Within A (afresh from_) :=
  .bind (.bind ambient_reset fun _ => .bind still_newSerial fun _ => ambient_start _ _ _) fun _ =>
    ambient_serving

theorem afresh_returns (s : Session) (from_ : Settings) (positive : 0 < from_.digest.chunkSize)
    (opens : s.Opens from_.logging) :
    ∃ m k n s', runOn s (afresh from_) = (.ok (servingBy s.faults from_ m k n), s') := by
  let s₁ : Session := { s with globalContainer := none, started := false }
  let s₂ : Session := { s₁ with objects := s₁.objects + 1 }
  have opens₂ : s₂.Opens from_.logging := opens
  obtain ⟨c, s₃, run, ready, settled⟩ :=
    start_returns s₂ rfl none .null s₁.objects from_ opens₂
  have unread : Unread s₂ _ := ambient_start (some (s₁.objects, from_)) none .null s₂
  rw [run] at unread
  have faults : s₃.faults = s.faults := unread.faults
  rcases resolve_service_and_logger s₃ from_ ready positive with
    ⟨-, m, k, n, s₄, service, kept⟩ | ⟨unsettled, -⟩
  · refine ⟨m, k, n, s₄, ?_⟩
    rw [← faults]
    have restarted : runOn s (restart from_) = (.ok c, s₃) := run
    unfold afresh
    rw [runOn_bind_ok s s₃ _ _ c restarted]
    exact serving_returns s₃ s₄ from_ m k n _ service kept
  · exact absurd settled unsettled

theorem startProgram_serves (s s₁ : Session) (config : Option Path) (from_ : Settings)
    (loaded : runOn s (loadSettings config .null config.isSome) = (.ok from_, s₁))
    (opens : s₁.Opens from_.logging) :
    0 < from_.digest.chunkSize ∧ ∃ m k n s',
      runOn s (CommandLine.startProgram config) = (.ok (servingBy s.faults from_ m k n), s') ∧
        s.Unread s' := by
  have validated := Settings.validated_of_load s.host config .null from_
    (outcome_of_diagnose s s₁ _ from_ loaded)
  have positive : 0 < from_.digest.chunkSize := validated.positive
  have before : Unread s _ := ambient_loadSettings config .null config.isSome s
  rw [loaded] at before
  obtain ⟨m, k, n, s', run⟩ := afresh_returns s₁ from_ positive opens
  have after : Unread s₁ _ := ambient_afresh from_ s₁
  rw [run] at after
  refine ⟨positive, m, k, n, s', ?_, Frame.trans _ _ _ before after⟩
  rw [startProgram_eq, runOn_bind_ok s s₁ _ _ from_ loaded, run, before.faults]

end Session

namespace CommandLine
open Running
variable {α β : Type} (t t' : Terminal)

def runIn (x : Running α) : Except Ending α × Terminal := (x.run t).run

theorem runIn_bind_ok (x : Running α) (f : α → Running β) (a : α)
    (first : runIn t x = (.ok a, t')) : runIn t (x >>= f) = runIn t' (f a) := by
  have opened : runIn t (x >>= f) =
      (ExceptT.bindCont f (runIn t x).1 (runIn t x).2).run := rfl
  rw [opened, first]
  rfl

theorem runIn_bind_error (x : Running α) (f : α → Running β) (e : Ending)
    (first : runIn t x = (.error e, t')) : runIn t (x >>= f) = (.error e, t') := by
  have opened : runIn t (x >>= f) =
      (ExceptT.bindCont f (runIn t x).1 (runIn t x).2).run := rfl
  rw [opened, first]
  rfl

/-! ## What comes of a start -/

def Terminal.told (message : Text) : Terminal :=
  let shown := message.withoutSequences.flatMap fun c => if c.isSurrogate then Text.escaped c else [c]
  { t with session := { t.session with console := t.session.console ++ shown } }

section
variable (config : Option Path) (s' : Session)

theorem runIn_attempt (a : Action α) (result : Except Error α)
    (run : runOn t.session a = (result, s')) :
    runIn t (attempt a) = (.ok result, { t with session := s' }) := by
  have opened : runIn t (attempt a) =
      (.ok (runOn t.session a).1, { t with session := (runOn t.session a).2 }) := rfl
  rw [opened, run]

theorem openProgram_problem (f : Failure) (problem : f.kind.isConfig = true)
    (fails : runOn t.session (startProgram config) = (.error (.failure f), s')) :
    runIn t (openProgram config) = (.error (.status 1),
      ({ t with session := s' } : Terminal).told (Text.concat ["Error: ", f.text, "\n"])) := by
  unfold openProgram
  rw [runIn_bind_ok _ _ _ _ _ (runIn_attempt t s' _ _ fails)]
  simp only [problem, if_true]
  rfl

theorem openProgram_escapes (e : Error)
    (other : ∀ f, e = .failure f → f.kind.isConfig = false)
    (fails : runOn t.session (startProgram config) = (.error e, s')) :
    runIn t (openProgram config) = (.error (.escaped e), { t with session := s' }) := by
  unfold openProgram
  rw [runIn_bind_ok _ _ _ _ _ (runIn_attempt t s' _ _ fails)]
  cases e with
  | failure f =>
      simp only [other f rfl, Bool.false_eq_true, if_false]
      rfl
  | _ => rfl

end

/-! ## Runs that ask for a command -/

/-- The name is not that of a directory, and a system call can take it. -/
def NoDirectory (h : Host) (file : Text) : Prop :=
  match h.disk.lookup h.directory file with
  | .ok (.found _ .directory) => False
  | .error f => f.kind.isSystem = true
  | _ => True

inductive Asks (h : Host) (args : List Text) : Path → Prop where
  | named (a : Arguments) (file name : Text) (rest : List Text) (c : Command)
      (read : Arguments.ofList .program args = .ok a) (calm : a.notice? .program = none)
      (config : a.value? "--config" = some file) (noDirectory : NoDirectory h file)
      (left : a.rest = name :: rest) (known : Command.ofName? name = some c) :
      Asks h args (.ofText file)

/-- The arguments ask for a command and lead to a config file or to none; what is left of them is for
the command. -/
inductive Calls (h : Host) (args : List Text) (c : Command) (rest : List Text) :
    Option Path → Prop where
  | plain (a : Arguments) (read : Arguments.ofList .program args = .ok a)
      (calm : a.notice? .program = none) (left : a.rest = c.name :: rest)
      (config : a.value? "--config" = none) : Calls h args c rest none
  | named (a : Arguments) (file : Text) (read : Arguments.ofList .program args = .ok a)
      (calm : a.notice? .program = none) (left : a.rest = c.name :: rest)
      (config : a.value? "--config" = some file) (noDirectory : NoDirectory h file) :
      Calls h args c rest (some (.ofText file))

theorem ofName?_name (c : Command) : Command.ofName? c.name = some c := by
  cases c <;> rfl

theorem name_of_ofName? (name : Text) (c : Command) (known : Command.ofName? name = some c) :
    c.name = name := by
  unfold Command.ofName? at known
  have agrees := List.find?_some known
  exact beq_iff_eq.mp agrees

theorem Asks.calls (h : Host) (args : List Text) (p : Path) (asks : Asks h args p) :
    ∃ c rest, Calls h args c rest (some p) := by
  cases asks with
  | named a file name rest c read calm config noDirectory left known =>
      rw [← name_of_ofName? name c known] at left
      exact ⟨c, rest, .named a file read calm left config noDirectory⟩

theorem configPath_named (a : Arguments) (file : Text) (config : a.value? "--config" = some file)
    (noDirectory : NoDirectory t.session.host file) :
    runIn t (configPath a) = (.ok (some (.ofText file)), t) := by
  unfold configPath
  rw [config]
  unfold NoDirectory at noDirectory
  simp only
  rw [runIn_bind_ok t t get _ t rfl]
  cases looked : t.session.host.disk.lookup t.session.host.directory file with
  | error f =>
      rw [looked] at noDirectory
      simp only [noDirectory, if_true]
      rfl
  | ok there =>
      rw [looked] at noDirectory
      cases there with
      | free l => rfl
      | found l entry =>
          cases entry with
          | file content => rfl
          | directory => exact absurd noDirectory id

theorem readArguments_calm (scope : Scope) (args : List Text) (a : Arguments)
    (read : Arguments.ofList scope args = .ok a) (calm : a.notice? scope = none) :
    runIn t (readArguments scope args) = (.ok a, t) := by
  unfold readArguments
  simp only [read, calm]
  rfl

section
variable (s : Session) (input : Bytes) (args : List Text) (c : Command) (rest : List Text)
  (config : Option Path)

theorem run_of_calls (calls : Calls s.host args c rest config) (ending : Except Ending Unit)
    (command : runIn ⟨s, input, []⟩ (runCommand c.name rest config) = (ending, t')) :
    run s input args = settle t' ending := by
  let t : Terminal := ⟨s, input, []⟩
  have opened : run s input args = settle (runIn t (main args)).2 (runIn t (main args)).1 := rfl
  have whole : runIn t (main args) = (ending, t') := by
    unfold main
    cases calls with
    | plain a read calm left config =>
        have path : runIn t (configPath a) = (.ok none, t) := by
          unfold configPath
          rw [config]
          rfl
        rw [runIn_bind_ok t t _ _ a (readArguments_calm t _ args a read calm),
          runIn_bind_ok t t _ _ _ path, left]
        exact command
    | named a file read calm left config noDirectory =>
        rw [runIn_bind_ok t t _ _ a (readArguments_calm t _ args a read calm),
          runIn_bind_ok t t _ _ _ (configPath_named t a file config noDirectory), left]
        exact command
  rw [opened, whole]

def afterOpening (program : Program) : Running Unit := do
  let a ← readArguments (.command c) rest
  match Task.ofArguments c a.rest with
  | .error m => refuse (.command c) m
  | .ok task => carryOut program task

theorem runCommand_eq : runCommand c.name rest config =
    openProgram config >>= afterOpening c rest := by
  unfold runCommand
  simp only [ofName?_name]
  rfl

theorem openProgram_opens (program : Program) (s' : Session)
    (opened : runOn s (startProgram config) = (.ok program, s')) :
    runIn ⟨s, input, []⟩ (openProgram config) = (.ok program, ⟨s', input, []⟩) := by
  unfold openProgram
  rw [runIn_bind_ok _ _ _ _ _ (runIn_attempt ⟨s, input, []⟩ s' _ _ opened)]
  rfl

end

theorem run_of_unopened (s : Session) (input : Bytes) (args : List Text) (p : Path)
    (asks : Asks s.host args p) (ending : Ending)
    (unopened : runIn ⟨s, input, []⟩ (openProgram (some p)) = (.error ending, t')) :
    run s input args = settle t' (.error ending) := by
  obtain ⟨c, rest, calls⟩ := asks.calls
  refine run_of_calls t' s input args c rest _ calls _ ?_
  rw [runCommand_eq]
  exact runIn_bind_error _ t' _ _ ending unopened

theorem run_of_opened (s : Session) (input : Bytes) (args : List Text) (c : Command)
    (rest : List Text) (config : Option Path) (calls : Calls s.host args c rest config)
    (program : Program) (s' : Session)
    (opened : runOn s (startProgram config) = (.ok program, s')) (ending : Except Ending Unit)
    (ends : runIn ⟨s', input, []⟩ (afterOpening c rest program) = (ending, t')) :
    run s input args = settle t' ending := by
  refine run_of_calls t' s input args c rest config calls ending ?_
  rw [runCommand_eq, runIn_bind_ok _ _ _ _ _ (openProgram_opens s input config program s' opened)]
  exact ends

end CommandLine
end Fingerprint
