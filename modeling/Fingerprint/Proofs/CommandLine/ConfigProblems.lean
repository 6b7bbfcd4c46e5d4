import Fingerprint.Proofs.CommandLine.Opening
import Fingerprint.Proofs.Session.Reporting
import Fingerprint.Proofs.Settings.Loading

/-! # Config problems on the command line

A config file that is named on the command line is loaded strictly. A file that cannot be opened or
is no TOML ends the run with a message and the status one, and with a table of valid settings the
program starts. Invalid settings, and contents that slip through the reading, end the run with an
error that nobody meets. -/
set_option autoImplicit false
namespace Fingerprint
open Fingerprint.Action

namespace Settings
open Diagnosed

/-! ## Loading a named file strictly -/

section
variable (h : Host) (p : Path) (start : Value) (noVariables : NoVariables h.environment)
include noVariables

theorem strict_load_of_read (v : Value) (read : readConfig h p = .ok v) :
    (load h (some p) start true).outcome =
      ((combine [] [] v).map (toldBy ⟨v, some p.text, none⟩), []) := by
  have parsed := ofEnvironment_of_noVariables h.environment noVariables
  rw [outcome_load_strict, outcome_load h (some p) start [] parsed, outcome_eq,
    readSettings_of_ok h start p [] v read]
  cases merges : combine [] [] v <;> simp only [merges] <;> rfl

/-- What a lenient loading would record ends a strict one, after one warning of it. -/
theorem strict_load_of_recorded (fault : ConfigFault) (reason : Text)
    (failed : readConfig h p = .error fault) (told : recordedReason p fault = some reason) :
    (load h (some p) start true).outcome =
      (.error (.failure (.unusableConfig reason p.text)), [⟨.warning, reason⟩]) := by
  have parsed := ofEnvironment_of_noVariables h.environment noVariables
  rw [outcome_load_strict, outcome_load h (some p) start [] parsed, outcome_eq,
    readSettings_of_recorded h start p [] fault reason failed told]
  rfl

theorem strict_load_of_slips (bytes : Bytes) (content : h.content p.text = .ok bytes) (f : Fault)
    (slips : Slips p.name bytes f) :
    (load h (some p) start true).outcome = (.error (.fault f), []) := by
  have parsed := ofEnvironment_of_noVariables h.environment noVariables
  cases slips with
  | content f escapes =>
      have failed := readConfig_of_escapes h p bytes content f escapes
      rw [outcome_load_strict, outcome_load h (some p) start [] parsed, outcome_eq,
        readSettings_of_escaping h start p [] f failed]
  | value v gives noTable =>
      have read := readConfig_of_gives h p bytes content v gives
      rw [strict_load_of_read h p start noVariables v read, combine_of_noTable v noTable]
      rfl

end

theorem readConfig_of_unreadable (h : Host) (p : Path) (f : Fault) (refused : h.content p.text = .error f)
    (system : f.kind.isSystem = true) : readConfig h p = .error (.unreadable f) := by
  unfold readConfig
  rw [refused]
  simp only [mapError_error, ConfigFault.ofFault, system, if_true]
  rfl

theorem Slips.ordinary (name : Text) (bytes : Bytes) (f : Fault) (slips : Slips name bytes f) :
    f.isFatal = false := by
  cases slips with
  | value v gives noTable => rfl
  | content f escapes =>
      cases escapes with
      | undecodable broken => rfl
      | noTools project document tools written named noTable => rfl
      | beyond t limit f decoded refused unrecorded =>
          cases limit with
          | malformed left => cases unrecorded
          | tooDeep | tooManyDigits n =>
              cases unrecorded
              rfl

end Settings

namespace Session

/-! ## Starting the program with a named file -/

theorem free_of_unbound (s : Session) (unbound : s.provided .logger = none) : ¬ s.LoggerStuck := by
  rintro (⟨i, there, -⟩ | ⟨f, fresh, -⟩)
  · exact there.bound s i unbound
  · cases unbound.symm.trans fresh

section
variable {α : Type} (s : Session) (x : Host → Diagnosed α) (result : Except Error α)

theorem runOn_diagnose_silent (outcome : (x s.host).outcome = (result, [])) :
    runOn s (diagnose x) = (result, s) := by
  rw [runOn_diagnose, outcome]
  rfl

/-- A record is taken, unless what is bound for loggers cannot take any. -/
theorem runOn_diagnose_recorded (r : Record) (outcome : (x s.host).outcome = (result, [r]))
    (free : ¬ s.LoggerStuck) : ∃ s', runOn s (diagnose x) = (result, s') := by
  obtain ⟨delivered, s', taken, reported⟩ := taken_report s r .nothing (Or.inr rfl)
  have done : delivered = .ok () := (taken.ok_iff s r _ _ s').mpr fun both => free both.2
  have handed : runOn s (reportBy tryResolve .nothing [r]) = (.ok (), s') := done ▸ reported
  refine ⟨s', ?_⟩
  rw [runOn_diagnose, outcome]
  simp only [handed]

end

def strictly (p : Path) (h : Host) : Diagnosed Settings := Settings.load h (some p) .null true

theorem startProgram_named (p : Path) :
    CommandLine.startProgram (some p) = diagnose (strictly p) >>= afresh := rfl

section
variable (s : Session) (p : Path) (noVariables : Settings.NoVariables s.host.environment)
include noVariables

theorem startProgram_of_recorded (free : ¬ s.LoggerStuck) (fault : Settings.ConfigFault)
    (reason : Text) (failed : Settings.readConfig s.host p = .error fault)
    (told : Settings.recordedReason p fault = some reason) :
    ∃ s', runOn s (CommandLine.startProgram (some p)) =
      (.error (.failure (.unusableConfig reason p.text)), s') := by
  have ends := Settings.strict_load_of_recorded s.host p .null noVariables fault reason failed told
  obtain ⟨s', loading⟩ := runOn_diagnose_recorded s (strictly p) _ _ ends free
  refine ⟨s', ?_⟩
  rw [startProgram_named, runOn_bind, loading]

variable (bytes : Bytes) (content : s.host.content p.text = .ok bytes)
include content

theorem startProgram_of_slips (f : Fault) (slips : Settings.Slips p.name bytes f) :
    runOn s (CommandLine.startProgram (some p)) = (.error (.fault f), s) := by
  have ends := Settings.strict_load_of_slips s.host p .null noVariables bytes content f slips
  have loading := runOn_diagnose_silent s (strictly p) _ ends
  rw [startProgram_named, runOn_bind, loading]

theorem diagnose_of_gives (es : Entries) (gives : Settings.Gives p.name bytes (.dict es)) :
    runOn s (diagnose (strictly p)) =
      (((Settings.ofEntries es).mapError Error.invalid).map
        (Settings.toldBy ⟨.dict es, some p.text, none⟩), s) := by
  have read := Settings.readConfig_of_gives s.host p bytes content _ gives
  have ends := Settings.strict_load_of_read s.host p .null noVariables _ read
  rw [Settings.combine_of_table] at ends
  exact runOn_diagnose_silent s (strictly p) _ ends

theorem startProgram_of_invalid (es : Entries) (gives : Settings.Gives p.name bytes (.dict es))
    (issues : Settings.Issues) (invalid : Settings.ofEntries es = .error issues) :
    runOn s (CommandLine.startProgram (some p)) = (.error (.invalid issues), s) := by
  have loading := diagnose_of_gives s p noVariables bytes content es gives
  rw [invalid] at loading
  rw [startProgram_named, runOn_bind, loading]
  rfl

theorem startProgram_of_valid (writable : s.Writable) (es : Entries)
    (gives : Settings.Gives p.name bytes (.dict es)) (from_ : Settings)
    (valid : Settings.ofEntries es = .ok from_) :
    ∃ program s', runOn s (CommandLine.startProgram (some p)) = (.ok program, s') := by
  have loading := diagnose_of_gives s p noVariables bytes content es gives
  rw [valid] at loading
  obtain ⟨-, _, _, _, s', run, -⟩ := startProgram_serves s s (some p) _ loading
    (s.opens_of_writable writable _)
  exact ⟨_, s', run⟩

end
end Session

namespace CommandLine
open Settings (Gives Malformed Slips)

/-- Starting the program raises the failure of a config file that was not used for the given fault,
and the run ends with its text as a message and the status one. -/
def EndsWithMessage (s : Session) (input : Bytes) (args : List Text) (p : Path)
    (fault : Settings.ConfigFault) : Prop :=
  ∃ reason s', Settings.recordedReason p fault = some reason ∧
    let f : Failure := .unusableConfig reason p.text
    runOn s (startProgram (some p)) = (.error (.failure f), s') ∧
      run s input args =
        (.status 1, (Terminal.mk s' input []).told (Text.concat ["Error: ", f.text, "\n"]))

/-- Starting the program raises an error that ends the run as it is. -/
def EndsUncaught (s : Session) (input : Bytes) (args : List Text) (p : Path) (e : Error) : Prop :=
  (runOn s (startProgram (some p))).1 = .error e ∧ (run s input args).1 = .escaped e

section
variable (s : Session) (input : Bytes) (args : List Text) (p : Path) (asks : Asks s.host args p)
include asks

theorem endsUncaught_of_start (e : Error) (s' : Session)
    (fails : runOn s (startProgram (some p)) = (.error e, s'))
    (ordinary : ∀ f, e = .fault f → f.isFatal = false) (other : ∀ f, e ≠ .failure f) :
    EndsUncaught s input args p e := by
  have unopened := openProgram_escapes ⟨s, input, []⟩ (some p) s' e
    (fun f same => absurd same (other f)) fails
  refine ⟨congrArg Prod.fst fails, ?_⟩
  rw [run_of_unopened _ s input args p asks _ unopened]
  cases e with
  | fault f =>
      have interrupt : f.kind ≠ .fatal "KeyboardInterrupt" := by
        intro same
        have calm := ordinary f rfl
        simp [Fault.isFatal, same] at calm
      simp only [settle, if_neg interrupt]
  | _ => rfl

variable (noVariables : Settings.NoVariables s.host.environment)
include noVariables

theorem endsWithMessage_of_fault (free : ¬ s.LoggerStuck) (fault : Settings.ConfigFault)
    (failed : Settings.readConfig s.host p = .error fault)
    (recorded : ∃ reason, Settings.recordedReason p fault = some reason) :
    EndsWithMessage s input args p fault := by
  obtain ⟨reason, told⟩ := recorded
  obtain ⟨s', fails⟩ := Session.startProgram_of_recorded s p noVariables free fault reason failed told
  have unopened := openProgram_problem ⟨s, input, []⟩ (some p) s' _ rfl fails
  exact ⟨reason, s', told, fails, run_of_unopened _ s input args p asks _ unopened⟩

/-- A config file that is named and cannot be opened, or is no TOML, ends the run with a message and
the status one; valid settings start the program. Only invalid settings and contents that slip
through the reading end it with an error that nobody meets, and they always do. -/
theorem config_problems_are_messages_unless_invalid_or_slipping (free : ¬ s.LoggerStuck)
    (writable : s.Writable) :
    (∀ f, s.host.content p.text = .error f → f.kind.isSystem = true →
      EndsWithMessage s input args p (.unreadable f)) ∧
    ∀ bytes, s.host.content p.text = .ok bytes →
      (∀ detail, Malformed bytes detail → EndsWithMessage s input args p (.malformed detail)) ∧
      (∀ es from_, Gives p.name bytes (.dict es) → Settings.ofEntries es = .ok from_ →
        ∃ program s', runOn s (startProgram (some p)) = (.ok program, s')) ∧
      ∀ e, EndsUncaught s input args p e ↔
        (∃ es issues, Gives p.name bytes (.dict es) ∧ Settings.ofEntries es = .error issues ∧
          e = .invalid issues) ∨ ∃ f, Slips p.name bytes f ∧ e = .fault f := by
  constructor
  · intro f refused system
    have failed := Settings.readConfig_of_unreadable s.host p f refused system
    exact endsWithMessage_of_fault s input args p asks noVariables free _ failed ⟨_, rfl⟩
  intro bytes content
  have ofMalformed : ∀ detail, Malformed bytes detail →
      EndsWithMessage s input args p (.malformed detail) := by
    intro detail malformed
    have failed := Settings.readConfig_of_malformed s.host p bytes content detail malformed
    exact endsWithMessage_of_fault s input args p asks noVariables free _ failed ⟨_, rfl⟩
  have ofValid : ∀ es from_, Gives p.name bytes (.dict es) → Settings.ofEntries es = .ok from_ →
      ∃ program s', runOn s (startProgram (some p)) = (.ok program, s') :=
    fun es from_ gives valid =>
      s.startProgram_of_valid p noVariables bytes content writable es gives from_ valid
  refine ⟨ofMalformed, ofValid, fun e => ⟨?_, ?_⟩⟩
  · rintro ⟨started, ended⟩
    rcases Settings.table_or_malformed_or_slips p.name bytes with
      ⟨es, gives⟩ | ⟨detail, malformed⟩ | ⟨f, slips⟩
    · cases checked : Settings.ofEntries es with
      | ok from_ =>
          obtain ⟨program, s', run⟩ := ofValid es from_ gives checked
          rw [run] at started
          cases started
      | error issues =>
          rw [s.startProgram_of_invalid p noVariables bytes content es gives issues checked] at started
          cases started
          exact Or.inl ⟨es, issues, gives, checked, rfl⟩
    · obtain ⟨reason, s', -, -, run⟩ := ofMalformed detail malformed
      rw [run] at ended
      cases ended
    · rw [s.startProgram_of_slips p noVariables bytes content f slips] at started
      cases started
      exact Or.inr ⟨f, slips, rfl⟩
  · rintro (⟨es, issues, gives, checked, rfl⟩ | ⟨f, slips, rfl⟩)
    · have fails := s.startProgram_of_invalid p noVariables bytes content es gives issues checked
      exact endsUncaught_of_start s input args p asks _ s fails nofun nofun
    · have fails := s.startProgram_of_slips p noVariables bytes content f slips
      refine endsUncaught_of_start s input args p asks _ s fails ?_ nofun
      rintro _ ⟨⟩
      exact slips.ordinary

end

def onConfig (bytes : Bytes) : Session :=
  Session.onHost (Settings.onFiles [([Disk.nameBytes "c.toml"], .file bytes)]) (.ofText "/") "clock"

def askingForConfig : List Text := ["--config", "/c.toml", "algorithms"]

theorem asks_onConfig (bytes : Bytes) :
    Asks (onConfig bytes).host askingForConfig (.ofText "/c.toml") :=
  .named ⟨[("--config", "/c.toml")], ["algorithms"]⟩ "/c.toml" "algorithms" [] .algorithms rfl rfl
    rfl trivial rfl rfl

theorem noVariables_onConfig (bytes : Bytes) :
    Settings.NoVariables (onConfig bytes).host.environment := by
  intro v member
  cases member

/-- A config file that ends within a table's name. -/
theorem config_problems_are_messages_unless_invalid_or_slipping_unclosed_name :
    ∃ detail, Malformed [0x5B] detail ∧
      EndsWithMessage (onConfig [0x5B]) [] askingForConfig (.ofText "/c.toml")
        (.malformed detail) := by
  have decoded : Utf8.decode? [0x5B] = some ("[" : Text) := Utf8.decode?_ascii [0x5B] rfl
  have malformed : Malformed [0x5B] _ := ⟨_, _, decoded, rfl, rfl⟩
  have free : ¬ (onConfig [0x5B]).LoggerStuck := Session.free_of_unbound _ rfl
  have writable : (onConfig [0x5B]).Writable := ⟨_, rfl⟩
  obtain ⟨-, ofContent⟩ := config_problems_are_messages_unless_invalid_or_slipping
    (onConfig [0x5B]) [] askingForConfig (.ofText "/c.toml") (asks_onConfig _)
    (noVariables_onConfig _) free writable
  exact ⟨_, malformed, (ofContent [0x5B] rfl).1 _ malformed⟩

/-- A chunk size of zero ends the run with an error that nobody meets. -/
theorem run_ends_uncaught_on_invalid_settings :
    let t : Text := "digest={chunk_size=0}"
    let s := onConfig (t.map fun c => UInt8.ofNat c.val)
    s.Writable ∧ Settings.NoVariables s.host.environment ∧
      ∃ issues, EndsUncaught s [] askingForConfig (.ofText "/c.toml") (.invalid issues) := by
  intro t s
  let bytes : Bytes := t.map fun c => UInt8.ofNat c.val
  have decoded : Utf8.decode? bytes = some t := Utf8.decode?_ascii bytes rfl
  have gives : Gives "c.toml" bytes (.dict [("digest", .dict [("chunk_size", .int 0)])]) :=
    .whole (by decide) _ ⟨t, decoded, rfl⟩
  have fails := s.startProgram_of_invalid (.ofText "/c.toml") (noVariables_onConfig _) bytes rfl _
    gives _ rfl
  exact ⟨⟨_, rfl⟩, noVariables_onConfig _, _,
    endsUncaught_of_start s [] askingForConfig _ (asks_onConfig _) _ s fails nofun nofun⟩

end CommandLine
end Fingerprint
