import Fingerprint.Proofs.Diagnosis
import Fingerprint.Proofs.Settings.Sections

/-! # Putting settings together

Settings fail with the environment, then with the reading of the config file, then with what both
hold. `combine` is the last of these steps; it does not depend on the machine. What comes of all
three is validated, and so is what a loading makes of it. -/
set_option autoImplicit false
namespace Fingerprint.Settings
open Diagnosed

def combine (given vars : Entries) (config : Value) : Except Error Settings :=
  match overConfig config (Environment.merge vars given) with
  | .error f => .error (.fault f)
  | .ok merged => (ofEntries merged).mapError .invalid

section
variable (given : Entries) (h : Host) (source : ConfigSource)

theorem assemble_of_unparsable (e : Error) (failed : ofEnvironment h.environment = .error e) :
    (assemble given h source).outcome.1 = .error e := by
  rw [outcome_eq, assemble, runFrom_bind, runFrom_ofExcept, failed]

variable (vars : Entries) (parsed : ofEnvironment h.environment = .ok vars)
include parsed

theorem outcome_assemble : (assemble given h source).outcome =
    match (source.read h).1.outcome with
    | (.ok config, records) => ((combine given vars config.settings).map fun s => (s, config), records)
    | (.error e, records) => (.error e, records) := by
  rw [outcome_eq, assemble, runFrom_bind, runFrom_ofExcept, parsed, outcome_eq]
  simp only [runFrom_bind]
  rcases (source.read h).1.runFrom [] with ⟨e | config, records⟩
  · rfl
  · simp only [runFrom_ofFault, combine]
    cases overConfig config.settings (Environment.merge vars given) with
    | error f => rfl
    | ok merged =>
        simp only [mapError_ok]
        cases ofEntries merged <;> rfl

theorem assemble_of_unread (e : Error) (failed : (source.read h).1.outcome.1 = .error e) :
    (assemble given h source).outcome.1 = .error e := by
  have reading : (source.read h).1.outcome = (.error e, (source.read h).1.outcome.2) :=
    Prod.ext failed rfl
  rw [outcome_assemble given h source vars parsed, reading]

theorem assemble_of_read (config : ConfigReading)
    (read : (source.read h).1.outcome.1 = .ok config) :
    (assemble given h source).outcome.1 =
      (combine given vars config.settings).map fun s => (s, config) := by
  have reading : (source.read h).1.outcome = (.ok config, (source.read h).1.outcome.2) :=
    Prod.ext read rfl
  rw [outcome_assemble given h source vars parsed, reading]

end

/-! ## Loadings and constructions -/

def concluded (named : Option Path) (strict : Bool) :
    Settings × ConfigReading → Except Error Settings
  | (s, config) =>
    match strict, config.error with
    | true, some error =>
      .error (.failure (.unusableConfig error ((named.map Path.text).getD [])))
    | _, error => .ok { s with configFile := config.file, configError := error }

theorem load_concluded (h : Host) (named : Option Path) (start : Value) (strict : Bool) :
    load h named start strict = assemble [] h (.make named start) >>= fun made =>
      .ofExcept (concluded named strict made) := by
  refine congrArg (assemble [] h (.make named start) >>= ·) ?_
  funext made
  obtain ⟨s, v, file, error⟩ := made
  cases strict <;> cases error <;> rfl

theorem outcome_load_concluded (h : Host) (named : Option Path) (start : Value) (strict : Bool) :
    (load h named start strict).outcome =
      ((assemble [] h (.make named start)).outcome.1 >>= concluded named strict,
        (assemble [] h (.make named start)).outcome.2) := by
  rw [load_concluded, outcome_eq, outcome_eq, runFrom_bind]
  rcases (assemble [] h (.make named start)).runFrom [] with ⟨e | made, records⟩
  · rfl
  · exact runFrom_ofExcept records _

theorem outcome_ofGiven (h : Host) (given : Entries) :
    (ofGiven h given).outcome =
      ((assemble given h (.make none .null)).outcome.1 >>= fun made => .ok made.1,
        (assemble given h (.make none .null)).outcome.2) := by
  rw [outcome_eq, outcome_eq, ofGiven, runFrom_bind]
  rcases (assemble given h (.make none .null)).runFrom [] with ⟨e | made, records⟩ <;> rfl

theorem load_eq (h : Host) (named : Option Path) (start : Value) :
    (load h named start false).outcome.1 =
      (assemble [] h (.make named start)).outcome.1.map fun (s, config) =>
        { s with configFile := config.file, configError := config.error } := by
  rw [outcome_load_concluded]
  rcases (assemble [] h (.make named start)).outcome.1 with e | ⟨s, config⟩ <;> rfl

/-! ## Validation -/

theorem validated_of_combine (given vars : Entries) (config : Value) (s : Settings)
    (combined : combine given vars config = .ok s) : s.digest.Validated := by
  unfold combine at combined
  split at combined
  next => cases combined
  next merged _ => exact validated_of_ofEntries merged s ((mapError_eq_ok_iff _ _ _).mp combined)

theorem validated_of_assemble (given : Entries) (h : Host) (source : ConfigSource) (s : Settings)
    (config : ConfigReading) (run : (assemble given h source).outcome.1 = .ok (s, config)) :
    s.digest.Validated := by
  cases parsed : ofEnvironment h.environment with
  | error e =>
      rw [assemble_of_unparsable given h source e parsed] at run
      cases run
  | ok vars =>
      cases read : (source.read h).1.outcome.1 with
      | error e =>
          rw [assemble_of_unread given h source vars parsed e read] at run
          cases run
      | ok config =>
          rw [assemble_of_read given h source vars parsed config read] at run
          obtain ⟨s', combined, same⟩ := (map_eq_ok_iff _ _ _).mp run
          cases same
          exact validated_of_combine given vars config.settings s combined

theorem digest_of_concluded (named : Option Path) (strict : Bool) (s s' : Settings)
    (config : ConfigReading) (done : concluded named strict (s, config) = .ok s') :
    s'.digest = s.digest := by
  obtain ⟨v, file, error⟩ := config
  cases strict <;> cases error <;> cases done <;> rfl

theorem validated_of_load {strict : Bool} (h : Host) (named : Option Path) (start : Value)
    (s : Settings) (loaded : (load h named start strict).outcome.1 = .ok s) :
    s.digest.Validated := by
  rw [outcome_load_concluded] at loaded
  obtain ⟨⟨s', config⟩, run, same⟩ := (bind_eq_ok_iff _ _ _).mp loaded
  rw [digest_of_concluded named strict s' s config same]
  exact validated_of_assemble [] h _ s' config run

theorem validated_of_ofGiven (h : Host) (given : Entries) (s : Settings)
    (made : (ofGiven h given).outcome.1 = .ok s) : s.digest.Validated := by
  rw [outcome_ofGiven] at made
  obtain ⟨⟨s', config⟩, run, same⟩ := (bind_eq_ok_iff _ _ _).mp made
  cases same
  exact validated_of_assemble given h _ s' config run

end Fingerprint.Settings
