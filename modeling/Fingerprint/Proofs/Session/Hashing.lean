import Fingerprint.Proofs.Service.Chunking
import Fingerprint.Proofs.Service.Quiet
import Fingerprint.Proofs.Session.Action

/-! # Calls that leave nothing instead of a failure

A call of a service hands its outcome on through `reported`: failures become records for the
logger, anything else ends the call. Over a standard catalog and a file that fails as files fail the
calls for files therefore return, with a digest or with nothing, unless the path is an object that
resolves to no path and all algorithms are known; then they end with a wrong type. -/
set_option autoImplicit false
namespace Fingerprint.Session
open Fingerprint.Action

theorem runOn_reported {α : Type} (s : Session) (logger : Instance) (isLogger : logger.IsLogger)
    (call : Text) (subject : Value) (x : Except Error α) (fails : FailsOnly x) :
    ∃ result, (runOn s (reported logger (Service.reported call subject x))).1 = .ok result := by
  obtain ⟨⟨result, records⟩, kept⟩ := reported_eq_ok call subject x fails
  obtain ⟨s', handed⟩ := report_returns s logger isLogger records
  refine ⟨result, ?_⟩
  unfold reported
  rw [kept, runOn_bind_ok s s _ _ (result, records) (runOn_ofExcept s _)]
  rw [runOn_bind_ok s s' _ _ () handed, runOn_pure]

theorem runOn_reported_fault {α : Type} (s : Session) (logger : Instance) (call : Text)
    (subject : Value) (f : Fault) :
    (runOn s (reported logger (Service.reported (α := α) call subject (.error (.fault f))))).1 =
      .error (.fault f) := by
  unfold reported Service.reported
  rw [runOn_bind, runOn_ofExcept]

section
variable (s : Session) (serial k : Nat) (size : Value) (c : Catalog Hasher) (logger : Instance)

theorem runOn_hashFile (algorithm path : Value) :
    ∃ s', (runOn s (hashFile (.service serial size (.catalog k c) logger) algorithm path)).1 =
      (runOn s' (reported logger (Service.reported "hash_file" algorithm
        ((⟨c, size⟩ : Service Hasher).computeFile s.host.source algorithm path).1))).1 :=
  ⟨_, rfl⟩

theorem runOn_hashFileMany (path algorithms : Value) :
    ∃ s', (runOn s (hashFileMany (.service serial size (.catalog k c) logger) path algorithms)).1 =
      (runOn s' (reported logger (Service.reported "hash_file_many" algorithms
        ((⟨c, size⟩ : Service Hasher).computeFileMany s.host.source path algorithms).1))).1 :=
  ⟨_, rfl⟩

end

/-- A computation that ends with a wrong type exactly when `slips` holds, seen through a call. -/
theorem returns_iff_of_ends {α : Type} (s : Session) (logger : Instance)
    (isLogger : logger.IsLogger) (call : Text) (subject : Value) (x : Except Error α)
    (slips : Prop) (ends : (slips → x = .error (.fault .wrongType)) ∧ (¬ slips → FailsOnly x)) :
    ((∃ result, (runOn s (reported logger (Service.reported call subject x))).1 = .ok result) ↔
      ¬ slips) ∧
    (slips → (runOn s (reported logger (Service.reported call subject x))).1 =
      .error (.fault .wrongType)) := by
  have raises (slip : slips) : (runOn s (reported logger (Service.reported call subject x))).1 =
      .error (.fault .wrongType) := by
    rw [ends.1 slip]
    exact runOn_reported_fault s logger call subject .wrongType
  refine ⟨⟨?_, ?_⟩, raises⟩
  · rintro ⟨result, returned⟩ slip
    rw [raises slip] at returned
    cases returned
  · intro calm
    exact runOn_reported s logger isLogger call subject x (ends.2 calm)

def onEmptyDisk : Session := onHost ⟨.empty, .ofText "/", [], []⟩ (.ofText "/") "clock"

end Fingerprint.Session
