import Fingerprint.Proofs.Descriptor.Standard
import Fingerprint.Proofs.Service.SinglePass

/-! # What ends the hashing of files

Over a standard catalog and a file that fails as files fail, every check and every step ends with
failures only, but for one: an object that stands for a path and resolves to neither a text nor
bytes (`Input.Unresolved`) is a wrong type and no failure. The path is looked at after the
algorithms, so an unknown algorithm comes first. -/
set_option autoImplicit false
namespace Fingerprint
open Hash

/-- The path is an object that stands for a path and resolves to something else. -/
def Input.Unresolved (path : Value) : Prop :=
  ∃ type v, path = .pathLike type v ∧ (∀ t, v ≠ .text t) ∧ ∀ b, v ≠ .bytes b

theorem Input.path_of_unresolved (path : Value) (unresolved : Unresolved path) :
    Input.path path = .error (.fault .wrongType) := by
  obtain ⟨type, v, rfl, noText, noBytes⟩ := unresolved
  cases v with
  | text t => exact absurd rfl (noText t)
  | bytes b => exact absurd rfl (noBytes b)
  | _ => rfl

theorem Input.failsOnly_path (path : Value) (resolved : ¬ Unresolved path) :
    FailsOnly (Input.path path) := by
  intro e ends
  cases path with
  | text t => cases ends
  | path t => cases ends
  | pathLike type v =>
      cases v with
      | text t => cases ends
      | bytes b =>
          cases ends
          exact ⟨_, rfl⟩
      | _ => exact absurd ⟨type, _, rfl, nofun, nofun⟩ resolved
  | _ =>
      cases ends
      exact ⟨_, rfl⟩

theorem ends_of_path {β γ : Type} (looked : Except Error β) (path : Value)
    (run : β → Text → Except Error γ) (unknown : FailsOnly looked)
    (runs : ∀ b t, looked = .ok b → Input.path path = .ok t → FailsOnly (run b t)) :
    (Input.Unresolved path ∧ (∃ b, looked = .ok b) →
      (looked >>= fun b => Input.path path >>= run b) = .error (.fault .wrongType)) ∧
    (¬ (Input.Unresolved path ∧ ∃ b, looked = .ok b) →
      FailsOnly (looked >>= fun b => Input.path path >>= run b)) := by
  constructor
  · rintro ⟨unresolved, b, found⟩
    rw [found, Input.path_of_unresolved path unresolved]
    rfl
  · intro otherwise
    refine unknown.bind fun b found => ?_
    have resolved : ¬ Input.Unresolved path := fun unresolved => otherwise ⟨unresolved, b, found⟩
    refine (Input.failsOnly_path path resolved).bind fun t text => ?_
    exact runs b t found text

namespace Service
variable {η : Type}

/-- The text of a name can always be told. -/
theorem failsOnly_require (s : Service η) (name : Text) : FailsOnly (s.require (.text name)) := by
  intro e ends
  unfold require at ends
  cases found : s.catalog.get? (.text name) with
  | some d => cases ((s.catalog.require_eq_ok_iff _ d).mpr found).symm.trans ends
  | none =>
      rw [s.catalog.require_of_missing _ found] at ends
      cases ends
      exact ⟨_, rfl⟩

theorem failsOnly_requireAll (s : Service η) (names : List Text) :
    FailsOnly (s.requireAll [] (names.map .text)) := by
  intro e ends
  obtain ⟨a, member, same⟩ := s.requireAll_error [] _ e ends
  obtain ⟨name, -, rfl⟩ := List.mem_map.mp member
  exact s.failsOnly_require name e same

theorem require_text_iff (s : Service η) (name : Text) :
    (∃ d, s.require (.text name) = .ok d) ↔ name ∈ s.catalog.names := by
  simp only [require_eq_ok_iff]
  exact s.catalog.exists_find?_iff name

theorem requireAll_texts_iff (s : Service η) (names : List Text) :
    (∃ ds, s.requireAll [] (names.map Value.text) = .ok ds) ↔ ∀ n ∈ names, n ∈ s.catalog.names := by
  rw [s.requireAll_returns_iff, List.forall_mem_map]
  refine forall₂_congr fun n _ => ?_
  rw [← s.require_text_iff n]
  exact exists_congr fun d => (s.require_eq_ok_iff _ d).symm

/-! ## Over a standard catalog -/

section
variable (faults : List (Algorithm × Fault)) (calm : ∀ f ∈ faults, f.2.isFatal = false)
include calm

theorem failsOnly_runAll (source : Source) (path : Text) (size : Value)
    (fails : source.FailsAsFile size) (ds : List (Descriptor Hasher))
    (offered : ∀ d ∈ ds, ∃ a, d = .standard faults a) :
    FailsOnly (runAll source path size ds) := by
  -- Lockstep says nothing of an empty list, which is a pass that only reads.
  by_cases nonempty : ds = []
  · subst nonempty
    have keeps (hs : List (Descriptor Hasher × Hasher)) (v : Value)
        (hs' : List (Descriptor Hasher × Hasher)) (none : hs = [])
        (run : updateAll v hs = .ok hs') : hs' = [] := by
      subst none
      cases run
      rfl
    have steps (hs : List (Descriptor Hasher × Hasher)) (v : Value) (none : hs = []) :
        FailsOnly (updateAll v hs) := by
      subst none
      exact failsOnly_of_ok rfl
    refine (failsOnly_of_ok (x := newHashers []) rfl).bind fun hs made => ?_
    cases made
    refine FailsOnly.bind ?_ fun hs fed => ?_
    · exact failsOnly_consume source path size _ (· = []) keeps steps [] rfl fails
    · have none := consume_keeps source path size _ (· = []) keeps [] hs rfl fed
      subst none
      exact failsOnly_of_ok rfl
  · intro e ends
    obtain ⟨d, member, alone⟩ := (lockstep_runAll source path size).errors ds e nonempty ends
    obtain ⟨a, rfl⟩ := offered d member
    have single := Descriptor.failsOnly_runFile faults a calm source path size fails
    exact single e ((map_eq_error_iff _ _ _).mp alone)

variable (s : Service Hasher) (extended : Value)
  (offers : s.catalog = Catalog.standard faults extended) (sources : Text → Source) (path : Value)
  (fails : ∀ t, Input.path path = .ok t → (sources t).FailsAsFile s.chunkSize)

omit calm in
include offers in
theorem standard_of_require (algorithm : Value) (d : Descriptor Hasher)
    (found : s.require algorithm = .ok d) : ∃ a, d = .standard faults a := by
  rw [require_eq_ok_iff, offers] at found
  have member := (Catalog.mem_of_get? _ algorithm d found).1
  rw [Catalog.standard_descriptors] at member
  obtain ⟨a, -, same⟩ := List.mem_map.mp member
  exact ⟨a, same.symm⟩

include offers fails

theorem ends_of_computeFile (compared : s.chunkSize.nonpositive = .ok false) (name : Text) :
    (Input.Unresolved path ∧ name ∈ s.catalog.names →
      (s.computeFile sources (.text name) path).1 = .error (.fault .wrongType)) ∧
    (¬ (Input.Unresolved path ∧ name ∈ s.catalog.names) →
      FailsOnly (s.computeFile sources (.text name) path).1) := by
  rw [s.computeFile_eq compared, ← s.require_text_iff name]
  refine ends_of_path _ path _ (s.failsOnly_require _) fun d t found resolved => ?_
  obtain ⟨a, rfl⟩ := standard_of_require faults s extended offers _ d found
  exact Descriptor.failsOnly_runFile faults a calm _ t _ (fails t resolved)

theorem ends_of_computeFileMany (names : List Text) :
    (Input.Unresolved path ∧ (∀ name ∈ names, name ∈ s.catalog.names) →
      (s.computeFileMany sources path (.list (names.map .text))).1 = .error (.fault .wrongType)) ∧
    (¬ (Input.Unresolved path ∧ ∀ name ∈ names, name ∈ s.catalog.names) →
      FailsOnly (s.computeFileMany sources path (.list (names.map .text))).1) := by
  rw [s.computeFileMany_eq sources path _ _ rfl, ← s.requireAll_texts_iff names]
  refine ends_of_path _ path _ (s.failsOnly_requireAll _) fun ds t looked resolved => ?_
  have offered : ∀ d ∈ ds, ∃ a, d = .standard faults a := by
    intro d member
    obtain ⟨-, found⟩ := s.mentioned_of_requireAll ds _ looked d member
    exact standard_of_require faults s extended offers _ d found
  exact failsOnly_runAll faults calm _ t _ (fails t resolved) ds offered

end
end Service
end Fingerprint
