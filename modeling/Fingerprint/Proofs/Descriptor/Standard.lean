import Fingerprint.Proofs.Catalog
import Fingerprint.Proofs.Descriptor.Steps
import Fingerprint.Proofs.Hash.Blocks

/-! # The standard descriptors

The hashers of a standard algorithm keep one invariant, `Hasher.HasTaken`: the hasher is at the
state to which the bytes taken in so far lead. Every update adds its bytes to them
(`taken_of_update`), so whatever pieces deliver a content, the hasher has taken that content
(`taken_of_delivers`), and its
digest is that of the whole (`finalize_of_taken`). Nothing but an unusable piece or a hasher that
cannot be created ends a step, and both are failures unless they pass through every handler. A
catalog has each algorithm that it offers under its name (`find?_standard`). -/
set_option autoImplicit false
namespace Fingerprint
open Hash

theorem Hash.Algorithm.isHex_hexDigest (a : Algorithm) (content : Bytes) :
    (a.hexDigest content).IsHex (2 * a.digestLength) := by
  have hex := Bytes.isHex_hex (a.scheme.digest content)
  rw [a.length_digest] at hex
  exact hex

/-- At the state to which the bytes lead from the start. -/
def Hasher.HasTaken (a : Algorithm) (content : Bytes) (h : Hasher) : Prop :=
  h = .standard ((Running.start a).absorb content)

theorem Hasher.taken_append (a : Algorithm) (content piece : Bytes) :
    ((Running.start a).absorb content).absorb piece =
      (Running.start a).absorb (content ++ piece) := by
  unfold Running.absorb
  rw [Scheme.absorb_append]

namespace Descriptor

def standard (faults : List (Algorithm × Fault)) (a : Algorithm) : Descriptor Hasher :=
  .ofStrategy (match faults.lookup a with
    | some fault => Strategy.unavailable a fault
    | none => Strategy.ofAlgorithm a)

section
variable (faults : List (Algorithm × Fault)) (a : Algorithm)

theorem standard_name : (standard faults a).name = a.name := by
  unfold standard
  split <;> rfl

theorem standard_hexLength : (standard faults a).hexLength = 2 * a.digestLength := by
  unfold standard
  split <;> rfl

theorem standard_update (h : Hasher) (v : Value) :
    (standard faults a).strategy.update h v = h.update v := by
  unfold standard
  split <;> rfl

theorem standard_hexDigest (h : Hasher) :
    (standard faults a).strategy.hexDigest h = h.raw >>= Strategy.lowered := by
  unfold standard
  split <;> rfl

theorem newHasher_of_available (available : faults.lookup a = none) :
    (standard faults a).newHasher = .ok (.standard (.start a)) := by
  unfold standard
  rw [available]
  rfl

theorem taken_of_newHasher (h : Hasher) (made : (standard faults a).newHasher = .ok h) :
    h.HasTaken a [] := by
  rw [newHasher, guarded_eq_ok_iff] at made
  unfold standard at made
  split at made
  · cases made
  · cases made
    rfl

theorem failsOnly_newHasher (calm : ∀ f ∈ faults, f.2.isFatal = false) :
    FailsOnly (standard faults a).newHasher := by
  intro e ends
  obtain ⟨f, stopped, failure⟩ := guarded_eq_error _ _ _ e ends
  apply failure
  unfold standard at stopped
  split at stopped
  · next fault looked =>
      cases stopped
      obtain ⟨before, after, rfl, -⟩ := List.lookup_eq_some_iff.mp looked
      exact calm (a, f) (by simp)
  · cases stopped

/-- It is the hasher that takes the bytes in: the algorithm `b` that it was made for counts. -/
theorem update_of_taken {b : Algorithm} (content piece : Bytes) (h : Hasher) (v : Value)
    (taken : h.HasTaken b content) (bytes : Strategy.message? v = .ok piece) :
    (standard faults a).update h v =
      .ok (.standard ((Running.start b).absorb (content ++ piece))) := by
  rw [update, guarded_eq_ok_iff, standard_update, taken, Hasher.update, bytes]
  exact congrArg (fun r => Except.ok (Hasher.standard r)) (Hasher.taken_append b content piece)

theorem taken_of_update {b : Algorithm} (content : Bytes) (h h' : Hasher) (v : Value)
    (taken : h.HasTaken b content) (run : (standard faults a).update h v = .ok h') :
    ∃ piece, Strategy.message? v = .ok piece ∧ h'.HasTaken b (content ++ piece) := by
  cases bytes : Strategy.message? v with
  | ok piece =>
      rw [update_of_taken faults a content piece h v taken bytes] at run
      cases run
      exact ⟨piece, rfl, rfl⟩
  | error f =>
      rw [update, guarded_eq_ok_iff, standard_update, taken, Hasher.update, bytes] at run
      cases run

theorem update_keeps_taken (h : Hasher) (v : Value) (h' : Hasher)
    (taken : ∃ content, h.HasTaken a content) (run : (standard faults a).update h v = .ok h') :
    ∃ content, h'.HasTaken a content := by
  obtain ⟨content, before⟩ := taken
  obtain ⟨piece, -, longer⟩ := taken_of_update faults a content h h' v before run
  exact ⟨content ++ piece, longer⟩

theorem failsOnly_update (h : Hasher) (v : Value) (taken : ∃ content, h.HasTaken a content) :
    FailsOnly ((standard faults a).update h v) := by
  intro e ends
  obtain ⟨f, stopped, failure⟩ := guarded_eq_error _ _ _ e ends
  obtain ⟨content, before⟩ := taken
  apply failure
  rw [standard_update, before, Hasher.update, map_eq_error_iff] at stopped
  unfold Strategy.message? at stopped
  split at stopped <;> cases stopped <;> rfl

theorem finalize_of_taken (content : Bytes) (h : Hasher) (taken : h.HasTaken a content) :
    (standard faults a).finalize h = .ok (a.hexDigest content) := by
  have shape := a.isHex_hexDigest content
  have positive : 0 < (2 * a.digestLength : Int) := by cases a <;> decide
  rw [finalize_eq_ok_iff, standard_hexDigest, standard_hexLength, taken]
  refine ⟨?_, shape.1, shape.isHexLine positive⟩
  exact congrArg (fun t => Except.ok (Value.text t)) (Bytes.lower_hex (a.scheme.digest content))

theorem taken_of_delivers (replies : List Reply) (before content : Bytes) (h : Hasher)
    (reads : Nat) (taken : h.HasTaken a before) (delivered : Delivers replies content) :
    ∃ h', (feed (standard faults a).update h reads replies).1 = .ok h' ∧
      h'.HasTaken a (before ++ content) := by
  induction delivered generalizing before h reads with
  | exhausted => exact ⟨h, rfl, by rwa [List.append_nil]⟩
  | ended v later empty =>
      refine ⟨h, ?_, by rwa [List.append_nil]⟩
      simp only [feed, if_pos empty]
  | piece v b rest later bytes nonempty delivered ih =>
      have full : v.isEmptyBytes = false := isEmptyBytes_of_message v b bytes nonempty
      obtain ⟨h', fed, whole⟩ := ih (before ++ b) _ (reads + 1) rfl
      rw [List.append_assoc] at whole
      refine ⟨h', ?_, whole⟩
      simp only [feed, full, update_of_taken faults a before b h v taken bytes]
      exact fed

theorem failsOnly_runFile (calm : ∀ f ∈ faults, f.2.isFatal = false) (source : Source)
    (path : Text) (size : Value) (fails : source.FailsAsFile size) :
    FailsOnly ((standard faults a).runFile source path size) := by
  refine (failsOnly_newHasher faults a calm).bind fun h₀ made => ?_
  have start := taken_of_newHasher faults a h₀ made
  refine FailsOnly.bind ?_ fun h fed => ?_
  · exact failsOnly_consume source path size _ _ (update_keeps_taken faults a)
      (failsOnly_update faults a) h₀ ⟨[], start⟩ fails
  · obtain ⟨content, taken⟩ :=
      consume_keeps source path size _ _ (update_keeps_taken faults a) h₀ h ⟨[], start⟩ fed
    exact failsOnly_of_ok (finalize_of_taken faults a content h taken)

end
end Descriptor

/-! ## Catalogs of standard descriptors -/

namespace Catalog

theorem standard_descriptors (faults : List (Algorithm × Fault)) (extended : Value) :
    (standard faults extended).descriptors =
      (algorithms extended).map (Descriptor.standard faults) := rfl

theorem name_injective (a b : Algorithm) (same : a.name = b.name) : a = b := by
  revert same
  cases a <;> cases b <;> decide

def IsBuiltIn (faults : List (Algorithm × Fault)) (c : Catalog Hasher) : Prop :=
  ∃ listed : List Algorithm, c.descriptors = listed.map (Descriptor.standard faults)

theorem find?_of_listed (faults : List (Algorithm × Fault)) (c : Catalog Hasher)
    (listed : List Algorithm) (holds : c.descriptors = listed.map (Descriptor.standard faults))
    (a : Algorithm) (offered : a ∈ listed) : c.find? a.name = some (.standard faults a) := by
  unfold find?
  rw [holds, List.find?_map]
  have named : ((fun d : Descriptor Hasher => d.name == a.name) ∘ Descriptor.standard faults) =
      fun b => b == a := by
    funext b
    rw [Function.comp_apply, Descriptor.standard_name, Bool.eq_iff_iff, beq_iff_eq, beq_iff_eq]
    exact ⟨name_injective b a, congrArg Algorithm.name⟩
  rw [named]
  have first : listed.find? (fun b => b == a) = some a := by
    cases looked : listed.find? fun b => b == a with
    | none =>
        have absent := List.find?_eq_none.mp looked a offered
        exact absurd (beq_self_eq_true a) absent
    | some b =>
        have agrees := List.find?_some looked
        rw [beq_iff_eq.mp agrees]
  rw [first]
  rfl

theorem find?_standard (faults : List (Algorithm × Fault)) (extended : Value) (a : Algorithm)
    (offered : a ∈ algorithms extended) :
    (standard faults extended).find? a.name = some (.standard faults a) :=
  find?_of_listed faults _ _ (standard_descriptors faults extended) a offered

end Catalog

end Fingerprint
