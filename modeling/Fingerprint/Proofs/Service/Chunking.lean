import Fingerprint.Proofs.Descriptor.Standard
import Fingerprint.Proofs.Service.SinglePass

/-! # Digests do not depend on the pieces

What a standard descriptor gives for data is the digest of the data, and for a file the digest of
what the file holds, however large the reads are and however the replies cut the content. A service
over a standard catalog gives the same. -/
set_option autoImplicit false
namespace Fingerprint
open Hash

namespace Descriptor
variable (faults : List (Algorithm × Fault)) (a : Algorithm)

theorem computeData_of_message (available : faults.lookup a = none) (v w : Value) (content : Bytes)
    (taken : Input.data v = .ok w) (message : Strategy.message? w = .ok content) :
    (standard faults a).computeData v = .ok (a.hexDigest content) := by
  have made := newHasher_of_available faults a available
  have start := taken_of_newHasher faults a _ made
  have fed := update_of_taken faults a [] content _ w start message
  exact (computeData_eq_ok_iff _ _ _).mpr
    ⟨w, _, _, taken, made, fed, finalize_of_taken faults a content _ rfl⟩

theorem computeData_standard (available : faults.lookup a = none) (content : Bytes) :
    (standard faults a).computeData (.bytes content) = .ok (a.hexDigest content) :=
  computeData_of_message faults a available _ _ content rfl rfl

theorem runFile_standard (available : faults.lookup a = none) (source : Source)
    (content : Bytes) (path : Text) (size : Value) (holds : source.Holds size content) :
    (standard faults a).runFile source path size = .ok (a.hexDigest content) := by
  have made := newHasher_of_available faults a available
  have start := taken_of_newHasher faults a _ made
  obtain ⟨h, fed, taken⟩ := taken_of_delivers faults a _ [] content _ 0 start holds.delivered
  have whole : (consume source path size (standard faults a).update (.standard (.start a))).1 =
      .ok h := by
    rw [consume_opened source path size _ _ holds.opens, fed]
    rfl
  exact (runFile_eq_ok_iff _ _ _ _ _).mpr
    ⟨_, h, made, whole, finalize_of_taken faults a content h taken⟩

end Descriptor

theorem Value.nonpositive_of_positive (i : Int) (positive : 0 < i) :
    (Value.int i).nonpositive = .ok false := by
  rw [Value.nonpositive, decide_eq_false (by omega)]

theorem Service.make_of_proper {η : Type} (catalog : Catalog η) (size : Value)
    (proper : size.nonpositive = .ok false) : make catalog size = .ok ⟨catalog, size⟩ := by
  unfold make checkChunkSize
  rw [proper]
  rfl

theorem Service.require_standard (faults : List (Algorithm × Fault)) (extended : Value)
    (a : Algorithm) (offered : a ∈ Catalog.algorithms extended) (size : Value) :
    (⟨Catalog.standard faults extended, size⟩ : Service Hasher).require (.text a.name) =
      .ok (.standard faults a) :=
  (require_eq_ok_iff _ _ _).mpr (Catalog.find?_standard faults extended a offered)

theorem Service.computeFile_standard (faults : List (Algorithm × Fault)) (extended : Value)
    (a : Algorithm) (offered : a ∈ Catalog.algorithms extended)
    (available : faults.lookup a = none) (content : Bytes) (size : Int) (positive : 1 ≤ size)
    (sources : Text → Source) (path : Value) (t : Text) (resolved : Input.path path = .ok t)
    (holds : (sources t).Holds (.int size) content) :
    ((⟨Catalog.standard faults extended, .int size⟩ : Service Hasher).computeFile sources
      (.text a.name) path).1 = .ok (a.hexDigest content) := by
  rw [computeFile_eq _ (Value.nonpositive_of_positive size positive),
    require_standard faults extended a offered, resolved]
  exact Descriptor.runFile_standard faults a available _ content t _ holds

/-- Data, a file read by a service and a file read by a descriptor have one digest, which is that of
the content cut into blocks. -/
theorem digest_of_any_pieces (faults : List (Algorithm × Fault)) (extended : Value)
    (a : Algorithm) (offered : a ∈ Catalog.algorithms extended)
    (available : faults.lookup a = none) (content : Bytes) (size : Int) (positive : 1 ≤ size)
    (sources : Text → Source) (path : Value) (t : Text) (resolved : Input.path path = .ok t)
    (holds : (sources t).Holds (.int size) content) :
    (∃ digest, a.scheme.Digests content digest ∧ a.hexDigest content = Bytes.hex digest) ∧
    (a.hexDigest content).IsHex (2 * a.digestLength) ∧
    ∃ s d, Service.make (Catalog.standard faults extended) (.int size) = .ok s ∧
      s.catalog.find? a.name = some d ∧
      s.computeData (.text a.name) (.bytes content) = .ok (a.hexDigest content) ∧
      (s.computeFile sources (.text a.name) path).1 = .ok (a.hexDigest content) ∧
      d.computeData (.bytes content) = .ok (a.hexDigest content) ∧
      (d.computeFile sources path (.int size)).1 = .ok (a.hexDigest content) := by
  have compared := Value.nonpositive_of_positive size positive
  have found := Catalog.find?_standard faults extended a offered
  have data := Descriptor.computeData_standard faults a available content
  have file := Descriptor.runFile_standard faults a available (sources t) content t (.int size) holds
  let s : Service Hasher := ⟨Catalog.standard faults extended, .int size⟩
  have looked : s.require (.text a.name) = .ok (.standard faults a) :=
    Service.require_standard faults extended a offered _
  refine ⟨⟨_, a.scheme.digests_digest a.padded content, rfl⟩, a.isHex_hexDigest content, s,
    .standard faults a, Service.make_of_proper _ _ compared, found, ?_, ?_, data, ?_⟩
  · exact (bind_eq_ok_iff _ _ _).mpr ⟨_, looked, data⟩
  · exact Service.computeFile_standard faults extended a offered available content size positive
      sources path t resolved holds
  · rw [Descriptor.computeFile_fst _ _ _ _ compared, resolved]
    exact file

/-- Three bytes in two pieces of different containers, with a reply that is never asked for. -/
theorem digest_of_any_pieces_cut_in_two :
    let source : Source :=
      .scripted [.data (.bytes [97]), .data (.buffer [98, 99]), .data (.bytes []), .fault .nulByte]
    Algorithm.md2 ∈ Catalog.algorithms (.bool true) ∧ source.Holds (.int 8) [97, 98, 99] ∧
      ∃ s, Service.make (Catalog.standard [] (.bool true)) (.int 8) = .ok s ∧
        (s.computeFile (fun _ => source) (.text "md2") (.path "f")).1 =
          s.computeData (.text "md2") (.bytes [97, 98, 99]) := by
  intro source
  have offered : Algorithm.md2 ∈ Catalog.algorithms (.bool true) := by decide
  have holds : source.Holds (.int 8) [97, 98, 99] := by
    have last : Delivers [.data (.bytes []), .fault .nulByte] [] := .ended _ _ rfl
    exact ⟨nofun, .piece (.bytes [97]) [97] _ _ rfl (by decide)
      (.piece (.buffer [98, 99]) [98, 99] _ _ rfl (by decide) last)⟩
  obtain ⟨-, -, s, d, made, -, data, file, -⟩ := digest_of_any_pieces [] (.bool true) .md2 offered
    rfl [97, 98, 99] 8 (by decide) (fun _ => source) (.path "f") "f" rfl holds
  exact ⟨offered, holds, s, made, file.trans data.symm⟩

end Fingerprint
