import Fingerprint.Proofs.Service.Chunking
import Fingerprint.Proofs.Session.Reporting
import Fingerprint.Proofs.Text.Encoding

/-! # Data is hashed by its content

Byte containers and texts without surrogates have a content, their bytes or their UTF-8 encoding
(`HasContent`). A call for data gives the digest of the content, whatever container it comes in,
except for views whose bytes do not lie together: the primitive refuses these (`Scattered`), and
the call gives nothing. -/
set_option autoImplicit false
namespace Fingerprint
open Fingerprint.Action Hash

namespace Value

inductive HasContent : Value → Bytes → Prop
  | bytes (b : Bytes) : HasContent (.bytes b) b
  | buffer (b : Bytes) : HasContent (.buffer b) b
  | view (b : Bytes) (contiguous : Bool) : HasContent (.view b contiguous) b
  | text (s : String) : HasContent (.text (Text.ofString s)) s.toUTF8.data.toList

/-- A view whose bytes do not lie together. -/
def Scattered (v : Value) : Prop := ∃ b, v = .view b false

theorem hasContent_of_plain (t : Text) (plain : ∀ c ∈ t, c.isSurrogate = false) :
    ∃ content, (Value.text t).HasContent content := by
  obtain ⟨s, rfl⟩ := Text.exists_ofString t plain
  exact ⟨_, .text s⟩

theorem message_of_hasContent (v : Value) (content : Bytes) (has : v.HasContent content)
    (whole : ¬ v.Scattered) :
    ∃ w, Input.data v = .ok w ∧ Strategy.message? w = .ok content := by
  cases has with
  | bytes => exact ⟨_, rfl, rfl⟩
  | buffer => exact ⟨_, rfl, rfl⟩
  | view _ contiguous =>
      cases contiguous with
      | true => exact ⟨_, rfl, rfl⟩
      | false => exact absurd ⟨content, rfl⟩ whole
  | text s =>
      refine ⟨.bytes s.toUTF8.data.toList, ?_, rfl⟩
      simp only [Input.data, Utf8.encode?_ofString]

end Value

namespace Descriptor
def scatteredFailure (a : Algorithm) : Failure :=
  .primitive "Hash primitive failed during update" a.name [] (some ⟨.buffer, []⟩)

theorem computeData_of_scattered (faults : List (Algorithm × Fault)) (a : Algorithm)
    (available : faults.lookup a = none) (v : Value) (scattered : v.Scattered) :
    (standard faults a).computeData v = .error (.failure (scatteredFailure a)) := by
  obtain ⟨b, rfl⟩ := scattered
  have refused : (standard faults a).update (.standard (.start a)) (.view b false) =
      .error (.failure (scatteredFailure a)) := by
    unfold update
    rw [standard_update, scatteredFailure, ← standard_name faults a]
    rfl
  unfold computeData
  rw [newHasher_of_available faults a available]
  simp only [bind, Except.bind, Input.data, mapError_ok, refused]

end Descriptor

namespace Session

section
variable (faults : List (Algorithm × Fault)) (extended : Value) (a : Algorithm)
  (offered : a ∈ Catalog.algorithms extended) (s : Session) (serial k : Nat) (size : Value)
  (logger : Instance)
include offered

theorem runOn_data_standard (v : Value) (outcome : Except Error Text)
    (computed : (Descriptor.standard faults a).computeData v = outcome) :
    let service : Instance :=
      .service serial size (.catalog k (Catalog.standard faults extended)) logger
    runOn s (computeData service (.text a.name) v) = (outcome, s) ∧
      runOn s (hashData service (.text a.name) v) =
        runOn s (reported logger (Service.reported "hash_data" (.text a.name) outcome)) := by
  intro service
  let dispatcher : Service Hasher := ⟨Catalog.standard faults extended, size⟩
  have looked : dispatcher.require (.text a.name) = .ok (.standard faults a) :=
    Service.require_standard faults extended a offered size
  have same : dispatcher.computeData (.text a.name) v = outcome := by
    unfold Service.computeData
    rw [looked]
    exact computed
  rw [← same]
  exact ⟨runOn_ofExcept s _, rfl⟩

/-- A call for data gives the digest of the content of bytes, buffers, views and texts without
surrogates, with every algorithm that is offered; views whose bytes do not lie together give
nothing. -/
theorem data_is_hashed_by_content_unless_scattered (available : faults.lookup a = none) :
    let service : Instance :=
      .service serial size (.catalog k (Catalog.standard faults extended)) logger
    (∀ t : Text, (∀ c ∈ t, c.isSurrogate = false) → ∃ content, (Value.text t).HasContent content) ∧
    (∀ v content, v.HasContent content → ¬ v.Scattered →
      runOn s (computeData service (.text a.name) v) = (.ok (a.hexDigest content), s) ∧
      runOn s (hashData service (.text a.name) v) = (.ok (some (a.hexDigest content)), s)) ∧
    ∀ v : Value, v.Scattered →
      runOn s (computeData service (.text a.name) v) =
        (.error (.failure (Descriptor.scatteredFailure a)), s) ∧
      (logger.IsLogger → runOn s (hashData service (.text a.name) v) =
        (.ok none, s.handed logger
          ((Call.data (.text a.name) v).record (Descriptor.scatteredFailure a)))) := by
  intro service
  refine ⟨Value.hasContent_of_plain, ?_, ?_⟩
  · intro v content has whole
    obtain ⟨w, taken, message⟩ := v.message_of_hasContent content has whole
    exact runOn_data_standard faults extended a offered s serial k size logger v _
      (Descriptor.computeData_of_message faults a available v w content taken message)
  · intro v scattered
    obtain ⟨computed, hashed⟩ := runOn_data_standard faults extended a offered s serial k size
      logger v _ (Descriptor.computeData_of_scattered faults a available v scattered)
    refine ⟨computed, ?_⟩
    intro isLogger
    have told := report_own s ((Call.data (.text a.name) v).record (Descriptor.scatteredFailure a))
      logger isLogger
    exact hashed.trans (runOn_reported_failure s logger _ _ _ _ _ told)

end

/-- A text, its encoding as bytes, as a buffer and as a view have one digest. -/
theorem data_is_hashed_by_content_unless_scattered_one_letter :
    let service : Instance :=
      .service 1 (.int 8388608) (.catalog 0 (Catalog.standard [] (.bool true))) (.recorder 2)
    ∀ v ∈ [Value.text "é", .bytes [0xC3, 0xA9], .buffer [0xC3, 0xA9], .view [0xC3, 0xA9] true],
      runOn onEmptyDisk (hashData service (.text "md4") v) =
        (.ok (some (Algorithm.md4.hexDigest [0xC3, 0xA9])), onEmptyDisk) := by
  intro service v member
  obtain ⟨-, hashes, -⟩ := data_is_hashed_by_content_unless_scattered [] (.bool true) .md4
    (by decide) onEmptyDisk 1 0 (.int 8388608) (.recorder 2) rfl
  simp only [List.mem_cons, List.not_mem_nil, or_false] at member
  rcases member with rfl | rfl | rfl | rfl
  · exact (hashes _ _ (.text "é") nofun).2
  · exact (hashes _ _ (.bytes _) nofun).2
  · exact (hashes _ _ (.buffer _) nofun).2
  · exact (hashes _ _ (.view _ true) nofun).2

/-- Every other byte of three gives nothing, while the same two bytes together have a digest. -/
theorem scattered_view_gives_nothing :
    let service : Instance :=
      .service 1 (.int 8388608) (.catalog 0 (Catalog.standard [] (.bool true))) (.recorder 2)
    (Value.view [0x61, 0x63] false).HasContent [0x61, 0x63] ∧
      (runOn onEmptyDisk (hashData service (.text "md5") (.view [0x61, 0x63] false))).1 =
        .ok none ∧
      (runOn onEmptyDisk (hashData service (.text "md5") (.bytes [0x61, 0x63]))).1 =
        .ok (some (Algorithm.md5.hexDigest [0x61, 0x63])) := by
  intro service
  refine ⟨.view _ false, rfl, ?_⟩
  obtain ⟨-, hashed⟩ := runOn_data_standard [] (.bool true) .md5 (by decide) onEmptyDisk 1 0
    (.int 8388608) (.recorder 2) (.bytes [0x61, 0x63]) _
    (Descriptor.computeData_standard [] .md5 rfl [0x61, 0x63])
  exact congrArg Prod.fst hashed

end Session
end Fingerprint
