import Fingerprint.Proofs.Session.Hashing
import Fingerprint.Proofs.Session.Starting
import Fingerprint.Proofs.Settings.Assembling
import Fingerprint.Proofs.Settings.Content

/-! # Chunk sizes that are accepted

Validation of settings, services and descriptors accept a chunk size by its sign alone. A file is
hashed with it exactly when it fits a read (`ByFit`): truth, or an integer below the limit of reads.
The digest is then that of the content, as with the default size, and otherwise the call ends with
the fault of the read, also where calls leave nothing instead of a failure. -/
set_option autoImplicit false
namespace Fingerprint.Session
open Fingerprint.Action Hash

theorem byFit_hashFile (s : Session) (serial k : Nat) (size : Value) (c : Catalog Hasher)
    (logger : Instance) (algorithm path : Value) (digest : Text)
    (computed : ByFit size
      ((⟨c, size⟩ : Service Hasher).computeFile s.host.source algorithm path).1 digest) :
    ByFit size (runOn s (hashFile (.service serial size (.catalog k c) logger) algorithm path)).1
      (some digest) := by
  obtain ⟨s', same⟩ := runOn_hashFile s serial k size c logger algorithm path
  rw [same]
  refine ⟨?_, ?_⟩
  · intro fits
    rw [computed.fits fits]
    rfl
  · intro misfits
    rw [computed.misfits misfits]
    exact runOn_reported_fault s' logger _ _ _

theorem newService_returns (s : Session) (k : Nat) (c : Catalog Hasher) (size : Value)
    (logger : Instance) (accepted : size.nonpositive = .ok false) :
    runOn s (newService (.catalog k c) size logger) =
      (.ok (.service s.objects size (.catalog k c) logger), { s with objects := s.objects + 1 }) := by
  unfold newService newServiceBy
  rw [Service.checkChunkSize_of_accepted size accepted]
  rfl

theorem validated_of_uses (s : Session) (given : Option (Nat × Settings)) (named : Option Path)
    (startDirectory : Value) (from_ : Settings) (uses : Uses s given named startDirectory from_)
    (validated : ∀ serial from_, given = some (serial, from_) → from_.digest.Validated) :
    from_.digest.Validated := by
  rcases uses with same | ⟨-, loaded⟩
  · obtain ⟨⟨serial, _⟩, there, rfl⟩ := Option.map_eq_some_iff.mp same
    exact validated serial _ there
  · exact Settings.validated_of_load s.host named startDirectory from_ loaded

section
variable (a : Algorithm) (content : Bytes) (path : Value) (t : Text)
  (resolved : Input.path path = .ok t)
include resolved

theorem byFit_hashFile_standard (s : Session) (serial k : Nat) (faults : List (Algorithm × Fault))
    (extended size : Value) (logger : Instance) (offered : a ∈ Catalog.algorithms extended)
    (available : faults.lookup a = none) (accepted : size.nonpositive = .ok false)
    (regular : s.host.source t = .stored content) :
    ByFit size (runOn s (hashFile (.service serial size
      (.catalog k (Catalog.standard faults extended)) logger) (.text a.name) path)).1
      (some (a.hexDigest content)) :=
  byFit_hashFile s serial k size _ logger _ path _
    (Service.byFit_computeFile faults a available content size accepted s.host.source path t resolved
      regular _ (Catalog.find?_standard faults extended a offered))

/-- Every accepted chunk size gives the digest of the content, as the default does, if it fits a read,
and ends with the fault of the read if it does not: for services and descriptors, for services that
are made in a session, and for the one that a start makes from validated settings. -/
theorem accepted_chunk_sizes_hash_if_they_fit :
    (Value.int Service.defaultChunkSize).FitsRead ∧
    (∀ (faults : List (Algorithm × Fault)) (extended size : Value) (sources : Text → Source),
      a ∈ Catalog.algorithms extended → faults.lookup a = none → size.nonpositive = .ok false →
      sources t = .stored content →
      ∃ service d, Service.make (Catalog.standard faults extended) size = .ok service ∧
        service.catalog.find? a.name = some d ∧
        ByFit size (service.computeFile sources (.text a.name) path).1 (a.hexDigest content) ∧
        ByFit size (d.computeFile sources path size).1 (a.hexDigest content)) ∧
    (∀ (s : Session) (k : Nat) (faults : List (Algorithm × Fault)) (extended size : Value)
        (logger : Instance),
      a ∈ Catalog.algorithms extended → faults.lookup a = none → size.nonpositive = .ok false →
      s.host.source t = .stored content →
      ∃ i s', runOn s (newService (.catalog k (Catalog.standard faults extended)) size logger) =
          (.ok i, s') ∧
        ByFit size (runOn s' (hashFile i (.text a.name) path)).1 (some (a.hexDigest content))) ∧
    (∀ (s : Session) (given : Option (Nat × Settings)) (named : Option Path)
        (startDirectory : Value) (c : Container) (s₁ : Session) (i : Instance) (s₂ : Session),
      s.started = false →
      (∀ serial from_, given = some (serial, from_) → from_.digest.Validated) →
      runOn s (start given named startDirectory) = (.ok c, s₁) →
      runOn s₁ (resolve .global .service) = (.ok i, s₂) →
      ∃ from_, Uses s given named startDirectory from_ ∧ from_.digest.Validated ∧
        (a ∈ Catalog.algorithms (.bool from_.digest.extended) → s₁.faults.lookup a = none →
          s₂.host.source t = .stored content →
          ByFit (.int from_.digest.chunkSize) (runOn s₂ (hashFile i (.text a.name) path)).1
            (some (a.hexDigest content)))) ∧
    ∀ (s : Session) (serial : Nat) (from_ : Settings) (named : Option Path) (startDirectory : Value),
      s.started = false → from_.digest.Validated → s.Opens from_.logging →
      ∃ c s₁ i s₂, runOn s (start (some (serial, from_)) named startDirectory) = (.ok c, s₁) ∧
        runOn s₁ (resolve .global .service) = (.ok i, s₂) := by
  have small : Service.defaultChunkSize < Source.readLimit := by decide
  refine ⟨small, ?_, ?_, ?_, ?_⟩
  · intro faults extended size sources offered available accepted regular
    have found := Catalog.find?_standard faults extended a offered
    exact ⟨_, _, Service.make_of_proper _ size accepted, found,
      Service.byFit_computeFile faults a available content size accepted sources path t resolved
        regular _ found,
      Descriptor.byFit_computeFile faults a available content size accepted sources path t resolved
        regular⟩
  · intro s k faults extended size logger offered available accepted regular
    exact ⟨_, _, newService_returns s k _ size logger accepted,
      byFit_hashFile_standard a content path t resolved _ _ k faults extended size logger offered
        available accepted regular⟩
  · intro s given named startDirectory c s₁ i s₂ fresh validated started resolvedService
    obtain ⟨from_, uses, ready⟩ := ready_of_start s fresh named startDirectory given c s₁ started
    have valid := validated_of_uses s given named startDirectory from_ uses validated
    refine ⟨from_, uses, valid, ?_⟩
    intro offered available regular
    rcases resolve_service s₁ from_ ready valid.positive with
      ⟨-, m, k, n, s', run⟩ | ⟨-, e, s', fails⟩
    · cases run.symm.trans resolvedService
      exact byFit_hashFile_standard a content path t resolved _ m k _ _ _ _ offered available
        (Value.nonpositive_of_positive _ valid.positive) regular
    · cases fails.symm.trans resolvedService
  · intro s serial from_ named startDirectory fresh valid opens
    obtain ⟨c, s₁, started, ready, settled⟩ :=
      start_returns s fresh named startDirectory serial from_ opens
    rcases resolve_service s₁ from_ ready valid.positive with
      ⟨-, m, k, n, s₂, run⟩ | ⟨unsettled, -⟩
    · exact ⟨c, s₁, _, s₂, started, run⟩
    · exact absurd settled unsettled

end

/-- A file of one byte, read three bytes at a time by the service of a program that was started. -/
theorem accepted_chunk_sizes_hash_if_they_fit_small_size :
    let s := onHost (Settings.onFiles [([[0x66]], .file [97])]) (.ofText "/") "clock"
    let from_ : Settings := ⟨⟨true, 3⟩, .default, none, none⟩
    Input.path (.text "f") = .ok "f" ∧ s.started = false ∧ from_.digest.Validated ∧
      s.Opens from_.logging ∧
      ∃ c s₁ i s₂, runOn s (start (some (0, from_)) none .null) = (.ok c, s₁) ∧
        runOn s₁ (resolve .global .service) = (.ok i, s₂) ∧
        s₂.host.source "f" = .stored [97] ∧
        (runOn s₂ (hashFile i (.text "md5") (.text "f"))).1 =
          .ok (some (Algorithm.md5.hexDigest [97])) := by
  intro s from_
  have valid : from_.digest.Validated := Settings.DigestSection.validated_of_sound ⟨true, 3⟩ (by decide)
  have opens : s.Opens from_.logging := opens_of_no_file s _ rfl
  obtain ⟨-, -, -, hashes, returns⟩ :=
    accepted_chunk_sizes_hash_if_they_fit .md5 [97] (.text "f") "f" rfl
  obtain ⟨c, s₁, i, s₂, started, served⟩ := returns s 0 from_ none .null rfl valid opens
  have first : (runOn s (start (some (0, from_)) none .null)).2 = s₁ := by rw [started]
  have second : (runOn s₁ (resolve .global .service)).2 = s₂ := by rw [served]
  have available : s₁.faults.lookup .md5 = none := by
    rw [← first]
    rfl
  have regular : s₂.host.source "f" = .stored [97] := by
    rw [← second, ← first]
    rfl
  obtain ⟨used, uses, -, hashed⟩ := hashes s (some (0, from_)) none .null c s₁ i s₂ rfl
    (fun _ _ same => by cases same; exact valid) started served
  have same : used = from_ := by
    rcases uses with same | ⟨none, -⟩
    · cases same
      rfl
    · cases none
  subst same
  have offered : Algorithm.md5 ∈ Catalog.algorithms (.bool true) := by decide
  have fits : (3 : Int) < Source.readLimit := by decide
  exact ⟨rfl, rfl, valid, opens, c, s₁, i, s₂, started, served, regular,
    (hashed offered available regular).fits fits⟩

/-- Validation accepts a size that no read takes: the call that was promised a digest ends with an
overflow. -/
theorem validated_chunk_size_overflows :
    let s := onHost (Settings.onFiles [([[0x66]], .file [97])]) (.ofText "/") "clock"
    let from_ : Settings := ⟨⟨true, 0x8000000000000000⟩, .default, none, none⟩
    from_.digest.Validated ∧
      ∃ c s₁ i s₂, runOn s (start (some (0, from_)) none .null) = (.ok c, s₁) ∧
        runOn s₁ (resolve .global .service) = (.ok i, s₂) ∧
        s₂.host.source "f" = .stored [97] ∧
        (runOn s₂ (hashFile i (.text "md5") (.text "f"))).1 = .error (.fault ⟨.overflow, []⟩) := by
  intro s from_
  have valid : from_.digest.Validated :=
    Settings.DigestSection.validated_of_sound ⟨true, 0x8000000000000000⟩ (by decide)
  obtain ⟨c, s₁, started, ready, settled⟩ :=
    start_returns s rfl none .null 0 from_ (opens_of_no_file s _ rfl)
  rcases resolve_service s₁ from_ ready valid.positive with
    ⟨-, m, k, n, s₂, served⟩ | ⟨unsettled, -⟩
  · have first : (runOn s (start (some (0, from_)) none .null)).2 = s₁ := by rw [started]
    have second : (runOn s₁ (resolve .global .service)).2 = s₂ := by rw [served]
    have available : s₁.faults.lookup .md5 = none := by
      rw [← first]
      rfl
    have regular : s₂.host.source "f" = .stored [97] := by
      rw [← second, ← first]
      rfl
    have byFit := byFit_hashFile_standard .md5 [97] (.text "f") "f" rfl s₂ m k s₁.faults (.bool true)
      (.int 0x8000000000000000) (.logger n defaultLoggerName) (by decide) available
      (Value.nonpositive_of_positive _ valid.positive) regular
    have beyond : ¬ (Value.int 0x8000000000000000).FitsRead := by
      show ¬ (0x8000000000000000 : Int) < Source.readLimit
      decide
    exact ⟨valid, c, s₁, _, s₂, started, served, regular, byFit.misfits beyond⟩
  · exact absurd settled unsettled

end Fingerprint.Session
