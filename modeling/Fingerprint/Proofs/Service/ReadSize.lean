import Fingerprint.Proofs.Service.Chunking

/-! # Sizes of reads

The checks on a size let everything through that compares with zero and is not below it: truth,
positive integers and floating-point numbers, among them the one that is no number. A read takes
only integers below its limit, which is a little less than a machine word can hold. `ByFit` says of
an outcome that it is a given result for the sizes that fit, and for all others the fault that the
first read raises. -/
set_option autoImplicit false
namespace Fingerprint
open Hash

namespace Value

/-- A size that a read can be asked for: truth counts as one. -/
def FitsRead : Value → Prop
  | .bool _ => True
  | .int i => i < Source.readLimit
  | _ => False

/-- What a read of any other size raises. -/
def misfit : Value → Fault
  | .int _ => ⟨.overflow, []⟩
  | _ => .wrongType

theorem nonpositive_eq_false_iff (size : Value) : size.nonpositive = .ok false ↔
    size = .bool true ∨ (∃ i, size = .int i ∧ 0 < i) ∨
      ∃ x, size = .float x ∧ x.nonpositive = false := by
  cases size with
  | bool b => simp [nonpositive]
  | int i => simp [nonpositive]
  | float x => simp [nonpositive]
  | _ => simp [nonpositive]

theorem readSize_of_fits (size : Value) (accepted : size.nonpositive = .ok false)
    (fits : size.FitsRead) : ∃ n, Source.readSize size = .ok n ∧ 0 < n := by
  rcases (nonpositive_eq_false_iff size).mp accepted with rfl | ⟨i, rfl, positive⟩ | ⟨x, rfl, -⟩
  · exact ⟨1, rfl, Nat.one_pos⟩
  · refine ⟨i.toNat, ?_, by omega⟩
    rw [Source.readSize, if_neg (Int.not_le.mpr fits)]
  · exact fits.elim

theorem readSize_of_misfits (size : Value) (accepted : size.nonpositive = .ok false)
    (misfits : ¬ size.FitsRead) : Source.readSize size = .error size.misfit := by
  rcases (nonpositive_eq_false_iff size).mp accepted with rfl | ⟨i, rfl, -⟩ | ⟨x, rfl, -⟩
  · exact absurd trivial misfits
  · rw [Source.readSize, if_pos (Int.not_lt.mp misfits)]
    rfl
  · rfl

theorem isFileFault_misfit (size : Value) : size.misfit.isFileFault = false := by
  cases size <;> rfl

end Value

theorem Service.checkChunkSize_of_accepted (size : Value) (accepted : size.nonpositive = .ok false) :
    checkChunkSize size = .ok () := by
  unfold checkChunkSize
  rw [accepted]
  rfl

/-- The outcome is `a` when the size fits a read, and else the fault of the read. -/
structure ByFit {α : Type} (size : Value) (x : Except Error α) (a : α) : Prop where
  fits : size.FitsRead → x = .ok a
  misfits : ¬ size.FitsRead → x = .error (.fault size.misfit)

theorem consume_of_readSize_error {σ : Type} (content : Bytes) (path : Text) (size : Value)
    (f : Fault) (refused : Source.readSize size = .error f) (foreign : f.isFileFault = false)
    (step : σ → Value → Except Error σ) (s : σ) :
    (consume (.stored content) path size step s).1 = .error (.fault f) := by
  have only : (Source.stored content).replies size = [.fault f] := by
    rw [Source.replies, refused]
  unfold consume
  rw [only]
  simp only [feed, mapError_error, Error.aboutFile, foreign]
  rfl

section
variable (faults : List (Algorithm × Fault)) (a : Algorithm) (available : faults.lookup a = none)
  (content : Bytes) (size : Value) (accepted : size.nonpositive = .ok false)
include available accepted

theorem Descriptor.byFit_runFile (path : Text) :
    ByFit size ((standard faults a).runFile (.stored content) path size)
      (a.hexDigest content) where
  fits := by
    intro fits
    obtain ⟨n, proper, positive⟩ := size.readSize_of_fits accepted fits
    exact runFile_standard faults a available _ content path size
      (Source.holds_stored size n proper content positive)
  misfits := by
    intro misfits
    have refused := size.readSize_of_misfits accepted misfits
    unfold runFile
    rw [newHasher_of_available faults a available]
    simp only [bind, Except.bind, consume_of_readSize_error content path size _ refused
      size.isFileFault_misfit]

variable (sources : Text → Source) (path : Value) (t : Text) (resolved : Input.path path = .ok t)
  (regular : sources t = .stored content)
include resolved regular

theorem Descriptor.byFit_computeFile :
    ByFit size ((standard faults a).computeFile sources path size).1 (a.hexDigest content) := by
  have run := byFit_runFile faults a available content size accepted t
  rw [computeFile_fst _ _ _ _ accepted, resolved]
  rw [← regular] at run
  exact run

theorem Service.byFit_computeFile (catalog : Catalog Hasher)
    (found : catalog.find? a.name = some (.standard faults a)) :
    ByFit size ((⟨catalog, size⟩ : Service Hasher).computeFile sources (.text a.name) path).1
      (a.hexDigest content) := by
  have run := Descriptor.byFit_runFile faults a available content size accepted t
  have looked : (⟨catalog, size⟩ : Service Hasher).require (.text a.name) =
      .ok (.standard faults a) := (Service.require_eq_ok_iff _ _ _).mpr found
  rw [computeFile_eq _ accepted, looked]
  simp only [bind, Except.bind, resolved]
  rw [← regular] at run
  exact run

end
end Fingerprint
