import Fingerprint.Proofs.Disk.Reading
import Fingerprint.Proofs.Outcome
import Fingerprint.Proofs.Text.Hex

/-! # The steps of a descriptor

What each guarded step gives and how it can end. `finalize_eq_ok_iff` says exactly which answers of
a strategy leave as digests. Once its path is a text and its reads have a size, hashing a file is
`runFile`: a new hasher, the content read into it, the digest taken. -/
set_option autoImplicit false
namespace Fingerprint.Descriptor
variable {η α : Type}

theorem guarded_eq_ok_iff (d : Descriptor η) (message : Text) (x : Except Fault α) (a : α) :
    d.guarded message x = .ok a ↔ x = .ok a := by
  cases x with
  | ok a' => simp [guarded]
  | error f =>
      simp only [guarded]
      split <;> simp

/-- Only what passes through every handler passes the guard. -/
theorem guarded_eq_error (d : Descriptor η) (message : Text) (x : Except Fault α) (e : Error)
    (ends : d.guarded message x = .error e) :
    ∃ f, x = .error f ∧ (f.isFatal = false → ∃ g, e = .failure g) := by
  cases x with
  | ok a => cases ends
  | error f =>
      refine ⟨f, rfl, ?_⟩
      intro calm
      rw [guarded, calm] at ends
      cases ends
      exact ⟨_, rfl⟩

theorem checked_eq_ok_iff (d : Descriptor η) (v : Value) (t : Text) :
    d.checked v = .ok t ↔ v = .text t ∧ (t.length : Int) = d.hexLength ∧ t.isHexLine = true := by
  constructor
  · intro passed
    unfold checked at passed
    split at passed
    · cases passed
    · next n counted =>
        split at passed
        · cases passed
        · next promised =>
            split at passed
            · next digest =>
                split at passed
                · next line =>
                    cases passed
                    cases counted
                    exact ⟨rfl, not_not.mp promised, line⟩
                · cases passed
            · cases passed
  · rintro ⟨rfl, promised, line⟩
    simp [checked, Value.length?, promised, line]

theorem finalize_eq (d : Descriptor η) (h : η) :
    d.finalize h =
      d.guarded "Hash primitive failed during finalize" (d.strategy.hexDigest h) >>= d.checked := by
  unfold finalize
  cases d.guarded "Hash primitive failed during finalize" (d.strategy.hexDigest h) <;> rfl

theorem finalize_eq_ok_iff (d : Descriptor η) (h : η) (t : Text) :
    d.finalize h = .ok t ↔ d.strategy.hexDigest h = .ok (.text t) ∧
      (t.length : Int) = d.hexLength ∧ t.isHexLine = true := by
  rw [d.finalize_eq, bind_eq_ok_iff]
  constructor
  · rintro ⟨answer, given, passed⟩
    obtain ⟨rfl, shape⟩ := (d.checked_eq_ok_iff answer t).mp passed
    exact ⟨(d.guarded_eq_ok_iff _ _ _).mp given, shape⟩
  · rintro ⟨given, shape⟩
    exact ⟨.text t, (d.guarded_eq_ok_iff _ _ _).mpr given,
      (d.checked_eq_ok_iff _ t).mpr ⟨rfl, shape⟩⟩

def runFile (d : Descriptor η) (source : Source) (path : Text) (size : Value) :
    Except Error Text := do
  let h ← d.newHasher
  let h ← (consume source path size d.update h).1
  d.finalize h

theorem computeFile_fst (d : Descriptor η) (sources : Text → Source) (path size : Value)
    (proper : size.nonpositive = .ok false) :
    (d.computeFile sources path size).1 =
      Input.path path >>= fun t => d.runFile (sources t) t size := by
  unfold computeFile prepareFile runFile
  rw [proper]
  cases Input.path path with
  | error e => rfl
  | ok t =>
      simp only [bind, Except.bind, mapError_ok]
      cases d.newHasher with
      | error e => rfl
      | ok h => rfl

theorem runFile_eq_ok_iff (d : Descriptor η) (source : Source) (path : Text) (size : Value)
    (t : Text) :
    d.runFile source path size = .ok t ↔ ∃ h₀ h, d.newHasher = .ok h₀ ∧
      (consume source path size d.update h₀).1 = .ok h ∧ d.finalize h = .ok t := by
  unfold runFile
  simp only [bind_eq_ok_iff]
  constructor
  · rintro ⟨h₀, made, h, fed, done⟩
    exact ⟨h₀, h, made, fed, done⟩
  · rintro ⟨h₀, h, made, fed, done⟩
    exact ⟨h₀, made, h, fed, done⟩

theorem prepareFile_eq_ok (d : Descriptor η) (path size : Value) (t : Text) (h : η)
    (prepared : d.prepareFile path size = .ok (t, h)) :
    Input.path path = .ok t ∧ size.nonpositive = .ok false ∧ d.newHasher = .ok h := by
  unfold prepareFile at prepared
  obtain ⟨p, resolved, checks⟩ := (bind_eq_ok_iff _ _ _).mp prepared
  obtain ⟨nonpositive, compared, passed⟩ := (bind_eq_ok_iff _ _ _).mp checks
  rw [mapError_eq_ok_iff] at compared
  cases nonpositive with
  | true => cases passed
  | false =>
      obtain ⟨h', made, same⟩ := (bind_eq_ok_iff _ _ _).mp passed
      cases same
      exact ⟨resolved, compared, made⟩

/-- A digest of a file comes out of `runFile`, whatever was checked before. -/
theorem runFile_of_computeFile (d : Descriptor η) (sources : Text → Source) (path size : Value)
    (t : Text) (run : (d.computeFile sources path size).1 = .ok t) :
    ∃ p, Input.path path = .ok p ∧ d.runFile (sources p) p size = .ok t := by
  unfold computeFile at run
  cases prepared : d.prepareFile path size with
  | error e =>
      rw [prepared] at run
      cases run
  | ok opened =>
      obtain ⟨p, h₀⟩ := opened
      rw [prepared] at run
      obtain ⟨resolved, -, made⟩ := d.prepareFile_eq_ok path size p h₀ prepared
      obtain ⟨h, fed, done⟩ := (bind_eq_ok_iff _ _ t).mp run
      exact ⟨p, resolved, (d.runFile_eq_ok_iff _ p size t).mpr ⟨h₀, h, made, fed, done⟩⟩

theorem computeData_eq_ok_iff (d : Descriptor η) (v : Value) (t : Text) :
    d.computeData v = .ok t ↔ ∃ content h₀ h, Input.data v = .ok content ∧ d.newHasher = .ok h₀ ∧
      d.update h₀ content = .ok h ∧ d.finalize h = .ok t := by
  unfold computeData
  simp only [bind_eq_ok_iff, mapError_eq_ok_iff]
  constructor
  · rintro ⟨content, taken, h₀, made, h, fed, done⟩
    exact ⟨content, h₀, h, taken, made, fed, done⟩
  · rintro ⟨content, h₀, h, taken, made, fed, done⟩
    exact ⟨content, taken, h₀, made, h, fed, done⟩

end Fingerprint.Descriptor
