import Fingerprint.Host
import Fingerprint.Proofs.Disk.Erasing

/-! # The working directory

A path is followed from the root over the working directory as it is from the working directory
itself: looking up a relative path and the same path behind the working directory leads to one place
(`lookup_within`). Only the length tells them apart, since no system call takes a path of more than
4095 bytes (`lookup_of_long`). -/
set_option autoImplicit false
namespace Fingerprint.Disk

/-- A place under two spellings: both lookups lead there, or both fail in one way. -/
inductive Alike (path path' : Text) : Except Fault Lookup → Except Fault Lookup → Prop where
  | leads (l : Lookup) : Alike path path' (.ok l) (.ok l)
  | notFound : Alike path path' (.error (.notFound path)) (.error (.notFound path'))
  | notDirectory : Alike path path' (.error (.notDirectory path)) (.error (.notDirectory path'))
  | nameTooLong : Alike path path' (.error (.nameTooLong path)) (.error (.nameTooLong path'))
  | invalid (f f' : Fault) (value : f.kind.isValue = true) (value' : f'.kind.isValue = true) :
      Alike path path' (.error f) (.error f')

theorem Alike.eq_of_leads (path path' : Text) (l : Lookup) (r : Except Fault Lookup)
    (alike : Alike path path' (.ok l) r) : r = .ok l := by
  cases alike
  rfl

/-- A program works in the directory: from the root, the parts of its path lead to a directory that
lies where the path says. No system call has to take the path, which may be of any length. -/
structure WorksIn (d : Disk) (directory : Path) : Prop where
  plain : directory.Plain
  absolute : directory.isAbsolute = true
  leads : ∃ bytes, pathBytes directory.text = .ok bytes ∧
    d.walk directory.text [] (splitSlash bytes) = .ok (.found (locationOf directory) .directory)

/-- The path has a form that a system call takes, but for its length. -/
def TooLong (path : Text) : Prop := ∃ bytes, pathBytes path = .ok bytes ∧ 4095 < bytes.length

/-! ## Walks -/

section
variable (d : Disk) (path path' : Text)

theorem walk_alike (here : Location) (parts : List Bytes) :
    Alike path path' (d.walk path here parts) (d.walk path' here parts) := by
  induction parts generalizing here with
  | nil =>
      simp only [walk]
      cases d.get? here with
      | none => exact .notFound
      | some entry => exact .leads _
  | cons part rest ih =>
      simp only [walk]
      cases d.get? here with
      | none => exact .notFound
      | some entry =>
          cases entry with
          | file content => exact .notDirectory
          | directory =>
              dsimp only
              split
              · exact ih here
              · split
                · exact ih here.dropLast
                · split
                  · exact .nameTooLong
                  · cases d.get? (here ++ [part]) with
                    | none =>
                        cases rest with
                        | nil => exact .leads _
                        | cons next others => exact .notFound
                    | some entry => cases rest <;> exact ih (here ++ [part])

theorem walk_append (here there : Location) (entry : DiskEntry) (first rest : List Bytes)
    (led : d.walk path here first = .ok (.found there entry)) :
    d.walk path here (first ++ rest) = d.walk path there rest := by
  induction first generalizing here with
  | nil =>
      rw [walk] at led
      split at led
      · cases led
        rfl
      · cases led
  | cons part others ih =>
      rw [walk] at led
      rw [List.cons_append, walk]
      cases stands : d.get? here with
      | none =>
          rw [stands] at led
          cases led
      | some e =>
          rw [stands] at led
          cases e with
          | file content => cases led
          | directory =>
              dsimp only at led ⊢
              split at led
              next same => rw [if_pos same, ih here led]
              next other =>
                rw [if_neg other]
                split at led
                next up => rw [if_pos up, ih here.dropLast led]
                next down =>
                  rw [if_neg down]
                  split at led
                  next => cases led
                  next fits =>
                    rw [if_neg fits]
                    cases next : d.get? (here ++ [part]) with
                    | none =>
                        rw [next] at led
                        cases others <;> cases led
                    | some e =>
                        rw [next] at led
                        have onward := ih (here ++ [part]) (by cases others <;> exact led)
                        cases others <;> cases rest <;> exact onward

end

/-! ## Bytes of a path -/

theorem pathBytes_append (before after : Text) (bytes : Bytes) :
    pathBytes (before ++ after) = .ok bytes ↔
      ∃ front back, pathBytes before = .ok front ∧ pathBytes after = .ok back ∧
        bytes = front ++ back := by
  simp only [pathBytes_eq_ok_iff, List.forall_mem_append]
  constructor
  · rintro ⟨⟨fine, fine'⟩, rfl, none⟩
    have split : nameBytes (before ++ after) = nameBytes before ++ nameBytes after :=
      List.flatMap_append
    rw [split, List.mem_append, not_or] at none
    exact ⟨_, _, ⟨fine, rfl, none.1⟩, ⟨fine', rfl, none.2⟩, split⟩
  · rintro ⟨_, _, ⟨fine, rfl, none⟩, ⟨fine', rfl, none'⟩, rfl⟩
    refine ⟨⟨fine, fine'⟩, List.flatMap_append.symm, ?_⟩
    rw [List.mem_append, not_or]
    exact ⟨none, none'⟩

theorem ofNat_ne_slash (n : Nat) (small : n < 256) (other : n ≠ 0x2F) : UInt8.ofNat n ≠ 0x2F := by
  intro same
  have value : n % 256 = 0x2F := congrArg UInt8.toNat same
  omega

/-- Only a slash is written as the byte of a slash. -/
theorem head_unitEscaped (c : CodePoint) (fine : c.isSurrogate = true → Utf8.isEscape c = true)
    (other : c ≠ Path.slash) : ∃ b rest, Utf8.unitEscaped c = b :: rest ∧ b ≠ 0x2F := by
  have range := c.isLt
  have value : c.val ≠ 0x2F := fun same => other (Fin.ext same)
  unfold Utf8.unitEscaped
  by_cases escape : Utf8.isEscape c = true
  · rw [if_pos escape]
    simp only [Utf8.isEscape, Bool.and_eq_true, decide_eq_true_eq] at escape
    exact ⟨_, _, rfl, ofNat_ne_slash _ (by omega) (by omega)⟩
  · rw [if_neg escape]
    have plain : ¬ c.isSurrogate = true := mt fine escape
    simp only [Utf8.unit?, if_neg plain]
    split
    · exact ⟨_, _, rfl, ofNat_ne_slash _ (by omega) value⟩
    · split
      · exact ⟨_, _, rfl, ofNat_ne_slash _ (by omega) (by omega)⟩
      · split
        · exact ⟨_, _, rfl, ofNat_ne_slash _ (by omega) (by omega)⟩
        · exact ⟨_, _, rfl, ofNat_ne_slash _ (by omega) (by omega)⟩

theorem head_of_pathBytes (p : Path) (plain : p.Plain) (relative : p.isAbsolute = false)
    (some : p.parts ≠ []) (bytes : Bytes) (taken : pathBytes p.text = .ok bytes) :
    ∃ b rest, bytes = b :: rest ∧ b ≠ 0x2F := by
  obtain ⟨fine, rfl, -⟩ := (pathBytes_eq_ok_iff _ _).mp taken
  have spelled : p.text = Text.join [Path.slash] p.parts := by
    have root : p.root = [] := by simpa [Path.isAbsolute] using relative
    simp [Path.text, root, some]
  obtain ⟨c, others, joined, other⟩ := Path.head_join p.parts some plain.parts
  rw [spelled, joined] at fine ⊢
  obtain ⟨b, rest, written, plain⟩ := head_unitEscaped c (fine c List.mem_cons_self) other
  exact ⟨b, rest ++ nameBytes others, by simp [nameBytes, written], plain⟩

/-! ## Two spellings of a path -/

theorem lookup_of_pathBytes (d : Disk) (cwd : Path) (path : Text) (bytes : Bytes)
    (taken : pathBytes path = .ok bytes) (named : bytes ≠ []) (fits : bytes.length ≤ 4095) :
    d.lookup cwd path =
      d.walk path (if bytes.head? = some 0x2F then [] else locationOf cwd) (splitSlash bytes) := by
  rw [lookup, taken]
  simp only [bind, Except.bind, List.isEmpty_iff, if_neg named, if_neg (Nat.not_lt.mpr fits)]

theorem lookup_of_long (d : Disk) (cwd : Path) (path : Text) (long : TooLong path) :
    d.lookup cwd path = .error (.nameTooLong path) := by
  obtain ⟨bytes, taken, long⟩ := long
  have named : bytes ≠ [] := by
    rintro rfl
    cases long
  rw [lookup, taken]
  simp only [bind, Except.bind, List.isEmpty_iff, if_neg named, if_pos long]
  rfl

section
variable (d : Disk) (directory : Path) (works : d.WorksIn directory)
include works

/-- What stands before a path taken in the working directory is a spelling of the directory that
leads there, and a slash. -/
theorem lead_leads : ∃ stem bytes, directory.lead = stem ++ [Path.slash] ∧
    pathBytes stem = .ok bytes ∧ (bytes ++ [0x2F]).head? = some 0x2F ∧
    ∀ path, d.walk path [] (splitSlash bytes) = .ok (.found (locationOf directory) .directory) := by
  obtain ⟨bytes, taken, led⟩ := works.leads
  have rooted := works.plain.rooted directory works.absolute
  by_cases none : directory.parts = []
  · have place : locationOf directory = [] := by simp [locationOf, none]
    rw [Path.lead, if_pos none, place]
    rcases rooted with one | two
    · exact ⟨[], [], one, rfl, rfl, fun _ => rfl⟩
    · exact ⟨[Path.slash], [0x2F], two, rfl, rfl, fun _ => rfl⟩
  · refine ⟨directory.text, bytes, by rw [Path.lead, if_neg none], taken, ?_, fun path => ?_⟩
    · obtain ⟨-, rfl, -⟩ := (pathBytes_eq_ok_iff _ _).mp taken
      rcases rooted with root | root <;> simp only [Path.text, root] <;> rfl
    · have alike := d.walk_alike directory.text path [] (splitSlash bytes)
      rw [led] at alike
      exact alike.eq_of_leads

variable (p : Path) (plain : p.Plain) (relative : p.isAbsolute = false) (named : p.parts ≠ [])
include relative named

theorem pathBytes_within : ∃ front : Bytes, (front ++ [0x2F]).head? = some 0x2F ∧
    (∀ path, d.walk path [] (splitSlash front) = .ok (.found (locationOf directory) .directory)) ∧
    ∀ bytes, pathBytes (directory.within p).text = .ok bytes ↔
      ∃ back, pathBytes p.text = .ok back ∧ bytes = front ++ 0x2F :: back := by
  obtain ⟨stem, front, leads, taken, absolute, led⟩ := d.lead_leads directory works
  refine ⟨front, absolute, led, fun bytes => ?_⟩
  have lead : pathBytes directory.lead = .ok (front ++ [0x2F]) := by
    rw [leads]
    exact (pathBytes_append _ _ _).mpr ⟨front, [0x2F], taken, rfl, rfl⟩
  rw [Path.text_within directory p relative named, pathBytes_append]
  constructor
  · rintro ⟨_, back, taken, taken', rfl⟩
    rw [lead] at taken
    cases taken
    exact ⟨back, taken', by simp⟩
  · rintro ⟨back, taken', rfl⟩
    exact ⟨_, back, lead, taken', by simp⟩

include plain

/-- A relative path leads where it leads behind the working directory, unless that is too long. -/
theorem lookup_within (fits : ¬ TooLong (directory.within p).text) :
    Alike p.text (directory.within p).text (d.lookup directory p.text)
      (d.lookup directory (directory.within p).text) := by
  obtain ⟨front, absolute, led, spelled⟩ := d.pathBytes_within directory works p relative named
  cases taken : pathBytes p.text with
  | error f =>
      cases taken' : pathBytes (directory.within p).text with
      | error f' =>
          rw [lookup, lookup, taken, taken']
          exact .invalid f f' (isValue_of_pathBytes _ f taken) (isValue_of_pathBytes _ f' taken')
      | ok bytes =>
          obtain ⟨back, also, -⟩ := (spelled bytes).mp taken'
          rw [taken] at also
          cases also
  | ok back =>
      have taken' := (spelled _).mpr ⟨back, taken, rfl⟩
      have short : (front ++ 0x2F :: back).length ≤ 4095 :=
        Nat.le_of_not_lt fun long => fits ⟨_, taken', long⟩
      obtain ⟨b, rest, rfl, other⟩ := head_of_pathBytes p plain relative named back taken
      have from_root : (front ++ 0x2F :: b :: rest).head? = some 0x2F := by
        cases front with
        | nil => rfl
        | cons first others => exact absolute
      rw [d.lookup_of_pathBytes directory _ _ taken (by simp) (by simp at short ⊢; omega),
        d.lookup_of_pathBytes directory _ _ taken' (by simp) short, if_pos from_root,
        if_neg (by simpa using other), splitSlash_append,
        d.walk_append _ [] (locationOf directory) .directory _ _ (led _)]
      exact d.walk_alike _ _ _ _

end

theorem exists?_alike (d : Disk) (directory : Path) (path path' : Text) (b : Bool)
    (alike : Alike path path' (d.lookup directory path) (d.lookup directory path')) :
    d.exists? directory path = .ok b ↔ d.exists? directory path' = .ok b := by
  unfold exists?
  generalize d.lookup directory path = l at alike
  generalize d.lookup directory path' = l' at alike
  cases alike with
  | leads l => rfl
  | notFound | notDirectory => rfl
  | nameTooLong =>
      show Except.error (Fault.nameTooLong path) = Except.ok b ↔
        Except.error (Fault.nameTooLong path') = Except.ok b
      simp
  | invalid f f' value value' => simp [value, value']

theorem content_alike (h : Host) (path path' : Text) (bytes : Bytes)
    (alike : Alike path path' (h.disk.lookup h.directory path) (h.disk.lookup h.directory path')) :
    h.content path = .ok bytes ↔ h.content path' = .ok bytes := by
  unfold Host.content source
  generalize h.disk.lookup h.directory path = l at alike
  generalize h.disk.lookup h.directory path' = l' at alike
  cases alike with
  | leads l =>
      cases l with
      | free place => simp
      | found place entry => cases entry <;> simp
  | notFound | notDirectory | nameTooLong | invalid => simp

end Fingerprint.Disk
