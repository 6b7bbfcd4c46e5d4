import Fingerprint.Proofs.Outcome
import Fingerprint.Settings.Basic

/-! # What sections are read as

A field is what is read of its value, or its default (`Takes`); a section has its fields
(`Reads`), and settings have their sections. Sections that validation lets through, when they are
read or when a field is set later, are `Validated`: their chunk size is positive, and every positive
integer is let through. -/
set_option autoImplicit false
namespace Fingerprint.Settings

/-! ## Fields -/

section
variable {α : Type} (read : Value → Except Issue α)

/-- The setting that a field has when the value is chosen for it, or when nothing is. -/
def Takes (chosen : Option Value) (default : α) (a : α) : Prop :=
  match chosen with
  | none => a = default
  | some v => read v = .ok a

def Fits (chosen : Option Value) : Prop := ∀ v, chosen = some v → ∃ a, read v = .ok a

theorem field_eq_ok_iff (table : Entries) (name : Text) (default a : α) :
    field table name default read = .ok a ↔ Takes read (table.get? name) default a := by
  unfold field Takes
  cases table.get? name with
  | none =>
      constructor
      · intro same
        cases same
        rfl
      · rintro rfl
        rfl
  | some v => exact mapError_eq_ok_iff (read v) _ a

theorem exists_takes_iff (chosen : Option Value) (default : α) :
    (∃ a, Takes read chosen default a) ↔ Fits read chosen := by
  cases chosen with
  | none =>
      constructor
      · intro _ v chosen
        cases chosen
      · intro _
        exact ⟨default, rfl⟩
  | some v =>
      constructor
      · intro taken v' same
        cases same
        exact taken
      · intro fits
        exact fits v rfl

end

/-! ## Sections -/

structure DigestSection.Reads (fields : Text → Option Value) (s : DigestSection) : Prop where
  extended : Takes truth (fields "extended") default.extended s.extended
  chunkSize : Takes Settings.chunkSize (fields "chunk_size") default.chunkSize s.chunkSize

structure LoggingSection.Reads (fields : Text → Option Value) (s : LoggingSection) : Prop where
  level : Takes Settings.level (fields "level") default.level s.level
  console : Takes truth (fields "console") default.console s.console
  file : Takes truth (fields "file") default.file s.file

theorem DigestSection.ofEntries_eq_ok_iff (table : Entries) (s : DigestSection) :
    DigestSection.ofEntries table = .ok s ↔ s.Reads fun name => table.get? name := by
  unfold DigestSection.ofEntries
  constructor
  · intro run
    split at run
    next extended size ofExtended ofSize =>
      cases run
      exact ⟨(field_eq_ok_iff _ _ _ _ _).mp ofExtended, (field_eq_ok_iff _ _ _ _ _).mp ofSize⟩
    next => cases run
  · intro reads
    rw [(field_eq_ok_iff _ _ _ _ _).mpr reads.extended,
      (field_eq_ok_iff _ _ _ _ _).mpr reads.chunkSize]

theorem LoggingSection.ofEntries_eq_ok_iff (table : Entries) (s : LoggingSection) :
    LoggingSection.ofEntries table = .ok s ↔ s.Reads fun name => table.get? name := by
  unfold LoggingSection.ofEntries
  constructor
  · intro run
    split at run
    next level console file ofLevel ofConsole ofFile =>
      cases run
      exact ⟨(field_eq_ok_iff _ _ _ _ _).mp ofLevel, (field_eq_ok_iff _ _ _ _ _).mp ofConsole,
        (field_eq_ok_iff _ _ _ _ _).mp ofFile⟩
    next => cases run
  · intro reads
    rw [(field_eq_ok_iff _ _ _ _ _).mpr reads.level, (field_eq_ok_iff _ _ _ _ _).mpr reads.console,
      (field_eq_ok_iff _ _ _ _ _).mpr reads.file]

theorem ofEntries_eq_ok_iff (merged : Entries) (s : Settings) : ofEntries merged = .ok s ↔
    sectionOf merged "digest" DigestSection.default DigestSection.ofValue = .ok s.digest ∧
    sectionOf merged "logging" LoggingSection.default LoggingSection.ofValue = .ok s.logging ∧
    field merged "config_file" none optionalText = .ok s.configFile ∧
    field merged "config_error" none optionalText = .ok s.configError := by
  unfold ofEntries
  constructor
  · intro run
    split at run
    next ofDigest ofLogging ofFile ofError =>
      cases run
      exact ⟨ofDigest, ofLogging, ofFile, ofError⟩
    next => cases run
  · rintro ⟨ofDigest, ofLogging, ofFile, ofError⟩
    rw [ofDigest, ofLogging, ofFile, ofError]

/-! ## Validation -/

/-- A section for digests as validation leaves it: read from a table, and set field by field. -/
inductive DigestSection.Validated : DigestSection → Prop where
  | read (table : Entries) (s : DigestSection) (taken : DigestSection.ofEntries table = .ok s) :
      Validated s
  | assigned (s : DigestSection) (name : Text) (v : Value) (s' : DigestSection)
      (before : Validated s) (set : s.assign name v = .ok s') : Validated s'

theorem eq_of_assignUnknown {α : Type} (s s' : α) (name : Text)
    (set : assignUnknown s name = .ok s') : s = s' := by
  unfold assignUnknown at set
  split at set
  next => exact Except.ok.inj set
  next => cases set

theorem chunkSize_eq_ok_iff (v : Value) (i : Int) :
    chunkSize v = .ok i ↔ integer v = .ok i ∧ 0 < i := by
  unfold chunkSize
  rw [bind_eq_ok_iff]
  constructor
  · rintro ⟨j, read, run⟩
    by_cases small : j ≤ 0
    · rw [if_pos small] at run
      cases run
    · rw [if_neg small] at run
      cases run
      exact ⟨read, by omega⟩
  · rintro ⟨read, positive⟩
    refine ⟨i, read, ?_⟩
    rw [if_neg (by omega)]
    rfl

theorem DigestSection.Validated.positive (s : DigestSection) (validated : s.Validated) :
    0 < s.chunkSize := by
  induction validated with
  | read table s taken =>
      have size := ((DigestSection.ofEntries_eq_ok_iff table s).mp taken).chunkSize
      unfold Takes at size
      split at size
      next =>
        rw [size]
        decide
      next v _ => exact ((chunkSize_eq_ok_iff v _).mp size).2
  | assigned s name v s' before set ih =>
      unfold DigestSection.assign at set
      split at set
      next =>
        obtain ⟨b, -, same⟩ := (bind_eq_ok_iff _ _ _).mp set
        cases same
        exact ih
      next =>
        split at set
        next =>
          obtain ⟨size, taken, same⟩ := (bind_eq_ok_iff _ _ _).mp set
          cases same
          have held : Entries.get? name [(.text name, v)] = some v := if_pos rfl
          rw [field_eq_ok_iff, held] at taken
          exact ((chunkSize_eq_ok_iff v size).mp taken).2
        next =>
          rw [← eq_of_assignUnknown s s' name set]
          exact ih

/-! ## Sections as they are shown -/

theorem level_name (l : Level) : level (.text l.name) = .ok l := by
  cases l <;> rfl

section
variable (fields : Text → Option Value)

theorem DigestSection.reads_shown (s : DigestSection) (positive : 0 < s.chunkSize)
    (shown : ∀ name v, s.entries.get? name = some v → fields name = some v) : s.Reads fields where
  extended := by
    rw [shown "extended" (.bool s.extended) rfl]
    rfl
  chunkSize := by
    rw [shown "chunk_size" (.int s.chunkSize) rfl]
    exact (chunkSize_eq_ok_iff _ _).mpr ⟨rfl, positive⟩

theorem LoggingSection.reads_shown (s : LoggingSection)
    (shown : ∀ name v, s.entries.get? name = some v → fields name = some v) : s.Reads fields where
  level := by
    rw [shown "level" (.text s.level.name) rfl]
    exact level_name s.level
  console := by
    rw [shown "console" (.bool s.console) rfl]
    rfl
  file := by
    rw [shown "file" (.bool s.file) rfl]
    rfl

end

theorem DigestSection.ofEntries_entries (s : DigestSection) (positive : 0 < s.chunkSize) :
    DigestSection.ofEntries s.entries = .ok s :=
  (ofEntries_eq_ok_iff _ _).mpr (s.reads_shown _ positive fun _ _ holds => holds)

theorem LoggingSection.ofEntries_entries (s : LoggingSection) :
    LoggingSection.ofEntries s.entries = .ok s :=
  (ofEntries_eq_ok_iff _ _).mpr (s.reads_shown _ fun _ _ holds => holds)

theorem DigestSection.validated_of_sound (s : DigestSection) (positive : 0 < s.chunkSize) :
    s.Validated :=
  .read s.entries s (s.ofEntries_entries positive)

/-! ## Values for sections -/

/-- The table that a value stands for when it is taken as a whole: a mapping that is no dictionary,
or a section of the kind that the name calls for. -/
def whole? (name : Text) : Value → Option Entries
  | .proxy table => some table
  | .checked ⟨.digest s, _⟩ => if name = "digest" then some s.entries else none
  | .checked ⟨.logging s, _⟩ => if name = "logging" then some s.entries else none
  | _ => none

structure ReadsValues {α : Type} (name : Text) (table : Entries → Except Issues α)
    (read : Value → Except Issues α) : Prop where
  dict : ∀ es, read (.dict es) = table es
  whole : ∀ v es, whole? name v = some es → read v = table es
  other : ∀ v, (∀ es, v ≠ .dict es) → whole? name v = none → read v = .error [([], .notATable)]

theorem DigestSection.readsValues : ReadsValues "digest" ofEntries ofValue where
  dict _ := rfl
  whole v es stands := by
    cases v with
    | proxy table =>
        cases stands
        rfl
    | checked s =>
        obtain ⟨s | s, sound⟩ := s
        · cases stands
          exact (s.ofEntries_entries sound).symm
        · cases stands
    | _ => cases stands
  other v noTable alone := by
    cases v with
    | dict es => exact absurd rfl (noTable es)
    | proxy table => cases alone
    | checked s =>
        obtain ⟨s | s, sound⟩ := s
        · cases alone
        · rfl
    | _ => rfl

theorem LoggingSection.readsValues : ReadsValues "logging" ofEntries ofValue where
  dict _ := rfl
  whole v es stands := by
    cases v with
    | proxy table =>
        cases stands
        rfl
    | checked s =>
        obtain ⟨s | s, sound⟩ := s
        · cases stands
        · cases stands
          exact s.ofEntries_entries.symm
    | _ => cases stands
  other v noTable alone := by
    cases v with
    | dict es => exact absurd rfl (noTable es)
    | proxy table => cases alone
    | checked s =>
        obtain ⟨s | s, sound⟩ := s
        · rfl
        · cases alone
    | _ => rfl

theorem ReadsValues.exists_table {α : Type} {name : Text} {table : Entries → Except Issues α}
    {read : Value → Except Issues α} (reads : ReadsValues name table read) (v : Value) (a : α)
    (taken : read v = .ok a) : ∃ es, table es = .ok a := by
  by_cases dict : ∃ es, v = .dict es
  · obtain ⟨es, rfl⟩ := dict
    exact ⟨es, (reads.dict es).symm.trans taken⟩
  · cases stands : whole? name v with
    | some es => exact ⟨es, (reads.whole v es stands).symm.trans taken⟩
    | none =>
        have refused := reads.other v (fun es same => dict ⟨es, same⟩) stands
        cases refused.symm.trans taken

theorem default_or_read_of_sectionOf {α : Type} (merged : Entries) (name : Text) (default a : α)
    (read : Value → Except Issues α) (taken : sectionOf merged name default read = .ok a) :
    a = default ∨ ∃ v, read v = .ok a := by
  unfold sectionOf at taken
  split at taken
  next =>
    cases taken
    exact Or.inl rfl
  next v _ => exact Or.inr ⟨v, (mapError_eq_ok_iff _ _ _).mp taken⟩

theorem validated_of_ofEntries (merged : Entries) (s : Settings) (taken : ofEntries merged = .ok s) :
    s.digest.Validated := by
  obtain ⟨digest, -⟩ := (ofEntries_eq_ok_iff merged s).mp taken
  rcases default_or_read_of_sectionOf merged "digest" _ _ _ digest with same | ⟨v, read⟩
  · rw [same]
    exact .read [] _ rfl
  · obtain ⟨table, read⟩ := DigestSection.readsValues.exists_table v _ read
    exact .read table _ read

end Fingerprint.Settings
