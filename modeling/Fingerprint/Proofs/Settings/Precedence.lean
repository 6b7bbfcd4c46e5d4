import Fingerprint.Proofs.Settings.Assembling
import Fingerprint.Proofs.Settings.Sections
import Fingerprint.Proofs.Settings.Variables

/-! # Precedence of sources

Values that are given win over the environment, and the environment over the config file, field by
field: a field takes what the highest source whose table gives it says, and its default when none
gives it (`Chosen`). What a lower source says of the field, and what any source says of other
fields, makes no difference. A section or a mapping that the highest source gives as a whole is not
merged with anything below (`whole?`). A section whose highest source gives nothing of the kind for
it is invalid. -/
set_option autoImplicit false
namespace Fingerprint.Settings
open Diagnosed

/-! ## Fields that merging leaves alike -/

section
variable {α : Type} (read : Value → Except Issue α)

/-- The reading says the same of every table. -/
def Scalar : Prop := ∀ x y, read (.dict x) = read (.dict y)

theorem Takes.of_sameField (scalar : Scalar read) (x y : Option Value) (same : SameField x y)
    (default a : α) (taken : Takes read x default a) : Takes read y default a := by
  rcases same with rfl | ⟨es, es', rfl, rfl⟩
  · exact taken
  · exact (scalar es' es).trans taken

end

theorem scalar_truth : Scalar truth := fun _ _ => rfl

theorem scalar_chunkSize : Scalar chunkSize := fun _ _ => rfl

theorem scalar_level : Scalar level := fun _ _ => rfl

theorem DigestSection.Reads.of_sameField (f g : Text → Option Value)
    (same : ∀ name, SameField (f name) (g name)) (s : DigestSection) (reads : s.Reads f) :
    s.Reads g where
  extended := reads.extended.of_sameField truth scalar_truth _ _ (same _) _ _
  chunkSize := reads.chunkSize.of_sameField Settings.chunkSize scalar_chunkSize _ _ (same _) _ _

theorem LoggingSection.Reads.of_sameField (f g : Text → Option Value)
    (same : ∀ name, SameField (f name) (g name)) (s : LoggingSection) (reads : s.Reads f) :
    s.Reads g where
  level := reads.level.of_sameField Settings.level scalar_level _ _ (same _) _ _
  console := reads.console.of_sameField truth scalar_truth _ _ (same _) _ _
  file := reads.file.of_sameField truth scalar_truth _ _ (same _) _ _

/-! ## Sections -/

/-- The highest source that gives the section gives something to read it from. -/
def TableOnTop (sources : List Entries) (name : Text) : Prop :=
  ∀ v, top sources name = some v → (∃ es, v = .dict es) ∨ ∃ es, whole? name v = some es

/-- What the sources say of a field: a whole on top says it alone. -/
def chosen (sources : List Entries) (name field : Text) : Option Value :=
  match (top sources name).bind (whole? name) with
  | some table => table.get? field
  | none => choice sources name field

section
variable (sources : List Entries) (name : Text)

theorem tableOnTop_of_nowhere (nowhere : top sources name = none) : TableOnTop sources name := by
  intro v found
  cases nowhere.symm.trans found

theorem tableOnTop_iff (v : Value) (highest : top sources name = some v) :
    TableOnTop sources name ↔ (∃ es, v = .dict es) ∨ ∃ es, whole? name v = some es := by
  constructor
  · exact fun passes => passes v highest
  · intro fits w found
    cases highest.symm.trans found
    exact fits

theorem chosen_of_whole (v : Value) (table : Entries) (highest : top sources name = some v)
    (stands : whole? name v = some table) :
    chosen sources name = fun field => table.get? field := by
  funext field
  rw [chosen, highest, Option.bind_some, stands]

theorem chosen_of_parts (parts : (top sources name).bind (whole? name) = none) :
    chosen sources name = choice sources name := by
  funext field
  rw [chosen, parts]

theorem chosen_of_nowhere (nowhere : top sources name = none) :
    chosen sources name = fun field => Entries.get? field [] := by
  have parts : (top sources name).bind (whole? name) = none := by
    rw [nowhere]
    rfl
  rw [chosen_of_parts sources name parts]
  exact funext (choice_of_nowhere sources name nowhere)

theorem chosen_of_table (first : Entries) (highest : top sources name = some (.dict first)) :
    chosen sources name = choice sources name := by
  apply chosen_of_parts
  rw [highest]
  rfl

end

section
variable {α : Type} (sources : List Entries) (merged : Entries) (name : Text) (default : α)
  (table : Entries → Except Issues α) (read : Value → Except Issues α)
  (reads : ReadsValues name table read) (overlays : Overlays sources name (merged.get? name))

theorem sectionOf_of_get? (v : Value) (holds : merged.get? name = some v) :
    sectionOf merged name default read = (read v).mapError (beneath name) := by
  unfold sectionOf
  rw [holds]

include overlays

theorem get?_of_nowhere (nowhere : top sources name = none) : merged.get? name = none := by
  cases holds : merged.get? name with
  | none => rfl
  | some w =>
      rw [holds] at overlays
      cases overlays with
      | noTable _ found _ => cases found.symm.trans nowhere
      | table _ _ found _ => cases found.symm.trans nowhere

theorem get?_of_noTable (v : Value) (highest : top sources name = some v)
    (noTable : ∀ es, v ≠ .dict es) : merged.get? name = some v := by
  cases holds : merged.get? name with
  | none =>
      rw [holds] at overlays
      cases overlays with
      | absent nowhere => cases nowhere.symm.trans highest
  | some w =>
      rw [holds] at overlays
      cases overlays with
      | noTable _ found _ => exact found.symm.trans highest
      | table es first found fields =>
          cases found.symm.trans highest
          exact absurd rfl (noTable first)

theorem get?_of_table (first : Entries) (highest : top sources name = some (.dict first)) :
    ∃ es, merged.get? name = some (.dict es) ∧
      ∀ field, SameField (Entries.get? field es) (choice sources name field) := by
  cases holds : merged.get? name with
  | none =>
      rw [holds] at overlays
      cases overlays with
      | absent nowhere => cases nowhere.symm.trans highest
  | some w =>
      rw [holds] at overlays
      cases overlays with
      | noTable _ found noTable =>
          cases found.symm.trans highest
          exact absurd rfl (noTable first)
      | table es _ found fields => exact ⟨es, rfl, fields⟩

include reads

theorem sectionOf_of_noTable (v : Value) (highest : top sources name = some v)
    (noTable : ∀ es, v ≠ .dict es) (alone : whole? name v = none) :
    sectionOf merged name default read = .error [([name], .notATable)] := by
  have holds := get?_of_noTable sources merged name overlays v highest noTable
  rw [sectionOf_of_get? merged name default read v holds, reads.other v noTable alone]
  rfl

theorem sectionOf_eq_ok_iff (Reads : (Text → Option Value) → α → Prop)
    (blind : ∀ f g, (∀ field, SameField (f field) (g field)) → ∀ a, Reads f a → Reads g a)
    (reads_iff : ∀ es a, table es = .ok a ↔ Reads (fun field => Entries.get? field es) a)
    (readsNothing : table [] = .ok default) (a : α) :
    sectionOf merged name default read = .ok a ↔
      TableOnTop sources name ∧ Reads (chosen sources name) a := by
  cases highest : top sources name with
  | none =>
      have missing := get?_of_nowhere sources merged name overlays highest
      have taken : sectionOf merged name default read = table [] := by
        unfold sectionOf
        rw [missing, readsNothing]
      rw [taken, reads_iff, chosen_of_nowhere sources name highest]
      exact (and_iff_right (tableOnTop_of_nowhere sources name highest)).symm
  | some v =>
      rw [tableOnTop_iff sources name v highest]
      by_cases dict : ∃ es, v = .dict es
      · obtain ⟨first, rfl⟩ := dict
        obtain ⟨es, holds, fields⟩ := get?_of_table sources merged name overlays first highest
        rw [chosen_of_table sources name first highest,
          sectionOf_of_get? merged name default read _ holds, reads.dict, mapError_eq_ok_iff,
          reads_iff]
        constructor
        · exact fun fits => ⟨Or.inl ⟨first, rfl⟩, blind _ _ fields a fits⟩
        · rintro ⟨-, fits⟩
          exact blind _ _ (fun field => (fields field).symm) a fits
      · have noTable (es : Entries) : v ≠ .dict es := fun same => dict ⟨es, same⟩
        have holds := get?_of_noTable sources merged name overlays v highest noTable
        rw [sectionOf_of_get? merged name default read v holds, mapError_eq_ok_iff]
        cases stands : whole? name v with
        | some es =>
            rw [chosen_of_whole sources name v es highest stands, reads.whole v es stands,
              reads_iff]
            exact (and_iff_right (Or.inr ⟨es, rfl⟩)).symm
        | none =>
            rw [reads.other v noTable stands]
            constructor
            · nofun
            · rintro ⟨some | ⟨es, other⟩, -⟩
              · exact absurd some dict
              · cases other

end

/-! ## Settings -/

/-- The settings that the sources call for: each field has what its highest table gives. -/
structure Chosen (sources : List Entries) (s : Settings) : Prop where
  digestTable : TableOnTop sources "digest"
  digest : s.digest.Reads (chosen sources "digest")
  loggingTable : TableOnTop sources "logging"
  logging : s.logging.Reads (chosen sources "logging")
  configFile : s.configFile = none
  configError : s.configError = none

theorem ofEntries_of_invalid_part (merged : Entries) (issues : Issues)
    (invalid :
      sectionOf merged "digest" DigestSection.default DigestSection.ofValue = .error issues ∨
      sectionOf merged "logging" LoggingSection.default LoggingSection.ofValue = .error issues ∨
      field merged "config_file" none optionalText = .error issues ∨
      field merged "config_error" none optionalText = .error issues) :
    ∃ all, ofEntries merged = .error all ∧ issues ⊆ all := by
  unfold ofEntries
  split
  next ofDigest ofLogging ofFile ofError =>
    rcases invalid with failed | failed | failed | failed
    · cases failed.symm.trans ofDigest
    · cases failed.symm.trans ofLogging
    · cases failed.symm.trans ofFile
    · cases failed.symm.trans ofError
  next =>
    refine ⟨_, rfl, ?_⟩
    intro issue member
    rcases invalid with failed | failed | failed | failed
    all_goals
      rw [failed]
      simp [issuesOf, member]

/-- What the sources call for, in the sections and in the two other entries. -/
structure TakenFrom (sources : List Entries) (s : Settings) : Prop where
  digestTable : TableOnTop sources "digest"
  digest : s.digest.Reads (chosen sources "digest")
  loggingTable : TableOnTop sources "logging"
  logging : s.logging.Reads (chosen sources "logging")
  configFile : Takes optionalText (top sources "config_file") none s.configFile
  configError : Takes optionalText (top sources "config_error") none s.configError

theorem takenFrom_nothing (sources : List Entries) (s : Settings) :
    TakenFrom ([] :: sources) s ↔ TakenFrom sources s := by
  constructor
  all_goals
    rintro ⟨digestTable, digest, loggingTable, logging, file, error⟩
    exact ⟨digestTable, digest, loggingTable, logging, file, error⟩

section
variable (sources : List Entries) (merged : Entries)
  (overlays : ∀ name, Overlays sources name (merged.get? name))
include overlays

theorem field_eq_ok_iff_top (name : Text) (text : Option Text) :
    field merged name none optionalText = .ok text ↔
      Takes optionalText (top sources name) none text := by
  have laid := overlays name
  rw [field_eq_ok_iff]
  cases holds : merged.get? name with
  | none =>
      rw [holds] at laid
      cases laid with
      | absent nowhere => rw [nowhere]
  | some v =>
      rw [holds] at laid
      cases laid with
      | noTable _ found _ => rw [found]
      | table es first found fields =>
          rw [found]
          exact Iff.rfl

theorem ofEntries_eq_ok_iff_takenFrom (s : Settings) :
    ofEntries merged = .ok s ↔ TakenFrom sources s := by
  have ofDigest := sectionOf_eq_ok_iff sources merged "digest" DigestSection.default _ _
    DigestSection.readsValues (overlays _) (fun fields digest => digest.Reads fields)
    (fun f g same digest reads => reads.of_sameField f g same) DigestSection.ofEntries_eq_ok_iff rfl
  have ofLogging := sectionOf_eq_ok_iff sources merged "logging" LoggingSection.default _ _
    LoggingSection.readsValues (overlays _) (fun fields logging => logging.Reads fields)
    (fun f g same logging reads => reads.of_sameField f g same)
    LoggingSection.ofEntries_eq_ok_iff rfl
  rw [ofEntries_eq_ok_iff, ofDigest, ofLogging, field_eq_ok_iff_top sources merged overlays,
    field_eq_ok_iff_top sources merged overlays]
  constructor
  · rintro ⟨⟨digestTable, digest⟩, ⟨loggingTable, logging⟩, file, error⟩
    exact ⟨digestTable, digest, loggingTable, logging, file, error⟩
  · intro taken
    exact ⟨⟨taken.digestTable, taken.digest⟩, ⟨taken.loggingTable, taken.logging⟩,
      taken.configFile, taken.configError⟩

theorem ofEntries_eq_ok_iff_chosen (noFile : top sources "config_file" = none)
    (noError : top sources "config_error" = none) (s : Settings) :
    ofEntries merged = .ok s ↔ Chosen sources s := by
  rw [ofEntries_eq_ok_iff_takenFrom sources merged overlays]
  constructor
  · rintro ⟨digestTable, digest, loggingTable, logging, file, error⟩
    rw [noFile] at file
    rw [noError] at error
    exact ⟨digestTable, digest, loggingTable, logging, file, error⟩
  · rintro ⟨digestTable, digest, loggingTable, logging, file, error⟩
    refine ⟨digestTable, digest, loggingTable, logging, ?_, ?_⟩
    · rw [noFile]
      exact file
    · rw [noError]
      exact error

theorem ofEntries_of_noTable (name : Text) (member : name ∈ [("digest" : Text), "logging"]) (v : Value)
    (highest : top sources name = some v) (noTable : ∀ es, v ≠ .dict es)
    (alone : whole? name v = none) :
    ∃ issues, ofEntries merged = .error issues ∧ ([name], Issue.notATable) ∈ issues := by
  simp only [List.mem_cons, List.not_mem_nil, or_false] at member
  rcases member with rfl | rfl
  · obtain ⟨issues, failed, among⟩ := ofEntries_of_invalid_part merged _
      (Or.inl (sectionOf_of_noTable sources merged _ _ _ _ DigestSection.readsValues (overlays _) v
        highest noTable alone))
    exact ⟨issues, failed, among (List.mem_singleton_self _)⟩
  · obtain ⟨issues, failed, among⟩ := ofEntries_of_invalid_part merged _
      (Or.inr (Or.inl (sectionOf_of_noTable sources merged _ _ _ _ LoggingSection.readsValues
        (overlays _) v highest noTable alone)))
    exact ⟨issues, failed, among (List.mem_singleton_self _)⟩

end

/-- What the three sources hold comes to the settings that they call for together. -/
theorem combine_eq_ok_iff_takenFrom (given vars toml : Entries) (onTop : Dictionary given)
    (between : Dictionary vars) (s : Settings) :
    combine given vars (.dict toml) = .ok s ↔ TakenFrom [given, vars, toml] s := by
  have overlays (name : Text) : Overlays [given, vars, toml] name
      ((Environment.merge toml (Environment.merge vars given)).get? name) :=
    overlays_merge [given, vars] name _ toml (onTop.merge given vars between)
      (overlays_merge [given] name given vars onTop (overlays_single name given))
  rw [← ofEntries_eq_ok_iff_takenFrom _ _ overlays]
  exact mapError_eq_ok_iff _ _ _

theorem exists_chosen_iff (sources : List Entries) : (∃ s, Chosen sources s) ↔
    TableOnTop sources "digest" ∧ Fits truth (chosen sources "digest" "extended") ∧
    Fits chunkSize (chosen sources "digest" "chunk_size") ∧
    TableOnTop sources "logging" ∧ Fits level (chosen sources "logging" "level") ∧
    Fits truth (chosen sources "logging" "console") ∧
    Fits truth (chosen sources "logging" "file") := by
  constructor
  · rintro ⟨s, chosen⟩
    exact ⟨chosen.digestTable, (exists_takes_iff _ _ _).mp ⟨_, chosen.digest.extended⟩,
      (exists_takes_iff _ _ _).mp ⟨_, chosen.digest.chunkSize⟩, chosen.loggingTable,
      (exists_takes_iff _ _ _).mp ⟨_, chosen.logging.level⟩,
      (exists_takes_iff _ _ _).mp ⟨_, chosen.logging.console⟩,
      (exists_takes_iff _ _ _).mp ⟨_, chosen.logging.file⟩⟩
  · rintro ⟨digestTable, extended, size, loggingTable, level, console, file⟩
    obtain ⟨extended, takesExtended⟩ := (exists_takes_iff _ _ _).mpr extended
    obtain ⟨size, takesSize⟩ := (exists_takes_iff _ _ _).mpr size
    obtain ⟨level, takesLevel⟩ := (exists_takes_iff _ _ _).mpr level
    obtain ⟨console, takesConsole⟩ := (exists_takes_iff _ _ _).mpr console
    obtain ⟨file, takesFile⟩ := (exists_takes_iff _ _ _).mpr file
    exact ⟨⟨⟨extended, size⟩, ⟨level, console, file⟩, none, none⟩, digestTable,
      ⟨takesExtended, takesSize⟩, loggingTable, ⟨takesLevel, takesConsole, takesFile⟩, rfl, rfl⟩

end Fingerprint.Settings
