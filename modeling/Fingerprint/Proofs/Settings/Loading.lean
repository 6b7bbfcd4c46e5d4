import Fingerprint.Proofs.Settings.Readings
import Fingerprint.Proofs.Settings.Variables

/-! # Loading a config file of any content

What a loading gives depends on the content of the file in use: a settings table is taken over, a
content that is no TOML is recorded in the settings, which keep their defaults, and a content that
slips through the reading ends the loading with a fault (`Slips`). No other content does. -/
set_option autoImplicit false
namespace Fingerprint.Settings
open Diagnosed

/-- The file that a loading reads: the one that is named, or else the one that a search finds. -/
def InUse (h : Host) (named : Option Path) (start : Value) (p : Path) : Prop :=
  named = some p ∨ named = none ∧ (findConfig h start).outcome.1 = .ok (some p)

/-- Contents that a reading neither records nor gives as a table. -/
inductive Slips (name : Text) (bytes : Bytes) : Fault → Prop where
  | content (f : Fault) (escapes : Escapes name bytes f) : Slips name bytes f
  | value (v : Value) (gives : Gives name bytes v) (noTable : ∀ es, v ≠ .dict es) :
      Slips name bytes .noAttribute

/-- The settings that a loading gives when it could not parse its file. -/
def unparsed (p : Path) (detail : Text) : Settings :=
  ⟨.default, .default, none,
    some (Text.concat ["Failed to parse config file ", p.text, ": ", detail])⟩

/-! ## Reading the file in use -/

theorem readSettings_of_inUse (h : Host) (named : Option Path) (start : Value) (p : Path)
    (inUse : InUse h named start p) : ∃ records,
    (readSettings h named start).outcome = (readSettings h (some p) start).runFrom records := by
  rcases inUse with rfl | ⟨rfl, found⟩
  · exact ⟨[], rfl⟩
  · have searched : (findConfig h start).runFrom [] =
        (.ok (some p), (findConfig h start).outcome.2) := Prod.ext found rfl
    refine ⟨(findConfig h start).outcome.2, ?_⟩
    rw [outcome_eq, readSettings_searched, runFrom_bind, searched]

/-! ## Loading -/

theorem combine_of_table (es : Entries) :
    combine [] [] (.dict es) = (ofEntries es).mapError .invalid := rfl

theorem combine_of_noTable (v : Value) (noTable : ∀ es, v ≠ .dict es) :
    combine [] [] v = .error (.fault .noAttribute) := by
  cases v with
  | dict es => exact absurd rfl (noTable es)
  | _ => rfl

section
variable (h : Host) (named : Option Path) (start : Value) (p : Path) (bytes : Bytes)
  (inUse : InUse h named start p) (content : h.content p.text = .ok bytes)
  (noVariables : NoVariables h.environment)
include inUse noVariables

theorem load_of_read (v : Value) (read : readConfig h p = .ok v) :
    (load h named start false).outcome.1 = (combine [] [] v).map fun s =>
      { s with configFile := some p.text, configError := none } := by
  obtain ⟨records, run⟩ := readSettings_of_inUse h named start p inUse
  have parsed := ofEnvironment_of_noVariables h.environment noVariables
  rw [outcome_load h named start [] parsed, run, readSettings_of_ok h start p records v read]
  rfl

include content

theorem load_of_gives (es : Entries) (gives : Gives p.name bytes (.dict es)) :
    (load h named start false).outcome.1 = ((ofEntries es).mapError Error.invalid).map fun s =>
      { s with configFile := some p.text, configError := none } := by
  have read := readConfig_of_gives h p bytes content _ gives
  rw [load_of_read h named start p inUse noVariables _ read, combine_of_table]

theorem load_of_malformed (detail : Text) (malformed : Malformed bytes detail) :
    (load h named start false).outcome.1 = .ok (unparsed p detail) := by
  obtain ⟨records, run⟩ := readSettings_of_inUse h named start p inUse
  have read := readConfig_of_malformed h p bytes content detail malformed
  have parsed := ofEnvironment_of_noVariables h.environment noVariables
  rw [outcome_load h named start [] parsed, run,
    readSettings_of_recorded h start p records _ _ read rfl]
  rfl

theorem load_of_slips (f : Fault) (slips : Slips p.name bytes f) :
    (load h named start false).outcome.1 = .error (.fault f) := by
  cases slips with
  | content f escapes =>
      obtain ⟨records, run⟩ := readSettings_of_inUse h named start p inUse
      have read := readConfig_of_escapes h p bytes content f escapes
      have parsed := ofEnvironment_of_noVariables h.environment noVariables
      rw [outcome_load h named start [] parsed, run, readSettings_of_escaping h start p records f read]
  | value v gives noTable =>
      have read := readConfig_of_gives h p bytes content v gives
      rw [load_of_read h named start p inUse noVariables v read, combine_of_noTable v noTable]
      rfl

end

theorem table_or_malformed_or_slips (name : Text) (bytes : Bytes) :
    (∃ es, Gives name bytes (.dict es)) ∨ (∃ detail, Malformed bytes detail) ∨
      ∃ f, Slips name bytes f := by
  rcases content_cases bytes name with ⟨v, gives⟩ | malformed | ⟨f, escapes⟩
  · by_cases table : ∃ es, v = .dict es
    · obtain ⟨es, rfl⟩ := table
      exact Or.inl ⟨es, gives⟩
    · exact Or.inr (Or.inr ⟨_, .value v gives fun es same => table ⟨es, same⟩⟩)
  · exact Or.inr (Or.inl malformed)
  · exact Or.inr (Or.inr ⟨f, .content f escapes⟩)

/-- A content that is no TOML is recorded and leaves the defaults, and a settings table is taken over
or invalid. The only other ends of a loading are the faults of contents that slip through. -/
theorem load_fails_only_on_slips (h : Host) (named : Option Path) (start : Value) (p : Path)
    (bytes : Bytes) (inUse : InUse h named start p) (content : h.content p.text = .ok bytes)
    (noVariables : NoVariables h.environment) :
    (∀ detail, Malformed bytes detail →
      (load h named start false).outcome.1 = .ok (unparsed p detail)) ∧
    (∀ es, Gives p.name bytes (.dict es) → (load h named start false).outcome.1 =
      ((ofEntries es).mapError Error.invalid).map fun s =>
        { s with configFile := some p.text, configError := none }) ∧
    ∀ e, (load h named start false).outcome.1 = .error e ↔
      (∃ es issues, Gives p.name bytes (.dict es) ∧ ofEntries es = .error issues ∧
        e = .invalid issues) ∨ ∃ f, Slips p.name bytes f ∧ e = .fault f := by
  have ofGives := load_of_gives h named start p bytes inUse content noVariables
  have ofMalformed := load_of_malformed h named start p bytes inUse content noVariables
  have ofSlips := load_of_slips h named start p bytes inUse content noVariables
  refine ⟨ofMalformed, ofGives, fun e => ⟨?_, ?_⟩⟩
  · intro failed
    rcases table_or_malformed_or_slips p.name bytes with
      ⟨es, gives⟩ | ⟨detail, malformed⟩ | ⟨f, slips⟩
    · rw [ofGives es gives] at failed
      cases checked : ofEntries es with
      | ok s =>
          rw [checked] at failed
          cases failed
      | error issues =>
          rw [checked] at failed
          cases failed
          exact Or.inl ⟨es, issues, gives, checked, rfl⟩
    · rw [ofMalformed detail malformed] at failed
      cases failed
    · rw [ofSlips f slips] at failed
      cases failed
      exact Or.inr ⟨f, slips, rfl⟩
  · rintro (⟨es, issues, gives, checked, rfl⟩ | ⟨f, slips, rfl⟩)
    · rw [ofGives es gives, checked]
      rfl
    · exact ofSlips f slips

/-- A config file of this program that the search finds and that ends within a table's name. -/
theorem load_fails_only_on_slips_unclosed_name :
    let own : Location := [Disk.nameBytes ".digestkit"]
    let h := onFiles [(own, .directory), (own ++ [Disk.nameBytes "config.toml"], .file [0x5B])]
    let p := configPath (.ofText "/")
    ∃ detail, InUse h none .null p ∧ h.content p.text = .ok [0x5B] ∧ NoVariables h.environment ∧
      Malformed [0x5B] detail ∧ (load h none .null false).outcome.1 = .ok (unparsed p detail) := by
  intro own h p
  have decoded : Utf8.decode? [0x5B] = some ("[" : Text) := by
    rw [Utf8.decode?, Utf8.scan_single]
    rfl
  have malformed : Malformed [0x5B] _ := ⟨_, _, decoded, rfl, rfl⟩
  have inUse : InUse h none .null p := Or.inr ⟨rfl, rfl⟩
  have noVariables : NoVariables h.environment := by
    intro v member
    cases member
  exact ⟨_, inUse, rfl, noVariables, malformed,
    (load_fails_only_on_slips h none .null p [0x5B] inUse rfl noVariables).1 _ malformed⟩

/-- Bytes that are no UTF-8 end a loading, where a record of them and the defaults were promised. -/
theorem load_ends_with_undecodable_file :
    let own : Location := [Disk.nameBytes ".digestkit"]
    let h := onFiles [(own, .directory), (own ++ [Disk.nameBytes "config.toml"], .file [0xFF])]
    let p := configPath (.ofText "/")
    InUse h none .null p ∧ h.content p.text = .ok [0xFF] ∧ NoVariables h.environment ∧
      (load h none .null false).outcome.1 = .error (.fault .undecodable) := by
  intro own h p
  have broken : Utf8.decode? [0xFF] = none := by
    rw [Utf8.decode?, Utf8.scan_single]
    rfl
  have inUse : InUse h none .null p := Or.inr ⟨rfl, rfl⟩
  have noVariables : NoVariables h.environment := by
    intro v member
    cases member
  have slips : Slips p.name [0xFF] .undecodable := .content _ (.undecodable broken)
  exact ⟨inUse, rfl, noVariables,
    load_of_slips h none .null p [0xFF] inUse rfl noVariables _ slips⟩

end Fingerprint.Settings
