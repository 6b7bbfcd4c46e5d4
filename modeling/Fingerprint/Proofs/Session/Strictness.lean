import Fingerprint.Proofs.Session.Starting
import Fingerprint.Proofs.Settings.Loading
import Fingerprint.Proofs.Settings.Readings

/-! # Strict and lenient loading

A strict loading runs as a lenient one does and ends as it does, up to one difference: where the
lenient one returns with a recorded error, the strict one raises that error. Settings that are
returned tell of their config file in one of three ways: there was none, it was read, or it could
not be read; in the last case one warning says why, and the sections are those of a loading without
any config file. -/
set_option autoImplicit false
namespace Fingerprint
open Fingerprint.Action

namespace Settings
variable (h : Host) (named : Option Path) (start : Value) (s : Settings)

/-- No file was named or found, and the settings tell of none. -/
structure FromNoFile : Prop where
  unnamed : named = none
  nowhere : (findConfig h start).outcome.1 = .ok none
  file : s.configFile = none
  error : s.configError = none

/-- The settings tell the file that was read. -/
structure FromFile (p : Path) : Prop where
  inUse : InUse h named start p
  read : ∃ v, readConfig h p = .ok v
  file : s.configFile = some p.text
  error : s.configError = none

/-- The settings tell why the file could not be read, as one warning does, and are otherwise those of
a loading that finds no config file at all. -/
structure WithoutFile (records : List Record) (p : Path) (reason : Text) : Prop where
  inUse : InUse h named start p
  unread : ∃ fault, readConfig h p = .error fault ∧ recordedReason p fault = some reason
  file : s.configFile = none
  error : s.configError = some reason
  warned : warnings records = [⟨.warning, reason⟩]
  sections : ∀ (h₀ : Host) (start₀ : Value), h₀.environment = h.environment →
    (findConfig h₀ start₀).outcome.1 = .ok none →
    (load h₀ none start₀ false).outcome.1 = .ok { s with configError := none }
  alone : (load { h with disk := .empty } none (.text "/") false).outcome.1 =
    .ok { s with configError := none }

theorem findConfig_of_empty (empty : h.disk = .empty) :
    (findConfig h (.text "/")).outcome.1 = .ok none := by
  obtain ⟨disk, directory, environment, devices⟩ := h
  cases empty
  rfl

theorem inUse_of_located (p : Path) (notes : List Record)
    (found : (locate h named start).outcome = (.ok (some p), notes)) : InUse h named start p := by
  cases named with
  | some q =>
      cases found
      exact Or.inl rfl
  | none => exact Or.inr ⟨rfl, congrArg Prod.fst found⟩

theorem nowhere_of_located (notes : List Record)
    (located : (locate h named start).outcome = (.ok none, notes)) :
    named = none ∧ (findConfig h start).outcome.1 = .ok none := by
  cases named with
  | some q => cases located
  | none => exact ⟨rfl, congrArg Prod.fst located⟩

theorem load_of_nowhere (nowhere : (findConfig h start).outcome.1 = .ok none) (vars : Entries)
    (parsed : ofEnvironment h.environment = .ok vars) :
    (load h none start false).outcome.1 =
      (combine [] vars (.dict [])).map (toldBy .nothing) := by
  have ends := reading_ends h none start
  have located : (locate h none start).outcome.1 = .ok none := nowhere
  rw [outcome_load h none start vars parsed]
  generalize (readSettings h none start).outcome = reading at ends ⊢
  cases ends with
  | nowhere notes _ => rfl
  | astray e notes lost =>
      rw [lost] at located
      cases located
  | taken p v notes found _ | recorded p _ _ notes found _ _ | escaped p _ notes found _ =>
      rw [found] at located
      cases located

theorem returns_in_three_ways (records : List Record)
    (loaded : (load h named start false).outcome = (.ok s, records)) :
    FromNoFile h named start s ∨ (∃ p, FromFile h named start s p) ∨
      ∃ p reason, WithoutFile h named start s records p reason := by
  obtain ⟨vars, config, merged, parsed, reading, merges, rfl⟩ :=
    (load_eq_ok_iff h named start s records).mp loaded
  have ends := reading_ends h named start
  rw [reading] at ends
  cases ends with
  | nowhere notes none =>
      obtain ⟨unnamed, nowhere⟩ := nowhere_of_located h named start _ none
      exact Or.inl ⟨unnamed, nowhere, rfl, rfl⟩
  | taken p v notes found read =>
      exact Or.inr (Or.inl ⟨p, inUse_of_located h named start p _ found, ⟨v, read⟩, rfl, rfl⟩)
  | recorded p fault reason notes found failed told =>
      have debugs := locate_debugs h named start _ notes found
      have warned := warnings_of_recorded notes debugs reason
      have sections : ∀ (h₀ : Host) (start₀ : Value), h₀.environment = h.environment →
          (findConfig h₀ start₀).outcome.1 = .ok none → (load h₀ none start₀ false).outcome.1 =
            .ok { toldBy ⟨.dict [], none, some reason⟩ merged with configError := none } := by
        intro h₀ start₀ environment nowhere
        rw [← environment] at parsed
        rw [load_of_nowhere h₀ start₀ nowhere vars parsed, merges]
        rfl
      have alone := sections { h with disk := .empty } (.text "/") rfl (findConfig_of_empty _ rfl)
      exact Or.inr (Or.inr ⟨p, reason, inUse_of_located h named start p _ found,
        ⟨fault, failed, told⟩, rfl, rfl, warned, sections, alone⟩)

end Settings

namespace Session

theorem runOn_loadSettings_strict (s : Session) (named : Option Path) (start : Value) :
    runOn s (loadSettings named start true) =
      match runOn s (loadSettings named start false) with
      | (.ok from_, s') =>
        (match from_.configError with
          | some reason =>
            .error (.failure (.unusableConfig reason ((named.map Path.text).getD [])))
          | none => .ok from_, s')
      | (.error e, s') => (.error e, s') := by
  unfold loadSettings
  rw [runOn_diagnose, runOn_diagnose, Settings.outcome_load_strict]
  rcases (Settings.load s.host named start false).outcome with ⟨e | from_, records⟩
  · rcases runOn s (reportBy tryResolve .nothing records) with ⟨e' | _, s'⟩ <;> rfl
  · rcases runOn s (reportBy tryResolve .nothing records) with ⟨e' | _, s'⟩
    · rfl
    · cases told : from_.configError <;> simp only [told]

/-- A strict loading raises what a lenient one raises, returns the settings that a lenient one returns
without an error in them, and raises the error that a lenient one has recorded. Settings that are
returned were loaded in exactly one of three ways, and only a file that could not be read is warned
of. -/
theorem strict_loading_raises_what_lenient_loading_records (s : Session) (named : Option Path)
    (start : Value) :
    (∀ e s', runOn s (loadSettings named start false) = (.error e, s') →
      runOn s (loadSettings named start true) = (.error e, s')) ∧
    (∀ from_ s', runOn s (loadSettings named start false) = (.ok from_, s') →
      from_.configError = none → runOn s (loadSettings named start true) = (.ok from_, s')) ∧
    (∀ from_ s' reason, runOn s (loadSettings named start false) = (.ok from_, s') →
      from_.configError = some reason → ∃ f : Failure,
        runOn s (loadSettings named start true) = (.error (.failure f), s') ∧
        f.kind = .configFile ∧ f.message = .text reason) ∧
    (∀ from_ s', runOn s (loadSettings named start false) = (.ok from_, s') → ∃ records,
      (Settings.load s.host named start false).outcome = (.ok from_, records)) ∧
    ∀ from_ records, (Settings.load s.host named start false).outcome = (.ok from_, records) →
      let fromNone := Settings.FromNoFile s.host named start from_
      let fromFile := ∃ p, Settings.FromFile s.host named start from_ p
      let without := ∃ p reason, Settings.WithoutFile s.host named start from_ records p reason
      (fromNone ∨ fromFile ∨ without) ∧
        ¬ (fromNone ∧ fromFile) ∧ ¬ (fromNone ∧ without) ∧ ¬ (fromFile ∧ without) := by
  have strict := runOn_loadSettings_strict s named start
  refine ⟨?_, ?_, ?_, ?_, ?_⟩
  · intro e s' raised
    rw [strict, raised]
  · intro from_ s' returned clean
    rw [strict, returned]
    simp only [clean]
  · intro from_ s' reason returned told
    refine ⟨.unusableConfig reason ((named.map Path.text).getD []), ?_, rfl, rfl⟩
    rw [strict, returned]
    simp only [told]
  · intro from_ s' returned
    exact ⟨_, Prod.ext (outcome_of_diagnose s s' _ from_ returned) rfl⟩
  · intro from_ records loaded
    refine ⟨Settings.returns_in_three_ways s.host named start from_ records loaded, ?_, ?_, ?_⟩
    · rintro ⟨fromNone, p, fromFile⟩
      cases fromNone.file.symm.trans fromFile.file
    · rintro ⟨fromNone, p, reason, without⟩
      cases fromNone.error.symm.trans without.error
    · rintro ⟨⟨p, fromFile⟩, q, reason, without⟩
      cases fromFile.error.symm.trans without.error

/-- The file that is named does not exist: a lenient loading records that, and a strict one ends with
it. -/
theorem strict_loading_raises_what_lenient_loading_records_missing_file :
    let s := onHost (Settings.onFiles []) (.ofText "/") "clock"
    let reason : Text := "Failed to read config file /c.toml: No such file or directory"
    ∃ from_ s', runOn s (loadSettings (some (.ofText "/c.toml")) .null false) = (.ok from_, s') ∧
      from_.configError = some reason ∧ ∃ f : Failure,
        runOn s (loadSettings (some (.ofText "/c.toml")) .null true) = (.error (.failure f), s') ∧
        f.kind = .configFile ∧ f.message = .text reason := by
  intro s reason
  have returned : runOn s (loadSettings (some (.ofText "/c.toml")) .null false) =
      (.ok ⟨.default, .default, none, some reason⟩, _) := rfl
  obtain ⟨-, -, raises, -, -⟩ :=
    strict_loading_raises_what_lenient_loading_records s (some (.ofText "/c.toml")) .null
  exact ⟨_, _, returned, rfl, raises _ _ reason returned rfl⟩

end Session
end Fingerprint
