import Fingerprint.Proofs.Settings.Bookkeeping
import Fingerprint.Settings.Held

/-! # Settings made again from what they show

What settings show of a section names all its fields, with values that are read as themselves. As
the highest source it leaves nothing for the sources below to say, so the settings made from it have
the same sections (`takenFrom_shown`), whatever stands in the environment or in the config file. That
takes a positive chunk size, which the sections that settings hold have after any loadings,
constructions and assignments (`sound_after`), and variables that can be read at all
(`ofEnvironment_returns_iff`). What took a section's place unchecked need not be read again. -/
set_option autoImplicit false
namespace Fingerprint.Settings
open Diagnosed

/-! ## Shown sections above other sources -/

def Object.shownSections (o : Object) : Entries :=
  [(.text "digest", o.digest.shown), (.text "logging", o.logging.shown)]

section
variable (o : Object) (d : DigestSection) (l : LoggingSection)
  (digest : o.digest = .checked (.digest d)) (logging : o.logging = .checked (.logging l))
include digest logging

theorem shownSections_eq : o.shownSections =
    [(.text "digest", .dict d.entries), (.text "logging", .dict l.entries)] := by
  rw [Object.shownSections, digest, logging]
  rfl

theorem dictionary_shownSections : Dictionary o.shownSections := by
  rw [shownSections_eq o d l digest logging]
  constructor
  · exact Entries.distinct_present [("digest", some _), ("logging", some _)]
      (by decide : [("digest" : Text), "logging"].Nodup)
  · intro name table holds
    have member :=
      Entries.mem_of_get?_present [("digest", some _), ("logging", some _)] name _ holds
    simp only [List.mem_cons, Prod.mk.injEq, Option.some.injEq, Value.dict.injEq, List.not_mem_nil,
      or_false] at member
    rcases member with ⟨-, rfl⟩ | ⟨-, rfl⟩
    · exact Entries.distinct_present [("extended", some _), ("chunk_size", some _)]
        (by decide : [("extended" : Text), "chunk_size"].Nodup)
    · exact Entries.distinct_present [("level", some _), ("console", some _), ("file", some _)]
        (by decide : [("level" : Text), "console", "file"].Nodup)

end

section
variable (source : Entries) (below : List Entries) (name : Text) (table : Entries)
  (gives : source.get? name = some (.dict table))
include gives

theorem top_of_gives : top (source :: below) name = some (.dict table) := by
  rw [top, List.findSome?_cons, gives]

theorem tableOnTop_of_gives : TableOnTop (source :: below) name :=
  (tableOnTop_iff _ _ _ (top_of_gives source below name table gives)).mpr (Or.inl ⟨table, rfl⟩)

theorem chosen_of_gives (field : Text) (v : Value) (holds : table.get? field = some v) :
    chosen (source :: below) name field = some v := by
  rw [chosen_of_table _ name table (top_of_gives source below name table gives)]
  simp only [choice, List.findSome?_cons, fieldOf, gives, holds]

end

/-- Sources below shown sections make a difference to the entries for bookkeeping alone. -/
theorem takenFrom_shown (s : Settings) (positive : 0 < s.digest.chunkSize) (below : List Entries)
    (ofFile : Takes optionalText (top below "config_file") none s.configFile)
    (ofError : Takes optionalText (top below "config_error") none s.configError) :
    TakenFrom ([(.text "digest", .dict s.digest.entries), (.text "logging", .dict s.logging.entries)]
      :: below) s where
  digestTable := tableOnTop_of_gives _ below "digest" s.digest.entries rfl
  digest := s.digest.reads_shown _ positive (chosen_of_gives _ below "digest" s.digest.entries rfl)
  loggingTable := tableOnTop_of_gives _ below "logging" s.logging.entries rfl
  logging := s.logging.reads_shown _ (chosen_of_gives _ below "logging" s.logging.entries rfl)
  configFile := ofFile
  configError := ofError

/-! ## Environments that can be read -/

/-- The variables that hold whole sections are JSON. -/
def SectionsParse (environment : Environment.Variables) : Prop :=
  ∀ name ∈ [("digest" : Text), "logging"], ∀ t,
    (Environment.lowered environment).lookup (variableStart ++ name) = some t →
    ∃ v, Json.read t = .ok v

theorem Environment.sectionValue?_returns_iff (vars : Variables) (start name : Text)
    (known : List Text) : (∃ v?, sectionValue? vars start name known = .ok v?) ↔
      ∀ t, vars.lookup (start ++ name) = some t → ∃ v, Json.read t = .ok v := by
  unfold sectionValue?
  extract_lets whole fields
  cases vars.lookup whole with
  | none => exact ⟨fun _ => nofun, fun _ => ⟨_, rfl⟩⟩
  | some t =>
      simp only [Option.some.injEq, forall_eq']
      split
      next failed => simp [failed]
      next failed => simp [failed]
      next read => exact ⟨fun _ => ⟨_, read⟩, fun _ => ⟨_, rfl⟩⟩
      next read => exact ⟨fun _ => ⟨_, read⟩, fun _ => ⟨_, rfl⟩⟩
      next read => exact ⟨fun _ => ⟨_, read⟩, fun _ => ⟨_, rfl⟩⟩

theorem ofEnvironment_returns_iff (environment : Environment.Variables) :
    (∃ vars, ofEnvironment environment = .ok vars) ↔ SectionsParse environment := by
  constructor
  · rintro ⟨vars, parsed⟩ name member
    obtain ⟨digest, logging, -, -, -, ofDigest, ofLogging⟩ :=
      ofEnvironment_eq_ok environment vars parsed
    simp only [List.mem_cons, List.not_mem_nil, or_false] at member
    rcases member with rfl | rfl
    · exact (Environment.sectionValue?_returns_iff _ _ _ _).mp ⟨digest, ofDigest⟩
    · exact (Environment.sectionValue?_returns_iff _ _ _ _).mp ⟨logging, ofLogging⟩
  · intro parse
    obtain ⟨digest, ofDigest⟩ := (Environment.sectionValue?_returns_iff _ _ _
      ["extended", "chunk_size"]).mpr (parse "digest" (by simp))
    obtain ⟨logging, ofLogging⟩ := (Environment.sectionValue?_returns_iff _ _ _
      ["level", "console", "file"]).mpr (parse "logging" (by simp))
    unfold ofEnvironment
    simp only [bind_eq_ok_iff]
    exact ⟨_, digest, ofDigest, logging, ofLogging, rfl⟩

theorem bookkeeping_of_ofEnvironment (environment : Environment.Variables) (vars : Entries)
    (parsed : ofEnvironment environment = .ok vars) (name : Text) (member : name ∈ bookkeeping) :
    ∃ text : Option Text, vars.get? name = text.map Value.text := by
  obtain ⟨digest, logging, file, error, rfl, -⟩ := ofEnvironment_eq_ok environment vars parsed
  have nodup := nodup_environmentNames digest logging (file.map Value.text) (error.map Value.text)
  simp only [bookkeeping, List.mem_cons, List.not_mem_nil, or_false] at member
  rcases member with rfl | rfl
  · exact ⟨file, Entries.get?_present_of_mem _ nodup _ _ (by simp)⟩
  · exact ⟨error, Entries.get?_present_of_mem _ nodup _ _ (by simp)⟩

/-! ## Sections that are held -/

def Held.Sound : Held → Prop
  | checked s => s.Sound
  | _ => True

structure Object.Sound (o : Object) : Prop where
  digest : o.digest.Sound
  logging : o.logging.Sound

theorem Section.sound_assign (s s' : Section) (sound : s.Sound) (name : Text) (v : Value)
    (assigned : s.assign name v = .ok s') : s'.Sound := by
  cases s with
  | digest s =>
      obtain ⟨t, set, rfl⟩ := (map_eq_ok_iff _ _ _).mp assigned
      exact (DigestSection.Validated.assigned s name v t (s.validated_of_sound sound) set).positive t
  | logging s =>
      obtain ⟨t, -, rfl⟩ := (map_eq_ok_iff _ _ _).mp assigned
      trivial

namespace Held

theorem sound_ofValue (v : Value) : (ofValue v).Sound := by
  cases v with
  | checked s => exact s.property
  | _ => trivial

theorem sound_replaceFields (v : Value) (like : Section) (h : Held)
    (replaced : assign.replaceFields v like = .ok h) : h.Sound := by
  unfold assign.replaceFields at replaced
  split at replaced
  next => cases replaced; trivial
  next => cases replaced

theorem sound_assign (h h' : Held) (sound : h.Sound) (name : Text) (v : Value)
    (assigned : h.assign name v = .ok h') : h'.Sound := by
  unfold assign at assigned
  cases h with
  | checked s =>
      simp only at assigned
      split at assigned
      next => exact sound_replaceFields v s h' assigned
      next =>
        obtain ⟨s', set, rfl⟩ := (map_eq_ok_iff _ _ _).mp ((mapError_eq_ok_iff _ _ _).mp assigned)
        exact s.sound_assign s' sound name v set
  | bare like fields =>
      simp only at assigned
      split at assigned
      next => exact sound_replaceFields v like h' assigned
      next =>
        obtain ⟨alone, -, same⟩ := (bind_eq_ok_iff _ _ _).mp assigned
        cases same
        trivial
  | other w =>
      simp only at assigned
      split at assigned
      next =>
        cases assigned
        trivial
      next => cases assigned

end Held

namespace Object

theorem sound_ofSettings (s : Settings) (validated : s.digest.Validated) :
    (ofSettings s).Sound where
  digest := validated.positive s.digest
  logging := trivial

theorem sound_assign (o o' : Object) (sound : o.Sound) (part name : Text) (v : Value)
    (assigned : o.assign part name v = .ok o') : o'.Sound := by
  unfold assign at assigned
  split at assigned
  next =>
    obtain ⟨h, set, same⟩ := (bind_eq_ok_iff _ _ _).mp assigned
    cases same
    exact ⟨o.digest.sound_assign h sound.digest name v set, sound.logging⟩
  next =>
    split at assigned
    next =>
      obtain ⟨h, set, same⟩ := (bind_eq_ok_iff _ _ _).mp assigned
      cases same
      exact ⟨sound.digest, o.logging.sound_assign h sound.logging name v set⟩
    next => cases assigned

theorem sound_replace (o o' : Object) (sound : o.Sound) (name : Text) (v : Value)
    (replaced : o.replace name v = .ok o') : o'.Sound := by
  unfold replace at replaced
  split at replaced
  next =>
    cases replaced
    exact ⟨Held.sound_ofValue v, sound.logging⟩
  split at replaced
  next =>
    cases replaced
    exact ⟨sound.digest, Held.sound_ofValue v⟩
  split at replaced
  next =>
    cases replaced
    exact ⟨sound.digest, sound.logging⟩
  split at replaced
  next =>
    cases replaced
    exact ⟨sound.digest, sound.logging⟩
  split at replaced
  next =>
    cases replaced
    exact sound
  next => cases replaced

end Object

/-! ## Histories -/

/-- Settings are loaded or made, a field of one of their sections is assigned to, or one of their own.
A section that several settings hold is assigned to in all of them, one by one. -/
inductive Event where
  | load (h : Host) (named : Option Path) (start : Value) (strict : Bool)
  | make (h : Host) (given : Entries)
  | assign (n : Nat) (part name : Text) (v : Value)
  | replace (n : Nat) (name : Text) (v : Value)

/-- The settings that live after others were put together, successfully or not. -/
def joined (live : List Object) : Except Error Settings → List Object
  | .ok s => live ++ [.ofSettings s]
  | .error _ => live

def changed (live : List Object) (n : Nat) (change : Object → Except Error Object) : List Object :=
  match live[n]?.map change with
  | some (.ok o) => live.set n o
  | _ => live

def perform (live : List Object) : Event → List Object
  | .load h named start strict => joined live (load h named start strict).outcome.1
  | .make h given => joined live (ofGiven h given).outcome.1
  | .assign n part name v => changed live n fun o => o.assign part name v
  | .replace n name v => changed live n fun o => o.replace name v

def after (live : List Object) (events : List Event) : List Object := events.foldl perform live

section
variable (live : List Object) (sound : ∀ o ∈ live, o.Sound)
include sound

theorem sound_joined (result : Except Error Settings)
    (fresh : ∀ s, result = .ok s → s.digest.Validated) : ∀ o ∈ joined live result, o.Sound := by
  intro o member
  cases result with
  | error e => exact sound o member
  | ok made =>
      rcases List.mem_append.mp member with old | new
      · exact sound o old
      · cases List.mem_singleton.mp new
        exact Object.sound_ofSettings made (fresh made rfl)

theorem sound_changed (n : Nat) (change : Object → Except Error Object)
    (keeps : ∀ o o', o.Sound → change o = .ok o' → o'.Sound) :
    ∀ o ∈ changed live n change, o.Sound := by
  unfold changed
  split
  next o' there =>
    obtain ⟨before, held, changes⟩ := Option.map_eq_some_iff.mp there
    intro o member
    rcases List.mem_or_eq_of_mem_set member with old | rfl
    · exact sound o old
    · exact keeps before o (sound before (List.mem_of_getElem? held)) changes
  next => exact sound

theorem sound_perform (event : Event) : ∀ o ∈ perform live event, o.Sound := by
  cases event with
  | load h named start strict =>
      exact sound_joined live sound _ fun s => validated_of_load h named start s
  | make h given => exact sound_joined live sound _ fun s => validated_of_ofGiven h given s
  | assign n part name v =>
      exact sound_changed live sound n _ fun o o' before => o.sound_assign o' before part name v
  | replace n name v =>
      exact sound_changed live sound n _ fun o o' before => o.sound_replace o' before name v

end

theorem sound_after (events : List Event) (live : List Object) (sound : ∀ o ∈ live, o.Sound) :
    ∀ o ∈ after live events, o.Sound := by
  induction events generalizing live with
  | nil => exact sound
  | cons event later ih => exact ih _ (sound_perform live sound event)

end Fingerprint.Settings
