import Fingerprint.Proofs.Settings.Discovery

/-! # Project files that a search passes over

A search raises nothing but what its own steps meet: a name that is too long, or a project file
whose content ends the operation. Every other project file that is of no use to it is passed over,
and the search ends as it does on a disk without that file. -/
set_option autoImplicit false
namespace Fingerprint

def Host.without (h : Host) (gone : Location) : Host := { h with disk := h.disk.erase gone }

namespace Settings

theorem not_passes_of_finds (h : Host) (directory p : Path) (finds : Finds h directory p) :
    ¬ Passes h directory := by
  intro passes
  obtain ⟨notes, run⟩ := findIn_of_passes h directory [] [] passes
  rw [findIn_of_finds h directory [] [] p finds] at run
  cases run

theorem not_passes_of_stops (h : Host) (directory : Path) (f : Fault)
    (stops : Stops h directory f) : ¬ Passes h directory := by
  intro passes
  obtain ⟨notes, run⟩ := findIn_of_passes h directory [] [] passes
  rw [findIn_of_stops h directory [] [] f stops] at run
  cases run

theorem exists?_without_of_absent (h : Host) (gone : Location) (path : Text)
    (before : Disk.Absent (h.disk.lookup h.directory path))
    (after : Disk.Absent ((h.disk.erase gone).lookup h.directory path)) :
    (h.without gone).exists? path = h.exists? path :=
  (Disk.exists?_of_absent _ _ _ after).trans (Disk.exists?_of_absent _ _ _ before).symm

section
variable (h : Host) (gone : Location) (bytes : Bytes)
  (file : h.disk.get? gone = some (.file bytes))
  (named : gone.getLast? = some (Disk.nameBytes projectFileName))
include file

include named in
theorem exists?_own_without (directory : Path) :
    (h.without gone).exists? (configPath directory).text =
      h.exists? (configPath directory).text := by
  rcases h.disk.lookup_erase gone bytes file h.directory (configPath directory).text with
    same | ⟨after, before | found⟩
  · unfold Host.exists? Disk.exists? Host.without
    rw [same]
  · exact exists?_without_of_absent h gone _ before after
  · have inner : (directory.child ".digestkit").parts ≠ [] := by simp [Path.child]
    have other := h.disk.name_of_lookup h.directory _ "config.toml" inner (by decide) _ _ found
    rw [named] at other
    exact absurd other (by decide)

theorem project_without (directory : Path) :
    ((h.without gone).exists? (projectPath directory).text =
        h.exists? (projectPath directory).text ∧
      (h.exists? (projectPath directory).text = .ok true →
        (h.without gone).content (projectPath directory).text =
          h.content (projectPath directory).text)) ∨
    (h.exists? (projectPath directory).text = .ok true ∧
      h.content (projectPath directory).text = .ok bytes ∧
      (h.without gone).exists? (projectPath directory).text = .ok false) := by
  rcases h.disk.lookup_erase gone bytes file h.directory (projectPath directory).text with
    same | ⟨after, before | found⟩
  · left
    unfold Host.exists? Disk.exists? Host.content Disk.source Host.without
    rw [same]
    exact ⟨rfl, fun _ => rfl⟩
  · left
    refine ⟨exists?_without_of_absent h gone _ before after, ?_⟩
    intro there
    rw [show h.exists? (projectPath directory).text = .ok false from
      Disk.exists?_of_absent _ _ _ before] at there
    cases there
  · right
    refine ⟨?_, ?_, Disk.exists?_of_absent _ _ _ after⟩
    · unfold Host.exists? Disk.exists?
      rw [found]
    · unfold Host.content Disk.source
      rw [found]

variable (useless : Useless bytes) (directory : Path)
include named

theorem passes_without (passes : Passes h directory) : Passes (h.without gone) directory := by
  have own := exists?_own_without h gone bytes file named directory
  have noOwn (before : NoOwn h directory) : NoOwn (h.without gone) directory := own.trans before
  have project := project_without h gone bytes file directory
  cases passes with
  | bare before noProject =>
      rcases project with ⟨same, -⟩ | ⟨there, -, -⟩
      · exact .bare (noOwn before) (same.trans noProject)
      · rw [noProject] at there
        cases there
  | unreadable asks f refused =>
      rcases project with ⟨same, kept⟩ | ⟨-, -, lost⟩
      · exact .unreadable ⟨noOwn asks.noOwn, same.trans asks.there⟩ f ((kept asks.there).trans refused)
      · exact .bare (noOwn asks.noOwn) lost
  | useless asks bytes' content useless =>
      rcases project with ⟨same, kept⟩ | ⟨-, -, lost⟩
      · exact .useless ⟨noOwn asks.noOwn, same.trans asks.there⟩ bytes'
          ((kept asks.there).trans content) useless
      · exact .bare (noOwn asks.noOwn) lost

include useless

theorem finds_without (p : Path) (finds : Finds h directory p) :
    Finds (h.without gone) directory p := by
  have own := exists?_own_without h gone bytes file named directory
  have found := finds
  cases finds with
  | own there => exact .own (own.trans there)
  | project asks bytes' content v gives used =>
      rcases project_without h gone bytes file directory with ⟨same, kept⟩ | ⟨-, lost, -⟩
      · exact .project ⟨own.trans asks.noOwn, same.trans asks.there⟩ bytes'
          ((kept asks.there).trans content) v gives used
      · exact absurd (.useless asks bytes lost useless) (not_passes_of_finds h directory _ found)

theorem stops_without (f : Fault) (stops : Stops h directory f) :
    Stops (h.without gone) directory f := by
  have own := exists?_own_without h gone bytes file named directory
  have stopped := stops
  cases stops with
  | own f long => exact .own f (own.trans long)
  | project noOwn f long =>
      rcases project_without h gone bytes file directory with ⟨same, -⟩ | ⟨there, -, -⟩
      · exact .project (own.trans noOwn) f (same.trans long)
      · rw [long] at there
        cases there
  | content asks bytes' content f escapes =>
      rcases project_without h gone bytes file directory with ⟨same, kept⟩ | ⟨-, lost, -⟩
      · exact .content ⟨own.trans asks.noOwn, same.trans asks.there⟩ bytes'
          ((kept asks.there).trans content) f escapes
      · exact absurd (.useless asks bytes lost useless) (not_passes_of_stops h directory _ stopped)

omit directory in
theorem findIn_without (chain : List Path) (records : List Record) :
    ((findIn (h.without gone) chain).runFrom records).1 = ((findIn h chain).runFrom records).1 := by
  have passed := fun d => passes_without h gone bytes file named d
  have comes (d : Path) (reaches : Reaches h chain d) : Reaches (h.without gone) chain d := by
    obtain ⟨before, after, rfl, earlier⟩ := reaches
    exact ⟨before, after, rfl, fun d' member => passed d' (earlier d' member)⟩
  rcases passes_or_reaches h chain with all | ⟨d, reaches, ⟨p, finds⟩ | ⟨f, stops⟩⟩
  · rw [findIn_of_passed h chain records all]
    exact findIn_of_passed _ chain records fun d member => passed d (all d member)
  · rw [findIn_of_reaches_finds h chain records d p reaches finds]
    exact findIn_of_reaches_finds _ chain records d p (comes d reaches)
      (finds_without h gone bytes file named useless d p finds)
  · rw [findIn_of_reaches_stops h chain records d f reaches stops]
    exact findIn_of_reaches_stops _ chain records d f (comes d reaches)
      (stops_without h gone bytes file named useless d f stops)

end

/-! ## Searches -/

theorem outcome_findConfig (h : Host) (start : Value) (directory : Path)
    (started : startDirectory h start = .ok directory) :
    (findConfig h start).outcome = (findIn h directory.chain).runFrom [] := by
  rw [Diagnosed.outcome_eq, findConfig, Diagnosed.runFrom_ofFault_bind, started]

/-- A search ends with a fault exactly where it comes to a name that is too long or to a project file
whose content ends it; useless project files make no difference to where it ends. -/
theorem search_passes_over_useless_projects (h : Host) (start : Value) (directory : Path)
    (started : startDirectory h start = .ok directory) :
    (∀ e, (findConfig h start).outcome.1 = .error e ↔
      ∃ d f, Reaches h directory.chain d ∧ Stops h d f ∧ e = .fault f) ∧
    (∀ p, (findConfig h start).outcome.1 = .ok (some p) ↔
      ∃ d, Reaches h directory.chain d ∧ Finds h d p) ∧
    ((findConfig h start).outcome.1 = .ok none ↔ ∀ d ∈ directory.chain, Passes h d) ∧
    ∀ gone bytes, h.disk.get? gone = some (.file bytes) →
      gone.getLast? = some (Disk.nameBytes projectFileName) → Useless bytes →
      (findConfig (h.without gone) start).outcome.1 = (findConfig h start).outcome.1 := by
  rw [outcome_findConfig h start directory started]
  refine ⟨findIn_eq_error_iff h _ _, findIn_eq_found_iff h _ _, findIn_eq_none_iff h _ _, ?_⟩
  intro gone bytes file named useless
  have same : startDirectory (h.without gone) start = .ok directory := started
  rw [outcome_findConfig _ start directory same]
  exact findIn_without h gone bytes file named useless _ _

/-- A project file that is no TOML lies between the start and the config file above it. -/
theorem search_passes_over_useless_projects_on_the_way :
    let gone : Location := [Disk.nameBytes "a", Disk.nameBytes projectFileName]
    let settings : Location := [Disk.nameBytes ".digestkit"]
    let h := onFiles [([Disk.nameBytes "a"], .directory), (gone, .file [0x5B]),
      (settings, .directory), (settings ++ [Disk.nameBytes "config.toml"], .file [])]
    startDirectory h (.text "/a") = .ok (.ofText "/a") ∧
      h.disk.get? gone = some (.file [0x5B]) ∧
      gone.getLast? = some (Disk.nameBytes projectFileName) ∧ Useless [0x5B] ∧
      (findConfig h (.text "/a")).outcome.1 = .ok (some (configPath (.ofText "/"))) := by
  intro gone settings h
  have started : startDirectory h (.text "/a") = .ok (.ofText "/a") := rfl
  have file : h.disk.get? gone = some (.file [0x5B]) := rfl
  have named : gone.getLast? = some (Disk.nameBytes projectFileName) := rfl
  have decoded : Utf8.decode? [0x5B] = some ("[" : Text) := by
    rw [Utf8.decode?, Utf8.scan_single]
    rfl
  have useless : Useless [0x5B] := .malformed _ ⟨_, _, decoded, rfl, rfl⟩
  obtain ⟨-, -, -, same⟩ := search_passes_over_useless_projects h (.text "/a") _ started
  refine ⟨started, file, named, useless, ?_⟩
  rw [← same gone [0x5B] file named useless]
  rfl

/-- Bytes that are no UTF-8 end a search that would find nothing without them. -/
theorem search_stops_at_undecodable_project :
    let place : Location := [Disk.nameBytes projectFileName]
    let h := onFiles [(place, .file [0xFF])]
    (findConfig h .null).outcome.1 = .error (.fault .undecodable) ∧
      (findConfig (h.without place) .null).outcome.1 = .ok none := by
  intro place h
  have broken : Utf8.decode? [0xFF] = none := by
    rw [Utf8.decode?, Utf8.scan_single]
    rfl
  have asks : Asks h (.ofText "/") := ⟨rfl, rfl⟩
  have stops : Stops h (.ofText "/") .undecodable := .content asks [0xFF] rfl _ (.undecodable broken)
  have reaches : Reaches h (Path.ofText "/").chain (.ofText "/") := ⟨[], [], rfl, by simp⟩
  refine ⟨?_, rfl⟩
  rw [outcome_findConfig h .null (.ofText "/") rfl]
  exact findIn_of_reaches_stops h _ [] _ _ reaches stops

end Settings
end Fingerprint
