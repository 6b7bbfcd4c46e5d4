import Fingerprint.Proofs.Settings.Nearest
import Fingerprint.Proofs.Settings.Readings

/-! # What lies above the nearest config file

What a search does in a directory depends on the two places of config files there alone: on
machines that show the same in them (`SameConfigs`) it passes the directory, finds a file or stops
on both. So whatever lies above the directory of the file that is found makes no difference to the
search, and neither to a loading, which is that of the file named outright
(`nearest_config_shadows_directories_above`). -/
set_option autoImplicit false
namespace Fingerprint.Settings
open Diagnosed

/-- Under a path each, two machines show the same: whether something is there, and its bytes. -/
structure SameFile (h : Host) (t : Text) (h' : Host) (t' : Text) : Prop where
  there : ∀ b, h.exists? t = .ok b ↔ h'.exists? t' = .ok b
  content : ∀ bytes, h.content t = .ok bytes ↔ h'.content t' = .ok bytes

/-- In a directory each, two machines show the same in the places of config files. -/
structure SameConfigs (h : Host) (d : Path) (h' : Host) (d' : Path) : Prop where
  own : SameFile h (configPath d).text h' (configPath d').text
  project : SameFile h (projectPath d).text h' (projectPath d').text

/-- The directory that a config file belongs to: a project file lies in it, the program's own file
in a directory of it. -/
def owner (p : Path) : Path := if p.name = projectFileName then p.parent else p.parent.parent

theorem owner_configPath (d : Path) : owner (configPath d) = d := by
  have other : (configPath d).name ≠ projectFileName := by
    simp only [configPath, Path.child, Path.name, List.getLast?_concat]
    decide
  unfold owner
  rw [if_neg other]
  simp [configPath, Path.child, Path.parent]

theorem owner_projectPath (d : Path) : owner (projectPath d) = d := by
  unfold owner
  rw [if_pos (name_projectPath d)]
  simp [projectPath, Path.child, Path.parent]

/-! ## One file -/

namespace SameFile
variable (h h' : Host) (t t' : Text)

theorem of_eq (there : h.exists? t = h'.exists? t') (content : h.content t = h'.content t') :
    SameFile h t h' t' :=
  ⟨fun b => by rw [there], fun bytes => by rw [content]⟩

variable (same : SameFile h t h' t')
include same

theorem refused (f : Fault) (fails : h.exists? t = .error f) : ∃ f', h'.exists? t' = .error f' := by
  cases also : h'.exists? t' with
  | ok b =>
      rw [(same.there b).mpr also] at fails
      cases fails
  | error f' => exact ⟨f', rfl⟩

theorem unreadable (f : Fault) (fails : h.content t = .error f) :
    ∃ f', h'.content t' = .error f' := by
  cases also : h'.content t' with
  | ok bytes =>
      rw [(same.content bytes).mpr also] at fails
      cases fails
  | error f' => exact ⟨f', rfl⟩

omit same in
/-- What is there and has no bytes is a directory, so that it is refused alike under one path. -/
theorem content_eq (same : SameFile h t h' t) (there : h.exists? t = .ok true) :
    h.content t = h'.content t := by
  cases read : h.content t with
  | ok bytes => exact ((same.content bytes).mp read).symm
  | error f =>
      obtain ⟨f', read'⟩ := same.unreadable h h' t t f read
      rw [read', isDirectory_of_refused h t there f read,
        isDirectory_of_refused h' t ((same.there true).mp there) f' read']

end SameFile

/-! ## One directory -/

namespace SameConfigs
variable (h h' : Host) (d d' : Path) (same : SameConfigs h d h' d')
include same

theorem asks (asks : Asks h d) : Asks h' d' :=
  ⟨(same.own.there false).mp asks.noOwn, (same.project.there true).mp asks.there⟩

theorem passes (passes : Passes h d) : Passes h' d' := by
  cases passes with
  | bare noOwn noProject =>
      exact .bare ((same.own.there false).mp noOwn) ((same.project.there false).mp noProject)
  | unreadable asks f refused =>
      obtain ⟨f', refused'⟩ := same.project.unreadable h h' _ _ f refused
      exact .unreadable (same.asks h h' d d' asks) f' refused'
  | useless asks bytes content useless =>
      exact .useless (same.asks h h' d d' asks) bytes ((same.project.content bytes).mp content) useless

theorem finds (p : Path) (finds : Finds h d p) :
    (p = configPath d ∧ Finds h' d' (configPath d')) ∨
      p = projectPath d ∧ Finds h' d' (projectPath d') := by
  cases finds with
  | own there => exact Or.inl ⟨rfl, .own ((same.own.there true).mp there)⟩
  | project asks bytes content v gives used =>
      exact Or.inr ⟨rfl, .project (same.asks h h' d d' asks) bytes
        ((same.project.content bytes).mp content) v gives used⟩

theorem stops (f : Fault) (stops : Stops h d f) : ∃ f', Stops h' d' f' := by
  cases stops with
  | own f long =>
      obtain ⟨f', long'⟩ := same.own.refused h h' _ _ f long
      exact ⟨_, .own f' long'⟩
  | project noOwn f long =>
      obtain ⟨f', long'⟩ := same.project.refused h h' _ _ f long
      exact ⟨_, .project ((same.own.there false).mp noOwn) f' long'⟩
  | content asks bytes content f escapes =>
      exact ⟨f, .content (same.asks h h' d d' asks) bytes ((same.project.content bytes).mp content) f
        escapes⟩

omit same in
theorem readConfig_eq (same : SameConfigs h d h' d) (p : Path) (finds : Finds h d p) :
    readConfig h p = readConfig h' p := by
  have content : h.content p.text = h'.content p.text := by
    cases finds with
    | own there => exact same.own.content_eq h h' _ there
    | project asks => exact same.project.content_eq h h' _ asks.there
  unfold readConfig
  rw [content]

end SameConfigs

/-! ## The file that is found -/

theorem owner_of_finds (h : Host) (d p : Path) (finds : Finds h d p) : owner p = d := by
  cases finds with
  | own there => exact owner_configPath d
  | project asks bytes content v gives used => exact owner_projectPath d

theorem finds_of_sameConfigs (h h' : Host) (directory p : Path)
    (found : ((findIn h directory.chain).runFrom []).1 = .ok (some p))
    (same : ∀ d : Path, d.Above directory → (owner p).Above d → SameConfigs h d h' d) :
    ((findIn h' directory.chain).runFrom []).1 = .ok (some p) ∧ readConfig h p = readConfig h' p := by
  obtain ⟨d, ⟨before, after, split, passed⟩, finds⟩ := (findIn_eq_found_iff h _ _ p).mp found
  rw [owner_of_finds h d p finds] at same
  have order := directory.pairwise_chain
  rw [split, List.pairwise_append] at order
  have below (b : Path) (earlier : b ∈ before) : SameConfigs h b h' b := by
    refine same b ((Path.mem_chain_iff directory b).mp ?_) (order.2.2 b earlier d List.mem_cons_self).1
    rw [split]
    exact List.mem_append_left _ earlier
  have here : SameConfigs h d h' d := by
    refine same d ((Path.mem_chain_iff directory d).mp ?_) (.refl d)
    rw [split]
    exact List.mem_append_right _ List.mem_cons_self
  have finds' : Finds h' d p := by
    rcases here.finds h h' d d p finds with ⟨rfl, finds'⟩ | ⟨rfl, finds'⟩
    · exact finds'
    · exact finds'
  have reaches' : Reaches h' directory.chain d :=
    ⟨before, after, split, fun b earlier => (below b earlier).passes h h' b b (passed b earlier)⟩
  exact ⟨(findIn_eq_found_iff h' _ _ p).mpr ⟨d, reaches', finds'⟩,
    here.readConfig_eq h h' d p finds⟩

/-! ## Loadings -/

theorem readSettings_of_readConfig_eq (h h' : Host) (p : Path) (start start' : Value)
    (records records' : List Record) (same : readConfig h p = readConfig h' p) :
    ((readSettings h (some p) start).runFrom records).1 =
      ((readSettings h' (some p) start').runFrom records').1 := by
  cases read : readConfig h' p with
  | ok v =>
      rw [readSettings_of_ok h start p records v (same.trans read),
        readSettings_of_ok h' start' p records' v read]
  | error fault =>
      have failed := same.trans read
      cases told : recordedReason p fault with
      | some reason =>
          rw [readSettings_of_recorded h start p records fault reason failed told,
            readSettings_of_recorded h' start' p records' fault reason read told]
      | none =>
          cases fault with
          | escaping f =>
              rw [readSettings_of_escaping h start p records f failed,
                readSettings_of_escaping h' start' p records' f read]
          | malformed detail | unreadable f => cases told

theorem readSettings_of_found (h : Host) (start start' : Value) (p : Path)
    (found : (findConfig h start).outcome.1 = .ok (some p)) :
    (readSettings h none start).outcome.1 = (readSettings h (some p) start').outcome.1 := by
  have searched : (findConfig h start).runFrom [] = (.ok (some p), (findConfig h start).outcome.2) :=
    Prod.ext found rfl
  rw [outcome_eq, readSettings_searched, runFrom_bind, searched]
  exact readSettings_of_readConfig_eq h h p start start' _ _ rfl

theorem load_of_readSettings_eq (h h' : Host) (named named' : Option Path) (start start' : Value)
    (environment : h'.environment = h.environment)
    (same : (readSettings h named start).outcome.1 = (readSettings h' named' start').outcome.1) :
    (load h named start false).outcome.1 = (load h' named' start' false).outcome.1 := by
  rw [load_eq, load_eq]
  cases parsed : ofEnvironment h.environment with
  | error e =>
      have parsed' : ofEnvironment h'.environment = .error e := by rw [environment, parsed]
      rw [assemble_of_unparsable [] h _ e parsed, assemble_of_unparsable [] h' _ e parsed']
  | ok vars =>
      have parsed' : ofEnvironment h'.environment = .ok vars := by rw [environment, parsed]
      cases read : (readSettings h' named' start').outcome.1 with
      | error e =>
          rw [assemble_of_unread [] h (.make named start) vars parsed e (same.trans read),
            assemble_of_unread [] h' (.make named' start') vars parsed' e read]
      | ok config =>
          rw [assemble_of_read [] h (.make named start) vars parsed config (same.trans read),
            assemble_of_read [] h' (.make named' start') vars parsed' config read]

/-- Machines with the same variables that show the same from the start up to the directory of the
file that is found have one search and one loading, which is that of the file named outright. The
start may be any directory that is the same on both. -/
theorem nearest_config_shadows_directories_above (h h' : Host) (start : Value) (directory p : Path)
    (started : startDirectory h start = .ok directory)
    (started' : startDirectory h' start = .ok directory)
    (found : (findConfig h start).outcome.1 = .ok (some p))
    (environment : h'.environment = h.environment)
    (same : ∀ d : Path, d.Above directory → (owner p).Above d → SameConfigs h d h' d) :
    (findConfig h' start).outcome.1 = .ok (some p) ∧
      (load h none start false).outcome.1 = (load h (some p) .null false).outcome.1 ∧
      (load h' none start false).outcome.1 = (load h (some p) .null false).outcome.1 ∧
      (load h' (some p) .null false).outcome.1 = (load h (some p) .null false).outcome.1 := by
  have run : ((findIn h directory.chain).runFrom []).1 = .ok (some p) := by
    rw [← outcome_findConfig h start directory started]
    exact found
  obtain ⟨run', read⟩ := finds_of_sameConfigs h h' directory p run same
  have found' : (findConfig h' start).outcome.1 = .ok (some p) := by
    rw [outcome_findConfig h' start directory started']
    exact run'
  have found_is_named := readSettings_of_found h start .null p found
  have named_alike : (readSettings h' (some p) .null).outcome.1 =
      (readSettings h (some p) .null).outcome.1 :=
    readSettings_of_readConfig_eq h' h p .null .null [] [] read.symm
  have found_alike := (readSettings_of_found h' start .null p found').trans named_alike
  exact ⟨found', load_of_readSettings_eq h h _ _ _ _ rfl found_is_named,
    load_of_readSettings_eq h' h _ _ _ _ environment.symm found_alike,
    load_of_readSettings_eq h' h _ _ _ _ environment.symm named_alike⟩

/-- A directory stands in the place of the project file at the start; above the directory of the file
that is found, one machine has nothing and the other has both files. -/
theorem nearest_config_shadows_directories_above_two_steps_up :
    let a : Bytes := Disk.nameBytes "a"
    let b : Bytes := Disk.nameBytes "b"
    let project : Bytes := Disk.nameBytes projectFileName
    let settings : Bytes := Disk.nameBytes ".digestkit"
    let own : Bytes := Disk.nameBytes "config.toml"
    let files : List (Location × DiskEntry) := [([a], .directory), ([a, b], .directory),
      ([a, b, project], .directory), ([a, settings], .directory), ([a, settings, own], .file [])]
    let h := onFiles files
    let h' := onFiles (files ++ [([settings], .directory), ([settings, own], .file [0x5B]),
      ([project], .file [0xFF])])
    let p := configPath (.ofText "/a")
    let start : Value := .text "/a/b"
    startDirectory h start = .ok (.ofText "/a/b") ∧ startDirectory h' start = .ok (.ofText "/a/b") ∧
      (findConfig h start).outcome.1 = .ok (some p) ∧ h'.environment = h.environment ∧
      (∀ d : Path, d.Above (.ofText "/a/b") → (owner p).Above d → SameConfigs h d h' d) ∧
      (findConfig h' start).outcome.1 = .ok (some p) ∧
      (load h' none start false).outcome.1 = (load h (some p) .null false).outcome.1 := by
  intro a b project settings own files h h' p start
  have started : startDirectory h start = .ok (.ofText "/a/b") := rfl
  have started' : startDirectory h' start = .ok (.ofText "/a/b") := rfl
  have found : (findConfig h start).outcome.1 = .ok (some p) := rfl
  have owned : owner p = .ofText "/a" := owner_configPath _
  have same : ∀ d : Path, d.Above (.ofText "/a/b") → (owner p).Above d → SameConfigs h d h' d := by
    intro d above below
    have chain : (Path.ofText "/a/b").chain = [.ofText "/a/b", .ofText "/a", .ofText "/"] := rfl
    have member := (Path.mem_chain_iff _ d).mpr above
    rw [chain] at member
    simp only [List.mem_cons, List.not_mem_nil, or_false] at member
    rcases member with rfl | rfl | rfl
    · exact ⟨.of_eq _ _ _ _ rfl rfl, .of_eq _ _ _ _ rfl rfl⟩
    · exact ⟨.of_eq _ _ _ _ rfl rfl, .of_eq _ _ _ _ rfl rfl⟩
    · rw [owned] at below
      exact absurd below.2.length_le (by decide)
  obtain ⟨found', -, loaded, -⟩ :=
    nearest_config_shadows_directories_above h h' start _ p started started' found rfl same
  exact ⟨started, started', found, rfl, same, found', loaded⟩

end Fingerprint.Settings
