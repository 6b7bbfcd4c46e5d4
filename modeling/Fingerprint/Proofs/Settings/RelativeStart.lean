import Fingerprint.Proofs.Disk.WorkingDirectory
import Fingerprint.Proofs.Settings.Shadowing

/-! # Searches from a relative start

A search goes up a path by its spelling. From a relative start it ends at the working directory, and
from the same start behind the working directory it goes on with the directories above
(`Path.chain_within`). Up to the working directory both see the same files (`sameConfigs_within`),
unless one of them is too long to be looked at in the longer spelling
(`relative_search_ends_at_working_directory`). -/
set_option autoImplicit false
namespace Fingerprint

namespace Path

theorem chain_eq_cons (p : Path) : p.chain = p :: p.chain.tail := by
  obtain ⟨root, parts⟩ := p
  unfold chain
  cases last : parts.reverse with
  | nil =>
      cases List.reverse_eq_nil_iff.mp last
      rfl
  | cons part rest =>
      rw [chain.go, List.tail_cons, ← last, List.reverse_reverse]

theorem chain_within (directory p : Path) (relative : p.isAbsolute = false) :
    (directory.within p).chain = p.chain.map directory.within ++ directory.chain.tail := by
  have within_relative (parts : List Text) :
      directory.within ⟨[], parts⟩ = ⟨directory.root, directory.parts ++ parts⟩ := rfl
  obtain ⟨root, parts⟩ := p
  cases root with
  | cons c rest => cases relative
  | nil =>
      rw [within_relative, chain, List.reverse_append, chain]
      dsimp only
      induction parts.reverse with
      | nil =>
          rw [List.nil_append, chain.go, List.map_singleton, within_relative, List.append_nil,
            List.singleton_append]
          exact directory.chain_eq_cons
      | cons part rest ih =>
          rw [List.cons_append, chain.go, ih, chain.go, List.map_cons, within_relative]
          simp

theorem within_child (directory p : Path) (part : Text) (relative : p.isAbsolute = false) :
    directory.within (p.child part) = (directory.within p).child part := by
  have also : (p.child part).isAbsolute = false := relative
  unfold within
  rw [relative, also, if_neg Bool.false_ne_true, if_neg Bool.false_ne_true]
  exact congrArg _ (List.append_assoc ..).symm

theorem Plain.child (p : Path) (plain : p.Plain) (part : Text) (proper : PlainPart part) :
    (p.child part).Plain :=
  ⟨plain.root, List.forall_mem_append.mpr ⟨plain.parts, List.forall_mem_singleton.mpr proper⟩⟩

end Path

namespace Settings
open Disk

def ownTail : Text := ".digestkit/config.toml"

theorem text_configPath (d : Path) : (configPath d).text = d.lead ++ ownTail := by
  have spelled : configPath d = d.within ⟨[], [".digestkit", "config.toml"]⟩ := by
    simp [configPath, Path.child, Path.within, Path.isAbsolute]
  rw [spelled]
  exact Path.text_within d _ rfl (List.cons_ne_nil _ _)

theorem text_projectPath (d : Path) : (projectPath d).text = d.lead ++ projectFileName :=
  Path.text_within d ⟨[], [projectFileName]⟩ rfl (List.cons_ne_nil _ _)

theorem plain_configPath (d : Path) (plain : d.Plain) : (configPath d).Plain :=
  (plain.child d _ (by decide)).child _ _ (by decide)

theorem plain_projectPath (d : Path) (plain : d.Plain) : (projectPath d).Plain :=
  plain.child d _ (by decide)

theorem within_configPath (directory d : Path) (relative : d.isAbsolute = false) :
    directory.within (configPath d) = configPath (directory.within d) := by
  unfold configPath
  rw [Path.within_child _ (d.child ".digestkit") _ relative, Path.within_child _ d _ relative]

theorem within_projectPath (directory d : Path) (relative : d.isAbsolute = false) :
    directory.within (projectPath d) = projectPath (directory.within d) :=
  Path.within_child _ d _ relative

theorem parts_configPath (d : Path) : (configPath d).parts ≠ [] := by
  simp [configPath, Path.child]

theorem parts_projectPath (d : Path) : (projectPath d).parts ≠ [] := by
  simp [projectPath, Path.child]

/-! ## Paths that are too long -/

theorem tooLong_append (before after longer : Text) (bytes : Bytes)
    (taken : pathBytes longer = .ok bytes) (more : (nameBytes after).length ≤ bytes.length)
    (long : TooLong (before ++ after)) : TooLong (before ++ longer) := by
  obtain ⟨whole, spelled, long⟩ := long
  obtain ⟨front, back, taken', also, rfl⟩ := (pathBytes_append before after whole).mp spelled
  obtain ⟨-, rfl, -⟩ := (pathBytes_eq_ok_iff after back).mp also
  have spelled' := (pathBytes_append before longer _).mpr ⟨front, bytes, taken', taken, rfl⟩
  refine ⟨front ++ bytes, spelled', ?_⟩
  rw [List.length_append] at long ⊢
  omega

theorem fits_projectPath (d : Path) (fits : ¬ TooLong (configPath d).text) :
    ¬ TooLong (projectPath d).text := by
  rw [text_configPath] at fits
  rw [text_projectPath]
  exact fun long => fits (tooLong_append _ _ ownTail (nameBytes ownTail) rfl (by decide) long)

/-- The paths further down are longer, if a system call takes them at all. -/
theorem tooLong_or_unencodable (d b : Path) (above : d.Above b) (long : TooLong (configPath d).text) :
    TooLong (configPath b).text ∨ ∃ f, pathBytes (configPath b).text = .error f := by
  cases taken : pathBytes (configPath b).text with
  | error f => exact Or.inr ⟨f, rfl⟩
  | ok bytes =>
      obtain ⟨same, more, parts⟩ := above
      let q : Path := ⟨[], more⟩
      have below : configPath b = d.within (configPath q) := by
        rw [within_configPath d q rfl]
        exact congrArg configPath (by cases b; cases same; cases parts; rfl)
      rw [below, Path.text_within d _ rfl (parts_configPath q)] at taken ⊢
      rw [text_configPath] at long
      obtain ⟨-, back, -, tail, -⟩ := (pathBytes_append _ _ _).mp taken
      refine Or.inl (tooLong_append _ _ _ back tail ?_ long)
      obtain ⟨-, rfl, -⟩ := (pathBytes_eq_ok_iff _ _).mp tail
      rw [text_configPath, nameBytes, nameBytes, List.flatMap_append, List.length_append]
      exact Nat.le_add_left _ _

section
variable (h : Host)

theorem stops_of_tooLong (d : Path) (long : TooLong (configPath d).text) :
    Stops h d (.nameTooLong (configPath d).text) := by
  refine .own (.nameTooLong (configPath d).text) ?_
  unfold Host.exists? exists?
  rw [lookup_of_long h.disk h.directory _ long]
  rfl

theorem passes_of_unencodable (d : Path) (f : Fault)
    (refused : pathBytes (configPath d).text = .error f) : Passes h d := by
  have nothing (path : Text) (f : Fault) (refused : pathBytes path = .error f) :
      h.exists? path = .ok false := by
    unfold Host.exists? exists? lookup
    rw [refused]
    simp [bind, Except.bind, isValue_of_pathBytes path f refused]
  refine .bare (nothing _ f refused) ?_
  cases taken : pathBytes (projectPath d).text with
  | error f' => exact nothing _ f' taken
  | ok bytes =>
      rw [text_projectPath] at taken
      obtain ⟨front, -, lead, -, -⟩ := (pathBytes_append _ _ _).mp taken
      have also : pathBytes (d.lead ++ ownTail) = .ok (front ++ nameBytes ownTail) :=
        (pathBytes_append _ _ _).mpr ⟨front, _, lead, rfl, rfl⟩
      rw [text_configPath, also] at refused
      cases refused

/-- A search does not get past a directory whose config file is too long to be looked at. -/
theorem findIn_of_tooLong (before after : List Path) (d : Path) (below : ∀ b ∈ before, d.Above b)
    (long : TooLong (configPath d).text) (records : List Record) : ∃ t,
    ((findIn h (before ++ d :: after)).runFrom records).1 = .error (.fault (.nameTooLong t)) := by
  induction before generalizing records with
  | nil =>
      rw [List.nil_append, findIn_of_stops h d after records _ (stops_of_tooLong h d long)]
      exact ⟨_, rfl⟩
  | cons b others ih =>
      have down := below b List.mem_cons_self
      rw [List.cons_append]
      rcases tooLong_or_unencodable d b down long with also | ⟨f, refused⟩
      · rw [findIn_of_stops h b _ records _ (stops_of_tooLong h b also)]
        exact ⟨_, rfl⟩
      · obtain ⟨notes, run⟩ :=
          findIn_of_passes h b (others ++ d :: after) records (passes_of_unencodable h b f refused)
        rw [run]
        exact ih (fun b member => below b (List.mem_cons_of_mem _ member)) _

end

/-! ## One directory under two paths -/

/-- A directory that is named from the working directory, with config files that are not too long to
be looked at behind it. -/
structure Nearby (h : Host) (d : Path) : Prop where
  plain : d.Plain
  relative : d.isAbsolute = false
  fits : ¬ TooLong (configPath (h.directory.within d)).text

section
variable (h : Host) (works : h.disk.WorksIn h.directory)
include works

theorem sameFile_within (p : Path) (plain : p.Plain) (relative : p.isAbsolute = false)
    (named : p.parts ≠ []) (fits : ¬ TooLong (h.directory.within p).text) :
    SameFile h p.text h (h.directory.within p).text :=
  have alike := h.disk.lookup_within h.directory works p plain relative named fits
  ⟨fun b => h.disk.exists?_alike h.directory _ _ b alike, fun bytes => content_alike h _ _ bytes alike⟩

theorem sameConfigs_within (d : Path) (nearby : Nearby h d) :
    SameConfigs h d h (h.directory.within d) := by
  obtain ⟨plain, relative, fits⟩ := nearby
  have fits_project := fits_projectPath _ fits
  constructor
  · rw [← within_configPath _ d relative] at fits ⊢
    exact sameFile_within h works _ (plain_configPath d plain) relative (parts_configPath d) fits
  · rw [← within_projectPath _ d relative] at fits_project ⊢
    exact sameFile_within h works _ (plain_projectPath d plain) relative (parts_projectPath d)
      fits_project

end

theorem nearby_of_mem_chain (h : Host) (start : Path) (plain : start.Plain)
    (relative : start.isAbsolute = false)
    (fits : ∀ d : Path, d.Above (h.directory.within start) → ¬ TooLong (configPath d).text) :
    ∀ d ∈ start.chain, Nearby h d := by
  intro d member
  obtain ⟨same, shorter⟩ := (Path.mem_chain_iff start d).mp member
  have relative' : d.isAbsolute = false := by
    rw [Path.isAbsolute, same]
    exact relative
  refine ⟨⟨same ▸ plain.root, fun part member => plain.parts part (shorter.subset member)⟩,
    relative', fits _ ?_⟩
  unfold Path.within
  rw [relative, relative', if_neg Bool.false_ne_true, if_neg Bool.false_ne_true]
  exact ⟨rfl, (List.prefix_append_right_inj _).mpr shorter⟩

/-! ## Two searches -/

theorem findIn_fst (h : Host) (chain : List Path) (records : List Record) :
    ((findIn h chain).runFrom records).1 = ((findIn h chain).runFrom []).1 := by
  rcases passes_or_reaches h chain with passed | ⟨d, reaches, ⟨p, finds⟩ | ⟨f, stops⟩⟩
  · rw [findIn_of_passed h chain _ passed, findIn_of_passed h chain _ passed]
  · rw [findIn_of_reaches_finds h chain _ d p reaches finds,
      findIn_of_reaches_finds h chain _ d p reaches finds]
  · rw [findIn_of_reaches_stops h chain _ d f reaches stops,
      findIn_of_reaches_stops h chain _ d f reaches stops]

theorem exists?_of_finds (h : Host) (d p : Path) (finds : Finds h d p) :
    h.exists? p.text = .ok true := by
  cases finds with
  | own there => exact there
  | project asks => exact asks.there

/-- How a search that ends at the working directory compares with one that goes on above it: a file
found by the first is found by the second as well, at the same place; after a first one without
result the second is a search through the directories above; and a fault ends both. -/
inductive GoesOn (h : Host) : Except Error (Option Path) → Except Error (Option Path) → Prop where
  | found (p : Path) (l : Location) (e : DiskEntry)
      (here : h.disk.lookup h.directory p.text = .ok (.found l e))
      (also : h.disk.lookup h.directory (h.directory.within p).text = .ok (.found l e)) :
      GoesOn h (.ok (some p)) (.ok (some (h.directory.within p)))
  | above : GoesOn h (.ok none) ((findIn h h.directory.chain.tail).runFrom []).1
  | stopped (e e' : Error) : GoesOn h (.error e) (.error e')

/-- Where the directories above offer nothing, both find the same file or none. -/
theorem GoesOn.found_iff (h : Host) (near full : Except Error (Option Path))
    (goesOn : GoesOn h near full) (nothing : ∀ d ∈ h.directory.chain.tail, Passes h d) (p : Path) :
    full = .ok (some p) ↔ ∃ q, near = .ok (some q) ∧ h.directory.within q = p := by
  cases goesOn with
  | found q l e here also =>
      constructor
      · rintro ⟨⟩
        exact ⟨q, rfl, rfl⟩
      · rintro ⟨_, ⟨⟩, rfl⟩
        rfl
  | above =>
      rw [findIn_of_passed h _ _ nothing]
      constructor
      · nofun
      · rintro ⟨_, ⟨⟩, -⟩
  | stopped e e' =>
      constructor
      · nofun
      · rintro ⟨_, ⟨⟩, -⟩

section
variable (h : Host) (works : h.disk.WorksIn h.directory)
include works

theorem goesOn_of_there (p : Path) (plain : p.Plain) (relative : p.isAbsolute = false)
    (named : p.parts ≠ []) (fits : ¬ TooLong (h.directory.within p).text)
    (there : h.exists? p.text = .ok true) :
    GoesOn h (.ok (some p)) (.ok (some (h.directory.within p))) := by
  obtain ⟨l, e, here⟩ := h.disk.lookup_of_exists h.directory _ there
  have alike := h.disk.lookup_within h.directory works p plain relative named fits
  rw [here] at alike
  exact .found p l e here alike.eq_of_leads

theorem finds_within (d p : Path) (nearby : Nearby h d) (finds : Finds h d p) :
    Finds h (h.directory.within d) (h.directory.within p) ∧
      GoesOn h (.ok (some p)) (.ok (some (h.directory.within p))) := by
  have there := exists?_of_finds h d p finds
  have same := sameConfigs_within h works d nearby
  obtain ⟨plain, relative, fits⟩ := nearby
  rcases same.finds h h d _ p finds with ⟨rfl, finds'⟩ | ⟨rfl, finds'⟩
  · rw [← within_configPath _ d relative] at finds' fits
    exact ⟨finds', goesOn_of_there h works _ (plain_configPath d plain) relative
      (parts_configPath d) fits there⟩
  · have fits_project := fits_projectPath _ fits
    rw [← within_projectPath _ d relative] at finds' fits_project
    exact ⟨finds', goesOn_of_there h works _ (plain_projectPath d plain) relative
      (parts_projectPath d) fits_project there⟩

section
variable (chain above : List Path) (nearby : ∀ d ∈ chain, Nearby h d)
include nearby

theorem passes_within (passed : ∀ d ∈ chain, Passes h d) :
    ∀ d ∈ chain.map h.directory.within, Passes h d :=
  List.forall_mem_map.mpr fun d member =>
    (sameConfigs_within h works d (nearby d member)).passes h h d _ (passed d member)

theorem reaches_within (d : Path) (reaches : Reaches h chain d) : Nearby h d ∧
    Reaches h (chain.map h.directory.within ++ above) (h.directory.within d) := by
  obtain ⟨before, after, rfl, passed⟩ := reaches
  obtain ⟨nearby_before, nearby_after⟩ := List.forall_mem_append.mp nearby
  refine ⟨nearby_after d List.mem_cons_self, before.map h.directory.within,
    after.map h.directory.within ++ above, by simp, ?_⟩
  exact passes_within h works before nearby_before passed

/-- A search goes through directories behind the working directory as it goes through them from
there, and then on. -/
theorem goesOn_findIn (onward : above = h.directory.chain.tail) :
    GoesOn h ((findIn h chain).runFrom []).1
      ((findIn h (chain.map h.directory.within ++ above)).runFrom []).1 := by
  rcases passes_or_reaches h chain with passed | ⟨d, reaches, ends⟩
  · obtain ⟨notes, run⟩ :=
      findIn_of_passes_all h _ above (passes_within h works chain nearby passed) []
    rw [findIn_of_passed h _ _ passed, run, findIn_fst, onward]
    exact .above
  · obtain ⟨nearby_d, reaches'⟩ := reaches_within h works chain above nearby d reaches
    rcases ends with ⟨p, finds⟩ | ⟨f, stops⟩
    · obtain ⟨finds', goesOn⟩ := finds_within h works d p nearby_d finds
      rw [findIn_of_reaches_finds h _ _ d p reaches finds,
        findIn_of_reaches_finds h _ _ _ _ reaches' finds']
      exact goesOn
    · obtain ⟨f', stops'⟩ :=
        (sameConfigs_within h works d nearby_d).stops h h d _ f stops
      rw [findIn_of_reaches_stops h _ _ d f reaches stops,
        findIn_of_reaches_stops h _ _ _ f' reaches' stops']
      exact .stopped _ _

end
end

theorem outcome_findConfig_text (h : Host) (start : Text) (named : start ≠ []) :
    (findConfig h (.text start)).outcome = (findIn h (Path.ofText start).chain).runFrom [] := by
  refine outcome_findConfig h _ _ ?_
  unfold startDirectory
  rw [if_neg (by simpa [Value.isTrue] using named)]

theorem outcome_findConfig_path (h : Host) (p : Path) (plain : p.Plain)
    (absolute : p.isAbsolute = true) :
    (findConfig h (.text p.text)).outcome = (findIn h p.chain).runFrom [] := by
  have read := Path.ofText_text p plain
  have named : p.text ≠ [] := by
    intro empty
    rw [empty] at read
    rw [← read] at absolute
    cases absolute
  rw [outcome_findConfig_text h _ named, read]

/-- A search from a relative start sees the files that a search from the same start behind the working
directory sees, and ends where that one goes on above the working directory. Only paths too long for
the system tell them apart before that. Without a start, and with an empty one, a search starts in
the working directory spelled from the root. -/
theorem relative_search_ends_at_working_directory (h : Host) (works : h.disk.WorksIn h.directory)
    (start : Text) (relative : (Path.ofText start).isAbsolute = false) :
    let behind := h.directory.within (.ofText start)
    let near := (findConfig h (.text start)).outcome.1
    let full := (findConfig h (.text behind.text)).outcome.1
    (start ≠ [] → (∀ d : Path, d.Above behind → ¬ TooLong (configPath d).text) →
      GoesOn h near full ∧ ((∀ d ∈ h.directory.chain.tail, Passes h d) →
        ∀ p, full = .ok (some p) ↔ ∃ q, near = .ok (some q) ∧ h.directory.within q = p)) ∧
    (∀ d : Path, d.Above behind → TooLong (configPath d).text →
      ∃ t, full = .error (.fault (.nameTooLong t))) ∧
    (start = [] → near = full) ∧
    (findConfig h .null).outcome.1 = (findConfig h (.text h.directory.text)).outcome.1 := by
  intro behind near full
  have plain := Path.plain_ofText start
  have behind_plain := h.directory.plain_within _ works.plain plain relative
  have behind_absolute : behind.isAbsolute = true := by
    simp only [behind, Path.within, relative, Bool.false_eq_true, if_false]
    exact works.absolute
  have full_run : full = ((findIn h behind.chain).runFrom []).1 :=
    congrArg Prod.fst (outcome_findConfig_path h behind behind_plain behind_absolute)
  have here := outcome_findConfig h .null h.directory rfl
  have here_text := outcome_findConfig_path h h.directory works.plain works.absolute
  refine ⟨fun named fits => ?_, fun d above long => ?_, ?_, by rw [here, here_text]⟩
  · have near_run : near = ((findIn h (Path.ofText start).chain).runFrom []).1 :=
      congrArg Prod.fst (outcome_findConfig_text h start named)
    have goesOn : GoesOn h near full := by
      have nearby := nearby_of_mem_chain h _ plain relative fits
      rw [near_run, full_run, h.directory.chain_within _ relative]
      exact goesOn_findIn h works _ _ nearby rfl
    exact ⟨goesOn, goesOn.found_iff⟩
  · obtain ⟨before, after, split⟩ := List.append_of_mem ((Path.mem_chain_iff behind d).mpr above)
    have order := behind.pairwise_chain
    rw [split, List.pairwise_append] at order
    rw [full_run, split]
    exact findIn_of_tooLong h before after d
      (fun b earlier => (order.2.2 b earlier d List.mem_cons_self).1) long []
  · rintro rfl
    have stays : behind = h.directory := by
      have none : behind = ⟨h.directory.root, h.directory.parts ++ []⟩ := rfl
      rw [none, List.append_nil]
    rw [full_run, stays]
    exact congrArg Prod.fst here

/-- The working directory is `/a`, with a config file, and a search starts in its directory `b`. -/
theorem relative_search_ends_at_working_directory_in_directory_below :
    let a : Bytes := nameBytes "a"
    let settings : Bytes := nameBytes ".digestkit"
    let h : Host := { onFiles [([a], .directory), ([a, nameBytes "b"], .directory),
      ([a, settings], .directory), ([a, settings, nameBytes "config.toml"], .file [])] with
      directory := .ofText "/a" }
    h.disk.WorksIn h.directory ∧ (Path.ofText "b").isAbsolute = false ∧
      (∀ d : Path, d.Above (.ofText "/a/b") → ¬ TooLong (configPath d).text) ∧
      GoesOn h (findConfig h (.text "b")).outcome.1 (findConfig h (.text "/a/b")).outcome.1 ∧
      (findConfig h (.text "b")).outcome.1 = .ok (some (.ofText ".digestkit/config.toml")) ∧
      (findConfig h (.text "/a/b")).outcome.1 = .ok (some (.ofText "/a/.digestkit/config.toml")) := by
  intro a settings h
  have works : h.disk.WorksIn h.directory :=
    ⟨Path.plain_ofText "/a", rfl, _, rfl, rfl⟩
  have relative : (Path.ofText "b").isAbsolute = false := rfl
  have fits : ∀ d : Path, d.Above (.ofText "/a/b") → ¬ TooLong (configPath d).text := by
    intro d above
    have chain : (Path.ofText "/a/b").chain = [.ofText "/a/b", .ofText "/a", .ofText "/"] := rfl
    have member := (Path.mem_chain_iff _ d).mpr above
    rw [chain] at member
    simp only [List.mem_cons, List.not_mem_nil, or_false] at member
    rintro ⟨bytes, taken, long⟩
    obtain ⟨-, rfl, -⟩ := (pathBytes_eq_ok_iff _ _).mp taken
    rcases member with rfl | rfl | rfl <;> exact absurd long (by decide)
  exact ⟨works, relative, fits,
    ((relative_search_ends_at_working_directory h works "b" relative).1 (by decide) fits).1, rfl, rfl⟩

/-- Above the working directory `/a` lies a config file. A search without a start finds it, as one
from `/a` does, and a search from `.` does not. -/
theorem search_from_dot_misses_config_above :
    let a : Bytes := nameBytes "a"
    let settings : Bytes := nameBytes ".digestkit"
    let h : Host := { onFiles [([a], .directory), ([settings], .directory),
      ([settings, nameBytes "config.toml"], .file [])] with directory := .ofText "/a" }
    h.disk.WorksIn h.directory ∧ (findConfig h (.text ".")).outcome.1 = .ok none ∧
      (findConfig h .null).outcome.1 = .ok (some (.ofText "/.digestkit/config.toml")) ∧
      (findConfig h (.text (h.directory.within (.ofText ".")).text)).outcome.1 =
        .ok (some (.ofText "/.digestkit/config.toml")) :=
  ⟨⟨Path.plain_ofText "/a", rfl, _, rfl, rfl⟩, rfl, rfl, rfl⟩

end Settings
end Fingerprint
