import Fingerprint.Proofs.Diagnosis
import Fingerprint.Proofs.Disk.Erasing
import Fingerprint.Proofs.Settings.Content

/-! # Where a search for a config file ends

In each directory a search does one of three things: it passes the directory (`Passes`), finds a
file there (`Finds`), or stops with a fault (`Stops`). It ends in the first directory that it does
not pass (`findIn_eq_found_iff`, `findIn_eq_error_iff`). A project file whose content is useless to
it, because it is no TOML or holds nothing for this program, is never what a search ends at, and
the search ends as it would without that file. -/
set_option autoImplicit false
namespace Fingerprint.Settings

def projectPath (directory : Path) : Path := directory.child projectFileName

theorem name_projectPath (directory : Path) : (projectPath directory).name = projectFileName := by
  simp [projectPath, Path.child, Path.name]

/-- A project file that is no TOML, or that holds nothing for this program. -/
inductive Useless (bytes : Bytes) : Prop where
  | malformed (detail : Text) (malformed : Malformed bytes detail) : Useless bytes
  | unused (v : Value) (gives : Gives projectFileName bytes v) (empty : v.isTrue = false) :
      Useless bytes

def NoOwn (h : Host) (directory : Path) : Prop :=
  h.exists? (configPath directory).text = .ok false

/-- The directory has no config file of its own, and something in the place of a project file. -/
structure Asks (h : Host) (directory : Path) : Prop where
  noOwn : NoOwn h directory
  there : h.exists? (projectPath directory).text = .ok true

inductive Passes (h : Host) (directory : Path) : Prop where
  | bare (noOwn : NoOwn h directory)
      (noProject : h.exists? (projectPath directory).text = .ok false) : Passes h directory
  | unreadable (asks : Asks h directory) (f : Fault)
      (refused : h.content (projectPath directory).text = .error f) : Passes h directory
  | useless (asks : Asks h directory) (bytes : Bytes)
      (content : h.content (projectPath directory).text = .ok bytes) (useless : Useless bytes) :
      Passes h directory

inductive Finds (h : Host) (directory : Path) : Path → Prop where
  | own (there : h.exists? (configPath directory).text = .ok true) :
      Finds h directory (configPath directory)
  | project (asks : Asks h directory) (bytes : Bytes)
      (content : h.content (projectPath directory).text = .ok bytes) (v : Value)
      (gives : Gives projectFileName bytes v) (used : v.isTrue = true) :
      Finds h directory (projectPath directory)

/-- A search stops at a name that is too long to be looked at, and at a project file whose content
ends the operation. -/
inductive Stops (h : Host) (directory : Path) : Fault → Prop where
  | own (f : Fault) (long : h.exists? (configPath directory).text = .error f) :
      Stops h directory (.nameTooLong (configPath directory).text)
  | project (noOwn : NoOwn h directory) (f : Fault)
      (long : h.exists? (projectPath directory).text = .error f) :
      Stops h directory (.nameTooLong (projectPath directory).text)
  | content (asks : Asks h directory) (bytes : Bytes)
      (content : h.content (projectPath directory).text = .ok bytes) (f : Fault)
      (escapes : Escapes projectFileName bytes f) : Stops h directory f

/-! ## One directory -/

section
variable (h : Host) (directory : Path)

omit directory in
theorem isDirectory_of_refused (path : Text) (there : h.exists? path = .ok true) (f : Fault)
    (refused : h.content path = .error f) : f = .isDirectory path := by
  obtain ⟨l, e, found⟩ := h.disk.lookup_of_exists h.directory _ there
  unfold Host.content Disk.source at refused
  rw [found] at refused
  cases e with
  | file bytes => cases refused
  | directory =>
      cases refused
      rfl

theorem directory_cases :
    Passes h directory ∨ (∃ p, Finds h directory p) ∨ ∃ f, Stops h directory f := by
  cases own : h.exists? (configPath directory).text with
  | error f => exact Or.inr (Or.inr ⟨_, .own f own⟩)
  | ok there =>
      cases there with
      | true => exact Or.inr (Or.inl ⟨_, .own own⟩)
      | false =>
          cases project : h.exists? (projectPath directory).text with
          | error f => exact Or.inr (Or.inr ⟨_, .project own f project⟩)
          | ok there =>
              cases there with
              | false => exact Or.inl (.bare own project)
              | true =>
                  have asks : Asks h directory := ⟨own, project⟩
                  cases content : h.content (projectPath directory).text with
                  | error f => exact Or.inl (.unreadable asks f content)
                  | ok bytes =>
                      rcases content_cases bytes projectFileName with
                        ⟨v, gives⟩ | ⟨detail, malformed⟩ | ⟨f, escapes⟩
                      · by_cases used : v.isTrue = true
                        · exact Or.inr (Or.inl ⟨_, .project asks bytes content v gives used⟩)
                        · have empty : v.isTrue = false := Bool.eq_false_iff.mpr used
                          exact Or.inl (.useless asks bytes content (.unused v gives empty))
                      · exact Or.inl (.useless asks bytes content (.malformed detail malformed))
                      · exact Or.inr (Or.inr ⟨f, .content asks bytes content f escapes⟩)

variable (rest : List Path) (records : List Record)

theorem findIn_of_noOwn (noOwn : NoOwn h directory) :
    (findIn h (directory :: rest)).runFrom records =
      match h.exists? (projectPath directory).text with
      | .error f => (.error (.fault f), records)
      | .ok false => (findIn h rest).runFrom records
      | .ok true => match readConfig h (projectPath directory) with
        | .ok v =>
          if v.isTrue then (.ok (some (projectPath directory)), records)
          else (findIn h rest).runFrom records
        | .error (.unreadable f) =>
          (findIn h rest).runFrom (records ++ [skipping (projectPath directory) f.text])
        | .error (.malformed detail) =>
          (findIn h rest).runFrom (records ++ [skipping (projectPath directory) detail])
        | .error (.escaping f) => (.error (.fault f), records) := by
  rw [findIn, Diagnosed.runFrom_ofFault_bind, noOwn]
  simp only [Bool.false_eq_true, if_false, Diagnosed.runFrom_ofFault_bind]
  unfold projectPath
  cases h.exists? (directory.child projectFileName).text with
  | error f => rfl
  | ok there =>
      cases there with
      | false => rfl
      | true =>
          dsimp only
          rw [if_pos rfl]
          cases readConfig h (directory.child projectFileName) with
          | ok v =>
              dsimp only
              split <;> rfl
          | error fault => cases fault <;> rfl

theorem findIn_of_asks (asks : Asks h directory) :
    (findIn h (directory :: rest)).runFrom records =
      match readConfig h (projectPath directory) with
      | .ok v =>
        if v.isTrue then (.ok (some (projectPath directory)), records)
        else (findIn h rest).runFrom records
      | .error (.unreadable f) =>
        (findIn h rest).runFrom (records ++ [skipping (projectPath directory) f.text])
      | .error (.malformed detail) =>
        (findIn h rest).runFrom (records ++ [skipping (projectPath directory) detail])
      | .error (.escaping f) => (.error (.fault f), records) := by
  rw [findIn_of_noOwn h directory rest records asks.noOwn, asks.there]

theorem findIn_of_passes (passes : Passes h directory) : ∃ notes,
    (findIn h (directory :: rest)).runFrom records = (findIn h rest).runFrom (records ++ notes) := by
  cases passes with
  | bare noOwn noProject =>
      refine ⟨[], ?_⟩
      rw [findIn_of_noOwn h directory rest records noOwn, noProject, List.append_nil]
  | unreadable asks f refused =>
      have kind := isDirectory_of_refused h _ asks.there f refused
      subst kind
      refine ⟨[skipping (projectPath directory) (Fault.isDirectory (projectPath directory).text).text],
        ?_⟩
      rw [findIn_of_asks h directory rest records asks, readConfig, refused]
      rfl
  | useless asks bytes content useless =>
      rw [findIn_of_asks h directory rest records asks]
      cases useless with
      | malformed detail malformed =>
          rw [readConfig_of_malformed h _ bytes content detail malformed]
          exact ⟨_, rfl⟩
      | unused v gives empty =>
          rw [← name_projectPath directory] at gives
          rw [readConfig_of_gives h _ bytes content v gives]
          refine ⟨[], ?_⟩
          rw [List.append_nil]
          exact if_neg (Bool.eq_false_iff.mp empty)

theorem findIn_of_finds (p : Path) (finds : Finds h directory p) :
    (findIn h (directory :: rest)).runFrom records = (.ok (some p), records) := by
  cases finds with
  | own there =>
      rw [findIn, Diagnosed.runFrom_ofFault_bind, there]
      rfl
  | project asks bytes content v gives used =>
      rw [← name_projectPath directory] at gives
      rw [findIn_of_asks h directory rest records asks,
        readConfig_of_gives h _ bytes content v gives]
      exact if_pos used

theorem findIn_of_stops (f : Fault) (stops : Stops h directory f) :
    (findIn h (directory :: rest)).runFrom records = (.error (.fault f), records) := by
  cases stops with
  | own f long =>
      have kind := h.disk.error_of_exists h.directory _ f long
      subst kind
      rw [findIn, Diagnosed.runFrom_ofFault_bind, long]
  | project noOwn f long =>
      have kind := h.disk.error_of_exists h.directory _ f long
      subst kind
      rw [findIn_of_noOwn h directory rest records noOwn, long]
  | content asks bytes content f escapes =>
      rw [← name_projectPath directory] at escapes
      rw [findIn_of_asks h directory rest records asks,
        readConfig_of_escapes h _ bytes content f escapes]

end

/-! ## A chain of directories -/

section
variable (h : Host)

def Reaches (chain : List Path) (directory : Path) : Prop :=
  ∃ before after, chain = before ++ directory :: after ∧ ∀ d ∈ before, Passes h d

theorem findIn_of_passes_all (before rest : List Path) (passed : ∀ d ∈ before, Passes h d)
    (records : List Record) : ∃ notes,
    (findIn h (before ++ rest)).runFrom records = (findIn h rest).runFrom (records ++ notes) := by
  induction before generalizing records with
  | nil => exact ⟨[], by rw [List.append_nil]; rfl⟩
  | cons d others ih =>
      have first := passed d (List.mem_cons_self ..)
      have later : ∀ d ∈ others, Passes h d := fun d member => passed d (List.mem_cons_of_mem _ member)
      obtain ⟨notes, here⟩ := findIn_of_passes h d (others ++ rest) records first
      obtain ⟨further, there⟩ := ih later (records ++ notes)
      refine ⟨notes ++ further, ?_⟩
      rw [List.cons_append, here, there, List.append_assoc]

theorem passes_or_reaches (chain : List Path) : (∀ d ∈ chain, Passes h d) ∨
    ∃ d, Reaches h chain d ∧ ((∃ p, Finds h d p) ∨ ∃ f, Stops h d f) := by
  induction chain with
  | nil => exact Or.inl (by simp)
  | cons d rest ih =>
      rcases directory_cases h d with passes | ends
      · rcases ih with all | ⟨d', ⟨before, after, rfl, passed⟩, ends⟩
        · refine Or.inl fun d' member => ?_
          rcases List.mem_cons.mp member with rfl | later
          · exact passes
          · exact all d' later
        · refine Or.inr ⟨d', ⟨d :: before, after, rfl, ?_⟩, ends⟩
          intro d'' member
          rcases List.mem_cons.mp member with rfl | earlier
          · exact passes
          · exact passed d'' earlier
      · exact Or.inr ⟨d, ⟨[], rest, rfl, by simp⟩, ends⟩

variable (chain : List Path) (records : List Record)

theorem findIn_of_reaches_finds (d p : Path) (reaches : Reaches h chain d) (finds : Finds h d p) :
    ((findIn h chain).runFrom records).1 = .ok (some p) := by
  obtain ⟨before, after, rfl, passed⟩ := reaches
  obtain ⟨notes, run⟩ := findIn_of_passes_all h before (d :: after) passed records
  rw [run, findIn_of_finds h d after _ p finds]

theorem findIn_of_reaches_stops (d : Path) (f : Fault) (reaches : Reaches h chain d)
    (stops : Stops h d f) : ((findIn h chain).runFrom records).1 = .error (.fault f) := by
  obtain ⟨before, after, rfl, passed⟩ := reaches
  obtain ⟨notes, run⟩ := findIn_of_passes_all h before (d :: after) passed records
  rw [run, findIn_of_stops h d after _ f stops]

theorem findIn_of_passed (passed : ∀ d ∈ chain, Passes h d) :
    ((findIn h chain).runFrom records).1 = .ok none := by
  obtain ⟨notes, run⟩ := findIn_of_passes_all h chain [] passed records
  rw [List.append_nil] at run
  rw [run]
  rfl

theorem findIn_eq_found_iff (p : Path) : ((findIn h chain).runFrom records).1 = .ok (some p) ↔
    ∃ d, Reaches h chain d ∧ Finds h d p := by
  constructor
  · intro run
    rcases passes_or_reaches h chain with passed | ⟨d, reaches, ⟨p', finds⟩ | ⟨f, stops⟩⟩
    · rw [findIn_of_passed h chain records passed] at run
      cases run
    · rw [findIn_of_reaches_finds h chain records d p' reaches finds] at run
      cases run
      exact ⟨d, reaches, finds⟩
    · rw [findIn_of_reaches_stops h chain records d f reaches stops] at run
      cases run
  · rintro ⟨d, reaches, finds⟩
    exact findIn_of_reaches_finds h chain records d p reaches finds

theorem findIn_eq_error_iff (e : Error) : ((findIn h chain).runFrom records).1 = .error e ↔
    ∃ d f, Reaches h chain d ∧ Stops h d f ∧ e = .fault f := by
  constructor
  · intro run
    rcases passes_or_reaches h chain with passed | ⟨d, reaches, ⟨p, finds⟩ | ⟨f, stops⟩⟩
    · rw [findIn_of_passed h chain records passed] at run
      cases run
    · rw [findIn_of_reaches_finds h chain records d p reaches finds] at run
      cases run
    · rw [findIn_of_reaches_stops h chain records d f reaches stops] at run
      cases run
      exact ⟨d, f, reaches, stops, rfl⟩
  · rintro ⟨d, f, reaches, stops, rfl⟩
    exact findIn_of_reaches_stops h chain records d f reaches stops

theorem findIn_eq_none_iff : ((findIn h chain).runFrom records).1 = .ok none ↔
    ∀ d ∈ chain, Passes h d := by
  refine ⟨?_, findIn_of_passed h chain records⟩
  intro run
  rcases passes_or_reaches h chain with passed | ⟨d, reaches, ⟨p, finds⟩ | ⟨f, stops⟩⟩
  · exact passed
  · rw [findIn_of_reaches_finds h chain records d p reaches finds] at run
    cases run
  · rw [findIn_of_reaches_stops h chain records d f reaches stops] at run
    cases run

end
end Fingerprint.Settings
