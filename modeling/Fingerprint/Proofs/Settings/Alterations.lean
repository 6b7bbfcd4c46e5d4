import Fingerprint.Proofs.Settings.Loading

/-! # Altering the bookkeeping entries

Besides their sections settings have two bookkeeping entries, the config file and the error that it
met. One machine is an alteration of another when both differ only in such entries, of the
environment and of config files (`Altered`). Their environments then hold the same sections, their
searches end in the same place, and their readings differ in bookkeeping entries alone. -/
set_option autoImplicit false
namespace Fingerprint.Settings
open Diagnosed

def bookkeeping : List Text := ["config_file", "config_error"]

/-- Both tables hold the same, except under the names for bookkeeping. -/
def AlikeTables (es es' : Entries) : Prop := ∀ name, name ∉ bookkeeping → es'.get? name = es.get? name

namespace Environment

def plain (name : Text) : Bool := decide (name ∉ bookkeeping.map (variableStart ++ ·))

def withoutBookkeeping (vars : Variables) : Variables := vars.filter fun v => plain v.1.lower

theorem filter_put (keep : Text → Bool) (name v : Text) (kept : Variables) :
    (lowered.put name v kept).filter (fun e => keep e.1) =
      if keep name then lowered.put name v (kept.filter fun e => keep e.1)
      else kept.filter fun e => keep e.1 := by
  induction kept with
  | nil => by_cases keeps : keep name <;> simp [lowered.put, keeps]
  | cons head rest ih =>
      obtain ⟨n, w⟩ := head
      by_cases same : n = name
      · by_cases keeps : keep name <;> simp [lowered.put, same, keeps]
      · by_cases keeps : keep name
        · rw [if_pos keeps] at ih ⊢
          by_cases stays : keep n <;> simp [lowered.put, same, stays, ih]
        · rw [if_neg keeps] at ih ⊢
          by_cases stays : keep n <;> simp [lowered.put, same, stays, ih]

theorem filter_lowered (keep : Text → Bool) (vars : Variables) :
    (lowered vars).filter (fun e => keep e.1) = lowered (vars.filter fun v => keep v.1.lower) := by
  suffices general : ∀ kept : Variables,
      (vars.foldl (fun kept v => lowered.put v.1.lower v.2 kept) kept).filter (fun e => keep e.1) =
        (vars.filter fun v => keep v.1.lower).foldl
          (fun kept v => lowered.put v.1.lower v.2 kept) (kept.filter fun e => keep e.1) from
    general []
  induction vars with
  | nil => exact fun _ => rfl
  | cons head rest ih =>
      intro kept
      rw [List.foldl_cons, ih, filter_put]
      by_cases keeps : keep head.1.lower <;> simp [keeps]

theorem nested_filter (keep : Text → Bool) (vars : Variables) (start : Text)
    (foreign : ∀ name, keep name = false → name.startsWith start = false) :
    nested start (vars.filter fun e => keep e.1) = nested start vars := by
  rw [nested_eq, nested_eq]
  generalize ([] : Entries) = table
  induction vars generalizing table with
  | nil => rfl
  | cons head rest ih =>
      by_cases stays : keep head.1
      · simp [stays, ih]
      · have passed : nestEntry start table head = table := by
          rw [nestEntry, foreign head.1 (Bool.eq_false_iff.mpr stays)]
          rfl
        simp [stays, passed, ih]

theorem sectionValue?_plain (vars : Variables) (name : Text)
    (isSection : name ∈ [("digest" : Text), "logging"]) (known : List Text) :
    sectionValue? (vars.filter fun e => plain e.1) variableStart name known =
      sectionValue? vars variableStart name known := by
  simp only [List.mem_cons, List.not_mem_nil, or_false] at isSection
  have plainName : plain (variableStart ++ name) = true := by
    rcases isSection with rfl | rfl <;> decide
  have foreign : ∀ n, plain n = false → n.startsWith (variableStart ++ name ++ "__") = false := by
    intro n bookkeeps
    have member : n ∈ bookkeeping.map (variableStart ++ ·) := by simpa [plain] using bookkeeps
    simp only [bookkeeping, List.map_cons, List.map_nil, List.mem_cons, List.not_mem_nil,
      or_false] at member
    rcases isSection with rfl | rfl <;> rcases member with rfl | rfl <;> decide
  unfold sectionValue?
  have found := (lookup_filter_key plain vars _).trans (if_pos plainName)
  simp only [found, nested_filter plain vars _ foreign]

theorem sectionValue?_of_altered (vars vars' : Variables)
    (same : withoutBookkeeping vars' = withoutBookkeeping vars) (name : Text)
    (isSection : name ∈ [("digest" : Text), "logging"]) (known : List Text) :
    sectionValue? (lowered vars') variableStart name known =
      sectionValue? (lowered vars) variableStart name known := by
  have filtered : (lowered vars').filter (fun e => plain e.1) =
      (lowered vars).filter fun e => plain e.1 := by
    rw [filter_lowered, filter_lowered]
    exact congrArg lowered same
  rw [← sectionValue?_plain (lowered vars') name isSection, filtered,
    sectionValue?_plain (lowered vars) name isSection]

end Environment

theorem ofEnvironment_of_altered (environment environment' : Environment.Variables)
    (same : Environment.withoutBookkeeping environment' = Environment.withoutBookkeeping environment)
    (vars : Entries) (parsed : ofEnvironment environment = .ok vars) :
    ∃ vars', ofEnvironment environment' = .ok vars' ∧ AlikeTables vars vars' := by
  obtain ⟨digest, logging, file, error, rfl, ofDigest, ofLogging⟩ :=
    ofEnvironment_eq_ok environment vars parsed
  have altered := Environment.sectionValue?_of_altered environment environment' same
  rw [← altered "digest" (by simp)] at ofDigest
  rw [← altered "logging" (by simp)] at ofLogging
  have parses : ∃ vars', ofEnvironment environment' = .ok vars' := by
    unfold ofEnvironment
    simp only [ofDigest, ofLogging]
    exact ⟨_, rfl⟩
  obtain ⟨vars', parsed'⟩ := parses
  obtain ⟨digest', logging', file', error', rfl, ofDigest', ofLogging'⟩ :=
    ofEnvironment_eq_ok environment' vars' parsed'
  cases ofDigest.symm.trans ofDigest'
  cases ofLogging.symm.trans ofLogging'
  refine ⟨_, parsed', ?_⟩
  intro name plain
  simp only [bookkeeping, List.mem_cons, List.not_mem_nil, or_false, not_or] at plain
  obtain ⟨noFile, noError⟩ := plain
  simp only [Entries.get?_present_cons, Ne.symm noFile, Ne.symm noError, if_false]

/-! ## Config files -/

/-- What is read of a file on either machine: the same, or tables that are alike. -/
inductive AlikeReads : Except ConfigFault Value → Except ConfigFault Value → Prop where
  | same (read : Except ConfigFault Value) : AlikeReads read read
  | tables (es es' : Entries) (alike : AlikeTables es es') : AlikeReads (.ok (.dict es)) (.ok (.dict es'))

/-- A directory has the same config files on both machines, up to entries for bookkeeping; a project
file counts on both or on neither. -/
structure AlikeDirectory (h h' : Host) (d : Path) : Prop where
  own : h'.exists? (configPath d).text = h.exists? (configPath d).text
  project : h'.exists? (projectPath d).text = h.exists? (projectPath d).text
  ownReads : AlikeReads (readConfig h (configPath d)) (readConfig h' (configPath d))
  projectReads : AlikeReads (readConfig h (projectPath d)) (readConfig h' (projectPath d))
  counts : ∀ v v', readConfig h (projectPath d) = .ok v → readConfig h' (projectPath d) = .ok v' →
    v'.isTrue = v.isTrue

/-- The machines differ in entries for bookkeeping alone, as far as a loading can see. -/
structure Altered (h h' : Host) (named : Option Path) : Prop where
  directory : h'.directory = h.directory
  environment : Environment.withoutBookkeeping h'.environment =
    Environment.withoutBookkeeping h.environment
  file : ∀ p, named = some p → AlikeReads (readConfig h p) (readConfig h' p)
  search : named = none → ∀ d, AlikeDirectory h h' d

namespace Altered

theorem symm_tables (es es' : Entries) (alike : AlikeTables es es') : AlikeTables es' es :=
  fun name plain => (alike name plain).symm

theorem symm_reads (read read' : Except ConfigFault Value) (alike : AlikeReads read read') :
    AlikeReads read' read := by
  cases alike with
  | same => exact .same read
  | tables es es' alike => exact .tables es' es (symm_tables es es' alike)

theorem symm_directory (h h' : Host) (d : Path) (alike : AlikeDirectory h h' d) :
    AlikeDirectory h' h d where
  own := alike.own.symm
  project := alike.project.symm
  ownReads := symm_reads _ _ alike.ownReads
  projectReads := symm_reads _ _ alike.projectReads
  counts v v' read read' := (alike.counts v' v read' read).symm

theorem symm (h h' : Host) (named : Option Path) (altered : Altered h h' named) :
    Altered h' h named where
  directory := altered.directory.symm
  environment := altered.environment.symm
  file p same := symm_reads _ _ (altered.file p same)
  search none d := symm_directory h h' d (altered.search none d)

end Altered

section
variable (h h' : Host)

theorem findIn_of_alike (chain : List Path) (alike : ∀ d ∈ chain, AlikeDirectory h h' d)
    (records : List Record) : (findIn h' chain).runFrom records = (findIn h chain).runFrom records := by
  induction chain generalizing records with
  | nil => rfl
  | cons d rest ih =>
      have here := alike d List.mem_cons_self
      have later := ih fun d' member => alike d' (List.mem_cons_of_mem _ member)
      cases own : h.exists? (configPath d).text with
      | error f =>
          rw [findIn, findIn, runFrom_ofFault_bind, runFrom_ofFault_bind, here.own, own]
      | ok there =>
          cases there with
          | true =>
              rw [findIn, findIn, runFrom_ofFault_bind, runFrom_ofFault_bind, here.own, own]
              rfl
          | false =>
              rw [findIn_of_noOwn h d rest records own,
                findIn_of_noOwn h' d rest records (here.own.trans own), here.project]
              have reads := here.projectReads
              have counts := here.counts
              generalize readConfig h (projectPath d) = read at reads counts
              generalize readConfig h' (projectPath d) = read' at reads counts
              cases reads with
              | same => simp only [later]
              | tables es es' _ =>
                  have used : (Value.dict es').isTrue = (Value.dict es).isTrue := counts _ _ rfl rfl
                  simp only [later, used]

inductive AlikeReadings : Except Error ConfigReading → Except Error ConfigReading → Prop where
  | same (reading : Except Error ConfigReading) : AlikeReadings reading reading
  | tables (es es' : Entries) (file error : Option Text) (alike : AlikeTables es es') :
      AlikeReadings (.ok ⟨.dict es, file, error⟩) (.ok ⟨.dict es', file, error⟩)

theorem alikeReadings_of_file (p : Path) (start : Value)
    (reads : AlikeReads (readConfig h p) (readConfig h' p)) (records : List Record) :
    AlikeReadings ((readSettings h (some p) start).runFrom records).1
      ((readSettings h' (some p) start).runFrom records).1 := by
  cases read : readConfig h p with
  | error fault =>
      have read' : readConfig h' p = .error fault := by
        rw [read] at reads
        generalize readConfig h' p = other at reads
        cases reads
        rfl
      have same : (readSettings h' (some p) start).runFrom records =
          (readSettings h (some p) start).runFrom records := by
        unfold readSettings
        rw [runFrom_bind, runFrom_bind, runFrom_pure]
        simp only [read, read']
      rw [same]
      exact .same _
  | ok v =>
      rw [read] at reads
      cases read' : readConfig h' p with
      | error fault =>
          rw [read'] at reads
          cases reads
      | ok v' =>
          rw [readSettings_of_ok h start p records v read, readSettings_of_ok h' start p records v' read']
          rw [read'] at reads
          cases reads with
          | same => exact .same _
          | tables es es' alike => exact .tables es es' _ _ alike

theorem finds_of_findConfig (start : Value) (p : Path)
    (found : (findConfig h start).outcome.1 = .ok (some p)) : ∃ d, Finds h d p := by
  unfold findConfig at found
  rw [outcome_eq, runFrom_ofFault_bind] at found
  cases started : startDirectory h start with
  | error f =>
      rw [started] at found
      cases found
  | ok root =>
      rw [started] at found
      obtain ⟨d, -, finds⟩ := (findIn_eq_found_iff h root.chain [] p).mp found
      exact ⟨d, finds⟩

theorem AlikeDirectory.reads (d p : Path) (alike : AlikeDirectory h h' d) (finds : Finds h d p) :
    AlikeReads (readConfig h p) (readConfig h' p) := by
  cases finds with
  | own there => exact alike.ownReads
  | project asks bytes content v gives used => exact alike.projectReads

theorem alikeReadings_of_altered (named : Option Path) (start : Value)
    (altered : Altered h h' named) : AlikeReadings (readSettings h named start).outcome.1
      (readSettings h' named start).outcome.1 := by
  cases named with
  | some p => exact alikeReadings_of_file h h' p start (altered.file p rfl) []
  | none =>
      have alike := altered.search rfl
      have started : startDirectory h' start = startDirectory h start := by
        unfold startDirectory
        rw [altered.directory]
      have found : (findConfig h' start).runFrom [] = (findConfig h start).runFrom [] := by
        unfold findConfig
        rw [runFrom_ofFault_bind, runFrom_ofFault_bind, started]
        cases startDirectory h start with
        | error f => rfl
        | ok d => exact findIn_of_alike h h' d.chain (fun d _ => alike d) []
      rw [outcome_eq, outcome_eq, readSettings_searched, readSettings_searched, runFrom_bind,
        runFrom_bind, found]
      cases searched : (findConfig h start).runFrom [] with
      | mk result notes =>
          cases result with
          | error e => exact .same _
          | ok place =>
              cases place with
              | none => exact .same _
              | some p =>
                  obtain ⟨d, finds⟩ := finds_of_findConfig h start p (congrArg Prod.fst searched)
                  exact alikeReadings_of_file h h' p start ((alike d).reads h h' d p finds) notes

end
end Fingerprint.Settings
