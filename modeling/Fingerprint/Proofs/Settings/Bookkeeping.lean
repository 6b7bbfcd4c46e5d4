import Fingerprint.Proofs.Settings.Alterations
import Fingerprint.Proofs.Settings.Precedence

/-! # What the bookkeeping entries change

The config file and the error of settings are bookkeeping that a loading does after everything else.
Still both are entries like any other: settings that are made directly take them from the highest
source that has them, and a loading takes them first and then replaces them. So what the sources say
in these entries makes no difference to a loading as long as it fits, and makes the settings invalid
where it does not. -/
set_option autoImplicit false
namespace Fingerprint.Settings
open Diagnosed

/-- What the sources of a loading say in the entries for bookkeeping can be taken. -/
def BookkeepingFits (h : Host) (named : Option Path) (start : Value) : Prop :=
  ∀ vars toml file error, ofEnvironment h.environment = .ok vars →
    (readSettings h named start).outcome.1 = .ok ⟨.dict toml, file, error⟩ →
    ∀ name ∈ bookkeeping, Fits optionalText (top [vars, toml] name)

/-! ## What two sources come to -/

theorem field_ok_or_error (table : Entries) (name : Text) :
    (∃ text, field table name none optionalText = .ok text) ∨
      ∃ i, field table name none optionalText = .error [([name], i)] := by
  unfold field
  cases table.get? name with
  | none => exact Or.inl ⟨none, rfl⟩
  | some v =>
      cases read : optionalText v with
      | ok text => exact Or.inl ⟨text, by simp only [read, mapError_ok]⟩
      | error i => exact Or.inr ⟨i, by simp only [read, mapError_error]⟩

section
variable (vars toml : Entries) (dictionary : Dictionary vars)
include dictionary

theorem overlays_of_sources (name : Text) :
    Overlays [vars, toml] name ((Environment.merge toml vars).get? name) :=
  overlays_merge [vars] name vars toml dictionary (overlays_single name vars)

theorem combine_eq_ok_iff (s : Settings) :
    combine [] vars (.dict toml) = .ok s ↔ TakenFrom [vars, toml] s := by
  have opened : combine [] vars (.dict toml) =
      (ofEntries (Environment.merge toml vars)).mapError .invalid := rfl
  rw [opened, mapError_eq_ok_iff]
  exact ofEntries_eq_ok_iff_takenFrom _ _ (overlays_of_sources vars toml dictionary) s

theorem combine_of_misfit (name : Text) (member : name ∈ bookkeeping)
    (misfit : ¬ Fits optionalText (top [vars, toml] name)) :
    ∃ issues i, combine [] vars (.dict toml) = .error (.invalid issues) ∧ ([name], i) ∈ issues := by
  let merged := Environment.merge toml vars
  have refused : ∃ i, field merged name none optionalText = .error [([name], i)] := by
    rcases field_ok_or_error merged name with ⟨text, taken⟩ | refused
    · rw [field_eq_ok_iff_top _ _ (overlays_of_sources vars toml dictionary)] at taken
      exact absurd ((exists_takes_iff _ _ _).mp ⟨text, taken⟩) misfit
    · exact refused
  obtain ⟨i, failed⟩ := refused
  have invalid : ∃ all, ofEntries merged = .error all ∧ [([name], i)] ⊆ all := by
    apply ofEntries_of_invalid_part
    simp only [bookkeeping, List.mem_cons, List.not_mem_nil, or_false] at member
    rcases member with rfl | rfl
    · exact Or.inr (Or.inr (Or.inl failed))
    · exact Or.inr (Or.inr (Or.inr failed))
  obtain ⟨all, ends, among⟩ := invalid
  refine ⟨all, i, ?_, among (List.mem_singleton_self _)⟩
  have opened : combine [] vars (.dict toml) = (ofEntries merged).mapError .invalid := rfl
  rw [opened, ends]
  rfl

end

theorem table_of_combine (vars : Entries) (config : Value) (s : Settings)
    (combined : combine [] vars config = .ok s) : ∃ toml, config = .dict toml := by
  cases config with
  | dict toml => exact ⟨toml, rfl⟩
  | list vs =>
      by_cases empty : (Environment.merge vars []).isEmpty
      · simp [combine, overConfig, empty] at combined
      · simp [combine, overConfig, empty] at combined
  | _ => cases combined

/-! ## One loading -/

section
variable (h : Host) (named : Option Path) (start : Value)

theorem load_eq_ok_iff_combined (s : Settings) :
    (load h named start false).outcome.1 = .ok s ↔ ∃ vars config merged,
      ofEnvironment h.environment = .ok vars ∧
      (readSettings h named start).outcome.1 = .ok config ∧
      combine [] vars config.settings = .ok merged ∧ s = toldBy config merged := by
  constructor
  · intro loaded
    obtain ⟨vars, config, merged, parsed, read, merges, same⟩ :=
      (load_eq_ok_iff h named start s _).mp (Prod.ext loaded rfl)
    exact ⟨vars, config, merged, parsed, congrArg Prod.fst read, merges, same⟩
  · rintro ⟨vars, config, merged, parsed, read, merges, same⟩
    exact congrArg Prod.fst ((load_eq_ok_iff h named start s _).mpr
      ⟨vars, config, merged, parsed, Prod.ext read rfl, merges, same⟩)

theorem load_eq_ok_iff_lenient (strict : Bool) (s : Settings) :
    (load h named start strict).outcome.1 = .ok s ↔
      (load h named start false).outcome.1 = .ok s ∧ (strict = true → s.configError = none) := by
  cases strict with
  | false => simp
  | true =>
      rw [outcome_load_strict]
      rcases (load h named start false).outcome with ⟨e | from_, records⟩
      · simp
      · cases told : from_.configError with
        | none =>
            simp only [told, Except.ok.injEq, forall_const]
            constructor
            · rintro rfl
              exact ⟨rfl, told⟩
            · exact And.left
        | some reason =>
            simp only [told, reduceCtorEq, Except.ok.injEq, forall_const, false_iff]
            rintro ⟨rfl, clean⟩
            cases told.symm.trans clean

theorem load_of_lenient_error (strict : Bool) (e : Error)
    (fails : (load h named start false).outcome.1 = .error e) :
    (load h named start strict).outcome.1 = .error e := by
  cases strict with
  | false => exact fails
  | true =>
      rw [outcome_load_strict]
      cases ended : (load h named start false).outcome with
      | mk result records =>
          rw [ended] at fails
          cases fails
          rfl

theorem load_of_combined_error (vars : Entries) (config : ConfigReading) (e : Error)
    (parsed : ofEnvironment h.environment = .ok vars)
    (read : (readSettings h named start).outcome.1 = .ok config)
    (fails : combine [] vars config.settings = .error e) :
    (load h named start false).outcome.1 = .error e := by
  rw [outcome_load h named start vars parsed]
  cases ended : (readSettings h named start).outcome with
  | mk result records =>
      rw [ended] at read
      cases read
      simp only [fails]
      rfl

end

/-! ## Two loadings -/

section
variable (vars vars' toml toml' : Entries) (alikeVars : AlikeTables vars vars')
  (alikeToml : AlikeTables toml toml') (name : Text) (plain : name ∉ bookkeeping)
include alikeVars alikeToml plain

theorem top_of_alike : top [vars', toml'] name = top [vars, toml] name := by
  simp only [top, List.findSome?_cons, List.findSome?_nil, alikeVars name plain,
    alikeToml name plain]

theorem chosen_of_alike : chosen [vars', toml'] name = chosen [vars, toml] name := by
  funext field
  rw [chosen, chosen, top_of_alike vars vars' toml toml' alikeVars alikeToml name plain]
  simp only [choice, List.findSome?_cons, List.findSome?_nil, fieldOf, alikeVars name plain,
    alikeToml name plain]

end

theorem takenFrom_of_alike (vars vars' toml toml' : Entries) (alikeVars : AlikeTables vars vars')
    (alikeToml : AlikeTables toml toml') (s : Settings) (taken : TakenFrom [vars, toml] s)
    (file error : Option Text)
    (takesFile : Takes optionalText (top [vars', toml'] "config_file") none file)
    (takesError : Takes optionalText (top [vars', toml'] "config_error") none error) :
    TakenFrom [vars', toml'] { s with configFile := file, configError := error } := by
  have digest : ("digest" : Text) ∉ bookkeeping := by decide
  have logging : ("logging" : Text) ∉ bookkeeping := by decide
  refine ⟨?_, ?_, ?_, ?_, takesFile, takesError⟩
  · unfold TableOnTop
    rw [top_of_alike vars vars' toml toml' alikeVars alikeToml _ digest]
    exact taken.digestTable
  · rw [chosen_of_alike vars vars' toml toml' alikeVars alikeToml _ digest]
    exact taken.digest
  · unfold TableOnTop
    rw [top_of_alike vars vars' toml toml' alikeVars alikeToml _ logging]
    exact taken.loggingTable
  · rw [chosen_of_alike vars vars' toml toml' alikeVars alikeToml _ logging]
    exact taken.logging

section
variable (h h' : Host) (named : Option Path) (start : Value) (s : Settings)
  (altered : Altered h h' named) (loaded : (load h named start false).outcome.1 = .ok s)
include altered loaded

/-- Where a loading returns settings, the altered one has sources that are alike and told of the same
way. -/
theorem sources_of_altered : ∃ vars toml vars' toml' file error merged,
    ofEnvironment h'.environment = .ok vars' ∧
    (readSettings h' named start).outcome.1 = .ok ⟨.dict toml', file, error⟩ ∧
    AlikeTables vars vars' ∧ AlikeTables toml toml' ∧ TakenFrom [vars, toml] merged ∧
    s = { merged with configFile := file, configError := error } := by
  obtain ⟨vars, config, merged, parsed, read, merges, rfl⟩ :=
    (load_eq_ok_iff_combined h named start s).mp loaded
  obtain ⟨vars', parsed', alikeVars⟩ :=
    ofEnvironment_of_altered h.environment h'.environment altered.environment vars parsed
  have dictionary := (holds_of_ofEnvironment h.environment vars parsed).1
  obtain ⟨settings, file, error⟩ := config
  obtain ⟨toml, rfl⟩ := table_of_combine vars settings merged merges
  have taken := (combine_eq_ok_iff vars toml dictionary merged).mp merges
  have readings := alikeReadings_of_altered h h' named start altered
  rw [read] at readings
  generalize (readSettings h' named start).outcome.1 = reading' at readings ⊢
  cases readings with
  | same =>
      exact ⟨vars, toml, vars', toml, file, error, merged, parsed', rfl, alikeVars,
        fun _ _ => rfl, taken, rfl⟩
  | tables _ toml' _ _ alikeToml =>
      exact ⟨vars, toml, vars', toml', file, error, merged, parsed', rfl, alikeVars, alikeToml,
        taken, rfl⟩

theorem load_of_altered_fits (fits : BookkeepingFits h' named start) :
    (load h' named start false).outcome.1 = .ok s := by
  obtain ⟨vars, toml, vars', toml', file, error, merged, parsed', read', alikeVars, alikeToml, taken,
    rfl⟩ := sources_of_altered h h' named start s altered loaded
  have ofBookkeeping := fits vars' toml' file error parsed' read'
  obtain ⟨file', takesFile⟩ := (exists_takes_iff optionalText _ none).mpr
    (ofBookkeeping "config_file" (by simp [bookkeeping]))
  obtain ⟨error', takesError⟩ := (exists_takes_iff optionalText _ none).mpr
    (ofBookkeeping "config_error" (by simp [bookkeeping]))
  have taken' := takenFrom_of_alike vars vars' toml toml' alikeVars alikeToml merged taken file'
    error' takesFile takesError
  have dictionary := (holds_of_ofEnvironment h'.environment vars' parsed').1
  exact (load_eq_ok_iff_combined h' named start _).mpr ⟨vars', _, _, parsed', read',
    (combine_eq_ok_iff vars' toml' dictionary _).mpr taken', rfl⟩

theorem load_of_altered_misfits (misfits : ¬ BookkeepingFits h' named start) :
    ∃ name ∈ bookkeeping, ∃ issues i,
      (load h' named start false).outcome.1 = .error (.invalid issues) ∧ ([name], i) ∈ issues := by
  obtain ⟨vars, toml, vars', toml', file, error, merged, parsed', read', -⟩ :=
    sources_of_altered h h' named start s altered loaded
  have found : ∃ name ∈ bookkeeping, ¬ Fits optionalText (top [vars', toml'] name) := by
    refine Classical.byContradiction fun none => misfits ?_
    intro vars₂ toml₂ file₂ error₂ parsed₂ read₂ name member
    cases parsed'.symm.trans parsed₂
    cases read'.symm.trans read₂
    exact Classical.byContradiction fun misfit => none ⟨name, member, misfit⟩
  obtain ⟨name, member, misfit⟩ := found
  have dictionary := (holds_of_ofEnvironment h'.environment vars' parsed').1
  obtain ⟨issues, i, invalid, among⟩ := combine_of_misfit vars' toml' dictionary name member misfit
  exact ⟨name, member, issues, i,
    load_of_combined_error h' named start vars' _ _ parsed' read' invalid, among⟩

end

/-! ## Settings that are made directly -/

section
variable (h : Host) (vars toml : Entries) (file error : Option Text)
  (parsed : ofEnvironment h.environment = .ok vars)
  (read : (readSettings h none .null).outcome.1 = .ok ⟨.dict toml, file, error⟩)
include parsed read

theorem ofGiven_eq_ok_iff_takenFrom (given : Entries) (onTop : Dictionary given) (s : Settings) :
    (ofGiven h given).outcome.1 = .ok s ↔ TakenFrom [given, vars, toml] s := by
  have dictionary := (holds_of_ofEnvironment h.environment vars parsed).1
  have assembled :=
    assemble_of_read given h (.make none .null) vars parsed ⟨.dict toml, file, error⟩ read
  rw [outcome_ofGiven, assembled, ← combine_eq_ok_iff_takenFrom given vars toml onTop dictionary]
  cases combine given vars (.dict toml) with
  | error e => exact ⟨nofun, nofun⟩
  | ok s' => rfl

theorem ofGiven_eq_ok_iff (s : Settings) :
    (ofGiven h []).outcome.1 = .ok s ↔ TakenFrom [vars, toml] s := by
  rw [ofGiven_eq_ok_iff_takenFrom h vars toml file error parsed read [] Dictionary.nothing]
  exact takenFrom_nothing [vars, toml] s

end

/-- Settings that are made directly take the entries for bookkeeping from the highest source that has
them. What the sources say there makes no difference to a loading as long as it fits: it returns the
same settings or none. A loading that returned settings ends with invalid ones once an entry for
bookkeeping no longer fits. -/
theorem bookkeeping_changes_nothing_where_it_fits (h : Host) :
    (∀ vars toml file error, ofEnvironment h.environment = .ok vars →
      (readSettings h none .null).outcome.1 = .ok ⟨.dict toml, file, error⟩ →
      ∀ s, (ofGiven h []).outcome.1 = .ok s ↔ TakenFrom [vars, toml] s) ∧
    ∀ (h' : Host) (named : Option Path) (start : Value) (strict : Bool), Altered h h' named →
      (BookkeepingFits h named start → BookkeepingFits h' named start → ∀ s,
        (load h named start strict).outcome.1 = .ok s ↔
          (load h' named start strict).outcome.1 = .ok s) ∧
      ∀ s, (load h named start strict).outcome.1 = .ok s → ¬ BookkeepingFits h' named start →
        ∃ name ∈ bookkeeping, ∃ issues i,
          (load h' named start strict).outcome.1 = .error (.invalid issues) ∧
          ([name], i) ∈ issues := by
  constructor
  · intro vars toml file error parsed read s
    exact ofGiven_eq_ok_iff h vars toml file error parsed read s
  intro h' named start strict altered
  constructor
  · intro fits fits' s
    rw [load_eq_ok_iff_lenient h, load_eq_ok_iff_lenient h']
    constructor
    · rintro ⟨loaded, clean⟩
      exact ⟨load_of_altered_fits h h' named start s altered loaded fits', clean⟩
    · rintro ⟨loaded, clean⟩
      exact ⟨load_of_altered_fits h' h named start s (altered.symm h h') loaded fits, clean⟩
  · intro s loaded misfits
    obtain ⟨lenient, -⟩ := (load_eq_ok_iff_lenient h named start strict s).mp loaded
    obtain ⟨name, member, issues, i, invalid, among⟩ :=
      load_of_altered_misfits h h' named start s altered lenient misfits
    exact ⟨name, member, issues, i, load_of_lenient_error h' named start strict _ invalid, among⟩

/-! ## A machine with one config file -/

def configPlace : Path := .ofText "/c.toml"

def withConfig (content : Text) (environment : Environment.Variables) : Host :=
  ⟨⟨[([Disk.nameBytes "c.toml"], .file (content.map fun c => UInt8.ofNat c.val))]⟩, .ofText "/",
    environment, []⟩

theorem readConfig_withConfig (content : Text) (environment : Environment.Variables)
    (document : Entries)
    (decoded : Utf8.decode? (content.map fun c => UInt8.ofNat c.val) = some content)
    (parsed : Toml.document content = .ok document) :
    readConfig (withConfig content environment) configPlace = .ok (.dict document) :=
  readConfig_of_gives _ configPlace _ rfl _
    (.whole (by decide) document ⟨content, decoded, parsed⟩)

section
variable (content content' : Text) (environment environment' : Environment.Variables)
  (es es' : Entries) (read : readConfig (withConfig content environment) configPlace = .ok (.dict es))
  (read' : readConfig (withConfig content' environment') configPlace = .ok (.dict es'))

include read in
theorem readSettings_withConfig :
    (readSettings (withConfig content environment) (some configPlace) .null).outcome.1 =
      .ok ⟨.dict es, some configPlace.text, none⟩ :=
  congrArg Prod.fst (readSettings_of_ok _ .null _ [] _ read)

include read in
theorem bookkeepingFits_withConfig (vars : Entries) (parsed : ofEnvironment environment = .ok vars)
    (fits : ∀ name ∈ bookkeeping, Fits optionalText (top [vars, es] name)) :
    BookkeepingFits (withConfig content environment) (some configPlace) .null := by
  intro vars₂ toml file error parsed₂ reading₂ name member
  cases parsed.symm.trans parsed₂
  cases (readSettings_withConfig content environment es read).symm.trans reading₂
  exact fits name member

include read read' in
theorem altered_withConfig (alike : AlikeTables es es')
    (same : Environment.withoutBookkeeping environment' = Environment.withoutBookkeeping environment) :
    Altered (withConfig content environment) (withConfig content' environment')
      (some configPlace) := by
  refine ⟨rfl, same, ?_, nofun⟩
  rintro _ ⟨⟩
  rw [read, read']
  exact .tables es es' alike

end

theorem alike_single (name : Text) (member : name ∈ bookkeeping) (v : Value) :
    AlikeTables [] [(.text name, v)] := by
  intro n plain
  have other : ¬ Value.text? (.text name) = some n :=
    fun same => plain (Option.some.inj same ▸ member)
  rw [Entries.get?_cons, if_neg other]

theorem readConfig_withConfig_empty (environment : Environment.Variables) :
    readConfig (withConfig [] environment) configPlace = .ok (.dict []) :=
  readConfig_withConfig [] environment [] (Utf8.decode?_ascii _ rfl) rfl

theorem load_withConfig_empty : (load (withConfig [] []) (some configPlace) .null false).outcome.1 =
    .ok ⟨.default, .default, some configPlace.text, none⟩ :=
  (load_eq_ok_iff_combined _ _ .null _).mpr ⟨[], _, _, rfl,
    readSettings_withConfig [] [] [] (readConfig_withConfig_empty []), rfl, rfl⟩

def misnaming : Environment.Variables := [("DIGESTKIT_CONFIG_FILE", "abc")]

theorem ofEnvironment_misnaming : ofEnvironment misnaming = .ok [("config_file", "abc")] := by
  have lowered : Environment.lowered misnaming =
      [(("digestkit_config_file" : Text), ("abc" : Text))] := by decide +kernel
  unfold ofEnvironment
  rw [lowered]
  rfl

/-- The file says nothing, and then an error, while a variable names another file. -/
theorem bookkeeping_changes_nothing_where_it_fits_in_file_and_variable :
    let h := withConfig [] []
    let h' := withConfig "config_error='x'" misnaming
    Altered h h' (some configPlace) ∧ BookkeepingFits h (some configPlace) .null ∧
      BookkeepingFits h' (some configPlace) .null ∧
      ∃ s, (load h (some configPlace) .null false).outcome.1 = .ok s ∧
        (load h' (some configPlace) .null false).outcome.1 = .ok s := by
  intro h h'
  have read := readConfig_withConfig_empty []
  have read' : readConfig h' configPlace = .ok (.dict [("config_error", "x")]) :=
    readConfig_withConfig _ misnaming _ (Utf8.decode?_ascii _ rfl) rfl
  have altered : Altered h h' (some configPlace) :=
    altered_withConfig _ _ _ _ _ _ read read' (alike_single _ (by decide) _) (by decide +kernel)
  have fits : BookkeepingFits h (some configPlace) .null := by
    refine bookkeepingFits_withConfig _ _ _ read [] rfl ?_
    intro name _ v nowhere
    cases nowhere
  have fits' : BookkeepingFits h' (some configPlace) .null := by
    refine bookkeepingFits_withConfig _ _ _ read' _ ofEnvironment_misnaming ?_
    intro name member
    simp only [bookkeeping, List.mem_cons, List.not_mem_nil, or_false] at member
    rcases member with rfl | rfl
    all_goals
      rintro _ ⟨⟩
      exact ⟨_, rfl⟩
  obtain ⟨-, loads⟩ := bookkeeping_changes_nothing_where_it_fits h
  obtain ⟨same, -⟩ := loads h' (some configPlace) .null false altered
  exact ⟨altered, fits, fits', _, load_withConfig_empty, (same fits fits' _).mp load_withConfig_empty⟩

/-- Settings that are made directly take a config file from a variable, and a number in its place in
the file keeps a loading from returning. -/
theorem bookkeeping_is_read_from_configuration :
    let bare : Host := ⟨⟨[]⟩, .ofText "/", misnaming, []⟩
    let h := withConfig [] []
    let h' := withConfig "config_file=5" []
    (ofGiven bare []).outcome.1 = .ok ⟨.default, .default, some "abc", none⟩ ∧
      Altered h h' (some configPlace) ∧
      (∃ s, (load h (some configPlace) .null false).outcome.1 = .ok s) ∧
      (load h' (some configPlace) .null false).outcome.1 =
        .error (.invalid [(["config_file"], .textType)]) := by
  intro bare h h'
  have taken : TakenFrom [[("config_file", "abc")], []] ⟨.default, .default, some "abc", none⟩ := by
    refine ⟨?_, ⟨rfl, rfl⟩, ?_, ⟨rfl, rfl, rfl⟩, rfl, rfl⟩
    all_goals
      intro v nowhere
      cases nowhere
  have read' : readConfig h' configPlace = .ok (.dict [("config_file", .int 5)]) :=
    readConfig_withConfig _ [] _ (Utf8.decode?_ascii _ rfl) rfl
  refine ⟨(ofGiven_eq_ok_iff bare _ [] none none ofEnvironment_misnaming rfl _).mpr taken,
    altered_withConfig _ _ _ _ _ _ (readConfig_withConfig_empty []) read'
      (alike_single _ (by decide) _) rfl, ⟨_, load_withConfig_empty⟩, ?_⟩
  exact load_of_combined_error h' _ .null [] _ _ rfl
    (readSettings_withConfig _ [] _ read') rfl

end Fingerprint.Settings
