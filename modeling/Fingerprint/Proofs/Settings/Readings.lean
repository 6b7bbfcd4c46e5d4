import Fingerprint.Proofs.Settings.Assembling
import Fingerprint.Proofs.Settings.Discovery

/-! # How a reading of the config file ends

A reading goes astray with its search, finds no file, takes a file over, records why it could not,
or ends with a fault that no record is made of (`ReadingEnds`). A search leaves debug records alone,
so the only warning is that of a file that could not be read. What a loading gives follows from the
reading and from what the environment holds (`load_eq_ok_iff`). -/
set_option autoImplicit false
namespace Fingerprint.Settings
open Diagnosed

/-- The file that a loading reads: the one that is named, or else the one that a search finds. -/
def locate (h : Host) (named : Option Path) (start : Value) : Diagnosed (Option Path) :=
  match named with
  | some p => pure (some p)
  | none => findConfig h start

/-- What is recorded of a file that could not be read, unless the fault ends the operation. -/
def recordedReason (p : Path) : ConfigFault → Option Text
  | .malformed detail => some (Text.concat ["Failed to parse config file ", p.text, ": ", detail])
  | .unreadable f =>
    let reason := match f.reason? with
      | some reason => if reason.isTrue then reason.shown else f.text
      | none => f.text
    some (Text.concat ["Failed to read config file ", p.text, ": ", reason])
  | .escaping _ => none

inductive ReadingEnds (h : Host) (named : Option Path) (start : Value) :
    Except Error ConfigReading × List Record → Prop where
  | astray (e : Error) (notes : List Record)
      (lost : (locate h named start).outcome = (.error e, notes)) :
      ReadingEnds h named start (.error e, notes)
  | nowhere (notes : List Record) (none : (locate h named start).outcome = (.ok none, notes)) :
      ReadingEnds h named start (.ok .nothing, notes)
  | taken (p : Path) (v : Value) (notes : List Record)
      (found : (locate h named start).outcome = (.ok (some p), notes))
      (read : readConfig h p = .ok v) :
      ReadingEnds h named start (.ok ⟨v, some p.text, none⟩, notes)
  | recorded (p : Path) (fault : ConfigFault) (reason : Text) (notes : List Record)
      (found : (locate h named start).outcome = (.ok (some p), notes))
      (failed : readConfig h p = .error fault) (told : recordedReason p fault = some reason) :
      ReadingEnds h named start
        (.ok ⟨.dict [], none, some reason⟩, notes ++ [⟨.warning, reason⟩])
  | escaped (p : Path) (f : Fault) (notes : List Record)
      (found : (locate h named start).outcome = (.ok (some p), notes))
      (failed : readConfig h p = .error (.escaping f)) :
      ReadingEnds h named start (.error (.fault f), notes)

section
variable (h : Host) (named : Option Path) (start : Value)

/-! ## Reading a file -/

section
variable (p : Path) (records : List Record)

theorem readSettings_of_ok (v : Value) (read : readConfig h p = .ok v) :
    (readSettings h (some p) start).runFrom records = (.ok ⟨v, some p.text, none⟩, records) := by
  unfold readSettings
  rw [runFrom_bind, runFrom_pure]
  simp only [read]
  rfl

theorem readSettings_of_recorded (fault : ConfigFault) (reason : Text)
    (failed : readConfig h p = .error fault) (told : recordedReason p fault = some reason) :
    (readSettings h (some p) start).runFrom records =
      (.ok ⟨.dict [], none, some reason⟩, records ++ [⟨.warning, reason⟩]) := by
  unfold readSettings
  rw [runFrom_bind, runFrom_pure]
  cases fault with
  | malformed detail | unreadable f =>
      simp only [failed]
      cases told
      rfl
  | escaping f => cases told

theorem readSettings_of_escaping (f : Fault) (failed : readConfig h p = .error (.escaping f)) :
    (readSettings h (some p) start).runFrom records = (.error (.fault f), records) := by
  unfold readSettings
  rw [runFrom_bind, runFrom_pure]
  simp only [failed]
  rfl

end

theorem readingEnds_of_located (p : Path) (notes : List Record)
    (found : (locate h named start).outcome = (.ok (some p), notes)) :
    ReadingEnds h named start ((readSettings h (some p) start).runFrom notes) := by
  cases read : readConfig h p with
  | ok v =>
      rw [readSettings_of_ok h start p notes v read]
      exact .taken p v notes found read
  | error fault =>
      cases told : recordedReason p fault with
      | some reason =>
          rw [readSettings_of_recorded h start p notes fault reason read told]
          exact .recorded p fault reason notes found read told
      | none =>
          cases fault with
          | escaping f =>
              rw [readSettings_of_escaping h start p notes f read]
              exact .escaped p f notes found read
          | malformed detail | unreadable f => cases told

/-! ## How a reading ends -/

theorem readSettings_searched : readSettings h none start = (do
    match ← findConfig h start with
    | none => return .nothing
    | some p => readSettings h (some p) start) := by
  unfold readSettings
  apply bind_congr
  intro found
  cases found <;> rfl

theorem reading_ends : ReadingEnds h named start (readSettings h named start).outcome := by
  cases named with
  | some p => exact readingEnds_of_located h (some p) start p [] rfl
  | none =>
      rw [outcome_eq, readSettings_searched, runFrom_bind]
      cases searched : (findConfig h start).runFrom [] with
      | mk result notes =>
          cases result with
          | error e => exact .astray e notes searched
          | ok found =>
              cases found with
              | none => exact .nowhere notes searched
              | some p => exact readingEnds_of_located h none start p notes searched

/-! ## Records of a search -/

theorem findIn_debugs (chain : List Path) (records : List Record) : ∃ notes,
    ((findIn h chain).runFrom records).2 = records ++ notes ∧ ∀ r ∈ notes, r.level = .debug := by
  have nothing : ∃ notes, records = records ++ notes ∧ ∀ r ∈ notes, r.level = .debug :=
    ⟨[], (List.append_nil records).symm, by simp⟩
  induction chain generalizing records with
  | nil => exact nothing
  | cons directory rest ih =>
      have onward (r : Record) (debug : r.level = .debug) : ∃ notes,
          ((findIn h rest).runFrom (records ++ [r])).2 = records ++ notes ∧
            ∀ r ∈ notes, r.level = .debug := by
        obtain ⟨notes, left, levels⟩ := ih (records ++ [r])
          ⟨[], (List.append_nil _).symm, by simp⟩
        refine ⟨r :: notes, by rw [left, List.append_assoc]; rfl, ?_⟩
        intro note member
        rcases List.mem_cons.mp member with rfl | later
        · exact debug
        · exact levels note later
      cases own : h.exists? (configPath directory).text with
      | error f =>
          rw [findIn, runFrom_ofFault_bind, own]
          exact nothing
      | ok there =>
          cases there with
          | true =>
              rw [findIn, runFrom_ofFault_bind, own]
              exact nothing
          | false =>
              rw [findIn_of_noOwn h directory rest records own]
              split
              next => exact nothing
              next => exact ih records nothing
              next =>
                split
                next =>
                  split
                  next => exact nothing
                  next => exact ih records nothing
                next => exact onward _ rfl
                next => exact onward _ rfl
                next => exact nothing

theorem locate_debugs (found : Except Error (Option Path)) (notes : List Record)
    (located : (locate h named start).outcome = (found, notes)) : ∀ r ∈ notes, r.level = .debug := by
  cases named with
  | some p =>
      cases located
      simp
  | none =>
      have left : (findConfig h start).outcome.2 = notes := congrArg Prod.snd located
      rw [outcome_eq, findConfig, runFrom_ofFault_bind] at left
      cases started : startDirectory h start with
      | error f =>
          rw [started] at left
          rw [← left]
          simp
      | ok directory =>
          rw [started] at left
          obtain ⟨notes', same, levels⟩ := findIn_debugs h directory.chain []
          rw [← left, same]
          exact levels

def warnings (records : List Record) : List Record :=
  records.filter fun r => r.level = .warning

theorem warnings_of_debugs (notes : List Record) (debugs : ∀ r ∈ notes, r.level = .debug) :
    warnings notes = [] := by
  rw [warnings, List.filter_eq_nil_iff]
  intro r member
  simp [debugs r member]

theorem warnings_of_recorded (notes : List Record) (debugs : ∀ r ∈ notes, r.level = .debug)
    (reason : Text) : warnings (notes ++ [⟨.warning, reason⟩]) = [⟨.warning, reason⟩] := by
  have search := warnings_of_debugs notes debugs
  unfold warnings at search ⊢
  rw [List.filter_append, search]
  rfl

/-! ## Loadings -/

/-- The settings with the file and the error that the reading told. -/
def toldBy (config : ConfigReading) (s : Settings) : Settings :=
  { s with configFile := config.file, configError := config.error }

theorem outcome_load (vars : Entries) (parsed : ofEnvironment h.environment = .ok vars) :
    (load h named start false).outcome = match (readSettings h named start).outcome with
      | (.ok config, records) =>
        ((combine [] vars config.settings).map (toldBy config), records)
      | (.error e, records) => (.error e, records) := by
  have assembled := outcome_assemble [] h (.make named start) vars parsed
  have reading : ((ConfigSource.make named start).read h).1 = readSettings h named start := rfl
  rw [reading] at assembled
  rw [outcome_eq, load, runFrom_bind, ← outcome_eq, assembled]
  rcases (readSettings h named start).outcome with ⟨e | config, records⟩
  · rfl
  · cases merges : combine [] vars config.settings <;> simp only [merges] <;> rfl

theorem outcome_load_strict : (load h named start true).outcome =
    match (load h named start false).outcome with
    | (.ok s, records) =>
      (match s.configError with
        | some reason =>
          .error (.failure (.unusableConfig reason ((named.map Path.text).getD [])))
        | none => .ok s, records)
    | (.error e, records) => (.error e, records) := by
  rw [outcome_load_concluded, outcome_load_concluded]
  rcases (assemble [] h (.make named start)).outcome with ⟨e | ⟨s, v, file, error⟩, records⟩
  · rfl
  · cases error <;> rfl

theorem load_eq_ok_iff (s : Settings) (records : List Record) :
    (load h named start false).outcome = (.ok s, records) ↔ ∃ vars config merged,
      ofEnvironment h.environment = .ok vars ∧
      (readSettings h named start).outcome = (.ok config, records) ∧
      combine [] vars config.settings = .ok merged ∧ s = toldBy config merged := by
  constructor
  · intro loaded
    cases parsed : ofEnvironment h.environment with
    | error e =>
        have failed : (load h named start false).outcome.1 = .error e := by
          rw [load_eq, assemble_of_unparsable [] h _ e parsed]
          rfl
        rw [loaded] at failed
        cases failed
    | ok vars =>
        rw [outcome_load h named start vars parsed] at loaded
        cases read : (readSettings h named start).outcome with
        | mk result notes =>
            rw [read] at loaded
            cases result with
            | error e => cases loaded
            | ok config =>
                cases merges : combine [] vars config.settings with
                | error e => simp [merges, Except.map] at loaded
                | ok merged =>
                    simp only [merges, Except.map, Prod.mk.injEq, Except.ok.injEq] at loaded
                    obtain ⟨same, rfl⟩ := loaded
                    exact ⟨vars, config, merged, rfl, rfl, merges, same.symm⟩
  · rintro ⟨vars, config, merged, parsed, read, merges, rfl⟩
    rw [outcome_load h named start vars parsed, read]
    simp only [merges, Except.map]

end
end Fingerprint.Settings
