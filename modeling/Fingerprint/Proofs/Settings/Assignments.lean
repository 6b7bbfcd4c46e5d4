import Fingerprint.Proofs.Settings.Assembling
import Fingerprint.Proofs.Value.Tables

/-! # Sections under assignment

Sections come from tables, and two at a time from settings; afterwards their fields are assigned to,
in any order and with any values (`Step`). An assignment reads its value as a construction reads it
and writes one field (`Assigns`), so validation holds for every section at all times
(`validated_after`), and a step that fails leaves every section as it was. -/
set_option autoImplicit false
namespace Fingerprint.Settings

/-! ## Tables of one entry -/

section
variable {α : Type} (name : Text) (v : Value) (default : α) (read : Value → Except Issue α)

theorem field_own : field [(.text name, v)] name default read =
    (read v).mapError fun i => [([name], i)] := by
  have held : Entries.get? name [(.text name, v)] = some v := if_pos rfl
  unfold field
  rw [held]

theorem field_other (other : Text) (different : name ≠ other) :
    field [(.text name, v)] other default read = .ok default := by
  have missing : Entries.get? other [(.text name, v)] = none :=
    if_neg fun same => different (Option.some.inj same)
  unfold field
  rw [missing]

end

namespace Section

def another : Section → Entries → Except Issues Section
  | digest _, table => (DigestSection.ofEntries table).map digest
  | logging _, table => (LoggingSection.ofEntries table).map logging

def levelNames : List Text := ["debug", "info", "warning", "error"]

def Valid : Section → Prop
  | digest s => ∃ (extended : Bool) (size : Int), 1 ≤ size ∧
      s.entries = [(.text "extended", .bool extended), (.text "chunk_size", .int size)]
  | logging s => ∃ (level : Text) (console file : Bool), level ∈ levelNames ∧
      s.entries = [(.text "level", .text level), (.text "console", .bool console),
        (.text "file", .bool file)]

def Validated : Section → Prop
  | digest s => s.Validated
  | logging _ => True

theorem Validated.valid (s : Section) (validated : s.Validated) : s.Valid := by
  cases s with
  | digest s => exact ⟨s.extended, s.chunkSize, validated.positive s, rfl⟩
  | logging s =>
      refine ⟨s.level.name, s.console, s.file, ?_, rfl⟩
      cases s.level <;> decide

/-! ## One assignment -/

/-- What comes of assigning a value to a name. -/
inductive Assigns (s : Section) (name : Text) (v : Value) : Except Issues Section → Prop
  /-- The field takes what a new section would read of the value. -/
  | set (s' alone : Section) (w : Value) (known : name ∈ s.fields)
      (taken : s.another [(.text name, v)] = .ok alone) (value : alone.entries.get? name = some w)
      (written : s'.entries = s.entries.put (.text name) w) : Assigns s name v (.ok s')
  | refused (i : Issue) (known : name ∈ s.fields)
      (misfit : s.another [(.text name, v)] = .error [([name], i)]) :
      Assigns s name v (.error [([name], i)])
  | aside (unknown : name ∉ s.fields) (own : isPrivate name = true) : Assigns s name v (.ok s)
  | unknown (unknown : name ∉ s.fields) (foreign : isPrivate name = false) :
      Assigns s name v (.error [([name], .noSuchField)])

/-- One field: `read` tells its value, and `set` and `alone` the sections that have it. -/
theorem assigns_field {α : Type} (s : Section) (name : Text) (v : Value) (known : name ∈ s.fields)
    (read : Value → Except Issue α) (set alone : α → Section) (shown : α → Value)
    (assigned : s.assign name v = ((read v).mapError fun i => [([name], i)]).map set)
    (taken : s.another [(.text name, v)] = ((read v).mapError fun i => [([name], i)]).map alone)
    (value : ∀ a, (alone a).entries.get? name = some (shown a))
    (written : ∀ a, (set a).entries = s.entries.put (.text name) (shown a)) :
    s.Assigns name v (s.assign name v) := by
  rw [assigned]
  cases fits : read v with
  | ok a =>
      rw [fits] at taken
      exact .set (set a) (alone a) (shown a) known taken (value a) (written a)
  | error i =>
      rw [fits] at taken
      exact .refused i known taken

theorem assigns_unknown (s : Section) (name : Text) (v : Value) (unknown : name ∉ s.fields)
    (assigned : s.assign name v = assignUnknown s name) : s.Assigns name v (s.assign name v) := by
  rw [assigned, assignUnknown]
  cases own : isPrivate name with
  | true => exact .aside unknown own
  | false => exact .unknown unknown own

theorem assigns_digest (s : DigestSection) (name : Text) (v : Value) :
    (digest s).Assigns name v ((digest s).assign name v) := by
  have fields : (digest s).fields = [("extended" : Text), "chunk_size"] := rfl
  by_cases extended : name = "extended"
  · subst extended
    refine assigns_field _ _ v (by rw [fields]; decide) truth
      (fun b => digest { s with extended := b })
      (fun b => digest ⟨b, DigestSection.default.chunkSize⟩) .bool ?_ ?_ (fun _ => rfl) fun _ => rfl
    · simp only [assign, DigestSection.assign, if_pos, field_own]
      cases truth v <;> rfl
    · simp only [another, DigestSection.ofEntries, field_own]
      rw [field_other _ _ _ _ _ (by decide)]
      cases truth v <;> rfl
  by_cases chunkSize : name = "chunk_size"
  · subst chunkSize
    refine assigns_field _ _ v (by rw [fields]; decide) Settings.chunkSize
      (fun i => digest { s with chunkSize := i })
      (fun i => digest ⟨DigestSection.default.extended, i⟩) .int ?_ ?_ (fun _ => rfl) fun _ => rfl
    · simp only [assign, DigestSection.assign, if_neg extended, if_pos, field_own]
      cases Settings.chunkSize v <;> rfl
    · simp only [another, DigestSection.ofEntries, field_own]
      rw [field_other _ _ _ _ _ (by decide)]
      cases Settings.chunkSize v <;> rfl
  apply assigns_unknown
  · rw [fields, List.mem_cons, List.mem_singleton, not_or]
    exact ⟨extended, chunkSize⟩
  · simp only [assign, DigestSection.assign, if_neg extended, if_neg chunkSize, assignUnknown]
    split <;> rfl

theorem assigns_logging (s : LoggingSection) (name : Text) (v : Value) :
    (logging s).Assigns name v ((logging s).assign name v) := by
  have fields : (logging s).fields = [("level" : Text), "console", "file"] := rfl
  by_cases level : name = "level"
  · subst level
    refine assigns_field _ _ v (by rw [fields]; decide) Settings.level
      (fun l => logging { s with level := l })
      (fun l => logging { LoggingSection.default with level := l }) (fun l => .text l.name) ?_ ?_
      (fun _ => rfl) fun _ => rfl
    · simp only [assign, LoggingSection.assign, if_pos, field_own]
      cases Settings.level v <;> rfl
    · simp only [another, LoggingSection.ofEntries, field_own]
      rw [field_other _ _ _ _ _ (by decide), field_other _ _ _ _ _ (by decide)]
      cases Settings.level v <;> rfl
  by_cases console : name = "console"
  · subst console
    refine assigns_field _ _ v (by rw [fields]; decide) truth
      (fun b => logging { s with console := b })
      (fun b => logging { LoggingSection.default with console := b }) .bool ?_ ?_
      (fun _ => rfl) fun _ => rfl
    · simp only [assign, LoggingSection.assign, if_neg level, if_pos, field_own]
      cases truth v <;> rfl
    · simp only [another, LoggingSection.ofEntries, field_own]
      rw [field_other _ _ _ _ _ (by decide), field_other _ _ _ _ _ (by decide)]
      cases truth v <;> rfl
  by_cases file : name = "file"
  · subst file
    refine assigns_field _ _ v (by rw [fields]; decide) truth
      (fun b => logging { s with file := b })
      (fun b => logging { LoggingSection.default with file := b }) .bool ?_ ?_
      (fun _ => rfl) fun _ => rfl
    · simp only [assign, LoggingSection.assign, if_neg level, if_neg console, if_pos, field_own]
      cases truth v <;> rfl
    · simp only [another, LoggingSection.ofEntries, field_own]
      rw [field_other _ _ _ _ _ (by decide), field_other _ _ _ _ _ (by decide)]
      cases truth v <;> rfl
  apply assigns_unknown
  · rw [fields, List.mem_cons, List.mem_cons, List.mem_singleton, not_or, not_or]
    exact ⟨level, console, file⟩
  · simp only [assign, LoggingSection.assign, if_neg level, if_neg console, if_neg file,
      assignUnknown]
    split <;> rfl

theorem assigns_assign (s : Section) (name : Text) (v : Value) :
    s.Assigns name v (s.assign name v) := by
  cases s with
  | digest s => exact assigns_digest s name v
  | logging s => exact assigns_logging s name v

theorem Validated.assign (s s' : Section) (validated : s.Validated) (name : Text) (v : Value)
    (assigned : s.assign name v = .ok s') : s'.Validated := by
  cases s with
  | digest s =>
      obtain ⟨t, set, rfl⟩ := (map_eq_ok_iff _ _ _).mp assigned
      exact .assigned s name v t validated set
  | logging s =>
      obtain ⟨t, -, rfl⟩ := (map_eq_ok_iff _ _ _).mp assigned
      trivial

/-! ## Histories -/

/-- What sections are made of: a table of their own, or the sources of settings. -/
inductive Origin where
  | digest (table : Entries)
  | logging (table : Entries)
  | given (h : Host) (values : Entries)
  | loaded (h : Host) (named : Option Path) (start : Value) (strict : Bool)

def ofSettings (s : Settings) : List Section := [digest s.digest, logging s.logging]

def Origin.sections : Origin → Except Error (List Section)
  | .digest table =>
    ((DigestSection.ofEntries table).map fun s => [.digest s]).mapError Error.invalid
  | .logging table =>
    ((LoggingSection.ofEntries table).map fun s => [.logging s]).mapError Error.invalid
  | .given h values => (ofGiven h values).outcome.1.map ofSettings
  | .loaded h named start strict => (load h named start strict).outcome.1.map ofSettings

/-- Sections are made, or one of them is assigned to. -/
inductive Step where
  | make (origin : Origin)
  | assign (n : Nat) (name : Text) (v : Value)

def perform (live : List Section) : Step → Except Error Unit × List Section
  | .make origin =>
    match origin.sections with
    | .ok new => (.ok (), live ++ new)
    | .error e => (.error e, live)
  | .assign n name v =>
    match live[n]? with
    | none => (.ok (), live)
    | some s =>
      match s.assign name v with
      | .ok s' => (.ok (), live.set n s')
      | .error issues => (.error (.invalid issues), live)

def after (live : List Section) (steps : List Step) : List Section :=
  steps.foldl (fun live step => (perform live step).2) live

theorem Origin.validated (origin : Origin) (new : List Section) (made : origin.sections = .ok new) :
    ∀ s ∈ new, s.Validated := by
  have ofMade (from_ : Settings) (validated : from_.digest.Validated) :
      ∀ s ∈ ofSettings from_, s.Validated := by
    intro s member
    rcases List.mem_cons.mp member with rfl | second
    · exact validated
    · cases List.mem_singleton.mp second
      trivial
  cases origin with
  | digest table =>
      obtain ⟨s, read, rfl⟩ := (map_eq_ok_iff _ _ _).mp ((mapError_eq_ok_iff _ _ _).mp made)
      intro s' member
      cases List.mem_singleton.mp member
      exact .read table s read
  | logging table =>
      obtain ⟨s, read, rfl⟩ := (map_eq_ok_iff _ _ _).mp ((mapError_eq_ok_iff _ _ _).mp made)
      intro s' member
      cases List.mem_singleton.mp member
      trivial
  | given h values =>
      obtain ⟨from_, returned, rfl⟩ := (map_eq_ok_iff _ _ _).mp made
      exact ofMade from_ (validated_of_ofGiven h values from_ returned)
  | loaded h named start strict =>
      obtain ⟨from_, returned, rfl⟩ := (map_eq_ok_iff _ _ _).mp made
      exact ofMade from_ (validated_of_load h named start from_ returned)

/-- The ways in which a step can end. -/
inductive Performs (live : List Section) : Step → Except Error Unit × List Section → Prop
  | fails (step : Step) (e : Error) : Performs live step (.error e, live)
  | makes (origin : Origin) (new : List Section) (made : origin.sections = .ok new) :
      Performs live (.make origin) (.ok (), live ++ new)
  | assigns (n : Nat) (name : Text) (v : Value) (s s' : Section) (held : live[n]? = some s)
      (assigned : s.assign name v = .ok s') :
      Performs live (.assign n name v) (.ok (), live.set n s')
  | nobody (n : Nat) (name : Text) (v : Value) (missing : live[n]? = none) :
      Performs live (.assign n name v) (.ok (), live)

theorem performs_perform (live : List Section) (step : Step) :
    Performs live step (perform live step) := by
  cases step with
  | make origin =>
      simp only [perform]
      cases made : origin.sections with
      | error e => exact .fails _ e
      | ok new => exact .makes origin new made
  | assign n name v =>
      simp only [perform]
      cases held : live[n]? with
      | none => exact .nobody n name v held
      | some s =>
          simp only
          cases assigned : s.assign name v with
          | error issues => exact .fails _ _
          | ok s' => exact .assigns n name v s s' held assigned

theorem validated_perform (live : List Section) (validated : ∀ s ∈ live, s.Validated)
    (step : Step) : ∀ s ∈ (perform live step).2, s.Validated := by
  have performs := performs_perform live step
  generalize perform live step = ends at performs ⊢
  intro s member
  cases performs with
  | fails => exact validated s member
  | nobody => exact validated s member
  | makes origin new made =>
      rcases List.mem_append.mp member with old | fresh
      · exact validated s old
      · exact origin.validated new made s fresh
  | assigns n name v before _ held assigned =>
      rcases List.mem_or_eq_of_mem_set member with old | rfl
      · exact validated s old
      · have earlier := validated before (List.mem_of_getElem? held)
        exact earlier.assign before s name v assigned

theorem validated_after (steps : List Step) (live : List Section)
    (validated : ∀ s ∈ live, s.Validated) : ∀ s ∈ after live steps, s.Validated := by
  induction steps generalizing live with
  | nil => exact validated
  | cons step rest ih => exact ih _ (validated_perform live validated step)

theorem perform_of_error (live : List Section) (step : Step) (e : Error)
    (failed : (perform live step).1 = .error e) : (perform live step).2 = live := by
  have performs := performs_perform live step
  generalize perform live step = ends at performs failed ⊢
  cases performs with
  | fails => rfl
  | nobody => cases failed
  | makes => cases failed
  | assigns => cases failed

theorem perform_make_of_ok (live : List Section) (origin : Origin)
    (returned : (perform live (.make origin)).1 = .ok ()) :
    ∃ new, (perform live (.make origin)).2 = live ++ new := by
  have performs := performs_perform live (.make origin)
  generalize perform live (.make origin) = ends at performs returned ⊢
  cases performs with
  | fails => cases returned
  | makes _ new => exact ⟨new, rfl⟩

/-- What comes of an assignment to a section that lives. -/
structure Writes (live : List Section) (n : Nat) (s : Section) (name : Text) (v : Value) :
    Prop where
  /-- A value is taken or refused, with its issue, as in a new section that is given it alone. -/
  outcome : name ∈ s.fields → (perform live (.assign n name v)).1 =
    ((s.another [(.text name, v)]).map fun _ => ()).mapError Error.invalid
  /-- Nothing but the field of that section is changed. -/
  written : name ∈ s.fields → ∀ alone, s.another [(.text name, v)] = .ok alone →
    ∃ s', (perform live (.assign n name v)).2 = live.set n s' ∧
      s'.entries.get? name = alone.entries.get? name ∧
      ∀ other, other ≠ name → s'.entries.get? other = s.entries.get? other
  unknown : name ∉ s.fields → isPrivate name = false →
    (perform live (.assign n name v)).1 = .error (.invalid [([name], .noSuchField)])
  aside : name ∉ s.fields → isPrivate name = true →
    perform live (.assign n name v) = (.ok (), live)

theorem perform_assign (live : List Section) (n : Nat) (s : Section) (name : Text) (v : Value)
    (held : live[n]? = some s) : perform live (.assign n name v) =
      match s.assign name v with
      | .ok s' => (.ok (), live.set n s')
      | .error issues => (.error (.invalid issues), live) := by
  simp only [perform, held]

theorem writes_of_held (live : List Section) (n : Nat) (s : Section) (name : Text) (v : Value)
    (held : live[n]? = some s) : Writes live n s name v := by
  have run := perform_assign live n s name v held
  have assigns := assigns_assign s name v
  generalize s.assign name v = ends at run assigns
  cases assigns with
  | set s' alone w known taken value written =>
      refine ⟨fun _ => ?_, fun _ other taken' => ?_, fun unknown => absurd known unknown,
        fun unknown => absurd known unknown⟩
      · rw [run, taken]
        rfl
      · cases taken.symm.trans taken'
        rw [run]
        refine ⟨s', rfl, ?_, ?_⟩
        · rw [written, value, Entries.get?_put_text, if_pos rfl]
        · intro other different
          rw [written, Entries.get?_put_text, if_neg different.symm]
  | refused i known misfit =>
      refine ⟨fun _ => ?_, fun _ alone taken => ?_, fun unknown => absurd known unknown,
        fun unknown => absurd known unknown⟩
      · rw [run, misfit]
        rfl
      · cases misfit.symm.trans taken
  | aside unknown own =>
      refine ⟨fun known => absurd known unknown, fun known => absurd known unknown,
        fun _ foreign => ?_, fun _ _ => ?_⟩
      · cases own.symm.trans foreign
      · obtain ⟨inside, rfl⟩ := List.getElem?_eq_some_iff.mp held
        rw [run]
        exact congrArg (Prod.mk _) (List.set_getElem_self inside)
  | unknown unknown foreign =>
      refine ⟨fun known => absurd known unknown, fun known => absurd known unknown,
        fun _ _ => ?_, fun _ own => ?_⟩
      · rw [run]
      · cases foreign.symm.trans own

end Section
end Fingerprint.Settings
