import Fingerprint.Proofs.Json.Objects
import Fingerprint.Proofs.Settings.Merging
import Fingerprint.Settings.Basic

/-! # What the environment holds

For a section the environment holds nothing, a value that is no table, or a table of the fields that
the section's variables give (`Holds`). A field stands there under the last key that spells its
name; where no name is spelt in two ways, that of a nested variable (`get?_nested`) comes before
that of the object (`lastSpelled_merge`). Without variables of this program the environment holds
nothing at all. -/
set_option autoImplicit false
namespace Fingerprint.Settings
namespace Environment

/-! ## Names of fields -/

/-- What stands under the last key that spells the name, in any case of its letters. -/
def lastSpelled (name : Text) : Entries → Option Value
  | [] => none
  | (key, v) :: rest =>
    (lastSpelled name rest).or (if key.text?.map Text.lower = some name then some v else none)

/-- The table spells the name in one way alone. -/
def Plain (name : Text) (table : Entries) : Prop := ∀ n ∈ table.names, n.lower = name → n = name

def renameEntry (known : List Text) (renamed : Entries) (entry : Value × Value) : Entries :=
  match entry.1.text?.bind fun t => known.find? fun k => k == t.lower with
  | some k => renamed.put (.text k) entry.2
  | none => renamed.put entry.1 entry.2

theorem rename_eq (known : List Text) (table : Entries) :
    rename known table = table.foldl (renameEntry known) [] := rfl

theorem distinct_renameEntry (known : List Text) (renamed : Entries) (entry : Value × Value)
    (distinct : renamed.Distinct) : (renameEntry known renamed entry).Distinct := by
  rw [renameEntry]
  split
  next k _ => exact Entries.distinct_put (.text k) entry.2 renamed distinct
  next => exact Entries.distinct_put entry.1 entry.2 renamed distinct

theorem distinct_rename (known : List Text) (table : Entries) : (rename known table).Distinct := by
  rw [rename_eq]
  suffices general : ∀ renamed : Entries, renamed.Distinct →
      (table.foldl (renameEntry known) renamed).Distinct from general [] Entries.distinct_nil
  induction table with
  | nil => exact fun _ distinct => distinct
  | cons entry rest ih =>
      exact fun renamed distinct => ih _ (distinct_renameEntry known renamed entry distinct)

section
variable (known : List Text) (small : ∀ k ∈ known, k.lower = k) (k : Text) (member : k ∈ known)
include small member

theorem get?_renameEntry (renamed : Entries) (key v : Value) :
    (renameEntry known renamed (key, v)).get? k =
      if key.text?.map Text.lower = some k then some v else renamed.get? k := by
  rw [renameEntry]
  cases named : key.text? with
  | none =>
      simp only [Option.bind_none, Entries.get?_put, named]
      rfl
  | some t =>
      simp only [Option.bind_some, Option.map_some, Option.some.injEq]
      split
      next found isFound =>
        have spelt : found = t.lower := by simpa using List.find?_some isFound
        rw [Entries.get?_put_text, spelt]
      next unknown =>
        have other : t.lower ≠ k := by
          intro spelt
          have missing := List.find?_eq_none.mp unknown k member
          rw [spelt] at missing
          exact missing (beq_self_eq_true k)
        have own : ¬ some t = some k := by
          intro same
          cases same
          exact other (small k member)
        rw [Entries.get?_put, named, if_neg own, if_neg other]

theorem get?_rename (table : Entries) : (rename known table).get? k = lastSpelled k table := by
  -- Over entries renamed before, since a later spelling replaces an earlier one.
  have general : ∀ renamed : Entries, Entries.get? k (table.foldl (renameEntry known) renamed) =
      (lastSpelled k table).or (renamed.get? k) := by
    induction table with
    | nil => exact fun _ => rfl
    | cons entry rest ih =>
        obtain ⟨key, v⟩ := entry
        intro renamed
        rw [List.foldl_cons, ih, get?_renameEntry known small k member, lastSpelled, Option.or_assoc]
        split <;> rfl
  rw [rename_eq, general, Entries.get?_nil, Option.or_none]

end

theorem lastSpelled_of_plain (name : Text) (small : name.lower = name) (table : Entries)
    (distinct : table.Distinct) (plain : Plain name table) :
    lastSpelled name table = table.get? name := by
  induction table with
  | nil => rfl
  | cons entry rest ih =>
      obtain ⟨key, v⟩ := entry
      have plainRest : Plain name rest := by
        intro n member
        refine plain n ?_
        rw [Entries.names_cons]
        exact List.mem_append_right _ member
      have later := ih (Entries.distinct_tail _ rest distinct) plainRest
      rw [lastSpelled, later, Entries.get?_cons]
      by_cases own : key.text? = some name
      · rw [if_pos own, Entries.get?_tail_of_distinct name key v rest distinct own, own,
          Option.none_or, Option.map_some, small, if_pos rfl]
      · have other : ¬ key.text?.map Text.lower = some name := by
          intro spelt
          obtain ⟨n, named, lower⟩ := Option.map_eq_some_iff.mp spelt
          have first : n ∈ Entries.names ((key, v) :: rest) := by
            rw [Entries.names_cons, named]
            exact List.mem_append_left _ (List.mem_singleton_self n)
          rw [plain n first lower] at named
          exact own named
        rw [if_neg own, if_neg other, Option.or_none]

/-! ## Nested variables -/

theorem distinct_setAt (v : Text) (path : List Text) (table : Entries) (distinct : table.Distinct) :
    (setAt v path table).Distinct := by
  unfold setAt
  split
  next => exact distinct
  next => exact Entries.distinct_put _ _ table distinct
  next =>
    split
    next => exact Entries.distinct_put _ _ table distinct
    next => exact Entries.distinct_put _ _ table distinct
    next => exact distinct

def nestEntry (start : Text) (table : Entries) (entry : Text × Text) : Entries :=
  if entry.1.startsWith start then setAt entry.2 (pathOf (entry.1.drop start.length)) table else table

theorem nested_eq (start : Text) (vars : Variables) :
    nested start vars = vars.foldl (nestEntry start) [] := rfl

theorem distinct_nestEntry (start : Text) (table : Entries) (entry : Text × Text)
    (distinct : table.Distinct) : (nestEntry start table entry).Distinct := by
  rw [nestEntry]
  split
  next => exact distinct_setAt _ _ table distinct
  next => exact distinct

theorem distinct_nested (start : Text) (vars : Variables) : (nested start vars).Distinct := by
  rw [nested_eq]
  suffices general : ∀ table : Entries, table.Distinct →
      (vars.foldl (nestEntry start) table).Distinct from general [] Entries.distinct_nil
  induction vars with
  | nil => exact fun _ distinct => distinct
  | cons entry rest ih =>
      exact fun table distinct => ih _ (distinct_nestEntry start table entry distinct)

theorem get?_setAt_other (v : Text) (path : List Text) (table : Entries) (n : Text)
    (other : path.head? ≠ some n) : (setAt v path table).get? n = table.get? n := by
  have kept (name : Text) (different : some name ≠ some n) (w : Value) :
      (table.put (.text name) w).get? n = table.get? n := by
    rw [Entries.get?_put_text, if_neg fun same => different (congrArg some same)]
  unfold setAt
  split
  next => rfl
  next name => exact kept name other _
  next name rest _ =>
    split
    next => exact kept name other _
    next => exact kept name other _
    next => rfl

/-- The variable is about the field, or about something within it. -/
def Concerns (start field : Text) (entry : Text × Text) : Prop :=
  entry.1.startsWith start = true ∧ (pathOf (entry.1.drop start.length)).head? = some field

/-- One variable speaks of the field, and none of anything within it. -/
structure SpeaksAlone (start field v : Text) (vars : Variables) : Prop where
  whole : pathOf field = [field]
  given : (start ++ field, v) ∈ vars
  alone : ∀ entry ∈ vars, Concerns start field entry → entry = (start ++ field, v)

theorem get?_nestEntry_other (start field : Text) (table : Entries) (entry : Text × Text)
    (other : ¬ Concerns start field entry) :
    (nestEntry start table entry).get? field = table.get? field := by
  rw [nestEntry]
  split
  next begins => exact get?_setAt_other _ _ table field fun head => other ⟨begins, head⟩
  next => rfl

theorem get?_nestEntry_field (start field v : Text) (table : Entries)
    (whole : pathOf field = [field]) :
    (nestEntry start table (start ++ field, v)).get? field = some (.text v) := by
  have begins : Text.startsWith (start ++ field) start = true :=
    List.isPrefixOf_iff_prefix.mpr (List.prefix_append start field)
  rw [nestEntry, if_pos begins, List.drop_left, whole]
  simp only [setAt]
  rw [Entries.get?_put_text, if_pos rfl]

/-- The field has the text of that variable. -/
theorem get?_nested (start field v : Text) (vars : Variables)
    (speaks : SpeaksAlone start field v vars) :
    (nested start vars).get? field = some (.text v) := by
  obtain ⟨whole, given, alone⟩ := speaks
  rw [nested_eq]
  suffices general : ∀ table : Entries, (start ++ field, v) ∈ vars ∨
      table.get? field = some (.text v) →
      Entries.get? field (vars.foldl (nestEntry start) table) = some (.text v) from
    general [] (Or.inl given)
  clear given
  induction vars with
  | nil =>
      rintro table (member | held)
      · cases member
      · exact held
  | cons entry rest ih =>
      intro table holds
      refine ih (fun e member => alone e (List.mem_cons_of_mem _ member)) _ ?_
      -- A head that concerns the field is the one variable; any other leaves the field as it is.
      by_cases concerns : Concerns start field entry
      · rw [alone entry List.mem_cons_self concerns]
        exact Or.inr (get?_nestEntry_field start field v table whole)
      · rw [get?_nestEntry_other start field table entry concerns]
        rcases holds with member | held
        · rcases List.mem_cons.mp member with rfl | later
          · have head := get?_nestEntry_field start field v [] whole
            rw [get?_nestEntry_other start field [] _ concerns] at head
            cases head
          · exact Or.inl later
        · exact Or.inr held

theorem lastSpelled_merge (name : Text) (small : name.lower = name) (object fields : Entries)
    (objectDistinct : object.Distinct) (fieldsDistinct : fields.Distinct)
    (objectPlain : Plain name object) (fieldsPlain : Plain name fields) :
    SameField (lastSpelled name (merge object fields))
      ((fields.get? name).or (object.get? name)) := by
  have distinct : (merge object fields).Distinct :=
    distinct_mergeWithin _ object fields objectDistinct
  have plain : Plain name (merge object fields) := by
    intro n member spelt
    have holds := (Entries.get?_isSome_iff _ n).mpr member
    rw [get?_merge object fields fieldsDistinct] at holds
    cases upper : fields.get? n with
    | some v =>
        have here : (fields.get? n).isSome := by rw [upper]; rfl
        exact fieldsPlain n ((Entries.get?_isSome_iff fields n).mp here) spelt
    | none =>
        rw [upper] at holds
        exact objectPlain n ((Entries.get?_isSome_iff object n).mp holds) spelt
  rw [lastSpelled_of_plain name small _ distinct plain, get?_merge object fields fieldsDistinct]
  exact (SameField.refl _).layered _ _ _ _

/-! ## Sections -/

def nestedFields (vars : Variables) (name : Text) : Entries :=
  nested (variableStart ++ name ++ "__") vars

inductive Holds (vars : Variables) (name : Text) (known : List Text) : Option Value → Prop where
  | nothing (noObject : vars.lookup (variableStart ++ name) = none)
      (noFields : nestedFields vars name = []) : Holds vars name known none
  | null (t : Text) (whole : vars.lookup (variableStart ++ name) = some t)
      (null : Json.read t = .ok .null) : Holds vars name known none
  | noTable (t : Text) (v : Value) (whole : vars.lookup (variableStart ++ name) = some t)
      (read : Json.read t = .ok v) (notNull : v ≠ .null) (noTable : ∀ es, v ≠ .dict es) :
      Holds vars name known (some v)
  | fields (table : Entries) (noObject : vars.lookup (variableStart ++ name) = none)
      (spelt : ∀ k ∈ known, table.get? k = lastSpelled k (nestedFields vars name)) :
      Holds vars name known (some (.dict table))
  | object (t : Text) (object table : Entries)
      (whole : vars.lookup (variableStart ++ name) = some t)
      (read : Json.read t = .ok (.dict object))
      (spelt : ∀ k ∈ known, table.get? k = lastSpelled k (merge object (nestedFields vars name)))
      (plain : ∀ k ∈ known, Plain k object → Plain k (nestedFields vars name) →
        SameField (table.get? k) (((nestedFields vars name).get? k).or (object.get? k))) :
      Holds vars name known (some (.dict table))

theorem holds_of_sectionValue? (vars : Variables) (name : Text) (known : List Text)
    (small : ∀ k ∈ known, k.lower = k) (v? : Option Value)
    (parsed : sectionValue? vars variableStart name known = .ok v?) : Holds vars name known v? := by
  unfold sectionValue? at parsed
  extract_lets whole fields at parsed
  split at parsed
  next noObject =>
    by_cases empty : fields.isEmpty
    · rw [if_pos empty] at parsed
      cases parsed
      exact .nothing noObject (List.isEmpty_iff.mp empty)
    · rw [if_neg empty] at parsed
      cases parsed
      exact .fields _ noObject fun k member => get?_rename known small k member fields
  next t found =>
    split at parsed
    next => cases parsed
    next => cases parsed
    next read =>
      cases parsed
      exact .null t found read
    next object read =>
      cases parsed
      have spelt (k : Text) (member : k ∈ known) :=
        get?_rename known small k member (merge object fields)
      refine .object t object _ found read spelt ?_
      intro k member objectPlain fieldsPlain
      rw [spelt k member]
      exact lastSpelled_merge k (small k member) object fields (Json.distinct_of_read t object read)
        (distinct_nested _ vars) objectPlain fieldsPlain
    next v notNull noTable read =>
      cases parsed
      exact .noTable t v found read notNull noTable

theorem sectionValue?_of_object (vars : Variables) (start name : Text) (known : List Text)
    (t : Text) (table : Entries) (there : vars.lookup (start ++ name) = some t)
    (reads : Json.read t = .ok (.dict table)) : sectionValue? vars start name known =
      .ok (some (.dict (rename known (merge table (nested (start ++ name ++ "__") vars))))) := by
  simp only [sectionValue?, there, reads]

theorem distinct_of_sectionValue? (vars : Variables) (start name : Text) (known : List Text)
    (table : Entries) (parsed : sectionValue? vars start name known = .ok (some (.dict table))) :
    table.Distinct := by
  unfold sectionValue? at parsed
  extract_lets whole fields at parsed
  split at parsed
  next =>
    split at parsed
    next => cases parsed
    next =>
      cases parsed
      exact distinct_rename known fields
  next =>
    split at parsed
    next => cases parsed
    next => cases parsed
    next => cases parsed
    next object _ =>
      cases parsed
      exact distinct_rename known _
    next v _ noTable _ =>
      cases parsed
      exact absurd rfl (noTable table)

/-! ## Environments without settings -/

theorem name_of_mem_put (name v : Text) (kept : Variables) :
    ∀ entry ∈ lowered.put name v kept, entry.1 = name ∨ ∃ old ∈ kept, entry.1 = old.1 := by
  induction kept with
  | nil =>
      intro entry member
      simp only [lowered.put, List.mem_singleton] at member
      exact Or.inl (by rw [member])
  | cons head rest ih =>
      intro entry member
      rw [lowered.put] at member
      split at member
      next same =>
        rcases List.mem_cons.mp member with rfl | member
        · exact Or.inr ⟨head, List.mem_cons_self, rfl⟩
        · exact Or.inr ⟨entry, List.mem_cons_of_mem _ member, rfl⟩
      next other =>
        rcases List.mem_cons.mp member with rfl | member
        · exact Or.inr ⟨head, List.mem_cons_self, rfl⟩
        · rcases ih entry member with same | ⟨old, kept, same⟩
          · exact Or.inl same
          · exact Or.inr ⟨old, List.mem_cons_of_mem _ kept, same⟩

theorem name_of_mem_lowered (vars : Variables) :
    ∀ entry ∈ lowered vars, ∃ v ∈ vars, entry.1 = v.1.lower := by
  suffices general : ∀ kept : Variables, ∀ entry ∈ vars.foldl (fun kept v =>
      lowered.put v.1.lower v.2 kept) kept,
      (∃ v ∈ vars, entry.1 = v.1.lower) ∨ ∃ old ∈ kept, entry.1 = old.1 by
    intro entry member
    rcases general [] entry member with found | ⟨old, nowhere, -⟩
    · exact found
    · cases nowhere
  induction vars with
  | nil =>
      intro kept entry member
      exact Or.inr ⟨entry, member, rfl⟩
  | cons head rest ih =>
      intro kept entry member
      rcases ih _ entry member with ⟨v, later, same⟩ | ⟨old, earlier, same⟩
      · exact Or.inl ⟨v, List.mem_cons_of_mem _ later, same⟩
      · rcases name_of_mem_put head.1.lower head.2 kept old earlier with new | ⟨older, there, eq⟩
        · exact Or.inl ⟨head, List.mem_cons_self, same.trans new⟩
        · exact Or.inr ⟨older, there, same.trans eq⟩

section
variable (vars : Variables) (foreign : ∀ v ∈ vars, v.1.startsWith variableStart = false)
include foreign

theorem not_startsWith_of_foreign (rest : Text) :
    ∀ v ∈ vars, v.1.startsWith (variableStart ++ rest) = false := by
  intro v member
  have missing := foreign v member
  rw [Text.startsWith, Bool.eq_false_iff, ne_eq, List.isPrefixOf_iff_prefix] at missing ⊢
  exact fun begins => missing ((List.prefix_append _ _).trans begins)

theorem lookup_of_foreign (rest : Text) : vars.lookup (variableStart ++ rest) = none := by
  rw [List.lookup_eq_none_iff]
  intro v member
  have missing := not_startsWith_of_foreign vars foreign rest v member
  rw [bne_iff_ne]
  intro same
  have begins : Text.startsWith v.1 (variableStart ++ rest) = true :=
    List.isPrefixOf_iff_prefix.mpr (same ▸ List.prefix_rfl)
  rw [missing] at begins
  cases begins

theorem nested_of_foreign (rest : Text) : nested (variableStart ++ rest) vars = [] := by
  have missing := not_startsWith_of_foreign vars foreign rest
  rw [nested_eq]
  clear foreign
  induction vars with
  | nil => rfl
  | cons head others ih =>
      have passed : nestEntry (variableStart ++ rest) [] head = [] := by
        rw [nestEntry, missing head List.mem_cons_self]
        rfl
      rw [List.foldl_cons, passed]
      exact ih fun v member => missing v (List.mem_cons_of_mem _ member)

theorem sectionValue?_of_foreign (name : Text) (known : List Text) :
    sectionValue? vars variableStart name known = .ok none := by
  unfold sectionValue?
  simp only [List.append_assoc, lookup_of_foreign vars foreign, nested_of_foreign vars foreign]
  rfl

end

end Environment

def NoVariables (vars : Environment.Variables) : Prop :=
  ∀ v ∈ vars, v.1.lower.startsWith variableStart = false

theorem ofEnvironment_eq_ok (environment : Environment.Variables) (vars : Entries)
    (parsed : ofEnvironment environment = .ok vars) :
    ∃ (digest logging : Option Value) (file error : Option Text),
      vars = Entries.present [("digest", digest), ("logging", logging),
        ("config_file", file.map Value.text), ("config_error", error.map Value.text)] ∧
      Environment.sectionValue? (Environment.lowered environment) variableStart "digest"
        ["extended", "chunk_size"] = .ok digest ∧
      Environment.sectionValue? (Environment.lowered environment) variableStart "logging"
        ["level", "console", "file"] = .ok logging := by
  unfold ofEnvironment at parsed
  simp only [bind_eq_ok_iff] at parsed
  obtain ⟨digest, ofDigest, logging, ofLogging, same⟩ := parsed
  cases same
  refine ⟨digest, logging, (Environment.lowered environment).lookup (variableStart ++ "config_file"),
    (Environment.lowered environment).lookup (variableStart ++ "config_error"), ?_, ofDigest,
    ofLogging⟩
  simp only [Entries.present, List.flatMap_cons, List.flatMap_nil, List.append_assoc,
    List.append_nil]
  rfl

theorem nodup_environmentNames {α : Type} (digest logging file error : α) :
    (List.map Prod.fst [(("digest" : Text), digest), ("logging", logging), ("config_file", file),
      ("config_error", error)]).Nodup := by
  simp only [List.map_cons, List.map_nil]
  decide

theorem holds_of_ofEnvironment (environment : Environment.Variables) (vars : Entries)
    (parsed : ofEnvironment environment = .ok vars) : Dictionary vars ∧
    Environment.Holds (Environment.lowered environment) "digest" ["extended", "chunk_size"]
      (vars.get? "digest") ∧
    Environment.Holds (Environment.lowered environment) "logging" ["level", "console", "file"]
      (vars.get? "logging") := by
  obtain ⟨digest, logging, file, error, rfl, ofDigest, ofLogging⟩ :=
    ofEnvironment_eq_ok environment vars parsed
  have nodup := nodup_environmentNames digest logging (file.map Value.text) (error.map Value.text)
  refine ⟨⟨Entries.distinct_present _ nodup, ?_⟩, ?_, ?_⟩
  · intro name table holds
    have member := Entries.mem_of_get?_present _ name _ holds
    simp only [List.mem_cons, Prod.mk.injEq, List.not_mem_nil, or_false] at member
    rcases member with ⟨-, rfl⟩ | ⟨-, rfl⟩ | ⟨-, text⟩ | ⟨-, text⟩
    · exact Environment.distinct_of_sectionValue? _ _ _ _ table ofDigest
    · exact Environment.distinct_of_sectionValue? _ _ _ _ table ofLogging
    · cases file <;> cases text
    · cases error <;> cases text
  · rw [Entries.get?_present_of_mem _ nodup "digest" digest (by simp)]
    exact Environment.holds_of_sectionValue? _ _ _ (by decide) digest ofDigest
  · rw [Entries.get?_present_of_mem _ nodup "logging" logging (by simp)]
    exact Environment.holds_of_sectionValue? _ _ _ (by decide) logging ofLogging

theorem ofEnvironment_of_noVariables (vars : Environment.Variables) (noVariables : NoVariables vars) :
    ofEnvironment vars = .ok [] := by
  have foreign : ∀ v ∈ Environment.lowered vars, v.1.startsWith variableStart = false := by
    intro v member
    obtain ⟨original, there, same⟩ := Environment.name_of_mem_lowered vars v member
    rw [same]
    exact noVariables original there
  unfold ofEnvironment Environment.textValue?
  simp only [Environment.sectionValue?_of_foreign _ foreign, Environment.lookup_of_foreign _ foreign]
  rfl

end Fingerprint.Settings
