import Fingerprint.Proofs.Value.Tables
import Fingerprint.Settings.Environment

/-! # Merging sources

Sources stand in a list, the highest first. A section that several sources give is merged pair by
pair; what comes of that is told field by field from the sources alone: `top` is what the highest
source gives for a section, `choice` what the highest source whose table gives a field gives for
it, and `Overlays` ties the merged section to both. Laying a table over a further source adds that
source at the end of the list (`overlays_merge`). -/
set_option autoImplicit false
namespace Fingerprint.Settings

/-- A table of sections as the sources give it: no name stands twice, in it or in a section. -/
structure Dictionary (es : Entries) : Prop where
  distinct : es.Distinct
  tables : ∀ (name : Text) (table : Entries), es.get? name = some (.dict table) → table.Distinct

theorem Dictionary.nothing : Dictionary [] := ⟨Entries.distinct_nil, nofun⟩

def fieldOf (source : Entries) (name field : Text) : Option Value :=
  match source.get? name with
  | some (.dict table) => Entries.get? field table
  | _ => none

/-- What the highest source that gives a section gives for it. -/
def top (sources : List Entries) (name : Text) : Option Value :=
  sources.findSome? (Entries.get? name)

/-- What the highest source whose table gives the field gives for it. -/
def choice (sources : List Entries) (name field : Text) : Option Value :=
  sources.findSome? fun source => fieldOf source name field

/-- The same for every field: a field takes no table, whatever the table holds. -/
def SameField (a b : Option Value) : Prop :=
  a = b ∨ ∃ x y, a = some (.dict x) ∧ b = some (.dict y)

inductive Overlays (sources : List Entries) (name : Text) : Option Value → Prop where
  | absent (nowhere : top sources name = none) : Overlays sources name none
  | noTable (v : Value) (highest : top sources name = some v) (noTable : ∀ es, v ≠ .dict es) :
      Overlays sources name (some v)
  | table (es first : Entries) (highest : top sources name = some (.dict first))
      (fields : ∀ field, SameField (es.get? field) (choice sources name field)) :
      Overlays sources name (some (.dict es))

namespace Environment

/-! ## Merging is pointwise -/

def layered (depth : Nat) : Option Value → Option Value → Option Value
  | some (.dict upper), some (.dict lower) => some (.dict (mergeWithin depth lower upper))
  | some v, _ => some v
  | none, below => below

def layEntry (depth : Nat) (merged : Entries) (entry : Value × Value) : Entries :=
  match entry.2, entry.1.text?.bind merged.get? with
  | .dict upper, some (.dict lower) => merged.put entry.1 (.dict (mergeWithin depth lower upper))
  | v, _ => merged.put entry.1 v

theorem mergeWithin_succ (depth : Nat) (below above : Entries) :
    mergeWithin (depth + 1) below above = above.foldl (layEntry depth) below := rfl

theorem tables_or_layered (depth : Nat) (v : Value) (below : Option Value) :
    (∃ upper lower, v = .dict upper ∧ below = some (.dict lower)) ∨
    layered depth (some v) below = some v ∧
      ∀ upper lower, v = .dict upper → below ≠ some (.dict lower) := by
  cases v with
  | dict upper =>
      rcases below with - | w
      · exact Or.inr ⟨rfl, nofun⟩
      · cases w with
        | dict lower => exact Or.inl ⟨upper, lower, rfl, rfl⟩
        | _ => exact Or.inr ⟨rfl, nofun⟩
  | _ => exact Or.inr ⟨rfl, nofun⟩

/-- An entry is put with what its key holds once it lies over the tables below. -/
theorem layEntry_eq (depth : Nat) (merged : Entries) (key v : Value) :
    ∃ w, layEntry depth merged (key, v) = merged.put key w ∧
      ∀ n, key.text? = some n → layered depth (some v) (merged.get? n) = some w := by
  rcases tables_or_layered depth v (key.text?.bind merged.get?) with
    ⟨upper, lower, rfl, under⟩ | ⟨kept, apart⟩
  · refine ⟨.dict (mergeWithin depth lower upper), by simp only [layEntry, under], ?_⟩
    intro n own
    rw [own] at under
    rw [show merged.get? n = some (.dict lower) from under]
    rfl
  · refine ⟨v, ?_, ?_⟩
    · rw [layEntry]
      split
      next upper lower same under => exact absurd under (apart upper lower same)
      next => rfl
    · intro n own
      rw [own] at kept
      exact kept

theorem get?_layEntry (depth : Nat) (merged : Entries) (key v : Value) (n : Text) :
    (layEntry depth merged (key, v)).get? n =
      if key.text? = some n then layered depth (some v) (merged.get? n) else merged.get? n := by
  obtain ⟨w, put, laid⟩ := layEntry_eq depth merged key v
  rw [put, Entries.get?_put]
  by_cases own : key.text? = some n
  · rw [if_pos own, if_pos own, laid n own]
  · rw [if_neg own, if_neg own]

theorem distinct_layEntry (depth : Nat) (merged : Entries) (entry : Value × Value)
    (distinct : merged.Distinct) : (layEntry depth merged entry).Distinct := by
  obtain ⟨w, put, -⟩ := layEntry_eq depth merged entry.1 entry.2
  rw [put]
  exact Entries.distinct_put entry.1 w merged distinct

theorem get?_foldl_layEntry (depth : Nat) (above below : Entries) (distinct : above.Distinct)
    (n : Text) :
    Entries.get? n (above.foldl (layEntry depth) below) =
      layered depth (above.get? n) (below.get? n) := by
  induction above generalizing below with
  | nil => rfl
  | cons entry rest ih =>
      obtain ⟨key, v⟩ := entry
      rw [List.foldl_cons, ih _ (Entries.distinct_tail _ rest distinct), get?_layEntry,
        Entries.get?_cons]
      by_cases own : key.text? = some n
      · rw [if_pos own, if_pos own, Entries.get?_tail_of_distinct n key v rest distinct own]
        rfl
      · rw [if_neg own, if_neg own]

theorem distinct_mergeWithin (depth : Nat) (below above : Entries) (distinct : below.Distinct) :
    (mergeWithin depth below above).Distinct := by
  cases depth with
  | zero => exact distinct
  | succ depth =>
      rw [mergeWithin_succ]
      induction above generalizing below with
      | nil => exact distinct
      | cons entry rest ih => exact ih _ (distinct_layEntry depth below entry distinct)

/-! ## Depths -/

theorem depth_le_entriesDepth (es : Entries) (n : Text) (v : Value) (holds : es.get? n = some v) :
    depth v ≤ entriesDepth es := by
  induction es with
  | nil => cases holds
  | cons head rest ih =>
      obtain ⟨key, w⟩ := head
      rw [Entries.get?_cons] at holds
      rw [entriesDepth]
      by_cases own : key.text? = some n
      · rw [if_pos own] at holds
        cases holds
        exact Nat.le_max_left _ _
      · rw [if_neg own] at holds
        exact Nat.le_trans (ih holds) (Nat.le_max_right _ _)

theorem get?_merge (below above : Entries) (distinct : above.Distinct) (n : Text) :
    (merge below above).get? n =
      layered (entriesDepth above) (above.get? n) (below.get? n) :=
  get?_foldl_layEntry _ above below distinct n

/-- Sections that are tables on both sides are merged in full: their fields are merged as well. -/
theorem get?_merge_tables (below above lower upper : Entries) (distinct : above.Distinct) (n : Text)
    (onTop : above.get? n = some (.dict upper)) (under : below.get? n = some (.dict lower)) :
    ∃ rest, (merge below above).get? n = some (.dict (mergeWithin (rest + 1) lower upper)) := by
  have deep : entriesDepth upper + 1 ≤ entriesDepth above :=
    depth_le_entriesDepth above n _ onTop
  obtain ⟨rest, same⟩ : ∃ rest, entriesDepth above = rest + 1 := ⟨entriesDepth above - 1, by omega⟩
  refine ⟨rest, ?_⟩
  rw [get?_merge below above distinct, onTop, under, same]
  rfl

end Environment

/-! ## Fields -/

theorem SameField.refl (a : Option Value) : SameField a a := Or.inl rfl

theorem SameField.symm (a b : Option Value) (same : SameField a b) : SameField b a := by
  rcases same with rfl | ⟨x, y, left, right⟩
  · exact refl a
  · exact Or.inr ⟨y, x, right, left⟩

theorem SameField.layered (depth : Nat) (a chosen below : Option Value)
    (same : SameField a chosen) :
    SameField (Environment.layered depth a below) (chosen.or below) := by
  rcases same with rfl | ⟨x, y, rfl, rfl⟩
  · rcases a with - | v
    · exact refl below
    · rcases Environment.tables_or_layered depth v below with ⟨upper, lower, rfl, rfl⟩ | ⟨kept, -⟩
      · exact Or.inr ⟨_, upper, rfl, rfl⟩
      · exact Or.inl kept
  · rcases Environment.tables_or_layered depth (.dict x) below with
      ⟨upper, lower, -, rfl⟩ | ⟨kept, -⟩
    · exact Or.inr ⟨_, y, rfl, rfl⟩
    · exact Or.inr ⟨x, y, kept, rfl⟩

/-! ## Sources -/

section
variable (sources : List Entries) (name : Text)

theorem top_concat (below : Entries) :
    top (sources ++ [below]) name = (top sources name).or (below.get? name) := by
  rw [top, top, List.findSome?_append]
  simp

theorem choice_concat (below : Entries) (field : Text) :
    choice (sources ++ [below]) name field =
      (choice sources name field).or (fieldOf below name field) := by
  rw [choice, choice, List.findSome?_append]
  simp

theorem choice_of_nowhere (nowhere : top sources name = none) (field : Text) :
    choice sources name field = none := by
  rw [top, List.findSome?_eq_none_iff] at nowhere
  rw [choice, List.findSome?_eq_none_iff]
  intro source member
  rw [fieldOf, nowhere source member]

theorem overlays_single (source : Entries) : Overlays [source] name (source.get? name) := by
  have highest : top [source] name = source.get? name := by simp [top]
  cases given : source.get? name with
  | none => exact .absent (highest.trans given)
  | some v =>
      by_cases table : ∃ es, v = .dict es
      · obtain ⟨es, rfl⟩ := table
        refine .table es es (highest.trans given) fun field => Or.inl ?_
        simp [choice, fieldOf, given]
      · exact .noTable v (highest.trans given) fun es same => table ⟨es, same⟩

theorem Overlays.congr (others : List Entries) (v? : Option Value)
    (highest : top others name = top sources name)
    (chosen : ∀ field, choice others name field = choice sources name field)
    (overlays : Overlays sources name v?) : Overlays others name v? := by
  cases overlays with
  | absent nowhere => exact .absent (highest.trans nowhere)
  | noTable v found noTable => exact .noTable v (highest.trans found) noTable
  | table es first found fields =>
      refine .table es first (highest.trans found) fun field => ?_
      rw [chosen field]
      exact fields field

theorem overlays_merge (above below : Entries) (dictionary : Dictionary above)
    (overlays : Overlays sources name (above.get? name)) :
    Overlays (sources ++ [below]) name ((Environment.merge below above).get? name) := by
  have merged := Environment.get?_merge below above dictionary.distinct name
  have highest := top_concat sources name below
  have chosen := choice_concat sources name below
  cases onTop : above.get? name with
  | none =>
      rw [onTop] at overlays merged
      cases overlays with
      | absent nowhere =>
          -- No source so far gives the section, so the further one stands alone.
          rw [merged]
          rw [nowhere, Option.none_or] at highest
          refine (overlays_single name below).congr [below] name _ _ ?_ ?_
          · rw [highest]
            simp [top]
          · intro field
            rw [chosen, choice_of_nowhere sources name nowhere, Option.none_or]
            simp [choice]
  | some v =>
      rw [onTop] at overlays merged
      rcases Environment.tables_or_layered (Environment.entriesDepth above) v (below.get? name) with
        ⟨es, lower, rfl, under⟩ | ⟨kept, apart⟩
      · cases overlays with
        | noTable _ _ noTable => exact absurd rfl (noTable es)
        | table _ first found fields =>
            -- Both are tables: each field is laid over the field below, and chosen before it.
            obtain ⟨rest, both⟩ := Environment.get?_merge_tables below above lower es
              dictionary.distinct name onTop under
            rw [found, Option.some_or] at highest
            rw [both]
            refine .table _ first highest fun field => ?_
            rw [Environment.mergeWithin_succ, Environment.get?_foldl_layEntry _ es lower
              (dictionary.tables name es onTop), chosen, fieldOf, under]
            exact (fields field).layered rest _ _ _
      · rw [merged, kept]
        cases overlays with
        | noTable _ found noTable =>
            rw [found, Option.some_or] at highest
            exact .noTable v highest noTable
        | table es first found fields =>
            rw [found, Option.some_or] at highest
            refine .table es first highest fun field => ?_
            -- What lies below is no table, so it has no fields to add.
            have nothing : fieldOf below name field = none := by
              rw [fieldOf]
              split
              next lower under => exact absurd under (apart es lower rfl)
              next => rfl
            rw [chosen, nothing, Option.or_none]
            exact fields field

end

theorem Dictionary.merge (above below : Entries) (onTop : Dictionary above)
    (under : Dictionary below) : Dictionary (Environment.merge below above) where
  distinct := Environment.distinct_mergeWithin _ below above under.distinct
  tables := by
    intro name table holds
    rw [Environment.get?_merge below above onTop.distinct] at holds
    cases upper : above.get? name with
    | none =>
        rw [upper] at holds
        exact under.tables name table holds
    | some v =>
        rw [upper] at holds
        rcases Environment.tables_or_layered (Environment.entriesDepth above) v (below.get? name) with
          ⟨es, lower, rfl, lies⟩ | ⟨kept, -⟩
        · rw [lies] at holds
          cases holds
          exact Environment.distinct_mergeWithin _ lower es (under.tables name lower lies)
        · rw [kept] at holds
          cases holds
          exact onTop.tables name table upper

end Fingerprint.Settings
