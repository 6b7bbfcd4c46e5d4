import Fingerprint.Proofs.Outcome
import Mathlib.Data.List.Induction
import Mathlib.Data.List.Nodup

/-! # What a catalog holds

A catalog takes strategies in one by one. Names that are distinct are all taken in, in their order
(`register_of_distinct`), and the first name that comes again ends the filling with a failure that
names it (`register_of_repeated`); one of the two is the case for every list
(`distinct_or_repeated`). Strategies are offered, and an offer without a proper name ends the filling
as well (`ofOffers_eq`). Everything a catalog tells of itself is then the list in another form
(`Represents`), and a value of any type is looked up by the same condition everywhere (`Finds`). -/
set_option autoImplicit false
namespace Fingerprint.Catalog
variable {η : Type}

/-- The first name in the list that stands in it once before. -/
def FirstRepeated (strategies : List (Strategy η)) (name : Text) : Prop :=
  ∃ before s after, strategies = before ++ s :: after ∧ s.name = name ∧
    (before.map Strategy.name).Nodup ∧ name ∈ before.map Strategy.name

theorem distinct_or_repeated (strategies : List (Strategy η)) :
    (strategies.map Strategy.name).Nodup ∨ ∃ name, FirstRepeated strategies name := by
  induction strategies using List.reverseRecOn with
  | nil => exact Or.inl List.nodup_nil
  | append_singleton earlier s ih =>
      rcases ih with distinct | ⟨name, before, t, after, rfl, named, distinct, repeated⟩
      · by_cases known : s.name ∈ earlier.map Strategy.name
        · exact Or.inr ⟨s.name, earlier, s, [], rfl, rfl, distinct, known⟩
        · refine Or.inl ?_
          rw [List.map_append, List.nodup_append]
          refine ⟨distinct, List.nodup_singleton _, ?_⟩
          rintro name member _ last rfl
          rw [List.map_singleton, List.mem_singleton] at last
          exact known (last ▸ member)
      · refine Or.inr ⟨name, before, t, after ++ [s], ?_, named, distinct, repeated⟩
        rw [List.append_assoc, List.cons_append]

/-! ## Filling -/

theorem names_strategies (strategies : List (Strategy η)) :
    (strategies.map Descriptor.ofStrategy).map Descriptor.name = strategies.map Strategy.name :=
  List.map_map

section
variable (before : List (Descriptor η)) (s : Strategy η) (rest : List (Strategy η))

theorem register_known (known : s.name ∈ before.map Descriptor.name) :
    register before (s :: rest) = .error (.duplicateAlgorithm s.name) := by
  obtain ⟨d, member, same⟩ := List.mem_map.mp known
  have taken : (before.any fun d => d.name == s.name) = true :=
    List.any_eq_true.mpr ⟨d, member, beq_iff_eq.mpr same⟩
  rw [register, if_pos taken]

theorem register_fresh (fresh : s.name ∉ before.map Descriptor.name) :
    register before (s :: rest) = register (before ++ [.ofStrategy s]) rest := by
  have free : ¬ (before.any fun d => d.name == s.name) = true := by
    intro taken
    obtain ⟨d, member, same⟩ := List.any_eq_true.mp taken
    exact fresh (List.mem_map.mpr ⟨d, member, beq_iff_eq.mp same⟩)
  rw [register, if_neg free]

end

theorem register_append (before : List (Descriptor η)) (first rest : List (Strategy η)) :
    register before (first ++ rest) = register before first >>= fun ds => register ds rest := by
  induction first generalizing before with
  | nil => rfl
  | cons s others ih =>
      rw [List.cons_append]
      by_cases known : s.name ∈ before.map Descriptor.name
      · rw [register_known before s _ known, register_known before s _ known]
        rfl
      · rw [register_fresh before s _ known, register_fresh before s _ known]
        exact ih _

theorem register_of_distinct (strategies : List (Strategy η)) (before : List (Descriptor η))
    (distinct : (before.map Descriptor.name ++ strategies.map Strategy.name).Nodup) :
    register before strategies = .ok (before ++ strategies.map Descriptor.ofStrategy) := by
  induction strategies generalizing before with
  | nil => simp [register]
  | cons s rest ih =>
      have fresh : s.name ∉ before.map Descriptor.name := by
        intro known
        exact (List.nodup_append.mp distinct).2.2 _ known _ List.mem_cons_self rfl
      have others : ((before ++ [Descriptor.ofStrategy s]).map Descriptor.name ++
          rest.map Strategy.name).Nodup := by
        rw [List.map_append, List.append_assoc]
        exact distinct
      rw [register_fresh before s rest fresh, ih _ others, List.append_assoc]
      rfl

theorem register_of_repeated (strategies : List (Strategy η)) (name : Text)
    (repeated : FirstRepeated strategies name) :
    register [] strategies = .error (.duplicateAlgorithm name) := by
  obtain ⟨before, s, after, rfl, rfl, distinct, known⟩ := repeated
  rw [register_append, register_of_distinct before [] distinct]
  rw [← names_strategies] at known
  exact register_known _ s after known

/-! ## Lookups -/

section
variable (c : Catalog η) (v : Value)

theorem name_of_find? (name : Text) (d : Descriptor η) (found : c.find? name = some d) :
    d.name = name := by
  have agrees := List.find?_some found
  exact beq_iff_eq.mp agrees

theorem exists_find?_iff (name : Text) : (∃ d, c.find? name = some d) ↔ name ∈ c.names := by
  rw [← Option.isSome_iff_exists, find?, List.find?_isSome, names, List.mem_map]
  simp only [beq_iff_eq]

theorem find?_eq_none_of_absent (name : Text) (absent : name ∉ c.names) : c.find? name = none :=
  Option.eq_none_iff_forall_ne_some.mpr fun d found =>
    absent ((c.exists_find?_iff name).mp ⟨d, found⟩)

theorem find?_of_mem (distinct : c.names.Nodup) (d : Descriptor η) (member : d ∈ c.descriptors) :
    c.find? d.name = some d := by
  obtain ⟨other, found⟩ := (c.exists_find?_iff d.name).mpr (List.mem_map_of_mem member)
  have same : other = d := List.inj_on_of_nodup_map distinct (List.mem_of_find?_eq_some found)
    member (c.name_of_find? d.name other found)
  rw [found, same]

theorem mem_of_get? (d : Descriptor η) (found : c.get? v = some d) :
    d ∈ c.descriptors ∧ v = .text d.name := by
  cases v with
  | text name =>
      exact ⟨List.mem_of_find?_eq_some found, congrArg _ (c.name_of_find? name d found).symm⟩
  | _ => cases found

theorem require_of_missing (missing : c.get? v = none) :
    c.require v = match v.rendered with
      | .ok name => .error (.failure (.unknownAlgorithm name c.names))
      | .error f => .error (.fault f) := by
  cases text : v.rendered with
  | ok name => simp only [require, missing, text]
  | error f => simp only [require, missing, text]

theorem require_eq_ok_iff (d : Descriptor η) : c.require v = .ok d ↔ c.get? v = some d := by
  cases found : c.get? v with
  | some other =>
      unfold require
      rw [found]
      simp
  | none =>
      rw [c.require_of_missing v found]
      cases v.rendered <;> exact ⟨nofun, nofun⟩

theorem get?_eq_some_iff (distinct : c.names.Nodup) (d : Descriptor η) :
    c.get? v = some d ↔ d ∈ c.descriptors ∧ v = .text d.name := by
  constructor
  · exact c.mem_of_get? v d
  · rintro ⟨member, rfl⟩
    exact c.find?_of_mem distinct d member

end

def Known (strategies : List (Strategy η)) (v : Value) : Prop :=
  ∃ s ∈ strategies, v = .text s.name

/-- What a catalog tells of itself is the list, in its order. -/
structure Represents (c : Catalog η) (strategies : List (Strategy η)) : Prop where
  names : c.names = strategies.map Strategy.name
  descriptors : c.descriptors.map Descriptor.strategy = strategies
  own : ∀ d ∈ c.descriptors, d.name = d.strategy.name ∧
    d.digestLength = d.strategy.digestLength ∧ d.extended = d.strategy.extended
  rows : c.rows = strategies.map fun s => (s.name, s.digestLength, s.extended)
  visited : ∀ {m : Type → Type} [Monad m] {β : Type} (start : β)
    (visit : Descriptor η → β → m (ForInStep β)),
    forIn c start visit = forIn (strategies.map Descriptor.ofStrategy) start visit
  size : c.size = strategies.length

/-- How a value is looked up in a catalog of the strategies. -/
structure Finds (c : Catalog η) (strategies : List (Strategy η)) (v : Value) : Prop where
  contains_iff : c.contains v = true ↔ Known strategies v
  get_iff : c.get? v ≠ none ↔ Known strategies v
  require_iff : (∃ d, c.require v = .ok d) ↔ Known strategies v
  /-- There is one descriptor of the name, and both lookups give it. -/
  found : ∀ s ∈ strategies, v = .text s.name →
    c.get? v = some (.ofStrategy s) ∧ c.require v = .ok (.ofStrategy s) ∧
    ∀ d ∈ c.descriptors, d.name = s.name → d = .ofStrategy s
  missing : ¬ Known strategies v → ∀ name, v.rendered = .ok name →
    c.require v = .error (.failure (.unknownAlgorithm name (strategies.map Strategy.name)))
  /-- A value without a text ends the lookup with what its text raises. -/
  unwritten : ¬ Known strategies v → ∀ f, v.rendered = .error f → c.require v = .error (.fault f)

section
variable (extended : Value) (strategies : List (Strategy η))

theorem represents_strategies :
    Represents ⟨extended, strategies.map .ofStrategy⟩ strategies where
  names := names_strategies strategies
  descriptors := by
    rw [List.map_map]
    exact List.map_id strategies
  own := by
    intro d member
    obtain ⟨s, -, rfl⟩ := List.mem_map.mp member
    exact ⟨rfl, rfl, rfl⟩
  rows := List.map_map
  visited _ _ := rfl
  size := List.length_map _

variable (distinct : (strategies.map Strategy.name).Nodup)
include distinct

theorem get?_strategies (v : Value) (d : Descriptor η) :
    (⟨extended, strategies.map .ofStrategy⟩ : Catalog η).get? v = some d ↔
      ∃ s ∈ strategies, v = .text s.name ∧ d = .ofStrategy s := by
  have names : (⟨extended, strategies.map .ofStrategy⟩ : Catalog η).names.Nodup := by
    rw [(represents_strategies extended strategies).names]
    exact distinct
  rw [get?_eq_some_iff _ v names, List.mem_map]
  constructor
  · rintro ⟨⟨s, member, rfl⟩, rfl⟩
    exact ⟨s, member, rfl, rfl⟩
  · rintro ⟨s, member, rfl, rfl⟩
    exact ⟨⟨s, member, rfl⟩, rfl⟩

theorem finds_strategies (v : Value) :
    Finds ⟨extended, strategies.map .ofStrategy⟩ strategies v := by
  have looked := get?_strategies extended strategies distinct v
  have known : (∃ d, (⟨extended, strategies.map .ofStrategy⟩ : Catalog η).get? v = some d) ↔
      Known strategies v := by
    simp only [looked]
    constructor
    · rintro ⟨d, s, member, same, -⟩
      exact ⟨s, member, same⟩
    · rintro ⟨s, member, same⟩
      exact ⟨_, s, member, same, rfl⟩
  have told (unknown : ¬ Known strategies v) := require_of_missing
    (⟨extended, strategies.map .ofStrategy⟩ : Catalog η) v (by
      rw [← known, not_exists] at unknown
      exact Option.eq_none_iff_forall_ne_some.mpr unknown)
  refine ⟨?_, ?_, ?_, ?_, ?_, ?_⟩
  · rw [contains, Option.isSome_iff_exists, known]
  · rw [Option.ne_none_iff_exists', known]
  · simp only [require_eq_ok_iff]
    exact known
  · intro s member same
    have found := (looked (.ofStrategy s)).mpr ⟨s, member, same, rfl⟩
    refine ⟨found, (require_eq_ok_iff _ v _).mpr found, ?_⟩
    intro d listed named
    obtain ⟨t, other, rfl⟩ := List.mem_map.mp listed
    rw [List.inj_on_of_nodup_map distinct other member named]
  · intro unknown name writes
    rw [told unknown, writes, (represents_strategies extended strategies).names]
  · intro unknown f raises
    rw [told unknown, raises]

end

/-! ## Any number of questions -/

inductive Question where
  | names
  | descriptors
  | rows
  | size
  | contains (v : Value)
  | get (v : Value)
  | require (v : Value)

inductive Answer (η : Type) where
  | texts (names : List Text)
  | listed (descriptors : List (Descriptor η))
  | table (rows : List (Text × Int × Bool))
  | number (n : Nat)
  | truth (b : Bool)
  | found (d : Option (Descriptor η))
  | required (d : Except Error (Descriptor η))

def answer (c : Catalog η) : Question → Answer η
  | .names => .texts c.names
  | .descriptors => .listed c.descriptors
  | .rows => .table c.rows
  | .size => .number c.size
  | .contains v => .truth (c.contains v)
  | .get v => .found (c.get? v)
  | .require v => .required (c.require v)

def ask (q : Question) : StateM (Catalog η) (Answer η) := do
  return (← get).answer q

theorem run_questions (questions : List Question) (c : Catalog η) :
    (questions.mapM ask).run c = (questions.map c.answer, c) := by
  induction questions with
  | nil => rfl
  | cons q rest ih =>
      have first : (ask q).run c = pure (c.answer q, c) := rfl
      rw [List.mapM_cons, StateT.run_bind, first, pure_bind, StateT.run_bind, ih]
      rfl

/-! ## Offers -/

def Offer.isNamed : Offer η → Bool
  | .named _ => true
  | .unnamed => false

/-- The strategies that are offered before the first one without a proper name. -/
def named : List (Offer η) → List (Strategy η)
  | .named s :: rest => s :: named rest
  | _ => []

theorem eq_map_named (offers : List (Offer η)) (proper : offers.all Offer.isNamed = true) :
    offers = (named offers).map .named := by
  induction offers with
  | nil => rfl
  | cons offer rest ih =>
      rw [List.all_cons, Bool.and_eq_true] at proper
      cases offer with
      | unnamed => cases proper.1
      | named s => exact congrArg (Offer.named s :: ·) (ih proper.2)

theorem registerOffers_eq (before : List (Descriptor η)) (offers : List (Offer η)) :
    registerOffers before offers =
      (register before (named offers)).mapError Error.failure >>= fun ds =>
        if offers.all Offer.isNamed then .ok ds else .error (.fault .wrongType) := by
  induction offers generalizing before with
  | nil => rfl
  | cons offer rest ih =>
      cases offer with
      | unnamed => rfl
      | named s =>
          have one : register before (s :: named rest) =
              register before [s] >>= fun ds => register ds (named rest) :=
            register_append before [s] (named rest)
          rw [registerOffers, named, one]
          cases register before [s] with
          | error f => rfl
          | ok ds => exact ih ds

theorem ofOffers_eq (extended : Value) (offers : List (Offer η)) : ofOffers extended offers =
    (register [] (named offers)).mapError Error.failure >>= fun ds =>
      if offers.all Offer.isNamed then .ok ⟨extended, ds⟩ else .error (.fault .wrongType) := by
  rw [ofOffers, registerOffers_eq]
  cases register [] (named offers) with
  | error f => rfl
  | ok ds =>
      simp only [Except.map, mapError_ok, bind, Except.bind]
      cases offers.all Offer.isNamed <;> rfl

theorem firstRepeated_not_nodup (strategies : List (Strategy η)) (name : Text)
    (repeated : FirstRepeated strategies name) : ¬ (strategies.map Strategy.name).Nodup := by
  intro distinct
  have made := register_of_distinct strategies [] distinct
  rw [register_of_repeated strategies name repeated] at made
  cases made

end Fingerprint.Catalog
