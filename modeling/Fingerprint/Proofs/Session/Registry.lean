import Mathlib.Logic.Function.Basic

/-! # Registries

A registry binds keys of any kind to instances, or to factories that are run when they are first
asked for. A factory is told by what it does (`Recipe`): it changes the world around, asks for what
other keys are bound to, and ends with an instance or an error. Each registration has a number, and
the runs of factories are noted under it.

Factories ask for one another without a circle when the keys have ranks that go down from a factory
to what it asks for (`Layered`). What asking for a key then does is said once (`Proceeds`): it runs
factories of keys that belong to it, each at most once, and leaves every registration as it was. -/
set_option autoImplicit false
namespace Fingerprint

inductive Recipe (K I E W : Type) where
  | gives (i : I)
  | fails (e : E)
  | acts (change : W → W) (next : W → Recipe K I E W)
  | asks (key : K) (next : Except E (Option I) → Recipe K I E W)

/-- What a key is bound to: an instance, or a factory with what it has made. -/
inductive Offer (K I E W : Type) where
  | ready (i : I)
  | lazily (r : Recipe K I E W) (made : Option I)

structure Binding (K I E W : Type) where
  number : Nat
  offer : Offer K I E W

/-- A run of the factory that was registered under the number, with its end. -/
structure Registry.Run (I E : Type) where
  number : Nat
  result : Except E I

structure Registry (K I E W : Type) where
  bound : K → Option (Binding K I E W)
  runs : List (Registry.Run I E)
  count : Nat
  world : W

/-- The errors that a registry raises itself, and how deep factories may ask for one another. -/
structure Registry.Rules (K E : Type) where
  limit : Nat
  tooDeep : E
  noOffer : E
  unknown : K → E

variable {K I E W : Type}

def Binding.fresh (b : Binding K I E W) : Binding K I E W :=
  match b.offer with
  | .ready _ => b
  | .lazily r _ => ⟨b.number, .lazily r none⟩

/-- Whatever the answers and the world are, the factory asks for such keys alone. -/
def Recipe.AsksOnly (p : K → Prop) : Recipe K I E W → Prop
  | gives _ | fails _ => True
  | acts _ next => ∀ w, (next w).AsksOnly p
  | asks key next => p key ∧ ∀ answer, (next answer).AsksOnly p

namespace Registry

def empty (w : W) : Registry K I E W := ⟨fun _ => none, [], 0, w⟩

def registration (st : Registry K I E W) (key : K) : Option (Binding K I E W) :=
  (st.bound key).map Binding.fresh

/-! ## Asking for keys -/

def follow (ask : K → Registry K I E W → Except E (Option I) × Registry K I E W) :
    Recipe K I E W → Registry K I E W → Except E I × Registry K I E W
  | .gives i, st => (.ok i, st)
  | .fails e, st => (.error e, st)
  | .acts change next, st => follow ask (next st.world) { st with world := change st.world }
  | .asks key next, st => follow ask (next (ask key st).1) (ask key st).2

section
variable [DecidableEq K]

def finish (key : K) (n : Nat) (r : Recipe K I E W) :
    Except E I × Registry K I E W → Except E (Option I) × Registry K I E W
  | (.ok i, st) =>
    (.ok (some i), { st with
      bound := Function.update st.bound key (some ⟨n, .lazily r (some i)⟩)
      runs := st.runs ++ [⟨n, .ok i⟩] })
  | (.error e, st) => (.error e, { st with runs := st.runs ++ [⟨n, .error e⟩] })

def tryWithin (tooDeep : E) : Nat → K → Registry K I E W → Except E (Option I) × Registry K I E W
  | 0, _, st => (.error tooDeep, st)
  | depth + 1, key, st =>
    match st.bound key with
    | none => (.ok none, st)
    | some ⟨_, .ready i⟩ => (.ok (some i), st)
    | some ⟨_, .lazily _ (some i)⟩ => (.ok (some i), st)
    | some ⟨n, .lazily r none⟩ => finish key n r (follow (tryWithin tooDeep depth) r st)

def tryResolve (rules : Rules K E) (key : K) (st : Registry K I E W) :
    Except E (Option I) × Registry K I E W :=
  tryWithin rules.tooDeep rules.limit key st

end

/-! ## Consistency -/

/-- After a run that succeeds the same factory does not run again. -/
def Run.Closes (run later : Run I E) : Prop :=
  ∀ i, run.result = .ok i → later.number ≠ run.number

/-- A key holds what its factory has made, if that has succeeded; an instance needs no factory. -/
def Accords (runs : List (Run I E)) (b : Binding K I E W) : Prop :=
  match b.offer with
  | .ready _ => ∀ run ∈ runs, run.number ≠ b.number
  | .lazily _ none => ∀ i, ⟨b.number, .ok i⟩ ∉ runs
  | .lazily _ (some i) => ⟨b.number, .ok i⟩ ∈ runs

theorem accords_concat (runs : List (Run I E)) (run : Run I E) (b : Binding K I E W)
    (accords : Accords runs b) (other : run.number ≠ b.number) : Accords (runs ++ [run]) b := by
  have elsewhere (i : I) : run ≠ ⟨b.number, .ok i⟩ := by
    rintro rfl
    exact other rfl
  rcases b with ⟨n, i | ⟨r, _ | i⟩⟩
  · intro run' member
    rcases List.mem_append.mp member with before | last
    · exact accords run' before
    · rw [List.mem_singleton.mp last]
      exact other
  · intro i member
    rcases List.mem_append.mp member with before | last
    · exact accords i before
    · exact elsewhere i (List.mem_singleton.mp last).symm
  · exact List.mem_append_left _ accords

/-- Numbers are those of registrations, and the runs under them are as the keys tell. -/
structure Consistent (st : Registry K I E W) : Prop where
  numbered : ∀ key b, st.bound key = some b → b.number < st.count
  noted : ∀ run ∈ st.runs, run.number < st.count
  alone : ∀ key key' b b', st.bound key = some b → st.bound key' = some b' →
    b.number = b'.number → key = key'
  accords : ∀ key b, st.bound key = some b → Accords st.runs b
  once : st.runs.Pairwise Run.Closes

theorem consistent_empty (w : W) : (empty w : Registry K I E W).Consistent where
  numbered := nofun
  noted := nofun
  alone := nofun
  accords := nofun
  once := .nil

section
variable [DecidableEq K] (st : Registry K I E W) (key : K) (n : Nat) (r : Recipe K I E W)
  (result : Except E I)

theorem runs_finish : (finish key n r (result, st)).2.runs = st.runs ++ [⟨n, result⟩] := by
  cases result <;> rfl

theorem count_finish : (finish key n r (result, st)).2.count = st.count := by
  cases result <;> rfl

theorem bound_finish_other (other : K) (different : other ≠ key) :
    (finish key n r (result, st)).2.bound other = st.bound other := by
  cases result with
  | error e => rfl
  | ok i => exact Function.update_of_ne different _ st.bound

section
variable (bound : st.bound key = some ⟨n, .lazily r none⟩)
include bound

theorem bound_finish_same : (finish key n r (result, st)).2.bound key =
    some ⟨n, .lazily r result.toOption⟩ := by
  cases result with
  | error e => exact bound
  | ok i => exact Function.update_self key _ st.bound

theorem registration_finish (other : K) :
    (finish key n r (result, st)).2.registration other = st.registration other := by
  unfold registration
  by_cases this : other = key
  · rw [this, bound_finish_same st key n r result bound, bound]
    rfl
  · rw [bound_finish_other st key n r result other this]

/-- A factory that has made nothing yet may run once more. -/
theorem consistent_finish (consistent : st.Consistent) :
    (finish key n r (result, st)).2.Consistent := by
  have unmade : ∀ i, ⟨n, .ok i⟩ ∉ st.runs := consistent.accords key _ bound
  have number (other : K) (b : Binding K I E W)
      (held : (finish key n r (result, st)).2.bound other = some b) :
      ∃ b', st.bound other = some b' ∧ b'.number = b.number := by
    by_cases this : other = key
    · subst this
      rw [bound_finish_same st other n r result bound] at held
      cases held
      exact ⟨_, bound, rfl⟩
    · rw [bound_finish_other st key n r result other this] at held
      exact ⟨b, held, rfl⟩
  constructor
  · intro other b held
    obtain ⟨b', before, same⟩ := number other b held
    rw [count_finish, ← same]
    exact consistent.numbered other b' before
  · intro run member
    rw [runs_finish] at member
    rw [count_finish]
    rcases List.mem_append.mp member with before | last
    · exact consistent.noted run before
    · rw [List.mem_singleton.mp last]
      exact consistent.numbered key _ bound
  · intro other other' b b' held held' same
    obtain ⟨c, before, numbered⟩ := number other b held
    obtain ⟨c', before', numbered'⟩ := number other' b' held'
    exact consistent.alone other other' c c' before before'
      (numbered.trans (same.trans numbered'.symm))
  · intro other b held
    rw [runs_finish]
    by_cases this : other = key
    · subst this
      rw [bound_finish_same st other n r result bound] at held
      cases held
      cases result with
      | error e =>
          intro i member
          rcases List.mem_append.mp member with before | last
          · exact unmade i before
          · cases List.mem_singleton.mp last
      | ok i => exact List.mem_append_right _ (List.mem_singleton_self _)
    · rw [bound_finish_other st key n r result other this] at held
      refine accords_concat st.runs _ b (consistent.accords other b held) ?_
      intro same
      exact this (consistent.alone other key b _ held bound same.symm)
  · rw [runs_finish, List.pairwise_append]
    refine ⟨consistent.once, List.pairwise_singleton _ _, ?_⟩
    rintro ⟨m, ended⟩ before later last i succeeded same
    cases List.mem_singleton.mp last
    cases succeeded
    cases same
    exact unmade i before

end
end

/-! ## Layers -/

theorem asksOnly_and (p q : K → Prop) (r : Recipe K I E W) (first : r.AsksOnly p)
    (second : r.AsksOnly q) : r.AsksOnly fun key => p key ∧ q key := by
  induction r with
  | gives i => trivial
  | fails e => trivial
  | acts change next ih => exact fun w => ih w (first w) (second w)
  | asks key next ih =>
      exact ⟨⟨first.1, second.1⟩, fun answer => ih answer (first.2 answer) (second.2 answer)⟩

def Closed (p : K → Prop) (st : Registry K I E W) : Prop :=
  ∀ key n r, p key → st.registration key = some ⟨n, .lazily r none⟩ → r.AsksOnly p

def Layered (rank : K → Nat) (st : Registry K I E W) : Prop :=
  ∀ key n r, st.registration key = some ⟨n, .lazily r none⟩ →
    r.AsksOnly fun other => rank other < rank key

structure Ordered (p : K → Prop) (rank : K → Nat) (st : Registry K I E W) : Prop where
  closed : st.Closed p
  layered : st.Layered rank

/-- The later registry comes from asking for such keys. -/
structure Proceeds (p : K → Prop) (st st' : Registry K I E W) : Prop where
  count : st'.count = st.count
  registration : ∀ key, st'.registration key = st.registration key
  others : ∀ key, ¬ p key → st'.bound key = st.bound key
  runs : ∃ new, st'.runs = st.runs ++ new ∧
    ∀ run ∈ new, ∃ key b, p key ∧ st.registration key = some b ∧ b.number = run.number
  consistent : st.Consistent → st'.Consistent

namespace Proceeds
variable (p q : K → Prop) (st st' st'' : Registry K I E W)

theorem refl : st.Proceeds p st where
  count := rfl
  registration _ := rfl
  others _ _ := rfl
  runs := ⟨[], (List.append_nil _).symm, nofun⟩
  consistent := id

theorem trans (first : st.Proceeds p st') (second : st'.Proceeds p st'') : st.Proceeds p st'' where
  count := second.count.trans first.count
  registration key := (second.registration key).trans (first.registration key)
  others key other := (second.others key other).trans (first.others key other)
  runs := by
    obtain ⟨new, runs, owned⟩ := first.runs
    obtain ⟨more, runs', owned'⟩ := second.runs
    refine ⟨new ++ more, by rw [runs', runs, List.append_assoc], ?_⟩
    intro run member
    rcases List.mem_append.mp member with earlier | later
    · exact owned run earlier
    · obtain ⟨key, b, asked, registered, number⟩ := owned' run later
      exact ⟨key, b, asked, (first.registration key).symm.trans registered, number⟩
  consistent consistent := second.consistent (first.consistent consistent)

theorem mono (wider : ∀ key, p key → q key) (proceeds : st.Proceeds p st') :
    st.Proceeds q st' where
  count := proceeds.count
  registration := proceeds.registration
  others key other := proceeds.others key fun asked => other (wider key asked)
  runs := by
    obtain ⟨new, runs, owned⟩ := proceeds.runs
    refine ⟨new, runs, ?_⟩
    intro run member
    obtain ⟨key, b, asked, registered⟩ := owned run member
    exact ⟨key, b, wider key asked, registered⟩
  consistent := proceeds.consistent

end Proceeds

theorem layered_empty (rank : K → Nat) (w : W) : (empty w : Registry K I E W).Layered rank := by
  intro key n r registered
  cases registered

section
variable (p : K → Prop) (rank : K → Nat)

theorem Ordered.of_registration (st st' : Registry K I E W) (ordered : st.Ordered p rank)
    (same : ∀ key, st'.registration key = st.registration key) : st'.Ordered p rank := by
  refine ⟨?_, ?_⟩
  · intro key n r member registered
    rw [same] at registered
    exact ordered.closed key n r member registered
  · intro key n r registered
    rw [same] at registered
    exact ordered.layered key n r registered

theorem Ordered.asksOnly (st : Registry K I E W) (ordered : st.Ordered p rank) (key : K)
    (member : p key) (n : Nat) (r : Recipe K I E W)
    (bound : st.bound key = some ⟨n, .lazily r none⟩) :
    r.AsksOnly fun other => p other ∧ rank other < rank key := by
  have registered : st.registration key = some ⟨n, .lazily r none⟩ := by
    rw [registration, bound]
    rfl
  exact asksOnly_and p _ r (ordered.closed key n r member registered)
    (ordered.layered key n r registered)

theorem follow_proceeds (ask : K → Registry K I E W → Except E (Option I) × Registry K I E W)
    (q : K → Prop) (asking : ∀ (key : K) (st : Registry K I E W), q key → st.Ordered p rank →
      st.Proceeds q (ask key st).2)
    (r : Recipe K I E W) (only : r.AsksOnly q) (st : Registry K I E W)
    (ordered : st.Ordered p rank) : st.Proceeds q (follow ask r st).2 := by
  induction r generalizing st with
  | gives i => exact .refl q st
  | fails e => exact .refl q st
  | acts change next ih =>
      have changed : st.Proceeds q { st with world := change st.world } :=
        ⟨rfl, fun _ => rfl, fun _ _ => rfl, ⟨[], (List.append_nil _).symm, nofun⟩,
          fun c => ⟨c.numbered, c.noted, c.alone, c.accords, c.once⟩⟩
      exact changed.trans q _ _ _
        (ih st.world (only st.world) _ (ordered.of_registration p rank _ _ changed.registration))
  | asks key next ih =>
      have first := asking key st only.1 ordered
      exact first.trans q _ _ _
        (ih _ (only.2 _) _ (ordered.of_registration p rank _ _ first.registration))

theorem follow_congr (ask ask' : K → Registry K I E W → Except E (Option I) × Registry K I E W)
    (q : K → Prop)
    (agree : ∀ (key : K) (st : Registry K I E W), q key → st.Ordered p rank →
      ask key st = ask' key st)
    (keeps : ∀ (key : K) (st : Registry K I E W), q key → st.Ordered p rank →
      (ask key st).2.Ordered p rank)
    (r : Recipe K I E W) (only : r.AsksOnly q) (st : Registry K I E W)
    (ordered : st.Ordered p rank) : follow ask r st = follow ask' r st := by
  induction r generalizing st with
  | gives i => rfl
  | fails e => rfl
  | acts change next ih =>
      exact ih st.world (only st.world) _ (ordered.of_registration p rank _ _ fun _ => rfl)
  | asks key next ih =>
      rw [follow, follow, ← agree key st only.1 ordered]
      exact ih _ (only.2 _) _ (keeps key st only.1 ordered)

variable [DecidableEq K]

theorem finish_proceeds (q : K → Prop) (st : Registry K I E W) (key : K) (asked : q key) (n : Nat)
    (r : Recipe K I E W) (result : Except E I) (bound : st.bound key = some ⟨n, .lazily r none⟩) :
    st.Proceeds q (finish key n r (result, st)).2 where
  count := count_finish st key n r result
  registration := registration_finish st key n r result bound
  others other unasked := by
    apply bound_finish_other
    rintro rfl
    exact unasked asked
  runs := by
    refine ⟨_, runs_finish st key n r result, ?_⟩
    intro run member
    rw [List.mem_singleton.mp member]
    refine ⟨key, ⟨n, .lazily r none⟩, asked, ?_, rfl⟩
    rw [registration, bound]
    rfl
  consistent := consistent_finish st key n r result bound

theorem tryWithin_proceeds (tooDeep : E) (depth : Nat) (key : K) (member : p key)
    (st : Registry K I E W) (ordered : st.Ordered p rank) :
    st.Proceeds (fun other => p other ∧ rank other ≤ rank key) (tryWithin tooDeep depth key st).2 := by
  induction depth generalizing key st with
  | zero => exact .refl _ st
  | succ depth ih =>
      rw [tryWithin]
      split
      next => exact .refl _ st
      next => exact .refl _ st
      next => exact .refl _ st
      next n r bound =>
        have only := ordered.asksOnly p rank st key member n r bound
        have followed := follow_proceeds p rank (tryWithin tooDeep depth) _
          (fun other st' lower ordered' => (ih other lower.1 st' ordered').mono _ _ _ _
            fun _ below => ⟨below.1, Nat.lt_of_le_of_lt below.2 lower.2⟩)
          r only st ordered
        have unmade := (followed.others key fun below => Nat.lt_irrefl _ below.2).trans bound
        refine (followed.mono _ _ _ _ fun _ below => ⟨below.1, Nat.le_of_lt below.2⟩).trans _ _ _ _ ?_
        exact finish_proceeds _ _ key ⟨member, Nat.le_refl _⟩ n r _ unmade

/-- Beyond the rank of a key it does not matter how deep factories may ask. -/
theorem tryWithin_congr (tooDeep : E) (depth depth' : Nat) (key : K) (member : p key)
    (st : Registry K I E W) (ordered : st.Ordered p rank) (enough : rank key < depth)
    (enough' : rank key < depth') :
    tryWithin tooDeep depth key st = tryWithin tooDeep depth' key st := by
  induction depth generalizing depth' key st with
  | zero => exact absurd enough (Nat.not_lt_zero _)
  | succ depth ih =>
      obtain ⟨depth', rfl⟩ := Nat.exists_eq_succ_of_ne_zero (Nat.ne_zero_of_lt enough')
      rw [tryWithin, tryWithin]
      split
      next => rfl
      next => rfl
      next => rfl
      next n r bound =>
        have only := ordered.asksOnly p rank st key member n r bound
        rw [follow_congr p rank (tryWithin tooDeep depth) (tryWithin tooDeep depth') _ ?_ ?_
          r only st ordered]
        · intro other st' lower ordered'
          exact ih depth' other lower.1 st' ordered'
            (Nat.lt_of_lt_of_le lower.2 (Nat.lt_succ_iff.mp enough))
            (Nat.lt_of_lt_of_le lower.2 (Nat.lt_succ_iff.mp enough'))
        · intro other st' lower ordered'
          have proceeds := tryWithin_proceeds p rank tooDeep depth other lower.1 st' ordered'
          exact ordered'.of_registration p rank _ _ proceeds.registration

end
end Registry
end Fingerprint
