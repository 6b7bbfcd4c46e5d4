import Fingerprint.Proofs.Session.Registry

/-! # Singletons

A program registers keys and asks for them in any order (`Operation`), over a registry that stays
layered. Every key then answers for its latest registration (`Answers`): with the instance, or with
what the factory has made in the one run that succeeded, or by running the factory. -/
set_option autoImplicit false
namespace Fingerprint.Registry
variable {K I E W : Type}

inductive Operation (K I E W : Type) where
  | registers (key : K) (given : Option I) (factory : Option (Recipe K I E W))
  | resolves (key : K)
  | triesToResolve (key : K)
  /-- The world changes without the registry. -/
  | elsewhere (change : W → W)

def offered : Option I → Option (Recipe K I E W) → Option (Offer K I E W)
  | some i, _ => some (.ready i)
  | none, some r => some (.lazily r none)
  | none, none => none

theorem offered_unmade (given : Option I) (factory : Option (Recipe K I E W))
    (r : Recipe K I E W) (i : I) : offered given factory ≠ some (.lazily r (some i)) := by
  rcases given with _ | _
  · rcases factory with _ | _ <;> exact nofun
  · exact nofun

theorem fresh_of_offered (given : Option I) (factory : Option (Recipe K I E W))
    (offer : Offer K I E W) (offers : offered given factory = some offer) (n : Nat) :
    Binding.fresh ⟨n, offer⟩ = ⟨n, offer⟩ := by
  rcases offer with i | ⟨r, _ | i⟩
  · rfl
  · rfl
  · exact absurd offers (offered_unmade given factory r i)

namespace Operation

/-- The operation asks for nothing, or for a key that comes to be made without the other one. -/
def Spares (st : Registry K I E W) (other : K) : Operation K I E W → Prop
  | resolves key | triesToResolve key => ∃ p, st.Closed p ∧ p key ∧ ¬ p other
  | registers .. | elsewhere _ => True

def offer? [DecidableEq K] (key : K) : Operation K I E W → Option (Offer K I E W)
  | registers own given factory => if own = key then offered given factory else none
  | resolves _ | triesToResolve _ | elsewhere _ => none

end Operation

section
variable [DecidableEq K]

def bind (st : Registry K I E W) (key : K) (offer : Offer K I E W) : Registry K I E W :=
  { st with
    bound := Function.update st.bound key (some ⟨st.count, offer⟩)
    count := st.count + 1 }

variable (rules : Rules K E)

def resolve (key : K) (st : Registry K I E W) : Except E I × Registry K I E W :=
  match tryResolve rules key st with
  | (.ok (some i), st') => (.ok i, st')
  | (.ok none, st') => (.error (rules.unknown key), st')
  | (.error e, st') => (.error e, st')

def perform (st : Registry K I E W) : Operation K I E W → Except E (Option I) × Registry K I E W
  | .registers key given factory =>
    match offered given factory with
    | some offer => (.ok none, st.bind key offer)
    | none => (.error rules.noOffer, st)
  | .resolves key => ((resolve rules key st).1.map some, (resolve rules key st).2)
  | .triesToResolve key => tryResolve rules key st
  | .elsewhere change => (.ok none, { st with world := change st.world })

def after (st : Registry K I E W) (ops : List (Operation K I E W)) : Registry K I E W :=
  ops.foldl (fun st op => (perform rules st op).2) st

theorem after_append (st : Registry K I E W) (ops more : List (Operation K I E W)) :
    after rules st (ops ++ more) = after rules (after rules st ops) more := List.foldl_append

theorem resolve_snd (key : K) (st : Registry K I E W) :
    (resolve rules key st).2 = (tryResolve rules key st).2 := by
  unfold resolve
  split <;> rename_i same <;> rw [same]

end

/-- The factories ask for one another without a circle, in fewer layers than the limit. -/
def Below (limit : Nat) (st : Registry K I E W) : Prop :=
  ∃ rank : K → Nat, (∀ key, rank key < limit) ∧ st.Layered rank

/-! ## Bindings -/

theorem registration_eq_of_bound (st : Registry K I E W) (key : K) (b : Binding K I E W)
    (bound : st.bound key = some b) : st.registration key = some b.fresh := by
  rw [registration, bound]
  rfl

theorem number_fresh (b : Binding K I E W) : b.fresh.number = b.number := by
  unfold Binding.fresh
  split <;> rfl

theorem key_of_number (st : Registry K I E W) (consistent : st.Consistent) (key key' : K)
    (b b' : Binding K I E W) (registered : st.registration key = some b)
    (bound : st.bound key' = some b') (same : b.number = b'.number) : key = key' := by
  obtain ⟨c, there, rfl⟩ := Option.map_eq_some_iff.mp registered
  exact consistent.alone key key' c b' there bound ((number_fresh c).symm.trans same)

theorem closed_univ (st : Registry K I E W) : st.Closed fun _ => True := by
  intro key n r _ registered
  clear registered
  induction r with
  | gives i => trivial
  | fails e => trivial
  | acts change next ih => exact ih
  | asks key next ih => exact ⟨trivial, ih⟩

section
variable [DecidableEq K] (st : Registry K I E W) (key : K)

theorem consistent_bind (consistent : st.Consistent) (offer : Offer K I E W)
    (unmade : ∀ r i, offer ≠ .lazily r (some i)) : (st.bind key offer).Consistent := by
  have bound (other : K) (b : Binding K I E W) (held : (st.bind key offer).bound other = some b) :
      other = key ∧ b = ⟨st.count, offer⟩ ∨ other ≠ key ∧ st.bound other = some b := by
    by_cases this : other = key
    · subst this
      have same := (Function.update_self other _ st.bound).symm.trans held
      exact Or.inl ⟨rfl, (Option.some.inj same).symm⟩
    · exact Or.inr ⟨this, (Function.update_of_ne this _ st.bound).symm.trans held⟩
  have unused (run : Run I E) (member : run ∈ st.runs) : run.number ≠ st.count :=
    Nat.ne_of_lt (consistent.noted run member)
  refine ⟨?_, fun run member => Nat.lt_succ_of_lt (consistent.noted run member), ?_, ?_,
    consistent.once⟩
  · intro other b held
    rcases bound other b held with ⟨-, rfl⟩ | ⟨-, before⟩
    · exact Nat.lt_succ_self _
    · exact Nat.lt_succ_of_lt (consistent.numbered other b before)
  · intro other other' b b' held held' same
    rcases bound other b held with ⟨rfl, rfl⟩ | ⟨-, before⟩
    · rcases bound other' b' held' with ⟨rfl, -⟩ | ⟨-, before'⟩
      · rfl
      · exact absurd same.symm (Nat.ne_of_lt (consistent.numbered other' b' before'))
    · rcases bound other' b' held' with ⟨rfl, rfl⟩ | ⟨-, before'⟩
      · exact absurd same (Nat.ne_of_lt (consistent.numbered other b before))
      · exact consistent.alone other other' b b' before before' same
  · intro other b held
    rcases bound other b held with ⟨-, rfl⟩ | ⟨-, before⟩
    · rcases offer with i | ⟨r, _ | i⟩
      · exact unused
      · exact fun i member => unused _ member rfl
      · exact absurd rfl (unmade r i)
    · exact consistent.accords other b before

theorem registration_bind (offer : Offer K I E W) (other : K) :
    (st.bind key offer).registration other =
      if key = other then some (Binding.fresh ⟨st.count, offer⟩) else st.registration other := by
  unfold registration
  by_cases this : key = other
  · subst this
    have bound := Function.update_self key (some ⟨st.count, offer⟩) st.bound
    exact (congrArg (Option.map Binding.fresh) bound).trans (if_pos rfl).symm
  · have bound := Function.update_of_ne (Ne.symm this) (some ⟨st.count, offer⟩) st.bound
    exact (congrArg (Option.map Binding.fresh) bound).trans (if_neg this).symm

end

/-! ## Answers -/

section
variable [DecidableEq K] (rules : Rules K E) (st : Registry K I E W) (key : K)

inductive Answers : Option (Binding K I E W) → Except E (Option I) × Registry K I E W → Prop
  /-- Nothing is there, and nothing happens. -/
  | absent : Answers none (.ok none, st)
  /-- The instance itself, and nothing happens. -/
  | ready (n : Nat) (i : I) : Answers (some ⟨n, .ready i⟩) (.ok (some i), st)
  /-- What the factory has made in its run that succeeded, and nothing happens. -/
  | kept (n : Nat) (r : Recipe K I E W) (i : I) (ran : ⟨n, .ok i⟩ ∈ st.runs) :
      Answers (some ⟨n, .lazily r none⟩) (.ok (some i), st)
  /-- The factory has not succeeded yet, and is run once. -/
  | runs (n : Nat) (r : Recipe K I E W) (result : Except E I) (st₁ st' : Registry K I E W)
      (nested : List (Run I E)) (unmade : ∀ i, ⟨n, .ok i⟩ ∉ st.runs)
      (run : follow (tryResolve rules) r st = (result, st₁)) (world : st'.world = st₁.world)
      (noted : st'.runs = st.runs ++ nested ++ [⟨n, result⟩])
      (others : ∀ other ∈ nested, other.number ≠ n) :
      Answers (some ⟨n, .lazily r none⟩) (result.map some, st')

theorem world_finish (n : Nat) (r : Recipe K I E W) (result : Except E I) :
    (finish key n r (result, st)).2.world = st.world := by
  cases result <;> rfl

theorem result_finish (n : Nat) (r : Recipe K I E W) (result : Except E I) :
    (finish key n r (result, st)).1 = result.map some := by
  cases result <;> rfl

variable (consistent : st.Consistent) (layered : st.Below rules.limit)
include layered

theorem proceeds_tryResolve (p : K → Prop) (closed : st.Closed p) (member : p key) :
    st.Proceeds p (tryResolve rules key st).2 := by
  obtain ⟨rank, -, layered⟩ := layered
  exact (tryWithin_proceeds p rank rules.tooDeep rules.limit key member st ⟨closed, layered⟩).mono
    _ _ _ _ fun _ => And.left

theorem registration_tryResolve (other : K) :
    (tryResolve rules key st).2.registration other = st.registration other :=
  (proceeds_tryResolve rules st key layered _ st.closed_univ trivial).registration other

/-- A factory that has made nothing yet is followed, with as much depth as the limit gives. -/
theorem tryResolve_unmade (n : Nat) (r : Recipe K I E W)
    (bound : st.bound key = some ⟨n, .lazily r none⟩) :
    tryResolve rules key st = finish key n r (follow (tryResolve rules) r st) := by
  obtain ⟨rank, low, layered⟩ := layered
  obtain ⟨depth, limit⟩ := Nat.exists_eq_succ_of_ne_zero (Nat.ne_zero_of_lt (low key))
  have ordered : st.Ordered (fun _ => True) rank := ⟨st.closed_univ, layered⟩
  have only := ordered.asksOnly _ rank st key trivial n r bound
  have same : follow (tryWithin rules.tooDeep depth) r st = follow (tryResolve rules) r st := by
    refine follow_congr _ rank _ _ _ ?_ ?_ r only st ordered
    · intro other st' lower ordered'
      have enough : rank other < depth := by
        have high := low key
        have below := lower.2
        omega
      exact tryWithin_congr _ rank rules.tooDeep depth rules.limit other trivial st' ordered' enough
        (low other)
    · intro other st' _ ordered'
      have proceeds := tryWithin_proceeds _ rank rules.tooDeep depth other trivial st' ordered'
      exact ordered'.of_registration _ rank _ _ proceeds.registration
  rw [← same, tryResolve, limit, tryWithin, bound]

include consistent

/-- While a factory is followed it does not run once more. -/
theorem runs_of_follow (n : Nat) (r : Recipe K I E W)
    (bound : st.bound key = some ⟨n, .lazily r none⟩) :
    ∃ nested, (follow (tryResolve rules) r st).2.runs = st.runs ++ nested ∧
      ∀ other ∈ nested, other.number ≠ n := by
  obtain ⟨rank, -, layered⟩ := layered
  have ordered : st.Ordered (fun _ => True) rank := ⟨st.closed_univ, layered⟩
  have followed := follow_proceeds _ rank (tryResolve rules) _
    (fun other st' lower ordered' =>
      (tryWithin_proceeds _ rank rules.tooDeep rules.limit other trivial st' ordered').mono
        _ _ _ _ fun _ below => ⟨trivial, Nat.lt_of_le_of_lt below.2 lower.2⟩)
    r (ordered.asksOnly _ rank st key trivial n r bound) st ordered
  obtain ⟨nested, runs, owned⟩ := followed.runs
  refine ⟨nested, runs, ?_⟩
  -- A nested run under the number would be one of the key itself, which is not below its own rank.
  intro other member same
  obtain ⟨key', b, lower, registered, number⟩ := owned other member
  have this := key_of_number st consistent key' key b _ registered bound (number.trans same)
  rw [this] at lower
  exact Nat.lt_irrefl _ lower.2

theorem answers_tryResolve : Answers rules st (st.registration key) (tryResolve rules key st) := by
  have limit : rules.limit ≠ 0 := by
    obtain ⟨rank, low, -⟩ := layered
    exact Nat.ne_zero_of_lt (low key)
  obtain ⟨depth, limit⟩ := Nat.exists_eq_succ_of_ne_zero limit
  cases bound : st.bound key with
  | none =>
      have nothing : st.registration key = none := by rw [registration, bound]; rfl
      rw [nothing, tryResolve, limit, tryWithin, bound]
      exact .absent
  | some b =>
      rw [registration_eq_of_bound st key b bound]
      rcases b with ⟨n, i | ⟨r, _ | i⟩⟩
      · rw [tryResolve, limit, tryWithin, bound]
        exact .ready n i
      · rw [tryResolve_unmade rules st key layered n r bound]
        obtain ⟨nested, runs, others⟩ :=
          runs_of_follow rules st key consistent layered n r bound
        cases run : follow (tryResolve rules) r st with
        | mk result st₁ =>
            rw [run] at runs
            have noted := runs_finish st₁ key n r result
            rw [runs] at noted
            have answer := Answers.runs n r result st₁ (finish key n r (result, st₁)).2 nested
              (consistent.accords key _ bound) run (world_finish st₁ key n r result) noted others
            rw [← result_finish st₁ key n r result] at answer
            exact answer
      · rw [tryResolve, limit, tryWithin, bound]
        exact .kept n r i (consistent.accords key _ bound)

end

/-! ## Operations -/

section
variable [DecidableEq K] (rules : Rules K E) (st : Registry K I E W) (layered : st.Below rules.limit)
  (op : Operation K I E W)

include layered

theorem consistent_perform (consistent : st.Consistent) : (perform rules st op).2.Consistent := by
  have asked (key : K) : (tryResolve rules key st).2.Consistent :=
    (proceeds_tryResolve rules st key layered _ st.closed_univ trivial).consistent consistent
  cases op with
  | registers own given factory =>
      unfold perform
      dsimp only
      split
      next offer offers =>
        refine consistent_bind st own consistent offer ?_
        rintro r i rfl
        exact offered_unmade given factory r i offers
      next => exact consistent
  | resolves key =>
      have same := resolve_snd rules key st
      exact same ▸ asked key
  | triesToResolve key => exact asked key
  | elsewhere change =>
      exact ⟨consistent.numbered, consistent.noted, consistent.alone, consistent.accords,
        consistent.once⟩

theorem registration_perform (key : K) : (perform rules st op).2.registration key =
    ((op.offer? key).map fun offer => ⟨st.count, offer⟩).or (st.registration key) := by
  cases op with
  | registers own given factory =>
      unfold perform Operation.offer?
      dsimp only
      split
      next offer offers =>
        rw [registration_bind, fresh_of_offered given factory offer offers, offers]
        split <;> rfl
      next offers =>
        rw [offers, ite_self]
        rfl
  | resolves own =>
      have same := resolve_snd rules own st
      exact (congrArg (fun st : Registry K I E W => st.registration key) same).trans
        (registration_tryResolve rules st own layered key)
  | triesToResolve own => exact registration_tryResolve rules st own layered key
  | elsewhere change => rfl

end

/-! ## Histories -/

section
variable [DecidableEq K] (rules : Rules K E)

/-- All along the operations the factories ask for one another without a circle. -/
def Acyclic (st : Registry K I E W) (ops : List (Operation K I E W)) : Prop :=
  ∀ earlier later, ops = earlier ++ later → (after rules st earlier).Below rules.limit

theorem Acyclic.tail (st : Registry K I E W) (op : Operation K I E W)
    (ops : List (Operation K I E W)) (acyclic : Acyclic rules st (op :: ops)) :
    Acyclic rules (perform rules st op).2 ops := by
  intro earlier later split
  exact acyclic (op :: earlier) later (congrArg (op :: ·) split)

theorem Acyclic.later (st : Registry K I E W) (before later : List (Operation K I E W))
    (acyclic : Acyclic rules st (before ++ later)) : Acyclic rules (after rules st before) later := by
  intro earlier rest split
  have along := acyclic (before ++ earlier) rest (by rw [split, List.append_assoc])
  rw [after_append] at along
  exact along

theorem Acyclic.at_end (st : Registry K I E W) (ops : List (Operation K I E W))
    (acyclic : Acyclic rules st ops) : (after rules st ops).Below rules.limit :=
  acyclic ops [] (List.append_nil _).symm

theorem acyclic_of_ranked (rank : K → Nat) (low : ∀ key, rank key < rules.limit)
    (st : Registry K I E W) (layered : st.Layered rank) (ops : List (Operation K I E W))
    (ranked : ∀ op ∈ ops, ∀ key r, op.offer? key = some (.lazily r none) →
      r.AsksOnly fun other => rank other < rank key) : Acyclic rules st ops := by
  induction ops generalizing st with
  | nil =>
      intro earlier later split
      obtain ⟨rfl, -⟩ := List.append_eq_nil_iff.mp split.symm
      exact ⟨rank, low, layered⟩
  | cons op rest ih =>
      intro earlier later split
      have here : st.Below rules.limit := ⟨rank, low, layered⟩
      have next : Layered rank (perform rules st op).2 := by
        intro key n r registered
        rw [registration_perform rules st here op key] at registered
        cases offers : op.offer? key with
        | none =>
            rw [offers] at registered
            exact layered key n r registered
        | some offer =>
            rw [offers] at registered
            cases registered
            exact ranked op List.mem_cons_self key r offers
      cases earlier with
      | nil => exact here
      | cons first earlier =>
          obtain ⟨rfl, same⟩ := List.cons_eq_cons.mp split
          exact ih _ next (fun op member => ranked op (List.mem_cons_of_mem _ member)) earlier later
            same

section
variable (st : Registry K I E W) (ops : List (Operation K I E W))
  (acyclic : Acyclic rules st ops)
include acyclic

theorem consistent_after (consistent : st.Consistent) : (after rules st ops).Consistent := by
  induction ops generalizing st with
  | nil => exact consistent
  | cons op rest ih =>
      have first := consistent_perform rules st (acyclic [] _ rfl) op consistent
      exact ih _ acyclic.tail first

theorem registration_after (key : K) (without : ∀ op ∈ ops, op.offer? key = none) :
    (after rules st ops).registration key = st.registration key := by
  induction ops generalizing st with
  | nil => rfl
  | cons op rest ih =>
      have first := registration_perform rules st (acyclic [] _ rfl) op key
      rw [without op List.mem_cons_self] at first
      exact (ih _ acyclic.tail fun later member =>
        without later (List.mem_cons_of_mem op member)).trans first

end

/-- The last registration of a key among the operations, with its number. -/
def Latest (st : Registry K I E W) (ops : List (Operation K I E W)) (key : K) (n : Nat)
    (offer : Offer K I E W) : Prop :=
  ∃ before op later, ops = before ++ op :: later ∧ op.offer? key = some offer ∧
    (∀ other ∈ later, other.offer? key = none) ∧ n = (after rules st before).count

theorem never_or_latest (st : Registry K I E W) (ops : List (Operation K I E W)) (key : K) :
    (∀ op ∈ ops, op.offer? key = none) ∨ ∃ n offer, Latest rules st ops key n offer := by
  induction ops generalizing st with
  | nil => exact Or.inl nofun
  | cons op rest ih =>
      rcases ih (perform rules st op).2 with never | ⟨n, offer, before, o, later, rfl, found⟩
      · cases registers : op.offer? key with
        | none =>
            refine Or.inl fun other member => ?_
            rcases List.mem_cons.mp member with rfl | later
            · exact registers
            · exact never other later
        | some offer => exact Or.inr ⟨_, offer, [], op, rest, rfl, registers, never, rfl⟩
      · exact Or.inr ⟨n, offer, op :: before, o, later, rfl, found⟩

theorem registration_of_latest (st : Registry K I E W) (ops : List (Operation K I E W))
    (acyclic : Acyclic rules st ops) (key : K) (n : Nat) (offer : Offer K I E W)
    (latest : Latest rules st ops key n offer) :
    (after rules st ops).registration key = some ⟨n, offer⟩ := by
  obtain ⟨before, op, later, rfl, registers, rest, rfl⟩ := latest
  have rest' := acyclic.later rules st before (op :: later)
  have now := registration_perform rules (after rules st before) (acyclic before _ rfl) op key
  rw [registers] at now
  rw [after_append]
  exact (registration_after rules _ later rest'.tail key rest).trans now

theorem runs_of_offer (st : Registry K I E W) (op : Operation K I E W) (key : K)
    (offer : Offer K I E W) (registers : op.offer? key = some offer) :
    (perform rules st op).2.runs = st.runs := by
  cases op with
  | registers own given factory =>
      unfold perform
      dsimp only
      split <;> rfl
  | resolves own => cases registers
  | triesToResolve own => cases registers
  | elsewhere change => rfl

/-- A key keeps what it is bound to when keys are dealt with that do not need it. -/
theorem bound_of_spares (st : Registry K I E W) (layered : st.Below rules.limit)
    (op : Operation K I E W) (key : K) (without : op.offer? key = none)
    (spares : op.Spares st key) : (perform rules st op).2.bound key = st.bound key := by
  have asked (own : K) (apart : ∃ p, st.Closed p ∧ p own ∧ ¬ p key) :
      (tryResolve rules own st).2.bound key = st.bound key := by
    obtain ⟨p, closed, member, outside⟩ := apart
    exact (proceeds_tryResolve rules st own layered p closed member).others key outside
  cases op with
  | registers own given factory =>
      unfold Operation.offer? at without
      dsimp only at without
      unfold perform
      dsimp only
      split
      next offer offers =>
        have different : own ≠ key := by
          intro same
          rw [if_pos same, offers] at without
          cases without
        exact Function.update_of_ne (Ne.symm different) _ st.bound
      next => rfl
  | resolves own =>
      have same := resolve_snd rules own st
      exact same ▸ asked own spares
  | triesToResolve own => exact asked own spares
  | elsewhere change => rfl

theorem runs_of_spares (st : Registry K I E W) (consistent : st.Consistent)
    (layered : st.Below rules.limit) (op : Operation K I E W) (key : K) (b : Binding K I E W)
    (registered : st.registration key = some b) (spares : op.Spares st key) :
    ∃ new, (perform rules st op).2.runs = st.runs ++ new ∧ ∀ run ∈ new, run.number ≠ b.number := by
  have asked (own : K) (apart : ∃ p, st.Closed p ∧ p own ∧ ¬ p key) : ∃ new,
      (tryResolve rules own st).2.runs = st.runs ++ new ∧ ∀ run ∈ new, run.number ≠ b.number := by
    obtain ⟨p, closed, member, outside⟩ := apart
    obtain ⟨new, runs, owned⟩ := (proceeds_tryResolve rules st own layered p closed member).runs
    refine ⟨new, runs, ?_⟩
    intro run there same
    obtain ⟨other, b', inside, registered', number⟩ := owned run there
    obtain ⟨c, bound, rfl⟩ := Option.map_eq_some_iff.mp registered
    have this := key_of_number st consistent other key b' c registered' bound
      (number.trans (same.trans (number_fresh c)))
    rw [this] at inside
    exact outside inside
  cases op with
  | registers own given factory =>
      refine ⟨[], ?_, nofun⟩
      unfold perform
      dsimp only
      split <;> exact (List.append_nil _).symm
  | resolves own =>
      have same := resolve_snd rules own st
      exact same ▸ asked own spares
  | triesToResolve own => exact asked own spares
  | elsewhere change => exact ⟨[], (List.append_nil _).symm, nofun⟩

theorem unrun_after (st : Registry K I E W) (consistent : st.Consistent)
    (ops : List (Operation K I E W)) (acyclic : Acyclic rules st ops) (key : K)
    (b : Binding K I E W) (registered : st.registration key = some b)
    (without : ∀ op ∈ ops, op.offer? key = none)
    (spares : ∀ earlier op later, ops = earlier ++ op :: later →
      op.Spares (after rules st earlier) key)
    (unrun : ∀ run ∈ st.runs, run.number ≠ b.number) :
    ∀ run ∈ (after rules st ops).runs, run.number ≠ b.number := by
  induction ops generalizing st with
  | nil => exact unrun
  | cons op rest ih =>
      have layered := acyclic [] _ rfl
      have still := registration_perform rules st layered op key
      rw [without op List.mem_cons_self] at still
      obtain ⟨new, runs, others⟩ := runs_of_spares rules st consistent layered op key b registered
        (spares [] op rest rfl)
      refine ih _ (consistent_perform rules st layered op consistent) acyclic.tail
        (still.trans registered) (fun later member => without later (List.mem_cons_of_mem op member))
        (fun earlier o later split => spares (op :: earlier) o later (congrArg (op :: ·) split)) ?_
      intro run member
      rw [runs] at member
      rcases List.mem_append.mp member with before | now
      · exact unrun run before
      · exact others run now

/-- Both ways of asking end alike: with an instance, or with an error. -/
def AnswersBoth (key : K) (now : Registry K I E W) : Prop :=
  (∃ i st', tryResolve rules key now = (.ok (some i), st') ∧ resolve rules key now = (.ok i, st')) ∨
    ∃ e st', tryResolve rules key now = (.error e, st') ∧ resolve rules key now = (.error e, st')

/-- What is so of a key, once operations have led from one registry to the other. -/
structure Answering (st : Registry K I E W) (ops : List (Operation K I E W)) (key : K)
    (now : Registry K I E W) : Prop where
  either : (∀ op ∈ ops, op.offer? key = none) ∨ ∃ n offer, Latest rules st ops key n offer
  /-- A key that was never registered is not there. -/
  unknown : (∀ op ∈ ops, op.offer? key = none) →
    tryResolve rules key now = (.ok none, now) ∧
      resolve rules key now = (.error (rules.unknown key), now)
  /-- A key that was registered is there, and answers for its latest registration. -/
  latest : ∀ n offer, Latest rules st ops key n offer → AnswersBoth rules key now ∧
    Answers rules now (some ⟨n, offer⟩) (tryResolve rules key now)
  /-- No factory runs again after it has succeeded. -/
  once : now.runs.Pairwise Run.Closes
  /-- A factory does not run before a key that needs it is asked for. -/
  unrun : ∀ before op later offer, ops = before ++ op :: later → op.offer? key = some offer →
    (∀ other ∈ later, other.offer? key = none) →
    (∀ earlier o rest, later = earlier ++ o :: rest →
      o.Spares (after rules st (before ++ op :: earlier)) key) →
    ∀ run ∈ now.runs, run.number ≠ (after rules st before).count
  /-- The key stays registered as it is, whatever is done but to register it, -/
  others : ∀ op, op.offer? key = none →
    (perform rules now op).2.registration key = now.registration key
  /-- and keeps what it is bound to when keys are dealt with that do not need it. -/
  spared : ∀ op, op.offer? key = none → op.Spares now key →
    (perform rules now op).2.bound key = now.bound key
  /-- Without an instance and a factory a registration is refused. -/
  refused : perform rules now (.registers key none none) = (.error rules.noOffer, now)

theorem resolve_eq_of_unknown (key : K) (now : Registry K I E W)
    (unknown : tryResolve rules key now = (.ok none, now)) :
    resolve rules key now = (.error (rules.unknown key), now) := by
  rw [resolve, unknown]

theorem answersBoth_of_registered (key : K) (b : Binding K I E W) (now : Registry K I E W)
    (answers : Answers rules now (some b) (tryResolve rules key now)) :
    AnswersBoth rules key now := by
  have found (i : I) (st' : Registry K I E W)
      (same : tryResolve rules key now = (.ok (some i), st')) : AnswersBoth rules key now :=
    Or.inl ⟨i, st', same, by rw [resolve, same]⟩
  generalize ended : tryResolve rules key now = answer at answers
  cases answers with
  | ready n i => exact found i _ ended
  | kept n r i ran => exact found i _ ended
  | runs n r result st₁ st' nested =>
      cases result with
      | ok i => exact found i _ ended
      | error e => exact Or.inr ⟨e, st', ended, by rw [resolve, ended]; rfl⟩

theorem answering_after (w : W) (ops : List (Operation K I E W))
    (acyclic : Acyclic rules (empty w) ops) (key : K) :
    Answering rules (empty w) ops key (after rules (empty w) ops) := by
  have consistent := consistent_after rules (empty w) ops acyclic (consistent_empty w)
  have layered := acyclic.at_end
  have answers := answers_tryResolve rules (after rules (empty w) ops) key consistent layered
  refine ⟨never_or_latest rules (empty w) ops key, ?_, ?_, consistent.once, ?_, ?_, ?_, rfl⟩
  · intro never
    rw [registration_after rules (empty w) ops acyclic key never] at answers
    generalize ended : tryResolve rules key (after rules (empty w) ops) = answer at answers
    cases answers
    exact ⟨rfl, resolve_eq_of_unknown rules key _ ended⟩
  · intro n offer latest
    rw [registration_of_latest rules (empty w) ops acyclic key n offer latest] at answers
    exact ⟨answersBoth_of_registered rules key _ _ answers, answers⟩
  · rintro before op later offer rfl registers without spares run member
    have early : Acyclic rules (empty w) before := fun earlier rest split =>
      acyclic earlier (rest ++ op :: later) (by rw [split, List.append_assoc])
    have earlier := consistent_after rules (empty w) before early (consistent_empty w)
    have below := acyclic before _ rfl
    have now := registration_perform rules _ below op key
    rw [registers] at now
    rw [after_append] at member
    have rest := acyclic.later rules _ before (op :: later)
    refine unrun_after rules _ (consistent_perform rules _ below op earlier) later rest.tail key _ now
      without ?_ ?_ run member
    · intro first o rest split
      have spares := spares first o rest split
      rw [after_append] at spares
      exact spares
    · intro run' before'
      rw [runs_of_offer rules _ op key offer registers] at before'
      exact Nat.ne_of_lt (earlier.noted run' before')
  · intro op without
    rw [registration_perform rules _ layered op key, without]
    rfl
  · intro op without spares
    exact bound_of_spares rules _ layered op key without spares

end
end Fingerprint.Registry
