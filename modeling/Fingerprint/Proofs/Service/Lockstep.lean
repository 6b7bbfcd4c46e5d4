import Fingerprint.Proofs.Descriptor.Steps
import Fingerprint.Proofs.Disk.Pieces
import Mathlib.Data.List.Forall2

/-! # Hashers in lockstep

One pass over a file works on a list of hashers at once. `Lockstep F f` says that `F` treats a list
as `f` treats its members: it gives the members' results in their order when all have one, and each
error of `F` is that of some member. Going through a list member by member is in lockstep
(`Lockstep.ofCons`), one lockstep after another is one again (`Lockstep.bind`), and from these two
the whole pass is (`lockstep_runAll`), where each member on its own is `runFile`. -/
set_option autoImplicit false
namespace Fingerprint

structure Lockstep {α β : Type} (F : List α → Except Error (List β)) (f : α → Except Error β) :
    Prop where
  results : ∀ members answers, members ≠ [] →
    (F members = .ok answers ↔ List.Forall₂ (fun a b => f a = .ok b) members answers)
  errors : ∀ members e, members ≠ [] → F members = .error e → ∃ a ∈ members, f a = .error e

namespace Lockstep
variable {α β γ : Type}

theorem forall₂_comp_iff {R : α → β → Prop} {S : β → γ → Prop} (as : List α) (cs : List γ) :
    List.Forall₂ (fun a c => ∃ b, R a b ∧ S b c) as cs ↔
      ∃ bs, List.Forall₂ R as bs ∧ List.Forall₂ S bs cs := by
  constructor
  · intro related
    induction related with
    | nil => exact ⟨[], .nil, .nil⟩
    | cons head _ ih =>
        obtain ⟨b, first, second⟩ := head
        obtain ⟨bs, firsts, seconds⟩ := ih
        exact ⟨b :: bs, .cons first firsts, .cons second seconds⟩
  · rintro ⟨bs, firsts, seconds⟩
    induction firsts generalizing cs with
    | nil =>
        cases seconds
        exact .nil
    | cons first _ ih =>
        cases seconds with
        | cons second rest => exact .cons ⟨_, first, second⟩ (ih _ rest)

theorem ne_nil_of_forall₂ {R : α → β → Prop} {as : List α} {bs : List β}
    (related : List.Forall₂ R as bs) (nonempty : as ≠ []) : bs ≠ [] := by
  cases related with
  | nil => exact absurd rfl nonempty
  | cons => exact List.cons_ne_nil _ _

theorem mem_of_forall₂ {R : α → β → Prop} {as : List α} {bs : List β}
    (related : List.Forall₂ R as bs) (b : β) (member : b ∈ bs) : ∃ a ∈ as, R a b := by
  induction related with
  | nil => cases member
  | cons head _ ih =>
      rcases List.mem_cons.mp member with rfl | later
      · exact ⟨_, List.mem_cons_self .., head⟩
      · obtain ⟨a, earlier, same⟩ := ih later
        exact ⟨a, List.mem_cons_of_mem _ earlier, same⟩

/-- A recursion that goes through the list member by member and stops at the first error. -/
theorem ofCons (F : List α → Except Error (List β)) (f : α → Except Error β)
    (nil : F [] = .ok [])
    (cons : ∀ a rest, F (a :: rest) = f a >>= fun b => (F rest).map (b :: ·)) : Lockstep F f := by
  have results : ∀ members answers,
      F members = .ok answers ↔ List.Forall₂ (fun a b => f a = .ok b) members answers := by
    intro members
    induction members with
    | nil =>
        intro answers
        rw [nil, List.forall₂_nil_left_iff, Except.ok.injEq]
        exact eq_comm
    | cons a rest ih =>
        intro answers
        simp only [cons, bind_eq_ok_iff, map_eq_ok_iff, ih, List.forall₂_cons_left_iff]
        constructor
        · rintro ⟨b, head, bs, tail, rfl⟩
          exact ⟨b, bs, head, tail, rfl⟩
        · rintro ⟨b, bs, head, tail, rfl⟩
          exact ⟨b, head, bs, tail, rfl⟩
  have errors : ∀ members e, F members = .error e → ∃ a ∈ members, f a = .error e := by
    intro members
    induction members with
    | nil =>
        intro e ends
        rw [nil] at ends
        cases ends
    | cons a rest ih =>
        intro e ends
        rw [cons, bind_eq_error_iff] at ends
        rcases ends with head | ⟨b, -, tail⟩
        · exact ⟨a, List.mem_cons_self .., head⟩
        · obtain ⟨a', member, same⟩ := ih e ((map_eq_error_iff _ _ _).mp tail)
          exact ⟨a', List.mem_cons_of_mem _ member, same⟩
  exact ⟨fun members answers _ => results members answers, fun members e _ => errors members e⟩

theorem bind {F : List α → Except Error (List β)} {G : List β → Except Error (List γ)}
    {f : α → Except Error β} {g : β → Except Error γ} (first : Lockstep F f)
    (second : Lockstep G g) : Lockstep (fun as => F as >>= G) (fun a => f a >>= g) := by
  refine ⟨?_, ?_⟩
  · intro as cs nonempty
    simp only [bind_eq_ok_iff, forall₂_comp_iff]
    refine exists_congr fun bs => ?_
    rw [first.results as bs nonempty]
    refine and_congr_right fun related => ?_
    exact second.results bs cs (ne_nil_of_forall₂ related nonempty)
  · intro as e nonempty ends
    simp only [bind_eq_error_iff] at ends ⊢
    rcases ends with early | ⟨bs, passed, late⟩
    · obtain ⟨a, member, same⟩ := first.errors as e nonempty early
      exact ⟨a, member, Or.inl same⟩
    · have related := (first.results as bs nonempty).mp passed
      obtain ⟨b, member, same⟩ := second.errors bs e (ne_nil_of_forall₂ related nonempty) late
      obtain ⟨a, earlier, gave⟩ := mem_of_forall₂ related b member
      exact ⟨a, earlier, Or.inr ⟨b, gave, same⟩⟩

theorem pure : Lockstep (fun as : List α => .ok as) (fun a => .ok a) := by
  refine ⟨?_, ?_⟩
  · intro as bs _
    simp only [Except.ok.injEq, List.forall₂_eq_eq_eq]
  · intro as e _ ends
    cases ends

theorem fail (e : Error) :
    Lockstep (fun _ : List α => (.error e : Except Error (List β))) (fun _ => .error e) := by
  refine ⟨?_, ?_⟩
  · intro as bs nonempty
    cases as with
    | nil => exact absurd rfl nonempty
    | cons a rest => simp [List.forall₂_cons_left_iff]
  · intro as e' nonempty ends
    obtain ⟨a, member⟩ := List.exists_mem_of_ne_nil as nonempty
    cases ends
    exact ⟨a, member, rfl⟩

theorem mapError {F : List α → Except Error (List β)} {f : α → Except Error β}
    (lockstep : Lockstep F f) (g : Error → Error) :
    Lockstep (fun as => (F as).mapError g) (fun a => (f a).mapError g) := by
  refine ⟨?_, ?_⟩
  · intro as bs nonempty
    simp only [mapError_eq_ok_iff]
    exact lockstep.results as bs nonempty
  · intro as e nonempty ends
    obtain ⟨e', early, rfl⟩ := (mapError_eq_error_iff _ _ _).mp ends
    obtain ⟨a, member, same⟩ := lockstep.errors as e' nonempty early
    exact ⟨a, member, (mapError_eq_error_iff _ _ _).mpr ⟨e', same, rfl⟩⟩

theorem returns_iff {F : List α → Except Error (List β)} {f : α → Except Error β}
    (lockstep : Lockstep F f) (empty : ∃ answers, F [] = .ok answers) (members : List α) :
    (∃ answers, F members = .ok answers) ↔ ∀ a ∈ members, ∃ b, f a = .ok b := by
  by_cases none : members = []
  · subst none
    exact ⟨fun _ a member => absurd member List.not_mem_nil, fun _ => empty⟩
  · constructor
    · rintro ⟨answers, run⟩
      have related := (lockstep.results members answers none).mp run
      clear run none
      induction related with
      | nil => exact fun a member => absurd member List.not_mem_nil
      | cons head _ ih => exact List.forall_mem_cons.mpr ⟨⟨_, head⟩, ih⟩
    · intro each
      cases run : F members with
      | ok answers => exact ⟨answers, rfl⟩
      | error e =>
          obtain ⟨a, member, failed⟩ := lockstep.errors members e none run
          obtain ⟨b, gave⟩ := each a member
          rw [failed] at gave
          cases gave

end Lockstep

namespace Service
variable {η : Type}

theorem lockstep_newHashers :
    Lockstep newHashers (fun d : Descriptor η => d.newHasher.map (d, ·)) := by
  refine Lockstep.ofCons _ _ rfl ?_
  intro d rest
  rw [newHashers]
  cases d.newHasher with
  | error e => rfl
  | ok h => cases newHashers rest <;> rfl

theorem lockstep_updateAll (piece : Value) :
    Lockstep (updateAll piece)
      (fun p : Descriptor η × η => (p.1.update p.2 piece).map (p.1, ·)) := by
  refine Lockstep.ofCons _ _ rfl ?_
  rintro ⟨d, h⟩ rest
  rw [updateAll]
  cases d.update h piece with
  | error e => rfl
  | ok h' => cases updateAll piece rest <;> rfl

theorem lockstep_finalizeAll :
    Lockstep finalizeAll (fun p : Descriptor η × η => (p.1.finalize p.2).map (p.1.name, ·)) := by
  refine Lockstep.ofCons _ _ rfl ?_
  rintro ⟨d, h⟩ rest
  rw [finalizeAll]
  cases d.finalize h with
  | error e => rfl
  | ok digest => cases finalizeAll rest <;> rfl

/-- Each piece is one lockstep of all hashers, so the pieces together are. -/
theorem lockstep_takeAll (vs : List Value) :
    Lockstep
      (fun hs : List (Descriptor η × η) => vs.foldlM (fun hs piece => updateAll piece hs) hs)
      (fun p => (vs.foldlM p.1.update p.2).map (p.1, ·)) := by
  induction vs with
  | nil => exact Lockstep.pure
  | cons v rest ih =>
      have step := (lockstep_updateAll (η := η) v).bind ih
      simp only [List.foldlM_cons]
      convert step using 2 with p
      cases p.1.update p.2 v with
      | error e => rfl
      | ok h => rfl

theorem lockstep_feed (replies : List Reply) :
    Lockstep
      (fun hs : List (Descriptor η × η) =>
        (feed (fun hs piece => updateAll piece hs) hs 0 replies).1)
      (fun p => (feed p.1.update p.2 0 replies).1.map (p.1, ·)) := by
  have concluded : Lockstep (fun hs : List (Descriptor η × η) => Reply.conclude replies hs)
      (fun p => (Reply.conclude replies p.2).map (p.1, ·)) := by
    unfold Reply.conclude
    cases Reply.fault? replies with
    | none => exact Lockstep.pure
    | some f => exact Lockstep.fail (.fault f)
  have whole := (lockstep_takeAll (Reply.pieces replies)).bind concluded
  simp only [feed_fst_eq]
  convert whole using 2 with p
  cases (Reply.pieces replies).foldlM p.1.update p.2 with
  | error e => rfl
  | ok h => rfl

theorem lockstep_consume (source : Source) (path : Text) (size : Value) :
    Lockstep
      (fun hs : List (Descriptor η × η) =>
        (consume source path size (fun hs piece => updateAll piece hs) hs).1)
      (fun p => (consume source path size p.1.update p.2).1.map (p.1, ·)) := by
  by_cases refused : ∃ f, source = .refused f
  · obtain ⟨f, rfl⟩ := refused
    exact Lockstep.fail _
  · have opens : source.Opens := fun f same => refused ⟨f, same⟩
    have fed := (lockstep_feed (η := η) (source.replies size)).mapError (Error.aboutFile path)
    simp only [consume_opened source path size _ _ opens]
    convert fed using 2
    cases (feed _ _ 0 (source.replies size)).1 <;> rfl

/-- The whole pass over a file, after everything else has been checked. -/
def runAll (source : Source) (path : Text) (size : Value) (descriptors : List (Descriptor η)) :
    Except Error (List (Text × Text)) := do
  let hs ← newHashers descriptors
  let hs ← (consume source path size (fun hs piece => updateAll piece hs) hs).1
  finalizeAll hs

theorem lockstep_runAll (source : Source) (path : Text) (size : Value) :
    Lockstep (runAll source path size)
      (fun d : Descriptor η => (d.runFile source path size).map (d.name, ·)) := by
  have chain := lockstep_newHashers.bind
    ((lockstep_consume source path size).bind (lockstep_finalizeAll (η := η)))
  have alone : (fun d : Descriptor η => (d.runFile source path size).map (d.name, ·)) =
      fun d => d.newHasher.map (d, ·) >>= fun p =>
        (consume source path size p.1.update p.2).1.map (p.1, ·) >>= fun p =>
          (p.1.finalize p.2).map (p.1.name, ·) := by
    funext d
    unfold Descriptor.runFile
    cases d.newHasher with
    | error e => rfl
    | ok h =>
        simp only [Except.map, Bind.bind, Except.bind]
        cases (consume source path size d.update h).1 with
        | error e => rfl
        | ok h' => rfl
  rw [alone]
  exact chain

end Service
end Fingerprint
