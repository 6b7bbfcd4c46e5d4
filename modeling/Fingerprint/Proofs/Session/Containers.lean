import Fingerprint.Proofs.Session.Registrations
import Fingerprint.Proofs.Session.Singletons

/-! # Containers are registries

A container of a session stands for a registry whose world is the rest of the session (`Stands`).
Factories of the library are recipes over that world (`Factory.recipe`), and what is done with the
container gives and leaves what it does with the registry (`alike_perform`). -/
set_option autoImplicit false
namespace Fingerprint
open Fingerprint.Action

/-- The action does not depend on containers, and leaves them alone. -/
def Action.Aloof {α : Type} (a : Action α) : Prop :=
  ∀ (s : Session) (g : Option Container) (cs : List Container),
    runOn { s with globalContainer := g, containers := cs } a =
      ((runOn s a).1, { (runOn s a).2 with globalContainer := g, containers := cs })

namespace Session

def put (s : Session) (slot : Slot) (c : Container) : Session :=
  match slot with
  | .global => { s with globalContainer := some c }
  | .numbered n => { s with containers := s.containers.set (n - 1) c }

def Has (s : Session) : Slot → Prop
  | .global => True
  | .numbered n => n - 1 < s.containers.length

section
variable (s : Session) (slot : Slot) (c c' : Container)

theorem container_put (has : s.Has slot) :
    runOn (s.put slot c) (container slot) = (.ok c, s.put slot c) := by
  cases slot with
  | global => exact container_present _ c rfl
  | numbered n =>
      have there : (s.put (.numbered n) c).containers[n - 1]? = some c :=
        List.getElem?_set_self has
      unfold container
      rw [runOn_get_bind]
      simp only [there]
      rfl

theorem setContainer_put :
    runOn (s.put slot c) (setContainer slot c') = (.ok (), s.put slot c') := by
  cases slot with
  | global => rfl
  | numbered n =>
      have replaced : (s.containers.set (n - 1) c).set (n - 1) c' = s.containers.set (n - 1) c' :=
        List.set_set ..
      exact congrArg (fun cs => (Except.ok (), { s with containers := cs })) replaced

end

section
variable {α : Type} (a : Action α) (aloof : a.Aloof) (s : Session) (slot : Slot)
include aloof

theorem containers_of_aloof : (runOn s a).2.containers = s.containers := by
  have same := aloof s s.globalContainer s.containers
  exact congrArg (fun r => r.2.containers) same

theorem globalContainer_of_aloof : (runOn s a).2.globalContainer = s.globalContainer := by
  have same := aloof s s.globalContainer s.containers
  exact congrArg (fun r => r.2.globalContainer) same

theorem runOn_put_of_aloof (c : Container) :
    runOn (s.put slot c) a = ((runOn s a).1, (runOn s a).2.put slot c) := by
  have containers := containers_of_aloof a aloof s
  have globalContainer := globalContainer_of_aloof a aloof s
  cases slot with
  | global =>
      refine (aloof s (some c) s.containers).trans ?_
      rw [← containers]
      rfl
  | numbered n =>
      refine (aloof s s.globalContainer (s.containers.set (n - 1) c)).trans ?_
      rw [← globalContainer, ← containers]
      rfl

theorem has_of_aloof : (runOn s a).2.Has slot ↔ s.Has slot := by
  cases slot with
  | global => rfl
  | numbered n => rw [Has, Has, containers_of_aloof a aloof s]

end
/-! ## Factories as recipes -/

def nowhere : Lookup := fun _ _ => pure none

theorem aloof_newLogger (part : Settings.LoggingSection) (name : Text) (file : Option Path) :
    Action.Aloof (newLogger part name file) := by
  intro s g cs
  have journal : ({ s with globalContainer := g, containers := cs } : Session).journal =
    s.journal := rfl
  have logFile : ({ s with globalContainer := g, containers := cs } : Session).logFile =
    s.logFile := rfl
  rw [runOn_newLogger, runOn_newLogger, journal, logFile]
  dsimp only
  split <;> rfl

theorem newServiceBy_eq (ask : Lookup) (catalog : Instance) (size : Value) (logger : Instance)
    (something : catalog.isNothing = false) : newServiceBy ask catalog size logger = (do
      Action.ofFault (Service.checkChunkSize size)
      newObject fun n => .service n size catalog logger) := by
  unfold newServiceBy
  rw [something]
  rfl

theorem aloof_newServiceBy (ask : Lookup) (catalog : Instance) (size : Value) (logger : Instance)
    (something : catalog.isNothing = false) :
    Action.Aloof (newServiceBy ask catalog size logger) := by
  intro s g cs
  rw [newServiceBy_eq ask catalog size logger something]
  cases Service.checkChunkSize size <;> rfl

end Session

open Session

namespace Recipe

def ofAction (a : Action Instance) : Recipe ServiceKey Instance Error Session :=
  .acts (fun s => (runOn s a).2) fun s =>
    match (runOn s a).1 with
    | .ok i => .gives i
    | .error e => .fails e

def requires (key : ServiceKey) (next : Instance → Recipe ServiceKey Instance Error Session) :
    Recipe ServiceKey Instance Error Session :=
  .asks key fun
    | .ok (some i) => next i
    | .ok none => .fails (.fault (missing key))
    | .error e => .fails e

end Recipe

def Factory.recipe : Factory → Recipe ServiceKey Instance Error Session
  | .service size => .requires .catalog fun catalog => .requires .logger fun logger =>
    .ofAction (newServiceBy nowhere catalog (.int size) logger)
  | f => .ofAction (makeBy nowhere .global f)

theorem Factory.Gives.something (f : Factory) (i : Instance) (gives : f.Gives i)
    (useful : f ≠ .nothing) : i.isNothing = false := by
  cases gives with
  | nothing => exact absurd rfl useful
  | _ => rfl

/-- The provider is what the key of a registry is bound to. -/
inductive Provider.StandsFor : Provider → Binding ServiceKey Instance Error Session → Prop
  | ready (n : Nat) (i : Instance) (something : i.isNothing = false) :
      StandsFor (.ready i) ⟨n, .ready i⟩
  | shared (n : Nat) (f : Factory) (made : Option Instance) (useful : f ≠ .nothing)
      (something : ∀ i, made = some i → i.isNothing = false) :
      StandsFor (.shared f made) ⟨n, .lazily f.recipe made⟩

namespace Session

/-- The container in the slot binds its keys as the registry does, whose world is the rest of the
session. -/
def Stands (slot : Slot) (s : Session)
    (st : Registry ServiceKey Instance Error Session) : Prop :=
  ∃ c, s = st.world.put slot c ∧ st.world.Has slot ∧
    ∀ key, Option.Rel Provider.StandsFor (c.provider? key) (st.bound key)

/-- An action ends like a computation on a registry, which the session still stands for. -/
structure Alike (slot : Slot) {α : Type} (ran : Except Error α × Session)
    (followed : Except Error α × Registry ServiceKey Instance Error Session) : Prop where
  result : ran.1 = followed.1
  stands : ran.2.Stands slot followed.2

/-- Asking in a session and in a registry come to the same, and to something. -/
def Asking (slot : Slot) (ask : Lookup)
    (ask' : ServiceKey → Registry ServiceKey Instance Error Session →
      Except Error (Option Instance) × Registry ServiceKey Instance Error Session) : Prop :=
  ∀ key s st, s.Stands slot st → Alike slot (runOn s (ask slot key)) (ask' key st) ∧
    ∀ i, (ask' key st).1 = .ok (some i) → i.isNothing = false

section
variable (slot : Slot) (ask : Lookup)
  (ask' : ServiceKey → Registry ServiceKey Instance Error Session →
    Except Error (Option Instance) × Registry ServiceKey Instance Error Session)
  (s : Session) (st : Registry ServiceKey Instance Error Session) (stands : s.Stands slot st)
include stands

theorem alike_ofAction (a : Action Instance) (aloof : a.Aloof) :
    Alike slot (runOn s a) (Registry.follow ask' (.ofAction a) st) := by
  obtain ⟨c, rfl, has, bound⟩ := stands
  have left : Registry.follow ask' (.ofAction a) st =
      ((runOn st.world a).1, { st with world := (runOn st.world a).2 }) := by
    unfold Recipe.ofAction Registry.follow
    dsimp only
    cases (runOn st.world a).1 <;> rfl
  rw [left, runOn_put_of_aloof a aloof]
  exact ⟨rfl, c, rfl, (has_of_aloof a aloof st.world slot).mpr has, bound⟩

variable (asking : Asking slot ask ask')
include asking

theorem alike_requires (key : ServiceKey) (k : Instance → Action Instance)
    (next : Instance → Recipe ServiceKey Instance Error Session)
    (rest : ∀ i s st, i.isNothing = false → Stands slot s st →
      Alike slot (runOn s (k i)) (Registry.follow ask' (next i) st)) :
    Alike slot (runOn s (requireBy ask slot key >>= k))
      (Registry.follow ask' (.requires key next) st) := by
  obtain ⟨⟨result, after⟩, something⟩ := asking key s st stands
  unfold requireBy Recipe.requires Registry.follow
  rw [bind_assoc, runOn_bind]
  cases ran : runOn s (ask slot key) with
  | mk answer s' =>
      rw [ran] at result after
      dsimp only at result after ⊢
      rw [← result] at something ⊢
      rcases answer with e | _ | i
      · exact ⟨rfl, after⟩
      · exact ⟨rfl, after⟩
      · exact rest i s' _ (something i rfl) after

theorem alike_makeBy (f : Factory) (useful : f ≠ .nothing) :
    Alike slot (runOn s (makeBy ask slot f)) (Registry.follow ask' f.recipe st) := by
  cases f with
  | counting => exact alike_ofAction slot ask' s st stands _ fun _ _ _ => rfl
  | failing => exact alike_ofAction slot ask' s st stands _ fun _ _ _ => rfl
  | nothing => exact absurd rfl useful
  | constant t => exact alike_ofAction slot ask' s st stands _ fun _ _ _ => rfl
  | logger part => exact alike_ofAction slot ask' s st stands _ (aloof_newLogger part _ none)
  | catalog extended => exact alike_ofAction slot ask' s st stands _ fun _ _ _ => rfl
  | service size =>
      refine alike_requires slot ask ask' s st stands asking .catalog _ _ ?_
      intro catalog s₁ st₁ something stands₁
      refine alike_requires slot ask ask' s₁ st₁ stands₁ asking .logger _ _ ?_
      intro logger s₂ st₂ _ stands₂
      have same : newServiceBy ask catalog (.int size) logger =
          newServiceBy nowhere catalog (.int size) logger := by
        rw [newServiceBy_eq _ _ _ _ something, newServiceBy_eq _ _ _ _ something]
      rw [same]
      exact alike_ofAction slot ask' s₂ st₂ stands₂ _ (aloof_newServiceBy _ _ _ _ something)

end

/-! ## Asking -/

theorem bind_standsFor (c : Container) (st : Registry ServiceKey Instance Error Session)
    (bound : ∀ key, Option.Rel Provider.StandsFor (c.provider? key) (st.bound key))
    (key : ServiceKey) (p : Provider) (b : Binding ServiceKey Instance Error Session)
    (same : p.StandsFor b) (other : ServiceKey) :
    Option.Rel Provider.StandsFor ((c.bind key p).provider? other)
      (Function.update st.bound key (some b) other) := by
  by_cases this : other = key
  · subst this
    rw [c.provider?_bind_same, Function.update_self]
    exact .some same
  · rw [c.provider?_bind_other key other p this, Function.update_of_ne this]
    exact bound other

section
variable (slot : Slot) (s : Session) (st : Registry ServiceKey Instance Error Session)
  (stands : s.Stands slot st)
include stands

theorem alike_keepMade (key : ServiceKey) (n : Nat) (f : Factory) (i : Instance)
    (gives : f.Gives i) (useful : f ≠ .nothing) :
    Alike slot (runOn s (do
        keepMade slot key f i
        return some i)) (Registry.finish key n f.recipe (.ok i, st)) := by
  obtain ⟨c, rfl, has, bound⟩ := stands
  have something := gives.something f i useful
  have kept : runOn (st.world.put slot c) (keepMade slot key f i) =
      (.ok (), st.world.put slot (c.bind key (.shared f (some i)))) := by
    unfold keepMade
    rw [something]
    exact (runOn_bind_ok _ _ _ _ c (container_put _ slot c has)).trans (setContainer_put _ slot _ _)
  rw [runOn_bind_ok _ _ _ _ () kept]
  have same : (Provider.shared f (some i)).StandsFor ⟨n, .lazily f.recipe (some i)⟩ :=
    .shared n f (some i) useful fun j there => Option.some.inj there ▸ something
  exact ⟨rfl, _, rfl, has, bind_standsFor c st bound key _ _ same⟩

end

theorem asking_tryResolveWithin (slot : Slot) (depth : Nat) :
    Asking slot (tryResolveWithin depth)
      (Registry.tryWithin (.fault ⟨.other "RecursionError", []⟩) depth) := by
  induction depth with
  | zero =>
      intro key s st stands
      refine ⟨⟨rfl, stands⟩, ?_⟩
      intro i found
      cases found
  | succ depth ih =>
      intro key s st stands
      obtain ⟨c, rfl, has, bound⟩ := stands
      have here : (st.world.put slot c).Stands slot st := ⟨c, rfl, has, bound⟩
      have same := bound key
      rw [tryResolveWithin, Registry.tryWithin, runOn_bind_ok _ _ _ _ c (container_put _ slot c has)]
      generalize c.provider? key = p at same ⊢
      generalize st.bound key = b at same ⊢
      cases same with
      | none =>
          refine ⟨⟨rfl, here⟩, ?_⟩
          intro i found
          cases found
      | some same =>
          cases same with
          | ready n i something =>
              refine ⟨⟨rfl, here⟩, ?_⟩
              intro j found
              cases found
              exact something
          | shared n f made useful something =>
              cases made with
              | some i =>
                  refine ⟨⟨rfl, here⟩, ?_⟩
                  intro j found
                  cases found
                  exact something i rfl
              | none =>
                  have made := alike_makeBy slot _ _ _ st here ih f useful
                  obtain ⟨result, after⟩ := made
                  dsimp only
                  rw [runOn_bind]
                  generalize followed : Registry.follow
                    (Registry.tryWithin (.fault ⟨.other "RecursionError", []⟩) depth) f.recipe st =
                      ended at result after ⊢
                  obtain ⟨answer, st₁⟩ := ended
                  cases ran : runOn (st.world.put slot c) (makeBy (tryResolveWithin depth) slot f) with
                  | mk answer' s₁ =>
                      rw [ran] at result after
                      cases result
                      cases answer with
                      | error e =>
                          refine ⟨⟨rfl, after⟩, ?_⟩
                          intro j found
                          cases found
                      | ok i =>
                          have gives := gives_of_makeBy _ slot f _ s₁ i ran
                          refine ⟨alike_keepMade slot s₁ st₁ after key n f i gives useful, ?_⟩
                          intro j found
                          cases found
                          exact gives.something f i useful
end Session

/-! ## Calls -/

inductive ContainerCall where
  | registers (key : ServiceKey) (i : Instance) (f : Option Factory)
  | resolves (key : ServiceKey)
  | triesToResolve (key : ServiceKey)

namespace ContainerCall

def action (slot : Slot) : ContainerCall → Action (Option Instance)
  | registers key i f => do
    register slot key i f
    return none
  | resolves key => do return some (← resolve slot key)
  | triesToResolve key => tryResolve slot key

def operation : ContainerCall → Registry.Operation ServiceKey Instance Error Session
  | registers key i f => .registers key (if i.isNothing then none else some i) (f.map Factory.recipe)
  | resolves key => .resolves key
  | triesToResolve key => .triesToResolve key

def Useful : ContainerCall → Prop
  | registers _ _ f => f ≠ some .nothing
  | resolves _ | triesToResolve _ => True

end ContainerCall

namespace Session

def containerRules : Registry.Rules ServiceKey Error where
  limit := 5
  tooDeep := .fault ⟨.other "RecursionError", []⟩
  noOffer := .fault ⟨.value, ["Must provide either implementation or factory"]⟩
  unknown key := .fault (missing key)

def afterCalls (slot : Slot) (s : Session) (calls : List ContainerCall) : Session :=
  calls.foldl (fun s call => (runOn s (call.action slot)).2) s

section
variable (slot : Slot) (s : Session) (st : Registry ServiceKey Instance Error Session)
  (stands : s.Stands slot st)
include stands

theorem alike_register (key : ServiceKey) (i : Instance) (f : Option Factory)
    (useful : f ≠ some .nothing) :
    Alike slot (runOn s ((ContainerCall.registers key i f).action slot))
      (Registry.perform containerRules st (ContainerCall.registers key i f).operation) := by
  obtain ⟨c, rfl, has, bound⟩ := stands
  have binds (p : Provider) (offer : Offer ServiceKey Instance Error Session)
      (accepts : c.register key i f = .ok (c.bind key p)) (same : p.StandsFor ⟨st.count, offer⟩) :
      Alike slot (runOn (st.world.put slot c) ((ContainerCall.registers key i f).action slot))
        (.ok none, st.bind key offer) := by
    have run : runOn (st.world.put slot c) (register slot key i f) =
        (.ok (), st.world.put slot (c.bind key p)) := by
      unfold register
      rw [runOn_bind_ok _ _ _ _ c (container_put _ slot c has), accepts]
      exact setContainer_put _ slot _ _
    unfold ContainerCall.action
    rw [runOn_bind_ok _ _ _ _ () run]
    exact ⟨rfl, _, rfl, has, bind_standsFor c st bound key p _ same⟩
  unfold ContainerCall.operation Registry.perform
  dsimp only
  cases nothing : i.isNothing with
  | false =>
      rw [if_neg Bool.false_ne_true]
      exact binds (.ready i) (.ready i) (by simp [Container.register, nothing])
        (.ready _ i nothing)
  | true =>
      rw [if_pos rfl]
      cases f with
      | some f =>
          exact binds (.shared f none) (.lazily f.recipe none) (by simp [Container.register, nothing])
            (.shared _ f none (fun same => useful (congrArg some same)) fun i made => by cases made)
      | none =>
          have refuses : c.register key i none =
              .error ⟨.value, ["Must provide either implementation or factory"]⟩ := by
            unfold Container.register
            rw [nothing]
            rfl
          have run : runOn (st.world.put slot c) (register slot key i none) =
              (.error containerRules.noOffer, st.world.put slot c) := by
            unfold register
            rw [runOn_bind_ok _ _ _ _ c (container_put _ slot c has), refuses]
            rfl
          unfold ContainerCall.action
          rw [runOn_bind, run]
          exact ⟨rfl, c, rfl, has, bound⟩

theorem alike_perform (call : ContainerCall) (useful : call.Useful) :
    Alike slot (runOn s (call.action slot)) (Registry.perform containerRules st call.operation) := by
  have asked (key : ServiceKey) := (asking_tryResolveWithin slot 5 key s st stands).1
  cases call with
  | registers key i f => exact alike_register slot s st stands key i f useful
  | triesToResolve key => exact asked key
  | resolves key =>
      obtain ⟨result, after⟩ := asked key
      have found : Registry.tryWithin (.fault ⟨.other "RecursionError", []⟩) 5 key st =
        Registry.tryResolve containerRules key st := rfl
      rw [found] at result after
      unfold ContainerCall.action ContainerCall.operation Registry.perform Registry.resolve resolve
        requireBy
      dsimp only
      rw [bind_assoc, runOn_bind]
      cases ran : runOn s (tryResolve slot key) with
      | mk answer s' =>
          have same : runOn s (tryResolveWithin 5 slot key) = (answer, s') := ran
          rw [same] at result after
          cases asked : Registry.tryResolve containerRules key st with
          | mk answer' st' =>
              rw [asked] at result after
              cases result
              rcases answer with e | _ | i <;> exact ⟨rfl, after⟩

theorem stands_afterCalls (calls : List ContainerCall) (useful : ∀ call ∈ calls, call.Useful) :
    (s.afterCalls slot calls).Stands slot
      (Registry.after containerRules st (calls.map ContainerCall.operation)) := by
  induction calls generalizing s st with
  | nil => exact stands
  | cons call rest ih =>
      have first := alike_perform slot s st stands call (useful call List.mem_cons_self)
      exact ih _ _ first.stands fun later member => useful later (List.mem_cons_of_mem call member)

end

theorem stands_empty (s : Session) (slot : Slot) (has : s.Has slot) (serial : Nat) :
    (s.put slot ⟨serial, []⟩).Stands slot (.empty s) := ⟨_, rfl, has, fun _ => .none⟩

end Session
end Fingerprint
