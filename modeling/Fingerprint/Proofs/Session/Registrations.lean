import Fingerprint.Proofs.Session.Frames

/-! # What stays registered

A key stays registered with what it was registered with, whether its factory has made something by
now or not (`registered`). Looking keys up, reporting, loading settings and hashing may fill in what
a factory makes, and the container when it is first needed; they change no registration and do not
touch the mark of a start (`Keeps`), however they end. -/
set_option autoImplicit false
namespace Fingerprint
open Fingerprint.Action

inductive Factory.Gives : Factory → Instance → Prop
  | counting (n : Nat) (run : List Value) : Gives .counting (.value n (.list run))
  | nothing : Gives .nothing .nothing
  | constant (t : Text) (n : Nat) : Gives (.constant t) (.value n (.text t))
  | logger (part : Settings.LoggingSection) (n : Nat) (name : Text) :
      Gives (.logger part) (.logger n name)
  | catalog (extended : Bool) (n : Nat) (c : Catalog Hasher) :
      Gives (.catalog extended) (.catalog n c)
  | service (chunkSize : Int) (n : Nat) (size : Value) (catalog logger : Instance) :
      Gives (.service chunkSize) (.service n size catalog logger)

namespace Provider

/-- As it was registered, before anything was made. -/
def fresh : Provider → Provider
  | ready i => .ready i
  | shared f _ => .shared f none

/-- A provider stays as it is, or now holds what its factory has made. -/
inductive Becomes : Provider → Provider → Prop
  | same (p : Provider) : Becomes p p
  | made (f : Factory) (before : Option Instance) (i : Instance) (gives : f.Gives i)
      (something : i.isNothing = false) : Becomes (.shared f before) (.shared f (some i))

theorem Becomes.trans (p q r : Provider) (first : p.Becomes q) (second : q.Becomes r) :
    p.Becomes r := by
  cases second with
  | same => exact first
  | made f before i gives something =>
      cases first with
      | same => exact .made f before i gives something
      | made _ earlier => exact .made f earlier i gives something

theorem Becomes.refl (p : Option Provider) : Option.Rel Becomes p p := by
  cases p with
  | none => exact .none
  | some p => exact .some (.same p)

theorem Becomes.trans_rel (p q r : Option Provider) (first : Option.Rel Becomes p q)
    (second : Option.Rel Becomes q r) : Option.Rel Becomes p r := by
  cases first with
  | none => exact second
  | some earlier =>
      cases second with
      | some later => exact .some (earlier.trans _ _ _ later)

theorem fresh_of_becomes (p q : Provider) (becomes : p.Becomes q) : q.fresh = p.fresh := by
  cases becomes <;> rfl

theorem fresh_of_rel (p q : Option Provider) (becomes : Option.Rel Becomes p q) :
    q.map fresh = p.map fresh := by
  cases becomes with
  | none => rfl
  | some becomes => exact congrArg some (fresh_of_becomes _ _ becomes)

end Provider

namespace Session

/-- What a key has been registered with in the container for the whole program. -/
def registered (s : Session) (key : ServiceKey) : Option Provider :=
  (s.provided key).map Provider.fresh

/-- The later session has the same registrations, of which more may have been made by now. -/
structure Keeps (s s' : Session) : Prop where
  started : s'.started = s.started
  provided : ∀ key, Option.Rel Provider.Becomes (s.provided key) (s'.provided key)

namespace Keeps

theorem of_same (s s' : Session) (started : s'.started = s.started)
    (same : ∀ key, s'.provided key = s.provided key) : s.Keeps s' := by
  refine ⟨started, ?_⟩
  intro key
  rw [same key]
  exact Provider.Becomes.refl _

theorem refl (s : Session) : s.Keeps s := of_same s s rfl fun _ => rfl

theorem trans (s s' s'' : Session) (first : s.Keeps s') (second : s'.Keeps s'') : s.Keeps s'' := by
  refine ⟨second.started.trans first.started, ?_⟩
  intro key
  exact Provider.Becomes.trans_rel _ _ _ (first.provided key) (second.provided key)

theorem registered (s s' : Session) (keeps : s.Keeps s') (key : ServiceKey) :
    s'.registered key = s.registered key :=
  Provider.fresh_of_rel _ _ (keeps.provided key)

end Keeps

theorem Continues.keeps (s s' : Session) (continues : Continues s s')
    (same : ∀ key, s'.provided key = s.provided key) : s.Keeps s' :=
  .of_same s s' continues.started same

end Session

/-! ## Actions that keep what is registered -/

instance : Session.Frame Session.Keeps where
  trans := Session.Keeps.trans
  still s s' quiet := .of_same s s' quiet.started quiet.provided

/-- However it ends, the action leaves the registrations as they were. -/
abbrev Action.Keeps {α : Type} (a : Action α) : Prop := Action.Within Session.Keeps a

namespace Session

theorem keeps_noteEvents (events : List FileEvent) : Action.Keeps (noteEvents events) :=
  .modify _ fun s => .of_same s _ rfl fun _ => rfl

/-! ## Looking keys up -/

theorem gives_of_newObject (s s' : Session) (make : Nat → Instance) (i : Instance)
    (run : runOn s (newObject make) = (.ok i, s')) : ∃ n, i = make n := by
  cases run
  exact ⟨s.objects, rfl⟩

theorem gives_of_newLogger (s s' : Session) (part : Settings.LoggingSection) (name : Text)
    (file : Option Path) (i : Instance) (run : runOn s (newLogger part name file) = (.ok i, s')) :
    ∃ n, i = .logger n name := by
  rw [runOn_newLogger] at run
  split at run
  · cases run
    exact ⟨_, rfl⟩
  · cases run

theorem gives_of_makeBy (ask : Lookup) (slot : Slot) (f : Factory) (s s' : Session) (i : Instance)
    (run : runOn s (makeBy ask slot f) = (.ok i, s')) : f.Gives i := by
  cases f with
  | counting =>
      cases run
      exact .counting _ _
  | failing => cases run
  | nothing =>
      cases run
      exact .nothing
  | constant t =>
      cases run
      exact .constant _ _
  | logger part =>
      obtain ⟨n, rfl⟩ := gives_of_newLogger s s' part _ none i run
      exact .logger _ _ _
  | catalog extended =>
      cases run
      exact .catalog _ _ _
  | service size =>
      obtain ⟨catalog, s₁, -, run⟩ := runOn_bind_eq_ok _ _ _ _ _ run
      obtain ⟨logger, s₂, -, run⟩ := runOn_bind_eq_ok _ _ _ _ _ run
      obtain ⟨_, s₃, -, run⟩ := runOn_bind_eq_ok _ _ _ _ _ run
      dsimp only at run
      split at run
      · obtain ⟨standard, s₄, -, run⟩ := runOn_bind_eq_ok _ _ _ _ _ run
        obtain ⟨n, rfl⟩ := gives_of_newObject _ _ _ _ run
        exact .service _ _ _ _ _
      · obtain ⟨same, s₄, -, run⟩ := runOn_bind_eq_ok _ _ _ _ _ run
        obtain ⟨n, rfl⟩ := gives_of_newObject _ _ _ _ run
        exact .service _ _ _ _ _

theorem keeps_keepMade (s : Session) (slot : Slot) (key : ServiceKey) (f : Factory) (i : Instance)
    (gives : f.Gives i)
    (bound : slot = .global → ∃ before, s.provided key = some (.shared f before)) :
    s.Keeps (runOn s (keepMade slot key f i)).2 := by
  cases something : i.isNothing with
  | true =>
      unfold keepMade
      rw [something]
      exact .refl s
  | false =>
      cases slot with
      | numbered n =>
          have read : Action.Keeps (container (.numbered n)) := still_container _
          unfold keepMade
          rw [something]
          exact Action.Within.bind read
            (fun c => .modify (fun s => { s with containers := s.containers.set (n - 1) _ })
              fun s => .of_same s _ rfl fun _ => rfl) s
      | global =>
          obtain ⟨before, there⟩ := bound rfl
          obtain ⟨s', kept, binds⟩ := keepMade_returns s key f i something
          rw [kept]
          refine ⟨binds.continues.started, ?_⟩
          intro other
          by_cases this : other = key
          · subst this
            rw [there, binds.bound]
            exact .some (.made f before i gives something)
          · rw [binds.others other this]
            exact Provider.Becomes.refl _

theorem keeps_making (ask : Lookup) (asking : ∀ slot key, Action.Keeps (ask slot key)) (s : Session)
    (slot : Slot) (key : ServiceKey) (f : Factory)
    (bound : slot = .global → s.provided key = some (.shared f none)) :
    s.Keeps (runOn s (do
      let i ← makeBy ask slot f
      keepMade slot key f i
      return some i)).2 := by
  have first := within_makeBy ask asking slot f s
  rw [runOn_bind]
  cases makes : runOn s (makeBy ask slot f) with
  | mk result s₁ =>
      rw [makes] at first
      cases result with
      | error e => exact first
      | ok i =>
          have gives := gives_of_makeBy ask slot f s s₁ i makes
          -- Whether something was made for the key meanwhile does not matter: it is replaced.
          have still : slot = .global → ∃ before, s₁.provided key = some (.shared f before) := by
            intro global
            have after := first.provided key
            rw [bound global] at after
            generalize s₁.provided key = q at after ⊢
            cases after with
            | some becomes =>
                cases becomes with
                | same => exact ⟨none, rfl⟩
                | made _ _ i' => exact ⟨some i', rfl⟩
          have second := keeps_keepMade s₁ slot key f i gives still
          refine first.trans _ _ _ ?_
          dsimp only
          rw [runOn_bind]
          cases kept : runOn s₁ (keepMade slot key f i) with
          | mk result s₂ =>
              rw [kept] at second
              cases result with
              | error e => exact second
              | ok _ => exact second

theorem keeps_tryResolveWithin (depth : Nat) (slot : Slot) (key : ServiceKey) :
    Action.Keeps (tryResolveWithin depth slot key) := by
  induction depth generalizing slot key with
  | zero => exact .fail _
  | succ depth ih =>
      intro s
      have first : s.Keeps (runOn s (container slot)).2 := still_container slot s
      unfold tryResolveWithin
      rw [runOn_bind]
      cases found : runOn s (container slot) with
      | mk result s₁ =>
          rw [found] at first
          cases result with
          | error e => exact first
          | ok c =>
              refine first.trans _ _ _ ?_
              dsimp only
              cases bound : c.provider? key with
              | none => exact .refl s₁
              | some p =>
                  cases p with
                  | ready i => exact .refl s₁
                  | shared f made =>
                      cases made with
                      | some i => exact .refl s₁
                      | none =>
                          refine keeps_making _ ih s₁ slot key f ?_
                          rintro rfl
                          obtain ⟨c', s', found', present, -⟩ := container_returns s
                          cases found.symm.trans found'
                          rw [provided, present]
                          exact bound

theorem keeps_tryResolve (slot : Slot) (key : ServiceKey) : Action.Keeps (tryResolve slot key) :=
  keeps_tryResolveWithin 5 slot key

theorem keeps_resolve (slot : Slot) (key : ServiceKey) : Action.Keeps (resolve slot key) :=
  within_requireBy tryResolve keeps_tryResolve slot key

theorem keeps_loadSettings (named : Option Path) (directory : Value) (strict : Bool) :
    Action.Keeps (loadSettings named directory strict) :=
  within_diagnoseBy tryResolve keeps_tryResolve fun h => Settings.load h named directory strict

/-! ## Hashing -/

theorem keeps_reported {α : Type} (logger : Instance)
    (outcome : Except Error (Option α × List Record)) : Action.Keeps (reported logger outcome) :=
  within_reported keeps_tryResolve logger outcome

theorem keeps_hashData (i : Instance) (algorithm v : Value) :
    Action.Keeps (hashData i algorithm v) :=
  .bind (.ofFault _) fun _ => keeps_reported _ _

theorem keeps_hashFile (i : Instance) (algorithm path : Value) :
    Action.Keeps (hashFile i algorithm path) :=
  .bind (.ofFault _) fun _ => .bind .get fun _ => .bind (keeps_noteEvents _) fun _ =>
    keeps_reported _ _

theorem keeps_hashFileMany (i : Instance) (path algorithms : Value) :
    Action.Keeps (hashFileMany i path algorithms) :=
  .bind (.ofFault _) fun _ => .bind .get fun _ => .bind (keeps_noteEvents _) fun _ =>
    keeps_reported _ _

end Session
end Fingerprint
