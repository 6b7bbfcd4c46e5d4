import Fingerprint.Proofs.Session.ChunkSize
import Fingerprint.Proofs.Session.Containers
import Fingerprint.Proofs.Session.StartUp

/-! # The services of a started program

After a start the four keys are wired to one another (`Wired`): the service is over the catalog and
the logger that the container holds itself. Resolving a key keeps what is held already
(`wired_resolve`), so the order in which the keys are resolved does not matter. -/
set_option autoImplicit false
namespace Fingerprint
open Fingerprint.Action

def Provider.held : Provider → Option Instance
  | ready i => some i
  | shared _ made => made

namespace Session

def held (s : Session) (key : ServiceKey) : Option Instance := (s.provided key).bind Provider.held

theorem held_of_provided (s s' : Session) (key : ServiceKey)
    (same : s'.provided key = s.provided key) : s'.held key = s.held key :=
  congrArg (·.bind Provider.held) same

theorem held_eq (s : Session) (key : ServiceKey) (p : Provider) (bound : s.provided key = some p) :
    s.held key = p.held := by
  rw [held, bound]
  rfl

theorem provided_of_registered (s : Session) (key : ServiceKey) (f : Factory)
    (registered : s.registered key = some (.shared f none)) :
    s.provided key = some (.shared f (s.held key)) := by
  obtain ⟨p, bound, same⟩ := Option.map_eq_some_iff.mp registered
  cases p with
  | ready i => cases same
  | shared f' made =>
      cases same
      rw [held_eq s key _ bound, bound]
      rfl

/-- The instance is of the kind that the settings ask for; a service is over the catalog and the
logger that are held. -/
def Fits (s : Session) (from_ : Settings) : ServiceKey → Instance → Prop
  | .settings, i => ∃ serial, i = .settings serial from_
  | .logger, i => ∃ n, i = .logger n defaultLoggerName
  | .catalog, i => ∃ n, i = .catalog n (Catalog.standard s.faults (.bool from_.digest.extended))
  | .service, i => ∃ n catalog logger, i = .service n (.int from_.digest.chunkSize) catalog logger ∧
      s.held .catalog = some catalog ∧ s.held .logger = some logger
  | .text, _ | .number, _ => True

/-- The four keys are registered as by a start, and what is held for them fits. -/
structure Wired (s : Session) (from_ : Settings) : Prop where
  registered : ∃ serial, ∀ key ∈ startKeys, s.registered key = offered serial from_ key
  fits : ∀ key i, key ∈ startKeys → s.held key = some i → s.Fits from_ key i
  opens : s.Settled from_.logging

/-- A key is answered with what is held for it from then on; what was held before stays. -/
structure Fills (s : Session) (from_ : Settings) (key : ServiceKey) (i : Instance)
    (s' : Session) : Prop where
  wired : s'.Wired from_
  held : s'.held key = some i
  keeps : ∀ other j, s.held other = some j → s'.held other = some j

theorem Fits.of_keeps (s s' : Session) (from_ : Settings) (key : ServiceKey) (i : Instance)
    (fits : s.Fits from_ key i)
    (keeps : ∀ other j, s.held other = some j → s'.held other = some j)
    (faults : s'.faults = s.faults) : s'.Fits from_ key i := by
  cases key with
  | catalog =>
      unfold Fits
      rw [faults]
      exact fits
  | service =>
      obtain ⟨n, catalog, logger, same, held, held'⟩ := fits
      exact ⟨n, catalog, logger, same, keeps _ _ held, keeps _ _ held'⟩
  | _ => exact fits

section
variable (s : Session) (from_ : Settings) (wired : s.Wired from_)
include wired

theorem Wired.fills_held (key : ServiceKey) (i : Instance) (held : s.held key = some i) :
    s.Fills from_ key i s := ⟨wired, held, fun _ _ => id⟩

theorem Wired.fills_made (s' : Session) (key : ServiceKey) (f : Factory) (i : Instance)
    (before : s.provided key = some (.shared f none))
    (bound : s'.provided key = some (.shared f (some i)))
    (others : ∀ other, other ≠ key → s'.provided other = s.provided other)
    (faults : s'.faults = s.faults) (opens : s'.Settled from_.logging)
    (fits : s'.Fits from_ key i) : s.Fills from_ key i s' := by
  have held : s'.held key = some i := held_eq s' key _ bound
  have keeps (other : ServiceKey) (j : Instance) (there : s.held other = some j) :
      s'.held other = some j := by
    by_cases this : other = key
    · rw [this, held_eq s key _ before] at there
      cases there
    · exact (held_of_provided s s' other (others other this)).trans there
  have registered (other : ServiceKey) : s'.registered other = s.registered other := by
    unfold Session.registered
    by_cases this : other = key
    · rw [this, before, bound]
      rfl
    · rw [others other this]
  refine ⟨⟨?_, ?_, opens⟩, held, keeps⟩
  · obtain ⟨serial, same⟩ := wired.registered
    exact ⟨serial, fun other member => (registered other).trans (same other member)⟩
  · intro other j member there
    by_cases this : other = key
    · subst this
      cases held.symm.trans there
      exact fits
    · have earlier := (held_of_provided s s' other (others other this)).symm.trans there
      exact (wired.fits other j member earlier).of_keeps s s' from_ other j keeps faults

/-- The key of a factory holds something that fits, or its factory is still to be asked. -/
theorem Wired.kept_or_unmade (depth : Nat) (key : ServiceKey) (f : Factory)
    (member : key ∈ startKeys) (offers : ∀ serial, offered serial from_ key = some (.shared f none)) :
    (∃ i, s.Fits from_ key i ∧ s.held key = some i ∧
      runOn s (tryResolveWithin (depth + 1) .global key) = (.ok (some i), s)) ∨
    s.provided key = some (.shared f none) := by
  obtain ⟨serial, registered⟩ := wired.registered
  have bound := s.provided_of_registered key f ((registered key member).trans (offers serial))
  cases held : s.held key with
  | none =>
      rw [held] at bound
      exact Or.inr bound
  | some i =>
      rw [held] at bound
      exact Or.inl ⟨i, wired.fits key i member held, rfl, tryResolve_kept depth s key f i bound⟩

variable (depth : Nat)

theorem wired_settings : ∃ i, runOn s (tryResolveWithin (depth + 1) .global .settings) =
    (.ok (some i), s) ∧ s.Fills from_ .settings i s := by
  obtain ⟨serial, registered⟩ := wired.registered
  obtain ⟨p, bound, same⟩ := Option.map_eq_some_iff.mp (registered .settings (by decide))
  cases p with
  | shared f made => cases same
  | ready i =>
      exact ⟨i, tryResolve_ready depth s .settings i bound,
        wired.fills_held s from_ _ i (held_eq s _ _ bound)⟩

theorem wired_catalog : ∃ i s', runOn s (tryResolveWithin (depth + 1) .global .catalog) =
    (.ok (some i), s') ∧ s.Fills from_ .catalog i s' ∧ i.isNothing = false ∧
      ∀ other, other ≠ .catalog → s'.provided other = s.provided other := by
  rcases wired.kept_or_unmade s from_ depth .catalog _ (by decide) fun _ => rfl with
    ⟨i, ⟨n, rfl⟩, held, found⟩ | bound
  · exact ⟨_, s, found, wired.fills_held s from_ _ _ held, rfl, fun _ _ => rfl⟩
  · let s₁ : Session := { s with objects := s.objects + 1 }
    have made : runOn s (makeBy (tryResolveWithin depth) .global (.catalog from_.digest.extended)) =
        (.ok (.catalog s.objects (Catalog.standard s.faults (.bool from_.digest.extended))), s₁) := rfl
    obtain ⟨s', found, binds⟩ := tryResolve_makes depth s s₁ .catalog _ bound _ made rfl
    have continues : Continues s s' :=
      Continues.trans s s₁ s' ⟨rfl, rfl, rfl, rfl, rfl, rfl, rfl⟩ binds.continues
    refine ⟨_, s', found, ?_, rfl, binds.others⟩
    refine wired.fills_made s from_ s' _ _ _ bound binds.bound binds.others continues.faults ?_
      ⟨s.objects, by rw [continues.faults]⟩
    intro fresh
    rw [binds.others .logger (by decide)] at fresh
    exact (continues.opens_iff s s' _).mpr (wired.opens fresh)

theorem wired_logger : ∃ i s', runOn s (tryResolveWithin (depth + 1) .global .logger) =
    (.ok (some i), s') ∧ s.Fills from_ .logger i s' ∧
      ∀ other, other ≠ .logger → s'.provided other = s.provided other := by
  rcases wired.kept_or_unmade s from_ depth .logger _ (by decide) fun _ => rfl with
    ⟨i, -, held, found⟩ | bound
  · exact ⟨i, s, found, wired.fills_held s from_ _ i held, fun _ _ => rfl⟩
  · rcases tryResolve_logger depth s from_.logging (Or.inl bound) with
      ⟨-, n, s', found, bound', others, faults⟩ | ⟨closed, -⟩
    · have keeps := keeps_tryResolveWithin (depth + 1) .global .logger s
      rw [found] at keeps
      refine ⟨_, s', found, ?_, others⟩
      refine wired.fills_made s from_ s' _ _ _ bound bound' others faults ?_ ⟨n, rfl⟩
      intro fresh
      cases bound'.symm.trans fresh
    · exact absurd wired.opens closed

theorem wired_service (positive : 0 < from_.digest.chunkSize) :
    ∃ i s', runOn s (tryResolveWithin (depth + 2) .global .service) = (.ok (some i), s') ∧
      s.Fills from_ .service i s' := by
  rcases wired.kept_or_unmade s from_ (depth + 1) .service _ (by decide) fun _ => rfl with
    ⟨i, -, held, found⟩ | bound
  · exact ⟨i, s, found, wired.fills_held s from_ _ i held⟩
  · obtain ⟨catalog, s₁, foundCatalog, first, something, others₁⟩ := wired_catalog s from_ wired depth
    obtain ⟨logger, s₂, foundLogger, second, others₂⟩ := wired_logger s₁ from_ first.wired depth
    have requireCatalog := resolve_eq (depth + 1) s s₁ .catalog catalog foundCatalog
    have requireLogger := resolve_eq (depth + 1) s₁ s₂ .logger logger foundLogger
    have checked := Service.checkChunkSize_of_accepted (.int from_.digest.chunkSize)
      (Value.nonpositive_of_positive _ positive)
    let s₃ : Session := { s₂ with objects := s₂.objects + 1 }
    have makes : runOn s (makeBy (tryResolveWithin (depth + 1)) .global
        (.service from_.digest.chunkSize)) =
        (.ok (.service s₂.objects (.int from_.digest.chunkSize) catalog logger), s₃) := by
      unfold makeBy
      rw [runOn_bind_ok s s₁ _ _ catalog requireCatalog, runOn_bind_ok s₁ s₂ _ _ _ requireLogger]
      unfold newServiceBy
      rw [checked, something]
      rfl
    obtain ⟨s', found, binds⟩ := tryResolve_makes (depth + 1) s s₃ .service _ bound _ makes rfl
    have bound₂ : s₂.provided .service = some (.shared (.service from_.digest.chunkSize) none) := by
      rw [others₂ _ (by decide), others₁ _ (by decide), bound]
    have continues : Continues s₂ s' :=
      Continues.trans s₂ s₃ s' ⟨rfl, rfl, rfl, rfl, rfl, rfl, rfl⟩ binds.continues
    have stays (other : ServiceKey) (different : other ≠ .service) : s'.held other = s₂.held other :=
      held_of_provided s₂ s' other (binds.others other different)
    have fits : s'.Fits from_ .service
        (.service s₂.objects (.int from_.digest.chunkSize) catalog logger) := by
      refine ⟨_, catalog, logger, rfl, ?_, ?_⟩
      · exact (stays _ (by decide)).trans (second.keeps _ _ first.held)
      · exact (stays _ (by decide)).trans second.held
    have fills := second.wired.fills_made s₂ from_ s' _ _ _ bound₂ binds.bound binds.others
      continues.faults (by
        intro fresh
        rw [binds.others .logger (by decide)] at fresh
        exact (continues.opens_iff s₂ s' _).mpr (second.wired.opens fresh)) fits
    exact ⟨_, s', found, fills.wired, fills.held,
      fun other j held => fills.keeps other j (second.keeps other j (first.keeps other j held))⟩

theorem wired_resolve (positive : 0 < from_.digest.chunkSize) (key : ServiceKey)
    (member : key ∈ startKeys) :
    ∃ i s', runOn s (resolve .global key) = (.ok i, s') ∧ s.Fills from_ key i s' := by
  have found : ∃ i s', runOn s (tryResolveWithin 5 .global key) = (.ok (some i), s') ∧
      s.Fills from_ key i s' := by
    rcases (mem_startKeys_iff key).mp member with rfl | rfl | rfl | rfl
    · obtain ⟨i, run, fills⟩ := wired_settings s from_ wired 4
      exact ⟨i, s, run, fills⟩
    · obtain ⟨i, s', run, fills, -⟩ := wired_logger s from_ wired 4
      exact ⟨i, s', run, fills⟩
    · obtain ⟨i, s', run, fills, -⟩ := wired_catalog s from_ wired 4
      exact ⟨i, s', run, fills⟩
    · exact wired_service s from_ wired 3 positive
  obtain ⟨i, s', run, fills⟩ := found
  exact ⟨i, s', resolve_eq 5 s s' key i run, fills⟩

theorem wired_resolveAll (positive : 0 < from_.digest.chunkSize) (keys : List ServiceKey)
    (members : ∀ key ∈ keys, key ∈ startKeys) :
    ∃ found s', runOn s (keys.mapM (resolve .global)) = (.ok found, s') ∧ s'.Wired from_ ∧
      (∀ key i, s.held key = some i → s'.held key = some i) ∧
      ∀ last : Session, (∀ key i, s'.held key = some i → last.held key = some i) →
        keys.map last.held = found.map some := by
  induction keys generalizing s with
  | nil => exact ⟨[], s, rfl, wired, fun _ _ => id, fun _ _ => rfl⟩
  | cons key rest ih =>
      obtain ⟨i, s₁, run, fills⟩ :=
        wired_resolve s from_ wired positive key (members key List.mem_cons_self)
      obtain ⟨found, s', others, after, keeps, held⟩ :=
        ih s₁ fills.wired fun later member => members later (List.mem_cons_of_mem key member)
      refine ⟨i :: found, s', ?_, after,
        fun other j there => keeps other j (fills.keeps other j there), ?_⟩
      · rw [List.mapM_cons, runOn_bind_ok s s₁ _ _ i run, runOn_bind_ok s₁ s' _ _ found others]
        rfl
      · intro last later
        rw [List.map_cons, List.map_cons, later key i (keeps key i fills.held), held last later]

end
/-! ## After a start -/

theorem uses_unique (s : Session) (given : Option (Nat × Settings)) (named : Option Path)
    (directory : Value) (from_ from' : Settings) (uses : Uses s given named directory from_)
    (uses' : Uses s given named directory from') : from' = from_ := by
  rcases uses with same | ⟨nothing, loaded⟩
  · rcases uses' with same' | ⟨nothing', -⟩
    · exact Option.some.inj (same'.symm.trans same)
    · rw [nothing'] at same
      cases same
  · rcases uses' with same' | ⟨-, loaded'⟩
    · rw [nothing] at same'
      cases same'
    · exact Except.ok.inj (loaded'.symm.trans loaded)

theorem wired_of_start (s : Session) (given : Option (Nat × Settings)) (named : Option Path)
    (directory : Value) (c : Container) (s₁ : Session) (fresh : s.started = false)
    (run : runOn s (start given named directory) = (.ok c, s₁)) :
    ∃ from_, Uses s given named directory from_ ∧
      (s₁.Settled from_.logging → s₁.Wired from_) := by
  obtain ⟨from_, uses, ready⟩ := ready_of_start s fresh named directory given c s₁ run
  have ends := start_ends s given named directory
  rw [run] at ends
  cases ends with
  | again _ _ was => cases fresh.symm.trans was
  | concluded from' _ _ _ uses' adds =>
      obtain rfl := uses_unique s given named directory from_ from' uses uses'
      obtain ⟨serial, registered⟩ := adds.registered
      have stands (key : ServiceKey) (member : key ∈ startKeys) :
          s₁.registered key = offered serial from' key := by
        obtain ⟨p, offer⟩ := offered_of_startKeys serial from' key member
        rw [registered key, offer]
        rfl
      refine ⟨from', uses, fun opens => ⟨⟨serial, stands⟩, ?_, opens⟩⟩
      intro key i member held
      rcases (mem_startKeys_iff key).mp member with rfl | rfl | rfl | rfl
      · obtain ⟨p, bound, same⟩ := Option.map_eq_some_iff.mp (stands .settings member)
        cases p with
        | shared f made => cases same
        | ready j =>
            cases same
            cases (held_eq s₁ _ _ bound).symm.trans held
            exact ⟨serial, rfl⟩
      · rcases ready.logger with unmade | ⟨n, kept⟩
        · cases (held_eq s₁ _ _ unmade).symm.trans held
        · cases (held_eq s₁ _ _ kept).symm.trans held
          exact ⟨n, rfl⟩
      · cases (held_eq s₁ _ _ ready.catalog).symm.trans held
      · cases (held_eq s₁ _ _ ready.service).symm.trans held

/-- The four keys of a wired session, in any order, come to what the container then holds for them: a
service over the catalog and the logger that the other keys come to. -/
theorem services_of_wired (s : Session) (from_ : Settings) (wired : s.Wired from_)
    (positive : 0 < from_.digest.chunkSize) (keys : List ServiceKey)
    (members : ∀ key ∈ keys, key ∈ startKeys) : ∃ four s' n,
      runOn s (keys.mapM (resolve .global)) = (.ok (keys.map four), s') ∧
      (∀ key ∈ keys, s'.held key = some (four key)) ∧
      four .service = .service n (.int from_.digest.chunkSize) (four .catalog) (four .logger) := by
  obtain ⟨found, s₁, run, after, -, held⟩ := wired_resolveAll s from_ wired positive keys members
  -- For keys that are not among them the service is asked for in the end.
  obtain ⟨i, s₂, -, fills⟩ := wired_resolve s₁ from_ after positive .service (by decide)
  obtain ⟨n, catalog, logger, rfl, catalogHeld, loggerHeld⟩ :=
    fills.wired.fits .service i (by decide) fills.held
  let four (key : ServiceKey) : Instance := (s₂.held key).getD .nothing
  have same : found = keys.map four := by
    have last := congrArg (List.map fun i : Option Instance => i.getD .nothing)
      (held s₂ fills.keeps)
    rw [List.map_map, List.map_map] at last
    exact (List.map_id found).symm.trans last.symm
  have holds := held s₁ fun _ _ => id
  rw [same, List.map_map] at holds
  refine ⟨four, s₁, n, by rw [run, same], fun key member => List.map_inj_left.mp holds key member, ?_⟩
  dsimp only [four]
  rw [fills.held, catalogHeld, loggerHeld]
  rfl

/-! ## Singletons -/

/-- Whatever is registered in a registry and asked for, each key answers for its latest registration,
and no factory runs again after it has succeeded. A container of a session is such a registry. After a
start with a logger that can be had the four keys come, in any order, to a service over the catalog
and the logger that the container holds itself. -/
theorem containers_hold_singletons :
    (∀ (K I E W : Type) [DecidableEq K] (rules : Registry.Rules K E) (w : W)
        (ops : List (Registry.Operation K I E W)), Registry.Acyclic rules (.empty w) ops →
      ∀ key, Registry.Answering rules (.empty w) ops key (Registry.after rules (.empty w) ops)) ∧
    (∀ (slot : Slot) (w : Session) (serial : Nat) (calls : List ContainerCall), w.Has slot →
        (∀ call ∈ calls, call.Useful) →
      let s := (w.put slot ⟨serial, []⟩).afterCalls slot calls
      let st := Registry.after containerRules (.empty w) (calls.map ContainerCall.operation)
      ∀ call : ContainerCall, call.Useful →
        Alike slot (runOn s (call.action slot))
          (Registry.perform containerRules st call.operation)) ∧
    (∀ (s : Session) (serial : Nat) (from_ : Settings) (named : Option Path) (directory : Value),
      s.started = false → s.Opens from_.logging →
      ∃ c s₁, runOn s (start (some (serial, from_)) named directory) = (.ok c, s₁) ∧
        s₁.Settled from_.logging) ∧
    ∀ (s : Session) (given : Option (Nat × Settings)) (named : Option Path) (directory : Value)
      (c : Container) (s₁ : Session), s.started = false →
      (∀ serial from_, given = some (serial, from_) → from_.digest.Validated) →
      runOn s (start given named directory) = (.ok c, s₁) →
      ∃ from_, Uses s given named directory from_ ∧ (s₁.Settled from_.logging →
        ∀ keys : List ServiceKey, (∀ key ∈ keys, key ∈ startKeys) → ∃ four s₂ n,
          runOn s₁ (keys.mapM (resolve .global)) = (.ok (keys.map four), s₂) ∧
          (∀ key ∈ keys, s₂.held key = some (four key)) ∧
          four .service =
            .service n (.int from_.digest.chunkSize) (four .catalog) (four .logger)) := by
  refine ⟨?_, ?_, ?_, ?_⟩
  · intro K I E W _ rules w ops acyclic key
    exact Registry.answering_after rules w ops acyclic key
  · intro slot w serial calls has useful s st call useful'
    have stands := stands_afterCalls slot _ _ (stands_empty w slot has serial) calls useful
    exact alike_perform slot s st stands call useful'
  · intro s serial from_ named directory fresh opens
    obtain ⟨c, s₁, run, -, settled⟩ := start_returns s fresh named directory serial from_ opens
    exact ⟨c, s₁, run, settled⟩
  · intro s given named directory c s₁ fresh validated run
    obtain ⟨from_, uses, wired⟩ := wired_of_start s given named directory c s₁ fresh run
    have valid := validated_of_uses s given named directory from_ uses validated
    exact ⟨from_, uses, fun settled keys members =>
      services_of_wired s₁ from_ (wired settled) valid.positive keys members⟩

/-- A factory that fails at first, and one that goes on with what the other has made. -/
def afterFirstTry : Recipe Bool Nat Nat Nat :=
  .acts (· + 1) fun w => if w = 0 then .fails 8 else .gives w

def onTheOther : Recipe Bool Nat Nat Nat :=
  .asks false fun
    | .ok (some i) => .gives (i + 1)
    | _ => .fails 7

theorem containers_hold_singletons_nested_and_started :
    (let rules : Registry.Rules Bool Nat := ⟨2, 0, 1, fun _ => 2⟩
    let ops : List (Registry.Operation Bool Nat Nat Nat) :=
      [.registers true none (some onTheOther), .registers false none (some afterFirstTry),
        .resolves true, .resolves true]
    let now := Registry.after rules (.empty 0) ops
    Registry.Acyclic rules (.empty 0) ops ∧ Registry.Answering rules (.empty 0) ops true now ∧
      now.runs = [⟨1, .error 8⟩, ⟨0, .error 7⟩, ⟨1, .ok 1⟩, ⟨0, .ok 2⟩]) ∧
    (let call : ContainerCall := .registers .text .nothing (some .counting)
    Alike .global
      (runOn ((onEmptyDisk.put .global ⟨0, []⟩).afterCalls .global [call])
        (resolve .global .text >>= fun i => pure (some i)))
      (Registry.perform containerRules
        (Registry.after containerRules (.empty onEmptyDisk) [call.operation]) (.resolves .text))) ∧
    ∃ (c : Container) (s₁ : Session),
      runOn onEmptyDisk (start (some (0, ⟨.default, .default, none, none⟩)) none .null) =
        (.ok c, s₁) ∧
      ∃ (four : ServiceKey → Instance) (s₂ : Session) (n : Nat),
        runOn s₁ ([.service, .logger, .catalog].mapM (resolve .global)) =
          (.ok [four .service, four .logger, four .catalog], s₂) ∧
        four .service = .service n (.int Settings.DigestSection.default.chunkSize)
          (four .catalog) (four .logger) := by
  obtain ⟨registries, containers, starts, services⟩ := containers_hold_singletons
  refine ⟨?_, ?_, ?_⟩
  · intro rules ops now
    have acyclic : Registry.Acyclic rules (.empty 0) ops := by
      refine Registry.acyclic_of_ranked rules (fun key => if key then 1 else 0) (by decide) _
        (Registry.layered_empty _ 0) ops ?_
      intro op member key r offers
      simp only [ops, List.mem_cons, List.not_mem_nil, or_false] at member
      rcases member with rfl | rfl | rfl | rfl
      · cases key with
        | true =>
            cases offers
            exact ⟨by decide, fun answer => by rcases answer with _ | _ | _ <;> trivial⟩
        | false => cases offers
      · cases key with
        | true => cases offers
        | false =>
            cases offers
            intro w
            by_cases first : w = 0 <;> simp [first, Recipe.AsksOnly]
      · cases offers
      · cases offers
    exact ⟨acyclic, registries Bool Nat Nat Nat rules 0 ops acyclic true, rfl⟩
  · intro call
    have useful : call.Useful := nofun
    exact containers .global onEmptyDisk 0 [call] trivial (List.forall_mem_singleton.mpr useful)
      (.resolves .text) trivial
  · obtain ⟨c, s₁, run, settled⟩ := starts onEmptyDisk 0 ⟨.default, .default, none, none⟩ none .null rfl
      (opens_of_no_file _ _ rfl)
    obtain ⟨from_, uses, wired⟩ := services onEmptyDisk _ none .null c s₁ rfl
      (by
        intro serial from_ same
        cases same
        exact Settings.DigestSection.validated_of_sound _ (by decide)) run
    obtain rfl := eq_of_uses_given _ _ _ from_ none .null uses
    obtain ⟨four, s₂, n, found, -, service⟩ := wired settled [.service, .logger, .catalog] (by decide)
    exact ⟨c, s₁, run, four, s₂, n, found, service⟩

end Session
end Fingerprint
