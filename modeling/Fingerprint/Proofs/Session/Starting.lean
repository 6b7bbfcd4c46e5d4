import Fingerprint.Proofs.Service.ReadSize
import Fingerprint.Proofs.Session.Providers
import Fingerprint.Session.Start

/-! # What a start leaves behind

After a start the container for the whole program has factories made from the settings in use
(`Ready`); the service that it hands out reads pieces of the size that the settings say, over the
standard catalog. Starting and asking for the service fail only where the logger cannot be set
up. -/
set_option autoImplicit false
namespace Fingerprint
open Fingerprint.Action

/-- There is a reason to tell why the config file was not used. -/
def Settings.Tells (from_ : Settings) : Prop := ∃ reason, from_.configError = some reason ∧ reason ≠ []

namespace Session

/-- The factories stand for the settings; the service and the catalog are still to be made. -/
structure Ready (s : Session) (from_ : Settings) : Prop where
  service : s.provided .service = some (.shared (.service from_.digest.chunkSize) none)
  catalog : s.provided .catalog = some (.shared (.catalog from_.digest.extended) none)
  logger : s.ProvidesLogger from_.logging

theorem Ready.of_same (s s' : Session) (from_ : Settings) (ready : s.Ready from_)
    (same : ∀ key, s'.provided key = s.provided key) : s'.Ready from_ where
  service := (same _).trans ready.service
  catalog := (same _).trans ready.catalog
  logger := by
    unfold ProvidesLogger
    rw [same]
    exact ready.logger

/-! ## Starting -/

def offered (serial : Nat) (from_ : Settings) : ServiceKey → Option Provider
  | .settings => some (.ready (.settings serial from_))
  | .logger => some (.shared (.logger from_.logging) none)
  | .catalog => some (.shared (.catalog from_.digest.extended) none)
  | .service => some (.shared (.service from_.digest.chunkSize) none)
  | .text | .number => none

theorem register_factories (s : Session) (serial : Nat) (from_ : Settings) :
    ∃ s', Continues s s' ∧
      (∀ key, s'.provided key = (offered serial from_ key).or (s.provided key)) ∧
      ∀ (α : Type) (rest : Action α), runOn s (do
        register .global .settings (.settings serial from_) none
        register .global .logger .nothing (some (.logger from_.logging))
        register .global .catalog .nothing (some (.catalog from_.digest.extended))
        register .global .service .nothing (some (.service from_.digest.chunkSize))
        rest) = runOn s' rest := by
  obtain ⟨s₁, run₁, binds₁⟩ := register_returns s .settings (.settings serial from_) none _
    fun _ => rfl
  obtain ⟨s₂, run₂, binds₂⟩ := register_returns s₁ .logger .nothing (some (.logger from_.logging)) _
    fun _ => rfl
  obtain ⟨s₃, run₃, binds₃⟩ := register_returns s₂ .catalog .nothing
    (some (.catalog from_.digest.extended)) _ fun _ => rfl
  obtain ⟨s₄, run₄, binds₄⟩ := register_returns s₃ .service .nothing
    (some (.service from_.digest.chunkSize)) _ fun _ => rfl
  have continues : Continues s s₄ :=
    binds₁.continues.trans _ _ _ (binds₂.continues.trans _ _ _
      (binds₃.continues.trans _ _ _ binds₄.continues))
  refine ⟨s₄, continues, ?_, ?_⟩
  · intro key
    cases key with
    | settings =>
        exact (binds₄.others _ (by decide)).trans ((binds₃.others _ (by decide)).trans
          ((binds₂.others _ (by decide)).trans binds₁.bound))
    | logger =>
        exact (binds₄.others _ (by decide)).trans ((binds₃.others _ (by decide)).trans binds₂.bound)
    | catalog => exact (binds₄.others _ (by decide)).trans binds₃.bound
    | service => exact binds₄.bound
    | text | number =>
        exact (binds₄.others _ (by decide)).trans ((binds₃.others _ (by decide)).trans
          ((binds₂.others _ (by decide)).trans (binds₁.others _ (by decide))))
  · intro α rest
    rw [runOn_bind_ok s s₁ _ _ () run₁, runOn_bind_ok s₁ s₂ _ _ () run₂,
      runOn_bind_ok s₂ s₃ _ _ () run₃, runOn_bind_ok s₃ s₄ _ _ () run₄]

theorem resolve_eq (depth : Nat) (s s' : Session) (key : ServiceKey) (i : Instance)
    (found : runOn s (tryResolveWithin depth .global key) = (.ok (some i), s')) :
    runOn s (requireBy (tryResolveWithin depth) .global key) = (.ok i, s') := by
  unfold requireBy
  rw [runOn_bind_ok s s' _ _ (some i) found]
  rfl

theorem resolve_fails (depth : Nat) (s s' : Session) (key : ServiceKey) (e : Error)
    (fails : runOn s (tryResolveWithin depth .global key) = (.error e, s')) :
    runOn s (requireBy (tryResolveWithin depth) .global key) = (.error e, s') := by
  unfold requireBy
  rw [runOn_bind, fails]

/-- Registering leaves the factories of the settings, or fails where the logger cannot be set up
to take the reason why the config file was not used. Once it has taken one it is there. -/
theorem registerServices_ready (s : Session) (serial : Nat) (from_ : Settings) :
    (∃ s', runOn s (registerServices serial from_) = (.ok (), s') ∧ s'.Ready from_ ∧
      (s.Opens from_.logging ∨ from_.Tells → s'.Settled from_.logging)) ∨
    (¬ s.Opens from_.logging ∧ ∃ e s', runOn s (registerServices serial from_) = (.error e, s')) := by
  obtain ⟨s₁, continues, bound, run⟩ := register_factories s serial from_
  have ready : s₁.Ready from_ := ⟨bound .service, bound .catalog, Or.inl (bound .logger)⟩
  -- Registering touches no file and no logger, so a logger opens after it iff it opened before.
  have opens := continues.opens_iff s s₁ from_.logging
  unfold registerServices
  rw [run]
  have quiet (x : Action Unit) (same : x = pure ()) (silent : ¬ from_.Tells) :
      ∃ s', runOn s₁ x = (.ok (), s') ∧ s'.Ready from_ ∧
        (s.Opens from_.logging ∨ from_.Tells → s'.Settled from_.logging) :=
    ⟨s₁, by rw [same]; rfl, ready, fun either _ => opens.mpr (either.resolve_right silent)⟩
  split
  next error given =>
    by_cases empty : error.isEmpty
    · refine Or.inl (quiet _ (by simp [empty]) ?_)
      rintro ⟨reason, there, nonempty⟩
      cases given.symm.trans there
      exact nonempty (List.isEmpty_iff.mp empty)
    · have told : (!error.isEmpty) = true := by simp [empty]
      simp only [told, if_true]
      rcases tryResolve_logger 4 s₁ from_.logging ready.logger with
        ⟨settled, n, s₂, found, kept, others, -⟩ | ⟨closed, e, s₂, fails⟩
      · let s₃ := s₂.withJournal
          (s₂.journal.log s₂.clock defaultLoggerName .warning (.text error) [])
        refine Or.inl ⟨s₃, ?_, ⟨?_, ?_, Or.inr ⟨n, kept⟩⟩, ?_⟩
        · have resolved := resolve_eq 5 s₁ s₂ .logger _ found
          unfold resolve tryResolve
          rw [runOn_bind_ok s₁ s₂ _ _ _ resolved]
          rfl
        · exact (others .service (by decide)).trans ready.service
        · exact (others .catalog (by decide)).trans ready.catalog
        · intro _ unmade
          have made : s₃.provided .logger =
              some (.shared (.logger from_.logging) (some (.logger n defaultLoggerName))) := kept
          rw [made] at unmade
          cases unmade
      · refine Or.inr ⟨fun opened => closed fun _ => opens.mpr opened, e, s₂, ?_⟩
        have resolved := resolve_fails 5 s₁ s₂ .logger e fails
        unfold resolve tryResolve
        rw [runOn_bind, resolved]
  next given =>
    refine Or.inl (quiet _ rfl ?_)
    rintro ⟨reason, there, -⟩
    cases given.symm.trans there

/-- The settings in use are those that are given, or else what a loading gives. -/
def Uses (s : Session) (given : Option (Nat × Settings)) (named : Option Path)
    (startDirectory : Value) (from_ : Settings) : Prop :=
  given.map Prod.snd = some from_ ∨ given = none ∧
    (Settings.load s.host named startDirectory false).outcome.1 = .ok from_

theorem runOn_diagnose {α : Type} (s : Session) (x : Host → Diagnosed α) :
    runOn s (diagnose x) =
      match runOn s (reportBy tryResolve .nothing (x s.host).outcome.2) with
      | (.ok _, s') => ((x s.host).outcome.1, s')
      | (.error e, s') => (.error e, s') := by
  unfold diagnose diagnoseBy
  rw [runOn_get_bind, runOn_bind]
  rcases runOn s (reportBy tryResolve .nothing (x s.host).outcome.2) with ⟨e | _, s'⟩
  · rfl
  · exact runOn_ofExcept s' _

theorem outcome_of_diagnose {α : Type} (s s' : Session) (x : Host → Diagnosed α) (a : α)
    (run : runOn s (diagnose x) = (.ok a, s')) : (x s.host).outcome.1 = .ok a := by
  rw [runOn_diagnose] at run
  split at run
  next => exact congrArg Prod.fst run
  next => cases run

def conclude (serial : Nat) (from_ : Settings) : Action Container := do
  registerServices serial from_
  modify fun s => { s with started := true }
  container .global

theorem conclude_ready (s : Session) (serial : Nat) (from_ : Settings) :
    (∃ c s', runOn s (conclude serial from_) = (.ok c, s') ∧ s'.Ready from_ ∧
      (s.Opens from_.logging ∨ from_.Tells → s'.Settled from_.logging)) ∨
    (¬ s.Opens from_.logging ∧ ∃ e s', runOn s (conclude serial from_) = (.error e, s')) := by
  unfold conclude
  rcases registerServices_ready s serial from_ with
    ⟨s₁, run, ready, settled⟩ | ⟨closed, e, s₁, fails⟩
  · let s₂ : Session := { s₁ with started := true }
    obtain ⟨c, s₃, found, -, kept, continues⟩ := container_provided s₂
    refine Or.inl ⟨c, s₃, ?_, ready.of_same s₁ s₃ from_ kept, ?_⟩
    · rw [runOn_bind_ok s s₁ _ _ () run]
      exact found
    · intro either unmade
      rw [kept] at unmade
      exact (continues.opens_iff s₂ s₃ from_.logging).mpr (settled either unmade)
  · refine Or.inr ⟨closed, e, s₁, ?_⟩
    rw [runOn_bind, fails]

section
variable (s : Session) (fresh : s.started = false) (named : Option Path) (startDirectory : Value)
include fresh

theorem start_given (serial : Nat) (from_ : Settings) : ∃ s₀, Continues s s₀ ∧
    (∀ key, s₀.provided key = s.provided key) ∧
    runOn s (start (some (serial, from_)) named startDirectory) =
      runOn s₀ (conclude serial from_) := by
  obtain ⟨c, s₀, found, -, same, continues⟩ := container_provided s
  refine ⟨s₀, continues, same, ?_⟩
  unfold start
  rw [runOn_bind_ok s s₀ _ _ c found, runOn_get_bind, continues.started, fresh]
  rfl

theorem start_loaded : ∃ s₀, Continues s s₀ ∧
    (∀ key, s₀.provided key = s.provided key) ∧
    runOn s (start none named startDirectory) = runOn s₀ (do
      let from_ ← loadSettings named startDirectory false
      let serial ← newSerial
      conclude serial from_) := by
  obtain ⟨c, s₀, found, -, same, continues⟩ := container_provided s
  refine ⟨s₀, continues, same, ?_⟩
  unfold start
  rw [runOn_bind_ok s s₀ _ _ c found, runOn_get_bind, continues.started, fresh]
  simp only [Bool.false_eq_true, if_false, pure_bind]
  rfl

theorem ready_of_start (given : Option (Nat × Settings)) (c : Container) (s₁ : Session)
    (run : runOn s (start given named startDirectory) = (.ok c, s₁)) :
    ∃ from_, Uses s given named startDirectory from_ ∧ s₁.Ready from_ := by
  cases given with
  | some entry =>
      obtain ⟨serial, from_⟩ := entry
      obtain ⟨s₀, -, -, same⟩ := start_given s fresh named startDirectory serial from_
      rw [same] at run
      rcases conclude_ready s₀ serial from_ with ⟨_, _, run', ready, -⟩ | ⟨-, _, _, fails⟩
      · cases run'.symm.trans run
        exact ⟨from_, Or.inl rfl, ready⟩
      · cases fails.symm.trans run
  | none =>
      obtain ⟨s₀, continues, -, same⟩ := start_loaded s fresh named startDirectory
      rw [same, runOn_bind] at run
      split at run
      next from_ s₂ loaded =>
        have outcome := outcome_of_diagnose s₀ s₂ _ from_ loaded
        rw [continues.host] at outcome
        rw [runOn_bind_ok s₂ { s₂ with objects := s₂.objects + 1 } newSerial _ s₂.objects rfl] at run
        rcases conclude_ready { s₂ with objects := s₂.objects + 1 } s₂.objects from_ with
          ⟨_, _, run', ready, -⟩ | ⟨-, _, _, fails⟩
        · cases run'.symm.trans run
          exact ⟨from_, Or.inr ⟨rfl, outcome⟩, ready⟩
        · cases fails.symm.trans run
      next => cases run

theorem start_returns (serial : Nat) (from_ : Settings) (opens : s.Opens from_.logging) :
    ∃ c s₁, runOn s (start (some (serial, from_)) named startDirectory) = (.ok c, s₁) ∧
      s₁.Ready from_ ∧ s₁.Settled from_.logging := by
  obtain ⟨s₀, continues, -, same⟩ := start_given s fresh named startDirectory serial from_
  have opened := (continues.opens_iff s s₀ from_.logging).mpr opens
  rcases conclude_ready s₀ serial from_ with ⟨c, s₁, run, ready, settled⟩ | ⟨closed, -⟩
  · exact ⟨c, s₁, same.trans run, ready, settled (Or.inl opened)⟩
  · exact absurd opened closed

theorem settled_of_start (serial : Nat) (from_ : Settings) (c : Container) (s₁ : Session)
    (run : runOn s (start (some (serial, from_)) named startDirectory) = (.ok c, s₁)) :
    s₁.Ready from_ ∧ (from_.Tells → s₁.Settled from_.logging) := by
  obtain ⟨s₀, -, -, same⟩ := start_given s fresh named startDirectory serial from_
  rw [same] at run
  rcases conclude_ready s₀ serial from_ with ⟨_, _, run', ready, settled⟩ | ⟨-, _, _, fails⟩
  · cases run'.symm.trans run
    exact ⟨ready, fun tells => settled (Or.inr tells)⟩
  · cases fails.symm.trans run

end

/-! ## The service -/

section
variable (s : Session) (from_ : Settings) (ready : s.Ready from_)
  (positive : 0 < from_.digest.chunkSize)
include ready positive

theorem resolve_service_by_logger : ∃ s₂, Continues s s₂ ∧
    s₂.provided .logger = s.provided .logger ∧
    (∀ n s₃, runOn s₂ (tryResolveWithin 4 .global .logger) =
        (.ok (some (.logger n defaultLoggerName)), s₃) →
      ∃ m k s', runOn s (resolve .global .service) = (.ok (.service m (.int from_.digest.chunkSize)
          (.catalog k (Catalog.standard s.faults (.bool from_.digest.extended)))
          (.logger n defaultLoggerName)), s') ∧
        Continues s₃ s' ∧ s'.provided .logger = s₃.provided .logger) ∧
    ∀ e s₃, runOn s₂ (tryResolveWithin 4 .global .logger) = (.error e, s₃) →
      runOn s (resolve .global .service) = (.error e, s₃) := by
  let catalog : Instance :=
    .catalog s.objects (Catalog.standard s.faults (.bool from_.digest.extended))
  let s₁ : Session := { s with objects := s.objects + 1 }
  have made : runOn s (makeBy (tryResolveWithin 3) .global (.catalog from_.digest.extended)) =
      (.ok catalog, s₁) := rfl
  obtain ⟨s₂, foundCatalog, binds⟩ := tryResolve_makes 3 s s₁ .catalog _ ready.catalog _ made rfl
  have continues : Continues s s₂ :=
    Continues.trans s s₁ s₂ ⟨rfl, rfl, rfl, rfl, rfl, rfl, rfl⟩ binds.continues
  have requireCatalog := resolve_eq 4 s s₂ .catalog catalog foundCatalog
  refine ⟨s₂, continues, binds.others .logger (by decide), ?_, ?_⟩
  · intro n s₃ foundLogger
    have requireLogger := resolve_eq 4 s₂ s₃ .logger _ foundLogger
    have checked := Service.checkChunkSize_of_accepted (.int from_.digest.chunkSize)
      (Value.nonpositive_of_positive _ positive)
    let s₄ : Session := { s₃ with objects := s₃.objects + 1 }
    have makes : runOn s (makeBy (tryResolveWithin 4) .global (.service from_.digest.chunkSize)) =
        (.ok (.service s₃.objects (.int from_.digest.chunkSize) catalog
          (.logger n defaultLoggerName)), s₄) := by
      unfold makeBy
      rw [runOn_bind_ok s s₂ _ _ catalog requireCatalog,
        runOn_bind_ok s₂ s₃ _ _ _ requireLogger]
      unfold newServiceBy
      rw [checked]
      rfl
    obtain ⟨s', found, binds⟩ := tryResolve_makes 4 s s₄ .service _ ready.service _ makes rfl
    refine ⟨_, _, s', resolve_eq 5 s s' .service _ found, ?_, binds.others .logger (by decide)⟩
    exact Continues.trans s₃ s₄ s' ⟨rfl, rfl, rfl, rfl, rfl, rfl, rfl⟩ binds.continues
  · intro e s₃ fails
    have requireLogger := resolve_fails 4 s₂ s₃ .logger e fails
    have stops : runOn s (makeBy (tryResolveWithin 4) .global (.service from_.digest.chunkSize)) =
        (.error e, s₃) := by
      unfold makeBy
      rw [runOn_bind_ok s s₂ _ _ catalog requireCatalog, runOn_bind, requireLogger]
    have failed := tryResolve_fails 4 s s₃ .service _ ready.service e stops
    exact resolve_fails 5 s s₃ .service e failed

theorem resolve_service_and_logger :
    (s.Settled from_.logging ∧ ∃ m k n s', runOn s (resolve .global .service) =
      (.ok (.service m (.int from_.digest.chunkSize)
        (.catalog k (Catalog.standard s.faults (.bool from_.digest.extended)))
        (.logger n defaultLoggerName)), s') ∧
      s'.provided .logger =
        some (.shared (.logger from_.logging) (some (.logger n defaultLoggerName)))) ∨
    (¬ s.Settled from_.logging ∧ ∃ e s', runOn s (resolve .global .service) = (.error e, s')) := by
  obtain ⟨s₂, continues, sameLogger, succeeds, fails⟩ :=
    resolve_service_by_logger s from_ ready positive
  have settledIff : s₂.Settled from_.logging ↔ s.Settled from_.logging := by
    unfold Settled
    rw [sameLogger, continues.opens_iff s s₂]
  have provides : s₂.ProvidesLogger from_.logging := by
    unfold ProvidesLogger
    rw [sameLogger]
    exact ready.logger
  rcases tryResolve_logger 3 s₂ from_.logging provides with
    ⟨settled, n, s₃, found, kept, -, -⟩ | ⟨closed, e, s₃, failed⟩
  · obtain ⟨m, k, s', run, -, same⟩ := succeeds n s₃ found
    exact Or.inl ⟨settledIff.mp settled, m, k, n, s', run, same.trans kept⟩
  · exact Or.inr ⟨fun settled => closed (settledIff.mpr settled), e, s₃, fails e s₃ failed⟩

theorem resolve_service :
    (s.Settled from_.logging ∧ ∃ m k n s', runOn s (resolve .global .service) =
      (.ok (.service m (.int from_.digest.chunkSize)
        (.catalog k (Catalog.standard s.faults (.bool from_.digest.extended)))
        (.logger n defaultLoggerName)), s')) ∨
    (¬ s.Settled from_.logging ∧ ∃ e s', runOn s (resolve .global .service) = (.error e, s')) := by
  rcases resolve_service_and_logger s from_ ready positive with
    ⟨settled, m, k, n, s', run, -⟩ | fails
  · exact Or.inl ⟨settled, m, k, n, s', run⟩
  · exact Or.inr fails

end
end Session
end Fingerprint
