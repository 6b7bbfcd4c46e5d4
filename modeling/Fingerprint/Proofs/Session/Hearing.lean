import Fingerprint.Proofs.Session.Loadings
import Fingerprint.Proofs.Settings.Readings

/-! # What loggers hear

The loggers of a program share one name. Between two sessions they are set up and take records, and
nothing else is written (`Hears`). What they hear of a computation depends on what is bound for
loggers: nothing where nothing is bound, and everything where a logger is at hand; a logger that is
yet to be made is set up first (`reportBy_hears`). A program that is started afresh sets a logger up
and tells it why the config file was not used (`afresh_hears`). -/
set_option autoImplicit false
namespace Fingerprint
open Fingerprint.Action

inductive LoggerEvent where
  | setUp (part : Settings.LoggingSection)
  | taken (r : Record)

namespace LoggerEvent

def record? : LoggerEvent → Option Record
  | setUp _ => none
  | taken r => some r

def records (events : List LoggerEvent) : List Record := events.filterMap record?

theorem records_taken (rs : List Record) : records (rs.map taken) = rs := by
  unfold records
  rw [List.filterMap_map]
  exact List.filterMap_some

theorem records_append (events more : List LoggerEvent) :
    records (events ++ more) = records events ++ records more := List.filterMap_append

end LoggerEvent

/-- What a start has to tell: why the config file was not used. -/
def Settings.complaints (from_ : Settings) : List Record :=
  match from_.configError with
  | some reason => if reason.isEmpty then [] else [⟨.warning, reason⟩]
  | none => []

namespace Session
open LoggerEvent

def afterEvent (s : Session) : LoggerEvent → Session
  | .setUp part =>
    s.withJournal (s.journal.setUp s.host.directory part defaultLoggerName s.logFile).1
  | .taken r => s.withJournal (s.journal.log s.clock defaultLoggerName r.level (.text r.message) [])

def afterEvents (s : Session) (events : List LoggerEvent) : Session := events.foldl afterEvent s

/-- From one session to the other, loggers have written what they write at the events, and nothing
else was written. -/
structure Hears (s : Session) (events : List LoggerEvent) (s' : Session) : Prop where
  journal : s'.journal = (s.afterEvents events).journal
  placed : s.Placed s'

instance (s : Session) (part : Settings.LoggingSection) : Decidable (s.Opens part) :=
  inferInstanceAs (Decidable (_ = none))

theorem afterEvents_append (s : Session) (events more : List LoggerEvent) :
    s.afterEvents (events ++ more) = (s.afterEvents events).afterEvents more := List.foldl_append

theorem placed_afterEvents (s : Session) (events : List LoggerEvent) :
    s.Placed (s.afterEvents events) := by
  induction events generalizing s with
  | nil => exact Frame.refl Placed s
  | cons event rest ih =>
      have first : s.Placed (s.afterEvent event) := by cases event <;> exact ⟨rfl, rfl, rfl⟩
      exact Frame.trans _ _ _ first (ih (s.afterEvent event))

theorem journal_afterEvents (s t : Session) (journal : t.journal = s.journal) (placed : s.Placed t)
    (events : List LoggerEvent) : (t.afterEvents events).journal = (s.afterEvents events).journal := by
  induction events generalizing s t with
  | nil => exact journal
  | cons event rest ih =>
      have logFile : t.logFile = s.logFile := by
        unfold Session.logFile
        rw [placed.home]
      apply ih
      · cases event with
        | setUp part =>
            simp only [afterEvent, journal, placed.directory, logFile]
            rfl
        | taken r =>
            simp only [afterEvent, journal, placed.clock]
            rfl
      · cases event <;> exact ⟨placed.directory, placed.home, placed.clock⟩

namespace Hears

theorem refl (s : Session) : s.Hears [] s := ⟨rfl, Frame.refl Placed s⟩

theorem trans (s s' s'' : Session) (events more : List LoggerEvent) (first : s.Hears events s')
    (second : s'.Hears more s'') : s.Hears (events ++ more) s'' where
  journal := by
    have placed : (s.afterEvents events).Placed s' := by
      have before := s.placed_afterEvents events
      exact ⟨first.placed.directory.trans before.directory.symm,
        first.placed.home.trans before.home.symm, first.placed.clock.trans before.clock.symm⟩
    rw [second.journal, afterEvents_append]
    exact journal_afterEvents _ _ first.journal placed more
  placed := Frame.trans _ _ _ first.placed second.placed

/-- Nothing is heard of what does not touch the journal. -/
theorem onward (s s' s'' : Session) (events : List LoggerEvent) (heard : s.Hears events s')
    (journal : s''.journal = s'.journal) (placed : s'.Placed s'') : s.Hears events s'' :=
  ⟨journal.trans heard.journal, Frame.trans _ _ _ heard.placed placed⟩

theorem opens_iff (s s' : Session) (part : Settings.LoggingSection) (heard : s.Hears [] s') :
    s'.Opens part ↔ s.Opens part := by
  have logFile : s'.logFile = s.logFile := by
    unfold Session.logFile
    rw [heard.placed.home]
  unfold Opens
  rw [heard.journal, heard.placed.directory, logFile]
  rfl

theorem event (s : Session) (event : LoggerEvent) : s.Hears [event] (s.afterEvent event) :=
  ⟨rfl, s.placed_afterEvents [event]⟩

end Hears

theorem Continues.hears (s s' : Session) (continues : Continues s s') (placed : s.Placed s') :
    s.Hears [] s' := ⟨continues.journal, placed⟩

/-! ## A logger that is yet to be made -/

theorem hears_fresh_logger (depth : Nat) (s s' : Session) (part : Settings.LoggingSection)
    (sets : s.SetsUp part s') (answer : Except Error (Option Instance))
    (looked : runOn s (tryResolveWithin depth .global .logger) = (answer, s')) :
    s.Hears [.setUp part] s' := by
  have placed := ambient_tryResolveWithin (A := Placed) depth .global .logger s
  rw [looked] at placed
  exact ⟨sets.journal, placed⟩

/-! ## The records of a computation -/

def StartLogger (s : Session) : Prop :=
  s.provided .logger = none ∨ ∃ part, s.ProvidesLogger part

/-- What loggers hear when records are handed to the shared one. -/
def heard (s : Session) (rs : List Record) : List LoggerEvent :=
  match s.provided .logger with
  | none => []
  | some (.shared (.logger part) none) =>
    if rs = [] then [] else .setUp part :: if s.Opens part then rs.map .taken else []
  | some _ => rs.map .taken

theorem heard_unbound (s : Session) (rs : List Record) (unbound : s.provided .logger = none) :
    s.heard rs = [] := by
  unfold heard
  rw [unbound]

theorem heard_kept (s : Session) (rs : List Record) (part : Settings.LoggingSection) (i : Instance)
    (kept : s.provided .logger = some (.shared (.logger part) (some i))) :
    s.heard rs = rs.map .taken := by
  unfold heard
  rw [kept]

theorem heard_fresh (s : Session) (rs : List Record) (part : Settings.LoggingSection)
    (fresh : s.provided .logger = some (.shared (.logger part) none)) :
    s.heard rs =
      if rs = [] then [] else .setUp part :: if s.Opens part then rs.map .taken else [] := by
  unfold heard
  rw [fresh]

theorem reportBy_unbound (rs : List Record) (s : Session) (unbound : s.provided .logger = none) :
    ∃ s', runOn s (reportBy tryResolve .nothing rs) = (.ok (), s') ∧ s.Hears [] s' ∧
      s'.provided .logger = none := by
  induction rs generalizing s with
  | nil => exact ⟨s, rfl, .refl s, unbound⟩
  | cons r rest ih =>
      obtain ⟨s₁, found, continues⟩ := tryResolve_unbound 4 s .logger unbound
      have placed := ambient_tryResolveWithin (A := Placed) 5 .global .logger s
      have keeps := keeps_tryResolve .global .logger s
      rw [tryResolve, found] at keeps
      rw [found] at placed
      let s₂ : Session := { s₁ with objects := s₁.objects + 1 }
      have still : s₂.provided .logger = none := keeps.unbound _ _ .logger unbound
      obtain ⟨s', others, heard, ends⟩ := ih s₂ still
      refine ⟨s', ?_, ?_, ends⟩
      · have nothing (i : Instance) (there : none = some i) : i.isNothing = true := by cases there
        rw [reportBy_cons, runOn_bind_ok s s₂ _ _ () (report_missing s r s₁ none nothing found),
          others]
      · have looked : s.Hears [] s₁ := continues.hears _ _ placed
        have silent : s.Hears [] s₂ := looked.onward _ _ _ _ rfl ⟨rfl, rfl, rfl⟩
        exact silent.trans _ _ _ _ _ heard

theorem reportBy_kept (part : Settings.LoggingSection) (n : Nat) (rs : List Record) (s : Session)
    (kept : s.provided .logger =
      some (.shared (.logger part) (some (.logger n defaultLoggerName)))) :
    ∃ s', runOn s (reportBy tryResolve .nothing rs) = (.ok (), s') ∧
      s.Hears (rs.map .taken) s' ∧ s'.provided .logger = s.provided .logger := by
  induction rs generalizing s with
  | nil => exact ⟨s, rfl, .refl s, rfl⟩
  | cons r rest ih =>
      have found := tryResolve_kept 4 s .logger _ _ kept
      have handed : runOn s (report .nothing [r]) = (.ok (), s.afterEvent (.taken r)) :=
        (report_found s r s _ rfl found).trans (logTo_handed s _ (.logger n defaultLoggerName) r)
      obtain ⟨s', others, heard, ends⟩ := ih (s.afterEvent (.taken r)) kept
      refine ⟨s', ?_, (Hears.event s (.taken r)).trans _ _ _ _ _ heard, ends⟩
      rw [reportBy_cons, runOn_bind_ok s _ _ _ () handed, others]

theorem reportBy_fresh (s : Session) (part : Settings.LoggingSection)
    (fresh : s.provided .logger = some (.shared (.logger part) none)) (r : Record)
    (rest : List Record) :
    ∃ told s', runOn s (reportBy tryResolve .nothing (r :: rest)) = (told, s') ∧
      s.Hears (s.heard (r :: rest)) s' ∧ s'.ProvidesLogger part ∧
      (told = .ok () → s.Opens part) := by
  rw [heard_fresh s _ part fresh, if_neg (List.cons_ne_nil r rest)]
  obtain ⟨s₁, sets, ⟨opens, n, found, kept⟩ | ⟨closed, e, fails, still⟩⟩ :=
    tryResolve_fresh_logger 4 s part fresh
  · have heard := hears_fresh_logger 5 s s₁ part sets _ found
    rw [if_pos opens]
    let s₂ := s₁.afterEvent (.taken r)
    have handed : runOn s (report .nothing [r]) = (.ok (), s₂) :=
      (report_found s r s₁ _ rfl found).trans (logTo_handed s₁ _ (.logger n defaultLoggerName) r)
    obtain ⟨s', others, later, ends⟩ := reportBy_kept part n rest s₂ kept
    refine ⟨.ok (), s', ?_, ?_, Or.inr ⟨n, ends.trans kept⟩, fun _ => opens⟩
    · rw [reportBy_cons, runOn_bind_ok s s₂ _ _ () handed, others]
    · have first := heard.trans _ _ _ _ _ (Hears.event s₁ (.taken r))
      exact first.trans _ _ _ _ _ later
  · have heard := hears_fresh_logger 5 s s₁ part sets _ fails
    rw [if_neg closed]
    have raised := report_fails s r s₁ e fails
    refine ⟨.error e, s₁, ?_, heard, Or.inl (still.trans fresh), nofun⟩
    rw [reportBy_cons, runOn_bind, raised]

/-- The records of a computation are heard as what is bound for loggers says. Where that is a logger
and the records could all be handed over, it has taken them. -/
theorem reportBy_hears (s : Session) (logger : s.StartLogger) (rs : List Record) :
    ∃ told s', runOn s (reportBy tryResolve .nothing rs) = (told, s') ∧ s.Hears (s.heard rs) s' ∧
      s'.StartLogger ∧ (s'.provided .logger = none ↔ s.provided .logger = none) ∧
      (told = .ok () → s.provided .logger ≠ none → records (s.heard rs) = rs) := by
  rcases logger with unbound | ⟨part, fresh | ⟨n, kept⟩⟩
  · obtain ⟨s', run, heard, ends⟩ := reportBy_unbound rs s unbound
    rw [heard_unbound s rs unbound]
    exact ⟨_, s', run, heard, Or.inl ends, iff_of_true ends unbound,
      fun _ bound => absurd unbound bound⟩
  · have bound : s.provided .logger ≠ none := by
      rw [fresh]
      nofun
    cases rs with
    | nil =>
        rw [heard_fresh s _ part fresh]
        exact ⟨_, s, rfl, .refl s, Or.inr ⟨part, Or.inl fresh⟩, Iff.rfl, fun _ _ => rfl⟩
    | cons r rest =>
        obtain ⟨told, s', run, heard, provides, opens⟩ := reportBy_fresh s part fresh r rest
        have still : s'.provided .logger ≠ none := by
          rcases provides with same | ⟨n, made⟩
          · rw [same]
            nofun
          · rw [made]
            nofun
        refine ⟨told, s', run, heard, Or.inr ⟨part, provides⟩, iff_of_false still bound, ?_⟩
        intro done _
        rw [heard_fresh s _ part fresh, if_neg (List.cons_ne_nil r rest), if_pos (opens done)]
        exact records_taken (r :: rest)
  · obtain ⟨s', run, heard, ends⟩ := reportBy_kept part n rs s kept
    rw [heard_kept s rs part _ kept]
    refine ⟨_, s', run, heard, Or.inr ⟨part, Or.inr ⟨n, ends.trans kept⟩⟩, by rw [ends], ?_⟩
    intro _ _
    exact records_taken rs

/-! ## A program that is started afresh -/

/-- What loggers hear of a start: the logger is set up, and told what there is to tell. -/
def opening (s : Session) (from_ : Settings) : List LoggerEvent :=
  .setUp from_.logging :: if s.Opens from_.logging then from_.complaints.map .taken else []

theorem Continues.afterSetUp (s s' : Session) (continues : Continues s s')
    (part : Settings.LoggingSection) :
    (s'.afterEvents [.setUp part]).journal = (s.afterEvents [.setUp part]).journal := by
  have logFile : s'.logFile = s.logFile := by
    unfold Session.logFile
    rw [continues.home]
  simp only [afterEvents, List.foldl_cons, List.foldl_nil, afterEvent, continues.journal, logFile,
    continues.host]
  rfl

def KeepsLogger (s : Session) (part : Settings.LoggingSection) : Prop :=
  ∃ n, s.provided .logger = some (.shared (.logger part) (some (.logger n defaultLoggerName)))

section
variable (s : Session) (from_ : Settings) (positive : 0 < from_.digest.chunkSize)
include positive

theorem serving_of_kept (ready : s.Ready from_) (keeps : s.KeepsLogger from_.logging) :
    ∃ p s', runOn s serving = (.ok p, s') ∧ s.Hears [] s' ∧ s'.KeepsLogger from_.logging := by
  obtain ⟨n, kept⟩ := keeps
  obtain ⟨s₂, before, same, succeeds, -⟩ := resolve_service_by_logger s from_ ready positive
  obtain ⟨m, k, s₃, service, after, still⟩ :=
    succeeds n s₂ (tryResolve_kept 3 s₂ .logger _ _ (same.trans kept))
  have there := still.trans (same.trans kept)
  have placed := ambient_serving (A := Placed) s
  have run := serving_returns s s₃ from_ m k n _ service there
  rw [run] at placed
  exact ⟨_, s₃, run, ⟨(after.journal _ _).trans (before.journal _ _), placed⟩, n, there⟩

theorem serving_of_fresh (ready : s.Ready from_)
    (fresh : s.provided .logger = some (.shared (.logger from_.logging) none)) :
    ∃ result s', runOn s serving = (result, s') ∧ s.Hears [.setUp from_.logging] s' ∧
      s'.ProvidesLogger from_.logging ∧ ((∃ p, result = .ok p) ↔ s.Opens from_.logging) := by
  obtain ⟨s₂, before, same, succeeds, fails⟩ := resolve_service_by_logger s from_ ready positive
  have opensIff := before.opens_iff s s₂ from_.logging
  have placed := ambient_serving (A := Placed) s
  obtain ⟨s₃, sets, ⟨opens, n, found, kept⟩ | ⟨closed, e, failed, still⟩⟩ :=
    tryResolve_fresh_logger 3 s₂ from_.logging (same.trans fresh)
  · have heard := hears_fresh_logger 4 s₂ s₃ _ sets _ found
    obtain ⟨m, k, s₄, service, after, stays⟩ := succeeds n s₃ found
    have there := stays.trans kept
    have run := serving_returns s s₄ from_ m k n _ service there
    rw [run] at placed
    have written := (after.journal _ _).trans (heard.journal.trans (before.afterSetUp _ _ _))
    exact ⟨_, s₄, run, ⟨written, placed⟩, Or.inr ⟨n, there⟩,
      iff_of_true ⟨_, rfl⟩ (opensIff.mp opens)⟩
  · have heard := hears_fresh_logger 4 s₂ s₃ _ sets _ failed
    have run : runOn s serving = (.error e, s₃) := by
      unfold serving
      rw [runOn_bind, fails e s₃ failed]
    rw [run] at placed
    have written := heard.journal.trans (before.afterSetUp _ _ _)
    exact ⟨_, s₃, run, ⟨written, placed⟩, Or.inl (still.trans (same.trans fresh)),
      iff_of_false nofun fun opens => closed (opensIff.mpr opens)⟩

end

/-- The last step of registering. -/
def tell (from_ : Settings) : Action Unit :=
  match from_.configError with
  | some reason =>
    if !reason.isEmpty then do logTo (← resolve .global .logger) .warning (.text reason) []
    else pure ()
  | none => pure ()

theorem tell_cases (from_ : Settings) :
    (from_.complaints = [] ∧ tell from_ = pure ()) ∨
    ∃ r, from_.complaints = [r] ∧
      tell from_ = resolve .global .logger >>= fun l => logTo l r.level (.text r.message) [] := by
  unfold Settings.complaints tell
  cases from_.configError with
  | none => exact Or.inl ⟨rfl, rfl⟩
  | some reason =>
      cases empty : reason.isEmpty with
      | true =>
          simp only [empty]
          exact Or.inl ⟨rfl, rfl⟩
      | false =>
          simp only [empty]
          exact Or.inr ⟨_, rfl, rfl⟩

/-- Registering is heard in its last step alone. -/
theorem register_hears (s : Session) (serial : Nat) (from_ : Settings) :
    ∃ s', s.Hears [] s' ∧ s'.Ready from_ ∧
      s'.provided .logger = some (.shared (.logger from_.logging) none) ∧
      runOn s (registerServices serial from_) = runOn s' (tell from_) := by
  obtain ⟨s', continues, bound, run⟩ := register_factories s serial from_
  have registered := run Unit (pure ())
  have placed : s.Placed s' := by
    have within : Action.Within Placed (do
        register .global .settings (.settings serial from_) none
        register .global .logger .nothing (some (.logger from_.logging))
        register .global .catalog .nothing (some (.catalog from_.digest.extended))
        register .global .service .nothing (some (.service from_.digest.chunkSize))
        pure ()) :=
      .bind (ambient_register _ _ _ _) fun _ => .bind (ambient_register _ _ _ _) fun _ =>
        .bind (ambient_register _ _ _ _) fun _ => .bind (ambient_register _ _ _ _) fun _ => .pure ()
    have ends := within s
    rw [registered] at ends
    exact ends
  exact ⟨s', continues.hears _ _ placed, ⟨bound .service, bound .catalog, Or.inl (bound .logger)⟩,
    bound .logger, run Unit (tell from_)⟩

theorem container_hears (s : Session) : ∃ c s', runOn s (container .global) = (.ok c, s') ∧
    s.Hears [] s' ∧ (∀ key, s'.provided key = s.provided key) ∧ s'.started = s.started := by
  obtain ⟨c, s', found, -, same, continues⟩ := container_provided s
  have placed := still_container (R := Placed) .global s
  rw [found] at placed
  exact ⟨c, s', found, continues.hears _ _ placed, same, continues.started⟩

def handOut : Action CommandLine.Program := do
  modify fun s => { s with started := true }
  let _ ← container .global
  serving

theorem handOut_eq (s : Session) : ∃ s', s.Hears [] s' ∧
    (∀ key, s'.provided key = s.provided key) ∧ runOn s handOut = runOn s' serving := by
  let s₁ : Session := { s with started := true }
  obtain ⟨c, s', found, heard, same, -⟩ := container_hears s₁
  have first : s.Hears [] s₁ := (Hears.refl s).onward _ _ _ _ rfl ⟨rfl, rfl, rfl⟩
  refine ⟨s', first.trans _ _ _ _ _ heard, same, ?_⟩
  unfold handOut
  rw [runOn_bind_ok s s₁ _ _ () rfl, runOn_bind_ok s₁ s' _ _ c found]

theorem afresh_eq (s : Session) (from_ : Settings) : ∃ s', s.Hears [] s' ∧ s'.Ready from_ ∧
    s'.provided .logger = some (.shared (.logger from_.logging) none) ∧
    runOn s (afresh from_) = runOn s' (tell from_ >>= fun _ => handOut) := by
  let s₁ : Session := { s with globalContainer := none, started := false }
  let s₂ : Session := { s₁ with objects := s₁.objects + 1 }
  obtain ⟨c, s₃, found, asked, -, fresh⟩ := container_hears s₂
  obtain ⟨s', registered, ready, bound, run⟩ := register_hears s₃ s₁.objects from_
  have first : s.Hears [] s₂ := (Hears.refl s).onward _ _ _ _ rfl ⟨rfl, rfl, rfl⟩
  have before := first.trans _ _ _ _ _ asked
  refine ⟨s', before.trans _ _ _ _ _ registered, ready, bound, ?_⟩
  have started : runOn s₂ (start (some (s₁.objects, from_)) none .null) =
      runOn s₃ (conclude s₁.objects from_) := by
    unfold start
    rw [runOn_bind_ok s₂ s₃ _ _ c found, runOn_get_bind, fresh]
    rfl
  have restarted : runOn s (restart from_) = runOn s₃ (conclude s₁.objects from_) := started
  have concluded : (conclude s₁.objects from_ >>= fun _ => serving) =
      registerServices s₁.objects from_ >>= fun _ => handOut := by
    unfold conclude handOut
    simp only [bind_assoc]
  unfold afresh
  rw [runOn_bind_congr s s₃ _ _ _ restarted, concluded, runOn_bind_congr s₃ s' _ _ _ run]

/-- A program that is started afresh sets the logger of its settings up and tells it what there is
to tell. It starts exactly where the logger can be set up. -/
theorem afresh_hears (s : Session) (from_ : Settings) (positive : 0 < from_.digest.chunkSize) :
    ∃ result s', runOn s (afresh from_) = (result, s') ∧ s.Hears (s.opening from_) s' ∧
      s'.ProvidesLogger from_.logging ∧ ((∃ p, result = .ok p) ↔ s.Opens from_.logging) := by
  obtain ⟨s₁, before, ready, fresh, run⟩ := afresh_eq s from_
  have opensIff := before.opens_iff _ _ from_.logging
  rw [run, opening]
  rcases tell_cases from_ with ⟨nothing, quiet⟩ | ⟨r, one, telling⟩
  · obtain ⟨s₂, marked, same, handed⟩ := handOut_eq s₁
    obtain ⟨result, s', served, heard, provides, returns⟩ :=
      serving_of_fresh s₂ from_ positive (ready.of_same _ _ _ same) ((same .logger).trans fresh)
    refine ⟨result, s', ?_, ?_, provides, ?_⟩
    · rw [quiet, pure_bind, handed, served]
    · have whole := before.trans _ _ _ _ _ (marked.trans _ _ _ _ _ heard)
      rw [nothing, List.map_nil, ite_self]
      exact whole
    · rw [returns, marked.opens_iff _ _ from_.logging, opensIff]
  · obtain ⟨s₂, sets, ⟨opens, n, found, kept⟩ | ⟨closed, e, failed, still⟩⟩ :=
      tryResolve_fresh_logger 4 s₁ from_.logging fresh
    · have heard := hears_fresh_logger 5 s₁ s₂ _ sets _ found
      let s₃ := s₂.afterEvent (.taken r)
      have resolved : runOn s₁ (resolve .global .logger) = (.ok _, s₂) :=
        resolve_eq 5 s₁ s₂ .logger _ found
      have told : runOn s₁ (tell from_) = (.ok (), s₃) := by
        rw [telling, runOn_bind_ok s₁ s₂ _ _ _ resolved]
        exact logTo_handed s₂ _ (.logger n defaultLoggerName) r
      obtain ⟨s₄, marked, same, handed⟩ := handOut_eq s₃
      have ready₄ : s₄.Ready from_ :=
        ⟨(same .service).trans ((sets.others .service (by decide)).trans ready.service),
          (same .catalog).trans ((sets.others .catalog (by decide)).trans ready.catalog),
          Or.inr ⟨n, (same .logger).trans kept⟩⟩
      obtain ⟨p, s', served, silent, n', there⟩ :=
        serving_of_kept s₄ from_ positive ready₄ ⟨n, (same .logger).trans kept⟩
      refine ⟨.ok p, s', ?_, ?_, Or.inr ⟨n', there⟩, iff_of_true ⟨p, rfl⟩ (opensIff.mp opens)⟩
      · rw [runOn_bind_ok s₁ s₃ _ _ () told, handed, served]
      · have setUp := before.trans _ _ _ _ _ heard
        have taken := setUp.trans _ _ _ _ _ (Hears.event s₂ (.taken r))
        have whole := taken.trans _ _ _ _ _ (marked.trans _ _ _ _ _ silent)
        rw [if_pos (opensIff.mp opens), one]
        exact whole
    · have heard := hears_fresh_logger 5 s₁ s₂ _ sets _ failed
      have unresolved : runOn s₁ (resolve .global .logger) = (.error e, s₂) :=
        resolve_fails 5 s₁ s₂ .logger e failed
      refine ⟨.error e, s₂, ?_, ?_, Or.inl (still.trans fresh), iff_of_false nofun fun opens => ?_⟩
      · rw [telling, bind_assoc, runOn_bind, unresolved]
      · rw [if_neg fun opens => closed (opensIff.mpr opens)]
        exact before.trans _ _ _ _ _ heard
      · exact closed (opensIff.mpr opens)

end Session
end Fingerprint
