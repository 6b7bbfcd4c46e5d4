import Fingerprint.Proofs.CommandLine.ConfigProblems

/-! # Loadings keep apart

A loading hands its config source over in a place that belongs to the whole program: it lays the
source out, constructs settings, and takes the source away again, however the construction ends
(`Workplace.load`). So no source is ever laid out between two steps (`idle_perform`, `idle_after`),
and a construction meets the source of a loading only within that loading. What a loading or a
construction comes to then depends on the host alone, as long as what is bound for loggers can take
its records. -/
set_option autoImplicit false
namespace Fingerprint
open Fingerprint.Action

namespace Session

/-! ## Records of one computation -/

theorem provided_handed (s : Session) (l : Instance) (r : Record) (key : ServiceKey) :
    (s.handed l r).provided key = s.provided key := by
  cases l <;> rfl

theorem free_of_atHand (s : Session) (i : Instance) (there : s.AtHand i)
    (fits : i.isNothing = true ∨ i.IsLogger) : ¬ s.LoggerStuck := by
  rintro (⟨j, here, something, misfit⟩ | ⟨f, fresh, -⟩)
  · cases there.unique s i j here
    rcases fits with nothing | isLogger
    · cases something.symm.trans nothing
    · exact misfit isLogger
  · exact there.not_fresh s i f fresh

theorem AtHand.of_same (s s' : Session) (i : Instance) (there : s.AtHand i)
    (same : s'.provided .logger = s.provided .logger) : s'.AtHand i := by
  unfold AtHand
  rw [same]
  exact there

theorem Keeps.unbound (s s' : Session) (keeps : s.Keeps s') (key : ServiceKey)
    (unbound : s.provided key = none) : s'.provided key = none := by
  have same := keeps.registered _ _ key
  unfold Session.registered at same
  rw [unbound, Option.map_none] at same
  exact Option.map_eq_none_iff.mp same

section
variable (s : Session) (r : Record)

theorem report_atHand (i : Instance) (there : s.AtHand i)
    (fits : i.isNothing = true ∨ i.IsLogger) :
    ∃ s', runOn s (report .nothing [r]) = (.ok (), s') ∧ s'.AtHand i := by
  have found := there.found s i
  rcases fits with nothing | isLogger
  · have missing : ∀ j, some i = some j → j.isNothing = true := by
      rintro _ ⟨⟩
      exact nothing
    exact ⟨_, report_missing s r s (some i) missing found, there.of_same s _ i rfl⟩
  · have handing := report_found s r s i isLogger.something found
    exact ⟨_, handing.trans (logTo_handed s i isLogger r),
      there.of_same s _ i (provided_handed s i r .logger)⟩

/-- A factory that gives nothing or can make its logger has made what takes the record. -/
theorem report_fresh (f : Factory) (fresh : s.provided .logger = some (.shared f none))
    (free : ¬ s.LoggerStuck) :
    ∃ s', runOn s (report .nothing [r]) = (.ok (), s') ∧ ¬ s'.LoggerStuck := by
  have able : ¬ s.Stuck f := fun stuck => free (Or.inr ⟨f, fresh, stuck⟩)
  cases f with
  | nothing =>
      let s₁ : Session := { s with factoryRuns := s.factoryRuns + 1 }
      have makes : runOn s (makeBy (tryResolveWithin 4) .global .nothing) = (.ok .nothing, s₁) := rfl
      have found := tryResolve_empty 4 s s₁ .logger _ fresh makes
      have missing : ∀ i, some Instance.nothing = some i → i.isNothing = true := by
        rintro _ ⟨⟩
        rfl
      exact ⟨_, report_missing s r s₁ _ missing found, free⟩
  | logger part =>
      obtain ⟨s', -, ⟨-, n, found, bound⟩ | ⟨closed, -⟩⟩ := tryResolve_fresh_logger 4 s part fresh
      · have isLogger : (Instance.logger n defaultLoggerName).IsLogger := .logger _ _
        have there : s'.AtHand (.logger n defaultLoggerName) := Or.inr ⟨_, bound⟩
        have still := there.of_same s' _ _ (provided_handed s' (.logger n defaultLoggerName) r .logger)
        exact ⟨_, (report_found s r s' _ rfl found).trans (logTo_handed s' _ isLogger r),
          free_of_atHand _ _ still (Or.inr isLogger)⟩
      · exact absurd closed able
  | counting | failing | constant | catalog | service => exact absurd trivial able

/-- A logger that is not stuck takes the record and does not get stuck by it. -/
theorem report_free (free : ¬ s.LoggerStuck) :
    ∃ s', runOn s (report .nothing [r]) = (.ok (), s') ∧ ¬ s'.LoggerStuck := by
  have atHand (i : Instance) (there : s.AtHand i) :
      ∃ s', runOn s (report .nothing [r]) = (.ok (), s') ∧ ¬ s'.LoggerStuck := by
    have fits : i.isNothing = true ∨ i.IsLogger := by
      by_contra misfit
      rw [not_or, Bool.not_eq_true] at misfit
      exact free (Or.inl ⟨i, there, misfit.1, misfit.2⟩)
    obtain ⟨s', told, still⟩ := report_atHand s r i there fits
    exact ⟨s', told, free_of_atHand s' i still fits⟩
  cases bound : s.provided .logger with
  | none =>
      obtain ⟨s₁, found, -⟩ := tryResolve_unbound 4 s .logger bound
      have keeps := keeps_tryResolve .global .logger s
      rw [tryResolve, found] at keeps
      have unbound := keeps.unbound _ _ .logger bound
      exact ⟨_, report_missing s r s₁ none nofun found, free_of_unbound _ unbound⟩
  | some p =>
      cases p with
      | ready i => exact atHand i (Or.inl bound)
      | shared f made =>
          cases made with
          | some i => exact atHand i (Or.inr ⟨f, bound⟩)
          | none => exact report_fresh s r f bound free

end

theorem reportBy_free (records : List Record) (s : Session) (free : ¬ s.LoggerStuck) :
    ∃ s', runOn s (reportBy tryResolve .nothing records) = (.ok (), s') ∧ ¬ s'.LoggerStuck := by
  induction records generalizing s with
  | nil => exact ⟨s, rfl, free⟩
  | cons r rest ih =>
      obtain ⟨s₁, told, free₁⟩ := report_free s r free
      obtain ⟨s₂, others, free₂⟩ := ih s₁ free₁
      refine ⟨s₂, ?_, free₂⟩
      rw [reportBy_cons, runOn_bind_ok s s₁ _ _ () told, others]

theorem runOn_diagnose_free {α : Type} (s : Session) (x : Host → Diagnosed α)
    (free : ¬ s.LoggerStuck) :
    ∃ s', runOn s (diagnose x) = ((x s.host).outcome.1, s') := by
  obtain ⟨s', told, -⟩ := reportBy_free (x s.host).outcome.2 s free
  refine ⟨s', ?_⟩
  rw [runOn_diagnose, told]

theorem runOn_diagnose_continued {α β : Type} (s : Session) (x : Host → Diagnosed α)
    (y : Host → Diagnosed β) (f : α → Except Error β)
    (continued : (y s.host).outcome = ((x s.host).outcome.1 >>= f, (x s.host).outcome.2)) :
    runOn s (diagnose y) = ((runOn s (diagnose x)).1 >>= f, (runOn s (diagnose x)).2) := by
  rw [runOn_diagnose, runOn_diagnose, continued]
  rcases runOn s (reportBy tryResolve .nothing (x s.host).outcome.2) with ⟨e | _, s'⟩ <;> rfl

end Session

namespace Settings

/-- The source after a construction, which asks it once the environment has been read. -/
def ConfigSource.asked (c : ConfigSource) (h : Host) : ConfigSource :=
  match ofEnvironment h.environment with
  | .ok _ => (c.read h).2
  | .error _ => c

end Settings

/-- A program, and the source that is laid out for the settings constructed next. -/
structure Workplace where
  session : Session
  laidOut : Option Settings.ConfigSource

namespace Workplace

def fresh (h : Host) (home : Path) (clock : Text) : Workplace := ⟨.onHost h home clock, none⟩

def construct (w : Workplace) (given : Entries) :
    Except Error (Settings × Settings.ConfigReading) × Workplace :=
  let source := w.laidOut.getD (.make none .null)
  let (result, session) :=
    runOn w.session (Session.diagnose fun h => Settings.assemble given h source)
  (result, ⟨session, w.laidOut.map fun c => c.asked w.session.host⟩)

/-- Lays a source out, constructs settings, and takes the source away whatever came of them. -/
def load (w : Workplace) (named : Option Path) (start : Value) (strict : Bool) :
    Except Error Settings × Workplace :=
  let (result, w') := { w with laidOut := some (.make named start) }.construct []
  (result >>= Settings.concluded named strict, { w' with laidOut := none })

inductive Making where
  | load (named : Option Path) (start : Value) (strict : Bool)
  | construct (given : Entries)

/-- What comes of it on a host, with nothing else around. -/
def Making.alone : Making → Host → Diagnosed Settings
  | .load named start strict => fun h => Settings.load h named start strict
  | .construct given => fun h => Settings.ofGiven h given

def make (w : Workplace) : Making → Except Error Settings × Workplace
  | .load named start strict => w.load named start strict
  | .construct given =>
    let (result, w') := w.construct given
    (result >>= fun made => .ok made.1, w')

theorem make_eq (w : Workplace) (idle : w.laidOut = none) (m : Making) :
    w.make m = ((runOn w.session (Session.diagnose m.alone)).1,
      ⟨(runOn w.session (Session.diagnose m.alone)).2, none⟩) := by
  cases m with
  | load named start strict =>
      have ends := Session.runOn_diagnose_continued w.session
        (fun h => Settings.assemble [] h (.make named start))
        (Making.load named start strict).alone _
        (Settings.outcome_load_concluded w.session.host named start strict)
      rw [ends]
      rfl
  | construct given =>
      have ends := Session.runOn_diagnose_continued w.session
        (fun h => Settings.assemble given h (.make none .null)) (Making.construct given).alone _
        (Settings.outcome_ofGiven w.session.host given)
      rw [ends, make, construct, idle]
      rfl

inductive Event where
  | making (m : Making)
  | other (op : Operation)

/-- Settings are made, or files, variables and the directory change: the program does nothing
else. -/
def Event.Plain : Event → Prop
  | .making _ | .other (.outside _) => True
  | _ => False

def perform (w : Workplace) : Event → Workplace
  | .making m => (w.make m).2
  | .other op => { w with session := w.session.perform op }

def after (w : Workplace) (events : List Event) : Workplace := events.foldl perform w

/-! ## Nothing stays laid out -/

theorem idle_perform (w : Workplace) (idle : w.laidOut = none) (e : Event) :
    (w.perform e).laidOut = none := by
  cases e with
  | making m =>
      rw [perform, make_eq w idle m]
  | other op => exact idle

theorem idle_after (w : Workplace) (idle : w.laidOut = none) (events : List Event) :
    (w.after events).laidOut = none := by
  induction events generalizing w with
  | nil => exact idle
  | cons e rest ih => exact ih (w.perform e) (idle_perform w idle e)

/-! ## Nothing comes to be registered -/

theorem unbound_perform (w : Workplace) (idle : w.laidOut = none) (e : Event) (plain : e.Plain)
    (unbound : w.session.provided .logger = none) :
    (w.perform e).session.provided .logger = none := by
  cases e with
  | making m =>
      have keeps : Action.Keeps (Session.diagnose m.alone) :=
        Session.within_diagnoseBy Session.tryResolve Session.keeps_tryResolve m.alone
      rw [perform, make_eq w idle m]
      exact (keeps w.session).unbound _ _ .logger unbound
  | other op =>
      cases op with
      | outside host => exact unbound
      | _ => cases plain

theorem unbound_after (w : Workplace) (idle : w.laidOut = none) (events : List Event)
    (plain : ∀ e ∈ events, e.Plain) (unbound : w.session.provided .logger = none) :
    (w.after events).session.provided .logger = none := by
  induction events generalizing w with
  | nil => exact unbound
  | cons e rest ih =>
      have first := unbound_perform w idle e (plain e List.mem_cons_self) unbound
      exact ih (w.perform e) (idle_perform w idle e)
        (fun e member => plain e (List.mem_cons_of_mem _ member)) first

/-! ## What a making comes to -/

theorem outcome_make (w : Workplace) (idle : w.laidOut = none)
    (free : ¬ w.session.LoggerStuck) (m : Making) :
    (w.make m).1 = (m.alone w.session.host).outcome.1 := by
  obtain ⟨s', ends⟩ := Session.runOn_diagnose_free w.session m.alone free
  rw [make_eq w idle m, ends]

/-- Loadings and constructions do not influence one another: after any history, in which any of them
may have failed, each ends as it would in a fresh program on the same host, and what a construction
comes to is told by the given values and the host. Where settings are made and the host changes and
nothing else is done, there is no condition; otherwise what is bound for loggers must not be
stuck. -/
theorem makings_keep_apart (w : Workplace) (idle : w.laidOut = none) (events : List Event)
    (free : (w.session.provided .logger = none ∧ ∀ e ∈ events, e.Plain) ∨
      ¬ (w.after events).session.LoggerStuck)
    (m : Making) (home : Path) (clock : Text) :
    let now := w.after events
    now.laidOut = none ∧
      (now.make m).1 = ((fresh now.session.host home clock).make m).1 ∧
      (now.make m).1 = (m.alone now.session.host).outcome.1 := by
  intro now
  have idleNow : now.laidOut = none := idle_after w idle events
  have freeNow : ¬ now.session.LoggerStuck := by
    rcases free with ⟨unbound, plain⟩ | free
    · exact Session.free_of_unbound _ (unbound_after w idle events plain unbound)
    · exact free
  have freeThere : ¬ (fresh now.session.host home clock).session.LoggerStuck :=
    Session.free_of_unbound _ rfl
  have here := outcome_make now idleNow freeNow m
  have there := outcome_make (fresh now.session.host home clock) rfl freeThere m
  exact ⟨idleNow, here.trans there.symm, here⟩

/-- A strict loading fails, and a variable is set before a construction. -/
theorem makings_keep_apart_after_failed_loading :
    let host := Settings.onFiles []
    let loading := Making.load (some (.ofText "/c.toml")) .null true
    let changed := host.setVariable "DIGESTKIT_DIGEST__EXTENDED" "true"
    let w := fresh host (.ofText "/") "clock"
    let events : List Event := [.making loading, .other (.outside changed)]
    (∃ f, (w.make loading).1 = .error (.failure f)) ∧
      w.laidOut = none ∧ (w.session.provided .logger = none ∧ ∀ e ∈ events, e.Plain) ∧
      ((w.after events).make (.construct [])).1 =
        ((fresh changed (.ofText "/") "clock").make (.construct [])).1 ∧
      ((w.after events).make (.construct [])).1 =
        .ok ⟨{ Settings.DigestSection.default with extended := true }, .default, none, none⟩ := by
  intro host loading changed w events
  have plain : ∀ e ∈ events, e.Plain := by
    intro e member
    rcases List.mem_cons.mp member with rfl | later
    · trivial
    · cases List.mem_singleton.mp later
      trivial
  obtain ⟨-, alike, alone⟩ := makings_keep_apart w rfl events (Or.inl ⟨rfl, plain⟩) (.construct [])
    (.ofText "/") "clock"
  exact ⟨⟨_, rfl⟩, rfl, ⟨rfl, plain⟩, alike, alone.trans rfl⟩

end Workplace
end Fingerprint
