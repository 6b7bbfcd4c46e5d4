import Fingerprint.Proofs.Session.Reporting

/-! # Who is told of a failure

What a call does after any history of the program, by what it computes. The logger that is bound can
keep a failure from becoming nothing; as long as only loggers and factories for them are registered
for loggers (`OffersLoggers`), it does so only while it is still to be made. -/
set_option autoImplicit false
namespace Fingerprint
open Fingerprint.Action

inductive Factory.ForLoggers : Factory → Prop
  | failing : ForLoggers .failing
  | nothing : ForLoggers .nothing
  | logger (part : Settings.LoggingSection) : ForLoggers (.logger part)

theorem Factory.ForLoggers.isLogger (f : Factory) (source : f.ForLoggers) (i : Instance)
    (gives : f.Gives i) (something : i.isNothing = false) : i.IsLogger := by
  cases source with
  | failing => cases gives
  | nothing =>
      cases gives
      cases something
  | logger part =>
      cases gives
      exact .logger _ _

/-- A logger is bound, or a factory for loggers with what it has made. -/
inductive Provider.ForLoggers : Provider → Prop
  | ready (i : Instance) (isLogger : i.IsLogger) : ForLoggers (.ready i)
  | shared (f : Factory) (made : Option Instance) (source : f.ForLoggers)
      (loggers : ∀ i, made = some i → i.IsLogger) : ForLoggers (.shared f made)

theorem Provider.ForLoggers.of_becomes (p q : Provider) (forLoggers : p.ForLoggers)
    (becomes : p.Becomes q) : q.ForLoggers := by
  cases becomes with
  | same => exact forLoggers
  | made f before i gives something =>
      cases forLoggers with
      | shared _ _ source =>
          refine .shared f (some i) source ?_
          rintro _ ⟨⟩
          exact source.isLogger f i gives something

/-- What the operation registers for loggers, if anything, serves as one. -/
def Operation.OffersLoggers : Operation → Prop
  | .register .global .logger i f => ∀ p, Session.offeredBy i f = some p → p.ForLoggers
  | _ => True

namespace Session

def OffersLoggers (s : Session) : Prop := ∀ p, s.provided .logger = some p → p.ForLoggers

namespace OffersLoggers

theorem of_rel (p q : Option Provider) (becomes : Option.Rel Provider.Becomes p q)
    (offers : ∀ a, p = some a → a.ForLoggers) (b : Provider) (bound : q = some b) :
    b.ForLoggers := by
  subst bound
  cases becomes with
  | some change => exact (offers _ rfl).of_becomes _ _ change

theorem perform (s : Session) (offers : s.OffersLoggers) (op : Operation)
    (admissible : op.OffersLoggers) : (s.perform op).OffersLoggers := by
  have step := performs_perform s op
  generalize s.perform op = s' at step ⊢
  cases step with
  | keeps _ _ _ keeps => exact of_rel _ _ (keeps.provided .logger) offers
  | starts _ _ _ from_ _ _ adds =>
      obtain ⟨serial, stands⟩ := adds
      refine of_rel _ _ (stands .logger) ?_
      rintro _ ⟨⟩
      exact .shared _ none (.logger _) nofun
  | resets _ _ none =>
      intro p bound
      cases (none .logger).symm.trans bound
  | drops _ _ none =>
      intro p bound
      cases (none .logger).symm.trans bound
  | registers key i f _ _ bound =>
      intro p found
      rw [bound .logger] at found
      split at found
      next same =>
        subst same
        rcases Option.or_eq_some_iff.mp found with new | ⟨-, old⟩
        · exact admissible p new
        · exact offers p old
      next => exact offers p found

theorem after (s : Session) (offers : s.OffersLoggers) (ops : List Operation)
    (admissible : ∀ op ∈ ops, op.OffersLoggers) : (s.after ops).OffersLoggers := by
  induction ops generalizing s with
  | nil => exact offers
  | cons op rest ih =>
      exact ih (s.perform op) (offers.perform s op (admissible op List.mem_cons_self))
        fun op member => admissible op (List.mem_cons_of_mem _ member)

theorem stuck_iff (s : Session) (offers : s.OffersLoggers) : s.LoggerStuck ↔
    s.provided .logger = some (.shared .failing none) ∨
      ∃ part, s.provided .logger = some (.shared (.logger part) none) ∧ ¬ s.Opens part := by
  constructor
  · rintro (⟨i, here, something, misfit⟩ | ⟨f, fresh, stuck⟩)
    · refine absurd ?_ misfit
      rcases here with ready | ⟨f, kept⟩
      · cases offers _ ready with
        | ready _ isLogger => exact isLogger
      · cases offers _ kept with
        | shared _ _ _ loggers => exact loggers i rfl
    · cases offers _ fresh with
      | shared _ _ source =>
          cases source with
          | failing => exact Or.inl fresh
          | nothing => cases stuck
          | logger part => exact Or.inr ⟨part, fresh, stuck⟩
  · rintro (fresh | ⟨part, fresh, closed⟩)
    · exact Or.inr ⟨.failing, fresh, trivial⟩
    · exact Or.inr ⟨.logger part, fresh, closed⟩

end OffersLoggers

end Session
end Fingerprint
