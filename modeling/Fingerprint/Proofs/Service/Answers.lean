import Fingerprint.Proofs.Service.DigestShape
import Fingerprint.Proofs.Value.Tables

/-! # What a strategy answers and what becomes of it

The answer of a strategy for a content is what its three steps give, one after the other
(`Strategy.answer`). Hashing data surfaces it (`Descriptor.Surfaces`): an answer in the shape of a
digest leaves as it is, and every other answer becomes a failure that names the algorithm and
carries the fault of the strategy if there was one (`surfaces_computeData`). Two kinds slip through
(`Descriptor.Slips`): faults that pass through every handler, and answers that the check on digests
cannot deal with, because they have no length or have the promised one and are no text. -/
set_option autoImplicit false
namespace Fingerprint
variable {η : Type}

def Strategy.answer (s : Strategy η) (content : Value) : Except Fault Value := do
  let h ← s.create
  let h ← s.update h content
  s.hexDigest h

/-- A text, or something that has a length, and another one than is promised. -/
def Value.Checkable (promised : Int) (v : Value) : Prop :=
  (∃ t, v = .text t) ∨ ∃ n : Nat, v.length? = some n ∧ (n : Int) ≠ promised

/-- The failure is about the steps of an algorithm, with what led to it. -/
structure Failure.Reports (f : Failure) (algorithm : Text) (cause : Option Fault) : Prop where
  kind : f.kind = .computation
  names : f.context.get? "algorithm" = some (.text algorithm)
  cause : f.cause = cause

namespace Descriptor

/-- What passes for a digest: the promised digits, of which a line feed may stand for the last. -/
def Accepts (d : Descriptor η) (t : Text) : Prop :=
  t ≠ [] ∧ (t.IsHex d.hexLength ∨ t.IsHexFeed d.hexLength)

/-- An answer that ends a call with a fault: one that passes through every handler, or the one that
is met on the way to check the answer. -/
inductive Slips (d : Descriptor η) : Except Fault Value → Fault → Prop where
  | fatal (f : Fault) (fatal : f.isFatal = true) : Slips d (.error f) f
  | unfit (v : Value) (unfit : ¬ v.Checkable d.hexLength) : Slips d (.ok v) .wrongType

inductive Surfaces (d : Descriptor η) : Except Fault Value → Except Error Text → Prop where
  | digest (t : Text) (accepted : d.Accepts t) : Surfaces d (.ok (.text t)) (.ok t)
  | malformed (v : Value) (checkable : v.Checkable d.hexLength)
      (refused : ∀ t, v = .text t → ¬ d.Accepts t) (g : Failure) (reports : g.Reports d.name none) :
      Surfaces d (.ok v) (.error (.failure g))
  | failed (f : Fault) (caught : f.isFatal = false) (g : Failure)
      (reports : g.Reports d.name (some f)) : Surfaces d (.error f) (.error (.failure g))
  | slipped (answer : Except Fault Value) (f : Fault) (slips : d.Slips answer f) :
      Surfaces d answer (.error (.fault f))

end Descriptor

/-! ## The steps -/

theorem Failure.reports_primitive (message algorithm : Text) (context : Entries)
    (cause : Option Fault) : (primitive message algorithm context cause).Reports algorithm cause where
  kind := rfl
  names := by
    rw [primitive]
    exact (Entries.get?_put_text "algorithm" _ context "algorithm").trans (if_pos rfl)
  cause := rfl

namespace Descriptor
variable (d : Descriptor η)

theorem accepts_iff (t : Text) :
    d.Accepts t ↔ (t.length : Int) = d.hexLength ∧ t.isHexLine = true := by
  constructor
  · rintro ⟨some, hex | fed⟩
    · exact ⟨hex.1, (Text.isHexLine_iff t).mpr ⟨t, some, hex.2, Or.inl rfl⟩⟩
    · exact ⟨fed.length_eq, isHexLine_of_isHexFeed d t fed⟩
  · rintro ⟨promised, line⟩
    refine ⟨?_, Text.isHex_or_isHexFeed d.hexLength t promised line⟩
    rintro rfl
    cases line

theorem surfaces_bind {α : Type} (message : Text) (x : Except Fault α)
    (answer : α → Except Fault Value) (rest : α → Except Error Text)
    (later : ∀ a, d.Surfaces (answer a) (rest a)) :
    d.Surfaces (x >>= answer) (d.guarded message x >>= rest) := by
  cases x with
  | ok a => exact later a
  | error f =>
      by_cases fatal : f.isFatal = true
      · have passed : d.guarded (α := α) message (.error f) = .error (.fault f) := if_pos fatal
        rw [passed]
        exact .slipped _ f (.fatal f fatal)
      · have caught : f.isFatal = false := Bool.eq_false_iff.mpr fatal
        have wrapped : d.guarded (α := α) message (.error f) =
            .error (.failure (.primitive message d.name [] (some f))) := if_neg fatal
        rw [wrapped]
        exact .failed f caught _ (Failure.reports_primitive _ _ _ _)

theorem surfaces_checked (v : Value) : d.Surfaces (.ok v) (d.checked v) := by
  unfold checked
  cases counted : v.length? with
  | none =>
      refine .slipped _ _ (.unfit v ?_)
      rintro (⟨t, rfl⟩ | ⟨n, other, -⟩)
      · cases counted
      · rw [counted] at other
        cases other
  | some n =>
      dsimp only
      by_cases promised : (n : Int) = d.hexLength
      · rw [if_neg (not_not.mpr promised)]
        split
        · next t =>
            cases counted
            split
            · next line => exact .digest t ((d.accepts_iff t).mpr ⟨promised, line⟩)
            · next broken =>
                refine .malformed _ (Or.inl ⟨t, rfl⟩) ?_ _ (Failure.reports_primitive _ _ _ _)
                rintro _ ⟨⟩ accepted
                exact broken ((d.accepts_iff t).mp accepted).2
        · next other =>
            refine .slipped _ _ (.unfit v ?_)
            rintro (⟨t, rfl⟩ | ⟨m, same, differs⟩)
            · exact other t rfl
            · rw [counted] at same
              cases same
              exact differs promised
      · rw [if_pos promised]
        refine .malformed v (Or.inr ⟨n, counted, promised⟩) ?_ _ (Failure.reports_primitive _ _ _ _)
        rintro t rfl accepted
        cases counted
        exact promised ((d.accepts_iff t).mp accepted).1

theorem surfaces_finalize (h : η) :
    d.Surfaces (d.strategy.hexDigest h) (d.finalize h) := by
  have whole : d.strategy.hexDigest h = (d.strategy.hexDigest h >>= fun v => .ok v) := by
    cases d.strategy.hexDigest h <;> rfl
  rw [whole, d.finalize_eq]
  exact d.surfaces_bind _ _ _ _ d.surfaces_checked

theorem surfaces_computeData (v content : Value) (taken : Input.data v = .ok content) :
    d.Surfaces (d.strategy.answer content) (d.computeData v) := by
  unfold computeData
  rw [taken]
  exact d.surfaces_bind _ _ _ _ fun h => d.surfaces_bind _ _ _ _ d.surfaces_finalize

end Descriptor

/-! ## Calls that leave nothing instead of a failure -/

namespace Descriptor.Surfaces
variable {d : Descriptor η} {answer : Except Fault Value} {outcome : Except Error Text}

theorem failsOnly_iff (surfaces : d.Surfaces answer outcome) :
    FailsOnly outcome ↔ ∀ f, ¬ d.Slips answer f := by
  constructor
  · intro fails f slips
    cases surfaces with
    | digest t accepted =>
        cases slips with
        | unfit _ unfit => exact unfit (Or.inl ⟨t, rfl⟩)
    | malformed v checkable refused g reports =>
        cases slips with
        | unfit _ unfit => exact unfit checkable
    | failed f' caught g reports =>
        cases slips with
        | fatal _ fatal =>
            rw [caught] at fatal
            cases fatal
    | slipped _ f' _ =>
        obtain ⟨g, same⟩ := fails (.fault f') rfl
        cases same
  · intro never e ends
    cases surfaces with
    | digest t accepted => cases ends
    | malformed v checkable refused g reports =>
        cases ends
        exact ⟨g, rfl⟩
    | failed f' caught g reports =>
        cases ends
        exact ⟨g, rfl⟩
    | slipped _ f' slips => exact absurd slips (never f')

theorem failure_of_fault (f : Fault) (caught : f.isFatal = false)
    (surfaces : d.Surfaces (.error f) outcome) :
    ∃ g, outcome = .error (.failure g) ∧ g.Reports d.name (some f) := by
  cases surfaces with
  | failed _ _ g reports => exact ⟨g, rfl, reports⟩
  | slipped _ _ slips =>
      cases slips with
      | fatal _ fatal =>
          rw [caught] at fatal
          cases fatal

end Descriptor.Surfaces

end Fingerprint
