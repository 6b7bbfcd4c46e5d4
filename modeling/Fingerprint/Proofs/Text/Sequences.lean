import Fingerprint.Text.Sequences
import Mathlib.Data.List.Basic
import Mathlib.Data.List.Infix

/-! # What is left without escape sequences

A text stays as it is exactly when it holds no sequence (`withoutSequences_eq_iff`). Characters that
no sequence has, such as blanks, line feeds and halves of surrogate pairs, always stay, and what
stands before one and what stands behind it are sifted apart (`withoutSequences_append_apart`). -/
set_option autoImplicit false
namespace Fingerprint

namespace CodePoint

structure Apart (c : CodePoint) : Prop where
  noEscape : c ≠ escape
  noBracket : c ≠ '['
  noParameter : c.isParameter = false
  noLetter : c.isLetter = false

theorem lt_of_isLetter (c : CodePoint) (letter : c.isLetter = true) :
    0x40 < c.val ∧ c.val < 0x80 := by
  simp only [isLetter, Bool.or_eq_true, Bool.and_eq_true, decide_eq_true_eq] at letter
  omega

theorem lt_of_isParameter (c : CodePoint) (parameter : c.isParameter = true) : c.val < 0x40 := by
  simp only [isParameter, isDigit, Bool.or_eq_true, Bool.and_eq_true, decide_eq_true_eq] at parameter
  rcases parameter with (⟨-, digit⟩ | rfl) | rfl
  · omega
  · decide
  · decide

theorem apart_of_high (c : CodePoint) (high : 0x80 ≤ c.val) : c.Apart := by
  have noLetter : c.isLetter = false := by
    rw [Bool.eq_false_iff]
    intro letter
    have := lt_of_isLetter c letter
    omega
  have noParameter : c.isParameter = false := by
    rw [Bool.eq_false_iff]
    intro parameter
    have := lt_of_isParameter c parameter
    omega
  refine ⟨?_, ?_, noParameter, noLetter⟩ <;>
  · rintro rfl
    revert high
    decide

theorem apart_of_isSurrogate (c : CodePoint) (half : c.isSurrogate = true) : c.Apart := by
  simp only [isSurrogate, Bool.and_eq_true, decide_eq_true_eq] at half
  exact apart_of_high c (by omega)

theorem not_isParameter_of_isLetter (c : CodePoint) (letter : c.isLetter = true) :
    c.isParameter = false := by
  rw [Bool.eq_false_iff]
  intro parameter
  have := lt_of_isLetter c letter
  have := lt_of_isParameter c parameter
  omega

end CodePoint

namespace Text
open CodePoint

/-- An escape character, an opening bracket, parameters and a letter. -/
inductive IsSequence : Text → Prop where
  | command (parameters : Text) (letter : CodePoint)
      (all : ∀ c ∈ parameters, c.isParameter = true) (ends : letter.isLetter = true) :
      IsSequence (escape :: '[' :: (parameters ++ [letter]))

def HasSequence (t : Text) : Prop := ∃ sequence, IsSequence sequence ∧ sequence <:+: t

/-- What has been read of a sequence that is not over. -/
inductive Pending : Text → Prop where
  | nothing : Pending []
  | begun : Pending [escape]
  | opened (parameters : Text) (all : ∀ c ∈ parameters, c.isParameter = true) :
      Pending (escape :: '[' :: parameters)

/-- What a character gives behind what is held, and what is held then. -/
inductive Step (held : Text) (c : CodePoint) : Text → Text → Prop where
  | goesOn (pending : Pending (held ++ [c])) : Step held c [] (held ++ [c])
  | isOver (whole : IsSequence (held ++ [c])) : Step held c [] []
  | restarts (escapes : c = escape) (broken : ¬ Pending (held ++ [c]))
      (unfinished : ¬ IsSequence (held ++ [c])) : Step held c held [escape]
  | stays (plain : c ≠ escape) (broken : ¬ Pending (held ++ [c]))
      (unfinished : ¬ IsSequence (held ++ [c])) : Step held c (held ++ [c]) []

/-! ## One character -/

theorem escape_ne_bracket : escape ≠ '[' := by decide

theorem noEscape_of_parameters (parameters : Text)
    (all : ∀ c ∈ parameters, c.isParameter = true) : escape ∉ parameters :=
  fun member => absurd (all escape member) (by decide)

theorem not_isSequence_begun (c : CodePoint) : ¬ IsSequence ([escape] ++ [c]) := by
  intro whole
  generalize same : [escape] ++ [c] = t at whole
  cases whole with
  | command parameters => cases parameters <;> cases same

theorem isSequence_opened_iff (parameters : Text) (c : CodePoint)
    (all : ∀ d ∈ parameters, d.isParameter = true) :
    IsSequence (escape :: '[' :: parameters ++ [c]) ↔ c.isLetter = true := by
  constructor
  · intro whole
    generalize same : escape :: '[' :: parameters ++ [c] = t at whole
    cases whole with
    | command others letter _ ends =>
        simp only [List.cons_append, List.cons.injEq, true_and] at same
        obtain ⟨-, ⟨⟩⟩ := List.append_inj' same rfl
        exact ends
  · exact .command parameters c all

theorem pending_opened_iff (parameters : Text) (c : CodePoint)
    (all : ∀ d ∈ parameters, d.isParameter = true) :
    Pending (escape :: '[' :: parameters ++ [c]) ↔ c.isParameter = true := by
  constructor
  · intro pending
    generalize same : escape :: '[' :: parameters ++ [c] = t at pending
    cases pending with
    | nothing => cases same
    | begun => cases same
    | opened others others_all =>
        simp only [List.cons_append, List.cons.injEq, true_and] at same
        apply others_all
        rw [← same]
        exact List.mem_append_right _ (List.mem_singleton_self c)
  · intro parameter
    exact .opened (parameters ++ [c])
      (List.forall_mem_append.mpr ⟨all, List.forall_mem_singleton.mpr parameter⟩)

/-- What reading the character comes to, whatever follows. -/
def Sifts (held : Text) (c : CodePoint) : Prop :=
  ∃ out next, Step held c out next ∧ ∀ rest, sift held (c :: rest) = out ++ sift next rest

theorem sifts_nothing (c : CodePoint) : Sifts [] c := by
  by_cases escapes : c = escape
  · refine ⟨_, _, .goesOn (escapes ▸ .begun), fun rest => ?_⟩
    rw [sift, if_pos escapes, escapes]
    rfl
  · refine ⟨_, _, .stays escapes ?_ ?_, fun rest => ?_⟩
    · rintro ⟨⟩
      exact escapes rfl
    · rintro ⟨⟩
    · rw [sift, if_neg escapes]
      rfl

theorem sifts_begun (c : CodePoint) : Sifts [escape] c := by
  by_cases escapes : c = escape
  · refine ⟨_, _, .restarts escapes ?_ (not_isSequence_begun c), fun rest => ?_⟩
    · rintro ⟨⟩
      exact escape_ne_bracket escapes.symm
    · rw [sift, if_pos escapes]
  by_cases bracket : c = '['
  · refine ⟨_, _, .goesOn (bracket ▸ .opened [] nofun), fun rest => ?_⟩
    rw [sift, if_neg escapes, if_pos bracket, bracket]
    rfl
  · refine ⟨_, _, .stays escapes ?_ (not_isSequence_begun c), fun rest => ?_⟩
    · rintro ⟨⟩
      exact bracket rfl
    · rw [sift, if_neg escapes, if_neg bracket]
      rfl

theorem sift_opened (parameters : Text) (c : CodePoint) (rest : Text) :
    sift (escape :: '[' :: parameters) (c :: rest) =
      if c = escape then (escape :: '[' :: parameters) ++ sift [escape] rest
      else if c.isParameter then sift (escape :: '[' :: parameters ++ [c]) rest
      else if c.isLetter then sift [] rest
      else (escape :: '[' :: parameters) ++ c :: sift [] rest := rfl

theorem sifts_opened (parameters : Text) (all : ∀ d ∈ parameters, d.isParameter = true)
    (c : CodePoint) : Sifts (escape :: '[' :: parameters) c := by
  have next := pending_opened_iff parameters c all
  have last := isSequence_opened_iff parameters c all
  by_cases escapes : c = escape
  · refine ⟨_, _, .restarts escapes ?_ ?_, fun rest => ?_⟩
    · rw [next, escapes]
      decide
    · rw [last, escapes]
      decide
    · rw [sift_opened, if_pos escapes]
  by_cases parameter : c.isParameter = true
  · refine ⟨_, _, .goesOn (next.mpr parameter), fun rest => ?_⟩
    rw [sift_opened, if_neg escapes, if_pos parameter, List.nil_append]
  by_cases letter : c.isLetter = true
  · refine ⟨_, _, .isOver (last.mpr letter), fun rest => ?_⟩
    rw [sift_opened, if_neg escapes, if_neg parameter, if_pos letter, List.nil_append]
  · refine ⟨_, _, .stays escapes (next.not.mpr parameter) (last.not.mpr letter), fun rest => ?_⟩
    rw [sift_opened, if_neg escapes, if_neg parameter, if_neg letter, List.append_assoc]
    rfl

theorem sift_step (held : Text) (pending : Pending held) (c : CodePoint) : Sifts held c := by
  cases pending with
  | nothing => exact sifts_nothing c
  | begun => exact sifts_begun c
  | opened parameters all => exact sifts_opened parameters all c

theorem Step.pending (held : Text) (c : CodePoint) (out next : Text) (step : Step held c out next) :
    Pending next := by
  cases step with
  | goesOn pending => exact pending
  | isOver | stays => exact .nothing
  | restarts => exact .begun

/-! ## Characters that stay -/

section
variable (c : CodePoint) (apart : c.Apart)
include apart

theorem Pending.not_mem (held : Text) (pending : Pending held) : c ∉ held := by
  cases pending with
  | nothing => exact List.not_mem_nil
  | begun => exact List.mem_singleton.not.mpr apart.noEscape
  | opened parameters all =>
      have others : c ∉ parameters := fun member => by
        have parameter := all c member
        rw [apart.noParameter] at parameter
        cases parameter
      simp only [List.mem_cons, not_or]
      exact ⟨apart.noEscape, apart.noBracket, others⟩

theorem IsSequence.not_mem (sequence : Text) (whole : IsSequence sequence) : c ∉ sequence := by
  cases whole with
  | command parameters letter all ends =>
      have opened := Pending.not_mem c apart _ (.opened parameters all)
      have other : c ≠ letter := fun same => by
        rw [← same, apart.noLetter] at ends
        cases ends
      rw [← List.cons_append, ← List.cons_append, List.mem_append, List.mem_singleton, not_or]
      exact ⟨opened, other⟩

theorem Step.of_apart (held out next : Text) (step : Step held c out next) :
    out = held ++ [c] ∧ next = [] := by
  have last : c ∈ held ++ [c] := List.mem_append_right _ (List.mem_singleton_self c)
  cases step with
  | goesOn pending => exact absurd last (pending.not_mem c apart)
  | isOver whole => exact absurd last (whole.not_mem c apart)
  | restarts escapes => exact absurd escapes apart.noEscape
  | stays => exact ⟨rfl, rfl⟩

theorem sift_append_apart (held before after : Text) (pending : Pending held) :
    sift held (before ++ c :: after) = sift held before ++ c :: sift [] after := by
  induction before generalizing held with
  | nil =>
      obtain ⟨out, next, step, sifts⟩ := sift_step held pending c
      obtain ⟨rfl, rfl⟩ := step.of_apart c apart
      rw [List.nil_append, sifts, List.append_assoc]
      rfl
  | cons d rest ih =>
      obtain ⟨out, next, step, sifts⟩ := sift_step held pending d
      rw [List.cons_append, sifts, sifts, ih next step.pending, List.append_assoc]

theorem withoutSequences_append_apart (before after : Text) :
    (before ++ c :: after).withoutSequences =
      before.withoutSequences ++ c :: after.withoutSequences :=
  sift_append_apart c apart [] before after .nothing

theorem Step.count (held out next : Text) (pending : Pending held) (d : CodePoint)
    (step : Step held d out next) : out.count c = [d].count c := by
  have held_none : held.count c = 0 := List.count_eq_zero.mpr (pending.not_mem c apart)
  have none_of (absent : c ∉ held ++ [d]) : [d].count c = 0 :=
    List.count_eq_zero.mpr fun member => absent (List.mem_append_right _ member)
  cases step with
  | goesOn later => exact (none_of (later.not_mem c apart)).symm
  | isOver whole => exact (none_of (whole.not_mem c apart)).symm
  | restarts escapes =>
      rw [held_none, escapes]
      exact (List.count_eq_zero.mpr (Pending.begun.not_mem c apart)).symm
  | stays => rw [List.count_append, held_none, Nat.zero_add]

theorem count_sift (held t : Text) (pending : Pending held) :
    (sift held t).count c = t.count c := by
  induction t generalizing held with
  | nil => exact List.count_eq_zero.mpr (pending.not_mem c apart)
  | cons d rest ih =>
      obtain ⟨out, next, step, sifts⟩ := sift_step held pending d
      rw [sifts, List.count_append, step.count c apart held out next pending,
        ih next step.pending, ← List.count_append]
      rfl

theorem count_withoutSequences (t : Text) : t.withoutSequences.count c = t.count c :=
  count_sift c apart [] t .nothing

theorem mem_withoutSequences_iff (t : Text) : c ∈ t.withoutSequences ↔ c ∈ t := by
  rw [← List.count_pos_iff, count_withoutSequences c apart, List.count_pos_iff]

end

theorem Step.sublist (held out next : Text) (c : CodePoint) (step : Step held c out next) :
    (out ++ next).Sublist (held ++ [c]) := by
  cases step with
  | goesOn => exact .refl _
  | isOver => exact List.nil_sublist _
  | restarts escapes => rw [escapes]
  | stays => rw [List.append_nil]

theorem sift_sublist (held t : Text) (pending : Pending held) :
    (sift held t).Sublist (held ++ t) := by
  induction t generalizing held with
  | nil =>
      rw [List.append_nil]
      exact .refl _
  | cons c rest ih =>
      obtain ⟨out, next, step, sifts⟩ := sift_step held pending c
      have later := (ih next step.pending).append_left out
      rw [sifts, List.append_cons]
      rw [← List.append_assoc] at later
      exact later.trans (step.sublist.append_right rest)

theorem withoutSequences_sublist (t : Text) : t.withoutSequences.Sublist t :=
  sift_sublist [] t .nothing

/-- What stands before the first escape character stays. -/
theorem withoutSequences_append_plain (before after : Text) (plain : escape ∉ before) :
    (before ++ after).withoutSequences = before ++ after.withoutSequences := by
  induction before with
  | nil => rfl
  | cons c rest ih =>
      obtain ⟨first, others⟩ := not_or.mp (List.mem_cons.not.mp plain)
      rw [List.cons_append, withoutSequences, sift, if_neg (Ne.symm first)]
      exact congrArg (c :: ·) (ih others)

/-! ## Sequences -/

theorem eq_nil_or_begins (held : Text) (pending : Pending held) :
    held = [] ∨ ∃ rest, held = escape :: rest ∧ escape ∉ rest := by
  cases pending with
  | nothing => exact Or.inl rfl
  | begun => exact Or.inr ⟨[], rfl, List.not_mem_nil⟩
  | opened parameters all =>
      refine Or.inr ⟨_, rfl, ?_⟩
      rw [List.mem_cons, not_or]
      exact ⟨escape_ne_bracket, noEscape_of_parameters parameters all⟩

theorem IsSequence.letter (sequence : Text) (whole : IsSequence sequence) :
    ∃ c ∈ sequence, c.isLetter = true := by
  cases whole with
  | command parameters letter all ends => exact ⟨letter, by simp, ends⟩

theorem Pending.noLetter (held : Text) (pending : Pending held) (c : CodePoint) (member : c ∈ held) :
    c.isLetter = false := by
  have fixed : escape.isLetter = false ∧ isLetter '[' = false := by decide
  cases pending with
  | nothing => cases member
  | begun => exact List.mem_singleton.mp member ▸ fixed.1
  | opened parameters all =>
      rcases List.mem_cons.mp member with rfl | member
      · exact fixed.1
      rcases List.mem_cons.mp member with rfl | member
      · exact fixed.2
      · rw [Bool.eq_false_iff]
        intro letter
        have parameter := not_isParameter_of_isLetter c letter
        rw [all c member] at parameter
        cases parameter

theorem Pending.not_infix (held : Text) (pending : Pending held) (sequence : Text)
    (whole : IsSequence sequence) : ¬ sequence <:+: held := by
  intro inside
  obtain ⟨c, member, letter⟩ := whole.letter
  rw [pending.noLetter held c (inside.subset member)] at letter
  cases letter

/-- What begins a sequence is the whole of it, or something that is not over. -/
theorem pending_of_prefix (sequence begun : Text) (whole : IsSequence sequence)
    (begins : begun <+: sequence) : begun = sequence ∨ Pending begun := by
  cases whole with
  | command parameters letter all ends =>
      rcases begun with _ | ⟨c, _ | ⟨d, more⟩⟩
      · exact Or.inr .nothing
      · obtain ⟨rfl, -⟩ := List.cons_prefix_cons.mp begins
        exact Or.inr .begun
      · obtain ⟨same, inner⟩ := List.cons_prefix_cons.mp begins
        obtain ⟨bracket, last⟩ := List.cons_prefix_cons.mp inner
        rw [same, bracket]
        rcases List.prefix_concat_iff.mp last with rfl | inner
        · exact Or.inl rfl
        · exact Or.inr (.opened more fun c member => all c (inner.subset member))

theorem infix_of_noEscape (sequence before after : Text) (whole : IsSequence sequence)
    (plain : escape ∉ before) (inside : sequence <:+: before ++ after) : sequence <:+: after := by
  induction before with
  | nil => exact inside
  | cons c rest ih =>
      obtain ⟨first, others⟩ := not_or.mp (List.mem_cons.not.mp plain)
      rw [List.cons_append, List.infix_cons_iff] at inside
      rcases inside with begins | later
      · cases whole
        obtain ⟨same, -⟩ := List.cons_prefix_cons.mp begins
        exact absurd same first
      · exact ih others later

/-- A sequence does not begin in what is held when the next character breaks that off. -/
theorem infix_of_broken (held : Text) (pending : Pending held) (c : CodePoint)
    (broken : ¬ Pending (held ++ [c])) (unfinished : ¬ IsSequence (held ++ [c])) (sequence rest : Text)
    (whole : IsSequence sequence) (inside : sequence <:+: held ++ c :: rest) :
    sequence <:+: c :: rest := by
  rcases eq_nil_or_begins held pending with rfl | ⟨more, rfl, plain⟩
  · exact inside
  rw [List.cons_append, List.infix_cons_iff] at inside
  rcases inside with begins | later
  · have next : escape :: more ++ [c] <+: escape :: (more ++ c :: rest) :=
      ⟨rest, by simp⟩
    rcases List.prefix_or_prefix_of_prefix next begins with longer | shorter
    · rcases pending_of_prefix sequence _ whole longer with rfl | later
      · exact absurd whole unfinished
      · exact absurd later broken
    · rcases List.prefix_concat_iff.mp shorter with rfl | inner
      · exact absurd whole unfinished
      · exact absurd inner.isInfix (pending.not_infix _ sequence whole)
  · exact infix_of_noEscape sequence more _ whole plain later

theorem not_hasSequence_of_noEscape (t : Text) (plain : escape ∉ t) : ¬ HasSequence t := by
  rintro ⟨sequence, whole, inside⟩
  cases whole
  exact plain (inside.subset List.mem_cons_self)

theorem hasSequence_append_left (before after : Text) (has : HasSequence after) :
    HasSequence (before ++ after) := by
  obtain ⟨sequence, whole, inside⟩ := has
  exact ⟨sequence, whole, inside.trans (List.suffix_append before after).isInfix⟩

theorem sift_eq_iff (held t : Text) (pending : Pending held) :
    sift held t = held ++ t ↔ ¬ HasSequence (held ++ t) := by
  induction t generalizing held with
  | nil =>
      rw [List.append_nil]
      refine iff_of_true rfl ?_
      rintro ⟨sequence, whole, inside⟩
      exact pending.not_infix held sequence whole inside
  | cons c rest ih =>
      obtain ⟨out, next, step, sifts⟩ := sift_step held pending c
      have later := ih next step.pending
      rw [sifts]
      cases step with
      | goesOn =>
          rw [← List.append_cons] at later
          exact later
      | isOver whole =>
          refine iff_of_false (fun same => ?_) (not_not.mpr ⟨_, whole, [], rest, ?_⟩)
          · have short := (sift_sublist [] rest .nothing).length_le
            have long := congrArg List.length same
            simp only [List.nil_append, List.length_append, List.length_cons] at short long
            omega
          · simp only [List.nil_append, List.append_assoc, List.cons_append]
      | restarts escapes broken unfinished =>
          rw [List.append_cancel_left_eq, escapes]
          refine later.trans (not_congr ⟨hasSequence_append_left held _, ?_⟩)
          rintro ⟨sequence, whole, inside⟩
          exact ⟨sequence, whole, infix_of_broken held pending escape (escapes ▸ broken)
            (escapes ▸ unfinished) sequence rest whole inside⟩
      | stays plain broken unfinished =>
          rw [List.append_assoc, List.append_cancel_left_eq]
          refine (List.cons_inj_right c).trans (later.trans (not_congr ⟨?_, ?_⟩))
          · rw [List.append_cons]
            exact hasSequence_append_left (held ++ [c]) rest
          rintro ⟨sequence, whole, inside⟩
          refine ⟨sequence, whole, infix_of_noEscape sequence [c] rest whole ?_
            (infix_of_broken held pending c broken unfinished sequence rest whole inside)⟩
          exact List.mem_singleton.not.mpr (Ne.symm plain)

theorem withoutSequences_eq_iff (t : Text) : t.withoutSequences = t ↔ ¬ HasSequence t :=
  sift_eq_iff [] t .nothing

/-- What comes together around a sequence is not read again. -/
example : withoutSequences "\x1b\x1b[0m[1mab" = ("\x1b[1mab" : Text) := by decide

end Text
end Fingerprint
