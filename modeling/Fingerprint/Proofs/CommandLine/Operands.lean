import Fingerprint.Proofs.CommandLine.Opening

/-! # Operands

Arguments that do not look like options are operands of a command, and so is all that follows two
dashes (`Spells`). A command reads such arguments into the operands alone (`ofList_of_spells`). The
name of a standard algorithm is an operand in every spelling, for lower case keeps a leading dash
(`isOption_of_lower`). -/
set_option autoImplicit false
namespace Fingerprint

namespace Text

theorem Case.lower_dash : Case.map Case.lowerRows Case.lowerSeveral '-' = ("-" : Text) := by decide

theorem startsWith_dash_lower (t : Text) (dashed : t.startsWith "-" = true) :
    t.lower.startsWith "-" = true := by
  obtain ⟨rest, rfl⟩ := List.isPrefixOf_iff_prefix.mp dashed
  have kept : lower ("-" ++ rest) = "-" ++ lower rest := by
    unfold lower
    rw [List.flatMap_append]
    exact congrArg (· ++ _) Case.lower_dash
  apply List.isPrefixOf_iff_prefix.mpr
  rw [kept]
  exact List.prefix_append _ _

end Text

namespace CommandLine

/-- The arguments hold no option, and without the two dashes they are the operands. -/
inductive Spells : List Text → List Text → Prop where
  | nothing : Spells [] []
  | verbatim (operands : List Text) : Spells ("--" :: operands) operands
  | operand (arg : Text) (args operands : List Text) (plain : isOption arg = false)
      (more : Spells args operands) : Spells (arg :: args) (arg :: operands)

theorem isOption_of_lower (arg name : Text) (lowered : arg.lower = name)
    (plain : name.startsWith "-" = false) : isOption arg = false := by
  cases dashed : arg.startsWith "-" with
  | false =>
      unfold isOption
      rw [dashed]
      rfl
  | true =>
      have kept := Text.startsWith_dash_lower arg dashed
      rw [lowered, plain] at kept
      cases kept

theorem not_startsWith_dash_name (a : Hash.Algorithm) : a.name.startsWith "-" = false := by
  cases a <;> decide

theorem read_of_spells (c : Command) (a : Arguments) (args operands : List Text)
    (spells : Spells args operands) :
    a.read (.command c) args = .ok { a with rest := a.rest ++ operands } := by
  induction spells generalizing a with
  | nothing =>
      unfold Arguments.read
      rw [List.append_nil]
  | verbatim operands =>
      unfold Arguments.read
      rw [if_pos rfl]
  | operand arg args operands plain more ih =>
      have noDashes : arg ≠ "--" := by
        rintro rfl
        cases plain
      unfold Arguments.read
      simp only [if_neg noDashes, plain, Bool.false_eq_true, if_false]
      rw [ih, List.append_assoc]
      rfl

theorem ofList_of_spells (c : Command) (args operands : List Text)
    (spells : Spells args operands) :
    Arguments.ofList (.command c) args = .ok ⟨[], operands⟩ :=
  read_of_spells c ⟨[], []⟩ args operands spells

theorem readArguments_of_spells (t : Terminal) (c : Command) (args operands : List Text)
    (spells : Spells args operands) :
    runIn t (Running.readArguments (.command c) args) = (.ok ⟨[], operands⟩, t) :=
  readArguments_calm t _ args _ (ofList_of_spells c args operands spells) rfl

/-! ## Calling a command -/

theorem isOption_name (c : Command) : isOption c.name = false := by
  cases c <;> decide

theorem name_ne_dashes (c : Command) : c.name ≠ "--" := by
  cases c <;> decide

theorem read_name (a : Arguments) (c : Command) (args : List Text) :
    a.read .program (c.name :: args) = .ok { a with rest := a.rest ++ c.name :: args } := by
  rw [Arguments.read, if_neg (name_ne_dashes c)]
  simp only [isOption_name c, Bool.false_eq_true, if_false]

theorem calls_plain (h : Host) (c : Command) (rest : List Text) :
    Calls h (c.name :: rest) c rest none :=
  .plain ⟨[], c.name :: rest⟩ (read_name ⟨[], []⟩ c rest) rfl rfl rfl

end CommandLine
end Fingerprint
