import Fingerprint.Descriptor
import Fingerprint.Strategy.Hasher
import Mathlib.Data.List.TakeWhile

/-! # Hexadecimal texts

`Text.IsHex` is the shape of a digest: a promised number of lower-case hexadecimal digits. Bytes
are written in that shape and lower case leaves it alone. The check on a line is weaker by one
line feed (`isHexLine_iff`), and that line feed is all that it lets slip (`isHex_or_isHexFeed`). -/
set_option autoImplicit false
namespace Fingerprint

namespace Text

def IsHex (length : Int) (t : Text) : Prop :=
  (t.length : Int) = length ∧ ∀ c ∈ t, isHexUnit c = true

def lineFeed : Text := "\n"

/-- One digit too few, and a line feed in its place. -/
def IsHexFeed (length : Int) (t : Text) : Prop :=
  ∃ digits : Text, digits.IsHex (length - 1) ∧ t = digits ++ lineFeed

theorem lineFeed_eq : lineFeed = [10] := rfl

theorem lineFeed_not_hex : isHexUnit 10 = false := by decide

theorem isHexLine_iff (t : Text) :
    t.isHexLine = true ↔ ∃ digits : Text, digits ≠ [] ∧ (∀ c ∈ digits, isHexUnit c = true) ∧
      (t = digits ∨ t = digits ++ lineFeed) := by
  constructor
  · intro line
    simp only [isHexLine, Bool.and_eq_true, Bool.or_eq_true, Bool.not_eq_true',
      List.isEmpty_eq_false_iff, List.isEmpty_iff, beq_iff_eq] at line
    obtain ⟨nonempty, rest⟩ := line
    have joined : t.takeWhile isHexUnit ++ t.dropWhile isHexUnit = t :=
      List.takeWhile_append_dropWhile
    refine ⟨t.takeWhile isHexUnit, nonempty, ?_, ?_⟩
    · intro c member
      exact List.mem_takeWhile_imp member
    · rcases rest with nothing | feed
      · left
        rw [nothing, List.append_nil] at joined
        exact joined.symm
      · right
        rw [feed] at joined
        exact joined.symm
  · rintro ⟨digits, nonempty, units, rfl | rfl⟩
    · have taken : t.takeWhile isHexUnit = t := List.takeWhile_eq_self_iff.mpr units
      have dropped : t.dropWhile isHexUnit = [] := List.dropWhile_eq_nil_iff.mpr units
      simp [isHexLine, taken, dropped, nonempty]
    · have taken : (digits ++ lineFeed).takeWhile isHexUnit = digits := by
        rw [List.takeWhile_append_of_pos units, lineFeed_eq,
          List.takeWhile_cons_of_neg (by simp [lineFeed_not_hex]), List.append_nil]
      have dropped : (digits ++ lineFeed).dropWhile isHexUnit = lineFeed := by
        rw [List.dropWhile_append_of_pos units, lineFeed_eq,
          List.dropWhile_cons_of_neg (by simp [lineFeed_not_hex])]
      simp only [isHexLine, taken, dropped]
      simp [nonempty, lineFeed]

/-- A line of the promised length is hexadecimal, or one digit short of it and fed. -/
theorem isHex_or_isHexFeed (length : Int) (t : Text) (promised : (t.length : Int) = length)
    (line : t.isHexLine = true) : t.IsHex length ∨ t.IsHexFeed length := by
  obtain ⟨digits, -, units, rfl | rfl⟩ := (isHexLine_iff t).mp line
  · exact Or.inl ⟨promised, units⟩
  · refine Or.inr ⟨digits, ⟨?_, units⟩, rfl⟩
    rw [List.length_append, lineFeed_eq, List.length_singleton] at promised
    omega

theorem IsHexFeed.not_isHex {length : Int} {t : Text} (fed : t.IsHexFeed length) :
    ¬ t.IsHex length := by
  obtain ⟨digits, -, rfl⟩ := fed
  intro hex
  have member := hex.2 10 (by simp [lineFeed_eq])
  rw [lineFeed_not_hex] at member
  cases member

theorem IsHexFeed.isHexLine {length : Int} {t : Text} (fed : t.IsHexFeed length)
    (long : 1 < length) : t.isHexLine = true := by
  obtain ⟨digits, hex, rfl⟩ := fed
  refine (isHexLine_iff _).mpr ⟨digits, ?_, hex.2, Or.inr rfl⟩
  rintro rfl
  have := hex.1
  simp only [List.length_nil] at this
  omega

theorem IsHexFeed.length_eq {length : Int} {t : Text} (fed : t.IsHexFeed length) :
    (t.length : Int) = length := by
  obtain ⟨digits, hex, rfl⟩ := fed
  have := hex.1
  rw [List.length_append, lineFeed_eq, List.length_singleton]
  omega

theorem IsHex.isHexLine {length : Int} {t : Text} (hex : t.IsHex length) (positive : 0 < length) :
    t.isHexLine = true := by
  refine (isHexLine_iff t).mpr ⟨t, ?_, hex.2, Or.inl rfl⟩
  rintro rfl
  have := hex.1
  simp only [List.length_nil] at this
  omega

theorem IsHex.not_mem {length : Int} {t : Text} (hex : t.IsHex length) (c : CodePoint)
    (other : isHexUnit c = false) : c ∉ t := by
  intro member
  rw [hex.2 c member] at other
  cases other

theorem IsHex.plain {length : Int} {t : Text} (hex : t.IsHex length) :
    ∀ c ∈ t, c.isSurrogate = false := by
  intro c member
  have unit := hex.2 c member
  simp only [isHexUnit, CodePoint.isDigit, Bool.or_eq_true, Bool.and_eq_true,
    decide_eq_true_eq] at unit
  simp only [CodePoint.isSurrogate, Bool.and_eq_false_iff, decide_eq_false_iff_not]
  omega

end Text

namespace Bytes

theorem isHexUnit_hexDigit : ∀ n < 16, Text.isHexUnit (hexDigit n) = true := by decide

theorem lower_hexDigit : ∀ n < 16,
    Text.Case.map Text.Case.lowerRows Text.Case.lowerSeveral (hexDigit n) = [hexDigit n] := by
  decide

theorem isHex_hex (b : Bytes) : (hex b).IsHex (2 * b.length) := by
  constructor
  · induction b with
    | nil => rfl
    | cons x rest ih =>
        simp only [hex, List.flatMap_cons, List.length_append, List.length_cons] at ih ⊢
        simp only [List.length_nil]
        omega
  · intro c member
    obtain ⟨x, -, digit⟩ := List.mem_flatMap.mp member
    have bound := x.toNat_lt
    simp only [List.mem_cons, List.not_mem_nil, or_false] at digit
    rcases digit with rfl | rfl
    · exact isHexUnit_hexDigit _ (by omega)
    · exact isHexUnit_hexDigit _ (by omega)

theorem lower_hex (b : Bytes) : (hex b).lower = hex b := by
  induction b with
  | nil => rfl
  | cons x rest ih =>
      have bound := x.toNat_lt
      simp only [hex, Text.lower, List.flatMap_cons, List.flatMap_append, List.flatMap_nil] at ih ⊢
      rw [ih, lower_hexDigit _ (by omega), lower_hexDigit _ (by omega)]
      rfl

end Bytes
end Fingerprint
