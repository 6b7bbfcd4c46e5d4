import Fingerprint.Json.Reader
import Fingerprint.Proofs.Outcome
import Fingerprint.Proofs.Value.Tables

/-! # Objects that are read

An object holds no name twice, whatever stands in the text. -/
set_option autoImplicit false
namespace Fingerprint.Json

def Tidy (v : Value) : Prop := ∀ es : Entries, v = .dict es → es.Distinct

theorem tidy_of_noTable (v : Value) (noTable : ∀ es, v ≠ .dict es) : Tidy v :=
  fun es same => absurd same (noTable es)

theorem tidy_of_distinct (es : Entries) (distinct : es.Distinct) : Tidy (.dict es) := by
  intro es' same
  cases same
  exact distinct

theorem objectWithin_tidy (item : ValueReader) (fuel : Nat) (taken : Entries) (t rest : Text)
    (v : Value) (distinct : taken.Distinct)
    (read : objectWithin item fuel taken t = .ok (v, rest)) : Tidy v := by
  induction fuel generalizing taken t with
  | zero => cases read
  | succ fuel ih =>
      rw [objectWithin] at read
      simp only [bind_eq_ok_iff] at read
      obtain ⟨opened, -, ⟨name, named⟩, -, colon, -, ⟨w, left⟩, -, read⟩ := read
      have grown : (taken.put (.text name) w).Distinct := Entries.distinct_put _ w taken distinct
      simp only at read
      split at read
      next => cases read
      next c after _ =>
        split at read
        next =>
          cases read
          exact tidy_of_distinct _ grown
        next =>
          split at read
          next => exact ih _ after grown read
          next => cases read

theorem arrayWithin_tidy (item : ValueReader) (fuel : Nat) (taken : List Value) (t rest : Text)
    (v : Value) (read : arrayWithin item fuel taken t = .ok (v, rest)) : Tidy v := by
  induction fuel generalizing taken t with
  | zero => cases read
  | succ fuel ih =>
      rw [arrayWithin] at read
      simp only [bind_eq_ok_iff] at read
      obtain ⟨⟨w, left⟩, -, read⟩ := read
      simp only at read
      split at read
      next => cases read
      next c after _ =>
        split at read
        next =>
          cases read
          exact tidy_of_noTable _ nofun
        next =>
          split at read
          next => exact ih _ after read
          next => cases read

theorem number_tidy (negative : Bool) (t rest : Text) (v : Value)
    (read : number negative t = .ok (v, rest)) : Tidy v := by
  unfold number at read
  extract_lets run digits at read
  split at read
  split at read
  split at read
  next => cases read
  next =>
    split at read
    next =>
      split at read
      next => cases read
      next =>
        cases read
        exact tidy_of_noTable _ nofun
    next =>
      cases read
      exact tidy_of_noTable _ nofun

theorem scalar_tidy (t rest : Text) (v : Value) (read : scalar t = .ok (v, rest)) : Tidy v := by
  have plain : ∀ entry ∈ words, ∀ es, entry.2 ≠ .dict es := by
    intro entry member es
    simp only [words, List.mem_cons, List.not_mem_nil, or_false] at member
    rcases member with rfl | rfl | rfl | rfl | rfl | rfl <;> nofun
  unfold scalar at read
  split at read
  next word w found =>
    cases read
    exact tidy_of_noTable _ (plain _ (List.mem_of_find?_eq_some found))
  next =>
    split at read
    next => exact number_tidy true _ rest v read
    next => exact number_tidy false _ rest v read

theorem value_tidy (depth : Nat) (t rest : Text) (v : Value)
    (read : value depth t = .ok (v, rest)) : Tidy v := by
  cases depth with
  | zero => cases read
  | succ depth =>
      rw [value] at read
      split at read
      next => cases read
      next c after _ =>
        split at read
        next =>
          simp only [bind_eq_ok_iff] at read
          obtain ⟨⟨content, left⟩, -, read⟩ := read
          cases read
          exact tidy_of_noTable _ nofun
        next =>
          split at read
          next =>
            split at read
            next =>
              cases read
              exact tidy_of_noTable _ nofun
            next => exact arrayWithin_tidy _ _ [] _ rest v read
          next =>
            split at read
            next =>
              split at read
              next =>
                cases read
                exact tidy_of_distinct _ Entries.distinct_nil
              next => exact objectWithin_tidy _ _ [] _ rest v Entries.distinct_nil read
            next => exact scalar_tidy _ rest v read

theorem distinct_of_read (t : Text) (es : Entries) (read : Json.read t = .ok (.dict es)) :
    es.Distinct := by
  rw [Json.read, bind_eq_ok_iff] at read
  obtain ⟨⟨v, rest⟩, taken, read⟩ := read
  simp only at read
  split at read
  next =>
    cases read
    exact value_tidy depthLimit t rest _ taken es rfl
  next => cases read

end Fingerprint.Json
