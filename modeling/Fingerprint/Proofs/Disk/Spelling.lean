import Fingerprint.Disk.Path

/-! # Paths and their texts

The text of a path in its plain spelling reads back as the path (`Path.ofText_text`), and every path
that was read from a text is spelled plainly (`Path.plain_ofText`). A path taken in a directory is
the directory, a slash unless the root stands there already, and the path (`Path.text_within`). -/
set_option autoImplicit false
namespace Fingerprint

namespace Text

theorem splitAt_eq_splitOn (mark : CodePoint) (t : Text) : splitAt mark t = t.splitOn mark := by
  induction t with
  | nil => rfl
  | cons c rest ih =>
      simp only [splitAt, ih, List.splitOn, List.splitOnP_cons_eq_if_modifyHead, beq_iff_eq]
      split
      · rfl
      · obtain ⟨piece, pieces, split⟩ :=
          List.exists_cons_of_ne_nil (List.splitOnP_ne_nil (p := (· == mark)) rest)
        rw [split]
        rfl

theorem join_eq_intercalate (separator : Text) (ts : List Text) :
    join separator ts = separator.intercalate ts := by
  induction ts with
  | nil => rfl
  | cons first rest ih =>
      cases rest with
      | nil => simp [join]
      | cons second others => rw [join, ih, List.intercalate_cons_cons]

theorem splitAt_join (mark : CodePoint) (parts : List Text) (some : parts ≠ [])
    (plain : ∀ part ∈ parts, mark ∉ part) : splitAt mark (join [mark] parts) = parts := by
  rw [splitAt_eq_splitOn, join_eq_intercalate]
  exact List.splitOn_intercalate mark plain some

theorem not_mem_of_mem_splitAt (mark : CodePoint) (t piece : Text) (member : piece ∈ splitAt mark t) :
    mark ∉ piece := by
  induction t generalizing piece with
  | nil =>
      cases List.mem_singleton.mp member
      exact List.not_mem_nil
  | cons c rest ih =>
      rw [splitAt] at member
      split at member
      next =>
        rcases List.mem_cons.mp member with rfl | later
        · exact List.not_mem_nil
        · exact ih piece later
      next other =>
        cases split : splitAt mark rest with
        | nil =>
            rw [split] at member
            cases List.mem_singleton.mp member
            simpa using Ne.symm other
        | cons first pieces =>
            rw [split] at member ih
            rcases List.mem_cons.mp member with rfl | later
            · have inner := ih first List.mem_cons_self
              simpa [inner] using Ne.symm other
            · exact ih piece (List.mem_cons_of_mem _ later)

theorem join_append (separator : Text) (ts us : List Text) (some : ts ≠ []) (more : us ≠ []) :
    join separator (ts ++ us) = join separator ts ++ separator ++ join separator us := by
  induction ts with
  | nil => exact absurd rfl some
  | cons first rest ih =>
      cases rest with
      | nil =>
          obtain ⟨second, others, rfl⟩ := List.exists_cons_of_ne_nil more
          rfl
      | cons second others =>
          have inner := ih (List.cons_ne_nil second others)
          simp only [List.cons_append] at inner ⊢
          rw [join, inner, join]
          simp

end Text

namespace Path

structure PlainPart (part : Text) : Prop where
  some : part ≠ []
  noDot : part ≠ "."
  noSlash : slash ∉ part

instance (part : Text) : Decidable (PlainPart part) :=
  decidable_of_iff (part ≠ [] ∧ part ≠ "." ∧ slash ∉ part)
    ⟨fun all => ⟨all.1, all.2.1, all.2.2⟩, fun all => ⟨all.some, all.noDot, all.noSlash⟩⟩

structure Plain (p : Path) : Prop where
  root : p.root = [] ∨ p.root = [slash] ∨ p.root = [slash, slash]
  parts : ∀ part ∈ p.parts, PlainPart part

theorem Plain.rooted (p : Path) (plain : p.Plain) (absolute : p.isAbsolute = true) :
    p.root = [slash] ∨ p.root = [slash, slash] := by
  rcases plain.root with empty | rooted
  · simp [isAbsolute, empty] at absolute
  · exact rooted

theorem plain_ofText (t : Text) : (ofText t).Plain where
  root := by
    unfold ofText rootOf
    dsimp only
    split
    · exact Or.inl rfl
    · exact Or.inr (Or.inr rfl)
    · exact Or.inr (Or.inl rfl)
  parts := by
    intro part member
    obtain ⟨piece, kept⟩ := List.mem_filter.mp member
    simp only [Bool.and_eq_true, Bool.not_eq_true', List.isEmpty_eq_false_iff, bne_iff_ne] at kept
    exact ⟨kept.1, kept.2, Text.not_mem_of_mem_splitAt slash t part piece⟩

theorem head_join (parts : List Text) (some : parts ≠ []) (plain : ∀ part ∈ parts, PlainPart part) :
    ∃ c rest, Text.join [slash] parts = c :: rest ∧ c ≠ slash := by
  obtain ⟨first, rest, rfl⟩ := List.exists_cons_of_ne_nil some
  have part := plain first List.mem_cons_self
  obtain ⟨c, more, rfl⟩ := List.exists_cons_of_ne_nil part.some
  have other : c ≠ slash := fun same => part.noSlash (same ▸ List.mem_cons_self)
  cases rest with
  | nil => exact ⟨c, more, rfl, other⟩
  | cons second others => exact ⟨c, _, rfl, other⟩

theorem filter_splitAt_join (parts : List Text) (plain : ∀ part ∈ parts, PlainPart part) :
    ((Text.splitAt slash (Text.join [slash] parts)).filter fun part =>
      !part.isEmpty && part != ("." : Text)) = parts := by
  by_cases none : parts = []
  · subst none
    rfl
  · rw [Text.splitAt_join slash parts none fun part member => (plain part member).noSlash,
      List.filter_eq_self]
    intro part member
    have kept := plain part member
    simp [kept.some, kept.noDot]

theorem takeWhile_join (parts : List Text) (plain : ∀ part ∈ parts, PlainPart part) :
    (Text.join [slash] parts).takeWhile (· == slash) = [] := by
  by_cases none : parts = []
  · subst none
    rfl
  · obtain ⟨c, rest, joined, other⟩ := head_join parts none plain
    rw [joined]
    simp [other]

theorem ofText_text (p : Path) (plain : p.Plain) : ofText p.text = p := by
  obtain ⟨root, parts⟩ := p
  have kept := filter_splitAt_join parts plain.parts
  have leading := takeWhile_join parts plain.parts
  unfold text
  rcases plain.root with rfl | rfl | rfl
  · by_cases none : parts = []
    · subst none
      rfl
    · rw [if_neg (by simp [none])]
      simp only [ofText, rootOf, List.nil_append, leading, kept, List.length_nil]
  · rw [if_neg (by simp)]
    simp [ofText, rootOf, leading, Text.splitAt, kept]
  · rw [if_neg (by simp)]
    simp [ofText, rootOf, leading, Text.splitAt, kept]

/-! ## Paths in a directory -/

/-- What stands before a path that is taken in the directory. -/
def lead (directory : Path) : Text :=
  if directory.parts = [] then directory.root else directory.text ++ [slash]

theorem plain_within (directory p : Path) (plain : directory.Plain) (plain' : p.Plain)
    (relative : p.isAbsolute = false) : (directory.within p).Plain := by
  unfold within
  rw [if_neg (by simp [relative])]
  exact ⟨plain.root, List.forall_mem_append.mpr ⟨plain.parts, plain'.parts⟩⟩

theorem text_within (directory p : Path) (relative : p.isAbsolute = false) (some : p.parts ≠ []) :
    (directory.within p).text = directory.lead ++ p.text := by
  have root : p.root = [] := by simpa [isAbsolute] using relative
  unfold within lead
  rw [if_neg (by simp [relative])]
  by_cases none : directory.parts = []
  · simp [text, none, some, root]
  · rw [if_neg none]
    simp only [text, root, none, some, List.isEmpty_iff, Bool.and_eq_true, and_false, if_false,
      List.append_eq_nil_iff, List.nil_append]
    rw [Text.join_append [slash] _ _ none some]
    simp

end Path
end Fingerprint
