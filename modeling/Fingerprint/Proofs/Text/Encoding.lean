import Fingerprint.Text.Utf8

/-! # The encoding of texts

The texts without surrogates are those of strings (`exists_ofString`), and a string's text is written
as the UTF-8 bytes of the string (`encode?_ofString`). They can be printed
(`unencodable?_of_plain`). Bytes are read piece by piece (`scan_cons`), so a single byte is one
piece (`scan_single`), and bytes below 128 are code points (`decode?_ascii`). -/
set_option autoImplicit false
namespace Fingerprint

namespace Utf8

theorem unit?_ofChar (c : Char) : unit? (CodePoint.ofChar c) = some (String.utf8EncodeChar c) := by
  have same : c.val.toNat = (CodePoint.ofChar c).val := rfl
  have valid : c.val.toNat < 0xD800 ∨ 0xDFFF < c.val.toNat ∧ c.val.toNat < 0x110000 := c.valid
  unfold unit? String.utf8EncodeChar CodePoint.isSurrogate
  rw [same] at valid ⊢
  generalize (CodePoint.ofChar c).val = n at valid ⊢
  by_cases one : n < 0x80
  · simp only [one, Nat.le_of_lt_succ one, if_true]
  have wide : ¬ n ≤ 127 := by omega
  by_cases two : n < 0x800
  · have lead : n / 64 % 32 = n / 64 := Nat.mod_eq_of_lt (by omega)
    simp only [one, wide, two, Nat.le_of_lt_succ two, if_true, if_false, lead, Nat.add_comm]
  have wider : ¬ n ≤ 2047 := by omega
  have plain : (decide (0xD800 ≤ n) && decide (n ≤ 0xDFFF)) = false := by
    simp only [Bool.and_eq_false_iff, decide_eq_false_iff_not]
    omega
  by_cases three : n < 0x10000
  · have lead : n / 4096 % 16 = n / 4096 := Nat.mod_eq_of_lt (by omega)
    simp only [one, wide, two, wider, plain, three, Nat.le_of_lt_succ three, Bool.false_eq_true,
      if_true, if_false, lead, Nat.add_comm]
  · have widest : ¬ n ≤ 65535 := by omega
    have lead : n / 262144 % 8 = n / 262144 := Nat.mod_eq_of_lt (by omega)
    simp only [one, wide, two, wider, plain, three, widest, Bool.false_eq_true, if_false, lead,
      Nat.add_comm]

theorem encode?_chars (l : List Char) :
    encode? (l.map CodePoint.ofChar) = some (l.flatMap String.utf8EncodeChar) := by
  have units : (l.map CodePoint.ofChar).mapM unit? = some (l.map String.utf8EncodeChar) := by
    induction l with
    | nil => rfl
    | cons c rest ih =>
        rw [List.map_cons, List.mapM_cons, unit?_ofChar, ih]
        rfl
  rw [encode?, units, List.flatMap_def]
  rfl

theorem encode?_ofString (s : String) :
    encode? (Text.ofString s) = some s.toUTF8.data.toList := by
  have bytes : s.toUTF8 = (s.toList.flatMap String.utf8EncodeChar).toByteArray :=
    String.utf8Encode_toList.symm
  rw [Text.ofString, encode?_chars, bytes, List.toList_data_toByteArray]

/-- A text can be written if no surrogate in it lacks an excuse. -/
theorem unencodable?_eq_none_iff (allowed : CodePoint → Bool) (offset : Nat) (t : Text) :
    unencodable? allowed offset t = none ↔ ∀ c ∈ t, c.isSurrogate = true → allowed c = true := by
  induction t generalizing offset with
  | nil => simp [unencodable?]
  | cons c rest ih =>
      rw [unencodable?]
      split
      next bad =>
        simp only [Bool.and_eq_true, Bool.not_eq_true'] at bad
        simp [bad]
      next fine =>
        simp only [Bool.and_eq_true, Bool.not_eq_true', not_and, Bool.not_eq_false] at fine
        rw [ih, List.forall_mem_cons]
        exact (and_iff_right fine).symm

theorem unencodable?_of_plain (allowed : CodePoint → Bool) (offset : Nat) (t : Text)
    (plain : ∀ c ∈ t, c.isSurrogate = false) : unencodable? allowed offset t = none := by
  rw [unencodable?_eq_none_iff]
  intro c member bad
  exact absurd bad (Bool.eq_false_iff.mp (plain c member))

/-! ## Pieces one by one -/

theorem scanOnto_eq (bytes : Bytes) (pieces : List Piece) :
    scanOnto pieces bytes = pieces.reverse ++ scan bytes := by
  match bytes with
  | [] => simp [scan, scanOnto]
  | b :: rest =>
      rw [scan, scanOnto, scanOnto, scanOnto_eq (head b rest).2, scanOnto_eq (head b rest).2 [_]]
      simp
termination_by bytes.length
decreasing_by all_goals exact Nat.lt_succ_of_le (length_head_le b rest)

theorem scan_nil : scan [] = [] := by
  rw [scan, scanOnto]
  rfl

theorem scan_cons (b : UInt8) (rest : Bytes) :
    scan (b :: rest) = (head b rest).1 :: scan (head b rest).2 := by
  rw [scan, scanOnto, scanOnto_eq]
  rfl

theorem decode?_nil : decode? [] = some [] := by
  rw [decode?, scan_nil]
  rfl

theorem decode?_of_head (b : UInt8) (rest left : Bytes) (c : CodePoint)
    (first : head b rest = (.point c, left)) :
    decode? (b :: rest) = (decode? left).map (c :: ·) := by
  rw [decode?, decode?, scan_cons, first, List.mapM_cons, Option.map_eq_bind]
  rfl

theorem scan_single (b : UInt8) : scan [b] = [(head b []).1] := by
  have nothing : (head b []).2 = [] :=
    List.eq_nil_of_length_eq_zero (Nat.le_zero.mp (length_head_le b []))
  rw [scan_cons, nothing, scan_nil]

theorem head_ascii (b : UInt8) (rest : Bytes) (ascii : b.toNat < 0x80) :
    head b rest = (.point (CodePoint.ofNat b.toNat), rest) := by
  simp only [head, lead?, if_pos ascii, finish]

theorem decode?_ascii (bytes : Bytes) (ascii : bytes.all (·.toNat < 0x80) = true) :
    decode? bytes = some (bytes.map fun b => CodePoint.ofNat b.toNat) := by
  induction bytes with
  | nil => exact decode?_nil
  | cons b rest ih =>
      rw [List.all_cons, Bool.and_eq_true, decide_eq_true_iff] at ascii
      rw [decode?_of_head b rest rest _ (head_ascii b rest ascii.1), ih ascii.2]
      rfl

end Utf8

namespace Text

theorem exists_ofChar (c : CodePoint) (plain : c.isSurrogate = false) :
    ∃ char, CodePoint.ofChar char = c := by
  have valid : c.val.isValidChar := by
    have range := c.isLt
    simp only [CodePoint.isSurrogate, Bool.and_eq_false_iff, decide_eq_false_iff_not] at plain
    show c.val < 0xD800 ∨ 0xDFFF < c.val ∧ c.val < 0x110000
    omega
  refine ⟨Char.ofNatAux c.val valid, Fin.ext ?_⟩
  rfl

theorem exists_ofString (t : Text) (plain : ∀ c ∈ t, c.isSurrogate = false) :
    ∃ s, Text.ofString s = t := by
  have chars : ∃ l : List Char, l.map CodePoint.ofChar = t := by
    induction t with
    | nil => exact ⟨[], rfl⟩
    | cons c rest ih =>
        obtain ⟨char, same⟩ := exists_ofChar c (plain c List.mem_cons_self)
        obtain ⟨l, others⟩ := ih fun d member => plain d (List.mem_cons_of_mem _ member)
        exact ⟨char :: l, by rw [List.map_cons, same, others]⟩
  obtain ⟨l, same⟩ := chars
  refine ⟨String.ofList l, ?_⟩
  rw [Text.ofString, String.toList_ofList, same]

end Text
end Fingerprint
