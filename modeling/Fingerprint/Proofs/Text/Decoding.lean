import Fingerprint.Proofs.Text.Encoding

/-! # Reading encoded texts

What a text is written as is read back as the text (`decode?_of_encode?`). The bytes of a code point
are read as one piece, whatever follows them (`head_unit`): there is a case for each number of bytes,
and in each the first byte tells the number of the others and the range of the second. -/
set_option autoImplicit false
namespace Fingerprint.Utf8

/-! ## The bytes of one code point -/

theorem toNat_ofNat_small (n : Nat) (small : n < 256) : (UInt8.ofNat n).toNat = n :=
  Nat.mod_eq_of_lt small

theorem ofNat_val (c : CodePoint) : CodePoint.ofNat c.val = c := dif_pos c.isLt

theorem finish_within (value n : Nat) (seen : Bytes) (more : Nat) (low high : UInt8) (rest : Bytes)
    (above : low.toNat ≤ 0x80 + n % 64) (below : 0x80 + n % 64 ≤ high.toNat) :
    finish value seen (more + 1) low high (.ofNat (0x80 + n % 64) :: rest) =
      finish (value * 64 + n % 64) (.ofNat (0x80 + n % 64) :: seen) more 0x80 0xBF rest := by
  have small : (UInt8.ofNat (0x80 + n % 64)).toNat = 0x80 + n % 64 :=
    toNat_ofNat_small _ (by omega)
  have within : (decide (low ≤ UInt8.ofNat (0x80 + n % 64)) &&
      decide (UInt8.ofNat (0x80 + n % 64) ≤ high)) = true := by
    rw [Bool.and_eq_true, decide_eq_true_iff, decide_eq_true_iff, UInt8.le_iff_toNat_le,
      UInt8.le_iff_toNat_le, small]
    exact ⟨above, below⟩
  have bits : (0x80 + n % 64) % 64 = n % 64 := by omega
  rw [finish, if_pos within, small, bits]

theorem finish_further (value n : Nat) (seen : Bytes) (more : Nat) (rest : Bytes) :
    finish value seen (more + 1) 0x80 0xBF (.ofNat (0x80 + n % 64) :: rest) =
      finish (value * 64 + n % 64) (.ofNat (0x80 + n % 64) :: seen) more 0x80 0xBF rest := by
  apply finish_within
  · exact Nat.le_add_right _ _
  · show 0x80 + n % 64 ≤ 0xBF
    omega

theorem finish_narrowed (value n : Nat) (seen : Bytes) (more : Nat) (first last : Prop)
    [Decidable first] [Decidable last] (low high : UInt8) (rest : Bytes)
    (above : first → low.toNat ≤ 0x80 + n % 64) (below : last → 0x80 + n % 64 ≤ high.toNat) :
    finish value seen (more + 1) (if first then low else 0x80) (if last then high else 0xBF)
        (.ofNat (0x80 + n % 64) :: rest) =
      finish (value * 64 + n % 64) (.ofNat (0x80 + n % 64) :: seen) more 0x80 0xBF rest := by
  apply finish_within
  · split
    next holds => exact above holds
    next => exact Nat.le_add_right _ _
  · split
    next holds => exact below holds
    next =>
      show 0x80 + n % 64 ≤ 0xBF
      omega

theorem lead?_two (n : Nat) (least : 2 ≤ n) (most : n < 32) :
    lead? (.ofNat (0xC0 + n)) = some (n, 1, 0x80, 0xBF) := by
  simp only [lead?, toNat_ofNat_small (0xC0 + n) (by omega)]
  rw [if_neg (by omega), if_neg (by omega), if_pos (by omega), Nat.add_sub_cancel_left]

theorem lead?_three (n : Nat) (most : n < 16) :
    lead? (.ofNat (0xE0 + n)) =
      some (n, 2, if n = 0 then 0xA0 else 0x80, if n = 13 then 0x9F else 0xBF) := by
  have least : (0xE0 + n = 0xE0) = (n = 0) := propext (by omega)
  have last : (0xE0 + n = 0xED) = (n = 13) := propext (by omega)
  simp only [lead?, toNat_ofNat_small (0xE0 + n) (by omega)]
  rw [if_neg (by omega), if_neg (by omega), if_neg (by omega), if_pos (by omega),
    Nat.add_sub_cancel_left]
  simp only [least, last]

theorem lead?_four (n : Nat) (most : n < 5) :
    lead? (.ofNat (0xF0 + n)) =
      some (n, 3, if n = 0 then 0x90 else 0x80, if n = 4 then 0x8F else 0xBF) := by
  have least : (0xF0 + n = 0xF0) = (n = 0) := propext (by omega)
  have last : (0xF0 + n = 0xF4) = (n = 4) := propext (by omega)
  simp only [lead?, toNat_ofNat_small (0xF0 + n) (by omega)]
  rw [if_neg (by omega), if_neg (by omega), if_neg (by omega), if_neg (by omega), if_pos (by omega),
    Nat.add_sub_cancel_left]
  simp only [least, last]

theorem head_unit (c : CodePoint) (bytes : Bytes) (written : unit? c = some bytes) :
    ∃ b others, bytes = b :: others ∧ ∀ rest, head b (others ++ rest) = (.point c, rest) := by
  have range := c.isLt
  have whole := ofNat_val c
  unfold unit? CodePoint.isSurrogate at written
  generalize c.val = n at range whole written
  simp only at written
  split at written
  next one =>
    cases written
    refine ⟨_, [], rfl, fun rest => ?_⟩
    have same : (UInt8.ofNat n).toNat = n := toNat_ofNat_small n (by omega)
    rw [List.nil_append, head_ascii _ _ (by omega), same, whole]
  split at written
  next two =>
    cases written
    refine ⟨_, _, rfl, fun rest => ?_⟩
    have value : n / 64 * 64 + n % 64 = n := by omega
    rw [head, lead?_two (n / 64) (by omega) (by omega)]
    simp only [List.cons_append, List.nil_append, finish_further, finish, value, whole]
  split at written
  next => cases written
  next plain =>
  simp only [Bool.and_eq_true, decide_eq_true_eq] at plain
  split at written
  next three =>
    cases written
    refine ⟨_, _, rfl, fun rest => ?_⟩
    have value : (n / 4096 * 64 + n / 64 % 64) * 64 + n % 64 = n := by omega
    have above (first : n / 4096 = 0) : (0xA0 : UInt8).toNat ≤ 0x80 + n / 64 % 64 := by
      show 0xA0 ≤ _
      omega
    -- The code points after these are the surrogates.
    have below (last : n / 4096 = 13) : 0x80 + n / 64 % 64 ≤ (0x9F : UInt8).toNat := by
      show _ ≤ 0x9F
      omega
    rw [head, lead?_three (n / 4096) (by omega)]
    simp only [List.cons_append, List.nil_append]
    rw [finish_narrowed _ _ _ _ _ _ _ _ _ above below, finish_further]
    simp only [finish, value, whole]
  next four =>
    cases written
    refine ⟨_, _, rfl, fun rest => ?_⟩
    have value : ((n / 262144 * 64 + n / 4096 % 64) * 64 + n / 64 % 64) * 64 + n % 64 = n := by omega
    have above (first : n / 262144 = 0) : (0x90 : UInt8).toNat ≤ 0x80 + n / 4096 % 64 := by
      show 0x90 ≤ _
      omega
    have below (last : n / 262144 = 4) : 0x80 + n / 4096 % 64 ≤ (0x8F : UInt8).toNat := by
      show _ ≤ 0x8F
      omega
    rw [head, lead?_four (n / 262144) (by omega)]
    simp only [List.cons_append, List.nil_append]
    rw [finish_narrowed _ _ _ _ _ _ _ _ _ above below, finish_further, finish_further]
    simp only [finish, value, whole]

/-! ## Texts -/

theorem encode?_cons (c : CodePoint) (t : Text) :
    encode? (c :: t) = (unit? c).bind fun unit => (encode? t).map (unit ++ ·) := by
  rw [encode?, encode?, List.mapM_cons]
  cases unit? c with
  | none => rfl
  | some unit => cases t.mapM unit? <;> rfl

theorem decode?_of_encode? (t : Text) (bytes : Bytes) (written : encode? t = some bytes) :
    decode? bytes = some t := by
  induction t generalizing bytes with
  | nil =>
      cases written
      exact decode?_nil
  | cons c rest ih =>
      rw [encode?_cons, Option.bind_eq_some_iff] at written
      obtain ⟨unit, one, others⟩ := written
      obtain ⟨later, rests, rfl⟩ := Option.map_eq_some_iff.mp others
      obtain ⟨b, tail, rfl, first⟩ := head_unit c unit one
      rw [List.cons_append, decode?_of_head _ _ _ c (first later), ih later rests]
      rfl

theorem unit?_eq_none_iff (c : CodePoint) : unit? c = none ↔ c.isSurrogate = true := by
  unfold unit?
  by_cases surrogate : c.isSurrogate = true
  · have range := surrogate
    simp only [CodePoint.isSurrogate, Bool.and_eq_true, decide_eq_true_eq] at range
    simp only [surrogate, if_true, if_neg (show ¬ c.val < 0x80 by omega),
      if_neg (show ¬ c.val < 0x800 by omega)]
  · simp only [surrogate, Bool.false_eq_true, if_false, iff_false]
    split
    · exact Option.some_ne_none _
    · split
      · exact Option.some_ne_none _
      · split <;> exact Option.some_ne_none _

theorem encode?_eq_none_iff (t : Text) : encode? t = none ↔ ∃ c ∈ t, c.isSurrogate = true := by
  simp only [← unit?_eq_none_iff]
  induction t with
  | nil => simp [encode?]
  | cons c rest ih =>
      simp only [encode?_cons, List.mem_cons, exists_eq_or_imp, ← ih]
      cases unit? c with
      | none => simp
      | some unit => simp

end Fingerprint.Utf8
