import Fingerprint.Descriptor
import Fingerprint.Proofs.Text.Decoding

/-! # What texts are taken in as

A text is taken in as the bytes it is written as, and refused if it holds a surrogate. Since it can
be read back from the bytes, no two texts are hashed over the same ones. -/
set_option autoImplicit false
namespace Fingerprint.Input

section
variable (t : Text)

theorem exists_surrogate_iff : (∃ c ∈ t, c.isSurrogate = true) ↔
    ∃ c ∈ t, 0xD800 ≤ c.val ∧ c.val ≤ 0xDFFF := by
  simp only [CodePoint.isSurrogate, Bool.and_eq_true, decide_eq_true_eq]

theorem data_of_encoded (b : Bytes) (written : Utf8.encode? t = some b) :
    data (.text t) = .ok (.bytes b) := by
  rw [data, written]

theorem data_of_unencodable (unwritten : Utf8.encode? t = none) :
    ∃ f, data (.text t) = .error f ∧ f.kind = .inputType := by
  rw [data, unwritten]
  exact ⟨_, rfl, rfl⟩

theorem data_eq_ok_iff (w : Value) :
    data (.text t) = .ok w ↔ ∃ b, Utf8.encode? t = some b ∧ w = .bytes b := by
  constructor
  · intro taken
    cases written : Utf8.encode? t with
    | none =>
        obtain ⟨f, refused, -⟩ := data_of_unencodable t written
        cases refused.symm.trans taken
    | some b =>
        rw [data_of_encoded t b written] at taken
        exact ⟨b, rfl, (Except.ok.inj taken).symm⟩
  · rintro ⟨b, written, rfl⟩
    exact data_of_encoded t b written

theorem data_fails_iff : (∃ f, data (.text t) = .error f ∧ f.kind = .inputType) ↔
    ∃ c ∈ t, 0xD800 ≤ c.val ∧ c.val ≤ 0xDFFF := by
  rw [← exists_surrogate_iff, ← Utf8.encode?_eq_none_iff]
  constructor
  · rintro ⟨f, refused, -⟩
    refine Option.eq_none_iff_forall_ne_some.mpr fun b written => ?_
    cases refused.symm.trans (data_of_encoded t b written)
  · exact data_of_unencodable t

theorem exists_string_of_encode? (b : Bytes) (written : Utf8.encode? t = some b) :
    ∃ s : String, Text.ofString s = t ∧ s.toUTF8.data.toList = b := by
  have plain : ∀ c ∈ t, c.isSurrogate = false := by
    intro c member
    refine Bool.eq_false_iff.mpr fun surrogate => ?_
    cases written.symm.trans ((Utf8.encode?_eq_none_iff t).mpr ⟨c, member, surrogate⟩)
  obtain ⟨s, rfl⟩ := Text.exists_ofString t plain
  exact ⟨s, rfl, Option.some.inj ((Utf8.encode?_ofString s).symm.trans written)⟩

theorem computeData_of_encoded {η : Type} (d : Descriptor η) (b : Bytes)
    (written : Utf8.encode? t = some b) :
    d.computeData (.text t) = d.computeData (.bytes b) := by
  unfold Descriptor.computeData
  rw [data_of_encoded t b written, data]

/-- A text is refused exactly if it holds a surrogate. Any other is taken in as bytes from which it
is read back whole, namely as its UTF-8 encoding, and is hashed as these bytes; two texts never have
them in common. -/
theorem texts_are_taken_in_as_utf8 :
    ((∃ f, data (.text t) = .error f ∧ f.kind = .inputType) ↔
      ∃ c ∈ t, 0xD800 ≤ c.val ∧ c.val ≤ 0xDFFF) ∧
    ((¬ ∃ c ∈ t, 0xD800 ≤ c.val ∧ c.val ≤ 0xDFFF) →
      ∃ b, data (.text t) = .ok (.bytes b) ∧ Utf8.decode? b = some t ∧
        (∃ s : String, Text.ofString s = t ∧ s.toUTF8.data.toList = b) ∧
        ∀ {η : Type} (d : Descriptor η), d.computeData (.text t) = d.computeData (.bytes b)) ∧
    ∀ t' b b', data (.text t) = .ok (.bytes b) → data (.text t') = .ok (.bytes b') → t ≠ t' →
      b ≠ b' := by
  refine ⟨data_fails_iff t, ?_, ?_⟩
  · intro plain
    rw [← exists_surrogate_iff, ← Utf8.encode?_eq_none_iff] at plain
    obtain ⟨b, written⟩ := Option.ne_none_iff_exists'.mp plain
    exact ⟨b, data_of_encoded t b written, Utf8.decode?_of_encode? t b written,
      exists_string_of_encode? t b written, fun d => computeData_of_encoded t d b written⟩
  · rintro t' b _ taken taken' different rfl
    obtain ⟨_, written, ⟨⟩⟩ := (data_eq_ok_iff t _).mp taken
    obtain ⟨_, written', ⟨⟩⟩ := (data_eq_ok_iff t' _).mp taken'
    have read := Utf8.decode?_of_encode? t b written
    have read' := Utf8.decode?_of_encode? t' b written'
    exact different (Option.some.inj (read.symm.trans read'))

end

/-- A code point of each length, the first of them zero, and the same text without it. -/
theorem texts_are_taken_in_as_utf8_each_length :
    let t : Text := [0, 0x7FF, 0xFFFF, 0x10FFFF]
    let b : Bytes := [0, 0xDF, 0xBF, 0xEF, 0xBF, 0xBF, 0xF4, 0x8F, 0xBF, 0xBF]
    (¬ ∃ c ∈ t, 0xD800 ≤ c.val ∧ c.val ≤ 0xDFFF) ∧ data (.text t) = .ok (.bytes b) ∧
      Utf8.decode? b = some t ∧ data (.text t.tail) = .ok (.bytes b.tail) ∧ b ≠ b.tail ∧
      ∃ f, data (.text (0xD800 :: t)) = .error f ∧ f.kind = .inputType := by
  intro t b
  have written : Utf8.encode? t = some b := by decide +kernel
  have plain : ¬ ∃ c ∈ t, 0xD800 ≤ c.val ∧ c.val ≤ 0xDFFF := by
    rw [← exists_surrogate_iff, ← Utf8.encode?_eq_none_iff, written]
    exact nofun
  have same := data_of_encoded t b written
  have others := data_of_encoded t.tail b.tail (by decide +kernel)
  obtain ⟨-, taken, apart⟩ := texts_are_taken_in_as_utf8 t
  obtain ⟨refused, -⟩ := texts_are_taken_in_as_utf8 (0xD800 :: t)
  obtain ⟨b', whole, read, -⟩ := taken plain
  cases same.symm.trans whole
  exact ⟨plain, same, read, others, apart t.tail _ _ same others (by decide),
    refused.mpr ⟨0xD800, List.mem_cons_self, by decide +kernel⟩⟩

end Fingerprint.Input
