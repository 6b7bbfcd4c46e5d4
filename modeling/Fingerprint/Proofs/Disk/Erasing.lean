import Fingerprint.Host
import Fingerprint.Proofs.Disk.Reading
import Fingerprint.Proofs.Disk.Spelling
import Fingerprint.Proofs.Text.Encoding
import Fingerprint.Proofs.Value.Tables

/-! # A disk without one of its files

Looking a path up on a disk from which a file has been erased gives what it gave before, unless the
path led to that file or through it (`lookup_erase`). A path that led to the file leads nowhere
afterwards, and one that led through it leads nowhere before and after. Which file a path leads to
shows in its last part (`name_of_lookup`). -/
set_option autoImplicit false
namespace Fingerprint
namespace Disk

/-- A path that leads nowhere: to a free name, or over something that is missing or no directory. -/
def Absent : Except Fault Lookup → Prop
  | .ok (.found ..) => False
  | .ok (.free _) => True
  | .error f => f.kind = .notFound ∨ f.kind = .notDirectory

theorem exists?_of_absent (d : Disk) (cwd : Path) (path : Text)
    (absent : Absent (d.lookup cwd path)) : d.exists? cwd path = .ok false := by
  unfold exists?
  cases looked : d.lookup cwd path with
  | ok there =>
      rw [looked] at absent
      cases there with
      | found place entry => exact absent.elim
      | free place => rfl
  | error f =>
      rw [looked] at absent
      rcases absent with kind | kind <;> simp [kind]

/-! ## Looking up -/

theorem lookup_cases (cwd : Path) (path : Text) :
    (∃ f, (f.kind.isValue = true ∨ f = .notFound path ∨ f = .nameTooLong path) ∧
      ∀ d : Disk, d.lookup cwd path = .error f) ∨
    ∃ here bytes, pathBytes path = .ok bytes ∧
      ∀ d : Disk, d.lookup cwd path = d.walk path here (splitSlash bytes) := by
  unfold lookup
  cases taken : pathBytes path with
  | error f =>
      exact Or.inl ⟨f, Or.inl (isValue_of_pathBytes path f taken), fun _ => rfl⟩
  | ok bytes =>
      simp only [bind, Except.bind]
      by_cases empty : bytes.isEmpty = true
      · exact Or.inl ⟨.notFound path, Or.inr (Or.inl rfl), fun _ => by rw [if_pos empty]; rfl⟩
      · by_cases long : 4095 < bytes.length
        · refine Or.inl ⟨.nameTooLong path, Or.inr (Or.inr rfl), fun _ => ?_⟩
          rw [if_neg empty, if_pos long]
          rfl
        · refine Or.inr ⟨if bytes.head? = some 0x2F then [] else locationOf cwd, bytes, rfl, ?_⟩
          intro d
          rw [if_neg empty, if_neg long]

theorem error_of_walk (d : Disk) (path : Text) (here : Location) (parts : List Bytes) (f : Fault)
    (ends : d.walk path here parts = .error f) :
    f = .notFound path ∨ f = .notDirectory path ∨ f = .nameTooLong path := by
  fun_induction d.walk path here parts with
  | case1 => cases ends
  | case2 => cases ends; exact Or.inl rfl
  | case3 => cases ends; exact Or.inl rfl
  | case4 => cases ends; exact Or.inr (Or.inl rfl)
  | case5 => rename_i ih; exact ih ends
  | case6 => rename_i ih; exact ih ends
  | case7 => cases ends; exact Or.inr (Or.inr rfl)
  | case8 => cases ends
  | case9 => cases ends; exact Or.inl rfl
  | case10 => rename_i ih; exact ih ends

/-- Only names that are too long keep a path from being looked at. -/
theorem error_of_exists (d : Disk) (cwd : Path) (path : Text) (f : Fault)
    (ends : d.exists? cwd path = .error f) : f = .nameTooLong path := by
  unfold exists? at ends
  cases looked : d.lookup cwd path with
  | ok there =>
      rw [looked] at ends
      cases there <;> cases ends
  | error g =>
      rw [looked] at ends
      dsimp only at ends
      split at ends
      · cases ends
      · next shown =>
          cases ends
          simp only [Bool.or_eq_true, decide_eq_true_eq, not_or] at shown
          rcases lookup_cases cwd path with ⟨f', kind, early⟩ | ⟨here, bytes, -, walked⟩
          · rw [early d] at looked
            cases looked
            rcases kind with value | rfl | rfl
            · exact absurd value shown.2
            · exact absurd rfl shown.1.1
            · rfl
          · rw [walked d] at looked
            rcases d.error_of_walk path here _ _ looked with rfl | rfl | rfl
            · exact absurd rfl shown.1.1
            · exact absurd rfl shown.1.2
            · rfl

theorem lookup_of_exists (d : Disk) (cwd : Path) (path : Text)
    (there : d.exists? cwd path = .ok true) : ∃ l e, d.lookup cwd path = .ok (.found l e) := by
  unfold exists? at there
  cases looked : d.lookup cwd path with
  | ok place =>
      rw [looked] at there
      cases place with
      | found l e => exact ⟨l, e, rfl⟩
      | free l => cases there
  | error f =>
      rw [looked] at there
      dsimp only at there
      split at there <;> cases there

/-! ## Erasing -/

theorem get?_erase_of_ne (d : Disk) (gone l : Location) (other : l ≠ gone) :
    (d.erase gone).get? l = d.get? l := by
  cases l with
  | nil => rfl
  | cons part rest =>
      exact (lookup_filter_key (· != gone) d.entries (part :: rest)).trans
        (if_pos (bne_iff_ne.mpr other))

theorem get?_erase_self (d : Disk) (gone : Location) (below : gone ≠ []) :
    (d.erase gone).get? gone = none := by
  cases gone with
  | nil => exact absurd rfl below
  | cons part rest =>
      exact (lookup_filter_key (· != part :: rest) d.entries (part :: rest)).trans
        (if_neg (by simp))

section
variable (d : Disk) (gone : Location) (bytes : Bytes) (file : d.get? gone = some (.file bytes))
include file

theorem ne_nil_of_file : gone ≠ [] := by
  rintro rfl
  cases file

theorem walk_of_file (path : Text) (parts : List Bytes) :
    Absent (d.walk path gone parts) ∨ d.walk path gone parts = .ok (.found gone (.file bytes)) := by
  cases parts with
  | nil =>
      rw [walk, file]
      exact Or.inr rfl
  | cons part rest =>
      rw [walk, file]
      exact Or.inl (Or.inr rfl)

theorem walk_of_erased (path : Text) (parts : List Bytes) :
    Absent ((d.erase gone).walk path gone parts) := by
  have nothing := d.get?_erase_self gone (d.ne_nil_of_file gone bytes file)
  cases parts with
  | nil =>
      rw [walk, nothing]
      exact Or.inl rfl
  | cons part rest =>
      rw [walk, nothing]
      exact Or.inl rfl

theorem walk_erase (path : Text) (here : Location) (parts : List Bytes) :
    (d.erase gone).walk path here parts = d.walk path here parts ∨
      (Absent ((d.erase gone).walk path here parts) ∧ (Absent (d.walk path here parts) ∨
        d.walk path here parts = .ok (.found gone (.file bytes)))) := by
  have below := d.ne_nil_of_file gone bytes file
  induction parts generalizing here with
  | nil =>
      by_cases at_ : here = gone
      · subst at_
        exact Or.inr ⟨d.walk_of_erased here bytes file path [], d.walk_of_file here bytes file path []⟩
      · left
        simp only [walk, d.get?_erase_of_ne gone here at_]
  | cons part rest ih =>
      by_cases at_ : here = gone
      · subst at_
        exact Or.inr ⟨d.walk_of_erased here bytes file path _, d.walk_of_file here bytes file path _⟩
      · simp only [walk, d.get?_erase_of_ne gone here at_]
        cases stands : d.get? here with
        | none => exact Or.inl rfl
        | some entry =>
            cases entry with
            | file content => exact Or.inl rfl
            | directory =>
                dsimp only
                split
                · exact ih here
                · split
                  · exact ih here.dropLast
                  · split
                    · exact Or.inl rfl
                    · by_cases last : here ++ [part] = gone
                      · -- The erased name is free, or missing on the way, where the file was.
                        rw [last, file, d.get?_erase_self gone below]
                        have before := d.walk_of_file gone bytes file path rest
                        cases rest with
                        | nil => exact Or.inr ⟨trivial, before⟩
                        | cons next others => exact Or.inr ⟨Or.inl rfl, before⟩
                      · rw [d.get?_erase_of_ne gone _ last]
                        cases d.get? (here ++ [part]) with
                        | none => cases rest <;> exact Or.inl rfl
                        | some entry => cases rest <;> exact ih (here ++ [part])

theorem lookup_erase (cwd : Path) (path : Text) :
    (d.erase gone).lookup cwd path = d.lookup cwd path ∨
      (Absent ((d.erase gone).lookup cwd path) ∧ (Absent (d.lookup cwd path) ∨
        d.lookup cwd path = .ok (.found gone (.file bytes)))) := by
  rcases lookup_cases cwd path with ⟨f, -, early⟩ | ⟨here, parts, -, walked⟩
  · exact Or.inl (by rw [early, early])
  · rw [walked, walked]
    exact d.walk_erase gone bytes file path here _

end

/-! ## The last part of a path -/

theorem splitSlash_ne_nil (bytes : Bytes) : splitSlash bytes ≠ [] := by
  cases bytes with
  | nil => simp [splitSlash]
  | cons b rest =>
      simp only [splitSlash]
      split
      · simp
      · split <;> simp

theorem splitSlash_append (before after : Bytes) :
    splitSlash (before ++ 0x2F :: after) = splitSlash before ++ splitSlash after := by
  induction before with
  | nil => simp [splitSlash]
  | cons b rest ih =>
      by_cases slash : b = 0x2F
      · simp [splitSlash, slash, ih]
      · obtain ⟨part, parts, split⟩ := List.exists_cons_of_ne_nil (splitSlash_ne_nil rest)
        simp only [List.cons_append, splitSlash, if_neg slash, ih, split]

theorem splitSlash_of_plain (bytes : Bytes) (plain : (0x2F : UInt8) ∉ bytes) :
    splitSlash bytes = [bytes] := by
  induction bytes with
  | nil => rfl
  | cons b rest ih =>
      obtain ⟨first, others⟩ := not_or.mp (mt List.mem_cons.mpr plain)
      simp only [splitSlash, if_neg (Ne.symm first), ih others]

/-- The bytes that a part of a path is named by on the disk. -/
def nameBytes (part : Text) : Bytes := part.flatMap Utf8.unitEscaped

/-- A part that is no step of its own: it holds no slash, and it is neither empty nor made of one
dot or two. -/
def ProperName (name : Bytes) : Prop :=
  (0x2F : UInt8) ∉ name ∧ name ≠ [] ∧ name ≠ [0x2E] ∧ name ≠ [0x2E, 0x2E]

instance (name : Bytes) : Decidable (ProperName name) := by
  unfold ProperName
  infer_instance

theorem name_of_walk (d : Disk) (path : Text) (here : Location) (parts : List Bytes) (name : Bytes)
    (proper : ProperName name) (l : Location) (e : DiskEntry)
    (found : d.walk path here (parts ++ [name]) = .ok (.found l e)) : l.getLast? = some name := by
  obtain ⟨-, full, noDot, noDots⟩ := proper
  induction parts generalizing here with
  | nil =>
      rw [List.nil_append, walk] at found
      split at found
      · cases found
      · cases found
      · rw [if_neg (by simp [full, noDot]), if_neg noDots] at found
        split at found
        · cases found
        · dsimp only at found
          split at found
          · cases found
          · cases found
          · rw [walk] at found
            split at found
            · cases found
              simp
            · cases found
  | cons part rest ih =>
      rw [List.cons_append, walk] at found
      split at found
      · cases found
      · cases found
      · split at found
        · exact ih here found
        · split at found
          · exact ih here.dropLast found
          · split at found
            · cases found
            · dsimp only at found
              split at found
              · cases found
              · cases found
              · exact ih _ found

end Disk

theorem Path.text_child (p : Path) (name : Text) (inner : p.parts ≠ []) :
    (p.child name).text = p.root ++ Text.join [slash] p.parts ++ slash :: name := by
  unfold text child
  rw [if_neg (by simp), Text.join_append [slash] _ _ inner (List.cons_ne_nil name [])]
  simp [Text.join]

namespace Disk

theorem pathBytes_eq_ok_iff (path : Text) (bytes : Bytes) : pathBytes path = .ok bytes ↔
    (∀ c ∈ path, c.isSurrogate = true → Utf8.isEscape c = true) ∧ bytes = nameBytes path ∧
      (0 : UInt8) ∉ bytes := by
  rw [← Utf8.unencodable?_eq_none_iff Utf8.isEscape 0]
  unfold pathBytes Utf8.encodeEscaped
  cases Utf8.unencodable? Utf8.isEscape 0 path with
  | some run => simp
  | none =>
      simp only [List.contains_iff_mem, true_and]
      split
      next nul =>
        refine ⟨nofun, ?_⟩
        rintro ⟨rfl, none⟩
        exact absurd nul none
      next none =>
        constructor
        · rintro ⟨⟩
          exact ⟨rfl, none⟩
        · rintro ⟨rfl, -⟩
          rfl

theorem name_of_lookup (d : Disk) (cwd p : Path) (name : Text) (inner : p.parts ≠ [])
    (proper : ProperName (nameBytes name)) (l : Location) (e : DiskEntry)
    (found : d.lookup cwd (p.child name).text = .ok (.found l e)) :
    l.getLast? = some (nameBytes name) := by
  rcases lookup_cases cwd (p.child name).text with ⟨f, -, early⟩ | ⟨here, bytes, taken, walked⟩
  · rw [early d] at found
    cases found
  · rw [walked d] at found
    have spelled : bytes = nameBytes (p.root ++ Text.join [Path.slash] p.parts) ++
        0x2F :: nameBytes name := by
      rw [((pathBytes_eq_ok_iff _ bytes).mp taken).2.1, p.text_child name inner]
      exact List.flatMap_append
    rw [spelled, splitSlash_append, splitSlash_of_plain _ proper.1] at found
    exact d.name_of_walk _ here _ _ proper l e found

end Disk
end Fingerprint
