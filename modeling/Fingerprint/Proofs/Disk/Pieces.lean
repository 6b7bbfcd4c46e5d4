import Fingerprint.Proofs.Disk.Reading

/-! # Pieces

The replies to reads bring in pieces up to the first that is empty or meets a fault
(`Reply.pieces`, `Reply.fault?`). Reading takes these pieces in one after the other and then ends
with the fault, if there was one (`feed_fst_eq`). It asks for one reply more than it takes pieces
in, and stops before the last of them only at a piece that is not taken (`reads_of_feed`). -/
set_option autoImplicit false
namespace Fingerprint

namespace Reply

/-- The pieces before the first reply that is empty or meets a fault. -/
def pieces : List Reply → List Value
  | [] => []
  | .fault _ :: _ => []
  | .data v :: later => if v.isEmptyBytes then [] else v :: pieces later

def fault? : List Reply → Option Fault
  | [] => none
  | .fault f :: _ => some f
  | .data v :: later => if v.isEmptyBytes then none else fault? later

theorem pieces_append (vs : List Value) (full : ∀ v ∈ vs, v.isEmptyBytes = false)
    (later : List Reply) : pieces (vs.map .data ++ later) = vs ++ pieces later := by
  induction vs with
  | nil => rfl
  | cons v rest ih =>
      have first := full v List.mem_cons_self
      have others := ih fun w member => full w (List.mem_cons_of_mem _ member)
      simp only [List.map_cons, List.cons_append, pieces, first, Bool.false_eq_true, if_false, others]

theorem fault?_append (vs : List Value) (full : ∀ v ∈ vs, v.isEmptyBytes = false)
    (later : List Reply) : fault? (vs.map .data ++ later) = fault? later := by
  induction vs with
  | nil => rfl
  | cons v rest ih =>
      have first := full v List.mem_cons_self
      have others := ih fun w member => full w (List.mem_cons_of_mem _ member)
      simp only [List.map_cons, List.cons_append, fault?, first, Bool.false_eq_true, if_false, others]

def conclude {σ : Type} (replies : List Reply) (s : σ) : Except Error σ :=
  match fault? replies with
  | none => .ok s
  | some f => .error (.fault f)

end Reply

section
variable {σ : Type} (step : σ → Value → Except Error σ)

theorem feed_fst_eq (s : σ) (reads : Nat) (replies : List Reply) :
    (feed step s reads replies).1 =
      (Reply.pieces replies).foldlM step s >>= Reply.conclude replies := by
  induction replies generalizing s reads with
  | nil => rfl
  | cons reply later ih =>
      cases reply with
      | fault f => rfl
      | data v =>
          by_cases empty : v.isEmptyBytes = true
          · have ended : Reply.conclude (.data v :: later) s = .ok s := by
              simp only [Reply.conclude, Reply.fault?, if_pos empty]
            simp only [feed, Reply.pieces, if_pos empty]
            exact ended.symm
          · have same : Reply.conclude (σ := σ) (.data v :: later) = Reply.conclude later := by
              funext s
              simp only [Reply.conclude, Reply.fault?, if_neg empty]
            simp only [feed, Reply.pieces, if_neg empty, List.foldlM_cons, same]
            cases step s v with
            | error e => rfl
            | ok s₁ => exact ih s₁ (reads + 1)

/-- One read for each piece that is taken in, and one that ends reading. -/
theorem reads_of_feed (s : σ) (reads : Nat) (replies : List Reply) :
    ∃ taken, (feed step s reads replies).2 = reads + taken.length + 1 ∧
      (∃ s', taken.foldlM step s = .ok s') ∧
      (Reply.pieces replies = taken ∨ ∃ v rest e, Reply.pieces replies = taken ++ v :: rest ∧
        (taken ++ [v]).foldlM step s = .error e) := by
  induction replies generalizing s reads with
  | nil => exact ⟨[], rfl, ⟨s, rfl⟩, Or.inl rfl⟩
  | cons reply later ih =>
      cases reply with
      | fault f => exact ⟨[], rfl, ⟨s, rfl⟩, Or.inl rfl⟩
      | data v =>
          by_cases empty : v.isEmptyBytes = true
          · refine ⟨[], ?_, ⟨s, rfl⟩, Or.inl ?_⟩
            · simp only [feed, if_pos empty, List.length_nil, Nat.add_zero]
            · simp only [Reply.pieces, if_pos empty]
          · have pieces : Reply.pieces (.data v :: later) = v :: Reply.pieces later := if_neg empty
            cases run : step s v with
            | error e =>
                refine ⟨[], ?_, ⟨s, rfl⟩, Or.inr ⟨v, Reply.pieces later, e, pieces, ?_⟩⟩
                · simp only [feed, if_neg empty, run, List.length_nil, Nat.add_zero]
                · simp only [List.nil_append, List.foldlM_cons, run]
                  rfl
            | ok s₁ =>
                obtain ⟨taken, counted, ⟨s', fed⟩, ends⟩ := ih s₁ (reads + 1)
                have onward (vs : List Value) :
                    (v :: vs).foldlM step s = vs.foldlM step s₁ := by
                  rw [List.foldlM_cons, run]
                  rfl
                refine ⟨v :: taken, ?_, ⟨s', (onward taken).trans fed⟩, ?_⟩
                · simp only [feed, if_neg empty, run, counted, List.length_cons]
                  omega
                · rcases ends with all | ⟨w, rest, e, split, refused⟩
                  · exact Or.inl (by rw [pieces, all])
                  · refine Or.inr ⟨w, rest, e, by rw [pieces, split]; rfl, ?_⟩
                    exact (onward (taken ++ [w])).trans refused

theorem consume_events (source : Source) (path : Text) (size : Value) (s : σ)
    (opens : source.Opens) : (consume source path size step s).2 =
      .opened path "rb" :: (List.replicate (feed step s 0 (source.replies size)).2 (.read size) ++
        [.closed]) := by
  cases source with
  | refused f => exact absurd rfl (opens f)
  | stored content => rfl
  | scripted replies => rfl

end
end Fingerprint
