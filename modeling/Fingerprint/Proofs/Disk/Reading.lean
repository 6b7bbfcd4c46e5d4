import Fingerprint.Disk.Tree
import Fingerprint.Proofs.Outcome

/-! # What reading a file gives

`Source.Holds` says that reads of a size bring in a content: a source can be opened, and the replies
to the reads deliver the content (`Delivers`) in whatever non-empty pieces. A stored content is held
for every size that a read can have (`holds_stored`). `Source.ReadsToEnd` are the sources that can be
opened and read until the first empty reply, and `Source.FailsAsFile` those of which every fault is
one of a file; a disk has no others (`failsAsFile_source`). -/
set_option autoImplicit false
namespace Fingerprint

/-- The replies bring in the content piece by piece, up to the first empty one. -/
inductive Delivers : List Reply → Bytes → Prop where
  | exhausted : Delivers [] []
  | ended (v : Value) (later : List Reply) (empty : v.isEmptyBytes = true) :
      Delivers (.data v :: later) []
  | piece (v : Value) (b content : Bytes) (later : List Reply)
      (taken : Strategy.message? v = .ok b) (nonempty : b ≠ [])
      (rest : Delivers later content) : Delivers (.data v :: later) (b ++ content)

inductive ReadThrough : List Reply → Prop where
  | exhausted : ReadThrough []
  | ended (v : Value) (later : List Reply) (empty : v.isEmptyBytes = true) :
      ReadThrough (.data v :: later)
  | piece (v : Value) (later : List Reply) (rest : ReadThrough later) :
      ReadThrough (.data v :: later)

theorem isEmptyBytes_of_message (v : Value) (b : Bytes) (taken : Strategy.message? v = .ok b)
    (nonempty : b ≠ []) : v.isEmptyBytes = false := by
  unfold Strategy.message? at taken
  split at taken <;> cases taken <;> simpa [Value.isEmptyBytes, Value.content?] using nonempty

namespace Source

def Opens (source : Source) : Prop := ∀ f, source ≠ .refused f

structure Holds (source : Source) (size : Value) (content : Bytes) : Prop where
  opens : source.Opens
  delivered : Delivers (source.replies size) content

def ReadsToEnd (size : Value) (source : Source) : Prop :=
  source.Opens ∧ ReadThrough (source.replies size)

/-- Opening, and reads of the size, fail, if at all, as files fail. -/
structure FailsAsFile (source : Source) (size : Value) : Prop where
  opening : ∀ f, source = .refused f → f.isFileFault = true
  reading : ∀ f, Reply.fault f ∈ source.replies size → f.isFileFault = true

/-! ## Pieces of a stored content -/

theorem flatten_piecesOnto (size : Nat) (pieces : List Bytes) (content : Bytes) :
    (piecesOnto size pieces content).reverse.flatten = pieces.reverse.flatten ++ content := by
  fun_induction piecesOnto size pieces content with
  | case1 pieces => simp
  | case2 pieces b rest ih =>
      rw [ih]
      simp [List.flatten_append, List.take_append_drop]

theorem piecesOnto_nonempty (size : Nat) (pieces : List Bytes) (content : Bytes)
    (before : ∀ b ∈ pieces, b ≠ []) : ∀ b ∈ piecesOnto size pieces content, b ≠ [] := by
  fun_induction piecesOnto size pieces content with
  | case1 pieces => exact before
  | case2 pieces first rest ih =>
      apply ih
      intro b member
      rcases List.mem_cons.mp member with rfl | earlier
      · exact List.cons_ne_nil _ _
      · exact before b earlier

theorem flatten_pieces (size : Nat) (content : Bytes) (positive : 0 < size) :
    (pieces size content).flatten = content := by
  cases size with
  | zero => omega
  | succ n => simpa [pieces] using flatten_piecesOnto n [] content

theorem pieces_nonempty (size : Nat) (content : Bytes) : ∀ b ∈ pieces size content, b ≠ [] := by
  cases size with
  | zero => simp [pieces]
  | succ n =>
      intro b member
      exact piecesOnto_nonempty n [] content (by simp) b (List.mem_reverse.mp member)

theorem delivers_pieces (cut : List Bytes) (nonempty : ∀ b ∈ cut, b ≠ []) :
    Delivers (cut.map fun b => .data (.bytes b)) cut.flatten := by
  induction cut with
  | nil => exact .exhausted
  | cons b rest ih =>
      have first := nonempty b (List.mem_cons_self ..)
      have later := ih fun other member => nonempty other (List.mem_cons_of_mem _ member)
      exact .piece (.bytes b) b rest.flatten _ rfl first later

section
variable (size : Value) (n : Nat) (proper : readSize size = .ok n)
include proper

theorem holds_stored (content : Bytes) (positive : 0 < n) :
    (stored content).Holds size content where
  opens := nofun
  delivered := by
    simp only [replies, proper]
    have whole := delivers_pieces (pieces n content) (pieces_nonempty n content)
    rw [flatten_pieces n content positive] at whole
    exact whole

theorem failsAsFile_stored (content : Bytes) : (stored content).FailsAsFile size where
  opening := nofun
  reading := by
    intro f member
    simp [replies, proper] at member

end

theorem holds_stored_int (size : Int) (positive : 0 < size) (fits : size < readLimit)
    (content : Bytes) : (stored content).Holds (.int size) content :=
  holds_stored (.int size) size.toNat (if_neg (Int.not_le.mpr fits)) content (by omega)

theorem failsAsFile_refused (f : Fault) (size : Value) (file : f.isFileFault = true) :
    (refused f).FailsAsFile size where
  opening := by
    rintro _ ⟨⟩
    exact file
  reading := nofun

end Source

/-! ## Taking the replies in -/

section
variable {σ : Type}

theorem consume_refused (f : Fault) (path : Text) (size : Value)
    (step : σ → Value → Except Error σ) (s : σ) :
    (consume (.refused f) path size step s).1 = .error (Error.aboutFile path (.fault f)) := rfl

theorem consume_opened (source : Source) (path : Text) (size : Value)
    (step : σ → Value → Except Error σ) (s : σ) (opens : source.Opens) :
    (consume source path size step s).1 =
      (feed step s 0 (source.replies size)).1.mapError (Error.aboutFile path) := by
  cases source with
  | refused f => exact absurd rfl (opens f)
  | stored content => rfl
  | scripted replies => rfl

theorem feed_keeps (step : σ → Value → Except Error σ) (P : σ → Prop)
    (keeps : ∀ s v s', P s → step s v = .ok s' → P s') (s s' : σ) (reads : Nat)
    (replies : List Reply) (before : P s) (fed : (feed step s reads replies).1 = .ok s') :
    P s' := by
  induction replies generalizing s reads with
  | nil =>
      cases fed
      exact before
  | cons reply later ih =>
      cases reply with
      | fault f => cases fed
      | data v =>
          simp only [feed] at fed
          split at fed
          · cases fed
            exact before
          · split at fed
            · cases fed
            · next s₁ taken => exact ih s₁ _ (keeps s v s₁ before taken) fed

theorem error_of_feed (step : σ → Value → Except Error σ) (P : σ → Prop)
    (keeps : ∀ s v s', P s → step s v = .ok s' → P s') (s : σ) (reads : Nat)
    (replies : List Reply) (before : P s) (e : Error)
    (ends : (feed step s reads replies).1 = .error e) :
    (∃ f, Reply.fault f ∈ replies ∧ e = .fault f) ∨ ∃ s v, P s ∧ step s v = .error e := by
  induction replies generalizing s reads with
  | nil => cases ends
  | cons reply later ih =>
      cases reply with
      | fault f =>
          cases ends
          exact Or.inl ⟨f, List.mem_cons_self .., rfl⟩
      | data v =>
          simp only [feed] at ends
          split at ends
          · cases ends
          · split at ends
            · next stopped =>
                cases ends
                exact Or.inr ⟨s, v, before, stopped⟩
            · next s₁ taken =>
                rcases ih s₁ _ (keeps s v s₁ before taken) ends with ⟨f, member, same⟩ | stopped
                · exact Or.inl ⟨f, List.mem_cons_of_mem _ member, same⟩
                · exact Or.inr stopped

theorem opens_of_consume (source : Source) (path : Text) (size : Value)
    (step : σ → Value → Except Error σ) (s s' : σ)
    (run : (consume source path size step s).1 = .ok s') : source.Opens := by
  rintro f rfl
  cases run

theorem consume_keeps (source : Source) (path : Text) (size : Value)
    (step : σ → Value → Except Error σ) (P : σ → Prop)
    (keeps : ∀ s v s', P s → step s v = .ok s' → P s') (s s' : σ) (before : P s)
    (run : (consume source path size step s).1 = .ok s') : P s' := by
  have opens := opens_of_consume source path size step s s' run
  rw [consume_opened source path size step s opens, mapError_eq_ok_iff] at run
  exact feed_keeps step P keeps s s' 0 _ before run

theorem failsOnly_consume (source : Source) (path : Text) (size : Value)
    (step : σ → Value → Except Error σ) (P : σ → Prop)
    (keeps : ∀ s v s', P s → step s v = .ok s' → P s')
    (steps : ∀ s v, P s → FailsOnly (step s v)) (s : σ) (before : P s)
    (fails : source.FailsAsFile size) : FailsOnly (consume source path size step s).1 := by
  intro e ends
  by_cases refused : ∃ f, source = .refused f
  · obtain ⟨f, rfl⟩ := refused
    rw [consume_refused, Error.aboutFile, if_pos (fails.opening f rfl)] at ends
    cases ends
    exact ⟨_, rfl⟩
  · rw [consume_opened source path size step s fun f same => refused ⟨f, same⟩,
      mapError_eq_error_iff] at ends
    obtain ⟨e', stopped, rfl⟩ := ends
    rcases error_of_feed step P keeps s 0 _ before e' stopped with
      ⟨f, member, rfl⟩ | ⟨s₁, v, at₁, failed⟩
    · exact ⟨.unreadable (.text path) f, if_pos (fails.reading f member)⟩
    · obtain ⟨f, rfl⟩ := steps s₁ v at₁ e' failed
      exact ⟨f, rfl⟩

end

/-! ## The disk -/

namespace Disk

theorem isFileFault_of_walk (d : Disk) (path : Text) (here : Location) (parts : List Bytes)
    (f : Fault) (ends : d.walk path here parts = .error f) : f.isFileFault = true := by
  fun_induction d.walk path here parts with
  | case1 => cases ends
  | case2 => cases ends; rfl
  | case3 => cases ends; rfl
  | case4 => cases ends; rfl
  | case5 => rename_i ih; exact ih ends
  | case6 => rename_i ih; exact ih ends
  | case7 => cases ends; rfl
  | case8 => cases ends
  | case9 => cases ends; rfl
  | case10 => rename_i ih; exact ih ends

theorem isValue_of_pathBytes (path : Text) (f : Fault) (refused : pathBytes path = .error f) :
    f.kind.isValue = true := by
  unfold pathBytes at refused
  split at refused
  · cases refused
    rfl
  · split at refused <;> cases refused
    rfl

theorem isFileFault_of_lookup (d : Disk) (cwd : Path) (path : Text) (f : Fault)
    (ends : d.lookup cwd path = .error f) : f.isFileFault = true := by
  unfold lookup at ends
  cases bytes : pathBytes path with
  | error g =>
      rw [bytes] at ends
      cases ends
      rw [Fault.isFileFault, isValue_of_pathBytes path f bytes, Bool.or_true]
  | ok bytes' =>
      rw [bytes] at ends
      simp only [bind, Except.bind] at ends
      split at ends
      · cases ends; rfl
      · split at ends
        · cases ends; rfl
        · exact d.isFileFault_of_walk _ _ _ f ends

theorem failsAsFile_source (d : Disk) (cwd : Path) (path : Text) (size : Value) (n : Nat)
    (proper : Source.readSize size = .ok n) : (d.source cwd path).FailsAsFile size := by
  unfold source
  split
  · next f ends => exact Source.failsAsFile_refused f size (d.isFileFault_of_lookup cwd path f ends)
  · exact Source.failsAsFile_stored size n proper _
  · exact Source.failsAsFile_refused _ size rfl
  · exact Source.failsAsFile_refused _ size rfl

end Disk
end Fingerprint
