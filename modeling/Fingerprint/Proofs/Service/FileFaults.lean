import Fingerprint.Proofs.Service.FileAccess

/-! # Files that cannot be read

A fault of the file, at its opening or at any read, ends a call with a failure that has the fault as
its cause and tells the reason. The failure names the file, except one whose path is empty:
a detail enters the context only when it says something, and an empty path says nothing
(`file_faults_are_told_with_paths_unless_empty`). -/
set_option autoImplicit false
namespace Fingerprint
variable {η : Type}

/-- The file meets this fault: when it is opened, or after these pieces. -/
inductive Source.FailsAfter (size : Value) (f : Fault) : Source → List Value → Prop where
  | opening : FailsAfter size f (.refused f) []
  | reading (source : Source) (opens : source.Opens) (vs : List Value) (later : List Reply)
      (full : ∀ v ∈ vs, v.isEmptyBytes = false)
      (replies : source.replies size = vs.map .data ++ .fault f :: later) :
      FailsAfter size f source vs

/-- The system's own reason where it says something, else the whole text of the fault. -/
inductive Fault.Tells (f : Fault) : Text → Prop where
  | reason (v : Value) (own : f.reason? = some v) (useful : v.isTrue = true) : Tells f v.shown
  | whole (silent : ∀ v, f.reason? = some v → v.isTrue = false) : Tells f f.text

structure Failure.Blames (g : Failure) (t : Text) (f : Fault) : Prop where
  kind : g.kind = .fileAccess
  cause : g.cause = some f
  message : ∃ told, f.Tells told ∧
    g.message = .text (Text.concat ["Cannot read file: ", told])
  named : t ≠ [] → g.context = ([("file_path", .text t)] : Entries)
  unnamed : t = [] → g.context = []

theorem Failure.blames_unreadable (t : Text) (f : Fault) : (unreadable (.text t) f).Blames t f where
  kind := rfl
  cause := rfl
  message := by
    unfold unreadable
    cases own : f.reason? with
    | none =>
        refine ⟨f.text, .whole fun v some => ?_, rfl⟩
        rw [own] at some
        cases some
    | some v =>
        by_cases useful : v.isTrue = true
        · refine ⟨v.shown, .reason v own useful, ?_⟩
          simp only [if_pos useful]
        · refine ⟨f.text, .whole fun w some => ?_, ?_⟩
          · rw [own] at some
            cases some
            exact Bool.eq_false_iff.mpr useful
          · simp only [if_neg useful]
  named some := by simp [unreadable, Value.isTrue, some]
  unnamed none := by
    subst none
    rfl

def Error.TellsOf (t : Text) (f : Fault) (e : Error) : Prop := ∃ g, e = .failure g ∧ g.Blames t f

theorem Error.tellsOf_aboutFile (t : Text) (f : Fault) (file : f.isFileFault = true) :
    (Error.aboutFile t (.fault f)).TellsOf t f :=
  ⟨.unreadable (.text t) f, if_pos file, Failure.blames_unreadable t f⟩

/-- What was taken in before the fault makes no difference to how the run ends. -/
theorem consume_of_failsAfter {σ : Type} (step : σ → Value → Except Error σ) (source : Source)
    (t : Text) (size : Value) (f : Fault) (vs : List Value) (fails : source.FailsAfter size f vs)
    (s s' : σ) (fed : vs.foldlM step s = .ok s') :
    (consume source t size step s).1 = .error (Error.aboutFile t (.fault f)) := by
  cases fails with
  | opening => rfl
  | reading _ opens _ later full replies =>
      have pieces : Reply.pieces (source.replies size) = vs := by
        rw [replies, Reply.pieces_append vs full]
        exact List.append_nil vs
      have ended : Reply.conclude (source.replies size) s' = .error (.fault f) := by
        rw [replies, Reply.conclude, Reply.fault?_append vs full]
        rfl
      have run : (feed step s 0 (source.replies size)).1 = .error (.fault f) := by
        rw [feed_fst_eq, pieces, fed]
        exact ended
      rw [consume_opened source t size step s opens, run]
      rfl

theorem ReadsFile.of_failsAfter {α : Type} {ready : Text → Prop} {used : Descriptor η → Prop}
    {sources : Text → Source} {size : Value} {call : Except Error α × List FileEvent}
    (reads : ReadsFile ready used sources size call) (t : Text) (opened : ready t) (f : Fault)
    (vs : List Value) (fails : (sources t).FailsAfter size f vs)
    (taken : ∀ d, used d → d.TakesIn vs) : call.1 = .error (Error.aboutFile t (.fault f)) := by
  cases reads with
  | unready never => exact absurd opened (never t)
  | reads t' _ alone step s agrees finish =>
      cases alone t opened
      obtain ⟨s', fed⟩ := (agrees vs).mpr taken
      have ended := consume_of_failsAfter step (sources t) t size f vs fails s s' fed
      exact congrArg (· >>= finish) ended

end Fingerprint
