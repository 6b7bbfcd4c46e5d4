import Fingerprint.Proofs.CommandLine.Opening
import Fingerprint.Proofs.Session.Reporting
import Fingerprint.Proofs.Text.Encoding
import Fingerprint.Proofs.Text.Sequences

/-! # The command for files

The command goes through its paths in order, up to the first setback that the other files cannot
share in (`UpToEnd`). For each it has the digest computed once, and then prints a line or, after a
setback, hands a record to the logger and complains (`Course`). Its status is the highest of the
setbacks, unless that is below zero (`digestFiles_run`,
`file_command_reports_up_to_lasting_setback`). How digests are computed makes no difference, as long
as each path gives a digest or a setback. -/
set_option autoImplicit false
namespace Fingerprint
open Fingerprint.Action

namespace CommandLine
open Running

/-! ## What is told -/

def fileLine (digest path : Text) : Text := Text.concat [digest, "  ", path, "\n"]

theorem fileLine_plain (digest path : Text) (digits : ∀ c ∈ digest, c.isSurrogate = false)
    (plain : ∀ c ∈ path, c.isSurrogate = false) :
    ∀ c ∈ fileLine digest path, c.isSurrogate = false := by
  have blanks : ∀ c ∈ ("  " : Text), c.isSurrogate = false :=
    List.forall_mem_cons.mpr ⟨rfl, List.forall_mem_singleton.mpr rfl⟩
  have feed : ∀ c ∈ ("\n" : Text), c.isSurrogate = false := List.forall_mem_singleton.mpr rfl
  simp only [fileLine, Text.concat, List.flatten_cons, List.flatten_nil, List.append_nil,
    List.forall_mem_append]
  exact ⟨digits, blanks, plain, feed⟩

def Setback.record (path : Text) (b : Setback) : Record :=
  ⟨.warning, Text.concat ["file digest failed for ", path, ": ", b.text]⟩

def Setback.complaint (path : Text) (b : Setback) : Text :=
  Text.concat ["digestkit: ", path, ": ", b.message, "\n"]

abbrev Attempt := Text × Except Setback Text

namespace Attempt

def line : Attempt → Text
  | (path, .ok digest) => (fileLine digest path).withoutSequences
  | (_, .error _) => []

def record? : Attempt → Option Record
  | (_, .ok _) => none
  | (path, .error b) => some (b.record path)

/-- The complaint as it stands on standard error, where halves of surrogate pairs are escaped. -/
def shown : Attempt → Text
  | (_, .ok _) => []
  | (path, .error b) =>
    (b.complaint path).withoutSequences.flatMap fun c =>
      if c.isSurrogate then Text.escaped c else [c]

def exitCode? : Attempt → Option Int
  | (_, .ok _) => none
  | (_, .error b) => some b.exitCode

/-- The other files cannot share in what happened. -/
def Ends (a : Attempt) : Prop := ∃ b, a.2 = .error b ∧ b.recoverable = false

def reported (logger : Instance) (s : Session) (a : Attempt) : Session :=
  match a with
  | (_, .ok _) => s
  | (path, .error b) =>
    ((Terminal.mk (s.handed logger (b.record path)) [] []).told (b.complaint path)).session

end Attempt

/-- The highest exit code, and zero where there is none or none is higher. -/
def statusOf (tried : List Attempt) : Int :=
  max 0 ((tried.filterMap Attempt.exitCode?).max?.getD 0)

structure UpToEnd (paths : List Text) (tried : List Attempt) : Prop where
  inOrder : ∃ untried, paths = tried.map Prod.fst ++ untried ∧
    (untried ≠ [] → ∃ a, tried.getLast? = some a ∧ a.Ends)
  onward : ∀ a ∈ tried.dropLast, ¬ a.Ends

/-- Digests are computed one after the other, and each attempt is reported before the next. -/
inductive Course (logger : Instance) (compute : Text → Action (Except Setback Text)) :
    Session → List Attempt → Session → Prop where
  | nil (s : Session) : Course logger compute s [] s
  | cons (s s₁ s' : Session) (a : Attempt) (later : List Attempt)
      (computed : runOn s (compute a.1) = (.ok a.2, s₁))
      (rest : Course logger compute (a.reported logger s₁) later s') :
      Course logger compute s (a :: later) s'

def Answers (compute : Text → Action (Except Setback Text)) (paths : List Text) : Prop :=
  ∀ path ∈ paths, ∀ s, ∃ outcome s', runOn s (compute path) = (.ok outcome, s') ∧
    ∀ digest, outcome = .ok digest → ∀ c ∈ digest, c.isSurrogate = false

/-- Computing a digest leaves neither a record nor a word on standard error. -/
def Quiet (compute : Text → Action (Except Setback Text)) (paths : List Text) : Prop :=
  ∀ path ∈ paths, ∀ s, (runOn s (compute path)).2.recorded = s.recorded ∧
    (runOn s (compute path)).2.console = s.console

namespace UpToEnd

theorem nil : UpToEnd [] [] := ⟨⟨[], rfl, fun more => absurd rfl more⟩, nofun⟩

theorem cons (a : Attempt) (goes : ¬ a.Ends) (paths : List Text) (tried : List Attempt)
    (rest : UpToEnd paths tried) : UpToEnd (a.1 :: paths) (a :: tried) := by
  obtain ⟨untried, split, ended⟩ := rest.inOrder
  refine ⟨⟨untried, by rw [split]; rfl, fun more => ?_⟩, ?_⟩
  · obtain ⟨last, isLast, ends⟩ := ended more
    refine ⟨last, ?_, ends⟩
    rw [List.getLast?_cons, isLast]
    rfl
  · cases tried with
    | nil => exact nofun
    | cons next others =>
        rw [List.dropLast_cons_cons]
        exact List.forall_mem_cons.mpr ⟨goes, rest.onward⟩

theorem single (a : Attempt) (ends : a.Ends) (untried : List Text) :
    UpToEnd (a.1 :: untried) [a] :=
  ⟨⟨untried, rfl, fun _ => ⟨a, rfl, ends⟩⟩, nofun⟩

end UpToEnd

def outcomeOf : Except Error Text → Except Error (Except Setback Text)
  | .ok digest => .ok (.ok digest)
  | .error (.failure f) => .ok (.error (.ofFailure f))
  | .error e => .error e

theorem Program.runOn_digest (p : Program) (s s' : Session) (name path : Text)
    (result : Except Error Text)
    (computed : runOn s (Session.computeFile p.service (.text name) (.text path)) = (result, s')) :
    runOn s (p.digest name path) = (outcomeOf result, s') := by
  have attempted : runOn s (do
      return .ok (← Session.computeFile p.service (.text name) (.text path)) :
        Action (Except Setback Text)) = (result.map .ok, s') := by
    rw [runOn_bind, computed]
    cases result <;> rfl
  unfold Program.digest
  rw [runOn_tryCatch, attempted]
  cases result with
  | ok digest => rfl
  | error e => cases e <;> rfl

/-! ## One path -/

section
variable (t : Terminal)

theorem runIn_print (shown : Text) (plain : ∀ c ∈ shown, c.isSurrogate = false) :
    runIn t (print shown) = (.ok (), { t with output := t.output ++ shown.withoutSequences }) := by
  have written : ∀ c ∈ shown.withoutSequences, c.isSurrogate = false :=
    fun c member => plain c (shown.withoutSequences_sublist.subset member)
  unfold print
  simp only [Utf8.unencodable?_of_plain _ 0 _ written]
  rfl

theorem runIn_perform {α : Type} (a : Action α) (x : α) (s' : Session)
    (run : runOn t.session a = (.ok x, s')) :
    runIn t (perform a) = (.ok x, { t with session := s' }) := by
  unfold perform
  rw [runIn_bind_ok _ _ _ _ _ (runIn_attempt t s' a _ run)]
  rfl

variable (logger : Instance) (compute : Text → Action (Except Setback Text)) (status : Int)
  (path : Text) (rest : List Text) (s₁ : Session)

theorem digestFiles_of_digest (digest : Text)
    (computed : runOn t.session (compute path) = (.ok (.ok digest), s₁))
    (digits : ∀ c ∈ digest, c.isSurrogate = false) (plain : ∀ c ∈ path, c.isSurrogate = false) :
    runIn t (digestFiles logger compute status (path :: rest)) =
      runIn { t with session := s₁, output := t.output ++ (fileLine digest path).withoutSequences }
        (digestFiles logger compute status rest) := by
  have printed := runIn_print { t with session := s₁ } _ (fileLine_plain digest path digits plain)
  rw [digestFiles, runIn_bind_ok _ _ _ _ _ (runIn_perform t _ _ s₁ computed)]
  exact runIn_bind_ok _ _ _ _ _ printed

theorem digestFiles_of_setback (isLogger : logger.IsLogger) (b : Setback)
    (computed : runOn t.session (compute path) = (.ok (.error b), s₁)) :
    runIn t (digestFiles logger compute status (path :: rest)) =
      runIn { t with session := Attempt.reported logger s₁ (path, .error b) }
        (if b.recoverable then digestFiles logger compute (max status b.exitCode) rest
          else return max status b.exitCode) := by
  have handed := Session.logTo_handed s₁ logger isLogger (b.record path)
  rw [digestFiles, runIn_bind_ok _ _ _ _ _ (runIn_perform t _ _ s₁ computed)]
  refine (runIn_bind_ok _ _ _ _ _ (runIn_perform { t with session := s₁ } _ _ _ handed)).trans ?_
  exact runIn_bind_ok _ _ _ _ _ rfl

end

/-! ## The algorithm -/

theorem algorithmName_found (t : Terminal) (p : Program) (c : Command) (arg : Text)
    (d : Descriptor Hasher) (found : p.catalog.find? arg.lower = some d) :
    runIn t (algorithmName p c arg) = (.ok d.name, t) := by
  unfold algorithmName
  rw [found]
  rfl

theorem carryOut_file (t : Terminal) (p : Program) (arg name : Text) (paths : List Text)
    (named : runIn t (algorithmName p .file arg) = (.ok name, t)) :
    runIn t (carryOut p (.file arg paths)) =
      runIn t (reportFiles p.logger (p.digest name) paths) := by
  unfold carryOut
  exact runIn_bind_ok _ _ _ _ _ named

/-! ## All paths -/

def concluded (t : Terminal) (x : Running Unit) : Ending × Terminal :=
  settle (runIn t x).2 (runIn t x).1

theorem statusOf_digest (path digest : Text) (tried : List Attempt) :
    statusOf ((path, .ok digest) :: tried) = statusOf tried := rfl

theorem statusOf_setback (path : Text) (b : Setback) (tried : List Attempt) :
    statusOf ((path, .error b) :: tried) = max b.exitCode (statusOf tried) := by
  have codes : ((path, .error b) :: tried).filterMap Attempt.exitCode? =
      b.exitCode :: tried.filterMap Attempt.exitCode? := rfl
  rw [statusOf, codes, List.max?_cons, statusOf]
  cases (tried.filterMap Attempt.exitCode?).max? with
  | none =>
      simp only [Option.elim, Option.getD]
      omega
  | some code =>
      simp only [Option.elim, Option.getD]
      omega

/-- With a recorder for a logger, and digests that are computed without a record or a word, a course
leaves exactly its records and its complaints. -/
theorem Course.told_of_quiet (compute : Text → Action (Except Setback Text)) (serial : Nat)
    (s s' : Session) (tried : List Attempt) (course : Course (.recorder serial) compute s tried s')
    (quiet : Quiet compute (tried.map Prod.fst)) :
    s'.recorded = s.recorded ++ tried.filterMap Attempt.record? ∧
      s'.console = s.console ++ tried.flatMap Attempt.shown := by
  induction course with
  | nil s => simp
  | cons s s₁ s' a later computed rest ih =>
      obtain ⟨quiet_first, quiet_later⟩ := List.forall_mem_cons.mp quiet
      obtain ⟨records, words⟩ := quiet_first s
      obtain ⟨recorded, console⟩ := ih quiet_later
      rw [computed] at records words
      obtain ⟨path, outcome⟩ := a
      cases outcome with
      | ok digest =>
          rw [recorded, console]
          exact ⟨congrArg (· ++ _) records, congrArg (· ++ _) words⟩
      | error b =>
          have record : (Attempt.reported (.recorder serial) s₁ (path, .error b)).recorded =
              s₁.recorded ++ [b.record path] := rfl
          have complaint : (Attempt.reported (.recorder serial) s₁ (path, .error b)).console =
              s₁.console ++ Attempt.shown (path, .error b) := rfl
          rw [recorded, console, record, complaint, records, words, List.append_assoc,
            List.append_assoc]
          exact ⟨rfl, rfl⟩

section
variable (logger : Instance) (isLogger : logger.IsLogger)
  (compute : Text → Action (Except Setback Text))
include isLogger

/-- A run of the loop is a course up to the first setback that ends it. -/
theorem digestFiles_run (paths : List Text) (answers : Answers compute paths)
    (plain : ∀ path ∈ paths, ∀ c ∈ path, c.isSurrogate = false) (t : Terminal) (status : Int)
    (least : 0 ≤ status) :
    ∃ tried s', UpToEnd paths tried ∧ Course logger compute t.session tried s' ∧
      runIn t (digestFiles logger compute status paths) = (.ok (max status (statusOf tried)),
        { t with session := s', output := t.output ++ tried.flatMap Attempt.line }) := by
  induction paths generalizing t status with
  | nil =>
      refine ⟨[], t.session, .nil, .nil _, ?_⟩
      rw [List.flatMap_nil, List.append_nil]
      have none_yet : max status (statusOf []) = status := Int.max_eq_left least
      rw [none_yet]
      rfl
  | cons path rest ih =>
      obtain ⟨answers_first, answers_rest⟩ := List.forall_mem_cons.mp answers
      obtain ⟨plain_first, plain_rest⟩ := List.forall_mem_cons.mp plain
      obtain ⟨outcome, s₁, computed, digits⟩ := answers_first t.session
      cases outcome with
      | ok digest =>
          have goes : ¬ Attempt.Ends (path, .ok digest) := nofun
          obtain ⟨tried, s', upTo, course, run⟩ := ih answers_rest plain_rest
            { t with session := s₁, output := t.output ++ (fileLine digest path).withoutSequences }
            status least
          refine ⟨(path, .ok digest) :: tried, s', upTo.cons (path, .ok digest) goes,
            .cons _ s₁ s' _ _ computed course, ?_⟩
          rw [digestFiles_of_digest t logger compute status path rest s₁ digest computed
            (digits digest rfl) plain_first, run, List.append_assoc, statusOf_digest]
          rfl
      | error b =>
          have step := digestFiles_of_setback t logger compute status path rest s₁ isLogger b computed
          let s₂ := Attempt.reported logger s₁ (path, .error b)
          cases lasting : b.recoverable with
          | true =>
              have goes : ¬ Attempt.Ends (path, .error b) := by
                rintro ⟨_, ⟨⟩, ends⟩
                rw [lasting] at ends
                cases ends
              obtain ⟨tried, s', upTo, course, run⟩ := ih answers_rest plain_rest
                { t with session := s₂ } (max status b.exitCode)
                (Int.le_trans least (Int.le_max_left _ _))
              refine ⟨(path, .error b) :: tried, s', upTo.cons (path, .error b) goes,
                .cons _ s₁ s' _ _ computed course, ?_⟩
              rw [step, if_pos lasting, run, statusOf_setback, Int.max_assoc]
              rfl
          | false =>
              have ends : Attempt.Ends (path, .error b) := ⟨b, rfl, lasting⟩
              refine ⟨[(path, .error b)], s₂, .single (path, .error b) ends rest,
                .cons _ s₁ s₂ _ _ computed (.nil s₂), ?_⟩
              have codes : max status (statusOf [(path, .error b)]) = max status b.exitCode := by
                have rest : statusOf [] = 0 := rfl
                rw [statusOf_setback, rest]
                omega
              have lines : [(path, Except.error b)].flatMap Attempt.line = [] := rfl
              rw [step, if_neg (by simp [lasting]), codes, lines, List.append_nil]
              rfl

/-- The command computes the digests of its paths in order, up to the first setback that ends it; it
prints a line for each digest, reports each setback, and has the highest of their exit codes for a
status, or zero if that is higher. Escape sequences are left out of what it prints and reports. It is
carried out so with a service that computes these digests. -/
theorem file_command_reports_up_to_lasting_setback (paths : List Text)
    (answers : Answers compute paths) (plain : ∀ path ∈ paths, ∀ c ∈ path, c.isSurrogate = false)
    (t : Terminal) :
    ∃ tried s', UpToEnd paths tried ∧ Course logger compute t.session tried s' ∧
      concluded t (reportFiles logger compute paths) = (.status (statusOf tried).toNat,
        { t with session := s', output := t.output ++ tried.flatMap Attempt.line }) ∧
      (∀ serial, logger = .recorder serial → Quiet compute paths →
        s'.recorded = t.session.recorded ++ tried.filterMap Attempt.record? ∧
        s'.console = t.session.console ++ tried.flatMap Attempt.shown) ∧
      ∀ (p : Program) (arg : Text) (d : Descriptor Hasher),
        p.catalog.find? arg.lower = some d → p.logger = logger → p.digest d.name = compute →
        concluded t (carryOut p (.file arg paths)) =
          concluded t (reportFiles logger compute paths) := by
  obtain ⟨tried, s', upTo, course, run⟩ :=
    digestFiles_run logger isLogger compute paths answers plain t 0 (Int.le_refl 0)
  have least : max 0 (statusOf tried) = statusOf tried := Int.max_eq_right (Int.le_max_left 0 _)
  rw [least] at run
  refine ⟨tried, s', upTo, course, ?_, ?_, ?_⟩
  · unfold concluded reportFiles
    rw [runIn_bind_ok _ _ _ _ _ run]
    by_cases zero : statusOf tried = 0
    · rw [if_neg (not_not.mpr zero), zero]
      rfl
    · rw [if_pos zero]
      rfl
  · rintro serial rfl quiet
    obtain ⟨untried, split, -⟩ := upTo.inOrder
    refine Course.told_of_quiet compute serial _ _ _ course fun path member => quiet path ?_
    rw [split]
    exact List.mem_append_left _ member
  · rintro p arg d found rfl rfl
    unfold concluded
    rw [carryOut_file t p arg d.name paths (algorithmName_found t p .file arg d found)]

end

/-- The second of four paths has a digest; the others have setbacks, of which that of the third
ends the command. -/
theorem file_command_reports_up_to_lasting_setback_third_of_four :
    let compute (path : Text) : Action (Except Setback Text) :=
      pure (if path = ("a" : Text) then .ok "0f"
        else if path = ("b" : Text) then .error ⟨"no", "no (b)", 3, true⟩
        else .error ⟨"stop", "stop", 2, false⟩)
    let paths : List Text := ["b", "a", "c", "b"]
    let t : Terminal := ⟨.onHost ⟨.empty, .ofText "/", [], []⟩ (.ofText "/") "clock", [], []⟩
    let ended := concluded t (reportFiles (.recorder 0) compute paths)
    Answers compute paths ∧ (∀ path ∈ paths, ∀ c ∈ path, c.isSurrogate = false) ∧
      Quiet compute paths ∧
      (∃ tried s', UpToEnd paths tried ∧ Course (.recorder 0) compute t.session tried s' ∧
        ended = (.status (statusOf tried).toNat, ⟨s', [], tried.flatMap Attempt.line⟩) ∧
        s'.recorded = tried.filterMap Attempt.record? ∧ s'.console = tried.flatMap Attempt.shown) ∧
      ended.1 = .status 3 ∧ ended.2.output = fileLine "0f" "a" ∧ ended.2.session.console =
        ("digestkit: b: no\n" : Text) ++ ("digestkit: c: stop\n" : Text) := by
  intro compute paths t ended
  have answers : Answers compute paths := by
    intro path member s
    refine ⟨_, s, rfl, fun digest digested => ?_⟩
    split at digested
    · cases digested
      exact List.forall_mem_cons.mpr ⟨rfl, List.forall_mem_singleton.mpr rfl⟩
    · split at digested <;> cases digested
  have plain : ∀ path ∈ paths, ∀ c ∈ path, c.isSurrogate = false := by
    have single (c : CodePoint) (plain : c.isSurrogate = false) :
        ∀ d ∈ [c], d.isSurrogate = false := List.forall_mem_singleton.mpr plain
    intro path member
    simp only [paths, List.mem_cons, List.not_mem_nil, or_false] at member
    rcases member with rfl | rfl | rfl | rfl <;> exact single _ rfl
  have quiet : Quiet compute paths := fun path member s => ⟨rfl, rfl⟩
  obtain ⟨tried, s', upTo, course, ends, told, -⟩ := file_command_reports_up_to_lasting_setback
    (.recorder 0) (.recorder 0) compute paths answers plain t
  obtain ⟨recorded, console⟩ := told 0 rfl quiet
  exact ⟨answers, plain, quiet, ⟨tried, s', upTo, course, ends, recorded, console⟩, rfl, rfl, rfl⟩

/-- A path is not printed as it is when it holds an escape sequence, and the status is not the highest
exit code when that is below zero. -/
theorem sequences_and_negative_codes_do_not_come_through :
    let path : Text := "a\x1b[31mb"
    let t : Terminal := ⟨.onHost ⟨.empty, .ofText "/", [], []⟩ (.ofText "/") "clock", [], []⟩
    let printed := concluded t (reportFiles (.recorder 0) (fun _ => pure (.ok "0f")) [path])
    let failed := concluded t
      (reportFiles (.recorder 0) (fun _ => pure (.error ⟨"no", "no", -1, true⟩)) ["a"])
    (Utf8.encode? path).isSome = true ∧ printed.1 = .status 0 ∧
      printed.2.output = fileLine "0f" "ab" ∧ printed.2.output ≠ fileLine "0f" path ∧
      failed.1 = .status 0 ∧ failed.2.session.console = ("digestkit: a: no\n" : Text) := by
  intro path t printed failed
  have output : printed.2.output = fileLine "0f" "ab" := rfl
  refine ⟨rfl, rfl, output, ?_, rfl, rfl⟩
  rw [output]
  decide

end CommandLine
end Fingerprint
