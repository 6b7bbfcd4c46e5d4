import Fingerprint.Proofs.Settings.Readings

/-! # A source over its lifetime

A source is asked for its whole table or for a setting, any number of times and on a machine that may
be another one at each call. It reads at the first call and keeps what came of that (`ask_of_kept`,
`run_of_kept`). So every call is answered by the first reading, unless that reading ends with an
error: the first call ends with it, and the source has an empty table from then on
(`source_keeps_its_first_reading`). -/
set_option autoImplicit false
namespace Fingerprint.Settings
open Fingerprint.Diagnosed (outcome_eq runFrom_bind runFrom_pure runFrom_ofExcept)

inductive Question where
  | table
  | setting (name : Text)

def ConfigReading.answer (r : ConfigReading) : Question → Except Error Value
  | .table => .ok r.settings
  | .setting name => (r.value name).mapError Error.fault

/-- What a source keeps of its first reading. -/
def keptOf (first : Except Error ConfigReading) : ConfigReading := first.toOption.getD .nothing

structure Call where
  host : Host
  question : Question

abbrev Answer := Except Error Value × List Record

namespace ConfigSource

def ask (c : ConfigSource) (call : Call) : Answer × ConfigSource :=
  let (reading, after) := c.read call.host
  ((do Diagnosed.ofExcept ((← reading).answer call.question)).outcome, after)

def run (c : ConfigSource) : List Call → List Answer × ConfigSource
  | [] => ([], c)
  | call :: later =>
    let (answer, next) := c.ask call
    let (answers, last) := next.run later
    (answer :: answers, last)

def file (c : ConfigSource) : Option Text := c.reading.bind ConfigReading.file

def error (c : ConfigSource) : Option Text := c.reading.bind ConfigReading.error

/-! ## Calls -/

theorem ask_of_kept (c : ConfigSource) (r : ConfigReading) (kept : c.reading = some r) (call : Call) :
    c.ask call = ((r.answer call.question, []), c) := by
  unfold ask read
  rw [kept]
  dsimp only
  rw [outcome_eq, runFrom_bind, runFrom_pure]
  exact congrArg (·, c) (runFrom_ofExcept [] _)

theorem run_of_kept (c : ConfigSource) (r : ConfigReading) (kept : c.reading = some r)
    (calls : List Call) : c.run calls = (calls.map fun call => (r.answer call.question, []), c) := by
  induction calls with
  | nil => rfl
  | cons call later ih =>
      rw [run, c.ask_of_kept r kept call]
      dsimp only
      rw [ih]
      rfl

theorem ask_first (named : Option Path) (start : Value) (call : Call)
    (first : Except Error ConfigReading) (notes : List Record)
    (read : (readSettings call.host named start).outcome = (first, notes)) :
    (make named start).ask call = ((first.bind (·.answer call.question), notes),
      ⟨named, start, some (keptOf first)⟩) := by
  rw [outcome_eq] at read
  unfold ask ConfigSource.read make
  dsimp only
  rw [outcome_eq, runFrom_bind, outcome_eq, read]
  cases first with
  | ok r => exact congrArg (·, _) (runFrom_ofExcept notes _)
  | error e => rfl

theorem run_first (named : Option Path) (start : Value) (call : Call) (later : List Call)
    (first : Except Error ConfigReading) (notes : List Record)
    (read : (readSettings call.host named start).outcome = (first, notes)) :
    (make named start).run (call :: later) =
      ((first.bind (·.answer call.question), notes) ::
        later.map (fun c => ((keptOf first).answer c.question, [])),
        ⟨named, start, some (keptOf first)⟩) := by
  rw [run, ask_first named start call first notes read]
  dsimp only
  rw [run_of_kept _ (keptOf first) rfl later]

end ConfigSource

/-! ## The first reading -/

theorem warnings_of_reading (h : Host) (named : Option Path) (start : Value)
    (outcome : Except Error ConfigReading × List Record)
    (ends : ReadingEnds h named start outcome) :
    warnings outcome.2 = ((keptOf outcome.1).error.map fun reason => ⟨.warning, reason⟩).toList ∧
      ((keptOf outcome.1).file = none ∨ (keptOf outcome.1).error = none) := by
  cases ends with
  | astray e notes lost =>
      exact ⟨warnings_of_debugs notes (locate_debugs h named start _ notes lost), Or.inl rfl⟩
  | nowhere notes none =>
      exact ⟨warnings_of_debugs notes (locate_debugs h named start _ notes none), Or.inl rfl⟩
  | taken p v notes found read =>
      exact ⟨warnings_of_debugs notes (locate_debugs h named start _ notes found), Or.inr rfl⟩
  | recorded p fault reason notes found failed told =>
      exact ⟨warnings_of_recorded notes (locate_debugs h named start _ notes found) reason,
        Or.inl rfl⟩
  | escaped p f notes found failed =>
      exact ⟨warnings_of_debugs notes (locate_debugs h named start _ notes found), Or.inl rfl⟩

/-- Every call is answered by what the first reading came to. If that is an error, the first call
ends with it and the later ones are answered from an empty table. Later calls leave no records, the
file and the error stay as the first call leaves them, and the only warning is that of the error. -/
theorem source_keeps_its_first_reading (named : Option Path) (start : Value) (call : Call)
    (later : List Call) :
    let source := ConfigSource.make named start
    let first := (readSettings call.host named start).outcome
    let answers := (source.run (call :: later)).1
    let last := (source.run (call :: later)).2
    (∀ r, first.1 = .ok r →
      answers.map Prod.fst = (call :: later).map fun c => r.answer c.question) ∧
    (∀ e, first.1 = .error e →
      answers.map Prod.fst = .error e :: later.map fun c => ConfigReading.nothing.answer c.question) ∧
    answers.map Prod.snd = first.2 :: later.map (fun _ => []) ∧
    (source.file = none ∧ source.error = none) ∧
    (last.file = (keptOf first.1).file ∧ last.error = (keptOf first.1).error) ∧
    (last.file = none ∨ last.error = none) ∧
    warnings (answers.flatMap Prod.snd) =
      (last.error.map fun reason => ⟨.warning, reason⟩).toList := by
  intro source first answers last
  have ran : source.run (call :: later) = _ :=
    ConfigSource.run_first named start call later first.1 first.2 rfl
  have answered : answers = _ := congrArg Prod.fst ran
  have left : last = _ := congrArg Prod.snd ran
  obtain ⟨warned, apart⟩ :=
    warnings_of_reading call.host named start first (reading_ends call.host named start)
  have quiet : (later.map fun c => ((keptOf first.1).answer c.question, ([] : List Record))).flatMap
      Prod.snd = [] := by simp
  rw [answered, left]
  refine ⟨fun r ended => ?_, fun e ended => ?_, ?_, ⟨rfl, rfl⟩, ⟨rfl, rfl⟩, apart, ?_⟩
  · rw [ended, List.map_cons, List.map_map]
    rfl
  · rw [ended, List.map_cons, List.map_map]
    rfl
  · rw [List.map_cons, List.map_map]
    rfl
  · rw [List.flatMap_cons, quiet, List.append_nil]
    exact warned

/-- The file holds a setting at the first call, is no UTF-8 at the second, and is gone at the third. -/
theorem source_keeps_its_first_reading_of_changing_file :
    let p : Path := .ofText "/c"
    let holding (content : Bytes) : Host := onFiles [([Disk.nameBytes "c"], .file content)]
    let source := ConfigSource.make (some p) .null
    let first : Call := ⟨holding (Disk.nameBytes "a=1"), .table⟩
    let later : List Call := [⟨holding [0xFF], .setting "a"⟩, ⟨onFiles [], .setting "b"⟩]
    let es : Entries := [(.text "a", .int 1)]
    (readSettings first.host (some p) .null).outcome.1 = .ok ⟨.dict es, some p.text, none⟩ ∧
      (source.run (first :: later)).1.map Prod.fst = [.ok (.dict es), .ok (.int 1), .ok .null] := by
  intro p holding source first later es
  have decoded : Utf8.decode? (Disk.nameBytes "a=1") = some ("a=1" : Text) :=
    Utf8.decode?_ascii _ (by decide)
  have gives : Gives p.name (Disk.nameBytes "a=1") (.dict es) :=
    .whole (by decide) es ⟨_, decoded, rfl⟩
  have given := readConfig_of_gives first.host p (Disk.nameBytes "a=1") rfl (.dict es) gives
  have read : (readSettings first.host (some p) .null).outcome.1 =
      .ok ⟨.dict es, some p.text, none⟩ :=
    congrArg Prod.fst (readSettings_of_ok first.host .null p [] _ given)
  exact ⟨read, (source_keeps_its_first_reading (some p) .null first later).1 _ read⟩

/-- A file that is no UTF-8 ends the first call with an error that is not recorded. The second call
gives an empty table, though the file is still the same. -/
theorem source_forgets_failure_of_first_call :
    let own : Location := [Disk.nameBytes ".digestkit"]
    let h := onFiles [(own, .directory), (own ++ [Disk.nameBytes "config.toml"], .file [0xFF])]
    let ran := (ConfigSource.make none .null).run [⟨h, .table⟩, ⟨h, .table⟩]
    ran.1 = [(.error (.fault .undecodable), []), (.ok (.dict []), [])] ∧
      ran.2.file = none ∧ ran.2.error = none := by
  intro own h ran
  have broken : Utf8.decode? [0xFF] = none := by
    rw [Utf8.decode?, Utf8.scan_single]
    rfl
  have failed := readConfig_of_undecodable h (configPath (.ofText "/")) [0xFF] rfl broken
  have searched : (findConfig h .null).runFrom [] = (.ok (some (configPath (.ofText "/"))), []) := rfl
  have first : (readSettings h none .null).outcome = (.error (.fault .undecodable), []) := by
    rw [outcome_eq, readSettings_searched, runFrom_bind, searched]
    exact readSettings_of_escaping h .null _ [] _ failed
  have run : ran = _ := ConfigSource.run_first none .null ⟨h, .table⟩ [⟨h, .table⟩] _ _ first
  rw [run]
  exact ⟨rfl, rfl, rfl⟩

end Fingerprint.Settings
