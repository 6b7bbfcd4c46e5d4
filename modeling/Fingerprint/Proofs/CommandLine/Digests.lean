import Fingerprint.Proofs.CommandLine.FileCommand
import Fingerprint.Proofs.CommandLine.Operands
import Fingerprint.Proofs.Session.DataContent

/-! # Digests on the command line

Once the program is open, a command prints the digest that the library gives: that of its text, else
of standard input (`digestData_prints`), and one line for each file that can be read
(`digestFiles_print`). A name in any case is looked up in the catalog first, and a command whose
algorithm is not there says so and ends before it reads anything (`carryOut_unknown`). Operands that
look like options are only taken for operands behind two dashes. -/
set_option autoImplicit false
namespace Fingerprint
open Fingerprint.Action Hash

namespace Session

theorem runOn_file_standard (faults : List (Algorithm × Fault)) (extended : Value) (a : Algorithm)
    (offered : a ∈ Catalog.algorithms extended) (available : faults.lookup a = none) (s : Session)
    (serial k : Nat) (size : Int) (positive : 1 ≤ size) (logger : Instance) (path : Text)
    (content : Bytes) (holds : (s.host.source path).Holds (.int size) content) :
    ∃ events, runOn s (computeFile (.service serial (.int size)
        (.catalog k (Catalog.standard faults extended)) logger) (.text a.name) (.text path)) =
      (.ok (a.hexDigest content), s.noting events) := by
  let read := (⟨Catalog.standard faults extended, .int size⟩ : Service Hasher).computeFile
    s.host.source (.text a.name) (.text path)
  have computed : read.1 = .ok (a.hexDigest content) :=
    Service.computeFile_standard faults extended a offered available content size positive
      s.host.source (.text path) path rfl holds
  refine ⟨read.2, ?_⟩
  rw [← computed]
  exact runOn_ofExcept (s.noting read.2) read.1

end Session

namespace CommandLine
open Running

section
variable (t : Terminal)

theorem runIn_refuse {α : Type} (scope : Scope) (m : Misuse) :
    runIn t (refuse scope m : Running α) = (.error (.status 2), t.told (m.report scope)) := rfl

/-! ## The algorithm -/

variable (p : Program) (c : Command) (arg : Text)

theorem algorithmName_unknown (unknown : arg.lower ∉ p.catalog.names) :
    runIn t (algorithmName p c arg) = (.error (.status 2),
      t.told ((Misuse.unknownAlgorithm arg p.catalog.names).report (.command c))) := by
  unfold algorithmName
  rw [p.catalog.find?_eq_none_of_absent _ unknown]
  rfl

variable (more : List Text)

theorem carryOut_unknown (unknown : arg.lower ∉ p.catalog.names) (digests : c ≠ .algorithms)
    (task : Task) (fits : Task.ofArguments c (arg :: more) = .ok task) :
    runIn t (carryOut p task) = (.error (.status 2),
      t.told ((Misuse.unknownAlgorithm arg p.catalog.names).report (.command c))) := by
  have refused := algorithmName_unknown t p c arg unknown
  cases c with
  | algorithms => exact absurd rfl digests
  | data =>
      have ends (text : Option Text) := runIn_bind_error t _ _ (digestData p · text) _ refused
      rcases more with _ | ⟨text, _ | ⟨_, _⟩⟩
      · cases fits
        exact ends none
      · cases fits
        exact ends (some text)
      · cases fits
  | file =>
      cases more with
      | nil => cases fits
      | cons path paths =>
          cases fits
          exact runIn_bind_error t _ _ _ _ refused

/-- What a command says where it does not know the algorithm: too few or too many operands come
first. -/
def complaint : Misuse :=
  match Task.ofArguments c (arg :: more) with
  | .error m => m
  | .ok _ => .unknownAlgorithm arg p.catalog.names

theorem afterOpening_of_spells (rest operands : List Text) (spells : Spells rest operands) :
    runIn t (afterOpening c rest p) = runIn t (match Task.ofArguments c operands with
      | .error m => refuse (.command c) m
      | .ok task => carryOut p task) := by
  unfold afterOpening
  exact runIn_bind_ok _ _ _ _ _ (readArguments_of_spells t c rest operands spells)

theorem afterOpening_unknown (unknown : arg.lower ∉ p.catalog.names) (digests : c ≠ .algorithms)
    (rest : List Text) (spells : Spells rest (arg :: more)) :
    runIn t (afterOpening c rest p) =
      (.error (.status 2), t.told ((complaint p c arg more).report (.command c))) := by
  rw [afterOpening_of_spells t p c rest _ spells]
  unfold complaint
  cases fits : Task.ofArguments c (arg :: more) with
  | error m => exact runIn_refuse t _ m
  | ok task => exact carryOut_unknown t p c arg more unknown digests task fits

end

/-! ## The digests -/

theorem withoutSequences_fileLine (digest path : Text) (plain : CodePoint.escape ∉ digest) :
    (fileLine digest path).withoutSequences = fileLine digest path.withoutSequences := by
  let feed : CodePoint := '\n'
  have apart : feed.Apart := ⟨by decide, by decide, rfl, rfl⟩
  have start : CodePoint.escape ∉ digest ++ ("  " : Text) := by
    rw [List.mem_append, not_or]
    exact ⟨plain, by decide⟩
  have parts (t : Text) : fileLine digest t = (digest ++ ("  " : Text)) ++ (t ++ feed :: []) := by
    simp only [fileLine, Text.concat, List.flatten_cons, List.flatten_nil, List.append_assoc]
    rfl
  rw [parts, parts, Text.withoutSequences_append_plain _ _ start,
    Text.withoutSequences_append_apart _ apart]
  rfl

def fileLines (a : Algorithm) (files : List (Text × Bytes)) : Text :=
  files.flatMap fun f => fileLine (a.hexDigest f.2) f.1.withoutSequences

theorem fileLines_cons (a : Algorithm) (f : Text × Bytes) (rest : List (Text × Bytes)) :
    fileLines a (f :: rest) =
      fileLine (a.hexDigest f.2) f.1.withoutSequences ++ fileLines a rest := List.flatMap_cons

/-- What the data command hashes: its text, else standard input. -/
def subject (input : Bytes) : Option Text → Value
  | some text => .text text
  | none => .bytes input

def contentOf? (input : Bytes) : Option Text → Option Bytes
  | some text => Utf8.encode? text
  | none => some input

theorem message_subject (input : Bytes) (text : Option Text) (b : Bytes)
    (content : contentOf? input text = some b) :
    Input.data (subject input text) = .ok (.bytes b) := by
  cases text with
  | none =>
      cases content
      rfl
  | some text =>
      have encoded : Utf8.encode? text = some b := content
      simp only [subject, Input.data, encoded]

section
variable (t : Terminal) (p : Program) (name digest : Text)

theorem digestData_of_computed (text : Option Text)
    (computed : runOn t.session (Session.computeData p.service (.text name) (subject t.input text)) =
      (.ok digest, t.session)) {length : Int} (hex : digest.IsHex length) :
    runIn t (digestData p name text) =
      (.ok (), { t with output := t.output ++ (digest ++ "\n") }) := by
  have attempted := runIn_attempt t t.session _ _ computed
  have line : ∀ c ∈ digest ++ "\n", c.isSurrogate = false :=
    List.forall_mem_append.mpr ⟨hex.plain, List.forall_mem_singleton.mpr rfl⟩
  have printed := runIn_print t _ line
  rw [Text.withoutSequences_append_plain digest "\n" (hex.not_mem _ rfl)] at printed
  unfold digestData
  refine (runIn_bind_ok t t get _ t rfl).trans ?_
  cases text with
  | none =>
      refine (runIn_bind_ok t _ _ _ _ attempted).trans ?_
      exact printed
  | some text =>
      refine (runIn_bind_ok t _ _ _ _ attempted).trans ?_
      exact printed

end

section
variable (faults : List (Algorithm × Fault)) (from_ : Settings) (m k n : Nat) (a : Algorithm)
  (offered : a ∈ Catalog.algorithms (.bool from_.digest.extended))
  (available : faults.lookup a = none)
include offered available

theorem hashData_serving (s : Session) (b : Bytes) :
    runOn s (Session.hashData (Session.servingBy faults from_ m k n).service (.text a.name)
      (.bytes b)) = (.ok (some (a.hexDigest b)), s) :=
  (Session.runOn_data_standard faults _ a offered s m k (.int from_.digest.chunkSize)
    (.logger n Session.defaultLoggerName) (.bytes b) _
    (Descriptor.computeData_standard faults a available b)).2

theorem digestData_prints (t : Terminal) (text : Option Text) (b : Bytes)
    (content : contentOf? t.input text = some b) :
    runIn t (digestData (Session.servingBy faults from_ m k n) a.name text) =
      (.ok (), { t with output := t.output ++ (a.hexDigest b ++ "\n") }) := by
  have taken := message_subject t.input text b content
  have computed := (Session.runOn_data_standard faults _ a offered t.session m k
    (.int from_.digest.chunkSize) (.logger n Session.defaultLoggerName) (subject t.input text) _
    (Descriptor.computeData_of_message faults a available _ _ b taken rfl)).1
  exact digestData_of_computed t _ _ _ text computed (a.isHex_hexDigest b)

variable (arg : Text) (lowered : arg.lower = a.name)

omit available in
include lowered in
theorem algorithmName_standard (t : Terminal) (c : Command) :
    runIn t (algorithmName (Session.servingBy faults from_ m k n) c arg) = (.ok a.name, t) := by
  have found : (Session.servingBy faults from_ m k n).catalog.find? arg.lower =
      some (.standard faults a) := by
    rw [lowered]
    exact Catalog.find?_standard faults _ a offered
  rw [algorithmName_found t _ c arg _ found, Descriptor.standard_name]

include lowered in
theorem carryOut_data (t : Terminal) (text : Option Text) (b : Bytes)
    (content : contentOf? t.input text = some b) :
    runIn t (carryOut (Session.servingBy faults from_ m k n) (.data arg text)) =
      (.ok (), { t with output := t.output ++ (a.hexDigest b ++ "\n") }) := by
  have named := algorithmName_standard faults from_ m k n a offered arg lowered t .data
  unfold carryOut
  rw [runIn_bind_ok _ _ _ _ _ named]
  exact digestData_prints faults from_ m k n a offered available t text b content

variable (positive : 0 < from_.digest.chunkSize) (files : List (Text × Bytes))
  (plain : ∀ f ∈ files, ∀ c ∈ f.1, c.isSurrogate = false)
include positive plain

theorem digestFiles_print (t : Terminal) (status : Int) (more : List Text)
    (holds : ∀ f ∈ files, (t.session.host.source f.1).Holds (.int from_.digest.chunkSize) f.2) :
    let p := Session.servingBy faults from_ m k n
    ∃ events, runIn t (digestFiles p.logger (p.digest a.name) status
        (files.map Prod.fst ++ more)) = runIn { t with
          session := t.session.noting events
          output := t.output ++ fileLines a files }
        (digestFiles p.logger (p.digest a.name) status more) := by
  intro p
  induction files generalizing t with
  | nil =>
      refine ⟨[], ?_⟩
      rw [fileLines, List.flatMap_nil, List.append_nil, Session.noting_nil]
      rfl
  | cons f rest ih =>
      obtain ⟨events, computed⟩ := Session.runOn_file_standard faults _ a offered available t.session
        m k from_.digest.chunkSize positive (.logger n Session.defaultLoggerName) f.1 f.2
        (holds f List.mem_cons_self)
      have hex := a.isHex_hexDigest f.2
      have step := digestFiles_of_digest t p.logger (p.digest a.name) status f.1
        (rest.map Prod.fst ++ more) _ _ (p.runOn_digest t.session _ a.name f.1 _ computed)
        hex.plain (plain f List.mem_cons_self)
      rw [withoutSequences_fileLine _ f.1 (hex.not_mem _ rfl)] at step
      obtain ⟨later, run⟩ := ih (fun g member => plain g (List.mem_cons_of_mem _ member))
        { t with
          session := t.session.noting events
          output := t.output ++ fileLine (a.hexDigest f.2) f.1.withoutSequences }
        fun g member => holds g (List.mem_cons_of_mem _ member)
      refine ⟨events ++ later, ?_⟩
      rw [List.map_cons, List.cons_append, step, run, Session.noting_noting, fileLines_cons,
        List.append_assoc]

include lowered in
theorem carryOut_files (t : Terminal)
    (holds : ∀ f ∈ files, (t.session.host.source f.1).Holds (.int from_.digest.chunkSize) f.2) :
    ∃ events, runIn t (carryOut (Session.servingBy faults from_ m k n)
        (.file arg (files.map Prod.fst))) =
      (.ok (), { t with
        session := t.session.noting events
        output := t.output ++ fileLines a files }) := by
  have named := algorithmName_standard faults from_ m k n a offered arg lowered t .file
  obtain ⟨events, printed⟩ := digestFiles_print faults from_ m k n a offered available positive files
    plain t 0 [] holds
  rw [List.append_nil] at printed
  refine ⟨events, ?_⟩
  rw [carryOut_file t _ arg _ _ named]
  exact runIn_bind_ok _ _ _ _ _ printed

end

/-! ## Runs -/

section
variable (s : Session) (config : Option Path) (c : Command) (operands : List Text)

/-- Every run that calls the command with the operands prints the line, leaves the session and has
status zero. -/
def Prints (input : Bytes) (s' : Session) (line : Text) : Prop :=
  ∀ args rest, Calls s.host args c rest config → Spells rest operands →
    run s input args = (.status 0, ⟨s', input, line⟩)

/-- Every run that calls the command with the operands has status two, whatever standard input
holds, and only says on standard error what does not fit. -/
def Refuses (s' : Session) : Prop :=
  ∃ m : Misuse, ∀ args rest input, Calls s.host args c rest config → Spells rest operands →
    run s input args = (.status 2, (Terminal.mk s' input []).told (m.report (.command c)))

variable (p : Program) (s' : Session)
  (opened : runOn s (startProgram config) = (.ok p, s'))
include opened

theorem prints_of_carryOut (task : Task) (fits : Task.ofArguments c operands = .ok task)
    (input : Bytes) (s'' : Session) (line : Text)
    (carried : runIn ⟨s', input, []⟩ (carryOut p task) = (.ok (), ⟨s'', input, line⟩)) :
    Prints s config c operands input s'' line := by
  intro args rest calls spells
  have ends : runIn ⟨s', input, []⟩ (afterOpening c rest p) = (.ok (), ⟨s'', input, line⟩) := by
    rw [afterOpening_of_spells _ p c rest operands spells, fits]
    exact carried
  exact run_of_opened _ s input args c rest config calls p s' opened _ ends

theorem refuses_of_unknown (arg : Text) (unknown : arg.lower ∉ p.catalog.names)
    (digests : c ≠ .algorithms) (more : List Text) : Refuses s config c (arg :: more) s' := by
  refine ⟨complaint p c arg more, fun args rest input calls spells => ?_⟩
  exact run_of_opened _ s input args c rest config calls p s' opened _
    (afterOpening_unknown _ p c arg more unknown digests rest spells)

end

/-- The library and the commands for data and files give one digest, for every algorithm of the
catalog in any case and every content; the path of a file follows its digest without the escape
sequences in it. For an algorithm that is not there the commands end with status two and touch neither
standard input nor any file. Operands that look like options have to stand behind two dashes, which
the algorithms of the catalog never need. -/
theorem commands_agree_with_library_on_operands (s s₁ : Session) (config : Option Path)
    (from_ : Settings)
    (loaded : runOn s (Session.loadSettings config .null config.isSome) = (.ok from_, s₁))
    (opens : s₁.Opens from_.logging) :
    ∃ program s', runOn s (startProgram config) = (.ok program, s') ∧ s.Unread s' ∧
      program.catalog = Catalog.standard s.faults (.bool from_.digest.extended) ∧
      (∀ a ∈ Catalog.algorithms (.bool from_.digest.extended), s.faults.lookup a = none →
        ∀ arg : Text, arg.lower = a.name → isOption arg = false ∧ ∀ b input : Bytes,
          let digest := a.hexDigest b
          runOn s' (Session.hashData program.service (.text a.name) (.bytes b)) =
            (.ok (some digest), s') ∧
          Prints s config .data [arg] b s' (digest ++ "\n") ∧
          (∀ t : Text, Utf8.encode? t = some b →
            Prints s config .data [arg, t] input s' (digest ++ "\n")) ∧
          ∀ path : Text, let size : Value := .int from_.digest.chunkSize
            (s'.host.source path = .stored b → from_.digest.chunkSize < Source.readLimit →
              (s'.host.source path).Holds size b) ∧
            ((∀ c ∈ path, c.isSurrogate = false) → (s'.host.source path).Holds size b →
              ∃ events, Prints s config .file [arg, path] input (s'.noting events)
                (fileLine digest path.withoutSequences))) ∧
      ∀ arg : Text, arg.lower ∉ program.catalog.names → ∀ c ∈ [Command.data, .file],
        ∀ more : List Text, Refuses s config c (arg :: more) s' := by
  obtain ⟨positive, m, k, n, s', opened, unread⟩ :=
    Session.startProgram_serves s s₁ config from_ loaded opens
  let p := Session.servingBy s.faults from_ m k n
  refine ⟨p, s', opened, unread, rfl, ?_, ?_⟩
  · intro a offered available arg lowered
    have plain := isOption_of_lower arg a.name lowered (not_startsWith_dash_name a)
    refine ⟨plain, fun b input => ⟨?_, ?_, ?_, ?_⟩⟩
    · exact hashData_serving s.faults from_ m k n a offered available s' b
    · apply prints_of_carryOut s config .data _ p s' opened (.data arg none) rfl b
      exact carryOut_data s.faults from_ m k n a offered available arg lowered ⟨s', b, []⟩ none b rfl
    · intro t encoded
      apply prints_of_carryOut s config .data _ p s' opened (.data arg (some t)) rfl input
      exact carryOut_data s.faults from_ m k n a offered available arg lowered ⟨s', input, []⟩
        (some t) b encoded
    · intro path size
      refine ⟨fun stored fits => ?_, fun plain holds => ?_⟩
      · rw [stored]
        exact Source.holds_stored_int from_.digest.chunkSize positive fits b
      obtain ⟨events, printed⟩ := carryOut_files s.faults from_ m k n a offered available arg lowered
        positive [(path, b)] (List.forall_mem_singleton.mpr plain) ⟨s', input, []⟩
        (List.forall_mem_singleton.mpr holds)
      rw [fileLines, List.flatMap_singleton] at printed
      refine ⟨events, ?_⟩
      apply prints_of_carryOut s config .file _ p s' opened (.file arg [path]) rfl input
      exact printed
  · intro arg unknown c member more
    have digests : c ≠ .algorithms := by
      rintro rfl
      simp at member
    exact refuses_of_unknown s config c p s' opened arg unknown digests more

def onDevices (devices : List (Text × Source)) : Session :=
  Session.onHost ⟨.empty, .ofText "/", [], devices⟩ (.ofText "/") "clock"

theorem loads_onDevices (devices : List (Text × Source)) :
    ∃ s₁, runOn (onDevices devices) (Session.loadSettings none .null false) =
      (.ok ⟨.default, .default, none, none⟩, s₁) ∧ s₁.Opens .default :=
  ⟨_, rfl, Session.opens_of_no_file _ _ rfl⟩

/-- Three bytes as standard input, as a text and as a device in two pieces, and an algorithm that is
not there. -/
theorem commands_agree_with_library_on_operands_three_bytes :
    let source : Source := .scripted [.data (.bytes [97]), .data (.bytes [98, 99])]
    let s := onDevices [("f", source)]
    let digest := Algorithm.md5.hexDigest [97, 98, 99]
    ∃ s', run s [97, 98, 99] ["data", "MD5"] = (.status 0, ⟨s', [97, 98, 99], digest ++ "\n"⟩) ∧
      run s [] ["data", "Md5", "--", "abc"] = (.status 0, ⟨s', [], digest ++ "\n"⟩) ∧
      (∃ events, run s [] ["file", "md5", "f"] =
        (.status 0, ⟨s'.noting events, [], fileLine digest "f"⟩)) ∧
      ∃ m : Misuse, ∀ input, run s input ["data", "no"] =
        (.status 2, (Terminal.mk s' input []).told (m.report (.command .data))) := by
  intro source s digest
  obtain ⟨s₁, loaded, opens⟩ := loads_onDevices [("f", source)]
  obtain ⟨program, s', -, unread, catalog, known, unknown⟩ :=
    commands_agree_with_library_on_operands s s₁ none _ loaded opens
  have delivered : Delivers [.data (.bytes [97]), .data (.bytes [98, 99])] [97, 98, 99] :=
    .piece (.bytes [97]) [97] _ _ rfl (by decide)
      (.piece (.bytes [98, 99]) [98, 99] _ _ rfl (by decide) .exhausted)
  have holds (size : Value) : (s'.host.source "f").Holds size [97, 98, 99] := by
    unfold Host.source
    rw [unread.devices]
    exact ⟨nofun, delivered⟩
  have agree (arg : Text) (lowered : arg.lower = Algorithm.md5.name) :=
    (known .md5 (by decide) rfl arg lowered).2 [97, 98, 99] []
  have alone (arg : Text) (plain : isOption arg = false) : Spells [arg] [arg] :=
    .operand arg _ _ plain .nothing
  obtain ⟨-, fromInput, -⟩ := agree "MD5" (by decide)
  obtain ⟨-, -, fromText, -⟩ := agree "Md5" (by decide)
  obtain ⟨-, -, -, fromFile⟩ := agree "md5" (by decide)
  obtain ⟨events, prints⟩ := (fromFile "f").2 (List.forall_mem_singleton.mpr rfl) (holds _)
  obtain ⟨m, refuses⟩ := unknown "no" (by rw [catalog]; decide) .data (by decide) []
  refine ⟨s', ?_, ?_, ⟨events, ?_⟩, m, fun input => ?_⟩
  · exact fromInput _ _ (calls_plain _ .data _) (alone "MD5" rfl)
  · exact fromText "abc" rfl _ _ (calls_plain _ .data _) (.operand "Md5" _ _ rfl (.verbatim ["abc"]))
  · exact prints _ _ (calls_plain _ .file _) (.operand "md5" _ _ rfl (alone "f" rfl))
  · exact refuses _ _ input (calls_plain _ .data _) (alone "no" rfl)

/-- A text that begins with a dash ends the run with status two, though the library has its
digest. -/
theorem option_like_text_is_not_hashed :
    let s := onDevices []
    let t : Text := "-x"
    Text.lower "md5" = Algorithm.md5.name ∧ Utf8.encode? t = some [0x2D, 0x78] ∧
      (∃ program s', runOn s (startProgram none) = (.ok program, s') ∧
        runOn s' (Session.hashData program.service (.text "md5") (.bytes [0x2D, 0x78])) =
          (.ok (some (Algorithm.md5.hexDigest [0x2D, 0x78])), s')) ∧
      ∃ s'', run s [] ["data", "md5", t] = (.status 2, ⟨s'', [], []⟩) := by
  intro s t
  obtain ⟨s₁, loaded, opens⟩ := loads_onDevices []
  obtain ⟨-, m, k, n, s', opened, -⟩ := Session.startProgram_serves s s₁ none _ loaded opens
  let p := Session.servingBy [] ⟨.default, .default, none, none⟩ m k n
  have hashed := hashData_serving [] ⟨.default, .default, none, none⟩ m k n .md5 (by decide) rfl s'
    [0x2D, 0x78]
  refine ⟨by decide, rfl, ⟨p, s', opened, hashed⟩, ?_⟩
  have refused : runIn ⟨s', [], []⟩ (afterOpening .data ["md5", t] p) =
      (.error (.status 2), (Terminal.mk s' [] []).told
        ((Misuse.unknownOption t []).report (.command .data))) := rfl
  have calls := calls_plain s.host .data ["md5", t]
  exact ⟨_, run_of_opened _ s [] _ .data _ none calls p s' opened _ refused⟩

end CommandLine
end Fingerprint
