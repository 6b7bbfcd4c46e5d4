import Fingerprint.Proofs.CommandLine.Digests
import Fingerprint.Proofs.Disk.Spelling

/-! # Reading the lines of the file command back

A line ends with a line feed, and in it the path stands two blanks behind the digest. Neither a blank
nor a line feed is a digit, so the digest and what is shown of the path are read back when the path
has no line feed (`readBack_fileLines`). Each line feed of a path begins one more line, and a path is
shown without the escape sequences in it, so no other path is read back (`readBack_eq_iff`). A path
that standard output cannot encode ends the command where its line would stand. -/
set_option autoImplicit false
namespace Fingerprint
open Fingerprint.Action Hash

namespace Text

def newline : CodePoint := '\n'

/-- The lines of a text, each without the line feed that ends it. What stands behind the last line
feed is no line. -/
def linesOf (t : Text) : List Text := (splitAt newline t).dropLast

def ofLines (lines : List Text) : Text := lines.flatMap (· ++ [newline])

theorem splitAt_ne_nil (mark : CodePoint) (t : Text) : splitAt mark t ≠ [] := by
  rw [splitAt_eq_splitOn]
  exact List.splitOnP_ne_nil _ t

theorem splitAt_piece (mark : CodePoint) (piece rest : Text) (absent : mark ∉ piece) :
    splitAt mark (piece ++ mark :: rest) = piece :: splitAt mark rest := by
  induction piece with
  | nil => rw [List.nil_append, splitAt, if_pos rfl]
  | cons c more ih =>
      obtain ⟨other, later⟩ := not_or.mp (List.mem_cons.not.mp absent)
      rw [List.cons_append, splitAt, if_neg (Ne.symm other), ih later]

theorem length_splitAt (mark : CodePoint) (t : Text) :
    (splitAt mark t).length = t.count mark + 1 := by
  induction t with
  | nil => rfl
  | cons c rest ih =>
      rw [splitAt]
      split
      next same => rw [same, List.length_cons, ih, List.count_cons_self]
      next other =>
        rw [List.count_cons_of_ne other]
        cases split : splitAt mark rest with
        | nil => exact absurd split (splitAt_ne_nil mark rest)
        | cons piece pieces =>
            rw [split] at ih
            exact ih

theorem linesOf_line (line rest : Text) (whole : newline ∉ line) :
    linesOf (line ++ newline :: rest) = line :: linesOf rest := by
  rw [linesOf, splitAt_piece newline line rest whole,
    List.dropLast_cons_of_ne_nil (splitAt_ne_nil newline rest), linesOf]

theorem length_linesOf (t : Text) : (linesOf t).length = t.count newline := by
  rw [linesOf, List.length_dropLast, length_splitAt, Nat.add_sub_cancel]

theorem splitAt_ended (mark : CodePoint) (t : Text) :
    splitAt mark (t ++ [mark]) = splitAt mark t ++ [[]] := by
  induction t with
  | nil => exact if_pos rfl
  | cons c rest ih =>
      rw [List.cons_append, splitAt, splitAt, ih]
      split
      · rfl
      · cases split : splitAt mark rest with
        | nil => exact absurd split (splitAt_ne_nil mark rest)
        | cons piece pieces => rfl

theorem ofLines_splitAt (t : Text) : ofLines (splitAt newline t) = t ++ [newline] := by
  induction t with
  | nil => rfl
  | cons c rest ih =>
      rw [splitAt]
      split
      next same =>
        rw [ofLines, List.flatMap_cons, same]
        exact congrArg (newline :: ·) ih
      next other =>
        cases split : splitAt newline rest with
        | nil => exact absurd split (splitAt_ne_nil newline rest)
        | cons piece pieces =>
            rw [split] at ih
            exact congrArg (c :: ·) ih

theorem ofLines_linesOf (t : Text) : ofLines (linesOf (t ++ [newline])) = t ++ [newline] := by
  rw [linesOf, splitAt_ended, List.dropLast_concat, ofLines_splitAt]

end Text

namespace CommandLine
open Running

def blank : CodePoint := ' '

def readLine (line : Text) : Text × Text :=
  (line.takeWhile (· != blank), (line.dropWhile (· != blank)).drop 2)

def readBack (output : Text) : List (Text × Text) := (Text.linesOf output).map readLine

def digestsOf (a : Algorithm) (files : List (Text × Bytes)) : List (Text × Text) :=
  files.map fun f => (a.hexDigest f.2, f.1)

/-- The digests of the files, each with what is shown of its path. -/
def shownOf (a : Algorithm) (files : List (Text × Bytes)) : List (Text × Text) :=
  files.map fun f => (a.hexDigest f.2, f.1.withoutSequences)

/-- A line shows the path as it is. -/
structure Legible (path : Text) : Prop where
  unbroken : Text.newline ∉ path
  noSequence : ¬ path.HasSequence

theorem legible_of_plain (path : Text) (unbroken : Text.newline ∉ path)
    (plain : CodePoint.escape ∉ path) : Legible path :=
  ⟨unbroken, path.not_hasSequence_of_noEscape plain⟩

/-! ## Lines -/

theorem fileLine_eq (digest path : Text) :
    fileLine digest path = (digest ++ blank :: blank :: path) ++ [Text.newline] := by
  unfold fileLine Text.concat
  simp only [List.flatten_cons, List.flatten_nil, List.append_assoc]
  rfl

theorem readLine_of_noBlank (digest path : Text) (absent : blank ∉ digest) :
    readLine (digest ++ blank :: blank :: path) = (digest, path) := by
  have digits : ∀ c ∈ digest, (c != blank) = true := by
    intro c member
    exact bne_iff_ne.mpr fun same => absent (same ▸ member)
  unfold readLine
  rw [List.takeWhile_append_of_pos digits, List.dropWhile_append_of_pos digits,
    List.takeWhile_cons_of_neg (by simp), List.dropWhile_cons_of_neg (by simp),
    List.append_nil]
  rfl

section
variable (a : Algorithm)

theorem noBlank_hexDigest (content : Bytes) : blank ∉ a.hexDigest content :=
  (a.isHex_hexDigest content).not_mem blank (by decide)

theorem noNewline_hexDigest (content : Bytes) : Text.newline ∉ a.hexDigest content :=
  (a.isHex_hexDigest content).not_mem Text.newline Text.lineFeed_not_hex

theorem apart_newline : Text.newline.Apart := ⟨by decide, by decide, rfl, rfl⟩

theorem count_fileLine (content : Bytes) (path : Text) :
    (fileLine (a.hexDigest content) path.withoutSequences).count Text.newline =
      path.count Text.newline + 1 := by
  have digest : (a.hexDigest content).count Text.newline = 0 :=
    List.count_eq_zero.mpr (noNewline_hexDigest a content)
  have other : blank ≠ Text.newline := by decide
  rw [fileLine_eq, List.count_append, List.count_append, digest, List.count_cons_of_ne other,
    List.count_cons_of_ne other, List.count_singleton_self, Nat.zero_add,
    Text.count_withoutSequences _ apart_newline]

theorem length_fileLines (files : List (Text × Bytes)) :
    (Text.linesOf (fileLines a files)).length =
      files.length + (files.flatMap Prod.fst).count Text.newline := by
  rw [Text.length_linesOf]
  induction files with
  | nil => rfl
  | cons f rest ih =>
      have first := count_fileLine a f.2 f.1
      simp only [fileLines_cons, List.flatMap_cons, List.count_append, List.length_cons, first, ih]
      omega

theorem readBack_fileLines (files : List (Text × Bytes))
    (unbroken : ∀ f ∈ files, Text.newline ∉ f.1) :
    readBack (fileLines a files) = shownOf a files := by
  induction files with
  | nil => rfl
  | cons f rest ih =>
      obtain ⟨first, others⟩ := List.forall_mem_cons.mp unbroken
      let line := a.hexDigest f.2 ++ blank :: blank :: f.1.withoutSequences
      have whole : Text.newline ∉ line := by
        simp only [line, List.mem_append, List.mem_cons, not_or]
        exact ⟨noNewline_hexDigest a f.2, by decide, by decide,
          (Text.mem_withoutSequences_iff _ apart_newline f.1).not.mpr first⟩
      have printed : fileLines a (f :: rest) = line ++ Text.newline :: fileLines a rest := by
        rw [fileLines_cons, fileLine_eq, List.append_assoc]
        rfl
      have read := readLine_of_noBlank (a.hexDigest f.2) f.1.withoutSequences
        (noBlank_hexDigest a f.2)
      rw [readBack, printed, Text.linesOf_line line _ whole, List.map_cons, read]
      exact congrArg _ (ih others)

theorem shownOf_eq_iff (files : List (Text × Bytes)) :
    shownOf a files = digestsOf a files ↔ ∀ f ∈ files, ¬ f.1.HasSequence := by
  unfold shownOf digestsOf
  rw [List.map_inj_left]
  refine forall₂_congr fun f _ => ?_
  rw [Prod.mk.injEq, ← Text.withoutSequences_eq_iff]
  exact and_iff_right rfl

/-- Exactly the files whose paths are shown as they are are read back. -/
theorem readBack_eq_iff (files : List (Text × Bytes)) :
    readBack (fileLines a files) = digestsOf a files ↔ ∀ f ∈ files, Legible f.1 := by
  constructor
  · intro same
    have lines := length_fileLines a files
    have kept := congrArg List.length same
    rw [readBack, digestsOf, List.length_map, List.length_map, lines] at kept
    have none : (files.flatMap Prod.fst).count Text.newline = 0 := by omega
    have unbroken : ∀ f ∈ files, Text.newline ∉ f.1 := fun f member broken =>
      List.count_eq_zero.mp none (List.mem_flatMap.mpr ⟨f, member, broken⟩)
    rw [readBack_fileLines a files unbroken, shownOf_eq_iff] at same
    exact fun f member => ⟨unbroken f member, same f member⟩
  · intro legible
    rw [readBack_fileLines a files fun f member => (legible f member).unbroken, shownOf_eq_iff]
    exact fun f member => (legible f member).noSequence

theorem ofLines_fileLines (files : List (Text × Bytes)) (some : files ≠ []) :
    Text.ofLines (Text.linesOf (fileLines a files)) = fileLines a files := by
  obtain ⟨before, last, rfl⟩ := (List.eq_nil_or_concat files).resolve_left some
  rw [fileLines, List.concat_eq_append, List.flatMap_append, List.flatMap_singleton, fileLine_eq,
    ← List.append_assoc]
  exact Text.ofLines_linesOf _

end

/-- Paths that are shown as they are are told apart, and so are their digests, even those of two
algorithms. -/
theorem eq_of_fileLines (a b : Algorithm) (files others : List (Text × Bytes))
    (legible : ∀ f ∈ files ++ others, Legible f.1)
    (same : fileLines a files = fileLines b others) : digestsOf a files = digestsOf b others := by
  obtain ⟨first, second⟩ := List.forall_mem_append.mp legible
  rw [← (readBack_eq_iff a files).mpr first, same, (readBack_eq_iff b others).mpr second]

/-! ## Paths that cannot be printed -/

section
variable (t : Terminal)

/-- Standard output takes no half of a surrogate pair, and then nothing of the text. -/
theorem runIn_print_surrogate (shown : Text) (c : CodePoint) (member : c ∈ shown)
    (half : c.isSurrogate = true) :
    ∃ run, runIn t (print shown) = (.error (.escaped (.fault (.unencodable run))), t) := by
  have written := (Text.mem_withoutSequences_iff c (c.apart_of_isSurrogate half) shown).mpr member
  cases found : Utf8.unencodable? (fun _ => false) 0 shown.withoutSequences with
  | none => cases (Utf8.unencodable?_eq_none_iff _ 0 _).mp found c written half
  | some run =>
      refine ⟨run, ?_⟩
      unfold print
      simp only [found]
      rfl

theorem digestFiles_of_surrogate (logger : Instance)
    (compute : Text → Action (Except Setback Text)) (status : Int) (path : Text) (rest : List Text)
    (s₁ : Session) (digest : Text)
    (computed : runOn t.session (compute path) = (.ok (.ok digest), s₁)) (c : CodePoint)
    (member : c ∈ path) (half : c.isSurrogate = true) :
    ∃ run, runIn t (digestFiles logger compute status (path :: rest)) =
      (.error (.escaped (.fault (.unencodable run))), { t with session := s₁ }) := by
  have inLine : c ∈ fileLine digest path := by
    rw [fileLine_eq]
    simp [member]
  obtain ⟨run, stopped⟩ := runIn_print_surrogate { t with session := s₁ } _ c inLine half
  refine ⟨run, ?_⟩
  rw [digestFiles, runIn_bind_ok _ _ _ _ _ (runIn_perform t _ _ s₁ computed)]
  exact runIn_bind_error _ _ _ _ _ stopped

end

/-- Every run that calls the command with the operands has printed the lines when it meets a text
that standard output cannot encode, and nobody meets that error. -/
def BreaksOff (s : Session) (config : Option Path) (c : Command) (operands : List Text)
    (input : Bytes) (s' : Session) (lines : Text) : Prop :=
  ∀ args rest, Calls s.host args c rest config → Spells rest operands →
    ∃ text, run s input args = (.escaped (.fault (.unencodable text)), ⟨s', input, lines⟩)

theorem breaksOff_of_carryOut (s : Session) (config : Option Path) (c : Command)
    (operands : List Text) (p : Program) (s' : Session)
    (opened : runOn s (startProgram config) = (.ok p, s')) (task : Task)
    (fits : Task.ofArguments c operands = .ok task) (input : Bytes) (s'' : Session) (lines : Text)
    (text : Utf8.Unencodable) (carried : runIn ⟨s', input, []⟩ (carryOut p task) =
      (.error (.escaped (.fault (.unencodable text))), ⟨s'', input, lines⟩)) :
    BreaksOff s config c operands input s'' lines := by
  intro args rest calls spells
  refine ⟨text, ?_⟩
  have ends : runIn ⟨s', input, []⟩ (afterOpening c rest p) =
      (.error (.escaped (.fault (.unencodable text))), ⟨s'', input, lines⟩) := by
    rw [afterOpening_of_spells _ p c rest operands spells, fits]
    exact carried
  rw [run_of_opened _ s input args c rest config calls p s' opened _ ends]
  have noInterrupt : (Fault.unencodable text).kind ≠ .fatal "KeyboardInterrupt" := nofun
  simp only [settle, if_neg noInterrupt]

theorem carryOut_files_of_surrogate (faults : List (Algorithm × Fault)) (from_ : Settings)
    (m k n : Nat) (a : Algorithm)
    (offered : a ∈ Catalog.algorithms (.bool from_.digest.extended))
    (available : faults.lookup a = none) (arg : Text) (lowered : arg.lower = a.name)
    (positive : 0 < from_.digest.chunkSize) (files : List (Text × Bytes))
    (plain : ∀ f ∈ files, ∀ c ∈ f.1, c.isSurrogate = false)
    (bad : Text × Bytes) (c : CodePoint) (member : c ∈ bad.1) (half : c.isSurrogate = true)
    (more : List Text) (t : Terminal)
    (holds : ∀ f ∈ files ++ [bad],
      (t.session.host.source f.1).Holds (.int from_.digest.chunkSize) f.2) :
    ∃ events text, runIn t (carryOut (Session.servingBy faults from_ m k n)
        (.file arg (files.map Prod.fst ++ bad.1 :: more))) =
      (.error (.escaped (.fault (.unencodable text))), { t with
        session := t.session.noting events
        output := t.output ++ fileLines a files }) := by
  let p := Session.servingBy faults from_ m k n
  have named := algorithmName_standard faults from_ m k n a offered arg lowered t .file
  obtain ⟨before, last⟩ := List.forall_mem_append.mp holds
  obtain ⟨events, printed⟩ := digestFiles_print faults from_ m k n a offered available positive
    files plain t 0 (bad.1 :: more) before
  let s₁ := t.session.noting events
  obtain ⟨later, computed⟩ := Session.runOn_file_standard faults _ a offered available s₁ m k
    from_.digest.chunkSize positive (.logger n Session.defaultLoggerName) bad.1 bad.2
    (last bad (List.mem_singleton_self bad))
  obtain ⟨text, stopped⟩ := digestFiles_of_surrogate
    { t with session := s₁, output := t.output ++ fileLines a files } p.logger (p.digest a.name) 0
    bad.1 more _ _ (p.runOn_digest s₁ _ a.name bad.1 _ computed) c member half
  refine ⟨events ++ later, text, ?_⟩
  rw [carryOut_file t _ arg _ _ named, ← Session.noting_noting]
  exact runIn_bind_error _ _ _ _ _ (printed.trans stopped)

/-- The command prints one line for each file and nothing else, and from the lines the digests and
paths are read back, as long as no path has a line feed or an escape sequence; each line feed begins
one more line. A path that standard output cannot encode ends the run behind the lines of the paths
before it. -/
theorem file_lines_read_back_unless_broken (s s₁ : Session) (config : Option Path)
    (from_ : Settings)
    (loaded : runOn s (Session.loadSettings config .null config.isSome) = (.ok from_, s₁))
    (opens : s₁.Opens from_.logging) :
    ∃ s', s.Unread s' ∧ ∀ a ∈ Catalog.algorithms (.bool from_.digest.extended),
      s.faults.lookup a = none → ∀ arg : Text, arg.lower = a.name →
      ∀ files : List (Text × Bytes), files ≠ [] →
        (∀ f ∈ files, (s'.host.source f.1).Holds (.int from_.digest.chunkSize) f.2) → ∀ input,
        let lines := fileLines a files
        ((∀ f ∈ files, ∀ c ∈ f.1, c.isSurrogate = false) → ∃ events,
          Prints s config .file (arg :: files.map Prod.fst) input (s'.noting events) lines) ∧
        (∀ printed bad more, files = printed ++ bad :: more →
          (∀ f ∈ printed, ∀ c ∈ f.1, c.isSurrogate = false) →
          (∃ c ∈ bad.1, c.isSurrogate = true) → ∃ events,
            BreaksOff s config .file (arg :: files.map Prod.fst) input (s'.noting events)
              (fileLines a printed)) ∧
        Text.ofLines (Text.linesOf lines) = lines ∧
        (Text.linesOf lines).length =
          files.length + (files.flatMap Prod.fst).count Text.newline ∧
        (readBack lines = digestsOf a files ↔ ∀ f ∈ files, Legible f.1) ∧
        ∀ b others, (∀ f ∈ files ++ others, Legible f.1) → lines = fileLines b others →
          digestsOf a files = digestsOf b others := by
  obtain ⟨positive, m, k, n, s', opened, unread⟩ :=
    Session.startProgram_serves s s₁ config from_ loaded opens
  refine ⟨s', unread, ?_⟩
  intro a offered available arg lowered files some holds input lines
  obtain ⟨first, others, rfl⟩ := List.exists_cons_of_ne_nil some
  refine ⟨?printed, ?broken, ofLines_fileLines a _ some, length_fileLines a _,
    readBack_eq_iff a _, fun b => eq_of_fileLines a b _⟩
  case printed =>
    intro plain
    obtain ⟨events, printed⟩ := carryOut_files s.faults from_ m k n a offered available arg lowered
      positive _ plain ⟨s', input, []⟩ holds
    exact ⟨events, prints_of_carryOut s config .file _ _ s' opened _ rfl input _ _ printed⟩
  case broken =>
    rintro printed bad more split plain ⟨c, member, half⟩
    rw [split] at holds
    have readable : ∀ f ∈ printed ++ [bad],
        (s'.host.source f.1).Holds (.int from_.digest.chunkSize) f.2 := by
      intro f member
      apply holds f
      rw [List.append_cons]
      exact List.mem_append_left _ member
    obtain ⟨events, text, stopped⟩ := carryOut_files_of_surrogate s.faults from_ m k n a offered
      available arg lowered positive printed plain bad c member half (more.map Prod.fst)
      ⟨s', input, []⟩ readable
    refine ⟨events, breaksOff_of_carryOut s config .file _ _ s' opened
      (.file arg ((first :: others).map Prod.fst)) rfl input _ _ text ?_⟩
    rw [split, List.map_append, List.map_cons]
    exact stopped

theorem holds_of_device (h : Host) (path : Text) (content : Bytes)
    (held : h.devices.lookup path = some (.stored content)) :
    (h.source path).Holds (.int Settings.DigestSection.default.chunkSize) content := by
  unfold Host.source
  rw [held]
  exact Source.holds_stored_int _ (by decide) (by decide) content

/-- Two files, the path of the second with a blank at its head, and one whose path is half of a
surrogate pair. -/
theorem file_lines_read_back_unless_broken_three_files :
    let half : Text := [CodePoint.ofNat 0xD800]
    let s := onDevices [("f", .stored [97]), (" g", .stored [98]), (half, .stored [])]
    let files : List (Text × Bytes) := [("f", [97]), (" g", [98])]
    (∃ s', run s [] ["file", "MD5", "f", " g"] = (.status 0, ⟨s', [], fileLines .md5 files⟩)) ∧
      readBack (fileLines .md5 files) = digestsOf .md5 files ∧
      ∃ text s', run s [] ["file", "md5", "f", half, " g"] =
        (.escaped (.fault (.unencodable text)), ⟨s', [], fileLines .md5 [("f", [97])]⟩) := by
  intro half s files
  obtain ⟨s₁, loaded, opens⟩ := loads_onDevices
    [("f", .stored [97]), (" g", .stored [98]), (half, .stored [])]
  obtain ⟨s', unread, told⟩ := file_lines_read_back_unless_broken s s₁ none _ loaded opens
  have holds (path : Text) (content : Bytes)
      (held : s.host.devices.lookup path = some (.stored content)) :
      (s'.host.source path).Holds (.int Settings.DigestSection.default.chunkSize) content := by
    apply holds_of_device
    rw [unread.devices]
    exact held
  have first := holds "f" [97] rfl
  have second := holds " g" [98] rfl
  obtain ⟨prints, -, -, -, back, -⟩ := told .md5 (by decide) rfl "MD5" (by decide) files (by decide)
    (List.forall_mem_cons.mpr ⟨first, List.forall_mem_singleton.mpr second⟩) []
  obtain ⟨-, breaks, -⟩ := told .md5 (by decide) rfl "md5" (by decide)
    [("f", [97]), (half, []), (" g", [98])] (by decide)
    (List.forall_mem_cons.mpr ⟨first, List.forall_mem_cons.mpr
      ⟨holds half [] rfl, List.forall_mem_singleton.mpr second⟩⟩) []
  have letter : ∀ c ∈ ("f" : Text), c.isSurrogate = false := List.forall_mem_singleton.mpr rfl
  have indented : ∀ c ∈ (" g" : Text), c.isSurrogate = false :=
    List.forall_mem_cons.mpr ⟨rfl, List.forall_mem_singleton.mpr rfl⟩
  obtain ⟨events, printed⟩ := prints
    (List.forall_mem_cons.mpr ⟨letter, List.forall_mem_singleton.mpr indented⟩)
  obtain ⟨later, broken⟩ := breaks [("f", [97])] (half, []) [(" g", [98])] rfl
    (List.forall_mem_singleton.mpr letter) ⟨_, List.mem_singleton_self _, rfl⟩
  have alone (arg : Text) (plain : isOption arg = false) : Spells [arg] [arg] :=
    .operand arg _ _ plain .nothing
  refine ⟨⟨_, printed _ _ (calls_plain _ .file _)
    (.operand "MD5" _ _ rfl (.operand "f" _ _ rfl (alone " g" rfl)))⟩,
    back.mpr (List.forall_mem_cons.mpr ⟨legible_of_plain "f" (by decide) (by decide),
      List.forall_mem_singleton.mpr (legible_of_plain " g" (by decide) (by decide))⟩), ?_⟩
  obtain ⟨text, ended⟩ := broken _ _ (calls_plain _ .file _)
    (.operand "md5" _ _ rfl (.operand "f" _ _ rfl (.operand half _ _ rfl (alone " g" rfl))))
  exact ⟨text, _, ended⟩

theorem prints_stored (devices : List (Text × Source)) (files : List (Text × Bytes))
    (nonempty : files ≠ []) (held : ∀ f ∈ files, devices.lookup f.1 = some (.stored f.2))
    (plain : ∀ f ∈ files, ∀ c ∈ f.1, c.isSurrogate = false) (input : Bytes) :
    ∃ s', Prints (onDevices devices) none .file ("md5" :: files.map Prod.fst) input s'
      (fileLines .md5 files) := by
  obtain ⟨s₁, loaded, opens⟩ := loads_onDevices devices
  obtain ⟨positive, m, k, n, s', opened, unread⟩ :=
    Session.startProgram_serves (onDevices devices) s₁ none _ loaded opens
  obtain ⟨first, others, rfl⟩ := List.exists_cons_of_ne_nil nonempty
  obtain ⟨events, printed⟩ := carryOut_files [] _ m k n .md5 (by decide) rfl "md5" (by decide)
    positive _ plain ⟨s', input, []⟩ fun f member => by
      apply holds_of_device
      rw [unread.devices]
      exact held f member
  exact ⟨_, prints_of_carryOut _ none .file _ _ s' opened _ rfl input _ _ printed⟩

/-- One file with a line feed in its path is printed as two files are. -/
theorem line_feed_in_path_prints_as_two_files :
    let folded : Text := "f\n" ++ Algorithm.md5.hexDigest [98] ++ "  g"
    let s := onDevices [(folded, .stored [97]), ("f", .stored [97]), ("g", .stored [98])]
    let output := (run s [] ["file", "md5", folded]).2.output
    (run s [] ["file", "md5", folded]).1 = .status 0 ∧
      (run s [] ["file", "md5", "f", "g"]).1 = .status 0 ∧
      (run s [] ["file", "md5", "f", "g"]).2.output = output ∧
      (Text.linesOf output).length = 2 ∧
      readBack output ≠ [(Algorithm.md5.hexDigest [97], folded)] := by
  intro folded s output
  let single : List (Text × Bytes) := [(folded, [97])]
  let pair : List (Text × Bytes) := [("f", [97]), ("g", [98])]
  have noEscape : CodePoint.escape ∉ folded := by
    have digits := (Algorithm.md5.isHex_hexDigest [98]).not_mem CodePoint.escape rfl
    rw [List.mem_append, List.mem_append, not_or, not_or]
    exact ⟨⟨by decide, digits⟩, by decide⟩
  have whole := (Text.withoutSequences_eq_iff folded).mpr
    (Text.not_hasSequence_of_noEscape folded noEscape)
  have same : fileLines .md5 single = fileLines .md5 pair := by
    have shown : fileLines .md5 single = fileLine (Algorithm.md5.hexDigest [97]) folded := by
      rw [fileLines, List.flatMap_singleton, whole]
    rw [shown]
    simp only [pair, folded, fileLines, List.flatMap_cons, List.flatMap_nil, fileLine,
      Text.concat, List.flatten_cons, List.flatten_nil, List.append_nil, List.append_assoc]
    rfl
  have letter (c : CodePoint) (plain : c.isSurrogate = false) : ∀ d ∈ [c], d.isSurrogate = false :=
    List.forall_mem_singleton.mpr plain
  have plain : ∀ c ∈ folded, c.isSurrogate = false := by
    have digits := (Algorithm.md5.isHex_hexDigest [98]).plain
    refine List.forall_mem_append.mpr ⟨List.forall_mem_append.mpr ⟨?_, digits⟩, ?_⟩
    · exact List.forall_mem_cons.mpr ⟨rfl, letter _ rfl⟩
    · exact List.forall_mem_cons.mpr ⟨rfl, List.forall_mem_cons.mpr ⟨rfl, letter _ rfl⟩⟩
  obtain ⟨s', first⟩ := prints_stored _ single (List.cons_ne_nil _ _)
    (List.forall_mem_singleton.mpr List.lookup_cons_self) (List.forall_mem_singleton.mpr plain) []
  obtain ⟨s'', second⟩ := prints_stored
    [(folded, .stored [97]), ("f", .stored [97]), ("g", .stored [98])] pair (List.cons_ne_nil _ _)
    (List.forall_mem_cons.mpr ⟨rfl, List.forall_mem_singleton.mpr rfl⟩)
    (List.forall_mem_cons.mpr ⟨letter _ rfl, List.forall_mem_singleton.mpr (letter _ rfl)⟩) []
  have alone (arg : Text) (plain : isOption arg = false) : Spells [arg] [arg] :=
    .operand arg _ _ plain .nothing
  have one : run s [] ["file", "md5", folded] = (.status 0, ⟨s', [], fileLines .md5 single⟩) :=
    first _ _ (calls_plain _ .file _) (.operand "md5" _ _ rfl (alone folded rfl))
  have two : run s [] ["file", "md5", "f", "g"] = (.status 0, ⟨s'', [], fileLines .md5 pair⟩) :=
    second _ _ (calls_plain _ .file _) (.operand "md5" _ _ rfl (.operand "f" _ _ rfl (alone "g" rfl)))
  have read : output = fileLines .md5 pair := by
    simp only [output, one, same]
  have back : readBack output = shownOf .md5 pair := by
    rw [read]
    exact readBack_fileLines .md5 pair (by decide)
  refine ⟨by rw [one], by rw [two], by rw [two, read], ?_, ?_⟩
  · rw [read]
    exact length_fileLines .md5 pair
  · rw [back]
    intro single
    cases congrArg List.length single

end CommandLine
end Fingerprint
