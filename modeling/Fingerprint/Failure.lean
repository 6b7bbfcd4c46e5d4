import Fingerprint.Fault

/-! # Failures

The errors that this library reports itself. A failure has a kind, a message, an ordered context
and, where a fault led to it, that fault as its cause. The kind fixes the exit status of a command
that ends with the failure, whether a caller may go on, and the named details that the context can
take. `Error` is everything that can end an operation. -/
set_option autoImplicit false
namespace Fingerprint

inductive FailureKind where
  | general
  | config
  | configFile
  | validation
  | inputType
  | unknownAlgorithm
  | duplicateAlgorithm
  | fileAccess
  | computation
deriving DecidableEq

/-- When a named detail enters the context: whenever it is given, or only when it says something. -/
inductive DetailRule where
  | given
  | nonempty
deriving DecidableEq

namespace FailureKind

def exitCode : FailureKind → Nat
  | unknownAlgorithm => 2
  | _ => 1

def isConfig : FailureKind → Bool
  | config | configFile => true
  | _ => false

def isValidation : FailureKind → Bool
  | validation | inputType | unknownAlgorithm | duplicateAlgorithm => true
  | _ => false

/-- Whether another attempt, or the next file, may succeed. -/
def recoverable : FailureKind → Bool
  | computation => false
  | kind => !kind.isValidation

def details : FailureKind → List (Text × DetailRule)
  | configFile | fileAccess => [("file_path", .nonempty)]
  | inputType => [("expected", .nonempty), ("actual", .nonempty)]
  | unknownAlgorithm => [("algorithm", .given), ("available", .given)]
  | duplicateAlgorithm | computation => [("algorithm", .given)]
  | _ => []

end FailureKind

def DetailRule.admits : DetailRule → Value → Bool
  | .nonempty, v => v.isTrue
  | .given, .null => false
  | .given, _ => true

structure Failure where
  kind : FailureKind
  message : Value
  context : Entries
  cause : Option Fault

namespace Failure

def exitCode (f : Failure) : Nat := f.kind.exitCode

def recoverable (f : Failure) : Bool := f.kind.recoverable

/-- The context with the details that its kind takes, in the order of the kind. -/
def withDetails (given : List (Text × Value)) (context : Entries) :
    List (Text × DetailRule) → Entries
  | [] => context
  | (name, rule) :: rest =>
    match given.lookup name with
    | some v =>
      withDetails given (if rule.admits v then Entries.put name v context else context) rest
    | none => withDetails given context rest

/-- A failure from its parts; a detail that the kind does not know is a malformed call. -/
def build (kind : FailureKind) (message : Value) (given : List (Text × Value)) (context : Entries)
    (cause : Option Fault) : Except Fault Failure :=
  if given.all fun d => kind.details.any fun k => k.1 == d.1 then
    .ok ⟨kind, message, withDetails given context kind.details, cause⟩
  else .error .wrongType

/-- A failure keeps the context it was given as it is, rather than a fresh one, when that context
holds something. -/
def keepsContext (context : Entries) : Bool := !context.isEmpty

def contextText (context : Entries) : Text :=
  Text.join ", " (context.map fun (k, v) => Text.concat [k.shown, "=", v.literal])

/-- Message and context in one line. Without a context only a text can be shown. -/
def text? (f : Failure) : Option Text :=
  if f.context.isEmpty then f.message.text?
  else some (Text.concat [f.message.shown, " (", contextText f.context, ")"])

def text (f : Failure) : Text := f.text?.getD []

def unknownAlgorithm (algorithm : Text) (available : List Text) : Failure :=
  ⟨.unknownAlgorithm, .text (Text.concat ["Unknown hash algorithm: ", algorithm]),
    [("algorithm", .text algorithm), ("available", .list (available.map .text))], none⟩

def duplicateAlgorithm (name : Text) : Failure :=
  ⟨.duplicateAlgorithm, .text (Text.concat ["Algorithm registered twice: ", name]),
    [("algorithm", .text name)], none⟩

def wrongInput (message expected actual : Text) (cause : Option Fault) : Failure :=
  ⟨.inputType, .text message, [("expected", .text expected), ("actual", .text actual)], cause⟩

def primitive (message algorithm : Text) (context : Entries) (cause : Option Fault) : Failure :=
  ⟨.computation, .text message, Entries.put "algorithm" (.text algorithm) context, cause⟩

/-- A file that could not be opened or read to its end; the reason is the system's own if it gives
one, else the whole text of the fault. -/
def unreadable (path : Value) (fault : Fault) : Failure :=
  let reason := match fault.reason? with
    | some reason => if reason.isTrue then reason.shown else fault.text
    | none => fault.text
  ⟨.fileAccess, .text (Text.concat ["Cannot read file: ", reason]),
    if path.isTrue then [("file_path", path)] else [], some fault⟩

def unusableConfig (message : Text) (path : Text) : Failure :=
  ⟨.configFile, .text message, if path.isEmpty then [] else [("file_path", .text path)], none⟩

end Failure

inductive Issue where
  | boolParsing
  | boolType
  | intParsing
  | intTooLong
  | intType
  | intFromFloat
  | notFinite
  | unknownChoice
  | notATable
  | textType
  | noSuchField
  | rejected (message : Text)
deriving DecidableEq

inductive Error where
  | failure (f : Failure)
  | fault (f : Fault)
  /-- Values of settings that do not fit, each with the place where it stands. -/
  | invalid (issues : List (List Text × Issue))
  /-- An environment variable that should hold a section and cannot be read. -/
  | unparsable (name : Text)

end Fingerprint
