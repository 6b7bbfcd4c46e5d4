import Fingerprint.CommandLine.Usage

/-! # Arguments

Splits the arguments of a scope into options and the rest. An option starts with a dash and may
carry a value behind an equals sign; two dashes alone end the options. The program stops reading
options at its first other argument, which names a command; commands read options anywhere. -/
set_option autoImplicit false
namespace Fingerprint.CommandLine

structure Arguments where
  options : List (Text × Text)
  rest : List Text
deriving DecidableEq

def isOption (arg : Text) : Bool := arg.startsWith "-" && 1 < arg.length

def splitOption (arg : Text) : Text × Option Text :=
  match Text.splitFirst? "=" arg with
  | some (name, v) => (name, some v)
  | none => (arg, none)

/-- An option of one dash is read letter by letter, and no letter is known. -/
def unknown (s : Scope) (arg name : Text) : Misuse :=
  if arg.startsWith "--" then .unknownOption name (Text.similar (s.options.map Prod.fst) name)
  else .unknownOption (arg.take 2) []

namespace Arguments

def addOption (a : Arguments) (name v : Text) : Arguments :=
  { a with options := a.options ++ [(name, v)] }

def read (s : Scope) (a : Arguments) : List Text → Except Misuse Arguments
  | [] => .ok a
  | arg :: args =>
    if arg = "--" then .ok { a with rest := a.rest ++ args }
    else if isOption arg then
      let (name, v) := splitOption arg
      match s.options.lookup name, v, args with
      | none, _, _ => .error (unknown s arg name)
      | some false, some _, _ => .error (.valueUnwanted name)
      | some false, none, args => read s (a.addOption name []) args
      | some true, some v, args => read s (a.addOption name v) args
      | some true, none, v :: args => read s (a.addOption name v) args
      | some true, none, [] => .error (.valueMissing name)
    else match s with
      | .program => .ok { a with rest := a.rest ++ arg :: args }
      | .command _ => read s { a with rest := a.rest ++ [arg] } args

def ofList (s : Scope) (args : List Text) : Except Misuse Arguments := read s ⟨[], []⟩ args

def value? (a : Arguments) (name : Text) : Option Text := a.options.reverse.lookup name

/-- What to show and end with, where an option asks for that: the first such option counts. -/
def notice? (s : Scope) (a : Arguments) : Option Text :=
  a.options.findSome? fun (name, _) =>
    if name = "--help" then some s.help
    else if name = "--version" then some (versionLine ++ "\n")
    else none

end Arguments

inductive Task where
  | algorithms
  | data (algorithm : Text) (text : Option Text)
  | file (algorithm : Text) (paths : List Text)
deriving DecidableEq

def Task.ofArguments (c : Command) (args : List Text) : Except Misuse Task :=
  match c, args with
  | .algorithms, [] => .ok .algorithms
  | .algorithms, args => .error (.argumentsLeft args)
  | .data, [] => .error (.argumentMissing "ALGORITHM")
  | .data, [algorithm] => .ok (.data algorithm none)
  | .data, [algorithm, text] => .ok (.data algorithm (some text))
  | .data, _ :: _ :: args => .error (.argumentsLeft args)
  | .file, [] => .error (.argumentMissing "ALGORITHM")
  | .file, [_] => .error (.argumentMissing "PATHS...")
  | .file, algorithm :: paths => .ok (.file algorithm paths)

def Task.ofCommandLine? (args : List Text) : Option Task :=
  match Arguments.ofList .program args with
  | .ok ⟨_, name :: args⟩ => do
    let c ← Command.ofName? name
    let a ← (Arguments.ofList (.command c) args).toOption
    (Task.ofArguments c a.rest).toOption
  | _ => none

def Task.readsInput : Task → Bool
  | .data _ none => true
  | _ => false

end Fingerprint.CommandLine
