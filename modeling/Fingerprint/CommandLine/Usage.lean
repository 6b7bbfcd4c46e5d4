import Fingerprint.Text.Quoted
import Fingerprint.Text.Similar

/-! # Usage of the command line

The program has a group of three commands. This module holds what they are called, what options and
arguments they take, their help, and what is said about a command line that does not fit. -/
set_option autoImplicit false
namespace Fingerprint.CommandLine

inductive Command where
  | algorithms
  | data
  | file
deriving DecidableEq

/-- What arguments are read for: the program as a whole, or one of its commands. -/
inductive Scope where
  | program
  | command (c : Command)
deriving DecidableEq

namespace Command

def all : List Command := [algorithms, data, file]

def name : Command → Text
  | algorithms => "algorithms"
  | data => "data"
  | file => "file"

def ofName? (t : Text) : Option Command := all.find? fun c => c.name == t

end Command

def programName : Text := "digestkit"

def lines (ts : List Text) : Text := ts.flatMap fun t => t ++ "\n"

namespace Scope

def path : Scope → Text
  | program => programName
  | command c => Text.concat [programName, " ", c.name]

def usage (s : Scope) : Text :=
  Text.concat ["Usage: ", s.path, match s with
    | program => " [OPTIONS] [COMMAND] [ARGS]..."
    | command .algorithms => " [OPTIONS]"
    | command .data => " [OPTIONS] ALGORITHM [TEXT]"
    | command .file => " [OPTIONS] ALGORITHM PATHS..."]

def helpLine : Text := "  --help  Show this message and exit."

def details : Scope → List Text
  | program =>
    ["  digestkit - hex digests of data and files",
      "",
      "  Commands:",
      "      digestkit algorithms              List available algorithms",
      "      digestkit data sha256 \"text\"      Digest a string (or stdin)",
      "      digestkit file md5 a.bin b.bin    Digest files",
      "",
      "Options:",
      "  --version      Show the version and exit.",
      "  --config FILE  Config file (default: discover .digestkit/config.toml).",
      "  --help         Show this message and exit.",
      "",
      "Commands:",
      "  algorithms  List the available digest algorithms.",
      "  data        Digest TEXT, or standard input when TEXT is omitted.",
      "  file        Digest each file in PATHS."]
  | command .algorithms =>
    ["  List the available digest algorithms.",
      "",
      "Options:",
      helpLine]
  | command .data =>
    ["  Digest TEXT, or standard input when TEXT is omitted.",
      "",
      "  TEXT is hashed as UTF-8. Standard input is hashed as raw bytes.",
      "",
      "  Examples:",
      "      digestkit data sha1 \"This is a test\"",
      "      printf 'abc' | digestkit data sha256",
      "",
      "Options:",
      helpLine]
  | command .file =>
    ["  Digest each file in PATHS.",
      "",
      "  Prints one \"<digest>  <path>\" line per file. Unreadable files are reported on",
      "  stderr and make the command exit with status 1. A failure of the hash",
      "  primitive itself stops before the remaining files.",
      "",
      "  Examples:",
      "      digestkit file sha256 model.bin",
      "      digestkit file md5 *.csv",
      "",
      "Options:",
      helpLine]

def help (s : Scope) : Text := lines (s.usage :: "" :: s.details)

/-- The options in alphabetical order, with whether they take a value. -/
def options : Scope → List (Text × Bool)
  | program => [("--config", true), ("--help", false), ("--version", false)]
  | command _ => [("--help", false)]

end Scope

def versionLine : Text := "digestkit, version 0.1.0"

inductive Misuse where
  | unknownOption (name : Text) (similar : List Text)
  | valueMissing (option : Text)
  | valueUnwanted (option : Text)
  | unknownCommand (name : Text)
  | argumentMissing (name : Text)
  | argumentsLeft (args : List Text)
  | directory (path : Text)
  | unknownAlgorithm (name : Text) (available : List Text)

namespace Misuse

def suggestion : List Text → Text
  | [] => []
  | [word] => Text.concat [" Did you mean ", word.quoted, "?"]
  | words =>
    Text.concat [" (Did you mean one of: ", Text.join ", " (words.map Text.quoted), "?)"]

def text : Misuse → Text
  | unknownOption name similar =>
    Text.concat ["No such option ", name.quoted, ".", suggestion similar]
  | valueMissing option => Text.concat ["Option ", option.quoted, " requires an argument."]
  | valueUnwanted option => Text.concat ["Option ", option.quoted, " does not take a value."]
  | unknownCommand name =>
    Text.concat ["No such command ", name.quoted, ".",
      suggestion (Text.similar (Command.all.map Command.name) name)]
  | argumentMissing name => Text.concat ["Missing argument ", name.quoted, "."]
  | argumentsLeft args =>
    Text.concat ["Got unexpected extra argument", if args.length = 1 then [] else "s", " (",
      Text.join " " args, ")"]
  | directory path =>
    Text.concat ["Invalid value for '--config': File ", path.quoted, " is a directory."]
  | unknownAlgorithm name available =>
    Text.concat ["Invalid value for ALGORITHM: unknown algorithm ", name.quoted, " (available: ",
      Text.join ", " available, ")"]

/-- Whether the usage of the scope is shown with the complaint. -/
def showsUsage : Misuse → Bool
  | valueMissing _ | valueUnwanted _ => false
  | _ => true

def report (s : Scope) (m : Misuse) : Text :=
  Text.concat [if m.showsUsage then
      Text.concat [s.usage, "\nTry '", s.path, " --help' for help.\n\n"]
    else [], "Error: ", m.text, "\n"]

end Misuse
end Fingerprint.CommandLine
