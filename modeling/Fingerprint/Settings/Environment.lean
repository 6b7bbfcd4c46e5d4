import Fingerprint.Failure
import Fingerprint.Json.Reader
import Fingerprint.Text.Case

/-! # Settings from the environment

A variable of a section holds the section as JSON; variables that add a field name after two
underscores hold single fields and win over it, and further underscores nest deeper. Names of
variables and of fields count in any case. -/
set_option autoImplicit false
namespace Fingerprint.Settings.Environment

abbrev Variables := List (Text × Text)

/-- The variables by their names in small letters; the later of two with one name counts. -/
def lowered (vars : Variables) : Variables :=
  vars.foldl (fun kept (name, v) => put name.lower v kept) []
where
  put (name v : Text) : Variables → Variables
    | [] => [(name, v)]
    | (n, w) :: rest => if n = name then (n, v) :: rest else (n, w) :: put name v rest

/-- Merges a table into another: tables in both are merged in turn, and any other value of
`above` takes the place of the one below. Tables nest at most `depth` deep. -/
def mergeWithin : Nat → Entries → Entries → Entries
  | 0, below, _ => below
  | depth + 1, below, above =>
    above.foldl (fun merged (name, v) =>
      match v, name.text?.bind merged.get? with
      | .dict upper, some (.dict lower) => merged.put name (.dict (mergeWithin depth lower upper))
      | v, _ => merged.put name v) below

mutual

def depth : Value → Nat
  | .dict es => entriesDepth es + 1
  | _ => 0

def entriesDepth : List (Value × Value) → Nat
  | [] => 0
  | (_, v) :: rest => max (depth v) (entriesDepth rest)

end

def merge (below above : Entries) : Entries := mergeWithin (entriesDepth above + 1) below above

def pathOf (name : Text) : List Text :=
  go name.length name
where
  go : Nat → Text → List Text
    | 0, t => [t]
    | fuel + 1, t => match Text.splitFirst? "__" t with
      | some (part, rest) => part :: go fuel rest
      | none => [t]

/-- Sets a value at a path of tables. A path through another value leads nowhere. -/
def setAt (v : Text) : List Text → Entries → Entries
  | [], table => table
  | [name], table => table.put (.text name) (.text v)
  | name :: rest, table =>
    match table.get? name with
    | none => table.put (.text name) (.dict (setAt v rest []))
    | some (.dict inner) => table.put (.text name) (.dict (setAt v rest inner))
    | some _ => table

/-- The fields that variables beginning with `start` hold, as nested tables. -/
def nested (start : Text) (vars : Variables) : Entries :=
  vars.foldl (fun table (name, v) =>
    if name.startsWith start then setAt v (pathOf (name.drop start.length)) table else table) []

def rename (known : List Text) (table : Entries) : Entries :=
  table.foldl (fun renamed (name, v) =>
    match name.text?.bind fun t => known.find? fun k => k == t.lower with
    | some k => renamed.put (.text k) v
    | none => renamed.put name v) []

def sectionValue? (vars : Variables) (start name : Text) (known : List Text) :
    Except Error (Option Value) :=
  let whole := start ++ name
  let fields := nested (whole ++ "__") vars
  match vars.lookup whole with
  | none => .ok (if fields.isEmpty then none else some (.dict (rename known fields)))
  | some t =>
    match Json.read t with
    | .error .tooDeep => .error (.fault ⟨.other "RecursionError", []⟩)
    | .error .malformed => .error (.unparsable name)
    | .ok .null => .ok none
    | .ok (.dict table) => .ok (some (.dict (rename known (merge table fields))))
    | .ok v => .ok (some v)

def textValue? (vars : Variables) (start name : Text) : Option Value :=
  (vars.lookup (start ++ name)).map .text

end Fingerprint.Settings.Environment
