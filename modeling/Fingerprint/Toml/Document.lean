import Fingerprint.Text.Utf8
import Fingerprint.Toml.Key
import Fingerprint.Toml.Scalar
import Fingerprint.Toml.Table

/-! # TOML documents

A document is read line by line into a table: headers open tables, and keys bind values in the
table that was opened last. Arrays and inline tables nest up to a fixed depth. -/
set_option autoImplicit false
namespace Fingerprint.Toml

abbrev ValueReader := Text → Except Refusal (Value × Text)

def arrayWithin (item : ValueReader) : Nat → List Value → ValueReader
  | 0, _, t => refuse t
  | fuel + 1, taken, t => do
    let t ← skipLines t
    match t with
    | [] => refuse t
    | c :: rest =>
      if c = ']' then return (.list taken.reverse, rest)
      let (v, t) ← item t
      let t ← skipLines t
      match t with
      | [] => refuse t
      | c :: rest =>
        if c = ']' then return (.list (v :: taken).reverse, rest)
        else if c = ',' then arrayWithin item fuel (v :: taken) rest
        else refuse t

def keyValue (item : ValueReader) (t : Text) :
    Except Refusal ((KeyPath × Value) × Text) := do
  let (path, t) ← key t
  match t with
  | [] => refuse t
  | c :: rest =>
    if c = '=' then do
      let (v, t) ← item (skipBlanks rest)
      return ((path, v), t)
    else refuse t

def inlineWithin (item : ValueReader) : Nat → InlineTree → ValueReader
  | 0, _, t => refuse t
  | fuel + 1, tree, t => do
    let ((path, v), t) ← keyValue item (skipBlanks t)
    match tree.bind? path v with
    | none => refuse t
    | some tree =>
      match skipBlanks t with
      | [] => refuse t
      | c :: rest =>
        if c = '}' then return (.dict tree.root, rest)
        else if c = ',' then inlineWithin item fuel tree rest
        else refuse t

def inlineTable (item : ValueReader) (t : Text) : Except Refusal (Value × Text) :=
  match skipBlanks t with
  | [] => refuse t
  | c :: rest =>
    if c = '}' then .ok (.dict [], rest) else inlineWithin item t.length ⟨[], []⟩ t

def depthLimit : Nat := 484

/-- A value; arrays and inline tables nest at most `depth` deep. -/
def value : Nat → ValueReader
  | 0, _ => .error .tooDeep
  | depth + 1, t =>
    match t with
    | [] => refuse t
    | c :: rest =>
      if c = '"' || c = '\'' then do
        let (content, rest) ← stringAfter c rest
        return (.text content, rest)
      else if c = '[' then arrayWithin (value depth) t.length [] rest
      else if c = '{' then inlineTable (value depth) rest
      else scalar t

/-- A document while it is read: the tables, and the path that the last header opened. -/
structure Progress where
  tree : Tree
  header : KeyPath

def header (p : Progress) (t : Text) : Except Refusal (Progress × Text) := do
  let isItem := t.startsWith "[["
  let (path, rest) ← key (skipBlanks (t.drop (if isItem then 2 else 1)))
  let tree := p.tree.settle
  match if isItem then tree.openItem? path else tree.openTable? path with
  | none => refuse rest
  | some tree =>
    let close : Text := if isItem then "]]" else "]"
    if rest.startsWith close then return (⟨tree, path⟩, rest.drop close.length) else refuse rest

def statement (p : Progress) (t : Text) : Except Refusal (Progress × Text) :=
  match t with
  | [] => .ok (p, t)
  | c :: _ =>
    if isBare c || c = '"' || c = '\'' then do
      let ((path, v), rest) ← keyValue (value depthLimit) t
      match p.tree.bind? p.header path v with
      | some tree => return (⟨tree, p.header⟩, skipBlanks rest)
      | none => refuse rest
    else if c = '[' then do
      let (p, rest) ← header p t
      return (p, skipBlanks rest)
    else if c = '#' || c = '\n' then .ok (p, t)
    else refuse t

def linesWithin : Nat → Progress → Text → Except Refusal Entries
  | 0, _, t => refuse t
  | fuel + 1, p, t => do
    let (p, t) ← statement p (skipBlanks t)
    match ← skipComment t with
    | [] => return p.tree.root
    | c :: rest => if c = '\n' then linesWithin fuel p rest else refuse (c :: rest)

/-- A carriage return before a line feed does not count. -/
def unifyBreaks : Text → Text
  | [] => []
  | [c] => [c]
  | c :: d :: rest =>
    if c = '\r' && d = '\n' then unifyBreaks (d :: rest) else c :: unifyBreaks (d :: rest)

def document (t : Text) : Except Refusal Entries :=
  let t := unifyBreaks t
  linesWithin (t.length + 1) ⟨.empty, []⟩ t

def placeOf (t : Text) (left : Nat) : Nat × Nat :=
  let t := unifyBreaks t
  let read := t.take (t.length - left)
  (1 + read.countP isBreak, 1 + (read.reverse.takeWhile (!isBreak ·)).length)

def malformedText (t : Text) (left : Nat) : Text :=
  let (line, column) := placeOf t left
  Text.concat ["malformed TOML (at line ", Text.ofNat line, ", column ", Text.ofNat column, ")"]

end Fingerprint.Toml
