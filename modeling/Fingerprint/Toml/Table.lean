import Fingerprint.Toml.Basic

/-! # TOML: the tree of tables

While a document is read its tables grow at the paths that its headers and keys name. A path that
leads through an array of tables means its last table. Some paths are closed: a table may be opened
by a header only once, and a value that was written in one piece never changes. -/
set_option autoImplicit false
namespace Fingerprint.Toml

abbrev KeyPath := List Text

/-- Changes the table at a path and makes the tables on the way where they are missing. There is
none behind a path that leads through another value. Arrays on the way mean their last table only
where `throughArrays` holds. -/
def alterTable (throughArrays : Bool) (change : Entries → Option Entries) :
    KeyPath → Entries → Option Entries
  | [], table => change table
  | part :: rest, table =>
    match table.get? part with
    | none => do
      let inner ← alterTable throughArrays change rest []
      return table.put (.text part) (.dict inner)
    | some (.dict inner) => do
      let inner ← alterTable throughArrays change rest inner
      return table.put (.text part) (.dict inner)
    | some (.list items) =>
      match throughArrays, items.getLast? with
      | true, some (.dict inner) => do
        let inner ← alterTable throughArrays change rest inner
        return table.put (.text part) (.list (items.dropLast ++ [.dict inner]))
      | _, _ => none
    | some _ => none

def bindFree (name : Text) (v : Value) (table : Entries) : Option Entries :=
  if (table.get? name).isSome then none else some (table.put (.text name) v)

def appendTable (name : Text) (table : Entries) : Option Entries :=
  match table.get? name with
  | none => some (table.put (.text name) (.list [.dict []]))
  | some (.list items) => some (table.put (.text name) (.list (items ++ [.dict []])))
  | some _ => none

structure Tree where
  root : Entries
  /-- The tables that no header may open again. -/
  opened : List KeyPath
  /-- The paths below which nothing changes any more. -/
  frozen : List KeyPath
  /-- The tables that keys with dots have made since the last header. -/
  dotted : List KeyPath

namespace Tree

def empty : Tree := ⟨[], [], [], []⟩

def isFrozen (t : Tree) (path : KeyPath) : Bool := t.frozen.any fun p => p.isPrefixOf path

def isOpened (t : Tree) (path : KeyPath) : Bool := t.opened.contains path

/-- A header ends the keys before it: the tables that they made count as opened. -/
def settle (t : Tree) : Tree := { t with opened := t.dotted ++ t.opened, dotted := [] }

def openTable? (t : Tree) (path : KeyPath) : Option Tree := do
  if t.isOpened path || t.isFrozen path then failure
  let root ← alterTable true some path t.root
  return { t with root, opened := path :: t.opened }

/-- A new table at the end of an array starts without a history. -/
def openItem? (t : Tree) (path : KeyPath) : Option Tree := do
  if t.isFrozen path then failure
  let isInside (p : KeyPath) : Bool := path.isPrefixOf p
  let root ← alterTable true (appendTable (path.getLast?.getD [])) path.dropLast t.root
  return { t with
    root
    opened := path :: t.opened.filter fun p => !isInside p
    frozen := t.frozen.filter fun p => !isInside p }

def isWhole : Value → Bool
  | .dict _ | .list _ => true
  | _ => false

/-- The paths of the tables on the way to a key below a header. -/
def onTheWay (header key : KeyPath) : List KeyPath :=
  (List.range (key.length - 1)).map fun i => header ++ key.take (i + 1)

def bind? (t : Tree) (header key : KeyPath) (v : Value) : Option Tree := do
  let way := onTheWay header key
  if way.any t.isOpened || t.isFrozen (header ++ key.dropLast) then failure
  let root ← alterTable true (bindFree (key.getLast?.getD []) v) (header ++ key.dropLast) t.root
  return { t with
    root
    dotted := way ++ t.dotted
    frozen := if isWhole v then (header ++ key) :: t.frozen else t.frozen }

end Tree

structure InlineTree where
  root : Entries
  frozen : List KeyPath

def InlineTree.bind? (t : InlineTree) (key : KeyPath) (v : Value) : Option InlineTree := do
  if t.frozen.any fun p => p.isPrefixOf key then failure
  let root ← alterTable false (bindFree (key.getLast?.getD []) v) key.dropLast t.root
  return ⟨root, if Tree.isWhole v then key :: t.frozen else t.frozen⟩

end Fingerprint.Toml
