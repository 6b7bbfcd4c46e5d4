import Fingerprint.Text.Basic

/-! # Paths

A path in its plain spelling: a root of no, one or two slashes, and the parts between slashes, of
which empty ones and single dots are dropped. Two dots stay, since what they lead to is known only
on a disk. -/
set_option autoImplicit false
namespace Fingerprint

structure Path where
  root : Text
  parts : List Text
deriving DecidableEq

namespace Path

def slash : CodePoint := '/'

/-- Exactly two slashes at the start are a root of their own; more count as one. -/
def rootOf (t : Text) : Text :=
  match (t.takeWhile (· == slash)).length with
  | 0 => []
  | 2 => [slash, slash]
  | _ => [slash]

def ofText (t : Text) : Path :=
  ⟨rootOf t, (Text.splitAt slash t).filter fun part => !part.isEmpty && part != ("." : Text)⟩

def text (p : Path) : Text :=
  if p.root.isEmpty && p.parts.isEmpty then "."
  else p.root ++ Text.join [slash] p.parts

def name (p : Path) : Text := p.parts.getLast?.getD []

def child (p : Path) (part : Text) : Path := ⟨p.root, p.parts ++ [part]⟩

def parent (p : Path) : Path := ⟨p.root, p.parts.dropLast⟩

def chain (p : Path) : List Path :=
  go p.root p.parts.reverse
where
  go (root : Text) : List Text → List Path
    | [] => [⟨root, []⟩]
    | part :: rest => ⟨root, (part :: rest).reverse⟩ :: go root rest

def isAbsolute (p : Path) : Bool := !p.root.isEmpty

def within (directory p : Path) : Path :=
  if p.isAbsolute then p else ⟨directory.root, directory.parts ++ p.parts⟩

/-- Takes two dots together with the part before them, by spelling alone. -/
def collapsed (p : Path) : Path :=
  ⟨p.root, (p.parts.foldl (fun kept part =>
    if part = (".." : Text) then
      match kept with
      | [] => if p.isAbsolute then [] else [part]
      | last :: rest => if last = (".." : Text) then part :: kept else rest
    else part :: kept) []).reverse⟩

end Path
end Fingerprint
