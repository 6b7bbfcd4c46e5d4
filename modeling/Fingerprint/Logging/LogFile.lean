import Fingerprint.Disk.Tree

/-! # Log files

Lines go to the end of a log file. Before a line that would bring the file to its full size the
file is put aside under its name with a number; of the files put aside the newest has number one,
and those beyond a fixed number are lost. -/
set_option autoImplicit false
namespace Fingerprint.LogFile

def fullSize : Nat := 10 * 1024 * 1024

def kept : Nat := 3

/-- The disk on which log files lie, which are named from its root. -/
def root : Path := ⟨[Path.slash], []⟩

def aside (path : Text) (number : Nat) : Text := Text.concat [path, ".", Text.ofNat number]

def isTaken (d : Disk) (path : Text) : Bool :=
  match d.lookup root path with
  | .ok (.found ..) => true
  | _ => false

def replace (d : Disk) (source target : Text) : Except Fault Disk :=
  if !isTaken d source then .ok d
  else do
    let d ← if isTaken d target then d.remove root target else pure d
    return d.rename root source target

def shift (d : Disk) (path : Text) : Nat → Except Fault Disk
  | 0 => .ok d
  | number + 1 => do
    let d ← replace d (aside path (number + 1)) (aside path (number + 2))
    shift d path number

def rotate (d : Disk) (path : Text) : Except Fault Disk := do
  let d ← shift d path (kept - 1)
  let d ← if isTaken d (aside path 1) then d.remove root (aside path 1) else pure d
  (d.rename root path (aside path 1)).touch root path

def isFull (d : Disk) (path line : Text) : Bool :=
  match d.content? root path with
  | some content => fullSize ≤ content.length + line.length + 1
  | none => false

/-- Adds a line. A line that has no UTF-8 is lost. -/
def add (d : Disk) (path line : Text) : Except Fault Disk := do
  let d ← if isFull d path line then rotate d path else pure d
  match Utf8.encode? (line ++ "\n") with
  | some bytes => return d.append root path bytes
  | none => return d

end Fingerprint.LogFile
