import Fingerprint.Disk.Tree

/-! # The host

What a program sees of the machine: the disk, the directory it works in, the environment, and
devices, which are paths that answer reads from a script and not from the disk. -/
set_option autoImplicit false
namespace Fingerprint

structure Host where
  disk : Disk
  directory : Path
  environment : List (Text × Text)
  devices : List (Text × Source)

namespace Host

def source (h : Host) (path : Text) : Source :=
  (h.devices.lookup path).getD (h.disk.source h.directory path)

def exists? (h : Host) (path : Text) : Except Fault Bool := h.disk.exists? h.directory path

def content (h : Host) (path : Text) : Except Fault Bytes :=
  match h.disk.source h.directory path with
  | .refused f => .error f
  | .stored content => .ok content
  | .scripted _ => .ok []

def setVariable (h : Host) (name v : Text) : Host :=
  { h with environment :=
      if h.environment.any (·.1 == name) then
        h.environment.map fun (n, w) => if n == name then (n, v) else (n, w)
      else h.environment ++ [(name, v)] }

def unsetVariable (h : Host) (name : Text) : Host :=
  { h with environment := h.environment.filter fun (n, _) => n != name }

end Host
end Fingerprint
