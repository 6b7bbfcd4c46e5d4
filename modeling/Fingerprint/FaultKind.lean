import Fingerprint.Text.Basic

/-! # Kinds of faults

The kind of a fault decides which family it belongs to, and with it which handlers meet it. -/
set_option autoImplicit false
namespace Fingerprint

inductive FaultKind where
  | system
  | notFound
  | denied
  | isDirectory
  | notDirectory
  | taken
  | interrupted
  | wouldBlock
  | noProcess
  | noChild
  | brokenPipe
  | connection
  | aborted
  | refused
  | reset
  | timedOut
  | value
  | unicode
  | encoding
  | decoding
  | type
  | attribute
  | key
  | overflow
  | memory
  | buffer
  | endOfFile
  | runtime
  /-- Any other kind that an ordinary handler catches. -/
  | other (name : Text)
  /-- A kind that passes through every handler. -/
  | fatal (name : Text)
deriving DecidableEq

namespace FaultKind

def isSystem : FaultKind → Bool
  | system | notFound | denied | isDirectory | notDirectory | taken | interrupted | wouldBlock
  | noProcess | noChild | brokenPipe | connection | aborted | refused | reset | timedOut => true
  | _ => false

def isValue : FaultKind → Bool
  | value | unicode | encoding | decoding => true
  | _ => false

def ofNumber : Int → FaultKind
  | 1 | 13 => denied
  | 2 => notFound
  | 3 => noProcess
  | 4 => interrupted
  | 10 => noChild
  | 11 | 114 | 115 => wouldBlock
  | 17 => taken
  | 20 => notDirectory
  | 21 => isDirectory
  | 32 | 108 => brokenPipe
  | 103 => aborted
  | 104 => reset
  | 110 => timedOut
  | 111 => refused
  | _ => system

end FaultKind

end Fingerprint
