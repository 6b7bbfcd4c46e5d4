import Fingerprint.Failure
import Fingerprint.Record

/-! # Computations that leave records

A computation may end with an error and leaves records for the diagnostic log either way, in the
order in which they arose. -/
set_option autoImplicit false
namespace Fingerprint

abbrev Diagnosed := ExceptT Error (StateM (List Record))

namespace Diagnosed

def note (r : Record) : Diagnosed Unit := modify (· ++ [r])

def ofExcept {α : Type} : Except Error α → Diagnosed α
  | .ok a => pure a
  | .error e => throw e

def ofFault {α : Type} (x : Except Fault α) : Diagnosed α := ofExcept (x.mapError Error.fault)

def outcome {α : Type} (x : Diagnosed α) : Except Error α × List Record := (x.run []).run

end Diagnosed
end Fingerprint
