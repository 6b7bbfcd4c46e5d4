import Fingerprint.Failure
import Fingerprint.Text.Case

/-! # Hash strategies

A strategy is how one algorithm is carried out: its name, the length of its digest, and the three
steps of a hasher, each of which may meet a fault. Nothing is assumed about what a step gives; the
descriptor of the algorithm checks it. -/
set_option autoImplicit false
namespace Fingerprint

structure Strategy (η : Type) where
  name : Text
  digestLength : Int
  extended : Bool
  label : Text
  create : Except Fault η
  update : η → Value → Except Fault η
  hexDigest : η → Except Fault Value

namespace Strategy

/-- The bytes that a primitive takes in: those of a byte container, unless they are scattered. -/
def message? : Value → Except Fault Bytes
  | .bytes b | .buffer b | .view b true => .ok b
  | .view _ false => .error ⟨.buffer, []⟩
  | _ => .error .wrongType

/-- Digests are given in lower case; what is neither a text nor bytes has no case. -/
def lowered : Value → Except Fault Value
  | .text t => .ok (.text t.lower)
  | .bytes b => .ok (.bytes (Bytes.lower b))
  | .buffer b => .ok (.buffer (Bytes.lower b))
  | _ => .error .noAttribute

end Strategy
end Fingerprint
