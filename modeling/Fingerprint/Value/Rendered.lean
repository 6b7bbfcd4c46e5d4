import Fingerprint.Fault

/-! # The text of a value

A value is shown in a message by its text. Some values have none: integers are written with so many
digits at most, and an object may raise a fault when it is asked. Such a value keeps everything that
holds it from being written, and the first one among the parts decides what is raised. -/
set_option autoImplicit false
namespace Fingerprint

def Fault.tooManyDigits : Fault :=
  ⟨.value, [.text (Text.concat ["Exceeds the limit (4300 digits) for integer string conversion; ",
    "use sys.set_int_max_str_digits() to increase the limit"])]⟩

namespace Value

def digitLimit : Nat := 4300

def integerFault? (i : Int) : Option Fault :=
  if Nat.pow 10 digitLimit ≤ i.natAbs then some .tooManyDigits else none

mutual

/-- What keeps a value from being written. -/
def fault? : Value → Option Fault
  | int i => integerFault? i
  | list vs | tuple vs | set vs => faultIn? vs
  | dict es | proxy es => faultInEntries? es
  | checked ⟨.digest s, _⟩ => integerFault? s.chunkSize
  | mute _ kind details => some ⟨kind, details⟩
  | _ => none

def faultIn? : List Value → Option Fault
  | [] => none
  | v :: vs => (fault? v).or (faultIn? vs)

def faultInEntries? : List (Value × Value) → Option Fault
  | [] => none
  | (k, v) :: rest => ((fault? k).or (fault? v)).or (faultInEntries? rest)

end

/-- The text of the value, or the fault that is raised in its place. -/
def rendered (v : Value) : Except Fault Text :=
  match v.fault? with
  | some f => .error f
  | none => .ok v.shown

@[simp] theorem rendered_text (t : Text) : (text t).rendered = .ok t := rfl

end Value
end Fingerprint
