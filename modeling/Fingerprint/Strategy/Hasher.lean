import Fingerprint.Hash.Algorithm
import Fingerprint.Strategy.Basic

/-! # Hashers

A hasher is a standard computation, or it follows a script that fixes in advance what it does, so
that faults and unusual digests can be had at will. Any strategy works on any hasher, and the
hasher decides what comes of it. -/
set_option autoImplicit false
namespace Fingerprint

inductive ScriptedDigest where
  /-- The hasher's own answer, which is then put into lower case. -/
  | raw (v : Value)
  /-- The answer as it is. -/
  | final (v : Value)
  | fault (f : Fault)

structure Script where
  name : Text
  digestLength : Int
  extended : Bool
  createFault : Option Fault
  /-- The number of updates that go well, and the fault of those after them. -/
  updates : Option (Nat × Fault)
  digest : Option ScriptedDigest

inductive Hasher where
  | standard (r : Hash.Running)
  | scripted (script : Script) (updates : Nat)

namespace Hasher

def update : Hasher → Value → Except Fault Hasher
  | standard r, v => (Strategy.message? v).map fun b => standard (r.absorb b)
  | scripted script n, _ =>
    match script.updates with
    | some (allowed, fault) => if n < allowed then .ok (scripted script (n + 1)) else .error fault
    | none => .ok (scripted script (n + 1))

def raw : Hasher → Except Fault Value
  | standard r => .ok (.text r.hexDigest)
  | scripted script _ =>
    match script.digest with
    | some (.raw v) => .ok v
    | _ => .error ⟨.key, ["raw"]⟩

end Hasher

namespace Strategy

def standardLabel (a : Hash.Algorithm) : Text := Text.concat [a.name.upper, "Strategy()"]

def ofAlgorithm (a : Hash.Algorithm) : Strategy Hasher where
  name := a.name
  digestLength := a.digestLength
  extended := a.isExtended
  label := standardLabel a
  create := .ok (.standard (.start a))
  update := Hasher.update
  hexDigest h := h.raw >>= lowered

/-- The strategy of a standard algorithm whose hashers cannot be created. -/
def unavailable (a : Hash.Algorithm) (fault : Fault) : Strategy Hasher :=
  { ofAlgorithm a with create := .error fault }

def ofScript (script : Script) : Strategy Hasher where
  name := script.name
  digestLength := script.digestLength
  extended := script.extended
  label := "Scripted()"
  create := match script.createFault with
    | some f => .error f
    | none => .ok (.scripted script 0)
  update := Hasher.update
  hexDigest h := match script.digest with
    | some (.final v) => .ok v
    | some (.fault f) => .error f
    | _ => h.raw >>= lowered

end Strategy
end Fingerprint
