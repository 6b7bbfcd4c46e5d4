import Fingerprint.Settings.Basic

/-! # Settings as objects

Settings that are there keep what is assigned to them. A section's fields are assigned to through
the section, which checks the value; what is assigned to the settings themselves is kept unchecked,
and so is a table that takes the place of a section's fields. -/
set_option autoImplicit false
namespace Fingerprint.Settings

/-- What stands in the place of a section. -/
inductive Held where
  | checked (s : Section)
  /-- A section of the kind of `like`, with fields that were put there as they are. -/
  | bare (like : Section) (fields : Entries)
  | other (v : Value)

namespace Held

def ofValue : Value → Held
  | .checked s => .checked s.val
  | v => .other v

/-- What is shown of a section are the fields of its kind. -/
def shown : Held → Value
  | checked s => .dict s.entries
  | bare like fields => .dict (fields.filter fun (name, _) => name.text?.any like.fields.contains)
  | other v => v

/-- The name under which a section keeps its fields. -/
def fieldsName : Text := "__dict__"

/-- Whether the value takes attributes of any name. -/
def takesAttributes : Value → Bool
  | .object _ | .mute .. | .pathLike .. | .type _ => true
  | _ => false

def assign (h : Held) (name : Text) (v : Value) : Except Error Held :=
  match h with
  | checked s =>
    if name = fieldsName then replaceFields s
    else ((s.assign name v).map checked).mapError Error.invalid
  | bare like fields =>
    if name = fieldsName then replaceFields like
    else do
      let alone ← (like.assign name v).mapError Error.invalid
      return bare like (match alone.entries.get? name with
        | some w => fields.put (.text name) w
        | none => fields)
  | other w => if takesAttributes w then .ok (other w) else .error (.fault .noAttribute)
where
  replaceFields (like : Section) : Except Error Held :=
    match v with
    | .dict fields => .ok (bare like fields)
    | _ => .error (.fault .wrongType)

end Held

structure Object where
  digest : Held
  logging : Held
  configFile : Value
  configError : Value

namespace Object

def ofSettings (s : Settings) : Object :=
  ⟨.checked (.digest s.digest), .checked (.logging s.logging), orNull s.configFile,
    orNull s.configError⟩
where
  orNull (t : Option Text) : Value := t.elim .null .text

def entries (o : Object) : Entries :=
  [(.text "digest", o.digest.shown), (.text "logging", o.logging.shown),
    (.text "config_file", o.configFile), (.text "config_error", o.configError)]

/-- Assigns to a field of what stands in the place of a section. -/
def assign (o : Object) (part name : Text) (v : Value) : Except Error Object :=
  if part = "digest" then return { o with digest := ← o.digest.assign name v }
  else if part = "logging" then return { o with logging := ← o.logging.assign name v }
  else .error (.fault .noAttribute)

/-- Assigns to the settings themselves. -/
def replace (o : Object) (name : Text) (v : Value) : Except Error Object :=
  if name = "digest" then .ok { o with digest := .ofValue v }
  else if name = "logging" then .ok { o with logging := .ofValue v }
  else if name = "config_file" then .ok { o with configFile := v }
  else if name = "config_error" then .ok { o with configError := v }
  else if isPrivate name then .ok o
  else .error (.fault ⟨.value,
    [.text (Text.concat ["\"DigestkitSettings\" object has no field \"", name, "\""])]⟩)

end Object
end Fingerprint.Settings
