import Fingerprint.Number.Shortest
import Fingerprint.Text.Quoted
import Fingerprint.Value.Basic

/-! # Values in messages

`literal` shows a value so that its type can be seen, as in the context of an error message;
`shown` shows a text or a path by itself, a section by its fields, and anything else by its
literal. -/
set_option autoImplicit false
namespace Fingerprint.Value

def enclosed (left right : Text) (parts : List Text) : Text :=
  Text.concat [left, Text.join ", " parts, right]

def truthLiteral (b : Bool) : Text := if b then "True" else "False"

def fieldLiterals : Settings.Section → List Text
  | .digest s =>
    [Text.concat ["extended=", truthLiteral s.extended],
      Text.concat ["chunk_size=", Text.ofInt s.chunkSize]]
  | .logging s =>
    [Text.concat ["level=", s.level.name.quoted], Text.concat ["console=", truthLiteral s.console],
      Text.concat ["file=", truthLiteral s.file]]

mutual

def literal : Value → Text
  | null => "None"
  | bool b => truthLiteral b
  | int i => Text.ofInt i
  | float x => x.text
  | text t => t.quoted
  | bytes b => Text.concat ["b", Bytes.quoted b]
  | buffer b => Text.concat ["bytearray(b", Bytes.quotedBuffer b, ")"]
  | view .. => "<memory>"
  | list vs => enclosed "[" "]" (literals vs)
  | tuple vs => enclosed "(" (if vs.length = 1 then ",)" else ")") (literals vs)
  | set vs => if vs.isEmpty then "set()" else enclosed "\x7b" "\x7d" (literals vs)
  | dict es => enclosed "\x7b" "\x7d" (entryLiterals es)
  | proxy es => enclosed "mappingproxy(\x7b" "\x7d)" (entryLiterals es)
  | checked s => enclosed (Text.concat [(checked s).typeName, "("]) ")" (fieldLiterals s.val)
  | path t => Text.concat ["PosixPath(", t.quoted, ")"]
  | pathLike name _ | object name | mute name .. => Text.concat ["<", name, ">"]
  | type name => Text.concat ["<class '", name, "'>"]
  | moment m => m.text

def literals : List Value → List Text
  | [] => []
  | v :: vs => literal v :: literals vs

def entryLiterals : List (Value × Value) → List Text
  | [] => []
  | (k, v) :: rest => Text.concat [literal k, ": ", literal v] :: entryLiterals rest

end

def shown : Value → Text
  | text t => t
  | path t => t
  | checked s => Text.join " " (fieldLiterals s.val)
  | proxy es => (dict es).literal
  | v => v.literal

end Fingerprint.Value
