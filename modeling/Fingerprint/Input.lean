import Fingerprint.Failure

/-! # Inputs

The two shapes that hashing takes in: bytes for data, and a text for the path of a file. A text is
hashed as its UTF-8 encoding; a text with unpaired surrogates has none and is refused. -/
set_option autoImplicit false
namespace Fingerprint.Input

/-- The byte container to hash: the value itself, or the encoding of a text. -/
def data : Value → Except Failure Value
  | .bytes b => .ok (.bytes b)
  | .buffer b => .ok (.buffer b)
  | .view b contiguous => .ok (.view b contiguous)
  | .text t =>
    match Utf8.encode? t with
    | some b => .ok (.bytes b)
    | none =>
      .error (.wrongInput "String input is not encodable as UTF-8" "utf-8 str"
        (Value.text t).typeName
        ((Utf8.unencodable? (fun _ => false) 0 t).map Fault.unencodable))
  | v => .error (.wrongInput "Data must be bytes-like or str" "bytes | bytearray | memoryview | str"
      v.typeName none)

def notAPath (v : Value) : Error :=
  .failure (.wrongInput "Path must be str or a text os.PathLike" "str | os.PathLike[str]"
    v.typeName none)

/-- The path as a text. An object that stands for a path has to resolve to a text or to bytes, and
only a text is taken. -/
def path : Value → Except Error Text
  | .text t => .ok t
  | .path t => .ok t
  | .pathLike _ (.text t) => .ok t
  | .pathLike name (.bytes b) => .error (notAPath (.pathLike name (.bytes b)))
  | .pathLike _ _ => .error (.fault .wrongType)
  | v => .error (notAPath v)

end Fingerprint.Input
