import Fingerprint.Record

/-! # What sections hold

The settings have a section for digests and one for logging. Validation lets a section through whose
chunk size is positive; `CheckedSection` are those, and callers can hand them over in place of
tables. -/
set_option autoImplicit false
namespace Fingerprint.Settings

structure DigestSection where
  extended : Bool
  chunkSize : Int
deriving DecidableEq

def defaultChunkSize : Int := 8388608

def DigestSection.default : DigestSection := ⟨true, defaultChunkSize⟩

structure LoggingSection where
  level : Level
  console : Bool
  file : Bool
deriving DecidableEq

def LoggingSection.default : LoggingSection := ⟨.warning, false, false⟩

inductive Section where
  | digest (s : DigestSection)
  | logging (s : LoggingSection)
deriving DecidableEq

def Section.Sound : Section → Prop
  | digest s => 0 < s.chunkSize
  | logging _ => True

abbrev CheckedSection := {s : Section // s.Sound}

end Fingerprint.Settings
