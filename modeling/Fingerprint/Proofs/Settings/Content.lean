import Fingerprint.Proofs.Outcome
import Fingerprint.Proofs.Text.Encoding
import Fingerprint.Settings.ConfigFile

/-! # Contents of config files

What comes of reading a config file depends on its bytes and on whether its name is that of a
project file. `Gives` tells the settings that a content holds, `Malformed` the contents that are no
TOML, and `Escapes` those that end the operation: bytes that are no UTF-8, documents beyond the
limits on nesting and digits, and project files whose tools are no table. `readConfig` gives for each
kind what it says, and there is no other kind (`content_cases`). -/
set_option autoImplicit false
namespace Fingerprint.Settings

/-- The bytes write a TOML document in UTF-8. -/
def Writes (bytes : Bytes) (document : Entries) : Prop :=
  ∃ t, Utf8.decode? bytes = some t ∧ Toml.document t = .ok document

/-- The bytes are the UTF-8 form of a text that is no TOML. -/
def Malformed (bytes : Bytes) (detail : Text) : Prop :=
  ∃ t left, Utf8.decode? bytes = some t ∧ Toml.document t = .error (.malformed left) ∧
    detail = Toml.malformedText t left

inductive Escapes (name : Text) (bytes : Bytes) : Fault → Prop where
  | undecodable (broken : Utf8.decode? bytes = none) : Escapes name bytes .undecodable
  | beyond (t : Text) (limit : Toml.Refusal) (f : Fault) (decoded : Utf8.decode? bytes = some t)
      (refused : Toml.document t = .error limit)
      (unrecorded : ConfigFault.ofRefusal t limit = .escaping f) : Escapes name bytes f
  | noTools (project : name = projectFileName) (document : Entries) (tools : Value)
      (written : Writes bytes document) (named : document.get? "tool" = some tools)
      (noTable : ∀ es, tools ≠ .dict es) : Escapes name bytes .noAttribute

/-- A project file gives what stands under the name of this program, or an empty table. -/
inductive Gives (name : Text) (bytes : Bytes) : Value → Prop where
  | whole (other : name ≠ projectFileName) (document : Entries)
      (written : Writes bytes document) : Gives name bytes (.dict document)
  | toolless (project : name = projectFileName) (document : Entries)
      (written : Writes bytes document) (absent : document.get? "tool" = none) :
      Gives name bytes (.dict [])
  | tool (project : name = projectFileName) (document tools : Entries)
      (written : Writes bytes document) (named : document.get? "tool" = some (.dict tools)) :
      Gives name bytes ((tools.get? "digestkit").getD (.dict []))

def onFiles (files : List (Location × DiskEntry)) : Host := ⟨⟨files⟩, .ofText "/", [], []⟩

/-! ## Reading settles the kind -/

section
variable (h : Host) (path : Path) (bytes : Bytes) (content : h.content path.text = .ok bytes)
include content

theorem readConfig_of_undecodable (broken : Utf8.decode? bytes = none) :
    readConfig h path = .error (.escaping .undecodable) := by
  unfold readConfig
  rw [content]
  simp only [mapError_ok, bind, Except.bind, broken]
  rfl

theorem readConfig_of_refused (t : Text) (r : Toml.Refusal) (decoded : Utf8.decode? bytes = some t)
    (refused : Toml.document t = .error r) :
    readConfig h path = .error (ConfigFault.ofRefusal t r) := by
  unfold readConfig
  rw [content]
  simp only [mapError_ok, bind, Except.bind, decoded, pure, Except.pure, refused, mapError_error]

theorem readConfig_of_writes (document : Entries) (written : Writes bytes document) :
    readConfig h path = (settingsTable path document).mapError .escaping := by
  obtain ⟨t, decoded, parsed⟩ := written
  unfold readConfig
  rw [content]
  simp only [mapError_ok, bind, Except.bind, decoded, pure, Except.pure, parsed]

theorem readConfig_of_malformed (detail : Text) (malformed : Malformed bytes detail) :
    readConfig h path = .error (.malformed detail) := by
  obtain ⟨t, left, decoded, refused, rfl⟩ := malformed
  exact readConfig_of_refused h path bytes content t _ decoded refused

theorem readConfig_of_escapes (f : Fault) (escapes : Escapes path.name bytes f) :
    readConfig h path = .error (.escaping f) := by
  cases escapes with
  | undecodable broken => exact readConfig_of_undecodable h path bytes content broken
  | beyond t limit _ decoded refused unrecorded =>
      rw [readConfig_of_refused h path bytes content t limit decoded refused, unrecorded]
  | noTools project document tools written named noTable =>
      rw [readConfig_of_writes h path bytes content document written]
      unfold settingsTable
      rw [if_pos project, named]
      cases tools with
      | dict es => exact absurd rfl (noTable es)
      | _ => rfl

theorem readConfig_of_gives (v : Value) (gives : Gives path.name bytes v) :
    readConfig h path = .ok v := by
  cases gives with
  | whole other document written =>
      rw [readConfig_of_writes h path bytes content document written]
      unfold settingsTable
      rw [if_neg other]
      rfl
  | toolless project document written absent =>
      rw [readConfig_of_writes h path bytes content document written]
      unfold settingsTable
      rw [if_pos project, absent]
      rfl
  | tool project document tools written named =>
      rw [readConfig_of_writes h path bytes content document written]
      unfold settingsTable
      rw [if_pos project, named]
      rfl

omit content in
theorem content_cases (name : Text) : (∃ v, Gives name bytes v) ∨
    (∃ detail, Malformed bytes detail) ∨ ∃ f, Escapes name bytes f := by
  cases decoded : Utf8.decode? bytes with
  | none => exact Or.inr (Or.inr ⟨_, .undecodable decoded⟩)
  | some t =>
      cases parsed : Toml.document t with
      | error r =>
          cases r with
          | malformed left => exact Or.inr (Or.inl ⟨_, t, left, decoded, parsed, rfl⟩)
          | tooDeep => exact Or.inr (Or.inr ⟨_, .beyond t _ _ decoded parsed rfl⟩)
          | tooManyDigits n => exact Or.inr (Or.inr ⟨_, .beyond t _ _ decoded parsed rfl⟩)
      | ok document =>
          have written : Writes bytes document := ⟨t, decoded, parsed⟩
          by_cases project : name = projectFileName
          · cases named : document.get? "tool" with
            | none => exact Or.inl ⟨_, .toolless project document written named⟩
            | some v =>
                cases v with
                | dict tools => exact Or.inl ⟨_, .tool project document tools written named⟩
                | _ => exact Or.inr (Or.inr ⟨_, .noTools project document _ written named nofun⟩)
          · exact Or.inl ⟨_, .whole project document written⟩

end
end Fingerprint.Settings
