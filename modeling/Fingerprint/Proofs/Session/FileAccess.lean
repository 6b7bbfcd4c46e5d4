import Fingerprint.Proofs.Service.FileAccess
import Fingerprint.Proofs.Session.Frames

/-! # What a session sees happen to files

A call of a service in a session first notes what happened to the file and then hands its outcome
on; handing it on reads no file. So the session holds afterwards what it held before, followed by
what the service did with the file (`noted_computeFile` and its siblings), and this follows the
discipline of `FileTrace`: one opening, reads of one size, one closing at the end. -/
set_option autoImplicit false
namespace Fingerprint
open Fingerprint.Action

namespace Session
variable {α : Type}

/-- However the action ends, these events are all that it adds. -/
def Notes (s : Session) (a : Action α) (events : List FileEvent) : Prop :=
  (runOn s a).2.fileEvents = s.fileEvents ++ events

theorem notes_noteEvents (s : Session) (events : List FileEvent) (rest : Action α)
    (quiet : Action.Within Unread rest) :
    s.Notes (noteEvents events >>= fun _ => rest) events :=
  (quiet { s with fileEvents := s.fileEvents ++ events }).fileEvents

section
variable (s : Session) (serial k : Nat) (size : Value) (c : Catalog Hasher) (logger : Instance)

theorem noted_computeFile (algorithm path : Value) :
    s.Notes (computeFile (.service serial size (.catalog k c) logger) algorithm path)
      ((⟨c, size⟩ : Service Hasher).computeFile s.host.source algorithm path).2 :=
  notes_noteEvents s _ _ (.ofExcept _)

theorem noted_hashFile (algorithm path : Value) :
    s.Notes (hashFile (.service serial size (.catalog k c) logger) algorithm path)
      ((⟨c, size⟩ : Service Hasher).hashFile s.host.source algorithm path).2 :=
  notes_noteEvents s _ _ (within_reported (ambient_tryResolveWithin 5) logger _)

theorem noted_computeFileMany (path algorithms : Value) :
    s.Notes (computeFileMany (.service serial size (.catalog k c) logger) path algorithms)
      ((⟨c, size⟩ : Service Hasher).computeFileMany s.host.source path algorithms).2 :=
  notes_noteEvents s _ _ (.ofExcept _)

theorem noted_hashFileMany (path algorithms : Value) :
    s.Notes (hashFileMany (.service serial size (.catalog k c) logger) path algorithms)
      ((⟨c, size⟩ : Service Hasher).hashFileMany s.host.source path algorithms).2 :=
  notes_noteEvents s _ _ (within_reported (ambient_tryResolveWithin 5) logger _)

end

end Session

namespace Service
variable {η : Type} (s : Service η)

/-- Where every piece is taken in, which algorithms there are and in what order makes no
difference to the file. -/
theorem events_of_unfailing (sources : Text → Source) (path algorithms : Value) (t : Text)
    (opens : s.OpensForAll path algorithms t)
    (unfailing : ∀ d, s.Uses algorithms d →
      d.TakesIn (Reply.pieces ((sources t).replies s.chunkSize))) :
    (s.computeFileMany sources path algorithms).2 = (sources t).wholeTrace t s.chunkSize :=
  let reads := s.reads_computeFileMany sources path algorithms
  reads.trace.eq_of_unfailing _ t opens (reads.alone t opens) unfailing

end Service

/-- Every call for a file opens it at most once, reads pieces of one size and closes it last. -/
theorem files_are_opened_once_and_closed_last {η : Type} :
    (∀ (d : Descriptor η) (sources : Text → Source) (path size : Value),
      let events := (d.computeFile sources path size).2
      FileTrace (d.Opens path size) (· = d) sources size events ∧
        (d.hashFile sources path size).2 = events) ∧
    (∀ (s : Service η) (sources : Text → Source) (path : Value),
      (∀ algorithm : Value,
        let events := (s.computeFile sources algorithm path).2
        FileTrace (s.OpensFor algorithm path) (s.catalog.get? algorithm = some ·) sources
            s.chunkSize events ∧
          (s.hashFile sources algorithm path).2 = events) ∧
      (∀ algorithms : Value,
        let events := (s.computeFileMany sources path algorithms).2
        FileTrace (s.OpensForAll path algorithms) (s.Uses algorithms) sources s.chunkSize events ∧
          (s.hashFileMany sources path algorithms).2 = events) ∧
      ∀ (t : Text) (algorithms others : Value),
        s.OpensForAll path algorithms t → s.OpensForAll path others t →
        (∀ d, s.Uses algorithms d ∨ s.Uses others d →
          d.TakesIn (Reply.pieces ((sources t).replies s.chunkSize))) →
        (s.computeFileMany sources path algorithms).2 =
          (s.computeFileMany sources path others).2) ∧
    ∀ (s : Session) (serial k : Nat) (c : Catalog Hasher) (size : Value) (logger : Instance)
      (path : Value),
      let service : Instance := .service serial size (.catalog k c) logger
      let held : Service Hasher := ⟨c, size⟩
      (∀ algorithm : Value, ∃ events,
        FileTrace (held.OpensFor algorithm path) (c.get? algorithm = some ·) s.host.source size
            events ∧
          s.Notes (Session.computeFile service algorithm path) events ∧
          s.Notes (Session.hashFile service algorithm path) events) ∧
      ∀ algorithms : Value, ∃ events,
        FileTrace (held.OpensForAll path algorithms) (held.Uses algorithms) s.host.source size
            events ∧
          s.Notes (Session.computeFileMany service path algorithms) events ∧
          s.Notes (Session.hashFileMany service path algorithms) events := by
  refine ⟨fun d sources path size => ⟨(d.reads_computeFile sources path size).trace, rfl⟩, ?_, ?_⟩
  · intro s sources path
    refine ⟨fun algorithm => ⟨(s.reads_computeFile sources algorithm path).trace, rfl⟩,
      fun algorithms => ⟨(s.reads_computeFileMany sources path algorithms).trace, rfl⟩, ?_⟩
    intro t algorithms others opens opensOthers unfailing
    have first := s.events_of_unfailing sources path algorithms t opens
      fun d used => unfailing d (Or.inl used)
    have second := s.events_of_unfailing sources path others t opensOthers
      fun d used => unfailing d (Or.inr used)
    rw [first, second]
  · intro s serial k c size logger path service held
    constructor
    · intro algorithm
      exact ⟨_, (held.reads_computeFile s.host.source algorithm path).trace,
        Session.noted_computeFile s serial k size c logger algorithm path,
        Session.noted_hashFile s serial k size c logger algorithm path⟩
    · intro algorithms
      exact ⟨_, (held.reads_computeFileMany s.host.source path algorithms).trace,
        Session.noted_computeFileMany s serial k size c logger path algorithms,
        Session.noted_hashFileMany s serial k size c logger path algorithms⟩

/-- Two algorithms in any order and number read the file as one alone does. -/
theorem files_are_opened_once_and_closed_last_repeated_algorithms :
    let working (name : Text) : Descriptor Hasher :=
      .ofStrategy (.ofScript ⟨name, 1, false, none, none, none⟩)
    let s : Service Hasher := ⟨⟨.null, [working "a", working "b"]⟩, .int 2⟩
    let sources : Text → Source := fun _ => .scripted [.data (.bytes [1, 2]), .data (.bytes [3])]
    let events (names : List Text) :=
      (s.computeFileMany sources (.text "f") (.list (names.map .text))).2
    events ["b", "a", "b"] = events ["a"] ∧
      events ["a"] = [.opened "f" "rb", .read (.int 2), .read (.int 2), .read (.int 2), .closed] := by
  intro working s sources events
  refine ⟨?_, rfl⟩
  refine (files_are_opened_once_and_closed_last.2.1 s sources (.text "f")).2.2 "f" _ _
    ((s.opensForAll_iff _ _ _).mpr ⟨_, rfl⟩) ((s.opensForAll_iff _ _ _).mpr ⟨_, rfl⟩) ?_
  have among (names : List Text) (within : names ⊆ ["a", "b"]) (d : Descriptor Hasher)
      (used : s.Uses (.list (names.map .text)) d) : d = working "a" ∨ d = working "b" := by
    obtain ⟨_, listed, a, mentioned, found⟩ := used
    cases listed
    obtain ⟨name, member, rfl⟩ := List.mem_map.mp mentioned
    rcases List.mem_pair.mp (within member) with rfl | rfl
    · exact Or.inl (Option.some.inj found).symm
    · exact Or.inr (Option.some.inj found).symm
  intro d used
  have known : d = working "a" ∨ d = working "b" :=
    used.elim (among ["b", "a", "b"] (by decide) d) (among ["a"] (by decide) d)
  rcases known with rfl | rfl
  · exact ⟨_, rfl⟩
  · exact ⟨_, rfl⟩

end Fingerprint
