import Fingerprint.Proofs.Service.Chunking

/-! # Interleaved hashers

Any number of hashers are made, updated and finalized through one catalog, in any order, and each
step may end with an error (`Use`, `Catalog.after`). Over the standard algorithms every hasher is at
the state to which its own bytes lead (`Catalog.fed`): a step adds what it passes to that hasher and
nothing else (`taken_use`), so a whole run adds what the run fed to it (`taken_after`), and every
finalization gives the digest of that. -/
set_option autoImplicit false
namespace Fingerprint
open Hash

/-- A step through the descriptor of an algorithm; hashers are numbered as they are made. -/
inductive Use where
  | make (algorithm : Value)
  | update (algorithm : Value) (n : Nat) (v : Value)
  | finalize (algorithm : Value) (n : Nat)

namespace Catalog

section
variable {η : Type} (c : Catalog η)

def through {α : Type} (algorithm : Value) (step : Descriptor η → Except Error α) :
    Except Error α :=
  c.require algorithm >>= step

/-- What a step gives, and the hashers after it. Nobody has a hasher with a number that was not
given out, so such a step does nothing. -/
def use (hashers : List η) : Use → Except Error (Option Text) × List η
  | .make algorithm =>
    match c.through algorithm Descriptor.newHasher with
    | .ok h => (.ok none, hashers ++ [h])
    | .error e => (.error e, hashers)
  | .update algorithm n v =>
    match hashers[n]? with
    | none => (.ok none, hashers)
    | some h =>
      match c.through algorithm fun d => d.update h v with
      | .ok h' => (.ok none, hashers.set n h')
      | .error e => (.error e, hashers)
  | .finalize algorithm n =>
    match hashers[n]? with
    | none => (.ok none, hashers)
    | some h => ((c.through algorithm fun d => d.finalize h).map some, hashers)

def after (hashers : List η) (uses : List Use) : List η :=
  uses.foldl (fun hashers u => (c.use hashers u).2) hashers

theorem after_append (hashers : List η) (uses later : List Use) :
    c.after hashers (uses ++ later) = c.after (c.after hashers uses) later := List.foldl_append

theorem after_cons (hashers : List η) (u : Use) (uses : List Use) :
    c.after hashers (u :: uses) = c.after (c.use hashers u).2 uses := rfl

def passed (n : Nat) : Use → Bytes
  | .update algorithm m v =>
    if m = n ∧ c.contains algorithm = true then (Strategy.message? v).toOption.getD [] else []
  | _ => []

def fed (n : Nat) (uses : List Use) : Bytes := uses.flatMap (c.passed n)

theorem fed_cons (n : Nat) (u : Use) (uses : List Use) :
    c.fed n (u :: uses) = c.passed n u ++ c.fed n uses := List.flatMap_cons

theorem passed_update_other (n m : Nat) (algorithm v : Value) (other : m ≠ n) :
    c.passed n (.update algorithm m v) = [] := if_neg fun both => other both.1

theorem passed_update_same (n : Nat) (algorithm v : Value) (known : c.contains algorithm = true) :
    c.passed n (.update algorithm n v) = (Strategy.message? v).toOption.getD [] :=
  if_pos ⟨rfl, known⟩

theorem passed_update_refused (n : Nat) (algorithm v : Value)
    (refused : ¬ (c.contains algorithm = true ∧ ∃ piece, Strategy.message? v = .ok piece)) :
    c.passed n (.update algorithm n v) = [] := by
  unfold passed
  simp only
  cases bytes : Strategy.message? v with
  | error fault => exact ite_self []
  | ok piece => exact if_neg fun known => refused ⟨known.2, piece, bytes⟩

end

def AllTaken (hashers : List Hasher) : Prop :=
  ∀ h ∈ hashers, ∃ a content, h.HasTaken a content

theorem allTaken_nil : AllTaken [] := fun _ member => absurd member List.not_mem_nil

/-- What one step does to the hashers: it adds a new one, or it feeds one of them. -/
inductive Does (c : Catalog Hasher) (hashers : List Hasher) : Use → List Hasher → Prop
  | nothing (u : Use) (silent : ∀ n < hashers.length, c.passed n u = []) : Does c hashers u hashers
  | makes (algorithm : Value) (a : Algorithm) (h : Hasher) (empty : h.HasTaken a []) :
      Does c hashers (.make algorithm) (hashers ++ [h])
  | feeds (algorithm : Value) (n : Nat) (v : Value) (h h' : Hasher) (held : hashers[n]? = some h)
      (longer : ∀ a content, h.HasTaken a content →
        h'.HasTaken a (content ++ c.passed n (.update algorithm n v))) :
      Does c hashers (.update algorithm n v) (hashers.set n h')

section
variable (faults : List (Algorithm × Fault)) (c : Catalog Hasher)

theorem isBuiltIn_standard (extended : Value) : (standard faults extended).IsBuiltIn faults :=
  ⟨_, standard_descriptors faults extended⟩

variable {faults c} (builtIn : c.IsBuiltIn faults)
include builtIn

theorem find?_of_named (a : Algorithm) (offered : a.name ∈ c.names) :
    c.find? a.name = some (.standard faults a) := by
  obtain ⟨listed, holds⟩ := builtIn
  refine find?_of_listed faults c listed holds a ?_
  rw [names, holds, List.map_map] at offered
  obtain ⟨b, member, same⟩ := List.mem_map.mp offered
  rw [Function.comp_apply, Descriptor.standard_name] at same
  rwa [name_injective b a same] at member

theorem require_named (a : Algorithm) (offered : a.name ∈ c.names) :
    c.require (.text a.name) = .ok (.standard faults a) := by
  have found : c.get? (.text a.name) = some (.standard faults a) := find?_of_named builtIn a offered
  unfold require
  rw [found]

theorem through_named {α : Type} (a : Algorithm) (offered : a.name ∈ c.names)
    (step : Descriptor Hasher → Except Error α) :
    c.through (.text a.name) step = step (.standard faults a) := by
  unfold through
  rw [require_named builtIn a offered]
  rfl

theorem through_cases {α : Type} (algorithm : Value)
    (step : Descriptor Hasher → Except Error α) :
    (c.contains algorithm = true ∧
      ∃ b, c.through algorithm step = step (.standard faults b)) ∨
    (c.contains algorithm = false ∧ ∃ e, c.through algorithm step = .error e) := by
  unfold through contains
  cases looked : c.get? algorithm with
  | none =>
      refine Or.inr ⟨rfl, ?_⟩
      rw [c.require_of_missing algorithm looked]
      cases algorithm.rendered <;> exact ⟨_, rfl⟩
  | some d =>
      obtain ⟨listed, holds⟩ := builtIn
      have member := (c.mem_of_get? algorithm d looked).1
      rw [holds] at member
      obtain ⟨b, -, rfl⟩ := List.mem_map.mp member
      rw [(c.require_eq_ok_iff algorithm _).mpr looked]
      exact Or.inl ⟨rfl, b, rfl⟩

theorem through_update (algorithm v : Value) (h : Hasher)
    (taken : ∃ a content, h.HasTaken a content) :
    (∃ h' piece, c.contains algorithm = true ∧ Strategy.message? v = .ok piece ∧
      (c.through algorithm fun d => d.update h v) = .ok h' ∧
      ∀ a content, h.HasTaken a content → h'.HasTaken a (content ++ piece)) ∨
    ((∃ e, (c.through algorithm fun d => d.update h v) = .error e) ∧
      ¬ (c.contains algorithm = true ∧ ∃ piece, Strategy.message? v = .ok piece)) := by
  obtain ⟨a, content, some⟩ := taken
  rcases through_cases builtIn algorithm fun d => d.update h v with
    ⟨known, b, opened⟩ | ⟨unknown, f, refused⟩
  · rw [opened]
    cases bytes : Strategy.message? v with
    | ok piece =>
        have updated := Descriptor.update_of_taken faults b content piece h v some bytes
        refine Or.inl ⟨_, piece, known, rfl, updated, ?_⟩
        intro a' content' other
        have again := Descriptor.update_of_taken faults b content' piece h v other bytes
        exact Except.ok.inj (updated.symm.trans again)
    | error fault =>
        refine Or.inr ⟨?_, nofun⟩
        cases run : (Descriptor.standard faults b).update h v with
        | error e => exact ⟨e, rfl⟩
        | ok h' =>
            obtain ⟨piece, given, -⟩ := Descriptor.taken_of_update faults b content h h' v some run
            cases bytes.symm.trans given
  · refine Or.inr ⟨⟨_, refused⟩, ?_⟩
    rintro ⟨known, -⟩
    cases unknown.symm.trans known

/-! ## One step, and a run of them -/

theorem does_use (hashers : List Hasher) (all : AllTaken hashers) (u : Use) :
    c.Does hashers u (c.use hashers u).2 := by
  cases u with
  | make algorithm =>
      simp only [use]
      rcases through_cases builtIn algorithm Descriptor.newHasher with
        ⟨-, b, opened⟩ | ⟨-, f, refused⟩
      · rw [opened]
        cases made : (Descriptor.standard faults b).newHasher with
        | error e => exact .nothing _ fun _ _ => rfl
        | ok h => exact .makes algorithm b h (Descriptor.taken_of_newHasher faults b h made)
      · rw [refused]
        exact .nothing _ fun _ _ => rfl
  | finalize algorithm n =>
      simp only [use]
      cases hashers[n]? <;> exact .nothing _ fun _ _ => rfl
  | update algorithm n v =>
      simp only [use]
      cases held : hashers[n]? with
      | none =>
          refine .nothing _ fun m inside => c.passed_update_other m n algorithm v ?_
          rintro rfl
          cases held.symm.trans (List.getElem?_eq_getElem inside)
      | some h =>
          simp only
          rcases through_update builtIn algorithm v h (all h (List.mem_of_getElem? held)) with
            ⟨h', piece, known, bytes, run, longer⟩ | ⟨⟨e, run⟩, refused⟩
          · rw [run]
            refine .feeds algorithm n v h h' held ?_
            rw [c.passed_update_same n algorithm v known, bytes]
            exact longer
          · rw [run]
            refine .nothing _ fun m _ => ?_
            by_cases here : n = m
            · subst here
              exact c.passed_update_refused n algorithm v refused
            · exact c.passed_update_other m n algorithm v here

theorem allTaken_use (hashers : List Hasher) (all : AllTaken hashers) (u : Use) :
    AllTaken (c.use hashers u).2 := by
  have step := does_use builtIn hashers all u
  generalize (c.use hashers u).2 = hashers' at step ⊢
  intro h member
  cases step with
  | nothing => exact all h member
  | makes _ a new empty =>
      rcases List.mem_append.mp member with old | here
      · exact all h old
      · cases List.mem_singleton.mp here
        exact ⟨a, [], empty⟩
  | feeds _ _ _ before _ held longer =>
      rcases List.mem_or_eq_of_mem_set member with old | rfl
      · exact all h old
      · obtain ⟨a, content, taken⟩ := all before (List.mem_of_getElem? held)
        exact ⟨a, _, longer a content taken⟩

theorem taken_use (hashers : List Hasher) (all : AllTaken hashers) (u : Use) (n : Nat) (h : Hasher)
    (a : Algorithm) (content : Bytes) (held : hashers[n]? = some h)
    (taken : h.HasTaken a content) :
    ∃ h', (c.use hashers u).2[n]? = some h' ∧ h'.HasTaken a (content ++ c.passed n u) := by
  have inside : n < hashers.length := (List.getElem?_eq_some_iff.mp held).1
  have step := does_use builtIn hashers all u
  generalize (c.use hashers u).2 = hashers' at step ⊢
  cases step with
  | nothing _ silent =>
      rw [silent n inside, List.append_nil]
      exact ⟨h, held, taken⟩
  | makes algorithm _ new =>
      have old : c.passed n (.make algorithm) = [] := rfl
      rw [old, List.append_nil]
      exact ⟨h, (List.getElem?_append_left inside).trans held, taken⟩
  | feeds algorithm m v before new heldThere longer =>
      by_cases here : m = n
      · subst here
        cases held.symm.trans heldThere
        exact ⟨new, List.getElem?_set_self inside, longer a content taken⟩
      · rw [c.passed_update_other n m algorithm v here, List.append_nil]
        exact ⟨h, (List.getElem?_set_ne here).trans held, taken⟩

theorem allTaken_after (uses : List Use) (hashers : List Hasher) (all : AllTaken hashers) :
    AllTaken (c.after hashers uses) := by
  induction uses generalizing hashers with
  | nil => exact all
  | cons u rest ih => exact ih _ (allTaken_use builtIn hashers all u)

theorem taken_after (uses : List Use) (hashers : List Hasher) (all : AllTaken hashers) (n : Nat)
    (h : Hasher) (a : Algorithm) (content : Bytes) (held : hashers[n]? = some h)
    (taken : h.HasTaken a content) :
    ∃ h', (c.after hashers uses)[n]? = some h' ∧ h'.HasTaken a (content ++ c.fed n uses) := by
  induction uses generalizing hashers h content with
  | nil => exact ⟨h, held, by rwa [fed, List.flatMap_nil, List.append_nil]⟩
  | cons u rest ih =>
      obtain ⟨h', held', taken'⟩ := taken_use builtIn hashers all u n h a content held taken
      rw [fed_cons, ← List.append_assoc]
      exact ih (c.use hashers u).2 (allTaken_use builtIn hashers all u) h' _ held' taken'

/-! ## What the steps give -/

theorem use_make (hashers : List Hasher) (a : Algorithm) (offered : a.name ∈ c.names)
    (available : faults.lookup a = none) :
    c.use hashers (.make (.text a.name)) = (.ok none, hashers ++ [.standard (.start a)]) := by
  have made := Descriptor.newHasher_of_available faults a available
  simp only [use, through_named builtIn a offered, made]

theorem use_finalize (hashers : List Hasher) (n : Nat) (h : Hasher) (a : Algorithm)
    (offered : a.name ∈ c.names) (content : Bytes) (held : hashers[n]? = some h)
    (taken : h.HasTaken a content) :
    c.use hashers (.finalize (.text a.name) n) = (.ok (some (a.hexDigest content)), hashers) := by
  have done := Descriptor.finalize_of_taken faults a content h taken
  simp only [use, held, through_named builtIn a offered, done]
  rfl

theorem use_update_eq_ok_iff (hashers : List Hasher) (all : AllTaken hashers) (algorithm : Value)
    (n : Nat) (v : Value) (inside : n < hashers.length) :
    (c.use hashers (.update algorithm n v)).1 = .ok none ↔
      c.contains algorithm = true ∧ ∃ piece, Strategy.message? v = .ok piece := by
  have held : hashers[n]? = some hashers[n] := List.getElem?_eq_getElem inside
  simp only [use, held]
  rcases through_update builtIn algorithm v hashers[n] (all _ (List.getElem_mem inside)) with
    ⟨h', piece, known, bytes, returned, -⟩ | ⟨⟨e, failed⟩, refused⟩
  · rw [returned]
    exact ⟨fun _ => ⟨known, piece, bytes⟩, fun _ => rfl⟩
  · rw [failed]
    exact ⟨nofun, fun known => absurd known refused⟩

/-- Hashers of standard algorithms are independent, and a finalization leaves them as they are: in
any run, each finalization of a hasher returns the digest, in one piece, of all bytes that have been
fed to it since it was made. What is fed is what an update returns for; any other update fails. -/
theorem finalize_gives_digest_of_all_fed (a : Algorithm) (offered : a.name ∈ c.names)
    (available : faults.lookup a = none) (before later : List Use) :
    let n := (c.after [] before).length
    let hashers := c.after [] (before ++ .make (.text a.name) :: later)
    (c.use (c.after [] before) (.make (.text a.name))).1 = .ok none ∧
    (∃ d digest, c.require (.text a.name) = .ok d ∧
      d.computeData (.bytes (c.fed n later)) = .ok digest ∧
      c.use hashers (.finalize (.text a.name) n) = (.ok (some digest), hashers)) ∧
    ∀ algorithm m v, m < hashers.length →
      ((c.use hashers (.update algorithm m v)).1 = .ok none ↔
        c.contains algorithm = true ∧ ∃ piece, Strategy.message? v = .ok piece) := by
  intro n hashers
  have all : AllTaken (c.after [] before) := allTaken_after builtIn before [] allTaken_nil
  have made := use_make builtIn (c.after [] before) a offered available
  have grown : (c.use (c.after [] before) (.make (.text a.name))).2 =
      c.after [] before ++ [.standard (.start a)] := congrArg Prod.snd made
  have all' := allTaken_use builtIn _ all (.make (.text a.name))
  rw [grown] at all'
  have run : hashers = c.after (c.after [] before ++ [.standard (.start a)]) later := by
    calc hashers = c.after (c.after [] before) (.make (.text a.name) :: later) :=
          c.after_append [] before _
      _ = c.after (c.use (c.after [] before) (.make (.text a.name))).2 later := c.after_cons _ _ _
      _ = c.after (c.after [] before ++ [.standard (.start a)]) later := by rw [grown]
  obtain ⟨h, held, taken⟩ := taken_after builtIn later _ all' n (.standard (.start a)) a []
    List.getElem?_concat_length rfl
  rw [← run] at held
  refine ⟨congrArg Prod.fst made, ⟨.standard faults a, a.hexDigest (c.fed n later), ?_, ?_, ?_⟩, ?_⟩
  · exact require_named builtIn a offered
  · exact Descriptor.computeData_standard faults a available _
  · exact use_finalize builtIn hashers n h a offered _ held taken
  · intro algorithm m v inside
    have allNow : AllTaken hashers := by
      rw [run]
      exact allTaken_after builtIn later _ all'
    exact use_update_eq_ok_iff builtIn hashers allNow algorithm m v inside

end

/-- Two bytes in two updates, with another hasher, a finalization and a refused text in between. -/
theorem finalize_gives_digest_of_all_fed_two_hashers :
    let c := standard [] (.bool true)
    let later : List Use := [.update (.text "md4") 1 (.bytes [97]),
      .update (.text "md5") 0 (.bytes [0]),
      .finalize (.text "md4") 1, .update (.text "md4") 1 (.text "a"),
      .update (.text "md4") 1 (.buffer [98])]
    let hashers := c.after [] (.make (.text "md5") :: .make (.text "md4") :: later)
    c.IsBuiltIn [] ∧ Algorithm.md4.name ∈ c.names ∧
      ∃ d digest, c.require (.text "md4") = .ok d ∧ d.computeData (.bytes [97, 98]) = .ok digest ∧
        c.use hashers (.finalize (.text "md4") 1) = (.ok (some digest), hashers) := by
  intro c later hashers
  have builtIn := isBuiltIn_standard [] (.bool true)
  have offered : Algorithm.md4.name ∈ c.names := by decide
  obtain ⟨-, given, -⟩ :=
    finalize_gives_digest_of_all_fed builtIn .md4 offered rfl [.make (.text "md5")] later
  exact ⟨builtIn, offered, given⟩

end Catalog
end Fingerprint
