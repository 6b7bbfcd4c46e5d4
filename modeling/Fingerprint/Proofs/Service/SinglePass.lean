import Fingerprint.Proofs.Catalog
import Fingerprint.Proofs.Service.Lockstep

/-! # Several digests in one pass

`computeFileMany` looks all algorithms up, then reads the file once for all of them. With a list
that names at least one algorithm it agrees with `computeFile` on each: there is a result when each
of them has one, under the listed names, each once and in the order of their first mention, and any
error is one that `computeFile` ends with for some listed algorithm. Without algorithms the file is
still opened and read. -/
set_option autoImplicit false
namespace Fingerprint.Service
variable {η : Type}

/-! ## The two outcomes as chains of steps -/

theorem nonpositive_of_make (catalog : Catalog η) (size : Value) (s : Service η)
    (made : make catalog size = .ok s) : s.chunkSize.nonpositive = .ok false := by
  unfold make checkChunkSize at made
  cases compared : size.nonpositive with
  | error f =>
      rw [compared] at made
      cases made
  | ok b =>
      rw [compared] at made
      cases b with
      | true => cases made
      | false =>
          cases made
          exact compared

theorem computeFile_eq (s : Service η) (proper : s.chunkSize.nonpositive = .ok false)
    (sources : Text → Source) (algorithm path : Value) :
    (s.computeFile sources algorithm path).1 =
      s.require algorithm >>= fun d => Input.path path >>= fun t =>
        d.runFile (sources t) t s.chunkSize := by
  unfold computeFile
  cases s.require algorithm with
  | error e => rfl
  | ok d => exact d.computeFile_fst sources path s.chunkSize proper

theorem computeFileMany_eq (s : Service η) (sources : Text → Source) (path algorithms : Value)
    (members : List Value) (listed : algorithms.members = .ok members) :
    (s.computeFileMany sources path algorithms).1 =
      s.requireAll [] members >>= fun ds => Input.path path >>= fun t =>
        runAll (sources t) t s.chunkSize ds := by
  unfold computeFileMany prepareMany runAll
  simp only [listed, mapError_ok, bind, Except.bind]
  cases s.requireAll [] members with
  | error e => rfl
  | ok ds =>
      simp only
      cases Input.path path with
      | error e => rfl
      | ok t =>
          simp only
          cases newHashers ds with
          | error e => rfl
          | ok hs => rfl

/-! ## Looking algorithms up -/

theorem require_eq_ok_iff (s : Service η) (algorithm : Value) (d : Descriptor η) :
    s.require algorithm = .ok d ↔ s.catalog.get? algorithm = some d :=
  s.catalog.require_eq_ok_iff algorithm d

theorem text_of_require (s : Service η) (algorithm : Value) (d : Descriptor η)
    (found : s.require algorithm = .ok d) : algorithm = .text d.name := by
  rw [require_eq_ok_iff] at found
  exact (s.catalog.mem_of_get? algorithm d found).2

theorem requireAll_error (s : Service η) (found : List (Descriptor η)) (algorithms : List Value)
    (e : Error) (ends : s.requireAll found algorithms = .error e) :
    ∃ a ∈ algorithms, s.require a = .error e := by
  induction algorithms generalizing found with
  | nil => cases ends
  | cons a rest ih =>
      rw [requireAll, bind_eq_error_iff] at ends
      rcases ends with head | ⟨d, -, tail⟩
      · exact ⟨a, List.mem_cons_self .., head⟩
      · obtain ⟨a', member, same⟩ := ih _ tail
        exact ⟨a', List.mem_cons_of_mem _ member, same⟩

theorem texts_injective (names others : List Text)
    (same : names.map Value.text = others.map Value.text) : names = others :=
  List.map_injective_iff.mpr (fun _ _ equal => Value.text.inj equal) same

theorem filter_known (known : List Text) (name : Text) (names : List Text) :
    (names.filter fun n => !(known ++ [name]).contains n) =
      (names.filter fun n => !known.contains n).filter fun n => !(n == name) := by
  rw [List.filter_filter]
  apply List.filter_congr
  intro n _
  simp only [List.contains_eq_mem, List.mem_append, List.mem_singleton]
  by_cases same : n = name
  · simp [same]
  · simp [same]

theorem requireAll_ok (s : Service η) (found ds : List (Descriptor η)) (algorithms : List Value)
    (run : s.requireAll found algorithms = .ok ds) :
    ∃ (names : List Text) (more : List (Descriptor η)),
      algorithms = names.map Value.text ∧ ds = found ++ more ∧
      more.map Descriptor.name =
        (names.filter fun n => !(found.map Descriptor.name).contains n).eraseDups ∧
      ∀ d ∈ more, s.require (.text d.name) = .ok d := by
  induction algorithms generalizing found with
  | nil =>
      cases run
      exact ⟨[], [], rfl, (List.append_nil _).symm, rfl, by simp⟩
  | cons a rest ih =>
      rw [requireAll, bind_eq_ok_iff] at run
      obtain ⟨d, head, tail⟩ := run
      obtain ⟨names, more, rfl, joined, firsts, looked⟩ := ih _ tail
      have text := text_of_require s a d head
      have known : (found.any fun f => f.name == d.name) =
          (found.map Descriptor.name).contains d.name := by
        rw [Bool.eq_iff_iff]
        simp [List.mem_map]
      rw [known] at joined firsts
      -- A name that was there is left out on both sides. A new one comes first, and what follows
      -- leaves it out as one that is there now.
      by_cases seen : (found.map Descriptor.name).contains d.name = true
      · rw [if_pos seen] at joined firsts
        refine ⟨d.name :: names, more, by rw [text]; rfl, joined, ?_, looked⟩
        rw [List.filter_cons_of_neg (by simp only [seen]; decide)]
        exact firsts
      · rw [if_neg seen] at joined firsts
        refine ⟨d.name :: names, d :: more, by rw [text]; rfl, ?_, ?_, ?_⟩
        · rw [joined, List.append_assoc, List.singleton_append]
        · rw [List.filter_cons_of_pos (by simpa using seen), List.eraseDups_cons, List.map_cons,
            firsts, List.map_append, List.map_cons, List.map_nil, filter_known]
        · intro other member
          rcases List.mem_cons.mp member with rfl | later
          · rw [← text]
            exact head
          · exact looked other later

theorem descriptors_of_requireAll (s : Service η) (ds : List (Descriptor η))
    (algorithms : List Value) (run : s.requireAll [] algorithms = .ok ds) :
    ∃ names : List Text, algorithms = names.map Value.text ∧
      ds.map Descriptor.name = names.eraseDups ∧
      ∀ d ∈ ds, s.require (.text d.name) = .ok d := by
  obtain ⟨names, more, listed, joined, firsts, looked⟩ := s.requireAll_ok [] ds algorithms run
  rw [List.nil_append] at joined
  subst joined
  refine ⟨names, listed, ?_, looked⟩
  rw [firsts, List.filter_eq_self.mpr]
  intro n _
  rfl

theorem mentioned_of_requireAll (s : Service η) (ds : List (Descriptor η))
    (algorithms : List Value) (run : s.requireAll [] algorithms = .ok ds) (d : Descriptor η)
    (member : d ∈ ds) : Value.text d.name ∈ algorithms ∧ s.require (.text d.name) = .ok d := by
  obtain ⟨names, rfl, firsts, found⟩ := s.descriptors_of_requireAll ds algorithms run
  have first : d.name ∈ names.eraseDups := by
    rw [← firsts]
    exact List.mem_map_of_mem member
  exact ⟨List.mem_map_of_mem (List.mem_eraseDups.mp first), found d member⟩

theorem found_of_requireAll (s : Service η) (ds : List (Descriptor η)) (algorithms : List Value)
    (run : s.requireAll [] algorithms = .ok ds) (a : Value) (member : a ∈ algorithms) :
    ∃ d ∈ ds, s.catalog.get? a = some d := by
  obtain ⟨names, rfl, firsts, found⟩ := s.descriptors_of_requireAll ds algorithms run
  obtain ⟨name, mentioned, rfl⟩ := List.mem_map.mp member
  have first : name ∈ ds.map Descriptor.name := by
    rw [firsts]
    exact List.mem_eraseDups.mpr mentioned
  obtain ⟨d, earlier, rfl⟩ := List.mem_map.mp first
  exact ⟨d, earlier, (s.require_eq_ok_iff _ d).mp (found d earlier)⟩

theorem mem_requireAll_iff (s : Service η) (ds : List (Descriptor η)) (algorithms : List Value)
    (run : s.requireAll [] algorithms = .ok ds) (d : Descriptor η) :
    d ∈ ds ↔ ∃ a ∈ algorithms, s.catalog.get? a = some d := by
  constructor
  · intro member
    obtain ⟨mentioned, found⟩ := s.mentioned_of_requireAll ds algorithms run d member
    exact ⟨_, mentioned, (s.require_eq_ok_iff _ d).mp found⟩
  · rintro ⟨a, mentioned, found⟩
    obtain ⟨d', member, again⟩ := s.found_of_requireAll ds algorithms run a mentioned
    rw [found] at again
    cases again
    exact member

theorem requireAll_returns_iff (s : Service η) (algorithms : List Value) :
    (∃ ds, s.requireAll [] algorithms = .ok ds) ↔
      ∀ a ∈ algorithms, ∃ d, s.catalog.get? a = some d := by
  constructor
  · rintro ⟨ds, run⟩ a mentioned
    obtain ⟨d, -, found⟩ := s.found_of_requireAll ds algorithms run a mentioned
    exact ⟨d, found⟩
  · intro known
    cases run : s.requireAll [] algorithms with
    | ok ds => exact ⟨ds, rfl⟩
    | error e =>
        obtain ⟨a, member, unknown⟩ := s.requireAll_error [] algorithms e run
        obtain ⟨d, found⟩ := known a member
        rw [(s.require_eq_ok_iff a d).mpr found] at unknown
        cases unknown

theorem exists_of_requireAll (s : Service η) (ds : List (Descriptor η)) (algorithms : List Value)
    (run : s.requireAll [] algorithms = .ok ds) (listed : algorithms ≠ []) : ∃ d, d ∈ ds := by
  obtain ⟨a, mentioned⟩ := List.exists_mem_of_ne_nil algorithms listed
  obtain ⟨d, member, -⟩ := s.found_of_requireAll ds algorithms run a mentioned
  exact ⟨d, member⟩

theorem feed_no_hashers (reads : Nat) (replies : List Reply) (hs : List (Descriptor η × η)) :
    (feed (fun hs piece => updateAll (η := η) piece hs) [] reads replies).1 = .ok hs ↔
      hs = [] ∧ ReadThrough replies := by
  induction replies generalizing reads with
  | nil =>
      simp only [feed, Except.ok.injEq]
      exact ⟨fun same => ⟨same.symm, .exhausted⟩, fun both => both.1.symm⟩
  | cons reply later ih =>
      cases reply with
      | fault f =>
          constructor
          · intro fed
            cases fed
          · rintro ⟨-, through⟩
            cases through
      | data v =>
          by_cases empty : v.isEmptyBytes = true
          · simp only [feed, if_pos empty, Except.ok.injEq]
            exact ⟨fun same => ⟨same.symm, .ended v later empty⟩, fun both => both.1.symm⟩
          · simp only [feed, if_neg empty, updateAll]
            rw [ih]
            refine and_congr_right fun _ => ⟨.piece v later, ?_⟩
            intro through
            cases through with
            | ended _ _ isEmpty => exact absurd isEmpty empty
            | piece _ _ rest => exact rest

theorem runAll_nil (source : Source) (path : Text) (size : Value) (digests : List (Text × Text)) :
    runAll (η := η) source path size [] = .ok digests ↔
      digests = [] ∧ source.ReadsToEnd size := by
  unfold runAll Source.ReadsToEnd
  simp only [newHashers, bind_eq_ok_iff, Except.ok.injEq]
  by_cases refused : ∃ f, source = .refused f
  · obtain ⟨f, rfl⟩ := refused
    constructor
    · rintro ⟨_, -, hs, fed, -⟩
      cases fed
    · rintro ⟨-, opens, -⟩
      exact absurd rfl (opens f)
  · have opens : source.Opens := fun f same => refused ⟨f, same⟩
    simp only [consume_opened source path size _ _ opens, mapError_eq_ok_iff]
    constructor
    · rintro ⟨_, rfl, hs, fed, finished⟩
      obtain ⟨rfl, through⟩ := (feed_no_hashers 0 _ hs).mp fed
      cases finished
      exact ⟨rfl, opens, through⟩
    · rintro ⟨rfl, -, through⟩
      exact ⟨[], rfl, [], (feed_no_hashers 0 _ []).mpr ⟨rfl, through⟩, rfl⟩

/-- The result has an entry for each descriptor, and it is what the descriptor gives on its own. -/
theorem entries_of_runAll (source : Source) (path : Text) (size : Value)
    (ds : List (Descriptor η)) (digests : List (Text × Text))
    (passed : runAll source path size ds = .ok digests) :
    List.Forall₂ (fun d entry => d.name = entry.1 ∧ d.runFile source path size = .ok entry.2)
      ds digests := by
  by_cases nonempty : ds = []
  · subst nonempty
    rw [((runAll_nil source path size digests).mp passed).1]
    exact .nil
  · refine (((lockstep_runAll source path size).results ds digests nonempty).mp passed).imp ?_
    intro d entry gave
    obtain ⟨digest, alone, rfl⟩ := (map_eq_ok_iff _ _ _).mp gave
    exact ⟨rfl, alone⟩

theorem keys_of_runAll (source : Source) (path : Text) (size : Value) (ds : List (Descriptor η))
    (digests : List (Text × Text)) (passed : runAll source path size ds = .ok digests) :
    digests.map Prod.fst = ds.map Descriptor.name := by
  have related := entries_of_runAll source path size ds digests passed
  clear passed
  induction related with
  | nil => rfl
  | cons head _ ih => rw [List.map_cons, List.map_cons, ih, head.1]

theorem entry_of_computeFileMany (s : Service η) (sources : Text → Source)
    (path algorithms : Value) (digests : List (Text × Text))
    (run : (s.computeFileMany sources path algorithms).1 = .ok digests) (entry : Text × Text)
    (member : entry ∈ digests) :
    ∃ d t, s.require (.text entry.1) = .ok d ∧ Input.path path = .ok t ∧
      d.runFile (sources t) t s.chunkSize = .ok entry.2 := by
  cases listed : algorithms.members with
  | error f =>
      unfold computeFileMany prepareMany at run
      rw [listed] at run
      cases run
  | ok members =>
      rw [s.computeFileMany_eq sources path algorithms members listed, bind_eq_ok_iff] at run
      obtain ⟨ds, looked, run⟩ := run
      obtain ⟨t, resolved, passed⟩ := (bind_eq_ok_iff _ _ _).mp run
      obtain ⟨d, earlier, name, alone⟩ :=
        Lockstep.mem_of_forall₂ (entries_of_runAll _ t _ ds digests passed) entry member
      obtain ⟨-, found⟩ := s.mentioned_of_requireAll ds members looked d earlier
      rw [← name]
      exact ⟨d, t, found, resolved, alone⟩

/-! ## One pass and single passes -/

theorem digests_of_computeFileMany (s : Service η) (proper : s.chunkSize.nonpositive = .ok false)
    (sources : Text → Source) (path : Value) (algorithms : List Value)
    (digests : List (Text × Text))
    (run : (s.computeFileMany sources path (.list algorithms)).1 = .ok digests) :
    ∃ names : List Text, algorithms = names.map Value.text ∧
      digests.map Prod.fst = names.eraseDups ∧
      ∀ entry ∈ digests, (s.computeFile sources (.text entry.1) path).1 = .ok entry.2 := by
  have values : ∀ entry ∈ digests,
      (s.computeFile sources (.text entry.1) path).1 = .ok entry.2 := by
    intro entry member
    obtain ⟨d, t, same, resolved, alone⟩ :=
      s.entry_of_computeFileMany sources path _ digests run entry member
    rw [s.computeFile_eq proper, same, resolved]
    exact alone
  rw [s.computeFileMany_eq sources path _ _ rfl, bind_eq_ok_iff] at run
  obtain ⟨ds, looked, run⟩ := run
  obtain ⟨t, -, passed⟩ := (bind_eq_ok_iff _ _ _).mp run
  obtain ⟨names, rfl, firsts, -⟩ := s.descriptors_of_requireAll ds algorithms looked
  refine ⟨names, rfl, ?_, values⟩
  rw [keys_of_runAll _ t _ ds digests passed, firsts]

theorem error_of_computeFileMany (s : Service η) (proper : s.chunkSize.nonpositive = .ok false)
    (sources : Text → Source) (path : Value) (algorithms : List Value) (listed : algorithms ≠ [])
    (e : Error) (run : (s.computeFileMany sources path (.list algorithms)).1 = .error e) :
    ∃ a ∈ algorithms, (s.computeFile sources a path).1 = .error e := by
  rw [s.computeFileMany_eq sources path _ _ rfl, bind_eq_error_iff] at run
  rcases run with unknown | ⟨ds, looked, run⟩
  · obtain ⟨a, member, same⟩ := s.requireAll_error [] algorithms e unknown
    refine ⟨a, member, ?_⟩
    rw [s.computeFile_eq proper, same]
    rfl
  · have looks := s.mentioned_of_requireAll ds algorithms looked
    obtain ⟨first, there⟩ := s.exists_of_requireAll ds algorithms looked listed
    rcases (bind_eq_error_iff _ _ _).mp run with refused | ⟨t, resolved, failed⟩
    · obtain ⟨mentioned, found⟩ := looks first there
      refine ⟨_, mentioned, ?_⟩
      rw [s.computeFile_eq proper, found, refused]
      rfl
    · have nonempty : ds ≠ [] := List.ne_nil_of_mem there
      obtain ⟨d, member, alone⟩ := (lockstep_runAll _ t s.chunkSize).errors ds e nonempty failed
      obtain ⟨mentioned, found⟩ := looks d member
      refine ⟨_, mentioned, ?_⟩
      rw [s.computeFile_eq proper, found, resolved]
      exact (map_eq_error_iff _ _ _).mp alone

/-- One pass for several algorithms against a pass for each. -/
theorem computeFileMany_agrees (catalog : Catalog η) (size : Value) (s : Service η)
    (made : make catalog size = .ok s) (sources : Text → Source) (path : Value) :
    (∀ algorithms : List Value, algorithms ≠ [] →
      ((∃ digests, (s.computeFileMany sources path (.list algorithms)).1 = .ok digests) ↔
        ∀ a ∈ algorithms, ∃ digest, (s.computeFile sources a path).1 = .ok digest) ∧
      (∀ digests, (s.computeFileMany sources path (.list algorithms)).1 = .ok digests →
        ∃ names : List Text, algorithms = names.map Value.text ∧
          digests.map Prod.fst = names.eraseDups ∧
          ∀ entry ∈ digests, (s.computeFile sources (.text entry.1) path).1 = .ok entry.2) ∧
      (∀ e, (s.computeFileMany sources path (.list algorithms)).1 = .error e →
        ∃ a ∈ algorithms, (s.computeFile sources a path).1 = .error e)) ∧
    ((s.computeFileMany sources path (.list [])).1 = .ok [] ↔
      ∃ t, Input.path path = .ok t ∧ (sources t).ReadsToEnd s.chunkSize) := by
  have proper := nonpositive_of_make catalog size s made
  refine ⟨?_, ?_⟩
  · intro algorithms listed
    have digestsOf := s.digests_of_computeFileMany proper sources path algorithms
    have errorOf := s.error_of_computeFileMany proper sources path algorithms listed
    refine ⟨⟨?_, ?_⟩, digestsOf, errorOf⟩
    · rintro ⟨digests, run⟩ a member
      obtain ⟨names, rfl, keys, values⟩ := digestsOf digests run
      obtain ⟨name, mentioned, rfl⟩ := List.mem_map.mp member
      have key : name ∈ digests.map Prod.fst := by
        rw [keys]
        exact List.mem_eraseDups.mpr mentioned
      obtain ⟨entry, there, rfl⟩ := List.mem_map.mp key
      exact ⟨entry.2, values entry there⟩
    · intro each
      cases run : (s.computeFileMany sources path (.list algorithms)).1 with
      | ok digests => exact ⟨digests, rfl⟩
      | error e =>
          obtain ⟨a, member, failed⟩ := errorOf e run
          obtain ⟨digest, gave⟩ := each a member
          rw [failed] at gave
          cases gave
  · rw [s.computeFileMany_eq sources path _ _ rfl, bind_eq_ok_iff]
    constructor
    · rintro ⟨ds, looked, run⟩
      cases looked
      obtain ⟨t, resolved, passed⟩ := (bind_eq_ok_iff _ _ _).mp run
      exact ⟨t, resolved, ((runAll_nil _ t _ _).mp passed).2⟩
    · rintro ⟨t, resolved, reads⟩
      have passed := (runAll_nil (η := η) (sources t) t s.chunkSize []).mpr ⟨rfl, reads⟩
      exact ⟨[], rfl, (bind_eq_ok_iff _ _ _).mpr ⟨t, resolved, passed⟩⟩

def fixedStrategy (name digest : Text) : Strategy Hasher :=
  .ofScript ⟨name, 1, false, none, none, some (.final (.text digest))⟩

/-- An algorithm that is mentioned twice has one digest, at its first place. -/
theorem computeFileMany_agrees_mentioned_twice :
    let catalog : Catalog Hasher :=
      ⟨.null, [.ofStrategy (fixedStrategy "a" "0a"), .ofStrategy (fixedStrategy "b" "0b")]⟩
    let s : Service Hasher := ⟨catalog, .int 4⟩
    let sources : Text → Source := fun _ => .scripted [.data (.bytes [1, 2]), .data (.bytes [3])]
    let algorithms : List Value := [.text "b", .text "a", .text "b"]
    make catalog (.int 4) = .ok s ∧ algorithms ≠ [] ∧
      ∃ digests, (s.computeFileMany sources (.text "f") (.list algorithms)).1 = .ok digests ∧
        digests.map Prod.fst = ["b", "a"] ∧
        ∀ entry ∈ digests, (s.computeFile sources (.text entry.1) (.text "f")).1 = .ok entry.2 := by
  intro catalog s sources algorithms
  have made : make catalog (.int 4) = .ok s := rfl
  have some : algorithms ≠ [] := List.cons_ne_nil _ _
  obtain ⟨exactly, results, -⟩ :=
    (computeFileMany_agrees catalog (.int 4) s made sources (.text "f")).1 algorithms some
  have each : ∀ a ∈ algorithms, ∃ digest, (s.computeFile sources a (.text "f")).1 = .ok digest := by
    intro a member
    simp only [algorithms, List.mem_cons, List.not_mem_nil, or_false] at member
    rcases member with rfl | rfl | rfl
    · exact ⟨"0b", rfl⟩
    · exact ⟨"0a", rfl⟩
    · exact ⟨"0b", rfl⟩
  obtain ⟨digests, run⟩ := exactly.mpr each
  obtain ⟨names, same, keys, values⟩ := results digests run
  have spelled : names = ["b", "a", "b"] := texts_injective names _ same.symm
  refine ⟨made, some, digests, run, ?_, values⟩
  rw [keys, spelled]
  decide

end Fingerprint.Service
