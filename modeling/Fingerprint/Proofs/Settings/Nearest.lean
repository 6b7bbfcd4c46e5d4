import Fingerprint.Proofs.Settings.Skipping

/-! # The nearest directory with a config file

A search goes through a directory and its ancestors, nearest first (`Path.mem_chain_iff`,
`Path.pairwise_chain`), so the first of them that offers something is the nearest
(`Path.first_iff_nearest`). A directory offers its own config file, or else a project file that has
something for this program. An empty table is not something, while a value that is no table may be
(`nearest_config_has_something_in_its_section`). -/
set_option autoImplicit false
namespace Fingerprint

namespace Path

/-- A directory or one of its ancestors, by spelling. -/
def Above (a p : Path) : Prop := a.root = p.root ∧ a.parts <+: p.parts

theorem Above.refl (p : Path) : p.Above p := ⟨rfl, List.prefix_refl _⟩

theorem Above.antisymm (a b : Path) (up : a.Above b) (down : b.Above a) : a = b := by
  have parts : a.parts = b.parts :=
    up.2.eq_of_length (Nat.le_antisymm up.2.length_le down.2.length_le)
  cases a
  cases b
  cases up.1
  cases parts
  rfl

/-- Of all directories from `start` upwards for which `P` holds, this is the nearest. -/
structure Nearest (P : Path → Prop) (start a : Path) : Prop where
  above : a.Above start
  holds : P a
  closest : ∀ b, b.Above start → P b → b.Above a

-- The parts come last first, so that a step up takes the head off.
theorem mem_go_iff (root : Text) (reversed : List Text) (a : Path) :
    a ∈ chain.go root reversed ↔ a.Above ⟨root, reversed.reverse⟩ := by
  induction reversed with
  | nil =>
      rw [chain.go, List.mem_singleton]
      constructor
      · rintro rfl
        exact .refl _
      · rintro ⟨same, short⟩
        cases a
        cases same
        cases List.prefix_nil.mp short
        rfl
  | cons part rest ih =>
      rw [chain.go, List.mem_cons, ih]
      unfold Above
      rw [List.reverse_cons, List.prefix_concat_iff]
      constructor
      · rintro (rfl | ⟨same, higher⟩)
        · exact ⟨rfl, Or.inl rfl⟩
        · exact ⟨same, Or.inr higher⟩
      · rintro ⟨same, whole | higher⟩
        · cases a
          cases same
          cases whole
          exact Or.inl rfl
        · exact Or.inr ⟨same, higher⟩

theorem mem_chain_iff (p a : Path) : a ∈ p.chain ↔ a.Above p := by
  rw [chain, mem_go_iff, List.reverse_reverse]

theorem pairwise_chain (p : Path) : p.chain.Pairwise fun a b => b.Above a ∧ b ≠ a := by
  unfold chain
  induction p.parts.reverse with
  | nil => exact List.pairwise_singleton _ _
  | cons part rest ih =>
      refine List.Pairwise.cons (fun b member => ?_) ih
      obtain ⟨same, higher⟩ := (mem_go_iff p.root rest b).mp member
      refine ⟨⟨same, higher.trans (by simp)⟩, ?_⟩
      rintro rfl
      have short := higher.length_le
      simp only [List.length_reverse, List.length_cons] at short
      omega

theorem first_iff_nearest (P : Path → Prop) (p d : Path) :
    ((∃ before after, p.chain = before ++ d :: after ∧ ∀ b ∈ before, ¬ P b) ∧ P d) ↔
      Nearest P p d := by
  constructor
  · rintro ⟨⟨before, after, split, none⟩, holds⟩
    have order := p.pairwise_chain
    rw [split, List.pairwise_append, List.pairwise_cons] at order
    refine ⟨(mem_chain_iff p d).mp ?_, holds, fun b above also => ?_⟩
    · rw [split]
      exact List.mem_append_right _ List.mem_cons_self
    · have member := (mem_chain_iff p b).mpr above
      rw [split, List.mem_append, List.mem_cons] at member
      rcases member with earlier | rfl | later
      · exact absurd also (none b earlier)
      · exact .refl b
      · exact (order.2.1.1 b later).1
  · rintro ⟨above, holds, closest⟩
    obtain ⟨before, after, split⟩ := List.append_of_mem ((mem_chain_iff p d).mpr above)
    refine ⟨⟨before, after, split, fun b earlier also => ?_⟩, holds⟩
    have order := p.pairwise_chain
    rw [split, List.pairwise_append] at order
    -- `d` is above what comes earlier; that it is the nearest would put `b` above `d` as well.
    obtain ⟨up, other⟩ := order.2.2 b earlier d List.mem_cons_self
    have member : b ∈ p.chain := by
      rw [split]
      exact List.mem_append_left _ earlier
    exact other (up.antisymm _ _ (closest b ((mem_chain_iff p b).mp member) also))

end Path

namespace Settings

def HasSection (h : Host) (directory : Path) (v : Value) : Prop :=
  ∃ (bytes : Bytes) (document tools : Entries),
    h.content (projectPath directory).text = .ok bytes ∧ Writes bytes document ∧
    document.get? "tool" = some (.dict tools) ∧ tools.get? "digestkit" = some v

/-- A project file, if it can be read, is TOML, and its tools, if there are any, are a table. -/
def WellFormedProject (h : Host) (directory : Path) : Prop :=
  ∀ bytes, h.content (projectPath directory).text = .ok bytes →
    ∃ document, Writes bytes document ∧
      ∀ v, document.get? "tool" = some v → ∃ tools, v = .dict tools

/-- What a search ends with when it comes to the directory: the directory's own config file, or a
project file with something for this program. A name that is too long to be looked at ends it too. -/
inductive Offers (h : Host) (directory : Path) : Except Error Path → Prop where
  | own (there : h.exists? (configPath directory).text = .ok true) :
      Offers h directory (.ok (configPath directory))
  | project (noOwn : NoOwn h directory) (v : Value) (part : HasSection h directory v)
      (something : v.isTrue = true) : Offers h directory (.ok (projectPath directory))
  | ownTooLong (f : Fault) (long : h.exists? (configPath directory).text = .error f) :
      Offers h directory (.error (.fault (.nameTooLong (configPath directory).text)))
  | projectTooLong (noOwn : NoOwn h directory) (f : Fault)
      (long : h.exists? (projectPath directory).text = .error f) :
      Offers h directory (.error (.fault (.nameTooLong (projectPath directory).text)))

theorem Writes.unique (bytes : Bytes) (document other : Entries) (written : Writes bytes document)
    (also : Writes bytes other) : other = document := by
  obtain ⟨t, decoded, parsed⟩ := written
  obtain ⟨t', decoded', parsed'⟩ := also
  rw [decoded] at decoded'
  cases decoded'
  rw [parsed] at parsed'
  cases parsed'
  rfl

theorem exists?_of_content (h : Host) (path : Text) (bytes : Bytes)
    (content : h.content path = .ok bytes) : h.exists? path = .ok true := by
  unfold Host.content Disk.source at content
  unfold Host.exists? Disk.exists?
  cases looked : h.disk.lookup h.directory path with
  | error f =>
      rw [looked] at content
      cases content
  | ok there =>
      rw [looked] at content
      cases there with
      | found place entry => rfl
      | free place => cases content

/-! ## One directory -/

section
variable (h : Host) (directory : Path)

theorem finds_iff_offers (p : Path) : Finds h directory p ↔ Offers h directory (.ok p) := by
  constructor
  · intro finds
    cases finds with
    | own there => exact .own there
    | project asks bytes content v gives used =>
        cases gives with
        | whole other => exact absurd rfl other
        | toolless => cases used
        | tool _ document tools written named =>
            cases found : tools.get? "digestkit" with
            | none =>
                rw [found] at used
                cases used
            | some v =>
                rw [found] at used
                exact .project asks.noOwn v ⟨bytes, document, tools, content, written, named, found⟩
                  used
  · intro offers
    cases offers with
    | own there => exact .own there
    | project noOwn v part something =>
        obtain ⟨bytes, document, tools, content, written, named, found⟩ := part
        have gives : Gives projectFileName bytes _ := .tool rfl document tools written named
        rw [found] at gives
        exact .project ⟨noOwn, exists?_of_content h _ bytes content⟩ bytes content v gives something

theorem not_escapes (project : WellFormedProject h directory) (bytes : Bytes)
    (content : h.content (projectPath directory).text = .ok bytes) (f : Fault) :
    ¬ Escapes projectFileName bytes f := by
  obtain ⟨document, ⟨t, decoded, parsed⟩, tables⟩ := project bytes content
  intro escapes
  cases escapes with
  | undecodable broken =>
      rw [decoded] at broken
      cases broken
  | beyond t' limit f decoded' refused =>
      rw [decoded] at decoded'
      cases decoded'
      rw [parsed] at refused
      cases refused
  | noTools _ document' tools written named noTable =>
      cases Writes.unique bytes document document' ⟨t, decoded, parsed⟩ written
      obtain ⟨es, rfl⟩ := tables tools named
      exact noTable es rfl

theorem stops_iff_offers (project : WellFormedProject h directory) (e : Error) :
    (∃ f, Stops h directory f ∧ e = .fault f) ↔ Offers h directory (.error e) := by
  constructor
  · rintro ⟨f, stops, rfl⟩
    cases stops with
    | own f long => exact .ownTooLong f long
    | project noOwn f long => exact .projectTooLong noOwn f long
    | content asks bytes content f escapes =>
        exact absurd escapes (not_escapes h directory project bytes content f)
  · intro offers
    cases offers with
    | ownTooLong f long => exact ⟨_, .own f long, rfl⟩
    | projectTooLong noOwn f long => exact ⟨_, .project noOwn f long, rfl⟩

theorem passes_iff (project : WellFormedProject h directory) :
    Passes h directory ↔ ¬ ∃ r, Offers h directory r := by
  constructor
  · rintro passes ⟨r, offers⟩
    cases r with
    | ok p =>
        exact not_passes_of_finds h directory p ((finds_iff_offers h directory p).mpr offers) passes
    | error e =>
        obtain ⟨f, stops, -⟩ := (stops_iff_offers h directory project e).mpr offers
        exact not_passes_of_stops h directory f stops passes
  · intro none
    rcases directory_cases h directory with passes | ⟨p, finds⟩ | ⟨f, stops⟩
    · exact passes
    · exact absurd ⟨_, (finds_iff_offers h directory p).mp finds⟩ none
    · exact absurd ⟨_, (stops_iff_offers h directory project _).mp ⟨f, stops, rfl⟩⟩ none

/-! ## The way up -/

variable (projects : ∀ a : Path, a.Above directory → WellFormedProject h a)
include projects

theorem reaches_iff_nearest (d : Path) (r : Except Error Path) (offers : Offers h d r) :
    Reaches h directory.chain d ↔ directory.Nearest (fun a => ∃ r, Offers h a r) d := by
  rw [← Path.first_iff_nearest]
  have passed (before after : List Path) (split : directory.chain = before ++ d :: after) (b : Path)
      (earlier : b ∈ before) : Passes h b ↔ ¬ ∃ r, Offers h b r := by
    refine passes_iff h b (projects b ((Path.mem_chain_iff directory b).mp ?_))
    rw [split]
    exact List.mem_append_left _ earlier
  constructor
  · rintro ⟨before, after, split, all⟩
    exact ⟨⟨before, after, split, fun b earlier =>
      (passed before after split b earlier).mp (all b earlier)⟩, r, offers⟩
  · rintro ⟨⟨before, after, split, none⟩, -⟩
    exact ⟨before, after, split, fun b earlier =>
      (passed before after split b earlier).mpr (none b earlier)⟩

end

/-- A search ends with what the nearest directory offers that offers anything, and finds nothing
where none does. -/
theorem nearest_config_has_something_in_its_section (h : Host) (start : Value) (directory : Path)
    (started : startDirectory h start = .ok directory)
    (projects : ∀ a : Path, a.Above directory → WellFormedProject h a) :
    let result := (findConfig h start).outcome.1
    (∀ r : Except Error Path, result = r.map some ↔
      ∃ d, directory.Nearest (fun a => ∃ r, Offers h a r) d ∧ Offers h d r) ∧
    (result = .ok none ↔ ∀ a : Path, a.Above directory → ∀ r, ¬ Offers h a r) := by
  intro result
  have run : result = ((findIn h directory.chain).runFrom []).1 :=
    congrArg Prod.fst (outcome_findConfig h start directory started)
  rw [run]
  have nearest (d : Path) (r : Except Error Path) (offers : Offers h d r) :=
    reaches_iff_nearest h directory projects d r offers
  constructor
  · intro r
    cases r with
    | ok p =>
        refine (findIn_eq_found_iff h _ _ p).trans (exists_congr fun d => ?_)
        rw [finds_iff_offers]
        exact and_congr_left (nearest d (.ok p))
    | error e =>
        refine (findIn_eq_error_iff h _ _ e).trans (exists_congr fun d => ?_)
        constructor
        · rintro ⟨f, reaches, stops, rfl⟩
          have above := (Path.mem_chain_iff directory d).mp (by
            obtain ⟨before, after, split, -⟩ := reaches
            rw [split]
            exact List.mem_append_right _ List.mem_cons_self)
          have offers := (stops_iff_offers h d (projects d above) _).mp ⟨f, stops, rfl⟩
          exact ⟨(nearest d _ offers).mp reaches, offers⟩
        · rintro ⟨isNearest, offers⟩
          obtain ⟨f, stops, same⟩ :=
            (stops_iff_offers h d (projects d isNearest.above) e).mpr offers
          exact ⟨f, (nearest d _ offers).mpr isNearest, stops, same⟩
  · rw [findIn_eq_none_iff]
    simp only [Path.mem_chain_iff]
    refine forall₂_congr fun a above => ?_
    rw [passes_iff h a (projects a above), not_exists]

/-- A project file whose section is empty lies between the start and the config file above it. -/
theorem nearest_config_has_something_in_its_section_empty_on_the_way :
    let written : Bytes := "[tool.digestkit]\n".toUTF8.data.toList
    let settings : Location := [Disk.nameBytes ".digestkit"]
    let h := onFiles [([Disk.nameBytes "a"], .directory),
      ([Disk.nameBytes "a", Disk.nameBytes projectFileName], .file written),
      (settings, .directory), (settings ++ [Disk.nameBytes "config.toml"], .file [])]
    startDirectory h (.text "/a") = .ok (.ofText "/a") ∧
      (∀ a : Path, a.Above (.ofText "/a") → WellFormedProject h a) ∧
      (findConfig h (.text "/a")).outcome.1 = .ok (some (configPath (.ofText "/"))) := by
  intro written settings h
  have started : startDirectory h (.text "/a") = .ok (.ofText "/a") := rfl
  have writes : Writes written [("tool", .dict [("digestkit", .dict [])])] :=
    ⟨_, Utf8.decode?_ascii written rfl, rfl⟩
  have chain : (Path.ofText "/a").chain = [.ofText "/a", .ofText "/"] := rfl
  have content : h.content (projectPath (.ofText "/a")).text = .ok written := rfl
  have ways (a : Path) (above : a.Above (.ofText "/a")) : a = .ofText "/a" ∨ a = .ofText "/" := by
    have member := (Path.mem_chain_iff _ a).mpr above
    rw [chain] at member
    exact (List.mem_cons.mp member).imp_right List.mem_singleton.mp
  have projects : ∀ a : Path, a.Above (.ofText "/a") → WellFormedProject h a := by
    intro a above bytes read
    rcases ways a above with rfl | rfl
    · rw [content] at read
      cases read
      refine ⟨_, writes, fun v named => ?_⟩
      cases named
      exact ⟨_, rfl⟩
    · cases read
  have offersNothing (r : Except Error Path) : ¬ Offers h (.ofText "/a") r := by
    intro offers
    cases offers with
    | own there => cases there
    | project noOwn v part something =>
        obtain ⟨bytes, document, tools, read, also, named, found⟩ := part
        rw [content] at read
        cases read
        cases Writes.unique written _ document writes also
        cases named
        cases found
        cases something
    | ownTooLong f long => cases long
    | projectTooLong noOwn f long => cases long
  have own : Offers h (.ofText "/") (.ok (configPath (.ofText "/"))) := .own rfl
  refine ⟨started, projects, ?_⟩
  refine ((nearest_config_has_something_in_its_section h (.text "/a") _ started projects).1
    (.ok _)).mpr ⟨.ofText "/", ⟨⟨rfl, List.nil_prefix⟩, ⟨_, own⟩, fun b above offers => ?_⟩, own⟩
  rcases ways b above with rfl | rfl
  · obtain ⟨r, offers⟩ := offers
    exact absurd offers (offersNothing r)
  · exact .refl _

/-- An empty section is passed over, and a number in the place of a section is not. -/
theorem section_is_told_by_truth :
    let onProject (written : String) : Host :=
      onFiles [([Disk.nameBytes projectFileName], .file written.toUTF8.data.toList)]
    let empty := onProject "[tool.digestkit]\n"
    let number := onProject "[tool]\ndigestkit = 5\n"
    HasSection empty (.ofText "/") (.dict []) ∧
      (findConfig empty (.text "/")).outcome.1 = .ok none ∧
      HasSection number (.ofText "/") (.int 5) ∧
      (findConfig number (.text "/")).outcome.1 = .ok (some (projectPath (.ofText "/"))) := by
  intro onProject empty number
  have emptySection : HasSection empty (.ofText "/") (.dict []) :=
    ⟨_, _, _, rfl, ⟨_, Utf8.decode?_ascii _ rfl, rfl⟩, rfl, rfl⟩
  have numberSection : HasSection number (.ofText "/") (.int 5) :=
    ⟨_, _, _, rfl, ⟨_, Utf8.decode?_ascii _ rfl, rfl⟩, rfl, rfl⟩
  refine ⟨emptySection, ?_, numberSection, ?_⟩
  · obtain ⟨bytes, document, tools, content, written, named, found⟩ := emptySection
    have gives : Gives projectFileName bytes _ := .tool rfl document tools written named
    rw [found] at gives
    rw [outcome_findConfig empty (.text "/") (.ofText "/") rfl]
    refine findIn_of_passed empty _ [] fun d member => ?_
    cases List.mem_singleton.mp member
    exact .useless ⟨rfl, rfl⟩ bytes content (.unused _ gives rfl)
  · have offers : Offers number (.ofText "/") (.ok (projectPath (.ofText "/"))) :=
      .project rfl (.int 5) numberSection rfl
    rw [outcome_findConfig number (.text "/") (.ofText "/") rfl]
    exact findIn_of_reaches_finds number _ [] (.ofText "/") _ ⟨[], [], rfl, nofun⟩
      ((finds_iff_offers number _ _).mpr offers)

end Settings
end Fingerprint
