import Mathlib.Data.List.Nodup
import Mathlib.Order.Fin.Basic
import Fingerprint.Session.Namespace
import Fingerprint.Proofs.Session.Hashing

/-! # Functions by name

A table of functions is filled one function after another, and a later function takes the place of an
earlier one of the same name. Of distinct algorithms all functions for data come first, so they keep
their places, and no two functions for files share a name: every algorithm has its function for
files. Its function for data is lost where another algorithm's function for files bears its name. -/
set_option autoImplicit false
namespace Fingerprint

namespace Namespace
variable (n rest : Namespace) (f g : NamedFunction) (k m : Text)

@[simp] theorem names_cons : names ((k, g) :: rest) = k :: names rest := rfl

theorem find?_cons : find? ((k, g) :: rest) m = if m = k then some g else find? rest m := by
  by_cases same : m = k
  · simp [find?, same]
  · have differ : (m == k) = false := beq_eq_false_iff_ne.mpr same
    simp [find?, List.lookup_cons, same, differ]

theorem names_put :
    (put f n).names = if f.name ∈ n.names then n.names else n.names ++ [f.name] := by
  induction n with
  | nil => rfl
  | cons head rest ih =>
      obtain ⟨k, g⟩ := head
      by_cases same : k = f.name
      · simp [put, same]
      · have other : f.name ≠ k := fun e => same e.symm
        by_cases known : f.name ∈ names rest
        · simp [put, same, ih, known]
        · simp [put, same, ih, known, other]

theorem find?_put : (put f n).find? m = if m = f.name then some f else n.find? m := by
  induction n with
  | nil => exact find?_cons [] f f.name m
  | cons head rest ih =>
      obtain ⟨k, g⟩ := head
      by_cases same : k = f.name
      · subst same
        simp only [put, if_true, find?_cons]
        split <;> rfl
      · simp only [put, if_neg same, find?_cons, ih]
        by_cases own : m = k
        · simp [own, same]
        · simp [own]

def putAll (functions : List NamedFunction) (n : Namespace) : Namespace :=
  functions.foldl (fun kept f => put f kept) n

theorem putAll_cons (functions : List NamedFunction) :
    putAll (f :: functions) n = putAll functions (put f n) := rfl

theorem names_putAll (functions : List NamedFunction)
    (distinct : (functions.map NamedFunction.name).Nodup) : (putAll functions n).names =
      n.names ++ (functions.map NamedFunction.name).filter (· ∉ n.names) := by
  induction functions generalizing n with
  | nil => simp [putAll]
  | cons f functions ih =>
      simp only [List.map_cons, List.nodup_cons] at distinct
      obtain ⟨new, others⟩ := distinct
      rw [putAll_cons, ih (put f n) others, names_put]
      by_cases known : f.name ∈ n.names
      · simp [known]
      · have apart : (functions.map NamedFunction.name).filter (· ∉ n.names ++ [f.name]) =
            (functions.map NamedFunction.name).filter (· ∉ n.names) := by
          apply List.filter_congr
          intro m member
          have differ : m ≠ f.name := fun e => new (e ▸ member)
          simp [differ]
        simp only [if_neg known, apart]
        simp [known]

theorem find?_putAll_of_others (functions : List NamedFunction)
    (others : ∀ g ∈ functions, g.name ≠ m) : (putAll functions n).find? m = n.find? m := by
  induction functions generalizing n with
  | nil => rfl
  | cons f functions ih =>
      have differ : m ≠ f.name := fun e => others f (List.mem_cons_self ..) e.symm
      rw [putAll_cons, ih _ fun g member => others g (List.mem_cons_of_mem _ member), find?_put,
        if_neg differ]

theorem find?_putAll_of_sole (functions : List NamedFunction) (member : f ∈ functions)
    (sole : ∀ g ∈ functions, g.name = f.name → g = f) :
    (putAll functions n).find? f.name = some f := by
  induction functions generalizing n with
  | nil => cases member
  | cons first functions ih =>
      have soleRest : ∀ g ∈ functions, g.name = f.name → g = f :=
        fun g later => sole g (List.mem_cons_of_mem _ later)
      rw [putAll_cons]
      by_cases again : f ∈ functions
      · exact ih _ again soleRest
      · have here : f = first := (List.mem_cons.mp member).resolve_right again
        have others : ∀ g ∈ functions, g.name ≠ f.name := by
          intro g later same
          exact again (soleRest g later same ▸ later)
        rw [find?_putAll_of_others _ _ _ others, find?_put, here, if_pos rfl]

/-! ## The table of a list of algorithms -/

section
variable (algorithms : List Text)

/-- The names of the functions for files. -/
def fileNames : List Text := algorithms.map (· ++ "_file")

def forData : List NamedFunction := algorithms.map (⟨·, .data⟩)
def forFiles : List NamedFunction := algorithms.map (⟨·, .file⟩)

theorem ofAlgorithms_eq :
    ofAlgorithms algorithms = putAll (forFiles algorithms) (putAll (forData algorithms) []) :=
  List.foldl_append

theorem names_forData : (forData algorithms).map NamedFunction.name = algorithms := by
  simp [forData, NamedFunction.name, Function.comp_def]

theorem names_forFiles : (forFiles algorithms).map NamedFunction.name = fileNames algorithms := by
  simp [forFiles, fileNames, NamedFunction.name, Function.comp_def]

theorem fileNames_nodup (distinct : algorithms.Nodup) : (fileNames algorithms).Nodup :=
  List.Nodup.map (fun _ _ same => List.append_cancel_right same) distinct

theorem names_ofAlgorithms (distinct : algorithms.Nodup) : (ofAlgorithms algorithms).names =
    algorithms ++ (fileNames algorithms).filter (· ∉ algorithms) := by
  have data : (putAll (forData algorithms) []).names = algorithms := by
    rw [names_putAll _ _ (by rwa [names_forData]), names_forData]
    simp [names]
  have files : ((forFiles algorithms).map NamedFunction.name).Nodup := by
    rw [names_forFiles]
    exact fileNames_nodup algorithms distinct
  rw [ofAlgorithms_eq, names_putAll _ _ files, data, names_forFiles]

theorem names_ofAlgorithms_eq_iff (distinct : algorithms.Nodup) :
    (ofAlgorithms algorithms).names = algorithms ++ fileNames algorithms ↔
      ∀ a ∈ algorithms, a ∉ fileNames algorithms := by
  rw [names_ofAlgorithms algorithms distinct, List.append_cancel_left_eq, List.filter_eq_self]
  constructor
  · intro all a member file
    exact of_decide_eq_true (all a file) member
  · intro apart m file
    exact decide_eq_true fun member => apart m member file

theorem find?_file (a : Text) (member : a ∈ algorithms) :
    (ofAlgorithms algorithms).find? (a ++ "_file") = some ⟨a, .file⟩ := by
  rw [ofAlgorithms_eq]
  apply find?_putAll_of_sole _ ⟨a, .file⟩
  · exact List.mem_map_of_mem member
  · intro g file same
    obtain ⟨b, -, rfl⟩ := List.mem_map.mp file
    exact congrArg (NamedFunction.mk · .file) (List.append_cancel_right same)

theorem find?_data (a : Text) (member : a ∈ algorithms) (apart : a ∉ fileNames algorithms) :
    (ofAlgorithms algorithms).find? a = some ⟨a, .data⟩ := by
  rw [ofAlgorithms_eq, find?_putAll_of_others]
  · apply find?_putAll_of_sole _ ⟨a, .data⟩
    · exact List.mem_map_of_mem member
    · intro g data same
      obtain ⟨b, -, rfl⟩ := List.mem_map.mp data
      exact congrArg (NamedFunction.mk · .data) same
  · intro g file same
    rw [← names_forFiles] at apart
    exact apart (List.mem_map.mpr ⟨g, file, same⟩)

end

end Namespace

namespace Session
open Fingerprint.Action

/-- Every algorithm of a catalog has its function for files, and its function for data unless its name
is that of a function for files. There are as many functions as two for each algorithm just in case
none is lost; they stand in the order of the catalog, those for data first. -/
theorem functions_are_bound_unless_names_collide (serial k : Nat) (size : Value)
    (c : Catalog Hasher) (logger : Instance) (distinct : c.names.Nodup) :
    let service : Instance := .service serial size (.catalog k c) logger
    let files := Namespace.fileNames c.names
    ∃ ns, namespaceOf service = .ok ns ∧
      ns.names = c.names ++ files.filter (· ∉ c.names) ∧
      (ns.names = c.names ++ files ↔ ∀ a ∈ c.names, a ∉ files) ∧
      (∀ a ∈ c.names, a ∉ files → ∃ f, ns.find? a = some f ∧
        ∀ v, callNamed service f [v] = hashData service (.text a) v) ∧
      ∀ a ∈ c.names, ∃ f, ns.find? (a ++ "_file") = some f ∧
        ∀ v, callNamed service f [v] = hashFile service (.text a) v := by
  intro service files
  refine ⟨.ofAlgorithms c.names, rfl, Namespace.names_ofAlgorithms c.names distinct,
    Namespace.names_ofAlgorithms_eq_iff c.names distinct, ?_, ?_⟩
  · intro a member apart
    exact ⟨⟨a, .data⟩, Namespace.find?_data c.names a member apart, fun v => rfl⟩
  · intro a member
    exact ⟨⟨a, .file⟩, Namespace.find?_file c.names a member, fun v => rfl⟩

/-- The standard algorithms lose no function. -/
theorem functions_are_bound_unless_names_collide_standard :
    let c := Catalog.standard [] (.bool true)
    let service : Instance := .service 1 (.int 8388608) (.catalog 0 c) (.recorder 2)
    ∃ ns, namespaceOf service = .ok ns ∧ ns.names = c.names ++ Namespace.fileNames c.names := by
  intro c service
  obtain ⟨ns, built, -, all, -⟩ := functions_are_bound_unless_names_collide 1 0 (.int 8388608) c
    (.recorder 2) (by decide)
  exact ⟨ns, built, all.mpr (by decide)⟩

/-- Algorithms whose digests are fixed, one by the name of the other's function for files. -/
def collidingCatalog : Catalog Hasher :=
  ⟨.bool true, ["x", "x_file"].map fun name =>
    .ofStrategy (.ofScript ⟨name, 1, false, none, none, some (.final (.text "ab"))⟩)⟩

/-- The name is bound to the function for files, and a call by it does not hash data. -/
theorem colliding_name_is_bound_to_files :
    let service : Instance :=
      .service 1 (.int 8388608) (.catalog 0 collidingCatalog) (.recorder 2)
    collidingCatalog.names.Nodup ∧ ∃ ns f, namespaceOf service = .ok ns ∧
      ns.names = ["x", "x_file", "x_file_file"] ∧ ns.find? "x_file" = some f ∧
      (runOn onEmptyDisk (callNamed service f [.text "d"])).1 = .ok none ∧
      (runOn onEmptyDisk (hashData service (.text "x_file") (.text "d"))).1 = .ok (some "ab") :=
  ⟨by decide, _, ⟨"x", .file⟩, rfl, by decide, by decide, rfl, rfl⟩

end Session
end Fingerprint
