import Fingerprint.Value.Basic

/-! # Tables

What a table holds under a name. Writing a key changes what its own name holds and no other
(`get?_put`), and keeps the names of a table distinct. Of a list of pairs, those under other keys
make no difference to what is found under one (`lookup_filter_key`). -/
set_option autoImplicit false
namespace Fingerprint

theorem lookup_filter_key {α β : Type} [BEq α] [LawfulBEq α] (keep : α → Bool)
    (pairs : List (α × β)) (key : α) :
    (pairs.filter fun e => keep e.1).lookup key = if keep key then pairs.lookup key else none := by
  induction pairs with
  | nil => simp
  | cons head rest ih =>
      obtain ⟨k, v⟩ := head
      cases own : key == k with
      | true =>
          obtain rfl := beq_iff_eq.mp own
          cases kept : keep key <;> simp [kept, ih]
      | false =>
          cases stays : keep k <;> simp [List.lookup_cons, stays, own, ih]

/-! ## Keys that are names -/

theorem Value.agrees_text_iff (key : Value) (n : Text) :
    key.agrees (.text n) = true ↔ key.text? = some n := by
  cases key with
  | text t => simp [agrees, text?]
  | _ => simp [agrees, text?, number?, content?]

theorem Value.agrees_text_left_iff (n : Text) (key : Value) :
    (Value.text n).agrees key = true ↔ key.text? = some n := by
  cases key with
  | text t => simpa [agrees, text?] using eq_comm
  | _ => simp [agrees, text?, number?, content?]

theorem Value.eq_text_of_text? (key : Value) (n : Text) (named : key.text? = some n) :
    key = .text n := by
  cases key with
  | text t =>
      cases named
      rfl
  | _ => cases named

theorem Value.agrees_of_text? (a b : Value) (n : Text) (left : a.text? = some n)
    (right : b.text? = some n) : a.agrees b = true := by
  rw [eq_text_of_text? b n right, agrees_text_iff, left]

theorem Value.text?_of_agrees (a b : Value) (agree : a.agrees b = true) : a.text? = b.text? := by
  cases right : b.text? with
  | some n =>
      rw [eq_text_of_text? b n right] at agree
      exact (agrees_text_iff a n).mp agree
  | none =>
      cases left : a.text? with
      | none => rfl
      | some n =>
          rw [eq_text_of_text? a n left, agrees_text_left_iff, right] at agree
          cases agree

namespace Entries

@[simp] theorem get?_nil (n : Text) : get? n [] = none := rfl

theorem get?_cons (n : Text) (key v : Value) (rest : Entries) :
    get? n ((key, v) :: rest) = if key.text? = some n then some v else get? n rest := rfl

theorem get?_put (key v : Value) (es : Entries) (n : Text) :
    get? n (put key v es) = if key.text? = some n then some v else get? n es := by
  induction es with
  | nil => rfl
  | cons head rest ih =>
      obtain ⟨k, w⟩ := head
      rw [put]
      by_cases agree : k.agrees key = true
      · have same : k.text? = key.text? := Value.text?_of_agrees k key agree
        rw [if_pos agree, get?_cons, get?_cons, same]
        split <;> rfl
      · rw [if_neg agree, get?_cons, get?_cons, ih]
        by_cases own : key.text? = some n
        · have other : ¬ k.text? = some n := fun here =>
            agree (Value.agrees_of_text? k key n here own)
          rw [if_neg other, if_pos own, if_pos own]
        · rw [if_neg own, if_neg own]

theorem get?_put_text (name : Text) (v : Value) (es : Entries) (n : Text) :
    get? n (put (.text name) v es) = if name = n then some v else get? n es := by
  rw [get?_put]
  simp [Value.text?]

/-! ## Distinct names -/

/-- No name stands twice, as in every dictionary. -/
def Distinct (es : Entries) : Prop := es.names.Nodup

theorem distinct_nil : Distinct [] := List.nodup_nil

theorem names_cons (key v : Value) (rest : Entries) :
    names ((key, v) :: rest) = key.text?.toList ++ names rest := by
  cases named : key.text? with
  | none => simp [names, named]
  | some t => simp [names, named]

theorem distinct_tail (entry : Value × Value) (rest : Entries)
    (distinct : Distinct (entry :: rest)) : rest.Distinct := by
  rw [Distinct, names_cons] at distinct
  exact (List.nodup_append.mp distinct).2.1

theorem get?_isSome_iff (es : Entries) (n : Text) : (get? n es).isSome ↔ n ∈ es.names := by
  induction es with
  | nil => simp [names]
  | cons head rest ih =>
      obtain ⟨k, v⟩ := head
      rw [get?_cons, names_cons, List.mem_append, ← ih]
      by_cases own : k.text? = some n
      · simp [own]
      · simp [own, Option.mem_toList]

theorem get?_eq_none_iff (es : Entries) (n : Text) : get? n es = none ↔ n ∉ es.names := by
  rw [← get?_isSome_iff, Bool.not_eq_true, Option.isSome_eq_false_iff, Option.isNone_iff_eq_none]

theorem get?_tail_of_distinct (n : Text) (key v : Value) (rest : Entries)
    (distinct : Distinct ((key, v) :: rest)) (own : key.text? = some n) : get? n rest = none := by
  rw [Distinct, names_cons, own] at distinct
  rw [get?_eq_none_iff]
  exact (List.nodup_cons.mp distinct).1

theorem names_put (key v : Value) (es : Entries) :
    names (put key v es) = names es ∨
      (∀ n, key.text? = some n → n ∉ names es) ∧
        names (put key v es) = names es ++ key.text?.toList := by
  induction es with
  | nil =>
      refine Or.inr ⟨fun n _ => List.not_mem_nil, ?_⟩
      rw [put, names_cons]
      simp [names]
  | cons head rest ih =>
      obtain ⟨k, w⟩ := head
      rw [put]
      by_cases agree : k.agrees key = true
      · rw [if_pos agree, names_cons, names_cons]
        exact Or.inl rfl
      · rw [if_neg agree, names_cons, names_cons]
        rcases ih with same | ⟨new, last⟩
        · exact Or.inl (by rw [same])
        · refine Or.inr ⟨?_, by rw [last, List.append_assoc]⟩
          intro n own member
          rcases List.mem_append.mp member with here | later
          · exact agree (Value.agrees_of_text? k key n (Option.mem_toList.mp here) own)
          · exact new n own later

theorem distinct_put (key v : Value) (es : Entries) (distinct : es.Distinct) :
    (put key v es).Distinct := by
  rcases names_put key v es with same | ⟨new, last⟩
  · rw [Distinct, same]
    exact distinct
  · rw [Distinct, last]
    cases own : key.text? with
    | none =>
        rw [Option.toList_none, List.append_nil]
        exact distinct
    | some n =>
        have fresh : n ∉ names es := new n own
        rw [Option.toList_some, List.nodup_append]
        refine ⟨distinct, by simp, ?_⟩
        intro a member b last same
        rw [List.mem_singleton] at last
        rw [same, last] at member
        exact fresh member

/-! ## Values that may be absent -/

def present (pairs : List (Text × Option Value)) : Entries :=
  pairs.flatMap fun (name, v?) => (v?.map fun v => (.text name, v)).toList

theorem get?_present_cons (n name : Text) (v? : Option Value) (rest : List (Text × Option Value)) :
    get? n (present ((name, v?) :: rest)) =
      if name = n then v?.or (get? n (present rest)) else get? n (present rest) := by
  cases v? with
  | none => simp [present]
  | some v =>
      have opened : present ((name, some v) :: rest) = (.text name, v) :: present rest := rfl
      rw [opened, get?_cons]
      simp [Value.text?]

theorem names_present (pairs : List (Text × Option Value)) :
    (present pairs).names.Sublist (pairs.map Prod.fst) := by
  induction pairs with
  | nil => exact List.Sublist.refl []
  | cons head rest ih =>
      obtain ⟨name, v?⟩ := head
      cases v? with
      | none => exact ih.cons name
      | some v =>
          have opened : present ((name, some v) :: rest) = (.text name, v) :: present rest := rfl
          rw [opened, names_cons, List.map_cons]
          exact ih.cons_cons name

theorem distinct_present (pairs : List (Text × Option Value)) (nodup : (pairs.map Prod.fst).Nodup) :
    (present pairs).Distinct :=
  nodup.sublist (names_present pairs)

theorem get?_present_of_mem (pairs : List (Text × Option Value)) (nodup : (pairs.map Prod.fst).Nodup)
    (name : Text) (v? : Option Value) (member : (name, v?) ∈ pairs) :
    get? name (present pairs) = v? := by
  induction pairs with
  | nil => cases member
  | cons head rest ih =>
      obtain ⟨fresh, nodupRest⟩ := List.nodup_cons.mp nodup
      rw [get?_present_cons]
      rcases List.mem_cons.mp member with rfl | later
      · have nothing : get? name (present rest) = none := by
          rw [get?_eq_none_iff]
          exact fun there => fresh ((names_present rest).subset there)
        rw [if_pos rfl, nothing, Option.or_none]
      · have other : head.1 ≠ name := by
          intro same
          rw [same] at fresh
          exact fresh (List.mem_map.mpr ⟨_, later, rfl⟩)
        rw [if_neg other, ih nodupRest later]

theorem mem_of_get?_present (pairs : List (Text × Option Value)) (name : Text) (v : Value)
    (holds : get? name (present pairs) = some v) : (name, some v) ∈ pairs := by
  induction pairs with
  | nil => cases holds
  | cons head rest ih =>
      obtain ⟨first, v?⟩ := head
      rw [get?_present_cons] at holds
      by_cases same : first = name
      · rw [if_pos same] at holds
        cases v? with
        | none =>
            rw [Option.none_or] at holds
            exact List.mem_cons_of_mem _ (ih holds)
        | some w =>
            rw [Option.some_or] at holds
            rw [same, holds]
            exact List.mem_cons_self
      · rw [if_neg same] at holds
        exact List.mem_cons_of_mem _ (ih holds)

end Entries
end Fingerprint
