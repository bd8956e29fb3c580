import Mathlib.Data.List.Basic

/-!
# Tables as lists

A table of records that only grows is a list, and a record is known by its place. These are the
facts about reading such a table through a view of its records, about writing a record, about the
record that was added last, and about searches in it.
-/

set_option autoImplicit false
set_option relaxedAutoImplicit false

namespace KernelModules.Foundations

variable {α β : Type*} {entries : List α} {i : ℕ} {entry last : α}

/-- A change of a record, seen through a view under which it is another change. -/
theorem map_modify {view : α → β} {change : α → α} {change' : β → β}
    (hview : ∀ entry, view (change entry) = change' (view entry)) (entries : List α) (i : ℕ) :
    (entries.modify i change).map view = (entries.map view).modify i change' := by
  refine List.ext_getElem? fun j ↦ ?_
  rw [List.getElem?_map, List.getElem?_modify, List.getElem?_modify, List.getElem?_map]
  cases entries[j]? with
  | none => rfl
  | some entry =>
    by_cases hij : i = j
    · simp [hij, hview]
    · simp [hij]

/-- A change of a record that a view does not show. -/
theorem map_modify_of_eq {view : α → β} {change : α → α}
    (hview : ∀ entry, view (change entry) = view entry) (entries : List α) (i : ℕ) :
    (entries.modify i change).map view = entries.map view := by
  have hsame : ∀ entry, view (change entry) = id (view entry) := hview
  rw [map_modify hsame, List.modify_id]

/-- Writing what is there already changes nothing. -/
theorem set_of_getElem? (hentry : entries[i]? = some entry) : entries.set i entry = entries := by
  obtain ⟨hlt, rfl⟩ := List.getElem?_eq_some_iff.mp hentry
  exact List.set_getElem_self hlt

theorem drop_of_getElem?_some (hentry : entries[i]? = some entry) :
    entries.drop i = entry :: entries.drop (i + 1) := by
  obtain ⟨hlt, rfl⟩ := List.getElem?_eq_some_iff.mp hentry
  exact List.drop_eq_getElem_cons hlt

theorem drop_of_getElem?_none (hentry : entries[i]? = none) : entries.drop i = [] :=
  List.drop_of_length_le (List.getElem?_eq_none_iff.mp hentry)

theorem getElem?_concat_of_some (hentry : entries[i]? = some entry) (last : α) :
    (entries ++ [last])[i]? = some entry := by
  obtain ⟨hlt, -⟩ := List.getElem?_eq_some_iff.mp hentry
  rw [List.getElem?_append_left hlt, hentry]

/-- A record of a table that has grown was there before, or it is the new one. -/
theorem of_getElem?_concat (hentry : (entries ++ [last])[i]? = some entry) :
    entries[i]? = some entry ∨ (i = entries.length ∧ entry = last) := by
  obtain ⟨hlt, -⟩ := List.getElem?_eq_some_iff.mp hentry
  rw [List.length_append, List.length_singleton] at hlt
  rcases Nat.lt_or_eq_of_le (Nat.le_of_lt_succ hlt) with hlt | rfl
  · rw [List.getElem?_append_left hlt] at hentry
    exact Or.inl hentry
  · rw [List.getElem?_concat_length] at hentry
    exact Or.inr ⟨rfl, (Option.some.inj hentry).symm⟩

/-- What the records of a table hold together, when one of them is written. -/
theorem count_flatMap_set [DecidableEq β] (hentry : entries[i]? = some entry) (last : α)
    (contents : α → List β) (item : β) :
    ((entries.set i last).flatMap contents).count item + (contents entry).count item =
      (entries.flatMap contents).count item + (contents last).count item := by
  induction entries generalizing i with
  | nil => simp at hentry
  | cons first entries ih =>
    cases i with
    | zero =>
      obtain rfl : first = entry := Option.some.inj hentry
      simp only [List.set_cons_zero, List.flatMap_cons, List.count_append]
      omega
    | succ i =>
      have hrest := ih hentry
      simp only [List.set_cons_succ, List.flatMap_cons, List.count_append]
      omega

/-- Two searches that both look among the candidates, and of which at least one takes any given
candidate, find the same exactly if both take the first one. -/
theorem find?_eq_find?_iff {p q c : α → Bool} (hp : ∀ a, p a = true → c a = true)
    (hq : ∀ a, q a = true → c a = true) (hone : ∀ a, c a = true → p a = true ∨ q a = true)
    (l : List α) :
    l.find? p = l.find? q ↔ ∀ a, l.find? c = some a → p a = true ∧ q a = true := by
  induction l with
  | nil => simp
  | cons a l ih =>
    by_cases hc : c a = true
    · rw [List.find?_cons_of_pos hc]
      constructor
      · intro hsame found hfound
        obtain rfl : a = found := Option.some.inj hfound
        by_cases hpa : p a = true
        · rw [List.find?_cons_of_pos hpa] at hsame
          exact ⟨hpa, List.find?_some hsame.symm⟩
        · have hqa := (hone a hc).resolve_left hpa
          rw [List.find?_cons_of_pos hqa] at hsame
          exact absurd (List.find?_some hsame) hpa
      · intro hboth
        obtain ⟨hpa, hqa⟩ := hboth a rfl
        rw [List.find?_cons_of_pos hpa, List.find?_cons_of_pos hqa]
    · rw [List.find?_cons_of_neg fun hpa ↦ hc (hp a hpa),
        List.find?_cons_of_neg fun hqa ↦ hc (hq a hqa), List.find?_cons_of_neg hc]
      exact ih

end KernelModules.Foundations
