import Mathlib.Algebra.BigOperators.Group.List.Basic
import Mathlib.Algebra.Group.Prod

/-!
# Accounts and the sums of their parts

Accounts of two levels: every child belongs to a parent, and a parent is meant to hold the sum of
its children. The books are `Balanced` if every parent does and no child belongs to a parent that is
not there. They stay balanced when a child and its parent change by the same amount
(`Balanced.post`), and when an account is opened with nothing in it (`Balanced.openParent`,
`Balanced.openChild`). Nothing else is needed to know, of any run made of these, that totals kept
beside the parts are the totals of the parts.
-/

set_option autoImplicit false
set_option relaxedAutoImplicit false

namespace KernelModules.Foundations

variable {M : Type*} [AddCommGroup M]

/-- Parents and children, each child with the number of its parent. -/
structure Accounts (M : Type*) where
  parents : List M
  children : List (ℕ × M)

namespace Accounts

/-- What a child adds to the sum of parent `t`. -/
def share (t : ℕ) (child : ℕ × M) : M := if child.1 = t then child.2 else 0

/-- Every parent holds the sum of its children. -/
structure Balanced (books : Accounts M) : Prop where
  housed : ∀ child ∈ books.children, child.1 < books.parents.length
  sums : ∀ t total, books.parents[t]? = some total → total = (books.children.map (share t)).sum

theorem balanced_empty : Balanced (⟨[], []⟩ : Accounts M) where
  housed := by simp
  sums := by simp

variable {books : Accounts M}

/-- A child and its parent change by the same amount. -/
theorem Balanced.post (hbalanced : Balanced books) {i t : ℕ} {value value' total total' : M}
    (hchild : books.children[i]? = some (t, value)) (hparent : books.parents[t]? = some total)
    (hsame : total' - value' = total - value) :
    Balanced ⟨books.parents.set t total', books.children.set i (t, value')⟩ where
  housed := by
    intro child hmem
    rw [List.length_set]
    rcases List.mem_or_eq_of_mem_set hmem with hold | rfl
    · exact hbalanced.housed child hold
    · exact hbalanced.housed (t, value) (List.mem_of_getElem? hchild)
  sums := by
    intro t' total'' hfound
    obtain ⟨hi, hget⟩ := List.getElem?_eq_some_iff.mp hchild
    have hlength : i < (books.children.map (share t')).length := by rwa [List.length_map]
    have hsum : ((books.children.set i (t, value')).map (share t')).sum =
        (books.children.map (share t')).sum + (-share t' (t, value) + share t' (t, value')) := by
      rw [List.map_set, List.sum_set', dif_pos hlength, List.getElem_map, hget]
    rw [hsum]
    by_cases ht : t = t'
    · subst ht
      obtain ⟨hbound, -⟩ := List.getElem?_eq_some_iff.mp hparent
      rw [List.getElem?_set_self hbound, Option.some.injEq] at hfound
      rw [← hfound, ← hbalanced.sums t total hparent]
      simp only [share, if_true]
      rw [eq_add_of_sub_eq hsame, sub_eq_add_neg, add_assoc]
    · rw [List.getElem?_set_ne ht] at hfound
      simp only [share, if_neg ht, neg_zero, add_zero]
      exact hbalanced.sums t' total'' hfound

/-- A parent is opened. -/
theorem Balanced.openParent (hbalanced : Balanced books) :
    Balanced ⟨books.parents ++ [0], books.children⟩ where
  housed := by
    intro child hmem
    have hchild := hbalanced.housed child hmem
    simp only [List.length_append, List.length_singleton]
    omega
  sums := by
    intro t total hfound
    rcases Nat.lt_trichotomy t books.parents.length with hlt | rfl | hgt
    · rw [List.getElem?_append_left hlt] at hfound
      exact hbalanced.sums t total hfound
    · rw [List.getElem?_concat_length, Option.some.injEq] at hfound
      rw [← hfound]
      refine (List.sum_eq_zero fun value hvalue ↦ ?_).symm
      obtain ⟨child, hmem, rfl⟩ := List.mem_map.mp hvalue
      exact if_neg (Nat.ne_of_lt (hbalanced.housed child hmem))
    · rw [List.getElem?_eq_none (by simp; omega)] at hfound
      exact absurd hfound (Option.some_ne_none _).symm

/-- A child is opened. -/
theorem Balanced.openChild (hbalanced : Balanced books) {t : ℕ} (ht : t < books.parents.length) :
    Balanced ⟨books.parents, books.children ++ [(t, 0)]⟩ where
  housed := by
    intro child hmem
    rcases List.mem_append.mp hmem with hold | hnew
    · exact hbalanced.housed child hold
    · rw [List.mem_singleton.mp hnew]
      exact ht
  sums := by
    intro t' total hfound
    rw [hbalanced.sums t' total hfound]
    simp [share]

end Accounts

end KernelModules.Foundations
