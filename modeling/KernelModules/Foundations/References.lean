import Mathlib.Data.Finset.Card

/-!
# Holders of references

Holders refer to objects, each to at most one. `refs` is the number of holders that refer to an
object, which is what a reference counter is meant to hold. It changes by one when a holder comes or
goes (`refs_insert`, `refs_erase`), and it is zero exactly if nobody refers to the object any more
(`refs_eq_zero_iff`).
-/

set_option autoImplicit false
set_option relaxedAutoImplicit false

namespace KernelModules.Foundations

variable {ι κ : Type*} [DecidableEq κ] {target : ι → Option κ} {holders : Finset ι} {i : ι}

/-- How many of the holders refer to an object. -/
def refs (target : ι → Option κ) (holders : Finset ι) (object : κ) : ℕ :=
  (holders.filter fun i ↦ target i = some object).card

@[simp] theorem refs_empty (target : ι → Option κ) (object : κ) : refs target ∅ object = 0 := rfl

theorem refs_congr {target' : ι → Option κ} (hsame : ∀ i ∈ holders, target' i = target i)
    (object : κ) : refs target' holders object = refs target holders object := by
  unfold refs
  congr 1
  apply Finset.filter_congr
  intro i hi
  rw [hsame i hi]

theorem refs_eq_zero_iff {object : κ} :
    refs target holders object = 0 ↔ ∀ i ∈ holders, target i ≠ some object := by
  rw [refs, Finset.card_eq_zero, Finset.filter_eq_empty_iff]

variable [DecidableEq ι]

/-- A new holder. -/
theorem refs_insert (hi : i ∉ holders) (object : κ) :
    refs target (insert i holders) object =
      refs target holders object + if target i = some object then 1 else 0 := by
  unfold refs
  rw [Finset.filter_insert]
  split_ifs with hobject
  · exact Finset.card_insert_of_notMem fun hmem ↦ hi (Finset.mem_of_mem_filter i hmem)
  · rfl

/-- A holder goes. -/
theorem refs_erase (hi : i ∈ holders) (object : κ) :
    refs target holders object =
      refs target (holders.erase i) object + if target i = some object then 1 else 0 := by
  rw [← refs_insert (Finset.notMem_erase i holders), Finset.insert_erase hi]

end KernelModules.Foundations
