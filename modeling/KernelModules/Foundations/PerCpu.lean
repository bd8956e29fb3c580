import Mathlib.Algebra.BigOperators.Fin
import Mathlib.Data.Fintype.BigOperators

/-!
# Per-CPU cells

A per-CPU variable is one cell for each processor. `onCpu` changes the cell of one processor, and a
report adds a field up over all processors, in the order of a loop over them. `sum_onCpu` says that
a field counts an increment once, wherever it happens, and `foldl_finRange_add` that the loop
computes the sum.

`oneCpu` adds all cells up into the one cell of a machine with one processor, which is then shared
by everything that runs. A change that adds the same amount to whatever a cell holds is the same
change there (`oneCpu_onCpu`): a counter kept in cells is as good as a shared one.
-/

set_option autoImplicit false
set_option relaxedAutoImplicit false

namespace KernelModules.Foundations

variable {n : ℕ} {α M : Type*}

/-- Change the cell of one processor. -/
def onCpu (cells : Fin n → α) (cpu : Fin n) (change : α → α) : Fin n → α :=
  Function.update cells cpu (change (cells cpu))

@[simp] theorem onCpu_self (cells : Fin n → α) (cpu : Fin n) (change : α → α) :
    onCpu cells cpu change cpu = change (cells cpu) :=
  Function.update_self _ _ _

theorem onCpu_of_ne (cells : Fin n → α) {cpu other : Fin n} (hne : other ≠ cpu) (change : α → α) :
    onCpu cells cpu change other = cells other :=
  Function.update_of_ne hne _ _

/-- An increment of a field counts once in the total of that field. -/
theorem sum_onCpu [AddCommMonoid M] (field : α → M) (cells : Fin n → α) (cpu : Fin n)
    {change : α → α} {amount : M} (hchange : ∀ cell, field (change cell) = field cell + amount) :
    ∑ c, field (onCpu cells cpu change c) = (∑ c, field (cells c)) + amount := by
  have hothers : ∑ c ∈ Finset.univ.erase cpu, field (onCpu cells cpu change c) =
      ∑ c ∈ Finset.univ.erase cpu, field (cells c) :=
    Finset.sum_congr rfl fun c hc ↦ by rw [onCpu_of_ne cells (Finset.ne_of_mem_erase hc)]
  rw [← Finset.add_sum_erase _ _ (Finset.mem_univ cpu), hothers, onCpu_self, hchange,
    ← Finset.add_sum_erase Finset.univ (fun c ↦ field (cells c)) (Finset.mem_univ cpu)]
  exact add_right_comm _ _ _

/-- A change that leaves a field alone leaves its total alone. -/
theorem sum_onCpu_of_eq [AddCommMonoid M] (field : α → M) (cells : Fin n → α) (cpu : Fin n)
    {change : α → α} (hchange : ∀ cell, field (change cell) = field cell) :
    ∑ c, field (onCpu cells cpu change c) = ∑ c, field (cells c) := by
  have hzero : ∀ cell, field (change cell) = field cell + 0 := fun cell ↦ by rw [hchange, add_zero]
  rw [sum_onCpu field cells cpu hzero, add_zero]

/-- A loop over the processors that adds up a field computes its sum. -/
theorem foldl_finRange_add [AddCommMonoid M] (field : Fin n → M) :
    (List.finRange n).foldl (fun total c ↦ total + field c) 0 = ∑ c, field c := by
  rw [Fin.sum_univ_def, List.sum_eq_foldl, List.foldl_map]

/-- A change that adds the same amount to whatever a cell holds. -/
def IsIncrement [Add M] (change : M → M) : Prop :=
  ∃ amount, ∀ cell, change cell = cell + amount

/-- The processor of a machine that has one. -/
def cpu0 : Fin 1 := 0

/-- All cells added up into one, which everything that runs has in common. -/
def oneCpu [AddCommMonoid M] (cells : Fin n → M) : Fin 1 → M := fun _ ↦ ∑ c, cells c

/-- An increment of the cell of some processor is an increment of the shared cell. -/
theorem oneCpu_onCpu [AddCommMonoid M] (cells : Fin n → M) (cpu : Fin n) {change : M → M}
    (hchange : IsIncrement change) :
    oneCpu (onCpu cells cpu change) = onCpu (oneCpu cells) cpu0 change := by
  obtain ⟨amount, hamount⟩ := hchange
  funext c
  obtain rfl : c = cpu0 := Subsingleton.elim _ _
  rw [onCpu_self, hamount]
  exact sum_onCpu (fun cell ↦ cell) cells cpu hamount

end KernelModules.Foundations
