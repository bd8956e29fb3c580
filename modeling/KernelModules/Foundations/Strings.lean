import Mathlib.Data.List.TakeWhile
import Mathlib.Data.UInt

/-!
# Strings in memory

A string in memory ends before the first stop mark, wherever that is: in C the mark is a zero. It
ends within a part of the memory exactly if there is a mark (`length_textUpTo_lt_iff`), and what is
read of the memory before the mark is read of the string (`take_drop_textUpTo`).
-/

set_option autoImplicit false
set_option relaxedAutoImplicit false

namespace KernelModules.Foundations

/-- The byte `'\n'`. -/
def newline : UInt8 := 10

variable {α : Type*} [DecidableEq α] {stop : α} {text mem : List α}

/-- The string at the start of memory. -/
def textUpTo (stop : α) (mem : List α) : List α := mem.takeWhile (· ≠ stop)

theorem textUpTo_of_notMem (htext : stop ∉ text) : textUpTo stop text = text :=
  List.takeWhile_eq_self_iff.mpr fun _ ha ↦ decide_eq_true (ne_of_mem_of_not_mem ha htext)

/-- What is behind a mark does not matter. -/
theorem textUpTo_append_cons (stop : α) (front rest : List α) :
    textUpTo stop (front ++ stop :: rest) = textUpTo stop front := by
  induction front with
  | nil => simp [textUpTo]
  | cons a front ih =>
    unfold textUpTo at ih ⊢
    rw [List.cons_append, List.takeWhile_cons, List.takeWhile_cons, ih]

theorem textUpTo_append (htext : stop ∉ text) (rest : List α) :
    textUpTo stop (text ++ stop :: rest) = text := by
  rw [textUpTo_append_cons, textUpTo_of_notMem htext]

/-- The string ends within the first entries exactly if a mark is among them. -/
theorem length_textUpTo_lt_iff {n : ℕ} (hn : n ≤ mem.length) :
    (textUpTo stop mem).length < n ↔ stop ∈ mem.take n := by
  induction mem generalizing n with
  | nil => simp_all
  | cons first mem ih =>
    cases n with
    | zero => simp
    | succ n =>
      have hrest := ih (Nat.le_of_succ_le_succ hn)
      by_cases hstop : first = stop
      · simp [textUpTo, hstop]
      · simpa [textUpTo, hstop, Ne.symm hstop] using hrest

/-- Bytes of the memory before the mark are bytes of the string. -/
theorem take_drop_textUpTo {pos : ℕ} (hpos : pos ≤ (textUpTo stop mem).length) (count : ℕ) :
    (mem.drop pos).take (min count ((textUpTo stop mem).length - pos)) =
      ((textUpTo stop mem).drop pos).take count := by
  have hdrop : mem.drop pos = (textUpTo stop mem).drop pos ++ mem.dropWhile (· ≠ stop) := by
    rw [← List.drop_append_of_le_length hpos, textUpTo, List.takeWhile_append_dropWhile]
  rw [hdrop, ← List.length_drop, List.take_append_of_le_length (Nat.min_le_right _ _),
    ← List.take_eq_take_min]

end KernelModules.Foundations
