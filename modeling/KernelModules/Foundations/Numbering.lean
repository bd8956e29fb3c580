import Mathlib.Data.List.Chain
import Mathlib.Data.List.Lemmas
import Mathlib.Data.Nat.ModEq

/-!
# Numbers handed out in turn

A counter modulo `M` numbers what passes by. Each item uses a number and shows it, uses one that
nobody sees, or uses none. The numbers that are seen are consecutive exactly if between any two
neighbours among them a multiple of `M` numbers has been lost (`consecutive_shownNumbers_iff`).
-/

set_option autoImplicit false
set_option relaxedAutoImplicit false

namespace KernelModules.Foundations

/-- What an item does with the next number: show it, lose it, or leave it to the next item. -/
inductive Slip
  | shown
  | lost
  | kept
  deriving DecidableEq, Repr

/-- The numbers that are seen, when the counter starts at `count`. -/
def shownNumbers (M : ℕ) : ℕ → List Slip → List ℕ
  | _, [] => []
  | count, .shown :: slips => count % M :: shownNumbers M (count + 1) slips
  | count, .lost :: slips => shownNumbers M (count + 1) slips
  | count, .kept :: slips => shownNumbers M count slips

/-- Each number is the one after the number before it. -/
def Consecutive (M : ℕ) (numbers : List ℕ) : Prop :=
  numbers.IsChain fun first second ↦ second = (first + 1) % M

instance (M : ℕ) (numbers : List ℕ) : Decidable (Consecutive M numbers) :=
  inferInstanceAs (Decidable (List.IsChain _ _))

theorem shownNumbers_cons (M count : ℕ) (slip : Slip) (slips : List Slip) :
    shownNumbers M count (slip :: slips) = (if slip = .shown then [count % M] else []) ++
      shownNumbers M (count + (if slip = .kept then 0 else 1)) slips := by
  cases slip <;> rfl

variable {M : ℕ}

/-- Only the counter modulo `M` matters. -/
theorem shownNumbers_congr {count count' : ℕ} (hcount : count ≡ count' [MOD M])
    (slips : List Slip) : shownNumbers M count slips = shownNumbers M count' slips := by
  induction slips generalizing count count' with
  | nil => rfl
  | cons slip slips ih =>
    cases slip with
    | shown => exact congrArg₂ (· :: ·) hcount (ih (hcount.add_right 1))
    | lost => exact ih (hcount.add_right 1)
    | kept => exact ih hcount

/-- Up to the first number that is seen, others may have been lost. -/
theorem shownNumbers_append {middle : List Slip} (hmiddle : .shown ∉ middle) (count : ℕ)
    (slips : List Slip) :
    shownNumbers M count (middle ++ slips) = shownNumbers M (count + middle.count .lost) slips := by
  induction middle generalizing count with
  | nil => rfl
  | cons slip middle ih =>
    rw [List.mem_cons, not_or] at hmiddle
    cases slip with
    | shown => exact absurd rfl hmiddle.1
    | lost =>
      rw [List.count_cons_self, ← Nat.add_assoc, Nat.add_right_comm]
      exact ih hmiddle.2 (count + 1)
    | kept =>
      rw [List.count_cons_of_ne (by decide)]
      exact ih hmiddle.2 count

theorem shownNumbers_eq_nil {slips : List Slip} (hslips : .shown ∉ slips) (count : ℕ) :
    shownNumbers M count slips = [] := by
  rw [← List.append_nil slips, shownNumbers_append hslips]
  rfl

/-- Between any two neighbours among the items that show their numbers, the number of lost ones is a
multiple of `M`. -/
def LosesWholeRounds (M : ℕ) (slips : List Slip) : Prop :=
  ∀ front middle back, slips = front ++ .shown :: (middle ++ .shown :: back) →
    .shown ∉ middle → M ∣ middle.count .lost

theorem losesWholeRounds_cons_of_ne {slip : Slip} (hslip : slip ≠ .shown) (slips : List Slip) :
    LosesWholeRounds M (slip :: slips) ↔ LosesWholeRounds M slips := by
  constructor
  · intro hall front middle back hsplit
    exact hall (slip :: front) middle back (congrArg (slip :: ·) hsplit)
  · intro hall front middle back hsplit
    cases front with
    | nil => exact absurd (List.cons.inj hsplit).1 hslip
    | cons first front => exact hall front middle back (List.cons.inj hsplit).2

theorem losesWholeRounds_of_not_mem {slips : List Slip} (hslips : .shown ∉ slips) :
    LosesWholeRounds M slips := by
  intro front middle back hsplit
  exact absurd (by rw [hsplit]; simp) hslips

/-- What stands before the first occurrence of an item is unique. -/
theorem eq_of_append_cons_eq {α : Type*} {item : α} {xs ys xs' ys' : List α} (hxs : item ∉ xs)
    (hys : item ∉ ys) (hsplit : xs ++ item :: xs' = ys ++ item :: ys') : xs = ys := by
  induction xs generalizing ys with
  | nil =>
    cases ys with
    | nil => rfl
    | cons y ys =>
      obtain ⟨rfl, -⟩ := List.cons.inj hsplit
      exact absurd List.mem_cons_self hys
  | cons x xs ih =>
    cases ys with
    | nil =>
      obtain ⟨rfl, -⟩ := List.cons.inj hsplit
      exact absurd List.mem_cons_self hxs
    | cons y ys =>
      obtain ⟨rfl, hrest⟩ := List.cons.inj hsplit
      rw [ih (fun hmem ↦ hxs (List.mem_cons_of_mem _ hmem))
        (fun hmem ↦ hys (List.mem_cons_of_mem _ hmem)) hrest]

/-- The first two items that show their numbers are neighbours. -/
theorem losesWholeRounds_shown {middle back : List Slip} (hmiddle : .shown ∉ middle) :
    LosesWholeRounds M (.shown :: (middle ++ .shown :: back)) ↔
      M ∣ middle.count .lost ∧ LosesWholeRounds M (middle ++ .shown :: back) := by
  constructor
  · intro hall
    refine ⟨hall [] middle back rfl hmiddle, fun front middle' back' hsplit ↦ ?_⟩
    exact hall (.shown :: front) middle' back' (congrArg (.shown :: ·) hsplit)
  · rintro ⟨hfirst, hrest⟩ front middle' back' hsplit hmiddle'
    cases front with
    | nil =>
      obtain rfl := eq_of_append_cons_eq hmiddle hmiddle' (List.cons.inj hsplit).2
      exact hfirst
    | cons first front => exact hrest front middle' back' (List.cons.inj hsplit).2 hmiddle'

theorem add_modEq_self_iff (count lost : ℕ) :
    (count + 1 + lost) % M = (count % M + 1) % M ↔ M ∣ lost := by
  have hnext : (count % M + 1) % M = (count + 1) % M := Nat.mod_add_mod count M 1
  rw [hnext]
  constructor
  · intro heq
    have hmod : count + 1 + lost ≡ count + 1 + 0 [MOD M] := heq
    exact (Nat.modEq_zero_iff_dvd).mp (Nat.ModEq.add_left_cancel' (count + 1) hmod)
  · intro hdvd
    have hmod : count + 1 + lost ≡ count + 1 + 0 [MOD M] :=
      Nat.ModEq.add_left (count + 1) (Nat.modEq_zero_iff_dvd.mpr hdvd)
    exact hmod

/-- The numbers that are seen are consecutive exactly if whole rounds are lost between them. -/
theorem consecutive_shownNumbers_iff (count : ℕ) (slips : List Slip) :
    Consecutive M (shownNumbers M count slips) ↔ LosesWholeRounds M slips := by
  induction slips generalizing count with
  | nil => exact iff_of_true List.IsChain.nil (losesWholeRounds_of_not_mem List.not_mem_nil)
  | cons slip slips ih =>
    cases slip with
    | lost =>
      rw [losesWholeRounds_cons_of_ne (by decide)]
      exact ih (count + 1)
    | kept =>
      rw [losesWholeRounds_cons_of_ne (by decide)]
      exact ih count
    | shown =>
      by_cases hmore : .shown ∈ slips
      · obtain ⟨middle, back, rfl, hmiddle⟩ := List.eq_append_cons_of_mem hmore
        rw [losesWholeRounds_shown hmiddle, ← ih (count + 1), ← add_modEq_self_iff count]
        rw [shownNumbers, shownNumbers_append hmiddle, shownNumbers]
        exact List.isChain_cons_cons
      · have hend : LosesWholeRounds M (.shown :: slips) := by
          rintro front middle back hsplit -
          cases front with
          | nil => exact absurd (by rw [(List.cons.inj hsplit).2]; simp) hmore
          | cons first front => exact absurd (by rw [(List.cons.inj hsplit).2]; simp) hmore
        rw [shownNumbers, shownNumbers_eq_nil hmore]
        exact iff_of_true (List.IsChain.singleton _) hend

end KernelModules.Foundations
