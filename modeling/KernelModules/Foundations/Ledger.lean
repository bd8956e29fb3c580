import Mathlib.Algebra.BigOperators.Group.Finset.Basic
import Mathlib.Data.List.Basic

/-!
# Things taken and given back

A log of entries, some of which take something and some of which give something back. `held` follows
the log and counts what is held; it fails at an entry that gives back what is not held. So one
equation `held move k log = some m` says two things: what has been taken and not been given back
makes the difference between `k` and `m` (`count_of_held`), and nothing was ever given back that had
not been taken (`count_le_of_held`).
-/

set_option autoImplicit false
set_option relaxedAutoImplicit false

namespace KernelModules.Foundations

variable {ε ι : Type*}

/-- What an entry of a log does. -/
inductive Move
  | take
  | give
  | none
  deriving DecidableEq, Repr

/-- What is held after a log, if `k` is held before it. -/
def held (move : ε → Move) : ℕ → List ε → Option ℕ
  | k, [] => some k
  | k, entry :: log =>
    match move entry, k with
    | .take, k => held move (k + 1) log
    | .give, 0 => none
    | .give, k + 1 => held move k log
    | .none, k => held move k log

section

variable (move : ε → Move)

theorem held_take {entry : ε} (hentry : move entry = .take) (k : ℕ) (log : List ε) :
    held move k (entry :: log) = held move (k + 1) log := by
  simp [held, hentry]

theorem held_give {entry : ε} (hentry : move entry = .give) (k : ℕ) (log : List ε) :
    held move (k + 1) (entry :: log) = held move k log := by
  simp [held, hentry]

theorem held_none {entry : ε} (hentry : move entry = .none) (k : ℕ) (log : List ε) :
    held move k (entry :: log) = held move k log := by
  simp [held, hentry]

theorem held_append (k : ℕ) (first second : List ε) :
    held move k (first ++ second) = (held move k first).bind (held move · second) := by
  induction first generalizing k with
  | nil => rfl
  | cons entry first ih =>
    rw [List.cons_append]
    cases hmove : move entry with
    | take => rw [held_take move hmove, held_take move hmove, ih]
    | none => rw [held_none move hmove, held_none move hmove, ih]
    | give =>
      cases k with
      | zero => simp [held, hmove]
      | succ k => rw [held_give move hmove, held_give move hmove, ih]

/-- A log in which nothing moves. -/
theorem held_of_none {log : List ε} (hlog : ∀ entry ∈ log, move entry = .none) (k : ℕ) :
    held move k log = some k := by
  induction log with
  | nil => rfl
  | cons entry log ih =>
    rw [held_none move (hlog entry List.mem_cons_self)]
    exact ih fun other hother ↦ hlog other (List.mem_cons_of_mem entry hother)

theorem held_map {δ : Type*} (f : δ → ε) (k : ℕ) (log : List δ) :
    held move k (log.map f) = held (move ∘ f) k log := by
  induction log generalizing k with
  | nil => rfl
  | cons entry log ih =>
    rw [List.map_cons]
    cases hmove : move (f entry) with
    | take => rw [held_take move hmove, held_take (move ∘ f) hmove, ih]
    | none => rw [held_none move hmove, held_none (move ∘ f) hmove, ih]
    | give =>
      cases k with
      | zero => simp [held, hmove]
      | succ k => rw [held_give move hmove, held_give (move ∘ f) hmove, ih]

variable {move} {k m : ℕ} {log : List ε}

/-- What has been taken and not been given back is held. -/
theorem count_of_held (hheld : held move k log = some m) :
    k + log.countP (move · = .take) = m + log.countP (move · = .give) := by
  induction log generalizing k with
  | nil => exact congrArg (· + 0) (Option.some.inj hheld)
  | cons entry log ih =>
    cases hmove : move entry with
    | take =>
      rw [held_take move hmove] at hheld
      have hrest := ih hheld
      simp only [List.countP_cons, hmove, reduceCtorEq, decide_true, decide_false, if_true,
        if_false, Bool.false_eq_true]
      omega
    | none =>
      rw [held_none move hmove] at hheld
      simpa [List.countP_cons, hmove] using ih hheld
    | give =>
      cases k with
      | zero => simp [held, hmove] at hheld
      | succ k =>
        rw [held_give move hmove] at hheld
        have hrest := ih hheld
        simp only [List.countP_cons, hmove, reduceCtorEq, decide_true, decide_false, if_true,
          if_false, Bool.false_eq_true]
        omega

/-- Nothing was ever given back that had not been taken. -/
theorem count_le_of_held (hheld : held move k log = some m) {start : List ε}
    (hstart : start <+: log) :
    start.countP (move · = .give) ≤ k + start.countP (move · = .take) := by
  obtain ⟨rest, rfl⟩ := hstart
  rw [held_append, Option.bind_eq_some_iff] at hheld
  obtain ⟨middle, hmiddle, -⟩ := hheld
  have hcount := count_of_held hmiddle
  omega

end

/-! ### Logs shared by several owners -/

variable [DecidableEq ι]

/-- What an entry does to one owner. -/
def moveOf (move : ε → Move) (owner : ι) (entry : ι × ε) : Move :=
  if entry.1 = owner then move entry.2 else .none

variable (move : ε → Move)

/-- New entries of one owner. -/
theorem held_own (owner : ι) (k : ℕ) (log : List (ι × ε)) (entries : List ε) :
    held (moveOf move owner) k (log ++ entries.map (owner, ·)) =
      (held (moveOf move owner) k log).bind (held move · entries) := by
  have hcomp : moveOf move owner ∘ (owner, ·) = move := by
    funext entry
    simp [moveOf]
  rw [held_append]
  congr 1
  funext middle
  rw [held_map, hcomp]

/-- New entries of another owner. -/
theorem held_other {owner other : ι} (hne : other ≠ owner) (k : ℕ) (log : List (ι × ε))
    (entries : List ε) :
    held (moveOf move owner) k (log ++ entries.map (other, ·)) =
      held (moveOf move owner) k log := by
  have hnone : ∀ entry ∈ entries.map (other, ·), moveOf move owner entry = .none := by
    intro entry hentry
    obtain ⟨e, -, rfl⟩ := List.mem_map.mp hentry
    exact if_neg hne
  rw [held_append]
  cases held (moveOf move owner) k log with
  | none => rfl
  | some middle => exact held_of_none _ hnone middle

/-- The entries of all owners are all entries. -/
theorem sum_countP_moveOf {count : ℕ} {log : List (ℕ × ε)} (hlog : ∀ entry ∈ log, entry.1 < count)
    {kind : Move} (hkind : kind ≠ .none) :
    ∑ owner ∈ Finset.range count, log.countP (fun entry ↦ moveOf move owner entry = kind) =
      log.countP fun entry ↦ move entry.2 = kind := by
  induction log with
  | nil => simp
  | cons entry log ih =>
    have hrest := ih fun other hother ↦ hlog other (List.mem_cons_of_mem entry hother)
    have hmove : ∀ owner, (moveOf move owner entry = kind) ↔
        entry.1 = owner ∧ move entry.2 = kind := by
      intro owner
      unfold moveOf
      split_ifs with howner
      · simp [howner]
      · simp [howner, hkind.symm]
    simp only [List.countP_cons, Finset.sum_add_distrib, hrest, decide_eq_true_eq, hmove]
    congr 1
    rw [Finset.sum_eq_single entry.1]
    · simp
    · intro owner _ hne
      rw [if_neg fun h ↦ hne h.1.symm]
    · intro hnotMem
      exact absurd (Finset.mem_range.mpr (hlog entry List.mem_cons_self)) hnotMem

end KernelModules.Foundations
