import Mathlib.Order.Basic
import Mathlib.Algebra.BigOperators.Group.List.Basic
import Mathlib.Algebra.GroupWithZero.Nat

/-!
# Credit buckets

A bucket holds at most `capacity` units. Time earns it units, as much as `credit` grants between two
instants, and it is asked for amounts. `Spend` is one request served from the bucket, in the form an
implementation can be compared with: the level left and the amount handed out together fit the
capacity, and together they are covered by the level found plus the units earned since.

`sum_le_level_add_credit` telescopes this over a run, and `sum_le_capacity_add_credit` is the
conformance bound of a run that starts with a request at a given instant: whatever the bucket held
before, the run hands out at most the capacity plus the units its own duration earns.
-/

set_option autoImplicit false
set_option relaxedAutoImplicit false

namespace KernelModules.Foundations.CreditBucket

section Bucket

variable {T : Type*} [Preorder T] {capacity : ℕ} {credit : T → T → ℕ}

/-- One request at instant `now` on a bucket last touched at `before`. The capacity clause holds
whatever the clock does; the credit clause is only owed when the clock has not run backwards. -/
structure Spend (capacity : ℕ) (credit : T → T → ℕ) (level : ℕ) (before : T) (amount level' : ℕ)
    (now : T) : Prop where
  le_capacity : level' + amount ≤ capacity
  le_credit : before ≤ now → level' + amount ≤ level + credit before now

/-- A run of requests, given by their instants and the amounts handed out. -/
inductive SpendRun (capacity : ℕ) (credit : T → T → ℕ) : ℕ → T → List (T × ℕ) → Prop
  | nil (level : ℕ) (before : T) : SpendRun capacity credit level before []
  | cons {level level' amount : ℕ} {before now : T} {rest : List (T × ℕ)} :
      Spend capacity credit level before amount level' now →
        SpendRun capacity credit level' now rest →
          SpendRun capacity credit level before ((now, amount) :: rest)

/-- The instant of the last request of a run, or the instant before it when the run is empty. -/
def lastInstant (before : T) (run : List (T × ℕ)) : T :=
  (run.getLast?.map Prod.fst).getD before

omit [Preorder T] in
@[simp] theorem lastInstant_nil (before : T) : lastInstant before [] = before := rfl

omit [Preorder T] in
@[simp] theorem lastInstant_cons (before : T) (request : T × ℕ) (rest : List (T × ℕ)) :
    lastInstant before (request :: rest) = lastInstant request.1 rest := by
  cases rest with
  | nil => rfl
  | cons next rest => simp [lastInstant, List.getLast?_cons]

theorem le_lastInstant {before : T} {run : List (T × ℕ)}
    (hclock : List.IsChain (· ≤ ·) (before :: run.map Prod.fst)) :
    before ≤ lastInstant before run := by
  induction run generalizing before with
  | nil => exact le_refl before
  | cons request rest ih =>
    rw [List.map_cons, List.isChain_cons_cons] at hclock
    rw [lastInstant_cons]
    exact hclock.1.trans (ih hclock.2)

variable (hadd : ∀ a b c : T, a ≤ b → b ≤ c → credit a b + credit b c ≤ credit a c)

include hadd in
/-- A run hands out at most the level it found plus the units earned until its last request.
Assumes: credits of adjacent intervals are covered by the credit of their union, and the clock does
not run backwards. -/
theorem sum_le_level_add_credit {level : ℕ} {before : T} {run : List (T × ℕ)}
    (hrun : SpendRun capacity credit level before run)
    (hclock : List.IsChain (· ≤ ·) (before :: run.map Prod.fst)) :
    (run.map Prod.snd).sum ≤ level + credit before (lastInstant before run) := by
  induction hrun with
  | nil level before => simp
  | @cons level level' amount before now rest hspend _ ih =>
    rw [List.map_cons, List.isChain_cons_cons] at hclock
    have hrest := ih hclock.2
    have hfirst := hspend.le_credit hclock.1
    have hsplit := hadd before now (lastInstant now rest) hclock.1 (le_lastInstant hclock.2)
    rw [List.map_cons, List.sum_cons, lastInstant_cons]
    change amount + (rest.map Prod.snd).sum ≤ level + credit before (lastInstant now rest)
    omega

include hadd in
/-- Conformance: a run whose first request comes at `now` hands out at most the capacity plus the
units earned from `now` to its last request, whatever level and instant it found. -/
theorem sum_le_capacity_add_credit {level amount : ℕ} {before now : T} {rest : List (T × ℕ)}
    (hrun : SpendRun capacity credit level before ((now, amount) :: rest))
    (hclock : List.IsChain (· ≤ ·) (now :: rest.map Prod.fst)) :
    amount + (rest.map Prod.snd).sum ≤ capacity + credit now (lastInstant now rest) := by
  cases hrun with
  | cons hspend hrest =>
    have hfirst := hspend.le_capacity
    have hlater := sum_le_level_add_credit hadd hrest hclock
    omega

end Bucket

end KernelModules.Foundations.CreditBucket
