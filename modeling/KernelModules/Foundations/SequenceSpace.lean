import Mathlib.Data.Nat.Basic
import Mathlib.Data.Nat.ModEq

/-!
# Sequence numbers that wrap

Sequence numbers run from `0` to `m - 1` and start over. `ahead m a b` is how far one has to count
up from `a` to come to `b`: the difference modulo `m` (`ahead_eq_emod`). Counting up that far does
arrive there (`add_ahead`).

`Forward` is what may be seen of a counter that only moves forward, a little at a time, and gives
out the number behind it after a move. Such a counter does not give out a number twice before it has
gone all the way round (`Forward.le_travelled_of_take_twice`).
-/

set_option autoImplicit false
set_option relaxedAutoImplicit false

namespace KernelModules.Foundations

/-- How far `b` lies ahead of `a` among `m` numbers. -/
def ahead (m a b : ℕ) : ℕ := (b + (m - a)) % m

variable {m a b : ℕ}

theorem ahead_of_le (hab : a ≤ b) (hb : b < m) : ahead m a b = b - a := by
  have hsum : b + (m - a) = (b - a) + m := by omega
  rw [ahead, hsum, Nat.add_mod_right, Nat.mod_eq_of_lt (by omega)]

theorem ahead_of_lt (hba : b < a) (ha : a < m) : ahead m a b = m - (a - b) := by
  rw [ahead, Nat.mod_eq_of_lt (by omega)]
  omega

/-- The distance is the difference, modulo the number of numbers. -/
theorem ahead_eq_emod (ha : a ≤ m) (b : ℕ) : (ahead m a b : ℤ) = ((b : ℤ) - a) % m := by
  have hsum : (b : ℤ) + (m - a) = (b - a) + m := by omega
  rw [ahead, Int.natCast_mod, Int.natCast_add, Int.ofNat_sub ha, hsum, Int.add_emod_right]

theorem ahead_lt (hm : 0 < m) (a b : ℕ) : ahead m a b < m := Nat.mod_lt _ hm

/-- Counting up from `a` by the distance to `b` arrives at `b`. -/
theorem add_ahead (ha : a ≤ m) (hb : b < m) : (a + ahead m a b) % m = b := by
  have hsum : a + (b + (m - a)) = b + m := by omega
  rw [ahead, Nat.add_mod_mod, hsum, Nat.add_mod_right, Nat.mod_eq_of_lt hb]

/-- The next number is one ahead. -/
theorem ahead_succ (hm : 1 < m) (ha : a < m) : ahead m a ((a + 1) % m) = 1 := by
  rcases Nat.lt_or_ge (a + 1) m with hlt | hge
  · rw [Nat.mod_eq_of_lt hlt, ahead_of_le (Nat.le_succ a) hlt]
    omega
  · have hlast : a + 1 = m := by omega
    rw [hlast, Nat.mod_self, ahead_of_lt (by omega) ha]
    omega

/-- Behind `b`, a number that lay farther ahead than `b` has come nearer by the way to `b` and one
step more. -/
theorem ahead_past {c : ℕ} (ha : a < m) (hb : b < m) (hc : c < m)
    (hless : ahead m a b < ahead m a c) :
    ahead m ((b + 1) % m) c + (ahead m a b + 1) = ahead m a c := by
  have hcases : ∀ x < m, ∀ y < m, ahead m x y = if x ≤ y then y - x else m - (x - y) := by
    intro x hx y hy
    split_ifs with hle
    · exact ahead_of_le hle hy
    · exact ahead_of_lt (Nat.lt_of_not_le hle) hx
  rw [hcases a ha b hb, hcases a ha c hc] at *
  rcases Nat.lt_or_ge (b + 1) m with hlt | hge
  · rw [Nat.mod_eq_of_lt hlt, hcases (b + 1) hlt c hc]
    split_ifs at * <;> omega
  · have hlast : b + 1 = m := by omega
    rw [hlast, Nat.mod_self, hcases 0 (by omega) c hc]
    split_ifs at * <;> omega

/-- Numbers inside a window, in the order in which one comes to them: behind the first, the others
are still inside the window and in that order. -/
theorem inOrder_past {α : Type*} {number : α → ℕ} {window : ℕ} {x : α} {rest : List α} (ha : a < m)
    (hspace : ∀ y ∈ x :: rest, number y < m)
    (hwindow : ∀ y ∈ x :: rest, ahead m a (number y) < window)
    (horder : (x :: rest).Pairwise fun y z ↦ ahead m a (number y) < ahead m a (number z)) :
    (∀ y ∈ rest, ahead m ((number x + 1) % m) (number y) < window) ∧
      rest.Pairwise fun y z ↦
        ahead m ((number x + 1) % m) (number y) < ahead m ((number x + 1) % m) (number z) := by
  obtain ⟨hfirst, hrest⟩ := List.pairwise_cons.mp horder
  have hnearer : ∀ y ∈ rest, ahead m ((number x + 1) % m) (number y) +
      (ahead m a (number x) + 1) = ahead m a (number y) := fun y hy ↦
    ahead_past ha (hspace x List.mem_cons_self) (hspace y (List.mem_cons_of_mem _ hy)) (hfirst y hy)
  refine ⟨fun y hy ↦ ?_, hrest.imp_of_mem fun hy hz hless ↦ ?_⟩
  · have hinside := hwindow y (List.mem_cons_of_mem _ hy)
    have hdistance := hnearer y hy
    omega
  · have hdistance := hnearer _ hy
    have hdistance' := hnearer _ hz
    omega

/-! ### A counter that gives out numbers -/

/-- What is seen of a counter: it moves, or the number behind it is used up. -/
inductive CounterEvent
  | move (before after : ℕ)
  | take (number : ℕ)
  deriving DecidableEq, Repr

/-- The distance a counter has moved. -/
def travelled (m : ℕ) : List CounterEvent → ℕ
  | [] => 0
  | .move before after :: events => ahead m before after + travelled m events
  | .take _ :: events => travelled m events

/-- The events of a counter that only moves forward, each time by less than `window`, and has moved
since it last gave out a number. A state is the counter and whether it has moved. -/
inductive Forward (m window : ℕ) : ℕ → Bool → List CounterEvent → ℕ → Bool → Prop
  | nil (counter : ℕ) (fresh : Bool) : Forward m window counter fresh [] counter fresh
  | move {before after last : ℕ} {fresh fresh' : Bool} {events : List CounterEvent}
      (hafter : after < m) (hahead : ahead m before after < window)
      (hrest : Forward m window after (fresh || decide (0 < ahead m before after)) events
        last fresh') :
      Forward m window before fresh (.move before after :: events) last fresh'
  | take {counter number last : ℕ} {fresh' : Bool} {events : List CounterEvent}
      (hnumber : counter = (number + 1) % m)
      (hrest : Forward m window counter false events last fresh') :
      Forward m window counter true (.take number :: events) last fresh'

namespace Forward

variable {window first last : ℕ} {fresh fresh' : Bool} {events events' : List CounterEvent}

theorem append_iff : Forward m window first fresh (events ++ events') last fresh' ↔
    ∃ middle fresh₁, Forward m window first fresh events middle fresh₁ ∧
      Forward m window middle fresh₁ events' last fresh' := by
  constructor
  · intro hforward
    induction events generalizing first fresh with
    | nil => exact ⟨first, fresh, nil first fresh, hforward⟩
    | cons event events ih =>
      cases hforward with
      | move hafter hahead hrest =>
        obtain ⟨middle, fresh₁, hleft, hright⟩ := ih hrest
        exact ⟨middle, fresh₁, move hafter hahead hleft, hright⟩
      | take hnumber hrest =>
        obtain ⟨middle, fresh₁, hleft, hright⟩ := ih hrest
        exact ⟨middle, fresh₁, take hnumber hleft, hright⟩
  · rintro ⟨middle, fresh₁, hleft, hright⟩
    induction hleft with
    | nil => exact hright
    | move hafter hahead _ ih => exact move hafter hahead (ih hright)
    | take hnumber _ ih => exact take hnumber (ih hright)

/-- The distances add up to where the counter ends. -/
theorem travelled_mod (hforward : Forward m window first fresh events last fresh')
    (hfirst : first < m) : (first + travelled m events) % m = last := by
  induction hforward with
  | nil => exact Nat.mod_eq_of_lt hfirst
  | move hafter _ _ ih =>
    rw [travelled, ← Nat.add_assoc, Nat.add_mod, add_ahead hfirst.le hafter, Nat.add_mod_mod,
      ih hafter]
  | take _ _ ih => exact ih hfirst

/-- A counter that has moved since it last gave out a number has gone some distance. -/
theorem travelled_pos (hforward : Forward m window first fresh events last fresh')
    (hstill : fresh = false) (hmoved : fresh' = true) : 0 < travelled m events := by
  induction hforward with
  | nil => exact absurd (hstill.symm.trans hmoved) Bool.false_ne_true
  | @move before after _ _ _ _ _ _ _ ih =>
    rw [travelled]
    rcases Nat.eq_zero_or_pos (ahead m before after) with hzero | hpos
    · rw [hzero, Nat.zero_add]
      exact ih (by simp [hstill, hzero]) hmoved
    · exact Nat.add_pos_left hpos _
  | take _ _ ih => exact ih rfl hmoved

theorem ahead_lt_of_mem (hforward : Forward m window first fresh events last fresh')
    {before after : ℕ} (hmem : .move before after ∈ events) : ahead m before after < window := by
  induction hforward with
  | nil => simp at hmem
  | move _ hahead _ ih =>
    rcases List.mem_cons.mp hmem with heq | hmem
    · obtain ⟨rfl, rfl⟩ := CounterEvent.move.inj heq
      exact hahead
    · exact ih hmem
  | take _ _ ih => exact ih (by simpa using hmem)

/-- A number is not given out again before the counter has gone all the way round. -/
theorem le_travelled_of_take_twice {pre mid post : List CounterEvent} {number : ℕ}
    (hforward : Forward m window first fresh
      (pre ++ .take number :: (mid ++ .take number :: post)) last fresh')
    (hm : 0 < m) : m ≤ travelled m mid := by
  obtain ⟨middle, _, -, hrest⟩ := append_iff.mp hforward
  cases hrest with
  | take hfirst hrest =>
    obtain ⟨middle', fresh₂, hmid, hsecond⟩ := append_iff.mp hrest
    cases hsecond with
    | take hnumber _ =>
      have hlt : middle < m := by rw [hfirst]; exact Nat.mod_lt _ hm
      have hback := hmid.travelled_mod hlt
      have hpos := hmid.travelled_pos rfl rfl
      rw [hnumber, ← hfirst] at hback
      by_contra hless
      rcases Nat.lt_or_ge (middle + travelled m mid) m with hno | hwrap
      · rw [Nat.mod_eq_of_lt hno] at hback
        omega
      · rw [Nat.mod_eq_sub_mod hwrap, Nat.mod_eq_of_lt (by omega)] at hback
        omega

end Forward

end KernelModules.Foundations
