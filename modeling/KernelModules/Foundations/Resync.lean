import KernelModules.Foundations.SequenceSpace
import Mathlib.Data.Int.Basic
import Mathlib.Data.List.Chain
import Mathlib.Data.Nat.Find

/-!
# Locking on to a stream of numbers

A receiver expects the next number of a stream whose numbers wrap. It takes no number that is not in
a window from the expected one on. In the window it takes the expected number, and it takes another
one only after enough numbers in a row have come one after the other, or when it has been told to
take whatever comes. Whatever it takes, it expects the next number from then on.

Once it has taken a number of a stream, it takes all that follow (`Lock.takes_of_le`). Whether it
takes one soon depends on where the stream starts: outside the window the receiver does not notice
that the numbers follow each other, and the stream has to come round to the expected number
(`Lock.takes_iff`).
-/

set_option autoImplicit false
set_option relaxedAutoImplicit false

namespace KernelModules.Foundations

/-- How many numbers there are, how many of them the window spans, how many numbers in a row are not
yet enough, and how the length of such a row is counted. -/
structure LockRules where
  count : ℕ
  window : ℕ
  patience : ℕ
  bump : ℤ → ℤ

/-- The window is neither empty nor so large that a stream comes round while a row is counted, and a
row is counted correctly until it is long enough. -/
structure LockRules.Sound (rules : LockRules) : Prop where
  window_pos : 0 < rules.window
  window_lt : rules.window + rules.patience + 1 < rules.count
  bump_eq : ∀ run : ℤ, run ≤ rules.patience → rules.bump run = run + 1

/-- A receiver: the number it expects, the last number out of sequence, how long a row that one
ends, and whether to take whatever comes. -/
structure Lock where
  expected : ℕ
  last : ℕ
  run : ℤ
  skip : Bool

/-- What holds from some time on holds from a first time on. -/
theorem exists_first_iff {P : ℕ → Prop} (hP : ∀ j k, j ≤ k → P j → P k) (bound : ℕ) :
    (∃ first ≤ bound, ∀ k, P k ↔ first ≤ k) ↔ P bound := by
  constructor
  · rintro ⟨first, hbound, hfirst⟩
    exact (hfirst bound).mpr hbound
  · intro hholds
    classical
    have hexists : ∃ k, P k := ⟨bound, hholds⟩
    refine ⟨Nat.find hexists, Nat.find_min' hexists hholds, fun k ↦ ?_⟩
    constructor
    · exact fun hk ↦ Nat.find_min' hexists hk
    · exact fun hk ↦ hP _ _ hk (Nat.find_spec hexists)

/-- Where the stream is `j` numbers later. -/
theorem ahead_add {m a b : ℕ} (j : ℕ) : ahead m a ((b + j) % m) = (ahead m a b + j) % m := by
  unfold ahead
  rw [Nat.mod_add_mod, Nat.mod_add_mod, Nat.add_right_comm]

theorem ahead_eq_zero_iff {m a b : ℕ} (ha : a < m) (hb : b < m) : ahead m a b = 0 ↔ b = a := by
  rcases Nat.lt_or_ge b a with hlt | hge
  · rw [ahead_of_lt hlt ha]
    omega
  · rw [ahead_of_le hge hb]
    omega

namespace Lock

variable (rules : LockRules) (lock : Lock)

/-- The length of the row that a number out of sequence ends. -/
def runAt (number : ℕ) : ℤ :=
  if number = (lock.last + 1) % rules.count then rules.bump lock.run else 0

/-- A number comes. The flag tells whether it is taken. -/
def step (number : ℕ) : Lock × Bool :=
  if rules.window ≤ ahead rules.count lock.expected number then (lock, false)
  else if number = lock.expected then
    ({ lock with expected := (number + 1) % rules.count, skip := false }, true)
  else if lock.skip || rules.patience < lock.runAt rules number then
    ({ expected := (number + 1) % rules.count
       last := number
       run := lock.runAt rules number
       skip := false }, true)
  else ({ lock with last := number, run := lock.runAt rules number }, false)

/-- The receiver before number `k` of the stream that starts with `start`. -/
def before (start : ℕ) : ℕ → Lock
  | 0 => lock
  | k + 1 => ((before start k).step rules ((start + k) % rules.count)).1

/-- Number `k` of the stream is taken. -/
def takes (start k : ℕ) : Bool :=
  ((lock.before rules start k).step rules ((start + k) % rules.count)).2

variable {rules lock}

/-! ### One number -/

theorem step_of_outside {number : ℕ}
    (houtside : rules.window ≤ ahead rules.count lock.expected number) :
    lock.step rules number = (lock, false) := by
  rw [step, if_pos houtside]

theorem step_of_expected {number : ℕ}
    (hinside : ahead rules.count lock.expected number < rules.window)
    (hexpected : number = lock.expected) :
    lock.step rules number =
      ({ lock with expected := (number + 1) % rules.count, skip := false }, true) := by
  rw [step, if_neg (Nat.not_le.mpr hinside), if_pos hexpected]

/-- A number in the window that is not the expected one, while the row is too short. -/
theorem step_of_short {number : ℕ}
    (hinside : ahead rules.count lock.expected number < rules.window)
    (hne : number ≠ lock.expected) (hskip : lock.skip = false)
    (hshort : lock.runAt rules number ≤ rules.patience) :
    lock.step rules number =
      ({ lock with last := number, run := lock.runAt rules number }, false) := by
  have hnot : ¬ (lock.skip || decide (rules.patience < lock.runAt rules number)) = true := by
    simpa [hskip] using hshort
  rw [step, if_neg (Nat.not_le.mpr hinside), if_neg hne, if_neg hnot]

/-- A number in the window that is not the expected one, when it is time to take whatever comes. -/
theorem step_of_long {number : ℕ}
    (hinside : ahead rules.count lock.expected number < rules.window)
    (hne : number ≠ lock.expected)
    (hlong : lock.skip = true ∨ rules.patience < lock.runAt rules number) :
    lock.step rules number =
      ({ expected := (number + 1) % rules.count
         last := number
         run := lock.runAt rules number
         skip := false }, true) := by
  have htake : (lock.skip || decide (rules.patience < lock.runAt rules number)) = true := by
    simpa using hlong
  rw [step, if_neg (Nat.not_le.mpr hinside), if_neg hne, if_pos htake]

/-- A number in the window is taken when it is time to take whatever comes. -/
theorem takes_of_long {number : ℕ}
    (hinside : ahead rules.count lock.expected number < rules.window)
    (hlong : lock.skip = true ∨ rules.patience < lock.runAt rules number) :
    (lock.step rules number).2 = true := by
  by_cases hexpected : number = lock.expected
  · rw [step_of_expected hinside hexpected]
  · rw [step_of_long hinside hexpected hlong]

theorem skip_of_takes {number : ℕ} (htakes : (lock.step rules number).2 = true) :
    (lock.step rules number).1.skip = false := by
  unfold step at htakes ⊢
  split_ifs at htakes ⊢
  · rfl
  · rfl

/-- A number that is not taken changes what is remembered at most. -/
theorem step_of_not_takes {number : ℕ} (htakes : (lock.step rules number).2 = false) :
    (lock.step rules number).1.expected = lock.expected ∧
      (lock.step rules number).1.skip = lock.skip := by
  unfold step at htakes ⊢
  split_ifs at htakes ⊢
  · exact ⟨rfl, rfl⟩
  · exact ⟨rfl, rfl⟩

/-! ### Once taken -/

/-- After a number has been taken, the next one is expected. -/
theorem expected_of_takes {number : ℕ} (htakes : (lock.step rules number).2 = true) :
    (lock.step rules number).1.expected = (number + 1) % rules.count := by
  unfold step at htakes ⊢
  split_ifs at htakes ⊢
  · rfl
  · rfl

/-- The expected number is taken. -/
theorem takes_expected (hsound : rules.Sound) (hexpected : lock.expected < rules.count) :
    (lock.step rules lock.expected).2 = true := by
  have hzero : ahead rules.count lock.expected lock.expected = 0 :=
    (ahead_eq_zero_iff hexpected hexpected).mpr rfl
  have hinside : ahead rules.count lock.expected lock.expected < rules.window := by
    rw [hzero]
    exact hsound.window_pos
  rw [step_of_expected hinside rfl]

/-- Once a number has been taken, all that follow are. -/
theorem takes_of_le (hsound : rules.Sound) {start first : ℕ}
    (hfirst : lock.takes rules start first = true) {k : ℕ} (hk : first ≤ k) :
    lock.takes rules start k = true := by
  induction k, hk using Nat.le_induction with
  | base => exact hfirst
  | succ k _ ih =>
    have hcount : 0 < rules.count := by
      have hlt := hsound.window_lt
      omega
    have hexpected : (lock.before rules start (k + 1)).expected =
        (start + (k + 1)) % rules.count := by
      rw [before, expected_of_takes ih, Nat.mod_add_mod, Nat.add_assoc]
    unfold takes
    rw [← hexpected]
    apply takes_expected hsound
    rw [hexpected]
    exact Nat.mod_lt _ hcount

/-! ### Outside the window -/

/-- A stream goes on from where it is. -/
theorem before_add (start j k : ℕ) :
    lock.before rules start (j + k) = (lock.before rules start j).before rules (start + j) k := by
  induction k with
  | zero => rfl
  | succ k ih => rw [← Nat.add_assoc, before, before, ih, Nat.add_assoc]

theorem takes_add (start j k : ℕ) :
    lock.takes rules start (j + k) = (lock.before rules start j).takes rules (start + j) k := by
  rw [takes, takes, before_add, Nat.add_assoc]

/-- Outside the window nothing is noticed. -/
theorem before_of_outside {start : ℕ}
    (houtside : rules.window ≤ ahead rules.count lock.expected start)
    {k : ℕ} (hk : ahead rules.count lock.expected start + k ≤ rules.count) :
    lock.before rules start k = lock := by
  induction k with
  | zero => rfl
  | succ k ih =>
    have hstill : rules.window ≤ ahead rules.count lock.expected ((start + k) % rules.count) := by
      rw [ahead_add, Nat.mod_eq_of_lt (by omega)]
      omega
    rw [before, ih (by omega), step_of_outside hstill]

theorem takes_of_outside {start : ℕ}
    (houtside : rules.window ≤ ahead rules.count lock.expected start)
    {k : ℕ} (hk : ahead rules.count lock.expected start + k < rules.count) :
    lock.takes rules start k = false := by
  have hstill : rules.window ≤ ahead rules.count lock.expected ((start + k) % rules.count) := by
    rw [ahead_add, Nat.mod_eq_of_lt hk]
    omega
  rw [takes, before_of_outside houtside hk.le, step_of_outside hstill]

/-! ### Inside the window -/

section Rows

variable {start : ℕ}

/-- Where number `j` of the stream is, before the stream comes round. -/
theorem ahead_stream {j : ℕ} (hj : ahead rules.count lock.expected start + j < rules.count) :
    ahead rules.count lock.expected ((start + j) % rules.count) =
      ahead rules.count lock.expected start + j := by
  rw [ahead_add, Nat.mod_eq_of_lt hj]

theorem ne_expected {number : ℕ} (hexpected : lock.expected < rules.count)
    (hne : ahead rules.count lock.expected number ≠ 0) : number ≠ lock.expected := by
  intro heq
  apply hne
  rw [heq]
  exact (ahead_eq_zero_iff hexpected hexpected).mpr rfl

/-- The next number of the stream makes the row longer by one. -/
theorem runAt_next (hsound : rules.Sound) {j : ℕ} (hlast : lock.last = (start + j) % rules.count)
    (hshort : lock.run ≤ rules.patience) :
    lock.runAt rules ((start + (j + 1)) % rules.count) = lock.run + 1 := by
  have hrow : (start + (j + 1)) % rules.count = (lock.last + 1) % rules.count := by
    rw [hlast, Nat.mod_add_mod, Nat.add_assoc]
  rw [runAt, if_pos hrow, hsound.bump_eq _ hshort]

/-- As long as the stream stays in the window and the row is too short, the row is counted. -/
theorem before_of_short (hsound : rules.Sound) (hexpected : lock.expected < rules.count)
    (hstart : start < rules.count) (hne : ahead rules.count lock.expected start ≠ 0)
    (hskip : lock.skip = false) {j : ℕ}
    (hinside : ahead rules.count lock.expected start + j < rules.window)
    (hshort : lock.runAt rules start + j ≤ rules.patience) :
    lock.before rules start (j + 1) =
        { lock with last := (start + j) % rules.count, run := lock.runAt rules start + j } ∧
      lock.takes rules start j = false := by
  have hwindow := hsound.window_lt
  induction j with
  | zero =>
    have hfirst : (start + 0) % rules.count = start := Nat.mod_eq_of_lt hstart
    have hstep := step_of_short hinside (ne_expected hexpected hne) hskip (by simpa using hshort)
    constructor
    · rw [before, hfirst, before, hstep]
      simp
    · rw [takes, hfirst, before, hstep]
  | succ j ih =>
    have hbefore := (ih (by omega) (by push_cast at hshort; omega)).1
    have hahead : ahead rules.count lock.expected ((start + (j + 1)) % rules.count) =
        ahead rules.count lock.expected start + (j + 1) := ahead_stream (by omega)
    have hother : (start + (j + 1)) % rules.count ≠ lock.expected :=
      ne_expected hexpected (by rw [hahead]; omega)
    have hnext : (lock.before rules start (j + 1)).runAt rules ((start + (j + 1)) % rules.count) =
        lock.runAt rules start + (j + 1 : ℕ) := by
      rw [hbefore, runAt_next hsound rfl (by push_cast at hshort; dsimp only; omega)]
      push_cast
      omega
    have hstep : (lock.before rules start (j + 1)).step rules ((start + (j + 1)) % rules.count) =
        ({ lock with
            last := (start + (j + 1)) % rules.count
            run := lock.runAt rules start + (j + 1 : ℕ) }, false) := by
      rw [step_of_short]
      · rw [hnext, hbefore]
      · rw [hbefore, hahead]
        exact hinside
      · rw [hbefore]
        exact hother
      · rw [hbefore]
        exact hskip
      · rw [hnext]
        exact hshort
    exact ⟨by rw [before, hstep], by rw [takes, hstep]⟩

variable (rules lock start)

/-- The stream starts where the receiver will soon take it: with the expected number, with any
number of the window if it is to take whatever comes, far enough from the end of the window for the
row to get long enough, or so shortly before the expected number that it comes round to it. -/
def LocksOn : Prop :=
  ahead rules.count lock.expected start = 0 ∨
    (ahead rules.count lock.expected start < rules.window ∧ lock.skip = true) ∨
    (0 ≤ lock.runAt rules start ∧
      ahead rules.count lock.expected start + (rules.patience + 1 - lock.runAt rules start).toNat <
        rules.window) ∨
    (rules.window ≤ ahead rules.count lock.expected start ∧
      rules.count ≤ ahead rules.count lock.expected start + (rules.patience + 1))

variable {rules lock start}

theorem LocksOn.exists_takes (hlocks : lock.LocksOn rules start) (hsound : rules.Sound)
    (hexpected : lock.expected < rules.count) (hstart : start < rules.count) :
    ∃ k ≤ rules.patience + 1, lock.takes rules start k = true := by
  have hwindow := hsound.window_lt
  have hfirst : (start + 0) % rules.count = start := Nat.mod_eq_of_lt hstart
  rcases hlocks with hzero | ⟨hinside, hskip⟩ | ⟨hrun, hinside⟩ | ⟨houtside, hround⟩
  · refine ⟨0, Nat.zero_le _, ?_⟩
    rw [takes, hfirst, before, (ahead_eq_zero_iff hexpected hstart).mp hzero]
    exact takes_expected hsound hexpected
  · refine ⟨0, Nat.zero_le _, ?_⟩
    rw [takes, hfirst, before]
    exact takes_of_long hinside (Or.inl hskip)
  · -- The row gets long enough, unless a number has been taken before.
    by_contra hnone
    have hnever : ∀ k ≤ rules.patience + 1, lock.takes rules start k ≠ true :=
      fun k hk htakes ↦ hnone ⟨k, hk, htakes⟩
    obtain ⟨turns, hturns⟩ : ∃ turns, (rules.patience + 1 - lock.runAt rules start).toNat = turns :=
      ⟨_, rfl⟩
    rw [hturns] at hinside
    refine hnever turns (by omega) ?_
    rw [takes]
    cases turns with
    | zero =>
      rw [hfirst, before]
      exact takes_of_long hinside (Or.inr (by omega))
    | succ j =>
      have hne : ahead rules.count lock.expected start ≠ 0 := by
        intro hzero
        refine hnever 0 (Nat.zero_le _) ?_
        rw [takes, hfirst, before, (ahead_eq_zero_iff hexpected hstart).mp hzero]
        exact takes_expected hsound hexpected
      have hskip : lock.skip = false := by
        rw [← Bool.not_eq_true]
        intro hskip
        refine hnever 0 (Nat.zero_le _) ?_
        rw [takes, hfirst, before]
        exact takes_of_long (by omega) (Or.inl hskip)
      have hbefore := (before_of_short hsound hexpected hstart hne hskip (j := j) (by omega)
        (by omega)).1
      have hahead : ahead rules.count lock.expected ((start + (j + 1)) % rules.count) =
          ahead rules.count lock.expected start + (j + 1) := ahead_stream (by omega)
      apply takes_of_long
      · rw [hbefore]
        exact hahead.trans_lt hinside
      · refine Or.inr ?_
        rw [hbefore, runAt_next hsound rfl (by dsimp only; omega)]
        dsimp only
        omega
  · refine ⟨rules.count - ahead rules.count lock.expected start, by omega, ?_⟩
    have hlt : ahead rules.count lock.expected start < rules.count := ahead_lt (by omega) _ _
    have hzero : ahead rules.count lock.expected
        ((start + (rules.count - ahead rules.count lock.expected start)) % rules.count) = 0 := by
      rw [ahead_add, Nat.add_sub_cancel' hlt.le, Nat.mod_self]
    rw [takes, before_of_outside houtside (by omega),
      (ahead_eq_zero_iff hexpected (Nat.mod_lt _ (by omega))).mp hzero]
    exact takes_expected hsound hexpected

/-- If no row of the stream gets long enough inside the window, none of the first numbers is
taken. -/
theorem takes_eq_false_of_not_locksOn (hnot : ¬ lock.LocksOn rules start) (hsound : rules.Sound)
    (hexpected : lock.expected < rules.count) (hstart : start < rules.count) {k : ℕ}
    (hk : k ≤ rules.patience + 1) : lock.takes rules start k = false := by
  have hwindow := hsound.window_lt
  have hlt : ahead rules.count lock.expected start < rules.count := ahead_lt (by omega) _ _
  simp only [LocksOn, not_or, not_and, not_le, Bool.not_eq_true] at hnot
  obtain ⟨hne, hskip, hrow, hround⟩ := hnot
  rcases Nat.lt_or_ge (ahead rules.count lock.expected start) rules.window with hinside | houtside
  · have hshort : ∀ j, j ≤ rules.patience + 1 →
        ahead rules.count lock.expected start + j < rules.window →
        lock.runAt rules start + j ≤ rules.patience := by
      intro j hj hstill
      by_contra hlong
      rcases lt_or_ge (lock.runAt rules start) 0 with hneg | hpos
      · omega
      · have hleaves := hrow hpos
        omega
    rcases Nat.lt_or_ge (ahead rules.count lock.expected start + k) rules.window with hstill | hleft
    · exact (before_of_short hsound hexpected hstart hne (hskip hinside) hstill
        (hshort k hk hstill)).2
    · -- The stream leaves the window, and does not come round to the expected number in time.
      obtain ⟨j, hj⟩ : ∃ j, ahead rules.count lock.expected start + (j + 1) = rules.window :=
        ⟨rules.window - ahead rules.count lock.expected start - 1, by omega⟩
      obtain ⟨i, rfl⟩ : ∃ i, k = j + 1 + i := ⟨k - (j + 1), by omega⟩
      have hbefore := (before_of_short hsound hexpected hstart hne (hskip hinside) (j := j)
        (by omega) (hshort j (by omega) (by omega))).1
      have hend : ahead rules.count lock.expected (start + (j + 1)) = rules.window := by
        have hstream : ahead rules.count lock.expected ((start + (j + 1)) % rules.count) =
            ahead rules.count lock.expected start + (j + 1) := ahead_stream (by omega)
        rw [ahead, Nat.mod_add_mod] at hstream
        rw [ahead, hstream, hj]
      rw [takes_add, hbefore]
      apply takes_of_outside
      · exact hend.ge
      · rw [hend]
        omega
  · have := hround houtside
    exact takes_of_outside houtside (by omega)

/-- A receiver that takes whatever comes takes the first number exactly if that is in the window. -/
theorem takes_zero_iff (hskip : lock.skip = true) (hstart : start < rules.count) :
    lock.takes rules start 0 = true ↔ ahead rules.count lock.expected start < rules.window := by
  have hzero : (start + 0) % rules.count = start := Nat.mod_eq_of_lt hstart
  rw [takes, hzero, before]
  constructor
  · intro htakes
    by_contra hout
    rw [step_of_outside (Nat.le_of_not_lt hout)] at htakes
    exact absurd htakes Bool.false_ne_true
  · intro hinside
    exact takes_of_long hinside (Or.inl hskip)

/-- A stream is taken when it has been long enough exactly if it starts where the receiver locks on
to it. -/
theorem takes_iff (hsound : rules.Sound) (hexpected : lock.expected < rules.count)
    (hstart : start < rules.count) :
    lock.takes rules start (rules.patience + 1) = true ↔ lock.LocksOn rules start := by
  constructor
  · intro htakes
    by_contra hnot
    rw [takes_eq_false_of_not_locksOn hnot hsound hexpected hstart le_rfl] at htakes
    exact absurd htakes Bool.false_ne_true
  · intro hlocks
    obtain ⟨k, hk, htakes⟩ := hlocks.exists_takes hsound hexpected hstart
    exact takes_of_le hsound htakes hk

end Rows

/-! ### What a row is made of -/

/-- The numbers out of sequence, the newest first, when one more number has come. -/
def noticed (rules : LockRules) (lock : Lock) (number : ℕ) (numbers : List ℕ) : List ℕ :=
  if ahead rules.count lock.expected number < rules.window ∧ number ≠ lock.expected then
    number :: numbers
  else numbers

/-- The first `count` numbers of a list that starts with the newest follow each other. -/
def RowOf (rules : LockRules) (count : ℕ) (numbers : List ℕ) : Prop :=
  count ≤ numbers.length ∧
    (numbers.take count).IsChain fun later earlier ↦ later = (earlier + 1) % rules.count

/-- The receiver remembers the newest number out of sequence, and a row as long as the one it has
counted is behind it. -/
structure Recalls (rules : LockRules) (lock : Lock) (numbers : List ℕ) : Prop where
  last : numbers.head? = some lock.last
  row : ∀ length : ℕ, (length : ℤ) ≤ lock.run → RowOf rules (length + 1) numbers

theorem RowOf.single (number : ℕ) (numbers : List ℕ) : RowOf rules 1 (number :: numbers) :=
  ⟨Nat.le_add_left 1 _, List.IsChain.singleton number⟩

/-- The number that follows the newest one makes a row longer. -/
theorem RowOf.cons {count last : ℕ} {numbers : List ℕ} (hrow : RowOf rules (count + 1) numbers)
    (hlast : numbers.head? = some last) {number : ℕ}
    (hnumber : number = (last + 1) % rules.count) :
    RowOf rules (count + 2) (number :: numbers) := by
  obtain ⟨hcount, hchain⟩ := hrow
  cases numbers with
  | nil => exact absurd hlast (by simp)
  | cons newest numbers =>
    rw [← Option.some.inj hlast] at hnumber
    exact ⟨Nat.succ_le_succ hcount, List.IsChain.cons_cons hnumber hchain⟩

/-- A row without its oldest number. -/
theorem RowOf.of_append {count oldest : ℕ} {numbers : List ℕ}
    (hrow : RowOf rules (count + 1) (numbers ++ [oldest])) : RowOf rules count numbers := by
  have hcount : count ≤ numbers.length := by
    have hle := hrow.1
    rw [List.length_append, List.length_singleton] at hle
    exact Nat.le_of_succ_le_succ hle
  refine ⟨hcount, ?_⟩
  have hchain := hrow.2.take count
  rwa [List.take_take, Nat.min_eq_left (Nat.le_succ count), List.take_append_of_le_length hcount]
    at hchain

/-- A row that is counted is there, however far the counting goes: it may fall back, but never runs
ahead. -/
theorem Recalls.row_runAt {numbers : List ℕ} (hrecalls : Recalls rules lock numbers)
    (hbump : ∀ run, rules.bump run ≤ run + 1) {number length : ℕ}
    (hlength : (length : ℤ) ≤ lock.runAt rules number) :
    RowOf rules (length + 1) (number :: numbers) := by
  cases length with
  | zero => exact RowOf.single number numbers
  | succ length =>
    unfold runAt at hlength
    split_ifs at hlength with hnext
    · have hle := hbump lock.run
      push_cast at hlength
      exact (hrecalls.row length (by omega)).cons hrecalls.last hnext
    · push_cast at hlength
      omega

/-- Whatever number comes, the receiver still remembers what it has seen. -/
theorem Recalls.step {numbers : List ℕ} (hrecalls : Recalls rules lock numbers)
    (hbump : ∀ run, rules.bump run ≤ run + 1) (number : ℕ) :
    Recalls rules (lock.step rules number).1 (lock.noticed rules number numbers) := by
  rcases Nat.lt_or_ge (ahead rules.count lock.expected number) rules.window with hin | hout
  · by_cases hexpected : number = lock.expected
    · rw [step_of_expected hin hexpected, noticed, if_neg fun h ↦ h.2 hexpected]
      exact ⟨hrecalls.last, hrecalls.row⟩
    · rw [noticed, if_pos ⟨hin, hexpected⟩]
      have hnoticed : ∀ expected skip, Recalls rules
          ⟨expected, number, lock.runAt rules number, skip⟩ (number :: numbers) := by
        intro expected skip
        exact ⟨rfl, fun length hlength ↦ hrecalls.row_runAt hbump hlength⟩
      unfold Lock.step
      rw [if_neg (Nat.not_le.mpr hin), if_neg hexpected]
      split_ifs
      · exact hnoticed _ _
      · exact hnoticed _ _
  · rw [step_of_outside hout, noticed, if_neg fun h ↦ Nat.not_le.mpr h.1 hout]
    exact hrecalls

/-- A receiver that does not take whatever comes moves on by one, or after a row of numbers out of
sequence that is long enough. -/
theorem Recalls.row_of_step {numbers : List ℕ} (hrecalls : Recalls rules lock numbers)
    (hbump : ∀ run, rules.bump run ≤ run + 1) (hskip : lock.skip = false) {number : ℕ}
    (hmoves : (lock.step rules number).1.expected ≠ lock.expected) :
    (lock.step rules number).1.expected = (lock.expected + 1) % rules.count ∨
      RowOf rules (rules.patience + 2) (number :: numbers) := by
  unfold Lock.step at hmoves ⊢
  split_ifs at hmoves ⊢ with hout hexpected hlong
  · exact absurd rfl hmoves
  · exact Or.inl (by rw [hexpected])
  · rw [hskip, Bool.false_or, decide_eq_true_iff] at hlong
    exact Or.inr (hrecalls.row_runAt hbump (by push_cast; omega))
  · exact absurd rfl hmoves

end Lock

end KernelModules.Foundations
