import KernelModules.Foundations.KernelThreads
import Mathlib.Algebra.BigOperators.Intervals
import Mathlib.Data.Int.Basic
import Mathlib.Tactic.Linarith

/-!
# The lock test

`lock.c` tries a semaphore out. `test_mlock` starts a thread and waits for it; every thread starts
the next one, until `num` of them run, goes through `max_level` nested loops of `rep` rounds and
takes the semaphore at one level of them, where it increments `locked`. Each thread waits for the
one it has started before it reports to the one that has started it. Nobody looks whether
`kthread_run` has failed.

The model is of a `max_level` that is not negative, since `loop_func` would not come back from a
negative level with rounds to do, and a negative `rep` makes no rounds, as zero does. The lines of
the log are put together in static buffers of `prefix.c` that the threads share without the
semaphore; what they print is not modelled.

Under every schedule at most one thread is in its critical section, and when `test_mlock` has got
past its wait all the threads have been created, have finished, and `locked` counts every critical
section (`mlock_counts`). Every schedule comes to an end, and there `test_mlock` has returned
exactly if every thread could be created: if one could not, the one before it waits for ever, and
the loading of the module with it (`mlock_returns_iff`). But a thread has still a line to log when
it has reported, and `test_mlock` returns `-1`, which unloads the module: there is a schedule after
which every single thread is still to run code that is gone (`mlock_unloaded_under_threads`).
-/

set_option autoImplicit false
set_option relaxedAutoImplicit false

namespace KernelModules.KernelThread

open Foundations Foundations.Threads

/-- The parameters of the module, with a `max_level` that is not negative. -/
structure MlockParams where
  num : ℤ := 2
  rep : ℤ := 100
  sync : ℤ := -1
  maxLevel : ℕ := 2

namespace MlockParams

variable (params : MlockParams)

/-- The parameters as `test_mlock` leaves them before it starts the first thread. -/
def checked : MlockParams :=
  if params.sync > params.maxLevel then { params with sync := -1 } else params

/-- What `loop_func` does at a level around its loop: the thread takes the semaphore and increments
`locked`, which it loads and stores. -/
def guarded (lvl : ℕ) (body : List (ThreadOp ℕ)) : List (ThreadOp ℕ) :=
  if (lvl : ℤ) = params.sync then .down :: .load :: .store :: body ++ [.up] else body

/-- `loop_func`: the units it returns and what it does on the way. -/
def loopFunc : ℕ → BitVec 64 × List (ThreadOp ℕ)
  | 0 => (1, params.guarded 0 [.work])
  | lvl + 1 =>
    let rounds := (List.replicate params.rep.toNat (loopFunc lvl)).foldl
      (fun done call ↦ (done.1 + call.1, done.2 ++ call.2)) (0, [])
    (rounds.1, params.guarded (lvl + 1) rounds.2)

/-- The number a thread has: `num` for `test_mlock`, and one less for each thread than for the one
that has started it. -/
def localNum : ℕ → ℤ
  | 0 => params.num
  | j + 1 => (localNum j - 1).bmod (2 ^ 32)

/-- `test_mlock` after it has checked the parameters. The work is its lines in the log. -/
def testMlock (created : ℕ → Bool) : List (ThreadOp ℕ) :=
  [.work, .start 1 (created 1), .await 1, .work, .work]

/-- `thread_func` in thread `j`. It waits whenever `kthread_run` was called, whatever it has
returned. -/
def threadFunc (created : ℕ → Bool) (j : ℕ) : List (ThreadOp ℕ) :=
  .work :: (if 0 < params.localNum j then [.start (j + 1) (created (j + 1))] else []) ++
    (params.loopFunc params.maxLevel).2 ++
    (if 0 < params.localNum j then [.await (j + 1)] else []) ++ [.finish, .work]

/-- How many threads there are. -/
def threads : ℕ := max 1 params.num.toNat

/-- What each thread does; `0` is the one that loads the module. -/
def program (created : ℕ → Bool) : ℕ → List (ThreadOp ℕ)
  | 0 => testMlock created
  | j + 1 => if j + 1 ≤ params.threads then params.checked.threadFunc created (j + 1) else []

/-- The module is being loaded: `sema` has been initialised and `locked` is zero. -/
def boot (created : ℕ → Bool) : Threads ℕ (BitVec 64) :=
  initial (params.program created) (· == 0) 0

/-- How often a thread takes the semaphore. -/
def sections (lvl : ℕ) : ℕ :=
  if 0 ≤ params.sync ∧ params.sync ≤ lvl then params.rep.toNat ^ (lvl - params.sync.toNat) else 0

/-! ### The loops -/

variable {params}

theorem foldl_rounds {k : ℕ} {call : BitVec 64 × List (ThreadOp ℕ)} (n : BitVec 64)
    (ops : List (ThreadOp ℕ)) :
    (List.replicate k call).foldl (fun done call ↦ (done.1 + call.1, done.2 ++ call.2)) (n, ops) =
      (n + BitVec.ofNat 64 k * call.1, ops ++ (List.replicate k call.2).flatten) := by
  induction k generalizing n ops with
  | zero => simp
  | succ k ih =>
    rw [List.replicate_succ, List.foldl_cons, ih, List.replicate_succ, List.flatten_cons,
      List.append_assoc, Nat.add_comm k 1, BitVec.ofNat_add, BitVec.add_mul, BitVec.add_assoc]
    simp

theorem loopFunc_succ (lvl : ℕ) :
    params.loopFunc (lvl + 1) =
      (BitVec.ofNat 64 params.rep.toNat * (params.loopFunc lvl).1, params.guarded (lvl + 1)
        (List.replicate params.rep.toNat (params.loopFunc lvl).2).flatten) := by
  simp [loopFunc, foldl_rounds]

/-- Every call of `loop_func` returns the units of its level. -/
theorem loopFunc_units (lvl : ℕ) :
    (params.loopFunc lvl).1 = BitVec.ofNat 64 (params.rep.toNat ^ lvl) := by
  induction lvl with
  | zero => rfl
  | succ lvl ih => rw [loopFunc_succ, ih, ← BitVec.ofNat_mul, Nat.pow_succ, Nat.mul_comm]

/-- Below the level of the semaphore there is nothing but work. -/
theorem loopFunc_work {lvl : ℕ} (hlvl : ∀ k ≤ lvl, (k : ℤ) ≠ params.sync) :
    ∀ op ∈ (params.loopFunc lvl).2, op = .work := by
  induction lvl with
  | zero =>
    rw [loopFunc, guarded, if_neg (hlvl 0 le_rfl)]
    simp
  | succ lvl ih =>
    rw [loopFunc_succ, guarded, if_neg (hlvl _ le_rfl)]
    intro op hop
    obtain ⟨call, hcall, hop⟩ := List.mem_flatten.mp hop
    rw [List.eq_of_mem_replicate hcall] at hop
    exact ih (fun k hk ↦ hlvl k (Nat.le_succ_of_le hk)) op hop

theorem bracketed_flatten_replicate {ops : List (ThreadOp ℕ)} (hops : Bracketed .outside ops)
    (k : ℕ) : Bracketed .outside (List.replicate k ops).flatten := by
  induction k with
  | zero => rfl
  | succ k ih => exact hops.append ih

theorem bracketed_guarded {lvl : ℕ} {body : List (ThreadOp ℕ)}
    (hwork : (lvl : ℤ) = params.sync → ∀ op ∈ body, op = .work)
    (hbody : Bracketed .outside body) : Bracketed .outside (params.guarded lvl body) := by
  unfold guarded
  split
  · rename_i hsync
    have hrest : Bracketed .inside (body ++ [.up]) := bracketed_work_append (hwork hsync) rfl
    exact hrest
  · exact hbody

theorem bracketed_loopFunc (lvl : ℕ) : Bracketed .outside (params.loopFunc lvl).2 := by
  induction lvl with
  | zero => exact bracketed_guarded (fun _ ↦ by simp) rfl
  | succ lvl ih =>
    rw [loopFunc_succ]
    refine bracketed_guarded (fun hsync op hop ↦ ?_) (bracketed_flatten_replicate ih _)
    obtain ⟨call, hcall, hop⟩ := List.mem_flatten.mp hop
    rw [List.eq_of_mem_replicate hcall] at hop
    exact loopFunc_work (fun k hk ↦ by omega) op hop

/-- The loops neither start threads nor wait for them nor report. -/
theorem loopFunc_mem {lvl : ℕ} {op : ThreadOp ℕ} (hop : op ∈ (params.loopFunc lvl).2) :
    op ∈ [.down, .load, .store, .up, .work] := by
  have hguarded : ∀ {lvl body}, op ∈ params.guarded lvl body →
      op ∈ body ∨ op ∈ [.down, .load, .store, .up, .work] := by
    intro lvl body hop
    unfold guarded at hop
    split at hop
    · simp only [List.cons_append, List.mem_cons, List.mem_append, List.not_mem_nil] at hop ⊢
      tauto
    · exact .inl hop
  induction lvl with
  | zero =>
    rcases hguarded hop with hop | hop
    · simp_all
    · exact hop
  | succ lvl ih =>
    rw [loopFunc_succ] at hop
    rcases hguarded hop with hop | hop
    · obtain ⟨call, hcall, hop⟩ := List.mem_flatten.mp hop
      rw [List.eq_of_mem_replicate hcall] at hop
      exact ih hop
    · exact hop

theorem sum_map_flatten_replicate (k : ℕ) (ops : List (ThreadOp ℕ)) :
    ((List.replicate k ops).flatten.map storesOf).sum = k * (ops.map storesOf).sum := by
  induction k with
  | zero => simp
  | succ k ih =>
    rw [List.replicate_succ, List.flatten_cons, List.map_append, List.sum_append, ih,
      Nat.succ_mul, Nat.add_comm]

theorem stores_guarded (lvl : ℕ) (body : List (ThreadOp ℕ)) :
    ((params.guarded lvl body).map storesOf).sum =
      (body.map storesOf).sum + if (lvl : ℤ) = params.sync then 1 else 0 := by
  unfold guarded
  split
  · simp [storesOf, Nat.add_comm]
  · rfl

theorem stores_loopFunc (lvl : ℕ) :
    ((params.loopFunc lvl).2.map storesOf).sum = params.sections lvl := by
  induction lvl with
  | zero =>
    rw [loopFunc, stores_guarded, sections]
    rcases eq_or_ne params.sync 0 with hzero | hne
    · simp [hzero, storesOf]
    · rw [if_neg (by omega), if_neg (by omega)]
      rfl
  | succ lvl ih =>
    rw [loopFunc_succ, stores_guarded, sum_map_flatten_replicate, ih, sections, sections]
    rcases lt_trichotomy params.sync (lvl + 1 : ℕ) with hbelow | hlevel | habove
    · rw [if_neg hbelow.ne', Nat.add_zero]
      by_cases hnegative : 0 ≤ params.sync
      · rw [if_pos ⟨hnegative, by omega⟩, if_pos ⟨hnegative, by omega⟩,
          Nat.succ_sub (by omega), Nat.pow_succ, Nat.mul_comm]
      · rw [if_neg (by omega), if_neg (by omega), Nat.mul_zero]
    · rw [if_neg (by omega), if_pos hlevel.symm, if_pos ⟨by omega, by omega⟩, hlevel,
        Int.toNat_natCast, Nat.sub_self, Nat.pow_zero, Nat.mul_zero]
    · rw [if_neg (by omega), if_neg (by omega), if_neg (by omega), Nat.mul_zero]

/-! ### The chain of threads -/

variable {created : ℕ → Bool} {j : ℕ}

/-- `num` is an `int`, and not the least one, from which one cannot be taken. -/
def InRange (params : MlockParams) : Prop := -2 ^ 31 < params.num ∧ params.num < 2 ^ 31

theorem localNum_eq (hnum : params.InRange) (hj : j ≤ params.threads) :
    params.localNum j = params.num - j := by
  induction j with
  | zero => exact (Int.sub_zero _).symm
  | succ j ih =>
    have hthreads : j + 1 ≤ max 1 params.num.toNat := hj
    obtain ⟨hlow, hhigh⟩ := hnum
    rw [localNum, ih (Nat.le_of_succ_le hj), Int.bmod_eq_of_le_mul_two (by omega) (by omega)]
    omega

theorem localNum_checked (j : ℕ) : params.checked.localNum j = params.localNum j := by
  induction j with
  | zero =>
    unfold checked
    split <;> rfl
  | succ j ih => rw [localNum, localNum, ih]

/-- Each thread but the last one starts another one. -/
theorem localNum_pos_iff (hnum : params.InRange) (hone : 1 ≤ j) (hj : j ≤ params.threads) :
    0 < params.checked.localNum j ↔ j < params.threads := by
  rw [localNum_checked, localNum_eq hnum hj]
  unfold threads at hj ⊢
  omega

/-- The loops of a thread. -/
def loops (params : MlockParams) : List (ThreadOp ℕ) :=
  (params.checked.loopFunc params.checked.maxLevel).2

theorem program_last (hnum : params.InRange) :
    params.program created params.threads = .work :: params.loops ++ [.finish, .work] := by
  obtain ⟨j, hj⟩ : ∃ j, params.threads = j + 1 := ⟨params.threads - 1, by unfold threads; omega⟩
  have hlast := localNum_pos_iff (j := j + 1) hnum (by omega) hj.ge
  rw [hj, program, if_pos hj.ge, threadFunc, if_neg (by omega), if_neg (by omega)]
  simp [loops]

theorem program_of_lt (hnum : params.InRange) (hone : 1 ≤ j) (hj : j < params.threads) :
    params.program created j =
      .work :: .start (j + 1) (created (j + 1)) :: params.loops ++
        .await (j + 1) :: [.finish, .work] := by
  obtain ⟨j, rfl⟩ := Nat.exists_eq_add_of_le' hone
  have hpos := (localNum_pos_iff hnum hone hj.le).mpr hj
  rw [program, if_pos hj.le, threadFunc, if_pos hpos, if_pos hpos]
  simp [loops]

theorem program_of_gt (hj : params.threads < j) : params.program created j = [] := by
  cases j with
  | zero => exact absurd hj (Nat.not_lt_zero _)
  | succ j => rw [program, if_neg (Nat.not_le.mpr hj)]

theorem loops_mem {op : ThreadOp ℕ} (hop : op ∈ params.loops) :
    op ∈ [.down, .load, .store, .up, .work] := loopFunc_mem hop

theorem threads_pos : 1 ≤ params.threads := Nat.le_max_left _ _

/-- The programs by their place in the chain. -/
theorem program_cases (hnum : params.InRange) (created : ℕ → Bool) (j : ℕ) :
    (j = 0 ∧ params.program created j = [.work, .start 1 (created 1), .await 1, .work, .work]) ∨
      (1 ≤ j ∧ j < params.threads ∧ params.program created j =
        .work :: .start (j + 1) (created (j + 1)) :: params.loops ++
          .await (j + 1) :: [.finish, .work]) ∨
      (j = params.threads ∧
        params.program created j = .work :: params.loops ++ [.finish, .work]) ∨
      (params.threads < j ∧ params.program created j = []) := by
  rcases Nat.eq_zero_or_pos j with rfl | hpos
  · exact .inl ⟨rfl, rfl⟩
  · rcases lt_trichotomy j params.threads with hlt | rfl | hgt
    · exact .inr (.inl ⟨hpos, hlt, program_of_lt hnum hpos hlt⟩)
    · exact .inr (.inr (.inl ⟨rfl, program_last hnum⟩))
    · exact .inr (.inr (.inr ⟨hgt, program_of_gt hgt⟩))

theorem bracketed_program (hnum : params.InRange) (created : ℕ → Bool) (j : ℕ) :
    Bracketed .outside (params.program created j) := by
  have hloops : Bracketed .outside params.loops := bracketed_loopFunc _
  obtain ⟨-, h⟩ | ⟨-, -, h⟩ | ⟨-, h⟩ | ⟨-, h⟩ := program_cases hnum created j <;> rw [h]
  · rfl
  · exact hloops.append rfl
  · exact hloops.append rfl
  · rfl

theorem count_program (hnum : params.InRange) (created : ℕ → Bool) (j : ℕ) {op : ThreadOp ℕ}
    (hop : op = .finish ∨ ∃ child, op = .await child) :
    (params.program created j).count op ≤ 1 := by
  have hloops : params.loops.count op = 0 := by
    refine List.count_eq_zero.mpr fun hmem ↦ ?_
    obtain rfl | ⟨child, rfl⟩ := hop <;> simpa using loops_mem hmem
  obtain ⟨-, h⟩ | ⟨-, -, h⟩ | ⟨-, h⟩ | ⟨-, h⟩ := program_cases hnum created j <;>
    obtain rfl | ⟨child, rfl⟩ := hop <;> simp [h, hloops, List.count_cons]
  all_goals split <;> simp

theorem await_mem_program (hnum : params.InRange) {child : ℕ}
    (hmem : .await child ∈ params.program created j) : child = j + 1 ∧ j < params.threads := by
  have hloops : .await child ∉ params.loops := fun hmem ↦ by simpa using loops_mem hmem
  have hthreads := params.threads_pos
  obtain ⟨rfl, h⟩ | ⟨-, hlt, h⟩ | ⟨rfl, h⟩ | ⟨-, h⟩ := program_cases hnum created j <;>
    simp [h, hloops] at hmem
  · exact ⟨hmem, hthreads⟩
  · exact ⟨hmem, hlt⟩

theorem start_mem_program (hnum : params.InRange) {child : ℕ}
    (hmem : .start child true ∈ params.program created j) : created child = true := by
  have hloops : .start child true ∉ params.loops := fun hmem ↦ by simpa using loops_mem hmem
  obtain ⟨rfl, h⟩ | ⟨-, hlt, h⟩ | ⟨rfl, h⟩ | ⟨-, h⟩ := program_cases hnum created j <;>
    simp [h, hloops] at hmem
  · rw [hmem.1, hmem.2]
  · rw [hmem.1, hmem.2]

/-- Each thread but the last one starts the next one, waits for it, and only reports and logs after
the wait. -/
theorem program_waits (hnum : params.InRange) (created : ℕ → Bool) (hj : j < params.threads) :
    .start (j + 1) (created (j + 1)) ∈ params.program created j ∧
      ∃ front back, params.program created j = front ++ .await (j + 1) :: back ∧
        ∀ op ∈ back, op = .finish ∨ op = .work := by
  obtain ⟨rfl, h⟩ | ⟨-, -, h⟩ | ⟨rfl, -⟩ | ⟨hgt, -⟩ := program_cases hnum created j
  · exact ⟨by simp [h], [.work, .start 1 (created 1)], [.work, .work], h, by simp⟩
  · exact ⟨by simp [h], _, _, h, by simp⟩
  · exact absurd hj (lt_irrefl _)
  · exact absurd hj hgt.not_gt

/-- Every thread reports, and only logs after that. -/
theorem program_reports (hnum : params.InRange) (created : ℕ → Bool) (hone : 1 ≤ j)
    (hj : j ≤ params.threads) :
    ∃ front, params.program created j = front ++ .finish :: [.work] := by
  obtain ⟨rfl, -⟩ | ⟨-, -, h⟩ | ⟨rfl, h⟩ | ⟨hgt, -⟩ := program_cases hnum created j
  · exact absurd hone (by decide)
  · exact ⟨.work :: .start (j + 1) (created (j + 1)) :: params.loops ++ [.await (j + 1)],
      by rw [h]; simp⟩
  · exact ⟨_, h⟩
  · exact absurd hj hgt.not_ge

theorem stores_program (hnum : params.InRange) (hone : 1 ≤ j) (hj : j ≤ params.threads) :
    ((params.program created j).map storesOf).sum = params.sections params.maxLevel := by
  have hloops : (params.loops.map storesOf).sum = params.sections params.maxLevel := by
    rw [loops, stores_loopFunc]
    unfold checked
    split
    · rw [sections, sections, if_neg (by simp), if_neg (by omega)]
    · rfl
  obtain ⟨rfl, -⟩ | ⟨-, -, h⟩ | ⟨rfl, h⟩ | ⟨hgt, -⟩ := program_cases hnum created j
  · exact absurd hone (by decide)
  · simp [h, hloops, storesOf]
  · simp [h, hloops, storesOf]
  · exact absurd hj hgt.not_ge

/-- All threads together take the semaphore so often. -/
theorem stores_threads (hnum : params.InRange) (created : ℕ → Bool) :
    weight (Finset.range (params.threads + 1)) storesOf (params.program created) =
      params.threads * params.sections params.maxLevel := by
  rw [weight, Finset.sum_range_succ']
  have hrest : ∀ j ∈ Finset.range params.threads,
      ((params.program created (j + 1)).map storesOf).sum = params.sections params.maxLevel :=
    fun j hj ↦ stores_program hnum (by omega) (Finset.mem_range.mp hj)
  rw [Finset.sum_const_nat hrest, Finset.card_range]
  rfl

/-! ### Every schedule -/

variable {m : Threads ℕ (BitVec 64)} {schedule : List ℕ}

/-- `++locked`. -/
def increment (locked : BitVec 64) : BitVec 64 := locked + 1

theorem iterate_increment (k : ℕ) : increment^[k] 0 = BitVec.ofNat 64 k := by
  induction k with
  | zero => rfl
  | succ k ih => rw [Function.iterate_succ_apply', ih, increment, BitVec.ofNat_add]; rfl

/-- What the library says of every state of a run. -/
abbrev Reached (params : MlockParams) (created : ℕ → Bool) (m : Threads ℕ (BitVec 64)) : Prop :=
  m.Sound (Finset.range (params.threads + 1)) (params.program created) (· == 0) increment 0

theorem program_outside (created : ℕ → Bool) (i : ℕ)
    (hi : i ∉ Finset.range (params.threads + 1)) : params.program created i = [] :=
  program_of_gt (by simpa [Nat.lt_succ_iff] using hi)

theorem once_program (hnum : params.InRange) (created : ℕ → Bool) (j : ℕ) :
    (params.program created j).count .finish ≤ 1 := count_program hnum created j (.inl rfl)

theorem reached_of_run (hnum : params.InRange)
    (hrun : (params.boot created).run increment schedule = some m) : params.Reached created m :=
  sound_run (bracketed_program hnum created) (once_program hnum created) (program_outside created)
    hrun

/-- A thread that has reported has nothing left but its line in the log. -/
theorem rest_of_finished (hnum : params.InRange) (hm : params.Reached created m) (hone : 1 ≤ j)
    (hj : j ≤ params.threads) (hfinished : m.finished j = true) : ∀ op ∈ m.rest j, op = .work := by
  obtain ⟨front, hprogram⟩ := program_reports hnum created hone hj
  have hsuffix := hm.history.suffix j
  rw [hprogram] at hsuffix
  have hrest := suffix_of_notMem hsuffix (hm.history.silent j hfinished).2
  exact fun op hop ↦ List.mem_singleton.mp (hrest.subset hop)

/-- A thread that waits has nothing left after the wait but to report and to log. -/
theorem rest_of_await (hnum : params.InRange) (hm : params.Reached created m) {child : ℕ}
    {ops : List (ThreadOp ℕ)} (hrest : m.rest j = .await child :: ops) :
    child = j + 1 ∧ j < params.threads ∧ ∀ op ∈ ops, op = .finish ∨ op = .work := by
  have hsuffix := hm.history.suffix j
  rw [hrest] at hsuffix
  obtain ⟨rfl, hlt⟩ := await_mem_program hnum (hsuffix.subset List.mem_cons_self)
  obtain ⟨-, front, back, hprogram, hback⟩ := program_waits hnum created hlt
  have hcount := (hsuffix.sublist.count_le (.await (j + 1))).trans
    (count_program hnum created j (.inr ⟨_, rfl⟩))
  rw [List.count_cons_self] at hcount
  have hnot : .await (j + 1) ∉ ops := List.count_eq_zero.mp (by omega)
  rw [hprogram] at hsuffix
  have hops := suffix_of_notMem ((List.suffix_cons _ ops).trans hsuffix) hnot
  exact ⟨rfl, hlt, fun op hop ↦ hback op (hops.subset hop)⟩

/-- If a thread has got past its wait, all that come after it have reported. -/
theorem finished_of_passed (hnum : params.InRange) (hm : params.Reached created m)
    (hpassed : .await 1 ∉ m.rest 0) (hone : 1 ≤ j) (hj : j ≤ params.threads) :
    m.finished j = true := by
  have hwaits : ∀ k < params.threads, .await (k + 1) ∉ m.rest k → m.finished (k + 1) = true := by
    intro k hk hnot
    obtain ⟨-, front, back, hprogram, -⟩ := program_waits hnum created hk
    exact (hm.history.awaited k (k + 1) (by rw [hprogram]; simp)).resolve_left hnot
  induction j, hone using Nat.le_induction with
  | base => exact hwaits 0 hj hpassed
  | succ j hone ih =>
    have hrest := rest_of_finished hnum hm hone (Nat.le_of_succ_le hj) (ih (Nat.le_of_succ_le hj))
    exact hwaits j hj fun hmem ↦ by simpa using hrest _ hmem

theorem created_of_finished (hnum : params.InRange) (hm : params.Reached created m) (hone : 1 ≤ j)
    (hfinished : m.finished j = true) : created j = true := by
  obtain ⟨hmem, hnot⟩ := hm.history.silent j hfinished
  have hstarted : m.started j = true := by
    by_contra hnot'
    rw [hm.history.unstarted j (Bool.eq_false_of_not_eq_true hnot')] at hnot
    exact hnot hmem
  rcases hm.history.begun j hstarted with hroot | ⟨parent, hparent⟩
  · have hzero : j = 0 := by simpa using hroot
    omega
  · exact start_mem_program hnum hparent

/-- The critical sections are counted. Under every schedule at most one thread is between `down` and
`up`. When `test_mlock` has got past its wait, every thread has been created and has reported, and
`locked` is the number of critical sections, in 64 bits. -/
theorem mlock_counts (params : MlockParams) (hnum : params.InRange) (created : ℕ → Bool)
    (hrun : (params.boot created).run increment schedule = some m) :
    (∀ i j, inCritical (m.rest i) = true → inCritical (m.rest j) = true → i = j) ∧
      (.await 1 ∉ m.rest 0 →
        (∀ j, 1 ≤ j → j ≤ params.threads → created j = true ∧ m.finished j = true) ∧
          m.counter = BitVec.ofNat 64 (params.threads * params.sections params.maxLevel)) := by
  have hm := reached_of_run hnum hrun
  refine ⟨fun i j hi hj ↦ hm.exclusive hi hj, fun hpassed ↦ ⟨fun j hone hj ↦ ?_, ?_⟩⟩
  · have hfinished := finished_of_passed hnum hm hpassed hone hj
    exact ⟨created_of_finished hnum hm hone hfinished, hfinished⟩
  · rw [hm.counter_of_stored ?_, stores_threads hnum, iterate_increment]
    intro j hj hstore
    rcases Nat.eq_zero_or_pos j with rfl | hone
    · have hmem := (hm.history.suffix 0).subset hstore
      simp [program, testMlock] at hmem
    · have hle := Nat.lt_succ_iff.mp (Finset.mem_range.mp hj)
      have hfinished := finished_of_passed hnum hm hpassed hone hle
      simpa using rest_of_finished hnum hm hone hle hfinished _ hstore

/-- Two threads that take the semaphore once each, around two rounds of work. -/
def twoThreads : MlockParams where
  num := 2
  rep := 2
  sync := 1
  maxLevel := 1

theorem twoThreads_inRange : twoThreads.InRange := ⟨by decide, by decide⟩

/-- The second thread comes to its `down` while the first one holds the semaphore. -/
def takenTurns : List ℕ :=
  [0, 0, 1, 1, 1, 2, 1, 1, 1, 1, 1, 2, 2, 2, 2, 2, 2, 2, 1, 1, 0]

theorem mlock_counts_twoThreads :
    ∃ m, (twoThreads.boot fun _ ↦ true).run increment takenTurns = some m ∧
      .await 1 ∉ m.rest 0 ∧ m.counter = 2 := by
  obtain ⟨m, hrun, hrest⟩ : ∃ m,
      (twoThreads.boot fun _ ↦ true).run increment takenTurns = some m ∧
        m.rest 0 = [.work, .work] := Option.map_eq_some_iff.mp (by decide +kernel)
  have hpassed : .await 1 ∉ m.rest 0 := by simp [hrest]
  have hcounts := mlock_counts twoThreads twoThreads_inRange (fun _ ↦ true) hrun
  exact ⟨m, hrun, hpassed, (hcounts.2 hpassed).2⟩

/-- Where nobody can go on but threads that have only their line in the log left, and all threads
could be created, all of them run, have at most that line left, and `test_mlock` has returned. -/
theorem returned_of_stuck (hnum : params.InRange) (hm : params.Reached created m)
    (hcreated : ∀ j, 1 ≤ j → j ≤ params.threads → created j = true) {idle : ℕ → Prop}
    (hidle : ∀ i, idle i → 1 ≤ i ∧ m.rest i = [.work])
    (hstuck : ∀ i, idle i ∨ m.step increment i = none) :
    m.rest 0 = [] ∧ ∀ j, 1 ≤ j → j ≤ params.threads → idle j ∨ m.rest j = [] := by
  have hwaits : ∀ j, m.started j = true → idle j ∨ m.rest j = [] ∨
      ∃ child ops, m.rest j = .await child :: ops ∧ m.finished child = false :=
    fun j ↦ hm.waits_of_stuck (fun i hi ↦ by rw [(hidle i hi).2]; rfl) hstuck
  -- down the chain: each one has been started
  have hstarted : ∀ j ≤ params.threads, m.started j = true := by
    intro j hj
    induction j with
    | zero => exact hm.history.roots 0 rfl
    | succ j ih =>
      obtain ⟨hstart, -⟩ := program_waits hnum created hj
      rw [hcreated (j + 1) (by omega) hj] at hstart
      refine (hm.history.launched j (j + 1) hstart).resolve_left fun hmem ↦ ?_
      rcases hwaits j (ih (by omega)) with hdone | hdone | ⟨child, ops, hdone, -⟩
      · simp [(hidle j hdone).2] at hmem
      · simp [hdone] at hmem
      · obtain ⟨-, -, hops⟩ := rest_of_await hnum hm hdone
        rw [hdone, List.mem_cons] at hmem
        rcases hmem with hmem | hmem
        · cases hmem
        · simpa using hops _ hmem
  have hreport : ∀ j, 1 ≤ j → j ≤ params.threads → (idle j ∨ m.rest j = []) →
      m.finished j = true := by
    intro j hone hj hdone
    obtain ⟨front, hprogram⟩ := program_reports hnum created hone hj
    refine (hm.history.reported j (by rw [hprogram]; simp)).resolve_left fun hmem ↦ ?_
    rcases hdone with hdone | hdone
    · simp [(hidle j hdone).2] at hmem
    · simp [hdone] at hmem
  -- and back up: nobody waits for the last one, nor then for the one before it
  have hdone : ∀ d j, j + d = params.threads → idle j ∨ m.rest j = [] := by
    intro d
    induction d with
    | zero =>
      intro j hj
      rcases hwaits j (hstarted j (by omega)) with hdone | hdone | ⟨child, ops, hrest, -⟩
      · exact .inl hdone
      · exact .inr hdone
      · obtain ⟨-, hlt, -⟩ := rest_of_await hnum hm hrest
        omega
    | succ d ih =>
      intro j hj
      rcases hwaits j (hstarted j (by omega)) with hdone | hdone | ⟨child, ops, hrest, hwait⟩
      · exact .inl hdone
      · exact .inr hdone
      · obtain ⟨rfl, hlt, -⟩ := rest_of_await hnum hm hrest
        rw [hreport (j + 1) (by omega) hlt (ih (j + 1) (by omega))] at hwait
        cases hwait
  refine ⟨(hdone params.threads 0 (Nat.zero_add _)).resolve_left fun hzero ↦ ?_,
    fun j _ hj ↦ hdone (params.threads - j) j (by omega)⟩
  exact absurd (hidle 0 hzero).1 (by decide)

/-- The test ends, and ends well exactly if every thread could be created. Every schedule is finite:
it is as long as what it has taken off the programs. Where no thread can go on, `test_mlock` has
returned exactly if no `kthread_run` has failed; if one has, the module is being loaded for ever. -/
theorem mlock_returns_iff (params : MlockParams) (hnum : params.InRange) (created : ℕ → Bool)
    (hrun : (params.boot created).run increment schedule = some m) :
    schedule.length + weight (Finset.range (params.threads + 1)) (fun _ ↦ 1) m.rest =
        weight (Finset.range (params.threads + 1)) (fun _ ↦ 1) (params.program created) ∧
      (m.Stuck increment →
        (m.rest 0 = [] ↔ ∀ j, 1 ≤ j → j ≤ params.threads → created j = true)) := by
  have hm := reached_of_run hnum hrun
  have hboot : params.Reached created (params.boot created) :=
    sound_initial (bracketed_program hnum created)
  refine ⟨hboot.length_run (once_program hnum created) (program_outside created) hrun,
    fun hstuck ↦ ⟨fun hreturned j hone hj ↦ ?_, fun hcreated ↦ ?_⟩⟩
  · have hpassed : .await 1 ∉ m.rest 0 := by simp [hreturned]
    exact created_of_finished hnum hm hone (finished_of_passed hnum hm hpassed hone hj)
  · exact (returned_of_stuck hnum hm hcreated (fun _ ↦ False.elim) fun i ↦ .inr (hstuck i)).1

/-- The second thread cannot be created. -/
def secondFails : ℕ → Bool := fun j ↦ j == 1

theorem mlock_returns_iff_secondFails :
    ∃ m, (twoThreads.boot secondFails).run increment [0, 0, 1, 1, 1, 1, 1, 1, 1, 1] = some m ∧
      m.Stuck increment ∧ m.rest 0 ≠ [] := by
  obtain ⟨m, hrun, hrest⟩ : ∃ m,
      (twoThreads.boot secondFails).run increment [0, 0, 1, 1, 1, 1, 1, 1, 1, 1] = some m ∧
        (m.rest 0, m.rest 1, m.started 2, m.finished 1, m.finished 2) =
          ([.await 1, .work, .work], [.await 2, .finish, .work], false, false, false) :=
    Option.map_eq_some_iff.mp (by decide +kernel)
  simp only [Prod.mk.injEq] at hrest
  obtain ⟨hzero, hfirst, hsecond, hwait, hwait'⟩ := hrest
  have hstuck : m.Stuck increment := by
    intro i
    match i with
    | 0 => simp [step, hzero, enabled, hwait]
    | 1 => simp [step, hfirst, enabled, hwait']
    | 2 => cases hrest : m.rest 2 <;> simp [step, hrest, hsecond]
    | i + 3 =>
      have hsuffix := (reached_of_run twoThreads_inRange hrun).history.suffix (i + 3)
      rw [program_of_gt (show twoThreads.threads < i + 3 by simp [twoThreads, threads])] at hsuffix
      simp [step, List.eq_nil_of_suffix_nil hsuffix]
  have hiff := (mlock_returns_iff twoThreads twoThreads_inRange secondFails hrun).2 hstuck
  refine ⟨m, hrun, hstuck, fun hreturned ↦ ?_⟩
  have hcreated := hiff.mp hreturned 2 (by decide) (by decide)
  exact absurd hcreated (by decide)

/-! ### The code that is gone -/

/-- A thread with only its line in the log left. -/
def LastLine (m : Threads ℕ (BitVec 64)) (i : ℕ) : Prop := 1 ≤ i ∧ m.rest i = [.work]

/-- No thread has come to its end. -/
def AllLeft (params : MlockParams) (m : Threads ℕ (BitVec 64)) : Prop :=
  ∀ j, 1 ≤ j → j ≤ params.threads → m.rest j ≠ []

/-- The last operation of a thread is its line in the log. -/
theorem allLeft_step (hnum : params.InRange) {i : ℕ} {m' : Threads ℕ (BitVec 64)}
    (hm : params.Reached created m) (hleft : params.AllLeft m) (hlast : ¬LastLine m i)
    (hstep : m.step increment i = some m') : params.AllLeft m' := by
  obtain ⟨op, ops, hrest, -, -, rfl⟩ := step_cases hstep
  intro j hone hj
  rcases eq_or_ne j i with rfl | hne
  · rintro hempty
    obtain rfl : ops = [] := by simpa using hempty
    obtain ⟨front, hprogram⟩ := program_reports hnum created hone hj
    have hsuffix := hm.history.suffix j
    rw [hprogram, hrest] at hsuffix
    obtain ⟨before, hbefore⟩ := hsuffix
    have hop : op = .work := by simpa using congrArg List.getLast? hbefore
    exact hlast ⟨hone, by rw [hrest, hop]⟩
  · simpa [hne] using hleft j hone hj

/-- The module is unloaded under its threads. If every thread can be created, there is a schedule
after which `test_mlock` has returned its error, upon which the code of the module is freed, and
every thread has still code of the module to run. -/
theorem mlock_unloaded_under_threads (params : MlockParams) (hnum : params.InRange)
    (created : ℕ → Bool) (hcreated : ∀ j, 1 ≤ j → j ≤ params.threads → created j = true) :
    ∃ schedule m, (params.boot created).run increment schedule = some m ∧ m.rest 0 = [] ∧
      ∀ j, 1 ≤ j → j ≤ params.threads → m.started j = true ∧ m.rest j = [.work] := by
  have hboot : params.Reached created (params.boot created) :=
    sound_initial (bracketed_program hnum created)
  have hleft : params.AllLeft (params.boot created) := by
    intro j hone hj hempty
    obtain ⟨front, hprogram⟩ := program_reports hnum created hone hj
    have hempty : params.program created j = [] := hempty
    simp [hprogram] at hempty
  -- the scheduler leaves everyone alone who has only the line in the log left
  obtain ⟨schedule, m, hrun, hm, hleft, hstuck⟩ := hboot.exists_stuck (once_program hnum created)
    (program_outside created) (fun m i m' ↦ allLeft_step hnum) hleft
  obtain ⟨hreturned, hdone⟩ := returned_of_stuck hnum hm hcreated (fun i hi ↦ hi) hstuck
  refine ⟨schedule, m, hrun, hreturned, fun j hone hj ↦ ?_⟩
  have hrest := ((hdone j hone hj).resolve_right (hleft j hone hj)).2
  refine ⟨?_, hrest⟩
  by_contra hnot
  obtain ⟨front, hprogram⟩ := program_reports hnum created hone hj
  have hwhole := hm.history.unstarted j (Bool.eq_false_of_not_eq_true hnot)
  have hlength := congrArg List.length hwhole
  simp [hrest, hprogram] at hlength

theorem mlock_unloaded_under_threads_default :
    ∃ schedule m, (boot {} fun _ ↦ true).run increment schedule = some m ∧ m.rest 0 = [] ∧
      ∀ j, 1 ≤ j → j ≤ 2 → m.started j = true ∧ m.rest j = [.work] :=
  mlock_unloaded_under_threads {} ⟨by decide, by decide⟩ _ fun _ _ _ ↦ rfl

end MlockParams

end KernelModules.KernelThread
