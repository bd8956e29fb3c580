import Mathlib.Algebra.BigOperators.Group.Finset.Basic
import Mathlib.Algebra.BigOperators.Group.Finset.Piecewise
import Mathlib.Algebra.GroupWithZero.Nat
import Mathlib.Algebra.Order.BigOperators.Group.Finset
import Mathlib.Data.List.Infix
import Mathlib.Logic.Function.Iterate

/-!
# Threads, a semaphore of one permit and a shared counter

Threads run programs without branches: lists of operations on a semaphore, on a shared counter that
is loaded and stored in two operations, and on each other, for a thread may start another one and
wait until it reports that it has finished. A scheduler chooses the thread that goes on; a thread
that cannot take the semaphore or waits for another one does not move (`Threads.step`).

A program is `Bracketed` if it loads and stores the counter once after each `down` and then does
nothing that blocks until its `up`. If all programs are bracketed, then under every schedule at most
one thread is between its `down` and its `up` (`Sound.exclusive`), no store is lost
(`Sound.counter_of_stored`), and a machine that is stuck is stuck at waits only
(`Sound.waits_of_stuck`). Every step takes one operation off a program (`length_run`), so that runs
end.
-/

set_option autoImplicit false
set_option relaxedAutoImplicit false

namespace KernelModules.Foundations

/-- One operation of a thread. -/
inductive ThreadOp (ι : Type*) where
  | down
  | load
  | store
  | up
  /-- Something that neither blocks nor touches the semaphore, the counter or another thread. -/
  | work
  /-- Start a thread; the system may fail to create it. -/
  | start (child : ι) (created : Bool)
  /-- Wait until a thread has reported. -/
  | await (child : ι)
  /-- Report to whoever waits. -/
  | finish
deriving DecidableEq

/-- The threads with what is left of their programs, the value each has loaded, and what they
share. -/
structure Threads (ι α : Type*) where
  permits : ℕ
  counter : α
  started : ι → Bool
  finished : ι → Bool
  rest : ι → List (ThreadOp ι)
  reg : ι → α

namespace Threads

variable {ι α : Type*}

/-- Whether an operation can go on now. -/
def enabled (m : Threads ι α) : ThreadOp ι → Bool
  | .down => 0 < m.permits
  | .await child => m.finished child
  | _ => true

/-! ### Programs with critical sections -/

/-- Where a thread is with respect to its critical section. -/
inductive Phase where
  | outside
  | entered
  | loaded
  | inside
deriving DecidableEq

/-- The phase after an operation, if the operation is allowed in the phase. -/
def Phase.after {ι : Type*} : Phase → ThreadOp ι → Option Phase
  | .outside, .down => some .entered
  | .entered, .load => some .loaded
  | .loaded, .store => some .inside
  | .inside, .work => some .inside
  | .inside, .up => some .outside
  | .outside, .work | .outside, .start _ _ | .outside, .await _ | .outside, .finish =>
    some .outside
  | _, _ => none

/-- The phases around an operation: the four operations of a critical section lead from one to the
next, the others stay outside or inside. -/
theorem Phase.after_cases {phase phase' : Phase} {op : ThreadOp ι}
    (hafter : phase.after op = some phase') :
    (op = .down ∧ phase = .outside ∧ phase' = .entered) ∨
      (op = .load ∧ phase = .entered ∧ phase' = .loaded) ∨
      (op = .store ∧ phase = .loaded ∧ phase' = .inside) ∨
      (op = .up ∧ phase = .inside ∧ phase' = .outside) ∨
      (op ≠ .down ∧ op ≠ .load ∧ op ≠ .store ∧ op ≠ .up ∧ phase' = phase ∧ phase ≠ .loaded) := by
  cases phase <;> cases op <;> simp_all [Phase.after] <;> simp [← hafter]

/-- Every operation is allowed where it stands, and the program ends outside. -/
def Bracketed (phase : Phase) (ops : List (ThreadOp ι)) : Prop :=
  ops.foldlM Phase.after phase = some .outside

theorem bracketed_cons {phase : Phase} {op : ThreadOp ι} {ops : List (ThreadOp ι)} :
    Bracketed phase (op :: ops) ↔
      ∃ phase', phase.after op = some phase' ∧ Bracketed phase' ops := by
  simp only [Bracketed, List.foldlM_cons]
  exact Option.bind_eq_some_iff

theorem Bracketed.append {phase : Phase} {ops ops' : List (ThreadOp ι)}
    (hops : Bracketed phase ops) (hops' : Bracketed .outside ops') :
    Bracketed phase (ops ++ ops') := by
  rw [Bracketed, List.foldlM_append, hops]
  exact hops'

/-- Work inside a critical section stays inside. -/
theorem bracketed_work_append {ops ops' : List (ThreadOp ι)} (hwork : ∀ op ∈ ops, op = .work)
    (hops' : Bracketed .inside ops') : Bracketed .inside (ops ++ ops') := by
  induction ops with
  | nil => exact hops'
  | cons op ops ih =>
    rw [List.forall_mem_cons] at hwork
    obtain ⟨rfl, hwork⟩ := hwork
    exact bracketed_cons.mpr ⟨.inside, rfl, ih hwork⟩

/-- Whether the next operation on the semaphore is its release. -/
def inCritical : List (ThreadOp ι) → Bool
  | .up :: _ => true
  | .down :: _ => false
  | _ :: ops => inCritical ops
  | [] => false

theorem Bracketed.inCritical_iff {phase : Phase} {ops : List (ThreadOp ι)}
    (hops : Bracketed phase ops) : inCritical ops = true ↔ phase ≠ .outside := by
  induction ops generalizing phase with
  | nil => simpa [inCritical, Bracketed] using hops
  | cons op ops ih =>
    obtain ⟨phase', hafter, hops'⟩ := bracketed_cons.mp hops
    have hrest := ih hops'
    cases phase <;> cases op <;> simp_all [Phase.after, inCritical] <;> simp [← hafter]

/-- Nothing inside a critical section blocks. -/
theorem Bracketed.enabled {phase : Phase} {op : ThreadOp ι} {ops : List (ThreadOp ι)}
    (hops : Bracketed phase (op :: ops)) (hphase : phase ≠ .outside) (m : Threads ι α) :
    m.enabled op = true := by
  obtain ⟨phase', hafter, -⟩ := bracketed_cons.mp hops
  cases phase <;> cases op <;> simp_all [Phase.after, Threads.enabled]

/-! ### Steps -/

variable [DecidableEq ι]

/-- What an operation does to the shared state and to the value its thread has loaded. -/
def perform (next : α → α) (m : Threads ι α) (i : ι) : ThreadOp ι → Threads ι α
  | .down => { m with permits := m.permits - 1 }
  | .load => { m with reg := Function.update m.reg i m.counter }
  | .store => { m with counter := next (m.reg i) }
  | .up => { m with permits := m.permits + 1 }
  | .start child created =>
    { m with started := Function.update m.started child (m.started child || created) }
  | .finish => { m with finished := Function.update m.finished i true }
  | .work | .await _ => m

/-- Thread `i` goes on by one operation. -/
def step (next : α → α) (m : Threads ι α) (i : ι) : Option (Threads ι α) :=
  match m.rest i with
  | [] => none
  | op :: ops =>
    if m.started i && m.enabled op then
      some { m.perform next i op with rest := Function.update m.rest i ops }
    else none

/-- The threads go on in the order of a schedule. -/
def run (next : α → α) (m : Threads ι α) (schedule : List ι) : Option (Threads ι α) :=
  schedule.foldlM (step next) m

/-- No thread can go on. -/
def Stuck (next : α → α) (m : Threads ι α) : Prop := ∀ i, m.step next i = none

variable {next : α → α} {m m' : Threads ι α} {i : ι}

theorem step_cases (hstep : m.step next i = some m') :
    ∃ op ops, m.rest i = op :: ops ∧ m.started i = true ∧ m.enabled op = true ∧
      m' = { m.perform next i op with rest := Function.update m.rest i ops } := by
  unfold step at hstep
  split at hstep
  · cases hstep
  · rename_i op ops hrest
    split at hstep
    · rename_i hgo
      rw [Bool.and_eq_true] at hgo
      exact ⟨op, ops, hrest, hgo.1, hgo.2, (Option.some.inj hstep).symm⟩
    · cases hstep

theorem step_of_enabled {op : ThreadOp ι} {ops : List (ThreadOp ι)} (hrest : m.rest i = op :: ops)
    (hstarted : m.started i = true) (henabled : m.enabled op = true) :
    m.step next i =
      some { m.perform next i op with rest := Function.update m.rest i ops } := by
  simp [step, hrest, hstarted, henabled]

theorem run_cons (m : Threads ι α) (i : ι) (schedule : List ι) :
    m.run next (i :: schedule) = (m.step next i).bind (run next · schedule) := rfl

/-- What every step preserves, every run preserves. -/
theorem run_invariant {invariant : Threads ι α → Prop}
    (hinvariant : ∀ m i m', invariant m → m.step next i = some m' → invariant m')
    {schedule : List ι} (hm : invariant m) (hrun : m.run next schedule = some m') :
    invariant m' := by
  induction schedule generalizing m with
  | nil => exact Option.some.inj hrun ▸ hm
  | cons i schedule ih =>
    rw [run_cons] at hrun
    obtain ⟨middle, hstep, hrun⟩ := Option.bind_eq_some_iff.mp hrun
    exact ih (hinvariant m i middle hm hstep) hrun

/-- What an operation weighs, summed over what is left of all programs. -/
def weight (threads : Finset ι) (weigh : ThreadOp ι → ℕ) (rest : ι → List (ThreadOp ι)) : ℕ :=
  ∑ i ∈ threads, ((rest i).map weigh).sum

theorem weight_update (weigh : ThreadOp ι → ℕ) {threads : Finset ι}
    {rest : ι → List (ThreadOp ι)} {op : ThreadOp ι} {ops : List (ThreadOp ι)}
    (hi : i ∈ threads) (hrest : rest i = op :: ops) :
    weigh op + weight threads weigh (Function.update rest i ops) = weight threads weigh rest := by
  unfold weight
  rw [← Finset.add_sum_erase _ _ hi, ← Finset.add_sum_erase threads _ hi, hrest, List.map_cons,
    List.sum_cons, Function.update_self, Nat.add_assoc]
  congr 2
  refine Finset.sum_congr rfl fun j hj ↦ ?_
  rw [Function.update_of_ne (Finset.ne_of_mem_erase hj)]

/-! ### One holder -/

/-- Every thread is in the phase its remaining program says, the threads that are not outside are
the holder of the permit, and what a thread has loaded is what the counter still is. -/
structure Consistent (m : Threads ι α) (phase : ι → Phase) (holder : Option ι) : Prop where
  bracketed : ∀ i, Bracketed (phase i) (m.rest i)
  held : ∀ i, phase i ≠ .outside ↔ holder = some i
  permits : m.permits = if holder = none then 1 else 0
  running : ∀ i, holder = some i → m.started i = true
  loaded : ∀ i, phase i = .loaded → m.reg i = m.counter

/-- Outside its critical sections a thread touches neither the permits nor the counter. -/
theorem perform_other (m : Threads ι α) (next : α → α) (i : ι) {op : ThreadOp ι}
    (hdown : op ≠ .down) (hload : op ≠ .load) (hstore : op ≠ .store) (hup : op ≠ .up) :
    (m.perform next i op).permits = m.permits ∧ (m.perform next i op).counter = m.counter ∧
      (m.perform next i op).reg = m.reg := by
  cases op <;> simp_all [perform]

theorem started_perform (m : Threads ι α) (i : ι) (op : ThreadOp ι) {j : ι}
    (hj : m.started j = true) : (m.perform next i op).started j = true := by
  cases op with
  | start child created =>
    rcases eq_or_ne j child with rfl | hne
    · simp [perform, hj]
    · simp [perform, hne, hj]
  | _ => exact hj

theorem Consistent.step {phase : ι → Phase} {holder : Option ι} (hm : m.Consistent phase holder)
    (hstep : m.step next i = some m') :
    ∃ phase' holder', m'.Consistent phase' holder' := by
  obtain ⟨op, ops, hrest, hstarted, henabled, rfl⟩ := step_cases hstep
  have hprogram := hm.bracketed i
  rw [hrest, bracketed_cons] at hprogram
  obtain ⟨phase', hafter, hops⟩ := hprogram
  have hbracketed : ∀ j, Bracketed (Function.update phase i phase' j)
      (Function.update m.rest i ops j) := by
    intro j
    rcases eq_or_ne j i with rfl | hj
    · simpa using hops
    · simpa [hj] using hm.bracketed j
  obtain ⟨-, hheld, hpermits, hrunning, hloaded⟩ := hm
  have hstarted' : ∀ j, m.started j = true → (m.perform next i op).started j = true :=
    fun j ↦ started_perform m i op
  obtain ⟨rfl, hphase, rfl⟩ | ⟨rfl, hphase, rfl⟩ | ⟨rfl, hphase, rfl⟩ | ⟨rfl, hphase, rfl⟩ |
    ⟨hdown, hload, hstore, hup, rfl, hphase⟩ := Phase.after_cases hafter
  · -- the permit is there, so there was no holder
    have hnone : holder = none := by grind [Threads.enabled]
    exact ⟨_, some i, hbracketed, by grind, by simp [perform, hpermits, hnone], by grind,
      by grind [perform, Function.update_apply]⟩
  · refine ⟨_, holder, hbracketed, by grind, hpermits, by grind, fun j hj ↦ ?_⟩
    rcases eq_or_ne j i with rfl | hne
    · simp [perform]
    · rw [Function.update_of_ne hne] at hj
      simpa [perform, hne] using hloaded j hj
  · -- the others are outside, so that what nobody else has loaded gets out of date
    exact ⟨_, holder, hbracketed, by grind, hpermits, by grind,
      by grind [perform, Function.update_apply]⟩
  · have hholder : holder = some i := (hheld i).mp (by rw [hphase]; decide)
    exact ⟨_, none, hbracketed, by grind, by simp [perform, hpermits, hholder], by grind,
      by grind [perform, Function.update_apply]⟩
  · obtain ⟨hsame, hcounter, hreg⟩ := perform_other m next i hdown hload hstore hup
    rw [Function.update_eq_self] at hbracketed
    exact ⟨phase, holder, hbracketed, hheld, hsame.trans hpermits,
      fun j hj ↦ hstarted' j (hrunning j hj), fun j hj ↦ by rw [hreg, hcounter, hloaded j hj]⟩

/-! ### What has been done -/

/-- What is left of a program and no longer has an operation is part of what follows it. -/
theorem suffix_of_notMem {β : Type*} {front back rest : List β} {op : β}
    (hrest : rest <:+ front ++ op :: back) (hop : op ∉ rest) : rest <:+ back := by
  rcases List.suffix_or_suffix_of_suffix hrest (List.suffix_append front (op :: back)) with h | h
  · rcases List.suffix_cons_iff.mp h with rfl | h
    · exact absurd List.mem_cons_self hop
    · exact h
  · exact absurd (h.subset List.mem_cons_self) hop

/-- What is left of each program, with what the operations that are gone have brought about. -/
structure History (program : ι → List (ThreadOp ι)) (root : ι → Bool) (m : Threads ι α) :
    Prop where
  suffix : ∀ i, m.rest i <:+ program i
  roots : ∀ i, root i = true → m.started i = true
  unstarted : ∀ i, m.started i = false → m.rest i = program i
  begun : ∀ i, m.started i = true → root i = true ∨ ∃ parent, .start i true ∈ program parent
  launched : ∀ i child, .start child true ∈ program i →
    .start child true ∈ m.rest i ∨ m.started child = true
  awaited : ∀ i child, .await child ∈ program i →
    .await child ∈ m.rest i ∨ m.finished child = true
  reported : ∀ i, .finish ∈ program i → .finish ∈ m.rest i ∨ m.finished i = true
  silent : ∀ i, m.finished i = true → .finish ∈ program i ∧ .finish ∉ m.rest i

theorem finished_perform (m : Threads ι α) (i : ι) (op : ThreadOp ι) {j : ι}
    (hj : m.finished j = true) : (m.perform next i op).finished j = true := by
  cases op with
  | finish =>
    rcases eq_or_ne j i with rfl | hne
    · simp [perform]
    · simp [perform, hne, hj]
  | _ => exact hj

theorem started_of_perform {op : ThreadOp ι} {j : ι}
    (hj : (m.perform next i op).started j = true) : m.started j = true ∨ op = .start j true := by
  cases op with
  | start child created =>
    rcases eq_or_ne j child with rfl | hne
    · simpa [perform] using hj
    · simp only [perform, Function.update_of_ne hne] at hj
      exact .inl hj
  | _ => exact .inl hj

theorem finished_of_perform {op : ThreadOp ι} {j : ι}
    (hj : (m.perform next i op).finished j = true) :
    m.finished j = true ∨ op = .finish ∧ j = i := by
  cases op with
  | finish =>
    rcases eq_or_ne j i with rfl | hne
    · exact .inr ⟨rfl, rfl⟩
    · simp only [perform, Function.update_of_ne hne] at hj
      exact .inl hj
  | _ => exact .inl hj

/-- An operation of the program is still to come, or it is the one that is taken. -/
theorem mem_rest_update {rest : ι → List (ThreadOp ι)} {op wanted : ThreadOp ι}
    {ops : List (ThreadOp ι)} (hrest : rest i = op :: ops) {j : ι} (hwanted : wanted ∈ rest j) :
    wanted ∈ Function.update rest i ops j ∨ (j = i ∧ wanted = op) := by
  rcases eq_or_ne j i with rfl | hne
  · rw [hrest, List.mem_cons] at hwanted
    rw [Function.update_self]
    tauto
  · rw [Function.update_of_ne hne]
    exact .inl hwanted

theorem History.step {program : ι → List (ThreadOp ι)} {root : ι → Bool}
    (honce : ∀ i, (program i).count .finish ≤ 1) (hm : m.History program root)
    (hstep : m.step next i = some m') : m'.History program root := by
  obtain ⟨op, ops, hrest, hstarted, henabled, rfl⟩ := step_cases hstep
  have hsuffix : ∀ j, Function.update m.rest i ops j <:+ m.rest j := by
    intro j
    rcases eq_or_ne j i with rfl | hne
    · rw [Function.update_self, hrest]
      exact List.suffix_cons op ops
    · rw [Function.update_of_ne hne]
  refine ⟨fun j ↦ (hsuffix j).trans (hm.suffix j),
    fun j hj ↦ started_perform m i op (hm.roots j hj), ?_, ?_, ?_, ?_, ?_, ?_⟩
  · intro j hj
    have hj' : m.started j = false := by
      rw [Bool.eq_false_iff] at hj ⊢
      exact fun h ↦ hj (started_perform m i op h)
    have hne : j ≠ i := by
      rintro rfl
      rw [hstarted] at hj'
      cases hj'
    simpa [hne] using hm.unstarted j hj'
  · intro j hj
    rcases started_of_perform hj with hj | rfl
    · exact hm.begun j hj
    · exact .inr ⟨i, (hm.suffix i).subset (by rw [hrest]; exact List.mem_cons_self)⟩
  · intro j child hchild
    rcases hm.launched j child hchild with hleft | hgone
    · refine (mem_rest_update hrest hleft).imp_right ?_
      rintro ⟨-, rfl⟩
      simp [perform]
    · exact .inr (started_perform m i op hgone)
  · intro j child hchild
    rcases hm.awaited j child hchild with hleft | hgone
    · refine (mem_rest_update hrest hleft).imp_right ?_
      rintro ⟨-, rfl⟩
      exact henabled
    · exact .inr (finished_perform m i op hgone)
  · intro j hfinish
    rcases hm.reported j hfinish with hleft | hgone
    · refine (mem_rest_update hrest hleft).imp_right ?_
      rintro ⟨rfl, rfl⟩
      simp [perform]
    · exact .inr (finished_perform m i op hgone)
  · intro j hj
    rcases finished_of_perform hj with hj | ⟨rfl, rfl⟩
    · obtain ⟨hmem, hnot⟩ := hm.silent j hj
      exact ⟨hmem, fun h ↦ hnot ((hsuffix j).subset h)⟩
    · -- the report is the only one of its program
      have hleft := hm.suffix j
      rw [hrest] at hleft
      refine ⟨hleft.subset List.mem_cons_self, ?_⟩
      have hcount := (hleft.sublist.count_le .finish).trans (honce j)
      rw [List.count_cons_self] at hcount
      have hzero : ops.count .finish = 0 := by omega
      simpa using List.count_eq_zero.mp hzero

omit [DecidableEq ι] in
/-- Only threads with a program have something left of it. -/
theorem History.mem_threads {threads : Finset ι} {program : ι → List (ThreadOp ι)} {root : ι → Bool}
    {op : ThreadOp ι} {ops : List (ThreadOp ι)} (hm : m.History program root)
    (houtside : ∀ i, i ∉ threads → program i = []) (hrest : m.rest i = op :: ops) :
    i ∈ threads := by
  by_contra hnot
  have hempty := hm.suffix i
  rw [houtside i hnot, hrest] at hempty
  simpa using hempty.length_le

/-! ### Soundness of every run -/

/-- How many stores an operation is. -/
def storesOf : ThreadOp ι → ℕ
  | .store => 1
  | _ => 0

/-- The start: all programs are whole, the roots are running and the permit is free. -/
def initial (program : ι → List (ThreadOp ι)) (root : ι → Bool) (first : α) : Threads ι α where
  permits := 1
  counter := first
  started := root
  finished := fun _ ↦ false
  rest := program
  reg := fun _ ↦ first

/-- What holds of every state that is reached from the start. -/
structure Sound (threads : Finset ι) (program : ι → List (ThreadOp ι)) (root : ι → Bool)
    (next : α → α) (first : α) (m : Threads ι α) : Prop where
  consistent : ∃ phase holder, m.Consistent phase holder
  history : m.History program root
  counted : ∃ k, m.counter = next^[k] first ∧
    k + weight threads storesOf m.rest = weight threads storesOf program

section

variable {threads : Finset ι} {program : ι → List (ThreadOp ι)} {root : ι → Bool} {first : α}

omit [DecidableEq ι] in
theorem sound_initial (hbracketed : ∀ i, Bracketed .outside (program i)) :
    (initial program root first).Sound threads program root next first := by
  refine ⟨⟨fun _ ↦ .outside, none, hbracketed, by simp, rfl, by simp, by simp⟩, ?_,
    0, rfl, Nat.zero_add _⟩
  exact ⟨fun i ↦ List.suffix_refl _, fun _ ↦ id, fun _ _ ↦ rfl, fun _ ↦ .inl, fun _ _ ↦ .inl,
    fun _ _ ↦ .inl, fun _ ↦ .inl, fun _ hi ↦ by cases hi⟩

/-- Assumes: no program reports more than once, and only the given threads have programs. -/
theorem Sound.step (honce : ∀ i, (program i).count .finish ≤ 1)
    (houtside : ∀ i, i ∉ threads → program i = [])
    (hm : m.Sound threads program root next first) (hstep : m.step next i = some m') :
    m'.Sound threads program root next first := by
  obtain ⟨⟨phase, holder, hconsistent⟩, hhistory, k, hcounter, hcount⟩ := hm
  refine ⟨hconsistent.step hstep, hhistory.step honce hstep, ?_⟩
  obtain ⟨op, ops, hrest, hstarted, henabled, rfl⟩ := step_cases hstep
  have hi := hhistory.mem_threads houtside hrest
  have hweight := weight_update storesOf hi hrest
  by_cases hstore : op = .store
  · subst hstore
    -- the value that is stored comes from the counter as it is now
    have hprogram := hconsistent.bracketed i
    rw [hrest, bracketed_cons] at hprogram
    obtain ⟨phase', hafter, -⟩ := hprogram
    have hloaded : phase i = .loaded := by
      rcases Phase.after_cases hafter with h | h | h | h | h <;> simp_all
    refine ⟨k + 1, ?_, ?_⟩
    · rw [Function.iterate_succ_apply', ← hcounter, ← hconsistent.loaded i hloaded]
      rfl
    · rw [← hcount, ← hweight, Nat.add_assoc]
      rfl
  · refine ⟨k, ?_, ?_⟩
    · rw [← hcounter]
      cases op <;> first | rfl | exact absurd rfl hstore
    · have hzero : storesOf op = 0 := by cases op <;> first | rfl | exact absurd rfl hstore
      rw [← hcount, ← hweight, hzero, Nat.zero_add]

theorem sound_run (hbracketed : ∀ i, Bracketed .outside (program i))
    (honce : ∀ i, (program i).count .finish ≤ 1) (houtside : ∀ i, i ∉ threads → program i = [])
    {schedule : List ι} (hrun : (initial program root first).run next schedule = some m) :
    m.Sound threads program root next first :=
  run_invariant (fun _ _ _ ↦ Sound.step honce houtside) (sound_initial hbracketed) hrun

omit [DecidableEq ι] in
/-- At most one thread is in its critical section. -/
theorem Sound.exclusive (hm : m.Sound threads program root next first) {j : ι}
    (hi : inCritical (m.rest i) = true) (hj : inCritical (m.rest j) = true) : i = j := by
  obtain ⟨⟨phase, holder, hconsistent⟩, -, -⟩ := hm
  rw [(hconsistent.bracketed i).inCritical_iff, hconsistent.held] at hi
  rw [(hconsistent.bracketed j).inCritical_iff, hconsistent.held] at hj
  exact Option.some.inj (hi.symm.trans hj)

omit [DecidableEq ι] in
/-- Once all stores are done, the counter has been advanced by each of them. -/
theorem Sound.counter_of_stored (hm : m.Sound threads program root next first)
    (hstored : ∀ i ∈ threads, .store ∉ m.rest i) :
    m.counter = next^[weight threads storesOf program] first := by
  obtain ⟨-, -, k, hcounter, hcount⟩ := hm
  have hzero : weight threads storesOf m.rest = 0 := by
    refine Finset.sum_eq_zero fun i hi ↦ List.sum_eq_zero ?_
    intro value hvalue
    obtain ⟨op, hop, rfl⟩ := List.mem_map.mp hvalue
    cases op with
    | store => exact absurd hop (hstored i hi)
    | _ => rfl
  rw [hcounter, ← hcount, hzero, Nat.add_zero]

/-- Only waits block. Where nobody can go on but threads that are outside their critical sections
and left alone, every running thread has come to its end, is left alone, or waits for a thread that
has not reported. -/
theorem Sound.waits_of_stuck (hm : m.Sound threads program root next first) {idle : ι → Prop}
    (hidle : ∀ i, idle i → inCritical (m.rest i) = false)
    (hstuck : ∀ i, idle i ∨ m.step next i = none) (hstarted : m.started i = true) :
    idle i ∨ m.rest i = [] ∨
      ∃ child ops, m.rest i = .await child :: ops ∧ m.finished child = false := by
  obtain ⟨⟨phase, holder, hconsistent⟩, -, -⟩ := hm
  have hblocked : ∀ j op ops, m.started j = true → m.rest j = op :: ops → ¬idle j →
      m.enabled op = false := by
    intro j op ops hj hrest hnot
    rw [Bool.eq_false_iff]
    intro henabled
    have hnone := (hstuck j).resolve_left hnot
    rw [step_of_enabled hrest hj henabled] at hnone
    cases hnone
  -- a holder could go on
  have hpermits : m.permits = 1 := by
    rw [hconsistent.permits, if_pos]
    by_contra hholder
    obtain ⟨j, rfl⟩ := Option.ne_none_iff_exists'.mp hholder
    have hphase := (hconsistent.held j).mpr rfl
    have hcritical := (hconsistent.bracketed j).inCritical_iff.mpr hphase
    have hnot : ¬idle j := fun hj ↦ by simp [hidle j hj] at hcritical
    cases hrest : m.rest j with
    | nil => simp [hrest, inCritical] at hcritical
    | cons op ops =>
      have hprogram := hconsistent.bracketed j
      rw [hrest] at hprogram
      have hop := hblocked j op ops (hconsistent.running j rfl) hrest hnot
      rw [hprogram.enabled hphase m] at hop
      cases hop
  by_cases hnot : idle i
  · exact .inl hnot
  · refine .inr ?_
    cases hrest : m.rest i with
    | nil => exact .inl rfl
    | cons op ops =>
      have hop := hblocked i op ops hstarted hrest hnot
      cases op with
      | down => simp [enabled, hpermits] at hop
      | await child => exact .inr ⟨child, ops, rfl, hop⟩
      | _ => cases hop

/-- Every step takes one operation off. -/
theorem Sound.length_step (houtside : ∀ i, i ∉ threads → program i = [])
    (hm : m.Sound threads program root next first) (hstep : m.step next i = some m') :
    1 + weight threads (fun _ ↦ 1) m'.rest = weight threads (fun _ ↦ 1) m.rest := by
  obtain ⟨op, ops, hrest, -, -, rfl⟩ := step_cases hstep
  exact weight_update (fun _ ↦ 1) (hm.history.mem_threads houtside hrest) hrest

/-- No schedule is longer than what is left of the programs. -/
theorem Sound.length_run (honce : ∀ i, (program i).count .finish ≤ 1)
    (houtside : ∀ i, i ∉ threads → program i = []) {schedule : List ι}
    (hm : m.Sound threads program root next first) (hrun : m.run next schedule = some m') :
    schedule.length + weight threads (fun _ ↦ 1) m'.rest = weight threads (fun _ ↦ 1) m.rest := by
  induction schedule generalizing m with
  | nil =>
    rw [← Option.some.inj hrun]
    exact Nat.zero_add _
  | cons i schedule ih =>
    rw [run_cons] at hrun
    obtain ⟨middle, hstep, hrun⟩ := Option.bind_eq_some_iff.mp hrun
    have hlength := hm.length_step houtside hstep
    have hrest := ih (hm.step honce houtside hstep) hrun
    rw [List.length_cons]
    omega

/-- A scheduler that leaves threads alone as soon as they are `idle` comes to a state in which no
other thread can go on, and keeps what the steps of the other threads keep. -/
theorem Sound.exists_stuck (honce : ∀ i, (program i).count .finish ≤ 1)
    (houtside : ∀ i, i ∉ threads → program i = []) {idle : Threads ι α → ι → Prop}
    {keep : Threads ι α → Prop}
    (hkeep : ∀ m i m', m.Sound threads program root next first → keep m → ¬idle m i →
      m.step next i = some m' → keep m')
    (hm : m.Sound threads program root next first) (hm' : keep m) :
    ∃ schedule last, m.run next schedule = some last ∧
      last.Sound threads program root next first ∧ keep last ∧
        ∀ i, idle last i ∨ last.step next i = none := by
  induction hleft : weight threads (fun _ ↦ 1) m.rest generalizing m with
  | zero =>
    refine ⟨[], m, rfl, hm, hm', fun i ↦ .inr (Option.eq_none_iff_forall_ne_some.mpr ?_)⟩
    intro m' hstep
    have hlength := hm.length_step houtside hstep
    omega
  | succ left ih =>
    by_cases hstuck : ∀ i, idle m i ∨ m.step next i = none
    · exact ⟨[], m, rfl, hm, hm', hstuck⟩
    · push Not at hstuck
      obtain ⟨i, hidle, hgo⟩ := hstuck
      obtain ⟨middle, hstep⟩ := Option.ne_none_iff_exists'.mp hgo
      have hlength := hm.length_step houtside hstep
      obtain ⟨schedule, last, hrun, hlast⟩ := ih (hm.step honce houtside hstep)
        (hkeep m i middle hm hm' hidle hstep) (by omega)
      exact ⟨i :: schedule, last, by rw [run_cons, hstep]; exact hrun, hlast⟩

end

end Threads

end KernelModules.Foundations
