import KernelModules.L2tp.TunnelLifetimes

/-!
# The end of a namespace

`l2tp_exit_net` deletes every tunnel of the list, which closes its sessions and queues the work that
releases its socket, and the work queue runs that work some time later, in whatever order. The
sockets are those the kernel has made (`fd < 0`): one that a process has made is only shut down by
the work, and its tunnel stays until the process closes it. As long as no socket has outlived the
reference of its creation, which the destroy hooks see to, nothing is left: every tunnel has been
freed once, every session has been freed, and the list is empty (`namespace_exit_releases`).
-/

set_option autoImplicit false
set_option relaxedAutoImplicit false

namespace KernelModules.L2tp.Lifetimes

open Foundations

variable {n : ℕ}

/-! ### The code -/

/-- `l2tp_exit_net`. A tunnel that leaves the list in the loop keeps its pointer to the next. -/
def l2tpExitNet (env : Env n) (st : Lifetimes n) : Except Fault (Lifetimes n) :=
  st.net.tunnelList.foldlM (fun st t ↦ st.l2tpTunnelDelete env (st.destructor env) t) st

/-- Work that the work queue runs: the tunnel it is for, what it finds around it, and whether the
kernel calls the destroy hook. -/
structure DelWork (n : ℕ) where
  env : Env n
  hooked : Bool
  t : ℕ

/-- The work queue runs its work, as `destroy_workqueue` in `l2tp_exit` makes it do at the latest.
What is not pending is not run. -/
def runWork (hash : SessionHash) (works : List (DelWork n)) (st : Lifetimes n) :
    Except Fault (Lifetimes n) :=
  works.foldlM (fun st work ↦ st.step hash (.delWork work.env work.hooked work.t)) st

/-- Nothing is left of the tunnels and sessions that there have been. -/
structure Released (first st : Lifetimes n) : Prop where
  length : st.net.tunnels.length = first.net.tunnels.length
  sessions : st.net.sessions.length = first.net.sessions.length
  tunnelList : st.net.tunnelList = []
  freed : ∀ t < st.net.tunnels.length, st.frees t = 1
  freedSession : ∀ i < st.net.sessions.length, .sessionFree i ∈ st.log

/-! ### The loops -/

section

variable {hash : SessionHash} {st st' : Lifetimes n} {live : Finset ℕ}

/-- A tunnel keeps a socket that has not lost the reference of its creation. -/
theorem Owned.sockOf_later (howned : Owned st) (hlater : Later st st') :
    st'.sockOf = st.sockOf := by
  funext t
  rcases hlater.sock t with hsame | ⟨hnone, hsocket⟩
  · exact hsame
  · rw [hnone]
    cases hsk : st.sockOf t with
    | none => rfl
    | some sk => exact absurd ((hsocket sk hsk).symm.trans (howned.opened t sk hsk)) (by simp)

/-- The loop over the tunnels: they have lost their sessions and have work pending, and keep their
sockets. -/
theorem Accounted.deleteAll (haccounted : Accounted hash st live ∅ 0 0) (howned : Owned st)
    (env : Env n) (list : List ℕ) (hlisted : ∀ t ∈ list, (st.sockOf t).isSome = true) :
    Yields (list.foldlM (fun st t ↦ st.l2tpTunnelDelete env (st.destructor env) t) st) fun st' ↦
      ∃ left ⊆ live, Accounted hash st' left ∅ 0 0 ∧ Owned st' ∧ st'.sockOf = st.sockOf ∧
        st'.net.tunnels.length = st.net.tunnels.length ∧
        st'.net.tables.sessions = st.net.tables.sessions ∧
        (∀ t, t ∈ list ∨ st.delWork t = true → st'.delWork t = true) ∧
        ∀ t ∈ list, refs st'.owner left t = 0 := by
  induction list generalizing st live with
  | nil =>
    refine yields_ok ⟨live, Finset.Subset.refl live, haccounted, howned, rfl, rfl, rfl, ?_, ?_⟩
    · simp
    · simp
  | cons t list ih =>
    obtain ⟨sk, hsk⟩ := Option.isSome_iff_exists.mp (hlisted t List.mem_cons_self)
    rw [List.foldlM_cons]
    refine (haccounted.tunnelDelete hsk env st.net.tunnels.length).bind ?_
    rintro middle ⟨rest, hrest, hmiddle, hlater, hclosed⟩
    have hqueued := howned.queue hsk
    have hsocks : middle.sockOf = st.sockOf := hqueued.sockOf_later hlater
    refine (ih hmiddle (hqueued.later hlater) ?_).imp ?_
    · rw [hsocks]
      exact fun t' ht' ↦ hlisted t' (List.mem_cons_of_mem t ht')
    · rintro last
        ⟨left, hleft, hlast, hownedLast, hsocksLast, hlength, hsessions, hwork, hclosedLast⟩
      refine ⟨left, hleft.trans hrest, hlast, hownedLast, hsocksLast.trans hsocks,
        hlength.trans hlater.length, hsessions.trans hlater.sessions, fun t' ht' ↦ ?_,
        fun t' ht' ↦ ?_⟩
      · have hdelWork : middle.delWork = Function.update st.delWork t true := hlater.delWork
        apply hwork
        rw [hdelWork]
        by_cases heq : t' = t
        · rw [heq, Function.update_self]
          exact Or.inr rfl
        · rw [Function.update_of_ne heq]
          rwa [List.mem_cons, or_iff_right heq] at ht'
      · rcases List.mem_cons.mp ht' with rfl | hmem
        · rw [owner_congr hsessions, refs_eq_zero_iff]
          intro i hi
          exact refs_eq_zero_iff.mp hclosed i (hleft hi)
        · exact hclosedLast t' hmem

/-- No session is left, and every tunnel that has a socket has work pending. -/
structure Ending (hash : SessionHash) (first st : Lifetimes n) : Prop where
  accounted : Accounted hash st ∅ ∅ 0 0
  owned : Owned st
  pending : ∀ t, (st.sockOf t).isSome = true → st.delWork t = true
  length : st.net.tunnels.length = first.net.tunnels.length
  sessions : st.net.tables.sessions = first.net.tables.sessions

/-- Pending work takes the socket of its tunnel away, and leaves the other tunnels alone. -/
theorem Ending.delWork {first : Lifetimes n} (hending : Ending hash first st) {t : ℕ}
    (hpending : st.delWork t = true) (env : Env n) (hooked : Bool) :
    Yields (st.step hash (.delWork env hooked t)) fun st' ↦
      Ending hash first st' ∧ st'.delWork = Function.update st.delWork t false := by
  obtain ⟨sk, hsk⟩ := Option.isSome_iff_exists.mp (hending.owned.pending t hpending)
  rw [Lifetimes.step, if_pos hpending]
  refine (hending.accounted.delWork hpending hsk env st.net.tunnels.length hooked).imp ?_
  rintro st' ⟨left, hleft, haccounted, hlater, -⟩
  obtain rfl := Finset.subset_empty.mp hleft
  have hinj : ∀ t', st.sockOf t' = some sk → t' = t := fun t' hsk' ↦
    hending.accounted.sockOf_inj hsk hsk'
  have hnone : st'.sockOf t = none := haccounted.sockOf_eq_none hlater hsk rfl
  have hdelWork : st'.delWork = Function.update st.delWork t false := hlater.delWork
  refine ⟨⟨haccounted, haccounted.owned_delWork hending.owned hsk hinj hlater rfl, ?_, ?_, ?_⟩,
    hdelWork⟩
  · intro t' hsome
    have hne : t' ≠ t := by
      rintro rfl
      rw [hnone] at hsome
      exact absurd hsome (by simp)
    rw [hdelWork, Function.update_of_ne hne]
    apply hending.pending
    rcases hlater.sock t' with hsame | ⟨hlost, -⟩
    · rwa [hsame] at hsome
    · rw [hlost] at hsome
      exact absurd hsome (by simp)
  · exact hlater.length.trans hending.length
  · exact hlater.sessions.trans hending.sessions

/-- The work queue: nothing is pending any more that has been run. -/
theorem Ending.runWork {first : Lifetimes n} (hending : Ending hash first st)
    (works : List (DelWork n)) :
    Yields (runWork hash works st) fun st' ↦ Ending hash first st' ∧
      ∀ t, st'.delWork t = true → st.delWork t = true ∧ t ∉ works.map DelWork.t := by
  unfold Lifetimes.runWork
  induction works generalizing st with
  | nil => exact yields_ok ⟨hending, fun t ht ↦ ⟨ht, by simp⟩⟩
  | cons work works ih =>
    rw [List.foldlM_cons]
    have hstep : Yields (st.step hash (.delWork work.env work.hooked work.t)) fun st' ↦
        Ending hash first st' ∧ st'.delWork = Function.update st.delWork work.t false := by
      by_cases hpending : st.delWork work.t = true
      · exact hending.delWork hpending work.env work.hooked
      · rw [Lifetimes.step, if_neg hpending]
        refine yields_ok ⟨hending, ?_⟩
        rw [← Bool.eq_false_of_not_eq_true hpending, Function.update_eq_self]
    refine hstep.bind ?_
    rintro middle ⟨hmiddle, hdelWork⟩
    refine (ih hmiddle).imp ?_
    rintro last ⟨hlast, hrest⟩
    refine ⟨hlast, fun t ht ↦ ?_⟩
    obtain ⟨hbefore, hnot⟩ := hrest t ht
    rw [hdelWork] at hbefore
    have hne : t ≠ work.t := by
      rintro rfl
      rw [Function.update_self] at hbefore
      exact absurd hbefore (by simp)
    rw [Function.update_of_ne hne] at hbefore
    refine ⟨hbefore, ?_⟩
    rw [List.map_cons, List.mem_cons, not_or]
    exact ⟨hne, hnot⟩

/-- When no work is pending, nothing is left. -/
theorem Ending.released {first : Lifetimes n} (hending : Ending hash first st)
    (hidle : ∀ t, st.delWork t = false) : Released first st := by
  have hnone (t : ℕ) : st.sockOf t = none := by
    by_contra hsome
    have hpending := hending.pending t (Option.isSome_iff_ne_none.mpr hsome)
    rw [hidle t] at hpending
    exact absurd hpending (by simp)
  refine ⟨hending.length, ?_, ?_, ?_, ?_⟩
  · have hlength := congrArg List.length hending.sessions
    simpa [L2tpNet.tables] using hlength
  · rw [List.eq_nil_iff_forall_not_mem]
    intro t hlisted
    have hsome := (hending.accounted.listed t).mp hlisted
    rw [hnone t] at hsome
    exact absurd hsome (by simp)
  · intro t ht
    exact hending.accounted.frees_eq_one ht (hnone t) (hidle t)
  · intro i hi
    exact (hending.accounted.logged.freedSession i hi).mpr (Finset.notMem_empty i)

/-- After the loop over the tunnels. -/
theorem Accounted.exitNet (haccounted : Accounted hash st live ∅ 0 0) (howned : Owned st)
    (env : Env n) : Yields (st.l2tpExitNet env) fun st' ↦ Ending hash st st' ∧
      ∀ t, st'.delWork t = true → t ∈ st.net.tunnelList := by
  refine (haccounted.deleteAll howned env st.net.tunnelList fun t ↦ (haccounted.listed t).mp).imp ?_
  rintro st' ⟨left, -, hleft, hownedLeft, hsocks, hlength, hsessions, hwork, hclosed⟩
  have hlisted (t : ℕ) : (st'.sockOf t).isSome = true ↔ t ∈ st.net.tunnelList := by
    rw [hsocks]
    exact (haccounted.listed t).symm
  have hempty : left = ∅ := by
    rw [Finset.eq_empty_iff_forall_notMem]
    intro i hi
    obtain ⟨t, sk, howner, hsk⟩ := hleft.owner_of_mem hi
    have hmem := (hlisted t).mp (by rw [hsk]; rfl)
    exact refs_eq_zero_iff.mp (hclosed t hmem) i hi howner
  rw [hempty] at hleft
  refine ⟨⟨hleft, hownedLeft, fun t hsome ↦ hwork t (Or.inl ((hlisted t).mp hsome)), hlength,
    hsessions⟩, fun t hpending ↦ (hlisted t).mp (hownedLeft.pending t hpending)⟩

/-- After a run in which the kernel has called all hooks. -/
theorem accounted_of_hooked {ops : List (LifeOp n)} (hhooked : ∀ op ∈ ops, op.Hooked) :
    Yields (lifeRun hash ops) fun st ↦ (∃ live, Accounted hash st live ∅ 0 0) ∧ Owned st := by
  have howned : Owned (noLifetimes n) := by
    refine ⟨fun t sk hsk ↦ ?_, fun t hpending ↦ absurd hpending Bool.false_ne_true⟩
    simp [noLifetimes, emptyNet, sockOf] at hsk
  refine List.foldlRecOn (motive := fun result ↦ Yields result fun st ↦
    (∃ live, Accounted hash st live ∅ 0 0) ∧ Owned st) ops (lifeStep hash)
      (yields_ok ⟨⟨∅, Accounted.empty hash n⟩, howned⟩) ?_
  rintro result ⟨st, rfl, ⟨live, haccounted⟩, howned⟩ op hop
  have hfinds : FindsSock st op := by
    cases op with
    | delWork env hooked t => exact howned.pending t
    | _ => trivial
  exact (haccounted.step hfinds).imp fun st' hst' ↦ ⟨hst'.1, hst'.2 howned (hhooked op hop)⟩

end

/-- The end of a namespace releases everything. Assumes: a run from the start, with tunnel sockets
that the kernel makes (`fd < 0`), in which it calls the destroy hook of every socket that is
released. The run gets to its end without a fault. So do `l2tp_exit_net` and the work after it,
which covers the tunnels of the list, in any order and whatever else is among it. Then every tunnel
there has been is freed, exactly once, every session is freed, and the list is empty. -/
theorem namespace_exit_releases {hash : SessionHash} {ops : List (LifeOp n)}
    (hhooked : ∀ op ∈ ops, op.Hooked) :
    Yields (lifeRun hash ops) fun st ↦ ∀ (env : Env n) (works : List (DelWork n)),
      (∀ t ∈ st.net.tunnelList, t ∈ works.map DelWork.t) →
        Yields (st.l2tpExitNet env >>= runWork hash works) (Released st) := by
  refine (accounted_of_hooked hhooked).imp ?_
  rintro st ⟨⟨live, haccounted⟩, howned⟩ env works hworks
  refine (haccounted.exitNet howned env).bind ?_
  rintro middle ⟨hending, hlisted⟩
  refine (hending.runWork works).imp ?_
  rintro last ⟨hlast, hrest⟩
  refine hlast.released fun t ↦ Bool.eq_false_of_not_eq_true fun hpending ↦ ?_
  obtain ⟨hbefore, hnot⟩ := hrest t hpending
  exact hnot (hworks t (hlisted t hbefore))

/-- Two tunnels with a session each, of which the first has been deleted. -/
def twoTunnels (env : Env 1) : List (LifeOp 1) :=
  [.tunnelCreate none true true hdrVer3 1 2 .udp, .sessionCreate true 0 5 6 {},
    .tunnelCreate none true true hdrVer2 3 4 .udp, .sessionCreate true 1 7 8 {},
    .tunnelDelete env 0]

theorem namespace_exit_releases_twoTunnels :
    (∀ op ∈ twoTunnels oneCpu, op.Hooked) ∧
      Yields (lifeRun lowBits (twoTunnels oneCpu)) fun st ↦
        st.net.tunnelList = [1, 0] ∧
          Yields (st.l2tpExitNet oneCpu >>= runWork lowBits [⟨oneCpu, false, 0⟩, ⟨oneCpu, true, 1⟩])
            (Released st) := by
  have hhooked : ∀ op ∈ twoTunnels oneCpu, op.Hooked := by simp [twoTunnels, LifeOp.Hooked]
  have hall : Yields (lifeRun lowBits (twoTunnels oneCpu)) _ := namespace_exit_releases hhooked
  obtain ⟨st, hrun, hreleases⟩ := hall
  have hlist : st.net.tunnelList = [1, 0] := by
    have hok : (lifeRun lowBits (twoTunnels oneCpu)).toOption.map (·.net.tunnelList) =
        some [1, 0] := by rfl
    rw [hrun] at hok
    exact Option.some.inj hok
  refine ⟨hhooked, st, hrun, hlist, hreleases oneCpu _ ?_⟩
  rw [hlist]
  simp

end KernelModules.L2tp.Lifetimes
