import KernelModules.L2tp.RecvSide

/-!
# The receive window

The window test compares the number of a frame with Nr by one of two unsigned subtractions. It is
right as long as both numbers are in the sequence space, and that they are depends on every place
that stores a number: the field of the header it is read from, the mask when Nr is bumped, the frame
that a skip goes to, and the frame out of sequence that is remembered in `nr_oos`.

`Tracked` says that the numbers of a session are in the space. Every event keeps it, so it holds in
the whole life of a session, and the window test is the modular one there (`receive_window`).
-/

set_option autoImplicit false
set_option relaxedAutoImplicit false

namespace KernelModules.L2tp

open Foundations

variable {n : ℕ}

/-- The numbers that a session keeps of received frames are at most `nr_max`. -/
structure InSpace (session : L2tpSession n) : Prop where
  nrMax : session.nrMax = 0xffff ∨ session.nrMax = 0xffffff
  nr : session.nr ≤ session.nrMax
  nrOos : session.nrOos ≤ session.nrMax
  queue : ∀ skb ∈ session.reorderQ, skb.cb.hasSeq = true → skb.cb.ns ≤ session.nrMax

/-- The window test is what it would be on integers: the subtractions of the branch that is taken
do not wrap, and a number is accepted if it is ahead of Nr, modulo the size of the space, by less
than the window. -/
structure ModularWindow (session : L2tpSession n) (ns : UInt32) : Prop where
  ahead : session.nr ≤ ns → ((ns - session.nr).toNat : ℤ) = ns.toNat - session.nr.toNat
  behind : ns < session.nr →
    ((session.nrMax + 1).toNat : ℤ) = session.nrMax.toNat + 1 ∧
      ((session.nr - ns).toNat : ℤ) = session.nr.toNat - ns.toNat ∧
      ((session.nrMax + 1 - (session.nr - ns)).toNat : ℤ) =
        (session.nrMax.toNat + 1) - (session.nr.toNat - ns.toNat)
  accepts : l2tpSeqCheckRxWindow session ns = true ↔
    ((ns.toNat : ℤ) - session.nr.toNat) % (session.nrMax.toNat + 1) < session.nrWindowSize.toNat

theorem modularWindow {session : L2tpSession n} {ns : UInt32}
    (hmax : session.nrMax = 0xffff ∨ session.nrMax = 0xffffff) (hnr : session.nr ≤ session.nrMax)
    (hns : ns ≤ session.nrMax) : ModularWindow session ns := by
  have hcount : session.seqCount = session.nrMax.toNat + 1 := rfl
  have hsmall : session.seqCount < 2 ^ 32 := by
    rcases hmax with hmax | hmax
    all_goals
      rw [hcount, hmax]
      decide
  have hnr' : session.nr.toNat < session.seqCount :=
    Nat.lt_succ_of_le (UInt32.le_iff_toNat_le.mp hnr)
  have hns' : ns.toNat < session.seqCount := Nat.lt_succ_of_le (UInt32.le_iff_toNat_le.mp hns)
  refine ⟨fun hle ↦ ?_, fun hlt ↦ ?_, ?_⟩
  · rw [UInt32.toNat_sub_of_le _ _ hle, Nat.cast_sub (UInt32.le_iff_toNat_le.mp hle)]
  · obtain ⟨hone, hback, hwrapped⟩ := toNat_behind hsmall hnr' hlt
    have hlt' : ns.toNat < session.nr.toNat := UInt32.lt_iff_toNat_lt.mp hlt
    refine ⟨by omega, by omega, by omega⟩
  · rw [l2tpSeqCheckRxWindow_iff_ahead hsmall hnr' hns', ← Int.ofNat_lt,
      ahead_eq_emod hnr'.le, hcount, Nat.cast_succ]

/-! ### The number out of sequence -/

/-- `l2tp_recv_data_seq` remembers the number of the frame it looks at, or none. -/
theorem nrOos_l2tpRecvDataSeq (env : Env n) (flow : Flow n) (skb : SkBuff) :
    (l2tpRecvDataSeq env flow skb).1.session.nrOos = flow.session.nrOos ∨
      (l2tpRecvDataSeq env flow skb).1.session.nrOos = skb.cb.ns := by
  rcases l2tpRecvDataSeq_cases env flow skb with
    ⟨-, heq⟩ | ⟨-, ⟨-, heq⟩ | ⟨-, ⟨-, heq⟩ | ⟨-, ⟨-, heq⟩ | ⟨-, heq⟩⟩⟩⟩
  · exact Or.inl (by rw [heq])
  · obtain ⟨counters, hqueue⟩ := l2tpRecvQueueSkb_eq env flow skb
    exact Or.inl (by rw [heq, hqueue]; rfl)
  · exact Or.inl (by rw [heq]; rfl)
  · exact Or.inr (by rw [heq]; rfl)
  · exact Or.inr (by rw [heq]; rfl)

/-- An arrival leaves `nr_oos` alone or stores the number of an admitted frame in it. -/
theorem nrOos_recvEnqueue (flow : Flow n) (call : RecvCall n) :
    (recvEnqueue flow call).1.session.nrOos = flow.session.nrOos ∨
      ∃ skb, admittedFrame flow.tunnel.version flow.session.toSessionParams
          flow.session.reorderTimeout call = some skb ∧ skb.cb.hasSeq = true ∧
        (recvEnqueue flow call).1.session.nrOos = skb.cb.ns := by
  rcases recvAdmit_cases flow.ref call with
    ⟨change, skb, -, -, heq⟩ | ⟨sendSeq, hdrLen, skb, -, heq | heq⟩
  · exact Or.inl (by simp [recvEnqueue, heq, recvDiscard])
  · exact Or.inl (by simp [recvEnqueue, heq, recvDiscard])
  · have hadmitted := admittedFrame_of_recvAdmit heq
    rw [Flow.tunnel_ref, Flow.session_ref] at hadmitted
    cases hseq : skb.cb.hasSeq with
    | false => exact Or.inl (by simp [recvEnqueue, heq, hseq, skbQueueTail])
    | true =>
      -- a refused frame is discarded after its number is stored
      have hsame : (recvEnqueue flow call).1.session.nrOos = (l2tpRecvDataSeq call.env
          (flow.ref.onSession fun session ↦ { session with sendSeq, hdrLen })
          skb).1.session.nrOos := by
        simp only [recvEnqueue, heq, hseq, if_true]
        rcases l2tpRecvDataSeq call.env
          (flow.ref.onSession fun session ↦ { session with sendSeq, hdrLen }) skb with
          ⟨last, refused⟩
        cases refused with
        | true => simp [recvDiscard]
        | false => rfl
      rw [hsame]
      rcases nrOos_l2tpRecvDataSeq call.env
        (flow.ref.onSession fun session ↦ { session with sendSeq, hdrLen }) skb with hold | hnew
      · exact Or.inl (by simpa using hold)
      · exact Or.inr ⟨skb, hadmitted, hseq, hnew⟩

theorem nrOos_dequeueStep {env : Env n} {flow flow' : Flow n}
    (hstep : dequeueStep env flow = some flow') : flow'.session.nrOos = flow.session.nrOos := by
  obtain ⟨skb, rest, tstats, counters, -, ⟨-, rfl⟩ | ⟨-, -, rfl⟩⟩ := dequeueStep_cases hstep
  · rfl
  · rw [afterDelivery_eq]
    rfl

theorem nrOos_purgeStep {env : Env n} {flow flow' : Flow n}
    (hstep : purgeStep env flow = some flow') : flow'.session.nrOos = flow.session.nrOos := by
  obtain ⟨skb, rest, -, rfl⟩ := purgeStep_eq_some hstep
  simp [recvDiscard]

/-! ### The life of a session -/

/-- Every number that a session keeps is in its sequence space. -/
structure Tracked (flow : Flow n) : Prop extends Numbered flow where
  nrOos : flow.session.nrOos.toNat < flow.session.seqCount

section Tracked

variable {flow flow' : Flow n}

theorem tracked_newFlow (tunnel : L2tpTunnel n) (tunnelIndex : ℕ)
    (sessionId peerSessionId : UInt32) (cfg : L2tpSessionCfg) (hooks : SessionHooks) :
    Tracked (newFlow tunnel tunnelIndex sessionId peerSessionId cfg hooks) := by
  refine ⟨numbered_newSession tunnel tunnelIndex sessionId peerSessionId cfg hooks, ?_⟩
  obtain ⟨hdrLen, heq⟩ := newSession_eq tunnel tunnelIndex sessionId peerSessionId cfg
  rw [newFlow, heq]
  exact Nat.succ_pos _

theorem Tracked.inSpace (htracked : Tracked flow) : InSpace flow.session where
  nrMax := htracked.space.nrMax
  nr := UInt32.le_iff_toNat_le.mpr (Nat.le_of_lt_succ htracked.nr)
  nrOos := UInt32.le_iff_toNat_le.mpr (Nat.le_of_lt_succ htracked.nrOos)
  queue := fun skb hskb hseq ↦
    UInt32.le_iff_toNat_le.mpr (Nat.le_of_lt_succ (htracked.queue skb hskb hseq))

/-- A number stays in the space if it is kept, and the space too. -/
theorem Tracked.of_nrOos (htracked : Tracked flow) (hnumbered : Numbered flow')
    (hparams : flow'.session.toSessionParams = flow.session.toSessionParams)
    (hnrOos : flow'.session.nrOos = flow.session.nrOos) : Tracked flow' :=
  ⟨hnumbered, by rw [hparams, hnrOos]; exact htracked.nrOos⟩

theorem Tracked.recvEnqueue (htracked : Tracked flow) (call : RecvCall n) :
    Tracked (recvEnqueue flow call).1 := by
  have hnumbered := htracked.toNumbered.recvEnqueue call
  refine ⟨hnumbered, ?_⟩
  have hparams : (L2tp.recvEnqueue flow call).1.session.toSessionParams =
      flow.session.toSessionParams := by
    obtain ⟨last, skb, hsetup, -, -, -, ⟨heq, -⟩ | ⟨heq, -⟩⟩ := recvEnqueue_cases flow call
    all_goals
      rw [heq]
      exact hsetup.params
  rw [hparams]
  rcases nrOos_recvEnqueue flow call with hold | ⟨skb, hadmitted, hseq, hnew⟩
  · rw [hold]
    exact htracked.nrOos
  · rw [hnew]
    exact htracked.toNumbered.admitted_lt hadmitted hseq

theorem Tracked.dequeueStep (htracked : Tracked flow) {env : Env n}
    (hstep : dequeueStep env flow = some flow') : Tracked flow' := by
  refine htracked.of_nrOos (htracked.toNumbered.dequeueStep hstep) ?_ (nrOos_dequeueStep hstep)
  obtain ⟨skb, rest, tstats, counters, -, ⟨-, rfl⟩ | ⟨-, -, rfl⟩⟩ := dequeueStep_cases hstep
  · rfl
  · rw [afterDelivery_eq]
    rfl

theorem Tracked.purgeStep (htracked : Tracked flow) {env : Env n}
    (hstep : purgeStep env flow = some flow') : Tracked flow' := by
  refine htracked.of_nrOos (htracked.toNumbered.purgeStep hstep) ?_ (nrOos_purgeStep hstep)
  obtain ⟨skb, rest, -, rfl⟩ := purgeStep_eq_some hstep
  simp [recvDiscard]

/-- Every event keeps the numbers in the space. -/
theorem Tracked.sessionStep (htracked : Tracked flow) (event : SessionEvent n) :
    Tracked (sessionStep flow event) := by
  by_cases hrecv : ∃ call, event = .recv call
  · obtain ⟨call, rfl⟩ := hrecv
    exact l2tpRecvCommon_induction (htracked.recvEnqueue call) fun _ _ hturn hstep ↦
      hturn.dequeueStep hstep
  · by_cases hpurge : ∃ env, event = .purge env
    · obtain ⟨env, rfl⟩ := hpurge
      exact drain_induction _ _ htracked fun _ _ hturn hstep ↦ hturn.purgeStep hstep
    · have hkeeps := keepsRecvSide_sessionStep flow event
        (fun call heq ↦ hrecv ⟨call, heq⟩) fun env heq ↦ hpurge ⟨env, heq⟩
      exact htracked.of_nrOos (htracked.toNumbered.keepsRecvSide hkeeps) hkeeps.params hkeeps.nrOos

theorem Tracked.sessionRun (htracked : Tracked flow) (events : List (SessionEvent n)) :
    Tracked (sessionRun flow events) := by
  induction events generalizing flow with
  | nil => exact htracked
  | cons event events ih => exact ih (htracked.sessionStep event)

end Tracked

/-- Whatever happens to a session, the numbers it keeps of received frames stay at most `nr_max`,
and for numbers of such a session's space the window test is the modular one and nothing in it goes
below zero. -/
theorem receive_window (tunnel : L2tpTunnel n) (tunnelIndex : ℕ)
    (sessionId peerSessionId : UInt32) (cfg : L2tpSessionCfg) (hooks : SessionHooks)
    (events : List (SessionEvent n)) :
    InSpace (sessionRun (newFlow tunnel tunnelIndex sessionId peerSessionId cfg hooks)
      events).session ∧
      ∀ (session : L2tpSession n) (ns : UInt32),
        (session.nrMax = 0xffff ∨ session.nrMax = 0xffffff) →
          session.nr ≤ session.nrMax → ns ≤ session.nrMax → ModularWindow session ns :=
  ⟨((tracked_newFlow tunnel tunnelIndex sessionId peerSessionId cfg hooks).sessionRun
    events).inSpace, fun _ _ hmax hnr hns ↦ modularWindow hmax hnr hns⟩

/-- Two numbers before the end of the space, the number 1 is inside the window. -/
theorem receive_window_at_end :
    l2tpSeqCheckRxWindow { (reorderingFlow 1 0).session with nr := 0xfffffe } 1 = true ∧
      ModularWindow { (reorderingFlow 1 0).session with nr := 0xfffffe } 1 := by
  have hwindow := (receive_window (newTunnel 1 hdrVer3 1 2 .ip 0) 0 1 2 { pwType := .eth }
    (reorderingFlow 1 0).session.toSessionHooks []).2
  exact ⟨by decide, hwindow _ _ (Or.inr rfl) (by decide) (by decide)⟩

end KernelModules.L2tp
