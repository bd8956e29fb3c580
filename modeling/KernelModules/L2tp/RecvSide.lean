import KernelModules.L2tp.HeaderLength
import KernelModules.L2tp.SequenceProgress

/-!
# The receive side in the life of a session

What becomes of a received frame depends on Nr, the reorder queue and what the session remembers of
frames out of sequence. Only a received frame and a purge touch any of these
(`keepsRecvSide_sessionStep`), so the numbers stay in the sequence space for the whole life of a
session (`Numbered.sessionRun`). The reorder timeout changes when a command or an option says so,
and the receive handler when a socket is attached.
-/

set_option autoImplicit false
set_option relaxedAutoImplicit false

namespace KernelModules.L2tp

open Foundations

variable {n : ℕ}

/-! ### What a reception depends on -/

/-- What a reception depends on stays as it is. -/
structure KeepsRecvSide (first flow : Flow n) : Prop where
  version : flow.tunnel.version = first.tunnel.version
  params : flow.session.toSessionParams = first.session.toSessionParams
  nr : flow.session.nr = first.session.nr
  reorderQ : flow.session.reorderQ = first.session.reorderQ
  nrOos : flow.session.nrOos = first.session.nrOos
  nrOosCount : flow.session.nrOosCount = first.session.nrOosCount
  reorderSkip : flow.session.reorderSkip = first.session.reorderSkip

theorem KeepsRecvSide.refl (flow : Flow n) : KeepsRecvSide flow flow :=
  ⟨rfl, rfl, rfl, rfl, rfl, rfl, rfl⟩

theorem KeepsRecvSide.trans {first middle last : Flow n} (hfirst : KeepsRecvSide first middle)
    (hlast : KeepsRecvSide middle last) : KeepsRecvSide first last where
  version := hlast.version.trans hfirst.version
  params := hlast.params.trans hfirst.params
  nr := hlast.nr.trans hfirst.nr
  reorderQ := hlast.reorderQ.trans hfirst.reorderQ
  nrOos := hlast.nrOos.trans hfirst.nrOos
  nrOosCount := hlast.nrOosCount.trans hfirst.nrOosCount
  reorderSkip := hlast.reorderSkip.trans hfirst.reorderSkip

theorem keepsRecvSide_of_sends {flow flow' : Flow n} (hsends : Sends flow flow') :
    KeepsRecvSide flow flow' := by
  obtain heq | ⟨ns, packet, dstats, heq | ⟨env, heq⟩⟩ := hsends.sends
  all_goals
    rw [heq]
    exact ⟨rfl, rfl, rfl, rfl, rfl, rfl, rfl⟩

/-- Only a received frame and a purge touch what a reception depends on. -/
theorem keepsRecvSide_sessionStep (flow : Flow n) (event : SessionEvent n)
    (hrecv : ∀ call, event ≠ .recv call) (hpurge : ∀ env, event ≠ .purge env) :
    KeepsRecvSide flow (sessionStep flow event) := by
  cases event with
  | recv call => exact absurd rfl (hrecv call)
  | purge env => exact absurd rfl (hpurge env)
  | ethXmit env skb => exact keepsRecvSide_of_sends (sends_l2tpEthDevXmit env flow skb)
  | pppXmit env skb =>
    dsimp only [sessionStep, pppXmitFlow]
    split_ifs
    · exact keepsRecvSide_of_sends (sends_pppol2tpXmitFlow env flow skb)
    · exact ⟨rfl, rfl, rfl, rfl, rfl, rfl, rfl⟩
  | sendmsg env call => exact keepsRecvSide_of_sends (sends_pppol2tpSendmsgFlow env call flow)
  | modify request =>
    obtain ⟨recvSeq, sendSeq, lnsMode, hdrLen, reorderTimeout, mtu, mru, heq⟩ :=
      modifySession_eq flow.tunnel request flow.session
    dsimp only [sessionStep, Flow.onSession]
    rw [heq]
    exact ⟨rfl, rfl, rfl, rfl, rfl, rfl, rfl⟩
  | setsockopt optname val jiffies =>
    obtain ⟨recvSeq, sendSeq, lnsMode, hdrLen, reorderTimeout, heq⟩ :=
      pppol2tpSessionSetsockopt_eq flow.tunnel flow.session optname val jiffies
    dsimp only [sessionStep, Flow.onSession]
    rw [heq]
    exact ⟨rfl, rfl, rfl, rfl, rfl, rfl, rfl⟩
  | connect call tunnelSock => exact ⟨rfl, rfl, rfl, rfl, rfl, rfl, rfl⟩
  | tunnel stats peerTunnelId recvPayloadHook sock => exact ⟨rfl, rfl, rfl, rfl, rfl, rfl, rfl⟩

section Numbered

variable {flow flow' : Flow n}

theorem Numbered.keepsRecvSide (hnumbered : Numbered flow) (hkeeps : KeepsRecvSide flow flow') :
    Numbered flow' := by
  refine ⟨?_, ?_, ?_, ?_⟩
  · rw [hkeeps.params]
    exact hnumbered.space
  · rw [hkeeps.params, hkeeps.version]
    exact hnumbered.nrMax
  · rw [hkeeps.params, hkeeps.nr]
    exact hnumbered.nr
  · rw [hkeeps.params, hkeeps.reorderQ]
    exact hnumbered.queue

theorem Numbered.purgeStep (hnumbered : Numbered flow) {env : Env n}
    (hstep : purgeStep env flow = some flow') : Numbered flow' := by
  obtain ⟨skb, rest, hqueue, rfl⟩ := purgeStep_eq_some hstep
  rw [recvDiscard, Flow.deref_eq]
  refine ⟨hnumbered.space, hnumbered.nrMax, hnumbered.nr, fun skb' hskb' ↦ ?_⟩
  exact hnumbered.queue skb' (by rw [hqueue]; exact List.mem_cons_of_mem _ hskb')

theorem Numbered.l2tpSessionQueuePurge (hnumbered : Numbered flow) (env : Env n) :
    Numbered (l2tpSessionQueuePurge env flow) :=
  drain_induction _ _ hnumbered fun _ _ hturn hstep ↦ hturn.purgeStep hstep

/-- The numbers stay in the sequence space whatever happens to a session. -/
theorem Numbered.sessionRun (hnumbered : Numbered flow) (events : List (SessionEvent n)) :
    Numbered (sessionRun flow events) := by
  induction events generalizing flow with
  | nil => exact hnumbered
  | cons event events ih =>
    change Numbered (L2tp.sessionRun (sessionStep flow event) events)
    apply ih
    by_cases hrecv : ∃ call, event = .recv call
    · obtain ⟨call, rfl⟩ := hrecv
      exact hnumbered.run [call]
    · by_cases hpurge : ∃ env, event = .purge env
      · obtain ⟨env, rfl⟩ := hpurge
        exact hnumbered.l2tpSessionQueuePurge env
      · exact hnumbered.keepsRecvSide (keepsRecvSide_sessionStep flow event
          (fun call heq ↦ hrecv ⟨call, heq⟩) fun env heq ↦ hpurge ⟨env, heq⟩)

end Numbered

/-- An event that attaches a socket to the session, and with it a receive handler. -/
def SessionEvent.attaches : SessionEvent n → Bool
  | .connect _ _ => true
  | _ => false

/-- Nothing takes the receive handler away, and a socket brings one. -/
theorem recvSkb_sessionStep (flow : Flow n) (event : SessionEvent n) :
    (sessionStep flow event).session.recvSkb.isSome =
      (flow.session.recvSkb.isSome || event.attaches) := by
  have hkeeps : ∀ flow', KeepsSetup flow flow' →
      flow'.session.recvSkb.isSome = (flow.session.recvSkb.isSome || false) := by
    intro flow' hsetup
    rw [hsetup.hooks, Bool.or_false]
  cases event with
  | recv call => exact hkeeps _ ((DataPath.recv call).keepsSetup flow)
  | purge env => exact hkeeps _ ((DataPath.purge env).keepsSetup flow)
  | ethXmit env skb => exact hkeeps _ ((DataPath.ethXmit env skb).keepsSetup flow)
  | pppXmit env skb => exact hkeeps _ ((DataPath.pppXmit env skb).keepsSetup flow)
  | sendmsg env call => exact hkeeps _ ((DataPath.sendmsg env call).keepsSetup flow)
  | modify request => exact hkeeps _ ((DataPath.modify request).keepsSetup flow)
  | setsockopt optname val jiffies =>
    exact hkeeps _ ((DataPath.setsockopt optname val jiffies).keepsSetup flow)
  | connect call tunnelSock => exact (Bool.or_true _).symm
  | tunnel stats peerTunnelId recvPayloadHook sock => exact (Bool.or_false _).symm

/-! ### Settings -/

/-- The receive path leaves the setup of a session alone. -/
theorem sameSetup_l2tpRecvCommon (flow : Flow n) (call : RecvCall n) :
    SameSetup flow (l2tpRecvCommon flow call) := by
  obtain ⟨flow', skb, hsetup, -, -, -, hcases⟩ := recvEnqueue_cases flow call
  have harrived : SameSetup flow (recvEnqueue flow call).1 := by
    rcases hcases with ⟨heq, -⟩ | ⟨heq, -⟩
    · rw [heq]
      exact hsetup
    · rw [heq]
      exact hsetup
  refine l2tpRecvCommon_induction harrived fun turn turn' hturn hstep ↦ hturn.trans ?_
  obtain ⟨skb', rest, tstats, counters, -, ⟨-, rfl⟩ | ⟨-, -, rfl⟩⟩ := dequeueStep_cases hstep
  · exact ⟨rfl, rfl, rfl, rfl⟩
  · rw [afterDelivery_eq]
    exact ⟨rfl, rfl, rfl, rfl⟩

theorem reorderTimeout_modifySession (tunnel : L2tpTunnel n) (request : SessionModifyRequest)
    (session : L2tpSession n) : (modifySession tunnel request session).reorderTimeout =
      (request.recvTimeout.map (·.toUInt32.toInt32)).getD session.reorderTimeout := by
  unfold modifySession
  by_cases hsend : request.sendSeq.isSome = true
  · simp only [if_pos hsend, l2tpSessionSetHeaderLen_headerLen]
  · simp only [if_neg hsend]

theorem reorderTimeout_setsockopt (tunnel : L2tpTunnel n) (session : L2tpSession n)
    (optname : SessionOption) (val jiffies : Int32) :
    (pppol2tpSessionSetsockopt tunnel session optname val jiffies).1.reorderTimeout =
      if optname = .reorderTimeout then jiffies else session.reorderTimeout := by
  unfold pppol2tpSessionSetsockopt
  by_cases hval : val ≠ 0 ∧ val ≠ 1
  · cases optname <;> simp [if_pos hval]
  · cases optname <;> simp [if_neg hval, l2tpSessionSetHeaderLen_headerLen]

/-- A frame that comes does not expire in the moment in which it comes. -/
theorem timeAfter_add {jiffies hz : UInt64} (hhz : hz.toNat < 2 ^ 63) :
    timeAfter jiffies (jiffies + hz) = false := by
  have hdiff : jiffies + hz - jiffies = hz := by
    rw [UInt64.add_comm, UInt64.add_sub_cancel]
  rw [timeAfter, hdiff, decide_eq_false_iff_not, Int64.lt_iff_toInt_lt]
  have hvalue : hz.toInt64.toInt = hz.toNat := BitVec.toInt_eq_toNat_of_lt (by
    change 2 * hz.toNat < 2 ^ 64
    omega)
  rw [hvalue]
  exact (Int.natCast_nonneg _).not_gt

end KernelModules.L2tp
