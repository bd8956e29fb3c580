import KernelModules.L2tp.DataPath
import Mathlib.Tactic.LinearCombination

/-!
# What three layers count of one transmission

A frame that an Ethernet pseudowire sends is counted by its device, by its session and by its
tunnel. The device counts a frame as sent when `l2tp_xmit_skb` returns `NET_XMIT_SUCCESS`, which it
does whatever `l2tp_xmit_core` has made of the frame: an error of the network is counted on the
session and the tunnel only, and to the device the frame is sent. A frame that `l2tp_xmit_skb` drops
itself, for want of headroom or because the tunnel socket is in use, never comes to
`l2tp_xmit_core`, and is counted by the device only.

So the tunnel keeps in step with the session, and the device has counted every call, but the device
agrees with the session only as long as every frame is taken by the network (`txAgree_iff`).
-/

set_option autoImplicit false
set_option relaxedAutoImplicit false

namespace KernelModules.L2tp

open Foundations

variable {n : ℕ}

/-! ### The counters -/

/-- The transmit counters of a session's device, of the session and of its tunnel, over all
processors. -/
structure TxTotals where
  devicePackets : UInt64
  deviceDropped : UInt64
  sessionPackets : UInt64
  sessionErrors : UInt64
  tunnelPackets : UInt64
  tunnelErrors : UInt64
  deriving DecidableEq, Repr

/-- The totals of a state. -/
def txTotals (flow : Flow n) : TxTotals where
  devicePackets := ∑ cpu, (flow.session.dstats cpu).txPackets
  deviceDropped := ∑ cpu, (flow.session.dstats cpu).txDropped
  sessionPackets := ∑ cpu, (flow.session.stats cpu).txPackets
  sessionErrors := ∑ cpu, (flow.session.stats cpu).txErrors
  tunnelPackets := ∑ cpu, (flow.tunnel.stats cpu).txPackets
  tunnelErrors := ∑ cpu, (flow.tunnel.stats cpu).txErrors

/-- The frame gets all the way: the network takes it as well. -/
def XmitEnv.carries (env : XmitEnv n) : Bool := env.reachesCore && env.ipQueueXmit

/-- What a transmission adds to the totals. -/
def TxTotals.record (totals : TxTotals) (env : XmitEnv n) : TxTotals :=
  if env.carries then
    { totals with
      devicePackets := totals.devicePackets + 1
      sessionPackets := totals.sessionPackets + 1
      tunnelPackets := totals.tunnelPackets + 1 }
  else if env.reachesCore then
    { totals with
      devicePackets := totals.devicePackets + 1
      sessionErrors := totals.sessionErrors + 1
      tunnelErrors := totals.tunnelErrors + 1 }
  else { totals with deviceDropped := totals.deviceDropped + 1 }

/-! ### One transmission -/

/-- A call of `l2tp_eth_dev_xmit` adds to the totals what the answers it gets say. -/
theorem txTotals_l2tpEthDevXmit (env : XmitEnv n) (flow : Flow n) (skb : SkBuff) :
    txTotals (l2tpEthDevXmit env flow skb) = (txTotals flow).record env := by
  obtain ⟨ns, packet, heq⟩ := l2tpXmitSkb_eq env flow skb flow.session.hdrLen.toNat
  unfold l2tpEthDevXmit TxTotals.record XmitEnv.carries
  rw [heq]
  cases hcore : env.reachesCore with
  | false => simp [txTotals, sum_onCpu]
  | true =>
    cases hnetwork : env.ipQueueXmit <;>
      simp [txTotals, l2tpXmitCore, hnetwork, sum_onCpu]

/-! ### Runs -/

/-- A call of `l2tp_eth_dev_xmit`: a frame, and what the transmission finds. -/
structure EthXmitCall (n : ℕ) where
  env : XmitEnv n
  skb : SkBuff

/-- A run of calls of `l2tp_eth_dev_xmit` on the device of one session. -/
def ethXmitRun (flow : Flow n) (calls : List (EthXmitCall n)) : Flow n :=
  calls.foldl (fun flow call ↦ l2tpEthDevXmit call.env flow call.skb) flow

theorem ethXmitRun_concat (flow : Flow n) (calls : List (EthXmitCall n)) (call : EthXmitCall n) :
    ethXmitRun flow (calls ++ [call]) =
      l2tpEthDevXmit call.env (ethXmitRun flow calls) call.skb := by
  simp [ethXmitRun]

/-- What is counted from the first totals to the last, whatever the calls came to: the device has
counted every call, as sent or as dropped, and the tunnel has counted what the session has. -/
structure TxCounted (calls : ℕ) (first last : TxTotals) : Prop where
  calls : UInt64.ofNat calls = (last.devicePackets - first.devicePackets) +
    (last.deviceDropped - first.deviceDropped)
  tunnelSent : last.tunnelPackets - first.tunnelPackets = last.sessionPackets - first.sessionPackets
  tunnelErrors : last.tunnelErrors - first.tunnelErrors = last.sessionErrors - first.sessionErrors

/-- The three layers agree: what the device has counted as sent the session has counted as sent, and
what the device has counted as dropped the session has counted as an error. -/
structure TxAgree (calls : ℕ) (first last : TxTotals) : Prop extends
    TxCounted calls first last where
  sent : last.devicePackets - first.devicePackets = last.sessionPackets - first.sessionPackets
  dropped : last.deviceDropped - first.deviceDropped = last.sessionErrors - first.sessionErrors

section

open scoped UInt64.CommRing

variable {calls : ℕ} {first last : TxTotals}

theorem TxCounted.record (hcounted : TxCounted calls first last) (env : XmitEnv n) :
    TxCounted (calls + 1) first (last.record env) := by
  obtain ⟨hcalls, hsent, herrors⟩ := hcounted
  have hsucc : UInt64.ofNat (calls + 1) = UInt64.ofNat calls + 1 := UInt64.ofNat_add calls 1
  unfold TxTotals.record
  split_ifs
  · exact ⟨by linear_combination hsucc + hcalls, by linear_combination hsent, herrors⟩
  · exact ⟨by linear_combination hsucc + hcalls, hsent, by linear_combination herrors⟩
  · exact ⟨by linear_combination hsucc + hcalls, hsent, herrors⟩

/-- As long as the layers agree, a further call keeps them in agreement exactly if the frame gets
all the way. -/
theorem TxAgree.record_iff (hagree : TxAgree calls first last) (env : XmitEnv n) :
    TxAgree (calls + 1) first (last.record env) ↔ env.carries = true := by
  have hcounted := hagree.toTxCounted.record env
  have hone : (1 : UInt64) ≠ 0 := by decide
  unfold TxTotals.record at hcounted ⊢
  split_ifs at hcounted ⊢ with hcarries hcore
  · refine iff_of_true ⟨hcounted, ?_, hagree.dropped⟩ hcarries
    linear_combination hagree.sent
  · refine iff_of_false ?_ hcarries
    intro hnext
    apply hone
    linear_combination hnext.sent - hagree.sent
  · refine iff_of_false ?_ hcarries
    intro hnext
    apply hone
    linear_combination hnext.dropped - hagree.dropped

end

/-- Whatever the transmissions come to, the device counts every call and the tunnel counts with the
session. -/
theorem txCounted_ethXmitRun (flow : Flow n) (calls : List (EthXmitCall n)) :
    TxCounted calls.length (txTotals flow) (txTotals (ethXmitRun flow calls)) := by
  induction calls using List.reverseRecOn with
  | nil => constructor <;> simp [ethXmitRun]
  | append_singleton calls call ih =>
    rw [ethXmitRun_concat, txTotals_l2tpEthDevXmit, List.length_append]
    exact ih.record call.env

/-- The device, the session and the tunnel agree at every moment of a run exactly if every frame of
the run finds headroom, finds the tunnel socket free and is taken by the network. -/
theorem txAgree_iff (flow : Flow n) (calls : List (EthXmitCall n)) :
    (∀ done, done <+: calls →
        TxAgree done.length (txTotals flow) (txTotals (ethXmitRun flow done))) ↔
      ∀ call ∈ calls, call.env.carries = true := by
  induction calls using List.reverseRecOn with
  | nil =>
    refine iff_of_true (fun done hdone ↦ ?_) (by simp)
    rw [List.prefix_nil.mp hdone]
    exact ⟨txCounted_ethXmitRun flow [], by simp [ethXmitRun], by simp [ethXmitRun]⟩
  | append_singleton calls call ih =>
    have hlast : ∀ done, done <+: calls ++ [call] ↔ done = calls ++ [call] ∨ done <+: calls :=
      fun done ↦ List.prefix_concat_iff
    constructor
    · intro hagree
      have hcalls := ih.mp fun done hdone ↦ hagree done ((hlast done).mpr (Or.inr hdone))
      have hbefore := hagree calls ((hlast calls).mpr (Or.inr (List.prefix_refl calls)))
      have hafter := hagree (calls ++ [call]) ((hlast _).mpr (Or.inl rfl))
      rw [ethXmitRun_concat, txTotals_l2tpEthDevXmit, List.length_append] at hafter
      intro other hother
      rcases List.mem_append.mp hother with hold | hnew
      · exact hcalls other hold
      · rw [List.mem_singleton.mp hnew]
        exact (hbefore.record_iff call.env).mp hafter
    · intro hcarries done hdone
      have hbefore := ih.mpr fun other hother ↦
        hcarries other (List.mem_append_left [call] hother)
      rcases (hlast done).mp hdone with rfl | hshorter
      · rw [ethXmitRun_concat, txTotals_l2tpEthDevXmit, List.length_append]
        exact ((hbefore calls (List.prefix_refl calls)).record_iff call.env).mpr
          (hcarries call (List.mem_append_right calls (List.mem_singleton.mpr rfl)))
      · exact hbefore done hshorter

/-- A frame that the network refuses. -/
def refusedByNetwork : EthXmitCall 1 where
  env := { idleXmitEnv cpu0 with ipQueueXmit := false }
  skb := sequencedSkb 0 0

/-- A frame that comes while the tunnel socket is in use. -/
def socketInUse : EthXmitCall 1 where
  env := { idleXmitEnv cpu0 with ownedByUser := true }
  skb := sequencedSkb 0 0

/-- The network refuses the frame of a new session: the device has sent it, and the session has not.
And a frame that comes while the tunnel socket is in use is dropped by the device, which is no error
of the session. -/
theorem not_txAgree_refused :
    txTotals (reorderingFlow 1 0) = ⟨0, 0, 0, 0, 0, 0⟩ ∧
      txTotals (ethXmitRun (reorderingFlow 1 0) [refusedByNetwork]) = ⟨1, 0, 0, 1, 0, 1⟩ ∧
      txTotals (ethXmitRun (reorderingFlow 1 0) [socketInUse]) = ⟨0, 1, 0, 0, 0, 0⟩ ∧
      ¬ TxAgree 1 (txTotals (reorderingFlow 1 0))
        (txTotals (ethXmitRun (reorderingFlow 1 0) [refusedByNetwork])) ∧
      ¬ TxAgree 1 (txTotals (reorderingFlow 1 0))
        (txTotals (ethXmitRun (reorderingFlow 1 0) [socketInUse])) := by
  have hnew : txTotals (reorderingFlow 1 0) = ⟨0, 0, 0, 0, 0, 0⟩ := by decide
  have hrefused : txTotals (ethXmitRun (reorderingFlow 1 0) [refusedByNetwork]) =
      ⟨1, 0, 0, 1, 0, 1⟩ := by decide
  have hinUse : txTotals (ethXmitRun (reorderingFlow 1 0) [socketInUse]) =
      ⟨0, 1, 0, 0, 0, 0⟩ := by decide
  refine ⟨hnew, hrefused, hinUse, ?_, ?_⟩
  · intro hagree
    rw [hnew, hrefused] at hagree
    exact absurd hagree.sent (by decide)
  · intro hagree
    rw [hnew, hinUse] at hagree
    exact absurd hagree.dropped (by decide)

end KernelModules.L2tp
