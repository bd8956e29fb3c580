import KernelModules.Foundations.Runs
import KernelModules.L2tp.HeaderLength

/-!
# The port to Linux 3.10.59

The repository has the driver twice. For a session the tree `l2tp-3.10.59` differs from `l2tp` in
the receive path, which knows no window and no out-of-sequence tracking, and in two places of the
management: a socket option and a netlink command that set `send_seq` do not set the header length
again. What is the same in both trees, the header builders and the transmit path among it, is taken
from there. Not modelled are the differences outside the sessions: `l2tp_tunnel_delete` takes no
reference for the work it queues, and IPv6 sockets check and choose their addresses otherwise.

Nothing of the receive path reaches the send side but the switch of `send_seq`, which sets the
header length in both trees. So the two ports stay twins, up to `hdr_len`, and they send the same
packets exactly as long as the older one sends with a header length that is not stale
(`samePackets_iff`). On L2TPv3 the length does not depend on `send_seq` and is never stale.
-/

set_option autoImplicit false
set_option relaxedAutoImplicit false

namespace KernelModules.L2tp

open Foundations

variable {n : ℕ}

namespace Port31059

/-! ### The receive path -/

/-- `pppol2tp_recv`: a frame for a socket that is not bound is lost. -/
def pppol2tpRecv (env : Env n) (flow : Flow n) : Flow n :=
  match flow.session.ps.sock with
  | none => flow
  | some _ =>
    if env.pppoxBound then flow
    else flow.sessionStats env.cpu fun s ↦ { s with rxErrors := s.rxErrors + 1 }

/-- `(*session->recv_skb)(session, skb, length)`. -/
def callRecvHandler (handler : RecvHandler) (env : Env n) (flow : Flow n) (skb : SkBuff) : Flow n :=
  match handler with
  | .l2tpEthDevRecv => l2tpEthDevRecv env flow skb skb.cb.length
  | .pppol2tpRecv => pppol2tpRecv env flow

/-- Call the private receive handler, or free the frame if there is none. -/
def handOver (env : Env n) (flow : Flow n) (skb : SkBuff) : Flow n :=
  match flow.session.recvSkb with
  | some handler => callRecvHandler handler env (flow.emit (.recvSkb skb)) skb
  | none => flow.emit (.kfreeSkb skb)

/-- Bump Nr for a sequenced frame. The mask depends on the version of the tunnel. -/
def bumpNr (flow : Flow n) (skb : SkBuff) : Flow n :=
  if skb.cb.hasSeq then
    if flow.tunnel.version = hdrVer2 then setNr flow ((flow.session.nr + 1) &&& 0xffff)
    else setNr flow ((flow.session.nr + 1) &&& 0xffffff)
  else flow

/-- `l2tp_recv_dequeue_skb`. -/
def l2tpRecvDequeueSkb (env : Env n) (flow : Flow n) (skb : SkBuff) : Flow n :=
  (handOver env (bumpNr (countReceived env flow skb) skb) skb).deref

/-- One turn of the loop in `l2tp_recv_dequeue`. -/
def dequeueStep (env : Env n) (flow : Flow n) : Option (Flow n) :=
  match flow.session.reorderQ with
  | [] => none
  | skb :: rest =>
    if timeAfter env.jiffies skb.cb.expires then some (discardExpired env flow skb rest)
    else
      let flow := skipToHead flow skb
      if skb.cb.hasSeq ∧ skb.cb.ns ≠ flow.session.nr then none
      else
        let flow := flow.onSession fun session ↦ { session with reorderQ := rest }
        some (l2tpRecvDequeueSkb env flow skb)

/-- `l2tp_recv_dequeue`. -/
def l2tpRecvDequeue (env : Env n) (flow : Flow n) : Flow n :=
  drain (dequeueStep env) flow.session.reorderQ.length flow

/-- `l2tp_recv_common` up to the call of `l2tp_recv_dequeue`, or to its end when the frame is
discarded. Without reordering, every frame out of sequence is. -/
def recvEnqueue (flow : Flow n) (call : RecvCall n) : Flow n × Bool :=
  match recvAdmit flow.ref call with
  | (flow, .error skb) => (recvDiscard call.env flow skb, false)
  | (flow, .ok skb) =>
    if skb.cb.hasSeq then
      if flow.session.reorderTimeout ≠ 0 then (l2tpRecvQueueSkb call.env flow skb, true)
      else if skb.cb.ns ≠ flow.session.nr then
        let flow := flow.sessionStats call.env.cpu fun s ↦
          { s with rxSeqDiscards := s.rxSeqDiscards + 1 }
        (recvDiscard call.env flow skb, false)
      else (skbQueueTail flow skb, true)
    else (skbQueueTail flow skb, true)

/-- `l2tp_recv_common`. -/
def l2tpRecvCommon (flow : Flow n) (call : RecvCall n) : Flow n :=
  match recvEnqueue flow call with
  | (flow, true) => l2tpRecvDequeue call.env flow
  | (flow, false) => flow

/-! ### Creation and settings -/

/-- The session `l2tp_session_create` fills in: `reorder_skip` is not set. The fields for the window
and for the tracking of lost frames do not exist here, and nothing reads them. -/
def newSession (tunnel : L2tpTunnel n) (tunnelIndex : ℕ) (sessionId peerSessionId : UInt32)
    (cfg : L2tpSessionCfg) : L2tpSession n :=
  { L2tp.newSession tunnel tunnelIndex sessionId peerSessionId cfg with reorderSkip := false }

/-- What `l2tp_nl_cmd_session_modify` stores in a session. -/
def modifySession (request : SessionModifyRequest) (session : L2tpSession n) : L2tpSession n :=
  { session with
    recvSeq := if request.recvSeq.isSome then bitOf request.recvSeq else session.recvSeq
    sendSeq := if request.sendSeq.isSome then bitOf request.sendSeq else session.sendSeq
    lnsMode := if request.lnsMode.isSome then bitOf request.lnsMode else session.lnsMode
    reorderTimeout := (request.recvTimeout.map (·.toUInt32.toInt32)).getD session.reorderTimeout
    mtu := (request.mtu.map (·.toUInt32.toInt32)).getD session.mtu
    mru := (request.mru.map (·.toUInt32.toInt32)).getD session.mru }

/-- `pppol2tp_session_setsockopt`. -/
def pppol2tpSessionSetsockopt (session : L2tpSession n) (optname : SessionOption)
    (val jiffies : Int32) : L2tpSession n × Option Errno :=
  let set (change : Bool → L2tpSession n) : L2tpSession n × Option Errno :=
    if val ≠ 0 ∧ val ≠ 1 then (session, some .einval) else (change (val ≠ 0), none)
  match optname with
  | .recvSeq => set fun recvSeq ↦ { session with recvSeq }
  | .sendSeq => set fun sendSeq ↦ { session with sendSeq }
  | .lnsMode => set fun lnsMode ↦ { session with lnsMode }
  | .debug => (session, none)
  | .reorderTimeout => ({ session with reorderTimeout := jiffies }, none)
  | .unknown => (session, some .enoprotoopt)

/-! ### Runs -/

/-- One event in the life of a session. What is not named here is the same in both ports. -/
def sessionStep (flow : Flow n) : SessionEvent n → Flow n
  | .recv call => l2tpRecvCommon flow call
  | .modify request => flow.onSession (modifySession request)
  | .setsockopt optname val jiffies => flow.onSession fun session ↦
      (pppol2tpSessionSetsockopt session optname val jiffies).1
  | event => L2tp.sessionStep flow event

/-- The life of a session so far. -/
def sessionRun (flow : Flow n) (events : List (SessionEvent n)) : Flow n :=
  events.foldl sessionStep flow

/-- A new session, with what its pseudowire stores in it. -/
def newFlow (tunnel : L2tpTunnel n) (tunnelIndex : ℕ) (sessionId peerSessionId : UInt32)
    (cfg : L2tpSessionCfg) (hooks : SessionHooks) : Flow n where
  tunnel
  session :=
    { newSession tunnel tunnelIndex sessionId peerSessionId cfg with toSessionHooks := hooks }
  log := []

/-! ### What a received frame does to the send side -/

theorem keepsSendSide_handOver (env : Env n) (flow : Flow n) (skb : SkBuff) :
    KeepsSendSide flow (handOver env flow skb) := by
  have hemit : ∀ effect : Effect, effect.packet = none → KeepsSendSide flow (flow.emit effect) :=
    fun effect hnone ↦ .of_eq ⟨_, rfl⟩ ⟨_, _, _, _, _, _, rfl⟩ (by simp [sentPackets, hnone])
  unfold handOver
  cases flow.session.recvSkb with
  | none => exact hemit (.kfreeSkb skb) rfl
  | some handler =>
    refine (hemit (.recvSkb skb) rfl).trans ?_
    cases handler with
    | l2tpEthDevRecv =>
      dsimp only [callRecvHandler, l2tpEthDevRecv]
      split_ifs <;> exact .of_eq ⟨_, rfl⟩ ⟨_, _, _, _, _, _, rfl⟩ rfl
    | pppol2tpRecv =>
      dsimp only [callRecvHandler, pppol2tpRecv]
      split
      · exact .refl _
      · split_ifs <;> exact .of_eq ⟨_, rfl⟩ ⟨_, _, _, _, _, _, rfl⟩ rfl

theorem keepsSendSide_bumpNr (flow : Flow n) (skb : SkBuff) :
    KeepsSendSide flow (bumpNr flow skb) := by
  have hset : ∀ nr, KeepsSendSide flow (setNr flow nr) := fun nr ↦
    .of_eq ⟨_, rfl⟩ ⟨_, _, _, _, _, _, rfl⟩ (by simp [setNr, sentPackets, Effect.packet])
  unfold bumpNr
  split_ifs
  · exact hset _
  · exact hset _
  · exact .refl flow

theorem keepsSendSide_l2tpRecvDequeueSkb (env : Env n) (flow : Flow n) (skb : SkBuff) :
    KeepsSendSide flow (l2tpRecvDequeueSkb env flow skb) := by
  have hcount : KeepsSendSide flow (countReceived env flow skb) :=
    .of_eq ⟨_, rfl⟩ ⟨_, _, _, _, _, _, rfl⟩ rfl
  exact ((hcount.trans (keepsSendSide_bumpNr _ skb)).trans (keepsSendSide_handOver env _ skb)).trans
    (.deref _)

theorem keepsSendSide_dequeueStep {env : Env n} {flow flow' : Flow n}
    (hstep : dequeueStep env flow = some flow') : KeepsSendSide flow flow' := by
  unfold dequeueStep at hstep
  split at hstep
  · exact absurd hstep (by simp)
  · rename_i skb rest hqueue
    dsimp only at hstep
    split_ifs at hstep
    · rw [← Option.some.inj hstep]
      exact .discardExpired env flow skb rest
    · rw [← Option.some.inj hstep]
      have htaken : KeepsSendSide (skipToHead flow skb) ((skipToHead flow skb).onSession
          fun session ↦ { session with reorderQ := rest }) :=
        .of_eq ⟨_, rfl⟩ ⟨_, _, _, _, _, _, rfl⟩ rfl
      exact ((KeepsSendSide.skipToHead flow skb).trans htaken).trans
        (keepsSendSide_l2tpRecvDequeueSkb env _ skb)

theorem keepsSendSide_recvEnqueue (flow : Flow n) (call : RecvCall n) :
    KeepsSendSide (recvSwitch flow call) (recvEnqueue flow call).1 := by
  have hadmitted := KeepsSendSide.recvAdmit flow call
  unfold recvEnqueue
  revert hadmitted
  obtain ⟨flow', skb | skb⟩ := recvAdmit flow.ref call
  · exact fun hadmitted ↦ hadmitted.trans (.recvDiscard call.env flow' skb)
  · intro hadmitted
    dsimp only
    split_ifs
    · exact hadmitted.trans (.l2tpRecvQueueSkb call.env flow' skb)
    · have hcount : KeepsSendSide flow' (flow'.sessionStats call.env.cpu fun s ↦
          { s with rxSeqDiscards := s.rxSeqDiscards + 1 }) :=
        .of_eq ⟨_, rfl⟩ ⟨_, _, _, _, _, _, rfl⟩ rfl
      exact (hadmitted.trans hcount).trans (.recvDiscard call.env _ skb)
    · exact hadmitted.trans (.skbQueueTail flow' skb)
    · exact hadmitted.trans (.skbQueueTail flow' skb)

/-- A received frame does to the send side what it does in the other port. -/
theorem keepsSendSide_l2tpRecvCommon (flow : Flow n) (call : RecvCall n) :
    KeepsSendSide (recvSwitch flow call) (l2tpRecvCommon flow call) := by
  have henqueue := keepsSendSide_recvEnqueue flow call
  unfold l2tpRecvCommon
  revert henqueue
  obtain ⟨flow', queued | queued⟩ := recvEnqueue flow call
  · exact fun henqueue ↦ henqueue
  · intro henqueue
    exact drain_induction _ flow' henqueue fun _ _ ht hstep ↦
      ht.trans (keepsSendSide_dequeueStep hstep)

end Port31059

end KernelModules.L2tp
