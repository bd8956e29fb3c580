import KernelModules.L2tp.DataPath

/-!
# The life of one session

Everything that happens to one session from its creation on: frames that come in and go out, changes
of its settings, a socket that is connected to it, and what others do to its tunnel meanwhile, which
may be anything that leaves its id, version, encapsulation and table alone.

The send side of a session is what a transmission depends on. A received frame can switch
`send_seq`, and then sets the header length again; `recvSwitch` is all that it does to the send side
(`KeepsSendSide.l2tpRecvCommon`), whatever the reorder queue makes of the frame.
-/

set_option autoImplicit false
set_option relaxedAutoImplicit false

namespace KernelModules.L2tp

open Foundations

variable {n : ℕ}

/-! ### Events -/

/-- What can happen to a session. -/
inductive SessionEvent (n : ℕ)
  | recv (call : RecvCall n)
  | purge (env : Env n)
  | ethXmit (env : XmitEnv n) (skb : SkBuff)
  | pppXmit (env : XmitEnv n) (skb : SkBuff)
  | sendmsg (env : XmitEnv n) (call : SendmsgCall)
  | modify (request : SessionModifyRequest)
  | setsockopt (optname : SessionOption) (val jiffies : Int32)
  | connect (call : ConnectCall) (tunnelSock : Option ℕ)
  | tunnel (stats : Fin n → L2tpStats) (peerTunnelId : UInt32)
      (recvPayloadHook : Option PayloadHook)
      (sock : Option ℕ)

/-- `pppol2tp_xmit` on the session of a connected socket. -/
def pppXmitFlow (env : XmitEnv n) (flow : Flow n) (skb : SkBuff) : Flow n :=
  if flow.session.ps.tunnelSock.isSome && flow.tunnel.sock = flow.session.ps.tunnelSock then
    pppol2tpXmitFlow env flow skb
  else flow

/-- One event. -/
def sessionStep (flow : Flow n) : SessionEvent n → Flow n
  | .recv call => l2tpRecvCommon flow call
  | .purge env => l2tpSessionQueuePurge env flow
  | .ethXmit env skb => l2tpEthDevXmit env flow skb
  | .pppXmit env skb => pppXmitFlow env flow skb
  | .sendmsg env call => pppol2tpSendmsgFlow env call flow
  | .modify request => flow.onSession (modifySession flow.tunnel request)
  | .setsockopt optname val jiffies => flow.onSession fun session ↦
      (pppol2tpSessionSetsockopt flow.tunnel session optname val jiffies).1
  | .connect call tunnelSock => flow.onSession (attachSocket call tunnelSock)
  | .tunnel stats peerTunnelId recvPayloadHook sock =>
    { flow with tunnel := { flow.tunnel with stats, peerTunnelId, recvPayloadHook, sock } }

/-- The life of a session so far. -/
def sessionRun (flow : Flow n) (events : List (SessionEvent n)) : Flow n :=
  events.foldl sessionStep flow

/-- A new session, with what its pseudowire stores in it. -/
def newFlow (tunnel : L2tpTunnel n) (tunnelIndex : ℕ) (sessionId peerSessionId : UInt32)
    (cfg : L2tpSessionCfg) (hooks : SessionHooks) : Flow n where
  tunnel
  session :=
    { newSession tunnel tunnelIndex sessionId peerSessionId cfg with toSessionHooks := hooks }
  log := []

/-! ### The send side -/

/-- The bytes of a packet that is given to the network. -/
def Effect.packet : Effect → Option (List UInt8)
  | .ipQueueXmit skb => some skb.data
  | _ => none

/-- The packets that have been given to the network. -/
def sentPackets (log : List Effect) : List (List UInt8) := log.filterMap Effect.packet

@[simp] theorem sentPackets_append (log log' : List Effect) :
    sentPackets (log ++ log') = sentPackets log ++ sentPackets log' :=
  List.filterMap_append

@[simp] theorem sentPackets_refEffects (hooks : SessionHooks) :
    sentPackets hooks.refEffects = [] := by
  unfold SessionHooks.refEffects
  split_ifs <;> rfl

@[simp] theorem sentPackets_derefEffects (hooks : SessionHooks) :
    sentPackets hooks.derefEffects = [] := by
  unfold SessionHooks.derefEffects
  split_ifs <;> rfl

/-- What a transmission depends on stays as it is, and nothing is sent. -/
structure KeepsSendSide (first flow : Flow n) : Prop extends KeepsSetup first flow where
  recvSeq : flow.session.recvSeq = first.session.recvSeq
  sendSeq : flow.session.sendSeq = first.session.sendSeq
  lnsMode : flow.session.lnsMode = first.session.lnsMode
  hdrLen : flow.session.hdrLen = first.session.hdrLen
  ns : flow.session.ns = first.session.ns
  packets : sentPackets flow.log = sentPackets first.log

/-- What a received frame does to the send side: if its cookie is right, the policy on sequence
numbers may switch `send_seq`. -/
def recvSwitch (flow : Flow n) (call : RecvCall n) : Flow n :=
  match (recvCookie flow.session.toSessionParams call.skb call.ptr).bind fun ptr ↦
      recvSeqPolicy flow.tunnel flow.session
        (sequencedFrame flow.tunnel.version flow.session.toSessionParams call ptr).cb.hasSeq with
  | none => flow
  | some session => { flow with session }

namespace KeepsSendSide

/-- What is not read by a transmission does not matter. -/
theorem of_eq {first flow : Flow n}
    (htunnel : ∃ stats, flow.tunnel = { first.tunnel with stats })
    (hsession : ∃ counters nr reorderQ nrOos nrOosCount reorderSkip, flow.session =
      { first.session with
        toSessionCounters := counters, nr, reorderQ, nrOos, nrOosCount, reorderSkip })
    (hpackets : sentPackets flow.log = sentPackets first.log) : KeepsSendSide first flow := by
  obtain ⟨counters, nr, reorderQ, nrOos, nrOosCount, reorderSkip, hsession⟩ := hsession
  refine ⟨⟨?_, ?_, htunnel⟩, ?_, ?_, ?_, ?_, ?_, hpackets⟩
  all_goals rw [hsession]

theorem refl (flow : Flow n) : KeepsSendSide flow flow :=
  of_eq ⟨_, rfl⟩ ⟨_, _, _, _, _, _, rfl⟩ rfl

theorem trans {first middle last : Flow n} (hfirst : KeepsSendSide first middle)
    (hlast : KeepsSendSide middle last) : KeepsSendSide first last where
  toKeepsSetup := hfirst.toKeepsSetup.trans hlast.toKeepsSetup
  recvSeq := hlast.recvSeq.trans hfirst.recvSeq
  sendSeq := hlast.sendSeq.trans hfirst.sendSeq
  lnsMode := hlast.lnsMode.trans hfirst.lnsMode
  hdrLen := hlast.hdrLen.trans hfirst.hdrLen
  ns := hlast.ns.trans hfirst.ns
  packets := hlast.packets.trans hfirst.packets

theorem deref (flow : Flow n) : KeepsSendSide flow flow.deref := by
  rw [Flow.deref_eq]
  exact of_eq ⟨_, rfl⟩ ⟨_, _, _, _, _, _, rfl⟩ (by simp)

theorem recvDiscard (env : Env n) (flow : Flow n) (skb : SkBuff) :
    KeepsSendSide flow (L2tp.recvDiscard env flow skb) := by
  unfold L2tp.recvDiscard
  refine trans ?_ (deref _)
  exact of_eq ⟨_, rfl⟩ ⟨_, _, _, _, _, _, rfl⟩ (by simp [sentPackets, Effect.packet])

theorem discardExpired (env : Env n) (flow : Flow n) (skb : SkBuff) (rest : List SkBuff) :
    KeepsSendSide flow (L2tp.discardExpired env flow skb rest) := by
  unfold L2tp.discardExpired
  refine trans ?_ (deref _)
  exact of_eq ⟨_, rfl⟩ ⟨_, _, _, _, _, _, rfl⟩ (by simp [sentPackets, Effect.packet])

theorem skipToHead (flow : Flow n) (skb : SkBuff) :
    KeepsSendSide flow (L2tp.skipToHead flow skb) := by
  unfold L2tp.skipToHead
  split_ifs
  · exact of_eq ⟨_, rfl⟩ ⟨_, _, _, _, _, _, rfl⟩ (by simp [setNr, sentPackets, Effect.packet])
  · exact refl flow

theorem skbQueueTail (flow : Flow n) (skb : SkBuff) :
    KeepsSendSide flow (L2tp.skbQueueTail flow skb) :=
  of_eq ⟨_, rfl⟩ ⟨_, _, _, _, _, _, rfl⟩ rfl

theorem l2tpRecvQueueSkb (env : Env n) (flow : Flow n) (skb : SkBuff) :
    KeepsSendSide flow (L2tp.l2tpRecvQueueSkb env flow skb) := by
  obtain ⟨counters, heq⟩ := l2tpRecvQueueSkb_eq env flow skb
  rw [heq]
  exact of_eq ⟨_, rfl⟩ ⟨_, _, _, _, _, _, rfl⟩ rfl

theorem l2tpRecvDequeueSkb (env : Env n) (flow : Flow n) (skb : SkBuff) :
    KeepsSendSide flow (L2tp.l2tpRecvDequeueSkb env flow skb) := by
  obtain ⟨tstats, counters, heq⟩ := l2tpRecvDequeueSkb_eq env flow skb
  have hnr : sentPackets (nrEffects flow.session skb) = [] := by
    unfold nrEffects
    split_ifs <;> rfl
  have hhand : sentPackets [handOverEffect flow.session.toSessionHooks skb] = [] := by
    unfold handOverEffect
    split_ifs <;> rfl
  rw [heq]
  refine of_eq ⟨_, rfl⟩ ⟨_, _, _, _, _, _, rfl⟩ ?_
  have hlog : (afterDequeueSkb flow skb).log = flow.log ++ (nrEffects flow.session skb ++
      ([handOverEffect flow.session.toSessionHooks skb] ++ flow.session.derefEffects)) := rfl
  simp only [Flow.log_withStats, hlog, sentPackets_append, hnr, hhand, sentPackets_derefEffects,
    List.append_nil]

theorem dequeueStep {env : Env n} {flow flow' : Flow n}
    (hstep : L2tp.dequeueStep env flow = some flow') : KeepsSendSide flow flow' := by
  obtain ⟨skb, rest, -, ⟨-, rfl⟩ | ⟨-, -, rfl⟩⟩ := dequeueStep_eq_some hstep
  · exact discardExpired env flow skb rest
  · have htaken : KeepsSendSide (L2tp.skipToHead flow skb) ((L2tp.skipToHead flow skb).onSession
        fun session ↦ { session with reorderQ := rest }) :=
      of_eq ⟨_, rfl⟩ ⟨_, _, _, _, _, _, rfl⟩ rfl
    exact ((skipToHead flow skb).trans htaken).trans (l2tpRecvDequeueSkb env _ skb)

theorem l2tpSessionQueuePurge (env : Env n) (flow : Flow n) :
    KeepsSendSide flow (L2tp.l2tpSessionQueuePurge env flow) := by
  refine drain_induction _ _ (refl flow) fun t t' ht hstep ↦ ht.trans ?_
  obtain ⟨skb, rest, -, rfl⟩ := purgeStep_eq_some hstep
  have htaken : KeepsSendSide t (t.onSession fun session ↦ { session with reorderQ := rest }) :=
    of_eq ⟨_, rfl⟩ ⟨_, _, _, _, _, _, rfl⟩ rfl
  exact htaken.trans (recvDiscard env _ skb)

theorem l2tpRecvDataSeq (env : Env n) (flow : Flow n) (skb : SkBuff) :
    KeepsSendSide flow (L2tp.l2tpRecvDataSeq env flow skb).1 := by
  rcases l2tpRecvDataSeq_cases env flow skb with
    ⟨-, heq⟩ | ⟨-, ⟨-, heq⟩ | ⟨-, ⟨-, heq⟩ | ⟨-, ⟨-, heq⟩ | ⟨-, heq⟩⟩⟩⟩
  · rw [heq]
    exact refl flow
  · rw [heq]
    exact l2tpRecvQueueSkb env flow skb
  all_goals
    rw [heq]
    exact of_eq ⟨_, rfl⟩ ⟨_, _, _, _, _, _, rfl⟩ rfl

/-- Taking a reference does not matter to the switch. -/
theorem recvSwitch_ref (flow : Flow n) (call : RecvCall n) :
    KeepsSendSide (recvSwitch flow call) (recvSwitch flow.ref call) := by
  rw [Flow.ref_eq]
  unfold recvSwitch
  dsimp only
  split
  · exact of_eq ⟨_, rfl⟩ ⟨_, _, _, _, _, _, rfl⟩ (by simp)
  · exact of_eq ⟨_, rfl⟩ ⟨_, _, _, _, _, _, rfl⟩ (by simp)

/-- Admission does to the send side what `recvSwitch` says. -/
theorem recvAdmit (flow : Flow n) (call : RecvCall n) :
    KeepsSendSide (recvSwitch flow call) (L2tp.recvAdmit flow.ref call).1 := by
  refine (recvSwitch_ref flow call).trans ?_
  generalize flow.ref = flow
  unfold L2tp.recvAdmit recvSwitch
  dsimp only
  generalize flow.tunnel.version = version
  generalize flow.session.toSessionParams = params
  cases recvCookie params call.skb call.ptr with
  | none => exact of_eq ⟨_, rfl⟩ ⟨_, _, _, _, _, _, rfl⟩ rfl
  | some ptr =>
    dsimp only [Option.bind_some]
    cases recvSeqPolicy flow.tunnel flow.session
      (sequencedFrame version params call ptr).cb.hasSeq with
    | none => exact of_eq ⟨_, rfl⟩ ⟨_, _, _, _, _, _, rfl⟩ rfl
    | some session =>
      dsimp only
      split
      · exact refl _
      · exact refl _

theorem recvEnqueue (flow : Flow n) (call : RecvCall n) :
    KeepsSendSide (recvSwitch flow call) (L2tp.recvEnqueue flow call).1 := by
  have hadmitted := recvAdmit flow call
  unfold L2tp.recvEnqueue
  revert hadmitted
  obtain ⟨flow', skb | skb⟩ := L2tp.recvAdmit flow.ref call
  · exact fun hadmitted ↦ hadmitted.trans (recvDiscard call.env flow' skb)
  · intro hadmitted
    dsimp only
    cases skb.cb.hasSeq with
    | false => exact hadmitted.trans (skbQueueTail flow' skb)
    | true =>
      have hseq := l2tpRecvDataSeq call.env flow' skb
      simp only [if_true]
      revert hseq
      obtain ⟨flow'', discard | discard⟩ := L2tp.l2tpRecvDataSeq call.env flow' skb
      · exact fun hseq ↦ hadmitted.trans hseq
      · exact fun hseq ↦ (hadmitted.trans hseq).trans (recvDiscard call.env flow'' skb)

/-- A received frame does to the send side what `recvSwitch` says. -/
theorem l2tpRecvCommon (flow : Flow n) (call : RecvCall n) :
    KeepsSendSide (recvSwitch flow call) (L2tp.l2tpRecvCommon flow call) := by
  have henqueue := recvEnqueue flow call
  unfold L2tp.l2tpRecvCommon
  revert henqueue
  obtain ⟨flow', queued | queued⟩ := L2tp.recvEnqueue flow call
  · exact fun henqueue ↦ henqueue
  · intro henqueue
    exact drain_induction _ flow' henqueue fun _ _ ht hstep ↦ ht.trans (dequeueStep hstep)

end KeepsSendSide

end KernelModules.L2tp
