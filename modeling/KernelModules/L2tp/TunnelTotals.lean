import KernelModules.Foundations.Accounts
import KernelModules.L2tp.System

/-!
# A tunnel counts what its sessions count

Frames that leave the reorder queue and frames given to the network are counted twice, on the
session and on its tunnel. Everything else is counted on the session only: refused frames, discarded
ones, and those a socket did not take. So five of the counters of a tunnel are the sums of those
counters over its sessions, and since a session that is deleted keeps what it has counted, over all
sessions it ever had.

`imbalance` is by how much a tunnel is ahead of one of its sessions. No function of the data path
changes it (`imbalance_dataPath`), and new tunnels and sessions start from zero, so the books of a
namespace are balanced after every run (`balanced_netRun`).
-/

set_option autoImplicit false
set_option relaxedAutoImplicit false

namespace KernelModules.L2tp

open Foundations Accounts

variable {n : ℕ}

/-- The five counters that a tunnel keeps for its sessions: received packets and bytes, and sent
packets, bytes and errors. -/
abbrev Carried : Type := UInt64 × UInt64 × UInt64 × UInt64 × UInt64

/-- The five counters of a cell. -/
def carried (s : L2tpStats) : Carried :=
  (s.rxPackets, s.rxBytes, s.txPackets, s.txBytes, s.txErrors)

/-- The totals of the five counters over all processors. -/
def carriedTotal (stats : Fin n → L2tpStats) : Carried := ∑ cpu, carried (stats cpu)

/-! ### The data path -/

/-- By how much the tunnel is ahead of the session. -/
def imbalance (flow : Flow n) : Carried :=
  carriedTotal flow.tunnel.stats - carriedTotal flow.session.stats

section

variable (flow : Flow n) (cpu : Fin n)

/-- The session counts something that is not the tunnel's business. -/
theorem imbalance_sessionStats {change : L2tpStats → L2tpStats}
    (hchange : ∀ s, carried (change s) = carried s) :
    imbalance (flow.sessionStats cpu change) = imbalance flow := by
  have htotal : carriedTotal (onCpu flow.session.stats cpu change) =
      carriedTotal flow.session.stats := sum_onCpu_of_eq carried _ cpu hchange
  simp only [imbalance, Flow.session_sessionStats, Flow.tunnel_sessionStats, htotal]

/-- The tunnel and the session count the same. -/
theorem imbalance_bothStats {change : L2tpStats → L2tpStats} (amount : Carried)
    (hchange : ∀ s, carried (change s) = carried s + amount) :
    imbalance ((flow.tunnelStats cpu change).sessionStats cpu change) = imbalance flow := by
  have htotal : ∀ stats : Fin n → L2tpStats,
      carriedTotal (onCpu stats cpu change) = carriedTotal stats + amount :=
    fun stats ↦ sum_onCpu carried stats cpu hchange
  simp only [imbalance, Flow.session_sessionStats, Flow.tunnel_sessionStats,
    Flow.session_tunnelStats, Flow.tunnel_tunnelStats, htotal, add_sub_add_right_eq_sub]

@[simp] theorem imbalance_ref : imbalance flow.ref = imbalance flow := by
  rw [Flow.ref_eq]
  rfl

@[simp] theorem imbalance_deref : imbalance flow.deref = imbalance flow := by
  rw [Flow.deref_eq]
  rfl

end

section

variable (env : Env n) (flow : Flow n) (skb : SkBuff)

theorem imbalance_callRecvHandler (handler : RecvHandler) :
    imbalance (callRecvHandler handler env flow skb) = imbalance flow := by
  cases handler with
  | l2tpEthDevRecv =>
    unfold callRecvHandler l2tpEthDevRecv
    dsimp only
    split_ifs <;> rfl
  | pppol2tpRecv =>
    unfold callRecvHandler pppol2tpRecv
    dsimp only
    split
    · rfl
    · split_ifs
      · rfl
      · exact imbalance_sessionStats flow env.cpu fun _ ↦ rfl

theorem imbalance_handOver : imbalance (handOver env flow skb) = imbalance flow := by
  unfold handOver
  split
  · exact imbalance_callRecvHandler env _ skb _
  · rfl

theorem imbalance_countReceived : imbalance (countReceived env flow skb) = imbalance flow := by
  apply imbalance_bothStats flow env.cpu (1, skb.cb.length.toUInt64, 0, 0, 0)
  intro s
  simp [carried]

theorem imbalance_l2tpRecvDequeueSkb :
    imbalance (l2tpRecvDequeueSkb env flow skb) = imbalance flow := by
  unfold l2tpRecvDequeueSkb
  rw [imbalance_deref, imbalance_handOver, bumpNr_eq]
  exact imbalance_countReceived env flow skb

theorem imbalance_dequeueStep {flow' : Flow n} (hstep : dequeueStep env flow = some flow') :
    imbalance flow' = imbalance flow := by
  obtain ⟨skb, rest, -, ⟨-, rfl⟩ | ⟨-, -, rfl⟩⟩ := dequeueStep_eq_some hstep
  · rw [discardExpired, imbalance_deref]
    exact imbalance_sessionStats flow env.cpu fun _ ↦ rfl
  · rw [imbalance_l2tpRecvDequeueSkb, skipToHead_eq]
    rfl

theorem imbalance_recvDiscard : imbalance (recvDiscard env flow skb) = imbalance flow := by
  unfold recvDiscard
  rw [imbalance_deref]
  exact imbalance_sessionStats flow env.cpu fun _ ↦ rfl

theorem imbalance_l2tpRecvDataSeq :
    imbalance (l2tpRecvDataSeq env flow skb).1 = imbalance flow := by
  rcases l2tpRecvDataSeq_cases env flow skb with
    ⟨-, heq⟩ | ⟨-, ⟨-, heq⟩ | ⟨-, ⟨-, heq⟩ | ⟨-, ⟨-, heq⟩ | ⟨-, heq⟩⟩⟩⟩
  · rw [heq]
  · rw [heq]
    unfold l2tpRecvQueueSkb
    dsimp only
    split_ifs
    · exact imbalance_sessionStats _ env.cpu fun _ ↦ rfl
    · rfl
  · rw [heq]
    rfl
  · rw [heq]
    exact imbalance_sessionStats (trackOos flow skb.cb.ns) env.cpu fun _ ↦ rfl
  · rw [heq]
    rfl

theorem imbalance_recvAdmit (call : RecvCall n) :
    imbalance (recvAdmit flow call).1 = imbalance flow := by
  unfold recvAdmit
  dsimp only
  split
  · exact imbalance_sessionStats flow call.env.cpu fun _ ↦ rfl
  · split
    · exact imbalance_sessionStats flow call.env.cpu fun _ ↦ rfl
    · rename_i hpolicy
      obtain ⟨sendSeq, hdrLen, rfl⟩ := recvSeqPolicy_eq hpolicy
      split <;> rfl

theorem imbalance_recvEnqueue (call : RecvCall n) :
    imbalance (recvEnqueue flow call).1 = imbalance flow := by
  have haccept := imbalance_recvAdmit flow.ref call
  unfold recvEnqueue
  revert haccept
  obtain ⟨flow', skb | skb⟩ := recvAdmit flow.ref call
  · intro haccept
    exact (imbalance_recvDiscard call.env flow' skb).trans (by simpa using haccept)
  · intro haccept
    rw [imbalance_ref] at haccept
    dsimp only
    cases skb.cb.hasSeq with
    | false => exact haccept
    | true =>
      have hseq := imbalance_l2tpRecvDataSeq call.env flow' skb
      simp only [if_true]
      revert hseq
      obtain ⟨flow'', discard | discard⟩ := l2tpRecvDataSeq call.env flow' skb
      · exact fun hseq ↦ hseq.trans haccept
      · exact fun hseq ↦ (imbalance_recvDiscard call.env flow'' skb).trans (hseq.trans haccept)

theorem imbalance_l2tpRecvCommon (call : RecvCall n) :
    imbalance (l2tpRecvCommon flow call) = imbalance flow := by
  refine l2tpRecvCommon_induction (P := fun turn ↦ imbalance turn = imbalance flow)
    (imbalance_recvEnqueue flow call) fun turn turn' hturn hstep ↦ ?_
  exact (imbalance_dequeueStep call.env turn hstep).trans hturn

theorem imbalance_l2tpSessionQueuePurge :
    imbalance (l2tpSessionQueuePurge env flow) = imbalance flow := by
  apply drain_induction (P := fun t ↦ imbalance t = imbalance flow) _ flow rfl
  intro t t' ht hstep
  obtain ⟨skb, rest, -, rfl⟩ := purgeStep_eq_some hstep
  rw [imbalance_recvDiscard]
  exact ht

theorem imbalance_l2tpXmitCore (env : XmitEnv n) :
    imbalance (l2tpXmitCore env flow skb) = imbalance flow := by
  apply imbalance_bothStats (flow.emit (.ipQueueXmit skb)) env.cpu
    (if env.ipQueueXmit then (0, 0, 1, (UInt32.ofNat skb.len).toUInt64, 0) else (0, 0, 0, 0, 1))
  intro s
  split_ifs <;> simp [carried]

end

/-- No function of the data path puts a tunnel ahead of its session. -/
theorem imbalance_dataPath {f : Flow n → Flow n} (hf : DataPath f) (flow : Flow n) :
    imbalance (f flow) = imbalance flow := by
  rcases hf.cases flow with ⟨call, heq⟩ | ⟨env, heq⟩ | hsends | hsets
  · rw [heq]
    exact imbalance_l2tpRecvCommon flow call
  · rw [heq]
    exact imbalance_l2tpSessionQueuePurge env flow
  · obtain heq | ⟨ns, packet, dstats, heq | ⟨env, heq⟩⟩ := hsends.sends
    · rw [heq]
    · rw [heq]
      rfl
    · rw [heq, imbalance_l2tpXmitCore]
      rfl
  · obtain ⟨_, _, _, _, _, _, _, heq⟩ := hsets
    rw [heq]
    rfl

/-! ### Whole runs -/

/-- What a tunnel has counted. -/
def L2tpTunnel.account (tunnel : L2tpTunnel n) : Carried := carriedTotal tunnel.stats

/-- What a session has counted, with the number of its tunnel. -/
def L2tpSession.account (session : L2tpSession n) : ℕ × Carried :=
  (session.tunnel, carriedTotal session.stats)

/-- The books of a namespace. -/
def L2tpNet.accounts (net : L2tpNet n) : Accounts Carried where
  parents := net.tunnels.map L2tpTunnel.account
  children := net.sessions.map L2tpSession.account

theorem carriedTotal_zero : carriedTotal (fun _ : Fin n ↦ {}) = 0 := Finset.sum_const_zero

theorem accounts_onTunnel {change : L2tpTunnel n → L2tpTunnel n}
    (hchange : ∀ tunnel, (change tunnel).stats = tunnel.stats) (net : L2tpNet n) (t : ℕ) :
    (net.onTunnel t change).accounts = net.accounts := by
  have hview : ∀ tunnel, (change tunnel).account = tunnel.account := by
    intro tunnel
    rw [L2tpTunnel.account, hchange, L2tpTunnel.account]
  simp only [L2tpNet.accounts, L2tpNet.onTunnel, map_modify_of_eq hview]

theorem accounts_onSession {change : L2tpSession n → L2tpSession n}
    (hparams : ∀ session, (change session).toSessionParams = session.toSessionParams)
    (hcounters : ∀ session, (change session).toSessionCounters = session.toSessionCounters)
    (net : L2tpNet n) (i : ℕ) : (net.onSession i change).accounts = net.accounts := by
  have hview : ∀ session, (change session).account = session.account := by
    intro session
    rw [L2tpSession.account, hparams, hcounters, L2tpSession.account]
  simp only [L2tpNet.accounts, L2tpNet.onSession, map_modify_of_eq hview]

theorem accounts_hlistDelInit (net : L2tpNet n) (i : ℕ) :
    (hlistDelInit net i).accounts = net.accounts := by
  unfold hlistDelInit
  split
  · rfl
  · apply accounts_onTunnel
    intro tunnel
    rfl

theorem accounts_l2tpSessionUnhash (net : L2tpNet n) (i : ℕ) :
    (l2tpSessionUnhash net i).accounts = net.accounts :=
  accounts_hlistDelInit net i

/-- What runs on a session posts the same to the session and to its tunnel. -/
theorem balanced_onFlow {f : Flow n → Flow n}
    (hparams : ∀ flow, (f flow).session.toSessionParams = flow.session.toSessionParams)
    (himbalance : ∀ flow, imbalance (f flow) = imbalance flow) {net : L2tpNet n}
    (hbalanced : Balanced net.accounts) (i : ℕ) : Balanced (net.onFlow i f).accounts := by
  unfold L2tpNet.onFlow
  cases hflow : net.flow i with
  | none => exact hbalanced
  | some flow =>
    obtain ⟨hsession, htunnel, -⟩ := L2tpNet.flow_eq_some hflow
    have hchild : net.accounts.children[i]? =
        some (flow.session.tunnel, carriedTotal flow.session.stats) := by
      rw [L2tpNet.accounts, List.getElem?_map, hsession]
      rfl
    have hparent : net.accounts.parents[flow.session.tunnel]? =
        some (carriedTotal flow.tunnel.stats) := by
      rw [L2tpNet.accounts, List.getElem?_map, htunnel]
      rfl
    have hpost := hbalanced.post hchild hparent (himbalance flow)
    simp only [L2tpNet.accounts, L2tpNet.store, List.map_set, L2tpSession.account, hparams]
    exact hpost

theorem Upkeep.balanced {net net' : L2tpNet n} (hupkeep : Upkeep net net')
    (hbalanced : Balanced net.accounts) : Balanced net'.accounts := by
  have hpurge : ∀ env : Env n, ∀ flow, (l2tpSessionQueuePurge env flow).session.toSessionParams =
      flow.session.toSessionParams := fun env flow ↦
        (KeepsSetup.l2tpSessionQueuePurge env flow).params
  cases hupkeep with
  | data _ i hf =>
    exact balanced_onFlow (fun flow ↦ (hf.keepsSetup flow).params)
      (imbalance_dataPath hf) hbalanced i
  | delete env _ i =>
    have href := balanced_onFlow (fun flow ↦ by rw [Flow.session_ref]) imbalance_ref hbalanced i
    rw [← accounts_l2tpSessionUnhash _ i] at href
    have hqueue := balanced_onFlow (hpurge env) (imbalance_l2tpSessionQueuePurge env) href i
    exact balanced_onFlow (fun flow ↦ by rw [Flow.session_deref]) imbalance_deref hqueue i
  | unlink _ i =>
    rw [accounts_hlistDelInit]
    exact hbalanced
  | unhash _ i =>
    rw [accounts_l2tpSessionUnhash]
    exact hbalanced
  | tunnelCreate _ version tunnelId peerTunnelId encap sk =>
    have hzero : (newTunnel n version tunnelId peerTunnelId encap sk).account = 0 :=
      carriedTotal_zero
    have hopen := hbalanced.openParent
    simp only [L2tpNet.accounts, List.map_append, List.map_cons, List.map_nil, hzero]
    exact hopen
  | tunnel _ t hchange =>
    rw [accounts_onTunnel hchange.stats]
    exact hbalanced
  | session _ i hchange =>
    rw [accounts_onSession hchange.params hchange.counters]
    exact hbalanced
  | socks _ socks => exact hbalanced
  | tunnelList _ tunnelList => exact hbalanced

theorem Upkeeps.balanced {net net' : L2tpNet n} (hupkeeps : Upkeeps net net')
    (hbalanced : Balanced net.accounts) : Balanced net'.accounts := by
  have hstep : ∀ mid mid' : L2tpNet n, Upkeep mid mid' → Balanced mid.accounts →
      Balanced mid'.accounts := fun _ _ hupkeep ↦ hupkeep.balanced
  exact Upkeeps.invariant hstep hupkeeps hbalanced

/-- A new session has counted nothing. -/
theorem balanced_l2tpSessionCreate {hash : SessionHash} {net : L2tpNet n} {t : ℕ}
    {tunnel : L2tpTunnel n} (hbalanced : Balanced net.accounts)
    (htunnel : net.tunnels[t]? = some tunnel)
    (sessionId peerSessionId : UInt32) (cfg : L2tpSessionCfg) :
    Balanced (l2tpSessionCreate hash net t tunnel sessionId peerSessionId cfg).accounts := by
  obtain ⟨hdrLen, hnew⟩ := newSession_eq tunnel t sessionId peerSessionId cfg
  have haccount : (newSession tunnel t sessionId peerSessionId cfg).account = (t, 0) := by
    rw [hnew, L2tpSession.account, carriedTotal_zero]
    rfl
  have hparent : net.accounts.parents[t]? = some tunnel.account := by
    rw [L2tpNet.accounts, List.getElem?_map, htunnel, Option.map_some]
  have hbound : t < net.accounts.parents.length := (List.getElem?_eq_some_iff.mp hparent).1
  have hopen := hbalanced.openChild hbound
  have hsame : ∀ sessionHlist, net.accounts.parents.set t
      (L2tpTunnel.account { tunnel with sessionHlist }) = net.accounts.parents :=
    fun _ ↦ set_of_getElem? hparent
  simp only [L2tpNet.accounts] at hsame hopen
  simp only [L2tpNet.accounts, l2tpSessionCreate, List.map_set, List.map_append, List.map_cons,
    List.map_nil, haccount, hsame]
  exact hopen

/-- An event keeps the books balanced. -/
theorem balanced_netStep (hash : SessionHash) {net : L2tpNet n} (hbalanced : Balanced net.accounts)
    (event : NetEvent n) : Balanced (netStep hash net event).accounts := by
  have hattach : ∀ (mid : L2tpNet n) (i : ℕ) (call : ConnectCall) (tunnelSock : Option ℕ),
      (mid.onSession i (attachSocket call tunnelSock)).accounts = mid.accounts := by
    intro mid i call tunnelSock
    apply accounts_onSession
    · intro session
      rfl
    · intro session
      rfl
  cases netStep_transition hash net event with
  | upkeep hupkeeps => exact hupkeeps.balanced hbalanced
  | create hcreates hupkeeps =>
    apply hupkeeps.balanced
    exact balanced_l2tpSessionCreate (hcreates.before.balanced hbalanced) hcreates.found _ _ _
  | createConnected hcreates hupkeeps =>
    apply hupkeeps.balanced
    rw [hattach]
    exact balanced_l2tpSessionCreate (hcreates.before.balanced hbalanced) hcreates.found _ _ _
  | connect hconnects hupkeeps =>
    apply hupkeeps.balanced
    rw [hattach]
    exact hconnects.before.balanced hbalanced

/-- The books are balanced after every run. -/
theorem balanced_netRun (hash : SessionHash) (events : List (NetEvent n)) :
    Balanced (netRun hash (emptyNet n) events).accounts := by
  have hrun : ∀ net : L2tpNet n, Balanced net.accounts →
      Balanced (netRun hash net events).accounts := by
    induction events with
    | nil => exact fun _ hbalanced ↦ hbalanced
    | cons event events ih => exact fun net hbalanced ↦ ih _ (balanced_netStep hash hbalanced event)
  exact hrun _ balanced_empty

end KernelModules.L2tp
