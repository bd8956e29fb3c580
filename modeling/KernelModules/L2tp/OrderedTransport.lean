import KernelModules.L2tp.DataPath
import KernelModules.L2tp.PppRoundTrip
import KernelModules.L2tp.Reorder
import KernelModules.L2tp.SessionRuns

/-!
# PPP frames in the order they were sent

`pppol2tp_xmit` at one end, `l2tp_udp_recv_core` at the other, and between them a network that
delivers packets in any order. What a session does with its packets does not depend on what its
namespace does for others in between: neither on the statistics of the tunnel nor on what has been
done before (`Resumed`), and a packet for another session leaves it alone (`Tracks`). So a session
sees the packets that are for it, one after the other, unless one comes with a wrong checksum, which
the kernel does not survive (`recvPackets`). The reorder queue puts every stretch of traffic right
that fits into the window, does not cross the wrap of the sequence number and arrives before any of
it expires. After it the two ends are in step again, and so every frame of the life of a connection
is handed over once and in order, if its first frame comes before all others
(`ppp_frames_in_order`).
-/

set_option autoImplicit false
set_option relaxedAutoImplicit false

namespace KernelModules.L2tp

open Foundations

variable {n : ℕ}

/-! ### What a session does not depend on -/

/-- A tunnel without its statistics. -/
def L2tpTunnel.setup (tunnel : L2tpTunnel n) : L2tpTunnel n := { tunnel with stats := fun _ ↦ {} }

theorem L2tpTunnel.eq_of_setup {tunnel tunnel' : L2tpTunnel n}
    (hsetup : tunnel'.setup = tunnel.setup) : ∃ stats, tunnel' = { tunnel with stats } :=
  ⟨tunnel'.stats, congrArg (fun setup ↦ { setup with stats := tunnel'.stats }) hsetup⟩

/-- Two accounts of a session that differ in the statistics of the tunnel, and in what was done
before the first of them began. -/
structure Resumed (log : List Effect) (flow flow' : Flow n) : Prop where
  session : flow'.session = flow.session
  tunnel : flow'.tunnel.setup = flow.tunnel.setup
  log : flow'.log = log ++ flow.log

namespace Resumed

variable {log : List Effect} {flow flow' : Flow n} (env : Env n) (skb : SkBuff)

theorem onSession (hresumed : Resumed log flow flow') (change : L2tpSession n → L2tpSession n) :
    Resumed log (flow.onSession change) (flow'.onSession change) :=
  ⟨congrArg change hresumed.session, hresumed.tunnel, hresumed.log⟩

theorem sessionStats (hresumed : Resumed log flow flow') (cpu : Fin n)
    (change : L2tpStats → L2tpStats) :
    Resumed log (flow.sessionStats cpu change) (flow'.sessionStats cpu change) :=
  hresumed.onSession _

theorem skbQueueTail (hresumed : Resumed log flow flow') :
    Resumed log (skbQueueTail flow skb) (skbQueueTail flow' skb) :=
  hresumed.onSession _

theorem tunnelStats (hresumed : Resumed log flow flow') (cpu : Fin n)
    (change : L2tpStats → L2tpStats) :
    Resumed log (flow.tunnelStats cpu change) (flow'.tunnelStats cpu change) :=
  ⟨hresumed.session, hresumed.tunnel, hresumed.log⟩

theorem emit (hresumed : Resumed log flow flow') (effect : Effect) :
    Resumed log (flow.emit effect) (flow'.emit effect) :=
  ⟨hresumed.session, hresumed.tunnel, by simp [Flow.emit, hresumed.log]⟩

theorem ref (hresumed : Resumed log flow flow') : Resumed log flow.ref flow'.ref := by
  rw [Flow.ref_eq, Flow.ref_eq]
  exact ⟨hresumed.session, hresumed.tunnel, by simp [hresumed.log, hresumed.session]⟩

theorem deref (hresumed : Resumed log flow flow') : Resumed log flow.deref flow'.deref := by
  rw [Flow.deref_eq, Flow.deref_eq]
  exact ⟨hresumed.session, hresumed.tunnel, by simp [hresumed.log, hresumed.session]⟩

theorem callRecvHandler (hresumed : Resumed log flow flow') (handler : RecvHandler) :
    Resumed log (callRecvHandler handler env flow skb) (callRecvHandler handler env flow' skb) := by
  cases handler with
  | l2tpEthDevRecv =>
    simp only [L2tp.callRecvHandler, l2tpEthDevRecv]
    split_ifs
    · exact hresumed.onSession _
    · exact hresumed.onSession _
  | pppol2tpRecv =>
    simp only [L2tp.callRecvHandler, pppol2tpRecv, hresumed.session]
    split
    · exact hresumed
    · split_ifs
      · exact hresumed
      · exact hresumed.onSession _

theorem handOver (hresumed : Resumed log flow flow') :
    Resumed log (handOver env flow skb) (handOver env flow' skb) := by
  simp only [L2tp.handOver, hresumed.session]
  split
  · exact (hresumed.emit _).callRecvHandler env skb _
  · exact hresumed.emit _

theorem setNr (hresumed : Resumed log flow flow') (nr : UInt32) :
    Resumed log (setNr flow nr) (setNr flow' nr) := by
  unfold L2tp.setNr
  rw [hresumed.session]
  exact (hresumed.onSession _).emit _

theorem skipToHead (hresumed : Resumed log flow flow') :
    Resumed log (skipToHead flow skb) (skipToHead flow' skb) := by
  unfold L2tp.skipToHead
  rw [hresumed.session]
  split_ifs
  · exact (hresumed.onSession _).setNr _
  · exact hresumed

theorem l2tpRecvDequeueSkb (hresumed : Resumed log flow flow') :
    Resumed log (l2tpRecvDequeueSkb env flow skb) (l2tpRecvDequeueSkb env flow' skb) := by
  have hcount : Resumed log (countReceived env flow skb) (countReceived env flow' skb) := by
    unfold countReceived
    exact (hresumed.tunnelStats env.cpu _).sessionStats env.cpu _
  have hbump : Resumed log (bumpNr (countReceived env flow skb) skb)
      (bumpNr (countReceived env flow' skb) skb) := by
    unfold bumpNr
    rw [hcount.session]
    split_ifs
    · exact hcount.setNr _
    · exact hcount
  exact (hbump.handOver env skb).deref

theorem discardExpired (hresumed : Resumed log flow flow') (rest : List SkBuff) :
    Resumed log (discardExpired env flow skb rest) (discardExpired env flow' skb rest) :=
  (((hresumed.onSession _).onSession _).emit _).deref

theorem dequeueStep (hresumed : Resumed log flow flow') :
    (dequeueStep env flow = none ∧ dequeueStep env flow' = none) ∨
      ∃ turn turn', dequeueStep env flow = some turn ∧ dequeueStep env flow' = some turn' ∧
        Resumed log turn turn' := by
  unfold L2tp.dequeueStep
  rw [hresumed.session]
  cases flow.session.reorderQ with
  | nil => exact Or.inl ⟨rfl, rfl⟩
  | cons skb rest =>
    have hskip := hresumed.skipToHead skb
    dsimp only
    rw [hskip.session]
    split_ifs
    · exact Or.inr ⟨_, _, rfl, rfl, hresumed.discardExpired env skb rest⟩
    · exact Or.inl ⟨rfl, rfl⟩
    · exact Or.inr ⟨_, _, rfl, rfl, (hskip.onSession _).l2tpRecvDequeueSkb env skb⟩

theorem recvDiscard (hresumed : Resumed log flow flow') :
    Resumed log (recvDiscard env flow skb) (recvDiscard env flow' skb) :=
  ((hresumed.onSession _).emit _).deref

theorem l2tpRecvDataSeq (hresumed : Resumed log flow flow') :
    Resumed log (l2tpRecvDataSeq env flow skb).1 (l2tpRecvDataSeq env flow' skb).1 ∧
      (L2tp.l2tpRecvDataSeq env flow' skb).2 = (L2tp.l2tpRecvDataSeq env flow skb).2 := by
  have htrack : Resumed log (trackOos flow skb.cb.ns) (trackOos flow' skb.cb.ns) := by
    unfold trackOos
    rw [hresumed.session]
    exact hresumed.onSession _
  unfold L2tp.l2tpRecvDataSeq
  dsimp only
  rw [htrack.session, hresumed.session]
  split_ifs
  · exact ⟨hresumed, rfl⟩
  · refine ⟨?_, rfl⟩
    simp only [l2tpRecvQueueSkb, hresumed.session]
    split_ifs
    · exact (hresumed.onSession _).onSession _
    · exact hresumed.onSession _
  · exact ⟨hresumed.skbQueueTail skb, rfl⟩
  · exact ⟨htrack.sessionStats env.cpu _, rfl⟩
  · exact ⟨htrack.skbQueueTail skb, rfl⟩

theorem recvAdmit (hresumed : Resumed log flow flow') (call : RecvCall n) :
    Resumed log (recvAdmit flow call).1 (recvAdmit flow' call).1 ∧
      (L2tp.recvAdmit flow' call).2 = (L2tp.recvAdmit flow call).2 := by
  obtain ⟨stats, htunnel⟩ := L2tpTunnel.eq_of_setup hresumed.tunnel
  have hpolicy (hasSeq : Bool) : recvSeqPolicy flow'.tunnel flow.session hasSeq =
      recvSeqPolicy flow.tunnel flow.session hasSeq := by
    rw [htunnel]
    rfl
  have hversion : flow'.tunnel.version = flow.tunnel.version := by rw [htunnel]
  unfold L2tp.recvAdmit
  dsimp only
  rw [hresumed.session, hversion]
  cases recvCookie flow.session.toSessionParams call.skb call.ptr with
  | none => exact ⟨hresumed.sessionStats call.env.cpu _, rfl⟩
  | some ptr =>
    dsimp only
    rw [hpolicy]
    generalize sequencedFrame flow.tunnel.version flow.session.toSessionParams call ptr = skb
    cases recvSeqPolicy flow.tunnel flow.session skb.cb.hasSeq with
    | none => exact ⟨hresumed.sessionStats call.env.cpu _, rfl⟩
    | some session =>
      dsimp only
      cases recvPayload skb (payloadOffset flow.tunnel.version flow.session.toSessionParams call
        ptr) call.hook with
      | none => exact ⟨hresumed.onSession fun _ ↦ session, rfl⟩
      | some payload => exact ⟨hresumed.onSession fun _ ↦ session, rfl⟩

theorem recvEnqueue (hresumed : Resumed log flow flow') (call : RecvCall n) :
    Resumed log (recvEnqueue flow call).1 (recvEnqueue flow' call).1 ∧
      (L2tp.recvEnqueue flow' call).2 = (L2tp.recvEnqueue flow call).2 := by
  have hadmit := hresumed.ref.recvAdmit call
  unfold L2tp.recvEnqueue
  generalize L2tp.recvAdmit flow.ref call = admitted at hadmit
  generalize L2tp.recvAdmit flow'.ref call = admitted' at hadmit
  obtain ⟨middle, answer⟩ := admitted
  obtain ⟨middle', answer'⟩ := admitted'
  obtain ⟨hmiddle, hanswer⟩ := hadmit
  dsimp only at hmiddle hanswer
  subst hanswer
  cases answer' with
  | error skb => exact ⟨hmiddle.recvDiscard call.env skb, rfl⟩
  | ok skb =>
    have hdata := hmiddle.l2tpRecvDataSeq call.env skb
    dsimp only
    split
    · generalize L2tp.l2tpRecvDataSeq call.env middle skb = queued at hdata
      generalize L2tp.l2tpRecvDataSeq call.env middle' skb = queued' at hdata
      obtain ⟨last, discard⟩ := queued
      obtain ⟨last', discard'⟩ := queued'
      obtain ⟨hlast, hdiscard⟩ := hdata
      dsimp only at hlast hdiscard
      subst hdiscard
      cases discard' with
      | true => exact ⟨hlast.recvDiscard call.env skb, rfl⟩
      | false => exact ⟨hlast, rfl⟩
    · exact ⟨hmiddle.skbQueueTail skb, rfl⟩

/-- What `l2tp_recv_common` does with a frame depends neither on the statistics of the tunnel nor
on what has been done before. -/
theorem l2tpRecvCommon (hresumed : Resumed log flow flow') (call : RecvCall n) :
    Resumed log (l2tpRecvCommon flow call) (l2tpRecvCommon flow' call) := by
  have hqueued := hresumed.recvEnqueue call
  unfold L2tp.l2tpRecvCommon
  generalize L2tp.recvEnqueue flow call = queued at hqueued
  generalize L2tp.recvEnqueue flow' call = queued' at hqueued
  obtain ⟨middle, queued⟩ := queued
  obtain ⟨middle', queued'⟩ := queued'
  obtain ⟨hmiddle, hflag⟩ := hqueued
  dsimp only at hmiddle hflag
  subst hflag
  cases queued' with
  | false => exact hmiddle
  | true =>
    dsimp only [l2tpRecvDequeue]
    rw [hmiddle.session]
    exact drain_rel (fun _ _ hturn ↦ hturn.dequeueStep call.env) _ hmiddle

end Resumed

/-! ### A namespace and the packets that reach it -/

/-- A packet as it reaches `l2tp_udp_encap_recv`: what is found around the call, whether the
checksum is wrong, and the tunnel that owns the socket. -/
structure UdpPacket (n : ℕ) where
  env : Env n
  badCsum : Bool
  t : ℕ
  skb : SkBuff

/-- What `l2tp_udp_recv_core` decides about the packet. -/
def UdpPacket.verdict (hash : SessionHash) (net : L2tpNet n) (packet : UdpPacket n) :
    UdpVerdict n :=
  match net.tunnels[packet.t]? with
  | none => .passUp
  | some tunnel => udpRecvVerdict hash net packet.env packet.badCsum packet.t tunnel packet.skb
      tunnel.recvPayloadHook

/-- The call of `l2tp_recv_common` on session `i`, if the packet is for it. -/
def UdpPacket.callFor (hash : SessionHash) (net : L2tpNet n) (i : ℕ) (packet : UdpPacket n) :
    Option (RecvCall n) :=
  match packet.verdict hash net with
  | .session j call => if j = i then some call else none
  | _ => none

/-- The namespace after the packet, and none after an oops. -/
def UdpPacket.recv (hash : SessionHash) (net : L2tpNet n) (packet : UdpPacket n) :
    Option (L2tpNet n) :=
  match l2tpUdpRecvCore hash net packet.env packet.badCsum packet.t packet.skb with
  | (_, .oops) => none
  | (net', .passUp) => some net'
  | (net', .consumed) => some net'

/-- The packets arrive one after the other, and nothing is received after an oops. -/
def recvPackets (hash : SessionHash) (net : L2tpNet n) (packets : List (UdpPacket n)) :
    Option (L2tpNet n) :=
  packets.foldlM (UdpPacket.recv hash) net

/-- What a session has done to the outside. -/
def effectsOf (net : L2tpNet n) (i : ℕ) : List Effect := (net.log.filter (·.1 = i)).map (·.2)

/-- The frames that have been handed to its receive handler. -/
def deliveredTo (net : L2tpNet n) (i : ℕ) : List SkBuff := delivered (effectsOf net i)

theorem UdpPacket.recv_session {hash : SessionHash} {net : L2tpNet n} {packet : UdpPacket n}
    {j : ℕ} {call : RecvCall n} (hverdict : packet.verdict hash net = .session j call) :
    packet.recv hash net = some (net.onFlow j fun flow ↦ l2tpRecvCommon flow call) := by
  unfold UdpPacket.verdict at hverdict
  unfold UdpPacket.recv l2tpUdpRecvCore
  cases htunnel : net.tunnels[packet.t]? with
  | none => simp [htunnel] at hverdict
  | some tunnel =>
    simp only [htunnel] at hverdict
    simp only [hverdict]

theorem UdpPacket.recv_passUp {hash : SessionHash} {net : L2tpNet n} {packet : UdpPacket n}
    (hverdict : packet.verdict hash net = .passUp) : packet.recv hash net = some net := by
  unfold UdpPacket.verdict at hverdict
  unfold UdpPacket.recv l2tpUdpRecvCore
  cases htunnel : net.tunnels[packet.t]? with
  | none => rfl
  | some tunnel =>
    simp only [htunnel] at hverdict
    simp only [hverdict]

theorem UdpPacket.verdict_ne_badCsum {packet : UdpPacket n} (hcsum : packet.badCsum = false)
    (hash : SessionHash) (net : L2tpNet n) : packet.verdict hash net ≠ .badCsum := by
  unfold UdpPacket.verdict
  cases net.tunnels[packet.t]? with
  | none => exact nofun
  | some tunnel =>
    dsimp only
    rw [ne_eq, udpRecvVerdict_eq_badCsum_iff, hcsum, Bool.and_false]
    exact Bool.false_ne_true

/-- Between the two states of a namespace frames have been received, and nothing else: the tables
and what creation and connecting have fixed are the same. -/
structure SameSetups (net net' : L2tpNet n) : Prop where
  tunnels : ∀ t : ℕ, net'.tunnels[t]?.map L2tpTunnel.setup = net.tunnels[t]?.map L2tpTunnel.setup
  params : ∀ i : ℕ, net'.sessions[i]?.map (·.toSessionParams) =
    net.sessions[i]?.map (·.toSessionParams)
  hooks : ∀ i : ℕ, net'.sessions[i]?.map (·.toSessionHooks) =
    net.sessions[i]?.map (·.toSessionHooks)

namespace SameSetups

variable {net middle net' : L2tpNet n}

theorem refl (net : L2tpNet n) : SameSetups net net := ⟨fun _ ↦ rfl, fun _ ↦ rfl, fun _ ↦ rfl⟩

theorem trans (hfirst : SameSetups net middle) (hlast : SameSetups middle net') :
    SameSetups net net' :=
  ⟨fun t ↦ (hlast.tunnels t).trans (hfirst.tunnels t),
    fun i ↦ (hlast.params i).trans (hfirst.params i),
    fun i ↦ (hlast.hooks i).trans (hfirst.hooks i)⟩

/-- What the data path of a session leaves behind. -/
theorem store {j : ℕ} {flow flow' : Flow n} (hflow : net.flow j = some flow)
    (hkeeps : KeepsSetup flow flow') : SameSetups net (net.store j flow') := by
  obtain ⟨hsession, htunnel, -⟩ := L2tpNet.flow_eq_some hflow
  obtain ⟨stats, hstats⟩ := hkeeps.tunnel
  obtain ⟨hj, -⟩ := List.getElem?_eq_some_iff.mp hsession
  obtain ⟨ht, -⟩ := List.getElem?_eq_some_iff.mp htunnel
  have hindex : flow'.session.tunnel = flow.session.tunnel :=
    congrArg SessionParams.tunnel hkeeps.params
  refine ⟨fun t ↦ ?_, fun i ↦ ?_, fun i ↦ ?_⟩
  · simp only [L2tpNet.store, hindex]
    by_cases heq : flow.session.tunnel = t
    · rw [← heq, List.getElem?_set_self ht, htunnel, hstats]
      rfl
    · rw [List.getElem?_set_ne heq]
  · simp only [L2tpNet.store]
    by_cases heq : j = i
    · rw [← heq, List.getElem?_set_self hj, hsession, Option.map_some, hkeeps.params,
        Option.map_some]
    · rw [List.getElem?_set_ne heq]
  · simp only [L2tpNet.store]
    by_cases heq : j = i
    · rw [← heq, List.getElem?_set_self hj, hsession, Option.map_some, hkeeps.hooks,
        Option.map_some]
    · rw [List.getElem?_set_ne heq]

theorem l2tpSessionFind_eq (hsame : SameSetups net net') (hash : SessionHash) (t : ℕ)
    (sessionId : UInt32) :
    l2tpSessionFind hash net' (some t) sessionId = l2tpSessionFind hash net (some t) sessionId := by
  have hids : net'.sessionId = net.sessionId := by
    funext i
    have hparams := congrArg (Option.map SessionParams.sessionId) (hsame.params i)
    rwa [Option.map_map, Option.map_map] at hparams
  have htunnel := hsame.tunnels t
  unfold l2tpSessionFind
  dsimp only
  rw [hids]
  cases hfirst : net.tunnels[t]? with
  | none =>
    rw [hfirst, Option.map_none, Option.map_eq_none_iff] at htunnel
    rw [htunnel]
  | some tunnel =>
    rw [hfirst, Option.map_some] at htunnel
    obtain ⟨tunnel', htunnel', hsetup⟩ := Option.map_eq_some_iff.mp htunnel
    obtain ⟨stats, hstats⟩ := L2tpTunnel.eq_of_setup hsetup
    rw [htunnel', hstats]
    rfl

/-- What is decided about a packet is the same in both states. -/
theorem verdict_eq (hsame : SameSetups net net') (hash : SessionHash) (packet : UdpPacket n) :
    packet.verdict hash net' = packet.verdict hash net := by
  have htunnel := hsame.tunnels packet.t
  have hhandler (i : ℕ) :
      net'.sessions[i]?.bind (·.recvSkb) = net.sessions[i]?.bind (·.recvSkb) := by
    have hhooks := congrArg (fun hooks ↦ hooks.bind SessionHooks.recvSkb) (hsame.hooks i)
    simpa [Option.bind_map, Function.comp_def] using hhooks
  unfold UdpPacket.verdict
  cases hfirst : net.tunnels[packet.t]? with
  | none =>
    rw [hfirst, Option.map_none, Option.map_eq_none_iff] at htunnel
    rw [htunnel]
  | some tunnel =>
    rw [hfirst, Option.map_some] at htunnel
    obtain ⟨tunnel', htunnel', hsetup⟩ := Option.map_eq_some_iff.mp htunnel
    obtain ⟨stats, hstats⟩ := L2tpTunnel.eq_of_setup hsetup
    rw [htunnel']
    simp only [udpRecvVerdict, hstats, hsame.l2tpSessionFind_eq, hhandler]

end SameSetups

/-- The account of session `i` after some packets: its session is the one in the namespace, its
tunnel is the one in the namespace up to statistics, and its log is what session `i` has done
since. -/
structure Tracks (first : L2tpNet n) (i : ℕ) (flow : Flow n) (net : L2tpNet n) : Prop where
  same : SameSetups first net
  session : net.sessions[i]? = some flow.session
  tunnel : net.tunnels[flow.session.tunnel]?.map L2tpTunnel.setup = some flow.tunnel.setup
  log : effectsOf net i = effectsOf first i ++ flow.log

theorem effectsOf_store (net : L2tpNet n) (i j : ℕ) (flow : Flow n) :
    effectsOf (net.store j flow) i = effectsOf net i ++ if j = i then flow.log else [] := by
  unfold effectsOf L2tpNet.store
  rw [List.filter_append, List.map_append]
  by_cases heq : j = i
  · simp [List.filter_map, Function.comp_def, heq]
  · simp [List.filter_map, Function.comp_def, heq]

section Tracks

variable {hash : SessionHash} {first net : L2tpNet n} {i : ℕ} {flow : Flow n}

/-- A packet for session `i`. -/
theorem Tracks.recv (htracks : Tracks first i flow net) (call : RecvCall n) :
    Tracks first i (l2tpRecvCommon flow call)
      (net.onFlow i fun flow ↦ l2tpRecvCommon flow call) := by
  obtain ⟨tunnel, htunnel, hsetup⟩ := Option.map_eq_some_iff.mp htracks.tunnel
  set base : Flow n := ⟨tunnel, flow.session, []⟩ with hbase
  have hflow : net.flow i = some base := by
    rw [L2tpNet.flow, htracks.session, Option.bind_some, htunnel, Option.map_some]
  have hkeeps := KeepsSetup.l2tpRecvCommon base call
  have hresumed : Resumed flow.log base flow := ⟨rfl, hsetup.symm, (List.append_nil _).symm⟩
  have hafter := hresumed.l2tpRecvCommon call
  have hindex : (l2tpRecvCommon base call).session.tunnel = flow.session.tunnel :=
    congrArg SessionParams.tunnel hkeeps.params
  obtain ⟨hi, -⟩ := List.getElem?_eq_some_iff.mp htracks.session
  obtain ⟨ht, -⟩ := List.getElem?_eq_some_iff.mp htunnel
  have hstore : (net.onFlow i fun flow ↦ l2tpRecvCommon flow call) =
      net.store i (l2tpRecvCommon base call) := by
    rw [L2tpNet.onFlow, hflow]
  rw [hstore]
  refine ⟨htracks.same.trans (.store hflow hkeeps), ?_, ?_, ?_⟩
  · rw [hafter.session]
    exact List.getElem?_set_self hi
  · rw [hafter.session, hafter.tunnel, hindex, L2tpNet.store, hindex]
    dsimp only
    rw [List.getElem?_set_self ht, Option.map_some]
  · rw [effectsOf_store, if_pos rfl, htracks.log, hafter.log, List.append_assoc]

/-- A packet for another session. -/
theorem Tracks.recv_other (htracks : Tracks first i flow net) {j : ℕ} (hne : j ≠ i)
    (call : RecvCall n) :
    Tracks first i flow (net.onFlow j fun flow ↦ l2tpRecvCommon flow call) := by
  unfold L2tpNet.onFlow
  cases hflow : net.flow j with
  | none => exact htracks
  | some other =>
    have hsame := SameSetups.store hflow (KeepsSetup.l2tpRecvCommon other call)
    refine ⟨htracks.same.trans hsame, ?_, ?_, ?_⟩
    · exact (List.getElem?_set_ne hne).trans htracks.session
    · exact (hsame.tunnels _).trans htracks.tunnel
    · rw [effectsOf_store, if_neg hne, List.append_nil, htracks.log]

/-- A session sees the packets that are for it, and no others, if no checksum is wrong. -/
theorem Tracks.recvPackets (htracks : Tracks first i flow net) {packets : List (UdpPacket n)}
    (hcsum : ∀ packet ∈ packets, packet.badCsum = false) :
    ∃ net', recvPackets hash net packets = some net' ∧
      Tracks first i
        ((packets.filterMap (UdpPacket.callFor hash first i)).foldl l2tpRecvCommon flow) net' := by
  induction packets generalizing flow net with
  | nil => exact ⟨net, rfl, htracks⟩
  | cons packet packets ih =>
    obtain ⟨hpacket, hrest⟩ := List.forall_mem_cons.mp hcsum
    have hverdict := htracks.same.verdict_eq hash packet
    rw [List.filterMap_cons, L2tp.recvPackets, List.foldlM_cons]
    cases hcase : packet.verdict hash first with
    | session j call =>
      rw [UdpPacket.recv_session (hverdict.trans hcase)]
      by_cases heq : j = i
      · have hcall : packet.callFor hash first i = some call := by
          simp only [UdpPacket.callFor, hcase, if_pos heq]
        rw [hcall, heq]
        exact ih (htracks.recv call) hrest
      · have hcall : packet.callFor hash first i = none := by
          simp only [UdpPacket.callFor, hcase, if_neg heq]
        rw [hcall]
        exact ih (htracks.recv_other heq call) hrest
    | badCsum => exact absurd hcase (UdpPacket.verdict_ne_badCsum hpacket hash first)
    | passUp =>
      have hcall : packet.callFor hash first i = none := by simp only [UdpPacket.callFor, hcase]
      rw [UdpPacket.recv_passUp (hverdict.trans hcase), hcall]
      exact ih htracks hrest

theorem Tracks.start (hflow : net.flow i = some flow) : Tracks net i flow net := by
  obtain ⟨hsession, htunnel, hlog⟩ := L2tpNet.flow_eq_some hflow
  exact ⟨.refl net, hsession, by rw [htunnel]; rfl, by rw [hlog, List.append_nil]⟩

end Tracks

/-- Sessions do not interfere. Assumes: a session of a namespace, and two series of packets of which
the same ones, in the same order, are for that session, and none has a wrong checksum. In both cases
it is left in the same state, statistics included, and has done the same to the outside, whatever
the other packets are. -/
theorem sessions_do_not_interfere {hash : SessionHash} {net : L2tpNet n} {i : ℕ} {flow : Flow n}
    (hflow : net.flow i = some flow) {packets packets' : List (UdpPacket n)}
    (hown : packets.filterMap (UdpPacket.callFor hash net i) =
      packets'.filterMap (UdpPacket.callFor hash net i))
    (hcsum : ∀ packet ∈ packets, packet.badCsum = false)
    (hcsum' : ∀ packet ∈ packets', packet.badCsum = false) :
    ∃ after after', recvPackets hash net packets = some after ∧
      recvPackets hash net packets' = some after' ∧
      after.sessions[i]? = after'.sessions[i]? ∧ effectsOf after i = effectsOf after' i := by
  obtain ⟨after, hafter, htracks⟩ := (Tracks.start hflow).recvPackets hcsum
  obtain ⟨after', hafter', htracks'⟩ := (Tracks.start hflow).recvPackets hcsum'
  rw [← hown] at htracks'
  exact ⟨after, after', hafter, hafter', htracks.session.trans htracks'.session.symm,
    htracks.log.trans htracks'.log.symm⟩

/-! ### The sender -/

/-- A frame given to `pppol2tp_xmit`, and what is found around the call. -/
structure PppFrame (n : ℕ) where
  env : XmitEnv n
  skb : SkBuff

/-- There is memory for the headers, the tunnel socket is free, and the frame has a protocol. -/
structure PppFrame.Sendable (frame : PppFrame n) : Prop where
  memory : frame.env.cowHead.isSome
  free : frame.env.ownedByUser = false
  long : 2 ≤ frame.skb.data.length

/-- The sender after the frame. -/
def PppFrame.send (sender : Flow n) (frame : PppFrame n) : Flow n :=
  pppXmitFlow frame.env sender frame.skb

/-- The frames are sent one after the other. -/
def sendFrames (sender : Flow n) (frames : List (PppFrame n)) : Flow n :=
  frames.foldl PppFrame.send sender

/-- The packets that go out for them. -/
def packetsOf (sender : Flow n) : List (PppFrame n) → List (List UInt8)
  | [] => []
  | frame :: frames =>
    (sentPackets (frame.send sender).log).drop (sentPackets sender.log).length ++
      packetsOf (frame.send sender) frames

/-- A connected PPP session that sends sequence numbers to the session at the other end. -/
structure Sending (sender receiver : Flow n) : Prop where
  mirror : MirroredV2 sender receiver
  connected : (sender.session.ps.tunnelSock.isSome &&
    sender.tunnel.sock = sender.session.ps.tunnelSock) = true
  sendSeq : sender.session.sendSeq = true

/-- What goes out for a frame that the sender numbers `number`. -/
def Carries (receiver : Flow n) (number : ℕ) (frame : PppFrame n) (packet : List UInt8) : Prop :=
  ∃ udphdr sender, udphdr.length = udphdrSize ∧ Sending sender receiver ∧
    sender.session.ns.toNat = number % 65536 ∧
    packet = udphdr ++ (v2Header sender.tunnel sender.session ++ (ppph ++ frame.skb.data))

section Sender

variable {sender receiver : Flow n} {frame : PppFrame n} {frames : List (PppFrame n)}

theorem Sending.send (hsending : Sending sender receiver) (hsendable : frame.Sendable) :
    Sending (frame.send sender) receiver ∧
      (frame.send sender).session.ns.toNat = (sender.session.ns.toNat + 1) % 65536 ∧
      ∃ packet, (sentPackets (frame.send sender).log).drop (sentPackets sender.log).length =
        [packet] ∧ Carries receiver sender.session.ns.toNat frame packet := by
  have hmirror := hsending.mirror
  obtain ⟨packet, udphdr, hudphdr, hpacket, hlog, hns⟩ :=
    pppol2tpXmitFlow_v2 hmirror frame.skb hsendable.memory hsendable.free
  have hsend : frame.send sender = pppol2tpXmitFlow frame.env sender frame.skb := by
    rw [PppFrame.send, pppXmitFlow, if_pos hsending.connected]
  have hnumber : ((sender.session.ns + 1) &&& 0xffff).toNat =
      (sender.session.ns.toNat + 1) % 65536 := by
    have hmask : ((sender.session.ns + 1) &&& 0xffff).toNat =
        (sender.session.ns + 1).toNat % 2 ^ 16 := by
      rw [UInt32.toNat_and]
      exact Nat.and_two_pow_sub_one_eq_mod _ 16
    have hone : UInt32.toNat 1 = 1 := rfl
    rw [hmask, UInt32.toNat_add]
    omega
  rw [hsending.sendSeq, if_pos rfl] at hns
  have hsends := sends_pppol2tpXmitFlow frame.env sender frame.skb
  rw [← hsend] at hlog hns hsends
  refine ⟨?_, by rw [hns, hnumber], packet.data, ?_, udphdr, sender, hudphdr, hsending,
    (Nat.mod_eq_of_lt hmirror.ns).symm, hpacket⟩
  · have hlt : (frame.send sender).session.ns.toNat < 65536 := by
      rw [hns, hnumber]
      exact Nat.mod_lt _ (by decide)
    generalize frame.send sender = sent at hsends hlt
    obtain rfl | ⟨ns, dropped, dstats, rfl | ⟨env, rfl⟩⟩ := hsends.sends
    · exact hsending
    · exact ⟨⟨hmirror.builder, hmirror.senderUdp, hmirror.hdrLen, hlt, hmirror.version,
        hmirror.sessionId, hmirror.sessionId_lt, hmirror.cookie, hmirror.l2specificLen,
        hmirror.hook, hmirror.handler⟩, hsending.connected, hsending.sendSeq⟩
    · exact ⟨⟨hmirror.builder, hmirror.senderUdp, hmirror.hdrLen, hlt, hmirror.version,
        hmirror.sessionId, hmirror.sessionId_lt, hmirror.cookie, hmirror.l2specificLen,
        hmirror.hook, hmirror.handler⟩, hsending.connected, hsending.sendSeq⟩
  · rw [hlog, sentPackets_append, List.drop_left]
    rfl

theorem Sending.sendFrames (hsending : Sending sender receiver)
    (hsendable : ∀ frame ∈ frames, frame.Sendable) :
    Sending (sendFrames sender frames) receiver ∧
      (L2tp.sendFrames sender frames).session.ns.toNat =
        (sender.session.ns.toNat + frames.length) % 65536 := by
  induction frames generalizing sender with
  | nil => exact ⟨hsending, (Nat.mod_eq_of_lt hsending.mirror.ns).symm⟩
  | cons frame frames ih =>
    obtain ⟨hsent, hns, -⟩ := hsending.send (hsendable frame List.mem_cons_self)
    obtain ⟨hlast, hlastNs⟩ := ih hsent fun other hother ↦
      hsendable other (List.mem_cons_of_mem _ hother)
    refine ⟨hlast, hlastNs.trans ?_⟩
    rw [hns, List.length_cons]
    omega

/-- Frame `j` goes out in packet `j`, with the number `j` places behind the first. -/
theorem Sending.carries (hsending : Sending sender receiver)
    (hsendable : ∀ frame ∈ frames, frame.Sendable) {j : ℕ} (hj : frames[j]? = some frame)
    {packet : List UInt8} (hpacket : (packetsOf sender frames)[j]? = some packet) :
    Carries receiver (sender.session.ns.toNat + j) frame packet := by
  induction frames generalizing sender j with
  | nil => simp at hj
  | cons head frames ih =>
    obtain ⟨hsent, hns, sent, hdrop, hcarries⟩ := hsending.send (hsendable head List.mem_cons_self)
    rw [packetsOf, hdrop, List.singleton_append] at hpacket
    cases j with
    | zero =>
      rw [List.getElem?_cons_zero, Option.some.injEq] at hj hpacket
      rwa [← hj, ← hpacket]
    | succ j =>
      rw [List.getElem?_cons_succ] at hj hpacket
      obtain ⟨udphdr, middle, hudphdr, hmiddle, hnumber, hdata⟩ := ih hsent
        (fun other hother ↦ hsendable other (List.mem_cons_of_mem _ hother)) hj hpacket
      refine ⟨udphdr, middle, hudphdr, hmiddle, hnumber.trans ?_, hdata⟩
      rw [hns]
      omega

end Sender

/-! ### The receiver -/

section Receiver

variable {hash : SessionHash} {net : L2tpNet n} {i : ℕ} {receiver : Flow n}

theorem env_of_udpRecvVerdict {env : Env n} {badCsum : Bool} {t : ℕ} {tunnel : L2tpTunnel n}
    {skb : SkBuff} {hook : Option PayloadHook} {call : RecvCall n}
    (hverdict : udpRecvVerdict hash net env badCsum t tunnel skb hook = .session i call) :
    call.env = env := by
  unfold udpRecvVerdict at hverdict
  dsimp only at hverdict
  split_ifs at hverdict
  split at hverdict
  · exact absurd hverdict (by simp)
  · split_ifs at hverdict
    obtain ⟨-, rfl⟩ := UdpVerdict.session.inj hverdict
    rfl

/-- The time at which an admitted frame expires. -/
theorem expires_admittedFrame {version : ℕ} {params : SessionParams} {reorderTimeout : Int32}
    (htimeout : reorderTimeout ≠ 0) {call : RecvCall n} {skb : SkBuff}
    (hadmitted : admittedFrame version params reorderTimeout call = some skb) :
    skb.cb.expires = call.env.jiffies + reorderTimeout.toInt64.toUInt64 := by
  obtain ⟨ptr, -, hrest⟩ := Option.bind_eq_some_iff.mp hadmitted
  obtain ⟨payload, -, rfl⟩ := Option.map_eq_some_iff.mp hrest
  simp only [stampFrame, if_pos htimeout]

/-- What the receiver makes of a packet: the call of `l2tp_recv_common` and the frame it admits. -/
structure Decoded (hash : SessionHash) (net : L2tpNet n) (i : ℕ) (receiver : Flow n)
    (packet : UdpPacket n) (number : ℕ) (data : List UInt8) (call : RecvCall n) (skb : SkBuff) :
    Prop where
  callFor : packet.callFor hash net i = some call
  env : call.env = packet.env
  admitted : admittedFrame receiver.tunnel.version receiver.session.toSessionParams
    receiver.session.reorderTimeout call = some skb
  data : skb.data = data
  hasSeq : skb.cb.hasSeq = true
  ns : skb.cb.ns.toNat = number % 65536

theorem Carries.decoded {number : ℕ} {frame : PppFrame n} {packet : UdpPacket n}
    (hcarries : Carries receiver number frame packet.skb.data)
    (hlong : 2 ≤ frame.skb.data.length) (hcsum : packet.badCsum = false)
    (ht : packet.t = receiver.session.tunnel)
    (hregistered : Registered hash net (some receiver.session.tunnel) i receiver) :
    ∃ call skb, Decoded hash net i receiver packet number frame.skb.data call skb := by
  obtain ⟨udphdr, sender, hudphdr, hsending, hnumber, hdata⟩ := hcarries
  have hrest : 4 ≤ (ppph ++ frame.skb.data).length := by
    rw [List.length_append]
    exact Nat.add_le_add_left hlong 2
  obtain ⟨call, hverdict, hskb, hptr, hflags, hhook⟩ := udpRecvVerdict_v2 hsending.mirror
    hregistered packet.env hudphdr hdata hrest
  have hcall : packet.callFor hash net i = some call := by
    rw [← hcsum, ← ht] at hverdict
    have htunnel := hregistered.tunnel
    rw [← ht] at htunnel
    simp only [UdpPacket.callFor, UdpPacket.verdict, htunnel, hverdict, if_true]
  have hframe : call.skb.data =
      v2Header sender.tunnel sender.session ++ (ppph ++ frame.skb.data) := by
    rw [hskb, SkBuff.data_skbPull, hdata, ← hudphdr, List.drop_left]
  have hdecodes := decodesFrame_v2 hsending.mirror hframe hptr hflags hhook
  have hsome : v2Number sender.session = some sender.session.ns := if_pos hsending.sendSeq
  have hpolicy : recvSeqPolicy receiver.tunnel receiver.session
      (v2Number sender.session).isSome ≠ none := by
    rw [hsome, Option.isSome_some, recvSeqPolicy, if_pos rfl]
    split_ifs
    · exact Option.some_ne_none _
    · exact Option.some_ne_none _
  obtain ⟨flow, skb, hadmit, hskbData, hseq, hns⟩ := hdecodes.delivered hpolicy
  refine ⟨call, skb, hcall, env_of_udpRecvVerdict hverdict, admittedFrame_of_recvAdmit hadmit,
    hskbData, ?_, ?_⟩
  · rw [hseq, hsome]
    rfl
  · rw [hns _ hsome, hnumber]

/-- The two ends of a PPP session in step: the receiver waits for the number that the sender puts
into its next packet, and holds nothing back. A receiver that is `fresh` has `reorder_skip` set, as
after creation. -/
structure PppLink (hash : SessionHash) (net : L2tpNet n) (i : ℕ) (fresh : Bool)
    (sender receiver : Flow n) : Prop where
  sending : Sending sender receiver
  registered : Registered hash net (some receiver.session.tunnel) i receiver
  space : receiver.session.toSessionParams.SeqSpace
  nrMax : receiver.session.nrMax = 0xffff
  nr : receiver.session.nr = sender.session.ns
  timeout : 0 < receiver.session.reorderTimeout
  skip : receiver.session.reorderSkip = fresh
  queue : receiver.session.reorderQ = []

/-- A stretch of traffic: the frames that are sent, the packets that reach the other end meanwhile,
which of them carries which frame, and the order in which these arrive. -/
structure Stretch (n : ℕ) where
  frames : List (PppFrame n)
  packets : List (UdpPacket n)
  carrier : ℕ → UdpPacket n
  order : List ℕ

/-- What the stretch is to be like. All its frames are sent. Their packets arrive, each once and
unharmed, in any order and among any other packets without a wrong checksum, before the timeout of
the first of them that came. They are not more than the window, and the sequence number does not
wrap between them. A fresh receiver gets its first frame alone. -/
structure Stretch.Orderly (hash : SessionHash) (net : L2tpNet n) (i : ℕ) (fresh : Bool)
    (sender receiver : Flow n) (stretch : Stretch n) : Prop where
  sendable : ∀ frame ∈ stretch.frames, frame.Sendable
  carried : ∀ j < stretch.frames.length,
    (packetsOf sender stretch.frames)[j]? = some (stretch.carrier j).skb.data ∧
      (stretch.carrier j).t = receiver.session.tunnel
  once : stretch.order.Perm (List.range stretch.frames.length)
  arrive : (stretch.packets.filter fun packet ↦ (packet.callFor hash net i).isSome) =
    stretch.order.map stretch.carrier
  csum : ∀ packet ∈ stretch.packets, packet.badCsum = false
  timely : stretch.order.Pairwise fun earlier later ↦
    timeAfter (stretch.carrier later).env.jiffies ((stretch.carrier earlier).env.jiffies +
      receiver.session.reorderTimeout.toInt64.toUInt64) = false
  window : stretch.frames.length ≤ receiver.session.nrWindowSize.toNat
  wrap : sender.session.ns.toNat + stretch.frames.length ≤ 65536
  alone : fresh = true → stretch.frames.length = 1

theorem timeAfter_self {timeout : Int32} (htimeout : 0 < timeout) (jiffies : UInt64) :
    timeAfter jiffies (jiffies + timeout.toInt64.toUInt64) = false := by
  have hspan : jiffies + timeout.toInt64.toUInt64 - jiffies = timeout.toInt64.toUInt64 := by
    rw [UInt64.add_comm, UInt64.add_sub_cancel]
  rw [timeAfter, hspan, Int64.toInt64_toUInt64, decide_eq_false_iff_not, Int64.not_lt,
    Int64.le_iff_toInt_le, Int32.toInt_toInt64]
  exact Int.le_of_lt (Int32.lt_iff_toInt_lt.mp htimeout)

variable {fresh : Bool} {sender : Flow n} {stretch : Stretch n}

/-- The packets that carry the frames are among those that arrive. -/
theorem Stretch.Orderly.carrier_mem (horderly : stretch.Orderly hash net i fresh sender receiver)
    {j : ℕ} (hj : j < stretch.frames.length) : stretch.carrier j ∈ stretch.packets := by
  have horder : j ∈ stretch.order := horderly.once.mem_iff.mpr (List.mem_range.mpr hj)
  have harrives := List.mem_map_of_mem (f := stretch.carrier) horder
  rw [← horderly.arrive] at harrives
  exact List.mem_of_mem_filter harrives

/-- Every packet of a stretch is decoded. -/
theorem Stretch.Orderly.decoded (horderly : stretch.Orderly hash net i fresh sender receiver)
    (hlink : PppLink hash net i fresh sender receiver) :
    ∃ (call : ℕ → RecvCall n) (skb : ℕ → SkBuff), ∀ j frame, stretch.frames[j]? = some frame →
      Decoded hash net i receiver (stretch.carrier j) (sender.session.ns.toNat + j) frame.skb.data
        (call j) (skb j) := by
  have hone (j : ℕ) : ∃ (call : RecvCall n) (skb : SkBuff), ∀ frame,
      stretch.frames[j]? = some frame → Decoded hash net i receiver (stretch.carrier j)
        (sender.session.ns.toNat + j) frame.skb.data call skb := by
    cases hj : stretch.frames[j]? with
    | none =>
      refine ⟨⟨(stretch.carrier j).env, (stretch.carrier j).skb, 0, 0, 0, none⟩,
        (stretch.carrier j).skb, ?_⟩
      simp
    | some frame =>
      have hlt := (List.getElem?_eq_some_iff.mp hj).1
      obtain ⟨hpacket, ht⟩ := horderly.carried j hlt
      have hcsum := horderly.csum _ (horderly.carrier_mem hlt)
      have hcarries := hlink.sending.carries horderly.sendable hj hpacket
      obtain ⟨call, skb, hdecoded⟩ := hcarries.decoded
        (horderly.sendable frame (List.mem_of_getElem? hj)).long hcsum ht hlink.registered
      refine ⟨call, skb, ?_⟩
      rintro other ⟨⟩
      exact hdecoded
  choose call skb hdecoded using hone
  exact ⟨call, skb, hdecoded⟩

/-- The calls of `l2tp_recv_common` that a stretch makes. -/
theorem Stretch.Orderly.calls (horderly : stretch.Orderly hash net i fresh sender receiver)
    {call : ℕ → RecvCall n}
    (hcall : ∀ j < stretch.frames.length, (stretch.carrier j).callFor hash net i = some (call j)) :
    stretch.packets.filterMap (UdpPacket.callFor hash net i) = stretch.order.map call := by
  have hfilter : stretch.packets.filterMap (UdpPacket.callFor hash net i) =
      (stretch.packets.filter fun packet ↦ (packet.callFor hash net i).isSome).filterMap
        (UdpPacket.callFor hash net i) := by
    rw [List.filterMap_filter]
    refine List.filterMap_congr fun packet _ ↦ ?_
    cases packet.callFor hash net i <;> rfl
  have hmem : ∀ j ∈ stretch.order, (stretch.carrier j).callFor hash net i = some (call j) :=
    fun j hj ↦ hcall j (List.mem_range.mp (horderly.once.mem_iff.mp hj))
  rw [hfilter, horderly.arrive, List.filterMap_map, ← List.filterMap_eq_map]
  exact List.filterMap_congr hmem

/-- A session whose queue is empty hands over the frame it waits for, whether it is to skip or
not. -/
theorem inStep_first {flow : Flow n} {call : ℕ → RecvCall n} {frame : ℕ → SkBuff}
    (hspace : flow.session.toSessionParams.SeqSpace)
    (hlt : flow.session.nr.toNat < flow.session.seqCount)
    (htimeout : flow.session.reorderTimeout ≠ 0) (hqueue : flow.session.reorderQ = [])
    (hhandler : flow.session.recvSkb.isSome)
    (hadmitted : admittedFrame flow.tunnel.version flow.session.toSessionParams
      flow.session.reorderTimeout (call 0) = some (frame 0))
    (hseq : (frame 0).cb.hasSeq = true) (hns : (frame 0).cb.ns = flow.session.nr)
    (hself : timeAfter (call 0).env.jiffies (frame 0).cb.expires = false) :
    InStep flow frame (delivered flow.log) (l2tpRecvCommon flow (call 0)) ⟨1, [], [0]⟩ := by
  have hwindow : l2tpSeqCheckRxWindow flow.session (frame 0).cb.ns = true := by
    rw [hns, l2tpSeqCheckRxWindow_iff hspace hlt hlt, ahead_of_le le_rfl hlt]
    rcases hspace.sizes with ⟨-, hsize⟩ | ⟨-, hsize⟩ <;> omega
  obtain ⟨sendSeq, hdrLen, counters, henqueue⟩ := recvEnqueue_inWindow hadmitted hseq htimeout
    hwindow
  rw [hqueue] at henqueue
  simp only [l2tpRecvCommon, henqueue, l2tpRecvDequeue]
  set middle : Flow n := Flow.withStats _ _ _ with hmiddle
  have hhead : middle.session.reorderQ = frame 0 :: [] := by rw [hmiddle]; rfl
  have hasked : (frame 0).cb.ns = nrAtHead middle.session (frame 0) := by
    unfold nrAtHead
    split_ifs
    · rfl
    · rw [hns, hmiddle]
      rfl
  rcases dequeueStep_cons (call 0).env hhead with
    ⟨hexpired, -⟩ | ⟨-, ⟨-, hne, -⟩ | ⟨-, tstats, counters', hstep⟩⟩
  · rw [hself] at hexpired
    exact absurd hexpired Bool.false_ne_true
  · exact absurd hasked hne
  · rw [hhead, List.length_singleton, drain_succ_some hstep, drain_zero, afterDelivery_eq]
    have hnr : (nrDelivered middle.session (frame 0)).toNat =
        (flow.session.nr.toNat + 1) % flow.session.seqCount := by
      rw [nrDelivered, if_pos hseq, ← hasked, hns]
      exact hspace.toNat_succ_and_nrMax flow.session.nr
    refine ⟨⟨rfl, rfl, rfl, rfl⟩, ?_, hnr, rfl, ?_⟩
    · simp [hseq]
    · simp [hseq, handOverEffect, hmiddle, hhandler]

/-- After a stretch the session has handed over its frames in order and waits for the next. -/
theorem Stretch.Orderly.inStep (horderly : stretch.Orderly hash net i fresh sender receiver)
    (hlink : PppLink hash net i fresh sender receiver) {call : ℕ → RecvCall n} {skb : ℕ → SkBuff}
    (hdecoded : ∀ j frame, stretch.frames[j]? = some frame →
      Decoded hash net i receiver (stretch.carrier j) (sender.session.ns.toNat + j) frame.skb.data
        (call j) (skb j)) :
    InStep { receiver with log := [] } skb []
      (recvAll { receiver with log := [] } call stretch.order)
      ⟨stretch.frames.length, [], List.range stretch.frames.length⟩ := by
  have hsome (j : ℕ) (hj : j < stretch.frames.length) :=
    hdecoded j _ (List.getElem?_eq_getElem hj)
  have hcount : receiver.session.seqCount = 65536 := by
    rw [SessionParams.seqCount, hlink.nrMax]
    rfl
  have hns := hlink.sending.mirror.ns
  have htimeout : receiver.session.reorderTimeout ≠ 0 := by
    intro hzero
    have hpos := hlink.timeout
    rw [hzero] at hpos
    exact absurd hpos (by decide)
  have hexpires (j : ℕ) (hj : j < stretch.frames.length) : (skb j).cb.expires =
      (stretch.carrier j).env.jiffies + receiver.session.reorderTimeout.toInt64.toUInt64 := by
    rw [expires_admittedFrame htimeout (hsome j hj).admitted, (hsome j hj).env]
  have hlt : ∀ j ∈ stretch.order, j < stretch.frames.length :=
    fun j hj ↦ List.mem_range.mp (horderly.once.mem_iff.mp hj)
  have hself (j : ℕ) (hj : j < stretch.frames.length) :
      timeAfter (call j).env.jiffies (skb j).cb.expires = false := by
    rw [hexpires j hj, (hsome j hj).env]
    exact timeAfter_self hlink.timeout _
  cases hfresh : fresh with
  | true =>
    have hone := horderly.alone hfresh
    have horder : stretch.order = [0] := by
      have hperm := horderly.once
      rwa [hone, List.range_one, List.perm_singleton] at hperm
    have hzero : 0 < stretch.frames.length := by omega
    rw [horder, hone]
    refine inStep_first hlink.space ?_ htimeout hlink.queue hlink.sending.mirror.handler
      (hsome 0 hzero).admitted (hsome 0 hzero).hasSeq ?_ (hself 0 hzero)
    · rw [hlink.nr, hcount]
      exact hns
    · rw [← UInt32.toNat_inj, (hsome 0 hzero).ns, hlink.nr, Nat.add_zero, Nat.mod_eq_of_lt hns]
  | false =>
    have harrivals : Arrivals { receiver with log := [] } call skb stretch.frames.length := {
      space := hlink.space
      nr_lt := by
        rw [hlink.nr, hcount]
        exact hns
      reordering := htimeout
      skip := hlink.skip.trans hfresh
      queue := hlink.queue
      handler := hlink.sending.mirror.handler
      window := horderly.window
      admitted := fun j hj ↦ (hsome j hj).admitted
      hasSeq := fun j hj ↦ (hsome j hj).hasSeq
      ns := fun j hj ↦ by rw [(hsome j hj).ns, hcount, hlink.nr] }
    have hflat : Flat { receiver with log := [] } 0 stretch.frames.length 0 := by
      intro j _ hj
      have hwrap := horderly.wrap
      rw [hcount, hlink.nr, Nat.mod_eq_of_lt (by omega), Nat.add_zero]
    have htimely : Timely call skb stretch.order := by
      refine ⟨fun j hj ↦ hself j (hlt j hj), ?_⟩
      refine List.Pairwise.imp_of_mem ?_ horderly.timely
      intro earlier later hearlier hlater htime
      rwa [hexpires earlier (hlt earlier hearlier), (hsome later (hlt later hlater)).env]
    have hperm : stretch.order.Perm (List.range' 0 (stretch.frames.length - 0)) := by
      rw [Nat.sub_zero, ← List.range_eq_range']
      exact horderly.once
    have hend := harrivals.inStep_start.recvAll_perm harrivals hflat le_rfl (Nat.zero_le _) hperm
      htimely
    rwa [Nat.sub_zero, ← List.range_eq_range'] at hend

/-- A receiver that has kept its setup is still the other end of the sender. -/
theorem MirroredV2.of_sameSetup {receiver' : Flow n} (hmirror : MirroredV2 sender receiver)
    (hparams : receiver'.session.toSessionParams = receiver.session.toSessionParams)
    (hhooks : receiver'.session.toSessionHooks = receiver.session.toSessionHooks)
    (htunnel : receiver'.tunnel.setup = receiver.tunnel.setup) : MirroredV2 sender receiver' := by
  obtain ⟨stats, hstats⟩ := L2tpTunnel.eq_of_setup htunnel
  exact {
    builder := hmirror.builder
    senderUdp := hmirror.senderUdp
    hdrLen := hmirror.hdrLen
    ns := hmirror.ns
    version := by rw [hstats]; exact hmirror.version
    sessionId := by rw [hparams]; exact hmirror.sessionId
    sessionId_lt := by rw [hparams]; exact hmirror.sessionId_lt
    cookie := by rw [hparams]; exact hmirror.cookie
    l2specificLen := by rw [hparams]; exact hmirror.l2specificLen
    hook := by rw [hstats]; exact hmirror.hook
    handler := by rw [hhooks]; exact hmirror.handler }

/-- One stretch: its frames are handed over in the order in which they were sent, and the two ends
are in step again. -/
theorem Stretch.Orderly.delivers (horderly : stretch.Orderly hash net i fresh sender receiver)
    (hlink : PppLink hash net i fresh sender receiver) :
    ∃ net' receiver', recvPackets hash net stretch.packets = some net' ∧
      PppLink hash net' i false (sendFrames sender stretch.frames) receiver' ∧
      SameSetup receiver receiver' ∧ SameSetups net net' ∧
      (deliveredTo net' i).map SkBuff.data =
        (deliveredTo net i).map SkBuff.data ++ stretch.frames.map (·.skb.data) := by
  obtain ⟨call, skb, hdecoded⟩ := horderly.decoded hlink
  have hinstep := horderly.inStep hlink hdecoded
  have hstart : Tracks net i { receiver with log := [] } net := Tracks.start (by
    rw [L2tpNet.flow, hlink.registered.session, Option.bind_some, hlink.registered.tunnel,
      Option.map_some])
  obtain ⟨net', hnet', htracks⟩ := hstart.recvPackets horderly.csum
  rw [horderly.calls fun j hj ↦ (hdecoded j _ (List.getElem?_eq_getElem hj)).callFor,
    List.foldl_map] at htracks
  change Tracks net i (recvAll { receiver with log := [] } call stretch.order) _ at htracks
  generalize recvAll { receiver with log := [] } call stretch.order = flow at hinstep htracks
  have hparams : flow.session.toSessionParams = receiver.session.toSessionParams := hinstep.params
  have hhooks : flow.session.toSessionHooks = receiver.session.toSessionHooks := hinstep.hooks
  obtain ⟨tunnel, htunnel, -⟩ := Option.map_eq_some_iff.mp htracks.tunnel
  have hsetup : tunnel.setup = receiver.tunnel.setup := by
    have hsame := htracks.same.tunnels flow.session.tunnel
    rw [htunnel, hparams, hlink.registered.tunnel] at hsame
    exact Option.some.inj hsame
  obtain ⟨hsending, hns⟩ := hlink.sending.sendFrames horderly.sendable
  have hcount : receiver.session.seqCount = 65536 := by
    rw [SessionParams.seqCount, hlink.nrMax]
    rfl
  refine ⟨net', ⟨tunnel, flow.session, []⟩, hnet', ?_, ?_, htracks.same, ?_⟩
  · exact {
      sending := ⟨hsending.mirror.of_sameSetup hparams hhooks hsetup, hsending.connected,
        hsending.sendSeq⟩
      registered := ⟨htracks.session, htunnel, by
        rw [htracks.same.l2tpSessionFind_eq, hparams]
        exact hlink.registered.find⟩
      space := by rw [hparams]; exact hlink.space
      nrMax := by rw [hparams]; exact hlink.nrMax
      nr := by
        rw [← UInt32.toNat_inj, hns, hinstep.nr, hcount, hlink.nr]
      timeout := by rw [hinstep.timeout]; exact hlink.timeout
      skip := hinstep.skip
      queue := hinstep.queue }
  · have hversion : tunnel.setup.version = receiver.tunnel.setup.version := by rw [hsetup]
    exact ⟨hversion, hparams, hhooks, hinstep.timeout⟩
  · rw [deliveredTo, htracks.log, delivered_append, hinstep.log, List.nil_append, List.map_append,
      List.map_map]
    refine congrArg _ (List.ext_getElem (by simp) fun j hj hj' ↦ ?_)
    rw [List.length_map] at hj'
    simp [(hdecoded j _ (List.getElem?_eq_getElem hj')).data]

/-- A connection from some point on: one orderly stretch after the other. -/
def OrderlyRun (hash : SessionHash) (net : L2tpNet n) (i : ℕ) (receiver : Flow n) :
    Bool → Flow n → List (Stretch n) → Prop
  | _, _, [] => True
  | fresh, sender, stretch :: stretches =>
    stretch.Orderly hash net i fresh sender receiver ∧
      OrderlyRun hash net i receiver false (sendFrames sender stretch.frames) stretches

/-- A stretch is orderly whatever has been received before. -/
theorem Stretch.Orderly.congr {net' : L2tpNet n} {receiver' : Flow n}
    (hsetups : SameSetups net net') (hsetup : SameSetup receiver receiver')
    (horderly : stretch.Orderly hash net i fresh sender receiver) :
    stretch.Orderly hash net' i fresh sender receiver' := by
  have hcall (packet : UdpPacket n) : packet.callFor hash net' i = packet.callFor hash net i := by
    simp only [UdpPacket.callFor, hsetups.verdict_eq]
  exact {
    sendable := horderly.sendable
    carried := by rw [hsetup.params]; exact horderly.carried
    once := horderly.once
    arrive := by simp only [hcall]; exact horderly.arrive
    csum := horderly.csum
    timely := by rw [hsetup.timeout]; exact horderly.timely
    window := by rw [hsetup.params]; exact horderly.window
    wrap := horderly.wrap
    alone := horderly.alone }

theorem OrderlyRun.congr {net' : L2tpNet n} {receiver' : Flow n} {stretches : List (Stretch n)}
    (hsetups : SameSetups net net') (hsetup : SameSetup receiver receiver')
    (hrun : OrderlyRun hash net i receiver fresh sender stretches) :
    OrderlyRun hash net' i receiver' fresh sender stretches := by
  induction stretches generalizing fresh sender with
  | nil => trivial
  | cons stretch stretches ih => exact ⟨hrun.1.congr hsetups hsetup, ih hrun.2⟩

end Receiver

/-- A new PPP session with sequence numbers and a reorder timeout, connected on both ends. -/
def linkedFlow : Flow 1 where
  tunnel := (pppFlow true).tunnel
  session :=
    { newSession (newTunnel 1 hdrVer2 1 2 .udp 0) 0 7 7
        { sendSeq := true, reorderTimeout := 50 } with
      recvSkb := some .pppol2tpRecv
      ps := { sock := some 1, tunnelSock := some 0 } }
  log := []

/-- The namespace of one end. -/
def linkedNet : L2tpNet 1 :=
  { emptyNet 1 with
    tunnels := [linkedFlow.tunnel]
    sessions := [linkedFlow.session]
    tunnelList := [0] }

/-- A frame of two bytes. -/
def smallFrame (byte : UInt8) : PppFrame 1 where
  env := idleXmitEnv cpu0
  skb := { sequencedSkb 0 0 with data := [byte, byte] }

/-- A packet with these bytes. -/
def udpPacket (data : List UInt8) : UdpPacket 1 where
  env := (sequencedCall cpu0 1000 0 0).env
  badCsum := false
  t := 0
  skb := { sequencedSkb 0 0 with data }

/-- The frames, each in its packet, in the given order, behind a packet that is for no session. -/
def smallStretch (sender : Flow 1) (frames : List (PppFrame 1)) (order : List ℕ) : Stretch 1 where
  frames
  packets := udpPacket [] ::
    order.map fun j ↦ udpPacket (((packetsOf sender frames)[j]?).getD [])
  carrier := fun j ↦ udpPacket (((packetsOf sender frames)[j]?).getD [])
  order

/-- The first frame of a connection, and then two that change places on the way. -/
def swappedStretches : List (Stretch 1) :=
  [smallStretch linkedFlow [smallFrame 1] [0],
    smallStretch (sendFrames linkedFlow [smallFrame 1]) [smallFrame 2, smallFrame 3] [1, 0]]

/-- A packet for no session changes nothing for the one that gets the other packets. -/
theorem sessions_do_not_interfere_strayPacket :
    linkedNet.flow 0 = some linkedFlow ∧
      ∃ after after', recvPackets lowBits linkedNet (udpPacket [] ::
          (packetsOf linkedFlow [smallFrame 1]).map udpPacket) = some after ∧
        recvPackets lowBits linkedNet ((packetsOf linkedFlow [smallFrame 1]).map udpPacket) =
          some after' ∧
        after.sessions[0]? = after'.sessions[0]? ∧ effectsOf after 0 = effectsOf after' 0 := by
  have hstray : (udpPacket []).callFor lowBits linkedNet 0 = none :=
    Option.isNone_iff_eq_none.mp (by decide)
  have hcsum : ∀ packet ∈ (packetsOf linkedFlow [smallFrame 1]).map udpPacket,
      packet.badCsum = false :=
    List.forall_mem_map.mpr fun _ _ ↦ rfl
  exact ⟨rfl, sessions_do_not_interfere rfl (List.filterMap_cons_none hstray)
    (List.forall_mem_cons.mpr ⟨rfl, hcsum⟩) hcsum⟩

theorem sendable_smallFrame (byte : UInt8) : (smallFrame byte).Sendable := ⟨rfl, rfl, le_rfl⟩

end KernelModules.L2tp
