import KernelModules.L2tp.Conservation
import KernelModules.L2tp.HeaderReads
import KernelModules.L2tp.SessionTables

/-!
# What becomes of a packet over UDP

`l2tp_udp_recv_core` answers 0 for a packet that it has dealt with and 1 for one that goes on to
user space. In the first case the packet has to be in exactly one place: in the reorder queue of a
session, with the receive handler, or freed. In the second case it has to be as it came, with the
UDP header put back, and nothing may have happened to the namespace.

This is so exactly if the packet does not fail the checksum on a tunnel that has a socket
(`udp_disposition_iff`). At the label `discard_bad_csum` no session has been looked up, and the
statistics are taken from a null pointer.

`udpRecvCore` is `l2tp_udp_recv_core` with the packet it leaves behind; `l2tpUdpRecvCore`, which the
namespace as a whole uses, is the same function without it (`l2tpUdpRecvCore_eq`).
-/

set_option autoImplicit false
set_option relaxedAutoImplicit false

namespace KernelModules.L2tp

open Foundations

variable {n : ℕ}

/-! ### The packet that is left behind -/

/-- Pushing back what has been pulled. -/
theorem SkBuff.skbPush_skbPull {skb : SkBuff} {count : ℕ} (hcount : count ≤ skb.len) :
    (skb.skbPull count).skbPush count = skb := by
  have htake : (skb.data.take count).length = count := List.length_take_of_le hcount
  have hheadroom : (skb.head ++ skb.data.take count).length - count = skb.head.length := by
    rw [List.length_append, htake, Nat.add_sub_cancel]
  unfold SkBuff.skbPush SkBuff.skbPull
  dsimp only
  rw [hheadroom, List.take_left, List.drop_left, List.take_append_drop]

/-- How `l2tp_udp_recv_core` ends: in a null pointer, with 0, or with 1 and the packet. -/
inductive UdpReturn
  | oops
  | zero
  | one (skb : SkBuff)
  deriving DecidableEq, Repr

/-- `l2tp_udp_recv_core` on a packet for the tunnel with number `t`. -/
def udpRecvCore (hash : SessionHash) (net : L2tpNet n) (env : Env n) (badCsum : Bool) (t : ℕ)
    (tunnel : L2tpTunnel n) (skb : SkBuff) (hook : Option PayloadHook) : L2tpNet n × UdpReturn :=
  match udpRecvVerdict hash net env badCsum t tunnel skb hook with
  | .badCsum => (net, .oops)
  | .passUp => (net, .one ((skb.skbPull udphdrSize).skbPush udphdrSize))
  | .session i call => (net.onFlow i fun flow ↦ l2tpRecvCommon flow call, .zero)

/-- The return value without the packet. -/
def UdpReturn.outcome : UdpReturn → UdpOutcome
  | .oops => .oops
  | .zero => .consumed
  | .one _ => .passUp

theorem l2tpUdpRecvCore_eq (hash : SessionHash) {net : L2tpNet n} (env : Env n) (badCsum : Bool)
    {t : ℕ} {tunnel : L2tpTunnel n} (htunnel : net.tunnels[t]? = some tunnel) (skb : SkBuff) :
    l2tpUdpRecvCore hash net env badCsum t skb =
      ((udpRecvCore hash net env badCsum t tunnel skb tunnel.recvPayloadHook).1,
        (udpRecvCore hash net env badCsum t tunnel skb tunnel.recvPayloadHook).2.outcome) := by
  unfold l2tpUdpRecvCore udpRecvCore
  rw [htunnel]
  dsimp only
  cases udpRecvVerdict hash net env badCsum t tunnel skb tunnel.recvPayloadHook <;> rfl

/-! ### Frames of a namespace -/

/-- The frames that have been handed over or freed, or wait in a queue. -/
def L2tpNet.frameIds (net : L2tpNet n) : List ℕ :=
  (delivered (net.log.map Prod.snd) ++ freed (net.log.map Prod.snd) ++
    net.sessions.flatMap (·.reorderQ)).map SkBuff.id

/-- Every session has its tunnel. -/
def Housed (net : L2tpNet n) : Prop :=
  ∀ session ∈ net.sessions, (net.tunnels[session.tunnel]?).isSome

/-- Whatever happens to a namespace, every session has its tunnel. -/
theorem WellLinked.housedNet {hash : SessionHash} {net : L2tpNet n}
    (hwell : WellLinked hash net.tables) : Housed net := by
  intro session hmem
  obtain ⟨i, hi⟩ := List.getElem?_of_mem hmem
  have hhoused := hwell.housed i session.entry (by simp [L2tpNet.tables, hi])
  simpa [L2tpNet.tables, L2tpSession.entry] using hhoused

theorem Housed.flow {net : L2tpNet n} (hhoused : Housed net) {i : ℕ} {session : L2tpSession n}
    (hsession : net.sessions[i]? = some session) : ∃ flow, net.flow i = some flow := by
  obtain ⟨tunnel, htunnel⟩ :=
    Option.isSome_iff_exists.mp (hhoused session (List.mem_of_getElem? hsession))
  exact ⟨{ tunnel, session, log := [] }, by rw [L2tpNet.flow, hsession, Option.bind_some, htunnel,
    Option.map_some]⟩

/-- The frames that a session takes in are taken in by the namespace. -/
theorem frameIds_store {net : L2tpNet n} {i : ℕ} {flow flow' : Flow n} {ids : List ℕ}
    (hflow : net.flow i = some flow)
    (hframes : ((frames flow').map SkBuff.id).Perm (ids ++ (frames flow).map SkBuff.id)) :
    (net.store i flow').frameIds.Perm (ids ++ net.frameIds) := by
  obtain ⟨hsession, -, hlog⟩ := L2tpNet.flow_eq_some hflow
  rw [List.perm_iff_count] at hframes ⊢
  intro id
  have htaken := hframes id
  have hqueues := count_flatMap_set hsession flow'.session
    (fun session ↦ session.reorderQ.map SkBuff.id) id
  have hsnd : (flow'.log.map (i, ·)).map Prod.snd = flow'.log := by
    rw [List.map_map]
    exact List.map_id _
  simp only [frames, hlog, delivered, freed, List.nil_append, List.map_append,
    List.count_append] at htaken
  simp only [L2tpNet.frameIds, L2tpNet.store, List.map_append, hsnd, delivered_append,
    freed_append, List.map_flatMap, List.count_append]
  omega

/-! ### Disposition -/

/-- Either the packet is now in exactly one place, or it and the namespace are as they were. -/
def Disposed (net : L2tpNet n) (skb : SkBuff) : L2tpNet n × UdpReturn → Prop
  | (_, .oops) => False
  | (net', .zero) => net'.frameIds.Perm (skb.id :: net.frameIds)
  | (net', .one skb') => skb' = skb ∧ net' = net

theorem disposed_session {net : L2tpNet n} (hhoused : Housed net) {i : ℕ}
    (hhandler : (net.sessions[i]?.bind (·.recvSkb)).isNone = false) (call : RecvCall n) :
    (net.onFlow i fun flow ↦ l2tpRecvCommon flow call).frameIds.Perm
      (call.skb.id :: net.frameIds) := by
  obtain ⟨session, hsession⟩ : ∃ session, net.sessions[i]? = some session := by
    cases hsession : net.sessions[i]? with
    | none => simp [hsession] at hhandler
    | some session => exact ⟨session, rfl⟩
  obtain ⟨flow, hflow⟩ := hhoused.flow hsession
  rw [L2tpNet.onFlow, hflow]
  have hframes : ((frames (l2tpRecvCommon flow call)).map SkBuff.id).Perm
      ([call.skb.id] ++ (frames flow).map SkBuff.id) :=
    frames_l2tpRecvCommon flow call
  exact frameIds_store hflow hframes

/-- A packet over UDP is consumed exactly once or passed up as it came, unless its checksum is bad
and the tunnel has a socket. Assumes: the packet has its UDP header, and every session of the
namespace has its tunnel, which is so in every namespace there can be (`WellLinked.housedNet`). -/
theorem udp_disposition_iff {net : L2tpNet n} (hhoused : Housed net) {skb : SkBuff}
    (hlen : udphdrSize ≤ skb.len) (hash : SessionHash) (env : Env n) (badCsum : Bool) (t : ℕ)
    (tunnel : L2tpTunnel n) (hook : Option PayloadHook) :
    Disposed net skb (udpRecvCore hash net env badCsum t tunnel skb hook) ↔
      ¬ (tunnel.sock.isSome = true ∧ badCsum = true) := by
  rw [← Bool.and_eq_true]
  unfold udpRecvCore
  cases hverdict : udpRecvVerdict hash net env badCsum t tunnel skb hook with
  | badCsum =>
    exact iff_of_false id (not_not.mpr ((udpRecvVerdict_eq_badCsum_iff ..).mp hverdict))
  | passUp =>
    refine iff_of_true ⟨SkBuff.skbPush_skbPull hlen, rfl⟩ fun hcsum ↦ ?_
    rw [(udpRecvVerdict_eq_badCsum_iff ..).mpr hcsum] at hverdict
    exact absurd hverdict (by simp)
  | session i call =>
    obtain ⟨hdata, rfl⟩ := (udpRecvVerdict_eq_session_iff ..).mp hverdict
    refine iff_of_true (disposed_session hhoused hdata.handler _) ?_
    rw [hdata.checksum]
    exact Bool.false_ne_true

theorem housed_pppNet (sendSeq : Bool) : Housed (pppNet sendSeq) := by
  intro session hmem
  rw [List.mem_singleton.mp hmem]
  rfl

theorem udp_disposition_truncated :
    Disposed (pppNet false) truncatedUdp (udpRecvCore lowBits (pppNet false)
      (sequencedCall cpu0 0 0 0).env false 0 (pppFlow false).tunnel truncatedUdp none) :=
  (udp_disposition_iff (housed_pppNet false) (by decide) _ _ _ _ _ _).mpr (by decide)

theorem not_disposed_badCsum :
    ¬ Disposed (pppNet false) truncatedUdp (udpRecvCore lowBits (pppNet false)
      (sequencedCall cpu0 0 0 0).env true 0 (pppFlow false).tunnel truncatedUdp none) :=
  id

end KernelModules.L2tp
