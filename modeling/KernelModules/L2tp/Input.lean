import KernelModules.L2tp.Net

/-!
# Where received packets go

`l2tp_udp_recv_core` and `l2tp_ip_recv`: from a packet to the session it is for. Over UDP the
session is looked up in the table of the tunnel that owns the socket, over IP in the table of the
namespace. What each of them decides is a verdict, and the call of `l2tp_recv_common` is part of it.
-/

set_option autoImplicit false
set_option relaxedAutoImplicit false

namespace KernelModules.L2tp

open Foundations

variable {n : ℕ}

/-! ### UDP -/

/-- What `l2tp_udp_recv_core` decides about a packet. -/
inductive UdpVerdict (n : ℕ)
  | badCsum
  | passUp
  | session (i : ℕ) (call : RecvCall n)

/-- The session id in the header, and the position behind it. -/
def udpSessionId (version : ℕ) (mem : List UInt8) (hdrflags : UInt16) : UInt32 × ℕ :=
  if version = hdrVer2 then
    if hdrflags &&& hdrflagL ≠ 0 then ((be16At mem 6).toUInt32, 8)
    else ((be16At mem 4).toUInt32, 6)
  else (be32At mem 4, 8)

/-- `l2tp_udp_recv_core` up to its call of `l2tp_recv_common`, on a packet that starts with the UDP
header. `badCsum` is the answer of `l2tp_verify_udp_checksum`. -/
def udpRecvVerdict (hash : SessionHash) (net : L2tpNet n) (env : Env n) (badCsum : Bool) (t : ℕ)
    (tunnel : L2tpTunnel n) (skb : SkBuff) (hook : Option PayloadHook) : UdpVerdict n :=
  if tunnel.sock.isSome && badCsum then .badCsum
  else
    let skb := skb.skbPull udphdrSize
    let hdrflags := be16At skb.mem 0
    if !skb.pskbMayPull hdrSizeSeq then .passUp
    else if (hdrflags &&& hdrVerMask).toNat ≠ tunnel.version then .passUp
    else if hdrflags &&& hdrflagT ≠ 0 then .passUp
    else
      let (sessionId, ptr) := udpSessionId tunnel.version skb.mem hdrflags
      match l2tpSessionFind hash net (some t) sessionId with
      | none => .passUp
      | some i =>
        if (net.sessions[i]?.bind (·.recvSkb)).isNone then .passUp
        else .session i { env, skb, ptr, hdrflags, length := skb.len, hook }

/-- What has become of a packet given to `l2tp_udp_recv_core`. At a bad checksum it writes
statistics through a session pointer that is still null. -/
inductive UdpOutcome
  | oops
  | passUp
  | consumed
  deriving DecidableEq, Repr

/-- `l2tp_udp_recv_core`, as `l2tp_udp_encap_recv` calls it for the tunnel with number `t`. -/
def l2tpUdpRecvCore (hash : SessionHash) (net : L2tpNet n) (env : Env n) (badCsum : Bool) (t : ℕ)
    (skb : SkBuff) : L2tpNet n × UdpOutcome :=
  match net.tunnels[t]? with
  | none => (net, .passUp)
  | some tunnel =>
    match udpRecvVerdict hash net env badCsum t tunnel skb tunnel.recvPayloadHook with
    | .badCsum => (net, .oops)
    | .passUp => (net, .passUp)
    | .session i call => (net.onFlow i fun flow ↦ l2tpRecvCommon flow call, .consumed)

/-- A packet that goes to a session: which session that is, and what it is called with. -/
theorem udpRecvVerdict_session {hash : SessionHash} {net : L2tpNet n} {env : Env n} {badCsum : Bool}
    {t : ℕ} {tunnel : L2tpTunnel n} {skb : SkBuff} {hook : Option PayloadHook} {i : ℕ}
    {call : RecvCall n}
    (hverdict : udpRecvVerdict hash net env badCsum t tunnel skb hook = .session i call) :
    call.skb = skb.skbPull udphdrSize ∧
      call.ptr = (udpSessionId tunnel.version call.skb.mem (be16At call.skb.mem 0)).2 ∧
      l2tpSessionFind hash net (some t)
        (udpSessionId tunnel.version call.skb.mem (be16At call.skb.mem 0)).1 = some i ∧
      (net.sessions[i]?.bind (·.recvSkb)).isSome := by
  unfold udpRecvVerdict at hverdict
  dsimp only at hverdict
  split_ifs at hverdict
  cases hfind : l2tpSessionFind hash net (some t) (udpSessionId tunnel.version
    (skb.skbPull udphdrSize).mem (be16At (skb.skbPull udphdrSize).mem 0)).1 with
  | none => simp [hfind] at hverdict
  | some found =>
    simp only [hfind] at hverdict
    split_ifs at hverdict with hhandler
    obtain ⟨rfl, rfl⟩ := UdpVerdict.session.inj hverdict
    exact ⟨rfl, rfl, hfind, by rwa [Option.isNone_iff_eq_none, ← ne_eq,
      Option.ne_none_iff_isSome] at hhandler⟩

/-- The checksum is found to be wrong only if there is a socket to check it for. -/
theorem udpRecvVerdict_eq_badCsum_iff (hash : SessionHash) (net : L2tpNet n) (env : Env n)
    (badCsum : Bool) (t : ℕ) (tunnel : L2tpTunnel n) (skb : SkBuff) (hook : Option PayloadHook) :
    udpRecvVerdict hash net env badCsum t tunnel skb hook = .badCsum ↔
      (tunnel.sock.isSome && badCsum) = true := by
  refine ⟨fun hverdict ↦ ?_, fun hcsum ↦ if_pos hcsum⟩
  unfold udpRecvVerdict at hverdict
  dsimp only at hverdict
  split_ifs at hverdict with hcsum
  · exact hcsum
  · split at hverdict
    · exact absurd hverdict (by simp)
    · split_ifs at hverdict

/-! ### IP -/

/-- What `l2tp_ip_recv` decides about a packet. A control frame goes to user space, or is
discarded. -/
inductive IpVerdict (n : ℕ)
  | discard
  | control (skb : SkBuff)
  | session (i : ℕ) (call : RecvCall n)

/-- `l2tp_ip_recv` up to its call of `l2tp_recv_common`. -/
def ipRecvVerdict (hash : SessionHash) (net : L2tpNet n) (env : Env n) (skb : SkBuff) :
    IpVerdict n :=
  if !skb.pskbMayPull 4 then .discard
  else
    let sessionId := be32At skb.mem 0
    if sessionId = 0 then .control (skb.skbPull 4)
    else
      match (l2tpSessionFind hash net none sessionId).bind fun i ↦ (net.flow i).map (i, ·) with
      | none => .discard
      | some (i, flow) =>
        .session i
          { env, skb, ptr := 4, hdrflags := 0, length := skb.len,
            hook := flow.tunnel.recvPayloadHook }

/-- A packet that goes to a session: which session that is, and what it is called with. -/
theorem ipRecvVerdict_session {hash : SessionHash} {net : L2tpNet n} {env : Env n} {skb : SkBuff}
    {i : ℕ} {call : RecvCall n} (hverdict : ipRecvVerdict hash net env skb = .session i call) :
    call.skb = skb ∧ call.ptr = 4 ∧ be32At skb.mem 0 ≠ 0 ∧
      l2tpSessionFind hash net none (be32At skb.mem 0) = some i := by
  unfold ipRecvVerdict at hverdict
  dsimp only at hverdict
  split_ifs at hverdict with hshort hcontrol
  cases hfind : (l2tpSessionFind hash net none (be32At skb.mem 0)).bind fun i ↦
    (net.flow i).map (i, ·) with
  | none => simp [hfind] at hverdict
  | some found =>
    obtain ⟨found, flow⟩ := found
    simp only [hfind] at hverdict
    obtain ⟨rfl, rfl⟩ := IpVerdict.session.inj hverdict
    obtain ⟨i, hi, hflow⟩ := Option.bind_eq_some_iff.mp hfind
    obtain ⟨flow', -, heq⟩ := Option.map_eq_some_iff.mp hflow
    obtain ⟨rfl, rfl⟩ := Prod.mk.inj heq
    exact ⟨rfl, rfl, hcontrol, hi⟩

/-- `l2tp_ip_recv`. -/
def l2tpIpRecv (hash : SessionHash) (net : L2tpNet n) (env : Env n) (skb : SkBuff) : L2tpNet n :=
  match ipRecvVerdict hash net env skb with
  | .discard => net
  | .control _ => net
  | .session i call => net.onFlow i fun flow ↦ l2tpRecvCommon flow call

/-- The receiver is session `i` of the namespace, and the lookup in the table of tunnel `t`, or in
that of the namespace, finds it under its id. -/
structure Registered (hash : SessionHash) (net : L2tpNet n) (t : Option ℕ) (i : ℕ)
    (receiver : Flow n) : Prop where
  session : net.sessions[i]? = some receiver.session
  tunnel : net.tunnels[receiver.session.tunnel]? = some receiver.tunnel
  find : l2tpSessionFind hash net t receiver.session.sessionId = some i

end KernelModules.L2tp
