import KernelModules.Foundations.HashChains
import KernelModules.Foundations.Lists
import KernelModules.L2tp.Receive
import KernelModules.L2tp.Session

/-!
# The tunnels and sessions of a network namespace

`struct l2tp_net` and what hangs off it. Tunnels and sessions are known by the order of their
creation, and one that has been deleted keeps its number and what it last held, so that its counters
can still be spoken of: what makes it reachable for the code are the tunnel list and the hash
chains. Every session is in a chain of its tunnel, and one of an L2TPv3 tunnel is in a chain of the
namespace as well.

The functions here are those of `l2tp_core.c` that work on the tables: lookup, creation, unlinking
and closing. `hash_32` is a parameter.
-/

set_option autoImplicit false
set_option relaxedAutoImplicit false

namespace KernelModules.L2tp

open Foundations

variable {n : ℕ}

/-! ### The state of a namespace -/

/-- The `struct sock` of a PPPoL2TP socket: whether it is connected or dead, and the session it is
attached to. -/
structure PppoxSock where
  connected : Bool := false
  dead : Bool := false
  userData : Option ℕ := none
  deriving DecidableEq, Repr

/-- `struct l2tp_net`, with all tunnels, sessions and PPPoL2TP sockets there have been, and the
effects of the data path, each with the session that had it. -/
structure L2tpNet (n : ℕ) where
  tunnels : List (L2tpTunnel n)
  sessions : List (L2tpSession n)
  tunnelList : List ℕ
  sessionHlist : Fin 256 → List ℕ
  socks : List PppoxSock
  log : List (ℕ × Effect)

/-- A namespace without tunnels. -/
def emptyNet (n : ℕ) : L2tpNet n where
  tunnels := []
  sessions := []
  tunnelList := []
  sessionHlist := fun _ ↦ []
  socks := []
  log := []

/-- `hash_32` with four bits, for the table of a tunnel, and with eight, for the table of the
namespace. -/
structure SessionHash where
  hashBits : UInt32 → Fin 16
  hashBits2 : UInt32 → Fin 256

/-- Error numbers. -/
inductive Errno
  | ealready
  | ebadf
  | ebusy
  | eexist
  | efault
  | einval
  | enodev
  | enoent
  | enomem
  | enoprotoopt
  | enotconn
  | eprotonosupport
  | other (number : ℕ)
  deriving DecidableEq, Repr

/-- A hash function that takes the lower bits. -/
def lowBits : SessionHash where
  hashBits id := Fin.ofNat 16 id.toNat
  hashBits2 id := Fin.ofNat 256 id.toNat

namespace L2tpNet

/-- The id of a session. -/
def sessionId (net : L2tpNet n) (i : ℕ) : Option UInt32 := net.sessions[i]?.map (·.sessionId)

/-- A session with its tunnel, as the data path finds them. -/
def flow (net : L2tpNet n) (i : ℕ) : Option (Flow n) :=
  net.sessions[i]?.bind fun session ↦
    net.tunnels[session.tunnel]?.map fun tunnel ↦ { tunnel, session, log := [] }

/-- What the data path of a session leaves behind. -/
def store (net : L2tpNet n) (i : ℕ) (flow : Flow n) : L2tpNet n :=
  { net with
    tunnels := net.tunnels.set flow.session.tunnel flow.tunnel
    sessions := net.sessions.set i flow.session
    log := net.log ++ flow.log.map (i, ·) }

/-- Run a function of the data path on a session. -/
def onFlow (net : L2tpNet n) (i : ℕ) (f : Flow n → Flow n) : L2tpNet n :=
  match net.flow i with
  | none => net
  | some flow => net.store i (f flow)

/-- Change a session. -/
def onSession (net : L2tpNet n) (i : ℕ) (change : L2tpSession n → L2tpSession n) : L2tpNet n :=
  { net with sessions := net.sessions.modify i change }

/-- Change a tunnel. -/
def onTunnel (net : L2tpNet n) (t : ℕ) (change : L2tpTunnel n → L2tpTunnel n) : L2tpNet n :=
  { net with tunnels := net.tunnels.modify t change }

end L2tpNet

theorem L2tpNet.flow_eq_some {net : L2tpNet n} {i : ℕ} {flow : Flow n}
    (hflow : net.flow i = some flow) :
    net.sessions[i]? = some flow.session ∧ net.tunnels[flow.session.tunnel]? = some flow.tunnel ∧
      flow.log = [] := by
  obtain ⟨session, hsession, hrest⟩ := Option.bind_eq_some_iff.mp hflow
  obtain ⟨tunnel, htunnel, rfl⟩ := Option.map_eq_some_iff.mp hrest
  exact ⟨hsession, htunnel, rfl⟩

/-- A session that has been stored is found as it was stored. -/
theorem L2tpNet.flow_store {net : L2tpNet n} {i : ℕ} {flow : Flow n}
    (hflow : net.flow i = some flow)
    {flow' : Flow n} (htunnel : flow'.session.tunnel = flow.session.tunnel) :
    (net.store i flow').flow i = some { flow' with log := [] } := by
  obtain ⟨hsession, hfound, -⟩ := L2tpNet.flow_eq_some hflow
  obtain ⟨hi, -⟩ := List.getElem?_eq_some_iff.mp hsession
  obtain ⟨ht, -⟩ := List.getElem?_eq_some_iff.mp hfound
  rw [← htunnel] at ht
  simp [L2tpNet.flow, L2tpNet.store, hi, ht]

/-! ### Lookup -/

/-- `l2tp_tunnel_find`. -/
def l2tpTunnelFind (net : L2tpNet n) (tunnelId : UInt32) : Option ℕ :=
  net.tunnelList.find? fun t ↦ net.tunnels[t]?.any (·.tunnelId = tunnelId)

/-- `l2tp_session_find_2`: in the table of the namespace. -/
def l2tpSessionFind2 (hash : SessionHash) (net : L2tpNet n) (sessionId : UInt32) : Option ℕ :=
  Chains.lookup hash.hashBits2 net.sessionId net.sessionHlist sessionId

/-- `l2tp_session_find`: in the table of a tunnel if there is one, else in that of the namespace. -/
def l2tpSessionFind (hash : SessionHash) (net : L2tpNet n) (tunnel : Option ℕ)
    (sessionId : UInt32) :
    Option ℕ :=
  match tunnel with
  | none => l2tpSessionFind2 hash net sessionId
  | some t => net.tunnels[t]?.bind fun tunnel ↦
      Chains.lookup hash.hashBits net.sessionId tunnel.sessionHlist sessionId

/-- `l2tp_session_find_by_ifname`: the first session of the table of the namespace with that
name. -/
def l2tpSessionFindByIfname (net : L2tpNet n) (ifname : String) : Option ℕ :=
  ((List.finRange 256).flatMap net.sessionHlist).find? fun i ↦
    net.sessions[i]?.any (·.ifname = ifname)

/-! ### Creation -/

/-- What `l2tp_tunnel_create` finds when it gets the tunnel socket, from a descriptor or by opening
one: an error, or the socket and whether it speaks the protocol of the encapsulation. -/
structure TunnelSocket where
  sk : Except Errno ℕ
  protocolOk : Bool := true
  alloc : Bool := true

/-- `l2tp_tunnel_create`. The socket is prepped already if it belongs to a tunnel. -/
def l2tpTunnelCreate (net : L2tpNet n) (socket : TunnelSocket) (version : ℕ)
    (tunnelId peerTunnelId : UInt32) (encap : L2tpEncap) : L2tpNet n × Except Errno ℕ :=
  match socket.sk with
  | .error errno => (net, .error errno)
  | .ok sk =>
    if !socket.protocolOk then (net, .error .eprotonosupport)
    else if net.tunnels.any (·.sock = some sk) then (net, .error .ebusy)
    else if !socket.alloc then (net, .error .enomem)
    else
      ({ net with
          tunnels := net.tunnels ++ [newTunnel n version tunnelId peerTunnelId encap sk]
          tunnelList := net.tunnels.length :: net.tunnelList }, .ok net.tunnels.length)

/-- `l2tp_session_create` on the tunnel with number `t`, with memory at hand: the new session, which
gets the next number, is linked into the table of its tunnel and, unless that speaks L2TPv2, into
the table of the namespace. -/
def l2tpSessionCreate (hash : SessionHash) (net : L2tpNet n) (t : ℕ) (tunnel : L2tpTunnel n)
    (sessionId peerSessionId : UInt32) (cfg : L2tpSessionCfg) : L2tpNet n :=
  { net with
    tunnels := net.tunnels.set t
      { tunnel with
        sessionHlist :=
          Chains.link tunnel.sessionHlist (hash.hashBits sessionId) net.sessions.length }
    sessions := net.sessions ++ [newSession tunnel t sessionId peerSessionId cfg]
    sessionHlist :=
      if tunnel.version = hdrVer2 then net.sessionHlist
      else Chains.link net.sessionHlist (hash.hashBits2 sessionId) net.sessions.length }

/-! ### Deletion -/

/-- `hlist_del_init(&session->hlist)`. -/
def hlistDelInit (net : L2tpNet n) (i : ℕ) : L2tpNet n :=
  match net.sessions[i]? with
  | none => net
  | some session => net.onTunnel session.tunnel fun tunnel ↦
      { tunnel with sessionHlist := Chains.unlink tunnel.sessionHlist i }

/-- The tunnel of a session does not speak L2TPv2. -/
def L2tpNet.isV3 (net : L2tpNet n) (i : ℕ) : Bool :=
  (net.flow i).any (·.tunnel.version ≠ hdrVer2)

/-- `__l2tp_session_unhash`: out of the table of the tunnel, and, unless that speaks L2TPv2, out of
the table of the namespace. -/
def l2tpSessionUnhash (net : L2tpNet n) (i : ℕ) : L2tpNet n :=
  { hlistDelInit net i with
    sessionHlist := if net.isV3 i then Chains.unlink net.sessionHlist i else net.sessionHlist }

/-- `l2tp_session_delete`. The close handler of a pseudowire takes down its device or socket and
leaves the tables alone. -/
def l2tpSessionDelete (env : Env n) (net : L2tpNet n) (i : ℕ) : L2tpNet n :=
  let net := net.onFlow i Flow.ref
  let net := l2tpSessionUnhash net i
  let net := net.onFlow i (l2tpSessionQueuePurge env)
  net.onFlow i Flow.deref

/-- One session in the loop of `l2tp_tunnel_closeall`. -/
def closeSession (env : Env n) (net : L2tpNet n) (i : ℕ) : L2tpNet n :=
  let net := hlistDelInit net i
  let net := net.onFlow i Flow.ref
  let net := l2tpSessionUnhash net i
  let net := net.onFlow i (l2tpSessionQueuePurge env)
  net.onFlow i Flow.deref

/-- A chain of a tunnel's table. -/
def L2tpNet.chain (net : L2tpNet n) (t : ℕ) (hash : Fin 16) : List ℕ :=
  (net.tunnels[t]?.map (·.sessionHlist hash)).getD []

/-- One turn of the loop over a chain: close the session at its head. -/
def closeStep (env : Env n) (t : ℕ) (hash : Fin 16) (net : L2tpNet n) : Option (L2tpNet n) :=
  match net.chain t hash with
  | [] => none
  | i :: _ => some (closeSession env net i)

/-- `l2tp_tunnel_closeall`: every chain is closed from its head until it is empty. -/
def l2tpTunnelCloseall (env : Env n) (net : L2tpNet n) (t : ℕ) : L2tpNet n :=
  (List.finRange 16).foldl
    (fun net hash ↦ drain (closeStep env t hash) (net.chain t hash).length net) net

/-- `l2tp_tunnel_delete`. The work it queues shuts the tunnel socket down; the tunnel leaves the
list when the socket is destroyed. -/
def l2tpTunnelDelete (env : Env n) (net : L2tpNet n) (t : ℕ) : L2tpNet n :=
  l2tpTunnelCloseall env net t

/-- `l2tp_tunnel_destruct`, the destructor of the tunnel socket. -/
def l2tpTunnelDestruct (env : Env n) (net : L2tpNet n) (t : ℕ) : L2tpNet n :=
  let net := net.onTunnel t fun tunnel ↦ { tunnel with sock := none }
  l2tpTunnelCloseall env { net with tunnelList := net.tunnelList.filter (· ≠ t) } t

end KernelModules.L2tp
