import KernelModules.Foundations.Faults
import KernelModules.L2tp.Net

/-!
# Reference counts of tunnels, sessions and tunnel sockets

A tunnel is freed when its `ref_count` drops to zero, and a session when its own does. The socket of
a tunnel has a count as well, and when that drops to zero the kernel calls `l2tp_tunnel_destruct`.
The counters hold each other: a session holds its tunnel and the socket of the tunnel, the socket
holds the tunnel, and so does a work item that has been queued to delete the tunnel.

The functions here are those of `l2tp_core.c` that move the counters, for tunnels whose socket was
made by the kernel (`fd < 0`) and for pseudowires that have no socket per session. They work on a
namespace and its counters, and stop with a fault where the code runs into a `BUG_ON` or hands a
null pointer to `sock_hold` or `sock_put`. The destructor runs inside `sock_put`, and it closes
sessions, which calls `sock_put` again; as it first takes the socket from the tunnel, that nests at
most once per tunnel, and `depth` bounds it.

Of the kernel it is assumed that `sk_release_kernel` drops the reference that came with the creation
of the socket, once, and that work is queued only if it is not pending. Whether it also calls the
destroy hook of the socket is left open (`hooked`).
-/

set_option autoImplicit false
set_option relaxedAutoImplicit false

namespace KernelModules.L2tp

open Foundations

variable {n : ℕ}

/-! ### The counters -/

/-- What stops a function of the code. -/
inductive Fault
  /-- The condition of a `BUG_ON` holds. -/
  | bugOn
  /-- `sock_hold` or `sock_put` on a null pointer. -/
  | nullSock
  /-- The destructor runs inside itself more often than there are tunnels. -/
  | depth
  deriving DecidableEq, Repr

/-- What has been run. A call of `l2tp_tunnel_free` is noted with the `sock` of the tunnel and the
sessions that point to it. -/
inductive LifeEvent
  | destruct (t : ℕ)
  | sessionFree (i : ℕ)
  | tunnelFree (t : ℕ) (sock : Option ℕ) (left : List ℕ)
  deriving DecidableEq, Repr

/-- A namespace with its counters. -/
structure Lifetimes (n : ℕ) where
  net : L2tpNet n
  /-- `tunnel->ref_count`. -/
  tunnelRefs : ℕ → ℤ
  /-- Whether `tunnel->del_work` is pending. -/
  delWork : ℕ → Bool
  /-- `session->ref_count`. -/
  sessionRefs : ℕ → ℤ
  /-- `session->tunnel`. -/
  sessionTunnel : ℕ → Option ℕ
  /-- The number of tunnel sockets there have been. -/
  skCount : ℕ
  /-- `sk->sk_refcnt`. -/
  skRefcnt : ℕ → ℤ
  /-- `sk->sk_user_data`. -/
  skUserData : ℕ → Option ℕ
  /-- Whether `sk->sk_socket` is there, and with it the reference of its creation. -/
  skSocket : ℕ → Bool
  log : List LifeEvent

/-- Before any tunnel. -/
def noLifetimes (n : ℕ) : Lifetimes n where
  net := emptyNet n
  tunnelRefs := fun _ ↦ 0
  delWork := fun _ ↦ false
  sessionRefs := fun _ ↦ 0
  sessionTunnel := fun _ ↦ none
  skCount := 0
  skRefcnt := fun _ ↦ 0
  skUserData := fun _ ↦ none
  skSocket := fun _ ↦ false
  log := []

namespace Lifetimes

/-- `tunnel->sock`. -/
def sockOf (st : Lifetimes n) (t : ℕ) : Option ℕ := st.net.tunnels[t]?.bind (·.sock)

/-- The sessions that point to a tunnel. -/
def left (st : Lifetimes n) (t : ℕ) : List ℕ :=
  (List.range st.net.sessions.length).filter fun i ↦ st.sessionTunnel i = some t

/-- Note what has been run. -/
def record (st : Lifetimes n) (event : LifeEvent) : Lifetimes n :=
  { st with log := st.log ++ [event] }

/-- Add to the count of a tunnel. -/
def addTunnelRefs (st : Lifetimes n) (t : ℕ) (change : ℤ) : Lifetimes n :=
  { st with tunnelRefs := Function.update st.tunnelRefs t (st.tunnelRefs t + change) }

/-- Add to the count of a session. -/
def addSessionRefs (st : Lifetimes n) (i : ℕ) (change : ℤ) : Lifetimes n :=
  { st with sessionRefs := Function.update st.sessionRefs i (st.sessionRefs i + change) }

/-- Add to the count of a socket. -/
def addSkRefcnt (st : Lifetimes n) (sk : ℕ) (change : ℤ) : Lifetimes n :=
  { st with skRefcnt := Function.update st.skRefcnt sk (st.skRefcnt sk + change) }

/-! ### Tunnels -/

/-- `l2tp_tunnel_inc_refcount`. -/
def l2tpTunnelIncRefcount (st : Lifetimes n) (t : ℕ) : Lifetimes n := st.addTunnelRefs t 1

/-- `l2tp_tunnel_free`. -/
def l2tpTunnelFree (st : Lifetimes n) (t : ℕ) : Except Fault (Lifetimes n) :=
  if st.tunnelRefs t ≠ 0 then .error .bugOn
  else if (st.sockOf t).isSome then .error .bugOn
  else .ok (st.record (.tunnelFree t (st.sockOf t) (st.left t)))

/-- `l2tp_tunnel_dec_refcount`. -/
def l2tpTunnelDecRefcount (st : Lifetimes n) (t : ℕ) : Except Fault (Lifetimes n) :=
  let st := st.addTunnelRefs t (-1)
  if st.tunnelRefs t = 0 then st.l2tpTunnelFree t else .ok st

/-! ### Sockets -/

/-- `sock_hold`. -/
def sockHold (st : Lifetimes n) (sk : Option ℕ) : Except Fault (Lifetimes n) :=
  match sk with
  | none => .error .nullSock
  | some sk => .ok (st.addSkRefcnt sk 1)

/-- What is called on a socket whose count has dropped to zero. -/
abbrev Destructor (n : ℕ) := Lifetimes n → ℕ → Except Fault (Lifetimes n)

/-- `sock_put`. -/
def sockPut (destruct : Destructor n) (st : Lifetimes n) (sk : Option ℕ) :
    Except Fault (Lifetimes n) :=
  match sk with
  | none => .error .nullSock
  | some sk =>
    let st := st.addSkRefcnt sk (-1)
    if st.skRefcnt sk = 0 then destruct st sk else .ok st

/-- `l2tp_sock_to_tunnel`: the tunnel of a socket, which is held if there is one. -/
def l2tpSockToTunnel (destruct : Destructor n) (st : Lifetimes n) (sk : ℕ) :
    Except Fault (Lifetimes n × Option ℕ) := do
  let st ← st.sockHold (some sk)
  match st.skUserData sk with
  | some t => .ok (st, some t)
  | none =>
    let st ← st.sockPut destruct (some sk)
    .ok (st, none)

/-! ### Sessions -/

/-- `l2tp_session_free`. -/
def l2tpSessionFree (destruct : Destructor n) (st : Lifetimes n) (i : ℕ) :
    Except Fault (Lifetimes n) :=
  if st.sessionRefs i ≠ 0 then .error .bugOn
  else
    let st := st.record (.sessionFree i)
    match st.sessionTunnel i with
    | none => .ok st
    | some t => do
      let st ← st.sockPut destruct (st.sockOf t)
      let st := { st with sessionTunnel := Function.update st.sessionTunnel i none }
      st.l2tpTunnelDecRefcount t

/-- `l2tp_session_dec_refcount`. -/
def l2tpSessionDecRefcount (destruct : Destructor n) (st : Lifetimes n) (i : ℕ) :
    Except Fault (Lifetimes n) :=
  let st := st.addSessionRefs i (-1)
  if st.sessionRefs i = 0 then st.l2tpSessionFree destruct i else .ok st

/-- `l2tp_session_create`, which may find no memory. -/
def l2tpSessionCreate (hash : SessionHash) (st : Lifetimes n) (alloc : Bool) (t : ℕ)
    (sessionId peerSessionId : UInt32) (cfg : L2tpSessionCfg) : Except Fault (Lifetimes n) :=
  match alloc, st.net.tunnels[t]? with
  | true, some tunnel => do
    let i := st.net.sessions.length
    let st := { st with
      sessionRefs := Function.update st.sessionRefs i 1
      sessionTunnel := Function.update st.sessionTunnel i (some t) }
    let st := st.l2tpTunnelIncRefcount t
    let st ← st.sockHold tunnel.sock
    .ok { st with
      net := L2tp.l2tpSessionCreate hash st.net t tunnel sessionId peerSessionId cfg }
  | _, _ => .ok st

/-- `l2tp_session_delete`. -/
def l2tpSessionDelete (env : Env n) (destruct : Destructor n) (st : Lifetimes n) (i : ℕ) :
    Except Fault (Lifetimes n) :=
  { st with net := L2tp.l2tpSessionDelete env st.net i }.l2tpSessionDecRefcount destruct i

/-- A session is in the table of its tunnel. -/
def isHashed (st : Lifetimes n) (i : ℕ) : Bool :=
  st.net.sessions[i]?.any fun session ↦
    (List.finRange 16).any fun bucket ↦ i ∈ st.net.chain session.tunnel bucket

/-- One turn of the loop over a chain: close the session at its head. -/
def closeStep (env : Env n) (destruct : Destructor n) (t : ℕ) (bucket : Fin 16)
    (st : Lifetimes n) : Option (Except Fault (Lifetimes n)) :=
  match st.net.chain t bucket with
  | [] => none
  | i :: _ =>
    some ({ st with net := closeSession env st.net i }.l2tpSessionDecRefcount destruct i)

/-- `l2tp_tunnel_closeall`. -/
def l2tpTunnelCloseall (env : Env n) (destruct : Destructor n) (st : Lifetimes n) (t : ℕ) :
    Except Fault (Lifetimes n) :=
  (List.finRange 16).foldlM (fun st bucket ↦
    drainM (closeStep env destruct t bucket) (st.net.chain t bucket).length st) st

/-! ### The end of a tunnel -/

/-- The start of `l2tp_tunnel_destruct`: the socket and the tunnel lose each other, and the tunnel
leaves the list. -/
def unhook (st : Lifetimes n) (t sk : ℕ) : Lifetimes n :=
  { st with
    skUserData := Function.update st.skUserData sk none
    net :=
      { st.net.onTunnel t fun tunnel ↦ { tunnel with sock := none } with
        tunnelList := st.net.tunnelList.filter (· ≠ t) } }

/-- `l2tp_tunnel_destruct`, the destructor of a tunnel socket. -/
def l2tpTunnelDestruct (env : Env n) : (depth : ℕ) → Destructor n
  | 0, _, _ => .error .depth
  | depth + 1, st, sk =>
    match st.skUserData sk with
    | none => .ok st
    | some t => do
      let st := (st.unhook t sk).record (.destruct t)
      let st ← st.l2tpTunnelCloseall env (l2tpTunnelDestruct env depth) t
      st.l2tpTunnelDecRefcount t

/-- The destructor, as deep as it can nest. -/
def destructor (env : Env n) (st : Lifetimes n) : Destructor n :=
  l2tpTunnelDestruct env (st.net.tunnels.length + 1)

/-- `l2tp_udp_encap_destroy`, and the same part of `l2tp_ip_destroy_sock` and
`l2tp_ip6_destroy_sock`: the hook the kernel may call when a socket is released. -/
def destroySock (env : Env n) (destruct : Destructor n) (st : Lifetimes n) (sk : ℕ) :
    Except Fault (Lifetimes n) := do
  match ← st.l2tpSockToTunnel destruct sk with
  | (st, none) => .ok st
  | (st, some t) =>
    let st ← st.l2tpTunnelCloseall env destruct t
    st.sockPut destruct (some sk)

/-- The kernel calls the hook, or it does not. -/
def destroyHook (env : Env n) (destruct : Destructor n) (hooked : Bool) (st : Lifetimes n)
    (sk : ℕ) : Except Fault (Lifetimes n) :=
  if hooked then st.destroySock env destruct sk else .ok st

/-- `sk_release_kernel`: the reference of the creation is dropped, once. -/
def skReleaseKernel (env : Env n) (destruct : Destructor n) (hooked : Bool) (st : Lifetimes n)
    (sk : ℕ) : Except Fault (Lifetimes n) :=
  if st.skSocket sk then do
    let st ← st.destroyHook env destruct hooked sk
    let st := { st with skSocket := Function.update st.skSocket sk false }
    st.sockPut destruct (some sk)
  else .ok st

/-- `l2tp_tunnel_sock_lookup` for a socket of the kernel. -/
def l2tpTunnelSockLookup (st : Lifetimes n) (t : ℕ) : Except Fault (Lifetimes n × Option ℕ) := do
  let sk := st.sockOf t
  let st ← st.sockHold sk
  .ok (st, sk)

/-- `l2tp_tunnel_sock_put` for a socket of the kernel. -/
def l2tpTunnelSockPut (destruct : Destructor n) (st : Lifetimes n) (sk : ℕ) :
    Except Fault (Lifetimes n) := do
  match ← st.l2tpSockToTunnel destruct sk with
  | (st, none) => st.sockPut destruct (some sk)
  | (st, some _) =>
    let st ← st.sockPut destruct (some sk)
    st.sockPut destruct (some sk)

/-- `l2tp_tunnel_del_work` for a socket of the kernel, which is its branch for `fd < 0`. -/
def l2tpTunnelDelWork (env : Env n) (destruct : Destructor n) (hooked : Bool) (st : Lifetimes n)
    (t : ℕ) : Except Fault (Lifetimes n) := do
  match ← st.l2tpTunnelSockLookup t with
  | (st, none) => st.l2tpTunnelDecRefcount t
  | (st, some sk) =>
    let st ← st.skReleaseKernel env destruct hooked sk
    let st ← st.l2tpTunnelSockPut destruct sk
    st.l2tpTunnelDecRefcount t

/-- `l2tp_tunnel_delete`. -/
def l2tpTunnelDelete (env : Env n) (destruct : Destructor n) (st : Lifetimes n) (t : ℕ) :
    Except Fault (Lifetimes n) := do
  let st := st.l2tpTunnelIncRefcount t
  let st ← st.l2tpTunnelCloseall env destruct t
  -- `queue_work` answers `false` if the work is pending already.
  if st.delWork t then st.l2tpTunnelDecRefcount t
  else .ok { st with delWork := Function.update st.delWork t true }

/-- `l2tp_tunnel_sock_create`, if it succeeds: a new socket, with the next number. -/
def l2tpTunnelSockCreate (st : Lifetimes n) : Lifetimes n :=
  { st with
    skCount := st.skCount + 1
    skRefcnt := Function.update st.skRefcnt st.skCount 1
    skSocket := Function.update st.skSocket st.skCount true }

/-- `l2tp_tunnel_create` with a socket of the kernel. If the socket is made and the rest fails, the
socket stays behind. -/
def l2tpTunnelCreate (st : Lifetimes n) (err : Option Errno) (protocolOk alloc : Bool)
    (version : ℕ) (tunnelId peerTunnelId : UInt32) (encap : L2tpEncap) : Lifetimes n :=
  match err with
  | some _ => st
  | none =>
    let sk := st.skCount
    let st := st.l2tpTunnelSockCreate
    match L2tp.l2tpTunnelCreate st.net { sk := .ok sk, protocolOk, alloc } version tunnelId
      peerTunnelId encap with
    | (_, .error _) => st
    | (net, .ok t) =>
      { st with
        net
        tunnelRefs := Function.update st.tunnelRefs t 1
        delWork := Function.update st.delWork t false
        skUserData := Function.update st.skUserData sk (some t) }

/-! ### Runs -/

/-- What can happen. -/
inductive LifeOp (n : ℕ)
  | tunnelCreate (err : Option Errno) (protocolOk alloc : Bool) (version : ℕ)
      (tunnelId peerTunnelId : UInt32) (encap : L2tpEncap)
  | sessionCreate (alloc : Bool) (t : ℕ) (sessionId peerSessionId : UInt32) (cfg : L2tpSessionCfg)
  | sessionDelete (env : Env n) (i : ℕ)
  | closeall (env : Env n) (t : ℕ)
  | tunnelDelete (env : Env n) (t : ℕ)
  | delWork (env : Env n) (hooked : Bool) (t : ℕ)

/-- One operation. The code gets hold of a tunnel through the list of tunnels and of a session
through the tables, and work is run if it is pending, which it then no longer is. -/
def step (hash : SessionHash) (st : Lifetimes n) : LifeOp n → Except Fault (Lifetimes n)
  | .tunnelCreate err protocolOk alloc version tunnelId peerTunnelId encap =>
    .ok (st.l2tpTunnelCreate err protocolOk alloc version tunnelId peerTunnelId encap)
  | .sessionCreate alloc t sessionId peerSessionId cfg =>
    if t ∈ st.net.tunnelList then st.l2tpSessionCreate hash alloc t sessionId peerSessionId cfg
    else .ok st
  | .sessionDelete env i =>
    if st.isHashed i then st.l2tpSessionDelete env (st.destructor env) i else .ok st
  | .closeall env t =>
    if t ∈ st.net.tunnelList then st.l2tpTunnelCloseall env (st.destructor env) t else .ok st
  | .tunnelDelete env t =>
    if t ∈ st.net.tunnelList then st.l2tpTunnelDelete env (st.destructor env) t else .ok st
  | .delWork env hooked t =>
    if st.delWork t then
      { st with delWork := Function.update st.delWork t false }.l2tpTunnelDelWork env
        (st.destructor env) hooked t
    else .ok st

end Lifetimes

end KernelModules.L2tp
