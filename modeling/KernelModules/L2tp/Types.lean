import KernelModules.Foundations.Bytes
import KernelModules.Foundations.PerCpu

/-!
# The data of the L2TP driver

The records of `l2tp_core.h`, with the fields the modelled functions read or write and with the
widths they have there. A socket buffer is the memory it points into: the bytes in front of
`skb->data`, the packet, and what follows the packet in memory, so that a read behind the packet has
a meaning. Its control block keeps whatever it held before until the receive path writes it.

A function pointer is an enumeration of the functions the repository stores there. A session owns
its per-processor statistics and knows its tunnel by its index in the namespace.

`Flow` is what the data path of one session works on: the session, its tunnel, and a log of what has
been done to the outside, which the code has no variable for: frames handed to the receive handler,
frames freed, frames given to the network, references taken and given back, and every write to
`session->nr`.
-/

set_option autoImplicit false
set_option relaxedAutoImplicit false

namespace KernelModules.L2tp

open Foundations

/-! ### Constants -/

/-- `L2TP_HDR_VER_2`. -/
def hdrVer2 : ℕ := 2

/-- `L2TP_HDR_VER_3`. -/
def hdrVer3 : ℕ := 3

/-- `L2TP_HDRFLAG_T`: a control message. -/
def hdrflagT : UInt16 := 0x8000

/-- `L2TP_HDRFLAG_L`: the length field is there. -/
def hdrflagL : UInt16 := 0x4000

/-- `L2TP_HDRFLAG_S`: sequence numbers are there. -/
def hdrflagS : UInt16 := 0x0800

/-- `L2TP_HDRFLAG_O`: the offset field is there. -/
def hdrflagO : UInt16 := 0x0200

/-- `L2TP_HDR_VER_MASK`. -/
def hdrVerMask : UInt16 := 0x000f

/-- `L2TP_HDR_SIZE_SEQ`, the shortest packet the UDP receive path looks at. -/
def hdrSizeSeq : ℕ := 10

/-- `sizeof(struct udphdr)`. -/
def udphdrSize : ℕ := 8

/-- `L2TP_L2SPECTYPE_DEFAULT`: the sublayer that carries a sequence number. -/
def l2spectypeDefault : UInt16 := 1

/-! ### Statistics -/

/-- `struct l2tp_stats`, one for each processor. -/
@[ext] structure L2tpStats where
  txPackets : UInt64 := 0
  txBytes : UInt64 := 0
  txErrors : UInt64 := 0
  rxPackets : UInt64 := 0
  rxBytes : UInt64 := 0
  rxSeqDiscards : UInt64 := 0
  rxOosPackets : UInt64 := 0
  rxErrors : UInt64 := 0
  rxCookieDiscards : UInt64 := 0
  deriving DecidableEq, Repr

/-- `struct l2tp_pcpu_stats`, the counters of an Ethernet pseudowire's device. -/
@[ext] structure L2tpPcpuStats where
  txPackets : UInt64 := 0
  txBytes : UInt64 := 0
  rxPackets : UInt64 := 0
  rxBytes : UInt64 := 0
  txDropped : UInt64 := 0
  rxErrors : UInt64 := 0
  deriving DecidableEq, Repr

/-! ### Socket buffers -/

/-- `struct l2tp_skb_cb`, what the receive path remembers about a frame. -/
structure L2tpSkbCb where
  ns : UInt32
  hasSeq : Bool
  length : UInt16
  expires : UInt64
  deriving DecidableEq, Repr

/-- `struct sk_buff`: the memory around `skb->data` and the control block. `id` tells buffers
apart. -/
structure SkBuff where
  id : ℕ
  head : List UInt8
  data : List UInt8
  tail : List UInt8
  cb : L2tpSkbCb
  deriving DecidableEq, Repr

namespace SkBuff

/-- `skb->len`. -/
def len (skb : SkBuff) : ℕ := skb.data.length

/-- What is in memory from `skb->data` on, the packet and what lies behind it. -/
def mem (skb : SkBuff) : List UInt8 := skb.data ++ skb.tail

/-- `pskb_may_pull` on a linear buffer. -/
def pskbMayPull (skb : SkBuff) (count : ℕ) : Bool := count ≤ skb.len

/-- `__skb_pull`. -/
def skbPull (skb : SkBuff) (count : ℕ) : SkBuff :=
  { skb with head := skb.head ++ skb.data.take count, data := skb.data.drop count }

/-- `__skb_push`, which uncovers what the headroom holds. -/
def skbPush (skb : SkBuff) (count : ℕ) : SkBuff :=
  { skb with
    head := skb.head.take (skb.head.length - count)
    data := skb.head.drop (skb.head.length - count) ++ skb.data }

@[simp] theorem id_skbPull (skb : SkBuff) (count : ℕ) : (skb.skbPull count).id = skb.id := rfl

@[simp] theorem cb_skbPull (skb : SkBuff) (count : ℕ) : (skb.skbPull count).cb = skb.cb := rfl

@[simp] theorem data_skbPull (skb : SkBuff) (count : ℕ) :
    (skb.skbPull count).data = skb.data.drop count := rfl

end SkBuff

/-! ### Function pointers -/

/-- The receive handlers stored in `session->recv_skb`. -/
inductive RecvHandler
  | l2tpEthDevRecv
  | pppol2tpRecv
  deriving DecidableEq, Repr

/-- The handlers stored in `session->session_close`. -/
inductive CloseHandler
  | l2tpEthDelete
  | pppol2tpSessionClose
  deriving DecidableEq, Repr

/-- The handler stored in `session->ref`. -/
inductive RefHandler
  | pppol2tpSessionSockHold
  deriving DecidableEq, Repr

/-- The handler stored in `session->deref`. -/
inductive DerefHandler
  | pppol2tpSessionSockPut
  deriving DecidableEq, Repr

/-- The hook stored in `tunnel->recv_payload_hook`. -/
inductive PayloadHook
  | pppol2tpRecvPayloadHook
  deriving DecidableEq, Repr

/-- The functions stored in `session->build_header`. -/
inductive HeaderBuilder
  | l2tpBuildL2tpv2Header
  | l2tpBuildL2tpv3Header
  deriving DecidableEq, Repr

/-! ### Sessions and tunnels -/

/-- `enum l2tp_pwtype`, with the numbers that name no pseudowire type. -/
inductive L2tpPwtype
  | none
  | ethVlan
  | eth
  | ppp
  | pppAc
  | ip
  | unassigned (number : ℕ)
  deriving DecidableEq, Repr

/-- `enum l2tp_encap_type`. -/
inductive L2tpEncap
  | udp
  | ip
  deriving DecidableEq, Repr

/-- A cookie of `cookie_len` bytes. The arrays have room for eight. -/
structure Cookie where
  bytes : List UInt8
  length_le : bytes.length ≤ 8
  deriving DecidableEq

/-- No cookie. -/
def Cookie.empty : Cookie := ⟨[], Nat.zero_le _⟩

/-- `struct pppol2tp_session`, the private data of a PPP session. A socket is known by its
number. -/
structure Pppol2tpSession where
  owner : Int32 := 0
  sock : Option ℕ := none
  tunnelSock : Option ℕ := none
  deriving DecidableEq, Repr

/-- The fields of `struct l2tp_session` that creation fixes. `tunnel` is the number of the tunnel in
the namespace. -/
structure SessionParams where
  tunnel : ℕ
  sessionId : UInt32
  peerSessionId : UInt32
  cookie : Cookie
  peerCookie : Cookie
  offset : UInt16
  l2specificLen : UInt16
  l2specificType : UInt16
  nrMax : UInt32
  nrWindowSize : UInt32
  nrOosCountMax : Int32
  pwtype : L2tpPwtype
  buildHeader : HeaderBuilder
  deriving DecidableEq

/-- The function pointers of `struct l2tp_session` that a pseudowire sets, and the private data they
work on. An Ethernet session does not use `ps`, which stays zero. -/
structure SessionHooks where
  recvSkb : Option RecvHandler := none
  sessionClose : Option CloseHandler := none
  ref : Option RefHandler := none
  deref : Option DerefHandler := none
  ps : Pppol2tpSession := {}
  deriving DecidableEq, Repr

/-- The statistics of a session, and of the device of an Ethernet session, on a machine with `n`
processors. -/
structure SessionCounters (n : ℕ) where
  stats : Fin n → L2tpStats
  dstats : Fin n → L2tpPcpuStats

/-- `struct l2tp_session`. -/
structure L2tpSession (n : ℕ) extends SessionParams, SessionHooks, SessionCounters n where
  hdrLen : UInt16
  nr : UInt32
  ns : UInt32
  reorderQ : List SkBuff
  nrOos : UInt32
  nrOosCount : Int32
  ifname : String
  recvSeq : Bool
  sendSeq : Bool
  lnsMode : Bool
  reorderTimeout : Int32
  reorderSkip : Bool
  mtu : Int32
  mru : Int32

/-- `struct l2tp_tunnel`. The hash chains hold the numbers of sessions, and `sock` is the number of
the tunnel socket. -/
structure L2tpTunnel (n : ℕ) where
  sessionHlist : Fin 16 → List ℕ
  tunnelId : UInt32
  peerTunnelId : UInt32
  version : ℕ
  encap : L2tpEncap
  stats : Fin n → L2tpStats
  recvPayloadHook : Option PayloadHook
  sock : Option ℕ

/-! ### One session's data path -/

/-- What the data path of a session does to the outside. -/
inductive Effect
  /-- The receive handler is called on a frame. -/
  | recvSkb (skb : SkBuff)
  /-- A frame is freed. -/
  | kfreeSkb (skb : SkBuff)
  /-- A frame is given to the network for output. -/
  | ipQueueXmit (skb : SkBuff)
  /-- `session->ref` takes a reference on the session's socket. -/
  | sockHold
  /-- `session->deref` gives a reference on the session's socket back. -/
  | sockPut
  /-- `session->nr` is written. -/
  | setNr (before after : UInt32)
  deriving DecidableEq, Repr

/-- A session with its tunnel, and the log of its effects. -/
structure Flow (n : ℕ) where
  tunnel : L2tpTunnel n
  session : L2tpSession n
  log : List Effect

/-- What a call finds around it: the processor it runs on, the clock, the tick rate, and the answers
of the layers above to a frame given to them. -/
structure Env (n : ℕ) where
  cpu : Fin n
  jiffies : UInt64
  hz : UInt64
  devForwardSkb : SkBuff → Bool
  pppoxBound : Bool
  sockQueueRcvSkb : SkBuff → Bool

/-- `time_after(a, b)`: the clock `a` is past `b`, with `unsigned long` clocks that wrap. -/
def timeAfter (a b : UInt64) : Bool := (b - a).toInt64 < 0

namespace Flow

variable {n : ℕ}

/-- Update the session. -/
def onSession (flow : Flow n) (change : L2tpSession n → L2tpSession n) : Flow n :=
  { flow with session := change flow.session }

/-- Record an effect. -/
def emit (flow : Flow n) (effect : Effect) : Flow n := { flow with log := flow.log ++ [effect] }

/-- Change the session's statistics on the processor that runs the call. -/
def sessionStats (flow : Flow n) (cpu : Fin n) (change : L2tpStats → L2tpStats) : Flow n :=
  flow.onSession fun session ↦ { session with stats := onCpu session.stats cpu change }

/-- Change the tunnel's statistics on the processor that runs the call. -/
def tunnelStats (flow : Flow n) (cpu : Fin n) (change : L2tpStats → L2tpStats) : Flow n :=
  { flow with tunnel := { flow.tunnel with stats := onCpu flow.tunnel.stats cpu change } }

/-- Change the device's statistics on the processor that runs the call. -/
def deviceStats (flow : Flow n) (cpu : Fin n) (change : L2tpPcpuStats → L2tpPcpuStats) : Flow n :=
  flow.onSession fun session ↦ { session with dstats := onCpu session.dstats cpu change }

/-- `pppol2tp_session_sock_hold`. -/
def pppol2tpSessionSockHold (flow : Flow n) : Flow n :=
  match flow.session.ps.sock with
  | some _ => flow.emit .sockHold
  | none => flow

/-- `pppol2tp_session_sock_put`. -/
def pppol2tpSessionSockPut (flow : Flow n) : Flow n :=
  match flow.session.ps.sock with
  | some _ => flow.emit .sockPut
  | none => flow

/-- `if (session->ref) (*session->ref)(session)`. -/
def ref (flow : Flow n) : Flow n :=
  match flow.session.ref with
  | some .pppol2tpSessionSockHold => flow.pppol2tpSessionSockHold
  | none => flow

/-- `if (session->deref) (*session->deref)(session)`. -/
def deref (flow : Flow n) : Flow n :=
  match flow.session.deref with
  | some .pppol2tpSessionSockPut => flow.pppol2tpSessionSockPut
  | none => flow

/-! ### What the primitives change -/

section

variable (flow : Flow n) (cpu : Fin n)

@[simp] theorem session_onSession (change : L2tpSession n → L2tpSession n) :
    (flow.onSession change).session = change flow.session := rfl

@[simp] theorem tunnel_onSession (change : L2tpSession n → L2tpSession n) :
    (flow.onSession change).tunnel = flow.tunnel := rfl

@[simp] theorem log_onSession (change : L2tpSession n → L2tpSession n) :
    (flow.onSession change).log = flow.log := rfl

@[simp] theorem session_emit (effect : Effect) : (flow.emit effect).session = flow.session := rfl

@[simp] theorem tunnel_emit (effect : Effect) : (flow.emit effect).tunnel = flow.tunnel := rfl

@[simp] theorem log_emit (effect : Effect) : (flow.emit effect).log = flow.log ++ [effect] := rfl

@[simp] theorem session_sessionStats (change : L2tpStats → L2tpStats) :
    (flow.sessionStats cpu change).session =
      { flow.session with stats := onCpu flow.session.stats cpu change } := rfl

@[simp] theorem tunnel_sessionStats (change : L2tpStats → L2tpStats) :
    (flow.sessionStats cpu change).tunnel = flow.tunnel := rfl

@[simp] theorem log_sessionStats (change : L2tpStats → L2tpStats) :
    (flow.sessionStats cpu change).log = flow.log := rfl

@[simp] theorem session_tunnelStats (change : L2tpStats → L2tpStats) :
    (flow.tunnelStats cpu change).session = flow.session := rfl

@[simp] theorem tunnel_tunnelStats (change : L2tpStats → L2tpStats) :
    (flow.tunnelStats cpu change).tunnel =
      { flow.tunnel with stats := onCpu flow.tunnel.stats cpu change } := rfl

@[simp] theorem log_tunnelStats (change : L2tpStats → L2tpStats) :
    (flow.tunnelStats cpu change).log = flow.log := rfl

@[simp] theorem session_deviceStats (change : L2tpPcpuStats → L2tpPcpuStats) :
    (flow.deviceStats cpu change).session =
      { flow.session with dstats := onCpu flow.session.dstats cpu change } := rfl

@[simp] theorem tunnel_deviceStats (change : L2tpPcpuStats → L2tpPcpuStats) :
    (flow.deviceStats cpu change).tunnel = flow.tunnel := rfl

@[simp] theorem log_deviceStats (change : L2tpPcpuStats → L2tpPcpuStats) :
    (flow.deviceStats cpu change).log = flow.log := rfl

end

end Flow

/-- What a call of `session->ref` does. -/
def SessionHooks.refEffects (hooks : SessionHooks) : List Effect :=
  if hooks.ref.isSome && hooks.ps.sock.isSome then [.sockHold] else []

/-- What a call of `session->deref` does. -/
def SessionHooks.derefEffects (hooks : SessionHooks) : List Effect :=
  if hooks.deref.isSome && hooks.ps.sock.isSome then [.sockPut] else []

namespace Flow

variable {n : ℕ} (flow : Flow n)

/-- `session->ref` only records what it does. -/
theorem ref_eq : flow.ref = { flow with log := flow.log ++ flow.session.refEffects } := by
  cases hsock : flow.session.ps.sock with
  | none =>
    cases href : flow.session.ref <;>
      simp [ref, pppol2tpSessionSockHold, SessionHooks.refEffects, href, hsock]
  | some sock =>
    cases href : flow.session.ref <;>
      simp [ref, pppol2tpSessionSockHold, SessionHooks.refEffects, href, hsock, emit]

/-- `session->deref` only records what it does. -/
theorem deref_eq : flow.deref = { flow with log := flow.log ++ flow.session.derefEffects } := by
  cases hsock : flow.session.ps.sock with
  | none =>
    cases hderef : flow.session.deref <;>
      simp [deref, pppol2tpSessionSockPut, SessionHooks.derefEffects, hderef, hsock]
  | some sock =>
    cases hderef : flow.session.deref <;>
      simp [deref, pppol2tpSessionSockPut, SessionHooks.derefEffects, hderef, hsock, emit]

/-- The same flow with other statistics. -/
def withStats (tstats : Fin n → L2tpStats) (counters : SessionCounters n) : Flow n :=
  { flow with
    tunnel := { flow.tunnel with stats := tstats }
    session := { flow.session with toSessionCounters := counters } }

@[simp] theorem tunnel_withStats (tstats : Fin n → L2tpStats) (counters : SessionCounters n) :
    (flow.withStats tstats counters).tunnel = { flow.tunnel with stats := tstats } := rfl

@[simp] theorem session_withStats (tstats : Fin n → L2tpStats) (counters : SessionCounters n) :
    (flow.withStats tstats counters).session =
      { flow.session with toSessionCounters := counters } := rfl

@[simp] theorem log_withStats (tstats : Fin n → L2tpStats) (counters : SessionCounters n) :
    (flow.withStats tstats counters).log = flow.log := rfl

@[simp] theorem session_ref : flow.ref.session = flow.session := by rw [ref_eq]

@[simp] theorem tunnel_ref : flow.ref.tunnel = flow.tunnel := by rw [ref_eq]

@[simp] theorem log_ref : flow.ref.log = flow.log ++ flow.session.refEffects := by rw [ref_eq]

@[simp] theorem session_deref : flow.deref.session = flow.session := by rw [deref_eq]

@[simp] theorem tunnel_deref : flow.deref.tunnel = flow.tunnel := by rw [deref_eq]

@[simp] theorem log_deref : flow.deref.log = flow.log ++ flow.session.derefEffects := by
  rw [deref_eq]

end Flow

end KernelModules.L2tp
