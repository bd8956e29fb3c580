import KernelModules.L2tp.IpBindings
import KernelModules.L2tp.System
import KernelModules.L2tp.TwinPorts

/-!
# Control messages over IP

L2TP over IP has one protocol number for two things. A data packet starts with the session id of the
peer, a control message with four bytes of zero, which `l2tp_ip_sendmsg` puts there and
`l2tp_ip_recv` takes away again; it then looks for the socket of the tunnel that the message names,
or for one that is bound to that id, and `l2tp_ip_recvmsg` hands the message out, cut to the size of
the reader's buffer.

`IpWorld` is a kernel with its namespaces, its L2TP/IP sockets, and the packets that are on their
way between them. It is a world by itself: there are no packets of other hosts and none of raw
sockets. The network may deliver any packet that has been sent, to any namespace, any number of
times and in any order, or not at all. Whatever happens, a message that a socket hands out has been
sent with `sendmsg`, byte for byte, and it was for that socket when it arrived. There is one
exception, and the code has it: nothing keeps a session from having zero for its peer's id, and what
it sends looks like a control message (`control_messages_were_sent`).

A socket that is bound to a device is never found by its binding: the lookup is done for device
zero.
-/

set_option autoImplicit false
set_option relaxedAutoImplicit false

namespace KernelModules.L2tp

open Foundations

variable {n : ℕ}

/-! ### Calls on a socket -/

/-- Error numbers of the calls. -/
inductive IpErrno
  | eafnosupport
  | eagain
  | edestaddrreq
  | efault
  | ehostunreach
  | einval
  | enomem
  | enotconn
  | eopnotsupp
  | other (number : ℕ)
  deriving DecidableEq, Repr

/-- What `connect` leaves in a socket: `inet->inet_daddr`, `inet->inet_dport` and
`lsk->peer_conn_id`. -/
structure IpPeer where
  daddr : UInt32 := 0
  dport : UInt16 := 0
  connId : UInt32 := 0

/-- `struct sockaddr_l2tpip` and its length. The field after the family is not used by the protocol;
`connect` takes it for a port. -/
structure SockaddrL2tpip where
  unused : UInt16
  addr : UInt32
  connId : UInt32
  len : ℕ

/-- A call of `l2tp_ip_connect`, and what `ip4_datagram_connect` answers: an error, or the source
address of the route. -/
structure IpConnectCall where
  name : SockaddrL2tpip
  multicast : Bool
  datagramConnect : Except IpErrno UInt32

/-- `l2tp_ip_connect`. -/
def l2tpIpConnect (table : IpTable UInt32) (peer : IpPeer) (i : ℕ) (sk : IpSock UInt32)
    (call : IpConnectCall) : IpTable UInt32 × IpPeer × Except IpErrno Unit :=
  if sk.zapped then (table, peer, .error .einval)
  else if call.name.len < sizeofSockaddrL2tpip then (table, peer, .error .einval)
  else if call.multicast then (table, peer, .error .einval)
  else
    match call.datagramConnect with
    | .error errno => (table, peer, .error errno)
    | .ok saddr =>
      let sk :=
        { sk with
          saddr := if sk.saddr = 0 then saddr else sk.saddr
          rcvSaddr := if sk.rcvSaddr = 0 then saddr else sk.rcvSaddr
          tcpClose := false }
      ({ socks := table.socks.set i sk, bindTable := i :: table.bindTable.filter (· ≠ i) },
        { daddr := call.name.addr, dport := call.name.unused, connId := call.name.connId }, .ok ())

/-- `l2tp_ip_disconnect`. Nothing tells `udp_disconnect` that the address is one the socket has been
bound to. -/
def l2tpIpDisconnect (table : IpTable UInt32) (peer : IpPeer) (i : ℕ) (sk : IpSock UInt32) :
    IpTable UInt32 × IpPeer :=
  if sk.zapped then (table, peer)
  else
    (table.onSock i { sk with saddr := 0, rcvSaddr := 0, boundDevIf := 0, tcpClose := true },
      { peer with daddr := 0, dport := 0 })

/-- A family that `l2tp_ip_sendmsg` tells apart. -/
inductive SendFamily
  | afInet
  | afUnspec
  | other
  deriving DecidableEq, Repr

/-- A call of `l2tp_ip_sendmsg`: the address, if there is one, with its length; the data, if they
can be copied; whether there is memory; a route of the socket, if it has one that is still good, and
otherwise what the routing table answers, for the address of a source route if there is one; and the
answer of `ip_queue_xmit`. -/
structure IpSendmsgCall where
  name : Option (SendFamily × UInt32 × ℕ)
  payload : Option (List UInt8)
  wmalloc : Bool := true
  dstCheck : Bool := false
  srr : Option UInt32 := none
  route : Bool := true
  queueXmit : Except IpErrno Unit := .ok ()

/-- Where `l2tp_ip_sendmsg` sends to, and whether that is what the socket is connected to. -/
def sendmsgDaddr (sk : IpSock UInt32) (peer : IpPeer) (call : IpSendmsgCall) :
    Except IpErrno (UInt32 × Bool) :=
  match call.name with
  | some (family, addr, len) =>
    if len < sizeofSockaddrL2tpip then .error .einval
    else if family = .other then .error .eafnosupport
    else .ok (addr, false)
  | none => if sk.tcpClose then .error .edestaddrreq else .ok (peer.daddr, true)

/-- `l2tp_ip_sendmsg`: the destination and the packet that is given to IP, and the return value. -/
def l2tpIpSendmsg (sk : IpSock UInt32) (peer : IpPeer) (call : IpSendmsgCall) :
    Option (UInt32 × List UInt8) × Except IpErrno ℕ :=
  if sk.released then (none, .error .enotconn)
  else
    match sendmsgDaddr sk peer call with
    | .error errno => (none, .error errno)
    | .ok (daddr, connected) =>
      if !call.wmalloc then (none, .error .enomem)
      else
        match call.payload with
        | none => (none, .error .efault)
        | some payload =>
          let cached := connected && call.dstCheck
          if !cached && !call.route then (none, .error .ehostunreach)
          else
            (some (if cached then daddr else call.srr.getD daddr, be32 0 ++ payload),
              call.queueXmit.map fun _ ↦ payload.length)

/-- A call of `l2tp_ip_recvmsg`: the size of the buffer, the flags `MSG_OOB`, `MSG_PEEK` and
`MSG_TRUNC`, and whether the buffer can be written. -/
structure IpRecvmsgCall where
  len : ℕ
  oob : Bool := false
  peek : Bool := false
  trunc : Bool := false
  writable : Bool := true

/-- What `l2tp_ip_recvmsg` hands out: the bytes, `MSG_TRUNC` in `msg->msg_flags`, and the return
value. -/
structure IpRecvmsgResult where
  bytes : List UInt8
  msgTrunc : Bool
  ret : ℕ

/-- `l2tp_ip_recvmsg` on a receive queue, without waiting. A message that cannot be copied is
lost. -/
def l2tpIpRecvmsg (queue : List (List UInt8)) (call : IpRecvmsgCall) :
    Except IpErrno IpRecvmsgResult × List (List UInt8) :=
  if call.oob then (.error .eopnotsupp, queue)
  else
    match queue with
    | [] => (.error .eagain, [])
    | msg :: rest =>
      let copied := if call.len < msg.length then call.len else msg.length
      let queue := if call.peek then msg :: rest else rest
      if !call.writable then (.error .efault, queue)
      else
        (.ok
          { bytes := msg.take copied
            msgTrunc := call.len < msg.length
            ret := if call.trunc then msg.length else copied }, queue)

/-- The part of `l2tp_ip_recv` behind `pass_up`, up to the socket that it finds. -/
def ipPassUp (net : L2tpNet n) (table : IpTable UInt32) (ns : ℕ) (daddr : UInt32) (skb : SkBuff) :
    Option ℕ :=
  if !skb.pskbMayPull 12 then none
  else if byteAt skb.mem 0 &&& 0xc0 ≠ 0xc0 then none
  else
    let tunnelId := be32At skb.mem 4
    match l2tpTunnelFind net tunnelId with
    | some t => net.tunnels[t]?.bind (·.sock)
    | none => l2tpIpBindLookup table ns daddr 0 tunnelId

/-! ### The kernel and the network -/

/-- A packet of the L2TP protocol number. -/
structure IpPacket where
  daddr : UInt32
  payload : List UInt8

/-- The namespaces and the sockets of a kernel, and all packets that have been sent. -/
structure IpWorld (n : ℕ) where
  nets : ℕ → L2tpNet n
  table : IpTable UInt32
  peers : ℕ → IpPeer
  queues : ℕ → List (List UInt8)
  wire : List IpPacket

/-- A kernel without tunnels and sockets. -/
def emptyIpWorld (n : ℕ) : IpWorld n where
  nets := fun _ ↦ emptyNet n
  table := ⟨[], []⟩
  peers := fun _ ↦ {}
  queues := fun _ ↦ []
  wire := []

/-- What can happen. A namespace changes by any of its events. A session sends by the events of the
session, and then the address of the tunnel's peer is part of the event. A packet is delivered to a
namespace in some buffer, and the socket that it is for accepts it or not. -/
inductive IpWorldEvent (n : ℕ)
  | net (ns : ℕ) (event : NetEvent n)
  | session (ns i : ℕ) (event : SessionEvent n) (daddr : UInt32)
  | sock (event : IpEvent IpBindCall)
  | connect (i : ℕ) (call : IpConnectCall)
  | disconnect (i : ℕ)
  | sendmsg (i : ℕ) (call : IpSendmsgCall)
  | deliver (ns k : ℕ) (env : Env n) (skb : SkBuff) (accepts : Bool)
  | recvmsg (i : ℕ) (call : IpRecvmsgCall)

/-- What a session gives to the network over IP. -/
def ipPackets (event : SessionEvent n) (daddr : UInt32) (flow : Flow n) : List IpPacket :=
  if flow.tunnel.encap = .ip then (event.packets flow).map fun payload ↦ { daddr, payload } else []

/-- A packet arrives at a namespace: `l2tp_ip_recv`. -/
def deliverPacket (hash : SessionHash) (world : IpWorld n) (ns : ℕ) (env : Env n) (accepts : Bool)
    (daddr : UInt32) (skb : SkBuff) : IpWorld n :=
  match ipRecvVerdict hash (world.nets ns) env skb with
  | .control skb =>
    match ipPassUp (world.nets ns) world.table ns daddr skb with
    | none => world
    | some i =>
      if accepts then
        { world with queues := Function.update world.queues i (world.queues i ++ [skb.data]) }
      else world
  | _ => { world with
           nets := Function.update world.nets ns (l2tpIpRecv hash (world.nets ns) env skb) }

/-- One event. -/
def ipWorldStep (hash : SessionHash) (world : IpWorld n) : IpWorldEvent n → IpWorld n
  | .net ns event =>
    { world with nets := Function.update world.nets ns (netStep hash (world.nets ns) event) }
  | .session ns i event daddr =>
    match (world.nets ns).flow i with
    | none => world
    | some flow =>
      { world with
        nets := Function.update world.nets ns ((world.nets ns).store i (sessionStep flow event))
        wire := world.wire ++ ipPackets event daddr flow }
  | .sock event =>
    { world with
      table := ipStep l2tpIpBind world.table event
      queues := match event with
        | .close i => Function.update world.queues i []
        | _ => world.queues }
  | .connect i call =>
    match world.table.live i with
    | none => world
    | some sk =>
      let (table, peer, _) := l2tpIpConnect world.table (world.peers i) i sk call
      { world with table, peers := Function.update world.peers i peer }
  | .disconnect i =>
    match world.table.live i with
    | none => world
    | some sk =>
      let (table, peer) := l2tpIpDisconnect world.table (world.peers i) i sk
      { world with table, peers := Function.update world.peers i peer }
  | .sendmsg i call =>
    match world.table.live i with
    | none => world
    | some sk =>
      match (l2tpIpSendmsg sk (world.peers i) call).1 with
      | none => world
      | some (daddr, payload) =>
        { world with wire := world.wire ++ [{ daddr, payload }] }
  | .deliver ns k env skb accepts =>
    match world.wire[k]? with
    | none => world
    | some packet =>
      deliverPacket hash world ns env accepts packet.daddr { skb with data := packet.payload }
  | .recvmsg i call =>
    match world.table.live i with
    | none => world
    | some _ =>
      { world with
        queues := Function.update world.queues i (l2tpIpRecvmsg (world.queues i) call).2 }

/-- A run from the beginning. -/
def ipWorldRun (hash : SessionHash) (events : List (IpWorldEvent n)) : IpWorld n :=
  events.foldl (ipWorldStep hash) (emptyIpWorld n)

theorem ipWorldRun_append (hash : SessionHash) (events : List (IpWorldEvent n))
    (event : IpWorldEvent n) :
    ipWorldRun hash (events ++ [event]) = ipWorldStep hash (ipWorldRun hash events) event :=
  List.foldl_concat ..

/-! ### How a data packet starts -/

theorem be32At_writeAt_behind (mem : List UInt8) {i : ℕ} (hi : 4 ≤ i) (bytes : List UInt8) :
    be32At (writeAt mem i bytes) 0 = be32At mem 0 := by
  simp only [be32At, byteAt_writeAt]
  rw [if_neg (by omega), if_neg (by omega), if_neg (by omega), if_neg (by omega)]

/-- The first word that the builder of an L2TPv3 header writes over IP is the id of the peer. -/
theorem be32At_buildL2tpv3Header {tunnel : L2tpTunnel n} (hip : tunnel.encap = .ip)
    (session : L2tpSession n) {buf : List UInt8} (hbuf : 4 ≤ buf.length) :
    be32At (l2tpBuildL2tpv3Header tunnel session buf).2 0 = session.peerSessionId := by
  have hword : be32At (writeAt buf 0 (be32 session.peerSessionId)) 0 = session.peerSessionId := by
    rw [writeAt_start (by simpa using hbuf), be32At_be32]
  simp only [l2tpBuildL2tpv3Header, hip, reduceCtorEq, if_false, buildL2specific]
  split_ifs <;> simp [be32At_writeAt_behind, hword]

theorem be32At_ne_zero_of_byte {mem : List UInt8} (hbyte : byteAt mem 1 = 2) :
    be32At mem 0 ≠ 0 := by
  intro hzero
  have hsum := toNat_be32At mem 0
  rw [hzero, Nat.zero_add, hbyte, UInt32.toNat_zero, show (2 : UInt8).toNat = 2 from rfl] at hsum
  omega

/-- That of an L2TPv2 header has the version in it. -/
theorem be32At_buildL2tpv2Header (tunnel : L2tpTunnel n) (session : L2tpSession n)
    {buf : List UInt8} (hbuf : 4 ≤ buf.length) :
    be32At (l2tpBuildL2tpv2Header tunnel session buf).2 0 ≠ 0 := by
  refine be32At_ne_zero_of_byte ?_
  unfold l2tpBuildL2tpv2Header
  dsimp only
  split_ifs
  · rw [byteAt_writeAt, if_pos ⟨Nat.zero_le 1, by simp, by omega⟩]
    rfl
  · rw [byteAt_writeAt, if_pos ⟨Nat.zero_le 1, by simp, by omega⟩]
    rfl

theorem buildHeader_start {tunnel : L2tpTunnel n} (hip : tunnel.encap = .ip)
    {session : L2tpSession n} {buf : List UInt8} {count : ℕ}
    (hlength : 4 ≤ ((buildHeader tunnel session buf).2.take count).length)
    (hzero : be32At ((buildHeader tunnel session buf).2.take count) 0 = 0) :
    session.peerSessionId = 0 := by
  rw [List.length_take, length_buildHeader, Nat.le_min] at hlength
  have htake : be32At ((buildHeader tunnel session buf).2.take count) 0 =
      be32At (buildHeader tunnel session buf).2 0 := by
    simp only [be32At]
    rw [byteAt_take (by omega), byteAt_take (by omega), byteAt_take (by omega),
      byteAt_take (by omega)]
  rw [htake, buildHeader] at hzero
  cases hbuilder : session.buildHeader with
  | l2tpBuildL2tpv2Header =>
    rw [hbuilder] at hzero
    exact absurd hzero (be32At_buildL2tpv2Header tunnel session hlength.2)
  | l2tpBuildL2tpv3Header =>
    rw [hbuilder] at hzero
    exact (be32At_buildL2tpv3Header hip session hlength.2).symm.trans hzero

/-- What a session sends over IP starts with zero only if that is the id of its peer. -/
theorem packets_start {flow : Flow n} (hip : flow.tunnel.encap = .ip) {event : SessionEvent n}
    {packet : List UInt8} (hpacket : packet ∈ event.packets flow) (hlength : 4 ≤ packet.length)
    (hzero : be32At packet 0 = 0) : flow.session.peerSessionId = 0 := by
  have hudp : ¬flow.tunnel.encap = .udp := by simp [hip]
  unfold SessionEvent.packets at hpacket
  cases hxmit : event.xmit flow with
  | none => simp [hxmit] at hpacket
  | some call =>
    obtain ⟨env, skb⟩ := call
    simp only [hxmit, Option.elim_some, xmitPackets] at hpacket
    cases hcow : skbCowHead env.cowHead skb (env.netSkbPad + iphdrSize + uhlen flow.tunnel +
        flow.session.hdrLen.toNat) with
    | none => simp [hcow] at hpacket
    | some roomy =>
      simp only [hcow] at hpacket
      split_ifs at hpacket
      · simp at hpacket
      · rw [List.mem_singleton, xmitPacket, if_neg hudp] at hpacket
        obtain ⟨hroom, -, -⟩ := skbCowHead_eq hcow
        have hroomHeader : flow.session.hdrLen.toNat ≤ roomy.head.length := by omega
        obtain ⟨front, region, -, -, -, -, hdata⟩ := data_pushHeader hroomHeader flow
        rw [hpacket, hdata] at hlength hzero
        exact buildHeader_start hip hlength hzero

/-! ### Messages and where they come from -/

/-- The socket a message is for when it arrives: that of the tunnel it names, or, if there is no
such tunnel, one that is bound to the id, to the address and to no device. -/
inductive Addressee (world : IpWorld n) (ns : ℕ) (daddr tunnelId : UInt32) (i : ℕ) : Prop
  | tunnel {t : ℕ} {tunnel : L2tpTunnel n}
      (hfind : l2tpTunnelFind (world.nets ns) tunnelId = some t)
      (htunnel : (world.nets ns).tunnels[t]? = some tunnel) (hsock : tunnel.sock = some i)
  | bound {sk : IpSock UInt32} (hfind : l2tpTunnelFind (world.nets ns) tunnelId = none)
      (hbind : i ∈ world.table.bindTable) (hsock : world.table.socks[i]? = some sk)
      (hbound : BoundTo ns daddr 0 tunnelId sk)

/-- What `l2tp_ip_recv` asks of a control message: twelve bytes, and the bits T and L. -/
structure ControlMessage (msg : List UInt8) : Prop where
  length : 12 ≤ msg.length
  bits : byteAt msg 0 &&& 0xc0 = 0xc0

/-- The event sends a message in this packet: it is a call of `sendmsg` with the message, or a
session sends it whose peer has the id zero. -/
inductive SendsMessage (world : IpWorld n) (packet : IpPacket) (msg : List UInt8) :
    IpWorldEvent n → Prop
  | sendmsg {i : ℕ} {call : IpSendmsgCall} {sk : IpSock UInt32}
      (hlive : world.table.live i = some sk) (hmsg : call.payload = some msg)
      (hpacket : (l2tpIpSendmsg sk (world.peers i) call).1 = some (packet.daddr, packet.payload)) :
      SendsMessage world packet msg (.sendmsg i call)
  | session {ns i : ℕ} {event : SessionEvent n} {daddr : UInt32} {flow : Flow n}
      (hflow : (world.nets ns).flow i = some flow) (hpeer : flow.session.peerSessionId = 0)
      (hpacket : packet ∈ ipPackets event daddr flow) :
      SendsMessage world packet msg (.session ns i event daddr)

/-- At some moment of a run the message has been sent in this packet. -/
def WasSent (hash : SessionHash) (events : List (IpWorldEvent n)) (packet : IpPacket)
    (msg : List UInt8) : Prop :=
  ∃ before event after, events = before ++ event :: after ∧
    SendsMessage (ipWorldRun hash before) packet msg event

/-- A message has been received by a socket in a run: at some moment of it a packet in which this
message had been sent has been delivered, and the message was for that socket. -/
inductive Received (hash : SessionHash) (events : List (IpWorldEvent n)) (i : ℕ)
    (msg : List UInt8) : Prop
  | mk {before after : List (IpWorldEvent n)} {ns k : ℕ} {env : Env n} {skb : SkBuff}
      {packet : IpPacket} (hevents : events = before ++ .deliver ns k env skb true :: after)
      (hpacket : (ipWorldRun hash before).wire[k]? = some packet)
      (hpayload : packet.payload = be32 0 ++ msg) (hsent : WasSent hash before packet msg)
      (hmessage : ControlMessage msg)
      (haddressee : Addressee (ipWorldRun hash before) ns packet.daddr (be32At msg 4) i) :
      Received hash events i msg

theorem Received.append {hash : SessionHash} {events : List (IpWorldEvent n)} {i : ℕ}
    {msg : List UInt8} (hreceived : Received hash events i msg) (event : IpWorldEvent n) :
    Received hash (events ++ [event]) i msg := by
  obtain ⟨rfl, hpacket, hpayload, hsent, hmessage, haddressee⟩ := hreceived
  exact ⟨List.append_assoc .., hpacket, hpayload, hsent, hmessage, haddressee⟩

theorem WasSent.append {hash : SessionHash} {events : List (IpWorldEvent n)} {packet : IpPacket}
    {msg : List UInt8} (hsent : WasSent hash events packet msg) (event : IpWorldEvent n) :
    WasSent hash (events ++ [event]) packet msg := by
  obtain ⟨before, first, after, rfl, hsends⟩ := hsent
  exact ⟨before, first, after ++ [event], List.append_assoc .., hsends⟩

/-- Only a session whose peer has the id zero sends a packet that starts like a control message. -/
theorem peerSessionId_of_mem_ipPackets {event : SessionEvent n} {daddr : UInt32} {flow : Flow n}
    {packet : IpPacket} (hpacket : packet ∈ ipPackets event daddr flow) {msg : List UInt8}
    (hpayload : packet.payload = be32 0 ++ msg) : flow.session.peerSessionId = 0 := by
  unfold ipPackets at hpacket
  split_ifs at hpacket with hip
  · obtain ⟨payload, hmem, rfl⟩ := List.mem_map.mp hpacket
    obtain rfl : payload = be32 0 ++ msg := hpayload
    exact packets_start hip hmem (by simp) (be32At_be32 0 msg)
  · simp at hpacket

/-- What `sendmsg` gives to IP is its message behind four bytes of zero. -/
theorem payload_l2tpIpSendmsg {sk : IpSock UInt32} {peer : IpPeer} {call : IpSendmsgCall}
    {daddr : UInt32} {payload : List UInt8}
    (hsent : (l2tpIpSendmsg sk peer call).1 = some (daddr, payload)) :
    ∃ msg, call.payload = some msg ∧ payload = be32 0 ++ msg := by
  unfold l2tpIpSendmsg at hsent
  cases hdaddr : sendmsgDaddr sk peer call with
  | error errno =>
    simp only [hdaddr] at hsent
    split_ifs at hsent
  | ok found =>
    simp only [hdaddr] at hsent
    cases hmsg : call.payload with
    | none =>
      simp only [hmsg] at hsent
      split_ifs at hsent
    | some msg =>
      simp only [hmsg] at hsent
      split_ifs at hsent
      all_goals exact ⟨msg, rfl, (Prod.mk.inj (Option.some.inj hsent)).2.symm⟩

/-- What an event adds to what is on its way. -/
theorem wire_ipWorldStep {hash : SessionHash} {world : IpWorld n} {event : IpWorldEvent n}
    {packet : IpPacket} (hpacket : packet ∈ (ipWorldStep hash world event).wire)
    {msg : List UInt8} (hpayload : packet.payload = be32 0 ++ msg) :
    packet ∈ world.wire ∨ SendsMessage world packet msg event := by
  cases event with
  | net ns event => exact .inl hpacket
  | session ns i event daddr =>
    simp only [ipWorldStep] at hpacket
    split at hpacket
    · exact .inl hpacket
    next flow hflow =>
      refine (List.mem_append.mp hpacket).imp_right fun hnew ↦ ?_
      exact .session hflow (peerSessionId_of_mem_ipPackets hnew hpayload) hnew
  | sock event => exact .inl hpacket
  | connect i call =>
    simp only [ipWorldStep] at hpacket
    split at hpacket <;> exact .inl hpacket
  | disconnect i =>
    simp only [ipWorldStep] at hpacket
    split at hpacket <;> exact .inl hpacket
  | sendmsg i call =>
    simp only [ipWorldStep] at hpacket
    split at hpacket
    · exact .inl hpacket
    next sk hlive =>
      split at hpacket
      · exact .inl hpacket
      next daddr payload hsent =>
        refine (List.mem_append.mp hpacket).imp_right fun hnew ↦ ?_
        obtain rfl := List.mem_singleton.mp hnew
        obtain ⟨msg', hmsg, heq⟩ := payload_l2tpIpSendmsg hsent
        obtain rfl := List.append_cancel_left (heq.symm.trans hpayload)
        exact .sendmsg hlive hmsg hsent
  | deliver ns k env skb accepts =>
    simp only [ipWorldStep, deliverPacket] at hpacket
    split at hpacket
    · exact .inl hpacket
    · split at hpacket
      · split at hpacket
        · exact .inl hpacket
        · split_ifs at hpacket <;> exact .inl hpacket
      · exact .inl hpacket
  | recvmsg i call =>
    simp only [ipWorldStep] at hpacket
    split at hpacket <;> exact .inl hpacket

theorem be32At_mem_of_le {skb : SkBuff} {i : ℕ} (hi : i + 4 ≤ skb.data.length) :
    be32At skb.mem i = be32At skb.data i := by
  simp only [be32At, SkBuff.mem]
  rw [byteAt_append_left _ (by omega), byteAt_append_left _ (by omega),
    byteAt_append_left _ (by omega), byteAt_append_left _ (by omega)]

theorem le_of_not_pskbMayPull {skb : SkBuff} {count : ℕ}
    (hpull : ¬(!skb.pskbMayPull count) = true) : count ≤ skb.data.length := by
  rw [Bool.not_eq_true', Bool.not_eq_false] at hpull
  exact of_decide_eq_true hpull

/-- The socket that `l2tp_ip_recv` finds. -/
theorem ipPassUp_spec {world : IpWorld n} {ns : ℕ} {daddr : UInt32} {skb : SkBuff} {i : ℕ}
    (hfound : ipPassUp (world.nets ns) world.table ns daddr skb = some i) :
    ControlMessage skb.data ∧ Addressee world ns daddr (be32At skb.data 4) i := by
  unfold ipPassUp at hfound
  split_ifs at hfound with hshort hbits
  have hlength := le_of_not_pskbMayPull hshort
  rw [not_not, SkBuff.mem, byteAt_append_left _ (by omega)] at hbits
  rw [be32At_mem_of_le (by omega)] at hfound
  refine ⟨⟨hlength, hbits⟩, ?_⟩
  cases hfind : l2tpTunnelFind (world.nets ns) (be32At skb.data 4) with
  | some t =>
    simp only [hfind] at hfound
    obtain ⟨tunnel, htunnel, hsock⟩ := Option.bind_eq_some_iff.mp hfound
    exact .tunnel hfind htunnel hsock
  | none =>
    simp only [hfind] at hfound
    rw [l2tpIpBindLookup_eq] at hfound
    obtain ⟨hmem, sk, hsock, hbound⟩ := delivers_lookupBoundTo world.table ns daddr 0 _ i hfound
    exact .bound hfind hmem hsock hbound

theorem eq_be32_zero_append {mem : List UInt8} (hlength : 4 ≤ mem.length)
    (hzero : be32At mem 0 = 0) : mem = be32 0 ++ mem.drop 4 := by
  rcases mem with _ | ⟨a, _ | ⟨b, _ | ⟨c, _ | ⟨d, rest⟩⟩⟩⟩
  case cons.cons.cons.cons =>
    have hsum : (be32At (a :: b :: c :: d :: rest) 0).toNat =
        a.toNat * 16777216 + b.toNat * 65536 + c.toNat * 256 + d.toNat :=
      toNat_be32At (a :: b :: c :: d :: rest) 0
    rw [hzero, UInt32.toNat_zero] at hsum
    have ha : a = 0 := UInt8.toNat_inj.mp (by rw [UInt8.toNat_zero]; omega)
    have hb : b = 0 := UInt8.toNat_inj.mp (by rw [UInt8.toNat_zero]; omega)
    have hc : c = 0 := UInt8.toNat_inj.mp (by rw [UInt8.toNat_zero]; omega)
    have hd : d = 0 := UInt8.toNat_inj.mp (by rw [UInt8.toNat_zero]; omega)
    rw [ha, hb, hc, hd]
    rfl
  all_goals simp at hlength

/-- A control message behind its four bytes of zero. -/
theorem ipRecvVerdict_control {hash : SessionHash} {net : L2tpNet n} {env : Env n}
    {skb msg : SkBuff} (hverdict : ipRecvVerdict hash net env skb = .control msg) :
    skb.data = be32 0 ++ msg.data := by
  unfold ipRecvVerdict at hverdict
  dsimp only at hverdict
  split_ifs at hverdict with hshort hzero
  · have hlength := le_of_not_pskbMayPull hshort
    rw [be32At_mem_of_le (by omega)] at hzero
    rw [← IpVerdict.control.inj hverdict]
    exact eq_be32_zero_append hlength hzero
  · split at hverdict <;> cases hverdict

/-- Reading takes messages away, and adds none. -/
theorem mem_l2tpIpRecvmsg {queue : List (List UInt8)} {call : IpRecvmsgCall} {msg : List UInt8}
    (hmsg : msg ∈ (l2tpIpRecvmsg queue call).2) : msg ∈ queue := by
  unfold l2tpIpRecvmsg at hmsg
  by_cases hoob : call.oob = true
  · rwa [if_pos hoob] at hmsg
  rw [if_neg hoob] at hmsg
  cases queue with
  | nil => exact hmsg
  | cons first rest =>
    have hrest : msg ∈ if call.peek then first :: rest else rest := by
      dsimp only at hmsg
      split_ifs at hmsg ⊢ <;> exact hmsg
    split_ifs at hrest
    · exact hrest
    · exact List.mem_cons_of_mem _ hrest

/-- What an event adds to the messages of a socket. -/
theorem queues_ipWorldStep {hash : SessionHash} {world : IpWorld n} {event : IpWorldEvent n}
    {i : ℕ} {msg : List UInt8} (hmsg : msg ∈ (ipWorldStep hash world event).queues i) :
    msg ∈ world.queues i ∨ ∃ ns k env skb packet, event = .deliver ns k env skb true ∧
      world.wire[k]? = some packet ∧ packet.payload = be32 0 ++ msg ∧ ControlMessage msg ∧
      Addressee world ns packet.daddr (be32At msg 4) i := by
  cases event with
  | net ns event => exact .inl hmsg
  | session ns j event daddr =>
    simp only [ipWorldStep] at hmsg
    split at hmsg <;> exact .inl hmsg
  | sock event =>
    left
    cases event with
    | close j =>
      simp only [ipWorldStep, Function.update_apply] at hmsg
      split_ifs at hmsg
      · simp at hmsg
      · exact hmsg
    | openSock net boundDevIf => exact hmsg
    | bind j call => exact hmsg
  | connect j call =>
    simp only [ipWorldStep] at hmsg
    split at hmsg <;> exact .inl hmsg
  | disconnect j =>
    simp only [ipWorldStep] at hmsg
    split at hmsg <;> exact .inl hmsg
  | sendmsg j call =>
    simp only [ipWorldStep] at hmsg
    split at hmsg
    · exact .inl hmsg
    · split at hmsg <;> exact .inl hmsg
  | deliver ns k env skb accepts =>
    simp only [ipWorldStep] at hmsg
    split at hmsg
    · exact .inl hmsg
    next packet hpacket =>
      unfold deliverPacket at hmsg
      split at hmsg
      next msg' hverdict =>
        split at hmsg
        · exact .inl hmsg
        next j hfound =>
          split_ifs at hmsg with haccepts
          · simp only [Function.update_apply] at hmsg
            split_ifs at hmsg with hij
            · refine (List.mem_append.mp hmsg).imp (by rw [hij]; exact id) fun hnew ↦ ?_
              obtain ⟨hmessage, haddressee⟩ := ipPassUp_spec hfound
              rw [List.mem_singleton.mp hnew, hij, haccepts]
              exact ⟨ns, k, env, skb, packet, rfl, hpacket, ipRecvVerdict_control hverdict,
                hmessage, haddressee⟩
            · exact .inl hmsg
          · exact .inl hmsg
      · exact .inl hmsg
  | recvmsg j call =>
    simp only [ipWorldStep] at hmsg
    split at hmsg
    · exact .inl hmsg
    · simp only [Function.update_apply] at hmsg
      split_ifs at hmsg with hij
      · rw [hij]
        exact .inl (mem_l2tpIpRecvmsg hmsg)
      · exact .inl hmsg

/-- A packet on its way that starts like a control message has been sent as one. -/
theorem wasSent_of_mem_wire {hash : SessionHash} {events : List (IpWorldEvent n)}
    {packet : IpPacket} (hpacket : packet ∈ (ipWorldRun hash events).wire) {msg : List UInt8}
    (hpayload : packet.payload = be32 0 ++ msg) : WasSent hash events packet msg := by
  induction events using List.reverseRecOn with
  | nil => exact absurd hpacket List.not_mem_nil
  | append_singleton events event ih =>
    rw [ipWorldRun_append] at hpacket
    rcases wire_ipWorldStep hpacket hpayload with hold | hsends
    · exact (ih hold).append event
    · exact ⟨events, event, [], rfl, hsends⟩

/-- Whatever is waiting at a socket has been received. -/
theorem received_of_mem {hash : SessionHash} {events : List (IpWorldEvent n)} {i : ℕ}
    {msg : List UInt8} (hmsg : msg ∈ (ipWorldRun hash events).queues i) :
    Received hash events i msg := by
  induction events using List.reverseRecOn with
  | nil => exact absurd hmsg List.not_mem_nil
  | append_singleton events event ih =>
    rw [ipWorldRun_append] at hmsg
    obtain hold | ⟨ns, k, env, skb, packet, rfl, hpacket, hpayload, hmessage, haddressee⟩ :=
      queues_ipWorldStep hmsg
    · exact (ih hold).append event
    · exact ⟨rfl, hpacket, hpayload,
        wasSent_of_mem_wire (List.mem_of_getElem? hpacket) hpayload, hmessage, haddressee⟩

/-- What a reader is handed is the start of a message that is waiting. -/
theorem l2tpIpRecvmsg_ok {queue : List (List UInt8)} {call : IpRecvmsgCall}
    {result : IpRecvmsgResult} (hresult : (l2tpIpRecvmsg queue call).1 = .ok result) :
    ∃ msg ∈ queue, result.bytes = msg.take call.len ∧
      (result.msgTrunc = true ↔ call.len < msg.length) ∧
      result.ret = if call.trunc then msg.length else result.bytes.length := by
  unfold l2tpIpRecvmsg at hresult
  by_cases hoob : call.oob = true
  · rw [if_pos hoob] at hresult
    cases hresult
  rw [if_neg hoob] at hresult
  cases queue with
  | nil => cases hresult
  | cons msg rest =>
    dsimp only at hresult
    by_cases hwritable : (!call.writable) = true
    · rw [if_pos hwritable] at hresult
      cases hresult
    rw [if_neg hwritable] at hresult
    obtain rfl := Except.ok.inj hresult
    refine ⟨msg, List.mem_cons_self, ?_, decide_eq_true_iff, ?_⟩
    · dsimp only
      split_ifs with hlen
      · rfl
      · rw [List.take_length, List.take_of_length_le (Nat.le_of_not_lt hlen)]
    · dsimp only
      rw [List.length_take]
      split_ifs <;> omega

/-- Every message that a socket hands out has been sent before it arrived, byte for byte, by a call
of `sendmsg` or by a session whose peer has the id zero, and it was for this socket when it arrived.
It is cut exactly if the reader is told so. Assumes: nobody else sends packets of the protocol. -/
theorem control_messages_were_sent {hash : SessionHash} {events : List (IpWorldEvent n)} {i : ℕ}
    {call : IpRecvmsgCall} {result : IpRecvmsgResult}
    (hresult : (l2tpIpRecvmsg ((ipWorldRun hash events).queues i) call).1 = .ok result) :
    ∃ msg, Received hash events i msg ∧ result.bytes = msg.take call.len ∧
      (result.msgTrunc = true ↔ call.len < msg.length) ∧
      result.ret = if call.trunc then msg.length else result.bytes.length := by
  obtain ⟨msg, hmem, hspec⟩ := l2tpIpRecvmsg_ok hresult
  exact ⟨msg, received_of_mem hmem, hspec⟩

/-- A message for the connection id 7. -/
def helloMsg : List UInt8 := [0xc8, 3, 0, 12, 0, 0, 0, 7, 0, 0, 0, 0]

/-- A socket is bound to an id, sends a message for this id, and gets it. -/
def messageToSelf : List (IpWorldEvent 1) :=
  [.sock (.openSock 0 0), .sock (.bind 0 { addr := 1, connId := 7 }),
    .sendmsg 0 { name := some (.afInet, 1, 16), payload := some helloMsg },
    .deliver 0 0 (sequencedCall cpu0 0 0 0).env (sequencedSkb 0 0) true]

/-- The reader, whose buffer is too short, is told so. -/
theorem control_messages_were_sent_toSelf :
    ∃ result, (l2tpIpRecvmsg ((ipWorldRun lowBits messageToSelf).queues 0) { len := 10 }).1 =
        .ok result ∧ result.bytes = helloMsg.take 10 ∧ result.msgTrunc = true ∧
      ∃ msg, Received lowBits messageToSelf 0 msg ∧ result.bytes = msg.take 10 ∧
        10 < msg.length := by
  have hresult : (l2tpIpRecvmsg ((ipWorldRun lowBits messageToSelf).queues 0) { len := 10 }).1 =
      .ok { bytes := helloMsg.take 10, msgTrunc := true, ret := 10 } := rfl
  obtain ⟨msg, hreceived, hbytes, htrunc, -⟩ := control_messages_were_sent hresult
  exact ⟨_, hresult, rfl, rfl, msg, hreceived, hbytes, htrunc.mp rfl⟩

end KernelModules.L2tp
