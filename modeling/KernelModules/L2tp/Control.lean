import KernelModules.L2tp.Net

/-!
# Management: netlink commands and PPPoL2TP sockets

The commands of `l2tp_netlink.c` on tunnels and sessions, the session creation of the two
pseudowires, and `connect`, `setsockopt` and `release` of a PPPoL2TP socket. An attribute of a
netlink message that may be missing is an option. A function answers with the namespace it leaves
behind and the error it returns, `none` for zero: some of them return an error after having changed
something.
-/

set_option autoImplicit false
set_option relaxedAutoImplicit false

namespace KernelModules.L2tp

variable {n : ℕ}

/-! ### Pseudowires -/

/-- The numbers of `enum l2tp_pwtype`. -/
def L2tpPwtype.ofNumber (number : ℕ) : L2tpPwtype :=
  match number with
  | 0 => .none
  | 4 => .ethVlan
  | 5 => .eth
  | 7 => .ppp
  | 8 => .pppAc
  | 11 => .ip
  | number => .unassigned number

/-- `__L2TP_PWTYPE_MAX`. -/
def pwtypeMax : ℕ := 12

/-- `PPPOL2TP_HEADER_OVERHEAD`. -/
def pppol2tpHeaderOverhead : Int32 := 40

/-- What the kernel answers while a session is created: whether there is memory, whether the name of
the device is taken, whether a device can be had and registered, its name and MTU, and, for
`l2tp_session_delete` when that fails, the processor. -/
structure CreateEnv (n : ℕ) where
  env : Env n
  alloc : Bool := true
  nameTaken : Bool := false
  allocNetdev : Bool := true
  registerNetdev : Option Errno := none
  devName : String := "l2tpeth0"
  devMtu : Int32 := 1500

/-- `l2tp_eth_create`. -/
def l2tpEthCreate (hash : SessionHash) (answers : CreateEnv n) (net : L2tpNet n) (tunnelId : UInt32)
    (sessionId peerSessionId : UInt32) (cfg : L2tpSessionCfg) : L2tpNet n × Option Errno :=
  match l2tpTunnelFind net tunnelId with
  | none => (net, some .enodev)
  | some t =>
    if (l2tpSessionFind hash net (some t) sessionId).isSome then (net, some .eexist)
    else if cfg.ifname.isSome && answers.nameTaken then (net, some .eexist)
    else
      match net.tunnels[t]? with
      | none => (net, some .enodev)
      | some tunnel =>
        if !answers.alloc then (net, some .enomem)
        else
          let i := net.sessions.length
          let net := l2tpSessionCreate hash net t tunnel sessionId peerSessionId cfg
          if !answers.allocNetdev then (l2tpSessionDelete answers.env net i, some .enomem)
          else
            let net := net.onSession i fun session ↦
              { session with
                mtu := if session.mtu = 0 then answers.devMtu - session.hdrLen.toUInt32.toInt32
                  else session.mtu
                recvSkb := some .l2tpEthDevRecv
                sessionClose := some .l2tpEthDelete }
            match answers.registerNetdev with
            | some errno => (l2tpSessionDelete answers.env net i, some errno)
            | none => (net.onSession i fun session ↦
                { session with ifname := answers.devName }, none)

/-- `pppol2tp_session_create`: a session that has no socket yet. -/
def pppol2tpSessionCreate (hash : SessionHash) (answers : CreateEnv n) (net : L2tpNet n)
    (tunnelId : UInt32) (sessionId peerSessionId : UInt32) (cfg : L2tpSessionCfg) :
    L2tpNet n × Option Errno :=
  match l2tpTunnelFind net tunnelId with
  | none => (net, some .enoent)
  | some t =>
    match net.tunnels[t]? with
    | none => (net, some .enoent)
    | some tunnel =>
      if tunnel.sock.isNone then (net, some .enoent)
      else if (l2tpSessionFind hash net (some t) sessionId).isSome then (net, some .eexist)
      else if !answers.alloc then (net, some .enomem)
      else
        let mtu := if cfg.mtu = 0 then 1500 - pppol2tpHeaderOverhead else cfg.mtu
        let mru := if cfg.mru = 0 then mtu else cfg.mru
        let i := net.sessions.length
        let net := l2tpSessionCreate hash net t tunnel sessionId peerSessionId { cfg with mtu, mru }
        (net.onSession i fun session ↦
          { session with ps := { session.ps with tunnelSock := tunnel.sock } }, none)

/-! ### Netlink commands -/

/-- The attributes `l2tp_nl_cmd_tunnel_create` reads. The tunnel socket stands for the descriptor,
or for the addresses and ports. -/
structure TunnelCreateRequest where
  connId : Option UInt32
  peerConnId : Option UInt32
  protoVersion : Option UInt8
  encapType : Option UInt16
  socket : Option TunnelSocket

/-- `enum l2tp_encap_type`. -/
def L2tpEncap.ofNumber (number : ℕ) : Option L2tpEncap :=
  match number with
  | 0 => some .udp
  | 1 => some .ip
  | _ => none

/-- `l2tp_nl_cmd_tunnel_create`. -/
def l2tpNlCmdTunnelCreate (net : L2tpNet n) (request : TunnelCreateRequest) :
    L2tpNet n × Option Errno :=
  match request.connId, request.peerConnId, request.protoVersion, request.encapType,
      request.socket with
  | some tunnelId, some peerTunnelId, some version, some encap, some socket =>
    if (l2tpTunnelFind net tunnelId).isSome then (net, some .eexist)
    else
      match L2tpEncap.ofNumber encap.toNat with
      | none => (net, some .einval)
      | some encap =>
        match l2tpTunnelCreate net socket version.toNat tunnelId peerTunnelId encap with
        | (net, .ok _) => (net, none)
        | (net, .error errno) => (net, some errno)
  | _, _, _, _, _ => (net, some .einval)

/-- `l2tp_nl_cmd_tunnel_delete`. -/
def l2tpNlCmdTunnelDelete (env : Env n) (net : L2tpNet n) (connId : Option UInt32) :
    L2tpNet n × Option Errno :=
  match connId with
  | none => (net, some .einval)
  | some tunnelId =>
    match l2tpTunnelFind net tunnelId with
    | none => (net, some .enodev)
    | some t => (l2tpTunnelDelete env net t, none)

/-- The attributes `l2tp_nl_cmd_session_create` reads. The timeout is in jiffies. -/
structure SessionCreateRequest where
  connId : Option UInt32
  sessionId : Option UInt32
  peerSessionId : Option UInt32
  pwType : Option UInt16
  offset : Option UInt16 := none
  l2specType : Option UInt8 := none
  l2specLen : Option UInt8 := none
  cookie : Option (List UInt8) := none
  peerCookie : Option (List UInt8) := none
  ifname : Option String := none
  vlanId : Option UInt16 := none
  recvSeq : Option UInt8 := none
  sendSeq : Option UInt8 := none
  lnsMode : Option UInt8 := none
  recvTimeout : Option UInt64 := none
  mtu : Option UInt16 := none
  mru : Option UInt16 := none

/-- A cookie attribute: `none` if it is too long. -/
def cookieOf (bytes : Option (List UInt8)) : Option Cookie :=
  match bytes with
  | none => some .empty
  | some bytes => if hlength : bytes.length ≤ 8 then some ⟨bytes, hlength⟩ else none

/-- A byte stored into a field of one bit. -/
def bitOf (value : Option UInt8) : Bool := value.any (·.toNat % 2 = 1)

/-- The configuration that `l2tp_nl_cmd_session_create` puts together, for a tunnel of the given
version. `none` is a cookie that is too long. -/
def sessionCfgOf (version : ℕ) (request : SessionCreateRequest) : Option L2tpSessionCfg :=
  let cfg : L2tpSessionCfg :=
    { pwType := L2tpPwtype.ofNumber (request.pwType.getD 0).toNat
      recvSeq := bitOf request.recvSeq
      sendSeq := bitOf request.sendSeq
      lnsMode := bitOf request.lnsMode
      reorderTimeout := (request.recvTimeout.getD 0).toUInt32.toInt32
      mtu := (request.mtu.getD 0).toUInt32.toInt32
      mru := (request.mru.getD 0).toUInt32.toInt32 }
  if version > 2 then
    (cookieOf request.cookie).bind fun cookie ↦
      (cookieOf request.peerCookie).map fun peerCookie ↦
        { cfg with
          offset := request.offset.getD 0
          l2specificType := (request.l2specType.map (·.toUInt16)).getD l2spectypeDefault
          l2specificLen := (request.l2specLen.map (·.toUInt16)).getD 4
          cookie
          peerCookie
          ifname := request.ifname }
  else some cfg

/-- `l2tp_nl_cmd_session_create`. -/
def l2tpNlCmdSessionCreate (hash : SessionHash) (answers : CreateEnv n) (net : L2tpNet n)
    (request : SessionCreateRequest) : L2tpNet n × Option Errno :=
  match request.connId with
  | none => (net, some .einval)
  | some tunnelId =>
    match (l2tpTunnelFind net tunnelId).bind fun t ↦ net.tunnels[t]?.map (t, ·) with
    | none => (net, some .enodev)
    | some (t, tunnel) =>
      match request.sessionId with
      | none => (net, some .einval)
      | some sessionId =>
        if (l2tpSessionFind hash net (some t) sessionId).isSome then (net, some .eexist)
        else
          match request.peerSessionId, request.pwType with
          | some peerSessionId, some pwType =>
            if pwtypeMax ≤ pwType.toNat then (net, some .einval)
            else
              match sessionCfgOf tunnel.version request with
              | none => (net, some .einval)
              | some cfg =>
                match cfg.pwType with
                | .eth => l2tpEthCreate hash answers net tunnelId sessionId peerSessionId cfg
                | .ppp => pppol2tpSessionCreate hash answers net tunnelId sessionId
                    peerSessionId cfg
                | _ => (net, some .eprotonosupport)
          | _, _ => (net, some .einval)

/-- How a netlink message names a session. -/
inductive SessionName
  | ifname (ifname : String)
  | ids (connId sessionId : UInt32)
  | missing

/-- `l2tp_nl_session_find`. -/
def l2tpNlSessionFind (hash : SessionHash) (net : L2tpNet n) : SessionName → Option ℕ
  | .ifname ifname => l2tpSessionFindByIfname net ifname
  | .ids connId sessionId =>
    (l2tpTunnelFind net connId).bind fun t ↦ l2tpSessionFind hash net (some t) sessionId
  | .missing => none

/-- `l2tp_nl_cmd_session_delete`. A pseudowire type without commands is not deleted, and that is no
error. -/
def l2tpNlCmdSessionDelete (hash : SessionHash) (env : Env n) (net : L2tpNet n)
    (name : SessionName) : L2tpNet n × Option Errno :=
  match l2tpNlSessionFind hash net name with
  | none => (net, some .enodev)
  | some i =>
    match net.sessions[i]?.map (·.pwtype) with
    | some L2tpPwtype.eth => (l2tpSessionDelete env net i, none)
    | some L2tpPwtype.ppp => (l2tpSessionDelete env net i, none)
    | _ => (net, none)

/-- The attributes `l2tp_nl_cmd_session_modify` reads. The timeout is in jiffies. -/
structure SessionModifyRequest where
  recvSeq : Option UInt8 := none
  sendSeq : Option UInt8 := none
  lnsMode : Option UInt8 := none
  recvTimeout : Option UInt64 := none
  mtu : Option UInt16 := none
  mru : Option UInt16 := none

/-- What `l2tp_nl_cmd_session_modify` stores in a session: an attribute that is missing changes
nothing. -/
def modifySession (tunnel : L2tpTunnel n) (request : SessionModifyRequest)
    (session : L2tpSession n) :
    L2tpSession n :=
  let session := { session with
    recvSeq := if request.recvSeq.isSome then bitOf request.recvSeq else session.recvSeq }
  let session :=
    if request.sendSeq.isSome then
      l2tpSessionSetHeaderLen tunnel { session with sendSeq := bitOf request.sendSeq }
        tunnel.version
    else session
  { session with
    lnsMode := if request.lnsMode.isSome then bitOf request.lnsMode else session.lnsMode
    reorderTimeout := (request.recvTimeout.map (·.toUInt32.toInt32)).getD session.reorderTimeout
    mtu := (request.mtu.map (·.toUInt32.toInt32)).getD session.mtu
    mru := (request.mru.map (·.toUInt32.toInt32)).getD session.mru }

/-- `l2tp_nl_cmd_session_modify`. -/
def l2tpNlCmdSessionModify (hash : SessionHash) (net : L2tpNet n) (name : SessionName)
    (request : SessionModifyRequest) : L2tpNet n × Option Errno :=
  match l2tpNlSessionFind hash net name with
  | none => (net, some .enodev)
  | some i =>
    (net.onFlow i fun flow ↦ flow.onSession (modifySession flow.tunnel request), none)

/-! ### PPPoL2TP sockets -/

/-- The address given to `connect`. Its length tells the version, and with it the width of the
ids. -/
inductive SockaddrPppol2tp
  | v2 (tunnelId peerTunnelId sessionId peerSessionId : UInt16)
  | v3 (tunnelId peerTunnelId sessionId peerSessionId : UInt32)
  deriving DecidableEq, Repr

namespace SockaddrPppol2tp

/-- `ver`. -/
def ver : SockaddrPppol2tp → ℕ
  | .v2 _ _ _ _ => 2
  | .v3 _ _ _ _ => 3

/-- `tunnel_id`. -/
def tunnelId : SockaddrPppol2tp → UInt32
  | .v2 tunnelId _ _ _ => tunnelId.toUInt32
  | .v3 tunnelId _ _ _ => tunnelId

/-- `peer_tunnel_id`. -/
def peerTunnelId : SockaddrPppol2tp → UInt32
  | .v2 _ peerTunnelId _ _ => peerTunnelId.toUInt32
  | .v3 _ peerTunnelId _ _ => peerTunnelId

/-- `session_id`. -/
def sessionId : SockaddrPppol2tp → UInt32
  | .v2 _ _ sessionId _ => sessionId.toUInt32
  | .v3 _ _ sessionId _ => sessionId

/-- `peer_session_id`. -/
def peerSessionId : SockaddrPppol2tp → UInt32
  | .v2 _ _ _ peerSessionId => peerSessionId.toUInt32
  | .v3 _ _ _ peerSessionId => peerSessionId

end SockaddrPppol2tp

/-- A call of `connect` on a PPPoL2TP socket, and what the kernel answers on the way: the tunnel
socket behind the descriptor, whether there is memory for a session, the path MTU, and whether the
channel can be registered. `none` is an address of no known length. -/
structure ConnectCall where
  sock : ℕ
  protocolOk : Bool := true
  address : Option SockaddrPppol2tp
  tunnelSocket : TunnelSocket
  alloc : Bool := true
  pid : Int32 := 1
  pmtu : Int32 := 0
  registerChannel : Option Errno := none

/-- The tunnel of `pppol2tp_connect`: a management socket creates it if need be. -/
def connectTunnel (net : L2tpNet n) (socket : TunnelSocket) (address : SockaddrPppol2tp) :
    L2tpNet n × Except Errno ℕ :=
  match l2tpTunnelFind net address.tunnelId with
  | none =>
    if address.sessionId = 0 ∧ address.peerSessionId = 0 then
      l2tpTunnelCreate net socket address.ver address.tunnelId address.peerTunnelId .udp
    else (net, .error .enoent)
  | some t =>
    if address.sessionId = 0 ∧ address.peerSessionId = 0 then (net, .ok t)
    else if (net.tunnels[t]?.bind (·.sock)).isNone then (net, .error .enoent)
    else (net, .ok t)

/-- What `pppol2tp_connect` sets in the tunnel if nobody has done so before. -/
def prepareTunnel (address : SockaddrPppol2tp) (tunnel : L2tpTunnel n) : L2tpTunnel n :=
  { tunnel with
    recvPayloadHook := some (tunnel.recvPayloadHook.getD .pppol2tpRecvPayloadHook)
    peerTunnelId := if tunnel.peerTunnelId = 0 then address.peerTunnelId else tunnel.peerTunnelId }

/-- The session of `pppol2tp_connect`: a new one, or one that netlink has created and that has no
socket yet. -/
def connectSession (hash : SessionHash) (net : L2tpNet n) (t : ℕ) (address : SockaddrPppol2tp)
    (alloc : Bool) : L2tpNet n × Except Errno ℕ :=
  match l2tpSessionFind hash net (some t) address.sessionId with
  | some i =>
    match net.sessions[i]? with
    | none => (net, .error .eexist)
    | some session =>
      if session.ps.sock.isSome then (net, .error .eexist)
      else if session.ps.tunnelSock ≠ net.tunnels[t]?.bind (·.sock) then (net, .error .eexist)
      else (net, .ok i)
  | none =>
    match net.tunnels[t]? with
    | none => (net, .error .enomem)
    | some tunnel =>
      if !alloc then (net, .error .enomem)
      else
        let mtu := 1500 - pppol2tpHeaderOverhead
        (l2tpSessionCreate hash net t tunnel address.sessionId address.peerSessionId
          { mtu, mru := mtu }, .ok net.sessions.length)

/-- What `pppol2tp_connect` stores in the session. -/
def attachSocket (call : ConnectCall) (tunnelSock : Option ℕ) (session : L2tpSession n) :
    L2tpSession n :=
  { session with
    ps := { owner := call.pid, sock := some call.sock, tunnelSock }
    recvSkb := some .pppol2tpRecv
    sessionClose := some .pppol2tpSessionClose
    ref := some .pppol2tpSessionSockHold
    deref := some .pppol2tpSessionSockPut
    mtu := if call.pmtu = 0 then session.mtu else call.pmtu - pppol2tpHeaderOverhead
    mru := if call.pmtu = 0 then session.mru else call.pmtu - pppol2tpHeaderOverhead }

/-- The end of `pppol2tp_connect`: unless the socket manages the tunnel, register a channel, and
then attach the session to the socket. -/
def connectChannel (call : ConnectCall) (net : L2tpNet n) (i : ℕ) : L2tpNet n × Option Errno :=
  let management := net.sessions[i]?.any fun session ↦
    session.sessionId = 0 && session.peerSessionId = 0
  match if management then none else call.registerChannel with
  | some errno => (net, some errno)
  | none =>
    ({ net with
        socks := net.socks.modify call.sock fun sock ↦
          { sock with userData := some i, connected := true } }, none)

/-- `pppol2tp_connect`. -/
def pppol2tpConnect (hash : SessionHash) (net : L2tpNet n) (call : ConnectCall) :
    L2tpNet n × Option Errno :=
  match net.socks[call.sock]? with
  | none => (net, some .ebadf)
  | some sock =>
    if !call.protocolOk then (net, some .einval)
    else if sock.connected then (net, some .ebusy)
    else if sock.userData.isSome then (net, some .ealready)
    else
      match call.address with
      | none => (net, some .einval)
      | some address =>
        if address.tunnelId = 0 then (net, some .einval)
        else
          match connectTunnel net call.tunnelSocket address with
          | (net, .error errno) => (net, some errno)
          | (net, .ok t) =>
            let net := net.onTunnel t (prepareTunnel address)
            match connectSession hash net t address call.alloc with
            | (net, .error errno) => (net, some errno)
            | (net, .ok i) =>
              connectChannel call
                (net.onSession i (attachSocket call (net.tunnels[t]?.bind (·.sock)))) i

/-- `pppol2tp_create`: a new socket. -/
def pppol2tpCreate (net : L2tpNet n) : L2tpNet n := { net with socks := net.socks ++ [{}] }

/-- The options of `pppol2tp_session_setsockopt`. -/
inductive SessionOption
  | recvSeq
  | sendSeq
  | lnsMode
  | debug
  | reorderTimeout
  | unknown
  deriving DecidableEq, Repr

/-- A call of `setsockopt` on a PPPoL2TP socket: whether level and length are right, the value if it
can be read, and what `msecs_to_jiffies` makes of it. -/
structure SetsockoptCall where
  sock : ℕ
  levelOk : Bool := true
  optlenOk : Bool := true
  optname : SessionOption
  val : Option Int32
  jiffies : Int32 := 0

/-- `pppol2tp_session_setsockopt`. -/
def pppol2tpSessionSetsockopt (tunnel : L2tpTunnel n) (session : L2tpSession n)
    (optname : SessionOption) (val jiffies : Int32) : L2tpSession n × Option Errno :=
  let set (change : Bool → L2tpSession n) : L2tpSession n × Option Errno :=
    if val ≠ 0 ∧ val ≠ 1 then (session, some .einval) else (change (val ≠ 0), none)
  match optname with
  | .recvSeq => set fun recvSeq ↦ { session with recvSeq }
  | .sendSeq => set fun sendSeq ↦
      l2tpSessionSetHeaderLen tunnel { session with sendSeq } tunnel.version
  | .lnsMode => set fun lnsMode ↦ { session with lnsMode }
  | .debug => (session, none)
  | .reorderTimeout => ({ session with reorderTimeout := jiffies }, none)
  | .unknown => (session, some .enoprotoopt)

/-- `pppol2tp_setsockopt`: on a socket that manages the tunnel there is only `debug` to set.
Whatever the option says to its value, the answer is zero. -/
def pppol2tpSetsockopt (net : L2tpNet n) (call : SetsockoptCall) : L2tpNet n × Option Errno :=
  if !call.levelOk || !call.optlenOk then (net, some .einval)
  else
    match call.val, net.socks[call.sock]?.bind (·.userData) with
    | none, _ => (net, some .efault)
    | some _, none => (net, some .enotconn)
    | some val, some i =>
      match net.flow i with
      | none => (net, some .ebadf)
      | some flow =>
        if flow.session.sessionId = 0 ∧ flow.session.peerSessionId = 0 then
          if flow.session.ps.tunnelSock.isSome && flow.tunnel.sock = flow.session.ps.tunnelSock then
            (net, none)
          else (net, some .ebadf)
        else
          (net.onFlow i fun flow ↦ flow.onSession fun session ↦
            (pppol2tpSessionSetsockopt flow.tunnel session call.optname val call.jiffies).1, none)

/-- `pppol2tp_release`. -/
def pppol2tpRelease (env : Env n) (net : L2tpNet n) (sk : ℕ) : L2tpNet n × Option Errno :=
  match net.socks[sk]? with
  | none => (net, none)
  | some sock =>
    if sock.dead then (net, some .ebadf)
    else
      let net := { net with
        socks := net.socks.modify sk fun sock ↦ { sock with connected := false, dead := true } }
      match sock.userData with
      | none => (net, none)
      | some i => ((l2tpSessionUnhash net i).onFlow i (l2tpSessionQueuePurge env), none)

end KernelModules.L2tp
