import KernelModules.L2tp.SharedCounters
import KernelModules.L2tp.System

/-!
# Statistics in cells, and shared counters: whole runs

`L2tpNet.oneCpu` adds up the cells of all sessions and tunnels of a namespace, and `NetEvent.oneCpu`
makes an event run on the only processor. The tables and the commands on them never look at a cell,
and what they hand to the data path commutes with adding up. So a run in which every event happens
on some processor is, cells added up, the run of the same events on shared counters
(`oneCpu_netRun`).
-/

set_option autoImplicit false
set_option relaxedAutoImplicit false

namespace KernelModules.L2tp

open Foundations

variable {n : ℕ}

/-! ### One processor -/

/-- A namespace whose cells have been added up. -/
@[simps]
def L2tpNet.oneCpu (net : L2tpNet n) : L2tpNet 1 where
  tunnels := net.tunnels.map L2tpTunnel.oneCpu
  sessions := net.sessions.map L2tpSession.oneCpu
  tunnelList := net.tunnelList
  sessionHlist := net.sessionHlist
  socks := net.socks
  log := net.log

/-- The creation of a session on the only processor. -/
@[simps]
def CreateEnv.oneCpu (answers : CreateEnv n) : CreateEnv 1 :=
  { answers with env := answers.env.oneCpu }

/-- An event on the only processor. -/
def NetEvent.oneCpu : NetEvent n → NetEvent 1
  | .tunnelCreate request => .tunnelCreate request
  | .tunnelDelete env connId => .tunnelDelete env.oneCpu connId
  | .tunnelDestruct env t => .tunnelDestruct env.oneCpu t
  | .sessionCreate answers request => .sessionCreate answers.oneCpu request
  | .sessionDelete env name => .sessionDelete env.oneCpu name
  | .sessionModify name request => .sessionModify name request
  | .socket => .socket
  | .connect call => .connect call
  | .setsockopt call => .setsockopt call
  | .release env sk => .release env.oneCpu sk
  | .udpRecv env badCsum t skb => .udpRecv env.oneCpu badCsum t skb
  | .ipRecv env skb => .ipRecv env.oneCpu skb
  | .queuePurge env i => .queuePurge env.oneCpu i
  | .ethXmit env i skb => .ethXmit env.oneCpu i skb
  | .pppXmit env sk skb => .pppXmit env.oneCpu sk skb
  | .sendmsg env sk call => .sendmsg env.oneCpu sk call

/-! ### The tables -/

namespace L2tpNet

variable (net : L2tpNet n)

/-- The ids of the sessions are not in cells, so that a lookup compares the same. -/
theorem sessionId_oneCpu : net.oneCpu.sessionId = net.sessionId := by
  funext i
  simp [sessionId, Option.map_map, Function.comp_def]

/-- A session and its tunnel, added up, are those of the namespace that has been added up. -/
theorem flow_oneCpu (i : ℕ) : net.oneCpu.flow i = (net.flow i).map Flow.oneCpu := by
  simp only [flow, oneCpu_sessions, oneCpu_tunnels, List.getElem?_map]
  cases net.sessions[i]? with
  | none => rfl
  | some session =>
    simp only [Option.map_some, Option.bind_some, L2tpSession.oneCpu_toSessionParams]
    cases net.tunnels[session.tunnel]? <;> rfl

/-- What commutes with adding up on a session and its tunnel does so in the namespace. -/
theorem oneCpu_onFlow {f : Flow n → Flow n} {f' : Flow 1 → Flow 1}
    (hf : ∀ flow, (f flow).oneCpu = f' flow.oneCpu) (i : ℕ) :
    (net.onFlow i f).oneCpu = net.oneCpu.onFlow i f' := by
  unfold onFlow
  rw [flow_oneCpu]
  cases net.flow i with
  | none => rfl
  | some flow =>
    dsimp only [Option.map_some]
    rw [← hf]
    simp only [store, L2tpNet.oneCpu, List.map_set]
    rfl

/-- The same for a change of a session. -/
theorem oneCpu_onSession {change : L2tpSession n → L2tpSession n}
    {change' : L2tpSession 1 → L2tpSession 1}
    (hchange : ∀ session, (change session).oneCpu = change' session.oneCpu) (i : ℕ) :
    (net.onSession i change).oneCpu = net.oneCpu.onSession i change' := by
  simp only [onSession, L2tpNet.oneCpu, map_modify hchange]

/-- The same for a change of a tunnel. -/
theorem oneCpu_onTunnel {change : L2tpTunnel n → L2tpTunnel n}
    {change' : L2tpTunnel 1 → L2tpTunnel 1}
    (hchange : ∀ tunnel, (change tunnel).oneCpu = change' tunnel.oneCpu) (t : ℕ) :
    (net.onTunnel t change).oneCpu = net.oneCpu.onTunnel t change' := by
  simp only [onTunnel, L2tpNet.oneCpu, map_modify hchange]

theorem sock_oneCpu (t : ℕ) :
    (net.oneCpu.tunnels[t]?.bind (·.sock)) = net.tunnels[t]?.bind (·.sock) := by
  simp only [oneCpu_tunnels, List.getElem?_map]
  cases net.tunnels[t]? <;> rfl

theorem recvSkb_oneCpu (i : ℕ) :
    (net.oneCpu.sessions[i]?.bind (·.recvSkb)) = net.sessions[i]?.bind (·.recvSkb) := by
  simp only [oneCpu_sessions, List.getElem?_map]
  cases net.sessions[i]? <;> rfl

theorem isV3_oneCpu (i : ℕ) : net.oneCpu.isV3 i = net.isV3 i := by
  unfold isV3
  rw [flow_oneCpu]
  cases net.flow i <;> rfl

theorem chain_oneCpu (t : ℕ) (hash : Fin 16) : net.oneCpu.chain t hash = net.chain t hash := by
  simp only [chain, oneCpu_tunnels, List.getElem?_map]
  cases net.tunnels[t]? <;> rfl

end L2tpNet

section Tables

variable (hash : SessionHash) (env : Env n) (net : L2tpNet n)

/-- Tunnels are found by their ids. -/
theorem l2tpTunnelFind_oneCpu (tunnelId : UInt32) :
    l2tpTunnelFind net.oneCpu tunnelId = l2tpTunnelFind net tunnelId := by
  simp [l2tpTunnelFind, Option.any_map]

/-- Sessions are found by their ids, in the table of a tunnel or in that of the namespace. -/
theorem l2tpSessionFind_oneCpu (tunnel : Option ℕ) (sessionId : UInt32) :
    l2tpSessionFind hash net.oneCpu tunnel sessionId =
      l2tpSessionFind hash net tunnel sessionId := by
  cases tunnel with
  | none =>
    simp only [l2tpSessionFind, l2tpSessionFind2, L2tpNet.sessionId_oneCpu]
    rfl
  | some t =>
    simp only [l2tpSessionFind, L2tpNet.sessionId_oneCpu, L2tpNet.oneCpu_tunnels, List.getElem?_map]
    cases net.tunnels[t]? <;> rfl

theorem l2tpSessionFindByIfname_oneCpu (ifname : String) :
    l2tpSessionFindByIfname net.oneCpu ifname = l2tpSessionFindByIfname net ifname := by
  simp [l2tpSessionFindByIfname, Option.any_map]

/-- All cells of a new tunnel are zero, and so is their sum. -/
theorem oneCpu_newTunnel (version : ℕ) (tunnelId peerTunnelId : UInt32) (encap : L2tpEncap)
    (sk : ℕ) : (newTunnel n version tunnelId peerTunnelId encap sk).oneCpu =
      newTunnel 1 version tunnelId peerTunnelId encap sk := by
  have hzero : Foundations.oneCpu (fun _ : Fin n ↦ ({} : L2tpStats)) = fun _ ↦ {} :=
    funext fun _ ↦ Finset.sum_const_zero
  simp only [newTunnel, L2tpTunnel.oneCpu, hzero]

/-- All cells of a new session are zero, and so is their sum. -/
theorem oneCpu_newSession (tunnel : L2tpTunnel n) (t : ℕ) (sessionId peerSessionId : UInt32)
    (cfg : L2tpSessionCfg) : (newSession tunnel t sessionId peerSessionId cfg).oneCpu =
      newSession tunnel.oneCpu t sessionId peerSessionId cfg := by
  have hzero : Foundations.oneCpu (fun _ : Fin n ↦ ({} : L2tpStats)) = fun _ ↦ {} :=
    funext fun _ ↦ Finset.sum_const_zero
  have hdzero : Foundations.oneCpu (fun _ : Fin n ↦ ({} : L2tpPcpuStats)) = fun _ ↦ {} :=
    funext fun _ ↦ Finset.sum_const_zero
  unfold newSession
  rw [oneCpu_l2tpSessionSetHeaderLen]
  simp only [L2tpSession.oneCpu, hzero, hdzero]
  rfl

/-- A tunnel is created or refused as on shared counters. -/
theorem l2tpTunnelCreate_oneCpu (socket : TunnelSocket) (version : ℕ)
    (tunnelId peerTunnelId : UInt32) (encap : L2tpEncap) :
    l2tpTunnelCreate net.oneCpu socket version tunnelId peerTunnelId encap =
      Prod.map L2tpNet.oneCpu id
        (l2tpTunnelCreate net socket version tunnelId peerTunnelId encap) := by
  unfold l2tpTunnelCreate
  cases socket.sk with
  | error errno => rfl
  | ok sk =>
    have hused : net.oneCpu.tunnels.any (·.sock = some sk) =
        net.tunnels.any (·.sock = some sk) := by
      simp [Function.comp_def]
    simp only [apply_ite (Prod.map L2tpNet.oneCpu id), Prod.map_apply, id_eq, hused]
    simp [L2tpNet.oneCpu, oneCpu_newTunnel]

theorem oneCpu_l2tpSessionCreate (t : ℕ) (tunnel : L2tpTunnel n) (sessionId peerSessionId : UInt32)
    (cfg : L2tpSessionCfg) :
    (l2tpSessionCreate hash net t tunnel sessionId peerSessionId cfg).oneCpu =
      l2tpSessionCreate hash net.oneCpu t tunnel.oneCpu sessionId peerSessionId cfg := by
  simp only [l2tpSessionCreate, L2tpNet.oneCpu, List.map_set, List.map_append, List.map_cons,
    List.map_nil, oneCpu_newSession, List.length_map]
  rfl

theorem oneCpu_hlistDelInit (i : ℕ) : (hlistDelInit net i).oneCpu = hlistDelInit net.oneCpu i := by
  unfold hlistDelInit
  simp only [L2tpNet.oneCpu_sessions, List.getElem?_map]
  cases net.sessions[i]? with
  | none => rfl
  | some session => exact net.oneCpu_onTunnel (fun _ ↦ rfl) session.tunnel

theorem oneCpu_l2tpSessionUnhash (i : ℕ) :
    (l2tpSessionUnhash net i).oneCpu = l2tpSessionUnhash net.oneCpu i := by
  unfold l2tpSessionUnhash
  rw [← oneCpu_hlistDelInit, L2tpNet.isV3_oneCpu]
  rfl

/-- Deleting a session takes it out of the tables and purges its queue, and the purge is the only
part that counts anything. -/
theorem oneCpu_l2tpSessionDelete (i : ℕ) :
    (l2tpSessionDelete env net i).oneCpu = l2tpSessionDelete env.oneCpu net.oneCpu i := by
  unfold l2tpSessionDelete
  dsimp only
  rw [L2tpNet.oneCpu_onFlow _ Flow.oneCpu_deref,
    L2tpNet.oneCpu_onFlow _ (oneCpu_l2tpSessionQueuePurge env), oneCpu_l2tpSessionUnhash,
    L2tpNet.oneCpu_onFlow _ Flow.oneCpu_ref]

theorem oneCpu_closeSession (i : ℕ) :
    (closeSession env net i).oneCpu = closeSession env.oneCpu net.oneCpu i :=
  (oneCpu_l2tpSessionDelete env (hlistDelInit net i) i).trans
    (congrArg (l2tpSessionDelete env.oneCpu · i) (oneCpu_hlistDelInit net i))

/-- A turn of the loop over a chain of the tunnel. -/
theorem closeStep_oneCpu (t : ℕ) (hash : Fin 16) :
    closeStep env.oneCpu t hash net.oneCpu = (closeStep env t hash net).map L2tpNet.oneCpu := by
  unfold closeStep
  rw [L2tpNet.chain_oneCpu]
  cases net.chain t hash with
  | nil => rfl
  | cons i rest => exact congrArg some (oneCpu_closeSession env net i).symm

/-- Closing the sessions of a tunnel, chain after chain. -/
theorem oneCpu_l2tpTunnelCloseall (t : ℕ) :
    (l2tpTunnelCloseall env net t).oneCpu = l2tpTunnelCloseall env.oneCpu net.oneCpu t := by
  unfold l2tpTunnelCloseall
  -- over the chains; within one, the loop is a drain
  induction List.finRange 16 generalizing net with
  | nil => rfl
  | cons hash hashes ih =>
    rw [List.foldl_cons, List.foldl_cons, ih, L2tpNet.chain_oneCpu,
      drain_map L2tpNet.oneCpu (fun net ↦ closeStep_oneCpu env net t hash)]

theorem oneCpu_l2tpTunnelDestruct (t : ℕ) :
    (l2tpTunnelDestruct env net t).oneCpu = l2tpTunnelDestruct env.oneCpu net.oneCpu t := by
  unfold l2tpTunnelDestruct
  dsimp only
  have hsock : (net.onTunnel t fun tunnel ↦ { tunnel with sock := none }).oneCpu =
      net.oneCpu.onTunnel t fun tunnel ↦ { tunnel with sock := none } :=
    net.oneCpu_onTunnel (fun _ ↦ rfl) t
  rw [oneCpu_l2tpTunnelCloseall, ← hsock]
  rfl

end Tables

/-! ### Management -/

section Management

variable (hash : SessionHash) (env : Env n) (net : L2tpNet n)

/-- The creation of an Ethernet session, with every way in which it may fail. -/
theorem l2tpEthCreate_oneCpu (answers : CreateEnv n) (tunnelId sessionId peerSessionId : UInt32)
    (cfg : L2tpSessionCfg) :
    l2tpEthCreate hash answers.oneCpu net.oneCpu tunnelId sessionId peerSessionId cfg =
      Prod.map L2tpNet.oneCpu id
        (l2tpEthCreate hash answers net tunnelId sessionId peerSessionId cfg) := by
  unfold l2tpEthCreate
  rw [l2tpTunnelFind_oneCpu]
  cases l2tpTunnelFind net tunnelId with
  | none => rfl
  | some t =>
    simp only [l2tpSessionFind_oneCpu, L2tpNet.oneCpu_tunnels, L2tpNet.oneCpu_sessions,
      List.getElem?_map, List.length_map]
    cases net.tunnels[t]? with
    | none =>
      simp only [apply_ite (Prod.map L2tpNet.oneCpu id)]
      rfl
    | some tunnel =>
      -- what the device and its name change in the session that has been made before
      have hdevice : ∀ mid : L2tpNet n, (mid.onSession net.sessions.length fun session ↦
          { session with
            mtu := if session.mtu = 0 then answers.devMtu - session.hdrLen.toUInt32.toInt32
              else session.mtu
            recvSkb := some .l2tpEthDevRecv
            sessionClose := some .l2tpEthDelete }).oneCpu =
          mid.oneCpu.onSession net.sessions.length fun session ↦
          { session with
            mtu := if session.mtu = 0 then answers.devMtu - session.hdrLen.toUInt32.toInt32
              else session.mtu
            recvSkb := some .l2tpEthDevRecv
            sessionClose := some .l2tpEthDelete } :=
        fun mid ↦ mid.oneCpu_onSession (fun _ ↦ rfl) _
      have hnamed : ∀ mid : L2tpNet n, (mid.onSession net.sessions.length fun session ↦
          { session with ifname := answers.devName }).oneCpu =
          mid.oneCpu.onSession net.sessions.length fun session ↦
            { session with ifname := answers.devName } :=
        fun mid ↦ mid.oneCpu_onSession (fun _ ↦ rfl) _
      cases hregister : answers.registerNetdev with
      | none =>
        simp only [apply_ite (Prod.map L2tpNet.oneCpu id), Prod.map_apply, id_eq, Option.map_some,
          oneCpu_l2tpSessionDelete, hnamed, hdevice, oneCpu_l2tpSessionCreate,
          CreateEnv.oneCpu_registerNetdev, hregister]
        rfl
      | some errno =>
        simp only [apply_ite (Prod.map L2tpNet.oneCpu id), Prod.map_apply, id_eq, Option.map_some,
          oneCpu_l2tpSessionDelete, hdevice, oneCpu_l2tpSessionCreate,
          CreateEnv.oneCpu_registerNetdev, hregister]
        rfl

/-- The creation of a PPP session. -/
theorem pppol2tpSessionCreate_oneCpu (answers : CreateEnv n)
    (tunnelId sessionId peerSessionId : UInt32) (cfg : L2tpSessionCfg) :
    pppol2tpSessionCreate hash answers.oneCpu net.oneCpu tunnelId sessionId peerSessionId cfg =
      Prod.map L2tpNet.oneCpu id
        (pppol2tpSessionCreate hash answers net tunnelId sessionId peerSessionId cfg) := by
  unfold pppol2tpSessionCreate
  rw [l2tpTunnelFind_oneCpu]
  cases l2tpTunnelFind net tunnelId with
  | none => rfl
  | some t =>
    simp only [l2tpSessionFind_oneCpu, L2tpNet.oneCpu_tunnels, L2tpNet.oneCpu_sessions,
      List.getElem?_map, List.length_map]
    cases net.tunnels[t]? with
    | none => rfl
    | some tunnel =>
      have hprivate : ∀ mid : L2tpNet n, (mid.onSession net.sessions.length fun session ↦
          { session with ps := { session.ps with tunnelSock := tunnel.sock } }).oneCpu =
          mid.oneCpu.onSession net.sessions.length fun session ↦
            { session with ps := { session.ps with tunnelSock := tunnel.sock } } :=
        fun mid ↦ mid.oneCpu_onSession (fun _ ↦ rfl) _
      simp only [apply_ite (Prod.map L2tpNet.oneCpu id), Prod.map_apply, id_eq, Option.map_some,
        hprivate, oneCpu_l2tpSessionCreate]
      rfl

/-- The commands of netlink answer as on shared counters: this one creates a tunnel. -/
theorem l2tpNlCmdTunnelCreate_oneCpu (request : TunnelCreateRequest) :
    l2tpNlCmdTunnelCreate net.oneCpu request =
      Prod.map L2tpNet.oneCpu id (l2tpNlCmdTunnelCreate net request) := by
  unfold l2tpNlCmdTunnelCreate
  split
  · rename_i tunnelId peerTunnelId version encap socket _ _ _ _ _
    cases L2tpEncap.ofNumber encap.toNat with
    | none =>
      simp only [l2tpTunnelFind_oneCpu, apply_ite (Prod.map L2tpNet.oneCpu id)]
      rfl
    | some encap =>
      simp only [l2tpTunnelFind_oneCpu, l2tpTunnelCreate_oneCpu,
        apply_ite (Prod.map L2tpNet.oneCpu id)]
      obtain ⟨mid, errno | t⟩ :=
        l2tpTunnelCreate net socket version.toNat tunnelId peerTunnelId encap <;> rfl
  · rfl

theorem l2tpNlCmdTunnelDelete_oneCpu (connId : Option UInt32) :
    l2tpNlCmdTunnelDelete env.oneCpu net.oneCpu connId =
      Prod.map L2tpNet.oneCpu id (l2tpNlCmdTunnelDelete env net connId) := by
  unfold l2tpNlCmdTunnelDelete
  cases connId with
  | none => rfl
  | some tunnelId =>
    simp only [l2tpTunnelFind_oneCpu]
    cases l2tpTunnelFind net tunnelId with
    | none => rfl
    | some t => exact congrArg (·, none) (oneCpu_l2tpTunnelCloseall env net t).symm

/-- The request is checked attribute by attribute, and no attribute is compared with a cell. -/
theorem l2tpNlCmdSessionCreate_oneCpu (answers : CreateEnv n) (request : SessionCreateRequest) :
    l2tpNlCmdSessionCreate hash answers.oneCpu net.oneCpu request =
      Prod.map L2tpNet.oneCpu id (l2tpNlCmdSessionCreate hash answers net request) := by
  unfold l2tpNlCmdSessionCreate
  cases request.connId with
  | none => rfl
  | some tunnelId =>
    simp only [l2tpTunnelFind_oneCpu, L2tpNet.oneCpu_tunnels, List.getElem?_map]
    cases l2tpTunnelFind net tunnelId with
    | none => rfl
    | some t =>
      simp only [Option.bind_some]
      cases net.tunnels[t]? with
      | none => rfl
      | some tunnel =>
        simp only [Option.map_some]
        cases request.sessionId with
        | none => rfl
        | some sessionId =>
          simp only [l2tpSessionFind_oneCpu, apply_ite (Prod.map L2tpNet.oneCpu id)]
          congr 1
          split
          · simp only [apply_ite (Prod.map L2tpNet.oneCpu id), L2tpTunnel.oneCpu_version]
            congr 1
            cases sessionCfgOf tunnel.version request with
            | none => rfl
            | some cfg =>
              simp only [l2tpEthCreate_oneCpu, pppol2tpSessionCreate_oneCpu]
              cases cfg.pwType <;> rfl
          · rfl

/-- A session that netlink names, by its interface or by its ids, is found as on shared counters. -/
theorem l2tpNlSessionFind_oneCpu (name : SessionName) :
    l2tpNlSessionFind hash net.oneCpu name = l2tpNlSessionFind hash net name := by
  cases name with
  | ifname ifname => exact l2tpSessionFindByIfname_oneCpu net ifname
  | ids connId sessionId =>
    simp only [l2tpNlSessionFind, l2tpTunnelFind_oneCpu, l2tpSessionFind_oneCpu]
  | missing => rfl

theorem l2tpNlCmdSessionDelete_oneCpu (name : SessionName) :
    l2tpNlCmdSessionDelete hash env.oneCpu net.oneCpu name =
      Prod.map L2tpNet.oneCpu id (l2tpNlCmdSessionDelete hash env net name) := by
  unfold l2tpNlCmdSessionDelete
  rw [l2tpNlSessionFind_oneCpu]
  cases l2tpNlSessionFind hash net name with
  | none => rfl
  | some i =>
    simp only [← oneCpu_l2tpSessionDelete, L2tpNet.oneCpu_sessions, List.getElem?_map]
    cases net.sessions[i]? with
    | none => rfl
    | some session =>
      simp only [Option.map_some, L2tpSession.oneCpu_toSessionParams]
      cases session.pwtype <;> rfl

theorem oneCpu_modifySession (tunnel : L2tpTunnel n) (request : SessionModifyRequest)
    (session : L2tpSession n) : (modifySession tunnel request session).oneCpu =
      modifySession tunnel.oneCpu request session.oneCpu := by
  unfold modifySession
  by_cases hsend : request.sendSeq.isSome = true
  · by_cases hversion : tunnel.version = hdrVer2
    · simp only [if_pos hsend, l2tpSessionSetHeaderLen, L2tpTunnel.oneCpu_version, if_pos hversion]
      rfl
    · simp only [if_pos hsend, l2tpSessionSetHeaderLen, L2tpTunnel.oneCpu_version, if_neg hversion]
      rfl
  · simp only [if_neg hsend]
    rfl

theorem l2tpNlCmdSessionModify_oneCpu (name : SessionName) (request : SessionModifyRequest) :
    l2tpNlCmdSessionModify hash net.oneCpu name request =
      Prod.map L2tpNet.oneCpu id (l2tpNlCmdSessionModify hash net name request) := by
  unfold l2tpNlCmdSessionModify
  rw [l2tpNlSessionFind_oneCpu]
  cases l2tpNlSessionFind hash net name with
  | none => rfl
  | some i =>
    have hmodify : ∀ flow : Flow n, (flow.onSession (modifySession flow.tunnel request)).oneCpu =
        flow.oneCpu.onSession (modifySession flow.oneCpu.tunnel request) := by
      intro flow
      simp only [Flow.onSession, Flow.oneCpu, oneCpu_modifySession]
    exact congrArg (·, none) (net.oneCpu_onFlow hmodify i).symm

/-- The tunnel that `connect` finds or makes. -/
theorem connectTunnel_oneCpu (socket : TunnelSocket) (address : SockaddrPppol2tp) :
    connectTunnel net.oneCpu socket address =
      Prod.map L2tpNet.oneCpu id (connectTunnel net socket address) := by
  unfold connectTunnel
  rw [l2tpTunnelFind_oneCpu]
  cases l2tpTunnelFind net address.tunnelId with
  | none =>
    simp only [apply_ite (Prod.map L2tpNet.oneCpu id), l2tpTunnelCreate_oneCpu]
    rfl
  | some t =>
    simp only [apply_ite (Prod.map L2tpNet.oneCpu id), L2tpNet.sock_oneCpu]
    rfl

/-- The session that `connect` finds or makes. -/
theorem connectSession_oneCpu (t : ℕ) (address : SockaddrPppol2tp) (alloc : Bool) :
    connectSession hash net.oneCpu t address alloc =
      Prod.map L2tpNet.oneCpu id (connectSession hash net t address alloc) := by
  unfold connectSession
  rw [l2tpSessionFind_oneCpu]
  cases l2tpSessionFind hash net (some t) address.sessionId with
  | none =>
    simp only [L2tpNet.oneCpu_tunnels, List.getElem?_map]
    cases net.tunnels[t]? with
    | none => rfl
    | some tunnel =>
      simp only [apply_ite (Prod.map L2tpNet.oneCpu id), Option.map_some, Prod.map_apply, id_eq,
        oneCpu_l2tpSessionCreate, L2tpNet.oneCpu_sessions, List.length_map]
  | some i =>
    simp only [L2tpNet.sock_oneCpu, L2tpNet.oneCpu_sessions, List.getElem?_map]
    cases net.sessions[i]? with
    | none => rfl
    | some session =>
      simp only [apply_ite (Prod.map L2tpNet.oneCpu id), Option.map_some]
      rfl

theorem connectChannel_oneCpu (call : ConnectCall) (i : ℕ) :
    connectChannel call net.oneCpu i =
      Prod.map L2tpNet.oneCpu id (connectChannel call net i) := by
  unfold connectChannel
  have hmanagement : (net.oneCpu.sessions[i]?.any fun session ↦
      session.sessionId = 0 && session.peerSessionId = 0) = net.sessions[i]?.any fun session ↦
      session.sessionId = 0 && session.peerSessionId = 0 := by
    simp [Option.any_map]
  simp only [hmanagement]
  split <;> rfl

/-- `connect` on cells is `connect` on shared counters: the tunnel, then the session, then the
channel. -/
theorem pppol2tpConnect_oneCpu (call : ConnectCall) :
    pppol2tpConnect hash net.oneCpu call =
      Prod.map L2tpNet.oneCpu id (pppol2tpConnect hash net call) := by
  unfold pppol2tpConnect
  simp only [L2tpNet.oneCpu_socks]
  cases net.socks[call.sock]? with
  | none => rfl
  | some sock =>
    cases call.address with
    | none =>
      simp only [apply_ite (Prod.map L2tpNet.oneCpu id)]
      rfl
    | some address =>
      simp only [apply_ite (Prod.map L2tpNet.oneCpu id), connectTunnel_oneCpu]
      obtain ⟨mid, errno | t⟩ := connectTunnel net call.tunnelSocket address
      · rfl
      · have hprepare : mid.oneCpu.onTunnel t (prepareTunnel address) =
            (mid.onTunnel t (prepareTunnel address)).oneCpu :=
          (mid.oneCpu_onTunnel (fun _ ↦ rfl) t).symm
        simp only [Prod.map_apply, id_eq, hprepare, connectSession_oneCpu]
        generalize mid.onTunnel t (prepareTunnel address) = mid
        obtain ⟨mid, errno | i⟩ := connectSession hash mid t address call.alloc
        · rfl
        · have hattach : ∀ tunnelSock, mid.oneCpu.onSession i (attachSocket call tunnelSock) =
              (mid.onSession i (attachSocket call tunnelSock)).oneCpu :=
            fun tunnelSock ↦ (mid.oneCpu_onSession (fun _ ↦ rfl) i).symm
          simp only [Prod.map_apply, id_eq, L2tpNet.sock_oneCpu, hattach, connectChannel_oneCpu]

theorem pppol2tpSessionSetsockopt_oneCpu (tunnel : L2tpTunnel n) (session : L2tpSession n)
    (optname : SessionOption) (val jiffies : Int32) :
    pppol2tpSessionSetsockopt tunnel.oneCpu session.oneCpu optname val jiffies =
      Prod.map L2tpSession.oneCpu id
        (pppol2tpSessionSetsockopt tunnel session optname val jiffies) := by
  unfold pppol2tpSessionSetsockopt
  cases optname
  case sendSeq =>
    simp only [apply_ite (Prod.map L2tpSession.oneCpu id), Prod.map_apply, id_eq,
      oneCpu_l2tpSessionSetHeaderLen]
    rfl
  case recvSeq =>
    simp only [apply_ite (Prod.map L2tpSession.oneCpu id)]
    rfl
  case lnsMode =>
    simp only [apply_ite (Prod.map L2tpSession.oneCpu id)]
    rfl
  all_goals rfl

/-- An option is set or refused as on shared counters. -/
theorem pppol2tpSetsockopt_oneCpu (call : SetsockoptCall) :
    pppol2tpSetsockopt net.oneCpu call =
      Prod.map L2tpNet.oneCpu id (pppol2tpSetsockopt net call) := by
  unfold pppol2tpSetsockopt
  simp only [L2tpNet.oneCpu_socks, L2tpNet.flow_oneCpu, apply_ite (Prod.map L2tpNet.oneCpu id)]
  congr 1
  split
  · rfl
  · rfl
  · rename_i val i _ _
    have hset : (net.onFlow i fun flow ↦ flow.onSession fun session ↦ (pppol2tpSessionSetsockopt
        flow.tunnel session call.optname val call.jiffies).1).oneCpu =
        net.oneCpu.onFlow i fun flow ↦ flow.onSession fun session ↦
          (pppol2tpSessionSetsockopt flow.tunnel session call.optname val call.jiffies).1 := by
      refine net.oneCpu_onFlow (fun flow ↦ ?_) i
      simp only [Flow.onSession, Flow.oneCpu, pppol2tpSessionSetsockopt_oneCpu]
      rfl
    cases net.flow i with
    | none => rfl
    | some flow =>
      simp only [Option.map_some, apply_ite (Prod.map L2tpNet.oneCpu id), Prod.map_apply,
        id_eq, hset]
      rfl

theorem pppol2tpRelease_oneCpu (sk : ℕ) :
    pppol2tpRelease env.oneCpu net.oneCpu sk =
      Prod.map L2tpNet.oneCpu id (pppol2tpRelease env net sk) := by
  unfold pppol2tpRelease
  simp only [L2tpNet.oneCpu_socks]
  cases net.socks[sk]? with
  | none => rfl
  | some sock =>
    simp only [apply_ite (Prod.map L2tpNet.oneCpu id)]
    congr 1
    cases sock.userData with
    | none => rfl
    | some i =>
      simp only [Prod.map_apply, id_eq,
        L2tpNet.oneCpu_onFlow _ (oneCpu_l2tpSessionQueuePurge env), oneCpu_l2tpSessionUnhash]
      rfl

end Management

/-! ### Runs -/

section Runs

variable (hash : SessionHash) (net : L2tpNet n)

/-- What `l2tp_udp_recv_core` decides, on the only processor. -/
def UdpVerdict.oneCpu : UdpVerdict n → UdpVerdict 1
  | .badCsum => .badCsum
  | .passUp => .passUp
  | .session i call => .session i call.oneCpu

/-- A packet over UDP is for the same session. -/
theorem udpRecvVerdict_oneCpu (env : Env n) (badCsum : Bool) (t : ℕ) (tunnel : L2tpTunnel n)
    (skb : SkBuff) (hook : Option PayloadHook) :
    udpRecvVerdict hash net.oneCpu env.oneCpu badCsum t tunnel.oneCpu skb hook =
      (udpRecvVerdict hash net env badCsum t tunnel skb hook).oneCpu := by
  unfold udpRecvVerdict
  simp only [apply_ite UdpVerdict.oneCpu, L2tpTunnel.oneCpu_sock, L2tpTunnel.oneCpu_version,
    l2tpSessionFind_oneCpu, L2tpNet.recvSkb_oneCpu]
  cases l2tpSessionFind hash net (some t) _ with
  | none => rfl
  | some i =>
    simp only [apply_ite UdpVerdict.oneCpu]
    rfl

theorem l2tpUdpRecvCore_oneCpu (env : Env n) (badCsum : Bool) (t : ℕ) (skb : SkBuff) :
    l2tpUdpRecvCore hash net.oneCpu env.oneCpu badCsum t skb =
      Prod.map L2tpNet.oneCpu id (l2tpUdpRecvCore hash net env badCsum t skb) := by
  unfold l2tpUdpRecvCore
  simp only [L2tpNet.oneCpu_tunnels, List.getElem?_map]
  cases net.tunnels[t]? with
  | none => rfl
  | some tunnel =>
    simp only [Option.map_some, L2tpTunnel.oneCpu_recvPayloadHook, udpRecvVerdict_oneCpu]
    cases udpRecvVerdict hash net env badCsum t tunnel skb tunnel.recvPayloadHook with
    | badCsum => rfl
    | passUp => rfl
    | session i call =>
      exact congrArg (·, UdpOutcome.consumed)
        (net.oneCpu_onFlow (fun flow ↦ oneCpu_l2tpRecvCommon flow call) i).symm

/-- What `l2tp_ip_recv` decides, on the only processor. -/
def IpVerdict.oneCpu : IpVerdict n → IpVerdict 1
  | .discard => .discard
  | .control skb => .control skb
  | .session i call => .session i call.oneCpu

/-- A packet over IP is for the same session. -/
theorem ipRecvVerdict_oneCpu (env : Env n) (skb : SkBuff) :
    ipRecvVerdict hash net.oneCpu env.oneCpu skb = (ipRecvVerdict hash net env skb).oneCpu := by
  unfold ipRecvVerdict
  simp only [apply_ite IpVerdict.oneCpu, l2tpSessionFind_oneCpu, L2tpNet.flow_oneCpu]
  cases l2tpSessionFind hash net none (be32At skb.mem 0) with
  | none => rfl
  | some i =>
    simp only [Option.bind_some]
    cases net.flow i <;> rfl

theorem oneCpu_l2tpIpRecv (env : Env n) (skb : SkBuff) :
    (l2tpIpRecv hash net env skb).oneCpu = l2tpIpRecv hash net.oneCpu env.oneCpu skb := by
  unfold l2tpIpRecv
  rw [ipRecvVerdict_oneCpu]
  cases ipRecvVerdict hash net env skb with
  | discard => rfl
  | control skb => rfl
  | session i call => exact net.oneCpu_onFlow (fun flow ↦ oneCpu_l2tpRecvCommon flow call) i

theorem oneCpu_pppol2tpXmit (env : XmitEnv n) (sk : ℕ) (skb : SkBuff) :
    (pppol2tpXmit env net sk skb).oneCpu = pppol2tpXmit env.oneCpu net.oneCpu sk skb := by
  unfold pppol2tpXmit
  simp only [L2tpNet.oneCpu_socks]
  cases net.socks[sk]? with
  | none => rfl
  | some sock =>
    simp only [apply_ite L2tpNet.oneCpu]
    congr 1
    cases sock.userData with
    | none => rfl
    | some i =>
      refine net.oneCpu_onFlow (fun flow ↦ ?_) i
      simp only [apply_ite Flow.oneCpu, oneCpu_pppol2tpXmitFlow]
      rfl

/-- What a socket sends, and what the caller is told. -/
theorem pppol2tpSendmsg_oneCpu (env : XmitEnv n) (sk : ℕ) (call : SendmsgCall) :
    pppol2tpSendmsg env.oneCpu net.oneCpu sk call =
      Prod.map L2tpNet.oneCpu id (pppol2tpSendmsg env net sk call) := by
  unfold pppol2tpSendmsg
  simp only [L2tpNet.oneCpu_socks, L2tpNet.flow_oneCpu]
  cases net.socks[sk]? with
  | none => rfl
  | some sock =>
    simp only [apply_ite (Prod.map L2tpNet.oneCpu id)]
    congr 1
    cases sock.userData with
    | none => rfl
    | some i =>
      simp only [Option.bind_some]
      cases net.flow i with
      | none => rfl
      | some flow =>
        simp only [Option.map_some, apply_ite (Prod.map L2tpNet.oneCpu id), Prod.map_apply, id_eq,
          net.oneCpu_onFlow (fun flow ↦ oneCpu_pppol2tpSendmsgFlow env flow call) i]
        rfl

/-- An event on cells is the event on shared counters. -/
theorem oneCpu_netStep (event : NetEvent n) :
    (netStep hash net event).oneCpu = netStep hash net.oneCpu event.oneCpu := by
  cases event with
  | tunnelCreate request => exact congrArg Prod.fst (l2tpNlCmdTunnelCreate_oneCpu net request).symm
  | tunnelDelete env connId =>
    exact congrArg Prod.fst (l2tpNlCmdTunnelDelete_oneCpu env net connId).symm
  | tunnelDestruct env t => exact oneCpu_l2tpTunnelDestruct env net t
  | sessionCreate answers request =>
    exact congrArg Prod.fst (l2tpNlCmdSessionCreate_oneCpu hash net answers request).symm
  | sessionDelete env name =>
    exact congrArg Prod.fst (l2tpNlCmdSessionDelete_oneCpu hash env net name).symm
  | sessionModify name request =>
    exact congrArg Prod.fst (l2tpNlCmdSessionModify_oneCpu hash net name request).symm
  | socket => rfl
  | connect call => exact congrArg Prod.fst (pppol2tpConnect_oneCpu hash net call).symm
  | setsockopt call => exact congrArg Prod.fst (pppol2tpSetsockopt_oneCpu net call).symm
  | release env sk => exact congrArg Prod.fst (pppol2tpRelease_oneCpu env net sk).symm
  | udpRecv env badCsum t skb =>
    exact congrArg Prod.fst (l2tpUdpRecvCore_oneCpu hash net env badCsum t skb).symm
  | ipRecv env skb => exact oneCpu_l2tpIpRecv hash net env skb
  | queuePurge env i => exact net.oneCpu_onFlow (oneCpu_l2tpSessionQueuePurge env) i
  | ethXmit env i skb =>
    have hxmit : (net.onFlow i fun flow ↦ l2tpEthDevXmit env flow skb).oneCpu =
        net.oneCpu.onFlow i fun flow ↦ l2tpEthDevXmit env.oneCpu flow skb :=
      net.oneCpu_onFlow (fun flow ↦ oneCpu_l2tpEthDevXmit env flow skb) i
    simp only [netStep, NetEvent.oneCpu, net.recvSkb_oneCpu, apply_ite L2tpNet.oneCpu, hxmit]
  | pppXmit env sk skb => exact oneCpu_pppol2tpXmit net env sk skb
  | sendmsg env sk call => exact congrArg Prod.fst (pppol2tpSendmsg_oneCpu net env sk call).symm

/-- A run on cells is the run on shared counters. -/
theorem oneCpu_netRun (events : List (NetEvent n)) :
    (netRun hash net events).oneCpu = netRun hash net.oneCpu (events.map NetEvent.oneCpu) := by
  induction events generalizing net with
  | nil => rfl
  | cons event events ih => exact (ih (netStep hash net event)).trans (by rw [oneCpu_netStep]; rfl)

end Runs

end KernelModules.L2tp
