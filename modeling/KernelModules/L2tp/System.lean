import KernelModules.L2tp.DataPath
import KernelModules.L2tp.Input
import Mathlib.Logic.Relation

/-!
# The events of a namespace

Everything that happens to the tunnels and sessions of a namespace: netlink commands, calls on
PPPoL2TP sockets, packets that come in, frames that go out, and the end of a tunnel socket.
`netStep` is one event and `netRun` a sequence of them.

What an event does is said once, by `netStep_transition`. All but two things are `Upkeep`: functions
of the data path, deletion and unlinking, new tunnels, settings. What is left is the creation of a
session, and the connection of a socket to a session that is there already.
-/

set_option autoImplicit false
set_option relaxedAutoImplicit false

namespace KernelModules.L2tp

open Foundations

variable {n : ℕ}

/-! ### Events -/

/-- What can happen to a namespace. -/
inductive NetEvent (n : ℕ)
  | tunnelCreate (request : TunnelCreateRequest)
  | tunnelDelete (env : Env n) (connId : Option UInt32)
  | tunnelDestruct (env : Env n) (t : ℕ)
  | sessionCreate (answers : CreateEnv n) (request : SessionCreateRequest)
  | sessionDelete (env : Env n) (name : SessionName)
  | sessionModify (name : SessionName) (request : SessionModifyRequest)
  | socket
  | connect (call : ConnectCall)
  | setsockopt (call : SetsockoptCall)
  | release (env : Env n) (sk : ℕ)
  | udpRecv (env : Env n) (badCsum : Bool) (t : ℕ) (skb : SkBuff)
  | ipRecv (env : Env n) (skb : SkBuff)
  | queuePurge (env : Env n) (i : ℕ)
  | ethXmit (env : XmitEnv n) (i : ℕ) (skb : SkBuff)
  | pppXmit (env : XmitEnv n) (sk : ℕ) (skb : SkBuff)
  | sendmsg (env : XmitEnv n) (sk : ℕ) (call : SendmsgCall)

/-- One event. Only a session with a device can be asked to transmit by one. -/
def netStep (hash : SessionHash) (net : L2tpNet n) : NetEvent n → L2tpNet n
  | .tunnelCreate request => (l2tpNlCmdTunnelCreate net request).1
  | .tunnelDelete env connId => (l2tpNlCmdTunnelDelete env net connId).1
  | .tunnelDestruct env t => l2tpTunnelDestruct env net t
  | .sessionCreate answers request => (l2tpNlCmdSessionCreate hash answers net request).1
  | .sessionDelete env name => (l2tpNlCmdSessionDelete hash env net name).1
  | .sessionModify name request => (l2tpNlCmdSessionModify hash net name request).1
  | .socket => pppol2tpCreate net
  | .connect call => (pppol2tpConnect hash net call).1
  | .setsockopt call => (pppol2tpSetsockopt net call).1
  | .release env sk => (pppol2tpRelease env net sk).1
  | .udpRecv env badCsum t skb => (l2tpUdpRecvCore hash net env badCsum t skb).1
  | .ipRecv env skb => l2tpIpRecv hash net env skb
  | .queuePurge env i => net.onFlow i (l2tpSessionQueuePurge env)
  | .ethXmit env i skb =>
    if net.sessions[i]?.bind (·.recvSkb) = some .l2tpEthDevRecv then
      net.onFlow i fun flow ↦ l2tpEthDevXmit env flow skb
    else net
  | .pppXmit env sk skb => pppol2tpXmit env net sk skb
  | .sendmsg env sk call => (pppol2tpSendmsg env net sk call).1

/-- A run. -/
def netRun (hash : SessionHash) (net : L2tpNet n) (events : List (NetEvent n)) : L2tpNet n :=
  events.foldl (netStep hash) net

/-- The tunnel id and the session id of an event that asks for a session. -/
def NetEvent.sessionRequest : NetEvent n → Option (UInt32 × UInt32)
  | .sessionCreate _ request =>
    request.connId.bind fun tunnelId ↦ request.sessionId.map (tunnelId, ·)
  | .connect call => call.address.map fun address ↦ (address.tunnelId, address.sessionId)
  | _ => none

/-! ### Upkeep -/

/-- What stays as it is when the hooks of a session or its device are set up. -/
structure KeepsSession (change : L2tpSession n → L2tpSession n) : Prop where
  params : ∀ session, (change session).toSessionParams = session.toSessionParams
  counters : ∀ session, (change session).toSessionCounters = session.toSessionCounters
  reorderQ : ∀ session, (change session).reorderQ = session.reorderQ
  ref : ∀ session, (change session).ref = session.ref
  deref : ∀ session, (change session).deref = session.deref
  sock : ∀ session, (change session).ps.sock = session.ps.sock

/-- What stays as it is when a tunnel is prepared for PPP, or has lost its socket. -/
structure KeepsTunnel (change : L2tpTunnel n → L2tpTunnel n) : Prop where
  sessionHlist : ∀ tunnel, (change tunnel).sessionHlist = tunnel.sessionHlist
  version : ∀ tunnel, (change tunnel).version = tunnel.version
  stats : ∀ tunnel, (change tunnel).stats = tunnel.stats

/-- What happens to a namespace apart from new sessions and sockets connected to sessions. -/
inductive Upkeep : L2tpNet n → L2tpNet n → Prop
  | data (net : L2tpNet n) (i : ℕ) {f : Flow n → Flow n} (hf : DataPath f) :
      Upkeep net (net.onFlow i f)
  | delete (env : Env n) (net : L2tpNet n) (i : ℕ) : Upkeep net (l2tpSessionDelete env net i)
  | unlink (net : L2tpNet n) (i : ℕ) : Upkeep net (hlistDelInit net i)
  | unhash (net : L2tpNet n) (i : ℕ) : Upkeep net (l2tpSessionUnhash net i)
  | tunnelCreate (net : L2tpNet n) (version : ℕ) (tunnelId peerTunnelId : UInt32)
      (encap : L2tpEncap)
      (sk : ℕ) : Upkeep net
        { net with
          tunnels := net.tunnels ++ [newTunnel n version tunnelId peerTunnelId encap sk]
          tunnelList := net.tunnels.length :: net.tunnelList }
  | tunnel (net : L2tpNet n) (t : ℕ) {change : L2tpTunnel n → L2tpTunnel n}
      (hchange : KeepsTunnel change) : Upkeep net (net.onTunnel t change)
  | session (net : L2tpNet n) (i : ℕ) {change : L2tpSession n → L2tpSession n}
      (hchange : KeepsSession change) : Upkeep net (net.onSession i change)
  | socks (net : L2tpNet n) (socks : List PppoxSock) : Upkeep net { net with socks }
  | tunnelList (net : L2tpNet n) (tunnelList : List ℕ) : Upkeep net { net with tunnelList }

/-- Any amount of upkeep. -/
def Upkeeps : L2tpNet n → L2tpNet n → Prop := Relation.ReflTransGen Upkeep

/-- What upkeep preserves. -/
theorem Upkeeps.invariant {invariant : L2tpNet n → Prop}
    (hstep : ∀ net net', Upkeep net net' → invariant net → invariant net') {net net' : L2tpNet n}
    (hupkeeps : Upkeeps net net') (hstart : invariant net) : invariant net' := by
  induction hupkeeps with
  | refl => exact hstart
  | tail _ hstep' ih => exact hstep _ _ hstep' ih

theorem Upkeep.once {net net' : L2tpNet n} (hupkeep : Upkeep net net') : Upkeeps net net' :=
  Relation.ReflTransGen.single hupkeep

theorem upkeeps_l2tpTunnelCreate (net : L2tpNet n) (socket : TunnelSocket) (version : ℕ)
    (tunnelId peerTunnelId : UInt32) (encap : L2tpEncap) :
    Upkeeps net (l2tpTunnelCreate net socket version tunnelId peerTunnelId encap).1 := by
  unfold l2tpTunnelCreate
  cases socket.sk with
  | error errno => exact Relation.ReflTransGen.refl
  | ok sk =>
    dsimp only
    split_ifs
    · exact Relation.ReflTransGen.refl
    · exact Relation.ReflTransGen.refl
    · exact Relation.ReflTransGen.refl
    · exact (Upkeep.tunnelCreate net version tunnelId peerTunnelId encap sk).once

/-- Closing a session is unlinking it and deleting it. -/
theorem upkeeps_closeSession (env : Env n) (net : L2tpNet n) (i : ℕ) :
    Upkeeps net (closeSession env net i) :=
  (Upkeep.unlink net i).once.tail (Upkeep.delete env (hlistDelInit net i) i)

theorem upkeeps_l2tpTunnelCloseall (env : Env n) (net : L2tpNet n) (t : ℕ) :
    Upkeeps net (l2tpTunnelCloseall env net t) := by
  have hstep : ∀ hash (net' net'' : L2tpNet n), closeStep env t hash net' = some net'' →
      Upkeeps net net' → Upkeeps net net'' := by
    intro hash net' net'' hclose hupkeeps
    unfold closeStep at hclose
    cases hchain : net'.chain t hash with
    | nil => simp [hchain] at hclose
    | cons i rest =>
      simp only [hchain, Option.some.injEq] at hclose
      rw [← hclose]
      exact hupkeeps.trans (upkeeps_closeSession env net' i)
  have hloop : ∀ (hashes : List (Fin 16)) (net' : L2tpNet n), Upkeeps net net' →
      Upkeeps net (hashes.foldl
        (fun net hash ↦ drain (closeStep env t hash) (net.chain t hash).length net) net') := by
    intro hashes
    induction hashes with
    | nil => exact fun _ hupkeeps ↦ hupkeeps
    | cons hash hashes ih =>
      intro net' hupkeeps
      exact ih _ (drain_induction _ net' hupkeeps fun s s' hs hclose ↦ hstep hash s s' hclose hs)
  exact hloop _ net Relation.ReflTransGen.refl

theorem upkeeps_l2tpTunnelDestruct (env : Env n) (net : L2tpNet n) (t : ℕ) :
    Upkeeps net (l2tpTunnelDestruct env net t) := by
  have hsock : KeepsTunnel fun tunnel : L2tpTunnel n ↦ { tunnel with sock := none } :=
    ⟨fun _ ↦ rfl, fun _ ↦ rfl, fun _ ↦ rfl⟩
  exact ((Upkeep.tunnel net t hsock).once.tail (Upkeep.tunnelList _ _)).trans
    (upkeeps_l2tpTunnelCloseall env _ t)

/-! ### What an event does -/

/-- A session has been created in a namespace on the way from `net` to `mid`: its tunnel and its id
are those the event asks for, and the id is not in the table of the tunnel. Unless it is the id of a
management socket, the tunnel was there before, with the same table. -/
structure CreatesSession (hash : SessionHash) (net mid : L2tpNet n) (event : NetEvent n) (t : ℕ)
    (tunnel : L2tpTunnel n) (sessionId : UInt32) : Prop where
  before : Upkeeps net mid
  sessions : mid.sessions = net.sessions
  sessionHlist : mid.sessionHlist = net.sessionHlist
  request : ∃ tunnelId, event.sessionRequest = some (tunnelId, sessionId) ∧
    (sessionId = 0 ∨ l2tpTunnelFind net tunnelId = some t ∧ ∃ first, net.tunnels[t]? = some first ∧
      first.version = tunnel.version ∧ first.sessionHlist = tunnel.sessionHlist)
  found : mid.tunnels[t]? = some tunnel
  unused : l2tpSessionFind hash mid (some t) sessionId = none

/-- A socket is connected to session `i`, which has none yet. -/
structure ConnectsSession (hash : SessionHash) (net mid : L2tpNet n) (event : NetEvent n)
    (call : ConnectCall) (i : ℕ) (session : L2tpSession n) : Prop where
  before : Upkeeps net mid
  sessions : mid.sessions = net.sessions
  isConnect : event = .connect call
  request : ∃ address t, call.address = some address ∧
    l2tpTunnelFind net address.tunnelId = some t ∧
    l2tpSessionFind hash net (some t) address.sessionId = some i
  found : net.sessions[i]? = some session
  sock : session.ps.sock = none

/-- What an event can do to a namespace. -/
inductive Transition (hash : SessionHash) (net : L2tpNet n) (event : NetEvent n) : L2tpNet n → Prop
  | upkeep {net' : L2tpNet n} (hupkeeps : Upkeeps net net') : Transition hash net event net'
  | create {mid net' : L2tpNet n} {t : ℕ} {tunnel : L2tpTunnel n} {sessionId peerSessionId : UInt32}
      {cfg : L2tpSessionCfg} (hcreates : CreatesSession hash net mid event t tunnel sessionId)
      (hupkeeps : Upkeeps (l2tpSessionCreate hash mid t tunnel sessionId peerSessionId cfg) net') :
      Transition hash net event net'
  | createConnected {mid net' : L2tpNet n} {t : ℕ} {tunnel : L2tpTunnel n}
      {sessionId peerSessionId : UInt32} {cfg : L2tpSessionCfg} {call : ConnectCall}
      {tunnelSock : Option ℕ} (hcreates : CreatesSession hash net mid event t tunnel sessionId)
      (hupkeeps : Upkeeps ((l2tpSessionCreate hash mid t tunnel sessionId peerSessionId
        cfg).onSession
        mid.sessions.length (attachSocket call tunnelSock)) net') : Transition hash net event net'
  | connect {mid net' : L2tpNet n} {call : ConnectCall} {i : ℕ} {session : L2tpSession n}
      {tunnelSock : Option ℕ} (hconnects : ConnectsSession hash net mid event call i session)
      (hupkeeps : Upkeeps (mid.onSession i (attachSocket call tunnelSock)) net') :
      Transition hash net event net'

theorem Transition.refl (hash : SessionHash) (net : L2tpNet n) (event : NetEvent n) :
    Transition hash net event net := .upkeep Relation.ReflTransGen.refl

section Creation

variable {hash : SessionHash} {net : L2tpNet n} {event : NetEvent n} {t : ℕ}
  {tunnel : L2tpTunnel n} {tunnelId sessionId : UInt32}

/-- Creation through netlink does nothing before it. -/
theorem CreatesSession.netlink (hrequest : event.sessionRequest = some (tunnelId, sessionId))
    (hfound : l2tpTunnelFind net tunnelId = some t) (htunnel : net.tunnels[t]? = some tunnel)
    (hunused : l2tpSessionFind hash net (some t) sessionId = none) :
    CreatesSession hash net net event t tunnel sessionId where
  before := Relation.ReflTransGen.refl
  sessions := rfl
  sessionHlist := rfl
  request := ⟨tunnelId, hrequest, Or.inr ⟨hfound, tunnel, htunnel, rfl, rfl⟩⟩
  found := htunnel
  unused := hunused

theorem transition_l2tpEthCreate (answers : CreateEnv n) (peerSessionId : UInt32)
    (cfg : L2tpSessionCfg) (hrequest : event.sessionRequest = some (tunnelId, sessionId)) :
    Transition hash net event
      (l2tpEthCreate hash answers net tunnelId sessionId peerSessionId cfg).1 := by
  unfold l2tpEthCreate
  cases hfound : l2tpTunnelFind net tunnelId with
  | none => exact .refl hash net event
  | some t =>
    dsimp only
    cases htunnel : net.tunnels[t]? with
    | none =>
      dsimp only
      split_ifs <;> exact .refl hash net event
    | some tunnel =>
      dsimp only
      split_ifs with hused hname halloc hnetdev
      · exact .refl hash net event
      · exact .refl hash net event
      · exact .refl hash net event
      · exact .create (CreatesSession.netlink hrequest hfound htunnel
          (Option.not_isSome_iff_eq_none.mp hused)) (Upkeep.delete answers.env _ _).once
      · have hcreates := CreatesSession.netlink hrequest hfound htunnel
          (Option.not_isSome_iff_eq_none.mp hused)
        have hdevice : KeepsSession fun session : L2tpSession n ↦
            { session with
              mtu := if session.mtu = 0 then answers.devMtu - session.hdrLen.toUInt32.toInt32
                else session.mtu
              recvSkb := some .l2tpEthDevRecv
              sessionClose := some .l2tpEthDelete } :=
          ⟨fun _ ↦ rfl, fun _ ↦ rfl, fun _ ↦ rfl, fun _ ↦ rfl, fun _ ↦ rfl, fun _ ↦ rfl⟩
        have hsetup := (Upkeep.session (l2tpSessionCreate hash net t tunnel sessionId peerSessionId
          cfg) net.sessions.length hdevice).once
        cases answers.registerNetdev with
        | some errno => exact .create hcreates (hsetup.tail (Upkeep.delete answers.env _ _))
        | none =>
          have hnamed : KeepsSession fun session : L2tpSession n ↦
              { session with ifname := answers.devName } :=
            ⟨fun _ ↦ rfl, fun _ ↦ rfl, fun _ ↦ rfl, fun _ ↦ rfl, fun _ ↦ rfl, fun _ ↦ rfl⟩
          exact .create hcreates (hsetup.tail (Upkeep.session _ _ hnamed))

theorem transition_pppol2tpSessionCreate (answers : CreateEnv n) (peerSessionId : UInt32)
    (cfg : L2tpSessionCfg) (hrequest : event.sessionRequest = some (tunnelId, sessionId)) :
    Transition hash net event
      (pppol2tpSessionCreate hash answers net tunnelId sessionId peerSessionId cfg).1 := by
  unfold pppol2tpSessionCreate
  cases hfound : l2tpTunnelFind net tunnelId with
  | none => exact .refl hash net event
  | some t =>
    dsimp only
    cases htunnel : net.tunnels[t]? with
    | none => exact .refl hash net event
    | some tunnel =>
      by_cases hsock : tunnel.sock.isNone = true
      · simp only [if_pos hsock]
        exact .refl hash net event
      by_cases hused : (l2tpSessionFind hash net (some t) sessionId).isSome = true
      · simp only [if_neg hsock, if_pos hused]
        exact .refl hash net event
      by_cases halloc : (!answers.alloc) = true
      · simp only [if_neg hsock, if_neg hused, if_pos halloc]
        exact .refl hash net event
      have hcreates := CreatesSession.netlink hrequest hfound htunnel
        (Option.not_isSome_iff_eq_none.mp hused)
      have hprivate : KeepsSession fun session : L2tpSession n ↦
          { session with ps := { session.ps with tunnelSock := tunnel.sock } } :=
        ⟨fun _ ↦ rfl, fun _ ↦ rfl, fun _ ↦ rfl, fun _ ↦ rfl, fun _ ↦ rfl, fun _ ↦ rfl⟩
      simp only [if_neg hsock, if_neg hused, if_neg halloc]
      exact .create hcreates (Upkeep.session _ _ hprivate).once

/-- A request that is not refused comes to the pseudowire, with the ids that it names. -/
theorem l2tpNlCmdSessionCreate_cases (hash : SessionHash) (net : L2tpNet n) (answers : CreateEnv n)
    (request : SessionCreateRequest) :
    (l2tpNlCmdSessionCreate hash answers net request).1 = net ∨
      ∃ tunnelId sessionId peerSessionId cfg,
        request.connId = some tunnelId ∧ request.sessionId = some sessionId ∧
          (l2tpNlCmdSessionCreate hash answers net request =
              l2tpEthCreate hash answers net tunnelId sessionId peerSessionId cfg ∨
            l2tpNlCmdSessionCreate hash answers net request =
              pppol2tpSessionCreate hash answers net tunnelId sessionId peerSessionId cfg) := by
  unfold l2tpNlCmdSessionCreate
  cases hconn : request.connId with
  | none => exact Or.inl rfl
  | some tunnelId =>
    cases hsession : request.sessionId with
    | none =>
      left
      dsimp only
      split <;> rfl
    | some sessionId =>
      dsimp only
      split
      case h_1 => exact Or.inl rfl
      case h_2 t tunnel _ =>
        split_ifs
        · exact Or.inl rfl
        split
        case h_2 => exact Or.inl rfl
        case h_1 peerSessionId pwType _ _ =>
          split_ifs
          · exact Or.inl rfl
          cases sessionCfgOf tunnel.version request with
          | none => exact Or.inl rfl
          | some cfg =>
            dsimp only
            cases cfg.pwType with
            | eth => exact Or.inr ⟨_, _, peerSessionId, cfg, rfl, rfl, Or.inl rfl⟩
            | ppp => exact Or.inr ⟨_, _, peerSessionId, cfg, rfl, rfl, Or.inr rfl⟩
            | _ => exact Or.inl rfl

theorem transition_l2tpNlCmdSessionCreate (answers : CreateEnv n) (request : SessionCreateRequest) :
    Transition hash net (.sessionCreate answers request)
      (l2tpNlCmdSessionCreate hash answers net request).1 := by
  rcases l2tpNlCmdSessionCreate_cases hash net answers request with
    hsame | ⟨tunnelId, sessionId, peerSessionId, cfg, hconn, hsession, hcreated⟩
  · rw [hsame]
    exact .refl hash net _
  · have hrequest : (NetEvent.sessionCreate answers request).sessionRequest =
        some (tunnelId, sessionId) := by
      rw [NetEvent.sessionRequest, hconn, hsession]
      rfl
    rcases hcreated with heth | hppp
    · rw [heth]
      exact transition_l2tpEthCreate answers peerSessionId cfg hrequest
    · rw [hppp]
      exact transition_pppol2tpSessionCreate answers peerSessionId cfg hrequest

end Creation

section Connection

variable {hash : SessionHash} {net : L2tpNet n}

theorem keepsTunnel_prepareTunnel (address : SockaddrPppol2tp) :
    KeepsTunnel (prepareTunnel (n := n) address) :=
  ⟨fun _ ↦ rfl, fun _ ↦ rfl, fun _ ↦ rfl⟩

/-- A change of a tunnel that leaves its table alone is not noticed by a lookup. -/
theorem l2tpSessionFind_onTunnel {change : L2tpTunnel n → L2tpTunnel n}
    (hchange : KeepsTunnel change)
    (t : ℕ) (table : Option ℕ) (sessionId : UInt32) :
    l2tpSessionFind hash (net.onTunnel t change) table sessionId =
      l2tpSessionFind hash net table sessionId := by
  cases table with
  | none => rfl
  | some t' =>
    unfold l2tpSessionFind
    dsimp only [L2tpNet.onTunnel]
    rw [List.getElem?_modify]
    cases net.tunnels[t']? with
    | none => rfl
    | some tunnel =>
      by_cases ht : t = t'
      · simp only [ht, if_true, Option.map_eq_map, Option.map_some, Option.bind_some,
          hchange.sessionHlist]
        rfl
      · simp only [ht, if_false, Option.map_eq_map, Option.map_some, Option.bind_some]
        rfl

/-- The tunnel of `pppol2tp_connect` was there before, or it is new, and then the socket is one that
manages it. -/
theorem connectTunnel_spec (net : L2tpNet n) (socket : TunnelSocket) (address : SockaddrPppol2tp) :
    Upkeeps net (connectTunnel net socket address).1 ∧
      (connectTunnel net socket address).1.sessions = net.sessions ∧
      (connectTunnel net socket address).1.sessionHlist = net.sessionHlist ∧
      ∀ t, (connectTunnel net socket address).2 = .ok t →
        (l2tpTunnelFind net address.tunnelId = some t ∧
          (connectTunnel net socket address).1 = net) ∨
        (address.sessionId = 0 ∧ ∃ tunnel,
          (connectTunnel net socket address).1.tunnels[t]? = some tunnel ∧
            tunnel.sessionHlist = fun _ ↦ []) := by
  unfold connectTunnel
  cases hfound : l2tpTunnelFind net address.tunnelId with
  | some t =>
    dsimp only
    split_ifs
    · exact ⟨Relation.ReflTransGen.refl, rfl, rfl,
        fun t' ht ↦ Or.inl ⟨by rw [Except.ok.inj ht], rfl⟩⟩
    · exact ⟨Relation.ReflTransGen.refl, rfl, rfl, fun t' ht ↦ by simp at ht⟩
    · exact ⟨Relation.ReflTransGen.refl, rfl, rfl,
        fun t' ht ↦ Or.inl ⟨by rw [Except.ok.inj ht], rfl⟩⟩
  | none =>
    dsimp only
    split_ifs with hmanagement
    · refine ⟨upkeeps_l2tpTunnelCreate _ _ _ _ _ _, ?_⟩
      unfold l2tpTunnelCreate
      cases socket.sk with
      | error errno => exact ⟨rfl, rfl, fun t' ht ↦ by simp at ht⟩
      | ok sk =>
        dsimp only
        split_ifs
        · exact ⟨rfl, rfl, fun t' ht ↦ by simp at ht⟩
        · exact ⟨rfl, rfl, fun t' ht ↦ by simp at ht⟩
        · exact ⟨rfl, rfl, fun t' ht ↦ by simp at ht⟩
        · refine ⟨rfl, rfl, fun t' ht ↦ Or.inr ⟨hmanagement.1,
            newTunnel n address.ver address.tunnelId address.peerTunnelId .udp sk, ?_, rfl⟩⟩
          rw [← Except.ok.inj ht]
          exact List.getElem?_concat_length
    · exact ⟨Relation.ReflTransGen.refl, rfl, rfl, fun t' ht ↦ by simp at ht⟩

theorem upkeeps_connectChannel (call : ConnectCall) (net : L2tpNet n) (i : ℕ) :
    Upkeeps net (connectChannel call net i).1 := by
  unfold connectChannel
  dsimp only
  split
  · exact Relation.ReflTransGen.refl
  · exact (Upkeep.socks net _).once

/-- The tunnel on which `pppol2tp_connect` looks for the session: it was there before, and what has
been set in it does not matter here, or it is new and has no sessions. -/
def ConnectPlace (net mid : L2tpNet n) (address : SockaddrPppol2tp) (t : ℕ) : Prop :=
  (l2tpTunnelFind net address.tunnelId = some t ∧ mid = net.onTunnel t (prepareTunnel address)) ∨
    (address.sessionId = 0 ∧ ∃ tunnel, mid.tunnels[t]? = some tunnel ∧
      tunnel.sessionHlist = fun _ ↦ [])

theorem connectPlace_found {mid : L2tpNet n} {address : SockaddrPppol2tp} {t i : ℕ}
    (hplace : ConnectPlace net mid address t)
    (hfind : l2tpSessionFind hash mid (some t) address.sessionId = some i) :
    l2tpTunnelFind net address.tunnelId = some t ∧
      l2tpSessionFind hash net (some t) address.sessionId = some i := by
  rcases hplace with ⟨hfound, rfl⟩ | ⟨-, tunnel, htunnel, hempty⟩
  · rw [l2tpSessionFind_onTunnel (keepsTunnel_prepareTunnel address)] at hfind
    exact ⟨hfound, hfind⟩
  · simp [l2tpSessionFind, htunnel, hempty, Chains.lookup] at hfind

theorem connectPlace_creates {mid : L2tpNet n} {call : ConnectCall} {address : SockaddrPppol2tp}
    {t : ℕ} {tunnel : L2tpTunnel n} (hplace : ConnectPlace net mid address t)
    (haddress : call.address = some address) (hbefore : Upkeeps net mid)
    (hsessions : mid.sessions = net.sessions) (hhlist : mid.sessionHlist = net.sessionHlist)
    (htunnel : mid.tunnels[t]? = some tunnel)
    (hunused : l2tpSessionFind hash mid (some t) address.sessionId = none) :
    CreatesSession hash net mid (.connect call) t tunnel address.sessionId where
  before := hbefore
  sessions := hsessions
  sessionHlist := hhlist
  request := by
    refine ⟨address.tunnelId, by rw [NetEvent.sessionRequest, haddress]; rfl, ?_⟩
    rcases hplace with ⟨hfound, rfl⟩ | ⟨hzero, -⟩
    · refine Or.inr ⟨hfound, ?_⟩
      rw [L2tpNet.onTunnel, List.getElem?_modify_eq, Option.map_eq_map,
        Option.map_eq_some_iff] at htunnel
      obtain ⟨first, hfirst, rfl⟩ := htunnel
      exact ⟨first, hfirst, rfl, rfl⟩
    · exact Or.inl hzero
  found := htunnel
  unused := hunused

theorem transition_connectSession {mid : L2tpNet n} {call : ConnectCall}
    {address : SockaddrPppol2tp} {t : ℕ} (hplace : ConnectPlace net mid address t)
    (haddress : call.address = some address) (hbefore : Upkeeps net mid)
    (hsessions : mid.sessions = net.sessions) (hhlist : mid.sessionHlist = net.sessionHlist)
    (tunnelSock : L2tpNet n → Option ℕ) :
    Transition hash net (.connect call)
      (match connectSession hash mid t address call.alloc with
      | (last, .error errno) => (last, some errno)
      | (last, .ok i) => connectChannel call
          (last.onSession i (attachSocket call (tunnelSock last)))
          i).1 := by
  unfold connectSession
  cases hfind : l2tpSessionFind hash mid (some t) address.sessionId with
  | some i =>
    dsimp only
    cases hsession : mid.sessions[i]? with
    | none => exact .upkeep hbefore
    | some session =>
      obtain ⟨htunnelFind, hsessionFind⟩ := connectPlace_found hplace hfind
      dsimp only
      split_ifs with hsock htunnelSock
      · exact .upkeep hbefore
      · exact .upkeep hbefore
      · have hconnects : ConnectsSession hash net mid (.connect call) call i session :=
          ⟨hbefore, hsessions, rfl, ⟨address, t, haddress, htunnelFind, hsessionFind⟩,
            by rw [← hsessions]; exact hsession, Option.not_isSome_iff_eq_none.mp hsock⟩
        exact .connect hconnects (upkeeps_connectChannel call _ i)
  | none =>
    dsimp only
    cases htunnel : mid.tunnels[t]? with
    | none => exact .upkeep hbefore
    | some tunnel =>
      dsimp only
      split_ifs
      · exact .upkeep hbefore
      · have hcreates := connectPlace_creates hplace haddress hbefore hsessions hhlist htunnel hfind
        exact .createConnected hcreates (upkeeps_connectChannel call _ _)

theorem transition_pppol2tpConnect (call : ConnectCall) :
    Transition hash net (.connect call) (pppol2tpConnect hash net call).1 := by
  unfold pppol2tpConnect
  cases net.socks[call.sock]? with
  | none => exact .refl hash net _
  | some sock =>
    dsimp only
    split_ifs
    · exact .refl hash net _
    · exact .refl hash net _
    · exact .refl hash net _
    cases haddress : call.address with
    | none => exact .refl hash net _
    | some address =>
      dsimp only
      split_ifs
      · exact .refl hash net _
      obtain ⟨hbefore, hsessions, hhlist, htunnel⟩ :=
        connectTunnel_spec net call.tunnelSocket address
      cases hconnect : connectTunnel net call.tunnelSocket address with
      | mk net₁ answer =>
        rw [hconnect] at hbefore hsessions hhlist htunnel
        cases answer with
        | error errno => exact .upkeep hbefore
        | ok t =>
          have hprepare := keepsTunnel_prepareTunnel (n := n) address
          refine transition_connectSession ?_ haddress
            (hbefore.tail (Upkeep.tunnel net₁ t hprepare))
            hsessions hhlist fun last ↦ last.tunnels[t]?.bind (·.sock)
          rcases htunnel t rfl with ⟨hfound, rfl⟩ | ⟨hzero, tunnel, hnew, hempty⟩
          · exact Or.inl ⟨hfound, rfl⟩
          · refine Or.inr ⟨hzero, prepareTunnel address tunnel, ?_, hempty⟩
            dsimp only [L2tpNet.onTunnel] at hnew ⊢
            rw [List.getElem?_modify_eq, hnew]
            rfl

end Connection

section Events

variable (hash : SessionHash) (net : L2tpNet n)

theorem upkeeps_l2tpNlCmdTunnelCreate (request : TunnelCreateRequest) :
    Upkeeps net (l2tpNlCmdTunnelCreate net request).1 := by
  unfold l2tpNlCmdTunnelCreate
  split
  · split_ifs
    · exact Relation.ReflTransGen.refl
    · split
      · exact Relation.ReflTransGen.refl
      · split
        · rename_i net' t hcreate
          rw [← congrArg Prod.fst hcreate]
          exact upkeeps_l2tpTunnelCreate _ _ _ _ _ _
        · rename_i net' errno hcreate
          rw [← congrArg Prod.fst hcreate]
          exact upkeeps_l2tpTunnelCreate _ _ _ _ _ _
  · exact Relation.ReflTransGen.refl

theorem upkeeps_l2tpNlCmdTunnelDelete (env : Env n) (connId : Option UInt32) :
    Upkeeps net (l2tpNlCmdTunnelDelete env net connId).1 := by
  unfold l2tpNlCmdTunnelDelete l2tpTunnelDelete
  cases connId with
  | none => exact Relation.ReflTransGen.refl
  | some tunnelId =>
    dsimp only
    cases l2tpTunnelFind net tunnelId with
    | none => exact Relation.ReflTransGen.refl
    | some t =>
      dsimp only
      exact upkeeps_l2tpTunnelCloseall env net t

theorem upkeeps_l2tpNlCmdSessionDelete (env : Env n) (name : SessionName) :
    Upkeeps net (l2tpNlCmdSessionDelete hash env net name).1 := by
  unfold l2tpNlCmdSessionDelete
  split
  · exact Relation.ReflTransGen.refl
  · split
    · exact (Upkeep.delete env net _).once
    · exact (Upkeep.delete env net _).once
    · exact Relation.ReflTransGen.refl

theorem upkeeps_l2tpNlCmdSessionModify (name : SessionName) (request : SessionModifyRequest) :
    Upkeeps net (l2tpNlCmdSessionModify hash net name request).1 := by
  unfold l2tpNlCmdSessionModify
  split
  · exact Relation.ReflTransGen.refl
  · exact (Upkeep.data net _ (.modify request)).once

theorem upkeeps_pppol2tpSetsockopt (call : SetsockoptCall) :
    Upkeeps net (pppol2tpSetsockopt net call).1 := by
  unfold pppol2tpSetsockopt
  split_ifs
  · exact Relation.ReflTransGen.refl
  · split
    · exact Relation.ReflTransGen.refl
    · exact Relation.ReflTransGen.refl
    · split
      · exact Relation.ReflTransGen.refl
      · split_ifs
        · exact Relation.ReflTransGen.refl
        · exact Relation.ReflTransGen.refl
        · exact (Upkeep.data net _ (.setsockopt _ _ _)).once

theorem upkeeps_pppol2tpRelease (env : Env n) (sk : ℕ) :
    Upkeeps net (pppol2tpRelease env net sk).1 := by
  unfold pppol2tpRelease
  split
  · exact Relation.ReflTransGen.refl
  · split_ifs
    · exact Relation.ReflTransGen.refl
    · have hdead := (Upkeep.socks net (net.socks.modify sk fun sock ↦
        { sock with connected := false, dead := true })).once
      dsimp only
      split
      · exact hdead
      · exact (hdead.tail (Upkeep.unhash _ _)).tail (Upkeep.data _ _ (.purge env))

theorem upkeeps_l2tpUdpRecvCore (env : Env n) (badCsum : Bool) (t : ℕ) (skb : SkBuff) :
    Upkeeps net (l2tpUdpRecvCore hash net env badCsum t skb).1 := by
  unfold l2tpUdpRecvCore
  split
  · exact Relation.ReflTransGen.refl
  · split
    · exact Relation.ReflTransGen.refl
    · exact Relation.ReflTransGen.refl
    · exact (Upkeep.data net _ (.recv _)).once

theorem upkeeps_l2tpIpRecv (env : Env n) (skb : SkBuff) :
    Upkeeps net (l2tpIpRecv hash net env skb) := by
  unfold l2tpIpRecv
  split
  · exact Relation.ReflTransGen.refl
  · exact Relation.ReflTransGen.refl
  · exact (Upkeep.data net _ (.recv _)).once

theorem upkeeps_pppol2tpXmit (env : XmitEnv n) (sk : ℕ) (skb : SkBuff) :
    Upkeeps net (pppol2tpXmit env net sk skb) := by
  unfold pppol2tpXmit
  split
  · exact Relation.ReflTransGen.refl
  · split_ifs
    · exact Relation.ReflTransGen.refl
    · split
      · exact Relation.ReflTransGen.refl
      · exact (Upkeep.data net _ (.pppXmit env skb)).once

theorem upkeeps_pppol2tpSendmsg (env : XmitEnv n) (sk : ℕ) (call : SendmsgCall) :
    Upkeeps net (pppol2tpSendmsg env net sk call).1 := by
  unfold pppol2tpSendmsg
  split
  · exact Relation.ReflTransGen.refl
  · by_cases hsock : (‹PppoxSock›.dead || !‹PppoxSock›.connected) = true
    · simp only [if_pos hsock]
      exact Relation.ReflTransGen.refl
    · simp only [if_neg hsock]
      split
      · exact Relation.ReflTransGen.refl
      · split_ifs
        all_goals first
          | exact Relation.ReflTransGen.refl
          | exact (Upkeep.data net _ (.sendmsg env call)).once

/-- What an event does to a namespace. -/
theorem netStep_transition (event : NetEvent n) :
    Transition hash net event (netStep hash net event) := by
  cases event with
  | tunnelCreate request => exact .upkeep (upkeeps_l2tpNlCmdTunnelCreate net request)
  | tunnelDelete env connId => exact .upkeep (upkeeps_l2tpNlCmdTunnelDelete net env connId)
  | tunnelDestruct env t => exact .upkeep (upkeeps_l2tpTunnelDestruct env net t)
  | sessionCreate answers request => exact transition_l2tpNlCmdSessionCreate answers request
  | sessionDelete env name => exact .upkeep (upkeeps_l2tpNlCmdSessionDelete hash net env name)
  | sessionModify name request =>
    exact .upkeep (upkeeps_l2tpNlCmdSessionModify hash net name request)
  | socket => exact .upkeep (Upkeep.socks net _).once
  | connect call => exact transition_pppol2tpConnect call
  | setsockopt call => exact .upkeep (upkeeps_pppol2tpSetsockopt net call)
  | release env sk => exact .upkeep (upkeeps_pppol2tpRelease net env sk)
  | udpRecv env badCsum t skb => exact .upkeep (upkeeps_l2tpUdpRecvCore hash net env badCsum t skb)
  | ipRecv env skb => exact .upkeep (upkeeps_l2tpIpRecv hash net env skb)
  | queuePurge env i => exact .upkeep (Upkeep.data net i (.purge env)).once
  | ethXmit env i skb =>
    dsimp only [netStep]
    split_ifs
    · exact .upkeep (Upkeep.data net i (.ethXmit env skb)).once
    · exact .refl hash net _
  | pppXmit env sk skb => exact .upkeep (upkeeps_pppol2tpXmit net env sk skb)
  | sendmsg env sk call => exact .upkeep (upkeeps_pppol2tpSendmsg net env sk call)

end Events

/-! ### Requests -/

/-- A request for an L2TPv3 tunnel over IP. -/
def ipTunnelRequest (tunnelId : UInt32) (sk : ℕ) : TunnelCreateRequest where
  connId := some tunnelId
  peerConnId := some tunnelId
  protoVersion := some 3
  encapType := some 1
  socket := some { sk := .ok sk }

/-- A request for an Ethernet session. -/
def ethSessionRequest (tunnelId sessionId : UInt32) : SessionCreateRequest where
  connId := some tunnelId
  sessionId := some sessionId
  peerSessionId := some sessionId
  pwType := some 5

end KernelModules.L2tp
