import KernelModules.L2tp.System

/-!
# Calls of connect that fail

`pppol2tp_connect` has one exit for all its errors and takes nothing back there. A management socket
may have created the tunnel by then, the tunnel has its payload hook and the id of its peer, and
when the channel cannot be registered the session is attached to the socket already.

`Untouched` is what a failed call should leave alone: the tunnel list, the tables, and what the call
sets in tunnels and sessions. A failed call does leave it alone exactly if no tunnel is created in
vain, a session that is refused is asked of a tunnel that is prepared already, and every other
session gets its channel (`failed_connect_untouched_iff`).
-/

set_option autoImplicit false
set_option relaxedAutoImplicit false

namespace KernelModules.L2tp

open Foundations

variable {n : ℕ}

/-! ### What is to stay as it is -/

/-- What `pppol2tp_connect` sets in a tunnel, and the tunnel's table. -/
structure TunnelBinding where
  recvPayloadHook : Option PayloadHook
  peerTunnelId : UInt32
  sessionHlist : Fin 16 → List ℕ

/-- What `pppol2tp_connect` sets in a session. -/
structure SessionBinding where
  sock : Option ℕ
  owner : Int32
  recvSkb : Option RecvHandler
  sessionClose : Option CloseHandler
  ref : Option RefHandler
  deref : Option DerefHandler
  mtu : Int32
  mru : Int32

/-- The binding of a tunnel. -/
def L2tpTunnel.binding (tunnel : L2tpTunnel n) : TunnelBinding where
  recvPayloadHook := tunnel.recvPayloadHook
  peerTunnelId := tunnel.peerTunnelId
  sessionHlist := tunnel.sessionHlist

/-- The binding of a session. -/
def L2tpSession.binding (session : L2tpSession n) : SessionBinding where
  sock := session.ps.sock
  owner := session.ps.owner
  recvSkb := session.recvSkb
  sessionClose := session.sessionClose
  ref := session.ref
  deref := session.deref
  mtu := session.mtu
  mru := session.mru

/-- The tunnel list, the tables, and the bindings of the tunnels and sessions there were. -/
structure Untouched (net net' : L2tpNet n) : Prop where
  tunnelList : net'.tunnelList = net.tunnelList
  sessionHlist : net'.sessionHlist = net.sessionHlist
  tunnels : ∀ (t : ℕ) (tunnel : L2tpTunnel n), net.tunnels[t]? = some tunnel →
    net'.tunnels[t]?.map L2tpTunnel.binding = some tunnel.binding
  sessions : ∀ (i : ℕ) (session : L2tpSession n), net.sessions[i]? = some session →
    net'.sessions[i]?.map L2tpSession.binding = some session.binding

theorem Untouched.refl (net : L2tpNet n) : Untouched net net where
  tunnelList := rfl
  sessionHlist := rfl
  tunnels _ _ htunnel := congrArg (Option.map L2tpTunnel.binding) htunnel
  sessions _ _ hsession := congrArg (Option.map L2tpSession.binding) hsession

/-- A tunnel that has lost or gained a session is touched. -/
theorem Untouched.sessionHlist_eq {net last : L2tpNet n} (huntouched : Untouched net last) {t : ℕ}
    {tunnel tunnel' : L2tpTunnel n} (htunnel : net.tunnels[t]? = some tunnel)
    (hlast : last.tunnels[t]? = some tunnel') : tunnel'.sessionHlist = tunnel.sessionHlist := by
  have hbinding := huntouched.tunnels t tunnel htunnel
  rw [hlast] at hbinding
  exact congrArg TunnelBinding.sessionHlist (Option.some.inj hbinding)

/-- A session that has lost or gained a socket is touched. -/
theorem Untouched.sock_eq {net last : L2tpNet n} (huntouched : Untouched net last) {i : ℕ}
    {session session' : L2tpSession n} (hsession : net.sessions[i]? = some session)
    (hlast : last.sessions[i]? = some session') : session'.ps.sock = session.ps.sock := by
  have hbinding := huntouched.sessions i session hsession
  rw [hlast] at hbinding
  exact congrArg SessionBinding.sock (Option.some.inj hbinding)

/-! ### Where a call fails -/

/-- The checks of `pppol2tp_connect` before it looks for the tunnel. -/
structure PassesChecks (net : L2tpNet n) (call : ConnectCall) (address : SockaddrPppol2tp) :
    Prop where
  protocolOk : call.protocolOk = true
  unbound : ∃ sock, net.socks[call.sock]? = some sock ∧ sock.connected = false ∧
    sock.userData = none
  tunnelId : address.tunnelId ≠ 0
  given : call.address = some address

/-- Both session ids are zero: the socket is to manage the tunnel. -/
def SockaddrPppol2tp.Manages (address : SockaddrPppol2tp) : Prop :=
  address.sessionId = 0 ∧ address.peerSessionId = 0

instance (address : SockaddrPppol2tp) : Decidable address.Manages :=
  inferInstanceAs (Decidable (_ ∧ _))

/-- A tunnel can be made of the socket. -/
structure CreatesTunnel (net : L2tpNet n) (socket : TunnelSocket) : Prop where
  sk : ∃ sk, socket.sk = .ok sk ∧ net.tunnels.any (·.sock = some sk) = false
  protocolOk : socket.protocolOk = true
  alloc : socket.alloc = true

/-- The tunnel has a payload hook, and the id of its peer unless the address has none either. -/
structure Prepared (address : SockaddrPppol2tp) (tunnel : L2tpTunnel n) : Prop where
  recvPayloadHook : tunnel.recvPayloadHook.isSome = true
  peerTunnelId : tunnel.peerTunnelId = 0 → address.peerTunnelId = 0

/-- The tunnel does not get the session that is asked for: it has a socket already or belongs to
another tunnel socket, or it is not there and there is no memory for it. -/
def RefusesSession (hash : SessionHash) (net : L2tpNet n) (t : ℕ) (tunnel : L2tpTunnel n)
    (address : SockaddrPppol2tp) (alloc : Bool) : Prop :=
  match l2tpSessionFind hash net (some t) address.sessionId with
  | some i => ∀ session, net.sessions[i]? = some session →
      session.ps.sock.isSome = true ∨ session.ps.tunnelSock ≠ tunnel.sock
  | none => alloc = false

/-- The session that is asked for is the one that manages the tunnel. -/
def ManagementSession (hash : SessionHash) (net : L2tpNet n) (t : ℕ)
    (address : SockaddrPppol2tp) : Prop :=
  match l2tpSessionFind hash net (some t) address.sessionId with
  | some i => ∃ session, net.sessions[i]? = some session ∧ session.sessionId = 0 ∧
      session.peerSessionId = 0
  | none => address.Manages

/-- The call gets to a tunnel that was there before. -/
structure ReachesTunnel (net : L2tpNet n) (call : ConnectCall) (address : SockaddrPppol2tp) (t : ℕ)
    (tunnel : L2tpTunnel n) : Prop where
  checks : PassesChecks net call address
  found : l2tpTunnelFind net address.tunnelId = some t
  present : net.tunnels[t]? = some tunnel
  prepped : address.Manages ∨ tunnel.sock.isSome = true

/-- A call that fails has nothing to take back. -/
structure FailsClean (hash : SessionHash) (net : L2tpNet n) (call : ConnectCall) : Prop where
  created : ∀ address, PassesChecks net call address →
    l2tpTunnelFind net address.tunnelId = none → address.Manages →
    CreatesTunnel net call.tunnelSocket → call.alloc = true
  refused : ∀ address t tunnel, ReachesTunnel net call address t tunnel →
    RefusesSession hash net t tunnel address call.alloc → Prepared address tunnel
  channel : ∀ address t tunnel, ReachesTunnel net call address t tunnel →
    ¬ RefusesSession hash net t tunnel address call.alloc →
    ManagementSession hash net t address ∨ call.registerChannel = none

/-! ### What the parts of a call leave behind -/

section Parts

variable {hash : SessionHash} {net : L2tpNet n} {call : ConnectCall} {address : SockaddrPppol2tp}
  {t : ℕ} {tunnel : L2tpTunnel n}

/-- `pppol2tp_connect` from where it has a tunnel. -/
def connectOn (hash : SessionHash) (call : ConnectCall) (address : SockaddrPppol2tp)
    (net : L2tpNet n) (t : ℕ) : L2tpNet n × Option Errno :=
  match connectSession hash (net.onTunnel t (prepareTunnel address)) t address call.alloc with
  | (net, .error errno) => (net, some errno)
  | (net, .ok i) =>
    connectChannel call (net.onSession i (attachSocket call (net.tunnels[t]?.bind (·.sock)))) i

theorem pppol2tpConnect_of_passes (hpasses : PassesChecks net call address) :
    pppol2tpConnect hash net call =
      match connectTunnel net call.tunnelSocket address with
      | (net, .error errno) => (net, some errno)
      | (net, .ok t) => connectOn hash call address net t := by
  obtain ⟨sock, hsock, hconnected, hdata⟩ := hpasses.unbound
  unfold pppol2tpConnect
  simp only [hsock, hpasses.protocolOk, hconnected, hdata, hpasses.given, if_neg hpasses.tunnelId,
    Bool.not_true, Bool.false_eq_true, Option.isSome_none, if_false]
  rfl

theorem pppol2tpConnect_of_not_passes (hfails : ∀ address, ¬ PassesChecks net call address) :
    (pppol2tpConnect hash net call).1 = net := by
  unfold pppol2tpConnect
  split
  · rfl
  · rename_i sock hsock
    split_ifs with hprotocol hconnected hdata
    · rfl
    · rfl
    · rfl
    · split
      · rfl
      · rename_i address hgiven
        split_ifs with hzero
        · rfl
        · exact absurd ⟨by simpa using hprotocol, ⟨sock, hsock, by simpa using hconnected,
            by simpa using hdata⟩, hzero, hgiven⟩ (hfails address)

theorem tunnels_prepareTunnel (address : SockaddrPppol2tp)
    (htunnel : net.tunnels[t]? = some tunnel) :
    (net.onTunnel t (prepareTunnel address)).tunnels[t]? = some (prepareTunnel address tunnel) := by
  rw [L2tpNet.onTunnel, List.getElem?_modify_eq, htunnel]
  rfl

/-- A tunnel is prepared already if preparing it changes nothing. -/
theorem untouched_prepareTunnel_iff (htunnel : net.tunnels[t]? = some tunnel) :
    Untouched net (net.onTunnel t (prepareTunnel address)) ↔ Prepared address tunnel := by
  have hafter := tunnels_prepareTunnel address htunnel
  constructor
  · intro huntouched
    have hbinding := huntouched.tunnels t tunnel htunnel
    rw [hafter, Option.map_some, Option.some.injEq] at hbinding
    refine ⟨?_, fun hzero ↦ ?_⟩
    · have hhook : some _ = tunnel.recvPayloadHook :=
        congrArg TunnelBinding.recvPayloadHook hbinding
      rw [← hhook]
      rfl
    · have hpeer : (if tunnel.peerTunnelId = 0 then address.peerTunnelId
          else tunnel.peerTunnelId) = tunnel.peerTunnelId :=
        congrArg TunnelBinding.peerTunnelId hbinding
      rw [if_pos hzero, hzero] at hpeer
      exact hpeer
  · intro hprepared
    have hsame : prepareTunnel address tunnel = tunnel := by
      obtain ⟨hook, hhook⟩ := Option.isSome_iff_exists.mp hprepared.recvPayloadHook
      have hpeer : (if tunnel.peerTunnelId = 0 then address.peerTunnelId
          else tunnel.peerTunnelId) = tunnel.peerTunnelId := by
        split_ifs with hzero
        · rw [hprepared.peerTunnelId hzero, hzero]
        · rfl
      rw [prepareTunnel, hpeer, hhook, Option.getD_some, ← hhook]
    refine ⟨rfl, rfl, fun t' tunnel' htunnel' ↦ ?_, fun i session hsession ↦ ?_⟩
    · rw [L2tpNet.onTunnel, List.getElem?_modify, htunnel']
      split_ifs with ht
      · subst ht
        rw [htunnel] at htunnel'
        rw [← Option.some.inj htunnel', Option.map_eq_map, Option.map_some, hsame]
        rfl
      · rfl
    · exact congrArg (Option.map L2tpSession.binding) hsession

theorem snd_connectChannel (call : ConnectCall) (net : L2tpNet n) (i : ℕ) :
    (connectChannel call net i).2 =
      if (net.sessions[i]?.any fun session ↦ session.sessionId = 0 && session.peerSessionId = 0)
      then none else call.registerChannel := by
  unfold connectChannel
  dsimp only
  split <;> rename_i heq <;> exact heq.symm

theorem untouched_connectChannel_iff (call : ConnectCall) (last : L2tpNet n) (i : ℕ) :
    Untouched net (connectChannel call last i).1 ↔ Untouched net last := by
  unfold connectChannel
  dsimp only
  split
  · rfl
  · exact ⟨fun ⟨hlist, htable, htunnels, hsessions⟩ ↦ ⟨hlist, htable, htunnels, hsessions⟩,
      fun ⟨hlist, htable, htunnels, hsessions⟩ ↦ ⟨hlist, htable, htunnels, hsessions⟩⟩

/-- A session that is found has the id that was looked for. -/
theorem l2tpSessionFind_eq_some {sessionId : UInt32} {i : ℕ}
    (hfind : l2tpSessionFind hash net (some t) sessionId = some i) :
    ∃ session, net.sessions[i]? = some session ∧ session.sessionId = sessionId := by
  obtain ⟨tunnel, -, hlookup⟩ := Option.bind_eq_some_iff.mp hfind
  exact Option.map_eq_some_iff.mp (Chains.of_lookup_eq_some hlookup).2

theorem l2tpSessionFind_prepareTunnel (hash : SessionHash) (net : L2tpNet n) (t : ℕ)
    (address : SockaddrPppol2tp) :
    l2tpSessionFind hash (net.onTunnel t (prepareTunnel address)) (some t) address.sessionId =
      l2tpSessionFind hash net (some t) address.sessionId :=
  l2tpSessionFind_onTunnel (keepsTunnel_prepareTunnel address) t (some t) address.sessionId

/-- The session is found, and it is taken unless it has a socket or another tunnel socket. -/
theorem connectSession_of_found {i : ℕ} {session : L2tpSession n} {alloc : Bool}
    (htunnel : net.tunnels[t]? = some tunnel)
    (hfind : l2tpSessionFind hash net (some t) address.sessionId = some i)
    (hsession : net.sessions[i]? = some session) :
    connectSession hash net t address alloc =
      if session.ps.sock.isSome = true ∨ session.ps.tunnelSock ≠ tunnel.sock then
        (net, .error .eexist)
      else (net, .ok i) := by
  unfold connectSession
  rw [hfind]
  dsimp only
  rw [hsession, htunnel, ite_or]
  rfl

/-- The session is not found, and it is created if there is memory. -/
theorem connectSession_of_missing {alloc : Bool} (htunnel : net.tunnels[t]? = some tunnel)
    (hfind : l2tpSessionFind hash net (some t) address.sessionId = none) :
    connectSession hash net t address alloc =
      if alloc = false then (net, .error .enomem)
      else
        (l2tpSessionCreate hash net t tunnel address.sessionId address.peerSessionId
          { mtu := 1500 - pppol2tpHeaderOverhead, mru := 1500 - pppol2tpHeaderOverhead },
          .ok net.sessions.length) := by
  unfold connectSession
  rw [hfind]
  dsimp only
  rw [htunnel]
  cases alloc <;> rfl

/-- A session that is refused leaves the tunnel prepared. -/
theorem connectOn_of_refused (htunnel : net.tunnels[t]? = some tunnel)
    (hrefused : RefusesSession hash net t tunnel address call.alloc) :
    ∃ errno, connectOn hash call address net t =
      (net.onTunnel t (prepareTunnel address), some errno) := by
  have hprepared := tunnels_prepareTunnel address htunnel
  have hsame : (prepareTunnel address tunnel).sock = tunnel.sock := rfl
  unfold RefusesSession at hrefused
  unfold connectOn
  cases hfind : l2tpSessionFind hash net (some t) address.sessionId with
  | some i =>
    have hfound := (l2tpSessionFind_prepareTunnel hash net t address).trans hfind
    rw [hfind] at hrefused
    obtain ⟨session, hsession, -⟩ := l2tpSessionFind_eq_some hfind
    rw [connectSession_of_found hprepared hfound hsession, hsame,
      if_pos (hrefused session hsession)]
    exact ⟨_, rfl⟩
  | none =>
    have hmissing := (l2tpSessionFind_prepareTunnel hash net t address).trans hfind
    rw [hfind] at hrefused
    rw [connectSession_of_missing hprepared hmissing, if_pos hrefused]
    exact ⟨_, rfl⟩

/-- A session that is not refused is new, or gets the socket it did not have. -/
theorem connectOn_of_accepted (htunnel : net.tunnels[t]? = some tunnel)
    (haccepted : ¬ RefusesSession hash net t tunnel address call.alloc) :
    ∃ last i, connectOn hash call address net t = connectChannel call last i ∧
      last.tunnelList = net.tunnelList ∧ ¬ Untouched net last ∧
      ((last.sessions[i]?.any fun session ↦ session.sessionId = 0 && session.peerSessionId = 0) =
        true ↔ ManagementSession hash net t address) := by
  have hprepared := tunnels_prepareTunnel address htunnel
  have hsame : (prepareTunnel address tunnel).sock = tunnel.sock := rfl
  unfold RefusesSession at haccepted
  unfold connectOn ManagementSession
  cases hfind : l2tpSessionFind hash net (some t) address.sessionId with
  | some i =>
    have hfound := (l2tpSessionFind_prepareTunnel hash net t address).trans hfind
    rw [hfind] at haccepted
    obtain ⟨session, hsession, htaken⟩ := not_forall₂.mp haccepted
    rw [connectSession_of_found hprepared hfound hsession, hsame,
      if_neg htaken]
    have hattached : ∀ tunnelSock, ((net.onTunnel t (prepareTunnel address)).onSession i
        (attachSocket call tunnelSock)).sessions[i]? =
          some (attachSocket call tunnelSock session) := by
      intro tunnelSock
      exact (List.getElem?_modify_eq _ _ _).trans (congrArg (Option.map _) hsession)
    refine ⟨_, i, rfl, rfl, fun huntouched ↦ ?_, ?_⟩
    · have hsock : some call.sock = session.ps.sock :=
        huntouched.sock_eq hsession (hattached _)
      exact htaken (Or.inl (by rw [← hsock]; rfl))
    · rw [hattached]
      simp [hsession, attachSocket]
  | none =>
    have hmissing := (l2tpSessionFind_prepareTunnel hash net t address).trans hfind
    rw [hfind] at haccepted
    rw [connectSession_of_missing hprepared hmissing, if_neg haccepted]
    refine ⟨_, _, rfl, rfl, fun huntouched ↦ ?_, ?_⟩
    · obtain ⟨hlength, -⟩ := List.getElem?_eq_some_iff.mp hprepared
      have htable := huntouched.sessionHlist_eq htunnel (List.getElem?_set_self hlength)
      exact Chains.link_ne htable
    · obtain ⟨hdrLen, hnew⟩ := newSession_eq (prepareTunnel address tunnel) t address.sessionId
        address.peerSessionId
        { mtu := 1500 - pppol2tpHeaderOverhead, mru := 1500 - pppol2tpHeaderOverhead }
      dsimp only [L2tpNet.onSession, l2tpSessionCreate]
      rw [List.getElem?_modify_eq, List.getElem?_concat_length, hnew]
      simp [attachSocket, SockaddrPppol2tp.Manages, newSessionParams]

/-- What a call does from where it has a tunnel. -/
theorem connectOn_untouched_iff (htunnel : net.tunnels[t]? = some tunnel) :
    ((connectOn hash call address net t).2.isSome = true →
        Untouched net (connectOn hash call address net t).1) ↔
      (RefusesSession hash net t tunnel address call.alloc → Prepared address tunnel) ∧
        (¬ RefusesSession hash net t tunnel address call.alloc →
          ManagementSession hash net t address ∨ call.registerChannel = none) := by
  by_cases hrefused : RefusesSession hash net t tunnel address call.alloc
  · obtain ⟨errno, heq⟩ := connectOn_of_refused htunnel hrefused
    rw [heq, untouched_prepareTunnel_iff htunnel]
    exact ⟨fun hclean ↦ ⟨fun _ ↦ hclean rfl, fun haccepted ↦ absurd hrefused haccepted⟩,
      fun hclean _ ↦ hclean.1 hrefused⟩
  · obtain ⟨last, i, heq, -, htouched, hmanagement⟩ := connectOn_of_accepted htunnel hrefused
    rw [heq, untouched_connectChannel_iff, snd_connectChannel]
    have hfails : (¬ (if (last.sessions[i]?.any fun session ↦
        session.sessionId = 0 && session.peerSessionId = 0) then none
        else call.registerChannel).isSome = true) ↔
          ManagementSession hash net t address ∨ call.registerChannel = none := by
      rw [← hmanagement]
      split_ifs with hmanages
      · exact iff_of_true Bool.false_ne_true (Or.inl hmanages)
      · rw [Option.not_isSome_iff_eq_none]
        exact ⟨Or.inr, fun hor ↦ hor.resolve_left hmanages⟩
    rw [← hfails]
    exact ⟨fun hclean ↦ ⟨fun hwrong ↦ absurd hwrong hrefused,
        fun _ hsome ↦ htouched (hclean hsome)⟩,
      fun hclean hsome ↦ absurd hsome (hclean.2 hrefused)⟩

/-- The tunnel is there, and it has a socket unless that does not matter. -/
theorem connectTunnel_of_found {socket : TunnelSocket}
    (hfind : l2tpTunnelFind net address.tunnelId = some t)
    (htunnel : net.tunnels[t]? = some tunnel) :
    connectTunnel net socket address =
      if address.Manages ∨ tunnel.sock.isSome = true then (net, .ok t)
      else (net, .error .enoent) := by
  unfold connectTunnel
  rw [hfind]
  dsimp only
  rw [htunnel, ite_or]
  refine if_congr Iff.rfl rfl ?_
  cases hsock : tunnel.sock with
  | none => rw [Option.bind_some, hsock]; rfl
  | some sk => rw [Option.bind_some, hsock]; rfl

/-- The tunnel is not there, and it is created if the socket allows. -/
theorem connectTunnel_of_missing {socket : TunnelSocket}
    (hfind : l2tpTunnelFind net address.tunnelId = none) :
    (¬ (address.Manages ∧ CreatesTunnel net socket) ∧
        ∃ errno, connectTunnel net socket address = (net, .error errno)) ∨
      ((address.Manages ∧ CreatesTunnel net socket) ∧
        ∃ sk, connectTunnel net socket address =
          ({ net with
              tunnels := net.tunnels ++
                [newTunnel n address.ver address.tunnelId address.peerTunnelId .udp sk]
              tunnelList := net.tunnels.length :: net.tunnelList }, .ok net.tunnels.length)) := by
  unfold connectTunnel
  rw [hfind]
  dsimp only
  split_ifs with hmanages
  · unfold l2tpTunnelCreate
    cases hsk : socket.sk with
    | error errno =>
      refine Or.inl ⟨fun hcreates ↦ ?_, errno, rfl⟩
      obtain ⟨sk, hok, -⟩ := hcreates.2.sk
      rw [hsk] at hok
      cases hok
    | ok sk =>
      dsimp only
      split_ifs with hprotocol hused halloc
      · exact Or.inl ⟨fun hcreates ↦ by simp [hcreates.2.protocolOk] at hprotocol, _, rfl⟩
      · refine Or.inl ⟨fun hcreates ↦ ?_, _, rfl⟩
        obtain ⟨sk', hok, hunused⟩ := hcreates.2.sk
        rw [hsk] at hok
        cases hok
        exact absurd hused (by rw [hunused]; exact Bool.false_ne_true)
      · exact Or.inl ⟨fun hcreates ↦ by simp [hcreates.2.alloc] at halloc, _, rfl⟩
      · exact Or.inr ⟨⟨hmanages, ⟨sk, hsk, by simpa using hused⟩, by simpa using hprotocol,
          by simpa using halloc⟩, sk, rfl⟩
  · exact Or.inl ⟨fun hcreates ↦ hmanages hcreates.1, _, rfl⟩

/-- From where it has a tunnel, a call leaves the tunnel list alone. -/
theorem tunnelList_connectOn (htunnel : net.tunnels[t]? = some tunnel) :
    (connectOn hash call address net t).1.tunnelList = net.tunnelList := by
  by_cases hrefused : RefusesSession hash net t tunnel address call.alloc
  · obtain ⟨errno, heq⟩ := connectOn_of_refused htunnel hrefused
    rw [heq]
    rfl
  · obtain ⟨last, i, heq, hlist, -, -⟩ := connectOn_of_accepted htunnel hrefused
    rw [heq, ← hlist]
    unfold connectChannel
    dsimp only
    split <;> rfl

/-- A call that has created its tunnel fails if there is no memory for the session. -/
theorem isSome_connectOn_new (hmanages : address.Manages)
    (htunnel : net.tunnels[t]? = some tunnel) (hempty : tunnel.sessionHlist = fun _ ↦ []) :
    (connectOn hash call address net t).2.isSome = true ↔ call.alloc = false := by
  have hfind : l2tpSessionFind hash net (some t) address.sessionId = none := by
    rw [l2tpSessionFind, htunnel, Option.bind_some, hempty]
    rfl
  have hrefuses : RefusesSession hash net t tunnel address call.alloc ↔ call.alloc = false := by
    rw [RefusesSession, hfind]
  by_cases hrefused : RefusesSession hash net t tunnel address call.alloc
  · obtain ⟨errno, heq⟩ := connectOn_of_refused htunnel hrefused
    rw [heq]
    exact iff_of_true rfl (hrefuses.mp hrefused)
  · obtain ⟨last, i, heq, -, -, hmanagement⟩ := connectOn_of_accepted htunnel hrefused
    rw [ManagementSession, hfind] at hmanagement
    rw [heq, snd_connectChannel, if_pos (hmanagement.mpr hmanages)]
    exact iff_of_false Bool.false_ne_true fun halloc ↦ hrefused (hrefuses.mpr halloc)

theorem l2tpTunnelFind_eq_some {tunnelId : UInt32} (hfind : l2tpTunnelFind net tunnelId = some t) :
    ∃ tunnel, net.tunnels[t]? = some tunnel := by
  have hany := List.find?_some hfind
  cases htunnel : net.tunnels[t]? with
  | none =>
    rw [htunnel] at hany
    cases hany
  | some tunnel => exact ⟨tunnel, rfl⟩

/-! ### The condition at each exit -/

theorem PassesChecks.unique {address' : SockaddrPppol2tp} (hpasses : PassesChecks net call address)
    (hpasses' : PassesChecks net call address') : address' = address :=
  Option.some.inj (hpasses'.given.symm.trans hpasses.given)

theorem failsClean_of_not_passes (hfails : ∀ address, ¬ PassesChecks net call address) :
    FailsClean hash net call where
  created address hpasses := absurd hpasses (hfails address)
  refused address _ _ hreaches := absurd hreaches.checks (hfails address)
  channel address _ _ hreaches := absurd hreaches.checks (hfails address)

theorem failsClean_iff_of_missing (hpasses : PassesChecks net call address)
    (hfind : l2tpTunnelFind net address.tunnelId = none) :
    FailsClean hash net call ↔
      (address.Manages ∧ CreatesTunnel net call.tunnelSocket → call.alloc = true) := by
  have hreaches : ∀ address' t tunnel, ¬ ReachesTunnel net call address' t tunnel := by
    intro address' t tunnel hreaches
    have hfound := hreaches.found
    rw [hpasses.unique hreaches.checks, hfind] at hfound
    cases hfound
  constructor
  · rintro hclean ⟨hmanages, hcreates⟩
    exact hclean.created address hpasses hfind hmanages hcreates
  · refine fun halloc ↦ ⟨fun address' hpasses' _ hmanages hcreates ↦ ?_,
      fun address' t tunnel hreached ↦ absurd hreached (hreaches address' t tunnel),
      fun address' t tunnel hreached ↦ absurd hreached (hreaches address' t tunnel)⟩
    rw [hpasses.unique hpasses'] at hmanages
    exact halloc ⟨hmanages, hcreates⟩

theorem failsClean_iff_of_found (hpasses : PassesChecks net call address)
    (hfind : l2tpTunnelFind net address.tunnelId = some t)
    (htunnel : net.tunnels[t]? = some tunnel) :
    FailsClean hash net call ↔
      (address.Manages ∨ tunnel.sock.isSome = true →
        (RefusesSession hash net t tunnel address call.alloc → Prepared address tunnel) ∧
          (¬ RefusesSession hash net t tunnel address call.alloc →
            ManagementSession hash net t address ∨ call.registerChannel = none)) := by
  have hunique : ∀ address' t' tunnel', ReachesTunnel net call address' t' tunnel' →
      address' = address ∧ t' = t ∧ tunnel' = tunnel := by
    intro address' t' tunnel' hreaches
    obtain rfl := hpasses.unique hreaches.checks
    obtain rfl := Option.some.inj (hreaches.found.symm.trans hfind)
    exact ⟨rfl, rfl, Option.some.inj (hreaches.present.symm.trans htunnel)⟩
  constructor
  · intro hclean hprepped
    exact ⟨hclean.refused address t tunnel ⟨hpasses, hfind, htunnel, hprepped⟩,
      hclean.channel address t tunnel ⟨hpasses, hfind, htunnel, hprepped⟩⟩
  · refine fun hclean ↦ ⟨fun address' hpasses' hmissing ↦ ?_,
      fun address' t' tunnel' hreaches ↦ ?_, fun address' t' tunnel' hreaches ↦ ?_⟩
    · rw [hpasses.unique hpasses', hfind] at hmissing
      cases hmissing
    · obtain ⟨rfl, rfl, rfl⟩ := hunique address' t' tunnel' hreaches
      exact (hclean hreaches.prepped).1
    · obtain ⟨rfl, rfl, rfl⟩ := hunique address' t' tunnel' hreaches
      exact (hclean hreaches.prepped).2

end Parts

/-- A call of connect that fails leaves the tunnel list, the tables and the bindings of tunnels and
sessions as they were exactly if it has nothing to take back: it does not create a tunnel for a
session that there is no memory for, is not refused a session by a tunnel it has just prepared, and
is not refused the channel of a session it has just attached to its socket. -/
theorem failed_connect_untouched_iff (hash : SessionHash) (net : L2tpNet n) (call : ConnectCall) :
    ((pppol2tpConnect hash net call).2.isSome = true →
        Untouched net (pppol2tpConnect hash net call).1) ↔
      FailsClean hash net call := by
  by_cases hpasses : ∃ address, PassesChecks net call address
  · obtain ⟨address, hpasses⟩ := hpasses
    rw [pppol2tpConnect_of_passes hpasses]
    cases hfind : l2tpTunnelFind net address.tunnelId with
    | none =>
      rw [failsClean_iff_of_missing hpasses hfind]
      rcases connectTunnel_of_missing hfind with ⟨hnot, errno, heq⟩ | ⟨hcreates, sk, heq⟩
      · rw [heq]
        exact iff_of_true (fun _ ↦ Untouched.refl net) fun hcreates ↦ absurd hcreates hnot
      · rw [heq]
        have hnew := List.getElem?_concat_length (l := net.tunnels)
          (a := newTunnel n address.ver address.tunnelId address.peerTunnelId .udp sk)
        dsimp only
        rw [isSome_connectOn_new hcreates.1 hnew rfl]
        refine ⟨fun hclean _ ↦ ?_, fun halloc hnone ↦ ?_⟩
        · by_contra hnone
          have hlist := (hclean (Bool.eq_false_of_not_eq_true hnone)).tunnelList
          rw [tunnelList_connectOn hnew] at hlist
          exact List.cons_ne_self _ _ hlist
        · rw [halloc hcreates] at hnone
          cases hnone
    | some t =>
      obtain ⟨tunnel, htunnel⟩ := l2tpTunnelFind_eq_some hfind
      rw [failsClean_iff_of_found hpasses hfind htunnel, connectTunnel_of_found hfind htunnel]
      by_cases hprepped : address.Manages ∨ tunnel.sock.isSome = true
      · rw [if_pos hprepped, imp_iff_right hprepped]
        exact connectOn_untouched_iff htunnel
      · rw [if_neg hprepped]
        exact iff_of_true (fun _ ↦ Untouched.refl net) fun hwrong ↦ absurd hwrong hprepped
  · rw [pppol2tpConnect_of_not_passes (not_exists.mp hpasses)]
    exact iff_of_true (fun _ ↦ Untouched.refl net)
      (failsClean_of_not_passes (not_exists.mp hpasses))

/-- A namespace with a new tunnel and a new socket. -/
def newTunnelNet : L2tpNet 1 :=
  { emptyNet 1 with
    tunnels := [newTunnel 1 hdrVer2 1 2 .udp 0]
    tunnelList := [0]
    socks := [{}] }

/-- The socket asks for a session and gets no channel. -/
def unregisteredCall : ConnectCall where
  sock := 0
  address := some (.v2 1 2 7 7)
  tunnelSocket := { sk := .ok 0 }
  registerChannel := some .enomem

/-- The socket stays unconnected, and the tunnel has a session that points to it. -/
theorem failed_connect_touches :
    (pppol2tpConnect lowBits newTunnelNet unregisteredCall).2 = some .enomem ∧
      (pppol2tpConnect lowBits newTunnelNet unregisteredCall).1.chain 0 (lowBits.hashBits 7) = [0] ∧
      (pppol2tpConnect lowBits newTunnelNet unregisteredCall).1.sessions.map (·.ps.sock) =
        [some 0] ∧
      ¬ Untouched newTunnelNet (pppol2tpConnect lowBits newTunnelNet unregisteredCall).1 := by
  refine ⟨rfl, rfl, rfl, fun huntouched ↦ ?_⟩
  have hbinding := Option.some.inj (huntouched.tunnels 0 _ rfl)
  have hhook : some PayloadHook.pppol2tpRecvPayloadHook = none :=
    congrArg TunnelBinding.recvPayloadHook hbinding
  cases hhook

end KernelModules.L2tp
