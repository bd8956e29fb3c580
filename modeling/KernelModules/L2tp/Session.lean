import KernelModules.L2tp.Header

/-!
# New sessions

The record `l2tp_session_create` fills in. The sequence space has sixteen bits in L2TPv2 and
twenty-four in L2TPv3, the window is half of it, and `reorder_skip` is set so that the first
sequenced frame decides where counting starts. Everything else is zero, the statistics among it.
-/

set_option autoImplicit false
set_option relaxedAutoImplicit false

namespace KernelModules.L2tp

variable {n : ℕ}

/-- `struct l2tp_session_cfg`. -/
structure L2tpSessionCfg where
  pwType : L2tpPwtype := .none
  recvSeq : Bool := false
  sendSeq : Bool := false
  lnsMode : Bool := false
  offset : UInt16 := 0
  l2specificLen : UInt16 := 0
  l2specificType : UInt16 := 0
  cookie : Cookie := .empty
  peerCookie : Cookie := .empty
  reorderTimeout : Int32 := 0
  mtu : Int32 := 0
  mru : Int32 := 0
  ifname : Option String := none

/-- The largest sequence number. -/
def nrMaxOf (version : ℕ) : UInt32 := if version = hdrVer2 then 0xffff else 0xffffff

/-- The fields of a new session that stay as they are. -/
def newSessionParams (tunnel : L2tpTunnel n) (tunnelIndex : ℕ) (sessionId peerSessionId : UInt32)
    (cfg : L2tpSessionCfg) : SessionParams where
  tunnel := tunnelIndex
  sessionId
  peerSessionId
  cookie := cfg.cookie
  peerCookie := cfg.peerCookie
  offset := cfg.offset
  l2specificLen := cfg.l2specificLen
  l2specificType := cfg.l2specificType
  nrMax := nrMaxOf tunnel.version
  nrWindowSize := nrMaxOf tunnel.version / 2
  nrOosCountMax := 4
  pwtype := cfg.pwType
  buildHeader :=
    if tunnel.version = hdrVer2 then .l2tpBuildL2tpv2Header else .l2tpBuildL2tpv3Header

/-- The session `l2tp_session_create` fills in for the tunnel with number `tunnelIndex`. -/
def newSession (tunnel : L2tpTunnel n) (tunnelIndex : ℕ) (sessionId peerSessionId : UInt32)
    (cfg : L2tpSessionCfg) : L2tpSession n :=
  l2tpSessionSetHeaderLen tunnel
    { newSessionParams tunnel tunnelIndex sessionId peerSessionId cfg with
      stats := fun _ ↦ {}
      dstats := fun _ ↦ {}
      hdrLen := 0
      nr := 0
      ns := 0
      reorderQ := []
      nrOos := 0
      nrOosCount := 0
      ifname := ""
      recvSeq := cfg.recvSeq
      sendSeq := cfg.sendSeq
      lnsMode := cfg.lnsMode
      reorderTimeout := cfg.reorderTimeout
      reorderSkip := true
      mtu := cfg.mtu
      mru := cfg.mru } tunnel.version

/-- The header length is the only field that depends on what has been filled in before. -/
theorem newSession_eq (tunnel : L2tpTunnel n) (tunnelIndex : ℕ) (sessionId peerSessionId : UInt32)
    (cfg : L2tpSessionCfg) :
    ∃ hdrLen, newSession tunnel tunnelIndex sessionId peerSessionId cfg =
      { newSessionParams tunnel tunnelIndex sessionId peerSessionId cfg with
        stats := fun _ ↦ {}
        dstats := fun _ ↦ {}
        hdrLen
        nr := 0
        ns := 0
        reorderQ := []
        nrOos := 0
        nrOosCount := 0
        ifname := ""
        recvSeq := cfg.recvSeq
        sendSeq := cfg.sendSeq
        lnsMode := cfg.lnsMode
        reorderTimeout := cfg.reorderTimeout
        reorderSkip := true
        mtu := cfg.mtu
        mru := cfg.mru } := by
  unfold newSession l2tpSessionSetHeaderLen
  split_ifs <;> exact ⟨_, rfl⟩

/-- `struct l2tp_tunnel` as `l2tp_tunnel_create` fills it in. -/
def newTunnel (n : ℕ) (version : ℕ) (tunnelId peerTunnelId : UInt32) (encap : L2tpEncap) (sk : ℕ) :
    L2tpTunnel n where
  sessionHlist := fun _ ↦ []
  tunnelId
  peerTunnelId
  version
  encap
  stats := fun _ ↦ {}
  recvPayloadHook := none
  sock := some sk

/-- A new L2TPv3 session over IP with the default sublayer, a reorder timeout, and an Ethernet
device. -/
def reorderingFlow (n : ℕ) (timeout : Int32) : Flow n where
  tunnel := newTunnel n hdrVer3 1 2 .ip 0
  session :=
    { newSession (newTunnel n hdrVer3 1 2 .ip 0) 0 1 2
        { pwType := .eth, lnsMode := true, l2specificLen := 4, l2specificType := l2spectypeDefault,
          reorderTimeout := timeout } with
      recvSkb := some .l2tpEthDevRecv }
  log := []

end KernelModules.L2tp
