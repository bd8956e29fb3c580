import KernelModules.L2tp.Transmit

/-!
# Statistics in cells, and shared counters: the data path

Every statistic is kept in one cell for each processor, and a call changes the cells of the
processor it runs on. On a machine with one processor there is one cell for each counter, which all
calls share. So the specification of the per-processor statistics is the same driver on one
processor: `Flow.oneCpu` adds all cells of a session and its tunnel up, and `Env.oneCpu` makes a
call run on the only processor there is.

Whatever the driver does to a cell is an increment, and nothing it decides depends on a cell. So
every function of the receive path and of the transmit path commutes with adding up the cells.
-/

set_option autoImplicit false
set_option relaxedAutoImplicit false

namespace KernelModules.L2tp

open Foundations

variable {n : ℕ}

/-! ### Adding statistics -/

/-- Statistics are added field by field. -/
def L2tpStats.add (s d : L2tpStats) : L2tpStats where
  txPackets := s.txPackets + d.txPackets
  txBytes := s.txBytes + d.txBytes
  txErrors := s.txErrors + d.txErrors
  rxPackets := s.rxPackets + d.rxPackets
  rxBytes := s.rxBytes + d.rxBytes
  rxSeqDiscards := s.rxSeqDiscards + d.rxSeqDiscards
  rxOosPackets := s.rxOosPackets + d.rxOosPackets
  rxErrors := s.rxErrors + d.rxErrors
  rxCookieDiscards := s.rxCookieDiscards + d.rxCookieDiscards

instance addL2tpStats : Add L2tpStats where
  add := L2tpStats.add

instance zeroL2tpStats : Zero L2tpStats where
  zero := {}

instance addCommMonoidL2tpStats : AddCommMonoid L2tpStats where
  add_assoc s d e := by ext1 <;> exact add_assoc _ _ _
  zero_add s := by ext1 <;> exact zero_add _
  add_zero s := by ext1 <;> exact add_zero _
  add_comm s d := by ext1 <;> exact add_comm _ _
  nsmul := nsmulRec

/-- The counters of a device are added field by field. -/
def L2tpPcpuStats.add (s d : L2tpPcpuStats) : L2tpPcpuStats where
  txPackets := s.txPackets + d.txPackets
  txBytes := s.txBytes + d.txBytes
  rxPackets := s.rxPackets + d.rxPackets
  rxBytes := s.rxBytes + d.rxBytes
  txDropped := s.txDropped + d.txDropped
  rxErrors := s.rxErrors + d.rxErrors

instance addL2tpPcpuStats : Add L2tpPcpuStats where
  add := L2tpPcpuStats.add

instance zeroL2tpPcpuStats : Zero L2tpPcpuStats where
  zero := {}

instance addCommMonoidL2tpPcpuStats : AddCommMonoid L2tpPcpuStats where
  add_assoc s d e := by ext1 <;> exact add_assoc _ _ _
  zero_add s := by ext1 <;> exact zero_add _
  add_zero s := by ext1 <;> exact add_zero _
  add_comm s d := by ext1 <;> exact add_comm _ _
  nsmul := nsmulRec

/-! ### One processor -/

/-- A session whose cells have been added up. -/
@[simps toSessionParams toSessionHooks hdrLen nr ns reorderQ nrOos nrOosCount ifname recvSeq sendSeq
  lnsMode reorderTimeout reorderSkip mtu mru]
def L2tpSession.oneCpu (session : L2tpSession n) : L2tpSession 1 :=
  { session with
    stats := Foundations.oneCpu session.stats
    dstats := Foundations.oneCpu session.dstats }

/-- A tunnel whose cells have been added up. -/
@[simps sessionHlist tunnelId peerTunnelId version encap recvPayloadHook sock]
def L2tpTunnel.oneCpu (tunnel : L2tpTunnel n) : L2tpTunnel 1 :=
  { tunnel with stats := Foundations.oneCpu tunnel.stats }

/-- A session and its tunnel, whose cells have been added up. -/
@[simps]
def Flow.oneCpu (flow : Flow n) : Flow 1 where
  tunnel := flow.tunnel.oneCpu
  session := flow.session.oneCpu
  log := flow.log

/-- A call that runs on the only processor. -/
@[simps]
def Env.oneCpu (env : Env n) : Env 1 := { env with cpu := cpu0 }

/-- A transmission that runs on the only processor. -/
@[simps]
def XmitEnv.oneCpu (env : XmitEnv n) : XmitEnv 1 := { env with cpu := cpu0 }

/-- A call of `l2tp_recv_common` that runs on the only processor. -/
@[simps]
def RecvCall.oneCpu (call : RecvCall n) : RecvCall 1 := { call with env := call.env.oneCpu }

/-! ### The receive path -/

namespace Flow

variable (flow : Flow n) (cpu : Fin n)

theorem oneCpu_emit (effect : Effect) : (flow.emit effect).oneCpu = flow.oneCpu.emit effect := rfl

/-- A change of a cell of the session that adds an amount to it is the same change of the shared
counter. -/
theorem oneCpu_sessionStats {change : L2tpStats → L2tpStats} (amount : L2tpStats)
    (hchange : ∀ s, change s = s.add amount) :
    (flow.sessionStats cpu change).oneCpu = flow.oneCpu.sessionStats cpu0 change := by
  simp only [sessionStats, onSession, Flow.oneCpu, L2tpSession.oneCpu,
    oneCpu_onCpu flow.session.stats cpu ⟨amount, hchange⟩]

/-- The same for a cell of the tunnel. -/
theorem oneCpu_tunnelStats {change : L2tpStats → L2tpStats} (amount : L2tpStats)
    (hchange : ∀ s, change s = s.add amount) :
    (flow.tunnelStats cpu change).oneCpu = flow.oneCpu.tunnelStats cpu0 change := by
  simp only [tunnelStats, Flow.oneCpu, L2tpTunnel.oneCpu,
    oneCpu_onCpu flow.tunnel.stats cpu ⟨amount, hchange⟩]

/-- The same for a cell of the device. -/
theorem oneCpu_deviceStats {change : L2tpPcpuStats → L2tpPcpuStats} (amount : L2tpPcpuStats)
    (hchange : ∀ s, change s = s.add amount) :
    (flow.deviceStats cpu change).oneCpu = flow.oneCpu.deviceStats cpu0 change := by
  simp only [deviceStats, onSession, Flow.oneCpu, L2tpSession.oneCpu,
    oneCpu_onCpu flow.session.dstats cpu ⟨amount, hchange⟩]

theorem oneCpu_ref : flow.ref.oneCpu = flow.oneCpu.ref := by
  simp [ref_eq, Flow.oneCpu]

theorem oneCpu_deref : flow.deref.oneCpu = flow.oneCpu.deref := by
  simp [deref_eq, Flow.oneCpu]

end Flow

section Receive

variable (env : Env n) (flow : Flow n) (skb : SkBuff)

/-- The Ethernet device counts the frame or the error. -/
theorem oneCpu_l2tpEthDevRecv (dataLen : UInt16) :
    (l2tpEthDevRecv env flow skb dataLen).oneCpu =
      l2tpEthDevRecv env.oneCpu flow.oneCpu skb dataLen := by
  unfold l2tpEthDevRecv
  rw [apply_ite Flow.oneCpu,
    Flow.oneCpu_deviceStats flow env.cpu { rxBytes := dataLen.toUInt64, rxPackets := 1 }
      (by simp [L2tpPcpuStats.add]),
    Flow.oneCpu_deviceStats flow env.cpu { rxErrors := 1 } (by simp [L2tpPcpuStats.add])]
  rfl

/-- A frame that is discarded for its number is counted. -/
theorem oneCpu_countSeqDiscard :
    (flow.sessionStats env.cpu fun s ↦ { s with rxSeqDiscards := s.rxSeqDiscards + 1 }).oneCpu =
      flow.oneCpu.sessionStats cpu0 fun s ↦ { s with rxSeqDiscards := s.rxSeqDiscards + 1 } :=
  Flow.oneCpu_sessionStats flow env.cpu { rxSeqDiscards := 1 } (by simp [L2tpStats.add])

/-- An error is counted. -/
theorem oneCpu_countError :
    (flow.sessionStats env.cpu fun s ↦ { s with rxErrors := s.rxErrors + 1 }).oneCpu =
      flow.oneCpu.sessionStats cpu0 fun s ↦ { s with rxErrors := s.rxErrors + 1 } :=
  Flow.oneCpu_sessionStats flow env.cpu { rxErrors := 1 } (by simp [L2tpStats.add])

/-- An error is counted if the PPP socket is not bound and its queue refuses the frame. -/
theorem oneCpu_pppol2tpRecv :
    (pppol2tpRecv env flow skb).oneCpu = pppol2tpRecv env.oneCpu flow.oneCpu skb := by
  unfold pppol2tpRecv
  simp only [Flow.oneCpu_session, L2tpSession.oneCpu_toSessionHooks]
  cases flow.session.ps.sock with
  | none => rfl
  | some sock =>
    dsimp only
    rw [apply_ite Flow.oneCpu, oneCpu_countError]
    rfl

/-- Whatever handler the session has, it sees the same frame. -/
theorem oneCpu_callRecvHandler (handler : RecvHandler) :
    (callRecvHandler handler env flow skb).oneCpu =
      callRecvHandler handler env.oneCpu flow.oneCpu skb := by
  cases handler with
  | l2tpEthDevRecv => exact oneCpu_l2tpEthDevRecv env flow skb _
  | pppol2tpRecv => exact oneCpu_pppol2tpRecv env flow skb

/-- A frame that is put before another one is counted as out of sequence. -/
theorem oneCpu_l2tpRecvQueueSkb :
    (l2tpRecvQueueSkb env flow skb).oneCpu = l2tpRecvQueueSkb env.oneCpu flow.oneCpu skb := by
  unfold l2tpRecvQueueSkb
  simp only [Flow.oneCpu_session, L2tpSession.oneCpu_reorderQ]
  rw [apply_ite Flow.oneCpu,
    Flow.oneCpu_sessionStats _ env.cpu { rxOosPackets := 1 } (by simp [L2tpStats.add])]
  rfl

/-- The bytes of a received frame are counted for the session and for the tunnel. -/
theorem oneCpu_countReceived :
    (countReceived env flow skb).oneCpu = countReceived env.oneCpu flow.oneCpu skb := by
  unfold countReceived
  dsimp only
  rw [Flow.oneCpu_sessionStats _ env.cpu { rxBytes := skb.cb.length.toUInt64, rxPackets := 1 }
      (by simp [L2tpStats.add]),
    Flow.oneCpu_tunnelStats _ env.cpu { rxBytes := skb.cb.length.toUInt64, rxPackets := 1 }
      (by simp [L2tpStats.add])]
  rfl

theorem oneCpu_bumpNr : (bumpNr flow skb).oneCpu = bumpNr flow.oneCpu skb :=
  apply_ite Flow.oneCpu _ _ _

/-- The frame is handed over to the same handler, if there is one. -/
theorem oneCpu_handOver : (handOver env flow skb).oneCpu = handOver env.oneCpu flow.oneCpu skb := by
  unfold handOver
  simp only [Flow.oneCpu_session, L2tpSession.oneCpu_toSessionHooks]
  cases flow.session.recvSkb with
  | none => rfl
  | some handler => exact oneCpu_callRecvHandler env _ skb handler

theorem oneCpu_l2tpRecvDequeueSkb :
    (l2tpRecvDequeueSkb env flow skb).oneCpu = l2tpRecvDequeueSkb env.oneCpu flow.oneCpu skb := by
  unfold l2tpRecvDequeueSkb
  rw [Flow.oneCpu_deref, oneCpu_handOver, oneCpu_bumpNr, oneCpu_countReceived]

/-- An expired frame is counted twice, as a discard and as an error. -/
theorem oneCpu_discardExpired (rest : List SkBuff) :
    (discardExpired env flow skb rest).oneCpu =
      discardExpired env.oneCpu flow.oneCpu skb rest := by
  unfold discardExpired
  dsimp only
  rw [Flow.oneCpu_deref, Flow.oneCpu_emit]
  exact congrArg (fun first : Flow 1 ↦ ((first.onSession fun session ↦
      { session with reorderSkip := true, reorderQ := rest }).emit (.kfreeSkb skb)).deref)
    (Flow.oneCpu_sessionStats flow env.cpu { rxSeqDiscards := 1, rxErrors := 1 }
      (by simp [L2tpStats.add]))

theorem oneCpu_skipToHead : (skipToHead flow skb).oneCpu = skipToHead flow.oneCpu skb :=
  apply_ite Flow.oneCpu _ _ _

/-- A turn of the dequeue loop. -/
theorem dequeueStep_oneCpu :
    dequeueStep env.oneCpu flow.oneCpu = (dequeueStep env flow).map Flow.oneCpu := by
  unfold dequeueStep
  simp only [Flow.oneCpu_session, L2tpSession.oneCpu_reorderQ]
  cases flow.session.reorderQ with
  | nil => rfl
  | cons skb rest =>
    simp only [apply_ite (Option.map Flow.oneCpu), Option.map_some, Option.map_none,
      oneCpu_discardExpired, oneCpu_l2tpRecvDequeueSkb, ← oneCpu_skipToHead]
    rfl

/-- The dequeue loop makes the same turns. -/
theorem oneCpu_l2tpRecvDequeue :
    (l2tpRecvDequeue env flow).oneCpu = l2tpRecvDequeue env.oneCpu flow.oneCpu :=
  (drain_map Flow.oneCpu (dequeueStep_oneCpu env) _ flow).symm

/-- The answer of the sequence check does not depend on the cells. -/
theorem l2tpRecvDataSeq_oneCpu : l2tpRecvDataSeq env.oneCpu flow.oneCpu skb =
    Prod.map Flow.oneCpu id (l2tpRecvDataSeq env flow skb) := by
  unfold l2tpRecvDataSeq
  simp only [apply_ite (Prod.map Flow.oneCpu id), Prod.map_apply, id_eq, oneCpu_l2tpRecvQueueSkb,
    oneCpu_countSeqDiscard]
  rfl

theorem oneCpu_l2tpSessionSetHeaderLen (tunnel : L2tpTunnel n) (session : L2tpSession n)
    (version : ℕ) : (l2tpSessionSetHeaderLen tunnel session version).oneCpu =
      l2tpSessionSetHeaderLen tunnel.oneCpu session.oneCpu version :=
  apply_ite L2tpSession.oneCpu _ _ _

/-- What a missing or a given sequence number does to a session does not depend on the cells. -/
theorem recvSeqPolicy_oneCpu (tunnel : L2tpTunnel n) (session : L2tpSession n) (hasSeq : Bool) :
    recvSeqPolicy tunnel.oneCpu session.oneCpu hasSeq =
      (recvSeqPolicy tunnel session hasSeq).map L2tpSession.oneCpu := by
  unfold recvSeqPolicy
  simp only [apply_ite (Option.map L2tpSession.oneCpu), Option.map_some, Option.map_none,
    oneCpu_l2tpSessionSetHeaderLen]
  rfl

/-- A frame is admitted or refused as on shared counters. The cookie and the payload are checked on
the frame and the parameters, which have no cells. -/
theorem recvAdmit_oneCpu (call : RecvCall n) :
    recvAdmit flow.oneCpu call.oneCpu = Prod.map Flow.oneCpu id (recvAdmit flow call) := by
  unfold recvAdmit
  simp only [Flow.oneCpu_tunnel, Flow.oneCpu_session, L2tpTunnel.oneCpu_version,
    L2tpSession.oneCpu_toSessionParams, RecvCall.oneCpu_skb, RecvCall.oneCpu_ptr]
  cases recvCookie flow.session.toSessionParams call.skb call.ptr with
  | none =>
    exact congrArg (·, Except.error call.skb) (Flow.oneCpu_sessionStats flow call.env.cpu
      { rxCookieDiscards := 1 } (by simp [L2tpStats.add])).symm
  | some ptr =>
    dsimp only
    -- neither the frame nor the offset of its payload looks at the processor of the call
    have hframe : sequencedFrame flow.tunnel.version flow.session.toSessionParams call.oneCpu ptr =
        sequencedFrame flow.tunnel.version flow.session.toSessionParams call ptr := rfl
    have hoffset : payloadOffset flow.tunnel.version flow.session.toSessionParams call.oneCpu ptr =
        payloadOffset flow.tunnel.version flow.session.toSessionParams call ptr := rfl
    rw [hframe, hoffset, recvSeqPolicy_oneCpu, RecvCall.oneCpu_hook]
    generalize sequencedFrame flow.tunnel.version flow.session.toSessionParams call ptr = skb
    cases recvSeqPolicy flow.tunnel flow.session skb.cb.hasSeq with
    | none => exact congrArg (·, Except.error skb) (oneCpu_countSeqDiscard call.env flow).symm
    | some session =>
      dsimp only [Option.map_some]
      cases recvPayload skb (payloadOffset flow.tunnel.version
        flow.session.toSessionParams call ptr)
        call.hook <;> rfl

theorem oneCpu_recvDiscard :
    (recvDiscard env flow skb).oneCpu = recvDiscard env.oneCpu flow.oneCpu skb := by
  unfold recvDiscard
  dsimp only
  rw [Flow.oneCpu_deref, Flow.oneCpu_emit, oneCpu_countError]
  rfl

/-- A frame is queued or not as on shared counters. -/
theorem recvEnqueue_oneCpu (call : RecvCall n) :
    recvEnqueue flow.oneCpu call.oneCpu = Prod.map Flow.oneCpu id (recvEnqueue flow call) := by
  unfold recvEnqueue
  rw [← Flow.oneCpu_ref, recvAdmit_oneCpu]
  obtain ⟨flow', skb | skb⟩ := recvAdmit flow.ref call
  · exact congrArg (·, false) (oneCpu_recvDiscard call.env flow' skb).symm
  · dsimp only [Prod.map_apply, id_eq]
    cases skb.cb.hasSeq with
    | false => rfl
    | true =>
      simp only [if_true, RecvCall.oneCpu_env, l2tpRecvDataSeq_oneCpu]
      obtain ⟨flow'', discard | discard⟩ := l2tpRecvDataSeq call.env flow' skb
      · rfl
      · exact congrArg (·, false) (oneCpu_recvDiscard call.env flow'' skb).symm

/-- Receiving a frame on cells is receiving it on shared counters. -/
theorem oneCpu_l2tpRecvCommon (call : RecvCall n) :
    (l2tpRecvCommon flow call).oneCpu = l2tpRecvCommon flow.oneCpu call.oneCpu := by
  unfold l2tpRecvCommon
  rw [recvEnqueue_oneCpu]
  obtain ⟨flow', queued | queued⟩ := recvEnqueue flow call
  · rfl
  · exact oneCpu_l2tpRecvDequeue call.env flow'

theorem purgeStep_oneCpu :
    purgeStep env.oneCpu flow.oneCpu = (purgeStep env flow).map Flow.oneCpu := by
  unfold purgeStep
  simp only [Flow.oneCpu_session, L2tpSession.oneCpu_reorderQ]
  cases flow.session.reorderQ with
  | nil => rfl
  | cons skb rest =>
    exact congrArg some (oneCpu_recvDiscard env
      (flow.onSession fun session ↦ { session with reorderQ := rest }) skb).symm

/-- The purge loop makes the same turns. -/
theorem oneCpu_l2tpSessionQueuePurge :
    (l2tpSessionQueuePurge env flow).oneCpu = l2tpSessionQueuePurge env.oneCpu flow.oneCpu :=
  (drain_map Flow.oneCpu (purgeStep_oneCpu env) _ flow).symm

end Receive

/-! ### The transmit path -/

section Transmit

variable (env : XmitEnv n) (flow : Flow n) (skb : SkBuff)

/-- The bytes of a header do not depend on the cells, and neither does the number that the session
puts into the next one. -/
theorem buildHeader_oneCpu (tunnel : L2tpTunnel n) (session : L2tpSession n) (buf : List UInt8) :
    buildHeader tunnel.oneCpu session.oneCpu buf =
      Prod.map L2tpSession.oneCpu id (buildHeader tunnel session buf) := by
  unfold buildHeader
  simp only [L2tpSession.oneCpu_toSessionParams]
  cases session.buildHeader with
  | l2tpBuildL2tpv2Header =>
    unfold l2tpBuildL2tpv2Header
    simp only [apply_ite (Prod.map L2tpSession.oneCpu id), Prod.map_apply, id_eq]
    rfl
  | l2tpBuildL2tpv3Header =>
    unfold l2tpBuildL2tpv3Header buildL2specific
    dsimp only
    simp only [apply_ite (Prod.map L2tpSession.oneCpu id), Prod.map_apply, id_eq,
      apply_ite L2tpSession.oneCpu]
    rfl

theorem pushHeader_oneCpu (hdrLen : ℕ) :
    pushHeader flow.oneCpu skb hdrLen = Prod.map Flow.oneCpu id (pushHeader flow skb hdrLen) := by
  unfold pushHeader
  simp only [Flow.oneCpu_tunnel, Flow.oneCpu_session, buildHeader_oneCpu]
  rfl

/-- A packet is counted as sent or as an error, for the session and for the tunnel. -/
theorem oneCpu_l2tpXmitCore :
    (l2tpXmitCore env flow skb).oneCpu = l2tpXmitCore env.oneCpu flow.oneCpu skb := by
  -- both outcomes are amounts that are added, so one lemma serves for either
  have hcount : ∀ s : L2tpStats, (if env.ipQueueXmit then
      { s with
        txPackets := s.txPackets + 1
        txBytes := s.txBytes + (UInt32.ofNat skb.len).toUInt64 }
      else { s with txErrors := s.txErrors + 1 }) = s.add (if env.ipQueueXmit then
        { txPackets := 1, txBytes := (UInt32.ofNat skb.len).toUInt64 } else { txErrors := 1 }) := by
    intro s
    split_ifs <;> simp [L2tpStats.add]
  unfold l2tpXmitCore
  dsimp only
  rw [Flow.oneCpu_tunnelStats _ env.cpu _ hcount, Flow.oneCpu_sessionStats _ env.cpu _ hcount]
  rfl

/-- Sending a frame on cells is sending it on shared counters, with the same return value. -/
theorem l2tpXmitSkb_oneCpu (hdrLen : ℕ) : l2tpXmitSkb env.oneCpu flow.oneCpu skb hdrLen =
    Prod.map Flow.oneCpu id (l2tpXmitSkb env flow skb hdrLen) := by
  unfold l2tpXmitSkb
  simp only [Flow.oneCpu_tunnel, L2tpTunnel.oneCpu_encap, XmitEnv.oneCpu_cowHead,
    XmitEnv.oneCpu_netSkbPad]
  cases skbCowHead env.cowHead skb _ with
  | none => rfl
  | some skb =>
    simp only [pushHeader_oneCpu, apply_ite (Prod.map Flow.oneCpu id), Prod.map_apply, id_eq,
      oneCpu_l2tpXmitCore]
    rfl

/-- The Ethernet device counts what it has sent or dropped. -/
theorem oneCpu_l2tpEthDevXmit :
    (l2tpEthDevXmit env flow skb).oneCpu = l2tpEthDevXmit env.oneCpu flow.oneCpu skb := by
  unfold l2tpEthDevXmit
  simp only [Flow.oneCpu_session, L2tpSession.oneCpu_hdrLen, l2tpXmitSkb_oneCpu]
  obtain ⟨flow', sent | sent⟩ := l2tpXmitSkb env flow skb flow.session.hdrLen.toNat
  · exact Flow.oneCpu_deviceStats flow' env.cpu { txDropped := 1 } (by simp [L2tpPcpuStats.add])
  · exact Flow.oneCpu_deviceStats flow' env.cpu
      { txBytes := (UInt32.ofNat skb.len).toUInt64, txPackets := 1 } (by simp [L2tpPcpuStats.add])

theorem oneCpu_pppol2tpXmitFlow :
    (pppol2tpXmitFlow env flow skb).oneCpu = pppol2tpXmitFlow env.oneCpu flow.oneCpu skb := by
  unfold pppol2tpXmitFlow
  simp only [Flow.oneCpu_tunnel, L2tpTunnel.oneCpu_encap, XmitEnv.oneCpu_cowHead,
    XmitEnv.oneCpu_netSkbPad, Flow.oneCpu_session, L2tpSession.oneCpu_hdrLen]
  cases skbCowHead env.cowHead skb _ with
  | none => rfl
  | some skb =>
    simp only [l2tpXmitSkb_oneCpu]
    rfl

theorem oneCpu_pppol2tpSendmsgFlow (call : SendmsgCall) :
    (pppol2tpSendmsgFlow env call flow).oneCpu =
      pppol2tpSendmsgFlow env.oneCpu call flow.oneCpu := by
  unfold pppol2tpSendmsgFlow
  cases call.wmalloc with
  | none => rfl
  | some fresh =>
    cases call.payload with
    | none => rfl
    | some payload =>
      simp only [l2tpXmitSkb_oneCpu, Flow.oneCpu_session, L2tpSession.oneCpu_hdrLen]
      rfl

end Transmit

end KernelModules.L2tp
