import KernelModules.L2tp.Net

/-!
# The transmit path

`l2tp_xmit_skb` puts the L2TP header and, over UDP, the UDP header in front of a frame and gives it
to the network; the pseudowires call it, PPP after putting its own two bytes there. Headroom that a
frame lacks is allocated, and holds whatever it held: the builder of an L2TPv3 header leaves part of
it as it is.
-/

set_option autoImplicit false
set_option relaxedAutoImplicit false

namespace KernelModules.L2tp

open Foundations

variable {n : ℕ}

/-- What a transmission finds around it: the processor it runs on, the answer of `skb_cow_head` and
what new headroom holds, whether the tunnel socket is in use by its owner, the ports and the
checksum of the UDP header, and whether the network takes the packet. -/
structure XmitEnv (n : ℕ) where
  cpu : Fin n
  netSkbPad : ℕ
  cowHead : Option (ℕ → UInt8)
  ownedByUser : Bool
  sport : UInt16
  dport : UInt16
  check : UInt16
  ipQueueXmit : Bool

/-- What a transmission finds when nothing is in its way. -/
def idleXmitEnv (cpu : Fin n) : XmitEnv n where
  cpu
  netSkbPad := 64
  cowHead := some fun _ ↦ 0
  ownedByUser := false
  sport := 1701
  dport := 1701
  check := 0
  ipQueueXmit := true

/-- `sizeof(struct iphdr)`. -/
def iphdrSize : ℕ := 20

/-- `skb_cow_head`: make room in front of a frame. -/
def skbCowHead (cowHead : Option (ℕ → UInt8)) (skb : SkBuff) (headroom : ℕ) : Option SkBuff :=
  cowHead.map fun fresh ↦
    { skb with head := (List.range (headroom - skb.head.length)).map fresh ++ skb.head }

/-- `session->build_header(session, __skb_push(skb, hdr_len))`. -/
def pushHeader (flow : Flow n) (skb : SkBuff) (hdrLen : ℕ) : Flow n × SkBuff :=
  let skb := skb.skbPush hdrLen
  let (session, mem) := buildHeader flow.tunnel flow.session skb.mem
  ({ flow with session }, { skb with data := mem.take skb.len, tail := mem.drop skb.len })

/-- The UDP header of `l2tp_xmit_skb`. -/
def pushUdpHeader (env : XmitEnv n) (skb : SkBuff) : SkBuff :=
  let skb := skb.skbPush udphdrSize
  { skb with
    data := writeAt skb.data 0
      (be16 env.sport ++ be16 env.dport ++ be16 (UInt16.ofNat skb.len) ++ be16 env.check) }

/-- `l2tp_xmit_core`. -/
def l2tpXmitCore (env : XmitEnv n) (flow : Flow n) (skb : SkBuff) : Flow n :=
  let count (s : L2tpStats) : L2tpStats :=
    if env.ipQueueXmit then
      { s with
        txPackets := s.txPackets + 1
        txBytes := s.txBytes + (UInt32.ofNat skb.len).toUInt64 }
    else { s with txErrors := s.txErrors + 1 }
  ((flow.emit (.ipQueueXmit skb)).sessionStats env.cpu count).tunnelStats env.cpu count

/-- `l2tp_xmit_skb`. The flag is its return value: whether the frame was sent. -/
def l2tpXmitSkb (env : XmitEnv n) (flow : Flow n) (skb : SkBuff) (hdrLen : ℕ) : Flow n × Bool :=
  let uhlen := if flow.tunnel.encap = .udp then udphdrSize else 0
  match skbCowHead env.cowHead skb (env.netSkbPad + iphdrSize + uhlen + hdrLen) with
  | none => (flow.emit (.kfreeSkb skb), false)
  | some skb =>
    let (flow, skb) := pushHeader flow skb hdrLen
    if env.ownedByUser then (flow.emit (.kfreeSkb skb), false)
    else
      let skb := if flow.tunnel.encap = .udp then pushUdpHeader env skb else skb
      (l2tpXmitCore env flow skb, true)

/-- `l2tp_eth_dev_xmit`. -/
def l2tpEthDevXmit (env : XmitEnv n) (flow : Flow n) (skb : SkBuff) : Flow n :=
  match l2tpXmitSkb env flow skb flow.session.hdrLen.toNat with
  | (flow, true) => flow.deviceStats env.cpu fun d ↦
      { d with
        txBytes := d.txBytes + (UInt32.ofNat skb.len).toUInt64
        txPackets := d.txPackets + 1 }
  | (flow, false) => flow.deviceStats env.cpu fun d ↦ { d with txDropped := d.txDropped + 1 }

/-- `ppph`, the PPP address and control bytes. -/
def ppph : List UInt8 := [0xff, 0x03]

/-- `pppol2tp_xmit` on a connected socket: the PPP header, and then `l2tp_xmit_skb`. -/
def pppol2tpXmitFlow (env : XmitEnv n) (flow : Flow n) (skb : SkBuff) : Flow n :=
  let uhlen := if flow.tunnel.encap = .udp then udphdrSize else 0
  let hdrLen := flow.session.hdrLen.toNat
  match skbCowHead env.cowHead skb (env.netSkbPad + iphdrSize + uhlen + hdrLen + ppph.length) with
  | none => flow.emit (.kfreeSkb skb)
  | some skb =>
    let skb := skb.skbPush ppph.length
    (l2tpXmitSkb env flow { skb with data := writeAt skb.data 0 ppph } hdrLen).1

/-- `pppol2tp_xmit`. A socket that is dead, not connected or has no session or tunnel frees the
frame. -/
def pppol2tpXmit (env : XmitEnv n) (net : L2tpNet n) (sk : ℕ) (skb : SkBuff) : L2tpNet n :=
  match net.socks[sk]? with
  | none => net
  | some sock =>
    if sock.dead || !sock.connected then net
    else
      match sock.userData with
      | none => net
      | some i => net.onFlow i fun flow ↦
          if flow.session.ps.tunnelSock.isSome && flow.tunnel.sock = flow.session.ps.tunnelSock then
            pppol2tpXmitFlow env flow skb
          else flow

/-- A call of `sendmsg` on a PPPoL2TP socket: the name of the new buffer, the answer of
`sock_wmalloc` and what the memory holds, and the user's data if they can be copied. -/
structure SendmsgCall where
  id : ℕ
  wmalloc : Option (ℕ → UInt8)
  payload : Option (List UInt8)

/-- The buffer that `pppol2tp_sendmsg` fills in: the room for the header of the session lies behind
the data. -/
def sendmsgSkb (env : XmitEnv n) (flow : Flow n) (id : ℕ) (fresh : ℕ → UInt8)
    (payload : List UInt8) : SkBuff :=
  let uhlen := if flow.tunnel.encap = .udp then udphdrSize else 0
  let reserved := env.netSkbPad + iphdrSize + uhlen
  { id
    head := (List.range reserved).map fresh
    data := ppph ++ payload
    tail := (List.range flow.session.hdrLen.toNat).map fun j ↦
      fresh (reserved + ppph.length + payload.length + j)
    cb := { ns := 0, hasSeq := false, length := 0, expires := 0 } }

/-- `pppol2tp_sendmsg` on a connected socket. -/
def pppol2tpSendmsgFlow (env : XmitEnv n) (call : SendmsgCall) (flow : Flow n) : Flow n :=
  match call.wmalloc with
  | none => flow
  | some fresh =>
    match call.payload with
    | none => flow.emit (.kfreeSkb (sendmsgSkb env flow call.id fresh []))
    | some payload =>
      (l2tpXmitSkb env flow (sendmsgSkb env flow call.id fresh payload)
        flow.session.hdrLen.toNat).1

/-- `pppol2tp_sendmsg`. -/
def pppol2tpSendmsg (env : XmitEnv n) (net : L2tpNet n) (sk : ℕ) (call : SendmsgCall) :
    L2tpNet n × Option Errno :=
  match net.socks[sk]? with
  | none => (net, some .enotconn)
  | some sock =>
    if sock.dead || !sock.connected then (net, some .enotconn)
    else
      match sock.userData.bind fun i ↦ (net.flow i).map (i, ·) with
      | none => (net, some .ebadf)
      | some (i, flow) =>
        if flow.session.ps.tunnelSock.isSome && flow.tunnel.sock = flow.session.ps.tunnelSock then
          (net.onFlow i (pppol2tpSendmsgFlow env call),
            if call.wmalloc.isNone then some .enomem
            else if call.payload.isNone then some .efault else none)
        else (net, some .ebadf)

/-! ### What the sender puts in front of a frame -/

/-- Pushing into the headroom uncovers what it holds. -/
theorem skbPush_eq {skb : SkBuff} {count : ℕ} (hroom : count ≤ skb.head.length) :
    ∃ front region, skb.head = front ++ region ∧ region.length = count ∧
      skb.skbPush count = { skb with head := front, data := region ++ skb.data } := by
  refine ⟨skb.head.take (skb.head.length - count), skb.head.drop (skb.head.length - count),
    (List.take_append_drop _ _).symm, ?_, rfl⟩
  rw [List.length_drop]
  omega

@[simp] theorem length_buildHeader (tunnel : L2tpTunnel n) (session : L2tpSession n)
    (buf : List UInt8) : (buildHeader tunnel session buf).2.length = buf.length := by
  unfold buildHeader
  split
  · unfold l2tpBuildL2tpv2Header
    dsimp only
    split_ifs <;> simp
  · unfold l2tpBuildL2tpv3Header buildL2specific
    dsimp only
    split_ifs <;> simp

/-- The packet after the header has been built: what the builder makes of the uncovered headroom,
the frame and what lies behind it, as far as the packet goes. -/
theorem data_pushHeader {skb : SkBuff} {hdrLen : ℕ} (hroom : hdrLen ≤ skb.head.length)
    (flow : Flow n) :
    ∃ front region, skb.head = front ++ region ∧ region.length = hdrLen ∧
      (pushHeader flow skb hdrLen).1.session =
        (buildHeader flow.tunnel flow.session (region ++ (skb.data ++ skb.tail))).1 ∧
      (pushHeader flow skb hdrLen).2.head = front ∧
      (pushHeader flow skb hdrLen).2.data =
        (buildHeader flow.tunnel flow.session (region ++ (skb.data ++ skb.tail))).2.take
          (hdrLen + skb.data.length) := by
  obtain ⟨front, region, hhead, hlength, hpush⟩ := skbPush_eq hroom
  refine ⟨front, region, hhead, hlength, ?_⟩
  simp [pushHeader, hpush, SkBuff.mem, SkBuff.len, hlength]

/-- There is room in front of a frame after `skb_cow_head`. -/
theorem skbCowHead_eq {cowHead : Option (ℕ → UInt8)} {skb skb' : SkBuff} {headroom : ℕ}
    (hcow : skbCowHead cowHead skb headroom = some skb') :
    headroom ≤ skb'.head.length ∧ skb'.data = skb.data ∧ skb'.tail = skb.tail := by
  obtain ⟨fresh, -, rfl⟩ := Option.map_eq_some_iff.mp hcow
  refine ⟨?_, rfl, rfl⟩
  simp only [List.length_append, List.length_map, List.length_range]
  omega

/-- The UDP header stands in front of the packet. -/
theorem data_pushUdpHeader (env : XmitEnv n) {skb : SkBuff}
    (hroom : udphdrSize ≤ skb.head.length) :
    ∃ udphdr, udphdr.length = udphdrSize ∧ (pushUdpHeader env skb).data = udphdr ++ skb.data := by
  obtain ⟨front, region, -, hregion, hpush⟩ := skbPush_eq hroom
  refine ⟨be16 env.sport ++ be16 env.dport ++
    be16 (UInt16.ofNat (skb.skbPush udphdrSize).len) ++ be16 env.check, rfl, ?_⟩
  rw [pushUdpHeader, hpush]
  exact writeAt_zero _ (by rw [hregion]; rfl)

/-- A frame that is sent over UDP: its header, and eight bytes in front of it. -/
theorem l2tpXmitSkb_udp {env : XmitEnv n} {flow : Flow n} (skb : SkBuff) (hdrLen : ℕ)
    (hudp : flow.tunnel.encap = .udp) (hcow : env.cowHead.isSome)
    (howned : env.ownedByUser = false) :
    ∃ roomy packet udphdr, roomy.data = skb.data ∧ roomy.tail = skb.tail ∧
      hdrLen ≤ roomy.head.length ∧ udphdr.length = udphdrSize ∧
      packet.data = udphdr ++ (pushHeader flow roomy hdrLen).2.data ∧
      (l2tpXmitSkb env flow skb hdrLen).1.log = flow.log ++ [.ipQueueXmit packet] ∧
      (l2tpXmitSkb env flow skb hdrLen).1.session.ns =
        (pushHeader flow roomy hdrLen).1.session.ns := by
  obtain ⟨fresh, hfresh⟩ := Option.isSome_iff_exists.mp hcow
  set headroom := env.netSkbPad + iphdrSize + udphdrSize + hdrLen with hheadroom
  obtain ⟨roomy, hroomy⟩ : ∃ roomy, skbCowHead env.cowHead skb headroom = some roomy := by
    rw [hfresh]
    exact ⟨_, rfl⟩
  obtain ⟨hroom, hdata, htail⟩ := skbCowHead_eq hroomy
  have hroomHeader : hdrLen ≤ roomy.head.length := by omega
  obtain ⟨front, region, hhead, hregion, -, hfront, -⟩ := data_pushHeader hroomHeader flow
  have hfrontLength : udphdrSize ≤ (pushHeader flow roomy hdrLen).2.head.length := by
    have hsplit := congrArg List.length hhead
    rw [List.length_append] at hsplit
    rw [hfront]
    omega
  obtain ⟨udphdr, hudphdr, hudpData⟩ := data_pushUdpHeader env hfrontLength
  have hxmit : l2tpXmitSkb env flow skb hdrLen =
      (l2tpXmitCore env (pushHeader flow roomy hdrLen).1
        (pushUdpHeader env (pushHeader flow roomy hdrLen).2), true) := by
    have htunnel : (pushHeader flow roomy hdrLen).1.tunnel = flow.tunnel := rfl
    simp [l2tpXmitSkb, hudp, ← hheadroom, hroomy, howned, htunnel]
  refine ⟨roomy, _, udphdr, hdata, htail, hroomHeader, hudphdr, hudpData, ?_, ?_⟩
  · rw [hxmit]
    simp [l2tpXmitCore, pushHeader]
  · rw [hxmit]
    simp [l2tpXmitCore]

end KernelModules.L2tp
