import KernelModules.L2tp.Input
import KernelModules.L2tp.Transmit

/-!
# PPP over L2TPv2, from end to end

What `pppol2tp_xmit` puts in front of a PPP frame, and what the other end makes of it: the sender
pushes `hdr_len` bytes and `l2tp_build_l2tpv2_header` fills them, the receiver finds the session,
looks for a sequence number where a flag says there is one, pulls the header and drops the PPP
address and control bytes. The receiver gets every PPP frame back (`ppp_frame_round_trip`).
-/

set_option autoImplicit false
set_option relaxedAutoImplicit false

namespace KernelModules.L2tp

open Foundations

variable {n : ℕ}

/-! ### The header -/

/-- The flags of an L2TPv2 header. -/
def v2Flags (session : L2tpSession n) : UInt16 :=
  if session.sendSeq then UInt16.ofNat hdrVer2 ||| hdrflagS else UInt16.ofNat hdrVer2

/-- The version and the flags for control message, length and offset say the same for every frame,
and the flag for sequence numbers says what the session does. -/
theorem v2Flags_bits (session : L2tpSession n) :
    (v2Flags session &&& hdrVerMask).toNat = hdrVer2 ∧ v2Flags session &&& hdrflagT = 0 ∧
      v2Flags session &&& hdrflagL = 0 ∧ v2Flags session &&& hdrflagO = 0 ∧
      (v2Flags session &&& hdrflagS ≠ 0 ↔ session.sendSeq = true) := by
  unfold v2Flags
  cases session.sendSeq <;> decide

/-- The header `l2tp_build_l2tpv2_header` writes. -/
def v2Header (tunnel : L2tpTunnel n) (session : L2tpSession n) : List UInt8 :=
  be16 (v2Flags session) ++
    (be16 tunnel.peerTunnelId.toUInt16 ++ (be16 session.peerSessionId.toUInt16 ++
      (if session.sendSeq then be16 session.ns.toUInt16 ++ be16 0 else [])))

/-- The sequence number a session puts into its next L2TPv2 header. -/
def v2Number (session : L2tpSession n) : Option UInt32 :=
  if session.sendSeq then some session.ns else none

theorem length_v2Header (tunnel : L2tpTunnel n) (session : L2tpSession n) :
    (v2Header tunnel session).length = if session.sendSeq then 10 else 6 := by
  unfold v2Header
  split_ifs <;> rfl

theorem l2tpBuildL2tpv2Header_eq (tunnel : L2tpTunnel n) (session : L2tpSession n)
    {region : List UInt8} (rest : List UInt8)
    (hregion : region.length = (v2Header tunnel session).length) :
    (l2tpBuildL2tpv2Header tunnel session (region ++ rest)).2 = v2Header tunnel session ++ rest ∧
      (l2tpBuildL2tpv2Header tunnel session (region ++ rest)).1.ns =
        if session.sendSeq then (session.ns + 1) &&& 0xffff else session.ns := by
  unfold l2tpBuildL2tpv2Header
  cases hseq : session.sendSeq with
  | false =>
    have hheader : v2Header tunnel session = be16 (UInt16.ofNat hdrVer2) ++
        be16 tunnel.peerTunnelId.toUInt16 ++ be16 session.peerSessionId.toUInt16 := by
      simp [v2Header, v2Flags, hseq]
    rw [hheader] at hregion ⊢
    exact ⟨writeAt_zero rest hregion, rfl⟩
  | true =>
    have hheader : v2Header tunnel session = be16 (UInt16.ofNat hdrVer2 ||| hdrflagS) ++
        be16 tunnel.peerTunnelId.toUInt16 ++ be16 session.peerSessionId.toUInt16 ++
        be16 session.ns.toUInt16 ++ be16 0 := by
      simp [v2Header, v2Flags, hseq]
    rw [hheader] at hregion ⊢
    exact ⟨writeAt_zero rest hregion, rfl⟩

/-- A PPP session over L2TPv2 and UDP, and the session at the other end: what it sends to is what
the other calls itself, its header length is the one that was set for its `send_seq`, and, as after
every L2TPv2 creation, there is neither cookie nor sublayer. The receiver has been connected. -/
structure MirroredV2 (sender receiver : Flow n) : Prop where
  builder : sender.session.buildHeader = .l2tpBuildL2tpv2Header
  senderUdp : sender.tunnel.encap = .udp
  hdrLen : sender.session.hdrLen =
    (l2tpSessionSetHeaderLen sender.tunnel sender.session hdrVer2).hdrLen
  ns : sender.session.ns.toNat < 65536
  version : receiver.tunnel.version = hdrVer2
  sessionId : receiver.session.sessionId = sender.session.peerSessionId
  sessionId_lt : receiver.session.sessionId.toNat < 65536
  cookie : receiver.session.peerCookie = .empty
  l2specificLen : receiver.session.l2specificLen = 0
  hook : receiver.tunnel.recvPayloadHook = some .pppol2tpRecvPayloadHook
  handler : receiver.session.recvSkb.isSome

/-- What `pppol2tp_xmit` sends. -/
theorem pppol2tpXmitFlow_v2 {env : XmitEnv n} {sender receiver : Flow n}
    (hmirror : MirroredV2 sender receiver) (skb : SkBuff) (hcow : env.cowHead.isSome)
    (howned : env.ownedByUser = false) :
    ∃ packet udphdr, udphdr.length = udphdrSize ∧
      packet.data = udphdr ++ (v2Header sender.tunnel sender.session ++ (ppph ++ skb.data)) ∧
      (pppol2tpXmitFlow env sender skb).log = sender.log ++ [.ipQueueXmit packet] ∧
      (pppol2tpXmitFlow env sender skb).session.ns =
        if sender.session.sendSeq then (sender.session.ns + 1) &&& 0xffff
        else sender.session.ns := by
  obtain ⟨fresh, hfresh⟩ := Option.isSome_iff_exists.mp hcow
  have hlength : sender.session.hdrLen.toNat = (v2Header sender.tunnel sender.session).length := by
    rw [hmirror.hdrLen, length_v2Header, l2tpSessionSetHeaderLen, if_pos rfl]
    dsimp only
    split_ifs <;> rfl
  set headroom := env.netSkbPad + iphdrSize + udphdrSize + sender.session.hdrLen.toNat + ppph.length
    with hheadroom
  obtain ⟨roomy, hroomy⟩ : ∃ roomy, skbCowHead env.cowHead skb headroom = some roomy := by
    rw [hfresh]
    exact ⟨_, rfl⟩
  obtain ⟨hroom, hdata, -⟩ := skbCowHead_eq hroomy
  have hroomPpp : ppph.length ≤ roomy.head.length := by omega
  obtain ⟨front, region, -, hregion, hpush⟩ := skbPush_eq hroomPpp
  set framed : SkBuff := { roomy with head := front, data := ppph ++ roomy.data } with hframed
  have hxmit : pppol2tpXmitFlow env sender skb =
      (l2tpXmitSkb env sender framed sender.session.hdrLen.toNat).1 := by
    have hwrite : writeAt (region ++ roomy.data) 0 ppph = ppph ++ roomy.data :=
      writeAt_zero roomy.data hregion
    simp [pppol2tpXmitFlow, hmirror.senderUdp, ← hheadroom, hroomy, hpush, hwrite, hframed]
  obtain ⟨roomy', packet, udphdr, hdata', -, hroom', hudphdr, hpacket, hlog, hns⟩ :=
    l2tpXmitSkb_udp framed sender.session.hdrLen.toNat hmirror.senderUdp hcow howned
  obtain ⟨front', region', -, hregion', hsession, -, hheader⟩ := data_pushHeader hroom' sender
  have hbuild := l2tpBuildL2tpv2Header_eq sender.tunnel sender.session (roomy'.data ++ roomy'.tail)
    (hregion'.trans hlength)
  rw [buildHeader, hmirror.builder] at hsession hheader
  dsimp only at hsession hheader
  refine ⟨packet, udphdr, hudphdr, ?_, ?_, ?_⟩
  · rw [hpacket, hheader, hbuild.1, hlength, ← List.append_assoc, ← List.length_append,
      List.take_left, hdata', hframed, hdata]
  · rw [hxmit, hlog]
  · rw [hxmit, hns, hsession, hbuild.2]

/-- The bytes of an L2TPv2 header, read back. -/
theorem v2Header_read (tunnel : L2tpTunnel n) (session : L2tpSession n) (rest : List UInt8) :
    be16At (v2Header tunnel session ++ rest) 0 = v2Flags session ∧
      be16At (v2Header tunnel session ++ rest) 4 = session.peerSessionId.toUInt16 ∧
      (session.sendSeq = true →
        be16At (v2Header tunnel session ++ rest) 6 = session.ns.toUInt16) := by
  unfold v2Header
  refine ⟨?_, ?_, fun hseq ↦ ?_⟩
  · rw [List.append_assoc, be16At_be16]
  · simp only [List.append_assoc]
    exact (be16At_append_right (be16 (v2Flags session) ++ be16 tunnel.peerTunnelId.toUInt16) _
      0).trans (be16At_be16 _ _)
  · simp only [hseq, if_true, List.append_assoc]
    exact (be16At_append_right (be16 (v2Flags session) ++ be16 tunnel.peerTunnelId.toUInt16 ++
      be16 session.peerSessionId.toUInt16) _ 0).trans (be16At_be16 _ _)

/-- The receiver of a frame decodes it: the cookie is accepted, the sequence number, or that there
is none, is what the sender wrote, and, unless the policy on sequence numbers refuses the frame,
what goes on to the reorder queue is the frame that was sent. -/
structure DecodesFrame (receiver : Flow n) (call : RecvCall n) (number : Option UInt32)
    (frame : List UInt8) : Prop where
  decoded : ∃ ptr, recvCookie receiver.session.toSessionParams call.skb call.ptr = some ptr ∧
    (recvSequence receiver.tunnel.version receiver.session.toSessionParams call.skb ptr
      call.hdrflags).1 = number
  delivered : recvSeqPolicy receiver.tunnel receiver.session number.isSome ≠ none →
    ∃ flow skb, recvAdmit receiver call = (flow, .ok skb) ∧ skb.data = frame ∧
      skb.cb.hasSeq = number.isSome ∧ ∀ ns, number = some ns → skb.cb.ns = ns

/-- The receiver of an L2TPv2 packet. -/
theorem udpRecvVerdict_v2 {hash : SessionHash} {net : L2tpNet n} {i : ℕ} {sender receiver : Flow n}
    (hmirror : MirroredV2 sender receiver)
    (hregistered : Registered hash net (some receiver.session.tunnel) i receiver) (env : Env n)
    {received : SkBuff} {udphdr rest : List UInt8} (hudphdr : udphdr.length = udphdrSize)
    (hdata : received.data = udphdr ++ (v2Header sender.tunnel sender.session ++ rest))
    (hrest : 4 ≤ rest.length) :
    ∃ call, udpRecvVerdict hash net env false receiver.session.tunnel receiver.tunnel received
        receiver.tunnel.recvPayloadHook = .session i call ∧
      call.skb = received.skbPull udphdrSize ∧ call.ptr = 6 ∧
      call.hdrflags = v2Flags sender.session ∧ call.hook = some .pppol2tpRecvPayloadHook := by
  have hpulled : (received.skbPull udphdrSize).data =
      v2Header sender.tunnel sender.session ++ rest := by
    rw [SkBuff.data_skbPull, hdata, ← hudphdr, List.drop_left]
  have hmem : (received.skbPull udphdrSize).mem =
      v2Header sender.tunnel sender.session ++ (rest ++ (received.skbPull udphdrSize).tail) := by
    rw [SkBuff.mem, hpulled, List.append_assoc]
  obtain ⟨hflags, hid, -⟩ := v2Header_read sender.tunnel sender.session
    (rest ++ (received.skbPull udphdrSize).tail)
  have hlong : (received.skbPull udphdrSize).pskbMayPull hdrSizeSeq = true := by
    have hlength := length_v2Header sender.tunnel sender.session
    rw [SkBuff.pskbMayPull, SkBuff.len, hpulled, List.length_append, decide_eq_true_iff, hdrSizeSeq]
    split_ifs at hlength <;> omega
  have hsession : (sender.session.peerSessionId.toUInt16).toUInt32 =
      receiver.session.sessionId := by
    have hlt := hmirror.sessionId_lt
    rw [hmirror.sessionId] at hlt ⊢
    rw [← UInt32.toNat_inj, UInt16.toNat_toUInt32, UInt32.toNat_toUInt16]
    exact Nat.mod_eq_of_lt hlt
  have hhandler : (net.sessions[i]?.bind (·.recvSkb)).isNone = false := by
    rw [hregistered.session, Option.bind_some, Option.isNone_eq_false_iff]
    exact hmirror.handler
  obtain ⟨hversion, hcontrol, hlengthFlag, -, -⟩ := v2Flags_bits sender.session
  refine ⟨RecvCall.mk env (received.skbPull udphdrSize) 6 (v2Flags sender.session)
    (received.skbPull udphdrSize).len receiver.tunnel.recvPayloadHook, ?_, rfl, rfl, rfl,
    hmirror.hook⟩
  rw [udpRecvVerdict, Bool.and_false, if_neg Bool.false_ne_true]
  simp only [hmem, hflags, hlong, hversion, hmirror.version, hcontrol, udpSessionId, hlengthFlag,
    hid, hsession, hregistered.find, hhandler, ne_eq, not_true_eq_false, if_true, if_false,
    Bool.not_true, if_neg Bool.false_ne_true]

/-- A PPP frame behind its two header bytes passes the payload hook without them. -/
theorem pppol2tpRecvPayloadHook_ppph {skb : SkBuff} {frame : List UInt8}
    (hdata : skb.data = ppph ++ frame) :
    ∃ payload, pppol2tpRecvPayloadHook skb = some payload ∧ payload.data = frame ∧
      payload.cb = skb.cb := by
  have hlong : skb.pskbMayPull 2 = true := by
    rw [SkBuff.pskbMayPull, SkBuff.len, hdata, decide_eq_true_iff, List.length_append]
    exact Nat.le_add_right _ _
  refine ⟨skb.skbPull 2, ?_, ?_, rfl⟩
  · rw [pppol2tpRecvPayloadHook, hlong, if_pos rfl, hdata, if_pos ⟨rfl, rfl⟩]
  · rw [SkBuff.data_skbPull, hdata]
    rfl

/-- The receiver of an L2TPv2 packet decodes it. -/
theorem decodesFrame_v2 {sender receiver : Flow n} (hmirror : MirroredV2 sender receiver)
    {call : RecvCall n} {frame : List UInt8}
    (hdata : call.skb.data = v2Header sender.tunnel sender.session ++ (ppph ++ frame))
    (hptr : call.ptr = 6) (hflags : call.hdrflags = v2Flags sender.session)
    (hhook : call.hook = some .pppol2tpRecvPayloadHook) :
    DecodesFrame receiver call (v2Number sender.session) frame := by
  have hmem : call.skb.mem =
      v2Header sender.tunnel sender.session ++ ((ppph ++ frame) ++ call.skb.tail) := by
    rw [SkBuff.mem, hdata, List.append_assoc]
  obtain ⟨-, -, hns⟩ := v2Header_read sender.tunnel sender.session
    ((ppph ++ frame) ++ call.skb.tail)
  obtain ⟨-, -, -, hoffset, hseqFlag⟩ := v2Flags_bits sender.session
  have hcookie : recvCookie receiver.session.toSessionParams call.skb call.ptr = some 6 := by
    rw [recvCookie, hmirror.cookie, hptr]
    rfl
  have hsequence : recvSequence receiver.tunnel.version receiver.session.toSessionParams call.skb 6
      call.hdrflags =
        (v2Number sender.session, (v2Header sender.tunnel sender.session).length) := by
    rw [recvSequence, if_pos hmirror.version, hflags, hmem, length_v2Header, v2Number]
    cases hseq : sender.session.sendSeq with
    | false => rw [if_neg (by rw [hseqFlag, hseq]; exact Bool.false_ne_true)]; rfl
    | true =>
      rw [if_pos (hseqFlag.mpr hseq), hns hseq]
      have hnumber : sender.session.ns.toUInt16.toUInt32 = sender.session.ns := by
        rw [← UInt32.toNat_inj, UInt16.toNat_toUInt32, UInt32.toNat_toUInt16]
        exact Nat.mod_eq_of_lt hmirror.ns
      rw [hnumber]
      rfl
  have hposition : payloadOffset receiver.tunnel.version receiver.session.toSessionParams call 6 =
      (v2Header sender.tunnel sender.session).length := by
    rw [payloadOffset, hsequence, recvOffset, if_pos hmirror.version, hflags, hoffset,
      if_neg (not_not_intro rfl), hmirror.l2specificLen]
    rfl
  refine ⟨⟨6, hcookie, congrArg Prod.fst hsequence⟩, fun hpolicy ↦ ?_⟩
  set skb := sequencedFrame receiver.tunnel.version receiver.session.toSessionParams call
    6 with hskb
  have hskbData : skb.data = v2Header sender.tunnel sender.session ++ (ppph ++ frame) := by
    rw [hskb, sequencedFrame, ← hdata]
    cases (recvSequence receiver.tunnel.version receiver.session.toSessionParams call.skb 6
      call.hdrflags).1 <;> rfl
  have hskbCb : skb.cb.hasSeq = (v2Number sender.session).isSome ∧
      ∀ ns, v2Number sender.session = some ns → skb.cb.ns = ns := by
    rw [hskb, sequencedFrame, hsequence]
    cases v2Number sender.session with
    | none => exact ⟨rfl, fun ns hnone ↦ by simp at hnone⟩
    | some ns => exact ⟨rfl, fun ns' hsome ↦ Option.some.inj hsome⟩
  obtain ⟨session, hsession⟩ := Option.ne_none_iff_exists'.mp hpolicy
  have hpulled : (skb.skbPull (v2Header sender.tunnel sender.session).length).data =
      ppph ++ frame := by
    rw [SkBuff.data_skbPull, hskbData, List.drop_left]
  obtain ⟨payload, hpayload, hpayloadData, hpayloadCb⟩ := pppol2tpRecvPayloadHook_ppph hpulled
  have hlong : skb.pskbMayPull (v2Header sender.tunnel sender.session).length = true := by
    rw [SkBuff.pskbMayPull, SkBuff.len, hskbData, List.length_append, decide_eq_true_iff]
    exact Nat.le_add_right _ _
  refine ⟨{ receiver with session }, stampFrame call.env session.reorderTimeout payload call.length,
    ?_, hpayloadData, ?_, ?_⟩
  · simp only [recvAdmit, hcookie, ← hskb, hskbCb.1, hsession, hposition, recvPayload, hlong,
      if_true, hhook, runPayloadHook, hpayload]
  · exact (congrArg L2tpSkbCb.hasSeq hpayloadCb).trans hskbCb.1
  · intro ns hnumber
    exact (congrArg L2tpSkbCb.ns hpayloadCb).trans (hskbCb.2 ns hnumber)

/-- PPP over L2TPv2, from end to end. Assumes: a PPP session over L2TPv2 and UDP that may send
sequence numbers, the session at the other end, found by its lookup, and a PPP frame of at least two
bytes for which there is memory and a free tunnel socket. The frame goes out in one packet; its
receiver chooses the session at the other end, reads the sequence number if there is one, and,
unless its policy on sequence numbers refuses the frame, goes on with exactly the PPP frame. The
sender counts up modulo 2¹⁶ if it sends sequence numbers. -/
theorem ppp_frame_round_trip {hash : SessionHash} {net : L2tpNet n} {i : ℕ}
    {sender receiver : Flow n}
    (hmirror : MirroredV2 sender receiver)
    (hregistered : Registered hash net (some receiver.session.tunnel) i receiver) {env : XmitEnv n}
    (hcow : env.cowHead.isSome) (howned : env.ownedByUser = false) {skb : SkBuff}
    (hframe : 2 ≤ skb.data.length) :
    ∃ packet, (pppol2tpXmitFlow env sender skb).log = sender.log ++ [.ipQueueXmit packet] ∧
      (pppol2tpXmitFlow env sender skb).session.ns.toNat =
        (if sender.session.sendSeq then (sender.session.ns.toNat + 1) % 65536
          else sender.session.ns.toNat) ∧
      ∀ received : SkBuff, received.data = packet.data → ∀ recvEnv : Env n, ∃ call,
        udpRecvVerdict hash net recvEnv false receiver.session.tunnel receiver.tunnel received
            receiver.tunnel.recvPayloadHook = .session i call ∧
          DecodesFrame receiver call (v2Number sender.session) skb.data := by
  obtain ⟨packet, udphdr, hudphdr, hpacket, hlog, hns⟩ :=
    pppol2tpXmitFlow_v2 hmirror skb hcow howned
  refine ⟨packet, hlog, ?_, fun received hreceived recvEnv ↦ ?_⟩
  · rw [hns]
    split_ifs
    · have hlt := hmirror.ns
      have hone : UInt32.toNat 1 = 1 := rfl
      have hmask : ((sender.session.ns + 1) &&& 0xffff).toNat =
          (sender.session.ns + 1).toNat % 2 ^ 16 := by
        rw [UInt32.toNat_and]
        exact Nat.and_two_pow_sub_one_eq_mod _ 16
      rw [hmask, UInt32.toNat_add]
      omega
    · rfl
  · have hlong : 4 ≤ (ppph ++ skb.data).length := by
      rw [List.length_append]
      exact Nat.add_le_add_left hframe 2
    obtain ⟨call, hverdict, hskb, hptr, hflags, hhook⟩ := udpRecvVerdict_v2 hmirror hregistered
      recvEnv hudphdr (hreceived.trans hpacket) hlong
    refine ⟨call, hverdict, decodesFrame_v2 hmirror ?_ hptr hflags hhook⟩
    rw [hskb, SkBuff.data_skbPull, hreceived, hpacket, ← hudphdr, List.drop_left]

/-- A PPP session over L2TPv2 and UDP, connected on both ends. -/
def pppFlow (sendSeq : Bool) : Flow 1 where
  tunnel :=
    { newTunnel 1 hdrVer2 1 2 .udp 0 with
      sessionHlist := Chains.link (fun _ ↦ []) (lowBits.hashBits 7) 0
      recvPayloadHook := some .pppol2tpRecvPayloadHook }
  session :=
    { newSession (newTunnel 1 hdrVer2 1 2 .udp 0) 0 7 7 { sendSeq } with
      recvSkb := some .pppol2tpRecv }
  log := []

/-- The namespace of one end. -/
def pppNet (sendSeq : Bool) : L2tpNet 1 :=
  { emptyNet 1 with
    tunnels := [(pppFlow sendSeq).tunnel]
    sessions := [(pppFlow sendSeq).session]
    tunnelList := [0] }

theorem ppp_frame_round_trip_sequenced :
    MirroredV2 (pppFlow true) (pppFlow true) ∧
      Registered lowBits (pppNet true) (some 0) 0 (pppFlow true) ∧
      ∃ packet, (pppol2tpXmitFlow (idleXmitEnv 0) (pppFlow true) (sequencedSkb 0 0)).log =
          [] ++ [.ipQueueXmit packet] ∧
        (pppol2tpXmitFlow (idleXmitEnv 0) (pppFlow true) (sequencedSkb 0 0)).session.ns.toNat = 1 ∧
        ∀ received : SkBuff, received.data = packet.data → ∀ recvEnv : Env 1, ∃ call,
          udpRecvVerdict lowBits (pppNet true) recvEnv false 0 (pppFlow true).tunnel received
              (pppFlow true).tunnel.recvPayloadHook = .session 0 call ∧
            DecodesFrame (pppFlow true) call (some 0) (sequencedSkb 0 0).data :=
  have hmirror : MirroredV2 (pppFlow true) (pppFlow true) :=
    ⟨rfl, rfl, by decide, by decide, rfl, rfl, by decide, rfl, rfl, rfl, rfl⟩
  have hregistered : Registered lowBits (pppNet true) (some 0) 0 (pppFlow true) :=
    ⟨rfl, rfl, by decide⟩
  ⟨hmirror, hregistered, ppp_frame_round_trip hmirror hregistered rfl rfl (by decide)⟩

end KernelModules.L2tp
