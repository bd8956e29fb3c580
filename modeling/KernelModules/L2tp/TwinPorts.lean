import KernelModules.L2tp.OlderPort
import KernelModules.L2tp.TransmitAccounting

/-!
# The packets of the two ports

Two sessions, one of each port, are twins if they agree in everything that a transmission reads,
apart from `hdr_len`. Whatever happens to both, twins stay twins (`Twins.sessionStep`), since the
header builders count `ns` on in the same way whatever the length of the header. What twins send
differs as soon as their header lengths do, in the length of the packet if in nothing else, and is
the same as long as they do not (`Twins.packets_iff`).
-/

set_option autoImplicit false
set_option relaxedAutoImplicit false

namespace KernelModules.L2tp

open Foundations

variable {n : ℕ}

/-! ### One transmission -/

/-- `session->ns` after a header has been built. -/
def nextNs (session : L2tpSession n) : UInt32 :=
  match session.buildHeader with
  | .l2tpBuildL2tpv2Header => if session.sendSeq then (session.ns + 1) &&& 0xffff else session.ns
  | .l2tpBuildL2tpv3Header =>
    if session.l2specificLen ≠ 0 ∧ session.l2specificType = l2spectypeDefault ∧ session.sendSeq then
      (session.ns + 1) &&& 0xffffff
    else session.ns

theorem fst_buildHeader (tunnel : L2tpTunnel n) (session : L2tpSession n) (buf : List UInt8) :
    (buildHeader tunnel session buf).1 = { session with ns := nextNs session } := by
  unfold buildHeader nextNs
  cases session.buildHeader with
  | l2tpBuildL2tpv2Header =>
    dsimp only [l2tpBuildL2tpv2Header]
    split_ifs <;> rfl
  | l2tpBuildL2tpv3Header =>
    dsimp only [l2tpBuildL2tpv3Header, buildL2specific]
    by_cases hword : session.l2specificLen ≠ 0 ∧ session.l2specificType = l2spectypeDefault
    · rw [if_pos hword]
      by_cases hsend : session.sendSeq = true
      · have hcounts : session.l2specificLen ≠ 0 ∧ session.l2specificType = l2spectypeDefault ∧
            session.sendSeq = true := ⟨hword.1, hword.2, hsend⟩
        rw [if_pos hsend, if_pos hcounts]
      · have hstays : ¬(session.l2specificLen ≠ 0 ∧ session.l2specificType = l2spectypeDefault ∧
            session.sendSeq = true) := fun h ↦ hsend h.2.2
        rw [if_neg hsend, if_neg hstays]
    · have hstays : ¬(session.l2specificLen ≠ 0 ∧ session.l2specificType = l2spectypeDefault ∧
          session.sendSeq = true) := fun h ↦ hword ⟨h.1, h.2.1⟩
      rw [if_neg hword, if_neg hstays]

/-- `uhlen`. -/
def uhlen (tunnel : L2tpTunnel n) : ℕ := if tunnel.encap = .udp then udphdrSize else 0

/-- The packet that `l2tp_xmit_skb` makes of a frame with room in front of it. -/
def xmitPacket (env : XmitEnv n) (flow : Flow n) (roomy : SkBuff) (hdrLen : ℕ) : SkBuff :=
  if flow.tunnel.encap = .udp then pushUdpHeader env (pushHeader flow roomy hdrLen).2
  else (pushHeader flow roomy hdrLen).2

/-- What `l2tp_xmit_skb` gives to the network. -/
def xmitPackets (env : XmitEnv n) (flow : Flow n) (skb : SkBuff) (hdrLen : ℕ) : List (List UInt8) :=
  match skbCowHead env.cowHead skb (env.netSkbPad + iphdrSize + uhlen flow.tunnel + hdrLen) with
  | none => []
  | some roomy => if env.ownedByUser then [] else [(xmitPacket env flow roomy hdrLen).data]

/-- `session->ns` after a call of `l2tp_xmit_skb`. -/
def nsAfterXmit (env : XmitEnv n) (session : L2tpSession n) : UInt32 :=
  if env.cowHead.isSome then nextNs session else session.ns

/-- A transmission: `ns` has been counted on, and packets have been given to the network. -/
structure Transmits (ns : UInt32) (packets : List (List UInt8)) (flow flow' : Flow n) : Prop where
  tunnel : ∃ stats, flow'.tunnel = { flow.tunnel with stats }
  session : ∃ counters, flow'.session = { flow.session with toSessionCounters := counters, ns }
  packets : sentPackets flow'.log = sentPackets flow.log ++ packets

theorem Transmits.nothing (flow : Flow n) : Transmits flow.session.ns [] flow flow :=
  ⟨⟨_, rfl⟩, ⟨_, rfl⟩, (List.append_nil _).symm⟩

theorem Transmits.kfreeSkb (flow : Flow n) (skb : SkBuff) :
    Transmits flow.session.ns [] flow (flow.emit (.kfreeSkb skb)) :=
  ⟨⟨_, rfl⟩, ⟨_, rfl⟩, by simp [sentPackets, Effect.packet]⟩

theorem transmits_l2tpXmitSkb (env : XmitEnv n) (flow : Flow n) (skb : SkBuff) (hdrLen : ℕ) :
    Transmits (nsAfterXmit env flow.session) (xmitPackets env flow skb hdrLen) flow
      (l2tpXmitSkb env flow skb hdrLen).1 := by
  unfold l2tpXmitSkb xmitPackets uhlen nsAfterXmit
  dsimp only
  cases hcow : env.cowHead with
  | none => exact Transmits.kfreeSkb flow skb
  | some fresh =>
    obtain ⟨roomy, hroomy⟩ : ∃ roomy, skbCowHead (some fresh) skb (env.netSkbPad + iphdrSize +
        (if flow.tunnel.encap = .udp then udphdrSize else 0) + hdrLen) = some roomy := ⟨_, rfl⟩
    have hpush : (pushHeader flow roomy hdrLen).1 =
        flow.onSession fun session ↦ { session with ns := nextNs session } := by
      simp only [pushHeader, fst_buildHeader]
      rfl
    rw [hroomy]
    dsimp only
    rw [hpush]
    cases env.ownedByUser with
    | true => exact ⟨⟨_, rfl⟩, ⟨_, rfl⟩, by simp [sentPackets, Effect.packet]⟩
    | false =>
      refine ⟨⟨_, rfl⟩, ⟨_, rfl⟩, ?_⟩
      exact sentPackets_append flow.log [.ipQueueXmit (xmitPacket env flow roomy hdrLen)]

theorem length_skbPush {skb : SkBuff} {count : ℕ} (hroom : count ≤ skb.head.length) :
    (skb.skbPush count).len = count + skb.len := by
  obtain ⟨front, region, -, hregion, hpush⟩ := skbPush_eq hroom
  rw [hpush, SkBuff.len, SkBuff.len, List.length_append, hregion]

/-- The packet is the frame, longer by the headers. -/
theorem length_xmitPacket (env : XmitEnv n) (flow : Flow n) {roomy : SkBuff} {hdrLen : ℕ}
    (hroom : uhlen flow.tunnel + hdrLen ≤ roomy.head.length) :
    (xmitPacket env flow roomy hdrLen).len = uhlen flow.tunnel + hdrLen + roomy.len := by
  obtain ⟨front, region, hhead, hregion, -, hfront, hdata⟩ :=
    data_pushHeader (Nat.le_of_add_left_le hroom) flow
  have hlength : (pushHeader flow roomy hdrLen).2.len = hdrLen + roomy.len := by
    rw [SkBuff.len, hdata, List.length_take, length_buildHeader, List.length_append,
      List.length_append, hregion, SkBuff.len]
    omega
  have hsplit := congrArg List.length hhead
  rw [List.length_append, hregion] at hsplit
  unfold xmitPacket uhlen at *
  split_ifs at hroom ⊢
  · have hpush : ((pushHeader flow roomy hdrLen).2.skbPush udphdrSize).len =
        udphdrSize + (pushHeader flow roomy hdrLen).2.len :=
      length_skbPush (by rw [hfront]; omega)
    have hudp : (pushUdpHeader env (pushHeader flow roomy hdrLen).2).len =
        ((pushHeader flow roomy hdrLen).2.skbPush udphdrSize).len := length_writeAt _ _ _
    omega
  · omega

/-- The length of what is given to the network. -/
theorem map_length_xmitPackets (env : XmitEnv n) (flow : Flow n) (skb : SkBuff) (hdrLen : ℕ) :
    (xmitPackets env flow skb hdrLen).map List.length =
      if env.reachesCore then [uhlen flow.tunnel + hdrLen + skb.len] else [] := by
  unfold xmitPackets XmitEnv.reachesCore
  cases hcow : skbCowHead env.cowHead skb
    (env.netSkbPad + iphdrSize + uhlen flow.tunnel + hdrLen) with
  | none =>
    have hnone : env.cowHead = none := Option.map_eq_none_iff.mp hcow
    rw [hnone]
    rfl
  | some roomy =>
    have hsome : env.cowHead.isSome = true := by
      obtain ⟨fresh, hfresh, -⟩ := Option.map_eq_some_iff.mp hcow
      rw [hfresh]
      rfl
    obtain ⟨hroom, hdata, -⟩ := skbCowHead_eq hcow
    have hpacket := length_xmitPacket env flow
      (le_trans (by omega : uhlen flow.tunnel + hdrLen ≤ _) hroom)
    have hlen : roomy.len = skb.len := by rw [SkBuff.len, hdata, SkBuff.len]
    rw [hsome]
    cases env.ownedByUser with
    | true => rfl
    | false =>
      dsimp only [Bool.not_false, Bool.and_self, if_true]
      rw [if_neg Bool.false_ne_true, List.map_singleton, ← hlen, ← hpacket]
      rfl

/-! ### The transmission of an event -/

/-- The call of `l2tp_xmit_skb` that an event makes, if it makes one. -/
def SessionEvent.xmit (flow : Flow n) : SessionEvent n → Option (XmitEnv n × SkBuff)
  | .ethXmit env skb => some (env, skb)
  | .pppXmit env skb =>
    if flow.session.ps.tunnelSock.isSome && flow.tunnel.sock = flow.session.ps.tunnelSock then
      (skbCowHead env.cowHead skb (env.netSkbPad + iphdrSize + uhlen flow.tunnel +
        flow.session.hdrLen.toNat + ppph.length)).map fun roomy ↦
          (env, { roomy.skbPush ppph.length with
            data := writeAt (roomy.skbPush ppph.length).data 0 ppph })
    else none
  | .sendmsg env call =>
    call.wmalloc.bind fun fresh ↦ call.payload.map fun payload ↦
      (env, sendmsgSkb env flow call.id fresh payload)
  | _ => none

/-- The same call, as far as it does not depend on the header length: what it finds, and the length
of the frame. -/
def SessionEvent.xmitLen (flow : Flow n) : SessionEvent n → Option (XmitEnv n × ℕ)
  | .ethXmit env skb => some (env, skb.len)
  | .pppXmit env skb =>
    if flow.session.ps.tunnelSock.isSome && flow.tunnel.sock = flow.session.ps.tunnelSock then
      env.cowHead.map fun _ ↦ (env, ppph.length + skb.len)
    else none
  | .sendmsg env call =>
    call.wmalloc.bind fun _ ↦ call.payload.map fun payload ↦ (env, ppph.length + payload.length)
  | _ => none

theorem map_xmit (flow : Flow n) (event : SessionEvent n) :
    (event.xmit flow).map (fun call ↦ (call.1, call.2.len)) = event.xmitLen flow := by
  cases event
  case pppXmit env skb =>
    dsimp only [SessionEvent.xmit, SessionEvent.xmitLen]
    split_ifs
    · cases hcow : skbCowHead env.cowHead skb (env.netSkbPad + iphdrSize + uhlen flow.tunnel +
        flow.session.hdrLen.toNat + ppph.length) with
      | none => rw [Option.map_eq_none_iff.mp hcow]; rfl
      | some roomy =>
        obtain ⟨fresh, hfresh, -⟩ := Option.map_eq_some_iff.mp hcow
        obtain ⟨hroom, hdata, -⟩ := skbCowHead_eq hcow
        have hpush := length_skbPush (le_trans (Nat.le_add_left ppph.length _) hroom)
        have hlen : roomy.len = skb.len := by rw [SkBuff.len, hdata, SkBuff.len]
        rw [hfresh, Option.map_some, Option.map_some, Option.map_some, ← hlen, ← hpush]
        simp [SkBuff.len]
    · rfl
  case sendmsg env call =>
    dsimp only [SessionEvent.xmit, SessionEvent.xmitLen]
    cases call.wmalloc with
    | none => rfl
    | some fresh =>
      cases call.payload with
      | none => rfl
      | some payload => simp [SkBuff.len, sendmsgSkb]
  all_goals rfl

/-- `session->ns` after an event. -/
def SessionEvent.nsAfter (flow : Flow n) (event : SessionEvent n) : UInt32 :=
  (event.xmitLen flow).elim flow.session.ns fun call ↦ nsAfterXmit call.1 flow.session

/-- What an event gives to the network. -/
def SessionEvent.packets (flow : Flow n) (event : SessionEvent n) : List (List UInt8) :=
  (event.xmit flow).elim [] fun call ↦
    xmitPackets call.1 flow call.2 flow.session.hdrLen.toNat

/-- An event gives something to the network. -/
def SessionEvent.sends (flow : Flow n) (event : SessionEvent n) : Bool :=
  (event.xmitLen flow).any fun call ↦ call.1.reachesCore

/-- The events that transmit. -/
def SessionEvent.isXmit : SessionEvent n → Bool
  | .ethXmit _ _ => true
  | .pppXmit _ _ => true
  | .sendmsg _ _ => true
  | _ => false

theorem Transmits.of_xmit {flow flow' : Flow n} {event : SessionEvent n} {env : XmitEnv n}
    {skb : SkBuff} (hxmit : event.xmit flow = some (env, skb))
    (htransmits : Transmits (nsAfterXmit env flow.session)
      (xmitPackets env flow skb flow.session.hdrLen.toNat) flow flow') :
    Transmits (event.nsAfter flow) (event.packets flow) flow flow' := by
  have hlen := map_xmit flow event
  rw [hxmit, Option.map_some] at hlen
  rw [SessionEvent.nsAfter, SessionEvent.packets, ← hlen, hxmit]
  exact htransmits

theorem Transmits.of_none {flow flow' : Flow n} {event : SessionEvent n}
    (hxmit : event.xmit flow = none) (htransmits : Transmits flow.session.ns [] flow flow') :
    Transmits (event.nsAfter flow) (event.packets flow) flow flow' := by
  have hlen := map_xmit flow event
  rw [hxmit, Option.map_none] at hlen
  rw [SessionEvent.nsAfter, SessionEvent.packets, ← hlen, hxmit]
  exact htransmits

/-- What the events that transmit do. -/
theorem transmits_sessionStep (flow : Flow n) {event : SessionEvent n}
    (hevent : event.isXmit = true) :
    Transmits (event.nsAfter flow) (event.packets flow) flow (sessionStep flow event) := by
  cases event
  case ethXmit env skb =>
    refine Transmits.of_xmit rfl ?_
    have htransmits := transmits_l2tpXmitSkb env flow skb flow.session.hdrLen.toNat
    dsimp only [sessionStep, l2tpEthDevXmit]
    revert htransmits
    obtain ⟨flow', sent | sent⟩ := l2tpXmitSkb env flow skb flow.session.hdrLen.toNat
    all_goals
      intro htransmits
      obtain ⟨counters, hsession⟩ := htransmits.session
      dsimp only at hsession
      refine ⟨htransmits.tunnel, ?_, htransmits.packets⟩
      rw [Flow.session_deviceStats, hsession]
      exact ⟨_, rfl⟩
  case pppXmit env skb =>
    dsimp only [sessionStep, pppXmitFlow]
    by_cases hready : (flow.session.ps.tunnelSock.isSome &&
        flow.tunnel.sock = flow.session.ps.tunnelSock) = true
    · rw [if_pos hready]
      unfold pppol2tpXmitFlow
      dsimp only
      cases hcow : skbCowHead env.cowHead skb (env.netSkbPad + iphdrSize +
        (if flow.tunnel.encap = .udp then udphdrSize else 0) + flow.session.hdrLen.toNat +
          ppph.length) with
      | none =>
        refine Transmits.of_none ?_ (Transmits.kfreeSkb flow skb)
        simp only [SessionEvent.xmit, if_pos hready, uhlen, hcow, Option.map_none]
      | some roomy =>
        refine Transmits.of_xmit ?_ (transmits_l2tpXmitSkb env flow _ _)
        simp only [SessionEvent.xmit, if_pos hready, uhlen, hcow, Option.map_some]
    · rw [if_neg hready]
      refine Transmits.of_none ?_ (Transmits.nothing flow)
      simp only [SessionEvent.xmit, if_neg hready]
  case sendmsg env call =>
    dsimp only [sessionStep, pppol2tpSendmsgFlow]
    cases hwmalloc : call.wmalloc with
    | none =>
      refine Transmits.of_none ?_ (Transmits.nothing flow)
      simp only [SessionEvent.xmit, hwmalloc, Option.bind_none]
    | some fresh =>
      cases hpayload : call.payload with
      | none =>
        refine Transmits.of_none ?_ (Transmits.kfreeSkb flow _)
        simp only [SessionEvent.xmit, hwmalloc, hpayload, Option.bind_some, Option.map_none]
      | some payload =>
        refine Transmits.of_xmit ?_ (transmits_l2tpXmitSkb env flow _ _)
        simp only [SessionEvent.xmit, hwmalloc, hpayload, Option.bind_some, Option.map_some]
  all_goals exact absurd hevent Bool.false_ne_true

/-- The length of what an event gives to the network. -/
theorem map_length_packets (flow : Flow n) (event : SessionEvent n) :
    (event.packets flow).map List.length =
      (event.xmitLen flow).elim [] fun call ↦
        if call.1.reachesCore then
          [uhlen flow.tunnel + flow.session.hdrLen.toNat + call.2] else [] := by
  rw [← map_xmit, SessionEvent.packets]
  cases event.xmit flow with
  | none => rfl
  | some call => exact map_length_xmitPackets call.1 flow call.2 _

/-! ### Twins -/

/-- A session of the newer port and one of the older port agree in what a transmission reads, apart
from the header length. -/
structure Twins (newer older : Flow n) : Prop where
  tunnel : ∃ stats, older.tunnel = { newer.tunnel with stats }
  params : older.session.toSessionParams = newer.session.toSessionParams
  hooks : older.session.toSessionHooks = newer.session.toSessionHooks
  recvSeq : older.session.recvSeq = newer.session.recvSeq
  sendSeq : older.session.sendSeq = newer.session.sendSeq
  lnsMode : older.session.lnsMode = newer.session.lnsMode
  ns : older.session.ns = newer.session.ns

namespace Twins

variable {newer older newer' older' : Flow n}

theorem keepsSendSide (htwins : Twins newer older) (hnewer : KeepsSendSide newer newer')
    (holder : KeepsSendSide older older') : Twins newer' older' := by
  obtain ⟨stats, htunnel⟩ := htwins.tunnel
  obtain ⟨stats₁, hnewerTunnel⟩ := hnewer.tunnel
  obtain ⟨stats₂, holderTunnel⟩ := holder.tunnel
  refine ⟨⟨stats₂, ?_⟩, ?_, ?_, ?_, ?_, ?_, ?_⟩
  · rw [holderTunnel, htunnel, hnewerTunnel]
  · rw [holder.params, htwins.params, hnewer.params]
  · rw [holder.hooks, htwins.hooks, hnewer.hooks]
  · rw [holder.recvSeq, htwins.recvSeq, hnewer.recvSeq]
  · rw [holder.sendSeq, htwins.sendSeq, hnewer.sendSeq]
  · rw [holder.lnsMode, htwins.lnsMode, hnewer.lnsMode]
  · rw [holder.ns, htwins.ns, hnewer.ns]

theorem transmits (htwins : Twins newer older) {ns : UInt32} {packets packets' : List (List UInt8)}
    (hnewer : Transmits ns packets newer newer') (holder : Transmits ns packets' older older') :
    Twins newer' older' := by
  obtain ⟨stats, htunnel⟩ := htwins.tunnel
  obtain ⟨stats₁, hnewerTunnel⟩ := hnewer.tunnel
  obtain ⟨stats₂, holderTunnel⟩ := holder.tunnel
  obtain ⟨counters₁, hnewerSession⟩ := hnewer.session
  obtain ⟨counters₂, holderSession⟩ := holder.session
  refine ⟨⟨stats₂, ?_⟩, ?_, ?_, ?_, ?_, ?_, ?_⟩
  · rw [holderTunnel, htunnel, hnewerTunnel]
  · rw [holderSession, hnewerSession, htwins.params]
  · rw [holderSession, hnewerSession, htwins.hooks]
  · rw [holderSession, hnewerSession, htwins.recvSeq]
  · rw [holderSession, hnewerSession, htwins.sendSeq]
  · rw [holderSession, hnewerSession, htwins.lnsMode]
  · rw [holderSession, hnewerSession]

/-- A received frame switches both or none. -/
theorem recvSwitch (htwins : Twins newer older) (call : RecvCall n) :
    Twins (recvSwitch newer call) (recvSwitch older call) := by
  have hversion : older.tunnel.version = newer.tunnel.version := by
    obtain ⟨stats, htunnel⟩ := htwins.tunnel
    rw [htunnel]
  unfold L2tp.recvSwitch
  simp only [htwins.params, hversion]
  generalize newer.session.toSessionParams = params
  cases recvCookie params call.skb call.ptr with
  | none => exact htwins
  | some ptr =>
    simp only [Option.bind_some]
    generalize (sequencedFrame newer.tunnel.version params call ptr).cb.hasSeq = hasSeq
    unfold recvSeqPolicy
    simp only [htwins.lnsMode, htwins.sendSeq, htwins.recvSeq, l2tpSessionSetHeaderLen_headerLen]
    split_ifs
    · exact { htwins with recvSeq := rfl, sendSeq := rfl, lnsMode := rfl }
    · exact htwins
    · exact htwins
    · exact { htwins with recvSeq := rfl, sendSeq := rfl, lnsMode := rfl }
    · exact htwins
    · exact htwins

/-- Twins make the same calls of `l2tp_xmit_skb`, up to the room in front of the frame. -/
theorem xmitLen (htwins : Twins newer older) (event : SessionEvent n) :
    event.xmitLen older = event.xmitLen newer := by
  obtain ⟨stats, htunnel⟩ := htwins.tunnel
  cases event <;> simp only [SessionEvent.xmitLen, htwins.hooks, htunnel]

theorem nsAfter (htwins : Twins newer older) (event : SessionEvent n) :
    event.nsAfter older = event.nsAfter newer := by
  unfold SessionEvent.nsAfter nsAfterXmit nextNs
  simp only [htwins.xmitLen, htwins.params, htwins.sendSeq, htwins.ns]

/-- The builders of twins write the same. -/
theorem snd_buildHeader (htwins : Twins newer older) (buf : List UInt8) :
    (buildHeader older.tunnel older.session buf).2 =
      (buildHeader newer.tunnel newer.session buf).2 := by
  obtain ⟨stats, htunnel⟩ := htwins.tunnel
  unfold buildHeader
  rw [htwins.params]
  cases newer.session.buildHeader with
  | l2tpBuildL2tpv2Header =>
    simp only [l2tpBuildL2tpv2Header, htunnel, htwins.params, htwins.sendSeq, htwins.ns]
    split_ifs <;> rfl
  | l2tpBuildL2tpv3Header =>
    simp only [l2tpBuildL2tpv3Header, buildL2specific, l2hWord, htunnel, htwins.params,
      htwins.sendSeq, htwins.ns]
    split_ifs <;> rfl

/-- With the same header length, twins send the same. -/
theorem packets_of_hdrLen (htwins : Twins newer older)
    (hdrLen : older.session.hdrLen = newer.session.hdrLen) (event : SessionEvent n) :
    event.packets older = event.packets newer := by
  obtain ⟨stats, htunnel⟩ := htwins.tunnel
  have hxmit : event.xmit older = event.xmit newer := by
    cases event <;>
      simp only [SessionEvent.xmit, sendmsgSkb, uhlen, htwins.hooks, htunnel, hdrLen]
  have huhlen : uhlen older.tunnel = uhlen newer.tunnel := by simp only [uhlen, htunnel]
  have hencap : older.tunnel.encap = newer.tunnel.encap := by rw [htunnel]
  have hpush : ∀ skb count, (pushHeader older skb count).2 = (pushHeader newer skb count).2 := by
    intro skb count
    simp only [pushHeader, htwins.snd_buildHeader]
  simp only [SessionEvent.packets, hxmit, xmitPackets, xmitPacket, hdrLen, huhlen, hencap, hpush]

/-- Twins send the same exactly if they send nothing or have the same header length. -/
theorem packets_iff (htwins : Twins newer older) (event : SessionEvent n) :
    event.packets newer = event.packets older ↔
      (event.sends older = true → older.session.hdrLen = newer.session.hdrLen) := by
  have huhlen : uhlen older.tunnel = uhlen newer.tunnel := by
    obtain ⟨stats, htunnel⟩ := htwins.tunnel
    simp only [uhlen, htunnel]
  have hnewer := map_length_packets newer event
  have holder := map_length_packets older event
  rw [htwins.xmitLen, huhlen] at holder
  unfold SessionEvent.sends
  rw [htwins.xmitLen]
  by_cases hsends : (event.xmitLen newer).any (fun call ↦ call.1.reachesCore) = true
  · rw [hsends]
    constructor
    · intro hsame _
      cases hxmit : event.xmitLen newer with
      | none => simp [hxmit] at hsends
      | some call =>
        have hcore : call.1.reachesCore = true := by simpa [hxmit] using hsends
        rw [hxmit, Option.elim_some, if_pos hcore] at hnewer holder
        rw [hsame, holder, List.singleton_inj] at hnewer
        exact UInt16.toNat_inj.mp (by omega)
    · exact fun hlen ↦ (htwins.packets_of_hdrLen (hlen rfl) event).symm
  · refine iff_of_true ?_ fun hyes ↦ absurd hyes hsends
    have hnothing : ∀ packets : List (List UInt8), packets.map List.length = [] → packets = [] :=
      fun _ ↦ List.map_eq_nil_iff.mp
    cases hxmit : event.xmitLen newer with
    | none =>
      rw [hxmit] at hnewer holder
      rw [hnothing _ hnewer, hnothing _ holder]
    | some call =>
      have hcore : ¬ call.1.reachesCore = true := by simpa [hxmit] using hsends
      rw [hxmit, Option.elim_some, if_neg hcore] at hnewer holder
      rw [hnothing _ hnewer, hnothing _ holder]

theorem length_packets (htwins : Twins newer older) (event : SessionEvent n) :
    (event.packets newer).length = (event.packets older).length := by
  rw [← List.length_map List.length, ← List.length_map List.length, map_length_packets,
    map_length_packets, htwins.xmitLen]
  cases event.xmitLen newer with
  | none => rfl
  | some call =>
    dsimp only [Option.elim_some]
    split_ifs <;> rfl

/-- A netlink command sets the same in both, the header length aside. -/
theorem modify (htwins : Twins newer older) (request : SessionModifyRequest) :
    Twins (newer.onSession (modifySession newer.tunnel request))
      (older.onSession (Port31059.modifySession request)) := by
  unfold modifySession Port31059.modifySession
  simp only [l2tpSessionSetHeaderLen_headerLen]
  by_cases hsend : request.sendSeq.isSome = true
  · simp only [if_pos hsend]
    refine ⟨htwins.tunnel, htwins.params, htwins.hooks, ?_, rfl, ?_, htwins.ns⟩
    · simp only [Flow.session_onSession, htwins.recvSeq]
    · simp only [Flow.session_onSession, htwins.lnsMode]
  · simp only [if_neg hsend]
    refine ⟨htwins.tunnel, htwins.params, htwins.hooks, ?_, htwins.sendSeq, ?_, htwins.ns⟩
    · simp only [Flow.session_onSession, htwins.recvSeq]
    · simp only [Flow.session_onSession, htwins.lnsMode]

/-- A socket option sets the same in both, the header length aside. -/
theorem setsockopt (htwins : Twins newer older) (optname : SessionOption) (val jiffies : Int32) :
    Twins
      (newer.onSession fun session ↦
        (pppol2tpSessionSetsockopt newer.tunnel session optname val jiffies).1)
      (older.onSession fun session ↦
        (Port31059.pppol2tpSessionSetsockopt session optname val jiffies).1) := by
  unfold pppol2tpSessionSetsockopt Port31059.pppol2tpSessionSetsockopt
  simp only [l2tpSessionSetHeaderLen_headerLen]
  by_cases hval : val ≠ 0 ∧ val ≠ 1
  · cases optname <;> simp only [if_pos hval]
    case reorderTimeout => exact { htwins with }
    all_goals exact htwins
  · cases optname <;> simp only [if_neg hval]
    case recvSeq => exact { htwins with recvSeq := rfl }
    case sendSeq => exact { htwins with sendSeq := rfl }
    case lnsMode => exact { htwins with lnsMode := rfl }
    case reorderTimeout => exact { htwins with }
    all_goals exact htwins

/-- Whatever happens to both, twins stay twins. -/
theorem sessionStep (htwins : Twins newer older) (event : SessionEvent n) :
    Twins (sessionStep newer event) (Port31059.sessionStep older event) := by
  have hxmit : ∀ {event : SessionEvent n}, event.isXmit = true →
      Twins (L2tp.sessionStep newer event) (L2tp.sessionStep older event) := by
    intro event hevent
    have holder := transmits_sessionStep older hevent
    rw [htwins.nsAfter] at holder
    exact htwins.transmits (transmits_sessionStep newer hevent) holder
  cases event with
  | recv call =>
    exact (htwins.recvSwitch call).keepsSendSide (.l2tpRecvCommon newer call)
      (Port31059.keepsSendSide_l2tpRecvCommon older call)
  | purge env =>
    exact htwins.keepsSendSide (.l2tpSessionQueuePurge env newer) (.l2tpSessionQueuePurge env older)
  | ethXmit env skb => exact hxmit rfl
  | pppXmit env skb => exact hxmit rfl
  | sendmsg env call => exact hxmit rfl
  | modify request => exact htwins.modify request
  | setsockopt optname val jiffies => exact htwins.setsockopt optname val jiffies
  | connect call tunnelSock => exact { htwins with hooks := rfl }
  | tunnel stats peerTunnelId recvPayloadHook sock =>
    obtain ⟨stats', htunnel⟩ := htwins.tunnel
    refine { htwins with tunnel := ⟨stats, ?_⟩ }
    dsimp only [Port31059.sessionStep, L2tp.sessionStep]
    rw [htunnel]

end Twins

/-! ### Runs -/

theorem log_recvSwitch (flow : Flow n) (call : RecvCall n) :
    (recvSwitch flow call).log = flow.log := by
  unfold recvSwitch
  split <;> rfl

theorem sentPackets_sessionStep (flow : Flow n) (event : SessionEvent n) :
    sentPackets (sessionStep flow event).log = sentPackets flow.log ++ event.packets flow := by
  cases event
  case recv call =>
    rw [sessionStep, (KeepsSendSide.l2tpRecvCommon flow call).packets, log_recvSwitch]
    exact (List.append_nil _).symm
  case purge env =>
    rw [sessionStep, (KeepsSendSide.l2tpSessionQueuePurge env flow).packets]
    exact (List.append_nil _).symm
  case ethXmit env skb => exact (transmits_sessionStep flow rfl).packets
  case pppXmit env skb => exact (transmits_sessionStep flow rfl).packets
  case sendmsg env call => exact (transmits_sessionStep flow rfl).packets
  all_goals exact (List.append_nil _).symm

namespace Port31059

theorem sentPackets_sessionStep (flow : Flow n) (event : SessionEvent n) :
    sentPackets (sessionStep flow event).log = sentPackets flow.log ++ event.packets flow := by
  cases event
  case recv call =>
    rw [sessionStep, (keepsSendSide_l2tpRecvCommon flow call).packets, log_recvSwitch]
    exact (List.append_nil _).symm
  case modify request => exact (List.append_nil _).symm
  case setsockopt optname val jiffies => exact (List.append_nil _).symm
  all_goals exact L2tp.sentPackets_sessionStep flow _

end Port31059

/-- What has been sent stays sent. -/
theorem sentPackets_prefix_foldl {step : Flow n → SessionEvent n → Flow n}
    (hstep : ∀ flow event,
      sentPackets (step flow event).log = sentPackets flow.log ++ event.packets flow)
    (flow : Flow n) (events : List (SessionEvent n)) :
    sentPackets flow.log <+: sentPackets (events.foldl step flow).log := by
  induction events generalizing flow with
  | nil => exact List.prefix_refl _
  | cons event events ih =>
    refine List.IsPrefix.trans ?_ (ih (step flow event))
    rw [hstep]
    exact List.prefix_append _ _

/-- If an event gives something to the network, the header length is not stale: it is what
`l2tp_session_set_header_len` would store now. -/
def SendsCurrent (flow : Flow n) (event : SessionEvent n) : Prop :=
  event.sends flow = true → flow.session.hdrLen =
    headerLen flow.tunnel.encap flow.tunnel.version flow.session.toSessionParams
      flow.session.sendSeq

/-- Twins, of which the newer one keeps its header length, send the same in a step exactly if the
older one does not send with a stale length. -/
theorem Twins.packets_iff_sendsCurrent {newer older : Flow n} {encap : L2tpEncap} {version : ℕ}
    {params : SessionParams} (htwins : Twins newer older)
    (hkept : HeaderKept encap version params newer) (event : SessionEvent n) :
    event.packets newer = event.packets older ↔ SendsCurrent older event := by
  have hcurrent : headerLen older.tunnel.encap older.tunnel.version older.session.toSessionParams
      older.session.sendSeq = newer.session.hdrLen := by
    obtain ⟨stats, htunnel⟩ := htwins.tunnel
    rw [htunnel, htwins.params, htwins.sendSeq, hkept.hdrLen_eq, hkept.encap_eq, hkept.version_eq,
      hkept.params_eq]
  rw [htwins.packets_iff, SendsCurrent, hcurrent]

/-- Twins send the same in a run exactly if the older one never sends with a stale header length. -/
theorem Twins.sentPackets_iff {newer older : Flow n} {encap : L2tpEncap} {version : ℕ}
    {params : SessionParams} (htwins : Twins newer older)
    (hkept : HeaderKept encap version params newer)
    (hsent : sentPackets newer.log = sentPackets older.log) (events : List (SessionEvent n)) :
    sentPackets (sessionRun newer events).log =
      sentPackets (Port31059.sessionRun older events).log ↔
      Along Port31059.sessionStep SendsCurrent older events := by
  induction events generalizing newer older with
  | nil => exact iff_of_true hsent trivial
  | cons event events ih =>
    have hnewer := sentPackets_sessionStep newer event
    have holder := Port31059.sentPackets_sessionStep older event
    have hstep := htwins.packets_iff_sendsCurrent hkept event
    change sentPackets (sessionRun (L2tp.sessionStep newer event) events).log =
        sentPackets (Port31059.sessionRun (Port31059.sessionStep older event) events).log ↔
      SendsCurrent older event ∧
        Along Port31059.sessionStep SendsCurrent (Port31059.sessionStep older event) events
    by_cases hcurrent : SendsCurrent older event
    · rw [hsent, hstep.mpr hcurrent, ← holder] at hnewer
      rw [ih (htwins.sessionStep event) (hkept.sessionStep event) hnewer]
      exact ⟨fun hrest ↦ ⟨hcurrent, hrest⟩, fun hboth ↦ hboth.2⟩
    · refine iff_of_false (fun hsame ↦ ?_) fun hboth ↦ hcurrent hboth.1
      -- What was sent up to here is a front part of the same list in both runs, and equally long.
      have hfront : sentPackets (L2tp.sessionStep newer event).log =
          sentPackets (Port31059.sessionStep older event).log := by
        have hprefix := sentPackets_prefix_foldl sentPackets_sessionStep
          (L2tp.sessionStep newer event) events
        have hprefix' := sentPackets_prefix_foldl Port31059.sentPackets_sessionStep
          (Port31059.sessionStep older event) events
        have hlength : (sentPackets (L2tp.sessionStep newer event).log).length =
            (sentPackets (Port31059.sessionStep older event).log).length := by
          rw [hnewer, holder, List.length_append, List.length_append, hsent,
            htwins.length_packets event]
        change _ <+: sentPackets (sessionRun (L2tp.sessionStep newer event) events).log at hprefix
        rw [hsame] at hprefix
        exact (List.prefix_of_prefix_length_le hprefix hprefix' hlength.le).eq_of_length hlength
      rw [hnewer, holder, hsent, List.append_cancel_left_eq] at hfront
      exact hcurrent (hstep.mp hfront)

section Created

variable (tunnel : L2tpTunnel n) (tunnelIndex : ℕ) (sessionId peerSessionId : UInt32)
  (cfg : L2tpSessionCfg) (hooks : SessionHooks)

/-- The two ports create twins. -/
theorem twins_newFlow : Twins (newFlow tunnel tunnelIndex sessionId peerSessionId cfg hooks)
    (Port31059.newFlow tunnel tunnelIndex sessionId peerSessionId cfg hooks) :=
  ⟨⟨_, rfl⟩, rfl, rfl, rfl, rfl, rfl, rfl⟩

/-- Two sessions, one of each port, are created with one configuration, and the same happens to
both. They give the same packets to the network, byte for byte, exactly if the one of the older port
never sends with a header length that is stale. -/
theorem samePackets_iff (events : List (SessionEvent n)) :
    sentPackets (sessionRun (newFlow tunnel tunnelIndex sessionId peerSessionId cfg hooks)
      events).log =
        sentPackets (Port31059.sessionRun
          (Port31059.newFlow tunnel tunnelIndex sessionId peerSessionId cfg hooks) events).log ↔
      Along Port31059.sessionStep SendsCurrent
        (Port31059.newFlow tunnel tunnelIndex sessionId peerSessionId cfg hooks) events := by
  have htwins := twins_newFlow tunnel tunnelIndex sessionId peerSessionId cfg hooks
  have hkept := headerKept_newFlow tunnel tunnelIndex sessionId peerSessionId cfg hooks
  exact htwins.sentPackets_iff hkept rfl events

end Created

/-- A frame of the PPP session below. -/
def pppSkb : SkBuff where
  id := 0
  head := []
  data := [0x11, 0x22, 0x33, 0x44]
  tail := []
  cb := { ns := 0, hasSeq := false, length := 0, expires := 0 }

/-- A PPP session that is connected to a socket. -/
def pppHooks : SessionHooks where
  recvSkb := some .pppol2tpRecv
  ps := { sock := some 1, tunnelSock := some 0 }

/-- The user of a PPP session switches sequence numbers on, and sends a frame. -/
def switchedOn : List (SessionEvent 1) :=
  [.setsockopt .sendSeq 1 0, .pppXmit (idleXmitEnv cpu0) pppSkb]

/-- On an L2TPv2 session the newer port sends a header of ten bytes, the PPP header and the frame.
The older port makes room for six bytes and writes ten: the PPP header and the first two bytes of
the frame are lost. -/
theorem not_samePackets_switchedOn :
    (sentPackets (sessionRun (newFlow (newTunnel 1 hdrVer2 1 2 .udp 0) 0 1 2 {} pppHooks)
        switchedOn).log).map (·.drop udphdrSize) =
      [[0x08, 0x02, 0, 2, 0, 2, 0, 0, 0, 0, 0xff, 0x03, 0x11, 0x22, 0x33, 0x44]] ∧
    (sentPackets (Port31059.sessionRun (Port31059.newFlow (newTunnel 1 hdrVer2 1 2 .udp 0) 0 1 2 {}
        pppHooks) switchedOn).log).map (·.drop udphdrSize) =
      [[0x08, 0x02, 0, 2, 0, 2, 0, 0, 0, 0, 0x33, 0x44]] ∧
    sentPackets (sessionRun (newFlow (newTunnel 1 hdrVer2 1 2 .udp 0) 0 1 2 {} pppHooks)
        switchedOn).log ≠
      sentPackets (Port31059.sessionRun (Port31059.newFlow (newTunnel 1 hdrVer2 1 2 .udp 0) 0 1 2 {}
        pppHooks) switchedOn).log := by
  decide

/-! ### When the length does not become stale -/

/-- An event does not make the header length of the older port stale: no option and no command
changes `send_seq`, or the length does not depend on it. -/
def LeavesSendSeq (flow : Flow n) : SessionEvent n → Prop
  | .modify request => flow.tunnel.version = hdrVer2 →
      (Port31059.modifySession request flow.session).sendSeq = flow.session.sendSeq
  | .setsockopt optname val jiffies => flow.tunnel.version = hdrVer2 →
      (Port31059.pppol2tpSessionSetsockopt flow.session optname val jiffies).1.sendSeq =
        flow.session.sendSeq
  | _ => True

section Unswitched

variable {encap : L2tpEncap} {version : ℕ} {params : SessionParams} {flow : Flow n}

theorem HeaderKept.settings (hkept : HeaderKept encap version params flow)
    {change : L2tpSession n → L2tpSession n}
    (hparams : (change flow.session).toSessionParams = flow.session.toSessionParams)
    (hlen : (change flow.session).hdrLen = flow.session.hdrLen)
    (hsend : version = hdrVer2 → (change flow.session).sendSeq = flow.session.sendSeq) :
    HeaderKept encap version params (flow.onSession change) := by
  refine ⟨hkept.encap_eq, hkept.version_eq, hparams.trans hkept.params_eq, ?_⟩
  rw [Flow.session_onSession, hlen, hkept.hdrLen_eq]
  by_cases hversion : version = hdrVer2
  · rw [hsend hversion]
  · simp only [headerLen, if_neg hversion]

/-- The older port keeps the header length through such an event. -/
theorem HeaderKept.port31059 (hkept : HeaderKept encap version params flow) {event : SessionEvent n}
    (hleaves : LeavesSendSeq flow event) :
    HeaderKept encap version params (Port31059.sessionStep flow event) := by
  cases event with
  | recv call =>
    exact (hkept.recvSwitch call).keepsSendSide (Port31059.keepsSendSide_l2tpRecvCommon flow call)
  | purge env => exact hkept.sessionStep (.purge env)
  | ethXmit env skb => exact hkept.sessionStep (.ethXmit env skb)
  | pppXmit env skb => exact hkept.sessionStep (.pppXmit env skb)
  | sendmsg env call => exact hkept.sessionStep (.sendmsg env call)
  | modify request =>
    apply hkept.settings
    · rfl
    · rfl
    · rw [← hkept.version_eq]
      exact hleaves
  | setsockopt optname val jiffies =>
    have hkeeps : ∀ session : L2tpSession n,
        (Port31059.pppol2tpSessionSetsockopt session optname val jiffies).1.toSessionParams =
            session.toSessionParams ∧
          (Port31059.pppol2tpSessionSetsockopt session optname val jiffies).1.hdrLen =
            session.hdrLen := by
      intro session
      unfold Port31059.pppol2tpSessionSetsockopt
      by_cases hval : val ≠ 0 ∧ val ≠ 1
      · cases optname <;> simp only [if_pos hval, and_self]
      · cases optname <;> simp only [if_neg hval, and_self]
    change HeaderKept encap version params (flow.onSession fun session ↦
      (Port31059.pppol2tpSessionSetsockopt session optname val jiffies).1)
    apply hkept.settings
    · exact (hkeeps flow.session).1
    · exact (hkeeps flow.session).2
    · rw [← hkept.version_eq]
      exact hleaves
  | connect call tunnelSock => exact hkept.sessionStep (.connect call tunnelSock)
  | tunnel stats peerTunnelId recvPayloadHook sock =>
    exact hkept.sessionStep (.tunnel stats peerTunnelId recvPayloadHook sock)

/-- As long as no option and no command changes `send_seq` of an L2TPv2 session, the older port does
not send with a stale header length. -/
theorem sendsCurrent_of_leavesSendSeq (hkept : HeaderKept encap version params flow)
    {events : List (SessionEvent n)}
    (hleaves : Along Port31059.sessionStep LeavesSendSeq flow events) :
    Along Port31059.sessionStep SendsCurrent flow events := by
  induction events generalizing flow with
  | nil => trivial
  | cons event events ih =>
    refine ⟨fun _ ↦ ?_, ih (hkept.port31059 hleaves.1) hleaves.2⟩
    rw [hkept.encap_eq, hkept.version_eq, hkept.params_eq]
    exact hkept.hdrLen_eq

end Unswitched

end KernelModules.L2tp
