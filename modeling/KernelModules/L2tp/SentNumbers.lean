import KernelModules.Foundations.Numbering
import KernelModules.L2tp.HeaderRoundTrip
import KernelModules.L2tp.TwinPorts

/-!
# The sequence numbers a peer sees

The header builder takes the next sequence number, and `l2tp_xmit_skb` may still drop the frame
after that: it looks at the owner of the tunnel socket only when the header has been built. Such a
number is never seen. A frame for which `skb_cow_head` finds no memory is dropped before and uses no
number.

The numbers in the packets that reach `l2tp_xmit_core` are consecutive exactly if between any two
of them that follow each other the drops make up whole rounds of the sequence space
(`sent_numbers_consecutive_iff`).
-/

set_option autoImplicit false
set_option relaxedAutoImplicit false

namespace KernelModules.L2tp

open Foundations

variable {n : ℕ}

/-! ### The number in a header -/

/-- The session puts sequence numbers into its headers. -/
structure PutsNumbers (session : L2tpSession n) : Prop where
  sendSeq : session.sendSeq = true
  word : session.buildHeader = .l2tpBuildL2tpv3Header → writesWord session.toSessionParams

/-- The size of the sequence space. -/
def HeaderBuilder.space : HeaderBuilder → ℕ
  | .l2tpBuildL2tpv2Header => 2 ^ 16
  | .l2tpBuildL2tpv3Header => 2 ^ 24

/-- The bytes that hold the number: Ns in L2TPv2, the word of the sublayer in L2TPv3. -/
def HeaderBuilder.numberSize : HeaderBuilder → ℕ
  | .l2tpBuildL2tpv2Header => 2
  | .l2tpBuildL2tpv3Header => 4

/-- Where they are in a header. -/
def numberOffset (tunnel : L2tpTunnel n) (session : L2tpSession n) : ℕ :=
  match session.buildHeader with
  | .l2tpBuildL2tpv2Header => 6
  | .l2tpBuildL2tpv3Header => v3FixedLength tunnel.encap + session.cookie.bytes.length

/-- The number in them. -/
def HeaderBuilder.readNumber : HeaderBuilder → List UInt8 → ℕ
  | .l2tpBuildL2tpv2Header, bytes => (be16At bytes 0).toNat
  | .l2tpBuildL2tpv3Header, bytes => (be32At bytes 0 &&& 0x00ffffff).toNat

/-- The number in a packet as it is given to the network, if the packet reaches that far. -/
def packetNumber (tunnel : L2tpTunnel n) (session : L2tpSession n) (packet : List UInt8) :
    Option ℕ :=
  if uhlen tunnel + numberOffset tunnel session + session.buildHeader.numberSize ≤
      packet.length then
    some (session.buildHeader.readNumber (bytesAt packet
      (uhlen tunnel + numberOffset tunnel session) session.buildHeader.numberSize))
  else none

theorem readNumber_be16 (ns : UInt32) :
    HeaderBuilder.l2tpBuildL2tpv2Header.readNumber (be16 ns.toUInt16) = ns.toNat % 2 ^ 16 := by
  rw [HeaderBuilder.readNumber, ← List.append_nil (be16 _), be16At_be16, UInt32.toNat_toUInt16]

theorem readNumber_word {session : L2tpSession n} (hsend : session.sendSeq = true) :
    HeaderBuilder.l2tpBuildL2tpv3Header.readNumber (be32 (l2hWord session)) =
      session.ns.toNat % 2 ^ 24 := by
  have hmask : (0x40000000 ||| session.ns.toNat) &&& 0x00ffffff = session.ns.toNat % 2 ^ 24 := by
    rw [Nat.and_or_distrib_right]
    exact (Nat.zero_or _).trans (Nat.and_two_pow_sub_one_eq_mod _ 24)
  rw [HeaderBuilder.readNumber, ← List.append_nil (be32 _), be32At_be32, l2hWord, if_pos hsend,
    UInt32.toNat_and, UInt32.toNat_or]
  exact hmask

/-- Ns stands behind flags, tunnel id and session id. -/
theorem bytesAt_l2tpBuildL2tpv2Header (tunnel : L2tpTunnel n) {session : L2tpSession n}
    (hsend : session.sendSeq = true) {buf : List UInt8} (hbuf : 8 ≤ buf.length) :
    bytesAt (l2tpBuildL2tpv2Header tunnel session buf).2 6 2 = be16 session.ns.toUInt16 := by
  have hfield (front back : List UInt8) (hfront : front.length = 6) :
      bytesAt (writeAt buf 0 (front ++ (be16 session.ns.toUInt16 ++ back))) 6 2 =
        be16 session.ns.toUInt16 := by
    have hread := bytesAt_append front (be16 session.ns.toUInt16) back
    rw [hfront, length_be16] at hread
    refine (bytesAt_writeAt_within (i := 0) (j := 6) (by omega) ?_).trans hread
    rw [List.length_append, List.length_append, hfront, length_be16]
    omega
  rw [l2tpBuildL2tpv2Header, if_pos hsend, List.append_assoc, List.append_assoc,
    List.append_assoc, ← List.append_assoc (be16 tunnel.peerTunnelId.toUInt16),
    ← List.append_assoc (be16 _)]
  exact hfield _ _ rfl

/-- The word of the sublayer stands behind the fixed part and the cookie. -/
theorem bytesAt_l2tpBuildL2tpv3Header (tunnel : L2tpTunnel n) {session : L2tpSession n}
    (hword : writesWord session.toSessionParams) {buf : List UInt8}
    (hbuf : v3FixedLength tunnel.encap + session.cookie.bytes.length + 4 ≤ buf.length) :
    bytesAt (l2tpBuildL2tpv3Header tunnel session buf).2
        (v3FixedLength tunnel.encap + session.cookie.bytes.length) 4 =
      be32 (l2hWord session) := by
  obtain ⟨fixed, cookie, rest, rfl, hfixed, hcookie⟩ : ∃ fixed cookie rest : List UInt8,
      buf = fixed ++ (cookie ++ rest) ∧ fixed.length = v3FixedLength tunnel.encap ∧
        cookie.length = session.cookie.bytes.length := by
    refine ⟨buf.take (v3FixedLength tunnel.encap),
      (buf.drop (v3FixedLength tunnel.encap)).take session.cookie.bytes.length,
      (buf.drop (v3FixedLength tunnel.encap)).drop session.cookie.bytes.length, ?_, ?_, ?_⟩
    · rw [List.take_append_drop, List.take_append_drop]
    · exact List.length_take_of_le (by omega)
    · refine List.length_take_of_le ?_
      rw [List.length_drop]
      omega
  have hrest : 4 ≤ rest.length := by
    rw [List.length_append, List.length_append] at hbuf
    omega
  rw [l2tpBuildL2tpv3Header_eq tunnel session rest hfixed hcookie, if_pos hword,
    ← List.append_assoc, ← length_v3Fixed tunnel session, ← List.length_append,
    ← Nat.add_zero (v3Fixed tunnel session ++ session.cookie.bytes).length, bytesAt_append_right]
  exact (bytesAt_writeAt_within (i := 0) (j := 0) (by omega) le_rfl).trans (bytesAt_self _)

/-- The builder writes the next number where it belongs, if the memory reaches that far. -/
theorem number_buildHeader (tunnel : L2tpTunnel n) {session : L2tpSession n}
    (hputs : PutsNumbers session) {buf : List UInt8}
    (hbuf : numberOffset tunnel session + session.buildHeader.numberSize ≤ buf.length) :
    session.buildHeader.readNumber (bytesAt (buildHeader tunnel session buf).2
      (numberOffset tunnel session) session.buildHeader.numberSize) =
        session.ns.toNat % session.buildHeader.space := by
  unfold numberOffset buildHeader at *
  cases hbuilder : session.buildHeader with
  | l2tpBuildL2tpv2Header =>
    rw [hbuilder] at hbuf
    dsimp only [HeaderBuilder.numberSize] at hbuf ⊢
    rw [bytesAt_l2tpBuildL2tpv2Header tunnel hputs.sendSeq hbuf]
    exact readNumber_be16 session.ns
  | l2tpBuildL2tpv3Header =>
    rw [hbuilder] at hbuf
    dsimp only [HeaderBuilder.numberSize] at hbuf ⊢
    rw [bytesAt_l2tpBuildL2tpv3Header tunnel (hputs.word hbuilder) hbuf]
    exact readNumber_word hputs.sendSeq

/-- The packet is the frame with its header, behind the UDP header if there is one. -/
theorem data_xmitPacket (env : XmitEnv n) (flow : Flow n) {roomy : SkBuff} {hdrLen : ℕ}
    (hroom : uhlen flow.tunnel + hdrLen ≤ roomy.head.length) :
    ∃ front, front.length = uhlen flow.tunnel ∧
      (xmitPacket env flow roomy hdrLen).data = front ++ (pushHeader flow roomy hdrLen).2.data := by
  unfold xmitPacket uhlen at *
  by_cases hudp : flow.tunnel.encap = .udp
  · rw [if_pos hudp] at hroom ⊢
    rw [if_pos hudp]
    obtain ⟨front, region, hhead, hregion, -, hfront, -⟩ :=
      data_pushHeader (Nat.le_of_add_left_le hroom) flow
    have hlength := congrArg List.length hhead
    rw [List.length_append, hregion] at hlength
    have hroomUdp : udphdrSize ≤ (pushHeader flow roomy hdrLen).2.head.length := by
      rw [hfront]
      omega
    exact data_pushUdpHeader env hroomUdp
  · rw [if_neg hudp, if_neg hudp]
    exact ⟨[], rfl, rfl⟩

/-- The number in a packet is the next one, unless the packet ends before it. -/
theorem packetNumber_xmitPacket (env : XmitEnv n) {flow : Flow n}
    (hputs : PutsNumbers flow.session) {roomy : SkBuff} {hdrLen : ℕ}
    (hroom : uhlen flow.tunnel + hdrLen ≤ roomy.head.length) :
    packetNumber flow.tunnel flow.session (xmitPacket env flow roomy hdrLen).data =
      if numberOffset flow.tunnel flow.session + flow.session.buildHeader.numberSize ≤
          hdrLen + roomy.len then
        some (flow.session.ns.toNat % flow.session.buildHeader.space)
      else none := by
  have hlength : (xmitPacket env flow roomy hdrLen).data.length =
      uhlen flow.tunnel + hdrLen + roomy.len := length_xmitPacket env flow hroom
  obtain ⟨front, hfront, hdata⟩ := data_xmitPacket env flow hroom
  obtain ⟨-, region, -, hregion, -, -, hpushed⟩ :=
    data_pushHeader (Nat.le_of_add_left_le hroom) flow
  unfold packetNumber
  rw [hlength]
  refine if_ctx_congr (by omega) (fun hlong ↦ ?_) fun _ ↦ rfl
  rw [SkBuff.len] at hlong
  rw [hdata, ← hfront, bytesAt_append_right, hpushed, bytesAt_take hlong]
  refine congrArg some (number_buildHeader flow.tunnel hputs (hlong.trans ?_))
  rw [List.length_append, List.length_append, hregion]
  omega

/-! ### Runs -/

/-- A call of `l2tp_xmit_skb`. -/
structure XmitCall (n : ℕ) where
  env : XmitEnv n
  skb : SkBuff
  hdrLen : ℕ

/-- A run of `l2tp_xmit_skb`. -/
def xmitRun (flow : Flow n) (calls : List (XmitCall n)) : Flow n :=
  calls.foldl (fun flow call ↦ (l2tpXmitSkb call.env flow call.skb call.hdrLen).1) flow

/-- The packets given to the network in a run. -/
def packetsDuring (flow : Flow n) (calls : List (XmitCall n)) : List (List UInt8) :=
  (sentPackets (xmitRun flow calls).log).drop (sentPackets flow.log).length

/-- The sequence numbers in these packets. -/
def numbersDuring (flow : Flow n) (calls : List (XmitCall n)) : List ℕ :=
  (packetsDuring flow calls).filterMap (packetNumber flow.tunnel flow.session)

/-- What a call does with the next number. A frame is dropped without one if there is no memory for
its header. One that is dropped because the tunnel socket is in use loses it, and so does a packet
that ends before its number, which the header length of the session rules out. -/
def XmitCall.slip (tunnel : L2tpTunnel n) (session : L2tpSession n) (call : XmitCall n) : Slip :=
  if call.env.cowHead.isNone then .kept
  else if call.env.ownedByUser then .lost
  else if numberOffset tunnel session + session.buildHeader.numberSize ≤
      call.hdrLen + call.skb.len then .shown
  else .lost

/-- The number after the next one. -/
theorem toNat_nextNs {session : L2tpSession n} (hputs : PutsNumbers session) :
    (nextNs session).toNat ≡ session.ns.toNat + 1 [MOD session.buildHeader.space] := by
  have hcount (bits : ℕ) (hbits : bits ≤ 32) (mask : UInt32)
      (hmask : mask.toNat = 2 ^ bits - 1) :
      ((session.ns + 1) &&& mask).toNat ≡ session.ns.toNat + 1 [MOD 2 ^ bits] := by
    have hone : UInt32.toNat 1 = 1 := rfl
    rw [UInt32.toNat_and, hmask, Nat.and_two_pow_sub_one_eq_mod, UInt32.toNat_add, hone]
    exact (Nat.mod_modEq _ _).trans ((Nat.mod_modEq _ _).of_dvd (Nat.pow_dvd_pow 2 hbits))
  unfold nextNs
  cases hbuilder : session.buildHeader with
  | l2tpBuildL2tpv2Header =>
    dsimp only
    rw [if_pos hputs.sendSeq]
    exact hcount 16 (by decide) _ rfl
  | l2tpBuildL2tpv3Header =>
    obtain ⟨hlen, htype⟩ := hputs.word hbuilder
    dsimp only
    rw [if_pos ⟨hlen, htype, hputs.sendSeq⟩]
    exact hcount 24 (by decide) _ rfl

/-- The number that a call shows. -/
theorem numbers_xmitPackets {flow : Flow n} (hputs : PutsNumbers flow.session)
    (call : XmitCall n) :
    (xmitPackets call.env flow call.skb call.hdrLen).filterMap
        (packetNumber flow.tunnel flow.session) =
      if call.slip flow.tunnel flow.session = .shown then
        [flow.session.ns.toNat % flow.session.buildHeader.space]
      else [] := by
  unfold xmitPackets XmitCall.slip
  cases hcow : skbCowHead call.env.cowHead call.skb
    (call.env.netSkbPad + iphdrSize + uhlen flow.tunnel + call.hdrLen) with
  | none =>
    have hnone : call.env.cowHead = none := Option.map_eq_none_iff.mp hcow
    rw [hnone]
    rfl
  | some roomy =>
    have hsome : call.env.cowHead.isNone = false := by
      obtain ⟨fresh, hfresh, -⟩ := Option.map_eq_some_iff.mp hcow
      rw [hfresh]
      rfl
    obtain ⟨hroom, hdata, -⟩ := skbCowHead_eq hcow
    have hlen : roomy.len = call.skb.len := by rw [SkBuff.len, hdata, SkBuff.len]
    rw [hsome, if_neg Bool.false_ne_true]
    dsimp only
    by_cases howned : call.env.ownedByUser = true
    · rw [if_pos howned, if_pos howned, if_neg (by decide)]
      rfl
    · rw [if_neg howned, if_neg howned, List.filterMap_cons,
        packetNumber_xmitPacket call.env hputs (by omega), hlen]
      by_cases hlong : numberOffset flow.tunnel flow.session +
          flow.session.buildHeader.numberSize ≤ call.hdrLen + call.skb.len
      · rw [if_pos hlong, if_pos hlong, if_pos rfl]
        rfl
      · rw [if_neg hlong, if_neg hlong, if_neg (by decide)]
        rfl

/-- A call takes a number unless it keeps it. -/
theorem nsAfterXmit_modEq {session : L2tpSession n} (hputs : PutsNumbers session)
    (tunnel : L2tpTunnel n) (call : XmitCall n) :
    (nsAfterXmit call.env session).toNat ≡
      session.ns.toNat + (if call.slip tunnel session = .kept then 0 else 1)
        [MOD session.buildHeader.space] := by
  unfold nsAfterXmit XmitCall.slip
  cases hcow : call.env.cowHead with
  | none => exact Nat.ModEq.refl _
  | some fresh =>
    rw [Option.isSome_some, if_pos rfl, Option.isNone_some, if_neg Bool.false_ne_true]
    have htaken : ((if call.env.ownedByUser = true then Slip.lost
        else if numberOffset tunnel session + session.buildHeader.numberSize ≤
          call.hdrLen + call.skb.len then .shown else .lost) = .kept) = False := by
      split_ifs <;> simp
    rw [if_neg (of_eq_false htaken)]
    exact toNat_nextNs hputs

/-- The numbers in the packets of a run, counted on from `session->ns`. -/
theorem numbers_xmitRun {flow : Flow n} (hputs : PutsNumbers flow.session)
    (calls : List (XmitCall n)) :
    ∃ packets, sentPackets (xmitRun flow calls).log = sentPackets flow.log ++ packets ∧
      packets.filterMap (packetNumber flow.tunnel flow.session) =
        shownNumbers flow.session.buildHeader.space flow.session.ns.toNat
          (calls.map (XmitCall.slip flow.tunnel flow.session)) := by
  induction calls generalizing flow with
  | nil => exact ⟨[], (List.append_nil _).symm, rfl⟩
  | cons call calls ih =>
    obtain ⟨⟨stats, htunnel⟩, ⟨counters, hsession⟩, hpackets⟩ :=
      transmits_l2tpXmitSkb call.env flow call.skb call.hdrLen
    have hputs' : PutsNumbers (l2tpXmitSkb call.env flow call.skb call.hdrLen).1.session := by
      rw [hsession]
      exact ⟨hputs.sendSeq, hputs.word⟩
    obtain ⟨packets, hrest, hnumbers⟩ := ih hputs'
    refine ⟨xmitPackets call.env flow call.skb call.hdrLen ++ packets, ?_, ?_⟩
    · rw [← List.append_assoc, ← hpackets]
      exact hrest
    · have hcount := shownNumbers_congr (nsAfterXmit_modEq hputs flow.tunnel call)
        (calls.map (XmitCall.slip flow.tunnel flow.session))
      rw [htunnel, hsession] at hnumbers
      rw [List.filterMap_append, numbers_xmitPackets hputs, List.map_cons, shownNumbers_cons,
        ← hcount]
      exact congrArg _ hnumbers

/-- The sequence numbers in the packets that reach `l2tp_xmit_core` are consecutive exactly if
between any two of them that follow each other the number of frames that are dropped with a number
is a multiple of the sequence space. Assumes: the session puts sequence numbers into its headers. -/
theorem sent_numbers_consecutive_iff {flow : Flow n} (hputs : PutsNumbers flow.session)
    (calls : List (XmitCall n)) :
    Consecutive flow.session.buildHeader.space (numbersDuring flow calls) ↔
      LosesWholeRounds flow.session.buildHeader.space
        (calls.map (XmitCall.slip flow.tunnel flow.session)) := by
  obtain ⟨packets, hpackets, hnumbers⟩ := numbers_xmitRun hputs calls
  rw [numbersDuring, packetsDuring, hpackets, List.drop_left, hnumbers]
  exact consecutive_shownNumbers_iff _ _

/-- A frame of the session `ethFlow 4` that is to be sent. -/
def ethXmitCall (memory ownedByUser : Bool) : XmitCall 1 where
  env :=
    { idleXmitEnv cpu0 with
      cowHead := if memory then some fun _ ↦ 0 else none
      ownedByUser }
  skb := ethSkb
  hdrLen := (ethFlow 4).session.hdrLen.toNat

/-- The second frame finds no memory and gets no number: no number is lost, and the two that are
sent follow each other. -/
theorem sent_numbers_consecutive_cowFails :
    PutsNumbers (ethFlow 4).session ∧ LosesWholeRounds (2 ^ 24) [.shown, .kept, .shown] ∧
      Consecutive (2 ^ 24) (numbersDuring (ethFlow 4)
        [ethXmitCall true false, ethXmitCall false false, ethXmitCall true false]) := by
  have hputs : PutsNumbers (ethFlow 4).session := ⟨rfl, fun _ ↦ by decide⟩
  have hrounds : LosesWholeRounds (2 ^ 24) [.shown, .kept, .shown] := by
    intro front middle back hsplit _
    have hlost : .lost ∉ middle := by
      intro hmem
      have hslip : Slip.lost ∈ [Slip.shown, .kept, .shown] := by
        rw [hsplit]
        simp [hmem]
      exact absurd hslip (by decide)
    rw [List.count_eq_zero_of_not_mem hlost]
    exact dvd_zero _
  exact ⟨hputs, hrounds, (sent_numbers_consecutive_iff hputs
    [ethXmitCall true false, ethXmitCall false false, ethXmitCall true false]).mpr hrounds⟩

/-- The owner of the tunnel socket costs the second frame its packet and the peer its number. -/
theorem not_consecutive_ownedByUser :
    numbersDuring (ethFlow 4)
        [ethXmitCall true false, ethXmitCall true true, ethXmitCall true false] = [0, 2] ∧
      ¬ Consecutive (2 ^ 24) (numbersDuring (ethFlow 4)
        [ethXmitCall true false, ethXmitCall true true, ethXmitCall true false]) := by
  decide +kernel

end KernelModules.L2tp
