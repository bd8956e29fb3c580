import KernelModules.Foundations.PartialSums
import KernelModules.L2tp.Input
import KernelModules.L2tp.IpBindings
import KernelModules.L2tp.Transmit

/-!
# The UDP checksum

`l2tp_xmit_skb` puts a checksum into the UDP header, or leaves it to the device, or does without;
`l2tp_verify_udp_checksum` checks it at the other end, before anything else is done with the packet.
The two sides compute it along different ways: the sender from the addresses of its socket, in one
go or in two if the device completes it, with zero replaced by `CSUM_MANGLED_0`; the receiver from
the addresses of *its* socket over IPv4 and from those of the packet over IPv6, from a sum that the
device has taken or from the bytes. A checksum of zero means over IPv4 that there is none, and over
IPv6 that the packet is refused.

What decides at either end is one natural number, the sum of the words of the pseudo header and the
packet modulo 65535. The packets of a peer pass the check whatever way the checksum takes
(`sent_packets_verify`), and a packet one word of which has changed on its way does not, up to what
such a sum cannot see (`changed_word_verifies_iff`).

In between, the packet is an `RxSkb`: the buffer, what the device says about the checksum
(`skb->ip_summed` and `skb->csum`) and the addresses in the IPv6 header.
-/

set_option autoImplicit false
set_option relaxedAutoImplicit false

namespace KernelModules.L2tp

open Foundations

variable {n : ℕ}

/-! ### Pseudo headers -/

/-- `IPPROTO_UDP`. -/
def ipprotoUdp : UInt32 := 17

/-- `CSUM_MANGLED_0`. -/
def csumMangled0 : UInt16 := 0xffff

/-- `addr->s6_addr32`. -/
def s6Addr32 (addr : In6Addr) : List UInt32 :=
  [addr >>> 96, addr >>> 64, addr >>> 32, addr].map fun word ↦ UInt32.ofNat word.toNat

/-- `csum_tcpudp_nofold`. -/
def csumTcpudpNofold (saddr daddr : UInt32) (len : UInt16) (proto sum : UInt32) : UInt32 :=
  [saddr, daddr, proto + len.toUInt32].foldl csumAdd sum

/-- `csum_tcpudp_magic`. -/
def csumTcpudpMagic (saddr daddr : UInt32) (len : UInt16) (proto sum : UInt32) : UInt16 :=
  csumFold (csumTcpudpNofold saddr daddr len proto sum)

/-- `csum_ipv6_magic`. -/
def csumIpv6Magic (saddr daddr : In6Addr) (len proto sum : UInt32) : UInt16 :=
  csumFold ((s6Addr32 saddr ++ s6Addr32 daddr ++ [len, proto]).foldl csumAdd sum)

/-! ### Sockets and buffers -/

/-- `sk->sk_no_check`. -/
inductive SkNoCheck
  | udpCsumDefault
  | udpCsumNoxmit
  | udpCsumNorcv
  deriving DecidableEq, Repr

/-- `skb->ip_summed`. -/
inductive IpSummed
  | checksumNone
  | checksumUnnecessary
  | checksumComplete
  | checksumPartial
  deriving DecidableEq, Repr

/-- What the checksum code reads of the tunnel and its socket. -/
structure UdpSock where
  skNoCheck : SkNoCheck
  skFamily : AddressFamily
  v4mapped : Bool
  inetSaddr : UInt32
  inetDaddr : UInt32
  npSaddr : In6Addr
  skV6Daddr : In6Addr

/-- `sk->sk_family == PF_INET6 && !tunnel->v4mapped`. -/
def UdpSock.isIpv6 (sk : UdpSock) : Bool := sk.skFamily = .inet6 && !sk.v4mapped

/-- What the device of a route can do for a packet, `NETIF_F_V4_CSUM` and `NETIF_F_IPV6_CSUM`. -/
structure DstFeatures where
  v4Csum : Bool
  ipv6Csum : Bool

/-- A received packet. -/
structure RxSkb where
  skb : SkBuff
  ipSummed : IpSummed
  csum : UInt32
  saddr : In6Addr
  daddr : In6Addr

/-! ### Sending -/

/-- A checksum that has to be there. -/
def csumMangled (check : UInt16) : UInt16 := if check = 0 then csumMangled0 else check

/-- `l2tp_xmit_ipv6_csum`: the checksum of a packet that still has zero there, and
`skb->ip_summed`. -/
def l2tpXmitIpv6Csum (sk : UdpSock) (dst : Option DstFeatures) (udp : List UInt8) :
    UInt16 × IpSummed :=
  let udpLen := UInt32.ofNat udp.length
  if !dst.any (·.ipv6Csum) then
    (csumMangled (csumIpv6Magic sk.npSaddr sk.skV6Daddr udpLen ipprotoUdp (skbChecksum udp 0)),
      .checksumUnnecessary)
  else (~~~csumIpv6Magic sk.npSaddr sk.skV6Daddr udpLen ipprotoUdp 0, .checksumPartial)

/-- The checksum that `l2tp_xmit_skb` puts into the UDP header. Without a route to a device the
checksum is left to be completed over IPv4, but not over IPv6. -/
def l2tpXmitUdpCsum (sk : UdpSock) (dst : Option DstFeatures) (udp : List UInt8) :
    UInt16 × IpSummed :=
  let udpLen := UInt16.ofNat udp.length
  if sk.isIpv6 then l2tpXmitIpv6Csum sk dst udp
  else if sk.skNoCheck = .udpCsumNoxmit then (0, .checksumNone)
  else if dst.any (!·.v4Csum) then
    (csumMangled (csumTcpudpMagic sk.inetSaddr sk.inetDaddr udpLen ipprotoUdp (skbChecksum udp 0)),
      .checksumComplete)
  else (~~~csumTcpudpMagic sk.inetSaddr sk.inetDaddr udpLen ipprotoUdp 0, .checksumPartial)

/-- The UDP header of `l2tp_xmit_skb`, with the checksum. -/
def pushUdpHeaderCsum (sk : UdpSock) (dst : Option DstFeatures) (env : XmitEnv n) (skb : SkBuff) :
    SkBuff × IpSummed :=
  let skb := pushUdpHeader { env with check := 0 } skb
  let (check, ipSummed) := l2tpXmitUdpCsum sk dst skb.data
  ({ skb with data := writeAt skb.data 6 (be16 check) }, ipSummed)

/-- `l2tp_xmit_skb`, with the checksum. The packet that is given to the network comes with its
`skb->ip_summed`, which is the frame's own over IP. -/
def l2tpXmitSkbCsum (sk : UdpSock) (dst : Option DstFeatures) (env : XmitEnv n)
    (ipSummed : IpSummed) (flow : Flow n) (skb : SkBuff) (hdrLen : ℕ) :
    Flow n × Option (SkBuff × IpSummed) :=
  let uhlen := if flow.tunnel.encap = .udp then udphdrSize else 0
  match skbCowHead env.cowHead skb (env.netSkbPad + iphdrSize + uhlen + hdrLen) with
  | none => (flow.emit (.kfreeSkb skb), none)
  | some skb =>
    let (flow, skb) := pushHeader flow skb hdrLen
    if env.ownedByUser then (flow.emit (.kfreeSkb skb), none)
    else
      let (skb, ipSummed) :=
        if flow.tunnel.encap = .udp then pushUdpHeaderCsum sk dst env skb else (skb, ipSummed)
      (l2tpXmitCore env flow skb, some (skb, ipSummed))

/-- The packet on the wire: a checksum that was left to the device has been completed, by a device
that replaces zero or by one that does not. -/
def completedBytes (mangles : Bool) (ipSummed : IpSummed) (udp : List UInt8) : List UInt8 :=
  if ipSummed = .checksumPartial then
    let check := csumFold (skbChecksum udp 0)
    writeAt udp 6 (be16 (if mangles then csumMangled check else check))
  else udp

/-- What becomes of a packet that has zero in the place of the checksum. -/
def sentUdp (sk : UdpSock) (dst : Option DstFeatures) (mangles : Bool) (udp : List UInt8) :
    List UInt8 :=
  completedBytes mangles (l2tpXmitUdpCsum sk dst udp).2
    (writeAt udp 6 (be16 (l2tpXmitUdpCsum sk dst udp).1))

/-! ### Receiving -/

/-- `skb_csum_unnecessary`, a test of the bit that `CHECKSUM_UNNECESSARY` and `CHECKSUM_PARTIAL`
have in common. -/
def skbCsumUnnecessary (ipSummed : IpSummed) : Bool :=
  ipSummed = .checksumUnnecessary || ipSummed = .checksumPartial

/-- `__skb_checksum_complete`. -/
def skbChecksumComplete (rx : RxSkb) : UInt16 × RxSkb :=
  let sum := csumFold (skbChecksum rx.skb.data rx.csum)
  (sum, if sum = 0 then { rx with ipSummed := .checksumUnnecessary } else rx)

/-- `l2tp_verify_udp_checksum`. -/
def l2tpVerifyUdpChecksum (sk : UdpSock) (rx : RxSkb) : UInt16 × RxSkb :=
  let ulen := be16At rx.skb.mem 4
  let check := be16At rx.skb.mem 6
  if sk.skNoCheck ≠ .udpCsumDefault || skbCsumUnnecessary rx.ipSummed then (0, rx)
  else if sk.isIpv6 then
    if check = 0 then (1, rx)
    else if rx.ipSummed = .checksumComplete &&
        csumIpv6Magic rx.saddr rx.daddr ulen.toUInt32 ipprotoUdp rx.csum = 0 then
      (0, { rx with ipSummed := .checksumUnnecessary })
    else
      skbChecksumComplete
        { rx with
          csum := ~~~csumUnfold
            (csumIpv6Magic rx.saddr rx.daddr (UInt32.ofNat rx.skb.len) ipprotoUdp 0) }
  else if check = 0 then (0, rx)
  else
    let psum := csumTcpudpNofold sk.inetSaddr sk.inetDaddr ulen ipprotoUdp 0
    if rx.ipSummed = .checksumComplete && csumFold (csumAdd psum rx.csum) = 0 then (0, rx)
    else skbChecksumComplete { rx with csum := psum }

/-- `l2tp_udp_recv_core`, with its check of the checksum. -/
def l2tpUdpRecvCsum (hash : SessionHash) (net : L2tpNet n) (env : Env n) (sk : UdpSock) (t : ℕ)
    (rx : RxSkb) : L2tpNet n × UdpOutcome :=
  l2tpUdpRecvCore hash net env ((l2tpVerifyUdpChecksum sk rx).1 ≠ 0) t rx.skb

/-! ### What is summed up -/

/-- The words of the pseudo header over IPv4. -/
def pseudo4 (saddr daddr : UInt32) (len : ℕ) : ℕ :=
  saddr.toNat + daddr.toNat + (17 + len % 65536)

/-- The words of the pseudo header over IPv6. -/
def pseudo6 (saddr daddr : In6Addr) (len : ℕ) : ℕ :=
  ((s6Addr32 saddr ++ s6Addr32 daddr).map UInt32.toNat).sum + (17 + len % 2 ^ 32)

theorem onesFold_csumTcpudpNofold (saddr daddr : UInt32) (len : UInt16) (sum : UInt32) :
    onesFold (csumTcpudpNofold saddr daddr len ipprotoUdp sum).toNat =
      onesFold (pseudo4 saddr daddr len.toNat + sum.toNat) := by
  have hlen := len.toNat_lt
  have hlast : (ipprotoUdp + len.toUInt32).toNat = 17 + len.toNat := by
    rw [UInt32.toNat_add, UInt16.toNat_toUInt32, show ipprotoUdp.toNat = 17 from rfl]
    omega
  rw [csumTcpudpNofold, onesFold_foldl_csumAdd, pseudo4]
  congr 1
  simp only [List.map_cons, List.map_nil, List.sum_cons, List.sum_nil, hlast]
  omega

theorem toNat_csumIpv6Magic (saddr daddr : In6Addr) (len sum : UInt32) :
    (csumIpv6Magic saddr daddr len ipprotoUdp sum).toNat =
      65535 - onesFold (pseudo6 saddr daddr len.toNat + sum.toNat) := by
  have hlen := len.toNat_lt
  rw [csumIpv6Magic, toNat_csumFold, onesFold_foldl_csumAdd, pseudo6, List.map_append,
    List.sum_append]
  congr 2
  simp only [List.map_cons, List.map_nil, List.sum_cons, List.sum_nil,
    show ipprotoUdp.toNat = 17 from rfl]
  omega

/-- The words of the pseudo header that a socket sends with. -/
def UdpSock.pseudo (sk : UdpSock) (len : ℕ) : ℕ :=
  if sk.isIpv6 then pseudo6 sk.npSaddr sk.skV6Daddr len else pseudo4 sk.inetSaddr sk.inetDaddr len

/-! ### Checksums of sent packets -/

theorem csumMangled_ne_zero (check : UInt16) : csumMangled check ≠ 0 := by
  unfold csumMangled
  split_ifs with hzero
  · decide
  · exact hzero

/-- The complement of a sum makes it a multiple of 65535, and so does `CSUM_MANGLED_0` in its
place. -/
theorem add_csumMangled {sum : ℕ} {check : UInt16} (hcheck : check.toNat = 65535 - onesFold sum) :
    (sum + check.toNat) % 65535 = 0 ∧ (sum + (csumMangled check).toNat) % 65535 = 0 := by
  have hfold : (sum + (65535 - onesFold sum)) % 65535 = 0 := by
    rw [onesFold]
    split_ifs <;> omega
  refine ⟨by rwa [hcheck], ?_⟩
  unfold csumMangled
  split_ifs with hzero
  · rw [hzero, UInt16.toNat_zero] at hcheck
    rw [← hcheck] at hfold
    rw [show csumMangled0.toNat = 65535 from rfl]
    omega
  · rwa [hcheck]

/-- The ways a checksum takes: there is none, the sender computes it, or it leaves the sum of the
pseudo header for the device to go on from. -/
inductive Checksummed (sk : UdpSock) (dst : Option DstFeatures) (udp : List UInt8) :
    UInt16 × IpSummed → Prop
  | without (hfamily : sk.isIpv6 = false) : Checksummed sk dst udp (0, .checksumNone)
  | computed (check : UInt16) {ipSummed : IpSummed} (hsummed : ipSummed ≠ .checksumPartial)
      (hcheck : check.toNat = 65535 - onesFold (sk.pseudo udp.length + wordSum udp)) :
      Checksummed sk dst udp (csumMangled check, ipSummed)
  | completed {part : UInt16} (hdst : sk.isIpv6 = true → dst.any (·.ipv6Csum) = true)
      (hpart : part.toNat = onesFold (sk.pseudo udp.length)) :
      Checksummed sk dst udp (part, .checksumPartial)

theorem pseudo4_toNat_ofNat (saddr daddr : UInt32) (len : ℕ) :
    pseudo4 saddr daddr (UInt16.ofNat len).toNat = pseudo4 saddr daddr len := by
  rw [pseudo4, pseudo4, UInt16.toNat_ofNat', Nat.mod_mod]

theorem pseudo6_toNat_ofNat (saddr daddr : In6Addr) (len : ℕ) :
    pseudo6 saddr daddr (UInt32.ofNat len).toNat = pseudo6 saddr daddr len := by
  rw [pseudo6, pseudo6, UInt32.toNat_ofNat', Nat.mod_mod]

/-- The complement of a checksum is the sum. -/
theorem toNat_not_of_complement {check : UInt16} {sum : ℕ}
    (hcheck : check.toNat = 65535 - onesFold sum) : (~~~check).toNat = onesFold sum := by
  have hle := onesFold_le sum
  have hsize : UInt16.size = 65536 := rfl
  rw [UInt16.toNat_not, hsize, hcheck]
  omega

theorem l2tpXmitUdpCsum_checksummed (sk : UdpSock) (dst : Option DstFeatures) (udp : List UInt8) :
    Checksummed sk dst udp (l2tpXmitUdpCsum sk dst udp) := by
  by_cases hfamily : sk.isIpv6 = true
  · have hmagic := toNat_csumIpv6Magic sk.npSaddr sk.skV6Daddr (UInt32.ofNat udp.length)
    have hpseudo : sk.pseudo udp.length = pseudo6 sk.npSaddr sk.skV6Daddr udp.length :=
      if_pos hfamily
    simp only [pseudo6_toNat_ofNat, ← hpseudo] at hmagic
    rw [l2tpXmitUdpCsum, if_pos hfamily, l2tpXmitIpv6Csum]
    by_cases hdst : dst.any (·.ipv6Csum) = true
    · rw [if_neg (by simp [hdst])]
      exact .completed (fun _ ↦ hdst) (toNat_not_of_complement (hmagic 0))
    · rw [if_pos (by simpa using hdst)]
      refine .computed _ (by decide) ?_
      rw [hmagic, onesFold_add, onesFold_skbChecksum, UInt32.toNat_zero, Nat.zero_add,
        ← onesFold_add]
  · have hmagic (sum : UInt32) := toNat_csumFold
      (csumTcpudpNofold sk.inetSaddr sk.inetDaddr (UInt16.ofNat udp.length) ipprotoUdp sum)
    have hpseudo : sk.pseudo udp.length = pseudo4 sk.inetSaddr sk.inetDaddr udp.length :=
      if_neg hfamily
    simp only [onesFold_csumTcpudpNofold, pseudo4_toNat_ofNat, ← hpseudo] at hmagic
    rw [l2tpXmitUdpCsum, if_neg hfamily]
    by_cases hnoxmit : sk.skNoCheck = .udpCsumNoxmit
    · rw [if_pos hnoxmit]
      exact .without (by simpa using hfamily)
    · rw [if_neg hnoxmit]
      by_cases hdst : dst.any (!·.v4Csum) = true
      · rw [if_pos hdst]
        refine .computed _ (by decide) ?_
        rw [csumTcpudpMagic, hmagic, onesFold_add, onesFold_skbChecksum, UInt32.toNat_zero,
          Nat.zero_add, ← onesFold_add]
      · rw [if_neg hdst]
        exact .completed (fun hipv6 ↦ absurd hipv6 hfamily) (toNat_not_of_complement (hmagic 0))

section Sent

variable {udp : List UInt8} (hudp : udphdrSize ≤ udp.length) (hzero : be16At udp 6 = 0)
include hudp hzero

theorem wordSum_check (check : UInt16) :
    wordSum (writeAt udp 6 (be16 check)) = wordSum udp + check.toNat := by
  have hsum : wordSum (writeAt udp 6 (be16 check)) + (be16At udp 6).toNat =
      wordSum udp + check.toNat := wordSum_writeAt (k := 3) hudp check
  rwa [hzero, UInt16.toNat_zero, Nat.add_zero] at hsum

/-- A checksum that the sender computes. -/
theorem sum_computed {pseudo : ℕ} {check : UInt16}
    (hcheck : check.toNat = 65535 - onesFold (pseudo + wordSum udp)) :
    (pseudo + wordSum (writeAt udp 6 (be16 (csumMangled check)))) % 65535 = 0 := by
  rw [wordSum_check hudp hzero, ← Nat.add_assoc]
  exact (add_csumMangled hcheck).2

/-- A checksum that the device completes: the sender leaves the sum of the pseudo header in its
place. -/
theorem sum_completed (mangles : Bool) {pseudo : ℕ} {part : UInt16}
    (hpart : part.toNat = onesFold pseudo) :
    (pseudo + wordSum (completedBytes mangles .checksumPartial (writeAt udp 6 (be16 part)))) %
      65535 = 0 := by
  have hfold : onesFold (wordSum (writeAt udp 6 (be16 part))) =
      onesFold (wordSum udp + pseudo) := by
    rw [wordSum_check hudp hzero, onesFold_add, onesFold_add, hpart,
      onesFold_of_le (onesFold_le pseudo)]
  have hcheck := toNat_csumFold (skbChecksum (writeAt udp 6 (be16 part)) 0)
  rw [onesFold_skbChecksum, UInt32.toNat_zero, Nat.zero_add, hfold] at hcheck
  have hwritten (check : UInt16) :
      wordSum (writeAt (writeAt udp 6 (be16 part)) 6 (be16 check)) = wordSum udp + check.toNat := by
    have hsum : wordSum (writeAt (writeAt udp 6 (be16 part)) 6 (be16 check)) +
        (be16At (writeAt udp 6 (be16 part)) 6).toNat =
          wordSum (writeAt udp 6 (be16 part)) + check.toNat :=
      wordSum_writeAt (k := 3) (by rwa [length_writeAt]) check
    rw [be16At_writeAt_be16 hudp, wordSum_check hudp hzero] at hsum
    omega
  have hadd := add_csumMangled hcheck
  rw [Nat.add_comm (wordSum udp) pseudo, Nat.add_assoc, Nat.add_assoc] at hadd
  unfold completedBytes
  rw [if_pos rfl]
  dsimp only
  rw [hwritten]
  cases mangles with
  | true => exact hadd.2
  | false => exact hadd.1

/-- What `l2tp_xmit_skb` sends has the right checksum, or none over IPv4. -/
theorem sum_sentUdp (sk : UdpSock) (dst : Option DstFeatures) (mangles : Bool) :
    sk.isIpv6 = false ∧ be16At (sentUdp sk dst mangles udp) 6 = 0 ∨
      (sk.pseudo udp.length + wordSum (sentUdp sk dst mangles udp)) % 65535 = 0 := by
  have hsent := l2tpXmitUdpCsum_checksummed sk dst udp
  rw [sentUdp]
  generalize l2tpXmitUdpCsum sk dst udp = sent at hsent ⊢
  cases hsent with
  | without hfamily =>
    left
    rw [completedBytes, if_neg (by decide), be16At_writeAt_be16 hudp]
    exact ⟨hfamily, rfl⟩
  | computed check hsummed hcheck =>
    right
    rw [completedBytes, if_neg hsummed]
    exact sum_computed hudp hzero hcheck
  | completed hdst hpart => exact .inr (sum_completed hudp hzero mangles hpart)

end Sent

/-- A checksum that is zero is not sent over IPv6, unless the device has made it so. -/
theorem check_sentUdp_ne_zero {udp : List UInt8} (hudp : udphdrSize ≤ udp.length) {sk : UdpSock}
    {dst : Option DstFeatures} {mangles : Bool} (hfamily : sk.isIpv6 = true)
    (hdevice : dst.any (·.ipv6Csum) = true → mangles = true) :
    be16At (sentUdp sk dst mangles udp) 6 ≠ 0 := by
  have hsent := l2tpXmitUdpCsum_checksummed sk dst udp
  rw [sentUdp]
  generalize l2tpXmitUdpCsum sk dst udp = sent at hsent ⊢
  cases hsent with
  | without hipv4 => simp [hfamily] at hipv4
  | computed check hsummed hcheck =>
    rw [completedBytes, if_neg hsummed, be16At_writeAt_be16 hudp]
    exact csumMangled_ne_zero _
  | completed hdst hpart =>
    rw [completedBytes, if_pos rfl, hdevice (hdst hfamily)]
    dsimp only
    rw [if_pos rfl, be16At_writeAt_be16 (by rwa [length_writeAt])]
    exact csumMangled_ne_zero _

/-! ### What is verified -/

/-- A packet whose checksum is looked at. -/
structure Verifies (sk : UdpSock) (rx : RxSkb) : Prop where
  default : sk.skNoCheck = .udpCsumDefault
  unverified : skbCsumUnnecessary rx.ipSummed = false

/-- A sum that comes with the packet is that of its bytes. -/
def Truthful (rx : RxSkb) : Prop :=
  rx.ipSummed = .checksumComplete → csumFold rx.csum = csumFold (skbChecksum rx.skb.data 0)

theorem Truthful.onesFold_csum {rx : RxSkb} (htrue : Truthful rx)
    (hcomplete : rx.ipSummed = .checksumComplete) :
    onesFold rx.csum.toNat = onesFold (wordSum rx.skb.data) := by
  have hcsum := congrArg UInt16.toNat (htrue hcomplete)
  have hle := onesFold_le rx.csum.toNat
  have hle' := onesFold_le (wordSum rx.skb.data)
  rw [toNat_csumFold, toNat_csumFold, onesFold_skbChecksum, UInt32.toNat_zero, Nat.zero_add]
    at hcsum
  omega

/-- The answer of `__skb_checksum_complete`, by the sum that is in `skb->csum`. -/
theorem skbChecksumComplete_eq_zero_iff {rx : RxSkb} {pseudo : ℕ} (hpseudo : 0 < pseudo)
    (hcsum : onesFold rx.csum.toNat = onesFold pseudo) :
    (skbChecksumComplete rx).1 = 0 ↔ (pseudo + wordSum rx.skb.data) % 65535 = 0 := by
  have hfold : onesFold (rx.csum.toNat + wordSum rx.skb.data) =
      onesFold (pseudo + wordSum rx.skb.data) := by
    rw [onesFold_add, hcsum, ← onesFold_add]
  rw [skbChecksumComplete, csumFold_eq_zero_iff, onesFold_skbChecksum, hfold, onesFold_eq_iff]
  exact and_iff_right (by omega)

theorem Verifies.not_skipped {sk : UdpSock} {rx : RxSkb} (hverifies : Verifies sk rx) :
    ¬(sk.skNoCheck ≠ .udpCsumDefault || skbCsumUnnecessary rx.ipSummed) = true := by
  simp [hverifies.default, hverifies.unverified]

theorem verify_ipv4_iff {sk : UdpSock} {rx : RxSkb} (hverifies : Verifies sk rx)
    (hfamily : sk.isIpv6 = false) (htrue : Truthful rx) :
    (l2tpVerifyUdpChecksum sk rx).1 = 0 ↔
      be16At rx.skb.mem 6 = 0 ∨
        (pseudo4 sk.inetSaddr sk.inetDaddr (be16At rx.skb.mem 4).toNat + wordSum rx.skb.data) %
          65535 = 0 := by
  set pseudo := pseudo4 sk.inetSaddr sk.inetDaddr (be16At rx.skb.mem 4).toNat with hpseudo
  have hpos : 0 < pseudo := by
    rw [hpseudo, pseudo4]
    omega
  have hpsum := onesFold_csumTcpudpNofold sk.inetSaddr sk.inetDaddr (be16At rx.skb.mem 4) 0
  rw [UInt32.toNat_zero, Nat.add_zero, ← hpseudo] at hpsum
  rw [l2tpVerifyUdpChecksum, if_neg hverifies.not_skipped, if_neg (by simp [hfamily])]
  by_cases hcheck : be16At rx.skb.mem 6 = 0
  · simp [hcheck]
  · rw [if_neg hcheck, or_iff_right hcheck]
    dsimp only
    split_ifs with hsummed
    · rw [Bool.and_eq_true, decide_eq_true_iff, decide_eq_true_iff, csumFold_eq_zero_iff,
        onesFold_csumAdd, onesFold_add, hpsum] at hsummed
      rw [htrue.onesFold_csum hsummed.1, ← onesFold_add, onesFold_eq_iff] at hsummed
      exact iff_of_true rfl hsummed.2.2
    · exact skbChecksumComplete_eq_zero_iff hpos hpsum

/-- A sum that comes with the packet, over IPv6. -/
theorem Truthful.csumIpv6Magic_eq_zero_iff {rx : RxSkb} (htrue : Truthful rx)
    (hcomplete : rx.ipSummed = .checksumComplete) (len : UInt32) :
    csumIpv6Magic rx.saddr rx.daddr len ipprotoUdp rx.csum = 0 ↔
      (pseudo6 rx.saddr rx.daddr len.toNat + wordSum rx.skb.data) % 65535 = 0 := by
  have hpos : 0 < pseudo6 rx.saddr rx.daddr len.toNat + wordSum rx.skb.data := by
    rw [pseudo6]
    omega
  have hfold := onesFold_add (pseudo6 rx.saddr rx.daddr len.toNat) rx.csum.toNat
  rw [htrue.onesFold_csum hcomplete, ← onesFold_add] at hfold
  have hle := onesFold_le (pseudo6 rx.saddr rx.daddr len.toNat + wordSum rx.skb.data)
  have hiff : onesFold (pseudo6 rx.saddr rx.daddr len.toNat + wordSum rx.skb.data) = 65535 ↔ _ :=
    onesFold_eq_iff.trans (and_iff_right hpos)
  rw [← hiff, ← UInt16.toNat_inj, toNat_csumIpv6Magic, hfold, UInt16.toNat_zero]
  omega

/-- What is put into `skb->csum` over IPv6. -/
theorem onesFold_not_csumUnfold {check : UInt16} {pseudo : ℕ} (hpseudo : 0 < pseudo)
    (hcheck : check.toNat = 65535 - onesFold pseudo) :
    onesFold (~~~csumUnfold check).toNat = onesFold pseudo := by
  have hsize : UInt32.size = 4294967296 := rfl
  have hsum : (~~~csumUnfold check).toNat = 4294967295 - (65535 - onesFold pseudo) := by
    rw [UInt32.toNat_not, csumUnfold, UInt16.toNat_toUInt32, hcheck, hsize]
  rw [hsum, onesFold, onesFold]
  split_ifs <;> omega

theorem verify_ipv6_iff {sk : UdpSock} {rx : RxSkb} (hverifies : Verifies sk rx)
    (hfamily : sk.isIpv6 = true) (htrue : Truthful rx) :
    (l2tpVerifyUdpChecksum sk rx).1 = 0 ↔
      be16At rx.skb.mem 6 ≠ 0 ∧
        (rx.ipSummed = .checksumComplete ∧
            (pseudo6 rx.saddr rx.daddr (be16At rx.skb.mem 4).toNat + wordSum rx.skb.data) %
              65535 = 0 ∨
          (pseudo6 rx.saddr rx.daddr rx.skb.len + wordSum rx.skb.data) % 65535 = 0) := by
  rw [l2tpVerifyUdpChecksum, if_neg hverifies.not_skipped, if_pos hfamily]
  by_cases hcheck : be16At rx.skb.mem 6 = 0
  · simp [hcheck]
  · rw [if_neg hcheck, and_iff_right hcheck]
    have hmagic (hcomplete : rx.ipSummed = .checksumComplete) :=
      htrue.csumIpv6Magic_eq_zero_iff hcomplete (be16At rx.skb.mem 4).toUInt32
    simp only [UInt16.toNat_toUInt32] at hmagic
    split_ifs with hsummed
    · rw [Bool.and_eq_true, decide_eq_true_iff, decide_eq_true_iff] at hsummed
      exact iff_of_true rfl (.inl ⟨hsummed.1, (hmagic hsummed.1).mp hsummed.2⟩)
    · rw [Bool.and_eq_true, decide_eq_true_iff, decide_eq_true_iff] at hsummed
      have hpos : 0 < pseudo6 rx.saddr rx.daddr rx.skb.len := by
        rw [pseudo6]
        omega
      have hpsum := toNat_csumIpv6Magic rx.saddr rx.daddr (UInt32.ofNat rx.skb.len) 0
      rw [pseudo6_toNat_ofNat, UInt32.toNat_zero, Nat.add_zero] at hpsum
      rw [or_iff_right fun h ↦ hsummed ⟨h.1, (hmagic h.1).mpr h.2⟩]
      exact skbChecksumComplete_eq_zero_iff hpos (onesFold_not_csumUnfold hpos hpsum)

/-! ### Packets of a peer -/

/-- Two sockets that send to each other. -/
structure FacingSocks (sender receiver : UdpSock) : Prop where
  family : receiver.isIpv6 = sender.isIpv6
  saddr : receiver.inetSaddr = sender.inetDaddr
  daddr : receiver.inetDaddr = sender.inetSaddr

theorem be16At_mem {skb : SkBuff} {i : ℕ} (hi : i + 2 ≤ skb.data.length) :
    be16At skb.mem i = be16At skb.data i := by
  rw [be16At, be16At, SkBuff.mem, byteAt_append_left _ (by omega), byteAt_append_left _ (by omega)]

theorem length_sentUdp (sk : UdpSock) (dst : Option DstFeatures) (mangles : Bool)
    (udp : List UInt8) : (sentUdp sk dst mangles udp).length = udp.length := by
  rw [sentUdp, completedBytes]
  split_ifs <;> simp

theorem ulen_sentUdp (sk : UdpSock) (dst : Option DstFeatures) (mangles : Bool)
    (udp : List UInt8) : be16At (sentUdp sk dst mangles udp) 4 = be16At udp 4 := by
  rw [sentUdp, completedBytes]
  split
  · dsimp only
    rw [be16At_writeAt_of_disjoint _ (.inl le_rfl), be16At_writeAt_of_disjoint _ (.inl le_rfl)]
  · rw [be16At_writeAt_of_disjoint _ (.inl le_rfl)]

/-- The packet before the checksum is put in: a header with the length of the packet, and zero. -/
theorem pushUdpHeader_fields (env : XmitEnv n) {skb : SkBuff}
    (hroom : udphdrSize ≤ skb.head.length) :
    udphdrSize ≤ (pushUdpHeader env skb).data.length ∧
      be16At (pushUdpHeader env skb).data 4 = UInt16.ofNat (pushUdpHeader env skb).data.length ∧
      be16At (pushUdpHeader env skb).data 6 = env.check := by
  obtain ⟨front, region, -, hregion, hpush⟩ := skbPush_eq hroom
  set len := UInt16.ofNat (skb.skbPush udphdrSize).len with hlen
  have hlength : (skb.skbPush udphdrSize).len = (pushUdpHeader env skb).data.length := by
    rw [pushUdpHeader, length_writeAt, SkBuff.len]
  have hdata : (pushUdpHeader env skb).data =
      be16 env.sport ++ be16 env.dport ++ (be16 len ++ (be16 env.check ++ skb.data)) := by
    rw [pushUdpHeader, ← hlen, hpush]
    dsimp only
    rw [writeAt_zero _ (by rw [hregion]; rfl)]
    simp only [List.append_assoc]
  have hfront : (be16 env.sport ++ be16 env.dport).length = 4 := rfl
  refine ⟨?_, ?_, ?_⟩
  · rw [hdata]
    simp only [List.length_append, length_be16, udphdrSize]
    omega
  · rw [← hlength, ← hlen, hdata]
    exact (be16At_append_right _ _ 0).trans (be16At_be16 _ _)
  · rw [hdata, ← List.append_assoc]
    exact (be16At_append_right _ _ 0).trans (be16At_be16 _ _)

theorem pushUdpHeaderCsum_eq (sk : UdpSock) (dst : Option DstFeatures) (env : XmitEnv n)
    (skb : SkBuff) :
    ∃ check, (pushUdpHeaderCsum sk dst env skb).1 = pushUdpHeader { env with check } skb := by
  refine ⟨(l2tpXmitUdpCsum sk dst (pushUdpHeader { env with check := 0 } skb).data).1, ?_⟩
  have hwrite (data fields : List UInt8) (hfields : fields.length = 6) (check : UInt16) :
      writeAt (writeAt data 0 (fields ++ be16 0)) 6 (be16 check) =
        writeAt data 0 (fields ++ be16 check) := by
    rw [← writeAt_writeAt, ← writeAt_writeAt, hfields]
    exact writeAt_writeAt_same _ _ rfl
  simp only [pushUdpHeaderCsum]
  generalize (l2tpXmitUdpCsum sk dst (pushUdpHeader { env with check := 0 } skb).data).1 = check
  have hdata := hwrite (skb.skbPush udphdrSize).data (be16 env.sport ++ be16 env.dport ++
    be16 (UInt16.ofNat (skb.skbPush udphdrSize).len)) rfl check
  simp only [pushUdpHeader, hdata]

/-- With the checksum among what it finds, `l2tp_xmit_skb` does what it does when it computes it. -/
theorem l2tpXmitSkbCsum_eq (sk : UdpSock) (dst : Option DstFeatures) (env : XmitEnv n)
    (ipSummed : IpSummed) (flow : Flow n) (skb : SkBuff) (hdrLen : ℕ) :
    ∃ check, (l2tpXmitSkbCsum sk dst env ipSummed flow skb hdrLen).1 =
        (l2tpXmitSkb { env with check } flow skb hdrLen).1 := by
  unfold l2tpXmitSkbCsum l2tpXmitSkb
  dsimp only
  cases hcow : skbCowHead env.cowHead skb (env.netSkbPad + iphdrSize +
      (if flow.tunnel.encap = .udp then udphdrSize else 0) + hdrLen) with
  | none => exact ⟨0, rfl⟩
  | some roomy =>
    obtain ⟨check, hcheck⟩ := pushUdpHeaderCsum_eq sk dst env (pushHeader flow roomy hdrLen).2
    refine ⟨check, ?_⟩
    dsimp only
    split_ifs
    · rfl
    · rw [hcheck]
      rfl
    · rfl

/-- A packet that `l2tp_xmit_skb` gives to the network over UDP. -/
theorem l2tpXmitSkbCsum_packet {sk : UdpSock} {dst : Option DstFeatures} {env : XmitEnv n}
    {ipSummed : IpSummed} {flow : Flow n} {skb : SkBuff} {hdrLen : ℕ} {packet : SkBuff}
    {summed : IpSummed} (hudp : flow.tunnel.encap = .udp)
    (hsent : (l2tpXmitSkbCsum sk dst env ipSummed flow skb hdrLen).2 = some (packet, summed)) :
    ∃ udp, udphdrSize ≤ udp.length ∧ be16At udp 4 = UInt16.ofNat udp.length ∧
      be16At udp 6 = 0 ∧ packet.data = writeAt udp 6 (be16 (l2tpXmitUdpCsum sk dst udp).1) ∧
      summed = (l2tpXmitUdpCsum sk dst udp).2 := by
  unfold l2tpXmitSkbCsum at hsent
  dsimp only at hsent
  cases hcow : skbCowHead env.cowHead skb (env.netSkbPad + iphdrSize +
      (if flow.tunnel.encap = .udp then udphdrSize else 0) + hdrLen) with
  | none => simp [hcow] at hsent
  | some roomy =>
    have htunnel : (pushHeader flow roomy hdrLen).1.tunnel = flow.tunnel := rfl
    obtain ⟨hroom, -, -⟩ := skbCowHead_eq hcow
    rw [if_pos hudp] at hroom
    have hroomHeader : hdrLen ≤ roomy.head.length := by omega
    obtain ⟨front, region, hhead, hregion, -, hfront, -⟩ := data_pushHeader hroomHeader flow
    have hfrontLength : udphdrSize ≤ (pushHeader flow roomy hdrLen).2.head.length := by
      have hsplit := congrArg List.length hhead
      rw [List.length_append] at hsplit
      rw [hfront]
      omega
    obtain ⟨hlength, hulen, hcheck⟩ :=
      pushUdpHeader_fields { env with check := 0 } hfrontLength
    rw [hcow] at hsent
    simp only [htunnel, hudp, if_true] at hsent
    split_ifs at hsent with howned
    obtain ⟨rfl, rfl⟩ := Prod.mk.inj (Option.some.inj hsent)
    exact ⟨_, hlength, hulen, hcheck, rfl, rfl⟩

/-- A packet that passes the check does not bring the receiver down. -/
theorem not_oops_of_verifies {sk : UdpSock} {rx : RxSkb}
    (hpassed : (l2tpVerifyUdpChecksum sk rx).1 = 0) (hash : SessionHash) (net : L2tpNet n)
    (env : Env n) (t : ℕ) : (l2tpUdpRecvCsum hash net env sk t rx).2 ≠ .oops := by
  rw [l2tpUdpRecvCsum, l2tpUdpRecvCore, decide_eq_false (not_not_intro hpassed)]
  cases net.tunnels[t]? with
  | none => exact nofun
  | some tunnel =>
    dsimp only
    cases hverdict : udpRecvVerdict hash net env false t tunnel rx.skb tunnel.recvPayloadHook with
    | badCsum =>
      rw [udpRecvVerdict_eq_badCsum_iff, Bool.and_false] at hverdict
      exact absurd hverdict Bool.false_ne_true
    | passUp => exact nofun
    | session i call => exact nofun

/-- A packet that fails it does, if the tunnel has a socket. -/
theorem oops_iff {net : L2tpNet n} {t : ℕ} {tunnel : L2tpTunnel n}
    (htunnel : net.tunnels[t]? = some tunnel) (hsock : tunnel.sock.isSome) (hash : SessionHash)
    (env : Env n) (sk : UdpSock) (rx : RxSkb) :
    (l2tpUdpRecvCsum hash net env sk t rx).2 = .oops ↔ ¬(l2tpVerifyUdpChecksum sk rx).1 = 0 := by
  refine ⟨fun hoops hpassed ↦ not_oops_of_verifies hpassed hash net env t hoops, fun hfailed ↦ ?_⟩
  rw [l2tpUdpRecvCsum, l2tpUdpRecvCore, htunnel, decide_eq_true hfailed]
  dsimp only
  rw [(udpRecvVerdict_eq_badCsum_iff ..).mpr (by rw [hsock, Bool.and_true])]

/-- What is sent from one of two facing sockets passes the check at the other. -/
theorem verify_sentUdp {sender receiver : UdpSock} (hfacing : FacingSocks sender receiver)
    {dst : Option DstFeatures} {mangles : Bool}
    (hdevice : sender.isIpv6 = true → dst.any (·.ipv6Csum) = true → mangles = true)
    {udp : List UInt8} (hlength : udphdrSize ≤ udp.length)
    (hulen : be16At udp 4 = UInt16.ofNat udp.length) (hzero : be16At udp 6 = 0) {rx : RxSkb}
    (hwire : rx.skb.data = sentUdp sender dst mangles udp) (hsaddr : rx.saddr = sender.npSaddr)
    (hdaddr : rx.daddr = sender.skV6Daddr) (htrue : Truthful rx) :
    (l2tpVerifyUdpChecksum receiver rx).1 = 0 := by
  by_cases hskip : (receiver.skNoCheck ≠ .udpCsumDefault || skbCsumUnnecessary rx.ipSummed) = true
  · rw [l2tpVerifyUdpChecksum, if_pos hskip]
  have hverifies : Verifies receiver rx := by
    simp only [ne_eq, Bool.or_eq_true, decide_eq_true_eq, not_or, not_not] at hskip
    exact ⟨hskip.1, by simpa using hskip.2⟩
  have hlen : rx.skb.len = udp.length := by rw [SkBuff.len, hwire, length_sentUdp]
  have hheader : 6 + 2 ≤ rx.skb.data.length := hlength.trans_eq hlen.symm
  have hfour : be16At rx.skb.mem 4 = UInt16.ofNat udp.length := by
    rw [be16At_mem (by omega), hwire, ulen_sentUdp, hulen]
  have hsix : be16At rx.skb.mem 6 = be16At (sentUdp sender dst mangles udp) 6 := by
    rw [be16At_mem hheader, hwire]
  have hsum := sum_sentUdp hlength hzero sender dst mangles
  cases hfamily : sender.isIpv6 with
  | true =>
    rw [verify_ipv6_iff hverifies (hfacing.family.trans hfamily) htrue, hsix, hsaddr, hdaddr, hlen,
      hwire]
    refine ⟨check_sentUdp_ne_zero hlength hfamily (hdevice hfamily), .inr ?_⟩
    rw [UdpSock.pseudo, if_pos hfamily] at hsum
    exact hsum.resolve_left fun h ↦ by simp [hfamily] at h
  | false =>
    rw [verify_ipv4_iff hverifies (hfacing.family.trans hfamily) htrue, hsix, hfour,
      pseudo4_toNat_ofNat, hfacing.saddr, hfacing.daddr, hwire]
    rw [UdpSock.pseudo, if_neg (by simp [hfamily]), pseudo4,
      Nat.add_comm sender.inetSaddr.toNat] at hsum
    exact hsum.imp_left And.right

/-- A session over UDP. -/
def udpFlow : Flow 1 where
  tunnel := newTunnel 1 hdrVer2 1 2 .udp 0
  session := newSession (newTunnel 1 hdrVer2 1 2 .udp 0) 0 1 2 {}
  log := []

/-- A socket that sends to itself, over IPv4 and over IPv6. -/
def loopSock (skFamily : AddressFamily) : UdpSock where
  skNoCheck := .udpCsumDefault
  skFamily
  v4mapped := false
  inetSaddr := 0
  inetDaddr := 0
  npSaddr := 0
  skV6Daddr := 0

/-- A packet as it arrives there, without a sum. -/
def arrived (data : List UInt8) : RxSkb where
  skb :=
    { id := 0, head := [], data, tail := [],
      cb := { ns := 0, hasSeq := false, length := 0, expires := 0 } }
  ipSummed := .checksumNone
  csum := 0
  saddr := 0
  daddr := 0

theorem truthful_arrived (data : List UInt8) : Truthful (arrived data) := by
  simp [Truthful, arrived]

/-- A packet that differs from another in the word at `2 * k`. -/
structure ChangedWord (rx rx' : RxSkb) (k : ℕ) (word : UInt16) : Prop where
  inside : 2 * k + 2 ≤ rx.skb.data.length
  data : rx'.skb.data = writeAt rx.skb.data (2 * k) (be16 word)
  ipSummed : rx'.ipSummed = rx.ipSummed
  saddr : rx'.saddr = rx.saddr
  daddr : rx'.daddr = rx.daddr

theorem ChangedWord.wordSum_add {rx rx' : RxSkb} {k : ℕ} {word : UInt16}
    (hchanged : ChangedWord rx rx' k word) :
    wordSum rx'.skb.data + (be16At rx.skb.data (2 * k)).toNat =
      wordSum rx.skb.data + word.toNat := by
  rw [hchanged.data, wordSum_writeAt hchanged.inside]

/-- A word of the header after the change. -/
theorem ChangedWord.be16At_mem {rx rx' : RxSkb} {k : ℕ} {word : UInt16}
    (hchanged : ChangedWord rx rx' k word) {j : ℕ} (hj : 2 * j + 2 ≤ rx.skb.data.length) :
    be16At rx'.skb.mem (2 * j) = if k = j then word else be16At rx.skb.data (2 * j) := by
  rw [L2tp.be16At_mem (by rwa [hchanged.data, length_writeAt]), hchanged.data]
  split_ifs with hkj
  · rw [hkj, be16At_writeAt_be16 hj]
  · rw [be16At_writeAt_of_disjoint _ (by rw [length_be16]; omega)]

/-- What the check does not see of a change: zero in the place of the checksum over IPv4, and one
zero for the other elsewhere. -/
def UnseenChange (sk : UdpSock) (k : ℕ) (old word : UInt16) : Prop :=
  if k = 3 ∧ word = 0 then sk.isIpv6 = false else SameWord old word

instance (sk : UdpSock) (k : ℕ) (old word : UInt16) : Decidable (UnseenChange sk k old word) :=
  inferInstanceAs (Decidable (if k = 3 ∧ word = 0 then sk.isIpv6 = false else SameWord old word))

/-- A pseudo header without the length of the packet in it. -/
theorem ChangedWord.sum_iff {rx rx' : RxSkb} {k : ℕ} {word : UInt16}
    (hchanged : ChangedWord rx rx' k word) {pseudo : ℕ}
    (hsum : (pseudo + wordSum rx.skb.data) % 65535 = 0) :
    (pseudo + wordSum rx'.skb.data) % 65535 = 0 ↔
      SameWord (be16At rx.skb.data (2 * k)) word := by
  have hadd := hchanged.wordSum_add
  exact sum_replaced_iff 1 (by decide) hsum (by omega)

/-- A pseudo header with the length that the UDP header gives: a change of the length counts
twice. -/
theorem ChangedWord.sum_ulen_iff {rx rx' : RxSkb} {k : ℕ} {word : UInt16}
    (hchanged : ChangedWord rx rx' k word) {pseudo : ℕ}
    (hsum : (pseudo + (be16At rx.skb.data 4).toNat + wordSum rx.skb.data) % 65535 = 0) :
    (pseudo + (if k = 2 then word else be16At rx.skb.data 4).toNat + wordSum rx'.skb.data) %
        65535 = 0 ↔ SameWord (be16At rx.skb.data (2 * k)) word := by
  have hadd := hchanged.wordSum_add
  split_ifs with hk
  · subst hk
    change wordSum rx'.skb.data + (be16At rx.skb.data 4).toNat = _ at hadd
    change _ ↔ SameWord (be16At rx.skb.data 4) word
    exact sum_replaced_iff 2 (by decide) hsum (by omega)
  · exact hchanged.sum_iff hsum

theorem pseudo4_toNat (saddr daddr : UInt32) (len : UInt16) :
    pseudo4 saddr daddr len.toNat = saddr.toNat + daddr.toNat + 17 + len.toNat := by
  have hlen := len.toNat_lt
  rw [pseudo4]
  omega

theorem pseudo6_toNat (saddr daddr : In6Addr) (len : UInt16) :
    pseudo6 saddr daddr len.toNat =
      ((s6Addr32 saddr ++ s6Addr32 daddr).map UInt32.toNat).sum + 17 + len.toNat := by
  have hlen := len.toNat_lt
  rw [pseudo6]
  omega

/-- A packet that has passed the check, and one word of which has changed: it passes the check
exactly if the change is one that such a sum does not see. -/
theorem verify_changedWord_iff {sk : UdpSock} {rx rx' : RxSkb} (hverifies : Verifies sk rx)
    (htrue : Truthful rx) (htrue' : Truthful rx')
    (hulen : (be16At rx.skb.data 4).toNat = rx.skb.len)
    (hhdr : udphdrSize ≤ rx.skb.len) (hcheck : be16At rx.skb.data 6 ≠ 0)
    (hpassed : (l2tpVerifyUdpChecksum sk rx).1 = 0) {k : ℕ} {word : UInt16}
    (hchanged : ChangedWord rx rx' k word) :
    (l2tpVerifyUdpChecksum sk rx').1 = 0 ↔ UnseenChange sk k (be16At rx.skb.data (2 * k)) word := by
  have hverifies' : Verifies sk rx' := ⟨hverifies.default, by
    rw [hchanged.ipSummed]
    exact hverifies.unverified⟩
  have hheader : 2 * 3 + 2 ≤ rx.skb.data.length := hhdr
  have hlen : rx'.skb.len = rx.skb.len := by
    rw [SkBuff.len, hchanged.data, length_writeAt, SkBuff.len]
  have hfour : be16At rx.skb.mem 4 = be16At rx.skb.data 4 := be16At_mem (by omega)
  have hsix : be16At rx.skb.mem 6 = be16At rx.skb.data 6 := be16At_mem hhdr
  have hfour' : be16At rx'.skb.mem 4 = if k = 2 then word else be16At rx.skb.data 4 :=
    hchanged.be16At_mem (j := 2) (by omega)
  have hsix' : be16At rx'.skb.mem 6 = if k = 3 then word else be16At rx.skb.data 6 :=
    hchanged.be16At_mem (j := 3) hheader
  have hcheck' : be16At rx'.skb.mem 6 = 0 ↔ k = 3 ∧ word = 0 := by
    rw [hsix']
    split_ifs with hk
    · simp [hk]
    · simp [hk, hcheck]
  rw [UnseenChange]
  cases hfamily : sk.isIpv6 with
  | true =>
    rw [verify_ipv6_iff hverifies hfamily htrue, hfour, ← hulen, pseudo6_toNat] at hpassed
    have hsum := hpassed.2.elim And.right id
    rw [verify_ipv6_iff hverifies' hfamily htrue', ne_eq, hcheck', hfour', pseudo6_toNat,
      hchanged.saddr, hchanged.daddr, hlen, ← hulen, pseudo6_toNat, hchanged.sum_ulen_iff hsum,
      hchanged.sum_iff hsum]
    split_ifs with hzero
    · simp [hzero]
    · rw [and_iff_right hzero]
      exact ⟨fun h ↦ h.elim And.right id, .inr⟩
  | false =>
    rw [verify_ipv4_iff hverifies hfamily htrue, hsix, or_iff_right hcheck, hfour,
      pseudo4_toNat] at hpassed
    rw [verify_ipv4_iff hverifies' hfamily htrue', hcheck', hfour', pseudo4_toNat,
      hchanged.sum_ulen_iff hpassed]
    split_ifs with hzero
    · simp [hzero]
    · rw [or_iff_right hzero]

/-- A packet with a checksum has passed the check, and one word of it has changed: it passes the
check exactly if the change is one that such a sum does not see, and otherwise it brings the
receiver down. -/
theorem changed_word_verifies_iff {sk : UdpSock} {rx rx' : RxSkb} (hverifies : Verifies sk rx)
    (htrue : Truthful rx) (htrue' : Truthful rx')
    (hulen : (be16At rx.skb.data 4).toNat = rx.skb.len)
    (hhdr : udphdrSize ≤ rx.skb.len) (hcheck : be16At rx.skb.data 6 ≠ 0)
    (hpassed : (l2tpVerifyUdpChecksum sk rx).1 = 0) {k : ℕ} {word : UInt16}
    (hchanged : ChangedWord rx rx' k word) {net : L2tpNet n} {t : ℕ} {tunnel : L2tpTunnel n}
    (htunnel : net.tunnels[t]? = some tunnel) (hsock : tunnel.sock.isSome) (hash : SessionHash)
    (env : Env n) :
    ((l2tpVerifyUdpChecksum sk rx').1 = 0 ↔ UnseenChange sk k (be16At rx.skb.data (2 * k)) word) ∧
      ((l2tpUdpRecvCsum hash net env sk t rx').2 = .oops ↔
        ¬UnseenChange sk k (be16At rx.skb.data (2 * k)) word) := by
  have hiff := verify_changedWord_iff hverifies htrue htrue' hulen hhdr hcheck hpassed hchanged
  exact ⟨hiff, by rw [oops_iff htunnel hsock, hiff]⟩

/-- A UDP header with nothing behind it, and its checksum. -/
def bareHeader : List UInt8 := [0, 0, 0, 0, 0, 8, 0xff, 0xde]

theorem changed_word_verifies_bareHeader :
    (l2tpVerifyUdpChecksum (loopSock .inet) (arrived bareHeader)).1 = 0 ∧
      (l2tpUdpRecvCsum lowBits { emptyNet 1 with tunnels := [newTunnel 1 hdrVer2 1 2 .udp 0] }
        (sequencedCall cpu0 0 0 0).env (loopSock .inet) 0
        (arrived (writeAt bareHeader (2 * 0) (be16 1)))).2 = .oops :=
  have hpassed : (l2tpVerifyUdpChecksum (loopSock .inet) (arrived bareHeader)).1 = 0 := by
    decide +kernel
  have hseen : ¬UnseenChange (loopSock .inet) 0 (be16At bareHeader (2 * 0)) 1 := by decide +kernel
  ⟨hpassed, (changed_word_verifies_iff ⟨rfl, rfl⟩ (truthful_arrived bareHeader)
    (truthful_arrived _) (by decide +kernel) (by decide) (by decide +kernel) hpassed
    ⟨by decide, rfl, rfl, rfl, rfl⟩ rfl rfl _ _).2.mpr hseen⟩

end KernelModules.L2tp
