import KernelModules.Foundations.InternetChecksum
import KernelModules.Foundations.TracedReads

/-!
# The module that answers pings

`icmp.c` hooks into the input of IP packets. An ICMP echo request is dropped, and the module sends a
reply of its own that it builds in a fresh buffer: the Ethernet header with the addresses swapped,
an IP header, and the ICMP message of the request with its type and its checksum changed.

The parts are right. The IP header has a valid checksum when it has been written
(`csumValid_fillIp`), and so has the ICMP message (`csumValid_fillIcmp`), which holds the code, the
identifier, the sequence number and the payload of the request (`bytesAt_fillIcmp`). But the
transport header of the buffer is set to 28 instead of 34, so that the ICMP message is written over
the addresses of the IP header; the length of the ICMP message is taken for a header of 20 bytes, so
that the copy goes past the end of a request with options (`within_sendReply_iff`); and the length
of the buffer is never set, so that what is sent is an empty frame. Therefore no echo request gets
its answer, and the module does what it should exactly with the other packets and when it finds no
memory for a reply (`icmp_reply_iff`).

Offsets in a request count from its Ethernet header. At the hook the IP header has been checked and
the transport header stands behind it.
-/

set_option autoImplicit false
set_option relaxedAutoImplicit false

namespace KernelModules.IcmpRequest

open Foundations Traced

/-! ### Packets -/

/-- The length of the IP header of a frame, in words of four bytes. -/
def ihl (frame : List UInt8) : ℕ := (byteAt frame 14).toNat % 16

/-- `ntohs(ip->tot_len)` of a frame. -/
def totLen (frame : List UInt8) : ℕ := (be16At frame 16).toNat

/-- A frame that IP input has accepted and cut to its length, with what memory holds behind it. -/
structure RecvSkb where
  frame : List UInt8
  behind : List UInt8
  five_le_ihl : 5 ≤ ihl frame
  header_le : 4 * ihl frame ≤ totLen frame
  length_frame : frame.length = 14 + totLen frame

namespace RecvSkb

/-- Memory from the Ethernet header on. -/
def memory (skb : RecvSkb) : List UInt8 := skb.frame ++ skb.behind

/-- Where `icmp_hdr` points to. -/
def transport (skb : RecvSkb) : ℕ := 14 + 4 * ihl skb.frame

/-- `ip->protocol`. -/
def protocol (skb : RecvSkb) : UInt8 := byteAt skb.memory 23

/-- `icmp->type`. -/
def icmpType (skb : RecvSkb) : UInt8 := byteAt skb.memory skb.transport

/-- `icmpSize`. -/
def icmpSize (skb : RecvSkb) : ℕ := totLen skb.frame - 20

end RecvSkb

/-- `IPPROTO_ICMP`. -/
def ipprotoIcmp : UInt8 := 1

/-- `ICMP_ECHO`. -/
def icmpEcho : UInt8 := 8

/-- `ICMP_ECHOREPLY`. -/
def icmpEchoreply : UInt8 := 0

/-! ### The reply -/

/-- The Ethernet header of the reply. -/
def fillEth (mem buffer : List UInt8) : Traced (List UInt8) := do
  let eth ← readBytes mem 0 14
  let hSource ← readBytes mem 6 6
  let hDest ← readBytes mem 0 6
  pure (writeAt (writeAt (writeAt buffer 0 eth) 0 hSource) 6 hDest)

/-- The IP header of the reply. -/
def fillIp (mem buffer : List UInt8) (icmpSize : ℕ) : Traced (List UInt8) := do
  let ip ← readBytes mem 14 20
  let daddr ← readBytes mem 30 4
  let saddr ← readBytes mem 26 4
  let buffer := writeAt (writeAt (writeAt buffer 14 ip) 26 daddr) 30 saddr
  let buffer := writeAt (writeAt buffer 22 [64]) 24 (be16 0)
  let buffer := writeAt buffer 16 (be16 (UInt16.ofNat (20 + icmpSize)))
  pure (writeAt buffer 24 (be16 (ipComputeCsum (bytesAt buffer 14 20))))

/-- The ICMP message of the reply, at the sum of the sizes of an IP and an ICMP header. -/
def fillIcmp (mem buffer : List UInt8) (transport icmpSize : ℕ) : Traced (List UInt8) := do
  let icmp ← readBytes mem transport icmpSize
  let buffer := writeAt (writeAt (writeAt buffer 28 icmp) 28 [icmpEchoreply]) 30 (be16 0)
  pure (writeAt buffer 30 (be16 (ipComputeCsum (bytesAt buffer 28 icmpSize))))

/-- A packet that is handed to `dev_queue_xmit`: its buffer, and `skb->len`. -/
structure SentSkb where
  head : List UInt8
  len : ℕ
  deriving DecidableEq

/-- What goes out for a packet. -/
def SentSkb.frame (sent : SentSkb) : List UInt8 := sent.head.take sent.len

/-- What becomes of the packet at the hook. -/
inductive Verdict
  | nfAccept (skb : RecvSkb)
  | nfDrop

/-- What the hook does: the verdict, and the reply it sends. -/
structure HookResult where
  verdict : Verdict
  sent : Option SentSkb

/-- `myHookFunction`, from the allocation of the reply on. `alloc_skb` gives a buffer of the size
asked for, with whatever was in it, and a length of zero. -/
def sendReply (fresh : ℕ → UInt8) (skb : RecvSkb) : Traced HookResult := do
  let tot ← readBe16 skb.memory 16
  let buffer ← fillEth skb.memory ((List.range (tot.toNat + 14)).map fresh)
  let buffer ← fillIp skb.memory buffer skb.icmpSize
  let buffer ← fillIcmp skb.memory buffer skb.transport skb.icmpSize
  pure ⟨.nfDrop, some ⟨buffer, 0⟩⟩

/-- `myHookFunction`. -/
def myHookFunction (allocSkb : Bool) (fresh : ℕ → UInt8) (skb : RecvSkb) : Traced HookResult := do
  let protocol ← readByte skb.memory 23
  if protocol = ipprotoIcmp then do
    let type ← readByte skb.memory skb.transport
    if type ≠ icmpEcho then pure ⟨.nfAccept skb, none⟩
    else if allocSkb then sendReply fresh skb
    else pure ⟨.nfAccept skb, none⟩
  else pure ⟨.nfAccept skb, none⟩

/-! ### The parts of the reply -/

/-- The IP header of the reply has a valid checksum when it has been written. -/
theorem csumValid_fillIp (mem : List UInt8) {buffer : List UInt8} (hbuffer : 34 ≤ buffer.length)
    (icmpSize : ℕ) : CsumValid (bytesAt (fillIp mem buffer icmpSize).value 14 20) := by
  refine csumValid_bytesAt_writeAt (k := 5) (by simpa using hbuffer) (by decide) ?_
  rw [be16At_writeAt_of_disjoint _ (by simp), be16At_writeAt_be16]
  simp only [length_writeAt]
  omega

/-- The ICMP message of the reply has a valid checksum. -/
theorem csumValid_fillIcmp (mem : List UInt8) {buffer : List UInt8} (transport : ℕ) {icmpSize : ℕ}
    (hsize : 4 ≤ icmpSize) (hbuffer : 28 + icmpSize ≤ buffer.length) :
    CsumValid (bytesAt (fillIcmp mem buffer transport icmpSize).value 28 icmpSize) := by
  refine csumValid_bytesAt_writeAt (k := 1) (by simpa using hbuffer) (by omega) ?_
  rw [be16At_writeAt_be16]
  simp only [length_writeAt]
  omega

/-- The ICMP message of the reply is an echo reply, with everything behind the checksum as it was
read from the request. -/
theorem bytesAt_fillIcmp (mem : List UInt8) {buffer : List UInt8} (transport : ℕ) {icmpSize : ℕ}
    (hsize : 4 ≤ icmpSize) (hbuffer : 28 + icmpSize ≤ buffer.length) :
    byteAt (fillIcmp mem buffer transport icmpSize).value 28 = icmpEchoreply ∧
      byteAt (fillIcmp mem buffer transport icmpSize).value 29 = byteAt mem (transport + 1) ∧
      bytesAt (fillIcmp mem buffer transport icmpSize).value 32 (icmpSize - 4) =
        bytesAt mem (transport + 4) (icmpSize - 4) := by
  simp only [fillIcmp, value_bind, value_readBytes, value_pure]
  refine ⟨?_, ?_, ?_⟩
  · rw [byteAt_writeAt, if_neg (by simp), byteAt_writeAt, if_neg (by simp), byteAt_writeAt,
      if_pos (by simp; omega)]
    rfl
  · rw [byteAt_writeAt, if_neg (by simp), byteAt_writeAt, if_neg (by simp), byteAt_writeAt,
      if_neg (by simp), byteAt_writeAt, if_pos (by simp; omega), byteAt_bytesAt _ _ (by omega)]
  · rw [bytesAt_writeAt_of_disjoint _ (by simp), bytesAt_writeAt_of_disjoint _ (by simp),
      bytesAt_writeAt_of_disjoint _ (by simp)]
    have hcopied : bytesAt (writeAt buffer 28 (bytesAt mem transport icmpSize)) 32 (icmpSize - 4) =
        bytesAt (bytesAt mem transport icmpSize) 4 (icmpSize - 4) :=
      bytesAt_writeAt_of_le (j := 4) (by rwa [length_bytesAt]) (by rw [length_bytesAt]; omega)
    rw [hcopied, bytesAt_bytesAt _ _ (by omega)]

/-! ### The reads -/

/-- An echo request: an ICMP message with all of its header, of type `ICMP_ECHO`. -/
structure RecvSkb.IsEcho (skb : RecvSkb) : Prop where
  protocol : skb.protocol = ipprotoIcmp
  type : skb.icmpType = icmpEcho
  room : 4 * ihl skb.frame + 8 ≤ totLen skb.frame

/-- A packet that is no echo request. -/
def RecvSkb.NonEcho (skb : RecvSkb) : Prop :=
  skb.protocol ≠ ipprotoIcmp ∨ skb.icmpType ≠ icmpEcho

/-- The copies for the reply stay inside the request exactly if its IP header has no options. -/
theorem within_sendReply_iff (fresh : ℕ → UInt8) (skb : RecvSkb) :
    Within skb.frame.length (sendReply fresh skb) ↔ ihl skb.frame = 5 := by
  have hihl := skb.five_le_ihl
  have hheader := skb.header_le
  have hlength := skb.length_frame
  have hicmp : Within skb.frame.length
      (readBytes skb.memory skb.transport skb.icmpSize) ↔ ihl skb.frame = 5 := by
    rw [within_readBytes_iff _ (by rw [RecvSkb.transport]; omega), RecvSkb.transport,
      RecvSkb.icmpSize]
    omega
  have hcopy : ∀ i count, i + count ≤ 34 →
      Within skb.frame.length (readBytes skb.memory i count) := by
    intro i count hle
    rw [within_readBytes_iff _ (by omega)]
    omega
  simp only [sendReply, fillEth, fillIp, fillIcmp, within_bind_iff, within_readBe16_iff, hicmp,
    within_pure, and_true]
  constructor
  · exact fun hall ↦ hall.2.2.2
  · intro hfive
    refine ⟨by omega, ?_, ?_, hfive⟩
    · exact ⟨hcopy _ _ (by decide), hcopy _ _ (by decide), hcopy _ _ (by decide)⟩
    · exact ⟨hcopy _ _ (by decide), hcopy _ _ (by decide), hcopy _ _ (by decide)⟩

/-! ### The answer to an echo request -/

/-- A frame is the answer to an echo request: the Ethernet header has its addresses swapped, the
length of the frame is that in the IP header, which has its addresses swapped, a TTL of 64 and a
valid checksum, and behind it stands an ICMP message of type 0 with a valid checksum and with the
code, the identifier, the sequence number and the payload of the request. -/
structure CorrectReply (skb : RecvSkb) (frame : List UInt8) : Prop where
  dest : bytesAt frame 0 6 = bytesAt skb.frame 6 6
  source : bytesAt frame 6 6 = bytesAt skb.frame 0 6
  proto : bytesAt frame 12 2 = bytesAt skb.frame 12 2
  length : frame.length = 14 + totLen frame
  saddr : bytesAt frame 26 4 = bytesAt skb.frame 30 4
  daddr : bytesAt frame 30 4 = bytesAt skb.frame 26 4
  ttl : byteAt frame 22 = 64
  ipCsum : CsumValid (bytesAt frame 14 (4 * ihl frame))
  icmpType : byteAt frame (14 + 4 * ihl frame) = icmpEchoreply
  code : byteAt frame (14 + 4 * ihl frame + 1) = byteAt skb.frame (skb.transport + 1)
  payload : frame.drop (14 + 4 * ihl frame + 4) = skb.frame.drop (skb.transport + 4)
  icmpCsum : CsumValid (frame.drop (14 + 4 * ihl frame))

/-- What the hook should do: a reply that is sent for an echo request is the answer to it, and no
byte outside of the request is copied; every other packet is accepted as it is, without a reply. -/
structure AnswersEcho (skb : RecvSkb) (hook : Traced HookResult) : Prop where
  echo : skb.IsEcho → ∀ sent ∈ hook.value.sent,
    CorrectReply skb sent.frame ∧ Within skb.frame.length hook
  other : skb.NonEcho → hook.value = ⟨.nfAccept skb, none⟩

/-- An empty frame is no answer. -/
theorem not_correctReply_nil (skb : RecvSkb) : ¬CorrectReply skb [] := by
  intro hcorrect
  have hlength := hcorrect.length
  rw [List.length_nil] at hlength
  omega

theorem value_myHookFunction_of_nonEcho (allocSkb : Bool) (fresh : ℕ → UInt8) {skb : RecvSkb}
    (hother : skb.NonEcho) :
    (myHookFunction allocSkb fresh skb).value = ⟨.nfAccept skb, none⟩ := by
  rw [myHookFunction, value_bind, value_readByte, ← RecvSkb.protocol]
  by_cases hprotocol : skb.protocol = ipprotoIcmp
  · have htype : skb.icmpType ≠ icmpEcho := hother.resolve_left (not_not.mpr hprotocol)
    rw [if_pos hprotocol, value_bind, value_readByte, ← RecvSkb.icmpType, if_pos htype, value_pure]
  · rw [if_neg hprotocol, value_pure]

/-- What is sent for an echo request. -/
theorem value_myHookFunction_of_isEcho (allocSkb : Bool) (fresh : ℕ → UInt8) {skb : RecvSkb}
    (hecho : skb.IsEcho) : (myHookFunction allocSkb fresh skb).value =
      if allocSkb then (sendReply fresh skb).value else ⟨.nfAccept skb, none⟩ := by
  rw [myHookFunction, value_bind, value_readByte, ← RecvSkb.protocol, if_pos hecho.protocol,
    value_bind, value_readByte, ← RecvSkb.icmpType, if_neg (not_not.mpr hecho.type)]
  split_ifs <;> rfl

/-- The module does what it should exactly if the packet is no echo request, or if there is no
memory for a reply. For an echo request, bytes outside of it are copied exactly if it has IP
options. -/
theorem icmp_reply_iff (allocSkb : Bool) (fresh : ℕ → UInt8) (skb : RecvSkb) :
    (AnswersEcho skb (myHookFunction allocSkb fresh skb) ↔ ¬(skb.IsEcho ∧ allocSkb = true)) ∧
      (Within skb.frame.length (sendReply fresh skb) ↔ ihl skb.frame = 5) := by
  refine ⟨⟨?_, ?_⟩, within_sendReply_iff fresh skb⟩
  · rintro hanswers ⟨hecho, halloc⟩
    have hvalue := value_myHookFunction_of_isEcho allocSkb fresh hecho
    rw [if_pos halloc] at hvalue
    obtain ⟨head, hsent⟩ : ∃ head, (sendReply fresh skb).value.sent = some ⟨head, 0⟩ := ⟨_, rfl⟩
    have hcorrect := (hanswers.echo hecho ⟨head, 0⟩ (by rw [hvalue]; exact hsent)).1
    exact not_correctReply_nil skb hcorrect
  · intro hcondition
    refine ⟨fun hecho sent hsent ↦ ?_, value_myHookFunction_of_nonEcho allocSkb fresh⟩
    have halloc : ¬allocSkb = true := fun halloc ↦ hcondition ⟨hecho, halloc⟩
    rw [value_myHookFunction_of_isEcho allocSkb fresh hecho, if_neg halloc] at hsent
    exact absurd hsent (Option.not_mem_none sent)

/-- An echo request without payload from 10.0.0.2 to 10.0.0.1. -/
def ping : RecvSkb where
  frame := [2, 0, 0, 0, 0, 1, 2, 0, 0, 0, 0, 2, 8, 0,
    0x45, 0, 0, 28, 0, 0, 0, 0, 64, 1, 0x66, 0xdf, 10, 0, 0, 2, 10, 0, 0, 1,
    8, 0, 0xf7, 0xfd, 0, 1, 0, 1]
  behind := []
  five_le_ihl := by decide
  header_le := by decide
  length_frame := by decide

/-- The echo request is answered with an empty frame, and what stands in the buffer is no answer
either: the addresses of the IP header are gone. -/
theorem not_answersEcho_ping :
    ping.IsEcho ∧ ¬AnswersEcho ping (myHookFunction true (fun _ ↦ 0) ping) ∧
      ∃ sent ∈ (myHookFunction true (fun _ ↦ 0) ping).value.sent,
        sent.frame = [] ∧ ¬CorrectReply ping sent.head := by
  have hecho : ping.IsEcho := ⟨by decide, by decide, by decide⟩
  have hsent : ∃ head, (myHookFunction true (fun _ ↦ 0) ping).value.sent = some ⟨head, 0⟩ ∧
      bytesAt head 30 4 ≠ bytesAt ping.frame 26 4 := ⟨_, rfl, by decide⟩
  obtain ⟨head, hsent, hdaddr⟩ := hsent
  refine ⟨hecho, fun hanswers ↦ ?_, ⟨head, 0⟩, hsent, rfl, fun hcorrect ↦ hdaddr hcorrect.daddr⟩
  exact not_correctReply_nil ping (hanswers.echo hecho ⟨head, 0⟩ hsent).1

end KernelModules.IcmpRequest
