import KernelModules.L2tp.Input
import KernelModules.L2tp.Transmit

/-!
# L2TPv3 data headers, from one end to the other

Sender and receiver of an L2TPv3 frame do not always speak of the same header. The sender decides by
`l2specific_len` whether to write the word of the default sublayer, the receiver decides by
`l2specific_type` whether to look for it. The word has four bytes even where `l2specific_len` and
`offset` leave less room, and then runs into the payload, or past the end of the packet. And the
length of the header is kept in sixteen bits, which a large offset does not fit.
`header_decodes_iff` says for every frame whether it comes through.
-/

set_option autoImplicit false
set_option relaxedAutoImplicit false

namespace KernelModules.L2tp

open Foundations

variable {n : ℕ}

/-! ### A word in front of a payload -/

section Word

variable (pad payload tail slack : List UInt8) (word : UInt32)

/-- A packet of padding and payload, after a word has been written at its start. `tail` is what lies
behind it in memory. -/
def withWord : List UInt8 :=
  (writeAt (pad ++ (payload ++ tail)) 0 (be32 word)).take (pad.length + payload.length)

@[simp] theorem length_withWord :
    (withWord pad payload tail word).length = pad.length + payload.length := by
  simp only [withWord, List.length_take, length_writeAt, List.length_append]
  omega

/-- The word is in front, as far as the packet goes. -/
theorem byteAt_withWord {j : ℕ} (hj : j < pad.length + payload.length) :
    byteAt (withWord pad payload tail word) j =
      if j < 4 then byteAt (be32 word) j else byteAt (pad ++ (payload ++ tail)) j := by
  rw [withWord, byteAt_take hj, byteAt_writeAt]
  simp only [Nat.zero_le, true_and, Nat.zero_add, length_be32, Nat.sub_zero, List.length_append]
  by_cases hword : j < 4
  · rw [if_pos ⟨hword, by omega⟩, if_pos hword]
  · rw [if_neg fun h ↦ hword h.1, if_neg hword]

/-- The payload survives exactly if the word spells the bytes it overwrites. -/
theorem drop_withWord_iff :
    (withWord pad payload tail word).drop pad.length = payload ↔
      ∀ j, pad.length + j < 4 → j < payload.length →
        byteAt payload j = byteAt (be32 word) (pad.length + j) := by
  have hbyte : ∀ j < payload.length, byteAt ((withWord pad payload tail word).drop pad.length) j =
      if pad.length + j < 4 then byteAt (be32 word) (pad.length + j) else byteAt payload j := by
    intro j hj
    rw [byteAt_drop, byteAt_withWord _ _ _ _ (by omega), byteAt_append_right,
      byteAt_append_left tail hj]
  constructor
  · intro heq j hspill hj
    have hj' := hbyte j hj
    rwa [heq, if_pos hspill] at hj'
  · intro hspells
    refine ext_byteAt (by simp) fun j hj ↦ ?_
    have hj' : j < payload.length := by simpa using hj
    rw [hbyte j hj']
    split_ifs with hspill
    · exact (hspells j hspill hj').symm
    · rfl

/-- A byte of the word, or of what follows a packet that is too short for it. -/
theorem byteAt_withWord_append {j : ℕ} (hj : j < 4) :
    byteAt (withWord pad payload tail word ++ slack) j =
      if j < pad.length + payload.length then byteAt (be32 word) j
      else byteAt slack (j - (pad.length + payload.length)) := by
  split_ifs with hin
  · rw [byteAt_append_left slack (by rwa [length_withWord]), byteAt_withWord _ _ _ _ hin, if_pos hj]
  · have hsplit : j = (withWord pad payload tail word).length +
        (j - (pad.length + payload.length)) := by
      rw [length_withWord]
      omega
    conv_lhs => rw [hsplit]
    exact byteAt_append_right _ slack _

/-- The flag in the first byte of the word is read back. -/
theorem withWord_flag (hpad : 0 < pad.length) :
    be32At (withWord pad payload tail word ++ slack) 0 &&& 0x40000000 = 0 ↔
      word &&& 0x40000000 = 0 := by
  rw [be32At_and_bit30, byteAt_withWord_append _ _ _ _ _ (by omega), if_pos (by omega),
    ← be32At_and_bit30, ← List.append_nil (be32 word), be32At_be32]

/-- The other three bytes are read back exactly if, where the packet is too short for them, the
bytes behind the packet happen to spell them. -/
theorem withWord_number_iff (hpad : 0 < pad.length) :
    be32At (withWord pad payload tail word ++ slack) 0 &&& 0x00ffffff = word &&& 0x00ffffff ↔
      ∀ j, pad.length + payload.length + j < 4 →
        byteAt slack j = byteAt (be32 word) (pad.length + payload.length + j) := by
  have hword : word = be32At (be32 word) 0 := by rw [← List.append_nil (be32 word), be32At_be32]
  conv_lhs => rw [hword]
  rw [be32At_and_ffffff_eq_iff, ← hword]
  simp only [Nat.zero_add]
  constructor
  · rintro ⟨h1, h2, h3⟩ j hj
    have hall : ∀ k, 0 < k → k < 4 →
        byteAt (withWord pad payload tail word ++ slack) k = byteAt (be32 word) k := by
      intro k hpos hlt
      interval_cases k
      · exact h1
      · exact h2
      · exact h3
    have hk := hall (pad.length + payload.length + j) (by omega) hj
    rw [byteAt_withWord_append _ _ _ _ _ hj, if_neg (by omega)] at hk
    rwa [Nat.add_sub_cancel_left] at hk
  · intro hspells
    have hall : ∀ k, k < 4 →
        byteAt (withWord pad payload tail word ++ slack) k = byteAt (be32 word) k := by
      intro k hk
      rw [byteAt_withWord_append _ _ _ _ _ hk]
      split_ifs with hin
      · rfl
      · have hj := hspells (k - (pad.length + payload.length)) (by omega)
        rwa [Nat.add_sub_cancel' (Nat.not_lt.mp hin)] at hj
    exact ⟨hall 1 (by omega), hall 2 (by omega), hall 3 (by omega)⟩

end Word

/-! ### What the sender writes -/

/-- The part of an L2TPv3 header up to the session id. -/
def v3Fixed (tunnel : L2tpTunnel n) (session : L2tpSession n) : List UInt8 :=
  (if tunnel.encap = .udp then be16 (UInt16.ofNat hdrVer3) ++ be16 0 else []) ++
    be32 session.peerSessionId

/-- The length of an L2TPv3 header up to the session id. -/
def v3FixedLength (encap : L2tpEncap) : ℕ := if encap = .udp then 8 else 4

theorem length_v3Fixed (tunnel : L2tpTunnel n) (session : L2tpSession n) :
    (v3Fixed tunnel session).length = v3FixedLength tunnel.encap := by
  unfold v3Fixed v3FixedLength
  split_ifs <;> rfl

/-- The sender writes the word of the default sublayer. -/
def writesWord (params : SessionParams) : Prop :=
  params.l2specificLen ≠ 0 ∧ params.l2specificType = l2spectypeDefault

instance (params : SessionParams) : Decidable (writesWord params) :=
  inferInstanceAs (Decidable (_ ∧ _))

/-- The sequence number a session puts into its next L2TPv3 header. -/
def v3Number (session : L2tpSession n) : Option UInt32 :=
  if writesWord session.toSessionParams ∧ session.sendSeq = true then some session.ns else none

theorem data_buildL2specific (session : L2tpSession n) (buf : List UInt8) (bufp : ℕ) :
    (buildL2specific session buf bufp).2 =
      if writesWord session.toSessionParams then writeAt buf bufp (be32 (l2hWord session))
      else buf :=
  apply_ite Prod.snd (writesWord session.toSessionParams) _ _

/-- What `l2tp_build_l2tpv3_header` makes of memory that starts with room for the fixed part and the
cookie. -/
theorem l2tpBuildL2tpv3Header_eq (tunnel : L2tpTunnel n) (session : L2tpSession n)
    {fixed cookie : List UInt8} (rest : List UInt8)
    (hfixed : fixed.length = v3FixedLength tunnel.encap)
    (hcookie : cookie.length = session.cookie.bytes.length) :
    (l2tpBuildL2tpv3Header tunnel session (fixed ++ (cookie ++ rest))).2 =
      v3Fixed tunnel session ++ (session.cookie.bytes ++
        (if writesWord session.toSessionParams then writeAt rest 0 (be32 (l2hWord session))
          else rest)) := by
  have hbehind : ∀ front : List UInt8,
      (buildL2specific session (writeAt (front ++ (cookie ++ rest)) front.length
        session.cookie.bytes) (front.length + session.cookie.bytes.length)).2 =
      front ++ (session.cookie.bytes ++
        (if writesWord session.toSessionParams then writeAt rest 0 (be32 (l2hWord session))
          else rest)) := by
    intro front
    have hcookieWrite := writeAt_append front (cookie ++ rest) 0 session.cookie.bytes
    rw [Nat.add_zero, writeAt_zero rest hcookie] at hcookieWrite
    rw [hcookieWrite, data_buildL2specific]
    split_ifs
    · have hword := writeAt_append (front ++ session.cookie.bytes) rest 0 (be32 (l2hWord session))
      rw [List.length_append, Nat.add_zero, List.append_assoc, List.append_assoc] at hword
      exact hword
    · rfl
  unfold l2tpBuildL2tpv3Header v3Fixed
  unfold v3FixedLength at hfixed
  by_cases hudp : tunnel.encap = .udp
  · rw [if_pos hudp] at hfixed
    obtain ⟨flags, id, rfl, hflags, hid⟩ : ∃ flags id, fixed = flags ++ id ∧ flags.length = 4 ∧
        id.length = 4 :=
      ⟨fixed.take 4, fixed.drop 4, (List.take_append_drop 4 fixed).symm, by simp [hfixed],
        by simp [hfixed]⟩
    have hflagsWrite : writeAt ((flags ++ id) ++ (cookie ++ rest)) 0
        (be16 (UInt16.ofNat hdrVer3) ++ be16 0) =
        (be16 (UInt16.ofNat hdrVer3) ++ be16 0) ++ (id ++ (cookie ++ rest)) := by
      rw [List.append_assoc]
      exact writeAt_zero _ hflags
    have hidWrite := writeAt_append (be16 (UInt16.ofNat hdrVer3) ++ be16 0)
      (id ++ (cookie ++ rest)) 0
      (be32 session.peerSessionId)
    rw [writeAt_zero _ hid, ← List.append_assoc] at hidWrite
    simp only [hudp, if_true, hflagsWrite]
    exact (congrArg (fun buf ↦ (buildL2specific session (writeAt buf 8 session.cookie.bytes)
      (8 + session.cookie.bytes.length)).2) hidWrite).trans
        (hbehind (be16 (UInt16.ofNat hdrVer3) ++ be16 0 ++ be32 session.peerSessionId))
  · rw [if_neg hudp] at hfixed
    have hidWrite : writeAt (fixed ++ (cookie ++ rest)) 0 (be32 session.peerSessionId) =
        be32 session.peerSessionId ++ (cookie ++ rest) := writeAt_zero _ hfixed
    simp only [hudp, if_false, hidWrite, List.nil_append, Nat.zero_add]
    exact hbehind (be32 session.peerSessionId)

/-- The length of the header that an L2TPv3 session describes. -/
def v3Length (encap : L2tpEncap) (params : SessionParams) : ℕ :=
  v3FixedLength encap + params.cookie.bytes.length + params.l2specificLen.toNat +
    params.offset.toNat

/-- The length that `l2tp_session_set_header_len` stores is what is left of it in sixteen bits. -/
theorem hdrLen_v3 (tunnel : L2tpTunnel n) (session : L2tpSession n) :
    (l2tpSessionSetHeaderLen tunnel session hdrVer3).hdrLen.toNat =
      v3Length tunnel.encap session.toSessionParams % 65536 := by
  rw [l2tpSessionSetHeaderLen, if_neg (by decide)]
  unfold v3Length v3FixedLength
  dsimp only
  split_ifs
  · rw [UInt16.toNat_add, UInt16.toNat_ofNat']
    have hfour : UInt16.toNat 4 = 4 := rfl
    omega
  · rw [UInt16.toNat_ofNat']

/-- An L2TPv3 session and the session at the other end: the ids, cookies, sublayers and offsets
agree, and so do the encapsulations. The sender's header length is the one that has been set, and
its next sequence number is in the sequence space. -/
structure MirroredV3 (sender receiver : Flow n) : Prop where
  builder : sender.session.buildHeader = .l2tpBuildL2tpv3Header
  hdrLen : sender.session.hdrLen =
    (l2tpSessionSetHeaderLen sender.tunnel sender.session hdrVer3).hdrLen
  ns : sender.session.ns.toNat ≤ 0xffffff
  version : receiver.tunnel.version = hdrVer3
  encap : receiver.tunnel.encap = sender.tunnel.encap
  sessionId : receiver.session.sessionId = sender.session.peerSessionId
  sessionId_ne : receiver.session.sessionId ≠ 0
  cookie : receiver.session.peerCookie = sender.session.cookie
  l2specificType : receiver.session.l2specificType = sender.session.l2specificType
  l2specificLen : receiver.session.l2specificLen = sender.session.l2specificLen
  offset : receiver.session.offset = sender.session.offset

/-- What lies in front of the payload behind the cookie: what the headroom held there. -/
def headroomPad (params : SessionParams) (skb : SkBuff) : List UInt8 :=
  skb.head.drop (skb.head.length - (params.l2specificLen.toNat + params.offset.toNat))

/-- The packet that leaves the sender, if its length fits. -/
theorem packet_v3 {sender receiver : Flow n} (hmirror : MirroredV3 sender receiver)
    (hfits : v3Length sender.tunnel.encap sender.session.toSessionParams < 65536) {skb : SkBuff}
    (hroom : sender.session.hdrLen.toNat ≤ skb.head.length) :
    (headroomPad sender.session.toSessionParams skb).length =
        sender.session.l2specificLen.toNat + sender.session.offset.toNat ∧
      (pushHeader sender skb sender.session.hdrLen.toNat).2.data =
        v3Fixed sender.tunnel sender.session ++ (sender.session.cookie.bytes ++
          (if writesWord sender.session.toSessionParams then
            withWord (headroomPad sender.session.toSessionParams skb) skb.data skb.tail
              (l2hWord sender.session)
          else headroomPad sender.session.toSessionParams skb ++ skb.data)) := by
  have hlength : sender.session.hdrLen.toNat =
      v3Length sender.tunnel.encap sender.session.toSessionParams := by
    rw [hmirror.hdrLen, hdrLen_v3, Nat.mod_eq_of_lt hfits]
  obtain ⟨front, region, hhead, hregion, -, -, hdata⟩ := data_pushHeader hroom sender
  unfold v3Length at hlength
  set base := v3FixedLength sender.tunnel.encap with hbase
  set room := sender.session.l2specificLen.toNat + sender.session.offset.toNat with hroomDef
  have hpadLength : (headroomPad sender.session.toSessionParams skb).length = room := by
    rw [headroomPad, List.length_drop]
    omega
  have hregionSplit : region = region.take base ++ ((region.drop base).take
      sender.session.cookie.bytes.length ++ headroomPad sender.session.toSessionParams skb) := by
    have hsuffix : headroomPad sender.session.toSessionParams skb =
        (region.drop base).drop sender.session.cookie.bytes.length := by
      rw [headroomPad, hhead, List.drop_drop, List.length_append, ← hroomDef]
      have hsplit : front.length + region.length - room =
          front.length + (base + sender.session.cookie.bytes.length) := by omega
      rw [hsplit, List.drop_append, Nat.add_sub_cancel_left, List.drop_eq_nil_of_le (by omega),
        List.nil_append]
    rw [hsuffix, List.take_append_drop, List.take_append_drop]
  have hfixed : (region.take base).length = base := by
    rw [List.length_take]
    omega
  have hcookie : ((region.drop base).take sender.session.cookie.bytes.length).length =
      sender.session.cookie.bytes.length := by
    rw [List.length_take, List.length_drop]
    omega
  have hbuild := l2tpBuildL2tpv3Header_eq sender.tunnel sender.session
    (headroomPad sender.session.toSessionParams skb ++ (skb.data ++ skb.tail)) hfixed hcookie
  rw [buildHeader, hmirror.builder] at hdata
  dsimp only at hdata
  have hbuffer : region ++ (skb.data ++ skb.tail) = region.take base ++ ((region.drop base).take
      sender.session.cookie.bytes.length ++ (headroomPad sender.session.toSessionParams skb ++
        (skb.data ++ skb.tail))) := by
    conv_lhs => rw [hregionSplit]
    simp only [List.append_assoc]
  have htake : sender.session.hdrLen.toNat + skb.data.length =
      (v3Fixed sender.tunnel sender.session).length + (sender.session.cookie.bytes.length +
        ((headroomPad sender.session.toSessionParams skb).length + skb.data.length)) := by
    rw [length_v3Fixed, hpadLength]
    omega
  refine ⟨hpadLength, ?_⟩
  rw [hdata, hbuffer, hbuild, htake, List.take_length_add_append, List.take_length_add_append]
  split_ifs
  · rfl
  · rw [List.take_length_add_append, List.take_left]

/-! ### What the receiver reads -/

/-- The session and the call that a received packet is for, over UDP or over IP. -/
def selectedCall (hash : SessionHash) (net : L2tpNet n) (env : Env n) (receiver : Flow n)
    (skb : SkBuff) : Option (ℕ × RecvCall n) :=
  match receiver.tunnel.encap with
  | .udp =>
    match udpRecvVerdict hash net env false receiver.session.tunnel receiver.tunnel skb
        receiver.tunnel.recvPayloadHook with
    | .session i call => some (i, call)
    | _ => none
  | .ip =>
    match ipRecvVerdict hash net env skb with
    | .session i call => some (i, call)
    | _ => none

/-- A packet on the wire: over UDP there are eight bytes in front of it. -/
def onWire (encap : L2tpEncap) (udphdr packet : List UInt8) : List UInt8 :=
  if encap = .udp then udphdr ++ packet else packet

/-- Where the table of the lookup is: over UDP it is that of the tunnel. -/
def lookupTable (receiver : Flow n) : Option ℕ :=
  if receiver.tunnel.encap = .udp then some receiver.session.tunnel else none

/-- The call that a packet leads to starts behind the session id. -/
theorem selectedCall_shape {hash : SessionHash} {net : L2tpNet n} {env : Env n} {receiver : Flow n}
    (hversion : receiver.tunnel.version = hdrVer3) {received : SkBuff} {udphdr packet : List UInt8}
    (hudphdr : udphdr.length = udphdrSize)
    (hdata : received.data = onWire receiver.tunnel.encap udphdr packet) {i : ℕ} {call : RecvCall n}
    (hselected : selectedCall hash net env receiver received = some (i, call)) :
    call.skb.data = packet ∧ call.skb.tail = received.tail ∧
      call.ptr = v3FixedLength receiver.tunnel.encap := by
  unfold selectedCall at hselected
  unfold onWire at hdata
  unfold v3FixedLength
  cases hencap : receiver.tunnel.encap with
  | udp =>
    simp only [hencap, if_true] at hselected hdata
    split at hselected
    case h_2 => simp at hselected
    case h_1 i' call' hverdict =>
      obtain ⟨rfl, rfl⟩ := Prod.mk.inj (Option.some.inj hselected)
      obtain ⟨hskb, hptr, -, -⟩ := udpRecvVerdict_session hverdict
      refine ⟨?_, by rw [hskb]; rfl, ?_⟩
      · rw [hskb, SkBuff.data_skbPull, hdata, ← hudphdr, List.drop_left]
      · rw [hptr, udpSessionId, hversion, if_neg (by decide)]
        rfl
  | ip =>
    simp only [hencap, reduceCtorEq, if_false] at hselected hdata
    split at hselected
    case h_2 => simp at hselected
    case h_1 i' call' hverdict =>
      obtain ⟨rfl, rfl⟩ := Prod.mk.inj (Option.some.inj hselected)
      obtain ⟨rfl, hptr, -, -⟩ := ipRecvVerdict_session hverdict
      exact ⟨hdata, rfl, hptr⟩

/-- A packet with the fixed part of the sender goes to the receiver, unless that has no receive
handler, which matters over UDP only. -/
theorem selectedCall_v3 {hash : SessionHash} {net : L2tpNet n} (env : Env n) {i : ℕ}
    {sender receiver : Flow n} (hmirror : MirroredV3 sender receiver)
    (hregistered : Registered hash net (lookupTable receiver) i receiver) {received : SkBuff}
    {udphdr rest : List UInt8} (hudphdr : udphdr.length = udphdrSize)
    (hdata : received.data = onWire receiver.tunnel.encap udphdr
      (v3Fixed sender.tunnel sender.session ++ rest))
    (hlong : 10 ≤ (v3Fixed sender.tunnel sender.session ++ rest).length) :
    (∃ call, selectedCall hash net env receiver received = some (i, call)) ↔
      (receiver.tunnel.encap = .udp → receiver.session.recvSkb.isSome) := by
  have hfind := hregistered.find
  unfold selectedCall
  unfold onWire at hdata
  unfold lookupTable at hfind
  cases hencap : receiver.tunnel.encap with
  | udp =>
    simp only [hencap, if_true] at hdata hfind
    have hfixed : v3Fixed sender.tunnel sender.session = be16 (UInt16.ofNat hdrVer3) ++
        (be16 0 ++ be32 receiver.session.sessionId) := by
      rw [v3Fixed, ← hmirror.encap, if_pos hencap, hmirror.sessionId, List.append_assoc]
    rw [hfixed] at hdata hlong
    have hpulled : (received.skbPull udphdrSize).data = be16 (UInt16.ofNat hdrVer3) ++
        (be16 0 ++ be32 receiver.session.sessionId) ++ rest := by
      rw [SkBuff.data_skbPull, hdata, ← hudphdr, List.drop_left]
    have hmem : (received.skbPull udphdrSize).mem = be16 (UInt16.ofNat hdrVer3) ++
        (be16 0 ++ (be32 receiver.session.sessionId ++
          (rest ++ (received.skbPull udphdrSize).tail))) := by
      rw [SkBuff.mem, hpulled]
      simp only [List.append_assoc]
    have hpull : (received.skbPull udphdrSize).pskbMayPull hdrSizeSeq = true := by
      rw [SkBuff.pskbMayPull, SkBuff.len, hpulled, decide_eq_true_iff]
      exact hlong
    have hflags : be16At (received.skbPull udphdrSize).mem 0 = UInt16.ofNat hdrVer3 := by
      rw [hmem, be16At_be16]
    have hid : be32At (received.skbPull udphdrSize).mem 4 = receiver.session.sessionId := by
      rw [hmem]
      exact (be32At_append_right (be16 (UInt16.ofNat hdrVer3) ++ be16 0) _ 0).trans
        (be32At_be32 _ _)
    have hid3 : udpSessionId hdrVer3 (received.skbPull udphdrSize).mem (UInt16.ofNat hdrVer3) =
        (receiver.session.sessionId, 8) := by
      rw [udpSessionId, if_neg (by decide), hid]
    have hbits : (UInt16.ofNat hdrVer3 &&& hdrVerMask).toNat = hdrVer3 ∧
        UInt16.ofNat hdrVer3 &&& hdrflagT = 0 := by decide
    have hhandler : net.sessions[i]?.bind (·.recvSkb) = receiver.session.recvSkb := by
      rw [hregistered.session, Option.bind_some]
    rw [udpRecvVerdict, Bool.and_false, if_neg Bool.false_ne_true]
    simp only [hflags, hpull, hbits.1, hbits.2, hmirror.version, hid3, hfind, hhandler,
      Bool.not_true, if_neg Bool.false_ne_true, ne_eq, not_true_eq_false, if_false]
    cases hrecv : receiver.session.recvSkb with
    | none => simp
    | some handler => simp
  | ip =>
    simp only [hencap, reduceCtorEq, if_false] at hdata hfind
    have hfixed : v3Fixed sender.tunnel sender.session = be32 receiver.session.sessionId := by
      rw [v3Fixed, ← hmirror.encap, hencap, hmirror.sessionId]
      rfl
    rw [hfixed] at hdata hlong
    have hmem : received.mem = be32 receiver.session.sessionId ++ (rest ++ received.tail) := by
      rw [SkBuff.mem, hdata, List.append_assoc]
    have hpull : received.pskbMayPull 4 = true := by
      rw [SkBuff.pskbMayPull, SkBuff.len, hdata, decide_eq_true_iff]
      omega
    have hflow : net.flow i = some { receiver with log := [] } := by
      rw [L2tpNet.flow, hregistered.session, Option.bind_some, hregistered.tunnel, Option.map_some]
    simp [ipRecvVerdict, hpull, hmem, hmirror.sessionId_ne, hfind, hflow]

/-- The receiver of an L2TPv3 packet decodes its header: the cookie is accepted, the sequence
number, or that there is none, is what the sender wrote, and, unless the policy on sequence numbers
refuses the frame, pulling the header leaves the payload. -/
structure DecodesHeader (receiver : Flow n) (call : RecvCall n) (number : Option UInt32)
    (payload : List UInt8) : Prop where
  decoded : ∃ ptr, recvCookie receiver.session.toSessionParams call.skb call.ptr = some ptr ∧
    (recvSequence receiver.tunnel.version receiver.session.toSessionParams call.skb ptr
      call.hdrflags).1 = number ∧
    (recvSeqPolicy receiver.tunnel receiver.session number.isSome ≠ none →
      call.skb.pskbMayPull (payloadOffset receiver.tunnel.version receiver.session.toSessionParams
          call ptr) = true ∧
        (call.skb.skbPull (payloadOffset receiver.tunnel.version receiver.session.toSessionParams
          call ptr)).data = payload)

/-- The position of the payload in L2TPv3 follows from the session alone. -/
theorem payloadOffset_v3 {version : ℕ} (hversion : version = hdrVer3) (params : SessionParams)
    (call : RecvCall n) (ptr : ℕ) :
    payloadOffset version params call ptr =
      ptr + (params.l2specificLen.toNat + params.offset.toNat) := by
  have hsequence : (recvSequence version params call.skb ptr call.hdrflags).2 = ptr := by
    rw [recvSequence, hversion, if_neg (by decide)]
    split_ifs <;> rfl
  rw [payloadOffset, hsequence, recvOffset, hversion, if_neg (by decide), Nat.add_assoc]

/-- The receiver with other settings for its policy on sequence numbers. -/
def withPolicy (receiver : Flow n) (recvSeq sendSeq lnsMode : Bool) : Flow n :=
  receiver.onSession fun session ↦ { session with recvSeq, sendSeq, lnsMode }

@[simp] theorem tunnel_withPolicy (receiver : Flow n) (recvSeq sendSeq lnsMode : Bool) :
    (withPolicy receiver recvSeq sendSeq lnsMode).tunnel = receiver.tunnel := rfl

@[simp] theorem params_withPolicy (receiver : Flow n) (recvSeq sendSeq lnsMode : Bool) :
    (withPolicy receiver recvSeq sendSeq lnsMode).session.toSessionParams =
      receiver.session.toSessionParams := rfl

/-- A LAC that requires and sends no sequence numbers refuses nothing. -/
theorem recvSeqPolicy_lac (receiver : Flow n) (hasSeq : Bool) :
    recvSeqPolicy (withPolicy receiver false false false).tunnel
      (withPolicy receiver false false false).session hasSeq ≠ none := by
  cases hasSeq <;> simp [recvSeqPolicy, withPolicy]

/-- What the receiver takes for the sequence number in front of the given bytes. -/
def numberAt (params : SessionParams) (mem : List UInt8) : Option UInt32 :=
  if params.l2specificType = l2spectypeDefault ∧ be32At mem 0 &&& 0x40000000 ≠ 0 then
    some (be32At mem 0 &&& 0x00ffffff)
  else none

/-- What decoding comes to behind the cookie. -/
theorem decodesHeader_iff {sender receiver : Flow n} (hmirror : MirroredV3 sender receiver)
    {call : RecvCall n} {rest : List UInt8}
    (hdata : call.skb.data = v3Fixed sender.tunnel sender.session ++
      (sender.session.cookie.bytes ++ rest))
    (hptr : call.ptr = v3FixedLength receiver.tunnel.encap) (number : Option UInt32)
    (payload : List UInt8) :
    (∀ recvSeq sendSeq lnsMode,
      DecodesHeader (withPolicy receiver recvSeq sendSeq lnsMode) call number payload) ↔
      numberAt sender.session.toSessionParams (rest ++ call.skb.tail) = number ∧
        sender.session.l2specificLen.toNat + sender.session.offset.toNat ≤ rest.length ∧
        rest.drop (sender.session.l2specificLen.toNat + sender.session.offset.toNat) = payload := by
  have hmem : call.skb.mem = v3Fixed sender.tunnel sender.session ++
      (sender.session.cookie.bytes ++ (rest ++ call.skb.tail)) := by
    rw [SkBuff.mem, hdata]
    simp only [List.append_assoc]
  have hptrLength : call.ptr = (v3Fixed sender.tunnel sender.session).length := by
    rw [hptr, length_v3Fixed, hmirror.encap]
  set behind := (v3Fixed sender.tunnel sender.session ++ sender.session.cookie.bytes).length
    with hbehind
  have hcookie : recvCookie receiver.session.toSessionParams call.skb call.ptr = some behind := by
    rw [recvCookie, hmirror.cookie, hmem, hptrLength, bytesAt_append, if_pos rfl, hbehind,
      List.length_append]
  have hword : be32At call.skb.mem behind = be32At (rest ++ call.skb.tail) 0 := by
    rw [hmem, ← List.append_assoc, hbehind]
    exact be32At_append_right _ _ 0
  have hsequence : recvSequence receiver.tunnel.version receiver.session.toSessionParams call.skb
      behind call.hdrflags =
        (numberAt sender.session.toSessionParams (rest ++ call.skb.tail), behind) := by
    rw [recvSequence, hmirror.version, if_neg (by decide), hmirror.l2specificType, hword, numberAt]
    split_ifs <;> rfl
  have hoffset : payloadOffset receiver.tunnel.version receiver.session.toSessionParams
      call behind =
      behind + (sender.session.l2specificLen.toNat + sender.session.offset.toNat) := by
    rw [payloadOffset_v3 hmirror.version, hmirror.l2specificLen, hmirror.offset]
  have hpulled (count : ℕ) : (call.skb.skbPull (behind + count)).data = rest.drop count := by
    rw [SkBuff.data_skbPull, hdata, ← List.append_assoc, hbehind, List.drop_length_add_append]
  have hpull (count : ℕ) : call.skb.pskbMayPull (behind + count) = true ↔ count ≤ rest.length := by
    rw [SkBuff.pskbMayPull, SkBuff.len, hdata, ← List.append_assoc, List.length_append, ← hbehind,
      decide_eq_true_iff]
    omega
  constructor
  · intro hdecodes
    obtain ⟨ptr, hptr', hnumber, hpayload⟩ := (hdecodes false false false).decoded
    obtain rfl := Option.some.inj (hcookie.symm.trans hptr')
    have hleft := hpayload (recvSeqPolicy_lac receiver _)
    rw [tunnel_withPolicy, params_withPolicy, hoffset, hpull, hpulled] at hleft
    exact ⟨(congrArg Prod.fst hsequence).symm.trans hnumber, hleft⟩
  · rintro ⟨hnumber, hlength, hpayload⟩ recvSeq sendSeq lnsMode
    refine ⟨behind, hcookie, (congrArg Prod.fst hsequence).trans hnumber, fun _ ↦ ?_⟩
    rw [tunnel_withPolicy, params_withPolicy, hoffset]
    exact ⟨(hpull _).mpr hlength, (hpulled _).trans hpayload⟩

/-! ### Which frames come through -/

/-- A frame that comes through: the receiver has a handler if it needs one; the length of the header
fits into sixteen bits; where no word is sent, the receiver does not see the flag of one in what
happens to be there; and where a word is sent, whatever it overwrites of the payload, and whatever
the receiver reads of it behind the end of the packet, happens to be the same. -/
structure HeaderFits (sender receiver : Flow n) (skb : SkBuff) (slack : List UInt8) : Prop where
  handler : receiver.tunnel.encap = .udp → receiver.session.recvSkb.isSome
  length : v3Length sender.tunnel.encap sender.session.toSessionParams < 65536
  absent : sender.session.l2specificType = l2spectypeDefault → sender.session.l2specificLen = 0 →
    byteAt (headroomPad sender.session.toSessionParams skb ++ skb.data ++ slack) 0 &&& 0x40 = 0
  spill : writesWord sender.session.toSessionParams → ∀ j,
    sender.session.l2specificLen.toNat + sender.session.offset.toNat + j < 4 →
      j < skb.data.length → byteAt skb.data j = byteAt (be32 (l2hWord sender.session))
        (sender.session.l2specificLen.toNat + sender.session.offset.toNat + j)
  missing : writesWord sender.session.toSessionParams → sender.session.sendSeq = true → ∀ j,
    sender.session.l2specificLen.toNat + sender.session.offset.toNat + skb.data.length + j < 4 →
      byteAt slack j = byteAt (be32 (l2hWord sender.session))
        (sender.session.l2specificLen.toNat + sender.session.offset.toNat + skb.data.length + j)

/-- The receiver of a packet is the right one, and whatever its policy on sequence numbers it
decodes the header. -/
def RoundTrips (hash : SessionHash) (net : L2tpNet n) (env : Env n) (i : ℕ) (receiver : Flow n)
    (received : SkBuff) (number : Option UInt32) (payload : List UInt8) : Prop :=
  ∃ call, selectedCall hash net env receiver received = some (i, call) ∧
    ∀ recvSeq sendSeq lnsMode,
      DecodesHeader (withPolicy receiver recvSeq sendSeq lnsMode) call number payload

/-- A header whose length has been cut to sixteen bits does not come through: the receiver pulls
more than the sender has pushed. -/
theorem not_roundTrips_of_length {hash : SessionHash} {net : L2tpNet n} {env : Env n} {i : ℕ}
    {sender receiver : Flow n} (hmirror : MirroredV3 sender receiver)
    (hlength : 65536 ≤ v3Length sender.tunnel.encap sender.session.toSessionParams) {skb : SkBuff}
    (hroom : sender.session.hdrLen.toNat ≤ skb.head.length) {received : SkBuff}
    {udphdr : List UInt8} (hudphdr : udphdr.length = udphdrSize)
    (hdata : received.data = onWire receiver.tunnel.encap udphdr
      (pushHeader sender skb sender.session.hdrLen.toNat).2.data) (number : Option UInt32) :
    ¬ RoundTrips hash net env i receiver received number skb.data := by
  rintro ⟨call, hselected, hdecodes⟩
  obtain ⟨hcall, -, hptr⟩ := selectedCall_shape hmirror.version hudphdr hdata hselected
  obtain ⟨ptr, hcookie, -, hpayload⟩ := (hdecodes false false false).decoded
  obtain ⟨hpull, hleft⟩ := hpayload (recvSeqPolicy_lac receiver _)
  have hstored : sender.session.hdrLen.toNat =
      v3Length sender.tunnel.encap sender.session.toSessionParams % 65536 := by
    rw [hmirror.hdrLen, hdrLen_v3]
  obtain ⟨-, region, -, hregion, -, -, hpushed⟩ := data_pushHeader hroom sender
  have hpacket : call.skb.data.length = sender.session.hdrLen.toNat + skb.data.length := by
    rw [hcall, hpushed, List.length_take, length_buildHeader, List.length_append,
      List.length_append]
    omega
  have hptr' : ptr = v3FixedLength receiver.tunnel.encap + sender.session.cookie.bytes.length := by
    rw [params_withPolicy, recvCookie, hmirror.cookie, hptr] at hcookie
    split_ifs at hcookie
    exact (Option.some.inj hcookie).symm
  have hoffset : payloadOffset (withPolicy receiver false false false).tunnel.version
      (withPolicy receiver false false false).session.toSessionParams call ptr =
        v3Length sender.tunnel.encap sender.session.toSessionParams := by
    rw [tunnel_withPolicy, params_withPolicy, payloadOffset_v3 hmirror.version, hptr',
      hmirror.encap, hmirror.l2specificLen, hmirror.offset, v3Length]
    omega
  rw [hoffset] at hpull hleft
  have hcount := congrArg List.length hleft
  rw [SkBuff.data_skbPull, List.length_drop] at hcount
  rw [SkBuff.pskbMayPull, SkBuff.len, decide_eq_true_iff] at hpull
  omega

/-- The word of a session without sequence numbers has no flag, that of one with sequence numbers
has the flag and the number. -/
theorem l2hWord_bits {session : L2tpSession n} (hns : session.ns.toNat ≤ 0xffffff) :
    (l2hWord session &&& 0x40000000 = 0 ↔ session.sendSeq = false) ∧
      (session.sendSeq = true → l2hWord session &&& 0x00ffffff = session.ns) := by
  cases hseq : session.sendSeq with
  | false => simp [l2hWord, hseq]
  | true =>
    have hword : (l2hWord session).toNat = 2 ^ 30 + session.ns.toNat := by
      rw [l2hWord, if_pos hseq, UInt32.toNat_or]
      have hlt : session.ns.toNat < 2 ^ 30 := by omega
      have hor := Nat.two_pow_add_eq_or_of_lt hlt 1
      rw [Nat.mul_one] at hor
      exact hor.symm
    constructor
    · have hbit := and_bit_eq_zero (l2hWord session).toNat 30
      rw [← UInt32.toNat_inj, UInt32.toNat_and]
      change (l2hWord session).toNat &&& 2 ^ 30 = 0 ↔ _
      rw [hbit, hword]
      simp only [Bool.true_eq_false, iff_false]
      omega
    · intro _
      rw [← UInt32.toNat_inj, UInt32.toNat_and]
      change (l2hWord session).toNat &&& (2 ^ 24 - 1) = _
      rw [Nat.and_two_pow_sub_one_eq_mod, hword]
      omega

section Sublayer

variable {sender : Flow n} {skb : SkBuff} {slack : List UInt8}

/-- A sublayer with a word comes through exactly if nothing it spills over, and nothing of it that
is missing, makes a difference. -/
theorem word_decodes_iff (hns : sender.session.ns.toNat ≤ 0xffffff)
    (hwrites : writesWord sender.session.toSessionParams) {pad : List UInt8}
    (hpad : pad.length = sender.session.l2specificLen.toNat + sender.session.offset.toNat) :
    (numberAt sender.session.toSessionParams
          (withWord pad skb.data skb.tail (l2hWord sender.session) ++ slack) =
        v3Number sender.session ∧
      (withWord pad skb.data skb.tail (l2hWord sender.session)).drop pad.length = skb.data) ↔
    (∀ j, pad.length + j < 4 → j < skb.data.length →
        byteAt skb.data j = byteAt (be32 (l2hWord sender.session)) (pad.length + j)) ∧
      (sender.session.sendSeq = true → ∀ j, pad.length + skb.data.length + j < 4 →
        byteAt slack j = byteAt (be32 (l2hWord sender.session))
          (pad.length + skb.data.length + j)) := by
  have hpos : 0 < pad.length := by
    have hne : sender.session.l2specificLen.toNat ≠ 0 := fun hzero ↦
      hwrites.1 (UInt16.toNat_inj.mp hzero)
    omega
  obtain ⟨hflag, hnumber⟩ := l2hWord_bits hns
  have hread := withWord_flag pad skb.data skb.tail slack (l2hWord sender.session) hpos
  rw [drop_withWord_iff, and_comm]
  refine and_congr_right fun _ ↦ ?_
  cases hseq : sender.session.sendSeq with
  | false =>
    rw [numberAt, if_neg (fun h ↦ h.2 (hread.mpr (hflag.mpr hseq))), v3Number,
      if_neg (by rw [hseq]; simp)]
    simp
  | true =>
    have hset : ¬ (be32At (withWord pad skb.data skb.tail (l2hWord sender.session) ++ slack) 0 &&&
        0x40000000 = 0) := by
      rw [hread, hflag, hseq]
      exact Bool.noConfusion
    rw [numberAt, if_pos ⟨hwrites.2, hset⟩, v3Number, if_pos ⟨hwrites, hseq⟩, Option.some.injEq,
      ← hnumber hseq, withWord_number_iff _ _ _ _ _ hpos]
    simp

/-- A sublayer without a word comes through exactly if the receiver does not look for one, or does
not see the flag of one. -/
theorem noWord_decodes_iff (hwrites : ¬ writesWord sender.session.toSessionParams)
    (pad : List UInt8) :
    numberAt sender.session.toSessionParams (pad ++ skb.data ++ slack) = v3Number sender.session ↔
      (sender.session.l2specificType = l2spectypeDefault → sender.session.l2specificLen = 0 →
        byteAt (pad ++ skb.data ++ slack) 0 &&& 0x40 = 0) := by
  have hnone : v3Number sender.session = none := if_neg fun h ↦ hwrites h.1
  rw [hnone, numberAt, ← be32At_and_bit30]
  constructor
  · intro hnumber htype _
    by_contra hflag
    rw [if_pos ⟨htype, hflag⟩] at hnumber
    exact absurd hnumber (by simp)
  · intro habsent
    refine if_neg ?_
    rintro ⟨htype, hflag⟩
    have hlen : sender.session.l2specificLen = 0 := by
      by_contra hlen
      exact hwrites ⟨hlen, htype⟩
    exact hflag (habsent htype hlen)

end Sublayer

/-- L2TPv3 data headers, from one end to the other. Assumes: a session with any cookie, sublayer and
offset, any `send_seq` and any sequence number, the session at the other end, found by the lookup of
its encapsulation, and a frame with enough headroom that makes a packet of at least ten bytes. The
packet reaches the session at the other end, which accepts the cookie, sees a sequence number
exactly if there is one and reads it, and, unless its policy on sequence numbers refuses the frame,
is left with the payload, if and only if the frame is one of those described by `HeaderFits`. -/
theorem header_decodes_iff {hash : SessionHash} {net : L2tpNet n} {env : Env n} {i : ℕ}
    {sender receiver : Flow n} (hmirror : MirroredV3 sender receiver)
    (hregistered : Registered hash net (lookupTable receiver) i receiver) {skb : SkBuff}
    (hroom : sender.session.hdrLen.toNat ≤ skb.head.length) {received : SkBuff}
    {udphdr : List UInt8} (hudphdr : udphdr.length = udphdrSize)
    (hdata : received.data = onWire receiver.tunnel.encap udphdr
      (pushHeader sender skb sender.session.hdrLen.toNat).2.data)
    (hlong : 10 ≤ (pushHeader sender skb sender.session.hdrLen.toNat).2.data.length) :
    RoundTrips hash net env i receiver received (v3Number sender.session) skb.data ↔
      HeaderFits sender receiver skb received.tail := by
  by_cases hlength : v3Length sender.tunnel.encap sender.session.toSessionParams < 65536
  case neg =>
    exact iff_of_false
      (not_roundTrips_of_length hmirror (Nat.not_lt.mp hlength) hroom hudphdr hdata _)
      fun hfits ↦ hlength hfits.length
  obtain ⟨hpad, hpacket⟩ := packet_v3 hmirror hlength hroom
  rw [hpacket] at hdata hlong
  have hselects := selectedCall_v3 env hmirror hregistered hudphdr hdata hlong
  set pad := headroomPad sender.session.toSessionParams skb with hpadDef
  set rest := if writesWord sender.session.toSessionParams then
    withWord pad skb.data skb.tail (l2hWord sender.session) else pad ++ skb.data with hrest
  have hrestLength : pad.length ≤ rest.length := by
    rw [hrest]
    split_ifs <;> simp
  have hdecodes : RoundTrips hash net env i receiver received (v3Number sender.session) skb.data ↔
      (receiver.tunnel.encap = .udp → receiver.session.recvSkb.isSome) ∧
        numberAt sender.session.toSessionParams (rest ++ received.tail) = v3Number sender.session ∧
        rest.drop pad.length = skb.data := by
    rw [← hselects]
    constructor
    · rintro ⟨call, hselected, hdecoded⟩
      obtain ⟨hcall, htail, hptr⟩ := selectedCall_shape hmirror.version hudphdr hdata hselected
      rw [decodesHeader_iff hmirror hcall hptr, ← hpad, htail] at hdecoded
      exact ⟨⟨call, hselected⟩, hdecoded.1, hdecoded.2.2⟩
    · rintro ⟨⟨call, hselected⟩, hnumber, hpayload⟩
      obtain ⟨hcall, htail, hptr⟩ := selectedCall_shape hmirror.version hudphdr hdata hselected
      refine ⟨call, hselected, ?_⟩
      rw [decodesHeader_iff hmirror hcall hptr, ← hpad, htail]
      exact ⟨hnumber, hrestLength, hpayload⟩
  rw [hdecodes]
  by_cases hwrites : writesWord sender.session.toSessionParams
  · rw [hrest, if_pos hwrites, word_decodes_iff hmirror.ns hwrites hpad, hpad]
    constructor
    · rintro ⟨hhandler, hspill, hmissing⟩
      exact ⟨hhandler, hlength, fun _ hzero ↦ absurd hzero hwrites.1, fun _ ↦ hspill,
        fun _ ↦ hmissing⟩
    · intro hfits
      exact ⟨hfits.handler, hfits.spill hwrites, hfits.missing hwrites⟩
  · rw [hrest, if_neg hwrites, noWord_decodes_iff hwrites, List.drop_left]
    constructor
    · rintro ⟨hhandler, habsent, -⟩
      exact ⟨hhandler, hlength, habsent, fun hwrites' ↦ absurd hwrites' hwrites,
        fun hwrites' ↦ absurd hwrites' hwrites⟩
    · intro hfits
      exact ⟨hfits.handler, hfits.absent, rfl⟩

/-- An Ethernet session over L2TPv3 and IP, with the default sublayer. -/
def ethFlow (l2specificLen : UInt16) : Flow 1 where
  tunnel :=
    { newTunnel 1 hdrVer3 1 2 .ip 0 with
      sessionHlist := Chains.link (fun _ ↦ []) (lowBits.hashBits 7) 0 }
  session :=
    { newSession (newTunnel 1 hdrVer3 1 2 .ip 0) 0 7 7
        { pwType := .eth, sendSeq := true, l2specificLen, l2specificType := l2spectypeDefault } with
      recvSkb := some .l2tpEthDevRecv }
  log := []

/-- The namespace of one end. -/
def ethNet (l2specificLen : UInt16) : L2tpNet 1 :=
  { emptyNet 1 with
    tunnels := [(ethFlow l2specificLen).tunnel]
    sessions := [(ethFlow l2specificLen).session]
    tunnelList := [0]
    sessionHlist := Chains.link (fun _ ↦ []) (lowBits.hashBits2 7) 0 }

/-- The start of an Ethernet frame, with headroom. -/
def ethSkb : SkBuff :=
  { sequencedSkb 0 0 with
    head := List.replicate 16 0
    data := [0x52, 0x54, 0x00, 0x12, 0x34, 0x56] }

/-- The packet it makes. -/
def ethPacket (l2specificLen : UInt16) : SkBuff :=
  (pushHeader (ethFlow l2specificLen) ethSkb (ethFlow l2specificLen).session.hdrLen.toNat).2

theorem mirroredV3_ethFlow (l2specificLen : UInt16) :
    MirroredV3 (ethFlow l2specificLen) (ethFlow l2specificLen) :=
  ⟨rfl, rfl, Nat.zero_le _, rfl, rfl, rfl, (by decide : (7 : UInt32) ≠ 0), rfl, rfl, rfl, rfl⟩

theorem registered_ethNet (l2specificLen : UInt16) :
    Registered lowBits (ethNet l2specificLen) (lookupTable (ethFlow l2specificLen)) 0
      (ethFlow l2specificLen) :=
  ⟨rfl, rfl, rfl⟩

theorem header_decodes_iff_word :
    HeaderFits (ethFlow 4) (ethFlow 4) ethSkb [] ∧
      RoundTrips lowBits (ethNet 4) (sequencedCall 0 0 0 0).env 0 (ethFlow 4) (ethPacket 4) (some 0)
        ethSkb.data :=
  have hfits : HeaderFits (ethFlow 4) (ethFlow 4) ethSkb [] :=
    ⟨by decide, by decide, by decide, fun _ j hj ↦ absurd hj
      (Nat.not_lt.mpr (Nat.le_add_right 4 j)),
      fun _ _ j hj ↦ absurd hj (Nat.not_lt.mpr
        ((by decide : 4 ≤ 10).trans (Nat.le_add_right 10 j)))⟩
  have hudphdr : (List.replicate 8 (0 : UInt8)).length = udphdrSize := rfl
  ⟨hfits, (header_decodes_iff (mirroredV3_ethFlow 4) (registered_ethNet 4) (by decide) hudphdr rfl
    (by decide)).mpr hfits⟩

/-- Without room for the word the sender writes none, and the receiver takes the first bytes of the
frame for one. -/
theorem not_roundTrips_noWord :
    10 ≤ (ethPacket 0).data.length ∧ v3Number (ethFlow 0).session = none ∧
      MirroredV3 (ethFlow 0) (ethFlow 0) ∧
      Registered lowBits (ethNet 0) (lookupTable (ethFlow 0)) 0 (ethFlow 0) ∧
      ¬ RoundTrips lowBits (ethNet 0) (sequencedCall 0 0 0 0).env 0 (ethFlow 0) (ethPacket 0) none
        ethSkb.data := by
  refine ⟨by decide, by decide, mirroredV3_ethFlow 0, registered_ethNet 0, ?_⟩
  rintro ⟨call, hselected, hdecodes⟩
  have hudphdr : (List.replicate 8 (0 : UInt8)).length = udphdrSize := rfl
  obtain ⟨hdata, htail, hptr⟩ := selectedCall_shape rfl hudphdr rfl hselected
  have hbehind : call.skb.data = v3Fixed (ethFlow 0).tunnel (ethFlow 0).session ++
      ((ethFlow 0).session.cookie.bytes ++ ethSkb.data) := hdata.trans (by decide)
  have hnumber := ((decodesHeader_iff (mirroredV3_ethFlow 0) hbehind hptr _ _).mp hdecodes).1
  rw [htail] at hnumber
  exact absurd hnumber (by decide)

end KernelModules.L2tp
