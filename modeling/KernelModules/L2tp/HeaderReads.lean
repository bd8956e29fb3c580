import KernelModules.Foundations.TracedReads
import KernelModules.L2tp.PppRoundTrip

/-!
# Which bytes of a packet the receive path reads

`l2tp_udp_recv_core` makes sure of ten bytes and `l2tp_ip_recv` of four. The fields of the header
that follow the ids are read where the flags of the packet and the configuration of the session say
they are, and the length of the packet is looked at only after that, by the `pskb_may_pull` of
`l2tp_recv_common`.

The functions here are those of the receive path up to that test, with every read of the packet
written out and traced. They answer what the untraced functions answer (`value_readHeader`,
`value_readUdpVerdict`, `value_readIpVerdict`). The bytes they read lie inside the packet exactly if
the packet has room for the fields that are looked at (`header_reads_inside_iff`).

Offsets count from the L2TP header, which over UDP is the payload of the UDP packet. How far
`memcmp` reads into the cookie is a parameter. The dump of the packet that `tunnel->debug` can ask
for is no header field and is left out.
-/

set_option autoImplicit false
set_option relaxedAutoImplicit false

namespace KernelModules.L2tp

open Foundations Traced

variable {n : ℕ}

/-! ### `l2tp_recv_common` -/

/-- The sequence number, and the position behind it. -/
def readSequence (version : ℕ) (params : SessionParams) (mem : List UInt8) (ptr : ℕ)
    (hdrflags : UInt16) : Traced (Option UInt32 × ℕ) :=
  if version = hdrVer2 then
    if hdrflags &&& hdrflagS ≠ 0 then do
      let ns ← readBe16 mem ptr
      let _nr ← readBe16 mem (ptr + 2)
      pure (some ns.toUInt32, ptr + 4)
    else pure (none, ptr)
  else if params.l2specificType = l2spectypeDefault then do
    let l2h ← readBe32 mem ptr
    pure (if l2h &&& 0x40000000 ≠ 0 then some (l2h &&& 0x00ffffff) else none, ptr)
  else pure (none, ptr)

/-- The position of the payload. -/
def readOffset (version : ℕ) (params : SessionParams) (mem : List UInt8) (ptr : ℕ)
    (hdrflags : UInt16) : Traced ℕ :=
  if version = hdrVer2 then
    if hdrflags &&& hdrflagO ≠ 0 then do
      let offset ← readBe16 mem ptr
      pure (ptr + (2 + offset.toNat))
    else pure ptr
  else pure (ptr + params.offset.toNat)

/-- `l2tp_recv_common` from the end of the cookie up to `pskb_may_pull(skb, offset)`: the offset,
unless the frame is discarded for want of a sequence number. -/
def readBehindCookie (flow : Flow n) (call : RecvCall n) (ptr : ℕ) : Traced (Option ℕ) := do
  let params := flow.session.toSessionParams
  let sequence ← readSequence flow.tunnel.version params call.skb.mem ptr call.hdrflags
  if (recvSeqPolicy flow.tunnel flow.session sequence.1.isSome).isSome then do
    let offset ← readOffset flow.tunnel.version params call.skb.mem
      (sequence.2 + params.l2specificLen.toNat) call.hdrflags
    pure (some offset)
  else pure none

/-- `l2tp_recv_common` up to `pskb_may_pull(skb, offset)`: the offset, unless the frame has been
discarded before. -/
def readHeader (extent : CompareExtent) (flow : Flow n) (call : RecvCall n) :
    Traced (Option ℕ) := do
  let cookie := flow.session.peerCookie.bytes
  let found ← compare extent call.skb.mem call.ptr cookie
  if found then readBehindCookie flow call (call.ptr + cookie.length) else pure none

@[simp] theorem value_readSequence (version : ℕ) (params : SessionParams) (skb : SkBuff) (ptr : ℕ)
    (hdrflags : UInt16) : (readSequence version params skb.mem ptr hdrflags).value =
      recvSequence version params skb ptr hdrflags := by
  unfold readSequence recvSequence
  by_cases hversion : version = hdrVer2
  · rw [if_pos hversion, if_pos hversion]
    split_ifs <;> rfl
  · rw [if_neg hversion, if_neg hversion]
    by_cases htype : params.l2specificType = l2spectypeDefault
    · by_cases hbit : be32At skb.mem ptr &&& 0x40000000 = 0
      · simp [htype, hbit]
      · simp [htype, hbit]
    · simp [htype]

@[simp] theorem value_readOffset (version : ℕ) (params : SessionParams) (skb : SkBuff) (ptr : ℕ)
    (hdrflags : UInt16) : (readOffset version params skb.mem ptr hdrflags).value =
      recvOffset version params skb ptr hdrflags := by
  unfold readOffset recvOffset
  split_ifs <;> rfl

theorem hasSeq_storeSequence (skb : SkBuff) (ns : Option UInt32) :
    (storeSequence skb ns).cb.hasSeq = ns.isSome := by
  cases ns <;> rfl

theorem value_readBehindCookie (flow : Flow n) (call : RecvCall n) (ptr : ℕ) :
    (readBehindCookie flow call ptr).value =
      (recvSeqPolicy flow.tunnel flow.session (sequencedFrame flow.tunnel.version
        flow.session.toSessionParams call ptr).cb.hasSeq).map fun _ ↦
          payloadOffset flow.tunnel.version flow.session.toSessionParams call ptr := by
  unfold readBehindCookie sequencedFrame payloadOffset
  rw [hasSeq_storeSequence, value_bind, value_readSequence]
  cases hpolicy : recvSeqPolicy flow.tunnel flow.session (recvSequence flow.tunnel.version
    flow.session.toSessionParams call.skb ptr call.hdrflags).1.isSome with
  | none => rfl
  | some session =>
    rw [Option.isSome_some, if_pos rfl, value_bind, value_readOffset]
    rfl

/-- The position of the payload is the one that admission uses. -/
theorem value_readHeader (extent : CompareExtent) (flow : Flow n) (call : RecvCall n) :
    (readHeader extent flow call).value =
      (recvCookie flow.session.toSessionParams call.skb call.ptr).bind fun ptr ↦
        (recvSeqPolicy flow.tunnel flow.session (sequencedFrame flow.tunnel.version
          flow.session.toSessionParams call ptr).cb.hasSeq).map fun _ ↦
            payloadOffset flow.tunnel.version flow.session.toSessionParams call ptr := by
  unfold readHeader recvCookie
  by_cases hcookie : bytesAt call.skb.mem call.ptr flow.session.peerCookie.bytes.length =
      flow.session.peerCookie.bytes
  · rw [if_pos hcookie, value_bind, value_compare, if_pos (decide_eq_true hcookie),
      Option.bind_some]
    exact value_readBehindCookie flow call _
  · rw [if_neg hcookie, value_bind, value_compare, if_neg (by simpa using hcookie)]
    rfl

/-! ### UDP -/

/-- The session id in the header, behind the tunnel id in L2TPv2, and the position behind it. -/
def readUdpSessionId (version : ℕ) (mem : List UInt8) (hdrflags : UInt16) :
    Traced (UInt32 × ℕ) :=
  if version = hdrVer2 then do
    let ptr := if hdrflags &&& hdrflagL ≠ 0 then 4 else 2
    let _tunnelId ← readBe16 mem ptr
    let sessionId ← readBe16 mem (ptr + 2)
    pure (sessionId.toUInt32, ptr + 4)
  else do
    let sessionId ← readBe32 mem 4
    pure (sessionId, 8)

/-- `l2tp_udp_recv_core` up to its call of `l2tp_recv_common`. -/
def readUdpVerdict (hash : SessionHash) (net : L2tpNet n) (env : Env n) (badCsum : Bool) (t : ℕ)
    (tunnel : L2tpTunnel n) (skb : SkBuff) (hook : Option PayloadHook) : Traced (UdpVerdict n) :=
  if tunnel.sock.isSome && badCsum then pure .badCsum
  else
    let skb := skb.skbPull udphdrSize
    if !skb.pskbMayPull hdrSizeSeq then pure .passUp
    else do
      let hdrflags ← readBe16 skb.mem 0
      if (hdrflags &&& hdrVerMask).toNat ≠ tunnel.version then pure .passUp
      else if hdrflags &&& hdrflagT ≠ 0 then pure .passUp
      else do
        let ids ← readUdpSessionId tunnel.version skb.mem hdrflags
        pure (match l2tpSessionFind hash net (some t) ids.1 with
          | none => .passUp
          | some i =>
            if (net.sessions[i]?.bind (·.recvSkb)).isNone then .passUp
            else .session i { env, skb, ptr := ids.2, hdrflags, length := skb.len, hook })

@[simp] theorem value_readUdpSessionId (version : ℕ) (mem : List UInt8) (hdrflags : UInt16) :
    (readUdpSessionId version mem hdrflags).value = udpSessionId version mem hdrflags := by
  unfold readUdpSessionId udpSessionId
  split_ifs <;> rfl

/-- The verdict is the one of the untraced function. -/
theorem value_readUdpVerdict (hash : SessionHash) (net : L2tpNet n) (env : Env n) (badCsum : Bool)
    (t : ℕ) (tunnel : L2tpTunnel n) (skb : SkBuff) (hook : Option PayloadHook) :
    (readUdpVerdict hash net env badCsum t tunnel skb hook).value =
      udpRecvVerdict hash net env badCsum t tunnel skb hook := by
  unfold readUdpVerdict udpRecvVerdict
  dsimp only
  split_ifs with hcsum hshort hversion hcontrol
  · rfl
  · rfl
  · rw [value_bind, value_readBe16, if_pos hversion]
    rfl
  · rw [value_bind, value_readBe16, if_neg hversion, if_pos hcontrol]
    rfl
  · rw [value_bind, value_readBe16, if_neg hversion, if_neg hcontrol, value_bind,
      value_readUdpSessionId]
    rfl

/-- `l2tp_udp_recv_core` up to the `pskb_may_pull` of `l2tp_recv_common`. -/
def readUdpHeader (extent : CompareExtent) (hash : SessionHash) (net : L2tpNet n) (env : Env n)
    (badCsum : Bool) (t : ℕ) (tunnel : L2tpTunnel n) (skb : SkBuff) (hook : Option PayloadHook) :
    Traced (Option ℕ) := do
  let verdict ← readUdpVerdict hash net env badCsum t tunnel skb hook
  match verdict with
  | .session i call =>
    match net.flow i with
    | none => pure none
    | some flow => readHeader extent flow call
  | _ => pure none

/-! ### IP -/

/-- `l2tp_ip_recv` up to its call of `l2tp_recv_common`, or to its label `pass_up`. -/
def readIpVerdict (hash : SessionHash) (net : L2tpNet n) (env : Env n) (skb : SkBuff) :
    Traced (IpVerdict n) :=
  if !skb.pskbMayPull 4 then pure .discard
  else do
    let sessionId ← readBe32 skb.mem 0
    pure (if sessionId = 0 then .control (skb.skbPull 4)
      else
        match (l2tpSessionFind hash net none sessionId).bind fun i ↦ (net.flow i).map (i, ·) with
        | none => .discard
        | some (i, flow) =>
          .session i
            { env, skb, ptr := 4, hdrflags := 0, length := skb.len,
              hook := flow.tunnel.recvPayloadHook })

/-- The verdict is the one of the untraced function. -/
theorem value_readIpVerdict (hash : SessionHash) (net : L2tpNet n) (env : Env n) (skb : SkBuff) :
    (readIpVerdict hash net env skb).value = ipRecvVerdict hash net env skb := by
  unfold readIpVerdict ipRecvVerdict
  dsimp only
  split_ifs with hshort hcontrol
  · rfl
  · rw [value_bind, value_readBe32, value_pure, if_pos hcontrol]
  · rw [value_bind, value_readBe32, value_pure]
    exact if_neg hcontrol

/-- The label `pass_up` of `l2tp_ip_recv`, on the packet as it came: the tunnel id of a control
frame. -/
def readIpControl (skb : SkBuff) : Traced (Option UInt32) :=
  if !(skb.skbPull 4).pskbMayPull 12 then pure none
  else do
    let flags ← readByte skb.mem 4
    if flags &&& 0xc0 ≠ 0xc0 then pure none
    else do
      let tunnelId ← readBe32 skb.mem 8
      pure (some tunnelId)

/-- `l2tp_ip_recv` up to the `pskb_may_pull` of `l2tp_recv_common`, and for control frames up to the
lookup of the tunnel. -/
def readIpHeader (extent : CompareExtent) (hash : SessionHash) (net : L2tpNet n) (env : Env n)
    (skb : SkBuff) : Traced (Option ℕ) := do
  let verdict ← readIpVerdict hash net env skb
  match verdict with
  | .discard => pure none
  | .control _ => do
    let _tunnelId ← readIpControl skb
    pure none
  | .session i call =>
    match net.flow i with
    | none => pure none
    | some flow => readHeader extent flow call

/-! ### Room for the fields -/

/-- The bytes that are read for a sequence number. -/
def sequenceLen (version : ℕ) (params : SessionParams) (hdrflags : UInt16) : ℕ :=
  if version = hdrVer2 then if hdrflags &&& hdrflagS ≠ 0 then 4 else 0
  else if params.l2specificType = l2spectypeDefault then 4 else 0

/-- A frame without a sequence number is refused. -/
def L2tpSession.requiresSeq (session : L2tpSession n) : Bool :=
  session.recvSeq || session.lnsMode && session.sendSeq

theorem recvSeqPolicy_isSome_iff (tunnel : L2tpTunnel n) (session : L2tpSession n) (hasSeq : Bool) :
    (recvSeqPolicy tunnel session hasSeq).isSome = true ↔
      hasSeq = true ∨ session.requiresSeq = false := by
  unfold recvSeqPolicy L2tpSession.requiresSeq
  cases hasSeq <;> cases session.recvSeq <;> cases session.lnsMode <;> cases session.sendSeq <;>
    simp

section Room

variable {bound ptr : ℕ}

theorem within_readSequence_iff (version : ℕ) (params : SessionParams) (mem : List UInt8)
    (hdrflags : UInt16) (hptr : ptr ≤ bound) :
    Within bound (readSequence version params mem ptr hdrflags) ↔
      ptr + sequenceLen version params hdrflags ≤ bound := by
  unfold readSequence sequenceLen
  split_ifs
  · simp only [within_bind_iff, within_readBe16_iff, within_pure, and_true]
    omega
  · simpa using hptr
  · simp only [within_bind_iff, within_readBe32_iff, within_pure, and_true]
  · simpa using hptr

theorem within_readOffset_iff (version : ℕ) (params : SessionParams) (mem : List UInt8)
    (hdrflags : UInt16) :
    Within bound (readOffset version params mem ptr hdrflags) ↔
      (version = hdrVer2 → hdrflags &&& hdrflagO ≠ 0 → ptr + 2 ≤ bound) := by
  unfold readOffset
  split_ifs with hversion hflag
  · simp only [within_bind_iff, within_readBe16_iff, within_pure, and_true]
    exact ⟨fun h _ _ ↦ h, fun h ↦ h hversion hflag⟩
  · exact ⟨fun _ _ hset ↦ absurd hset hflag, fun _ ↦ within_pure _⟩
  · exact ⟨fun _ hset ↦ absurd hset hversion, fun _ ↦ within_pure _⟩

/-- In L2TPv2 a frame has a sequence number if its flags say so, and the position behind that. -/
theorem recvSequence_v2 {version : ℕ} (hversion : version = hdrVer2) (params : SessionParams)
    (skb : SkBuff) (ptr : ℕ) (hdrflags : UInt16) :
    ((recvSequence version params skb ptr hdrflags).1.isSome = true ↔
        hdrflags &&& hdrflagS ≠ 0) ∧
      (recvSequence version params skb ptr hdrflags).2 =
        ptr + sequenceLen version params hdrflags := by
  unfold recvSequence sequenceLen
  rw [if_pos hversion, if_pos hversion]
  split_ifs with hflag
  · exact ⟨iff_of_true rfl hflag, rfl⟩
  · exact ⟨iff_of_false Bool.false_ne_true hflag, rfl⟩

theorem within_readBehindCookie_iff (flow : Flow n) (call : RecvCall n) (hptr : ptr ≤ bound) :
    Within bound (readBehindCookie flow call ptr) ↔
      ptr + sequenceLen flow.tunnel.version flow.session.toSessionParams call.hdrflags ≤ bound ∧
        (flow.tunnel.version = hdrVer2 → call.hdrflags &&& hdrflagO ≠ 0 →
          (call.hdrflags &&& hdrflagS ≠ 0 ∨ flow.session.requiresSeq = false) →
          ptr + sequenceLen flow.tunnel.version flow.session.toSessionParams call.hdrflags +
            flow.session.l2specificLen.toNat + 2 ≤ bound) := by
  unfold readBehindCookie
  rw [within_bind_iff, within_readSequence_iff _ _ _ _ hptr, value_readSequence]
  refine and_congr_right fun _ ↦ ?_
  split_ifs with hpolicy
  · rw [recvSeqPolicy_isSome_iff] at hpolicy
    rw [within_bind_iff, within_readOffset_iff]
    constructor
    · rintro ⟨hoffset, -⟩ hversion hflag -
      have hroom := hoffset hversion hflag
      rw [(recvSequence_v2 hversion _ _ _ _).2] at hroom
      exact hroom
    · intro hoffset
      refine ⟨fun hversion hflag ↦ ?_, within_pure _⟩
      obtain ⟨hseq, hend⟩ := recvSequence_v2 hversion flow.session.toSessionParams call.skb ptr
        call.hdrflags
      rw [hseq] at hpolicy
      rw [hend]
      exact hoffset hversion hflag hpolicy
  · refine iff_of_true (within_pure _) fun hversion _ hallowed ↦ absurd ?_ hpolicy
    rw [recvSeqPolicy_isSome_iff, (recvSequence_v2 hversion _ _ _ _).1]
    exact hallowed

end Room

/-- The cookie of the session stands behind the ids. -/
def CookieFound (flow : Flow n) (call : RecvCall n) : Prop :=
  bytesAt call.skb.mem call.ptr flow.session.peerCookie.bytes.length =
    flow.session.peerCookie.bytes

instance (flow : Flow n) (call : RecvCall n) : Decidable (CookieFound flow call) :=
  inferInstanceAs (Decidable (_ = _))

/-- The packet has room for the fields that `l2tp_recv_common` looks at: for as much of the cookie
as `memcmp` reads, and, if that is the right one, for the sequence number and, in L2TPv2, for the
offset size, if the flags announce one and the frame is not refused before. -/
structure HeaderInside (extent : CompareExtent) (flow : Flow n) (call : RecvCall n) : Prop where
  cookie : call.ptr + extent.extent
    (bytesAt call.skb.mem call.ptr flow.session.peerCookie.bytes.length)
      flow.session.peerCookie.bytes ≤ call.skb.len
  sequence : CookieFound flow call →
    call.ptr + flow.session.peerCookie.bytes.length +
      sequenceLen flow.tunnel.version flow.session.toSessionParams call.hdrflags ≤ call.skb.len
  offset : CookieFound flow call → flow.tunnel.version = hdrVer2 →
    call.hdrflags &&& hdrflagO ≠ 0 →
    (call.hdrflags &&& hdrflagS ≠ 0 ∨ flow.session.requiresSeq = false) →
    call.ptr + flow.session.peerCookie.bytes.length +
      sequenceLen flow.tunnel.version flow.session.toSessionParams call.hdrflags +
      flow.session.l2specificLen.toNat + 2 ≤ call.skb.len

theorem within_readHeader_iff (extent : CompareExtent) (flow : Flow n) {call : RecvCall n}
    (hptr : call.ptr ≤ call.skb.len) :
    Within call.skb.len (readHeader extent flow call) ↔ HeaderInside extent flow call := by
  unfold readHeader
  dsimp only
  rw [within_bind_iff, within_compare_iff _ _ hptr, value_compare]
  by_cases hfound : bytesAt call.skb.mem call.ptr flow.session.peerCookie.bytes.length =
      flow.session.peerCookie.bytes
  · have hextent : extent.extent (bytesAt call.skb.mem call.ptr
        flow.session.peerCookie.bytes.length) flow.session.peerCookie.bytes =
          flow.session.peerCookie.bytes.length := by
      rw [hfound]
      exact extent.extent_self _
    rw [if_pos (decide_eq_true hfound)]
    constructor
    · rintro ⟨hcookie, hrest⟩
      rw [within_readBehindCookie_iff _ _ (by rwa [hextent] at hcookie)] at hrest
      exact ⟨hcookie, fun _ ↦ hrest.1, fun _ ↦ hrest.2⟩
    · intro hinside
      have hcookie := hinside.cookie
      refine ⟨hcookie, ?_⟩
      rw [within_readBehindCookie_iff _ _ (by rwa [hextent] at hcookie)]
      exact ⟨hinside.sequence hfound, hinside.offset hfound⟩
  · rw [if_neg (by simpa only [decide_eq_true_eq] using hfound)]
    constructor
    · rintro ⟨hcookie, -⟩
      exact ⟨hcookie, fun h ↦ absurd h hfound, fun h ↦ absurd h hfound⟩
    · intro hinside
      exact ⟨hinside.cookie, within_pure _⟩

/-! ### Packets over UDP -/

/-- The call of `l2tp_recv_common` for a data packet over UDP. -/
def udpCall (env : Env n) (tunnel : L2tpTunnel n) (skb : SkBuff) (hook : Option PayloadHook) :
    RecvCall n where
  env
  skb := skb.skbPull udphdrSize
  ptr := (udpSessionId tunnel.version (skb.skbPull udphdrSize).mem
    (be16At (skb.skbPull udphdrSize).mem 0)).2
  hdrflags := be16At (skb.skbPull udphdrSize).mem 0
  length := (skb.skbPull udphdrSize).len
  hook

/-- The packet is a data packet for session `i`, which has a receive handler. -/
structure UdpData (hash : SessionHash) (net : L2tpNet n) (badCsum : Bool) (t : ℕ)
    (tunnel : L2tpTunnel n) (skb : SkBuff) (i : ℕ) : Prop where
  checksum : (tunnel.sock.isSome && badCsum) = false
  long : hdrSizeSeq ≤ (skb.skbPull udphdrSize).len
  version : (be16At (skb.skbPull udphdrSize).mem 0 &&& hdrVerMask).toNat = tunnel.version
  isData : be16At (skb.skbPull udphdrSize).mem 0 &&& hdrflagT = 0
  find : l2tpSessionFind hash net (some t) (udpSessionId tunnel.version
    (skb.skbPull udphdrSize).mem (be16At (skb.skbPull udphdrSize).mem 0)).1 = some i
  handler : (net.sessions[i]?.bind (·.recvSkb)).isNone = false

theorem udpRecvVerdict_eq_session_iff (hash : SessionHash) (net : L2tpNet n) (env : Env n)
    (badCsum : Bool) (t : ℕ) (tunnel : L2tpTunnel n) (skb : SkBuff) (hook : Option PayloadHook)
    (i : ℕ) (call : RecvCall n) :
    udpRecvVerdict hash net env badCsum t tunnel skb hook = .session i call ↔
      UdpData hash net badCsum t tunnel skb i ∧ call = udpCall env tunnel skb hook := by
  unfold udpRecvVerdict
  dsimp only
  constructor
  · intro hverdict
    split_ifs at hverdict with hcsum hshort hversion hcontrol
    split at hverdict
    · exact absurd hverdict (by simp)
    · rename_i found hfind
      split_ifs at hverdict with hhandler
      obtain ⟨rfl, rfl⟩ := UdpVerdict.session.inj hverdict
      rw [Bool.not_eq_true, Bool.not_eq_false'] at hshort
      exact ⟨⟨eq_false_of_ne_true hcsum, of_decide_eq_true hshort, not_not.mp hversion,
        not_not.mp hcontrol, hfind, eq_false_of_ne_true hhandler⟩, rfl⟩
  · rintro ⟨hdata, rfl⟩
    have hlong : (skb.skbPull udphdrSize).pskbMayPull hdrSizeSeq = true := decide_eq_true hdata.long
    simp [hdata.checksum, hlong, hdata.version, hdata.isData, hdata.find, hdata.handler, udpCall]

/-- The ids end within the ten bytes that a packet over UDP must have. -/
theorem udpSessionId_snd_le (version : ℕ) (mem : List UInt8) (hdrflags : UInt16) :
    (udpSessionId version mem hdrflags).2 ≤ 8 := by
  unfold udpSessionId
  split_ifs <;> simp

theorem within_readUdpSessionId {bound : ℕ} (hbound : 8 ≤ bound) (version : ℕ) (mem : List UInt8)
    (hdrflags : UInt16) : Within bound (readUdpSessionId version mem hdrflags) := by
  unfold readUdpSessionId
  dsimp only
  split_ifs
  all_goals
    simp only [within_bind_iff, within_readBe16_iff, within_readBe32_iff, within_pure, and_true]
    omega

/-- Flags and ids are inside a packet that gets that far. -/
theorem within_readUdpVerdict (hash : SessionHash) (net : L2tpNet n) (env : Env n) (badCsum : Bool)
    (t : ℕ) (tunnel : L2tpTunnel n) (skb : SkBuff) (hook : Option PayloadHook) :
    Within (skb.skbPull udphdrSize).len
      (readUdpVerdict hash net env badCsum t tunnel skb hook) := by
  unfold readUdpVerdict
  dsimp only
  split_ifs with hcsum hshort
  · exact within_pure _
  · exact within_pure _
  · rw [Bool.not_eq_true, Bool.not_eq_false'] at hshort
    have hlong : 10 ≤ (skb.skbPull udphdrSize).len := of_decide_eq_true hshort
    rw [within_bind_iff, within_readBe16_iff]
    refine ⟨by omega, ?_⟩
    split_ifs
    · exact within_pure _
    · exact within_pure _
    · rw [within_bind_iff]
      exact ⟨within_readUdpSessionId (by omega) _ _ _, within_pure _⟩

theorem within_readUdpHeader_iff (extent : CompareExtent) (hash : SessionHash) (net : L2tpNet n)
    (env : Env n) (badCsum : Bool) (t : ℕ) (tunnel : L2tpTunnel n) (skb : SkBuff)
    (hook : Option PayloadHook) :
    Within (skb.skbPull udphdrSize).len
        (readUdpHeader extent hash net env badCsum t tunnel skb hook) ↔
      ∀ i flow, UdpData hash net badCsum t tunnel skb i → net.flow i = some flow →
        HeaderInside extent flow (udpCall env tunnel skb hook) := by
  unfold readUdpHeader
  rw [within_bind_iff, value_readUdpVerdict,
    and_iff_right (within_readUdpVerdict hash net env badCsum t tunnel skb hook)]
  cases hverdict : udpRecvVerdict hash net env badCsum t tunnel skb hook with
  | badCsum =>
    refine iff_of_true (within_pure _) fun i flow hdata ↦ ?_
    rw [(udpRecvVerdict_eq_session_iff ..).mpr ⟨hdata, rfl⟩] at hverdict
    exact absurd hverdict (by simp)
  | passUp =>
    refine iff_of_true (within_pure _) fun i flow hdata ↦ ?_
    rw [(udpRecvVerdict_eq_session_iff ..).mpr ⟨hdata, rfl⟩] at hverdict
    exact absurd hverdict (by simp)
  | session i call =>
    obtain ⟨hdata, rfl⟩ := (udpRecvVerdict_eq_session_iff ..).mp hverdict
    have honly : ∀ j, UdpData hash net badCsum t tunnel skb j → j = i := by
      intro j hj
      exact Option.some.inj (hj.find.symm.trans hdata.find)
    have hptr : (udpCall env tunnel skb hook).ptr ≤ (skb.skbPull udphdrSize).len :=
      (udpSessionId_snd_le ..).trans (le_trans (by decide) hdata.long)
    dsimp only
    cases hflow : net.flow i with
    | none =>
      refine iff_of_true (within_pure _) fun j flow hj hfound ↦ ?_
      rw [honly j hj, hflow] at hfound
      exact absurd hfound (by simp)
    | some flow =>
      refine (within_readHeader_iff extent flow hptr).trans ⟨?_, fun hall ↦ hall i flow hdata hflow⟩
      intro hinside j flow' hj hfound
      rw [honly j hj, hflow] at hfound
      rwa [← Option.some.inj hfound]

/-! ### Packets over IP -/

/-- The call of `l2tp_recv_common` for a data packet over IP. -/
def ipCall (env : Env n) (flow : Flow n) (skb : SkBuff) : RecvCall n where
  env
  skb
  ptr := 4
  hdrflags := 0
  length := skb.len
  hook := flow.tunnel.recvPayloadHook

/-- The packet is a data packet for session `i`. -/
structure IpData (hash : SessionHash) (net : L2tpNet n) (skb : SkBuff) (i : ℕ) : Prop where
  long : 4 ≤ skb.len
  isData : be32At skb.mem 0 ≠ 0
  find : l2tpSessionFind hash net none (be32At skb.mem 0) = some i

theorem ipRecvVerdict_eq_session {hash : SessionHash} {net : L2tpNet n} {skb : SkBuff} {i : ℕ}
    {flow : Flow n} (hdata : IpData hash net skb i) (hflow : net.flow i = some flow) (env : Env n) :
    ipRecvVerdict hash net env skb = .session i (ipCall env flow skb) := by
  have hlong : skb.pskbMayPull 4 = true := decide_eq_true hdata.long
  simp [ipRecvVerdict, hlong, hdata.isData, hdata.find, hflow, ipCall]

theorem ipData_of_session {hash : SessionHash} {net : L2tpNet n} {env : Env n} {skb : SkBuff}
    {i : ℕ} {call : RecvCall n} (hverdict : ipRecvVerdict hash net env skb = .session i call) :
    ∃ flow, IpData hash net skb i ∧ net.flow i = some flow ∧ call = ipCall env flow skb := by
  unfold ipRecvVerdict at hverdict
  dsimp only at hverdict
  split_ifs at hverdict with hshort hcontrol
  split at hverdict
  · exact absurd hverdict (by simp)
  · rename_i found flow hfound
    obtain ⟨rfl, rfl⟩ := IpVerdict.session.inj hverdict
    obtain ⟨j, hfind, hflow⟩ := Option.bind_eq_some_iff.mp hfound
    obtain ⟨flow', hflow', heq⟩ := Option.map_eq_some_iff.mp hflow
    obtain ⟨rfl, rfl⟩ := Prod.mk.inj heq
    rw [Bool.not_eq_true, Bool.not_eq_false'] at hshort
    exact ⟨flow', ⟨of_decide_eq_true hshort, hcontrol, hfind⟩, hflow', rfl⟩

/-- The session id is inside a packet that gets that far. -/
theorem within_readIpVerdict (hash : SessionHash) (net : L2tpNet n) (env : Env n) (skb : SkBuff) :
    Within skb.len (readIpVerdict hash net env skb) := by
  unfold readIpVerdict
  split_ifs with hshort
  · exact within_pure _
  · rw [Bool.not_eq_true, Bool.not_eq_false'] at hshort
    have hlong : 4 ≤ skb.len := of_decide_eq_true hshort
    rw [within_bind_iff, within_readBe32_iff]
    exact ⟨by omega, within_pure _⟩

/-- The fields of a control frame are inside the packet. -/
theorem within_readIpControl (skb : SkBuff) : Within skb.len (readIpControl skb) := by
  unfold readIpControl
  split_ifs with hshort
  · exact within_pure _
  · rw [Bool.not_eq_true, Bool.not_eq_false'] at hshort
    have hlong : 12 ≤ skb.len - 4 := by
      have hpulled : 12 ≤ (skb.skbPull 4).len := of_decide_eq_true hshort
      rwa [SkBuff.len, SkBuff.data_skbPull, List.length_drop] at hpulled
    rw [within_bind_iff, within_readByte_iff]
    refine ⟨by omega, ?_⟩
    split_ifs
    · exact within_pure _
    · rw [within_bind_iff, within_readBe32_iff]
      exact ⟨by omega, within_pure _⟩

theorem within_readIpHeader_iff (extent : CompareExtent) (hash : SessionHash) (net : L2tpNet n)
    (env : Env n) (skb : SkBuff) :
    Within skb.len (readIpHeader extent hash net env skb) ↔
      ∀ i flow, IpData hash net skb i → net.flow i = some flow →
        HeaderInside extent flow (ipCall env flow skb) := by
  unfold readIpHeader
  rw [within_bind_iff, value_readIpVerdict, and_iff_right (within_readIpVerdict hash net env skb)]
  cases hverdict : ipRecvVerdict hash net env skb with
  | discard =>
    refine iff_of_true (within_pure _) fun i flow hdata hflow ↦ ?_
    rw [ipRecvVerdict_eq_session hdata hflow] at hverdict
    exact absurd hverdict (by simp)
  | control skb' =>
    dsimp only
    rw [within_bind_iff]
    refine iff_of_true ⟨within_readIpControl skb, within_pure _⟩ fun i flow hdata hflow ↦ ?_
    rw [ipRecvVerdict_eq_session hdata hflow] at hverdict
    exact absurd hverdict (by simp)
  | session i call =>
    obtain ⟨flow, hdata, hflow, rfl⟩ := ipData_of_session hverdict
    dsimp only
    rw [hflow]
    refine (within_readHeader_iff extent flow hdata.long).trans
      ⟨?_, fun hall ↦ hall i flow hdata hflow⟩
    intro hinside j flow' hj hfound
    obtain rfl : j = i := Option.some.inj (hj.find.symm.trans hdata.find)
    rw [hflow] at hfound
    rwa [← Option.some.inj hfound]

/-- The header fields that the receive path reads are inside the packet exactly if the packet has
room for them: over UDP and over IP, for a data packet that is for a session, room for the cookie
and, if it is the right one, for the sequence number and the offset size. Flags and ids are always
inside, and so are the fields of a packet that is for no session. -/
theorem header_reads_inside_iff (extent : CompareExtent) (hash : SessionHash) (net : L2tpNet n)
    (env : Env n) :
    (∀ (badCsum : Bool) (t : ℕ) (tunnel : L2tpTunnel n) (skb : SkBuff) (hook : Option PayloadHook),
      Within (skb.skbPull udphdrSize).len
          (readUdpHeader extent hash net env badCsum t tunnel skb hook) ↔
        ∀ i flow, UdpData hash net badCsum t tunnel skb i → net.flow i = some flow →
          HeaderInside extent flow (udpCall env tunnel skb hook)) ∧
      ∀ skb : SkBuff, Within skb.len (readIpHeader extent hash net env skb) ↔
        ∀ i flow, IpData hash net skb i → net.flow i = some flow →
          HeaderInside extent flow (ipCall env flow skb) :=
  ⟨fun badCsum t tunnel skb hook ↦
    within_readUdpHeader_iff extent hash net env badCsum t tunnel skb hook,
    fun skb ↦ within_readIpHeader_iff extent hash net env skb⟩

/-- Ten bytes for session 7 over UDP with a length field and sequence numbers: they end before
Nr. -/
def truncatedUdp : SkBuff where
  id := 0
  head := []
  data := List.replicate udphdrSize 0 ++ be16 0x4802 ++ be16 10 ++ be16 1 ++ be16 7 ++ be16 0
  tail := []
  cb := { ns := 0, hasSeq := false, length := 0, expires := 0 }

/-- Four bytes for session 1 over IP: they end before the sublayer. -/
def truncatedIp : SkBuff := { truncatedUdp with data := be32 1 }

/-- A namespace with one L2TPv3 session over IP, which has the default sublayer. -/
def sublayerNet : L2tpNet 1 :=
  l2tpSessionCreate lowBits
    { emptyNet 1 with tunnels := [newTunnel 1 hdrVer3 1 2 .ip 0], tunnelList := [0] } 0
    (newTunnel 1 hdrVer3 1 2 .ip 0) 1 2
    { pwType := .eth, l2specificLen := 4, l2specificType := l2spectypeDefault }

theorem truncated_packets_read_outside :
    ¬ Within (truncatedUdp.skbPull udphdrSize).len
        (readUdpHeader compareAll lowBits (pppNet false) (sequencedCall cpu0 0 0 0).env false 0
          (pppFlow false).tunnel truncatedUdp (some .pppol2tpRecvPayloadHook)) ∧
      ¬ Within truncatedIp.len
        (readIpHeader compareAll lowBits sublayerNet (sequencedCall cpu0 0 0 0).env
          truncatedIp) := by
  decide

end KernelModules.L2tp
