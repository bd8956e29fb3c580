import KernelModules.L2tp.SessionRuns

/-!
# Whether a header fits its room

`hdr_len` is computed when a session is created and again whenever `send_seq` is set, by a netlink
command, by a socket option or by a frame of the peer: in the life of a session it is always what
`l2tp_session_set_header_len` would store now (`headerKept_sessionRun`).

What is stored need not be what the builder uses. The field has sixteen bits, and a cookie, a
sublayer and an offset may come to more. And the word of the default sublayer takes four bytes, of
which `l2specific_len` and `offset` together may leave less. Apart from these two, the builder goes
exactly as far as `hdr_len` says and writes nothing behind it (`headerMatches_iff`).
-/

set_option autoImplicit false
set_option relaxedAutoImplicit false

namespace KernelModules.L2tp

open Foundations

variable {n : ℕ}

/-! ### The stored length -/

/-- The length that `l2tp_session_set_header_len` stores. -/
def headerLen (encap : L2tpEncap) (version : ℕ) (params : SessionParams)
    (sendSeq : Bool) : UInt16 :=
  if version = hdrVer2 then if sendSeq then 6 + 4 else 6
  else
    let hdrLen := UInt16.ofNat (4 + params.cookie.bytes.length + params.l2specificLen.toNat +
      params.offset.toNat)
    if encap = .udp then hdrLen + 4 else hdrLen

theorem l2tpSessionSetHeaderLen_headerLen (tunnel : L2tpTunnel n) (session : L2tpSession n)
    (version : ℕ) : l2tpSessionSetHeaderLen tunnel session version =
      { session with
        hdrLen := headerLen tunnel.encap version session.toSessionParams session.sendSeq } := by
  unfold l2tpSessionSetHeaderLen headerLen
  split_ifs <;> rfl

/-- The header length of a session of the given tunnel and configuration is the one to be stored
now. -/
structure HeaderKept (encap : L2tpEncap) (version : ℕ) (params : SessionParams) (flow : Flow n) :
    Prop where
  encap_eq : flow.tunnel.encap = encap
  version_eq : flow.tunnel.version = version
  params_eq : flow.session.toSessionParams = params
  hdrLen_eq : flow.session.hdrLen = headerLen encap version params flow.session.sendSeq

namespace HeaderKept

variable {encap : L2tpEncap} {version : ℕ} {params : SessionParams} {flow flow' : Flow n}

theorem keepsSendSide (hkept : HeaderKept encap version params flow)
    (hkeeps : KeepsSendSide flow flow') : HeaderKept encap version params flow' := by
  obtain ⟨stats, htunnel⟩ := hkeeps.tunnel
  refine ⟨?_, ?_, hkeeps.params.trans hkept.params_eq, ?_⟩
  · rw [htunnel]
    exact hkept.encap_eq
  · rw [htunnel]
    exact hkept.version_eq
  · rw [hkeeps.hdrLen, hkeeps.sendSeq]
    exact hkept.hdrLen_eq

/-- Where `send_seq` is set, the length is stored again. -/
theorem setHeaderLen (hkept : HeaderKept encap version params flow) (sendSeq : Bool) :
    HeaderKept encap version params
      { flow with
        session := l2tpSessionSetHeaderLen flow.tunnel { flow.session with sendSeq }
          flow.tunnel.version } := by
  rw [l2tpSessionSetHeaderLen_headerLen]
  refine ⟨hkept.encap_eq, hkept.version_eq, hkept.params_eq, ?_⟩
  dsimp only
  rw [hkept.encap_eq, hkept.version_eq, hkept.params_eq]

theorem recvSwitch (hkept : HeaderKept encap version params flow) (call : RecvCall n) :
    HeaderKept encap version params (recvSwitch flow call) := by
  unfold L2tp.recvSwitch
  split
  · exact hkept
  · rename_i session hswitch
    obtain ⟨ptr, -, hpolicy⟩ := Option.bind_eq_some_iff.mp hswitch
    unfold recvSeqPolicy at hpolicy
    split_ifs at hpolicy
    all_goals rw [Option.some.injEq] at hpolicy; subst hpolicy
    · exact hkept.setHeaderLen true
    · exact hkept
    · exact hkept.setHeaderLen false
    · exact hkept

theorem sends (hkept : HeaderKept encap version params flow) (hsends : Sends flow flow') :
    HeaderKept encap version params flow' := by
  obtain heq | ⟨ns, packet, dstats, heq | ⟨env, heq⟩⟩ := hsends.sends
  all_goals
    rw [heq]
    exact ⟨hkept.encap_eq, hkept.version_eq, hkept.params_eq, hkept.hdrLen_eq⟩

theorem modifySession (hkept : HeaderKept encap version params flow)
    (request : SessionModifyRequest) :
    HeaderKept encap version params (flow.onSession (modifySession flow.tunnel request)) := by
  unfold L2tp.modifySession
  by_cases hsend : request.sendSeq.isSome = true
  · simp only [if_pos hsend]
    have hset := hkept.setHeaderLen (bitOf request.sendSeq)
    rw [l2tpSessionSetHeaderLen_headerLen] at hset
    simp only [l2tpSessionSetHeaderLen_headerLen]
    exact ⟨hset.encap_eq, hset.version_eq, hset.params_eq, hset.hdrLen_eq⟩
  · simp only [if_neg hsend]
    exact ⟨hkept.encap_eq, hkept.version_eq, hkept.params_eq, hkept.hdrLen_eq⟩

theorem setsockopt (hkept : HeaderKept encap version params flow) (optname : SessionOption)
    (val jiffies : Int32) :
    HeaderKept encap version params (flow.onSession fun session ↦
      (pppol2tpSessionSetsockopt flow.tunnel session optname val jiffies).1) := by
  unfold pppol2tpSessionSetsockopt
  by_cases hval : val ≠ 0 ∧ val ≠ 1
  · cases optname <;> simp only [if_pos hval]
    all_goals exact ⟨hkept.encap_eq, hkept.version_eq, hkept.params_eq, hkept.hdrLen_eq⟩
  · cases optname <;> simp only [if_neg hval]
    case sendSeq => exact hkept.setHeaderLen (decide (val ≠ 0))
    all_goals exact ⟨hkept.encap_eq, hkept.version_eq, hkept.params_eq, hkept.hdrLen_eq⟩

/-- No event makes the length stale. -/
theorem sessionStep (hkept : HeaderKept encap version params flow) (event : SessionEvent n) :
    HeaderKept encap version params (sessionStep flow event) := by
  cases event with
  | recv call =>
    exact (hkept.recvSwitch call).keepsSendSide (.l2tpRecvCommon flow call)
  | purge env => exact hkept.keepsSendSide (.l2tpSessionQueuePurge env flow)
  | ethXmit env skb => exact hkept.sends (sends_l2tpEthDevXmit env flow skb)
  | pppXmit env skb =>
    dsimp only [L2tp.sessionStep, pppXmitFlow]
    split_ifs
    · exact hkept.sends (sends_pppol2tpXmitFlow env flow skb)
    · exact hkept
  | sendmsg env call => exact hkept.sends (sends_pppol2tpSendmsgFlow env call flow)
  | modify request => exact hkept.modifySession request
  | setsockopt optname val jiffies => exact hkept.setsockopt optname val jiffies
  | connect call tunnelSock =>
    exact ⟨hkept.encap_eq, hkept.version_eq, hkept.params_eq, hkept.hdrLen_eq⟩
  | tunnel stats peerTunnelId recvPayloadHook sock =>
    exact ⟨hkept.encap_eq, hkept.version_eq, hkept.params_eq, hkept.hdrLen_eq⟩

end HeaderKept

section

variable (tunnel : L2tpTunnel n) (tunnelIndex : ℕ) (sessionId peerSessionId : UInt32)
  (cfg : L2tpSessionCfg) (hooks : SessionHooks)

theorem headerKept_newFlow : HeaderKept tunnel.encap tunnel.version
    (newSessionParams tunnel tunnelIndex sessionId peerSessionId cfg)
    (newFlow tunnel tunnelIndex sessionId peerSessionId cfg hooks) := by
  unfold newFlow newSession
  rw [l2tpSessionSetHeaderLen_headerLen]
  exact ⟨rfl, rfl, rfl, rfl⟩

/-- In the life of a session the header length is always the one to be stored now. -/
theorem headerKept_sessionRun (events : List (SessionEvent n)) :
    HeaderKept tunnel.encap tunnel.version
      (newSessionParams tunnel tunnelIndex sessionId peerSessionId cfg)
      (sessionRun (newFlow tunnel tunnelIndex sessionId peerSessionId cfg hooks) events) := by
  have hrun : ∀ flow, HeaderKept tunnel.encap tunnel.version
      (newSessionParams tunnel tunnelIndex sessionId peerSessionId cfg) flow →
      HeaderKept tunnel.encap tunnel.version
        (newSessionParams tunnel tunnelIndex sessionId peerSessionId cfg)
        (sessionRun flow events) := by
    induction events with
    | nil => exact fun _ hkept ↦ hkept
    | cons event events ih => exact fun flow hkept ↦ ih _ (hkept.sessionStep event)
  exact hrun _ (headerKept_newFlow tunnel tunnelIndex sessionId peerSessionId cfg hooks)

end

/-! ### What the builder does -/

/-- How far the builder goes, `bufp - optr` in bytes. -/
def headerAdvance (tunnel : L2tpTunnel n) (session : L2tpSession n) : ℕ :=
  match session.buildHeader with
  | .l2tpBuildL2tpv2Header => 2 + 2 + 2 + if session.sendSeq then 2 + 2 else 0
  | .l2tpBuildL2tpv3Header =>
    (if tunnel.encap = .udp then 2 + 2 else 0) + 4 + session.cookie.bytes.length +
      session.l2specificLen.toNat + session.offset.toNat

/-- The header fits its room: the builder goes as far as `hdr_len` says, and writes nothing
behind. -/
structure HeaderMatches (flow : Flow n) : Prop where
  length : flow.session.hdrLen.toNat = headerAdvance flow.tunnel flow.session
  inside : WritesBelow flow.session.hdrLen.toNat fun buf ↦
    (buildHeader flow.tunnel flow.session buf).2

/-- The length of an L2TPv3 header without the bound of its field. -/
def v3HeaderLen (encap : L2tpEncap) (params : SessionParams) : ℕ :=
  (if encap = .udp then 4 else 0) + 4 + params.cookie.bytes.length + params.l2specificLen.toNat +
    params.offset.toNat

/-- There is room for the header: it is one of L2TPv2, or its length fits sixteen bits, and a word
of the default sublayer has its four bytes. -/
def RoomForHeader (encap : L2tpEncap) (version : ℕ) (params : SessionParams) : Prop :=
  version = hdrVer2 ∨ v3HeaderLen encap params < 2 ^ 16 ∧
    (params.l2specificLen ≠ 0 → params.l2specificType = l2spectypeDefault →
      4 ≤ params.l2specificLen.toNat + params.offset.toNat)

theorem toNat_headerLen_v3 (encap : L2tpEncap) {version : ℕ} (params : SessionParams)
    (sendSeq : Bool) (hversion : version ≠ hdrVer2) :
    (headerLen encap version params sendSeq).toNat = v3HeaderLen encap params % 2 ^ 16 := by
  unfold headerLen v3HeaderLen
  rw [if_neg hversion]
  dsimp only
  split_ifs
  · rw [UInt16.toNat_add, UInt16.toNat_ofNat']
    have hfour : UInt16.toNat 4 = 4 := rfl
    omega
  · rw [UInt16.toNat_ofNat', Nat.zero_add]

/-- An L2TPv3 header: what comes before the sublayer, and the word of the default sublayer last. -/
theorem l2tpBuildL2tpv3Header_front (tunnel : L2tpTunnel n) (session : L2tpSession n) {start : ℕ}
    (hstart : start = (if tunnel.encap = .udp then 4 else 0) + 4 + session.cookie.bytes.length) :
    ∃ front : List UInt8 → List UInt8, (∀ buf, (front buf).length = buf.length) ∧
      WritesBelow start front ∧ ∀ buf, (l2tpBuildL2tpv3Header tunnel session buf).2 =
        if session.l2specificLen ≠ 0 ∧ session.l2specificType = l2spectypeDefault then
          writeAt (front buf) start (be32 (l2hWord session))
        else front buf := by
  unfold l2tpBuildL2tpv3Header buildL2specific
  by_cases hudp : tunnel.encap = .udp
  · simp only [hudp, if_true] at hstart ⊢
    refine ⟨fun buf ↦ writeAt (writeAt (writeAt buf 0 (be16 (UInt16.ofNat hdrVer3) ++ be16 0)) 4
      (be32 session.peerSessionId)) (4 + 4) session.cookie.bytes, fun buf ↦ by simp, ?_, ?_⟩
    · have hflags : WritesBelow start fun buf ↦
          writeAt buf 0 (be16 (UInt16.ofNat hdrVer3) ++ be16 0) :=
        writesBelow_writeAt (by rw [List.length_append, length_be16, length_be16]; omega)
      have hid : WritesBelow start fun buf ↦ writeAt buf 4 (be32 session.peerSessionId) :=
        writesBelow_writeAt (by rw [length_be32]; omega)
      have hcookie : WritesBelow start fun buf ↦ writeAt buf (4 + 4) session.cookie.bytes :=
        writesBelow_writeAt (by omega)
      exact hcookie.comp (hid.comp hflags)
    · intro buf
      rw [← hstart]
      split_ifs <;> rfl
  · simp only [hudp, if_false] at hstart ⊢
    refine ⟨fun buf ↦ writeAt (writeAt buf 0 (be32 session.peerSessionId)) (0 + 4)
      session.cookie.bytes, fun buf ↦ by simp, ?_, ?_⟩
    · have hid : WritesBelow start fun buf ↦ writeAt buf 0 (be32 session.peerSessionId) :=
        writesBelow_writeAt (by rw [length_be32]; omega)
      have hcookie : WritesBelow start fun buf ↦ writeAt buf (0 + 4) session.cookie.bytes :=
        writesBelow_writeAt (by omega)
      exact hcookie.comp hid
    · intro buf
      rw [← hstart]
      split_ifs <;> rfl

section Fits

variable {encap : L2tpEncap} {version : ℕ} {params : SessionParams} {flow : Flow n}

/-- An L2TPv2 header always fits. -/
theorem headerMatches_v2 (hkept : HeaderKept encap version params flow)
    (hversion : version = hdrVer2)
    (hbuilder : params.buildHeader = .l2tpBuildL2tpv2Header) : HeaderMatches flow := by
  have hbuild : flow.session.buildHeader = .l2tpBuildL2tpv2Header := by
    rw [hkept.params_eq, hbuilder]
  have hlen := hkept.hdrLen_eq
  rw [headerLen, if_pos hversion] at hlen
  cases hsend : flow.session.sendSeq with
  | false =>
    rw [hsend, if_neg Bool.false_ne_true] at hlen
    refine ⟨by simp [headerAdvance, hbuild, hsend, hlen], ?_⟩
    simp only [buildHeader, hbuild, l2tpBuildL2tpv2Header, hsend, if_neg Bool.false_ne_true]
    exact writesBelow_writeAt (by simp [hlen])
  | true =>
    rw [hsend, if_pos rfl] at hlen
    refine ⟨by simp [headerAdvance, hbuild, hsend, hlen], ?_⟩
    simp only [buildHeader, hbuild, l2tpBuildL2tpv2Header, hsend, if_true]
    exact writesBelow_writeAt (by simp [hlen])

/-- An L2TPv3 header fits exactly if its length fits the field and its word fits the header. -/
theorem headerMatches_v3_iff (hkept : HeaderKept encap version params flow)
    (hversion : version ≠ hdrVer2) (hbuilder : params.buildHeader = .l2tpBuildL2tpv3Header) :
    HeaderMatches flow ↔ RoomForHeader encap version params := by
  have hbuild : flow.session.buildHeader = .l2tpBuildL2tpv3Header := by
    rw [hkept.params_eq, hbuilder]
  have hlen : flow.session.hdrLen.toNat = v3HeaderLen encap params % 2 ^ 16 := by
    rw [hkept.hdrLen_eq, toNat_headerLen_v3 encap params _ hversion]
  have hadvance : headerAdvance flow.tunnel flow.session = v3HeaderLen encap params := by
    simp only [headerAdvance, hbuilder, v3HeaderLen, hkept.encap_eq, hkept.params_eq]
  obtain ⟨front, hlength, hfront, hbuf⟩ :=
    l2tpBuildL2tpv3Header_front flow.tunnel flow.session rfl
  have hbuilt : (fun buf ↦ (buildHeader flow.tunnel flow.session buf).2) = fun buf ↦
      (l2tpBuildL2tpv3Header flow.tunnel flow.session buf).2 := by
    funext buf
    rw [buildHeader, hbuild]
  rw [hkept.encap_eq, hkept.params_eq] at hbuf hfront
  set start := (if encap = .udp then 4 else 0) + 4 + params.cookie.bytes.length with hstart
  have hwhole : v3HeaderLen encap params =
      start + params.l2specificLen.toNat + params.offset.toNat := rfl
  constructor
  · intro hfits
    have hfield : v3HeaderLen encap params < 2 ^ 16 := by
      have hmod := hfits.length
      rw [hlen, hadvance] at hmod
      exact hmod ▸ Nat.mod_lt _ (by norm_num)
    refine Or.inr ⟨hfield, fun hnonzero hdefault ↦ ?_⟩
    by_contra hless
    have hinside := hfits.inside
    rw [hbuilt, hlen, Nat.mod_eq_of_lt hfield] at hinside
    simp only [hbuf, if_pos (And.intro hnonzero hdefault)] at hinside
    have hfour : (be32 (l2hWord flow.session)).length = 4 := length_be32 _
    exact not_writesBelow_writeAt hlength (by omega) (by omega) hinside
  · rintro (hv2 | ⟨hfield, hword⟩)
    · exact absurd hv2 hversion
    rw [Nat.mod_eq_of_lt hfield] at hlen
    refine ⟨hlen.trans hadvance.symm, ?_⟩
    rw [hbuilt, hlen]
    have hfront' : WritesBelow (v3HeaderLen encap params) front := hfront.mono (by omega)
    by_cases hwrites : params.l2specificLen ≠ 0 ∧ params.l2specificType = l2spectypeDefault
    · simp only [hbuf, if_pos hwrites]
      have hroom := hword hwrites.1 hwrites.2
      have hlast : WritesBelow (v3HeaderLen encap params) fun buf ↦
          writeAt buf start (be32 (l2hWord flow.session)) :=
        writesBelow_writeAt (by rw [length_be32]; omega)
      exact hlast.comp hfront'
    · simp only [hbuf, if_neg hwrites]
      exact hfront'

end Fits

/-- The header of a session fits its room, at any time of its life and whatever has been done to
`send_seq`, exactly if the configuration of the session leaves room for it. -/
theorem headerMatches_iff (tunnel : L2tpTunnel n) (tunnelIndex : ℕ)
    (sessionId peerSessionId : UInt32)
    (cfg : L2tpSessionCfg) (hooks : SessionHooks) (events : List (SessionEvent n)) :
    HeaderMatches
      (sessionRun (newFlow tunnel tunnelIndex sessionId peerSessionId cfg hooks) events) ↔
      RoomForHeader tunnel.encap tunnel.version
        (newSessionParams tunnel tunnelIndex sessionId peerSessionId cfg) := by
  have hkept := headerKept_sessionRun tunnel tunnelIndex sessionId peerSessionId cfg hooks events
  by_cases hversion : tunnel.version = hdrVer2
  · exact iff_of_true (headerMatches_v2 hkept hversion (if_pos hversion)) (Or.inl hversion)
  · exact headerMatches_v3_iff hkept hversion (if_neg hversion)

/-- A request for an Ethernet session whose payload lies far behind the header. -/
def farOffsetRequest : SessionCreateRequest where
  connId := some 1
  sessionId := some 1
  peerSessionId := some 1
  pwType := some 5
  offset := some 0xffff

/-- A request for an Ethernet session with a sublayer of one byte. -/
def narrowSublayerRequest : SessionCreateRequest where
  connId := some 1
  sessionId := some 1
  peerSessionId := some 1
  pwType := some 5
  l2specLen := some 1

/-- The session that such a request creates on an L2TPv3 tunnel over IP. -/
def requestedFlow (request : SessionCreateRequest) : Option (Flow 1) :=
  (sessionCfgOf hdrVer3 request).map fun cfg ↦
    newFlow (newTunnel 1 hdrVer3 1 2 .ip 0) 0 1 1 cfg
      { recvSkb := some .l2tpEthDevRecv, sessionClose := some .l2tpEthDelete }

/-- The header of the first session has 65543 bytes, and `hdr_len` is 7. That of the second has 5
bytes, and the builder writes 8: three bytes of the payload are lost. -/
theorem not_headerMatches_requested :
    (∃ flow, requestedFlow farOffsetRequest = some flow ∧ flow.session.hdrLen = 7 ∧
        headerAdvance flow.tunnel flow.session = 65543 ∧ ¬ HeaderMatches flow) ∧
      ∃ flow, requestedFlow narrowSublayerRequest = some flow ∧ flow.session.hdrLen = 5 ∧
        (buildHeader flow.tunnel flow.session (List.replicate 5 0 ++ [1, 2, 3, 4])).2 =
          [0, 0, 0, 1, 0, 0, 0, 0, 4] ∧ ¬ HeaderMatches flow := by
  refine ⟨⟨_, rfl, by decide, by decide, ?_⟩, ⟨_, rfl, by decide, by decide, ?_⟩⟩
  · intro hfits
    exact absurd hfits.length (by decide)
  · intro hfits
    exact absurd (hfits.inside (List.replicate 5 0 ++ [1, 2, 3, 4]) 5 (by decide)) (by decide)

end KernelModules.L2tp
