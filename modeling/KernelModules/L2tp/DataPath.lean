import KernelModules.L2tp.Control
import KernelModules.L2tp.Transmit

/-!
# What runs on one session

The functions that are given a session and its tunnel, whoever calls them: `l2tp_recv_common`,
`l2tp_session_queue_purge`, the three ways to transmit, and the two ways to change the settings of a
session. None of them touches what creation has fixed, the hooks of the session, or anything of the
tunnel but its statistics (`DataPath.keepsSetup`).
-/

set_option autoImplicit false
set_option relaxedAutoImplicit false

namespace KernelModules.L2tp

open Foundations

variable {n : ℕ}

/-- The functions that run on one session and its tunnel. -/
inductive DataPath : (Flow n → Flow n) → Prop
  | recv (call : RecvCall n) : DataPath fun flow ↦ l2tpRecvCommon flow call
  | purge (env : Env n) : DataPath (l2tpSessionQueuePurge env)
  | ethXmit (env : XmitEnv n) (skb : SkBuff) : DataPath fun flow ↦ l2tpEthDevXmit env flow skb
  | pppXmit (env : XmitEnv n) (skb : SkBuff) : DataPath fun flow ↦
      if flow.session.ps.tunnelSock.isSome && flow.tunnel.sock = flow.session.ps.tunnelSock then
        pppol2tpXmitFlow env flow skb
      else flow
  | sendmsg (env : XmitEnv n) (call : SendmsgCall) : DataPath (pppol2tpSendmsgFlow env call)
  | modify (request : SessionModifyRequest) : DataPath fun flow ↦
      flow.onSession (modifySession flow.tunnel request)
  | setsockopt (optname : SessionOption) (val jiffies : Int32) : DataPath fun flow ↦
      flow.onSession fun session ↦
        (pppol2tpSessionSetsockopt flow.tunnel session optname val jiffies).1

/-! ### What each of them does -/

theorem modifySession_eq (tunnel : L2tpTunnel n) (request : SessionModifyRequest)
    (session : L2tpSession n) :
    ∃ recvSeq sendSeq lnsMode hdrLen reorderTimeout mtu mru, modifySession tunnel request session =
      { session with recvSeq, sendSeq, lnsMode, hdrLen, reorderTimeout, mtu, mru } := by
  unfold modifySession
  dsimp only
  by_cases hsend : request.sendSeq.isSome = true
  · simp only [if_pos hsend]
    obtain ⟨hdrLen, heq⟩ := l2tpSessionSetHeaderLen_eq tunnel
      { session with
        recvSeq := if request.recvSeq.isSome then bitOf request.recvSeq else session.recvSeq
        sendSeq := bitOf request.sendSeq } tunnel.version
    rw [heq]
    exact ⟨_, _, _, _, _, _, _, rfl⟩
  · simp only [if_neg hsend]
    exact ⟨_, _, _, _, _, _, _, rfl⟩

theorem pppol2tpSessionSetsockopt_eq (tunnel : L2tpTunnel n) (session : L2tpSession n)
    (optname : SessionOption) (val jiffies : Int32) :
    ∃ recvSeq sendSeq lnsMode hdrLen reorderTimeout,
      (pppol2tpSessionSetsockopt tunnel session optname val jiffies).1 =
        { session with recvSeq, sendSeq, lnsMode, hdrLen, reorderTimeout } := by
  unfold pppol2tpSessionSetsockopt
  cases optname
  case sendSeq =>
    dsimp only
    split_ifs
    · exact ⟨_, _, _, _, _, rfl⟩
    · obtain ⟨hdrLen, heq⟩ := l2tpSessionSetHeaderLen_eq tunnel
        { session with sendSeq := decide (val ≠ 0) } tunnel.version
      exact ⟨_, _, _, _, _, heq⟩
  case recvSeq =>
    dsimp only
    split_ifs <;> exact ⟨_, _, _, _, _, rfl⟩
  case lnsMode =>
    dsimp only
    split_ifs <;> exact ⟨_, _, _, _, _, rfl⟩
  all_goals exact ⟨_, _, _, _, _, rfl⟩

/-- Building a header advances `ns` and nothing else. -/
theorem pushHeader_eq (flow : Flow n) (skb : SkBuff) (hdrLen : ℕ) :
    ∃ ns, (pushHeader flow skb hdrLen).1 = flow.onSession fun session ↦ { session with ns } := by
  unfold pushHeader buildHeader
  dsimp only
  cases flow.session.buildHeader with
  | l2tpBuildL2tpv2Header =>
    unfold l2tpBuildL2tpv2Header
    dsimp only
    split_ifs <;> exact ⟨_, rfl⟩
  | l2tpBuildL2tpv3Header =>
    unfold l2tpBuildL2tpv3Header buildL2specific
    dsimp only
    split_ifs <;> exact ⟨_, rfl⟩

/-- `l2tp_xmit_skb` gives the frame to `l2tp_xmit_core`: there is headroom, and the socket is not in
use. -/
def XmitEnv.reachesCore (env : XmitEnv n) : Bool := env.cowHead.isSome && !env.ownedByUser

/-- What `l2tp_xmit_skb` does, the bytes of the packet aside. -/
theorem l2tpXmitSkb_eq (env : XmitEnv n) (flow : Flow n) (skb : SkBuff) (hdrLen : ℕ) :
    ∃ ns packet, l2tpXmitSkb env flow skb hdrLen =
      if env.reachesCore then
        (l2tpXmitCore env (flow.onSession fun session ↦ { session with ns }) packet, true)
      else ((flow.onSession fun session ↦ { session with ns }).emit (.kfreeSkb packet), false) := by
  unfold l2tpXmitSkb XmitEnv.reachesCore
  dsimp only
  cases hcow : env.cowHead with
  | none => exact ⟨flow.session.ns, skb, rfl⟩
  | some fresh =>
    obtain ⟨roomy, hroomy⟩ : ∃ roomy, skbCowHead (some fresh) skb (env.netSkbPad + iphdrSize +
        (if flow.tunnel.encap = .udp then udphdrSize else 0) + hdrLen) = some roomy := ⟨_, rfl⟩
    obtain ⟨ns, hpush⟩ := pushHeader_eq flow roomy hdrLen
    rw [hroomy]
    dsimp only
    rw [hpush]
    cases env.ownedByUser with
    | true => exact ⟨ns, _, rfl⟩
    | false => exact ⟨ns, _, rfl⟩

/-- The frame is freed, or it is given to `l2tp_xmit_core`. -/
theorem l2tpXmitSkb_cases (env : XmitEnv n) (flow : Flow n) (skb : SkBuff) (hdrLen : ℕ) :
    ∃ ns packet,
      l2tpXmitSkb env flow skb hdrLen =
          ((flow.onSession fun session ↦ { session with ns }).emit (.kfreeSkb packet), false) ∨
        l2tpXmitSkb env flow skb hdrLen =
          (l2tpXmitCore env (flow.onSession fun session ↦ { session with ns }) packet, true) := by
  obtain ⟨ns, packet, heq⟩ := l2tpXmitSkb_eq env flow skb hdrLen
  refine ⟨ns, packet, ?_⟩
  rw [heq]
  split_ifs
  · exact Or.inr rfl
  · exact Or.inl rfl

/-- What the functions that transmit do. The device of an Ethernet session counts in addition. -/
structure Sends (flow flow' : Flow n) : Prop where
  sends : flow' = flow ∨ ∃ ns packet dstats,
    flow' = ((flow.onSession fun session ↦ { session with ns, dstats }).emit (.kfreeSkb packet)) ∨
      ∃ env, flow' =
        l2tpXmitCore env (flow.onSession fun session ↦ { session with ns, dstats }) packet

theorem sends_l2tpXmitSkb (env : XmitEnv n) (flow : Flow n) (skb : SkBuff) (hdrLen : ℕ) :
    Sends flow (l2tpXmitSkb env flow skb hdrLen).1 := by
  obtain ⟨ns, packet, heq | heq⟩ := l2tpXmitSkb_cases env flow skb hdrLen
  · rw [heq]
    exact ⟨Or.inr ⟨ns, packet, flow.session.dstats, Or.inl rfl⟩⟩
  · rw [heq]
    exact ⟨Or.inr ⟨ns, packet, flow.session.dstats, Or.inr ⟨env, rfl⟩⟩⟩

theorem sends_l2tpEthDevXmit (env : XmitEnv n) (flow : Flow n) (skb : SkBuff) :
    Sends flow (l2tpEthDevXmit env flow skb) := by
  unfold l2tpEthDevXmit
  obtain ⟨ns, packet, heq | heq⟩ := l2tpXmitSkb_cases env flow skb flow.session.hdrLen.toNat
  · rw [heq]
    exact ⟨Or.inr ⟨ns, packet, _, Or.inl rfl⟩⟩
  · rw [heq]
    exact ⟨Or.inr ⟨ns, packet, onCpu flow.session.dstats env.cpu fun d ↦
      { d with
        txBytes := d.txBytes + (UInt32.ofNat skb.len).toUInt64
        txPackets := d.txPackets + 1 }, Or.inr ⟨env, rfl⟩⟩⟩

theorem sends_pppol2tpXmitFlow (env : XmitEnv n) (flow : Flow n) (skb : SkBuff) :
    Sends flow (pppol2tpXmitFlow env flow skb) := by
  unfold pppol2tpXmitFlow
  dsimp only
  cases skbCowHead env.cowHead skb _ with
  | none => exact ⟨Or.inr ⟨flow.session.ns, skb, flow.session.dstats, Or.inl rfl⟩⟩
  | some skb => exact sends_l2tpXmitSkb env flow _ _

theorem sends_pppol2tpSendmsgFlow (env : XmitEnv n) (call : SendmsgCall) (flow : Flow n) :
    Sends flow (pppol2tpSendmsgFlow env call flow) := by
  unfold pppol2tpSendmsgFlow
  split
  · exact ⟨Or.inl rfl⟩
  · split
    · exact ⟨Or.inr ⟨flow.session.ns, _, flow.session.dstats, Or.inl rfl⟩⟩
    · exact sends_l2tpXmitSkb env flow _ _

/-- What the functions that change settings do. -/
def Sets (flow flow' : Flow n) : Prop :=
  ∃ recvSeq sendSeq lnsMode hdrLen reorderTimeout mtu mru, flow' = flow.onSession fun session ↦
    { session with recvSeq, sendSeq, lnsMode, hdrLen, reorderTimeout, mtu, mru }

/-- What a function of the data path does. -/
theorem DataPath.cases {f : Flow n → Flow n} (hf : DataPath f) (flow : Flow n) :
    (∃ call, f flow = l2tpRecvCommon flow call) ∨ (∃ env, f flow = l2tpSessionQueuePurge env flow) ∨
      Sends flow (f flow) ∨ Sets flow (f flow) := by
  cases hf with
  | recv call => exact Or.inl ⟨call, rfl⟩
  | purge env => exact Or.inr (Or.inl ⟨env, rfl⟩)
  | ethXmit env skb => exact Or.inr (Or.inr (Or.inl (sends_l2tpEthDevXmit env flow skb)))
  | pppXmit env skb =>
    refine Or.inr (Or.inr (Or.inl ?_))
    dsimp only
    split_ifs
    · exact sends_pppol2tpXmitFlow env flow skb
    · exact ⟨Or.inl rfl⟩
  | sendmsg env call => exact Or.inr (Or.inr (Or.inl (sends_pppol2tpSendmsgFlow env call flow)))
  | modify request =>
    obtain ⟨recvSeq, sendSeq, lnsMode, hdrLen, reorderTimeout, mtu, mru, heq⟩ :=
      modifySession_eq flow.tunnel request flow.session
    refine Or.inr (Or.inr (Or.inr ⟨recvSeq, sendSeq, lnsMode, hdrLen, reorderTimeout, mtu,
      mru, ?_⟩))
    dsimp only [Flow.onSession]
    rw [heq]
  | setsockopt optname val jiffies =>
    obtain ⟨recvSeq, sendSeq, lnsMode, hdrLen, reorderTimeout, heq⟩ :=
      pppol2tpSessionSetsockopt_eq flow.tunnel flow.session optname val jiffies
    refine Or.inr (Or.inr (Or.inr ⟨recvSeq, sendSeq, lnsMode, hdrLen, reorderTimeout,
      flow.session.mtu, flow.session.mru, ?_⟩))
    dsimp only [Flow.onSession]
    rw [heq]

/-! ### What none of them does -/

/-- What the data path leaves alone. -/
structure KeepsSetup (first flow : Flow n) : Prop where
  params : flow.session.toSessionParams = first.session.toSessionParams
  hooks : flow.session.toSessionHooks = first.session.toSessionHooks
  tunnel : ∃ stats, flow.tunnel = { first.tunnel with stats }

namespace KeepsSetup

theorem of_eq {first flow : Flow n}
    (hparams : flow.session.toSessionParams = first.session.toSessionParams)
    (hhooks : flow.session.toSessionHooks = first.session.toSessionHooks)
    (htunnel : flow.tunnel = first.tunnel) : KeepsSetup first flow :=
  ⟨hparams, hhooks, first.tunnel.stats, htunnel⟩

theorem refl (flow : Flow n) : KeepsSetup flow flow := of_eq rfl rfl rfl

theorem trans {first middle last : Flow n} (hfirst : KeepsSetup first middle)
    (hlast : KeepsSetup middle last) : KeepsSetup first last := by
  obtain ⟨stats, hstats⟩ := hfirst.tunnel
  obtain ⟨stats', hstats'⟩ := hlast.tunnel
  refine ⟨hlast.params.trans hfirst.params, hlast.hooks.trans hfirst.hooks, stats', ?_⟩
  rw [hstats', hstats]

theorem ref (flow : Flow n) : KeepsSetup flow flow.ref := of_eq (by simp) (by simp) (by simp)

theorem deref (flow : Flow n) : KeepsSetup flow flow.deref := of_eq (by simp) (by simp) (by simp)

theorem dequeueStep {env : Env n} {flow flow' : Flow n}
    (hstep : L2tp.dequeueStep env flow = some flow') : KeepsSetup flow flow' := by
  obtain ⟨skb, rest, tstats, counters, -, ⟨-, rfl⟩ | ⟨-, -, rfl⟩⟩ := dequeueStep_cases hstep
  · exact ⟨rfl, rfl, tstats, rfl⟩
  · rw [afterDelivery_eq]
    exact ⟨rfl, rfl, tstats, rfl⟩

theorem l2tpRecvCommon (flow : Flow n) (call : RecvCall n) :
    KeepsSetup flow (L2tp.l2tpRecvCommon flow call) := by
  obtain ⟨flow', skb, hsetup, htunnel, -, -, hcases⟩ := recvEnqueue_cases flow call
  have henqueue : KeepsSetup flow flow' := of_eq hsetup.params hsetup.hooks htunnel
  unfold L2tp.l2tpRecvCommon
  rcases hcases with ⟨heq, -⟩ | ⟨heq, -⟩
  · rw [heq]
    exact drain_induction _ _ henqueue fun _ _ ht hstep ↦ ht.trans (dequeueStep hstep)
  · rw [heq]
    exact henqueue

theorem recvDiscard (env : Env n) (flow : Flow n) (skb : SkBuff) :
    KeepsSetup flow (L2tp.recvDiscard env flow skb) :=
  of_eq (by simp [L2tp.recvDiscard]) (by simp [L2tp.recvDiscard]) (by simp [L2tp.recvDiscard])

theorem purgeStep {env : Env n} {flow flow' : Flow n}
    (hstep : L2tp.purgeStep env flow = some flow') : KeepsSetup flow flow' := by
  obtain ⟨skb, rest, -, rfl⟩ := purgeStep_eq_some hstep
  have htaken : KeepsSetup flow (flow.onSession fun session ↦ { session with reorderQ := rest }) :=
    of_eq rfl rfl rfl
  exact htaken.trans (recvDiscard env _ skb)

theorem l2tpSessionQueuePurge (env : Env n) (flow : Flow n) :
    KeepsSetup flow (L2tp.l2tpSessionQueuePurge env flow) :=
  drain_induction _ _ (refl flow) fun _ _ ht hstep ↦ ht.trans (purgeStep hstep)

end KeepsSetup

/-- The data path leaves the setup of a session alone. -/
theorem DataPath.keepsSetup {f : Flow n → Flow n} (hf : DataPath f) (flow : Flow n) :
    KeepsSetup flow (f flow) := by
  rcases hf.cases flow with ⟨call, heq⟩ | ⟨env, heq⟩ | hsends | hsets
  · rw [heq]
    exact .l2tpRecvCommon flow call
  · rw [heq]
    exact .l2tpSessionQueuePurge env flow
  · obtain heq | ⟨ns, packet, dstats, heq | ⟨env, heq⟩⟩ := hsends.sends
    · rw [heq]
      exact .refl flow
    · rw [heq]
      exact .of_eq rfl rfl rfl
    · rw [heq]
      exact ⟨rfl, rfl, _, rfl⟩
  · obtain ⟨_, _, _, _, _, _, _, heq⟩ := hsets
    rw [heq]
    exact .of_eq rfl rfl rfl

end KernelModules.L2tp
