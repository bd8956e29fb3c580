import KernelModules.L2tp.HeaderReads

/-!
# What a discarded frame changes

`l2tp_recv_common` checks and acts in turn. By the time a frame is discarded, an LAC may already
have followed the peer and switched its own sequence numbers on or off, and the header length with
it. A discarded frame leaves the session alone, statistics and the memory of lost frames aside,
exactly if it does not ask for that (`discard_leaves_session_iff`). Nr, `reorder_skip` and the
reorder queue are the same after every discard (`discarded_session`).
-/

set_option autoImplicit false
set_option relaxedAutoImplicit false

namespace KernelModules.L2tp

open Foundations

variable {n : ℕ}

/-! ### Following the peer -/

/-- The frame carries a sequence number. -/
def CarriesNumber (version : ℕ) (params : SessionParams) (call : RecvCall n) : Prop :=
  if version = hdrVer2 then call.hdrflags &&& hdrflagS ≠ 0
  else params.l2specificType = l2spectypeDefault ∧
    be32At call.skb.mem (call.ptr + params.peerCookie.bytes.length) &&& 0x40000000 ≠ 0

instance (version : ℕ) (params : SessionParams) (call : RecvCall n) :
    Decidable (CarriesNumber version params call) :=
  inferInstanceAs (Decidable (if version = hdrVer2 then _ else _))

/-- The frame has the right cookie and makes an LAC switch its sequence numbers on or off: it has a
number and the LAC sends none, or it has none, none is required, and the LAC sends them. -/
def AsksToSwitch (flow : Flow n) (call : RecvCall n) : Prop :=
  CookieFound flow call ∧ flow.session.lnsMode = false ∧
    (CarriesNumber flow.tunnel.version flow.session.toSessionParams call ∧
        flow.session.sendSeq = false ∨
      ¬ CarriesNumber flow.tunnel.version flow.session.toSessionParams call ∧
        flow.session.recvSeq = false ∧ flow.session.sendSeq = true)

instance (flow : Flow n) (call : RecvCall n) : Decidable (AsksToSwitch flow call) :=
  inferInstanceAs (Decidable (_ ∧ _ ∧ (_ ∨ _)))

/-- The session with its sequence numbers switched if the frame asks for it. -/
def switchedSession (flow : Flow n) (call : RecvCall n) : L2tpSession n :=
  if AsksToSwitch flow call then
    l2tpSessionSetHeaderLen flow.tunnel
      { flow.session with sendSeq := !flow.session.sendSeq } flow.tunnel.version
  else flow.session

theorem recvCookie_of_found {flow : Flow n} {call : RecvCall n} (hfound : CookieFound flow call) :
    recvCookie flow.session.toSessionParams call.skb call.ptr =
      some (call.ptr + flow.session.peerCookie.bytes.length) :=
  if_pos hfound

theorem recvCookie_of_not_found {flow : Flow n} {call : RecvCall n}
    (hfound : ¬ CookieFound flow call) :
    recvCookie flow.session.toSessionParams call.skb call.ptr = none :=
  if_neg hfound

theorem hasSeq_sequencedFrame (version : ℕ) (params : SessionParams) (call : RecvCall n) :
    (sequencedFrame version params call
      (call.ptr + params.peerCookie.bytes.length)).cb.hasSeq = true ↔
        CarriesNumber version params call := by
  unfold sequencedFrame CarriesNumber recvSequence
  rw [hasSeq_storeSequence]
  split_ifs with hversion hflag hword
  · exact iff_of_true rfl hflag
  · exact iff_of_false Bool.false_ne_true hflag
  · exact iff_of_true rfl hword
  · exact iff_of_false Bool.false_ne_true hword

/-- What the policy on sequence numbers makes of a session. -/
theorem recvSeqPolicy_eq_some {tunnel : L2tpTunnel n} {session session' : L2tpSession n}
    {hasSeq : Bool} (hpolicy : recvSeqPolicy tunnel session hasSeq = some session') :
    session' = if session.lnsMode = false ∧ (hasSeq = true ∧ session.sendSeq = false ∨
        ¬ hasSeq = true ∧ session.recvSeq = false ∧ session.sendSeq = true) then
      l2tpSessionSetHeaderLen tunnel { session with sendSeq := !session.sendSeq } tunnel.version
      else session := by
  unfold recvSeqPolicy at hpolicy
  cases hasSeq <;> cases hlns : session.lnsMode <;> cases hrecv : session.recvSeq <;>
    cases hsend : session.sendSeq <;> simp_all

/-- Admission changes no more of a session than the policy does, statistics aside. -/
theorem recvAdmit_session (flow : Flow n) (call : RecvCall n) :
    (recvAdmit flow call).1.tunnel = flow.tunnel ∧
      ∃ counters, (recvAdmit flow call).1.session =
        { switchedSession flow call with toSessionCounters := counters } := by
  unfold recvAdmit
  dsimp only
  by_cases hcookie : CookieFound flow call
  · rw [recvCookie_of_found hcookie]
    dsimp only
    have hnumber := hasSeq_sequencedFrame flow.tunnel.version flow.session.toSessionParams call
    cases hpolicy : recvSeqPolicy flow.tunnel flow.session (sequencedFrame flow.tunnel.version
      flow.session.toSessionParams call
        (call.ptr + flow.session.peerCookie.bytes.length)).cb.hasSeq with
    | none =>
      have hstays : ¬ AsksToSwitch flow call := by
        rintro ⟨-, hlns, ⟨hcarries, -⟩ | ⟨-, hrecv, -⟩⟩
        · rw [hnumber.mpr hcarries] at hpolicy
          simp [recvSeqPolicy, hlns] at hpolicy
          split_ifs at hpolicy
        · simp [recvSeqPolicy, hlns, hrecv] at hpolicy
          split_ifs at hpolicy
      rw [switchedSession, if_neg hstays]
      exact ⟨rfl, _, rfl⟩
    | some session =>
      have hsession : session = switchedSession flow call := by
        rw [recvSeqPolicy_eq_some hpolicy, switchedSession]
        refine if_congr ?_ rfl rfl
        rw [AsksToSwitch, hnumber, and_iff_right hcookie]
      rw [hsession]
      cases recvPayload (sequencedFrame flow.tunnel.version flow.session.toSessionParams call
        (call.ptr + flow.session.peerCookie.bytes.length)) (payloadOffset flow.tunnel.version
          flow.session.toSessionParams call
            (call.ptr + flow.session.peerCookie.bytes.length)) call.hook with
      | none => exact ⟨rfl, _, rfl⟩
      | some payload => exact ⟨rfl, _, rfl⟩
  · have hstays : ¬ AsksToSwitch flow call := fun hasks ↦ hcookie hasks.1
    rw [recvCookie_of_not_found hcookie, switchedSession, if_neg hstays]
    exact ⟨rfl, _, rfl⟩

/-! ### The exit `discard` -/

/-- A frame that `l2tp_recv_data_seq` refuses changes the memory of lost frames at most: had
`reorder_skip` been set, by now or before, the frame would not have been refused. -/
theorem session_refused {env : Env n} {flow : Flow n} {skb : SkBuff}
    (hrefused : (l2tpRecvDataSeq env flow skb).2 = true) :
    (l2tpRecvDataSeq env flow skb).1.tunnel = flow.tunnel ∧
      ∃ counters nrOos nrOosCount, (l2tpRecvDataSeq env flow skb).1.session =
        { flow.session with toSessionCounters := counters, nrOos, nrOosCount } := by
  rcases l2tpRecvDataSeq_cases env flow skb with
    ⟨-, heq⟩ | ⟨-, ⟨-, heq⟩ | ⟨-, ⟨-, heq⟩ | ⟨-, ⟨hskip, heq⟩ | ⟨-, heq⟩⟩⟩⟩
  · rw [heq]
    exact ⟨rfl, _, _, _, rfl⟩
  · rw [heq] at hrefused
    exact absurd hrefused Bool.false_ne_true
  · rw [heq] at hrefused
    exact absurd hrefused Bool.false_ne_true
  · have hbefore : (trackOos flow skb.cb.ns).session.reorderSkip = flow.session.reorderSkip := by
      rw [hskip]
      exact (Bool.or_eq_false_iff.mp hskip).1.symm
    have htracked : (trackOos flow skb.cb.ns).session =
        { flow.session with
          nrOos := (trackOos flow skb.cb.ns).session.nrOos
          nrOosCount := (trackOos flow skb.cb.ns).session.nrOosCount
          reorderSkip := (trackOos flow skb.cb.ns).session.reorderSkip } := rfl
    rw [hbefore] at htracked
    rw [heq, Flow.session_sessionStats, htracked]
    exact ⟨rfl, _, _, _, rfl⟩
  · rw [heq] at hrefused
    exact absurd hrefused Bool.false_ne_true

/-- What is left of the session after a discard: sequence numbers may have been switched, and
statistics and the memory of lost frames may have changed. -/
theorem discarded_session {flow : Flow n} {call : RecvCall n}
    (hdiscard : (recvEnqueue flow call).2 = false) :
    (l2tpRecvCommon flow call).tunnel = flow.tunnel ∧
      ∃ counters nrOos nrOosCount, (l2tpRecvCommon flow call).session =
        { switchedSession flow call with toSessionCounters := counters, nrOos, nrOosCount } := by
  have hcommon : l2tpRecvCommon flow call = (recvEnqueue flow call).1 := by
    unfold l2tpRecvCommon
    generalize recvEnqueue flow call = enqueued at hdiscard
    obtain ⟨flow', queued⟩ := enqueued
    obtain rfl : queued = false := hdiscard
    rfl
  have hadmission := recvAdmit_session flow.ref call
  have hswitched : switchedSession flow.ref call = switchedSession flow call := by
    rw [Flow.ref_eq]
    rfl
  rw [hswitched, Flow.tunnel_ref] at hadmission
  rw [hcommon]
  unfold recvEnqueue at hdiscard ⊢
  generalize recvAdmit flow.ref call = admission at hadmission hdiscard
  obtain ⟨flow', frame⟩ := admission
  obtain ⟨htunnel, counters, hsession⟩ := hadmission
  dsimp only at htunnel hsession
  cases frame with
  | error skb =>
    dsimp only
    rw [recvDiscard, Flow.deref_eq]
    exact ⟨htunnel, _, _, _, by rw [Flow.session_emit, Flow.session_sessionStats, hsession]⟩
  | ok skb =>
    dsimp only at hdiscard ⊢
    split_ifs at hdiscard ⊢ with hseq
    have hrefused : (l2tpRecvDataSeq call.env flow' skb).2 = true := by
      generalize l2tpRecvDataSeq call.env flow' skb = queued at hdiscard
      obtain ⟨last, discard⟩ := queued
      cases discard with
      | true => rfl
      | false => exact absurd hdiscard (by simp)
    have hkept := session_refused hrefused
    generalize l2tpRecvDataSeq call.env flow' skb = queued at hrefused hkept
    obtain ⟨last, discard⟩ := queued
    obtain rfl : discard = true := hrefused
    obtain ⟨hlast, counters', nrOos, nrOosCount, hkept⟩ := hkept
    dsimp only at hlast hkept ⊢
    rw [recvDiscard, Flow.deref_eq]
    exact ⟨hlast.trans htunnel, _, nrOos, nrOosCount,
      by rw [Flow.session_emit, Flow.session_sessionStats, hkept, hsession]⟩

/-- Nothing of the session has changed but statistics and the memory of lost frames. -/
def LeavesSession (first flow : Flow n) : Prop :=
  flow.tunnel = first.tunnel ∧ ∃ counters nrOos nrOosCount, flow.session =
    { first.session with toSessionCounters := counters, nrOos, nrOosCount }

theorem sendSeq_switchedSession {flow : Flow n} {call : RecvCall n}
    (hasks : AsksToSwitch flow call) :
    (switchedSession flow call).sendSeq = !flow.session.sendSeq := by
  obtain ⟨hdrLen, heq⟩ := l2tpSessionSetHeaderLen_eq flow.tunnel
    { flow.session with sendSeq := !flow.session.sendSeq } flow.tunnel.version
  rw [switchedSession, if_pos hasks, heq]

/-- A discarded frame leaves the session alone exactly if it does not make an LAC switch its
sequence numbers. Assumes: the frame takes the exit `discard`. -/
theorem discard_leaves_session_iff {flow : Flow n} {call : RecvCall n}
    (hdiscard : (recvEnqueue flow call).2 = false) :
    LeavesSession flow (l2tpRecvCommon flow call) ↔ ¬ AsksToSwitch flow call := by
  obtain ⟨htunnel, counters, nrOos, nrOosCount, hsession⟩ := discarded_session hdiscard
  constructor
  · rintro ⟨-, counters', nrOos', nrOosCount', hkept⟩ hasks
    have hsame : (switchedSession flow call).sendSeq = flow.session.sendSeq := by
      have hfields := congrArg L2tpSession.sendSeq (hsession.symm.trans hkept)
      exact hfields
    rw [sendSeq_switchedSession hasks] at hsame
    exact Bool.not_ne_self _ hsame
  · intro hstays
    rw [switchedSession, if_neg hstays] at hsession
    exact ⟨htunnel, counters, nrOos, nrOosCount, hsession⟩

/-- The call that `l2tp_udp_recv_core` makes for the packet that ends before Nr. -/
def truncatedCall : RecvCall 1 :=
  udpCall (sequencedCall cpu0 0 0 0).env (pppFlow false).tunnel truncatedUdp none

theorem discard_leaves_session_sending :
    LeavesSession (pppFlow true) (l2tpRecvCommon (pppFlow true) truncatedCall) :=
  (discard_leaves_session_iff (by decide)).mpr (by decide)

theorem not_leavesSession_truncated :
    (recvEnqueue (pppFlow false) truncatedCall).2 = false ∧
      ¬ LeavesSession (pppFlow false) (l2tpRecvCommon (pppFlow false) truncatedCall) := by
  refine ⟨by decide, fun hleaves ↦ ?_⟩
  obtain ⟨-, counters, nrOos, nrOosCount, hsession⟩ := hleaves
  have hswitched : (l2tpRecvCommon (pppFlow false) truncatedCall).session.sendSeq = true := by
    decide
  rw [hsession] at hswitched
  exact absurd hswitched Bool.false_ne_true

end KernelModules.L2tp
