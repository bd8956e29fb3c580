import KernelModules.Foundations.Resync
import KernelModules.L2tp.RecvSide

/-!
# Resynchronisation without reordering

A session that does not reorder takes the frame that Nr asks for. It finds its way back into a
stream in three ways: `nr_oos_count` counts frames that follow each other, a new session takes the
first frame that comes, and so does one after an expired frame. All three come behind the window
check, so a session is a `Lock`: `nr` is the number it expects, `nr_oos` and `nr_oos_count` are the
row of numbers out of sequence, and `reorder_skip` says to take whatever comes
(`handles_sequenced`).

A stream that starts outside the window is therefore discarded until it comes round to Nr. A peer
that starts over is behind Nr, and the first frame of a new session may be outside the window of
zero. Where a stream starts tells exactly whether the session finds its way into it (`resyncs_iff`).

Scope. The queue is empty when the stream begins. A session that had reordered before may still have
frames there, and these hold up the stream (`L2tp.LeftoverFrames`).
-/

set_option autoImplicit false
set_option relaxedAutoImplicit false

namespace KernelModules.L2tp

open Foundations

variable {n : ℕ}

/-! ### The session as a lock -/

/-- The numbers and the patience of a session. The row is counted in an `int`. -/
def SessionParams.lockRules (params : SessionParams) : LockRules where
  count := params.seqCount
  window := params.nrWindowSize.toNat
  patience := params.nrOosCountMax.toInt.toNat
  bump run := if run = 2 ^ 31 - 1 then -2 ^ 31 else run + 1

/-- What a session that does not reorder knows of the stream. -/
def L2tpSession.lock (session : L2tpSession n) : Lock where
  expected := session.nr.toNat
  last := session.nrOos.toNat
  run := session.nrOosCount.toInt
  skip := session.reorderSkip

theorem lock_eq {first flow : Flow n} (hkeeps : KeepsRecvSide first flow) :
    flow.session.lock = first.session.lock := by
  simp only [L2tpSession.lock, hkeeps.nr, hkeeps.nrOos, hkeeps.nrOosCount, hkeeps.reorderSkip]

/-- A session that does not reorder, with nothing in its queue. -/
structure Unqueued (flow : Flow n) : Prop extends Numbered flow where
  patience : flow.session.nrOosCountMax = 4
  timeout : flow.session.reorderTimeout = 0
  empty : flow.session.reorderQ = []

theorem SessionParams.SeqSpace.sound {params : SessionParams} (hspace : params.SeqSpace)
    (hpatience : params.nrOosCountMax = 4) : params.lockRules.Sound := by
  have hsizes := hspace.sizes
  have hfour : params.lockRules.patience = 4 := by
    simp only [SessionParams.lockRules, hpatience]
    rfl
  refine ⟨?_, ?_, fun run hrun ↦ if_neg ?_⟩
  · simp only [SessionParams.lockRules]
    omega
  · rw [hfour]
    simp only [SessionParams.lockRules]
    omega
  · rw [hfour] at hrun
    omega

/-- Counting in an `int`. -/
theorem toInt_succ (count : Int32) :
    (count + 1).toInt = if count.toInt = 2 ^ 31 - 1 then -2 ^ 31 else count.toInt + 1 := by
  have hlow := count.le_toInt
  have hhigh := count.toInt_lt
  have hone : Int32.toInt 1 = 1 := rfl
  rw [Int32.toInt_add, hone, Int.bmod_def]
  split_ifs <;> omega

/-! ### What a sequenced frame does -/

/-- How a call leaves a session with an empty queue: what it knows of the stream then, and the
frames that the call has handed over. -/
structure Handles (flow flow' : Flow n) (lock : Lock) (frames : List SkBuff) : Prop where
  queue : flow'.session.reorderQ = []
  lock_eq : flow'.session.lock = lock
  delivered_eq : delivered flow'.log = delivered flow.log ++ frames

/-- The frames that are handed over when a frame leaves the queue. -/
def handedOver (hooks : SessionHooks) (skb : SkBuff) : List SkBuff :=
  if hooks.recvSkb.isSome then [skb] else []

theorem delivered_handOverEffect (hooks : SessionHooks) (skb : SkBuff) :
    delivered [handOverEffect hooks skb] = handedOver hooks skb := by
  unfold handOverEffect handedOver
  split_ifs <;> rfl

theorem expires_of_admittedFrame {version : ℕ} {params : SessionParams} {call : RecvCall n}
    {skb : SkBuff} (hadmitted : admittedFrame version params 0 call = some skb) :
    skb.cb.expires = call.env.jiffies + call.env.hz := by
  obtain ⟨ptr, -, hrest⟩ := Option.bind_eq_some_iff.mp hadmitted
  obtain ⟨payload, -, rfl⟩ := Option.map_eq_some_iff.mp hrest
  simp [stampFrame]

theorem id_of_admittedFrame {version : ℕ} {params : SessionParams} {reorderTimeout : Int32}
    {call : RecvCall n} {skb : SkBuff}
    (hadmitted : admittedFrame version params reorderTimeout call = some skb) :
    skb.id = call.skb.id := by
  obtain ⟨ptr, -, hrest⟩ := Option.bind_eq_some_iff.mp hadmitted
  obtain ⟨payload, hpayload, rfl⟩ := Option.map_eq_some_iff.mp hrest
  exact (id_recvPayload hpayload).trans (id_storeSequence _ _)

/-- A single frame in the queue is delivered, if it has not expired and Nr asks for it. -/
theorem l2tpRecvDequeue_single {env : Env n} {flow : Flow n} {skb : SkBuff}
    (hqueue : flow.session.reorderQ = [skb])
    (hfresh : timeAfter env.jiffies skb.cb.expires = false)
    (hasked : skb.cb.hasSeq = true → skb.cb.ns = nrAtHead flow.session skb) :
    ∃ tstats counters, l2tpRecvDequeue env flow =
      (afterDelivery flow skb []).withStats tstats counters := by
  have hdequeue : l2tpRecvDequeue env flow = drain (dequeueStep env) 1 flow := by
    rw [l2tpRecvDequeue, hqueue, List.length_singleton]
  cases hstep : dequeueStep env flow with
  | none =>
    exfalso
    rcases dequeueStep_eq_none hstep with hnil | ⟨skb', rest, hcons, hseq, hskip, hne⟩
    · rw [hnil] at hqueue
      exact List.cons_ne_nil _ _ hqueue.symm
    · obtain ⟨rfl, -⟩ := List.cons.inj (hqueue.symm.trans hcons)
      have hnr := hasked hseq
      rw [nrAtHead, hskip, Bool.and_false, if_neg Bool.false_ne_true] at hnr
      exact hne hnr
  | some flow' =>
    obtain ⟨skb', rest, tstats, counters, hcons, hcases⟩ := dequeueStep_cases hstep
    obtain ⟨rfl, rfl⟩ := List.cons.inj (hqueue.symm.trans hcons)
    rcases hcases with ⟨hexpired, -⟩ | ⟨-, -, heq⟩
    · rw [hfresh] at hexpired
      exact absurd hexpired Bool.false_ne_true
    · refine ⟨tstats, counters, ?_⟩
      rw [hdequeue, drain_succ_some hstep, drain_zero, heq]

/-- The delivery of a sequenced frame: the session expects the next number. -/
theorem handles_delivery (flow : Flow n) (hspace : flow.session.toSessionParams.SeqSpace)
    {skb : SkBuff} (hseq : skb.cb.hasSeq = true) (hasked : skb.cb.ns = nrAtHead flow.session skb)
    (tstats : Fin n → L2tpStats) (counters : SessionCounters n) :
    Handles flow ((afterDelivery flow skb []).withStats tstats counters)
      { flow.session.lock with
        expected := (skb.cb.ns.toNat + 1) % flow.session.seqCount, skip := false }
      (handedOver flow.session.toSessionHooks skb) := by
  have hnext := hspace.toNat_succ_and_nrMax skb.cb.ns
  rw [afterDelivery_eq]
  refine ⟨rfl, ?_, ?_⟩
  · simp only [L2tpSession.lock, Flow.session_withStats, nrDelivered, hseq, if_true, ← hasked,
      Bool.not_true, Bool.false_and, hnext]
  · simp only [Flow.log_withStats, hseq, if_true, delivered_append, delivered_skipEffects,
      ← delivered_handOverEffect, List.nil_append]
    rw [← List.singleton_append (l := flow.session.derefEffects), delivered_append,
      delivered_derefEffects, List.append_nil]
    simp

/-- A frame out of sequence makes its row longer, or starts one. -/
theorem lock_trackOos {flow : Flow n} (hspace : flow.session.toSessionParams.SeqSpace)
    (hpatience : flow.session.nrOosCountMax = 4) (ns : UInt32) :
    (trackOos flow ns).session.lock =
      { flow.session.lock with
        last := ns.toNat
        run := flow.session.lock.runAt flow.session.lockRules ns.toNat
        skip := flow.session.reorderSkip ||
          decide ((flow.session.lockRules.patience : ℤ) <
            flow.session.lock.runAt flow.session.lockRules ns.toNat) } := by
  set nrOosCount := if ns = (flow.session.nrOos + 1) &&& flow.session.nrMax then
    flow.session.nrOosCount + 1 else 0 with hset
  have hcount : nrOosCount.toInt = flow.session.lock.runAt flow.session.lockRules ns.toNat := by
    have hiff : ns = (flow.session.nrOos + 1) &&& flow.session.nrMax ↔
        ns.toNat = (flow.session.lock.last + 1) % flow.session.lockRules.count := by
      change _ ↔ ns.toNat = (flow.session.nrOos.toNat + 1) % flow.session.seqCount
      rw [← hspace.toNat_succ_and_nrMax, UInt32.toNat_inj]
    unfold Lock.runAt
    by_cases hrow : ns = (flow.session.nrOos + 1) &&& flow.session.nrMax
    · rw [hset, if_pos hrow, if_pos (hiff.mp hrow)]
      exact toInt_succ flow.session.nrOosCount
    · rw [hset, if_neg hrow, if_neg fun hnumber ↦ hrow (hiff.mpr hnumber)]
      rfl
  have hfour : flow.session.nrOosCountMax.toInt = flow.session.lockRules.patience := by
    simp only [SessionParams.lockRules, hpatience]
    rfl
  have hlong : decide (nrOosCount > flow.session.nrOosCountMax) =
      decide ((flow.session.lockRules.patience : ℤ) <
        flow.session.lock.runAt flow.session.lockRules ns.toNat) := by
    apply decide_eq_decide.mpr
    rw [gt_iff_lt, Int32.lt_iff_toInt_lt, hcount, hfour]
  change Lock.mk _ _ nrOosCount.toInt
    (flow.session.reorderSkip || decide (nrOosCount > flow.session.nrOosCountMax)) = _
  rw [hcount, hlong]
  rfl

section Sequenced

variable {env : Env n} {flow : Flow n} {skb : SkBuff}

theorem handles_recvDiscard (env : Env n) (flow : Flow n) (skb : SkBuff)
    (hempty : flow.session.reorderQ = []) :
    Handles flow (recvDiscard env flow skb) flow.session.lock [] := by
  unfold recvDiscard
  rw [Flow.deref_eq]
  refine ⟨hempty, rfl, ?_⟩
  simp

/-- A frame that is alone in the queue is delivered when Nr asks for it. -/
theorem handles_alone (env : Env n) (flow : Flow n) (hspace : flow.session.toSessionParams.SeqSpace)
    (hempty : flow.session.reorderQ = []) (hseq : skb.cb.hasSeq = true)
    (hfresh : timeAfter env.jiffies skb.cb.expires = false)
    (hasked : skb.cb.ns = nrAtHead (skbQueueTail flow skb).session skb) :
    Handles flow (l2tpRecvDequeue env (skbQueueTail flow skb))
      { flow.session.lock with
        expected := (skb.cb.ns.toNat + 1) % flow.session.seqCount, skip := false }
      (handedOver flow.session.toSessionHooks skb) := by
  have hqueue : (skbQueueTail flow skb).session.reorderQ = [skb] := by
    simp [skbQueueTail, hempty]
  obtain ⟨tstats, counters, hdequeue⟩ := l2tpRecvDequeue_single hqueue hfresh fun _ ↦ hasked
  have hdelivery := handles_delivery (skbQueueTail flow skb) hspace hseq hasked tstats counters
  rw [hdequeue]
  exact ⟨hdelivery.queue, hdelivery.lock_eq, hdelivery.delivered_eq⟩

/-- The window test is that of the lock. -/
theorem Unqueued.inWindow_iff (hunqueued : Unqueued flow) {ns : UInt32}
    (hns : ns.toNat < flow.session.seqCount) :
    l2tpSeqCheckRxWindow flow.session ns = true ↔
      ahead flow.session.lockRules.count flow.session.lock.expected ns.toNat <
        flow.session.lockRules.window :=
  l2tpSeqCheckRxWindow_iff hunqueued.space hunqueued.nr hns

/-- Nr is what the lock expects. -/
theorem eq_lock_expected_iff (session : L2tpSession n) (ns : UInt32) :
    ns.toNat = session.lock.expected ↔ ns = session.nr :=
  UInt32.toNat_inj

/-- A sequenced frame at the queue, when nothing is in it: the session does what the lock does. -/
theorem handles_dataSeq (env : Env n) (hunqueued : Unqueued flow) (hseq : skb.cb.hasSeq = true)
    (hns : skb.cb.ns.toNat < flow.session.seqCount)
    (hfresh : timeAfter env.jiffies skb.cb.expires = false) :
    Handles flow
      (match l2tpRecvDataSeq env flow skb with
        | (flow', true) => recvDiscard env flow' skb
        | (flow', false) => l2tpRecvDequeue env flow')
      (flow.session.lock.step flow.session.lockRules skb.cb.ns.toNat).1
      (if (flow.session.lock.step flow.session.lockRules skb.cb.ns.toNat).2 then
        handedOver flow.session.toSessionHooks skb else []) := by
  have hwindow := hunqueued.inWindow_iff hns
  have hexpected := eq_lock_expected_iff flow.session skb.cb.ns
  have htrack := lock_trackOos hunqueued.space hunqueued.patience skb.cb.ns
  rcases l2tpRecvDataSeq_cases env flow skb with
    ⟨houtside, heq⟩ | ⟨hinside, ⟨htimeout, -⟩ | ⟨-, ⟨hnr, heq⟩ | ⟨hnr, hcases⟩⟩⟩
  · rw [houtside] at hwindow
    have hoff := Nat.le_of_not_lt fun hlt ↦ absurd (hwindow.mpr hlt) Bool.false_ne_true
    rw [heq, Lock.step_of_outside hoff]
    exact handles_recvDiscard env flow skb hunqueued.empty
  · exact absurd hunqueued.timeout htimeout
  · have hasked : skb.cb.ns = nrAtHead (skbQueueTail flow skb).session skb := by
      unfold nrAtHead
      split_ifs
      · rfl
      · exact hnr
    rw [heq, Lock.step_of_expected (hwindow.mp hinside) (hexpected.mpr hnr), if_pos rfl]
    exact handles_alone env flow hunqueued.space hunqueued.empty hseq hfresh hasked
  · have hne : skb.cb.ns.toNat ≠ flow.session.lock.expected := fun h ↦ hnr (hexpected.mp h)
    have hskipEq : (trackOos flow skb.cb.ns).session.reorderSkip =
        (flow.session.lock.skip || decide ((flow.session.lockRules.patience : ℤ) <
          flow.session.lock.runAt flow.session.lockRules skb.cb.ns.toNat)) :=
      congrArg Lock.skip htrack
    rcases hcases with ⟨hskip, heq⟩ | ⟨hskip, heq⟩
    · have hshort := hskipEq.symm.trans hskip
      rw [Bool.or_eq_false_iff, decide_eq_false_iff_not, not_lt] at hshort
      have hdiscard := handles_recvDiscard env
        ((trackOos flow skb.cb.ns).sessionStats env.cpu fun s ↦
        { s with rxSeqDiscards := s.rxSeqDiscards + 1 }) skb hunqueued.empty
      rw [heq, Lock.step_of_short (hwindow.mp hinside) hne hshort.1 hshort.2]
      refine ⟨hdiscard.queue, hdiscard.lock_eq.trans (htrack.trans ?_), hdiscard.delivered_eq⟩
      exact congrArg (Lock.mk _ _ _) (hskipEq.symm.trans (hskip.trans hshort.1.symm))
    · have hlong := hskipEq.symm.trans hskip
      rw [Bool.or_eq_true, decide_eq_true_iff] at hlong
      have hasked : skb.cb.ns =
          nrAtHead (skbQueueTail (trackOos flow skb.cb.ns) skb).session skb := by
        have hset : (skbQueueTail (trackOos flow skb.cb.ns) skb).session.reorderSkip = true := hskip
        rw [nrAtHead, hseq, hset, Bool.and_self, if_pos rfl]
      have hempty : (trackOos flow skb.cb.ns).session.reorderQ = [] := hunqueued.empty
      have halone := handles_alone env (trackOos flow skb.cb.ns) hunqueued.space hempty hseq hfresh
        hasked
      rw [heq, Lock.step_of_long (hwindow.mp hinside) hne hlong, if_pos rfl]
      refine ⟨halone.queue, halone.lock_eq.trans ?_, halone.delivered_eq⟩
      have hlast := congrArg Lock.last htrack
      have hrun := congrArg Lock.run htrack
      exact congrArg₂ (fun last run ↦ Lock.mk
        ((skb.cb.ns.toNat + 1) % flow.session.seqCount) last run
        false) hlast hrun

/-- `l2tp_recv_common` for a sequenced frame that passes the checks before the queue. -/
theorem l2tpRecvCommon_sequenced {call : RecvCall n}
    (hadmitted : admittedFrame flow.tunnel.version flow.session.toSessionParams
      flow.session.reorderTimeout call = some skb) (hseq : skb.cb.hasSeq = true) :
    ∃ sendSeq hdrLen, l2tpRecvCommon flow call =
      match l2tpRecvDataSeq call.env
        (flow.ref.onSession fun session ↦ { session with sendSeq, hdrLen }) skb with
      | (flow', true) => recvDiscard call.env flow' skb
      | (flow', false) => l2tpRecvDequeue call.env flow' := by
  obtain ⟨sendSeq, hdrLen, haccept⟩ : ∃ sendSeq hdrLen, recvAdmit flow.ref call =
      (flow.ref.onSession fun session ↦ { session with sendSeq, hdrLen }, .ok skb) := by
    apply recvAdmit_of_admittedFrame _ hseq
    rw [Flow.tunnel_ref, Flow.session_ref]
    exact hadmitted
  refine ⟨sendSeq, hdrLen, ?_⟩
  simp only [l2tpRecvCommon, recvEnqueue, haccept, hseq, if_true]
  rcases l2tpRecvDataSeq call.env
    (flow.ref.onSession fun session ↦ { session with sendSeq, hdrLen }) skb with ⟨flow', _ | _⟩
  · rfl
  · rfl

/-- A sequenced frame moves a session without a queue as it moves the lock, and is handed over
exactly if the lock takes it and there is a receive handler. -/
theorem handles_sequenced {call : RecvCall n} (hunqueued : Unqueued flow)
    (hadmitted : admittedFrame flow.tunnel.version flow.session.toSessionParams 0 call = some skb)
    (hseq : skb.cb.hasSeq = true) (hhz : call.env.hz.toNat < 2 ^ 63) :
    Handles flow (l2tpRecvCommon flow call)
      (flow.session.lock.step flow.session.lockRules skb.cb.ns.toNat).1
      (if (flow.session.lock.step flow.session.lockRules skb.cb.ns.toNat).2 then
        handedOver flow.session.toSessionHooks skb else []) := by
  have hfresh : timeAfter call.env.jiffies skb.cb.expires = false := by
    rw [expires_of_admittedFrame hadmitted]
    exact timeAfter_add hhz
  have hns := hunqueued.toNumbered.admitted_lt hadmitted hseq
  obtain ⟨sendSeq, hdrLen, hcommon⟩ :=
    l2tpRecvCommon_sequenced (by rw [hunqueued.timeout]; exact hadmitted) hseq
  have hbegun : Unqueued (flow.ref.onSession fun session ↦ { session with sendSeq, hdrLen }) := by
    rw [Flow.ref_eq]
    exact { hunqueued with }
  have hdata := handles_dataSeq call.env hbegun hseq (by simpa using hns) hfresh
  rw [hcommon]
  rw [Flow.ref_eq] at hdata ⊢
  refine ⟨hdata.queue, hdata.lock_eq, hdata.delivered_eq.trans ?_⟩
  simp only [Flow.log_onSession, delivered_append, delivered_refEffects, List.append_nil]
  rfl

end Sequenced

/-! ### What other events do -/

/-- An event that is not the arrival of a sequenced frame and does not switch reordering on. -/
def SessionEvent.Aside (version : ℕ) (params : SessionParams) : SessionEvent n → Prop
  | .recv call => call.env.hz.toNat < 2 ^ 63 ∧
      ∀ skb, admittedFrame version params 0 call = some skb → skb.cb.hasSeq = false
  | .modify request =>
      ∀ timeout, request.recvTimeout = some timeout → timeout.toUInt32.toInt32 = 0
  | .setsockopt optname _ jiffies => optname = .reorderTimeout → jiffies = 0
  | _ => True

section Aside

variable {flow : Flow n}

/-- Before the dequeue loop, a frame without a number does not touch what is known of the stream. -/
theorem recvEnqueue_unsequenced {call : RecvCall n}
    (hplain : ∀ skb, admittedFrame flow.tunnel.version flow.session.toSessionParams
      flow.session.reorderTimeout call = some skb → skb.cb.hasSeq = false) :
    ∃ sendSeq hdrLen counters reorderQ, (recvEnqueue flow call).1.session =
      { flow.session with sendSeq, hdrLen, toSessionCounters := counters, reorderQ } := by
  rcases recvAdmit_cases flow.ref call with
    ⟨change, skb, -, -, heq⟩ | ⟨sendSeq, hdrLen, skb, -, heq | heq⟩
  · rw [recvEnqueue, heq]
    simp only [recvDiscard, Flow.session_deref, Flow.session_emit, Flow.session_sessionStats,
      Flow.session_ref]
    exact ⟨_, _, _, _, rfl⟩
  · rw [recvEnqueue, heq]
    simp only [recvDiscard, Flow.session_deref, Flow.session_emit, Flow.session_sessionStats,
      Flow.session_onSession, Flow.session_ref]
    exact ⟨_, _, _, _, rfl⟩
  · have hadmitted := admittedFrame_of_recvAdmit heq
    rw [Flow.tunnel_ref, Flow.session_ref] at hadmitted
    rw [recvEnqueue, heq]
    simp only [hplain skb hadmitted, if_neg Bool.false_ne_true, skbQueueTail,
      Flow.session_onSession, Flow.session_ref]
    exact ⟨_, _, _, _, rfl⟩

/-- A frame without a number that comes to an empty queue is handed over at once. -/
theorem Unqueued.recv_unsequenced (hunqueued : Unqueued flow) {flow' : Flow n} {call : RecvCall n}
    {skb : SkBuff} (heq : recvEnqueue flow call = (flow', true))
    (hadmitted : admittedFrame flow.tunnel.version flow.session.toSessionParams 0 call = some skb)
    (hperm : flow'.session.reorderQ.Perm (skb :: flow.session.reorderQ))
    (hseq : skb.cb.hasSeq = false) (hhz : call.env.hz.toNat < 2 ^ 63) :
    ∃ tstats counters,
      l2tpRecvCommon flow call = (afterDelivery flow' skb []).withStats tstats counters := by
  have hqueue : flow'.session.reorderQ = [skb] := by
    rw [hunqueued.empty] at hperm
    exact List.perm_singleton.mp hperm
  have hfresh : timeAfter call.env.jiffies skb.cb.expires = false := by
    rw [expires_of_admittedFrame hadmitted]
    exact timeAfter_add hhz
  have hcommon : l2tpRecvCommon flow call = l2tpRecvDequeue call.env flow' := by
    rw [l2tpRecvCommon, heq]
  rw [hcommon]
  exact l2tpRecvDequeue_single hqueue hfresh fun hset ↦
    absurd (hseq.symm.trans hset) Bool.false_ne_true

/-- A frame without a number passes through an empty queue and leaves it empty. -/
theorem Unqueued.keepsRecvSide_recv (hunqueued : Unqueued flow) {call : RecvCall n}
    (haside : (SessionEvent.recv call).Aside flow.tunnel.version flow.session.toSessionParams) :
    KeepsRecvSide flow (l2tpRecvCommon flow call) := by
  have hsetup := sameSetup_l2tpRecvCommon flow call
  obtain ⟨hhz, hplain⟩ := haside
  obtain ⟨sendSeq, hdrLen, counters, reorderQ, hsession⟩ := recvEnqueue_unsequenced (by
    rw [hunqueued.timeout]
    exact hplain)
  obtain ⟨flow', skb, -, -, -, -, ⟨heq, hadmitted, hperm, -⟩ | ⟨heq, hqueue, -⟩⟩ :=
    recvEnqueue_cases flow call
  · rw [hunqueued.timeout] at hadmitted
    rw [heq] at hsession
    dsimp only at hsession
    have hseq := hplain skb hadmitted
    obtain ⟨tstats, counters, hcommon⟩ :=
      hunqueued.recv_unsequenced heq hadmitted hperm hseq hhz
    rw [afterDelivery_eq] at hcommon
    refine ⟨hsetup.version, hsetup.params, ?_, ?_, ?_, ?_, ?_⟩
    all_goals rw [hcommon]
    · simp [nrDelivered, hseq, hsession]
    · exact hunqueued.empty.symm
    all_goals simp [hseq, hsession]
  · have hcommon : l2tpRecvCommon flow call = flow' := by
      rw [l2tpRecvCommon, heq]
    rw [heq] at hsession
    dsimp only at hsession
    refine ⟨hsetup.version, hsetup.params, ?_, by rw [hcommon]; exact hqueue, ?_, ?_, ?_⟩
    all_goals rw [hcommon, hsession]

/-- An event aside does not touch what a reception depends on. -/
theorem Unqueued.keepsRecvSide_sessionStep (hunqueued : Unqueued flow) {event : SessionEvent n}
    (haside : event.Aside flow.tunnel.version flow.session.toSessionParams) :
    KeepsRecvSide flow (sessionStep flow event) := by
  by_cases hrecv : ∃ call, event = .recv call
  · obtain ⟨call, rfl⟩ := hrecv
    exact hunqueued.keepsRecvSide_recv haside
  · by_cases hpurge : ∃ env, event = .purge env
    · obtain ⟨env, rfl⟩ := hpurge
      have hnothing : sessionStep flow (.purge env) = flow := by
        change drain (purgeStep env) flow.session.reorderQ.length flow = flow
        rw [hunqueued.empty]
        rfl
      rw [hnothing]
      exact .refl flow
    · exact L2tp.keepsRecvSide_sessionStep flow event (fun call heq ↦ hrecv ⟨call, heq⟩)
        fun env heq ↦ hpurge ⟨env, heq⟩

/-- An event aside does not switch reordering on. -/
theorem reorderTimeout_sessionStep (htimeout : flow.session.reorderTimeout = 0)
    {event : SessionEvent n}
    (haside : event.Aside flow.tunnel.version flow.session.toSessionParams) :
    (sessionStep flow event).session.reorderTimeout = 0 := by
  have hsends : ∀ flow', Sends flow flow' → flow'.session.reorderTimeout = 0 := by
    intro flow' hsends
    obtain heq | ⟨ns, packet, dstats, heq | ⟨env, heq⟩⟩ := hsends.sends
    all_goals
      rw [heq]
      exact htimeout
  cases event with
  | recv call => exact (sameSetup_l2tpRecvCommon flow call).timeout.trans htimeout
  | purge env =>
    refine drain_induction (P := fun turn : Flow n ↦ turn.session.reorderTimeout = 0) _ _
      htimeout ?_
    intro turn turn' hturn hstep
    obtain ⟨skb, rest, -, rfl⟩ := purgeStep_eq_some hstep
    rw [recvDiscard, Flow.deref_eq]
    exact hturn
  | ethXmit env skb => exact hsends _ (sends_l2tpEthDevXmit env flow skb)
  | pppXmit env skb =>
    dsimp only [sessionStep, pppXmitFlow]
    split_ifs
    · exact hsends _ (sends_pppol2tpXmitFlow env flow skb)
    · exact htimeout
  | sendmsg env call => exact hsends _ (sends_pppol2tpSendmsgFlow env call flow)
  | modify request =>
    dsimp only [sessionStep, Flow.session_onSession]
    rw [reorderTimeout_modifySession]
    cases hrequest : request.recvTimeout with
    | none => exact htimeout
    | some timeout => exact haside timeout hrequest
  | setsockopt optname val jiffies =>
    dsimp only [sessionStep, Flow.session_onSession]
    rw [reorderTimeout_setsockopt]
    split_ifs with hoption
    · exact haside hoption
    · exact htimeout
  | connect call tunnelSock => exact htimeout
  | tunnel stats peerTunnelId recvPayloadHook sock => exact htimeout

theorem Unqueued.keepsRecvSide {flow' : Flow n} (hunqueued : Unqueued flow)
    (hkeeps : KeepsRecvSide flow flow') (htimeout : flow'.session.reorderTimeout = 0) :
    Unqueued flow' where
  toNumbered := hunqueued.toNumbered.keepsRecvSide hkeeps
  patience := by
    rw [hkeeps.params]
    exact hunqueued.patience
  timeout := htimeout
  empty := hkeeps.reorderQ.trans hunqueued.empty

/-- Events aside, one after the other. -/
theorem Unqueued.sessionRun (hunqueued : Unqueued flow) (events : List (SessionEvent n))
    (haside : ∀ event ∈ events, event.Aside flow.tunnel.version flow.session.toSessionParams) :
    Unqueued (sessionRun flow events) ∧ KeepsRecvSide flow (sessionRun flow events) ∧
      (sessionRun flow events).session.recvSkb.isSome =
        (flow.session.recvSkb.isSome || events.any SessionEvent.attaches) := by
  induction events generalizing flow with
  | nil => exact ⟨hunqueued, .refl flow, (Bool.or_false _).symm⟩
  | cons event events ih =>
    have hevent := haside event List.mem_cons_self
    have hkeeps := hunqueued.keepsRecvSide_sessionStep hevent
    have hnext := hunqueued.keepsRecvSide hkeeps
      (reorderTimeout_sessionStep hunqueued.timeout hevent)
    obtain ⟨hlast, hrest, hhandler⟩ := ih hnext fun event' hmem ↦ by
      rw [hkeeps.version, hkeeps.params]
      exact haside event' (List.mem_cons_of_mem _ hmem)
    refine ⟨hlast, hkeeps.trans hrest, ?_⟩
    rw [List.any_cons, ← Bool.or_assoc, ← recvSkb_sessionStep]
    exact hhandler

end Aside

/-! ### Streams -/

/-- Sequenced frames that arrive one after the other, and what happens to the session before
each. -/
structure SeqStream (n : ℕ) where
  others : ℕ → List (SessionEvent n)
  frame : ℕ → RecvCall n

namespace SeqStream

variable (stream : SeqStream n)

/-- The session when frame `k` arrives. -/
def arrival (flow : Flow n) : ℕ → Flow n
  | 0 => sessionRun flow (stream.others 0)
  | k + 1 => sessionRun (l2tpRecvCommon (arrival flow k) (stream.frame k)) (stream.others (k + 1))

/-- The frames carry the numbers from `start` on, no other sequenced frame comes, reordering stays
off, and a frame does not expire in the moment in which it comes. -/
structure Consecutive (version : ℕ) (params : SessionParams) (start : ℕ) : Prop where
  start_lt : start < params.seqCount
  hz : ∀ k, (stream.frame k).env.hz.toNat < 2 ^ 63
  frame : ∀ k, ∃ skb, admittedFrame version params 0 (stream.frame k) = some skb ∧
    skb.cb.hasSeq = true ∧ skb.cb.ns.toNat = (start + k) % params.seqCount
  others : ∀ k, ∀ event ∈ stream.others k, event.Aside version params

/-- Frame `k` is handed to the receive handler when it arrives. -/
def Delivers (flow : Flow n) (k : ℕ) : Prop :=
  (stream.frame k).skb.id ∈
    ((delivered (l2tpRecvCommon (stream.arrival flow k) (stream.frame k)).log).drop
      (delivered (stream.arrival flow k).log).length).map SkBuff.id

instance (flow : Flow n) (k : ℕ) : Decidable (stream.Delivers flow k) :=
  inferInstanceAs (Decidable (_ ∈ _))

/-- At most `nr_oos_count_max + 1` frames are discarded, and all that follow are delivered. -/
def Resyncs (flow : Flow n) : Prop :=
  ∃ first ≤ flow.session.nrOosCountMax.toInt.toNat + 1, ∀ k, stream.Delivers flow k ↔ first ≤ k

/-- There is a receive handler when frame `k` arrives: there is one at first, or a socket is
attached meanwhile. -/
def HasHandler (flow : Flow n) (k : ℕ) : Prop :=
  flow.session.recvSkb.isSome = true ∨ ∃ j ≤ k, (stream.others j).any SessionEvent.attaches = true

/-- The session when frame `k` arrives: it does not reorder, its queue is empty, and it knows of the
stream what the lock knows. -/
structure Tracks (flow : Flow n) (start k : ℕ) : Prop where
  unqueued : Unqueued (stream.arrival flow k)
  version : (stream.arrival flow k).tunnel.version = flow.tunnel.version
  params : (stream.arrival flow k).session.toSessionParams = flow.session.toSessionParams
  lock : (stream.arrival flow k).session.lock =
    flow.session.lock.before flow.session.lockRules start k
  handler : (stream.arrival flow k).session.recvSkb.isSome = true ↔ stream.HasHandler flow k

variable {stream} {flow : Flow n} {start : ℕ}

/-- The frame `k` of a stream, and what becomes of it. -/
theorem Tracks.handles (hstream : stream.Consecutive flow.tunnel.version
    flow.session.toSessionParams start) {k : ℕ} (htracks : stream.Tracks flow start k) :
    ∃ skb : SkBuff, skb.id = (stream.frame k).skb.id ∧
      Handles (stream.arrival flow k) (l2tpRecvCommon (stream.arrival flow k) (stream.frame k))
        (flow.session.lock.before flow.session.lockRules start (k + 1))
        (if flow.session.lock.takes flow.session.lockRules start k then
          handedOver (stream.arrival flow k).session.toSessionHooks skb else []) := by
  obtain ⟨skb, hadmitted, hseq, hns⟩ := hstream.frame k
  refine ⟨skb, id_of_admittedFrame hadmitted, ?_⟩
  have hhandles := handles_sequenced htracks.unqueued
    (by rw [htracks.version, htracks.params]; exact hadmitted) hseq (hstream.hz k)
  rw [htracks.lock, htracks.params, hns] at hhandles
  exact hhandles

theorem tracks_zero (hunqueued : Unqueued flow)
    (hstream : stream.Consecutive flow.tunnel.version flow.session.toSessionParams start) :
    stream.Tracks flow start 0 := by
  obtain ⟨hfirst, hkeeps, hhandler⟩ := hunqueued.sessionRun (stream.others 0) (hstream.others 0)
  refine ⟨hfirst, hkeeps.version, hkeeps.params, lock_eq hkeeps, ?_⟩
  change (sessionRun flow (stream.others 0)).session.recvSkb.isSome = true ↔ _
  rw [hhandler, Bool.or_eq_true]
  simp [HasHandler]

theorem Tracks.succ (hstream : stream.Consecutive flow.tunnel.version
    flow.session.toSessionParams start) {k : ℕ} (htracks : stream.Tracks flow start k) :
    stream.Tracks flow start (k + 1) := by
  obtain ⟨skb, -, hhandles⟩ := htracks.handles hstream
  have hsetup := sameSetup_l2tpRecvCommon (stream.arrival flow k) (stream.frame k)
  have hversion := hsetup.version.trans htracks.version
  have hparams := hsetup.params.trans htracks.params
  have hafter : Unqueued (l2tpRecvCommon (stream.arrival flow k) (stream.frame k)) := by
    refine ⟨htracks.unqueued.toNumbered.run [stream.frame k], ?_, ?_, hhandles.queue⟩
    · rw [hsetup.params]
      exact htracks.unqueued.patience
    · rw [hsetup.timeout]
      exact htracks.unqueued.timeout
  obtain ⟨hnext, hkeeps, hhandler⟩ := hafter.sessionRun (stream.others (k + 1)) (by
    rw [hversion, hparams]
    exact hstream.others (k + 1))
  refine ⟨hnext, hkeeps.version.trans hversion, hkeeps.params.trans hparams,
    (lock_eq hkeeps).trans hhandles.lock_eq, ?_⟩
  change (sessionRun _ (stream.others (k + 1))).session.recvSkb.isSome = true ↔ _
  rw [hhandler, Bool.or_eq_true, hsetup.hooks, htracks.handler]
  unfold HasHandler
  constructor
  · rintro ((hfirst | ⟨j, hj, hmem⟩) | hmem)
    · exact Or.inl hfirst
    · exact Or.inr ⟨j, hj.trans (Nat.le_succ k), hmem⟩
    · exact Or.inr ⟨k + 1, le_rfl, hmem⟩
  · rintro (hfirst | ⟨j, hj, hmem⟩)
    · exact Or.inl (Or.inl hfirst)
    · rcases Nat.le_succ_iff.mp hj with hle | rfl
      · exact Or.inl (Or.inr ⟨j, hle, hmem⟩)
      · exact Or.inr hmem

theorem tracks (hunqueued : Unqueued flow)
    (hstream : stream.Consecutive flow.tunnel.version flow.session.toSessionParams start) (k : ℕ) :
    stream.Tracks flow start k := by
  induction k with
  | zero => exact tracks_zero hunqueued hstream
  | succ k ih => exact ih.succ hstream

/-- A frame is delivered exactly if the lock takes it and there is a handler. -/
theorem delivers_iff (hunqueued : Unqueued flow)
    (hstream : stream.Consecutive flow.tunnel.version flow.session.toSessionParams start) (k : ℕ) :
    stream.Delivers flow k ↔ flow.session.lock.takes flow.session.lockRules start k = true ∧
      stream.HasHandler flow k := by
  have htracks := tracks hunqueued hstream k
  obtain ⟨skb, hid, hhandles⟩ := htracks.handles hstream
  rw [Delivers, hhandles.delivered_eq, List.drop_left, ← htracks.handler, handedOver]
  split_ifs with htakes hhandler
  · simp [htakes, hhandler, hid]
  · simp [hhandler]
  · simp [htakes]

/-- Once frames of a stream are delivered, all that follow are. -/
theorem delivers_mono (hunqueued : Unqueued flow)
    (hstream : stream.Consecutive flow.tunnel.version flow.session.toSessionParams start) (j k : ℕ)
    (hjk : j ≤ k) (hdelivers : stream.Delivers flow j) : stream.Delivers flow k := by
  have hsound := hunqueued.space.sound hunqueued.patience
  rw [delivers_iff hunqueued hstream] at hdelivers ⊢
  refine ⟨Lock.takes_of_le hsound hdelivers.1 hjk, ?_⟩
  rcases hdelivers.2 with hfirst | ⟨i, hi, hmem⟩
  · exact Or.inl hfirst
  · exact Or.inr ⟨i, hi.trans hjk, hmem⟩

end SeqStream

/-- A session in any state that it can come to, without reordering and with an empty queue. -/
theorem unqueued_of_sessionRun (tunnel : L2tpTunnel n) (tunnelIndex : ℕ)
    (sessionId peerSessionId : UInt32) (cfg : L2tpSessionCfg) (hooks : SessionHooks)
    (events : List (SessionEvent n)) {flow : Flow n}
    (hflow : flow =
      sessionRun (newFlow tunnel tunnelIndex sessionId peerSessionId cfg hooks) events)
    (htimeout : flow.session.reorderTimeout = 0) (hqueue : flow.session.reorderQ = []) :
    Unqueued flow := by
  have hparams := (headerKept_sessionRun tunnel tunnelIndex sessionId peerSessionId cfg hooks
    events).params_eq
  have hnumbered := (numbered_newSession tunnel tunnelIndex sessionId peerSessionId cfg
    hooks).sessionRun events
  refine ⟨?_, ?_, htimeout, hqueue⟩
  · rw [hflow]
    exact hnumbered
  · rw [hflow, hparams]
    rfl

/-- A new session takes whatever comes. -/
theorem lock_newFlow (tunnel : L2tpTunnel n) (tunnelIndex : ℕ) (sessionId peerSessionId : UInt32)
    (cfg : L2tpSessionCfg) (hooks : SessionHooks) :
    (newFlow tunnel tunnelIndex sessionId peerSessionId cfg hooks).session.lock =
      ⟨0, 0, 0, true⟩ := by
  obtain ⟨hdrLen, heq⟩ := newSession_eq tunnel tunnelIndex sessionId peerSessionId cfg
  change L2tpSession.lock { newSession tunnel tunnelIndex sessionId peerSessionId cfg with
    toSessionHooks := hooks } = _
  rw [heq]
  rfl

/-- Assumes: a session in any state that it can come to, without reordering and with an empty queue,
and a stream of consecutive numbers. The session finds its way into the stream exactly if the stream
starts where it locks on to it, and there is a receive handler in time. A new session delivers all
frames of the stream exactly if the first is inside the window and there is a receive handler when
it comes. -/
theorem resyncs_iff (tunnel : L2tpTunnel n) (tunnelIndex : ℕ) (sessionId peerSessionId : UInt32)
    (cfg : L2tpSessionCfg) (hooks : SessionHooks) (events : List (SessionEvent n)) {flow : Flow n}
    (hflow : flow =
      sessionRun (newFlow tunnel tunnelIndex sessionId peerSessionId cfg hooks) events)
    (htimeout : flow.session.reorderTimeout = 0) (hqueue : flow.session.reorderQ = [])
    {stream : SeqStream n} {start : ℕ}
    (hstream : stream.Consecutive flow.tunnel.version flow.session.toSessionParams start) :
    (stream.Resyncs flow ↔ stream.HasHandler flow (flow.session.nrOosCountMax.toInt.toNat + 1) ∧
        flow.session.lock.LocksOn flow.session.lockRules start) ∧
      (events = [] → ((∀ k, stream.Delivers flow k) ↔
        stream.HasHandler flow 0 ∧ start < flow.session.nrWindowSize.toNat)) := by
  have hunqueued := unqueued_of_sessionRun tunnel tunnelIndex sessionId peerSessionId cfg
    hooks events
    hflow htimeout hqueue
  have hsound := hunqueued.space.sound hunqueued.patience
  have hmono := SeqStream.delivers_mono hunqueued hstream
  constructor
  · have htakes : flow.session.lock.takes flow.session.lockRules start
        (flow.session.lockRules.patience + 1) = true ↔
          flow.session.lock.LocksOn flow.session.lockRules start :=
      Lock.takes_iff hsound hunqueued.nr hstream.start_lt
    rw [SeqStream.Resyncs, exists_first_iff hmono, SeqStream.delivers_iff hunqueued hstream,
      ← htakes, and_comm]
    rfl
  · intro hevents
    have hnew : flow.session.lock = ⟨0, 0, 0, true⟩ := by
      rw [hflow, hevents]
      exact lock_newFlow tunnel tunnelIndex sessionId peerSessionId cfg hooks
    have hall : (∀ k, stream.Delivers flow k) ↔ stream.Delivers flow 0 :=
      ⟨fun h ↦ h 0, fun hzero k ↦ hmono 0 k (Nat.zero_le k) hzero⟩
    have hahead : ahead flow.session.lockRules.count flow.session.lock.expected start = start := by
      rw [hnew]
      exact ahead_of_le (Nat.zero_le _) hstream.start_lt
    have hfirst : flow.session.lock.takes flow.session.lockRules start 0 = true ↔
        start < flow.session.nrWindowSize.toNat := by
      rw [Lock.takes_zero_iff (by rw [hnew]) hstream.start_lt, hahead]
      rfl
    rw [hall, SeqStream.delivers_iff hunqueued hstream, hfirst, and_comm]

/-! ### Streams over IP -/

/-- Frames for session 1 over IP with the numbers from `start` on, and nothing else. -/
def plainStream (start : ℕ) : SeqStream 1 where
  others := fun _ ↦ []
  frame k := sequencedCall cpu0 1000 (100 + k) (UInt32.ofNat ((start + k) % 2 ^ 24))

/-- A frame for session 1 over IP is admitted with its number. -/
theorem admittedFrame_sequencedCall {params : SessionParams}
    (hcookie : params.peerCookie.bytes = [])
    (htype : params.l2specificType = l2spectypeDefault) (hlen : params.l2specificLen = 4)
    (hoffset : params.offset = 0) (cpu : Fin n) (jiffies : UInt64) (id : ℕ) {ns : UInt32}
    (hns : ns.toNat < 2 ^ 24) :
    ∃ skb, admittedFrame hdrVer3 params 0 (sequencedCall cpu jiffies id ns) = some skb ∧
      skb.cb.hasSeq = true ∧ skb.cb.ns = ns := by
  have hmem : be32At (sequencedCall cpu jiffies id ns).skb.mem 4 = 0x40000000 ||| ns := by
    have hdata : (sequencedCall cpu jiffies id ns).skb.mem =
        be32 1 ++ (be32 (0x40000000 ||| ns) ++ List.replicate 14 0) := by
      simp [sequencedCall, sequencedSkb, SkBuff.mem, List.append_assoc]
    have hright := be32At_append_right (be32 1) (be32 (0x40000000 ||| ns) ++ List.replicate 14 0) 0
    rw [length_be32, be32At_be32] at hright
    rw [hdata]
    exact hright
  have hbit : (0x40000000 ||| ns) &&& 0x40000000 ≠ 0 := by
    intro hzero
    have hbits := congrArg (fun word : UInt32 ↦ word.toNat.testBit 30) hzero
    simp only [UInt32.toNat_and, UInt32.toNat_or, Nat.testBit_and, Nat.testBit_or] at hbits
    have hone : (UInt32.toNat 0x40000000).testBit 30 = true := by decide
    rw [hone, Bool.true_or, Bool.and_true] at hbits
    exact absurd hbits (by decide)
  have hnumber : (0x40000000 ||| ns) &&& 0x00ffffff = ns := by
    apply UInt32.toNat_inj.mp
    rw [UInt32.toNat_and, UInt32.toNat_or]
    have hmask := Nat.and_two_pow_sub_one_eq_mod ((0x40000000 : UInt32).toNat ||| ns.toNat) 24
    refine Eq.trans hmask ?_
    rw [Nat.or_mod_two_pow, Nat.mod_eq_of_lt hns]
    exact Nat.zero_or _
  have hsequence : ∀ ptr, ptr = 4 → recvSequence hdrVer3 params
      (sequencedCall cpu jiffies id ns).skb ptr
      (sequencedCall cpu jiffies id ns).hdrflags = (some ns, 4) := by
    rintro ptr rfl
    rw [recvSequence, if_neg (by decide), hmem, if_pos ⟨htype, hbit⟩, hnumber]
  have hcookieOk : recvCookie params (sequencedCall cpu jiffies id ns).skb
      (sequencedCall cpu jiffies id ns).ptr = some 4 := by
    rw [recvCookie, hcookie]
    rfl
  have hoffsetOk : payloadOffset hdrVer3 params (sequencedCall cpu jiffies id ns) 4 = 8 := by
    rw [payloadOffset, hsequence 4 rfl, recvOffset, if_neg (by decide), hlen, hoffset]
    rfl
  have hpayload : ∃ payload, recvPayload (storeSequence (sequencedCall cpu jiffies id ns).skb
      (some ns)) 8
      (sequencedCall cpu jiffies id ns).hook = some payload := ⟨_, rfl⟩
  obtain ⟨payload, hpayload⟩ := hpayload
  have hcb := cb_recvPayload hpayload
  refine ⟨stampFrame (sequencedCall cpu jiffies id ns).env 0 payload
    (sequencedCall cpu jiffies id ns).length, ?_, ?_, ?_⟩
  · rw [admittedFrame, hcookieOk, Option.bind_some, hoffsetOk, sequencedFrame,
      hsequence 4 rfl, hpayload]
    rfl
  · simp [stampFrame, hcb, storeSequence]
  · simp [stampFrame, hcb, storeSequence]

theorem consecutive_plainStream {params : SessionParams} (hcookie : params.peerCookie.bytes = [])
    (htype : params.l2specificType = l2spectypeDefault) (hlen : params.l2specificLen = 4)
    (hoffset : params.offset = 0) (hcount : params.seqCount = 2 ^ 24) {start : ℕ}
    (hstart : start < 2 ^ 24) : (plainStream start).Consecutive hdrVer3 params start := by
  refine ⟨by rw [hcount]; exact hstart, fun k ↦ ?_, fun k ↦ ?_, fun k event hmem ↦ ?_⟩
  · change UInt64.toNat 100 < 2 ^ 63
    decide
  · have hlt : (start + k) % 2 ^ 24 < 2 ^ 24 := Nat.mod_lt _ (by norm_num)
    have hnumber : (UInt32.ofNat ((start + k) % 2 ^ 24)).toNat = (start + k) % 2 ^ 24 := by
      rw [UInt32.toNat_ofNat', Nat.mod_eq_of_lt (by omega)]
    obtain ⟨skb, hadmitted, hseq, hns⟩ := admittedFrame_sequencedCall hcookie htype hlen hoffset
      (0 : Fin 1) 1000 (100 + k) (hnumber.trans_lt hlt)
    exact ⟨skb, hadmitted, hseq, by rw [hns, hnumber, hcount]⟩
  · exact absurd hmem List.not_mem_nil

/-- A session over IP that has received frame 20 first, and expects 21. -/
def flowAt21 : Flow 1 := sessionRun (reorderingFlow 1 0) [.recv (sequencedCall cpu0 1000 0 20)]

/-- A session that has reordered, holds frame 2 while it waits for frame 1, and is told not to
reorder any more. -/
def leftoverFlow : Flow 1 :=
  sessionRun (reorderingFlow 1 50)
    [.recv (sequencedCall cpu0 1000 0 0), .recv (sequencedCall cpu0 1000 1 2),
      .setsockopt .reorderTimeout 0 0]

theorem consecutive_flowAt21 {start : ℕ} (hstart : start < 2 ^ 24) :
    (plainStream start).Consecutive flowAt21.tunnel.version flowAt21.session.toSessionParams
      start := by
  have hparams : flowAt21.session.toSessionParams =
      (reorderingFlow 1 0).session.toSessionParams := by
    decide
  have hversion : flowAt21.tunnel.version = hdrVer3 := by decide
  rw [hparams, hversion]
  exact consecutive_plainStream rfl rfl rfl rfl rfl hstart

/-- The stream goes on with 25: five frames are discarded while they are counted, and all that
follow are delivered. -/
theorem resyncs_at21 : (plainStream 25).Resyncs flowAt21 := by
  refine (resyncs_iff (newTunnel 1 hdrVer3 1 2 .ip 0) 0 1 2
    { pwType := .eth, lnsMode := true, l2specificLen := 4, l2specificType := l2spectypeDefault }
    { recvSkb := some .l2tpEthDevRecv } [.recv (sequencedCall 0 1000 0 20)] rfl (by decide)
    (by decide)
    (consecutive_flowAt21 (by norm_num))).1.mpr ⟨Or.inl (by decide), ?_⟩
  exact Or.inr (Or.inr (Or.inl (by decide)))

theorem not_resyncs_of_none {stream : SeqStream n} {flow : Flow n}
    (hmax : flow.session.nrOosCountMax = 4) (hnone : ∀ k < 6, ¬ stream.Delivers flow k) :
    ¬ stream.Resyncs flow := by
  rintro ⟨first, hbound, hall⟩
  rw [hmax] at hbound
  have hfive : first ≤ 5 := hbound
  exact hnone first (by omega) ((hall first).mpr le_rfl)

/-- The peer starts over with 0, which is behind Nr: the first six frames are discarded. The first
frame of a new session is discarded if it is outside the window of 0. And a frame left in the queue
holds up the frame that Nr asks for. -/
theorem not_resyncs_restarted :
    ((plainStream 0).Consecutive flowAt21.tunnel.version flowAt21.session.toSessionParams 0 ∧
        (∀ k < 6, ¬ (plainStream 0).Delivers flowAt21 k) ∧ ¬ (plainStream 0).Resyncs flowAt21) ∧
      ¬ (plainStream 0x900000).Delivers (reorderingFlow 1 0) 0 ∧
      leftoverFlow.session.reorderTimeout = 0 ∧ leftoverFlow.session.nr = 1 ∧
      ¬ (plainStream 1).Resyncs leftoverFlow := by
  have hnone : ∀ k < 6, ¬ (plainStream 0).Delivers flowAt21 k := by decide
  have hleftover : ∀ k < 6, ¬ (plainStream 1).Delivers leftoverFlow k := by decide
  refine ⟨⟨consecutive_flowAt21 (by norm_num), hnone, ?_⟩, by decide, by decide, by decide, ?_⟩
  · exact not_resyncs_of_none (by decide) hnone
  · exact not_resyncs_of_none (by decide) hleftover

end KernelModules.L2tp
