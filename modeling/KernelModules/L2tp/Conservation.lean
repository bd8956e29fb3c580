import KernelModules.L2tp.Receive
import KernelModules.L2tp.Session

/-!
# No received frame is lost or counted twice

A frame given to `l2tp_recv_common` leaves through one of many exits: a wrong cookie, a missing
sequence number, a header longer than the packet, a refusal of the payload hook, a number outside
the window or out of sequence, expiry in the queue, a purge, or the receive handler. `Takes ids`
says of two states that between them exactly the frames `ids` came in: the counters `rx_packets` and
`rx_errors` and the length of the queue have gone up by their number together, and the frames handed
to the handler, freed, or waiting are the earlier ones and these. Every part of the receive path
takes either nothing or the one frame it is called with (`takes_l2tpRecvCommon`), and so does every
run (`takes_rxRun`).
-/

set_option autoImplicit false
set_option relaxedAutoImplicit false

namespace KernelModules.L2tp

open Foundations

variable {n : ℕ}

/-! ### Counting frames -/

/-- The frames handed to the receive handler. -/
@[simp] def delivered : List Effect → List SkBuff
  | [] => []
  | .recvSkb skb :: log => skb :: delivered log
  | _ :: log => delivered log

/-- The frames freed. -/
@[simp] def freed : List Effect → List SkBuff
  | [] => []
  | .kfreeSkb skb :: log => skb :: freed log
  | _ :: log => freed log

/-- A total of a counter of the session over all processors. -/
def sessionTotal (session : L2tpSession n) (counter : L2tpStats → UInt64) : UInt64 :=
  ∑ cpu, counter (session.stats cpu)

/-- The frames the statistics and the queue account for. -/
def accounted (session : L2tpSession n) : UInt64 :=
  sessionTotal session L2tpStats.rxPackets + sessionTotal session L2tpStats.rxErrors +
    UInt64.ofNat session.reorderQ.length

/-- The frames that have been handed over, freed, or wait. -/
def frames (flow : Flow n) : List SkBuff :=
  delivered flow.log ++ freed flow.log ++ flow.session.reorderQ

@[simp] theorem delivered_append (log log' : List Effect) :
    delivered (log ++ log') = delivered log ++ delivered log' := by
  induction log with
  | nil => rfl
  | cons effect log ih => cases effect <;> simp [ih]

@[simp] theorem freed_append (log log' : List Effect) :
    freed (log ++ log') = freed log ++ freed log' := by
  induction log with
  | nil => rfl
  | cons effect log ih => cases effect <;> simp [ih]

@[simp] theorem delivered_refEffects (hooks : SessionHooks) : delivered hooks.refEffects = [] := by
  unfold SessionHooks.refEffects
  split_ifs <;> rfl

@[simp] theorem freed_refEffects (hooks : SessionHooks) : freed hooks.refEffects = [] := by
  unfold SessionHooks.refEffects
  split_ifs <;> rfl

@[simp] theorem delivered_derefEffects (hooks : SessionHooks) :
    delivered hooks.derefEffects = [] := by
  unfold SessionHooks.derefEffects
  split_ifs <;> rfl

@[simp] theorem freed_derefEffects (hooks : SessionHooks) : freed hooks.derefEffects = [] := by
  unfold SessionHooks.derefEffects
  split_ifs <;> rfl

@[simp] theorem delivered_nrEffects (session : L2tpSession n) (skb : SkBuff) :
    delivered (nrEffects session skb) = [] := by
  unfold nrEffects
  split_ifs <;> rfl

@[simp] theorem freed_nrEffects (session : L2tpSession n) (skb : SkBuff) :
    freed (nrEffects session skb) = [] := by
  unfold nrEffects
  split_ifs <;> rfl

@[simp] theorem delivered_skipEffects (session : L2tpSession n) (skb : SkBuff) :
    delivered (skipEffects session skb) = [] := by
  unfold skipEffects
  split_ifs <;> rfl

@[simp] theorem freed_skipEffects (session : L2tpSession n) (skb : SkBuff) :
    freed (skipEffects session skb) = [] := by
  unfold skipEffects
  split_ifs <;> rfl

/-- A frame that leaves the queue is handed over or freed. -/
theorem handOverEffect_perm (hooks : SessionHooks) (skb : SkBuff) :
    delivered [handOverEffect hooks skb] ++ freed [handOverEffect hooks skb] = [skb] := by
  unfold handOverEffect
  split_ifs <;> rfl

/-- A receive handler that leaves the session's statistics alone. -/
def KeepsSessionStats (n : ℕ) (handler : RecvHandler) : Prop :=
  ∀ (env : Env n) (flow : Flow n) (skb : SkBuff),
    (callRecvHandler handler env flow skb).session.stats = flow.session.stats

theorem keepsSessionStats_l2tpEthDevRecv : KeepsSessionStats n .l2tpEthDevRecv := by
  intro env flow skb
  unfold callRecvHandler l2tpEthDevRecv
  dsimp only
  split_ifs <;> rfl

/-! ### What the parts of the receive path take in -/

/-- Between two states exactly the frames `ids` came in, each accounted for once. -/
structure Takes (ids : List ℕ) (flow flow' : Flow n) : Prop where
  accounted : accounted flow'.session = accounted flow.session + UInt64.ofNat ids.length
  frames : ((frames flow').map SkBuff.id).Perm (ids ++ (frames flow).map SkBuff.id)
  handler : flow'.session.recvSkb = flow.session.recvSkb

namespace Takes

theorem refl (flow : Flow n) : Takes [] flow flow := ⟨by simp, List.Perm.refl _, rfl⟩

theorem trans {ids ids' : List ℕ} {first middle last : Flow n} (hfirst : Takes ids first middle)
    (hlast : Takes ids' middle last) : Takes (ids' ++ ids) first last where
  accounted := by
    rw [hlast.accounted, hfirst.accounted, List.length_append, UInt64.ofNat_add]
    ac_rfl
  frames := by
    rw [List.append_assoc]
    exact hlast.frames.trans (hfirst.frames.append_left ids')
  handler := hlast.handler.trans hfirst.handler

/-- A step that takes nothing in can be put behind. -/
theorem trans_nil {ids : List ℕ} {first middle last : Flow n} (hfirst : Takes ids first middle)
    (hlast : Takes [] middle last) : Takes ids first last :=
  hfirst.trans hlast

/-- A step that takes nothing in can be put in front. -/
theorem nil_trans {ids : List ℕ} {first middle last : Flow n} (hfirst : Takes [] first middle)
    (hlast : Takes ids middle last) : Takes ids first last := by
  have hboth := hfirst.trans hlast
  rwa [List.append_nil] at hboth

/-- Nothing came in where the counters, the queue and the frames in the log are the same. -/
theorem of_eq {flow flow' : Flow n} (hstats : flow'.session.stats = flow.session.stats)
    (hqueue : flow'.session.reorderQ = flow.session.reorderQ)
    (hdelivered : delivered flow'.log = delivered flow.log)
    (hfreed : freed flow'.log = freed flow.log)
    (hhandler : flow'.session.recvSkb = flow.session.recvSkb) : Takes [] flow flow' where
  accounted := by simp [L2tp.accounted, sessionTotal, hstats, hqueue]
  frames := by simp [L2tp.frames, hdelivered, hfreed, hqueue]
  handler := hhandler

end Takes

/-- A change of statistics other than the two that count frames. -/
theorem takes_sessionStats (flow : Flow n) (cpu : Fin n) {change : L2tpStats → L2tpStats}
    (hpackets : ∀ s, (change s).rxPackets = s.rxPackets)
    (herrors : ∀ s, (change s).rxErrors = s.rxErrors) :
    Takes [] flow (flow.sessionStats cpu change) where
  accounted := by
    simp [accounted, sessionTotal, sum_onCpu_of_eq L2tpStats.rxPackets _ cpu hpackets,
      sum_onCpu_of_eq L2tpStats.rxErrors _ cpu herrors]
  frames := List.Perm.refl _
  handler := rfl

theorem takes_ref (flow : Flow n) : Takes [] flow flow.ref :=
  Takes.of_eq (by simp) (by simp) (by simp) (by simp) (by simp)

/-- A frame that is freed is counted as an error. -/
theorem takes_kfreeSkb (cpu : Fin n) (flow : Flow n) (skb : SkBuff) {change : L2tpStats → L2tpStats}
    (hpackets : ∀ s, (change s).rxPackets = s.rxPackets)
    (herrors : ∀ s, (change s).rxErrors = s.rxErrors + 1) :
    Takes [skb.id] flow (((flow.sessionStats cpu change).emit (.kfreeSkb skb)).deref) where
  accounted := by
    simp only [accounted, sessionTotal, Flow.session_deref, Flow.session_emit,
      Flow.session_sessionStats, sum_onCpu L2tpStats.rxErrors _ cpu herrors,
      sum_onCpu_of_eq L2tpStats.rxPackets _ cpu hpackets, List.length_singleton]
    ac_rfl
  frames := by
    rw [List.perm_iff_count]
    intro id
    simp only [frames, Flow.session_deref, Flow.session_emit, Flow.session_sessionStats,
      Flow.log_deref, Flow.log_emit, Flow.log_sessionStats, delivered_append, freed_append,
      delivered, freed, delivered_derefEffects, freed_derefEffects, List.map_append,
      List.map_cons, List.map_nil, List.count_append, List.append_nil]
    omega
  handler := by simp

theorem takes_recvDiscard (env : Env n) (flow : Flow n) (skb : SkBuff) :
    Takes [skb.id] flow (recvDiscard env flow skb) :=
  takes_kfreeSkb env.cpu flow skb (fun _ ↦ rfl) fun _ ↦ rfl

/-- A frame put at the tail of the queue. -/
theorem takes_skbQueueTail (flow : Flow n) (skb : SkBuff) :
    Takes [skb.id] flow (skbQueueTail flow skb) where
  accounted := by
    simp only [accounted, sessionTotal, skbQueueTail, Flow.session_onSession, List.length_append,
      List.length_singleton, UInt64.ofNat_add]
    ac_rfl
  frames := by
    rw [List.perm_iff_count]
    intro id
    simp only [frames, skbQueueTail, Flow.session_onSession, Flow.log_onSession, List.map_append,
      List.map_cons, List.map_nil, List.count_append]
    omega
  handler := rfl

/-- A frame put into the queue in order. -/
theorem takes_l2tpRecvQueueSkb (env : Env n) (flow : Flow n) (skb : SkBuff) :
    Takes [skb.id] flow (l2tpRecvQueueSkb env flow skb) := by
  have hperm := queueByNs_perm skb flow.session.reorderQ
  have hqueued : Takes [skb.id] flow (flow.onSession fun session ↦
      { session with reorderQ := (queueByNs skb flow.session.reorderQ).1 }) := by
    refine ⟨?_, ?_, rfl⟩
    · simp only [accounted, sessionTotal, Flow.session_onSession, hperm.length_eq, List.length_cons,
        List.length_nil, UInt64.ofNat_add]
      ac_rfl
    · rw [List.perm_iff_count]
      intro id
      have hcount := List.perm_iff_count.mp (hperm.map SkBuff.id) id
      simp only [frames, Flow.session_onSession, Flow.log_onSession, List.map_append,
        List.count_append, List.map_cons] at hcount ⊢
      rw [← List.singleton_append, List.count_append] at hcount
      omega
  unfold l2tpRecvQueueSkb
  dsimp only
  split_ifs
  · refine hqueued.trans_nil ?_
    exact takes_sessionStats _ _ (fun _ ↦ rfl) fun _ ↦ rfl
  · exact hqueued

theorem takes_trackOos (flow : Flow n) (nrOos : UInt32) : Takes [] flow (trackOos flow nrOos) :=
  Takes.of_eq rfl rfl rfl rfl rfl

/-- `l2tp_recv_data_seq` has put the frame into the queue, unless it says that the frame is to be
discarded. -/
theorem takes_l2tpRecvDataSeq (env : Env n) (flow : Flow n) (skb : SkBuff) :
    Takes (if (l2tpRecvDataSeq env flow skb).2 then [] else [skb.id]) flow
      (l2tpRecvDataSeq env flow skb).1 := by
  rcases l2tpRecvDataSeq_cases env flow skb with
    ⟨-, heq⟩ | ⟨-, ⟨-, heq⟩ | ⟨-, ⟨-, heq⟩ | ⟨-, ⟨-, heq⟩ | ⟨-, heq⟩⟩⟩⟩ <;> rw [heq]
  · exact Takes.refl flow
  · exact takes_l2tpRecvQueueSkb env flow skb
  · exact takes_skbQueueTail flow skb
  · exact (takes_trackOos flow _).nil_trans (takes_sessionStats _ _ (fun _ ↦ rfl) fun _ ↦ rfl)
  · exact (takes_trackOos flow _).nil_trans (takes_skbQueueTail _ skb)

/-- Admission changes neither the queue nor the counters of frames, and goes on with the frame it
was given. -/
theorem takes_recvAdmit (flow : Flow n) (call : RecvCall n) :
    ∃ flow' skb, Takes [] flow flow' ∧ skb.id = call.skb.id ∧
      (recvAdmit flow call = (flow', .error skb) ∨ recvAdmit flow call = (flow', .ok skb)) := by
  rcases recvAdmit_cases flow call with
    ⟨change, skb, hchange, hid, heq⟩ | ⟨sendSeq, hdrLen, skb, hid, heq⟩
  · refine ⟨_, skb, ?_, hid, Or.inl heq⟩
    exact takes_sessionStats _ _ (fun s ↦ (hchange s).1) fun s ↦ (hchange s).2
  · refine ⟨_, skb, ?_, hid, heq⟩
    exact Takes.of_eq rfl rfl rfl rfl rfl

/-- `l2tp_recv_common` up to the dequeue loop takes in the frame of the call. -/
theorem takes_recvEnqueue (flow : Flow n) (call : RecvCall n) :
    Takes [call.skb.id] flow (recvEnqueue flow call).1 := by
  obtain ⟨middle, skb, haccept, hid, hresult⟩ := takes_recvAdmit flow.ref call
  have hmiddle : Takes [] flow middle := (takes_ref flow).trans_nil haccept
  rw [← hid]
  unfold recvEnqueue
  rcases hresult with hresult | hresult <;> rw [hresult] <;> dsimp only
  · exact hmiddle.nil_trans (takes_recvDiscard call.env middle skb)
  · split_ifs
    · have hseq := takes_l2tpRecvDataSeq call.env middle skb
      generalize l2tpRecvDataSeq call.env middle skb = queued at hseq
      obtain ⟨last, discard⟩ := queued
      cases discard with
      | true => exact (hmiddle.nil_trans hseq).nil_trans (takes_recvDiscard call.env last skb)
      | false => exact hmiddle.nil_trans hseq
    · exact hmiddle.nil_trans (takes_skbQueueTail middle skb)

/-! ### The loops -/

/-- Two states that come from taking the same frames in. -/
theorem Takes.cancel {ids : List ℕ} {first middle last : Flow n} (hfirst : Takes ids middle first)
    (hlast : Takes ids middle last) : Takes [] first last where
  accounted := by simp [hlast.accounted, hfirst.accounted]
  frames := hlast.frames.trans hfirst.frames.symm
  handler := hlast.handler.trans hfirst.handler.symm

/-- The head of the queue, taken out and put back. -/
theorem takes_unlink {flow : Flow n} {skb : SkBuff} {rest : List SkBuff}
    (hqueue : flow.session.reorderQ = skb :: rest) :
    Takes [skb.id] (flow.onSession fun session ↦ { session with reorderQ := rest }) flow where
  accounted := by
    simp only [accounted, sessionTotal, Flow.session_onSession, hqueue, List.length_cons,
      List.length_nil, UInt64.ofNat_add]
    ac_rfl
  frames := by
    rw [List.perm_iff_count]
    intro id
    simp only [frames, Flow.session_onSession, Flow.log_onSession, hqueue, List.map_append,
      List.map_cons, List.count_append]
    rw [← List.singleton_append, List.count_append]
    omega
  handler := rfl

theorem takes_purgeStep {env : Env n} {flow flow' : Flow n}
    (hstep : purgeStep env flow = some flow') : Takes [] flow flow' := by
  obtain ⟨skb, rest, hqueue, rfl⟩ := purgeStep_eq_some hstep
  exact (takes_unlink hqueue).cancel (takes_recvDiscard env _ skb)

theorem takes_l2tpSessionQueuePurge (env : Env n) (flow : Flow n) :
    Takes [] flow (l2tpSessionQueuePurge env flow) :=
  drain_induction _ flow (Takes.refl flow) fun _ _ htaken hstep ↦
    htaken.trans_nil (takes_purgeStep hstep)

/-- With a handler that leaves the session's statistics alone, a frame is counted when it leaves the
queue and not again. -/
theorem stats_l2tpRecvDequeueSkb {flow : Flow n}
    (hkeeps : ∀ handler ∈ flow.session.recvSkb, KeepsSessionStats n handler) (env : Env n)
    (skb : SkBuff) : (l2tpRecvDequeueSkb env flow skb).session.stats =
      (countReceived env flow skb).session.stats := by
  unfold l2tpRecvDequeueSkb handOver
  rw [bumpNr_eq]
  dsimp only
  have hhandler : (countReceived env flow skb).session.recvSkb = flow.session.recvSkb := rfl
  cases hrecv : flow.session.recvSkb with
  | none => simp [hhandler, hrecv]
  | some handler => simp [hhandler, hrecv, hkeeps handler (by simp [hrecv]) env _ skb]

theorem accounted_countReceived (env : Env n) (flow : Flow n) (skb : SkBuff) :
    accounted (countReceived env flow skb).session = accounted flow.session + 1 := by
  have hpackets : sessionTotal (countReceived env flow skb).session L2tpStats.rxPackets =
      sessionTotal flow.session L2tpStats.rxPackets + 1 :=
    sum_onCpu L2tpStats.rxPackets _ _ fun _ ↦ rfl
  have herrors : sessionTotal (countReceived env flow skb).session L2tpStats.rxErrors =
      sessionTotal flow.session L2tpStats.rxErrors :=
    sum_onCpu_of_eq L2tpStats.rxErrors _ _ fun _ ↦ rfl
  have hqueue : (countReceived env flow skb).session.reorderQ = flow.session.reorderQ := rfl
  rw [accounted, accounted, hpackets, herrors, hqueue]
  ac_rfl

/-- A frame that leaves the queue for the handler. -/
theorem takes_l2tpRecvDequeueSkb {flow : Flow n}
    (hkeeps : ∀ handler ∈ flow.session.recvSkb, KeepsSessionStats n handler) (env : Env n)
    (skb : SkBuff) : Takes [skb.id] flow (l2tpRecvDequeueSkb env flow skb) := by
  have hstats := stats_l2tpRecvDequeueSkb hkeeps env skb
  obtain ⟨tstats, counters, heq⟩ := l2tpRecvDequeueSkb_eq env flow skb
  refine ⟨?_, ?_, by rw [heq]; rfl⟩
  · have hqueue : (l2tpRecvDequeueSkb env flow skb).session.reorderQ =
        (countReceived env flow skb).session.reorderQ := by rw [heq]; rfl
    have hcounted := accounted_countReceived env flow skb
    rw [accounted, sessionTotal, sessionTotal, ← hstats, ← hqueue] at hcounted
    exact hcounted
  · rw [heq, List.perm_iff_count]
    intro id
    have hhanded := congrArg (fun frames ↦ (frames.map SkBuff.id).count id)
      (handOverEffect_perm flow.session.toSessionHooks skb)
    rw [frames, frames, Flow.log_withStats, Flow.session_withStats, afterDequeueSkb,
      ← List.singleton_append]
    simp only [delivered_append, freed_append, delivered_nrEffects, freed_nrEffects,
      delivered_derefEffects, freed_derefEffects, List.map_append, List.map_nil, List.map_cons,
      List.count_append, List.count_nil] at hhanded ⊢
    omega

/-- A turn of the dequeue loop takes nothing in. -/
theorem takes_dequeueStep {env : Env n} {flow flow' : Flow n}
    (hkeeps : ∀ handler ∈ flow.session.recvSkb, KeepsSessionStats n handler)
    (hstep : dequeueStep env flow = some flow') : Takes [] flow flow' := by
  obtain ⟨skb, rest, hqueue, ⟨-, rfl⟩ | ⟨-, -, rfl⟩⟩ := dequeueStep_eq_some hstep
  · have hskip : Takes [] (flow.onSession fun session ↦ { session with reorderQ := rest })
        (flow.onSession fun session ↦ { session with reorderSkip := true, reorderQ := rest }) :=
      Takes.of_eq rfl rfl rfl rfl rfl
    refine (takes_unlink hqueue).cancel (hskip.nil_trans ?_)
    exact takes_kfreeSkb env.cpu _ skb (fun _ ↦ rfl) fun _ ↦ rfl
  · have hskip : Takes [] (flow.onSession fun session ↦ { session with reorderQ := rest })
        ((skipToHead flow skb).onSession fun session ↦ { session with reorderQ := rest }) := by
      rw [skipToHead_eq]
      refine Takes.of_eq rfl rfl ?_ ?_ rfl <;> simp
    refine (takes_unlink hqueue).cancel (hskip.nil_trans (takes_l2tpRecvDequeueSkb ?_ env skb))
    rw [hskip.handler]
    exact hkeeps

/-- `l2tp_recv_common` takes in the frame it is called with. -/
theorem takes_l2tpRecvCommon {flow : Flow n}
    (hkeeps : ∀ handler ∈ flow.session.recvSkb, KeepsSessionStats n handler) (call : RecvCall n) :
    Takes [call.skb.id] flow (l2tpRecvCommon flow call) := by
  refine l2tpRecvCommon_induction (takes_recvEnqueue flow call) fun turn turn' htaken hstep ↦
    htaken.trans_nil (takes_dequeueStep ?_ hstep)
  rw [htaken.handler]
  exact hkeeps

theorem delivered_afterDelivery (flow : Flow n) (skb : SkBuff) (rest : List SkBuff) :
    delivered (afterDelivery flow skb rest).log =
      delivered flow.log ++ delivered [handOverEffect flow.session.toSessionHooks skb] := by
  have hlast : handOverEffect flow.session.toSessionHooks skb :: flow.session.derefEffects =
      [handOverEffect flow.session.toSessionHooks skb] ++ flow.session.derefEffects := rfl
  rw [afterDelivery_eq, hlast]
  split_ifs <;> simp only [delivered_append, delivered_skipEffects, delivered_derefEffects,
    List.append_nil, List.nil_append, delivered]

theorem freed_afterDelivery (flow : Flow n) (skb : SkBuff) (rest : List SkBuff) :
    freed (afterDelivery flow skb rest).log =
      freed flow.log ++ freed [handOverEffect flow.session.toSessionHooks skb] := by
  have hlast : handOverEffect flow.session.toSessionHooks skb :: flow.session.derefEffects =
      [handOverEffect flow.session.toSessionHooks skb] ++ flow.session.derefEffects := rfl
  rw [afterDelivery_eq, hlast]
  split_ifs <;> simp only [freed_append, freed_skipEffects, freed_derefEffects,
    List.append_nil, List.nil_append, freed]

/-- A turn of the dequeue loop hands a frame over or frees it, whatever the handler counts. -/
theorem frames_dequeueStep {env : Env n} {flow flow' : Flow n}
    (hstep : dequeueStep env flow = some flow') : (frames flow').Perm (frames flow) := by
  rw [List.perm_iff_count]
  intro frame
  obtain ⟨skb, rest, tstats, counters, hqueue, ⟨-, rfl⟩ | ⟨-, -, rfl⟩⟩ := dequeueStep_cases hstep
  · simp only [frames, afterExpiry, Flow.log_withStats, Flow.session_withStats, delivered_append,
      freed_append, delivered, freed, delivered_derefEffects, freed_derefEffects, hqueue,
      List.count_append, List.count_cons, List.count_nil]
    omega
  · have hhanded := congrArg (List.count frame)
      (handOverEffect_perm flow.session.toSessionHooks skb)
    have hrest : (afterDelivery flow skb rest).session.reorderQ = rest := rfl
    simp only [frames, Flow.log_withStats, Flow.session_withStats, delivered_afterDelivery,
      freed_afterDelivery, hrest, hqueue, List.count_append, List.count_cons,
      List.count_nil] at hhanded ⊢
    omega

/-- `l2tp_recv_common` hands the frame over, frees it or keeps it, whatever the handler counts. -/
theorem frames_l2tpRecvCommon (flow : Flow n) (call : RecvCall n) :
    ((frames (l2tpRecvCommon flow call)).map SkBuff.id).Perm
      (call.skb.id :: (frames flow).map SkBuff.id) := by
  refine l2tpRecvCommon_induction
    (P := fun turn ↦ ((frames turn).map SkBuff.id).Perm
      (call.skb.id :: (frames flow).map SkBuff.id))
    (takes_recvEnqueue flow call).frames fun turn turn' hturn hstep ↦ ?_
  exact ((frames_dequeueStep hstep).map SkBuff.id).trans hturn

/-! ### Runs -/

/-- What can happen to a session that only receives. -/
inductive RxEvent (n : ℕ)
  | recvCommon (call : RecvCall n)
  | queuePurge (env : Env n)
  | setReorderTimeout (timeout : Int32)

/-- One event. -/
def rxStep (flow : Flow n) : RxEvent n → Flow n
  | .recvCommon call => l2tpRecvCommon flow call
  | .queuePurge env => l2tpSessionQueuePurge env flow
  | .setReorderTimeout timeout =>
    flow.onSession fun session ↦ { session with reorderTimeout := timeout }

/-- A run of events. -/
def rxRun (flow : Flow n) (events : List (RxEvent n)) : Flow n := events.foldl rxStep flow

/-- The frame an event hands to `l2tp_recv_common`. -/
def handedBy : RxEvent n → List SkBuff
  | .recvCommon call => [call.skb]
  | _ => []

/-- The frames handed to `l2tp_recv_common` in a run. -/
def handed (events : List (RxEvent n)) : List SkBuff := events.flatMap handedBy

theorem takes_rxStep {flow : Flow n}
    (hkeeps : ∀ handler ∈ flow.session.recvSkb, KeepsSessionStats n handler) (event : RxEvent n) :
    Takes ((handedBy event).map SkBuff.id) flow (rxStep flow event) := by
  cases event with
  | recvCommon call => exact takes_l2tpRecvCommon hkeeps call
  | queuePurge env => exact takes_l2tpSessionQueuePurge env flow
  | setReorderTimeout timeout => exact Takes.of_eq rfl rfl rfl rfl rfl

/-- A run takes in the frames handed to `l2tp_recv_common`. -/
theorem takes_rxRun {flow : Flow n}
    (hkeeps : ∀ handler ∈ flow.session.recvSkb, KeepsSessionStats n handler)
    (events : List (RxEvent n)) :
    ∃ ids, ids.Perm ((handed events).map SkBuff.id) ∧ Takes ids flow (rxRun flow events) := by
  induction events generalizing flow with
  | nil => exact ⟨[], List.Perm.refl _, Takes.refl flow⟩
  | cons event events ih =>
    have hstep := takes_rxStep hkeeps event
    rw [← hstep.handler] at hkeeps
    obtain ⟨ids, hperm, hrest⟩ := ih hkeeps
    refine ⟨ids ++ (handedBy event).map SkBuff.id, ?_, hstep.trans hrest⟩
    rw [handed, List.flatMap_cons, List.map_append]
    exact (hperm.append_right _).trans List.perm_append_comm

/-- Conservation of received frames. Assumes: a receive handler, if there is one, that leaves the
session's statistics alone, and a session as it is created, with no statistics and an empty queue.
Then after any run, on any processors, the number of frames handed to `l2tp_recv_common` is the sum
over the processors of `rx_packets` and `rx_errors` and the length of the queue, modulo 2⁶⁴; these
frames are, each once, those handed to the handler, those freed, and those waiting; so if no buffer
was handed in twice, the handler saw each frame at most once, and none that was freed. -/
theorem received_frames_conserved (flow : Flow n)
    (hkeeps : ∀ handler ∈ flow.session.recvSkb, KeepsSessionStats n handler)
    (hstats : ∀ cpu, flow.session.stats cpu = {}) (hqueue : flow.session.reorderQ = [])
    (hlog : flow.log = []) (events : List (RxEvent n)) :
    UInt64.ofNat (handed events).length =
        (∑ cpu, ((rxRun flow events).session.stats cpu).rxPackets) +
          (∑ cpu, ((rxRun flow events).session.stats cpu).rxErrors) +
          UInt64.ofNat (rxRun flow events).session.reorderQ.length ∧
      ((handed events).map SkBuff.id).Perm
        ((delivered (rxRun flow events).log ++ freed (rxRun flow events).log ++
          (rxRun flow events).session.reorderQ).map SkBuff.id) ∧
      (((handed events).map SkBuff.id).Nodup →
        ((delivered (rxRun flow events).log).map SkBuff.id).Nodup ∧
          ((delivered (rxRun flow events).log).map SkBuff.id).Disjoint
            ((freed (rxRun flow events).log).map SkBuff.id)) := by
  obtain ⟨ids, hperm, htakes⟩ := takes_rxRun hkeeps events
  have hstart : accounted flow.session = 0 := by
    simp [accounted, sessionTotal, hstats, hqueue]
  have hframes : ((handed events).map SkBuff.id).Perm
      ((frames (rxRun flow events)).map SkBuff.id) := by
    have hnone : frames flow = [] := by simp [frames, hlog, hqueue]
    have hend := htakes.frames
    rw [hnone, List.map_nil, List.append_nil] at hend
    exact hperm.symm.trans hend.symm
  refine ⟨?_, hframes, fun hnodup ↦ ?_⟩
  · have hlength : (handed events).length = ids.length := by
      rw [hperm.length_eq, List.length_map]
    have hend := htakes.accounted
    rw [hstart, UInt64.zero_add, ← hlength] at hend
    exact hend.symm
  · have hparts := hframes.nodup_iff.mp hnodup
    rw [frames, List.append_assoc, List.map_append, List.map_append, List.nodup_append'] at hparts
    exact ⟨hparts.1, fun id hdelivered hfreed ↦
      hparts.2.2 hdelivered (List.mem_append_left _ hfreed)⟩

/-- Two frames out of order on two processors, and a purge on a third. -/
def purgedRun : List (RxEvent 3) :=
  [.recvCommon (sequencedCall 0 1000 7 0), .recvCommon (sequencedCall 1 1001 8 2),
    .queuePurge (sequencedCall 2 1002 0 0).env]

theorem received_frames_conserved_purgedRun :
    ((handed purgedRun).map SkBuff.id).Nodup ∧
      UInt64.ofNat (handed purgedRun).length =
        (∑ cpu, ((rxRun (reorderingFlow 3 50) purgedRun).session.stats cpu).rxPackets) +
          (∑ cpu, ((rxRun (reorderingFlow 3 50) purgedRun).session.stats cpu).rxErrors) +
          UInt64.ofNat (rxRun (reorderingFlow 3 50) purgedRun).session.reorderQ.length :=
  ⟨by decide, (received_frames_conserved (reorderingFlow 3 50)
    (fun handler hhandler ↦ by
      obtain rfl : handler = .l2tpEthDevRecv := by simpa [reorderingFlow, eq_comm] using hhandler
      exact keepsSessionStats_l2tpEthDevRecv)
    (fun _ ↦ rfl) rfl rfl purgedRun).1⟩

end KernelModules.L2tp
