import KernelModules.L2tp.Resync

/-!
# Resynchronisation behind frames left in the queue

A session that has reordered and is told not to any more may still have frames in its queue. A frame
that comes in sequence is put behind them, and the dequeue loop stops at the first of them that Nr
does not ask for. Frames that follow are out of sequence then, and the reset that their row brings
goes to the head of the queue and not to the frame that brought it.

A frame that is delivered in the call in which it comes was the last of the queue, so the queue is
empty then and Nr asks for the frame that comes next (`Unordered.of_delivers`). From there on the
session is one with an empty queue, and whether it has found its way into a stream in time is a
matter of one frame (`resyncs_iff_delivers`).
-/

set_option autoImplicit false
set_option relaxedAutoImplicit false

namespace KernelModules.L2tp

open Foundations

variable {n : ℕ}

/-! ### Frames that are not in the queue -/

/-- No frame in the queue is the given one. -/
def Absent (id : ℕ) (flow : Flow n) : Prop := ∀ other ∈ flow.session.reorderQ, other.id ≠ id

namespace Absent

variable {id : ℕ} {flow flow' : Flow n}

theorem of_subset (habsent : Absent id flow)
    (hsubset : flow'.session.reorderQ ⊆ flow.session.reorderQ) : Absent id flow' :=
  fun other hother ↦ habsent other (hsubset hother)

/-- Only a frame that comes gets into the queue. -/
theorem l2tpRecvCommon (habsent : Absent id flow) {call : RecvCall n} (hcall : call.skb.id ≠ id) :
    Absent id (l2tpRecvCommon flow call) := by
  refine l2tpRecvCommon_induction ?_ fun turn turn' hturn hstep ↦ ?_
  · obtain ⟨turn, skb, -, -, -, hid, ⟨heq, -, hperm, -⟩ | ⟨heq, hqueue, -⟩⟩ :=
      recvEnqueue_cases flow call
    · rw [heq]
      intro other hother
      rcases List.mem_cons.mp (hperm.subset hother) with rfl | hold
      · rw [hid]
        exact hcall
      · exact habsent other hold
    · rw [heq]
      exact habsent.of_subset (by rw [hqueue]; exact List.Subset.refl _)
  · obtain ⟨skb, rest, tstats, counters, hqueue, hcases⟩ := dequeueStep_cases hstep
    have hrest : rest ⊆ turn.session.reorderQ := by
      rw [hqueue]
      exact List.subset_cons_self skb rest
    refine hturn.of_subset ?_
    rcases hcases with ⟨-, rfl⟩ | ⟨-, -, rfl⟩
    · exact hrest
    · rw [afterDelivery_eq]
      exact hrest

theorem sessionStep (habsent : Absent id flow) {event : SessionEvent n}
    (hevent : ∀ call, event = .recv call → call.skb.id ≠ id) :
    Absent id (sessionStep flow event) := by
  by_cases hrecv : ∃ call, event = .recv call
  · obtain ⟨call, rfl⟩ := hrecv
    exact habsent.l2tpRecvCommon (hevent call rfl)
  · by_cases hpurge : ∃ env, event = .purge env
    · obtain ⟨env, rfl⟩ := hpurge
      refine drain_induction (P := Absent id) _ _ habsent fun turn turn' hturn hstep ↦ ?_
      obtain ⟨skb, rest, hqueue, rfl⟩ := purgeStep_eq_some hstep
      refine hturn.of_subset ?_
      rw [recvDiscard, Flow.deref_eq, hqueue]
      exact List.subset_cons_self skb rest
    · have hkeeps := keepsRecvSide_sessionStep flow event
        (fun call heq ↦ hrecv ⟨call, heq⟩) fun env heq ↦ hpurge ⟨env, heq⟩
      exact habsent.of_subset (by rw [hkeeps.reorderQ]; exact List.Subset.refl _)

theorem sessionRun (habsent : Absent id flow) {events : List (SessionEvent n)}
    (hevents : ∀ call, .recv call ∈ events → call.skb.id ≠ id) :
    Absent id (sessionRun flow events) := by
  induction events generalizing flow with
  | nil => exact habsent
  | cons event events ih =>
    refine ih (habsent.sessionStep fun call heq ↦ hevents call ?_) fun call hmem ↦
      hevents call (List.mem_cons_of_mem _ hmem)
    rw [heq]
    exact List.mem_cons_self

end Absent

/-! ### The last frame of the queue -/

section Loop

variable {first flow flow' : Flow n} {skb : SkBuff}

/-- A frame in the dequeue loop, behind frames that were there before it. None of those that have
left the queue is this one. -/
structure Behind (first : Flow n) (skb : SkBuff) (flow : Flow n) : Prop where
  queue : ∃ others, flow.session.reorderQ = others ++ [skb] ∧ ∀ other ∈ others, other.id ≠ skb.id
  sent : ∃ sent, delivered flow.log = delivered first.log ++ sent ∧
    ∀ other ∈ sent, other.id ≠ skb.id

/-- The frame has left the queue, as the last one. -/
structure LeftLast (first : Flow n) (skb : SkBuff) (flow : Flow n) : Prop where
  queue : flow.session.reorderQ = []
  nr : flow.session.nr = (skb.cb.ns + 1) &&& flow.session.nrMax
  sent : ∃ sent, delivered flow.log =
      delivered first.log ++ (sent ++ handedOver flow.session.toSessionHooks skb) ∧
    ∀ other ∈ sent, other.id ≠ skb.id

/-- A frame that leaves the queue is the only one that may be handed over. -/
theorem id_ne_of_mem_handedOver {hooks : SessionHooks} {other : SkBuff}
    (hother : other.id ≠ skb.id) : ∀ frame ∈ handedOver hooks other, frame.id ≠ skb.id := by
  intro frame hframe
  unfold handedOver at hframe
  split_ifs at hframe
  · rw [List.mem_singleton.mp hframe]
    exact hother
  · exact absurd hframe List.not_mem_nil

/-- A turn of the loop takes a frame before it, or the frame itself. -/
theorem Behind.dequeueStep {env : Env n} (hbehind : Behind first skb flow)
    (hseq : skb.cb.hasSeq = true) (hfresh : timeAfter env.jiffies skb.cb.expires = false)
    (hstep : dequeueStep env flow = some flow') :
    Behind first skb flow' ∨ LeftLast first skb flow' := by
  obtain ⟨others, hothers, hids⟩ := hbehind.queue
  obtain ⟨sent, hsent, hsentIds⟩ := hbehind.sent
  obtain ⟨head, rest, tstats, counters, hqueue, hcases⟩ := dequeueStep_cases hstep
  cases others with
  | nil =>
    obtain ⟨rfl, rfl⟩ := List.cons.inj (hqueue.symm.trans hothers)
    rcases hcases with ⟨hexpired, -⟩ | ⟨-, hasked, rfl⟩
    · rw [hfresh] at hexpired
      exact absurd hexpired Bool.false_ne_true
    · refine Or.inr ⟨?_, ?_, sent, ?_, hsentIds⟩
      · rw [afterDelivery_eq]
        rfl
      · rw [afterDelivery_eq]
        simp only [Flow.session_withStats, nrDelivered, hseq, if_true, ← hasked hseq]
      · rw [Flow.log_withStats, delivered_afterDelivery, delivered_handOverEffect, hsent,
          List.append_assoc, afterDelivery_eq]
        rfl
  | cons other others =>
    obtain ⟨rfl, rfl⟩ := List.cons.inj (hqueue.symm.trans hothers)
    have hrest : ∀ frame ∈ others, frame.id ≠ skb.id := fun frame hframe ↦
      hids frame (List.mem_cons_of_mem _ hframe)
    left
    rcases hcases with ⟨-, rfl⟩ | ⟨-, -, rfl⟩
    · refine ⟨⟨others, rfl, hrest⟩, sent, ?_, hsentIds⟩
      simp [afterExpiry, delivered, hsent]
    · refine ⟨⟨others, ?_, hrest⟩, sent ++ handedOver flow.session.toSessionHooks head, ?_, ?_⟩
      · rw [afterDelivery_eq]
        rfl
      · rw [Flow.log_withStats, delivered_afterDelivery, delivered_handOverEffect, hsent,
          List.append_assoc]
      · intro frame hframe
        rcases List.mem_append.mp hframe with hold | hnew
        · exact hsentIds frame hold
        · exact id_ne_of_mem_handedOver (hids head List.mem_cons_self) frame hnew

/-- The dequeue loop with a fresh frame at the end of the queue. -/
theorem Behind.l2tpRecvDequeue {env : Env n} (hbehind : Behind first skb flow)
    (hseq : skb.cb.hasSeq = true) (hfresh : timeAfter env.jiffies skb.cb.expires = false) :
    Behind first skb (l2tpRecvDequeue env flow) ∨
      LeftLast first skb (l2tpRecvDequeue env flow) := by
  refine drain_induction (P := fun turn ↦ Behind first skb turn ∨ LeftLast first skb turn) _ _
    (Or.inl hbehind) fun turn turn' hturn hstep ↦ ?_
  rcases hturn with hbehind | hlast
  · exact hbehind.dequeueStep hseq hfresh hstep
  · -- Nothing is left for another turn.
    obtain ⟨head, rest, -, -, hqueue, -⟩ := dequeueStep_cases hstep
    rw [hlast.queue] at hqueue
    exact absurd hqueue.symm (List.cons_ne_nil head rest)

end Loop

/-! ### Sessions that do not reorder -/

/-- A session of the given tunnel and configuration that does not reorder. There may be frames in
its queue from a time when it did. -/
structure Unordered (encap : L2tpEncap) (version : ℕ) (params : SessionParams) (flow : Flow n) :
    Prop extends Numbered flow, HeaderKept encap version params flow where
  timeout : flow.session.reorderTimeout = 0

namespace Unordered

variable {encap : L2tpEncap} {version : ℕ} {params : SessionParams} {flow : Flow n}

theorem sessionStep (hunordered : Unordered encap version params flow) {event : SessionEvent n}
    (haside : event.Aside version params) :
    Unordered encap version params (sessionStep flow event) where
  toNumbered := hunordered.toNumbered.sessionRun [event]
  toHeaderKept := hunordered.toHeaderKept.sessionStep event
  timeout := by
    refine reorderTimeout_sessionStep hunordered.timeout ?_
    rw [hunordered.version_eq, hunordered.params_eq]
    exact haside

theorem sessionRun (hunordered : Unordered encap version params flow)
    (events : List (SessionEvent n)) (haside : ∀ event ∈ events, event.Aside version params) :
    Unordered encap version params (sessionRun flow events) := by
  induction events generalizing flow with
  | nil => exact hunordered
  | cons event events ih =>
    exact ih (hunordered.sessionStep (haside event List.mem_cons_self)) fun event' hmem ↦
      haside event' (List.mem_cons_of_mem _ hmem)

theorem l2tpRecvCommon (hunordered : Unordered encap version params flow) (call : RecvCall n) :
    Unordered encap version params (l2tpRecvCommon flow call) where
  toNumbered := hunordered.toNumbered.run [call]
  toHeaderKept := hunordered.toHeaderKept.sessionStep (.recv call)
  timeout := (sameSetup_l2tpRecvCommon flow call).timeout.trans hunordered.timeout

variable {call : RecvCall n} {skb : SkBuff}

/-- A sequenced frame is discarded, or put at the end of the queue before the loop runs. -/
theorem recv_cases (hunordered : Unordered encap version params flow)
    (hadmitted : admittedFrame version params 0 call = some skb) (hseq : skb.cb.hasSeq = true)
    (hhz : call.env.hz.toNat < 2 ^ 63)
    (hnew : Absent skb.id flow) :
    delivered (L2tp.l2tpRecvCommon flow call).log = delivered flow.log ∨
      Behind flow skb (L2tp.l2tpRecvCommon flow call) ∨
      LeftLast flow skb (L2tp.l2tpRecvCommon flow call) := by
  have hfresh : timeAfter call.env.jiffies skb.cb.expires = false := by
    rw [expires_of_admittedFrame hadmitted]
    exact timeAfter_add hhz
  have hhere : admittedFrame flow.tunnel.version flow.session.toSessionParams
      flow.session.reorderTimeout call = some skb := by
    rw [hunordered.version_eq, hunordered.params_eq, hunordered.timeout]
    exact hadmitted
  obtain ⟨sendSeq, hdrLen, hcommon⟩ := l2tpRecvCommon_sequenced hhere hseq
  rw [hcommon]
  set begun := flow.ref.onSession fun session ↦ { session with sendSeq, hdrLen } with hbegun
  have hlog : delivered begun.log = delivered flow.log := by
    simp [hbegun, Flow.ref_eq]
  have hqueue : begun.session.reorderQ = flow.session.reorderQ := by
    simp [hbegun]
  have htimeout : begun.session.reorderTimeout = 0 := by
    simpa [hbegun] using hunordered.timeout
  have hbehind : ∀ turn : Flow n, turn.session.reorderQ = begun.session.reorderQ →
      turn.log = begun.log → Behind flow skb (skbQueueTail turn skb) := by
    intro turn hturnQ hturnLog
    refine ⟨⟨begun.session.reorderQ, ?_, ?_⟩, [], ?_, by simp⟩
    · simp [skbQueueTail, hturnQ]
    · rw [hqueue]
      exact hnew
    · simp [skbQueueTail, hturnLog, hlog]
  rcases l2tpRecvDataSeq_cases call.env begun skb with
    ⟨-, heq⟩ | ⟨-, ⟨hreorder, -⟩ | ⟨-, ⟨-, heq⟩ | ⟨-, ⟨-, heq⟩ | ⟨-, heq⟩⟩⟩⟩
  · left
    simp [heq, recvDiscard, Flow.deref_eq, delivered, hlog]
  · exact absurd htimeout hreorder
  · right
    rw [heq]
    exact (hbehind begun rfl rfl).l2tpRecvDequeue hseq hfresh
  · left
    simp [heq, recvDiscard, Flow.deref_eq, delivered, trackOos, hlog]
  · right
    rw [heq]
    exact (hbehind (trackOos begun skb.cb.ns) rfl rfl).l2tpRecvDequeue hseq hfresh

/-- A frame that is delivered in the call in which it comes leaves an empty queue, and a session
that expects the next number. -/
theorem of_delivers (hunordered : Unordered encap version params flow)
    (hadmitted : admittedFrame version params 0 call = some skb) (hseq : skb.cb.hasSeq = true)
    (hhz : call.env.hz.toNat < 2 ^ 63)
    (hnew : Absent skb.id flow)
    (hdelivered : skb.id ∈ ((delivered (L2tp.l2tpRecvCommon flow call).log).drop
      (delivered flow.log).length).map SkBuff.id) :
    (L2tp.l2tpRecvCommon flow call).session.reorderQ = [] ∧
      (L2tp.l2tpRecvCommon flow call).session.nr.toNat = (skb.cb.ns.toNat + 1) % params.seqCount ∧
      (L2tp.l2tpRecvCommon flow call).session.recvSkb.isSome = true := by
  have hafter := hunordered.l2tpRecvCommon call
  obtain ⟨frame, hmem, hid⟩ := List.mem_map.mp hdelivered
  rcases hunordered.recv_cases hadmitted hseq hhz hnew with hsame | hbehind | hlast
  · rw [hsame, List.drop_length] at hmem
    exact absurd hmem List.not_mem_nil
  · obtain ⟨sent, hsent, hids⟩ := hbehind.sent
    rw [hsent, List.drop_left] at hmem
    exact absurd hid (hids frame hmem)
  · obtain ⟨sent, hsent, hids⟩ := hlast.sent
    rw [hsent, List.drop_left] at hmem
    refine ⟨hlast.queue, ?_, ?_⟩
    · rw [hlast.nr, hafter.space.toNat_succ_and_nrMax, hafter.params_eq]
    · rcases List.mem_append.mp hmem with hother | hself
      · exact absurd hid (hids frame hother)
      · -- Without a handler nothing is handed over.
        by_contra hnone
        rw [handedOver, if_neg hnone] at hself
        exact absurd hself List.not_mem_nil

end Unordered

/-! ### Streams behind frames left in the queue -/

namespace SeqStream

/-- The stream from frame `k` on. -/
def drop (stream : SeqStream n) (k : ℕ) : SeqStream n where
  others j := stream.others (k + j)
  frame j := stream.frame (k + j)

variable {stream : SeqStream n} {encap : L2tpEncap} {version start : ℕ} {params : SessionParams}
  {flow : Flow n}

theorem Consecutive.drop (hstream : stream.Consecutive version params start) (k : ℕ) :
    (stream.drop k).Consecutive version params ((start + k) % params.seqCount) where
  start_lt := Nat.mod_lt _ ((Nat.zero_le start).trans_lt hstream.start_lt)
  hz j := hstream.hz (k + j)
  frame j := by
    obtain ⟨skb, hadmitted, hseq, hns⟩ := hstream.frame (k + j)
    refine ⟨skb, hadmitted, hseq, ?_⟩
    rw [hns, Nat.mod_add_mod, Nat.add_assoc]
  others j := hstream.others (k + j)

theorem unordered_arrival (hunordered : Unordered encap version params flow)
    (hstream : stream.Consecutive version params start) (k : ℕ) :
    Unordered encap version params (stream.arrival flow k) := by
  induction k with
  | zero => exact hunordered.sessionRun _ (hstream.others 0)
  | succ k ih => exact (ih.l2tpRecvCommon (stream.frame k)).sessionRun _ (hstream.others (k + 1))

/-- The frames of the stream, those that come between them and those in the queue are different
ones. -/
structure Distinct (stream : SeqStream n) (flow : Flow n) : Prop where
  queue : ∀ k, Absent (stream.frame k).skb.id flow
  frame : ∀ j k, j < k → (stream.frame j).skb.id ≠ (stream.frame k).skb.id
  others : ∀ j k, j ≤ k → ∀ call, .recv call ∈ stream.others j →
    call.skb.id ≠ (stream.frame k).skb.id

/-- A frame of the stream is not in the queue before it comes. -/
theorem Distinct.absent (hdistinct : stream.Distinct flow) {j k : ℕ} (hjk : j ≤ k) :
    Absent (stream.frame k).skb.id (stream.arrival flow j) := by
  induction j with
  | zero => exact (hdistinct.queue k).sessionRun (hdistinct.others 0 k hjk)
  | succ j ih =>
    have hcame : Absent (stream.frame k).skb.id
        (l2tpRecvCommon (stream.arrival flow j) (stream.frame j)) :=
      (ih (Nat.le_of_succ_le hjk)).l2tpRecvCommon (hdistinct.frame j k hjk)
    exact hcame.sessionRun (hdistinct.others (j + 1) k hjk)

/-- The first frame of a stream is delivered if nothing is in the queue and Nr asks for it. -/
theorem delivers_zero (hunqueued : Unqueued flow)
    (hstream : stream.Consecutive flow.tunnel.version flow.session.toSessionParams start)
    (hnr : flow.session.nr.toNat = start) (hhandler : flow.session.recvSkb.isSome = true) :
    stream.Delivers flow 0 := by
  have hlt : flow.session.lock.expected < flow.session.lockRules.count := hunqueued.nr
  have hstart : start = flow.session.lock.expected := hnr.symm
  have htakes := Lock.takes_expected (hunqueued.space.sound hunqueued.patience) hlt
  refine (delivers_iff hunqueued hstream 0).mpr ⟨?_, Or.inl hhandler⟩
  rw [Lock.takes, Lock.before, hstart, Nat.add_zero, Nat.mod_eq_of_lt hlt]
  exact htakes

/-- After a frame that is delivered when it comes, so is the next. -/
theorem Delivers.succ (hunordered : Unordered encap version params flow)
    (hpatience : params.nrOosCountMax = 4) (hstream : stream.Consecutive version params start)
    (hdistinct : stream.Distinct flow) {k : ℕ} (hdelivers : stream.Delivers flow k) :
    stream.Delivers flow (k + 1) := by
  obtain ⟨skb, hadmitted, hseq, hns⟩ := hstream.frame k
  have harrival := unordered_arrival hunordered hstream k
  have hnew := hdistinct.absent (le_refl k)
  rw [Delivers] at hdelivers
  rw [← id_of_admittedFrame hadmitted] at hnew hdelivers
  obtain ⟨hempty, hnr, hhandler⟩ := harrival.of_delivers hadmitted hseq (hstream.hz k) hnew
    hdelivers
  have hafter := harrival.l2tpRecvCommon (stream.frame k)
  have hunqueued : Unqueued (l2tpRecvCommon (stream.arrival flow k) (stream.frame k)) :=
    ⟨hafter.toNumbered, by rw [hafter.params_eq]; exact hpatience, hafter.timeout, hempty⟩
  have hrest := hstream.drop (k + 1)
  rw [← hafter.version_eq, ← hafter.params_eq] at hrest
  -- Frame `k + 1` is the first of the stream from there on.
  refine delivers_zero hunqueued hrest ?_ hhandler
  rw [hnr, hns, Nat.mod_add_mod, Nat.add_assoc, hafter.params_eq]

/-- Once a frame is delivered when it comes, all that follow are. -/
theorem Delivers.of_le (hunordered : Unordered encap version params flow)
    (hpatience : params.nrOosCountMax = 4) (hstream : stream.Consecutive version params start)
    (hdistinct : stream.Distinct flow) (j k : ℕ) (hjk : j ≤ k)
    (hdelivers : stream.Delivers flow j) : stream.Delivers flow k := by
  induction k, hjk using Nat.le_induction with
  | base => exact hdelivers
  | succ k _ ih => exact ih.succ hunordered hpatience hstream hdistinct

end SeqStream

/-- Assumes: a session in any state that it can come to, without reordering, and a stream of
consecutive numbers whose frames are new ones. Whatever is left in the queue, the session finds its
way into the stream exactly if frame `nr_oos_count_max + 1`, counted from 0, is delivered when it
comes. -/
theorem resyncs_iff_delivers (tunnel : L2tpTunnel n) (tunnelIndex : ℕ)
    (sessionId peerSessionId : UInt32) (cfg : L2tpSessionCfg) (hooks : SessionHooks)
    (events : List (SessionEvent n)) {flow : Flow n}
    (hflow : flow =
      sessionRun (newFlow tunnel tunnelIndex sessionId peerSessionId cfg hooks) events)
    (htimeout : flow.session.reorderTimeout = 0) {stream : SeqStream n} {start : ℕ}
    (hstream : stream.Consecutive flow.tunnel.version flow.session.toSessionParams start)
    (hdistinct : stream.Distinct flow) :
    stream.Resyncs flow ↔ stream.Delivers flow (flow.session.nrOosCountMax.toInt.toNat + 1) := by
  have hheader := headerKept_sessionRun tunnel tunnelIndex sessionId peerSessionId cfg hooks events
  have hnumbered := (numbered_newSession tunnel tunnelIndex sessionId peerSessionId cfg
    hooks).sessionRun events
  have hunordered : Unordered tunnel.encap tunnel.version
      (newSessionParams tunnel tunnelIndex sessionId peerSessionId cfg) flow := by
    subst hflow
    exact ⟨hnumbered, hheader, htimeout⟩
  rw [hunordered.version_eq, hunordered.params_eq] at hstream
  exact exists_first_iff (SeqStream.Delivers.of_le hunordered rfl hstream hdistinct) _

theorem distinct_plainStream (start : ℕ) : (plainStream start).Distinct leftoverFlow where
  queue k := by
    have hids : ∀ other ∈ leftoverFlow.session.reorderQ, other.id = 1 := by decide
    intro other hother
    rw [hids other hother]
    change 1 ≠ 100 + k
    omega
  frame j k hjk := by
    change 100 + j ≠ 100 + k
    omega
  others _ _ _ call hmem := absurd hmem List.not_mem_nil

/-- Frame 2 is left in the queue, and a stream that starts with 3 would be taken up with 8 if it
were not. -/
example : ¬ (plainStream 3).Resyncs leftoverFlow := by
  have hiff : (plainStream 3).Resyncs leftoverFlow ↔ (plainStream 3).Delivers leftoverFlow 5 :=
    resyncs_iff_delivers (newTunnel 1 hdrVer3 1 2 .ip 0) 0 1 2
      { pwType := .eth, lnsMode := true, l2specificLen := 4, l2specificType := l2spectypeDefault,
        reorderTimeout := 50 }
      { recvSkb := some .l2tpEthDevRecv } _ rfl (by decide)
      (consecutive_plainStream rfl rfl rfl rfl rfl (by norm_num)) (distinct_plainStream 3)
  rw [hiff]
  decide

end KernelModules.L2tp
