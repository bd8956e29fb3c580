import KernelModules.Foundations.Runs
import KernelModules.L2tp.Conservation
import KernelModules.L2tp.SequenceNumbers

/-!
# Whether Nr only moves forward

A frame is checked against the window when it arrives, and may then wait in the queue while Nr moves
on. When the head of the queue expires, `reorder_skip` is set, and the next frame that has not
expired writes its own number over Nr. If that frame is a leftover, a second copy of a number that
has been delivered already, Nr goes back to it and the number is delivered again.

A skip comes to that only if, when `reorder_skip` is set or a frame has expired, the frames still in
time are not all in order: a number waits twice, or has fallen behind Nr, or the frames lie on both
sides of the wrap, across which the queue sorts them the wrong way round. As long as the calls of
`l2tp_recv_common` find none of this, Nr is a counter that moves forward by less than the window at
a time, and no number is delivered again before Nr has gone all the way round (`nr_moves_forward`).
-/

set_option autoImplicit false
set_option relaxedAutoImplicit false

namespace KernelModules.L2tp

open Foundations

variable {n : ℕ}

/-! ### Nr as a counter -/

/-- What an effect shows of Nr: a write to it, or the delivery of a sequenced frame. -/
def Effect.counterEvent : Effect → Option CounterEvent
  | .setNr before after => some (.move before.toNat after.toNat)
  | .recvSkb skb => if skb.cb.hasSeq then some (.take skb.cb.ns.toNat) else none
  | .kfreeSkb _ => none
  | .ipQueueXmit _ => none
  | .sockHold => none
  | .sockPut => none

@[simp] theorem counterEvents_refEffects (hooks : SessionHooks) :
    hooks.refEffects.filterMap Effect.counterEvent = [] := by
  unfold SessionHooks.refEffects
  split_ifs <;> rfl

@[simp] theorem counterEvents_derefEffects (hooks : SessionHooks) :
    hooks.derefEffects.filterMap Effect.counterEvent = [] := by
  unfold SessionHooks.derefEffects
  split_ifs <;> rfl

/-- How far Nr has moved. -/
def nrAdvance (params : SessionParams) (effects : List Effect) : ℕ :=
  travelled params.seqCount (effects.filterMap Effect.counterEvent)

/-- Nr moves forward by less than the window each time it is written, and between two deliveries of
one number it moves by more than the window, even without the move that belongs to the second
delivery. -/
structure MovesForward (params : SessionParams) (effects : List Effect) : Prop where
  forward : ∀ before after, .setNr before after ∈ effects →
    ahead params.seqCount before.toNat after.toNat < params.nrWindowSize.toNat
  once : ∀ pre first mid second post,
    effects = pre ++ .recvSkb first :: (mid ++ .recvSkb second :: post) →
      first.cb.hasSeq = true → second.cb.hasSeq = true → first.cb.ns = second.cb.ns →
        params.nrWindowSize.toNat + 1 < nrAdvance params mid

/-- The effects of a counter that only moves forward. -/
theorem movesForward_of_forward {params : SessionParams} (hspace : params.SeqSpace)
    {effects : List Effect} {first last : ℕ} {fresh fresh' : Bool}
    (hforward : Forward params.seqCount params.nrWindowSize.toNat first fresh
      (effects.filterMap Effect.counterEvent) last fresh') : MovesForward params effects := by
  refine ⟨fun before after hmem ↦ ?_, ?_⟩
  · exact hforward.ahead_lt_of_mem (List.mem_filterMap.mpr ⟨_, hmem, rfl⟩)
  · rintro pre skb mid skb' post rfl hseq hseq' hns
    have hsizes := hspace.sizes
    simp only [List.filterMap_append, List.filterMap_cons, Effect.counterEvent, hseq, hseq',
      if_true, hns] at hforward
    have hround := hforward.le_travelled_of_take_twice (by omega)
    unfold nrAdvance
    omega

/-! ### Numbers inside the sequence space -/

/-- Nr and the numbers in the queue are in the sequence space of the session's version. -/
structure Numbered (flow : Flow n) : Prop where
  space : flow.session.toSessionParams.SeqSpace
  nrMax : flow.session.nrMax = nrMaxOf flow.tunnel.version
  nr : flow.session.nr.toNat < flow.session.seqCount
  queue : ∀ skb ∈ flow.session.reorderQ, skb.cb.hasSeq = true →
    skb.cb.ns.toNat < flow.session.seqCount

/-- A new session is numbered, whatever a pseudowire stores in it. -/
theorem numbered_newSession (tunnel : L2tpTunnel n) (tunnelIndex : ℕ)
    (sessionId peerSessionId : UInt32) (cfg : L2tpSessionCfg) (hooks : SessionHooks) :
    Numbered
      { tunnel
        session :=
          { newSession tunnel tunnelIndex sessionId peerSessionId cfg with toSessionHooks := hooks }
        log := [] } := by
  obtain ⟨hdrLen, heq⟩ := newSession_eq tunnel tunnelIndex sessionId peerSessionId cfg
  rw [heq]
  exact ⟨seqSpace_newSessionParams _ _ _ _ _, rfl, Nat.succ_pos _, by simp⟩

section Numbered

variable {flow flow' : Flow n}

/-- The number of a frame that is admitted is in the space. -/
theorem Numbered.admitted_lt (hnumbered : Numbered flow) {reorderTimeout : Int32}
    {call : RecvCall n} {skb : SkBuff}
    (hadmitted : admittedFrame flow.tunnel.version flow.session.toSessionParams reorderTimeout
      call = some skb) (hseq : skb.cb.hasSeq = true) :
    skb.cb.ns.toNat < flow.session.seqCount := by
  have hle := admittedFrame_ns_le hadmitted hseq
  rw [← hnumbered.nrMax] at hle
  exact Nat.lt_succ_of_le hle

/-- An arrival adds a number of the space to the queue, if it adds one. -/
theorem Numbered.recvEnqueue (hnumbered : Numbered flow) (call : RecvCall n) :
    Numbered (recvEnqueue flow call).1 := by
  obtain ⟨last, skb, hsetup, htunnel, hnr, -, hcases⟩ := recvEnqueue_cases flow call
  have hqueue : (L2tp.recvEnqueue flow call).1 = last ∧ ∀ skb' ∈ last.session.reorderQ,
      skb'.cb.hasSeq = true → skb'.cb.ns.toNat < flow.session.seqCount := by
    rcases hcases with ⟨heq, hadmitted, hqueue, -⟩ | ⟨heq, hqueue, -⟩
    · refine ⟨by rw [heq], fun skb' hskb' hseq ↦ ?_⟩
      rcases List.mem_cons.mp (hqueue.mem_iff.mp hskb') with rfl | hold
      · exact hnumbered.admitted_lt hadmitted hseq
      · exact hnumbered.queue skb' hold hseq
    · refine ⟨by rw [heq], ?_⟩
      rw [hqueue]
      exact hnumbered.queue
  rw [hqueue.1]
  refine ⟨?_, ?_, ?_, ?_⟩
  · rw [hsetup.params]
    exact hnumbered.space
  · rw [hsetup.params, htunnel]
    exact hnumbered.nrMax
  · rw [hsetup.params, hnr]
    exact hnumbered.nr
  · rw [hsetup.params]
    exact hqueue.2

/-- Nr is in the space when the loop looks at a frame of the queue. -/
theorem Numbered.nrAtHead_lt (hnumbered : Numbered flow) {skb : SkBuff}
    (hskb : skb ∈ flow.session.reorderQ) :
    (nrAtHead flow.session skb).toNat < flow.session.seqCount := by
  unfold nrAtHead
  split_ifs with hset
  · exact hnumbered.queue skb hskb (Bool.and_elim_left hset)
  · exact hnumbered.nr

/-- The delivery of a sequenced frame counts up by one. -/
theorem Numbered.toNat_nrDelivered (hnumbered : Numbered flow) {skb : SkBuff}
    (hseq : skb.cb.hasSeq = true) :
    (nrDelivered flow.session skb).toNat =
      ((nrAtHead flow.session skb).toNat + 1) % flow.session.seqCount := by
  rw [nrDelivered, if_pos hseq]
  exact hnumbered.space.toNat_succ_and_nrMax _

theorem Numbered.nrDelivered_lt (hnumbered : Numbered flow) (skb : SkBuff) :
    (nrDelivered flow.session skb).toNat < flow.session.seqCount := by
  cases hseq : skb.cb.hasSeq with
  | false => simpa [nrDelivered, hseq] using hnumbered.nr
  | true =>
    rw [hnumbered.toNat_nrDelivered hseq]
    exact Nat.mod_lt _ (Nat.succ_pos _)

theorem Numbered.dequeueStep (hnumbered : Numbered flow) {env : Env n}
    (hstep : dequeueStep env flow = some flow') : Numbered flow' := by
  obtain ⟨skb, rest, tstats, counters, hqueue, hcases⟩ := dequeueStep_cases hstep
  have hrest : ∀ skb' ∈ rest, skb'.cb.hasSeq = true →
      skb'.cb.ns.toNat < flow.session.seqCount := fun skb' hskb' ↦
    hnumbered.queue skb' (by rw [hqueue]; exact List.mem_cons_of_mem _ hskb')
  rcases hcases with ⟨-, rfl⟩ | ⟨-, -, rfl⟩
  · exact ⟨hnumbered.space, hnumbered.nrMax, hnumbered.nr, hrest⟩
  · rw [afterDelivery_eq]
    exact ⟨hnumbered.space, hnumbered.nrMax, hnumbered.nrDelivered_lt skb, hrest⟩

/-- Every run keeps the numbers in the space. -/
theorem Numbered.run (hnumbered : Numbered flow) (calls : List (RecvCall n)) :
    Numbered (calls.foldl l2tpRecvCommon flow) := by
  induction calls generalizing flow with
  | nil => exact hnumbered
  | cons call calls ih =>
    exact ih (l2tpRecvCommon_induction (hnumbered.recvEnqueue call) fun _ _ hturn hstep ↦
      hturn.dequeueStep hstep)

end Numbered

/-! ### Where a skip can go -/

/-- The sequenced frames that have not expired: those that the dequeue loop can skip to. -/
def skipTargets (env : Env n) (frames : List SkBuff) : List SkBuff :=
  frames.filter fun skb ↦ skb.cb.hasSeq && !timeAfter env.jiffies skb.cb.expires

/-- Of two different numbers the smaller one, which stands first in the queue, is also the one that
Nr comes to first. -/
def SameOrder (m nr : ℕ) (skb skb' : SkBuff) : Prop :=
  (skb.cb.ns < skb'.cb.ns ∧ ahead m nr skb.cb.ns.toNat < ahead m nr skb'.cb.ns.toNat) ∨
    (skb'.cb.ns < skb.cb.ns ∧ ahead m nr skb'.cb.ns.toNat < ahead m nr skb.cb.ns.toNat)

instance (m nr : ℕ) (skb skb' : SkBuff) : Decidable (SameOrder m nr skb skb') :=
  inferInstanceAs (Decidable (_ ∨ _))

/-- There is nothing to skip for: `reorder_skip` is not set, and none of the frames has expired. -/
def NoSkip (env : Env n) (session : L2tpSession n) (frames : List SkBuff) : Prop :=
  session.reorderSkip = false ∧ ∀ skb ∈ frames, timeAfter env.jiffies skb.cb.expires = false

/-- The frames that have not expired have different numbers, inside the window of Nr and on one side
of the wrap. -/
def WaitsOrderly (env : Env n) (session : L2tpSession n) (frames : List SkBuff) : Prop :=
  (∀ skb ∈ skipTargets env frames, l2tpSeqCheckRxWindow session skb.cb.ns = true) ∧
    (skipTargets env frames).Pairwise (SameOrder session.seqCount session.nr.toNat)

instance (env : Env n) (session : L2tpSession n) (frames : List SkBuff) :
    Decidable (NoSkip env session frames) :=
  inferInstanceAs (Decidable (_ ∧ _))

instance (env : Env n) (session : L2tpSession n) (frames : List SkBuff) :
    Decidable (WaitsOrderly env session frames) :=
  inferInstanceAs (Decidable (_ ∧ _))

/-- A call of `l2tp_recv_common` whose frame is admitted finds nothing to skip for, or finds the
frames that wait, the new one among them, in an orderly state. A frame outside the window is
discarded and nothing is asked of its call. -/
def SkipsOrderly (flow : Flow n) (call : RecvCall n) : Prop :=
  ∀ skb ∈ admittedFrame flow.tunnel.version flow.session.toSessionParams
      flow.session.reorderTimeout call,
    (skb.cb.hasSeq = true → l2tpSeqCheckRxWindow flow.session skb.cb.ns = true) →
      NoSkip call.env flow.session (skb :: flow.session.reorderQ) ∨
        WaitsOrderly call.env flow.session (skb :: flow.session.reorderQ)

instance (flow : Flow n) (call : RecvCall n) : Decidable (SkipsOrderly flow call) :=
  inferInstanceAs (Decidable (∀ skb ∈ admittedFrame _ _ _ _, _ → _ ∨ _))

/-! ### Sessions that reorder -/

/-- A session that reorders. Its queue is sorted as far as the walk of `l2tp_recv_queue_skb`
compares numbers: nothing in front of a sequenced frame has a larger one. -/
structure Reordering (flow : Flow n) : Prop extends Numbered flow where
  timeout : flow.session.reorderTimeout ≠ 0
  sorted : flow.session.reorderQ.Pairwise fun skb skb' ↦
    skb'.cb.hasSeq = true → skb.cb.ns ≤ skb'.cb.ns

/-- A new session that is to reorder does so. -/
theorem reordering_newSession (tunnel : L2tpTunnel n) (tunnelIndex : ℕ)
    (sessionId peerSessionId : UInt32) (cfg : L2tpSessionCfg) (hooks : SessionHooks)
    (htimeout : cfg.reorderTimeout ≠ 0) :
    Reordering
      { tunnel
        session :=
          { newSession tunnel tunnelIndex sessionId peerSessionId cfg with toSessionHooks := hooks }
        log := [] } where
  toNumbered := numbered_newSession tunnel tunnelIndex sessionId peerSessionId cfg hooks
  timeout := by
    obtain ⟨hdrLen, heq⟩ := newSession_eq tunnel tunnelIndex sessionId peerSessionId cfg
    rw [heq]
    exact htimeout
  sorted := by
    obtain ⟨hdrLen, heq⟩ := newSession_eq tunnel tunnelIndex sessionId peerSessionId cfg
    rw [heq]
    exact List.Pairwise.nil

theorem sorted_queueByNs {skb : SkBuff} {queue : List SkBuff}
    (hsorted : queue.Pairwise fun skb skb' ↦ skb'.cb.hasSeq = true → skb.cb.ns ≤ skb'.cb.ns) :
    (queueByNs skb queue).1.Pairwise fun skb skb' ↦
      skb'.cb.hasSeq = true → skb.cb.ns ≤ skb'.cb.ns := by
  induction queue with
  | nil => exact List.pairwise_singleton _ _
  | cons skbp rest ih =>
    obtain ⟨hhead, hrest⟩ := List.pairwise_cons.mp hsorted
    unfold queueByNs
    split_ifs with hlarger
    · refine List.pairwise_cons.mpr ⟨fun skb' hskb' hseq ↦ ?_, hsorted⟩
      rcases List.mem_cons.mp hskb' with rfl | hmem
      · exact UInt32.le_of_lt hlarger
      · exact UInt32.le_trans (UInt32.le_of_lt hlarger) (hhead skb' hmem hseq)
    · refine List.pairwise_cons.mpr ⟨fun skb' hskb' hseq ↦ ?_, ih hrest⟩
      rcases List.mem_cons.mp ((queueByNs_perm skb rest).mem_iff.mp hskb') with rfl | hmem
      · exact UInt32.not_lt.mp hlarger
      · exact hhead skb' hmem hseq

section Reordering

variable {flow flow' : Flow n}

/-- What a call leaves for the dequeue loop when the session reorders: a sequenced frame is inside
the window and at the place of its number, one without a number is at the tail, and Nr and
`reorder_skip` are as they were. -/
theorem recvEnqueue_reordering {call : RecvCall n} (htimeout : flow.session.reorderTimeout ≠ 0)
    (hqueued : recvEnqueue flow call = (flow', true)) :
    ∃ skb, admittedFrame flow.tunnel.version flow.session.toSessionParams
        flow.session.reorderTimeout call = some skb ∧
      SameSetup flow flow' ∧ flow'.session.nr = flow.session.nr ∧
      flow'.session.reorderSkip = flow.session.reorderSkip ∧
      ((skb.cb.hasSeq = true ∧ l2tpSeqCheckRxWindow flow.session skb.cb.ns = true ∧
          flow'.session.reorderQ = (queueByNs skb flow.session.reorderQ).1) ∨
        (skb.cb.hasSeq = false ∧ flow'.session.reorderQ = flow.session.reorderQ ++ [skb])) := by
  rcases recvAdmit_cases flow.ref call with
    ⟨change, skb, -, -, heq⟩ | ⟨sendSeq, hdrLen, skb, -, heq | heq⟩
  · simp [recvEnqueue, heq] at hqueued
  · simp [recvEnqueue, heq] at hqueued
  · have hadmitted := admittedFrame_of_recvAdmit heq
    rw [Flow.tunnel_ref, Flow.session_ref] at hadmitted
    refine ⟨skb, hadmitted, ?_⟩
    cases hseq : skb.cb.hasSeq with
    | false =>
      obtain rfl : skbQueueTail (flow.ref.onSession fun session ↦ { session with sendSeq, hdrLen })
          skb = flow' := by
        simpa [recvEnqueue, heq, hseq] using hqueued
      refine ⟨⟨?_, ?_, ?_, ?_⟩, ?_⟩
      all_goals simp [skbQueueTail]
    | true =>
      cases hwindow : l2tpSeqCheckRxWindow flow.session skb.cb.ns with
      | false =>
        obtain ⟨_, _, _, hdiscarded⟩ := recvEnqueue_outside hadmitted hseq hwindow
        rw [hdiscarded] at hqueued
        exact absurd (congrArg Prod.snd hqueued) Bool.false_ne_true
      | true =>
        obtain ⟨_, _, _, hinserted⟩ := recvEnqueue_inWindow hadmitted hseq htimeout hwindow
        obtain ⟨rfl, -⟩ := Prod.mk.inj (hinserted.symm.trans hqueued)
        exact ⟨⟨rfl, rfl, rfl, rfl⟩, rfl, rfl, Or.inl ⟨rfl, rfl, rfl⟩⟩

/-- An arrival keeps the queue sorted. -/
theorem Reordering.recvEnqueue (hreordering : Reordering flow) (call : RecvCall n) :
    Reordering (recvEnqueue flow call).1 := by
  have hnumbered := hreordering.toNumbered.recvEnqueue call
  obtain ⟨last, skb, hsetup, -, -, -, ⟨heq, -, -, -⟩ | ⟨heq, hqueue, -⟩⟩ :=
    recvEnqueue_cases flow call
  · rw [heq] at hnumbered ⊢
    refine ⟨hnumbered, by rw [hsetup.timeout]; exact hreordering.timeout, ?_⟩
    obtain ⟨skb, -, -, -, -, ⟨-, -, hqueue⟩ | ⟨hseq, hqueue⟩⟩ :=
      recvEnqueue_reordering hreordering.timeout heq
    · rw [hqueue]
      exact sorted_queueByNs hreordering.sorted
    · rw [hqueue]
      refine List.pairwise_append.mpr ⟨hreordering.sorted, List.pairwise_singleton _ _, ?_⟩
      intro skb' _ last' hlast' hseq'
      rw [List.mem_singleton.mp hlast', hseq] at hseq'
      exact absurd hseq' Bool.false_ne_true
  · rw [heq] at hnumbered ⊢
    refine ⟨hnumbered, by rw [hsetup.timeout]; exact hreordering.timeout, ?_⟩
    rw [hqueue]
    exact hreordering.sorted

/-- A turn of the dequeue loop takes the head off a sorted queue. -/
theorem Reordering.dequeueStep (hreordering : Reordering flow) {env : Env n}
    (hstep : dequeueStep env flow = some flow') : Reordering flow' := by
  have hnumbered := hreordering.toNumbered.dequeueStep hstep
  have hsorted := hreordering.sorted
  obtain ⟨skb, rest, tstats, counters, hqueue, hcases⟩ := dequeueStep_cases hstep
  rw [hqueue, List.pairwise_cons] at hsorted
  rcases hcases with ⟨-, rfl⟩ | ⟨-, -, rfl⟩
  · exact ⟨hnumbered, hreordering.timeout, hsorted.2⟩
  · rw [afterDelivery_eq] at hnumbered ⊢
    exact ⟨hnumbered, hreordering.timeout, hsorted.2⟩

end Reordering

/-! ### Inside a call -/

/-- What the dequeue loop keeps: there is nothing to skip for, or the frames that a skip can go to
are inside the window of Nr and each is behind the one in front of it. -/
def SkipSafe (env : Env n) (session : L2tpSession n) : Prop :=
  NoSkip env session session.reorderQ ∨
    ((∀ skb ∈ skipTargets env session.reorderQ,
        ahead session.seqCount session.nr.toNat skb.cb.ns.toNat < session.nrWindowSize.toNat) ∧
      (skipTargets env session.reorderQ).Pairwise fun skb skb' ↦
        ahead session.seqCount session.nr.toNat skb.cb.ns.toNat <
          ahead session.seqCount session.nr.toNat skb'.cb.ns.toNat)

section SkipSafe

variable {env : Env n} {flow flow' : Flow n}

theorem mem_skipTargets {skb : SkBuff} {frames : List SkBuff} :
    skb ∈ skipTargets env frames ↔
      skb ∈ frames ∧ skb.cb.hasSeq = true ∧ timeAfter env.jiffies skb.cb.expires = false := by
  simp [skipTargets]

/-- A skip goes to a frame inside the window. -/
theorem SkipSafe.ahead_lt {session : L2tpSession n} (hsafe : SkipSafe env session) {skb : SkBuff}
    (hskb : skb ∈ session.reorderQ) (hfresh : timeAfter env.jiffies skb.cb.expires = false)
    (hseq : skb.cb.hasSeq = true) (hskip : session.reorderSkip = true) :
    ahead session.seqCount session.nr.toNat skb.cb.ns.toNat < session.nrWindowSize.toNat := by
  rcases hsafe with hno | ⟨hwindow, -⟩
  · rw [hno.1] at hskip
    exact absurd hskip Bool.false_ne_true
  · exact hwindow skb (mem_skipTargets.mpr ⟨hskb, hseq, hfresh⟩)

theorem sameOrder_symm {m nr : ℕ} {skb skb' : SkBuff} (horder : SameOrder m nr skb skb') :
    SameOrder m nr skb' skb :=
  Or.symm horder

/-- In a sorted queue the frame in front is the one that Nr comes to first. -/
theorem SameOrder.ahead_lt {m nr : ℕ} {skb skb' : SkBuff} (horder : SameOrder m nr skb skb')
    (hle : skb.cb.ns ≤ skb'.cb.ns) :
    ahead m nr skb.cb.ns.toNat < ahead m nr skb'.cb.ns.toNat := by
  rcases horder with ⟨-, hahead⟩ | ⟨hlt, -⟩
  · exact hahead
  · exact absurd hlt (UInt32.not_lt.mpr hle)

/-- The loop begins in a safe state. -/
theorem SkipsOrderly.skipSafe {call : RecvCall n} (hskips : SkipsOrderly flow call)
    (hreordering : Reordering flow) (hqueued : recvEnqueue flow call = (flow', true)) :
    SkipSafe call.env flow'.session := by
  have hafter := hreordering.recvEnqueue call
  rw [hqueued] at hafter
  obtain ⟨skb, hadmitted, hsetup, hnr, hskip, hplace⟩ :=
    recvEnqueue_reordering hreordering.timeout hqueued
  have hperm : flow'.session.reorderQ.Perm (skb :: flow.session.reorderQ) := by
    rcases hplace with ⟨-, -, hqueue⟩ | ⟨-, hqueue⟩
    · rw [hqueue]
      exact queueByNs_perm skb _
    · rw [hqueue]
      exact List.perm_append_singleton skb _
  have hchecked : skb.cb.hasSeq = true → l2tpSeqCheckRxWindow flow.session skb.cb.ns = true := by
    rcases hplace with ⟨-, hwindow, -⟩ | ⟨hno, -⟩
    · exact fun _ ↦ hwindow
    · exact fun hseq ↦ absurd (hno.symm.trans hseq) Bool.false_ne_true
  rcases hskips skb hadmitted hchecked with ⟨hset, htimely⟩ | ⟨hwindow, horder⟩
  · exact Or.inl ⟨hskip.trans hset, fun skb' hmem ↦ htimely skb' (hperm.mem_iff.mp hmem)⟩
  · have htargets : (skipTargets call.env flow'.session.reorderQ).Perm
        (skipTargets call.env (skb :: flow.session.reorderQ)) := hperm.filter _
    rw [SkipSafe, hsetup.params, hnr]
    refine Or.inr ⟨fun skb' hmem ↦ ?_, ?_⟩
    · obtain ⟨hskb', hseq, -⟩ := mem_skipTargets.mp hmem
      have hns := hafter.queue skb' hskb' hseq
      rw [hsetup.params] at hns
      exact (l2tpSeqCheckRxWindow_iff hreordering.space hreordering.nr hns).mp
        (hwindow skb' (htargets.mem_iff.mp hmem))
    · have hboth := ((htargets.pairwise_iff sameOrder_symm).mpr horder).and
        (hafter.sorted.filter fun skb ↦ skb.cb.hasSeq && !timeAfter call.env.jiffies skb.cb.expires)
      refine hboth.imp_of_mem fun _ hmem hpair ↦ ?_
      exact hpair.1.ahead_lt (hpair.2 (mem_skipTargets.mp hmem).2.1)

/-- A turn of the loop leaves a safe state: Nr has come nearer to every frame that is left. -/
theorem SkipSafe.dequeueStep (hsafe : SkipSafe env flow.session) (hnumbered : Numbered flow)
    (hstep : dequeueStep env flow = some flow') : SkipSafe env flow'.session := by
  obtain ⟨skb, rest, tstats, counters, hqueue, hcases⟩ := dequeueStep_cases hstep
  rw [SkipSafe, NoSkip, hqueue] at hsafe
  rcases hcases with ⟨hexpired, rfl⟩ | ⟨hfresh, hasked, rfl⟩
  · have htargets : skipTargets env (skb :: rest) = skipTargets env rest := by
      simp [skipTargets, hexpired]
    rw [htargets] at hsafe
    rcases hsafe with hno | hsafe
    · exact absurd (hexpired.symm.trans (hno.2 skb List.mem_cons_self)) (by simp)
    · exact Or.inr hsafe
  · rw [afterDelivery_eq]
    rcases hsafe with hno | ⟨hwindow, horder⟩
    · refine Or.inl ⟨?_, fun skb' hmem ↦ hno.2 skb' (List.mem_cons_of_mem _ hmem)⟩
      simp [Flow.withStats, hno.1]
    · cases hseq : skb.cb.hasSeq with
      | false =>
        have htargets : skipTargets env (skb :: rest) = skipTargets env rest := by
          simp [skipTargets, hseq]
        rw [htargets] at hwindow horder
        refine Or.inr ?_
        simp only [nrDelivered, hseq, if_neg Bool.false_ne_true]
        exact ⟨hwindow, horder⟩
      | true =>
        have htargets : skipTargets env (skb :: rest) = skb :: skipTargets env rest := by
          simp [skipTargets, hseq, hfresh]
        have hspace : ∀ skb' ∈ skipTargets env (skb :: rest),
            skb'.cb.ns.toNat < flow.session.seqCount := fun skb' hmem ↦
          hnumbered.queue skb' (by rw [hqueue]; exact (mem_skipTargets.mp hmem).1)
            (mem_skipTargets.mp hmem).2.1
        rw [htargets] at hwindow horder hspace
        -- Nr is behind the head now, and every frame that is left was farther away than the head
        have hpast := inOrder_past hnumbered.nr hspace hwindow horder
        rw [hasked hseq, ← hnumbered.toNat_nrDelivered hseq] at hpast
        exact Or.inr hpast

end SkipSafe

/-! ### The steps of the receive path -/

/-- Nr in the run so far: it has moved forward only. -/
structure NrProgress (first flow : Flow n) : Prop extends SameSetup first flow, Numbered flow where
  forward : ∃ effects fresh, flow.log = first.log ++ effects ∧
    Forward first.session.seqCount first.session.nrWindowSize.toNat first.session.nr.toNat false
      (effects.filterMap Effect.counterEvent) flow.session.nr.toNat fresh

theorem NrProgress.start {flow : Flow n} (hnumbered : Numbered flow) : NrProgress flow flow where
  toSameSetup := ⟨rfl, rfl, rfl, rfl⟩
  toNumbered := hnumbered
  forward := ⟨[], false, (List.append_nil _).symm, Forward.nil _ _⟩

/-- What is appended to the log carries the progress on. -/
theorem NrProgress.extend {first flow flow' : Flow n} (hprogress : NrProgress first flow)
    (hsetup : SameSetup flow flow') (hnumbered : Numbered flow') {effects : List Effect}
    (hlog : flow'.log = flow.log ++ effects)
    (hforward : ∀ fresh, ∃ fresh', Forward flow.session.seqCount flow.session.nrWindowSize.toNat
      flow.session.nr.toNat fresh (effects.filterMap Effect.counterEvent)
      flow'.session.nr.toNat fresh') : NrProgress first flow' := by
  obtain ⟨before, fresh, hlog', hbefore⟩ := hprogress.forward
  obtain ⟨fresh', hafter⟩ := hforward fresh
  refine ⟨hprogress.toSameSetup.trans hsetup, hnumbered, before ++ effects, fresh', ?_, ?_⟩
  · rw [hlog, hlog', List.append_assoc]
  · rw [List.filterMap_append]
    rw [hprogress.params] at hafter
    exact Forward.append_iff.mpr ⟨_, fresh, hbefore, hafter⟩

section Steps

variable {first flow flow' : Flow n}

/-- An arrival does not touch Nr. -/
theorem NrProgress.recvEnqueue (hprogress : NrProgress first flow) (call : RecvCall n) :
    NrProgress first (recvEnqueue flow call).1 := by
  have hnumbered := hprogress.toNumbered.recvEnqueue call
  obtain ⟨last, skb, hsetup, -, hnr, -, ⟨heq, -, -, hlog⟩ | ⟨heq, -, hlog⟩⟩ :=
    recvEnqueue_cases flow call
  all_goals
    rw [heq] at hnumbered ⊢
    refine hprogress.extend hsetup hnumbered hlog fun fresh ↦ ⟨fresh, ?_⟩
    simp only [List.filterMap_append, List.filterMap_cons, counterEvents_refEffects,
      counterEvents_derefEffects, Effect.counterEvent, List.append_nil, hnr]
    exact Forward.nil _ _

/-- How Nr gets to the head that the loop looks at. -/
theorem forward_skip (hnumbered : Numbered flow) {skb : SkBuff} (hskb : skb ∈ flow.session.reorderQ)
    (hseq : skb.cb.hasSeq = true)
    (hskip : flow.session.reorderSkip = true →
      ahead flow.session.seqCount flow.session.nr.toNat skb.cb.ns.toNat <
        flow.session.nrWindowSize.toNat) (fresh : Bool) :
    ∃ fresh', Forward flow.session.seqCount flow.session.nrWindowSize.toNat
      flow.session.nr.toNat fresh
      ((skipEffects flow.session skb).filterMap Effect.counterEvent)
      (nrAtHead flow.session skb).toNat fresh' := by
  have hns := hnumbered.queue skb hskb hseq
  unfold skipEffects nrAtHead
  by_cases hset : (skb.cb.hasSeq && flow.session.reorderSkip) = true
  · rw [if_pos hset, if_pos hset]
    exact ⟨_, Forward.move hns (hskip (Bool.and_elim_right hset)) (Forward.nil _ _)⟩
  · rw [if_neg hset, if_neg hset]
    exact ⟨fresh, Forward.nil _ _⟩

/-- How Nr gets behind the number that is delivered. -/
theorem forward_bump (hnumbered : Numbered flow) {skb : SkBuff} (hskb : skb ∈ flow.session.reorderQ)
    (hseq : skb.cb.hasSeq = true) {fresh fresh' : Bool} {events : List CounterEvent}
    (hrest : Forward flow.session.seqCount flow.session.nrWindowSize.toNat
      (nrDelivered flow.session skb).toNat true events
        (nrDelivered flow.session skb).toNat fresh') :
    Forward flow.session.seqCount flow.session.nrWindowSize.toNat
      (nrAtHead flow.session skb).toNat fresh
      (.move (nrAtHead flow.session skb).toNat (nrDelivered flow.session skb).toNat :: events)
      (nrDelivered flow.session skb).toNat fresh' := by
  have hsizes := hnumbered.space.sizes
  have hone : ahead flow.session.seqCount (nrAtHead flow.session skb).toNat
      (nrDelivered flow.session skb).toNat = 1 := by
    rw [hnumbered.toNat_nrDelivered hseq]
    exact ahead_succ (by omega) (hnumbered.nrAtHead_lt hskb)
  refine Forward.move (hnumbered.nrDelivered_lt skb) (by omega) ?_
  simpa [hone] using hrest

/-- Where the delivery of the head leaves Nr, and how it got there. -/
theorem forward_delivery (hnumbered : Numbered flow) {skb : SkBuff}
    (hskb : skb ∈ flow.session.reorderQ)
    (hskip : skb.cb.hasSeq = true → flow.session.reorderSkip = true →
      ahead flow.session.seqCount flow.session.nr.toNat skb.cb.ns.toNat <
        flow.session.nrWindowSize.toNat)
    (hasked : skb.cb.hasSeq = true → skb.cb.ns = nrAtHead flow.session skb)
    (hooks : SessionHooks) (fresh : Bool) :
    ∃ fresh', Forward flow.session.seqCount flow.session.nrWindowSize.toNat
      flow.session.nr.toNat fresh
      ((skipEffects flow.session skb ++
        (if skb.cb.hasSeq then
          [Effect.setNr (nrAtHead flow.session skb) (nrDelivered flow.session skb)] else []) ++
        handOverEffect hooks skb :: hooks.derefEffects).filterMap Effect.counterEvent)
      (nrDelivered flow.session skb).toNat fresh' := by
  cases hseq : skb.cb.hasSeq with
  | false =>
    have hnothing : Effect.counterEvent (handOverEffect hooks skb) = none := by
      unfold handOverEffect
      split_ifs <;> simp [Effect.counterEvent, hseq]
    simp only [skipEffects, nrDelivered, hseq, Bool.false_and, if_neg Bool.false_ne_true,
      List.append_nil, List.nil_append, List.filterMap_cons, hnothing, counterEvents_derefEffects]
    exact ⟨fresh, Forward.nil _ _⟩
  | true =>
    obtain ⟨fresh₁, hreach⟩ := forward_skip hnumbered hskb hseq (hskip hseq) fresh
    simp only [if_true, List.filterMap_append, List.filterMap_cons, List.append_assoc,
      Effect.counterEvent, counterEvents_derefEffects, List.cons_append, List.nil_append]
    unfold handOverEffect
    split_ifs
    · simp only [hseq, if_true]
      refine ⟨false, Forward.append_iff.mpr ⟨_, fresh₁, hreach,
        forward_bump hnumbered hskb hseq ?_⟩⟩
      refine Forward.take ?_ (Forward.nil _ _)
      rw [hnumbered.toNat_nrDelivered hseq, hasked hseq]
    · exact ⟨true, Forward.append_iff.mpr
        ⟨_, fresh₁, hreach, forward_bump hnumbered hskb hseq (Forward.nil _ _)⟩⟩

/-- A turn of the dequeue loop moves Nr forward, if it skips to a frame inside the window only. -/
theorem NrProgress.dequeueStep (hprogress : NrProgress first flow) {env : Env n}
    (hsafe : SkipSafe env flow.session) (hstep : dequeueStep env flow = some flow') :
    NrProgress first flow' := by
  have hnumbered := hprogress.toNumbered.dequeueStep hstep
  obtain ⟨skb, rest, tstats, counters, hqueue, hcases⟩ := dequeueStep_cases hstep
  have hhead : skb ∈ flow.session.reorderQ := by rw [hqueue]; exact List.mem_cons_self
  rcases hcases with ⟨-, rfl⟩ | ⟨hfresh, hasked, rfl⟩
  · refine hprogress.extend ⟨rfl, rfl, rfl, rfl⟩ hnumbered rfl fun fresh ↦ ⟨fresh, ?_⟩
    simp only [List.filterMap_cons, Effect.counterEvent, counterEvents_derefEffects]
    exact Forward.nil _ _
  · rw [afterDelivery_eq] at hnumbered ⊢
    exact hprogress.extend ⟨rfl, rfl, rfl, rfl⟩ hnumbered rfl
      (forward_delivery hprogress.toNumbered hhead (hsafe.ahead_lt hhead hfresh) hasked
        flow.session.toSessionHooks)

end Steps

/-! ### Whole runs -/

theorem NrProgress.l2tpRecvCommon {first flow : Flow n} (hprogress : NrProgress first flow)
    (hreordering : Reordering flow) {call : RecvCall n} (hskips : SkipsOrderly flow call) :
    NrProgress first (l2tpRecvCommon flow call) := by
  have harrived := hprogress.recvEnqueue call
  unfold L2tp.l2tpRecvCommon
  cases hqueued : L2tp.recvEnqueue flow call with
  | mk arrived queued =>
    rw [hqueued] at harrived
    cases queued with
    | false => exact harrived
    | true =>
      -- inside the call the loop keeps both the progress and the safety of the next skip
      have hloop := drain_induction (P := fun turn ↦
          NrProgress first turn ∧ SkipSafe call.env turn.session) arrived.session.reorderQ.length
        arrived ⟨harrived, hskips.skipSafe hreordering hqueued⟩ fun turn turn' hturn hstep ↦
          ⟨hturn.1.dequeueStep hturn.2 hstep, hturn.2.dequeueStep hturn.1.toNumbered hstep⟩
      exact hloop.1

theorem Reordering.l2tpRecvCommon {flow : Flow n} (hreordering : Reordering flow)
    (call : RecvCall n) : Reordering (l2tpRecvCommon flow call) :=
  l2tpRecvCommon_induction (hreordering.recvEnqueue call) fun _ _ hturn hstep ↦
    hturn.dequeueStep hstep

/-- Nr only moves forward, and no number is delivered again while Nr has moved by no more than the
window. Assumes: a session that reorders, as a new one does if it is told to and as it stays, and a
run of calls of `l2tp_recv_common` on any frames, at any times. Whenever `reorder_skip` is set or a
frame has expired before such a call, the frames that have not expired, the new one among them, have
different numbers in the window, and do not lie on both sides of the wrap. -/
theorem nr_moves_forward {flow : Flow n} (hreordering : Reordering flow)
    {calls : List (RecvCall n)} (hskips : Along l2tpRecvCommon SkipsOrderly flow calls) :
    ∃ effects, (calls.foldl l2tpRecvCommon flow).log = flow.log ++ effects ∧
      MovesForward flow.session.toSessionParams effects := by
  have hrun : NrProgress flow (calls.foldl L2tp.l2tpRecvCommon flow) ∧
      Reordering (calls.foldl L2tp.l2tpRecvCommon flow) :=
    @Along.invariant _ _ _ _ (fun state ↦ NrProgress flow state ∧ Reordering state)
      (fun state call hstate hcall ↦
        ⟨hstate.1.l2tpRecvCommon hstate.2 hcall, hstate.2.l2tpRecvCommon call⟩)
      flow calls hskips ⟨NrProgress.start hreordering.toNumbered, hreordering⟩
  obtain ⟨effects, fresh, hlog, hforward⟩ := hrun.1.forward
  exact ⟨effects, hlog, movesForward_of_forward hreordering.space hforward⟩

/-- Frame 2 comes early and twice, frame 1 lets one copy through, and the other blocks the queue.
Frame 4 waits behind it, frame 3 is lost, and when frame 5 comes, the copy has expired: Nr skips
forward to frame 4. -/
def waitingCopyCalls : List (RecvCall 1) :=
  [sequencedCall cpu0 1000 0 0, sequencedCall cpu0 1001 1 2, sequencedCall cpu0 1002 2 2,
    sequencedCall cpu0 1003 3 1, sequencedCall cpu0 1040 4 4, sequencedCall cpu0 1060 5 5]

theorem nr_moves_forward_waitingCopy :
    Along l2tpRecvCommon SkipsOrderly (reorderingFlow 1 50) waitingCopyCalls ∧
      (delivered (waitingCopyCalls.foldl l2tpRecvCommon (reorderingFlow 1 50)).log).map
        (fun skb ↦ skb.cb.ns) = [0, 1, 2, 4, 5] ∧
      ∃ effects, (waitingCopyCalls.foldl l2tpRecvCommon (reorderingFlow 1 50)).log =
          (reorderingFlow 1 50).log ++ effects ∧
        MovesForward (reorderingFlow 1 50).session.toSessionParams effects :=
  have hskips : Along l2tpRecvCommon SkipsOrderly (reorderingFlow 1 50) waitingCopyCalls := by
    decide
  ⟨hskips, by decide, nr_moves_forward (reordering_newSession _ _ _ _ _ _ (by decide)) hskips⟩

/-- Three copies of frame 5 arrive early and wait. Frames 1 to 4 come, one copy of 5 is delivered,
and Nr is 6. When frame 6 comes, the second copy has expired, so Nr skips to the third. -/
def leftoverCopyCalls : List (RecvCall 1) :=
  [sequencedCall cpu0 1000 0 0, sequencedCall cpu0 1001 1 5, sequencedCall cpu0 1040 2 5,
    sequencedCall cpu0 1045 3 5, sequencedCall cpu0 1046 4 1, sequencedCall cpu0 1047 5 2,
    sequencedCall cpu0 1048 6 3, sequencedCall cpu0 1049 7 4, sequencedCall cpu0 1092 8 6]

/-- Nr goes back from 6 to 5, and 5 is delivered twice. -/
theorem not_movesForward_leftoverCopy :
    Reordering (reorderingFlow 1 50) ∧
      (delivered (leftoverCopyCalls.foldl l2tpRecvCommon (reorderingFlow 1 50)).log).map
        (fun skb ↦ skb.cb.ns) = [0, 1, 2, 3, 4, 5, 5, 6] ∧
      .setNr 6 5 ∈ (leftoverCopyCalls.foldl l2tpRecvCommon (reorderingFlow 1 50)).log ∧
      ¬ MovesForward (reorderingFlow 1 50).session.toSessionParams
        (leftoverCopyCalls.foldl l2tpRecvCommon (reorderingFlow 1 50)).log := by
  have hback : .setNr 6 5 ∈ (leftoverCopyCalls.foldl l2tpRecvCommon (reorderingFlow 1 50)).log := by
    decide
  refine ⟨reordering_newSession _ _ _ _ _ _ (by decide), by decide, hback, ?_⟩
  intro hforward
  exact absurd (hforward.forward 6 5 hback) (by decide)

end KernelModules.L2tp
