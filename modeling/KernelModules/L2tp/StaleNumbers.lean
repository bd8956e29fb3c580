import KernelModules.Foundations.Runs
import KernelModules.L2tp.Conservation

/-!
# Numbers that were never written

`l2tp_recv_common` writes the number of a frame into its control block only if the frame has one. In
the block of a frame without a number the field keeps what was there before, and the walk of
`l2tp_recv_queue_skb` compares with it all the same.

Two sessions are `Alike` if they differ in nothing but statistics and such leftovers. The receive
path keeps them alike, and hands the same frames to the receive handler, as long as the walk meets
no frame without a number before it has found its place: every such frame in the queue stands behind
a frame whose number is larger than the one that arrives (`delivery_ignores_leftovers`). The
condition says exactly when the place in the queue is independent of leftovers
(`shielded_iff`).
-/

set_option autoImplicit false
set_option relaxedAutoImplicit false

namespace KernelModules.L2tp

open Foundations

variable {n : ℕ}

/-! ### Frames and their leftovers -/

/-- A frame without what was left in its control block: a number that is not its own. -/
def SkBuff.scrubbed (skb : SkBuff) : SkBuff :=
  if skb.cb.hasSeq then skb else { skb with cb.ns := 0 }

@[simp] theorem SkBuff.hasSeq_scrubbed (skb : SkBuff) :
    skb.scrubbed.cb.hasSeq = skb.cb.hasSeq := by
  unfold SkBuff.scrubbed
  split_ifs <;> rfl

@[simp] theorem SkBuff.expires_scrubbed (skb : SkBuff) :
    skb.scrubbed.cb.expires = skb.cb.expires := by
  unfold SkBuff.scrubbed
  split_ifs <;> rfl

theorem SkBuff.scrubbed_of_hasSeq {skb : SkBuff} (hseq : skb.cb.hasSeq = true) :
    skb.scrubbed = skb :=
  if_pos hseq

section Scrubbed

variable {skb skb' : SkBuff}

theorem hasSeq_of_scrubbed_eq (hsame : skb'.scrubbed = skb.scrubbed) :
    skb'.cb.hasSeq = skb.cb.hasSeq := by
  rw [← SkBuff.hasSeq_scrubbed, hsame, SkBuff.hasSeq_scrubbed]

theorem expires_of_scrubbed_eq (hsame : skb'.scrubbed = skb.scrubbed) :
    skb'.cb.expires = skb.cb.expires := by
  rw [← SkBuff.expires_scrubbed, hsame, SkBuff.expires_scrubbed]

/-- Frames with a number have no leftovers. -/
theorem eq_of_scrubbed_eq (hsame : skb'.scrubbed = skb.scrubbed) (hseq : skb.cb.hasSeq = true) :
    skb' = skb := by
  have hseq' : skb'.cb.hasSeq = true := (hasSeq_of_scrubbed_eq hsame).trans hseq
  rwa [SkBuff.scrubbed_of_hasSeq hseq, SkBuff.scrubbed_of_hasSeq hseq'] at hsame

end Scrubbed

/-! ### The place of a frame in the queue -/

/-- Every frame without a number stands behind one with a number larger than `ns`. -/
def shielded (ns : UInt32) : List SkBuff → Bool
  | [] => true
  | skb :: rest => skb.cb.hasSeq && (decide (skb.cb.ns > ns) || shielded ns rest)

/-- The walk finds the same place whatever the leftovers are, if all of them are shielded. -/
theorem queueByNs_scrubbed {skb : SkBuff} {queue queue' : List SkBuff}
    (hshielded : shielded skb.cb.ns queue = true)
    (hsame : queue'.map SkBuff.scrubbed = queue.map SkBuff.scrubbed) :
    (queueByNs skb queue').1.map SkBuff.scrubbed =
      (queueByNs skb queue).1.map SkBuff.scrubbed := by
  induction queue generalizing queue' with
  | nil =>
    obtain rfl := List.map_eq_nil_iff.mp hsame
    rfl
  | cons first rest ih =>
    obtain ⟨first', rest', rfl, hfirst, hrest⟩ := List.map_eq_cons_iff.mp hsame
    rw [shielded, Bool.and_eq_true, Bool.or_eq_true, decide_eq_true_iff] at hshielded
    obtain ⟨hseq, hbehind⟩ := hshielded
    obtain rfl := eq_of_scrubbed_eq hfirst hseq
    unfold queueByNs
    split_ifs with hlarger
    · exact congrArg (skb.scrubbed :: ·) hsame
    · exact congrArg (first'.scrubbed :: ·) (ih (hbehind.resolve_left hlarger) hrest)

theorem scrubbed_withNs {skb : SkBuff} (hseq : skb.cb.hasSeq = false) (ns : UInt32) :
    ({ skb with cb.ns := ns } : SkBuff).scrubbed = skb.scrubbed := by
  simp [SkBuff.scrubbed, hseq]

/-- The place of a frame is independent of leftovers exactly if all of them are shielded. -/
theorem shielded_iff {skb : SkBuff} (hseq : skb.cb.hasSeq = true) (hns : skb.cb.ns < 0xffffffff)
    (queue : List SkBuff) :
    shielded skb.cb.ns queue = true ↔
      ∀ queue', queue'.map SkBuff.scrubbed = queue.map SkBuff.scrubbed →
        (queueByNs skb queue').1.map SkBuff.scrubbed =
          (queueByNs skb queue).1.map SkBuff.scrubbed := by
  refine ⟨fun hshielded _ hsame ↦ queueByNs_scrubbed hshielded hsame, fun hall ↦ ?_⟩
  induction queue with
  | nil => rfl
  | cons first rest ih =>
    have hfirst : first.cb.hasSeq = true := by
      by_contra hplain
      rw [Bool.not_eq_true] at hplain
      -- With a small leftover the walk passes the frame, with a large one it stops in front of it.
      have hpasses := hall ({ first with cb.ns := 0 } :: rest)
        (congrArg (· :: rest.map SkBuff.scrubbed) (scrubbed_withNs hplain 0))
      have hstops := hall ({ first with cb.ns := 0xffffffff } :: rest)
        (congrArg (· :: rest.map SkBuff.scrubbed) (scrubbed_withNs hplain 0xffffffff))
      rw [← hstops, queueByNs, if_neg (UInt32.not_lt.mpr (UInt32.zero_le ..)), queueByNs,
        if_pos hns] at hpasses
      have hheads := hasSeq_of_scrubbed_eq (List.cons.inj hpasses).1
      rw [hseq, hplain] at hheads
      exact Bool.false_ne_true hheads
    rw [shielded, hfirst, Bool.true_and, Bool.or_eq_true, decide_eq_true_iff]
    by_cases hlarger : first.cb.ns > skb.cb.ns
    · exact Or.inl hlarger
    · refine Or.inr (ih fun rest' hrest ↦ ?_)
      have hplaced := hall (first :: rest') (congrArg (first.scrubbed :: ·) hrest)
      rw [queueByNs, if_neg hlarger, queueByNs, if_neg hlarger] at hplaced
      exact (List.cons.inj hplaced).2

/-! ### Sessions that differ in leftovers -/

/-- The same session with other statistics, another queue and another log. -/
def Flow.dressed (flow : Flow n) (tstats : Fin n → L2tpStats) (counters : SessionCounters n)
    (queue : List SkBuff) (log : List Effect) : Flow n where
  tunnel := { flow.tunnel with stats := tstats }
  session := { flow.session with toSessionCounters := counters, reorderQ := queue }
  log

/-- The sessions differ in nothing but statistics and leftovers, and have handed the same frames to
the receive handler. -/
structure Alike (flow flow' : Flow n) : Prop where
  shape : ∃ tstats counters queue log, flow' = flow.dressed tstats counters queue log
  queue : flow'.session.reorderQ.map SkBuff.scrubbed = flow.session.reorderQ.map SkBuff.scrubbed
  log : (delivered flow'.log).map SkBuff.scrubbed = (delivered flow.log).map SkBuff.scrubbed

theorem Alike.refl (flow : Flow n) : Alike flow flow :=
  ⟨⟨flow.tunnel.stats, flow.session.toSessionCounters, flow.session.reorderQ, flow.log, rfl⟩, rfl,
    rfl⟩

theorem Alike.length_eq {flow flow' : Flow n} (halike : Alike flow flow') :
    flow'.session.reorderQ.length = flow.session.reorderQ.length := by
  rw [← List.length_map (f := SkBuff.scrubbed), halike.queue, List.length_map]

theorem Alike.ref {flow flow' : Flow n} (halike : Alike flow flow') : Alike flow.ref flow'.ref := by
  obtain ⟨⟨tstats, counters, queue, log, rfl⟩, hqueue, hlog⟩ := halike
  rw [Flow.ref_eq, Flow.ref_eq]
  refine ⟨⟨_, _, _, _, rfl⟩, hqueue, ?_⟩
  simpa only [delivered_append, delivered_refEffects, List.append_nil] using hlog

/-- A discarded frame is not handed over, whatever is in its control block. -/
theorem Alike.recvDiscard {flow flow' : Flow n} (halike : Alike flow flow') (env : Env n)
    (skb skb' : SkBuff) : Alike (recvDiscard env flow skb) (recvDiscard env flow' skb') := by
  obtain ⟨⟨tstats, counters, queue, log, rfl⟩, hqueue, hlog⟩ := halike
  rw [L2tp.recvDiscard, L2tp.recvDiscard, Flow.deref_eq, Flow.deref_eq]
  refine ⟨⟨_, _, _, _, rfl⟩, hqueue, ?_⟩
  simpa only [Flow.log_emit, Flow.log_sessionStats, delivered_append, delivered,
    delivered_derefEffects, List.append_nil] using hlog

theorem Alike.skbQueueTail {flow flow' : Flow n} (halike : Alike flow flow') {skb skb' : SkBuff}
    (hskb : skb'.scrubbed = skb.scrubbed) :
    Alike (skbQueueTail flow skb) (skbQueueTail flow' skb') := by
  obtain ⟨⟨tstats, counters, queue, log, rfl⟩, hqueue, hlog⟩ := halike
  refine ⟨⟨_, _, _, _, rfl⟩, ?_, hlog⟩
  have hboth := congrArg₂ (· ++ [·]) hqueue hskb
  simpa only [L2tp.skbQueueTail, Flow.session_onSession, List.map_append, List.map_cons,
    List.map_nil] using hboth

/-! ### Admission -/

/-- The same call with another control block. -/
def RecvCall.withCb (call : RecvCall n) (cb : L2tpSkbCb) : RecvCall n :=
  { call with skb := { call.skb with cb } }

theorem runPayloadHook_withCb (skb : SkBuff) (cb : L2tpSkbCb) (hook : Option PayloadHook) :
    runPayloadHook hook { skb with cb } =
      (runPayloadHook hook skb).map fun payload ↦ { payload with cb } := by
  cases hook with
  | none => rfl
  | some hook =>
    cases hook
    have hlong : ({ skb with cb } : SkBuff).pskbMayPull 2 = skb.pskbMayPull 2 := rfl
    unfold runPayloadHook pppol2tpRecvPayloadHook
    dsimp only
    rw [hlong]
    split_ifs <;> rfl

theorem recvPayload_withCb (skb : SkBuff) (cb : L2tpSkbCb) (offset : ℕ)
    (hook : Option PayloadHook) : recvPayload { skb with cb } offset hook =
      (recvPayload skb offset hook).map fun payload ↦ { payload with cb } := by
  have hlong : ({ skb with cb } : SkBuff).pskbMayPull offset = skb.pskbMayPull offset := rfl
  unfold recvPayload
  rw [hlong]
  split_ifs
  · exact runPayloadHook_withCb (skb.skbPull offset) cb hook
  · rfl

/-- The header length neither reads nor writes statistics and queue. -/
theorem l2tpSessionSetHeaderLen_dressed (tunnel : L2tpTunnel n) (session : L2tpSession n)
    (tstats : Fin n → L2tpStats) (counters : SessionCounters n) (queue : List SkBuff)
    (version : ℕ) :
    l2tpSessionSetHeaderLen { tunnel with stats := tstats }
        { session with toSessionCounters := counters, reorderQ := queue } version =
      { l2tpSessionSetHeaderLen tunnel session version with
        toSessionCounters := counters, reorderQ := queue } := by
  unfold l2tpSessionSetHeaderLen
  by_cases hversion : version = hdrVer2
  · rw [if_pos hversion, if_pos hversion]
  · rw [if_neg hversion, if_neg hversion]

/-- The policy on sequence numbers neither reads nor writes statistics and queue. -/
theorem recvSeqPolicy_dressed (flow : Flow n) (tstats : Fin n → L2tpStats)
    (counters : SessionCounters n) (queue : List SkBuff) (log : List Effect) (hasSeq : Bool) :
    recvSeqPolicy (flow.dressed tstats counters queue log).tunnel
        (flow.dressed tstats counters queue log).session hasSeq =
      (recvSeqPolicy flow.tunnel flow.session hasSeq).map fun session ↦
        { session with toSessionCounters := counters, reorderQ := queue } := by
  unfold recvSeqPolicy
  simp only [apply_ite (Option.map _), Option.map_some, Option.map_none,
    ← l2tpSessionSetHeaderLen_dressed _ _ tstats]
  rfl

/-- Frames that come out of admission differ in leftovers at most. -/
inductive AlikeFrames : Except SkBuff SkBuff → Except SkBuff SkBuff → Prop
  | error (skb skb' : SkBuff) : AlikeFrames (.error skb) (.error skb')
  | ok {skb skb' : SkBuff} (hsame : skb'.scrubbed = skb.scrubbed) :
      AlikeFrames (.ok skb) (.ok skb')

section WithCb

variable (version : ℕ) (params : SessionParams) (call : RecvCall n) (cb : L2tpSkbCb) (ptr : ℕ)

theorem sequencedFrame_withCb_eq : sequencedFrame version params (call.withCb cb) ptr =
    storeSequence { call.skb with cb }
      (recvSequence version params call.skb ptr call.hdrflags).1 := rfl

theorem sequencedFrame_withCb : sequencedFrame version params (call.withCb cb) ptr =
    { sequencedFrame version params call ptr with
      cb := (sequencedFrame version params (call.withCb cb) ptr).cb } := by
  rw [sequencedFrame_withCb_eq, sequencedFrame]
  cases (recvSequence version params call.skb ptr call.hdrflags).1 <;> rfl

theorem hasSeq_sequencedFrame_withCb :
    (sequencedFrame version params (call.withCb cb) ptr).cb.hasSeq =
      (sequencedFrame version params call ptr).cb.hasSeq := by
  rw [sequencedFrame_withCb_eq, sequencedFrame]
  cases (recvSequence version params call.skb ptr call.hdrflags).1 <;> rfl

theorem recvPayload_sequencedFrame_withCb (offset : ℕ) (hook : Option PayloadHook) :
    recvPayload (sequencedFrame version params (call.withCb cb) ptr) offset hook =
      (recvPayload (sequencedFrame version params call ptr) offset hook).map fun payload ↦
        { payload with cb := (sequencedFrame version params (call.withCb cb) ptr).cb } := by
  rw [← recvPayload_withCb, ← sequencedFrame_withCb]

/-- Length and expiry of a frame are written, and its number if it has one. -/
theorem stampFrame_withCb (env : Env n) (timeout : Int32) (length : ℕ) {payload : SkBuff}
    (hpayload : payload.cb = (sequencedFrame version params call ptr).cb) :
    (stampFrame env timeout
        { payload with cb := (sequencedFrame version params (call.withCb cb) ptr).cb }
        length).scrubbed = (stampFrame env timeout payload length).scrubbed := by
  obtain ⟨id, head, data, tail, cb'⟩ := payload
  obtain rfl : cb' = _ := hpayload
  rw [sequencedFrame_withCb_eq, sequencedFrame]
  cases (recvSequence version params call.skb ptr call.hdrflags).1 <;> rfl

end WithCb

theorem Alike.recvAdmit {flow flow' : Flow n} (halike : Alike flow flow') (call : RecvCall n)
    (cb : L2tpSkbCb) :
    Alike (recvAdmit flow call).1 (recvAdmit flow' (call.withCb cb)).1 ∧
      AlikeFrames (recvAdmit flow call).2 (recvAdmit flow' (call.withCb cb)).2 := by
  obtain ⟨⟨tstats, counters, queue, log, rfl⟩, hqueue, hlog⟩ := halike
  have hversion : (flow.dressed tstats counters queue log).tunnel.version =
      flow.tunnel.version := rfl
  have hparams : (flow.dressed tstats counters queue log).session.toSessionParams =
      flow.session.toSessionParams := rfl
  have hcookie : recvCookie flow.session.toSessionParams (call.withCb cb).skb
      (call.withCb cb).ptr = recvCookie flow.session.toSessionParams call.skb call.ptr := rfl
  unfold L2tp.recvAdmit
  dsimp only
  rw [hversion, hparams, hcookie]
  cases recvCookie flow.session.toSessionParams call.skb call.ptr with
  | none => exact ⟨⟨⟨_, _, _, _, rfl⟩, hqueue, hlog⟩, .error _ _⟩
  | some ptr =>
    dsimp only
    rw [recvSeqPolicy_dressed, hasSeq_sequencedFrame_withCb]
    cases hpolicy : recvSeqPolicy flow.tunnel flow.session (sequencedFrame flow.tunnel.version
        flow.session.toSessionParams call ptr).cb.hasSeq with
    | none => exact ⟨⟨⟨_, _, _, _, rfl⟩, hqueue, hlog⟩, .error _ _⟩
    | some session =>
      have hoffset : payloadOffset flow.tunnel.version flow.session.toSessionParams
          (call.withCb cb) ptr =
          payloadOffset flow.tunnel.version flow.session.toSessionParams call ptr := rfl
      obtain ⟨sendSeq, hdrLen, rfl⟩ := recvSeqPolicy_eq hpolicy
      have hhook : (call.withCb cb).hook = call.hook := rfl
      rw [Option.map_some, hoffset, hhook]
      dsimp only
      rw [recvPayload_sequencedFrame_withCb]
      cases hpayload : recvPayload (sequencedFrame flow.tunnel.version
          flow.session.toSessionParams call ptr) (payloadOffset flow.tunnel.version
            flow.session.toSessionParams call ptr) call.hook with
      | none => exact ⟨⟨⟨_, _, _, _, rfl⟩, hqueue, hlog⟩, .error _ _⟩
      | some payload =>
        refine ⟨⟨⟨_, _, _, _, rfl⟩, hqueue, hlog⟩, .ok ?_⟩
        exact stampFrame_withCb _ _ call cb ptr call.env _ call.length (cb_recvPayload hpayload)

/-! ### Queueing and dequeueing -/

section Steps

variable {flow flow' : Flow n}

theorem Alike.l2tpRecvQueueSkb (halike : Alike flow flow') (env : Env n) {skb : SkBuff}
    (hshielded : shielded skb.cb.ns flow.session.reorderQ = true) :
    Alike (l2tpRecvQueueSkb env flow skb) (l2tpRecvQueueSkb env flow' skb) := by
  obtain ⟨⟨tstats, counters, queue, log, rfl⟩, hqueue, hlog⟩ := halike
  obtain ⟨counters₁, heq₁⟩ := l2tpRecvQueueSkb_eq env flow skb
  obtain ⟨counters₂, heq₂⟩ := l2tpRecvQueueSkb_eq env (flow.dressed tstats counters queue log) skb
  rw [heq₁, heq₂]
  exact ⟨⟨_, _, _, _, rfl⟩, queueByNs_scrubbed hshielded hqueue, hlog⟩

/-- A frame with a number is dealt with alike, if its place in the queue does not depend on
leftovers. -/
theorem Alike.l2tpRecvDataSeq (halike : Alike flow flow') (env : Env n) {skb : SkBuff}
    (hshielded : l2tpSeqCheckRxWindow flow.session skb.cb.ns = true →
      flow.session.reorderTimeout ≠ 0 → shielded skb.cb.ns flow.session.reorderQ = true) :
    (l2tpRecvDataSeq env flow' skb).2 = (l2tpRecvDataSeq env flow skb).2 ∧
      Alike (l2tpRecvDataSeq env flow skb).1 (l2tpRecvDataSeq env flow' skb).1 := by
  have hcopy := halike
  obtain ⟨⟨tstats, counters, queue, log, rfl⟩, hqueue, hlog⟩ := hcopy
  have htracked : Alike (trackOos flow skb.cb.ns)
      (trackOos (flow.dressed tstats counters queue log) skb.cb.ns) :=
    ⟨⟨_, _, _, _, rfl⟩, hqueue, hlog⟩
  have hwindow : l2tpSeqCheckRxWindow (flow.dressed tstats counters queue log).session skb.cb.ns =
      l2tpSeqCheckRxWindow flow.session skb.cb.ns := rfl
  have htimeout : (flow.dressed tstats counters queue log).session.reorderTimeout =
      flow.session.reorderTimeout := rfl
  have hnr : (flow.dressed tstats counters queue log).session.nr = flow.session.nr := rfl
  have hskip : (trackOos (flow.dressed tstats counters queue log) skb.cb.ns).session.reorderSkip =
      (trackOos flow skb.cb.ns).session.reorderSkip := rfl
  unfold L2tp.l2tpRecvDataSeq
  dsimp only
  rw [hwindow, htimeout, hnr, hskip]
  split_ifs with hinside hreorder hinseq hrefused
  · exact ⟨rfl, halike⟩
  · exact ⟨rfl, halike.l2tpRecvQueueSkb env (hshielded (by simpa using hinside) hreorder)⟩
  · exact ⟨rfl, halike.skbQueueTail rfl⟩
  · exact ⟨rfl, ⟨_, _, _, _, rfl⟩, htracked.queue, htracked.log⟩
  · exact ⟨rfl, htracked.skbQueueTail rfl⟩

/-- The walk of `l2tp_recv_queue_skb` would not look at leftovers for the frame of a call, if the
call comes to it. -/
def Shields (flow : Flow n) (call : RecvCall n) : Prop :=
  ∀ skb ∈ admittedFrame flow.tunnel.version flow.session.toSessionParams
      flow.session.reorderTimeout call,
    skb.cb.hasSeq = true → l2tpSeqCheckRxWindow flow.session skb.cb.ns = true →
      flow.session.reorderTimeout ≠ 0 → shielded skb.cb.ns flow.session.reorderQ = true

instance (flow : Flow n) (call : RecvCall n) : Decidable (Shields flow call) :=
  inferInstanceAs (Decidable (∀ skb ∈ admittedFrame flow.tunnel.version
    flow.session.toSessionParams flow.session.reorderTimeout call, _ → _ → _ → _))

/-- Admission changes nothing that the condition speaks of. -/
theorem shields_admitted {call : RecvCall n} {middle : Flow n} {skb : SkBuff}
    (hshields : Shields flow call) (hadmission : recvAdmit flow.ref call = (middle, .ok skb))
    (hseq : skb.cb.hasSeq = true) (hwindow : l2tpSeqCheckRxWindow middle.session skb.cb.ns = true)
    (htimeout : middle.session.reorderTimeout ≠ 0) :
    shielded skb.cb.ns middle.session.reorderQ = true := by
  have hframe := admittedFrame_of_recvAdmit hadmission
  rw [Flow.session_ref, Flow.tunnel_ref] at hframe
  obtain ⟨change, frame, -, -, heq⟩ | ⟨sendSeq, hdrLen, frame, -, heq | heq⟩ :=
    recvAdmit_cases flow.ref call
  · rw [heq] at hadmission
    exact absurd (Prod.mk.inj hadmission).2 (by simp)
  · rw [heq] at hadmission
    exact absurd (Prod.mk.inj hadmission).2 (by simp)
  · rw [heq] at hadmission
    obtain ⟨rfl, -⟩ := Prod.mk.inj hadmission
    rw [Flow.session_onSession, Flow.session_ref] at hwindow htimeout ⊢
    exact hshields skb hframe hseq hwindow htimeout

theorem Alike.recvEnqueue (halike : Alike flow flow') (call : RecvCall n) (cb : L2tpSkbCb)
    (hshields : Shields flow call) :
    (recvEnqueue flow' (call.withCb cb)).2 = (recvEnqueue flow call).2 ∧
      Alike (recvEnqueue flow call).1 (recvEnqueue flow' (call.withCb cb)).1 := by
  obtain ⟨hflows, hframes⟩ := halike.ref.recvAdmit call cb
  unfold L2tp.recvEnqueue
  generalize L2tp.recvAdmit flow'.ref (call.withCb cb) = admission' at hflows hframes
  obtain ⟨middle', result'⟩ := admission'
  cases hadmission : L2tp.recvAdmit flow.ref call with
  | mk middle result =>
    rw [hadmission] at hflows hframes
    dsimp only at hflows hframes ⊢
    cases hframes with
    | error skb skb' => exact ⟨rfl, hflows.recvDiscard call.env skb skb'⟩
    | @ok skb skb' hsame =>
      dsimp only
      rw [hasSeq_of_scrubbed_eq hsame]
      split_ifs with hseq
      · obtain rfl := eq_of_scrubbed_eq hsame hseq
        have hshielded := shields_admitted hshields hadmission hseq
        obtain ⟨hrefused, hqueued⟩ := hflows.l2tpRecvDataSeq call.env hshielded
        have henv : (call.withCb cb).env = call.env := rfl
        rw [henv]
        generalize L2tp.l2tpRecvDataSeq call.env middle' skb' = queued' at hrefused hqueued
        generalize L2tp.l2tpRecvDataSeq call.env middle skb' = queued at hrefused hqueued
        obtain ⟨last', refused'⟩ := queued'
        obtain ⟨last, refused⟩ := queued
        obtain rfl : refused' = refused := hrefused
        cases refused' with
        | true => exact ⟨rfl, hqueued.recvDiscard call.env skb' skb'⟩
        | false => exact ⟨rfl, hqueued⟩
      · exact ⟨rfl, hflows.skbQueueTail hsame⟩

/-- Whether the receive handler gets a frame depends on the handler alone. -/
theorem scrubbed_handOverEffect (hooks : SessionHooks) {skb skb' : SkBuff}
    (hsame : skb'.scrubbed = skb.scrubbed) :
    (delivered [handOverEffect hooks skb']).map SkBuff.scrubbed =
      (delivered [handOverEffect hooks skb]).map SkBuff.scrubbed := by
  unfold handOverEffect
  split_ifs
  · exact congrArg ([·]) hsame
  · rfl

/-- A frame at the head of the queue is delivered alike. -/
theorem Alike.afterDelivery (halike : Alike flow flow') {skb skb' : SkBuff}
    {rest rest' : List SkBuff} (hskb : skb'.scrubbed = skb.scrubbed)
    (hrest : rest'.map SkBuff.scrubbed = rest.map SkBuff.scrubbed)
    (tstats tstats' : Fin n → L2tpStats) (counters counters' : SessionCounters n) :
    Alike ((afterDelivery flow skb rest).withStats tstats counters)
      ((afterDelivery flow' skb' rest').withStats tstats' counters') := by
  obtain ⟨⟨tstats₀, counters₀, queue, log, rfl⟩, hqueue, hlog⟩ := halike
  have hnr : nrDelivered (flow.dressed tstats₀ counters₀ queue log).session skb' =
      nrDelivered flow.session skb := by
    by_cases hseq : skb.cb.hasSeq = true
    · obtain rfl := eq_of_scrubbed_eq hskb hseq
      rfl
    · have hseq' : ¬ skb'.cb.hasSeq = true := by rwa [hasSeq_of_scrubbed_eq hskb]
      rw [nrDelivered, if_neg hseq', nrDelivered, if_neg hseq]
      rfl
  refine ⟨?_, hrest, ?_⟩
  · rw [afterDelivery_eq, afterDelivery_eq, hnr, hasSeq_of_scrubbed_eq hskb]
    exact ⟨_, _, _, _, rfl⟩
  · rw [Flow.log_withStats, Flow.log_withStats, delivered_afterDelivery, delivered_afterDelivery,
      List.map_append, List.map_append, hlog]
    exact congrArg _ (scrubbed_handOverEffect _ hskb)

theorem Alike.afterExpiry (halike : Alike flow flow') (skb skb' : SkBuff)
    {rest rest' : List SkBuff} (hrest : rest'.map SkBuff.scrubbed = rest.map SkBuff.scrubbed)
    (tstats tstats' : Fin n → L2tpStats) (counters counters' : SessionCounters n) :
    Alike ((afterExpiry flow skb rest).withStats tstats counters)
      ((afterExpiry flow' skb' rest').withStats tstats' counters') := by
  obtain ⟨⟨tstats₀, counters₀, queue, log, rfl⟩, hqueue, hlog⟩ := halike
  refine ⟨⟨_, _, _, _, rfl⟩, hrest, ?_⟩
  simpa only [L2tp.afterExpiry, Flow.log_withStats, delivered_append, delivered,
    delivered_derefEffects, List.append_nil] using hlog

/-- The queues of two sessions that are alike are both empty, or have heads that are alike. -/
theorem Alike.heads (halike : Alike flow flow') :
    (flow.session.reorderQ = [] ∧ flow'.session.reorderQ = []) ∨
      ∃ skb rest skb' rest', flow.session.reorderQ = skb :: rest ∧
        flow'.session.reorderQ = skb' :: rest' ∧ skb'.scrubbed = skb.scrubbed ∧
        rest'.map SkBuff.scrubbed = rest.map SkBuff.scrubbed := by
  have hqueue := halike.queue
  cases hfirst : flow.session.reorderQ with
  | nil =>
    rw [hfirst] at hqueue
    exact Or.inl ⟨rfl, List.map_eq_nil_iff.mp hqueue⟩
  | cons skb rest =>
    rw [hfirst] at hqueue
    obtain ⟨skb', rest', hsecond, hskb, hrest⟩ := List.map_eq_cons_iff.mp hqueue
    exact Or.inr ⟨skb, rest, skb', rest', rfl, hsecond, hskb, hrest⟩

/-- Nr asks for the heads of both queues, or for neither. -/
theorem Alike.asked (halike : Alike flow flow') {skb skb' : SkBuff}
    (hskb : skb'.scrubbed = skb.scrubbed) (hseq : skb.cb.hasSeq = true) :
    skb'.cb.ns = nrAtHead flow'.session skb' ↔ skb.cb.ns = nrAtHead flow.session skb := by
  obtain ⟨⟨tstats, counters, queue, log, rfl⟩, -, -⟩ := halike
  obtain rfl := eq_of_scrubbed_eq hskb hseq
  exact Iff.rfl

/-- The turns of the two dequeue loops keep in step. -/
theorem Alike.dequeueStep (halike : Alike flow flow') (env : Env n) :
    (dequeueStep env flow = none ∧ dequeueStep env flow' = none) ∨
      ∃ next next', dequeueStep env flow = some next ∧ dequeueStep env flow' = some next' ∧
        Alike next next' := by
  rcases halike.heads with ⟨hempty, hempty'⟩ | ⟨skb, rest, skb', rest', hq, hq', hskb, hrest⟩
  · exact Or.inl ⟨dequeueStep_nil hempty, dequeueStep_nil hempty'⟩
  · have hexpires := expires_of_scrubbed_eq hskb
    have hhasSeq := hasSeq_of_scrubbed_eq hskb
    rcases dequeueStep_cons env hq with ⟨hexpired, tstats, counters, hstep⟩ | ⟨hfresh, hcases⟩
    · obtain ⟨-, tstats', counters', hstep'⟩ | ⟨hfresh', -⟩ := dequeueStep_cons env hq'
      · exact Or.inr ⟨_, _, hstep, hstep', halike.afterExpiry skb skb' hrest _ _ _ _⟩
      · rw [hexpires, hexpired] at hfresh'
        exact absurd hfresh'.symm Bool.false_ne_true
    · obtain ⟨hexpired', -⟩ | ⟨-, hcases'⟩ := dequeueStep_cons env hq'
      · rw [hexpires, hfresh] at hexpired'
        exact absurd hexpired' Bool.false_ne_true
      · rcases hcases with ⟨hseq, hne, hstep⟩ | ⟨hasked, tstats, counters, hstep⟩
        · obtain ⟨-, -, hstep'⟩ | ⟨hasked', -⟩ := hcases'
          · exact Or.inl ⟨hstep, hstep'⟩
          · exact absurd ((halike.asked hskb hseq).mp (hasked' (hhasSeq.trans hseq))) hne
        · obtain ⟨hseq', hne', -⟩ | ⟨-, tstats', counters', hstep'⟩ := hcases'
          · rw [hhasSeq] at hseq'
            exact absurd ((halike.asked hskb hseq').mpr (hasked hseq')) hne'
          · exact Or.inr ⟨_, _, hstep, hstep', halike.afterDelivery hskb hrest _ _ _ _⟩

/-- A received frame leaves two sessions alike, whatever its control block held. -/
theorem Alike.l2tpRecvCommon (halike : Alike flow flow') {call : RecvCall n}
    (hshields : Shields flow call) (cb : L2tpSkbCb) :
    Alike (l2tpRecvCommon flow call) (l2tpRecvCommon flow' (call.withCb cb)) := by
  obtain ⟨hqueued, henqueued⟩ := halike.recvEnqueue call cb hshields
  unfold L2tp.l2tpRecvCommon
  generalize L2tp.recvEnqueue flow' (call.withCb cb) = result' at hqueued henqueued
  generalize L2tp.recvEnqueue flow call = result at hqueued henqueued
  obtain ⟨middle', queued'⟩ := result'
  obtain ⟨middle, queued⟩ := result
  obtain rfl : queued' = queued := hqueued
  cases queued' with
  | false => exact henqueued
  | true =>
    dsimp only at henqueued ⊢
    unfold l2tpRecvDequeue
    rw [henqueued.length_eq]
    exact drain_rel (fun _ _ hturn ↦ hturn.dequeueStep call.env) _ henqueued

theorem Alike.l2tpSessionQueuePurge (halike : Alike flow flow') (env : Env n) :
    Alike (l2tpSessionQueuePurge env flow) (l2tpSessionQueuePurge env flow') := by
  unfold L2tp.l2tpSessionQueuePurge
  rw [halike.length_eq]
  refine drain_rel (fun turn turn' hturn ↦ ?_) _ halike
  rcases hturn.heads with ⟨hempty, hempty'⟩ | ⟨skb, rest, skb', rest', hq, hq', -, hrest⟩
  · exact Or.inl ⟨by simp [purgeStep, hempty], by simp [purgeStep, hempty']⟩
  · have hunlinked : Alike (turn.onSession fun session ↦ { session with reorderQ := rest })
        (turn'.onSession fun session ↦ { session with reorderQ := rest' }) := by
      obtain ⟨⟨tstats, counters, queue, log, rfl⟩, -, hlog⟩ := hturn
      exact ⟨⟨_, _, _, _, rfl⟩, hrest, hlog⟩
    refine Or.inr ⟨_, _, ?_, ?_, hunlinked.recvDiscard env skb skb'⟩
    · simp [purgeStep, hq]
    · simp [purgeStep, hq']

end Steps

/-! ### Runs -/

/-- The events are the same but for the control block of the frame that arrives. -/
inductive SameButCb : RxEvent n → RxEvent n → Prop
  | recvCommon (call : RecvCall n) (cb : L2tpSkbCb) :
      SameButCb (.recvCommon call) (.recvCommon (call.withCb cb))
  | queuePurge (env : Env n) : SameButCb (.queuePurge env) (.queuePurge env)
  | setReorderTimeout (timeout : Int32) :
      SameButCb (.setReorderTimeout timeout) (.setReorderTimeout timeout)

/-- The condition on an event: a frame that is to be queued by its number comes to a queue in which
every frame without a number stands behind one with a larger number. -/
def ShieldsEvent (flow : Flow n) : RxEvent n → Prop
  | .recvCommon call => Shields flow call
  | _ => True

instance (flow : Flow n) (event : RxEvent n) : Decidable (ShieldsEvent flow event) :=
  match event with
  | .recvCommon call => inferInstanceAs (Decidable (Shields flow call))
  | .queuePurge _ => inferInstanceAs (Decidable True)
  | .setReorderTimeout _ => inferInstanceAs (Decidable True)

theorem Alike.rxStep {flow flow' : Flow n} (halike : Alike flow flow') {event event' : RxEvent n}
    (hsame : SameButCb event event') (hshields : ShieldsEvent flow event) :
    Alike (rxStep flow event) (rxStep flow' event') := by
  cases hsame with
  | recvCommon call cb => exact halike.l2tpRecvCommon hshields cb
  | queuePurge env => exact halike.l2tpSessionQueuePurge env
  | setReorderTimeout timeout =>
    obtain ⟨⟨tstats, counters, queue, log, rfl⟩, hqueue, hlog⟩ := halike
    exact ⟨⟨_, _, _, _, rfl⟩, hqueue, hlog⟩

/-- The frames handed to the receive handler, and their order, do not depend on what was left in
control blocks. Assumes: two runs of a session that differ in control blocks only, and along the
first of them every frame that is queued by its number comes to a queue in which the frames without
a number stand behind one with a larger number. -/
theorem delivery_ignores_leftovers {flow : Flow n} {events events' : List (RxEvent n)}
    (hsame : List.Forall₂ SameButCb events events')
    (hshields : Along rxStep ShieldsEvent flow events) :
    (delivered (rxRun flow events').log).map SkBuff.scrubbed =
      (delivered (rxRun flow events).log).map SkBuff.scrubbed :=
  (hshields.rel (fun _ _ _ _ halike hevent hshields ↦ halike.rxStep hevent hshields) hsame
    (Alike.refl flow)).log

/-! ### A frame without a number behind one that is held -/

/-- A frame for session 1 over IP without a sequence number, and a number left in its control
block. -/
def plainCall (id : ℕ) (leftover : UInt32) : RecvCall 1 :=
  { sequencedCall cpu0 0 id 0 with
    skb := { sequencedSkb id 0 with data := be32 1 ++ List.replicate 18 0, cb.ns := leftover } }

/-- Frame 0 is delivered, frame 2 has to wait for frame 1, and a frame without a number waits behind
it. -/
def heldRun (leftover : UInt32) : List (RxEvent 1) :=
  [.recvCommon (sequencedCall cpu0 0 0 0), .recvCommon (sequencedCall cpu0 0 1 2),
    .recvCommon (plainCall 2 leftover)]

theorem SameButCb.refl (event : RxEvent n) : SameButCb event event := by
  cases event with
  | recvCommon call => exact .recvCommon call call.skb.cb
  | queuePurge env => exact .queuePurge env
  | setReorderTimeout timeout => exact .setReorderTimeout timeout

theorem sameButCb_heldRun (leftover leftover' : UInt32) (events : List (RxEvent 1)) :
    List.Forall₂ SameButCb (heldRun leftover ++ events) (heldRun leftover' ++ events) :=
  .cons (.refl _) (.cons (.refl _) (.cons (.recvCommon (plainCall 2 leftover) _)
    (List.forall₂_same.mpr fun event _ ↦ .refl event)))

theorem delivery_ignores_leftovers_heldRun :
    (delivered (rxRun (reorderingFlow 1 100)
        (heldRun 9 ++ [.recvCommon (sequencedCall cpu0 0 3 1)])).log).map SkBuff.scrubbed =
      (delivered (rxRun (reorderingFlow 1 100)
        (heldRun 0 ++ [.recvCommon (sequencedCall cpu0 0 3 1)])).log).map SkBuff.scrubbed :=
  delivery_ignores_leftovers (sameButCb_heldRun 0 9 _) (by decide)

/-- The frame without a number is delivered before or behind frame 3. -/
theorem delivery_depends_on_leftover :
    List.Forall₂ SameButCb
        (heldRun 0 ++ [.recvCommon (sequencedCall cpu0 0 3 3),
          .recvCommon (sequencedCall cpu0 0 4 1)])
        (heldRun 9 ++ [.recvCommon (sequencedCall cpu0 0 3 3),
          .recvCommon (sequencedCall cpu0 0 4 1)]) ∧
      (delivered (rxRun (reorderingFlow 1 100)
        (heldRun 0 ++ [.recvCommon (sequencedCall cpu0 0 3 3),
          .recvCommon (sequencedCall cpu0 0 4 1)])).log).map SkBuff.id = [0, 4, 1, 2, 3] ∧
      (delivered (rxRun (reorderingFlow 1 100)
        (heldRun 9 ++ [.recvCommon (sequencedCall cpu0 0 3 3),
          .recvCommon (sequencedCall cpu0 0 4 1)])).log).map SkBuff.id = [0, 4, 1, 3, 2] :=
  ⟨sameButCb_heldRun 0 9 _, by decide, by decide⟩

end KernelModules.L2tp
