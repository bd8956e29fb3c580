import KernelModules.Foundations.ReorderBuffer
import KernelModules.L2tp.Conservation
import KernelModules.L2tp.SequenceNumbers

/-!
# Reordering across the wrap of the sequence number

A session with a reorder timeout keeps early frames in a queue ordered by `ns`, compared as plain
numbers, while Nr and the window count modulo the size of the sequence space. Where the numbers that
arrive do not wrap, the session is a reorder buffer of their offsets from Nr (`InStep`): a call of
`l2tp_recv_common` is an offer, a turn of the dequeue loop is a release, and so every order of
arrival is put right.

Across the wrap the two orders disagree. A frame past the wrap has a small number and is queued in
front of everything before the wrap, where Nr does not ask for it; the queue is then blocked
(`Blocked`), and stays so whatever arrives, until the frame expires. The frames of one window are
therefore delivered in order exactly when none past the wrap arrives before one in front of it
(`deliversInOrder_iff`).
-/

set_option autoImplicit false
set_option relaxedAutoImplicit false

namespace KernelModules.L2tp

open Foundations

variable {n : ℕ}

/-! ### A session and the frames that arrive -/

/-- A session that reorders, waits for some number and holds nothing back, and calls that hand it
the frames with the `count` numbers from there on, each acceptable to it. `frame offset` is the
frame that `call offset` leaves after admission. -/
structure Arrivals (flow : Flow n) (call : ℕ → RecvCall n) (frame : ℕ → SkBuff) (count : ℕ) :
    Prop where
  space : flow.session.toSessionParams.SeqSpace
  nr_lt : flow.session.nr.toNat < flow.session.seqCount
  reordering : flow.session.reorderTimeout ≠ 0
  skip : flow.session.reorderSkip = false
  queue : flow.session.reorderQ = []
  handler : flow.session.recvSkb.isSome
  window : count ≤ flow.session.nrWindowSize.toNat
  admitted : ∀ offset < count, admittedFrame flow.tunnel.version flow.session.toSessionParams
    flow.session.reorderTimeout (call offset) = some (frame offset)
  hasSeq : ∀ offset < count, (frame offset).cb.hasSeq = true
  ns : ∀ offset < count,
    (frame offset).cb.ns.toNat = (flow.session.nr.toNat + offset) % flow.session.seqCount

/-- No frame is older than its timeout when it, or a later one, arrives. -/
structure Timely (call : ℕ → RecvCall n) (frame : ℕ → SkBuff) (order : List ℕ) : Prop where
  self : ∀ offset ∈ order,
    timeAfter (call offset).env.jiffies (frame offset).cb.expires = false
  later : order.Pairwise fun earlier later ↦
    timeAfter (call later).env.jiffies (frame earlier).cb.expires = false

/-- When a frame arrives, neither it nor an earlier one is too old. -/
theorem Timely.fresh {call : ℕ → RecvCall n} {frame : ℕ → SkBuff} {arrived order : List ℕ}
    {offset hi : ℕ} (htimely : Timely call frame ((arrived ++ [offset]) ++ order))
    (hrange : ∀ earlier ∈ (arrived ++ [offset]) ++ order, earlier < hi) :
    ∀ earlier ∈ arrived ++ [offset], earlier < hi ∧
      timeAfter (call offset).env.jiffies (frame earlier).cb.expires = false := by
  intro earlier hearlier
  refine ⟨hrange earlier (List.mem_append_left _ hearlier), ?_⟩
  rcases List.mem_append.mp hearlier with hmem | hmem
  · have hlater := (List.pairwise_append.mp (List.pairwise_append.mp htimely.later).1).2.2
    exact hlater earlier hmem offset (List.mem_singleton_self _)
  · rw [List.mem_singleton.mp hmem]
    exact htimely.self offset (by simp)

theorem Timely.append_left {call : ℕ → RecvCall n} {frame : ℕ → SkBuff} {order order' : List ℕ}
    (htimely : Timely call frame (order ++ order')) : Timely call frame order :=
  ⟨fun offset hoffset ↦ htimely.self offset (List.mem_append_left _ hoffset),
    (List.pairwise_append.mp htimely.later).1⟩

theorem Timely.append_right {call : ℕ → RecvCall n} {frame : ℕ → SkBuff} {order order' : List ℕ}
    (htimely : Timely call frame (order ++ order')) : Timely call frame order' :=
  ⟨fun offset hoffset ↦ htimely.self offset (List.mem_append_right _ hoffset),
    (List.pairwise_append.mp htimely.later).2.1⟩

/-- Hand the frames to `l2tp_recv_common` in the given order. -/
def recvAll (flow : Flow n) (call : ℕ → RecvCall n) (order : List ℕ) : Flow n :=
  order.foldl (fun flow offset ↦ l2tpRecvCommon flow (call offset)) flow

/-! ### Where the numbers do not wrap, the session is a reorder buffer -/

/-- The session in step with a reorder buffer of offsets, after the frames `sent` have been
delivered. -/
structure InStep (first : Flow n) (frame : ℕ → SkBuff) (sent : List SkBuff) (flow : Flow n)
    (buffer : ReorderBuffer) : Prop extends SameSetup first flow where
  skip : flow.session.reorderSkip = false
  nr : flow.session.nr.toNat =
    (first.session.nr.toNat + buffer.next) % first.session.seqCount
  queue : flow.session.reorderQ = buffer.waiting.map frame
  log : delivered flow.log = sent ++ buffer.released.map frame

section NoWrap

variable {first flow : Flow n} {call : ℕ → RecvCall n} {frame : ℕ → SkBuff} {count : ℕ}
  {sent : List SkBuff} {buffer : ReorderBuffer} {arrived : List ℕ} {lo hi wrapped : ℕ}

/-- The offsets from `lo` to `hi` have numbers that do not wrap among themselves: `wrapped` is the
same multiple of the size of the space for all of them. -/
def Flat (first : Flow n) (lo hi wrapped : ℕ) : Prop :=
  ∀ offset, lo ≤ offset → offset < hi →
    (first.session.nr.toNat + offset) % first.session.seqCount + wrapped =
      first.session.nr.toNat + offset

/-- The delivery of the frame that is next. -/
theorem InStep.deliver (harrivals : Arrivals first call frame count)
    (hinstep : InStep first frame sent flow buffer) {rest : List ℕ} (hcount : buffer.next < count)
    (tstats : Fin n → L2tpStats) (counters : SessionCounters n) :
    InStep first frame sent
      ((afterDelivery flow (frame buffer.next) (rest.map frame)).withStats tstats counters)
      ⟨buffer.next + 1, rest, buffer.released ++ [buffer.next]⟩ := by
  have hseq := harrivals.hasSeq buffer.next hcount
  have hhandler : flow.session.recvSkb.isSome := by
    rw [hinstep.hooks]
    exact harrivals.handler
  rw [afterDelivery_eq]
  refine ⟨⟨hinstep.version, hinstep.params, hinstep.hooks, hinstep.timeout⟩, ?_, ?_, rfl, ?_⟩
  · simp [hseq]
  · have hspace : flow.session.toSessionParams.SeqSpace := by
      rw [hinstep.params]
      exact harrivals.space
    have hcounts : flow.session.seqCount = first.session.seqCount := by rw [hinstep.params]
    have hstep := hspace.toNat_succ_and_nrMax flow.session.nr
    simp only [Flow.session_withStats, nrDelivered, nrAtHead, hseq, hinstep.skip, Bool.and_false,
      if_true, if_neg Bool.false_ne_true]
    rw [hstep, hinstep.nr, hcounts, Nat.mod_add_mod, Nat.add_assoc]
  · simp [hseq, hinstep.log, handOverEffect, hhandler]

/-- A turn of the dequeue loop is a release of the buffer. -/
theorem InStep.dequeue (harrivals : Arrivals first call frame count)
    (hflat : Flat first lo hi wrapped) (hhi : hi ≤ count) {env : Env n}
    (hfresh : ∀ offset ∈ arrived, offset < hi ∧
      timeAfter env.jiffies (frame offset).cb.expires = false)
    (hinstep : InStep first frame sent flow buffer) (hholds : buffer.Holds lo arrived) :
    (dequeueStep env flow = none ∧ buffer.release = none) ∨
      ∃ flow' buffer', dequeueStep env flow = some flow' ∧ buffer.release = some buffer' ∧
        InStep first frame sent flow' buffer' := by
  cases hwaiting : buffer.waiting with
  | nil =>
    refine Or.inl ⟨dequeueStep_nil ?_, by simp [ReorderBuffer.release, hwaiting]⟩
    rw [hinstep.queue, hwaiting, List.map_nil]
  | cons offset rest =>
    have hqueue : flow.session.reorderQ = frame offset :: rest.map frame := by
      rw [hinstep.queue, hwaiting, List.map_cons]
    have hmem : offset ∈ buffer.waiting := by rw [hwaiting]; exact List.mem_cons_self
    obtain ⟨hlt, htime⟩ := hfresh offset (hholds.perm.mem_iff.mp (List.mem_append_right _ hmem))
    have hnext := hholds.next_le offset hmem
    have hseq := harrivals.hasSeq offset (hlt.trans_le hhi)
    have hns := harrivals.ns offset (hlt.trans_le hhi)
    have hflatHead := hflat offset (hholds.start_le.trans hnext) hlt
    have hflatNext := hflat buffer.next hholds.start_le (hnext.trans_lt hlt)
    have hasked : (frame offset).cb.ns = flow.session.nr ↔ offset = buffer.next := by
      rw [← UInt32.toNat_inj, hns, hinstep.nr]
      omega
    by_cases hhead : offset = buffer.next
    · cases hstep : dequeueStep env flow with
      | none =>
        rcases dequeueStep_eq_none hstep with hnil | ⟨skb, rest', hqueue', -, -, hne⟩
        · rw [hnil] at hqueue
          exact absurd hqueue (List.cons_ne_nil _ _).symm
        · obtain ⟨rfl, -⟩ := List.cons.inj (hqueue.symm.trans hqueue')
          exact absurd (hasked.mpr hhead) hne
      | some flow' =>
        obtain ⟨skb, rest', tstats, counters, hqueue', hcases⟩ := dequeueStep_cases hstep
        obtain ⟨rfl, rfl⟩ := List.cons.inj (hqueue.symm.trans hqueue')
        rcases hcases with ⟨hexpired, -⟩ | ⟨-, -, rfl⟩
        · rw [htime] at hexpired
          exact absurd hexpired Bool.false_ne_true
        · refine Or.inr ⟨_, ⟨buffer.next + 1, rest, buffer.released ++ [buffer.next]⟩, rfl, ?_, ?_⟩
          · simp [ReorderBuffer.release, hwaiting, hhead]
          · rw [hhead]
            exact hinstep.deliver harrivals (hhead ▸ hlt.trans_le hhi) tstats counters
    · refine Or.inl ⟨dequeueStep_of_hold hqueue htime hseq hinstep.skip ?_, ?_⟩
      · exact fun heq ↦ hhead (hasked.mp heq)
      · simp [ReorderBuffer.release, hwaiting, hhead]

/-- A frame is queued among frames whose numbers do not wrap as its offset is inserted among
theirs. -/
theorem queueByNs_map {offset : ℕ} {waiting : List ℕ}
    (hns : ∀ other ∈ waiting, (frame other).cb.ns > (frame offset).cb.ns ↔ offset ≤ other) :
    (queueByNs (frame offset) (waiting.map frame)).1 =
      (waiting.orderedInsert (· ≤ ·) offset).map frame := by
  induction waiting with
  | nil => rfl
  | cons other waiting ih =>
    have hrest := ih fun x hx ↦ hns x (List.mem_cons_of_mem other hx)
    by_cases hle : offset ≤ other
    · have hlarger := (hns other List.mem_cons_self).mpr hle
      simp [queueByNs, hlarger, hle]
    · have hsmaller := mt (hns other List.mem_cons_self).mp hle
      simp [queueByNs, hsmaller, hle, hrest]

/-- A frame that has not arrived yet is inside the window. -/
theorem InStep.inWindow (harrivals : Arrivals first call frame count)
    (hflat : Flat first lo hi wrapped) (hhi : hi ≤ count) {offset : ℕ} (hlo : lo ≤ offset)
    (hlt : offset < hi) (hnew : offset ∉ arrived) (hinstep : InStep first frame sent flow buffer)
    (hholds : buffer.Holds lo arrived) :
    l2tpSeqCheckRxWindow flow.session (frame offset).cb.ns = true := by
  have hns := harrivals.ns offset (hlt.trans_le hhi)
  have hnext := hholds.next_le_of_notMem hlo hnew
  have hflatOffset := hflat offset hlo hlt
  have hflatNext := hflat buffer.next hholds.start_le (hnext.trans_lt hlt)
  have hcounts : flow.session.seqCount = first.session.seqCount := by rw [hinstep.params]
  have hspace : flow.session.toSessionParams.SeqSpace := by
    rw [hinstep.params]
    exact harrivals.space
  have hnr : flow.session.nr.toNat < flow.session.seqCount := by
    rw [hinstep.nr, hcounts]
    exact Nat.mod_lt _ (Nat.succ_pos _)
  have hnslt : (frame offset).cb.ns.toNat < flow.session.seqCount := by
    rw [hns, hcounts]
    exact Nat.mod_lt _ (Nat.succ_pos _)
  have hle : flow.session.nr.toNat ≤ (frame offset).cb.ns.toNat := by
    rw [hinstep.nr, hns]
    omega
  have hwidth := harrivals.window
  rw [l2tpSeqCheckRxWindow_iff hspace hnr hnslt, ahead_of_le hle hnslt, hinstep.params, hinstep.nr,
    hns]
  omega

/-- A frame that arrives is put into the queue as its offset is put into the buffer. -/
theorem InStep.enqueue (harrivals : Arrivals first call frame count)
    (hflat : Flat first lo hi wrapped) (hhi : hi ≤ count) {offset : ℕ} (hlo : lo ≤ offset)
    (hlt : offset < hi) (hnew : offset ∉ arrived) (harrived : ∀ earlier ∈ arrived, earlier < hi)
    (hinstep : InStep first frame sent flow buffer) (hholds : buffer.Holds lo arrived) :
    ∃ middle, recvEnqueue flow (call offset) = (middle, true) ∧
      InStep first frame sent middle (buffer.insert offset) := by
  have hcount := hlt.trans_le hhi
  have hwindow := hinstep.inWindow harrivals hflat hhi hlo hlt hnew hholds
  have hadmitted := harrivals.admitted offset hcount
  rw [← hinstep.version, ← hinstep.params, ← hinstep.timeout] at hadmitted
  obtain ⟨sendSeq, hdrLen, counters, henqueue⟩ := recvEnqueue_inWindow hadmitted
    (harrivals.hasSeq offset hcount) (by rw [hinstep.timeout]; exact harrivals.reordering) hwindow
  refine ⟨_, henqueue, ⟨⟨hinstep.version, hinstep.params, hinstep.hooks, hinstep.timeout⟩,
    hinstep.skip, hinstep.nr, ?_, ?_⟩⟩
  · rw [Flow.session_withStats, hinstep.queue]
    refine queueByNs_map fun other hother ↦ ?_
    have hmem := hholds.perm.mem_iff.mp (List.mem_append_right _ hother)
    have hother' := harrived other hmem
    have hne : offset ≠ other := fun heq ↦ hnew (heq ▸ hmem)
    have hflatOffset := hflat offset hlo hlt
    have hflatOther := hflat other (hholds.start_le.trans (hholds.next_le other hother)) hother'
    rw [gt_iff_lt, UInt32.lt_iff_toNat_lt, harrivals.ns offset hcount,
      harrivals.ns other (hother'.trans_le hhi)]
    omega
  · simp [hinstep.log, ReorderBuffer.insert]

/-- A frame that arrives is offered to the buffer. -/
theorem InStep.recvCommon (harrivals : Arrivals first call frame count)
    (hflat : Flat first lo hi wrapped) (hhi : hi ≤ count) {offset : ℕ} (hlo : lo ≤ offset)
    (hnodup : arrived.Nodup) (hnew : offset ∉ arrived)
    (hfresh : ∀ earlier ∈ arrived ++ [offset], earlier < hi ∧
      timeAfter (call offset).env.jiffies (frame earlier).cb.expires = false)
    (hinstep : InStep first frame sent flow buffer) (hholds : buffer.Holds lo arrived) :
    InStep first frame sent (l2tpRecvCommon flow (call offset)) (buffer.offer offset) := by
  have hlt := (hfresh offset (List.mem_append_right _ (List.mem_singleton_self _))).1
  obtain ⟨middle, henqueue, hmiddle⟩ := hinstep.enqueue harrivals hflat hhi hlo hlt hnew
    (fun earlier hearlier ↦ (hfresh earlier (List.mem_append_left _ hearlier)).1) hholds
  have hnodup' : (arrived ++ [offset]).Nodup := List.nodup_append'.mpr
    ⟨hnodup, List.nodup_singleton _, by simpa using hnew⟩
  have hlength : middle.session.reorderQ.length = (buffer.insert offset).waiting.length := by
    rw [hmiddle.queue, List.length_map]
  simp only [l2tpRecvCommon, henqueue, l2tpRecvDequeue, ReorderBuffer.offer, hlength]
  refine (drain_rel (R := fun flow buffer ↦ InStep first frame sent flow buffer ∧
    buffer.Holds lo (arrived ++ [offset])) ?_ _ ⟨hmiddle, hholds.insert hlo hnew⟩).1
  rintro flow buffer ⟨hinstep, hholds⟩
  rcases hinstep.dequeue harrivals hflat hhi hfresh hholds with
    hstop | ⟨flow', buffer', hstep, hrelease, hnext⟩
  · exact Or.inl hstop
  · exact Or.inr ⟨flow', buffer', hstep, hrelease, hnext, hholds.release hnodup' hrelease⟩

/-- Frames whose numbers do not wrap are offered to the buffer one after the other. -/
theorem InStep.recvAll (harrivals : Arrivals first call frame count)
    (hflat : Flat first lo hi wrapped) (hhi : hi ≤ count) {order : List ℕ}
    (hrange : ∀ offset ∈ arrived ++ order, lo ≤ offset ∧ offset < hi)
    (hnodup : (arrived ++ order).Nodup) (htimely : Timely call frame (arrived ++ order))
    (hinstep : InStep first frame sent flow buffer) (hsettled : buffer.Settled lo arrived) :
    InStep first frame sent (recvAll flow call order)
      (order.foldl ReorderBuffer.offer buffer) := by
  induction order generalizing arrived flow buffer with
  | nil => exact hinstep
  | cons offset order ih =>
    have hsplit : arrived ++ offset :: order = (arrived ++ [offset]) ++ order := by simp
    rw [hsplit] at hnodup hrange htimely
    have harrived := List.nodup_append'.mp (List.nodup_append'.mp hnodup).1
    have hnew : offset ∉ arrived := fun hmem ↦ harrived.2.2 hmem (List.mem_singleton_self _)
    have hoffset := hrange offset (by simp)
    have hfresh := htimely.fresh fun earlier hearlier ↦ (hrange earlier hearlier).2
    refine ih hrange hnodup htimely ?_ ?_
    · exact hinstep.recvCommon harrivals hflat hhi hoffset.1 harrived.1 hnew hfresh
        hsettled.toHolds
    · exact hsettled.toHolds.offer hoffset.1 harrived.1 hnew

/-- All frames of an interval whose numbers do not wrap, in any order. -/
theorem InStep.recvAll_perm (harrivals : Arrivals first call frame count)
    (hflat : Flat first lo hi wrapped) (hhi : hi ≤ count) (hlo : lo ≤ hi) {order : List ℕ}
    (hperm : order.Perm (List.range' lo (hi - lo))) (htimely : Timely call frame order)
    (hinstep : InStep first frame sent flow (ReorderBuffer.start lo)) :
    InStep first frame sent (L2tp.recvAll flow call order)
      ⟨hi, [], List.range' lo (hi - lo)⟩ := by
  have hrange : ∀ offset ∈ [] ++ order, lo ≤ offset ∧ offset < hi := by
    intro offset hin
    have hbounds := List.mem_range'_1.mp (hperm.mem_iff.mp hin)
    omega
  have hnodup : ([] ++ order).Nodup := hperm.nodup_iff.mpr List.nodup_range'
  have hend := hinstep.recvAll harrivals hflat hhi hrange hnodup htimely
    (ReorderBuffer.settled_start lo)
  rwa [ReorderBuffer.offers_perm hperm, Nat.add_sub_cancel' hlo] at hend

end NoWrap

/-! ### A frame past the wrap that comes too early blocks the queue -/

section Blocked

variable {first flow : Flow n} {call : ℕ → RecvCall n} {frame : ℕ → SkBuff} {count : ℕ}
  {arrived : List ℕ}

/-- The front of the queue is a frame past the wrap while Nr is still before it: the plain
comparison of numbers has put it there, and nothing that arrives can be queued in front of it but
another such frame. -/
structure Blocked (first : Flow n) (frame : ℕ → SkBuff) (arrived : List ℕ) (flow : Flow n) : Prop
    extends SameSetup first flow where
  skip : flow.session.reorderSkip = false
  nr : first.session.nr.toNat ≤ flow.session.nr.toNat
  head : ∃ skb rest, flow.session.reorderQ = skb :: rest ∧
    skb.cb.ns.toNat < first.session.nr.toNat
  known : ∀ skb ∈ flow.session.reorderQ, ∃ offset ∈ arrived, skb = frame offset

/-- The front of the queue after a frame has been queued is no larger than that frame, nor than the
front before. -/
theorem queueByNs_head (skb : SkBuff) (queue : List SkBuff) :
    ∃ front rest, (queueByNs skb queue).1 = front :: rest ∧ front.cb.ns ≤ skb.cb.ns ∧
      ∀ skbp rest', queue = skbp :: rest' → front.cb.ns ≤ skbp.cb.ns := by
  cases queue with
  | nil => exact ⟨skb, [], rfl, UInt32.le_refl _, by simp⟩
  | cons skbp rest =>
    by_cases hlarger : skbp.cb.ns > skb.cb.ns
    · refine ⟨skb, skbp :: rest, by simp [queueByNs, hlarger], UInt32.le_refl _, ?_⟩
      rintro skbp' rest' heq
      obtain ⟨rfl, rfl⟩ := List.cons.inj heq
      exact UInt32.le_of_lt hlarger
    · refine ⟨skbp, (queueByNs skb rest).1, by simp [queueByNs, hlarger],
        UInt32.not_lt.mp hlarger, ?_⟩
      rintro skbp' rest' heq
      obtain ⟨rfl, rfl⟩ := List.cons.inj heq
      exact UInt32.le_refl _

/-- A queue with a frame past the wrap at its front, or one that gets such a frame, is blocked by
the next arrival. -/
theorem blocked_recvCommon (harrivals : Arrivals first call frame count)
    (hsetup : SameSetup first flow) (hskip : flow.session.reorderSkip = false)
    (hnr : first.session.nr.toNat ≤ flow.session.nr.toNat)
    (hknown : ∀ skb ∈ flow.session.reorderQ, ∃ offset ∈ arrived, skb = frame offset)
    {offset : ℕ} (hfresh : ∀ earlier ∈ arrived ++ [offset], earlier < count ∧
      timeAfter (call offset).env.jiffies (frame earlier).cb.expires = false)
    (hlow : (∃ skb rest, flow.session.reorderQ = skb :: rest ∧
        skb.cb.ns.toNat < first.session.nr.toNat) ∨
      ((frame offset).cb.ns.toNat < first.session.nr.toNat ∧
        l2tpSeqCheckRxWindow flow.session (frame offset).cb.ns = true)) :
    Blocked first frame (arrived ++ [offset]) (l2tpRecvCommon flow (call offset)) := by
  have hcount := (hfresh offset (List.mem_append_right _ (List.mem_singleton_self _))).1
  have hadmitted := harrivals.admitted offset hcount
  rw [← hsetup.version, ← hsetup.params, ← hsetup.timeout] at hadmitted
  cases hwindow : l2tpSeqCheckRxWindow flow.session (frame offset).cb.ns with
  | false =>
    obtain ⟨sendSeq, hdrLen, counters, henqueue⟩ := recvEnqueue_outside hadmitted
      (harrivals.hasSeq offset hcount) hwindow
    have hhead := hlow.resolve_right (by simp [hwindow])
    simp only [l2tpRecvCommon, henqueue]
    refine ⟨⟨hsetup.version, hsetup.params, hsetup.hooks, hsetup.timeout⟩, hskip, hnr, hhead, ?_⟩
    intro skb hskb
    obtain ⟨earlier, hearlier, rfl⟩ := hknown skb hskb
    exact ⟨earlier, List.mem_append_left _ hearlier, rfl⟩
  | true =>
    obtain ⟨sendSeq, hdrLen, counters, henqueue⟩ := recvEnqueue_inWindow hadmitted
      (harrivals.hasSeq offset hcount) (by rw [hsetup.timeout]; exact harrivals.reordering) hwindow
    obtain ⟨front, rest, hqueue, hfront, hfront'⟩ :=
      queueByNs_head (frame offset) flow.session.reorderQ
    have hfrontLow : front.cb.ns.toNat < first.session.nr.toNat := by
      rcases hlow with ⟨skb, rest', hqueue', hskb⟩ | ⟨hskb, -⟩
      · exact (UInt32.le_iff_toNat_le.mp (hfront' skb rest' hqueue')).trans_lt hskb
      · exact (UInt32.le_iff_toNat_le.mp hfront).trans_lt hskb
    have hknown' : ∀ skb ∈ (queueByNs (frame offset) flow.session.reorderQ).1,
        ∃ earlier ∈ arrived ++ [offset], skb = frame earlier := by
      intro skb hskb
      rcases List.mem_cons.mp ((queueByNs_perm _ _).mem_iff.mp hskb) with rfl | hskb
      · exact ⟨offset, by simp, rfl⟩
      · obtain ⟨earlier, hearlier, rfl⟩ := hknown skb hskb
        exact ⟨earlier, List.mem_append_left _ hearlier, rfl⟩
    have hblocked : Blocked first frame (arrived ++ [offset])
        (recvEnqueue flow (call offset)).1 := by
      rw [henqueue]
      exact ⟨⟨hsetup.version, hsetup.params, hsetup.hooks, hsetup.timeout⟩, hskip, hnr,
        ⟨front, rest, hqueue, hfrontLow⟩, hknown'⟩
    obtain ⟨earlier, hearlier, rfl⟩ := hknown' front (by rw [hqueue]; exact List.mem_cons_self)
    have hstop : dequeueStep (call offset).env (recvEnqueue flow (call offset)).1 = none := by
      rw [henqueue]
      refine dequeueStep_of_hold hqueue (hfresh earlier hearlier).2
        (harrivals.hasSeq earlier (hfresh earlier hearlier).1) hskip ?_
      intro heq
      have hlt := hfrontLow
      rw [heq] at hlt
      exact absurd hnr (Nat.not_le.mpr hlt)
    rw [henqueue] at hblocked hstop
    simp only [l2tpRecvCommon, henqueue, l2tpRecvDequeue, drain_succ_none hstop]
    exact hblocked

/-- Whatever arrives, a blocked queue stays blocked. -/
theorem Blocked.recvAll (harrivals : Arrivals first call frame count) {order : List ℕ}
    (hrange : ∀ offset ∈ arrived ++ order, offset < count)
    (htimely : Timely call frame (arrived ++ order)) (hblocked : Blocked first frame arrived flow) :
    Blocked first frame (arrived ++ order) (recvAll flow call order) := by
  induction order generalizing arrived flow with
  | nil => rwa [List.append_nil]
  | cons offset order ih =>
    have hsplit : arrived ++ offset :: order = (arrived ++ [offset]) ++ order := by simp
    rw [hsplit] at hrange htimely ⊢
    refine ih hrange htimely ?_
    refine blocked_recvCommon harrivals hblocked.toSameSetup hblocked.skip hblocked.nr
      hblocked.known ?_ (Or.inl hblocked.head)
    exact htimely.fresh hrange

end Blocked

/-! ### Which orders of arrival are put right -/

section Order

variable {flow : Flow n} {call : ℕ → RecvCall n} {frame : ℕ → SkBuff} {count : ℕ} {order : List ℕ}

/-- The number of a frame lies past the wrap of the sequence number. -/
def Wraps (flow : Flow n) (offset : ℕ) : Prop :=
  flow.session.seqCount ≤ flow.session.nr.toNat + offset

instance (flow : Flow n) (offset : ℕ) : Decidable (Wraps flow offset) :=
  inferInstanceAs (Decidable (_ ≤ _))

/-- All frames delivered in the order of their numbers, none waiting, Nr behind the last. -/
def DeliversInOrder (flow : Flow n) (call : ℕ → RecvCall n) (frame : ℕ → SkBuff) (count : ℕ)
    (order : List ℕ) : Prop :=
  delivered (recvAll flow call order).log = delivered flow.log ++ (List.range count).map frame ∧
    (recvAll flow call order).session.reorderQ = [] ∧
    (recvAll flow call order).session.nr.toNat =
      (flow.session.nr.toNat + count) % flow.session.seqCount

/-- Before the wrap the numbers count up from Nr. -/
theorem Arrivals.flat_low (harrivals : Arrivals flow call frame count) :
    Flat flow 0 (min count (flow.session.seqCount - flow.session.nr.toNat)) 0 := by
  have hnr := harrivals.nr_lt
  intro offset _ hlt
  rw [Nat.mod_eq_of_lt (by omega), Nat.add_zero]

/-- Past the wrap they count up from zero. -/
theorem Arrivals.flat_high (harrivals : Arrivals flow call frame count) :
    Flat flow (min count (flow.session.seqCount - flow.session.nr.toNat)) count
      flow.session.seqCount := by
  have hnr := harrivals.nr_lt
  have hwindow := harrivals.window
  have hsizes := harrivals.space.sizes
  intro offset hle hlt
  rw [Nat.mod_eq_sub_mod (by omega), Nat.mod_eq_of_lt (by omega)]
  omega

theorem Arrivals.inStep_start (harrivals : Arrivals flow call frame count) :
    InStep flow frame (delivered flow.log) flow (ReorderBuffer.start 0) where
  version := rfl
  params := rfl
  hooks := rfl
  timeout := rfl
  skip := harrivals.skip
  nr := (Nat.mod_eq_of_lt harrivals.nr_lt).symm
  queue := harrivals.queue
  log := by simp [ReorderBuffer.start]

theorem recvAll_append (flow : Flow n) (call : ℕ → RecvCall n) (order order' : List ℕ) :
    recvAll flow call (order ++ order') = recvAll (recvAll flow call order) call order' :=
  List.foldl_append

/-- The frames before the wrap come first: the session works as one reorder buffer, and then as
another. -/
theorem Arrivals.deliversInOrder (harrivals : Arrivals flow call frame count)
    {low high : List ℕ} (hperm : (low ++ high).Perm (List.range count))
    (htimely : Timely call frame (low ++ high)) (hlow : ∀ offset ∈ low, ¬ Wraps flow offset)
    (hhigh : ∀ offset ∈ high, Wraps flow offset) :
    DeliversInOrder flow call frame count (low ++ high) := by
  have hflatLow := harrivals.flat_low
  have hflatHigh := harrivals.flat_high
  have hlowLt : ∀ offset ∈ low,
      offset < min count (flow.session.seqCount - flow.session.nr.toNat) := by
    intro offset hin
    have hbound := List.mem_range.mp (hperm.mem_iff.mp (List.mem_append_left _ hin))
    have := hlow offset hin
    simp only [Wraps] at this
    omega
  have hhighLe : ∀ offset ∈ high,
      min count (flow.session.seqCount - flow.session.nr.toNat) ≤ offset := by
    intro offset hin
    have := hhigh offset hin
    simp only [Wraps] at this
    omega
  have hle : min count (flow.session.seqCount - flow.session.nr.toNat) ≤ count := min_le_left _ _
  generalize min count (flow.session.seqCount - flow.session.nr.toNat) = split at *
  obtain ⟨hlowPerm, hhighPerm⟩ := ReorderBuffer.perm_split hperm hle hlowLt hhighLe
  have hfirst := harrivals.inStep_start.recvAll_perm harrivals hflatLow hle (Nat.zero_le _)
    hlowPerm htimely.append_left
  have hagain : InStep flow frame (delivered flow.log ++ (List.range' 0 split).map frame)
      (recvAll flow call low) (ReorderBuffer.start split) :=
    ⟨hfirst.toSameSetup, hfirst.skip, hfirst.nr, hfirst.queue, by
      simpa [ReorderBuffer.start] using hfirst.log⟩
  have hsecond := hagain.recvAll_perm harrivals hflatHigh le_rfl hle hhighPerm htimely.append_right
  rw [DeliversInOrder, recvAll_append]
  refine ⟨?_, hsecond.queue, hsecond.nr⟩
  have hrange : List.range' 0 split ++ List.range' split (count - split) = List.range count := by
    have happend : List.range' 0 split ++ List.range' (0 + split) (count - split) =
        List.range' 0 (split + (count - split)) := List.range'_append_1
    rwa [Nat.zero_add, Nat.add_sub_cancel' hle, ← List.range_eq_range' (n := count)] at happend
  rw [hsecond.log, List.append_assoc, ← List.map_append, hrange]

/-- A frame past the wrap that comes before one in front of it blocks the queue for good. -/
theorem Arrivals.blocked (harrivals : Arrivals flow call frame count) {low high : List ℕ}
    {early late : ℕ} (hperm : (low ++ early :: high).Perm (List.range count))
    (htimely : Timely call frame (low ++ early :: high))
    (hlow : ∀ offset ∈ low, ¬ Wraps flow offset)
    (hearly : Wraps flow early) (hlate : late ∈ high) (hlate' : ¬ Wraps flow late) :
    (recvAll flow call (low ++ early :: high)).session.reorderQ ≠ [] := by
  have hnr := harrivals.nr_lt
  have hwindow := harrivals.window
  have hsizes := harrivals.space.sizes
  have hrange : ∀ offset ∈ low ++ early :: high, offset < count := fun offset hin ↦
    List.mem_range.mp (hperm.mem_iff.mp hin)
  have hnodup := List.nodup_append'.mp (hperm.nodup_iff.mpr List.nodup_range)
  have hlateNew : late ∉ low := fun hin ↦ hnodup.2.2 hin (List.mem_cons_of_mem _ hlate)
  have hearlyLt := hrange early (by simp)
  have hlateLt := hrange late (by simp [hlate])
  simp only [Wraps] at hearly hlate'
  have hlowRange : ∀ offset ∈ [] ++ low, 0 ≤ offset ∧
      offset < min count (flow.session.seqCount - flow.session.nr.toNat) := by
    intro offset hin
    have hbound := hrange offset (List.mem_append_left _ hin)
    have := hlow offset hin
    simp only [Wraps] at this
    omega
  have hinstep := harrivals.inStep_start.recvAll harrivals harrivals.flat_low (min_le_left _ _)
    hlowRange hnodup.1 htimely.append_left (ReorderBuffer.settled_start 0)
  have hsettled := ReorderBuffer.settled_offers (ReorderBuffer.settled_start 0)
    (fun _ _ ↦ Nat.zero_le _) hnodup.1
  rw [List.nil_append] at hsettled
  generalize low.foldl ReorderBuffer.offer (ReorderBuffer.start 0) = buffer at hinstep hsettled
  have hnext := hsettled.toHolds.next_le_of_notMem (Nat.zero_le late) hlateNew
  have hnrEq : (recvAll flow call low).session.nr.toNat =
      flow.session.nr.toNat + buffer.next := by
    rw [hinstep.nr, Nat.mod_eq_of_lt (by omega)]
  have hns : (frame early).cb.ns.toNat =
      flow.session.nr.toNat + early - flow.session.seqCount := by
    rw [harrivals.ns early hearlyLt, Nat.mod_eq_sub_mod hearly, Nat.mod_eq_of_lt (by omega)]
  have hcheck : l2tpSeqCheckRxWindow (recvAll flow call low).session (frame early).cb.ns =
      true := by
    have hcounts : (recvAll flow call low).session.seqCount = flow.session.seqCount := by
      rw [hinstep.params]
    rw [l2tpSeqCheckRxWindow_iff (by rw [hinstep.params]; exact harrivals.space) (by omega)
      (by omega), ahead_of_lt (by omega) (by omega), hinstep.params, hnrEq, hns]
    omega
  have hknown : ∀ skb ∈ (recvAll flow call low).session.reorderQ, ∃ offset ∈ low,
      skb = frame offset := by
    intro skb hskb
    rw [hinstep.queue] at hskb
    obtain ⟨offset, hoffset, rfl⟩ := List.mem_map.mp hskb
    exact ⟨offset, hsettled.perm.mem_iff.mp (List.mem_append_right _ hoffset), rfl⟩
  have hsplit : low ++ early :: high = (low ++ [early]) ++ high := by simp
  rw [hsplit] at hrange htimely ⊢
  have hblocked := blocked_recvCommon harrivals hinstep.toSameSetup hinstep.skip (by omega) hknown
    (htimely.fresh hrange) (Or.inr ⟨by omega, hcheck⟩)
  have hend := hblocked.recvAll harrivals hrange htimely
  obtain ⟨skb, rest, hqueue, -⟩ := hend.head
  have hrun : recvAll flow call ((low ++ [early]) ++ high) =
      recvAll (l2tpRecvCommon (recvAll flow call low) (call early)) call high := by
    rw [recvAll_append, recvAll_append]
    rfl
  rw [hrun, hqueue]
  exact List.cons_ne_nil _ _

/-- Reordering across the wrap. Assumes: a session that reorders, with Nr at any number and nothing
held back, and the frames with the next `count` numbers, no more than the window, each handed once
to `l2tp_recv_common` before any has expired. The receive handler is called on exactly these frames
in the order of their numbers, and Nr ends behind them, if and only if no frame past the wrap of the
sequence number arrives before one in front of it. -/
theorem deliversInOrder_iff (harrivals : Arrivals flow call frame count)
    (hperm : order.Perm (List.range count)) (htimely : Timely call frame order) :
    DeliversInOrder flow call frame count order ↔
      order.Pairwise fun earlier later ↦ Wraps flow earlier → Wraps flow later := by
  rcases ReorderBuffer.split_or_early (Wraps flow) order with
    ⟨low, high, rfl, hlow, hhigh⟩ | ⟨low, early, high, late, rfl, hlow, hearly, hlate, hlate'⟩
  · refine iff_of_true (harrivals.deliversInOrder hperm htimely hlow hhigh) ?_
    refine List.pairwise_append.mpr ⟨?_, ?_, fun _ _ later hlater _ ↦ hhigh later hlater⟩
    · exact List.pairwise_of_forall_mem_list fun earlier hin _ _ hwraps ↦
        absurd hwraps (hlow earlier hin)
    · exact List.pairwise_of_forall_mem_list fun _ _ later hin _ ↦ hhigh later hin
  · refine iff_of_false (fun hdelivers ↦ ?_) fun hpairwise ↦ ?_
    · exact harrivals.blocked hperm htimely hlow hearly hlate hlate' hdelivers.2.1
    · have hhead := (List.pairwise_cons.mp (List.pairwise_append.mp hpairwise).2.1).1
      exact hlate' (hhead late hlate hearly)

end Order

/-- A session that waits for the last number before the wrap. -/
def lastNumberFlow : Flow 1 :=
  (reorderingFlow 1 50).onSession fun session ↦
    { session with nr := 0xffffff, reorderSkip := false }

/-- The frames with the last number and the numbers after it. -/
def lastNumberCall (offset : ℕ) : RecvCall 1 :=
  sequencedCall cpu0 1000 offset ((0xffffff + UInt32.ofNat offset) &&& 0xffffff)

/-- The same frames after admission. -/
def lastNumberFrame (offset : ℕ) : SkBuff :=
  (admittedFrame lastNumberFlow.tunnel.version lastNumberFlow.session.toSessionParams
    lastNumberFlow.session.reorderTimeout (lastNumberCall offset)).getD (lastNumberCall offset).skb

theorem arrivals_lastNumber : Arrivals lastNumberFlow lastNumberCall lastNumberFrame 2 where
  space := seqSpace_newSessionParams _ _ _ _ _
  nr_lt := by decide
  reordering := by decide
  skip := rfl
  queue := rfl
  handler := rfl
  window := by decide
  admitted := by decide
  hasSeq := by decide
  ns := by decide

/-- In the order of their numbers the two frames are delivered. -/
theorem deliversInOrder_iff_lastNumber :
    Timely lastNumberCall lastNumberFrame [0, 1] ∧
      DeliversInOrder lastNumberFlow lastNumberCall lastNumberFrame 2 [0, 1] :=
  have htimely : Timely lastNumberCall lastNumberFrame [0, 1] := ⟨by decide, by decide⟩
  ⟨htimely, (deliversInOrder_iff arrivals_lastNumber (by decide) htimely).mpr (by decide)⟩

/-- Frame zero arrives before the frame with the last number: it is queued in front, and both
wait. -/
theorem not_deliversInOrder_lastNumber :
    Arrivals lastNumberFlow lastNumberCall lastNumberFrame 2 ∧
      [1, 0].Perm (List.range 2) ∧ Timely lastNumberCall lastNumberFrame [1, 0] ∧
      (recvAll lastNumberFlow lastNumberCall [1, 0]).session.reorderQ.map SkBuff.id = [1, 0] ∧
      delivered (recvAll lastNumberFlow lastNumberCall [1, 0]).log = [] ∧
      ¬ DeliversInOrder lastNumberFlow lastNumberCall lastNumberFrame 2 [1, 0] := by
  refine ⟨arrivals_lastNumber, by decide, ⟨by decide, by decide⟩, by decide, by decide, ?_⟩
  intro hdelivers
  exact absurd hdelivers.2.1 (by decide)

end KernelModules.L2tp
