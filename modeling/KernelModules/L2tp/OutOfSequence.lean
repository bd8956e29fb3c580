import KernelModules.L2tp.Resync

/-!
# Resets of Nr

A session that does not reorder moves Nr by one, or to the frame behind a row of frames out of
sequence. `nr_oos` and `nr_oos_count` are all it keeps of that row, and neither in-sequence frames
nor a reset clear them, so what the counter stands for is a matter of the whole run: the numbers of
all frames out of sequence, newest first, start with a row as long as the counter says
(`OosTracked.sessionRun`). The `int` may wrap, and then says less than there is.

The first sequenced frame may set Nr to anything. From its delivery on, a move of Nr by other than
one has `nr_oos_count_max` consecutive numbers out of sequence behind it, and the queue is empty
after every reception (`nr_resets_justified`).
-/

set_option autoImplicit false
set_option relaxedAutoImplicit false

namespace KernelModules.L2tp

open Foundations

variable {n : ℕ}

/-! ### What a reception does -/

section Reception

variable {flow : Flow n}

/-- A frame without a number, or one that is refused, leaves the lock alone. -/
theorem handles_unsequenced (hunqueued : Unqueued flow) {call : RecvCall n}
    (haside : (SessionEvent.recv call).Aside flow.tunnel.version flow.session.toSessionParams) :
    ∃ frames, Handles flow (l2tpRecvCommon flow call) flow.session.lock frames ∧
      ∀ skb ∈ frames, skb.cb.hasSeq = false := by
  have hkeeps := hunqueued.keepsRecvSide_recv haside
  have hqueue := hkeeps.reorderQ.trans hunqueued.empty
  obtain ⟨hhz, hplain⟩ := haside
  obtain ⟨flow', skb, -, -, -, -, ⟨heq, hadmitted, hperm, hlog⟩ | ⟨heq, -, hlog⟩⟩ :=
    recvEnqueue_cases flow call
  · rw [hunqueued.timeout] at hadmitted
    have hseq := hplain skb hadmitted
    obtain ⟨tstats, counters, hcommon⟩ :=
      hunqueued.recv_unsequenced heq hadmitted hperm hseq hhz
    refine ⟨handedOver flow'.session.toSessionHooks skb, ⟨hqueue, lock_eq hkeeps, ?_⟩, ?_⟩
    · rw [hcommon, afterDelivery_eq]
      simp only [Flow.log_withStats, hlog, delivered_append, delivered_refEffects,
        delivered_skipEffects, hseq, ← delivered_handOverEffect]
      rw [← List.singleton_append (l := flow'.session.derefEffects), delivered_append,
        delivered_derefEffects]
      simp
    · intro skb' hmem
      unfold handedOver at hmem
      split_ifs at hmem
      · rw [List.mem_singleton.mp hmem]
        exact hseq
      · exact absurd hmem List.not_mem_nil
  · have hcommon : l2tpRecvCommon flow call = flow' := by
      rw [l2tpRecvCommon, heq]
    refine ⟨[], ⟨hqueue, lock_eq hkeeps, ?_⟩, fun skb' hmem ↦ absurd hmem List.not_mem_nil⟩
    rw [hcommon, hlog]
    rw [← List.singleton_append (l := flow.session.derefEffects)]
    simp

end Reception

/-! ### Frames out of sequence -/

/-- The number of a frame that comes out of sequence: it passes the window check, and Nr asks for
another one. -/
def SessionEvent.oosNumber (flow : Flow n) : SessionEvent n → Option ℕ
  | .recv call =>
    (admittedFrame flow.tunnel.version flow.session.toSessionParams flow.session.reorderTimeout
      call).bind fun skb ↦
        if skb.cb.hasSeq && l2tpSeqCheckRxWindow flow.session skb.cb.ns &&
            skb.cb.ns ≠ flow.session.nr then
          some skb.cb.ns.toNat
        else none
  | _ => none

/-- The numbers of the frames out of sequence in a run, the newest first. -/
def oosNumbers (flow : Flow n) : List (SessionEvent n) → List ℕ
  | [] => []
  | event :: events => oosNumbers (sessionStep flow event) events ++ (event.oosNumber flow).toList

/-- The session at a point of a run without reordering, with the numbers out of sequence so far. -/
structure OosTracked (flow : Flow n) (numbers : List ℕ) : Prop extends Unqueued flow where
  recalls : flow.session.lock.Recalls flow.session.lockRules numbers

theorem lockRules_bump_le (params : SessionParams) (run : ℤ) :
    params.lockRules.bump run ≤ run + 1 := by
  unfold SessionParams.lockRules
  dsimp only
  split_ifs with hlast
  · omega
  · exact le_rfl

/-- A new session remembers no frame, and takes zero for the number of the last one. -/
theorem oosTracked_newFlow (tunnel : L2tpTunnel n) (tunnelIndex : ℕ)
    (sessionId peerSessionId : UInt32) (cfg : L2tpSessionCfg) (hooks : SessionHooks)
    (htimeout : (newFlow tunnel tunnelIndex sessionId peerSessionId cfg
      hooks).session.reorderTimeout = 0) :
    OosTracked (newFlow tunnel tunnelIndex sessionId peerSessionId cfg hooks) [0] := by
  have hempty : (newFlow tunnel tunnelIndex sessionId peerSessionId cfg
      hooks).session.reorderQ = [] := by
    obtain ⟨hdrLen, heq⟩ := newSession_eq tunnel tunnelIndex sessionId peerSessionId cfg
    change (newSession tunnel tunnelIndex sessionId peerSessionId cfg).reorderQ = []
    rw [heq]
  refine ⟨unqueued_of_sessionRun tunnel tunnelIndex sessionId peerSessionId cfg hooks [] rfl
    htimeout hempty, ?_⟩
  rw [lock_newFlow]
  refine ⟨rfl, fun length hlength ↦ ?_⟩
  obtain rfl : length = 0 := by
    have hle : (length : ℤ) ≤ 0 := hlength
    omega
  exact Lock.RowOf.single 0 []

/-- The events of a run without reordering: a sequenced frame, or an event aside. -/
theorem SessionEvent.sequenced_or_aside {flow : Flow n} {event : SessionEvent n}
    (htimeout : (sessionStep flow event).session.reorderTimeout = 0)
    (hhz : ∀ call, event = .recv call → call.env.hz.toNat < 2 ^ 63) :
    (∃ call skb, event = .recv call ∧
      admittedFrame flow.tunnel.version flow.session.toSessionParams 0 call = some skb ∧
        skb.cb.hasSeq = true) ∨
      event.Aside flow.tunnel.version flow.session.toSessionParams := by
  cases event with
  | recv call =>
    by_cases hsequenced : ∃ skb, admittedFrame flow.tunnel.version flow.session.toSessionParams 0
        call = some skb ∧ skb.cb.hasSeq = true
    · obtain ⟨skb, hadmitted, hseq⟩ := hsequenced
      exact Or.inl ⟨call, skb, rfl, hadmitted, hseq⟩
    · refine Or.inr ⟨hhz call rfl, fun skb hadmitted ↦ ?_⟩
      rw [← Bool.not_eq_true]
      exact fun hseq ↦ hsequenced ⟨skb, hadmitted, hseq⟩
  | modify request =>
    refine Or.inr fun timeout hrequest ↦ ?_
    dsimp only [sessionStep, Flow.session_onSession] at htimeout
    rw [reorderTimeout_modifySession, hrequest] at htimeout
    exact htimeout
  | setsockopt optname val jiffies =>
    refine Or.inr fun hoption ↦ ?_
    dsimp only [sessionStep, Flow.session_onSession] at htimeout
    rw [reorderTimeout_setsockopt, if_pos hoption] at htimeout
    exact htimeout
  | _ => exact Or.inr trivial

section Step

variable {flow : Flow n} {numbers : List ℕ}

/-- An event aside is no frame out of sequence. -/
theorem SessionEvent.Aside.oosNumber (hunqueued : Unqueued flow) {event : SessionEvent n}
    (haside : event.Aside flow.tunnel.version flow.session.toSessionParams) :
    event.oosNumber flow = none := by
  cases event with
  | recv call =>
    unfold SessionEvent.oosNumber
    rw [hunqueued.timeout, Option.bind_eq_none_iff]
    intro skb hadmitted
    rw [haside.2 skb hadmitted]
    rfl
  | _ => rfl

/-- A sequenced frame is out of sequence exactly if the lock notices it. -/
theorem noticed_sequenced (hunqueued : Unqueued flow) {call : RecvCall n} {skb : SkBuff}
    (hadmitted : admittedFrame flow.tunnel.version flow.session.toSessionParams 0 call = some skb)
    (hseq : skb.cb.hasSeq = true) :
    flow.session.lock.noticed flow.session.lockRules skb.cb.ns.toNat numbers =
      ((SessionEvent.recv call).oosNumber flow).toList ++ numbers := by
  have hwindow := hunqueued.inWindow_iff (hunqueued.toNumbered.admitted_lt hadmitted hseq)
  have hexpected := eq_lock_expected_iff flow.session skb.cb.ns
  unfold Lock.noticed SessionEvent.oosNumber
  simp only [hunqueued.timeout, hadmitted, Option.bind_some, hseq, ← hwindow, ne_eq, hexpected]
  by_cases hinside : l2tpSeqCheckRxWindow flow.session skb.cb.ns = true
  · by_cases hnr : skb.cb.ns = flow.session.nr
    · simp [hnr]
    · simp [hinside, hnr]
  · simp [hinside]

/-- What a sequenced frame leaves behind. -/
theorem OosTracked.sequenced (htracked : OosTracked flow numbers) {call : RecvCall n} {skb : SkBuff}
    (hadmitted : admittedFrame flow.tunnel.version flow.session.toSessionParams 0 call = some skb)
    (hseq : skb.cb.hasSeq = true) (hhz : call.env.hz.toNat < 2 ^ 63) :
    OosTracked (l2tpRecvCommon flow call)
      (((SessionEvent.recv call).oosNumber flow).toList ++ numbers) := by
  have hhandles := handles_sequenced htracked.toUnqueued hadmitted hseq hhz
  have hsetup := sameSetup_l2tpRecvCommon flow call
  have hpatience : (l2tpRecvCommon flow call).session.nrOosCountMax = 4 := by
    rw [hsetup.params]
    exact htracked.patience
  refine ⟨⟨htracked.toNumbered.run [call], hpatience, hsetup.timeout.trans htracked.timeout,
    hhandles.queue⟩, ?_⟩
  rw [hhandles.lock_eq, hsetup.params, ← noticed_sequenced htracked.toUnqueued hadmitted hseq]
  exact htracked.recalls.step (lockRules_bump_le _) _

/-- One event of a run without reordering. -/
theorem OosTracked.sessionStep (htracked : OosTracked flow numbers) {event : SessionEvent n}
    (htimeout : (sessionStep flow event).session.reorderTimeout = 0)
    (hhz : ∀ call, event = .recv call → call.env.hz.toNat < 2 ^ 63) :
    OosTracked (L2tp.sessionStep flow event) ((event.oosNumber flow).toList ++ numbers) := by
  rcases SessionEvent.sequenced_or_aside htimeout hhz with
    ⟨call, skb, rfl, hadmitted, hseq⟩ | haside
  · exact htracked.sequenced hadmitted hseq (hhz call rfl)
  · have hkeeps := htracked.toUnqueued.keepsRecvSide_sessionStep haside
    refine ⟨htracked.toUnqueued.keepsRecvSide hkeeps htimeout, ?_⟩
    rw [lock_eq hkeeps, hkeeps.params, haside.oosNumber htracked.toUnqueued]
    exact htracked.recalls

end Step

/-! ### Runs without reordering -/

/-- The reorder timeout is zero throughout a run. -/
def NeverReorders (flow : Flow n) (events : List (SessionEvent n)) : Prop :=
  ∀ past, past <+: events → (sessionRun flow past).session.reorderTimeout = 0

/-- A frame does not expire in the moment in which it comes. -/
def Clocked (events : List (SessionEvent n)) : Prop :=
  ∀ call, SessionEvent.recv call ∈ events → call.env.hz.toNat < 2 ^ 63

theorem NeverReorders.of_cons {flow : Flow n} {event : SessionEvent n}
    {events : List (SessionEvent n)} (hnever : NeverReorders flow (event :: events)) :
    NeverReorders (sessionStep flow event) events :=
  fun past hpast ↦ hnever (event :: past) (List.cons_prefix_cons.mpr ⟨rfl, hpast⟩)

theorem NeverReorders.of_append {flow : Flow n} {events events' : List (SessionEvent n)}
    (hnever : NeverReorders flow (events ++ events')) :
    NeverReorders (sessionRun flow events) events' := by
  intro past hpast
  have htimeout := hnever (events ++ past) ((List.prefix_append_right_inj events).mpr hpast)
  rwa [sessionRun, List.foldl_append] at htimeout

/-- What a session remembers at the end of a run without reordering. -/
theorem OosTracked.sessionRun {flow : Flow n} {numbers : List ℕ}
    (htracked : OosTracked flow numbers) {events : List (SessionEvent n)}
    (hnever : NeverReorders flow events) (hclocked : Clocked events) :
    OosTracked (L2tp.sessionRun flow events) (oosNumbers flow events ++ numbers) := by
  induction events generalizing flow numbers with
  | nil => exact htracked
  | cons event events ih =>
    have hfirst := hnever [event] (List.prefix_append [event] events)
    have hnext := htracked.sessionStep hfirst fun call heq ↦
      hclocked call (by rw [heq]; exact List.mem_cons_self)
    rw [oosNumbers, List.append_assoc]
    exact ih hnext hnever.of_cons fun call hmem ↦ hclocked call (List.mem_cons_of_mem _ hmem)

/-! ### The first delivery -/

/-- The frames that a reception hands to the receive handler. -/
def deliveredBy (flow : Flow n) (call : RecvCall n) : List SkBuff :=
  (delivered (l2tpRecvCommon flow call).log).drop (delivered flow.log).length

/-- A sequenced frame is delivered: the receive handler gets it, or there is none and Nr moves. -/
def SessionEvent.deliversSequenced (flow : Flow n) : SessionEvent n → Prop
  | .recv call =>
    (∃ skb ∈ deliveredBy flow call, skb.cb.hasSeq = true) ∨
      (l2tpRecvCommon flow call).session.nr ≠ flow.session.nr
  | _ => False

/-- A sequenced frame has been delivered in a run. -/
def HasDelivered (flow : Flow n) (events : List (SessionEvent n)) : Prop :=
  ∃ past event rest, events = past ++ event :: rest ∧
    event.deliversSequenced (sessionRun flow past)

section Delivery

variable {flow : Flow n} {event : SessionEvent n}

theorem Handles.deliveredBy {call : RecvCall n} {lock : Lock} {frames : List SkBuff}
    (hhandles : Handles flow (l2tpRecvCommon flow call) lock frames) :
    deliveredBy flow call = frames := by
  rw [L2tp.deliveredBy, hhandles.delivered_eq, List.drop_left]

theorem nr_eq_of_lock {flow' : Flow n} (hlock : flow'.session.lock.expected =
    flow.session.lock.expected) : flow'.session.nr = flow.session.nr :=
  UInt32.toNat_inj.mp hlock

/-- Once a session does not take whatever comes, it never does again. -/
theorem Unqueued.reorderSkip_sessionStep (hunqueued : Unqueued flow)
    (htimeout : (sessionStep flow event).session.reorderTimeout = 0)
    (hhz : ∀ call, event = .recv call → call.env.hz.toNat < 2 ^ 63)
    (hskip : flow.session.reorderSkip = false) :
    (sessionStep flow event).session.reorderSkip = false := by
  rcases SessionEvent.sequenced_or_aside htimeout hhz with
    ⟨call, skb, rfl, hadmitted, hseq⟩ | haside
  · have hlock := (handles_sequenced hunqueued hadmitted hseq (hhz call rfl)).lock_eq
    change (l2tpRecvCommon flow call).session.lock.skip = false
    rw [hlock]
    cases htakes : (flow.session.lock.step flow.session.lockRules skb.cb.ns.toNat).2 with
    | true => exact Lock.skip_of_takes htakes
    | false => exact (Lock.step_of_not_takes htakes).2.trans hskip
  · exact (hunqueued.keepsRecvSide_sessionStep haside).reorderSkip.trans hskip

/-- After the delivery of a sequenced frame, a session does not take whatever comes. -/
theorem Unqueued.reorderSkip_of_delivers (hunqueued : Unqueued flow)
    (htimeout : (sessionStep flow event).session.reorderTimeout = 0)
    (hhz : ∀ call, event = .recv call → call.env.hz.toNat < 2 ^ 63)
    (hdelivers : event.deliversSequenced flow) :
    (sessionStep flow event).session.reorderSkip = false := by
  rcases SessionEvent.sequenced_or_aside htimeout hhz with
    ⟨call, skb, rfl, hadmitted, hseq⟩ | haside
  · have hhandles := handles_sequenced hunqueued hadmitted hseq (hhz call rfl)
    have hlock := hhandles.lock_eq
    change (l2tpRecvCommon flow call).session.lock.skip = false
    rw [hlock]
    apply Lock.skip_of_takes
    by_contra htakes
    rw [Bool.not_eq_true] at htakes
    rcases hdelivers with ⟨skb', hmem, -⟩ | hmoves
    · rw [hhandles.deliveredBy, htakes] at hmem
      exact absurd hmem List.not_mem_nil
    · apply hmoves
      apply nr_eq_of_lock
      rw [hlock]
      exact (Lock.step_of_not_takes htakes).1
  · cases event with
    | recv call =>
      obtain ⟨frames, hhandles, hplain⟩ := handles_unsequenced hunqueued haside
      exfalso
      rcases hdelivers with ⟨skb, hmem, hseq⟩ | hmoves
      · rw [hhandles.deliveredBy] at hmem
        exact absurd ((hplain skb hmem).symm.trans hseq) Bool.false_ne_true
      · exact hmoves (nr_eq_of_lock (congrArg Lock.expected hhandles.lock_eq))
    | _ => exact absurd hdelivers id

/-- Once a session does not take whatever comes, it does not for the rest of the run. -/
theorem OosTracked.reorderSkip_sessionRun {numbers : List ℕ} {events : List (SessionEvent n)}
    (htracked : OosTracked flow numbers) (hnever : NeverReorders flow events)
    (hclocked : Clocked events) (hskip : flow.session.reorderSkip = false) :
    (L2tp.sessionRun flow events).session.reorderSkip = false := by
  induction events generalizing flow numbers with
  | nil => exact hskip
  | cons event events ih =>
    have hfirst := hnever [event] (List.prefix_append [event] events)
    have hhz : ∀ call, event = .recv call → call.env.hz.toNat < 2 ^ 63 := fun call heq ↦
      hclocked call (by rw [heq]; exact List.mem_cons_self)
    exact ih (htracked.sessionStep hfirst hhz) hnever.of_cons
      (fun call hmem ↦ hclocked call (List.mem_cons_of_mem _ hmem))
      (htracked.toUnqueued.reorderSkip_sessionStep hfirst hhz hskip)

/-- A session that has delivered a sequenced frame does not take whatever comes. -/
theorem OosTracked.reorderSkip_of_hasDelivered {numbers : List ℕ} {events : List (SessionEvent n)}
    (htracked : OosTracked flow numbers) (hnever : NeverReorders flow events)
    (hclocked : Clocked events) (hdelivered : HasDelivered flow events) :
    (L2tp.sessionRun flow events).session.reorderSkip = false := by
  obtain ⟨past, event, rest, rfl, hdelivers⟩ := hdelivered
  have hhz : ∀ call, event = .recv call → call.env.hz.toNat < 2 ^ 63 := fun call heq ↦
    hclocked call (by rw [heq]; simp)
  have hbefore : OosTracked (L2tp.sessionRun flow past) (oosNumbers flow past ++ numbers) :=
    htracked.sessionRun (fun run hrun ↦ hnever run (hrun.trans (List.prefix_append _ _)))
      fun call hmem ↦ hclocked call (List.mem_append_left _ hmem)
  have hlater := hnever.of_append
  have hfirst := hlater [event] (List.prefix_append [event] rest)
  rw [L2tp.sessionRun, List.foldl_append]
  exact (hbefore.sessionStep hfirst hhz).reorderSkip_sessionRun hlater.of_cons
    (fun call hmem ↦ hclocked call (by simp [hmem]))
    (hbefore.toUnqueued.reorderSkip_of_delivers hfirst hhz hdelivers)

end Delivery

/-! ### Resets -/

/-- What an event of a run without reordering does to Nr, when the session does not take whatever
comes. -/
theorem OosTracked.nr_sessionStep {flow : Flow n} {event : SessionEvent n} {numbers : List ℕ}
    (htracked : OosTracked flow numbers)
    (htimeout : (L2tp.sessionStep flow event).session.reorderTimeout = 0)
    (hhz : ∀ call, event = .recv call → call.env.hz.toNat < 2 ^ 63)
    (hskip : flow.session.reorderSkip = false)
    (hmoves : (L2tp.sessionStep flow event).session.nr ≠ flow.session.nr) :
    (L2tp.sessionStep flow event).session.nr.toNat =
        (flow.session.nr.toNat + 1) % flow.session.seqCount ∨
      ∃ call skb, event = .recv call ∧
        admittedFrame flow.tunnel.version flow.session.toSessionParams 0 call = some skb ∧
        skb.cb.hasSeq = true ∧
        Lock.RowOf flow.session.lockRules (flow.session.nrOosCountMax.toInt.toNat + 2)
          (skb.cb.ns.toNat :: numbers) := by
  rcases SessionEvent.sequenced_or_aside htimeout hhz with
    ⟨call, skb, rfl, hadmitted, hseq⟩ | haside
  · have hlock := (handles_sequenced htracked.toUnqueued hadmitted hseq (hhz call rfl)).lock_eq
    have hexpected : (flow.session.lock.step flow.session.lockRules
        skb.cb.ns.toNat).1.expected ≠ flow.session.lock.expected := by
      intro hstays
      apply hmoves
      apply nr_eq_of_lock
      rw [← hstays, ← hlock]
      rfl
    rcases htracked.recalls.row_of_step (lockRules_bump_le _) hskip hexpected with hnext | hrow
    · left
      rw [← hlock] at hnext
      exact hnext
    · exact Or.inr ⟨call, skb, rfl, hadmitted, hseq, hrow⟩
  · exact absurd (htracked.toUnqueued.keepsRecvSide_sessionStep haside).nr hmoves

/-- Assumes: a session without reordering from its creation on, and a clock by which a frame does
not expire in the moment in which it comes. The queue is empty after every reception. After the
first delivery of a sequenced frame, Nr moves by one, or on receipt of a frame whose number and the
newest `nr_oos_count_max` numbers out of sequence before it follow each other. -/
theorem nr_resets_justified (tunnel : L2tpTunnel n) (tunnelIndex : ℕ)
    (sessionId peerSessionId : UInt32) (cfg : L2tpSessionCfg) (hooks : SessionHooks)
    (events : List (SessionEvent n)) (event : SessionEvent n) {first flow : Flow n}
    (hfirst : first = newFlow tunnel tunnelIndex sessionId peerSessionId cfg hooks)
    (hflow : flow = sessionRun first events) (hnever : NeverReorders first (events ++ [event]))
    (hclocked : Clocked (events ++ [event])) :
    (∀ call, event = .recv call → (sessionStep flow event).session.reorderQ = []) ∧
      (HasDelivered first events →
        (sessionStep flow event).session.nr ≠ flow.session.nr →
        (sessionStep flow event).session.nr.toNat =
            (flow.session.nr.toNat + 1) % flow.session.seqCount ∨
          ∃ call skb, event = .recv call ∧
            admittedFrame flow.tunnel.version flow.session.toSessionParams 0 call = some skb ∧
            skb.cb.hasSeq = true ∧
            Lock.RowOf flow.session.lockRules (flow.session.nrOosCountMax.toInt.toNat + 1)
              (skb.cb.ns.toNat :: oosNumbers first events)) := by
  have hstart : OosTracked first [0] := by
    have htimeout := hnever [] List.nil_prefix
    rw [hfirst] at htimeout ⊢
    exact oosTracked_newFlow tunnel tunnelIndex sessionId peerSessionId cfg hooks htimeout
  have hpast : NeverReorders first events := fun past hpast ↦
    hnever past (hpast.trans (List.prefix_append _ _))
  have hclock : Clocked events := fun call hmem ↦ hclocked call (List.mem_append_left _ hmem)
  have htracked : OosTracked flow (oosNumbers first events ++ [0]) := by
    rw [hflow]
    exact hstart.sessionRun hpast hclock
  have htimeout : (sessionStep flow event).session.reorderTimeout = 0 := by
    have hlast := hnever (events ++ [event]) List.prefix_rfl
    rw [sessionRun, List.foldl_append] at hlast
    rw [hflow]
    exact hlast
  have hhz : ∀ call, event = .recv call → call.env.hz.toNat < 2 ^ 63 := fun call heq ↦
    hclocked call (by rw [heq]; simp)
  constructor
  · intro call hcall
    exact (htracked.sessionStep htimeout hhz).empty
  · intro hdelivered hmoves
    have hskip : flow.session.reorderSkip = false := by
      rw [hflow]
      exact hstart.reorderSkip_of_hasDelivered hpast hclock hdelivered
    rcases htracked.nr_sessionStep htimeout hhz hskip hmoves with
      hnext | ⟨call, skb, hcall, hadmitted, hseq, hrow⟩
    · exact Or.inl hnext
    · exact Or.inr ⟨call, skb, hcall, hadmitted, hseq, hrow.of_append⟩

/-- Received frames do not switch reordering on. -/
theorem neverReorders_recv (flow : Flow n) (htimeout : flow.session.reorderTimeout = 0)
    (calls : List (RecvCall n)) : NeverReorders flow (calls.map .recv) := by
  intro past hpast
  induction calls generalizing flow past with
  | nil =>
    rw [List.prefix_nil.mp hpast]
    exact htimeout
  | cons call calls ih =>
    rcases past with _ | ⟨event, past⟩
    · exact htimeout
    · obtain ⟨rfl, hrest⟩ := List.cons_prefix_cons.mp hpast
      exact ih _ ((sameSetup_l2tpRecvCommon flow call).timeout.trans htimeout) past hrest

theorem clocked_recv {calls : List (RecvCall n)}
    (hcalls : ∀ call ∈ calls, call.env.hz.toNat < 2 ^ 63) :
    Clocked (calls.map SessionEvent.recv) := by
  intro call hmem
  obtain ⟨call', hcall', heq⟩ := List.mem_map.mp hmem
  rw [← SessionEvent.recv.inj heq]
  exact hcalls call' hcall'

/-- Frame 20 comes first, and then 25 to 29, which are out of sequence. -/
def oosCalls : List (RecvCall 1) :=
  [20, 25, 26, 27, 28, 29].map fun ns ↦ sequencedCall cpu0 1000 ns.toNat ns

/-- With frame 30 there are six numbers in a row, and Nr moves from 21 to 31. -/
theorem nr_resets_justified_at30 :
    oosNumbers (reorderingFlow 1 0) (oosCalls.map .recv) = [29, 28, 27, 26, 25, 20] ∧
      (sessionRun (reorderingFlow 1 0) (oosCalls.map .recv)).session.nr = 21 ∧
      (sessionStep (sessionRun (reorderingFlow 1 0) (oosCalls.map .recv))
        (.recv (sequencedCall cpu0 1000 30 30))).session.nr = 31 ∧
      (sessionStep (sessionRun (reorderingFlow 1 0) (oosCalls.map .recv))
        (.recv (sequencedCall cpu0 1000 30 30))).session.reorderQ = [] ∧
      ∃ skb : SkBuff, Lock.RowOf (reorderingFlow 1 0).session.lockRules 5
        (skb.cb.ns.toNat :: oosNumbers (reorderingFlow 1 0) (oosCalls.map .recv)) := by
  have hnever := neverReorders_recv (reorderingFlow 1 0) rfl
    (oosCalls ++ [sequencedCall cpu0 1000 30 30])
  have hclocked : Clocked ((oosCalls ++ [sequencedCall cpu0 1000 30 30]).map .recv) :=
    clocked_recv (by decide)
  rw [List.map_append] at hnever hclocked
  obtain ⟨hqueue, hreset⟩ := nr_resets_justified (newTunnel 1 hdrVer3 1 2 .ip 0) 0 1 2
    { pwType := .eth, lnsMode := true, l2specificLen := 4, l2specificType := l2spectypeDefault }
    { recvSkb := some .l2tpEthDevRecv } _ _ rfl rfl hnever hclocked
  have hdelivered : HasDelivered (reorderingFlow 1 0) (oosCalls.map .recv) :=
    ⟨[], .recv (sequencedCall cpu0 1000 20 20), (oosCalls.drop 1).map .recv, rfl,
      Or.inr (by decide)⟩
  refine ⟨by decide, by decide, by decide, hqueue _ rfl, ?_⟩
  rcases hreset hdelivered (by decide) with hnext | ⟨call, skb, -, -, -, hrow⟩
  · exact absurd hnext (by decide)
  · exact ⟨skb, hrow⟩

end KernelModules.L2tp
