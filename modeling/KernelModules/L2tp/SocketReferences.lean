import KernelModules.Foundations.Ledger
import KernelModules.L2tp.SessionTables
import Mathlib.Algebra.BigOperators.Fin

/-!
# References on sockets

`l2tp_recv_common` takes a reference on the socket of a session for every frame, and the reference
goes back when the frame leaves the queue, however it does. So the references that are held are
those for the frames in the reorder queues of sessions with a socket. `held` follows the log of a
namespace, and `Balances` says of a function of the data path that the queue follows the log.

A session that netlink has created has no socket, and none of the hooks, until `pppol2tp_connect`
sets them all. But `l2tp_ip_recv` gives it frames before that, and frames may wait in its queue for
which no reference was taken. If the session is connected then, references go back that nobody took.
As long as sessions are connected with empty queues, references follow frames
(`references_follow_frames`).
-/

set_option autoImplicit false
set_option relaxedAutoImplicit false

namespace KernelModules.L2tp

open Foundations

variable {n : ℕ}

/-! ### What the log says about references -/

/-- What an effect does to the references on the socket. -/
def refMove : Effect → Move
  | .sockHold => .take
  | .sockPut => .give
  | _ => .none

/-- The frames in the queue of a session, if the session has a socket. -/
def framesHeld (session : L2tpSession n) : ℕ :=
  if session.ps.sock.isSome then session.reorderQ.length else 0

/-- The hooks that take and give back references come with the socket. -/
structure Paired (hooks : SessionHooks) : Prop where
  ref : hooks.ref.isSome = hooks.ps.sock.isSome
  deref : hooks.deref.isSome = hooks.ps.sock.isSome

/-- One reference, if there is a socket. -/
def sockRef (hooks : SessionHooks) : ℕ := if hooks.ps.sock.isSome then 1 else 0

theorem framesHeld_eq (session : L2tpSession n) :
    framesHeld session = session.reorderQ.length * sockRef session.toSessionHooks := by
  unfold framesHeld sockRef
  split_ifs
  · rw [Nat.mul_one]
  · rw [Nat.mul_zero]

namespace Paired

variable {hooks : SessionHooks}

theorem held_refEffects (hpaired : Paired hooks) (k : ℕ) :
    held refMove k hooks.refEffects = some (k + sockRef hooks) := by
  unfold SessionHooks.refEffects sockRef
  rw [hpaired.ref, Bool.and_self]
  split_ifs
  · exact held_take refMove rfl k []
  · rfl

theorem held_derefEffects (hpaired : Paired hooks) (k : ℕ) :
    held refMove (k + sockRef hooks) hooks.derefEffects = some k := by
  unfold SessionHooks.derefEffects sockRef
  rw [hpaired.deref, Bool.and_self]
  split_ifs
  · exact held_give refMove rfl k []
  · rfl

end Paired

theorem refMove_handOverEffect (hooks : SessionHooks) (skb : SkBuff) :
    refMove (handOverEffect hooks skb) = .none := by
  unfold handOverEffect
  split_ifs <;> rfl

/-! ### The data path -/

/-- The queue follows the log, when there are `a` references on the socket, if there is one, that
are not for frames, and `b` afterwards. -/
structure Balances (a b : ℕ) (flow flow' : Flow n) : Prop where
  effects : ∃ effects, flow'.log = flow.log ++ effects ∧
    held refMove (framesHeld flow.session + a * sockRef flow.session.toSessionHooks) effects =
      some (framesHeld flow'.session + b * sockRef flow.session.toSessionHooks)
  hooks : flow'.session.toSessionHooks = flow.session.toSessionHooks

namespace Balances

variable {a b c : ℕ} {first middle last flow flow' : Flow n}

theorem refl (a : ℕ) (flow : Flow n) : Balances a a flow flow :=
  ⟨⟨[], by simp, rfl⟩, rfl⟩

theorem trans (hfirst : Balances a b first middle) (hlast : Balances b c middle last) :
    Balances a c first last := by
  obtain ⟨effects, hlog, hheld⟩ := hfirst.effects
  obtain ⟨effects', hlog', hheld'⟩ := hlast.effects
  rw [hfirst.hooks] at hheld'
  refine ⟨⟨effects ++ effects', ?_, ?_⟩, hlast.hooks.trans hfirst.hooks⟩
  · rw [hlog', hlog, List.append_assoc]
  · rw [held_append, hheld, Option.bind_some, hheld']

/-- Effects that do not touch references, and a queue that stays as it is. -/
theorem of_quiet (effects : List Effect) (hlog : flow'.log = flow.log ++ effects)
    (hquiet : ∀ effect ∈ effects, refMove effect = .none)
    (hhooks : flow'.session.toSessionHooks = flow.session.toSessionHooks)
    (hqueue : flow'.session.reorderQ = flow.session.reorderQ) : Balances a a flow flow' := by
  refine ⟨⟨effects, hlog, ?_⟩, hhooks⟩
  rw [held_of_none refMove hquiet, framesHeld_eq, framesHeld_eq, hqueue, hhooks]

/-- A frame has left the queue, and its reference has gone back. -/
theorem of_release (quiet : List Effect) (hpaired : Paired flow.session.toSessionHooks)
    (hlog : flow'.log = flow.log ++ (quiet ++ flow.session.derefEffects))
    (hquiet : ∀ effect ∈ quiet, refMove effect = .none)
    (hhooks : flow'.session.toSessionHooks = flow.session.toSessionHooks)
    (hqueue : flow.session.reorderQ.length = flow'.session.reorderQ.length + 1) :
    Balances a a flow flow' := by
  refine ⟨⟨_, hlog, ?_⟩, hhooks⟩
  have hsplit : framesHeld flow.session + a * sockRef flow.session.toSessionHooks =
      (framesHeld flow'.session + a * sockRef flow.session.toSessionHooks) +
        sockRef flow.session.toSessionHooks := by
    rw [framesHeld_eq, framesHeld_eq, hqueue, hhooks, Nat.add_one_mul]
    omega
  rw [held_append, held_of_none refMove hquiet, Option.bind_some, hsplit]
  exact hpaired.held_derefEffects _

theorem recvEnqueue (hpaired : Paired flow.session.toSessionHooks) (call : RecvCall n) :
    Balances a a flow (recvEnqueue flow call).1 := by
  obtain ⟨flow', skb, hsetup, -, -, -, hcases⟩ := recvEnqueue_cases flow call
  rcases hcases with ⟨heq, -, hqueue, hlog⟩ | ⟨heq, hqueue, hlog⟩
  · rw [heq]
    refine ⟨⟨_, hlog, ?_⟩, hsetup.hooks⟩
    rw [hpaired.held_refEffects, framesHeld_eq, framesHeld_eq, hqueue.length_eq, List.length_cons,
      hsetup.hooks, Nat.add_one_mul]
    congr 1
    omega
  · rw [heq]
    refine ⟨⟨_, hlog, ?_⟩, hsetup.hooks⟩
    rw [held_append, hpaired.held_refEffects, Option.bind_some, held_none refMove rfl,
      hpaired.held_derefEffects, framesHeld_eq, framesHeld_eq, hqueue, hsetup.hooks]

theorem dequeueStep {env : Env n} (hpaired : Paired flow.session.toSessionHooks)
    (hstep : dequeueStep env flow = some flow') : Balances a a flow flow' := by
  obtain ⟨skb, rest, tstats, counters, hqueue, ⟨-, rfl⟩ | ⟨-, -, rfl⟩⟩ := dequeueStep_cases hstep
  · refine of_release [.kfreeSkb skb] hpaired ?_ ?_ rfl ?_
    · simp [afterExpiry]
    · simp [refMove]
    · simp [afterExpiry, hqueue]
  · rw [afterDelivery_eq]
    refine of_release (skipEffects flow.session skb ++
      (if skb.cb.hasSeq then
        [.setNr (nrAtHead flow.session skb) (nrDelivered flow.session skb)] else []) ++
      [handOverEffect flow.session.toSessionHooks skb]) hpaired ?_ ?_ rfl ?_
    · simp
    · intro effect heffect
      unfold skipEffects at heffect
      simp only [List.mem_append, List.mem_singleton, List.mem_ite_nil_right] at heffect
      rcases heffect with (⟨-, rfl⟩ | ⟨-, rfl⟩) | rfl
      · rfl
      · rfl
      · exact refMove_handOverEffect _ _
    · simp [hqueue]

theorem l2tpRecvCommon (hpaired : Paired flow.session.toSessionHooks) (call : RecvCall n) :
    Balances a a flow (l2tpRecvCommon flow call) := by
  have henqueue : Balances a a flow (L2tp.recvEnqueue flow call).1 := recvEnqueue hpaired call
  unfold L2tp.l2tpRecvCommon
  cases hcall : L2tp.recvEnqueue flow call with
  | mk flow' queued =>
    rw [hcall] at henqueue
    cases queued with
    | false => exact henqueue
    | true =>
      refine drain_induction _ _ henqueue fun t t' ht hstep ↦ ht.trans (dequeueStep ?_ hstep)
      rw [ht.hooks]
      exact hpaired

theorem l2tpSessionQueuePurge (hpaired : Paired flow.session.toSessionHooks) (env : Env n) :
    Balances a a flow (l2tpSessionQueuePurge env flow) := by
  refine drain_induction _ _ (refl a flow) fun t t' ht hstep ↦ ht.trans ?_
  have hpaired' : Paired t.session.toSessionHooks := by
    rw [ht.hooks]
    exact hpaired
  obtain ⟨skb, rest, hqueue, rfl⟩ := purgeStep_eq_some hstep
  refine of_release [.kfreeSkb skb] hpaired' ?_ ?_ ?_ ?_
  · simp [recvDiscard]
  · simp [refMove]
  · simp [recvDiscard]
  · simp [recvDiscard, hqueue]

theorem sends (hsends : Sends flow flow') : Balances a a flow flow' := by
  obtain rfl | ⟨ns, packet, dstats, rfl | ⟨env, rfl⟩⟩ := hsends.sends
  · exact refl a flow'
  · refine of_quiet [.kfreeSkb packet] rfl ?_ rfl rfl
    simp [refMove]
  · refine of_quiet [.ipQueueXmit packet] rfl ?_ rfl rfl
    simp [refMove]

theorem sets (hsets : Sets flow flow') : Balances a a flow flow' := by
  obtain ⟨_, _, _, _, _, _, _, rfl⟩ := hsets
  exact of_quiet [] (by simp) (by simp) rfl rfl

/-- The reference that is held while a session is deleted is taken, -/
theorem ref (hpaired : Paired flow.session.toSessionHooks) : Balances 0 1 flow flow.ref := by
  refine ⟨⟨flow.session.refEffects, Flow.log_ref flow, ?_⟩, by simp⟩
  rw [hpaired.held_refEffects, Flow.session_ref, Nat.zero_mul, Nat.one_mul, Nat.add_zero]

/-- and given back. -/
theorem deref (hpaired : Paired flow.session.toSessionHooks) : Balances 1 0 flow flow.deref := by
  refine ⟨⟨flow.session.derefEffects, Flow.log_deref flow, ?_⟩, by simp⟩
  rw [Nat.one_mul, hpaired.held_derefEffects, Flow.session_deref, Nat.zero_mul, Nat.add_zero]

end Balances

theorem DataPath.balances {f : Flow n → Flow n} (hf : DataPath f) {flow : Flow n} (a : ℕ)
    (hpaired : Paired flow.session.toSessionHooks) : Balances a a flow (f flow) := by
  rcases hf.cases flow with ⟨call, heq⟩ | ⟨env, heq⟩ | hsends | hsets
  · rw [heq]
    exact .l2tpRecvCommon hpaired call
  · rw [heq]
    exact .l2tpSessionQueuePurge hpaired env
  · exact .sends hsends
  · exact .sets hsets

/-! ### Namespaces -/

/-- One, for the session that holds a reference on its own account. -/
def openCount (opened : Option ℕ) (i : ℕ) : ℕ := if opened = some i then 1 else 0

/-- The references that are held are those for the frames of sessions with a socket, and one more
for a session that is being deleted. -/
structure References (net : L2tpNet n) (opened : Option ℕ) : Prop where
  paired : ∀ (i : ℕ) (session : L2tpSession n), net.sessions[i]? = some session →
    Paired session.toSessionHooks
  held : ∀ (i : ℕ) (session : L2tpSession n), net.sessions[i]? = some session →
    held (moveOf refMove i) 0 net.log =
      some (framesHeld session + openCount opened i * sockRef session.toSessionHooks)
  known : ∀ entry ∈ net.log, entry.1 < net.sessions.length

namespace References

variable {net net' : L2tpNet n} {opened opened' : Option ℕ}

/-- Only the sessions and the log matter. -/
theorem congr (hrefs : References net opened) (hsessions : net'.sessions = net.sessions)
    (hlog : net'.log = net.log) : References net' opened := by
  refine ⟨?_, ?_, ?_⟩
  · rw [hsessions]
    exact hrefs.paired
  · rw [hsessions, hlog]
    exact hrefs.held
  · rw [hsessions, hlog]
    exact hrefs.known

theorem onFlow {hash : SessionHash} (hrefs : References net opened)
    (hwell : WellLinked hash net.tables) {i : ℕ} {f : Flow n → Flow n}
    (hf : ∀ flow, Paired flow.session.toSessionHooks →
      Balances (openCount opened i) (openCount opened' i) flow (f flow))
    (hothers : ∀ j, j ≠ i → openCount opened' j = openCount opened j) :
    References (net.onFlow i f) opened' := by
  unfold L2tpNet.onFlow
  cases hflow : net.flow i with
  | none =>
    refine ⟨hrefs.paired, fun j session hsession ↦ ?_, hrefs.known⟩
    rw [hothers, hrefs.held j session hsession]
    rintro rfl
    have hhoused := hwell.housed j session.entry (by simp [L2tpNet.tables, hsession])
    obtain ⟨tunnel, htunnel⟩ : ∃ tunnel, net.tunnels[session.tunnel]? = some tunnel := by
      simpa [L2tpNet.tables, L2tpSession.entry, Option.isSome_iff_exists] using hhoused
    simp [L2tpNet.flow, hsession, htunnel] at hflow
  | some flow =>
    obtain ⟨hsession, -, hempty⟩ := L2tpNet.flow_eq_some hflow
    have hbalances := hf flow (hrefs.paired i flow.session hsession)
    obtain ⟨effects, hlog, hheld⟩ := hbalances.effects
    rw [hempty, List.nil_append] at hlog
    have hlt : i < net.sessions.length := (List.getElem?_eq_some_iff.mp hsession).1
    refine ⟨fun j session hj ↦ ?_, fun j session hj ↦ ?_, fun entry hentry ↦ ?_⟩
    · dsimp only [L2tpNet.store] at hj
      rw [List.getElem?_set] at hj
      split_ifs at hj with hij
      · rw [← Option.some.inj hj, hbalances.hooks]
        exact hrefs.paired i flow.session hsession
      · exact hrefs.paired j session hj
    · dsimp only [L2tpNet.store] at hj ⊢
      rw [List.getElem?_set] at hj
      rw [hlog]
      split_ifs at hj with hij
      · subst hij
        rw [← Option.some.inj hj, held_own, hrefs.held i flow.session hsession, Option.bind_some,
          hheld, hbalances.hooks]
      · rw [held_other refMove hij, hrefs.held j session hj, hothers j (Ne.symm hij)]
    · dsimp only [L2tpNet.store] at hentry ⊢
      rw [List.length_set]
      rcases List.mem_append.mp hentry with hold | hnew
      · exact hrefs.known entry hold
      · obtain ⟨effect, -, rfl⟩ := List.mem_map.mp hnew
        exact hlt

/-- A change of a session that keeps the frames that count. -/
theorem onSession (hrefs : References net none) {i : ℕ} {change : L2tpSession n → L2tpSession n}
    (hchange : ∀ session, net.sessions[i]? = some session → Paired session.toSessionHooks →
      Paired (change session).toSessionHooks ∧ framesHeld (change session) = framesHeld session) :
    References (net.onSession i change) none := by
  have hcases : ∀ (j : ℕ) (session : L2tpSession n), (net.onSession i change).sessions[j]? =
      some session → ∃ before, net.sessions[j]? = some before ∧ Paired session.toSessionHooks ∧
        framesHeld session = framesHeld before := by
    intro j session hj
    dsimp only [L2tpNet.onSession] at hj
    rw [List.getElem?_modify, Option.map_eq_map, Option.map_eq_some_iff] at hj
    obtain ⟨before, hbefore, rfl⟩ := hj
    have hpaired := hrefs.paired j before hbefore
    split_ifs with hij
    · subst hij
      exact ⟨before, hbefore, hchange before hbefore hpaired⟩
    · exact ⟨before, hbefore, hpaired, rfl⟩
  refine ⟨fun j session hj ↦ ?_, fun j session hj ↦ ?_, ?_⟩
  · obtain ⟨before, -, hpaired, -⟩ := hcases j session hj
    exact hpaired
  · obtain ⟨before, hbefore, -, hframes⟩ := hcases j session hj
    have hheld := hrefs.held j before hbefore
    simpa [openCount, hframes, L2tpNet.onSession] using hheld
  · simpa [L2tpNet.onSession] using hrefs.known

theorem hlistDelInit (hrefs : References net opened) (i : ℕ) :
    References (hlistDelInit net i) opened := by
  unfold L2tp.hlistDelInit
  split
  · exact hrefs
  · exact hrefs.congr rfl rfl

theorem l2tpSessionUnhash (hrefs : References net opened) (i : ℕ) :
    References (l2tpSessionUnhash net i) opened :=
  (hrefs.hlistDelInit i).congr rfl rfl

/-- The deletion of a session takes a reference, empties the queue, and gives the reference back. -/
theorem l2tpSessionDelete {hash : SessionHash} (hrefs : References net none)
    (hwell : WellLinked hash net.tables) (env : Env n) (i : ℕ) :
    References (l2tpSessionDelete env net i) none := by
  have hopen : openCount none i = 0 ∧ openCount (some i) i = 1 := by simp [openCount]
  have hothers : ∀ j, j ≠ i → openCount (some i) j = openCount none j := by
    intro j hj
    simp [openCount, Ne.symm hj]
  have htaken : References (net.onFlow i Flow.ref) (some i) :=
    hrefs.onFlow hwell (by rw [hopen.1, hopen.2]; exact fun _ ↦ Balances.ref) hothers
  have hwell₁ : WellLinked hash (L2tp.l2tpSessionUnhash (net.onFlow i Flow.ref) i).tables := by
    rw [tables_l2tpSessionUnhash, tables_onFlow KeepsSetup.ref]
    exact hwell.unhash i
  have hpurged : References ((L2tp.l2tpSessionUnhash (net.onFlow i Flow.ref) i).onFlow i
      (L2tp.l2tpSessionQueuePurge env)) (some i) :=
    (htaken.l2tpSessionUnhash i).onFlow hwell₁
      (fun flow hpaired ↦ Balances.l2tpSessionQueuePurge hpaired env) fun _ _ ↦ rfl
  have hwell₂ : WellLinked hash ((L2tp.l2tpSessionUnhash (net.onFlow i Flow.ref) i).onFlow i
      (L2tp.l2tpSessionQueuePurge env)).tables := by
    rw [tables_onFlow (KeepsSetup.l2tpSessionQueuePurge env)]
    exact hwell₁
  exact hpurged.onFlow hwell₂ (by rw [hopen.1, hopen.2]; exact fun _ ↦ Balances.deref)
    fun j hj ↦ (hothers j hj).symm

theorem upkeep {hash : SessionHash} (hrefs : References net none)
    (hwell : WellLinked hash net.tables)
    (hupkeep : Upkeep net net') : References net' none := by
  cases hupkeep with
  | data _ i hf => exact hrefs.onFlow hwell (fun _ hpaired ↦ hf.balances _ hpaired) fun _ _ ↦ rfl
  | delete env _ i => exact hrefs.l2tpSessionDelete hwell env i
  | unlink _ i => exact hrefs.hlistDelInit i
  | unhash _ i => exact hrefs.l2tpSessionUnhash i
  | tunnelCreate _ version tunnelId peerTunnelId encap sk => exact hrefs.congr rfl rfl
  | tunnel _ t hchange => exact hrefs.congr rfl rfl
  | session _ i hchange =>
    refine hrefs.onSession fun session _ hpaired ↦ ⟨⟨?_, ?_⟩, ?_⟩
    · rw [hchange.ref, hchange.sock]
      exact hpaired.ref
    · rw [hchange.deref, hchange.sock]
      exact hpaired.deref
    · unfold framesHeld
      rw [hchange.sock, hchange.reorderQ]
  | socks _ socks => exact hrefs.congr rfl rfl
  | tunnelList _ tunnelList => exact hrefs.congr rfl rfl

/-- A new session has no frames, and there is nothing about it in the log. -/
theorem l2tpSessionCreate (hrefs : References net none) (hash : SessionHash) (t : ℕ)
    (tunnel : L2tpTunnel n) (sessionId peerSessionId : UInt32) (cfg : L2tpSessionCfg) :
    References (l2tpSessionCreate hash net t tunnel sessionId peerSessionId cfg) none := by
  obtain ⟨hdrLen, hnew⟩ := newSession_eq tunnel t sessionId peerSessionId cfg
  unfold L2tp.l2tpSessionCreate
  rw [hnew]
  refine ⟨fun i session hi ↦ ?_, fun i session hi ↦ ?_, fun entry hentry ↦ ?_⟩
  · rcases of_getElem?_concat hi with hold | ⟨-, rfl⟩
    · exact hrefs.paired i session hold
    · exact ⟨rfl, rfl⟩
  · rcases of_getElem?_concat hi with hold | ⟨rfl, rfl⟩
    · exact hrefs.held i session hold
    · have hnone : ∀ entry ∈ net.log, moveOf refMove net.sessions.length entry = .none := by
        intro entry hentry
        exact if_neg (Nat.ne_of_lt (hrefs.known entry hentry))
      exact held_of_none _ hnone 0
  · rw [List.length_append]
    exact Nat.lt_add_right 1 (hrefs.known entry hentry)

/-- A session without frames is connected. -/
theorem attachSocket (hrefs : References net none) {i : ℕ} (call : ConnectCall)
    (tunnelSock : Option ℕ)
    (hquiet : ∀ session, net.sessions[i]? = some session → session.reorderQ = []) :
    References (net.onSession i (attachSocket call tunnelSock)) none := by
  refine hrefs.onSession fun session hsession _ ↦ ⟨⟨rfl, rfl⟩, ?_⟩
  have hempty := hquiet session hsession
  simp [framesHeld, L2tp.attachSocket, hempty]

end References

/-! ### Runs -/

/-- A socket is connected to a session that has none only if no frames wait in the queue of the
session. -/
def connectsQuietSession (hash : SessionHash) (net : L2tpNet n) : NetEvent n → Bool
  | .connect call =>
    (call.address.bind fun address ↦ (l2tpTunnelFind net address.tunnelId).bind fun t ↦
      (l2tpSessionFind hash net (some t) address.sessionId).bind fun i ↦ net.sessions[i]?).all
        fun session ↦ session.ps.sock.isSome || session.reorderQ.isEmpty
  | _ => true

theorem ConnectsSession.quiet {hash : SessionHash} {net mid : L2tpNet n} {event : NetEvent n}
    {call : ConnectCall} {i : ℕ} {session : L2tpSession n}
    (hconnects : ConnectsSession hash net mid event call i session)
    (hquiet : connectsQuietSession hash net event = true) : session.reorderQ = [] := by
  obtain ⟨address, t, haddress, htunnel, hsession⟩ := hconnects.request
  rw [hconnects.isConnect] at hquiet
  simpa [connectsQuietSession, haddress, htunnel, hsession, hconnects.found,
    hconnects.sock] using hquiet

/-- The tables are in order and references follow frames. -/
structure Referenced (hash : SessionHash) (net : L2tpNet n) : Prop where
  linked : WellLinked hash net.tables
  refs : References net none

theorem Referenced.upkeeps {hash : SessionHash} {net net' : L2tpNet n} (hupkeeps : Upkeeps net net')
    (hstart : Referenced hash net) : Referenced hash net' := by
  refine Upkeeps.invariant (fun net net' hupkeep hreferenced ↦ ?_) hupkeeps hstart
  exact ⟨hupkeep.once.wellLinked hreferenced.linked,
    hreferenced.refs.upkeep hreferenced.linked hupkeep⟩

/-- References follow frames through every event under the condition. -/
theorem Referenced.netStep {hash : SessionHash} {net : L2tpNet n} {event : NetEvent n}
    (hreferenced : Referenced hash net) (hquiet : connectsQuietSession hash net event = true) :
    Referenced hash (netStep hash net event) := by
  cases netStep_transition hash net event with
  | upkeep hafter => exact upkeeps hafter hreferenced
  | create hcreates hafter =>
    have hmid := upkeeps hcreates.before hreferenced
    refine upkeeps hafter ⟨?_, hmid.refs.l2tpSessionCreate _ _ _ _ _ _⟩
    rw [tables_l2tpSessionCreate]
    exact hcreates.wellLinked hmid.linked
  | createConnected hcreates hafter =>
    have hmid := upkeeps hcreates.before hreferenced
    refine upkeeps hafter ⟨?_, ?_⟩
    · rw [tables_attachSocket, tables_l2tpSessionCreate]
      exact hcreates.wellLinked hmid.linked
    · refine (hmid.refs.l2tpSessionCreate _ _ _ _ _ _).attachSocket _ _ fun session hsession ↦ ?_
      dsimp only [l2tpSessionCreate] at hsession
      rw [List.getElem?_concat_length] at hsession
      obtain ⟨hdrLen, hnew⟩ := newSession_eq _ _ _ _ _
      rw [← Option.some.inj hsession, hnew]
  | connect hconnects hafter =>
    have hmid := upkeeps hconnects.before hreferenced
    refine upkeeps hafter ⟨?_, ?_⟩
    · rw [tables_attachSocket]
      exact hmid.linked
    · refine hmid.refs.attachSocket _ _ fun session hsession ↦ ?_
      rw [hconnects.sessions, hconnects.found] at hsession
      rw [← Option.some.inj hsession]
      exact hconnects.quiet hquiet

theorem referenced_emptyNet (hash : SessionHash) (n : ℕ) : Referenced hash (emptyNet n) where
  linked := wellLinked_emptyNet hash n
  refs := ⟨by simp [emptyNet], by simp [emptyNet], by simp [emptyNet]⟩

/-- The number of calls of `session->ref` that session `i` has made, according to a log. -/
def refCalls (log : List (ℕ × Effect)) (i : ℕ) : ℕ := log.countP (· = (i, .sockHold))

/-- The number of calls of `session->deref` that session `i` has made. -/
def derefCalls (log : List (ℕ × Effect)) (i : ℕ) : ℕ := log.countP (· = (i, .sockPut))

/-- References follow frames: for every session, and over all sessions, the references taken and not
given back are as many as there are frames in the queues of sessions with a socket; and at no time
has a session given back more references than it has taken. -/
structure FollowsFrames (net : L2tpNet n) : Prop where
  session : ∀ (i : ℕ) (session : L2tpSession n), net.sessions[i]? = some session →
    refCalls net.log i = derefCalls net.log i + framesHeld session
  total : net.log.countP (fun entry ↦ entry.2 = .sockHold) =
    net.log.countP (fun entry ↦ entry.2 = .sockPut) + (net.sessions.map framesHeld).sum
  taken : ∀ start, start <+: net.log → ∀ i, derefCalls start i ≤ refCalls start i

theorem refMove_eq_take (effect : Effect) : refMove effect = .take ↔ effect = .sockHold := by
  cases effect <;> simp [refMove]

theorem refMove_eq_give (effect : Effect) : refMove effect = .give ↔ effect = .sockPut := by
  cases effect <;> simp [refMove]

theorem countP_moveOf_take (log : List (ℕ × Effect)) (i : ℕ) :
    log.countP (fun entry ↦ moveOf refMove i entry = .take) = refCalls log i := by
  refine List.countP_congr fun entry _ ↦ ?_
  obtain ⟨owner, effect⟩ := entry
  by_cases howner : owner = i
  · simp [moveOf, howner, refMove_eq_take]
  · simp [moveOf, howner]

theorem countP_moveOf_give (log : List (ℕ × Effect)) (i : ℕ) :
    log.countP (fun entry ↦ moveOf refMove i entry = .give) = derefCalls log i := by
  refine List.countP_congr fun entry _ ↦ ?_
  obtain ⟨owner, effect⟩ := entry
  by_cases howner : owner = i
  · simp [moveOf, howner, refMove_eq_give]
  · simp [moveOf, howner]

theorem References.followsFrames {net : L2tpNet n} (hrefs : References net none) :
    FollowsFrames net := by
  have hsession : ∀ (i : ℕ) (session : L2tpSession n), net.sessions[i]? = some session →
      refCalls net.log i = derefCalls net.log i + framesHeld session := by
    intro i session hi
    have hcount := count_of_held (hrefs.held i session hi)
    rw [countP_moveOf_take, countP_moveOf_give] at hcount
    simp only [openCount, reduceCtorEq, if_false, Nat.zero_mul, Nat.add_zero] at hcount
    omega
  refine ⟨hsession, ?_, fun start hstart i ↦ ?_⟩
  · have htake : Move.take ≠ .none := by simp
    have hgive : Move.give ≠ .none := by simp
    have htakes := sum_countP_moveOf refMove hrefs.known htake
    have hgives := sum_countP_moveOf refMove hrefs.known hgive
    simp only [countP_moveOf_take, countP_moveOf_give, refMove_eq_take, refMove_eq_give]
      at htakes hgives
    rw [← htakes, ← hgives, ← Fin.sum_univ_fun_getElem, Finset.sum_range, Finset.sum_range,
      ← Finset.sum_add_distrib]
    exact Finset.sum_congr rfl fun i _ ↦ hsession i _ (List.getElem?_eq_getElem i.isLt)
  · have hgiven : ∀ start, start <+: net.log → (∃ session, net.sessions[i]? = some session) →
        derefCalls start i ≤ refCalls start i := by
      rintro start hstart ⟨session, hi⟩
      have hcount := count_le_of_held (hrefs.held i session hi) hstart
      rw [countP_moveOf_take, countP_moveOf_give] at hcount
      omega
    cases hi : net.sessions[i]? with
    | some session => exact hgiven start hstart ⟨session, hi⟩
    | none =>
      have hzero : derefCalls start i = 0 := by
        refine List.countP_eq_zero.mpr fun entry hentry ↦ ?_
        have hknown := hrefs.known entry (hstart.subset hentry)
        rw [List.getElem?_eq_none_iff] at hi
        simp only [decide_eq_true_eq]
        rintro rfl
        omega
      omega

/-- Socket references follow queued frames. Assumes: a run from an empty namespace, of any events,
in which a socket is connected to an existing session only if the queue of the session is empty. -/
theorem references_follow_frames {hash : SessionHash} {events : List (NetEvent n)}
    (hquiet : Along (netStep hash) (fun net event ↦ connectsQuietSession hash net event = true)
      (emptyNet n) events) : FollowsFrames (netRun hash (emptyNet n) events) := by
  have hstep : ∀ (net : L2tpNet n) (event : NetEvent n), Referenced hash net →
      connectsQuietSession hash net event = true → Referenced hash (netStep hash net event) :=
    fun _ _ hreferenced hcondition ↦ hreferenced.netStep hcondition
  have hreferenced : Referenced hash (netRun hash (emptyNet n) events) :=
    hquiet.invariant hstep (referenced_emptyNet hash n)
  exact hreferenced.refs.followsFrames

/-- A PPP session over L2TPv3 and IP is created through netlink, and later a socket is connected to
it. Frames come before and after. -/
def connectedLater (early late : List (RecvCall 1)) : List (NetEvent 1) :=
  [.tunnelCreate (ipTunnelRequest 1 0),
    .sessionCreate { env := (sequencedCall cpu0 0 0 0).env }
      { connId := some 1, sessionId := some 1, peerSessionId := some 1, pwType := some 7,
        recvTimeout := some 50 }] ++
    early.map (fun call ↦ .ipRecv call.env call.skb) ++
    [.socket,
      .connect { sock := 0, address := some (.v3 1 1 1 1), tunnelSocket := { sk := .ok 0 } }] ++
    late.map fun call ↦ .ipRecv call.env call.skb

/-- Two frames, of which the second has to wait. -/
def waitingFrames : List (RecvCall 1) := [sequencedCall cpu0 1000 0 0, sequencedCall cpu0 1001 1 5]

theorem references_follow_frames_connectedLater :
    (Along (netStep lowBits) (fun net event ↦ connectsQuietSession lowBits net event = true)
        (emptyNet 1) (connectedLater [] waitingFrames)) ∧
      refCalls (netRun lowBits (emptyNet 1) (connectedLater [] waitingFrames)).log 0 = 2 ∧
      derefCalls (netRun lowBits (emptyNet 1) (connectedLater [] waitingFrames)).log 0 = 1 ∧
      FollowsFrames (netRun lowBits (emptyNet 1) (connectedLater [] waitingFrames)) :=
  have hquiet : Along (netStep lowBits)
      (fun net event ↦ connectsQuietSession lowBits net event = true) (emptyNet 1)
      (connectedLater [] waitingFrames) := by decide
  ⟨hquiet, by decide, by decide, references_follow_frames hquiet⟩

/-- The second frame waits when the socket is connected. When the socket is released, its reference
goes back, which nobody has taken. -/
theorem not_followsFrames_earlyFrame :
    refCalls (netRun lowBits (emptyNet 1) (connectedLater waitingFrames [] ++
        [.release (sequencedCall 0 0 0 0).env 0])).log 0 = 0 ∧
      derefCalls (netRun lowBits (emptyNet 1) (connectedLater waitingFrames [] ++
        [.release (sequencedCall 0 0 0 0).env 0])).log 0 = 1 ∧
      ¬ FollowsFrames (netRun lowBits (emptyNet 1) (connectedLater waitingFrames [] ++
        [.release (sequencedCall 0 0 0 0).env 0])) := by
  refine ⟨by decide, by decide, fun hfollows ↦ ?_⟩
  exact absurd (hfollows.taken _ (List.prefix_refl _) 0) (by decide)

end KernelModules.L2tp
