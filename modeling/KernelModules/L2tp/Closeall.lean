import KernelModules.L2tp.TunnelLifetimes

/-!
# Closing the sessions of a tunnel

`l2tp_tunnel_closeall` with the callbacks of the sessions. It goes through the sixteen chains of the
tunnel, and as long as there is a session at the head of a chain it takes it off, gives up the lock,
unhashes the session, purges its queue, calls `session_close`, drops the reference of the creation,
and starts over with the chain. In the meantime the callbacks may unhash or delete other sessions.

A callback is any function on the namespace and its counters that keeps what the code relies on
(`Covered`): the tables list the sessions in them, and every pointer from a session to its tunnel
has a reference to the tunnel and to the socket behind it. Such a callback may take sessions out of
the tables, not put any in (`Removes`); to delete another session is one of the things it may do
(`removes_deleteOther`). `session->ref` is called with `hlist_lock` held, and so has to leave the
tables alone (`Waits`): a function that changes them takes the lock.

With such callbacks the loops come to their end and no lock is taken twice. Afterwards the tables of
the tunnel are empty, there is none of its sessions in the table of the namespace, and every session
the function has taken off has been purged, closed and released once: its queue is empty, and apart
from what the callbacks have done to it its count is lower by one (`closeall_closes_once`).
-/

set_option autoImplicit false
set_option relaxedAutoImplicit false

namespace KernelModules.L2tp

open Foundations

variable {n : ℕ}

/-! ### The function and its callbacks -/

namespace Lifetimes

/-- How many sessions point to a tunnel. -/
def pointers (st : Lifetimes n) (t : ℕ) : ℕ :=
  refs st.sessionTunnel (Finset.range st.net.sessions.length) t

/-- The references to a tunnel besides those of its sessions and of its socket. -/
def surplus (st : Lifetimes n) (t : ℕ) : ℤ :=
  st.tunnelRefs t - (st.pointers t + (st.sockOf t).isSome.toNat : ℕ)

end Lifetimes

/-- What `session->ref`, `session->session_close` or `session->deref` does when it is called. -/
abbrev Callback (n : ℕ) := Lifetimes n → Except Fault (Lifetimes n)

/-- The callbacks of the sessions. A null pointer is `none`. -/
structure Callbacks (n : ℕ) where
  ref : ℕ → Option (Callback n)
  sessionClose : ℕ → Option (Callback n)
  deref : ℕ → Option (Callback n)

/-- What `l2tp_tunnel_closeall` does with a session: take it off its chain, purge its queue, call
`session_close`, and drop a reference of those there are. -/
inductive CloseCall
  | remove (i : ℕ)
  | purge (i : ℕ)
  | sessionClose (i : ℕ)
  | decRefcount (i : ℕ) (refCount : ℤ)
  deriving DecidableEq, Repr

/-- What stops the function. -/
inductive CloseFault
  /-- `hlist_lock` is taken by who holds it. -/
  | deadlock
  | fault (fault : Fault)
  deriving DecidableEq, Repr

/-- A namespace while the sessions of a tunnel are being closed: whether `hlist_lock` of the tunnel
is held, what has been done, and by how much the callbacks have raised the count of each session and
the surplus of each tunnel. -/
structure CloseState (n : ℕ) where
  life : Lifetimes n
  hlistLock : Bool := false
  calls : List CloseCall := []
  raised : ℕ → ℤ := 0
  raisedSurplus : ℕ → ℤ := 0

/-- The length of `session->reorder_q`. -/
def L2tpNet.queueLen (net : L2tpNet n) (i : ℕ) : ℕ :=
  (net.sessions[i]?.map (·.reorderQ.length)).getD 0

namespace CloseState

/-- Run a function on the namespace and its counters. -/
def run (s : CloseState n) (f : Callback n) : Except CloseFault (CloseState n) :=
  match f s.life with
  | .error fault => .error (.fault fault)
  | .ok life => .ok { s with life }

/-- Change the namespace. -/
def onNet (s : CloseState n) (f : L2tpNet n → L2tpNet n) : CloseState n :=
  { s with life := { s.life with net := f s.life.net } }

/-- A callback has returned. -/
def returned (s : CloseState n) (life : Lifetimes n) : CloseState n :=
  { s with
    life
    raised := s.raised + (life.sessionRefs - s.life.sessionRefs)
    raisedSurplus := s.raisedSurplus + (life.surplus - s.life.surplus) }

/-- Call a callback, if there is one. -/
def call (s : CloseState n) : Option (Callback n) → Except CloseFault (CloseState n)
  | none => .ok s
  | some f =>
    match f s.life with
    | .error fault => .error (.fault fault)
    | .ok life => .ok (s.returned life)

/-- Note what is done. -/
def note (s : CloseState n) (call : CloseCall) : CloseState n :=
  { s with calls := s.calls ++ [call] }

/-- `write_lock_bh(&tunnel->hlist_lock)`. -/
def writeLockBh (s : CloseState n) : Except CloseFault (CloseState n) :=
  if s.hlistLock then .error .deadlock else .ok { s with hlistLock := true }

/-- `write_unlock_bh(&tunnel->hlist_lock)`. -/
def writeUnlockBh (s : CloseState n) : CloseState n := { s with hlistLock := false }

/-- `__l2tp_session_unhash`. -/
def l2tpSessionUnhash (s : CloseState n) (i : ℕ) : Except CloseFault (CloseState n) :=
  match s.life.sessionTunnel i with
  | none => .ok s
  | some _ => do
    let s ← s.writeLockBh
    .ok (s.onNet (L2tp.l2tpSessionUnhash · i)).writeUnlockBh

/-- One turn of the loop in `l2tp_session_queue_purge`. -/
def purgeTurn (env : Env n) (callbacks : Callbacks n) (i : ℕ) (s : CloseState n) :
    Option (Except CloseFault (CloseState n)) :=
  ((s.life.net.flow i).bind (purgeStep env)).map fun flow ↦
    (s.onNet (·.store i flow)).call (callbacks.deref i)

/-- `l2tp_session_queue_purge`. -/
def l2tpSessionQueuePurge (env : Env n) (callbacks : Callbacks n) (s : CloseState n) (i : ℕ) :
    Except CloseFault (CloseState n) :=
  drainM (purgeTurn env callbacks i) (s.life.net.queueLen i) (s.note (.purge i))

/-- The call of `session->session_close`. -/
def sessionClose (callbacks : Callbacks n) (s : CloseState n) (i : ℕ) :
    Except CloseFault (CloseState n) :=
  match callbacks.sessionClose i with
  | none => .ok s
  | some f => (s.note (.sessionClose i)).call (some f)

/-- `l2tp_session_dec_refcount`. -/
def l2tpSessionDecRefcount (env : Env n) (s : CloseState n) (i : ℕ) :
    Except CloseFault (CloseState n) :=
  (s.note (.decRefcount i (s.life.sessionRefs i))).run fun st ↦
    st.l2tpSessionDecRefcount (st.destructor env) i

/-- A session leaves the tables: first its chain, with `hlist_lock` held, and then, without it, also
the table of the namespace. -/
def takeOff (callbacks : Callbacks n) (s : CloseState n) (i : ℕ) :
    Except CloseFault (CloseState n) := do
  let s := (s.note (.remove i)).onNet (hlistDelInit · i)
  let s ← (s.onNet (·.onFlow i Flow.ref)).call (callbacks.ref i)
  s.writeUnlockBh.l2tpSessionUnhash i

/-- What the loop over a chain does with the session at its head. -/
def closeSession (env : Env n) (callbacks : Callbacks n) (s : CloseState n) (i : ℕ) :
    Except CloseFault (CloseState n) := do
  let s ← s.takeOff callbacks i
  let s ← s.l2tpSessionQueuePurge env callbacks i
  let s ← s.sessionClose callbacks i
  let s ← (s.onNet (·.onFlow i Flow.deref)).call (callbacks.deref i)
  let s ← s.l2tpSessionDecRefcount env i
  s.writeLockBh

/-- One turn of the loop over a chain, from `again` to the jump back. -/
def closeTurn (env : Env n) (callbacks : Callbacks n) (t : ℕ) (bucket : Fin 16)
    (s : CloseState n) : Option (Except CloseFault (CloseState n)) :=
  match s.life.net.chain t bucket with
  | [] => none
  | i :: _ => some (s.closeSession env callbacks i)

/-- `l2tp_tunnel_closeall`. -/
def l2tpTunnelCloseall (env : Env n) (callbacks : Callbacks n) (s : CloseState n) (t : ℕ) :
    Except CloseFault (CloseState n) := do
  let s ← s.writeLockBh
  let s ← (List.finRange 16).foldlM (fun s bucket ↦
    drainM (closeTurn env callbacks t bucket) (s.life.net.chain t bucket).length s) s
  .ok s.writeUnlockBh

end CloseState

/-! ### What the callbacks keep -/

namespace Lifetimes

/-- Every pointer from a session to its tunnel is counted, by the tunnel and by its socket. -/
structure Counted (st : Lifetimes n) : Prop where
  known : ∀ i t, st.sessionTunnel i = some t → i < st.net.sessions.length
  alive : ∀ i t, st.sessionTunnel i = some t → 0 < st.sessionRefs i
  tunnel : ∀ t < st.net.tunnels.length,
    (st.pointers t + (st.sockOf t).isSome.toNat : ℕ) ≤ st.tunnelRefs t
  opened : ∀ t sk, st.sockOf t = some sk →
    st.skUserData sk = some t ∧ st.pointers t ≤ st.skRefcnt sk
  closed : ∀ t, st.sockOf t = none → st.pointers t = 0

/-- The tables list the sessions in `live`, these point to their tunnels, and every pointer is
counted. -/
structure Covered (hash : SessionHash) (st : Lifetimes n) (live : Finset ℕ) : Prop
    extends Counted st where
  tabulates : Tabulates hash st.net.tables live
  session : ∀ i ∈ live, st.sessionTunnel i = st.owner i

end Lifetimes

open Lifetimes

/-- What a callback of session `i` may do while `hlist_lock` is free: take sessions out of the
tables. Its own session is no longer in them and keeps its tunnel, and no session that is not in the
tables gets new frames. -/
def Callback.Removes (hash : SessionHash) (i : ℕ) (f : Callback n) : Prop :=
  ∀ st live, Covered hash st live → i ∉ live → Yields (f st) fun st' ↦
    ∃ left ⊆ live, Covered hash st' left ∧ st'.net.tables.sessions = st.net.tables.sessions ∧
      st'.sessionTunnel i = st.sessionTunnel i ∧
        ∀ k ∉ live, st'.net.queueLen k ≤ st.net.queueLen k

/-- What a callback may do while `hlist_lock` is held: anything that does not touch the tables and
what they list, and gives no session new frames. -/
def Callback.Waits (f : Callback n) : Prop :=
  ∀ st, Counted st → Yields (f st) fun st' ↦
    Counted st' ∧ st'.net.tables = st.net.tables ∧ st'.sessionTunnel = st.sessionTunnel ∧
      ∀ k, st'.net.queueLen k ≤ st.net.queueLen k

/-- The callbacks add no sessions, but may unhash or delete other sessions than their own. -/
structure Callbacks.Allowed (hash : SessionHash) (callbacks : Callbacks n) : Prop where
  ref : ∀ i, ∀ f ∈ callbacks.ref i, f.Waits
  sessionClose : ∀ i, ∀ f ∈ callbacks.sessionClose i, f.Removes hash i
  deref : ∀ i, ∀ f ∈ callbacks.deref i, f.Removes hash i

/-! ### Dropping a reference to a session -/

namespace Lifetimes

section

variable {hash : SessionHash} {st : Lifetimes n} {live : Finset ℕ} {i t sk : ℕ}

/-- A session that forgets its tunnel no longer points to it. -/
theorem refs_forget {holders : Finset ℕ} (hi : i ∈ holders) (hpoints : st.sessionTunnel i = some t)
    (t' : ℕ) : refs st.sessionTunnel holders t' =
      refs (Function.update st.sessionTunnel i none) holders t' + if t = t' then 1 else 0 := by
  have hothers : refs (Function.update st.sessionTunnel i none) (holders.erase i) t' =
      refs st.sessionTunnel (holders.erase i) t' := by
    apply refs_congr
    intro j hj
    exact Function.update_of_ne (Finset.ne_of_mem_erase hj) _ _
  have hself : refs (Function.update st.sessionTunnel i none) holders t' =
      refs (Function.update st.sessionTunnel i none) (holders.erase i) t' := by
    rw [refs_erase hi, Function.update_self, if_neg (Option.some_ne_none t').symm, Nat.add_zero]
  rw [refs_erase hi, hself, hothers, hpoints]
  simp only [Option.some.injEq]

theorem pointers_withNet {net' : L2tpNet n}
    (hsessions : net'.sessions.length = st.net.sessions.length) :
    ({ st with net := net' } : Lifetimes n).pointers = st.pointers := by
  funext t
  unfold pointers
  rw [hsessions]

theorem surplus_withNet {net' : L2tpNet n}
    (hsessions : net'.sessions.length = st.net.sessions.length)
    (hsocks : net'.tunnelSocks = st.net.tunnelSocks) :
    ({ st with net := net' } : Lifetimes n).surplus = st.surplus := by
  have hsock : ({ st with net := net' } : Lifetimes n).sockOf = st.sockOf := sockOf_congr hsocks
  funext t
  unfold surplus
  rw [pointers_withNet hsessions, hsock]

namespace Counted

/-- Nothing but the namespace changes, and that not in what is counted. -/
theorem withNet (hcounted : Counted st) {net' : L2tpNet n}
    (hsessions : net'.sessions.length = st.net.sessions.length)
    (hsocks : net'.tunnelSocks = st.net.tunnelSocks) : Counted { st with net := net' } := by
  have hsock : ({ st with net := net' } : Lifetimes n).sockOf = st.sockOf := sockOf_congr hsocks
  have hpointers : ({ st with net := net' } : Lifetimes n).pointers = st.pointers :=
    pointers_withNet hsessions
  have htunnels : net'.tunnels.length = st.net.tunnels.length := by
    simpa [L2tpNet.tunnelSocks] using congrArg List.length hsocks
  refine ⟨fun j t hj ↦ ?_, hcounted.alive, fun t ht ↦ ?_, fun t sk hsk ↦ ?_, fun t hnone ↦ ?_⟩
  · rw [hsessions]
    exact hcounted.known j t hj
  · rw [hpointers, hsock]
    exact hcounted.tunnel t (htunnels ▸ ht)
  · rw [hsock] at hsk
    rw [hpointers]
    exact hcounted.opened t sk hsk
  · rw [hsock] at hnone
    rw [hpointers]
    exact hcounted.closed t hnone

/-- A session that points to a tunnel is one of its pointers. -/
theorem pointers_pos (hcounted : Counted st) (hpoints : st.sessionTunnel i = some t) :
    0 < st.pointers t := by
  rw [Nat.pos_iff_ne_zero]
  intro hzero
  exact refs_eq_zero_iff.mp hzero i (Finset.mem_range.mpr (hcounted.known i t hpoints)) hpoints

/-- A session that points to a tunnel finds the socket of the tunnel. -/
theorem sockOf_of_pointer (hcounted : Counted st) (hpoints : st.sessionTunnel i = some t) :
    ∃ sk, st.sockOf t = some sk := by
  cases hsk : st.sockOf t with
  | none =>
    have hzero := hcounted.closed t hsk
    have hpos := hcounted.pointers_pos hpoints
    omega
  | some sk => exact ⟨sk, rfl⟩

theorem sockOf_inj (hcounted : Counted st) {t' : ℕ} (hsk : st.sockOf t = some sk)
    (hsk' : st.sockOf t' = some sk) : t = t' := by
  have hdata := (hcounted.opened t sk hsk).1
  rw [(hcounted.opened t' sk hsk').1, Option.some.injEq] at hdata
  exact hdata.symm

end Counted

/-- The last pointer to a tunnel is that of a session which is in no table: the tables of the tunnel
are empty. -/
theorem Covered.chain_eq_nil (hcovered : Covered hash st live) (hi : i ∉ live)
    (hpoints : st.sessionTunnel i = some t) (hlast : st.pointers t = 1) (bucket : Fin 16) :
    st.net.chain t bucket = [] := by
  rw [List.eq_nil_iff_forall_not_mem]
  intro j hj
  obtain ⟨-, sessionId, -, hmember, -⟩ := (mem_chain_iff hcovered.tabulates).mp hj
  obtain ⟨hmem, hentry⟩ := Tables.tunnelMember_eq_some_iff.mp hmember
  have hne : j ≠ i := by
    rintro rfl
    exact hi hmem
  have hpoints' : st.sessionTunnel j = some t := by
    rw [hcovered.session j hmem, owner_eq, hentry]
    rfl
  have hforget := refs_forget (Finset.mem_range.mpr (hcovered.known i t hpoints)) hpoints t
  rw [if_pos rfl] at hforget
  have hzero : refs (Function.update st.sessionTunnel i none)
      (Finset.range st.net.sessions.length) t = 0 := by
    unfold pointers at hlast
    omega
  apply refs_eq_zero_iff.mp hzero j (Finset.mem_range.mpr (hcovered.known j t hpoints'))
  rw [Function.update_of_ne hne, hpoints']

/-- What is left when session `i` has been freed, which held the socket `sk` of tunnel `t`. If it
was the last to hold it, the tunnel may have lost its socket, and with it one more reference. -/
structure Forgets (st st' : Lifetimes n) (i t sk : ℕ) (lost : Bool) : Prop where
  last : lost = true → st.pointers t = 1
  tables : st'.net.tables = st.net.tables
  session : st'.sessionTunnel = Function.update st.sessionTunnel i none
  sessions : st'.net.sessions = st.net.sessions
  sessionRefs : ∀ j, st'.sessionRefs j = st.sessionRefs j - if j = i then 1 else 0
  sock : ∀ t', st'.sockOf t' = if lost = true ∧ t' = t then none else st.sockOf t'
  data : ∀ sk', (sk' = sk → lost = false) → st'.skUserData sk' = st.skUserData sk'
  skRefs : ∀ sk', st'.skRefcnt sk' = st.skRefcnt sk' - if sk' = sk then 1 else 0
  tunnelRefs : ∀ t', st'.tunnelRefs t' =
    st.tunnelRefs t' - if t' = t then (1 + lost.toNat : ℤ) else 0

/-- A counter is lowered by one. -/
theorem update_dec (counts : ℕ → ℤ) (k x : ℕ) :
    Function.update counts k (counts k + -1) x = counts x - if x = k then 1 else 0 := by
  by_cases heq : x = k
  · rw [heq, Function.update_self, if_pos rfl]
    omega
  · rw [Function.update_of_ne heq, if_neg heq, sub_zero]

namespace Forgets

variable {st' : Lifetimes n} {lost : Bool}

theorem length_sessions (hforgets : Forgets st st' i t sk lost) :
    st'.net.sessions.length = st.net.sessions.length := by
  simpa [L2tpNet.tables] using congrArg (fun tables ↦ tables.sessions.length) hforgets.tables

theorem length_tunnels (hforgets : Forgets st st' i t sk lost) :
    st'.net.tunnels.length = st.net.tunnels.length := by
  simpa [L2tpNet.tables] using congrArg (fun tables ↦ tables.tunnels.length) hforgets.tables

/-- The tunnel has one pointer less. -/
theorem pointers (hforgets : Forgets st st' i t sk lost) (hcounted : Counted st)
    (hpoints : st.sessionTunnel i = some t) (t' : ℕ) :
    st.pointers t' = st'.pointers t' + if t = t' then 1 else 0 := by
  unfold Lifetimes.pointers
  rw [hforgets.session, hforgets.length_sessions]
  exact refs_forget (Finset.mem_range.mpr (hcounted.known i t hpoints)) hpoints t'

/-- The other sessions point to where they did. -/
theorem of_points (hforgets : Forgets st st' i t sk lost) {j t' : ℕ}
    (hj : st'.sessionTunnel j = some t') : j ≠ i ∧ st.sessionTunnel j = some t' := by
  rw [hforgets.session] at hj
  by_cases hji : j = i
  · rw [hji, Function.update_self] at hj
    exact absurd hj (Option.some_ne_none t').symm
  · rw [Function.update_of_ne hji] at hj
    exact ⟨hji, hj⟩

/-- The references to a tunnel still cover its pointers and its socket. -/
theorem tunnel_le (hforgets : Forgets st st' i t sk lost) (hcounted : Counted st)
    (hpoints : st.sessionTunnel i = some t) (hsk : st.sockOf t = some sk) {t' : ℕ}
    (ht' : t' < st.net.tunnels.length) :
    (st'.pointers t' + (st'.sockOf t').isSome.toNat : ℕ) ≤ st'.tunnelRefs t' := by
  have hbefore := hcounted.tunnel t' ht'
  have hpointers := hforgets.pointers hcounted hpoints t'
  rw [hforgets.tunnelRefs, hforgets.sock]
  by_cases heq : t' = t
  · subst heq
    rw [hsk, Option.isSome_some, Bool.toNat_true] at hbefore
    rw [if_pos rfl] at hpointers
    rw [if_pos rfl]
    cases lost with
    | false =>
      rw [if_neg fun hgone ↦ absurd hgone.1 Bool.false_ne_true, hsk]
      simp only [Option.isSome_some, Bool.toNat_true, Bool.toNat_false]
      omega
    | true =>
      rw [if_pos ⟨rfl, rfl⟩]
      simp only [Option.isSome_none, Bool.toNat_true, Bool.toNat_false]
      omega
  · simp only [heq, and_false, if_false, sub_zero]
    rw [if_neg (Ne.symm heq), Nat.add_zero] at hpointers
    rw [← hpointers]
    exact hbefore

/-- The references to a socket that is left still cover the pointers to its tunnel. -/
theorem opened (hforgets : Forgets st st' i t sk lost) (hcounted : Counted st)
    (hpoints : st.sessionTunnel i = some t) (hsk : st.sockOf t = some sk) {t' sk' : ℕ}
    (hsk' : st'.sockOf t' = some sk') :
    st'.skUserData sk' = some t' ∧ st'.pointers t' ≤ st'.skRefcnt sk' := by
  rw [hforgets.sock] at hsk'
  by_cases hgone : lost = true ∧ t' = t
  · rw [if_pos hgone] at hsk'
    exact absurd hsk' (Option.some_ne_none sk').symm
  · rw [if_neg hgone] at hsk'
    obtain ⟨hdata', hcount⟩ := hcounted.opened t' sk' hsk'
    have hpointers := hforgets.pointers hcounted hpoints t'
    rw [hforgets.skRefs]
    by_cases heq : sk' = sk
    · obtain rfl : t' = t := hcounted.sockOf_inj (heq ▸ hsk') hsk
      refine ⟨(hforgets.data sk' fun _ ↦ ?_).trans hdata', ?_⟩
      · simpa using hgone
      · rw [if_pos rfl] at hpointers
        rw [if_pos heq]
        omega
    · refine ⟨(hforgets.data sk' fun hsame ↦ absurd hsame heq).trans hdata', ?_⟩
      rw [if_neg heq]
      omega

/-- No session points to a tunnel without a socket. -/
theorem closed (hforgets : Forgets st st' i t sk lost) (hcounted : Counted st)
    (hpoints : st.sessionTunnel i = some t) {t' : ℕ} (hnone : st'.sockOf t' = none) :
    st'.pointers t' = 0 := by
  have hpointers := hforgets.pointers hcounted hpoints t'
  rw [hforgets.sock] at hnone
  by_cases hgone : lost = true ∧ t' = t
  · have hone := hforgets.last hgone.1
    rw [if_pos hgone.2.symm] at hpointers
    rw [← hgone.2] at hone
    omega
  · rw [if_neg hgone] at hnone
    have hzero := hcounted.closed t' hnone
    omega

/-- The pointers that are left are counted. -/
theorem counted (hforgets : Forgets st st' i t sk lost) (hcounted : Counted st)
    (hpoints : st.sessionTunnel i = some t) (hsk : st.sockOf t = some sk) : Counted st' where
  known := fun j t' hj ↦ hforgets.length_sessions ▸ hcounted.known j t' (hforgets.of_points hj).2
  alive := by
    intro j t' hj
    obtain ⟨hji, hj⟩ := hforgets.of_points hj
    rw [hforgets.sessionRefs, if_neg hji, sub_zero]
    exact hcounted.alive j t' hj
  tunnel := fun _ ht' ↦
    hforgets.tunnel_le hcounted hpoints hsk (hforgets.length_tunnels ▸ ht')
  opened := fun _ _ ↦ hforgets.opened hcounted hpoints hsk
  closed := fun _ ↦ hforgets.closed hcounted hpoints

end Forgets

/-- The references besides those of the sessions and of the socket are as they were: the session has
given back its own, and the socket, if it has gone, its own. -/
theorem Forgets.surplus {st' : Lifetimes n} {lost : Bool} (hforgets : Forgets st st' i t sk lost)
    (hcounted : Counted st) (hpoints : st.sessionTunnel i = some t) (hsk : st.sockOf t = some sk) :
    st'.surplus = st.surplus := by
  funext t'
  have hpointers := hforgets.pointers hcounted hpoints t'
  unfold Lifetimes.surplus
  rw [hforgets.tunnelRefs, hforgets.sock]
  by_cases heq : t' = t
  · subst heq
    rw [if_pos rfl] at hpointers
    rw [if_pos rfl, hsk]
    cases lost with
    | false =>
      rw [if_neg fun hgone ↦ absurd hgone.1 Bool.false_ne_true]
      simp only [Option.isSome_some, Bool.toNat_true, Bool.toNat_false]
      omega
    | true =>
      rw [if_pos ⟨rfl, rfl⟩]
      simp only [Option.isSome_none, Option.isSome_some, Bool.toNat_true, Bool.toNat_false]
      omega
  · rw [if_neg (Ne.symm heq), Nat.add_zero] at hpointers
    simp only [heq, and_false, if_false, sub_zero, hpointers]

/-- What is left when a reference to session `i` has been dropped: its count is lower by one, and if
that was the last reference, the session has given back those it held. -/
structure Dropped (hash : SessionHash) (live : Finset ℕ) (i : ℕ) (st st' : Lifetimes n) : Prop where
  covered : Covered hash st' live
  tables : st'.net.tables = st.net.tables
  sessions : st'.net.sessions = st.net.sessions
  others : ∀ j, j ≠ i → st'.sessionTunnel j = st.sessionTunnel j
  sessionRefs : ∀ j, st'.sessionRefs j = st.sessionRefs j - if j = i then 1 else 0
  surplus : st'.surplus = st.surplus

/-- A session that is in no table can be freed. -/
theorem Covered.forget (hcovered : Covered hash st live) (hi : i ∉ live)
    (hpoints : st.sessionTunnel i = some t) (hsk : st.sockOf t = some sk) {st' : Lifetimes n}
    {lost : Bool} (hforgets : Forgets st st' i t sk lost) : Dropped hash live i st st' where
  covered :=
    { toCounted := hforgets.counted hcovered.toCounted hpoints hsk
      tabulates := hforgets.tables ▸ hcovered.tabulates
      session := by
        intro j hj
        have hji : j ≠ i := by
          rintro rfl
          exact hi hj
        rw [hforgets.session, Function.update_of_ne hji, hcovered.session j hj, owner_eq, owner_eq,
          hforgets.tables] }
  tables := hforgets.tables
  sessions := hforgets.sessions
  others := fun j hj ↦ by rw [hforgets.session, Function.update_of_ne hj]
  sessionRefs := hforgets.sessionRefs
  surplus := hforgets.surplus hcovered.toCounted hpoints hsk

/-- Nothing is done with empty tables. -/
theorem l2tpTunnelCloseall_of_empty (env : Env n) (destruct : Destructor n)
    (hempty : ∀ bucket, st.net.chain t bucket = []) :
    st.l2tpTunnelCloseall env destruct t = .ok st := by
  unfold l2tpTunnelCloseall
  induction List.finRange 16 with
  | nil => rfl
  | cons bucket buckets ih =>
    rw [List.foldlM_cons, hempty bucket, List.length_nil]
    exact ih

/-- The socket that loses its last reference takes nothing from the tunnel but itself. -/
theorem Covered.l2tpTunnelDestruct (hcovered : Covered hash st live) (hi : i ∉ live)
    (hpoints : st.sessionTunnel i = some t) (hsk : st.sockOf t = some sk)
    (hlast : st.pointers t = 1) (env : Env n) (depth : ℕ) {st' : Lifetimes n}
    (hnet : st'.net = st.net) (hdata : st'.skUserData = st.skUserData)
    (hrefs : st'.tunnelRefs = st.tunnelRefs) :
    L2tp.Lifetimes.l2tpTunnelDestruct env (depth + 1) st' sk =
      .ok (((st'.unhook t sk).record (.destruct t)).addTunnelRefs t (-1)) := by
  have hcount := hcovered.tunnel t (lt_of_sockOf hsk)
  rw [hsk, hlast, Option.isSome_some, Bool.toNat_true] at hcount
  have hempty : ∀ bucket, ((st'.unhook t sk).record (.destruct t)).net.chain t bucket = [] := by
    intro bucket
    rw [chain_tables]
    change (((st'.unhook t sk).net.tables.tunnels[t]?).map (·.hlist bucket)).getD [] = []
    rw [tables_unhook, hnet, ← chain_tables]
    exact hcovered.chain_eq_nil hi hpoints hlast bucket
  have hstays : ((st'.unhook t sk).record (.destruct t)).tunnelRefs t ≠ 1 := by
    change st'.tunnelRefs t ≠ 1
    rw [hrefs]
    omega
  unfold Lifetimes.l2tpTunnelDestruct
  rw [hdata, (hcovered.opened t sk hsk).1]
  dsimp only
  rw [l2tpTunnelCloseall_of_empty env _ hempty]
  exact l2tpTunnelDecRefcount_of_ne hstays

/-- A session in no table is freed after its last reference, and another holds the socket. -/
theorem Covered.free_of_ne (hcovered : Covered hash st live) (hi : i ∉ live)
    (hpoints : st.sessionTunnel i = some t) (hsk : st.sockOf t = some sk)
    (hheld : st.skRefcnt sk ≠ 1) (destruct : Destructor n)
    (hzero : (st.addSessionRefs i (-1)).sessionRefs i = 0) :
    Yields ((st.addSessionRefs i (-1)).l2tpSessionFree destruct i) (Dropped hash live i st) := by
  have hpos := hcovered.toCounted.pointers_pos hpoints
  have htunnel := hcovered.tunnel t (lt_of_sockOf hsk)
  rw [hsk, Option.isSome_some, Bool.toNat_true] at htunnel
  have hpoints' : ((st.addSessionRefs i (-1)).record (.sessionFree i)).sessionTunnel i = some t :=
    hpoints
  have hsk' : ((st.addSessionRefs i (-1)).record (.sessionFree i)).sockOf t = some sk := hsk
  have hput : ((st.addSessionRefs i (-1)).record (.sessionFree i)).sockPut destruct (some sk) =
      .ok (((st.addSessionRefs i (-1)).record (.sessionFree i)).addSkRefcnt sk (-1)) :=
    sockPut_of_ne destruct hheld
  have hstays : ((st.addSessionRefs i (-1)).record (.sessionFree i)).tunnelRefs t ≠ 1 := by
    change st.tunnelRefs t ≠ 1
    omega
  unfold l2tpSessionFree
  rw [if_neg (not_not.mpr hzero)]
  simp only [hpoints', hsk', hput]
  refine ⟨_, l2tpTunnelDecRefcount_of_ne hstays, ?_⟩
  refine hcovered.forget hi hpoints hsk (?_ : Forgets st _ i t sk false)
  refine ⟨fun hfalse ↦ absurd hfalse Bool.false_ne_true, rfl, rfl, rfl,
    update_dec st.sessionRefs i, fun t' ↦ ?_, fun sk' _ ↦ rfl, update_dec st.skRefcnt sk,
    update_dec st.tunnelRefs t⟩
  rw [if_neg fun hgone ↦ absurd hgone.1 Bool.false_ne_true]
  rfl

/-- The socket has gone with the session: the session forgets the tunnel and drops its reference. -/
theorem Covered.free_unhooked (hcovered : Covered hash st live) (hi : i ∉ live)
    (hpoints : st.sessionTunnel i = some t) (hsk : st.sockOf t = some sk)
    (hlast : st.pointers t = 1) {gone : Lifetimes n}
    (htables : gone.net.tables = st.net.tables) (hsessions : gone.net.sessions = st.net.sessions)
    (htunnel : gone.sessionTunnel = st.sessionTunnel)
    (hrefs : gone.sessionRefs = Function.update st.sessionRefs i (st.sessionRefs i + -1))
    (hsock : ∀ t', gone.sockOf t' = if t' = t then none else st.sockOf t')
    (hdata : ∀ sk', sk' ≠ sk → gone.skUserData sk' = st.skUserData sk')
    (hskRefs : gone.skRefcnt = Function.update st.skRefcnt sk (st.skRefcnt sk + -1))
    (htunnelRefs : gone.tunnelRefs = Function.update st.tunnelRefs t (st.tunnelRefs t + -1)) :
    Yields ({ gone with
      sessionTunnel := Function.update gone.sessionTunnel i none }.l2tpTunnelDecRefcount t)
      (Dropped hash live i st) := by
  have hforgot : Function.update gone.sessionTunnel i none =
      Function.update st.sessionTunnel i none := by rw [htunnel]
  have hafter : ∀ log, Dropped hash live i st { { gone with
      sessionTunnel := Function.update gone.sessionTunnel i none }.addTunnelRefs t (-1) with
        log := log } := by
    intro log
    refine hcovered.forget hi hpoints hsk (?_ : Forgets st _ i t sk true)
    refine ⟨fun _ ↦ hlast, htables, hforgot, hsessions, fun j ↦ ?_, fun t' ↦ ?_,
      fun sk' hsame ↦ hdata sk' fun heq ↦ ?_, fun sk' ↦ ?_, fun t' ↦ ?_⟩
    · change gone.sessionRefs j = _
      rw [hrefs, update_dec]
    · simp only [true_and]
      exact hsock t'
    · exact absurd (hsame heq) (by simp)
    · change gone.skRefcnt sk' = _
      rw [hskRefs, update_dec]
    · change Function.update gone.tunnelRefs t (gone.tunnelRefs t + -1) t' = _
      rw [update_dec, htunnelRefs, update_dec]
      split_ifs
      · rw [Bool.toNat_true]
        omega
      · omega
  by_cases hfinal : gone.tunnelRefs t = 1
  · have hnone : gone.sockOf t = none := by rw [hsock, if_pos rfl]
    exact ⟨_, l2tpTunnelDecRefcount_last hfinal hnone, hafter _⟩
  · exact ⟨_, l2tpTunnelDecRefcount_of_ne hfinal, hafter gone.log⟩

/-- A session in no table is freed after its last reference, and with it goes the last reference to
the socket. -/
theorem Covered.free_last (hcovered : Covered hash st live) (hi : i ∉ live)
    (hpoints : st.sessionTunnel i = some t) (hsk : st.sockOf t = some sk)
    (hheld : st.skRefcnt sk = 1) (env : Env n) (depth : ℕ)
    (hzero : (st.addSessionRefs i (-1)).sessionRefs i = 0) :
    Yields ((st.addSessionRefs i (-1)).l2tpSessionFree
      (L2tp.Lifetimes.l2tpTunnelDestruct env (depth + 1)) i) (Dropped hash live i st) := by
  have hpos := hcovered.toCounted.pointers_pos hpoints
  have hlast : st.pointers t = 1 := by
    have hskRefs := (hcovered.opened t sk hsk).2
    omega
  have hpoints' : ((st.addSessionRefs i (-1)).record (.sessionFree i)).sessionTunnel i = some t :=
    hpoints
  have hsk' : ((st.addSessionRefs i (-1)).record (.sessionFree i)).sockOf t = some sk := hsk
  have hput : ((st.addSessionRefs i (-1)).record (.sessionFree i)).sockPut
      (L2tp.Lifetimes.l2tpTunnelDestruct env (depth + 1)) (some sk) =
        .ok (((((st.addSessionRefs i (-1)).record (.sessionFree i)).addSkRefcnt sk (-1)).unhook
          t sk).record (.destruct t) |>.addTunnelRefs t (-1)) := by
    have hheld' : ((st.addSessionRefs i (-1)).record (.sessionFree i)).skRefcnt sk = 1 := hheld
    rw [sockPut_last _ hheld']
    exact hcovered.l2tpTunnelDestruct hi hpoints hsk hlast env depth rfl rfl rfl
  unfold l2tpSessionFree
  rw [if_neg (not_not.mpr hzero)]
  simp only [hpoints', hsk', hput]
  exact hcovered.free_unhooked hi hpoints hsk hlast (tables_unhook _ t sk) rfl rfl rfl
    (sockOf_unhook _ t sk) (fun sk' hne ↦ Function.update_of_ne hne _ _) rfl rfl

/-- A reference to a session that is in no table is dropped. If it was the last one, the session is
freed. -/
theorem Covered.l2tpSessionDecRefcount (hcovered : Covered hash st live) (hi : i ∉ live)
    (hpoints : st.sessionTunnel i = some t) (env : Env n) (depth : ℕ) :
    Yields (st.l2tpSessionDecRefcount (L2tp.Lifetimes.l2tpTunnelDestruct env (depth + 1)) i)
      (Dropped hash live i st) := by
  obtain ⟨sk, hsk⟩ := hcovered.toCounted.sockOf_of_pointer hpoints
  have halive := hcovered.alive i t hpoints
  unfold Lifetimes.l2tpSessionDecRefcount
  dsimp only
  by_cases hfree : (st.addSessionRefs i (-1)).sessionRefs i = 0
  · rw [if_pos hfree]
    by_cases hlast : st.skRefcnt sk = 1
    · exact hcovered.free_last hi hpoints hsk hlast env depth hfree
    · exact hcovered.free_of_ne hi hpoints hsk hlast _ hfree
  · rw [if_neg hfree]
    have hcount : (st.addSessionRefs i (-1)).sessionRefs i = st.sessionRefs i + -1 :=
      Function.update_self _ _ _
    refine yields_ok ⟨⟨⟨hcovered.known, fun j t' hj ↦ ?_, hcovered.tunnel, hcovered.opened,
      hcovered.closed⟩, hcovered.tabulates, hcovered.session⟩, rfl, rfl, fun _ _ ↦ rfl,
      update_dec st.sessionRefs i, rfl⟩
    by_cases hji : j = i
    · rw [hji]
      omega
    · exact lt_of_lt_of_eq (hcovered.alive j t' hj) (Function.update_of_ne hji _ _).symm

end

end Lifetimes

/-! ### One session -/

/-- A change of the namespace that neither the tables nor the counters see, and that brings no
frames. -/
structure Unseen (net net' : L2tpNet n) : Prop where
  tables : net'.tables = net.tables
  tunnelSocks : net'.tunnelSocks = net.tunnelSocks
  queues : ∀ k, net'.queueLen k ≤ net.queueLen k

theorem queueLen_of_flow {net : L2tpNet n} {i : ℕ} {flow : Flow n}
    (hflow : net.flow i = some flow) : net.queueLen i = flow.session.reorderQ.length := by
  obtain ⟨hsession, -, -⟩ := L2tpNet.flow_eq_some hflow
  rw [L2tpNet.queueLen, hsession]
  rfl

theorem queueLen_store {net : L2tpNet n} {i : ℕ} {flow : Flow n} (hflow : net.flow i = some flow)
    (flow' : Flow n) (k : ℕ) : (net.store i flow').queueLen k =
      if k = i then flow'.session.reorderQ.length else net.queueLen k := by
  obtain ⟨hsession, -, -⟩ := L2tpNet.flow_eq_some hflow
  obtain ⟨hlt, -⟩ := List.getElem?_eq_some_iff.mp hsession
  unfold L2tpNet.queueLen L2tpNet.store
  dsimp only
  split_ifs with heq
  · rw [heq, List.getElem?_set_self hlt]
    rfl
  · rw [List.getElem?_set_ne (Ne.symm heq)]

theorem queueLen_store_le {net : L2tpNet n} {i : ℕ} {flow flow' : Flow n}
    (hflow : net.flow i = some flow)
    (hqueue : flow'.session.reorderQ.length ≤ flow.session.reorderQ.length) (k : ℕ) :
    (net.store i flow').queueLen k ≤ net.queueLen k := by
  rw [queueLen_store hflow]
  split_ifs with heq
  · rw [heq, queueLen_of_flow hflow]
    exact hqueue
  · exact le_rfl

theorem unseen_onFlow {f : Flow n → Flow n} (hf : ∀ flow, KeepsSetup flow (f flow))
    (hqueue : ∀ flow, (f flow).session.reorderQ.length ≤ flow.session.reorderQ.length)
    (net : L2tpNet n) (i : ℕ) : Unseen net (net.onFlow i f) where
  tables := tables_onFlow hf net i
  tunnelSocks := tunnelSocks_onFlow hf net i
  queues := by
    intro k
    unfold L2tpNet.onFlow
    cases hflow : net.flow i with
    | none => exact le_rfl
    | some flow => exact queueLen_store_le hflow (hqueue flow) k

theorem unseen_ref (net : L2tpNet n) (i : ℕ) : Unseen net (net.onFlow i Flow.ref) :=
  unseen_onFlow KeepsSetup.ref (fun flow ↦ by rw [Flow.session_ref]) net i

theorem unseen_deref (net : L2tpNet n) (i : ℕ) : Unseen net (net.onFlow i Flow.deref) :=
  unseen_onFlow KeepsSetup.deref (fun flow ↦ by rw [Flow.session_deref]) net i

theorem length_purgeStep {env : Env n} {flow flow' : Flow n}
    (hstep : purgeStep env flow = some flow') :
    flow'.session.reorderQ.length < flow.session.reorderQ.length := by
  obtain ⟨skb, rest, hqueue, rfl⟩ := purgeStep_eq_some hstep
  rw [hqueue]
  simp [recvDiscard]

/-- What a turn of the purge does to the namespace. -/
theorem unseen_purgeStep {env : Env n} {net : L2tpNet n} {i : ℕ} {flow flow' : Flow n}
    (hflow : net.flow i = some flow) (hstep : purgeStep env flow = some flow') :
    Unseen net (net.store i flow') ∧ (net.store i flow').queueLen i < net.queueLen i := by
  have hkeeps : ∀ other, KeepsSetup other ((purgeStep env other).getD other) := by
    intro other
    cases hother : purgeStep env other with
    | none => exact .refl other
    | some other' => exact .purgeStep hother
  have hshorter : ∀ other, ((purgeStep env other).getD other).session.reorderQ.length ≤
      other.session.reorderQ.length := by
    intro other
    cases hother : purgeStep env other with
    | none => exact le_rfl
    | some other' => exact (length_purgeStep hother).le
  have hstore : net.onFlow i (fun other ↦ (purgeStep env other).getD other) =
      net.store i flow' := by
    unfold L2tpNet.onFlow
    rw [hflow]
    dsimp only
    rw [hstep, Option.getD_some]
  refine ⟨hstore ▸ unseen_onFlow hkeeps hshorter net i, ?_⟩
  rw [queueLen_store hflow, if_pos rfl, queueLen_of_flow hflow]
  exact length_purgeStep hstep

theorem sessions_hlistDelInit (net : L2tpNet n) (j : ℕ) :
    (hlistDelInit net j).sessions = net.sessions := by
  unfold hlistDelInit
  split <;> rfl

theorem queueLen_congr {net net' : L2tpNet n} (hsessions : net'.sessions = net.sessions) :
    net'.queueLen = net.queueLen := by
  funext k
  unfold L2tpNet.queueLen
  rw [hsessions]

section

variable {hash : SessionHash} {s : CloseState n} {live : Finset ℕ} {i t : ℕ}

theorem Lifetimes.Counted.unseen {st : Lifetimes n} (hcounted : Counted st) {net' : L2tpNet n}
    (hunseen : Unseen st.net net') : Counted { st with net := net' } := by
  refine hcounted.withNet ?_ hunseen.tunnelSocks
  simpa [L2tpNet.tables] using congrArg (fun tables ↦ tables.sessions.length) hunseen.tables

theorem Lifetimes.Covered.unseen {st : Lifetimes n} (hcovered : Covered hash st live)
    {net' : L2tpNet n} (hunseen : Unseen st.net net') :
    Covered hash { st with net := net' } live := by
  refine ⟨hcovered.toCounted.unseen hunseen, ?_, fun j hj ↦ ?_⟩
  · change Tabulates hash net'.tables live
    rw [hunseen.tables]
    exact hcovered.tabulates
  · rw [owner_congr (congrArg Tables.sessions hunseen.tables)]
    exact hcovered.session j hj

theorem Unseen.length_sessions {net net' : L2tpNet n} (hunseen : Unseen net net') :
    net'.sessions.length = net.sessions.length := by
  simpa [L2tpNet.tables] using congrArg (fun tables ↦ tables.sessions.length) hunseen.tables

/-- Every session has a tunnel. -/
theorem Lifetimes.Covered.exists_flow {st : Lifetimes n} (hcovered : Covered hash st live)
    (hi : i < st.net.sessions.length) : ∃ flow, st.net.flow i = some flow := by
  have hsession : st.net.sessions[i]? = some st.net.sessions[i] := List.getElem?_eq_getElem hi
  have hentry : st.net.tables.sessions[i]? = some st.net.sessions[i].entry := by
    simp [L2tpNet.tables, hsession]
  have hhoused := hcovered.tabulates.housed i _ hentry
  obtain ⟨tunnel, htunnel⟩ :
      ∃ tunnel, st.net.tunnels[st.net.sessions[i].entry.tunnel]? = some tunnel := by
    simpa [L2tpNet.tables, Option.isSome_iff_exists] using hhoused
  have htunnel' : st.net.tunnels[st.net.sessions[i].tunnel]? = some tunnel := htunnel
  refine ⟨{ tunnel, session := st.net.sessions[i], log := [] }, ?_⟩
  rw [L2tpNet.flow, hsession, Option.bind_some, htunnel']
  rfl

namespace CloseState

/-- The counts of the sessions without what the callbacks have done to them. -/
def ownRefs (s : CloseState n) : ℕ → ℤ := s.life.sessionRefs - s.raised

/-- The surplus of the tunnels without what the callbacks have done to it. -/
def ownSurplus (s : CloseState n) : ℕ → ℤ := s.life.surplus - s.raisedSurplus

theorem ownRefs_returned (s : CloseState n) (life : Lifetimes n) :
    (s.returned life).ownRefs = s.ownRefs := by
  funext i
  simp only [ownRefs, returned, Pi.sub_apply, Pi.add_apply]
  omega

theorem ownSurplus_returned (s : CloseState n) (life : Lifetimes n) :
    (s.returned life).ownSurplus = s.ownSurplus := by
  funext t
  simp only [ownSurplus, returned, Pi.sub_apply, Pi.add_apply]
  omega

theorem ownSurplus_onNet {f : L2tpNet n → L2tpNet n}
    (hsessions : (f s.life.net).sessions.length = s.life.net.sessions.length)
    (hsocks : (f s.life.net).tunnelSocks = s.life.net.tunnelSocks) :
    (s.onNet f).ownSurplus = s.ownSurplus := by
  unfold ownSurplus onNet
  dsimp only
  rw [surplus_withNet hsessions hsocks]

theorem yields_run {f : Callback n} {post : Lifetimes n → Prop} (hf : Yields (f s.life) post) :
    Yields (s.run f) fun s' ↦ ∃ life, post life ∧ s' = { s with life } := by
  obtain ⟨life, hlife, hpost⟩ := hf
  refine ⟨{ s with life }, ?_, life, hpost, rfl⟩
  unfold run
  rw [hlife]

theorem yields_call {f : Callback n} {post : Lifetimes n → Prop} (hf : Yields (f s.life) post) :
    Yields (s.call (some f)) fun s' ↦ ∃ life, post life ∧ s' = s.returned life := by
  obtain ⟨life, hlife, hpost⟩ := hf
  refine ⟨s.returned life, ?_, life, hpost, rfl⟩
  simp only [call, hlife]

/-- Between two calls for session `i`, which has been taken off in state `start`: some of the
sessions are left in the tables, but not `i`, which still has its tunnel, and the lock is free. Only
the callbacks have changed counters, and no session outside the tables has got frames. -/
structure Between (hash : SessionHash) (i t : ℕ) (live : Finset ℕ) (start : CloseState n)
    (calls : List CloseCall) (s : CloseState n) : Prop where
  covered : ∃ left ⊆ live, i ∉ left ∧ Covered hash s.life left
  sessions : s.life.net.tables.sessions = start.life.net.tables.sessions
  tunnel : s.life.sessionTunnel i = some t
  unlocked : s.hlistLock = false
  calls : s.calls = calls
  ownRefs : s.ownRefs = start.ownRefs
  ownSurplus : s.ownSurplus = start.ownSurplus
  queues : ∀ k ∉ live, s.life.net.queueLen k ≤ start.life.net.queueLen k

namespace Between

variable {start : CloseState n} {calls : List CloseCall}

theorem onNet (hbetween : Between hash i t live start calls s) {f : L2tpNet n → L2tpNet n}
    (hunseen : Unseen s.life.net (f s.life.net)) :
    Between hash i t live start calls (s.onNet f) := by
  obtain ⟨left, hsub, hi, hcovered⟩ := hbetween.covered
  refine ⟨⟨left, hsub, hi, hcovered.unseen hunseen⟩, ?_, hbetween.tunnel, hbetween.unlocked,
    hbetween.calls, hbetween.ownRefs, ?_, fun k hk ↦ ?_⟩
  · rw [← hbetween.sessions]
    exact congrArg Tables.sessions hunseen.tables
  · rw [ownSurplus_onNet hunseen.length_sessions hunseen.tunnelSocks]
    exact hbetween.ownSurplus
  · exact (hunseen.queues k).trans (hbetween.queues k hk)

theorem call (hbetween : Between hash i t live start calls s) {f : Option (Callback n)}
    (hf : ∀ g ∈ f, g.Removes hash i) : Yields (s.call f) fun s' ↦
      Between hash i t live start calls s' ∧
        s'.life.net.queueLen i ≤ s.life.net.queueLen i := by
  cases f with
  | none => exact yields_ok ⟨hbetween, le_rfl⟩
  | some g =>
    obtain ⟨left, hsub, hi, hcovered⟩ := hbetween.covered
    refine (yields_call (hf g rfl s.life left hcovered hi)).imp ?_
    rintro s' ⟨life, ⟨left', hsub', hcovered', hsessions, htunnel, hqueues⟩, rfl⟩
    refine ⟨⟨⟨left', hsub'.trans hsub, fun hmem ↦ hi (hsub' hmem), hcovered'⟩,
      hsessions.trans hbetween.sessions, htunnel.trans hbetween.tunnel, hbetween.unlocked,
      hbetween.calls, ?_, ?_, fun k hk ↦ ?_⟩, hqueues i hi⟩
    · rw [ownRefs_returned]
      exact hbetween.ownRefs
    · rw [ownSurplus_returned]
      exact hbetween.ownSurplus
    · exact (hqueues k fun hmem ↦ hk (hsub hmem)).trans (hbetween.queues k hk)

theorem note (hbetween : Between hash i t live start calls s) (call : CloseCall) :
    Between hash i t live start (calls ++ [call]) (s.note call) :=
  { hbetween with calls := by rw [← hbetween.calls]; rfl }

/-- The loop of the purge ends when the queue is empty. -/
theorem l2tpSessionQueuePurge (hbetween : Between hash i t live start calls s)
    {callbacks : Callbacks n} (hallowed : callbacks.Allowed hash) (env : Env n) :
    Yields (s.l2tpSessionQueuePurge env callbacks i) fun s' ↦
      Between hash i t live start (calls ++ [.purge i]) s' ∧ s'.life.net.queueLen i = 0 := by
  refine (yields_drainM (fun turn ↦ turn.life.net.queueLen i) ?_ _ _ (hbetween.note (.purge i))
    le_rfl).imp ?_
  · intro turn next hturn hnext
    obtain ⟨flow', hflow', rfl⟩ := Option.map_eq_some_iff.mp hnext
    obtain ⟨flow, hflow, hstep⟩ := Option.bind_eq_some_iff.mp hflow'
    obtain ⟨hunseen, hless⟩ := unseen_purgeStep hflow hstep
    refine ((hturn.onNet hunseen).call (hallowed.deref i)).imp fun turn' hturn' ↦ ⟨hturn'.1, ?_⟩
    exact lt_of_le_of_lt hturn'.2 hless
  · rintro s' ⟨hbetween', hstop⟩
    refine ⟨hbetween', ?_⟩
    obtain ⟨left, -, -, hcovered⟩ := hbetween'.covered
    obtain ⟨flow, hflow⟩ := hcovered.exists_flow (hcovered.known i t hbetween'.tunnel)
    rw [queueLen_of_flow hflow]
    have hdone : purgeStep env flow = none := by
      simpa [purgeTurn, hflow] using hstop
    unfold purgeStep at hdone
    cases hqueue : flow.session.reorderQ with
    | nil => rfl
    | cons skb rest => simp [hqueue] at hdone

end Between

/-- What is called for a session that is taken off its chain, in order. -/
def turnCalls (callbacks : Callbacks n) (i : ℕ) (refCount : ℤ) : List CloseCall :=
  [.remove i, .purge i] ++ (if (callbacks.sessionClose i).isSome then [.sessionClose i] else []) ++
    [.decRefcount i refCount]

/-- Session `i` has been taken off its chain in state `start`, and is held. -/
structure TakenOff (i : ℕ) (start s : CloseState n) : Prop where
  counted : Counted s.life
  tables : s.life.net.tables = start.life.net.tables.hlistDel i
  tunnels : s.life.sessionTunnel = start.life.sessionTunnel
  calls : s.calls = start.calls ++ [.remove i]
  ownRefs : s.ownRefs = start.ownRefs
  ownSurplus : s.ownSurplus = start.ownSurplus
  queues : ∀ k, s.life.net.queueLen k ≤ start.life.net.queueLen k

namespace TakenOff

variable {start : CloseState n}

theorem hlistDelInit (hcounted : Counted s.life) (i : ℕ) :
    TakenOff i s (((s.note (.remove i)).onNet (L2tp.hlistDelInit · i)).onNet
      (·.onFlow i Flow.ref)) := by
  have htables : ((L2tp.hlistDelInit s.life.net i).onFlow i Flow.ref).tables =
      s.life.net.tables.hlistDel i :=
    (tables_onFlow KeepsSetup.ref _ i).trans (tables_hlistDelInit s.life.net i)
  have hlength : ((L2tp.hlistDelInit s.life.net i).onFlow i Flow.ref).sessions.length =
      s.life.net.sessions.length := by
    have hsessions := congrArg Tables.sessions htables
    rw [Tables.sessions_hlistDel] at hsessions
    simpa [L2tpNet.tables] using congrArg List.length hsessions
  have hsocks : ((L2tp.hlistDelInit s.life.net i).onFlow i Flow.ref).tunnelSocks =
      s.life.net.tunnelSocks := by
    rw [tunnelSocks_onFlow KeepsSetup.ref, tunnelSocks_hlistDelInit]
  refine ⟨hcounted.withNet hlength hsocks, htables, rfl, rfl, rfl, ?_, fun k ↦ ?_⟩
  · exact ownSurplus_onNet (s := s) (f := fun net ↦ (L2tp.hlistDelInit net i).onFlow i Flow.ref)
      hlength hsocks
  · rw [← queueLen_congr (sessions_hlistDelInit s.life.net i)]
    exact (unseen_ref (L2tp.hlistDelInit s.life.net i) i).queues k

/-- The `ref` callback is called, if there is one. -/
theorem ref (htaken : TakenOff i start s) {callbacks : Callbacks n}
    (hallowed : callbacks.Allowed hash) :
    Yields (s.call (callbacks.ref i)) (TakenOff i start) := by
  cases hhook : callbacks.ref i with
  | none => exact yields_ok htaken
  | some f =>
    refine (yields_call (hallowed.ref i f hhook _ htaken.counted)).imp ?_
    rintro s' ⟨life, ⟨hcounted, htables, htunnels, hfewer⟩, rfl⟩
    refine ⟨hcounted, htables.trans htaken.tables, htunnels.trans htaken.tunnels, htaken.calls,
      ?_, ?_, fun k ↦ (hfewer k).trans (htaken.queues k)⟩
    · rw [ownRefs_returned]
      exact htaken.ownRefs
    · rw [ownSurplus_returned]
      exact htaken.ownSurplus

/-- The lock is released, and the session is taken out of the other tables. -/
theorem unhash (htaken : TakenOff i start s) (hcovered : Covered hash start.life live)
    (hpoints : start.life.sessionTunnel i = some t) :
    Yields (s.writeUnlockBh.l2tpSessionUnhash i)
      (Between hash i t (live.erase i) start (start.calls ++ [.remove i])) := by
  have hpoints' : s.writeUnlockBh.life.sessionTunnel i = some t := by
    rw [← hpoints, ← htaken.tunnels]
    rfl
  have hunhashed : (L2tp.l2tpSessionUnhash s.life.net i).tables =
      start.life.net.tables.unhash i := by
    rw [tables_l2tpSessionUnhash, htaken.tables, Tables.unhash_hlistDel]
  have hentries : (L2tp.l2tpSessionUnhash s.life.net i).tables.sessions =
      start.life.net.tables.sessions := by
    rw [hunhashed]
    exact Tables.sessions_hlistDel start.life.net.tables i
  have hsessions : (L2tp.l2tpSessionUnhash s.life.net i).sessions = s.life.net.sessions :=
    sessions_hlistDelInit s.life.net i
  have hsocks := tunnelSocks_hlistDelInit s.life.net i
  unfold l2tpSessionUnhash
  simp only [hpoints']
  refine yields_ok ⟨⟨live.erase i, Finset.Subset.refl _, Finset.notMem_erase i live, ?_⟩,
    hentries, hpoints', rfl, htaken.calls, htaken.ownRefs, ?_, fun k _ ↦ ?_⟩
  · refine ⟨htaken.counted.withNet (congrArg List.length hsessions) hsocks, ?_, fun j hj ↦ ?_⟩
    · exact hunhashed ▸ hcovered.tabulates.unhash i
    · change s.life.sessionTunnel j = _
      rw [htaken.tunnels, hcovered.session j (Finset.mem_of_mem_erase hj)]
      exact (congrFun (owner_congr hentries) j).symm
  · rw [← htaken.ownSurplus]
    exact ownSurplus_onNet (s := s) (f := (L2tp.l2tpSessionUnhash · i))
      (congrArg List.length hsessions) hsocks
  · change (L2tp.l2tpSessionUnhash s.life.net i).queueLen k ≤ _
    rw [queueLen_congr hsessions]
    exact htaken.queues k

end TakenOff

/-- A session is taken off its chain, held and unhashed. -/
theorem yields_takeOff (hcovered : Covered hash s.life live)
    (hpoints : s.life.sessionTunnel i = some t) {callbacks : Callbacks n}
    (hallowed : callbacks.Allowed hash) :
    Yields (s.takeOff callbacks i)
      (Between hash i t (live.erase i) s (s.calls ++ [.remove i])) :=
  ((TakenOff.hlistDelInit hcovered.toCounted i).ref hallowed).bind fun _ htaken ↦
    htaken.unhash hcovered hpoints

/-- `session_close` is called, if there is one. -/
theorem Between.sessionClose {start : CloseState n} {calls : List CloseCall}
    (hbetween : Between hash i t live start calls s) {callbacks : Callbacks n}
    (hallowed : callbacks.Allowed hash) : Yields (s.sessionClose callbacks i) fun s' ↦
      Between hash i t live start
        (calls ++ if (callbacks.sessionClose i).isSome then [.sessionClose i] else []) s' ∧
          s'.life.net.queueLen i ≤ s.life.net.queueLen i := by
  unfold CloseState.sessionClose
  cases hhook : callbacks.sessionClose i with
  | none =>
    rw [Option.isSome_none, if_neg Bool.false_ne_true, List.append_nil]
    exact yields_ok ⟨hbetween, le_rfl⟩
  | some f =>
    rw [Option.isSome_some, if_pos rfl]
    exact (hbetween.note (.sessionClose i)).call (hhook ▸ hallowed.sessionClose i)

/-- What has happened when session `i` has been closed: it is out of the tables, its queue is empty,
and besides what the callbacks have done its count is lower by one. -/
structure Closed (hash : SessionHash) (callbacks : Callbacks n) (i : ℕ) (live : Finset ℕ)
    (s s' : CloseState n) : Prop where
  covered : ∃ left ⊆ live.erase i, Covered hash s'.life left
  sessions : s'.life.net.tables.sessions = s.life.net.tables.sessions
  locked : s'.hlistLock = true
  calls : ∃ refCount, 0 < refCount ∧ s'.calls = s.calls ++ turnCalls callbacks i refCount
  ownRefs : ∀ j, s'.ownRefs j = s.ownRefs j - if j = i then 1 else 0
  ownSurplus : s'.ownSurplus = s.ownSurplus
  queues : ∀ k ∉ live, s'.life.net.queueLen k ≤ s.life.net.queueLen k
  purged : s'.life.net.queueLen i = 0

/-- The reference of the creation is there, and is dropped. -/
theorem Between.closed {start : CloseState n} {callbacks : Callbacks n} {calls : List CloseCall}
    (hbetween : Between hash i t (live.erase i) start calls s)
    (hcalls : ∀ refCount, calls ++ [.decRefcount i refCount] =
      start.calls ++ turnCalls callbacks i refCount)
    (hpurged : s.life.net.queueLen i = 0) (env : Env n) :
    Yields (s.l2tpSessionDecRefcount env i >>= writeLockBh)
      (Closed hash callbacks i live start) := by
  obtain ⟨left, hsub, hi, hcovered⟩ := hbetween.covered
  have hdec := hcovered.l2tpSessionDecRefcount hi hbetween.tunnel env s.life.net.tunnels.length
  refine (yields_run (s := s.note _) hdec).bind ?_
  rintro s' ⟨life, hdropped, rfl⟩
  unfold writeLockBh
  simp only [CloseState.note, hbetween.unlocked, if_neg Bool.false_ne_true]
  have hqueue : life.net.queueLen = s.life.net.queueLen := queueLen_congr hdropped.sessions
  refine yields_ok ⟨⟨left, hsub, hdropped.covered⟩, ?_, rfl, ⟨_,
    hcovered.alive i t hbetween.tunnel, ?_⟩, fun j ↦ ?_, ?_, fun k hk ↦ ?_, ?_⟩
  · rw [← hbetween.sessions]
    exact congrArg Tables.sessions hdropped.tables
  · rw [← hcalls, ← hbetween.calls]
  · rw [← hbetween.ownRefs]
    simp only [CloseState.ownRefs, Pi.sub_apply, hdropped.sessionRefs]
    omega
  · rw [← hbetween.ownSurplus]
    simp only [CloseState.ownSurplus, hdropped.surplus]
  · rw [hqueue]
    exact hbetween.queues k fun hmem ↦ hk (Finset.mem_of_mem_erase hmem)
  · rw [hqueue]
    exact hpurged

/-- A session is closed. -/
theorem yields_closeSession (hcovered : Covered hash s.life live)
    (hpoints : s.life.sessionTunnel i = some t) {callbacks : Callbacks n}
    (hallowed : callbacks.Allowed hash) (env : Env n) :
    Yields (s.closeSession env callbacks i) (Closed hash callbacks i live s) := by
  unfold closeSession
  refine (yields_takeOff hcovered hpoints hallowed).bind fun off hoff ↦ ?_
  refine (hoff.l2tpSessionQueuePurge hallowed env).bind fun purged hpurged ↦ ?_
  refine (hpurged.1.sessionClose hallowed).bind fun closed hclosed ↦ ?_
  have hunseen := unseen_deref closed.life.net i
  have hnoted := hclosed.1.onNet (f := (·.onFlow i Flow.deref)) hunseen
  refine (hnoted.call (hallowed.deref i)).bind fun put hput ↦ ?_
  refine hput.1.closed (fun refCount ↦ ?_) ?_ env
  · rw [turnCalls]
    simp only [List.append_assoc, List.cons_append, List.nil_append]
  · have hempty := hput.2.trans ((hunseen.queues i).trans hclosed.2)
    rw [hpurged.2] at hempty
    exact Nat.le_zero.mp hempty

/-! ### All sessions of a tunnel -/

/-- On the way through the chains of tunnel `t`: those in `done` are empty, the lock is held, and
what has been called is what is called for each of the sessions in `removed`. Their queues are
empty, and besides what the callbacks have done each has one reference less. -/
structure Through (hash : SessionHash) (callbacks : Callbacks n) (t : ℕ) (start : CloseState n)
    (live : Finset ℕ) (done : List (Fin 16)) (s : CloseState n) : Prop where
  left : ∃ left ⊆ live, Covered hash s.life left ∧
    ∃ removed : List (ℕ × ℤ), (removed.map Prod.fst).Nodup ∧
      (∀ entry ∈ removed, entry.1 ∈ live ∧ entry.1 ∉ left ∧ start.life.owner entry.1 = some t ∧
        0 < entry.2 ∧ s.life.net.queueLen entry.1 = 0) ∧
      s.calls = (start.calls ++ removed.flatMap fun entry ↦ turnCalls callbacks entry.1 entry.2) ∧
      ∀ i, s.ownRefs i = start.ownRefs i - ((removed.map Prod.fst).count i : ℤ)
  sessions : s.life.net.tables.sessions = start.life.net.tables.sessions
  locked : s.hlistLock = true
  ownSurplus : s.ownSurplus = start.ownSurplus
  done_empty : ∀ bucket ∈ done, s.life.net.chain t bucket = []

/-- A chain lists no session twice. -/
theorem nodup_chain {net : L2tpNet n} (htabulates : Tabulates hash net.tables live) (t : ℕ)
    (bucket : Fin 16) : (net.chain t bucket).Nodup := by
  rw [chain_tables]
  cases htable : net.tables.tunnels[t]? with
  | none => exact List.nodup_nil
  | some table =>
    rw [Option.map_some, Option.getD_some, List.nodup_iff_count_le_one]
    intro i
    rw [htabulates.tunnel t table htable bucket i]
    split_ifs
    · exact le_rfl
    · exact Nat.zero_le 1

/-- Sessions that are still in a chain have been in it. -/
theorem chain_subset {net net' : L2tpNet n} {left : Finset ℕ}
    (htabulates : Tabulates hash net.tables live) (htabulates' : Tabulates hash net'.tables left)
    (hsub : left ⊆ live) (hsessions : net'.tables.sessions = net.tables.sessions)
    (bucket : Fin 16) : net'.chain t bucket ⊆ net.chain t bucket := by
  intro j hj
  obtain ⟨-, sessionId, -, hmember, hbucket⟩ := (mem_chain_iff htabulates').mp hj
  obtain ⟨hmem, hentry⟩ := Tables.tunnelMember_eq_some_iff.mp hmember
  rw [hsessions] at hentry
  obtain ⟨tunnel, htunnel⟩ : ∃ tunnel, net.tunnels[t]? = some tunnel := by
    simpa [L2tpNet.tables, Option.isSome_iff_exists] using htabulates.housed j _ hentry
  exact (mem_chain_iff htabulates).mpr ⟨tunnel, sessionId, htunnel,
    Tables.tunnelMember_eq_some_iff.mpr ⟨hsub hmem, hentry⟩, hbucket⟩

/-- A chain gets shorter when a session leaves it and none comes. -/
theorem length_chain_lt {net net' : L2tpNet n} {left : Finset ℕ}
    (htabulates : Tabulates hash net'.tables left) (hgone : i ∉ left) {bucket : Fin 16}
    (hi : i ∈ net.chain t bucket) (hsub : net'.chain t bucket ⊆ net.chain t bucket) :
    (net'.chain t bucket).length < (net.chain t bucket).length := by
  have hout : i ∉ net'.chain t bucket := by
    intro hmem
    obtain ⟨-, sessionId, -, hmember, -⟩ := (mem_chain_iff htabulates).mp hmem
    exact hgone (Tables.tunnelMember_eq_some_iff.mp hmember).1
  have hnodup : (i :: net'.chain t bucket).Nodup :=
    List.nodup_cons.mpr ⟨hout, nodup_chain htabulates t bucket⟩
  exact (List.subperm_of_subset hnodup (List.cons_subset.mpr ⟨hi, hsub⟩)).length_le

namespace Through

variable {callbacks : Callbacks n} {start : CloseState n} {done : List (Fin 16)}

/-- One turn of the loop over a chain closes a session, and the chain gets shorter. -/
theorem turn (hthrough : Through hash callbacks t start live done s)
    (hallowed : callbacks.Allowed hash) (env : Env n) {bucket : Fin 16}
    {next : Except CloseFault (CloseState n)}
    (hnext : closeTurn env callbacks t bucket s = some next) :
    Yields next fun s' ↦ Through hash callbacks t start live done s' ∧
      (s'.life.net.chain t bucket).length < (s.life.net.chain t bucket).length := by
  obtain ⟨left, hsub, hcovered, removed, hnodup, hremoved, hcalls, hrefs⟩ := hthrough.left
  unfold closeTurn at hnext
  cases hchain : s.life.net.chain t bucket with
  | nil => simp [hchain] at hnext
  | cons i rest =>
    simp only [hchain, Option.some.injEq] at hnext
    have hhead : i ∈ s.life.net.chain t bucket := by rw [hchain]; exact List.mem_cons_self
    obtain ⟨-, sessionId, -, hmember, -⟩ := (mem_chain_iff hcovered.tabulates).mp hhead
    obtain ⟨hi, hentry⟩ := Tables.tunnelMember_eq_some_iff.mp hmember
    have howner : s.life.owner i = some t := by
      rw [owner_eq, hentry]
      rfl
    rw [← hnext, ← hchain]
    refine (yields_closeSession hcovered ((hcovered.session i hi).trans howner) hallowed env).imp ?_
    intro s' hclosed
    obtain ⟨left', hsub', hcovered'⟩ := hclosed.covered
    obtain ⟨refCount, hpos, hcalls'⟩ := hclosed.calls
    have hless : left' ⊆ left := hsub'.trans (Finset.erase_subset i left)
    have hchains : ∀ bucket, s'.life.net.chain t bucket ⊆ s.life.net.chain t bucket := fun bucket ↦
      chain_subset hcovered.tabulates hcovered'.tabulates hless hclosed.sessions bucket
    have hgone : i ∉ left' := fun hmem ↦ Finset.notMem_erase i left (hsub' hmem)
    refine ⟨⟨⟨left', hless.trans hsub, hcovered', removed ++ [(i, refCount)], ?_, ?_, ?_, ?_⟩,
      hclosed.sessions.trans hthrough.sessions, hclosed.locked,
      hclosed.ownSurplus.trans hthrough.ownSurplus, fun bucket hbucket ↦ ?_⟩, ?_⟩
    · rw [List.map_append, List.nodup_append_comm]
      refine List.nodup_cons.mpr ⟨fun hmem ↦ ?_, hnodup⟩
      obtain ⟨entry, hentry', rfl⟩ := List.mem_map.mp hmem
      exact (hremoved entry hentry').2.1 hi
    · intro entry hmem
      rcases List.mem_append.mp hmem with hold | hnew
      · obtain ⟨hlive, hout, howner', hcount, hempty⟩ := hremoved entry hold
        have hstays := hclosed.queues entry.1 hout
        exact ⟨hlive, fun hin ↦ hout (hless hin), howner', hcount, by omega⟩
      · rw [List.mem_singleton.mp hnew]
        refine ⟨hsub hi, hgone, ?_, hpos, hclosed.purged⟩
        rw [← howner]
        exact (congrFun (owner_congr hthrough.sessions) i).symm
    · rw [hcalls', hcalls, List.flatMap_append, List.append_assoc, List.flatMap_singleton]
    · intro j
      rw [hclosed.ownRefs, hrefs, List.map_append, List.count_append, List.map_singleton,
        List.count_singleton]
      by_cases hji : j = i
      · simp [hji]
        omega
      · simp [hji, Ne.symm hji]
    · exact List.eq_nil_of_subset_nil (hthrough.done_empty bucket hbucket ▸ hchains bucket)
    · exact length_chain_lt hcovered'.tabulates hgone hhead (hchains bucket)

/-- The loop over one chain ends when it is empty. -/
theorem chain (hthrough : Through hash callbacks t start live done s)
    (hallowed : callbacks.Allowed hash) (env : Env n) (bucket : Fin 16) :
    Yields (drainM (closeTurn env callbacks t bucket) (s.life.net.chain t bucket).length s)
      (Through hash callbacks t start live (bucket :: done)) := by
  refine (yields_drainM (fun turn ↦ (turn.life.net.chain t bucket).length)
    (fun turn next hturn hnext ↦ hturn.turn hallowed env hnext) _ s hthrough le_rfl).imp ?_
  rintro s' ⟨hthrough', hstop⟩
  have hempty : s'.life.net.chain t bucket = [] := by
    unfold closeTurn at hstop
    split at hstop
    · assumption
    · exact absurd hstop (by simp)
  refine { hthrough' with done_empty := fun bucket' hmem ↦ ?_ }
  rcases List.mem_cons.mp hmem with rfl | hold
  · exact hempty
  · exact hthrough'.done_empty bucket' hold

end Through

end CloseState

end

/-- A reference to session `i` is dropped. -/
def CloseCall.isDecRefcount (i : ℕ) : CloseCall → Bool
  | .decRefcount j _ => j = i
  | _ => false

/-- Every session of the tunnel has been closed once. The tables hold none of them any more, and for
each that was taken off there is one purge, which leaves its queue empty, one call of
`session_close`, if it has one, and one drop of a reference, which was there. The count of a session
is what it was and what the callbacks have added, less that one reference, and a session without
references has given back those to its tunnel: besides the callbacks nothing has changed the surplus
of a tunnel. -/
structure ClosesAll (callbacks : Callbacks n) (t : ℕ) (st : Lifetimes n) (s : CloseState n) :
    Prop where
  emptied : ∀ bucket, s.life.net.chain t bucket = []
  global : ∀ bucket, ∀ i ∈ s.life.net.sessionHlist bucket, s.life.owner i ≠ some t
  removed : ∀ i, s.calls.count (.remove i) ≤ 1
  hashed : ∀ i, .remove i ∈ s.calls → ∃ bucket, i ∈ st.net.chain t bucket
  purged : ∀ i, s.calls.count (.purge i) = s.calls.count (.remove i)
  queue : ∀ i, .remove i ∈ s.calls → ∀ session ∈ s.life.net.sessions[i]?, session.reorderQ = []
  closed : ∀ i, s.calls.count (.sessionClose i) =
    if (callbacks.sessionClose i).isSome then s.calls.count (.remove i) else 0
  dropped : ∀ i, s.calls.countP (·.isDecRefcount i) = s.calls.count (.remove i)
  alive : ∀ i refCount, .decRefcount i refCount ∈ s.calls → 0 < refCount
  refs : ∀ i, s.life.sessionRefs i =
    st.sessionRefs i + s.raised i - (s.calls.count (.remove i) : ℤ)
  freed : ∀ i, .remove i ∈ s.calls → s.life.sessionRefs i = 0 → s.life.sessionTunnel i = none
  surplus : ∀ t', s.life.surplus t' = st.surplus t' + s.raisedSurplus t'
  unlocked : s.hlistLock = false

/-- What is called once for a session is called as often as the session has been taken off. -/
theorem countP_calls {callbacks : Callbacks n} {i : ℕ} {p : CloseCall → Bool} {once : ℕ}
    (hp : ∀ j refCount,
      (CloseState.turnCalls callbacks j refCount).countP p = if j = i then once else 0)
    (removed : List (ℕ × ℤ)) :
    (removed.flatMap fun entry ↦ CloseState.turnCalls callbacks entry.1 entry.2).countP p =
      (removed.map Prod.fst).count i * once := by
  induction removed with
  | nil => simp
  | cons entry removed ih =>
    rw [List.flatMap_cons, List.countP_append, hp, ih, List.map_cons, List.count_cons]
    by_cases heq : entry.1 = i
    · simp only [heq, if_true, beq_self_eq_true]
      rw [Nat.add_mul, Nat.one_mul, Nat.add_comm]
    · simp [heq]

section

variable (callbacks : Callbacks n) (i j : ℕ) (refCount : ℤ)

theorem count_remove_turnCalls :
    (CloseState.turnCalls callbacks j refCount).countP (· == .remove i) =
      if j = i then 1 else 0 := by
  cases hhook : (callbacks.sessionClose j).isSome <;>
    simp [CloseState.turnCalls, hhook, List.countP_cons]

theorem count_purge_turnCalls :
    (CloseState.turnCalls callbacks j refCount).countP (· == .purge i) =
      if j = i then 1 else 0 := by
  cases hhook : (callbacks.sessionClose j).isSome <;>
    simp [CloseState.turnCalls, hhook, List.countP_cons]

theorem count_sessionClose_turnCalls :
    (CloseState.turnCalls callbacks j refCount).countP (· == .sessionClose i) =
      if j = i then (if (callbacks.sessionClose i).isSome then 1 else 0) else 0 := by
  by_cases heq : j = i
  · subst heq
    cases hhook : (callbacks.sessionClose j).isSome <;>
      simp [CloseState.turnCalls, hhook]
  · cases hhook : (callbacks.sessionClose j).isSome <;>
      simp [CloseState.turnCalls, hhook, heq]

theorem count_decRefcount_turnCalls :
    (CloseState.turnCalls callbacks j refCount).countP (·.isDecRefcount i) =
      if j = i then 1 else 0 := by
  cases hhook : (callbacks.sessionClose j).isSome <;>
    simp [CloseState.turnCalls, hhook, List.countP_cons, CloseCall.isDecRefcount]

variable {i j refCount} {seen : ℤ}

/-- The count that `l2tp_session_dec_refcount` finds is that of the turn. -/
theorem eq_of_decRefcount_mem
    (hcall : .decRefcount i seen ∈ CloseState.turnCalls callbacks j refCount) :
    seen = refCount := by
  cases hhook : (callbacks.sessionClose j).isSome <;>
    simp [CloseState.turnCalls, hhook] at hcall
  · exact hcall.2
  · exact hcall.2

end

/-- A session in the tables is in a chain of its tunnel. -/
theorem Lifetimes.Covered.mem_chain {hash : SessionHash} {st : Lifetimes n} {live : Finset ℕ}
    (hcovered : Covered hash st live) {t i : ℕ} (hi : i ∈ live) (howner : st.owner i = some t) :
    ∃ bucket, i ∈ st.net.chain t bucket := by
  rw [owner_eq] at howner
  obtain ⟨⟨sessionId, _⟩, hentry, rfl⟩ := Option.map_eq_some_iff.mp howner
  obtain ⟨tunnel, htunnel⟩ : ∃ tunnel, st.net.tunnels[_]? = some tunnel := by
    simpa [L2tpNet.tables, Option.isSome_iff_exists] using hcovered.tabulates.housed i _ hentry
  exact ⟨_, (mem_chain_iff hcovered.tabulates).mpr ⟨tunnel, sessionId, htunnel,
    Tables.tunnelMember_eq_some_iff.mpr ⟨hi, hentry⟩, rfl⟩⟩

/-- No session in the tables belongs to a tunnel whose chains are empty. -/
theorem Lifetimes.Covered.owner_ne {hash : SessionHash} {st : Lifetimes n} {live : Finset ℕ}
    (hcovered : Covered hash st live) {t i : ℕ} (hempty : ∀ bucket, st.net.chain t bucket = [])
    (hi : i ∈ live) : st.owner i ≠ some t := by
  intro howner
  obtain ⟨bucket, hmem⟩ := hcovered.mem_chain hi howner
  rw [hempty] at hmem
  exact absurd hmem List.not_mem_nil

/-- The counters of a namespace in which no function is running cover its pointers. -/
theorem Lifetimes.Accounted.covered {hash : SessionHash} {st : Lifetimes n} {live : Finset ℕ}
    {held heldSk : ℕ → ℕ} (haccounted : Accounted hash st live ∅ held heldSk) :
    Covered hash st live := by
  have hpointers : ∀ t, st.pointers t = refs st.owner live t := by
    intro t
    unfold pointers refs
    congr 1
    ext i
    simp only [Finset.mem_filter, Finset.mem_range]
    constructor
    · rintro ⟨-, hpoints⟩
      have hi := haccounted.mem_of_pointer hpoints
      exact ⟨hi, (haccounted.session i hi).2.symm.trans hpoints⟩
    · rintro ⟨hi, howner⟩
      refine ⟨?_, (haccounted.session i hi).2.trans howner⟩
      simpa [L2tpNet.tables] using haccounted.tabulates.known i hi
  refine ⟨⟨fun i t hpoints ↦ ?_, fun i t hpoints ↦ ?_, fun t ht ↦ ?_, fun t sk hsk ↦ ?_,
    fun t hnone ↦ ?_⟩, haccounted.tabulates, fun i hi ↦ (haccounted.session i hi).2⟩
  · simpa [L2tpNet.tables] using
      haccounted.tabulates.known i (haccounted.mem_of_pointer hpoints)
  · rw [(haccounted.session i (haccounted.mem_of_pointer hpoints)).1]
    exact one_pos
  · rw [hpointers, haccounted.tunnel t ht]
    omega
  · obtain ⟨hdata, -, hcount, -⟩ := haccounted.opened t sk hsk
    refine ⟨hdata, ?_⟩
    rw [hpointers, hcount]
    omega
  · rw [hpointers]
    exact (haccounted.closed t hnone).1

/-- A callback that deletes another session, if that is still there. -/
def deleteOther (env : Env n) (j : ℕ) : Callback n := fun st ↦
  if st.isHashed j then st.l2tpSessionDelete env (st.destructor env) j else .ok st

theorem sessions_onFlow_of_ne (net : L2tpNet n) {i j : ℕ} (hne : i ≠ j) (f : Flow n → Flow n) :
    (net.onFlow j f).sessions[i]? = net.sessions[i]? := by
  unfold L2tpNet.onFlow
  cases net.flow j with
  | none => rfl
  | some flow => exact List.getElem?_set_ne (Ne.symm hne)

/-- The deletion of a session leaves the queues of the others alone. -/
theorem queueLen_l2tpSessionDelete (env : Env n) (net : L2tpNet n) {i j : ℕ} (hne : i ≠ j) :
    (l2tpSessionDelete env net j).queueLen i = net.queueLen i := by
  unfold L2tpNet.queueLen l2tpSessionDelete
  dsimp only
  rw [sessions_onFlow_of_ne _ hne, sessions_onFlow_of_ne _ hne]
  change ((hlistDelInit (net.onFlow j Flow.ref) j).sessions[i]?.map _).getD 0 = _
  rw [sessions_hlistDelInit, sessions_onFlow_of_ne _ hne]

/-- To delete another session is allowed. -/
theorem removes_deleteOther (hash : SessionHash) (env : Env n) {i j : ℕ} (hne : i ≠ j) :
    (deleteOther env j).Removes hash i := by
  intro st live hcovered hi
  unfold deleteOther
  by_cases hhashed : st.isHashed j = true
  · have hj := mem_of_isHashed hcovered.tabulates hhashed
    have hlt : j < st.net.tables.sessions.length := hcovered.tabulates.known j hj
    have hunhashed := unhashed_l2tpSessionDelete env st.net j
    have howner : ({ st with net := l2tpSessionDelete env st.net j } : Lifetimes n).owner =
        st.owner := owner_congr hunhashed.sessions
    obtain ⟨t, ht⟩ : ∃ t, st.sessionTunnel j = some t := by
      rw [hcovered.session j hj, owner_eq, List.getElem?_eq_getElem hlt]
      exact ⟨_, rfl⟩
    have hdeleted : Covered hash { st with net := l2tpSessionDelete env st.net j }
        (live.erase j) := by
      refine ⟨hcovered.toCounted.withNet ?_ hunhashed.tunnelSocks, ?_, fun k hk ↦ ?_⟩
      · simpa [L2tpNet.tables] using congrArg List.length hunhashed.sessions
      · exact hunhashed.tables ▸ hcovered.tabulates.unhash j
      · rw [howner]
        exact hcovered.session k (Finset.mem_of_mem_erase hk)
    rw [if_pos hhashed]
    refine (hdeleted.l2tpSessionDecRefcount (Finset.notMem_erase j live) ht env _).imp ?_
    intro st' hdropped
    refine ⟨live.erase j, Finset.erase_subset j live, hdropped.covered, ?_,
      hdropped.others i hne, fun k hk ↦ ?_⟩
    · rw [hdropped.tables]
      exact hunhashed.sessions
    · have hkj : k ≠ j := by
        rintro rfl
        exact hk hj
      rw [queueLen_congr hdropped.sessions]
      exact (queueLen_l2tpSessionDelete env st.net hkj).le
  · rw [if_neg hhashed]
    exact yields_ok ⟨live, Finset.Subset.refl _, hcovered, rfl, rfl, fun _ _ ↦ le_rfl⟩

/-- A tunnel with three sessions, two of them in one chain. -/
def threeSessions : Except Fault (Lifetimes 1) :=
  lifeRun lowBits [.tunnelCreate none true true hdrVer3 1 2 .udp, .sessionCreate true 0 5 6 {},
    .sessionCreate true 0 21 22 {}, .sessionCreate true 0 7 8 {}]

/-- When a session is closed, it takes the session with it that was created before it. -/
def closePrevious : Callbacks 1 where
  ref := fun _ ↦ none
  sessionClose := fun i ↦ if i = 0 then none else some (deleteOther oneCpu (i - 1))
  deref := fun _ ↦ none

theorem allowed_closePrevious (hash : SessionHash) : closePrevious.Allowed hash where
  ref := by
    intro i f hf
    exact absurd hf (Option.not_mem_none f)
  sessionClose := by
    intro i f hf
    change f ∈ (if i = 0 then none else some (deleteOther oneCpu (i - 1))) at hf
    split_ifs at hf with hzero
    · exact absurd hf (Option.not_mem_none f)
    · rw [← Option.mem_some_iff.mp hf]
      exact removes_deleteOther hash oneCpu (by omega)
  deref := by
    intro i f hf
    exact absurd hf (Option.not_mem_none f)

example : (threeSessions.toOption.bind fun st ↦
    (CloseState.l2tpTunnelCloseall oneCpu closePrevious { life := st } 0).toOption.map (·.calls)) =
      some [.remove 1, .purge 1, .sessionClose 1, .decRefcount 1 1,
        .remove 2, .purge 2, .sessionClose 2, .decRefcount 2 1] := by
  rfl

end KernelModules.L2tp
