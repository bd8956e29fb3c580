import KernelModules.Foundations.References
import KernelModules.L2tp.AttachedSessions
import KernelModules.L2tp.Lifetimes
import Mathlib.Algebra.Group.Pi.Basic

/-!
# Who holds a tunnel

Every reference has a holder. A tunnel is held by its socket until `l2tp_tunnel_destruct` has run,
by each of its sessions until that is freed, and by the work that deletes it while that is pending.
The socket is held by its creation and by each session of the tunnel. `Accounted` says that the
counters count these holders, and beside them what a running function holds (`held` and `heldSk`),
so that it can be said in the middle of an operation as well.

From that it follows what the code relies on. A session that is still hashed holds the socket, so
`l2tp_session_free` finds one (`Accounted.sessionDrop`). When the last reference to a socket goes,
there are no sessions left, and the destructor has none to close (`Accounted.sockPut`). When the
last reference to a tunnel goes, the socket has gone before (`Accounted.tunnelDec`).
-/

set_option autoImplicit false
set_option relaxedAutoImplicit false

namespace KernelModules.L2tp

open Foundations

variable {n : ℕ}

/-! ### Tunnel sockets in a namespace -/

/-- The sockets of the tunnels. -/
def L2tpNet.tunnelSocks (net : L2tpNet n) : List (Option ℕ) := net.tunnels.map (·.sock)

theorem tunnelSocks_onFlow {f : Flow n → Flow n} (hf : ∀ flow, KeepsSetup flow (f flow))
    (net : L2tpNet n) (i : ℕ) : (net.onFlow i f).tunnelSocks = net.tunnelSocks := by
  unfold L2tpNet.onFlow
  cases hflow : net.flow i with
  | none => rfl
  | some flow =>
    obtain ⟨-, htunnel, -⟩ := L2tpNet.flow_eq_some hflow
    obtain ⟨stats, hstats⟩ := (hf flow).tunnel
    have hplace : (f flow).session.tunnel = flow.session.tunnel := by rw [(hf flow).params]
    have hsock : (f flow).tunnel.sock = flow.tunnel.sock := by rw [hstats]
    simp only [L2tpNet.tunnelSocks, L2tpNet.store, List.map_set, hplace, hsock]
    exact set_of_getElem? (by rw [List.getElem?_map, htunnel, Option.map_some])

theorem tunnelList_onFlow (net : L2tpNet n) (i : ℕ) (f : Flow n → Flow n) :
    (net.onFlow i f).tunnelList = net.tunnelList := by
  unfold L2tpNet.onFlow
  split <;> rfl

theorem tunnelSocks_hlistDelInit (net : L2tpNet n) (i : ℕ) :
    (hlistDelInit net i).tunnelSocks = net.tunnelSocks := by
  unfold hlistDelInit
  split
  · rfl
  · apply map_modify_of_eq
    intro tunnel
    rfl

theorem tunnelList_hlistDelInit (net : L2tpNet n) (i : ℕ) :
    (hlistDelInit net i).tunnelList = net.tunnelList := by
  unfold hlistDelInit
  split <;> rfl

/-- A session is unhashed, and nothing happens to the tunnels. -/
structure Unhashed (net : L2tpNet n) (i : ℕ) (net' : L2tpNet n) : Prop where
  tables : net'.tables = net.tables.unhash i
  tunnelSocks : net'.tunnelSocks = net.tunnelSocks
  tunnelList : net'.tunnelList = net.tunnelList

theorem Unhashed.sessions {net net' : L2tpNet n} {i : ℕ} (hunhashed : Unhashed net i net') :
    net'.tables.sessions = net.tables.sessions := by
  rw [hunhashed.tables]
  exact Tables.sessions_hlistDel net.tables i

theorem Unhashed.length {net net' : L2tpNet n} {i : ℕ} (hunhashed : Unhashed net i net') :
    net'.tunnels.length = net.tunnels.length := by
  simpa [L2tpNet.tunnelSocks] using congrArg List.length hunhashed.tunnelSocks

theorem unhashed_l2tpSessionDelete (env : Env n) (net : L2tpNet n) (i : ℕ) :
    Unhashed net i (l2tpSessionDelete env net i) where
  tables := tables_l2tpSessionDelete env net i
  tunnelSocks := by
    unfold l2tpSessionDelete
    dsimp only
    rw [tunnelSocks_onFlow KeepsSetup.deref,
      tunnelSocks_onFlow (KeepsSetup.l2tpSessionQueuePurge env)]
    exact (tunnelSocks_hlistDelInit _ i).trans (tunnelSocks_onFlow KeepsSetup.ref net i)
  tunnelList := by
    unfold l2tpSessionDelete
    dsimp only
    rw [tunnelList_onFlow, tunnelList_onFlow]
    exact (tunnelList_hlistDelInit _ i).trans (tunnelList_onFlow net i Flow.ref)

theorem unhashed_closeSession (env : Env n) (net : L2tpNet n) (i : ℕ) :
    Unhashed net i (closeSession env net i) where
  tables := tables_closeSession env net i
  tunnelSocks :=
    (unhashed_l2tpSessionDelete env (hlistDelInit net i) i).tunnelSocks.trans
      (tunnelSocks_hlistDelInit net i)
  tunnelList :=
    (unhashed_l2tpSessionDelete env (hlistDelInit net i) i).tunnelList.trans
      (tunnelList_hlistDelInit net i)

/-! ### Who holds what -/

/-- A call of `l2tp_tunnel_free` on a tunnel. -/
def LifeEvent.isTunnelFree (t : ℕ) : LifeEvent → Bool
  | .tunnelFree t' _ _ => t' = t
  | _ => false

namespace Lifetimes

/-- The tunnel a session was created for. -/
def owner (st : Lifetimes n) (i : ℕ) : Option ℕ := st.net.sessions[i]?.map (·.tunnel)

/-- How often `l2tp_tunnel_free` has run on a tunnel. -/
def frees (st : Lifetimes n) (t : ℕ) : ℕ := st.log.countP (·.isTunnelFree t)

/-- The log tells what has become of tunnels and sessions: which tunnels have lost their socket,
which have been freed, and that the sessions that have been freed are those not in `live`. -/
structure Logged (st : Lifetimes n) (live : Finset ℕ) : Prop where
  known : ∀ t, (.destruct t ∈ st.log ∨ st.frees t ≠ 0) → t < st.net.tunnels.length
  knownSession : ∀ i, .sessionFree i ∈ st.log → i < st.net.sessions.length
  destructed : ∀ t < st.net.tunnels.length, .destruct t ∈ st.log ↔ st.sockOf t = none
  freedSession : ∀ i < st.net.sessions.length, .sessionFree i ∈ st.log ↔ i ∉ live
  freed : ∀ t < st.net.tunnels.length, st.frees t = if st.tunnelRefs t = 0 then 1 else 0
  clean : ∀ t sock left, .tunnelFree t sock left ∈ st.log → sock = none ∧ left = []

/-- The counters count the holders. The sessions that hold are those in `live`, which are the ones
in the tables. A running function holds `held` references to a tunnel and `heldSk` to its socket,
among them those of sessions it is freeing, `leaving`. -/
structure Accounted (hash : SessionHash) (st : Lifetimes n) (live leaving : Finset ℕ)
    (held heldSk : ℕ → ℕ) : Prop where
  tabulates : Tabulates hash st.net.tables live
  session : ∀ i ∈ live, st.sessionRefs i = 1 ∧ st.sessionTunnel i = st.owner i
  pointer : ∀ i t, st.sessionTunnel i = some t → i ∈ live ∨ i ∈ leaving ∧ 0 < held t
  tunnel : ∀ t < st.net.tunnels.length, st.tunnelRefs t =
    ((st.sockOf t).isSome.toNat + refs st.owner live t + (st.delWork t).toNat + held t : ℕ)
  opened : ∀ t sk, st.sockOf t = some sk → st.skUserData sk = some t ∧ sk < st.skCount ∧
    st.skRefcnt sk = ((st.skSocket sk).toNat + refs st.owner live t + heldSk t : ℕ) ∧
      st.skRefcnt sk ≠ 0
  closed : ∀ t, st.sockOf t = none → refs st.owner live t = 0 ∧ heldSk t = 0
  userData : ∀ sk t, st.skUserData sk = some t → st.sockOf t = some sk
  listed : ∀ t, t ∈ st.net.tunnelList ↔ (st.sockOf t).isSome = true
  logged : Logged st live

/-- What no function on the way through an operation changes: sessions do not move, and a tunnel can
only lose its socket, and only if the reference of the creation has gone. -/
structure Later (st st' : Lifetimes n) : Prop where
  length : st'.net.tunnels.length = st.net.tunnels.length
  sessions : st'.net.tables.sessions = st.net.tables.sessions
  sock : ∀ t, st'.sockOf t = st.sockOf t ∨
    st'.sockOf t = none ∧ ∀ sk, st.sockOf t = some sk → st.skSocket sk = false
  delWork : st'.delWork = st.delWork
  skSocket : st'.skSocket = st.skSocket

theorem Later.refl (st : Lifetimes n) : Later st st := ⟨rfl, rfl, fun _ ↦ Or.inl rfl, rfl, rfl⟩

theorem Later.trans {first second third : Lifetimes n} (hfirst : Later first second)
    (hsecond : Later second third) : Later first third where
  length := hsecond.length.trans hfirst.length
  sessions := hsecond.sessions.trans hfirst.sessions
  sock := by
    intro t
    rcases hsecond.sock t with hsame | ⟨hnone, hsocket⟩
    · rw [hsame]
      exact hfirst.sock t
    · rcases hfirst.sock t with hsame | hlost
      · rw [hsame, hfirst.skSocket] at hsocket
        exact Or.inr ⟨hnone, hsocket⟩
      · exact Or.inr ⟨hnone, hlost.2⟩
  delWork := hsecond.delWork.trans hfirst.delWork
  skSocket := hsecond.skSocket.trans hfirst.skSocket

/-- What a function that drops a reference does not change beyond that. -/
structure KeepsSessions (st st' : Lifetimes n) : Prop extends Later st st' where
  tables : st'.net.tables = st.net.tables

theorem KeepsSessions.trans {first second third : Lifetimes n}
    (hfirst : KeepsSessions first second) (hsecond : KeepsSessions second third) :
    KeepsSessions first third where
  toLater := hfirst.toLater.trans hsecond.toLater
  tables := hsecond.tables.trans hfirst.tables

theorem keepsSessions_addSkRefcnt (st : Lifetimes n) (sk : ℕ) (change : ℤ) :
    KeepsSessions st (st.addSkRefcnt sk change) :=
  ⟨⟨rfl, rfl, fun _ ↦ Or.inl rfl, rfl, rfl⟩, rfl⟩

theorem keepsSessions_addTunnelRefs (st : Lifetimes n) (t : ℕ) (change : ℤ) :
    KeepsSessions st (st.addTunnelRefs t change) :=
  ⟨⟨rfl, rfl, fun _ ↦ Or.inl rfl, rfl, rfl⟩, rfl⟩

/-- The tunnels, their sockets and the counters of both stay as they are. -/
structure SameCounts (st st' : Lifetimes n) : Prop where
  length : st'.net.tunnels.length = st.net.tunnels.length
  tunnelList : st'.net.tunnelList = st.net.tunnelList
  sockOf : st'.sockOf = st.sockOf
  tunnelRefs : st'.tunnelRefs = st.tunnelRefs
  delWork : st'.delWork = st.delWork
  skCount : st'.skCount = st.skCount
  skRefcnt : st'.skRefcnt = st.skRefcnt
  skUserData : st'.skUserData = st.skUserData
  skSocket : st'.skSocket = st.skSocket

section

variable {hash : SessionHash} {st st' : Lifetimes n} {live leaving : Finset ℕ}
  {held heldSk : ℕ → ℕ} {t sk i : ℕ}

theorem sockOf_eq (st : Lifetimes n) (t : ℕ) : st.sockOf t = st.net.tunnelSocks[t]?.join := by
  rw [L2tpNet.tunnelSocks, List.getElem?_map, sockOf]
  cases st.net.tunnels[t]? with
  | none => rfl
  | some tunnel => rfl

theorem owner_eq (st : Lifetimes n) (i : ℕ) :
    st.owner i = st.net.tables.sessions[i]?.map (·.tunnel) := by
  rw [owner, L2tpNet.tables, List.getElem?_map, Option.map_map]
  rfl

theorem owner_congr (hsessions : st'.net.tables.sessions = st.net.tables.sessions) :
    st'.owner = st.owner := by
  funext i
  rw [owner_eq, owner_eq, hsessions]

theorem update_false {f : ℕ → Bool} {a b : ℕ} (hfalse : f b = false) :
    Function.update f a false b = false := by
  by_cases heq : b = a
  · rw [heq, Function.update_self]
  · rwa [Function.update_of_ne heq]

theorem sockOf_congr (hsocks : st'.net.tunnelSocks = st.net.tunnelSocks) :
    st'.sockOf = st.sockOf := by
  funext t
  rw [sockOf_eq, sockOf_eq, hsocks]

theorem ne_of_sockOf {t' : ℕ} (hsk : st.sockOf t = some sk) (hnone : st.sockOf t' = none) :
    t' ≠ t := by
  rintro rfl
  exact Option.some_ne_none sk (hsk.symm.trans hnone)

theorem lt_of_sockOf (hsk : st.sockOf t = some sk) : t < st.net.tunnels.length := by
  by_contra hlarge
  rw [sockOf, List.getElem?_eq_none (Nat.le_of_not_lt hlarge)] at hsk
  exact absurd hsk (by simp)

/-! ### Dropping a reference, by cases -/

@[simp] theorem tunnelRefs_addTunnelRefs (st : Lifetimes n) (t : ℕ) (change : ℤ) :
    (st.addTunnelRefs t change).tunnelRefs t = st.tunnelRefs t + change :=
  Function.update_self t _ _

theorem tunnelRefs_addTunnelRefs_of_ne (st : Lifetimes n) {t t' : ℕ} (hne : t' ≠ t)
    (change : ℤ) : (st.addTunnelRefs t change).tunnelRefs t' = st.tunnelRefs t' :=
  Function.update_of_ne hne _ _

@[simp] theorem skRefcnt_addSkRefcnt (st : Lifetimes n) (sk : ℕ) (change : ℤ) :
    (st.addSkRefcnt sk change).skRefcnt sk = st.skRefcnt sk + change :=
  Function.update_self sk _ _

theorem skRefcnt_addSkRefcnt_of_ne (st : Lifetimes n) {sk sk' : ℕ} (hne : sk' ≠ sk)
    (change : ℤ) : (st.addSkRefcnt sk change).skRefcnt sk' = st.skRefcnt sk' :=
  Function.update_of_ne hne _ _

theorem l2tpTunnelDecRefcount_of_ne (hrefs : st.tunnelRefs t ≠ 1) :
    st.l2tpTunnelDecRefcount t = .ok (st.addTunnelRefs t (-1)) := by
  unfold l2tpTunnelDecRefcount
  dsimp only
  rw [if_neg]
  rw [tunnelRefs_addTunnelRefs]
  omega

theorem l2tpTunnelDecRefcount_last (hrefs : st.tunnelRefs t = 1) (hsock : st.sockOf t = none) :
    st.l2tpTunnelDecRefcount t =
      .ok ((st.addTunnelRefs t (-1)).record (.tunnelFree t none (st.left t))) := by
  have hzero : (st.addTunnelRefs t (-1)).tunnelRefs t = 0 := by
    rw [tunnelRefs_addTunnelRefs, hrefs]
    rfl
  have hsock' : (st.addTunnelRefs t (-1)).sockOf t = none := hsock
  unfold l2tpTunnelDecRefcount l2tpTunnelFree
  simp only [hzero, hsock']
  rfl

theorem sockPut_of_ne (destruct : Destructor n) (hrefs : st.skRefcnt sk ≠ 1) :
    st.sockPut destruct (some sk) = .ok (st.addSkRefcnt sk (-1)) := by
  unfold sockPut
  dsimp only
  rw [if_neg]
  rw [skRefcnt_addSkRefcnt]
  omega

theorem sockPut_last (destruct : Destructor n) (hrefs : st.skRefcnt sk = 1) :
    st.sockPut destruct (some sk) = destruct (st.addSkRefcnt sk (-1)) sk := by
  unfold sockPut
  dsimp only
  rw [if_pos]
  rw [skRefcnt_addSkRefcnt]
  omega

/-! ### A tunnel that loses its socket -/

theorem sockOf_unhook (st : Lifetimes n) (t sk t' : ℕ) :
    (st.unhook t sk).sockOf t' = if t' = t then none else st.sockOf t' := by
  simp only [unhook, sockOf, L2tpNet.onTunnel, List.getElem?_modify]
  cases st.net.tunnels[t']? with
  | none => simp
  | some tunnel =>
    by_cases heq : t' = t
    · simp [heq]
    · simp [heq, Ne.symm heq]

theorem tables_unhook (st : Lifetimes n) (t sk : ℕ) :
    (st.unhook t sk).net.tables = st.net.tables := by
  have hkeeps : KeepsTunnel fun tunnel : L2tpTunnel n ↦ { tunnel with sock := none } :=
    ⟨fun _ ↦ rfl, fun _ ↦ rfl, fun _ ↦ rfl⟩
  exact tables_onTunnel hkeeps st.net t

/-! ### New entries of the log -/

theorem frees_append {event : LifeEvent} (hlog : st'.log = st.log ++ [event]) (t : ℕ) :
    st'.frees t = st.frees t + (event.isTunnelFree t).toNat := by
  unfold frees
  rw [hlog, List.countP_append, List.countP_singleton]
  cases event.isTunnelFree t <;> rfl

namespace Logged

/-- A tunnel is freed. -/
theorem tunnelFree (hlogged : Logged st live) (ht : t < st.net.tunnels.length)
    (hnet : st'.net = st.net) (hlog : st'.log = st.log ++ [.tunnelFree t none []])
    (hbefore : st.tunnelRefs t ≠ 0) (hzero : st'.tunnelRefs t = 0)
    (hother : ∀ t', t' ≠ t → st'.tunnelRefs t' = st.tunnelRefs t') : Logged st' live := by
  have hfrees : ∀ t', t' ≠ t → st'.frees t' = st.frees t' := by
    intro t' hne
    rw [frees_append hlog]
    simp [LifeEvent.isTunnelFree, Ne.symm hne]
  refine ⟨?_, ?_, ?_, ?_, ?_, ?_⟩
  · intro t' hmem
    rw [hnet]
    by_cases heq : t' = t
    · rwa [heq]
    · rw [hfrees t' heq, hlog] at hmem
      exact hlogged.known t' (by simpa using hmem)
  · intro i hmem
    rw [hnet]
    rw [hlog] at hmem
    exact hlogged.knownSession i (by simpa using hmem)
  · intro t' ht'
    rw [hnet] at ht'
    rw [sockOf, hnet, ← sockOf, ← hlogged.destructed t' ht', hlog]
    simp
  · intro i hi
    rw [hnet] at hi
    rw [← hlogged.freedSession i hi, hlog]
    simp
  · intro t' ht'
    rw [hnet] at ht'
    by_cases heq : t' = t
    · rw [heq, hzero, if_pos rfl, frees_append hlog, hlogged.freed t ht, if_neg hbefore]
      simp [LifeEvent.isTunnelFree]
    · rw [hfrees t' heq, hother t' heq]
      exact hlogged.freed t' ht'
  · intro t' sock left hmem
    rw [hlog] at hmem
    simp only [List.mem_append, List.mem_singleton, LifeEvent.tunnelFree.injEq] at hmem
    rcases hmem with hold | hnew
    · exact hlogged.clean t' sock left hold
    · exact hnew.2

/-- A tunnel loses its socket. -/
theorem destruct (hlogged : Logged st live) (ht : t < st.net.tunnels.length)
    (hlength : st'.net.tunnels.length = st.net.tunnels.length)
    (hsessions : st'.net.sessions.length = st.net.sessions.length)
    (hlog : st'.log = st.log ++ [.destruct t]) (hrefs : st'.tunnelRefs = st.tunnelRefs)
    (hsock : ∀ t', st'.sockOf t' = if t' = t then none else st.sockOf t') : Logged st' live := by
  have hfrees : ∀ t', st'.frees t' = st.frees t' := fun t' ↦ frees_append hlog t'
  refine ⟨?_, ?_, ?_, ?_, ?_, ?_⟩
  · intro t' hmem
    rw [hlength]
    by_cases heq : t' = t
    · rwa [heq]
    · rw [hfrees t', hlog] at hmem
      exact hlogged.known t' (by simpa [heq] using hmem)
  · intro i hmem
    rw [hsessions]
    rw [hlog] at hmem
    exact hlogged.knownSession i (by simpa using hmem)
  · intro t' ht'
    rw [hlength] at ht'
    rw [hsock, hlog]
    by_cases heq : t' = t
    · simp [heq]
    · simp [heq, hlogged.destructed t' ht']
  · intro i hi
    rw [hsessions] at hi
    rw [← hlogged.freedSession i hi, hlog]
    simp
  · intro t' ht'
    rw [hlength] at ht'
    rw [hfrees, hrefs]
    exact hlogged.freed t' ht'
  · intro t' sock left hmem
    rw [hlog] at hmem
    exact hlogged.clean t' sock left (by simpa using hmem)

/-- A session is freed. -/
theorem sessionFree (hlogged : Logged st live) (hi : i < st.net.sessions.length)
    (hlength : st'.net.tunnels.length = st.net.tunnels.length)
    (hsessions : st'.net.sessions.length = st.net.sessions.length)
    (hlog : st'.log = st.log ++ [.sessionFree i]) (hrefs : st'.tunnelRefs = st.tunnelRefs)
    (hsock : st'.sockOf = st.sockOf) : Logged st' (live.erase i) := by
  have hfrees : ∀ t', st'.frees t' = st.frees t' := fun t' ↦ frees_append hlog t'
  refine ⟨?_, ?_, ?_, ?_, ?_, ?_⟩
  · intro t' hmem
    rw [hlength]
    rw [hfrees t', hlog] at hmem
    exact hlogged.known t' (by simpa using hmem)
  · intro j hmem
    rw [hsessions]
    rw [hlog] at hmem
    by_cases heq : j = i
    · rwa [heq]
    · exact hlogged.knownSession j (by simpa [heq] using hmem)
  · intro t' ht'
    rw [hlength] at ht'
    rw [hsock, ← hlogged.destructed t' ht', hlog]
    simp
  · intro j hj
    rw [hsessions] at hj
    rw [hlog, List.mem_append, hlogged.freedSession j hj]
    simp [or_comm, imp_iff_not_or]
  · intro t' ht'
    rw [hlength] at ht'
    rw [hfrees, hrefs]
    exact hlogged.freed t' ht'
  · intro t' sock left hmem
    rw [hlog] at hmem
    exact hlogged.clean t' sock left (by simpa using hmem)

/-- The count of a tunnel that is not freed changes. -/
theorem addTunnelRefs (hlogged : Logged st live) {change : ℤ} (hbefore : st.tunnelRefs t ≠ 0)
    (hafter : st.tunnelRefs t + change ≠ 0) : Logged (st.addTunnelRefs t change) live := by
  refine { hlogged with freed := fun t' ht' ↦ ?_ }
  have hsame : (st.addTunnelRefs t change).tunnelRefs t' = 0 ↔ st.tunnelRefs t' = 0 := by
    by_cases heq : t' = t
    · rw [heq, tunnelRefs_addTunnelRefs]
      exact iff_of_false hafter hbefore
    · rw [tunnelRefs_addTunnelRefs_of_ne st heq]
  simp only [hsame]
  exact hlogged.freed t' ht'

/-- A tunnel is made. -/
theorem addTunnel (hlogged : Logged st live)
    (hlength : st'.net.tunnels.length = st.net.tunnels.length + 1)
    (hsessions : st'.net.sessions.length = st.net.sessions.length) (hlog : st'.log = st.log)
    (hrefs : st'.tunnelRefs = Function.update st.tunnelRefs st.net.tunnels.length 1)
    (hsock : ∀ t, st'.sockOf t = if t = st.net.tunnels.length then some sk else st.sockOf t) :
    Logged st' live := by
  have hfrees : st'.frees = st.frees := by
    funext t
    rw [frees, frees, hlog]
  have hnew : ¬ (.destruct st.net.tunnels.length ∈ st.log ∨ st.frees st.net.tunnels.length ≠ 0) :=
    fun hmem ↦ Nat.lt_irrefl _ (hlogged.known _ hmem)
  rw [not_or, not_not] at hnew
  refine ⟨?_, ?_, ?_, ?_, ?_, ?_⟩
  · intro t hmem
    rw [hfrees, hlog] at hmem
    rw [hlength]
    exact Nat.lt_succ_of_lt (hlogged.known t hmem)
  · rw [hlog, hsessions]
    exact hlogged.knownSession
  · intro t ht
    rw [hsock, hlog]
    by_cases heq : t = st.net.tunnels.length
    · simp [heq, hnew.1]
    · rw [if_neg heq]
      exact hlogged.destructed t (by omega)
  · rw [hlog, hsessions]
    exact hlogged.freedSession
  · intro t ht
    rw [hfrees, hrefs]
    by_cases heq : t = st.net.tunnels.length
    · rw [heq, Function.update_self, hnew.2, if_neg one_ne_zero]
    · rw [Function.update_of_ne heq]
      exact hlogged.freed t (by omega)
  · rw [hlog]
    exact hlogged.clean

/-- A session is made. -/
theorem addSession (hlogged : Logged st live)
    (hlength : st'.net.tunnels.length = st.net.tunnels.length)
    (hsessions : st'.net.sessions.length = st.net.sessions.length + 1) (hlog : st'.log = st.log)
    (hrefs : st'.tunnelRefs = st.tunnelRefs) (hsock : st'.sockOf = st.sockOf) :
    Logged st' (insert st.net.sessions.length live) := by
  have hfrees : st'.frees = st.frees := by
    funext t
    rw [frees, frees, hlog]
  refine ⟨?_, ?_, ?_, ?_, ?_, ?_⟩
  · rw [hlog, hfrees, hlength]
    exact hlogged.known
  · intro j hmem
    rw [hlog] at hmem
    rw [hsessions]
    exact Nat.lt_succ_of_lt (hlogged.knownSession j hmem)
  · rw [hlog, hlength, hsock]
    exact hlogged.destructed
  · intro j hj
    rw [hlog, Finset.mem_insert, not_or]
    by_cases heq : j = st.net.sessions.length
    · simp only [heq, not_true_eq_false, false_and, iff_false]
      exact fun hmem ↦ Nat.lt_irrefl _ (hlogged.knownSession _ hmem)
    · rw [hlogged.freedSession j (by omega)]
      exact ⟨fun hout ↦ ⟨heq, hout⟩, fun hout ↦ hout.2⟩
  · rw [hlength, hfrees, hrefs]
    exact hlogged.freed
  · rw [hlog]
    exact hlogged.clean

end Logged

/-! ### Accounting -/

namespace Accounted

/-- A session that holds belongs to a tunnel that has a socket. -/
theorem owner_of_mem (haccounted : Accounted hash st live leaving held heldSk) (hi : i ∈ live) :
    ∃ t sk, st.owner i = some t ∧ st.sockOf t = some sk := by
  have hlt := haccounted.tabulates.known i hi
  obtain ⟨t, ht⟩ : ∃ t, st.owner i = some t := by
    rw [owner_eq, List.getElem?_eq_getElem hlt]
    exact ⟨_, rfl⟩
  cases hsk : st.sockOf t with
  | none => exact absurd ht (refs_eq_zero_iff.mp (haccounted.closed t hsk).1 i hi)
  | some sk => exact ⟨t, sk, ht, hsk⟩

/-- While no session is being freed, a session that points to a tunnel holds it. -/
theorem mem_of_pointer (haccounted : Accounted hash st live ∅ held heldSk)
    (hpoints : st.sessionTunnel i = some t) : i ∈ live :=
  (haccounted.pointer i t hpoints).resolve_right fun hleft ↦
    absurd hleft.1 (Finset.notMem_empty i)

/-- A session that is being freed may point to a tunnel that is held even more. -/
theorem pointer_add (haccounted : Accounted hash st live leaving held heldSk) (more : ℕ → ℕ)
    (i t : ℕ) (hpoints : st.sessionTunnel i = some t) :
    i ∈ live ∨ i ∈ leaving ∧ 0 < (held + more) t :=
  (haccounted.pointer i t hpoints).imp_right fun hleft ↦
    ⟨hleft.1, Nat.lt_of_lt_of_le hleft.2 (Nat.le_add_right _ _)⟩

/-- No session points to a tunnel that no session holds. -/
theorem left_eq_nil (haccounted : Accounted hash st live leaving held heldSk)
    (hpointer : ∀ i, st.sessionTunnel i = some t → i ∈ live) (hrefs : refs st.owner live t = 0) :
    st.left t = [] := by
  unfold left
  rw [List.filter_eq_nil_iff]
  intro i _ hpoints
  have hmem := hpointer i (of_decide_eq_true hpoints)
  apply refs_eq_zero_iff.mp hrefs i hmem
  rw [← (haccounted.session i hmem).2, of_decide_eq_true hpoints]

/-- A reference to a tunnel is dropped. If it was the last one, the tunnel is freed. -/
theorem tunnelDec (haccounted : Accounted hash st live leaving (held + Pi.single t 1) heldSk)
    (ht : t < st.net.tunnels.length) (hleaving : leaving = ∅ ∨ 0 < held t) :
    Yields (st.l2tpTunnelDecRefcount t) fun st' ↦
      Accounted hash st' live leaving held heldSk ∧ KeepsSessions st st' := by
  have hrefs := haccounted.tunnel t ht
  rw [Pi.add_apply, Pi.single_eq_same] at hrefs
  have hcounts : ∀ t' < st.net.tunnels.length,
      (st.addTunnelRefs t (-1)).tunnelRefs t' = ((st.sockOf t').isSome.toNat +
        refs st.owner live t' + (st.delWork t').toNat + held t' : ℕ) := by
    intro t' ht'
    by_cases heq : t' = t
    · rw [heq, tunnelRefs_addTunnelRefs]
      omega
    · rw [tunnelRefs_addTunnelRefs_of_ne st heq, haccounted.tunnel t' ht', Pi.add_apply,
        Pi.single_eq_of_ne heq, Nat.add_zero]
  have hpointer : ∀ i t', st.sessionTunnel i = some t' → i ∈ live ∨ i ∈ leaving ∧ 0 < held t' := by
    intro i t' hi
    rcases haccounted.pointer i t' hi with hmem | ⟨hmem, hpos⟩
    · exact Or.inl hmem
    · refine Or.inr ⟨hmem, ?_⟩
      by_cases heq : t' = t
      · rw [heq]
        apply hleaving.resolve_left
        rintro rfl
        exact absurd hmem (Finset.notMem_empty i)
      · rwa [Pi.add_apply, Pi.single_eq_of_ne heq, Nat.add_zero] at hpos
  by_cases hlast : st.tunnelRefs t = 1
  · have hsock : st.sockOf t = none := by
      cases hsk : st.sockOf t with
      | none => rfl
      | some sk =>
        simp only [hsk, Option.isSome_some, Bool.toNat_true] at hrefs
        omega
    have hleft : st.left t = [] := by
      apply haccounted.left_eq_nil _ (by omega)
      intro i hi
      refine (hpointer i t hi).resolve_right fun hleft ↦ ?_
      have hpos := hleft.2
      omega
    have hzero : (st.addTunnelRefs t (-1)).tunnelRefs t = 0 := by
      rw [tunnelRefs_addTunnelRefs]
      omega
    rw [l2tpTunnelDecRefcount_last hlast hsock, hleft]
    exact yields_ok ⟨{ haccounted with
      tunnel := hcounts
      pointer := hpointer
      logged := haccounted.logged.tunnelFree ht rfl rfl (by omega) hzero
        fun t' hne ↦ tunnelRefs_addTunnelRefs_of_ne st hne (-1) },
      ⟨⟨rfl, rfl, fun _ ↦ Or.inl rfl, rfl, rfl⟩, rfl⟩⟩
  · rw [l2tpTunnelDecRefcount_of_ne hlast]
    exact yields_ok ⟨{ haccounted with
      tunnel := hcounts
      pointer := hpointer
      logged := haccounted.logged.addTunnelRefs (by omega) (by omega) },
      keepsSessions_addTunnelRefs st t (-1)⟩

/-- A reference to a tunnel that has a socket is taken. -/
theorem tunnelInc (haccounted : Accounted hash st live leaving held heldSk)
    (hsk : st.sockOf t = some sk) :
    Accounted hash (st.l2tpTunnelIncRefcount t) live leaving (held + Pi.single t 1) heldSk := by
  have hrefs := haccounted.tunnel t (lt_of_sockOf hsk)
  rw [hsk, Option.isSome_some, Bool.toNat_true] at hrefs
  refine { haccounted with
    pointer := haccounted.pointer_add (Pi.single t 1)
    tunnel := fun t' ht' ↦ ?_
    logged := haccounted.logged.addTunnelRefs (by omega) (by omega) }
  have hbefore := haccounted.tunnel t' ht'
  by_cases heq : t' = t
  · rw [heq] at hbefore
    rw [heq, l2tpTunnelIncRefcount, tunnelRefs_addTunnelRefs, hbefore, Pi.add_apply,
      Pi.single_eq_same]
    exact (Nat.cast_succ _).symm
  · rw [l2tpTunnelIncRefcount, tunnelRefs_addTunnelRefs_of_ne st heq, hbefore, Pi.add_apply,
      Pi.single_eq_of_ne heq, Nat.add_zero]
    rfl

/-- Two tunnels do not share a socket. -/
theorem sockOf_inj (haccounted : Accounted hash st live leaving held heldSk) {t' : ℕ}
    (hsk : st.sockOf t = some sk) (hsk' : st.sockOf t' = some sk) : t' = t := by
  have hdata := (haccounted.opened t sk hsk).1
  rw [(haccounted.opened t' sk hsk').1] at hdata
  exact Option.some.inj hdata

/-- References to the socket of a tunnel are taken or dropped, but not the last one. -/
theorem addSk (haccounted : Accounted hash st live leaving held heldSk)
    (hsk : st.sockOf t = some sk)
    {heldSk' : ℕ → ℕ} {change : ℤ} (hself : (heldSk' t : ℤ) = heldSk t + change)
    (hother : ∀ t', t' ≠ t → heldSk' t' = heldSk t') (hopen : st.skRefcnt sk + change ≠ 0) :
    Accounted hash (st.addSkRefcnt sk change) live leaving held heldSk' := by
  refine { haccounted with
    opened := fun t' sk' hsk' ↦ ?_
    closed := fun t' hnone ↦ ?_
    logged := { haccounted.logged with } }
  · obtain ⟨hdata, hlt, hcount, hpos⟩ := haccounted.opened t' sk' hsk'
    refine ⟨hdata, hlt, ?_⟩
    by_cases heq : sk' = sk
    · subst heq
      obtain rfl := haccounted.sockOf_inj hsk hsk'
      rw [skRefcnt_addSkRefcnt]
      refine ⟨?_, hopen⟩
      change st.skRefcnt sk' + change =
        ((st.skSocket sk').toNat + refs st.owner live t' + heldSk' t' : ℕ)
      omega
    · have hne : t' ≠ t := by
        rintro rfl
        exact heq (Option.some.inj (hsk'.symm.trans hsk))
      rw [skRefcnt_addSkRefcnt_of_ne st heq, hother t' hne]
      exact ⟨hcount, hpos⟩
  · rw [hother t' (ne_of_sockOf hsk hnone)]
    exact haccounted.closed t' hnone

/-- A reference to the socket of a tunnel is taken. -/
theorem sockHold (haccounted : Accounted hash st live leaving held heldSk)
    (hsk : st.sockOf t = some sk) :
    Accounted hash (st.addSkRefcnt sk 1) live leaving held (heldSk + Pi.single t 1) := by
  have hcount := (haccounted.opened t sk hsk).2.2.1
  apply haccounted.addSk hsk
  · simp
  · intro t' hne
    simp [Pi.single_eq_of_ne hne]
  · omega

/-- The socket of a tunnel goes: its reference to the tunnel becomes one of the running function. -/
theorem tunnel_unhook (haccounted : Accounted hash st live leaving held heldSk)
    (hsk : st.sockOf t = some sk) {t' : ℕ} (ht' : t' < st.net.tunnels.length) :
    st.tunnelRefs t' = ((if t' = t then none else st.sockOf t').isSome.toNat +
      refs st.owner live t' + (st.delWork t').toNat + (held + Pi.single t 1 : ℕ → ℕ) t' : ℕ) := by
  have hbefore := haccounted.tunnel t' ht'
  by_cases heq : t' = t
  · subst heq
    rw [hsk] at hbefore
    rw [if_pos rfl, Pi.add_apply, Pi.single_eq_same]
    simp only [Option.isSome_some, Option.isSome_none, Bool.toNat_true, Bool.toNat_false]
      at hbefore ⊢
    omega
  · rw [if_neg heq, Pi.add_apply, Pi.single_eq_of_ne heq]
    exact hbefore

/-- The other sockets keep what they have. -/
theorem opened_unhook (haccounted : Accounted hash st live leaving held (heldSk + Pi.single t 1))
    (hsk : st.sockOf t = some sk) {t' sk' : ℕ} (heq : t' ≠ t) (hsk' : st.sockOf t' = some sk') :
    Function.update st.skUserData sk none sk' = some t' ∧ sk' < st.skCount ∧
      (st.addSkRefcnt sk (-1)).skRefcnt sk' =
        ((st.skSocket sk').toNat + refs st.owner live t' + heldSk t' : ℕ) ∧
      (st.addSkRefcnt sk (-1)).skRefcnt sk' ≠ 0 := by
  have hne : sk' ≠ sk := by
    rintro rfl
    exact heq (haccounted.sockOf_inj hsk hsk')
  obtain ⟨hdata, hlt, hrefcnt, hpos⟩ := haccounted.opened t' sk' hsk'
  rw [Pi.add_apply, Pi.single_eq_of_ne heq, Nat.add_zero] at hrefcnt
  rw [Function.update_of_ne hne, skRefcnt_addSkRefcnt_of_ne st hne (-1)]
  exact ⟨hdata, hlt, hrefcnt, hpos⟩

/-- The last reference to the socket of a tunnel goes, and with it the reference of the socket to
the tunnel becomes one of the running function. -/
theorem close (haccounted : Accounted hash st live leaving held (heldSk + Pi.single t 1))
    (hsk : st.sockOf t = some sk) (hlast : st.skRefcnt sk = 1) :
    refs st.owner live t = 0 ∧ st.skSocket sk = false ∧
      Accounted hash (((st.addSkRefcnt sk (-1)).unhook t sk).record (.destruct t)) live leaving
        (held + Pi.single t 1) heldSk := by
  have hcount := (haccounted.opened t sk hsk).2.2.1
  rw [Pi.add_apply, Pi.single_eq_same] at hcount
  have hrefs : refs st.owner live t = 0 := by omega
  have hsocket : st.skSocket sk = false := Bool.toNat_eq_zero.mp (by omega)
  have hsock : ∀ t', (((st.addSkRefcnt sk (-1)).unhook t sk).record (.destruct t)).sockOf t' =
      if t' = t then none else st.sockOf t' := sockOf_unhook (st.addSkRefcnt sk (-1)) t sk
  have hlength : (((st.addSkRefcnt sk (-1)).unhook t sk).record (.destruct t)).net.tunnels.length =
      st.net.tunnels.length := List.length_modify _ _ _
  refine ⟨hrefs, hsocket, { haccounted with
    tabulates := ?_
    pointer := haccounted.pointer_add (Pi.single t 1)
    tunnel := fun t' ht' ↦ ?_
    opened := fun t' sk' hsk' ↦ ?_
    closed := fun t' hnone ↦ ?_
    userData := fun sk' t' hdata ↦ ?_
    listed := fun t' ↦ ?_
    logged := haccounted.logged.destruct (lt_of_sockOf hsk) hlength rfl rfl rfl hsock }⟩
  · exact (tables_unhook (st.addSkRefcnt sk (-1)) t sk).symm ▸ haccounted.tabulates
  · rw [hsock]
    exact haccounted.tunnel_unhook hsk (hlength ▸ ht')
  · rw [hsock] at hsk'
    split_ifs at hsk' with heq
    exact haccounted.opened_unhook hsk heq hsk'
  · rw [hsock] at hnone
    split_ifs at hnone with heq
    · rw [heq]
      exact ⟨hrefs, by omega⟩
    · have hbefore := haccounted.closed t' hnone
      rwa [Pi.add_apply, Pi.single_eq_of_ne heq, Nat.add_zero] at hbefore
  · have hsk_ne : sk' ≠ sk := by
      rintro rfl
      exact Option.some_ne_none t' (hdata.symm.trans (Function.update_self _ _ _))
    have hbefore := haccounted.userData sk' t' ((Function.update_of_ne hsk_ne _ _).symm.trans hdata)
    rw [hsock, if_neg]
    · exact hbefore
    · rintro rfl
      exact hsk_ne (Option.some.inj (hbefore.symm.trans hsk))
  · rw [hsock]
    change t' ∈ st.net.tunnelList.filter (· ≠ t) ↔ _
    rw [List.mem_filter, haccounted.listed t']
    by_cases heq : t' = t
    · simp [heq]
    · simp [heq]

/-- A tunnel without sessions has none to close. -/
theorem closeall_of_refs_eq_zero (htabulates : Tabulates hash st.net.tables live)
    (hrefs : refs st.owner live t = 0) (env : Env n) (destruct : Destructor n) :
    st.l2tpTunnelCloseall env destruct t = .ok st := by
  have hchain : ∀ bucket, st.net.chain t bucket = [] := by
    intro bucket
    rw [List.eq_nil_iff_forall_not_mem]
    intro i hmem
    obtain ⟨-, sessionId, -, hmember, -⟩ := (mem_chain_iff htabulates).mp hmem
    obtain ⟨hi, hentry⟩ := Tables.tunnelMember_eq_some_iff.mp hmember
    apply refs_eq_zero_iff.mp hrefs i hi
    rw [owner_eq, hentry]
    rfl
  have hloop : ∀ buckets : List (Fin 16), buckets.foldlM (fun st bucket ↦
      drainM (closeStep env destruct t bucket) (st.net.chain t bucket).length st) st = .ok st := by
    intro buckets
    induction buckets with
    | nil => rfl
    | cons bucket buckets ih =>
      rw [List.foldlM_cons, hchain]
      exact ih
  exact hloop _

/-- A reference to the socket of a tunnel is dropped. If it was the last one, the tunnel loses the
socket, and the reference of the socket to the tunnel is dropped. -/
theorem sockPut (haccounted : Accounted hash st live leaving held (heldSk + Pi.single t 1))
    (hsk : st.sockOf t = some sk) (hleaving : leaving = ∅ ∨ 0 < held t) (env : Env n) (depth : ℕ) :
    Yields (st.sockPut (l2tpTunnelDestruct env (depth + 1)) (some sk)) fun st' ↦
      Accounted hash st' live leaving held heldSk ∧ KeepsSessions st st' := by
  by_cases hlast : st.skRefcnt sk = 1
  · obtain ⟨hrefs, hsocket, hclosed⟩ := haccounted.close hsk hlast
    have hdata : (st.addSkRefcnt sk (-1)).skUserData sk = some t := (haccounted.opened t sk hsk).1
    have hclose := closeall_of_refs_eq_zero hclosed.tabulates hrefs env
      (l2tpTunnelDestruct env depth)
    have hkeeps : KeepsSessions st (((st.addSkRefcnt sk (-1)).unhook t sk).record (.destruct t)) :=
      { length := List.length_modify _ _ _
        sessions := rfl
        sock := by
          intro t'
          have hsock := sockOf_unhook (st.addSkRefcnt sk (-1)) t sk t'
          split_ifs at hsock with heq
          · refine Or.inr ⟨hsock, fun sk' hsk' ↦ ?_⟩
            rw [heq, hsk] at hsk'
            rw [← Option.some.inj hsk']
            exact hsocket
          · exact Or.inl hsock
        delWork := rfl
        skSocket := rfl
        tables := tables_unhook (st.addSkRefcnt sk (-1)) t sk }
    rw [sockPut_last _ hlast]
    simp only [l2tpTunnelDestruct, hdata]
    rw [hclose]
    have hdec := hclosed.tunnelDec (by rw [hkeeps.length]; exact lt_of_sockOf hsk) hleaving
    exact hdec.imp fun st' hst' ↦ ⟨hst'.1, hkeeps.trans hst'.2⟩
  · rw [sockPut_of_ne _ hlast]
    refine yields_ok ⟨?_, keepsSessions_addSkRefcnt st sk (-1)⟩
    apply haccounted.addSk hsk
    · simp
    · intro t' hne
      simp [Pi.single_eq_of_ne hne]
    · omega

/-- References change hands between the sessions and the running function. -/
theorem handOver (haccounted : Accounted hash st live leaving held heldSk)
    {live' leaving' : Finset ℕ} {held' heldSk' : ℕ → ℕ} (hcounts : SameCounts st st')
    (hheld : ∀ t, refs st'.owner live' t + held' t = refs st.owner live t + held t)
    (hheldSk : ∀ t, refs st'.owner live' t + heldSk' t = refs st.owner live t + heldSk t)
    (htabulates : Tabulates hash st'.net.tables live')
    (hsession : ∀ i ∈ live', st'.sessionRefs i = 1 ∧ st'.sessionTunnel i = st'.owner i)
    (hpointer : ∀ i t, st'.sessionTunnel i = some t → i ∈ live' ∨ i ∈ leaving' ∧ 0 < held' t)
    (hlogged : Logged st' live') : Accounted hash st' live' leaving' held' heldSk' where
  tabulates := htabulates
  session := hsession
  pointer := hpointer
  tunnel := by
    intro t ht
    rw [hcounts.length] at ht
    rw [hcounts.tunnelRefs, hcounts.sockOf, hcounts.delWork, haccounted.tunnel t ht]
    have hsum := hheld t
    omega
  opened := by
    intro t sk hsk
    rw [hcounts.sockOf] at hsk
    obtain ⟨hdata, hlt, hrefcnt, hpos⟩ := haccounted.opened t sk hsk
    rw [hcounts.skUserData, hcounts.skCount, hcounts.skRefcnt, hcounts.skSocket]
    refine ⟨hdata, hlt, ?_, hpos⟩
    have hsum := hheldSk t
    omega
  closed := by
    intro t hnone
    rw [hcounts.sockOf] at hnone
    have hbefore := haccounted.closed t hnone
    have hsum := hheldSk t
    omega
  userData := by
    rw [hcounts.skUserData, hcounts.sockOf]
    exact haccounted.userData
  listed := by
    rw [hcounts.tunnelList, hcounts.sockOf]
    exact haccounted.listed
  logged := hlogged

/-- A session is unhashed and its last reference dropped. What it held is held by the running
function. -/
theorem detach (haccounted : Accounted hash st live ∅ held heldSk) (hi : i ∈ live)
    (howner : st.owner i = some t) {net' : L2tpNet n} (hunhashed : Unhashed st.net i net') :
    Accounted hash (({ st with net := net' }.addSessionRefs i (-1)).record (.sessionFree i))
      (live.erase i) {i} (held + Pi.single t 1) (heldSk + Pi.single t 1) := by
  have howners : (({ st with net := net' }.addSessionRefs i (-1)).record (.sessionFree i)).owner =
      st.owner := owner_congr hunhashed.sessions
  have hsocks : (({ st with net := net' }.addSessionRefs i (-1)).record (.sessionFree i)).sockOf =
      st.sockOf := sockOf_congr hunhashed.tunnelSocks
  have hlength := hunhashed.length
  have hcount : net'.sessions.length = st.net.sessions.length := by
    simpa [L2tpNet.tables] using congrArg List.length hunhashed.sessions
  have hrefs : ∀ t', refs st.owner live t' =
      refs st.owner (live.erase i) t' + (Pi.single t 1 : ℕ → ℕ) t' := by
    intro t'
    rw [refs_erase hi, howner, Pi.single_apply]
    simp only [Option.some.injEq, eq_comm]
  have hknown : i < st.net.sessions.length := by
    simpa [L2tpNet.tables] using haccounted.tabulates.known i hi
  refine haccounted.handOver
    ⟨hlength, hunhashed.tunnelList, hsocks, rfl, rfl, rfl, rfl, rfl, rfl⟩
    (fun t' ↦ ?_) (fun t' ↦ ?_) (hunhashed.tables ▸ haccounted.tabulates.unhash i)
    (fun j hj ↦ ?_) (fun j t' hj ↦ ?_)
    (haccounted.logged.sessionFree hknown hlength hcount rfl rfl hsocks)
  · rw [howners, hrefs, Pi.add_apply]
    omega
  · rw [howners, hrefs, Pi.add_apply]
    omega
  · obtain ⟨hne, hmem⟩ := Finset.mem_erase.mp hj
    rw [howners]
    exact ⟨(Function.update_of_ne hne _ _).trans (haccounted.session j hmem).1,
      (haccounted.session j hmem).2⟩
  · by_cases hji : j = i
    · -- The session still points to the tunnel, and holds it, through the running function.
      have hpoints := (haccounted.session i hi).2
      rw [hji] at hj
      rw [← Option.some.inj (howner.symm.trans (hpoints.symm.trans hj))]
      right
      simp [hji]
    · exact Or.inl (Finset.mem_erase.mpr ⟨hji, haccounted.mem_of_pointer hj⟩)

/-- A session that is being freed forgets its tunnel. -/
theorem forget (haccounted : Accounted hash st live {i} held heldSk) (hi : i ∉ live) :
    Accounted hash { st with sessionTunnel := Function.update st.sessionTunnel i none } live ∅ held
      heldSk := by
  refine { haccounted with
    session := fun j hj ↦ ?_
    pointer := fun j t' hj ↦ ?_
    logged := { haccounted.logged with } }
  · have hne : j ≠ i := by
      rintro rfl
      exact hi hj
    exact ⟨(haccounted.session j hj).1,
      (Function.update_of_ne hne _ _).trans (haccounted.session j hj).2⟩
  · have hne : j ≠ i := by
      rintro rfl
      exact Option.some_ne_none t' (hj.symm.trans (Function.update_self _ _ _))
    rcases haccounted.pointer j t' ((Function.update_of_ne hne _ _).symm.trans hj) with hmem | hleft
    · exact Or.inl hmem
    · exact absurd (Finset.mem_singleton.mp hleft.1) hne

/-- A session in the tables is unhashed and freed. -/
theorem sessionDrop (haccounted : Accounted hash st live ∅ held heldSk) (hi : i ∈ live)
    {net' : L2tpNet n} (hunhashed : Unhashed st.net i net') (env : Env n) (depth : ℕ) :
    Yields ({ st with net := net' }.l2tpSessionDecRefcount
      (l2tpTunnelDestruct env (depth + 1)) i) fun st' ↦
        Accounted hash st' (live.erase i) ∅ held heldSk ∧ Later st st' ∧
          st'.net.tables = net'.tables := by
  obtain ⟨t, sk, howner, hsk⟩ := haccounted.owner_of_mem hi
  have hdetached := haccounted.detach hi howner hunhashed
  obtain ⟨hone, hpoints⟩ := haccounted.session i hi
  have hzero : ({ st with net := net' }.addSessionRefs i (-1)).sessionRefs i = 0 := by
    change Function.update st.sessionRefs i (st.sessionRefs i + -1) i = 0
    rw [Function.update_self, hone]
    rfl
  have htunnel : (({ st with net := net' }.addSessionRefs i (-1)).record
      (.sessionFree i)).sessionTunnel i = some t := hpoints.trans howner
  have hsk' : (({ st with net := net' }.addSessionRefs i (-1)).record
      (.sessionFree i)).sockOf t = some sk :=
        (congrFun (sockOf_congr hunhashed.tunnelSocks) t).trans hsk
  have hlater : Later st
      (({ st with net := net' }.addSessionRefs i (-1)).record (.sessionFree i)) :=
    ⟨hunhashed.length, hunhashed.sessions,
      fun t' ↦ Or.inl (congrFun (sockOf_congr hunhashed.tunnelSocks) t'), rfl, rfl⟩
  unfold l2tpSessionDecRefcount l2tpSessionFree
  dsimp only
  rw [if_pos hzero, if_neg (not_not.mpr hzero)]
  simp only [htunnel, hsk']
  have hheld : 0 < (held + Pi.single t 1 : ℕ → ℕ) t := by simp
  refine (hdetached.sockPut hsk' (Or.inr hheld) env depth).bind fun put hput ↦ ?_
  have hforget := hput.1.forget (Finset.notMem_erase i live)
  have hlt : t < put.net.tunnels.length := by
    rw [hput.2.length]
    exact lt_of_sockOf hsk'
  refine (hforget.tunnelDec hlt (Or.inl rfl)).imp fun st' hst' ↦ ⟨hst'.1, ?_, ?_⟩
  · have hdropped : Later put st' :=
      ⟨hst'.2.length, hst'.2.sessions, hst'.2.sock, hst'.2.delWork, hst'.2.skSocket⟩
    exact (hlater.trans hput.2.toLater).trans hdropped
  · exact hst'.2.tables.trans hput.2.tables

/-- On the way through the chains of a tunnel. -/
def Closing (hash : SessionHash) (st : Lifetimes n) (live : Finset ℕ) (t : ℕ)
    (held heldSk : ℕ → ℕ) (done : List (Fin 16)) (turn : Lifetimes n) : Prop :=
  ∃ left, Accounted hash turn left ∅ held heldSk ∧ Later st turn ∧
    ClosedTo hash st.net live t done turn.net left

/-- The loop over one chain closes its sessions. -/
theorem closeChain {done : List (Fin 16)} {turn : Lifetimes n}
    (hclosing : Closing hash st live t held heldSk done turn) (env : Env n) (depth : ℕ)
    (bucket : Fin 16) :
    Yields (drainM (closeStep env (l2tpTunnelDestruct env (depth + 1)) t bucket)
      (turn.net.chain t bucket).length turn)
      (Closing hash st live t held heldSk (bucket :: done)) := by
  have hbody : ∀ turn next, Closing hash st live t held heldSk done turn →
      closeStep env (l2tpTunnelDestruct env (depth + 1)) t bucket turn = some next →
      Yields next fun turn' ↦ Closing hash st live t held heldSk done turn' ∧
        (turn'.net.chain t bucket).length < (turn.net.chain t bucket).length := by
    rintro turn next ⟨left, haccounted, hlater, hclosed⟩ hnext
    unfold closeStep at hnext
    cases hchain : turn.net.chain t bucket with
    | nil => simp [hchain] at hnext
    | cons i rest =>
      simp only [hchain, Option.some.injEq] at hnext
      have hhead : i ∈ turn.net.chain t bucket := by rw [hchain]; exact List.mem_cons_self
      obtain ⟨-, sessionId, -, hmember, -⟩ := (mem_chain_iff haccounted.tabulates).mp hhead
      have hi := (Tables.tunnelMember_eq_some_iff.mp hmember).1
      have hunhashed := unhashed_closeSession env turn.net i
      rw [← hnext, ← hchain]
      refine (haccounted.sessionDrop hi hunhashed env depth).imp fun turn' hturn' ↦ ?_
      have htables := hturn'.2.2.trans hunhashed.tables
      exact ⟨⟨left.erase i, hturn'.1, hlater.trans hturn'.2.1, hclosed.unhash hhead htables⟩,
        length_chain_unhash haccounted.tabulates hhead htables⟩
  refine (yields_drainM _ hbody _ turn hclosing le_rfl).imp ?_
  rintro turn' ⟨⟨left, haccounted, hlater, hclosed⟩, hstop⟩
  refine ⟨left, haccounted, hlater, hclosed.chain_nil ?_⟩
  unfold closeStep at hstop
  split at hstop
  · assumption
  · exact absurd hstop (by simp)

/-- The sessions of a tunnel are closed. -/
theorem closeall (haccounted : Accounted hash st live ∅ held heldSk) (env : Env n) (depth t : ℕ) :
    Yields (st.l2tpTunnelCloseall env (l2tpTunnelDestruct env (depth + 1)) t) fun st' ↦
      ∃ left ⊆ live, Accounted hash st' left ∅ held heldSk ∧ Later st st' ∧
        refs st'.owner left t = 0 := by
  have hstep : ∀ done bucket turn, Closing hash st live t held heldSk done turn → _ :=
    fun done bucket turn hclosing ↦ closeChain hclosing env depth bucket
  refine (yields_foldlM hstep (List.finRange 16) [] st
    ⟨live, haccounted, Later.refl st, ClosedTo.refl haccounted.tabulates t⟩).imp ?_
  rintro st' ⟨left, hacc, hlater, hclosed⟩
  refine ⟨left, hclosed.sub, hacc, hlater, ?_⟩
  rw [refs_eq_zero_iff]
  intro i hi howner
  rw [hclosed.left_eq (by simp)] at hi
  apply (Finset.mem_filter.mp hi).2
  rw [owner_eq, hlater.sessions] at howner
  obtain ⟨entry, hentry, rfl⟩ := Option.map_eq_some_iff.mp howner
  rw [hentry]
  simp

/-- A socket that a running function holds stays. -/
theorem sockOf_of_held (haccounted : Accounted hash st' live leaving held heldSk)
    (hlater : Later st st') (hsk : st.sockOf t = some sk) (hheld : 0 < heldSk t) :
    st'.sockOf t = some sk := by
  rcases hlater.sock t with hsame | ⟨hnone, -⟩
  · rw [hsame, hsk]
  · have hzero := (haccounted.closed t hnone).2
    omega

theorem l2tpSockToTunnel (haccounted : Accounted hash st live leaving held heldSk)
    (hsk : st.sockOf t = some sk) (destruct : Destructor n) :
    st.l2tpSockToTunnel destruct sk = .ok (st.addSkRefcnt sk 1, some t) := by
  have hdata : (st.addSkRefcnt sk 1).skUserData sk = some t := (haccounted.opened t sk hsk).1
  unfold Lifetimes.l2tpSockToTunnel
  dsimp only [Lifetimes.sockHold, bind, Except.bind]
  rw [hdata]

/-! ### Deleting a tunnel -/

/-- The destroy hook closes the sessions of the tunnel. -/
theorem destroySock (haccounted : Accounted hash st live ∅ held heldSk)
    (hsk : st.sockOf t = some sk) (env : Env n) (depth : ℕ) :
    Yields (st.destroySock env (l2tpTunnelDestruct env (depth + 1)) sk) fun st' ↦
      ∃ left ⊆ live, Accounted hash st' left ∅ held heldSk ∧ Later st st' ∧
        refs st'.owner left t = 0 := by
  have hheld := haccounted.sockHold hsk
  have hlater := (keepsSessions_addSkRefcnt st sk 1).toLater
  unfold Lifetimes.destroySock
  rw [haccounted.l2tpSockToTunnel hsk]
  refine (hheld.closeall env depth t).bind ?_
  rintro closed ⟨left, hsub, hclosed, hlaterClosed, hrefs⟩
  have hsk' := hclosed.sockOf_of_held (hlater.trans hlaterClosed) hsk (by simp)
  refine (hclosed.sockPut hsk' (Or.inl rfl) env depth).imp fun st' hst' ↦ ?_
  refine ⟨left, hsub, hst'.1, (hlater.trans hlaterClosed).trans hst'.2.toLater, ?_⟩
  rwa [owner_congr hst'.2.sessions]

/-- If the hook is called, the sessions of the tunnel are closed. -/
theorem destroyHook (haccounted : Accounted hash st live ∅ held heldSk)
    (hsk : st.sockOf t = some sk) (env : Env n) (depth : ℕ) (hooked : Bool) :
    Yields (st.destroyHook env (l2tpTunnelDestruct env (depth + 1)) hooked sk) fun st' ↦
      ∃ left ⊆ live, Accounted hash st' left ∅ held heldSk ∧ Later st st' ∧
        (hooked = true → refs st'.owner left t = 0) := by
  cases hooked with
  | false =>
    exact yields_ok ⟨live, Finset.Subset.refl _, haccounted, Later.refl st,
      fun htrue ↦ absurd htrue Bool.false_ne_true⟩
  | true =>
    refine (haccounted.destroySock hsk env depth).imp ?_
    rintro st' ⟨left, hsub, hacc, hlater, hrefs⟩
    exact ⟨left, hsub, hacc, hlater, fun _ ↦ hrefs⟩

/-- The reference of the creation becomes one of the running function. -/
theorem orphan (haccounted : Accounted hash st live leaving held heldSk)
    (hsk : st.sockOf t = some sk) (hsocket : st.skSocket sk = true) :
    Accounted hash { st with skSocket := Function.update st.skSocket sk false } live leaving held
      (heldSk + Pi.single t 1) := by
  refine { haccounted with
    opened := fun t' sk' hsk' ↦ ?_
    closed := fun t' hnone ↦ ?_
    logged := { haccounted.logged with } }
  · obtain ⟨hdata, hlt, hrefcnt, hpos⟩ := haccounted.opened t' sk' hsk'
    refine ⟨hdata, hlt, ?_, hpos⟩
    change st.skRefcnt sk' = ((Function.update st.skSocket sk false sk').toNat +
      refs st.owner live t' + (heldSk + Pi.single t 1 : ℕ → ℕ) t' : ℕ)
    by_cases heq : t' = t
    · subst heq
      obtain rfl : sk = sk' := Option.some.inj (hsk.symm.trans hsk')
      rw [hsocket, Bool.toNat_true] at hrefcnt
      rw [Function.update_self, Bool.toNat_false, Pi.add_apply, Pi.single_eq_same]
      omega
    · have hne : sk' ≠ sk := by
        rintro rfl
        exact heq (haccounted.sockOf_inj hsk hsk')
      rw [Function.update_of_ne hne, Pi.add_apply, Pi.single_eq_of_ne heq, Nat.add_zero]
      exact hrefcnt
  · rw [Pi.add_apply, Pi.single_eq_of_ne (ne_of_sockOf hsk hnone)]
    exact haccounted.closed t' hnone

/-- The socket is released while the running function holds it. With the destroy hook, the sessions
of the tunnel are closed. -/
theorem skReleaseKernel (haccounted : Accounted hash st live ∅ held heldSk)
    (hsk : st.sockOf t = some sk) (hheld : 0 < heldSk t) (env : Env n) (depth : ℕ) (hooked : Bool) :
    Yields (st.skReleaseKernel env (l2tpTunnelDestruct env (depth + 1)) hooked sk) fun st' ↦
      ∃ left ⊆ live, Accounted hash st' left ∅ held heldSk ∧
        Later { st with skSocket := Function.update st.skSocket sk false } st' ∧
        (hooked = true → st.skSocket sk = true → refs st'.owner left t = 0) := by
  unfold Lifetimes.skReleaseKernel
  by_cases hsocket : st.skSocket sk = true
  · rw [if_pos hsocket]
    refine (haccounted.destroyHook hsk env depth hooked).bind ?_
    rintro closed ⟨left, hsub, hclosed, hlater, hrefs⟩
    have hsk' := hclosed.sockOf_of_held hlater hsk hheld
    have horphan := hclosed.orphan hsk' (by rw [hlater.skSocket, hsocket])
    refine (horphan.sockPut hsk' (Or.inl rfl) env depth).imp fun st' hst' ↦ ?_
    have hreleased : Later { st with skSocket := Function.update st.skSocket sk false }
        { closed with skSocket := Function.update closed.skSocket sk false } :=
      { length := hlater.length
        sessions := hlater.sessions
        sock := fun t' ↦ (hlater.sock t').imp_right fun hlost ↦
          ⟨hlost.1, fun sk' hsk' ↦ update_false (hlost.2 sk' hsk')⟩
        delWork := hlater.delWork
        skSocket := congrArg (Function.update · sk false) hlater.skSocket }
    refine ⟨left, hsub, hst'.1, hreleased.trans hst'.2.toLater, fun hhooked _ ↦ ?_⟩
    · rw [owner_congr hst'.2.sessions]
      exact hrefs hhooked
  · rw [if_neg hsocket]
    have hsame : Function.update st.skSocket sk false = st.skSocket := by
      rw [← Bool.eq_false_of_not_eq_true hsocket]
      exact Function.update_eq_self sk st.skSocket
    refine yields_ok ⟨live, Finset.Subset.refl _, haccounted, ?_,
      fun _ htrue ↦ absurd htrue hsocket⟩
    rw [hsame]
    exact Later.refl st

/-- The reference to the socket that `l2tp_tunnel_sock_lookup` took is dropped. -/
theorem l2tpTunnelSockPut (haccounted : Accounted hash st live ∅ held (heldSk + Pi.single t 1))
    (hsk : st.sockOf t = some sk) (env : Env n) (depth : ℕ) :
    Yields (st.l2tpTunnelSockPut (l2tpTunnelDestruct env (depth + 1)) sk) fun st' ↦
      Accounted hash st' live ∅ held heldSk ∧ KeepsSessions st st' := by
  have hheld := haccounted.sockHold hsk
  have hkeeps := keepsSessions_addSkRefcnt st sk 1
  unfold Lifetimes.l2tpTunnelSockPut
  rw [haccounted.l2tpSockToTunnel hsk]
  refine (hheld.sockPut hsk (Or.inl rfl) env depth).bind fun put hput ↦ ?_
  have hsk' := hput.1.sockOf_of_held (hkeeps.trans hput.2).toLater hsk (by simp)
  exact (hput.1.sockPut hsk' (Or.inl rfl) env depth).imp fun st' hst' ↦
    ⟨hst'.1, (hkeeps.trans hput.2).trans hst'.2⟩

/-- The reference of the work becomes one of the running function. -/
theorem unqueue (haccounted : Accounted hash st live ∅ held heldSk)
    (hpending : st.delWork t = true) :
    Accounted hash { st with delWork := Function.update st.delWork t false } live ∅
      (held + Pi.single t 1) heldSk := by
  refine { haccounted with
    pointer := haccounted.pointer_add (Pi.single t 1)
    tunnel := fun t' ht' ↦ ?_
    logged := { haccounted.logged with } }
  have hbefore := haccounted.tunnel t' ht'
  change st.tunnelRefs t' = ((st.sockOf t').isSome.toNat + refs st.owner live t' +
    (Function.update st.delWork t false t').toNat + (held + Pi.single t 1 : ℕ → ℕ) t' : ℕ)
  by_cases heq : t' = t
  · subst heq
    rw [hpending, Bool.toNat_true] at hbefore
    rw [Function.update_self, Bool.toNat_false, Pi.add_apply, Pi.single_eq_same]
    omega
  · rw [Function.update_of_ne heq, Pi.add_apply, Pi.single_eq_of_ne heq]
    exact hbefore

/-- A reference of the running function becomes that of the work. -/
theorem queue (haccounted : Accounted hash st live ∅ (held + Pi.single t 1) heldSk)
    (hidle : st.delWork t = false) :
    Accounted hash { st with delWork := Function.update st.delWork t true } live ∅ held heldSk := by
  refine { haccounted with
    pointer := fun i t' hi ↦ Or.inl (haccounted.mem_of_pointer hi)
    tunnel := fun t' ht' ↦ ?_
    logged := { haccounted.logged with } }
  have hbefore := haccounted.tunnel t' ht'
  change st.tunnelRefs t' = ((st.sockOf t').isSome.toNat + refs st.owner live t' +
    (Function.update st.delWork t true t').toNat + held t' : ℕ)
  by_cases heq : t' = t
  · subst heq
    rw [hidle, Bool.toNat_false, Pi.add_apply, Pi.single_eq_same] at hbefore
    rw [Function.update_self, Bool.toNat_true]
    omega
  · rw [Pi.add_apply, Pi.single_eq_of_ne heq, Nat.add_zero] at hbefore
    rw [Function.update_of_ne heq]
    exact hbefore

/-- The work of a tunnel that has a socket. -/
theorem delWork (haccounted : Accounted hash st live ∅ 0 0) (hpending : st.delWork t = true)
    (hsk : st.sockOf t = some sk) (env : Env n) (depth : ℕ) (hooked : Bool) :
    Yields ({ st with delWork := Function.update st.delWork t false }.l2tpTunnelDelWork env
      (l2tpTunnelDestruct env (depth + 1)) hooked t) fun st' ↦
        ∃ left ⊆ live, Accounted hash st' left ∅ 0 0 ∧
          Later { st with
            delWork := Function.update st.delWork t false
            skSocket := Function.update st.skSocket sk false } st' ∧
          (hooked = true → st.skSocket sk = true → refs st'.owner left t = 0) := by
  have hunqueued := haccounted.unqueue hpending
  have hsk' : { st with delWork := Function.update st.delWork t false }.sockOf t = some sk := hsk
  have hheld := hunqueued.sockHold hsk'
  unfold l2tpTunnelDelWork l2tpTunnelSockLookup
  simp only [hsk', Lifetimes.sockHold]
  refine (hheld.skReleaseKernel hsk' (by simp) env depth hooked).bind ?_
  rintro released ⟨left, hsub, hreleased, hlater, hrefs⟩
  have hskReleased : released.sockOf t = some sk :=
    hreleased.sockOf_of_held hlater hsk (by simp)
  refine (hreleased.l2tpTunnelSockPut hskReleased env depth).bind fun put hput ↦ ?_
  have hlt : t < put.net.tunnels.length := by
    rw [hput.2.length]
    exact lt_of_sockOf hskReleased
  refine (hput.1.tunnelDec hlt (Or.inl rfl)).imp fun st' hst' ↦ ?_
  have hkept := hput.2.trans hst'.2
  refine ⟨left, hsub, hst'.1, ?_, fun hhooked hsocket ↦ ?_⟩
  · exact Later.trans ⟨hlater.length, hlater.sessions, hlater.sock, hlater.delWork, hlater.skSocket⟩
      hkept.toLater
  · rw [owner_congr hkept.sessions]
    exact hrefs hhooked hsocket

/-- A tunnel that has a socket is deleted. -/
theorem tunnelDelete (haccounted : Accounted hash st live ∅ 0 0) (hsk : st.sockOf t = some sk)
    (env : Env n) (depth : ℕ) :
    Yields (st.l2tpTunnelDelete env (l2tpTunnelDestruct env (depth + 1)) t) fun st' ↦
      ∃ left ⊆ live, Accounted hash st' left ∅ 0 0 ∧
        Later { st with delWork := Function.update st.delWork t true } st' ∧
        refs st'.owner left t = 0 := by
  have hinc := haccounted.tunnelInc hsk
  unfold l2tpTunnelDelete
  refine (hinc.closeall env depth t).bind ?_
  rintro closed ⟨left, hsub, hclosed, hlater, hrefs⟩
  have hdelWork : closed.delWork = st.delWork := hlater.delWork
  by_cases hpending : closed.delWork t = true
  · rw [if_pos hpending]
    have hlt : t < closed.net.tunnels.length := by
      rw [hlater.length]
      exact lt_of_sockOf hsk
    refine (hclosed.tunnelDec hlt (Or.inl rfl)).imp fun st' hst' ↦ ?_
    refine ⟨left, hsub, hst'.1, ?_, ?_⟩
    · have hsame : Function.update st.delWork t true = st.delWork := by
        rw [← hdelWork, ← hpending]
        exact Function.update_eq_self t closed.delWork
      rw [hsame]
      exact Later.trans ⟨hlater.length, hlater.sessions, hlater.sock, hlater.delWork,
        hlater.skSocket⟩ hst'.2.toLater
    · rwa [owner_congr hst'.2.sessions]
  · rw [if_neg hpending]
    refine yields_ok ⟨left, hsub, hclosed.queue (Bool.eq_false_of_not_eq_true hpending), ?_, hrefs⟩
    exact ⟨hlater.length, hlater.sessions, hlater.sock,
      congrArg (Function.update · t true) hdelWork, hlater.skSocket⟩

end Accounted

end

end Lifetimes

end KernelModules.L2tp
