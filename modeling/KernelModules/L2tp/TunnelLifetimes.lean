import KernelModules.Foundations.Runs
import KernelModules.L2tp.TunnelReferences

/-!
# The lifetime of a tunnel

Tunnels and sessions are created and deleted, sessions are closed, and the work that deletes a
tunnel runs some time after it has been queued. In every state that is reached, `ref_count` counts
the socket of the tunnel, its sessions and its work, and so `l2tp_tunnel_free` runs once, on a
tunnel that has neither a socket nor a session (`Sound`).

That is, unless the code stops. `l2tp_tunnel_sock_lookup` holds `tunnel->sock` without looking
whether there is one, and a work item may find that there is none. A session that is created after
the tunnel has been deleted, but before the work has run, keeps the socket beyond the work, and the
tunnel in the list. If the tunnel is then deleted again, the socket goes with the session, and the
work that is queued after that finds nothing (`not_sound_deletedTwice`). This is the only way to
stop: a run is sound exactly if every work item finds the socket (`sound_iff`). It takes a kernel
that does not call the destroy hook of the socket; where it does, the hook has closed the session
(`along_of_hooked`).
-/

set_option autoImplicit false
set_option relaxedAutoImplicit false

namespace KernelModules.L2tp.Lifetimes

open Foundations

variable {n : ℕ}

/-! ### What is said of the lifetimes -/

/-- The sessions of a tunnel on which `l2tp_session_free` has not run. -/
def unfreed (st : Lifetimes n) (t : ℕ) : Finset ℕ :=
  (Finset.range st.net.sessions.length).filter fun i ↦
    st.owner i = some t ∧ .sessionFree i ∉ st.log

/-- The lifetimes of tunnels are as they should be. `ref_count` counts the socket, the sessions and
the work of a tunnel. `l2tp_tunnel_free` has run once if it is zero and not at all if it is not, and
it ran on a tunnel without a socket and without sessions. If a tunnel in the list is deleted and the
work then gets to its end, the tunnel has been freed once. -/
structure Sound (hash : SessionHash) (st : Lifetimes n) : Prop where
  refCount : ∀ t < st.net.tunnels.length, st.tunnelRefs t =
    ((if .destruct t ∈ st.log then 0 else 1) + (st.unfreed t).card +
      (if st.delWork t then 1 else 0) : ℕ)
  freedOnce : ∀ t < st.net.tunnels.length, st.frees t = if st.tunnelRefs t = 0 then 1 else 0
  freedClean : ∀ t sock left, .tunnelFree t sock left ∈ st.log →
    sock = none ∧ left = [] ∧ st.unfreed t = ∅
  released : ∀ t ∈ st.net.tunnelList, ∀ env env' hooked st',
    (st.step hash (.tunnelDelete env t) >>= fun st ↦ st.step hash (.delWork env' hooked t)) =
      .ok st' → st'.frees t = 1

/-- Work that is run finds the socket of its tunnel. -/
def FindsSock (st : Lifetimes n) : LifeOp n → Prop
  | .delWork _ _ t => st.delWork t = true → (st.sockOf t).isSome = true
  | _ => True

/-- If work is run, the kernel calls the destroy hook when the socket is released. -/
def LifeOp.Hooked : LifeOp n → Prop
  | .delWork _ hooked _ => hooked = true
  | _ => True

section

variable {hash : SessionHash} {st st' : Lifetimes n} {live leaving : Finset ℕ}
  {held heldSk : ℕ → ℕ} {t sk i : ℕ}

/-! ### Creation -/

/-- The state after a tunnel has been made. -/
def withTunnel (st : Lifetimes n) (version : ℕ) (tunnelId peerTunnelId : UInt32)
    (encap : L2tpEncap) : Lifetimes n :=
  { st.l2tpTunnelSockCreate with
    net :=
      { st.net with
        tunnels := st.net.tunnels ++ [newTunnel n version tunnelId peerTunnelId encap st.skCount]
        tunnelList := st.net.tunnels.length :: st.net.tunnelList }
    tunnelRefs := Function.update st.tunnelRefs st.net.tunnels.length 1
    delWork := Function.update st.delWork st.net.tunnels.length false
    skUserData := Function.update st.skUserData st.skCount (some st.net.tunnels.length) }

theorem l2tpTunnelCreate_cases (st : Lifetimes n) (err : Option Errno) (protocolOk alloc : Bool)
    (version : ℕ) (tunnelId peerTunnelId : UInt32) (encap : L2tpEncap) :
    st.l2tpTunnelCreate err protocolOk alloc version tunnelId peerTunnelId encap = st ∨
      st.l2tpTunnelCreate err protocolOk alloc version tunnelId peerTunnelId encap =
        st.l2tpTunnelSockCreate ∨
      st.l2tpTunnelCreate err protocolOk alloc version tunnelId peerTunnelId encap =
        st.withTunnel version tunnelId peerTunnelId encap := by
  unfold Lifetimes.l2tpTunnelCreate
  cases err with
  | some errno => exact Or.inl rfl
  | none =>
    right
    unfold L2tp.l2tpTunnelCreate
    dsimp only
    split_ifs
    · exact Or.inl rfl
    · exact Or.inl rfl
    · exact Or.inl rfl
    · exact Or.inr rfl

theorem sockOf_withTunnel (st : Lifetimes n) (version : ℕ) (tunnelId peerTunnelId : UInt32)
    (encap : L2tpEncap) (t : ℕ) :
    (st.withTunnel version tunnelId peerTunnelId encap).sockOf t =
      if t = st.net.tunnels.length then some st.skCount else st.sockOf t := by
  unfold sockOf withTunnel
  dsimp only
  split_ifs with heq
  · rw [heq, List.getElem?_concat_length]
    rfl
  · rcases Nat.lt_or_ge t st.net.tunnels.length with hlt | hge
    · rw [List.getElem?_append_left hlt]
    · rw [List.getElem?_eq_none hge, List.getElem?_eq_none]
      simp only [List.length_append, List.length_singleton]
      omega

/-- The state after a session has been made, apart from the references it takes. -/
def withSession (hash : SessionHash) (st : Lifetimes n) (t : ℕ) (tunnel : L2tpTunnel n)
    (sessionId peerSessionId : UInt32) (cfg : L2tpSessionCfg) : Lifetimes n :=
  { st with
    sessionRefs := Function.update st.sessionRefs st.net.sessions.length 1
    sessionTunnel := Function.update st.sessionTunnel st.net.sessions.length (some t)
    net := L2tp.l2tpSessionCreate hash st.net t tunnel sessionId peerSessionId cfg }

theorem l2tpSessionCreate_eq (hash : SessionHash) {tunnel : L2tpTunnel n}
    (htunnel : st.net.tunnels[t]? = some tunnel) (hsock : tunnel.sock = some sk)
    (sessionId peerSessionId : UInt32) (cfg : L2tpSessionCfg) :
    st.l2tpSessionCreate hash true t sessionId peerSessionId cfg =
      .ok (((st.l2tpTunnelIncRefcount t).addSkRefcnt sk 1).withSession hash t tunnel sessionId
        peerSessionId cfg) := by
  unfold Lifetimes.l2tpSessionCreate
  simp only [htunnel, hsock, sockHold]
  rfl

theorem sockOf_withSession (hash : SessionHash) {tunnel : L2tpTunnel n}
    (htunnel : st.net.tunnels[t]? = some tunnel) (sessionId peerSessionId : UInt32)
    (cfg : L2tpSessionCfg) :
    (st.withSession hash t tunnel sessionId peerSessionId cfg).sockOf = st.sockOf := by
  apply sockOf_congr
  change (st.net.tunnels.set t _).map (·.sock) = st.net.tunnels.map (·.sock)
  rw [List.map_set]
  exact set_of_getElem? (by rw [List.getElem?_map, htunnel, Option.map_some])

theorem owner_withSession (hash : SessionHash) (st : Lifetimes n) (t : ℕ) (tunnel : L2tpTunnel n)
    (sessionId peerSessionId : UInt32) (cfg : L2tpSessionCfg) (j : ℕ) :
    (st.withSession hash t tunnel sessionId peerSessionId cfg).owner j =
      if j = st.net.sessions.length then some t else st.owner j := by
  have hlast : st.net.tables.sessions.length = st.net.sessions.length := by simp [L2tpNet.tables]
  rw [owner_eq, owner_eq]
  change (L2tp.l2tpSessionCreate hash st.net t tunnel sessionId peerSessionId
    cfg).tables.sessions[j]?.map _ = _
  rw [tables_l2tpSessionCreate]
  split_ifs with heq
  · rw [heq, ← hlast, Tables.sessions_addSession_last]
    rfl
  · rcases Nat.lt_or_ge j st.net.tables.sessions.length with hlt | hge
    · rw [Tables.sessions_addSession_of_lt hash hlt]
    · rw [List.getElem?_eq_none hge, List.getElem?_eq_none]
      simp only [Tables.addSession, List.length_append, List.length_singleton]
      omega

/-- No socket outlives the reference of its creation, and work that is pending has a socket to
find. -/
structure Owned (st : Lifetimes n) : Prop where
  opened : ∀ t sk, st.sockOf t = some sk → st.skSocket sk = true
  pending : ∀ t, st.delWork t = true → (st.sockOf t).isSome = true

theorem Owned.later (howned : Owned st) (hlater : Later st st') : Owned st' := by
  constructor
  · intro t sk hsk
    rw [hlater.skSocket]
    rcases hlater.sock t with hsame | ⟨hnone, -⟩
    · exact howned.opened t sk (hsame.symm.trans hsk)
    · exact absurd (hsk.symm.trans hnone) (Option.some_ne_none sk)
  · intro t hpending
    rw [hlater.delWork] at hpending
    obtain ⟨sk, hsk⟩ := Option.isSome_iff_exists.mp (howned.pending t hpending)
    rcases hlater.sock t with hsame | ⟨-, hsocket⟩
    · exact Option.isSome_iff_exists.mpr ⟨sk, hsame.trans hsk⟩
    · exact absurd ((hsocket sk hsk).symm.trans (howned.opened t sk hsk)) Bool.false_ne_true

theorem Owned.queue (howned : Owned st) (hsk : st.sockOf t = some sk) :
    Owned { st with delWork := Function.update st.delWork t true } := by
  refine ⟨howned.opened, fun t' hpending ↦ ?_⟩
  by_cases heq : t' = t
  · rw [heq]
    exact Option.isSome_iff_exists.mpr ⟨sk, hsk⟩
  · exact howned.pending t' ((Function.update_of_ne heq _ _).symm.trans hpending)

/-- A session that is hashed is one that the tables list. -/
theorem mem_of_isHashed (htabulates : Tabulates hash st.net.tables live)
    (hhashed : st.isHashed i = true) : i ∈ live := by
  obtain ⟨session, -, hany⟩ := (Option.any_eq_true _ _).mp hhashed
  obtain ⟨bucket, -, hmem⟩ := List.any_eq_true.mp hany
  obtain ⟨-, sessionId, -, hmember, -⟩ := (mem_chain_iff htabulates).mp (of_decide_eq_true hmem)
  exact (Tables.tunnelMember_eq_some_iff.mp hmember).1

namespace Accounted

theorem empty (hash : SessionHash) (n : ℕ) : Accounted hash (noLifetimes n) ∅ ∅ 0 0 where
  tabulates := (represents_emptyNet hash n).toTabulates
  session := by simp
  pointer := by simp [noLifetimes]
  tunnel := by simp [noLifetimes, emptyNet]
  opened := by simp [noLifetimes, emptyNet, sockOf]
  closed := by simp
  userData := by simp [noLifetimes]
  listed := by simp [noLifetimes, emptyNet, sockOf]
  logged := by
    refine ⟨?_, ?_, ?_, ?_, ?_, ?_⟩ <;> simp [noLifetimes, emptyNet, frees]

/-- A socket is made. -/
theorem sockCreate (haccounted : Accounted hash st live leaving held heldSk) :
    Accounted hash st.l2tpTunnelSockCreate live leaving held heldSk := by
  refine { haccounted with
    opened := fun t sk hsk ↦ ?_
    logged := { haccounted.logged with } }
  obtain ⟨hdata, hlt, hrefcnt, hpos⟩ := haccounted.opened t sk hsk
  have hne : sk ≠ st.skCount := Nat.ne_of_lt hlt
  have hcount : st.l2tpTunnelSockCreate.skRefcnt sk = st.skRefcnt sk :=
    Function.update_of_ne hne _ _
  have hsocket : st.l2tpTunnelSockCreate.skSocket sk = st.skSocket sk :=
    Function.update_of_ne hne _ _
  rw [hcount, hsocket]
  exact ⟨hdata, Nat.lt_succ_of_lt hlt, hrefcnt, hpos⟩

/-- The tunnel of a session is one that exists. -/
theorem owner_lt (haccounted : Accounted hash st live leaving held heldSk)
    (howner : st.owner i = some t) : t < st.net.tunnels.length := by
  rw [owner_eq] at howner
  obtain ⟨entry, hentry, rfl⟩ := Option.map_eq_some_iff.mp howner
  have hhoused := haccounted.tabulates.housed i entry hentry
  rw [L2tpNet.tables, List.getElem?_map, Option.isSome_map] at hhoused
  obtain ⟨tunnel, htunnel⟩ := Option.isSome_iff_exists.mp hhoused
  exact (List.getElem?_eq_some_iff.mp htunnel).1

/-- The tunnel that is made next has no sessions yet. -/
theorem refs_nextTunnel (haccounted : Accounted hash st live leaving held heldSk) :
    refs st.owner live st.net.tunnels.length = 0 := by
  rw [refs_eq_zero_iff]
  intro i _ howner
  exact absurd (haccounted.owner_lt howner) (Nat.lt_irrefl _)

/-- The tunnels there are and their sockets are not those that are made next. -/
theorem ne_next (haccounted : Accounted hash st live leaving held heldSk)
    (hsk : st.sockOf t = some sk) : sk ≠ st.skCount ∧ t ≠ st.net.tunnels.length :=
  ⟨Nat.ne_of_lt (haccounted.opened _ _ hsk).2.1, Nat.ne_of_lt (lt_of_sockOf hsk)⟩

/-- The sockets of the tunnels, the new one included, have their references. -/
theorem opened_withTunnel (haccounted : Accounted hash st live ∅ 0 0) (version : ℕ)
    (tunnelId peerTunnelId : UInt32) (encap : L2tpEncap)
    (hsk : (st.withTunnel version tunnelId peerTunnelId encap).sockOf t = some sk) :
    Function.update st.skUserData st.skCount (some st.net.tunnels.length) sk = some t ∧
      sk < st.skCount + 1 ∧
      Function.update st.skRefcnt st.skCount 1 sk =
        ((Function.update st.skSocket st.skCount true sk).toNat + refs st.owner live t + 0 : ℕ) ∧
      Function.update st.skRefcnt st.skCount 1 sk ≠ 0 := by
  rw [sockOf_withTunnel] at hsk
  split_ifs at hsk with heq
  · obtain rfl := Option.some.inj hsk
    rw [Function.update_self, Function.update_self, Function.update_self, heq,
      haccounted.refs_nextTunnel]
    exact ⟨rfl, Nat.lt_succ_self _, rfl, one_ne_zero⟩
  · obtain ⟨hdata, hlt, hrefcnt, hpos⟩ := haccounted.sockCreate.opened t sk hsk
    exact ⟨(Function.update_of_ne (haccounted.ne_next hsk).1 _ _).trans hdata, hlt, hrefcnt, hpos⟩

/-- A tunnel is made, with its socket. -/
theorem withTunnel (haccounted : Accounted hash st live ∅ 0 0) (version : ℕ)
    (tunnelId peerTunnelId : UInt32) (encap : L2tpEncap) :
    Accounted hash (st.withTunnel version tunnelId peerTunnelId encap) live ∅ 0 0 := by
  have hsock := sockOf_withTunnel st version tunnelId peerTunnelId encap
  have hlength : (st.withTunnel version tunnelId peerTunnelId encap).net.tunnels.length =
      st.net.tunnels.length + 1 := List.length_append
  refine { haccounted with
    tabulates := ?_
    tunnel := fun t ht ↦ ?_
    opened := fun t sk ↦ haccounted.opened_withTunnel version tunnelId peerTunnelId encap
    closed := fun t hnone ↦ ?_
    userData := fun sk t hdata ↦ ?_
    listed := fun t ↦ ?_
    logged := haccounted.logged.addTunnel hlength rfl rfl rfl hsock }
  · have htables : (st.withTunnel version tunnelId peerTunnelId encap).net.tables =
        st.net.tables.addTunnel version := by
      simp [Lifetimes.withTunnel, L2tpNet.tables, Tables.addTunnel, L2tpTunnel.table, newTunnel]
    rw [htables]
    exact haccounted.tabulates.addTunnel version
  · change Function.update st.tunnelRefs st.net.tunnels.length 1 t = (_ + refs st.owner live t +
      (Function.update st.delWork st.net.tunnels.length false t).toNat + 0 : ℕ)
    rw [hsock]
    by_cases heq : t = st.net.tunnels.length
    · rw [heq, Function.update_self, Function.update_self, if_pos rfl, haccounted.refs_nextTunnel]
      rfl
    · rw [Function.update_of_ne heq, Function.update_of_ne heq, if_neg heq]
      exact haccounted.tunnel t (by omega)
  · rw [hsock] at hnone
    split_ifs at hnone with heq
    exact haccounted.closed t hnone
  · change Function.update st.skUserData st.skCount (some st.net.tunnels.length) sk =
      some t at hdata
    rw [hsock]
    by_cases heq : sk = st.skCount
    · rw [heq, Function.update_self] at hdata
      rw [if_pos (Option.some.inj hdata).symm, heq]
    · rw [Function.update_of_ne heq] at hdata
      have hsk := haccounted.userData sk t hdata
      rw [if_neg (haccounted.ne_next hsk).2, hsk]
  · rw [hsock]
    change t ∈ st.net.tunnels.length :: st.net.tunnelList ↔ _
    rw [List.mem_cons, haccounted.listed t]
    by_cases heq : t = st.net.tunnels.length
    · simp [heq]
    · simp [heq]

theorem tunnelCreate (haccounted : Accounted hash st live ∅ 0 0) (err : Option Errno)
    (protocolOk alloc : Bool) (version : ℕ) (tunnelId peerTunnelId : UInt32) (encap : L2tpEncap) :
    Accounted hash (st.l2tpTunnelCreate err protocolOk alloc version tunnelId peerTunnelId encap)
      live ∅ 0 0 := by
  rcases l2tpTunnelCreate_cases st err protocolOk alloc version tunnelId peerTunnelId encap with
    heq | heq | heq
  · rw [heq]
    exact haccounted
  · rw [heq]
    exact haccounted.sockCreate
  · rw [heq]
    exact haccounted.withTunnel version tunnelId peerTunnelId encap

/-- The new session is one more that holds its tunnel. -/
theorem refs_withSession (haccounted : Accounted hash st live leaving held heldSk)
    (t : ℕ) (tunnel : L2tpTunnel n) (sessionId peerSessionId : UInt32) (cfg : L2tpSessionCfg)
    (t' : ℕ) : refs (st.withSession hash t tunnel sessionId peerSessionId cfg).owner
      (insert st.net.sessions.length live) t' =
        refs st.owner live t' + (Pi.single t 1 : ℕ → ℕ) t' := by
  have howner := owner_withSession hash st t tunnel sessionId peerSessionId cfg
  have hfresh : st.net.sessions.length ∉ live := by
    intro hmem
    have hlt := haccounted.tabulates.known _ hmem
    simp [L2tpNet.tables] at hlt
  have hothers : refs (st.withSession hash t tunnel sessionId peerSessionId cfg).owner live t' =
      refs st.owner live t' := by
    apply refs_congr
    intro j hj
    rw [howner, if_neg]
    rintro rfl
    exact hfresh hj
  rw [refs_insert hfresh, hothers, howner, if_pos rfl, Pi.single_apply]
  simp only [Option.some.injEq, eq_comm]

/-- A session is made, and takes over the references that the running function has taken for it. -/
theorem withSession
    (haccounted : Accounted hash st live ∅ (held + Pi.single t 1) (heldSk + Pi.single t 1))
    {tunnel : L2tpTunnel n} (htunnel : st.net.tunnels[t]? = some tunnel)
    (sessionId peerSessionId : UInt32) (cfg : L2tpSessionCfg) :
    Accounted hash (st.withSession hash t tunnel sessionId peerSessionId cfg)
      (insert st.net.sessions.length live) ∅ held heldSk := by
  have hsocks := sockOf_withSession hash htunnel sessionId peerSessionId cfg
  have howner := owner_withSession hash st t tunnel sessionId peerSessionId cfg
  have hlength : (st.withSession hash t tunnel sessionId peerSessionId cfg).net.tunnels.length =
      st.net.tunnels.length := List.length_set
  have hrefs := haccounted.refs_withSession t tunnel sessionId peerSessionId cfg
  refine haccounted.handOver ⟨hlength, rfl, hsocks, rfl, rfl, rfl, rfl, rfl, rfl⟩
    (fun t' ↦ ?_) (fun t' ↦ ?_) ?_ (fun j hj ↦ ?_) (fun j t' hj ↦ ?_)
    (haccounted.logged.addSession hlength List.length_append rfl rfl hsocks)
  · rw [hrefs, Pi.add_apply]
    omega
  · rw [hrefs, Pi.add_apply]
    omega
  · have hlast : st.net.sessions.length = st.net.tables.sessions.length := by simp [L2tpNet.tables]
    change Tabulates hash (L2tp.l2tpSessionCreate hash st.net t tunnel sessionId peerSessionId
      cfg).tables _
    rw [tables_l2tpSessionCreate, hlast]
    exact haccounted.tabulates.addSession (by simp [L2tpNet.tables, htunnel]) sessionId
  · rw [howner]
    change Function.update st.sessionRefs st.net.sessions.length 1 j = 1 ∧
      Function.update st.sessionTunnel st.net.sessions.length (some t) j = _
    by_cases heq : j = st.net.sessions.length
    · rw [heq, Function.update_self, Function.update_self, if_pos rfl]
      exact ⟨rfl, rfl⟩
    · rw [Function.update_of_ne heq, Function.update_of_ne heq, if_neg heq]
      exact haccounted.session j ((Finset.mem_insert.mp hj).resolve_left heq)
  · left
    change Function.update st.sessionTunnel st.net.sessions.length (some t) j = some t' at hj
    by_cases heq : j = st.net.sessions.length
    · rw [heq]
      exact Finset.mem_insert_self _ _
    · rw [Function.update_of_ne heq] at hj
      exact Finset.mem_insert_of_mem (haccounted.mem_of_pointer hj)

/-- A session is created on a tunnel that has a socket. -/
theorem sessionCreate (haccounted : Accounted hash st live ∅ 0 0) (hsk : st.sockOf t = some sk)
    (alloc : Bool) (sessionId peerSessionId : UInt32) (cfg : L2tpSessionCfg) :
    Yields (st.l2tpSessionCreate hash alloc t sessionId peerSessionId cfg) fun st' ↦
      (∃ live, Accounted hash st' live ∅ 0 0) ∧ st'.sockOf = st.sockOf ∧
        st'.delWork = st.delWork ∧ st'.skSocket = st.skSocket := by
  obtain ⟨tunnel, htunnel, hsock⟩ := Option.bind_eq_some_iff.mp hsk
  cases alloc with
  | false => exact yields_ok ⟨⟨live, haccounted⟩, rfl, rfl, rfl⟩
  | true =>
    have hheld := (haccounted.tunnelInc hsk).sockHold hsk
    rw [l2tpSessionCreate_eq hash htunnel hsock]
    refine yields_ok ⟨⟨_, hheld.withSession htunnel sessionId peerSessionId cfg⟩, ?_, rfl, rfl⟩
    exact sockOf_withSession hash htunnel sessionId peerSessionId cfg

/-! ### Steps -/

/-- A released socket goes when there is no session left to hold it. -/
theorem sockOf_eq_none (haccounted : Accounted hash st' live ∅ 0 0)
    (hlater : Later { st with
      delWork := Function.update st.delWork t false
      skSocket := Function.update st.skSocket sk false } st') (hsk : st.sockOf t = some sk)
    (hrefs : refs st'.owner live t = 0) : st'.sockOf t = none := by
  rcases hlater.sock t with hsame | ⟨hnone, -⟩
  · have hopen := haccounted.opened t sk (hsame.trans hsk)
    have hsocket : st'.skSocket sk = false := by
      rw [hlater.skSocket]
      exact Function.update_self _ _ _
    rw [hsocket, hrefs] at hopen
    exact absurd hopen.2.2.1 hopen.2.2.2
  · exact hnone

theorem owned_tunnelCreate (haccounted : Accounted hash st live ∅ 0 0) (howned : Owned st)
    (err : Option Errno) (protocolOk alloc : Bool) (version : ℕ) (tunnelId peerTunnelId : UInt32)
    (encap : L2tpEncap) :
    Owned (st.l2tpTunnelCreate err protocolOk alloc version tunnelId peerTunnelId encap) := by
  have hcreated : Owned st.l2tpTunnelSockCreate := by
    refine ⟨fun t sk hsk ↦ ?_, howned.pending⟩
    have hlt := (haccounted.opened t sk hsk).2.1
    exact (Function.update_of_ne (Nat.ne_of_lt hlt) _ _).trans (howned.opened t sk hsk)
  rcases l2tpTunnelCreate_cases st err protocolOk alloc version tunnelId peerTunnelId encap with
    heq | heq | heq
  · rw [heq]
    exact howned
  · rw [heq]
    exact hcreated
  · rw [heq]
    constructor
    · intro t sk hsk
      rw [sockOf_withTunnel] at hsk
      split_ifs at hsk with hlast
      · rw [← Option.some.inj hsk]
        exact Function.update_self _ _ _
      · exact hcreated.opened t sk hsk
    · intro t hpending
      rw [sockOf_withTunnel]
      split_ifs with hlast
      · rfl
      · exact howned.pending t ((Function.update_of_ne hlast _ _).symm.trans hpending)

theorem sockOf_of_listed (haccounted : Accounted hash st live leaving held heldSk)
    (hlisted : t ∈ st.net.tunnelList) : ∃ sk, st.sockOf t = some sk :=
  Option.isSome_iff_exists.mp ((haccounted.listed t).mp hlisted)

/-- Work that calls the hook ends with a tunnel that has no socket. -/
theorem owned_delWork (haccounted : Accounted hash st' live ∅ 0 0) (howned : Owned st)
    (hsk : st.sockOf t = some sk) (hinj : ∀ t', st.sockOf t' = some sk → t' = t)
    (hlater : Later { st with
      delWork := Function.update st.delWork t false
      skSocket := Function.update st.skSocket sk false } st')
    (hrefs : refs st'.owner live t = 0) : Owned st' := by
  have hlost : st'.sockOf t = none := haccounted.sockOf_eq_none hlater hsk hrefs
  have hother : ∀ t', t' ≠ t → ∀ sk', st.sockOf t' = some sk' →
      Function.update st.skSocket sk false sk' = true := by
    intro t' hne sk' hsk'
    rw [Function.update_of_ne]
    · exact howned.opened t' sk' hsk'
    · rintro rfl
      exact hne (hinj t' hsk')
  constructor
  · intro t' sk' hsk'
    rw [hlater.skSocket]
    rcases hlater.sock t' with hsame | ⟨hnone, -⟩
    · refine hother t' ?_ sk' (hsame.symm.trans hsk')
      rintro rfl
      exact Option.some_ne_none sk' (hsk'.symm.trans hlost)
    · exact absurd (hsk'.symm.trans hnone) (Option.some_ne_none sk')
  · intro t' hpending
    rw [hlater.delWork] at hpending
    have hne : t' ≠ t := by
      rintro rfl
      exact Bool.false_ne_true ((Function.update_self _ _ _).symm.trans hpending)
    obtain ⟨sk', hsk'⟩ := Option.isSome_iff_exists.mp
      (howned.pending t' ((Function.update_of_ne hne _ _).symm.trans hpending))
    rcases hlater.sock t' with hsame | ⟨-, hsocket⟩
    · exact Option.isSome_iff_exists.mpr ⟨sk', hsame.trans hsk'⟩
    · exact absurd ((hsocket sk' hsk').symm.trans (hother t' hne sk' hsk')) Bool.false_ne_true

/-- Every operation keeps the accounts, if work that is run finds a socket. As long as the kernel
calls the hook, no socket outlives its creation. -/
theorem step (haccounted : Accounted hash st live ∅ 0 0) {op : LifeOp n}
    (hfinds : FindsSock st op) :
    Yields (st.step hash op) fun st' ↦
      (∃ live, Accounted hash st' live ∅ 0 0) ∧ (Owned st → op.Hooked → Owned st') := by
  cases op with
  | tunnelCreate err protocolOk alloc version tunnelId peerTunnelId encap =>
    exact yields_ok ⟨⟨live, haccounted.tunnelCreate err protocolOk alloc version tunnelId
      peerTunnelId encap⟩, fun howned _ ↦ haccounted.owned_tunnelCreate howned err protocolOk alloc
        version tunnelId peerTunnelId encap⟩
  | sessionCreate alloc t sessionId peerSessionId cfg =>
    rw [Lifetimes.step]
    split_ifs with hlisted
    · obtain ⟨sk, hsk⟩ := haccounted.sockOf_of_listed hlisted
      refine (haccounted.sessionCreate hsk alloc sessionId peerSessionId cfg).imp ?_
      rintro st' ⟨hcreated, hsock, hdelWork, hsocket⟩
      refine ⟨hcreated, fun howned _ ↦ ⟨?_, ?_⟩⟩
      · rw [hsock, hsocket]
        exact howned.opened
      · rw [hsock, hdelWork]
        exact howned.pending
    · exact yields_ok ⟨⟨live, haccounted⟩, fun howned _ ↦ howned⟩
  | sessionDelete env i =>
    rw [Lifetimes.step]
    split_ifs with hhashed
    · have hi := mem_of_isHashed haccounted.tabulates hhashed
      refine (haccounted.sessionDrop hi (unhashed_l2tpSessionDelete env st.net i) env _).imp ?_
      rintro st' ⟨hdropped, hlater, -⟩
      exact ⟨⟨_, hdropped⟩, fun howned _ ↦ howned.later hlater⟩
    · exact yields_ok ⟨⟨live, haccounted⟩, fun howned _ ↦ howned⟩
  | closeall env t =>
    rw [Lifetimes.step]
    split_ifs with hlisted
    · refine (haccounted.closeall env _ t).imp ?_
      rintro st' ⟨left, -, hclosed, hlater, -⟩
      exact ⟨⟨left, hclosed⟩, fun howned _ ↦ howned.later hlater⟩
    · exact yields_ok ⟨⟨live, haccounted⟩, fun howned _ ↦ howned⟩
  | tunnelDelete env t =>
    rw [Lifetimes.step]
    split_ifs with hlisted
    · obtain ⟨sk, hsk⟩ := haccounted.sockOf_of_listed hlisted
      refine (haccounted.tunnelDelete hsk env _).imp ?_
      rintro st' ⟨left, -, hdeleted, hlater, -⟩
      refine ⟨⟨left, hdeleted⟩, fun howned _ ↦ (howned.queue hsk).later hlater⟩
    · exact yields_ok ⟨⟨live, haccounted⟩, fun howned _ ↦ howned⟩
  | delWork env hooked t =>
    rw [Lifetimes.step]
    split_ifs with hpending
    · obtain ⟨sk, hsk⟩ := Option.isSome_iff_exists.mp (hfinds hpending)
      refine (haccounted.delWork hpending hsk env _ hooked).imp ?_
      rintro st' ⟨left, -, hworked, hlater, hrefs⟩
      refine ⟨⟨left, hworked⟩, fun howned hhooked ↦ ?_⟩
      exact hworked.owned_delWork howned hsk (fun t' hsk' ↦ haccounted.sockOf_inj hsk hsk') hlater
        (hrefs hhooked (howned.opened t sk hsk))
    · exact yields_ok ⟨⟨live, haccounted⟩, fun howned _ ↦ howned⟩

/-- A tunnel that is held by nobody has been freed once. -/
theorem frees_eq_one (haccounted : Accounted hash st live ∅ 0 0) (ht : t < st.net.tunnels.length)
    (hsock : st.sockOf t = none) (hidle : st.delWork t = false) : st.frees t = 1 := by
  have hrefs := haccounted.tunnel t ht
  rw [hsock, hidle, (haccounted.closed t hsock).1] at hrefs
  rw [haccounted.logged.freed t ht]
  exact if_pos hrefs

/-- The sessions that hold a tunnel are those that have not been freed. -/
theorem card_unfreed (haccounted : Accounted hash st live leaving held heldSk) (t : ℕ) :
    (st.unfreed t).card = refs st.owner live t := by
  unfold refs
  congr 1
  ext i
  simp only [unfreed, Finset.mem_filter, Finset.mem_range]
  constructor
  · rintro ⟨hi, howner, hlogged⟩
    refine ⟨?_, howner⟩
    by_contra hout
    exact hlogged ((haccounted.logged.freedSession i hi).mpr hout)
  · rintro ⟨hmem, howner⟩
    have hi : i < st.net.sessions.length := by
      simpa [L2tpNet.tables] using haccounted.tabulates.known i hmem
    exact ⟨hi, howner, fun hlogged ↦ (haccounted.logged.freedSession i hi).mp hlogged hmem⟩

/-- A tunnel is deleted, and its work gets to its end. -/
theorem released (haccounted : Accounted hash st live ∅ 0 0) (hlisted : t ∈ st.net.tunnelList)
    {env env' : Env n} {hooked : Bool}
    (hrun : (st.step hash (.tunnelDelete env t) >>= fun st ↦
      st.step hash (.delWork env' hooked t)) = .ok st') : st'.frees t = 1 := by
  obtain ⟨sk, hsk⟩ := haccounted.sockOf_of_listed hlisted
  obtain ⟨deleted, hok, left, -, hdeleted, hlater, hrefs⟩ :=
    haccounted.tunnelDelete hsk env st.net.tunnels.length
  have hstep : st.step hash (.tunnelDelete env t) = .ok deleted := (if_pos hlisted).trans hok
  rw [hstep] at hrun
  change deleted.step hash (.delWork env' hooked t) = .ok st' at hrun
  have hpending : deleted.delWork t = true := by
    rw [hlater.delWork]
    exact Function.update_self _ _ _
  rw [Lifetimes.step, if_pos hpending] at hrun
  cases hsock : deleted.sockOf t with
  | none =>
    -- Without a socket the work does not get to its end.
    have hlost : { deleted with delWork := Function.update deleted.delWork t false }.sockOf t =
        none := hsock
    simp [l2tpTunnelDelWork, l2tpTunnelSockLookup, Lifetimes.sockHold, hlost, bind, Except.bind]
      at hrun
  | some sk' =>
    obtain ⟨st'', hok', left', hsub, hworked, hlater', -⟩ :=
      hdeleted.delWork hpending hsock env' deleted.net.tunnels.length hooked
    obtain rfl : st' = st'' := Except.ok.inj (hrun.symm.trans hok')
    have ht : t < st'.net.tunnels.length := by
      rw [hlater'.length]
      exact lt_of_sockOf hsock
    have hidle : st'.delWork t = false := by
      rw [hlater'.delWork]
      exact Function.update_self _ _ _
    have hnone : refs st'.owner left' t = 0 := by
      rw [owner_congr hlater'.sessions, refs_eq_zero_iff]
      intro i hi
      exact refs_eq_zero_iff.mp hrefs i (hsub hi)
    exact hworked.frees_eq_one ht (hworked.sockOf_eq_none hlater' hsock hnone) hidle

end Accounted

/-- What the code keeps of the lifetimes. -/
theorem Accounted.sound (haccounted : Accounted hash st live ∅ 0 0) : Sound hash st where
  refCount := by
    intro t ht
    have hdestruct : (if .destruct t ∈ st.log then 0 else 1) = (st.sockOf t).isSome.toNat := by
      rw [if_congr (haccounted.logged.destructed t ht) rfl rfl]
      cases st.sockOf t with
      | none => rfl
      | some sk => rfl
    have hwork : (if st.delWork t = true then 1 else 0) = (st.delWork t).toNat := by
      cases st.delWork t with
      | false => rfl
      | true => rfl
    rw [haccounted.tunnel t ht, haccounted.card_unfreed, hdestruct, hwork]
    rfl
  freedOnce := haccounted.logged.freed
  freedClean := by
    intro t sock left hmem
    have hfrees : st.frees t ≠ 0 := by
      unfold frees
      rw [← Nat.pos_iff_ne_zero, List.countP_pos_iff]
      exact ⟨_, hmem, by simp [LifeEvent.isTunnelFree]⟩
    have ht := haccounted.logged.known t (Or.inr hfrees)
    rw [haccounted.logged.freed t ht] at hfrees
    have hzero : st.tunnelRefs t = 0 := by
      by_contra hne
      exact hfrees (if_neg hne)
    have hrefs := haccounted.tunnel t ht
    obtain ⟨hsock, hleft⟩ := haccounted.logged.clean t sock left hmem
    refine ⟨hsock, hleft, ?_⟩
    rw [← Finset.card_eq_zero, haccounted.card_unfreed]
    omega
  released := by
    intro t hlisted env env' hooked st' hrun
    exact haccounted.released hlisted hrun

/-! ### Runs -/

/-- One operation, unless the code has stopped before. -/
def lifeStep (hash : SessionHash) (result : Except Fault (Lifetimes n)) (op : LifeOp n) :
    Except Fault (Lifetimes n) :=
  result >>= fun st ↦ st.step hash op

/-- A run from the start. -/
def lifeRun (hash : SessionHash) (ops : List (LifeOp n)) : Except Fault (Lifetimes n) :=
  ops.foldl (lifeStep hash) (.ok (noLifetimes n))

/-- If the code has not stopped, work that is run finds the socket of its tunnel. -/
def FindsSockIn (result : Except Fault (Lifetimes n)) (op : LifeOp n) : Prop :=
  ∀ st, result = .ok st → FindsSock st op

theorem lifeStep_error (hash : SessionHash) (fault : Fault) (ops : List (LifeOp n)) :
    ops.foldl (lifeStep hash) (.error fault) = .error fault := by
  induction ops with
  | nil => rfl
  | cons op ops ih => exact ih

/-- Work that finds no socket stops the code. -/
theorem step_of_not_findsSock (hash : SessionHash) {op : LifeOp n} (hlost : ¬ FindsSock st op) :
    st.step hash op = .error .nullSock := by
  cases op with
  | delWork env hooked t =>
    unfold FindsSock at hlost
    rw [Classical.not_imp] at hlost
    have hsock : { st with delWork := Function.update st.delWork t false }.sockOf t = none :=
      Option.not_isSome_iff_eq_none.mp hlost.2
    rw [Lifetimes.step, if_pos hlost.1]
    unfold l2tpTunnelDelWork l2tpTunnelSockLookup
    rw [hsock]
    rfl
  | _ => exact absurd trivial hlost

/-- The accounts are kept along a run in which all work finds a socket. -/
theorem accounted_foldl {ops : List (LifeOp n)} {result : Except Fault (Lifetimes n)}
    (halong : Along (lifeStep hash) FindsSockIn result ops)
    (hstart : Yields result fun st ↦ ∃ live, Accounted hash st live ∅ 0 0) :
    Yields (ops.foldl (lifeStep hash) result) fun st ↦ ∃ live, Accounted hash st live ∅ 0 0 := by
  have hstep : ∀ (result : Except Fault (Lifetimes n)) (op : LifeOp n),
      (Yields result fun st ↦ ∃ live, Accounted hash st live ∅ 0 0) →
      FindsSockIn result op →
      Yields (lifeStep hash result op) fun st ↦ ∃ live, Accounted hash st live ∅ 0 0 := by
    rintro result op ⟨st, rfl, live, haccounted⟩ hfinds
    exact (haccounted.step (hfinds st rfl)).imp fun st' hst' ↦ hst'.1
  exact halong.invariant hstep hstart

/-- In a run that does not stop, all work has found a socket. -/
theorem along_of_ok {ops : List (LifeOp n)} {result : Except Fault (Lifetimes n)}
    (hrun : ops.foldl (lifeStep hash) result = .ok st) :
    Along (lifeStep hash) FindsSockIn result ops := by
  induction ops generalizing result with
  | nil => trivial
  | cons op ops ih =>
    refine ⟨?_, ih hrun⟩
    rintro before rfl
    by_contra hlost
    rw [List.foldl_cons] at hrun
    have hstop : lifeStep hash (.ok before) op = .error .nullSock :=
      step_of_not_findsSock hash hlost
    rw [hstop, lifeStep_error] at hrun
    exact absurd hrun (by simp)

/-- If the kernel calls the destroy hooks, all work finds a socket.

Assumes: the kernel calls the hook of every socket that is released. -/
theorem along_of_hooked (hash : SessionHash) {ops : List (LifeOp n)}
    (hhooked : ∀ op ∈ ops, op.Hooked) :
    Along (lifeStep hash) FindsSockIn (.ok (noLifetimes n)) ops := by
  have hrun : ∀ (ops : List (LifeOp n)) (result : Except Fault (Lifetimes n)),
      (∀ op ∈ ops, op.Hooked) →
      (Yields result fun st ↦ (∃ live, Accounted hash st live ∅ 0 0) ∧ Owned st) →
      Along (lifeStep hash) FindsSockIn result ops := by
    intro ops
    induction ops with
    | nil => exact fun _ _ _ ↦ trivial
    | cons op ops ih =>
      rintro result hhooked ⟨st, rfl, ⟨live, haccounted⟩, howned⟩
      have hfinds : FindsSock st op := by
        cases op with
        | delWork env hooked t => exact howned.pending t
        | _ => trivial
      refine ⟨?_, ih _ (fun other hother ↦ hhooked other (List.mem_cons_of_mem op hother)) ?_⟩
      · intro st' hst'
        rwa [← Except.ok.inj hst']
      · exact (haccounted.step hfinds).imp fun st' hst' ↦
          ⟨hst'.1, hst'.2 howned (hhooked op List.mem_cons_self)⟩
  refine hrun ops _ hhooked (yields_ok ⟨⟨∅, Accounted.empty hash n⟩, ?_, ?_⟩)
  · intro t sk hsk
    simp [noLifetimes, emptyNet, sockOf] at hsk
  · intro t hpending
    exact absurd hpending Bool.false_ne_true

/-- The lifetimes of tunnels are sound after a run exactly if all work that was run found the socket
of its tunnel. -/
theorem sound_iff (hash : SessionHash) (ops : List (LifeOp n)) :
    Yields (lifeRun hash ops) (Sound hash) ↔
      Along (lifeStep hash) FindsSockIn (.ok (noLifetimes n)) ops := by
  constructor
  · rintro ⟨st, hrun, -⟩
    exact along_of_ok hrun
  · intro halong
    have hstart : Yields (.ok (noLifetimes n) : Except Fault (Lifetimes n)) fun st ↦
        ∃ live, Accounted hash st live ∅ 0 0 := yields_ok ⟨∅, Accounted.empty hash n⟩
    exact (accounted_foldl halong hstart).imp fun st ⟨live, haccounted⟩ ↦ haccounted.sound

end

/-- A session is created between the deletion of its tunnel and the work, and the tunnel is deleted
once more. -/
def deletedTwice (env : Env 1) : List (LifeOp 1) :=
  [.tunnelCreate none true true hdrVer3 1 2 .udp, .tunnelDelete env 0, .sessionCreate true 0 5 6 {},
    .delWork env false 0, .tunnelDelete env 0, .delWork env false 0]

/-- An environment with one processor. -/
def oneCpu : Env 1 where
  cpu := cpu0
  jiffies := 0
  hz := 250
  devForwardSkb := fun _ ↦ true
  pppoxBound := true
  sockQueueRcvSkb := fun _ ↦ true

/-- The work of the second deletion finds no socket, and the tunnel is never freed. -/
theorem not_sound_deletedTwice :
    ¬ Yields (lifeRun lowBits (deletedTwice oneCpu)) (Sound lowBits) := by
  have hstop : lifeRun lowBits (deletedTwice oneCpu) = .error .nullSock := by rfl
  rintro ⟨st, hrun, -⟩
  rw [hstop] at hrun
  exact absurd hrun (by simp)

end KernelModules.L2tp.Lifetimes
