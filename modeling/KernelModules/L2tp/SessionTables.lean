import KernelModules.Foundations.Runs
import KernelModules.L2tp.System

/-!
# The session tables

Of the whole namespace only its tables matter here: the sessions with their ids and tunnels, the
tunnels with their versions and tables, and the table of the namespace. `Tables` is that much of a
namespace, and most events do not change it at all. Whatever happens, every table has its entries
where the hash puts them, and the sessions in the table of an L2TPv3 tunnel are in that of the
namespace.

Whether an id is in use is only asked of the table of the tunnel, so one id may well be given to
sessions of two tunnels. As long as nobody asks for that, the table of the namespace has at most one
session for every id, and `l2tp_ip_recv` finds it (`v3_sessions_unique`).
-/

set_option autoImplicit false
set_option relaxedAutoImplicit false

namespace KernelModules.L2tp

open Foundations

variable {n : ℕ}

/-! ### The tables of a namespace -/

/-- A session, as the tables see it. -/
structure SessionEntry where
  sessionId : UInt32
  tunnel : ℕ

/-- A tunnel, as the tables see it. -/
structure TunnelTable where
  version : ℕ
  hlist : Fin 16 → List ℕ

/-- The tables of a namespace. -/
structure Tables where
  sessions : List SessionEntry
  tunnels : List TunnelTable
  hlist : Fin 256 → List ℕ

/-- What the tables see of a session. -/
def L2tpSession.entry (session : L2tpSession n) : SessionEntry :=
  ⟨session.sessionId, session.tunnel⟩

/-- What the tables see of a tunnel. -/
def L2tpTunnel.table (tunnel : L2tpTunnel n) : TunnelTable := ⟨tunnel.version, tunnel.sessionHlist⟩

/-- The tables of a namespace. -/
def L2tpNet.tables (net : L2tpNet n) : Tables where
  sessions := net.sessions.map L2tpSession.entry
  tunnels := net.tunnels.map L2tpTunnel.table
  hlist := net.sessionHlist

namespace Tables

/-- The id of a session. -/
def key (tables : Tables) (i : ℕ) : Option UInt32 := tables.sessions[i]?.map (·.sessionId)

/-- A session leaves the table of its tunnel. -/
def hlistDel (tables : Tables) (i : ℕ) : Tables :=
  match tables.sessions[i]? with
  | none => tables
  | some entry =>
    { tables with
      tunnels := tables.tunnels.modify entry.tunnel fun table ↦
        { table with hlist := Chains.unlink table.hlist i } }

/-- The tunnel of a session does not speak L2TPv2. -/
def isV3 (tables : Tables) (i : ℕ) : Bool :=
  (tables.sessions[i]?.bind fun entry ↦ tables.tunnels[entry.tunnel]?).any (·.version ≠ hdrVer2)

/-- A session leaves both tables. -/
def unhash (tables : Tables) (i : ℕ) : Tables :=
  { tables.hlistDel i with
    hlist := if tables.isV3 i then Chains.unlink tables.hlist i else tables.hlist }

/-- A new tunnel. -/
def addTunnel (tables : Tables) (version : ℕ) : Tables :=
  { tables with tunnels := tables.tunnels ++ [⟨version, fun _ ↦ []⟩] }

/-- A new session. -/
def addSession (hash : SessionHash) (tables : Tables) (t : ℕ) (table : TunnelTable)
    (sessionId : UInt32) : Tables where
  sessions := tables.sessions ++ [⟨sessionId, t⟩]
  tunnels := tables.tunnels.set t
    { table with hlist := Chains.link table.hlist (hash.hashBits sessionId) tables.sessions.length }
  hlist :=
    if table.version = hdrVer2 then tables.hlist
    else Chains.link tables.hlist (hash.hashBits2 sessionId) tables.sessions.length

end Tables

/-! ### Events on the tables -/

@[simp] theorem key_tables (net : L2tpNet n) : net.tables.key = net.sessionId := by
  funext i
  simp only [Tables.key, L2tpNet.tables, L2tpNet.sessionId, List.getElem?_map, Option.map_map]
  rfl

theorem tables_onFlow {f : Flow n → Flow n} (hf : ∀ flow, KeepsSetup flow (f flow))
    (net : L2tpNet n)
    (i : ℕ) : (net.onFlow i f).tables = net.tables := by
  unfold L2tpNet.onFlow
  cases hflow : net.flow i with
  | none => rfl
  | some flow =>
    obtain ⟨hsession, htunnel, -⟩ := L2tpNet.flow_eq_some hflow
    have hkeeps := hf flow
    obtain ⟨stats, hstats⟩ := hkeeps.tunnel
    have hentry : (f flow).session.entry = flow.session.entry := by
      simp only [L2tpSession.entry, hkeeps.params]
    have htable : (f flow).tunnel.table = flow.tunnel.table := by
      rw [hstats]
      rfl
    have hplace : (f flow).session.tunnel = flow.session.tunnel := by rw [hkeeps.params]
    simp only [L2tpNet.tables, L2tpNet.store, List.map_set, hentry, htable, hplace]
    rw [set_of_getElem? (by rw [List.getElem?_map, hsession, Option.map_some]),
      set_of_getElem? (by rw [List.getElem?_map, htunnel, Option.map_some])]

theorem tables_onSession {change : L2tpSession n → L2tpSession n}
    (hchange : ∀ session, (change session).toSessionParams = session.toSessionParams)
    (net : L2tpNet n) (i : ℕ) : (net.onSession i change).tables = net.tables := by
  have hentry : ∀ session, (change session).entry = session.entry := by
    intro session
    simp only [L2tpSession.entry, hchange]
  simp only [L2tpNet.tables, L2tpNet.onSession, map_modify_of_eq hentry]

theorem tables_onTunnel {change : L2tpTunnel n → L2tpTunnel n} (hchange : KeepsTunnel change)
    (net : L2tpNet n) (t : ℕ) : (net.onTunnel t change).tables = net.tables := by
  have htable : ∀ tunnel, (change tunnel).table = tunnel.table := by
    intro tunnel
    simp only [L2tpTunnel.table, hchange.version, hchange.sessionHlist]
  simp only [L2tpNet.tables, L2tpNet.onTunnel, map_modify_of_eq htable]

theorem tables_hlistDelInit (net : L2tpNet n) (i : ℕ) :
    (hlistDelInit net i).tables = net.tables.hlistDel i := by
  unfold hlistDelInit Tables.hlistDel
  simp only [L2tpNet.tables, List.getElem?_map]
  cases net.sessions[i]? with
  | none => rfl
  | some session =>
    simp only [Option.map_some, L2tpNet.onTunnel, Tables.mk.injEq, true_and, and_true]
    apply map_modify
    intro tunnel
    rfl

theorem isV3_tables (net : L2tpNet n) (i : ℕ) : net.tables.isV3 i = net.isV3 i := by
  unfold Tables.isV3 L2tpNet.isV3 L2tpNet.flow
  simp only [L2tpNet.tables, List.getElem?_map]
  cases net.sessions[i]? with
  | none => rfl
  | some session =>
    simp only [Option.map_some, Option.bind_some, L2tpSession.entry]
    cases net.tunnels[session.tunnel]? with
    | none => rfl
    | some tunnel => rfl

theorem tables_l2tpSessionUnhash (net : L2tpNet n) (i : ℕ) :
    (l2tpSessionUnhash net i).tables = net.tables.unhash i := by
  have hdel := tables_hlistDelInit net i
  unfold l2tpSessionUnhash Tables.unhash
  rw [isV3_tables, ← hdel]
  rfl

theorem tables_l2tpSessionDelete (env : Env n) (net : L2tpNet n) (i : ℕ) :
    (l2tpSessionDelete env net i).tables = net.tables.unhash i := by
  unfold l2tpSessionDelete
  dsimp only
  rw [tables_onFlow KeepsSetup.deref, tables_onFlow (KeepsSetup.l2tpSessionQueuePurge env),
    tables_l2tpSessionUnhash, tables_onFlow KeepsSetup.ref]

theorem tables_l2tpSessionCreate (hash : SessionHash) (net : L2tpNet n) (t : ℕ)
    (tunnel : L2tpTunnel n) (sessionId peerSessionId : UInt32) (cfg : L2tpSessionCfg) :
    (l2tpSessionCreate hash net t tunnel sessionId peerSessionId cfg).tables =
      net.tables.addSession hash t tunnel.table sessionId := by
  obtain ⟨hdrLen, hnew⟩ := newSession_eq tunnel t sessionId peerSessionId cfg
  unfold l2tpSessionCreate Tables.addSession
  rw [hnew]
  simp [L2tpNet.tables, L2tpSession.entry, L2tpTunnel.table, newSessionParams, List.map_set]

/-- What upkeep does to the tables. -/
theorem Upkeep.tables {net net' : L2tpNet n} (hupkeep : Upkeep net net') :
    net'.tables = net.tables ∨ (∃ i, net'.tables = net.tables.hlistDel i) ∨
      (∃ i, net'.tables = net.tables.unhash i) ∨
      ∃ version, net'.tables = net.tables.addTunnel version := by
  cases hupkeep with
  | data _ i hf => exact Or.inl (tables_onFlow hf.keepsSetup net i)
  | delete env _ i => exact Or.inr (Or.inr (Or.inl ⟨i, tables_l2tpSessionDelete env net i⟩))
  | unlink _ i => exact Or.inr (Or.inl ⟨i, tables_hlistDelInit net i⟩)
  | unhash _ i => exact Or.inr (Or.inr (Or.inl ⟨i, tables_l2tpSessionUnhash net i⟩))
  | tunnelCreate _ version tunnelId peerTunnelId encap sk =>
    refine Or.inr (Or.inr (Or.inr ⟨version, ?_⟩))
    simp [L2tpNet.tables, Tables.addTunnel, L2tpTunnel.table, newTunnel]
  | tunnel _ t hchange => exact Or.inl (tables_onTunnel hchange net t)
  | session _ i hchange => exact Or.inl (tables_onSession hchange.params net i)
  | socks _ socks => exact Or.inl rfl
  | tunnelList _ tunnelList => exact Or.inl rfl

/-! ### What is always true of the tables -/

/-- The tables are in order: in the table of the namespace every session is in the bucket of its id;
tunnels of sessions exist; the sessions in the table of a tunnel are its own, and if it does not
speak L2TPv2 they are in the table of the namespace as well. -/
structure WellLinked (hash : SessionHash) (tables : Tables) : Prop where
  placed : Chains.Placed hash.hashBits2 tables.key tables.hlist
  housed : ∀ (i : ℕ) (entry : SessionEntry), tables.sessions[i]? = some entry →
    (tables.tunnels[entry.tunnel]?).isSome
  own : ∀ (t : ℕ) (table : TunnelTable), tables.tunnels[t]? = some table →
    ∀ i, Chains.Linked table.hlist i → ∃ entry, tables.sessions[i]? = some entry ∧ entry.tunnel = t
  covered : ∀ (t : ℕ) (table : TunnelTable), tables.tunnels[t]? = some table →
    table.version ≠ hdrVer2 → ∀ i, Chains.Linked table.hlist i → Chains.Linked tables.hlist i

/-- No two sessions in the table of the namespace share an id other than zero. -/
def UniqueIds (tables : Tables) : Prop :=
  ∀ i j sessionId, Chains.Linked tables.hlist i → Chains.Linked tables.hlist j →
    tables.key i = some sessionId → tables.key j = some sessionId → sessionId ≠ 0 → i = j

namespace Tables

variable {hash : SessionHash} {tables : Tables} {t : ℕ} {table : TunnelTable} {sessionId : UInt32}

theorem tunnels_hlistDel (tables : Tables) (i t : ℕ) :
    (tables.hlistDel i).tunnels[t]? = tables.tunnels[t]?.map fun table ↦
      if tables.sessions[i]?.any (·.tunnel = t) then
        { table with hlist := Chains.unlink table.hlist i }
      else table := by
  unfold hlistDel
  cases tables.sessions[i]? with
  | none => simp
  | some entry =>
    dsimp only
    rw [List.getElem?_modify]
    by_cases ht : entry.tunnel = t
    · simp [ht]
    · simp [ht]

@[simp] theorem sessions_hlistDel (tables : Tables) (i : ℕ) :
    (tables.hlistDel i).sessions = tables.sessions := by
  unfold hlistDel
  split <;> rfl

@[simp] theorem hlist_hlistDel (tables : Tables) (i : ℕ) :
    (tables.hlistDel i).hlist = tables.hlist := by
  unfold hlistDel
  split <;> rfl

/-- What a table of a tunnel is after a session has left it. -/
theorem of_tunnels_hlistDel {i : ℕ} (htable : (tables.hlistDel i).tunnels[t]? = some table) :
    ∃ before, tables.tunnels[t]? = some before ∧ table.version = before.version ∧
      ∀ j, Chains.Linked table.hlist j → Chains.Linked before.hlist j ∧
        (tables.sessions[i]?.any (·.tunnel = t) = true → j ≠ i) := by
  rw [tunnels_hlistDel, Option.map_eq_some_iff] at htable
  obtain ⟨before, hbefore, heq⟩ := htable
  refine ⟨before, hbefore, ?_⟩
  split_ifs at heq with hown
  · rw [← heq]
    refine ⟨rfl, fun j hj ↦ ?_⟩
    obtain ⟨hne, hlinked⟩ := Chains.linked_unlink.mp hj
    exact ⟨hlinked, fun _ ↦ hne⟩
  · rw [← heq]
    exact ⟨rfl, fun j hj ↦ ⟨hj, fun htrue ↦ absurd htrue hown⟩⟩

theorem key_addSession (hash : SessionHash) (tables : Tables) (t : ℕ) (table : TunnelTable)
    (sessionId : UInt32) (i : ℕ) :
    (tables.addSession hash t table sessionId).key i =
      if i = tables.sessions.length then some sessionId else tables.key i := by
  unfold key addSession
  dsimp only
  rcases Nat.lt_trichotomy i tables.sessions.length with hlt | heq | hgt
  · rw [List.getElem?_append_left hlt, if_neg (Nat.ne_of_lt hlt)]
  · subst heq
    rw [List.getElem?_concat_length, if_pos rfl]
    rfl
  · rw [if_neg (Nat.ne_of_gt hgt), List.getElem?_eq_none (by simp; omega),
      List.getElem?_eq_none (by omega)]

end Tables

namespace WellLinked

variable {hash : SessionHash} {tables : Tables} {t : ℕ} {table : TunnelTable} {sessionId : UInt32}

theorem hlistDel (hwell : WellLinked hash tables) (i : ℕ) :
    WellLinked hash (tables.hlistDel i) where
  placed := by
    have hkey : (tables.hlistDel i).key = tables.key := by
      unfold Tables.key
      rw [Tables.sessions_hlistDel]
    rw [hkey, Tables.hlist_hlistDel]
    exact hwell.placed
  housed := by
    intro j entry hentry
    rw [Tables.sessions_hlistDel] at hentry
    rw [Tables.tunnels_hlistDel, Option.isSome_map]
    exact hwell.housed j entry hentry
  own := by
    intro t table htable j hj
    obtain ⟨before, hbefore, -, hlinked⟩ := Tables.of_tunnels_hlistDel htable
    rw [Tables.sessions_hlistDel]
    exact hwell.own t before hbefore j (hlinked j hj).1
  covered := by
    intro t table htable hversion j hj
    obtain ⟨before, hbefore, hsame, hlinked⟩ := Tables.of_tunnels_hlistDel htable
    rw [Tables.hlist_hlistDel]
    exact hwell.covered t before hbefore (hsame ▸ hversion) j (hlinked j hj).1

theorem unhash (hwell : WellLinked hash tables) (i : ℕ) : WellLinked hash (tables.unhash i) where
  placed := by
    have hplaced := (hwell.hlistDel i).placed
    rw [Tables.hlist_hlistDel] at hplaced
    unfold Tables.unhash
    dsimp only
    split_ifs
    · exact hplaced.unlink i
    · exact hplaced
  housed := (hwell.hlistDel i).housed
  own := (hwell.hlistDel i).own
  covered := by
    intro t table htable hversion j hj
    have hcovered := (hwell.hlistDel i).covered t table htable hversion j hj
    rw [Tables.hlist_hlistDel] at hcovered
    unfold Tables.unhash
    dsimp only
    split_ifs
    · refine Chains.linked_unlink.mpr ⟨?_, hcovered⟩
      rintro rfl
      obtain ⟨before, hbefore, -, hlinked⟩ := Tables.of_tunnels_hlistDel htable
      obtain ⟨hlinked, hne⟩ := hlinked j hj
      obtain ⟨entry, hentry, hown⟩ := hwell.own t before hbefore j hlinked
      exact hne (by simp [hentry, hown]) rfl
    · exact hcovered

theorem addTunnel (hwell : WellLinked hash tables) (version : ℕ) :
    WellLinked hash (tables.addTunnel version) where
  placed := hwell.placed
  housed := by
    intro i entry hentry
    obtain ⟨table, htable⟩ := Option.isSome_iff_exists.mp (hwell.housed i entry hentry)
    exact Option.isSome_iff_exists.mpr ⟨table, getElem?_concat_of_some htable _⟩
  own := by
    intro t table htable i hlinked
    rcases of_getElem?_concat htable with hold | ⟨-, rfl⟩
    · exact hwell.own t table hold i hlinked
    · obtain ⟨bucket, hmem⟩ := hlinked
      exact absurd hmem List.not_mem_nil
  covered := by
    intro t table htable hversion i hlinked
    rcases of_getElem?_concat htable with hold | ⟨-, rfl⟩
    · exact hwell.covered t table hold hversion i hlinked
    · obtain ⟨bucket, hmem⟩ := hlinked
      exact absurd hmem List.not_mem_nil

theorem addSession (hwell : WellLinked hash tables) (htable : tables.tunnels[t]? = some table) :
    WellLinked hash (tables.addSession hash t table sessionId) where
  placed := by
    have hkey : ∀ i, Chains.Linked tables.hlist i →
        (tables.addSession hash t table sessionId).key i = tables.key i := by
      rintro i ⟨bucket, hmem⟩
      obtain ⟨k, hk, -⟩ := hwell.placed bucket i hmem
      rw [Tables.key_addSession, if_neg]
      rintro rfl
      simp [Tables.key] at hk
    have hplaced := hwell.placed.key_congr hkey
    unfold Tables.addSession
    dsimp only
    split_ifs
    · exact hplaced
    · refine hplaced.link ?_
      exact (Tables.key_addSession hash tables t table sessionId _).trans (if_pos rfl)
  housed := by
    intro i entry hentry
    have hplace : (tables.tunnels[entry.tunnel]?).isSome := by
      rcases of_getElem?_concat hentry with hold | ⟨-, rfl⟩
      · exact hwell.housed i entry hold
      · rw [htable]
        rfl
    simpa [Tables.addSession] using hplace
  own := by
    intro t' table' htable' i hlinked
    unfold Tables.addSession at htable' ⊢
    dsimp only at htable' ⊢
    rw [List.getElem?_set] at htable'
    split_ifs at htable' with heq hlt
    · obtain rfl := heq
      rw [← Option.some.inj htable'] at hlinked
      rcases Chains.linked_link.mp hlinked with rfl | hold
      · exact ⟨⟨sessionId, t⟩, List.getElem?_concat_length, rfl⟩
      · obtain ⟨entry, hentry, hown⟩ := hwell.own t table htable i hold
        exact ⟨entry, getElem?_concat_of_some hentry _, hown⟩
    · obtain ⟨entry, hentry, hown⟩ := hwell.own t' table' htable' i hlinked
      exact ⟨entry, getElem?_concat_of_some hentry _, hown⟩
  covered := by
    intro t' table' htable' hversion i hlinked
    have hold : Chains.Linked tables.hlist i →
        Chains.Linked (tables.addSession hash t table sessionId).hlist i := by
      intro hi
      unfold Tables.addSession
      dsimp only
      split_ifs
      · exact hi
      · exact Chains.linked_link.mpr (Or.inr hi)
    unfold Tables.addSession at htable'
    dsimp only at htable'
    rw [List.getElem?_set] at htable'
    split_ifs at htable' with heq hlt
    · rw [← Option.some.inj htable'] at hlinked hversion
      rcases Chains.linked_link.mp hlinked with rfl | hlinked
      · unfold Tables.addSession
        dsimp only at hversion ⊢
        rw [if_neg hversion]
        exact Chains.linked_link.mpr (Or.inl rfl)
      · exact hold (hwell.covered t table htable hversion i hlinked)
    · exact hold (hwell.covered t' table' htable' hversion i hlinked)

end WellLinked

namespace UniqueIds

variable {hash : SessionHash} {tables : Tables} {t : ℕ} {table : TunnelTable} {sessionId : UInt32}

/-- Fewer sessions in the table of the namespace. -/
theorem shrink {tables' : Tables} (hunique : UniqueIds tables) (hkey : tables'.key = tables.key)
    (hlinked : ∀ i, Chains.Linked tables'.hlist i → Chains.Linked tables.hlist i) :
    UniqueIds tables' := by
  intro i j sessionId hi hj hi' hj' hne
  rw [hkey] at hi' hj'
  exact hunique i j sessionId (hlinked i hi) (hlinked j hj) hi' hj' hne

theorem hlistDel (hunique : UniqueIds tables) (i : ℕ) : UniqueIds (tables.hlistDel i) := by
  refine hunique.shrink ?_ fun j hj ↦ ?_
  · unfold Tables.key
    rw [Tables.sessions_hlistDel]
  · rwa [Tables.hlist_hlistDel] at hj

theorem unhash (hunique : UniqueIds tables) (i : ℕ) : UniqueIds (tables.unhash i) := by
  refine (hunique.hlistDel i).shrink rfl fun j hj ↦ ?_
  rw [Tables.hlist_hlistDel]
  unfold Tables.unhash at hj
  dsimp only at hj
  split_ifs at hj
  · exact (Chains.linked_unlink.mp hj).2
  · exact hj

/-- A new session keeps the ids apart if it does not enter the table of the namespace, or if its id
is zero, or not there yet. -/
theorem addSession (hunique : UniqueIds tables) (hwell : WellLinked hash tables)
    (hfresh : table.version = hdrVer2 ∨ sessionId = 0 ∨
      ∀ i, Chains.Linked tables.hlist i → tables.key i ≠ some sessionId) :
    UniqueIds (tables.addSession hash t table sessionId) := by
  have hlinked : ∀ i, Chains.Linked (tables.addSession hash t table sessionId).hlist i →
      Chains.Linked tables.hlist i ∧ i ≠ tables.sessions.length ∨
        i = tables.sessions.length ∧ table.version ≠ hdrVer2 := by
    intro i hi
    have hbefore : Chains.Linked tables.hlist i → i ≠ tables.sessions.length := by
      rintro ⟨bucket, hmem⟩ rfl
      obtain ⟨k, hk, -⟩ := hwell.placed bucket _ hmem
      simp [Tables.key] at hk
    unfold Tables.addSession at hi
    dsimp only at hi
    split_ifs at hi with hversion
    · exact Or.inl ⟨hi, hbefore hi⟩
    · rcases Chains.linked_link.mp hi with rfl | hold
      · exact Or.inr ⟨rfl, hversion⟩
      · exact Or.inl ⟨hold, hbefore hold⟩
  have hnew : ∀ i id, id ≠ 0 → Chains.Linked tables.hlist i → tables.key i = some id →
      table.version ≠ hdrVer2 → id ≠ sessionId := by
    rintro i id hne hi hkey hversion rfl
    rcases hfresh with hv2 | hzero | hfree
    · exact hversion hv2
    · exact hne hzero
    · exact hfree i hi hkey
  intro i j id hi hj hkeyi hkeyj hne
  rw [Tables.key_addSession] at hkeyi hkeyj
  rcases hlinked i hi with ⟨hi, hi'⟩ | ⟨rfl, hversion⟩
  · rw [if_neg hi'] at hkeyi
    rcases hlinked j hj with ⟨hj, hj'⟩ | ⟨rfl, hversion⟩
    · rw [if_neg hj'] at hkeyj
      exact hunique i j id hi hj hkeyi hkeyj hne
    · rw [if_pos rfl] at hkeyj
      exact absurd (Option.some.inj hkeyj).symm (hnew i id hne hi hkeyi hversion)
  · rcases hlinked j hj with ⟨hj, hj'⟩ | ⟨rfl, -⟩
    · rw [if_pos rfl] at hkeyi
      rw [if_neg hj'] at hkeyj
      exact absurd (Option.some.inj hkeyi).symm (hnew j id hne hj hkeyj hversion)
    · rfl

end UniqueIds

/-! ### Runs -/

/-- An event that asks for a session does not ask for an id that a session of another tunnel has in
the table of the namespace: the tunnel speaks L2TPv2, or the id is zero or in the table of the
tunnel already, or it is not in the table of the namespace. -/
def freshSessionId (hash : SessionHash) (net : L2tpNet n) (event : NetEvent n) : Bool :=
  match event.sessionRequest with
  | none => true
  | some (tunnelId, sessionId) =>
    match l2tpTunnelFind net tunnelId with
    | none => true
    | some t =>
      net.tunnels[t]?.any (·.version = hdrVer2) || sessionId = 0 ||
        (l2tpSessionFind hash net (some t) sessionId).isSome ||
        (l2tpSessionFind hash net none sessionId).isNone

/-- An id under the condition can be given to a session. -/
theorem CreatesSession.fresh {hash : SessionHash} {net mid : L2tpNet n} {event : NetEvent n} {t : ℕ}
    {tunnel : L2tpTunnel n} {sessionId : UInt32}
    (hcreates : CreatesSession hash net mid event t tunnel sessionId)
    (hfresh : freshSessionId hash net event = true) (hwell : WellLinked hash mid.tables) :
    tunnel.version = hdrVer2 ∨ sessionId = 0 ∨
      ∀ i, Chains.Linked mid.tables.hlist i → mid.tables.key i ≠ some sessionId := by
  obtain ⟨tunnelId, hrequest, hzero | ⟨hfound, first, hfirst, hversion, hhlist⟩⟩ := hcreates.request
  · exact Or.inr (Or.inl hzero)
  have hids : net.sessionId = mid.sessionId := by
    unfold L2tpNet.sessionId
    rw [hcreates.sessions]
  have hunused : l2tpSessionFind hash net (some t) sessionId = none := by
    have hmid := hcreates.unused
    simp only [l2tpSessionFind, hcreates.found, hfirst, Option.bind_some, hhlist, hids] at hmid ⊢
    exact hmid
  have hglobal : l2tpSessionFind hash mid none sessionId =
      l2tpSessionFind hash net none sessionId := by
    simp only [l2tpSessionFind, l2tpSessionFind2, hcreates.sessionHlist, hids]
  simp only [freshSessionId, hrequest, hfound, hfirst, hunused, Option.any_some, Option.isSome_none,
    Bool.or_false, Bool.or_eq_true, decide_eq_true_eq, Option.isNone_iff_eq_none] at hfresh
  rcases hfresh with (hv2 | hzero) | hnone
  · exact Or.inl (hversion ▸ hv2)
  · exact Or.inr (Or.inl hzero)
  · refine Or.inr (Or.inr fun i hi ↦ ?_)
    rw [← hglobal] at hnone
    rw [key_tables]
    have hplaced := hwell.placed
    rw [key_tables] at hplaced
    exact (Chains.lookup_eq_none_iff hplaced).mp hnone i hi

theorem tables_attachSocket (call : ConnectCall) (tunnelSock : Option ℕ) (net : L2tpNet n) (i : ℕ) :
    (net.onSession i (attachSocket call tunnelSock)).tables = net.tables := by
  have hparams : ∀ session : L2tpSession n,
      (attachSocket call tunnelSock session).toSessionParams = session.toSessionParams :=
        fun _ ↦ rfl
  exact tables_onSession hparams net i

section Invariant

variable {hash : SessionHash} {invariant : Tables → Prop}
  (hdel : ∀ tables i, invariant tables → invariant (tables.hlistDel i))
  (hunhash : ∀ tables i, invariant tables → invariant (tables.unhash i))
  (htunnel : ∀ tables version, invariant tables → invariant (tables.addTunnel version))

include hdel hunhash htunnel in
/-- Upkeep keeps whatever unlinking and new tunnels keep. -/
theorem Upkeeps.tables_invariant {net net' : L2tpNet n} (hupkeeps : Upkeeps net net')
    (hstart : invariant net.tables) : invariant net'.tables := by
  have hupkeep : ∀ net net' : L2tpNet n, Upkeep net net' → invariant net.tables →
      invariant net'.tables := by
    intro net net' hupkeep hinvariant
    rcases hupkeep.tables with heq | ⟨i, heq⟩ | ⟨i, heq⟩ | ⟨version, heq⟩
    · rw [heq]
      exact hinvariant
    · rw [heq]
      exact hdel _ i hinvariant
    · rw [heq]
      exact hunhash _ i hinvariant
    · rw [heq]
      exact htunnel _ version hinvariant
  exact Upkeeps.invariant hupkeep hupkeeps hstart

include hdel hunhash htunnel in
/-- An event keeps whatever unlinking, new tunnels and new sessions keep. -/
theorem tables_netStep {net : L2tpNet n} {event : NetEvent n}
    (hsession : ∀ {mid : L2tpNet n} {t tunnel sessionId},
      CreatesSession hash net mid event t tunnel sessionId → invariant mid.tables →
      invariant (mid.tables.addSession hash t tunnel.table sessionId))
    (hstart : invariant net.tables) : invariant (netStep hash net event).tables := by
  have hupkeeps : ∀ {net net' : L2tpNet n}, Upkeeps net net' → invariant net.tables →
      invariant net'.tables := fun hupkeeps ↦ hupkeeps.tables_invariant hdel hunhash htunnel
  cases netStep_transition hash net event with
  | upkeep hafter => exact hupkeeps hafter hstart
  | create hcreates hafter =>
    refine hupkeeps hafter ?_
    rw [tables_l2tpSessionCreate]
    exact hsession hcreates (hupkeeps hcreates.before hstart)
  | createConnected hcreates hafter =>
    refine hupkeeps hafter ?_
    rw [tables_attachSocket, tables_l2tpSessionCreate]
    exact hsession hcreates (hupkeeps hcreates.before hstart)
  | connect hconnects hafter =>
    refine hupkeeps hafter ?_
    rw [tables_attachSocket]
    exact hupkeeps hconnects.before hstart

end Invariant

theorem Upkeeps.wellLinked {hash : SessionHash} {net net' : L2tpNet n} (hupkeeps : Upkeeps net net')
    (hwell : WellLinked hash net.tables) : WellLinked hash net'.tables :=
  hupkeeps.tables_invariant (fun _ i h ↦ h.hlistDel i) (fun _ i h ↦ h.unhash i)
    (fun _ version h ↦ h.addTunnel version) hwell

theorem CreatesSession.wellLinked {hash : SessionHash} {net mid : L2tpNet n} {event : NetEvent n}
    {t : ℕ} {tunnel : L2tpTunnel n} {sessionId : UInt32}
    (hcreates : CreatesSession hash net mid event t tunnel sessionId)
    (hwell : WellLinked hash mid.tables) :
    WellLinked hash (mid.tables.addSession hash t tunnel.table sessionId) :=
  hwell.addSession (by simp [L2tpNet.tables, hcreates.found])

/-- The tables stay in order through every event. -/
theorem WellLinked.netStep {hash : SessionHash} {net : L2tpNet n}
    (hwell : WellLinked hash net.tables)
    (event : NetEvent n) : WellLinked hash (netStep hash net event).tables :=
  tables_netStep (fun _ i h ↦ h.hlistDel i) (fun _ i h ↦ h.unhash i)
    (fun _ version h ↦ h.addTunnel version) (fun hcreates hmid ↦ hcreates.wellLinked hmid) hwell

/-- The tables are in order, and the ids in the table of the namespace are unique. -/
structure UniquelyLinked (hash : SessionHash) (tables : Tables) : Prop
    extends WellLinked hash tables where
  unique : UniqueIds tables

/-- The ids in the table of the namespace stay unique through every event under the condition. -/
theorem UniquelyLinked.netStep {hash : SessionHash} {net : L2tpNet n} {event : NetEvent n}
    (hlinked : UniquelyLinked hash net.tables) (hfresh : freshSessionId hash net event = true) :
    UniquelyLinked hash (netStep hash net event).tables := by
  have hdel : ∀ tables i, UniquelyLinked hash tables → UniquelyLinked hash (tables.hlistDel i) :=
    fun _ i h ↦ ⟨h.toWellLinked.hlistDel i, h.unique.hlistDel i⟩
  have hunhash : ∀ tables i, UniquelyLinked hash tables → UniquelyLinked hash (tables.unhash i) :=
    fun _ i h ↦ ⟨h.toWellLinked.unhash i, h.unique.unhash i⟩
  have htunnel : ∀ tables version, UniquelyLinked hash tables →
      UniquelyLinked hash (tables.addTunnel version) :=
    fun _ version h ↦ ⟨h.toWellLinked.addTunnel version, h.unique⟩
  refine tables_netStep hdel hunhash htunnel (fun hcreates hmid ↦ ?_) hlinked
  exact ⟨hcreates.wellLinked hmid.toWellLinked,
    hmid.unique.addSession hmid.toWellLinked (hcreates.fresh hfresh hmid.toWellLinked)⟩

theorem wellLinked_emptyNet (hash : SessionHash) (n : ℕ) : WellLinked hash (emptyNet n).tables where
  placed := fun _ _ hmem ↦ absurd hmem List.not_mem_nil
  housed := by simp [L2tpNet.tables, emptyNet]
  own := by simp [L2tpNet.tables, emptyNet]
  covered := by simp [L2tpNet.tables, emptyNet]

theorem uniquelyLinked_emptyNet (hash : SessionHash) (n : ℕ) :
    UniquelyLinked hash (emptyNet n).tables where
  toWellLinked := wellLinked_emptyNet hash n
  unique := by
    rintro i j sessionId ⟨bucket, hmem⟩
    exact absurd hmem List.not_mem_nil

/-- What is expected of the table of the namespace: there is at most one session with an id other
than zero; every session in the table of an L2TPv3 tunnel is in it; and a lookup of the id of a
session finds the session, as does `l2tp_ip_recv` for a packet with that id. -/
structure FindsSessions (hash : SessionHash) (net : L2tpNet n) : Prop where
  unique : ∀ i j sessionId, Chains.Linked net.sessionHlist i → Chains.Linked net.sessionHlist j →
    net.sessionId i = some sessionId → net.sessionId j = some sessionId → sessionId ≠ 0 → i = j
  linked : ∀ (t i : ℕ) (tunnel : L2tpTunnel n), net.tunnels[t]? = some tunnel →
    tunnel.version ≠ hdrVer2 → Chains.Linked tunnel.sessionHlist i →
      Chains.Linked net.sessionHlist i
  find : ∀ i sessionId, Chains.Linked net.sessionHlist i → net.sessionId i = some sessionId →
    sessionId ≠ 0 → l2tpSessionFind hash net none sessionId = some i
  ipRecv : ∀ i sessionId, Chains.Linked net.sessionHlist i → net.sessionId i = some sessionId →
    sessionId ≠ 0 → ∀ (env : Env n) (skb : SkBuff), 4 ≤ skb.len → be32At skb.mem 0 = sessionId →
      ∃ call : RecvCall n, call.skb = skb ∧
        l2tpIpRecv hash net env skb = net.onFlow i fun flow ↦ l2tpRecvCommon flow call

/-- L2TPv3 session ids over all tunnels of a namespace. Assumes: a run from an empty namespace, of
any events, in which nobody asks for a session with an id that a session of another L2TPv3 tunnel
has. -/
theorem v3_sessions_unique {hash : SessionHash} {events : List (NetEvent n)}
    (hfresh : Along (netStep hash) (fun net event ↦ freshSessionId hash net event = true)
      (emptyNet n)
      events) : FindsSessions hash (netRun hash (emptyNet n) events) := by
  have hstep : ∀ (net : L2tpNet n) (event : NetEvent n), UniquelyLinked hash net.tables →
      freshSessionId hash net event = true → UniquelyLinked hash (netStep hash net event).tables :=
    fun _ _ hlinked hcondition ↦ hlinked.netStep hcondition
  have hlinked : UniquelyLinked hash (netRun hash (emptyNet n) events).tables :=
    hfresh.invariant hstep (uniquelyLinked_emptyNet hash n)
  generalize netRun hash (emptyNet n) events = net at hlinked ⊢
  have hplaced := hlinked.placed
  have hunique := hlinked.unique
  unfold UniqueIds at hunique
  rw [key_tables] at hplaced hunique
  have hfind : ∀ i sessionId, Chains.Linked net.sessionHlist i → net.sessionId i = some sessionId →
      sessionId ≠ 0 → l2tpSessionFind hash net none sessionId = some i := by
    intro i sessionId hi hid hne
    exact Chains.lookup_of_unique hplaced hi hid fun j hj hid' ↦
      hunique j i sessionId hj hi hid' hid hne
  refine ⟨hunique, ?_, hfind, ?_⟩
  · intro t i tunnel htunnel hversion hi
    exact hlinked.covered t tunnel.table (by simp [L2tpNet.tables, htunnel]) hversion i hi
  · intro i sessionId hi hid hne env skb hlength hword
    obtain ⟨session, hsession, rfl⟩ := Option.map_eq_some_iff.mp hid
    obtain ⟨tunnel, htunnel⟩ : ∃ tunnel, net.tunnels[session.tunnel]? = some tunnel := by
      have hhoused := hlinked.housed i session.entry (by simp [L2tpNet.tables, hsession])
      simpa [L2tpNet.tables, L2tpSession.entry, Option.isSome_iff_exists] using hhoused
    have hflow : net.flow i = some { tunnel, session, log := [] } := by
      rw [L2tpNet.flow, hsession, Option.bind_some, htunnel, Option.map_some]
    have hpull : skb.pskbMayPull 4 = true := by
      rw [SkBuff.pskbMayPull, decide_eq_true_iff]
      exact hlength
    refine ⟨RecvCall.mk env skb 4 0 skb.len tunnel.recvPayloadHook, rfl, ?_⟩
    simp [l2tpIpRecv, ipRecvVerdict, hpull, hword, hne, hfind i _ hi hid hne, hflow]

/-- Two tunnels with one session each. -/
def twoTunnels (first second : UInt32) : List (NetEvent 1) :=
  [.tunnelCreate (ipTunnelRequest 1 0), .tunnelCreate (ipTunnelRequest 2 1),
    .sessionCreate { env := (sequencedCall cpu0 0 0 0).env } (ethSessionRequest 1 first),
    .sessionCreate { env := (sequencedCall cpu0 0 0 0).env } (ethSessionRequest 2 second)]

theorem v3_sessions_unique_twoTunnels :
    (Along (netStep lowBits) (fun net event ↦ freshSessionId lowBits net event = true) (emptyNet 1)
        (twoTunnels 7 8)) ∧
      l2tpSessionFind lowBits (netRun lowBits (emptyNet 1) (twoTunnels 7 8)) none 7 = some 0 ∧
      l2tpSessionFind lowBits (netRun lowBits (emptyNet 1) (twoTunnels 7 8)) none 8 = some 1 ∧
      FindsSessions lowBits (netRun lowBits (emptyNet 1) (twoTunnels 7 8)) :=
  have hfresh : Along (netStep lowBits) (fun net event ↦ freshSessionId lowBits net event = true)
      (emptyNet 1) (twoTunnels 7 8) := by decide
  ⟨hfresh, by decide, by decide, v3_sessions_unique hfresh⟩

/-- The second tunnel is given the id that the first has in use. The lookup finds the new session,
and packets for the old one go to it. -/
theorem not_findsSessions_sameId :
    (netRun lowBits (emptyNet 1) (twoTunnels 7 7)).sessionId 0 = some 7 ∧
      (netRun lowBits (emptyNet 1) (twoTunnels 7 7)).sessionId 1 = some 7 ∧
      Chains.Linked (netRun lowBits (emptyNet 1) (twoTunnels 7 7)).sessionHlist 0 ∧
      Chains.Linked (netRun lowBits (emptyNet 1) (twoTunnels 7 7)).sessionHlist 1 ∧
      l2tpSessionFind lowBits (netRun lowBits (emptyNet 1) (twoTunnels 7 7)) none 7 = some 1 ∧
      ¬ FindsSessions lowBits (netRun lowBits (emptyNet 1) (twoTunnels 7 7)) := by
  have hfirst : Chains.Linked (netRun lowBits (emptyNet 1) (twoTunnels 7 7)).sessionHlist 0 :=
    ⟨7, by decide⟩
  have hsecond : Chains.Linked (netRun lowBits (emptyNet 1) (twoTunnels 7 7)).sessionHlist 1 :=
    ⟨7, by decide⟩
  refine ⟨by decide, by decide, hfirst, hsecond, by decide, fun hfinds ↦ ?_⟩
  exact absurd (hfinds.unique 0 1 7 hfirst hsecond (by decide) (by decide) (by decide)) (by decide)

end KernelModules.L2tp
