import KernelModules.L2tp.SessionTables
import Mathlib.Data.Finset.Basic

/-!
# The tables represent the attached sessions

A session is attached from its creation until it is unhashed, by itself, with its socket or with all
sessions of its tunnel. That is a set of sessions, and `Attachments` has it beside the namespace:
creation inserts into it, `__l2tp_session_unhash` and `l2tp_session_delete` erase,
`pppol2tp_release` erases the session of the socket, and `l2tp_tunnel_closeall` all sessions of the
tunnel.

The tables of the code represent this set (`Represents`): the table of a tunnel holds exactly its
attached sessions, each once and in the bucket of its id, and the table of the namespace those of
tunnels that do not speak L2TPv2. It takes no more than that a session is only created when a lookup
has not found its id (`represents_tableRun`), and then a lookup finds what is attached
(`tables_match`).

Within an operation the tables need not agree: `l2tp_tunnel_closeall` takes a session out of the
table of its tunnel first, and unhashes it a second time to take it out of that of the namespace.
-/

set_option autoImplicit false
set_option relaxedAutoImplicit false

namespace KernelModules.L2tp

open Foundations

variable {n : ℕ}

/-! ### What the tables represent -/

namespace Tables

/-- The version of a tunnel. -/
def version (tables : Tables) (t : ℕ) : Option ℕ := tables.tunnels[t]?.map (·.version)

/-- The id of an attached session of tunnel `t`. -/
def tunnelMember (tables : Tables) (attached : Finset ℕ) (t i : ℕ) : Option UInt32 :=
  if i ∈ attached then (tables.sessions[i]?.filter fun entry ↦ entry.tunnel = t).map (·.sessionId)
  else none

/-- The id of an attached session whose tunnel does not speak L2TPv2. -/
def globalMember (tables : Tables) (attached : Finset ℕ) (i : ℕ) : Option UInt32 :=
  if i ∈ attached ∧ tables.isV3 i = true then tables.key i else none

end Tables

/-- The tables list exactly the attached sessions, each once and in its bucket. -/
structure Tabulates (hash : SessionHash) (tables : Tables) (attached : Finset ℕ) : Prop where
  known : ∀ i ∈ attached, i < tables.sessions.length
  housed : ∀ (i : ℕ) (entry : SessionEntry), tables.sessions[i]? = some entry →
    (tables.tunnels[entry.tunnel]?).isSome
  tunnel : ∀ (t : ℕ) (table : TunnelTable), tables.tunnels[t]? = some table →
    Chains.Holds hash.hashBits (tables.tunnelMember attached t) table.hlist
  global : Chains.Holds hash.hashBits2 (tables.globalMember attached) tables.hlist

/-- The tables represent the attached sessions: they list them, and the ids within a tunnel are
distinct. -/
structure Represents (hash : SessionHash) (tables : Tables) (attached : Finset ℕ) : Prop
    extends Tabulates hash tables attached where
  distinct : ∀ (t i j : ℕ) (sessionId : UInt32), tables.tunnelMember attached t i = some sessionId →
    tables.tunnelMember attached t j = some sessionId → i = j

namespace Tables

variable {tables : Tables} {attached : Finset ℕ} {t i : ℕ} {sessionId : UInt32}

theorem tunnelMember_eq_some_iff : tables.tunnelMember attached t i = some sessionId ↔
    i ∈ attached ∧ tables.sessions[i]? = some ⟨sessionId, t⟩ := by
  unfold tunnelMember
  by_cases hi : i ∈ attached
  · rw [if_pos hi]
    cases tables.sessions[i]? with
    | none => simp
    | some entry =>
      obtain ⟨id, tunnel⟩ := entry
      by_cases ht : tunnel = t
      · simp [Option.filter, ht, hi]
      · simp [Option.filter, ht]
  · simp [hi]

theorem globalMember_eq_some_iff : tables.globalMember attached i = some sessionId ↔
    i ∈ attached ∧ tables.isV3 i = true ∧ tables.key i = some sessionId := by
  unfold globalMember
  by_cases hi : i ∈ attached ∧ tables.isV3 i = true
  · rw [if_pos hi]
    simp [hi]
  · rw [if_neg hi]
    simp only [reduceCtorEq, false_iff]
    exact fun hmember ↦ hi ⟨hmember.1, hmember.2.1⟩

theorem isV3_eq (tables : Tables) (i : ℕ) : tables.isV3 i =
    (tables.sessions[i]?.bind fun entry ↦ tables.version entry.tunnel).any (· ≠ hdrVer2) := by
  unfold isV3 version
  cases tables.sessions[i]? with
  | none => rfl
  | some entry =>
    dsimp only [Option.bind_some]
    cases tables.tunnels[entry.tunnel]? with
    | none => rfl
    | some table => rfl

/-- Whether the tunnel of a session speaks L2TPv2 depends on the session and on the versions. -/
theorem isV3_congr {tables' : Tables} (hsession : tables'.sessions[i]? = tables.sessions[i]?)
    (hversion : ∀ entry, tables.sessions[i]? = some entry →
      tables'.version entry.tunnel = tables.version entry.tunnel) :
    tables'.isV3 i = tables.isV3 i := by
  rw [isV3_eq, isV3_eq, hsession]
  cases hentry : tables.sessions[i]? with
  | none => rfl
  | some entry => rw [Option.bind_some, Option.bind_some, hversion entry hentry]

@[simp] theorem version_hlistDel (tables : Tables) (i t : ℕ) :
    (tables.hlistDel i).version t = tables.version t := by
  unfold version
  rw [tunnels_hlistDel, Option.map_map]
  congr 1
  funext table
  simp only [Function.comp_apply]
  split_ifs <;> rfl

/-- Unlinking twice from the table of a tunnel is unlinking once. -/
theorem unhash_hlistDel (tables : Tables) (i : ℕ) :
    (tables.hlistDel i).unhash i = tables.unhash i := by
  have hV3 : (tables.hlistDel i).isV3 i = tables.isV3 i :=
    isV3_congr (by rw [sessions_hlistDel]) fun entry _ ↦ version_hlistDel tables i entry.tunnel
  have htwice : (tables.hlistDel i).hlistDel i = tables.hlistDel i := by
    unfold hlistDel
    cases hentry : tables.sessions[i]? with
    | none => simp only [hentry]
    | some entry =>
      simp only [hentry, List.modify_modify_eq, Function.comp_def, Chains.unlink_unlink]
  unfold unhash
  rw [hV3, htwice, hlist_hlistDel]

theorem tunnelMember_unhash_self (tables : Tables) (attached : Finset ℕ) (t i : ℕ) :
    (tables.unhash i).tunnelMember (attached.erase i) t i = none :=
  if_neg (Finset.notMem_erase i attached)

theorem tunnelMember_unhash_of_ne (tables : Tables) (attached : Finset ℕ) (t : ℕ) {i j : ℕ}
    (hj : j ≠ i) : (tables.unhash i).tunnelMember (attached.erase i) t j =
      tables.tunnelMember attached t j := by
  have hsessions : (tables.unhash i).sessions = tables.sessions := sessions_hlistDel tables i
  simp only [tunnelMember, hsessions, Finset.mem_erase, hj, ne_eq, not_false_eq_true, true_and]

section New

variable (hash : SessionHash) {table : TunnelTable}

theorem tunnels_addSession (htable : tables.tunnels[t]? = some table) (t' : ℕ) :
    (tables.addSession hash t table sessionId).tunnels[t']? =
      if t = t' then
        some { table with
          hlist := Chains.link table.hlist (hash.hashBits sessionId) tables.sessions.length }
      else tables.tunnels[t']? := by
  have hlt := (List.getElem?_eq_some_iff.mp htable).1
  rw [addSession, List.getElem?_set]
  by_cases ht : t = t'
  · subst ht
    rw [if_pos rfl, if_pos rfl, if_pos hlt]
  · rw [if_neg ht, if_neg ht]

theorem version_addSession (htable : tables.tunnels[t]? = some table) (t' : ℕ) :
    (tables.addSession hash t table sessionId).version t' = tables.version t' := by
  rw [version, version, tunnels_addSession hash htable]
  split_ifs with ht
  · rw [← ht, htable]
    rfl
  · rfl

theorem sessions_addSession_last : (tables.addSession hash t table sessionId).sessions[
    tables.sessions.length]? = some ⟨sessionId, t⟩ :=
  List.getElem?_concat_length

theorem sessions_addSession_of_lt (hi : i < tables.sessions.length) :
    (tables.addSession hash t table sessionId).sessions[i]? = tables.sessions[i]? :=
  List.getElem?_append_left hi

variable (t table sessionId)

/-- The new session is a member of its tunnel, and the others are as before. -/
theorem tunnelMember_addSession (hknown : ∀ i ∈ attached, i < tables.sessions.length) (t' : ℕ) :
    ((tables.addSession hash t table sessionId).tunnelMember
      (insert tables.sessions.length attached) t'
        tables.sessions.length = if t = t' then some sessionId else none) ∧
      ∀ j, j ≠ tables.sessions.length →
        (tables.addSession hash t table sessionId).tunnelMember
          (insert tables.sessions.length attached) t' j = tables.tunnelMember attached t' j := by
  constructor
  · rw [tunnelMember, if_pos (Finset.mem_insert_self _ _), sessions_addSession_last]
    by_cases ht : t = t'
    · simp [Option.filter, ht]
    · simp [Option.filter, ht]
  · intro j hj
    unfold tunnelMember
    by_cases hmem : j ∈ attached
    · rw [if_pos (Finset.mem_insert_of_mem hmem), if_pos hmem,
        sessions_addSession_of_lt hash (hknown j hmem)]
    · have hout : j ∉ insert tables.sessions.length attached := by simp [hj, hmem]
      rw [if_neg hmem, if_neg hout]

/-- The new session is a member of the namespace if its tunnel does not speak L2TPv2, and the others
are as before. -/
theorem globalMember_addSession (hknown : ∀ i ∈ attached, i < tables.sessions.length)
    (htable : tables.tunnels[t]? = some table) :
    ((tables.addSession hash t table sessionId).globalMember
      (insert tables.sessions.length attached)
        tables.sessions.length = if table.version ≠ hdrVer2 then some sessionId else none) ∧
      ∀ j, j ≠ tables.sessions.length →
        (tables.addSession hash t table sessionId).globalMember
          (insert tables.sessions.length attached) j = tables.globalMember attached j := by
  constructor
  · have hV3 : (tables.addSession hash t table sessionId).isV3 tables.sessions.length =
        decide (table.version ≠ hdrVer2) := by
      rw [isV3_eq, sessions_addSession_last, Option.bind_some, version_addSession hash htable,
        version, htable]
      rfl
    simp only [globalMember, key, hV3, sessions_addSession_last, Finset.mem_insert_self, true_and,
      decide_eq_true_eq, Option.map_some]
  · intro j hj
    unfold globalMember key
    by_cases hmem : j ∈ attached
    · have hlt := hknown j hmem
      have hV3 : (tables.addSession hash t table sessionId).isV3 j = tables.isV3 j :=
        isV3_congr (sessions_addSession_of_lt hash hlt) fun entry _ ↦
          version_addSession hash htable entry.tunnel
      simp only [Finset.mem_insert_of_mem hmem, hmem, hV3, sessions_addSession_of_lt hash hlt]
    · have hout : j ∉ insert tables.sessions.length attached := by simp [hj, hmem]
      rw [if_neg fun h ↦ hout h.1, if_neg fun h ↦ hmem h.1]

end New

end Tables

namespace Tabulates

variable {hash : SessionHash} {tables : Tables} {attached : Finset ℕ}

/-- A session is unhashed, whether it is attached or not. -/
theorem unhash (htabulates : Tabulates hash tables attached) (i : ℕ) :
    Tabulates hash (tables.unhash i) (attached.erase i) := by
  have hsessions : (tables.unhash i).sessions = tables.sessions := Tables.sessions_hlistDel tables i
  have hV3 : ∀ j, (tables.unhash i).isV3 j = tables.isV3 j := fun j ↦
    Tables.isV3_congr (by rw [hsessions]) fun entry _ ↦
      Tables.version_hlistDel tables i entry.tunnel
  have hglobalSelf : (tables.unhash i).globalMember (attached.erase i) i = none :=
    if_neg fun hmem ↦ Finset.notMem_erase i attached hmem.1
  have hglobalOther : ∀ j, j ≠ i →
      (tables.unhash i).globalMember (attached.erase i) j = tables.globalMember attached j := by
    intro j hj
    simp only [Tables.globalMember, Tables.key, hsessions, hV3, Finset.mem_erase, hj, ne_eq,
      not_false_eq_true, true_and]
  refine ⟨?_, ?_, ?_, ?_⟩
  · intro j hj
    rw [hsessions]
    exact htabulates.known j (Finset.mem_of_mem_erase hj)
  · intro j entry hentry
    rw [hsessions] at hentry
    change ((tables.hlistDel i).tunnels[entry.tunnel]?).isSome
    rw [Tables.tunnels_hlistDel, Option.isSome_map]
    exact htabulates.housed j entry hentry
  · intro t table htable
    change (tables.hlistDel i).tunnels[t]? = some table at htable
    rw [Tables.tunnels_hlistDel, Option.map_eq_some_iff] at htable
    obtain ⟨before, hbefore, heq⟩ := htable
    have hholds := htabulates.tunnel t before hbefore
    split_ifs at heq with hown
    · rw [← heq]
      exact hholds.unlink (Tables.tunnelMember_unhash_self tables attached t i)
        fun j ↦ Tables.tunnelMember_unhash_of_ne tables attached t
    · -- The session is not one of this tunnel, so it was no member before.
      rw [← heq]
      refine hholds.congr fun j ↦ ?_
      by_cases hj : j = i
      · subst hj
        rw [Tables.tunnelMember_unhash_self]
        symm
        rw [Option.eq_none_iff_forall_ne_some]
        intro sessionId hmember
        have hentry := (Tables.tunnelMember_eq_some_iff.mp hmember).2
        exact hown (by simp [hentry])
      · exact Tables.tunnelMember_unhash_of_ne tables attached t hj
  · have hholds := htabulates.global
    unfold Tables.unhash
    dsimp only
    split_ifs with hown
    · exact hholds.unlink hglobalSelf hglobalOther
    · refine hholds.congr fun j ↦ ?_
      by_cases hj : j = i
      · subst hj
        exact hglobalSelf.trans (if_neg fun hmem ↦ hown hmem.2).symm
      · exact hglobalOther j hj

/-- A new tunnel has no sessions. -/
theorem addTunnel (htabulates : Tabulates hash tables attached) (version : ℕ) :
    Tabulates hash (tables.addTunnel version) attached := by
  have hV3 : ∀ j, (tables.addTunnel version).isV3 j = tables.isV3 j := by
    intro j
    refine Tables.isV3_congr rfl fun entry hentry ↦ ?_
    obtain ⟨table, htable⟩ := Option.isSome_iff_exists.mp (htabulates.housed j entry hentry)
    have hstill : (tables.addTunnel version).tunnels[entry.tunnel]? = some table :=
      getElem?_concat_of_some htable _
    rw [Tables.version, Tables.version, htable, hstill]
  refine ⟨htabulates.known, ?_, ?_, ?_⟩
  · intro j entry hentry
    obtain ⟨table, htable⟩ := Option.isSome_iff_exists.mp (htabulates.housed j entry hentry)
    exact Option.isSome_iff_exists.mpr ⟨table, getElem?_concat_of_some htable _⟩
  · intro t table htable
    rcases of_getElem?_concat htable with hold | ⟨hlast, rfl⟩
    · exact htabulates.tunnel t table hold
    · apply Chains.Holds.empty
      intro j
      rw [Option.eq_none_iff_forall_ne_some]
      intro sessionId hmember
      have hhoused := htabulates.housed j _ (Tables.tunnelMember_eq_some_iff.mp hmember).2
      simp [hlast] at hhoused
  · refine htabulates.global.congr fun j ↦ ?_
    simp only [Tables.globalMember, hV3]
    rfl

/-- A new session is attached. -/
theorem addSession (htabulates : Tabulates hash tables attached) {t : ℕ} {table : TunnelTable}
    (htable : tables.tunnels[t]? = some table) (sessionId : UInt32) :
    Tabulates hash (tables.addSession hash t table sessionId)
      (insert tables.sessions.length attached) := by
  have hmember := Tables.tunnelMember_addSession t sessionId hash table htabulates.known
  have hglobal := Tables.globalMember_addSession t sessionId hash table htabulates.known htable
  have hfresh : tables.sessions.length ∉ attached := fun hmem ↦
    absurd (htabulates.known _ hmem) (Nat.lt_irrefl _)
  have htunnelBefore : ∀ t', tables.tunnelMember attached t' tables.sessions.length = none :=
    fun t' ↦ if_neg hfresh
  have hglobalBefore : tables.globalMember attached tables.sessions.length = none :=
    if_neg fun hmem ↦ hfresh hmem.1
  refine ⟨?_, ?_, ?_, ?_⟩
  · intro j hj
    rw [Tables.addSession, List.length_append]
    rcases Finset.mem_insert.mp hj with rfl | hmem
    · exact Nat.lt_succ_self _
    · exact Nat.lt_succ_of_lt (htabulates.known j hmem)
  · intro j entry hentry
    rw [Tables.tunnels_addSession hash htable]
    split_ifs
    · rfl
    · rcases of_getElem?_concat hentry with hbefore | ⟨-, rfl⟩
      · exact htabulates.housed j entry hbefore
      · rw [htable]
        rfl
  · intro t' table' htable'
    rw [Tables.tunnels_addSession hash htable] at htable'
    split_ifs at htable' with ht
    · obtain rfl := ht
      rw [← Option.some.inj htable']
      refine (htabulates.tunnel t table htable).link (htunnelBefore t) ?_ (hmember t).2
      rw [(hmember t).1, if_pos rfl]
    · refine (htabulates.tunnel t' table' htable').congr fun j ↦ ?_
      by_cases hj : j = tables.sessions.length
      · rw [hj, (hmember t').1, if_neg ht, htunnelBefore]
      · exact (hmember t').2 j hj
  · have hhlist : (tables.addSession hash t table sessionId).hlist =
        if table.version = hdrVer2 then tables.hlist
        else Chains.link tables.hlist (hash.hashBits2 sessionId) tables.sessions.length := rfl
    rw [hhlist]
    split_ifs with hv2
    · refine htabulates.global.congr fun j ↦ ?_
      by_cases hj : j = tables.sessions.length
      · rw [hj, hglobalBefore, hglobal.1, if_neg (not_not.mpr hv2)]
      · exact hglobal.2 j hj
    · exact htabulates.global.link hglobalBefore (hglobal.1.trans (if_pos hv2)) hglobal.2

end Tabulates

namespace Represents

variable {hash : SessionHash} {tables : Tables} {attached : Finset ℕ}

/-- A session is unhashed, whether it is attached or not. -/
theorem unhash (hrepresents : Represents hash tables attached) (i : ℕ) :
    Represents hash (tables.unhash i) (attached.erase i) := by
  refine ⟨hrepresents.toTabulates.unhash i, fun t j k sessionId hj hk ↦ ?_⟩
  have hmember : ∀ l, (tables.unhash i).tunnelMember (attached.erase i) t l = some sessionId →
      tables.tunnelMember attached t l = some sessionId := by
    intro l hl
    by_cases hli : l = i
    · rw [hli, Tables.tunnelMember_unhash_self] at hl
      exact absurd hl (by simp)
    · rwa [Tables.tunnelMember_unhash_of_ne tables attached t hli] at hl
  exact hrepresents.distinct t j k sessionId (hmember j hj) (hmember k hk)

/-- A new tunnel has no sessions. -/
theorem addTunnel (hrepresents : Represents hash tables attached) (version : ℕ) :
    Represents hash (tables.addTunnel version) attached :=
  ⟨hrepresents.toTabulates.addTunnel version, hrepresents.distinct⟩

/-- A new session is attached, if no attached session of its tunnel has the id. -/
theorem addSession (hrepresents : Represents hash tables attached) {t : ℕ} {table : TunnelTable}
    {sessionId : UInt32} (htable : tables.tunnels[t]? = some table)
    (hunused : ∀ i, tables.tunnelMember attached t i ≠ some sessionId) :
    Represents hash (tables.addSession hash t table sessionId)
      (insert tables.sessions.length attached) := by
  refine ⟨hrepresents.toTabulates.addSession htable sessionId, ?_⟩
  -- The id of the new session is not that of an attached one, and the others are as before.
  have hcase : ∀ t' j id, (tables.addSession hash t table sessionId).tunnelMember
      (insert tables.sessions.length attached) t' j = some id →
        (j = tables.sessions.length ∧ t' = t ∧ id = sessionId) ∨
          tables.tunnelMember attached t' j = some id := by
    intro t' j id hj
    have hmember := Tables.tunnelMember_addSession t sessionId hash table hrepresents.known t'
    by_cases hlast : j = tables.sessions.length
    · rw [hlast, hmember.1] at hj
      split_ifs at hj with ht
      exact Or.inl ⟨hlast, ht.symm, (Option.some.inj hj).symm⟩
    · rw [hmember.2 j hlast] at hj
      exact Or.inr hj
  intro t' i j id hi hj
  rcases hcase t' i id hi with ⟨rfl, rfl, rfl⟩ | hi'
  · rcases hcase t' j id hj with ⟨rfl, -, -⟩ | hj'
    · rfl
    · exact absurd hj' (hunused j)
  · rcases hcase t' j id hj with ⟨rfl, rfl, rfl⟩ | hj'
    · exact absurd hi' (hunused i)
    · exact hrepresents.distinct t' i j id hi' hj'

/-- A lookup in the table of a tunnel finds its attached session with the id. -/
theorem lookup_iff (hrepresents : Represents hash tables attached) {t : ℕ} {table : TunnelTable}
    (htable : tables.tunnels[t]? = some table) (sessionId : UInt32) (i : ℕ) :
    Chains.lookup hash.hashBits tables.key table.hlist sessionId = some i ↔
      tables.tunnelMember attached t i = some sessionId := by
  apply (hrepresents.tunnel t table htable).lookup_eq_some_iff
  · intro j id hmember
    rw [Tables.key, (Tables.tunnelMember_eq_some_iff.mp hmember).2]
    rfl
  · exact hrepresents.distinct t

end Represents

/-- A lookup finds the attached session with the id. -/
theorem l2tpSessionFind_iff {hash : SessionHash} {net : L2tpNet n} {attached : Finset ℕ}
    (hrepresents : Represents hash net.tables attached) {t : ℕ} {tunnel : L2tpTunnel n}
    (htunnel : net.tunnels[t]? = some tunnel) (sessionId : UInt32) (i : ℕ) :
    l2tpSessionFind hash net (some t) sessionId = some i ↔
      net.tables.tunnelMember attached t i = some sessionId := by
  have htable : net.tables.tunnels[t]? = some tunnel.table := by simp [L2tpNet.tables, htunnel]
  rw [← hrepresents.lookup_iff htable, key_tables]
  simp only [l2tpSessionFind, htunnel, Option.bind_some]
  rfl

/-! ### Closing all sessions of a tunnel -/

theorem tables_closeSession (env : Env n) (net : L2tpNet n) (i : ℕ) :
    (closeSession env net i).tables = net.tables.unhash i := by
  have hclose : closeSession env net i = l2tpSessionDelete env (hlistDelInit net i) i := rfl
  rw [hclose, tables_l2tpSessionDelete, tables_hlistDelInit, Tables.unhash_hlistDel]

/-- On the way through the chains of tunnel `t`: some sessions of the tunnel have been closed, among
them all in the buckets `done`. -/
structure ClosedTo (hash : SessionHash) (net : L2tpNet n) (attached : Finset ℕ) (t : ℕ)
    (done : List (Fin 16)) (net' : L2tpNet n) (left : Finset ℕ) : Prop where
  tabulates : Tabulates hash net'.tables left
  sessions : net'.tables.sessions = net.tables.sessions
  sub : left ⊆ attached
  closed : ∀ i ∈ attached, i ∉ left → net.tables.sessions[i]?.any (·.tunnel = t) = true
  done_closed : ∀ i sessionId, net'.tables.tunnelMember left t i = some sessionId →
    hash.hashBits sessionId ∉ done

section Closeall

variable {hash : SessionHash} {net net' net'' : L2tpNet n} {attached left : Finset ℕ} {t i : ℕ}
  {done : List (Fin 16)} {bucket : Fin 16}

/-- A chain of a tunnel lists the attached sessions of its bucket. -/
theorem mem_chain_iff (htabulates : Tabulates hash net.tables attached) :
    i ∈ net.chain t bucket ↔ ∃ tunnel sessionId, net.tunnels[t]? = some tunnel ∧
      net.tables.tunnelMember attached t i = some sessionId ∧ hash.hashBits sessionId = bucket := by
  unfold L2tpNet.chain
  cases htunnel : net.tunnels[t]? with
  | none => simp
  | some tunnel =>
    have hholds := htabulates.tunnel t tunnel.table (by simp [L2tpNet.tables, htunnel])
    have hmem : i ∈ tunnel.sessionHlist bucket ↔ _ := hholds.mem_iff
    rw [Option.map_eq_some_iff] at hmem
    simpa using hmem

theorem chain_tables (net : L2tpNet n) (t : ℕ) (bucket : Fin 16) :
    net.chain t bucket = (net.tables.tunnels[t]?.map (·.hlist bucket)).getD [] := by
  rw [L2tpNet.chain, L2tpNet.tables, List.getElem?_map, Option.map_map]
  rfl

/-- A session that is unhashed leaves its chain. -/
theorem length_chain_unhash (htabulates : Tabulates hash net.tables attached)
    (hmem : i ∈ net.chain t bucket) (htables : net'.tables = net.tables.unhash i) :
    (net'.chain t bucket).length < (net.chain t bucket).length := by
  obtain ⟨tunnel, sessionId, htunnel, hmember, -⟩ := (mem_chain_iff htabulates).mp hmem
  have hentry := (Tables.tunnelMember_eq_some_iff.mp hmember).2
  have hchain : net'.chain t bucket = (net.chain t bucket).filter (· ≠ i) := by
    have htable : net.tables.tunnels[t]? = some tunnel.table := by
      simp [L2tpNet.tables, htunnel]
    have hunlinked : net'.tables.tunnels[t]? =
        some { tunnel.table with hlist := Chains.unlink tunnel.table.hlist i } := by
      rw [htables]
      change (net.tables.hlistDel i).tunnels[t]? = _
      rw [Tables.tunnels_hlistDel, htable, hentry]
      simp
    rw [chain_tables, chain_tables, htable, hunlinked]
    rfl
  rw [hchain]
  exact List.length_filter_lt_length_iff_exists.mpr ⟨i, hmem, by simp⟩

namespace ClosedTo

theorem refl (htabulates : Tabulates hash net.tables attached) (t : ℕ) :
    ClosedTo hash net attached t [] net attached :=
  ⟨htabulates, rfl, Finset.Subset.refl _, fun _ hi hnot ↦ absurd hi hnot, fun _ _ _ ↦
    List.not_mem_nil⟩

/-- A session of the tunnel is closed. -/
theorem unhash (hclosed : ClosedTo hash net attached t done net' left)
    (hmem : i ∈ net'.chain t bucket) (htables : net''.tables = net'.tables.unhash i) :
    ClosedTo hash net attached t done net'' (left.erase i) := by
  obtain ⟨tunnel, sessionId, -, hmember, -⟩ := (mem_chain_iff hclosed.tabulates).mp hmem
  have hentry := (Tables.tunnelMember_eq_some_iff.mp hmember).2
  have hsessions : net''.tables.sessions = net'.tables.sessions := by
    rw [htables]
    exact Tables.sessions_hlistDel net'.tables i
  refine ⟨?_, hsessions.trans hclosed.sessions, (Finset.erase_subset i left).trans hclosed.sub,
    ?_, ?_⟩
  · rw [htables]
    exact hclosed.tabulates.unhash i
  · intro j hj hleft
    by_cases hji : j = i
    · rw [hji, ← hclosed.sessions, hentry]
      simp
    · exact hclosed.closed j hj fun hmem ↦ hleft (Finset.mem_erase.mpr ⟨hji, hmem⟩)
  · intro j id hj
    rw [Tables.tunnelMember_eq_some_iff, hsessions, Finset.mem_erase] at hj
    exact hclosed.done_closed j id (Tables.tunnelMember_eq_some_iff.mpr ⟨hj.1.2, hj.2⟩)

/-- A chain has become empty. -/
theorem chain_nil (hclosed : ClosedTo hash net attached t done net' left)
    (hempty : net'.chain t bucket = []) :
    ClosedTo hash net attached t (bucket :: done) net' left := by
  refine { hclosed with done_closed := fun i sessionId hmember ↦ ?_ }
  rw [List.mem_cons, not_or]
  refine ⟨fun hbucket ↦ ?_, hclosed.done_closed i sessionId hmember⟩
  have hentry := (Tables.tunnelMember_eq_some_iff.mp hmember).2
  have hhoused := hclosed.tabulates.housed i _ hentry
  obtain ⟨tunnel, htunnel⟩ : ∃ tunnel, net'.tunnels[t]? = some tunnel := by
    simpa [L2tpNet.tables, Option.isSome_iff_exists] using hhoused
  have hmem := (mem_chain_iff hclosed.tabulates).mpr ⟨tunnel, sessionId, htunnel, hmember, hbucket⟩
  rw [hempty] at hmem
  exact absurd hmem List.not_mem_nil

/-- When all chains are done, exactly the sessions of the tunnel have been closed. -/
theorem left_eq (hclosed : ClosedTo hash net attached t done net' left)
    (hdone : ∀ bucket, bucket ∈ done) : left =
      attached.filter fun i ↦ ¬ net.tables.sessions[i]?.any (·.tunnel = t) = true := by
  ext i
  rw [Finset.mem_filter]
  constructor
  · intro hi
    refine ⟨hclosed.sub hi, fun hown ↦ ?_⟩
    obtain ⟨⟨sessionId, t'⟩, hentry, ht⟩ := (Option.any_eq_true _ _).mp hown
    obtain rfl : t' = t := of_decide_eq_true ht
    rw [← hclosed.sessions] at hentry
    exact hclosed.done_closed i sessionId (Tables.tunnelMember_eq_some_iff.mpr ⟨hi, hentry⟩)
      (hdone _)
  · rintro ⟨hi, hother⟩
    by_contra hnot
    exact hother (hclosed.closed i hi hnot)

/-- The loop over one chain closes all its sessions. -/
theorem closeChain (hclosed : ClosedTo hash net attached t done net' left) (env : Env n)
    (bucket : Fin 16) :
    ∃ left', ClosedTo hash net attached t (bucket :: done)
      (drain (closeStep env t bucket) (net'.chain t bucket).length net') left' := by
  have hbody : ∀ turn turn', (∃ left', ClosedTo hash net attached t done turn left') →
      closeStep env t bucket turn = some turn' →
      (∃ left', ClosedTo hash net attached t done turn' left') ∧
        (turn'.chain t bucket).length < (turn.chain t bucket).length := by
    rintro turn turn' ⟨left', hturn⟩ hstep
    unfold closeStep at hstep
    cases hchain : turn.chain t bucket with
    | nil => simp [hchain] at hstep
    | cons i rest =>
      simp only [hchain, Option.some.injEq] at hstep
      have hhead : i ∈ turn.chain t bucket := by rw [hchain]; exact List.mem_cons_self
      have htables : turn'.tables = turn.tables.unhash i := by
        rw [← hstep]
        exact tables_closeSession env turn i
      rw [← hchain]
      exact ⟨⟨left'.erase i, hturn.unhash hhead htables⟩,
        length_chain_unhash hturn.tabulates hhead htables⟩
  obtain ⟨⟨left', hlast⟩, hstop⟩ := drain_stops_of_invariant
    (fun turn : L2tpNet n ↦ (turn.chain t bucket).length) hbody (net'.chain t bucket).length net'
    ⟨left, hclosed⟩ le_rfl
  refine ⟨left', hlast.chain_nil ?_⟩
  unfold closeStep at hstop
  split at hstop
  · assumption
  · exact absurd hstop (by simp)

end ClosedTo

/-- `l2tp_tunnel_closeall` unhashes exactly the attached sessions of the tunnel. -/
theorem Tabulates.closeall (htabulates : Tabulates hash net.tables attached) (env : Env n) (t : ℕ) :
    ∃ done left, ClosedTo hash net attached t done (l2tpTunnelCloseall env net t) left ∧
      ∀ bucket, bucket ∈ done := by
  have hloop : ∀ (buckets done : List (Fin 16)) (net' : L2tpNet n) (left : Finset ℕ),
      ClosedTo hash net attached t done net' left →
      ∃ left', ClosedTo hash net attached t (buckets.reverse ++ done)
        (buckets.foldl (fun net bucket ↦
          drain (closeStep env t bucket) (net.chain t bucket).length net) net') left' := by
    intro buckets
    induction buckets with
    | nil => exact fun done net' left hclosed ↦ ⟨left, hclosed⟩
    | cons bucket buckets ih =>
      intro done net' left hclosed
      obtain ⟨left', hnext⟩ := hclosed.closeChain env bucket
      rw [List.reverse_cons, List.append_assoc]
      exact ih (bucket :: done) _ left' hnext
  obtain ⟨left, hclosed⟩ := hloop (List.finRange 16) [] net attached (ClosedTo.refl htabulates t)
  exact ⟨_, left, hclosed, by simp⟩

theorem Represents.closeall (hrepresents : Represents hash net.tables attached) (env : Env n)
    (t : ℕ) : Represents hash (l2tpTunnelCloseall env net t).tables
      (attached.filter fun i ↦ ¬ net.tables.sessions[i]?.any (·.tunnel = t) = true) := by
  obtain ⟨done, left, hclosed, hdone⟩ := hrepresents.toTabulates.closeall env t
  rw [← hclosed.left_eq hdone]
  refine ⟨hclosed.tabulates, fun t' i j sessionId hi hj ↦ ?_⟩
  have hmember : ∀ k, (l2tpTunnelCloseall env net t).tables.tunnelMember left t' k =
      some sessionId → net.tables.tunnelMember attached t' k = some sessionId := by
    intro k hk
    rw [Tables.tunnelMember_eq_some_iff, hclosed.sessions] at hk
    exact Tables.tunnelMember_eq_some_iff.mpr ⟨hclosed.sub hk.1, hk.2⟩
  exact hrepresents.distinct t' i j sessionId (hmember i hi) (hmember j hj)

end Closeall

/-! ### Runs -/

/-- What can happen to the tables. A session is created through a path that looks for its id first,
and anything that leaves the tables alone may happen in between, such as traffic, settings and
sockets that are attached to sessions. -/
inductive TableOp (n : ℕ)
  | tunnelCreate (socket : TunnelSocket) (version : ℕ) (tunnelId peerTunnelId : UInt32)
      (encap : L2tpEncap)
  | sessionCreate (t : ℕ) (sessionId peerSessionId : UInt32) (cfg : L2tpSessionCfg)
  | sessionUnhash (i : ℕ)
  | sessionDelete (env : Env n) (i : ℕ)
  | release (env : Env n) (sk : ℕ)
  | closeall (env : Env n) (t : ℕ)
  | other (change : L2tpNet n → L2tpNet n) (hchange : ∀ net, (change net).tables = net.tables)

/-- A namespace and the sessions that have been created and not unhashed since. -/
structure Attachments (n : ℕ) where
  net : L2tpNet n
  attached : Finset ℕ

/-- The session that `pppol2tp_release` unhashes. -/
def releasedSession (net : L2tpNet n) (sk : ℕ) : Option ℕ :=
  (net.socks[sk]?.filter fun sock ↦ !sock.dead).bind (·.userData)

/-- One operation. -/
def tableStep (hash : SessionHash) (state : Attachments n) : TableOp n → Attachments n
  | .tunnelCreate socket version tunnelId peerTunnelId encap =>
    { state with net := (l2tpTunnelCreate state.net socket version tunnelId peerTunnelId encap).1 }
  | .sessionCreate t sessionId peerSessionId cfg =>
    match l2tpSessionFind hash state.net (some t) sessionId, state.net.tunnels[t]? with
    | none, some tunnel =>
      { net := l2tpSessionCreate hash state.net t tunnel sessionId peerSessionId cfg
        attached := insert state.net.sessions.length state.attached }
    | _, _ => state
  | .sessionUnhash i =>
    { net := l2tpSessionUnhash state.net i, attached := state.attached.erase i }
  | .sessionDelete env i =>
    { net := l2tpSessionDelete env state.net i, attached := state.attached.erase i }
  | .release env sk =>
    { net := (pppol2tpRelease env state.net sk).1
      attached := state.attached.filter fun i ↦ releasedSession state.net sk ≠ some i }
  | .closeall env t =>
    { net := l2tpTunnelCloseall env state.net t
      attached := state.attached.filter fun i ↦
        ¬ state.net.sessions[i]?.any (·.tunnel = t) = true }
  | .other change _ => { state with net := change state.net }

/-- A run from an empty namespace. -/
def tableRun (hash : SessionHash) (ops : List (TableOp n)) : Attachments n :=
  ops.foldl (tableStep hash) { net := emptyNet n, attached := ∅ }

theorem tables_l2tpTunnelCreate (net : L2tpNet n) (socket : TunnelSocket) (version : ℕ)
    (tunnelId peerTunnelId : UInt32) (encap : L2tpEncap) :
    (l2tpTunnelCreate net socket version tunnelId peerTunnelId encap).1.tables = net.tables ∨
      (l2tpTunnelCreate net socket version tunnelId peerTunnelId encap).1.tables =
        net.tables.addTunnel version := by
  unfold l2tpTunnelCreate
  cases socket.sk with
  | error errno => exact Or.inl rfl
  | ok sk =>
    dsimp only
    split_ifs
    · exact Or.inl rfl
    · exact Or.inl rfl
    · exact Or.inl rfl
    · refine Or.inr ?_
      simp [L2tpNet.tables, Tables.addTunnel, L2tpTunnel.table, newTunnel]

theorem tables_pppol2tpRelease (env : Env n) (net : L2tpNet n) (sk : ℕ) :
    (pppol2tpRelease env net sk).1.tables =
      match releasedSession net sk with
      | none => net.tables
      | some i => net.tables.unhash i := by
  unfold pppol2tpRelease releasedSession
  cases net.socks[sk]? with
  | none => rfl
  | some sock =>
    cases hdead : sock.dead with
    | true => simp [hdead, Option.filter_some]
    | false =>
      cases hdata : sock.userData with
      | none => simp [hdead, hdata, L2tpNet.tables, Option.filter_some]
      | some i =>
        simp only [hdead, hdata, Option.filter_some, Bool.not_false, if_true, Option.bind_some,
          if_neg Bool.false_ne_true]
        rw [tables_onFlow (KeepsSetup.l2tpSessionQueuePurge env), tables_l2tpSessionUnhash]
        rfl

theorem represents_emptyNet (hash : SessionHash) (n : ℕ) :
    Represents hash (emptyNet n).tables ∅ where
  known := by simp
  housed := by simp [L2tpNet.tables, emptyNet]
  tunnel := by simp [L2tpNet.tables, emptyNet]
  global := Chains.Holds.empty fun i ↦ if_neg fun hmem ↦ Finset.notMem_empty i hmem.1
  distinct := by
    intro t i j sessionId hi
    exact absurd (Tables.tunnelMember_eq_some_iff.mp hi).1 (Finset.notMem_empty i)

/-- Every operation keeps the tables in step with the attached sessions. -/
theorem represents_tableStep {hash : SessionHash} {state : Attachments n}
    (hrepresents : Represents hash state.net.tables state.attached) (op : TableOp n) :
    Represents hash (tableStep hash state op).net.tables (tableStep hash state op).attached := by
  cases op with
  | tunnelCreate socket version tunnelId peerTunnelId encap =>
    dsimp only [tableStep]
    rcases tables_l2tpTunnelCreate state.net socket version tunnelId peerTunnelId encap with
      heq | heq
    · rw [heq]
      exact hrepresents
    · rw [heq]
      exact hrepresents.addTunnel version
  | sessionCreate t sessionId peerSessionId cfg =>
    dsimp only [tableStep]
    split
    · rename_i tunnel hunused htunnel
      dsimp only
      rw [tables_l2tpSessionCreate]
      have hlength : state.net.sessions.length = state.net.tables.sessions.length := by
        simp [L2tpNet.tables]
      rw [hlength]
      refine hrepresents.addSession (by simp [L2tpNet.tables, htunnel]) fun i hmember ↦ ?_
      rw [(l2tpSessionFind_iff hrepresents htunnel sessionId i).mpr hmember] at hunused
      exact absurd hunused (by simp)
    · exact hrepresents
  | sessionUnhash i =>
    dsimp only [tableStep]
    rw [tables_l2tpSessionUnhash]
    exact hrepresents.unhash i
  | sessionDelete env i =>
    dsimp only [tableStep]
    rw [tables_l2tpSessionDelete]
    exact hrepresents.unhash i
  | release env sk =>
    dsimp only [tableStep]
    rw [tables_pppol2tpRelease]
    cases releasedSession state.net sk with
    | none => simpa using hrepresents
    | some i =>
      have herase : state.attached.filter (fun j ↦ some i ≠ some j) = state.attached.erase i := by
        ext j
        simp [eq_comm, and_comm]
      rw [herase]
      exact hrepresents.unhash i
  | closeall env t =>
    have hown : ∀ i : ℕ,
        state.net.tables.sessions[i]?.any (fun entry : SessionEntry ↦ entry.tunnel = t) =
          state.net.sessions[i]?.any fun session : L2tpSession n ↦ session.tunnel = t := by
      intro i
      rw [L2tpNet.tables, List.getElem?_map, Option.any_map]
      rfl
    have hfilter : state.attached.filter (fun i ↦
          ¬ state.net.tables.sessions[i]?.any
            (fun entry : SessionEntry ↦ entry.tunnel = t) = true) =
        state.attached.filter fun i ↦
          ¬ state.net.sessions[i]?.any (fun session : L2tpSession n ↦ session.tunnel = t) = true :=
      Finset.filter_congr fun i _ ↦ by rw [hown]
    dsimp only [tableStep]
    rw [← hfilter]
    exact hrepresents.closeall env t
  | other change hchange =>
    dsimp only [tableStep]
    rw [hchange]
    exact hrepresents

/-- The tables represent the attached sessions after every run. -/
theorem represents_tableRun (hash : SessionHash) (ops : List (TableOp n)) :
    Represents hash (tableRun hash ops).net.tables (tableRun hash ops).attached := by
  have hrun : ∀ state : Attachments n, Represents hash state.net.tables state.attached →
      Represents hash (ops.foldl (tableStep hash) state).net.tables
        (ops.foldl (tableStep hash) state).attached := by
    induction ops with
    | nil => exact fun _ hrepresents ↦ hrepresents
    | cons op ops ih => exact fun state hrepresents ↦ ih _ (represents_tableStep hrepresents op)
  exact hrun _ (represents_emptyNet hash n)

/-- What the tables say of the attached sessions: an attached session is once in the table of its
tunnel, in the bucket of its id, and once in the table of the namespace if its tunnel does not speak
L2TPv2, and then in the bucket of its id there; it is in no table of another tunnel. A session that
is not attached is in no table. The ids of the attached sessions of a tunnel are distinct, and a
lookup on a tunnel finds the attached session with the id, or nothing if there is none. -/
structure TablesMatch (hash : SessionHash) (net : L2tpNet n) (attached : Finset ℕ) : Prop where
  once : ∀ i ∈ attached, ∃ session tunnel, net.sessions[i]? = some session ∧
    net.tunnels[session.tunnel]? = some tunnel ∧
    (∀ bucket, (tunnel.sessionHlist bucket).count i =
      if hash.hashBits session.sessionId = bucket then 1 else 0) ∧
    (∀ bucket, (net.sessionHlist bucket).count i =
      if tunnel.version ≠ hdrVer2 ∧ hash.hashBits2 session.sessionId = bucket then 1 else 0) ∧
    ∀ (t : ℕ) (tunnel' : L2tpTunnel n) (bucket : Fin 16), net.tunnels[t]? = some tunnel' →
      i ∈ tunnel'.sessionHlist bucket → t = session.tunnel
  unhashed : ∀ i, i ∉ attached → (∀ (t : ℕ) (tunnel : L2tpTunnel n) (bucket : Fin 16),
    net.tunnels[t]? = some tunnel → i ∉ tunnel.sessionHlist bucket) ∧
      ∀ bucket, i ∉ net.sessionHlist bucket
  distinct : ∀ i ∈ attached, ∀ j ∈ attached, ∀ session session' : L2tpSession n,
    net.sessions[i]? = some session → net.sessions[j]? = some session' →
    session.tunnel = session'.tunnel → session.sessionId = session'.sessionId → i = j
  find : ∀ (t : ℕ) (tunnel : L2tpTunnel n) (sessionId : UInt32), net.tunnels[t]? = some tunnel →
    (∀ i, l2tpSessionFind hash net (some t) sessionId = some i ↔ i ∈ attached ∧
      ∃ session, net.sessions[i]? = some session ∧ session.tunnel = t ∧
        session.sessionId = sessionId) ∧
    (l2tpSessionFind hash net (some t) sessionId = none ↔ ∀ i ∈ attached,
      ∀ session, net.sessions[i]? = some session → session.tunnel = t →
        session.sessionId ≠ sessionId)

section Match

variable {hash : SessionHash} {net : L2tpNet n} {attached : Finset ℕ}

/-- An attached session of a tunnel, said of the namespace. -/
theorem tunnelMember_tables_iff {t i : ℕ} {sessionId : UInt32} :
    net.tables.tunnelMember attached t i = some sessionId ↔ i ∈ attached ∧
      ∃ session, net.sessions[i]? = some session ∧ session.tunnel = t ∧
        session.sessionId = sessionId := by
  rw [Tables.tunnelMember_eq_some_iff, L2tpNet.tables, List.getElem?_map, Option.map_eq_some_iff]
  simp only [L2tpSession.entry, SessionEntry.mk.injEq]
  constructor
  · rintro ⟨hi, session, hsession, hid, ht⟩
    exact ⟨hi, session, hsession, ht, hid⟩
  · rintro ⟨hi, session, hsession, ht, hid⟩
    exact ⟨hi, session, hsession, hid, ht⟩

namespace Represents

variable (hrepresents : Represents hash net.tables attached)

include hrepresents

theorem holds_tunnel {t : ℕ} {tunnel : L2tpTunnel n} (htunnel : net.tunnels[t]? = some tunnel) :
    Chains.Holds hash.hashBits (net.tables.tunnelMember attached t) tunnel.sessionHlist :=
  hrepresents.tunnel t tunnel.table (by simp [L2tpNet.tables, htunnel])

theorem holds_global :
    Chains.Holds hash.hashBits2 (net.tables.globalMember attached) net.sessionHlist :=
  hrepresents.global

theorem exists_session {i : ℕ} (hi : i ∈ attached) : ∃ session tunnel,
    net.sessions[i]? = some session ∧ net.tunnels[session.tunnel]? = some tunnel := by
  have hlt := hrepresents.known i hi
  rw [L2tpNet.tables, List.length_map] at hlt
  have hsession := List.getElem?_eq_getElem hlt
  have hhoused := hrepresents.housed i net.sessions[i].entry (by simp [L2tpNet.tables, hsession])
  simp only [L2tpNet.tables, List.getElem?_map, Option.isSome_map] at hhoused
  obtain ⟨tunnel, htunnel⟩ := Option.isSome_iff_exists.mp hhoused
  exact ⟨_, tunnel, hsession, htunnel⟩

omit hrepresents in
theorem globalMember_of_attached {i : ℕ} {session : L2tpSession n} {tunnel : L2tpTunnel n}
    (hi : i ∈ attached) (hsession : net.sessions[i]? = some session)
    (htunnel : net.tunnels[session.tunnel]? = some tunnel) :
    net.tables.globalMember attached i =
      if tunnel.version ≠ hdrVer2 then some session.sessionId else none := by
  have hV3 : net.tables.isV3 i = decide (tunnel.version ≠ hdrVer2) := by
    rw [Tables.isV3_eq]
    simp [L2tpNet.tables, Tables.version, hsession, L2tpSession.entry, htunnel, L2tpTunnel.table]
  have hkey : net.tables.key i = some session.sessionId := by
    simp [L2tpNet.tables, Tables.key, hsession, L2tpSession.entry]
  unfold Tables.globalMember
  rw [hV3, hkey]
  simp [hi]

theorem once {i : ℕ} (hi : i ∈ attached) : ∃ session tunnel, net.sessions[i]? = some session ∧
    net.tunnels[session.tunnel]? = some tunnel ∧
    (∀ bucket, (tunnel.sessionHlist bucket).count i =
      if hash.hashBits session.sessionId = bucket then 1 else 0) ∧
    (∀ bucket, (net.sessionHlist bucket).count i =
      if tunnel.version ≠ hdrVer2 ∧ hash.hashBits2 session.sessionId = bucket then 1 else 0) ∧
    ∀ (t : ℕ) (tunnel' : L2tpTunnel n) (bucket : Fin 16), net.tunnels[t]? = some tunnel' →
      i ∈ tunnel'.sessionHlist bucket → t = session.tunnel := by
  obtain ⟨session, tunnel, hsession, htunnel⟩ := hrepresents.exists_session hi
  have hmember : net.tables.tunnelMember attached session.tunnel i = some session.sessionId :=
    tunnelMember_tables_iff.mpr ⟨hi, session, hsession, rfl, rfl⟩
  refine ⟨session, tunnel, hsession, htunnel, fun bucket ↦ ?_, fun bucket ↦ ?_, ?_⟩
  · rw [hrepresents.holds_tunnel htunnel bucket i, hmember]
    simp
  · rw [hrepresents.holds_global bucket i,
      globalMember_of_attached hi hsession htunnel]
    by_cases hversion : tunnel.version = hdrVer2
    · simp [hversion]
    · simp [hversion]
  · intro t tunnel' bucket htunnel' hmem
    obtain ⟨id, hid, -⟩ := Option.map_eq_some_iff.mp
      ((hrepresents.holds_tunnel htunnel').mem_iff.mp hmem)
    obtain ⟨-, session', hsession', rfl, -⟩ := tunnelMember_tables_iff.mp hid
    rw [Option.some.inj (hsession.symm.trans hsession')]

theorem unhashed {i : ℕ} (hi : i ∉ attached) : (∀ (t : ℕ) (tunnel : L2tpTunnel n) (bucket : Fin 16),
    net.tunnels[t]? = some tunnel → i ∉ tunnel.sessionHlist bucket) ∧
      ∀ bucket, i ∉ net.sessionHlist bucket := by
  constructor
  · intro t tunnel bucket htunnel hmem
    obtain ⟨id, hid, -⟩ := Option.map_eq_some_iff.mp
      ((hrepresents.holds_tunnel htunnel).mem_iff.mp hmem)
    exact hi (tunnelMember_tables_iff.mp hid).1
  · intro bucket hmem
    obtain ⟨id, hid, -⟩ := Option.map_eq_some_iff.mp (hrepresents.holds_global.mem_iff.mp hmem)
    exact hi (Tables.globalMember_eq_some_iff.mp hid).1

theorem find_none_iff {t : ℕ} {tunnel : L2tpTunnel n} (htunnel : net.tunnels[t]? = some tunnel)
    (sessionId : UInt32) : l2tpSessionFind hash net (some t) sessionId = none ↔ ∀ i ∈ attached,
      ∀ session, net.sessions[i]? = some session → session.tunnel = t →
        session.sessionId ≠ sessionId := by
  rw [Option.eq_none_iff_forall_ne_some]
  simp only [ne_eq, l2tpSessionFind_iff hrepresents htunnel, tunnelMember_tables_iff]
  constructor
  · intro hnone i hi session hsession ht hid
    exact hnone i ⟨hi, session, hsession, ht, hid⟩
  · rintro hnone i ⟨hi, session, hsession, ht, hid⟩
    exact hnone i hi session hsession ht hid

/-- Tables that represent the attached sessions match them. -/
theorem tablesMatch : TablesMatch hash net attached where
  once _ := hrepresents.once
  unhashed _ := hrepresents.unhashed
  distinct i hi j hj session session' hsession hsession' ht hid :=
    hrepresents.distinct session'.tunnel i j session'.sessionId
      (tunnelMember_tables_iff.mpr ⟨hi, session, hsession, ht, hid⟩)
      (tunnelMember_tables_iff.mpr ⟨hj, session', hsession', rfl, rfl⟩)
  find _ _ sessionId htunnel :=
    ⟨fun i ↦ (l2tpSessionFind_iff hrepresents htunnel sessionId i).trans tunnelMember_tables_iff,
      hrepresents.find_none_iff htunnel sessionId⟩

end Represents

end Match

/-- The tables match the attached sessions after every sequence of operations, for every pair of
hash functions. -/
theorem tables_match (hash : SessionHash) (ops : List (TableOp n)) :
    TablesMatch hash (tableRun hash ops).net (tableRun hash ops).attached :=
  (represents_tableRun hash ops).tablesMatch

end KernelModules.L2tp
