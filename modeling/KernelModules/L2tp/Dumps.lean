import KernelModules.Foundations.Cursors
import KernelModules.L2tp.Net

/-!
# Netlink dumps

`l2tp_nl_cmd_tunnel_dump` and `l2tp_nl_cmd_session_dump` fill one reply buffer after the other. What
they know from the call before are one and two numbers in `cb->args`, and they count through the
tunnel list and through the chains of a tunnel to find their place again. The namespace is the same
in all calls. Positions are numbers here and `int` in the source, which is enough for the tunnels
and sessions there is memory for.

Whether a record still fits is for each buffer a function of what is in it already. Every call
comes to an end, and if a buffer takes at least one record, the calls up to the first that lists
nothing list every tunnel and every session once, in the order of the tunnel list, the buckets and
the chains (`dumps_list_everything`).
-/

set_option autoImplicit false
set_option relaxedAutoImplicit false

namespace KernelModules.L2tp

open Foundations

variable {n : ℕ}

/-! ### Counting -/

/-- The sessions of a tunnel, by bucket and chain. -/
def L2tpNet.sessionsOf (net : L2tpNet n) (t : ℕ) : List ℕ :=
  (List.finRange 16).flatMap (net.chain t)

/-- `l2tp_session_find_nth`. -/
def l2tpSessionFindNth (net : L2tpNet n) (t nth : ℕ) : Option ℕ :=
  findNth nth 0 (net.sessionsOf t)

/-- `l2tp_tunnel_find_nth`. -/
def l2tpTunnelFindNth (net : L2tpNet n) (nth : ℕ) : Option ℕ := findNth nth 0 net.tunnelList

theorem l2tpSessionFindNth_eq (net : L2tpNet n) (t nth : ℕ) :
    l2tpSessionFindNth net t nth = (net.sessionsOf t)[nth]? :=
  findNth_eq (Nat.zero_le nth) _

theorem l2tpTunnelFindNth_eq (net : L2tpNet n) (nth : ℕ) :
    l2tpTunnelFindNth net nth = net.tunnelList[nth]? :=
  findNth_eq (Nat.zero_le nth) _

/-! ### Tunnels -/

/-- One turn of the loop of `l2tp_nl_cmd_tunnel_dump`. -/
def tunnelDumpTurn (net : L2tpNet n) (ti : ℕ) : Turn ℕ ℕ :=
  match l2tpTunnelFindNth net ti with
  | none => .done
  | some t => .item t (ti + 1)

/-- The loop of `l2tp_nl_cmd_tunnel_dump`. -/
def tunnelDumpLoop (net : L2tpNet n) (fits : List ℕ → ℕ → Bool) (ti : ℕ) : ℕ × List ℕ :=
  drain (dumpStep (tunnelDumpTurn net) fits) net.tunnelList.length (ti, [])

/-- `l2tp_nl_cmd_tunnel_dump`: the new `cb->args` and the records in the buffer. -/
def l2tpNlCmdTunnelDump (net : L2tpNet n) (fits : List ℕ → ℕ → Bool) (ti : ℕ) : ℕ × List ℕ :=
  tunnelDumpLoop net fits ti

theorem enumerates_tunnels (net : L2tpNet n) :
    Enumerates (tunnelDumpTurn net) (fun _ ↦ True) net.tunnelList.drop
      (fun ti ↦ net.tunnelList.length - ti) where
  done ti _ hturn := by
    rw [tunnelDumpTurn, l2tpTunnelFindNth_eq] at hturn
    cases hfind : net.tunnelList[ti]? with
    | none => exact drop_of_getElem?_none hfind
    | some t =>
      rw [hfind] at hturn
      cases hturn
  skip ti _ _ hturn := by
    rw [tunnelDumpTurn] at hturn
    split at hturn <;> cases hturn
  item ti t _ _ hturn := by
    rw [tunnelDumpTurn, l2tpTunnelFindNth_eq] at hturn
    cases hfind : net.tunnelList[ti]? with
    | none =>
      rw [hfind] at hturn
      cases hturn
    | some t' =>
      rw [hfind] at hturn
      cases hturn
      obtain ⟨hlt, -⟩ := List.getElem?_eq_some_iff.mp hfind
      exact ⟨trivial, drop_of_getElem?_some hfind, by omega⟩

/-! ### Sessions -/

/-- The variables of the loop of `l2tp_nl_cmd_session_dump`. -/
structure SessionCursor where
  tunnel : Option ℕ
  ti : ℕ
  si : ℕ

/-- One turn of the loop of `l2tp_nl_cmd_session_dump`. -/
def sessionDumpTurn (net : L2tpNet n) (cursor : SessionCursor) : Turn SessionCursor ℕ :=
  match cursor.tunnel.or (l2tpTunnelFindNth net cursor.ti) with
  | none => .done
  | some t =>
    match l2tpSessionFindNth net t cursor.si with
    | none => .skip { tunnel := none, ti := cursor.ti + 1, si := 0 }
    | some i => .item i { cursor with tunnel := some t, si := cursor.si + 1 }

/-- All sessions of the tunnels of the list. -/
def L2tpNet.listedSessions (net : L2tpNet n) : List ℕ := net.tunnelList.flatMap net.sessionsOf

/-- The loop of `l2tp_nl_cmd_session_dump`. -/
def sessionDumpLoop (net : L2tpNet n) (fits : List ℕ → ℕ → Bool) (args : ℕ × ℕ) :
    SessionCursor × List ℕ :=
  drain (dumpStep (sessionDumpTurn net) fits) (net.tunnelList.length + net.listedSessions.length)
    ({ tunnel := none, ti := args.1, si := args.2 }, [])

/-- `l2tp_nl_cmd_session_dump`: the new `cb->args` and the records in the buffer. -/
def l2tpNlCmdSessionDump (net : L2tpNet n) (fits : List ℕ → ℕ → Bool) (args : ℕ × ℕ) :
    (ℕ × ℕ) × List ℕ :=
  let last := sessionDumpLoop net fits args
  ((last.1.ti, last.1.si), last.2)

/-- The sessions from a place on. -/
def sessionsFrom (net : L2tpNet n) (ti si : ℕ) : List ℕ :=
  match net.tunnelList.drop ti with
  | [] => []
  | t :: rest => (net.sessionsOf t).drop si ++ rest.flatMap net.sessionsOf

theorem sessionsFrom_zero (net : L2tpNet n) (ti : ℕ) :
    sessionsFrom net ti 0 = (net.tunnelList.drop ti).flatMap net.sessionsOf := by
  unfold sessionsFrom
  cases net.tunnelList.drop ti with
  | nil => rfl
  | cons t rest => rfl

theorem length_sessionsFrom_le (net : L2tpNet n) (ti si : ℕ) :
    (sessionsFrom net ti si).length ≤ net.listedSessions.length := by
  have hall : (sessionsFrom net ti si).length ≤
      ((net.tunnelList.drop ti).flatMap net.sessionsOf).length := by
    unfold sessionsFrom
    cases net.tunnelList.drop ti with
    | nil => exact le_rfl
    | cons t rest =>
      rw [List.flatMap_cons, List.length_append, List.length_append, List.length_drop]
      omega
  refine hall.trans ?_
  rw [L2tpNet.listedSessions]
  conv_rhs => rw [← List.take_append_drop ti net.tunnelList]
  rw [List.flatMap_append, List.length_append]
  omega

/-- A tunnel in the variable `tunnel` is the one at `ti`. -/
def SessionCursor.Cached (net : L2tpNet n) (cursor : SessionCursor) : Prop :=
  ∀ t, cursor.tunnel = some t → net.tunnelList[cursor.ti]? = some t

/-- What a turn does. -/
theorem sessionDumpTurn_cases {net : L2tpNet n} {cursor : SessionCursor}
    (hcached : cursor.Cached net) :
    (net.tunnelList[cursor.ti]? = none ∧ sessionDumpTurn net cursor = .done) ∨
    ∃ t, net.tunnelList[cursor.ti]? = some t ∧
      (((net.sessionsOf t)[cursor.si]? = none ∧ sessionDumpTurn net cursor =
          .skip { tunnel := none, ti := cursor.ti + 1, si := 0 }) ∨
        ∃ i, (net.sessionsOf t)[cursor.si]? = some i ∧ sessionDumpTurn net cursor =
          .item i { tunnel := some t, ti := cursor.ti, si := cursor.si + 1 }) := by
  have hvar : cursor.tunnel.or (l2tpTunnelFindNth net cursor.ti) = net.tunnelList[cursor.ti]? := by
    rw [l2tpTunnelFindNth_eq]
    cases hvar : cursor.tunnel with
    | none => rfl
    | some t => rw [hcached t hvar, Option.some_or]
  unfold sessionDumpTurn
  rw [hvar]
  cases net.tunnelList[cursor.ti]? with
  | none => exact Or.inl ⟨rfl, rfl⟩
  | some t =>
    refine Or.inr ⟨t, rfl, ?_⟩
    dsimp only
    rw [l2tpSessionFindNth_eq]
    cases (net.sessionsOf t)[cursor.si]? with
    | none => exact Or.inl ⟨rfl, rfl⟩
    | some i => exact Or.inr ⟨i, rfl, rfl⟩

theorem sessionsFrom_of_some {net : L2tpNet n} {ti t : ℕ} (hlist : net.tunnelList[ti]? = some t)
    (si : ℕ) :
    sessionsFrom net ti si =
      (net.sessionsOf t).drop si ++ (net.tunnelList.drop (ti + 1)).flatMap net.sessionsOf := by
  rw [sessionsFrom, drop_of_getElem?_some hlist]

theorem enumerates_sessions (net : L2tpNet n) :
    Enumerates (sessionDumpTurn net) (SessionCursor.Cached net)
      (fun cursor ↦ sessionsFrom net cursor.ti cursor.si)
      (fun cursor ↦ net.tunnelList.length - cursor.ti +
        (sessionsFrom net cursor.ti cursor.si).length) where
  done cursor hcached hturn := by
    obtain ⟨hlist, -⟩ | ⟨t, -, ⟨-, heq⟩ | ⟨i, -, heq⟩⟩ := sessionDumpTurn_cases hcached
    · rw [sessionsFrom, drop_of_getElem?_none hlist]
    · cases heq.symm.trans hturn
    · cases heq.symm.trans hturn
  skip cursor next hcached hturn := by
    obtain ⟨-, heq⟩ | ⟨t, hlist, ⟨hchain, heq⟩ | ⟨i, -, heq⟩⟩ := sessionDumpTurn_cases hcached
    · cases heq.symm.trans hturn
    · cases heq.symm.trans hturn
      obtain ⟨hlt, -⟩ := List.getElem?_eq_some_iff.mp hlist
      have hsame : sessionsFrom net cursor.ti cursor.si = sessionsFrom net (cursor.ti + 1) 0 := by
        rw [sessionsFrom_of_some hlist, drop_of_getElem?_none hchain, sessionsFrom_zero,
          List.nil_append]
      refine ⟨fun t hnone ↦ ?_, hsame, ?_⟩
      · cases hnone
      · rw [hsame]
        dsimp only
        omega
    · cases heq.symm.trans hturn
  item cursor i next hcached hturn := by
    obtain ⟨-, heq⟩ | ⟨t, hlist, ⟨-, heq⟩ | ⟨i, hchain, heq⟩⟩ := sessionDumpTurn_cases hcached
    · cases heq.symm.trans hturn
    · cases heq.symm.trans hturn
    · cases heq.symm.trans hturn
      have hnext : sessionsFrom net cursor.ti cursor.si =
          i :: sessionsFrom net cursor.ti (cursor.si + 1) := by
        rw [sessionsFrom_of_some hlist, sessionsFrom_of_some hlist, drop_of_getElem?_some hchain,
          List.cons_append]
      refine ⟨fun t' hsome ↦ ?_, hnext, ?_⟩
      · rw [hlist]
        exact hsome
      · rw [hnext, List.length_cons]
        dsimp only
        omega

/-! ### Successive calls -/

section Calls

variable (net : L2tpNet n) (fits : List ℕ → ℕ → Bool)

theorem tunnelDumpLoop_stops (ti : ℕ) :
    dumpStep (tunnelDumpTurn net) fits (tunnelDumpLoop net fits ti) = none :=
  (drain_dumpStep fits (enumerates_tunnels net) trivial (Nat.sub_le _ ti)).1

theorem cost_sessions_le (args : ℕ × ℕ) :
    net.tunnelList.length - args.1 + (sessionsFrom net args.1 args.2).length ≤
      net.tunnelList.length + net.listedSessions.length :=
  Nat.add_le_add (Nat.sub_le _ _) (length_sessionsFrom_le net args.1 args.2)

theorem sessionDumpLoop_stops (args : ℕ × ℕ) :
    dumpStep (sessionDumpTurn net) fits (sessionDumpLoop net fits args) = none :=
  (drain_dumpStep fits (enumerates_sessions net) (fun _ hnone ↦ by cases hnone)
    (cost_sessions_le net args)).1

end Calls

/-- Every call of a dump ends, and the calls up to the first that lists nothing list the tunnels in
the order of the list and the sessions in the order of the tunnels, the buckets and the chains, each
once. Assumes: a record fits into an empty buffer. -/
theorem dumps_list_everything (net : L2tpNet n) {buffers : ℕ → List ℕ → ℕ → Bool}
    (hroom : ∀ k record, buffers k [] record = true) :
    (∀ k args, dumpStep (sessionDumpTurn net) (buffers k)
        (sessionDumpLoop net (buffers k) args) = none) ∧
      ListsAll (fun k ↦ l2tpNlCmdSessionDump net (buffers k)) (0, 0)
        (net.tunnelList.flatMap net.sessionsOf) ∧
      (∀ k ti, dumpStep (tunnelDumpTurn net) (buffers k)
        (tunnelDumpLoop net (buffers k) ti) = none) ∧
      ListsAll (fun k ↦ l2tpNlCmdTunnelDump net (buffers k)) 0 net.tunnelList := by
  refine ⟨fun k ↦ sessionDumpLoop_stops net (buffers k), ?_,
    fun k ↦ tunnelDumpLoop_stops net (buffers k), ?_⟩
  · refine listsAll_of_instalments
      (fun (args : ℕ × ℕ) records ↦ records = sessionsFrom net args.1 args.2) ?_
      (sessionsFrom_zero net 0).symm
    rintro k args records rfl
    have hstart : SessionCursor.Cached net { tunnel := none, ti := args.1, si := args.2 } :=
      fun _ hnone ↦ by cases hnone
    obtain ⟨-, -, hahead⟩ := drain_dumpStep (buffers k) (enumerates_sessions net) hstart
      (cost_sessions_le net args)
    exact ⟨_, hahead, rfl, ahead_of_drain_dumpStep (enumerates_sessions net) hstart
      (cost_sessions_le net args) (hroom k)⟩
  · refine listsAll_of_instalments (fun ti records ↦ records = net.tunnelList.drop ti) ?_ rfl
    rintro k ti records rfl
    obtain ⟨-, -, hahead⟩ := drain_dumpStep (buffers k) (enumerates_tunnels net) trivial
      (Nat.sub_le _ ti)
    exact ⟨_, hahead, rfl, ahead_of_drain_dumpStep (enumerates_tunnels net) trivial
      (Nat.sub_le _ ti) (hroom k)⟩

/-- Three tunnels, with two sessions, none and one. -/
def threeTunnels : L2tpNet 1 :=
  { emptyNet 1 with
    tunnels :=
      [{ newTunnel 1 hdrVer2 1 1 .udp 0 with
          sessionHlist := Chains.link (Chains.link (fun _ ↦ []) (lowBits.hashBits 7) 0)
            (lowBits.hashBits 3) 1 },
        newTunnel 1 hdrVer3 2 2 .ip 1,
        { newTunnel 1 hdrVer3 3 3 .ip 2 with
          sessionHlist := Chains.link (fun _ ↦ []) (lowBits.hashBits 7) 2 }]
    tunnelList := [0, 1, 2] }

/-- Buffers that take one record, two records, and so on. -/
def growingBuffers (k : ℕ) (records : List ℕ) (_ : ℕ) : Bool := records.length ≤ k

theorem dumps_list_everything_threeTunnels :
    (∀ k record, growingBuffers k [] record = true) ∧
      ListsAll (fun k ↦ l2tpNlCmdSessionDump threeTunnels (growingBuffers k)) (0, 0) [1, 0, 2] ∧
      ListsAll (fun k ↦ l2tpNlCmdTunnelDump threeTunnels (growingBuffers k)) 0 [0, 1, 2] :=
  have hroom : ∀ k record, growingBuffers k [] record = true := fun k _ ↦
    decide_eq_true (Nat.zero_le k)
  have hdumps := dumps_list_everything threeTunnels hroom
  have hsessions : threeTunnels.tunnelList.flatMap threeTunnels.sessionsOf = [1, 0, 2] := by decide
  ⟨hroom, hsessions ▸ hdumps.2.1, hdumps.2.2.2⟩

end KernelModules.L2tp
