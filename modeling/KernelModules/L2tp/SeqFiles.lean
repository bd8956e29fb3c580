import KernelModules.L2tp.Dumps
import Mathlib.Data.List.TakeWhile

/-!
# The tunnels and sessions in /proc and debugfs

`/proc/net/pppol2tp` shows the L2TPv2 tunnels with their sessions and the file of debugfs all of
them. Both are sequence files whose `next` only counts: after every record the file is stopped and
started again at the next position, and `start` moves on in the data of the file. The position
matters only where it is zero, and there the header is shown.

The two files differ in which tunnels they pass over, and in what they look at to show a record.
`/proc` looks into the socket of a tunnel and of a session without asking whether there is one, and
a session that netlink has created has none until it is connected. So a pass over `/proc` shows
everything once exactly if all these sockets are there, and a pass over the file of debugfs always
does (`seq_pass_complete_iff`).
-/

set_option autoImplicit false
set_option relaxedAutoImplicit false

namespace KernelModules.L2tp

open Foundations

variable {n : ℕ}

/-! ### The data of a file -/

/-- `struct pppol2tp_seq_data` and `struct l2tp_dfs_seq_data`, as they are when the file is
opened. -/
structure SeqData where
  tunnelIdx : ℕ := 0
  sessionIdx : ℕ := 0
  tunnel : Option ℕ := none
  session : Option ℕ := none

/-- `l2tp_dfs_next_tunnel`. -/
def l2tpDfsNextTunnel (net : L2tpNet n) (pd : SeqData) : SeqData :=
  { pd with tunnel := l2tpTunnelFindNth net pd.tunnelIdx, tunnelIdx := pd.tunnelIdx + 1 }

/-- `tunnel->version < 3`. -/
def L2tpNet.isOld (net : L2tpNet n) (t : ℕ) : Bool := net.tunnels[t]?.any (·.version < 3)

/-- The loop of `pppol2tp_next_tunnel` goes on at a tunnel that is not old. -/
def skipTunnel (net : L2tpNet n) (pd : SeqData) : Option SeqData :=
  if pd.tunnel.any fun t ↦ !net.isOld t then some (l2tpDfsNextTunnel net pd) else none

/-- `pppol2tp_next_tunnel`. -/
def pppol2tpNextTunnel (net : L2tpNet n) (pd : SeqData) : SeqData :=
  drain (skipTunnel net) net.tunnelList.length (l2tpDfsNextTunnel net pd)

/-- The body of `pppol2tp_next_session` and `l2tp_dfs_next_session`. -/
def seqNextSession (net : L2tpNet n) (nextTunnel : SeqData → SeqData) (pd : SeqData) : SeqData :=
  match pd.tunnel.bind fun t ↦ l2tpSessionFindNth net t pd.sessionIdx with
  | some i => { pd with session := some i, sessionIdx := pd.sessionIdx + 1 }
  | none => nextTunnel { pd with session := none, sessionIdx := 0 }

/-- `pppol2tp_next_session`. -/
def pppol2tpNextSession (net : L2tpNet n) : SeqData → SeqData :=
  seqNextSession net (pppol2tpNextTunnel net)

/-- `l2tp_dfs_next_session`. -/
def l2tpDfsNextSession (net : L2tpNet n) : SeqData → SeqData :=
  seqNextSession net (l2tpDfsNextTunnel net)

/-- What `start` returns: `SEQ_START_TOKEN`, the data, or `NULL`. -/
inductive SeqValue
  | startToken
  | data
  | null
  deriving DecidableEq, Repr

/-- The body of `pppol2tp_seq_start` and `l2tp_dfs_seq_start`. -/
def seqStart (nextTunnel nextSession : SeqData → SeqData) (pos : ℕ) (pd : SeqData) :
    SeqData × SeqValue :=
  if pos = 0 then (pd, .startToken)
  else
    let pd := if pd.tunnel.isNone then nextTunnel pd else nextSession pd
    (pd, if pd.tunnel.isNone && pd.session.isNone then .null else .data)

/-- `pppol2tp_seq_start`. -/
def pppol2tpSeqStart (net : L2tpNet n) : ℕ → SeqData → SeqData × SeqValue :=
  seqStart (pppol2tpNextTunnel net) (pppol2tpNextSession net)

/-- `l2tp_dfs_seq_start`. -/
def l2tpDfsSeqStart (net : L2tpNet n) : ℕ → SeqData → SeqData × SeqValue :=
  seqStart (l2tpDfsNextTunnel net) (l2tpDfsNextSession net)

/-! ### What is shown -/

/-- A record. -/
inductive SeqItem
  | header
  | tunnel (t : ℕ)
  | session (i : ℕ)
  deriving DecidableEq, Repr

/-- What `pppol2tp_seq_show` and `l2tp_dfs_seq_show` show of the data. -/
def SeqData.item (pd : SeqData) : Option SeqItem :=
  match pd.session with
  | none => pd.tunnel.map .tunnel
  | some i => some (.session i)

/-- What `pppol2tp_seq_show` looks at is there: `tunnel->sock->sk_user_data` of a tunnel and
`ps->sock->sk_state` of a session. -/
def pppol2tpShowable (net : L2tpNet n) : SeqItem → Bool
  | .header => true
  | .tunnel t => net.tunnels[t]?.any (·.sock.isSome)
  | .session i => net.sessions[i]?.any (·.ps.sock.isSome)

/-- `l2tp_dfs_seq_show` looks at nothing that may be missing: it asks for `tunnel->sock` before it
follows it. -/
def l2tpDfsShowable : SeqItem → Bool := fun _ ↦ true

/-- One round of `start`, `show` and `next`, from the position and the data. `show` does not come
back from a record that cannot be shown, and there are no rounds after that. -/
def seqRound (start : ℕ → SeqData → SeqData × SeqValue) (showable : SeqItem → Bool) :
    Option (ℕ × SeqData) → Option (ℕ × SeqData) × Option SeqItem
  | none => (none, none)
  | some (pos, pd) =>
    match start pos pd with
    | (pd, .startToken) => (some (pos + 1, pd), some .header)
    | (pd, .null) => (some (pos, pd), none)
    | (pd, .data) =>
      if pd.item.any showable then (some (pos + 1, pd), pd.item) else (none, none)

/-- A round on `/proc/net/pppol2tp`. -/
def pppol2tpSeqRound (net : L2tpNet n) :
    Option (ℕ × SeqData) → Option (ℕ × SeqData) × Option SeqItem :=
  seqRound (pppol2tpSeqStart net) (pppol2tpShowable net)

/-- A round on the file of debugfs. -/
def l2tpDfsSeqRound (net : L2tpNet n) :
    Option (ℕ × SeqData) → Option (ℕ × SeqData) × Option SeqItem :=
  seqRound (l2tpDfsSeqStart net) l2tpDfsShowable

/-- A tunnel and its sessions. -/
def L2tpNet.seqBlock (net : L2tpNet n) (t : ℕ) : List SeqItem :=
  .tunnel t :: (net.sessionsOf t).map .session

/-- The header, and each of the tunnels with its sessions. -/
def L2tpNet.seqItems (net : L2tpNet n) (shows : ℕ → Bool) : List SeqItem :=
  .header :: (net.tunnelList.filter shows).flatMap net.seqBlock

/-- The rounds on a file that has just been opened show the items, one each and in order, and then
nothing. -/
def PassShows (round : Option (ℕ × SeqData) → Option (ℕ × SeqData) × Option SeqItem)
    (items : List SeqItem) : Prop :=
  ∀ k, output round k (some (0, {})) = items[k]?

/-! ### The next tunnel -/

/-- The next tunnel is the next one that is shown. -/
def FindsTunnel (net : L2tpNet n) (shows : ℕ → Bool) (nextTunnel : SeqData → SeqData) : Prop :=
  ∀ pd : SeqData, ∃ idx found, nextTunnel pd = { pd with tunnelIdx := idx, tunnel := found } ∧
    (net.tunnelList.drop pd.tunnelIdx).filter shows =
      found.toList ++ (net.tunnelList.drop idx).filter shows ∧
    (found = none → (net.tunnelList.drop idx).filter shows = [])

theorem findsTunnel_l2tpDfsNextTunnel (net : L2tpNet n) :
    FindsTunnel net (fun _ ↦ true) (l2tpDfsNextTunnel net) := by
  intro pd
  refine ⟨pd.tunnelIdx + 1, _, rfl, ?_⟩
  rw [l2tpTunnelFindNth_eq, List.filter_true, List.filter_true]
  cases hfind : net.tunnelList[pd.tunnelIdx]? with
  | none =>
    have hend := drop_of_getElem?_none hfind
    have hafter : net.tunnelList.drop (pd.tunnelIdx + 1) = [] := by
      rw [← List.drop_drop, hend, List.drop_nil]
    rw [hend, hafter]
    exact ⟨rfl, fun _ ↦ rfl⟩
  | some t => exact ⟨drop_of_getElem?_some hfind, fun hnone ↦ by cases hnone⟩

/-- Where the loop of `pppol2tp_next_tunnel` is: it has passed over tunnels that are not shown. -/
def Fetched (net : L2tpNet n) (pd turn : SeqData) : Prop :=
  ∃ idx, turn = { pd with tunnelIdx := idx + 1, tunnel := net.tunnelList[idx]? } ∧
    (net.tunnelList.drop pd.tunnelIdx).filter net.isOld =
      (net.tunnelList.drop idx).filter net.isOld

/-- One turn of the loop passes over one tunnel. -/
theorem fetched_skipTunnel {net : L2tpNet n} {pd turn next : SeqData} (hturn : Fetched net pd turn)
    (hstep : skipTunnel net turn = some next) :
    Fetched net pd next ∧ net.tunnelList.length + 1 - next.tunnelIdx <
      net.tunnelList.length + 1 - turn.tunnelIdx := by
  obtain ⟨idx, rfl, hpassed⟩ := hturn
  unfold skipTunnel at hstep
  dsimp only at hstep
  cases hfind : net.tunnelList[idx]? with
  | none =>
    rw [hfind] at hstep
    cases hstep
  | some t =>
    rw [hfind] at hstep
    split_ifs at hstep with hskip
    cases hstep
    obtain ⟨hlt, -⟩ := List.getElem?_eq_some_iff.mp hfind
    have hold : ¬ net.isOld t = true := by simpa using hskip
    refine ⟨⟨idx + 1, ?_, ?_⟩, ?_⟩
    · rw [l2tpDfsNextTunnel, l2tpTunnelFindNth_eq]
    · rw [hpassed, drop_of_getElem?_some hfind, List.filter_cons_of_neg hold]
    · dsimp only [l2tpDfsNextTunnel]
      omega

theorem findsTunnel_pppol2tpNextTunnel (net : L2tpNet n) :
    FindsTunnel net net.isOld (pppol2tpNextTunnel net) := by
  intro pd
  have hfirst : Fetched net pd (l2tpDfsNextTunnel net pd) :=
    ⟨pd.tunnelIdx, by rw [l2tpDfsNextTunnel, l2tpTunnelFindNth_eq], rfl⟩
  have hcount : net.tunnelList.length + 1 - (l2tpDfsNextTunnel net pd).tunnelIdx ≤
      net.tunnelList.length := by
    dsimp only [l2tpDfsNextTunnel]
    omega
  obtain ⟨⟨idx, hlast, hpassed⟩, hstop⟩ := drain_stops_of_invariant
    (fun turn : SeqData ↦ net.tunnelList.length + 1 - turn.tunnelIdx)
    (fun turn next hturn hstep ↦ fetched_skipTunnel hturn hstep) net.tunnelList.length
    (l2tpDfsNextTunnel net pd) hfirst hcount
  refine ⟨idx + 1, net.tunnelList[idx]?, hlast, ?_⟩
  rw [hlast] at hstop
  unfold skipTunnel at hstop
  dsimp only at hstop
  rw [hpassed]
  cases hfind : net.tunnelList[idx]? with
  | none =>
    have hend := drop_of_getElem?_none hfind
    rw [← List.drop_drop, hend, List.drop_nil]
    exact ⟨rfl, fun _ ↦ rfl⟩
  | some t =>
    rw [hfind] at hstop
    split_ifs at hstop with hskip
    have hold : net.isOld t = true := by simpa using hskip
    rw [drop_of_getElem?_some hfind, List.filter_cons_of_pos hold]
    exact ⟨rfl, fun hnone ↦ by cases hnone⟩

/-! ### What is ahead in a file -/

section Ahead

variable {net : L2tpNet n} {shows : ℕ → Bool} {nextTunnel : SeqData → SeqData} {pd : SeqData}

/-- The sessions of the tunnel that are to come, and the tunnels after it. -/
def SeqData.ahead (net : L2tpNet n) (shows : ℕ → Bool) (pd : SeqData) : List SeqItem :=
  (pd.tunnel.toList.flatMap fun t ↦ ((net.sessionsOf t).drop pd.sessionIdx).map .session) ++
    ((net.tunnelList.drop pd.tunnelIdx).filter shows).flatMap net.seqBlock

/-- Without a tunnel there is no session. -/
def SeqData.Rests (pd : SeqData) : Prop :=
  pd.tunnel = none → pd.session = none ∧ pd.sessionIdx = 0

/-- What a move to the next place does: it goes to the end, or to the first item ahead. -/
structure Moves (net : L2tpNet n) (shows : ℕ → Bool) (items : List SeqItem) (pd : SeqData) :
    Prop where
  rests : pd.Rests
  ended : pd.tunnel = none → items = [] ∧ pd.ahead net shows = []
  item : pd.tunnel ≠ none → ∃ item, pd.item = some item ∧ items = item :: pd.ahead net shows

/-- The move to the next tunnel, from before its sessions. -/
theorem moves_nextTunnel (hfinds : FindsTunnel net shows nextTunnel) (pd : SeqData)
    (hsession : pd.session = none) (hidx : pd.sessionIdx = 0) :
    Moves net shows (((net.tunnelList.drop pd.tunnelIdx).filter shows).flatMap net.seqBlock)
      (nextTunnel pd) := by
  obtain ⟨idx, found, heq, hrest, hend⟩ := hfinds pd
  rw [heq, hrest]
  cases found with
  | none =>
    refine ⟨fun _ ↦ ⟨hsession, hidx⟩, fun _ ↦ ?_, fun hsome ↦ absurd rfl hsome⟩
    rw [SeqData.ahead, hend rfl]
    exact ⟨rfl, rfl⟩
  | some t =>
    refine ⟨fun hnone ↦ ?_, fun hnone ↦ ?_, fun _ ↦ ⟨.tunnel t, ?_, ?_⟩⟩
    · cases hnone
    · cases hnone
    · rw [SeqData.item, hsession]
      rfl
    · simp [SeqData.ahead, L2tpNet.seqBlock, hidx]

theorem ahead_of_tunnel {t : ℕ} (htunnel : pd.tunnel = some t) :
    pd.ahead net shows = ((net.sessionsOf t).drop pd.sessionIdx).map .session ++
      ((net.tunnelList.drop pd.tunnelIdx).filter shows).flatMap net.seqBlock := by
  rw [SeqData.ahead, htunnel, Option.toList_some, List.flatMap_singleton]

/-- The move to the next session, or to the next tunnel after the last one. -/
theorem moves_seqNextSession (hfinds : FindsTunnel net shows nextTunnel) {t : ℕ}
    (htunnel : pd.tunnel = some t) :
    Moves net shows (pd.ahead net shows) (seqNextSession net nextTunnel pd) := by
  have hfound : (pd.tunnel.bind fun t ↦ l2tpSessionFindNth net t pd.sessionIdx) =
      (net.sessionsOf t)[pd.sessionIdx]? := by
    rw [htunnel, Option.bind_some, l2tpSessionFindNth_eq]
  unfold seqNextSession
  rw [hfound, ahead_of_tunnel htunnel]
  cases hfind : (net.sessionsOf t)[pd.sessionIdx]? with
  | none =>
    rw [drop_of_getElem?_none hfind]
    exact moves_nextTunnel hfinds { pd with session := none, sessionIdx := 0 } rfl rfl
  | some i =>
    have htunnel' : ({ pd with session := some i, sessionIdx := pd.sessionIdx + 1 } :
        SeqData).tunnel = some t := htunnel
    refine ⟨fun hnone ↦ ?_, fun hnone ↦ ?_, fun _ ↦ ⟨.session i, rfl, ?_⟩⟩
    · cases htunnel.symm.trans hnone
    · cases htunnel.symm.trans hnone
    · rw [drop_of_getElem?_some hfind]
      exact congrArg (SeqItem.session i :: ·) (ahead_of_tunnel htunnel').symm

/-- The body of `start` behind the header. -/
theorem seqStart_spec (hfinds : FindsTunnel net shows nextTunnel) (hrests : pd.Rests) (pos : ℕ) :
    ∃ pd', Moves net shows (pd.ahead net shows) pd' ∧
      seqStart nextTunnel (seqNextSession net nextTunnel) (pos + 1) pd =
        (pd', if pd'.tunnel = none then .null else .data) := by
  unfold seqStart
  rw [if_neg (Nat.succ_ne_zero pos)]
  have hvalue : ∀ pd' : SeqData, pd'.Rests →
      (if pd'.tunnel.isNone && pd'.session.isNone then SeqValue.null else .data) =
        if pd'.tunnel = none then .null else .data := by
    intro pd' hrests'
    cases htunnel : pd'.tunnel with
    | none => rw [(hrests' htunnel).1]; rfl
    | some t => rfl
  cases htunnel : pd.tunnel with
  | none =>
    have hmoves := moves_nextTunnel hfinds pd (hrests htunnel).1 (hrests htunnel).2
    refine ⟨nextTunnel pd, ?_, ?_⟩
    · rw [SeqData.ahead, htunnel]
      exact hmoves
    · exact congrArg (Prod.mk _) (hvalue _ hmoves.rests)
  | some t =>
    have hmoves := moves_seqNextSession hfinds htunnel
    exact ⟨_, hmoves, congrArg (Prod.mk _) (hvalue _ hmoves.rests)⟩

/-! ### A pass -/

variable {showable : SeqItem → Bool}

/-- What the rounds to come show: everything ahead, up to the first record that cannot be shown. -/
def roundsAhead (net : L2tpNet n) (shows : ℕ → Bool) (showable : SeqItem → Bool) :
    Option (ℕ × SeqData) → List SeqItem
  | none => []
  | some (0, pd) => (.header :: pd.ahead net shows).takeWhile showable
  | some (_ + 1, pd) => (pd.ahead net shows).takeWhile showable

/-- A round shows the first of the records to come. -/
theorem seqRound_spec (hfinds : FindsTunnel net shows nextTunnel)
    (hheader : showable .header = true) (state : Option (ℕ × SeqData))
    (hrests : ∀ pos pd, state = some (pos, pd) → pd.Rests) :
    (∀ pos pd, (seqRound (seqStart nextTunnel (seqNextSession net nextTunnel)) showable state).1 =
        some (pos, pd) → pd.Rests) ∧
      (seqRound (seqStart nextTunnel (seqNextSession net nextTunnel)) showable state).2 =
        (roundsAhead net shows showable state).head? ∧
      roundsAhead net shows showable
          (seqRound (seqStart nextTunnel (seqNextSession net nextTunnel)) showable state).1 =
        (roundsAhead net shows showable state).tail := by
  match state with
  | none =>
    refine ⟨fun pos pd hnone ↦ ?_, rfl, rfl⟩
    cases hnone
  | some (0, pd) =>
    have hround : seqRound (seqStart nextTunnel (seqNextSession net nextTunnel)) showable
        (some (0, pd)) = (some (1, pd), some .header) := rfl
    rw [hround, roundsAhead, List.takeWhile_cons_of_pos hheader]
    refine ⟨fun pos pd' hsome ↦ ?_, rfl, rfl⟩
    cases hsome
    exact hrests 0 pd rfl
  | some (pos + 1, pd) =>
    obtain ⟨pd', hmoves, hstart⟩ := seqStart_spec hfinds (hrests _ pd rfl) pos
    rw [seqRound, hstart, roundsAhead]
    by_cases hend : pd'.tunnel = none
    · obtain ⟨hnothing, hahead⟩ := hmoves.ended hend
      rw [if_pos hend, hnothing]
      refine ⟨fun pos' pd'' hsome ↦ ?_, rfl, ?_⟩
      · cases hsome
        exact hmoves.rests
      · dsimp only
        rw [roundsAhead, hahead]
        rfl
    · obtain ⟨item, hitem, hahead⟩ := hmoves.item hend
      rw [if_neg hend, hahead]
      dsimp only
      rw [hitem]
      by_cases hshow : showable item = true
      · rw [List.takeWhile_cons_of_pos hshow, Option.any_some, if_pos hshow]
        refine ⟨fun pos' pd'' hsome ↦ ?_, rfl, rfl⟩
        cases hsome
        exact hmoves.rests
      · rw [List.takeWhile_cons_of_neg hshow, Option.any_some, if_neg hshow]
        refine ⟨fun pos' pd'' hsome ↦ ?_, rfl, rfl⟩
        cases hsome

/-- A pass shows everything exactly if everything can be shown. -/
theorem passShows_iff (hfinds : FindsTunnel net shows nextTunnel)
    (hheader : showable .header = true) :
    PassShows (seqRound (seqStart nextTunnel (seqNextSession net nextTunnel)) showable)
        (net.seqItems shows) ↔
      ∀ item ∈ net.seqItems shows, showable item = true := by
  have hfresh : ∀ pos pd, some (0, ({} : SeqData)) = some (pos, pd) → pd.Rests := by
    rintro pos pd ⟨⟩ -
    exact ⟨rfl, rfl⟩
  have hshown := output_eq (fun state ↦ ∀ pos pd, state = some (pos, pd) → pd.Rests)
    (roundsAhead net shows showable) (seqRound_spec hfinds hheader) hfresh
  have hahead : roundsAhead net shows showable (some (0, {})) =
      (net.seqItems shows).takeWhile showable := rfl
  unfold PassShows
  simp only [hshown, hahead]
  rw [← List.takeWhile_eq_self_iff]
  exact ⟨List.ext_getElem?, fun hsame k ↦ by rw [hsame]⟩

end Ahead

/-- A pass over `/proc/net/pppol2tp` shows the header, each L2TPv2 tunnel followed by its sessions,
once and in order, and then ends, exactly if every such tunnel has a socket and each of its sessions
has one. A pass over the file of debugfs shows all tunnels with their sessions in any case. -/
theorem seq_pass_complete_iff (net : L2tpNet n) :
    (PassShows (pppol2tpSeqRound net) (net.seqItems net.isOld) ↔
      ∀ t ∈ net.tunnelList, net.isOld t = true →
        net.tunnels[t]?.any (·.sock.isSome) = true ∧
          ∀ i ∈ net.sessionsOf t, net.sessions[i]?.any (·.ps.sock.isSome) = true) ∧
      PassShows (l2tpDfsSeqRound net) (net.seqItems fun _ ↦ true) := by
  constructor
  · refine (passShows_iff (findsTunnel_pppol2tpNextTunnel net) rfl).trans ?_
    simp only [L2tpNet.seqItems, L2tpNet.seqBlock, List.forall_mem_cons, List.mem_flatMap,
      List.mem_filter]
    constructor
    · rintro ⟨-, hitems⟩ t ht hold
      refine ⟨hitems (.tunnel t) ⟨t, ⟨ht, hold⟩, List.mem_cons_self⟩, fun i hi ↦ ?_⟩
      exact hitems (.session i)
        ⟨t, ⟨ht, hold⟩, List.mem_cons_of_mem _ (List.mem_map_of_mem hi)⟩
    · refine fun hsocks ↦ ⟨rfl, ?_⟩
      rintro item ⟨t, ⟨ht, hold⟩, hitem⟩
      obtain ⟨htunnel, hsessions⟩ := hsocks t ht hold
      rcases List.mem_cons.mp hitem with rfl | hsession
      · exact htunnel
      · obtain ⟨i, hi, rfl⟩ := List.mem_map.mp hsession
        exact hsessions i hi
  · exact (passShows_iff (findsTunnel_l2tpDfsNextTunnel net) rfl).mpr fun _ _ ↦ rfl

/-- A tunnel with a session that is not connected. -/
def unconnectedNet : L2tpNet 1 :=
  { emptyNet 1 with
    tunnels :=
      [{ newTunnel 1 hdrVer2 1 2 .udp 0 with
          sessionHlist := Chains.link (fun _ ↦ []) (lowBits.hashBits 7) 0 }]
    sessions := [newSession (newTunnel 1 hdrVer2 1 2 .udp 0) 0 7 7 { pwType := .ppp }]
    tunnelList := [0] }

/-- The pass shows the tunnel and breaks at the session. -/
theorem seq_pass_breaks :
    (List.range 4).map (fun k ↦ output (pppol2tpSeqRound unconnectedNet) k (some (0, {}))) =
        [some .header, some (.tunnel 0), none, none] ∧
      unconnectedNet.seqItems unconnectedNet.isOld = [.header, .tunnel 0, .session 0] ∧
      ¬ PassShows (pppol2tpSeqRound unconnectedNet)
        (unconnectedNet.seqItems unconnectedNet.isOld) := by
  refine ⟨by decide, by decide, fun hpass ↦ ?_⟩
  have hmissing : output (pppol2tpSeqRound unconnectedNet) 2 (some (0, {})) ≠
      (unconnectedNet.seqItems unconnectedNet.isOld)[2]? := by decide
  exact hmissing (hpass 2)

end KernelModules.L2tp
