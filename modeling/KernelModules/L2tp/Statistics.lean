import KernelModules.L2tp.SharedRuns
import KernelModules.L2tp.TunnelTotals

/-!
# What the statistics tell

Seven functions report the statistics of a session or of a tunnel: `pppol2tp_copy_stats` to an
`ioctl`, `l2tp_nl_session_send` and `l2tp_nl_tunnel_send` to netlink, two functions to `/proc` and
two to debugfs. Each of them has a loop of its own over all processors, adds up the fields it
reports, and hands them over: as 64-bit words, or as text. `/proc` prints them with `%llu`. debugfs
prints them with `%ld`, which takes the word for a signed one.

The specification is the driver with shared counters, `netRun` on one processor. What is reported is
what the shared counters hold, and by the same value everywhere, as long as the counters that are
printed stay below 2^63: from there on debugfs prints negative numbers (`statistics_refine_iff`).
-/

set_option autoImplicit false
set_option relaxedAutoImplicit false

namespace KernelModules.L2tp

open Foundations Accounts

variable {n : ℕ}

/-! ### Reports -/

/-- A loop over all processors that adds up a field. -/
def sumOverCpus (stats : Fin n → L2tpStats) (field : L2tpStats → UInt64) : UInt64 :=
  (List.finRange n).foldl (fun total cpu ↦ total + field (stats cpu)) 0

/-- Statistics that are handed over as words: those in `struct pppol2tp_ioc_stats`, and the
attributes nested in `L2TP_ATTR_STATS`. -/
structure ReportedStats where
  txPackets : UInt64
  txBytes : UInt64
  txErrors : UInt64
  rxPackets : UInt64
  rxBytes : UInt64
  rxSeqDiscards : UInt64
  rxOosPackets : UInt64
  rxErrors : UInt64
  deriving DecidableEq, Repr

/-- The words that are handed over, each field from a loop of its own. -/
def ReportedStats.ofCpus (stats : Fin n → L2tpStats) : ReportedStats where
  txPackets := sumOverCpus stats (·.txPackets)
  txBytes := sumOverCpus stats (·.txBytes)
  txErrors := sumOverCpus stats (·.txErrors)
  rxPackets := sumOverCpus stats (·.rxPackets)
  rxBytes := sumOverCpus stats (·.rxBytes)
  rxSeqDiscards := sumOverCpus stats (·.rxSeqDiscards)
  rxOosPackets := sumOverCpus stats (·.rxOosPackets)
  rxErrors := sumOverCpus stats (·.rxErrors)

/-- `pppol2tp_copy_stats`. -/
def pppol2tpCopyStats (stats : Fin n → L2tpStats) : ReportedStats := .ofCpus stats

/-- The statistics of `l2tp_nl_tunnel_send`. -/
def l2tpNlTunnelSend (tunnel : L2tpTunnel n) : ReportedStats := .ofCpus tunnel.stats

/-- The statistics of `l2tp_nl_session_send`. -/
def l2tpNlSessionSend (session : L2tpSession n) : ReportedStats := .ofCpus session.stats

/-- The number that `%llu` prints. -/
def printLlu (value : UInt64) : ℤ := value.toNat

/-- The number that `%ld` prints, with a `long` of 64 bits. -/
def printLd (value : UInt64) : ℤ := value.toInt64.toInt

/-- The numbers in a line of statistics, by their position in it. -/
structure StatsLine where
  txPackets : ℤ
  txBytes : ℤ
  txErrors : ℤ
  rxPackets : ℤ
  rxBytes : ℤ
  rxErrors : ℤ
  deriving DecidableEq, Repr

/-- The line that is printed, each number from a loop of its own. -/
def StatsLine.ofCpus (print : UInt64 → ℤ) (stats : Fin n → L2tpStats) : StatsLine where
  txPackets := print (sumOverCpus stats (·.txPackets))
  txBytes := print (sumOverCpus stats (·.txBytes))
  txErrors := print (sumOverCpus stats (·.txErrors))
  rxPackets := print (sumOverCpus stats (·.rxPackets))
  rxBytes := print (sumOverCpus stats (·.rxBytes))
  rxErrors := print (sumOverCpus stats (·.rxErrors))

/-- The statistics of `pppol2tp_seq_tunnel_show`. -/
def pppol2tpSeqTunnelShow (tunnel : L2tpTunnel n) : StatsLine := .ofCpus printLlu tunnel.stats

/-- The statistics of `pppol2tp_seq_session_show`. -/
def pppol2tpSeqSessionShow (session : L2tpSession n) : StatsLine := .ofCpus printLlu session.stats

/-- The statistics of `l2tp_dfs_seq_tunnel_show`. -/
def l2tpDfsSeqTunnelShow (tunnel : L2tpTunnel n) : StatsLine := .ofCpus printLd tunnel.stats

/-- The statistics of `l2tp_dfs_seq_session_show`. -/
def l2tpDfsSeqSessionShow (session : L2tpSession n) : StatsLine := .ofCpus printLd session.stats

/-- All there is to know about the statistics of a session or of a tunnel. -/
structure Reports where
  ioctl : ReportedStats
  netlink : ReportedStats
  proc : StatsLine
  debugfs : StatsLine
  deriving DecidableEq, Repr

/-- What is reported about a session. -/
def sessionReports (session : L2tpSession n) : Reports where
  ioctl := pppol2tpCopyStats session.stats
  netlink := l2tpNlSessionSend session
  proc := pppol2tpSeqSessionShow session
  debugfs := l2tpDfsSeqSessionShow session

/-- What is reported about a tunnel. -/
def tunnelReports (tunnel : L2tpTunnel n) : Reports where
  ioctl := pppol2tpCopyStats tunnel.stats
  netlink := l2tpNlTunnelSend tunnel
  proc := pppol2tpSeqTunnelShow tunnel
  debugfs := l2tpDfsSeqTunnelShow tunnel

/-! ### Shared counters -/

/-- A line that prints shared counters. -/
def StatsLine.ofCounters (print : UInt64 → ℤ) (counters : L2tpStats) : StatsLine where
  txPackets := print counters.txPackets
  txBytes := print counters.txBytes
  txErrors := print counters.txErrors
  rxPackets := print counters.rxPackets
  rxBytes := print counters.rxBytes
  rxErrors := print counters.rxErrors

/-- The words of shared counters. -/
def ReportedStats.ofCounters (counters : L2tpStats) : ReportedStats where
  txPackets := counters.txPackets
  txBytes := counters.txBytes
  txErrors := counters.txErrors
  rxPackets := counters.rxPackets
  rxBytes := counters.rxBytes
  rxSeqDiscards := counters.rxSeqDiscards
  rxOosPackets := counters.rxOosPackets
  rxErrors := counters.rxErrors

/-- What there is to report about shared counters. -/
def Reports.ofCounters (counters : L2tpStats) : Reports where
  ioctl := .ofCounters counters
  netlink := .ofCounters counters
  proc := .ofCounters (fun value ↦ value.toNat) counters
  debugfs := .ofCounters (fun value ↦ value.toNat) counters

/-- The counters that are printed are below 2^63. -/
structure Printable (counters : L2tpStats) : Prop where
  txPackets : counters.txPackets.toNat < 2 ^ 63
  txBytes : counters.txBytes.toNat < 2 ^ 63
  txErrors : counters.txErrors.toNat < 2 ^ 63
  rxPackets : counters.rxPackets.toNat < 2 ^ 63
  rxBytes : counters.rxBytes.toNat < 2 ^ 63
  rxErrors : counters.rxErrors.toNat < 2 ^ 63

/-- `%ld` prints a word as it is as long as it is below 2^63. -/
theorem printLd_eq_iff (value : UInt64) : printLd value = value.toNat ↔ value.toNat < 2 ^ 63 := by
  have hbound := value.toNat_lt
  rw [printLd, ← Int64.toInt_toBitVec, UInt64.toBitVec_toInt64, BitVec.toInt_eq_toNat_cond,
    UInt64.toNat_toBitVec]
  split_ifs <;> omega

/-- A loop over the processors reads the shared counter. -/
theorem sumOverCpus_eq {field : L2tpStats → UInt64} (hzero : field 0 = 0)
    (hadd : ∀ s d, field (s + d) = field s + field d) (stats : Fin n → L2tpStats) :
    sumOverCpus stats field = field (oneCpu stats 0) := by
  have hsum := map_sum (⟨⟨field, hzero⟩, hadd⟩ : L2tpStats →+ UInt64) stats Finset.univ
  rw [sumOverCpus, foldl_finRange_add]
  exact hsum.symm

theorem ReportedStats.ofCpus_eq (stats : Fin n → L2tpStats) :
    ReportedStats.ofCpus stats = .ofCounters (oneCpu stats 0) := by
  rw [ofCpus, ofCounters, mk.injEq]
  refine ⟨?_, ?_, ?_, ?_, ?_, ?_, ?_, ?_⟩
  all_goals exact sumOverCpus_eq rfl (fun _ _ ↦ rfl) stats

theorem StatsLine.ofCpus_eq (print : UInt64 → ℤ) (stats : Fin n → L2tpStats) :
    StatsLine.ofCpus print stats = .ofCounters print (oneCpu stats 0) := by
  rw [ofCpus, ofCounters, mk.injEq]
  refine ⟨?_, ?_, ?_, ?_, ?_, ?_⟩
  all_goals exact congrArg print (sumOverCpus_eq rfl (fun _ _ ↦ rfl) stats)

/-- What is reported of shared counters, with the way debugfs prints them. -/
def Reports.printed (counters : L2tpStats) : Reports :=
  { Reports.ofCounters counters with debugfs := StatsLine.ofCounters printLd counters }

theorem sessionReports_eq (session : L2tpSession n) :
    sessionReports session = Reports.printed (session.oneCpu.stats 0) := by
  simp only [sessionReports, pppol2tpCopyStats, l2tpNlSessionSend, pppol2tpSeqSessionShow,
    l2tpDfsSeqSessionShow, ReportedStats.ofCpus_eq, StatsLine.ofCpus_eq]
  rfl

theorem tunnelReports_eq (tunnel : L2tpTunnel n) :
    tunnelReports tunnel = Reports.printed (tunnel.oneCpu.stats 0) := by
  simp only [tunnelReports, pppol2tpCopyStats, l2tpNlTunnelSend, pppol2tpSeqTunnelShow,
    l2tpDfsSeqTunnelShow, ReportedStats.ofCpus_eq, StatsLine.ofCpus_eq]
  rfl

theorem printed_eq_iff (counters : L2tpStats) :
    Reports.printed counters = Reports.ofCounters counters ↔ Printable counters := by
  simp only [Reports.printed, Reports.ofCounters, Reports.mk.injEq, true_and, StatsLine.ofCounters,
    StatsLine.mk.injEq, printLd_eq_iff]
  constructor
  · rintro ⟨htxPackets, htxBytes, htxErrors, hrxPackets, hrxBytes, hrxErrors⟩
    exact ⟨htxPackets, htxBytes, htxErrors, hrxPackets, hrxBytes, hrxErrors⟩
  · rintro ⟨htxPackets, htxBytes, htxErrors, hrxPackets, hrxBytes, hrxErrors⟩
    exact ⟨htxPackets, htxBytes, htxErrors, hrxPackets, hrxBytes, hrxErrors⟩

/-! ### Cells and shared counters -/

/-- The counters that a tunnel keeps for its sessions. -/
def carriedFields : List (L2tpStats → UInt64) :=
  [L2tpStats.rxPackets, L2tpStats.rxBytes, L2tpStats.txPackets, L2tpStats.txBytes,
    L2tpStats.txErrors]

/-- The run with shared counters: the same events on one processor. -/
def sharedRun (hash : SessionHash) (events : List (NetEvent n)) : L2tpNet 1 :=
  netRun hash (emptyNet 1) (events.map NetEvent.oneCpu)

/-- After a run, the statistics are those of shared counters: what is reported of every session and
of every tunnel is what the counters hold, whatever processors the events run on, and the tunnels
count what all sessions they ever had have counted. -/
structure StatisticsRefine (hash : SessionHash) (events : List (NetEvent n)) : Prop where
  sessions : (netRun hash (emptyNet n) events).sessions.map sessionReports =
    (sharedRun hash events).sessions.map fun session ↦ Reports.ofCounters (session.stats 0)
  tunnels : (netRun hash (emptyNet n) events).tunnels.map tunnelReports =
    (sharedRun hash events).tunnels.map fun tunnel ↦ Reports.ofCounters (tunnel.stats 0)
  anyCpu : ∀ events' : List (NetEvent n), events'.map NetEvent.oneCpu = events.map NetEvent.oneCpu →
    (netRun hash (emptyNet n) events').sessions.map sessionReports =
        (netRun hash (emptyNet n) events).sessions.map sessionReports ∧
      (netRun hash (emptyNet n) events').tunnels.map tunnelReports =
        (netRun hash (emptyNet n) events).tunnels.map tunnelReports
  sums : ∀ t tunnel, (netRun hash (emptyNet n) events).tunnels[t]? = some tunnel →
    ∀ field ∈ carriedFields, sumOverCpus tunnel.stats field =
      ((netRun hash (emptyNet n) events).sessions.map fun session ↦
        if session.tunnel = t then sumOverCpus session.stats field else 0).sum

/-- All counters that are printed are below 2^63. -/
structure AllPrintable (net : L2tpNet 1) : Prop where
  sessions : ∀ session ∈ net.sessions, Printable (session.stats 0)
  tunnels : ∀ tunnel ∈ net.tunnels, Printable (tunnel.stats 0)

section

variable (hash : SessionHash) (events : List (NetEvent n))

theorem sessions_sharedRun : (sharedRun hash events).sessions =
    (netRun hash (emptyNet n) events).sessions.map L2tpSession.oneCpu :=
  congrArg L2tpNet.sessions (oneCpu_netRun hash (emptyNet n) events).symm

theorem tunnels_sharedRun : (sharedRun hash events).tunnels =
    (netRun hash (emptyNet n) events).tunnels.map L2tpTunnel.oneCpu :=
  congrArg L2tpNet.tunnels (oneCpu_netRun hash (emptyNet n) events).symm

/-- What is reported is what the shared counters hold, as debugfs prints it. -/
theorem map_sessionReports : (netRun hash (emptyNet n) events).sessions.map sessionReports =
    (sharedRun hash events).sessions.map fun session ↦ Reports.printed (session.stats 0) := by
  rw [sessions_sharedRun, List.map_map]
  exact List.map_congr_left fun session _ ↦ sessionReports_eq session

theorem map_tunnelReports : (netRun hash (emptyNet n) events).tunnels.map tunnelReports =
    (sharedRun hash events).tunnels.map fun tunnel ↦ Reports.printed (tunnel.stats 0) := by
  rw [tunnels_sharedRun, List.map_map]
  exact List.map_congr_left fun tunnel _ ↦ tunnelReports_eq tunnel

theorem sessionReports_iff : (netRun hash (emptyNet n) events).sessions.map sessionReports =
      ((sharedRun hash events).sessions.map fun session ↦ Reports.ofCounters (session.stats 0)) ↔
    ∀ session ∈ (sharedRun hash events).sessions, Printable (session.stats 0) := by
  rw [map_sessionReports, List.map_inj_left]
  exact forall₂_congr fun session _ ↦ printed_eq_iff (session.stats 0)

theorem tunnelReports_iff : (netRun hash (emptyNet n) events).tunnels.map tunnelReports =
      ((sharedRun hash events).tunnels.map fun tunnel ↦ Reports.ofCounters (tunnel.stats 0)) ↔
    ∀ tunnel ∈ (sharedRun hash events).tunnels, Printable (tunnel.stats 0) := by
  rw [map_tunnelReports, List.map_inj_left]
  exact forall₂_congr fun tunnel _ ↦ printed_eq_iff (tunnel.stats 0)

/-- A counter that a tunnel keeps for its sessions is the sum of theirs. -/
theorem sumOverCpus_tunnel (counter : Carried →+ UInt64) {t : ℕ} {tunnel : L2tpTunnel n}
    (htunnel : (netRun hash (emptyNet n) events).tunnels[t]? = some tunnel) :
    sumOverCpus tunnel.stats (fun s ↦ counter (carried s)) =
      ((netRun hash (emptyNet n) events).sessions.map fun session ↦
        if session.tunnel = t then sumOverCpus session.stats (fun s ↦ counter (carried s))
        else 0).sum := by
  have htotal : ∀ stats : Fin n → L2tpStats,
      sumOverCpus stats (fun s ↦ counter (carried s)) = counter (carriedTotal stats) := by
    intro stats
    rw [sumOverCpus, foldl_finRange_add, carriedTotal, map_sum]
  have hparent : (netRun hash (emptyNet n) events).accounts.parents[t]? = some tunnel.account := by
    rw [L2tpNet.accounts, List.getElem?_map, htunnel, Option.map_some]
  have hsum := (balanced_netRun hash events).sums t _ hparent
  rw [htotal, ← L2tpTunnel.account, hsum, map_list_sum, L2tpNet.accounts, List.map_map,
    List.map_map]
  congr 1
  apply List.map_congr_left
  intro session _
  simp only [Function.comp_apply, share, L2tpSession.account, htotal]
  split_ifs
  · rfl
  · exact map_zero counter

end

/-- The statistics kept in a cell for every processor refine shared counters exactly as long as no
counter that debugfs prints has reached 2^63. -/
theorem statistics_refine_iff (hash : SessionHash) (events : List (NetEvent n)) :
    StatisticsRefine hash events ↔ AllPrintable (sharedRun hash events) := by
  constructor
  · intro hrefine
    exact ⟨(sessionReports_iff hash events).mp hrefine.sessions,
      (tunnelReports_iff hash events).mp hrefine.tunnels⟩
  · intro hprintable
    refine ⟨(sessionReports_iff hash events).mpr hprintable.sessions,
      (tunnelReports_iff hash events).mpr hprintable.tunnels, ?_, ?_⟩
    · intro events' hevents
      have hshared : sharedRun hash events' = sharedRun hash events := by
        rw [sharedRun, hevents, sharedRun]
      constructor
      · rw [map_sessionReports, hshared, map_sessionReports]
      · rw [map_tunnelReports, hshared, map_tunnelReports]
    · intro t tunnel htunnel field hfield
      simp only [carriedFields, List.mem_cons, List.not_mem_nil, or_false] at hfield
      obtain rfl | rfl | rfl | rfl | rfl := hfield
      · exact sumOverCpus_tunnel hash events (.fst _ _) htunnel
      · exact sumOverCpus_tunnel hash events ((AddMonoidHom.fst _ _).comp (.snd _ _)) htunnel
      · exact sumOverCpus_tunnel hash events ((AddMonoidHom.fst _ _).comp
          ((AddMonoidHom.snd _ _).comp (.snd _ _))) htunnel
      · exact sumOverCpus_tunnel hash events ((AddMonoidHom.fst _ _).comp
          ((AddMonoidHom.snd _ _).comp ((AddMonoidHom.snd _ _).comp (.snd _ _)))) htunnel
      · exact sumOverCpus_tunnel hash events ((AddMonoidHom.snd _ _).comp
          ((AddMonoidHom.snd _ _).comp ((AddMonoidHom.snd _ _).comp (.snd _ _)))) htunnel

/-! ### A counter that debugfs does not print -/

/-- A tunnel with an Ethernet session, whose device is asked to transmit over and over again. -/
def manyFrames (count : ℕ) : List (NetEvent 1) :=
  [.tunnelCreate (ipTunnelRequest 1 0),
    .sessionCreate { env := (sequencedCall cpu0 0 0 0).env } (ethSessionRequest 1 1)] ++
  List.replicate count (.ethXmit (idleXmitEnv cpu0) 0 (sequencedSkb 0 0))

/-- The session with number 0 has an Ethernet device and has sent `count` frames. -/
def HasSent (net : L2tpNet 1) (count : ℕ) : Prop :=
  ∃ flow, net.flow 0 = some flow ∧ flow.session.recvSkb = some .l2tpEthDevRecv ∧
    (flow.session.stats cpu0).txPackets = UInt64.ofNat count

/-- A frame that nothing is in the way of is counted. -/
theorem session_l2tpEthDevXmit (cpu : Fin n) (flow : Flow n) (skb : SkBuff) :
    ∃ amount ns dstats, (l2tpEthDevXmit (idleXmitEnv cpu) flow skb).session =
      { flow.session with
        stats := onCpu flow.session.stats cpu fun s ↦
          { s with txPackets := s.txPackets + 1, txBytes := s.txBytes + amount }
        ns
        dstats } := by
  obtain ⟨roomy, hroomy⟩ : ∃ roomy, skbCowHead (idleXmitEnv cpu).cowHead skb
      ((idleXmitEnv cpu).netSkbPad + iphdrSize +
        (if flow.tunnel.encap = .udp then udphdrSize else 0) +
        flow.session.hdrLen.toNat) = some roomy := ⟨_, rfl⟩
  obtain ⟨ns, hpush⟩ := pushHeader_eq flow roomy flow.session.hdrLen.toNat
  simp only [l2tpEthDevXmit, l2tpXmitSkb, hroomy, hpush]
  exact ⟨_, ns, _, rfl⟩

theorem hasSent_ethXmit {net : L2tpNet 1} {count : ℕ} (hsent : HasSent net count) :
    HasSent (netStep lowBits net (.ethXmit (idleXmitEnv cpu0) 0 (sequencedSkb 0 0)))
      (count + 1) := by
  obtain ⟨flow, hflow, hdevice, hcount⟩ := hsent
  obtain ⟨hsession, -, -⟩ := L2tpNet.flow_eq_some hflow
  obtain ⟨amount, ns, dstats, hxmit⟩ := session_l2tpEthDevXmit cpu0 flow (sequencedSkb 0 0)
  have hstep : netStep lowBits net (.ethXmit (idleXmitEnv cpu0) 0 (sequencedSkb 0 0)) =
      net.store 0 (l2tpEthDevXmit (idleXmitEnv cpu0) flow (sequencedSkb 0 0)) := by
    simp [netStep, hsession, hdevice, L2tpNet.onFlow, hflow]
  rw [hstep]
  refine ⟨_, L2tpNet.flow_store hflow (by rw [hxmit]), by rw [hxmit]; exact hdevice, ?_⟩
  rw [hxmit]
  simp [hcount, UInt64.ofNat_add]

theorem hasSent_manyFrames (count : ℕ) :
    HasSent (netRun lowBits (emptyNet 1) (manyFrames count)) count := by
  induction count with
  | zero => exact ⟨_, rfl, rfl, rfl⟩
  | succ count ih =>
    have hlast : manyFrames (count + 1) =
        manyFrames count ++ [.ethXmit (idleXmitEnv cpu0) 0 (sequencedSkb 0 0)] := by
      rw [manyFrames, List.replicate_succ', ← List.append_assoc, manyFrames]
    rw [hlast, netRun, List.foldl_append]
    exact hasSent_ethXmit ih

/-- After 2^63 frames the counter of the session is negative in debugfs. -/
theorem not_statisticsRefine_manyFrames : ¬ StatisticsRefine lowBits (manyFrames (2 ^ 63)) := by
  intro hrefine
  obtain ⟨flow, hflow, -, hcount⟩ := hasSent_manyFrames (2 ^ 63)
  obtain ⟨hsession, -, -⟩ := L2tpNet.flow_eq_some hflow
  have hshared : flow.session.oneCpu ∈ (sharedRun lowBits (manyFrames (2 ^ 63))).sessions := by
    rw [sessions_sharedRun]
    exact List.mem_map_of_mem (List.mem_of_getElem? hsession)
  have hprintable := (sessionReports_iff lowBits _).mp hrefine.sessions _ hshared
  have hbound : (Foundations.oneCpu flow.session.stats 0).txPackets.toNat < 2 ^ 63 :=
    hprintable.txPackets
  rw [Foundations.oneCpu, Fin.sum_univ_one] at hbound
  change (flow.session.stats cpu0).txPackets.toNat < 2 ^ 63 at hbound
  rw [hcount] at hbound
  norm_num at hbound

end KernelModules.L2tp
