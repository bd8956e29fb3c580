import KernelModules.Foundations.PerCpu
import Mathlib.Data.UInt

/-!
# Statistics of the test interface

`test_proto.c` is a network interface that hands every packet it is to transmit back to the receive
path of the kernel, and counts packets and bytes in cells of its own for every processor.
`virt_stats64` adds the cells up.

What a call adds to its cell does not depend on the processor (`VirtEvent.amount`), so that the
report is a function of the calls alone (`virtStats64_virtRun`). It counts every packet once if
`netif_rx` accepts them all (`virt_stats_count_once`): a packet that `netif_rx` refuses is counted
nowhere, and `tx_drps` is never written. Nor is `rx_drps`, which `virt_stats64` adds to `rx_packets`
and not to `rx_dropped`. The length of a packet is an `int`, and is added as such.

Counters are words of 64 bits, and numbers of packets are compared with them as such.
-/

set_option autoImplicit false
set_option relaxedAutoImplicit false

namespace KernelModules.NetdevProto

open Foundations

variable {n : ℕ}

/-! ### The interface -/

/-- `struct pcpu_dstats`. -/
@[ext] structure PcpuDstats where
  txPkts : UInt64 := 0
  txBytes : UInt64 := 0
  txDrps : UInt64 := 0
  rxPkts : UInt64 := 0
  rxBytes : UInt64 := 0
  rxDrps : UInt64 := 0
  deriving DecidableEq, Repr

/-- The fields of `struct rtnl_link_stats64` that are reported. -/
@[ext] structure RtnlLinkStats64 where
  rxPackets : UInt64 := 0
  txPackets : UInt64 := 0
  rxBytes : UInt64 := 0
  txBytes : UInt64 := 0
  rxDropped : UInt64 := 0
  txDropped : UInt64 := 0
  deriving DecidableEq, Repr

/-- `int len = skb->len`, as it is added to a counter. -/
def intLen (len : UInt32) : UInt64 := len.toInt32.toInt64.toUInt64

/-- `virt_rcv`. -/
def virtRcv (dstats : Fin n → PcpuDstats) (cpu : Fin n) (len : UInt32) : Fin n → PcpuDstats :=
  onCpu dstats cpu fun d ↦ { d with rxBytes := d.rxBytes + intLen len, rxPkts := d.rxPkts + 1 }

/-- `virt_start_xmit`, with the success of `netif_rx`. -/
def virtStartXmit (dstats : Fin n → PcpuDstats) (cpu : Fin n) (len : UInt32) (netifRx : Bool) :
    Fin n → PcpuDstats :=
  if netifRx then
    onCpu dstats cpu fun d ↦ { d with txBytes := d.txBytes + intLen len, txPkts := d.txPkts + 1 }
  else dstats

/-- One turn of the loop of `virt_stats64`. The last line adds to `rx_packets` once more. -/
def addCpu (stats : RtnlLinkStats64) (d : PcpuDstats) : RtnlLinkStats64 :=
  { stats with
    txBytes := stats.txBytes + d.txBytes
    txPackets := stats.txPackets + d.txPkts
    txDropped := stats.txDropped + d.txDrps
    rxBytes := stats.rxBytes + d.rxBytes
    rxPackets := stats.rxPackets + d.rxPkts + d.rxDrps }

/-- `virt_stats64`. -/
def virtStats64 (dstats : Fin n → PcpuDstats) (stats : RtnlLinkStats64) : RtnlLinkStats64 :=
  (List.finRange n).foldl (fun stats cpu ↦ addCpu stats (dstats cpu)) stats

/-- A call on a processor. -/
inductive VirtEvent (n : ℕ)
  | xmit (cpu : Fin n) (len : UInt32) (netifRx : Bool)
  | rcv (cpu : Fin n) (len : UInt32)
  deriving DecidableEq

/-- The interface takes a call. -/
def virtStep (dstats : Fin n → PcpuDstats) : VirtEvent n → Fin n → PcpuDstats
  | .xmit cpu len netifRx => virtStartXmit dstats cpu len netifRx
  | .rcv cpu len => virtRcv dstats cpu len

/-- A run from the creation of the interface, with all cells zero. -/
def virtRun (events : List (VirtEvent n)) : Fin n → PcpuDstats :=
  events.foldl virtStep fun _ ↦ {}

/-! ### Adding cells -/

/-- Cells are added field by field. -/
def PcpuDstats.add (d e : PcpuDstats) : PcpuDstats where
  txPkts := d.txPkts + e.txPkts
  txBytes := d.txBytes + e.txBytes
  txDrps := d.txDrps + e.txDrps
  rxPkts := d.rxPkts + e.rxPkts
  rxBytes := d.rxBytes + e.rxBytes
  rxDrps := d.rxDrps + e.rxDrps

instance addPcpuDstats : Add PcpuDstats where
  add := PcpuDstats.add

instance zeroPcpuDstats : Zero PcpuDstats where
  zero := {}

instance addCommMonoidPcpuDstats : AddCommMonoid PcpuDstats where
  add_assoc d e f := by ext1 <;> exact add_assoc _ _ _
  zero_add d := by ext1 <;> exact zero_add _
  add_zero d := by ext1 <;> exact add_zero _
  add_comm d e := by ext1 <;> exact add_comm _ _
  nsmul := nsmulRec

/-- What a call adds to the cell of its processor. -/
def VirtEvent.amount : VirtEvent n → PcpuDstats
  | .xmit _ len true => { txBytes := intLen len, txPkts := 1 }
  | .xmit _ _ false => 0
  | .rcv _ len => { rxBytes := intLen len, rxPkts := 1 }

theorem sum_virtStep (dstats : Fin n → PcpuDstats) (event : VirtEvent n) :
    ∑ c, virtStep dstats event c = (∑ c, dstats c) + event.amount := by
  cases event with
  | xmit cpu len netifRx =>
    cases netifRx with
    | true =>
      have hadd : ∀ d : PcpuDstats, { d with
          txBytes := d.txBytes + intLen len, txPkts := d.txPkts + 1 } =
            d + (VirtEvent.xmit cpu len true).amount := by
        intro d
        ext1 <;> first | rfl | exact (add_zero _).symm
      exact sum_onCpu (fun d ↦ d) dstats cpu hadd
    | false => exact (add_zero _).symm
  | rcv cpu len =>
    have hadd : ∀ d : PcpuDstats, { d with
        rxBytes := d.rxBytes + intLen len, rxPkts := d.rxPkts + 1 } =
          d + (VirtEvent.rcv cpu len).amount := by
      intro d
      ext1 <;> first | rfl | exact (add_zero _).symm
    exact sum_onCpu (fun d ↦ d) dstats cpu hadd

/-- The cells of a run add up to what its calls add. -/
theorem sum_virtRun (events : List (VirtEvent n)) :
    ∑ c, virtRun events c = (events.map VirtEvent.amount).sum := by
  have hrun : ∀ dstats : Fin n → PcpuDstats, ∑ c, events.foldl virtStep dstats c =
      (∑ c, dstats c) + (events.map VirtEvent.amount).sum := by
    induction events with
    | nil => exact fun dstats ↦ (add_zero _).symm
    | cons event events ih =>
      intro dstats
      rw [List.foldl_cons, ih, sum_virtStep, List.map_cons, List.sum_cons, add_assoc]
  have hstart : ∑ _c : Fin n, ({} : PcpuDstats) = 0 := Finset.sum_const_zero
  rw [virtRun, hrun, hstart, zero_add]

/-- What is reported of cells that add up to a given one. -/
def reportOf (d : PcpuDstats) : RtnlLinkStats64 where
  txBytes := d.txBytes
  txPackets := d.txPkts
  txDropped := d.txDrps
  rxBytes := d.rxBytes
  rxPackets := d.rxPkts + d.rxDrps

theorem addCpu_reportOf (d e : PcpuDstats) : addCpu (reportOf d) e = reportOf (d + e) := by
  have hrx : d.rxPkts + d.rxDrps + e.rxPkts + e.rxDrps =
      d.rxPkts + e.rxPkts + (d.rxDrps + e.rxDrps) := by
    rw [add_assoc, add_add_add_comm]
  ext1
  · exact hrx
  all_goals rfl

/-- The loop of `virt_stats64` reports the sum of the cells. -/
theorem virtStats64_eq (dstats : Fin n → PcpuDstats) :
    virtStats64 dstats {} = reportOf (∑ c, dstats c) := by
  have hloop : ∀ (cpus : List (Fin n)) (d : PcpuDstats),
      cpus.foldl (fun stats cpu ↦ addCpu stats (dstats cpu)) (reportOf d) =
        reportOf (d + (cpus.map dstats).sum) := by
    intro cpus
    induction cpus with
    | nil => exact fun d ↦ congrArg reportOf (add_zero d).symm
    | cons cpu cpus ih =>
      intro d
      rw [List.foldl_cons, addCpu_reportOf, ih, List.map_cons, List.sum_cons, add_assoc]
  have hzero : reportOf 0 = {} := rfl
  rw [virtStats64, ← hzero, hloop, zero_add, Fin.sum_univ_def]

/-- The report after a run is a function of what its calls add. -/
theorem virtStats64_virtRun (events : List (VirtEvent n)) :
    virtStats64 (virtRun events) {} = reportOf (events.map VirtEvent.amount).sum := by
  rw [virtStats64_eq, sum_virtRun]

/-! ### What the counters hold -/

/-- The lengths of the packets that a call counts as transmitted. -/
def VirtEvent.txLen : VirtEvent n → ℕ
  | .xmit _ len true => len.toNat
  | _ => 0

/-- The lengths of the packets that a call counts as received. -/
def VirtEvent.rxLen : VirtEvent n → ℕ
  | .rcv _ len => len.toNat
  | _ => 0

/-- A call of `virt_start_xmit`. -/
def VirtEvent.isXmit : VirtEvent n → Bool
  | .xmit _ _ _ => true
  | .rcv _ _ => false

/-- A call of `virt_rcv`. -/
def VirtEvent.isRcv : VirtEvent n → Bool
  | .xmit _ _ _ => false
  | .rcv _ _ => true

/-- `netif_rx` accepts the packet, and its length fits into an `int`. -/
def VirtEvent.Counted : VirtEvent n → Prop
  | .xmit _ len netifRx => netifRx = true ∧ len.toNat < 2 ^ 31
  | .rcv _ len => len.toNat < 2 ^ 31

/-- The same call, on the processor of a machine that has one. -/
def VirtEvent.offCpu : VirtEvent n → VirtEvent 1
  | .xmit _ len netifRx => .xmit cpu0 len netifRx
  | .rcv _ len => .rcv cpu0 len

theorem amount_comp_offCpu : VirtEvent.amount ∘ VirtEvent.offCpu = VirtEvent.amount (n := n) := by
  funext event
  cases event with
  | xmit cpu len netifRx => cases netifRx <;> rfl
  | rcv cpu len => rfl

/-- The report does not depend on the processors. -/
theorem virtStats64_congr {events events' : List (VirtEvent n)}
    (hsame : events'.map VirtEvent.offCpu = events.map VirtEvent.offCpu) :
    virtStats64 (virtRun events') {} = virtStats64 (virtRun events) {} := by
  have hamounts := congrArg (List.map VirtEvent.amount) hsame
  rw [List.map_map, List.map_map, amount_comp_offCpu] at hamounts
  rw [virtStats64_virtRun, virtStats64_virtRun, hamounts]

theorem intLen_eq {len : UInt32} (hlen : len.toNat < 2 ^ 31) :
    intLen len = UInt64.ofNat len.toNat := by
  have hmsb : len.toBitVec.msb = false := by
    rw [BitVec.msb_eq_false_iff_two_mul_lt]
    have hnat : len.toBitVec.toNat = len.toNat := rfl
    omega
  apply UInt64.toBitVec_inj.mp
  change len.toBitVec.signExtend 64 = BitVec.ofNat 64 len.toBitVec.toNat
  rw [BitVec.signExtend_eq_setWidth_of_msb_false hmsb, BitVec.ofNat_toNat]

/-- A field to which every call adds a number holds the sum of these numbers. -/
theorem field_sum (field : PcpuDstats →+ UInt64) (number : VirtEvent n → ℕ)
    (events : List (VirtEvent n))
    (hnumber : ∀ event ∈ events, field event.amount = UInt64.ofNat (number event)) :
    field (events.map VirtEvent.amount).sum = UInt64.ofNat (events.map number).sum := by
  induction events with
  | nil => exact map_zero field
  | cons event events ih =>
    rw [List.forall_mem_cons] at hnumber
    rw [List.map_cons, List.sum_cons, map_add, hnumber.1, ih hnumber.2, List.map_cons,
      List.sum_cons, UInt64.ofNat_add]

/-- The same for calls that are counted. -/
theorem field_sum_toNat (field : PcpuDstats →+ UInt64) (p : VirtEvent n → Bool)
    (events : List (VirtEvent n))
    (hnumber : ∀ event ∈ events, field event.amount = UInt64.ofNat (p event).toNat) :
    field (events.map VirtEvent.amount).sum = UInt64.ofNat (events.countP p) := by
  have hcount : (events.map fun event ↦ (p event).toNat).sum = events.countP p := by
    clear hnumber
    induction events with
    | nil => rfl
    | cons event events ih =>
      rw [List.map_cons, List.sum_cons, ih, List.countP_cons]
      cases p event <;> simp [Nat.add_comm]
  rw [field_sum field _ events hnumber, hcount]

/-- The report counts every packet of a run once. -/
structure CountsOnce (events : List (VirtEvent n)) (stats : RtnlLinkStats64) : Prop where
  transmitted : stats.txPackets + stats.txDropped =
    UInt64.ofNat (events.countP VirtEvent.isXmit)
  received : stats.rxPackets = UInt64.ofNat (events.countP VirtEvent.isRcv)
  rxDropped : stats.rxDropped = ∑ c, (virtRun events c).rxDrps
  txBytes : stats.txBytes = UInt64.ofNat (events.map VirtEvent.txLen).sum
  rxBytes : stats.rxBytes = UInt64.ofNat (events.map VirtEvent.rxLen).sum

variable {events : List (VirtEvent n)}

theorem txPkts_sum (hcounted : ∀ event ∈ events, event.Counted) :
    (events.map VirtEvent.amount).sum.txPkts = UInt64.ofNat (events.countP VirtEvent.isXmit) := by
  refine field_sum_toNat ⟨⟨(·.txPkts), rfl⟩, fun _ _ ↦ rfl⟩ _ events fun event hevent ↦ ?_
  have haccepted := hcounted event hevent
  cases event with
  | xmit cpu len netifRx =>
    obtain rfl : netifRx = true := haccepted.1
    rfl
  | rcv cpu len => rfl

theorem txBytes_sum (hcounted : ∀ event ∈ events, event.Counted) :
    (events.map VirtEvent.amount).sum.txBytes =
      UInt64.ofNat (events.map VirtEvent.txLen).sum := by
  refine field_sum ⟨⟨(·.txBytes), rfl⟩, fun _ _ ↦ rfl⟩ _ events fun event hevent ↦ ?_
  have haccepted := hcounted event hevent
  cases event with
  | xmit cpu len netifRx =>
    obtain rfl : netifRx = true := haccepted.1
    exact intLen_eq haccepted.2
  | rcv cpu len => rfl

theorem rxBytes_sum (hcounted : ∀ event ∈ events, event.Counted) :
    (events.map VirtEvent.amount).sum.rxBytes =
      UInt64.ofNat (events.map VirtEvent.rxLen).sum := by
  refine field_sum ⟨⟨(·.rxBytes), rfl⟩, fun _ _ ↦ rfl⟩ _ events fun event hevent ↦ ?_
  have haccepted := hcounted event hevent
  cases event with
  | xmit cpu len netifRx => cases netifRx <;> rfl
  | rcv cpu len => exact intLen_eq haccepted

/-- Packets that are received are counted, whatever happens to those that are transmitted. -/
theorem rxPkts_sum (events : List (VirtEvent n)) :
    (events.map VirtEvent.amount).sum.rxPkts = UInt64.ofNat (events.countP VirtEvent.isRcv) := by
  refine field_sum_toNat ⟨⟨(·.rxPkts), rfl⟩, fun _ _ ↦ rfl⟩ _ events fun event _ ↦ ?_
  cases event with
  | xmit cpu len netifRx => cases netifRx <;> rfl
  | rcv cpu len => rfl

/-- No call of a run counts a drop, on either side. -/
theorem drps_sum (events : List (VirtEvent n)) :
    (events.map VirtEvent.amount).sum.txDrps = 0 ∧
      (events.map VirtEvent.amount).sum.rxDrps = 0 := by
  have hnone : events.countP (fun _ ↦ false) = 0 := congrFun List.countP_false events
  have hevent : ∀ event : VirtEvent n, event.amount.txDrps = 0 ∧ event.amount.rxDrps = 0 := by
    intro event
    cases event with
    | xmit cpu len netifRx => cases netifRx <;> exact ⟨rfl, rfl⟩
    | rcv cpu len => exact ⟨rfl, rfl⟩
  have htx := field_sum_toNat ⟨⟨(·.txDrps), rfl⟩, fun _ _ ↦ rfl⟩ (fun _ ↦ false) events
    fun event _ ↦ (hevent event).1
  have hrx := field_sum_toNat ⟨⟨(·.rxDrps), rfl⟩, fun _ _ ↦ rfl⟩ (fun _ ↦ false) events
    fun event _ ↦ (hevent event).2
  rw [hnone] at htx hrx
  exact ⟨htx, hrx⟩

/-- In a run every packet of which `netif_rx` accepts, the report counts every packet once, and it
is the same on whatever processors the calls are made.

Assumes: `netif_rx` accepts every packet, and lengths fit into an `int`. -/
theorem virt_stats_count_once (hcounted : ∀ event ∈ events, event.Counted) :
    CountsOnce events (virtStats64 (virtRun events) {}) ∧
      ∀ events' : List (VirtEvent n),
        events'.map VirtEvent.offCpu = events.map VirtEvent.offCpu →
          virtStats64 (virtRun events') {} = virtStats64 (virtRun events) {} := by
  obtain ⟨htxDrps, hrxDrps⟩ := drps_sum events
  have hcells : ∑ c, (virtRun events c).rxDrps = 0 := by
    rw [← hrxDrps, ← sum_virtRun]
    exact (map_sum (⟨⟨(·.rxDrps), rfl⟩, fun _ _ ↦ rfl⟩ : PcpuDstats →+ UInt64) _ _).symm
  refine ⟨?_, fun events' hsame ↦ virtStats64_congr hsame⟩
  rw [virtStats64_virtRun]
  refine ⟨?_, ?_, hcells.symm, txBytes_sum hcounted, rxBytes_sum hcounted⟩
  · change PcpuDstats.txPkts _ + PcpuDstats.txDrps _ = _
    rw [txPkts_sum hcounted, htxDrps, add_zero]
  · change PcpuDstats.rxPkts _ + PcpuDstats.rxDrps _ = _
    rw [rxPkts_sum, hrxDrps, add_zero]

/-- A packet of 60 bytes is transmitted on one processor and received on another. -/
def loopback : List (VirtEvent 2) := [.xmit 0 60 true, .rcv 1 60]

theorem virt_stats_count_once_loopback :
    CountsOnce loopback (virtStats64 (virtRun loopback) {}) ∧
      virtStats64 (virtRun loopback) {} =
        { rxPackets := 1, txPackets := 1, rxBytes := 60, txBytes := 60 } := by
  have hcounted : ∀ event ∈ loopback, event.Counted := by
    intro event hevent
    rcases List.mem_cons.mp hevent with rfl | hevent
    · exact ⟨rfl, by decide⟩
    · obtain rfl := List.mem_singleton.mp hevent
      exact (by decide : (60 : UInt32).toNat < 2 ^ 31)
  exact ⟨(virt_stats_count_once hcounted).1, by decide⟩

/-- A packet that `netif_rx` refuses is counted neither as transmitted nor as dropped. -/
theorem not_countsOnce_refused :
    ¬CountsOnce [VirtEvent.xmit cpu0 60 false]
      (virtStats64 (virtRun [VirtEvent.xmit cpu0 60 false]) {}) := by
  intro hcounts
  exact absurd hcounts.transmitted (by decide)

end KernelModules.NetdevProto
