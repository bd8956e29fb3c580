import KernelModules.Foundations.SequenceSpace
import KernelModules.L2tp.Receive
import KernelModules.L2tp.Session

/-!
# The sequence space of a session

A session counts modulo 2¹⁶ or 2²⁴. On numbers of that space the window test of the code, with its
two branches and unsigned subtractions, is the modular one (`l2tpSeqCheckRxWindow_iff`), and bumping
Nr counts up by one (`toNat_succ_and_nrMax`).
-/

set_option autoImplicit false
set_option relaxedAutoImplicit false

namespace KernelModules.L2tp

open Foundations

variable {n : ℕ}

/-- The sequence space and the window that creation gives a session. -/
structure SessionParams.SeqSpace (params : SessionParams) : Prop where
  nrMax : params.nrMax = 0xffff ∨ params.nrMax = 0xffffff
  window : params.nrWindowSize = params.nrMax / 2

/-- The number of sequence numbers. -/
def SessionParams.seqCount (params : SessionParams) : ℕ := params.nrMax.toNat + 1

theorem seqSpace_newSessionParams (tunnel : L2tpTunnel n) (tunnelIndex : ℕ)
    (sessionId peerSessionId : UInt32) (cfg : L2tpSessionCfg) :
    (newSessionParams tunnel tunnelIndex sessionId peerSessionId cfg).SeqSpace := by
  refine ⟨?_, rfl⟩
  unfold newSessionParams nrMaxOf
  dsimp only
  split_ifs
  · exact Or.inl rfl
  · exact Or.inr rfl

namespace SessionParams.SeqSpace

variable {params : SessionParams}

/-- The size of the space and of the window, in numbers. -/
theorem sizes (hspace : params.SeqSpace) :
    (params.seqCount = 65536 ∧ params.nrWindowSize.toNat = 32767) ∨
      (params.seqCount = 16777216 ∧ params.nrWindowSize.toNat = 8388607) := by
  rcases hspace.nrMax with hmax | hmax
  · exact Or.inl ⟨by rw [seqCount, hmax]; rfl, by rw [hspace.window, hmax]; rfl⟩
  · exact Or.inr ⟨by rw [seqCount, hmax]; rfl, by rw [hspace.window, hmax]; rfl⟩

/-- Masking with `nr_max` is counting modulo the size of the space. -/
theorem toNat_and_nrMax (hspace : params.SeqSpace) (nr : UInt32) :
    (nr &&& params.nrMax).toNat = nr.toNat % params.seqCount := by
  rcases hspace.nrMax with hmax | hmax
  · rw [seqCount, hmax, UInt32.toNat_and]
    exact Nat.and_two_pow_sub_one_eq_mod nr.toNat 16
  · rw [seqCount, hmax, UInt32.toNat_and]
    exact Nat.and_two_pow_sub_one_eq_mod nr.toNat 24

/-- Bumping Nr counts up by one. -/
theorem toNat_succ_and_nrMax (hspace : params.SeqSpace) (nr : UInt32) :
    ((nr + 1) &&& params.nrMax).toNat = (nr.toNat + 1) % params.seqCount := by
  have hdvd : params.seqCount ∣ 2 ^ 32 := by
    rcases hspace.sizes with ⟨hcount, -⟩ | ⟨hcount, -⟩
    · rw [hcount]
      exact ⟨65536, rfl⟩
    · rw [hcount]
      exact ⟨256, rfl⟩
  rw [hspace.toNat_and_nrMax, UInt32.toNat_add]
  exact Nat.mod_mod_of_dvd _ hdvd

end SessionParams.SeqSpace

/-! ### The window test -/

section Window

variable {session : L2tpSession n} {ns : UInt32}

/-- What the window test computes for a number behind Nr. Nothing wraps, if the space is smaller
than that of the machine's numbers. -/
theorem toNat_behind (hcount : session.seqCount < 2 ^ 32)
    (hnr : session.nr.toNat < session.seqCount) (hlt : ns < session.nr) :
    (session.nrMax + 1).toNat = session.seqCount ∧
      (session.nr - ns).toNat = session.nr.toNat - ns.toNat ∧
      (session.nrMax + 1 - (session.nr - ns)).toNat =
        session.seqCount - (session.nr.toNat - ns.toNat) := by
  have hlt' : ns.toNat < session.nr.toNat := UInt32.lt_iff_toNat_lt.mp hlt
  have hone : (session.nrMax + 1).toNat = session.seqCount := by
    rw [UInt32.toNat_add]
    exact Nat.mod_eq_of_lt hcount
  have hback : (session.nr - ns).toNat = session.nr.toNat - ns.toNat :=
    UInt32.toNat_sub_of_le _ _ (UInt32.le_iff_toNat_le.mpr hlt'.le)
  refine ⟨hone, hback, ?_⟩
  rw [UInt32.toNat_sub_of_le _ _ (UInt32.le_iff_toNat_le.mpr (by omega)), hone, hback]

/-- The window test of the code is the modular one, whatever the size of the window. -/
theorem l2tpSeqCheckRxWindow_iff_ahead (hcount : session.seqCount < 2 ^ 32)
    (hnr : session.nr.toNat < session.seqCount) (hns : ns.toNat < session.seqCount) :
    l2tpSeqCheckRxWindow session ns = true ↔
      ahead session.seqCount session.nr.toNat ns.toNat < session.nrWindowSize.toNat := by
  unfold l2tpSeqCheckRxWindow
  dsimp only
  rw [decide_eq_true_iff, UInt32.lt_iff_toNat_lt]
  split_ifs with hle
  · rw [ahead_of_le (UInt32.le_iff_toNat_le.mp hle) hns, UInt32.toNat_sub_of_le _ _ hle]
  · have hlt : ns < session.nr := UInt32.not_le.mp hle
    rw [ahead_of_lt (UInt32.lt_iff_toNat_lt.mp hlt) hnr, (toNat_behind hcount hnr hlt).2.2]

/-- The window test of the code is the modular one. -/
theorem l2tpSeqCheckRxWindow_iff {session : L2tpSession n}
    (hspace : session.toSessionParams.SeqSpace) {ns : UInt32}
    (hnr : session.nr.toNat < session.seqCount) (hns : ns.toNat < session.seqCount) :
    l2tpSeqCheckRxWindow session ns = true ↔
      ahead session.seqCount session.nr.toNat ns.toNat < session.nrWindowSize.toNat := by
  have hsizes := hspace.sizes
  exact l2tpSeqCheckRxWindow_iff_ahead (by omega) hnr hns

end Window

/-! ### The numbers of frames -/

/-- A number read from a frame is in the sequence space of the version. -/
theorem recvSequence_le {version : ℕ} {params : SessionParams} {skb : SkBuff} {ptr : ℕ}
    {hdrflags : UInt16} {ns : UInt32}
    (hns : (recvSequence version params skb ptr hdrflags).1 = some ns) :
    ns.toNat ≤ (nrMaxOf version).toNat := by
  unfold recvSequence at hns
  by_cases hversion : version = hdrVer2
  · have hmax : (nrMaxOf version).toNat = 65535 := by rw [nrMaxOf, if_pos hversion]; rfl
    rw [if_pos hversion] at hns
    by_cases hflag : hdrflags &&& hdrflagS ≠ 0
    · rw [if_pos hflag, Option.some.injEq] at hns
      have hbound := UInt16.toNat_lt (be16At skb.mem ptr)
      rw [← hns, hmax, UInt16.toNat_toUInt32]
      omega
    · rw [if_neg hflag] at hns
      exact absurd hns (by simp)
  · have hmax : (nrMaxOf version).toNat = UInt32.toNat 0x00ffffff := by
      rw [nrMaxOf, if_neg hversion]
    rw [if_neg hversion] at hns
    split_ifs at hns
    rw [← Option.some.inj hns, hmax, UInt32.toNat_and]
    exact Nat.and_le_right

theorem admittedFrame_ns_le {version : ℕ} {params : SessionParams} {reorderTimeout : Int32}
    {call : RecvCall n} {skb : SkBuff}
    (hadmitted : admittedFrame version params reorderTimeout call = some skb)
    (hseq : skb.cb.hasSeq = true) : skb.cb.ns.toNat ≤ (nrMaxOf version).toNat := by
  obtain ⟨ptr, -, hrest⟩ := Option.bind_eq_some_iff.mp hadmitted
  obtain ⟨payload, hpayload, rfl⟩ := Option.map_eq_some_iff.mp hrest
  have hcb := cb_recvPayload hpayload
  have hpayloadSeq : payload.cb.hasSeq = true := hseq
  change payload.cb.ns.toNat ≤ _
  rw [hcb] at hpayloadSeq ⊢
  unfold sequencedFrame at hpayloadSeq ⊢
  cases hns : (recvSequence version params call.skb ptr call.hdrflags).1 with
  | none => simp [hns, storeSequence] at hpayloadSeq
  | some ns => exact recvSequence_le hns

end KernelModules.L2tp
