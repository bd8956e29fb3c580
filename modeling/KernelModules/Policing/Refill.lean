import KernelModules.Foundations.Runs
import KernelModules.Policing.TokenBucket

/-!
# What a refill leaves in the bucket

The level that `update_tokens` is meant to leave is the level before plus the tokens that the
elapsed time earns, but at most the burst. `updateTokens` leaves that level as long as the product
of the rate and the elapsed time stays below `2^63`. Beyond, the product is first reduced modulo
`2^64` and then taken for a signed number: it may have come back to a small one, and earn next to
nothing, or be negative, and take tokens away. `refill_exact_iff` says exactly when the level is
right in spite of this. At a rate of 50 Mbit/s it is wrong after 369 seconds without a packet.

The other way to a wrong level is the charge for a packet. `checking_sess` subtracts the bits of a
packet also if it lets the packet through only because no rate is configured, and then the
subtraction may go below zero: `neverWraps_iff`.
-/

set_option autoImplicit false
set_option relaxedAutoImplicit false

namespace KernelModules.Policing

/-! ### The arithmetic of a refill -/

theorem toNat_sub_lastSeenIn {p : Policer} {now : UInt64} (hclock : p.lastSeenIn ≤ now) :
    (now - p.lastSeenIn).toNat = now.toNat - p.lastSeenIn.toNat :=
  UInt64.toNat_sub_of_le _ _ hclock

/-- The unsigned value of a signed number that is not positive. -/
theorem toNat_toUInt64_of_nonpos {x : Int64} {n : ℕ} (hx : x.toInt = -(n : ℤ)) :
    x.toUInt64.toNat = (2 ^ 64 - n) % 2 ^ 64 := by
  have hlt := x.toUInt64.toNat_lt
  have hcond : x.toInt = if 2 * x.toUInt64.toNat < 2 ^ 64 then (x.toUInt64.toNat : ℤ)
      else x.toUInt64.toNat - 2 ^ 64 := by
    rw [← Int64.toInt_toBitVec, BitVec.toInt_eq_toNat_cond]
    rfl
  rw [hx] at hcond
  split_ifs at hcond with hhalf
  · omega
  · omega

/-- A product that has come out negative is divided towards zero. -/
theorem toNat_refill_of_le (p : Policer) (now : UInt64)
    (hlarge : 2 ^ 63 ≤ (p.rateIn.toNat * (now - p.lastSeenIn).toNat) % 2 ^ 64) :
    (refill p now).toNat =
      (2 ^ 64 - (2 ^ 64 - (p.rateIn.toNat * (now - p.lastSeenIn).toNat) % 2 ^ 64) / 1000000000) %
        2 ^ 64 := by
  set product := p.rateIn.toUInt64 * (now - p.lastSeenIn) with hproduct
  have hlt := product.toNat_lt
  have htoNat : product.toNat = (p.rateIn.toNat * (now - p.lastSeenIn).toNat) % 2 ^ 64 := by
    rw [hproduct, UInt64.toNat_mul, UInt32.toNat_toUInt64]
  rw [← htoNat] at hlarge ⊢
  have htoInt : product.toInt64.toInt = -((2 ^ 64 - product.toNat : ℕ) : ℤ) := by
    rw [← Int64.toInt_toBitVec, UInt64.toBitVec_toInt64, BitVec.toInt_eq_toNat_cond]
    change (if 2 * product.toNat < 2 ^ 64 then (product.toNat : ℤ) else product.toNat - 2 ^ 64) = _
    rw [if_neg (by omega)]
    omega
  have hquotient : (divS64 product.toInt64 nsecPerSec).toInt =
      -(((2 ^ 64 - product.toNat) / 1000000000 : ℕ) : ℤ) := by
    rw [divS64, Int64.toInt_div_of_ne_right _ _ (by decide), htoInt, Int.neg_tdiv]
    rfl
  exact toNat_toUInt64_of_nonpos hquotient

/-- The level that a refill is meant to leave. -/
def refilledLevel (p : Policer) (now : UInt64) : ℕ :=
  min p.burstIn.toNat
    (p.tokensIn.toNat + p.rateIn.toNat * (now.toNat - p.lastSeenIn.toNat) / 10 ^ 9)

/-- The product of the rate and the elapsed time, over the natural numbers. -/
def product (p : Policer) (now : UInt64) : ℕ := p.rateIn.toNat * (now.toNat - p.lastSeenIn.toNat)

/-- A refill with a product that has not wrapped to a negative number. -/
theorem tokensIn_updateTokens_of_lt {p : Policer} {now : UInt64} (hclock : p.lastSeenIn ≤ now)
    (hsmall : product p now % 2 ^ 64 < 2 ^ 63) :
    (updateTokens p now).tokensIn.toNat =
      min p.burstIn.toNat (p.tokensIn.toNat + product p now % 2 ^ 64 / 10 ^ 9) := by
  have hrefill : (refill p now).toNat = product p now % 2 ^ 64 / 1000000000 := by
    rw [product, ← toNat_sub_lastSeenIn hclock] at hsmall ⊢
    exact toNat_refill_of_lt p now hsmall
  have hburst := p.burstIn.toNat_lt
  have htokens := p.tokensIn.toNat_lt
  rw [toNat_tokensIn_updateTokens, hrefill]
  generalize product p now % 2 ^ 64 = wrapped at hsmall ⊢
  rw [Nat.mod_eq_of_lt (by omega : p.tokensIn.toNat + wrapped / 1000000000 < 2 ^ 64)]
  split_ifs with hfull
  · omega
  · omega

/-- A refill with a product that has wrapped to a negative number: it takes tokens away, or it takes
away more than there are, and fills the bucket. -/
theorem tokensIn_updateTokens_of_le {p : Policer} {now : UInt64} (hclock : p.lastSeenIn ≤ now)
    (htokens : p.tokensIn ≤ p.burstIn) (hlarge : 2 ^ 63 ≤ product p now % 2 ^ 64) :
    (updateTokens p now).tokensIn.toNat =
      if p.tokensIn.toNat < (2 ^ 64 - product p now % 2 ^ 64) / 10 ^ 9 then p.burstIn.toNat
      else p.tokensIn.toNat - (2 ^ 64 - product p now % 2 ^ 64) / 10 ^ 9 := by
  have hrefill : (refill p now).toNat =
      (2 ^ 64 - (2 ^ 64 - product p now % 2 ^ 64) / 1000000000) % 2 ^ 64 := by
    rw [product, ← toNat_sub_lastSeenIn hclock] at hlarge ⊢
    exact toNat_refill_of_le p now hlarge
  have hburst := p.burstIn.toNat_lt
  have hlevel := UInt32.le_iff_toNat_le.mp htokens
  have hwrapped : product p now % 2 ^ 64 < 2 ^ 64 := Nat.mod_lt _ (by decide)
  rw [toNat_tokensIn_updateTokens, hrefill]
  generalize product p now % 2 ^ 64 = wrapped at hlarge hwrapped ⊢
  have htaken : (2 ^ 64 - wrapped) / 1000000000 < 2 ^ 34 := by omega
  -- only the number of tokens taken away matters from here on
  change _ = if p.tokensIn.toNat < (2 ^ 64 - wrapped) / 1000000000 then _
    else p.tokensIn.toNat - (2 ^ 64 - wrapped) / 1000000000
  generalize (2 ^ 64 - wrapped) / 1000000000 = taken at htaken ⊢
  by_cases hempties : p.tokensIn.toNat < taken
  · have hsum : (p.tokensIn.toNat + (2 ^ 64 - taken) % 2 ^ 64) % 2 ^ 64 =
        2 ^ 64 - (taken - p.tokensIn.toNat) := by omega
    rw [hsum, if_pos hempties, if_pos (by omega)]
  · have hsum : (p.tokensIn.toNat + (2 ^ 64 - taken) % 2 ^ 64) % 2 ^ 64 =
        p.tokensIn.toNat - taken := by
      omega
    rw [hsum, if_neg hempties, if_neg (by omega)]
    exact Nat.mod_eq_of_lt (by omega)

/-! ### When a refill is exact -/

/-- `update_tokens` leaves the level it is meant to leave. -/
def RefillExact (p : Policer) (now : UInt64) : Prop :=
  (updateTokens p now).tokensIn.toNat = refilledLevel p now ∧ (updateTokens p now).lastSeenIn = now

instance (p : Policer) (now : UInt64) : Decidable (RefillExact p now) :=
  inferInstanceAs (Decidable (_ ∧ _))

/-- The product stays below `2^63`, or it wraps and the bucket is full all the same: the wrapped
product fills it, or is so far below zero that it takes away more tokens than there are, or takes
none from a bucket that was full before. -/
def RefillFits (p : Policer) (now : UInt64) : Prop :=
  product p now < 2 ^ 63 ∨
    product p now % 2 ^ 64 < 2 ^ 63 ∧
      p.burstIn.toNat ≤ p.tokensIn.toNat + product p now % 2 ^ 64 / 10 ^ 9 ∨
    2 ^ 63 ≤ product p now % 2 ^ 64 ∧
      (p.tokensIn.toNat < (2 ^ 64 - product p now % 2 ^ 64) / 10 ^ 9 ∨
        p.tokensIn = p.burstIn ∧ 2 ^ 64 - product p now % 2 ^ 64 < 10 ^ 9)

instance (p : Policer) (now : UInt64) : Decidable (RefillFits p now) :=
  inferInstanceAs (Decidable (_ ∨ _ ∧ _ ∨ _ ∧ _))

/-- A product of `2^63` or more earns more tokens than any burst. -/
theorem refilledLevel_of_le {p : Policer} {now : UInt64} (hlarge : 2 ^ 63 ≤ product p now) :
    refilledLevel p now = p.burstIn.toNat := by
  have hburst := p.burstIn.toNat_lt
  have hearned : p.burstIn.toNat ≤ p.tokensIn.toNat + product p now / 10 ^ 9 := by omega
  exact min_eq_left hearned

/-- A refill leaves the level that the elapsed time earns, and the new instant, exactly if
`RefillFits`. Assumes: the level is at most the burst, and the clock has not run backwards. -/
theorem refill_exact_iff (p : Policer) (now : UInt64) (htokens : p.tokensIn ≤ p.burstIn)
    (hclock : p.lastSeenIn ≤ now) : RefillExact p now ↔ RefillFits p now := by
  have hexact : RefillExact p now ↔ (updateTokens p now).tokensIn.toNat = refilledLevel p now :=
    and_iff_left rfl
  have hlevel := UInt32.le_iff_toNat_le.mp htokens
  have hfull : p.tokensIn = p.burstIn ↔ p.tokensIn.toNat = p.burstIn.toNat := UInt32.toNat_inj.symm
  rw [hexact, RefillFits, hfull]
  by_cases hproduct : product p now < 2 ^ 63
  · have hmod : product p now % 2 ^ 64 = product p now := Nat.mod_eq_of_lt (by omega)
    rw [tokensIn_updateTokens_of_lt hclock (by omega), hmod]
    exact ⟨fun _ ↦ Or.inl hproduct, fun _ ↦ rfl⟩
  · rw [refilledLevel_of_le (not_lt.mp hproduct)]
    by_cases hsmall : product p now % 2 ^ 64 < 2 ^ 63
    · rw [tokensIn_updateTokens_of_lt hclock hsmall, min_eq_left_iff]
      omega
    · rw [tokensIn_updateTokens_of_le hclock htokens (not_lt.mp hsmall)]
      generalize product p now % 2 ^ 64 = wrapped at hsmall ⊢
      split_ifs with hempties
      · omega
      · omega

/-- Ten seconds at 1 Mbit/s. -/
theorem refill_exact_iff_tenSeconds :
    refilledLevel ⟨0, 1000000, 20000000, 5⟩ 10000000005 = 10000000 ∧
      RefillExact ⟨0, 1000000, 20000000, 5⟩ 10000000005 :=
  ⟨by decide, (refill_exact_iff _ _ (by decide) (by decide)).mpr (by decide)⟩

/-- The first packet, 369 seconds after the machine has started: the product is `2^64` and a little
more, and the bucket gets 6 of the 4166666 tokens it should be full of. -/
theorem not_refillExact_firstPacket : ¬RefillExact ⟨0, 50000000, 4166666, 0⟩ 368934881600 := by
  decide

/-! ### Charges -/

/-- The policer after a call. -/
def policerStep (p : Policer) (call : Call) : Policer := (checkingSess p call.now call.pktLen).1

/-- A call leaves at most the burst, and if it lets its packet through, the bits it subtracts were
there. -/
def ChargeSound (p : Policer) (call : Call) : Prop :=
  (policerStep p call).tokensIn ≤ p.burstIn ∧
    ((checkingSess p call.now call.pktLen).2 = .accept →
      call.pktLen.toNat * 8 ≤ (updateTokens p call.now).tokensIn.toNat)

instance (p : Policer) (call : Call) : Decidable (ChargeSound p call) :=
  inferInstanceAs (Decidable (_ ∧ _))

/-- No call of a run leaves more than the burst or subtracts more than there is. -/
def NeverWraps (p : Policer) (calls : List Call) : Prop :=
  Foundations.Along policerStep ChargeSound p calls

/-- With a rate configured, a call only lets a packet through for which there are tokens. -/
theorem chargeSound_of_rate {p : Policer} {call : Call} (hrate : p.rateIn ≠ 0)
    (hlen : call.pktLen ≤ 65535) : ChargeSound p call := by
  have hlen' : call.pktLen.toNat ≤ 65535 := UInt32.le_iff_toNat_le.mp hlen
  have hlevel := checkingSess_level p call hrate hlen'
  have hburst := updateTokens_le_burst p call.now
  constructor
  · rw [UInt32.le_iff_toNat_le, policerStep]
    omega
  · intro haccept
    rw [acceptedBitsOf, if_pos haccept] at hlevel
    omega

theorem neverWraps_of_rate {p : Policer} {calls : List Call} (hrate : p.rateIn ≠ 0)
    (hlen : ∀ call ∈ calls, call.pktLen ≤ 65535) : NeverWraps p calls := by
  induction calls generalizing p with
  | nil => trivial
  | cons call rest ih =>
    refine ⟨chargeSound_of_rate hrate (hlen call List.mem_cons_self), ih ?_ ?_⟩
    · rwa [policerStep, checkingSess_rateIn]
    · exact fun other hother ↦ hlen other (List.mem_cons_of_mem call hother)

/-- Without a rate nothing is earned. -/
theorem updateTokens_of_rate_eq_zero {p : Policer} (hrate : p.rateIn = 0)
    (htokens : p.tokensIn ≤ p.burstIn) (now : UInt64) :
    updateTokens p now = { p with lastSeenIn := now } := by
  have hrefill : refill p now = 0 := by
    have hzero : (0 : UInt32).toUInt64 = 0 := rfl
    rw [refill, hrate, hzero, UInt64.zero_mul]
    rfl
  have hfits : ¬p.tokensIn.toUInt64 > p.burstIn.toUInt64 := by
    rw [gt_iff_lt, UInt64.lt_iff_toNat_lt, UInt32.toNat_toUInt64, UInt32.toNat_toUInt64]
    exact not_lt.mpr (UInt32.le_iff_toNat_le.mp htokens)
  rw [updateTokens, hrefill, UInt64.add_zero, if_neg hfits, UInt32.toUInt32_toUInt64]

/-- Without a rate every packet is let through, and its bits are subtracted. -/
theorem checkingSess_of_rate_eq_zero {p : Policer} (hrate : p.rateIn = 0)
    (htokens : p.tokensIn ≤ p.burstIn) (now : UInt64) (pktLen : UInt32) :
    checkingSess p now pktLen =
      ({ p with tokensIn := p.tokensIn - pktLen <<< 3, lastSeenIn := now }, .accept) := by
  simp only [checkingSess, updateTokens_of_rate_eq_zero hrate htokens, hrate, or_true, if_true]

theorem toNat_tokensIn_policerStep {p : Policer} {call : Call} (hrate : p.rateIn = 0)
    (htokens : p.tokensIn ≤ p.burstIn) (hlen : call.pktLen ≤ 65535)
    (hbits : call.pktLen.toNat * 8 ≤ p.tokensIn.toNat) :
    (policerStep p call).tokensIn.toNat = p.tokensIn.toNat - call.pktLen.toNat * 8 := by
  have hshift := toNat_pktLenBits call.pktLen (UInt32.le_iff_toNat_le.mp hlen)
  rw [policerStep, checkingSess_of_rate_eq_zero hrate htokens, UInt32.toNat_sub_of_le _ _ _, hshift]
  rwa [UInt32.le_iff_toNat_le, hshift]

theorem chargeSound_iff_of_rate_eq_zero {p : Policer} {call : Call} (hrate : p.rateIn = 0)
    (htokens : p.tokensIn ≤ p.burstIn) (hlen : call.pktLen ≤ 65535) :
    ChargeSound p call ↔ call.pktLen.toNat * 8 ≤ p.tokensIn.toNat := by
  constructor
  · intro hsound
    have hbits := hsound.2 (by rw [checkingSess_of_rate_eq_zero hrate htokens])
    rwa [updateTokens_of_rate_eq_zero hrate htokens] at hbits
  · intro hbits
    constructor
    · have hburst := UInt32.le_iff_toNat_le.mp htokens
      rw [UInt32.le_iff_toNat_le, toNat_tokensIn_policerStep hrate htokens hlen hbits]
      omega
    · intro _
      rwa [updateTokens_of_rate_eq_zero hrate htokens]

/-- Without a rate the tokens only become fewer, and the bits of a whole run have to be there at its
start. -/
theorem neverWraps_iff_of_rate_eq_zero {p : Policer} {calls : List Call} (hrate : p.rateIn = 0)
    (htokens : p.tokensIn ≤ p.burstIn) (hlen : ∀ call ∈ calls, call.pktLen ≤ 65535) :
    NeverWraps p calls ↔ (calls.map (·.pktLen.toNat * 8)).sum ≤ p.tokensIn.toNat := by
  induction calls generalizing p with
  | nil => simp [NeverWraps, Foundations.Along]
  | cons call rest ih =>
    have hcall := hlen call List.mem_cons_self
    have hrest := fun other hother ↦ hlen other (List.mem_cons_of_mem call hother)
    have hsound := chargeSound_iff_of_rate_eq_zero hrate htokens hcall
    change ChargeSound p call ∧ NeverWraps (policerStep p call) rest ↔ _
    rw [hsound, List.map_cons, List.sum_cons]
    by_cases hbits : call.pktLen.toNat * 8 ≤ p.tokensIn.toNat
    · have hafter := toNat_tokensIn_policerStep hrate htokens hcall hbits
      have hrate' : (policerStep p call).rateIn = 0 := (checkingSess_rateIn _ _ _).trans hrate
      have htokens' : (policerStep p call).tokensIn ≤ (policerStep p call).burstIn := by
        rw [show (policerStep p call).burstIn = p.burstIn from checkingSess_burstIn _ _ _]
        exact (hsound.mpr hbits).1
      rw [ih hrate' htokens' hrest, hafter]
      omega
    · omega

/-- The bucket never holds more than its burst, and no charge goes below zero, exactly if a rate is
configured or the bits of all packets together are there at the start. Assumes: the level is at most
the burst at the start, and the lengths fit an IPv4 header. -/
theorem neverWraps_iff (p : Policer) (calls : List Call) (htokens : p.tokensIn ≤ p.burstIn)
    (hlen : ∀ call ∈ calls, call.pktLen ≤ 65535) :
    NeverWraps p calls ↔
      p.rateIn ≠ 0 ∨ (calls.map (·.pktLen.toNat * 8)).sum ≤ p.tokensIn.toNat := by
  by_cases hrate : p.rateIn = 0
  · rw [neverWraps_iff_of_rate_eq_zero hrate htokens hlen]
    exact ⟨Or.inr, fun h ↦ h.resolve_left fun hne ↦ hne hrate⟩
  · exact ⟨fun _ ↦ Or.inl hrate, fun _ ↦ neverWraps_of_rate hrate hlen⟩

/-- Two packets without a rate, for which there are tokens. -/
theorem neverWraps_iff_twoPackets : NeverWraps ⟨8000, 0, 8000, 0⟩ [⟨1, 600⟩, ⟨2, 400⟩] :=
  (neverWraps_iff _ _ (by decide) (by decide)).mpr (Or.inr (by decide))

/-- A packet of one byte without a rate, on an empty bucket: afterwards it holds `2^32 - 8`
tokens. -/
theorem not_neverWraps_emptyBucket : ¬NeverWraps ⟨0, 0, 8000, 0⟩ [⟨1, 1⟩] := by
  rintro ⟨hsound, -⟩
  exact absurd hsound.1 (by decide)

end KernelModules.Policing
