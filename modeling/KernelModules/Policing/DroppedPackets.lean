import KernelModules.Policing.Refill

/-!
# Packets that are dropped

A packet that is dropped is not charged, but `checking_sess` refills the bucket before it looks at
the packet, and a refill rounds down to whole tokens and forgets the rest with the instant it counts
from. Many packets that are dropped in short succession so take up to one token each from what the
time would have earned without them: `earnedInSteps` is at most `earned`. `unaffected_iff` says that
this rounding is all there is: the next packet fares as if the dropped ones had never come exactly
if no whole token is lost, or the bucket is full all the same.
-/

set_option autoImplicit false
set_option relaxedAutoImplicit false

namespace KernelModules.Policing

open Foundations

/-- The tokens that a rate earns if they are rounded down at every one of the instants. -/
def earnedInSteps (rate : ℕ) : ℕ → List ℕ → ℕ
  | _, [] => 0
  | before, now :: rest => earned rate before now + earnedInSteps rate now rest

/-- Every call of the run drops its packet. -/
def AllDropped (p : Policer) (calls : List Call) : Prop :=
  Along policerStep (fun q call ↦ (checkingSess q call.now call.pktLen).2 = .drop) p calls

instance (p : Policer) (calls : List Call) : Decidable (AllDropped p calls) :=
  inferInstanceAs (Decidable (Along _ _ _ _))

/-- After the calls the next packet gets the verdict, and leaves the tokens, that it would get and
leave without them. -/
def Unaffected (p : Policer) (calls : List Call) (next : Call) : Prop :=
  let after := checkingSess (policerAfter p calls) next.now next.pktLen
  let without := checkingSess p next.now next.pktLen
  after.2 = without.2 ∧ after.1.tokensIn = without.1.tokensIn

instance (p : Policer) (calls : List Call) (next : Call) : Decidable (Unaffected p calls next) :=
  inferInstanceAs (Decidable (_ ∧ _))

/-! ### Rounding in steps -/

/-- Rounding in steps never earns more than rounding once. -/
theorem earnedInSteps_le (rate before : ℕ) (times : List ℕ) (last : ℕ)
    (hclock : (before :: (times ++ [last])).Pairwise (· ≤ ·)) :
    earnedInSteps rate before (times ++ [last]) ≤ earned rate before last := by
  induction times generalizing before with
  | nil => exact le_refl _
  | cons now rest ih =>
    obtain ⟨hbefore, hrest⟩ := List.pairwise_cons.mp hclock
    have hlast := (List.pairwise_cons.mp hrest).1 last (by simp)
    have hsplit := earned_add_le rate before now last (hbefore now (by simp)) hlast
    have hsteps := ih now hrest
    rw [List.cons_append, earnedInSteps]
    omega

/-! ### The level after packets that were dropped -/

/-- A call that drops its packet is a refill. -/
theorem policerStep_of_drop {p : Policer} {call : Call}
    (hdrop : (checkingSess p call.now call.pktLen).2 = .drop) :
    policerStep p call = updateTokens p call.now := by
  rw [policerStep]
  simp only [checkingSess] at hdrop ⊢
  split_ifs at hdrop ⊢ with hfits
  rfl

/-- A refill that does not overflow. -/
theorem tokensIn_updateTokens {p : Policer} {now : UInt64} (hclock : p.lastSeenIn ≤ now)
    (hproduct : product p now < 2 ^ 63) :
    (updateTokens p now).tokensIn.toNat = min p.burstIn.toNat
      (p.tokensIn.toNat + earned p.rateIn.toNat p.lastSeenIn.toNat now.toNat) := by
  have hmod : product p now % 2 ^ 64 = product p now := Nat.mod_eq_of_lt (by omega)
  rw [tokensIn_updateTokens_of_lt hclock (by omega), hmod]
  rfl

theorem product_le_product {p : Policer} {first last : UInt64} (hle : first ≤ last) :
    product p first ≤ product p last :=
  Nat.mul_le_mul_left _ (Nat.sub_le_sub_right (UInt64.le_iff_toNat_le.mp hle) _)

theorem product_updateTokens_le {p : Policer} {first : UInt64} (hclock : p.lastSeenIn ≤ first)
    (last : UInt64) : product (updateTokens p first) last ≤ product p last :=
  Nat.mul_le_mul_left _ (Nat.sub_le_sub_left (UInt64.le_iff_toNat_le.mp hclock) _)

/-- Refills at several instants fill the bucket like one refill that is rounded in steps. -/
theorem tokensIn_updateTokens_policerAfter {p : Policer} {calls : List Call} {now : UInt64}
    (hdropped : AllDropped p calls)
    (hclock : (p.lastSeenIn :: (calls.map (·.now) ++ [now])).Pairwise (· ≤ ·))
    (hproduct : product p now < 2 ^ 63) :
    (updateTokens (policerAfter p calls) now).tokensIn.toNat =
      min p.burstIn.toNat (p.tokensIn.toNat + earnedInSteps p.rateIn.toNat p.lastSeenIn.toNat
        (calls.map (·.now.toNat) ++ [now.toNat])) := by
  induction calls generalizing p with
  | nil => exact tokensIn_updateTokens ((List.pairwise_cons.mp hclock).1 now (by simp)) hproduct
  | cons call rest ih =>
    obtain ⟨hbefore, hrest⟩ := List.pairwise_cons.mp hclock
    obtain ⟨hdrop, hdropped'⟩ := hdropped
    have hcall : p.lastSeenIn ≤ call.now := hbefore call.now (by simp)
    have hnow : call.now ≤ now := (List.pairwise_cons.mp hrest).1 now (by simp)
    have hstep := tokensIn_updateTokens hcall ((product_le_product hnow).trans_lt hproduct)
    rw [policerStep_of_drop hdrop] at hdropped'
    have hlevel := ih hdropped' hrest ((product_updateTokens_le hcall now).trans_lt hproduct)
    have hafter : policerAfter p (call :: rest) = policerAfter (updateTokens p call.now) rest := by
      rw [← policerStep_of_drop hdrop]
      rfl
    rw [hafter, hlevel, hstep]
    simp only [updateTokens_rateIn, updateTokens_burstIn, updateTokens_lastSeenIn, List.map_cons,
      List.cons_append, earnedInSteps]
    omega

/-! ### The next packet -/

theorem updateTokens_eq_of_tokensIn {p q : Policer} {now : UInt64} (hrate : q.rateIn = p.rateIn)
    (hburst : q.burstIn = p.burstIn)
    (htokens : (updateTokens q now).tokensIn = (updateTokens p now).tokensIn) :
    updateTokens q now = updateTokens p now := by
  simp only [updateTokens, Policer.mk.injEq] at htokens ⊢
  exact ⟨htokens, hrate, hburst, trivial⟩

/-- With a rate configured, verdict and tokens tell which level the packet has found. -/
theorem tokensIn_updateTokens_eq_of_checkingSess {p q : Policer} {call : Call} (hp : p.rateIn ≠ 0)
    (hq : q.rateIn ≠ 0)
    (hverdict : (checkingSess q call.now call.pktLen).2 = (checkingSess p call.now call.pktLen).2)
    (htokens : (checkingSess q call.now call.pktLen).1.tokensIn =
      (checkingSess p call.now call.pktLen).1.tokensIn) :
    (updateTokens q call.now).tokensIn = (updateTokens p call.now).tokensIn := by
  simp only [checkingSess, updateTokens_rateIn, hp, hq, or_false] at hverdict htokens
  split_ifs at hverdict htokens
  · exact sub_left_inj.mp htokens
  · exact htokens

theorem unaffected_iff_tokensIn {p : Policer} {calls : List Call} {next : Call}
    (hrate : p.rateIn ≠ 0) :
    Unaffected p calls next ↔
      (updateTokens (policerAfter p calls) next.now).tokensIn =
        (updateTokens p next.now).tokensIn := by
  have hrate' := policerAfter_rateIn p calls
  constructor
  · rintro ⟨hverdict, htokens⟩
    exact tokensIn_updateTokens_eq_of_checkingSess hrate (hrate'.symm ▸ hrate) hverdict htokens
  · intro htokens
    have hstate := updateTokens_eq_of_tokensIn hrate' (policerAfter_burstIn p calls) htokens
    simp only [Unaffected, checkingSess, hstate, and_self]

/-- The rounding at the dropped packets has cost no whole token, or the bucket is full all the
same. -/
def LosesNoToken (p : Policer) (calls : List Call) (next : Call) : Prop :=
  let rounded := earnedInSteps p.rateIn.toNat p.lastSeenIn.toNat
    (calls.map (·.now.toNat) ++ [next.now.toNat])
  rounded = earned p.rateIn.toNat p.lastSeenIn.toNat next.now.toNat ∨
    p.burstIn.toNat ≤ p.tokensIn.toNat + rounded

instance (p : Policer) (calls : List Call) (next : Call) : Decidable (LosesNoToken p calls next) :=
  inferInstanceAs (Decidable (_ ∨ _))

/-- Dropped packets do not influence the next packet exactly if `LosesNoToken`. Assumes: a rate is
configured, the clock does not run backwards, and the time since the last packet before them is
short enough for a refill not to overflow. -/
theorem unaffected_iff (p : Policer) (calls : List Call) (next : Call) (hrate : 0 < p.rateIn)
    (hdropped : AllDropped p calls)
    (hclock : (p.lastSeenIn :: (calls.map (·.now) ++ [next.now])).Pairwise (· ≤ ·))
    (hgap : p.rateIn.toNat * (next.now.toNat - p.lastSeenIn.toNat) < 2 ^ 63) :
    Unaffected p calls next ↔ LosesNoToken p calls next := by
  have hrate' : p.rateIn ≠ 0 := by
    rintro hzero
    exact absurd (hzero ▸ hrate) (by decide)
  have hnow : p.lastSeenIn ≤ next.now := (List.pairwise_cons.mp hclock).1 next.now (by simp)
  have hafter := tokensIn_updateTokens_policerAfter hdropped hclock hgap
  have hwithout := tokensIn_updateTokens hnow hgap
  have htimes : (p.lastSeenIn.toNat ::
      (calls.map (·.now.toNat) ++ [next.now.toNat])).Pairwise (· ≤ ·) := by
    have htoNat := hclock.map UInt64.toNat fun a b hab ↦ UInt64.le_iff_toNat_le.mp hab
    rwa [List.map_cons, List.map_append, List.map_map] at htoNat
  have hle := earnedInSteps_le p.rateIn.toNat p.lastSeenIn.toNat _ _ htimes
  rw [unaffected_iff_tokensIn hrate', ← UInt32.toNat_inj, hafter, hwithout, LosesNoToken]
  omega

/-- A packet of 1000 bytes at 1000 bit/s is dropped after a whole number of seconds, and the next
one fares as if it had not come. -/
theorem unaffected_iff_wholeSecond :
    Unaffected ⟨0, 1000, 16000, 0⟩ [⟨1000000000, 1000⟩] ⟨8000000000, 1000⟩ :=
  (unaffected_iff _ _ _ (by decide) (by decide) (by decide) (by decide)).mpr (by decide)

/-- At 1000 bit/s a packet is dropped after half a millisecond. Its refill earns half a token and
counts none, and the next packet, of one byte and after 8 milliseconds, finds 7 tokens instead of 8
and is dropped as well. The clock does not run backwards and no refill overflows. -/
theorem not_unaffected_halfTokens :
    AllDropped ⟨0, 1000, 16000, 0⟩ [⟨500000, 1⟩] ∧
      [(0 : UInt64), 500000, 8000000].Pairwise (· ≤ ·) ∧ 1000 * (8000000 - 0) < 2 ^ 63 ∧
      ¬Unaffected ⟨0, 1000, 16000, 0⟩ [⟨500000, 1⟩] ⟨8000000, 1⟩ := by
  decide

end KernelModules.Policing
