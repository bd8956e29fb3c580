import KernelModules.Foundations.CreditBucket
import Mathlib.Data.UInt
import Mathlib.Tactic.Ring

/-!
# The token bucket of the policing hook

`policing.c` limits the rate of locally delivered IPv4 traffic. `updateTokens` refills the bucket
from the clock and `checkingSess` charges a packet to it, in the machine arithmetic of the module:
32-bit token counts, a 64-bit product of the rate and the elapsed nanoseconds that may wrap, a
signed 64-bit division of that product, and a 64-bit sum compared with the burst.

`updateTokens_le_burst` and `updateTokens_le_credit` say what survives of this arithmetic: the level
after a refill is at most the burst, and when the clock has not run backwards it is at most the
level before plus the tokens the elapsed time really earns. When the product wraps or turns
negative, the elapsed time has earned more than any 32-bit burst, so the clamp is right for the
wrong reason. `spend_checkingSess` is the refinement into `Foundations.CreditBucket`, and
`acceptedBits_window_le` the conformance of every window of every run.
-/

set_option autoImplicit false
set_option relaxedAutoImplicit false

namespace KernelModules.Policing

open Foundations.CreditBucket

/-! ### The module -/

/-- `NSEC_PER_SEC`. -/
def nsecPerSec : Int32 := 1000000000

/-- `div_s64`: a signed 64-bit dividend by a signed 32-bit divisor, rounding towards zero. -/
def divS64 (dividend : Int64) (divisor : Int32) : Int64 := dividend / divisor.toInt64

/-- The module's globals. -/
structure Policer where
  tokensIn : UInt32
  rateIn : UInt32
  burstIn : UInt32
  lastSeenIn : UInt64
  deriving DecidableEq, Repr

/-- The verdicts of the netfilter hook. -/
inductive Verdict
  | accept
  | drop
  deriving DecidableEq, Repr

/-- The quotient that `update_tokens` adds: the wrapped product, reinterpreted as signed, divided,
and reinterpreted as unsigned. -/
def refill (p : Policer) (now : UInt64) : UInt64 :=
  (divS64 (p.rateIn.toUInt64 * (now - p.lastSeenIn)).toInt64 nsecPerSec).toUInt64

/-- `update_tokens` at clock reading `now`. -/
def updateTokens (p : Policer) (now : UInt64) : Policer :=
  let tokens := refill p now
  { p with
    tokensIn :=
      if p.tokensIn.toUInt64 + tokens > p.burstIn.toUInt64 then p.burstIn
      else (p.tokensIn.toUInt64 + tokens).toUInt32
    lastSeenIn := now }

/-- `checking_sess` at clock reading `now`. -/
def checkingSess (p : Policer) (now : UInt64) (pktLen : UInt32) : Policer × Verdict :=
  let pktLenBits := pktLen <<< 3
  let p := updateTokens p now
  if pktLenBits ≤ p.tokensIn ∨ p.rateIn = 0 then
    ({ p with tokensIn := p.tokensIn - pktLenBits }, .accept)
  else (p, .drop)

/-- One call of the hook: the clock reading it makes and the total length of its packet. -/
structure Call where
  now : UInt64
  pktLen : UInt32
  deriving DecidableEq, Repr

/-- The bits a call lets through. -/
def acceptedBitsOf (p : Policer) (call : Call) : ℕ :=
  if (checkingSess p call.now call.pktLen).2 = .accept then call.pktLen.toNat * 8 else 0

/-- The bits let through by each call of a run. -/
def acceptedBits : Policer → List Call → List ℕ
  | _, [] => []
  | p, call :: rest =>
    acceptedBitsOf p call :: acceptedBits (checkingSess p call.now call.pktLen).1 rest

/-! ### What the refill does -/

@[simp] theorem updateTokens_rateIn (p : Policer) (now : UInt64) :
    (updateTokens p now).rateIn = p.rateIn := rfl

@[simp] theorem updateTokens_burstIn (p : Policer) (now : UInt64) :
    (updateTokens p now).burstIn = p.burstIn := rfl

@[simp] theorem updateTokens_lastSeenIn (p : Policer) (now : UInt64) :
    (updateTokens p now).lastSeenIn = now := rfl

theorem toNat_tokensIn_updateTokens (p : Policer) (now : UInt64) :
    (updateTokens p now).tokensIn.toNat =
      if p.burstIn.toNat < (p.tokensIn.toNat + (refill p now).toNat) % 2 ^ 64 then p.burstIn.toNat
      else (p.tokensIn.toNat + (refill p now).toNat) % 2 ^ 64 % 2 ^ 32 := by
  have hsum : (p.tokensIn.toUInt64 + refill p now).toNat =
      (p.tokensIn.toNat + (refill p now).toNat) % 2 ^ 64 := by
    rw [UInt64.toNat_add, UInt32.toNat_toUInt64]
  simp only [updateTokens, gt_iff_lt, UInt64.lt_iff_toNat_lt, hsum, UInt32.toNat_toUInt64]
  split_ifs with hlarge
  · rfl
  · rw [UInt64.toNat_toUInt32, hsum]

/-- A refill never leaves more than the burst, whatever the clock reads. -/
theorem updateTokens_le_burst (p : Policer) (now : UInt64) :
    (updateTokens p now).tokensIn.toNat ≤ p.burstIn.toNat := by
  rw [toNat_tokensIn_updateTokens]
  split_ifs with hlarge
  · exact le_refl _
  · exact (Nat.mod_le _ _).trans (not_lt.mp hlarge)

/-- A product that stays below `2^63` is divided as the natural number it is. -/
theorem toNat_refill_of_lt (p : Policer) (now : UInt64)
    (hsmall : (p.rateIn.toNat * (now - p.lastSeenIn).toNat) % 2 ^ 64 < 2 ^ 63) :
    (refill p now).toNat =
      (p.rateIn.toNat * (now - p.lastSeenIn).toNat) % 2 ^ 64 / 1000000000 := by
  set product := p.rateIn.toUInt64 * (now - p.lastSeenIn) with hproduct
  have htoNat : product.toNat = (p.rateIn.toNat * (now - p.lastSeenIn).toNat) % 2 ^ 64 := by
    rw [hproduct, UInt64.toNat_mul, UInt32.toNat_toUInt64]
  have htoInt : product.toInt64.toInt = (product.toNat : ℤ) := by
    rw [← Int64.toInt_toBitVec, UInt64.toBitVec_toInt64, BitVec.toInt_eq_toNat_of_lt]
    · rfl
    · change 2 * product.toNat < 2 ^ 64
      omega
  have hquotient : (divS64 product.toInt64 nsecPerSec).toInt =
      ((product.toNat / 1000000000 : ℕ) : ℤ) := by
    rw [divS64, Int64.toInt_div_of_ne_right _ _ (by decide), htoInt]
    rfl
  have hnonneg : 0 ≤ divS64 product.toInt64 nsecPerSec := by
    rw [Int64.le_iff_toInt_le, hquotient]
    exact Int.natCast_nonneg _
  change (divS64 product.toInt64 nsecPerSec).toUInt64.toNat = _
  rw [Int64.toNat_toUInt64_of_le hnonneg, ← Int64.toNat_toInt, hquotient, Int.toNat_natCast, htoNat]

/-- The tokens that a rate earns between two instants in nanoseconds. -/
def earned (rate before now : ℕ) : ℕ :=
  rate * (now - before) / 1000000000

/-- When the clock has not run backwards, a refill adds at most the tokens the elapsed time earns.
A product that has wrapped or turned negative was at least `2^63`, and `2^63` nanosecond-bits earn
more tokens than a 32-bit burst can hold. -/
theorem updateTokens_le_credit (p : Policer) (now : UInt64)
    (hclock : p.lastSeenIn.toNat ≤ now.toNat) :
    (updateTokens p now).tokensIn.toNat ≤
      p.tokensIn.toNat + earned p.rateIn.toNat p.lastSeenIn.toNat now.toNat := by
  have helapsed : (now - p.lastSeenIn).toNat = now.toNat - p.lastSeenIn.toNat :=
    UInt64.toNat_sub_of_le _ _ (UInt64.le_iff_toNat_le.mpr hclock)
  have hburst := updateTokens_le_burst p now
  have hwidth := p.burstIn.toNat_lt
  have hlevel := p.tokensIn.toNat_lt
  rw [earned, ← helapsed]
  have hrefill := toNat_refill_of_lt p now
  generalize p.rateIn.toNat * (now - p.lastSeenIn).toNat = product at hrefill ⊢
  by_cases hsmall : product % 2 ^ 64 < 2 ^ 63
  · have hmono : product % 2 ^ 64 / 1000000000 ≤ product / 1000000000 :=
      Nat.div_le_div_right (Nat.mod_le _ _)
    have hnowrap : (p.tokensIn.toNat + product % 2 ^ 64 / 1000000000) % 2 ^ 64 =
        p.tokensIn.toNat + product % 2 ^ 64 / 1000000000 := by
      rw [Nat.mod_eq_of_lt]
      omega
    rw [toNat_tokensIn_updateTokens, hrefill hsmall, hnowrap]
    split_ifs with hlarge
    · exact hlarge.le.trans (Nat.add_le_add_left hmono _)
    · exact (Nat.mod_le _ _).trans (Nat.add_le_add_left hmono _)
  · have hwrapped : 2 ^ 63 ≤ product := (not_lt.mp hsmall).trans (Nat.mod_le _ _)
    omega

theorem earned_add_le (rate a b c : ℕ) (hab : a ≤ b) (hbc : b ≤ c) :
    earned rate a b + earned rate b c ≤ earned rate a c := by
  have hsplit : rate * (c - a) = rate * (b - a) + rate * (c - b) := by
    rw [← Nat.mul_add]
    congr 1
    omega
  simp only [earned]
  rw [hsplit]
  exact Nat.div_add_div_le_add_div

/-! ### The policer as a credit bucket -/

@[simp] theorem checkingSess_rateIn (p : Policer) (now : UInt64) (pktLen : UInt32) :
    (checkingSess p now pktLen).1.rateIn = p.rateIn := by
  simp only [checkingSess]
  split_ifs <;> rfl

@[simp] theorem checkingSess_burstIn (p : Policer) (now : UInt64) (pktLen : UInt32) :
    (checkingSess p now pktLen).1.burstIn = p.burstIn := by
  simp only [checkingSess]
  split_ifs <;> rfl

@[simp] theorem checkingSess_lastSeenIn (p : Policer) (now : UInt64) (pktLen : UInt32) :
    (checkingSess p now pktLen).1.lastSeenIn = now := by
  simp only [checkingSess]
  split_ifs <;> rfl

/-- The shift that turns bytes into bits loses nothing for a length of an IPv4 header. -/
theorem toNat_pktLenBits (pktLen : UInt32) (hlen : pktLen.toNat ≤ 65535) :
    (pktLen <<< 3).toNat = pktLen.toNat * 8 := by
  rw [UInt32.toNat_shiftLeft]
  change pktLen.toNat <<< 3 % 2 ^ 32 = pktLen.toNat * 8
  rw [Nat.shiftLeft_eq]
  omega

/-- With a rate configured, a call leaves in the bucket what the refill put there less the bits it
lets through. -/
theorem checkingSess_level (p : Policer) (call : Call) (hrate : p.rateIn ≠ 0)
    (hlen : call.pktLen.toNat ≤ 65535) :
    (checkingSess p call.now call.pktLen).1.tokensIn.toNat + acceptedBitsOf p call =
      (updateTokens p call.now).tokensIn.toNat := by
  have hbits := toNat_pktLenBits call.pktLen hlen
  simp only [acceptedBitsOf, checkingSess, updateTokens_rateIn, hrate, or_false]
  split_ifs with hfits hverdict hverdict
  · rw [UInt32.toNat_sub_of_le _ _ hfits, hbits]
    rw [UInt32.le_iff_toNat_le, hbits] at hfits
    omega
  · exact absurd rfl hverdict
  · exact absurd hverdict (by decide)
  · rfl

/-- A call of the hook is a spend of the abstract bucket. Assumes: a rate is configured and the
length fits an IPv4 header. -/
theorem spend_checkingSess (p : Policer) (call : Call) (hrate : p.rateIn ≠ 0)
    (hlen : call.pktLen.toNat ≤ 65535) :
    Spend p.burstIn.toNat (earned p.rateIn.toNat) p.tokensIn.toNat p.lastSeenIn.toNat
      (acceptedBitsOf p call) (checkingSess p call.now call.pktLen).1.tokensIn.toNat
      call.now.toNat where
  le_capacity := by
    rw [checkingSess_level p call hrate hlen]
    exact updateTokens_le_burst p call.now
  le_credit := fun hclock ↦ by
    rw [checkingSess_level p call hrate hlen]
    exact updateTokens_le_credit p call.now hclock

/-- A run of the hook is a run of the abstract bucket. -/
theorem spendRun_acceptedBits (p : Policer) (calls : List Call) (hrate : p.rateIn ≠ 0)
    (hlen : ∀ call ∈ calls, call.pktLen.toNat ≤ 65535) :
    SpendRun p.burstIn.toNat (earned p.rateIn.toNat) p.tokensIn.toNat p.lastSeenIn.toNat
      ((calls.map (·.now.toNat)).zip (acceptedBits p calls)) := by
  induction calls generalizing p with
  | nil => exact SpendRun.nil _ _
  | cons call rest ih =>
    have hcall := hlen call List.mem_cons_self
    have hrest := ih (checkingSess p call.now call.pktLen).1 (by simpa using hrate)
      fun other hother ↦ hlen other (List.mem_cons_of_mem call hother)
    simp only [checkingSess_rateIn, checkingSess_burstIn, checkingSess_lastSeenIn] at hrest
    exact SpendRun.cons (spend_checkingSess p call hrate hcall) hrest

/-! ### Windows of a run -/

/-- The policer after a run of calls. -/
def policerAfter (p : Policer) (calls : List Call) : Policer :=
  calls.foldl (fun p call ↦ (checkingSess p call.now call.pktLen).1) p

@[simp] theorem length_acceptedBits (p : Policer) (calls : List Call) :
    (acceptedBits p calls).length = calls.length := by
  induction calls generalizing p with
  | nil => rfl
  | cons call rest ih => simp [acceptedBits, ih]

theorem policerAfter_rateIn (p : Policer) (calls : List Call) :
    (policerAfter p calls).rateIn = p.rateIn := by
  induction calls generalizing p with
  | nil => rfl
  | cons call rest ih => exact (ih _).trans (checkingSess_rateIn p call.now call.pktLen)

theorem policerAfter_burstIn (p : Policer) (calls : List Call) :
    (policerAfter p calls).burstIn = p.burstIn := by
  induction calls generalizing p with
  | nil => rfl
  | cons call rest ih => exact (ih _).trans (checkingSess_burstIn p call.now call.pktLen)

theorem acceptedBits_drop (p : Policer) (calls : List Call) (i : ℕ) :
    (acceptedBits p calls).drop i =
      acceptedBits (policerAfter p (calls.take i)) (calls.drop i) := by
  induction calls generalizing p i with
  | nil => simp [acceptedBits]
  | cons call rest ih =>
    cases i with
    | zero => rfl
    | succ i =>
      rw [acceptedBits, List.drop_succ_cons, ih, List.take_succ_cons, List.drop_succ_cons]
      rfl

theorem acceptedBits_take (p : Policer) (calls : List Call) (n : ℕ) :
    (acceptedBits p calls).take n = acceptedBits p (calls.take n) := by
  induction calls generalizing p n with
  | nil => simp [acceptedBits]
  | cons call rest ih =>
    cases n with
    | zero => rfl
    | succ n => rw [acceptedBits, List.take_succ_cons, ih, List.take_succ_cons, acceptedBits]

/-- The conformance bound of a run that starts with `call`, from any state of the policer. -/
theorem acceptedBits_cons_le (p : Policer) (call : Call) (rest : List Call) (hrate : p.rateIn ≠ 0)
    (hlen : ∀ other ∈ call :: rest, other.pktLen.toNat ≤ 65535)
    (hclock : List.IsChain (· ≤ ·) ((call :: rest).map (·.now.toNat))) :
    (acceptedBits p (call :: rest)).sum ≤ p.burstIn.toNat +
      earned p.rateIn.toNat call.now.toNat
        (((call :: rest).getLast?.map (·.now.toNat)).getD 0) := by
  let next := (checkingSess p call.now call.pktLen).1
  have hfst : ((rest.map (·.now.toNat)).zip (acceptedBits next rest)).map Prod.fst =
      rest.map (·.now.toNat) := List.map_fst_zip (by simp)
  have hsnd : ((rest.map (·.now.toNat)).zip (acceptedBits next rest)).map Prod.snd =
      acceptedBits next rest := List.map_snd_zip (by simp)
  have hrun : SpendRun p.burstIn.toNat (earned p.rateIn.toNat) p.tokensIn.toNat p.lastSeenIn.toNat
      ((call.now.toNat, acceptedBitsOf p call) ::
        (rest.map (·.now.toNat)).zip (acceptedBits next rest)) :=
    spendRun_acceptedBits p (call :: rest) hrate hlen
  have hbound := sum_le_capacity_add_credit (earned_add_le p.rateIn.toNat) hrun
    (by rw [hfst]; exact hclock)
  have hlast : lastInstant call.now.toNat ((rest.map (·.now.toNat)).zip (acceptedBits next rest)) =
      ((call :: rest).getLast?.map (·.now.toNat)).getD 0 := by
    rw [lastInstant, ← List.getLast?_map, hfst, List.getLast?_cons, List.getLast?_map]
    cases rest.getLast? <;> rfl
  rw [hsnd, hlast] at hbound
  rw [acceptedBits, List.sum_cons]
  exact hbound

/-- Token-bucket conformance: in every run of the hook with a non-decreasing clock, calls `i` to `j`
let through at most the burst plus the bits that the rate earns from call `i` to call `j`. -/
theorem acceptedBits_window_le (p : Policer) (calls : List Call) (hrate : 0 < p.rateIn)
    (hlen : ∀ call ∈ calls, call.pktLen ≤ 65535)
    (hclock : (calls.map (·.now)).Pairwise (· ≤ ·)) (i j : ℕ) (hij : i ≤ j)
    (hj : j < calls.length) :
    (((acceptedBits p calls).drop i).take (j + 1 - i)).sum ≤ p.burstIn.toNat +
      p.rateIn.toNat * (calls[j].now.toNat - calls[i].now.toNat) / 10 ^ 9 := by
  have hwindow : (calls.drop i).take (j + 1 - i) =
      calls[i] :: (calls.drop (i + 1)).take (j - i) := by
    rw [List.drop_eq_getElem_cons (by omega : i < calls.length),
      show j + 1 - i = (j - i) + 1 by omega, List.take_succ_cons]
  have hsub : ((calls.drop i).take (j + 1 - i)).Sublist calls :=
    (List.take_sublist _ _).trans (List.drop_sublist _ _)
  have hlast : ((calls.drop i).take (j + 1 - i)).getLast? = some calls[j] := by
    rw [List.getLast?_eq_getElem?, List.length_take, List.length_drop,
      show min (j + 1 - i) (calls.length - i) - 1 = j - i by omega,
      List.getElem?_take_of_lt (by omega), List.getElem?_drop,
      show i + (j - i) = j by omega, List.getElem?_eq_getElem hj]
  have hchain : List.IsChain (· ≤ ·) (((calls.drop i).take (j + 1 - i)).map (·.now.toNat)) := by
    have hpairs : (((calls.drop i).take (j + 1 - i)).map (·.now)).Pairwise (· ≤ ·) :=
      hclock.sublist (hsub.map _)
    refine List.Pairwise.isChain ?_
    rw [List.pairwise_map] at hpairs ⊢
    exact hpairs.imp fun h ↦ UInt64.le_iff_toNat_le.mp h
  have hrate' : (policerAfter p (calls.take i)).rateIn ≠ 0 := by
    rw [policerAfter_rateIn]
    rintro hzero
    exact absurd (hzero ▸ hrate) (by decide)
  have hbound := acceptedBits_cons_le (policerAfter p (calls.take i)) calls[i]
    ((calls.drop (i + 1)).take (j - i)) hrate'
    (fun call hcall ↦ UInt32.le_iff_toNat_le.mp (hlen call (hsub.subset (hwindow ▸ hcall))))
    (hwindow ▸ hchain)
  rw [← hwindow, hlast, policerAfter_rateIn, policerAfter_burstIn] at hbound
  rw [acceptedBits_drop, acceptedBits_take]
  exact hbound

/-- A burst of 8000 bits at 1000 bit/s: the first packet empties the bucket, the second is dropped,
and eight seconds later the bucket has room for a third. -/
theorem acceptedBits_window_le_three_packets :
    ((acceptedBits ⟨8000, 1000, 8000, 0⟩ [⟨0, 1000⟩, ⟨1000000000, 1000⟩, ⟨8000000000, 1000⟩]).drop
        0).take 3 = [8000, 0, 8000] ∧
      (((acceptedBits ⟨8000, 1000, 8000, 0⟩
        [⟨0, 1000⟩, ⟨1000000000, 1000⟩, ⟨8000000000, 1000⟩]).drop 0).take (2 + 1 - 0)).sum ≤
        8000 + 1000 * (8000000000 - 0) / 10 ^ 9 :=
  ⟨by decide, acceptedBits_window_le ⟨8000, 1000, 8000, 0⟩
    [⟨0, 1000⟩, ⟨1000000000, 1000⟩, ⟨8000000000, 1000⟩] (by decide) (by decide) (by decide) 0 2
    (by decide) (by decide)⟩

end KernelModules.Policing
