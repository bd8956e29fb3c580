import KernelModules.Foundations.InternetChecksum
import Mathlib.Algebra.BigOperators.Group.List.Basic
import Mathlib.Algebra.GroupWithZero.Nat
import Mathlib.Data.Nat.ModEq
import Mathlib.Tactic.SplitIfs

/-!
# Partial sums of 32 bits

A checksum over several pieces is collected in a word of 32 bits: `csum_add` adds with the carry
brought back, `csum_fold` brings the two halves together and complements, `skb_checksum` goes on
from what has been collected. Words are read in network order here; the sum does not depend on it.

Folding is a homomorphism from the natural numbers (`onesFold_add`), so that a checksum over pieces
is decided by one natural number, the sum of all their words: `csum_fold` is zero exactly if that
number is a positive multiple of 65535 (`csumFold_eq_zero_iff`). A word that is replaced by another
keeps the sum right only if the two are equal or are the two zeros (`sum_replaced_iff`).
-/

set_option autoImplicit false
set_option relaxedAutoImplicit false

namespace KernelModules.Foundations

/-! ### Folding -/

/-- What is left of a sum when all its carries have been brought back: a number of 16 bits that is
zero only for zero. -/
def onesFold (sum : ℕ) : ℕ := if sum = 0 then 0 else (sum - 1) % 65535 + 1

theorem onesFold_le (sum : ℕ) : onesFold sum ≤ 65535 := by
  rw [onesFold]
  split_ifs <;> omega

theorem onesFold_of_le {sum : ℕ} (hsum : sum ≤ 65535) : onesFold sum = sum := by
  rw [onesFold]
  split_ifs <;> omega

/-- Adding with the carry brought back is adding. -/
theorem onesFold_add (a b : ℕ) : onesFold (a + b) = onesAdd (onesFold a) (onesFold b) := by
  simp only [onesFold, onesAdd]
  split_ifs <;> omega

theorem onesFold_eq_iff {sum : ℕ} : onesFold sum = 65535 ↔ 0 < sum ∧ sum % 65535 = 0 := by
  rw [onesFold]
  split_ifs with hzero
  · simp [hzero]
  · omega

/-- The sum of the words of a stretch of bytes. -/
def wordSum (bytes : List UInt8) : ℕ := (be16Words bytes).sum

/-! ### Partial sums -/

/-- `csum_add`. -/
def csumAdd (a b : UInt32) : UInt32 :=
  let sum := a + b
  sum + (if sum < b then 1 else 0)

/-- The two halves of a sum together. -/
def csumHalves (sum : UInt32) : UInt32 := (sum &&& (0xffff : UInt32)) + (sum >>> (16 : UInt32))

/-- `csum_fold`. -/
def csumFold (sum : UInt32) : UInt16 := ~~~(csumHalves (csumHalves sum)).toUInt16

/-- `csum_unfold`. -/
def csumUnfold (sum : UInt16) : UInt32 := sum.toUInt32

/-- `skb_checksum` over a stretch of bytes, going on from `sum`. -/
def skbChecksum (bytes : List UInt8) (sum : UInt32) : UInt32 :=
  ((be16Words bytes).map UInt32.ofNat).foldl csumAdd sum

theorem onesFold_csumAdd (a b : UInt32) :
    onesFold (csumAdd a b).toNat = onesFold (a.toNat + b.toNat) := by
  have ha := a.toNat_lt
  have hb := b.toNat_lt
  rw [csumAdd]
  by_cases hcarry : a + b < b
  · rw [if_pos hcarry]
    rw [UInt32.lt_iff_toNat_lt, UInt32.toNat_add] at hcarry
    rw [UInt32.toNat_add, UInt32.toNat_add, UInt32.toNat_one, onesFold, onesFold]
    split_ifs <;> omega
  · rw [if_neg hcarry, UInt32.add_zero, UInt32.toNat_add]
    rw [UInt32.lt_iff_toNat_lt, UInt32.toNat_add] at hcarry
    congr 1
    omega

theorem toNat_csumHalves (sum : UInt32) :
    (csumHalves sum).toNat = sum.toNat % 65536 + sum.toNat / 65536 := by
  have hsum := sum.toNat_lt
  have hlow : (sum &&& (0xffff : UInt32)).toNat = sum.toNat % 65536 := by
    rw [UInt32.toNat_and]
    exact Nat.and_two_pow_sub_one_eq_mod sum.toNat 16
  have hhigh : (sum >>> (16 : UInt32)).toNat = sum.toNat / 65536 := by
    rw [UInt32.toNat_shiftRight]
    exact Nat.shiftRight_eq_div_pow sum.toNat 16
  rw [csumHalves, UInt32.toNat_add, hlow, hhigh]
  omega

theorem onesFold_csumHalves (sum : UInt32) :
    onesFold (csumHalves sum).toNat = onesFold sum.toNat := by
  rw [toNat_csumHalves, onesFold, onesFold]
  split_ifs <;> omega

/-- `csum_fold` is the complement of the fold. -/
theorem toNat_csumFold (sum : UInt32) : (csumFold sum).toNat = 65535 - onesFold sum.toNat := by
  have hsum := sum.toNat_lt
  have hsize : UInt16.size = 65536 := rfl
  have hle : (csumHalves (csumHalves sum)).toNat ≤ 65535 := by
    rw [toNat_csumHalves, toNat_csumHalves]
    omega
  rw [csumFold, UInt16.toNat_not, UInt32.toNat_toUInt16, hsize, Nat.mod_eq_of_lt (by omega),
    ← onesFold_csumHalves sum, ← onesFold_csumHalves, onesFold_of_le hle]

/-- A folded sum is zero exactly if the sum is a positive multiple of 65535. -/
theorem csumFold_eq_zero_iff (sum : UInt32) :
    csumFold sum = 0 ↔ onesFold sum.toNat = 65535 := by
  have hle := onesFold_le sum.toNat
  rw [← UInt16.toNat_inj, toNat_csumFold, UInt16.toNat_zero]
  omega

theorem onesFold_foldl_csumAdd (words : List UInt32) (sum : UInt32) :
    onesFold (words.foldl csumAdd sum).toNat =
      onesFold (sum.toNat + (words.map UInt32.toNat).sum) := by
  induction words generalizing sum with
  | nil => rfl
  | cons word words ih =>
    rw [List.foldl_cons, ih, List.map_cons, List.sum_cons, onesFold_add, onesFold_csumAdd,
      ← onesFold_add, Nat.add_assoc]

/-- What `skb_checksum` has collected: what there was and all words. -/
theorem onesFold_skbChecksum (bytes : List UInt8) (sum : UInt32) :
    onesFold (skbChecksum bytes sum).toNat = onesFold (sum.toNat + wordSum bytes) := by
  have hwords : (be16Words bytes).map (UInt32.toNat ∘ UInt32.ofNat) = be16Words bytes := by
    refine (List.map_congr_left fun word hword ↦ ?_).trans (List.map_id _)
    have hle := be16Words_le bytes word hword
    rw [Function.comp_apply, UInt32.toNat_ofNat', id]
    omega
  rw [skbChecksum, onesFold_foldl_csumAdd, List.map_map, hwords, wordSum]

/-! ### One word among many -/

theorem sum_set_add {words : List ℕ} {k word : ℕ} (hword : words[k]? = some word) (c : ℕ) :
    (words.set k c).sum + word = words.sum + c := by
  induction words generalizing k with
  | nil => simp at hword
  | cons first words ih =>
    cases k with
    | zero =>
      obtain rfl : first = word := Option.some.inj hword
      rw [List.set_cons_zero, List.sum_cons, List.sum_cons]
      omega
    | succ k =>
      have hrest := ih (k := k) hword
      rw [List.set_cons_succ, List.sum_cons, List.sum_cons]
      omega

/-- Storing a word at an even offset puts it into the sum, in place of the one that was there. -/
theorem wordSum_writeAt {bytes : List UInt8} {k : ℕ} (hk : 2 * k + 2 ≤ bytes.length) (c : UInt16) :
    wordSum (writeAt bytes (2 * k) (be16 c)) + (be16At bytes (2 * k)).toNat =
      wordSum bytes + c.toNat := by
  rw [wordSum, be16Words_writeAt hk, sum_set_add (getElem?_be16Words hk), wordSum]

/-- Two words that a sum cannot tell apart: they are equal, or they are the two zeros. -/
def SameWord (a b : UInt16) : Prop := a = b ∨ a = 0 ∧ b = 0xffff ∨ a = 0xffff ∧ b = 0

instance (a b : UInt16) : Decidable (SameWord a b) := inferInstanceAs (Decidable (_ ∨ _))

theorem sameWord_iff (a b : UInt16) : SameWord a b ↔ a.toNat % 65535 = b.toNat % 65535 := by
  have ha := a.toNat_lt
  have hb := b.toNat_lt
  have hones : (0xffff : UInt16).toNat = 65535 := rfl
  rw [SameWord]
  simp only [← UInt16.toNat_inj, hones, UInt16.toNat_zero]
  omega

/-- A word that a sum counts any number of times without a common divisor with 65535: the sum stays
right only if the word in its place is the same to it. -/
theorem sum_replaced_iff {sum sum' : ℕ} (times : ℕ) (htimes : Nat.gcd 65535 times = 1)
    {old word : UInt16} (hsum : sum % 65535 = 0)
    (hreplaced : sum' + times * old.toNat = sum + times * word.toNat) :
    sum' % 65535 = 0 ↔ SameWord old word := by
  have hmul : sum' % 65535 = 0 ↔ times * old.toNat ≡ times * word.toNat [MOD 65535] := by
    rw [Nat.ModEq]
    generalize times * old.toNat = a at *
    generalize times * word.toNat = b at *
    omega
  rw [hmul, sameWord_iff]
  exact ⟨Nat.ModEq.cancel_left_of_coprime htimes, Nat.ModEq.mul_left times⟩

end KernelModules.Foundations
