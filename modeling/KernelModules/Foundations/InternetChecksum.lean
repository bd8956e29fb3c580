import KernelModules.Foundations.Bytes

/-!
# The Internet checksum

The checksum of IP and ICMP headers is the complement of the sum of their 16-bit words, with the
carry added back at the low end. `onesAdd` is that addition on numbers of 16 bits; it commutes and
associates, so that a sum does not depend on where a word stands (`onesSum_set`). A stretch of bytes
is valid if its words sum up to all ones (`CsumValid`), and that is what storing the checksum into a
field that was zero brings about (`csumValid_writeAt`).
-/

set_option autoImplicit false
set_option relaxedAutoImplicit false

namespace KernelModules.Foundations

/-! ### Sums with the carry added back -/

/-- Addition of 16-bit numbers with the carry added back. -/
def onesAdd (a b : ℕ) : ℕ := if 65535 < a + b then a + b - 65535 else a + b

/-- The sum of 16-bit words. -/
def onesSum (words : List ℕ) : ℕ := words.foldr onesAdd 0

theorem onesAdd_le {a b : ℕ} (ha : a ≤ 65535) (hb : b ≤ 65535) : onesAdd a b ≤ 65535 := by
  rw [onesAdd]
  split_ifs <;> omega

theorem onesAdd_left_comm {a b c : ℕ} (ha : a ≤ 65535) (hb : b ≤ 65535) (hc : c ≤ 65535) :
    onesAdd a (onesAdd b c) = onesAdd b (onesAdd a c) := by
  simp only [onesAdd]
  split_ifs <;> omega

theorem onesAdd_zero_left {a : ℕ} (ha : a ≤ 65535) : onesAdd 0 a = a := by
  rw [onesAdd]
  split_ifs <;> omega

/-- A number and its complement sum up to all ones. -/
theorem onesAdd_complement {a : ℕ} (ha : a ≤ 65535) : onesAdd (65535 - a) a = 65535 := by
  rw [onesAdd]
  split_ifs <;> omega

theorem onesSum_le {words : List ℕ} (hwords : ∀ word ∈ words, word ≤ 65535) :
    onesSum words ≤ 65535 := by
  induction words with
  | nil => exact Nat.zero_le _
  | cons word words ih =>
    rw [List.forall_mem_cons] at hwords
    exact onesAdd_le hwords.1 (ih hwords.2)

/-- A word that takes the place of a zero is added to the sum, wherever it stands. -/
theorem onesSum_set {words : List ℕ} (hwords : ∀ word ∈ words, word ≤ 65535) {k : ℕ}
    (hzero : words[k]? = some 0) {c : ℕ} (hc : c ≤ 65535) :
    onesSum (words.set k c) = onesAdd c (onesSum words) := by
  induction words generalizing k with
  | nil => simp at hzero
  | cons word words ih =>
    rw [List.forall_mem_cons] at hwords
    have hsum := onesSum_le hwords.2
    cases k with
    | zero =>
      obtain rfl : word = 0 := Option.some.inj hzero
      change onesAdd c (onesSum words) = onesAdd c (onesAdd 0 (onesSum words))
      rw [onesAdd_zero_left hsum]
    | succ k =>
      change onesAdd word (onesSum (words.set k c)) = onesAdd c (onesAdd word (onesSum words))
      rw [ih hwords.2 hzero, onesAdd_left_comm hwords.1 hc hsum]

/-! ### Words of bytes -/

/-- The 16-bit words of a stretch of bytes, in network order, the last one filled up with zero. -/
def be16Words : List UInt8 → List ℕ
  | [] => []
  | [high] => [high.toNat * 256]
  | high :: low :: bytes => (high.toNat * 256 + low.toNat) :: be16Words bytes

/-- `ip_compute_csum`. -/
def ipComputeCsum (bytes : List UInt8) : UInt16 := UInt16.ofNat (65535 - onesSum (be16Words bytes))

/-- The words of a stretch of bytes, with the checksum among them, sum up to all ones. -/
def CsumValid (bytes : List UInt8) : Prop := onesSum (be16Words bytes) = 65535

instance (bytes : List UInt8) : Decidable (CsumValid bytes) :=
  inferInstanceAs (Decidable (_ = _))

theorem be16Words_le (bytes : List UInt8) : ∀ word ∈ be16Words bytes, word ≤ 65535 := by
  induction bytes using be16Words.induct with
  | case1 => simp [be16Words]
  | case2 high =>
    have hhigh := high.toNat_lt
    simp only [be16Words, List.forall_mem_singleton]
    omega
  | case3 high low bytes ih =>
    have hhigh := high.toNat_lt
    have hlow := low.toNat_lt
    simp only [be16Words, List.forall_mem_cons]
    exact ⟨by omega, ih⟩

theorem getElem?_be16Words {bytes : List UInt8} {k : ℕ} (hk : 2 * k + 2 ≤ bytes.length) :
    (be16Words bytes)[k]? = some (be16At bytes (2 * k)).toNat := by
  induction bytes using be16Words.induct generalizing k with
  | case1 => simp at hk
  | case2 high => simp at hk
  | case3 high low bytes ih =>
    cases k with
    | zero =>
      have hhigh := high.toNat_lt
      have hlow := low.toNat_lt
      simp [be16Words, be16At, byteAt]
      omega
    | succ k =>
      have hrest := ih (k := k) (by simp only [List.length_cons] at hk; omega)
      have hskip : be16At (high :: low :: bytes) (2 + 2 * k) = be16At bytes (2 * k) :=
        be16At_append_right [high, low] bytes (2 * k)
      rw [be16Words, List.getElem?_cons_succ, hrest, Nat.mul_succ, Nat.add_comm, hskip]

theorem be16Words_be16_append (c : UInt16) (bytes : List UInt8) :
    be16Words (be16 c ++ bytes) = c.toNat :: be16Words bytes := by
  have hfirst := getElem?_be16Words (k := 0) (by simp : 2 * 0 + 2 ≤ (be16 c ++ bytes).length)
  rw [Nat.mul_zero, be16At_be16] at hfirst
  rw [be16, List.cons_append, List.cons_append, List.nil_append, be16Words] at hfirst ⊢
  rw [List.getElem?_cons_zero, Option.some.injEq] at hfirst
  rw [hfirst]

/-- Storing a word at an even offset changes one word. -/
theorem be16Words_writeAt {bytes : List UInt8} {k : ℕ} (hk : 2 * k + 2 ≤ bytes.length)
    (c : UInt16) :
    be16Words (writeAt bytes (2 * k) (be16 c)) = (be16Words bytes).set k c.toNat := by
  induction bytes using be16Words.induct generalizing k with
  | case1 => simp at hk
  | case2 high => simp at hk
  | case3 high low bytes ih =>
    cases k with
    | zero =>
      have hlength : [high, low].length = (be16 c).length := rfl
      have hwrite : writeAt (high :: low :: bytes) (2 * 0) (be16 c) = be16 c ++ bytes :=
        writeAt_zero bytes hlength
      rw [hwrite, be16Words_be16_append, be16Words, List.set_cons_zero]
    | succ k =>
      have hrest := ih (k := k) (by simp only [List.length_cons] at hk; omega)
      have hwrite : writeAt (high :: low :: bytes) (2 * (k + 1)) (be16 c) =
          high :: low :: writeAt bytes (2 * k) (be16 c) := rfl
      rw [hwrite, be16Words, hrest, be16Words, List.set_cons_succ]

/-- Storing the checksum into a field that is zero makes a stretch of bytes valid. -/
theorem csumValid_writeAt {bytes : List UInt8} {k : ℕ} (hk : 2 * k + 2 ≤ bytes.length)
    (hzero : be16At bytes (2 * k) = 0) :
    CsumValid (writeAt bytes (2 * k) (be16 (ipComputeCsum bytes))) := by
  have hsum := onesSum_le (be16Words_le bytes)
  have hcsum : (ipComputeCsum bytes).toNat = 65535 - onesSum (be16Words bytes) := by
    rw [ipComputeCsum, UInt16.toNat_ofNat']
    omega
  have hfield : (be16Words bytes)[k]? = some 0 := by
    rw [getElem?_be16Words hk, hzero]
    rfl
  rw [CsumValid, be16Words_writeAt hk, hcsum,
    onesSum_set (be16Words_le bytes) hfield (Nat.sub_le _ _), onesAdd_complement hsum]

/-- The same for a stretch of memory. -/
theorem csumValid_bytesAt_writeAt {mem : List UInt8} {i count k : ℕ} (hmem : i + count ≤ mem.length)
    (hk : 2 * k + 2 ≤ count) (hzero : be16At mem (i + 2 * k) = 0) :
    CsumValid (bytesAt (writeAt mem (i + 2 * k) (be16 (ipComputeCsum (bytesAt mem i count)))) i
      count) := by
  rw [bytesAt_writeAt_shift hmem]
  refine csumValid_writeAt (by rwa [length_bytesAt]) ?_
  rw [be16At, byteAt_bytesAt _ _ (by omega), byteAt_bytesAt _ _ (by omega), ← Nat.add_assoc]
  exact hzero

end KernelModules.Foundations
