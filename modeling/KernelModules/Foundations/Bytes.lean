import Mathlib.Data.Nat.Bitwise
import Mathlib.Data.UInt
import Mathlib.Tactic.IntervalCases
import Mathlib.Tactic.SplitIfs

/-!
# Bytes in memory

Memory is a list of bytes from some address on. `byteAt` reads it, zero past the end of what is
modelled, and `writeAt` overwrites a stretch of it, dropping what would fall past the end. `be16`
and `be32` are numbers in network order, `be16At` and `be32At` read them back, and `le16`, `le32`,
`le16At` and `le32At` are the same for the order of a little-endian machine.

The lemmas come in two forms. `writeAt_append` and `writeAt_zero` compute on memory given as a
concatenation of fields; `byteAt_writeAt` says byte by byte what a write that straddles fields does.
-/

set_option autoImplicit false
set_option relaxedAutoImplicit false

namespace KernelModules.Foundations

/-- The byte at an offset, zero past the end. -/
def byteAt (mem : List UInt8) (i : ℕ) : UInt8 := mem.getD i 0

/-- The 16-bit number in network order at an offset. -/
def be16At (mem : List UInt8) (i : ℕ) : UInt16 :=
  UInt16.ofNat ((byteAt mem i).toNat * 256 + (byteAt mem (i + 1)).toNat)

/-- The 32-bit number in network order at an offset. -/
def be32At (mem : List UInt8) (i : ℕ) : UInt32 :=
  UInt32.ofNat ((byteAt mem i).toNat * 16777216 + (byteAt mem (i + 1)).toNat * 65536 +
    (byteAt mem (i + 2)).toNat * 256 + (byteAt mem (i + 3)).toNat)

/-- The bytes from an offset on. -/
def bytesAt (mem : List UInt8) (i count : ℕ) : List UInt8 :=
  (List.range count).map fun j ↦ byteAt mem (i + j)

/-- A 16-bit number in network order. -/
def be16 (v : UInt16) : List UInt8 := [(v >>> 8).toUInt8, v.toUInt8]

/-- A 32-bit number in network order. -/
def be32 (v : UInt32) : List UInt8 :=
  [(v >>> 24).toUInt8, (v >>> 16).toUInt8, (v >>> 8).toUInt8, v.toUInt8]

/-- The 16-bit number in little-endian order at an offset. -/
def le16At (mem : List UInt8) (i : ℕ) : UInt16 :=
  UInt16.ofNat ((byteAt mem i).toNat + (byteAt mem (i + 1)).toNat * 256)

/-- The 32-bit number in little-endian order at an offset. -/
def le32At (mem : List UInt8) (i : ℕ) : UInt32 :=
  UInt32.ofNat ((byteAt mem i).toNat + (byteAt mem (i + 1)).toNat * 256 +
    (byteAt mem (i + 2)).toNat * 65536 + (byteAt mem (i + 3)).toNat * 16777216)

/-- A 16-bit number in little-endian order. -/
def le16 (v : UInt16) : List UInt8 := [v.toUInt8, (v >>> 8).toUInt8]

/-- A 32-bit number in little-endian order. -/
def le32 (v : UInt32) : List UInt8 :=
  [v.toUInt8, (v >>> 8).toUInt8, (v >>> 16).toUInt8, (v >>> 24).toUInt8]

/-- Overwrite memory from an offset on. Bytes that fall past the end are lost. -/
def writeAt : List UInt8 → ℕ → List UInt8 → List UInt8
  | [], _, _ => []
  | mem, 0, [] => mem
  | _ :: mem, 0, b :: bytes => b :: writeAt mem 0 bytes
  | m :: mem, i + 1, bytes => m :: writeAt mem i bytes

/-! ### Reading -/

@[simp] theorem length_be16 (v : UInt16) : (be16 v).length = 2 := rfl

@[simp] theorem length_be32 (v : UInt32) : (be32 v).length = 4 := rfl

theorem byteAt_append_left {front : List UInt8} (rest : List UInt8) {i : ℕ}
    (hi : i < front.length) : byteAt (front ++ rest) i = byteAt front i := by
  simp [byteAt, List.getElem?_append_left hi]

theorem byteAt_append_right (front rest : List UInt8) (i : ℕ) :
    byteAt (front ++ rest) (front.length + i) = byteAt rest i := by
  simp [byteAt, List.getElem?_append_right]

theorem byteAt_last_eq_iff {byte : UInt8} (hbyte : byte ≠ 0) (bytes : List UInt8) :
    byteAt bytes (bytes.length - 1) = byte ↔ bytes.getLast? = some byte := by
  rw [byteAt, List.getD_eq_getElem?_getD, ← List.getLast?_eq_getElem?]
  cases bytes.getLast? with
  | none => simp [hbyte.symm]
  | some last => rw [Option.getD_some, Option.some_inj]

/-- Two stretches of memory with the same bytes. -/
theorem ext_byteAt {mem mem' : List UInt8} (hlength : mem.length = mem'.length)
    (hbytes : ∀ j < mem.length, byteAt mem j = byteAt mem' j) : mem = mem' := by
  refine List.ext_getElem hlength fun j hj hj' ↦ ?_
  have hbyte := hbytes j hj
  simpa [byteAt, hj, hj'] using hbyte

theorem byteAt_take {mem : List UInt8} {count j : ℕ} (hj : j < count) :
    byteAt (mem.take count) j = byteAt mem j := by
  simp [byteAt, hj]

theorem byteAt_drop (mem : List UInt8) (count j : ℕ) :
    byteAt (mem.drop count) j = byteAt mem (count + j) := by
  simp [byteAt]

theorem be16At_append_right (front rest : List UInt8) (i : ℕ) :
    be16At (front ++ rest) (front.length + i) = be16At rest i := by
  rw [be16At, be16At, Nat.add_assoc, byteAt_append_right, byteAt_append_right]

theorem be32At_append_right (front rest : List UInt8) (i : ℕ) :
    be32At (front ++ rest) (front.length + i) = be32At rest i := by
  simp only [be32At, Nat.add_assoc, byteAt_append_right]

/-- Reading back a field. -/
theorem bytesAt_append (front field rest : List UInt8) :
    bytesAt (front ++ (field ++ rest)) front.length field.length = field := by
  refine List.ext_getElem (by simp [bytesAt]) fun j hj hj' ↦ ?_
  simp only [bytesAt, List.getElem_map, List.getElem_range, byteAt_append_right]
  simp [byteAt, List.getElem?_append_left hj', hj']

@[simp] theorem length_bytesAt (mem : List UInt8) (i count : ℕ) :
    (bytesAt mem i count).length = count := by
  simp [bytesAt]

theorem byteAt_bytesAt (mem : List UInt8) (i : ℕ) {count j : ℕ} (hj : j < count) :
    byteAt (bytesAt mem i count) j = byteAt mem (i + j) := by
  simp [byteAt, bytesAt, hj]

/-- Bytes of bytes. -/
theorem bytesAt_bytesAt (mem : List UInt8) (i : ℕ) {n j count : ℕ} (hcount : j + count ≤ n) :
    bytesAt (bytesAt mem i n) j count = bytesAt mem (i + j) count := by
  refine List.map_congr_left fun k hk ↦ ?_
  rw [List.mem_range] at hk
  rw [byteAt_bytesAt _ _ (by omega), Nat.add_assoc]

theorem bytesAt_take {mem : List UInt8} {bound i count : ℕ} (hbound : i + count ≤ bound) :
    bytesAt (mem.take bound) i count = bytesAt mem i count := by
  refine List.map_congr_left fun j hj ↦ byteAt_take ?_
  rw [List.mem_range] at hj
  omega

theorem bytesAt_append_right (front rest : List UInt8) (i count : ℕ) :
    bytesAt (front ++ rest) (front.length + i) count = bytesAt rest i count := by
  refine List.map_congr_left fun j _ ↦ ?_
  rw [Nat.add_assoc, byteAt_append_right]

theorem bytesAt_self (mem : List UInt8) : bytesAt mem 0 mem.length = mem := by
  simpa using bytesAt_append [] mem []

/-- Reading back a 16-bit number in network order. -/
@[simp] theorem be16At_be16 (v : UInt16) (rest : List UInt8) : be16At (be16 v ++ rest) 0 = v := by
  have hv := v.toNat_lt
  rw [← UInt16.toNat_inj]
  simp only [be16At, be16, byteAt, List.cons_append, List.nil_append, List.getD_cons_zero,
    List.getD_cons_succ, UInt16.toNat_ofNat, UInt16.toNat_toUInt8, UInt16.toNat_shiftRight,
    Nat.shiftRight_eq_div_pow]
  norm_num
  omega

/-- Reading back a 32-bit number in network order. -/
@[simp] theorem be32At_be32 (v : UInt32) (rest : List UInt8) : be32At (be32 v ++ rest) 0 = v := by
  have hv := v.toNat_lt
  rw [← UInt32.toNat_inj]
  simp only [be32At, be32, byteAt, List.cons_append, List.nil_append, List.getD_cons_zero,
    List.getD_cons_succ, UInt32.toNat_ofNat, UInt32.toNat_toUInt8, UInt32.toNat_shiftRight,
    Nat.shiftRight_eq_div_pow]
  norm_num
  omega

theorem le32At_append_right (front rest : List UInt8) (i : ℕ) :
    le32At (front ++ rest) (front.length + i) = le32At rest i := by
  simp only [le32At, Nat.add_assoc, byteAt_append_right]

/-- Reading back a 32-bit number in little-endian order. -/
theorem le32At_le32 (v : UInt32) (rest : List UInt8) : le32At (le32 v ++ rest) 0 = v := by
  have hv := v.toNat_lt
  rw [← UInt32.toNat_inj]
  simp only [le32At, le32, byteAt, List.cons_append, List.nil_append, List.getD_cons_zero,
    List.getD_cons_succ, UInt32.toNat_ofNat, UInt32.toNat_toUInt8, UInt32.toNat_shiftRight,
    Nat.shiftRight_eq_div_pow]
  norm_num
  omega

/-- A 32-bit number is determined by its bytes. -/
theorem toNat_be32At (mem : List UInt8) (i : ℕ) :
    (be32At mem i).toNat = (byteAt mem i).toNat * 16777216 + (byteAt mem (i + 1)).toNat * 65536 +
      (byteAt mem (i + 2)).toNat * 256 + (byteAt mem (i + 3)).toNat := by
  have h0 := (byteAt mem i).toNat_lt
  have h1 := (byteAt mem (i + 1)).toNat_lt
  have h2 := (byteAt mem (i + 2)).toNat_lt
  have h3 := (byteAt mem (i + 3)).toNat_lt
  rw [be32At, UInt32.toNat_ofNat']
  omega

/-- A single bit, by division. -/
theorem and_bit_eq_zero (x k : ℕ) : x &&& 2 ^ k = 0 ↔ x / 2 ^ k % 2 = 0 := by
  rw [Nat.and_two_pow, Nat.testBit_eq_decide_div_mod_eq]
  rcases Nat.mod_two_eq_zero_or_one (x / 2 ^ k) with hbit | hbit
  · simp [hbit]
  · simp [hbit]

/-- The second highest bit of a 32-bit number is that of its first byte. -/
theorem be32At_and_bit30 (mem : List UInt8) (i : ℕ) :
    be32At mem i &&& 0x40000000 = 0 ↔ byteAt mem i &&& 0x40 = 0 := by
  have h1 := (byteAt mem (i + 1)).toNat_lt
  have h2 := (byteAt mem (i + 2)).toNat_lt
  have h3 := (byteAt mem (i + 3)).toNat_lt
  have hword := and_bit_eq_zero (be32At mem i).toNat 30
  have hbyte := and_bit_eq_zero (byteAt mem i).toNat 6
  rw [← UInt32.toNat_inj, ← UInt8.toNat_inj, UInt32.toNat_and, UInt8.toNat_and]
  change (be32At mem i).toNat &&& 2 ^ 30 = 0 ↔ (byteAt mem i).toNat &&& 2 ^ 6 = 0
  rw [hword, hbyte, toNat_be32At]
  omega

/-- The lower three bytes of a 32-bit number. -/
theorem toNat_be32At_and_ffffff (mem : List UInt8) (i : ℕ) :
    (be32At mem i &&& 0x00ffffff).toNat = (byteAt mem (i + 1)).toNat * 65536 +
      (byteAt mem (i + 2)).toNat * 256 + (byteAt mem (i + 3)).toNat := by
  have h1 := (byteAt mem (i + 1)).toNat_lt
  have h2 := (byteAt mem (i + 2)).toNat_lt
  have h3 := (byteAt mem (i + 3)).toNat_lt
  have hmask : (be32At mem i &&& 0x00ffffff).toNat = (be32At mem i).toNat % 2 ^ 24 := by
    rw [UInt32.toNat_and]
    exact Nat.and_two_pow_sub_one_eq_mod _ 24
  rw [hmask, toNat_be32At]
  omega

/-- Two 32-bit numbers agree in their lower three bytes. -/
theorem be32At_and_ffffff_eq_iff (mem mem' : List UInt8) (i i' : ℕ) :
    be32At mem i &&& 0x00ffffff = be32At mem' i' &&& 0x00ffffff ↔
      byteAt mem (i + 1) = byteAt mem' (i' + 1) ∧ byteAt mem (i + 2) = byteAt mem' (i' + 2) ∧
        byteAt mem (i + 3) = byteAt mem' (i' + 3) := by
  have h1 := (byteAt mem (i + 1)).toNat_lt
  have h2 := (byteAt mem (i + 2)).toNat_lt
  have h3 := (byteAt mem (i + 3)).toNat_lt
  have h1' := (byteAt mem' (i' + 1)).toNat_lt
  have h2' := (byteAt mem' (i' + 2)).toNat_lt
  have h3' := (byteAt mem' (i' + 3)).toNat_lt
  simp only [← UInt32.toNat_inj, ← UInt8.toNat_inj, toNat_be32At_and_ffffff]
  omega

/-! ### Writing -/

@[simp] theorem writeAt_nil_bytes (mem : List UInt8) (i : ℕ) : writeAt mem i [] = mem := by
  induction mem generalizing i with
  | nil => rfl
  | cons m mem ih =>
    cases i with
    | zero => rfl
    | succ i => rw [writeAt, ih]

@[simp] theorem length_writeAt (mem : List UInt8) (i : ℕ) (bytes : List UInt8) :
    (writeAt mem i bytes).length = mem.length := by
  induction mem generalizing i bytes with
  | nil => rfl
  | cons m mem ih =>
    cases i with
    | zero =>
      cases bytes with
      | nil => rfl
      | cons b bytes => simp [writeAt, ih]
    | succ i => simp [writeAt, ih]

/-- A write behind a field leaves the field alone. -/
theorem writeAt_append (front mem : List UInt8) (i : ℕ) (bytes : List UInt8) :
    writeAt (front ++ mem) (front.length + i) bytes = front ++ writeAt mem i bytes := by
  induction front with
  | nil => simp
  | cons m front ih =>
    rw [List.cons_append, List.length_cons, Nat.add_right_comm, writeAt, ih, List.cons_append]

/-- A write of the length of the field replaces the field. -/
theorem writeAt_zero {old bytes : List UInt8} (mem : List UInt8)
    (hlength : old.length = bytes.length) : writeAt (old ++ mem) 0 bytes = bytes ++ mem := by
  induction bytes generalizing old with
  | nil => rw [List.length_nil, List.length_eq_zero_iff] at hlength; simp [hlength]
  | cons b bytes ih =>
    cases old with
    | nil => simp at hlength
    | cons m old =>
      rw [List.cons_append, writeAt, ih (by simpa using hlength), List.cons_append]

/-- A write to the start of memory. -/
theorem writeAt_start {mem bytes : List UInt8} (hlength : bytes.length ≤ mem.length) :
    writeAt mem 0 bytes = bytes ++ mem.drop bytes.length := by
  have hold : (mem.take bytes.length).length = bytes.length := List.length_take_of_le hlength
  have hwrite := writeAt_zero (mem.drop bytes.length) hold
  rwa [List.take_append_drop] at hwrite

/-- What a write does, byte by byte. -/
theorem byteAt_writeAt (mem : List UInt8) (i : ℕ) (bytes : List UInt8) (j : ℕ) :
    byteAt (writeAt mem i bytes) j =
      if i ≤ j ∧ j < i + bytes.length ∧ j < mem.length then byteAt bytes (j - i)
      else byteAt mem j := by
  induction mem generalizing i bytes j with
  | nil => simp [writeAt]
  | cons m mem ih =>
    cases i with
    | zero =>
      cases bytes with
      | nil => simp
      | cons b bytes =>
        cases j with
        | zero => simp [writeAt, byteAt]
        | succ j =>
          have hrest := ih 0 bytes j
          simp only [byteAt, writeAt, List.getD_cons_succ, List.length_cons, Nat.zero_le, true_and,
            Nat.zero_add, Nat.sub_zero, Nat.add_lt_add_iff_right] at hrest ⊢
          exact hrest
    | succ i =>
      cases j with
      | zero => simp [writeAt, byteAt]
      | succ j =>
        have hrest := ih i bytes j
        simp only [byteAt, writeAt, List.getD_cons_succ, List.length_cons, Nat.add_le_add_iff_right,
          Nat.add_lt_add_iff_right, Nat.add_right_comm i 1, Nat.add_sub_add_right] at hrest ⊢
        exact hrest

/-- Two writes side by side are one write. -/
theorem writeAt_writeAt (mem : List UInt8) (i : ℕ) (first second : List UInt8) :
    writeAt (writeAt mem i first) (i + first.length) second = writeAt mem i (first ++ second) := by
  refine ext_byteAt (by simp) fun j hj ↦ ?_
  rw [length_writeAt, length_writeAt] at hj
  rw [byteAt_writeAt, byteAt_writeAt, byteAt_writeAt, length_writeAt, List.length_append]
  by_cases hfirst : j < i + first.length
  · rw [if_neg (by omega)]
    by_cases hi : i ≤ j
    · rw [if_pos (by omega), if_pos (by omega), byteAt_append_left _ (by omega)]
    · rw [if_neg (by omega), if_neg (by omega)]
  · rw [if_neg (by omega : ¬(i ≤ j ∧ j < i + first.length ∧ j < mem.length))]
    by_cases hsecond : j < i + (first.length + second.length)
    · rw [if_pos (by omega), if_pos (by omega),
        show j - i = first.length + (j - (i + first.length)) by omega, byteAt_append_right]
    · rw [if_neg (by omega), if_neg (by omega)]

/-- A write that another one of the same length covers. -/
theorem writeAt_writeAt_same (mem : List UInt8) (i : ℕ) {first second : List UInt8}
    (hlength : first.length = second.length) :
    writeAt (writeAt mem i first) i second = writeAt mem i second := by
  refine ext_byteAt (by simp) fun j hj ↦ ?_
  rw [byteAt_writeAt, byteAt_writeAt, byteAt_writeAt, length_writeAt, hlength]
  split_ifs <;> rfl

/-- Bytes that a write has not touched. -/
theorem bytesAt_writeAt_of_disjoint (mem : List UInt8) {i : ℕ} {bytes : List UInt8} {j count : ℕ}
    (hdisjoint : j + count ≤ i ∨ i + bytes.length ≤ j) :
    bytesAt (writeAt mem i bytes) j count = bytesAt mem j count := by
  refine List.map_congr_left fun k hk ↦ ?_
  rw [List.mem_range] at hk
  rw [byteAt_writeAt, if_neg (by omega)]

/-- Bytes of a write that lie within the memory, read back. -/
theorem bytesAt_writeAt_within {mem : List UInt8} {i : ℕ} {bytes : List UInt8} {j count : ℕ}
    (hmem : i + j + count ≤ mem.length) (hcount : j + count ≤ bytes.length) :
    bytesAt (writeAt mem i bytes) (i + j) count = bytesAt bytes j count := by
  refine List.map_congr_left fun k hk ↦ ?_
  rw [List.mem_range] at hk
  rw [byteAt_writeAt, if_pos (by omega), show i + j + k - i = j + k by omega]

/-- Bytes of a write, read back. -/
theorem bytesAt_writeAt_of_le {mem : List UInt8} {i : ℕ} {bytes : List UInt8} {j count : ℕ}
    (hmem : i + bytes.length ≤ mem.length) (hcount : j + count ≤ bytes.length) :
    bytesAt (writeAt mem i bytes) (i + j) count = bytesAt bytes j count :=
  bytesAt_writeAt_within (by omega) hcount

/-- A write inside a stretch of memory is a write in the stretch. -/
theorem bytesAt_writeAt_shift {mem : List UInt8} {i count : ℕ} (hmem : i + count ≤ mem.length)
    (j : ℕ) (bytes : List UInt8) :
    bytesAt (writeAt mem (i + j) bytes) i count = writeAt (bytesAt mem i count) j bytes := by
  refine ext_byteAt (by simp) fun k hk ↦ ?_
  rw [length_bytesAt] at hk
  rw [byteAt_bytesAt _ _ hk, byteAt_writeAt, byteAt_writeAt, length_bytesAt, byteAt_bytesAt _ _ hk]
  by_cases hin : j ≤ k ∧ k < j + bytes.length
  · rw [if_pos (by omega), if_pos (by omega), show i + k - (i + j) = k - j by omega]
  · rw [if_neg (by omega), if_neg (by omega)]

/-- A number that a write has not touched. -/
theorem be16At_writeAt_of_disjoint (mem : List UInt8) {i : ℕ} {bytes : List UInt8} {j : ℕ}
    (hdisjoint : j + 2 ≤ i ∨ i + bytes.length ≤ j) :
    be16At (writeAt mem i bytes) j = be16At mem j := by
  rw [be16At, be16At, byteAt_writeAt, byteAt_writeAt, if_neg (by omega), if_neg (by omega)]

/-- A number that has been written, read back. -/
theorem be16At_writeAt_be16 {mem : List UInt8} {i : ℕ} (hmem : i + 2 ≤ mem.length) (v : UInt16) :
    be16At (writeAt mem i (be16 v)) i = v := by
  have hread : be16At (be16 v) 0 = v := by simpa using be16At_be16 v []
  rw [be16At, byteAt_writeAt, byteAt_writeAt, length_be16, if_pos (by omega), if_pos (by omega),
    Nat.sub_self, Nat.add_sub_cancel_left]
  exact hread

/-! ### Where writes stay -/

/-- A function on memory changes nothing from `bound` on. -/
def WritesBelow (bound : ℕ) (f : List UInt8 → List UInt8) : Prop :=
  ∀ mem j, bound ≤ j → byteAt (f mem) j = byteAt mem j

theorem writesBelow_writeAt {bound i : ℕ} {bytes : List UInt8} (hbound : i + bytes.length ≤ bound) :
    WritesBelow bound fun mem ↦ writeAt mem i bytes := by
  intro mem j hj
  rw [byteAt_writeAt, if_neg (by omega)]

theorem WritesBelow.mono {bound bound' : ℕ} {f : List UInt8 → List UInt8} (hf : WritesBelow bound f)
    (hle : bound ≤ bound') : WritesBelow bound' f :=
  fun mem j hj ↦ hf mem j (hle.trans hj)

theorem WritesBelow.comp {bound : ℕ} {f g : List UInt8 → List UInt8} (hg : WritesBelow bound g)
    (hf : WritesBelow bound f) : WritesBelow bound fun mem ↦ g (f mem) :=
  fun mem j hj ↦ (hg (f mem) j hj).trans (hf mem j hj)

/-- A last write that goes past the bound is noticed, on some memory. -/
theorem not_writesBelow_writeAt {bound i : ℕ} {bytes : List UInt8} {f : List UInt8 → List UInt8}
    (hlength : ∀ mem, (f mem).length = mem.length) (hbytes : 0 < bytes.length)
    (hbound : bound < i + bytes.length) :
    ¬ WritesBelow bound fun mem ↦ writeAt (f mem) i bytes := by
  intro hwrites
  have hlast : ∀ fill : UInt8, byteAt bytes (bytes.length - 1) = fill := by
    intro fill
    have hbyte := hwrites (List.replicate (i + bytes.length) fill) (i + bytes.length - 1) (by omega)
    rw [byteAt_writeAt, hlength, List.length_replicate, if_pos (by omega),
      show i + bytes.length - 1 - i = bytes.length - 1 by omega] at hbyte
    rw [hbyte, byteAt, List.getD_replicate (h := by omega)]
  exact absurd ((hlast 0).symm.trans (hlast 1)) (by decide)

end KernelModules.Foundations
