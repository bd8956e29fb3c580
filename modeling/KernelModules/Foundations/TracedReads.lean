import KernelModules.Foundations.Bytes
import KernelModules.Foundations.Strings

/-!
# Which bytes a computation reads

A computation that reads memory, together with the offsets of the bytes it has read on the way. Its
value is what the same computation without a trace would answer, and `Within bound` says that every
byte it reads lies below `bound`. A byte that is overwritten (`writeBytes`) counts like one that is
read. A sequence of computations stays below a bound exactly if each of
them does, the later ones as the values of the earlier ones make them run (`within_bind_iff`). A
string is read up to and with the zero byte that ends it, wherever that is (`readString`).

How many bytes a comparison of two stretches of memory reads before it answers is up to its
implementation: `CompareExtent` says what all of them have in common.
-/

set_option autoImplicit false
set_option relaxedAutoImplicit false

namespace KernelModules.Foundations

universe u

/-- A value, and the offsets that were read to compute it. -/
structure Traced (α : Type u) where
  value : α
  reads : List ℕ

/-- How far a comparison reads in the memory it looks at: not past the bytes it is to find there,
and as far as that if it finds them. -/
structure CompareExtent where
  extent : List UInt8 → List UInt8 → ℕ
  extent_le : ∀ found wanted, extent found wanted ≤ wanted.length
  extent_self : ∀ bytes, extent bytes bytes = bytes.length

/-- A comparison that reads all the bytes it is to find. -/
def compareAll : CompareExtent where
  extent := fun _ wanted ↦ wanted.length
  extent_le := fun _ _ ↦ le_rfl
  extent_self := fun _ ↦ rfl

namespace Traced

variable {α β : Type u}

instance : Monad Traced where
  pure value := ⟨value, []⟩
  bind first next := ⟨(next first.value).value, first.reads ++ (next first.value).reads⟩

/-- Read a byte. -/
def readByte (mem : List UInt8) (i : ℕ) : Traced UInt8 := ⟨byteAt mem i, [i]⟩

/-- Read a 16-bit number in network order. -/
def readBe16 (mem : List UInt8) (i : ℕ) : Traced UInt16 := ⟨be16At mem i, [i, i + 1]⟩

/-- Read a 32-bit number in network order. -/
def readBe32 (mem : List UInt8) (i : ℕ) : Traced UInt32 :=
  ⟨be32At mem i, [i, i + 1, i + 2, i + 3]⟩

/-- Read a 16-bit number in little-endian order. -/
def readLe16 (mem : List UInt8) (i : ℕ) : Traced UInt16 := ⟨le16At mem i, [i, i + 1]⟩

/-- Read a 32-bit number in little-endian order. -/
def readLe32 (mem : List UInt8) (i : ℕ) : Traced UInt32 :=
  ⟨le32At mem i, [i, i + 1, i + 2, i + 3]⟩

/-- Read the bytes before the next zero, and the zero. -/
def readString (mem : List UInt8) (i : ℕ) : Traced (List UInt8) :=
  ⟨textUpTo 0 (mem.drop i), List.range' i ((textUpTo 0 (mem.drop i)).length + 1)⟩

/-- Copy the bytes from an offset on. -/
def readBytes (mem : List UInt8) (i count : ℕ) : Traced (List UInt8) :=
  ⟨bytesAt mem i count, List.range' i count⟩

/-- Overwrite memory from an offset on. -/
def writeBytes (mem : List UInt8) (i : ℕ) (bytes : List UInt8) : Traced (List UInt8) :=
  ⟨writeAt mem i bytes, List.range' i bytes.length⟩

/-- Compare the bytes from an offset on with others. -/
def compare (extent : CompareExtent) (mem : List UInt8) (i : ℕ) (wanted : List UInt8) :
    Traced Bool :=
  ⟨bytesAt mem i wanted.length = wanted,
    List.range' i (extent.extent (bytesAt mem i wanted.length) wanted)⟩

/-- Every byte that is read lies below a bound. -/
def Within (bound : ℕ) (computation : Traced α) : Prop := ∀ i ∈ computation.reads, i < bound

instance (bound : ℕ) (computation : Traced α) : Decidable (Within bound computation) :=
  inferInstanceAs (Decidable (∀ i ∈ computation.reads, i < bound))

@[simp] theorem value_pure (value : α) : (pure value : Traced α).value = value := rfl

@[simp] theorem value_bind (first : Traced α) (next : α → Traced β) :
    (first >>= next).value = (next first.value).value := rfl

@[simp] theorem value_readByte (mem : List UInt8) (i : ℕ) :
    (readByte mem i).value = byteAt mem i := rfl

@[simp] theorem value_readBe16 (mem : List UInt8) (i : ℕ) :
    (readBe16 mem i).value = be16At mem i := rfl

@[simp] theorem value_readBe32 (mem : List UInt8) (i : ℕ) :
    (readBe32 mem i).value = be32At mem i := rfl

@[simp] theorem value_readLe16 (mem : List UInt8) (i : ℕ) :
    (readLe16 mem i).value = le16At mem i := rfl

@[simp] theorem value_readLe32 (mem : List UInt8) (i : ℕ) :
    (readLe32 mem i).value = le32At mem i := rfl

@[simp] theorem value_readString (mem : List UInt8) (i : ℕ) :
    (readString mem i).value = textUpTo 0 (mem.drop i) := rfl

@[simp] theorem value_readBytes (mem : List UInt8) (i count : ℕ) :
    (readBytes mem i count).value = bytesAt mem i count := rfl

@[simp] theorem value_writeBytes (mem : List UInt8) (i : ℕ) (bytes : List UInt8) :
    (writeBytes mem i bytes).value = writeAt mem i bytes := rfl

@[simp] theorem value_compare (extent : CompareExtent) (mem : List UInt8) (i : ℕ)
    (wanted : List UInt8) : (compare extent mem i wanted).value =
      decide (bytesAt mem i wanted.length = wanted) := rfl

variable {bound : ℕ}

@[simp] theorem within_pure (value : α) : Within bound (pure value : Traced α) := by
  intro i hmem
  exact absurd hmem List.not_mem_nil

/-- A sequence of computations reads below a bound if each of them does. -/
theorem within_bind_iff (first : Traced α) (next : α → Traced β) :
    Within bound (first >>= next) ↔ Within bound first ∧ Within bound (next first.value) :=
  List.forall_mem_append

theorem within_readByte_iff (mem : List UInt8) (i : ℕ) :
    Within bound (readByte mem i) ↔ i + 1 ≤ bound := by
  simp only [Within, readByte, List.forall_mem_singleton]
  omega

theorem within_readBe16_iff (mem : List UInt8) (i : ℕ) :
    Within bound (readBe16 mem i) ↔ i + 2 ≤ bound := by
  simp only [Within, readBe16, List.forall_mem_cons, List.not_mem_nil, IsEmpty.forall_iff,
    implies_true, and_true]
  omega

theorem within_readBe32_iff (mem : List UInt8) (i : ℕ) :
    Within bound (readBe32 mem i) ↔ i + 4 ≤ bound := by
  simp only [Within, readBe32, List.forall_mem_cons, List.not_mem_nil, IsEmpty.forall_iff,
    implies_true, and_true]
  omega

theorem within_readLe16_iff (mem : List UInt8) (i : ℕ) :
    Within bound (readLe16 mem i) ↔ i + 2 ≤ bound := by
  have hreads : (readLe16 mem i).reads = (readBe16 mem i).reads := rfl
  rw [Within, hreads]
  exact within_readBe16_iff mem i

theorem within_readLe32_iff (mem : List UInt8) (i : ℕ) :
    Within bound (readLe32 mem i) ↔ i + 4 ≤ bound := by
  have hreads : (readLe32 mem i).reads = (readBe32 mem i).reads := rfl
  rw [Within, hreads]
  exact within_readBe32_iff mem i

/-- A stretch lies below a bound exactly if it ends there. An empty one is to start below it. -/
theorem forall_mem_range'_lt_iff {i count : ℕ} (hi : 0 < count ∨ i ≤ bound) :
    (∀ j ∈ List.range' i count, j < bound) ↔ i + count ≤ bound := by
  simp only [List.mem_range'_1]
  constructor
  · intro hall
    rcases Nat.eq_zero_or_pos count with rfl | hcount
    · exact hi.resolve_left (lt_irrefl 0)
    · have hlast := hall (i + (count - 1)) (by omega)
      omega
  · intro hle j hj
    omega

theorem within_readString_iff (mem : List UInt8) (i : ℕ) : Within bound (readString mem i) ↔
    i + ((textUpTo 0 (mem.drop i)).length + 1) ≤ bound :=
  forall_mem_range'_lt_iff (Or.inl (Nat.succ_pos _))

theorem within_readBytes_iff (mem : List UInt8) {i : ℕ} (hi : i ≤ bound) (count : ℕ) :
    Within bound (readBytes mem i count) ↔ i + count ≤ bound :=
  forall_mem_range'_lt_iff (Or.inr hi)

theorem within_writeBytes_iff (mem : List UInt8) (i : ℕ) (bytes : List UInt8) :
    Within bound (writeBytes mem i bytes) ↔ ∀ j ∈ List.range' i bytes.length, j < bound :=
  Iff.rfl

/-- A comparison that starts below a bound reads below it if its extent ends there. -/
theorem within_compare_iff (extent : CompareExtent) (mem : List UInt8) {i : ℕ} (hi : i ≤ bound)
    (wanted : List UInt8) : Within bound (compare extent mem i wanted) ↔
      i + extent.extent (bytesAt mem i wanted.length) wanted ≤ bound :=
  forall_mem_range'_lt_iff (Or.inr hi)

end Traced

end KernelModules.Foundations
