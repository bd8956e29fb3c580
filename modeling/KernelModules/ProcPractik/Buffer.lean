import KernelModules.Foundations.Runs
import KernelModules.Foundations.TracedReads

/-!
# The buffer of the practice proc file

The file keeps a text of at most `bufSize` bytes with the zero that ends it. A write copies the
caller's bytes to the file position and puts a zero behind them, a read returns bytes from the file
position on. Memory is a list of bytes from the start of `ourBuffer` on, and goes on behind it.

`practik_write` makes room for the bytes but not for the zero, and `practik_read` looks for the end
of the file in the reader's own buffer. A call stays inside the buffer, and inside the text, exactly
if it is `Guarded`: a write ends before the last byte of the buffer, and a read from behind the text
is taken for the end of the file or asks for nothing. `safe_iff_guarded` says this of whole runs.
-/

set_option autoImplicit false
set_option relaxedAutoImplicit false

namespace KernelModules.ProcPractik

open Foundations Foundations.Traced

/-- `BUF_SIZE`. -/
def bufSize : ℕ := 512

/-- The text "Hello world". -/
def helloWorld : List UInt8 :=
  [0x48, 0x65, 0x6c, 0x6c, 0x6f, 0x20, 0x77, 0x6f, 0x72, 0x6c, 0x64]

/-- `ourBuffer` when the module is loaded, and the memory behind it. -/
def ourBuffer (behind : List UInt8) : List UInt8 :=
  helloWorld ++ List.replicate (bufSize - helloWorld.length) 0 ++ behind

/-- A file position, `loff_t`, that is not negative. -/
structure Position where
  bits : UInt64
  nonneg : bits.toNat < 2 ^ 63

/-- A call of `practik_write`, with the memory of the caller from `buffer` on. -/
structure WriteCall where
  buffer : ℕ → UInt8
  count : UInt64
  ppos : Position

/-- A call of `practik_read`. Of the reader's buffer it is `strlen` that matters. -/
structure ReadCall where
  strlenBuffer : UInt64
  count : UInt64
  ppos : Position

/-- What a read returns: the indices of `ourBuffer` whose bytes it copies, and the new position. -/
structure ReadAnswer where
  copied : List ℕ
  ppos : UInt64

/-- The number of bytes that `practik_write` copies. The sum wraps at 64 bits, and the result is
stored in 32. -/
def writeLen (call : WriteCall) : UInt32 :=
  (if call.count + call.ppos.bits > UInt64.ofNat bufSize - 1 then
    UInt64.ofNat bufSize - call.ppos.bits else call.count).toUInt32

/-- `practik_write`: the memory after it, and the number it returns. -/
def practikWrite (mem : List UInt8) (call : WriteCall) : Traced (List UInt8 × UInt32) := do
  let len := writeLen call
  let mem ← writeBytes mem call.ppos.bits.toNat ((List.range len.toNat).map call.buffer)
  let mem ← writeBytes mem (len.toUInt64 + call.ppos.bits).toNat [0]
  pure (mem, len)

/-- The number of bytes that `practik_read` copies from a text of some length. The difference is
unsigned. -/
def readCount (strlen : ℕ) (call : ReadCall) : UInt64 :=
  let left := UInt64.ofNat strlen - call.ppos.bits
  if call.count > left then left else call.count

/-- `practik_read`. -/
def practikRead (mem : List UInt8) (call : ReadCall) : Traced ReadAnswer :=
  if call.ppos.bits > call.strlenBuffer then pure { copied := [], ppos := 0 }
  else do
    let text ← readString mem 0
    let count := readCount text.length call
    let _ ← readBytes mem call.ppos.bits.toNat count.toNat
    pure
      { copied := List.range' call.ppos.bits.toNat count.toNat
        ppos := call.ppos.bits + count }

/-- The calls that the file serves. -/
inductive Call
  | write (call : WriteCall)
  | read (call : ReadCall)

/-- The memory after a call. -/
def step (mem : List UInt8) : Call → List UInt8
  | .write call => (practikWrite mem call).value.1
  | .read _ => mem

/-! ### What is to hold of a call -/

/-- There is a zero in the buffer. -/
def Terminated (mem : List UInt8) : Prop :=
  bufSize ≤ mem.length ∧ ∃ i < bufSize, byteAt mem i = 0

/-- A call touches the buffer only. A write leaves a zero in it, and what a read returns is part of
the text before the zero. -/
def Safe (mem : List UInt8) : Call → Prop
  | .write call => Within bufSize (practikWrite mem call) ∧
      ∃ i < bufSize, byteAt (practikWrite mem call).value.1 i = 0
  | .read call => Within bufSize (practikRead mem call) ∧
      ∀ i ∈ (practikRead mem call).value.copied, i < (textUpTo 0 mem).length

/-- The bytes of a write and the zero behind them fit. A read begins inside the text or at its end,
unless it is answered with the end of the file or asks for nothing. -/
def Guarded (mem : List UInt8) : Call → Prop
  | .write call => call.ppos.bits.toNat + call.count.toNat < bufSize
  | .read call => call.strlenBuffer < call.ppos.bits ∨
      call.ppos.bits.toNat ≤ (textUpTo 0 mem).length ∨ call.count = 0

/-! ### Writing -/

/-- The place of the zero, as a number. -/
theorem toNat_place (call : WriteCall) :
    ((writeLen call).toUInt64 + call.ppos.bits).toNat =
      (writeLen call).toNat + call.ppos.bits.toNat := by
  have hlen := (writeLen call).toNat_lt
  have hpos := call.ppos.nonneg
  rw [UInt64.toNat_add, UInt32.toNat_toUInt64]
  exact Nat.mod_eq_of_lt (by omega)

/-- A write that fits copies all its bytes. -/
theorem writeLen_of_fits {call : WriteCall}
    (hfits : call.ppos.bits.toNat + call.count.toNat < bufSize) :
    (writeLen call).toNat = call.count.toNat := by
  unfold bufSize at hfits
  have hsum : (call.count + call.ppos.bits).toNat = call.count.toNat + call.ppos.bits.toNat := by
    rw [UInt64.toNat_add]
    exact Nat.mod_eq_of_lt (by omega)
  have hclip : ¬call.count + call.ppos.bits > UInt64.ofNat bufSize - 1 := by
    have hbound : (UInt64.ofNat bufSize - 1).toNat = 511 := rfl
    rw [gt_iff_lt, UInt64.lt_iff_toNat_lt, hbound, hsum]
    omega
  rw [writeLen, if_neg hclip, UInt64.toNat_toUInt32]
  exact Nat.mod_eq_of_lt (by omega)

/-- A write that does not fit puts its zero behind the buffer. -/
theorem bufSize_le_place {call : WriteCall}
    (hlong : bufSize ≤ call.ppos.bits.toNat + call.count.toNat) :
    bufSize ≤ (writeLen call).toNat + call.ppos.bits.toNat := by
  unfold bufSize at hlong ⊢
  have hcount := call.count.toNat_lt
  by_cases hpos : 512 ≤ call.ppos.bits.toNat
  · omega
  · have hsum : (call.count + call.ppos.bits).toNat =
        (call.count.toNat + call.ppos.bits.toNat) % 2 ^ 64 := UInt64.toNat_add _ _
    have hbound : (UInt64.ofNat bufSize - 1).toNat = 511 := rfl
    unfold writeLen
    split_ifs with hclip
    · -- the clamp makes room for the bytes up to the end of the buffer
      have hleft : (UInt64.ofNat bufSize - call.ppos.bits).toNat = 512 - call.ppos.bits.toNat :=
        UInt64.toNat_sub_of_le _ _ (UInt64.le_iff_toNat_le.mpr (by
          have hsize : (UInt64.ofNat bufSize).toNat = 512 := rfl
          omega))
      rw [UInt64.toNat_toUInt32, hleft]
      omega
    · -- the sum has wrapped, so the count is close to 2⁶⁴
      rw [gt_iff_lt, UInt64.lt_iff_toNat_lt, hbound, hsum] at hclip
      rw [UInt64.toNat_toUInt32]
      omega

theorem within_practikWrite_iff (mem : List UInt8) (call : WriteCall) :
    Within bufSize (practikWrite mem call) ↔
      call.ppos.bits.toNat + call.count.toNat < bufSize := by
  have hplace := toNat_place call
  have htouched : Within bufSize (practikWrite mem call) ↔
      (∀ j ∈ List.range' call.ppos.bits.toNat (writeLen call).toNat, j < bufSize) ∧
        (writeLen call).toNat + call.ppos.bits.toNat < bufSize := by
    rw [practikWrite, within_bind_iff, within_bind_iff, within_writeBytes_iff,
      within_writeBytes_iff]
    simp only [within_pure, and_true, List.length_map, List.length_range, List.length_singleton,
      List.range'_one, List.forall_mem_singleton, hplace]
  rw [htouched]
  constructor
  · rintro ⟨-, hzero⟩
    by_contra hlong
    exact absurd (bufSize_le_place (Nat.le_of_not_lt hlong)) (Nat.not_le.mpr hzero)
  · intro hfits
    rw [writeLen_of_fits hfits]
    refine ⟨fun j hj ↦ ?_, by omega⟩
    rw [List.mem_range'_1] at hj
    omega

/-- A write that fits leaves its zero in the buffer. -/
theorem terminated_practikWrite {mem : List UInt8} {call : WriteCall} (hsize : bufSize ≤ mem.length)
    (hfits : call.ppos.bits.toNat + call.count.toNat < bufSize) :
    Terminated (practikWrite mem call).value.1 := by
  refine ⟨by simpa [practikWrite] using hsize,
    (writeLen call).toNat + call.ppos.bits.toNat, ?_, ?_⟩
  · rw [writeLen_of_fits hfits]
    omega
  · simp only [practikWrite, value_bind, value_writeBytes, value_pure, toNat_place]
    rw [byteAt_writeAt, if_pos, Nat.sub_self]
    · rfl
    · rw [length_writeAt, writeLen_of_fits hfits, List.length_singleton]
      omega

/-! ### Reading -/

theorem length_text_lt {mem : List UInt8} (hterminated : Terminated mem) :
    (textUpTo 0 mem).length < bufSize := by
  obtain ⟨hsize, i, hi, hzero⟩ := hterminated
  have hlength : i < (mem.take bufSize).length := by
    rw [List.length_take]
    omega
  rw [length_textUpTo_lt_iff hsize, ← hzero, ← byteAt_take hi, byteAt,
    List.getD_eq_getElem _ _ hlength]
  exact List.getElem_mem hlength

section Count

variable {strlen : ℕ} {call : ReadCall}

/-- A read that begins inside the text does not go past its end. -/
theorem readCount_of_inside (hpos : call.ppos.bits.toNat ≤ strlen) (hstrlen : strlen < bufSize) :
    call.ppos.bits.toNat + (readCount strlen call).toNat ≤ strlen := by
  unfold bufSize at hstrlen
  have hlength : (UInt64.ofNat strlen).toNat = strlen :=
    UInt64.toNat_ofNat_of_lt' (by omega : strlen < 2 ^ 64)
  have hleft : (UInt64.ofNat strlen - call.ppos.bits).toNat = strlen - call.ppos.bits.toNat := by
    rw [UInt64.toNat_sub_of_le _ _ (UInt64.le_iff_toNat_le.mpr (by omega)), hlength]
  unfold readCount
  dsimp only
  split_ifs with hclip
  · omega
  · rw [gt_iff_lt, UInt64.lt_iff_toNat_lt, hleft] at hclip
    omega

/-- A read that begins behind the text is hardly limited. -/
theorem readCount_pos_of_behind (hpos : strlen < call.ppos.bits.toNat)
    (hcount : call.count ≠ 0) : 0 < (readCount strlen call).toNat := by
  have hnonneg := call.ppos.nonneg
  have hlength : (UInt64.ofNat strlen).toNat = strlen :=
    UInt64.toNat_ofNat_of_lt' (by omega : strlen < 2 ^ 64)
  have hleft : 0 < (UInt64.ofNat strlen - call.ppos.bits).toNat := by
    rw [UInt64.toNat_sub, hlength]
    omega
  have hcount' : 0 < call.count.toNat :=
    Nat.pos_of_ne_zero fun hzero ↦ hcount (UInt64.toNat_inj.mp hzero)
  unfold readCount
  dsimp only
  split_ifs
  · exact hleft
  · exact hcount'

theorem readCount_of_count_eq_zero (hcount : call.count = 0) : readCount strlen call = 0 := by
  unfold readCount
  dsimp only
  rw [hcount, if_neg]
  exact UInt64.not_lt.mpr UInt64.zero_le

end Count

/-- A read is safe if what it copies is part of the text. -/
theorem safe_read_iff {mem : List UInt8} (hterminated : Terminated mem) {call : ReadCall}
    (hgoes : ¬call.ppos.bits > call.strlenBuffer) :
    Safe mem (.read call) ↔
      ∀ i ∈ List.range' call.ppos.bits.toNat (readCount (textUpTo 0 mem).length call).toNat,
        i < (textUpTo 0 mem).length := by
  have htext := length_text_lt hterminated
  rw [Safe, practikRead, if_neg hgoes]
  refine ⟨fun hsafe ↦ hsafe.2, fun hinside ↦ ⟨?_, hinside⟩⟩
  rw [within_bind_iff, within_bind_iff, within_readString_iff]
  refine ⟨?_, fun i hi ↦ (hinside i hi).trans htext, within_pure _⟩
  rw [Nat.zero_add]
  exact htext

theorem safe_read_iff_guarded {mem : List UInt8} (hterminated : Terminated mem) (call : ReadCall) :
    Safe mem (.read call) ↔ Guarded mem (.read call) := by
  have htext := length_text_lt hterminated
  by_cases heof : call.ppos.bits > call.strlenBuffer
  · refine iff_of_true ?_ (Or.inl heof)
    rw [Safe, practikRead, if_pos heof]
    exact ⟨within_pure _, fun i hi ↦ absurd hi List.not_mem_nil⟩
  · rw [safe_read_iff hterminated heof]
    constructor
    · intro hinside
      by_contra hbehind
      obtain ⟨-, hbehind⟩ := not_or.mp hbehind
      obtain ⟨hpos, hcount⟩ := not_or.mp hbehind
      have hsome := readCount_pos_of_behind (Nat.lt_of_not_le hpos) hcount
      have hfirst := hinside call.ppos.bits.toNat (by
        rw [List.mem_range'_1]
        omega)
      omega
    · rintro (heof' | hpos | hcount)
      · exact absurd heof' heof
      · have hend := readCount_of_inside hpos htext
        intro i hi
        rw [List.mem_range'_1] at hi
        omega
      · rw [readCount_of_count_eq_zero hcount]
        intro i hi
        exact absurd hi List.not_mem_nil

/-! ### Runs -/

theorem safe_iff {mem : List UInt8} (hterminated : Terminated mem) (call : Call) :
    Safe mem call ↔ Guarded mem call := by
  cases call with
  | write call =>
    refine ⟨fun hsafe ↦ (within_practikWrite_iff mem call).mp hsafe.1, fun hfits ↦ ?_⟩
    exact ⟨(within_practikWrite_iff mem call).mpr hfits,
      (terminated_practikWrite hterminated.1 hfits).2⟩
  | read call => exact safe_read_iff_guarded hterminated call

theorem terminated_step {mem : List UInt8} (hterminated : Terminated mem) {call : Call}
    (hguarded : Guarded mem call) : Terminated (step mem call) := by
  cases call with
  | write call => exact terminated_practikWrite hterminated.1 hguarded
  | read call => exact hterminated

theorem terminated_ourBuffer (behind : List UInt8) : Terminated (ourBuffer behind) := by
  have hpad : List.replicate (bufSize - helloWorld.length) (0 : UInt8) =
      0 :: List.replicate 500 0 := List.replicate_succ
  have hlength : bufSize - helloWorld.length = 501 := rfl
  refine ⟨?_, helloWorld.length, by decide, ?_⟩
  · rw [ourBuffer, List.length_append, List.length_append, List.length_replicate, hlength]
    exact Nat.le_add_right _ _
  · rw [ourBuffer, hpad, List.append_assoc]
    exact byteAt_append_right helloWorld _ 0

/-- A run stays inside the buffer and the text exactly if each of its calls is guarded. -/
theorem safe_iff_guarded (behind : List UInt8) (calls : List Call) :
    Along step Safe (ourBuffer behind) calls ↔ Along step Guarded (ourBuffer behind) calls :=
  along_congr (fun mem call (hterminated : Terminated mem) ↦ safe_iff hterminated call)
    (fun _ _ hterminated hguarded ↦ terminated_step hterminated hguarded)
    (terminated_ourBuffer behind) calls

/-- A write of one byte to the last place of the buffer, with the zero behind it. -/
def lastByte : WriteCall where
  buffer := fun _ ↦ 0x21
  count := 1
  ppos := ⟨511, by decide⟩

theorem write_overruns : (practikWrite (ourBuffer []) lastByte).reads = [511, 512] ∧
    ¬Along step Safe (ourBuffer []) [.write lastByte] := by
  have htouched : (practikWrite (ourBuffer []) lastByte).reads = [511, 512] := rfl
  refine ⟨htouched, fun hsafe ↦ ?_⟩
  have hinside := hsafe.1.1
  rw [Within, htouched] at hinside
  exact absurd (hinside 512 (by decide)) (by decide)

end KernelModules.ProcPractik
