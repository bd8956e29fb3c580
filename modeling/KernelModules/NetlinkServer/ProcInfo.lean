import KernelModules.Foundations.ChunkedReads
import KernelModules.Foundations.Strings
import Mathlib.Data.UInt
import Mathlib.Tactic.SplitIfs

/-!
# The proc file of the server

`nl_kserv_read_info` prints the two counters of the server into a buffer and hands out what is asked
for of it, from the position of the file on. At the end of the text it returns 0 and sets the
position back. `node_read` of the experiments with proc files does the same with a buffer that is
written elsewhere.

Positions are signed and sizes unsigned words of 64 bits, and the comparisons and the subtraction
are those of C, in which the position becomes unsigned. As long as a position is in the text, both
functions do what `readText` does on natural numbers (`readBuffer_ofNat`). Therefore every sequence
of reads goes through the text in passes (`proc_reads_in_passes`). The text of the counters fits
into its buffer (`textUpTo_infoBuffer`).
-/

set_option autoImplicit false
set_option relaxedAutoImplicit false

namespace KernelModules.NetlinkServer

open Foundations

/-! ### Buffers -/

/-- `strlen` of a buffer. -/
def strlen (buf : List Char) : UInt64 := UInt64.ofNat (textUpTo '\x00' buf).length

/-- What the two functions do with a buffer: the bytes that are copied to the reader, as many as are
returned, and the new position. -/
def readBuffer (buf : List Char) (ppos : Int64) (count : UInt64) : List Char × Int64 :=
  if strlen buf ≤ ppos.toUInt64 then ([], 0)
  else
    let count :=
      if strlen buf - ppos.toUInt64 < count then strlen buf - ppos.toUInt64 else count
    ((buf.drop ppos.toUInt64.toNat).take count.toNat, (ppos.toUInt64 + count).toInt64)

/-- What is printed before the first counter. -/
def normLabel : List Char := "Normal message: ".toList

/-- What is printed between the counters. -/
def errLabel : List Char := "\nErrors: ".toList

/-- The format of `nl_kserv_read_info`, with the digits of the two counters. -/
def infoLines (norm err : List Char) : List Char := normLabel ++ norm ++ errLabel ++ err ++ ['\n']

/-- What `nl_kserv_read_info` prints. -/
def infoText (norm err : UInt64) : List Char :=
  infoLines (Nat.toDigits 10 norm.toNat) (Nat.toDigits 10 err.toNat)

/-- `buf_msg`, a buffer of `LEN_MSG` bytes that `snprintf` has filled. -/
def infoBuffer (norm err : UInt64) : List Char :=
  (infoText norm err).take 1023 ++
    List.replicate (1024 - ((infoText norm err).take 1023).length) '\x00'

/-- `nl_kserv_read_info`. Nothing is returned for `-EFAULT`, if the bytes cannot be copied. -/
def nlKservReadInfo (norm err : UInt64) (copyToUser : Bool) (ppos : Int64) (count : UInt64) :
    Option (List Char) × Int64 :=
  if strlen (infoBuffer norm err) ≤ ppos.toUInt64 then (some [], 0)
  else if copyToUser then
    (some (readBuffer (infoBuffer norm err) ppos count).1,
      (readBuffer (infoBuffer norm err) ppos count).2)
  else (none, ppos)

/-- `node_read`. It does not ask whether the bytes could be copied. -/
def nodeRead (buf : List Char) (ppos : Int64) (count : UInt64) : List Char × Int64 :=
  readBuffer buf ppos count

/-- `nl_kserv_read_info` for a reader whose memory can be written. -/
def readInfo (norm err : UInt64) (ppos : Int64) (count : UInt64) : List Char × Int64 :=
  ((nlKservReadInfo norm err true ppos count).1.getD [],
    (nlKservReadInfo norm err true ppos count).2)

theorem readInfo_eq (norm err : UInt64) (ppos : Int64) (count : UInt64) :
    readInfo norm err ppos count = readBuffer (infoBuffer norm err) ppos count := by
  rw [readInfo, nlKservReadInfo, if_pos rfl]
  split_ifs with hend
  · exact (if_pos hend).symm
  · rw [Option.getD_some]

/-! ### Words and numbers -/

variable {buf : List Char} {pos : ℕ}

theorem toUInt64_ofNat (pos : ℕ) : (Int64.ofNat pos).toUInt64 = UInt64.ofNat pos := rfl

/-- Of two words for numbers that fit, the comparison is that of the numbers. -/
theorem ofNat_le_ofNat_iff {a b : ℕ} (ha : a < 2 ^ 64) (hb : b < 2 ^ 64) :
    UInt64.ofNat a ≤ UInt64.ofNat b ↔ a ≤ b := by
  rw [UInt64.le_iff_toNat_le, UInt64.toNat_ofNat_of_lt' ha, UInt64.toNat_ofNat_of_lt' hb]

/-- The smaller of what is asked for and what is left. -/
theorem clip_eq {left : ℕ} (hleft : left < 2 ^ 64) (count : UInt64) :
    (if UInt64.ofNat left < count then UInt64.ofNat left else count) =
      UInt64.ofNat (min count.toNat left) := by
  simp only [UInt64.lt_iff_toNat_lt, UInt64.toNat_ofNat_of_lt' hleft]
  split_ifs with hlt
  · rw [Nat.min_eq_right hlt.le]
  · rw [Nat.min_eq_left (Nat.not_lt.mp hlt), UInt64.ofNat_toNat]

/-- At a position in the string, the functions do what `readText` does. -/
theorem readBuffer_ofNat (hbuf : (textUpTo '\x00' buf).length < 2 ^ 63)
    (hpos : pos ≤ (textUpTo '\x00' buf).length) (count : UInt64) :
    readBuffer buf (Int64.ofNat pos) count =
      ((readText (textUpTo '\x00' buf) pos count.toNat).1,
        Int64.ofNat (readText (textUpTo '\x00' buf) pos count.toNat).2) := by
  rw [readBuffer, toUInt64_ofNat, strlen]
  simp only [ofNat_le_ofNat_iff (by omega : (textUpTo '\x00' buf).length < 2 ^ 64)
    (by omega : pos < 2 ^ 64)]
  rcases Nat.lt_or_ge pos (textUpTo '\x00' buf).length with hlt | hge
  · have hmin : min count.toNat ((textUpTo '\x00' buf).length - pos) < 2 ^ 64 := by omega
    rw [if_neg (Nat.not_le.mpr hlt), readText_of_lt hlt, ← UInt64.ofNat_sub hpos,
      clip_eq (by omega), UInt64.toNat_ofNat_of_lt' hmin,
      UInt64.toNat_ofNat_of_lt' (by omega : pos < 2 ^ 64), take_drop_textUpTo hpos,
      ← UInt64.ofNat_add]
    rfl
  · rw [if_pos hge, readText_of_le hge]
    rfl

/-! ### The text of the counters -/

theorem length_infoLines (norm err : List Char) :
    (infoLines norm err).length = norm.length + err.length + 26 := by
  have hnorm : normLabel.length = 16 := by decide
  have herr : errLabel.length = 9 := by decide
  simp only [infoLines, List.length_append, hnorm, herr, List.length_singleton]
  omega

theorem length_toDigits_le (counter : UInt64) : (Nat.toDigits 10 counter.toNat).length ≤ 20 := by
  rw [Nat.length_toDigits_le_iff (by decide) (by decide)]
  have hlt := counter.toNat_lt
  omega

theorem length_infoText_le (norm err : UInt64) : (infoText norm err).length ≤ 66 := by
  have hnorm := length_toDigits_le norm
  have herr := length_toDigits_le err
  have hlength := length_infoLines (Nat.toDigits 10 norm.toNat) (Nat.toDigits 10 err.toNat)
  rw [← infoText] at hlength
  omega

theorem nul_notMem_infoLines {norm err : List Char} (hnorm : '\x00' ∉ norm)
    (herr : '\x00' ∉ err) : '\x00' ∉ infoLines norm err := by
  have hfirst : '\x00' ∉ normLabel := by decide
  have hsecond : '\x00' ∉ errLabel := by decide
  have hlast : '\x00' ∉ ['\n'] := by decide
  simp only [infoLines, List.mem_append, not_or]
  exact ⟨⟨⟨⟨hfirst, hnorm⟩, hsecond⟩, herr⟩, hlast⟩

theorem nul_notMem_toDigits (counter : UInt64) : '\x00' ∉ Nat.toDigits 10 counter.toNat := by
  intro hnul
  have hdigit := Nat.isDigit_of_mem_toDigits (by decide) (by decide) hnul
  exact absurd hdigit (by decide)

/-- The text fits into the buffer and ends where `strlen` finds its end. -/
theorem textUpTo_infoBuffer (norm err : UInt64) :
    textUpTo '\x00' (infoBuffer norm err) = infoText norm err := by
  have hlength := length_infoText_le norm err
  have hnul := nul_notMem_infoLines (nul_notMem_toDigits norm) (nul_notMem_toDigits err)
  have hchars : ∀ c ∈ infoText norm err, decide (c ≠ '\x00') = true := fun c hc ↦
    decide_eq_true (ne_of_mem_of_not_mem hc hnul)
  rw [textUpTo, infoBuffer, List.take_of_length_le (hlength.trans (by decide)),
    List.takeWhile_append_of_pos hchars, List.takeWhile_replicate, if_neg (by decide),
    List.append_nil]

/-! ### Passes -/

/-- The offset that a position means. -/
def offset (ppos : Int64) : ℕ := ppos.toUInt64.toNat

/-- Every function that reads a buffer as the two do goes through it in passes. -/
theorem readsInPasses_readBuffer (hbuf : (textUpTo '\x00' buf).length < 2 ^ 63)
    {sizes : List UInt64} (hsizes : ∀ size ∈ sizes, 1 ≤ size) :
    ReadsInPasses (readBuffer buf) 0 offset UInt64.toNat (textUpTo '\x00' buf) sizes := by
  refine readsInPasses Int64.ofNat (fun pos hpos count ↦ readBuffer_ofNat hbuf hpos count)
    (fun pos hpos ↦ ?_) (fun size hsize ↦ ?_)
  · rw [offset, toUInt64_ofNat, UInt64.toNat_ofNat_of_lt' (by omega : pos < 2 ^ 64)]
  · exact UInt64.le_iff_toNat_le.mp (hsizes size hsize)

/-- Reads of the proc file of the server, and of one with a buffer of 161 bytes, go through the text
in passes, whatever the sizes and the counters are.

Assumes: every read asks for something. -/
theorem proc_reads_in_passes (norm err : UInt64) {buf : List Char} (hbuf : buf.length = 161)
    {sizes : List UInt64} (hsizes : ∀ size ∈ sizes, 1 ≤ size) :
    ReadsInPasses (readInfo norm err) 0 offset UInt64.toNat (infoText norm err) sizes ∧
      ReadsInPasses (nodeRead buf) 0 offset UInt64.toNat (textUpTo '\x00' buf) sizes := by
  constructor
  · have hlength : (textUpTo '\x00' (infoBuffer norm err)).length < 2 ^ 63 := by
      rw [textUpTo_infoBuffer]
      exact (length_infoText_le norm err).trans_lt (by decide)
    have hpasses := readsInPasses_readBuffer hlength hsizes
    rw [textUpTo_infoBuffer] at hpasses
    rwa [funext₂ (readInfo_eq norm err)]
  · refine readsInPasses_readBuffer ?_ hsizes
    have hle : (textUpTo '\x00' buf).length ≤ buf.length := (List.takeWhile_sublist _).length_le
    omega

/-- Three errors and no message, read by ten bytes, by all that is left, once more at the end, and
from the start again. -/
theorem proc_reads_in_passes_threeErrors :
    ReadsInPasses (readInfo 0 3) 0 offset UInt64.toNat (infoText 0 3) [10, 100, 1, 6] ∧
      (answers (readInfo 0 3) 0 [10, 100, 1, 6]).map String.ofList =
        ["Normal mes", "sage: 0\nErrors: 3\n", "", "Normal"] :=
  ⟨(proc_reads_in_passes 0 3 (List.length_replicate (n := 161) (a := '\x00')) (by simp)).1,
    by decide⟩

end KernelModules.NetlinkServer
