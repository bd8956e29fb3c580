import KernelModules.Foundations.ChunkedReads
import KernelModules.Foundations.Strings
import Mathlib.Data.UInt
import Mathlib.Logic.Function.Iterate
import Mathlib.Tactic.SplitIfs

/-!
# The text of the interrupt counter

`Handler` counts an interrupt and prints the counter into `messageProc`, and `procRead` hands the
text out from the file position on. Memory is a list of characters from the start of `messageProc`
on, and goes on behind it, where `sprintf` goes on as well.

The buffer has room for a number of seven characters, so that the text fits exactly while the
counter is below ten million, or less than a million below zero after it has wrapped. A text that
fits is read back once, in the pieces that are asked for, unless the position and the size together
do not fit into a word (`counter_read_iff`).
-/

set_option autoImplicit false
set_option relaxedAutoImplicit false

namespace KernelModules.IrqProc

open Foundations

/-- `BUF_PROC`. -/
def bufProc : ℕ := 20

/-- What is printed before the counter. -/
def label : List Char := "CountIRQ = ".toList

/-- The text when the module is loaded. -/
def loadText : List Char := "CountIRQ = 0\n".toList

/-- The conversion `%d`. -/
def decimal (number : ℤ) : List Char :=
  (if number < 0 then ['-'] else []) ++ Nat.toDigits 10 number.natAbs

/-- What is printed for a counter. -/
def counterLine (irqCounter : Int32) : List Char := label ++ decimal irqCounter.toInt ++ ['\n']

/-- `sprintf` to the start of some memory. -/
def sprintf (mem text : List Char) : List Char := text ++ '\x00' :: mem.drop (text.length + 1)

/-- The data of the module, with what is behind the buffer. -/
structure Irq where
  irqCounter : Int32
  messageProc : List Char

/-- The module when it has been loaded. -/
def load (behind : List Char) : Irq where
  irqCounter := 0
  messageProc := loadText ++ List.replicate (bufProc - loadText.length) '\x00' ++ behind

/-- `Handler`. -/
def handler (irq : Irq) : Irq where
  irqCounter := irq.irqCounter + 1
  messageProc := sprintf irq.messageProc (counterLine (irq.irqCounter + 1))

/-- The module after some interrupts. -/
def afterIrqs (behind : List Char) (n : ℕ) : Irq := handler^[n] (load behind)

/-- `strlen`. -/
def strlen (mem : List Char) : UInt64 := UInt64.ofNat (textUpTo '\x00' mem).length

/-- `procRead`: what is copied to the reader, as much as is returned, and the new position. Nothing
is returned for `-ENOMEM`. -/
def procRead (mem : List Char) (offp : Int64) (count : UInt64) : Option (List Char) × Int64 :=
  let temp := (strlen mem).toUInt32.toInt32
  if strlen mem < offp.toUInt64 then (none, offp)
  else
    let count :=
      if temp.toInt64.toUInt64 < count + offp.toUInt64 then (temp.toInt64 - offp).toUInt64
      else count
    (some ((mem.drop offp.toUInt64.toNat).take count.toNat), (offp.toUInt64 + count).toInt64)

/-! ### The text -/

/-- The text after some interrupts. -/
def counterText (n : ℕ) : List Char := counterLine (Int32.ofNat n)

theorem irqCounter_afterIrqs (behind : List Char) (n : ℕ) :
    (afterIrqs behind n).irqCounter = Int32.ofNat n := by
  induction n with
  | zero => rfl
  | succ n ih =>
    rw [afterIrqs, Function.iterate_succ_apply', ← afterIrqs, handler, ih, Int32.ofNat_add]
    rfl

/-- What is printed stands at the start of memory, with its zero. -/
theorem messageProc_afterIrqs (behind : List Char) (n : ℕ) :
    ∃ rest, (afterIrqs behind n).messageProc = counterText n ++ '\x00' :: rest := by
  cases n with
  | zero => exact ⟨List.replicate 6 '\x00' ++ behind, rfl⟩
  | succ n =>
    have hcounter := irqCounter_afterIrqs behind (n + 1)
    rw [afterIrqs, Function.iterate_succ_apply', ← afterIrqs] at hcounter ⊢
    rw [counterText, ← hcounter]
    exact ⟨_, rfl⟩

theorem nul_notMem_decimal (number : ℤ) : '\x00' ∉ decimal number := by
  intro hnul
  rcases List.mem_append.mp hnul with hsign | hdigits
  · split_ifs at hsign
    · exact absurd hsign (by decide)
    · exact absurd hsign List.not_mem_nil
  · have hdigit := Nat.isDigit_of_mem_toDigits (by decide) (by decide) hdigits
    exact absurd hdigit (by decide)

theorem nul_notMem_counterText (n : ℕ) : '\x00' ∉ counterText n := by
  have hlabel : '\x00' ∉ label := by decide
  have hlast : '\x00' ∉ ['\n'] := by decide
  simp only [counterText, counterLine, List.mem_append, not_or]
  exact ⟨⟨hlabel, nul_notMem_decimal _⟩, hlast⟩

/-- A number has at most seven characters if it is below ten million and above minus one million. -/
theorem length_decimal_le_iff (number : ℤ) :
    (decimal number).length ≤ 7 ↔ -10 ^ 6 < number ∧ number < 10 ^ 7 := by
  rw [decimal, List.length_append]
  split_ifs with hneg
  · have hdigits : 1 + (Nat.toDigits 10 number.natAbs).length ≤ 7 ↔
        (Nat.toDigits 10 number.natAbs).length ≤ 6 := by omega
    rw [List.length_singleton, hdigits, Nat.length_toDigits_le_iff (by decide) (by decide)]
    omega
  · rw [List.length_nil, Nat.zero_add, Nat.length_toDigits_le_iff (by decide) (by decide)]
    omega

/-- The text fits into the buffer while the counter, as a number of 32 bits, is below ten million or
less than a million below its end. -/
theorem counterText_fits_iff (n : ℕ) :
    (counterText n).length + 1 ≤ bufProc ↔
      n % 2 ^ 32 < 10 ^ 7 ∨ 2 ^ 32 - 10 ^ 6 < n % 2 ^ 32 := by
  have hlabel : label.length = 11 := by decide
  have hlength : (counterText n).length = (decimal (Int32.ofNat n).toInt).length + 12 := by
    simp only [counterText, counterLine, List.length_append, hlabel, List.length_singleton]
    omega
  have hseven : (counterText n).length + 1 ≤ bufProc ↔
      (decimal (Int32.ofNat n).toInt).length ≤ 7 := by
    rw [hlength, bufProc]
    omega
  have hsize : Int32.size = 2 ^ 32 := rfl
  rw [hseven, length_decimal_le_iff, Int32.toInt_ofNat', Int.bmod_def, hsize]
  split_ifs
  · omega
  · omega

/-! ### Reading -/

/-- Where a read of a text leaves the position. -/
def advance (length pos : ℕ) (size : UInt64) : ℕ := pos + min size.toNat (length - pos)

/-- The end of what is asked for is a number of 64 bits. -/
def EndsInWord (pos : ℕ) (size : UInt64) : Prop := pos + size.toNat < 2 ^ 64

section Reading

variable {text rest : List Char} {pos : ℕ} {count : UInt64}

/-- The length of a short text passes through `int` unchanged. -/
theorem toInt64_toInt32 {length : ℕ} (hlength : length < bufProc) :
    (UInt64.ofNat length).toUInt32.toInt32.toInt64 = Int64.ofNat length := by
  have hall : ∀ k < bufProc, (UInt64.ofNat k).toUInt32.toInt32.toInt64 = Int64.ofNat k := by decide
  exact hall length hlength

/-- What a read at a position in the text copies. The end of the read wraps at 64 bits. -/
theorem procRead_eq (htext : '\x00' ∉ text) (hlength : text.length < bufProc)
    (hpos : pos ≤ text.length) {clipped : ℕ}
    (hclipped : clipped = if text.length < (pos + count.toNat) % 2 ^ 64 then text.length - pos
      else count.toNat) :
    procRead (text ++ '\x00' :: rest) (Int64.ofNat pos) count =
      (some (((text ++ '\x00' :: rest).drop pos).take clipped), Int64.ofNat (pos + clipped)) := by
  unfold bufProc at hlength
  have hfind : textUpTo '\x00' (text ++ '\x00' :: rest) = text := textUpTo_append htext rest
  have hoff : (Int64.ofNat pos).toUInt64 = UInt64.ofNat pos := rfl
  have hposNat : (UInt64.ofNat pos).toNat = pos :=
    UInt64.toNat_ofNat_of_lt' (by omega : pos < 2 ^ 64)
  have hlengthNat : (UInt64.ofNat text.length).toNat = text.length :=
    UInt64.toNat_ofNat_of_lt' (by omega : text.length < 2 ^ 64)
  have hstart : ¬UInt64.ofNat text.length < UInt64.ofNat pos := by
    rw [UInt64.lt_iff_toNat_lt, hposNat, hlengthNat]
    omega
  have hpast : (Int64.ofNat text.length).toUInt64 < count + UInt64.ofNat pos ↔
      text.length < (pos + count.toNat) % 2 ^ 64 := by
    change UInt64.ofNat text.length < count + UInt64.ofNat pos ↔ _
    rw [UInt64.lt_iff_toNat_lt, UInt64.toNat_add, hposNat, hlengthNat, Nat.add_comm]
  have hleft : (Int64.ofNat text.length - Int64.ofNat pos).toUInt64 =
      UInt64.ofNat (text.length - pos) := (UInt64.ofNat_sub hpos).symm
  have hcount : (if text.length < (pos + count.toNat) % 2 ^ 64 then
      UInt64.ofNat (text.length - pos) else count) = UInt64.ofNat clipped := by
    rw [hclipped]
    split_ifs
    · rfl
    · exact UInt64.ofNat_toNat.symm
  have hword : clipped < 2 ^ 64 := by
    have hcountNat := count.toNat_lt
    rw [hclipped]
    split_ifs
    · omega
    · exact hcountNat
  have hclippedNat : (UInt64.ofNat clipped).toNat = clipped := UInt64.toNat_ofNat_of_lt' hword
  simp only [procRead, strlen, hfind, hoff, if_neg hstart, toInt64_toInt32 hlength, hpast, hleft,
    hcount, hposNat, hclippedNat, ← UInt64.ofNat_add]
  rfl

/-- A read that ends in a word returns a piece of the text. -/
theorem procRead_of_endsInWord (htext : '\x00' ∉ text) (hlength : text.length < bufProc)
    (hpos : pos ≤ text.length) (hend : EndsInWord pos count) :
    procRead (text ++ '\x00' :: rest) (Int64.ofNat pos) count =
      (some ((text.drop pos).take count.toNat), Int64.ofNat (advance text.length pos count)) := by
  have hfind : textUpTo '\x00' (text ++ '\x00' :: rest) = text := textUpTo_append htext rest
  have hinside : pos ≤ (textUpTo '\x00' (text ++ '\x00' :: rest)).length := by rwa [hfind]
  have hpiece := take_drop_textUpTo hinside count.toNat
  rw [hfind] at hpiece
  have hclipped : min count.toNat (text.length - pos) =
      if text.length < (pos + count.toNat) % 2 ^ 64 then text.length - pos else count.toNat := by
    rw [Nat.mod_eq_of_lt hend]
    split_ifs
    · omega
    · omega
  rw [procRead_eq htext hlength hpos hclipped, hpiece, advance]

/-- A read that does not end in a word goes past the text. -/
theorem nul_mem_procRead (rest : List Char) (htext : '\x00' ∉ text)
    (hlength : text.length < bufProc) (hpos : pos ≤ text.length) (hend : ¬EndsInWord pos count) :
    ∃ chunk, (procRead (text ++ '\x00' :: rest) (Int64.ofNat pos) count).1 = some chunk ∧
      '\x00' ∈ chunk := by
  unfold EndsInWord at hend
  have hword := count.toNat_lt
  have hlength' : text.length < 20 := hlength
  have hclipped : count.toNat =
      if text.length < (pos + count.toNat) % 2 ^ 64 then text.length - pos else count.toNat := by
    rw [if_neg (by omega)]
  refine ⟨_, congrArg Prod.fst (procRead_eq htext hlength hpos hclipped), ?_⟩
  obtain ⟨more, hmore⟩ : ∃ more, count.toNat - (text.drop pos).length = more + 1 :=
    Nat.exists_eq_succ_of_ne_zero (by
      rw [List.length_drop]
      omega)
  rw [List.drop_append_of_le_length hpos, List.take_append, hmore, List.take_succ_cons]
  exact List.mem_append_right _ List.mem_cons_self

/-- The reads return the pieces of the text exactly if all of them end in a word. -/
theorem answers_procRead_iff (htext : '\x00' ∉ text) (hlength : text.length < bufProc)
    (hpos : pos ≤ text.length) (sizes : List UInt64) :
    answers (procRead (text ++ '\x00' :: rest)) (Int64.ofNat pos) sizes =
        (slices (text.drop pos) (sizes.map UInt64.toNat)).map some ↔
      Along (advance text.length) EndsInWord pos sizes := by
  induction sizes generalizing pos with
  | nil => exact iff_of_true rfl trivial
  | cons size sizes ih =>
    rw [answers, List.map_cons, slices, List.map_cons, List.cons.injEq]
    by_cases hend : EndsInWord pos size
    · have hnext : (text.drop pos).drop size.toNat = text.drop (advance text.length pos size) := by
        rw [List.drop_drop, advance]
        rcases Nat.le_total size.toNat (text.length - pos) with hle | hge
        · rw [Nat.min_eq_left hle]
        · rw [Nat.min_eq_right hge, List.drop_of_length_le (by omega),
            List.drop_of_length_le (by omega)]
      rw [procRead_of_endsInWord htext hlength hpos hend, hnext, ih (by rw [advance]; omega)]
      exact and_congr_left' (iff_of_true rfl hend)
    · refine iff_of_false (fun hsame ↦ ?_) fun halong ↦ hend halong.1
      obtain ⟨chunk, hchunk, hnul⟩ := nul_mem_procRead rest htext hlength hpos hend
      rw [hchunk] at hsame
      obtain rfl := Option.some.inj hsame.1
      exact htext (List.mem_of_mem_drop (List.mem_of_mem_take hnul))

end Reading

/-- The text of the counter and its zero fit into the buffer, and reads of the file return the text
once. -/
structure CounterRead (behind : List Char) (n : ℕ) (sizes : List UInt64) : Prop where
  fits : (counterText n).length + 1 ≤ bufProc
  readBack : ∃ chunks,
    answers (procRead (afterIrqs behind n).messageProc) 0 sizes = chunks.map some ∧
      ReadsOnce chunks (counterText n) (sizes.map UInt64.toNat)

/-- The text of the counter fits and is read back exactly while the number has at most seven
characters, by reads that end in a word. -/
theorem counter_read_iff (behind : List Char) (n : ℕ) (sizes : List UInt64) :
    CounterRead behind n sizes ↔
      (n % 2 ^ 32 < 10 ^ 7 ∨ 2 ^ 32 - 10 ^ 6 < n % 2 ^ 32) ∧
        Along (advance (counterText n).length) EndsInWord 0 sizes := by
  obtain ⟨rest, hmem⟩ := messageProc_afterIrqs behind n
  have hnul := nul_notMem_counterText n
  constructor
  · rintro ⟨hfits, chunks, hanswers, honce⟩
    refine ⟨(counterText_fits_iff n).mp hfits, ?_⟩
    rw [honce.pieces, hmem] at hanswers
    exact (answers_procRead_iff hnul hfits (Nat.zero_le _) sizes).mp hanswers
  · rintro ⟨hcounter, hends⟩
    have hfits := (counterText_fits_iff n).mpr hcounter
    refine ⟨hfits, _, ?_, readsOnce_slices _ _⟩
    rw [hmem]
    exact (answers_procRead_iff hnul hfits (Nat.zero_le _) sizes).mpr hends

/-- After ten million interrupts the text needs 21 bytes. -/
theorem counter_read_tenMillion : (counterText 10000000).length + 1 = 21 ∧
    ¬CounterRead [] 10000000 [20] := by
  have hlength : (counterText 10000000).length + 1 = 21 := by decide
  refine ⟨hlength, fun hread ↦ ?_⟩
  have hfits := hread.fits
  rw [hlength] at hfits
  exact absurd hfits (by decide)

end KernelModules.IrqProc
