import KernelModules.Foundations.Runs
import Mathlib.Algebra.BigOperators.Group.List.Basic
import Mathlib.Algebra.GroupWithZero.Nat
import Mathlib.Data.List.Basic

/-!
# Reading a text in chunks

A file is read by calls that name a size, return what is next in the file and move the position on.
A call at the end returns nothing and goes back to the start. `readText` is such a call on a text.
Its answers along a run are the chunks, and the state after a run is the position.

`ReadsInPasses` says what a reader may rely on: the chunks before the first empty one make up the
text, however it was cut; no chunk is longer than asked for or goes past the text, and the position
moves on by its length; and after an empty one everything starts again. It holds of every function
that does what `readText` does, with its own type of positions and of sizes (`readsInPasses`).

A file may also stay at its end. Then the chunks are the text cut into pieces of the sizes asked for
(`slices`), and `ReadsOnce` says what they are good for.
-/

set_option autoImplicit false
set_option relaxedAutoImplicit false

namespace KernelModules.Foundations

variable {α π σ : Type*}

/-! ### Reading a text -/

/-- Read at a position of a text. At its end nothing is read, and the position goes back. -/
def readText (text : List α) (pos size : ℕ) : List α × ℕ :=
  if text.length ≤ pos then ([], 0)
  else ((text.drop pos).take size, pos + min size (text.length - pos))

variable {text : List α} {pos size : ℕ}

theorem readText_of_le (hpos : text.length ≤ pos) (size : ℕ) : readText text pos size = ([], 0) :=
  if_pos hpos

theorem readText_of_lt (hpos : pos < text.length) (size : ℕ) : readText text pos size =
    ((text.drop pos).take size, pos + min size (text.length - pos)) :=
  if_neg (Nat.not_le.mpr hpos)

/-- The position stays in the text. -/
theorem readText_snd_le (text : List α) (pos size : ℕ) :
    (readText text pos size).2 ≤ text.length := by
  rw [readText]
  split_ifs with hpos
  · exact Nat.zero_le _
  · dsimp only
    omega

/-- Nothing is read only at the end of the text. -/
theorem readText_fst_eq_nil (hsize : 1 ≤ size) (hempty : (readText text pos size).1 = []) :
    text.length ≤ pos := by
  by_contra hpos
  rw [readText_of_lt (Nat.not_le.mp hpos)] at hempty
  have hlength := congrArg List.length hempty
  rw [List.length_take, List.length_drop, List.length_nil] at hlength
  omega

theorem length_readText_le (text : List α) (pos size : ℕ) :
    (readText text pos size).1.length ≤ size := by
  rw [readText]
  split_ifs with hpos
  · exact Nat.zero_le _
  · exact List.length_take_le _ _

theorem add_length_readText_le (hpos : pos ≤ text.length) (size : ℕ) :
    pos + (readText text pos size).1.length ≤ text.length := by
  rw [readText]
  split_ifs with hend
  · exact hpos
  · dsimp only
    rw [List.length_take, List.length_drop]
    omega

/-- The position moves on by what is read. -/
theorem readText_snd_of_ne_nil (hchunk : (readText text pos size).1 ≠ []) :
    (readText text pos size).2 = pos + (readText text pos size).1.length := by
  rcases Nat.lt_or_ge pos text.length with hlt | hge
  · rw [readText_of_lt hlt, List.length_take, List.length_drop]
  · exact absurd (by rw [readText_of_le hge]) hchunk

/-- What a read leaves to be read. -/
theorem readText_append_drop (hpos : pos < text.length) (size : ℕ) :
    (readText text pos size).1 ++ text.drop (readText text pos size).2 = text.drop pos := by
  rw [readText_of_lt hpos]
  dsimp only
  rw [← List.drop_drop, List.take_eq_take_min, List.length_drop]
  exact List.take_append_drop _ _

/-- The chunks up to the end make up the rest of the text. -/
theorem flatten_takeWhile_answers {sizes : List ℕ} (hsizes : ∀ size ∈ sizes, 1 ≤ size)
    (hpos : pos ≤ text.length) (hend : [] ∈ answers (readText text) pos sizes) :
    ((answers (readText text) pos sizes).takeWhile (!·.isEmpty)).flatten = text.drop pos := by
  induction sizes generalizing pos with
  | nil => exact absurd hend List.not_mem_nil
  | cons size sizes ih =>
    rw [List.forall_mem_cons] at hsizes
    rcases Nat.lt_or_ge pos text.length with hlt | hge
    · have hchunk : (readText text pos size).1 ≠ [] := fun hempty ↦
        absurd (readText_fst_eq_nil hsizes.1 hempty) (Nat.not_le.mpr hlt)
      have hrest : [] ∈ answers (readText text) (readText text pos size).2 sizes :=
        (List.mem_cons.mp hend).resolve_left hchunk.symm
      have hloop := ih hsizes.2 (readText_snd_le text pos size) hrest
      rw [answers, List.takeWhile_cons_of_pos (by simpa using hchunk), List.flatten_cons, hloop,
        readText_append_drop hlt]
    · rw [answers, readText_of_le hge, List.takeWhile_cons_of_neg (by simp),
        List.drop_of_length_le hge]
      rfl

/-- Enough reads come to the end. -/
theorem nil_mem_answers {sizes : List ℕ} (hsizes : ∀ size ∈ sizes, 1 ≤ size)
    (hlong : text.length < pos + sizes.length) (hpos : pos ≤ text.length) :
    [] ∈ answers (readText text) pos sizes := by
  induction sizes generalizing pos with
  | nil =>
    rw [List.length_nil] at hlong
    omega
  | cons size sizes ih =>
    rw [List.forall_mem_cons] at hsizes
    rw [List.length_cons] at hlong
    rcases Nat.lt_or_ge pos text.length with hlt | hge
    · refine List.mem_cons_of_mem _ (ih hsizes.2 ?_ (readText_snd_le text pos size))
      rw [readText_of_lt hlt]
      dsimp only
      omega
    · rw [answers, readText_of_le hge]
      exact List.mem_cons_self

/-! ### Passes over a text -/

/-- Reads from the start on go through the text again and again. -/
structure ReadsInPasses (read : π → σ → List α × π) (start : π) (offset : π → ℕ) (amount : σ → ℕ)
    (text : List α) (sizes : List σ) : Prop where
  /-- The chunks up to the first empty one make up the text. -/
  whole : [] ∈ answers read start sizes →
    ((answers read start sizes).takeWhile (!·.isEmpty)).flatten = text
  /-- There is an empty one if there are more reads than the text is long. -/
  ends : text.length < sizes.length → [] ∈ answers read start sizes
  /-- A chunk is not longer than asked for and does not go past the text. -/
  inside : ∀ k size chunk, sizes[k]? = some size → (answers read start sizes)[k]? = some chunk →
    chunk.length ≤ amount size ∧
      offset (stateAfter read start (sizes.take k)) + chunk.length ≤ text.length
  /-- The position moves on by the length of the chunk. -/
  advances : ∀ k chunk, (answers read start sizes)[k]? = some chunk → chunk ≠ [] →
    offset (stateAfter read start (sizes.take (k + 1))) =
      offset (stateAfter read start (sizes.take k)) + chunk.length
  /-- After an empty one the position is at the start, and what follows is as if nothing had been
  read. -/
  rewinds : ∀ k, (answers read start sizes)[k]? = some [] →
    stateAfter read start (sizes.take (k + 1)) = start ∧
      (answers read start sizes).drop (k + 1) = answers read start (sizes.drop (k + 1))

section Embedding

variable {read : π → σ → List α × π} {embed : ℕ → π} {offset : π → ℕ} {amount : σ → ℕ}

/-- A function that reads the text, with its own positions and sizes, comes to the same places. -/
theorem stateAfter_embed (hread : ∀ pos ≤ text.length, ∀ size, read (embed pos) size =
      ((readText text pos (amount size)).1, embed (readText text pos (amount size)).2))
    (hpos : pos ≤ text.length) (sizes : List σ) :
    stateAfter read (embed pos) sizes = embed (stateAfter (readText text) pos (sizes.map amount)) ∧
      stateAfter (readText text) pos (sizes.map amount) ≤ text.length := by
  induction sizes generalizing pos with
  | nil => exact ⟨rfl, hpos⟩
  | cons size sizes ih =>
    have hrest := ih (readText_snd_le text pos (amount size))
    have hfirst : (read (embed pos) size).2 = embed (readText text pos (amount size)).2 := by
      rw [hread pos hpos]
    change stateAfter read (read (embed pos) size).2 sizes = _ ∧ _
    rw [hfirst]
    exact hrest

/-- It returns the same chunks. -/
theorem answers_embed (hread : ∀ pos ≤ text.length, ∀ size, read (embed pos) size =
      ((readText text pos (amount size)).1, embed (readText text pos (amount size)).2))
    (hpos : pos ≤ text.length) (sizes : List σ) :
    answers read (embed pos) sizes = answers (readText text) pos (sizes.map amount) := by
  induction sizes generalizing pos with
  | nil => rfl
  | cons size sizes ih =>
    rw [answers, hread pos hpos, List.map_cons, answers]
    exact congrArg _ (ih (readText_snd_le text pos (amount size)))

/-- A chunk of such a function is read from the text, at a place in it. -/
theorem exists_readText (hread : ∀ pos ≤ text.length, ∀ size, read (embed pos) size =
      ((readText text pos (amount size)).1, embed (readText text pos (amount size)).2))
    {sizes : List σ} {k : ℕ} {chunk : List α}
    (hchunk : (answers read (embed 0) sizes)[k]? = some chunk) :
    ∃ pos ≤ text.length, ∃ size, sizes[k]? = some size ∧
      chunk = (readText text pos (amount size)).1 ∧
      stateAfter read (embed 0) (sizes.take k) = embed pos ∧
      stateAfter read (embed 0) (sizes.take (k + 1)) =
        embed (readText text pos (amount size)).2 := by
  obtain ⟨hposition, hle⟩ := stateAfter_embed hread (Nat.zero_le _) (sizes.take k)
  rw [getElem?_answers, Option.map_eq_some_iff] at hchunk
  obtain ⟨size, hsize, hfst⟩ := hchunk
  rw [hposition, hread _ hle] at hfst
  refine ⟨_, hle, size, hsize, hfst.symm, hposition, ?_⟩
  rw [stateAfter_take_succ read _ hsize, hposition, hread _ hle]

/-- A function that reads the text, with its own positions and sizes, reads it in passes. -/
theorem readsInPasses (embed : ℕ → π) (hread : ∀ pos ≤ text.length, ∀ size, read (embed pos) size =
      ((readText text pos (amount size)).1, embed (readText text pos (amount size)).2))
    (hoffset : ∀ pos ≤ text.length, offset (embed pos) = pos) {sizes : List σ}
    (hsizes : ∀ size ∈ sizes, 1 ≤ amount size) :
    ReadsInPasses read (embed 0) offset amount text sizes := by
  have hchunks := answers_embed hread (Nat.zero_le _) sizes
  have hamounts : ∀ size ∈ sizes.map amount, 1 ≤ size := List.forall_mem_map.mpr hsizes
  refine ⟨fun hend ↦ ?_, fun hlong ↦ ?_, fun k size chunk hsize hchunk ↦ ?_,
    fun k chunk hchunk hne ↦ ?_, fun k hempty ↦ ?_⟩
  · rw [hchunks] at hend ⊢
    exact flatten_takeWhile_answers hamounts (Nat.zero_le _) hend
  · rw [hchunks]
    refine nil_mem_answers hamounts ?_ (Nat.zero_le _)
    rwa [List.length_map, Nat.zero_add]
  · obtain ⟨pos, hpos, size', hsize', rfl, hplace, -⟩ := exists_readText hread hchunk
    obtain rfl : size = size' := Option.some.inj (hsize.symm.trans hsize')
    rw [hplace, hoffset pos hpos]
    exact ⟨length_readText_le _ _ _, add_length_readText_le hpos _⟩
  · obtain ⟨pos, hpos, size, -, rfl, hplace, hnext⟩ := exists_readText hread hchunk
    rw [hplace, hnext, hoffset pos hpos, hoffset _ (readText_snd_le _ _ _)]
    exact readText_snd_of_ne_nil hne
  · obtain ⟨pos, -, size, hsize, hchunk, -, hnext⟩ := exists_readText hread hempty
    have hend := readText_fst_eq_nil (hsizes size (List.mem_of_getElem? hsize)) hchunk.symm
    rw [readText_of_le hend] at hnext
    exact ⟨hnext, by rw [drop_answers, hnext]⟩

end Embedding

/-! ### Reading a text once -/

/-- A text cut into pieces of given sizes. When it is used up, the pieces are empty. -/
def slices : List α → List ℕ → List (List α)
  | _, [] => []
  | text, size :: sizes => text.take size :: slices (text.drop size) sizes

/-- The chunks are pieces of the text, one after the other. -/
structure ReadsOnce (chunks : List (List α)) (text : List α) (sizes : List ℕ) : Prop where
  pieces : chunks = slices text sizes
  /-- If enough is asked for, the chunks make up the text. -/
  whole : text.length ≤ sizes.sum → chunks.flatten = text
  /-- When all the text has been asked for, nothing more comes. -/
  ends : ∀ k, text.length ≤ (sizes.take k).sum → ∀ chunk ∈ chunks.drop k, chunk = []

theorem flatten_slices (text : List α) (sizes : List ℕ) :
    (slices text sizes).flatten = text.take sizes.sum := by
  induction sizes generalizing text with
  | nil => rfl
  | cons size sizes ih =>
    rw [slices, List.flatten_cons, ih, List.sum_cons, List.take_add]

theorem drop_slices (text : List α) (sizes : List ℕ) (k : ℕ) :
    (slices text sizes).drop k = slices (text.drop (sizes.take k).sum) (sizes.drop k) := by
  induction sizes generalizing text k with
  | nil => simp [slices]
  | cons size sizes ih =>
    cases k with
    | zero => rfl
    | succ k =>
      rw [slices, List.drop_succ_cons, ih, List.take_succ_cons, List.sum_cons, List.drop_drop,
        List.drop_succ_cons]

theorem eq_nil_of_mem_slices_nil {sizes : List ℕ} {chunk : List α}
    (hchunk : chunk ∈ slices [] sizes) : chunk = [] := by
  induction sizes with
  | nil => exact absurd hchunk List.not_mem_nil
  | cons size sizes ih =>
    rw [slices, List.take_nil, List.drop_nil] at hchunk
    rcases List.mem_cons.mp hchunk with rfl | hrest
    · rfl
    · exact ih hrest

theorem readsOnce_slices (text : List α) (sizes : List ℕ) :
    ReadsOnce (slices text sizes) text sizes := by
  refine ⟨rfl, fun henough ↦ ?_, fun k hused chunk hchunk ↦ ?_⟩
  · rw [flatten_slices, List.take_of_length_le henough]
  · rw [drop_slices, List.drop_of_length_le hused] at hchunk
    exact eq_nil_of_mem_slices_nil hchunk

end KernelModules.Foundations
