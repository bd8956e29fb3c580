import Mathlib.Data.List.Sort
import Mathlib.Data.List.Perm.Basic
import KernelModules.Foundations.Draining

/-!
# A reorder buffer

Numbered items arrive in any order and are released in the order of their numbers. The buffer keeps
the next number to release and the waiting numbers in order; an item that is offered is put in its
place, and then items are released from the front for as long as the front is the next number.

`Settled` is what holds between two offers: the released numbers are consecutive, the waiting ones
lie beyond the next number, and together they are what has arrived. When the numbers of an interval
have all arrived, in whatever order, all have been released in order (`offers_perm`).
-/

set_option autoImplicit false
set_option relaxedAutoImplicit false

namespace KernelModules.Foundations

/-- A reorder buffer. -/
structure ReorderBuffer where
  next : ℕ
  waiting : List ℕ
  released : List ℕ

namespace ReorderBuffer

/-- An empty buffer that will release `lo` first. -/
def start (lo : ℕ) : ReorderBuffer := ⟨lo, [], []⟩

/-- Put a number in its place. -/
def insert (buffer : ReorderBuffer) (item : ℕ) : ReorderBuffer :=
  { buffer with waiting := buffer.waiting.orderedInsert (· ≤ ·) item }

/-- Release the front if it is the next number. -/
def release (buffer : ReorderBuffer) : Option ReorderBuffer :=
  match buffer.waiting with
  | [] => none
  | item :: rest =>
    if item = buffer.next then
      some { next := buffer.next + 1, waiting := rest, released := buffer.released ++ [item] }
    else none

/-- Offer a number. -/
def offer (buffer : ReorderBuffer) (item : ℕ) : ReorderBuffer :=
  drain release (buffer.insert item).waiting.length (buffer.insert item)

/-- Released and waiting numbers are what has arrived, in order, the released ones without a gap
from `lo` on. -/
structure Holds (lo : ℕ) (arrived : List ℕ) (buffer : ReorderBuffer) : Prop where
  start_le : lo ≤ buffer.next
  released : buffer.released = List.range' lo (buffer.next - lo)
  sorted : buffer.waiting.Pairwise (· ≤ ·)
  next_le : ∀ item ∈ buffer.waiting, buffer.next ≤ item
  perm : (buffer.released ++ buffer.waiting).Perm arrived

/-- Nothing can be released. -/
structure Settled (lo : ℕ) (arrived : List ℕ) (buffer : ReorderBuffer) : Prop
    extends Holds lo arrived buffer where
  stopped : buffer.release = none

variable {lo item : ℕ} {arrived : List ℕ} {buffer buffer' : ReorderBuffer}

theorem settled_start (lo : ℕ) : Settled lo [] (start lo) :=
  ⟨⟨le_rfl, by simp [start], by simp [start], by simp [start], by simp [start]⟩, rfl⟩

/-- What a release does. -/
theorem release_cases (hrelease : buffer.release = some buffer') :
    ∃ rest, buffer.waiting = buffer.next :: rest ∧
      buffer' = ⟨buffer.next + 1, rest, buffer.released ++ [buffer.next]⟩ := by
  unfold release at hrelease
  cases hwaiting : buffer.waiting with
  | nil => simp [hwaiting] at hrelease
  | cons item rest =>
    simp only [hwaiting] at hrelease
    split_ifs at hrelease with hnext
    rw [Option.some.injEq] at hrelease
    exact ⟨rest, by rw [hnext], by rw [← hrelease, hnext]⟩

theorem length_release (hrelease : buffer.release = some buffer') :
    buffer'.waiting.length < buffer.waiting.length := by
  obtain ⟨rest, hwaiting, rfl⟩ := release_cases hrelease
  simp [hwaiting]

/-- A release keeps the buffer in order. -/
theorem Holds.release (hholds : Holds lo arrived buffer) (hnodup : arrived.Nodup)
    (hrelease : buffer.release = some buffer') : Holds lo arrived buffer' := by
  obtain ⟨rest, hwaiting, rfl⟩ := release_cases hrelease
  have hsorted := hholds.sorted
  have hperm := hholds.perm
  rw [hwaiting] at hsorted hperm
  have hdistinct := (List.nodup_append'.mp (hperm.nodup_iff.mpr hnodup)).2.1
  refine ⟨Nat.le_succ_of_le hholds.start_le, ?_, (List.pairwise_cons.mp hsorted).2, ?_, ?_⟩
  · have hlo := hholds.start_le
    have hlength : buffer.next + 1 - lo = (buffer.next - lo) + 1 := by omega
    rw [hlength, List.range'_concat, hholds.released, Nat.one_mul, Nat.add_sub_cancel' hlo]
  · intro item hitem
    have hle := (List.pairwise_cons.mp hsorted).1 item hitem
    have hne : buffer.next ≠ item := fun heq ↦
      (List.nodup_cons.mp hdistinct).1 (heq ▸ hitem)
    exact Nat.lt_of_le_of_ne hle hne
  · simpa using hperm

/-- A number that has not arrived is not below the next one. -/
theorem Holds.next_le_of_notMem (hholds : Holds lo arrived buffer) (hlo : lo ≤ item)
    (hnew : item ∉ arrived) : buffer.next ≤ item := by
  by_contra hlt
  refine hnew (hholds.perm.mem_iff.mp (List.mem_append_left _ ?_))
  rw [hholds.released, List.mem_range'_1]
  omega

/-- A number that has not arrived yet is put in its place. -/
theorem Holds.insert (hholds : Holds lo arrived buffer) (hlo : lo ≤ item) (hnew : item ∉ arrived) :
    Holds lo (arrived ++ [item]) (buffer.insert item) := by
  have hnext := hholds.next_le_of_notMem hlo hnew
  refine ⟨hholds.start_le, hholds.released, hholds.sorted.orderedInsert item _, ?_, ?_⟩
  · intro other hother
    rcases (List.mem_orderedInsert _).mp hother with rfl | hother
    · exact hnext
    · exact hholds.next_le other hother
  · have hplaced : (buffer.insert item).waiting.Perm (item :: buffer.waiting) :=
      List.perm_orderedInsert _ item buffer.waiting
    refine (hplaced.append_left buffer.released).trans (List.perm_middle.trans ?_)
    exact (hholds.perm.cons item).trans (List.perm_append_singleton item arrived).symm

/-- What holds after an offer. -/
theorem Holds.offer (hholds : Holds lo arrived buffer) (hlo : lo ≤ item) (hnodup : arrived.Nodup)
    (hnew : item ∉ arrived) : Settled lo (arrived ++ [item]) (buffer.offer item) := by
  have hinsert := hholds.insert hlo hnew
  have hnodup' : (arrived ++ [item]).Nodup := List.nodup_append'.mpr
    ⟨hnodup, List.nodup_singleton _, by simpa using hnew⟩
  refine ⟨drain_induction _ _ hinsert fun _ _ h hrelease ↦ h.release hnodup' hrelease, ?_⟩
  have hmore : buffer.offer item =
      drain ReorderBuffer.release ((buffer.insert item).waiting.length + 1) (buffer.insert item) :=
    drain_eq_of_le (fun b ↦ b.waiting.length) (fun _ _ ↦ length_release) le_rfl (Nat.le_succ _)
  rw [hmore]
  exact drain_stops (fun b ↦ b.waiting.length) (fun _ _ ↦ length_release) _ _ (Nat.lt_succ_self _)

/-- What holds after any offers of different numbers. -/
theorem settled_offers {order : List ℕ} (hsettled : Settled lo arrived buffer)
    (hlo : ∀ item ∈ order, lo ≤ item) (hnodup : (arrived ++ order).Nodup) :
    Settled lo (arrived ++ order) (order.foldl offer buffer) := by
  induction order generalizing arrived buffer with
  | nil => simpa using hsettled
  | cons item order ih =>
    have hsplit : arrived ++ item :: order = (arrived ++ [item]) ++ order := by simp
    rw [hsplit] at hnodup ⊢
    have harrived := (List.nodup_append'.mp hnodup).1
    refine ih ?_ (fun other hother ↦ hlo other (List.mem_cons_of_mem _ hother)) hnodup
    refine hsettled.toHolds.offer (hlo item List.mem_cons_self)
      (List.nodup_append'.mp harrived).1 ?_
    intro hitem
    exact (List.nodup_append'.mp harrived).2.2 hitem (List.mem_singleton_self _)

/-- When all numbers of an interval have arrived, all have been released. -/
theorem Settled.of_perm {count : ℕ} (hsettled : Settled lo arrived buffer)
    (hperm : arrived.Perm (List.range' lo count)) :
    buffer = ⟨lo + count, [], List.range' lo count⟩ := by
  have hall := hsettled.perm.trans hperm
  have hwaiting : buffer.waiting = [] := by
    cases hwaiting : buffer.waiting with
    | nil => rfl
    | cons item rest =>
      exfalso
      have hfirst : item ∈ List.range' lo count :=
        hall.mem_iff.mp (List.mem_append_right _ (by rw [hwaiting]; exact List.mem_cons_self))
      have hne : item ≠ buffer.next := by
        intro heq
        have hstopped := hsettled.stopped
        simp [ReorderBuffer.release, hwaiting, heq] at hstopped
      have hle := hsettled.next_le item (by rw [hwaiting]; exact List.mem_cons_self)
      have hlo := hsettled.start_le
      rw [List.mem_range'_1] at hfirst
      have hnext : buffer.next ∈ buffer.released ++ buffer.waiting :=
        hall.mem_iff.mpr (List.mem_range'_1.mpr (by omega))
      rcases List.mem_append.mp hnext with hmem | hmem
      · rw [hsettled.released, List.mem_range'_1] at hmem
        omega
      · have hsorted := hsettled.sorted
        rw [hwaiting] at hmem hsorted
        rcases List.mem_cons.mp hmem with heq | hmem
        · exact hne heq.symm
        · have := (List.pairwise_cons.mp hsorted).1 _ hmem
          omega
  have hlength := hall.length_eq
  rw [hwaiting, List.append_nil, hsettled.released, List.length_range',
    List.length_range'] at hlength
  have hreleased := hsettled.released
  have hlo := hsettled.start_le
  obtain ⟨next, waiting, released⟩ := buffer
  simp only at hwaiting hlength hreleased hlo
  rw [hreleased, hwaiting, hlength]
  congr
  omega

/-- The numbers of an interval, offered in any order, are all released in order. -/
theorem offers_perm {count : ℕ} {order : List ℕ} (hperm : order.Perm (List.range' lo count)) :
    order.foldl offer (start lo) = ⟨lo + count, [], List.range' lo count⟩ := by
  have hlo : ∀ item ∈ order, lo ≤ item := fun item hitem ↦
    (List.mem_range'_1.mp (hperm.mem_iff.mp hitem)).1
  have hnodup : ([] ++ order).Nodup := hperm.nodup_iff.mpr List.nodup_range'
  exact (settled_offers (settled_start lo) hlo hnodup).of_perm hperm

/-- An order of arrival that has the first numbers of an interval first falls into two. -/
theorem perm_split {low high : List ℕ} {count split : ℕ}
    (hperm : (low ++ high).Perm (List.range count)) (hsplit : split ≤ count)
    (hlow : ∀ item ∈ low, item < split) (hhigh : ∀ item ∈ high, split ≤ item) :
    low.Perm (List.range' 0 split) ∧ high.Perm (List.range' split (count - split)) := by
  have hnodup := List.nodup_append'.mp (hperm.nodup_iff.mpr List.nodup_range)
  have hmem : ∀ item, item ∈ low ∨ item ∈ high ↔ item < count := fun item ↦ by
    rw [← List.mem_append, hperm.mem_iff, List.mem_range]
  constructor
  · refine (List.perm_ext_iff_of_nodup hnodup.1 List.nodup_range').mpr fun item ↦ ?_
    rw [List.mem_range'_1, Nat.zero_add]
    refine ⟨fun hin ↦ ⟨Nat.zero_le _, hlow item hin⟩, fun hin ↦ ?_⟩
    refine ((hmem item).mpr (hin.2.trans_le hsplit)).resolve_right fun hother ↦ ?_
    exact absurd (hhigh item hother) (Nat.not_le.mpr hin.2)
  · refine (List.perm_ext_iff_of_nodup hnodup.2.1 List.nodup_range').mpr fun item ↦ ?_
    rw [List.mem_range'_1, Nat.add_sub_cancel' hsplit]
    refine ⟨fun hin ↦ ⟨hhigh item hin, (hmem item).mp (Or.inr hin)⟩, fun hin ↦ ?_⟩
    refine ((hmem item).mpr hin.2).resolve_left fun hother ↦ ?_
    exact absurd (hlow item hother) (Nat.not_lt.mpr hin.1)

/-- Either the items with a property all come last, or the first of them comes before one
without. -/
theorem split_or_early (p : ℕ → Prop) (order : List ℕ) :
    (∃ low high, order = low ++ high ∧ (∀ item ∈ low, ¬ p item) ∧ ∀ item ∈ high, p item) ∨
      ∃ low early high late, order = low ++ early :: high ∧ (∀ item ∈ low, ¬ p item) ∧ p early ∧
        late ∈ high ∧ ¬ p late := by
  induction order with
  | nil => exact Or.inl ⟨[], [], rfl, by simp, by simp⟩
  | cons item order ih =>
    by_cases hitem : p item
    · by_cases hall : ∀ other ∈ order, p other
      · refine Or.inl ⟨[], item :: order, rfl, by simp, fun other hother ↦ ?_⟩
        rcases List.mem_cons.mp hother with rfl | hother
        · exact hitem
        · exact hall other hother
      · push Not at hall
        obtain ⟨late, hlate, hnot⟩ := hall
        exact Or.inr ⟨[], item, order, late, rfl, by simp, hitem, hlate, hnot⟩
    · have hcons : ∀ low : List ℕ, (∀ other ∈ low, ¬ p other) → ∀ other ∈ item :: low, ¬ p other :=
        fun low hlow other hother ↦ (List.mem_cons.mp hother).elim (fun heq ↦ heq ▸ hitem)
          (hlow other)
      rcases ih with ⟨low, high, rfl, hlow, hhigh⟩ | ⟨low, early, high, late, rfl, hlow, hrest⟩
      · exact Or.inl ⟨item :: low, high, rfl, hcons low hlow, hhigh⟩
      · exact Or.inr ⟨item :: low, early, high, late, rfl, hcons low hlow, hrest⟩

end ReorderBuffer

end KernelModules.Foundations
