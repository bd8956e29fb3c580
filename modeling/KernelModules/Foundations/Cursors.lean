import KernelModules.Foundations.Draining
import Mathlib.Data.List.Range
import Mathlib.Data.List.Lemmas

/-!
# Enumerations in instalments

Something is to be listed, and all that is kept between two calls is a position. At a position there
is nothing more to list, or nothing at this place, or a record (`Turn`). `Enumerates` says what is
ahead of every position: a list that loses its first record at a turn with a record, and that stays
as it is at a turn without.

A call with a buffer lists records as long as they fit (`dumpStep`). It stops, and what it has
listed together with what is ahead of the position where it stops is what was ahead of the position
where it started (`drain_dumpStep`). If every buffer takes at least one record, the calls up to the
first one that lists nothing list everything, each record once and in order
(`listsAll_of_instalments`).

A cursor gives one record at a time. What it gives in the end is what was ahead of it, up to the
first record that breaks it (`output_eq`).
-/

set_option autoImplicit false
set_option relaxedAutoImplicit false

namespace KernelModules.Foundations

variable {P R : Type*}

/-! ### Counting loops -/

/-- The loop `if (++count > nth) return entry`. -/
def findNth (nth : ℕ) : ℕ → List R → Option R
  | _, [] => none
  | count, entry :: entries =>
    if count + 1 > nth then some entry else findNth nth (count + 1) entries

theorem findNth_eq {nth count : ℕ} (hcount : count ≤ nth) (entries : List R) :
    findNth nth count entries = entries[nth - count]? := by
  induction entries generalizing count with
  | nil => rfl
  | cons entry entries ih =>
    rw [findNth]
    split_ifs with hfound
    · have hzero : nth - count = 0 := by omega
      rw [hzero, List.getElem?_cons_zero]
    · have hsucc : nth - count = nth - (count + 1) + 1 := by omega
      rw [ih (by omega), hsucc, List.getElem?_cons_succ]

/-! ### Positions -/

/-- What there is at a position. -/
inductive Turn (P R : Type*)
  | done
  | skip (next : P)
  | item (record : R) (next : P)

/-- What is ahead of a position: `ahead` loses its first record at a turn that has one, and no more
than `cost` turns are left. -/
structure Enumerates (turn : P → Turn P R) (Inv : P → Prop) (ahead : P → List R)
    (cost : P → ℕ) : Prop where
  done : ∀ p, Inv p → turn p = .done → ahead p = []
  skip : ∀ p q, Inv p → turn p = .skip q → Inv q ∧ ahead p = ahead q ∧ cost q < cost p
  item : ∀ p r q, Inv p → turn p = .item r q → Inv q ∧ ahead p = r :: ahead q ∧ cost q < cost p

/-- One turn of a call that lists records as long as they fit. -/
def dumpStep (turn : P → Turn P R) (fits : List R → R → Bool) (state : P × List R) :
    Option (P × List R) :=
  match turn state.1 with
  | .done => none
  | .skip next => some (next, state.2)
  | .item record next =>
    if fits state.2 record then some (next, state.2 ++ [record]) else none

section Calls

variable {turn : P → Turn P R} {Inv : P → Prop} {ahead : P → List R} {cost : P → ℕ}
  {fits : List R → R → Bool}

/-- A turn of a call moves records from what is ahead to what is listed. -/
theorem dumpStep_eq_some (henum : Enumerates turn Inv ahead cost) {state next : P × List R}
    (hinv : Inv state.1) (hstep : dumpStep turn fits state = some next) :
    Inv next.1 ∧ state.2 ++ ahead state.1 = next.2 ++ ahead next.1 ∧
      cost next.1 < cost state.1 := by
  unfold dumpStep at hstep
  cases hturn : turn state.1 with
  | done =>
    rw [hturn] at hstep
    cases hstep
  | skip q =>
    rw [hturn] at hstep
    cases hstep
    obtain ⟨hnext, hahead, hless⟩ := henum.skip _ q hinv hturn
    exact ⟨hnext, by rw [hahead], hless⟩
  | item r q =>
    rw [hturn] at hstep
    dsimp only at hstep
    split_ifs at hstep
    cases hstep
    obtain ⟨hnext, hahead, hless⟩ := henum.item _ r q hinv hturn
    exact ⟨hnext, by rw [hahead, List.append_assoc]; rfl, hless⟩

/-- A call stops when nothing is ahead, or at a record that does not fit. -/
theorem dumpStep_eq_none (henum : Enumerates turn Inv ahead cost) {state : P × List R}
    (hinv : Inv state.1) (hstop : dumpStep turn fits state = none) :
    ahead state.1 = [] ∨ ∃ record rest, ahead state.1 = record :: rest ∧
      fits state.2 record = false := by
  unfold dumpStep at hstop
  cases hturn : turn state.1 with
  | done => exact Or.inl (henum.done _ hinv hturn)
  | skip q =>
    rw [hturn] at hstop
    cases hstop
  | item r q =>
    rw [hturn] at hstop
    dsimp only at hstop
    split_ifs at hstop with hfits
    exact Or.inr ⟨r, _, (henum.item _ r q hinv hturn).2.1, Bool.eq_false_of_not_eq_true hfits⟩

/-- A call stops, and it has listed what was ahead of where it started and is not ahead of where it
stops. -/
theorem drain_dumpStep (fits : List R → R → Bool) (henum : Enumerates turn Inv ahead cost) {p : P}
    (hinv : Inv p) {count : ℕ} (hcount : cost p ≤ count) :
    dumpStep turn fits (drain (dumpStep turn fits) count (p, [])) = none ∧
      Inv (drain (dumpStep turn fits) count (p, [])).1 ∧
      ahead p = (drain (dumpStep turn fits) count (p, [])).2 ++
        ahead (drain (dumpStep turn fits) count (p, [])).1 := by
  obtain ⟨⟨hlast, hahead⟩, hstop⟩ := drain_stops_of_invariant
    (P := fun state ↦ Inv state.1 ∧ ahead p = state.2 ++ ahead state.1) (fun state ↦ cost state.1)
    (fun state next hstate hstep ↦ by
      obtain ⟨hnext, hmoved, hless⟩ := dumpStep_eq_some henum hstate.1 hstep
      exact ⟨⟨hnext, hstate.2.trans hmoved⟩, hless⟩) count (p, []) ⟨hinv, rfl⟩ hcount
  exact ⟨hstop, hlast, hahead⟩

/-- A call that has room for a first record lists nothing only if there is nothing to list. -/
theorem ahead_of_drain_dumpStep (henum : Enumerates turn Inv ahead cost) {p : P} (hinv : Inv p)
    {count : ℕ} (hcount : cost p ≤ count) (hroom : ∀ record, fits [] record = true)
    (hnothing : (drain (dumpStep turn fits) count (p, [])).2 = []) : ahead p = [] := by
  obtain ⟨hstop, hlast, hahead⟩ := drain_dumpStep fits henum hinv hcount
  rw [hahead, hnothing, List.nil_append]
  rcases dumpStep_eq_none henum hlast hstop with hend | ⟨record, rest, -, hfull⟩
  · exact hend
  · rw [hnothing, hroom] at hfull
    cases hfull

end Calls

/-! ### Successive calls -/

/-- What the call with number `k` lists, when every call goes on where the one before it stopped. -/
def instalment (call : ℕ → P → P × List R) : ℕ → P → List R
  | 0, p => (call 0 p).2
  | k + 1, p => instalment (fun j ↦ call (j + 1)) k (call 0 p).1

/-- The calls up to the first one that lists nothing list `records`. -/
def ListsAll (call : ℕ → P → P × List R) (start : P) (records : List R) : Prop :=
  ∃ count, (∀ k < count, instalment call k start ≠ []) ∧ instalment call count start = [] ∧
    (List.range count).flatMap (fun k ↦ instalment call k start) = records

/-- Calls that list what they owe from the front, and nothing only if they owe nothing. -/
theorem listsAll_of_instalments {call : ℕ → P → P × List R} (owes : P → List R → Prop)
    (hcall : ∀ k p records, owes p records → ∃ rest, records = (call k p).2 ++ rest ∧
      owes (call k p).1 rest ∧ ((call k p).2 = [] → records = []))
    {start : P} {records : List R} (hstart : owes start records) :
    ListsAll call start records := by
  induction hlength : records.length using Nat.strong_induction_on generalizing call start records
    with
  | _ length ih =>
    obtain ⟨rest, hsplit, howes, hempty⟩ := hcall 0 start records hstart
    by_cases hnothing : (call 0 start).2 = []
    · exact ⟨0, fun k hk ↦ absurd hk (Nat.not_lt_zero k), hnothing, (hempty hnothing).symm⟩
    · have hshorter : rest.length < length := by
        have hfront := List.length_pos_iff.mpr hnothing
        rw [← hlength, hsplit, List.length_append]
        omega
      obtain ⟨count, hsome, hnone, hall⟩ :=
        ih rest.length hshorter (fun k ↦ hcall (k + 1)) howes rfl
      refine ⟨count + 1, fun k hk ↦ ?_, hnone, ?_⟩
      · cases k with
        | zero => exact hnothing
        | succ k => exact hsome k (by omega)
      · rw [List.range_succ_eq_map, List.flatMap_cons, List.flatMap_map, hsplit, ← hall]
        rfl

/-! ### One record at a time -/

/-- What the round with number `k` gives. -/
def output {S : Type*} (round : S → S × Option R) : ℕ → S → Option R
  | 0, s => (round s).2
  | k + 1, s => output round k (round s).1

/-- Rounds that give what is ahead, from its front. -/
theorem output_eq {S : Type*} {round : S → S × Option R} (Inv : S → Prop) (ahead : S → List R)
    (hround : ∀ s, Inv s → Inv (round s).1 ∧ (round s).2 = (ahead s).head? ∧
      ahead (round s).1 = (ahead s).tail) {s : S} (hinv : Inv s) (k : ℕ) :
    output round k s = (ahead s)[k]? := by
  induction k generalizing s with
  | zero => rw [output, (hround s hinv).2.1, List.head?_eq_getElem?]
  | succ k ih =>
    obtain ⟨hnext, -, htail⟩ := hround s hinv
    rw [output, ih hnext, htail, List.getElem?_tail]

end KernelModules.Foundations
