import Mathlib.Order.Basic
import Mathlib.Data.List.Basic

/-!
# Loops that drain

A loop body that either stops or takes one more step is a function `σ → Option σ`. `drain` runs it a
given number of times, and a loop that removes something at every step is `drain` run as often as
there is something to remove: `drain_stops` says that it has then really stopped.

`drain_induction` carries an invariant of the body through the loop, `drain_rel` a relation between
the states of two loops that keep in step, and `drain_map` is the case of a function between states.
-/

set_option autoImplicit false
set_option relaxedAutoImplicit false

namespace KernelModules.Foundations

variable {σ τ : Type*}

/-- Run a loop body at most `count` times, until it stops. -/
def drain (body : σ → Option σ) : ℕ → σ → σ
  | 0, s => s
  | count + 1, s =>
    match body s with
    | none => s
    | some s' => drain body count s'

variable {body : σ → Option σ}

@[simp] theorem drain_zero (s : σ) : drain body 0 s = s := rfl

theorem drain_succ_none {s : σ} (hstop : body s = none) (count : ℕ) :
    drain body count s = s := by
  cases count with
  | zero => rfl
  | succ count => simp [drain, hstop]

theorem drain_succ_some {s s' : σ} (hstep : body s = some s') (count : ℕ) :
    drain body (count + 1) s = drain body count s' := by
  simp [drain, hstep]

/-- An invariant of the body holds when the loop ends. -/
theorem drain_induction {P : σ → Prop} (count : ℕ) (s : σ) (hstart : P s)
    (hbody : ∀ t t', P t → body t = some t' → P t') : P (drain body count s) := by
  induction count generalizing s with
  | zero => exact hstart
  | succ count ih =>
    cases hstep : body s with
    | none => rwa [drain_succ_none hstep]
    | some s' =>
      rw [drain_succ_some hstep]
      exact ih s' (hbody s s' hstart hstep)

/-- A loop whose body makes a measure smaller has stopped when it has been run as often as the
measure allows. -/
theorem drain_stops (measure : σ → ℕ) (hbody : ∀ t t', body t = some t' → measure t' < measure t)
    (count : ℕ) (s : σ) (hcount : measure s < count) : body (drain body count s) = none := by
  induction count generalizing s with
  | zero => exact absurd hcount (Nat.not_lt_zero _)
  | succ count ih =>
    cases hstep : body s with
    | none => rwa [drain_succ_none hstep]
    | some s' =>
      rw [drain_succ_some hstep]
      exact ih s' (by have := hbody s s' hstep; omega)

/-- A loop whose body keeps an invariant and, under it, makes a measure smaller: when it has been
run as often as the measure allows, it has stopped, and the invariant holds. -/
theorem drain_stops_of_invariant {P : σ → Prop} (measure : σ → ℕ)
    (hbody : ∀ t t', P t → body t = some t' → P t' ∧ measure t' < measure t) (count : ℕ) (s : σ)
    (hstart : P s) (hcount : measure s ≤ count) :
    P (drain body count s) ∧ body (drain body count s) = none := by
  induction count generalizing s with
  | zero =>
    cases hstep : body s with
    | none => exact ⟨hstart, hstep⟩
    | some s' =>
      have hless := (hbody s s' hstart hstep).2
      omega
  | succ count ih =>
    cases hstep : body s with
    | none =>
      rw [drain_succ_none hstep]
      exact ⟨hstart, hstep⟩
    | some s' =>
      obtain ⟨hnext, hless⟩ := hbody s s' hstart hstep
      rw [drain_succ_some hstep]
      exact ih s' hnext (by omega)

/-- Once a loop has enough runs to stop, further runs change nothing. -/
theorem drain_eq_of_le (measure : σ → ℕ) (hbody : ∀ t t', body t = some t' → measure t' < measure t)
    {count count' : ℕ} {s : σ} (hcount : measure s ≤ count) (hcount' : measure s ≤ count') :
    drain body count s = drain body count' s := by
  induction count generalizing s count' with
  | zero =>
    have hstop : body s = none := by
      cases hstep : body s with
      | none => rfl
      | some s' => have := hbody s s' hstep; omega
    rw [drain_zero, drain_succ_none hstop]
  | succ count ih =>
    cases hstep : body s with
    | none => rw [drain_succ_none hstep, drain_succ_none hstep]
    | some s' =>
      have hless := hbody s s' hstep
      obtain ⟨rest, rfl⟩ : ∃ rest, count' = rest + 1 := ⟨count' - 1, by omega⟩
      rw [drain_succ_some hstep, drain_succ_some hstep]
      exact ih (by omega) (by omega)

/-- Two loops whose bodies keep in step end in related states. -/
theorem drain_rel {body' : τ → Option τ} {R : σ → τ → Prop}
    (hbody : ∀ s t, R s t → (body s = none ∧ body' t = none) ∨
      ∃ s' t', body s = some s' ∧ body' t = some t' ∧ R s' t')
    (count : ℕ) {s : σ} {t : τ} (hstart : R s t) :
    R (drain body count s) (drain body' count t) := by
  induction count generalizing s t with
  | zero => exact hstart
  | succ count ih =>
    rcases hbody s t hstart with ⟨hstop, hstop'⟩ | ⟨s', t', hstep, hstep', hnext⟩
    · rwa [drain_succ_none hstop, drain_succ_none hstop']
    · rw [drain_succ_some hstep, drain_succ_some hstep']
      exact ih hnext

/-- Two loops whose bodies correspond under `f` end in corresponding states. -/
theorem drain_map {body' : τ → Option τ} (f : σ → τ) (hbody : ∀ t, body' (f t) = (body t).map f)
    (count : ℕ) (s : σ) : drain body' count (f s) = f (drain body count s) := by
  refine (drain_rel (R := fun s t ↦ f s = t) ?_ count rfl).symm
  rintro s t rfl
  cases hstep : body s with
  | none => exact Or.inl ⟨rfl, by rw [hbody, hstep, Option.map_none]⟩
  | some s' => exact Or.inr ⟨s', f s', rfl, by rw [hbody, hstep, Option.map_some], rfl⟩

end KernelModules.Foundations
