import Mathlib.Data.List.Basic

/-!
# Computations that may fault

A computation that may stop with a fault is an `Except`. `Yields result post` says that there is no
fault and that the result satisfies `post`. The rules follow the way such computations are put
together: one after the other (`Yields.bind`), along a list (`yields_foldlM`), and in a loop that
goes on while there is something to do (`yields_drainM`).
-/

set_option autoImplicit false
set_option relaxedAutoImplicit false

namespace KernelModules.Foundations

universe u

variable {ε α : Type*} {σ τ : Type u}

/-- There is a result, and it satisfies `post`. -/
def Yields (result : Except ε σ) (post : σ → Prop) : Prop := ∃ s, result = .ok s ∧ post s

theorem yields_ok {post : σ → Prop} {s : σ} (hpost : post s) : Yields (.ok s : Except ε σ) post :=
  ⟨s, rfl, hpost⟩

theorem Yields.imp {result : Except ε σ} {post post' : σ → Prop} (hyields : Yields result post)
    (himp : ∀ s, post s → post' s) : Yields result post' := by
  obtain ⟨s, hs, hpost⟩ := hyields
  exact ⟨s, hs, himp s hpost⟩

/-- One computation after the other. -/
theorem Yields.bind {first : Except ε σ} {second : σ → Except ε τ} {middle : σ → Prop}
    {post : τ → Prop} (hfirst : Yields first middle)
    (hsecond : ∀ s, middle s → Yields (second s) post) : Yields (first >>= second) post := by
  obtain ⟨s, rfl, hmiddle⟩ := hfirst
  exact hsecond s hmiddle

/-- An invariant of the elements that have been done. -/
theorem yields_foldlM {step : σ → α → Except ε σ} {invariant : List α → σ → Prop}
    (hstep : ∀ done a s, invariant done s → Yields (step s a) (invariant (a :: done)))
    (list done : List α) (s : σ) (hstart : invariant done s) :
    Yields (list.foldlM step s) (invariant (list.reverse ++ done)) := by
  induction list generalizing done s with
  | nil => exact yields_ok hstart
  | cons a list ih =>
    rw [List.foldlM_cons, List.reverse_cons, List.append_assoc]
    exact (hstep done a s hstart).bind fun s' hs' ↦ ih (a :: done) s' hs'

/-- Run a loop body at most `count` times, until it stops or faults. -/
def drainM (body : σ → Option (Except ε σ)) : ℕ → σ → Except ε σ
  | 0, s => .ok s
  | count + 1, s =>
    match body s with
    | none => .ok s
    | some next => next >>= drainM body count

theorem drainM_of_none {body : σ → Option (Except ε σ)} {s : σ} (hstop : body s = none)
    (count : ℕ) : drainM body count s = .ok s := by
  cases count with
  | zero => rfl
  | succ count => rw [drainM, hstop]

/-- A loop whose body keeps an invariant and makes a measure smaller: when it has been run as often
as the measure allows, it has stopped, and the invariant holds. -/
theorem yields_drainM {body : σ → Option (Except ε σ)} {P : σ → Prop} (measure : σ → ℕ)
    (hbody : ∀ s next, P s → body s = some next →
      Yields next fun s' ↦ P s' ∧ measure s' < measure s)
    (count : ℕ) (s : σ) (hstart : P s) (hcount : measure s ≤ count) :
    Yields (drainM body count s) fun s' ↦ P s' ∧ body s' = none := by
  induction count generalizing s with
  | zero =>
    cases hnext : body s with
    | none => exact yields_ok ⟨hstart, hnext⟩
    | some next =>
      obtain ⟨s', -, -, hless⟩ := hbody s next hstart hnext
      omega
  | succ count ih =>
    cases hnext : body s with
    | none =>
      rw [drainM_of_none hnext]
      exact yields_ok ⟨hstart, hnext⟩
    | some next =>
      rw [drainM, hnext]
      refine (hbody s next hstart hnext).bind fun s' hs' ↦ ih s' hs'.1 ?_
      have hless := hs'.2
      omega

end KernelModules.Foundations
