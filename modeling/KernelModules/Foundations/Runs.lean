import Mathlib.Data.List.Forall2
import Mathlib.Logic.Basic

/-!
# Runs of a machine

A machine takes one step for every event. A condition on steps speaks of the state before the step
and of the event; it holds along a run if it holds of every step of the run. What every step under
the condition preserves, every run along which the condition holds preserves (`Along.invariant`),
and two machines that keep in step under the condition do so for the whole run (`Along.rel`). Two
conditions that agree on the states with an invariant agree on runs (`along_congr`), and what holds
at every moment of a run is a condition on its steps (`forall_take_iff_along`).

A machine may also answer every input. `answers` are its answers along a run, and `Allows` says that
a specification with states of its own, which relates an input and an answer to the next state,
allows them. Two machines whose steps answer alike answer alike for ever (`answers_eq_of_rel`), and
inputs of which the others notice nothing may be left out (`answers_filter`).
-/

set_option autoImplicit false
set_option relaxedAutoImplicit false

namespace KernelModules.Foundations

variable {σ τ ε ζ : Type*}

/-- The condition holds of every step of the run. -/
def Along (step : σ → ε → σ) (condition : σ → ε → Prop) : σ → List ε → Prop
  | _, [] => True
  | state, event :: events => condition state event ∧ Along step condition (step state event) events

instance decidableAlong (step : σ → ε → σ) (condition : σ → ε → Prop)
    [∀ state event, Decidable (condition state event)] :
    (state : σ) → (events : List ε) → Decidable (Along step condition state events)
  | _, [] => inferInstanceAs (Decidable True)
  | state, event :: events =>
    haveI := decidableAlong step condition (step state event) events
    inferInstanceAs (Decidable (_ ∧ _))

/-- A condition holds along a run exactly if it holds along its two parts. -/
theorem along_append {step : σ → ε → σ} {condition : σ → ε → Prop} {state : σ}
    {first second : List ε} :
    Along step condition state (first ++ second) ↔
      Along step condition state first ∧ Along step condition (first.foldl step state) second := by
  induction first generalizing state with
  | nil => exact ⟨fun h ↦ ⟨trivial, h⟩, fun h ↦ h.2⟩
  | cons event first ih =>
    change condition state event ∧ Along step condition (step state event) (first ++ second) ↔
      (condition state event ∧ Along step condition (step state event) first) ∧
        Along step condition (first.foldl step (step state event)) second
    rw [ih, and_assoc]

/-- What every step under the condition preserves, every run under the condition preserves. -/
theorem Along.invariant {step : σ → ε → σ} {condition : σ → ε → Prop} {invariant : σ → Prop}
    (hstep : ∀ state event, invariant state → condition state event → invariant (step state event))
    {state : σ} {events : List ε} (halong : Along step condition state events)
    (hstart : invariant state) : invariant (events.foldl step state) := by
  induction events generalizing state with
  | nil => exact hstart
  | cons event events ih => exact ih halong.2 (hstep state event hstart halong.1)

/-- Two conditions that say the same of every step from a state with an invariant, if a step under
the condition keeps the invariant, say the same of every run. -/
theorem along_congr {step : σ → ε → σ} {condition condition' : σ → ε → Prop} {invariant : σ → Prop}
    (hiff : ∀ state event, invariant state → (condition state event ↔ condition' state event))
    (hstep : ∀ state event, invariant state → condition' state event →
      invariant (step state event))
    {state : σ} (hstart : invariant state) (events : List ε) :
    Along step condition state events ↔ Along step condition' state events := by
  induction events generalizing state with
  | nil => exact Iff.rfl
  | cons event events ih =>
    have hfirst := hiff state event hstart
    constructor
    · rintro ⟨hnow, hrest⟩
      have hnow' := hfirst.mp hnow
      exact ⟨hnow', (ih (hstep state event hstart hnow')).mp hrest⟩
    · rintro ⟨hnow', hrest⟩
      exact ⟨hfirst.mpr hnow', (ih (hstep state event hstart hnow')).mpr hrest⟩

/-- A property of states holds at every moment of a run exactly if it holds after every step. -/
theorem forall_take_iff_along {step : σ → ε → σ} {P : σ → Prop} {state : σ} (hstart : P state)
    (events : List ε) :
    (∀ k, P ((events.take k).foldl step state)) ↔
      Along step (fun state event ↦ P (step state event)) state events := by
  induction events generalizing state with
  | nil => exact ⟨fun _ ↦ trivial, fun _ k ↦ by rwa [List.take_nil]⟩
  | cons event events ih =>
    constructor
    · intro hall
      have hfirst : P (step state event) := hall 1
      exact ⟨hfirst, (ih hfirst).mp fun k ↦ hall (k + 1)⟩
    · rintro ⟨hfirst, hrest⟩ k
      cases k with
      | zero => exact hstart
      | succ k => exact (ih hfirst).mpr hrest k

/-- Two machines whose steps keep in step as long as the first meets a condition. -/
theorem Along.rel {step : σ → ε → σ} {step' : τ → ζ → τ} {condition : σ → ε → Prop}
    {R : σ → τ → Prop} {E : ε → ζ → Prop}
    (hstep : ∀ state state' event event', R state state' → E event event' →
      condition state event → R (step state event) (step' state' event'))
    {state : σ} {state' : τ} {events : List ε} {events' : List ζ}
    (halong : Along step condition state events) (hevents : List.Forall₂ E events events')
    (hstart : R state state') : R (events.foldl step state) (events'.foldl step' state') := by
  induction hevents generalizing state state' with
  | nil => exact hstart
  | cons hevent _ ih => exact ih halong.2 (hstep _ _ _ _ hstart hevent halong.1)

/-! ### Machines that answer -/

section Answers

variable {α β : Type*} {step : σ → α → β × σ}

/-- The answers of a machine along a run. -/
def answers (step : σ → α → β × σ) : σ → List α → List β
  | _, [] => []
  | state, input :: inputs => (step state input).1 :: answers step (step state input).2 inputs

/-- The state of the machine after a run. -/
def stateAfter (step : σ → α → β × σ) (state : σ) (inputs : List α) : σ :=
  inputs.foldl (fun state input ↦ (step state input).2) state

/-- A specification allows the answers to the inputs. -/
def Allows (spec : τ → α → β → τ → Prop) : τ → List α → List β → Prop
  | _, [], [] => True
  | state, input :: inputs, answer :: answers =>
    ∃ state', spec state input answer state' ∧ Allows spec state' inputs answers
  | _, _, _ => False

/-- The answers after some inputs are those from the state the machine has come to. -/
theorem drop_answers (step : σ → α → β × σ) (state : σ) (inputs : List α) (k : ℕ) :
    (answers step state inputs).drop k =
      answers step (stateAfter step state (inputs.take k)) (inputs.drop k) := by
  induction inputs generalizing state k with
  | nil => simp [answers]
  | cons input inputs ih =>
    cases k with
    | zero => rfl
    | succ k => exact ih (step state input).2 k

/-- A single answer. -/
theorem getElem?_answers (step : σ → α → β × σ) (state : σ) (inputs : List α) (k : ℕ) :
    (answers step state inputs)[k]? =
      inputs[k]?.map fun input ↦ (step (stateAfter step state (inputs.take k)) input).1 := by
  induction inputs generalizing state k with
  | nil => rfl
  | cons input inputs ih =>
    cases k with
    | zero => rfl
    | succ k => exact ih (step state input).2 k

theorem stateAfter_take_succ (step : σ → α → β × σ) (state : σ) {inputs : List α} {k : ℕ}
    {input : α} (hinput : inputs[k]? = some input) :
    stateAfter step state (inputs.take (k + 1)) =
      (step (stateAfter step state (inputs.take k)) input).2 := by
  rw [List.take_add_one, hinput, stateAfter, List.foldl_append]
  rfl

/-- What every step keeps, every run keeps. -/
theorem stateAfter_invariant {invariant : σ → Prop}
    (hstep : ∀ state input, invariant state → invariant (step state input).2) {state : σ}
    (hstart : invariant state) (inputs : List α) : invariant (stateAfter step state inputs) := by
  induction inputs generalizing state with
  | nil => exact hstart
  | cons input inputs ih => exact ih (hstep state input hstart)

/-- Machines whose steps answer alike and keep in step. -/
theorem answers_eq_of_rel {step' : τ → α → β × τ} {R : σ → τ → Prop}
    (hstep : ∀ state state' input, R state state' →
      (step state input).1 = (step' state' input).1 ∧
        R (step state input).2 (step' state' input).2)
    {state : σ} {state' : τ} (hstart : R state state') (inputs : List α) :
    answers step state inputs = answers step' state' inputs := by
  induction inputs generalizing state state' with
  | nil => rfl
  | cons input inputs ih =>
    obtain ⟨hanswer, hnext⟩ := hstep state state' input hstart
    rw [answers, answers, hanswer, ih hnext]

/-- A machine on which some inputs have no effect that the others could notice: without them, the
others are answered as before. -/
theorem answers_filter (keep : α → Bool) {R : σ → σ → Prop}
    (hkeep : ∀ state state' input, keep input = true → R state state' →
      (step state input).1 = (step state' input).1 ∧ R (step state input).2 (step state' input).2)
    (hdrop : ∀ state state' input, keep input = false → R state state' →
      R (step state input).2 state')
    {state state' : σ} (hstart : R state state') (inputs : List α) :
    ((inputs.zip (answers step state inputs)).filter (keep ·.1)).map Prod.snd =
      answers step state' (inputs.filter keep) := by
  induction inputs generalizing state state' with
  | nil => rfl
  | cons input inputs ih =>
    rw [answers, List.zip_cons_cons]
    cases hinput : keep input with
    | true =>
      obtain ⟨hanswer, hnext⟩ := hkeep state state' input hinput hstart
      simp only [List.filter_cons, hinput, if_true, List.map_cons, answers, ih hnext, hanswer]
    | false =>
      simp only [List.filter_cons, hinput, Bool.false_eq_true, if_false]
      exact ih (hdrop state state' input hinput hstart)

end Answers

end KernelModules.Foundations
