/-
This file is the run library. It names nothing of the program: a step function
over arbitrary states and labels, the states it reaches, and the rules by
which something is proved of all of them.

A system is a step function `State → Label → Option State`: a label either
fires, giving the next state, or is not enabled. Concurrency is interleaving,
so a concurrent program is such a function whose labels say which party moves
and what the environment answers.
-/

import Mathlib.Data.Option.Basic

namespace Runs

variable {State Label : Type}

/-! ### Reached states -/

/-- The states reached from `first` by labels that are each allowed in the state they
fire in. -/
inductive Reaches (step : State → Label → Option State) (allowed : State → Label → Prop)
    (first : State) : State → Prop
  | start : Reaches step allowed first first
  | next {state after : State} {label : Label} (before : Reaches step allowed first state)
      (permitted : allowed state label) (fired : step state label = some after) :
      Reaches step allowed first after

/-- The states reached with no condition on the labels. -/
abbrev Reachable (step : State → Label → Option State) (first : State) : State → Prop :=
  Reaches step (fun _ _ => True) first

theorem Reaches.invariant {step : State → Label → Option State}
    {allowed : State → Label → Prop} {first : State} (property : State → Prop)
    (initially : property first)
    (kept : ∀ state label after, property state → allowed state label →
      step state label = some after → property after)
    {last : State} (reached : Reaches step allowed first last) : property last := by
  induction reached with
  | start => exact initially
  | next _ permitted fired hypothesis =>
    exact kept _ _ _ hypothesis permitted fired

/-- A weaker condition allows the same runs. -/
theorem Reaches.mono {step : State → Label → Option State}
    {narrow wide : State → Label → Prop} {first last : State}
    (weaker : ∀ state label, Reaches step narrow first state → narrow state label →
      wide state label)
    (reached : Reaches step narrow first last) : Reaches step wide first last := by
  induction reached with
  | start => exact .start
  | next before permitted fired hypothesis =>
    exact .next hypothesis (weaker _ _ before permitted) fired

/-- Runs follow each other. -/
theorem Reaches.trans {step : State → Label → Option State}
    {allowed : State → Label → Prop} {first middle last : State}
    (former : Reaches step allowed first middle) (latter : Reaches step allowed middle last) :
    Reaches step allowed first last := by
  induction latter with
  | start => exact former
  | next _ permitted fired hypothesis =>
    exact .next hypothesis permitted fired

/-! ### Executing a list of labels -/

/-- Fire the labels in order; `none` as soon as one is not allowed or not enabled. -/
def exec (step : State → Label → Option State) (allowed : State → Label → Prop)
    [∀ state label, Decidable (allowed state label)] (state : State) :
    List Label → Option State
  | [] => some state
  | label :: rest =>
    if allowed state label then
      (step state label).bind fun after => exec step allowed after rest
    else none

/-- A run that was executed is a run. -/
theorem reaches_of_exec (step : State → Label → Option State) (allowed : State → Label → Prop)
    [∀ state label, Decidable (allowed state label)] (labels : List Label) :
    ∀ {first last : State}, exec step allowed first labels = some last →
      Reaches step allowed first last := by
  induction labels with
  | nil =>
    intro first last executed
    cases executed
    exact .start
  | cons label rest hypothesis =>
    intro first last executed
    rw [exec] at executed
    split at executed
    · rename_i permitted
      obtain ⟨after, fired, continued⟩ := Option.bind_eq_some_iff.mp executed
      exact (Reaches.next .start permitted fired).trans (hypothesis continued)
    · cases executed

/-- The test at the end of an executed run holds of a state that is reached. -/
theorem exists_reaches_of_exec (step : State → Label → Option State)
    (allowed : State → Label → Prop) [∀ state label, Decidable (allowed state label)]
    (first : State) (labels : List Label) (test : State → Bool)
    (passed : (exec step allowed first labels).any test = true) :
    ∃ last, Reaches step allowed first last ∧ test last = true := by
  obtain ⟨last, executed, tested⟩ := (Option.any_eq_true _ _).mp passed
  exact ⟨last, reaches_of_exec step allowed labels executed, tested⟩

/-! ### Parties -/

theorem update_cases {Party Phase : Type} [DecidableEq Party] {phases : Party → Phase}
    {moved party : Party} {phase found : Phase}
    (does : Function.update phases moved phase party = found) :
    party = moved ∧ phase = found ∨ party ≠ moved ∧ phases party = found := by
  by_cases same : party = moved
  · rw [same, Function.update_self] at does
    exact Or.inl ⟨same, does⟩
  · rw [Function.update_of_ne same] at does
    exact Or.inr ⟨same, does⟩

end Runs
