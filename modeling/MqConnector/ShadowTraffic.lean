/-
This file asks whether the shadow destination touches the live traffic.

A worker publishes to it after the breaker has learnt the result, and closes its message as handled
whatever becomes of the publish. So with every publishing worker taken for a closing one, an executor
reaches exactly the states that it reaches without a shadow destination.
-/

import MqConnector.Executor

namespace MqConnector

def Executor.withoutShadow {World : Type} (executor : Executor World) : Executor World :=
  { executor with shadowDest := none }

/-- A worker that is publishing to the shadow destination counts as closing its message. -/
def Phase.unshadowed : Phase → Phase
  | .shadowing attempt => .closing attempt.message (some attempt) true
  | phase => phase

def PipelineState.unshadowed (state : PipelineState) : PipelineState where
  shared := state.shared
  workers worker := (state.workers worker).unshadowed

variable {World : Type} {executor : Executor World} {state after : PipelineState} {worker : Nat}
  {action : Action World}

/-- A worker that is not publishing takes the same step without the shadow destination. -/
theorem Executor.advance_withoutShadow {shared : Shared} {phase : Phase}
    (live : ∀ attempt, phase ≠ .shadowing attempt) :
    executor.withoutShadow.advance shared phase action =
      (executor.advance shared phase action).map (Prod.map Phase.unshadowed id) := by
  fun_cases Executor.advance executor shared phase action
  case case5 message outcome now =>
    simp only [advance, Option.map_some]
    split
    all_goals rfl
  case case6 message outcome clock =>
    change some (executor.gate shared message outcome clock) = _
    unfold gate
    repeat' split
    all_goals rfl
  case case7 attempt target rest sendErr err =>
    change some (executor.sendTo shared attempt target rest sendErr err) = _
    unfold sendTo
    repeat' split
    all_goals rfl
  case case8 attempt sendErr now =>
    cases sendErr with
    | some reason => rfl
    | none =>
      simp only [advance, concludeForward]
      cases executor.shadows attempt.outcome.body with
      | true => rfl
      | false => rfl
  case case9 attempt => exact absurd rfl (live attempt)
  all_goals simp [advance, withoutShadow, Phase.unshadowed, stageFailureEntry, *]

/-- The label moves no worker that is publishing. -/
def PipelineState.Live (state : PipelineState) (label : PipelineLabel World) : Prop :=
  ∀ worker action attempt, label = .act worker action → state.workers worker ≠ .shadowing attempt

/-- Every step is the same without the shadow. -/
theorem Executor.step_withoutShadow {label : PipelineLabel World} (live : state.Live label) :
    executor.withoutShadow.step state.unshadowed label =
      (executor.step state label).map PipelineState.unshadowed := by
  cases label with
  | arrive body => rfl
  | prune cutoff => rfl
  | act worker action =>
    have here (attempt : Attempt) := live worker action attempt rfl
    have same : (state.workers worker).unshadowed = state.workers worker := by
      cases phase : state.workers worker with
      | shadowing attempt => exact absurd phase (here attempt)
      | _ => rfl
    simp [step, PipelineState.unshadowed, same, advance_withoutShadow here, Function.comp_def,
      Function.apply_update fun _ => Phase.unshadowed]

/-- A publish that ends is not seen. -/
theorem PipelineState.unshadowed_of_published {attempt : Attempt}
    (phase : state.workers worker = .shadowing attempt)
    (fired : executor.step state (.act worker action) = some after) :
    after.workers worker = .closing attempt.message (some attempt) true ∧
      after.unshadowed = state.unshadowed := by
  rw [Executor.step, phase] at fired
  cases action with
  | shadowSend =>
    cases fired
    refine ⟨Function.update_self .., congrArg (PipelineState.mk state.shared) (funext fun other => ?_)⟩
    by_cases same : other = worker
    · simp [same, phase, Phase.unshadowed]
    · simp [same]
  | _ => cases fired

/-- With every publishing worker taken for a closing one, an executor reaches exactly the states
that it reaches without its shadow destination. -/
theorem reaches_withoutShadow_iff (executor : Executor World) (live : PipelineState) :
    Runs.Reachable executor.withoutShadow.step .initial live ↔
      ∃ state, Runs.Reachable executor.step .initial state ∧ state.unshadowed = live := by
  constructor
  · intro reached
    induction reached with
    | start => exact ⟨_, .start, rfl⟩
    | @next _ _ label _ _ fired hypothesis =>
      obtain ⟨state, reached, rfl⟩ := hypothesis
      -- a worker that is publishing ends its publish first
      obtain ⟨settled, reached, same, live⟩ : ∃ settled, Runs.Reachable executor.step .initial settled ∧
          settled.unshadowed = state.unshadowed ∧ settled.Live label := by
        by_cases live : state.Live label
        · exact ⟨state, reached, rfl, live⟩
        · simp only [PipelineState.Live, not_forall, not_not] at live
          obtain ⟨worker, action, attempt, rfl, phase⟩ := live
          obtain ⟨settled, ended⟩ := Option.isSome_iff_exists.mp
            (show (executor.step state (.act worker .shadowSend)).isSome by rw [Executor.step, phase]; rfl)
          obtain ⟨closing, same⟩ := PipelineState.unshadowed_of_published phase ended
          refine ⟨settled, .next reached trivial ended, same, ?_⟩
          rintro _ _ _ ⟨⟩
          simp [closing]
      rw [← same, Executor.step_withoutShadow live] at fired
      obtain ⟨later, steps, rfl⟩ := Option.map_eq_some_iff.mp fired
      exact ⟨later, .next reached trivial steps, rfl⟩
  · rintro ⟨state, reached, rfl⟩
    induction reached with
    | start => exact .start
    | @next state after label _ _ fired hypothesis =>
      by_cases live : state.Live label
      · have steps := @Executor.step_withoutShadow _ executor _ _ live
        rw [fired] at steps
        exact .next hypothesis trivial steps
      · simp only [PipelineState.Live, not_forall, not_not] at live
        obtain ⟨worker, action, attempt, rfl, phase⟩ := live
        rw [(PipelineState.unshadowed_of_published phase fired).2]
        exact hypothesis

end MqConnector
