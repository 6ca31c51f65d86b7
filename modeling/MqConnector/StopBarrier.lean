/-
This file asks whether a stop is a barrier: once `Stop`, `StopAndWait` or
`StopAll` has returned, does a Reload that began before it still start executors?

`Reload` looks at the stopped flag once, and `StopAll` does not even set it. What
protects a stop is only that no Reload is under way when it runs, and this is
what the condition says.
-/

import MqConnector.Tracking

namespace MqConnector

namespace ManagerState

/-! ### Overtaken calls -/

/-- No Reload that began before a stop returned has started an executor with a live context
after it. -/
def NothingLate (state : ManagerState) : Prop :=
  state.late = []

end ManagerState

/-- The call can still start an executor, given whether the manager refuses Reloads. -/
def ManagerCall.canStart (stopped : Bool) : ManagerCall → Bool
  | .called => !stopped
  | .draining _ | .waiting _ _ | .reading _ _ _ => true
  | .starting todo => !todo.isEmpty
  | .idle | .stopWaiting => false

namespace ManagerState

/-- The condition on a step: a stop returns only when no Reload is between its call and its
last start (for `Stop` and `StopAndWait`, which refuse a Reload that has not looked at the flag
yet, between its look and its last start), unless the whole process is shutting down and the
parent context is already cancelled. -/
def StopsClear (state : ManagerState) : ManagerLabel → Prop
  | .stop => state.parentDone = true ∨ ∀ call, (state.calls call).canStart true = false
  | .stopAll | .stopReturn _ =>
    state.parentDone = true ∨ ∀ call, (state.calls call).canStart state.stopped = false
  | _ => True

/-- The invariant: nothing was started late, and whoever has been overtaken starts nothing
more. -/
structure BarrierKept (state : ManagerState) : Prop where
  late : state.NothingLate
  overtaken : state.parentDone = true ∨
    ∀ call, state.overtaken call = true → (state.calls call).canStart state.stopped = false

theorem canStart_of_stopped {stopped : Bool} {phase : ManagerCall}
    (refused : phase.canStart stopped = false) : phase.canStart true = false := by
  cases phase <;> simp_all [ManagerCall.canStart]

theorem BarrierKept.frame {state after : ManagerState} (kept : state.BarrierKept)
    (late : after.late = state.late) (parent : after.parentDone = state.parentDone)
    (calls : after.calls = state.calls) (overtaken : after.overtaken = state.overtaken)
    (stopped : after.stopped = state.stopped) : after.BarrierKept := by
  refine ⟨late.trans kept.late, ?_⟩
  rw [parent, calls, overtaken, stopped]
  exact kept.overtaken

theorem BarrierKept.setCall {state after : ManagerState} (kept : state.BarrierKept) (call : Nat)
    (phase : ManagerCall) (late : after.late = state.late)
    (parent : after.parentDone = state.parentDone)
    (calls : after.calls = Function.update state.calls call phase)
    (overtaken : ∀ other, after.overtaken other = true → state.overtaken other = true)
    (stopped : after.stopped = state.stopped)
    (own : after.overtaken call = true → phase.canStart state.stopped = false) :
    after.BarrierKept := by
  refine ⟨late.trans kept.late, ?_⟩
  rw [parent]
  rcases kept.overtaken with cancelled | refused
  · exact Or.inl cancelled
  refine Or.inr fun other marked => ?_
  rw [calls, stopped]
  by_cases same : other = call
  · rw [same, Function.update_self]
    exact own (same ▸ marked)
  · rw [Function.update_of_ne same]
    exact refused other (overtaken other marked)

theorem BarrierKept.advance {state after : ManagerState} (kept : state.BarrierKept) {call : Nat}
    {before : ManagerCall} (phase : ManagerCall) (at_ : state.calls call = before)
    (can : before.canStart state.stopped = true) (late : after.late = state.late)
    (parent : after.parentDone = state.parentDone)
    (calls : after.calls = Function.update state.calls call phase)
    (overtaken : after.overtaken = state.overtaken) (stopped : after.stopped = state.stopped) :
    after.BarrierKept := by
  rcases kept.overtaken with cancelled | refused
  · exact ⟨late.trans kept.late, Or.inl (parent.trans cancelled)⟩
  refine kept.setCall call phase late parent calls (fun _ marked => overtaken ▸ marked) stopped ?_
  intro marked
  have cannot := refused call (overtaken ▸ marked)
  rw [at_, can] at cannot
  cases cannot

theorem BarrierKept.stop {state after : ManagerState} (kept : state.BarrierKept)
    (late : after.late = state.late) (parent : after.parentDone = state.parentDone)
    (clear : state.parentDone = true ∨
      ∀ call, (after.calls call).canStart after.stopped = false) : after.BarrierKept := by
  refine ⟨late.trans kept.late, ?_⟩
  rw [parent]
  rcases clear with cancelled | refused
  · exact Or.inl cancelled
  · exact Or.inr fun call _ => refused call

theorem BarrierKept.begin {state after : ManagerState} (kept : state.BarrierKept) {call : Nat}
    (late : after.late = state.late) (parent : after.parentDone = state.parentDone)
    (calls : after.calls = Function.update state.calls call .called)
    (overtaken : after.overtaken = Function.update state.overtaken call false)
    (stopped : after.stopped = state.stopped) : after.BarrierKept := by
  refine kept.setCall call .called late parent calls (fun other marked => ?_) stopped fun marked => ?_
  · rw [overtaken] at marked
    by_cases same : other = call
    · rw [same, Function.update_self] at marked
      cases marked
    · rw [Function.update_of_ne same] at marked
      exact marked
  · rw [overtaken, Function.update_self] at marked
    cases marked

theorem BarrierKept.register {state : ManagerState} (kept : state.BarrierKept) {call : Nat}
    {rows : Rows} {todo : List Pipeline} (phase : state.calls call = .reading rows [] todo) :
    BarrierKept ((state.registerRows call rows).setCall call (.starting todo)) := by
  have quiet : (state.overtaken call && !state.parentDone) = false := by
    rcases kept.overtaken with cancelled | refused
    · rw [cancelled, Bool.not_true, Bool.and_false]
    · cases marked : state.overtaken call with
      | false => rfl
      | true =>
        have cannot := refused call marked
        rw [phase] at cannot
        cases cannot
  refine kept.advance (.starting todo) phase rfl ?_ rfl rfl rfl rfl
  simp only [ManagerState.setCall, registerRows, quiet]
  rfl

theorem BarrierKept.stopAndWait {state : ManagerState} (kept : state.BarrierKept) (call : Nat) :
    BarrierKept { state.cancelActive.setCall call .stopWaiting with stopped := true } := by
  refine ⟨kept.late, ?_⟩
  rcases kept.overtaken with cancelled | refused
  · exact Or.inl cancelled
  refine Or.inr fun other marked => ?_
  by_cases same : other = call
  · simp only [ManagerState.setCall, same, Function.update_self]
    rfl
  · simp only [ManagerState.setCall, cancelActive, Function.update_of_ne same]
    exact canStart_of_stopped (refused other marked)

theorem BarrierKept.stopReturn {state : ManagerState} (kept : state.BarrierKept) (call : Nat)
    (clear : state.parentDone = true ∨
      ∀ other, (state.calls other).canStart state.stopped = false) :
    BarrierKept (state.stopReturned.setCall call .idle) := by
  refine kept.stop rfl rfl ?_
  rcases clear with cancelled | refused
  · exact Or.inl cancelled
  refine Or.inr fun other => ?_
  by_cases same : other = call
  · simp only [ManagerState.setCall, same, Function.update_self]
    rfl
  · simp only [ManagerState.setCall, stopReturned, Function.update_of_ne same]
    exact refused other

/-- Every step keeps what a stop waits for. -/
theorem step_barrierKept {builds : Rows → Bool} {state after : ManagerState}
    {label : ManagerLabel} (kept : state.BarrierKept) (clear : StopsClear state label)
    (fired : state.step builds label = some after) : after.BarrierKept := by
  cases move_of_step fired with
  | reload | spawn => exact kept.begin rfl rfl rfl rfl rfl
  | refused | finishReload =>
    exact kept.setCall _ .idle rfl rfl rfl (fun _ marked => marked) rfl fun _ => rfl
  | check phase running =>
    refine kept.advance _ phase ?_ rfl rfl rfl rfl rfl
    simpa [ManagerCall.canStart] using running
  | cancelOld phase | drained phase | list phase | listFailed phase | beginStart phase | read phase
  | readFailed phase | rejected phase =>
    exact kept.advance _ phase rfl rfl rfl rfl rfl rfl
  | register phase => exact kept.register phase
  | stop | stopAll => exact kept.stop rfl rfl clear
  | stopAndWait => exact kept.stopAndWait _
  | stopReturn => exact kept.stopReturn _ clear
  | cancelParent => exact ⟨kept.late, Or.inl rfl⟩
  | unwind | exit | beginRequest | write | abortRequest | finishRequest =>
    exact kept.frame rfl rfl rfl rfl rfl

/-- In every run whose stops return only when no Reload is under way, nothing is started by a
Reload that began before a stop returned. -/
theorem nothingLate_of_stopsClear (builds : Rows → Bool) (store : Store) (owed : Nat)
    (state : ManagerState)
    (reached : Runs.Reaches (ManagerState.step builds) StopsClear (initial store owed) state) :
    state.NothingLate := by
  refine (reached.invariant BarrierKept ?_ fun _ _ _ kept clear fired =>
    step_barrierKept kept clear fired).late
  exact ⟨rfl, Or.inr fun _ marked => nomatch marked⟩

/-! ### A stop that lands inside a Reload -/

/-- A Reload has looked at the flag when the stop comes, and then goes on. -/
def reloadAcross (kind : ManagerLabel) : List ManagerLabel :=
  [.reload 0, .check 0, kind, .list 0, .beginStart 0] ++
    List.replicate readPlan.length (.read 0) ++ [.register 0]

/-- The history is one of the manager, and at its end an executor is live that a Reload from before
a stop has started. -/
def StartsLate (history : List ManagerLabel) : Prop :=
  ∃ state,
    Runs.exec (ManagerState.step fun _ => true) (fun _ _ => True) (initial oneStore 0) history =
      some state ∧
    Runs.Reachable (ManagerState.step fun _ => true) (initial oneStore 0) state ∧
    ¬ state.NothingLate ∧ state.Live 0

theorem startsLate_of_tested {history : List ManagerLabel}
    (tested : (Runs.exec (ManagerState.step fun _ => true) (fun _ _ => True) (initial oneStore 0)
      history).any (fun state =>
        decide (state.late = [0] ∧ 0 < state.fresh ∧ (state.handles 0).cancelled = false)) =
      true) : StartsLate history := by
  obtain ⟨state, executed, facts⟩ := (Option.any_eq_true _ _).mp tested
  obtain ⟨late, started, live⟩ := of_decide_eq_true facts
  refine ⟨state, executed, Runs.reaches_of_exec _ _ _ executed, fun nothing => ?_, started, live⟩
  rw [NothingLate, late] at nothing
  cases nothing

/-- After the stop has returned the Reload starts an executor, whether the stop was a `Stop` or
a `StopAll`. -/
theorem reloadAcross_starts_late :
    StartsLate (reloadAcross .stop) ∧ StartsLate (reloadAcross .stopAll) :=
  ⟨startsLate_of_tested (by decide), startsLate_of_tested (by decide)⟩

def isStop : ManagerLabel → Bool
  | .stop | .stopAll | .stopAndWait _ | .stopReturn _ => true
  | _ => false

/-- A Reload that begins after the stop runs its pipeline, and nothing was started late. -/
theorem reload_after_stopAll_not_late :
    ∃ state : ManagerState, state.Live 0 ∧ state.NothingLate := by
  obtain ⟨stopped, fired⟩ : ∃ stopped,
      (initial oneStore 0).step (fun _ => true) .stopAll = some stopped := ⟨_, rfl⟩
  have idle : StopsClear (initial oneStore 0) .stopAll := Or.inr fun _ => rfl
  obtain ⟨state, reached, tested⟩ := Runs.exists_reaches_of_exec
    (ManagerState.step fun _ => true) (fun _ label => isStop label = false) stopped
    (reloadToRegister 0 ++ [.register 0])
    (fun state => decide (0 < state.fresh ∧ (state.handles 0).cancelled = false))
    (by cases fired; decide)
  have clear : Runs.Reaches (ManagerState.step fun _ => true) StopsClear stopped state := by
    refine reached.mono fun before label _ other => ?_
    cases label <;> trivial
  have live := of_decide_eq_true tested
  exact ⟨state, ⟨live.1, live.2⟩, nothingLate_of_stopsClear (fun _ => true) oneStore 0 state
    ((Runs.Reaches.next .start idle fired).trans clear)⟩

end ManagerState

end MqConnector
