/-
This file asks whether a running executor is registered in the metrics store.

What an executor registers and defers is keyed by its pipeline's id alone, which
is only right when one executor of a pipeline has unwound before the next one
begins. Reload waits on `done` for every handle it finds in `m.active`. But
`StopAll` empties `m.active` without waiting.

The machine is the manager's with each executor's goroutine beside it. An entry
of the metrics store or of the circuit states is the handle of the executor that
put it there.
-/

import MqConnector.Tracking

namespace MqConnector

/-! ### Executors and what they leave behind -/

/-- Where the goroutine of an executor is: started, past `Register`, past `Run` and its deferred
`Unregister`, past `clearCircuitState`. -/
inductive RunPhase
  | spawned | registered | returned | cleared
  deriving DecidableEq

/-- The manager with its executors' goroutines, the metrics store and the circuit states. -/
structure MetricsState where
  manager : ManagerState
  phase : Nat → RunPhase
  metrics : String → Option Nat
  published : Nat → Bool
  circuits : String → Option Nat

/-- A move of the manager, or of an executor's goroutine. -/
inductive MetricsLabel
  | manager (label : ManagerLabel)
  | register (handle : Nat)
  | publishCircuitState (handle : Nat)
  | unregister (handle : Nat)
  | clearCircuitState (handle : Nat)

namespace MetricsState

/-- A manager that has not been asked to run anything. -/
def initial (store : Store) (owed : Nat) : MetricsState where
  manager := .initial store owed
  phase := fun _ => .spawned
  metrics := fun _ => none
  published := fun _ => false
  circuits := fun _ => none

/-- Whether the goroutine has got as far as the manager's step needs it: it leaves `m.active`
after `Run` has returned, and closes `done` after it has cleared the circuit state. -/
def admits (state : MetricsState) : ManagerLabel → Bool
  | .unwind handle => decide (state.phase handle = .returned)
  | .exit handle => decide (state.phase handle = .cleared)
  | _ => true

def step (builds : Rows → Bool) (state : MetricsState) : MetricsLabel → Option MetricsState
  | .manager label =>
    if state.admits label then
      (state.manager.step builds label).map fun after => { state with manager := after }
    else none
  | .register handle =>
    if handle < state.manager.fresh ∧ state.phase handle = .spawned then
      some { state with
        phase := Function.update state.phase handle .registered
        metrics := Function.update state.metrics (state.manager.pipelineOf handle) (some handle) }
    else none
  | .publishCircuitState handle =>
    if state.phase handle = .registered then
      some { state with
        published := Function.update state.published handle true
        circuits := Function.update state.circuits (state.manager.pipelineOf handle) (some handle) }
    else none
  | .unregister handle =>
    -- `Run` returns only when its context is cancelled
    if state.phase handle = .registered ∧ (state.manager.handles handle).cancelled = true then
      some { state with
        phase := Function.update state.phase handle .returned
        metrics := Function.update state.metrics (state.manager.pipelineOf handle) none }
    else none
  | .clearCircuitState handle =>
    if state.phase handle = .returned ∧ (state.manager.handles handle).unwound = true then
      some { state with
        phase := Function.update state.phase handle .cleared
        circuits := Function.update state.circuits (state.manager.pipelineOf handle) none }
    else none

/-- Every executor that has registered and whose context is not cancelled is in the metrics store
with the entry it registered, and the circuit state it has published is still there. -/
def EntriesPresent (state : MetricsState) : Prop :=
  ∀ handle, state.manager.Live handle → state.phase handle ≠ .spawned →
    state.metrics (state.manager.pipelineOf handle) = some handle ∧
      (state.published handle = true →
        state.circuits (state.manager.pipelineOf handle) = some handle)

/-- The condition on a step: while the root context lives, `startPipeline` starts an executor only
once every earlier executor of the pipeline is past its `Unregister` and its
`clearCircuitState`. -/
def StartsAfterUnwound (builds : Rows → Bool) (state : MetricsState) : MetricsLabel → Prop
  | .manager (.register call) =>
    match state.manager.calls call with
    | .reading rows [] _ =>
      rows.accepted builds = true → state.manager.parentDone = false →
        ∀ handle < state.manager.fresh, state.manager.pipelineOf handle = rows.pipeline.id →
          state.phase handle = .cleared
    | _ => True
  | _ => True

instance (builds : Rows → Bool) (state : MetricsState) (label : MetricsLabel) :
    Decidable (StartsAfterUnwound builds state label) := by
  unfold StartsAfterUnwound
  split
  · split <;> infer_instance
  · infer_instance

/-! ### The invariant -/

/-- What holds in every run: an executor that has begun was started, one that has returned was
cancelled, and one that has not begun has published nothing. -/
structure PhasesKept (state : MetricsState) : Prop where
  keyed : state.manager.WellKeyed
  started : ∀ handle, state.phase handle ≠ .spawned → handle < state.manager.fresh
  ended : ∀ handle, state.phase handle = .returned ∨ state.phase handle = .cleared →
    (state.manager.handles handle).cancelled = true
  silent : ∀ handle, state.phase handle = .spawned → state.published handle = false

/-- The invariant: while the root context lives, at most one executor of a pipeline has not
unwound, and what it has put into the two maps is there. -/
structure EntriesKept (state : MetricsState) : Prop where
  phases : state.PhasesKept
  orphaned : state.manager.parentDone = true →
    ∀ handle < state.manager.fresh, (state.manager.handles handle).cancelled = true
  single : state.manager.parentDone = false → ∀ first second, first < state.manager.fresh →
    second < state.manager.fresh →
    state.manager.pipelineOf first = state.manager.pipelineOf second →
    state.phase first ≠ .cleared → state.phase second ≠ .cleared → first = second
  entered : state.manager.parentDone = false → ∀ handle, state.phase handle = .registered →
    state.metrics (state.manager.pipelineOf handle) = some handle
  cached : state.manager.parentDone = false → ∀ handle, state.phase handle = .registered →
    state.published handle = true →
    state.circuits (state.manager.pipelineOf handle) = some handle

theorem PhasesKept.registered_of_live {state : MetricsState} (kept : state.PhasesKept)
    {handle : Nat} (live : state.manager.Live handle) (begun : state.phase handle ≠ .spawned) :
    state.phase handle = .registered := by
  have uncancelled : ¬ (state.manager.handles handle).cancelled = true := by
    rw [live.2]
    exact Bool.noConfusion
  cases position : state.phase handle with
  | spawned => exact absurd position begun
  | registered => rfl
  | returned => exact absurd (kept.ended handle (Or.inl position)) uncancelled
  | cleared => exact absurd (kept.ended handle (Or.inr position)) uncancelled

/-- Running executors have their entries. -/
theorem EntriesKept.entriesPresent {state : MetricsState} (kept : state.EntriesKept) :
    state.EntriesPresent := by
  intro handle live begun
  have alive : state.manager.parentDone = false := by
    cases done : state.manager.parentDone with
    | false => rfl
    | true =>
      have cancelled := kept.orphaned done handle live.1
      rw [live.2] at cancelled
      cases cancelled
  have running := kept.phases.registered_of_live live begun
  exact ⟨kept.entered alive handle running, kept.cached alive handle running⟩

theorem initial_phasesKept (store : Store) (owed : Nat) : (initial store owed).PhasesKept where
  keyed id handle found := by cases found
  started handle begun := absurd rfl begun
  ended handle past := by rcases past with past | past <;> cases past
  silent _ _ := rfl

theorem initial_entriesKept (store : Store) (owed : Nat) : (initial store owed).EntriesKept where
  phases := initial_phasesKept store owed
  orphaned done := by cases done
  single _ first _ taken := absurd taken (Nat.not_lt_zero first)
  entered _ handle running := by cases running
  cached _ handle running := by cases running

/-! ### Steps of the manager -/

theorem step_parentDone {builds : Rows → Bool} {manager after : ManagerState}
    {label : ManagerLabel} (fired : manager.step builds label = some after) :
    after.parentDone = manager.parentDone ∨
      (after.parentDone = true ∧ ∀ handle, (after.handles handle).cancelled = true) := by
  cases ManagerState.move_of_step fired with
  | cancelParent => exact Or.inr ⟨rfl, fun _ => rfl⟩
  | _ => exact Or.inl rfl

theorem PhasesKept.frame {state : MetricsState} {after : ManagerState} (kept : state.PhasesKept)
    (frame : ManagerState.CoreFrame state.manager after) :
    PhasesKept { state with manager := after } := by
  refine ⟨frame.wellKeyed kept.keyed, fun handle begun => ?_, fun handle past => ?_, kept.silent⟩
  · rw [frame.fresh]
    exact kept.started handle begun
  · exact frame.cancelled handle (kept.ended handle past)

theorem EntriesKept.frame {builds : Rows → Bool} {state : MetricsState} {after : ManagerState}
    {label : ManagerLabel} (kept : state.EntriesKept)
    (fired : state.manager.step builds label = some after)
    (frame : ManagerState.CoreFrame state.manager after) :
    EntriesKept { state with manager := after } := by
  have alive : after.parentDone = false → state.manager.parentDone = false := by
    intro lives
    rcases step_parentDone fired with same | ⟨done, _⟩
    · rw [← same]
      exact lives
    · rw [lives] at done
      cases done
  refine ⟨kept.phases.frame frame, fun done handle taken => ?_,
    fun lives first second firstTaken secondTaken same => ?_, fun lives handle running => ?_,
    fun lives handle running => ?_⟩
  · rcases step_parentDone fired with same | ⟨_, every⟩
    · rw [same] at done
      rw [frame.fresh] at taken
      exact frame.cancelled handle (kept.orphaned done handle taken)
    · exact every handle
  · dsimp only at firstTaken secondTaken same
    rw [frame.fresh] at firstTaken secondTaken
    rw [frame.pipelineOf, frame.pipelineOf] at same
    exact kept.single (alive lives) first second firstTaken secondTaken same
  · dsimp only
    rw [frame.pipelineOf]
    exact kept.entered (alive lives) handle running
  · dsimp only
    rw [frame.pipelineOf]
    exact kept.cached (alive lives) handle running

theorem pipelineOf_registerRows (manager : ManagerState) (call : Nat) (rows : Rows) {handle : Nat}
    (old : handle ≠ manager.fresh) :
    (manager.registerRows call rows).pipelineOf handle = manager.pipelineOf handle := by
  rw [ManagerState.pipelineOf, ManagerState.registerRows_handles manager call rows old,
    ManagerState.pipelineOf]

theorem PhasesKept.ne_fresh {state : MetricsState} (kept : state.PhasesKept) {handle : Nat}
    (begun : state.phase handle ≠ .spawned) : handle ≠ state.manager.fresh :=
  Nat.ne_of_lt (kept.started _ begun)

theorem PhasesKept.start {state : MetricsState} (kept : state.PhasesKept) {call : Nat}
    {rows : Rows} {todo : List Pipeline} :
    PhasesKept { state with manager :=
      (state.manager.registerRows call rows).setCall call (.starting todo) } := by
  refine ⟨ManagerState.registerRows_wellKeyed kept.keyed call rows, fun handle begun => ?_,
    fun handle past => ?_, kept.silent⟩
  · exact Nat.lt_succ_of_lt (kept.started handle begun)
  · have old : handle ≠ state.manager.fresh := by
      refine kept.ne_fresh fun position => ?_
      rw [position] at past
      rcases past with past | past <;> cases past
    show ((state.manager.registerRows call rows).handles handle).cancelled = true
    rw [ManagerState.registerRows_handles state.manager call rows old]
    exact kept.ended handle past

theorem EntriesKept.start {state : MetricsState} (kept : state.EntriesKept) {call : Nat}
    {rows : Rows} {todo : List Pipeline}
    (unwound : state.manager.parentDone = false → ∀ handle < state.manager.fresh,
      state.manager.pipelineOf handle = rows.pipeline.id → state.phase handle = .cleared) :
    EntriesKept { state with manager :=
      (state.manager.registerRows call rows).setCall call (.starting todo) } := by
  have named : ∀ {handle}, state.phase handle = .registered → handle ≠ state.manager.fresh := by
    intro handle running
    refine kept.phases.ne_fresh ?_
    rw [running]
    exact RunPhase.noConfusion
  have same : ∀ {handle}, handle ≠ state.manager.fresh →
      ((state.manager.registerRows call rows).setCall call (.starting todo)).pipelineOf handle =
        state.manager.pipelineOf handle := fun old => pipelineOf_registerRows state.manager call rows old
  have new : ((state.manager.registerRows call rows).setCall call (.starting todo)).pipelineOf
      state.manager.fresh = rows.pipeline.id := (state.manager.registerRows_fresh call rows).1
  -- an older executor of the new one's pipeline has unwound
  have older : state.manager.parentDone = false → ∀ handle, handle < state.manager.fresh + 1 →
      handle ≠ state.manager.fresh →
      ((state.manager.registerRows call rows).setCall call (.starting todo)).pipelineOf handle =
        rows.pipeline.id → state.phase handle = .cleared := by
    intro lives handle taken old equal
    rw [same old] at equal
    exact unwound lives handle (Nat.lt_of_le_of_ne (Nat.le_of_lt_succ taken) old) equal
  refine ⟨kept.phases.start, fun done handle taken => ?_,
    fun lives first second firstTaken secondTaken equal firstUp secondUp => ?_,
    fun lives handle running => ?_, fun lives handle running => ?_⟩
  · show ((state.manager.registerRows call rows).handles handle).cancelled = true
    by_cases old : handle = state.manager.fresh
    · rw [old, ManagerState.registerRows]
      dsimp only
      rw [Function.update_self]
      exact done
    · rw [ManagerState.registerRows_handles state.manager call rows old]
      exact kept.orphaned done handle (Nat.lt_of_le_of_ne (Nat.le_of_lt_succ taken) old)
  · dsimp only at equal firstTaken secondTaken
    by_cases firstNew : first = state.manager.fresh
    · by_cases secondNew : second = state.manager.fresh
      · rw [firstNew, secondNew]
      · rw [firstNew, new] at equal
        exact absurd (older lives second secondTaken secondNew equal.symm) secondUp
    · by_cases secondNew : second = state.manager.fresh
      · rw [secondNew, new] at equal
        exact absurd (older lives first firstTaken firstNew equal) firstUp
      · rw [same firstNew, same secondNew] at equal
        exact kept.single lives first second
          (Nat.lt_of_le_of_ne (Nat.le_of_lt_succ firstTaken) firstNew)
          (Nat.lt_of_le_of_ne (Nat.le_of_lt_succ secondTaken) secondNew) equal firstUp secondUp
  · dsimp only
    rw [same (named running)]
    exact kept.entered lives handle running
  · dsimp only
    rw [same (named running)]
    exact kept.cached lives handle running

/-! ### Steps of an executor -/

section Executor

variable {state : MetricsState} {handle : Nat}

theorem EntriesKept.apart (kept : state.EntriesKept) (lives : state.manager.parentDone = false)
    (taken : handle < state.manager.fresh) (up : state.phase handle ≠ .cleared) {other : Nat}
    (different : other ≠ handle) (running : state.phase other = .registered) :
    state.manager.pipelineOf other ≠ state.manager.pipelineOf handle := by
  have begun : state.phase other ≠ .spawned := by
    rw [running]
    exact RunPhase.noConfusion
  have still : state.phase other ≠ .cleared := by
    rw [running]
    exact RunPhase.noConfusion
  intro same
  exact different
    (kept.single lives other handle (kept.phases.started other begun) taken same still up)

theorem PhasesKept.advance (kept : state.PhasesKept) (taken : handle < state.manager.fresh)
    {next : RunPhase} {metrics circuits : String → Option Nat} {published : Nat → Bool}
    (begun : next ≠ .spawned)
    (cancelled : next ≠ .registered → (state.manager.handles handle).cancelled = true)
    (otherPublished : ∀ other, other ≠ handle → published other = state.published other) :
    PhasesKept { manager := state.manager
                 phase := Function.update state.phase handle next
                 metrics, published, circuits } := by
  refine ⟨kept.keyed, fun other position => ?_, fun other past => ?_, fun other position => ?_⟩
  · by_cases same : other = handle
    · rw [same]
      exact taken
    · dsimp only at position
      rw [Function.update_of_ne same] at position
      exact kept.started other position
  · dsimp only at past
    by_cases same : other = handle
    · rw [same] at past ⊢
      refine cancelled fun running => ?_
      rw [Function.update_self, running] at past
      rcases past with past | past <;> cases past
    · rw [Function.update_of_ne same] at past
      exact kept.ended other past
  · dsimp only at position ⊢
    by_cases same : other = handle
    · rw [same, Function.update_self] at position
      exact absurd position begun
    · rw [Function.update_of_ne same] at position
      rw [otherPublished other same]
      exact kept.silent other position

theorem EntriesKept.advance (kept : state.EntriesKept) (taken : handle < state.manager.fresh)
    (up : state.phase handle ≠ .cleared) {next : RunPhase} {metrics circuits : String → Option Nat}
    {published : Nat → Bool} (begun : next ≠ .spawned)
    (cancelled : next ≠ .registered → (state.manager.handles handle).cancelled = true)
    (entry : state.manager.parentDone = false → next = .registered →
      metrics (state.manager.pipelineOf handle) = some handle)
    (cache : state.manager.parentDone = false → next = .registered → published handle = true →
      circuits (state.manager.pipelineOf handle) = some handle)
    (otherMetrics : ∀ id, id ≠ state.manager.pipelineOf handle → metrics id = state.metrics id)
    (otherCircuits : ∀ id, id ≠ state.manager.pipelineOf handle → circuits id = state.circuits id)
    (otherPublished : ∀ other, other ≠ handle → published other = state.published other) :
    EntriesKept { manager := state.manager
                  phase := Function.update state.phase handle next
                  metrics, published, circuits } := by
  have stillUp : ∀ other, Function.update state.phase handle next other ≠ .cleared →
      state.phase other ≠ .cleared := by
    intro other position
    by_cases same : other = handle
    · rw [same]
      exact up
    · rw [Function.update_of_ne same] at position
      exact position
  refine ⟨kept.phases.advance taken begun cancelled otherPublished, kept.orphaned,
    fun lives first second firstTaken secondTaken equal firstUp secondUp =>
      kept.single lives first second firstTaken secondTaken equal (stillUp first firstUp)
        (stillUp second secondUp),
    fun lives other running => ?_, fun lives other running announced => ?_⟩
  · dsimp only at running ⊢
    by_cases same : other = handle
    · rw [same] at running ⊢
      rw [Function.update_self] at running
      exact entry lives running
    · rw [Function.update_of_ne same] at running
      rw [otherMetrics _ (kept.apart lives taken up same running)]
      exact kept.entered lives other running
  · dsimp only at running announced ⊢
    by_cases same : other = handle
    · rw [same] at running announced ⊢
      rw [Function.update_self] at running
      exact cache lives running announced
    · rw [Function.update_of_ne same] at running
      rw [otherPublished other same] at announced
      rw [otherCircuits _ (kept.apart lives taken up same running)]
      exact kept.cached lives other running announced

end Executor

/-! ### Every step -/

/-- The steps, each with what it has found. -/
inductive Move (builds : Rows → Bool) (state : MetricsState) : MetricsLabel → MetricsState → Prop
  | manager {label : ManagerLabel} {after : ManagerState}
      (fired : state.manager.step builds label = some after) :
      Move builds state (.manager label) { state with manager := after }
  | register {handle : Nat} (taken : handle < state.manager.fresh)
      (spawned : state.phase handle = .spawned) :
      Move builds state (.register handle) { state with
        phase := Function.update state.phase handle .registered
        metrics := Function.update state.metrics (state.manager.pipelineOf handle) (some handle) }
  | publishCircuitState {handle : Nat} (running : state.phase handle = .registered) :
      Move builds state (.publishCircuitState handle) { state with
        published := Function.update state.published handle true
        circuits := Function.update state.circuits (state.manager.pipelineOf handle) (some handle) }
  | unregister {handle : Nat} (running : state.phase handle = .registered)
      (cancelled : (state.manager.handles handle).cancelled = true) :
      Move builds state (.unregister handle) { state with
        phase := Function.update state.phase handle .returned
        metrics := Function.update state.metrics (state.manager.pipelineOf handle) none }
  | clearCircuitState {handle : Nat} (returned : state.phase handle = .returned) :
      Move builds state (.clearCircuitState handle) { state with
        phase := Function.update state.phase handle .cleared
        circuits := Function.update state.circuits (state.manager.pipelineOf handle) none }

theorem move_of_step {builds : Rows → Bool} {state after : MetricsState} {label : MetricsLabel}
    (fired : state.step builds label = some after) : Move builds state label after := by
  cases label with
  | manager label =>
    rw [step] at fired
    split at fired
    · obtain ⟨manager, moved, rfl⟩ := Option.map_eq_some_iff.mp fired
      exact .manager moved
    · cases fired
  | register handle =>
    rw [step] at fired
    split at fired
    · rename_i ready
      cases fired
      exact .register ready.1 ready.2
    · cases fired
  | publishCircuitState handle =>
    rw [step] at fired
    split at fired
    · rename_i running
      cases fired
      exact .publishCircuitState running
    · cases fired
  | unregister handle =>
    rw [step] at fired
    split at fired
    · rename_i ready
      cases fired
      exact .unregister ready.1 ready.2
    · cases fired
  | clearCircuitState handle =>
    rw [step] at fired
    split at fired
    · rename_i ready
      cases fired
      exact .clearCircuitState ready.1
    · cases fired

theorem PhasesKept.taken {state : MetricsState} (kept : state.PhasesKept) {handle : Nat}
    {phase : RunPhase} (position : state.phase handle = phase) (begun : phase ≠ .spawned) :
    handle < state.manager.fresh := by
  refine kept.started handle ?_
  rw [position]
  exact begun

theorem update_phase_of_eq {state : MetricsState} {handle : Nat} {phase : RunPhase}
    (position : state.phase handle = phase) :
    Function.update state.phase handle phase = state.phase := by
  rw [← position, Function.update_eq_self]

/-- Every step keeps the phases. -/
theorem PhasesKept.step {builds : Rows → Bool} {state after : MetricsState} {label : MetricsLabel}
    (kept : state.PhasesKept) (fired : state.step builds label = some after) :
    after.PhasesKept := by
  cases move_of_step fired with
  | manager moved =>
    rcases ManagerState.step_core kept.keyed moved with frame | ⟨_, _, _, rfl, _, _, rfl⟩
    · exact kept.frame frame
    · exact kept.start
  | register taken _ =>
    exact kept.advance taken RunPhase.noConfusion (fun other => absurd rfl other) fun _ _ => rfl
  | publishCircuitState running =>
    rw [← update_phase_of_eq running]
    exact kept.advance (kept.taken running RunPhase.noConfusion) RunPhase.noConfusion
      (fun other => absurd rfl other) fun other different => Function.update_of_ne different _ _
  | unregister running cancelled =>
    exact kept.advance (kept.taken running RunPhase.noConfusion) RunPhase.noConfusion
      (fun _ => cancelled) fun _ _ => rfl
  | clearCircuitState returned =>
    exact kept.advance (kept.taken returned RunPhase.noConfusion) RunPhase.noConfusion
      (fun _ => kept.ended _ (Or.inl returned)) fun _ _ => rfl

/-- Every start after the older one has ended keeps the entries. -/
theorem EntriesKept.step {builds : Rows → Bool} {state after : MetricsState} {label : MetricsLabel}
    (kept : state.EntriesKept) (permitted : StartsAfterUnwound builds state label)
    (fired : state.step builds label = some after) : after.EntriesKept := by
  have up : ∀ {handle phase}, state.phase handle = phase → phase ≠ .cleared →
      state.phase handle ≠ .cleared := by
    intro handle phase position open_
    rw [position]
    exact open_
  cases move_of_step fired with
  | manager moved =>
    rcases ManagerState.step_core kept.phases.keyed moved with
      frame | ⟨call, rows, todo, rfl, phase, accepted, rfl⟩
    · exact kept.frame moved frame
    · rw [StartsAfterUnwound, phase] at permitted
      exact kept.start (permitted accepted)
  | @register handle taken spawned =>
    refine kept.advance taken (up spawned RunPhase.noConfusion) RunPhase.noConfusion
      (fun other => absurd rfl other) (fun _ _ => Function.update_self _ _ _)
      (fun _ _ announced => ?_) (fun id other => Function.update_of_ne other _ _) (fun _ _ => rfl)
      (fun _ _ => rfl)
    rw [kept.phases.silent handle spawned] at announced
    cases announced
  | @publishCircuitState handle running =>
    rw [← update_phase_of_eq running]
    exact kept.advance (kept.phases.taken running RunPhase.noConfusion)
      (up running RunPhase.noConfusion) RunPhase.noConfusion (fun other => absurd rfl other)
      (fun lives _ => kept.entered lives handle running) (fun _ _ _ => Function.update_self _ _ _)
      (fun _ _ => rfl) (fun id other => Function.update_of_ne other _ _)
      (fun other different => Function.update_of_ne different _ _)
  | unregister running cancelled =>
    exact kept.advance (kept.phases.taken running RunPhase.noConfusion)
      (up running RunPhase.noConfusion) RunPhase.noConfusion (fun _ => cancelled)
      (fun _ running => by cases running) (fun _ running => by cases running)
      (fun id other => Function.update_of_ne other _ _) (fun _ _ => rfl) (fun _ _ => rfl)
  | clearCircuitState returned =>
    exact kept.advance (kept.phases.taken returned RunPhase.noConfusion)
      (up returned RunPhase.noConfusion) RunPhase.noConfusion
      (fun _ => kept.phases.ended _ (Or.inl returned)) (fun _ running => by cases running)
      (fun _ running => by cases running) (fun _ _ => rfl)
      (fun id other => Function.update_of_ne other _ _) (fun _ _ => rfl)

/-! ### Two executors of a pipeline -/

section Overlap

variable {builds : Rows → Bool} {state : MetricsState} {older newer : Nat}

/-- The state after a start and the newer executor's `Register`. -/
structure Overlapping (state : MetricsState) (older newer : Nat) : Prop where
  taken : older < state.manager.fresh
  live : state.manager.Live newer
  running : state.phase newer = .registered
  entry : state.metrics (state.manager.pipelineOf newer) = some newer
  different : older ≠ newer
  same : state.manager.pipelineOf older = state.manager.pipelineOf newer

theorem Overlapping.not_entriesPresent_of_metrics (overlap : state.Overlapping older newer)
    {phase : Nat → RunPhase} {metrics : String → Option Nat}
    (running : phase newer = .registered)
    (lost : metrics (state.manager.pipelineOf newer) ≠ some newer) :
    ¬ EntriesPresent { state with phase, metrics } := by
  intro present
  have begun : phase newer ≠ .spawned := by
    rw [running]
    exact RunPhase.noConfusion
  exact lost (present newer overlap.live begun).1

theorem Overlapping.spawned (overlap : state.Overlapping older newer)
    (position : state.phase older = .spawned) :
    ∃ later, Runs.Reachable (step builds) state later ∧ ¬ later.EntriesPresent := by
  have fired : state.step builds (.register older) = some { state with
      phase := Function.update state.phase older .registered
      metrics := Function.update state.metrics (state.manager.pipelineOf older) (some older) } := by
    rw [step, if_pos ⟨overlap.taken, position⟩]
  refine ⟨_, .next .start trivial fired, overlap.not_entriesPresent_of_metrics ?_ ?_⟩
  · rw [Function.update_of_ne overlap.different.symm]
    exact overlap.running
  · rw [overlap.same, Function.update_self]
    exact fun equal => overlap.different (Option.some.inj equal)

theorem Overlapping.registered (overlap : state.Overlapping older newer)
    (position : state.phase older = .registered) :
    ∃ later, Runs.Reachable (step builds) state later ∧ ¬ later.EntriesPresent := by
  cases cancelled : (state.manager.handles older).cancelled with
  | false =>
    refine ⟨state, .start, fun present => ?_⟩
    have begun : state.phase older ≠ .spawned := by
      rw [position]
      exact RunPhase.noConfusion
    have entry := (present older ⟨overlap.taken, cancelled⟩ begun).1
    rw [overlap.same, overlap.entry, Option.some_inj] at entry
    exact overlap.different entry.symm
  | true =>
    have fired : state.step builds (.unregister older) = some { state with
        phase := Function.update state.phase older .returned
        metrics := Function.update state.metrics (state.manager.pipelineOf older) none } := by
      rw [step, if_pos ⟨position, cancelled⟩]
    refine ⟨_, .next .start trivial fired, overlap.not_entriesPresent_of_metrics ?_ ?_⟩
    · rw [Function.update_of_ne overlap.different.symm]
      exact overlap.running
    · rw [overlap.same, Function.update_self]
      exact (Option.some_ne_none _).symm

theorem Overlapping.unwound (overlap : state.Overlapping older newer)
    (position : state.phase older = .returned)
    (unwound : (state.manager.handles older).unwound = true) :
    ∃ later, Runs.Reachable (step builds) state later ∧ ¬ later.EntriesPresent := by
  have published : state.step builds (.publishCircuitState newer) = some { state with
      published := Function.update state.published newer true
      circuits := Function.update state.circuits (state.manager.pipelineOf newer) (some newer) } := by
    rw [step, if_pos overlap.running]
  obtain ⟨cached, reached, manager, phase, announced⟩ :
      ∃ cached, Runs.Reachable (step builds) state cached ∧ cached.manager = state.manager ∧
        cached.phase = state.phase ∧ cached.published newer = true :=
    ⟨_, .next .start trivial published, rfl, rfl, Function.update_self _ _ _⟩
  have cleared : cached.step builds (.clearCircuitState older) = some { cached with
      phase := Function.update cached.phase older .cleared
      circuits := Function.update cached.circuits (cached.manager.pipelineOf older) none } := by
    rw [step, if_pos]
    rw [phase, manager]
    exact ⟨position, unwound⟩
  refine ⟨_, .next reached trivial cleared, fun present => ?_⟩
  have live : cached.manager.Live newer := by
    rw [manager]
    exact overlap.live
  have begun : Function.update cached.phase older .cleared newer ≠ .spawned := by
    rw [Function.update_of_ne overlap.different.symm, phase, overlap.running]
    exact RunPhase.noConfusion
  have circuit := (present newer live begun).2 announced
  dsimp only at circuit
  rw [manager, overlap.same, Function.update_self] at circuit
  cases circuit

theorem Overlapping.returned (overlap : state.Overlapping older newer) (kept : state.PhasesKept)
    (position : state.phase older = .returned) :
    ∃ later, Runs.Reachable (step builds) state later ∧ ¬ later.EntriesPresent := by
  have cancelled := kept.ended older (Or.inl position)
  cases unwound : (state.manager.handles older).unwound with
  | true => exact overlap.unwound position unwound
  | false =>
    obtain ⟨manager, moved, frame, live, gone⟩ : ∃ manager,
        state.manager.step builds (.unwind older) = some manager ∧
          ManagerState.CoreFrame state.manager manager ∧ manager.Live newer ∧
          (manager.handles older).unwound = true := by
      have ready : older < state.manager.fresh ∧ (state.manager.handles older).cancelled = true ∧
          ¬ (state.manager.handles older).unwound = true := by
        refine ⟨overlap.taken, cancelled, ?_⟩
        rw [unwound]
        exact Bool.noConfusion
      refine ⟨_, if_pos ready, ManagerState.coreFrame_of_unwind cancelled, ⟨overlap.live.1, ?_⟩, ?_⟩
      · show (Function.update state.manager.handles older _ newer).cancelled = false
        rw [Function.update_of_ne overlap.different.symm]
        exact overlap.live.2
      · show (Function.update state.manager.handles older _ older).unwound = true
        rw [Function.update_self]
    have admitted : state.admits (.unwind older) = true := decide_eq_true position
    have fired : state.step builds (.manager (.unwind older)) =
        some { state with manager := manager } := by
      rw [step, if_pos admitted, moved]
      rfl
    have left : Overlapping { state with manager := manager } older newer := by
      refine ⟨frame.fresh ▸ overlap.taken, live, overlap.running, ?_, overlap.different, ?_⟩
      · dsimp only
        rw [frame.pipelineOf]
        exact overlap.entry
      · dsimp only
        rw [frame.pipelineOf, frame.pipelineOf]
        exact overlap.same
    obtain ⟨later, onward, broken⟩ := left.unwound position gone
    exact ⟨later, (Runs.Reaches.next .start trivial fired).trans onward, broken⟩

theorem exists_not_entriesPresent (kept : state.PhasesKept) (taken : older < state.manager.fresh)
    (live : state.manager.Live newer) (spawned : state.phase newer = .spawned)
    (different : older ≠ newer)
    (same : state.manager.pipelineOf older = state.manager.pipelineOf newer)
    (up : state.phase older ≠ .cleared) :
    ∃ later, Runs.Reachable (step builds) state later ∧ ¬ later.EntriesPresent := by
  obtain ⟨entered, fired, overlap, unmoved⟩ : ∃ entered,
      state.step builds (.register newer) = some entered ∧ entered.Overlapping older newer ∧
        entered.phase older = state.phase older := by
    refine ⟨_, if_pos ⟨live.1, spawned⟩, ⟨taken, live, Function.update_self _ _ _,
      Function.update_self _ _ _, different, same⟩, ?_⟩
    exact Function.update_of_ne different _ _
  have reached : Runs.Reachable (step builds) state entered := .next .start trivial fired
  have continued : ∃ later, Runs.Reachable (step builds) entered later ∧
      ¬ later.EntriesPresent := by
    cases position : state.phase older with
    | spawned => exact overlap.spawned (unmoved.trans position)
    | registered => exact overlap.registered (unmoved.trans position)
    | returned => exact overlap.returned (kept.step fired) (unmoved.trans position)
    | cleared => exact absurd position up
  obtain ⟨later, onward, broken⟩ := continued
  exact ⟨later, reached.trans onward, broken⟩

end Overlap

/-! ### Every run -/

/-- In every run that starts an executor only after the earlier ones of its pipeline have unwound,
every running executor is in the metrics store with its own entry; and from a start that does not
wait the manager can go on to where one is not. -/
theorem entriesPresent_of_startsAfterUnwound (builds : Rows → Bool) (store : Store) (owed : Nat) :
    (∀ state, Runs.Reaches (step builds) (StartsAfterUnwound builds) (initial store owed) state →
      state.EntriesPresent) ∧
    ∀ state label after, Runs.Reachable (step builds) (initial store owed) state →
      ¬ StartsAfterUnwound builds state label → state.step builds label = some after →
      ∃ later, Runs.Reachable (step builds) after later ∧ ¬ later.EntriesPresent := by
  refine ⟨fun state reached => ?_, fun state label after reached broken fired => ?_⟩
  · have kept : state.EntriesKept := reached.invariant EntriesKept
      (initial_entriesKept store owed) fun _ _ _ kept permitted fired => kept.step permitted fired
    exact kept.entriesPresent
  · have kept : state.PhasesKept := reached.invariant PhasesKept (initial_phasesKept store owed)
      fun _ _ _ kept _ fired => kept.step fired
    have keptAfter := kept.step fired
    unfold StartsAfterUnwound at broken
    split at broken
    · rename_i call
      split at broken
      · rename_i rows todo phase
        push Not at broken
        obtain ⟨accepted, lives, older, taken, named, up⟩ := broken
        have different : older ≠ state.manager.fresh := Nat.ne_of_lt taken
        have spawned : state.phase state.manager.fresh = .spawned := by
          by_contra begun
          exact lt_irrefl _ (kept.started _ begun)
        have started : state.step builds (.manager (.register call)) = some { state with
            manager := (state.manager.registerRows call rows).setCall call (.starting todo) } := by
          have admitted : state.admits (.register call) = true := rfl
          rw [step, if_pos admitted]
          simp only [ManagerState.step, phase, accepted, if_true, Option.map_some]
        rw [started, Option.some_inj] at fired
        subst fired
        refine exists_not_entriesPresent keptAfter (Nat.lt_succ_of_lt taken)
          ⟨Nat.lt_succ_self _, ?_⟩ spawned different ?_ up
        · show (Function.update state.manager.handles state.manager.fresh _ _).cancelled = false
          rw [Function.update_self]
          exact lives
        · have new := (state.manager.registerRows_fresh call rows).1
          exact (pipelineOf_registerRows state.manager call rows different).trans
            (named.trans new.symm)
      · exact absurd trivial broken
    · exact absurd trivial broken

/-! ### Leadership lost and regained -/

/-- The leader starts its pipeline, loses the lease and gains it back; the first executor's
`Unregister` comes after the second one's `Register`. -/
def regainedBeforeUnwound : List MetricsLabel :=
  (ManagerState.reloadToRegister 0).map .manager ++
    [.manager (.register 0), .manager (.finishReload 0), .register 0, .manager .stopAll] ++
    (ManagerState.reloadToRegister 0).map .manager ++
    [.manager (.register 0), .register 1, .unregister 0]

/-- The second executor runs and the metrics store does not know its pipeline. -/
theorem regained_executor_unregistered :
    ∃ state, Runs.Reachable (step fun _ => true) (initial ManagerState.oneStore 0) state ∧
      state.manager.Live 1 ∧ state.phase 1 = .registered ∧
      state.metrics (state.manager.pipelineOf 1) = none ∧ ¬ state.EntriesPresent := by
  obtain ⟨state, reached, tested⟩ := Runs.exists_reaches_of_exec (step fun _ => true)
    (fun _ _ => True) (initial ManagerState.oneStore 0) regainedBeforeUnwound
    (fun state => decide ((1 < state.manager.fresh ∧
      (state.manager.handles 1).cancelled = false) ∧ state.phase 1 = .registered ∧
      state.metrics (state.manager.pipelineOf 1) = none)) (by decide)
  obtain ⟨live, running, missing⟩ := of_decide_eq_true tested
  refine ⟨state, reached, live, running, missing, fun present => ?_⟩
  have begun : state.phase 1 ≠ .spawned := by
    rw [running]
    exact RunPhase.noConfusion
  have entry := (present 1 live begun).1
  rw [missing] at entry
  cases entry

/-- The same with the first executor's goroutine done before the lease is back. -/
def regainedAfterUnwound : List MetricsLabel :=
  (ManagerState.reloadToRegister 0).map .manager ++
    [.manager (.register 0), .manager (.finishReload 0), .register 0, .manager .stopAll,
      .unregister 0, .manager (.unwind 0), .clearCircuitState 0] ++
    (ManagerState.reloadToRegister 0).map .manager ++ [.manager (.register 0), .register 1]

/-- Then the second executor is registered. -/
theorem regained_executor_registered :
    ∃ state : MetricsState, state.manager.Live 1 ∧ state.phase 1 = .registered ∧
      state.EntriesPresent := by
  obtain ⟨state, reached, tested⟩ := Runs.exists_reaches_of_exec (step fun _ => true)
    (StartsAfterUnwound fun _ => true) (initial ManagerState.oneStore 0) regainedAfterUnwound
    (fun state => decide ((1 < state.manager.fresh ∧
      (state.manager.handles 1).cancelled = false) ∧ state.phase 1 = .registered))
    (by decide)
  obtain ⟨live, running⟩ := of_decide_eq_true tested
  exact ⟨state, live, running,
    (entriesPresent_of_startsAfterUnwound (fun _ => true) ManagerState.oneStore 0).1 state reached⟩

end MetricsState

end MqConnector
