/-
This file models `internal/pipeline/manager.go`, with the requests of `Store`
that run beside it.

The manager is a step machine at lock granularity. Any number of calls and
requests interleave. An executor is its handle: it runs until its context is
cancelled, then takes itself out of `m.active` if it is still the handle stored
there, and then closes its `done` channel.

`overtaken` and `late` record what the stop theorem speaks about: which calls a
returned stop has overtaken, and which executors such a call started anyway.
-/

import MqConnector.Runs
import MqConnector.Store

namespace MqConnector

/-! ### Calls and executors -/

/-- `executorHandle`, with the rows its executor was built from. -/
structure Handle where
  rows : Rows
  cancelled : Bool := false
  unwound : Bool := false
  done : Bool := false

/-- One storage read of `startPipeline`; `planRoutes` is the loop over the routing rules,
which reads one destination at a time. -/
inductive Read
  | stages | transforms | routingRules | source | destination | planRoutes
  | routeDest (id : String)
  | shadow
  deriving DecidableEq

/-- The reads of `startPipeline` in order. -/
def readPlan : List Read :=
  [.stages, .transforms, .routingRules, .source, .destination, .planRoutes, .shadow]

inductive ManagerCall
  | idle
  | called
  | draining (todo : List Nat)
  | waiting (handle : Nat) (todo : List Nat)
  | starting (todo : List Pipeline)
  | reading (rows : Rows) (plan : List Read) (todo : List Pipeline)
  | stopWaiting

/-- A mutating request in progress: what it has left to write, and whether one of its writes
has changed what some enabled pipeline is built from. -/
structure RequestState where
  request : Request
  todo : List Write
  effective : Bool

/-- The manager, the store beside it, and everything in progress. -/
structure ManagerState where
  store : Store
  stopped : Bool
  parentDone : Bool
  active : String → Option Nat
  handles : Nat → Handle
  fresh : Nat
  calls : Nat → ManagerCall
  overtaken : Nat → Bool
  late : List Nat
  requests : Nat → Option RequestState
  owed : Nat
  stale : Bool

/-- The moves of the manager and of the requests. `reload` is a call from outside, `spawn` the
start of one that a request has triggered. -/
inductive ManagerLabel
  | reload (call : Nat)
  | spawn (call : Nat)
  | check (call : Nat)
  | cancelOld (call handle : Nat)
  | drained (call : Nat)
  | list (call : Nat)
  | listFailed (call : Nat)
  | beginStart (call : Nat)
  | read (call : Nat)
  | readFailed (call : Nat)
  | register (call : Nat)
  | finishReload (call : Nat)
  | stop
  | stopAll
  | stopAndWait (call : Nat)
  | stopReturn (call : Nat)
  | unwind (handle : Nat)
  | exit (handle : Nat)
  | cancelParent
  | beginRequest (id : Nat) (request : Request)
  | write (id : Nat)
  | abortRequest (id : Nat)
  | finishRequest (id : Nat)

namespace ManagerState

/-- A manager that has not been asked to run anything, over a store with any rows. -/
def initial (store : Store) (owed : Nat) : ManagerState where
  store := store
  stopped := false
  parentDone := false
  active := fun _ => none
  handles := fun _ => { rows := { pipeline := { id := "", tenantID := "", sourceID := "",
                                                destinationID := "" } } }
  fresh := 0
  calls := fun _ => .idle
  overtaken := fun _ => false
  late := []
  requests := fun _ => none
  owed := owed
  stale := true

/-- The pipeline an executor was started for. -/
def pipelineOf (state : ManagerState) (handle : Nat) : String :=
  (state.handles handle).rows.pipeline.id

/-- The handle is the one stored for its pipeline. -/
def isActive (state : ManagerState) (handle : Nat) : Prop :=
  state.active (state.pipelineOf handle) = some handle

instance (state : ManagerState) (handle : Nat) : Decidable (state.isActive handle) :=
  inferInstanceAs (Decidable (state.active (state.pipelineOf handle) = some handle))

/-- An executor whose context has not been cancelled. It runs: only a cancelled one exits. -/
def Live (state : ManagerState) (handle : Nat) : Prop :=
  handle < state.fresh ∧ (state.handles handle).cancelled = false

/-- The handles in `m.active`. -/
def activeHandles (state : ManagerState) : List Nat :=
  (List.range state.fresh).filter fun handle => state.isActive handle

def setCall (state : ManagerState) (call : Nat) (phase : ManagerCall) : ManagerState :=
  { state with calls := Function.update state.calls call phase }

def setRequest (state : ManagerState) (id : Nat) (request : Option RequestState) : ManagerState :=
  { state with requests := Function.update state.requests id request }

def setHandle (state : ManagerState) (handle : Nat) (changed : Handle) : ManagerState :=
  { state with handles := Function.update state.handles handle changed }

def cancel (state : ManagerState) (handle : Nat) : ManagerState :=
  state.setHandle handle { state.handles handle with cancelled := true }

/-- Cancel every handle in `m.active`. -/
def cancelActive (state : ManagerState) : ManagerState :=
  { state with handles := fun handle =>
      if state.isActive handle then { state.handles handle with cancelled := true }
      else state.handles handle }

/-- A stop has returned: it overtakes every Reload in progress. -/
def stopReturned (state : ManagerState) : ManagerState :=
  { state with overtaken := fun call =>
      match state.calls call with
      | .idle | .stopWaiting => state.overtaken call
      | _ => true }

/-- One read of `startPipeline`, with the reads it adds to the plan. -/
def readRow (store : Store) (rows : Rows) : Read → Rows × List Read
  | .stages => ({ rows with stages := store.listStages rows.pipeline.id }, [])
  | .transforms => ({ rows with transforms := store.listTransforms rows.pipeline.id }, [])
  | .routingRules => ({ rows with routingRules := store.listRoutingRules rows.pipeline.id }, [])
  | .source => ({ rows with source := store.connections rows.pipeline.sourceID }, [])
  | .destination => ({ rows with destination := store.connections rows.pipeline.destinationID }, [])
  | .planRoutes => (rows, (routeDestinations rows.routingRules).map .routeDest)
  | .routeDest id => ({ rows with routeDests := rows.routeDests ++ [store.connections id] }, [])
  | .shadow =>
    ({ rows with shadow :=
        if rows.pipeline.shadowed then store.connections rows.pipeline.shadowDestinationID
        else none }, [])

/-- The end of `startPipeline`: the new executor is stored under its pipeline's id, whatever
was stored there. -/
def registerRows (state : ManagerState) (call : Nat) (rows : Rows) : ManagerState :=
  { state with
    active := Function.update state.active rows.pipeline.id (some state.fresh)
    handles := Function.update state.handles state.fresh { rows, cancelled := state.parentDone }
    fresh := state.fresh + 1
    late := if state.overtaken call && !state.parentDone then state.fresh :: state.late
      else state.late }

/-- One step. `builds` says which rows `startPipeline` can build an executor from. -/
def step (builds : Rows → Bool) (state : ManagerState) : ManagerLabel → Option ManagerState
  | .reload call =>
    match state.calls call with
    | .idle => some { state.setCall call .called with
        overtaken := Function.update state.overtaken call false }
    | _ => none
  | .spawn call =>
    match state.calls call with
    | .idle =>
      if state.owed = 0 then none
      else some { state.setCall call .called with
        overtaken := Function.update state.overtaken call false, owed := state.owed - 1 }
    | _ => none
  | .check call =>
    match state.calls call with
    | .called =>
      if state.stopped then some (state.setCall call .idle)
      else some { state.setCall call (.draining state.activeHandles) with stale := false }
    | _ => none
  | .cancelOld call handle =>
    match state.calls call with
    | .draining todo =>
      if handle ∈ todo then
        some ((state.cancel handle).setCall call (.waiting handle (todo.erase handle)))
      else none
    | _ => none
  | .drained call =>
    match state.calls call with
    | .waiting handle todo =>
      if (state.handles handle).done then some (state.setCall call (.draining todo)) else none
    | _ => none
  | .list call =>
    match state.calls call with
    | .draining [] => some (state.setCall call (.starting state.store.enabledPipelines))
    | _ => none
  | .listFailed call =>
    match state.calls call with
    | .draining [] => some (state.setCall call .idle)
    | _ => none
  | .beginStart call =>
    match state.calls call with
    | .starting (pipeline :: todo) =>
      some (state.setCall call (.reading { pipeline } readPlan todo))
    | _ => none
  | .read call =>
    match state.calls call with
    | .reading rows (next :: plan) todo =>
      some (state.setCall call (.reading (readRow state.store rows next).1
        ((readRow state.store rows next).2 ++ plan) todo))
    | _ => none
  | .readFailed call =>
    match state.calls call with
    | .reading _ _ todo => some (state.setCall call (.starting todo))
    | _ => none
  | .register call =>
    match state.calls call with
    | .reading rows [] todo =>
      if rows.accepted builds then
        some ((state.registerRows call rows).setCall call (.starting todo))
      else some (state.setCall call (.starting todo))
    | _ => none
  | .finishReload call =>
    match state.calls call with
    | .starting [] => some (state.setCall call .idle)
    | _ => none
  | .stop => some { state.cancelActive.stopReturned with stopped := true, active := fun _ => none }
  | .stopAll => some { state.cancelActive.stopReturned with active := fun _ => none }
  | .stopAndWait call =>
    match state.calls call with
    | .idle => some { state.cancelActive.setCall call .stopWaiting with stopped := true }
    | _ => none
  | .stopReturn call =>
    match state.calls call with
    | .stopWaiting => some (state.stopReturned.setCall call .idle)
    | _ => none
  | .unwind handle =>
    if handle < state.fresh ∧ (state.handles handle).cancelled ∧ ¬ (state.handles handle).unwound
    then
      some { state.setHandle handle { state.handles handle with unwound := true } with
        active := if state.isActive handle then
            Function.update state.active (state.pipelineOf handle) none
          else state.active }
    else none
  | .exit handle =>
    if (state.handles handle).unwound then
      some (state.setHandle handle { state.handles handle with done := true })
    else none
  | .cancelParent =>
    some { state with
      parentDone := true
      handles := fun handle => { state.handles handle with cancelled := true } }
  | .beginRequest id request =>
    match state.requests id with
    | none => some (state.setRequest id
        (some { request, todo := request.writes, effective := false }))
    | some _ => none
  | .write id =>
    match state.requests id with
    | some { request, todo := next :: todo, effective } =>
      let after := state.store.apply next
      let changes := decide (after.view ≠ state.store.view)
      some { state.setRequest id (some { request, todo, effective := effective || changes }) with
        store := after
        stale := state.stale || changes }
    | _ => none
  | .abortRequest id =>
    match state.requests id with
    | some _ => some (state.setRequest id none)
    | none => none
  | .finishRequest id =>
    match state.requests id with
    | some { request, todo := [], effective := _ } =>
      some { state.setRequest id none with
        owed := if request.triggersReload then state.owed + 1 else state.owed }
    | _ => none

/-! ### What a step can be -/

/-- The steps, each with what it has found. -/
inductive Move (builds : Rows → Bool) (state : ManagerState) : ManagerLabel → ManagerState → Prop
  | reload {call : Nat} (phase : state.calls call = .idle) :
      Move builds state (.reload call) { state.setCall call .called with
        overtaken := Function.update state.overtaken call false }
  | spawn {call : Nat} (phase : state.calls call = .idle) (owed : state.owed ≠ 0) :
      Move builds state (.spawn call) { state.setCall call .called with
        overtaken := Function.update state.overtaken call false, owed := state.owed - 1 }
  | refused {call : Nat} (phase : state.calls call = .called) (stopped : state.stopped = true) :
      Move builds state (.check call) (state.setCall call .idle)
  | check {call : Nat} (phase : state.calls call = .called) (running : state.stopped = false) :
      Move builds state (.check call)
        { state.setCall call (.draining state.activeHandles) with stale := false }
  | cancelOld {call handle : Nat} {todo : List Nat} (phase : state.calls call = .draining todo)
      (listed : handle ∈ todo) :
      Move builds state (.cancelOld call handle)
        ((state.cancel handle).setCall call (.waiting handle (todo.erase handle)))
  | drained {call handle : Nat} {todo : List Nat} (phase : state.calls call = .waiting handle todo)
      (done : (state.handles handle).done = true) :
      Move builds state (.drained call) (state.setCall call (.draining todo))
  | list {call : Nat} (phase : state.calls call = .draining []) :
      Move builds state (.list call) (state.setCall call (.starting state.store.enabledPipelines))
  | listFailed {call : Nat} (phase : state.calls call = .draining []) :
      Move builds state (.listFailed call) (state.setCall call .idle)
  | beginStart {call : Nat} {pipeline : Pipeline} {todo : List Pipeline}
      (phase : state.calls call = .starting (pipeline :: todo)) :
      Move builds state (.beginStart call)
        (state.setCall call (.reading { pipeline } readPlan todo))
  | read {call : Nat} {rows : Rows} {next : Read} {plan : List Read} {todo : List Pipeline}
      (phase : state.calls call = .reading rows (next :: plan) todo) :
      Move builds state (.read call) (state.setCall call (.reading
        (readRow state.store rows next).1 ((readRow state.store rows next).2 ++ plan) todo))
  | readFailed {call : Nat} {rows : Rows} {plan : List Read} {todo : List Pipeline}
      (phase : state.calls call = .reading rows plan todo) :
      Move builds state (.readFailed call) (state.setCall call (.starting todo))
  | register {call : Nat} {rows : Rows} {todo : List Pipeline}
      (phase : state.calls call = .reading rows [] todo) (accepted : rows.accepted builds = true) :
      Move builds state (.register call)
        ((state.registerRows call rows).setCall call (.starting todo))
  | rejected {call : Nat} {rows : Rows} {todo : List Pipeline}
      (phase : state.calls call = .reading rows [] todo)
      (rejected : rows.accepted builds = false) :
      Move builds state (.register call) (state.setCall call (.starting todo))
  | finishReload {call : Nat} (phase : state.calls call = .starting []) :
      Move builds state (.finishReload call) (state.setCall call .idle)
  | stop : Move builds state .stop
      { state.cancelActive.stopReturned with stopped := true, active := fun _ => none }
  | stopAll : Move builds state .stopAll
      { state.cancelActive.stopReturned with active := fun _ => none }
  | stopAndWait {call : Nat} (phase : state.calls call = .idle) :
      Move builds state (.stopAndWait call)
        { state.cancelActive.setCall call .stopWaiting with stopped := true }
  | stopReturn {call : Nat} (phase : state.calls call = .stopWaiting) :
      Move builds state (.stopReturn call) (state.stopReturned.setCall call .idle)
  | unwind {handle : Nat} (cancelled : (state.handles handle).cancelled = true) :
      Move builds state (.unwind handle)
        { state.setHandle handle { state.handles handle with unwound := true } with
          active := if state.isActive handle then
              Function.update state.active (state.pipelineOf handle) none
            else state.active }
  | exit {handle : Nat} (unwound : (state.handles handle).unwound = true) :
      Move builds state (.exit handle)
        (state.setHandle handle { state.handles handle with done := true })
  | cancelParent : Move builds state .cancelParent
      { state with
        parentDone := true
        handles := fun handle => { state.handles handle with cancelled := true } }
  | beginRequest {id : Nat} {request : Request} (free : state.requests id = none) :
      Move builds state (.beginRequest id request)
        (state.setRequest id (some { request, todo := request.writes, effective := false }))
  | write {id : Nat} {request : Request} {next : Write} {todo : List Write} {effective : Bool}
      (found : state.requests id = some { request, todo := next :: todo, effective }) :
      Move builds state (.write id)
        { state.setRequest id (some
            { request, todo
              effective := effective || decide ((state.store.apply next).view ≠ state.store.view) })
          with
          store := state.store.apply next
          stale := state.stale || decide ((state.store.apply next).view ≠ state.store.view) }
  | abortRequest {id : Nat} {inProgress : RequestState}
      (found : state.requests id = some inProgress) :
      Move builds state (.abortRequest id) (state.setRequest id none)
  | finishRequest {id : Nat} {request : Request} {effective : Bool}
      (found : state.requests id = some { request, todo := [], effective }) :
      Move builds state (.finishRequest id) { state.setRequest id none with
        owed := if request.triggersReload then state.owed + 1 else state.owed }

theorem move_of_step {builds : Rows → Bool} {state after : ManagerState} {label : ManagerLabel}
    (fired : state.step builds label = some after) : Move builds state label after := by
  cases label with
  | reload call =>
    simp only [step] at fired
    split at fired
    · rename_i phase
      cases fired
      exact .reload phase
    · cases fired
  | spawn call =>
    simp only [step] at fired
    split at fired
    · rename_i phase
      split at fired
      · cases fired
      · rename_i owed
        cases fired
        exact .spawn phase owed
    · cases fired
  | check call =>
    simp only [step] at fired
    split at fired
    · rename_i phase
      split at fired
      · rename_i stopped
        cases fired
        exact .refused phase stopped
      · rename_i running
        cases fired
        exact .check phase (Bool.eq_false_of_not_eq_true running)
    · cases fired
  | cancelOld call handle =>
    simp only [step] at fired
    split at fired
    · rename_i phase
      split at fired
      · rename_i listed
        cases fired
        exact .cancelOld phase listed
      · cases fired
    · cases fired
  | drained call =>
    simp only [step] at fired
    split at fired
    · rename_i phase
      split at fired
      · rename_i done
        cases fired
        exact .drained phase done
      · cases fired
    · cases fired
  | list call =>
    simp only [step] at fired
    split at fired
    · rename_i phase
      cases fired
      exact .list phase
    · cases fired
  | listFailed call =>
    simp only [step] at fired
    split at fired
    · rename_i phase
      cases fired
      exact .listFailed phase
    · cases fired
  | beginStart call =>
    simp only [step] at fired
    split at fired
    · rename_i phase
      cases fired
      exact .beginStart phase
    · cases fired
  | read call =>
    simp only [step] at fired
    split at fired
    · rename_i phase
      cases fired
      exact .read phase
    · cases fired
  | readFailed call =>
    simp only [step] at fired
    split at fired
    · rename_i phase
      cases fired
      exact .readFailed phase
    · cases fired
  | register call =>
    simp only [step] at fired
    split at fired
    · rename_i phase
      split at fired
      · rename_i accepted
        cases fired
        exact .register phase accepted
      · rename_i rejected
        cases fired
        exact .rejected phase (Bool.eq_false_of_not_eq_true rejected)
    · cases fired
  | finishReload call =>
    simp only [step] at fired
    split at fired
    · rename_i phase
      cases fired
      exact .finishReload phase
    · cases fired
  | stop =>
    cases fired
    exact .stop
  | stopAll =>
    cases fired
    exact .stopAll
  | stopAndWait call =>
    simp only [step] at fired
    split at fired
    · rename_i phase
      cases fired
      exact .stopAndWait phase
    · cases fired
  | stopReturn call =>
    simp only [step] at fired
    split at fired
    · rename_i phase
      cases fired
      exact .stopReturn phase
    · cases fired
  | unwind handle =>
    simp only [step] at fired
    split at fired
    · rename_i enabled
      cases fired
      exact .unwind enabled.2.1
    · cases fired
  | exit handle =>
    simp only [step] at fired
    split at fired
    · rename_i unwound
      cases fired
      exact .exit unwound
    · cases fired
  | cancelParent =>
    cases fired
    exact .cancelParent
  | beginRequest id request =>
    simp only [step] at fired
    split at fired
    · rename_i free
      cases fired
      exact .beginRequest free
    · cases fired
  | write id =>
    simp only [step] at fired
    split at fired
    · rename_i found
      cases fired
      exact .write found
    · cases fired
  | abortRequest id =>
    simp only [step] at fired
    split at fired
    · rename_i found
      cases fired
      exact .abortRequest found
    · cases fired
  | finishRequest id =>
    simp only [step] at fired
    split at fired
    · rename_i found
      cases fired
      exact .finishRequest found
    · cases fired

/-! ### What a step does to the executors -/

/-- A step that starts no executor: handles keep their rows, a cancelled one stays cancelled,
and a handle leaves `m.active` only cancelled. -/
structure CoreFrame (state after : ManagerState) : Prop where
  fresh : after.fresh = state.fresh
  rows : ∀ handle, (after.handles handle).rows = (state.handles handle).rows
  cancelled : ∀ handle, (state.handles handle).cancelled = true →
    (after.handles handle).cancelled = true
  kept : ∀ id handle, after.active id = some handle → state.active id = some handle
  dropped : ∀ id handle, state.active id = some handle →
    after.active id = some handle ∨ (after.handles handle).cancelled = true

/-- Handles are stored under the id of their own pipeline. -/
def WellKeyed (state : ManagerState) : Prop :=
  ∀ id handle, state.active id = some handle →
    handle < state.fresh ∧ state.pipelineOf handle = id

theorem coreFrame_of_eq {state after : ManagerState} (fresh : after.fresh = state.fresh)
    (handles : after.handles = state.handles) (active : after.active = state.active) :
    CoreFrame state after where
  fresh := fresh
  rows _ := by rw [handles]
  cancelled _ cancelled := by rw [handles]; exact cancelled
  kept _ _ found := active ▸ found
  dropped _ _ found := Or.inl (active ▸ found)

theorem coreFrame_of_update {state after : ManagerState} (handle : Nat) (changed : Handle)
    (fresh : after.fresh = state.fresh) (active : after.active = state.active)
    (handles : after.handles = Function.update state.handles handle changed)
    (rows : changed.rows = (state.handles handle).rows)
    (cancelled : (state.handles handle).cancelled = true → changed.cancelled = true) :
    CoreFrame state after := by
  refine ⟨fresh, fun other => ?_, fun other was => ?_, fun _ _ found => active ▸ found,
    fun _ _ found => Or.inl (active ▸ found)⟩
  · by_cases same : other = handle
    · rw [handles, same, Function.update_self, rows]
    · rw [handles, Function.update_of_ne same]
  · by_cases same : other = handle
    · rw [handles, same, Function.update_self]
      exact cancelled (same ▸ was)
    · rw [handles, Function.update_of_ne same]
      exact was

theorem cancelActive_handle (state : ManagerState) (handle : Nat) :
    (state.cancelActive.handles handle).rows = (state.handles handle).rows ∧
      ((state.handles handle).cancelled = true →
        (state.cancelActive.handles handle).cancelled = true) ∧
      (state.isActive handle → (state.cancelActive.handles handle).cancelled = true) := by
  unfold cancelActive
  dsimp only
  split
  · exact ⟨rfl, fun _ => rfl, fun _ => rfl⟩
  · rename_i inactive
    exact ⟨rfl, fun was => was, fun active => absurd active inactive⟩

theorem coreFrame_of_cancelActive {state after : ManagerState} (keyed : state.WellKeyed)
    (fresh : after.fresh = state.fresh) (handles : after.handles = state.cancelActive.handles)
    (kept : ∀ id handle, after.active id = some handle → state.active id = some handle) :
    CoreFrame state after where
  fresh := fresh
  rows handle := by rw [handles]; exact (state.cancelActive_handle handle).1
  cancelled handle was := by rw [handles]; exact (state.cancelActive_handle handle).2.1 was
  kept := kept
  dropped id handle found := by
    refine Or.inr ?_
    rw [handles]
    refine (state.cancelActive_handle handle).2.2 ?_
    rw [isActive, (keyed id handle found).2]
    exact found

theorem coreFrame_of_unwind {state : ManagerState} {handle : Nat}
    (cancelled : (state.handles handle).cancelled = true) :
    CoreFrame state { state.setHandle handle { state.handles handle with unwound := true } with
      active := if state.isActive handle then
          Function.update state.active (state.pipelineOf handle) none
        else state.active } := by
  have changed : CoreFrame state
      (state.setHandle handle { state.handles handle with unwound := true }) :=
    coreFrame_of_update handle _ rfl rfl rfl rfl fun was => was
  by_cases active : state.isActive handle
  · refine ⟨rfl, changed.rows, changed.cancelled, fun id other found => ?_,
      fun id other found => ?_⟩
    · dsimp only at found
      rw [if_pos active] at found
      by_cases same : id = state.pipelineOf handle
      · rw [same, Function.update_self] at found
        cases found
      · rw [Function.update_of_ne same] at found
        exact found
    · by_cases same : id = state.pipelineOf handle
      · rw [same, active] at found
        cases found
        exact Or.inr (changed.cancelled handle cancelled)
      · refine Or.inl ?_
        dsimp only
        rw [if_pos active, Function.update_of_ne same]
        exact found
  · refine coreFrame_of_update handle _ rfl ?_ rfl rfl fun was => was
    dsimp only
    rw [if_neg active]

theorem step_core {builds : Rows → Bool} {state after : ManagerState} {label : ManagerLabel}
    (keyed : state.WellKeyed) (fired : state.step builds label = some after) :
    CoreFrame state after ∨
      ∃ call rows todo, label = .register call ∧ state.calls call = .reading rows [] todo ∧
        rows.accepted builds = true ∧
        after = (state.registerRows call rows).setCall call (.starting todo) := by
  cases move_of_step fired with
  | register phase accepted => exact Or.inr ⟨_, _, _, rfl, phase, accepted, rfl⟩
  | cancelOld => exact Or.inl (coreFrame_of_update _ _ rfl rfl rfl rfl fun _ => rfl)
  | stop | stopAll =>
    exact Or.inl (coreFrame_of_cancelActive keyed rfl rfl fun _ _ found => nomatch found)
  | stopAndWait => exact Or.inl (coreFrame_of_cancelActive keyed rfl rfl fun _ _ found => found)
  | unwind cancelled => exact Or.inl (coreFrame_of_unwind cancelled)
  | exit => exact Or.inl (coreFrame_of_update _ _ rfl rfl rfl rfl fun was => was)
  | cancelParent =>
    exact Or.inl ⟨rfl, fun _ => rfl, fun _ _ => rfl, fun _ _ found => found, fun _ _ _ => Or.inr rfl⟩
  | _ => exact Or.inl (coreFrame_of_eq rfl rfl rfl)

end ManagerState

end MqConnector
