/-
This file asks whether the manager runs at most one executor per pipeline and
still knows it.

The invariant is that every live executor is the handle `m.active` holds for its
pipeline. Every step keeps it except one: `startPipeline` stores its handle under
the pipeline's id without looking, so when a live handle is stored there that
executor goes on running and nobody can cancel it any more. Two overlapping
Reloads meet this.
-/

import MqConnector.Manager

namespace MqConnector

namespace ManagerState

/-! ### Live executors are tracked -/

/-- At most one live executor per pipeline, and it is the one in `m.active`. -/
def SingleTracked (state : ManagerState) : Prop :=
  (∀ handle other, state.Live handle → state.Live other →
    state.pipelineOf handle = state.pipelineOf other → handle = other) ∧
  ∀ handle, state.Live handle → state.isActive handle

/-- The condition on a step: an executor is registered only where `m.active` holds no handle
that is still live. -/
def RegistersFree (builds : Rows → Bool) (state : ManagerState) : ManagerLabel → Prop
  | .register call =>
    match state.calls call with
    | .reading rows [] _ =>
      rows.accepted builds = true →
        ∀ handle ∈ state.active rows.pipeline.id, (state.handles handle).cancelled = true
    | _ => True
  | _ => True

instance (builds : Rows → Bool) (state : ManagerState) (label : ManagerLabel) :
    Decidable (RegistersFree builds state label) := by
  unfold RegistersFree
  split
  · split <;> infer_instance
  · infer_instance

theorem singleTracked_of_isActive {state : ManagerState}
    (tracked : ∀ handle, state.Live handle → state.isActive handle) : state.SingleTracked := by
  refine ⟨fun handle other live otherLive same => ?_, tracked⟩
  have stored := tracked handle live
  have otherStored := tracked other otherLive
  rw [isActive] at stored otherStored
  rw [same, otherStored] at stored
  exact (Option.some_inj.mp stored).symm

theorem CoreFrame.live {state after : ManagerState} (frame : CoreFrame state after) {handle : Nat}
    (live : after.Live handle) : state.Live handle := by
  refine ⟨frame.fresh ▸ live.1, ?_⟩
  cases was : (state.handles handle).cancelled with
  | false => rfl
  | true =>
    have still := frame.cancelled handle was
    rw [live.2] at still
    cases still

theorem CoreFrame.pipelineOf {state after : ManagerState} (frame : CoreFrame state after)
    (handle : Nat) : after.pipelineOf handle = state.pipelineOf handle := by
  unfold ManagerState.pipelineOf
  rw [frame.rows handle]

theorem CoreFrame.wellKeyed {state after : ManagerState} (frame : CoreFrame state after)
    (keyed : state.WellKeyed) : after.WellKeyed := by
  intro id handle found
  obtain ⟨taken, equal⟩ := keyed id handle (frame.kept id handle found)
  exact ⟨frame.fresh ▸ taken, (frame.pipelineOf handle).trans equal⟩

theorem CoreFrame.tracked {state after : ManagerState} (frame : CoreFrame state after)
    (tracked : ∀ handle, state.Live handle → state.isActive handle) (handle : Nat)
    (live : after.Live handle) : after.isActive handle := by
  have stored := tracked handle (frame.live live)
  rw [isActive] at stored ⊢
  rcases frame.dropped _ _ stored with kept | cancelled
  · rw [frame.pipelineOf handle]
    exact kept
  · rw [live.2] at cancelled
    cases cancelled

/-! ### Registration -/

theorem registerRows_fresh (state : ManagerState) (call : Nat) (rows : Rows) :
    (state.registerRows call rows).pipelineOf state.fresh = rows.pipeline.id ∧
      (state.registerRows call rows).isActive state.fresh := by
  have named : (state.registerRows call rows).pipelineOf state.fresh = rows.pipeline.id := by
    simp only [pipelineOf, registerRows, Function.update_self]
  refine ⟨named, ?_⟩
  rw [isActive, named]
  simp only [registerRows, Function.update_self]

theorem registerRows_handles (state : ManagerState) (call : Nat) (rows : Rows) {handle : Nat}
    (old : handle ≠ state.fresh) :
    (state.registerRows call rows).handles handle = state.handles handle := by
  simp only [registerRows, Function.update_of_ne old]

theorem registerRows_wellKeyed {state : ManagerState} (keyed : state.WellKeyed) (call : Nat)
    (rows : Rows) : (state.registerRows call rows).WellKeyed := by
  intro id handle found
  by_cases own : id = rows.pipeline.id
  · rw [own] at found ⊢
    simp only [registerRows, Function.update_self, Option.some_inj] at found
    subst found
    exact ⟨Nat.lt_succ_self _, (state.registerRows_fresh call rows).1⟩
  · simp only [registerRows, Function.update_of_ne own] at found
    obtain ⟨taken, equal⟩ := keyed id handle found
    refine ⟨Nat.lt_succ_of_lt taken, ?_⟩
    rw [pipelineOf, registerRows_handles state call rows (Nat.ne_of_lt taken)]
    exact equal

theorem wellKeyed_of_step {builds : Rows → Bool} {state after : ManagerState}
    {label : ManagerLabel} (keyed : state.WellKeyed) (fired : state.step builds label = some after) :
    after.WellKeyed := by
  rcases step_core keyed fired with frame | ⟨call, rows, todo, -, -, -, rfl⟩
  · exact frame.wellKeyed keyed
  · exact registerRows_wellKeyed keyed call rows

theorem registerRows_live {state : ManagerState} {call : Nat} {rows : Rows} {handle : Nat}
    (live : (state.registerRows call rows).Live handle) :
    handle = state.fresh ∨ (handle ≠ state.fresh ∧ state.Live handle) := by
  by_cases new : handle = state.fresh
  · exact Or.inl new
  · refine Or.inr ⟨new, Nat.lt_of_le_of_ne (Nat.le_of_lt_succ live.1) new, ?_⟩
    have uncancelled := live.2
    rw [registerRows_handles state call rows new] at uncancelled
    exact uncancelled

theorem registerRows_tracked {state : ManagerState}
    (tracked : ∀ handle, state.Live handle → state.isActive handle) (call : Nat) {rows : Rows}
    (free : ∀ handle, state.active rows.pipeline.id = some handle →
      (state.handles handle).cancelled = true) (handle : Nat)
    (live : (state.registerRows call rows).Live handle) :
    (state.registerRows call rows).isActive handle := by
  rcases registerRows_live live with rfl | ⟨old, was⟩
  · exact (state.registerRows_fresh call rows).2
  · have stored := tracked handle was
    rw [isActive] at stored ⊢
    have same : (state.registerRows call rows).pipelineOf handle = state.pipelineOf handle := by
      rw [pipelineOf, registerRows_handles state call rows old, pipelineOf]
    rw [same]
    by_cases replaced : state.pipelineOf handle = rows.pipeline.id
    · rw [replaced] at stored
      have cancelled := free handle stored
      rw [was.2] at cancelled
      cases cancelled
    · simp only [registerRows, Function.update_of_ne replaced]
      exact stored

theorem registerRows_not_tracked {state : ManagerState} (keyed : state.WellKeyed) (call : Nat)
    {rows : Rows} {handle : Nat} (stored : state.active rows.pipeline.id = some handle)
    (live : (state.handles handle).cancelled = false) :
    ¬ (state.registerRows call rows).SingleTracked := by
  obtain ⟨taken, named⟩ := keyed _ _ stored
  have old : handle ≠ state.fresh := Nat.ne_of_lt taken
  intro tracked
  have active := tracked.2 handle ⟨Nat.lt_succ_of_lt taken, by
    rw [registerRows_handles state call rows old]; exact live⟩
  rw [isActive, pipelineOf, registerRows_handles state call rows old] at active
  change (state.registerRows call rows).active (state.pipelineOf handle) = some handle at active
  rw [named] at active
  simp only [registerRows, Function.update_self, Option.some_inj] at active
  exact old active.symm

/-! ### Every run -/

/-- The invariant behind the tracking. -/
structure TrackingKept (state : ManagerState) : Prop where
  keyed : state.WellKeyed
  tracked : ∀ handle, state.Live handle → state.isActive handle

theorem initial_trackingKept (store : Store) (owed : Nat) :
    TrackingKept (initial store owed) where
  keyed _ _ found := nomatch found
  tracked handle live := absurd live.1 (Nat.not_lt_zero handle)

/-- Every step that registers into a free place keeps the tracking. -/
theorem step_trackingKept {builds : Rows → Bool} {state after : ManagerState}
    {label : ManagerLabel} (kept : state.TrackingKept) (free : RegistersFree builds state label)
    (fired : state.step builds label = some after) : after.TrackingKept := by
  rcases step_core kept.keyed fired with frame | ⟨call, rows, todo, rfl, phase, accepted, rfl⟩
  · exact ⟨frame.wellKeyed kept.keyed, frame.tracked kept.tracked⟩
  · rw [RegistersFree, phase] at free
    exact ⟨registerRows_wellKeyed kept.keyed call rows,
      registerRows_tracked kept.tracked call (free accepted)⟩

/-- A step that registers over a live handle breaks it. -/
theorem step_not_singleTracked {builds : Rows → Bool} {state after : ManagerState}
    {label : ManagerLabel} (keyed : state.WellKeyed) (taken : ¬ RegistersFree builds state label)
    (fired : state.step builds label = some after) : ¬ after.SingleTracked := by
  unfold RegistersFree at taken
  split at taken
  · rename_i call
    split at taken
    · rename_i rows todo phase
      obtain ⟨accepted, occupied⟩ := Classical.not_imp.mp taken
      push Not at occupied
      obtain ⟨handle, stored, uncancelled⟩ := occupied
      simp only [step, phase, accepted, if_true, Option.some_inj] at fired
      rw [← fired]
      exact registerRows_not_tracked keyed call stored (Bool.not_eq_true _ ▸ uncancelled)
    · exact absurd trivial taken
  · exact absurd trivial taken

/-- In every run whose registrations all find their place free, there is at most one live
executor per pipeline and it is the tracked one; and a further step of any kind preserves this
exactly when it is not a registration over a live handle. -/
theorem singleTracked_of_registersFree (builds : Rows → Bool) (store : Store) (owed : Nat)
    (state : ManagerState)
    (reached : Runs.Reaches (ManagerState.step builds) (RegistersFree builds)
      (initial store owed) state) :
    state.SingleTracked ∧
      ∀ label after, state.step builds label = some after →
        (after.SingleTracked ↔ RegistersFree builds state label) := by
  have kept : state.TrackingKept :=
    reached.invariant TrackingKept (initial_trackingKept store owed)
      fun _ _ _ kept free fired => step_trackingKept kept free fired
  refine ⟨singleTracked_of_isActive kept.tracked, fun label after fired =>
    ⟨fun tracked => ?_, fun free => ?_⟩⟩
  · by_contra taken
    exact step_not_singleTracked kept.keyed taken fired tracked
  · exact singleTracked_of_isActive (step_trackingKept kept free fired).tracked

/-! ### Two overlapping Reloads -/

/-- A store with one enabled pipeline and its two connections. -/
def oneStore : Store where
  pipelines := [{ id := "p", tenantID := "t", sourceID := "in", destinationID := "out" }]
  distinct := by decide
  stages := []
  transforms := []
  routingRules := []
  connections := fun id =>
    if id = "in" ∨ id = "out" then some { id, tenantID := "t", type := "rabbitmq" } else none

/-- A Reload that finds nothing running, up to where it would register the pipeline. -/
def reloadToRegister (call : Nat) : List ManagerLabel :=
  [.reload call, .check call, .list call, .beginStart call] ++
    List.replicate readPlan.length (.read call)

/-- Two Reloads find nothing running, and both register the pipeline. -/
def overlappingReloads : List ManagerLabel :=
  reloadToRegister 0 ++ reloadToRegister 1 ++ [.register 0, .register 1]

/-- Then two executors of one pipeline run, and stopping everything leaves one of them
running. -/
theorem overlappingReloads_not_singleTracked :
    ∃ state, Runs.Reachable (ManagerState.step fun _ => true) (initial oneStore 0) state ∧
      ¬ state.SingleTracked ∧
      ∃ stopped, state.step (fun _ => true) .stopAll = some stopped ∧ stopped.Live 0 := by
  obtain ⟨state, reached, tested⟩ := Runs.exists_reaches_of_exec
    (ManagerState.step fun _ => true) (fun _ _ => True) (initial oneStore 0) overlappingReloads
    (fun state => decide (state.fresh = 2 ∧ (state.handles 0).cancelled = false ∧
      (state.handles 1).cancelled = false ∧ state.pipelineOf 0 = "p" ∧
      state.pipelineOf 1 = "p" ∧ state.active "p" = some 1)) (by decide)
  obtain ⟨count, first, second, firstOf, secondOf, stored⟩ := of_decide_eq_true tested
  refine ⟨state, reached, fun single => ?_, _, rfl, ?_, ?_⟩
  · have equal := single.1 0 1 ⟨count ▸ Nat.zero_lt_two, first⟩ ⟨count ▸ Nat.one_lt_two, second⟩
      (firstOf.trans secondOf.symm)
    cases equal
  · exact count ▸ Nat.zero_lt_two
  · have inactive : ¬ state.isActive 0 := by
      rw [isActive, firstOf, stored]
      decide
    simp only [stopReturned, cancelActive, if_neg inactive]
    exact first

/-- A Reload that stops the executor of the Reload before it and starts another. -/
def nextReload : List ManagerLabel :=
  [.reload 1, .check 1, .cancelOld 1 0, .unwind 0, .exit 0, .drained 1, .list 1, .beginStart 1] ++
    List.replicate readPlan.length (.read 1) ++ [.register 1, .finishReload 1]

/-- Two Reloads one after the other leave the second executor alone running and tracked. -/
theorem twoReloads_singleTracked :
    ∃ state : ManagerState, ¬ state.Live 0 ∧ state.Live 1 ∧ state.SingleTracked := by
  obtain ⟨state, reached, tested⟩ := Runs.exists_reaches_of_exec
    (ManagerState.step fun _ => true) (RegistersFree fun _ => true) (initial oneStore 0)
    (reloadToRegister 0 ++ [.register 0, .finishReload 0] ++ nextReload)
    (fun state => decide ((state.handles 0).cancelled = true ∧ 1 < state.fresh ∧ (state.handles 1).cancelled = false))
    (by decide)
  obtain ⟨cancelled, live⟩ := of_decide_eq_true tested
  refine ⟨state, fun runs => ?_, live, (singleTracked_of_registersFree (fun _ => true) oneStore 0 state reached).1⟩
  rw [runs.2] at cancelled
  cases cancelled

end ManagerState

end MqConnector
