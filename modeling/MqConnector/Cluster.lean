/-
This file puts the lease and the managers together, as `cmd/mqconnector/main.go`
does, and asks whether only the lease holder runs pipelines.

Every replica has a `Lease` and a `Manager` over the database they share. A consumer
takes the role changes off the lease's channel one at a time: it calls `Reload` for
an acquired lease and `StopAll` for a lost one. It is the caller numbered 0 of its
manager. HTTP requests are served on every replica, write the same store and start
Reloads of their own, and nothing on that side asks for the lease.

`role` is the last event a consumer has taken. No step reads it.
-/

import MqConnector.LeaseExclusion
import MqConnector.Tracking

namespace MqConnector

/-! ### Replicas with their managers -/

/-- The lease and the manager of every replica. -/
structure Cluster where
  lease : LeaseState
  managers : Nat → ManagerState
  role : Nat → Bool

/-- A move of the lease, of one replica's manager and requests, or of its consumer. -/
inductive ClusterLabel
  | lease (label : LeaseLabel)
  | manager (replica : Nat) (label : ManagerLabel)
  | consume (replica : Nat)

def ManagerLabel.begins : ManagerLabel → Option Nat
  | .reload call | .spawn call | .stopAndWait call => some call
  | _ => none

def ManagerCall.isIdle : ManagerCall → Bool
  | .idle => true
  | _ => false

namespace Cluster

variable {config : LeaseConfig} {builds : Rows → Bool} {state after : Cluster} {label : ClusterLabel}

/-- No replica has attempted anything, and no manager has been asked to run anything. -/
def initial (clock : Int) (row : Option LeaseRow) (store : Store) : Cluster where
  lease := LeaseState.initial clock row
  managers := fun _ => ManagerState.initial store 0
  role := fun _ => false

/-- One manager has moved; all of them read the same store. -/
def setManager (state : Cluster) (replica : Nat) (changed : ManagerState) : Nat → ManagerState :=
  fun other =>
    if other = replica then changed else { state.managers other with store := changed.store }

/-- What the consumer does with an event. -/
def onChange (role : Bool) : ManagerLabel :=
  if role then .reload 0 else .stopAll

def step (config : LeaseConfig) (builds : Rows → Bool) (state : Cluster) :
    ClusterLabel → Option Cluster
  | .lease label => (state.lease.step config label).map fun lease => { state with lease }
  | .manager replica label =>
    if label.begins = some 0 then none
    else
      ((state.managers replica).step builds label).map fun changed =>
        { state with managers := state.setManager replica changed }
  | .consume replica =>
    match (state.lease.replicas replica).changes with
    | [] => none
    | role :: rest =>
      if ((state.managers replica).calls 0).isIdle then
        ((state.managers replica).step builds (onChange role)).map fun changed =>
          { lease := state.lease.setReplica replica
              { state.lease.replicas replica with changes := rest }
            managers := state.setManager replica changed
            role := Function.update state.role replica role }
      else none

/-! ### The property and the condition -/

/-- The replica is not leader and has processed all its role changes. -/
def Settled (state : Cluster) (replica : Nat) : Prop :=
  (state.lease.replicas replica).isLeader = false ∧ (state.lease.replicas replica).changes = [] ∧
    ((state.managers replica).calls 0).isIdle = true

instance (state : Cluster) (replica : Nat) : Decidable (state.Settled replica) :=
  inferInstanceAs (Decidable (_ ∧ _ ∧ _))

/-- Only the lease holder runs pipelines: a settled replica has no executor whose context has not
been cancelled. -/
def OnlyHolderRuns (state : Cluster) : Prop :=
  ∀ replica, state.Settled replica → ∀ handle, ¬ (state.managers replica).Live handle

/-- The label registers an executor with a live context. -/
def starts (builds : Rows → Bool) (manager : ManagerState) : ManagerLabel → Bool
  | .register call =>
    match manager.calls call with
    | .reading rows [] _ => rows.accepted builds && !manager.parentDone
    | _ => false
  | _ => false

/-- The replica is about to flip its role and report it. -/
def emits (replica : Replica) : Bool :=
  match replica.phase with
  | .won _ => !replica.isLeader
  | .lost | .freed => replica.isLeader
  | _ => false

/-- The condition on a step: a settled replica starts no executor, no executor is registered over a
live one, and a role change finds room in the channel. -/
def Gated (builds : Rows → Bool) (state : Cluster) : ClusterLabel → Prop
  | .lease (.settle replica) =>
    emits (state.lease.replicas replica) = true →
      (state.lease.replicas replica).changes.length < changesSize
  | .manager replica label =>
    ManagerState.RegistersFree builds (state.managers replica) label ∧
      (starts builds (state.managers replica) label = true → ¬ state.Settled replica)
  | _ => True

instance (builds : Rows → Bool) (state : Cluster) :
    (label : ClusterLabel) → Decidable (state.Gated builds label)
  | .lease (.settle _) => inferInstanceAs (Decidable (_ → _))
  | .manager _ _ => inferInstanceAs (Decidable (_ ∧ (_ → ¬ _)))
  | .lease (.tick _) | .lease (.attempt _) | .lease (.exec _ _) | .lease (.tryLock _ _)
  | .lease (.commit _ _) | .lease (.release _) | .lease (.freeRow _ _) | .consume _ => isTrue trivial

end Cluster

/-! ### Role changes are reported in order -/

namespace LeaseState

variable {config : LeaseConfig} {state after : LeaseState} {label : LeaseLabel}

theorem setPhase_role (state : LeaseState) (replica other : Nat) (phase : LeasePhase) :
    ((state.setPhase replica phase).replicas other).isLeader = (state.replicas other).isLeader ∧
      ((state.setPhase replica phase).replicas other).changes = (state.replicas other).changes := by
  show (Function.update state.replicas replica _ other).isLeader = _ ∧
    (Function.update state.replicas replica _ other).changes = _
  by_cases same : other = replica
  · rw [same, Function.update_self]
    exact ⟨rfl, rfl⟩
  · rw [Function.update_of_ne same]
    exact ⟨rfl, rfl⟩

theorem claim_role (config : LeaseConfig) (state : LeaseState) (replica other : Nat) (now : Int)
    (answer : DBAnswer) :
    ((state.claim config replica now answer).replicas other).isLeader =
        (state.replicas other).isLeader ∧
      ((state.claim config replica now answer).replicas other).changes =
        (state.replicas other).changes := by
  by_cases same : other = replica
  · subst same
    unfold claim
    dsimp only
    split
    · exact state.setPhase_role other other _
    · exact state.setPhase_role other other _
    · simp only [setReplica, Function.update_self]
      exact ⟨trivial, trivial⟩
    · simp only [setReplica, Function.update_self]
      exact ⟨trivial, trivial⟩
  · rw [claim_others config state same now answer]
    exact ⟨rfl, rfl⟩

theorem free_role (config : LeaseConfig) (state : LeaseState) (replica other : Nat)
    (answer : DBAnswer) :
    ((state.free config replica answer).replicas other).isLeader =
        (state.replicas other).isLeader ∧
      ((state.free config replica answer).replicas other).changes =
        (state.replicas other).changes := by
  unfold free
  split
  · exact state.setPhase_role replica other _
  · exact state.setPhase_role replica other _
  · split
    · exact state.setPhase_role replica other _
    · exact state.setPhase_role replica other _

theorem settle_role {replica : Nat} (fired : state.step config (.settle replica) = some after) :
    ∃ role, after.replicas replica = { (state.replicas replica).swap role with phase := .idle } ∧
      (Cluster.emits (state.replicas replica) = true ↔ (state.replicas replica).isLeader ≠ role) := by
  cases move_of_step fired with
  | promote won =>
    refine ⟨true, Function.update_self .., ?_⟩
    rw [Cluster.emits, won]
    show (!(state.replicas replica).isLeader) = true ↔ (state.replicas replica).isLeader ≠ true
    cases (state.replicas replica).isLeader <;> decide
  | demote ended =>
    refine ⟨false, Function.update_self .., ?_⟩
    have flag : Cluster.emits (state.replicas replica) = (state.replicas replica).isLeader := by
      rcases ended with lost | freed
      · rw [Cluster.emits, lost]
      · rw [Cluster.emits, freed]
    rw [flag]
    cases (state.replicas replica).isLeader <;> decide

theorem step_role_of_ne (fired : state.step config label = some after) {replica : Nat}
    (aside : label ≠ .settle replica) :
    (after.replicas replica).isLeader = (state.replicas replica).isLeader ∧
      (after.replicas replica).changes = (state.replicas replica).changes := by
  by_cases moves : label.mover = some replica
  · cases move_of_step fired with
    | tick => cases moves
    | attempt | locks | fails | release => exact state.setPhase_role _ replica _
    | exec | commit => exact state.claim_role config _ replica _ _
    | follows => exact ⟨rfl, rfl⟩
    | freeRow => exact state.free_role config _ replica _
    | promote | demote =>
      obtain rfl := Option.some.inj moves
      exact absurd rfl aside
  · rw [step_others moves fired]
    exact ⟨rfl, rfl⟩

theorem step_role (fired : state.step config label = some after) (replica : Nat) :
    ((after.replicas replica).isLeader = (state.replicas replica).isLeader ∧
        (after.replicas replica).changes = (state.replicas replica).changes) ∨
      label = .settle replica ∧ ∃ role, after.replicas replica =
          { (state.replicas replica).swap role with phase := .idle } ∧
        (Cluster.emits (state.replicas replica) = true ↔ (state.replicas replica).isLeader ≠ role) := by
  by_cases settles : label = .settle replica
  · rw [settles] at fired
    exact Or.inr ⟨settles, settle_role fired⟩
  · exact Or.inl (step_role_of_ne fired settles)

theorem step_reported (fired : state.step config label = some after) (replica : Nat)
    (room : label = .settle replica → Cluster.emits (state.replicas replica) = true →
      (state.replicas replica).changes.length < changesSize) :
    ((after.replicas replica).isLeader = (state.replicas replica).isLeader ∧
        (after.replicas replica).changes = (state.replicas replica).changes) ∨
      (after.replicas replica).changes =
        (state.replicas replica).changes ++ [(after.replicas replica).isLeader] := by
  rcases step_role fired replica with same | ⟨settles, role, changed, flips⟩
  · exact Or.inl same
  · rw [changed, Replica.swap_isLeader]
    by_cases stays : (state.replicas replica).isLeader = role
    · refine Or.inl ⟨stays.symm, ?_⟩
      show ((state.replicas replica).swap role).changes = _
      rw [Replica.swap, if_pos stays]
    · refine Or.inr ?_
      have enough := room settles (flips.mpr stays)
      show ((state.replicas replica).swap role).changes = _
      rw [Replica.swap, if_neg stays, Replica.emit, if_pos enough]

end LeaseState

/-! ### The consumer's call -/

namespace ManagerState

variable {builds : Rows → Bool} {state after : ManagerState} {label : ManagerLabel}

theorem step_idle {call : Nat} (idle : state.calls call = .idle)
    (aside : label.begins ≠ some call) (fired : state.step builds label = some after) :
    after.calls call = .idle := by
  have others : ∀ {other : Nat} {phase : ManagerCall}, some other ≠ some call →
      Function.update state.calls other phase call = .idle := by
    intro other phase different
    rw [Function.update_of_ne fun same => different (congrArg some same.symm)]
    exact idle
  have busy : ∀ {other : Nat} {found phase : ManagerCall}, state.calls other = found →
      found.isIdle = false → Function.update state.calls other phase call = .idle := by
    intro other found phase same begun
    have different : call ≠ other := by
      rintro rfl
      rw [← same, idle] at begun
      cases begun
    rw [Function.update_of_ne different]
    exact idle
  cases move_of_step fired with
  | reload | spawn | stopAndWait => exact others aside
  | refused phase | check phase | cancelOld phase | drained phase | list phase | listFailed phase
  | beginStart phase | read phase | readFailed phase | register phase | rejected phase
  | finishReload phase | stopReturn phase => exact busy phase rfl
  | stop | stopAll | cancelParent | unwind | exit | beginRequest | write | abortRequest
  | finishRequest => exact idle

theorem live_of_not_starts {handle : Nat} (keyed : state.WellKeyed)
    (quiet : Cluster.starts builds state label = false) (fired : state.step builds label = some after)
    (live : after.Live handle) : state.Live handle := by
  rcases step_core keyed fired with frame | ⟨call, rows, todo, rfl, phase, accepted, rfl⟩
  · exact frame.live live
  · rw [Cluster.starts, phase] at quiet
    have cancelled : state.parentDone = true := by
      have refused : (rows.accepted builds && !state.parentDone) = false := quiet
      rw [accepted, Bool.true_and] at refused
      exact (Bool.not_eq_false_eq_eq_true _).mp refused
    have registered : (state.registerRows call rows).Live handle := live
    rcases registerRows_live registered with rfl | ⟨-, was⟩
    · have uncancelled := registered.2
      simp only [registerRows, Function.update_self] at uncancelled
      rw [cancelled] at uncancelled
      cases uncancelled
    · exact was

theorem live_of_starts (begun : Cluster.starts builds state label = true)
    (fired : state.step builds label = some after) : after.Live state.fresh := by
  unfold Cluster.starts at begun
  split at begun
  · rename_i call
    split at begun
    · rename_i rows todo phase
      obtain ⟨accepted, parent⟩ := Bool.and_eq_true_iff.mp begun
      simp only [step, phase, accepted, if_true, Option.some_inj] at fired
      subst fired
      refine ⟨Nat.lt_succ_self _, ?_⟩
      simp only [setCall, registerRows, Function.update_self]
      exact Bool.eq_false_of_not_eq_true' parent
    · cases begun
  · cases begun

theorem TrackingKept.not_live_of_stopAll (kept : state.TrackingKept)
    (fired : state.step builds .stopAll = some after) (handle : Nat) : ¬ after.Live handle := by
  cases fired
  rintro ⟨started, uncancelled⟩
  have cancelled := state.cancelActive_handle handle
  by_cases was : (state.handles handle).cancelled = true
  · have still : (state.cancelActive.handles handle).cancelled = false := uncancelled
    rw [cancelled.2.1 was] at still
    cases still
  · have still : (state.cancelActive.handles handle).cancelled = false := uncancelled
    rw [cancelled.2.2 (kept.tracked handle ⟨started, Bool.eq_false_of_not_eq_true was⟩)] at still
    cases still

end ManagerState

/-! ### Every run -/

namespace Cluster

variable {config : LeaseConfig} {builds : Rows → Bool} {state after : Cluster} {label : ClusterLabel}

/-- What links the flag, the channel, the consumer and the executors of every replica. -/
structure RolesKept (state : Cluster) : Prop where
  tracking : ∀ replica, (state.managers replica).TrackingKept
  /-- The last event, waiting or taken, is the flag. -/
  reported : ∀ replica, (state.lease.replicas replica).changes.getLast?.getD (state.role replica) =
    (state.lease.replicas replica).isLeader
  /-- The consumer is in a call only for an acquired lease. -/
  idle : ∀ replica, state.role replica = false → (state.managers replica).calls 0 = .idle
  stopped : ∀ replica, state.role replica = false → (state.lease.replicas replica).changes = [] →
    ∀ handle, ¬ (state.managers replica).Live handle

theorem initial_rolesKept (clock : Int) (row : Option LeaseRow) (store : Store) :
    (initial clock row store).RolesKept where
  tracking _ := ManagerState.initial_trackingKept store 0
  reported _ := rfl
  idle _ _ := rfl
  stopped _ _ _ handle live := absurd live.1 (Nat.not_lt_zero handle)

theorem isIdle_iff {phase : ManagerCall} : phase.isIdle = true ↔ phase = .idle := by
  cases phase <;> simp [ManagerCall.isIdle]

theorem RolesKept.settled_iff (kept : state.RolesKept) (replica : Nat) :
    state.Settled replica ↔
      state.role replica = false ∧ (state.lease.replicas replica).changes = [] := by
  have reported := kept.reported replica
  constructor
  · rintro ⟨follows, heard, -⟩
    rw [heard, follows] at reported
    exact ⟨reported, heard⟩
  · rintro ⟨lost, heard⟩
    rw [heard, lost] at reported
    exact ⟨reported.symm, heard, isIdle_iff.mpr (kept.idle replica lost)⟩

/-- Where the roles are kept, only the leader's pipelines run. -/
theorem RolesKept.onlyHolderRuns (kept : state.RolesKept) : state.OnlyHolderRuns := by
  intro replica settled
  obtain ⟨lost, heard⟩ := (kept.settled_iff replica).mp settled
  exact kept.stopped replica lost heard

theorem setManager_self (state : Cluster) (replica : Nat) (changed : ManagerState) :
    state.setManager replica changed replica = changed :=
  if_pos rfl

theorem setManager_of_ne (state : Cluster) {replica other : Nat} (different : other ≠ replica)
    (changed : ManagerState) :
    state.setManager replica changed other = { state.managers other with store := changed.store } :=
  if_neg different

theorem RolesKept.lease {label : LeaseLabel} {lease : LeaseState} (kept : state.RolesKept)
    (gated : state.Gated builds (.lease label)) (fired : state.lease.step config label = some lease) :
    RolesKept { state with lease } := by
  have reported : ∀ replica,
      ((lease.replicas replica).isLeader = (state.lease.replicas replica).isLeader ∧
        (lease.replicas replica).changes = (state.lease.replicas replica).changes) ∨
      (lease.replicas replica).changes =
        (state.lease.replicas replica).changes ++ [(lease.replicas replica).isLeader] := by
    intro replica
    refine LeaseState.step_reported fired replica ?_
    rintro rfl
    exact gated
  refine { kept with reported := ?_, stopped := ?_ }
  · intro replica
    show (lease.replicas replica).changes.getLast?.getD (state.role replica) = _
    rcases reported replica with ⟨flag, changes⟩ | changes
    · rw [flag, changes]
      exact kept.reported replica
    · rw [changes, List.getLast?_concat]
      rfl
  · intro replica lost heard
    refine kept.stopped replica lost ?_
    rcases reported replica with ⟨-, changes⟩ | changes
    · exact changes ▸ heard
    · rw [changes] at heard
      exact absurd heard (List.append_ne_nil_of_right_ne_nil _ (List.cons_ne_nil _ _))

theorem RolesKept.setManager {replica : Nat} {changed : ManagerState} (kept : state.RolesKept)
    (tracking : changed.TrackingKept) (other : Nat) :
    (state.setManager replica changed other).TrackingKept := by
  by_cases same : other = replica
  · rw [same, setManager_self]
    exact tracking
  · rw [setManager_of_ne state same]
    exact ⟨(kept.tracking other).keyed, (kept.tracking other).tracked⟩

theorem RolesKept.manager {replica : Nat} {label : ManagerLabel} {changed : ManagerState}
    (kept : state.RolesKept) (gated : state.Gated builds (.manager replica label))
    (aside : label.begins ≠ some 0)
    (fired : (state.managers replica).step builds label = some changed) :
    RolesKept { state with managers := state.setManager replica changed } := by
  have tracking := ManagerState.step_trackingKept (kept.tracking replica) gated.1 fired
  have still : ∀ other, state.role other = false →
      (state.setManager replica changed other).calls 0 = .idle := by
    intro other lost
    by_cases same : other = replica
    · subst same
      rw [setManager_self]
      exact ManagerState.step_idle (kept.idle other lost) aside fired
    · rw [setManager_of_ne state same]
      exact kept.idle other lost
  refine { tracking := kept.setManager tracking, reported := kept.reported, idle := still
           stopped := ?_ }
  intro other lost heard handle live
  have now : (state.setManager replica changed other).Live handle := live
  refine kept.stopped other lost heard handle ?_
  by_cases same : other = replica
  · subst same
    rw [setManager_self] at now
    refine ManagerState.live_of_not_starts (kept.tracking other).keyed ?_ fired now
    cases begun : starts builds (state.managers other) label with
    | false => rfl
    | true => exact absurd ((kept.settled_iff other).mpr ⟨lost, heard⟩) (gated.2 begun)
  · rw [setManager_of_ne state same] at now
    exact now

theorem RolesKept.consume {replica : Nat} {role : Bool} {rest : List Bool} {changed : ManagerState}
    (kept : state.RolesKept) (waiting : (state.lease.replicas replica).changes = role :: rest)
    (free : (state.managers replica).calls 0 = .idle)
    (fired : (state.managers replica).step builds (onChange role) = some changed) :
    RolesKept { lease := state.lease.setReplica replica
                  { state.lease.replicas replica with changes := rest }
                managers := state.setManager replica changed
                role := Function.update state.role replica role } := by
  have registersNothing : ManagerState.RegistersFree builds (state.managers replica)
      (onChange role) := by
    cases role <;> trivial
  have tracking := ManagerState.step_trackingKept (kept.tracking replica) registersNothing fired
  have lease : ∀ other, other ≠ replica → (state.lease.setReplica replica
      { state.lease.replicas replica with changes := rest }).replicas other =
        state.lease.replicas other := fun other different => Function.update_of_ne different ..
  have own : (state.lease.setReplica replica
      { state.lease.replicas replica with changes := rest }).replicas replica =
        { state.lease.replicas replica with changes := rest } := Function.update_self ..
  refine { tracking := kept.setManager tracking, reported := ?_, idle := ?_, stopped := ?_ }
  · intro other
    show ((state.lease.setReplica replica _).replicas other).changes.getLast?.getD
      (Function.update state.role replica role other) = _
    by_cases same : other = replica
    · have last := kept.reported replica
      rw [waiting] at last
      rw [List.getLast?_cons, Option.getD_some] at last
      rw [same, own, Function.update_self]
      exact last
    · rw [lease other same, Function.update_of_ne same]
      exact kept.reported other
  · intro other lost
    show (state.setManager replica changed other).calls 0 = .idle
    by_cases same : other = replica
    · rw [same, setManager_self]
      have stops : role = false := by
        rw [same] at lost
        exact (Function.update_self replica role state.role).symm.trans lost
      subst stops
      exact ManagerState.step_idle free (by decide) fired
    · rw [setManager_of_ne state same]
      exact kept.idle other ((Function.update_of_ne same role state.role).symm.trans lost)
  · intro other lost heard handle live
    have now : (state.setManager replica changed other).Live handle := live
    by_cases same : other = replica
    · rw [same, setManager_self] at now
      have stops : role = false := by
        rw [same] at lost
        exact (Function.update_self replica role state.role).symm.trans lost
      subst stops
      exact (kept.tracking replica).not_live_of_stopAll fired handle now
    · rw [setManager_of_ne state same] at now
      have quiet : ((state.lease.setReplica replica
        { state.lease.replicas replica with changes := rest }).replicas other).changes = [] := heard
      rw [lease other same] at quiet
      exact kept.stopped other ((Function.update_of_ne same role state.role).symm.trans lost) quiet
        handle now

/-- Every gated step keeps the roles. -/
theorem step_rolesKept (kept : state.RolesKept) (gated : state.Gated builds label)
    (fired : state.step config builds label = some after) : after.RolesKept := by
  cases label with
  | lease label =>
    obtain ⟨lease, moved, rfl⟩ := Option.map_eq_some_iff.mp fired
    exact kept.lease gated moved
  | manager replica label =>
    simp only [step] at fired
    split at fired
    · cases fired
    · rename_i aside
      obtain ⟨changed, moved, rfl⟩ := Option.map_eq_some_iff.mp fired
      exact kept.manager gated aside moved
  | consume replica =>
    simp only [step] at fired
    split at fired
    · cases fired
    · rename_i role rest waiting
      split at fired
      · rename_i free
        obtain ⟨changed, moved, rfl⟩ := Option.map_eq_some_iff.mp fired
        exact kept.consume waiting (isIdle_iff.mp free) moved
      · cases fired

/-- A settled replica that is not leader and starts a pipeline breaks the law. -/
theorem not_onlyHolderRuns_of_starts {replica : Nat} {label : ManagerLabel}
    (settled : state.Settled replica) (begun : starts builds (state.managers replica) label = true)
    (fired : state.step config builds (.manager replica label) = some after) :
    ¬ after.OnlyHolderRuns := by
  simp only [step] at fired
  split at fired
  · cases fired
  · rename_i aside
    obtain ⟨changed, moved, rfl⟩ := Option.map_eq_some_iff.mp fired
    obtain ⟨follows, heard, free⟩ := settled
    intro only
    refine only replica ⟨follows, heard, ?_⟩ (state.managers replica).fresh ?_
    · show ((state.setManager replica changed replica).calls 0).isIdle = true
      rw [setManager_self]
      exact isIdle_iff.mpr (ManagerState.step_idle (isIdle_iff.mp free) aside moved)
    · show (state.setManager replica changed replica).Live _
      rw [setManager_self]
      exact ManagerState.live_of_starts begun moved

/-- In every run in which a settled replica starts no executor, none is registered over a live one
and no role change is dropped, only the lease holder runs pipelines; and an executor that a settled
replica does start breaks this at once. -/
theorem onlyHolderRuns_of_gated (config : LeaseConfig) (builds : Rows → Bool) (clock : Int)
    (row : Option LeaseRow) (store : Store) (state : Cluster)
    (reached : Runs.Reaches (Cluster.step config builds) (Gated builds) (initial clock row store)
      state) :
    state.OnlyHolderRuns ∧
      ∀ replica label after, state.step config builds (.manager replica label) = some after →
        ManagerState.RegistersFree builds (state.managers replica) label →
          (after.OnlyHolderRuns ↔ state.Gated builds (.manager replica label)) := by
  have kept : state.RolesKept := reached.invariant RolesKept (initial_rolesKept clock row store)
    fun _ _ _ kept gated fired => step_rolesKept kept gated fired
  refine ⟨kept.onlyHolderRuns, fun replica label after fired registers => ⟨fun only => ?_,
    fun gated => (step_rolesKept kept gated fired).onlyHolderRuns⟩⟩
  refine ⟨registers, fun begun settled => ?_⟩
  exact not_onlyHolderRuns_of_starts settled begun fired only

/-! ### A Reload on a standby -/

/-- The second replica becomes leader and starts the pipeline. -/
def leaderStarts : List ClusterLabel :=
  (LeaseState.elect 1).map .lease ++ [.consume 1] ++
    ((ManagerState.reloadToRegister 0).tail ++
      [ManagerLabel.register 0, ManagerLabel.finishReload 0]).map (.manager 1)

/-- A Reload request reaches the first replica, which is not leader. -/
def standbyReload : List ClusterLabel :=
  leaderStarts ++ (ManagerState.reloadToRegister 1 ++ [ManagerLabel.register 1]).map (.manager 0)

/-- Then both replicas run the pipeline. -/
theorem standby_runs_pipeline :
    ∃ state, Runs.Reachable (Cluster.step (LeaseState.namedReplicas .sqlite) fun _ => true)
        (initial 0 none ManagerState.oneStore) state ∧
      state.Settled 0 ∧ (state.managers 0).Live 0 ∧ (state.managers 1).Live 0 ∧
      ¬ state.OnlyHolderRuns := by
  obtain ⟨state, reached, tested⟩ := Runs.exists_reaches_of_exec
    (Cluster.step (LeaseState.namedReplicas .sqlite) fun _ => true) (fun _ _ => True)
    (initial 0 none ManagerState.oneStore) standbyReload
    (fun state => decide (state.Settled 0 ∧
      (0 < (state.managers 0).fresh ∧ ((state.managers 0).handles 0).cancelled = false) ∧
      0 < (state.managers 1).fresh ∧ ((state.managers 1).handles 0).cancelled = false))
    (by decide)
  obtain ⟨settled, standby, leader⟩ := of_decide_eq_true tested
  exact ⟨state, reached, settled, standby, leader, fun only => only 0 settled 0 standby⟩

/-- The leader gives the lease up and its consumer hears of it. -/
def leaderStops : List ClusterLabel :=
  leaderStarts ++ [.lease (.release 1), .lease (.freeRow 1 .done), .lease (.settle 1), .consume 1]

/-- The executor it started runs no more. -/
theorem former_leader_stopped :
    ∃ state : Cluster, state.Settled 1 ∧ 0 < (state.managers 1).fresh ∧
      ¬ (state.managers 1).Live 0 := by
  obtain ⟨state, reached, tested⟩ := Runs.exists_reaches_of_exec
    (Cluster.step (LeaseState.namedReplicas .sqlite) fun _ => true) (Gated fun _ => true)
    (initial 0 none ManagerState.oneStore) leaderStops
    (fun state => decide (state.Settled 1 ∧ 0 < (state.managers 1).fresh)) (by decide)
  obtain ⟨settled, started⟩ := of_decide_eq_true tested
  exact ⟨state, settled, started, (onlyHolderRuns_of_gated (LeaseState.namedReplicas .sqlite)
    (fun _ => true) 0 none ManagerState.oneStore state reached).1 1 settled 0⟩

end Cluster

end MqConnector
