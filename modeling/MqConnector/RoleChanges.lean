/-
This file asks whether role changes reach the pipelines.

A lease reports every flip of its flag on a channel of eight events, and a
consumer in `cmd/mqconnector/main.go` takes them off one at a time, calling
`Reload` for an acquired lease and `StopAll` for a lost one. While a Reload takes
long, flips fill the channel, and `emit` drops the newest event of a full one.
The consumer never reads the flag.

Flips alternate, so what the consumer is left with depends on how many events in
a row were dropped at the end.
-/

import MqConnector.Cluster
import Mathlib.Algebra.Group.Nat.Even

namespace MqConnector

/-! ### The traced cluster -/

/-- The cluster, with the last call of every consumer, and for every replica the flips since the
last reported one whose event found the channel full. -/
structure HeardCluster where
  cluster : Cluster
  called : Nat → Option ManagerLabel
  missed : Nat → Nat

namespace HeardCluster

def initial (clock : Int) (row : Option LeaseRow) (store : Store) : HeardCluster where
  cluster := .initial clock row store
  called := fun _ => none
  missed := fun _ => 0

/-- The flips missed after the replica settles. -/
def missedAfter (replica : Replica) (missed : Nat) : Nat :=
  if Cluster.emits replica then
    if replica.changes.length < changesSize then 0 else missed + 1
  else missed

def record (state : HeardCluster) (label : ClusterLabel) (after : Cluster) : HeardCluster where
  cluster := after
  called := match label with
    | .consume replica => Function.update state.called replica
      ((state.cluster.lease.replicas replica).changes.head?.map Cluster.onChange)
    | _ => state.called
  missed := match label with
    | .lease (.settle replica) => Function.update state.missed replica
      (missedAfter (state.cluster.lease.replicas replica) (state.missed replica))
    | _ => state.missed

def step (config : LeaseConfig) (builds : Rows → Bool) (state : HeardCluster)
    (label : ClusterLabel) : Option HeardCluster :=
  (state.cluster.step config builds label).map (state.record label)

/-- The consumer has taken every event and is in no call. -/
def Drained (state : HeardCluster) (replica : Nat) : Prop :=
  (state.cluster.lease.replicas replica).changes = [] ∧
    ((state.cluster.managers replica).calls 0).isIdle = true

/-- The last call of the consumer is the one for the current role: `Reload` for a leader, `StopAll`
for the others. A consumer that has had no event yet has called nothing, and then the replica has
never been leader. -/
def Informed (state : HeardCluster) (replica : Nat) : Prop :=
  match state.called replica with
  | some call => call = Cluster.onChange (state.cluster.lease.replicas replica).isLeader
  | none => (state.cluster.lease.replicas replica).isLeader = false

/-! ### The invariant -/

/-- The last event that was reported, waiting or taken. -/
def reported (state : HeardCluster) (replica : Nat) : Bool :=
  (state.cluster.lease.replicas replica).changes.getLast?.getD (state.cluster.role replica)

/-- The invariant: the flag is the last reported event, turned over once for every one missed
since. -/
structure Kept (state : HeardCluster) : Prop where
  turned : ∀ replica, state.reported replica = (state.cluster.lease.replicas replica).isLeader ↔
    Even (state.missed replica)
  called : ∀ replica, (state.called replica = none ∧ state.cluster.role replica = false) ∨
    state.called replica = some (Cluster.onChange (state.cluster.role replica))

theorem initial_kept (clock : Int) (row : Option LeaseRow) (store : Store) :
    (initial clock row store).Kept where
  turned _ := ⟨fun _ => Even.zero, fun _ => rfl⟩
  called _ := Or.inl ⟨rfl, rfl⟩

theorem onChange_inj {first second : Bool}
    (same : Cluster.onChange first = Cluster.onChange second) : first = second := by
  cases first <;> cases second <;> first | rfl | cases same

/-- A drained replica knows its role exactly if an even number of changes was missed. -/
theorem Kept.informed_iff {state : HeardCluster} (kept : state.Kept) {replica : Nat}
    (drained : state.Drained replica) :
    state.Informed replica ↔ Even (state.missed replica) := by
  have last : state.reported replica = state.cluster.role replica := by
    rw [reported, drained.1]
    rfl
  rw [← kept.turned replica, last, Informed]
  rcases kept.called replica with ⟨nothing, role⟩ | call
  · rw [nothing, role]
    exact eq_comm
  · rw [call]
    exact ⟨onChange_inj, fun same => by rw [same]⟩

/-! ### Steps -/

section Steps

variable {config : LeaseConfig} {builds : Rows → Bool} {state : HeardCluster}

theorem swap_turned {before : Replica} {role : Bool} {last : Bool} {missed : Nat}
    (flips : Cluster.emits before = true ↔ before.isLeader ≠ role)
    (turned : before.changes.getLast?.getD last = before.isLeader ↔ Even missed) :
    (before.swap role).changes.getLast?.getD last = (before.swap role).isLeader ↔
      Even (missedAfter before missed) := by
  rw [Replica.swap_isLeader, missedAfter]
  by_cases stays : before.isLeader = role
  · rw [if_neg fun emits => flips.mp emits stays, Replica.swap, if_pos stays, ← stays]
    exact turned
  · rw [if_pos (flips.mpr stays), Replica.swap, if_neg stays, Replica.emit]
    split
    · -- the event is the last one in the channel
      rw [List.getLast?_concat]
      exact ⟨fun _ => Even.zero, fun _ => rfl⟩
    · -- the event is dropped: the flag turns over and the channel does not
      have opposite : role = !before.isLeader := Bool.eq_not.mpr fun same => stays same.symm
      rw [Nat.even_add_one, ← turned, opposite]
      exact Bool.eq_not

theorem Kept.lease (kept : state.Kept) {label : LeaseLabel} {lease : LeaseState}
    (fired : state.cluster.lease.step config label = some lease) :
    (state.record (.lease label) { state.cluster with lease }).Kept := by
  refine ⟨fun replica => ?_, kept.called⟩
  by_cases settles : label = .settle replica
  · subst settles
    obtain ⟨role, settled, flips⟩ := LeaseState.settle_role fired
    show (lease.replicas replica).changes.getLast?.getD _ = (lease.replicas replica).isLeader ↔
      Even (Function.update state.missed replica _ replica)
    rw [settled, Function.update_self]
    exact swap_turned flips (kept.turned replica)
  · obtain ⟨flag, changes⟩ := LeaseState.step_role_of_ne fired settles
    have missed : (state.record (.lease label) { state.cluster with lease }).missed replica =
        state.missed replica := by
      cases label with
      | settle other =>
        have different : replica ≠ other := by
          rintro rfl
          exact settles rfl
        exact Function.update_of_ne different _ _
      | _ => rfl
    show (lease.replicas replica).changes.getLast?.getD _ = (lease.replicas replica).isLeader ↔ _
    rw [missed, flag, changes]
    exact kept.turned replica

theorem Kept.consume (kept : state.Kept) {replica : Nat} {role : Bool} {rest : List Bool}
    (waiting : (state.cluster.lease.replicas replica).changes = role :: rest)
    (managers : Nat → ManagerState) :
    (state.record (.consume replica)
      { lease := state.cluster.lease.setReplica replica
          { state.cluster.lease.replicas replica with changes := rest }
        managers
        role := Function.update state.cluster.role replica role }).Kept := by
  refine ⟨fun other => ?_, fun other => ?_⟩
  · show (Function.update state.cluster.lease.replicas replica _ other).changes.getLast?.getD
        (Function.update state.cluster.role replica role other) =
      (Function.update state.cluster.lease.replicas replica _ other).isLeader ↔ _
    by_cases same : other = replica
    · have turned := kept.turned replica
      rw [reported, waiting, List.getLast?_cons, Option.getD_some] at turned
      rw [same, Function.update_self, Function.update_self]
      exact turned
    · rw [Function.update_of_ne same, Function.update_of_ne same]
      exact kept.turned other
  · show (Function.update state.called replica _ other = none ∧
        Function.update state.cluster.role replica role other = false) ∨
      Function.update state.called replica _ other =
        some (Cluster.onChange (Function.update state.cluster.role replica role other))
    by_cases same : other = replica
    · rw [same, Function.update_self, Function.update_self, waiting]
      exact Or.inr rfl
    · rw [Function.update_of_ne same, Function.update_of_ne same]
      exact kept.called other

/-- Every step keeps the invariant. -/
theorem Kept.step {label : ClusterLabel} {after : HeardCluster} (kept : state.Kept)
    (fired : state.step config builds label = some after) : after.Kept := by
  obtain ⟨cluster, moved, rfl⟩ := Option.map_eq_some_iff.mp fired
  cases label with
  | lease label =>
    obtain ⟨lease, stepped, rfl⟩ := Option.map_eq_some_iff.mp moved
    exact kept.lease stepped
  | manager replica label =>
    simp only [Cluster.step] at moved
    split at moved
    · cases moved
    · obtain ⟨changed, _, rfl⟩ := Option.map_eq_some_iff.mp moved
      exact ⟨kept.turned, kept.called⟩
  | consume replica =>
    simp only [Cluster.step] at moved
    split at moved
    · cases moved
    · rename_i role rest waiting
      split at moved
      · obtain ⟨changed, _, rfl⟩ := Option.map_eq_some_iff.mp moved
        exact kept.consume waiting _
      · cases moved

end Steps

/-- When a consumer has drained its channel, its last call is the one for the current role if and
only if the flips missed since the last reported one are even in number. -/
theorem informed_iff_even_missed (config : LeaseConfig) (builds : Rows → Bool) (clock : Int)
    (row : Option LeaseRow) (store : Store) (state : HeardCluster) (replica : Nat)
    (reached : Runs.Reachable (step config builds) (initial clock row store) state)
    (drained : state.Drained replica) :
    state.Informed replica ↔ Even (state.missed replica) := by
  have kept : state.Kept := reached.invariant Kept (initial_kept clock row store)
    fun _ _ _ kept _ fired => kept.step fired
  exact kept.informed_iff drained

/-! ### A slow Reload -/

/-- The replica acquires the lease, or fails to renew it. -/
def flip (acquires : Bool) : List ClusterLabel :=
  [.lease (.attempt 0), .lease (.exec 0 (if acquires then .done else .failed)), .lease (.settle 0)]

/-- The consumer gets to the end of a Reload that has nothing to start. -/
def reloadEnds : List ClusterLabel :=
  [.manager 0 (.check 0), .manager 0 (.list 0), .manager 0 (.finishReload 0)]

/-- The consumer takes a loss, and then an acquired lease. -/
def drainTwo : List ClusterLabel :=
  [.consume 0, .consume 0] ++ reloadEnds

/-- The replica becomes leader and its consumer begins a Reload; nine flips later the consumer gets
to drain the channel. -/
def slowReload : List ClusterLabel :=
  flip true ++ [.consume 0] ++
    (flip false ++ flip true ++ flip false ++ flip true ++ flip false ++ flip true ++ flip false ++
      flip true ++ flip false) ++
    (reloadEnds ++ drainTwo ++ drainTwo ++ drainTwo ++ drainTwo)

/-- The replica is not leader, and the last its consumer has called is `Reload`. -/
theorem demoted_replica_reloaded_last :
    ∃ state, Runs.Reachable (step (LeaseState.namedReplicas .sqlite) fun _ => true)
        (initial 0 none Store.empty) state ∧ state.Drained 0 ∧
      (state.cluster.lease.replicas 0).isLeader = false ∧
      state.called 0 = some (.reload 0) ∧ ¬ state.Informed 0 := by
  obtain ⟨state, reached, drained, flag, call⟩ :
      ∃ state, Runs.Reachable (step (LeaseState.namedReplicas .sqlite) fun _ => true)
          (initial 0 none Store.empty) state ∧ state.Drained 0 ∧
        (state.cluster.lease.replicas 0).isLeader = false ∧
        state.called 0 = some (.reload 0) :=
    ⟨_, Runs.reaches_of_exec (step (LeaseState.namedReplicas .sqlite) fun _ => true)
      (fun _ _ => True) slowReload rfl, ⟨rfl, rfl⟩, rfl, rfl⟩
  refine ⟨state, reached, drained, flag, call, fun informed => ?_⟩
  rw [Informed, call, flag] at informed
  cases informed

/-- A consumer that keeps up has called what the role asks for. -/
theorem prompt_consumer_informed :
    ∃ state : HeardCluster, state.Drained 0 ∧
      (state.cluster.lease.replicas 0).isLeader = true ∧ state.Informed 0 := by
  obtain ⟨state, reached, drained, flag, missed⟩ :
      ∃ state, Runs.Reachable (step (LeaseState.namedReplicas .sqlite) fun _ => true)
          (initial 0 none Store.empty) state ∧ state.Drained 0 ∧
        (state.cluster.lease.replicas 0).isLeader = true ∧ state.missed 0 = 0 :=
    ⟨_, Runs.reaches_of_exec (step (LeaseState.namedReplicas .sqlite) fun _ => true)
      (fun _ _ => True) (flip true ++ [.consume 0] ++ reloadEnds) rfl, ⟨rfl, rfl⟩, rfl, rfl⟩
  refine ⟨state, drained, flag, ?_⟩
  rw [informed_iff_even_missed _ _ 0 none Store.empty state 0 reached drained, missed]
  exact Even.zero

end HeardCluster

end MqConnector
