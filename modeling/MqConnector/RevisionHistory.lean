/-
This file models the history of a pipeline: the live tables, the revisions, and what
runs in the background.

A save writes one table and dispatches `snapshotPipelineRevisionSync`, which reads the
four tables by four statements, calls `Create` and then `MarkDeployed`. A deploy writes
the snapshot of an old revision back and marks that revision; a rollback writes it back,
inserts it again as a new revision by `CreateForce` and marks that one. Every statement
is a step of its own, in any order with those of the others, except that
`applyRevisionLive` and each replacement are transactions, and that `Create` and
`CreateForce` hold the lock of the pipeline.

`instants` has the tables after every write so far; no step reads it.
-/

import MqConnector.Rollback

namespace MqConnector

open Transfer

namespace Revisions

/-! ### Jobs -/

/-- How far the reads of a snapshot have come. -/
inductive Reading
  | started
  | pipeline (row : Pipeline)
  | stages (row : Pipeline) (stages : List StageRow)
  | transforms (row : Pipeline) (stages : List StageRow) (transforms : List Transform)
  deriving DecidableEq

/-- What is still to be done for an operation that was answered or is in flight: reading for a
snapshot, inserting a revision, or marking one as deployed. A rollback inserts whatever the latest
revision is. -/
inductive Job
  | reading (progress : Reading)
  | publishing (snapshot : PipelineSnapshot) (snapshotHash : String) (force : Bool)
  | marking (number : Nat)
  deriving DecidableEq

/-- The job will insert a revision. -/
def Job.publishes : Job → Bool
  | .reading _ => true
  | .publishing _ _ _ => true
  | .marking _ => false

/-- The live tables, the revisions of the pipeline, and the jobs; `instants` is a ghost. -/
structure HistoryState where
  tables : Tables
  revisions : List PipelineRevision := []
  jobs : List Job := []
  instants : List Tables
  deriving DecidableEq

def HistoryState.start (tables : Tables) : HistoryState where
  tables := tables
  instants := [tables]

/-! ### Steps -/

/-- The operations that change a pipeline. -/
inductive Operation
  | updatePipeline (row : Pipeline)
  | replaceStages (rows : List StageRow)
  | replaceTransforms (rows : List Transform)
  | replaceRoutingRules (rows : List RoutingRule)
  | deploy (number : Nat)
  | rollback (number : Nat)

/-- What happens to a pipeline and its revisions. -/
inductive HistoryAction
  | operate (operation : Operation) (around : ApplySurround)
  | read (index : Nat)
  | publish (index : Nat) (details : PipelineRevision)
  | mark (index : Nat) (now : Int) (requestID : String)
  | abandon (index : Nat)

section Steps

variable (tenantID pipelineID : String) (hash : VersionedSnapshot → String)

/-- `ReplaceForPipeline`: a transaction around one replacement. -/
def inTransaction {Row : Type} (around : ApplySurround) (replaced : Except String Row) : Option Row :=
  match around.fails .beginTx, replaced, around.fails .commit with
  | none, .ok rows, none => some rows
  | _, _, _ => none

/-- A stored revision with its snapshot. -/
def target (revisions : List PipelineRevision) (number : Nat) :
    Option (PipelineRevision × PipelineSnapshot) :=
  (Owned.get revisions tenantID (pipelineID, number)).bind fun revision =>
    revision.snapshot.map fun snapshot => (revision, snapshot)

/-- The tables after `applyRevisionLive`, if it returned no error. -/
def appliedLive (around : ApplySurround) (snapshot : PipelineSnapshot) (tables : Tables) :
    Option Tables :=
  match applyRevisionLive around tenantID pipelineID snapshot tables with
  | (none, after) => some after
  | (some _, _) => none

/-- An operation that succeeds: the tables after its write, and what is to be done for it. -/
def Operation.run (around : ApplySurround) (state : HistoryState) : Operation → Option (Tables × Job)
  | .updatePipeline row =>
    match updateExec (around.fails .update) tenantID { row with id := pipelineID } state.tables with
    | .ok after => some (after, .reading .started)
    | .error _ => none
  | .replaceStages rows =>
    (inTransaction around (replaceStagesTx around tenantID pipelineID rows state.tables.stages)).map
      fun stages => ({ state.tables with stages }, .reading .started)
  | .replaceTransforms rows =>
    (inTransaction around
      (replaceTransformsTx around tenantID pipelineID rows state.tables.transforms)).map
      fun transforms => ({ state.tables with transforms }, .reading .started)
  | .replaceRoutingRules rows =>
    (inTransaction around
      (replaceRoutingRulesTx around tenantID pipelineID rows state.tables.routingRules)).map
      fun routingRules => ({ state.tables with routingRules }, .reading .started)
  | .deploy number =>
    (target tenantID pipelineID state.revisions number).bind fun found =>
      (appliedLive tenantID pipelineID around found.2 state.tables).map fun after =>
        (after, .marking number)
  | .rollback number =>
    (target tenantID pipelineID state.revisions number).bind fun found =>
      (appliedLive tenantID pipelineID around found.2 state.tables).map fun after =>
        (after, .publishing found.2 found.1.snapshotHash true)

/-- The next read of a snapshot; a pipeline that is gone ends it. -/
def Reading.next (tables : Tables) : Reading → Option Job
  | .started => (getPipeline tables tenantID pipelineID).map fun row => .reading (.pipeline row)
  | .pipeline row => some (.reading (.stages row (tables.listStages tenantID pipelineID)))
  | .stages row readStages =>
    some (.reading (.transforms row readStages (tables.listTransforms tenantID pipelineID)))
  | .transforms row readStages readTransforms =>
    let snapshot : VersionedSnapshot :=
      { pipeline := some row
        stages := readStages
        transforms := readTransforms
        routingRules := tables.listRoutingRules tenantID pipelineID }
    some (.publishing snapshot.toPipelineSnapshot (hash snapshot) false)

/-- `Create` or `CreateForce`: the revisions and the number of the one that holds the snapshot. -/
def published (revisions : List PipelineRevision) (snapshot : PipelineSnapshot) (snapshotHash : String)
    (force : Bool) (details : PipelineRevision) : List PipelineRevision × Nat :=
  let revision := { details with pipelineID, snapshot := some snapshot, snapshotHash }
  if force then
    let created := PipelineRevision.createForce revisions tenantID revision
    (revisions ++ [created], created.revisionNumber)
  else PipelineRevision.create revisions tenantID revision

/-- One operation, or one step of a job. -/
def historyStep (state : HistoryState) : HistoryAction → Option HistoryState
  | .operate operation around =>
    (operation.run tenantID pipelineID around state).map fun done =>
      { state with
        tables := done.1
        jobs := state.jobs ++ [done.2]
        instants := state.instants ++ [done.1] }
  | .read index =>
    match state.jobs[index]? with
    | some (.reading progress) =>
      match progress.next tenantID pipelineID hash state.tables with
      | some job => some { state with jobs := state.jobs.set index job }
      | none => some { state with jobs := state.jobs.eraseIdx index }
    | _ => none
  | .publish index details =>
    match state.jobs[index]? with
    | some (.publishing snapshot snapshotHash force) =>
      let after := published tenantID pipelineID state.revisions snapshot snapshotHash force details
      some { state with
        revisions := after.1
        jobs := state.jobs.set index (.marking after.2) }
    | _ => none
  | .mark index now requestID =>
    match state.jobs[index]? with
    | some (.marking number) =>
      some { state with
        revisions := PipelineRevision.markDeployed state.revisions tenantID pipelineID number now
          requestID
        jobs := state.jobs.eraseIdx index }
    | _ => none
  | .abandon index =>
    if index < state.jobs.length then some { state with jobs := state.jobs.eraseIdx index } else none

end Steps

/-! ### What an operation does -/

section Operations

variable {tenantID pipelineID : String} {around : ApplySurround} {state : HistoryState}
  {after : Tables} {job : Job}

/-- The pipeline is stored. -/
def Present (tenantID pipelineID : String) (tables : Tables) : Prop :=
  ∃ old ∈ tables.pipelines, old.id = pipelineID ∧ old.tenantID = tenantID

/-- No stage is without a configuration. -/
def Configured (tables : Tables) : Prop :=
  ∀ stage ∈ tables.stages, stage.stageConfig ≠ ""

theorem inTransaction_eq_some {Row : Type} {replaced : Except String Row} {rows : Row}
    (done : inTransaction around replaced = some rows) : replaced = .ok rows := by
  unfold inTransaction at done
  split at done
  · exact congrArg Except.ok (Option.some.inj done)
  · exact absurd done.symm (Option.some_ne_none _)

theorem placeStage_configured (stage : StageRow) (index : Nat) :
    (placeStage around tenantID pipelineID stage index).stageConfig ≠ "" := by
  unfold placeStage
  dsimp only
  split
  · decide
  · rename_i given
    exact given

theorem configured_replaced {stages rows : List StageRow} {mine : StageRow → Bool}
    (configured : ∀ stage ∈ stages, stage.stageConfig ≠ "") :
    ∀ stage ∈ (stages.filter fun stage => !mine stage) ++ (rows.zipIdx.map fun entry =>
      placeStage around tenantID pipelineID entry.1 entry.2), stage.stageConfig ≠ "" := by
  intro stage member
  rcases List.mem_append.mp member with kept | placed
  · exact configured stage (List.mem_filter.mp kept).1
  · obtain ⟨entry, -, rfl⟩ := List.mem_map.mp placed
    exact placeStage_configured entry.1 entry.2

theorem present_updated {tables : Tables} {row : Pipeline} {id : String}
    (present : Present tenantID pipelineID tables)
    (updated : after.pipelines = tables.pipelines.map fun old =>
      if old.id = id ∧ old.tenantID = tenantID then updatedRow old row else old) :
    Present tenantID pipelineID after := by
  obtain ⟨old, member, id, tenant⟩ := present
  refine ⟨_, updated ▸ List.mem_map_of_mem member, ?_⟩
  split
  · exact ⟨id, tenant⟩
  · exact ⟨id, tenant⟩

theorem target_eq_some {revisions : List PipelineRevision} {number : Nat}
    {found : PipelineRevision × PipelineSnapshot}
    (known : target tenantID pipelineID revisions number = some found) :
    found.1 ∈ revisions ∧ found.1.snapshot = some found.2 := by
  obtain ⟨revision, got, mapped⟩ := Option.bind_eq_some_iff.mp known
  obtain ⟨snapshot, held, rfl⟩ := Option.map_eq_some_iff.mp mapped
  exact ⟨List.mem_of_find?_eq_some got, held⟩

theorem appliedLive_eq_some {snapshot : PipelineSnapshot} {tables : Tables}
    (done : appliedLive tenantID pipelineID around snapshot tables = some after) :
    ∃ row, snapshot.pipeline = some row ∧ Present tenantID pipelineID tables ∧
      after = written around tenantID pipelineID row snapshot tables := by
  unfold appliedLive at done
  rcases applyRevisionLive_cases around tenantID pipelineID snapshot tables with
    ⟨error, failed⟩ | ⟨row, held, present, applied⟩
  · rw [failed] at done
    exact absurd done.symm (Option.some_ne_none _)
  · rw [applied] at done
    exact ⟨row, held, present, (Option.some.inj done).symm⟩

/-- What is left to do for an operation, and where it comes from. -/
inductive Leaves (tenantID pipelineID : String) (around : ApplySurround) (state : HistoryState)
    (after : Tables) : Operation → Job → Prop
  | saved {operation : Operation}
      (present : Present tenantID pipelineID state.tables → Present tenantID pipelineID after)
      (configured : Configured state.tables → Configured after) :
      Leaves tenantID pipelineID around state after operation (.reading .started)
  | deployed {number : Nat} {revision : PipelineRevision} {snapshot : PipelineSnapshot} {row : Pipeline}
      (found : target tenantID pipelineID state.revisions number = some (revision, snapshot))
      (held : snapshot.pipeline = some row) (present : Present tenantID pipelineID state.tables)
      (live : after = written around tenantID pipelineID row snapshot state.tables) :
      Leaves tenantID pipelineID around state after (.deploy number) (.marking number)
  | rolledBack {number : Nat} {revision : PipelineRevision} {snapshot : PipelineSnapshot} {row : Pipeline}
      (found : target tenantID pipelineID state.revisions number = some (revision, snapshot))
      (held : snapshot.pipeline = some row) (present : Present tenantID pipelineID state.tables)
      (live : after = written around tenantID pipelineID row snapshot state.tables) :
      Leaves tenantID pipelineID around state after (.rollback number)
        (.publishing snapshot revision.snapshotHash true)

theorem Operation.leaves {operation : Operation}
    (ran : operation.run tenantID pipelineID around state = some (after, job)) :
    Leaves tenantID pipelineID around state after operation job := by
  cases operation with
  | updatePipeline row =>
    unfold Operation.run at ran
    dsimp only at ran
    split at ran
    · rename_i tables updated
      obtain ⟨rfl, rfl⟩ := Prod.mk.inj (Option.some.inj ran)
      obtain ⟨-, rfl⟩ := updateExec_ok updated
      exact .saved (fun present => present_updated present rfl) id
    · exact absurd ran.symm (Option.some_ne_none _)
  | replaceStages rows =>
    obtain ⟨stages, replaced, same⟩ := Option.map_eq_some_iff.mp ran
    obtain ⟨rfl, rfl⟩ := Prod.mk.inj same
    obtain rfl := replaceForPipelineTx_ok (inTransaction_eq_some replaced)
    exact .saved id configured_replaced
  | replaceTransforms rows =>
    obtain ⟨transforms, -, same⟩ := Option.map_eq_some_iff.mp ran
    obtain ⟨rfl, rfl⟩ := Prod.mk.inj same
    exact .saved id id
  | replaceRoutingRules rows =>
    obtain ⟨routingRules, -, same⟩ := Option.map_eq_some_iff.mp ran
    obtain ⟨rfl, rfl⟩ := Prod.mk.inj same
    exact .saved id id
  | deploy number =>
    obtain ⟨found, known, applied⟩ := Option.bind_eq_some_iff.mp ran
    obtain ⟨tables, done, same⟩ := Option.map_eq_some_iff.mp applied
    obtain ⟨rfl, rfl⟩ := Prod.mk.inj same
    obtain ⟨row, held, present, live⟩ := appliedLive_eq_some done
    exact .deployed known held present live
  | rollback number =>
    obtain ⟨found, known, applied⟩ := Option.bind_eq_some_iff.mp ran
    obtain ⟨tables, done, same⟩ := Option.map_eq_some_iff.mp applied
    obtain ⟨rfl, rfl⟩ := Prod.mk.inj same
    obtain ⟨row, held, present, live⟩ := appliedLive_eq_some done
    exact .rolledBack known held present live

theorem Leaves.configured {operation : Operation}
    (leaves : Leaves tenantID pipelineID around state after operation job)
    (before : Configured state.tables) : Configured after := by
  cases leaves with
  | saved present configured => exact configured before
  | deployed found held present live => exact live ▸ configured_replaced before
  | rolledBack found held present live => exact live ▸ configured_replaced before

inductive Steps (tenantID pipelineID : String) (hash : VersionedSnapshot → String)
    (state : HistoryState) : HistoryAction → HistoryState → Prop
  | operated {operation : Operation} {around : ApplySurround} {after : Tables} {job : Job}
      (ran : operation.run tenantID pipelineID around state = some (after, job)) :
      Steps tenantID pipelineID hash state (.operate operation around)
        { state with
          tables := after
          jobs := state.jobs ++ [job]
          instants := state.instants ++ [after] }
  | read {index : Nat} {progress : Reading} {job : Job}
      (there : state.jobs[index]? = some (.reading progress))
      (next : progress.next tenantID pipelineID hash state.tables = some job) :
      Steps tenantID pipelineID hash state (.read index)
        { state with jobs := state.jobs.set index job }
  | gone {index : Nat} {progress : Reading} (there : state.jobs[index]? = some (.reading progress))
      (absent : progress.next tenantID pipelineID hash state.tables = none) :
      Steps tenantID pipelineID hash state (.read index)
        { state with jobs := state.jobs.eraseIdx index }
  | published {index : Nat} {details : PipelineRevision} {snapshot : PipelineSnapshot}
      {snapshotHash : String} {force : Bool}
      (there : state.jobs[index]? = some (.publishing snapshot snapshotHash force)) :
      Steps tenantID pipelineID hash state (.publish index details)
        { state with
          revisions := (published tenantID pipelineID state.revisions snapshot snapshotHash force details).1
          jobs := state.jobs.set index (.marking
            (published tenantID pipelineID state.revisions snapshot snapshotHash force details).2) }
  | marked {index number : Nat} {now : Int} {requestID : String}
      (there : state.jobs[index]? = some (.marking number)) :
      Steps tenantID pipelineID hash state (.mark index now requestID)
        { state with
          revisions := PipelineRevision.markDeployed state.revisions tenantID pipelineID number now
            requestID
          jobs := state.jobs.eraseIdx index }
  | abandoned {index : Nat} (inside : index < state.jobs.length) :
      Steps tenantID pipelineID hash state (.abandon index)
        { state with jobs := state.jobs.eraseIdx index }

theorem historyStep_steps {hash : VersionedSnapshot → String} {action : HistoryAction}
    {next : HistoryState} (fired : historyStep tenantID pipelineID hash state action = some next) :
    Steps tenantID pipelineID hash state action next := by
  cases action with
  | operate operation around =>
    obtain ⟨⟨after, job⟩, ran, rfl⟩ := Option.map_eq_some_iff.mp fired
    exact .operated ran
  | read index =>
    unfold historyStep at fired
    dsimp only at fired
    split at fired
    · rename_i progress there
      split at fired
      · rename_i job next
        exact Option.some.inj fired ▸ .read there next
      · rename_i absent
        exact Option.some.inj fired ▸ .gone there absent
    · exact absurd fired.symm (Option.some_ne_none _)
  | publish index details =>
    unfold historyStep at fired
    dsimp only at fired
    split at fired
    · rename_i snapshot snapshotHash force there
      exact Option.some.inj fired ▸ .published there
    · exact absurd fired.symm (Option.some_ne_none _)
  | mark index now requestID =>
    unfold historyStep at fired
    dsimp only at fired
    split at fired
    · rename_i number there
      exact Option.some.inj fired ▸ .marked there
    · exact absurd fired.symm (Option.some_ne_none _)
  | abandon index =>
    unfold historyStep at fired
    dsimp only at fired
    split at fired
    · rename_i inside
      exact Option.some.inj fired ▸ .abandoned inside
    · exact absurd fired.symm (Option.some_ne_none _)

end Operations

end Revisions

end MqConnector
