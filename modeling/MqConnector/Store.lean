/-
This file models the tables a pipeline is built from and the requests that
change them: `internal/storage` as far as `pipeline.Manager` reads it, and the
mutating handlers of `internal/server` as the statements they run and the Reload
they trigger or do not trigger.

A write is one transaction. A request is the list of its writes in order, and it
may stop after any of them. The store keeps the one constraint the manager
relies on, the primary key of `pipelines`, as a field; the foreign keys are in
the deletes.
-/

import MqConnector.Models
import Mathlib.Data.List.Sort

namespace MqConnector

/-! ### Tables -/

/-- The tables a pipeline is built from. -/
structure Store where
  pipelines : List Pipeline
  distinct : (pipelines.map (·.id)).Nodup
  stages : List StageRow
  transforms : List Transform
  routingRules : List RoutingRule
  connections : String → Option Connection

def Store.empty : Store where
  pipelines := []
  distinct := List.nodup_nil
  stages := []
  transforms := []
  routingRules := []
  connections := fun _ => none

namespace Store

/-- `Stages.ListByPipelineUnsafe`. -/
def listStages (store : Store) (pipelineID : String) : List StageRow :=
  (store.stages.filter (·.pipelineID = pipelineID)).insertionSort fun first second =>
    first.stageOrder ≤ second.stageOrder

/-- `Transforms.ListByPipelineUnsafe`. -/
def listTransforms (store : Store) (pipelineID : String) : List Transform :=
  (store.transforms.filter (·.pipelineID = pipelineID)).insertionSort fun first second =>
    first.order ≤ second.order

/-- `RoutingRules.ListByPipelineUnsafe`. -/
def listRoutingRules (store : Store) (pipelineID : String) : List RoutingRule :=
  (store.routingRules.filter (·.pipelineID = pipelineID)).insertionSort fun first second =>
    first.priority ≤ second.priority

/-- The enabled rows of `Pipelines.ListAll`. -/
def enabledPipelines (store : Store) : List Pipeline :=
  store.pipelines.filter (·.enabled)

end Store

/-! ### What a pipeline is built from -/

/-- The rows `startPipeline` reads for one pipeline. A connection that is not there is
absent. -/
structure Rows where
  pipeline : Pipeline
  stages : List StageRow := []
  transforms : List Transform := []
  routingRules : List RoutingRule := []
  source : Option Connection := none
  destination : Option Connection := none
  routeDests : List (Option Connection) := []
  shadow : Option Connection := none
  deriving DecidableEq

/-- The destinations of the enabled rules, each once. -/
def routeDestinations (rules : List RoutingRule) : List String :=
  ((rules.filter (·.enabled)).map (·.destinationID)).eraseDups

/-- Whether `startPipeline` looks for a shadow destination. -/
def Pipeline.shadowed (pipeline : Pipeline) : Bool :=
  decide (pipeline.shadowDestinationID ≠ "") && decide (0 < pipeline.shadowPercent)

/-- Everything `startPipeline` would read for a pipeline from one state of the store. -/
def Store.gather (store : Store) (pipeline : Pipeline) : Rows where
  pipeline := pipeline
  stages := store.listStages pipeline.id
  transforms := store.listTransforms pipeline.id
  routingRules := store.listRoutingRules pipeline.id
  source := store.connections pipeline.sourceID
  destination := store.connections pipeline.destinationID
  routeDests := (routeDestinations (store.listRoutingRules pipeline.id)).map store.connections
  shadow := if pipeline.shadowed then store.connections pipeline.shadowDestinationID else none

/-- What the enabled pipelines are built from. -/
def Store.view (store : Store) : List Rows :=
  store.enabledPipelines.map store.gather

/-- Whether `startPipeline` accepts the rows: both connections exist and belong to the
pipeline's tenant, so does every routed destination, and `builds` says whether the referenced
schemas and plugins load and `Build` makes a stage of every enabled row. -/
def Rows.accepted (builds : Rows → Bool) (rows : Rows) : Bool :=
  let ours := fun (row : Option Connection) =>
    row.any fun connection => connection.tenantID = rows.pipeline.tenantID
  ours rows.source && ours rows.destination && builds rows && rows.routeDests.all ours

/-- The rows the executor of a pipeline should be built from: none when the pipeline is not
stored, not enabled or not accepted. -/
def Store.intended (builds : Rows → Bool) (store : Store) (pipelineID : String) : Option Rows :=
  (store.view.find? (·.pipeline.id = pipelineID)).filter (·.accepted builds)

/-! ### Writes -/

/-- One transaction of a mutating request. -/
inductive Write
  | createPipeline (row : Pipeline)
  | updatePipeline (row : Pipeline)
  | deletePipeline (tenantID id : String)
  | replaceStages (tenantID pipelineID : String) (rows : List StageRow)
  | replaceTransforms (tenantID pipelineID : String) (rows : List Transform)
  | replaceRoutingRules (tenantID pipelineID : String) (rows : List RoutingRule)
  | applyRevision (row : Pipeline) (stages : List StageRow) (transforms : List Transform)
      (rules : List RoutingRule)
  | createConnection (row : Connection)
  | updateConnection (row : Connection)
  | deleteConnection (tenantID id : String)
  | purgeTenant (tenantID : String)

/-- Change rows of `pipelines` in place, none of their ids. -/
def Store.mapPipelines (store : Store) (change : Pipeline → Pipeline)
    (keeps : ∀ row, (change row).id = row.id) : Store where
  pipelines := store.pipelines.map change
  distinct := by
    rw [List.map_map]
    have same : (fun row : Pipeline => row.id) ∘ change = fun row => row.id := funext keeps
    rw [same]
    exact store.distinct
  stages := store.stages
  transforms := store.transforms
  routingRules := store.routingRules
  connections := store.connections

/-- Drop rows of `pipelines`. -/
def Store.filterPipelines (store : Store) (keep : Pipeline → Bool) : Store where
  pipelines := store.pipelines.filter keep
  distinct := (List.Sublist.map _ List.filter_sublist).nodup store.distinct
  stages := store.stages
  transforms := store.transforms
  routingRules := store.routingRules
  connections := store.connections

/-- `PipelineRepo.Create`; an id that is taken violates the primary key. -/
def Store.createPipeline (store : Store) (row : Pipeline) : Store :=
  if fresh : row.id ∈ store.pipelines.map (·.id) then store
  else
    { pipelines := store.pipelines ++ [row]
      distinct := by
        rw [List.map_append, List.map_singleton]
        exact List.nodup_append.mpr ⟨store.distinct, List.nodup_singleton _, by
          intro id member other last equal
          rw [List.mem_singleton] at last
          exact fresh (last ▸ equal ▸ member)⟩
      stages := store.stages
      transforms := store.transforms
      routingRules := store.routingRules
      connections := store.connections }

/-- `PipelineRepo.Update`: the row with this id, in this tenant. -/
def Store.updatePipeline (store : Store) (row : Pipeline) : Store :=
  store.mapPipelines
    (fun old => if old.id = row.id ∧ old.tenantID = row.tenantID then row else old)
    (by intro old; split <;> simp_all)

/-- `PipelineRepo.Delete`, with the cascade to the rows of the pipeline. -/
def Store.deletePipeline (store : Store) (tenantID id : String) : Store :=
  if store.pipelines.any (fun row => row.id = id ∧ row.tenantID = tenantID) then
    { store.filterPipelines fun row => decide (row.id ≠ id) with
      stages := store.stages.filter (·.pipelineID ≠ id)
      transforms := store.transforms.filter (·.pipelineID ≠ id)
      routingRules := store.routingRules.filter (·.pipelineID ≠ id) }
  else store

/-- `Stages.ReplaceForPipeline`. -/
def Store.replaceStages (store : Store) (tenantID pipelineID : String) (rows : List StageRow) :
    Store :=
  { store with
    stages := store.stages.filter (fun row =>
        ¬ (row.tenantID = tenantID ∧ row.pipelineID = pipelineID)) ++
      rows.map fun row => { row with tenantID, pipelineID } }

/-- `Transforms.ReplaceForPipeline`. -/
def Store.replaceTransforms (store : Store) (tenantID pipelineID : String)
    (rows : List Transform) : Store :=
  { store with
    transforms := store.transforms.filter (fun row =>
        ¬ (row.tenantID = tenantID ∧ row.pipelineID = pipelineID)) ++
      rows.map fun row => { row with tenantID, pipelineID } }

/-- `RoutingRules.ReplaceForPipeline`. -/
def Store.replaceRoutingRules (store : Store) (tenantID pipelineID : String)
    (rows : List RoutingRule) : Store :=
  { store with
    routingRules := store.routingRules.filter (fun row =>
        ¬ (row.tenantID = tenantID ∧ row.pipelineID = pipelineID)) ++
      rows.map fun row => { row with tenantID, pipelineID } }

/-- `ConnectionRepo.Delete`: refused while a pipeline or a routing rule needs the connection,
and a shadow destination that pointed at it is set to NULL. -/
def Store.deleteConnection (store : Store) (tenantID id : String) : Store :=
  let found := (store.connections id).any fun row => row.tenantID = tenantID
  let needed := store.pipelines.any (fun row => row.sourceID = id ∨ row.destinationID = id) ||
    store.routingRules.any fun rule => rule.destinationID = id
  if found && !needed then
    { store.mapPipelines
        (fun row => if row.shadowDestinationID = id then { row with shadowDestinationID := "" }
          else row)
        (by intro row; split <;> rfl) with
      connections := Function.update store.connections id none }
  else store

/-- `TenantRepo.Purge`; the default tenant is refused. -/
def Store.purgeTenant (store : Store) (tenantID : String) : Store :=
  if tenantID = defaultTenantID then store
  else
    { store.filterPipelines fun row => decide (row.tenantID ≠ tenantID) with
      stages := store.stages.filter (·.tenantID ≠ tenantID)
      transforms := store.transforms.filter (·.tenantID ≠ tenantID)
      routingRules := store.routingRules.filter (·.tenantID ≠ tenantID)
      connections := fun id => (store.connections id).filter (·.tenantID ≠ tenantID) }

def Store.apply (store : Store) : Write → Store
  | .createPipeline row => store.createPipeline row
  | .updatePipeline row => store.updatePipeline row
  | .deletePipeline tenantID id => store.deletePipeline tenantID id
  | .replaceStages tenantID pipelineID rows => store.replaceStages tenantID pipelineID rows
  | .replaceTransforms tenantID pipelineID rows => store.replaceTransforms tenantID pipelineID rows
  | .replaceRoutingRules tenantID pipelineID rows =>
    store.replaceRoutingRules tenantID pipelineID rows
  | .applyRevision row stages transforms rules =>
    (((store.updatePipeline row).replaceStages row.tenantID row.id stages).replaceTransforms
      row.tenantID row.id transforms).replaceRoutingRules row.tenantID row.id rules
  | .createConnection row =>
    if (store.connections row.id).isSome then store
    else { store with connections := Function.update store.connections row.id (some row) }
  | .updateConnection row =>
    if (store.connections row.id).any (fun old => old.tenantID = row.tenantID) then
      { store with connections := Function.update store.connections row.id (some row) }
    else store
  | .deleteConnection tenantID id => store.deleteConnection tenantID id
  | .purgeTenant tenantID => store.purgeTenant tenantID

/-! ### Requests -/

/-- A pipeline of an import bundle, with the ids its names were resolved to. -/
structure ImportedPipeline where
  row : Pipeline
  stages : List StageRow := []
  transforms : List Transform := []
  rules : List RoutingRule := []

/-- The requests that change the tables. -/
inductive Request
  | createPipeline (row : Pipeline)
  | updatePipeline (row : Pipeline)
  | deletePipeline (tenantID id : String)
  | replaceStages (tenantID pipelineID : String) (rows : List StageRow)
  | replaceTransforms (tenantID pipelineID : String) (rows : List Transform)
  | replaceRoutingRules (tenantID pipelineID : String) (rows : List RoutingRule)
  | rollbackRevision (row : Pipeline) (stages : List StageRow) (transforms : List Transform)
      (rules : List RoutingRule)
  | deployRevision (row : Pipeline) (stages : List StageRow) (transforms : List Transform)
      (rules : List RoutingRule)
  | importConfig (connections : List Connection) (pipelines : List ImportedPipeline)
  | createConnection (row : Connection)
  | updateConnection (row : Connection)
  | deleteConnection (tenantID id : String)
  | purgeTenant (tenantID : String)

def ImportedPipeline.writes (imported : ImportedPipeline) : List Write :=
  let tenantID := imported.row.tenantID
  let id := imported.row.id
  [.createPipeline imported.row, .replaceStages tenantID id imported.stages,
    .replaceTransforms tenantID id imported.transforms,
    .replaceRoutingRules tenantID id imported.rules]

/-- The transactions of a request, in order. -/
def Request.writes : Request → List Write
  | .createPipeline row => [.createPipeline row]
  | .updatePipeline row => [.updatePipeline row]
  | .deletePipeline tenantID id => [.deletePipeline tenantID id]
  | .replaceStages tenantID pipelineID rows => [.replaceStages tenantID pipelineID rows]
  | .replaceTransforms tenantID pipelineID rows => [.replaceTransforms tenantID pipelineID rows]
  | .replaceRoutingRules tenantID pipelineID rows =>
    [.replaceRoutingRules tenantID pipelineID rows]
  | .rollbackRevision row stages transforms rules
  | .deployRevision row stages transforms rules => [.applyRevision row stages transforms rules]
  | .importConfig connections pipelines =>
    connections.map .createConnection ++ pipelines.flatMap (·.writes)
  | .createConnection row => [.createConnection row]
  | .updateConnection row => [.updateConnection row]
  | .deleteConnection tenantID id => [.deleteConnection tenantID id]
  | .purgeTenant tenantID => [.purgeTenant tenantID]

/-- Whether the handler triggers a Reload once its writes are done. -/
def Request.triggersReload : Request → Bool
  | .createConnection _ | .updateConnection _ | .deleteConnection _ _ | .purgeTenant _ => false
  | _ => true

/-! ### The view by pipeline -/

theorem Store.view_map_pipeline (store : Store) :
    store.view.map (·.pipeline) = store.enabledPipelines := by
  rw [Store.view, List.map_map]
  have same : (fun rows : Rows => rows.pipeline) ∘ store.gather = id := funext fun _ => rfl
  rw [same, List.map_id]

theorem Store.enabledPipelines_distinct (store : Store) :
    (store.enabledPipelines.map (·.id)).Nodup :=
  (List.Sublist.map _ List.filter_sublist).nodup store.distinct

theorem Store.gather_of_view_eq {before after : Store} (same : after.view = before.view) :
    after.enabledPipelines = before.enabledPipelines ∧
      ∀ pipeline ∈ before.enabledPipelines, after.gather pipeline = before.gather pipeline := by
  have enabled : after.enabledPipelines = before.enabledPipelines := by
    rw [← after.view_map_pipeline, same, before.view_map_pipeline]
  refine ⟨enabled, ?_⟩
  rw [Store.view, Store.view, enabled] at same
  exact List.map_inj_left.mp same

end MqConnector
