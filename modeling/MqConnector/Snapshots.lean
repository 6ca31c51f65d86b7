/-
This file models the snapshots of a pipeline: what `snapshotPipelineRevisionSync`
reads and stores, the projection its hash is taken of, and `applyRevisionLive`, which
writes a stored snapshot back (`server/pipeline_revisions.go`,
`server/pipeline_apply.go`, with `UpdateTx` and the three `ReplaceForPipelineTx` of
`storage`).

The row types are encoded by `encoding/json` field by field: `Fields.Layout` has the
tags of each struct in the order of its declaration. The text itself is a parameter,
`Codec`, and so is SHA-256. Rows have no timestamps here: a snapshot zeroes them.
Every statement of `applyRevisionLive` may fail; its transaction commits as a whole
or not at all.
-/

import MqConnector.Fields
import MqConnector.Audit
import MqConnector.ConfigTransfer

namespace MqConnector

open Fields Transfer

namespace Revisions

/-! ### Reading fields -/

/-- A text field of a decoded struct. -/
def textOf (find : String → Option Scalar) (key : String) : String :=
  match get find key .text with
  | .text value => value
  | _ => ""

/-- A field that is a number, 0 where it is none. -/
def numberOf (find : String → Option Scalar) (key : String) : Int :=
  match get find key .number with
  | .number value => value
  | _ => 0

/-- A field that is a flag. -/
def flagOf (find : String → Option Scalar) (key : String) : Bool :=
  match get find key .flag with
  | .flag value => value
  | _ => false

/-- A field that is a list of texts. -/
def textsOf (find : String → Option Scalar) (key : String) : List String :=
  match get find key .texts with
  | .texts value => value
  | _ => []

/-! ### The layouts of the rows -/

/-- The JSON text of the zero `time.Time`. -/
def zeroTimeText : String := "0001-01-01T00:00:00Z"

/-- `storage.Pipeline`. -/
def pipelineLayout : Layout Pipeline where
  tags := [
    ⟨"id", false, .text⟩, ⟨"tenant_id", false, .text⟩, ⟨"name", false, .text⟩,
    ⟨"source_id", false, .text⟩, ⟨"destination_id", false, .text⟩, ⟨"output_format", false, .text⟩,
    ⟨"schema_id", true, .text⟩, ⟨"filter_paths", false, .texts⟩, ⟨"enabled", false, .flag⟩,
    ⟨"workers", true, .number⟩, ⟨"retry_max", true, .number⟩, ⟨"retry_backoff_ms", true, .number⟩,
    ⟨"max_msgs_per_minute", true, .number⟩, ⟨"dedup_window_seconds", true, .number⟩,
    ⟨"shadow_destination_id", true, .text⟩, ⟨"shadow_percent", true, .number⟩,
    ⟨"requires_approval", true, .flag⟩, ⟨"created_at", false, .text⟩, ⟨"updated_at", false, .text⟩]
  slots row := [
    ⟨"id", false, .text row.id⟩, ⟨"tenant_id", false, .text row.tenantID⟩,
    ⟨"name", false, .text row.name⟩, ⟨"source_id", false, .text row.sourceID⟩,
    ⟨"destination_id", false, .text row.destinationID⟩,
    ⟨"output_format", false, .text row.outputFormat⟩, ⟨"schema_id", true, .text row.schemaID⟩,
    ⟨"filter_paths", false, .texts row.filterPaths⟩, ⟨"enabled", false, .flag row.enabled⟩,
    ⟨"workers", true, .number row.workers⟩, ⟨"retry_max", true, .number row.retryMax⟩,
    ⟨"retry_backoff_ms", true, .number row.retryBackoffMs⟩,
    ⟨"max_msgs_per_minute", true, .number row.maxMsgsPerMinute⟩,
    ⟨"dedup_window_seconds", true, .number row.dedupWindowSeconds⟩,
    ⟨"shadow_destination_id", true, .text row.shadowDestinationID⟩,
    ⟨"shadow_percent", true, .number row.shadowPercent⟩,
    ⟨"requires_approval", true, .flag row.requiresApproval⟩, ⟨"created_at", false, .text zeroTimeText⟩,
    ⟨"updated_at", false, .text zeroTimeText⟩]
  read find :=
    { id := textOf find "id"
      tenantID := textOf find "tenant_id"
      name := textOf find "name"
      sourceID := textOf find "source_id"
      destinationID := textOf find "destination_id"
      outputFormat := textOf find "output_format"
      schemaID := textOf find "schema_id"
      filterPaths := textsOf find "filter_paths"
      enabled := flagOf find "enabled"
      workers := numberOf find "workers"
      retryMax := numberOf find "retry_max"
      retryBackoffMs := numberOf find "retry_backoff_ms"
      maxMsgsPerMinute := numberOf find "max_msgs_per_minute"
      dedupWindowSeconds := numberOf find "dedup_window_seconds"
      shadowDestinationID := textOf find "shadow_destination_id"
      shadowPercent := numberOf find "shadow_percent"
      requiresApproval := flagOf find "requires_approval" }
  tagged _ := rfl
  distinct := by decide
  read_slots row find agrees := by
    simp only [List.forall_mem_cons, Scalar.kind] at agrees
    simp only [textOf, numberOf, flagOf, textsOf, agrees]

/-- `storage.Stage`. -/
def stageLayout : Layout StageRow where
  tags := [
    ⟨"id", false, .text⟩, ⟨"tenant_id", false, .text⟩, ⟨"pipeline_id", false, .text⟩,
    ⟨"stage_order", false, .number⟩, ⟨"stage_type", false, .text⟩, ⟨"stage_config", false, .text⟩,
    ⟨"enabled", false, .flag⟩]
  slots row := [
    ⟨"id", false, .text row.id⟩, ⟨"tenant_id", false, .text row.tenantID⟩,
    ⟨"pipeline_id", false, .text row.pipelineID⟩, ⟨"stage_order", false, .number row.stageOrder⟩,
    ⟨"stage_type", false, .text row.stageType⟩, ⟨"stage_config", false, .text row.stageConfig⟩,
    ⟨"enabled", false, .flag row.enabled⟩]
  read find :=
    { id := textOf find "id"
      tenantID := textOf find "tenant_id"
      pipelineID := textOf find "pipeline_id"
      stageOrder := numberOf find "stage_order"
      stageType := textOf find "stage_type"
      stageConfig := textOf find "stage_config"
      enabled := flagOf find "enabled" }
  tagged _ := rfl
  distinct := by decide
  read_slots row find agrees := by
    simp only [List.forall_mem_cons, Scalar.kind] at agrees
    simp only [textOf, numberOf, flagOf, agrees]

/-- `storage.Transform`. -/
def transformLayout : Layout Transform where
  tags := [
    ⟨"id", false, .text⟩, ⟨"tenant_id", false, .text⟩, ⟨"pipeline_id", false, .text⟩,
    ⟨"transform_type", false, .text⟩, ⟨"source_path", false, .text⟩, ⟨"target_path", true, .text⟩,
    ⟨"mask_pattern", true, .text⟩, ⟨"mask_replace", true, .text⟩, ⟨"set_value", true, .text⟩,
    ⟨"order", false, .number⟩]
  slots row := [
    ⟨"id", false, .text row.id⟩, ⟨"tenant_id", false, .text row.tenantID⟩,
    ⟨"pipeline_id", false, .text row.pipelineID⟩, ⟨"transform_type", false, .text row.transformType⟩,
    ⟨"source_path", false, .text row.sourcePath⟩, ⟨"target_path", true, .text row.targetPath⟩,
    ⟨"mask_pattern", true, .text row.maskPattern⟩, ⟨"mask_replace", true, .text row.maskReplace⟩,
    ⟨"set_value", true, .text row.setValue⟩, ⟨"order", false, .number row.order⟩]
  read find :=
    { id := textOf find "id"
      tenantID := textOf find "tenant_id"
      pipelineID := textOf find "pipeline_id"
      transformType := textOf find "transform_type"
      sourcePath := textOf find "source_path"
      targetPath := textOf find "target_path"
      maskPattern := textOf find "mask_pattern"
      maskReplace := textOf find "mask_replace"
      setValue := textOf find "set_value"
      order := numberOf find "order" }
  tagged _ := rfl
  distinct := by decide
  read_slots row find agrees := by
    simp only [List.forall_mem_cons, Scalar.kind] at agrees
    simp only [textOf, numberOf, agrees]

/-- `storage.RoutingRule`. -/
def routingRuleLayout : Layout RoutingRule where
  tags := [
    ⟨"id", false, .text⟩, ⟨"tenant_id", false, .text⟩, ⟨"pipeline_id", false, .text⟩,
    ⟨"condition_path", false, .text⟩, ⟨"condition_operator", false, .text⟩,
    ⟨"condition_value", false, .text⟩, ⟨"destination_id", false, .text⟩,
    ⟨"priority", false, .number⟩, ⟨"enabled", false, .flag⟩]
  slots row := [
    ⟨"id", false, .text row.id⟩, ⟨"tenant_id", false, .text row.tenantID⟩,
    ⟨"pipeline_id", false, .text row.pipelineID⟩, ⟨"condition_path", false, .text row.conditionPath⟩,
    ⟨"condition_operator", false, .text row.conditionOperator⟩,
    ⟨"condition_value", false, .text row.conditionValue⟩,
    ⟨"destination_id", false, .text row.destinationID⟩, ⟨"priority", false, .number row.priority⟩,
    ⟨"enabled", false, .flag row.enabled⟩]
  read find :=
    { id := textOf find "id"
      tenantID := textOf find "tenant_id"
      pipelineID := textOf find "pipeline_id"
      conditionPath := textOf find "condition_path"
      conditionOperator := textOf find "condition_operator"
      conditionValue := textOf find "condition_value"
      destinationID := textOf find "destination_id"
      priority := numberOf find "priority"
      enabled := flagOf find "enabled" }
  tagged _ := rfl
  distinct := by decide
  read_slots row find agrees := by
    simp only [List.forall_mem_cons, Scalar.kind] at agrees
    simp only [textOf, numberOf, flagOf, agrees]

/-! ### The text of a snapshot -/

/-- `storage.PipelineSnapshot` with its version. -/
structure VersionedSnapshot extends PipelineSnapshot where
  schemaVersion : Int := 1
  deriving DecidableEq

/-- What `json.Marshal` of a snapshot writes; an empty list may be `null`. -/
structure Document where
  pipeline : Option Record
  stages : List Record
  transforms : List Record
  routingRules : List Record
  schemaVersion : Int
  deriving DecidableEq

/-- A snapshot as an object. -/
def VersionedSnapshot.document (snapshot : VersionedSnapshot) : Document where
  pipeline := snapshot.pipeline.map pipelineLayout.record
  stages := snapshot.stages.map stageLayout.record
  transforms := snapshot.transforms.map transformLayout.record
  routingRules := snapshot.routingRules.map routingRuleLayout.record
  schemaVersion := snapshot.schemaVersion

/-- `json.Unmarshal` into a snapshot. -/
def Document.snapshot (document : Document) : VersionedSnapshot where
  pipeline := document.pipeline.map fun record => pipelineLayout.read (lookup record)
  stages := document.stages.map fun record => stageLayout.read (lookup record)
  transforms := document.transforms.map fun record => transformLayout.read (lookup record)
  routingRules := document.routingRules.map fun record => routingRuleLayout.read (lookup record)
  schemaVersion := document.schemaVersion

/-- `encoding/json` on fields, rows and snapshots, in both directions. -/
structure Codec where
  scalar : Scalar → String
  record : Record → String
  document : Document → String
  parseScalar : String → Option Scalar
  parseRecord : String → Option Record
  parse : String → Option Document

theorem map_read_record {Row : Type} (layout : Layout Row) (rows : List Row) :
    ((rows.map layout.record).map fun record => layout.read (lookup record)) = rows := by
  rw [List.map_map]
  exact List.map_id'' layout.read_record rows

theorem VersionedSnapshot.snapshot_document (snapshot : VersionedSnapshot) :
    snapshot.document.snapshot = snapshot := by
  have row : (snapshot.pipeline.map pipelineLayout.record).map
      (fun record => pipelineLayout.read (lookup record)) = snapshot.pipeline := by
    rw [Option.map_map]
    exact (Option.map_congr fun row _ => pipelineLayout.read_record row).trans Option.map_id'
  unfold VersionedSnapshot.document Document.snapshot
  dsimp only
  rw [row, map_read_record, map_read_record, map_read_record]

/-! ### Capturing -/

/-- `Pipelines.Get`. -/
def getPipeline (tables : Tables) (tenantID pipelineID : String) : Option Pipeline :=
  tables.pipelines.find? fun row => row.id = pipelineID ∧ row.tenantID = tenantID

/-- The snapshot `snapshotPipelineRevisionSync` takes when nothing is written between its reads. -/
def capture (tables : Tables) (tenantID pipelineID : String) : Option VersionedSnapshot :=
  (getPipeline tables tenantID pipelineID).map fun row =>
    { pipeline := some row
      stages := tables.listStages tenantID pipelineID
      transforms := tables.listTransforms tenantID pipelineID
      routingRules := tables.listRoutingRules tenantID pipelineID }

/-- A row without what differs from copy to copy. -/
def bareStage (row : StageRow) : StageRow :=
  { row with id := "", tenantID := "", pipelineID := "" }

def bareTransform (row : Transform) : Transform :=
  { row with id := "", tenantID := "", pipelineID := "" }

def bareRoutingRule (row : RoutingRule) : RoutingRule :=
  { row with id := "", tenantID := "", pipelineID := "" }

/-- The snapshot that is hashed, without ids and times. -/
def snapshotForHash (snapshot : VersionedSnapshot) : VersionedSnapshot :=
  { snapshot with
    stages := snapshot.stages.map bareStage
    transforms := snapshot.transforms.map bareTransform
    routingRules := snapshot.routingRules.map bareRoutingRule }

/-- The hash of a snapshot. -/
def snapshotHash (codec : Codec) (sha256 : String → Fin 32 → UInt8) (snapshot : VersionedSnapshot) :
    String :=
  encodeToString (sha256 (codec.document (snapshotForHash snapshot).document))

/-! ### Writing back -/

/-- The statements of `applyRevisionLive`; the inserts by their place. -/
inductive ApplyStatement
  | beginTx | update
  | clearStages | insertStage (index : Nat)
  | clearTransforms | insertTransform (index : Nat)
  | clearRoutingRules | insertRoutingRule (index : Nat)
  | commit
  deriving DecidableEq

/-- What `applyRevisionLive` meets outside: the errors of its statements, and the ids it draws for
children that have none. -/
structure ApplySurround where
  fails : ApplyStatement → Option String := fun _ => none
  freshID : ApplyStatement → String := fun _ => ""

/-- The columns of the `UPDATE` in `PipelineRepo.updateExec`. -/
def updatedRow (old row : Pipeline) : Pipeline :=
  { old with
    name := row.name
    sourceID := row.sourceID
    destinationID := row.destinationID
    outputFormat := row.outputFormat
    schemaID := row.schemaID
    filterPaths := row.filterPaths
    enabled := row.enabled
    workers := row.workers
    retryMax := row.retryMax
    retryBackoffMs := row.retryBackoffMs
    maxMsgsPerMinute := row.maxMsgsPerMinute
    dedupWindowSeconds := row.dedupWindowSeconds
    shadowDestinationID := row.shadowDestinationID
    shadowPercent := row.shadowPercent
    requiresApproval := row.requiresApproval }

/-- The statement that replaces a pipeline. -/
def updateExec (failure : Option String) (tenantID : String) (row : Pipeline) (tables : Tables) :
    Except String Tables :=
  if tenantID = "" then .error "storage: tenant_id is required"
  else
    match failure with
    | some error => .error ("update pipeline: " ++ error)
    | none =>
      if tables.pipelines.any fun old => old.id = row.id ∧ old.tenantID = tenantID then
        .ok { tables with
          pipelines := tables.pipelines.map fun old =>
            if old.id = row.id ∧ old.tenantID = tenantID then updatedRow old row else old }
      else .error "storage: not found"

/-- The loop of `ReplaceForPipelineTx`: every row is inserted, until an insert fails. -/
def insertAll {Row : Type} (fails : Nat → Option String) (what : String) :
    List (Row × Nat) → List Row → Except String (List Row)
  | [], table => .ok table
  | (row, index) :: rest, table =>
    match fails index with
    | some error => .error (what ++ ": " ++ error)
    | none => insertAll fails what rest (table ++ [row])

/-- `ReplaceForPipelineTx` of a kind of children: the rows of the pipeline go, and the given ones come
under the ids of the pipeline and the tenant. -/
def replaceForPipelineTx {Row : Type} (tenantID : String) (mine : Row → Bool)
    (place : Row → Nat → Row) (clearFails : Option String) (insertFails : Nat → Option String)
    (clear what : String) (rows table : List Row) : Except String (List Row) :=
  if tenantID = "" then .error "storage: tenant_id is required"
  else
    match clearFails with
    | some error => .error (clear ++ ": " ++ error)
    | none =>
      insertAll insertFails what (rows.zipIdx.map fun entry => (place entry.1 entry.2, entry.2))
        (table.filter fun row => !mine row)

section Apply

variable (around : ApplySurround) (tenantID pipelineID : String)

/-- A stage as `ReplaceForPipelineTx` inserts it. -/
def placeStage (row : StageRow) (index : Nat) : StageRow :=
  { row with
    id := if row.id = "" then around.freshID (.insertStage index) else row.id
    pipelineID := pipelineID
    tenantID := tenantID
    stageConfig := if row.stageConfig = "" then "\x7b\x7d" else row.stageConfig }

/-- The row that a transform of the snapshot becomes at its place. -/
def placeTransform (row : Transform) (index : Nat) : Transform :=
  { row with
    id := if row.id = "" then around.freshID (.insertTransform index) else row.id
    pipelineID := pipelineID
    tenantID := tenantID }

/-- The row that a rule of the snapshot becomes at its place. -/
def placeRoutingRule (row : RoutingRule) (index : Nat) : RoutingRule :=
  { row with
    id := if row.id = "" then around.freshID (.insertRoutingRule index) else row.id
    pipelineID := pipelineID
    tenantID := tenantID }

/-- `StageRepo.ReplaceForPipelineTx`. -/
def replaceStagesTx (rows table : List StageRow) : Except String (List StageRow) :=
  replaceForPipelineTx tenantID (fun row => row.pipelineID = pipelineID ∧ row.tenantID = tenantID)
    (placeStage around tenantID pipelineID) (around.fails .clearStages)
    (fun index => around.fails (.insertStage index)) "clear stages" "insert stage" rows table

/-- `TransformRepo.ReplaceForPipelineTx`. -/
def replaceTransformsTx (rows table : List Transform) : Except String (List Transform) :=
  replaceForPipelineTx tenantID (fun row => row.pipelineID = pipelineID ∧ row.tenantID = tenantID)
    (placeTransform around tenantID pipelineID) (around.fails .clearTransforms)
    (fun index => around.fails (.insertTransform index)) "clear transforms" "insert transform" rows
    table

/-- `RoutingRuleRepo.ReplaceForPipelineTx`. -/
def replaceRoutingRulesTx (rows table : List RoutingRule) : Except String (List RoutingRule) :=
  replaceForPipelineTx tenantID (fun row => row.pipelineID = pipelineID ∧ row.tenantID = tenantID)
    (placeRoutingRule around tenantID pipelineID) (around.fails .clearRoutingRules)
    (fun index => around.fails (.insertRoutingRule index)) "clear routing rules"
    "insert routing rule" rows table

/-- An error with what was being done. -/
def wrapApply {Value : Type} (what : String) : Except String Value → Except String Value
  | .ok value => .ok value
  | .error error => .error (what ++ ": " ++ error)

/-- The transaction of `applyRevisionLive`, up to and including its commit. -/
def applyTx (row : Pipeline) (snapshot : PipelineSnapshot) (tables : Tables) : Except String Tables := do
  let _ ← wrapApply "apply revision: begin tx" (match around.fails .beginTx with
    | some error => .error error
    | none => .ok ())
  let updated ← wrapApply "apply pipeline row" (updateExec (around.fails .update) tenantID
    { row with id := pipelineID, tenantID := tenantID } tables)
  let stages ← wrapApply "apply stages"
    (replaceStagesTx around tenantID pipelineID snapshot.stages updated.stages)
  let transforms ← wrapApply "apply transforms"
    (replaceTransformsTx around tenantID pipelineID snapshot.transforms updated.transforms)
  let routingRules ← wrapApply "apply routing rules"
    (replaceRoutingRulesTx around tenantID pipelineID snapshot.routingRules updated.routingRules)
  let _ ← wrapApply "apply revision: commit" (match around.fails .commit with
    | some error => .error error
    | none => .ok ())
  .ok { updated with stages, transforms, routingRules }

/-- `applyRevisionLive`: the error it returns, and the tables after it. A COMMIT that reports an error has not taken
effect; the answer that is lost on its way back is left out. -/
def applyRevisionLive (snapshot : PipelineSnapshot) (tables : Tables) : Option String × Tables :=
  match snapshot.pipeline with
  | none => (some "apply revision: snapshot missing pipeline", tables)
  | some row =>
    if tenantID = "" then (some "apply revision: tenant id required", tables)
    else if pipelineID = "" then (some "apply revision: pipeline id required", tables)
    else
      match applyTx around tenantID pipelineID row snapshot tables with
      -- the deferred rollback
      | .error error => (some error, tables)
      | .ok after => (none, after)

end Apply

/-! ### Plain JSON -/

/-- The JSON of a field whose texts have no character to escape. -/
def plainScalar : Scalar → String
  | .flag value => if value then "true" else "false"
  | .number value => toString value
  | .text value => "\"" ++ value ++ "\""
  | .texts values => "[" ++ ",".intercalate (values.map fun value => "\"" ++ value ++ "\"") ++ "]"

def plainRecord (record : Record) : String :=
  "\x7b" ++ ",".intercalate (record.map fun entry =>
    "\"" ++ entry.1 ++ "\":" ++ plainScalar entry.2) ++ "\x7d"

/-- A list of rows; the listing of no rows is a nil slice. -/
def plainRecords (records : List Record) : String :=
  if records.isEmpty then "null" else "[" ++ ",".intercalate (records.map plainRecord) ++ "]"

def plainDocument (document : Document) : String :=
  "\x7b\"pipeline\":" ++ (document.pipeline.map plainRecord).getD "null" ++ ",\"stages\":" ++
    plainRecords document.stages ++ ",\"transforms\":" ++ plainRecords document.transforms ++
    ",\"routing_rules\":" ++ plainRecords document.routingRules ++
    ",\"snapshot_schema_version\":" ++ toString document.schemaVersion ++ "\x7d"

/-- `encoding/json` on such values, as far as the texts of the given ones are decoded. -/
def plainCodec (documents : List Document) (records : List Record := []) (scalars : List Scalar := []) :
    Codec where
  scalar := plainScalar
  record := plainRecord
  document := plainDocument
  parseScalar text := scalars.find? fun value => plainScalar value = text
  parseRecord text := records.find? fun record => plainRecord record = text
  parse text := documents.find? fun document => plainDocument document = text

theorem plainCodec_parse (known : Document) :
    (plainCodec [known]).parse ((plainCodec [known]).document known) = some known := by
  simp [plainCodec]

end Revisions

end MqConnector
