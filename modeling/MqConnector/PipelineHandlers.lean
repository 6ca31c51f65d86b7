/-
This file models the handlers around pipelines: `handlers_pipelines.go`,
`handlers_pipeline_revisions.go` with the snapshots and the write-through they
rest on, `handlers_pipeline_grants.go`, `handlers_replay.go`, the import of
`handlers_config.go`, and the dead-letter handlers of `handlers_dlq.go` and
`handlers_dlq_intel.go`.

The hot reload and the snapshot that a handler starts in the background are part
of its outcome here.
-/

import MqConnector.Handlers

namespace MqConnector

/-! ### Validation -/

/-- `validatePipelineTuning`: the first complaint. -/
def validatePipelineTuning (pipeline : Pipeline) : Option String :=
  let between := fun (name : String) (value high : Int) =>
    if value < 0 ∨ high < value then
      some (name ++ " must be between 0 and " ++ toString high ++ " (got " ++ toString value ++ ")")
    else none
  between "workers" pipeline.workers 16 <|>
    between "retry_max" pipeline.retryMax 100 <|>
    between "retry_backoff_ms" pipeline.retryBackoffMs 600000 <|>
    between "max_msgs_per_minute" pipeline.maxMsgsPerMinute 1000000 <|>
    between "dedup_window_seconds" pipeline.dedupWindowSeconds 604800 <|>
    between "shadow_percent" pipeline.shadowPercent 100 <|>
    if pipeline.shadowDestinationID != "" &&
        pipeline.shadowDestinationID == pipeline.destinationID then
      some "shadow_destination_id must differ from destination_id"
    else none

namespace Context

variable {World Document Key Rule : Type} (context : Context World Document Key Rule)

/-! ### Snapshots -/

/-- The columns `authorFromCtx` and the snapshot put on a revision. -/
def authored (pipelineID : String) (snapshot : Option PipelineSnapshot) (hash summary : String) :
    PipelineRevision where
  id := context.around.freshID 0
  tenantID := context.tenantID
  pipelineID := pipelineID
  revisionNumber := 0
  snapshot := snapshot
  snapshotHash := hash
  authorSub := context.subject
  authorUsername := context.caller.user.preferredUsername
  changeSummary := summary
  deployRequestID := context.around.requestID

/-- The rows a snapshot is taken of, when they can be read. -/
def takeSnapshot (after : ServerState World Key Rule) (pipelineID : String) :
    Option PipelineSnapshot :=
  let readable := [RepoCall.get .pipelines, .list .stages, .list .transforms, .list .routingRules]
  if readable.any fun call => (context.repoError call).isSome then none
  else
    (after.pipeline context.tenantID pipelineID).map fun row =>
      { pipeline := some row
        stages := after.stages context.tenantID pipelineID
        transforms := after.transforms context.tenantID pipelineID
        routingRules := after.routingRules context.tenantID pipelineID }

/-- `snapshotPipelineRevision` with `markDeployed`. -/
def snapshotPipelineRevision (after : ServerState World Key Rule) (pipelineID summary : String) :
    ServerState World Key Rule :=
  match context.takeSnapshot after pipelineID with
  | none => after
  | some snapshot =>
    if (context.repoError (.create .pipelineRevisions)).isSome then after
    else
      let revision := context.authored pipelineID (some snapshot)
        (context.server.snapshotHash snapshot) summary
      let (revisions, number) :=
        PipelineRevision.create after.revisions context.tenantID revision
      if (context.repoError .markDeployed).isSome then { after with revisions := revisions }
      else
        { after with
          revisions := PipelineRevision.markDeployed revisions context.tenantID pipelineID number
            context.around.now context.around.requestID }

/-! ### Pipelines -/

/-- The pipelines of the tenant, with the caller's role in each. -/
def handleListPipelines : Outcome World Key Rule :=
  context.query (.list .pipelines) <|
    context.answer 200 (.pipelines
      ((Owned.list context.state.store.pipelines context.tenantID).map fun row =>
        (row, context.effectiveRole row.id)))

/-- One pipeline of the tenant, with the caller's role in it. -/
def handleGetPipeline (id : String) : Outcome World Key Rule :=
  context.query (.get .pipelines) <|
    context.found (context.state.pipeline context.tenantID id) "not found" fun row =>
      context.answer 200 (.pipelines [(row, context.effectiveRole id)])

/-- A pipeline is stored under the tenant and started by a reload. -/
def handleCreatePipeline (body : Except String Pipeline) : Outcome World Key Rule :=
  context.decoded body (fun _ => "invalid request body") fun given =>
    if given.name == "" || given.sourceID == "" || given.destinationID == "" then
      context.refuse 400 "name, source_id and destination_id are required"
    else
      match validatePipelineTuning given with
      | some complaint => context.refuse 400 complaint
      | none =>
        let reachable := fun connectionID =>
          (context.repoError (.get .connections)).isNone &&
            (context.state.connection context.tenantID connectionID).isSome
        if !reachable given.sourceID then
          context.refuse 400 "source_id not found in this tenant"
        else if !reachable given.destinationID then
          context.refuse 400 "destination_id not found in this tenant"
        else
          let id := if given.id == "" then context.around.freshID 0 else given.id
          let row :=
            { given with
              id := id
              tenantID := context.tenantID
              outputFormat := if given.outputFormat == "" then "same" else given.outputFormat }
          context.query (.create .pipelines) <|
            if context.state.store.pipelines.any fun other => other.id == id then
              context.refuse 500 context.around.databaseError
            else
              commit ((context.state.write (.createPipeline row)).emit .reloaded) 201
                (.pipeline row)

/-- Operators of the pipeline may replace it. -/
def handleUpdatePipeline (id : String) (body : Except String Pipeline) : Outcome World Key Rule :=
  context.gatePipeline id .operator <|
    context.decoded body (fun _ => "invalid request body") fun given =>
      let row := { given with id := id, tenantID := context.tenantID }
      match validatePipelineTuning row with
      | some complaint => context.refuse 400 complaint
      | none =>
        context.query (.update .pipelines) <|
          context.found (context.state.pipeline context.tenantID id) "not found" fun _ =>
            commit ((context.snapshotPipelineRevision (context.state.write (.updatePipeline row))
              id "Update pipeline metadata").emit .reloaded) 200 (.echo (.pipeline row))

/-- Admins of the pipeline may delete it, with what belongs to it. -/
def handleDeletePipeline (id : String) : Outcome World Key Rule :=
  context.gatePipeline id .admin <|
    context.query (.delete .pipelines) <|
      context.found (context.state.pipeline context.tenantID id) "not found" fun _ =>
        commit ((context.state.deletePipeline context.tenantID id).emit .reloaded) 200
          (.status "deleted")

/-! ### Stages, transforms and routing rules -/

/-- The list handlers of a pipeline's children. -/
def listChildren (table : Table) (id : String) (body : Body Rule) : Outcome World Key Rule :=
  context.ensurePipelineInTenant id <| context.query (.list table) <| context.answer 200 body

def handleListStages (id : String) : Outcome World Key Rule :=
  context.listChildren .stages id (.stages (context.state.stages context.tenantID id))
def handleListTransforms (id : String) : Outcome World Key Rule :=
  context.listChildren .transforms id (.transforms (context.state.transforms context.tenantID id))
def handleListRoutingRules (id : String) : Outcome World Key Rule :=
  context.listChildren .routingRules id
    (.routingRules (context.state.routingRules context.tenantID id))

/-- The replace handlers of a pipeline's children. -/
def replaceChildren {Child : Type} (table : Table) (id summary : String)
    (change : String → String → List Child → Write) (body : Except String (List Child)) :
    Outcome World Key Rule :=
  context.ensurePipelineInTenant id <|
    context.gatePipeline id .operator <|
      context.decoded body (fun _ => "invalid request body") fun rows =>
        context.query (.replace table) <|
          commit ((context.snapshotPipelineRevision
            (context.state.write (change context.tenantID id rows)) id summary).emit .reloaded) 200
            (.counted "ok" rows.length)

/-- Stages, transforms and rules are replaced as a whole. -/
def handleReplaceStages (id : String) (body : Except String (List StageRow)) :
    Outcome World Key Rule :=
  context.replaceChildren .stages id "Replace stages" .replaceStages body
def handleReplaceTransforms (id : String) (body : Except String (List Transform)) :
    Outcome World Key Rule :=
  context.replaceChildren .transforms id "Replace transforms" .replaceTransforms body
def handleReplaceRoutingRules (id : String) (body : Except String (List RoutingRule)) :
    Outcome World Key Rule :=
  context.replaceChildren .routingRules id "Replace routing rules" .replaceRoutingRules body

/-! ### Revisions -/

/-- `handleListRevisions` with its two query parameters as they parse, zero when they do not;
newest first. -/
def handleListRevisions (id : String) (limit offset : Int) : Outcome World Key Rule :=
  context.ensurePipelineInTenant id <|
    let limit := if limit ≤ 0 then 25 else if 200 < limit then 200 else limit.toNat
    let offset := offset.toNat
    let rows := (PipelineRevision.ofPipeline context.state.revisions context.tenantID
      id).insertionSort fun first second => second.revisionNumber ≤ first.revisionNumber
    context.query (.list .pipelineRevisions) <|
      context.answer 200 (.revisions ((rows.drop offset).take limit) rows.length limit offset)

/-- The revision that was deployed last. -/
def handleGetCurrentRevision (id : String) : Outcome World Key Rule :=
  context.ensurePipelineInTenant id <|
    context.query (.get .pipelineRevisions) <|
      context.found (PipelineRevision.latestDeployed context.state.revisions context.tenantID id)
        "no deployed revision for this pipeline" fun row => context.answer 200 (.revision row)

/-- Go on with a revision number that parsed and is positive. -/
def revisionNumber (number : Option Nat) (next : Nat → Outcome World Key Rule) :
    Outcome World Key Rule :=
  match number with
  | some (number + 1) => next (number + 1)
  | _ => context.refuse 400 "revision must be a positive integer"

/-- Go on with a stored revision and its snapshot. -/
def withSnapshot (id : String) (number : Nat)
    (next : PipelineRevision → PipelineSnapshot → Outcome World Key Rule) :
    Outcome World Key Rule :=
  context.query (.get .pipelineRevisions) <|
    context.found (Owned.get context.state.revisions context.tenantID (id, number))
      "revision not found" fun row =>
        match row.snapshot with
        | some snapshot => next row snapshot
        | none => context.refuse 500 "failed to decode revision snapshot"

/-- The revision of a number. -/
def handleGetRevision (id : String) (number : Option Nat) : Outcome World Key Rule :=
  context.ensurePipelineInTenant id <|
    context.revisionNumber number fun number =>
      context.query (.get .pipelineRevisions) <|
        context.found (Owned.get context.state.revisions context.tenantID (id, number))
          "revision not found" fun row => context.answer 200 (.revision row)

/-- `applyRevisionLive`: the write of the snapshot under the live ids, or its error. A COMMIT that takes effect and
still reports an error is left out. -/
def applyRevisionLive (id : String) (snapshot : PipelineSnapshot) : Except String Write :=
  match snapshot.pipeline with
  | none => .error "apply revision: snapshot missing pipeline"
  | some row =>
    if context.tenantID == "" then .error "apply revision: tenant id required"
    else if id == "" then .error "apply revision: pipeline id required"
    else
      match context.around.fails (.update .pipelines) with
      | some error => .error error
      | none =>
        .ok (.applyRevision { row with id := id, tenantID := context.tenantID } snapshot.stages
          snapshot.transforms snapshot.routingRules)

/-- The end of rollback and deploy: the revision is marked, read again and shown, and the
pipelines reload. -/
def deployed (after : ServerState World Key Rule) (id : String) (row : PipelineRevision) :
    Outcome World Key Rule :=
  match context.repoError .markDeployed with
  | some error => commit after 500 (.error error)
  | none =>
    let revisions := PipelineRevision.markDeployed after.revisions context.tenantID id
      row.revisionNumber context.around.now context.around.requestID
    let shown := (Owned.get revisions context.tenantID (id, row.revisionNumber)).getD row
    commit ({ after with revisions := revisions }.emit .reloaded) 200 (.revision shown)

/-- `handleRollbackRevision`; the body is empty or a change summary. -/
def handleRollbackRevision (id : String) (number : Option Nat) (body : Except String String) :
    Outcome World Key Rule :=
  context.ensurePipelineInTenant id <|
    context.gatePipeline id .operator <|
      context.revisionNumber number fun number =>
        context.decoded body (fun _ => "invalid request body") fun given =>
          context.withSnapshot id number fun target snapshot =>
            match context.applyRevisionLive id snapshot with
            | .error error => context.refuse 500 error
            | .ok change =>
              let live := context.state.write change
              match context.repoError (.create .pipelineRevisions) with
              | some error => commit live 500 (.error error)
              | none =>
                let summary :=
                  if given == "" then "Rollback to revision " ++ toString number else given
                let row := PipelineRevision.createForce live.revisions context.tenantID
                  (context.authored id target.snapshot target.snapshotHash summary)
                context.deployed { live with revisions := live.revisions ++ [row] } id row

/-- The body of a deployment. -/
structure DeployRequest where
  revisionNumber : Int
  approver : String := ""
  deriving DecidableEq

/-- The snapshot of a revision becomes the pipeline again. -/
def handleDeployRevision (id : String) (body : Except String DeployRequest) :
    Outcome World Key Rule :=
  context.ensurePipelineInTenant id <|
    context.gatePipeline id .operator <|
      context.decoded body (fun _ => "invalid request body") fun given =>
        if given.revisionNumber < 1 then
          context.refuse 400 "revision_number must be a positive integer"
        else if (context.state.pipeline context.tenantID id).any (·.requiresApproval) &&
            given.approver == "" then
          context.refuse 409
            "this pipeline requires approval: include 'approver' in the request body"
        else
          context.withSnapshot id given.revisionNumber.toNat fun target snapshot =>
            match context.applyRevisionLive id snapshot with
            | .error error => context.refuse 500 error
            | .ok change => context.deployed (context.state.write change) id target

/-! ### Grants -/

/-- The grants of a pipeline, shown to its admins. -/
def handleListPipelineGrants (id : String) : Outcome World Key Rule :=
  context.ensurePipelineInTenant id <|
    context.gatePipeline id .admin <|
      context.queryAll (.list .pipelineGrants) <|
        context.answer 200 (.grants (context.state.grants.filter fun row => row.pipelineID == id))

/-- `handleSetPipelineGrant`; a role outside the four does not parse. -/
def handleSetPipelineGrant (id userSub : String) (body : Except String (Option Role)) :
    Outcome World Key Rule :=
  context.ensurePipelineInTenant id <|
    context.gatePipeline id .admin <|
      if userSub == "" then context.refuse 400 "user_sub required"
      else
        context.decoded body (fun _ => "invalid request body") fun role =>
          match role with
          | none => context.refuse 400 "role must be one of viewer|operator|admin|owner"
          | some role =>
            context.queryAll (.update .pipelineGrants) <|
              commit { context.state with
                  grants := PipelineGrant.set context.state.grants id userSub role }
                200 (.grant ⟨id, userSub, role⟩)

/-- A grant is taken back by an admin of the pipeline. -/
def handleDeletePipelineGrant (id userSub : String) : Outcome World Key Rule :=
  context.ensurePipelineInTenant id <|
    context.gatePipeline id .admin <|
      context.queryAll (.delete .pipelineGrants) <|
        context.found (PipelineGrant.get context.state.grants id userSub) "not found" fun _ =>
          commit { context.state with
              grants := PipelineGrant.delete context.state.grants id userSub }
            200 (.status "deleted")

/-! ### Reload and replay -/

/-- The pipelines are started anew from the database. -/
def handleReload (answer : Except String Nat) : Outcome World Key Rule :=
  let after := context.state.emit .reloaded
  match answer with
  | .error error => commit after 500 (.error error)
  | .ok started => commit after 200 (.counted "ok" started)

/-- What `Manager.Replay` answers: a source that keeps no history is refused up front. -/
inductive ReplayAnswer
  | notSupported (error : String)
  | failed (error : String)
  | done (sent : Nat)
  deriving DecidableEq

/-- `handleReplayPipeline`; an instant that is absent is the zero time. -/
def handleReplayPipeline (id : String) (body : Except String (Option Int × Option Int))
    (answer : ReplayAnswer) : Outcome World Key Rule :=
  context.ensurePipelineInTenant id <|
    context.decoded body ("invalid request body: " ++ ·) fun window =>
      match window with
      | (some since, some till) =>
        if till ≤ since then context.refuse 400 "until must be after since"
        else if 24 * 60 * 60 * 1000000000 < till - since then
          context.refuse 400 "replay window cannot exceed 24h; split into multiple calls"
        else
          match answer with
          | .notSupported error => context.refuse 400 error
          | .failed error => commit (context.state.emit (.replayed id)) 500 (.error error)
          | .done sent => commit (context.state.emit (.replayed id)) 200 (.counted "replayed" sent)
      | _ => context.refuse 400 "since and until are required ISO-8601 timestamps"

/-! ### Configuration import -/

/-- `pipelineDoc`, its connections by name. -/
structure PipelineDoc where
  row : Pipeline
  source : String
  destination : String
  stages : List StageRow := []
  transforms : List Transform := []
  rules : List (RoutingRule × String) := []
  deriving DecidableEq

/-- The document of an export or import. -/
structure ConfigBundle where
  version : Int
  connections : List Connection := []
  schemas : List Schema := []
  scripts : List Script := []
  pipelines : List PipelineDoc := []
  deriving DecidableEq

/-- The import so far: the tables, the ids of the imported connections by name, and how many
ids have been drawn. -/
structure ImportProgress (World Key Rule : Type) where
  state : ServerState World Key Rule
  ids : List (String × String) := []
  drawn : Nat := 0

/-- The id an imported connection got; a map answers the empty text for an unknown name. -/
def ImportProgress.idOf (progress : ImportProgress World Key Rule) (name : String) : String :=
  ((progress.ids.find? fun entry => entry.1 == name).map (·.2)).getD ""

/-- The connections of a bundle, one after the other. -/
def importConnections (progress : ImportProgress World Key Rule) :
    List Connection → Except (String × ServerState World Key Rule) (ImportProgress World Key Rule)
  | [] => .ok progress
  | given :: rest =>
    match context.repoError (.create .connections) with
    | some error => .error ("create connection " ++ given.name ++ ": " ++ error, progress.state)
    | none =>
      let id := context.around.freshID progress.drawn
      let row := { given with id := id, tenantID := context.tenantID }
      importConnections
        { state := progress.state.createConnection row
          ids := (given.name, id) :: progress.ids
          drawn := progress.drawn + 1 } rest

/-- The schemas and scripts of a bundle, best effort. -/
def importContent (progress : ImportProgress World Key Rule) (bundle : ConfigBundle) :
    ImportProgress World Key Rule :=
  let schemas := if (context.repoError (.create .schemas)).isSome then []
    else bundle.schemas.mapIdx fun index given =>
      { given with
        id := context.around.freshID (progress.drawn + index)
        tenantID := context.tenantID }
  let drawn := progress.drawn + bundle.schemas.length
  let scripts := if (context.repoError (.create .scripts)).isSome then []
    else bundle.scripts.mapIdx fun index given =>
      { given with id := context.around.freshID (drawn + index), tenantID := context.tenantID }
  { progress with
    state := { progress.state with
      schemas := progress.state.schemas ++ schemas
      scripts := progress.state.scripts ++ scripts }
    drawn := drawn + bundle.scripts.length }

/-- The tables after the children of an imported pipeline; its stages must be stored, the rest
is best effort. -/
def importChildren (progress : ImportProgress World Key Rule) (id : String) (doc : PipelineDoc) :
    ServerState World Key Rule :=
  let staged := progress.state.write (.replaceStages context.tenantID id doc.stages)
  let transformed := if (context.repoError (.replace .transforms)).isSome then staged
    else staged.write (.replaceTransforms context.tenantID id doc.transforms)
  if (context.repoError (.replace .routingRules)).isSome then transformed
  else
    transformed.write (.replaceRoutingRules context.tenantID id
      (doc.rules.map fun rule => { rule.1 with destinationID := progress.idOf rule.2 }))

/-- The pipelines of a bundle, one after the other; the first unknown name stops the import
with some rows inserted. -/
def importPipelines (progress : ImportProgress World Key Rule) :
    List PipelineDoc → Except (Nat × String × ServerState World Key Rule) (ServerState World Key Rule)
  | [] => .ok progress.state
  | doc :: rest =>
    let source := progress.idOf doc.source
    let destination := progress.idOf doc.destination
    if source == "" || destination == "" then
      .error (400, "pipeline " ++ doc.row.name ++
        " references unknown connection name(s); aborting (some rows already inserted)",
        progress.state)
    else
      match context.repoError (.create .pipelines) with
      | some error => .error (500, "create pipeline " ++ doc.row.name ++ ": " ++ error, progress.state)
      | none =>
        let id := context.around.freshID progress.drawn
        let created := progress.state.write (.createPipeline
          { doc.row with
            id := id
            tenantID := context.tenantID
            sourceID := source
            destinationID := destination
            outputFormat := if doc.row.outputFormat == "" then "same" else doc.row.outputFormat })
        match context.repoError (.replace .stages) with
        | some error => .error (500, "replace stages " ++ doc.row.name ++ ": " ++ error, created)
        | none =>
          importPipelines
            { progress with
              state := context.importChildren { progress with state := created } id doc
              drawn := progress.drawn + 1 } rest

/-- The names of the tenant's connections and pipelines that a bundle would take again. -/
def importConflict (bundle : ConfigBundle) (owned : String → Bool) : Option String :=
  let pipelineTaken := fun name =>
    (Owned.list context.state.store.pipelines context.tenantID).any fun row => row.name == name
  match bundle.connections.find? fun given => owned given.name with
  | some given => some ("connection name already exists: " ++ given.name)
  | none =>
    (bundle.pipelines.find? fun doc => pipelineTaken doc.row.name).map fun doc =>
      "pipeline name already exists: " ++ doc.row.name

/-- `handleImportConfig`. The tenant's connection names are an argument, as the table is not a
list. -/
def handleImportConfig (body : Except String ConfigBundle) (dryRun : Bool)
    (owned : (String → Option Connection) → String → Bool) : Outcome World Key Rule :=
  if !context.caller.claim.role.atLeast .admin then
    context.refuse 403 "admin role required for config import"
  else
    context.decoded body ("could not parse body as YAML or JSON; YAML err: " ++ ·) fun bundle =>
      if bundle.version ≠ 1 then context.refuse 400 "unsupported bundle version (expected 1)"
      else
        match context.importConflict bundle (owned (context.state.connection context.tenantID)) with
        | some conflict => context.refuse 409 conflict
        | none =>
          let counted := Body.imported bundle.connections.length bundle.pipelines.length
          if dryRun then context.answer 200 (counted true)
          else
            match context.importConnections { state := context.state } bundle.connections with
            | .error (error, after) => commit after 500 (.error error)
            | .ok progress =>
              match context.importPipelines (context.importContent progress bundle)
                  bundle.pipelines with
              | .error (status, error, after) => commit after status (.error error)
              | .ok after => commit (after.emit .reloaded) 201 (counted false)

/-! ### The dead-letter queue -/

/-- `handleRetryDLQ`. A failed retry answers 404 when its error wraps `ErrNotFound`, else 500
with the error. -/
def handleRetryDLQ (id : String) (answers : RetryAnswers) (world : World)
    (failure : Option String) : Outcome World Key Rule :=
  let (result, after) := context.server.dlq.retry context.state.toDlqState context.tenantID id
    answers world
  let after := { context.state with toDlqState := after }
  match result with
  | .succeeded => commit after 200 (.status "retried")
  | .maxRetries => commit after 400 (.error "max retries exceeded")
  | .failed =>
    match failure with
    | none => commit after 404 (.error "not found")
    | some error => commit after 500 (.error error)

/-- A dead letter of the tenant is dropped. -/
def handleDeleteDLQ (id : String) : Outcome World Key Rule :=
  context.query (.delete .dlq) <|
    context.found (context.state.get context.tenantID id) "not found" fun _ =>
      commit { context.state with toDlqState := context.state.toDlqState.delete context.tenantID id }
        200 (.status "deleted")

/-- The message of a dead letter as it came, for admins. -/
def handleGetDLQRaw (id : String) : Outcome World Key Rule :=
  context.requireRole .admin <|
    context.query (.get .dlq) <|
      context.found (context.state.get context.tenantID id) "not found" fun held =>
        if !held.row.redacted || held.row.rawMsg.isEmpty then context.answer 204 .empty
        else
          match context.state.keys with
          | none =>
            context.refuse 503 "master key not configured — cannot decrypt raw payload"
          | some ring =>
            match ring.decrypt context.server.dlq.cipher held.row.rawMsg with
            | none => context.refuse 500 "dlq: decrypt raw"
            | some raw => context.answer 200 (.payload raw)

/-- One row a bulk retry selected, with the answers it meets. -/
structure BulkItem (World : Type) where
  id : String
  answers : RetryAnswers := {}
  world : World
  deleted : Bool := true

/-- The loop of `BulkRetry`, with the rows sent and the rows that failed. -/
def bulkRetry (state : DlqState World Key Rule) (succeeded failed : Nat) :
    List (BulkItem World) → (Nat × Nat) × DlqState World Key Rule
  | [] => ((succeeded, failed), state)
  | item :: rest =>
    let (result, _) := context.server.dlq.retry state context.tenantID item.id item.answers item.world
    let after := context.server.dlq.bulkOne state context.tenantID item.id item.answers item.world
      item.deleted
    if result = .succeeded then bulkRetry after (succeeded + 1) failed rest
    else bulkRetry after succeeded (failed + 1) rest

/-- The dead letters of a filter are retried one by one. -/
def handleBulkRetryDLQ (items : List (BulkItem World)) : Outcome World Key Rule :=
  context.requireRole .operator <|
    context.query (.list .dlq) <|
      let ((succeeded, failed), after) := context.bulkRetry context.state.toDlqState 0 0 items
      commit { context.state with toDlqState := after } 200 (.bulk succeeded failed)

/-- The dead letters of a list are dropped in one statement. -/
def handleBulkDeleteDLQ (ids : List String) : Outcome World Key Rule :=
  context.requireRole .operator <|
    context.query (.delete .dlq) <|
      let rows := context.state.rows.filter fun held =>
        !(held.row.entry.tenantID == context.tenantID && ids.contains held.row.id)
      commit { context.state with rows := rows } 200
        (.bulk (context.state.rows.length - rows.length) 0)

/-- The simulation against the deployed revision. -/
def simulateReplay (held : HeldRow) (pipelineID : String) : Outcome World Key Rule :=
  context.query (.get .pipelineRevisions) <|
    match PipelineRevision.latestDeployed context.state.revisions context.tenantID pipelineID with
    | none => context.refuse 409 "pipeline has no deployed revision; cannot simulate"
    | some row =>
      if row.snapshot.isNone then context.refuse 500 "failed to decode revision snapshot"
      else
        let read := [.deadLetters [held], .revisions [row]]
        context.answer 200 (.page read (context.around.render (.replaySim held.row.id) read).2)

/-- A dead letter is run through the stages of today, without a send. -/
def handleReplaySimDLQ (id : String) : Outcome World Key Rule :=
  context.query (.get .dlq) <|
    context.found (context.state.get context.tenantID id) "dlq entry not found" fun held =>
      let pipelineID := held.row.entry.pipelineID
      if pipelineID == "" then
        context.refuse 404 "dlq entry has no pipeline_id; nothing to simulate"
      else context.gatePipeline pipelineID .operator (context.simulateReplay held pipelineID)

/-- The redaction rules of a pipeline. -/
def handleListDLQRedactionRules (id : String) : Outcome World Key Rule :=
  context.query (.list .dlqRedaction) <|
    context.answer 200 (.redactionRules id (context.state.redactionRules context.tenantID id))

/-- The redaction rules of a pipeline are replaced as a whole. -/
def handleReplaceDLQRedactionRules (id : String) (body : Except String (List Rule)) :
    Outcome World Key Rule :=
  context.requireRole .admin <|
    context.decoded body ("invalid body: " ++ ·) fun rules =>
      match context.server.validateRules rules with
      | some complaint => context.refuse 400 complaint
      | none =>
        if !rules.isEmpty && context.state.keys.isNone then
          context.refuse 412
            "redaction rules require MQC_MASTER_KEY (envelope encryption) to be configured"
        else
          context.query (.replace .dlqRedaction) <|
            context.found (context.state.pipeline context.tenantID id) "pipeline not found"
              fun _ =>
                commit { context.state with rules := Function.update context.state.rules id rules }
                  200 (.counted "saved" rules.length)

end Context

end MqConnector
