/-
This file models the handlers that only display, each with what it reads.

Most read through repositories that are given the caller's tenant. The metrics, the event stream and the active alerts
read stores of the process that know no tenants, and the list of clusters reads a cache that is keyed by fingerprints.
-/

import MqConnector.PipelineHandlers

namespace MqConnector

/-- A request for a page, with its decoded body or query. `selects` is the filter of a query, and `listed` the
fingerprints of the clusters that a query lists. -/
inductive PageRequest
  | metrics
  | exportConfig (json : Bool)
  | events (interval : String)
  | leadership
  | testConnection (id override : String)
  | diffRevisions (id : String) (revision : Option Nat) (against : Option (Option Nat))
  | topology
  | activeAlerts (selects : Slo.FiringAlert String → Bool)
  | listDLQ (selects : HeldRow → Bool) (page perPage : Int)
  | groupDLQ (limit : Int)
  | listDLQClusters (listed : List HeldRow → List String) (names : Bool)
  | diffDLQ (id against : String)
  | extractSample (body : Bytes)
  | preview (body : Except String (String × String))

namespace Context

variable {World Document Key Rule : Type} (context : Context World Document Key Rule)

/-- The caller's rows of a list whose error is dropped. -/
def readable {Row : Type} [Owned Row String String] (table : Table) (rows : List Row) : List Row :=
  if (context.repoError (.list table)).isSome then [] else Owned.list rows context.tenantID

/-- The counters of every pipeline of the process. -/
def handleMetricsJSON : Outcome World Key Rule :=
  context.present .metrics [.metrics context.around.metrics]

/-- `handleEvents`: the metrics and the health of every pipeline, and the count of the tenant's dead letters. -/
def handleEvents (interval : String) : Outcome World Key Rule :=
  context.present (.events interval)
    [.metrics context.around.metrics, .deadLetters (context.readable .dlq context.state.rows)]

/-- Whether this replica leads. -/
def handleLeadership : Outcome World Key Rule := context.present .leadership []

/-- `handleListActiveAlerts`. An alert without the label of a pipeline was evaluated over all of them. -/
def handleListActiveAlerts (selects : Slo.FiringAlert String → Bool) : Outcome World Key Rule :=
  let alerts := context.around.alerts.filter selects
  context.present .activeAlerts [.alerts alerts,
    .metrics (if alerts.any fun alert => !alert.labels.contains "pipeline_id" then context.around.metrics else [])]

/-- `handleExportConfig` and `buildBundle`. -/
def handleExportConfig (json : Bool) : Outcome World Key Rule :=
  context.query (.list .connections) <| context.query (.list .pipelines) <|
    context.present (.exportConfig json)
      [.connections (context.state.connection context.tenantID),
        .schemas (context.readable .schemas context.state.schemas),
        .scripts (context.readable .scripts context.state.scripts),
        .pipelines (Owned.list context.state.store.pipelines context.tenantID),
        .stages (context.readable .stages context.state.store.stages),
        .transforms (context.readable .transforms context.state.store.transforms),
        .routingRules (context.readable .routingRules context.state.store.routingRules)]

/-- `handleTopology`: of the metrics store, the entries of the tenant's pipelines. -/
def handleTopology : Outcome World Key Rule :=
  context.query (.list .connections) <| context.query (.list .pipelines) <|
    context.present .topology
      [.connections (context.state.connection context.tenantID),
        .pipelines (Owned.list context.state.store.pipelines context.tenantID),
        .deadLetters (context.readable .dlq context.state.rows),
        .routingRules (context.readable .routingRules context.state.store.routingRules),
        .metrics (context.around.metrics.filter fun row =>
          (context.state.pipeline context.tenantID row.pipelineID).isSome)]

/-- A dial of one connection of the tenant. -/
def handleTestConnection (id override : String) : Outcome World Key Rule :=
  context.query (.get .connections) <|
    context.found (context.state.connection context.tenantID id) "connection not found" fun row =>
      context.present (.testConnection id override) [.connections fun other => if other = id then some row else none]

/-- `handleDiffRevisions`: both revisions are read before either is decoded. -/
def handleDiffRevisions (id : String) (revision : Option Nat) (against : Option (Option Nat)) :
    Outcome World Key Rule :=
  context.ensurePipelineInTenant id <| context.revisionNumber revision fun first =>
    match against with
    | none => context.refuse 400 "missing required query parameter: against"
    | some against =>
      context.revisionNumber against fun second =>
        context.query (.get .pipelineRevisions) <|
          context.found (Owned.get context.state.revisions context.tenantID (id, first)) "revision not found" fun older =>
            context.found (Owned.get context.state.revisions context.tenantID (id, second)) "revision not found" fun newer =>
              if older.snapshot.isNone || newer.snapshot.isNone then
                context.refuse 500 "failed to decode revision snapshot"
              else context.present (.revisionDiff id first second) [.revisions [older, newer]]

/-- A page of the tenant's dead letters. -/
def handleListDLQ (selects : HeldRow → Bool) (page perPage : Int) : Outcome World Key Rule :=
  context.query (.list .dlq) <| context.present (.dlq page perPage)
    [.deadLetters ((Owned.list context.state.rows context.tenantID).filter selects)]

/-- The tenant's dead letters, grouped by their error. -/
def handleGroupDLQ (limit : Int) : Outcome World Key Rule :=
  context.query (.list .dlq) <| context.present (.dlqGroups limit)
    [.deadLetters (Owned.list context.state.rows context.tenantID)]

/-- The cached names of the first ten clusters, where names are asked for and the configuration allows them. -/
def shownNames (listed : List String) (names : Bool) : List ClusterName :=
  if names then context.around.clusterNames.filter fun name => (listed.take 10).contains name.fingerprint else []

/-- The tenant's dead letters in clusters, with the names that were stored for them. -/
def handleListDLQClusters (listed : List HeldRow → List String) (names : Bool) : Outcome World Key Rule :=
  context.query (.list .dlq) <|
    let rows := Owned.list context.state.rows context.tenantID
    context.present (.dlqClusters (listed rows)) [.deadLetters rows, .names (context.shownNames (listed rows) names)]

/-- The bodies of two dead letters of the tenant, side by side. -/
def handleDiffDLQ (id against : String) : Outcome World Key Rule :=
  if against == "" then context.refuse 400 "missing required query parameter: against"
  else
    context.query (.get .dlq) <|
      context.found (context.state.get context.tenantID id) "dlq entry not found" fun older =>
        context.found (context.state.get context.tenantID against) "dlq entry not found" fun newer =>
          context.present (.dlqDiff id against) [.deadLetters [older, newer]]

/-- The paths of a body that the caller sends. -/
def handleExtractSample (body : Bytes) : Outcome World Key Rule := context.present (.sample body) []

/-- `handlePreview`, with the body's pipeline id and sample; without an id, the body holds the draft. -/
def handlePreview (body : Except String (String × String)) : Outcome World Key Rule :=
  context.decoded body (fun error => "decode: " ++ error) fun (pipelineID, sample) =>
    if sample == "" then context.refuse 400 "sample is required"
    else if pipelineID == "" then context.present (.preview sample) []
    else
      context.query (.get .pipelines) <|
        context.found (context.state.pipeline context.tenantID pipelineID) "pipeline not found" fun row =>
          context.present (.preview sample) [.pipelines [row],
            .stages ((context.readable .stages context.state.store.stages).filter (·.pipelineID == pipelineID)),
            .transforms ((context.readable .transforms context.state.store.transforms).filter (·.pipelineID == pipelineID)),
            .routingRules
              ((context.readable .routingRules context.state.store.routingRules).filter (·.pipelineID == pipelineID))]

/-- Each page has its handler. -/
def display : PageRequest → Outcome World Key Rule
  | .metrics => context.handleMetricsJSON
  | .exportConfig json => context.handleExportConfig json
  | .events interval => context.handleEvents interval
  | .leadership => context.handleLeadership
  | .testConnection id override => context.handleTestConnection id override
  | .diffRevisions id revision against => context.handleDiffRevisions id revision against
  | .topology => context.handleTopology
  | .activeAlerts selects => context.handleListActiveAlerts selects
  | .listDLQ selects page perPage => context.handleListDLQ selects page perPage
  | .groupDLQ limit => context.handleGroupDLQ limit
  | .listDLQClusters listed names => context.handleListDLQClusters listed names
  | .diffDLQ id against => context.handleDiffDLQ id against
  | .extractSample body => context.handleExtractSample body
  | .preview body => context.handlePreview body

end Context

end MqConnector
