/-
This file models the export and the import of a tenant's configuration,
`server/handlers_config.go`, field by field: `buildBundle` over the rows of a tenant
and `handleImportConfig` over the documents of a bundle.

The tables carry the `CHECK` constraints and the foreign keys an insert meets. Every
statement of an import may fail besides, and every id it draws is a value of
`uuid.NewString`. The YAML or JSON codec is taken to give back the bundle.
-/

import MqConnector.Database

namespace MqConnector

namespace Transfer

/-! ### The documents of a bundle -/

/-- A connection of the document. -/
structure ConnectionDoc where
  name : String := ""
  type : String := ""
  queueManager : String := ""
  connName : String := ""
  channel : String := ""
  username : String := ""
  password : String := ""
  queueName : String := ""
  url : String := ""
  brokers : String := ""
  topic : String := ""
  tlsCAFile : String := ""
  tlsCertFile : String := ""
  tlsKeyFile : String := ""
  tlsInsecureSkipVerify : Bool := false
  deriving DecidableEq

/-- A schema of the document. -/
structure SchemaDoc where
  name : String
  type : String
  content : String
  deriving DecidableEq

/-- A script of the document. -/
structure ScriptDoc where
  name : String
  body : String
  deriving DecidableEq

/-- A stage of a pipeline of the document. -/
structure StageDoc where
  order : Int
  type : String
  config : String
  enabled : Bool
  deriving DecidableEq

/-- A transform of a pipeline of the document. -/
structure TransformDoc where
  order : Int
  type : String
  sourcePath : String := ""
  targetPath : String := ""
  maskPattern : String := ""
  maskReplace : String := ""
  setValue : String := ""
  deriving DecidableEq

/-- A routing rule of the document, which names its destination. -/
structure RouteDoc where
  priority : Int
  path : String
  operator : String
  value : String
  destConnectionName : String := ""
  enabled : Bool
  deriving DecidableEq

/-- A pipeline of the document with its children, which names its connections. -/
structure PipelineDoc where
  name : String
  sourceConnectionName : String := ""
  destConnectionName : String := ""
  outputFormat : String
  schemaName : String := ""
  filterPaths : List String := []
  enabled : Bool
  stages : List StageDoc := []
  transforms : List TransformDoc := []
  routingRules : List RouteDoc := []
  deriving DecidableEq

/-- `configBundle` without the instant of the export. -/
structure Bundle where
  version : Int
  tenantSlug : String := ""
  connections : List ConnectionDoc := []
  schemas : List SchemaDoc := []
  scripts : List ScriptDoc := []
  pipelines : List PipelineDoc := []
  deriving DecidableEq

/-! ### The tables -/

/-- The tables of a configuration, with the rows of all tenants. -/
structure Tables where
  connections : List Connection := []
  schemas : List Schema := []
  scripts : List Script := []
  pipelines : List Pipeline := []
  stages : List StageRow := []
  transforms : List Transform := []
  routingRules : List RoutingRule := []
  deriving DecidableEq

/-- The values the `CHECK` constraints let through. -/
def connectionTypes : List String := ["ibm", "rabbitmq", "kafka", "mqtt", "nats", "amqp10"]

/-- The kinds that the CHECK constraints of the tables allow. -/
def schemaTypes : List String := ["json_schema", "xsd", "protobuf"]

def outputFormats : List String := ["same", "json", "xml", "protobuf"]

def stageTypes : List String :=
  ["filter", "transform", "translate", "route", "script", "validate", "wasm"]

def transformTypes : List String := ["rename", "mask", "move", "set", "delete"]

def conditionOperators : List String := ["eq", "neq", "contains", "regex", "gt", "lt", "exists"]

namespace Tables

/-- `Connections.List`, `ORDER BY name`. -/
def listConnections (tables : Tables) (tenantID : String) : List Connection :=
  (tables.connections.filter fun row => row.tenantID = tenantID).insertionSort
    fun former latter => former.name ≤ latter.name

/-- `Schemas.List`. -/
def listSchemas (tables : Tables) (tenantID : String) : List Schema :=
  (tables.schemas.filter fun row => row.tenantID = tenantID).insertionSort
    fun former latter => former.name ≤ latter.name

/-- `Scripts.List`. -/
def listScripts (tables : Tables) (tenantID : String) : List Script :=
  (tables.scripts.filter fun row => row.tenantID = tenantID).insertionSort
    fun former latter => former.name ≤ latter.name

/-- `Pipelines.List`. -/
def listPipelines (tables : Tables) (tenantID : String) : List Pipeline :=
  (tables.pipelines.filter fun row => row.tenantID = tenantID).insertionSort
    fun former latter => former.name ≤ latter.name

/-- `Stages.ListByPipeline`. -/
def listStages (tables : Tables) (tenantID pipelineID : String) : List StageRow :=
  (tables.stages.filter fun row => row.pipelineID = pipelineID ∧ row.tenantID = tenantID).insertionSort
    fun former latter => former.stageOrder ≤ latter.stageOrder

/-- `Transforms.ListByPipeline`. -/
def listTransforms (tables : Tables) (tenantID pipelineID : String) : List Transform :=
  (tables.transforms.filter fun row =>
    row.pipelineID = pipelineID ∧ row.tenantID = tenantID).insertionSort
    fun former latter => former.order ≤ latter.order

/-- `RoutingRules.ListByPipeline`. -/
def listRoutingRules (tables : Tables) (tenantID pipelineID : String) : List RoutingRule :=
  (tables.routingRules.filter fun row =>
    row.pipelineID = pipelineID ∧ row.tenantID = tenantID).insertionSort
    fun former latter => former.priority ≤ latter.priority

end Tables

/-! ### Export -/

/-- The reads of `buildBundle`. -/
inductive ExportRead
  | connections | schemas | scripts | pipelines
  | stages (pipelineID : String) | transforms (pipelineID : String) | routingRules (pipelineID : String)
  deriving DecidableEq

/-- A list whose error is passed by. -/
def orNone {Row : Type} (error : Option String) (rows : List Row) : List Row :=
  if error.isSome then [] else rows

/-- The document of a connection; the password is left out. -/
def connectionDoc (row : Connection) : ConnectionDoc where
  name := row.name
  type := row.type
  queueManager := row.queueManager
  connName := row.connName
  channel := row.channel
  username := row.username
  queueName := row.queueName
  url := row.url
  brokers := row.brokers
  topic := row.topic
  tlsCAFile := row.tlsCAFile
  tlsCertFile := row.tlsCertFile
  tlsKeyFile := row.tlsKeyFile
  tlsInsecureSkipVerify := row.tlsInsecureSkipVerify

/-- A stored schema, written into the document. -/
def schemaDoc (row : Schema) : SchemaDoc where
  name := row.name
  type := row.schemaType
  content := row.content

/-- A stored script, written into the document. -/
def scriptDoc (row : Script) : ScriptDoc where
  name := row.name
  body := row.body

/-- A stored stage, written into the document. -/
def stageDoc (row : StageRow) : StageDoc where
  order := row.stageOrder
  type := row.stageType
  config := row.stageConfig
  enabled := row.enabled

/-- A stored transform, written into the document. -/
def transformDoc (row : Transform) : TransformDoc where
  order := row.order
  type := row.transformType
  sourcePath := row.sourcePath
  targetPath := row.targetPath
  maskPattern := row.maskPattern
  maskReplace := row.maskReplace
  setValue := row.setValue

/-- The name `connsByID` has for an id, empty for one it does not have. -/
def nameOf (connections : List Connection) (id : String) : String :=
  ((connections.find? fun row => row.id = id).map fun row => row.name).getD ""

/-- A stored rule, written with the name of its destination. -/
def routeDoc (connections : List Connection) (row : RoutingRule) : RouteDoc where
  priority := row.priority
  path := row.conditionPath
  operator := row.conditionOperator
  value := row.conditionValue
  destConnectionName := nameOf connections row.destinationID
  enabled := row.enabled

/-- The document of a pipeline with its children. -/
def pipelineDoc (tables : Tables) (tenantID : String) (fails : ExportRead → Option String)
    (connections : List Connection) (row : Pipeline) : PipelineDoc where
  name := row.name
  sourceConnectionName := nameOf connections row.sourceID
  destConnectionName := nameOf connections row.destinationID
  outputFormat := row.outputFormat
  filterPaths := row.filterPaths
  enabled := row.enabled
  stages := (orNone (fails (.stages row.id)) (tables.listStages tenantID row.id)).map stageDoc
  transforms :=
    (orNone (fails (.transforms row.id)) (tables.listTransforms tenantID row.id)).map transformDoc
  routingRules := (orNone (fails (.routingRules row.id))
    (tables.listRoutingRules tenantID row.id)).map (routeDoc connections)

/-- `buildBundle`; the slug is empty when the tenant was not found. -/
def buildBundle (tables : Tables) (tenantID slug : String) (fails : ExportRead → Option String) :
    Except String Bundle :=
  match fails .connections, fails .pipelines with
  | some error, _ => .error error
  | none, some error => .error error
  | none, none =>
    let connections := tables.listConnections tenantID
    .ok { version := 1
          tenantSlug := slug
          connections := connections.map connectionDoc
          schemas := (orNone (fails .schemas) (tables.listSchemas tenantID)).map schemaDoc
          scripts := (orNone (fails .scripts) (tables.listScripts tenantID)).map scriptDoc
          pipelines := (tables.listPipelines tenantID).map
            (pipelineDoc tables tenantID fails connections) }

/-! ### Import -/

/-- The statements of an import, each by the place of its document. -/
inductive Statement
  | connection (index : Nat) | schema (index : Nat) | script (index : Nat)
  | pipeline (index : Nat) | stages (index : Nat) | transforms (index : Nat)
  | routingRules (index : Nat)
  deriving DecidableEq

/-- The ids an import draws, each by the place of its document. -/
inductive Drawn
  | connection (index : Nat) | schema (index : Nat) | script (index : Nat)
  | pipeline (index : Nat) | stage (index child : Nat) | transform (index child : Nat)
  | routingRule (index child : Nat)
  deriving DecidableEq

/-- What an import meets outside: which lists of the pre-flight check fail, the errors of its
statements, and `uuid.NewString`. -/
structure Surround where
  connectionsUnlisted : Bool := false
  pipelinesUnlisted : Bool := false
  fails : Statement → Option String := fun _ => none
  freshID : Drawn → String

/-- The error of a repository call: no tenant, a failure of the database, or a constraint. -/
def callError (tenantID : String) (failure : Option String) (allowed : Bool) : Option String :=
  if tenantID = "" then some "storage: tenant_id is required"
  else failure.or (if allowed then none else some "constraint failed")

section Import

variable (around : Surround) (tenantID : String)

/-- A document and its place in the bundle become a row of `connections`. -/
def connectionRow (entry : ConnectionDoc × Nat) : Connection where
  id := around.freshID (.connection entry.2)
  tenantID := tenantID
  name := entry.1.name
  type := entry.1.type
  queueManager := entry.1.queueManager
  connName := entry.1.connName
  channel := entry.1.channel
  username := entry.1.username
  password := entry.1.password
  queueName := entry.1.queueName
  url := entry.1.url
  brokers := entry.1.brokers
  topic := entry.1.topic
  tlsCAFile := entry.1.tlsCAFile
  tlsCertFile := entry.1.tlsCertFile
  tlsKeyFile := entry.1.tlsKeyFile
  tlsInsecureSkipVerify := entry.1.tlsInsecureSkipVerify

/-- `Connections.Create` in an import. -/
def connectionError (entry : ConnectionDoc × Nat) : Option String :=
  callError tenantID (around.fails (.connection entry.2)) (connectionTypes.contains entry.1.type)

/-- The connections of a bundle, one after the other; the first error stops the import. -/
def importConnections : List (ConnectionDoc × Nat) → Tables → Except (String × Tables) Tables
  | [], tables => .ok tables
  | entry :: rest, tables =>
    match connectionError around tenantID entry with
    | some error => .error ("create connection " ++ entry.1.name ++ ": " ++ error, tables)
    | none =>
      importConnections rest { tables with
        connections := tables.connections ++ [connectionRow around tenantID entry] }

/-- `nameToConnID`: the last connection of the bundle with this name, else the empty text. -/
def nameToConnID (connections : List ConnectionDoc) (name : String) : String :=
  ((connections.zipIdx.reverse.find? fun entry => entry.1.name = name).map fun entry =>
    around.freshID (.connection entry.2)).getD ""

/-- The row that an imported schema becomes. -/
def schemaRow (entry : SchemaDoc × Nat) : Schema where
  id := around.freshID (.schema entry.2)
  tenantID := tenantID
  name := entry.1.name
  schemaType := entry.1.type
  content := entry.1.content

/-- Why a schema is not stored. -/
def schemaError (entry : SchemaDoc × Nat) : Option String :=
  callError tenantID (around.fails (.schema entry.2)) (schemaTypes.contains entry.1.type)

/-- A script is stored with what its document says, and is not enabled. -/
def scriptRow (entry : ScriptDoc × Nat) : Script where
  id := around.freshID (.script entry.2)
  tenantID := tenantID
  name := entry.1.name
  body := entry.1.body
  enabled := false

/-- Why a script is not stored. -/
def scriptError (entry : ScriptDoc × Nat) : Option String :=
  callError tenantID (around.fails (.script entry.2)) true

/-- The schemas and the scripts, best effort. -/
def importContent (bundle : Bundle) (tables : Tables) : Tables :=
  { tables with
    schemas := tables.schemas ++ (bundle.schemas.zipIdx.filter fun entry =>
      (schemaError around tenantID entry).isNone).map (schemaRow around tenantID)
    scripts := tables.scripts ++ (bundle.scripts.zipIdx.filter fun entry =>
      (scriptError around tenantID entry).isNone).map (scriptRow around tenantID) }

/-- The row that an imported pipeline becomes, its connections found by their names. -/
def pipelineRow (names : String → String) (entry : PipelineDoc × Nat) : Pipeline where
  id := around.freshID (.pipeline entry.2)
  tenantID := tenantID
  name := entry.1.name
  sourceID := names entry.1.sourceConnectionName
  destinationID := names entry.1.destConnectionName
  outputFormat := if entry.1.outputFormat = "" then "same" else entry.1.outputFormat
  filterPaths := entry.1.filterPaths
  enabled := entry.1.enabled
  workers := 0

/-- There is a connection with this id, whosever it is. -/
def references (tables : Tables) (id : String) : Bool :=
  tables.connections.any fun row => row.id = id

/-- Why a pipeline is not stored. -/
def pipelineError (tables : Tables) (names : String → String) (entry : PipelineDoc × Nat) :
    Option String :=
  let row := pipelineRow around tenantID names entry
  callError tenantID (around.fails (.pipeline entry.2))
    (outputFormats.contains row.outputFormat && references tables row.sourceID &&
      references tables row.destinationID)

/-- The rows of a pipeline's stages, in the order of the document. -/
def stageRows (entry : PipelineDoc × Nat) : List StageRow :=
  entry.1.stages.zipIdx.map fun child =>
    { id := around.freshID (.stage entry.2 child.2)
      tenantID := tenantID
      pipelineID := around.freshID (.pipeline entry.2)
      stageOrder := child.1.order
      stageType := child.1.type
      stageConfig := if child.1.config = "" then "\x7b\x7d" else child.1.config
      enabled := child.1.enabled }

/-- Why the stages are not stored. -/
def stagesError (entry : PipelineDoc × Nat) : Option String :=
  callError tenantID (around.fails (.stages entry.2))
    (entry.1.stages.all fun child => stageTypes.contains child.type)

/-- The rows of a pipeline's transforms. -/
def transformRows (entry : PipelineDoc × Nat) : List Transform :=
  entry.1.transforms.zipIdx.map fun child =>
    { id := around.freshID (.transform entry.2 child.2)
      tenantID := tenantID
      pipelineID := around.freshID (.pipeline entry.2)
      transformType := child.1.type
      sourcePath := child.1.sourcePath
      targetPath := child.1.targetPath
      maskPattern := child.1.maskPattern
      maskReplace := child.1.maskReplace
      setValue := child.1.setValue
      order := child.1.order }

/-- Why the transforms are not stored. -/
def transformsError (entry : PipelineDoc × Nat) : Option String :=
  callError tenantID (around.fails (.transforms entry.2))
    (entry.1.transforms.all fun child => transformTypes.contains child.type)

/-- The rows of a pipeline's rules, their destinations found by their names. -/
def routingRuleRows (names : String → String) (entry : PipelineDoc × Nat) : List RoutingRule :=
  entry.1.routingRules.zipIdx.map fun child =>
    { id := around.freshID (.routingRule entry.2 child.2)
      tenantID := tenantID
      pipelineID := around.freshID (.pipeline entry.2)
      conditionPath := child.1.path
      conditionOperator := child.1.operator
      conditionValue := child.1.value
      destinationID := names child.1.destConnectionName
      priority := child.1.priority
      enabled := child.1.enabled }

/-- Why the rules are not stored. -/
def routingRulesError (tables : Tables) (names : String → String) (entry : PipelineDoc × Nat) :
    Option String :=
  callError tenantID (around.fails (.routingRules entry.2))
    (entry.1.routingRules.all fun child =>
      conditionOperators.contains child.operator && references tables (names child.destConnectionName))

/-- `Stages.ReplaceForPipeline`. -/
def replaceStages (tables : Tables) (pipelineID : String) (rows : List StageRow) : Tables :=
  { tables with
    stages := tables.stages.filter (fun row =>
      ¬ (row.pipelineID = pipelineID ∧ row.tenantID = tenantID)) ++ rows }

/-- `Transforms.ReplaceForPipeline`. -/
def replaceTransforms (tables : Tables) (pipelineID : String) (rows : List Transform) : Tables :=
  { tables with
    transforms := tables.transforms.filter (fun row =>
      ¬ (row.pipelineID = pipelineID ∧ row.tenantID = tenantID)) ++ rows }

/-- `RoutingRules.ReplaceForPipeline`. -/
def replaceRoutingRules (tables : Tables) (pipelineID : String) (rows : List RoutingRule) : Tables :=
  { tables with
    routingRules := tables.routingRules.filter (fun row =>
      ¬ (row.pipelineID = pipelineID ∧ row.tenantID = tenantID)) ++ rows }

/-- The transforms and the routing rules of a pipeline, whose errors are passed by. -/
def importRules (names : String → String) (entry : PipelineDoc × Nat) (tables : Tables) : Tables :=
  let id := around.freshID (.pipeline entry.2)
  let transformed := if (transformsError around tenantID entry).isSome then tables
    else replaceTransforms tenantID tables id (transformRows around tenantID entry)
  if (routingRulesError around tenantID tables names entry).isSome then transformed
  else replaceRoutingRules tenantID transformed id (routingRuleRows around tenantID names entry)

/-- The pipelines of a bundle, one after the other; an error stops the import, with the status to
answer and the tables as they are then. -/
def importPipelines (names : String → String) :
    List (PipelineDoc × Nat) → Tables → Except (Nat × String × Tables) Tables
  | [], tables => .ok tables
  | entry :: rest, tables =>
    if names entry.1.sourceConnectionName = "" ∨ names entry.1.destConnectionName = "" then
      .error (400, "pipeline " ++ entry.1.name ++
        " references unknown connection name(s); aborting (some rows already inserted)", tables)
    else
      match pipelineError around tenantID tables names entry with
      | some error => .error (500, "create pipeline " ++ entry.1.name ++ ": " ++ error, tables)
      | none =>
        let created := { tables with
          pipelines := tables.pipelines ++ [pipelineRow around tenantID names entry] }
        match stagesError around tenantID entry with
        | some error => .error (500, "replace stages " ++ entry.1.name ++ ": " ++ error, created)
        | none =>
          let staged := replaceStages tenantID created (around.freshID (.pipeline entry.2))
            (stageRows around tenantID entry)
          importPipelines names rest (importRules around tenantID names entry staged)

/-- What an import answers, and the tables it leaves. -/
structure Answer where
  status : Nat
  error : String := ""
  tables : Tables
  deriving DecidableEq

/-- The names a bundle would take again. -/
def importConflict (bundle : Bundle) (tables : Tables) : Option String :=
  let connections := if around.connectionsUnlisted then [] else tables.listConnections tenantID
  let pipelines := if around.pipelinesUnlisted then [] else tables.listPipelines tenantID
  match bundle.connections.find? fun doc => connections.any fun row => row.name = doc.name with
  | some doc => some ("connection name already exists: " ++ doc.name)
  | none => (bundle.pipelines.find? fun doc => pipelines.any fun row => row.name = doc.name).map
      fun doc => "pipeline name already exists: " ++ doc.name

/-- The rows of a bundle go into the tables. -/
def applyBundle (bundle : Bundle) (tables : Tables) : Answer :=
  match importConnections around tenantID bundle.connections.zipIdx tables with
  | .error (error, after) => { status := 500, error, tables := after }
  | .ok connected =>
    match importPipelines around tenantID (nameToConnID around bundle.connections)
        bundle.pipelines.zipIdx (importContent around tenantID bundle connected) with
    | .error (status, error, after) => { status, error, tables := after }
    | .ok after => { status := 201, tables := after }

/-- `handleImportConfig`, with the caller's role if the request has one. -/
def handleImportConfig (role : Option Role) (body : Except String Bundle) (dryRun : Bool)
    (tables : Tables) : Answer :=
  if role.any fun held => !held.atLeast .admin then
    { status := 403, error := "admin role required for config import", tables }
  else
    match body with
    | .error error => { status := 400, error, tables }
    | .ok bundle =>
      if bundle.version ≠ 1 then
        { status := 400, error := "unsupported bundle version (expected 1)", tables }
      else
        match importConflict around tenantID bundle tables with
        | some conflict => { status := 409, error := conflict, tables }
        | none =>
          if dryRun then { status := 200, tables } else applyBundle around tenantID bundle tables

end Import

end Transfer

end MqConnector
