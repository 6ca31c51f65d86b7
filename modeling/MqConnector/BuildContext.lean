/-
This file models `pipeline.Build` down to the values it makes: the `BuildContext` it
is given, the stage of every row with its fields, and how `startPipeline` gathers
the context (`loadReferencedSchemas`, `loadWasmPluginsForBuild`).

What the six content stages do to a message stays a parameter, as in `Build`, but
here of the stage value and not of the rows. JSON decoding of a stage's
configuration and the loading of a protobuf descriptor are parameters too.
-/

import MqConnector.Database

namespace MqConnector

/-! ### The context and the stages -/

/-- The fields of the `*Config` structs of `stage.go`, zero where the text has none. -/
structure StageConfig where
  paths : List String := []
  outputFormat : String := ""
  schemaID : String := ""
  protoMessage : String := ""
  script : String := ""
  timeoutMs : Int := 0
  schemaType : String := ""
  content : String := ""
  plugin : String := ""
  deriving DecidableEq

/-- `pipeline.BuildContext`; a plugin is its compiled module. -/
structure BuildContext where
  pipeline : Pipeline
  stageRows : List StageRow
  transforms : List Transform
  routingRules : List RoutingRule
  schemas : String → Option Schema
  wasmPlugins : String → Option Bytes

/-- The stages `Build` makes, with their fields. -/
inductive BuiltStage
  | filter (paths : List String)
  | transform (rules : List Transform)
  | translate (target : String) (proto : Option (String × String))
  | route (rules : List RoutingRule)
  | script (script : String) (timeoutMs : Int)
  | validate (schemaType content protoMessage : String)
  | wasm (pluginName : String) (code : Bytes)
  deriving DecidableEq

/-- What `Build` calls: `json.Unmarshal` into the struct of a stage type, with what it filled in and
whether it succeeded, and `LoadProtoSchema`. -/
structure BuildTools where
  unmarshal : ContentStage → String → StageConfig × Bool
  loadProtoSchema : String → String → Except String Unit

def defaultScriptTimeoutMs : Int := 5000

namespace BuildTools

variable (tools : BuildTools)

/-- The configuration of a row; errors of the decoder are dropped. -/
def decode (kind : ContentStage) (row : StageRow) : StageConfig :=
  if row.stageConfig = "" then {} else (tools.unmarshal kind row.stageConfig).1

/-- The schema a validate row resolves to: its own, or the pipeline's. -/
def validateSchemaID (pipeline : Pipeline) (row : StageRow) : String :=
  if (tools.decode .validate row).schemaID = "" then pipeline.schemaID
  else (tools.decode .validate row).schemaID

/-- The protobuf schema of a translate stage. -/
def translateProto (context : BuildContext) (cfg : StageConfig) :
    Except String (Option (String × String)) :=
  if cfg.schemaID = "" then .ok none
  else
    match context.schemas cfg.schemaID with
    | none =>
      .error ("translate stage references schema \"" ++ cfg.schemaID ++ "\" but it is not loaded")
    | some schema =>
      if schema.schemaType.toLower = "protobuf" ∨ schema.schemaType.toLower = "proto" then
        match tools.loadProtoSchema schema.content cfg.protoMessage with
        | .error err => .error ("translate stage: load proto schema: " ++ err)
        | .ok _ => .ok (some (schema.content, cfg.protoMessage))
      else .error ("translate stage's schema \"" ++ cfg.schemaID ++ "\" is \"" ++ schema.schemaType ++
        "\", expected protobuf")

/-- The cases of `Build` besides route. -/
def buildContent (context : BuildContext) (row : StageRow) :
    ContentStage → Except String BuiltStage
  | .filter =>
    let cfg := tools.decode .filter row
    .ok (.filter (if cfg.paths = [] then context.pipeline.filterPaths else cfg.paths))
  | .transform => .ok (.transform context.transforms)
  | .translate =>
    let cfg := tools.decode .translate row
    let target := if cfg.outputFormat = "" then context.pipeline.outputFormat else cfg.outputFormat
    match tools.translateProto context cfg with
    | .error err => .error err
    | .ok proto => .ok (.translate target proto)
  | .script =>
    let cfg := tools.decode .script row
    .ok (.script cfg.script (if cfg.timeoutMs ≤ 0 then defaultScriptTimeoutMs else cfg.timeoutMs))
  | .validate =>
    let cfg := tools.decode .validate row
    let schemaID := tools.validateSchemaID context.pipeline row
    if schemaID = "" then .ok (.validate cfg.schemaType cfg.content cfg.protoMessage)
    else
      match context.schemas schemaID with
      | none => .error ("validate stage references schema \"" ++ schemaID ++ "\" but it is not loaded")
      | some schema => .ok (.validate schema.schemaType schema.content cfg.protoMessage)
  | .wasm =>
    let cfg := tools.decode .wasm row
    if cfg.plugin = "" then .error "wasm stage missing plugin name in stage_config"
    else
      match context.wasmPlugins cfg.plugin with
      | none => .error ("wasm stage references unknown plugin \"" ++ cfg.plugin ++ "\"")
      | some code => .ok (.wasm cfg.plugin code)

/-- The stage of a content row, when the schemas and plugins have loaded. -/
def buildLoaded (row : StageRow) (kind : ContentStage) :
    Option BuildContext → Except String BuiltStage
  | none => .error "load schemas and wasm plugins"
  | some context => tools.buildContent context row kind

theorem buildContent_ne_route (context : BuildContext) (row : StageRow) (kind : ContentStage)
    (rules : List RoutingRule) : tools.buildContent context row kind ≠ .ok (.route rules) := by
  intro built
  cases kind with
  | filter | transform | script => cases built
  | translate =>
    simp only [buildContent] at built
    split at built
    · cases built
    · cases built
  | validate =>
    simp only [buildContent] at built
    split at built
    · cases built
    · split at built
      · cases built
      · cases built
  | wasm =>
    simp only [buildContent] at built
    split at built
    · cases built
    · split at built
      · cases built
      · cases built

/-- The case of `Build` a row falls into. -/
def buildRow (context : BuildContext) (row : StageRow) : Except String BuiltStage :=
  match row.stageType with
  | "filter" => tools.buildContent context row .filter
  | "transform" => tools.buildContent context row .transform
  | "translate" => tools.buildContent context row .translate
  | "route" => .ok (.route context.routingRules)
  | "script" => tools.buildContent context row .script
  | "validate" => tools.buildContent context row .validate
  | "wasm" => tools.buildContent context row .wasm
  | other => .error ("unknown stage type \"" ++ other ++ "\"")

/-- The loop of `Build`. -/
def buildRows (context : BuildContext) : List StageRow → Except String (List BuiltStage)
  | [] => .ok []
  | row :: rest =>
    if row.enabled then
      match tools.buildRow context row with
      | .error err => .error err
      | .ok stage =>
        match buildRows context rest with
        | .error err => .error err
        | .ok stages => .ok (stage :: stages)
    else buildRows context rest

theorem buildRows_cons_ok {context : BuildContext} {row : StageRow} {rest : List StageRow}
    (enabled : row.enabled = true) {stages : List BuiltStage} :
    tools.buildRows context (row :: rest) = .ok stages ↔
      ∃ stage restStages, tools.buildRow context row = .ok stage ∧
        tools.buildRows context rest = .ok restStages ∧ stages = stage :: restStages := by
  rw [buildRows, if_pos enabled]
  constructor
  · intro built
    cases rowBuilt : tools.buildRow context row with
    | error err =>
      rw [rowBuilt] at built
      cases built
    | ok stage =>
      cases restBuilt : tools.buildRows context rest with
      | error err =>
        rw [rowBuilt, restBuilt] at built
        cases built
      | ok restStages =>
        rw [rowBuilt, restBuilt] at built
        exact ⟨stage, restStages, rfl, rfl, (Except.ok.inj built).symm⟩
  · rintro ⟨stage, restStages, rowBuilt, restBuilt, rfl⟩
    rw [rowBuilt, restBuilt]

/-- `Build`: the stages of the enabled rows. -/
def build (context : BuildContext) : Except String (List BuiltStage) :=
  tools.buildRows context context.stageRows

end BuildTools

/-! ### What startPipeline gives to Build -/

/-- The schemas and the plugins of the database; `compiled` is absent for a blob `CompileWasm`
refuses. -/
structure StageTables where
  schemas : String → Option Schema
  plugins : String → String → Option Bytes
  compiled : Bytes → Option Bytes
  wasmRuntime : Bool := true

namespace StageTables

variable (tables : StageTables) (tools : BuildTools)

/-- The schemas `loadReferencedSchemas` looks for: the pipeline's, and those of its validate
rows, disabled ones included. -/
def wantedSchemas (pipeline : Pipeline) (rows : List StageRow) : List String :=
  (pipeline.schemaID :: rows.filterMap fun row =>
    if row.stageType = "validate" ∧ row.stageConfig ≠ "" ∧
      (tools.unmarshal .validate row.stageConfig).2 = true then
        some (tools.unmarshal .validate row.stageConfig).1.schemaID
    else none).filter (· ≠ "")

/-- `loadReferencedSchemas`; nothing when a schema is missing or belongs to another tenant. -/
def loadReferencedSchemas (pipeline : Pipeline) (rows : List StageRow) :
    Option (String → Option Schema) :=
  if ∀ id ∈ wantedSchemas tools pipeline rows, ∃ schema ∈ tables.schemas id,
      pipeline.tenantID = "" ∨ schema.tenantID = "" ∨ schema.tenantID = pipeline.tenantID then
    some fun id => if id ∈ wantedSchemas tools pipeline rows then tables.schemas id else none
  else none

/-- The plugins `loadWasmPluginsForBuild` looks for. -/
def wantedPlugins (rows : List StageRow) : List String :=
  (rows.filterMap fun row =>
    if row.enabled = true ∧ row.stageType = "wasm" then
      some (tools.decode .wasm row).plugin
    else none).filter (· ≠ "")

def plugin (pipeline : Pipeline) (name : String) : Option Bytes :=
  (tables.plugins pipeline.tenantID name).bind tables.compiled

/-- `loadWasmPluginsForBuild`; nothing when a plugin is missing, does not compile, or there is no
runtime. -/
def loadWasmPluginsForBuild (pipeline : Pipeline) (rows : List StageRow) :
    Option (String → Option Bytes) :=
  if wantedPlugins tools rows = [] then some fun _ => none
  else if tables.wasmRuntime = true ∧ ∀ name ∈ wantedPlugins tools rows,
      (tables.plugin pipeline name).isSome = true then
    some fun name =>
      if name ∈ wantedPlugins tools rows then tables.plugin pipeline name else none
  else none

/-- The context `startPipeline` builds from, if the schemas and plugins load. -/
def liveContext (rows : Rows) : Option BuildContext :=
  match tables.loadReferencedSchemas tools rows.pipeline rows.stages,
    tables.loadWasmPluginsForBuild tools rows.pipeline rows.stages with
  | some schemas, some wasmPlugins =>
    some { pipeline := rows.pipeline, stageRows := rows.stages, transforms := rows.transforms
           routingRules := rows.routingRules, schemas, wasmPlugins }
  | _, _ => none

end StageTables

/-! ### The executor runs these stages -/

/-- What the stages do to a message. -/
structure StageSemantics (World Document : Type) where
  run : BuiltStage → World → Bytes → Format → Except String StageOutput
  reader : RouteReader Document
  silent : ∀ stage world message format output,
    run stage world message format = .ok output → output.result = none

variable {World Document : Type}

/-- The name that a stage fails under. -/
def BuiltStage.name : BuiltStage → String
  | .filter _ => "filter"
  | .transform _ => "transform"
  | .translate _ _ => "translate"
  | .route _ => "route"
  | .script _ _ => "script"
  | .validate _ _ _ => "validate"
  | .wasm pluginName _ => if pluginName = "" then "wasm" else "wasm:" ++ pluginName

def StageSemantics.contentStage (semantics : StageSemantics World Document) (stage : BuiltStage) :
    Stage World where
  name := stage.name
  execute := semantics.run stage

/-- What a built stage does with a message. -/
def StageSemantics.stage (semantics : StageSemantics World Document) : BuiltStage → Stage World
  | .route rules => routeStage semantics.reader rules
  | content => semantics.contentStage content

theorem exists_of_map_eq_ok {Error First Second : Type} {change : First → Second}
    {answer : Except Error First} {changed : Second} (mapped : answer.map change = .ok changed) :
    ∃ value, answer = .ok value ∧ change value = changed := by
  cases answer with
  | error err => cases mapped
  | ok value => exact ⟨value, rfl, Except.ok.inj mapped⟩

namespace StageTables

variable (tables : StageTables) (tools : BuildTools) (semantics : StageSemantics World Document)

/-- The content stages of a pipeline whose schemas and plugins load. -/
def builder : StageBuilder World Document where
  make kind rows row :=
    (tools.buildLoaded row kind (tables.liveContext tools rows)).map semantics.contentStage
  reader := semantics.reader
  silent kind rows row stage made := by
    obtain ⟨built, -, rfl⟩ := exists_of_map_eq_ok made
    intro world message format output result executed named
    rw [semantics.silent built world message format output executed] at named
    cases named

/-- `startPipeline`: the schemas and plugins load, and the rest is accepted. -/
def startPipeline (payloadHash : Bytes → String) (store : Store) (pipeline : Pipeline) :
    Option (Executor World) :=
  if (tables.liveContext tools (store.gather pipeline)).isSome then
    Store.startPipeline (tables.builder tools semantics) payloadHash store pipeline
  else none

variable {tables tools semantics} {rows : Rows} {context : BuildContext}

theorem liveContext_eq (loaded : tables.liveContext tools rows = some context) :
    context.pipeline = rows.pipeline ∧ context.stageRows = rows.stages ∧
      context.transforms = rows.transforms ∧ context.routingRules = rows.routingRules := by
  unfold liveContext at loaded
  split at loaded
  · cases loaded
    exact ⟨rfl, rfl, rfl, rfl⟩
  · cases loaded

/-- The cases of `Build`, with what they make left open. -/
def stageCase {Made : Type} (content : ContentStage → Except String Made) (route : Made) :
    String → Except String Made
  | "filter" => content .filter
  | "transform" => content .transform
  | "translate" => content .translate
  | "route" => .ok route
  | "script" => content .script
  | "validate" => content .validate
  | "wasm" => content .wasm
  | other => .error ("unknown stage type \"" ++ other ++ "\"")

theorem stageCase_map {Made Other : Type} (content : ContentStage → Except String Made)
    (route : Made) (change : Made → Other) (stageType : String) :
    (stageCase content route stageType).map change =
      stageCase (fun kind => (content kind).map change) (change route) stageType := by
  unfold stageCase
  split
  · rfl
  · rfl
  · rfl
  · rfl
  · rfl
  · rfl
  · rfl
  · rfl

theorem buildStage_builder (loaded : tables.liveContext tools rows = some context)
    (row : StageRow) :
    (tables.builder tools semantics).buildStage rows row =
      (tools.buildRow context row).map semantics.stage := by
  have made : (fun kind => (tables.builder tools semantics).make kind rows row) =
      fun kind => (tools.buildContent context row kind).map semantics.stage := by
    funext kind
    show (tools.buildLoaded row kind (tables.liveContext tools rows)).map semantics.contentStage = _
    rw [loaded, BuildTools.buildLoaded]
    -- what a content row makes is not a route stage
    have content : ∀ built, tools.buildContent context row kind = .ok built →
        semantics.contentStage built = semantics.stage built := by
      intro built ok
      cases built with
      | route rules => exact absurd ok (tools.buildContent_ne_route context row kind rules)
      | _ => rfl
    cases answer : tools.buildContent context row kind with
    | error err => rfl
    | ok built => exact congrArg Except.ok (content built answer)
  calc (tables.builder tools semantics).buildStage rows row
      = stageCase (fun kind => (tables.builder tools semantics).make kind rows row)
          (semantics.stage (.route rows.routingRules)) row.stageType := rfl
    _ = stageCase (fun kind => (tools.buildContent context row kind).map semantics.stage)
          (semantics.stage (.route context.routingRules)) row.stageType := by
        rw [made, (liveContext_eq loaded).2.2.2]
    _ = (stageCase (tools.buildContent context row) (.route context.routingRules)
          row.stageType).map semantics.stage :=
        (stageCase_map _ _ semantics.stage row.stageType).symm
    _ = (tools.buildRow context row).map semantics.stage := rfl

theorem build_builder (loaded : tables.liveContext tools rows = some context) :
    (tables.builder tools semantics).build rows =
      (tools.build context).map (List.map semantics.stage) := by
  unfold StageBuilder.build BuildTools.build
  rw [(liveContext_eq loaded).2.1]
  induction rows.stages with
  | nil => rfl
  | cons row rest hypothesis =>
    rw [StageBuilder.buildFrom, BuildTools.buildRows]
    split
    · rw [buildStage_builder loaded, hypothesis]
      cases tools.buildRow context row with
      | error err => rfl
      | ok stage =>
        cases tools.buildRows context rest with
        | error err => rfl
        | ok stages => rfl
    · exact hypothesis

end StageTables

end MqConnector
