/-
This file asks whether the schemas that `loadReferencedSchemas` loads are those that `Build`
looks up.

The references of a pipeline are computed twice. Both read the pipeline's own schema and the
validate rows; the loader leaves out a row whose configuration does not decode, and the
translate rows, and takes in the rows that are disabled.
-/

import MqConnector.BuildContext

namespace MqConnector

open BuildTools StageTables

section Preload

variable {tables : StageTables} {tools : BuildTools} {pipeline : Pipeline} {rows : List StageRow}

/-! ### References -/

/-- The schema that the configuration of a row names. -/
def configSchema (tools : BuildTools) (row : StageRow) : String :=
  if row.stageType = "validate" then (tools.decode .validate row).schemaID
  else if row.stageType = "translate" then (tools.decode .translate row).schemaID
  else ""

/-- The schemas that a pipeline and its validate and translate rows refer to. -/
def referencedSchemas (tools : BuildTools) (pipeline : Pipeline) (rows : List StageRow) : List String :=
  (pipeline.schemaID :: rows.map (configSchema tools)).filter (· ≠ "")

/-- A schema that a pipeline may use: of its tenant, or one of them has none. -/
def SchemaFits (tables : StageTables) (pipeline : Pipeline) (id : String) : Prop :=
  ∃ schema ∈ tables.schemas id,
    pipeline.tenantID = "" ∨ schema.tenantID = "" ∨ schema.tenantID = pipeline.tenantID

/-- The schema that the loader reads from a row: a validate row whose configuration decodes. -/
def loadedRow (tools : BuildTools) (row : StageRow) : Option String :=
  if row.stageType = "validate" ∧ row.stageConfig ≠ "" ∧ (tools.unmarshal .validate row.stageConfig).2 = true then
    some (tools.unmarshal .validate row.stageConfig).1.schemaID
  else none

theorem mem_wantedSchemas {id : String} :
    id ∈ wantedSchemas tools pipeline rows ↔
      id ≠ "" ∧ (id = pipeline.schemaID ∨ ∃ row ∈ rows, loadedRow tools row = some id) := by
  rw [wantedSchemas, List.mem_filter, List.mem_cons, List.mem_filterMap, decide_eq_true_iff, and_comm]
  rfl

theorem configSchema_of_loadedRow {row : StageRow} {id : String} (loaded : loadedRow tools row = some id) :
    configSchema tools row = id := by
  rw [loadedRow] at loaded
  split at loaded
  case isFalse => cases loaded
  case isTrue holds =>
    obtain ⟨validate, config, -⟩ := holds
    rw [configSchema, if_pos validate, BuildTools.decode, if_neg config]
    exact Option.some.inj loaded

theorem wantedSchemas_subset : wantedSchemas tools pipeline rows ⊆ referencedSchemas tools pipeline rows := by
  intro id wanted
  obtain ⟨named, own | ⟨row, member, loaded⟩⟩ := mem_wantedSchemas.mp wanted
  · exact List.mem_filter.mpr ⟨own ▸ List.mem_cons_self, decide_eq_true named⟩
  · refine List.mem_filter.mpr ⟨List.mem_cons_of_mem _ ?_, decide_eq_true named⟩
    exact List.mem_map.mpr ⟨row, member, configSchema_of_loadedRow loaded⟩

/-! ### The loader -/

theorem loadReferencedSchemas_eq_some {schemas : String → Option Schema} :
    tables.loadReferencedSchemas tools pipeline rows = some schemas ↔
      (∀ id ∈ wantedSchemas tools pipeline rows, SchemaFits tables pipeline id) ∧
        schemas = fun id => if id ∈ wantedSchemas tools pipeline rows then tables.schemas id else none := by
  rw [StageTables.loadReferencedSchemas]
  split
  case isTrue fits => exact ⟨fun same => ⟨fits, (Option.some.inj same).symm⟩, fun both => congrArg some both.2.symm⟩
  case isFalse unfit => exact ⟨nofun, fun both => absurd both.1 unfit⟩

/-! ### Schemas that are not loaded -/

/-- The error of `Build` for a schema that it does not find. -/
def NotLoaded (err : String) : Prop :=
  ∃ id, err = "validate stage references schema \"" ++ id ++ "\" but it is not loaded" ∨
    err = "translate stage references schema \"" ++ id ++ "\" but it is not loaded"

theorem NotLoaded.start {err : String} (notLoaded : NotLoaded err) :
    err.toList.take 16 = ['v', 'a', 'l', 'i', 'd', 'a', 't', 'e', ' ', 's', 't', 'a', 'g', 'e', ' ', 'r'] ∨
      err.toList.take 17 = ['t', 'r', 'a', 'n', 's', 'l', 'a', 't', 'e', ' ', 's', 't', 'a', 'g', 'e', ' ', 'r'] := by
  obtain ⟨id, rfl | rfl⟩ := notLoaded
  · left
    rw [String.toList_append, String.toList_append, List.append_assoc, String.toList_ofList]
    rfl
  · right
    rw [String.toList_append, String.toList_append, List.append_assoc, String.toList_ofList]
    rfl

section Rows

variable {context : BuildContext} {row : StageRow} {err : String}

theorem translateProto_notLoaded {cfg : StageConfig} (failed : tools.translateProto context cfg = .error err)
    (notLoaded : NotLoaded err) : cfg.schemaID ≠ "" ∧ context.schemas cfg.schemaID = none := by
  have start := notLoaded.start
  rw [translateProto] at failed
  split at failed
  case isTrue => cases failed
  case isFalse named =>
    split at failed
    case h_1 missing => exact ⟨named, missing⟩
    case h_2 schema found =>
      split at failed
      case isTrue =>
        split at failed
        case h_1 reason _ =>
          obtain rfl := Except.error.inj failed
          rw [String.toList_append, String.toList_ofList] at start
          exact absurd start (by simp)
        case h_2 => cases failed
      case isFalse =>
        obtain rfl := Except.error.inj failed
        simp only [String.toList_append, List.append_assoc] at start
        rw [String.toList_ofList] at start
        exact absurd start (by simp)

theorem buildRow_notLoaded (failed : tools.buildRow context row = .error err) (notLoaded : NotLoaded err) :
    (row.stageType = "validate" ∧ tools.validateSchemaID context.pipeline row ≠ "" ∧
      context.schemas (tools.validateSchemaID context.pipeline row) = none) ∨
    (row.stageType = "translate" ∧ configSchema tools row ≠ "" ∧
      context.schemas (configSchema tools row) = none) := by
  have start := notLoaded.start
  rw [BuildTools.buildRow.eq_def] at failed
  split at failed
  case h_3 translate =>
    right
    have config : configSchema tools row = (tools.decode .translate row).schemaID := by
      rw [configSchema, if_neg (by rw [translate]; decide), if_pos translate]
    rw [BuildTools.buildContent] at failed
    split at failed
    case h_1 reason proto =>
      obtain rfl := Except.error.inj failed
      rw [config]
      exact ⟨translate, translateProto_notLoaded proto notLoaded⟩
    case h_2 => cases failed
  case h_6 validate =>
    left
    rw [BuildTools.buildContent] at failed
    split at failed
    case isTrue => cases failed
    case isFalse named =>
      split at failed
      case h_1 missing => exact ⟨validate, named, missing⟩
      case h_2 => cases failed
  case h_7 =>
    rw [BuildTools.buildContent] at failed
    split at failed
    · obtain rfl := Except.error.inj failed
      rw [String.toList_ofList] at start
      exact absurd start (by decide)
    · split at failed
      · obtain rfl := Except.error.inj failed
        simp only [String.toList_append, List.append_assoc] at start
        rw [String.toList_ofList] at start
        exact absurd start (by simp)
      · cases failed
  case h_8 =>
    obtain rfl := Except.error.inj failed
    simp only [String.toList_append, List.append_assoc] at start
    rw [String.toList_ofList] at start
    exact absurd start (by simp)
  case h_4 => cases failed
  all_goals
    rw [BuildTools.buildContent] at failed
    cases failed

end Rows

theorem buildRows_error {context : BuildContext} {listed : List StageRow} {err : String}
    (failed : tools.buildRows context listed = .error err) : ∃ before row after, listed = before ++ row :: after ∧
      row.enabled = true ∧ (∃ stages, tools.buildRows context before = .ok stages) ∧
      tools.buildRow context row = .error err := by
  induction listed with
  | nil => cases failed
  | cons row rest hypothesis =>
    rw [BuildTools.buildRows] at failed
    split at failed
    case isFalse disabled =>
      obtain ⟨before, other, after, rfl, enabled, ⟨stages, built⟩, broken⟩ := hypothesis failed
      refine ⟨row :: before, other, after, rfl, enabled, ⟨stages, ?_⟩, broken⟩
      rw [BuildTools.buildRows, if_neg disabled, built]
    case isTrue enabled =>
      split at failed
      case h_1 reason made =>
        obtain rfl := Except.error.inj failed
        exact ⟨[], row, rest, rfl, enabled, ⟨[], rfl⟩, made⟩
      case h_2 stage made =>
        split at failed
        case h_1 reason others =>
          obtain rfl := Except.error.inj failed
          obtain ⟨before, other, after, rfl, more, ⟨stages, built⟩, broken⟩ := hypothesis others
          exact ⟨row :: before, other, after, rfl, more,
            ⟨stage :: stages, (tools.buildRows_cons_ok enabled).mpr ⟨stage, stages, made, built, rfl⟩⟩, broken⟩
        case h_2 => cases failed

theorem buildRows_of_broken {context : BuildContext} {before after : List StageRow} {row : StageRow}
    {err : String}
    {stages : List BuiltStage} (built : tools.buildRows context before = .ok stages) (enabled : row.enabled = true)
    (broken : tools.buildRow context row = .error err) :
    tools.buildRows context (before ++ row :: after) = .error err := by
  induction before generalizing stages with
  | nil => rw [List.nil_append, BuildTools.buildRows, if_pos enabled, broken]
  | cons first rest hypothesis =>
    rw [List.cons_append, BuildTools.buildRows]
    by_cases active : first.enabled = true
    · obtain ⟨stage, others, made, further, -⟩ := (tools.buildRows_cons_ok active).mp built
      rw [if_pos active, made, hypothesis further]
    · rw [BuildTools.buildRows, if_neg active] at built
      rw [if_neg active]
      exact hypothesis built

/-- An enabled row whose schema the loader does not look for: a translate row, or a validate row whose configuration
does not decode. -/
structure Uncovered (tools : BuildTools) (pipeline : Pipeline) (rows : List StageRow) (row : StageRow) : Prop where
  enabled : row.enabled = true
  named : configSchema tools row ≠ ""
  absent : configSchema tools row ∉ wantedSchemas tools pipeline rows
  kind : row.stageType = "translate" ∨
    (row.stageType = "validate" ∧ (tools.unmarshal .validate row.stageConfig).2 = false)

/-- The schemas of the loader, where it succeeds. -/
def StageTables.preloaded (tables : StageTables) (tools : BuildTools) (pipeline : Pipeline) (rows : List StageRow)
    (id : String) : Option Schema :=
  if id ∈ wantedSchemas tools pipeline rows then tables.schemas id else none

theorem preloaded_eq_none (fits : ∀ id ∈ wantedSchemas tools pipeline rows, SchemaFits tables pipeline id)
    {id : String} :
    tables.preloaded tools pipeline rows id = none ↔ id ∉ wantedSchemas tools pipeline rows := by
  rw [StageTables.preloaded]
  split
  case isTrue wanted =>
    obtain ⟨schema, stored, -⟩ := fits id wanted
    rw [Option.mem_def.mp stored]
    exact iff_of_false nofun (not_not_intro wanted)
  case isFalse absent => exact iff_of_true rfl absent

/-- What `Build` gets with these schemas and plugins. -/
def Rows.context (rows : Rows) (schemas : String → Option Schema) (wasmPlugins : String → Option Bytes) : BuildContext where
  pipeline := rows.pipeline
  stageRows := rows.stages
  transforms := rows.transforms
  routingRules := rows.routingRules
  schemas := schemas
  wasmPlugins := wasmPlugins

section Found

variable {rows : Rows} {plugins : String → Option Bytes}

theorem uncovered_of_notLoaded
    (fits : ∀ id ∈ wantedSchemas tools rows.pipeline rows.stages, SchemaFits tables rows.pipeline id)
    {row : StageRow} (member : row ∈ rows.stages) (enabled : row.enabled = true) {err : String}
    (broken : tools.buildRow (rows.context (tables.preloaded tools rows.pipeline rows.stages) plugins) row = .error err)
    (notLoaded : NotLoaded err) : Uncovered tools rows.pipeline rows.stages row := by
  rcases buildRow_notLoaded broken notLoaded with ⟨validate, named, missing⟩ | ⟨translate, named, missing⟩
  · have absent := (preloaded_eq_none fits).mp missing
    have config : configSchema tools row = (tools.decode .validate row).schemaID := if_pos validate
    change validateSchemaID tools rows.pipeline row ∉ _ at absent
    change validateSchemaID tools rows.pipeline row ≠ _ at named
    rw [validateSchemaID] at named absent
    split at absent
    case isTrue =>
      rw [if_pos (by assumption)] at named
      exact absurd (mem_wantedSchemas.mpr ⟨named, Or.inl rfl⟩) absent
    case isFalse own =>
      rw [← config] at own absent
      refine ⟨enabled, own, absent, Or.inr ⟨validate, Bool.eq_false_iff.mpr fun decodes => absent ?_⟩⟩
      have nonempty : row.stageConfig ≠ "" := by
        intro empty
        rw [config, BuildTools.decode, if_pos empty] at own
        exact own rfl
      refine mem_wantedSchemas.mpr ⟨own, Or.inr ⟨row, member, ?_⟩⟩
      rw [loadedRow, if_pos ⟨validate, nonempty, decodes⟩, config, BuildTools.decode, if_neg nonempty]
  · exact ⟨enabled, named, (preloaded_eq_none fits).mp missing, Or.inl translate⟩

theorem notLoaded_of_uncovered {row : StageRow} (uncovered : Uncovered tools rows.pipeline rows.stages row) :
    ∃ err, tools.buildRow (rows.context (tables.preloaded tools rows.pipeline rows.stages) plugins) row = .error err ∧
      NotLoaded err := by
  have missing : tables.preloaded tools rows.pipeline rows.stages (configSchema tools row) = none :=
    if_neg uncovered.absent
  have named := uncovered.named
  rcases uncovered.kind with translate | ⟨validate, -⟩
  · have config : configSchema tools row = (tools.decode .translate row).schemaID := by
      rw [configSchema, if_neg (by rw [translate]; decide), if_pos translate]
    rw [config] at missing named
    refine ⟨_, ?_, (tools.decode .translate row).schemaID, .inr rfl⟩
    have content (context : BuildContext) : tools.buildRow context row = tools.buildContent context row .translate := by
      rw [BuildTools.buildRow.eq_def, translate]
      rfl
    have proto : tools.translateProto (rows.context (tables.preloaded tools rows.pipeline rows.stages) plugins)
        (tools.decode .translate row) = .error ("translate stage references schema \"" ++
          (tools.decode .translate row).schemaID ++ "\" but it is not loaded") := by
      rw [translateProto, if_neg named]
      dsimp only [Rows.context]
      rw [missing]
    rw [content, BuildTools.buildContent, proto]
  · have config : configSchema tools row = (tools.decode .validate row).schemaID := if_pos validate
    have resolved : validateSchemaID tools rows.pipeline row = configSchema tools row := by
      rw [validateSchemaID, ← config, if_neg named]
    refine ⟨_, ?_, configSchema tools row, .inl rfl⟩
    have content (context : BuildContext) : tools.buildRow context row = tools.buildContent context row .validate := by
      rw [BuildTools.buildRow.eq_def, validate]
      rfl
    rw [content, BuildTools.buildContent]
    simp only [Rows.context, resolved, named, missing, if_false]

/-- `Build` does not find a schema exactly at an uncovered row which the rows before it let it reach. -/
theorem notLoaded_iff
    (fits : ∀ id ∈ wantedSchemas tools rows.pipeline rows.stages, SchemaFits tables rows.pipeline id) :
    (∃ err, tools.build (rows.context (tables.preloaded tools rows.pipeline rows.stages) plugins) = .error err ∧
      NotLoaded err) ↔
    ∃ before row after, rows.stages = before ++ row :: after ∧ Uncovered tools rows.pipeline rows.stages row ∧
      ∃ stages, tools.buildRows (rows.context (tables.preloaded tools rows.pipeline rows.stages) plugins) before =
        .ok stages := by
  constructor
  · rintro ⟨err, failed, notLoaded⟩
    obtain ⟨before, row, after, split, enabled, built, broken⟩ := buildRows_error failed
    have member : row ∈ rows.stages := by
      have listed : (rows.context (tables.preloaded tools rows.pipeline rows.stages) plugins).stageRows = rows.stages := rfl
      rw [← listed, split]
      exact List.mem_append_right before List.mem_cons_self
    exact ⟨before, row, after, split, uncovered_of_notLoaded fits member enabled broken notLoaded, built⟩
  · rintro ⟨before, row, after, split, uncovered, stages, built⟩
    obtain ⟨err, broken, notLoaded⟩ : ∃ err, tools.buildRow
        (rows.context (tables.preloaded tools rows.pipeline rows.stages) plugins) row = .error err ∧ NotLoaded err :=
      notLoaded_of_uncovered uncovered
    refine ⟨err, ?_, notLoaded⟩
    have failed := @buildRows_of_broken _ _ _ after _ _ _ built uncovered.enabled broken
    rw [← split] at failed
    exact failed

end Found

/-! ### Disabled rows -/

section Disabled

variable {context other : BuildContext}

/-- A context with the same rows and more schemas; the list of the stage rows aside. -/
structure MoreSchemas (context other : BuildContext) : Prop where
  pipeline : context.pipeline = other.pipeline
  transforms : context.transforms = other.transforms
  routingRules : context.routingRules = other.routingRules
  wasmPlugins : context.wasmPlugins = other.wasmPlugins
  schemas : ∀ id schema, context.schemas id = some schema → other.schemas id = some schema

theorem translateProto_more (more : MoreSchemas context other) {cfg : StageConfig}
    {made : Option (String × String)}
    (built : tools.translateProto context cfg = .ok made) : tools.translateProto other cfg = .ok made := by
  rw [translateProto] at built ⊢
  split at built
  case isTrue none =>
    rw [if_pos none]
    exact built
  case isFalse named =>
    rw [if_neg named]
    split at built
    · cases built
    case h_2 schema found =>
      rw [more.schemas _ _ found]
      exact built

theorem buildContent_more (more : MoreSchemas context other) {kind : ContentStage} {row : StageRow}
    {stage : BuiltStage}
    (built : tools.buildContent context row kind = .ok stage) : tools.buildContent other row kind = .ok stage := by
  cases kind with
  | script => exact built
  | filter =>
    rw [BuildTools.buildContent, more.pipeline] at built
    exact built
  | transform =>
    rw [BuildTools.buildContent, more.transforms] at built
    exact built
  | wasm =>
    rw [BuildTools.buildContent, more.wasmPlugins] at built
    exact built
  | validate =>
    rw [BuildTools.buildContent, more.pipeline] at built
    rw [BuildTools.buildContent]
    split at built
    case isTrue none =>
      rw [if_pos none]
      exact built
    case isFalse named =>
      rw [if_neg named]
      split at built
      · cases built
      case h_2 schema found =>
        rw [more.schemas _ _ found]
        exact built
  | translate =>
    rw [BuildTools.buildContent, more.pipeline] at built
    rw [BuildTools.buildContent]
    split at built
    · cases built
    case h_2 made proto =>
      rw [translateProto_more more proto]
      exact built

theorem buildRow_more (more : MoreSchemas context other) {row : StageRow} {stage : BuiltStage}
    (built : tools.buildRow context row = .ok stage) : tools.buildRow other row = .ok stage := by
  rw [BuildTools.buildRow.eq_def] at built ⊢
  split at built
  case h_4 =>
    rw [more.routingRules] at built
    exact built
  case h_8 => cases built
  all_goals exact buildContent_more more built

theorem buildRows_more (more : MoreSchemas context other) {listed : List StageRow} {stages : List BuiltStage}
    (built : tools.buildRows context listed = .ok stages) : tools.buildRows other listed = .ok stages := by
  induction listed generalizing stages with
  | nil => exact built
  | cons row rest hypothesis =>
    by_cases enabled : row.enabled = true
    · obtain ⟨stage, others, made, further, rfl⟩ := (tools.buildRows_cons_ok enabled).mp built
      exact (tools.buildRows_cons_ok enabled).mpr
        ⟨stage, others, buildRow_more more made, hypothesis further, rfl⟩
    · rw [BuildTools.buildRows, if_neg enabled] at built ⊢
      exact hypothesis built

theorem buildRows_filter (listed : List StageRow) :
    tools.buildRows context (listed.filter (·.enabled)) = tools.buildRows context listed := by
  induction listed with
  | nil => rfl
  | cons row rest hypothesis =>
    by_cases enabled : row.enabled = true
    · rw [List.filter_cons_of_pos enabled, BuildTools.buildRows, BuildTools.buildRows, hypothesis]
    · rw [List.filter_cons_of_neg enabled, BuildTools.buildRows, if_neg enabled, hypothesis]

theorem wantedPlugins_filter (listed : List StageRow) :
    wantedPlugins tools (listed.filter (·.enabled)) = wantedPlugins tools listed := by
  rw [wantedPlugins, wantedPlugins, List.filterMap_filter]
  congr 2
  funext row
  cases row.enabled <;> simp

/-- The rows of a pipeline without its disabled stages. -/
def enabledRows (rows : Rows) : Rows :=
  { rows with stages := rows.stages.filter (·.enabled) }

/-- A pipeline that starts without its disabled rows starts with them if the schemas that they name fit.
-/
theorem starts_of_enabledRows {rows : Rows} {stages : List BuiltStage}
    (loaded : tables.liveContext tools (enabledRows rows) = some context) (built : tools.build context = .ok stages)
    (fits : ∀ row ∈ rows.stages, row.enabled = false → ∀ id, loadedRow tools row = some id → id ≠ "" →
      SchemaFits tables rows.pipeline id) :
    ∃ other, tables.liveContext tools rows = some other ∧ tools.build other = .ok stages := by
  rw [StageTables.liveContext] at loaded
  split at loaded
  case h_2 => cases loaded
  case h_1 schemas plugins schemasLoaded pluginsLoaded =>
    obtain rfl := Option.some.inj loaded
    obtain ⟨fit, rfl⟩ := loadReferencedSchemas_eq_some.mp schemasLoaded
    have every : ∀ id ∈ wantedSchemas tools rows.pipeline rows.stages, SchemaFits tables rows.pipeline id := by
      intro id wanted
      obtain ⟨named, own | ⟨row, member, reads⟩⟩ := mem_wantedSchemas.mp wanted
      · exact fit id (mem_wantedSchemas.mpr ⟨named, Or.inl own⟩)
      · cases enabled : row.enabled with
        | false => exact fits row member enabled id reads named
        | true =>
          exact fit id (mem_wantedSchemas.mpr ⟨named, Or.inr ⟨row, List.mem_filter.mpr ⟨member, enabled⟩, reads⟩⟩)
    have schemas := loadReferencedSchemas_eq_some.mpr ⟨every, rfl⟩
    have same : tables.loadWasmPluginsForBuild tools rows.pipeline rows.stages = some plugins := by
      rw [← pluginsLoaded, StageTables.loadWasmPluginsForBuild, StageTables.loadWasmPluginsForBuild, enabledRows,
        wantedPlugins_filter]
    have live : tables.liveContext tools rows = some
        { pipeline := rows.pipeline, stageRows := rows.stages, transforms := rows.transforms
          routingRules := rows.routingRules, wasmPlugins := plugins
          schemas := fun id => if id ∈ wantedSchemas tools rows.pipeline rows.stages then tables.schemas id else none } := by
      rw [StageTables.liveContext, schemas, same]
    refine ⟨_, live, ?_⟩
    rw [BuildTools.build, enabledRows, buildRows_filter] at built
    show tools.buildRows _ rows.stages = _
    refine buildRows_more ?_ built
    refine ⟨rfl, rfl, rfl, rfl, fun id schema found => ?_⟩
    dsimp only at found
    split at found
    case isFalse => cases found
    case isTrue wanted =>
      obtain ⟨named, own | ⟨row, member, reads⟩⟩ := mem_wantedSchemas.mp wanted
      · exact (if_pos (mem_wantedSchemas.mpr ⟨named, Or.inl own⟩)).trans found
      · exact (if_pos (mem_wantedSchemas.mpr
          ⟨named, Or.inr ⟨row, (List.mem_filter.mp member).1, reads⟩⟩)).trans found

end Disabled

/-! ### All three parts -/

/-- The schemas that a pipeline refers to are stored for its tenant, those of translate rows as descriptors. -/
structure Referenced (tables : StageTables) (tools : BuildTools) (rows : Rows) : Prop where
  stored : ∀ id ∈ referencedSchemas tools rows.pipeline rows.stages,
    ∃ schema ∈ tables.schemas id, schema.tenantID = rows.pipeline.tenantID
  kind : ∀ row ∈ rows.stages, row.stageType = "translate" → ∀ schema ∈ tables.schemas (configSchema tools row),
    schema.schemaType.toLower = "protobuf" ∨ schema.schemaType.toLower = "proto"

/-- The loader and `Build` agree on the rows of a pipeline. -/
structure Preloads (tables : StageTables) (tools : BuildTools) (rows : Rows) : Prop where
  /-- What is stored is loaded, and `Build` finds it. -/
  covered : Referenced tables tools rows → ∃ schemas,
    tables.loadReferencedSchemas tools rows.pipeline rows.stages = some schemas ∧
    ∀ plugins err, tools.build (rows.context schemas plugins) = .error err → ¬ NotLoaded err
  /-- What is loaded is of the pipeline's tenant. -/
  own : ∀ schemas, tables.loadReferencedSchemas tools rows.pipeline rows.stages = some schemas →
    ∀ id schema, schemas id = some schema → schema.tenantID = rows.pipeline.tenantID
  /-- A pipeline that starts without its disabled rows starts with them. -/
  spared : ∀ context stages, tables.liveContext tools (enabledRows rows) = some context →
    tools.build context = .ok stages →
    ∃ other, tables.liveContext tools rows = some other ∧ tools.build other = .ok stages

/-- When they agree: every row that `Build` reaches is covered, tenants are set or both missing, and the validate rows
that are disabled name schemas that fit. -/
structure Preloadable (tables : StageTables) (tools : BuildTools) (rows : Rows) : Prop where
  covered : Referenced tables tools rows → ∀ before row after, rows.stages = before ++ row :: after →
    Uncovered tools rows.pipeline rows.stages row → ∀ plugins stages,
      tools.buildRows (rows.context (tables.preloaded tools rows.pipeline rows.stages) plugins) before ≠ .ok stages
  own : (∀ id ∈ wantedSchemas tools rows.pipeline rows.stages, SchemaFits tables rows.pipeline id) →
    ∀ id ∈ wantedSchemas tools rows.pipeline rows.stages, ∀ schema ∈ tables.schemas id,
      rows.pipeline.tenantID = "" ↔ schema.tenantID = ""
  spared : ∀ context stages, tables.liveContext tools (enabledRows rows) = some context →
    tools.build context = .ok stages → ∀ row ∈ rows.stages, row.enabled = false →
      ∀ id, loadedRow tools row = some id → id ≠ "" → SchemaFits tables rows.pipeline id

theorem fits_of_referenced {rows : Rows} (referenced : Referenced tables tools rows) :
    ∀ id ∈ wantedSchemas tools rows.pipeline rows.stages, SchemaFits tables rows.pipeline id := by
  intro id wanted
  obtain ⟨schema, found, tenant⟩ := referenced.stored id (wantedSchemas_subset wanted)
  exact ⟨schema, found, Or.inr (Or.inr tenant)⟩

/-- Nothing is found unloaded exactly if no uncovered row is reached. -/
theorem covered_iff {rows : Rows} (referenced : Referenced tables tools rows) :
    (∃ schemas, tables.loadReferencedSchemas tools rows.pipeline rows.stages = some schemas ∧
      ∀ plugins err, tools.build (rows.context schemas plugins) = .error err → ¬ NotLoaded err) ↔
    ∀ before row after, rows.stages = before ++ row :: after → Uncovered tools rows.pipeline rows.stages row →
      ∀ plugins stages,
        tools.buildRows (rows.context (tables.preloaded tools rows.pipeline rows.stages) plugins) before ≠
          .ok stages := by
  have fits := fits_of_referenced referenced
  constructor
  · rintro ⟨schemas, loaded, finds⟩ before row after split uncovered plugins stages built
    obtain ⟨-, rfl⟩ := loadReferencedSchemas_eq_some.mp loaded
    obtain ⟨err, failed, notLoaded⟩ := (notLoaded_iff fits).mpr ⟨before, row, after, split, uncovered, stages, built⟩
    exact finds plugins err failed notLoaded
  · intro reached
    refine ⟨_, loadReferencedSchemas_eq_some.mpr ⟨fits, rfl⟩, fun plugins err failed notLoaded => ?_⟩
    obtain ⟨before, row, after, split, uncovered, stages, built⟩ := (notLoaded_iff fits).mp ⟨err, failed, notLoaded⟩
    exact reached before row after split uncovered plugins stages built

/-- When each loaded schema is of the pipeline's tenant. -/
theorem own_iff {rows : Rows}
    (fits : ∀ id ∈ wantedSchemas tools rows.pipeline rows.stages, SchemaFits tables rows.pipeline id) :
    (∀ id schema, tables.preloaded tools rows.pipeline rows.stages id = some schema →
      schema.tenantID = rows.pipeline.tenantID) ↔
    ∀ id ∈ wantedSchemas tools rows.pipeline rows.stages, ∀ schema ∈ tables.schemas id,
      rows.pipeline.tenantID = "" ↔ schema.tenantID = "" := by
  constructor
  · intro own id wanted schema stored
    rw [own id schema ((if_pos wanted).trans stored)]
  · intro both id schema found
    rw [StageTables.preloaded] at found
    split at found
    case isTrue wanted =>
      obtain ⟨other, stored, fit⟩ := fits id wanted
      obtain rfl := Option.some.inj (found.symm.trans (Option.mem_def.mp stored))
      have alike := both id wanted schema stored
      rcases fit with none | none | same
      · rw [none, alike.mp none]
      · rw [none, alike.mpr none]
      · exact same
    case isFalse => cases found

/-- The schemas that `Build` looks up are loaded, they are of the pipeline's tenant and disabled rows keep no pipeline
from starting, exactly where the rows that `Build` reaches are covered, tenants are set or both missing and the
schemas of disabled validate rows fit. -/
theorem schema_preloading (tables : StageTables) (tools : BuildTools) (rows : Rows) :
    Preloads tables tools rows ↔ Preloadable tables tools rows := by
  constructor
  · intro preloads
    constructor
    case covered => exact fun referenced => (covered_iff referenced).mp (preloads.covered referenced)
    case own => exact fun fits => (own_iff fits).mp (preloads.own _ (loadReferencedSchemas_eq_some.mpr ⟨fits, rfl⟩))
    case spared =>
      intro context stages loaded built row member _ id reads named
      obtain ⟨other, live, -⟩ := preloads.spared context stages loaded built
      have wanted : id ∈ wantedSchemas tools rows.pipeline rows.stages :=
        mem_wantedSchemas.mpr ⟨named, Or.inr ⟨row, member, reads⟩⟩
      rw [StageTables.liveContext] at live
      split at live
      case h_1 schemas plugins schemasLoaded _ => exact (loadReferencedSchemas_eq_some.mp schemasLoaded).1 id wanted
      case h_2 => cases live
  · intro condition
    constructor
    case covered => exact fun referenced => (covered_iff referenced).mpr (condition.covered referenced)
    case own =>
      intro schemas loaded
      obtain ⟨fits, rfl⟩ := loadReferencedSchemas_eq_some.mp loaded
      exact (own_iff fits).mpr (condition.own fits)
    case spared =>
      intro context stages loaded built
      exact starts_of_enabledRows loaded built (condition.spared context stages loaded built)

end Preload

/-! ### A translate row, and a disabled one -/

/-- The configuration that names the schema `s`. -/
def namesSchema : String := "\x7b\"schema_id\":\"s\"\x7d"

def schemaTools : BuildTools where
  unmarshal _ text := if text = namesSchema then ({ schemaID := "s" }, true) else ({}, false)
  loadProtoSchema _ _ := .ok ()

/-- The schema `s` of a tenant, if there is one. -/
def schemaTables (tenant : Option String) : StageTables where
  schemas id := if id = "s" then tenant.map fun tenantID =>
    { id := "s", tenantID := tenantID, name := "s", schemaType := "protobuf" } else none
  plugins _ _ := none
  compiled _ := none

def schemaRow (stageType : String) (enabled : Bool) : StageRow where
  tenantID := "t"
  pipelineID := "p"
  stageType := stageType
  stageConfig := namesSchema
  enabled := enabled

/-- A pipeline whose stages name the schema `s`. -/
def schemaRows (tenantID : String) (stages : List StageRow) : Rows where
  pipeline := { id := "p", tenantID := tenantID, sourceID := "in", destinationID := "out" }
  stages := stages

/-- The schema of a translate row is there and not loaded, a pipeline without a tenant is given a tenant's schema, and
a disabled validate row keeps a pipeline from starting. -/
theorem preloading_misses :
    ¬ Preloads (schemaTables (some "t")) schemaTools (schemaRows "t" [schemaRow "translate" true]) ∧
    ¬ Preloads (schemaTables (some "t")) schemaTools (schemaRows "" [schemaRow "validate" true]) ∧
    ¬ Preloads (schemaTables none) schemaTools (schemaRows "t" [schemaRow "validate" false]) := by
  refine ⟨fun preloads => ?_, fun preloads => ?_, fun preloads => ?_⟩
  · have referenced : Referenced (schemaTables (some "t")) schemaTools (schemaRows "t" [schemaRow "translate" true]) := by
      constructor
      case stored =>
        intro id named
        obtain rfl : id = "s" := by simpa using show id ∈ ["s"] from named
        exact ⟨_, rfl, rfl⟩
      case kind =>
        intro row member _ schema stored
        obtain rfl : row = schemaRow "translate" true := List.mem_singleton.mp member
        obtain rfl := Option.some.inj stored
        exact .inl (by decide +kernel)
    obtain ⟨schemas, loaded, finds⟩ := preloads.covered referenced
    obtain ⟨-, rfl⟩ := loadReferencedSchemas_eq_some.mp loaded
    exact finds (fun _ => none) _ rfl ⟨"s", .inr rfl⟩
  · have same := preloads.own _ rfl "s" _ rfl
    exact absurd same (by decide)
  · obtain ⟨other, live, -⟩ := preloads.spared _ [] rfl rfl
    cases live

/-- With a validate row and a disabled one, both of a schema of the tenant, the loader and `Build` agree. -/
theorem schema_preloading_validate : Preloads (schemaTables (some "t")) schemaTools
    (schemaRows "t" [schemaRow "validate" true, schemaRow "validate" false]) := by
  have wanted : wantedSchemas schemaTools (schemaRows "t" [schemaRow "validate" true, schemaRow "validate" false]).pipeline
      (schemaRows "t" [schemaRow "validate" true, schemaRow "validate" false]).stages = ["s", "s"] := by
    decide
  have fits : ∀ id ∈ ["s", "s"], SchemaFits (schemaTables (some "t"))
      (schemaRows "t" [schemaRow "validate" true, schemaRow "validate" false]).pipeline id := by
    intro id named
    obtain rfl : id = "s" := by simpa using named
    exact ⟨_, rfl, .inr (.inr rfl)⟩
  refine (schema_preloading _ _ _).mpr ⟨?_, ?_, ?_⟩
  · intro _ before row after split uncovered
    have member : row ∈ [schemaRow "validate" true, schemaRow "validate" false] := by
      rw [show [schemaRow "validate" true, schemaRow "validate" false] = _ from split]
      exact List.mem_append_right before List.mem_cons_self
    have absent := uncovered.absent
    rw [wanted] at absent
    simp only [List.mem_cons, List.not_mem_nil, or_false] at member
    rcases member with rfl | rfl
    · exact absurd (by decide) absent
    · exact absurd uncovered.enabled (by decide)
  · intro _ id named schema stored
    rw [wanted] at named
    obtain rfl : id = "s" := by simpa using named
    obtain rfl := Option.some.inj stored
    decide
  · intro _ _ _ _ row member _ id reads named
    exact fits id (wanted ▸ mem_wantedSchemas.mpr ⟨named, .inr ⟨row, member, reads⟩⟩)

end MqConnector
