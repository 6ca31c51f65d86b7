/-
This file models `pipeline/replay.go` and asks whether a replay does what the live
pipeline, the executor of `startPipeline`, does.

`Replay` gathers what it builds from in its own way: it drops the errors of its
reads, loads only the pipeline's own schema and no plugin, and sends to the default
destination whatever the stages say about routes.

The two drains, over Kafka partitions and over a JetStream subscription, differ
only in how they find the messages of the window. The window is a list of messages
here, each with the world its stages run in.
-/

import MqConnector.BuildContext
import MqConnector.Delivery

namespace MqConnector

variable {World Document : Type}

/-! ### Replay -/

/-- Whether the reads of `replayKafka` and `replayJetStream` succeed. -/
structure ReplayReads where
  stages : Bool := true
  transforms : Bool := true
  routingRules : Bool := true
  schema : Bool := true
  deriving DecidableEq

/-- `loadSchemasForBuild`: the pipeline's schema, if it names one that can be read. -/
def StageTables.loadSchemasForBuild (tables : StageTables) (pipeline : Pipeline) (answered : Bool)
    (id : String) : Option Schema :=
  if pipeline.schemaID ≠ "" ∧ answered = true ∧ id = pipeline.schemaID then tables.schemas id
  else none

/-- The context a replay builds from. A read that fails gives no rows. -/
def replayContext (tables : StageTables) (store : Store) (pipeline : Pipeline)
    (reads : ReplayReads) : BuildContext where
  pipeline := pipeline
  stageRows := if reads.stages then store.listStages pipeline.id else []
  transforms := if reads.transforms then store.listTransforms pipeline.id else []
  routingRules := if reads.routingRules then store.listRoutingRules pipeline.id else []
  schemas := tables.loadSchemasForBuild pipeline reads.schema
  wasmPlugins := fun _ => none

/-- `replaySend` through the pool: under a key that is there, `Get` does not look at the
configuration. -/
def replayConnector (pooled : String → Option Config) (config : Config) : Config :=
  (pooled ("replay-" ++ config.topic ++ config.queueName)).getD config

/-- `ReplayResult` without its duration, and what was sent. -/
structure ReplayRun where
  messagesRead : Nat := 0
  messagesSent : Nat := 0
  messagesDropped : Nat := 0
  sends : List (Config × Bytes) := []
  deriving DecidableEq

/-- The loop over the window, with every send succeeding. -/
def replayMessages (semantics : StageSemantics World Document) (stages : List BuiltStage)
    (connector : Config) (result : ReplayRun) : List (World × Bytes) → ReplayRun
  | [] => result
  | (world, body) :: rest =>
    let counted := { result with messagesRead := result.messagesRead + 1 }
    match runStages world (stages.map semantics.stage) body with
    | .error _ =>
      replayMessages semantics stages connector
        { counted with messagesDropped := counted.messagesDropped + 1 } rest
    | .ok outcome =>
      replayMessages semantics stages connector
        { counted with
          messagesSent := counted.messagesSent + 1
          sends := counted.sends ++ [(connector, outcome.body)] } rest

/-- The text of an `mq.Type`. -/
def ConnectorType.text : ConnectorType → String
  | .ibm => "ibm"
  | .rabbitMQ => "rabbitmq"
  | .kafka => "kafka"
  | .mqtt => "mqtt"
  | .nats => "nats"
  | .amqp10 => "amqp10"

/-- Whether the source retains history, with the error when it does not. -/
def replaySource (source : Config) : Except String Unit :=
  match source.type with
  | some .kafka => .ok ()
  | some .nats =>
    if trimSpace source.streamName.toList = [] then
      .error ("replay: source broker does not retain history: core NATS " ++
        "(set stream_name on the source connection for JetStream replay)")
    else .ok ()
  | other =>
    .error ("replay: source broker does not retain history: " ++ (other.map ConnectorType.text).getD "")

section Replay

variable (tables : StageTables) (tools : BuildTools) (semantics : StageSemantics World Document)
  (store : Store) (pipeline : Pipeline) (reads : ReplayReads) (pooled : String → Option Config)

/-- `Replay` of a pipeline whose connections are found. -/
def replay (source destination : Config) (window : List (World × Bytes)) : Except String ReplayRun :=
  match replaySource source with
  | .error err => .error err
  | .ok _ =>
    match tools.build (replayContext tables store pipeline reads) with
    | .error err => .error ("replay: build stages: " ++ err)
    | .ok stages =>
      .ok (replayMessages semantics stages (replayConnector pooled destination) {} window)

/-- What a replay of one message publishes. -/
def published (source destination : Config) (message : World × Bytes) : List (Config × Bytes) :=
  match replay tables tools semantics store pipeline reads pooled source destination [message] with
  | .error _ => []
  | .ok result => result.sends

/-- The stages `startPipeline` builds. -/
def liveBuild : Except String (List BuiltStage) :=
  match tables.liveContext tools (store.gather pipeline) with
  | none => .error "load schemas and wasm plugins"
  | some context => tools.build context

end Replay

/-- What the forward loop of `processOne` sends when every send succeeds. -/
def Executor.forwards (executor : Executor World) (outcome : StageOutcome) : List (Config × Bytes) :=
  (targets outcome.route).filterMap fun target =>
    (executor.resolve target).map fun config => (config, outcome.body)

theorem replayMessages_eq (semantics : StageSemantics World Document) (stages : List BuiltStage)
    (connector : Config) (window : List (World × Bytes)) :
    ∀ result : ReplayRun,
      (replayMessages semantics stages connector result window).sends = result.sends ++
        window.filterMap (fun message =>
          (runStages message.1 (stages.map semantics.stage) message.2).toOption.map
            fun outcome => (connector, outcome.body)) ∧
      (replayMessages semantics stages connector result window).messagesRead =
        result.messagesRead + window.length := by
  induction window with
  | nil =>
    intro result
    exact ⟨(List.append_nil _).symm, rfl⟩
  | cons message rest hypothesis =>
    intro result
    obtain ⟨world, body⟩ := message
    rw [replayMessages, List.filterMap_cons]
    dsimp only
    split
    · rename_i failure failed
      rw [failed]
      obtain ⟨sends, read⟩ := hypothesis
        { result with messagesRead := result.messagesRead + 1
                      messagesDropped := result.messagesDropped + 1 }
      refine ⟨sends, read.trans ?_⟩
      rw [List.length_cons]
      exact Nat.add_right_comm ..
    · rename_i outcome ran
      rw [ran]
      obtain ⟨sends, read⟩ := hypothesis
        { result with messagesRead := result.messagesRead + 1
                      messagesSent := result.messagesSent + 1
                      sends := result.sends ++ [(connector, outcome.body)] }
      refine ⟨sends.trans (List.append_assoc ..), read.trans ?_⟩
      rw [List.length_cons]
      exact Nat.add_right_comm ..

section Window

variable (tables : StageTables) (tools : BuildTools) (semantics : StageSemantics World Document)
  (store : Store) (pipeline : Pipeline) (reads : ReplayReads) (pooled : String → Option Config)
  (source destination : Config)

/-- A replay publishes what its stages return, to one connector. -/
theorem published_eq (message : World × Bytes) {stages : List BuiltStage}
    (retained : replaySource source = .ok ())
    (built : tools.build (replayContext tables store pipeline reads) = .ok stages) :
    published tables tools semantics store pipeline reads pooled source destination message =
      ((runStages message.1 (stages.map semantics.stage) message.2).toOption.map fun outcome =>
        (replayConnector pooled destination, outcome.body)).toList := by
  unfold published replay
  rw [retained, built]
  dsimp only
  rw [(replayMessages_eq semantics stages _ [message] {}).1]
  rw [List.filterMap_cons]
  cases runStages message.1 (stages.map semantics.stage) message.2 with
  | error failure => rfl
  | ok outcome => rfl

theorem published_of_unbuilt (message : World × Bytes) {err : String}
    (failed : tools.build (replayContext tables store pipeline reads) = .error err) :
    published tables tools semantics store pipeline reads pooled source destination message = [] := by
  unfold published replay
  cases replaySource source with
  | error err => rfl
  | ok retained =>
    rw [failed]

end Window

/-! ### The property and the condition -/

section Faithful

variable (tables : StageTables) (tools : BuildTools) (semantics : StageSemantics World Document)
  (store : Store) (pipeline : Pipeline) (reads : ReplayReads) (pooled : String → Option Config)
  (executor : Executor World)

/-- What the replay of a running pipeline publishes for a message. -/
def Executor.republished (message : World × Bytes) : List (Config × Bytes) :=
  published tables tools semantics store pipeline reads pooled executor.source executor.defaultDest
    message

/-- The replay of a message does what the live pipeline does: it publishes nothing when the stages
fail live, publishes what is forwarded when they pass, and publishes nothing that has not been
through the live stages. -/
structure Faithful (message : World × Bytes) : Prop where
  fails : ∀ failure, runStages message.1 executor.stages message.2 = .error failure →
    executor.republished tables tools semantics store pipeline reads pooled message = []
  sends : ∀ outcome, runStages message.1 executor.stages message.2 = .ok outcome → ∀ send,
    send ∈ executor.republished tables tools semantics store pipeline reads pooled message ↔
      send ∈ executor.forwards outcome
  staged : executor.republished tables tools semantics store pipeline reads pooled message ≠ [] →
    tools.build (replayContext tables store pipeline reads) = liveBuild tables tools store pipeline

/-- What a row needs is among what a replay has read. -/
def rowSuffices (row : StageRow) : Prop :=
  match row.stageType with
  | "transform" => reads.transforms = true ∨ store.listTransforms pipeline.id = []
  | "route" => reads.routingRules = true ∨ store.listRoutingRules pipeline.id = []
  | "translate" =>
    (tools.decode .translate row).schemaID = "" ∨
      (tools.decode .translate row).schemaID = pipeline.schemaID ∧ reads.schema = true
  | "validate" =>
    tools.validateSchemaID pipeline row = "" ∨
      tools.validateSchemaID pipeline row = pipeline.schemaID ∧ reads.schema = true
  | "wasm" => False
  | _ => True

/-- The condition on the rows: the stage rows are read, or there is none to run, and no row that
runs needs what the replay has not read. -/
def ReadsSuffice : Prop :=
  (reads.stages = true ∨ ∀ row ∈ store.listStages pipeline.id, row.enabled = false) ∧
    ∀ row ∈ store.listStages pipeline.id, row.enabled = true →
      rowSuffices tools store pipeline reads row

/-- The condition on a message the live stages refuse: the stages made of what was read, if any can
be made, refuse it too. -/
def ReadRefuses (message : World × Bytes) : Prop :=
  ∀ stages, tools.build (replayContext tables store pipeline reads) = .ok stages →
    ∃ failure, runStages message.1 (stages.map semantics.stage) message.2 = .error failure

/-- The condition on the destinations: whatever the message is forwarded to is what the replay's
connector reaches. -/
def ForwardsToReplay (outcome : StageOutcome) : Prop :=
  ∀ target ∈ targets outcome.route,
    executor.resolve target = some (replayConnector pooled executor.defaultDest)

end Faithful

/-! ### One row -/

section Rows

variable {tables : StageTables} {tools : BuildTools} {store : Store} {pipeline : Pipeline}
  {reads : ReplayReads} {context : BuildContext} {row : StageRow} {stage : BuiltStage}

theorem liveContext_schemas (loaded : tables.liveContext tools (store.gather pipeline) = some context)
    {id : String} {schema : Schema} (found : context.schemas id = some schema) :
    tables.schemas id = some schema := by
  unfold StageTables.liveContext at loaded
  split at loaded
  · rename_i schemas plugins schemasLoaded pluginsLoaded
    cases loaded
    unfold StageTables.loadReferencedSchemas at schemasLoaded
    split at schemasLoaded
    · cases schemasLoaded
      dsimp only at found
      split at found
      · exact found
      · cases found
    · cases schemasLoaded
  · cases loaded

theorem replayContext_schemas {id : String} {schema : Schema} (named : id ≠ "")
    (stored : tables.schemas id = some schema) :
    (replayContext tables store pipeline reads).schemas id = some schema ∧
        id = pipeline.schemaID ∧ reads.schema = true ∨
      (replayContext tables store pipeline reads).schemas id = none ∧
        ¬ (id = pipeline.schemaID ∧ reads.schema = true) := by
  have found : (replayContext tables store pipeline reads).schemas id =
      if pipeline.schemaID ≠ "" ∧ reads.schema = true ∧ id = pipeline.schemaID then
        tables.schemas id else none := rfl
  by_cases read : id = pipeline.schemaID ∧ reads.schema = true
  · rw [if_pos ⟨read.1 ▸ named, read.2, read.1⟩] at found
    exact Or.inl ⟨found.trans stored, read⟩
  · rw [if_neg fun all => read ⟨all.2.2, all.2.1⟩] at found
    exact Or.inr ⟨found, read⟩

/-- How a replay's answer stands to what was built live: the same if enough was read; otherwise
something else, and an error when the rules were read. -/
def Replayed {Built : Type} (read enough : Prop) (live : Built) (answer : Except String Built) :
    Prop :=
  answer = .ok live ∧ enough ∨
    answer ≠ .ok live ∧ ¬ enough ∧ (read → ∃ err, answer = .error err)

theorem Replayed.refused {Built : Type} {read enough : Prop} {live : Built} {err : String}
    (missing : ¬ enough) : Replayed read enough live (.error err) := by
  refine Or.inr ⟨?_, missing, fun _ => ⟨err, rfl⟩⟩
  intro equal
  cases equal

theorem Replayed.rules {Rule : Type} {given : Prop} {read : Bool} {rules : List Rule}
    {make : List Rule → BuiltStage} (injective : ∀ left right, make left = make right → left = right)
    (asked : given → read = true) :
    Replayed given (read = true ∨ rules = []) (make rules)
      (.ok (make (if read then rules else []))) := by
  cases read with
  | true => exact Or.inl ⟨rfl, Or.inl rfl⟩
  | false =>
    by_cases empty : rules = []
    · subst empty
      exact Or.inl ⟨rfl, Or.inr rfl⟩
    · refine Or.inr ⟨fun equal => empty (injective _ _ (Except.ok.inj equal)).symm, ?_, ?_⟩
      · rintro (read | none)
        · cases read
        · exact empty none
      · intro given
        cases asked given

variable (reads) in
def RulesRead : Prop := reads.transforms = true ∧ reads.routingRules = true

variable (owner : context.pipeline = pipeline)
  (stored : ∀ id schema, context.schemas id = some schema → tables.schemas id = some schema)

include owner stored

theorem translate_replay (built : tools.buildContent context row .translate = .ok stage) :
    Replayed (RulesRead reads)
      ((tools.decode .translate row).schemaID = "" ∨
        (tools.decode .translate row).schemaID = pipeline.schemaID ∧ reads.schema = true) stage
      (tools.buildContent (replayContext tables store pipeline reads) row .translate) := by
  subst owner
  simp only [BuildTools.buildContent, BuildTools.translateProto] at built ⊢
  by_cases unnamed : (tools.decode .translate row).schemaID = ""
  · rw [if_pos unnamed] at built ⊢
    exact Or.inl ⟨built, Or.inl unnamed⟩
  · rw [if_neg unnamed] at built ⊢
    cases found : context.schemas (tools.decode .translate row).schemaID with
    | none =>
      rw [found] at built
      cases built
    | some schema =>
      rw [found] at built
      obtain ⟨replayed, same⟩ | ⟨replayed, other⟩ :=
        @replayContext_schemas tables store context.pipeline reads _ _ unnamed (stored _ _ found)
      · rw [replayed]
        exact Or.inl ⟨built, Or.inr same⟩
      · rw [replayed]
        exact Replayed.refused fun enough => enough.elim unnamed other

theorem validate_replay (built : tools.buildContent context row .validate = .ok stage) :
    Replayed (RulesRead reads)
      (tools.validateSchemaID pipeline row = "" ∨
        tools.validateSchemaID pipeline row = pipeline.schemaID ∧ reads.schema = true) stage
      (tools.buildContent (replayContext tables store pipeline reads) row .validate) := by
  subst owner
  have resolved : tools.validateSchemaID
      (replayContext tables store context.pipeline reads).pipeline row =
        tools.validateSchemaID context.pipeline row := rfl
  simp only [BuildTools.buildContent, resolved] at built ⊢
  by_cases unnamed : tools.validateSchemaID context.pipeline row = ""
  · rw [if_pos unnamed] at built ⊢
    exact Or.inl ⟨built, Or.inl unnamed⟩
  · rw [if_neg unnamed] at built ⊢
    cases found : context.schemas (tools.validateSchemaID context.pipeline row) with
    | none =>
      rw [found] at built
      cases built
    | some schema =>
      rw [found] at built
      obtain ⟨replayed, same⟩ | ⟨replayed, other⟩ :=
        @replayContext_schemas tables store context.pipeline reads _ _ unnamed (stored _ _ found)
      · rw [replayed]
        exact Or.inl ⟨built, Or.inr same⟩
      · rw [replayed]
        exact Replayed.refused fun enough => enough.elim unnamed other

omit owner stored in
theorem wasm_replay : Replayed (RulesRead reads) False stage
    (tools.buildContent (replayContext tables store pipeline reads) row .wasm) := by
  simp only [BuildTools.buildContent]
  split
  · exact Replayed.refused not_false
  · exact Replayed.refused not_false

theorem buildRow_replay (transforms : context.transforms = store.listTransforms pipeline.id)
    (rules : context.routingRules = store.listRoutingRules pipeline.id)
    (built : tools.buildRow context row = .ok stage) :
    Replayed (RulesRead reads) (rowSuffices tools store pipeline reads row) stage
      (tools.buildRow (replayContext tables store pipeline reads) row) := by
  unfold BuildTools.buildRow at built
  unfold BuildTools.buildRow rowSuffices
  split at built
  · rename_i named
    simp only [named]
    refine Or.inl ⟨?_, trivial⟩
    rw [← built]
    subst owner
    rfl
  · rename_i named
    simp only [named]
    cases built
    rw [transforms]
    exact Replayed.rules (fun _ _ => BuiltStage.transform.inj) And.left
  · rename_i named
    simp only [named]
    exact translate_replay owner stored built
  · rename_i named
    simp only [named]
    cases built
    rw [rules]
    exact Replayed.rules (fun _ _ => BuiltStage.route.inj) And.right
  · rename_i named
    simp only [named]
    exact Or.inl ⟨built, trivial⟩
  · rename_i named
    simp only [named]
    exact validate_replay owner stored built
  · rename_i named
    simp only [named]
    exact wasm_replay
  · cases built

theorem buildRows_replay (transforms : context.transforms = store.listTransforms pipeline.id)
    (rules : context.routingRules = store.listRoutingRules pipeline.id) (rows : List StageRow) :
    ∀ stages, tools.buildRows context rows = .ok stages →
      Replayed (RulesRead reads)
        (∀ row ∈ rows, row.enabled = true → rowSuffices tools store pipeline reads row) stages
        (tools.buildRows (replayContext tables store pipeline reads) rows) := by
  induction rows with
  | nil =>
    intro stages built
    exact Or.inl ⟨built, fun row among => absurd among List.not_mem_nil⟩
  | cons row rest hypothesis =>
    intro stages built
    by_cases enabled : row.enabled = true
    · obtain ⟨stage, restStages, rowBuilt, restBuilt, rfl⟩ :=
        (tools.buildRows_cons_ok enabled).mp built
      rw [List.forall_mem_cons]
      obtain ⟨same, enough⟩ | ⟨differs, missing, refused⟩ :=
        @buildRow_replay tables tools store pipeline reads context row stage owner stored transforms
          rules rowBuilt
      · obtain ⟨restSame, restEnough⟩ | ⟨restDiffers, restMissing, restRefused⟩ :=
          hypothesis restStages restBuilt
        · exact Or.inl ⟨(tools.buildRows_cons_ok enabled).mpr ⟨stage, restStages, same, restSame, rfl⟩,
            fun _ => enough, restEnough⟩
        · refine Or.inr ⟨?_, fun all => restMissing all.2, ?_⟩
          · intro replayed
            obtain ⟨other, others, -, othersBuilt, equal⟩ :=
              (tools.buildRows_cons_ok enabled).mp replayed
            rw [(List.cons.inj equal).2] at restDiffers
            exact restDiffers othersBuilt
          · intro read
            obtain ⟨err, answer⟩ := restRefused read
            rw [BuildTools.buildRows, if_pos enabled, same, answer]
            exact ⟨err, rfl⟩
      · refine Or.inr ⟨?_, fun all => missing (all.1 enabled), ?_⟩
        · intro replayed
          obtain ⟨other, others, otherBuilt, -, equal⟩ :=
            (tools.buildRows_cons_ok enabled).mp replayed
          rw [(List.cons.inj equal).1] at differs
          exact differs otherBuilt
        · intro read
          obtain ⟨err, answer⟩ := refused read
          rw [BuildTools.buildRows, if_pos enabled, answer]
          exact ⟨err, rfl⟩
    · rw [BuildTools.buildRows, if_neg enabled] at built ⊢
      rw [List.forall_mem_cons]
      obtain ⟨same, enough⟩ | ⟨differs, missing, refused⟩ := hypothesis stages built
      · exact Or.inl ⟨same, fun on => absurd on enabled, enough⟩
      · exact Or.inr ⟨differs, fun all => missing all.2, refused⟩

end Rows

/-! ### The stages as a whole -/

section Whole

variable {tables : StageTables} {tools : BuildTools} {semantics : StageSemantics World Document}
  {payloadHash : Bytes → String} {store : Store} {pipeline : Pipeline} {reads : ReplayReads}
  {pooled : String → Option Config} {executor : Executor World} {stages : List BuiltStage}

theorem buildRows_disabled (context : BuildContext) {rows : List StageRow}
    (disabled : ∀ row ∈ rows, row.enabled = false) : tools.buildRows context rows = .ok [] := by
  induction rows with
  | nil => rfl
  | cons row rest hypothesis =>
    obtain ⟨off, others⟩ := List.forall_mem_cons.mp disabled
    rw [BuildTools.buildRows, if_neg (Bool.eq_false_iff.mp off)]
    exact hypothesis others

theorem disabled_of_buildRows (context : BuildContext) {rows : List StageRow}
    (built : tools.buildRows context rows = .ok []) : ∀ row ∈ rows, row.enabled = false := by
  induction rows with
  | nil => exact fun row among => absurd among List.not_mem_nil
  | cons row rest hypothesis =>
    cases enabled : row.enabled with
    | true =>
      obtain ⟨stage, others, -, -, equal⟩ := (tools.buildRows_cons_ok enabled).mp built
      cases equal
    | false =>
      rw [BuildTools.buildRows, if_neg (Bool.eq_false_iff.mp enabled)] at built
      exact List.forall_mem_cons.mpr ⟨enabled, hypothesis built⟩

theorem liveBuild_of_started
    (started : tables.startPipeline tools semantics payloadHash store pipeline = some executor) :
    ∃ context stages, tables.liveContext tools (store.gather pipeline) = some context ∧
      tools.build context = .ok stages ∧ liveBuild tables tools store pipeline = .ok stages ∧
      executor.stages = stages.map semantics.stage := by
  unfold StageTables.startPipeline at started
  split at started
  · rename_i loads
    obtain ⟨context, loaded⟩ := Option.isSome_iff_exists.mp loads
    have built := (Store.startPipeline_eq started).1
    rw [StageTables.build_builder loaded] at built
    obtain ⟨stages, live, same⟩ := exists_of_map_eq_ok built
    refine ⟨context, stages, loaded, live, ?_, same.symm⟩
    unfold liveBuild
    rw [loaded]
    exact live
  · cases started

/-- When the stages of a replay are the live ones. -/
theorem build_replay {context : BuildContext}
    (loaded : tables.liveContext tools (store.gather pipeline) = some context)
    (built : tools.build context = .ok stages) :
    Replayed (reads = {}) (ReadsSuffice tools store pipeline reads) stages
      (tools.build (replayContext tables store pipeline reads)) := by
  obtain ⟨owner, rows, transforms, rules⟩ := StageTables.liveContext_eq loaded
  unfold BuildTools.build at built
  rw [rows] at built
  cases read : reads.stages with
  | true =>
    have asked : (replayContext tables store pipeline reads).stageRows =
        store.listStages pipeline.id := if_pos read
    unfold BuildTools.build
    rw [asked]
    obtain ⟨same, enough⟩ | ⟨differs, missing, refused⟩ :=
      @buildRows_replay tables tools store pipeline reads context owner
        (fun _ _ => liveContext_schemas loaded) transforms rules (store.listStages pipeline.id) stages
        built
    · exact Or.inl ⟨same, Or.inl read, enough⟩
    · refine Or.inr ⟨differs, fun enough => missing enough.2, ?_⟩
      intro all
      exact refused ⟨congrArg ReplayReads.transforms all, congrArg ReplayReads.routingRules all⟩
  | false =>
    have replayed : tools.build (replayContext tables store pipeline reads) = .ok [] := by
      have asked : (replayContext tables store pipeline reads).stageRows = [] :=
        if_neg (Bool.eq_false_iff.mp read)
      unfold BuildTools.build
      rw [asked]
      rfl
    rw [replayed]
    by_cases disabled : ∀ row ∈ store.listStages pipeline.id, row.enabled = false
    · have live := built.symm.trans (buildRows_disabled context disabled)
      refine Or.inl ⟨live.symm, Or.inr disabled, ?_⟩
      intro row among enabled
      rw [disabled row among] at enabled
      cases enabled
    · refine Or.inr ⟨?_, ?_, ?_⟩
      · intro live
        rw [← live] at built
        exact disabled (disabled_of_buildRows context built)
      · rintro ⟨readable | none, -⟩
        · rw [read] at readable
          cases readable
        · exact disabled none
      · intro all
        rw [all] at read
        cases read

/-! ### The destinations -/

/-- A route that is there names a destination. -/
def RouteNames (route : Option Result) : Prop :=
  ∀ result, route = some result → result.destinations ≠ []

theorem updateRoute_names {route : Option Result} (names : RouteNames route)
    (answer : Option Result) : RouteNames (updateRoute route answer) := by
  cases answer with
  | none => exact names
  | some result =>
    show RouteNames (if result.destinations = [] then route else some result)
    by_cases empty : result.destinations = []
    · rw [if_pos empty]
      exact names
    · rw [if_neg empty]
      intro same equal
      cases equal
      exact empty

theorem runStagesFrom_names (world : World) (chain : List (Stage World)) :
    ∀ start outcome : StageOutcome, RouteNames start.route →
      runStagesFrom world chain start = .ok outcome → RouteNames outcome.route := by
  induction chain with
  | nil =>
    intro start outcome names finished
    cases finished
    exact names
  | cons stage rest hypothesis =>
    intro start outcome names finished
    rw [runStagesFrom] at finished
    split at finished
    · cases finished
    · exact hypothesis _ outcome (updateRoute_names names _) finished

theorem targets_ne_nil {world : World} {chain : List (Stage World)} {message : Bytes}
    {outcome : StageOutcome} (finished : runStages world chain message = .ok outcome) :
    targets outcome.route ≠ [] := by
  have names := runStagesFrom_names world chain _ outcome
    (fun result equal => absurd equal.symm (Option.some_ne_none result)) finished
  cases decision : outcome.route with
  | none => exact List.cons_ne_nil _ _
  | some result =>
    intro empty
    exact names result decision (List.map_eq_nil_iff.mp empty)

theorem mem_forwards {outcome : StageOutcome} {send : Config × Bytes} :
    send ∈ executor.forwards outcome ↔
      ∃ target ∈ targets outcome.route, ∃ config, executor.resolve target = some config ∧
        (config, outcome.body) = send := by
  unfold Executor.forwards
  rw [List.mem_filterMap]
  refine exists_congr fun target => and_congr_right fun _ => ?_
  exact Option.map_eq_some_iff

/-- When the replay's send is the executor's only one. -/
theorem forwards_iff {world : World} {message : Bytes} {outcome : StageOutcome}
    (finished : runStages world executor.stages message = .ok outcome) :
    (∀ send, send ∈ [(replayConnector pooled executor.defaultDest, outcome.body)] ↔
        send ∈ executor.forwards outcome) ↔
      ForwardsToReplay pooled executor outcome := by
  have resolved := @resolve_of_ranTo _ executor ⟨0, message⟩ outcome ⟨world, finished⟩
  constructor
  · intro same target among
    obtain ⟨config, found⟩ := Option.isSome_iff_exists.mp (resolved target among)
    have sent := (same (config, outcome.body)).mpr (mem_forwards.mpr ⟨target, among, config, found, rfl⟩)
    rw [found, (Prod.mk.inj (List.mem_singleton.mp sent)).1]
  · intro forwards send
    rw [List.mem_singleton, mem_forwards]
    constructor
    · intro equal
      obtain ⟨target, among⟩ := List.exists_mem_of_ne_nil _ (targets_ne_nil finished)
      exact ⟨target, among, _, forwards target among, equal.symm⟩
    · rintro ⟨target, among, config, found, rfl⟩
      rw [forwards target among] at found
      cases found
      rfl

theorem published_eq_nil_iff {source destination : Config} (retained : replaySource source = .ok ())
    (message : World × Bytes) :
    published tables tools semantics store pipeline reads pooled source destination message = [] ↔
      ReadRefuses tables tools semantics store pipeline reads message := by
  cases built : tools.build (replayContext tables store pipeline reads) with
  | error err =>
    refine ⟨fun _ stages made => ?_, fun _ => published_of_unbuilt tables tools semantics store
      pipeline reads pooled source destination message built⟩
    rw [built] at made
    cases made
  | ok stages =>
    rw [published_eq tables tools semantics store pipeline reads pooled source destination message
      retained built]
    unfold ReadRefuses
    rw [built]
    cases ran : runStages message.1 (stages.map semantics.stage) message.2 with
    | error failure =>
      refine ⟨fun _ others made => ?_, fun _ => rfl⟩
      cases made
      exact ⟨failure, ran⟩
    | ok outcome =>
      refine ⟨fun sent => absurd sent (List.cons_ne_nil _ _), fun refuses => ?_⟩
      obtain ⟨failure, failed⟩ := refuses stages rfl
      rw [ran] at failed
      cases failed

theorem readRefuses_of_reads {context : BuildContext}
    (loaded : tables.liveContext tools (store.gather pipeline) = some context)
    (built : tools.build context = .ok stages) {message : World × Bytes} {failure : StageFailure}
    (failed : runStages message.1 (stages.map semantics.stage) message.2 = .error failure)
    (read : ReadsSuffice tools store pipeline reads ∨ reads = {}) :
    ReadRefuses tables tools semantics store pipeline reads message := by
  intro others made
  obtain ⟨same, -⟩ | ⟨-, missing, refused⟩ :=
    @build_replay tables tools store pipeline reads stages context loaded built
  · rw [same] at made
    cases made
    exact ⟨failure, failed⟩
  · obtain ⟨err, unbuilt⟩ := refused (read.resolve_left missing)
    rw [unbuilt] at made
    cases made

/-- A replay does what the live pipeline does. For a message that passes the live stages this is
so exactly when what was read suffices to build these stages and every destination the message goes
to is the one the replay's connector reaches. For a message the live stages refuse it is so exactly
when the stages made of what was read refuse it too, as they do if what was read suffices or no
read failed. -/
theorem faithful_iff_readsSuffice
    (started : tables.startPipeline tools semantics payloadHash store pipeline = some executor)
    (retained : replaySource executor.source = .ok ()) (message : World × Bytes) :
    (∀ outcome, runStages message.1 executor.stages message.2 = .ok outcome →
      (Faithful tables tools semantics store pipeline reads pooled executor message ↔
        ReadsSuffice tools store pipeline reads ∧ ForwardsToReplay pooled executor outcome)) ∧
    (∀ failure, runStages message.1 executor.stages message.2 = .error failure →
      (Faithful tables tools semantics store pipeline reads pooled executor message ↔
        ReadRefuses tables tools semantics store pipeline reads message) ∧
      (ReadsSuffice tools store pipeline reads ∨ reads = {} →
        ReadRefuses tables tools semantics store pipeline reads message)) := by
  obtain ⟨context, stages, loaded, built, live, runs⟩ := liveBuild_of_started started
  have replayed := @build_replay tables tools store pipeline reads stages context loaded built
  constructor
  · intro outcome passed
    -- with the live stages, a replay publishes what passes them
    have publishes : tools.build (replayContext tables store pipeline reads) = .ok stages →
        executor.republished tables tools semantics store pipeline reads pooled message =
          [(replayConnector pooled executor.defaultDest, outcome.body)] := by
      intro same
      have sent := published_eq tables tools semantics store pipeline reads pooled executor.source
        executor.defaultDest message retained same
      rw [← runs, passed] at sent
      exact sent
    constructor
    · intro faithful
      obtain ⟨target, among⟩ := List.exists_mem_of_ne_nil _ (targets_ne_nil passed)
      obtain ⟨config, found⟩ := Option.isSome_iff_exists.mp
        (@resolve_of_ranTo _ executor ⟨0, message.2⟩ outcome ⟨message.1, passed⟩ target among)
      have sent := (faithful.sends outcome passed (config, outcome.body)).mpr
        (mem_forwards.mpr ⟨target, among, config, found, rfl⟩)
      have same := (faithful.staged (List.ne_nil_of_mem sent)).trans live
      obtain ⟨-, enough⟩ | ⟨differs, -, -⟩ := replayed
      · refine ⟨enough, (forwards_iff passed).mp ?_⟩
        intro send
        have sends := faithful.sends outcome passed send
        rw [publishes same] at sends
        exact sends
      · exact absurd same differs
    · rintro ⟨enough, forwards⟩
      obtain ⟨same, -⟩ | ⟨-, missing, -⟩ := replayed
      · refine ⟨?_, ?_, fun _ => same.trans live.symm⟩
        · intro failure failed
          rw [passed] at failed
          cases failed
        · intro other ran send
          rw [passed] at ran
          cases ran
          rw [publishes same]
          exact (forwards_iff passed).mpr forwards send
      · exact absurd enough missing
  · intro failure failed
    refine ⟨?_, readRefuses_of_reads loaded built (runs ▸ failed)⟩
    rw [← published_eq_nil_iff retained message]
    refine ⟨fun faithful => faithful.fails failure failed, fun silent => ?_⟩
    refine ⟨fun _ _ => silent, ?_, fun published => absurd silent published⟩
    intro outcome passed
    rw [failed] at passed
    cases passed

end Whole

/-! ### Pipelines to replay -/

/-- A Kafka pipeline that validates against an XSD, or routes what has a field `a`. -/
def historyStore (stageType : String) : Store where
  pipelines := [{ id := "p", tenantID := "t", sourceID := "src", destinationID := "dst", schemaID := "x" }]
  distinct := List.nodup_singleton _
  stages := [{ tenantID := "t", pipelineID := "p", stageType }]
  transforms := []
  routingRules := [{ tenantID := "t", pipelineID := "p", conditionPath := "a"
                     conditionOperator := "exists", destinationID := "urgent" }]
  connections id :=
    if id = "src" ∨ id = "dst" ∨ id = "urgent" then
      some { id, tenantID := "t", type := "kafka", topic := id }
    else none

/-- The pipeline of `historyStore`. -/
def historyPipeline : Pipeline where
  id := "p"
  tenantID := "t"
  sourceID := "src"
  destinationID := "dst"
  schemaID := "x"

/-- One schema, and no plugin. -/
def historyTables : StageTables where
  schemas id :=
    if id = "x" then some { id, tenantID := "t", name := "order", schemaType := "xsd",
                            content := "<xs:schema/>" }
    else none
  plugins _ _ := none
  compiled _ := none

/-- No row of `historyStore` has a configuration to decode, and no schema is a protobuf one. -/
def historyTools : BuildTools where
  unmarshal _ _ := ({}, true)
  loadProtoSchema _ _ := .error "load proto schema"

/-- The stages on `{"a":1}` and `<a/>`: an XSD is for XML messages. -/
def historySemantics : StageSemantics Unit Unit where
  run stage _ message format :=
    if stage.name = "validate" ∧ format ≠ .xml then .error "validate: xsd requires XML messages"
    else .ok { body := message, format := some format, result := none }
  reader := { decodeStructured := fun _ _ => .ok (), matched := fun _ _ => true }
  silent stage world message format output ran := by
    split at ran
    · cases ran
    · cases ran
      rfl

/-- The message `{"a":1}`. -/
def jsonMessage : Bytes := [0x7b, 0x22, 0x61, 0x22, 0x3a, 0x31, 0x7d]

/-- The message `<a/>`. -/
def xmlMessage : Bytes := [0x3c, 0x61, 0x2f, 0x3e]

/-- The executor of a pipeline of `historyStore`. -/
def historyExecutor (stageType : String) : Option (Executor Unit) :=
  historyTables.startPipeline historyTools historySemantics (fun _ => "") (historyStore stageType)
    historyPipeline

def historyReplay (stageType : String) (reads : ReplayReads) (executor : Executor Unit)
    (message : Bytes) : List (Config × Bytes) :=
  executor.republished historyTables historyTools historySemantics (historyStore stageType)
    historyPipeline reads (fun _ => none) ((), message)

/-- The destination `urgent` or `dst` of `historyStore`. -/
def historyConfig (topic : String) : Config where
  type := some .kafka
  topic := topic

/-- A replay of a pipeline of `historyStore` does what the pipeline does. -/
def HistoryFaithful (stageType : String) (reads : ReplayReads) (executor : Executor Unit)
    (message : Bytes) : Prop :=
  Faithful historyTables historyTools historySemantics (historyStore stageType) historyPipeline reads
    (fun _ => none) executor ((), message)

/-- A message routed to `urgent` is replayed to `dst`; and when the stages cannot be read, a message
the validate stage refuses is published. -/
theorem replay_misroutes_and_bypasses :
    (∃ executor, historyExecutor "route" = some executor ∧
      ¬ HistoryFaithful "route" {} executor jsonMessage) ∧
    ∃ executor, historyExecutor "validate" = some executor ∧
      ¬ HistoryFaithful "validate" { stages := false } executor jsonMessage := by
  constructor
  · have runs : (historyExecutor "route").any (fun executor => decide
        ((runStages () executor.stages jsonMessage).toOption.map executor.forwards =
            some [(historyConfig "urgent", jsonMessage)] ∧
          historyReplay "route" {} executor jsonMessage =
            [(historyConfig "dst", jsonMessage)])) = true := by
      decide
    obtain ⟨executor, started, tested⟩ := (Option.any_eq_true _ _).mp runs
    obtain ⟨live, replayed⟩ := of_decide_eq_true tested
    obtain ⟨outcome, passed, forwards⟩ := Option.map_eq_some_iff.mp live
    refine ⟨executor, started, ?_⟩
    intro faithful
    have ran : runStages () executor.stages jsonMessage = .ok outcome := by
      cases answer : runStages () executor.stages jsonMessage with
      | error failure =>
        rw [answer] at passed
        cases passed
      | ok other =>
        rw [answer] at passed
        cases passed
        rfl
    have published : (historyConfig "dst", jsonMessage) ∈
        historyReplay "route" {} executor jsonMessage := by
      rw [replayed]
      exact List.mem_singleton.mpr rfl
    have sent := (faithful.sends outcome ran (historyConfig "dst", jsonMessage)).mp published
    rw [forwards, List.mem_singleton] at sent
    have topics := congrArg (fun send => send.1.topic) sent
    revert topics
    decide
  · have runs : (historyExecutor "validate").any (fun executor => decide
        ((runStages () executor.stages jsonMessage).toOption = none ∧
          historyReplay "validate" { stages := false } executor jsonMessage =
            [(historyConfig "dst", jsonMessage)])) = true := by
      decide
    obtain ⟨executor, started, tested⟩ := (Option.any_eq_true _ _).mp runs
    obtain ⟨live, replayed⟩ := of_decide_eq_true tested
    refine ⟨executor, started, ?_⟩
    intro faithful
    cases answer : runStages () executor.stages jsonMessage with
    | error failure =>
      have silent := faithful.fails failure answer
      exact List.cons_ne_nil _ _ (replayed.symm.trans silent)
    | ok outcome =>
      rw [answer] at live
      cases live

/-- The validating pipeline is replayed as it runs: what it refuses is refused, what it passes is
published. -/
theorem validated_history_faithful :
    ∃ executor, historyExecutor "validate" = some executor ∧
      HistoryFaithful "validate" {} executor jsonMessage ∧
      HistoryFaithful "validate" {} executor xmlMessage := by
  have runs : (historyExecutor "validate").any (fun executor => decide
      ((runStages () executor.stages jsonMessage).toOption = none ∧
        (runStages () executor.stages xmlMessage).toOption.map StageOutcome.route = some none ∧
        executor.source.type = some .kafka)) = true := by
    decide
  obtain ⟨executor, started, tested⟩ := (Option.any_eq_true _ _).mp runs
  obtain ⟨refused, passed, kafka⟩ := of_decide_eq_true tested
  have retained : replaySource executor.source = .ok () := by
    unfold replaySource
    rw [kafka]
  have enough : ReadsSuffice historyTools (historyStore "validate") historyPipeline {} := by
    refine ⟨Or.inl rfl, ?_⟩
    intro row among _
    cases List.mem_singleton.mp among
    exact Or.inr ⟨rfl, rfl⟩
  refine ⟨executor, started, ?_, ?_⟩
  · cases answer : runStages () executor.stages jsonMessage with
    | error failure =>
      obtain ⟨exactly, refuses⟩ :=
        (faithful_iff_readsSuffice started retained ((), jsonMessage)).2 failure answer
      exact exactly.mpr (refuses (Or.inl enough))
    | ok outcome =>
      rw [answer] at refused
      cases refused
  · cases answer : runStages () executor.stages xmlMessage with
    | error failure =>
      rw [answer] at passed
      cases passed
    | ok outcome =>
      refine ((faithful_iff_readsSuffice started retained ((), xmlMessage)).1 outcome answer).mpr
        ⟨enough, ?_⟩
      rw [answer] at passed
      have unrouted : outcome.route = none := Option.some.inj passed
      intro target among
      rw [unrouted] at among
      cases List.mem_singleton.mp among
      rfl

end MqConnector
