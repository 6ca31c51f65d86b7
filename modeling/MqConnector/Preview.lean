/-
This file models the two dry runs of a pipeline, `handlePreview`
(`server/handlers_preview.go`) and `simulateReplay` (`server/handlers_dlq_intel.go`), and
asks whether they predict what the live stages do.

Both gather what they build from in their own way: neither loads a schema or a plugin.
The live side is the executor of `startPipeline`. What a caller gets of a body is what
arrives of it as a text in JSON.
-/

import MqConnector.Replay
import MqConnector.Utf8

namespace MqConnector

namespace DryRun

variable {World Document : Type}

/-! ### The dry runs -/

/-- A format by its name. -/
def formatText : Format → String
  | .json => "json"
  | .xml => "xml"
  | .protobuf => "protobuf"
  | .bytes => "bytes"

/-- The destinations of a route, none if there is no route. -/
def destinations (outcome : StageOutcome) : List String :=
  (outcome.route.map Result.destinations).getD []

/-- The body of a preview. -/
structure PreviewRequest where
  pipelineID : String := ""
  stages : List StageRow := []
  transforms : List Transform := []
  routingRules : List RoutingRule := []
  schemas : String → Option Schema := fun _ => none
  outputFormat : String := ""
  sample : Bytes

/-- `previewResponse`, without the durations of the runs. -/
structure PreviewResponse where
  ok : Bool
  output : Bytes := []
  format : String := ""
  routes : List String := []
  error : String := ""
  stageRuns : List StageRun := []
  deriving DecidableEq

/-- What a preview answers. -/
inductive PreviewAnswer
  | refused (status : Nat) (message : String)
  | answered (response : PreviewResponse)
  deriving DecidableEq

/-- `replaySimResponse`, without the durations of the runs. -/
structure ReplaySimResponse where
  entryID : String
  pipelineID : String
  revisionNumber : Nat
  wouldSucceed : Bool
  stageRuns : List StageRun := []
  finalOutput : Bytes := []
  format : String := ""
  error : String := ""
  failingStage : String := ""
  deriving DecidableEq

/-- What the reads of a preview meet: the error of reading the pipeline, and whether its lists could be
read. -/
structure PreviewReads where
  pipeline : Option String := none
  stages : Bool := true
  transforms : Bool := true
  routingRules : Bool := true
  deriving DecidableEq

/-- The lists of a pipeline are those of a tenant; a read that fails gives no rows. -/
def previewContext (store : Store) (tenantID : String) (pipeline : Pipeline) (reads : PreviewReads) :
    BuildContext where
  pipeline := pipeline
  stageRows :=
    if reads.stages then (store.listStages pipeline.id).filter fun row => row.tenantID = tenantID else []
  transforms :=
    if reads.transforms then (store.listTransforms pipeline.id).filter fun row => row.tenantID = tenantID
    else []
  routingRules :=
    if reads.routingRules then
      (store.listRoutingRules pipeline.id).filter fun row => row.tenantID = tenantID
    else []
  schemas := fun _ => none
  wasmPlugins := fun _ => none

/-- What the stages of a draft are built with. -/
def draftContext (request : PreviewRequest) : BuildContext where
  pipeline :=
    { id := "", tenantID := "", sourceID := "", destinationID := "", outputFormat := request.outputFormat
      enabled := false }
  stageRows := request.stages
  transforms := request.transforms
  routingRules := request.routingRules
  schemas := request.schemas
  wasmPlugins := fun _ => none

/-- What the stages of a revision are built with. -/
def snapshotContext (pipeline : Pipeline) (snapshot : PipelineSnapshot) : BuildContext where
  pipeline := pipeline
  stageRows := snapshot.stages
  transforms := snapshot.transforms
  routingRules := snapshot.routingRules
  schemas := fun _ => none
  wasmPlugins := fun _ => none

section Runs

variable (tools : BuildTools) (semantics : StageSemantics World Document) (world : World)

/-- `Build`, then `RunStages`: the error with the runs beside it, or the outcome. -/
def dryRun (context : BuildContext) (message : Bytes) : Except StageFailure StageOutcome :=
  match tools.build context with
  | .error err => .error { reason := "build: " ++ err, runs := [] }
  | .ok stages => runStages world (stages.map semantics.stage) message

/-- The answer for a run of the stages. -/
def previewResponse : Except StageFailure StageOutcome → PreviewResponse
  | .error failure => { ok := false, error := failure.reason, stageRuns := failure.runs }
  | .ok outcome =>
    { ok := true
      output := outcome.body
      format := formatText outcome.format
      routes := destinations outcome
      stageRuns := outcome.runs }

/-- `handlePreview`. -/
def handlePreview (store : Store) (tenantID : String) (reads : PreviewReads)
    (body : Except String PreviewRequest) : PreviewAnswer :=
  match body with
  | .error err => .refused 400 ("decode: " ++ err)
  | .ok request =>
    if request.sample = [] then .refused 400 "sample is required"
    else if request.pipelineID ≠ "" then
      if tenantID = "" then .refused 500 "storage: tenant_id is required"
      else
        match reads.pipeline, Owned.get store.pipelines tenantID request.pipelineID with
        | some err, _ => .refused 500 err
        | none, none => .refused 404 "pipeline not found"
        | none, some pipeline =>
          .answered (previewResponse (dryRun tools semantics world
            (previewContext store tenantID pipeline reads) request.sample))
    else
      .answered (previewResponse (dryRun tools semantics world (draftContext request) request.sample))

/-- The response of a simulation; the stage that failed is the last one that ran. -/
def replaySimResponse (row : DLQRow) (revisionNumber : Nat) :
    Except StageFailure StageOutcome → ReplaySimResponse
  | .error failure =>
    { entryID := row.id
      pipelineID := row.entry.pipelineID
      revisionNumber
      wouldSucceed := false
      stageRuns := failure.runs
      error := failure.reason
      failingStage := (failure.runs.getLast?.map StageRun.name).getD "" }
  | .ok outcome =>
    { entryID := row.id
      pipelineID := row.entry.pipelineID
      revisionNumber
      wouldSucceed := true
      stageRuns := outcome.runs
      finalOutput := outcome.body
      format := formatText outcome.format }

/-- A dead letter is run through a revision's stages. -/
def simulateReplay (row : DLQRow) (revisionNumber : Nat) (pipeline : Pipeline)
    (snapshot : PipelineSnapshot) : ReplaySimResponse :=
  replaySimResponse row revisionNumber
    (dryRun tools semantics world (snapshotContext pipeline snapshot) row.entry.originalMsg)

end Runs

/-! ### What they predict -/

/-- What both surfaces report of a run. -/
structure Report where
  succeeds : Bool
  output : Bytes
  format : String
  routes : Option (List String)

/-- The report of a preview. -/
def PreviewAnswer.report : PreviewAnswer → Report
  | .refused _ _ => ⟨false, [], "", none⟩
  | .answered response =>
    ⟨response.ok, Utf8.asText response.output, response.format, some response.routes⟩

/-- The report of a simulated replay. -/
def ReplaySimResponse.report (response : ReplaySimResponse) : Report :=
  ⟨response.wouldSucceed, Utf8.asText response.finalOutput, response.format, none⟩

/-- A report predicts a live run: whether it succeeds, and with which message. -/
structure Predicts (report : Report) (live : Except StageFailure StageOutcome) : Prop where
  succeeds : report.succeeds = true ↔ ∃ outcome, live = .ok outcome
  outcome : ∀ outcome, live = .ok outcome → report.output = outcome.body ∧
    report.format = formatText outcome.format ∧ ∀ routes ∈ report.routes, routes = destinations outcome

/-- A row builds without a schema and without a plugin. -/
def selfContained (tools : BuildTools) (pipeline : Pipeline) (row : StageRow) : Prop :=
  match row.stageType with
  | "translate" => (tools.decode .translate row).schemaID = ""
  | "validate" => tools.validateSchemaID pipeline row = ""
  | "wasm" => False
  | _ => True

/-- Every row that runs does. -/
def SelfContained (tools : BuildTools) (store : Store) (pipeline : Pipeline) : Prop :=
  ∀ row ∈ store.listStages pipeline.id, row.enabled = true → selfContained tools pipeline row

/-- The rows of a pipeline are of its tenant. -/
structure OwnRows (store : Store) (pipeline : Pipeline) : Prop where
  stages : ∀ row ∈ store.listStages pipeline.id, row.tenantID = pipeline.tenantID
  transforms : ∀ row ∈ store.listTransforms pipeline.id, row.tenantID = pipeline.tenantID
  routingRules : ∀ row ∈ store.listRoutingRules pipeline.id, row.tenantID = pipeline.tenantID

/-- The live rows of a pipeline as a snapshot. -/
def liveSnapshot (store : Store) (pipeline : Pipeline) : PipelineSnapshot where
  pipeline := some pipeline
  stages := store.listStages pipeline.id
  transforms := store.listTransforms pipeline.id
  routingRules := store.listRoutingRules pipeline.id

section Predictions

variable {tables : StageTables} {tools : BuildTools} {semantics : StageSemantics World Document}
  {payloadHash : Bytes → String} {store : Store} {pipeline : Pipeline} {executor : Executor World}
  {world : World}

theorem previewContext_eq (own : OwnRows store pipeline) :
    previewContext store pipeline.tenantID pipeline {} =
      snapshotContext pipeline (liveSnapshot store pipeline) := by
  have stages := List.filter_eq_self.mpr fun row member => decide_eq_true (own.stages row member)
  have transforms := List.filter_eq_self.mpr fun row member => decide_eq_true (own.transforms row member)
  have rules := List.filter_eq_self.mpr fun row member => decide_eq_true (own.routingRules row member)
  unfold previewContext snapshotContext liveSnapshot
  rw [stages, transforms, rules]
  rfl

theorem snapshotContext_eq : snapshotContext pipeline (liveSnapshot store pipeline) =
    replayContext tables store pipeline { schema := false } := by
  unfold snapshotContext replayContext
  congr 1
  funext id
  unfold StageTables.loadSchemasForBuild
  rw [if_neg fun holds => absurd holds.2.1 (by decide)]

theorem rowSuffices_iff (row : StageRow) :
    rowSuffices tools store pipeline { schema := false } row ↔ selfContained tools pipeline row := by
  unfold rowSuffices selfContained
  split
  all_goals simp_all

theorem dryRun_live
    (started : tables.startPipeline tools semantics payloadHash store pipeline = some executor)
    (message : Bytes) :
    (SelfContained tools store pipeline ∧
        dryRun tools semantics world (snapshotContext pipeline (liveSnapshot store pipeline)) message =
          runStages world executor.stages message) ∨
      (¬ SelfContained tools store pipeline ∧ ∃ failure,
        dryRun tools semantics world (snapshotContext pipeline (liveSnapshot store pipeline)) message =
          .error failure) := by
  obtain ⟨context, stages, loaded, built, -, runs⟩ := liveBuild_of_started started
  obtain ⟨owner, rows, transforms, rules⟩ := StageTables.liveContext_eq loaded
  unfold BuildTools.build at built
  rw [rows] at built
  have suffices_iff : (∀ row ∈ store.listStages pipeline.id, row.enabled = true →
      rowSuffices tools store pipeline { schema := false } row) ↔ SelfContained tools store pipeline :=
    forall_congr' fun row => imp_congr_right fun _ => imp_congr_right fun _ => rowSuffices_iff row
  have answer := @buildRows_replay tables tools store pipeline { schema := false } context owner
    (fun _ _ => liveContext_schemas loaded) transforms rules (store.listStages pipeline.id) stages built
  rw [Replayed, suffices_iff, ← snapshotContext_eq] at answer
  unfold dryRun
  have dry : tools.build (snapshotContext pipeline (liveSnapshot store pipeline)) =
      tools.buildRows (snapshotContext pipeline (liveSnapshot store pipeline))
        (store.listStages pipeline.id) := rfl
  rw [dry]
  rcases answer with ⟨same, enough⟩ | ⟨-, missing, refused⟩
  · refine Or.inl ⟨enough, ?_⟩
    rw [same, runs]
  · obtain ⟨err, failed⟩ := refused ⟨rfl, rfl⟩
    refine Or.inr ⟨missing, ?_⟩
    rw [failed]
    exact ⟨_, rfl⟩

/-- A report of a failure predicts exactly that the live run fails. -/
theorem predicts_failure_iff {report : Report} (fails : report.succeeds = false)
    {live : Except StageFailure StageOutcome} :
    Predicts report live ↔ ∀ outcome, live ≠ .ok outcome := by
  constructor
  · rintro ⟨succeeds, -⟩ outcome passes
    rw [fails] at succeeds
    exact absurd (succeeds.mpr ⟨outcome, passes⟩) (by decide)
  · intro refuses
    refine ⟨?_, fun outcome passes => absurd passes (refuses outcome)⟩
    rw [fails]
    exact iff_of_false (by decide) fun ⟨outcome, passes⟩ => refuses outcome passes

theorem predicts_outcome_iff {outcome : StageOutcome} {report : Report} (succeeds : report.succeeds = true)
    (output : report.output = Utf8.asText outcome.body) (format : report.format = formatText outcome.format)
    (routes : ∀ routes ∈ report.routes, routes = destinations outcome) :
    Predicts report (.ok outcome) ↔ Utf8.Valid outcome.body := by
  rw [← Utf8.asText_eq_iff, ← output]
  constructor
  · exact fun predicts => (predicts.outcome outcome rfl).1
  · intro same
    refine ⟨iff_of_true succeeds ⟨outcome, rfl⟩, fun other passes => ?_⟩
    obtain rfl := Except.ok.inj passes
    exact ⟨same, format, routes⟩

/-- A dry run predicts the live run exactly if that fails, or the pipeline is self-contained and the
output is text. -/
theorem predicts_dryRun_iff {message : Bytes} {report : Except StageFailure StageOutcome → Report}
    (started : tables.startPipeline tools semantics payloadHash store pipeline = some executor)
    (fails : ∀ failure, (report (.error failure)).succeeds = false)
    (succeeds : ∀ outcome, (report (.ok outcome)).succeeds = true ∧
      (report (.ok outcome)).output = Utf8.asText outcome.body ∧
      (report (.ok outcome)).format = formatText outcome.format ∧
      ∀ routes ∈ (report (.ok outcome)).routes, routes = destinations outcome) :
    Predicts (report (dryRun tools semantics world
        (snapshotContext pipeline (liveSnapshot store pipeline)) message))
        (runStages world executor.stages message) ↔
      ∀ outcome, runStages world executor.stages message = .ok outcome →
        SelfContained tools store pipeline ∧ Utf8.Valid outcome.body := by
  rcases @dryRun_live World Document tables tools semantics payloadHash store pipeline executor world started
    message with ⟨enough, same⟩ | ⟨missing, failure, failed⟩
  · rw [same]
    rcases runStages world executor.stages message with failure | outcome
    · rw [predicts_failure_iff (fails failure)]
      exact forall_congr' fun outcome => ⟨fun refuses passes => absurd passes refuses,
        fun holds passes => by cases passes⟩
    · obtain ⟨success, output, format, routes⟩ := succeeds outcome
      rw [predicts_outcome_iff success output format routes]
      refine ⟨fun valid other passes => ?_, fun holds => (holds outcome rfl).2⟩
      obtain rfl := Except.ok.inj passes
      exact ⟨enough, valid⟩
  · rw [failed, predicts_failure_iff (fails failure)]
    exact forall_congr' fun outcome => ⟨fun refuses passes => absurd passes refuses,
      fun holds passes => missing (holds passes).1⟩

/-- A dry run predicts what the live stages do with a message, if they pass it, exactly if no row that
runs needs a schema or a plugin and the body that comes out is a text; a preview also needs a sample
that is not empty. -/
theorem dry_runs_predict_iff (tables : StageTables) (tools : BuildTools)
    (semantics : StageSemantics World Document) (payloadHash : Bytes → String) (store : Store)
    (pipeline : Pipeline) (executor : Executor World) (world : World)
    (started : tables.startPipeline tools semantics payloadHash store pipeline = some executor)
    (stored : Owned.get store.pipelines pipeline.tenantID pipeline.id = some pipeline)
    (identified : pipeline.id ≠ "") (tenanted : pipeline.tenantID ≠ "") (own : OwnRows store pipeline) :
    (∀ request : PreviewRequest, request.pipelineID = pipeline.id →
      (Predicts (handlePreview tools semantics world store pipeline.tenantID {} (.ok request)).report
          (runStages world executor.stages request.sample) ↔
        ∀ outcome, runStages world executor.stages request.sample = .ok outcome →
          request.sample ≠ [] ∧ SelfContained tools store pipeline ∧ Utf8.Valid outcome.body)) ∧
      ∀ (held : HeldRow) (revisionNumber : Nat), held.row.entry.originalMsg = held.message →
        (Predicts (simulateReplay tools semantics world held.row revisionNumber pipeline
            (liveSnapshot store pipeline)).report (runStages world executor.stages held.message) ↔
          ∀ outcome, runStages world executor.stages held.message = .ok outcome →
            SelfContained tools store pipeline ∧ Utf8.Valid outcome.body) := by
  constructor
  · intro request named
    unfold handlePreview
    dsimp only
    by_cases empty : request.sample = []
    · rw [if_pos empty, predicts_failure_iff rfl]
      exact forall_congr' fun outcome => ⟨fun refuses passes => absurd passes refuses,
        fun holds passes => (holds passes).1 empty⟩
    · rw [if_neg empty, if_pos (named ▸ identified), if_neg tenanted, named, stored]
      dsimp only
      rw [previewContext_eq own]
      have predicts := @predicts_dryRun_iff World Document tables tools semantics payloadHash store pipeline
        executor world request.sample (fun answer => (PreviewAnswer.answered (previewResponse answer)).report)
        started (fun _ => rfl) fun outcome => ⟨rfl, rfl, rfl, fun routes member => by
          exact (Option.some.inj member).symm⟩
      rw [predicts]
      exact forall_congr' fun outcome => imp_congr_right fun _ => (and_iff_right empty).symm
  · intro held revisionNumber unredacted
    rw [← unredacted]
    exact @predicts_dryRun_iff World Document tables tools semantics payloadHash store pipeline executor world
      held.row.entry.originalMsg (fun answer => (replaySimResponse held.row revisionNumber answer).report) started
      (fun _ => rfl) fun outcome => ⟨rfl, rfl, rfl, fun _ member => absurd member (Option.not_mem_none _)⟩

end Predictions

/-! ### Pipelines to preview -/

/-- The preview of a message by a pipeline of `historyStore`. -/
def historyPreview (stageType : String) (message : Bytes) : PreviewAnswer :=
  handlePreview historyTools historySemantics () (historyStore stageType) "t" {}
    (.ok { pipelineID := "p", sample := message })

/-- The simulation of a message that failed there. -/
def historySim (stageType : String) (message : Bytes) : ReplaySimResponse :=
  simulateReplay historyTools historySemantics ()
    { id := "d", entry := { tenantID := "t", pipelineID := "p", sourceQueue := "", originalMsg := message
                            errorReason := "" } } 1 historyPipeline
    (liveSnapshot (historyStore stageType) historyPipeline)

/-- A message that passes the validate stage live: neither dry run builds the stage. -/
theorem validated_message_not_predicted :
    ∃ executor, historyExecutor "validate" = some executor ∧
      historyPreview "validate" xmlMessage = .answered
        { ok := false
          error := "build: validate stage references schema \"x\" but it is not loaded" } ∧
      ¬ Predicts (historyPreview "validate" xmlMessage).report (runStages () executor.stages xmlMessage) ∧
      ¬ Predicts (historySim "validate" xmlMessage).report (runStages () executor.stages xmlMessage) := by
  have runs : (historyExecutor "validate").any (fun executor => decide
      ((runStages () executor.stages xmlMessage).toOption.map StageOutcome.body = some xmlMessage)) = true := by
    decide
  obtain ⟨executor, started, tested⟩ := (Option.any_eq_true _ _).mp runs
  have body := of_decide_eq_true tested
  have passes : ∃ outcome, runStages () executor.stages xmlMessage = .ok outcome := by
    rcases ran : runStages () executor.stages xmlMessage with failure | outcome
    · rw [ran] at body
      exact absurd body.symm (Option.some_ne_none _)
    · exact ⟨outcome, rfl⟩
  have fails : (historyPreview "validate" xmlMessage).report.succeeds = false ∧
      (historySim "validate" xmlMessage).report.succeeds = false := by
    decide
  obtain ⟨outcome, passes⟩ := passes
  refine ⟨executor, started, by decide, fun predicts => ?_, fun predicts => ?_⟩
  · exact (predicts_failure_iff fails.1).mp predicts outcome passes
  · exact (predicts_failure_iff fails.2).mp predicts outcome passes

/-- A pipeline of one filter is predicted. -/
theorem filtered_message_predicted :
    ∃ executor, historyExecutor "filter" = some executor ∧
      Predicts (historyPreview "filter" xmlMessage).report (runStages () executor.stages xmlMessage) := by
  have runs : (historyExecutor "filter").any (fun executor => decide
      ((runStages () executor.stages xmlMessage).toOption.map StageOutcome.body = some xmlMessage)) = true := by
    decide
  obtain ⟨executor, started, tested⟩ := (Option.any_eq_true _ _).mp runs
  have own : OwnRows (historyStore "filter") historyPipeline :=
    ⟨by decide, by decide, by decide⟩
  have predicts := (dry_runs_predict_iff historyTables historyTools historySemantics (fun _ => "")
    (historyStore "filter") historyPipeline executor () started rfl (by decide) (by decide) own).1
    { pipelineID := "p", sample := xmlMessage } rfl
  refine ⟨executor, started, predicts.mpr fun outcome passes => ⟨by decide, ?_, ?_⟩⟩
  · intro row member _
    obtain rfl := List.mem_singleton.mp member
    trivial
  · have body := of_decide_eq_true tested
    rw [passes] at body
    rw [Option.some.inj body]
    exact Utf8.asText_eq_iff.mp (by decide)

end DryRun

end MqConnector
