/-
This file models the store of the pipeline studio: the loaded pipeline, the draft that is edited
from it, and the state that the chrome shows.

A number of the store is a `float64`, so the order that a new stage gets is rounded. What the store
holds and never looks into, such as a pipeline, a revision or the result of a dry run, is a value of
one type.
-/

import Mathlib.Data.List.Sort
import MqConnector.Doubles

namespace MqConnector

namespace Studio

/-- `StudioState`. -/
inductive Chrome
  | empty | building | dirty | validating | deploying | error | simulating | versionComparing
  deriving DecidableEq

/-- `StudioStageType`. -/
inductive StageKind
  | filter | transform | translate | route | script | validate | wasm
  deriving DecidableEq

/-- A stage of the draft. -/
structure Stage where
  id : String
  pipelineId : String := ""
  stageOrder : ℚ
  stageType : StageKind
  stageConfig : String
  enabled : Bool := true
  deriving DecidableEq

variable {Json : Type}

/-- `StudioSnapshot`. -/
structure Snapshot (Json : Type) where
  pipeline : Json
  stages : List Stage
  transforms : List Json
  routingRules : List Json

/-- Two revisions that are compared. -/
structure Comparison (Json : Type) where
  start : ℚ
  stop : ℚ
  diff : Json

/-- `StudioStateData`. -/
structure Data (Json : Type) where
  pipelineId : String
  state : Chrome := .empty
  baseline : Option (Snapshot Json) := none
  draft : Option (Snapshot Json) := none
  deployedRev : Option Json := none
  latestRev : Option Json := none
  revisions : List Json := []
  error : Option String := none
  dirtyCount : Nat := 0
  selectedNodeId : Option String := none
  comparison : Option (Comparison Json) := none
  dryRun : Option Json := none
  dockError : Option String := none

/-- The store before anything is loaded. -/
def emptyData (pipelineId : String) : Data Json :=
  { pipelineId }

/-! ### Loading -/

/-- What comes of a fetch: the value, or the message and the status of the error. -/
inductive Settled (Value : Type)
  | ok (value : Value)
  | err (message : String) (status : Nat)

/-- The six answers that a `hydrate` waits for. A list that is `null` is empty. -/
structure Answers (Json : Type) where
  pipeline : Settled Json
  stages : Settled (List Stage)
  transforms : Settled (List Json)
  rules : Settled (List Json)
  revisions : Settled (List Json)
  current : Settled Json

/-- The sort keys of transforms and routing rules. -/
structure Keys (Json : Type) where
  order : Json → ℚ
  priority : Json → ℚ

/-- `Array.prototype.sort` by a number, which is stable. -/
def sortBy {Value : Type} (key : Value → ℚ) (values : List Value) : List Value :=
  values.insertionSort fun first second => key first ≤ key second

/-- What `hydrate` leaves where a fetch that it needs fails. -/
def failed (pipelineId message : String) : Data Json :=
  { emptyData pipelineId with
    state := .error
    error := some (if message = "" then "failed to load studio" else message) }

/-- What `hydrate` leaves of its baseline. -/
def loaded (pipelineId : String) (baseline : Snapshot Json) (answers : Answers Json) : Data Json :=
  let revisions := match answers.revisions with
    | .ok revisions => revisions
    | .err _ _ => []
  { pipelineId
    state := .building
    baseline := some baseline
    draft := some baseline
    deployedRev := match answers.current with
      | .ok revision => some revision
      | .err _ _ => none
    latestRev := revisions.head?
    revisions }

/-- `hydrate` after its fetches. -/
def hydrated (keys : Keys Json) (pipelineId : String) (answers : Answers Json) : Data Json :=
  match answers.pipeline, answers.stages, answers.transforms, answers.rules with
  | .err message _, _, _, _ => failed pipelineId message
  | _, .err message _, _, _ => failed pipelineId message
  | _, _, .err message _, _ => failed pipelineId message
  | _, _, _, .err message _ => failed pipelineId message
  | .ok pipeline, .ok stages, .ok transforms, .ok rules =>
    loaded pipelineId
      { pipeline
        stages := sortBy Stage.stageOrder stages
        transforms := sortBy keys.order transforms
        routingRules := sortBy keys.priority rules }
      answers

/-! ### The state of the chrome -/

namespace Data

variable (s : Data Json)

/-- An edit marks the draft as changed. -/
def markDirty : Data Json :=
  { s with
    state := if s.state = .empty then .empty else .dirty
    dirtyCount := s.dirtyCount + 1 }

/-- The draft is the baseline again. -/
def resetDraft : Data Json :=
  match s.baseline with
  | none => s
  | some baseline => { s with
      draft := some baseline
      dirtyCount := 0
      state := .building
      error := none }

/-- An error is shown. -/
def setError (msg : String) : Data Json :=
  { s with
    state := .error
    error := some msg }

/-- The error is gone, whatever was edited. -/
def clearError : Data Json :=
  { s with
    state := .building
    error := none }

/-- A comparison is shown. -/
def setComparison (start stop : ℚ) (diff : Json) : Data Json :=
  { s with
    state := .versionComparing
    comparison := some { start, stop, diff } }

/-- The state that a closed panel goes back to. -/
def editState : Chrome :=
  if 0 < s.dirtyCount then .dirty else .building

/-- The comparison is closed. -/
def clearComparison : Data Json :=
  { s with
    state := s.editState
    comparison := none }

/-- The result of a dry run is shown. -/
def setDryRun (result : Json) : Data Json :=
  { s with
    state := .simulating
    dryRun := some result
    dockError := none }

/-- The dry run is closed. -/
def clearDryRun : Data Json :=
  { s with
    state := s.editState
    dryRun := none
    dockError := none }

/-- A dry run is under way. -/
def beginDryRun : Data Json :=
  { s with
    state := .simulating
    dryRun := none
    dockError := none }

/-- A dry run has ended with a result. -/
def finishDryRun (result : Json) : Data Json :=
  s.setDryRun result

/-- A dry run has ended with an error. -/
def failDryRun (message : String) : Data Json :=
  { s with
    state := s.editState
    dryRun := none
    dockError := some message }

/-- The error of the dock is gone. -/
def clearDockError : Data Json :=
  { s with dockError := none }

end Data

/-! ### Edits of the stages -/

/-- The configuration of a stage that is added. -/
def defaultStageConfig : StageKind → String
  | .filter => "\x7b\"paths\":[]\x7d"
  | .translate => "\x7b\"output_format\":\"same\"\x7d"
  | .script => "\x7b\"script\":\"// msg.foo = 1\\nmsg;\"\x7d"
  | .validate => "\x7b\"schema_id\":\"\"\x7d"
  | .route => "\x7b\x7d"
  | .transform => "\x7b\x7d"
  | .wasm => "\x7b\"plugin\":\"\"\x7d"

/-- The largest order, and zero at least. -/
def maxOrder (stages : List Stage) : ℚ :=
  stages.foldl (fun most stage => if most < stage.stageOrder then stage.stageOrder else most) 0

/-- The order of a new stage: one more, rounded to a `float64`. -/
def nextOrder (stages : List Stage) : ℚ :=
  binary64.nearest (maxOrder stages + 1)

/-- Stages numbered in order, behind so many. -/
def renumber : Nat → List Stage → List Stage
  | _, [] => []
  | i, st :: rest => { st with stageOrder := (i + 1 : Nat) } :: renumber (i + 1) rest

/-- The `Map` from ids to stages, in which the last stage with an id stays. -/
def byId (stages : List Stage) (id : String) : Option Stage :=
  stages.reverse.find? fun st => st.id = id

/-- The loop over the ids: a stage gets the place of its id in the list, and an unknown id is passed over. -/
def placed (stages : List Stage) : Nat → List String → List Stage
  | _, [] => []
  | i, id :: rest =>
    match byId stages id with
    | none => placed stages (i + 1) rest
    | some st => { st with stageOrder := (i + 1 : Nat) } :: placed stages (i + 1) rest

/-- The stages in the order of the ids, and behind them those that are not listed. -/
def reordered (stages : List Stage) (stageIdsInOrder : List String) : List Stage :=
  let listed := placed stages 0 stageIdsInOrder
  if listed.length ≠ stages.length then
    listed ++ renumber listed.length (stages.filter fun st => st.id ∉ listed.map Stage.id)
  else listed

/-- `Partial<Stage>`. -/
structure StagePatch where
  id : Option String := none
  pipelineId : Option String := none
  stageOrder : Option ℚ := none
  stageType : Option StageKind := none
  stageConfig : Option String := none
  enabled : Option Bool := none

/-- `{ ...st, ...patch }`. -/
def StagePatch.apply (patch : StagePatch) (st : Stage) : Stage where
  id := patch.id.getD st.id
  pipelineId := patch.pipelineId.getD st.pipelineId
  stageOrder := patch.stageOrder.getD st.stageOrder
  stageType := patch.stageType.getD st.stageType
  stageConfig := patch.stageConfig.getD st.stageConfig
  enabled := patch.enabled.getD st.enabled

namespace Data

variable (s : Data Json)

/-- `addStage`, with the id that it makes up. -/
def addStage (stageType : StageKind) (newId : String) : Data Json :=
  match s.draft with
  | none => s.markDirty
  | some draft =>
    let next : Stage :=
      { id := newId
        stageOrder := nextOrder draft.stages
        stageType
        stageConfig := defaultStageConfig stageType }
    { s with draft := some { draft with stages := draft.stages ++ [next] } }.markDirty

/-- A stage is removed, and the others are numbered anew. -/
def removeStage (stageId : String) : Data Json :=
  match s.draft with
  | none => s
  | some draft =>
    let stages := draft.stages.filter fun st => st.id ≠ stageId
    if stages.length = draft.stages.length then s
    else
      { s with
        draft := some { draft with stages := renumber 0 stages }
        selectedNodeId := if s.selectedNodeId = some stageId then none else s.selectedNodeId }.markDirty

/-- The stages that are listed, in that order. -/
def reorderStages (stageIdsInOrder : List String) : Data Json :=
  match s.draft with
  | none => s
  | some draft =>
    let stages := reordered draft.stages stageIdsInOrder
    if stages.map Stage.id = draft.stages.map Stage.id then s
    else { s with draft := some { draft with stages } }.markDirty

/-- Some fields of one stage are replaced. -/
def patchStage (stageId : String) (patch : StagePatch) : Data Json :=
  match s.draft with
  | none => s
  | some draft =>
    if stageId ∉ draft.stages.map Stage.id then s
    else
      let stages := draft.stages.map fun st => if st.id ≠ stageId then st else patch.apply st
      { s with draft := some { draft with stages } }.markDirty

end Data

/-- The operations on a draft, with what they are called with. -/
inductive Operation (Json : Type)
  | addStage (stageType : StageKind) (newId : String)
  | removeStage (stageId : String)
  | reorderStages (stageIdsInOrder : List String)
  | patchStage (stageId : String) (patch : StagePatch)
  | resetDraft
  | setError (msg : String)
  | clearError
  | setComparison (start stop : ℚ) (diff : Json)
  | clearComparison
  | setDryRun (result : Json)
  | clearDryRun
  | beginDryRun
  | finishDryRun (result : Json)
  | failDryRun (message : String)
  | clearDockError

/-- Each operation runs its action. -/
def Operation.run (s : Data Json) : Operation Json → Data Json
  | .addStage stageType newId => s.addStage stageType newId
  | .removeStage stageId => s.removeStage stageId
  | .reorderStages ids => s.reorderStages ids
  | .patchStage stageId patch => s.patchStage stageId patch
  | .resetDraft => s.resetDraft
  | .setError msg => s.setError msg
  | .clearError => s.clearError
  | .setComparison start stop diff => s.setComparison start stop diff
  | .clearComparison => s.clearComparison
  | .setDryRun result => s.setDryRun result
  | .clearDryRun => s.clearDryRun
  | .beginDryRun => s.beginDryRun
  | .finishDryRun result => s.finishDryRun result
  | .failDryRun message => s.failDryRun message
  | .clearDockError => s.clearDockError

end Studio

end MqConnector
