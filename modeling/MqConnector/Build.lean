/-
This file models how a stored pipeline becomes an executor: `pipeline.Build`,
which makes one stage of every enabled stage row, and the part of
`Manager.startPipeline` that resolves the connections and fills the executor in.

What the six content stages do to a message is a parameter here; none of them
names a destination. The route stage is built from all the pipeline's routing
rules whatever its own row says, and `startPipeline` resolves the destinations
of exactly the enabled ones, so an executor it builds can resolve every
destination its stages can name.
-/

import MqConnector.Executor
import MqConnector.Store

namespace MqConnector

/-! ### Build -/

/-- The stage types besides route that `Build` knows. -/
inductive ContentStage
  | filter | transform | translate | script | validate | wasm
  deriving DecidableEq

/-- How a content stage is made of its row and of the pipeline's other rows, the schemas and
plugins at hand included, and how the route stage reads a message. -/
structure StageBuilder (World Document : Type) where
  make : ContentStage → Rows → StageRow → Except String (Stage World)
  reader : RouteReader Document
  silent : ∀ kind rows row stage, make kind rows row = .ok stage → stage.NamesOnly fun _ => False

namespace StageBuilder

variable {World Document : Type} (builder : StageBuilder World Document)

/-- The case of `Build` a row falls into. -/
def buildStage (rows : Rows) (row : StageRow) : Except String (Stage World) :=
  match row.stageType with
  | "filter" => builder.make .filter rows row
  | "transform" => builder.make .transform rows row
  | "translate" => builder.make .translate rows row
  | "route" => .ok (routeStage builder.reader rows.routingRules)
  | "script" => builder.make .script rows row
  | "validate" => builder.make .validate rows row
  | "wasm" => builder.make .wasm rows row
  | other => .error ("unknown stage type \"" ++ other ++ "\"")

/-- The loop of `Build` over the stage rows. -/
def buildFrom (rows : Rows) : List StageRow → Except String (List (Stage World))
  | [] => .ok []
  | row :: rest =>
    if row.enabled then
      match builder.buildStage rows row with
      | .error err => .error err
      | .ok stage =>
        match buildFrom rows rest with
        | .error err => .error err
        | .ok stages => .ok (stage :: stages)
    else buildFrom rows rest

def build (rows : Rows) : Except String (List (Stage World)) :=
  builder.buildFrom rows rows.stages

/-- Whether `Build` succeeds. -/
def builds (rows : Rows) : Bool :=
  match builder.build rows with
  | .ok _ => true
  | .error _ => false

theorem buildStage_namesOnly (rows : Rows) (row : StageRow) (stage : Stage World)
    (built : builder.buildStage rows row = .ok stage) :
    stage.NamesOnly fun destination => destination ∈ routeDestinations rows.routingRules := by
  have quiet : ∀ kind, builder.make kind rows row = .ok stage →
      stage.NamesOnly fun destination => destination ∈ routeDestinations rows.routingRules := by
    intro kind made world message format output result executed named destination member
    exact (builder.silent kind rows row stage made world message format output result executed
      named destination member).elim
  unfold buildStage at built
  split at built
  · exact quiet _ built
  · exact quiet _ built
  · exact quiet _ built
  · rw [Except.ok.injEq] at built
    subst built
    intro world message format output result executed named destination member
    obtain ⟨rule, ruleMember, enabled, equal⟩ :=
      routeExecute_destinations _ _ _ _ _ _ executed named destination member
    unfold routeDestinations
    rw [List.mem_eraseDups, List.mem_map]
    exact ⟨rule, List.mem_filter.mpr ⟨ruleMember, enabled⟩, equal⟩
  · exact quiet _ built
  · exact quiet _ built
  · exact quiet _ built
  · exact absurd built (by simp)

theorem buildFrom_namesOnly (rows : Rows) (remaining : List StageRow) :
    ∀ stages, builder.buildFrom rows remaining = .ok stages → ∀ stage ∈ stages,
      stage.NamesOnly fun destination => destination ∈ routeDestinations rows.routingRules := by
  induction remaining with
  | nil =>
    intro stages built stage member
    rw [buildFrom, Except.ok.injEq] at built
    rw [← built] at member
    exact absurd member (List.not_mem_nil)
  | cons row rest hypothesis =>
    intro stages built stage member
    rw [buildFrom] at built
    split at built
    · split at built
      · exact absurd built (by simp)
      · rename_i first madeFirst
        split at built
        · exact absurd built (by simp)
        · rename_i later madeRest
          rw [Except.ok.injEq] at built
          rw [← built] at member
          rcases List.mem_cons.mp member with rfl | inRest
          · exact builder.buildStage_namesOnly rows row stage madeFirst
          · exact hypothesis later madeRest stage inRest
    · exact hypothesis stages built stage member

end StageBuilder

/-! ### The executor of a stored pipeline -/

namespace Store

variable {World Document : Type}

/-- The map `startPipeline` fills with the destinations of the enabled rules. -/
def routeConfigs (store : Store) (pipeline : Pipeline) (destination : String) : Option Config :=
  if destination ∈ routeDestinations (store.listRoutingRules pipeline.id) then
    (store.connections destination).map Connection.toConfig
  else none

/-- The shadow destination, kept when it is there and belongs to the pipeline's tenant. -/
def shadowConfig (store : Store) (pipeline : Pipeline) : Option Config :=
  ((store.gather pipeline).shadow.filter fun connection =>
    connection.tenantID = pipeline.tenantID).map Connection.toConfig

theorem routeConfigs_isSome (store : Store) (pipeline : Pipeline) (builds : Rows → Bool)
    (accepted : (store.gather pipeline).accepted builds = true) (destination : String)
    (routed : destination ∈ routeDestinations (store.listRoutingRules pipeline.id)) :
    (store.routeConfigs pipeline destination).isSome = true := by
  unfold routeConfigs
  rw [if_pos routed, Option.isSome_map]
  simp only [Rows.accepted, Bool.and_eq_true, List.all_eq_true] at accepted
  have ours := accepted.2 (store.connections destination)
    (List.mem_map.mpr ⟨destination, routed, rfl⟩)
  rcases found : store.connections destination with _ | connection
  · rw [found] at ours
    exact absurd ours (by simp)
  · rfl

/-- The executor `startPipeline` builds from what is stored, when it accepts the pipeline. -/
def startPipeline (builder : StageBuilder World Document) (payloadHash : Bytes → String)
    (store : Store) (pipeline : Pipeline) : Option (Executor World) :=
  let rows := store.gather pipeline
  if accepted : rows.accepted builder.builds = true then
    match built : builder.build rows, rows.source, rows.destination with
    | .ok stages, some source, some destination =>
      some
        { pipeline := pipeline
          stages := stages
          source := source.toConfig
          sourceQueue := source.queueName
          defaultDest := destination.toConfig
          routeDests := store.routeConfigs pipeline
          shadowDest := store.shadowConfig pipeline
          payloadHash := payloadHash
          routesResolved := by
            intro stage member world message format output result executed named destination found
            exact store.routeConfigs_isSome pipeline builder.builds accepted destination
              (builder.buildFrom_namesOnly rows rows.stages stages built stage member world message
                format output result executed named destination found) }
    | _, _, _ => none
  else none

theorem startPipeline_eq {builder : StageBuilder World Document} {payloadHash : Bytes → String}
    {store : Store} {pipeline : Pipeline} {executor : Executor World}
    (started : startPipeline builder payloadHash store pipeline = some executor) :
    builder.build (store.gather pipeline) = .ok executor.stages ∧ executor.pipeline = pipeline ∧
      executor.routeDests = store.routeConfigs pipeline ∧
      (∃ source, store.connections pipeline.sourceID = some source ∧
        executor.source = source.toConfig) ∧
      ∃ destination, store.connections pipeline.destinationID = some destination ∧
        executor.defaultDest = destination.toConfig := by
  unfold startPipeline at started
  dsimp only at started
  split at started
  · split at started
    · rename_i stages source destination built sourceFound destinationFound
      cases started
      exact ⟨built, rfl, rfl, ⟨source, sourceFound, rfl⟩, destination, destinationFound, rfl⟩
    · cases started
  · cases started

end Store

end MqConnector
