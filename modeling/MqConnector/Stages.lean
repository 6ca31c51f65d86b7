/-
This file models the stage chain of `internal/pipeline`: the `Stage` interface,
`RunStages`, and the route stage, the one stage that names destinations.

A stage is its name and its `Execute`. Besides the message and its format a
stage may depend on things outside the message, so `Execute` also reads a value
of an arbitrary type `World`: a run of the chain is given one such value, and
two attempts at the same message may be given different ones.
-/

import MqConnector.Models
import Mathlib.Data.List.Dedup
import Mathlib.Data.List.Sort

namespace MqConnector

/-! ### Formats -/

/-- The formats of messages. -/
inductive Format
  | json | xml | protobuf | bytes
  deriving DecidableEq

/-- A message without the blanks before it. -/
def trimLeftSpace (message : Bytes) : Bytes :=
  message.dropWhile fun byte => byte = 0x20 || byte = 0x09 || byte = 0x0a || byte = 0x0d

/-- `isJSON`: the first byte that is not a blank can start a JSON value. -/
def isJSON (message : Bytes) : Bool :=
  match trimLeftSpace message with
  | [] => false
  | first :: _ =>
    first = 0x7b || first = 0x5b || first = 0x22 || first = 0x74 || first = 0x66 ||
      first = 0x6e || first = 0x2d || (0x30 ≤ first && first ≤ 0x39)

/-- `isXML`: an opening angle bracket followed by a declaration mark, a letter or an
underscore. -/
def isXML (message : Bytes) : Bool :=
  match trimLeftSpace message with
  | first :: second :: _ =>
    first = 0x3c && (second = 0x3f || second = 0x21 || (0x61 ≤ second && second ≤ 0x7a) ||
      (0x41 ≤ second && second ≤ 0x5a) || second = 0x5f)
  | _ => false

/-- `Detect`. -/
def detect (message : Bytes) : Format :=
  if isJSON message then .json else if isXML message then .xml else .bytes

/-! ### Stages -/

/-- `pipeline.Result`: the destinations a stage asks the executor to fan out to. -/
structure Result where
  destinations : List String
  deriving DecidableEq

/-- What a successful `Execute` returns. A missing format is the empty string of the source,
which leaves the current format as it is. -/
structure StageOutput where
  body : Bytes
  format : Option Format
  result : Option Result
  deriving DecidableEq

/-- A stage: its name and what it does with a message. -/
structure Stage (World : Type) where
  name : String
  execute : World → Bytes → Format → Except String StageOutput

/-- `pipeline.StageRun` without its timing. On failure the body and format are those the
stage was given. -/
structure StageRun where
  name : String
  failed : Bool
  body : Bytes
  format : Format
  err : String := ""
  deriving DecidableEq

/-- What the stages return. -/
structure StageOutcome where
  body : Bytes
  format : Format
  route : Option Result
  runs : List StageRun
  deriving DecidableEq

/-- The error of `RunStages` with the runs returned beside it. -/
structure StageFailure where
  reason : String
  runs : List StageRun
  deriving DecidableEq

/-- The route after one stage: a result that names no destination does not replace it. -/
def updateRoute (route : Option Result) : Option Result → Option Result
  | some result => if result.destinations = [] then route else some result
  | none => route

/-- The loop of `RunStages` over the remaining stages. -/
def runStagesFrom {World : Type} (world : World) :
    List (Stage World) → StageOutcome → Except StageFailure StageOutcome
  | [], outcome => .ok outcome
  | stage :: rest, outcome =>
    match stage.execute world outcome.body outcome.format with
    | .error err =>
      .error { reason := stage.name ++ ": " ++ err
               runs := outcome.runs ++ [{ name := stage.name, failed := true,
                                          body := outcome.body, format := outcome.format,
                                          err := err }] }
    | .ok output =>
      let format := output.format.getD outcome.format
      runStagesFrom world rest
        { body := output.body
          format := format
          route := updateRoute outcome.route output.result
          runs := outcome.runs ++ [{ name := stage.name, failed := false,
                                     body := output.body, format := format }] }

/-- `RunStages`. -/
def runStages {World : Type} (world : World) (stages : List (Stage World)) (message : Bytes) :
    Except StageFailure StageOutcome :=
  runStagesFrom world stages
    { body := message, format := detect message, route := none, runs := [] }

/-- `failingStageFromRuns`: name and index of the failing stage, which is the last run. -/
def failingStageFromRuns (runs : List StageRun) : String × Nat :=
  match runs.getLast? with
  | none => ("", 0)
  | some tail => if tail.failed then (tail.name, runs.length - 1) else ("", 0)

/-! ### The route stage -/

/-- How the route stage reads a message: `decodeStructured`, and whether a rule's condition
holds of the decoded document (`getNestedValue` followed by `evaluateCondition`, a missing
path never matching). -/
structure RouteReader (Document : Type) where
  decodeStructured : Bytes → Format → Except String Document
  matched : Document → RoutingRule → Bool

/-- The destinations of the matching rules in order, each once. -/
def matchingDestinations {Document : Type} (reader : RouteReader Document)
    (document : Document) (rules : List RoutingRule) : List String :=
  rules.foldl (fun seen rule =>
    if reader.matched document rule && !seen.contains rule.destinationID then
      seen ++ [rule.destinationID]
    else seen) []

/-- `RouteStage.Execute`. -/
def routeExecute {Document : Type} (reader : RouteReader Document) (rules : List RoutingRule)
    (message : Bytes) (format : Format) : Except String StageOutput :=
  -- sort.SliceStable by priority over the enabled rules
  let enabled := (rules.filter (·.enabled)).insertionSort fun first second =>
    first.priority ≤ second.priority
  if enabled = [] then .ok { body := message, format := some format, result := none }
  else
    match reader.decodeStructured message format with
    | .error err => .error ("route: " ++ err)
    | .ok document =>
      let destinations := matchingDestinations reader document enabled
      if destinations = [] then .ok { body := message, format := some format, result := none }
      else .ok { body := message, format := some format, result := some ⟨destinations⟩ }

/-- The stage that finds the destinations of a message. -/
def routeStage {World Document : Type} (reader : RouteReader Document)
    (rules : List RoutingRule) : Stage World where
  name := "route"
  execute _ message format := routeExecute reader rules message format

theorem mem_matchingDestinations {Document : Type} (reader : RouteReader Document)
    (document : Document) (rules : List RoutingRule) (destination : String)
    (member : destination ∈ matchingDestinations reader document rules) :
    ∃ rule ∈ rules, rule.destinationID = destination := by
  -- the fold keeps: what has been collected so far comes from a rule already seen
  suffices general : ∀ (rest : List RoutingRule) (seen : List String),
      destination ∈ rest.foldl (fun seen rule =>
        if reader.matched document rule && !seen.contains rule.destinationID then
          seen ++ [rule.destinationID]
        else seen) seen →
      destination ∈ seen ∨ ∃ rule ∈ rest, rule.destinationID = destination by
    rcases general rules [] member with none | found
    · cases none
    · exact found
  intro rest
  induction rest with
  | nil =>
    intro seen inSeen
    exact Or.inl inSeen
  | cons rule rest hypothesis =>
    intro seen inFold
    rw [List.foldl_cons] at inFold
    rcases hypothesis _ inFold with inSeen | ⟨later, laterMember, named⟩
    · split at inSeen
      · rcases List.mem_append.mp inSeen with old | new
        · exact Or.inl old
        · exact Or.inr ⟨rule, List.mem_cons_self, (List.mem_singleton.mp new).symm⟩
      · exact Or.inl inSeen
    · exact Or.inr ⟨later, List.mem_cons_of_mem _ laterMember, named⟩

theorem routeExecute_destinations {Document : Type} (reader : RouteReader Document)
    (rules : List RoutingRule) (message : Bytes) (format : Format) (output : StageOutput)
    (result : Result) (executed : routeExecute reader rules message format = .ok output)
    (named : output.result = some result) (destination : String)
    (member : destination ∈ result.destinations) :
    ∃ rule ∈ rules, rule.enabled = true ∧ rule.destinationID = destination := by
  unfold routeExecute at executed
  simp only at executed
  split at executed
  · cases executed
    cases named
  · split at executed
    · cases executed
    · split at executed
      · cases executed
        cases named
      · cases executed
        cases named
        obtain ⟨rule, ruleMember, equal⟩ := mem_matchingDestinations _ _ _ _ member
        rw [List.mem_insertionSort, List.mem_filter] at ruleMember
        exact ⟨rule, ruleMember.1, ruleMember.2, equal⟩

/-! ### Where the outcome's route comes from -/

/-- Every destination `stage` can name satisfies `known`. -/
def Stage.NamesOnly {World : Type} (stage : Stage World) (known : String → Prop) : Prop :=
  ∀ world message format output result, stage.execute world message format = .ok output →
    output.result = some result → ∀ destination ∈ result.destinations, known destination

/-- A route names only destinations that satisfy `known`. -/
def RouteWithin (known : String → Prop) : Option Result → Prop
  | none => True
  | some result => ∀ destination ∈ result.destinations, known destination

theorem updateRoute_within (known : String → Prop) (route update : Option Result)
    (before : RouteWithin known route) (named : RouteWithin known update) :
    RouteWithin known (updateRoute route update) := by
  cases update with
  | none => exact before
  | some result =>
    simp only [updateRoute]
    split
    · exact before
    · exact named

theorem runStagesFrom_route {World : Type} (world : World) (known : String → Prop)
    (stages : List (Stage World)) (within : ∀ stage ∈ stages, stage.NamesOnly known) :
    ∀ (start outcome : StageOutcome), RouteWithin known start.route →
      runStagesFrom world stages start = .ok outcome → RouteWithin known outcome.route := by
  induction stages with
  | nil =>
    intro start outcome before finished
    cases finished
    exact before
  | cons stage rest hypothesis =>
    intro start outcome before finished
    rw [runStagesFrom] at finished
    split at finished
    · cases finished
    · rename_i output executed
      refine hypothesis (fun other member => within other (List.mem_cons_of_mem _ member))
        _ outcome (updateRoute_within known _ _ before ?_) finished
      cases result : output.result with
      | none => trivial
      | some named =>
        exact within stage List.mem_cons_self world _ _ output named executed result

theorem runStages_route {World : Type} (world : World) (known : String → Prop)
    (stages : List (Stage World)) (within : ∀ stage ∈ stages, stage.NamesOnly known)
    (message : Bytes) (outcome : StageOutcome)
    (finished : runStages world stages message = .ok outcome) :
    RouteWithin known outcome.route :=
  runStagesFrom_route world known stages within
    { body := message, format := detect message, route := none, runs := [] } outcome trivial finished

end MqConnector
