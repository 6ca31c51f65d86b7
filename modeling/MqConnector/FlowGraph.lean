/-
This file models the graph behind the flow builder of the web console
(`web/src/lib/flow-graph.ts`, with the checks `saveAndDeploy` makes before it sends
anything): `pipelineToFlow` draws a stored pipeline, and the checks read the chain of
stages back from the drawing.

The places of the nodes on the canvas are left out. What a browser does with JSON is a
parameter. A stage type is cast to a kind of node without a check, so a kind may be of
any name.
-/

import MqConnector.TopologicalOrder
import MqConnector.Fields
import MqConnector.Store

namespace MqConnector

open Fields

namespace Flow

/-! ### The drawing of a pipeline -/

/-- `FlowNodeKind`; `other` is a stage type that the builder does not know. -/
inductive FlowNodeKind
  | source | destination | filter | transform | translate | route | script | validate
  | other (name : String)
  deriving DecidableEq

/-- A kind as the diagram spells it. -/
def FlowNodeKind.name : FlowNodeKind → String
  | .source => "source"
  | .destination => "destination"
  | .filter => "filter"
  | .transform => "transform"
  | .translate => "translate"
  | .route => "route"
  | .script => "script"
  | .validate => "validate"
  | .other name => name

/-- The kind of a stage type. -/
def FlowNodeKind.ofName : String → FlowNodeKind
  | "source" => .source
  | "destination" => .destination
  | "filter" => .filter
  | "transform" => .transform
  | "translate" => .translate
  | "route" => .route
  | "script" => .script
  | "validate" => .validate
  | name => .other name

/-- `StageType`: the stage types the builder knows. -/
def stageKinds : List String := ["filter", "transform", "translate", "route", "script", "validate"]

/-- `JSON` of the browser: whether `JSON.parse` takes a text, and `JSON.stringify` of an object. -/
structure Browser where
  parses : String → Bool
  stringify : Record → String
  parses_empty : parses "" = false

/-- A node of the diagram. -/
structure FlowNode where
  id : Nat
  kind : FlowNodeKind
  label : String
  connectionID : String := ""
  config : String
  deriving DecidableEq

/-- `value || fallback` on texts. -/
def orElse (value fallback : String) : String :=
  if value = "" then fallback else value

/-- `FlowReconstruction`; an edge has the ids of its two nodes. -/
structure FlowReconstruction where
  nodes : List FlowNode
  edges : List (Nat × Nat)
  deriving DecidableEq

section Drawing

variable (browser : Browser) (sourceID destinationID : String)

/-- The node of the source connection. -/
def sourceNode : FlowNode :=
  { id := 1, kind := .source, label := "source", connectionID := sourceID, config := "\x7b\x7d" }

/-- The node of a stage. -/
def stageNode (stage : StageRow) (index : Nat) : FlowNode where
  id := index + 2
  kind := .ofName stage.stageType
  label := stage.stageType
  config := orElse stage.stageConfig "\x7b\x7d"

/-- The destination of the pipeline, after this many stages. -/
def destinationNode (count : Nat) : FlowNode where
  id := count + 2
  kind := .destination
  label := "destination"
  connectionID := destinationID
  config := "\x7b\x7d"

/-- The destination node of a rule. -/
def ruleNode (rule : RoutingRule) (id : Nat) : FlowNode where
  id := id
  kind := .destination
  label := "destination"
  connectionID := rule.destinationID
  config := browser.stringify [
    ("condition_path", .text rule.conditionPath),
    ("condition_operator", .text (orElse rule.conditionOperator "eq")),
    ("condition_value", .text rule.conditionValue),
    ("priority", .number rule.priority)]

/-- The node that rules leave from, the last route stage. -/
def routeID (ordered : List StageRow) : Option Nat :=
  (ordered.zipIdx.filter fun entry => FlowNodeKind.ofName entry.1.stageType = .route).getLast?.map
    fun entry => entry.2 + 2

/-- The rules that get a destination of their own: a rule for the destination of the pipeline has its
edge already. -/
def drawnRules (rules : List RoutingRule) : List RoutingRule :=
  (rules.insertionSort fun first second => first.priority ≤ second.priority).filter fun rule =>
    ¬ (rule.destinationID ≠ "" ∧ rule.destinationID = destinationID)

/-- The destinations of the rules, if there is a route stage to draw them from. -/
def ruleNodes (ordered : List StageRow) (rules : List RoutingRule) : List FlowNode :=
  match routeID ordered with
  | none => []
  | some _ =>
    (drawnRules destinationID rules).zipIdx.map fun entry =>
      ruleNode browser entry.1 (ordered.length + 3 + entry.2)

/-- The edges from the route stage to the destinations of the rules. -/
def ruleEdges (ordered : List StageRow) (rules : List RoutingRule) : List (Nat × Nat) :=
  match routeID ordered with
  | none => []
  | some route =>
    (drawnRules destinationID rules).zipIdx.map fun entry => (route, ordered.length + 3 + entry.2)

/-- The diagram of a stored pipeline. -/
def pipelineToFlow (stages : List StageRow) (rules : List RoutingRule) : FlowReconstruction :=
  let ordered := stages.insertionSort fun first second => first.stageOrder ≤ second.stageOrder
  { nodes := [sourceNode sourceID] ++ (ordered.zipIdx.map fun entry => stageNode entry.1 entry.2) ++
      [destinationNode destinationID ordered.length] ++ ruleNodes browser destinationID ordered rules
    edges := (ordered.zipIdx.map fun entry => (entry.2 + 1, entry.2 + 2)) ++
      [(ordered.length + 1, ordered.length + 2)] ++ ruleEdges destinationID ordered rules }

end Drawing

/-! ### The checks before a save -/

/-- What a save can fail with, by the keys of the texts; `refused` is an answer of the server. -/
inductive FlowError
  | needSource | needDest | missingConn | cycleDetected | notConnected
  | configInvalid (kind label : String)
  | refused (status : Nat)
  deriving DecidableEq

namespace FlowReconstruction

variable (browser : Browser) (drawing : FlowReconstruction)

/-- The node of an id. -/
def byID (id : Nat) : Option FlowNode :=
  drawing.nodes.find? fun node => node.id = id

/-- The chain of stages: everything between the source and the first destination. -/
def stageChain : List Nat → List FlowNode
  | [] => []
  | id :: rest =>
    match drawing.byID id with
    | none => stageChain rest
    | some node =>
      if node.kind = .source then stageChain rest
      else if node.kind = .destination then []
      else node :: stageChain rest

/-- What a drawing that passes the checks is saved from. -/
structure Checked where
  source : FlowNode
  defaultDest : FlowNode
  stageNodes : List FlowNode

/-- The checks of `saveAndDeploy`. -/
def check : Except FlowError Checked :=
  let destinations := drawing.nodes.filter fun node => node.kind = .destination
  match drawing.nodes.filter fun node => node.kind = .source, destinations with
  | [source], defaultDest :: _ =>
    if source.connectionID = "" ∨ ∃ node ∈ destinations, node.connectionID = "" then .error .missingConn
    else
      match Topological.order drawing.edges (drawing.nodes.map FlowNode.id) source.id with
      | none => .error .cycleDetected
      | some order =>
        if ∃ node ∈ destinations, node.id ∉ order then .error .notConnected
        else
          let stageNodes := drawing.stageChain order
          match stageNodes.find? fun node => !browser.parses (orElse node.config "\x7b\x7d") with
          | some node => .error (.configInvalid node.kind.name node.label)
          | none => .ok { source, defaultDest, stageNodes }
  | [_], [] => .error .needDest
  | _, _ => .error .needSource

end FlowReconstruction

/-! ### A drawing passes the checks -/

section Drawn

variable {browser : Browser} {sourceID destinationID : String} {ordered stages : List StageRow}
  {rules : List RoutingRule}

theorem ofName_mem_stageKinds {name : String} (known : name ∈ stageKinds) :
    FlowNodeKind.ofName name ≠ .source ∧ FlowNodeKind.ofName name ≠ .destination :=
  (show ∀ name ∈ stageKinds, FlowNodeKind.ofName name ≠ .source ∧ FlowNodeKind.ofName name ≠ .destination
    by decide) name known

theorem routeID_le {route : Nat} (drawn : routeID ordered = some route) :
    2 ≤ route ∧ route ≤ ordered.length + 1 := by
  obtain ⟨entry, last, rfl⟩ := Option.map_eq_some_iff.mp drawn
  have member := (List.mem_filter.mp (List.mem_of_getLast? last)).1
  have bounded := List.snd_lt_of_mem_zipIdx member
  omega

theorem edges_grow (edge : Nat × Nat)
    (member : edge ∈ (pipelineToFlow browser sourceID destinationID stages rules).edges) : edge.1 < edge.2 := by
  unfold pipelineToFlow ruleEdges at member
  dsimp only at member
  rcases List.mem_append.mp member with chain | routed
  · rcases List.mem_append.mp chain with stage | last
    · obtain ⟨entry, -, rfl⟩ := List.mem_map.mp stage
      exact Nat.lt_succ_self _
    · obtain rfl := List.mem_singleton.mp last
      exact Nat.lt_succ_self _
  · split at routed
    · exact absurd routed List.not_mem_nil
    · rename_i route drawn
      obtain ⟨entry, -, rfl⟩ := List.mem_map.mp routed
      have bounded := routeID_le drawn
      dsimp only
      omega

theorem reaches_chain {index : Nat}
    (bounded : index ≤ stages.length + 1) :
    Topological.Reaches (pipelineToFlow browser sourceID destinationID stages rules).edges 1 (index + 1) := by
  induction index with
  | zero => exact Relation.ReflTransGen.refl
  | succ index hypothesis =>
    refine (hypothesis (by omega)).tail ?_
    unfold pipelineToFlow
    dsimp only
    refine List.mem_append_left _ ?_
    rw [List.mem_append, List.mem_singleton, Prod.mk.injEq]
    have length := List.length_insertionSort (fun first second : StageRow =>
      first.stageOrder ≤ second.stageOrder) stages
    by_cases last : index = stages.length
    · exact Or.inr ⟨by omega, by omega⟩
    · refine Or.inl (List.mem_map.mpr ⟨(_, index), List.mk_mem_zipIdx_iff_getElem?.mpr
        (List.getElem?_eq_getElem (by omega)), rfl⟩)

theorem mem_ruleNodes {node : FlowNode} :
    node ∈ ruleNodes browser destinationID ordered rules ↔ (routeID ordered).isSome = true ∧
      ∃ entry ∈ (drawnRules destinationID rules).zipIdx,
        node = ruleNode browser entry.1 (ordered.length + 3 + entry.2) := by
  unfold ruleNodes
  rcases routeID ordered with _ | route
  · simp
  · simp [eq_comm]

theorem exists_unconnected_iff :
    (∃ node ∈ ruleNodes browser destinationID ordered rules, node.connectionID = "") ↔
      (routeID ordered).isSome = true ∧ ∃ rule ∈ rules, rule.destinationID = "" := by
  constructor
  · rintro ⟨node, member, unconnected⟩
    obtain ⟨routed, entry, among, rfl⟩ := mem_ruleNodes.mp member
    have drawn := List.fst_mem_of_mem_zipIdx among
    exact ⟨routed, entry.1, List.mem_insertionSort _ |>.mp (List.mem_filter.mp drawn).1, unconnected⟩
  · rintro ⟨routed, rule, member, unconnected⟩
    have drawn : rule ∈ drawnRules destinationID rules :=
      List.mem_filter.mpr ⟨(List.mem_insertionSort _).mpr member, decide_eq_true fun holds =>
        holds.1 unconnected⟩
    obtain ⟨index, bounded, found⟩ := List.getElem_of_mem drawn
    refine ⟨ruleNode browser rule (ordered.length + 3 + index), mem_ruleNodes.mpr ⟨routed, (rule, index),
      List.mk_mem_zipIdx_iff_getElem?.mpr (List.getElem?_eq_some_iff.mpr ⟨bounded, found⟩), rfl⟩, unconnected⟩

/-- A connection is missing: of the pipeline, or of a rule when there is a route stage. -/
def Unconnected (sourceID destinationID : String) (stages : List StageRow) (rules : List RoutingRule) : Prop :=
  sourceID = "" ∨ destinationID = "" ∨
    ((∃ stage ∈ stages, stage.stageType = "route") ∧ ∃ rule ∈ rules, rule.destinationID = "")

instance : Decidable (Unconnected sourceID destinationID stages rules) :=
  inferInstanceAs (Decidable (_ ∨ _ ∨ _ ∧ _))

theorem ofName_eq_route {name : String} : FlowNodeKind.ofName name = .route ↔ name = "route" := by
  constructor
  · intro same
    unfold FlowNodeKind.ofName at same
    split at same
    all_goals first | rfl | exact absurd same (by simp)
  · rintro rfl
    rfl

theorem routeID_isSome :
    (routeID ordered).isSome = true ↔ ∃ stage ∈ ordered, stage.stageType = "route" := by
  rw [routeID, Option.isSome_map, List.getLast?_isSome]
  constructor
  · intro some
    obtain ⟨entry, member⟩ := List.exists_mem_of_ne_nil _ some
    obtain ⟨among, routes⟩ := List.mem_filter.mp member
    exact ⟨entry.1, List.fst_mem_of_mem_zipIdx among, ofName_eq_route.mp (of_decide_eq_true routes)⟩
  · rintro ⟨stage, member, routes⟩
    obtain ⟨index, bounded, found⟩ := List.getElem_of_mem member
    exact List.ne_nil_of_mem (List.mem_filter.mpr ⟨List.mk_mem_zipIdx_iff_getElem?.mpr
      (List.getElem?_eq_some_iff.mpr ⟨bounded, found⟩), decide_eq_true (ofName_eq_route.mpr routes)⟩)

theorem mem_stageChain {drawing : FlowReconstruction} {order : List Nat} {node : FlowNode}
    (member : node ∈ drawing.stageChain order) :
    node ∈ drawing.nodes ∧ node.kind ≠ .source ∧ node.kind ≠ .destination := by
  induction order with
  | nil => exact absurd member List.not_mem_nil
  | cons id rest hypothesis =>
    rw [FlowReconstruction.stageChain] at member
    split at member
    · exact hypothesis member
    · rename_i first found
      split at member
      · exact hypothesis member
      · rename_i notSource
        split at member
        · exact absurd member List.not_mem_nil
        · rename_i notDestination
          rcases List.mem_cons.mp member with rfl | later
          · exact ⟨List.mem_of_find?_eq_some found, notSource, notDestination⟩
          · exact hypothesis later

theorem config_parses (valid : ∀ stage ∈ stages, browser.parses stage.stageConfig = true) {node : FlowNode}
    (member : node ∈ (pipelineToFlow browser sourceID destinationID stages rules).nodes)
    (notSource : node.kind ≠ .source) (notDestination : node.kind ≠ .destination) :
    browser.parses (orElse node.config "\x7b\x7d") = true := by
  have nonempty : ∀ text, browser.parses text = true → orElse text "\x7b\x7d" = text := fun text parses =>
    if_neg fun empty => absurd (empty ▸ parses) (by rw [browser.parses_empty]; decide)
  unfold pipelineToFlow at member
  rcases List.mem_append.mp member with chain | routed
  · rcases List.mem_append.mp chain with before | last
    · rcases List.mem_append.mp before with first | stage
      · obtain rfl := List.mem_singleton.mp first
        exact absurd rfl notSource
      · obtain ⟨entry, among, rfl⟩ := List.mem_map.mp stage
        have parses := valid _ ((List.mem_insertionSort _).mp (List.fst_mem_of_mem_zipIdx among))
        show browser.parses (orElse (orElse entry.1.stageConfig "\x7b\x7d") "\x7b\x7d") = true
        rw [nonempty _ parses, nonempty _ parses, parses]
    · obtain rfl := List.mem_singleton.mp last
      exact absurd rfl notDestination
  · obtain ⟨-, entry, -, rfl⟩ := mem_ruleNodes.mp routed
    exact absurd rfl notDestination

theorem reaches_destination {node : FlowNode}
    (member : node ∈ destinationNode destinationID stages.length :: ruleNodes browser destinationID
        (stages.insertionSort fun first second => first.stageOrder ≤ second.stageOrder) rules) :
    Topological.Reaches (pipelineToFlow browser sourceID destinationID stages rules).edges 1 node.id := by
  rcases List.mem_cons.mp member with rfl | routed
  · exact reaches_chain (Nat.le_refl _)
  · obtain ⟨some, entry, among, rfl⟩ := mem_ruleNodes.mp routed
    obtain ⟨route, drawn⟩ := Option.isSome_iff_exists.mp some
    obtain ⟨two, bounded⟩ := routeID_le drawn
    rw [List.length_insertionSort] at bounded
    have start := @reaches_chain browser sourceID destinationID stages rules (route - 1) (by omega)
    rw [Nat.sub_add_cancel (by omega)] at start
    refine start.tail ?_
    unfold pipelineToFlow ruleEdges
    dsimp only
    rw [drawn]
    exact List.mem_append_right _ (List.mem_map.mpr ⟨entry, among, rfl⟩)

section Known

variable (known : ∀ stage ∈ stages, stage.stageType ∈ stageKinds)

include known

theorem stageNode_kind {node : FlowNode} (member : node ∈ ((stages.insertionSort fun first second =>
      first.stageOrder ≤ second.stageOrder).zipIdx.map fun entry => stageNode entry.1 entry.2)) :
    node.kind ≠ .source ∧ node.kind ≠ .destination := by
  obtain ⟨entry, among, rfl⟩ := List.mem_map.mp member
  exact ofName_mem_stageKinds (known _ ((List.mem_insertionSort _).mp (List.fst_mem_of_mem_zipIdx among)))

theorem sources_pipelineToFlow :
    ((pipelineToFlow browser sourceID destinationID stages rules).nodes.filter fun node =>
      node.kind = .source) = [sourceNode sourceID] := by
  unfold pipelineToFlow
  dsimp only
  rw [List.filter_append, List.filter_append, List.filter_append]
  have stage := List.filter_eq_nil_iff.mpr fun node member =>
    fun same => (stageNode_kind known member).1 (of_decide_eq_true same)
  have routed : (ruleNodes browser destinationID (stages.insertionSort fun first second =>
      first.stageOrder ≤ second.stageOrder) rules).filter (fun node => node.kind = .source) = [] := by
    refine List.filter_eq_nil_iff.mpr fun node member same => ?_
    obtain ⟨-, entry, -, rfl⟩ := mem_ruleNodes.mp member
    exact absurd (of_decide_eq_true same) (by simp [ruleNode])
  rw [stage, routed]
  rfl

theorem destinations_pipelineToFlow :
    ((pipelineToFlow browser sourceID destinationID stages rules).nodes.filter fun node =>
      node.kind = .destination) =
      destinationNode destinationID stages.length :: ruleNodes browser destinationID
        (stages.insertionSort fun first second => first.stageOrder ≤ second.stageOrder) rules := by
  unfold pipelineToFlow
  dsimp only
  rw [List.filter_append, List.filter_append, List.filter_append]
  have stage := List.filter_eq_nil_iff.mpr fun node member =>
    fun same => (stageNode_kind known member).2 (of_decide_eq_true same)
  have routed : (ruleNodes browser destinationID (stages.insertionSort fun first second =>
      first.stageOrder ≤ second.stageOrder) rules).filter (fun node => node.kind = .destination) =
      ruleNodes browser destinationID (stages.insertionSort fun first second =>
        first.stageOrder ≤ second.stageOrder) rules := by
    refine List.filter_eq_self.mpr fun node member => ?_
    obtain ⟨-, entry, -, rfl⟩ := mem_ruleNodes.mp member
    rfl
  rw [stage, routed, List.length_insertionSort]
  rfl

theorem missing_iff :
    ((sourceNode sourceID).connectionID = "" ∨
        ∃ node ∈ (pipelineToFlow browser sourceID destinationID stages rules).nodes.filter fun node =>
          node.kind = .destination, node.connectionID = "") ↔
      Unconnected sourceID destinationID stages rules := by
  rw [destinations_pipelineToFlow known, List.exists_mem_cons_iff, exists_unconnected_iff, routeID_isSome]
  refine or_congr Iff.rfl (or_congr Iff.rfl (and_congr_left' (exists_congr fun stage => ?_)))
  rw [List.mem_insertionSort]

/-- A pipeline that lacks a connection fails the checks. -/
theorem check_of_unconnected (missing : Unconnected sourceID destinationID stages rules) :
    (pipelineToFlow browser sourceID destinationID stages rules).check browser = .error .missingConn := by
  have fails := (@missing_iff browser sourceID destinationID stages rules known).mpr missing
  unfold FlowReconstruction.check
  rw [sources_pipelineToFlow known]
  rw [destinations_pipelineToFlow known] at fails ⊢
  exact if_pos fails

/-- A connected pipeline with valid stages passes, its stages in their order. -/
theorem check_of_connected (valid : ∀ stage ∈ stages, browser.parses stage.stageConfig = true)
    (connected : ¬ Unconnected sourceID destinationID stages rules) :
    ∃ order, (pipelineToFlow browser sourceID destinationID stages rules).check browser = .ok
      { source := sourceNode sourceID
        defaultDest := destinationNode destinationID stages.length
        stageNodes := (pipelineToFlow browser sourceID destinationID stages rules).stageChain order } := by
  have passes := mt (@missing_iff browser sourceID destinationID stages rules known).mp connected
  have first : 1 ∈ (pipelineToFlow browser sourceID destinationID stages rules).nodes.map FlowNode.id :=
    List.mem_cons_self
  obtain ⟨order, sorted, reached⟩ := @Topological.order_of_ranked Nat _ _ _ 1 (fun id => id)
    (@edges_grow browser sourceID destinationID stages rules) first
  have there : ¬ ∃ node ∈ destinationNode destinationID stages.length :: ruleNodes browser destinationID
      (stages.insertionSort fun first second => first.stageOrder ≤ second.stageOrder) rules,
      node.id ∉ order := by
    rintro ⟨node, member, missed⟩
    exact missed ((reached node.id).mpr (reaches_destination member))
  have parse : ((pipelineToFlow browser sourceID destinationID stages rules).stageChain order).find?
      (fun node => !browser.parses (orElse node.config "\x7b\x7d")) = none := by
    refine List.find?_eq_none.mpr fun node member fails => ?_
    obtain ⟨drawn, notSource, notDestination⟩ := mem_stageChain member
    rw [config_parses valid drawn notSource notDestination] at fails
    exact absurd fails (by decide)
  refine ⟨order, ?_⟩
  unfold FlowReconstruction.check
  rw [sources_pipelineToFlow known]
  rw [destinations_pipelineToFlow known] at passes ⊢
  dsimp only
  rw [if_neg passes, show (sourceNode sourceID).id = 1 from rfl, sorted]
  dsimp only
  rw [if_neg there, parse]

end Known

end Drawn

/-! ### The order of any drawing -/

/-- A node of the graph that a browser sends. -/
structure FlowGraphNode where
  id : String
  kind : FlowNodeKind

section Order

variable (nodes : List FlowGraphNode) (edges : List (String × String)) (sourceID : String)

/-- The ids in topological order, from the source on. -/
def topoFromSource : Except String (List String) :=
  if sourceID ∉ nodes.map FlowGraphNode.id then .error "source node not found"
  else
    let reachable := Topological.reachedFrom edges sourceID
    let order := Topological.drainFrom edges sourceID
    if order.length ≠ reachable.length then .error "cycle detected — flows must be acyclic"
    else .ok order

/-- The source's algorithm is the general one. -/
theorem order_eq_topoFromSource :
    Topological.order edges (nodes.map FlowGraphNode.id) sourceID = (topoFromSource nodes edges sourceID).toOption := by
  rw [Topological.order, topoFromSource]
  split
  · rfl
  · dsimp only
    split
    · rfl
    · rfl

/-- There is an order exactly if the source is listed and what it reaches has no cycle, and the order is
a topological one. -/
theorem topoFromSource_topological :
    (topoFromSource nodes edges sourceID = .error "source node not found" ↔
      sourceID ∉ nodes.map FlowGraphNode.id) ∧
    (topoFromSource nodes edges sourceID = .error "cycle detected — flows must be acyclic" ↔
      sourceID ∈ nodes.map FlowGraphNode.id ∧ ¬ Topological.AcyclicFrom edges sourceID) ∧
    ((∃ order, topoFromSource nodes edges sourceID = .ok order ∧ Topological.SortedFrom edges sourceID order) ↔
      sourceID ∈ nodes.map FlowGraphNode.id ∧ Topological.AcyclicFrom edges sourceID) := by
  have found := @Topological.order_isSome_iff _ _ edges (nodes.map FlowGraphNode.id) sourceID
  have sorted := @Topological.order_spec _ _ edges (nodes.map FlowGraphNode.id)
  rw [order_eq_topoFromSource] at found
  by_cases listed : sourceID ∈ nodes.map FlowGraphNode.id
  · cases result : topoFromSource nodes edges sourceID with
    | error message =>
      have cyclic : ¬ Topological.AcyclicFrom edges sourceID := fun acyclic => by
        rw [result] at found
        exact absurd (found.mpr ⟨listed, acyclic⟩) Bool.false_ne_true
      rw [topoFromSource, if_neg (not_not.mpr listed)] at result
      dsimp only at result
      split at result
      · obtain rfl := Except.error.inj result
        simp [listed, cyclic]
      · cases result
    | ok order =>
      rw [result] at found
      have topological := sorted (by rw [order_eq_topoFromSource, result]; rfl)
      simp [listed, (found.mp rfl).2, topological]
  · rw [topoFromSource, if_pos listed]
    simp [listed]

end Order

end Flow

end MqConnector
