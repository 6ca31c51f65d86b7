/-
This file asks whether an exported configuration comes back by an import.

A bundle carries the connections, schemas, scripts and pipelines of a tenant, its
references by name. The documents were written against the columns of their day: six
columns of a connection, the description and the flag of a script, and everything a
pipeline got since (its schema, workers, retries, budgets, deduplication, the shadow
destination and the approval gate) are in the rows and not in the documents.
-/

import MqConnector.ConfigImport

namespace MqConnector

namespace Transfer

/-! ### Stored configurations -/

/-- Tables as the database keeps them: no id is empty, the `CHECK` constraints hold, and no stage is
without a configuration, since both writers put an empty object there. -/
structure Database extends Tables where
  identified : ∀ row ∈ connections, row.id ≠ ""
  connectionTypes : ∀ row ∈ connections, connectionTypes.contains row.type = true
  schemaTypes : ∀ row ∈ schemas, schemaTypes.contains row.schemaType = true
  outputFormats : ∀ row ∈ pipelines, outputFormats.contains row.outputFormat = true
  stageTypes : ∀ row ∈ stages, stageTypes.contains row.stageType = true
  configured : ∀ row ∈ stages, row.stageConfig ≠ ""
  transformTypes : ∀ row ∈ transforms, transformTypes.contains row.transformType = true
  conditionOperators : ∀ row ∈ routingRules, conditionOperators.contains row.conditionOperator = true

/-! ### Configurations up to ids -/

/-- What an id of another row stands for: nothing, or the name of the tenant's row with that id. -/
def reference (names : List (String × String)) (id : String) : Option (Option String) :=
  if id = "" then none else some ((names.find? fun entry => entry.1 = id).map Prod.snd)

/-- A pipeline with its children, the ids left out and the references by name. -/
structure PipelineView where
  row : Pipeline
  source : Option (Option String)
  destination : Option (Option String)
  schema : Option (Option String)
  shadow : Option (Option String)
  stages : List StageRow
  transforms : List Transform
  routingRules : List (RoutingRule × Option (Option String))
  deriving DecidableEq

/-- The configuration of a tenant up to ids and connection passwords. -/
structure View where
  connections : List Connection
  schemas : List Schema
  scripts : List Script
  pipelines : List PipelineView
  deriving DecidableEq

/-- A row without what another database gives anew. -/
def viewConnection (row : Connection) : Connection :=
  { row with id := "", tenantID := "", password := "" }

def viewSchema (row : Schema) : Schema :=
  { row with id := "", tenantID := "" }

def viewScript (row : Script) : Script :=
  { row with id := "", tenantID := "" }

def viewStage (row : StageRow) : StageRow :=
  { row with id := "", tenantID := "", pipelineID := "" }

def viewTransform (row : Transform) : Transform :=
  { row with id := "", tenantID := "", pipelineID := "" }

def viewRule (connections : List (String × String)) (row : RoutingRule) :
    RoutingRule × Option (Option String) :=
  ({ row with id := "", tenantID := "", pipelineID := "", destinationID := "" },
    reference connections row.destinationID)

/-- The names of a tenant's connections by id. -/
def connectionNames (tables : Tables) (tenantID : String) : List (String × String) :=
  (tables.listConnections tenantID).map fun row => (row.id, row.name)

def schemaNames (tables : Tables) (tenantID : String) : List (String × String) :=
  (tables.listSchemas tenantID).map fun row => (row.id, row.name)

/-- A pipeline, its connections and schema by their names. -/
def viewPipeline (tables : Tables) (tenantID : String) (row : Pipeline) : PipelineView where
  row := { row with
    id := ""
    tenantID := ""
    sourceID := ""
    destinationID := ""
    schemaID := ""
    shadowDestinationID := "" }
  source := reference (connectionNames tables tenantID) row.sourceID
  destination := reference (connectionNames tables tenantID) row.destinationID
  schema := reference (schemaNames tables tenantID) row.schemaID
  shadow := reference (connectionNames tables tenantID) row.shadowDestinationID
  stages := (tables.listStages tenantID row.id).map viewStage
  transforms := (tables.listTransforms tenantID row.id).map viewTransform
  routingRules := (tables.listRoutingRules tenantID row.id).map
    (viewRule (connectionNames tables tenantID))

/-- What a tenant sees of its configuration. -/
def view (tables : Tables) (tenantID : String) : View where
  connections := (tables.listConnections tenantID).map viewConnection
  schemas := (tables.listSchemas tenantID).map viewSchema
  scripts := (tables.listScripts tenantID).map viewScript
  pipelines := (tables.listPipelines tenantID).map (viewPipeline tables tenantID)

/-! ### The condition -/

/-- A connection that uses no column its document lacks. -/
def PortableConnection (row : Connection) : Prop :=
  row.clientID = "" ∧ row.streamName = "" ∧ row.consumerName = "" ∧ row.qos = 0 ∧
    row.groupID = "" ∧ row.initialOffset = ""

/-- A script as an import leaves it. -/
def PortableScript (row : Script) : Prop :=
  row.description = "" ∧ row.enabled = false

/-- The id is that of a connection of the tenant. -/
def Own (tables : Tables) (tenantID id : String) : Prop :=
  ∃ row ∈ tables.connections, row.tenantID = tenantID ∧ row.id = id

/-- A pipeline that uses no column its document lacks, with references to the tenant's own
connections. -/
def PortablePipeline (tables : Tables) (tenantID : String) (row : Pipeline) : Prop :=
  row.schemaID = "" ∧ row.workers = 0 ∧ row.retryMax = 0 ∧ row.retryBackoffMs = 0 ∧
    row.maxMsgsPerMinute = 0 ∧ row.dedupWindowSeconds = 0 ∧ row.shadowDestinationID = "" ∧
    row.shadowPercent = 0 ∧ row.requiresApproval = false ∧ Own tables tenantID row.sourceID ∧
    Own tables tenantID row.destinationID ∧
    ∀ rule ∈ tables.routingRules, rule.pipelineID = row.id → rule.tenantID = tenantID →
      Own tables tenantID rule.destinationID

/-- The condition on a tenant's configuration. -/
structure Portable (tables : Tables) (tenantID : String) : Prop where
  connections : ∀ row ∈ tables.connections, row.tenantID = tenantID → PortableConnection row
  scripts : ∀ row ∈ tables.scripts, row.tenantID = tenantID → PortableScript row
  pipelines : ∀ row ∈ tables.pipelines, row.tenantID = tenantID →
    PortablePipeline tables tenantID row

/-- The tenant has no rows. -/
structure Empty (tables : Tables) (tenantID : String) : Prop where
  connections : ∀ row ∈ tables.connections, row.tenantID ≠ tenantID
  schemas : ∀ row ∈ tables.schemas, row.tenantID ≠ tenantID
  scripts : ∀ row ∈ tables.scripts, row.tenantID ≠ tenantID
  pipelines : ∀ row ∈ tables.pipelines, row.tenantID ≠ tenantID
  stages : ∀ row ∈ tables.stages, row.tenantID ≠ tenantID
  transforms : ∀ row ∈ tables.transforms, row.tenantID ≠ tenantID
  routingRules : ∀ row ∈ tables.routingRules, row.tenantID ≠ tenantID

/-- What an export of a tenant gives when every read is answered. -/
def exported (tables : Tables) (tenantID slug : String) : Bundle where
  version := 1
  tenantSlug := slug
  connections := (tables.listConnections tenantID).map connectionDoc
  schemas := (tables.listSchemas tenantID).map schemaDoc
  scripts := (tables.listScripts tenantID).map scriptDoc
  pipelines := (tables.listPipelines tenantID).map
    (pipelineDoc tables tenantID (fun _ => none) (tables.listConnections tenantID))

theorem buildBundle_eq (tables : Tables) (tenantID slug : String) :
    buildBundle tables tenantID slug (fun _ => none) = .ok (exported tables tenantID slug) := rfl

/-! ### Lists after an import -/

section Lists

variable {Row Source Doc Key : Type} [LinearOrder Key]

theorem pairwise_sorted (key : Row → Key) (rows : List Row) :
    (rows.insertionSort fun former latter => key former ≤ key latter).Pairwise
      fun former latter => key former ≤ key latter := by
  have total : Std.Total fun former latter : Row => key former ≤ key latter :=
    ⟨fun former latter => le_total (key former) (key latter)⟩
  have transitive : IsTrans Row fun former latter => key former ≤ key latter :=
    ⟨fun _ _ _ => le_trans⟩
  exact List.pairwise_insertionSort _ _

theorem sorted_rows (key : Row → Key) (sourceKey : Source → Key) (doc : Source → Doc)
    (row : Doc × Nat → Row) {source : List Source}
    (reads : ∀ other index, key (row (doc other, index)) = sourceKey other) :
    (((source.insertionSort fun former latter => sourceKey former ≤ sourceKey latter).map
        doc).zipIdx.map row).insertionSort (fun former latter => key former ≤ key latter) =
      ((source.insertionSort fun former latter => sourceKey former ≤ sourceKey latter).map
        doc).zipIdx.map row := by
  refine List.Pairwise.insertionSort_eq (List.pairwise_map.mp ?_)
  have keys : ∀ others : List Source, ((others.map doc).zipIdx.map row).map key =
      others.map sourceKey := by
    intro others
    rw [List.map_map, List.zipIdx_map, List.map_map]
    have same : (key ∘ row) ∘ Prod.map doc id = sourceKey ∘ Prod.fst :=
      funext fun entry => reads entry.1 entry.2
    rw [same, ← List.map_map, List.zipIdx_map_fst]
  rw [keys, List.pairwise_map]
  exact pairwise_sorted sourceKey source

omit [LinearOrder Key] in
theorem filter_of_absent {old : List Row} {mine : Row → Bool}
    (absent : ∀ other ∈ old, mine other = false) : old.filter mine = [] := by
  refine List.filter_eq_nil_iff.mpr fun other member => ?_
  rw [absent other member]
  exact Bool.false_ne_true

theorem listed_after (key : Row → Key) (sourceKey : Source → Key) (doc : Source → Doc)
    (row : Doc × Nat → Row) {mine : Row → Bool} {old : List Row} {source : List Source}
    (absent : ∀ other ∈ old, mine other = false) (present : ∀ entry, mine (row entry) = true)
    (reads : ∀ other index, key (row (doc other, index)) = sourceKey other) :
    ((old ++ ((source.insertionSort fun former latter => sourceKey former ≤ sourceKey latter).map
        doc).zipIdx.map row).filter mine).insertionSort (fun former latter => key former ≤ key latter) =
      ((source.insertionSort fun former latter => sourceKey former ≤ sourceKey latter).map
        doc).zipIdx.map row := by
  have all : ∀ docs : List (Doc × Nat), (docs.map row).filter mine = docs.map row := by
    intro docs
    refine List.filter_eq_self.mpr fun other member => ?_
    obtain ⟨entry, -, rfl⟩ := List.mem_map.mp member
    exact present entry
  rw [List.filter_append, filter_of_absent absent, List.nil_append, all]
  exact sorted_rows key sourceKey doc row reads

omit [LinearOrder Key] in
theorem filter_flatMap_entry {rows : Doc × Nat → List Row} {mine : Row → Bool}
    {entries : List (Doc × Nat)} {entry : Doc × Nat} (distinct : (entries.map Prod.snd).Nodup)
    (member : entry ∈ entries) (own : ∀ row ∈ rows entry, mine row = true)
    (others : ∀ other, other.2 ≠ entry.2 → ∀ row ∈ rows other, mine row = false) :
    (entries.flatMap rows).filter mine = rows entry := by
  induction entries with
  | nil => exact absurd member List.not_mem_nil
  | cons first rest hypothesis =>
    obtain ⟨apart, distinctRest⟩ := List.nodup_cons.mp distinct
    rw [List.flatMap_cons, List.filter_append]
    rcases List.mem_cons.mp member with rfl | later
    · have none : (rest.flatMap rows).filter mine = [] := by
        refine filter_of_absent fun row among => ?_
        obtain ⟨other, present, found⟩ := List.mem_flatMap.mp among
        refine others other (fun same => apart ?_) row found
        exact same ▸ List.mem_map_of_mem present
      rw [none, List.append_nil]
      exact List.filter_eq_self.mpr own
    · have different : first.2 ≠ entry.2 := fun same => apart (same ▸ List.mem_map_of_mem later)
      rw [filter_of_absent (others first different), List.nil_append]
      exact hypothesis distinctRest later

end Lists

theorem mem_listConnections {tables : Tables} {tenantID : String} {row : Connection} :
    row ∈ tables.listConnections tenantID ↔ row ∈ tables.connections ∧ row.tenantID = tenantID := by
  rw [Tables.listConnections, List.mem_insertionSort, List.mem_filter, decide_eq_true_iff]

theorem mem_listSchemas {tables : Tables} {tenantID : String} {row : Schema} :
    row ∈ tables.listSchemas tenantID ↔ row ∈ tables.schemas ∧ row.tenantID = tenantID := by
  rw [Tables.listSchemas, List.mem_insertionSort, List.mem_filter, decide_eq_true_iff]

theorem mem_listScripts {tables : Tables} {tenantID : String} {row : Script} :
    row ∈ tables.listScripts tenantID ↔ row ∈ tables.scripts ∧ row.tenantID = tenantID := by
  rw [Tables.listScripts, List.mem_insertionSort, List.mem_filter, decide_eq_true_iff]

theorem mem_listPipelines {tables : Tables} {tenantID : String} {row : Pipeline} :
    row ∈ tables.listPipelines tenantID ↔ row ∈ tables.pipelines ∧ row.tenantID = tenantID := by
  rw [Tables.listPipelines, List.mem_insertionSort, List.mem_filter, decide_eq_true_iff]

theorem mem_listRoutingRules {tables : Tables} {tenantID pipelineID : String} {row : RoutingRule} :
    row ∈ tables.listRoutingRules tenantID pipelineID ↔
      row ∈ tables.routingRules ∧ row.pipelineID = pipelineID ∧ row.tenantID = tenantID := by
  rw [Tables.listRoutingRules, List.mem_insertionSort, List.mem_filter, decide_eq_true_iff]

/-! ### Nothing of an export is refused -/

section Accepted

variable (database : Database) (tenantID slug : String) {around : Surround} {target : String}
  (answers : ∀ statement, around.fails statement = none) (owner : target ≠ "")

include answers owner

/-- No exported connection is refused. -/
theorem connectionError_exported :
    ∀ entry ∈ (exported database.toTables tenantID slug).connections.zipIdx,
      connectionError around target entry = none := by
  intro entry member
  obtain ⟨row, among, same⟩ := List.mem_map.mp (List.fst_mem_of_mem_zipIdx member)
  refine callError_eq_none_iff.mpr ⟨owner, answers _, ?_⟩
  rw [← same]
  exact database.connectionTypes row (mem_listConnections.mp among).1

theorem schemaError_exported :
    ∀ entry ∈ (exported database.toTables tenantID slug).schemas.zipIdx,
      schemaError around target entry = none := by
  intro entry member
  obtain ⟨row, among, same⟩ := List.mem_map.mp (List.fst_mem_of_mem_zipIdx member)
  refine callError_eq_none_iff.mpr ⟨owner, answers _, ?_⟩
  rw [← same]
  exact database.schemaTypes row (List.mem_filter.mp ((List.mem_insertionSort _).mp among)).1

theorem scriptError_eq_none (entry : ScriptDoc × Nat) : scriptError around target entry = none :=
  callError_eq_none_iff.mpr ⟨owner, answers _, rfl⟩

theorem stagesError_exported (row : Pipeline) (index : Nat) :
    stagesError around target (pipelineDoc database.toTables tenantID (fun _ => none)
      (database.listConnections tenantID) row, index) = none := by
  refine callError_eq_none_iff.mpr ⟨owner, answers _, List.all_eq_true.mpr fun child member => ?_⟩
  obtain ⟨stage, among, rfl⟩ := List.mem_map.mp member
  exact database.stageTypes stage (List.mem_filter.mp ((List.mem_insertionSort _).mp among)).1

theorem transformsError_exported (row : Pipeline) (index : Nat) :
    transformsError around target (pipelineDoc database.toTables tenantID (fun _ => none)
      (database.listConnections tenantID) row, index) = none := by
  refine callError_eq_none_iff.mpr ⟨owner, answers _, List.all_eq_true.mpr fun child member => ?_⟩
  obtain ⟨transform, among, rfl⟩ := List.mem_map.mp member
  exact database.transformTypes transform (List.mem_filter.mp ((List.mem_insertionSort _).mp among)).1

theorem operators_exported (row : Pipeline) (index : Nat) :
    callError target (around.fails (.routingRules index)) ((pipelineDoc database.toTables tenantID
      (fun _ => none) (database.listConnections tenantID) row).routingRules.all fun child =>
        conditionOperators.contains child.operator) = none := by
  refine callError_eq_none_iff.mpr ⟨owner, answers _, List.all_eq_true.mpr fun child member => ?_⟩
  obtain ⟨rule, among, rfl⟩ := List.mem_map.mp member
  exact database.conditionOperators rule (mem_listRoutingRules.mp among).1

theorem format_exported {row : Pipeline} (stored : row ∈ database.pipelines) (index : Nat) :
    callError target (around.fails (.pipeline index))
      ("" :: outputFormats |>.contains row.outputFormat) = none := by
  refine callError_eq_none_iff.mpr ⟨owner, answers _, ?_⟩
  rw [List.contains_cons, database.outputFormats row stored, Bool.or_true]

end Accepted

/-! ### References -/

section References

variable {database : Database} {tenantID slug : String} {around : Surround} {id name : String}

theorem own_iff {tables : Tables} :
    Own tables tenantID id ↔ ∃ row, (tables.listConnections tenantID).find? (fun row => row.id = id) =
      some row := by
  rw [← Option.isSome_iff_exists, List.find?_isSome]
  unfold Own
  simp only [mem_listConnections, decide_eq_true_iff, and_assoc]

theorem named_of_own (own : Own database.toTables tenantID id) :
    Named (exported database.toTables tenantID slug)
      (nameOf (database.listConnections tenantID) id) := by
  obtain ⟨row, found⟩ := own_iff.mp own
  refine ⟨connectionDoc row, List.mem_map_of_mem (List.mem_of_find?_eq_some found), ?_⟩
  rw [nameOf, found]
  rfl

theorem reference_before_iff :
    reference (connectionNames database.toTables tenantID) id =
      some (some (nameOf (database.listConnections tenantID) id)) ↔
        Own database.toTables tenantID id := by
  have lookup : (connectionNames database.toTables tenantID).find? (fun entry => entry.1 = id) =
      ((database.listConnections tenantID).find? fun row => row.id = id).map fun row =>
        (row.id, row.name) := List.find?_map ..
  rw [own_iff, reference, lookup, Option.map_map, nameOf]
  cases found : (database.listConnections tenantID).find? fun row => row.id = id with
  | none =>
    refine iff_of_false ?_ fun known => ?_
    · split
      · exact (Option.some_ne_none _).symm
      · exact fun same => Option.some_ne_none _ (Option.some.inj same).symm
    · obtain ⟨row, absurdly⟩ := known
      exact Option.some_ne_none _ absurdly.symm
  | some row =>
    have passes := List.find?_some found
    have here : row.id = id := of_decide_eq_true passes
    have stored := (mem_listConnections.mp (List.mem_of_find?_eq_some found)).1
    refine iff_of_true ?_ ⟨row, rfl⟩
    rw [if_neg (here ▸ database.identified row stored)]
    rfl

end References

/-! ### The tenant after the import -/

theorem mem_zipIdx_map {Source Doc : Type} (doc : Source → Doc) {sources : List Source}
    {source : Source} {index : Nat} (member : (source, index) ∈ sources.zipIdx) :
    (doc source, index) ∈ (sources.map doc).zipIdx := by
  rw [List.zipIdx_map]
  exact List.mem_map.mpr ⟨(source, index), member, rfl⟩

theorem children_after {Child : Type} {around : Surround}
    (fresh : Function.Injective around.freshID) (pipelineOf tenantOf : Child → String)
    {target : String} {old : List Child} {rows : PipelineDoc × Nat → List Child}
    {entries : List (PipelineDoc × Nat)} {entry : PipelineDoc × Nat}
    (absent : ∀ child ∈ old, tenantOf child ≠ target)
    (placed : ∀ other, ∀ child ∈ rows other,
      pipelineOf child = around.freshID (.pipeline other.2) ∧ tenantOf child = target)
    (distinct : (entries.map Prod.snd).Nodup) (member : entry ∈ entries) :
    ((old ++ entries.flatMap rows).filter fun child =>
      pipelineOf child = around.freshID (.pipeline entry.2) ∧ tenantOf child = target) =
        rows entry := by
  rw [List.filter_append, filter_of_absent fun child present => decide_eq_false fun both =>
    absent child present both.2, List.nil_append]
  refine filter_flatMap_entry distinct member ?_ ?_
  · exact fun child present => decide_eq_true (placed entry child present)
  · intro other different child present
    refine decide_eq_false fun both => different ?_
    exact Drawn.pipeline.inj (fresh ((placed other child present).1.symm.trans both.1))

section After

variable (database : Database) (tenantID slug : String) {around : Surround} {tables : Tables}
  {target : String} (empty : Empty tables target)

include empty

theorem listConnections_after :
    (imported around target (exported database.toTables tenantID slug) tables).listConnections target =
      (exported database.toTables tenantID slug).connections.zipIdx.map
        (connectionRow around target) :=
  listed_after (fun row : Connection => row.name) (fun row : Connection => row.name) connectionDoc
    (connectionRow around target) (fun row member => decide_eq_false (empty.connections row member))
    (fun _ => decide_eq_true rfl) fun _ _ => rfl

theorem listPipelines_after :
    (imported around target (exported database.toTables tenantID slug) tables).listPipelines target =
      (exported database.toTables tenantID slug).pipelines.zipIdx.map (pipelineRow around target
        (nameToConnID around (exported database.toTables tenantID slug).connections)) :=
  listed_after (fun row : Pipeline => row.name) (fun row : Pipeline => row.name)
    (pipelineDoc database.toTables tenantID (fun _ => none) (database.listConnections tenantID))
    (pipelineRow around target _) (fun row member => decide_eq_false (empty.pipelines row member))
    (fun _ => decide_eq_true rfl) fun _ _ => rfl

theorem listSchemas_after (answers : ∀ statement, around.fails statement = none)
    (owner : target ≠ "") :
    (imported around target (exported database.toTables tenantID slug) tables).listSchemas target =
      (exported database.toTables tenantID slug).schemas.zipIdx.map (schemaRow around target) := by
  have all : ((exported database.toTables tenantID slug).schemas.zipIdx.filter fun entry =>
      (schemaError around target entry).isNone) =
        (exported database.toTables tenantID slug).schemas.zipIdx := by
    refine List.filter_eq_self.mpr fun entry member => ?_
    rw [schemaError_exported database tenantID slug answers owner entry member]
    rfl
  show ((tables.schemas ++ (((exported database.toTables tenantID slug).schemas.zipIdx.filter
    fun entry => (schemaError around target entry).isNone)).map (schemaRow around target)).filter
      _).insertionSort _ = _
  rw [all]
  exact listed_after (fun row : Schema => row.name) (fun row : Schema => row.name) schemaDoc
    (schemaRow around target) (fun row member => decide_eq_false (empty.schemas row member))
    (fun _ => decide_eq_true rfl) fun _ _ => rfl

theorem listScripts_after (answers : ∀ statement, around.fails statement = none)
    (owner : target ≠ "") :
    (imported around target (exported database.toTables tenantID slug) tables).listScripts target =
      (exported database.toTables tenantID slug).scripts.zipIdx.map (scriptRow around target) := by
  have all : ((exported database.toTables tenantID slug).scripts.zipIdx.filter fun entry =>
      (scriptError around target entry).isNone) =
        (exported database.toTables tenantID slug).scripts.zipIdx := by
    refine List.filter_eq_self.mpr fun entry _ => ?_
    rw [scriptError_eq_none answers owner entry]
    rfl
  show ((tables.scripts ++ (((exported database.toTables tenantID slug).scripts.zipIdx.filter
    fun entry => (scriptError around target entry).isNone)).map (scriptRow around target)).filter
      _).insertionSort _ = _
  rw [all]
  exact listed_after (fun row : Script => row.name) (fun row : Script => row.name) scriptDoc
    (scriptRow around target) (fun row member => decide_eq_false (empty.scripts row member))
    (fun _ => decide_eq_true rfl) fun _ _ => rfl

theorem listStages_after (fresh : Function.Injective around.freshID) {row : Pipeline} {index : Nat}
    (member : (row, index) ∈ (database.listPipelines tenantID).zipIdx) :
    (imported around target (exported database.toTables tenantID slug) tables).listStages target
        (around.freshID (.pipeline index)) =
      stageRows around target (pipelineDoc database.toTables tenantID (fun _ => none)
        (database.listConnections tenantID) row, index) := by
  have placed : ∀ other, ∀ child ∈ stageRows around target other,
      child.pipelineID = around.freshID (.pipeline other.2) ∧ child.tenantID = target := by
    intro other child present
    obtain ⟨entry, -, rfl⟩ := List.mem_map.mp present
    exact ⟨rfl, rfl⟩
  have mine := children_after fresh _ _ empty.stages placed
    (distinct_zipIdx (exported database.toTables tenantID slug).pipelines) (mem_zipIdx_map _ member)
  refine (congrArg (List.insertionSort _) mine).trans ?_
  exact sorted_rows (fun child : StageRow => child.stageOrder)
    (fun child : StageRow => child.stageOrder) stageDoc _ fun _ _ => rfl

theorem listTransforms_after (answers : ∀ statement, around.fails statement = none)
    (owner : target ≠ "") (fresh : Function.Injective around.freshID) {row : Pipeline} {index : Nat}
    (member : (row, index) ∈ (database.listPipelines tenantID).zipIdx) :
    (imported around target (exported database.toTables tenantID slug) tables).listTransforms target
        (around.freshID (.pipeline index)) =
      transformRows around target (pipelineDoc database.toTables tenantID (fun _ => none)
        (database.listConnections tenantID) row, index) := by
  have placed : ∀ other, ∀ child ∈ storedTransforms around target other,
      child.pipelineID = around.freshID (.pipeline other.2) ∧ child.tenantID = target := by
    intro other child present
    unfold storedTransforms at present
    split at present
    · exact absurd present List.not_mem_nil
    · obtain ⟨entry, -, rfl⟩ := List.mem_map.mp present
      exact ⟨rfl, rfl⟩
  have mine := children_after fresh _ _ empty.transforms placed
    (distinct_zipIdx (exported database.toTables tenantID slug).pipelines) (mem_zipIdx_map _ member)
  refine (congrArg (List.insertionSort _) mine).trans ?_
  rw [storedTransforms, transformsError_exported database tenantID answers owner]
  exact sorted_rows (fun child : Transform => child.order) (fun child : Transform => child.order)
    transformDoc _ fun _ _ => rfl

theorem listRoutingRules_after (fresh : Function.Injective around.freshID) {row : Pipeline}
    {index : Nat} (member : (row, index) ∈ (database.listPipelines tenantID).zipIdx) :
    (imported around target (exported database.toTables tenantID slug) tables).listRoutingRules target
        (around.freshID (.pipeline index)) =
      storedRules around target
        (nameToConnID around (exported database.toTables tenantID slug).connections)
        (withContent around target (exported database.toTables tenantID slug) tables)
        (pipelineDoc database.toTables tenantID (fun _ => none) (database.listConnections tenantID)
          row, index) := by
  have placed : ∀ other, ∀ child ∈ storedRules around target
      (nameToConnID around (exported database.toTables tenantID slug).connections)
      (withContent around target (exported database.toTables tenantID slug) tables) other,
        child.pipelineID = around.freshID (.pipeline other.2) ∧ child.tenantID = target := by
    intro other child present
    unfold storedRules at present
    split at present
    · exact absurd present List.not_mem_nil
    · obtain ⟨entry, -, rfl⟩ := List.mem_map.mp present
      exact ⟨rfl, rfl⟩
  have mine := children_after fresh _ _ empty.routingRules placed
    (distinct_zipIdx (exported database.toTables tenantID slug).pipelines) (mem_zipIdx_map _ member)
  refine (congrArg (List.insertionSort _) mine).trans ?_
  rw [storedRules]
  split
  · rfl
  · exact sorted_rows (fun child : RoutingRule => child.priority)
      (fun child : RoutingRule => child.priority) (routeDoc (database.listConnections tenantID)) _
      fun _ _ => rfl

end After

/-! ### What comes back -/

theorem map_zipIdx_eq_iff {Source Doc Row Seen : Type} (doc : Source → Doc) (row : Doc × Nat → Row)
    (seen : Row → Seen) (seenSource : Source → Seen) {sources : List Source}
    {Comes : Source → Prop}
    (comes : ∀ source index, (source, index) ∈ sources.zipIdx →
      (seen (row (doc source, index)) = seenSource source ↔ Comes source)) :
    ((sources.map doc).zipIdx.map row).map seen = sources.map seenSource ↔
      ∀ source ∈ sources, Comes source := by
  have back : sources.map seenSource = sources.zipIdx.map (seenSource ∘ Prod.fst) := by
    rw [← List.map_map, List.zipIdx_map_fst]
  rw [back, List.zipIdx_map, List.map_map, List.map_map, List.map_inj_left]
  constructor
  · intro all source member
    obtain ⟨index, there⟩ := List.mem_iff_getElem?.mp member
    have among : (source, index) ∈ sources.zipIdx := List.mem_zipIdx_iff_getElem?.mpr there
    exact (comes source index among).mp (all (source, index) among)
  · intro all entry member
    exact (comes entry.1 entry.2 member).mpr (all entry.1 (List.fst_mem_of_mem_zipIdx member))

theorem viewConnection_back_iff (around : Surround) (target : String) (row : Connection) (index : Nat) :
    viewConnection (connectionRow around target (connectionDoc row, index)) = viewConnection row ↔
      PortableConnection row := by
  unfold viewConnection connectionRow connectionDoc PortableConnection
  rw [Connection.mk.injEq]
  simp only [true_and]
  constructor
  · rintro ⟨client, stream, consumer, qos, group, offset⟩
    exact ⟨client.symm, stream.symm, consumer.symm, qos.symm, group.symm, offset.symm⟩
  · rintro ⟨client, stream, consumer, qos, group, offset⟩
    exact ⟨client.symm, stream.symm, consumer.symm, qos.symm, group.symm, offset.symm⟩

theorem viewScript_back_iff (around : Surround) (target : String) (row : Script) (index : Nat) :
    viewScript (scriptRow around target (scriptDoc row, index)) = viewScript row ↔
      PortableScript row := by
  unfold viewScript scriptRow scriptDoc PortableScript
  rw [Script.mk.injEq]
  simp only [true_and]
  exact and_congr eq_comm eq_comm

theorem reference_eq_none_iff {names : List (String × String)} {id : String} :
    reference names id = none ↔ id = "" := by
  unfold reference
  split
  · rename_i empty
    exact iff_of_true rfl empty
  · rename_i given
    exact iff_of_false (Option.some_ne_none _) given

section Back

variable (database : Database) (tenantID slug : String) {around : Surround} {tables : Tables}
  {target : String} (fresh : Fresh around tables) (empty : Empty tables target)

include fresh empty

theorem reference_after {name : String}
    (known : Named (exported database.toTables tenantID slug) name) :
    reference (connectionNames
        (imported around target (exported database.toTables tenantID slug) tables) target)
      (nameToConnID around (exported database.toTables tenantID slug).connections name) =
        some (some name) := by
  obtain ⟨entry, among, named, same⟩ := nameToConnID_of_named around known
  rw [reference, same, if_neg (fresh.nonempty _), connectionNames,
    listConnections_after database tenantID slug empty, List.map_map]
  cases found : ((exported database.toTables tenantID slug).connections.zipIdx.map
    ((fun row : Connection => (row.id, row.name)) ∘ connectionRow around target)).find?
      fun pair => pair.1 = around.freshID (.connection entry.2) with
  | none =>
    have absent := List.find?_eq_none.mp found _ (List.mem_map_of_mem among)
    exact absurd (decide_eq_true rfl) absent
  | some pair =>
    have passes := List.find?_some found
    have here : pair.1 = around.freshID (.connection entry.2) := of_decide_eq_true passes
    obtain ⟨other, present, rfl⟩ := List.mem_map.mp (List.mem_of_find?_eq_some found)
    obtain rfl : other = entry := List.inj_on_of_nodup_map (distinct_zipIdx _) present among
      (Drawn.connection.inj (fresh.injective here))
    exact congrArg (fun name => some (some name)) named

theorem reference_back_iff {id : String}
    (known : Named (exported database.toTables tenantID slug)
      (nameOf (database.listConnections tenantID) id)) :
    reference (connectionNames
        (imported around target (exported database.toTables tenantID slug) tables) target)
      (nameToConnID around (exported database.toTables tenantID slug).connections
        (nameOf (database.listConnections tenantID) id)) =
          reference (connectionNames database.toTables tenantID) id ↔
      Own database.toTables tenantID id := by
  rw [reference_after database tenantID slug fresh empty known, eq_comm]
  exact reference_before_iff

theorem viewRules_back_iff (answers : ∀ statement, around.fails statement = none)
    (owner : target ≠ "") {row : Pipeline} {index : Nat}
    (member : (row, index) ∈ (database.listPipelines tenantID).zipIdx) :
    ((imported around target (exported database.toTables tenantID slug) tables).listRoutingRules target
        (around.freshID (.pipeline index))).map (viewRule (connectionNames
          (imported around target (exported database.toTables tenantID slug) tables) target)) =
      (database.listRoutingRules tenantID row.id).map
        (viewRule (connectionNames database.toTables tenantID)) ↔
      ∀ rule ∈ database.listRoutingRules tenantID row.id,
        Own database.toTables tenantID rule.destinationID := by
  rw [listRoutingRules_after database tenantID slug empty fresh.injective member]
  by_cases known : ∀ rule ∈ database.listRoutingRules tenantID row.id,
      Named (exported database.toTables tenantID slug)
        (nameOf (database.listConnections tenantID) rule.destinationID)
  · have answered : routingRulesError around target
        (withContent around target (exported database.toTables tenantID slug) tables)
        (nameToConnID around (exported database.toTables tenantID slug).connections)
        (pipelineDoc database.toTables tenantID (fun _ => none)
          (database.listConnections tenantID) row, index) = none := by
      refine (routingRulesError_eq_none_iff fresh _).mpr
        ⟨operators_exported database tenantID answers owner row index, fun child among => ?_⟩
      obtain ⟨rule, present, rfl⟩ := List.mem_map.mp among
      exact known rule present
    rw [storedRules, answered]
    refine map_zipIdx_eq_iff (routeDoc (database.listConnections tenantID)) _ _ _ ?_
    intro rule place among
    rw [← reference_back_iff database tenantID slug fresh empty
      (known rule (List.fst_mem_of_mem_zipIdx among))]
    exact Prod.ext_iff.trans (and_iff_right rfl)
  · -- a name that is not in the bundle: the rules were refused, and there was one
    have refused : (routingRulesError around target
        (withContent around target (exported database.toTables tenantID slug) tables)
        (nameToConnID around (exported database.toTables tenantID slug).connections)
        (pipelineDoc database.toTables tenantID (fun _ => none)
          (database.listConnections tenantID) row, index)).isSome = true := by
      refine Option.isSome_iff_ne_none.mpr fun answered => known fun rule present => ?_
      exact ((routingRulesError_eq_none_iff fresh _).mp answered).2 _ (List.mem_map_of_mem present)
    push Not at known
    obtain ⟨rule, present, unknown⟩ := known
    rw [storedRules, if_pos refused]
    refine iff_of_false (fun same => ?_) fun all => unknown (named_of_own (all rule present))
    have none := List.map_eq_nil_iff.mp same.symm
    rw [none] at present
    exact List.not_mem_nil present

theorem viewStages_back {row : Pipeline} {index : Nat}
    (member : (row, index) ∈ (database.listPipelines tenantID).zipIdx) :
    ((imported around target (exported database.toTables tenantID slug) tables).listStages target
        (around.freshID (.pipeline index))).map viewStage =
      (database.listStages tenantID row.id).map viewStage := by
  rw [listStages_after database tenantID slug empty fresh.injective member]
  refine (map_zipIdx_eq_iff stageDoc _ _ _ ?_).mpr fun _ _ => trivial
  intro stage place among
  have stored : stage ∈ database.stages :=
    (List.mem_filter.mp ((List.mem_insertionSort _).mp (List.fst_mem_of_mem_zipIdx among))).1
  have kept : (if stage.stageConfig = "" then "\x7b\x7d" else stage.stageConfig) =
      stage.stageConfig := if_neg (database.configured stage stored)
  refine iff_of_true ?_ trivial
  unfold viewStage stageDoc
  dsimp only
  rw [kept]

theorem viewTransforms_back (answers : ∀ statement, around.fails statement = none)
    (owner : target ≠ "") {row : Pipeline} {index : Nat}
    (member : (row, index) ∈ (database.listPipelines tenantID).zipIdx) :
    ((imported around target (exported database.toTables tenantID slug) tables).listTransforms target
        (around.freshID (.pipeline index))).map viewTransform =
      (database.listTransforms tenantID row.id).map viewTransform := by
  rw [listTransforms_after database tenantID slug empty answers owner fresh.injective member]
  refine (map_zipIdx_eq_iff transformDoc _ _ _ ?_).mpr fun _ _ => trivial
  exact fun _ _ _ => iff_of_true rfl trivial

theorem viewPipeline_back_iff (answers : ∀ statement, around.fails statement = none)
    (owner : target ≠ "") {row : Pipeline} {index : Nat}
    (member : (row, index) ∈ (database.listPipelines tenantID).zipIdx)
    (source : Named (exported database.toTables tenantID slug)
      (nameOf (database.listConnections tenantID) row.sourceID))
    (destination : Named (exported database.toTables tenantID slug)
      (nameOf (database.listConnections tenantID) row.destinationID)) :
    viewPipeline (imported around target (exported database.toTables tenantID slug) tables) target
        (pipelineRow around target
          (nameToConnID around (exported database.toTables tenantID slug).connections)
          (pipelineDoc database.toTables tenantID (fun _ => none)
            (database.listConnections tenantID) row, index)) =
      viewPipeline database.toTables tenantID row ↔ PortablePipeline database.toTables tenantID row := by
  have stored := (mem_listPipelines.mp (List.fst_mem_of_mem_zipIdx member)).1
  have format : (if row.outputFormat = "" then "same" else row.outputFormat) = row.outputFormat := by
    refine if_neg fun none => ?_
    have allowed := database.outputFormats row stored
    rw [none] at allowed
    exact absurd allowed (by decide)
  have sources := reference_back_iff database tenantID slug fresh empty source
  have destinations := reference_back_iff database tenantID slug fresh empty destination
  have rules := viewRules_back_iff database tenantID slug fresh empty answers owner member
  have stages := viewStages_back database tenantID slug fresh empty member
  have transforms := viewTransforms_back database tenantID slug fresh empty answers owner member
  unfold viewPipeline pipelineRow pipelineDoc PortablePipeline
  rw [PipelineView.mk.injEq, Pipeline.mk.injEq]
  dsimp only
  rw [sources, destinations, rules, format, stages, transforms]
  have nothing : ∀ names id, none = reference names id ↔ id = "" := fun names id =>
    eq_comm.trans reference_eq_none_iff
  have unset : ∀ names, reference names "" = none := fun _ => rfl
  simp only [unset, nothing, true_and, mem_listRoutingRules]
  constructor
  · rintro ⟨⟨workers, retries, backoff, budget, window, percent, approval⟩, own, also, schema, shadow,
      rules⟩
    exact ⟨schema, workers.symm, retries.symm, backoff.symm, budget.symm, window.symm, shadow,
      percent.symm, approval.symm, own, also,
      fun rule among pipeline tenant => rules rule ⟨among, pipeline, tenant⟩⟩
  · rintro ⟨schema, workers, retries, backoff, budget, window, shadow, percent, approval, own, also,
      rules⟩
    exact ⟨⟨workers.symm, retries.symm, backoff.symm, budget.symm, window.symm, percent.symm,
      approval.symm⟩, own, also, schema, shadow,
      fun rule all => rules rule all.1 all.2.1 all.2.2⟩

/-- The imported tenant is seen as the exported one exactly if that was portable. -/
theorem view_back_iff (answers : ∀ statement, around.fails statement = none) (owner : target ≠ "")
    (named : ∀ row ∈ database.listPipelines tenantID,
      Named (exported database.toTables tenantID slug)
        (nameOf (database.listConnections tenantID) row.sourceID) ∧
      Named (exported database.toTables tenantID slug)
        (nameOf (database.listConnections tenantID) row.destinationID)) :
    view (imported around target (exported database.toTables tenantID slug) tables) target =
      view database.toTables tenantID ↔ Portable database.toTables tenantID := by
  have connections : ((imported around target (exported database.toTables tenantID slug)
      tables).listConnections target).map viewConnection =
        (database.listConnections tenantID).map viewConnection ↔
      ∀ row ∈ database.listConnections tenantID, PortableConnection row := by
    rw [listConnections_after database tenantID slug empty]
    exact map_zipIdx_eq_iff connectionDoc _ _ _ fun row index _ =>
      viewConnection_back_iff around target row index
  have scripts : ((imported around target (exported database.toTables tenantID slug)
      tables).listScripts target).map viewScript = (database.listScripts tenantID).map viewScript ↔
      ∀ row ∈ database.listScripts tenantID, PortableScript row := by
    rw [listScripts_after database tenantID slug empty answers owner]
    exact map_zipIdx_eq_iff scriptDoc _ _ _ fun row index _ =>
      viewScript_back_iff around target row index
  have schemas : ((imported around target (exported database.toTables tenantID slug)
      tables).listSchemas target).map viewSchema = (database.listSchemas tenantID).map viewSchema := by
    rw [listSchemas_after database tenantID slug empty answers owner]
    refine (map_zipIdx_eq_iff schemaDoc _ _ _ ?_).mpr fun _ _ => trivial
    exact fun _ _ _ => iff_of_true rfl trivial
  have pipelines : ((imported around target (exported database.toTables tenantID slug)
      tables).listPipelines target).map (viewPipeline
        (imported around target (exported database.toTables tenantID slug) tables) target) =
        (database.listPipelines tenantID).map (viewPipeline database.toTables tenantID) ↔
      ∀ row ∈ database.listPipelines tenantID, PortablePipeline database.toTables tenantID row := by
    rw [listPipelines_after database tenantID slug empty]
    refine map_zipIdx_eq_iff _ _ _ _ fun row index member => ?_
    obtain ⟨source, destination⟩ := named row (List.fst_mem_of_mem_zipIdx member)
    exact viewPipeline_back_iff database tenantID slug fresh empty answers owner member source
      destination
  unfold view
  rw [View.mk.injEq, connections, scripts, pipelines, schemas]
  simp only [mem_listConnections, mem_listScripts, mem_listPipelines, and_imp, true_and]
  constructor
  · rintro ⟨connections, scripts, pipelines⟩
    exact ⟨connections, scripts, pipelines⟩
  · rintro ⟨connections, scripts, pipelines⟩
    exact ⟨connections, scripts, pipelines⟩

omit empty in
/-- Every exported pipeline goes in exactly if its connections have names among the exported ones. -/
theorem goes_exported_iff (answers : ∀ statement, around.fails statement = none)
    (owner : target ≠ "") :
    (∀ entry ∈ (exported database.toTables tenantID slug).pipelines.zipIdx,
        Goes around target (nameToConnID around (exported database.toTables tenantID slug).connections)
          (withContent around target (exported database.toTables tenantID slug) tables) entry) ↔
      ∀ row ∈ database.listPipelines tenantID,
        Named (exported database.toTables tenantID slug)
          (nameOf (database.listConnections tenantID) row.sourceID) ∧
        Named (exported database.toTables tenantID slug)
          (nameOf (database.listConnections tenantID) row.destinationID) := by
  constructor
  · intro all row among
    obtain ⟨index, there⟩ := List.mem_iff_getElem?.mp among
    have goes := all _ (mem_zipIdx_map _ (List.mem_zipIdx_iff_getElem?.mpr there))
    obtain ⟨⟨source, destination, -⟩, -⟩ := (goes_iff fresh _).mp goes
    exact ⟨source, destination⟩
  · rintro named ⟨doc, index⟩ member
    obtain ⟨row, among, rfl⟩ := List.mem_map.mp (List.fst_mem_of_mem_zipIdx member)
    obtain ⟨source, destination⟩ := named row among
    exact (goes_iff fresh _).mpr ⟨⟨source, destination,
      format_exported database answers owner (mem_listPipelines.mp among).1 index⟩,
      stagesError_exported database tenantID answers owner row index⟩

omit fresh in
theorem not_refused {role : Option Role} (admin : (role.any fun held => !held.atLeast .admin) = false) :
    ¬ Refused around target role (buildBundle database.toTables tenantID slug fun _ => none)
      tables := by
  have noConnections : tables.listConnections target = [] := by
    refine List.eq_nil_iff_forall_not_mem.mpr fun row member => ?_
    obtain ⟨stored, mine⟩ := mem_listConnections.mp member
    exact empty.connections row stored mine
  have noPipelines : tables.listPipelines target = [] := by
    refine List.eq_nil_iff_forall_not_mem.mpr fun row member => ?_
    obtain ⟨stored, mine⟩ := mem_listPipelines.mp member
    exact empty.pipelines row stored mine
  rintro (early | late)
  · rw [admin] at early
    exact Bool.false_ne_true early
  · rcases late _ (buildBundle_eq database.toTables tenantID slug) with version | conflict
    · exact version rfl
    · refine conflict ?_
      unfold importConflict
      rw [noConnections, noPipelines, ite_self, ite_self]
      simp only [List.any_nil, List.find?_eq_none.mpr fun _ _ => Bool.false_ne_true, Option.map_none]

end Back

/-- What is exported and imported into another tenant is there as it was, up to ids and passwords. -/
def ComesBack (around : Surround) (database : Database) (tenantID slug target : String)
    (role : Option Role) (tables : Tables) : Prop :=
  let answer := handleImportConfig around target role
    (buildBundle database.toTables tenantID slug fun _ => none) false tables
  answer.status = 201 ∧ view answer.tables target = view database.toTables tenantID

/-- A configuration comes back from its bundle exactly if it is portable. -/
theorem comesBack_iff_portable (around : Surround) (database : Database)
    (tenantID slug target : String) (role : Option Role) (tables : Tables)
    (answers : ∀ statement, around.fails statement = none) (owner : target ≠ "")
    (fresh : Fresh around tables) (empty : Empty tables target)
    (admin : (role.any fun held => !held.atLeast .admin) = false) :
    ComesBack around database tenantID slug target role tables ↔
      Portable database.toTables tenantID := by
  obtain ⟨bundle, same, -, real⟩ := handleImportConfig_of_not_refused
    (not_refused database tenantID slug empty admin)
  obtain rfl : exported database.toTables tenantID slug = bundle :=
    Except.ok.inj ((buildBundle_eq database.toTables tenantID slug).symm.trans same)
  have connections := connectionError_exported database tenantID slug answers owner
  unfold ComesBack
  rw [real]
  have named := @goes_exported_iff database tenantID slug around tables target fresh answers owner
  by_cases go : ∀ entry ∈ (exported database.toTables tenantID slug).pipelines.zipIdx,
      Goes around target (nameToConnID around (exported database.toTables tenantID slug).connections)
        (withContent around target (exported database.toTables tenantID slug) tables) entry
  · rw [applyBundle_ok fresh connections go]
    refine (and_iff_right rfl).trans ?_
    exact view_back_iff database tenantID slug fresh empty answers owner (named.mp go)
  · -- a pipeline whose connections are not in the bundle: the import stops there
    refine iff_of_false ?_ ?_
    · rintro ⟨status, -⟩
      push Not at go
      obtain ⟨answer, error, after, answered, -, why⟩ := applyBundle_pipelines connections go
      rw [answered] at status
      rcases why with rfl | ⟨rfl, -⟩
      · exact absurd status (show ¬ 400 = 201 by decide)
      · exact absurd status (show ¬ 500 = 201 by decide)
    · intro portable
      refine go (named.mpr fun row among => ?_)
      obtain ⟨stored, mine⟩ := mem_listPipelines.mp among
      obtain ⟨-, -, -, -, -, -, -, -, -, source, destination, -⟩ :=
        portable.pipelines row stored mine
      exact ⟨named_of_own source, named_of_own destination⟩

/-! ### Samples -/

/-- A tenant with two connections, a schema, a script and a pipeline with one child of each kind. -/
def sampleDatabase (groupID : String) (enabled : Bool) (workers : Int) : Database where
  connections := [
    { id := "c1", tenantID := "t", name := "orders", type := "kafka", groupID },
    { id := "c2", tenantID := "t", name := "invoices", type := "nats" }]
  schemas := [{ id := "s1", tenantID := "t", name := "order", schemaType := "xsd", content := "order" }]
  scripts := [{ id := "x1", tenantID := "t", name := "trim", body := "", enabled }]
  pipelines := [
    { id := "p1", tenantID := "t", name := "p", sourceID := "c1", destinationID := "c2", workers }]
  stages := [
    { id := "g1", tenantID := "t", pipelineID := "p1", stageType := "transform",
      stageConfig := "\x7b\x7d" }]
  transforms := [{ id := "m1", tenantID := "t", pipelineID := "p1", transformType := "mask" }]
  routingRules := [
    { id := "r1", tenantID := "t", pipelineID := "p1", conditionOperator := "exists",
      destinationID := "c1" }]
  identified := by simp
  connectionTypes := by simp [Transfer.connectionTypes]
  schemaTypes := by simp [Transfer.schemaTypes]
  outputFormats := by simp [Transfer.outputFormats]
  stageTypes := by simp [Transfer.stageTypes]
  configured := by simp
  transformTypes := by simp [Transfer.transformTypes]
  conditionOperators := by simp [Transfer.conditionOperators]

theorem empty_tables (target : String) : Empty {} target := by
  refine ⟨?_, ?_, ?_, ?_, ?_, ?_, ?_⟩ <;> exact fun _ member => absurd member List.not_mem_nil

/-- A configuration that uses no column its documents lack comes back. -/
theorem sampleDatabase_comes_back :
    ComesBack answering (sampleDatabase "" false 0) "t" "office" "u" (some .admin) {} := by
  refine (comesBack_iff_portable answering (sampleDatabase "" false 0) "t" "office" "u" (some .admin) {}
    (fun _ => rfl) (by decide) fresh_answering (empty_tables "u") (by decide)).mpr ⟨?_, ?_, ?_⟩
  · unfold PortableConnection
    decide
  · unfold PortableScript
    decide
  · unfold PortablePipeline Own
    decide

/-- The consumer group of a connection, the flag of a script and the workers of a pipeline do not. -/
theorem sampleDatabase_loses :
    ¬ ComesBack answering (sampleDatabase "billing" false 0) "t" "office" "u" (some .admin) {} ∧
      ¬ ComesBack answering (sampleDatabase "" true 0) "t" "office" "u" (some .admin) {} ∧
      ¬ ComesBack answering (sampleDatabase "" false 4) "t" "office" "u" (some .admin) {} := by
  refine ⟨?_, ?_, ?_⟩ <;> exact fun back => absurd back.2 (by decide)

end Transfer

end MqConnector
