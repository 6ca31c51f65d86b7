/-
This file asks whether an import is all or nothing, and whether its dry run tells.

"Conflicts with existing rows (same name) cause the bundle to be rejected upfront".
Everything else is found while rows are being inserted: an import that stops keeps
what it has inserted, one that goes through may have passed by schemas, scripts,
transforms and routing rules that were refused, and a name that no connection of
the bundle has is answered by a 400 the dry run does not see.
-/

import MqConnector.ConfigTransfer

namespace MqConnector

namespace Transfer

variable {around : Surround} {tenantID : String} {names : String → String} {tables : Tables}
  {bundle : Bundle} {name : String}

/-! ### The connections -/

theorem importConnections_ok {entries : List (ConnectionDoc × Nat)}
    (go : ∀ entry ∈ entries, connectionError around tenantID entry = none) :
    importConnections around tenantID entries tables = .ok { tables with
      connections := tables.connections ++ entries.map (connectionRow around tenantID) } := by
  induction entries generalizing tables with
  | nil =>
    rw [List.map_nil, List.append_nil]
    rfl
  | cons entry rest hypothesis =>
    rw [importConnections, go entry List.mem_cons_self]
    dsimp only
    rw [hypothesis fun other member => go other (List.mem_cons_of_mem _ member),
      List.map_cons, List.append_assoc]
    rfl

theorem importConnections_error {entries : List (ConnectionDoc × Nat)}
    (stops : ∃ entry ∈ entries, connectionError around tenantID entry ≠ none) :
    ∃ done entry rest error, entries = done ++ entry :: rest ∧
      connectionError around tenantID entry ≠ none ∧
      (∀ entry ∈ done, connectionError around tenantID entry = none) ∧
      importConnections around tenantID entries tables = .error (error, { tables with
        connections := tables.connections ++ done.map (connectionRow around tenantID) }) := by
  induction entries generalizing tables with
  | nil =>
    obtain ⟨entry, member, -⟩ := stops
    exact absurd member List.not_mem_nil
  | cons entry rest hypothesis =>
    cases found : connectionError around tenantID entry with
    | some error =>
      refine ⟨[], entry, rest, "create connection " ++ entry.1.name ++ ": " ++ error, rfl, ?_, ?_, ?_⟩
      · rw [found]
        exact Option.some_ne_none _
      · exact fun _ member => absurd member List.not_mem_nil
      · rw [importConnections, found, List.map_nil, List.append_nil]
    | none =>
      obtain ⟨bad, member, fails⟩ := stops
      have later : bad ∈ rest := by
        rcases List.mem_cons.mp member with rfl | later
        · exact absurd found fails
        · exact later
      obtain ⟨done, stopped, left, error, same, failed, went, imported⟩ :=
        @hypothesis { tables with
          connections := tables.connections ++ [connectionRow around tenantID entry] }
          ⟨bad, later, fails⟩
      refine ⟨entry :: done, stopped, left, error, by rw [same, List.cons_append], failed, ?_, ?_⟩
      · exact List.forall_mem_cons.mpr ⟨found, went⟩
      · rw [importConnections, found]
        dsimp only
        rw [imported, List.map_cons, List.append_assoc]
        rfl

/-- A connection of the bundle has the name. -/
def Named (bundle : Bundle) (name : String) : Prop :=
  ∃ doc ∈ bundle.connections, doc.name = name

theorem nameToConnID_eq_empty (unknown : ¬ Named bundle name) :
    nameToConnID around bundle.connections name = "" := by
  have absent : (bundle.connections.zipIdx.reverse.find? fun entry => entry.1.name = name) = none := by
    refine List.find?_eq_none.mpr fun entry member => ?_
    intro same
    refine unknown ⟨entry.1, ?_, of_decide_eq_true same⟩
    exact List.fst_mem_of_mem_zipIdx (List.mem_reverse.mp member)
  rw [nameToConnID, absent]
  rfl

theorem nameToConnID_of_named (around : Surround) (known : Named bundle name) :
    ∃ entry ∈ bundle.connections.zipIdx, entry.1.name = name ∧
      nameToConnID around bundle.connections name = around.freshID (.connection entry.2) := by
  obtain ⟨doc, member, named⟩ := known
  obtain ⟨index, there⟩ := List.mem_iff_getElem?.mp member
  have among : (doc, index) ∈ bundle.connections.zipIdx := List.mem_zipIdx_iff_getElem?.mpr there
  cases found : bundle.connections.zipIdx.reverse.find? fun entry => entry.1.name = name with
  | none =>
    have none := List.find?_eq_none.mp found (doc, index) (List.mem_reverse.mpr among)
    exact absurd (decide_eq_true named) none
  | some entry =>
    have same := List.find?_some found
    refine ⟨entry, List.mem_reverse.mp (List.mem_of_find?_eq_some found), of_decide_eq_true same, ?_⟩
    rw [nameToConnID, found]
    rfl

/-! ### The pipelines -/

/-- A pipeline whose row and stages can be created. -/
def Goes (around : Surround) (tenantID : String) (names : String → String) (tables : Tables)
    (entry : PipelineDoc × Nat) : Prop :=
  names entry.1.sourceConnectionName ≠ "" ∧ names entry.1.destConnectionName ≠ "" ∧
    pipelineError around tenantID tables names entry = none ∧ stagesError around tenantID entry = none

/-- None of the pipelines to come has children yet. -/
structure Room (around : Surround) (tenantID : String) (tables : Tables)
    (entries : List (PipelineDoc × Nat)) : Prop where
  stages : ∀ entry ∈ entries, ∀ row ∈ tables.stages,
    ¬ (row.pipelineID = around.freshID (.pipeline entry.2) ∧ row.tenantID = tenantID)
  transforms : ∀ entry ∈ entries, ∀ row ∈ tables.transforms,
    ¬ (row.pipelineID = around.freshID (.pipeline entry.2) ∧ row.tenantID = tenantID)
  routingRules : ∀ entry ∈ entries, ∀ row ∈ tables.routingRules,
    ¬ (row.pipelineID = around.freshID (.pipeline entry.2) ∧ row.tenantID = tenantID)

def storedTransforms (around : Surround) (tenantID : String) (entry : PipelineDoc × Nat) :
    List Transform :=
  if (transformsError around tenantID entry).isSome then [] else transformRows around tenantID entry

def storedRules (around : Surround) (tenantID : String) (names : String → String) (tables : Tables)
    (entry : PipelineDoc × Nat) : List RoutingRule :=
  if (routingRulesError around tenantID tables names entry).isSome then []
  else routingRuleRows around tenantID names entry

/-- The tables with all the pipelines of a bundle. -/
def withPipelines (around : Surround) (tenantID : String) (names : String → String)
    (entries : List (PipelineDoc × Nat)) (tables : Tables) : Tables :=
  { tables with
    pipelines := tables.pipelines ++ entries.map (pipelineRow around tenantID names)
    stages := tables.stages ++ entries.flatMap (stageRows around tenantID)
    transforms := tables.transforms ++ entries.flatMap (storedTransforms around tenantID)
    routingRules := tables.routingRules ++
      entries.flatMap (storedRules around tenantID names tables) }

def withPipeline (around : Surround) (tenantID : String) (names : String → String)
    (entry : PipelineDoc × Nat) (tables : Tables) : Tables :=
  { tables with
    pipelines := tables.pipelines ++ [pipelineRow around tenantID names entry]
    stages := tables.stages ++ stageRows around tenantID entry
    transforms := tables.transforms ++ storedTransforms around tenantID entry
    routingRules := tables.routingRules ++ storedRules around tenantID names tables entry }

theorem withPipelines_cons (entry : PipelineDoc × Nat) (rest : List (PipelineDoc × Nat)) :
    withPipelines around tenantID names (entry :: rest) tables =
      withPipelines around tenantID names rest (withPipeline around tenantID names entry tables) := by
  unfold withPipelines withPipeline
  simp only [List.map_cons, List.flatMap_cons, List.append_assoc, List.singleton_append]
  rfl

theorem filter_room {Row : Type} {rows : List Row} {doomed : Row → Prop} [DecidablePred doomed]
    (spared : ∀ row ∈ rows, ¬ doomed row) : rows.filter (fun row => ¬ doomed row) = rows :=
  List.filter_eq_self.mpr fun row member => decide_eq_true (spared row member)

theorem importPipelines_cons {entry : PipelineDoc × Nat} {rest : List (PipelineDoc × Nat)}
    (go : Goes around tenantID names tables entry)
    (room : Room around tenantID tables (entry :: rest)) :
    importPipelines around tenantID names (entry :: rest) tables =
      importPipelines around tenantID names rest (withPipeline around tenantID names entry tables) := by
  obtain ⟨source, destination, creates, stages⟩ := go
  rw [importPipelines, if_neg (not_or.mpr ⟨source, destination⟩), creates]
  dsimp only
  rw [stages]
  dsimp only
  congr 1
  have spared := filter_room (room.stages entry List.mem_cons_self)
  have sparedTransforms := filter_room (room.transforms entry List.mem_cons_self)
  have sparedRules := filter_room (room.routingRules entry List.mem_cons_self)
  unfold importRules withPipeline replaceStages storedTransforms storedRules replaceTransforms
    replaceRoutingRules
  dsimp only
  rw [spared]
  -- the rules read nothing of the tables but their connections
  have same : routingRulesError around tenantID { tables with
      pipelines := tables.pipelines ++ [pipelineRow around tenantID names entry]
      stages := tables.stages ++ stageRows around tenantID entry } names entry =
        routingRulesError around tenantID tables names entry := rfl
  rw [same]
  split
  · split
    · rw [List.append_nil, List.append_nil]
    · rw [List.append_nil, sparedTransforms]
  · split
    · rw [List.append_nil, sparedRules]
    · rw [sparedTransforms, sparedRules]

theorem Room.next (fresh : Function.Injective around.freshID) {entry : PipelineDoc × Nat}
    {rest : List (PipelineDoc × Nat)} (room : Room around tenantID tables (entry :: rest))
    (apart : ∀ other ∈ rest, other.2 ≠ entry.2) :
    Room around tenantID (withPipeline around tenantID names entry tables) rest := by
  have different : ∀ other ∈ rest, around.freshID (.pipeline entry.2) ≠
      around.freshID (.pipeline other.2) := by
    intro other member same
    exact apart other member (Drawn.pipeline.inj (fresh same)).symm
  refine ⟨fun other member row among => ?_, fun other member row among => ?_,
    fun other member row among => ?_⟩
  · rcases List.mem_append.mp among with earlier | newest
    · exact room.stages other (List.mem_cons_of_mem _ member) row earlier
    · obtain ⟨child, -, rfl⟩ := List.mem_map.mp newest
      exact fun both => different other member both.1
  · rcases List.mem_append.mp among with earlier | newest
    · exact room.transforms other (List.mem_cons_of_mem _ member) row earlier
    · obtain ⟨child, -, rfl⟩ := List.mem_map.mp (List.mem_ite_nil_left.mp newest).2
      exact fun both => different other member both.1
  · rcases List.mem_append.mp among with earlier | newest
    · exact room.routingRules other (List.mem_cons_of_mem _ member) row earlier
    · obtain ⟨child, -, rfl⟩ := List.mem_map.mp (List.mem_ite_nil_left.mp newest).2
      exact fun both => different other member both.1

theorem importPipelines_ok (fresh : Function.Injective around.freshID)
    {entries : List (PipelineDoc × Nat)} (distinct : (entries.map Prod.snd).Nodup)
    (room : Room around tenantID tables entries)
    (go : ∀ entry ∈ entries, Goes around tenantID names tables entry) :
    importPipelines around tenantID names entries tables =
      .ok (withPipelines around tenantID names entries tables) := by
  induction entries generalizing tables with
  | nil =>
    unfold withPipelines
    simp only [List.map_nil, List.flatMap_nil, List.append_nil]
    rfl
  | cons entry rest hypothesis =>
    obtain ⟨first, others⟩ := List.nodup_cons.mp distinct
    rw [importPipelines_cons (go entry List.mem_cons_self) room, withPipelines_cons]
    refine hypothesis others (room.next fresh ?_) ?_
    · exact fun other member same => first (same ▸ List.mem_map_of_mem member)
    · exact fun other member => go other (List.mem_cons_of_mem _ member)

theorem goes_congr {other : Tables} (same : other.connections = tables.connections)
    (entry : PipelineDoc × Nat) :
    Goes around tenantID names other entry ↔ Goes around tenantID names tables entry := by
  unfold Goes pipelineError references
  rw [same]

theorem importRules_connections (around : Surround) (tenantID : String) (names : String → String)
    (entry : PipelineDoc × Nat) (tables : Tables) :
    (importRules around tenantID names entry tables).connections = tables.connections := by
  unfold importRules replaceTransforms replaceRoutingRules
  dsimp only
  split
  · split
    · rfl
    · rfl
  · split
    · rfl
    · rfl

theorem importPipelines_error {entries : List (PipelineDoc × Nat)}
    (stops : ∃ entry ∈ entries, ¬ Goes around tenantID names tables entry) :
    ∃ status error after, importPipelines around tenantID names entries tables =
        .error (status, error, after) ∧ after.connections = tables.connections ∧
      (status = 400 ∨ status = 500 ∧ ∃ name, names name ≠ "") := by
  induction entries generalizing tables with
  | nil =>
    obtain ⟨entry, member, -⟩ := stops
    exact absurd member List.not_mem_nil
  | cons entry rest hypothesis =>
    rw [importPipelines]
    split
    · exact ⟨_, _, _, rfl, rfl, Or.inl rfl⟩
    · rename_i found
      obtain ⟨source, destination⟩ := not_or.mp found
      split
      · exact ⟨_, _, _, rfl, rfl, Or.inr ⟨rfl, _, source⟩⟩
      · rename_i creates
        dsimp only
        split
        · exact ⟨_, _, _, rfl, rfl, Or.inr ⟨rfl, _, source⟩⟩
        · rename_i stages
          obtain ⟨bad, member, fails⟩ := stops
          have later : bad ∈ rest := by
            rcases List.mem_cons.mp member with rfl | later
            · exact absurd ⟨source, destination, creates, stages⟩ fails
            · exact later
          have kept := importRules_connections around tenantID names entry
            (replaceStages tenantID { tables with
              pipelines := tables.pipelines ++ [pipelineRow around tenantID names entry] }
              (around.freshID (.pipeline entry.2)) (stageRows around tenantID entry))
          obtain ⟨status, error, after, imported, connections, why⟩ :=
            hypothesis ⟨bad, later, mt (goes_congr kept bad).mp fails⟩
          exact ⟨status, error, after, imported, connections.trans kept, why⟩

/-! ### What is stored -/

theorem callError_eq_none_iff {failure : Option String} {allowed : Bool} :
    callError tenantID failure allowed = none ↔
      tenantID ≠ "" ∧ failure = none ∧ allowed = true := by
  unfold callError
  split
  · rename_i absent
    exact iff_of_false (Option.some_ne_none _) fun all => all.1 absent
  · rename_i present
    rw [Option.or_eq_none_iff]
    cases allowed with
    | false => simp
    | true => simp [present]

/-- The ids an import draws: none twice, none empty, none in use. -/
structure Fresh (around : Surround) (tables : Tables) : Prop where
  injective : Function.Injective around.freshID
  nonempty : ∀ drawn, around.freshID drawn ≠ ""
  identified : ∀ row ∈ tables.connections, row.id ≠ ""
  schemas : ∀ row ∈ tables.schemas, ∀ drawn, row.id ≠ around.freshID drawn
  scripts : ∀ row ∈ tables.scripts, ∀ drawn, row.id ≠ around.freshID drawn
  transforms : ∀ row ∈ tables.transforms, ∀ drawn, row.id ≠ around.freshID drawn
  routingRules : ∀ row ∈ tables.routingRules, ∀ drawn, row.id ≠ around.freshID drawn
  childless : ∀ drawn, (∀ row ∈ tables.stages, row.pipelineID ≠ around.freshID drawn) ∧
    (∀ row ∈ tables.transforms, row.pipelineID ≠ around.freshID drawn) ∧
    ∀ row ∈ tables.routingRules, row.pipelineID ≠ around.freshID drawn

/-- The row of every item of the bundle is in the tables. -/
structure Stored (around : Surround) (tenantID : String) (bundle : Bundle) (after : Tables) :
    Prop where
  connections : ∀ entry ∈ bundle.connections.zipIdx,
    connectionRow around tenantID entry ∈ after.connections
  schemas : ∀ entry ∈ bundle.schemas.zipIdx, schemaRow around tenantID entry ∈ after.schemas
  scripts : ∀ entry ∈ bundle.scripts.zipIdx, scriptRow around tenantID entry ∈ after.scripts
  pipelines : ∀ entry ∈ bundle.pipelines.zipIdx,
    pipelineRow around tenantID (nameToConnID around bundle.connections) entry ∈ after.pipelines
  stages : ∀ entry ∈ bundle.pipelines.zipIdx, stageRows around tenantID entry ⊆ after.stages
  transforms : ∀ entry ∈ bundle.pipelines.zipIdx,
    transformRows around tenantID entry ⊆ after.transforms
  routingRules : ∀ entry ∈ bundle.pipelines.zipIdx,
    routingRuleRows around tenantID (nameToConnID around bundle.connections) entry ⊆
      after.routingRules

/-- The condition on a bundle that is stored as a whole: every statement can be executed, and every
name is that of a connection of the bundle. A list of transforms or of rules that is empty needs no
statement. -/
structure Complete (around : Surround) (tenantID : String) (bundle : Bundle) : Prop where
  connections : ∀ entry ∈ bundle.connections.zipIdx, connectionError around tenantID entry = none
  schemas : ∀ entry ∈ bundle.schemas.zipIdx, schemaError around tenantID entry = none
  scripts : ∀ entry ∈ bundle.scripts.zipIdx, scriptError around tenantID entry = none
  pipelines : ∀ entry ∈ bundle.pipelines.zipIdx, Named bundle entry.1.sourceConnectionName ∧
    Named bundle entry.1.destConnectionName ∧
    callError tenantID (around.fails (.pipeline entry.2))
      ("" :: outputFormats |>.contains entry.1.outputFormat) = none
  stages : ∀ entry ∈ bundle.pipelines.zipIdx, stagesError around tenantID entry = none
  transforms : ∀ entry ∈ bundle.pipelines.zipIdx, entry.1.transforms = [] ∨
    transformsError around tenantID entry = none
  routingRules : ∀ entry ∈ bundle.pipelines.zipIdx, entry.1.routingRules = [] ∨
    (callError tenantID (around.fails (.routingRules entry.2))
      (entry.1.routingRules.all fun child => conditionOperators.contains child.operator) = none ∧
    ∀ child ∈ entry.1.routingRules, Named bundle child.destConnectionName)

/-- The tables with the connections, the schemas and the scripts of a bundle. -/
def withContent (around : Surround) (tenantID : String) (bundle : Bundle) (tables : Tables) :
    Tables :=
  importContent around tenantID bundle { tables with
    connections := tables.connections ++
      bundle.connections.zipIdx.map (connectionRow around tenantID) }

section Content

variable (fresh : Fresh around tables)

include fresh

theorem nameToConnID_ne_empty_iff :
    nameToConnID around bundle.connections name ≠ "" ↔ Named bundle name := by
  constructor
  · intro found
    by_contra unknown
    exact found (nameToConnID_eq_empty unknown)
  · intro known
    obtain ⟨entry, -, -, same⟩ := nameToConnID_of_named around known
    rw [same]
    exact fresh.nonempty _

theorem references_iff :
    references (withContent around tenantID bundle tables)
      (nameToConnID around bundle.connections name) = true ↔ Named bundle name := by
  unfold references
  rw [List.any_eq_true]
  constructor
  · rintro ⟨row, member, same⟩
    rw [← nameToConnID_ne_empty_iff fresh, ← of_decide_eq_true same]
    rcases List.mem_append.mp member with earlier | newest
    · exact fresh.identified row earlier
    · obtain ⟨entry, -, rfl⟩ := List.mem_map.mp newest
      exact fresh.nonempty _
  · intro known
    obtain ⟨entry, among, -, same⟩ := nameToConnID_of_named around known
    refine ⟨connectionRow around tenantID entry, ?_, decide_eq_true same.symm⟩
    exact List.mem_append_right _ (List.mem_map_of_mem among)

/-- A pipeline goes in exactly if its connections are named and its row and stages are stored. -/
theorem goes_iff (entry : PipelineDoc × Nat) :
    Goes around tenantID (nameToConnID around bundle.connections)
        (withContent around tenantID bundle tables) entry ↔
      (Named bundle entry.1.sourceConnectionName ∧ Named bundle entry.1.destConnectionName ∧
        callError tenantID (around.fails (.pipeline entry.2))
          ("" :: outputFormats |>.contains entry.1.outputFormat) = none) ∧
      stagesError around tenantID entry = none := by
  have format : outputFormats.contains (pipelineRow around tenantID
      (nameToConnID around bundle.connections) entry).outputFormat =
        ("" :: outputFormats).contains entry.1.outputFormat := by
    show outputFormats.contains (if entry.1.outputFormat = "" then "same" else entry.1.outputFormat) = _
    split
    · rename_i empty
      rw [empty]
      rfl
    · rename_i given
      rw [List.contains_cons, beq_false_of_ne given, Bool.false_or]
  unfold Goes pipelineError
  dsimp only
  rw [nameToConnID_ne_empty_iff fresh, nameToConnID_ne_empty_iff fresh, callError_eq_none_iff,
    callError_eq_none_iff, format, Bool.and_eq_true, Bool.and_eq_true]
  constructor
  · rintro ⟨named, also, ⟨tenant, answered, ⟨allowed, -⟩, -⟩, stages⟩
    exact ⟨⟨named, also, tenant, answered, allowed⟩, stages⟩
  · rintro ⟨⟨named, also, tenant, answered, allowed⟩, stages⟩
    exact ⟨named, also, ⟨tenant, answered, ⟨allowed, (references_iff fresh).mpr named⟩,
      (references_iff fresh).mpr also⟩, stages⟩

theorem routingRulesError_eq_none_iff (entry : PipelineDoc × Nat) :
    routingRulesError around tenantID (withContent around tenantID bundle tables)
        (nameToConnID around bundle.connections) entry = none ↔
      callError tenantID (around.fails (.routingRules entry.2))
          (entry.1.routingRules.all fun child => conditionOperators.contains child.operator) = none ∧
        ∀ child ∈ entry.1.routingRules, Named bundle child.destConnectionName := by
  unfold routingRulesError
  rw [callError_eq_none_iff, callError_eq_none_iff, List.all_eq_true, List.all_eq_true]
  simp only [Bool.and_eq_true, references_iff fresh]
  constructor
  · rintro ⟨tenant, answered, both⟩
    exact ⟨⟨tenant, answered, fun child member => (both child member).1⟩,
      fun child member => (both child member).2⟩
  · rintro ⟨⟨tenant, answered, allowed⟩, named⟩
    exact ⟨tenant, answered, fun child member => ⟨allowed child member, named child member⟩⟩

theorem room_withContent (entries : List (PipelineDoc × Nat)) :
    Room around tenantID (withContent around tenantID bundle tables) entries where
  stages _ _ row among both := (fresh.childless _).1 row among both.1
  transforms _ _ row among both := (fresh.childless _).2.1 row among both.1
  routingRules _ _ row among both := (fresh.childless _).2.2 row among both.1

end Content

/-! ### The whole import -/

theorem distinct_zipIdx {Doc : Type} (docs : List Doc) : (docs.zipIdx.map Prod.snd).Nodup := by
  rw [List.zipIdx_map_snd]
  exact List.nodup_range'

theorem answered_of_stored {Doc Row : Type} {docs : List Doc} {rows : List Row}
    {error : Doc × Nat → Option String} {toRow : Doc × Nat → Row} {entry : Doc × Nat}
    (member : entry ∈ docs.zipIdx) (unused : toRow entry ∉ rows)
    (known : ∀ other, toRow other = toRow entry → other.2 = entry.2)
    (stored : toRow entry ∈ rows ++
      (docs.zipIdx.filter fun entry => (error entry).isNone).map toRow) :
    error entry = none := by
  obtain ⟨other, among, same⟩ := List.mem_map.mp ((List.mem_append.mp stored).resolve_left unused)
  obtain ⟨present, answered⟩ := List.mem_filter.mp among
  obtain rfl : other = entry :=
    List.inj_on_of_nodup_map (distinct_zipIdx docs) present member (known other same)
  exact Option.isNone_iff_eq_none.mp answered

theorem answered_of_children {Doc Row : Type} {docs : List Doc} {rows : List Row}
    {error : Doc × Nat → Option String} {children : Doc × Nat → List Row} {entry : Doc × Nat}
    {row : Row} (member : entry ∈ docs.zipIdx) (unused : row ∉ rows)
    (known : ∀ other, row ∈ children other → other.2 = entry.2)
    (stored : row ∈ rows ++ docs.zipIdx.flatMap fun entry =>
      if (error entry).isSome then [] else children entry) :
    error entry = none := by
  obtain ⟨other, present, found⟩ :=
    List.mem_flatMap.mp ((List.mem_append.mp stored).resolve_left unused)
  obtain ⟨answered, among⟩ := List.mem_ite_nil_left.mp found
  obtain rfl : other = entry :=
    List.inj_on_of_nodup_map (distinct_zipIdx docs) present member (known other among)
  exact Option.not_isSome_iff_eq_none.mp answered

/-- The tables after an import that goes through. -/
def imported (around : Surround) (tenantID : String) (bundle : Bundle) (tables : Tables) : Tables :=
  withPipelines around tenantID (nameToConnID around bundle.connections) bundle.pipelines.zipIdx
    (withContent around tenantID bundle tables)

/-- Where everything goes in, the tables are the imported ones. -/
theorem applyBundle_ok (fresh : Fresh around tables)
    (connections : ∀ entry ∈ bundle.connections.zipIdx, connectionError around tenantID entry = none)
    (go : ∀ entry ∈ bundle.pipelines.zipIdx, Goes around tenantID
      (nameToConnID around bundle.connections) (withContent around tenantID bundle tables) entry) :
    applyBundle around tenantID bundle tables =
      { status := 201, tables := imported around tenantID bundle tables } := by
  have pipelines : importPipelines around tenantID (nameToConnID around bundle.connections)
      bundle.pipelines.zipIdx (importContent around tenantID bundle { tables with
        connections := tables.connections ++
          bundle.connections.zipIdx.map (connectionRow around tenantID) }) =
        .ok (imported around tenantID bundle tables) :=
    importPipelines_ok fresh.injective (distinct_zipIdx _) (room_withContent fresh _) go
  rw [applyBundle, importConnections_ok connections]
  dsimp only
  rw [pipelines]

/-- A complete bundle is stored row by row. -/
theorem stored_of_complete (fresh : Fresh around tables) (complete : Complete around tenantID bundle) :
    Stored around tenantID bundle (imported around tenantID bundle tables) := by
  refine ⟨?_, ?_, ?_, ?_, ?_, ?_, ?_⟩
  · intro entry member
    exact List.mem_append_right _ (List.mem_map_of_mem member)
  · intro entry member
    refine List.mem_append_right _ (List.mem_map_of_mem (List.mem_filter.mpr ⟨member, ?_⟩))
    rw [complete.schemas entry member]
    rfl
  · intro entry member
    refine List.mem_append_right _ (List.mem_map_of_mem (List.mem_filter.mpr ⟨member, ?_⟩))
    rw [complete.scripts entry member]
    rfl
  · intro entry member
    exact List.mem_append_right _ (List.mem_map_of_mem member)
  · intro entry member row among
    exact List.mem_append_right _ (List.mem_flatMap.mpr ⟨entry, member, among⟩)
  · intro entry member row among
    refine List.mem_append_right _ (List.mem_flatMap.mpr ⟨entry, member, ?_⟩)
    rcases complete.transforms entry member with none | answered
    · rw [transformRows, none] at among
      exact absurd among List.not_mem_nil
    · rw [storedTransforms, answered]
      exact among
  · intro entry member row among
    refine List.mem_append_right _ (List.mem_flatMap.mpr ⟨entry, member, ?_⟩)
    rcases complete.routingRules entry member with none | answered
    · rw [routingRuleRows, none] at among
      exact absurd among List.not_mem_nil
    · rw [storedRules, (routingRulesError_eq_none_iff fresh entry).mpr answered]
      exact among

/-- What is stored as a whole was complete. -/
theorem complete_of_stored (fresh : Fresh around tables)
    (connections : ∀ entry ∈ bundle.connections.zipIdx, connectionError around tenantID entry = none)
    (go : ∀ entry ∈ bundle.pipelines.zipIdx, Goes around tenantID
      (nameToConnID around bundle.connections) (withContent around tenantID bundle tables) entry)
    (stored : Stored around tenantID bundle (imported around tenantID bundle tables)) :
    Complete around tenantID bundle := by
  refine ⟨connections, ?_, ?_, ?_, ?_, ?_, ?_⟩
  · intro entry member
    refine answered_of_stored member ?_ ?_ (stored.schemas entry member)
    · exact fun earlier => fresh.schemas _ earlier (.schema entry.2) rfl
    · intro other same
      exact Drawn.schema.inj (fresh.injective (congrArg (fun row : Schema => row.id) same))
  · intro entry member
    refine answered_of_stored member ?_ ?_ (stored.scripts entry member)
    · exact fun earlier => fresh.scripts _ earlier (.script entry.2) rfl
    · intro other same
      exact Drawn.script.inj (fresh.injective (congrArg (fun row : Script => row.id) same))
  · exact fun entry member => ((goes_iff fresh entry).mp (go entry member)).1
  · exact fun entry member => ((goes_iff fresh entry).mp (go entry member)).2
  · intro entry member
    refine Classical.or_iff_not_imp_left.mpr fun some => ?_
    have rows : transformRows around tenantID entry ≠ [] := by
      rw [transformRows, ne_eq, List.map_eq_nil_iff, List.zipIdx_eq_nil_iff]
      exact some
    obtain ⟨row, among⟩ := List.exists_mem_of_ne_nil _ rows
    have new := stored.transforms entry member among
    obtain ⟨child, -, rfl⟩ := List.mem_map.mp among
    refine answered_of_children member ?_ ?_ new
    · exact fun earlier => fresh.transforms _ earlier (.transform entry.2 child.2) rfl
    · intro other found
      obtain ⟨_, -, same⟩ := List.mem_map.mp found
      exact (Drawn.transform.inj
        (fresh.injective (congrArg (fun row : Transform => row.id) same))).1
  · intro entry member
    refine Classical.or_iff_not_imp_left.mpr fun some => ?_
    have rows : routingRuleRows around tenantID (nameToConnID around bundle.connections) entry ≠ [] := by
      rw [routingRuleRows, ne_eq, List.map_eq_nil_iff, List.zipIdx_eq_nil_iff]
      exact some
    obtain ⟨row, among⟩ := List.exists_mem_of_ne_nil _ rows
    have new := stored.routingRules entry member among
    obtain ⟨child, -, rfl⟩ := List.mem_map.mp among
    refine (routingRulesError_eq_none_iff fresh entry).mp (answered_of_children member ?_ ?_ new)
    · exact fun earlier => fresh.routingRules _ earlier (.routingRule entry.2 child.2) rfl
    · intro other found
      obtain ⟨_, -, same⟩ := List.mem_map.mp found
      exact (Drawn.routingRule.inj
        (fresh.injective (congrArg (fun row : RoutingRule => row.id) same))).1

/-! ### All or nothing -/

/-- An error leaves the tables as they were, a 201 stores every item, and a dry run that answers 200
announces an import that is not answered by a 4xx. -/
def AllOrNothing (around : Surround) (tenantID : String) (role : Option Role)
    (body : Except String Bundle) (tables : Tables) : Prop :=
  let real := handleImportConfig around tenantID role body false tables
  let dry := handleImportConfig around tenantID role body true tables
  (400 ≤ real.status → real.tables = tables) ∧
    (real.status = 201 → ∃ bundle, body = .ok bundle ∧ Stored around tenantID bundle real.tables) ∧
    (dry.status = 200 → ¬ (400 ≤ real.status ∧ real.status < 500))

/-- The pre-flight check refuses the request. -/
def Refused (around : Surround) (tenantID : String) (role : Option Role)
    (body : Except String Bundle) (tables : Tables) : Prop :=
  (role.any fun held => !held.atLeast .admin) = true ∨ ∀ bundle, body = .ok bundle →
    bundle.version ≠ 1 ∨ importConflict around tenantID bundle tables ≠ none

/-- The first connection of the bundle is not stored. -/
def FirstFails (around : Surround) (tenantID : String) (bundle : Bundle) : Prop :=
  ∃ entry ∈ bundle.connections.zipIdx.head?, connectionError around tenantID entry ≠ none

/-- A refused import changes nothing. -/
theorem handleImportConfig_of_refused {role : Option Role} {body : Except String Bundle}
    (refused : Refused around tenantID role body tables) (dryRun : Bool) :
    ∃ status error, handleImportConfig around tenantID role body dryRun tables =
      { status, error, tables } ∧ 400 ≤ status := by
  unfold handleImportConfig
  split
  · exact ⟨_, _, rfl, by decide⟩
  · rename_i admin
    have unfit := refused.resolve_left admin
    split
    · exact ⟨_, _, rfl, by decide⟩
    · rename_i bundle
      split
      · exact ⟨_, _, rfl, by decide⟩
      · rename_i version
        split
        · exact ⟨_, _, rfl, by decide⟩
        · rename_i free
          rcases unfit bundle rfl with other | conflict
          · exact absurd other version
          · exact absurd free conflict

theorem handleImportConfig_of_not_refused {role : Option Role} {body : Except String Bundle}
    (accepted : ¬ Refused around tenantID role body tables) :
    ∃ bundle, body = .ok bundle ∧
      handleImportConfig around tenantID role body true tables = { status := 200, tables } ∧
      handleImportConfig around tenantID role body false tables =
        applyBundle around tenantID bundle tables := by
  obtain ⟨admin, fit⟩ := not_or.mp accepted
  push Not at fit
  obtain ⟨bundle, rfl, version, free⟩ := fit
  refine ⟨bundle, rfl, ?_, ?_⟩
  · unfold handleImportConfig
    rw [if_neg admin]
    dsimp only
    rw [if_neg (not_not.mpr version), free]
    rfl
  · unfold handleImportConfig
    rw [if_neg admin]
    dsimp only
    rw [if_neg (not_not.mpr version), free]
    rfl

/-- A connection that fails ends the import; the tables are the same only if it was the first. -/
theorem applyBundle_connections (stops : ∃ entry ∈ bundle.connections.zipIdx,
    connectionError around tenantID entry ≠ none) :
    (applyBundle around tenantID bundle tables).status = 500 ∧
      ((applyBundle around tenantID bundle tables).tables = tables ↔
        FirstFails around tenantID bundle) := by
  obtain ⟨done, entry, rest, error, same, fails, went, stopped⟩ :=
    @importConnections_error around tenantID tables _ stops
  rw [applyBundle, stopped]
  refine ⟨rfl, ?_⟩
  show ({ tables with
    connections := tables.connections ++ done.map (connectionRow around tenantID) } : Tables) =
      tables ↔ _
  constructor
  · intro untouched
    have none : done.map (connectionRow around tenantID) = [] :=
      List.self_eq_append_right.mp (congrArg Tables.connections untouched).symm
    obtain rfl := List.map_eq_nil_iff.mp none
    refine ⟨entry, ?_, fails⟩
    rw [same]
    rfl
  · rintro ⟨first, found, failed⟩
    rw [same] at found
    cases done with
    | nil => rw [List.map_nil, List.append_nil]
    | cons before others =>
      obtain rfl : before = first := Option.some.inj found
      exact absurd (went before List.mem_cons_self) failed

theorem applyBundle_pipelines
    (connections : ∀ entry ∈ bundle.connections.zipIdx, connectionError around tenantID entry = none)
    (stops : ∃ entry ∈ bundle.pipelines.zipIdx, ¬ Goes around tenantID
      (nameToConnID around bundle.connections) (withContent around tenantID bundle tables) entry) :
    ∃ status error after, applyBundle around tenantID bundle tables =
        { status, error, tables := after } ∧
      after.connections = tables.connections ++
        bundle.connections.zipIdx.map (connectionRow around tenantID) ∧
      (status = 400 ∨ status = 500 ∧ ∃ name, nameToConnID around bundle.connections name ≠ "") := by
  obtain ⟨status, error, after, stopped, kept, why⟩ := importPipelines_error stops
  refine ⟨status, error, after, ?_, kept, why⟩
  rw [applyBundle, importConnections_ok connections]
  dsimp only
  rw [show importPipelines around tenantID (nameToConnID around bundle.connections)
    bundle.pipelines.zipIdx (importContent around tenantID bundle _) = _ from stopped]

/-- An import that stops at a pipeline answers 400, or 500 with some rows written. -/
theorem applyBundle_untold (fresh : Fresh around tables)
    (connections : ∀ entry ∈ bundle.connections.zipIdx, connectionError around tenantID entry = none)
    (stops : ∃ entry ∈ bundle.pipelines.zipIdx, ¬ Goes around tenantID
      (nameToConnID around bundle.connections) (withContent around tenantID bundle tables) entry) :
    (applyBundle around tenantID bundle tables).status = 400 ∨
      (applyBundle around tenantID bundle tables).status = 500 ∧
        (applyBundle around tenantID bundle tables).tables ≠ tables := by
  obtain ⟨status, error, after, answered, kept, why⟩ := applyBundle_pipelines connections stops
  rw [answered]
  rcases why with rfl | ⟨rfl, name, found⟩
  · exact Or.inl rfl
  · refine Or.inr ⟨rfl, fun untouched => ?_⟩
    have same : tables.connections ++ bundle.connections.zipIdx.map
        (connectionRow around tenantID) = tables.connections :=
      kept.symm.trans (congrArg Tables.connections untouched)
    obtain ⟨entry, among, -⟩ :=
      nameToConnID_of_named around ((nameToConnID_ne_empty_iff fresh).mp found)
    have none := List.map_eq_nil_iff.mp (List.self_eq_append_right.mp same.symm)
    rw [none] at among
    exact absurd among List.not_mem_nil

/-- An import is all or nothing, and its dry run tells, exactly if it is refused before the first
insert, fails at the first insert, or finds nothing wrong with the bundle. -/
theorem allOrNothing_iff (around : Surround) (tenantID : String) (role : Option Role)
    (body : Except String Bundle) (tables : Tables) (fresh : Fresh around tables) :
    AllOrNothing around tenantID role body tables ↔
      Refused around tenantID role body tables ∨ ∃ bundle, body = .ok bundle ∧
        (FirstFails around tenantID bundle ∨ Complete around tenantID bundle) := by
  by_cases refused : Refused around tenantID role body tables
  · refine iff_of_true ?_ (Or.inl refused)
    obtain ⟨status, error, answered, high⟩ := handleImportConfig_of_refused refused false
    obtain ⟨dryStatus, dryError, dryAnswered, dryHigh⟩ := handleImportConfig_of_refused refused true
    unfold AllOrNothing
    rw [answered, dryAnswered]
    refine ⟨fun _ => rfl, fun stored => ?_, fun fine => ?_⟩
    · exact absurd (stored ▸ high : 400 ≤ 201) (by decide)
    · exact absurd (fine ▸ dryHigh : 400 ≤ 200) (by decide)
  obtain ⟨bundle, rfl, dry, real⟩ := handleImportConfig_of_not_refused refused
  have only : (Refused around tenantID role (.ok bundle) tables ∨
      ∃ other, (Except.ok bundle : Except String Bundle) = .ok other ∧
        (FirstFails around tenantID other ∨ Complete around tenantID other)) ↔
        FirstFails around tenantID bundle ∨ Complete around tenantID bundle := by
    constructor
    · rintro (early | ⟨other, same, late⟩)
      · exact absurd early refused
      · exact Except.ok.inj same ▸ late
    · exact fun late => Or.inr ⟨bundle, rfl, late⟩
  rw [only]
  unfold AllOrNothing
  rw [real, dry]
  dsimp only
  by_cases connections : ∀ entry ∈ bundle.connections.zipIdx, connectionError around tenantID entry = none
  · have notFirst : ¬ FirstFails around tenantID bundle := by
      rintro ⟨entry, first, fails⟩
      exact fails (connections entry (List.mem_of_mem_head? first))
    rw [or_iff_right notFirst]
    by_cases go : ∀ entry ∈ bundle.pipelines.zipIdx, Goes around tenantID
        (nameToConnID around bundle.connections) (withContent around tenantID bundle tables) entry
    · -- the import goes through
      rw [applyBundle_ok fresh connections go]
      constructor
      · rintro ⟨-, stores, -⟩
        obtain ⟨other, same, stored⟩ := stores rfl
        obtain rfl := Except.ok.inj same
        exact complete_of_stored fresh connections go stored
      · intro complete
        have fine : ¬ 400 ≤ 201 := by decide
        refine ⟨fun high => absurd high fine, fun _ => ?_, fun _ high => absurd high.1 fine⟩
        exact ⟨bundle, rfl, stored_of_complete fresh complete⟩
    · -- a pipeline stops it, with the connections inserted
      push Not at go
      refine iff_of_false ?_ ?_
      · rintro ⟨untouched, -, told⟩
        rcases applyBundle_untold fresh connections go with unknown | ⟨stopped, changed⟩
        · rw [unknown] at told
          exact told rfl (by decide)
        · rw [stopped] at untouched
          exact changed (untouched (by decide))
      · intro complete
        obtain ⟨entry, member, stops⟩ := go
        exact stops ((goes_iff fresh entry).mpr
          ⟨complete.pipelines entry member, complete.stages entry member⟩)
  · -- a connection stops it
    push Not at connections
    obtain ⟨status, untouched⟩ := @applyBundle_connections around tenantID tables bundle connections
    have incomplete : ¬ Complete around tenantID bundle := by
      intro complete
      obtain ⟨entry, member, fails⟩ := connections
      exact fails (complete.connections entry member)
    rw [or_iff_left incomplete, status, ← untouched]
    constructor
    · exact fun all => all.1 (by decide)
    · exact fun same => ⟨fun _ => same, fun stored => absurd stored (by decide),
        fun _ high => absurd high.2 (by decide)⟩

/-! ### Samples -/

namespace Drawn

def kind : Drawn → Nat
  | .connection _ => 0
  | .schema _ => 1
  | .script _ => 2
  | .pipeline _ => 3
  | .stage _ _ => 4
  | .transform _ _ => 5
  | .routingRule _ _ => 6

def places : Drawn → Nat × Nat
  | .connection index | .schema index | .script index | .pipeline index => (index, 0)
  | .stage index child | .transform index child | .routingRule index child => (index, child)

/-- Ids that are told apart by the lengths of their three parts. -/
def text (drawn : Drawn) : String :=
  String.ofList (List.replicate drawn.kind 'a' ++ '-' :: (List.replicate drawn.places.1 'a' ++
    '-' :: List.replicate drawn.places.2 'a'))

theorem part_inj {former latter : Nat} {rest others : List Char}
    (same : List.replicate former 'a' ++ '-' :: rest = List.replicate latter 'a' ++ '-' :: others) :
    former = latter ∧ rest = others := by
  induction former generalizing latter with
  | zero =>
    cases latter with
    | zero => exact ⟨rfl, (List.cons.inj same).2⟩
    | succ latter => exact absurd (List.cons.inj same).1 (by decide)
  | succ former hypothesis =>
    cases latter with
    | zero => exact absurd (List.cons.inj same).1 (by decide)
    | succ latter =>
      obtain ⟨first, second⟩ := hypothesis (List.cons.inj same).2
      exact ⟨congrArg Nat.succ first, second⟩

theorem text_injective : Function.Injective text := by
  intro former latter same
  obtain ⟨kinds, rest⟩ := part_inj (String.ofList_injective same)
  obtain ⟨first, second⟩ := part_inj rest
  have last : former.places.2 = latter.places.2 := by
    have lengths := congrArg List.length second
    rwa [List.length_replicate, List.length_replicate] at lengths
  cases former <;> cases latter <;> simp_all [kind, places]

end Drawn

def answering : Surround where
  freshID := Drawn.text

theorem fresh_answering : Fresh answering {} where
  injective := Drawn.text_injective
  nonempty drawn empty := by
    have texts : List.replicate drawn.kind 'a' ++ '-' :: (List.replicate drawn.places.1 'a' ++
        '-' :: List.replicate drawn.places.2 'a') = [] := String.ofList_injective empty
    exact absurd texts (List.append_ne_nil_of_right_ne_nil _ (List.cons_ne_nil _ _))
  identified _ member := absurd member List.not_mem_nil
  schemas _ member := absurd member List.not_mem_nil
  scripts _ member := absurd member List.not_mem_nil
  transforms _ member := absurd member List.not_mem_nil
  routingRules _ member := absurd member List.not_mem_nil
  childless _ := ⟨fun _ member => absurd member List.not_mem_nil,
    fun _ member => absurd member List.not_mem_nil, fun _ member => absurd member List.not_mem_nil⟩

/-- A bundle of one connection and one pipeline, from the connection to one of another name, with one
transform. -/
def sampleBundle (destination transform : String) : Bundle where
  version := 1
  connections := [{ name := "orders", type := "kafka" }]
  schemas := [{ name := "order", type := "xsd", content := "order" }]
  scripts := [{ name := "trim", body := "" }]
  pipelines := [
    { name := "p"
      sourceConnectionName := "orders"
      destConnectionName := destination
      outputFormat := "same"
      enabled := true
      stages := [⟨0, "transform", "", true⟩]
      transforms := [{ order := 0, type := transform }]
      routingRules := [⟨1, "a", "eq", "b", "orders", true⟩] }]

/-- A bundle with nothing wrong is stored as a whole. -/
theorem sampleBundle_stored :
    (handleImportConfig answering "t" (some .admin) (.ok (sampleBundle "orders" "mask")) false
        {}).status = 201 ∧
      AllOrNothing answering "t" (some .admin) (.ok (sampleBundle "orders" "mask")) {} := by
  refine ⟨by decide, (allOrNothing_iff answering "t" (some .admin) _ {} fresh_answering).mpr ?_⟩
  refine Or.inr ⟨_, rfl, Or.inr ⟨?_, ?_, ?_, ?_, ?_, ?_, ?_⟩⟩
  · decide
  · decide
  · decide
  · unfold Named
    decide
  · decide
  · decide
  · unfold Named
    decide

/-- The destination of the pipeline is not in the bundle: the dry run answers 200, the import 400,
with the connection inserted. A transform of a kind there is not: the import answers 201 without
it. -/
theorem sampleBundle_half_stored :
    ¬ AllOrNothing answering "t" (some .admin) (.ok (sampleBundle "invoices" "mask")) {} ∧
      ¬ AllOrNothing answering "t" (some .admin) (.ok (sampleBundle "orders" "upper")) {} := by
  constructor
  · rintro ⟨untouched, -, -⟩
    exact absurd (untouched (by decide)) (by decide)
  · rintro ⟨-, stores, -⟩
    obtain ⟨bundle, same, stored⟩ := stores (by decide)
    obtain rfl := Except.ok.inj same
    have none : (handleImportConfig answering "t" (some .admin)
        (.ok (sampleBundle "orders" "upper")) false {}).tables.transforms = [] := by
      decide
    have all := stored.transforms _ (List.mem_cons_self)
    rw [none] at all
    exact absurd (List.eq_nil_of_subset_nil all) (by decide)

end Transfer

end MqConnector
