/-
This file models the `gitops` command, `cmd/mqconnector/gitops.go`, against the server's export and
import: the bundle it merges from the files of a directory, the plan it computes by names, and
the import it posts with `--apply`.

A second run meets the names the first one created. The import refuses these instead of updating
them, and stores schemas and scripts again.
-/

import MqConnector.ConfigRoundTrip

namespace MqConnector

namespace Gitops

open Transfer

/-! ### The client -/

/-- `gitopsBundle`; a document is a map from YAML. -/
structure ClientBundle (Doc : Type) where
  version : Int
  tenantSlug : String := ""
  connections : List Doc := []
  schemas : List Doc := []
  scripts : List Doc := []
  pipelines : List Doc := []

/-- What the client and the server use of the YAML and JSON packages: how a file is read, how a bundle
is sent, how the server reads what was sent, and the text a document has under `name`. -/
structure Libraries (Doc : Type) where
  unmarshal : Bytes → Option (ClientBundle Doc)
  marshal : ClientBundle Doc → Option Bytes
  decode : Bytes → Except String Bundle
  name : Doc → Option String

/-- An entry of the directory; a file that cannot be read has no body. -/
structure DirEntry where
  name : String
  isDir : Bool := false
  body : Option Bytes

/-- What a run can fail with. -/
inductive GitopsError
  | loadBundle
  | fetchExport
  | marshal
  | post
  | refused (status : Nat)
  deriving DecidableEq

section Client

variable {Doc : Type} (libraries : Libraries Doc)

/-- The names of YAML files. -/
def isYAML (name : String) : Bool :=
  ".yaml".toList.isSuffixOf name.toList || ".yml".toList.isSuffixOf name.toList

/-- A file's bundle is added to those before it. -/
def merge (bundle partialBundle : ClientBundle Doc) : ClientBundle Doc where
  version := if partialBundle.version ≠ 0 then partialBundle.version else bundle.version
  tenantSlug := if partialBundle.tenantSlug ≠ "" then partialBundle.tenantSlug else bundle.tenantSlug
  connections := bundle.connections ++ partialBundle.connections
  schemas := bundle.schemas ++ partialBundle.schemas
  scripts := bundle.scripts ++ partialBundle.scripts
  pipelines := bundle.pipelines ++ partialBundle.pipelines

/-- The loop of `loadBundle`. -/
def loadEntries (bundle : ClientBundle Doc) : List DirEntry → Option (ClientBundle Doc)
  | [] => some bundle
  | entry :: rest =>
    if entry.isDir ∨ isYAML entry.name = false then loadEntries bundle rest
    else
      (entry.body.bind libraries.unmarshal).bind fun partialBundle =>
        loadEntries (merge bundle partialBundle) rest

/-- `loadBundle`; a directory that cannot be read has no entries. -/
def loadBundle (entries : Option (List DirEntry)) : Option (ClientBundle Doc) :=
  entries.bind (loadEntries libraries { version := 1 })

/-- The bundle the command is to bring about. -/
def desiredBundle (entries : Option (List DirEntry)) (tenantSlug : String) : Option (ClientBundle Doc) :=
  (loadBundle libraries entries).map fun bundle =>
    { bundle with
      tenantSlug := if tenantSlug ≠ "" then tenantSlug else bundle.tenantSlug
      version := if bundle.version = 0 then 1 else bundle.version }

end Client

/-! ### The plan -/

/-- The kinds of resources a plan speaks of. -/
inductive Kind
  | connections | schemas | scripts | pipelines
  deriving DecidableEq

/-- The names to create, to update and to delete, for each kind. -/
structure DiffPlan where
  toCreate : Kind → List String
  toUpdate : Kind → List String
  toDelete : Kind → List String

/-- `nameSet`: the names of documents that have one. -/
def nameSet (names : List (Option String)) : List String :=
  (names.filterMap id).filter fun name => name ≠ ""

section Plan

variable {Doc : Type} (libraries : Libraries Doc)

/-- The names in the files. -/
def desiredNames (desired : ClientBundle Doc) : Kind → List String
  | .connections => nameSet (desired.connections.map libraries.name)
  | .schemas => nameSet (desired.schemas.map libraries.name)
  | .scripts => nameSet (desired.scripts.map libraries.name)
  | .pipelines => nameSet (desired.pipelines.map libraries.name)

/-- The names on the server. -/
def currentNames (current : Bundle) : Kind → List String
  | .connections => nameSet (current.connections.map fun doc => some doc.name)
  | .schemas => nameSet (current.schemas.map fun doc => some doc.name)
  | .scripts => nameSet (current.scripts.map fun doc => some doc.name)
  | .pipelines => nameSet (current.pipelines.map fun doc => some doc.name)

/-- The plan: names of the files that the server has not, has, and names of the server that the files
have not. -/
def diffBundles (current : Bundle) (desired : ClientBundle Doc) : DiffPlan where
  toCreate kind := (desiredNames libraries desired kind).filter fun name => name ∉ currentNames current kind
  toUpdate kind := (desiredNames libraries desired kind).filter fun name => name ∈ currentNames current kind
  toDelete kind := (currentNames current kind).filter fun name => name ∉ desiredNames libraries desired kind

/-- There is nothing to create, to update or to delete. -/
def DiffPlan.isEmpty (plan : DiffPlan) : Bool :=
  [Kind.connections, .schemas, .scripts, .pipelines].all fun kind =>
    (plan.toCreate kind).isEmpty && (plan.toUpdate kind).isEmpty && (plan.toDelete kind).isEmpty

/-! ### The command -/

/-- What becomes of a request: it is answered, its answer is lost, or it does not arrive. -/
inductive Delivery
  | answered
  | answerLost
  | lost
  deriving DecidableEq

/-- What a run meets: what becomes of its two requests, the reads of the export that fail, and what
surrounds the import. -/
structure Exchange where
  exportDelivery : Delivery := .answered
  exportFails : ExportRead → Option String := fun _ => none
  importDelivery : Delivery := .answered
  around : Surround

/-- The tenant the token belongs to, and the role it has there. -/
structure Caller where
  tenantID : String
  slug : String
  role : Option Role

variable (caller : Caller) (exchange : Exchange) (tables : Tables)

/-- The export as the client receives it. -/
def fetchExport : Option Bundle :=
  if exchange.exportDelivery = .answered then
    match buildBundle tables caller.tenantID caller.slug exchange.exportFails with
    | .error _ => none
    | .ok bundle => some bundle
  else none

/-- `applyBundle` of the client. -/
def postBundle (desired : ClientBundle Doc) : Except GitopsError Unit × Tables :=
  match libraries.marshal desired with
  | none => (.error .marshal, tables)
  | some body =>
    let answer := handleImportConfig exchange.around caller.tenantID caller.role (libraries.decode body) false tables
    match exchange.importDelivery with
    | .lost => (.error .post, tables)
    | .answerLost => (.error .post, answer.tables)
    | .answered =>
      if 400 ≤ answer.status then (.error (.refused answer.status), answer.tables) else (.ok (), answer.tables)

/-- `gitops --apply`. -/
def gitops (entries : Option (List DirEntry)) (tenantSlug : String) : Except GitopsError Unit × Tables :=
  match desiredBundle libraries entries tenantSlug with
  | none => (.error .loadBundle, tables)
  | some desired =>
    match fetchExport caller exchange tables with
    | none => (.error .fetchExport, tables)
    | some current =>
      if (diffBundles libraries current desired).isEmpty then (.ok (), tables)
      else postBundle libraries caller exchange tables desired

end Plan

/-! ### What a run leaves -/

/-- The rows of one tenant. -/
def ownRows (tables : Tables) (tenantID : String) : Tables where
  connections := tables.connections.filter fun row => row.tenantID = tenantID
  schemas := tables.schemas.filter fun row => row.tenantID = tenantID
  scripts := tables.scripts.filter fun row => row.tenantID = tenantID
  pipelines := tables.pipelines.filter fun row => row.tenantID = tenantID
  stages := tables.stages.filter fun row => row.tenantID = tenantID
  transforms := tables.transforms.filter fun row => row.tenantID = tenantID
  routingRules := tables.routingRules.filter fun row => row.tenantID = tenantID

/-- The server answers, and its database too. -/
structure Exchange.Calm (exchange : Exchange) : Prop where
  exported : exchange.exportDelivery = .answered
  reads : ∀ read, exchange.exportFails read = none
  imported : exchange.importDelivery = .answered
  connections : exchange.around.connectionsUnlisted = false
  pipelines : exchange.around.pipelinesUnlisted = false
  answers : ∀ statement, exchange.around.fails statement = none

/-- An import of the bundle stores nothing: it has no connections, no scripts and no schema of a type
there is. -/
def NothingNew (tenantID : String) (bundle : Bundle) : Prop :=
  bundle.connections = [] ∧
    (tenantID = "" ∨ (bundle.scripts = [] ∧ ∀ doc ∈ bundle.schemas, doc.type ∉ schemaTypes))

/-- The command has nothing to do: the plan is empty, or the import would store nothing. -/
def Settled {Doc : Type} (libraries : Libraries Doc) (caller : Caller) (tables : Tables)
    (entries : Option (List DirEntry)) (tenantSlug : String) : Prop :=
  ∃ desired, desiredBundle libraries entries tenantSlug = some desired ∧
    ((diffBundles libraries (exported tables caller.tenantID caller.slug) desired).isEmpty = true ∨
      ∃ body bundle, libraries.marshal desired = some body ∧ libraries.decode body = .ok bundle ∧
        NothingNew caller.tenantID bundle)

/-- Nothing that has a name is lost. -/
structure Grows (tables after : Tables) : Prop where
  connections : tables.connections ⊆ after.connections
  schemas : tables.schemas ⊆ after.schemas
  scripts : tables.scripts ⊆ after.scripts
  pipelines : tables.pipelines ⊆ after.pipelines

section Imports

variable {around : Surround} {tenantID : String} {names : String → String} {tables after : Tables}
  {bundle : Bundle}

theorem importRules_grows (entry : PipelineDoc × Nat) :
    (importRules around tenantID names entry tables).pipelines = tables.pipelines ∧
      (importRules around tenantID names entry tables).schemas = tables.schemas ∧
      (importRules around tenantID names entry tables).scripts = tables.scripts := by
  unfold importRules replaceTransforms replaceRoutingRules
  dsimp only
  split
  · split
    · exact ⟨rfl, rfl, rfl⟩
    · exact ⟨rfl, rfl, rfl⟩
  · split
    · exact ⟨rfl, rfl, rfl⟩
    · exact ⟨rfl, rfl, rfl⟩

theorem importPipelines_grows {entries : List (PipelineDoc × Nat)}
    (done : importPipelines around tenantID names entries tables = .ok after) :
    after.connections = tables.connections ∧ after.schemas = tables.schemas ∧
      after.scripts = tables.scripts ∧ tables.pipelines ⊆ after.pipelines := by
  induction entries generalizing tables with
  | nil =>
    rw [importPipelines, Except.ok.injEq] at done
    rw [done]
    exact ⟨rfl, rfl, rfl, List.Subset.refl _⟩
  | cons entry rest hypothesis =>
    rw [importPipelines] at done
    split at done
    · cases done
    · split at done
      · cases done
      · dsimp only at done
        split at done
        · cases done
        · obtain ⟨connections, schemas, scripts, pipelines⟩ := hypothesis done
          have kept := @importRules_grows around tenantID names
            (replaceStages tenantID { tables with
              pipelines := tables.pipelines ++ [pipelineRow around tenantID names entry] }
              (around.freshID (.pipeline entry.2)) (stageRows around tenantID entry)) entry
          rw [importRules_connections] at connections
          rw [kept.2.1] at schemas
          rw [kept.2.2] at scripts
          rw [kept.1] at pipelines
          exact ⟨connections, schemas, scripts, fun row member => pipelines (List.mem_append_left _ member)⟩

theorem connections_of_imported {entries : List (ConnectionDoc × Nat)}
    (done : importConnections around tenantID entries tables = .ok after) :
    after = { tables with
      connections := tables.connections ++ entries.map (connectionRow around tenantID) } := by
  have go : ∀ entry ∈ entries, connectionError around tenantID entry = none := by
    by_contra stops
    push Not at stops
    obtain ⟨_, _, _, _, -, -, -, failed⟩ := @importConnections_error around tenantID tables entries stops
    rw [failed] at done
    cases done
  rw [importConnections_ok go] at done
  exact (Except.ok.inj done).symm

theorem importPipelines_unconnected (unconnected : bundle.connections = [])
    (done : importPipelines around tenantID (nameToConnID around bundle.connections) bundle.pipelines.zipIdx tables =
      .ok after) : bundle.pipelines = [] ∧ after = tables := by
  rcases pipelines : bundle.pipelines with _ | ⟨doc, rest⟩
  · rw [pipelines] at done
    exact ⟨rfl, (Except.ok.inj done).symm⟩
  · have unknown : ¬ Named bundle doc.sourceConnectionName := by
      rintro ⟨other, member, -⟩
      rw [unconnected] at member
      exact absurd member List.not_mem_nil
    rw [pipelines, List.zipIdx_cons, importPipelines,
      if_pos (Or.inl (nameToConnID_eq_empty unknown))] at done
    cases done

/-- What an import that succeeds has done. -/
structure Imported (around : Surround) (tenantID : String) (bundle : Bundle) (tables after : Tables) : Prop where
  grows : Grows tables after
  named : ∀ doc ∈ bundle.connections, ∃ row ∈ after.connections, row.tenantID = tenantID ∧ row.name = doc.name
  unconnected : bundle.connections = [] →
    bundle.pipelines = [] ∧ after = importContent around tenantID bundle tables

theorem status_of_importPipelines {entries : List (PipelineDoc × Nat)} {status : Nat} {error : String}
    (failed : importPipelines around tenantID names entries tables = .error (status, error, after)) :
    400 ≤ status := by
  induction entries generalizing tables with
  | nil => cases failed
  | cons entry rest hypothesis =>
    have told : ∀ {code : Nat} {text : String} {left : Tables}, 400 ≤ code →
        (Except.error (code, text, left) : Except (Nat × String × Tables) Tables) =
          .error (status, error, after) → 400 ≤ status := by
      intro code text left high same
      rw [← (Prod.mk.inj (Except.error.inj same)).1]
      exact high
    rw [importPipelines] at failed
    split at failed
    · exact told (by decide) failed
    · split at failed
      · exact told (by decide) failed
      · dsimp only at failed
        split at failed
        · exact told (by decide) failed
        · exact hypothesis failed

theorem applyBundle_imported (succeeds : ¬ 400 ≤ (applyBundle around tenantID bundle tables).status) :
    Imported around tenantID bundle tables (applyBundle around tenantID bundle tables).tables := by
  unfold applyBundle at succeeds ⊢
  rcases imported : importConnections around tenantID bundle.connections.zipIdx tables with ⟨error, left⟩ | connected
  · rw [imported] at succeeds
    exact absurd (show 400 ≤ 500 by decide) succeeds
  · rw [imported] at succeeds
    obtain rfl := connections_of_imported imported
    dsimp only at succeeds ⊢
    rcases done : importPipelines around tenantID (nameToConnID around bundle.connections) bundle.pipelines.zipIdx
        (importContent around tenantID bundle { tables with
          connections := tables.connections ++ bundle.connections.zipIdx.map (connectionRow around tenantID) }) with
      ⟨status, error, left⟩ | after
    · rw [done] at succeeds
      exact absurd (status_of_importPipelines done) succeeds
    · dsimp only
      obtain ⟨connections, schemas, scripts, pipelines⟩ := importPipelines_grows done
      refine ⟨⟨?_, ?_, ?_, pipelines⟩, fun doc member => ?_, fun unconnected => ?_⟩
      · rw [connections]
        exact List.subset_append_left _ _
      · rw [schemas]
        exact List.subset_append_left _ _
      · rw [scripts]
        exact List.subset_append_left _ _
      · obtain ⟨index, there⟩ := List.mem_iff_getElem?.mp member
        refine ⟨connectionRow around tenantID (doc, index), ?_, rfl, rfl⟩
        rw [connections]
        exact List.mem_append_right _ (List.mem_map_of_mem (List.mem_zipIdx_iff_getElem?.mpr there))
      · obtain ⟨none, same⟩ := importPipelines_unconnected unconnected done
        refine ⟨none, same.trans ?_⟩
        rw [unconnected, List.zipIdx_nil, List.map_nil, List.append_nil]

theorem handleImportConfig_imported {role : Option Role} {body : Except String Bundle}
    (succeeds : ¬ 400 ≤ (handleImportConfig around tenantID role body false tables).status) :
    ∃ bundle, body = .ok bundle ∧ ¬ Refused around tenantID role body tables ∧
      Imported around tenantID bundle tables
        (handleImportConfig around tenantID role body false tables).tables := by
  have accepted : ¬ Refused around tenantID role body tables := by
    intro refused
    obtain ⟨status, error, same, high⟩ := handleImportConfig_of_refused refused false
    rw [same] at succeeds
    exact succeeds high
  obtain ⟨bundle, given, -, real⟩ := handleImportConfig_of_not_refused accepted
  rw [real] at succeeds ⊢
  exact ⟨bundle, given, accepted, applyBundle_imported succeeds⟩

theorem applyBundle_unconnected (unconnected : bundle.connections = []) (unpiped : bundle.pipelines = []) :
    applyBundle around tenantID bundle tables =
      { status := 201, tables := importContent around tenantID bundle tables } := by
  unfold applyBundle
  rw [unconnected, unpiped]
  rfl

theorem filter_append_eq_self_iff {Doc Row : Type} {old : List Row} {entries : List Doc} {kept : Doc → Bool}
    (row : Doc → Row) (mine : Row → Bool) (own : ∀ entry, mine (row entry) = true) :
    (old ++ (entries.filter kept).map row).filter mine = old.filter mine ↔
      ∀ entry ∈ entries, kept entry = false := by
  have all : ((entries.filter kept).map row).filter mine = (entries.filter kept).map row := by
    refine List.filter_eq_self.mpr fun new member => ?_
    obtain ⟨entry, -, rfl⟩ := List.mem_map.mp member
    exact own entry
  rw [List.filter_append, all, List.append_right_eq_self, List.map_eq_nil_iff, List.filter_eq_nil_iff]
  simp

theorem forall_zipIdx_or {Doc : Type} (docs : List Doc) (property : Doc → Prop) {other : Prop} :
    (∀ entry ∈ docs.zipIdx, other ∨ property entry.1) ↔ other ∨ ∀ doc ∈ docs, property doc := by
  constructor
  · intro all
    by_cases holds : other
    · exact Or.inl holds
    · refine Or.inr fun doc member => ?_
      obtain ⟨index, there⟩ := List.mem_iff_getElem?.mp member
      exact (all (doc, index) (List.mem_zipIdx_iff_getElem?.mpr there)).resolve_left holds
  · rintro (holds | all) entry member
    · exact Or.inl holds
    · exact Or.inr (all entry.1 (List.fst_mem_of_mem_zipIdx member))

theorem ownRows_importContent_iff (answers : ∀ statement, around.fails statement = none) :
    ownRows (importContent around tenantID bundle tables) tenantID = ownRows tables tenantID ↔
      tenantID = "" ∨ (bundle.scripts = [] ∧ ∀ doc ∈ bundle.schemas, doc.type ∉ schemaTypes) := by
  have schemas : (importContent around tenantID bundle tables).schemas.filter (fun row => row.tenantID = tenantID) =
      tables.schemas.filter (fun row => row.tenantID = tenantID) ↔
        tenantID = "" ∨ ∀ doc ∈ bundle.schemas, doc.type ∉ schemaTypes := by
    refine (filter_append_eq_self_iff (schemaRow around tenantID) (fun row => row.tenantID = tenantID)
      fun entry => decide_eq_true rfl).trans ?_
    have refused : ∀ entry : SchemaDoc × Nat, (schemaError around tenantID entry).isNone = false ↔
        tenantID = "" ∨ entry.1.type ∉ schemaTypes := by
      intro entry
      rw [Bool.eq_false_iff, Ne, Option.isNone_iff_eq_none, schemaError, callError_eq_none_iff, answers,
        List.contains_iff_mem]
      tauto
    simp only [refused]
    exact forall_zipIdx_or bundle.schemas fun doc => doc.type ∉ schemaTypes
  have scripts : (importContent around tenantID bundle tables).scripts.filter (fun row => row.tenantID = tenantID) =
      tables.scripts.filter (fun row => row.tenantID = tenantID) ↔ tenantID = "" ∨ bundle.scripts = [] := by
    refine (filter_append_eq_self_iff (scriptRow around tenantID) (fun row => row.tenantID = tenantID)
      fun entry => decide_eq_true rfl).trans ?_
    have refused : ∀ entry : ScriptDoc × Nat, (scriptError around tenantID entry).isNone = false ↔
        tenantID = "" ∨ False := by
      intro entry
      rw [Bool.eq_false_iff, Ne, Option.isNone_iff_eq_none, scriptError, callError_eq_none_iff, answers]
      tauto
    simp only [refused]
    refine (forall_zipIdx_or bundle.scripts fun _ => False).trans (or_congr Iff.rfl ?_)
    exact List.eq_nil_iff_forall_not_mem.symm
  have same : ownRows (importContent around tenantID bundle tables) tenantID = ownRows tables tenantID ↔
      (importContent around tenantID bundle tables).schemas.filter (fun row => row.tenantID = tenantID) =
        tables.schemas.filter (fun row => row.tenantID = tenantID) ∧
      (importContent around tenantID bundle tables).scripts.filter (fun row => row.tenantID = tenantID) =
        tables.scripts.filter (fun row => row.tenantID = tenantID) := by
    unfold ownRows
    rw [Tables.mk.injEq]
    exact ⟨fun all => ⟨all.2.1, all.2.2.1⟩, fun both => ⟨rfl, both.1, both.2, rfl, rfl, rfl, rfl⟩⟩
  rw [same, schemas, scripts]
  tauto

theorem importConflict_of_imported (listed : around.connectionsUnlisted = false) {doc : ConnectionDoc}
    (member : doc ∈ bundle.connections)
    (taken : ∃ row ∈ tables.connections, row.tenantID = tenantID ∧ row.name = doc.name) :
    importConflict around tenantID bundle tables ≠ none := by
  unfold importConflict
  rw [listed, if_neg Bool.false_ne_true]
  dsimp only
  rcases found : bundle.connections.find? fun doc =>
      (tables.listConnections tenantID).any fun row => row.name = doc.name with _ | other
  · obtain ⟨row, among, own, named⟩ := taken
    have free := List.find?_eq_none.mp found doc member
    exact absurd (List.any_eq_true.mpr ⟨row, mem_listConnections.mpr ⟨among, own⟩, decide_eq_true named⟩) free
  · rw [found]
    exact Option.some_ne_none _

end Imports

/-! ### A second run -/

section Again

variable {Doc : Type} {libraries : Libraries Doc} {caller : Caller} {exchange : Exchange} {tables after : Tables}
  {desired : ClientBundle Doc} {entries : Option (List DirEntry)} {tenantSlug : String}

theorem isEmpty_iff {current : Bundle} : (diffBundles libraries current desired).isEmpty = true ↔
    ∀ kind, desiredNames libraries desired kind = [] ∧ currentNames current kind = [] := by
  have parts : ∀ kind, ((((diffBundles libraries current desired).toCreate kind).isEmpty &&
      ((diffBundles libraries current desired).toUpdate kind).isEmpty &&
      ((diffBundles libraries current desired).toDelete kind).isEmpty) = true ↔
        desiredNames libraries desired kind = [] ∧ currentNames current kind = []) := by
    intro kind
    simp only [diffBundles, Bool.and_eq_true, List.isEmpty_iff, List.eq_nil_iff_forall_not_mem, List.mem_filter,
      decide_eq_true_eq, not_and]
    constructor
    · rintro ⟨⟨creates, updates⟩, deletes⟩
      have none : ∀ name, name ∉ desiredNames libraries desired kind := fun name member =>
        creates name member (updates name member)
      exact ⟨none, fun name member => deletes name member (none name)⟩
    · rintro ⟨desired, current⟩
      exact ⟨⟨fun name member => absurd member (desired name), fun name member => absurd member (desired name)⟩,
        fun name member => absurd member (current name)⟩
  unfold DiffPlan.isEmpty
  rw [List.all_eq_true]
  constructor
  · intro all kind
    refine (parts kind).mp (all kind ?_)
    cases kind <;> decide
  · exact fun all kind _ => (parts kind).mpr (all kind)

theorem nameSet_map_eq_nil {Row : Type} {rows : List Row} {name : Row → String} :
    nameSet (rows.map fun row => some (name row)) = [] ↔ ∀ row ∈ rows, name row = "" := by
  simp [nameSet, List.filter_eq_nil_iff]

theorem currentNames_grows (grows : Grows tables after) (tenantID slug : String) (kind : Kind)
    (none : currentNames (exported after tenantID slug) kind = []) :
    currentNames (exported tables tenantID slug) kind = [] := by
  cases kind with
  | connections =>
    simp only [currentNames, exported, List.map_map, Function.comp_def, nameSet_map_eq_nil] at none ⊢
    intro row member
    obtain ⟨among, own⟩ := mem_listConnections.mp member
    exact none row (mem_listConnections.mpr ⟨grows.connections among, own⟩)
  | schemas =>
    simp only [currentNames, exported, List.map_map, Function.comp_def, nameSet_map_eq_nil] at none ⊢
    intro row member
    obtain ⟨among, own⟩ := mem_listSchemas.mp member
    exact none row (mem_listSchemas.mpr ⟨grows.schemas among, own⟩)
  | scripts =>
    simp only [currentNames, exported, List.map_map, Function.comp_def, nameSet_map_eq_nil] at none ⊢
    intro row member
    obtain ⟨among, own⟩ := mem_listScripts.mp member
    exact none row (mem_listScripts.mpr ⟨grows.scripts among, own⟩)
  | pipelines =>
    simp only [currentNames, exported, List.map_map, Function.comp_def, nameSet_map_eq_nil] at none ⊢
    intro row member
    obtain ⟨among, own⟩ := mem_listPipelines.mp member
    exact none row (mem_listPipelines.mpr ⟨grows.pipelines among, own⟩)

/-- A plan that is empty after an import was empty before it. -/
theorem isEmpty_of_grows (grows : Grows tables after) (tenantID slug : String)
    (empty : (diffBundles libraries (exported after tenantID slug) desired).isEmpty = true) :
    (diffBundles libraries (exported tables tenantID slug) desired).isEmpty = true := by
  rw [isEmpty_iff] at empty ⊢
  exact fun kind => ⟨(empty kind).1, currentNames_grows grows tenantID slug kind (empty kind).2⟩

theorem gitops_of_answered (desires : desiredBundle libraries entries tenantSlug = some desired)
    (answered : exchange.exportDelivery = .answered) (reads : ∀ read, exchange.exportFails read = none) :
    gitops libraries caller exchange tables entries tenantSlug =
      if (diffBundles libraries (exported tables caller.tenantID caller.slug) desired).isEmpty then (.ok (), tables)
      else postBundle libraries caller exchange tables desired := by
  have fetched : fetchExport caller exchange tables = some (exported tables caller.tenantID caller.slug) := by
    unfold fetchExport
    rw [if_pos answered, show exchange.exportFails = fun _ => none from funext reads, buildBundle_eq]
  unfold gitops
  rw [desires]
  dsimp only
  rw [fetched]

theorem gitops_succeeds (succeeds : (gitops libraries caller exchange tables entries tenantSlug).1 = .ok ()) :
    exchange.exportDelivery = .answered ∧ ∃ desired, desiredBundle libraries entries tenantSlug = some desired := by
  unfold gitops at succeeds
  split at succeeds
  · cases succeeds
  · rename_i desired desires
    refine ⟨?_, desired, desires⟩
    by_contra lost
    unfold fetchExport at succeeds
    rw [if_neg lost] at succeeds
    cases succeeds

theorem postBundle_succeeds (succeeds : (postBundle libraries caller exchange tables desired).1 = .ok ()) :
    ∃ body, libraries.marshal desired = some body ∧
      ¬ 400 ≤ (handleImportConfig exchange.around caller.tenantID caller.role (libraries.decode body) false
        tables).status ∧
      (postBundle libraries caller exchange tables desired).2 =
        (handleImportConfig exchange.around caller.tenantID caller.role (libraries.decode body) false
          tables).tables := by
  unfold postBundle at succeeds ⊢
  rcases sent : libraries.marshal desired with _ | body
  · rw [sent] at succeeds
    cases succeeds
  · rw [sent] at succeeds
    refine ⟨body, rfl, ?_⟩
    dsimp only at succeeds ⊢
    rcases delivery : exchange.importDelivery with _ | _ | _
    · rw [delivery] at succeeds
      dsimp only at succeeds ⊢
      by_cases refused : 400 ≤ (handleImportConfig exchange.around caller.tenantID caller.role
          (libraries.decode body) false tables).status
      · rw [if_pos refused] at succeeds
        cases succeeds
      · exact ⟨refused, by rw [if_neg refused]⟩
    · rw [delivery] at succeeds
      cases succeeds
    · rw [delivery] at succeeds
      cases succeeds

theorem postBundle_of_calm (calm : exchange.Calm) {body : Bytes}
    (sent : libraries.marshal desired = some body) :
    postBundle libraries caller exchange tables desired =
      if 400 ≤ (handleImportConfig exchange.around caller.tenantID caller.role (libraries.decode body) false
        tables).status then
        (.error (.refused (handleImportConfig exchange.around caller.tenantID caller.role (libraries.decode body)
          false tables).status), (handleImportConfig exchange.around caller.tenantID caller.role
            (libraries.decode body) false tables).tables)
      else
        (.ok (), (handleImportConfig exchange.around caller.tenantID caller.role (libraries.decode body) false
          tables).tables) := by
  unfold postBundle
  rw [sent, calm.imported]

/-- A second import succeeds and leaves the rows of the tenant exactly if the bundle holds nothing new.
-/
theorem handleImportConfig_again {first : Surround} {tenantID : String} {role : Option Role} {bundle : Bundle}
    (accepted : ¬ Refused first tenantID role (.ok bundle) tables)
    (imported : Imported first tenantID bundle tables after) (calm : exchange.Calm) :
    (¬ 400 ≤ (handleImportConfig exchange.around tenantID role (.ok bundle) false after).status ∧
      ownRows (handleImportConfig exchange.around tenantID role (.ok bundle) false after).tables tenantID =
        ownRows after tenantID) ↔ NothingNew tenantID bundle := by
  by_cases unconnected : bundle.connections = []
  · have unpiped := (imported.unconnected unconnected).1
    have again : ¬ Refused exchange.around tenantID role (.ok bundle) after := by
      obtain ⟨admin, fit⟩ := not_or.mp accepted
      rintro (early | late)
      · exact admin early
      · refine fit fun other same => Or.inl ?_
        rcases late other same with version | conflict
        · exact version
        · obtain rfl := Except.ok.inj same
          refine absurd ?_ conflict
          unfold importConflict
          rw [unconnected, unpiped]
          rfl
    obtain ⟨other, same, -, real⟩ := handleImportConfig_of_not_refused again
    obtain rfl := Except.ok.inj same
    rw [real, applyBundle_unconnected unconnected unpiped]
    dsimp only
    rw [ownRows_importContent_iff calm.answers]
    exact ⟨fun holds => ⟨unconnected, holds.2⟩, fun nothing => ⟨by decide, nothing.2⟩⟩
  · obtain ⟨doc, member⟩ := List.exists_mem_of_ne_nil _ unconnected
    have conflict := importConflict_of_imported calm.connections member (imported.named doc member)
    have refused : Refused exchange.around tenantID role (.ok bundle) after :=
      Or.inr fun other same => Or.inr (Except.ok.inj same ▸ conflict)
    obtain ⟨status, error, same, high⟩ := handleImportConfig_of_refused refused false
    rw [same]
    exact iff_of_false (fun holds => holds.1 high) fun nothing => unconnected nothing.1

/-- A run is settled exactly if the bundle holds nothing new. -/
theorem settled_iff {body : Bytes} {bundle : Bundle}
    (desires : desiredBundle libraries entries tenantSlug = some desired)
    (planned : ¬ (diffBundles libraries (exported tables caller.tenantID caller.slug) desired).isEmpty = true)
    (sent : libraries.marshal desired = some body) (decoded : libraries.decode body = .ok bundle) :
    Settled libraries caller tables entries tenantSlug ↔ NothingNew caller.tenantID bundle := by
  constructor
  · rintro ⟨other, desiresToo, empty | ⟨text, content, sentToo, decodedToo, nothing⟩⟩
    · obtain rfl := Option.some.inj (desires.symm.trans desiresToo)
      exact absurd empty planned
    · obtain rfl := Option.some.inj (desires.symm.trans desiresToo)
      obtain rfl := Option.some.inj (sent.symm.trans sentToo)
      obtain rfl := Except.ok.inj (decoded.symm.trans decodedToo)
      exact nothing
  · exact fun nothing => ⟨desired, desires, Or.inr ⟨body, bundle, sent, decoded, nothing⟩⟩

/-- After a run that succeeded, a second one succeeds and changes no row of the tenant if and only if
there was nothing to do. -/
theorem gitops_again_iff (libraries : Libraries Doc) (caller : Caller) (first second : Exchange)
    (tables : Tables)
    (entries : Option (List DirEntry)) (tenantSlug : String) (reads : ∀ read, first.exportFails read = none)
    (calm : second.Calm) (succeeds : (gitops libraries caller first tables entries tenantSlug).1 = .ok ()) :
    let after := (gitops libraries caller first tables entries tenantSlug).2
    ((gitops libraries caller second after entries tenantSlug).1 = .ok () ∧
      ownRows (gitops libraries caller second after entries tenantSlug).2 caller.tenantID =
        ownRows after caller.tenantID) ↔
      Settled libraries caller tables entries tenantSlug := by
  intro after
  obtain ⟨answered, desired, desires⟩ := gitops_succeeds succeeds
  have run := @gitops_of_answered Doc libraries caller first tables desired entries tenantSlug desires answered reads
  have again := @gitops_of_answered Doc libraries caller second after desired entries tenantSlug desires
    calm.exported calm.reads
  by_cases empty : (diffBundles libraries (exported tables caller.tenantID caller.slug) desired).isEmpty = true
  · rw [if_pos empty] at run
    have same : after = tables := congrArg Prod.snd run
    rw [same, if_pos empty] at again
    rw [same, again]
    exact iff_of_true ⟨rfl, rfl⟩ ⟨desired, desires, Or.inl empty⟩
  · rw [if_neg empty] at run
    rw [run] at succeeds
    obtain ⟨body, sent, accepted, left⟩ := postBundle_succeeds succeeds
    obtain ⟨bundle, decoded, fit, imported⟩ := handleImportConfig_imported accepted
    rw [← left, ← run] at imported
    rw [decoded] at fit
    rw [if_neg fun later => empty (isEmpty_of_grows imported.grows caller.tenantID caller.slug later),
      postBundle_of_calm calm sent, decoded] at again
    rw [again, settled_iff desires empty sent decoded, ← handleImportConfig_again fit imported calm]
    split
    · rename_i refused
      exact iff_of_false (fun holds => by cases holds.1) fun holds => holds.1 refused
    · rename_i taken
      exact and_congr (iff_of_true rfl taken) Iff.rfl

end Again

/-! ### Samples -/

section Samples

/-- The bytes of a text of plain characters. -/
def asciiBytes (text : String) : Bytes :=
  text.toList.map fun char => UInt8.ofNat char.toNat

/-- A file with one connection, and one with a schema of a type there is not. -/
def connectionFile : Bytes :=
  asciiBytes "connections: [\x7bname: orders, type: kafka\x7d]"

def schemaFile : Bytes :=
  asciiBytes "schemas: [\x7bname: order, type: avro\x7d]"

/-- What is sent for them. -/
def connectionBody : Bytes :=
  asciiBytes "\x7b\"version\":1,\"tenant_slug\":\"\",\"connections\":[\x7b\"name\":\"orders\",\"type\":\"kafka\"\x7d]\x7d"

def schemaBody : Bytes :=
  asciiBytes "\x7b\"version\":1,\"tenant_slug\":\"\",\"schemas\":[\x7b\"name\":\"order\",\"type\":\"avro\"\x7d]\x7d"

theorem asciiBytes_ofList (chars : List Char) :
    asciiBytes (String.ofList chars) = chars.map fun char => UInt8.ofNat char.toNat := by
  rw [asciiBytes, String.toList_ofList]

theorem connectionFile_eq : connectionFile = (
    ['c', 'o', 'n', 'n', 'e', 'c', 't', 'i', 'o', 'n', 's', ':', ' ', '[', '\x7b', 'n', 'a', 'm', 'e', ':', ' ', 'o',
     'r', 'd', 'e', 'r', 's', ',', ' ', 't', 'y', 'p', 'e', ':', ' ', 'k', 'a', 'f', 'k', 'a', '\x7d', ']']).map fun char => UInt8.ofNat char.toNat :=
  asciiBytes_ofList _

theorem schemaFile_eq : schemaFile = (
    ['s', 'c', 'h', 'e', 'm', 'a', 's', ':', ' ', '[', '\x7b', 'n', 'a', 'm', 'e', ':', ' ', 'o', 'r', 'd', 'e', 'r',
     ',', ' ', 't', 'y', 'p', 'e', ':', ' ', 'a', 'v', 'r', 'o', '\x7d', ']']).map fun char => UInt8.ofNat char.toNat :=
  asciiBytes_ofList _

theorem connectionBody_eq : connectionBody = (
    ['\x7b', '"', 'v', 'e', 'r', 's', 'i', 'o', 'n', '"', ':', '1', ',', '"', 't', 'e', 'n', 'a', 'n', 't', '_', 's',
     'l', 'u', 'g', '"', ':', '"', '"', ',', '"', 'c', 'o', 'n', 'n', 'e', 'c', 't', 'i', 'o', 'n', 's', '"', ':',
     '[', '\x7b', '"', 'n', 'a', 'm', 'e', '"', ':', '"', 'o', 'r', 'd', 'e', 'r', 's', '"', ',', '"', 't', 'y', 'p',
     'e', '"', ':', '"', 'k', 'a', 'f', 'k', 'a', '"', '\x7d', ']', '\x7d']).map fun char => UInt8.ofNat char.toNat :=
  asciiBytes_ofList _

theorem schemaBody_eq : schemaBody = (
    ['\x7b', '"', 'v', 'e', 'r', 's', 'i', 'o', 'n', '"', ':', '1', ',', '"', 't', 'e', 'n', 'a', 'n', 't', '_', 's',
     'l', 'u', 'g', '"', ':', '"', '"', ',', '"', 's', 'c', 'h', 'e', 'm', 'a', 's', '"', ':', '[', '\x7b', '"', 'n',
     'a', 'm', 'e', '"', ':', '"', 'o', 'r', 'd', 'e', 'r', '"', ',', '"', 't', 'y', 'p', 'e', '"', ':', '"', 'a',
     'v', 'r', 'o', '"', '\x7d', ']', '\x7d']).map fun char => UInt8.ofNat char.toNat :=
  asciiBytes_ofList _

/-- The packages on these texts; a document is a list of its keys and values. -/
def sampleLibraries : Libraries (List (String × String)) where
  unmarshal body :=
    if body = connectionFile then some { version := 0, connections := [[("name", "orders"), ("type", "kafka")]] }
    else if body = schemaFile then some { version := 0, schemas := [[("name", "order"), ("type", "avro")]] }
    else none
  marshal bundle :=
    if bundle.connections = [[("name", "orders"), ("type", "kafka")]] then some connectionBody
    else if bundle.schemas = [[("name", "order"), ("type", "avro")]] then some schemaBody
    else none
  decode body :=
    if body = connectionBody then .ok { version := 1, connections := [{ name := "orders", type := "kafka" }] }
    else if body = schemaBody then .ok { version := 1, schemas := [⟨"order", "avro", ""⟩] }
    else .error "could not parse body as YAML or JSON"
  name doc := doc.lookup "name"

def sampleCaller : Caller where
  tenantID := "t"
  slug := "t"
  role := some .admin

def sampleExchange : Exchange where
  around := answering

theorem calm_sampleExchange : sampleExchange.Calm :=
  ⟨rfl, fun _ => rfl, rfl, rfl, rfl, fun _ => rfl⟩

/-- The run on one file, from these tables. -/
def sampleRun (file : Bytes) (tables : Tables) : Except GitopsError Unit × Tables :=
  gitops sampleLibraries sampleCaller sampleExchange tables (some [{ name := "a.yaml", body := some file }]) ""

/-- A connection is created by the first run, and refused by the second. -/
theorem second_apply_refused :
    (sampleRun connectionFile {}).1 = .ok () ∧
      (sampleRun connectionFile (sampleRun connectionFile {}).2).1 = .error (.refused 409) := by
  simp only [sampleRun, sampleLibraries, connectionFile_eq, connectionBody_eq]
  decide

/-- A schema that cannot be stored is not stored by either run. -/
theorem gitops_again_schema :
    (sampleRun schemaFile {}).1 = .ok () ∧
      (sampleRun schemaFile (sampleRun schemaFile {}).2).1 = .ok () ∧
      ownRows (sampleRun schemaFile (sampleRun schemaFile {}).2).2 "t" = ownRows (sampleRun schemaFile {}).2 "t" := by
  have succeeds : (sampleRun schemaFile {}).1 = .ok () := by
    simp only [sampleRun, sampleLibraries, connectionFile_eq, schemaFile_eq, connectionBody_eq, schemaBody_eq]
    decide
  refine ⟨succeeds, (gitops_again_iff sampleLibraries sampleCaller sampleExchange sampleExchange {} _ ""
    (fun _ => rfl) calm_sampleExchange succeeds).mpr ?_⟩
  refine ⟨{ version := 1, schemas := [[("name", "order"), ("type", "avro")]] }, ?_, Or.inr
    ⟨schemaBody, { version := 1, schemas := [⟨"order", "avro", ""⟩] }, ?_, ?_, rfl, Or.inr ⟨rfl, by decide⟩⟩⟩
  · simp only [sampleLibraries, connectionFile_eq, schemaFile_eq]
    rfl
  · simp only [sampleLibraries, connectionFile_eq, schemaFile_eq]
    decide
  · have differs : schemaBody ≠ connectionBody := by
      rw [schemaBody_eq, connectionBody_eq]
      decide
    simp [sampleLibraries, differs]

end Samples

end Gitops

end MqConnector
