/-
This file models `TenantRepo.Purge` over the whole schema the migrations leave behind: every
table, the foreign keys between them with their actions, and the `DELETE` statements of the
purge inside their transaction.

A row belongs to a tenant by its `tenant_id`, or by the pipeline it refers to. The purge should
erase the tenant's rows and leave those of the others alone. It forgets `plugins`, and the
foreign keys carry it into rows of other tenants that refer to rows of this one.
-/

import MqConnector.ForeignKeys
import MqConnector.Models

namespace MqConnector

namespace Purge

open Relational

/-! ### The schema -/

/-- The tables of the migrations, and the one of the leadership lease. -/
inductive Table
  | schemaMigrations | connections | schemas | pipelines | stages | transforms | routingRules | scripts
  | dlq | auditLog | tenants | tenantMemberships | auditLogDiffs | apiTokens | webhooks | plugins
  | pipelineGrants | dlqRedactionRules | pipelineDedup | pipelineRevisions | aiAudit | leadership
  deriving DecidableEq

/-- The columns that refer to other tables. -/
inductive RefColumn
  | sourceID | destinationID | schemaID | shadowDestinationID | pipelineID | auditID
  deriving DecidableEq

/-- The foreign keys of the migrations. -/
def foreignKeys : List (ForeignKey Table RefColumn) :=
  [⟨.pipelines, .sourceID, .connections, .restrict⟩,
    ⟨.pipelines, .destinationID, .connections, .restrict⟩,
    ⟨.pipelines, .schemaID, .schemas, .setNull⟩,
    ⟨.pipelines, .shadowDestinationID, .connections, .setNull⟩,
    ⟨.stages, .pipelineID, .pipelines, .cascade⟩,
    ⟨.transforms, .pipelineID, .pipelines, .cascade⟩,
    ⟨.routingRules, .pipelineID, .pipelines, .cascade⟩,
    ⟨.routingRules, .destinationID, .connections, .restrict⟩,
    ⟨.dlq, .pipelineID, .pipelines, .setNull⟩,
    ⟨.auditLogDiffs, .auditID, .auditLog, .cascade⟩,
    ⟨.pipelineGrants, .pipelineID, .pipelines, .cascade⟩,
    ⟨.dlqRedactionRules, .pipelineID, .pipelines, .cascade⟩,
    ⟨.pipelineDedup, .pipelineID, .pipelines, .cascade⟩,
    ⟨.pipelineRevisions, .pipelineID, .pipelines, .cascade⟩]

def schema : Relational.Schema Table RefColumn where
  foreignKeys := foreignKeys
  flat := by decide
  single := by decide

/-- The references that are `NOT NULL`. -/
def required : Table → RefColumn → Bool
  | .pipelines, column => column = .sourceID ∨ column = .destinationID
  | .dlq, _ | .auditLogDiffs, _ => false
  | _, _ => true

/-- The tables with a column `tenant_id`. -/
def hasTenantID : Table → Bool
  | .schemaMigrations | .tenants | .auditLogDiffs | .pipelineGrants | .pipelineDedup | .leadership => false
  | _ => true

/-- The columns that refer to nothing. -/
structure Columns (Content : Type) where
  tenantID : Option String
  content : Content

/-- The tables, as the schema lets them be. -/
structure Database (Content : Type) where
  tables : Tables Table RefColumn (Columns Content)
  distinct : ∀ table, ((tables table).map Row.key).Nodup
  typed : ∀ table, ∀ row ∈ tables table, ∀ column target, row.refs column = some target →
    ∃ key ∈ foreignKeys, key.child = table ∧ key.column = column
  notNull : ∀ key ∈ foreignKeys, required key.child key.column = true → ∀ row ∈ tables key.child,
    row.refs key.column ≠ none
  refers : ∀ key ∈ foreignKeys, ∀ row ∈ tables key.child, ∀ target, row.refs key.column = some target →
    ∃ parent ∈ tables key.parent, parent.key = target
  tenanted : ∀ table, ∀ row ∈ tables table, row.data.tenantID.isSome = hasTenantID table

/-! ### The purge -/

variable {Content : Type}

/-- The tenant of a row. -/
def tenantOf (table : Table) (key : String) (data : Columns Content) : Option String :=
  if table = .tenants then some key else data.tenantID

/-- `WHERE tenant_id = ?`, and `WHERE id = ?` for the tenant itself. -/
def ofTenant (id : String) (table : Table) (key : String) (data : Columns Content) : Bool :=
  tenantOf table key data = some id

/-- The tables of `Purge`, in its order. -/
def purgeTables : List Table :=
  [.dlq, .routingRules, .transforms, .stages, .pipelines, .connections, .schemas, .scripts, .webhooks,
    .apiTokens, .tenantMemberships]

/-- Whether the transaction begins, each statement runs, and the transaction commits. -/
structure Answers where
  begins : Bool := true
  runs : Table → Bool := fun _ => true
  commits : Bool := true

/-- What a purge fails with. -/
inductive PurgeError
  | defaultTenant
  | beginPurge
  | purge (table : Table)
  | notFound
  | commit
  deriving DecidableEq

/-- The statements of a purge, in their order. -/
def transaction (tables : Tables Table RefColumn (Columns Content)) (id : String) (answers : Answers) :
    Except PurgeError (Tables Table RefColumn (Columns Content)) :=
  match schema.deleteAll (ofTenant id) answers.runs tables purgeTables with
  | .error table => .error (.purge table)
  | .ok emptied =>
    match schema.deleteAll (ofTenant id) answers.runs emptied [.tenants] with
    | .error table => .error (.purge table)
    | .ok after => if (emptied .tenants).any fun row => row.key = id then .ok after else .error .notFound

/-- `TenantRepo.Purge`: its answer, and the tables after it. A COMMIT that takes effect and still reports an error is
left out. -/
def purge (tables : Tables Table RefColumn (Columns Content)) (id : String) (answers : Answers) :
    Except PurgeError Unit × Tables Table RefColumn (Columns Content) :=
  if id = defaultTenantID then (.error .defaultTenant, tables)
  else if answers.begins = false then (.error .beginPurge, tables)
  else
    match transaction tables id answers with
    | .error failure => (.error failure, tables)
    | .ok after => if answers.commits then (.ok (), after) else (.error .commit, tables)

/-! ### Whose rows -/

section Rows

variable (tables : Tables Table RefColumn (Columns Content)) (id : String)

/-- The column refers to a row of the tenant. -/
def RefersTo (row : Row RefColumn (Columns Content)) (column : RefColumn) (parent : Table) : Prop :=
  ∃ target ∈ tables parent, target.data.tenantID = some id ∧ row.refs column = some target.key

/-- The row is the tenant's, by its `tenant_id` or by its pipeline. -/
def Belongs (table : Table) (row : Row RefColumn (Columns Content)) : Prop :=
  tenantOf table row.key row.data = some id ∨ RefersTo tables id row .pipelineID .pipelines

/-- The tables that a purge keeps. -/
def retained : List Table :=
  [.auditLog, .auditLogDiffs, .aiAudit]

/-- Nothing of the tenant is left but in the tables that are retained, and every row of another tenant
is as it was; or the purge failed, and everything is as it was. -/
def Erases : Except PurgeError Unit × Tables Table RefColumn (Columns Content) → Prop
  | (.ok (), after) =>
    (∀ table ∉ retained, ∀ row ∈ after table, ¬ Belongs tables id table row) ∧
      ∀ other ≠ id, ∀ table row, Belongs tables other table row → (row ∈ after table ↔ row ∈ tables table)
  | (.error _, after) => after = tables

/-- The tenant has no plugin, no row is of this tenant and of another one, and no pipeline of another
tenant has its schema or its shadow destination here. -/
def Separate : Prop :=
  (∀ row ∈ tables .plugins, row.data.tenantID ≠ some id) ∧
  (∀ table ∉ retained, ∀ row ∈ tables table, Belongs tables id table row →
    ∀ other ≠ id, ¬ Belongs tables other table row) ∧
  ∀ row ∈ tables .pipelines, row.data.tenantID ≠ some id →
    ¬ RefersTo tables id row .schemaID .schemas ∧ ¬ RefersTo tables id row .shadowDestinationID .connections

/-- A pipeline or a routing rule that is not the tenant's needs one of its connections. -/
def Needed : Prop :=
  (∃ row ∈ tables .pipelines, row.data.tenantID ≠ some id ∧
    (RefersTo tables id row .sourceID .connections ∨ RefersTo tables id row .destinationID .connections)) ∨
  ∃ row ∈ tables .routingRules, ¬ Belongs tables id .routingRules row ∧
    RefersTo tables id row .destinationID .connections

/-- The statements of the transaction, in order. -/
def statements : List Table :=
  purgeTables ++ [.tenants]

/-- The purge cannot go through: the tenant is protected or unknown, one of its connections is needed
by another, or the database fails. -/
def Refused (answers : Answers) : Prop :=
  id = defaultTenantID ∨ answers.begins = false ∨ (∃ table ∈ statements, answers.runs table = false) ∨
    answers.commits = false ∨ (∀ row ∈ tables .tenants, row.key ≠ id) ∨ Needed tables id

end Rows

/-! ### What the statements do to a row -/

section Fate

variable {tables : Tables Table RefColumn (Columns Content)} {id : String} {table : Table}
  {row left : Row RefColumn (Columns Content)}

theorem refersTo_iff_gone {column : RefColumn} {parent : Table} (named : parent ≠ .tenants) :
    RefersTo tables id row column parent ↔
      ∃ target, row.refs column = some target ∧ gone (ofTenant id) tables parent target = true := by
  simp only [gone_eq_true, ofTenant, tenantOf, if_neg named, decide_eq_true_eq]
  constructor
  · rintro ⟨target, member, owned, refers⟩
    exact ⟨target.key, refers, target, member, owned, rfl⟩
  · rintro ⟨_, refers, target, member, owned, rfl⟩
    exact ⟨target, member, owned, refers⟩

theorem parent_ne_tenants : ∀ key ∈ foreignKeys, key.parent ≠ .tenants := by
  decide

theorem cascades_by_pipeline : ∀ key ∈ foreignKeys, key.onDelete = .cascade → key.parent ∈ statements →
    key.column = .pipelineID ∧ key.parent = .pipelines ∧ key.child ∉ retained := by
  decide

theorem refers_to_pipeline : ∀ key ∈ foreignKeys, key.column = .pipelineID →
    key.parent = .pipelines ∧ key.child ∉ retained ∧ (key.onDelete = .cascade ∨ key.onDelete = .setNull) := by
  decide

theorem nulls : ∀ key ∈ foreignKeys, key.onDelete = .setNull →
    (key.column = .pipelineID ∧ key.parent = .pipelines) ∨
      (key.child = .pipelines ∧ key.column = .schemaID ∧ key.parent = .schemas) ∨
      (key.child = .pipelines ∧ key.column = .shadowDestinationID ∧ key.parent = .connections) := by
  decide

theorem left_tables (table : Table) (tenanted : hasTenantID table = true) (spared : table ∉ statements)
    (erased : table ∉ retained) : table = .plugins ∨
      ∃ key ∈ foreignKeys, key.child = table ∧ key.column = .pipelineID ∧ key.onDelete = .cascade ∧
        required table .pipelineID = true := by
  cases table <;> revert tenanted spared erased <;> decide

theorem dies_iff : schema.dies (ofTenant id) tables statements table row = true ↔
    (table ∈ statements ∧ tenantOf table row.key row.data = some id) ∨
      (∃ key ∈ foreignKeys, key.onDelete = .cascade ∧ key.child = table ∧ key.parent ∈ statements) ∧
        RefersTo tables id row .pipelineID .pipelines := by
  rw [Schema.dies_eq_true, refersTo_iff_gone (by decide)]
  refine or_congr (by simp [ofTenant]) ⟨?_, ?_⟩
  · rintro ⟨key, known, cascades, child, parent, refers⟩
    obtain ⟨column, pipelines, -⟩ := cascades_by_pipeline key known cascades parent
    rw [column, pipelines] at refers
    exact ⟨⟨key, known, cascades, child, parent⟩, refers⟩
  · rintro ⟨⟨key, known, cascades, child, parent⟩, refers⟩
    obtain ⟨column, pipelines, -⟩ := cascades_by_pipeline key known cascades parent
    rw [← column, ← pipelines] at refers
    exact ⟨key, known, cascades, child, parent, refers⟩

theorem spared_of_emptied : ∀ table ∈ statements, table ∉ retained := by
  decide

theorem nulled_cases {column : RefColumn}
    (nulled : schema.nulled (ofTenant id) tables statements table row column = true) :
    (RefersTo tables id row .pipelineID .pipelines ∧ table ∉ retained) ∨
      (table = .pipelines ∧ (RefersTo tables id row .schemaID .schemas ∨
        RefersTo tables id row .shadowDestinationID .connections)) := by
  obtain ⟨key, known, sets, child, here, -, refers⟩ := Schema.nulled_eq_true.mp nulled
  have refers := (refersTo_iff_gone (parent_ne_tenants key known)).mpr refers
  rcases nulls key known sets with ⟨column, parent⟩ | ⟨pipelines, column, parent⟩ | ⟨pipelines, column, parent⟩
  · rw [← here, column, parent] at refers
    exact Or.inl ⟨refers, child ▸ (refers_to_pipeline key known column).2.1⟩
  · rw [← here, column, parent] at refers
    exact Or.inr ⟨child ▸ pipelines, Or.inl refers⟩
  · rw [← here, column, parent] at refers
    exact Or.inr ⟨child ▸ pipelines, Or.inr refers⟩

end Fate

section Survivors

variable {database : Database Content} {id : String} {table : Table} {row left : Row RefColumn (Columns Content)}

theorem belongs_pipelines {owner : String} (member : row ∈ database.tables .pipelines)
    (belongs : Belongs database.tables owner .pipelines row) : row.data.tenantID = some owner := by
  rcases belongs with named | ⟨target, -, -, refers⟩
  · exact named
  · obtain ⟨key, known, child, column⟩ := database.typed .pipelines row member .pipelineID target.key refers
    exact absurd child (by revert key; decide)

theorem survivor_of_other (separate : Separate database.tables id) {other : String} (different : other ≠ id)
    (member : row ∈ database.tables table) (belongs : Belongs database.tables other table row) :
    schema.survivor (ofTenant id) database.tables statements table row = some row := by
  have foreign : table ∉ retained → ¬ Belongs database.tables id table row :=
    fun erased own => separate.2.1 table erased row member own other different belongs
  refine Schema.survivor_eq_some.mpr ⟨?_, rfl, rfl, fun column => (if_neg ?_).symm⟩
  · rw [Bool.eq_false_iff, Ne, dies_iff]
    rintro (⟨emptied, named⟩ | ⟨⟨key, known, cascades, child, parent⟩, refers⟩)
    · exact foreign (spared_of_emptied table emptied) (Or.inl named)
    · exact foreign (child ▸ (cascades_by_pipeline key known cascades parent).2.2) (Or.inr refers)
  · intro nulled
    rcases nulled_cases nulled with ⟨refers, erased⟩ | ⟨rfl, refers⟩
    · exact foreign erased (Or.inr refers)
    · have named := belongs_pipelines member belongs
      have apart := separate.2.2 row member fun same => different (Option.some.inj (named.symm.trans same))
      exact refers.elim apart.1 apart.2

theorem Belongs.of_survivor {owner : String}
    (survives : schema.survivor (ofTenant id) database.tables statements table row = some left)
    (belongs : Belongs database.tables owner table left) : Belongs database.tables owner table row := by
  obtain ⟨-, keys, data, -⟩ := Schema.survivor_eq_some.mp survives
  rcases belongs with named | ⟨target, member, owned, refers⟩
  · rw [keys, data] at named
    exact Or.inl named
  · exact Or.inr ⟨target, member, owned, Schema.refs_of_survivor survives refers⟩

theorem not_refersTo_of_survivor (member : row ∈ database.tables table)
    (survives : schema.survivor (ofTenant id) database.tables statements table row = some left) :
    ¬ RefersTo database.tables id left .pipelineID .pipelines := by
  rintro ⟨target, among, owned, refers⟩
  have before := Schema.refs_of_survivor survives refers
  have own : RefersTo database.tables id row .pipelineID .pipelines := ⟨target, among, owned, before⟩
  obtain ⟨alive, -, -, refs⟩ := Schema.survivor_eq_some.mp survives
  obtain ⟨key, known, child, column⟩ := database.typed table row member .pipelineID target.key before
  obtain ⟨parent, -, acts⟩ := refers_to_pipeline key known column
  have emptied : key.parent ∈ statements := by
    rw [parent]
    decide
  rcases acts with cascades | sets
  · exact Bool.eq_false_iff.mp alive (dies_iff.mpr (Or.inr ⟨⟨key, known, cascades, child, emptied⟩, own⟩))
  · have nulled : schema.nulled (ofTenant id) database.tables statements table row .pipelineID = true :=
      Schema.nulled_eq_true.mpr ⟨key, known, sets, child, column, emptied,
        (refersTo_iff_gone (parent_ne_tenants key known)).mp (by rw [parent]; exact own)⟩
    rw [refs, if_pos nulled] at refers
    cases refers

theorem exists_owner {key : ForeignKey Table RefColumn} (known : key ∈ foreignKeys)
    (pipeline : key.column = .pipelineID) (needed : required key.child .pipelineID = true)
    (member : row ∈ database.tables key.child) :
    ∃ owner, RefersTo database.tables owner row .pipelineID .pipelines := by
  rw [← pipeline] at needed
  obtain ⟨target, refers⟩ := Option.ne_none_iff_exists'.mp (database.notNull key known needed row member)
  obtain ⟨parent, among, rfl⟩ := database.refers key known row member target refers
  rw [(refers_to_pipeline key known pipeline).1] at among
  obtain ⟨owner, owned⟩ := Option.isSome_iff_exists.mp (database.tenanted .pipelines parent among)
  rw [pipeline] at refers
  exact ⟨owner, parent, among, owned, refers⟩

theorem not_belongs_of_survivor (separate : Separate database.tables id) (erased : table ∉ retained)
    (member : row ∈ database.tables table)
    (survives : schema.survivor (ofTenant id) database.tables statements table row = some left) :
    ¬ Belongs database.tables id table left := by
  have unrelated := not_refersTo_of_survivor member survives
  rintro (named | refers)
  · obtain ⟨alive, keys, data, refs⟩ := Schema.survivor_eq_some.mp survives
    rw [keys, data] at named
    have spared : table ∉ statements := fun emptied =>
      Bool.eq_false_iff.mp alive (dies_iff.mpr (Or.inl ⟨emptied, named⟩))
    have column : row.data.tenantID = some id := by
      unfold tenantOf at named
      rwa [if_neg fun same => spared (by rw [same]; decide)] at named
    have tenanted : hasTenantID table = true := by
      rw [← database.tenanted table row member, column]
      rfl
    rcases left_tables table tenanted spared erased with rfl | ⟨key, known, rfl, pipeline, cascades, needed⟩
    · exact separate.1 row member column
    · obtain ⟨owner, refers⟩ := exists_owner known pipeline needed member
      by_cases same : owner = id
      · rw [same] at refers
        have parent := (refers_to_pipeline key known pipeline).1
        exact Bool.eq_false_iff.mp alive
          (dies_iff.mpr (Or.inr ⟨⟨key, known, cascades, rfl, by rw [parent]; decide⟩, refers⟩))
      · exact separate.2.1 key.child erased row member (Or.inl named) owner same (Or.inr refers)
  · exact unrelated refers

theorem not_refersTo_of_unchanged
    (unchanged : schema.survivor (ofTenant id) database.tables statements table row = some row)
    {key : ForeignKey Table RefColumn} (known : key ∈ foreignKeys) (sets : key.onDelete = .setNull)
    (child : key.child = table) (emptied : key.parent ∈ statements) :
    ¬ RefersTo database.tables id row key.column key.parent := by
  intro refers
  have nulled : schema.nulled (ofTenant id) database.tables statements table row key.column = true :=
    Schema.nulled_eq_true.mpr ⟨key, known, sets, child, rfl, emptied,
      (refersTo_iff_gone (parent_ne_tenants key known)).mp refers⟩
  have refs := (Schema.survivor_eq_some.mp unchanged).2.2.2 key.column
  rw [if_pos nulled] at refs
  obtain ⟨target, -, -, found⟩ := refers
  rw [refs] at found
  cases found

/-- A purge erases the tenant exactly if its rows are separate. -/
theorem erases_survivors_iff : Erases database.tables id
    (.ok (), schema.survivors (ofTenant id) database.tables statements) ↔ Separate database.tables id := by
  constructor
  · rintro ⟨erased, kept⟩
    refine ⟨fun row member named => ?_, fun table spared row member own other different belongs => ?_,
      fun row member foreign => ?_⟩
    · have alive : schema.dies (ofTenant id) database.tables statements .plugins row = false := by
        rw [Bool.eq_false_iff, Ne, dies_iff]
        rintro (⟨emptied, -⟩ | ⟨⟨key, known, -, child, -⟩, -⟩)
        · exact absurd emptied (by decide)
        · exact absurd child (by revert key; decide)
      obtain ⟨left, survives, keys, data, -⟩ := Schema.exists_survivor alive
      refine erased .plugins (by decide) left (Schema.mem_survivors.mpr ⟨row, member, survives⟩) (Or.inl ?_)
      rw [keys, data]
      exact named
    · exact erased table spared row ((kept other different table row belongs).mpr member) own
    · obtain ⟨owner, owned⟩ := Option.isSome_iff_exists.mp (database.tenanted .pipelines row member)
      have different : owner ≠ id := fun same => foreign (same ▸ owned)
      have after := (kept owner different .pipelines row (Or.inl owned)).mpr member
      obtain ⟨before, among, survives⟩ := Schema.mem_survivors.mp after
      obtain rfl : before = row := List.inj_on_of_nodup_map (database.distinct .pipelines) among member
        (Schema.survivor_eq_some.mp survives).2.1.symm
      exact ⟨not_refersTo_of_unchanged survives (show ⟨.pipelines, .schemaID, .schemas, .setNull⟩ ∈ foreignKeys by decide)
          rfl rfl (by decide),
        not_refersTo_of_unchanged survives
          (show ⟨.pipelines, .shadowDestinationID, .connections, .setNull⟩ ∈ foreignKeys by decide) rfl rfl (by decide)⟩
  · intro separate
    refine ⟨fun table erased left member => ?_, fun other different table row belongs => ⟨fun after => ?_, fun member => ?_⟩⟩
    · obtain ⟨row, among, survives⟩ := Schema.mem_survivors.mp member
      exact not_belongs_of_survivor separate erased among survives
    · obtain ⟨before, among, survives⟩ := Schema.mem_survivors.mp after
      have same := survivor_of_other separate different among (belongs.of_survivor survives)
      rw [same, Option.some.injEq] at survives
      exact survives ▸ among
    · exact Schema.mem_survivors.mpr ⟨row, member, survivor_of_other separate different member belongs⟩

end Survivors

/-! ### When the statements go through -/

section Transaction

variable {database : Database Content} {id : String} {row : Row RefColumn (Columns Content)}

theorem childrenFirst_statements : schema.ChildrenFirst statements := by
  unfold Schema.ChildrenFirst
  decide

/-- The statements before the connections are deleted. -/
def prior : List Table :=
  [.dlq, .routingRules, .transforms, .stages, .pipelines]

theorem dies_prior_iff {table : Table} (needed : table = .pipelines ∨ table = .routingRules)
    (member : row ∈ database.tables table) :
    schema.dies (ofTenant id) database.tables prior table row = true ↔ Belongs database.tables id table row := by
  rw [Schema.dies_eq_true]
  constructor
  · rintro (⟨-, named⟩ | ⟨key, known, cascades, -, parent, refers⟩)
    · exact Or.inl (of_decide_eq_true named)
    · have emptied : key.parent ∈ statements :=
        (show prior ⊆ statements by decide) parent
      obtain ⟨column, pipelines, -⟩ := cascades_by_pipeline key known cascades emptied
      rw [column, pipelines] at refers
      exact Or.inr ((refersTo_iff_gone (by decide)).mpr refers)
  · intro belongs
    rcases needed with rfl | rfl
    · exact Or.inl ⟨by decide, decide_eq_true (belongs_pipelines member belongs)⟩
    · rcases belongs with named | refers
      · exact Or.inl ⟨by decide, decide_eq_true named⟩
      · exact Or.inr ⟨⟨.routingRules, .pipelineID, .pipelines, .cascade⟩, by decide, rfl, rfl, by decide,
          (refersTo_iff_gone (by decide)).mp refers⟩

theorem exists_survivor_refersTo_iff {key : ForeignKey Table RefColumn} (known : key ∈ foreignKeys)
    (restricts : key.onDelete = .restrict) (needed : key.child = .pipelines ∨ key.child = .routingRules) :
    (∃ left ∈ schema.survivors (ofTenant id) database.tables prior key.child, ∃ target,
        left.refs key.column = some target ∧ gone (ofTenant id) database.tables .connections target = true) ↔
      ∃ row ∈ database.tables key.child, ¬ Belongs database.tables id key.child row ∧
        RefersTo database.tables id row key.column .connections := by
  have kept : key.onDelete ≠ .setNull := by
    rw [restricts]
    decide
  constructor
  · rintro ⟨left, member, refers⟩
    obtain ⟨row, among, survives⟩ := Schema.mem_survivors.mp member
    rw [Schema.refs_of_not_setNull known kept rfl survives] at refers
    refine ⟨row, among, fun belongs => ?_, (refersTo_iff_gone (by decide)).mpr refers⟩
    exact Bool.eq_false_iff.mp (Schema.survivor_eq_some.mp survives).1 ((dies_prior_iff needed among).mpr belongs)
  · rintro ⟨row, among, foreign, refers⟩
    have alive : schema.dies (ofTenant id) database.tables prior key.child row = false :=
      Bool.eq_false_iff.mpr fun dead => foreign ((dies_prior_iff needed among).mp dead)
    obtain ⟨left, survives, -⟩ := Schema.exists_survivor alive
    refine ⟨left, Schema.mem_survivors.mpr ⟨row, among, survives⟩, ?_⟩
    rw [Schema.refs_of_not_setNull known kept rfl survives]
    exact (refersTo_iff_gone (by decide)).mp refers

theorem restricting : ∀ key ∈ foreignKeys, key.onDelete = .restrict →
    key = ⟨.pipelines, .sourceID, .connections, .restrict⟩ ∨
      key = ⟨.pipelines, .destinationID, .connections, .restrict⟩ ∨
      key = ⟨.routingRules, .destinationID, .connections, .restrict⟩ := by
  decide

theorem blocked_connections_iff :
    schema.blocked (ofTenant id) (schema.survivors (ofTenant id) database.tables prior) .connections = true ↔
      Needed database.tables id := by
  have same : gone (ofTenant id) (schema.survivors (ofTenant id) database.tables prior) .connections =
      gone (ofTenant id) database.tables .connections :=
    Schema.gone_survivors (by decide) (by decide)
  rw [Schema.blocked_eq_true, same]
  constructor
  · rintro ⟨key, known, restricts, -, needs⟩
    rcases restricting key known restricts with rfl | rfl | rfl
    · obtain ⟨row, member, foreign, refers⟩ :=
        (exists_survivor_refersTo_iff known rfl (Or.inl rfl)).mp needs
      exact Or.inl ⟨row, member, fun named => foreign (Or.inl named), Or.inl refers⟩
    · obtain ⟨row, member, foreign, refers⟩ :=
        (exists_survivor_refersTo_iff known rfl (Or.inl rfl)).mp needs
      exact Or.inl ⟨row, member, fun named => foreign (Or.inl named), Or.inr refers⟩
    · exact Or.inr ((exists_survivor_refersTo_iff known rfl (Or.inr rfl)).mp needs)
  · rintro (⟨row, member, foreign, refers | refers⟩ | needs)
    · exact ⟨⟨.pipelines, .sourceID, .connections, .restrict⟩, by decide, rfl, rfl,
        (exists_survivor_refersTo_iff (by decide) rfl (Or.inl rfl)).mpr
          ⟨row, member, fun belongs => foreign (belongs_pipelines member belongs), refers⟩⟩
    · exact ⟨⟨.pipelines, .destinationID, .connections, .restrict⟩, by decide, rfl, rfl,
        (exists_survivor_refersTo_iff (by decide) rfl (Or.inl rfl)).mpr
          ⟨row, member, fun belongs => foreign (belongs_pipelines member belongs), refers⟩⟩
    · exact ⟨⟨.routingRules, .destinationID, .connections, .restrict⟩, by decide, rfl, rfl,
        (exists_survivor_refersTo_iff (by decide) rfl (Or.inr rfl)).mpr needs⟩

theorem blocked_eq_false {tables : Tables Table RefColumn (Columns Content)} {table : Table}
    (other : table ≠ .connections) : schema.blocked (ofTenant id) tables table = false := by
  rw [Bool.eq_false_iff, Ne, Schema.blocked_eq_true]
  rintro ⟨key, known, restricts, parent, -⟩
  rcases restricting key known restricts with rfl | rfl | rfl
  · exact other parent.symm
  · exact other parent.symm
  · exact other parent.symm

theorem deleteAll_purgeTables {answers : Answers} {after : Tables Table RefColumn (Columns Content)} :
    schema.deleteAll (ofTenant id) answers.runs database.tables purgeTables = .ok after ↔
      (∀ table ∈ purgeTables, answers.runs table = true) ∧ ¬ Needed database.tables id ∧
        after = schema.survivors (ofTenant id) database.tables purgeTables := by
  have ordered : schema.ChildrenFirst ([] ++ purgeTables) := (List.pairwise_append.mp childrenFirst_statements).1
  have done := @Schema.deleteAll_eq_ok _ _ _ _ _ schema (ofTenant id) database.tables [] answers.runs purgeTables
    after ordered
  rw [Schema.survivors_nil] at done
  rw [done]
  refine and_congr Iff.rfl (and_congr ⟨fun free needed => ?_, fun free table member => ?_⟩ Iff.rfl)
  · exact Bool.eq_false_iff.mp (free .connections (by decide)) (blocked_connections_iff.mpr needed)
  · by_cases connections : table = .connections
    · rw [connections]
      exact Bool.eq_false_iff.mpr fun blocks => free (blocked_connections_iff.mp blocks)
    · exact blocked_eq_false connections

theorem deleteAll_tenants {answers : Answers} {after : Tables Table RefColumn (Columns Content)} :
    schema.deleteAll (ofTenant id) answers.runs (schema.survivors (ofTenant id) database.tables purgeTables)
        [.tenants] = .ok after ↔
      answers.runs .tenants = true ∧ after = schema.survivors (ofTenant id) database.tables statements := by
  rw [Schema.deleteAll_eq_ok childrenFirst_statements]
  refine and_congr (by simp) (and_iff_right fun table member => ?_)
  rw [List.mem_singleton.mp member]
  exact blocked_eq_false (by decide)

theorem exists_tenant_iff :
    ((schema.survivors (ofTenant id) database.tables purgeTables .tenants).any fun row => row.key = id) = true ↔
      ∃ row ∈ database.tables .tenants, row.key = id := by
  have same : gone (ofTenant id) (schema.survivors (ofTenant id) database.tables purgeTables) .tenants =
      gone (ofTenant id) database.tables .tenants :=
    Schema.gone_survivors (by decide) (by decide)
  have own : ∀ row : Row RefColumn (Columns Content),
      (ofTenant id .tenants row.key row.data = true ∧ row.key = id) ↔ row.key = id :=
    fun row => and_iff_right_of_imp fun named => decide_eq_true (congrArg some named)
  have found := congrFun same id
  rw [Bool.eq_iff_iff, gone_eq_true, gone_eq_true] at found
  simp only [own] at found
  rw [List.any_eq_true]
  simpa using found

theorem transaction_eq_ok {answers : Answers} {after : Tables Table RefColumn (Columns Content)} :
    transaction database.tables id answers = .ok after ↔
      (∀ table ∈ statements, answers.runs table = true) ∧ ¬ Needed database.tables id ∧
        (∃ row ∈ database.tables .tenants, row.key = id) ∧
        after = schema.survivors (ofTenant id) database.tables statements := by
  unfold transaction
  constructor
  · intro done
    split at done
    · cases done
    · rename_i emptied first
      obtain ⟨ran, free, rfl⟩ := deleteAll_purgeTables.mp first
      split at done
      · cases done
      · rename_i last second
        obtain ⟨ranToo, rfl⟩ := deleteAll_tenants.mp second
        split at done
        · rename_i found
          refine ⟨List.forall_mem_append.mpr ⟨ran, by simpa using ranToo⟩, free, exists_tenant_iff.mp found, ?_⟩
          exact (Except.ok.inj done).symm
        · cases done
  · rintro ⟨ran, free, found, rfl⟩
    obtain ⟨ran, ranToo⟩ := List.forall_mem_append.mp ran
    rw [deleteAll_purgeTables.mpr ⟨ran, free, rfl⟩]
    dsimp only
    rw [deleteAll_tenants.mpr ⟨ranToo .tenants (List.mem_singleton_self _), rfl⟩]
    dsimp only
    rw [if_pos (exists_tenant_iff.mpr found)]

/-- A refused purge changes nothing. -/
theorem purge_of_refused {answers : Answers} (refused : Refused database.tables id answers) :
    ∃ failure, purge database.tables id answers = (.error failure, database.tables) := by
  unfold purge
  split
  · exact ⟨_, rfl⟩
  · rename_i unprotected
    split
    · exact ⟨_, rfl⟩
    · rename_i begun
      split
      · exact ⟨_, rfl⟩
      · rename_i after done
        obtain ⟨ran, free, ⟨row, member, named⟩, -⟩ := transaction_eq_ok.mp done
        rcases refused with shielded | unbegun | ⟨table, among, failed⟩ | uncommitted | unknown | needed
        · exact absurd shielded unprotected
        · exact absurd unbegun begun
        · rw [ran table among] at failed
          cases failed
        · rw [uncommitted]
          exact ⟨_, rfl⟩
        · exact absurd named (unknown row member)
        · exact absurd needed free

theorem purge_of_not_refused {answers : Answers} (goes : ¬ Refused database.tables id answers) :
    purge database.tables id answers =
      (.ok (), schema.survivors (ofTenant id) database.tables statements) := by
  unfold Refused at goes
  push Not at goes
  obtain ⟨unprotected, begun, ran, committed, found, free⟩ := goes
  have done : transaction database.tables id answers =
      .ok (schema.survivors (ofTenant id) database.tables statements) :=
    transaction_eq_ok.mpr ⟨fun table member => Bool.eq_true_of_not_eq_false (ran table member), free, found, rfl⟩
  unfold purge
  rw [if_neg unprotected, if_neg begun, done]
  dsimp only
  rw [if_pos (Bool.eq_true_of_not_eq_false committed)]

end Transaction

/-- A purge erases the tenant and only the tenant, or changes nothing, exactly when it cannot go through
or the tenant is separate from the others and has no plugin. -/
theorem purge_erases_iff (database : Database Content) (id : String) (answers : Answers) :
    Erases database.tables id (purge database.tables id answers) ↔
      Refused database.tables id answers ∨ Separate database.tables id := by
  by_cases refused : Refused database.tables id answers
  · obtain ⟨failure, failed⟩ := purge_of_refused refused
    rw [failed]
    exact iff_of_true rfl (Or.inl refused)
  · rw [purge_of_not_refused refused, erases_survivors_iff]
    exact (or_iff_right refused).symm

section Instances

def plainRow (key : String) (tenantID : Option String) : Row RefColumn (Columns Unit) where
  key := key
  refs _ := none
  data := { tenantID := tenantID, content := () }

def pluginTables : Tables Table RefColumn (Columns Unit)
  | .tenants => [plainRow "t" none]
  | .plugins => [plainRow "w" (some "t")]
  | _ => []

theorem pluginTables_cases {table : Table} {row : Row RefColumn (Columns Unit)}
    (member : row ∈ pluginTables table) :
    (table = .tenants ∧ row = plainRow "t" none) ∨ (table = .plugins ∧ row = plainRow "w" (some "t")) := by
  unfold pluginTables at member
  split at member
  · exact Or.inl ⟨rfl, List.mem_singleton.mp member⟩
  · exact Or.inr ⟨rfl, List.mem_singleton.mp member⟩
  · exact absurd member List.not_mem_nil

theorem refs_pluginTables {table : Table} {row : Row RefColumn (Columns Unit)}
    (member : row ∈ pluginTables table)
    (column : RefColumn) : row.refs column = none := by
  rcases pluginTables_cases member with ⟨-, rfl⟩ | ⟨-, rfl⟩
  · rfl
  · rfl

def pluginDatabase : Database Unit where
  tables := pluginTables
  distinct table := by cases table <;> decide
  typed table row member column target refers := by
    rw [refs_pluginTables member] at refers
    cases refers
  notNull key known _ row member := by
    have child := (show ∀ key ∈ foreignKeys, key.child ≠ .tenants ∧ key.child ≠ .plugins by decide) key known
    rcases pluginTables_cases member with ⟨tenants, -⟩ | ⟨plugins, -⟩
    · exact absurd tenants child.1
    · exact absurd plugins child.2
  refers key known row member target refers := by
    rw [refs_pluginTables member] at refers
    cases refers
  tenanted table row member := by
    rcases pluginTables_cases member with ⟨rfl, rfl⟩ | ⟨rfl, rfl⟩
    · rfl
    · rfl

/-- The plugin is there after the purge. -/
theorem plugin_survives_purge :
    (purge pluginDatabase.tables "t" {}).1 = .ok () ∧
      (purge pluginDatabase.tables "t" {}).2 .plugins = [plainRow "w" (some "t")] ∧
      ¬ Erases pluginDatabase.tables "t" (purge pluginDatabase.tables "t" {}) := by
  refine ⟨rfl, rfl, fun erases => ?_⟩
  exact erases.1 .plugins (by decide) (plainRow "w" (some "t")) (List.mem_singleton_self _) (Or.inl rfl)

end Instances

end Purge

end MqConnector
