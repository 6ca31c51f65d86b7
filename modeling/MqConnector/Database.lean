/-
This file is the state the HTTP server works on: the tables of the database with
the repository methods its handlers call, the master keys, and what the requests
have caused outside the database.

The dead-letter rows, the redaction rules, the master keys and the tables a
pipeline is built from are those of `dlq.Service`; the other tables stand beside
them. A method is the statement it runs on the rows. Timestamps, the prefix of a
token's secret and the digests of a plugin are left out.
-/

import MqConnector.Dlq
import MqConnector.Session
import Mathlib.Data.List.Basic

/-! ### Tables whose rows have an owner -/

/-- Rows with a key and an owner. A statement names the owner beside the key, so that it
reaches the rows of that owner only. -/
class Owned (Row : Type) (Key Owner : outParam Type) where
  key : Row → Key
  owner : Row → Owner

namespace Owned

variable {Row Key Owner : Type} [Owned Row Key Owner] [DecidableEq Owner]

/-- The rows of an owner, in table order. -/
def list (rows : List Row) (holder : Owner) : List Row :=
  rows.filter fun row => decide (owner row = holder)

variable [DecidableEq Key]

/-- Whether a row is the one an owner's statement names. -/
def named (holder : Owner) (name : Key) (row : Row) : Bool :=
  decide (key row = name) && decide (owner row = holder)

/-- The row of the owner with the key. -/
def get (rows : List Row) (holder : Owner) (name : Key) : Option Row :=
  rows.find? (named holder name)

/-- The rows of the owner with the key are changed, the others kept. -/
def update (rows : List Row) (holder : Owner) (name : Key) (change : Row → Row) : List Row :=
  rows.map fun row => if named holder name row then change row else row

/-- The rows of the owner with the key are dropped. -/
def delete (rows : List Row) (holder : Owner) (name : Key) : List Row :=
  rows.filter fun row => !named holder name row

theorem named_iff (holder : Owner) (name : Key) (row : Row) :
    named holder name row = true ↔ key row = name ∧ owner row = holder := by
  simp [named]

end Owned

namespace MqConnector

/-! ### Rows -/

/-- A row of `tenants`. -/
structure Tenant where
  id : String := ""
  slug : String
  name : String
  status : String := ""
  maxPipelines : Int := 0
  maxMsgsPerMinute : Int := 0
  deriving DecidableEq

/-- A row of `pipeline_grants`: the role of a user in one pipeline. -/
structure PipelineGrant where
  pipelineID : String
  userSub : String
  role : Role
  deriving DecidableEq

/-- A row of `scripts`. -/
structure Script where
  id : String := ""
  tenantID : String := ""
  name : String
  description : String := ""
  body : String := ""
  enabled : Bool := true
  deriving DecidableEq

/-- A row of `schemas`. -/
structure Schema where
  id : String := ""
  tenantID : String := ""
  name : String
  schemaType : String
  content : String := ""
  deriving DecidableEq

/-- `storage.Webhook` without the columns of its last delivery. -/
structure Webhook where
  id : String := ""
  tenantID : String := ""
  name : String
  url : String
  secret : String
  events : String := "*"
  enabled : Bool := true
  deriving DecidableEq

/-- A row of `plugins`. -/
structure Plugin where
  id : String := ""
  tenantID : String
  name : String
  blob : Bytes
  uploadedBy : String
  deriving DecidableEq

/-- What a revision stores of its pipeline. -/
structure PipelineSnapshot where
  pipeline : Option Pipeline
  stages : List StageRow
  transforms : List Transform
  routingRules : List RoutingRule
  deriving DecidableEq

/-- `storage.PipelineRevision`; the snapshot is absent when its text does not decode. -/
structure PipelineRevision where
  id : String
  tenantID : String
  pipelineID : String
  revisionNumber : Nat
  snapshot : Option PipelineSnapshot
  snapshotHash : String
  authorSub : String
  authorUsername : String
  changeSummary : String
  deployedAt : Option Int := none
  deployRequestID : String := ""
  deriving DecidableEq

/-- A row of `audit_log`, as it is listed. -/
structure AuditEntry where
  id : String
  tenantID : String
  actor : String := ""
  actorSub : String := ""
  action : String
  resource : String := ""
  status : Int := 0
  requestID : String := ""
  remoteIP : String := ""
  hash : String := ""
  prevHash : String := ""
  deriving DecidableEq

/-- The bodies before and after an audited request. -/
structure AuditDiff where
  auditID : String
  before : String
  after : String
  deriving DecidableEq

instance : Owned Pipeline String String := ⟨Pipeline.id, Pipeline.tenantID⟩
instance : Owned StageRow String String := ⟨StageRow.id, StageRow.tenantID⟩
instance : Owned Transform String String := ⟨Transform.id, Transform.tenantID⟩
instance : Owned RoutingRule String String := ⟨RoutingRule.id, RoutingRule.tenantID⟩
instance : Owned APIToken String String := ⟨APIToken.id, APIToken.tenantID⟩
instance : Owned Script String String := ⟨Script.id, Script.tenantID⟩
instance : Owned Schema String String := ⟨Schema.id, Schema.tenantID⟩
instance : Owned Webhook String String := ⟨Webhook.id, Webhook.tenantID⟩
instance : Owned Plugin String String := ⟨Plugin.name, Plugin.tenantID⟩
instance : Owned Membership String String := ⟨Membership.userSub, Membership.tenantID⟩
instance : Owned AuditEntry String String := ⟨AuditEntry.id, AuditEntry.tenantID⟩
instance : Owned HeldRow String String := ⟨fun held => held.row.id, fun held => held.row.entry.tenantID⟩
instance : Owned PipelineRevision (String × Nat) String :=
  ⟨fun revision => (revision.pipelineID, revision.revisionNumber), PipelineRevision.tenantID⟩

/-! ### Memberships and grants -/

namespace Memberships

/-- `ListByTenant`. -/
def listByTenant (table : Memberships) (tenantID : String) : List Membership :=
  Owned.list table.rows tenantID

/-- `Upsert`: one row for each tenant and user. -/
def upsert (table : Memberships) (row : Membership) : Memberships :=
  if present : row.key ∈ table.rows.map Membership.key then
    { rows := table.rows.map fun old => if old.key = row.key then row else old
      keysNodup := by
        have same : (table.rows.map fun old => if old.key = row.key then row else old).map
            Membership.key = table.rows.map Membership.key := by
          rw [List.map_map]
          refine List.map_congr_left fun old _ => ?_
          by_cases hit : old.key = row.key
          · simp [hit]
          · simp [hit]
        rw [same]
        exact table.keysNodup }
  else
    { rows := table.rows ++ [row]
      keysNodup := by
        rw [List.map_append, List.map_singleton]
        refine List.nodup_append.mpr ⟨table.keysNodup, List.nodup_singleton _, ?_⟩
        intro key member other last equal
        rw [List.mem_singleton] at last
        exact present (last ▸ equal ▸ member) }

/-- `MembershipRepo.Delete` of a row that exists. -/
def delete (table : Memberships) (tenantID userSub : String) : Memberships :=
  table.deleteWhere fun row => row.tenantID == tenantID && row.userSub == userSub

end Memberships

namespace PipelineGrant

/-- `Get`: the grant of a user in a pipeline. -/
def get (grants : List PipelineGrant) (pipelineID userSub : String) : Option PipelineGrant :=
  grants.find? fun grant => grant.pipelineID == pipelineID && grant.userSub == userSub

/-- `Set`: one grant for each pipeline and user. -/
def set (grants : List PipelineGrant) (pipelineID userSub : String) (role : Role) :
    List PipelineGrant :=
  if (get grants pipelineID userSub).isSome then
    grants.map fun grant =>
      if grant.pipelineID == pipelineID && grant.userSub == userSub then { grant with role := role }
      else grant
  else grants ++ [⟨pipelineID, userSub, role⟩]

/-- `PipelineGrantsRepo.Delete` of a grant that exists. -/
def delete (grants : List PipelineGrant) (pipelineID userSub : String) : List PipelineGrant :=
  grants.filter fun grant => !(grant.pipelineID == pipelineID && grant.userSub == userSub)

/-- `PipelineGrantsRepo.EffectiveRole` when the grant could be read: a grant only escalates. -/
def effectiveRole (grants : List PipelineGrant) (pipelineID userSub : String)
    (tenantRole : Role) : Role :=
  match get grants pipelineID userSub with
  | none => tenantRole
  | some grant => if tenantRole.rank < grant.role.rank then grant.role else tenantRole

end PipelineGrant

/-- `PluginRepo.Upsert`: a plugin of the same name in the tenant is replaced. -/
def Plugin.upsert (plugins : List Plugin) (plugin : Plugin) : List Plugin :=
  if (Owned.get plugins plugin.tenantID plugin.name).isSome then
    Owned.update plugins plugin.tenantID plugin.name fun old =>
      { old with blob := plugin.blob, uploadedBy := plugin.uploadedBy }
  else plugins ++ [plugin]

/-! ### Revisions -/

namespace PipelineRevision

/-- The revisions of one pipeline. -/
def ofPipeline (revisions : List PipelineRevision) (tenantID pipelineID : String) :
    List PipelineRevision :=
  revisions.filter fun revision =>
    revision.tenantID == tenantID && revision.pipelineID == pipelineID

/-- The revision with the highest number, the last of equal ones. -/
def newest : List PipelineRevision → Option PipelineRevision
  | [] => none
  | revision :: rest =>
    match newest rest with
    | none => some revision
    | some other => if other.revisionNumber < revision.revisionNumber then some revision else some other

/-- `LatestDeployed`: the newest revision that was ever deployed. -/
def latestDeployed (revisions : List PipelineRevision) (tenantID pipelineID : String) :
    Option PipelineRevision :=
  newest ((ofPipeline revisions tenantID pipelineID).filter (·.deployedAt.isSome))

/-- The number `Create` and `CreateForce` give a new revision. -/
def nextNumber (revisions : List PipelineRevision) (tenantID pipelineID : String) : Nat :=
  ((newest (ofPipeline revisions tenantID pipelineID)).map (·.revisionNumber)).getD 0 + 1

/-- `PipelineRevisionRepo.CreateForce`: the revision under the next number. -/
def createForce (revisions : List PipelineRevision) (tenantID : String)
    (revision : PipelineRevision) : PipelineRevision :=
  { revision with
    tenantID := tenantID
    revisionNumber := nextNumber revisions tenantID revision.pipelineID
    deployedAt := none }

/-- `PipelineRevisionRepo.Create`: the table and the number of the revision that now holds the
snapshot, the latest one when its hash is the same. -/
def create (revisions : List PipelineRevision) (tenantID : String) (revision : PipelineRevision) :
    List PipelineRevision × Nat :=
  match newest (ofPipeline revisions tenantID revision.pipelineID) with
  | some latest =>
    if latest.snapshotHash == revision.snapshotHash then (revisions, latest.revisionNumber)
    else
      let created := createForce revisions tenantID { revision with deployRequestID := "" }
      (revisions ++ [created], created.revisionNumber)
  | none =>
    let created := createForce revisions tenantID { revision with deployRequestID := "" }
    (revisions ++ [created], created.revisionNumber)

/-- `MarkDeployed` stamps one revision. -/
def markDeployed (revisions : List PipelineRevision) (tenantID pipelineID : String) (number : Nat)
    (now : Int) (requestID : String) : List PipelineRevision :=
  Owned.update revisions tenantID (pipelineID, number) fun revision =>
    { revision with
      deployedAt := some (revision.deployedAt.getD now)
      deployRequestID := if revision.deployRequestID == "" then requestID
        else revision.deployRequestID }

end PipelineRevision

/-! ### The state of the server -/

/-- What a request causes outside the database, apart from the payloads of retries. -/
inductive ServerEvent
  | reloaded
  | published (connectionID : String) (payload : Bytes)
  | consumed (connectionID : String)
  | replayed (pipelineID : String)
  deriving DecidableEq

/-- The tables, the master keys and the events. `sealedUnder` is the version of the key a
connection's stored password is sealed under, zero when it is not sealed. -/
structure ServerState (World Key Rule : Type) extends DlqState World Key Rule where
  tenants : List Tenant := []
  memberships : Memberships
  tokens : List APIToken := []
  grants : List PipelineGrant := []
  scripts : List Script := []
  schemas : List Schema := []
  webhooks : List Webhook := []
  plugins : List Plugin := []
  revisions : List PipelineRevision := []
  audit : List AuditEntry := []
  diffs : List AuditDiff := []
  sealedUnder : String → Nat := fun _ => 0
  events : List ServerEvent := []

namespace ServerState

variable {World Key Rule : Type} (state : ServerState World Key Rule)

/-- The tables that a login and a session are resolved from. -/
def authTables : AuthTables where
  memberships := state.memberships
  tenants := state.tenants.map Tenant.id
  tokens := state.tokens

/-- `TenantRepo.Get`. -/
def tenant (id : String) : Option Tenant :=
  state.tenants.find? fun row => row.id == id

/-- `ConnectionRepo.Get`. -/
def connection (tenantID id : String) : Option Connection :=
  (state.store.connections id).filter fun row => row.tenantID == tenantID

/-- `PipelineRepo.Get`. -/
def pipeline (tenantID id : String) : Option Pipeline :=
  Owned.get state.store.pipelines tenantID id

/-- `StageRepo.ListByPipeline`. -/
def stages (tenantID pipelineID : String) : List StageRow :=
  (state.store.listStages pipelineID).filter fun row => row.tenantID == tenantID

/-- `TransformRepo.ListByPipeline`. -/
def transforms (tenantID pipelineID : String) : List Transform :=
  (state.store.listTransforms pipelineID).filter fun row => row.tenantID == tenantID

/-- `RoutingRuleRepo.ListByPipeline`. -/
def routingRules (tenantID pipelineID : String) : List RoutingRule :=
  (state.store.listRoutingRules pipelineID).filter fun row => row.tenantID == tenantID

/-- `DLQRedactionRepo.List`: a rule has the tenant of its pipeline. -/
def redactionRules (tenantID pipelineID : String) : List Rule :=
  if (state.pipeline tenantID pipelineID).isSome then state.rules pipelineID else []

/-- The rows `AuditRepo.List` and `Verify` walk for a tenant; the name `*` stands for every
tenant. -/
def auditRows (tenantID : String) : List AuditEntry :=
  if tenantID == "*" then state.audit else Owned.list state.audit tenantID

/-- One transaction on the tables a pipeline is built from. -/
def write (change : Write) : ServerState World Key Rule :=
  { state with store := state.store.apply change }

/-- An effect outside the database is noted in order. -/
def emit (event : ServerEvent) : ServerState World Key Rule :=
  { state with events := state.events ++ [event] }

/-- The version a password that is stored now is sealed under; an empty one and one that looks
sealed already are stored as they are. -/
def sealVersion (password : String) : Nat :=
  match state.keys with
  | none => 0
  | some ring => if password == "" || "enc:".isPrefixOf password then 0 else ring.current

/-- `ConnectionRepo.Create` of a row whose id is free. -/
def createConnection (row : Connection) : ServerState World Key Rule :=
  { state.write (.createConnection row) with
    sealedUnder := Function.update state.sealedUnder row.id (state.sealVersion row.password) }

/-- `ConnectionRepo.Update` of a row that exists in its tenant. -/
def updateConnection (row : Connection) : ServerState World Key Rule :=
  { state.write (.updateConnection row) with
    sealedUnder := Function.update state.sealedUnder row.id (state.sealVersion row.password) }

/-- Whether a pipeline or a routing rule still needs the connection, which refuses its
deletion. -/
def connectionNeeded (id : String) : Bool :=
  state.store.pipelines.any (fun row => row.sourceID = id ∨ row.destinationID = id) ||
    state.store.routingRules.any fun rule => rule.destinationID = id

/-- `SchemaRepo.Delete` of a row that exists; pipelines that pointed at it have no schema. -/
def deleteSchema (tenantID id : String) : ServerState World Key Rule :=
  { state with
    schemas := Owned.delete state.schemas tenantID id
    store := state.store.mapPipelines
      (fun row => if row.schemaID = id then { row with schemaID := "" } else row)
      (by intro row; split <;> rfl) }

/-- `PipelineRepo.Delete` of a row that exists, with the cascades of the schema. -/
def deletePipeline (tenantID id : String) : ServerState World Key Rule :=
  { state with
    store := state.store.deletePipeline tenantID id
    grants := state.grants.filter fun grant => grant.pipelineID != id
    revisions := state.revisions.filter fun revision => revision.pipelineID != id
    rules := Function.update state.rules id []
    rows := state.rows.map fun held =>
      if held.row.entry.pipelineID = id then
        { held with row := { held.row with entry := { held.row.entry with pipelineID := "" } } }
      else held }

/-- `TenantRepo.Purge` of a tenant that exists. -/
def purgeTenant (id : String) : ServerState World Key Rule :=
  let gone := fun pipelineID => (state.pipeline id pipelineID).isSome
  { state with
    store := state.store.purgeTenant id
    rows := state.rows.filter fun held => held.row.entry.tenantID != id
    grants := state.grants.filter fun grant => !gone grant.pipelineID
    revisions := state.revisions.filter fun revision => !gone revision.pipelineID
    rules := fun pipelineID => if gone pipelineID then [] else state.rules pipelineID
    schemas := state.schemas.filter fun row => row.tenantID != id
    scripts := state.scripts.filter fun row => row.tenantID != id
    webhooks := state.webhooks.filter fun row => row.tenantID != id
    tokens := state.tokens.filter fun row => row.tenantID != id
    memberships := state.memberships.deleteWhere fun row => row.tenantID == id
    tenants := state.tenants.filter fun row => row.id != id }

/-- The version a connection's password is sealed under after `RewrapPasswords`: the new one,
unless there is nothing to seal or the old key is not known. -/
def rewrapped (ring : KeyRing Key) (id : String) : Nat :=
  match state.store.connections id with
  | none => state.sealedUnder id
  | some row =>
    if row.password == "" || "enc:".isPrefixOf row.password then state.sealedUnder id
    else if state.sealedUnder id == 0 || (ring.keys (state.sealedUnder id)).isSome then ring.current
    else state.sealedUnder id

/-- `Service.Rotate` and `RewrapPasswords`. -/
def rotate (ring : KeyRing Key) (key : Key) : ServerState World Key Rule :=
  let rotated := ring.addKey (ring.current + 1) key
  { state with
    keys := some rotated
    sealedUnder := fun id => state.rewrapped rotated id }

end ServerState

/-! ### What belongs to a tenant -/

end MqConnector
