/-
This file models the authenticated handlers of `internal/server`.

A handler is a function of its context: the server, what surrounds the request
(the clock, the errors of the database, the brokers' answers, the random ids),
the caller the middleware resolved and the state. Every call of a repository may
fail. A body that does not decode is an error in the place of the body. The text
of a page that only displays (`Page`) is a parameter's, which is given what the
handler has read (`PageItem`).
-/

import MqConnector.Alerts
import MqConnector.Database

namespace MqConnector

/-! ### Answers -/

/-- The tables by their names. -/
inductive Table
  | tenants | memberships | apiTokens | pipelineGrants | connections | pipelines | stages
  | transforms | routingRules | pipelineRevisions | scripts | schemas | webhooks | plugins | dlq
  | dlqRedaction | audit | auditDiffs
  deriving DecidableEq

/-- The calls of the repositories, each of which may fail. -/
inductive RepoCall
  | list (table : Table)
  | get (table : Table)
  | create (table : Table)
  | update (table : Table)
  | delete (table : Table)
  | replace (table : Table)
  | isSystemAdmin
  | markDeployed
  | rewrapPasswords
  | backup
  | integrityCheck
  deriving DecidableEq

/-- An entry of the metrics store, which knows a pipeline by its id and no tenant. The counters are written out. -/
structure MetricsRow where
  pipelineID : String
  status : String := ""
  lastError : String := ""
  sourceQueue : String := ""
  destQueue : String := ""
  counters : String := ""

/-- A name that the provider gave to the dead letters of a fingerprint. The cache is keyed by the fingerprint alone,
whichever tenant's rows the provider was shown. -/
structure ClusterName where
  fingerprint : String
  name : String

/-- The pages that only display, with what their text depends on beside the rows. -/
inductive Page
  | metrics
  | exportConfig (json : Bool)
  | events (interval : String)
  | leadership
  | testConnection (id override : String)
  | revisionDiff (id : String) (first second : Nat)
  | topology
  | activeAlerts
  | dlq (page perPage : Int)
  | dlqGroups (limit : Int)
  | dlqClusters (listed : List String)
  | dlqDiff (id against : String)
  | replaySim (id : String)
  | sample (body : Bytes)
  | preview (body : String)

/-- What the handler of a page has read. -/
inductive PageItem
  | connections (rows : String → Option Connection)
  | pipelines (rows : List Pipeline)
  | stages (rows : List StageRow)
  | transforms (rows : List Transform)
  | routingRules (rows : List RoutingRule)
  | revisions (rows : List PipelineRevision)
  | schemas (rows : List Schema)
  | scripts (rows : List Script)
  | deadLetters (rows : List HeldRow)
  | metrics (rows : List MetricsRow)
  | alerts (rows : List (Slo.FiringAlert String))
  | names (rows : List ClusterName)

/-- What a response carries. `echo` is the caller's own body sent back. An error of
`PipelineGrantsRepo.Get` comes under a prefix no other error has, hence its own case. -/
inductive Body (Rule : Type)
  | empty
  | error (message : String)
  | grantError (error : String)
  | status (text : String)
  | counted (text : String) (count : Nat)
  | switched (tenantID : String)
  | page (read : List PageItem) (text : String)
  | user (user : User)
  | secretsStatus (current : Option Nat)
  | rotated (previous current : Nat)
  | backup
  | profile (text : String)
  | operationalMetrics (metrics : List MetricsRow) (rows : List DLQRow) (keyVersion : Nat)
  | auditEntries (rows : List AuditEntry)
  | explanation (history : List AuditEntry) (read : List PageItem) (text : String)
  | chains (statuses : List (String × Bool))
  | auditDiff (diff : AuditDiff)
  | connections (rows : String → Option Connection)
  | connection (row : Connection)
  | pipelines (rows : List (Pipeline × Role))
  | pipeline (row : Pipeline)
  | stages (rows : List StageRow)
  | transforms (rows : List Transform)
  | routingRules (rows : List RoutingRule)
  | revisions (rows : List PipelineRevision) (total limit offset : Nat)
  | revision (row : PipelineRevision)
  | grants (rows : List PipelineGrant)
  | grant (row : PipelineGrant)
  | redactionRules (pipelineID : String) (rules : List Rule)
  | scripts (rows : List Script)
  | script (row : Script)
  | schemas (rows : List Schema)
  | schema (row : Schema)
  | webhooks (rows : List Webhook)
  | webhook (row : Webhook)
  | plugins (rows : List Plugin)
  | plugin (row : Plugin)
  | wasm (row : Plugin)
  | tokens (rows : List APIToken)
  | createdToken (token : APIToken) (secret : String)
  | tenants (rows : List (Tenant × Role × Bool))
  | tenant (row : Tenant)
  | members (rows : List Membership)
  | member (row : Membership)
  | payload (bytes : Bytes)
  | bulk (succeeded failed : Nat)
  | imported (connections pipelines : Nat) (dryRun : Bool)
  | echo (body : Body Rule)

/-- A status and a body. -/
structure Response (Rule : Type) where
  status : Nat
  body : Body Rule

/-- What a request leads to. -/
structure Outcome (World Key Rule : Type) where
  response : Response Rule
  state : ServerState World Key Rule

/-! ### The context of a handler -/

/-- What the middleware puts in the request's context. -/
structure Principal where
  user : User
  claim : TenantClaim
  deriving DecidableEq

/-- The parts of `server.Server` outside this file: the authentication, the dead-letter
service, the hash of a snapshot without its volatile ids, `dlq.ValidateRules` and the check of
one tenant's audit chain. -/
structure Server (World Document Key Rule : Type) where
  auth : AuthService
  dlq : DlqService World Document Key Rule
  snapshotHash : PipelineSnapshot → String
  validateRules : List Rule → Option String
  chainIntact : List AuditEntry → Bool

/-- What surrounds one request. `refusal` is the answer of the rate limiters or the CSRF check
when they stop it, `fails` the error of a repository call and `databaseError` the text of a
constraint that does not hold. `metrics` are the entries of the metrics store (for the event stream,
of all its frames), `alerts` the firing alerts with their values written out, and `clusterNames` the
cached names. `render` is the text of a page, and `explain` the engine of `internal/explain`, for
which `relevant` selects the audit rows of a subject. -/
structure Surroundings (Rule : Type) where
  now : Int := 0
  requestID : String := ""
  refusal : Option (Nat × String) := none
  lookupFails : Memberships.LookupStatement → Bool := fun _ => false
  fails : RepoCall → Option String := fun _ => none
  databaseError : String := "constraint failed"
  freshID : Nat → String := fun count => toString count
  secret : Except String String := .ok ""
  profile : String := ""
  metrics : List MetricsRow := []
  alerts : List (Slo.FiringAlert String) := []
  clusterNames : List ClusterName := []
  render : Page → List PageItem → Nat × String := fun _ _ => (200, "")
  relevant : String → String → AuditEntry → Bool := fun _ _ _ => true
  explain : String → String → List PageItem → List AuditEntry → Nat × String :=
    fun _ _ _ _ => (200, "")

/-- Everything a handler works with. -/
structure Context (World Document Key Rule : Type) where
  server : Server World Document Key Rule
  around : Surroundings Rule
  caller : Principal
  state : ServerState World Key Rule

namespace Context

variable {World Document Key Rule : Type} (context : Context World Document Key Rule)

/-- The tenant that the request acts in. -/
def tenantID : String :=
  context.caller.claim.tenantID

/-- The user of the request. -/
def subject : String :=
  context.caller.user.sub

/-- An answer that leaves the state as it is. -/
def answer (status : Nat) (body : Body Rule) : Outcome World Key Rule :=
  { response := ⟨status, body⟩, state := context.state }

/-- `writeError`. -/
def refuse (status : Nat) (message : String) : Outcome World Key Rule :=
  context.answer status (.error message)

/-- An answer after the state has changed. -/
def commit (after : ServerState World Key Rule) (status : Nat) (body : Body Rule) :
    Outcome World Key Rule :=
  { response := ⟨status, body⟩, state := after }

/-- The error of a call that is scoped to the caller's tenant. -/
def repoError (call : RepoCall) : Option String :=
  if context.tenantID == "" then some "storage: tenant_id is required"
  else context.around.fails call

/-- Go on after a scoped call, or answer its error. -/
def query (call : RepoCall) (next : Outcome World Key Rule) : Outcome World Key Rule :=
  match context.repoError call with
  | some error => context.refuse 500 error
  | none => next

/-- Go on after a call without a tenant, or answer its error. -/
def queryAll (call : RepoCall) (next : Outcome World Key Rule) : Outcome World Key Rule :=
  match context.around.fails call with
  | some error => context.refuse 500 error
  | none => next

/-- Go on with what was found, or answer 404. -/
def found {Row : Type} (row : Option Row) (message : String)
    (next : Row → Outcome World Key Rule) : Outcome World Key Rule :=
  match row with
  | some row => next row
  | none => context.refuse 404 message

/-- Go on with a decoded body, or answer 400. -/
def decoded {Value : Type} (body : Except String Value) (message : String → String)
    (next : Value → Outcome World Key Rule) : Outcome World Key Rule :=
  match body with
  | .ok value => next value
  | .error error => context.refuse 400 (message error)

/-- The page, made of what was read for it. -/
def present (page : Page) (read : List PageItem) : Outcome World Key Rule :=
  let (status, text) := context.around.render page read
  context.answer status (.page read text)

/-! ### Authorisation -/

/-- `isSystemAdmin`; a lookup that fails makes no admin. -/
def isSystemAdmin : Bool :=
  (context.around.fails .isSystemAdmin).isNone &&
    context.state.memberships.isSystemAdmin context.subject

/-- The membership `isMemberOf` and `isOwnerOf` look up. -/
def membership (tenantID : String) : Option Membership :=
  if (context.around.fails (.get .memberships)).isNone then
    context.state.memberships.get tenantID context.subject
  else none

/-- `isMemberOf`: a system admin, or a user with any row in the tenant. -/
def isMemberOf (tenantID : String) : Bool :=
  context.isSystemAdmin || (context.membership tenantID).isSome

/-- `isOwnerOf`: a system admin, or a user with an owner row in the tenant. -/
def isOwnerOf (tenantID : String) : Bool :=
  context.isSystemAdmin || (context.membership tenantID).any fun row => row.role == .owner

/-- The error of the grant lookup; without a subject there is no lookup. -/
def grantError : Option String :=
  if context.subject == "" then none else context.around.fails (.get .pipelineGrants)

/-- `Server.effectiveRoleForPipeline`: the tenant's role when the lookup fails. -/
def effectiveRole (pipelineID : String) : Role :=
  if context.subject == "" || context.grantError.isSome then context.caller.claim.role
  else
    PipelineGrant.effectiveRole context.state.grants pipelineID context.subject
      context.caller.claim.role

/-- The handler goes on for system admins only. -/
def requireSystemAdmin (next : Outcome World Key Rule) : Outcome World Key Rule :=
  if context.isSystemAdmin then next else context.refuse 403 "system-admin required"

/-- The gate of the tenant-management routes. -/
def requireOwner (tenantID : String) (next : Outcome World Key Rule) : Outcome World Key Rule :=
  if context.isOwnerOf tenantID then next else context.refuse 403 "owner required"

/-- The handler goes on if the role in the pipeline is enough. -/
def gatePipeline (pipelineID : String) (minRole : Role) (next : Outcome World Key Rule) :
    Outcome World Key Rule :=
  match context.grantError with
  | some error => context.answer 500 (.grantError error)
  | none =>
    if (context.effectiveRole pipelineID).atLeast minRole then next
    else context.refuse 403 "forbidden"

/-- `Service.RequireRole`, which asks the claim only. -/
def requireRole (role : Role) (next : Outcome World Key Rule) : Outcome World Key Rule :=
  if context.caller.claim.role.atLeast role then next else context.refuse 403 "forbidden"

/-- The handler goes on if the pipeline is the tenant's. -/
def ensurePipelineInTenant (pipelineID : String) (next : Outcome World Key Rule) :
    Outcome World Key Rule :=
  context.query (.get .pipelines) <|
    context.found (context.state.pipeline context.tenantID pipelineID) "not found" fun _ => next

/-! ### Scripts, schemas and webhooks -/

/-- What sets a kind of tenant-scoped row apart: where it is kept, which columns a create fills
in and an update writes, what a create requires, and its texts. -/
structure Resource (World Key Rule Row : Type) where
  table : Table
  rows : ServerState World Key Rule → List Row
  store : ServerState World Key Rule → List Row → ServerState World Key Rule
  remove : ServerState World Key Rule → String → String → ServerState World Key Rule
  create : Row → String → String → Row
  merge : Row → Row → Row
  incomplete : Row → Option String
  malformed : String → String
  one : Row → Body Rule
  many : List Row → Body Rule

section Resources

variable {Row : Type} [Owned Row String String] (resource : Resource World Key Rule Row)

/-- All rows of the tenant. -/
def listRows : Outcome World Key Rule :=
  context.query (.list resource.table) <|
    context.answer 200 (resource.many (Owned.list (resource.rows context.state) context.tenantID))

/-- One row of the tenant. -/
def getRow (id : String) : Outcome World Key Rule :=
  context.query (.get resource.table) <|
    context.found (Owned.get (resource.rows context.state) context.tenantID id) "not found"
      fun row => context.answer 200 (resource.one row)

/-- A row of the body is stored under the tenant. -/
def createRow (body : Except String Row) : Outcome World Key Rule :=
  context.decoded body resource.malformed fun row =>
    match resource.incomplete row with
    | some message => context.refuse 400 message
    | none =>
      let given : String := Owned.key row
      let id := if given == "" then context.around.freshID 0 else given
      let created := resource.create row id context.tenantID
      context.query (.create resource.table) <|
        if (resource.rows context.state).any fun other => (Owned.key other : String) == id then
          context.refuse 500 context.around.databaseError
        else
          commit (resource.store context.state (resource.rows context.state ++ [created]))
            201 (resource.one created)

/-- A row of the tenant is replaced by the body's. -/
def updateRow (id : String) (body : Except String Row) : Outcome World Key Rule :=
  context.decoded body resource.malformed fun row =>
    context.query (.update resource.table) <|
      context.found (Owned.get (resource.rows context.state) context.tenantID id) "not found"
        fun _ =>
          commit (resource.store context.state
            (Owned.update (resource.rows context.state) context.tenantID id (resource.merge row)))
            200 (.echo (resource.one row))

/-- A row of the tenant is deleted. -/
def deleteRow (id : String) : Outcome World Key Rule :=
  context.query (.delete resource.table) <|
    context.found (Owned.get (resource.rows context.state) context.tenantID id) "not found"
      fun _ =>
        commit (resource.remove context.state context.tenantID id) 200 (.status "deleted")

end Resources

/-- The rows of `handlers_scripts.go`, first half. -/
def scriptResource : Resource World Key Rule Script where
  table := .scripts
  rows state := state.scripts
  store state rows := { state with scripts := rows }
  remove state tenantID id := { state with scripts := Owned.delete state.scripts tenantID id }
  create row id tenantID := { row with id := id, tenantID := tenantID }
  merge row old :=
    { old with name := row.name, description := row.description, body := row.body, enabled := row.enabled }
  incomplete row := if row.name == "" then some "name is required" else none
  malformed _ := "invalid request body"
  one := .script
  many := .scripts

/-- The rows of `handlers_scripts.go`, second half. A schema type outside the CHECK of the table makes the statement
fail, which `fails` says. -/
def schemaResource : Resource World Key Rule Schema where
  table := .schemas
  rows state := state.schemas
  store state rows := { state with schemas := rows }
  remove state tenantID id := state.deleteSchema tenantID id
  create row id tenantID := { row with id := id, tenantID := tenantID }
  merge row old := { old with name := row.name, schemaType := row.schemaType, content := row.content }
  incomplete row := if row.name == "" then some "name is required" else none
  malformed _ := "invalid request body"
  one := .schema
  many := .schemas

/-- The rows of `handlers_webhooks.go`. -/
def webhookResource : Resource World Key Rule Webhook where
  table := .webhooks
  rows state := state.webhooks
  store state rows := { state with webhooks := rows }
  remove state tenantID id := { state with webhooks := Owned.delete state.webhooks tenantID id }
  create row id tenantID :=
    { row with
      id := id
      tenantID := tenantID
      events := if row.events == "" then "*" else row.events }
  merge row old :=
    { old with
      name := row.name
      url := row.url
      secret := row.secret
      events := row.events
      enabled := row.enabled }
  incomplete row :=
    if row.name == "" || row.url == "" || row.secret == "" then
      some "name, url, and secret are required"
    else none
  malformed error := "bad JSON: " ++ error
  one := .webhook
  many := .webhooks

def handleListScripts : Outcome World Key Rule := context.listRows scriptResource
def handleGetScript (id : String) : Outcome World Key Rule := context.getRow scriptResource id
def handleCreateScript (body : Except String Script) : Outcome World Key Rule :=
  context.createRow scriptResource body
def handleUpdateScript (id : String) (body : Except String Script) : Outcome World Key Rule :=
  context.updateRow scriptResource id body
def handleDeleteScript (id : String) : Outcome World Key Rule := context.deleteRow scriptResource id

def handleListSchemas : Outcome World Key Rule := context.listRows schemaResource
def handleGetSchema (id : String) : Outcome World Key Rule := context.getRow schemaResource id
def handleCreateSchema (body : Except String Schema) : Outcome World Key Rule :=
  context.createRow schemaResource body
def handleUpdateSchema (id : String) (body : Except String Schema) : Outcome World Key Rule :=
  context.updateRow schemaResource id body
def handleDeleteSchema (id : String) : Outcome World Key Rule := context.deleteRow schemaResource id

def handleListWebhooks : Outcome World Key Rule := context.listRows webhookResource
def handleCreateWebhook (body : Except String Webhook) : Outcome World Key Rule :=
  context.createRow webhookResource body
def handleUpdateWebhook (id : String) (body : Except String Webhook) : Outcome World Key Rule :=
  if id == "" then context.refuse 400 "missing id" else context.updateRow webhookResource id body
def handleDeleteWebhook (id : String) : Outcome World Key Rule :=
  if id == "" then context.refuse 400 "missing id" else context.deleteRow webhookResource id

/-! ### Connections and the bridge -/

/-- The connections of the tenant. -/
def handleListConnections : Outcome World Key Rule :=
  context.query (.list .connections) <|
    context.answer 200 (.connections (context.state.connection context.tenantID))

/-- One connection of the tenant. -/
def handleGetConnection (id : String) : Outcome World Key Rule :=
  context.query (.get .connections) <|
    context.found (context.state.connection context.tenantID id) "not found" fun row =>
      context.answer 200 (.connection row)

/-- `handleCreateConnection`. Where `parseType` takes a spelling that the CHECK of the table does not (`rabbit`, `Kafka`),
the INSERT fails; such a run is one in which `fails` answers for the creation. -/
def handleCreateConnection (body : Except String Connection) : Outcome World Key Rule :=
  context.decoded body (fun _ => "invalid request body") fun dto =>
    if dto.name == "" || dto.type == "" then context.refuse 400 "name and type are required"
    else if (parseType dto.type).isNone then context.refuse 400 "invalid type"
    else
      let id := if dto.id == "" then context.around.freshID 0 else dto.id
      let row := { dto with id := id, tenantID := context.tenantID }
      context.query (.create .connections) <|
        if (context.state.store.connections id).isSome then
          context.refuse 500 context.around.databaseError
        else commit (context.state.createConnection row) 201 (.connection row)

/-- `handleUpdateConnection`, with the CHECK of the type left to `fails` as in a creation. -/
def handleUpdateConnection (id : String) (body : Except String Connection) :
    Outcome World Key Rule :=
  context.decoded body (fun _ => "invalid request body") fun dto =>
    if dto.type != "" && (parseType dto.type).isNone then context.refuse 400 "invalid type"
    else
      let row := { dto with id := id, tenantID := context.tenantID }
      context.query (.update .connections) <|
        context.found (context.state.connection context.tenantID id) "not found" fun _ =>
          commit (context.state.updateConnection row) 200 (.echo (.connection row))

/-- A connection that a pipeline needs is kept by the foreign keys. -/
def handleDeleteConnection (id : String) : Outcome World Key Rule :=
  context.query (.delete .connections) <|
    context.found (context.state.connection context.tenantID id) "not found" fun _ =>
      if context.state.connectionNeeded id then
        context.refuse 500 context.around.databaseError
      else
        commit (context.state.write (.deleteConnection context.tenantID id)) 200
          (.status "deleted")

/-- What the broker answers a request of the bridge. -/
inductive BrokerAnswer
  | unreachable (error : String)
  | failed (error : String)
  | done (message : Bytes)
  deriving DecidableEq

/-- A message is published through a connection of the tenant. -/
def handleBridgePublish (id : String) (body : Bytes) (answer : BrokerAnswer) :
    Outcome World Key Rule :=
  context.query (.get .connections) <|
    context.found (context.state.connection context.tenantID id) "connection not found" fun _ =>
      if body.isEmpty then context.refuse 400 "empty body"
      else
        match answer with
        | .unreachable error => context.refuse 500 error
        | .failed error =>
          commit (context.state.emit (.published id body)) 500 (.error ("send: " ++ error))
        | .done _ =>
          commit (context.state.emit (.published id body)) 200
            (.counted "published" body.length)

/-- A message is taken from a connection of the tenant. -/
def handleBridgeConsume (id : String) (answer : BrokerAnswer) : Outcome World Key Rule :=
  context.query (.get .connections) <|
    context.found (context.state.connection context.tenantID id) "connection not found" fun _ =>
      match answer with
      | .unreachable error => context.refuse 500 error
      | .failed error => context.refuse 500 ("receive: " ++ error)
      | .done message => commit (context.state.emit (.consumed id)) 200 (.payload message)

end Context

end MqConnector
