/-
This file is the authenticated part of the route table of `routes.go`: every
request a client can make there, the handler it reaches, and the middleware in
front of the handlers.

A request carries its credentials and what surrounds it; a route carries the
path parameters and the decoded body, and where a handler talks to a broker or
draws a key, the answer it gets.
-/

import MqConnector.AdminHandlers
import MqConnector.DisplayHandlers

namespace MqConnector

/-! ### The route table -/

/-- The routes behind `RequireSession`, in the order of the table. -/
inductive Route (World Key Rule : Type)
  | logout
  | me
  | display (page : PageRequest)
  | metricsPrometheus
  | listAudit (selects : AuditEntry → Bool)
  | verifyAudit (scopeAll : Bool)
  | getAuditDiff (id : String)
  | secretsStatus
  | rotateSecrets (drawn : Except String Key)
  | adminBackup
  | adminIntegrity
  | pprof
  | listPlugins
  | uploadPlugin (form : Except String Context.PluginForm)
  | getPlugin (name : String)
  | deletePlugin (name : String)
  | listTokens
  | createToken (body : Except String Context.CreateTokenRequest)
  | revokeToken (id : String)
  | listWebhooks
  | createWebhook (body : Except String Webhook)
  | updateWebhook (id : String) (body : Except String Webhook)
  | deleteWebhook (id : String)
  | importConfig (body : Except String Context.ConfigBundle) (dryRun : Bool)
      (owned : (String → Option Connection) → String → Bool)
  | listMyTenants
  | createTenant (body : Except String Tenant)
  | getTenant (id : String)
  | updateTenant (id : String) (body : Except String Tenant)
  | deleteTenant (id : String) (cascade : Bool)
  | switchTenant (id : String)
  | listMembers (id : String)
  | upsertMember (id : String) (body : Except String Context.MemberDTO)
  | deleteMember (id userSub : String)
  | listConnections
  | createConnection (body : Except String Connection)
  | getConnection (id : String)
  | updateConnection (id : String) (body : Except String Connection)
  | deleteConnection (id : String)
  | listPipelines
  | createPipeline (body : Except String Pipeline)
  | getPipeline (id : String)
  | updatePipeline (id : String) (body : Except String Pipeline)
  | deletePipeline (id : String)
  | listStages (id : String)
  | replaceStages (id : String) (body : Except String (List StageRow))
  | listTransforms (id : String)
  | replaceTransforms (id : String) (body : Except String (List Transform))
  | listRoutingRules (id : String)
  | replaceRoutingRules (id : String) (body : Except String (List RoutingRule))
  | listRevisions (id : String) (limit offset : Int)
  | getCurrentRevision (id : String)
  | getRevision (id : String) (number : Option Nat)
  | rollbackRevision (id : String) (number : Option Nat) (body : Except String String)
  | deployRevision (id : String) (body : Except String Context.DeployRequest)
  | listPipelineGrants (id : String)
  | setPipelineGrant (id userSub : String) (body : Except String (Option Role))
  | deletePipelineGrant (id userSub : String)
  | listDLQRedactionRules (id : String)
  | replaceDLQRedactionRules (id : String) (body : Except String (List Rule))
  | reload (answer : Except String Nat)
  | replayPipeline (id : String) (body : Except String (Option Int × Option Int))
      (answer : Context.ReplayAnswer)
  | explain (subject id : String)
  | retryDLQ (id : String) (answers : RetryAnswers) (world : World) (failure : Option String)
  | replaySimDLQ (id : String)
  | deleteDLQ (id : String)
  | getDLQRaw (id : String)
  | bulkRetryDLQ (items : List (Context.BulkItem World))
  | bulkDeleteDLQ (ids : List String)
  | listScripts
  | createScript (body : Except String Script)
  | getScript (id : String)
  | updateScript (id : String) (body : Except String Script)
  | deleteScript (id : String)
  | listSchemas
  | createSchema (body : Except String Schema)
  | getSchema (id : String)
  | updateSchema (id : String) (body : Except String Schema)
  | deleteSchema (id : String)
  | bridgePublish (id : String) (body : Bytes) (answer : Context.BrokerAnswer)
  | bridgeConsume (id : String) (answer : Context.BrokerAnswer)

def Context.handle {World Document Key Rule : Type} (context : Context World Document Key Rule) :
    Route World Key Rule → Outcome World Key Rule
  | .logout => context.handleLogout
  | .me => context.handleMe
  | .display page => context.display page
  | .metricsPrometheus => context.handleMetricsPrometheus
  | .listAudit selects => context.handleListAudit selects
  | .verifyAudit scopeAll => context.handleVerifyAudit scopeAll
  | .getAuditDiff id => context.handleGetAuditDiff id
  | .secretsStatus => context.handleSecretsStatus
  | .rotateSecrets drawn => context.handleRotateSecrets drawn
  | .adminBackup => context.handleAdminBackup
  | .adminIntegrity => context.handleAdminIntegrity
  | .pprof => context.handlePprof
  | .listPlugins => context.handleListPlugins
  | .uploadPlugin form => context.handleUploadPlugin form
  | .getPlugin name => context.handleGetPlugin name
  | .deletePlugin name => context.handleDeletePlugin name
  | .listTokens => context.handleListTokens
  | .createToken body => context.handleCreateToken body
  | .revokeToken id => context.handleRevokeToken id
  | .listWebhooks => context.handleListWebhooks
  | .createWebhook body => context.handleCreateWebhook body
  | .updateWebhook id body => context.handleUpdateWebhook id body
  | .deleteWebhook id => context.handleDeleteWebhook id
  | .importConfig body dryRun owned => context.handleImportConfig body dryRun owned
  | .listMyTenants => context.handleListMyTenants
  | .createTenant body => context.handleCreateTenant body
  | .getTenant id => context.handleGetTenant id
  | .updateTenant id body => context.handleUpdateTenant id body
  | .deleteTenant id cascade => context.handleDeleteTenant id cascade
  | .switchTenant id => context.handleSwitchTenant id
  | .listMembers id => context.handleListMembers id
  | .upsertMember id body => context.handleUpsertMember id body
  | .deleteMember id userSub => context.handleDeleteMember id userSub
  | .listConnections => context.handleListConnections
  | .createConnection body => context.handleCreateConnection body
  | .getConnection id => context.handleGetConnection id
  | .updateConnection id body => context.handleUpdateConnection id body
  | .deleteConnection id => context.handleDeleteConnection id
  | .listPipelines => context.handleListPipelines
  | .createPipeline body => context.handleCreatePipeline body
  | .getPipeline id => context.handleGetPipeline id
  | .updatePipeline id body => context.handleUpdatePipeline id body
  | .deletePipeline id => context.handleDeletePipeline id
  | .listStages id => context.handleListStages id
  | .replaceStages id body => context.handleReplaceStages id body
  | .listTransforms id => context.handleListTransforms id
  | .replaceTransforms id body => context.handleReplaceTransforms id body
  | .listRoutingRules id => context.handleListRoutingRules id
  | .replaceRoutingRules id body => context.handleReplaceRoutingRules id body
  | .listRevisions id limit offset => context.handleListRevisions id limit offset
  | .getCurrentRevision id => context.handleGetCurrentRevision id
  | .getRevision id number => context.handleGetRevision id number
  | .rollbackRevision id number body => context.handleRollbackRevision id number body
  | .deployRevision id body => context.handleDeployRevision id body
  | .listPipelineGrants id => context.handleListPipelineGrants id
  | .setPipelineGrant id userSub body => context.handleSetPipelineGrant id userSub body
  | .deletePipelineGrant id userSub => context.handleDeletePipelineGrant id userSub
  | .listDLQRedactionRules id => context.handleListDLQRedactionRules id
  | .replaceDLQRedactionRules id body => context.handleReplaceDLQRedactionRules id body
  | .reload answer => context.handleReload answer
  | .replayPipeline id body answer => context.handleReplayPipeline id body answer
  | .explain subject id => context.handleExplain subject id
  | .retryDLQ id answers world failure => context.handleRetryDLQ id answers world failure
  | .replaySimDLQ id => context.handleReplaySimDLQ id
  | .deleteDLQ id => context.handleDeleteDLQ id
  | .getDLQRaw id => context.handleGetDLQRaw id
  | .bulkRetryDLQ items => context.handleBulkRetryDLQ items
  | .bulkDeleteDLQ ids => context.handleBulkDeleteDLQ ids
  | .listScripts => context.handleListScripts
  | .createScript body => context.handleCreateScript body
  | .getScript id => context.handleGetScript id
  | .updateScript id body => context.handleUpdateScript id body
  | .deleteScript id => context.handleDeleteScript id
  | .listSchemas => context.handleListSchemas
  | .createSchema body => context.handleCreateSchema body
  | .getSchema id => context.handleGetSchema id
  | .updateSchema id body => context.handleUpdateSchema id body
  | .deleteSchema id => context.handleDeleteSchema id
  | .bridgePublish id body answer => context.handleBridgePublish id body answer
  | .bridgeConsume id answer => context.handleBridgeConsume id answer

/-! ### The middleware -/

/-- A request: its credentials, what surrounds it and where it goes. -/
structure HttpRequest (World Key Rule : Type) where
  credentials : Credentials
  around : Surroundings Rule := {}
  route : Route World Key Rule

namespace Server

variable {World Document Key Rule : Type} (server : Server World Document Key Rule)

/-- `RequireSession` on a request, with the membership table it leaves. -/
def session (state : ServerState World Key Rule) (request : HttpRequest World Key Rule) :
    SessionResult × Memberships :=
  server.auth.requireSession request.around.lookupFails request.around.now state.authTables
    request.credentials

/-- The context of the handlers behind a session that was passed on. -/
def context (state : ServerState World Key Rule) (request : HttpRequest World Key Rule)
    (user : User) (claim : TenantClaim) : Context World Document Key Rule where
  server := server
  around := request.around
  caller := ⟨user, claim⟩
  state := { state with memberships := (server.session state request).2 }

/-- The rate limiters and the CSRF check, then the handler. -/
def passOn (context : Context World Document Key Rule) (route : Route World Key Rule) :
    Outcome World Key Rule :=
  match context.around.refusal with
  | some (status, message) => context.refuse status message
  | none => context.handle route

def serve (state : ServerState World Key Rule) (request : HttpRequest World Key Rule) :
    Outcome World Key Rule :=
  match (server.session state request).1 with
  | .unauthorized =>
    { response := ⟨401, .error "unauthorized"⟩
      state := { state with memberships := (server.session state request).2 } }
  | .passed user claim => passOn (server.context state request user claim) request.route

def step (state : ServerState World Key Rule) (request : HttpRequest World Key Rule) :
    Option (ServerState World Key Rule) :=
  some (server.serve state request).state

end Server

/-! ### Walking through a handler -/

namespace Context

variable {World Document Key Rule : Type} {context : Context World Document Key Rule}

section Rules

variable {holds : Outcome World Key Rule → Prop}
  (refused : ∀ status message, status ≠ 403 → holds (context.refuse status message))

include refused

theorem query_rule (call : RepoCall) {next : Outcome World Key Rule}
    (goesOn : context.repoError call = none → holds next) : holds (context.query call next) := by
  unfold query
  split
  · exact refused _ _ (by decide)
  · rename_i passed
    exact goesOn passed

theorem queryAll_rule (call : RepoCall) {next : Outcome World Key Rule}
    (goesOn : context.around.fails call = none → holds next) :
    holds (context.queryAll call next) := by
  unfold queryAll
  split
  · exact refused _ _ (by decide)
  · rename_i passed
    exact goesOn passed

theorem found_rule {Row : Type} (row : Option Row) (message : String)
    {next : Row → Outcome World Key Rule} (goesOn : ∀ value, row = some value → holds (next value)) :
    holds (context.found row message next) := by
  unfold found
  split
  · exact goesOn _ rfl
  · exact refused _ _ (by decide)

theorem decoded_rule {Value : Type} (body : Except String Value) (message : String → String)
    {next : Value → Outcome World Key Rule}
    (goesOn : ∀ value, body = .ok value → holds (next value)) :
    holds (context.decoded body message next) := by
  unfold decoded
  split
  · exact goesOn _ rfl
  · exact refused _ _ (by decide)

theorem ensurePipelineInTenant_rule (pipelineID : String) {next : Outcome World Key Rule}
    (goesOn : context.repoError (.get .pipelines) = none →
      ∀ row, context.state.pipeline context.tenantID pipelineID = some row → holds next) :
    holds (context.ensurePipelineInTenant pipelineID next) :=
  query_rule refused _ fun readable => found_rule refused _ _ fun row found =>
    goesOn readable row found

theorem revisionNumber_rule (number : Option Nat) {next : Nat → Outcome World Key Rule}
    (goesOn : ∀ number, holds (next number)) : holds (context.revisionNumber number next) := by
  unfold revisionNumber
  split
  · exact goesOn _
  · exact refused _ _ (by decide)

end Rules

/-- A page is an answer, whatever it reads. -/
theorem display_rule {holds : Outcome World Key Rule → Prop}
    (answered : ∀ status body, holds (context.answer status body)) (page : PageRequest) :
    holds (context.display page) := by
  have refused : ∀ status message, status ≠ 403 → holds (context.refuse status message) := fun _ _ _ => answered _ _
  cases page with
  | metrics | events | leadership | activeAlerts | extractSample => exact answered _ _
  | exportConfig | topology => exact query_rule refused _ fun _ => query_rule refused _ fun _ => answered _ _
  | testConnection => exact query_rule refused _ fun _ => found_rule refused _ _ fun _ _ => answered _ _
  | listDLQ | groupDLQ | listDLQClusters => exact query_rule refused _ fun _ => answered _ _
  | diffRevisions id revision against =>
    refine ensurePipelineInTenant_rule refused _ fun _ _ _ => revisionNumber_rule refused _ fun _ => ?_
    cases against with
    | none => exact answered _ _
    | some against =>
      refine revisionNumber_rule refused _ fun _ => query_rule refused _ fun _ => ?_
      refine found_rule refused _ _ fun _ _ => found_rule refused _ _ fun _ _ => ?_
      split <;> exact answered _ _
  | diffDLQ id against =>
    show holds (context.handleDiffDLQ id against)
    unfold handleDiffDLQ
    split
    · exact answered _ _
    · exact query_rule refused _ fun _ => found_rule refused _ _ fun _ _ => found_rule refused _ _ fun _ _ => answered _ _
  | preview body =>
    refine decoded_rule refused _ _ fun _ _ => ?_
    dsimp only
    split
    · exact answered _ _
    · split
      · exact answered _ _
      · exact query_rule refused _ fun _ => found_rule refused _ _ fun _ _ => answered _ _

/-! ### The gates -/

theorem requireSystemAdmin_of_not (next : Outcome World Key Rule)
    (ordinary : context.isSystemAdmin = false) :
    context.requireSystemAdmin next = context.refuse 403 "system-admin required" := by
  unfold requireSystemAdmin
  rw [ordinary]
  rfl

theorem requireOwner_of_not (tenantID : String) (next : Outcome World Key Rule)
    (ordinary : context.isOwnerOf tenantID = false) :
    context.requireOwner tenantID next = context.refuse 403 "owner required" := by
  unfold requireOwner
  rw [ordinary]
  rfl

theorem requireRole_of_not (role : Role) (next : Outcome World Key Rule)
    (lower : context.caller.claim.role.atLeast role = false) :
    context.requireRole role next = context.refuse 403 "forbidden" := by
  unfold requireRole
  rw [lower]
  rfl

end Context

end MqConnector
