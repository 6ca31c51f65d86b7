/-
This file asks what callers whose role is viewer can change.

Every route is of one of three kinds. It only reads; or it stands behind a gate
that a viewer without grants and without the system-admin flag does not pass; or
it writes behind no role check at all. For the last kind `ReachesWrite` says
when the write is reached.
-/

import MqConnector.Server
import MqConnector.Retries

namespace MqConnector

/-! ### What is to stay the same -/

/-- Nothing a viewer must leave alone differs: the configuration, the content, the dead-letter
rows, the memberships and the master keys; and nothing was reloaded, published or consumed. -/
structure Untouched {World Key Rule : Type} (first last : ServerState World Key Rule) : Prop where
  connections : last.store.connections = first.store.connections
  sealedUnder : last.sealedUnder = first.sealedUnder
  pipelines : last.store.pipelines = first.store.pipelines
  stages : last.store.stages = first.store.stages
  transforms : last.store.transforms = first.store.transforms
  routingRules : last.store.routingRules = first.store.routingRules
  scripts : last.scripts = first.scripts
  schemas : last.schemas = first.schemas
  webhooks : last.webhooks = first.webhooks
  plugins : last.plugins = first.plugins
  dlq : last.rows = first.rows
  memberships : last.memberships = first.memberships
  keys : last.keys = first.keys
  sent : last.log = first.log
  events : last.events = first.events

/-- Everything but the table of API tokens is the same. -/
def KeepsAllButTokens {World Key Rule : Type} (first last : ServerState World Key Rule) : Prop :=
  last = { first with tokens := last.tokens }

theorem KeepsAllButTokens.of_eq {World Key Rule : Type} {first last : ServerState World Key Rule}
    (same : last = first) : KeepsAllButTokens first last := by
  subst same
  rfl

theorem KeepsAllButTokens.trans {World Key Rule : Type}
    {first middle last : ServerState World Key Rule} (former : KeepsAllButTokens first middle)
    (latter : KeepsAllButTokens middle last) : KeepsAllButTokens first last := by
  unfold KeepsAllButTokens at former latter ⊢
  rw [latter, former]

theorem KeepsAllButTokens.untouched {World Key Rule : Type}
    {first last : ServerState World Key Rule} (kept : KeepsAllButTokens first last) :
    Untouched first last := by
  unfold KeepsAllButTokens at kept
  rw [kept]
  constructor <;> rfl

/-! ### The kinds of routes -/

/-- How a route is protected. -/
inductive Access
  | reads
  | gated
  | ungated
  deriving DecidableEq

/-- The kind of each route. The tenant routes behind `isOwnerOf` count as ungated here: they
ask for ownership of the tenant they name, not for the role the caller acts in. -/
def Route.access {World Key Rule : Type} : Route World Key Rule → Access
  | .logout | .me | .display _ | .metricsPrometheus | .listAudit _ | .verifyAudit _
  | .getAuditDiff _ | .secretsStatus | .adminBackup | .adminIntegrity | .pprof | .listPlugins
  | .getPlugin _ | .listTokens | .listWebhooks | .getTenant _ | .switchTenant _ | .listMembers _
  | .listConnections | .getConnection _ | .listPipelines | .getPipeline _ | .listStages _
  | .listTransforms _ | .listRoutingRules _ | .listRevisions _ _ _ | .getCurrentRevision _
  | .getRevision _ _ | .listPipelineGrants _ | .listDLQRedactionRules _ | .explain _ _
  | .replaySimDLQ _ | .getDLQRaw _ | .listScripts | .getScript _ | .listSchemas
  | .getSchema _ => .reads
  | .uploadPlugin _ | .deletePlugin _ | .importConfig _ _ _ | .createTenant _
  | .updatePipeline _ _ | .deletePipeline _ | .replaceStages _ _ | .replaceTransforms _ _
  | .replaceRoutingRules _ _ | .rollbackRevision _ _ _ | .deployRevision _ _
  | .setPipelineGrant _ _ _ | .deletePipelineGrant _ _ | .replaceDLQRedactionRules _ _
  | .bulkRetryDLQ _ | .bulkDeleteDLQ _ => .gated
  | _ => .ungated

namespace Context

variable {World Document Key Rule : Type} (context : Context World Document Key Rule)

/-- The caller's role is viewer, and neither a grant nor the system-admin flag raises it. -/
structure Viewer : Prop where
  role : context.caller.claim.role = .viewer
  ungranted : ∀ grant ∈ context.state.grants, grant.userSub ≠ context.subject
  ordinary : context.state.memberships.isSystemAdmin context.subject = false

/-! ### When an ungated write is reached -/

section Resources

variable {Row : Type} [Owned Row String String] (resource : Resource World Key Rule Row)

/-- A create request inserts its row. -/
def CreatesRow (body : Except String Row) : Prop :=
  ∃ row, body = .ok row ∧ resource.incomplete row = none ∧
    context.repoError (.create resource.table) = none ∧
    ∀ other ∈ resource.rows context.state, (Owned.key other : String) ≠
      if (Owned.key row : String) = "" then context.around.freshID 0 else Owned.key row

/-- An update request finds its row. -/
def UpdatesRow (id : String) (body : Except String Row) : Prop :=
  (∃ row, body = .ok row) ∧ context.repoError (.update resource.table) = none ∧
    ∃ old, Owned.get (resource.rows context.state) context.tenantID id = some old

/-- A delete request finds its row. -/
def DeletesRow (id : String) : Prop :=
  context.repoError (.delete resource.table) = none ∧
    ∃ old, Owned.get (resource.rows context.state) context.tenantID id = some old

end Resources

/-- A create request inserts its connection. -/
def CreatesConnection (body : Except String Connection) : Prop :=
  ∃ dto, body = .ok dto ∧ dto.name ≠ "" ∧ dto.type ≠ "" ∧ (parseType dto.type).isSome ∧
    context.repoError (.create .connections) = none ∧
    context.state.store.connections (if dto.id = "" then context.around.freshID 0 else dto.id) = none

/-- An update request finds its connection. -/
def UpdatesConnection (id : String) (body : Except String Connection) : Prop :=
  (∃ dto, body = .ok dto ∧ (dto.type = "" ∨ (parseType dto.type).isSome)) ∧
    context.repoError (.update .connections) = none ∧
    (context.state.connection context.tenantID id).isSome

/-- A delete request finds its connection, and nothing needs it. -/
def DeletesConnection (id : String) : Prop :=
  context.repoError (.delete .connections) = none ∧
    (context.state.connection context.tenantID id).isSome ∧
    context.state.connectionNeeded id = false

/-- A create request inserts its pipeline. -/
def CreatesPipeline (body : Except String Pipeline) : Prop :=
  ∃ given, body = .ok given ∧ given.name ≠ "" ∧ given.sourceID ≠ "" ∧ given.destinationID ≠ "" ∧
    validatePipelineTuning given = none ∧ context.repoError (.get .connections) = none ∧
    (context.state.connection context.tenantID given.sourceID).isSome ∧
    (context.state.connection context.tenantID given.destinationID).isSome ∧
    context.repoError (.create .pipelines) = none ∧
    ∀ other ∈ context.state.store.pipelines,
      other.id ≠ if given.id = "" then context.around.freshID 0 else given.id

def Replays (id : String) (body : Except String (Option Int × Option Int)) (answer : ReplayAnswer) :
    Prop :=
  context.repoError (.get .pipelines) = none ∧
    (context.state.pipeline context.tenantID id).isSome ∧
    (∃ since till, body = .ok (some since, some till) ∧ since < till ∧
      till - since ≤ 24 * 60 * 60 * 1000000000) ∧
    ∀ error, answer ≠ .notSupported error

def BridgeFinds (id : String) : Prop :=
  context.repoError (.get .connections) = none ∧
    (context.state.connection context.tenantID id).isSome

/-- The request reaches a write, a broker or the manager behind no check of the caller's
role. -/
def ReachesWrite : Route World Key Rule → Prop
  | .rotateSecrets drawn =>
    context.state.keys.isSome ∧ context.tenantID = defaultTenantID ∧ ∃ key, drawn = .ok key
  | .createWebhook body => context.CreatesRow webhookResource body
  | .updateWebhook id body => context.UpdatesRow webhookResource id body
  | .deleteWebhook id => context.DeletesRow webhookResource id
  | .listMyTenants => context.ownMemberships.2 ≠ context.state.memberships
  | .updateTenant id _ | .deleteTenant id _ | .upsertMember id _ | .deleteMember id _ =>
    context.isOwnerOf id
  | .createConnection body => context.CreatesConnection body
  | .updateConnection id body => context.UpdatesConnection id body
  | .deleteConnection id => context.DeletesConnection id
  | .createPipeline body => context.CreatesPipeline body
  | .reload _ => True
  | .replayPipeline id body answer => context.Replays id body answer
  | .retryDLQ id answers _ _ =>
    ∃ loaded, context.server.dlq.loadRetry context.state.toDlqState context.tenantID id answers =
      .ok loaded
  | .deleteDLQ id =>
    context.repoError (.delete .dlq) = none ∧ (context.state.get context.tenantID id).isSome
  | .createScript body => context.CreatesRow scriptResource body
  | .updateScript id body => context.UpdatesRow scriptResource id body
  | .deleteScript id => context.DeletesRow scriptResource id
  | .createSchema body => context.CreatesRow schemaResource body
  | .updateSchema id body => context.UpdatesRow schemaResource id body
  | .deleteSchema id => context.DeletesRow schemaResource id
  | .bridgePublish id body answer =>
    context.BridgeFinds id ∧ body ≠ [] ∧ ∀ error, answer ≠ .unreachable error
  | .bridgeConsume id answer => context.BridgeFinds id ∧ ∃ message, answer = .done message
  | _ => False

end Context

/-! ### Routes that only read -/

namespace Context

variable {World Document Key Rule : Type} {context : Context World Document Key Rule}

def Silent (context : Context World Document Key Rule) (outcome : Outcome World Key Rule) : Prop :=
  outcome.state = context.state

@[simp]
theorem silent_query (call : RepoCall) {next : Outcome World Key Rule}
    (silent : context.Silent next) : context.Silent (context.query call next) :=
  query_rule (fun _ _ _ => rfl) call fun _ => silent

@[simp]
theorem silent_queryAll (call : RepoCall) {next : Outcome World Key Rule}
    (silent : context.Silent next) : context.Silent (context.queryAll call next) :=
  queryAll_rule (fun _ _ _ => rfl) call fun _ => silent

@[simp]
theorem silent_found {Row : Type} (row : Option Row) (message : String)
    {next : Row → Outcome World Key Rule} (silent : ∀ value, context.Silent (next value)) :
    context.Silent (context.found row message next) :=
  found_rule (fun _ _ _ => rfl) row message fun value _ => silent value

@[simp]
theorem silent_ensurePipelineInTenant (pipelineID : String) {next : Outcome World Key Rule}
    (silent : context.Silent next) :
    context.Silent (context.ensurePipelineInTenant pipelineID next) :=
  ensurePipelineInTenant_rule (fun _ _ _ => rfl) pipelineID fun _ _ _ => silent

@[simp]
theorem silent_revisionNumber (number : Option Nat) {next : Nat → Outcome World Key Rule}
    (silent : ∀ number, context.Silent (next number)) :
    context.Silent (context.revisionNumber number next) :=
  revisionNumber_rule (fun _ _ _ => rfl) number silent

@[simp]
theorem silent_requireSystemAdmin {next : Outcome World Key Rule}
    (silent : context.Silent next) : context.Silent (context.requireSystemAdmin next) := by
  unfold requireSystemAdmin
  split
  · exact silent
  · rfl

@[simp]
theorem silent_requireOwner (tenantID : String) {next : Outcome World Key Rule}
    (silent : context.Silent next) : context.Silent (context.requireOwner tenantID next) := by
  unfold requireOwner
  split
  · exact silent
  · rfl

@[simp]
theorem silent_requireRole (role : Role) {next : Outcome World Key Rule}
    (silent : context.Silent next) : context.Silent (context.requireRole role next) := by
  unfold requireRole
  split
  · exact silent
  · rfl

@[simp]
theorem silent_gatePipeline (pipelineID : String) (role : Role) {next : Outcome World Key Rule}
    (silent : context.Silent next) :
    context.Silent (context.gatePipeline pipelineID role next) := by
  unfold gatePipeline
  split
  · rfl
  · split
    · exact silent
    · rfl

theorem silent_handleReplaySimDLQ (id : String) :
    context.Silent (context.handleReplaySimDLQ id) := by
  refine silent_query _ (silent_found _ _ fun held => ?_)
  dsimp only
  split
  · rfl
  · refine silent_gatePipeline _ _ (silent_query _ ?_)
    split
    · rfl
    · split <;> rfl

theorem silent_handleGetDLQRaw (id : String) : context.Silent (context.handleGetDLQRaw id) := by
  refine silent_requireRole _ (silent_query _ (silent_found _ _ fun held => ?_))
  split
  · rfl
  · split
    · rfl
    · split <;> rfl

theorem silent_of_reads (route : Route World Key Rule) (reads : route.access = .reads) :
    context.Silent (context.handle route) := by
  cases route with
  | logout | me | secretsStatus | metricsPrometheus => rfl
  | display page => exact display_rule (fun _ _ => rfl) page
  | listAudit | verifyAudit => exact silent_query _ rfl
  | getAuditDiff id =>
    show context.Silent (context.handleGetAuditDiff id)
    unfold handleGetAuditDiff
    split
    · rfl
    · exact silent_queryAll _ (silent_found _ _ fun _ => rfl)
  | adminBackup | adminIntegrity =>
    refine silent_requireSystemAdmin ?_
    split <;> rfl
  | pprof => exact silent_requireSystemAdmin rfl
  | listPlugins =>
    show context.Silent context.handleListPlugins
    unfold handleListPlugins
    split <;> rfl
  | getPlugin name =>
    exact silent_requireSystemAdmin (silent_query _ (silent_found _ _ fun _ => rfl))
  | getTenant id =>
    show context.Silent (context.handleGetTenant id)
    unfold handleGetTenant
    split
    · exact silent_queryAll _ (silent_found _ _ fun _ => rfl)
    · rfl
  | switchTenant id =>
    show context.Silent (context.handleSwitchTenant id)
    unfold handleSwitchTenant
    split <;> rfl
  | listMembers => exact silent_requireOwner _ (silent_queryAll _ rfl)
  | listTokens | listWebhooks | listConnections | listPipelines | listDLQRedactionRules
  | listScripts | listSchemas => exact silent_query _ rfl
  | getConnection | getPipeline | getScript | getSchema =>
    exact silent_query _ (silent_found _ _ fun _ => rfl)
  | listStages | listTransforms | listRoutingRules =>
    exact silent_ensurePipelineInTenant _ (silent_query _ rfl)
  | listRevisions => exact silent_ensurePipelineInTenant _ (silent_query _ rfl)
  | getCurrentRevision =>
    exact silent_ensurePipelineInTenant _ (silent_query _ (silent_found _ _ fun _ => rfl))
  | getRevision =>
    exact silent_ensurePipelineInTenant _ (silent_revisionNumber _ fun _ =>
      silent_query _ (silent_found _ _ fun _ => rfl))
  | listPipelineGrants =>
    exact silent_ensurePipelineInTenant _ (silent_gatePipeline _ _ (silent_queryAll _ rfl))
  | explain subject id =>
    show context.Silent (context.handleExplain subject id)
    unfold handleExplain
    split
    · rfl
    · split
      · rfl
      · split <;> rfl
  | replaySimDLQ id => exact silent_handleReplaySimDLQ id
  | getDLQRaw id => exact silent_handleGetDLQRaw id
  | _ => cases reads

/-! ### Gates that a viewer does not pass -/

theorem Viewer.isSystemAdmin (viewer : context.Viewer) : context.isSystemAdmin = false := by
  unfold Context.isSystemAdmin
  rw [viewer.ordinary, Bool.and_false]

theorem Viewer.effectiveRole (viewer : context.Viewer) (pipelineID : String) :
    context.effectiveRole pipelineID = .viewer := by
  have none : PipelineGrant.get context.state.grants pipelineID context.subject = none := by
    unfold PipelineGrant.get
    rw [List.find?_eq_none]
    intro grant member
    simp [viewer.ungranted grant member]
  unfold Context.effectiveRole PipelineGrant.effectiveRole
  rw [none, viewer.role, ite_self]

theorem Viewer.silent_requireSystemAdmin (viewer : context.Viewer)
    (next : Outcome World Key Rule) : context.Silent (context.requireSystemAdmin next) := by
  rw [requireSystemAdmin_of_not next viewer.isSystemAdmin]
  rfl

theorem Viewer.silent_requireRole (viewer : context.Viewer) (role : Role) (higher : 0 < role.rank)
    (next : Outcome World Key Rule) : context.Silent (context.requireRole role next) := by
  have lower : context.caller.claim.role.atLeast role = false := by
    rw [viewer.role]
    exact decide_eq_false (Nat.not_le.mpr higher)
  rw [requireRole_of_not role next lower]
  rfl

theorem Viewer.silent_gatePipeline (viewer : context.Viewer) (pipelineID : String) (role : Role)
    (higher : 0 < role.rank) (next : Outcome World Key Rule) :
    context.Silent (context.gatePipeline pipelineID role next) := by
  have lower : (context.effectiveRole pipelineID).atLeast role = false := by
    rw [viewer.effectiveRole]
    exact decide_eq_false (Nat.not_le.mpr higher)
  unfold gatePipeline
  split
  · rfl
  · rw [lower]
    rfl

theorem Viewer.silent_handleImportConfig (viewer : context.Viewer)
    (body : Except String ConfigBundle) (dryRun : Bool)
    (owned : (String → Option Connection) → String → Bool) :
    context.Silent (context.handleImportConfig body dryRun owned) := by
  unfold handleImportConfig
  rw [viewer.role]
  rfl

theorem Viewer.silent_of_gated (viewer : context.Viewer) (route : Route World Key Rule)
    (gated : route.access = .gated) : context.Silent (context.handle route) := by
  cases route with
  | uploadPlugin | deletePlugin | createTenant => exact viewer.silent_requireSystemAdmin _
  | importConfig body dryRun owned => exact viewer.silent_handleImportConfig body dryRun owned
  | updatePipeline | deletePipeline =>
    exact viewer.silent_gatePipeline _ _ (by decide) _
  | replaceStages | replaceTransforms | replaceRoutingRules | rollbackRevision | deployRevision
  | setPipelineGrant | deletePipelineGrant =>
    exact silent_ensurePipelineInTenant _ (viewer.silent_gatePipeline _ _ (by decide) _)
  | replaceDLQRedactionRules | bulkRetryDLQ | bulkDeleteDLQ =>
    exact viewer.silent_requireRole _ (by decide) _
  | _ => cases gated

/-! ### Ungated writes that are not reached -/

section Resources

variable {Row : Type} [Owned Row String String] {resource : Resource World Key Rule Row}

theorem silent_createRow {body : Except String Row}
    (unreached : ¬ context.CreatesRow resource body) :
    context.Silent (context.createRow resource body) := by
  refine decoded_rule (fun _ _ _ => rfl) _ _ fun row decoded => ?_
  dsimp only
  split
  · rfl
  · rename_i complete
    refine query_rule (fun _ _ _ => rfl) _ fun stored => ?_
    generalize chosen : (if (Owned.key row : String) == "" then context.around.freshID 0
      else Owned.key row) = id
    split
    · rfl
    · rename_i free
      refine absurd ⟨row, decoded, complete, stored, ?_⟩ unreached
      intro other member taken
      refine free (List.any_eq_true.mpr ⟨other, member, ?_⟩)
      simpa [← chosen] using taken

theorem silent_updateRow {id : String} {body : Except String Row}
    (unreached : ¬ context.UpdatesRow resource id body) :
    context.Silent (context.updateRow resource id body) := by
  refine decoded_rule (fun _ _ _ => rfl) _ _ fun row decoded => ?_
  refine query_rule (fun _ _ _ => rfl) _ fun stored => ?_
  refine found_rule (fun _ _ _ => rfl) _ _ fun old found => ?_
  exact absurd ⟨⟨row, decoded⟩, stored, old, found⟩ unreached

theorem silent_deleteRow {id : String} (unreached : ¬ context.DeletesRow resource id) :
    context.Silent (context.deleteRow resource id) := by
  refine query_rule (fun _ _ _ => rfl) _ fun stored => ?_
  refine found_rule (fun _ _ _ => rfl) _ _ fun old found => ?_
  exact absurd ⟨stored, old, found⟩ unreached

end Resources

theorem silent_handleCreateConnection {body : Except String Connection}
    (unreached : ¬ context.CreatesConnection body) :
    context.Silent (context.handleCreateConnection body) := by
  refine decoded_rule (fun _ _ _ => rfl) _ _ fun dto decoded => ?_
  dsimp only
  split
  · rfl
  · rename_i named
    split
    · rfl
    · rename_i known
      refine query_rule (fun _ _ _ => rfl) _ fun stored => ?_
      generalize chosen : (if dto.id == "" then context.around.freshID 0 else dto.id) = id
      split
      · rfl
      · rename_i free
        simp only [Bool.or_eq_true, beq_iff_eq, not_or] at named
        refine absurd ⟨dto, decoded, named.1, named.2, ?_, stored, ?_⟩ unreached
        · simpa [Option.isSome_iff_ne_none] using known
        · simpa [← chosen] using free

theorem silent_handleUpdateConnection {id : String} {body : Except String Connection}
    (unreached : ¬ context.UpdatesConnection id body) :
    context.Silent (context.handleUpdateConnection id body) := by
  refine decoded_rule (fun _ _ _ => rfl) _ _ fun dto decoded => ?_
  dsimp only
  split
  · rfl
  · rename_i known
    refine query_rule (fun _ _ _ => rfl) _ fun stored => ?_
    refine found_rule (fun _ _ _ => rfl) _ _ fun old found => ?_
    refine absurd ⟨⟨dto, decoded, ?_⟩, stored, by rw [found]; rfl⟩ unreached
    by_cases typed : dto.type = ""
    · exact Or.inl typed
    · exact Or.inr (by simpa [typed, Option.isSome_iff_ne_none] using known)

theorem silent_handleDeleteConnection {id : String} (unreached : ¬ context.DeletesConnection id) :
    context.Silent (context.handleDeleteConnection id) := by
  refine query_rule (fun _ _ _ => rfl) _ fun stored => ?_
  refine found_rule (fun _ _ _ => rfl) _ _ fun old found => ?_
  split
  · rfl
  · rename_i unneeded
    exact absurd ⟨stored, by rw [found]; rfl, by simpa using unneeded⟩ unreached

theorem silent_handleCreatePipeline {body : Except String Pipeline}
    (unreached : ¬ context.CreatesPipeline body) :
    context.Silent (context.handleCreatePipeline body) := by
  refine decoded_rule (fun _ _ _ => rfl) _ _ fun given decoded => ?_
  dsimp only
  split
  · rfl
  · rename_i named
    split
    · rfl
    · rename_i tuned
      split
      · rfl
      · rename_i source
        split
        · rfl
        · rename_i destination
          refine query_rule (fun _ _ _ => rfl) _ fun stored => ?_
          generalize chosen : (if given.id == "" then context.around.freshID 0 else given.id) = id
          split
          · rfl
          · rename_i free
            simp only [Bool.or_eq_true, beq_iff_eq, not_or] at named
            simp only [Bool.not_eq_true', Bool.not_eq_false, Bool.and_eq_true,
              Option.isNone_iff_eq_none] at source destination
            refine absurd ⟨given, decoded, named.1.1, named.1.2, named.2, tuned, source.1, source.2,
              destination.2, stored, ?_⟩ unreached
            intro other member taken
            refine free (List.any_eq_true.mpr ⟨other, member, ?_⟩)
            simpa [← chosen] using taken

theorem silent_handleReplayPipeline {id : String} {body : Except String (Option Int × Option Int)}
    {answer : ReplayAnswer} (unreached : ¬ context.Replays id body answer) :
    context.Silent (context.handleReplayPipeline id body answer) := by
  refine ensurePipelineInTenant_rule (fun _ _ _ => rfl) _ fun readable row found => ?_
  refine decoded_rule (fun _ _ _ => rfl) _ _ fun window decoded => ?_
  split
  · rename_i since till
    split
    · rfl
    · rename_i later
      split
      · rfl
      · rename_i short
        have reached : (∀ error, answer ≠ .notSupported error) → context.Replays id body answer :=
          fun supported => ⟨readable, by rw [found]; rfl, ⟨since, till, decoded, by omega, by omega⟩,
            supported⟩
        cases answer with
        | notSupported error => rfl
        | failed error => exact absurd (reached (by simp)) unreached
        | done sent => exact absurd (reached (by simp)) unreached
  · rfl

theorem silent_handleRetryDLQ {id : String} {answers : RetryAnswers} {world : World}
    {failure : Option String}
    (unreached : ¬ ∃ loaded, context.server.dlq.loadRetry context.state.toDlqState
      context.tenantID id answers = .ok loaded) :
    context.Silent (context.handleRetryDLQ id answers world failure) := by
  have same : (context.server.dlq.retry context.state.toDlqState context.tenantID id answers
      world).2 = context.state.toDlqState := by
    unfold DlqService.retry
    split
    · rfl
    · rename_i held pipeline loaded
      exact absurd ⟨_, loaded⟩ unreached
  unfold handleRetryDLQ Silent
  dsimp only
  rw [same]
  split
  · rfl
  · rfl
  · split <;> rfl

theorem silent_handleDeleteDLQ {id : String}
    (unreached : ¬ (context.repoError (.delete .dlq) = none ∧
      (context.state.get context.tenantID id).isSome)) :
    context.Silent (context.handleDeleteDLQ id) := by
  refine query_rule (fun _ _ _ => rfl) _ fun stored => ?_
  refine found_rule (fun _ _ _ => rfl) _ _ fun held found => ?_
  exact absurd ⟨stored, by rw [found]; rfl⟩ unreached

theorem silent_handleBridgePublish {id : String} {body : Bytes} {answer : BrokerAnswer}
    (unreached : ¬ (context.BridgeFinds id ∧ body ≠ [] ∧ ∀ error, answer ≠ .unreachable error)) :
    context.Silent (context.handleBridgePublish id body answer) := by
  refine query_rule (fun _ _ _ => rfl) _ fun stored => ?_
  refine found_rule (fun _ _ _ => rfl) _ _ fun row found => ?_
  have finds : context.BridgeFinds id := ⟨stored, by rw [found]; rfl⟩
  split
  · rfl
  · rename_i nonempty
    rw [List.isEmpty_iff] at nonempty
    cases answer with
    | unreachable error => rfl
    | failed error => exact absurd ⟨finds, nonempty, by simp⟩ unreached
    | done message => exact absurd ⟨finds, nonempty, by simp⟩ unreached

theorem silent_handleBridgeConsume {id : String} {answer : BrokerAnswer}
    (unreached : ¬ (context.BridgeFinds id ∧ ∃ message, answer = .done message)) :
    context.Silent (context.handleBridgeConsume id answer) := by
  refine query_rule (fun _ _ _ => rfl) _ fun stored => ?_
  refine found_rule (fun _ _ _ => rfl) _ _ fun row found => ?_
  cases answer with
  | unreachable error => rfl
  | failed error => rfl
  | done message => exact absurd ⟨⟨stored, by rw [found]; rfl⟩, message, rfl⟩ unreached

theorem silent_handleRotateSecrets {drawn : Except String Key}
    (unreached : ¬ (context.state.keys.isSome ∧ context.tenantID = defaultTenantID ∧
      ∃ key, drawn = .ok key)) :
    context.Silent (context.handleRotateSecrets drawn) := by
  unfold handleRotateSecrets
  split
  · rfl
  · rename_i ring held
    split
    · rfl
    · rename_i default
      split
      · rfl
      · rename_i key
        refine absurd ⟨by rw [held]; rfl, ?_, key, rfl⟩ unreached
        simpa using default

theorem silent_handleListMyTenants
    (unadopted : context.ownMemberships.2 = context.state.memberships) :
    context.Silent context.handleListMyTenants := by
  unfold handleListMyTenants Silent
  dsimp only
  rw [unadopted]
  split <;> rfl

theorem silent_requireOwner_of_not {tenantID : String} (next : Outcome World Key Rule)
    (unowned : ¬ context.isOwnerOf tenantID = true) :
    context.Silent (context.requireOwner tenantID next) := by
  rw [requireOwner_of_not tenantID next (by simpa using unowned)]
  rfl

/-- The outcome leaves everything but the tokens as it is. -/
def Keeps (context : Context World Document Key Rule) (outcome : Outcome World Key Rule) : Prop :=
  KeepsAllButTokens context.state outcome.state

theorem Silent.keeps {outcome : Outcome World Key Rule} (silent : context.Silent outcome) :
    context.Keeps outcome :=
  .of_eq silent

theorem keeps_handleCreateToken (body : Except String CreateTokenRequest) :
    context.Keeps (context.handleCreateToken body) := by
  unfold handleCreateToken
  split
  · rfl
  · refine decoded_rule (fun _ _ _ => rfl) _ _ fun given _ => ?_
    dsimp only
    split
    · rfl
    · split
      · rfl
      · refine decoded_rule (fun _ _ _ => rfl) _ _ fun expiresAt _ => ?_
        split
        · rfl
        · rfl
        · refine query_rule (fun _ _ _ => rfl) _ fun _ => ?_
          split <;> rfl

theorem keeps_handleRevokeToken (id : String) : context.Keeps (context.handleRevokeToken id) := by
  unfold handleRevokeToken
  split
  · rfl
  · exact query_rule (fun _ _ _ => rfl) _ fun _ => rfl

theorem keeps_of_ungated (route : Route World Key Rule) (ungated : route.access = .ungated)
    (unreached : ¬ context.ReachesWrite route) :
    context.Keeps (context.handle route) := by
  cases route with
  | createToken body => exact keeps_handleCreateToken body
  | revokeToken id => exact keeps_handleRevokeToken id
  | rotateSecrets => exact Silent.keeps (silent_handleRotateSecrets unreached)
  | createWebhook | createScript | createSchema => exact Silent.keeps (silent_createRow unreached)
  | updateScript | updateSchema => exact Silent.keeps (silent_updateRow unreached)
  | deleteScript | deleteSchema => exact Silent.keeps (silent_deleteRow unreached)
  | updateWebhook id body =>
    show context.Keeps (context.handleUpdateWebhook id body)
    unfold handleUpdateWebhook
    split
    · rfl
    · exact Silent.keeps (silent_updateRow unreached)
  | deleteWebhook id =>
    show context.Keeps (context.handleDeleteWebhook id)
    unfold handleDeleteWebhook
    split
    · rfl
    · exact Silent.keeps (silent_deleteRow unreached)
  | listMyTenants => exact Silent.keeps (silent_handleListMyTenants (not_not.mp unreached))
  | updateTenant | upsertMember | deleteMember =>
    exact Silent.keeps (silent_requireOwner_of_not _ unreached)
  | deleteTenant id cascade =>
    show context.Keeps (context.handleDeleteTenant id cascade)
    unfold handleDeleteTenant
    split
    · rfl
    · exact Silent.keeps (silent_requireOwner_of_not _ unreached)
  | createConnection => exact Silent.keeps (silent_handleCreateConnection unreached)
  | updateConnection => exact Silent.keeps (silent_handleUpdateConnection unreached)
  | deleteConnection => exact Silent.keeps (silent_handleDeleteConnection unreached)
  | createPipeline => exact Silent.keeps (silent_handleCreatePipeline unreached)
  | reload => exact absurd trivial unreached
  | replayPipeline => exact Silent.keeps (silent_handleReplayPipeline unreached)
  | retryDLQ => exact Silent.keeps (silent_handleRetryDLQ unreached)
  | deleteDLQ => exact Silent.keeps (silent_handleDeleteDLQ unreached)
  | bridgePublish => exact Silent.keeps (silent_handleBridgePublish unreached)
  | bridgeConsume => exact Silent.keeps (silent_handleBridgeConsume unreached)
  | _ => cases ungated

theorem Viewer.keeps (viewer : context.Viewer) (route : Route World Key Rule)
    (unreached : ¬ context.ReachesWrite route) :
    context.Keeps (context.handle route) := by
  rcases access : route.access with _ | _ | _
  · exact Silent.keeps (silent_of_reads route access)
  · exact Silent.keeps (viewer.silent_of_gated route access)
  · exact keeps_of_ungated route access unreached

end Context

/-! ### Runs of viewers -/

namespace Server

variable {World Document Key Rule : Type} (server : Server World Document Key Rule)

/-- Whoever the middleware passes the request on for is a viewer. -/
def ByViewer (state : ServerState World Key Rule) (request : HttpRequest World Key Rule) : Prop :=
  ∀ user claim, (server.session state request).1 = .passed user claim →
    (server.context state request user claim).Viewer

/-- The session lookup adopts no membership, and the request reaches no write that stands behind
no role check. -/
def BehindGates (state : ServerState World Key Rule) (request : HttpRequest World Key Rule) :
    Prop :=
  (server.session state request).2 = state.memberships ∧
    ∀ user claim, (server.session state request).1 = .passed user claim →
      request.around.refusal = none →
        ¬ (server.context state request user claim).ReachesWrite request.route

variable {server}

/-- Behind the gates a viewer changes nothing but tokens. -/
theorem serve_keeps {state : ServerState World Key Rule} {request : HttpRequest World Key Rule}
    (viewer : server.ByViewer state request) (gates : server.BehindGates state request) :
    KeepsAllButTokens state (server.serve state request).state := by
  obtain ⟨unadopted, unreached⟩ := gates
  have start : { state with memberships := (server.session state request).2 } = state := by
    rw [unadopted]
  unfold serve
  split
  · exact .of_eq start
  · rename_i user claim passed
    have kept : KeepsAllButTokens (server.context state request user claim).state
        (passOn (server.context state request user claim) request.route).state := by
      unfold passOn
      split
      · rfl
      · rename_i unrefused
        exact (viewer user claim passed).keeps request.route (unreached user claim passed unrefused)
    exact (KeepsAllButTokens.of_eq start).trans kept

/-- Along every run of requests by viewers that each stay behind the gates, nothing a viewer
must leave alone changes. -/
theorem viewers_change_nothing (server : Server World Document Key Rule)
    (first last : ServerState World Key Rule)
    (run : Runs.Reaches server.step
      (fun state request => server.ByViewer state request ∧ server.BehindGates state request)
      first last) : Untouched first last := by
  refine KeepsAllButTokens.untouched (run.invariant (KeepsAllButTokens first) (.of_eq rfl) ?_)
  rintro state request after kept ⟨viewer, gates⟩ fired
  obtain rfl := Option.some.inj fired
  exact kept.trans (serve_keeps viewer gates)

/-- A server whose session tokens are the names of their users. -/
def officeServer : Server Unit Unit Unit Unit where
  auth := AuthService.plainService
  dlq := DlqService.gateService
  snapshotHash _ := ""
  validateRules _ := none
  chainIntact _ := true

/-- One tenant with a pipeline, whose only member is a viewer. -/
def office : ServerState Unit Unit Unit where
  store := DlqService.gateStore []
  rules _ := []
  keys := none
  tenants := [{ id := "t", slug := "office", name := "Office" }]
  memberships :=
    { rows := [⟨"t", "eve", "eve", .viewer, false⟩]
      keysNodup := by decide }

theorem office_session (request : HttpRequest Unit Unit Unit)
    (signedIn : request.credentials = { session := some "eve" })
    (plain : request.around = {}) :
    officeServer.session office request =
      (.passed ⟨"eve", "eve", ""⟩ ⟨"t", .viewer⟩, office.memberships) := by
  unfold session
  rw [signedIn, plain]
  rfl

theorem office_byViewer (request : HttpRequest Unit Unit Unit)
    (signedIn : request.credentials = { session := some "eve" })
    (plain : request.around = {}) : officeServer.ByViewer office request := by
  intro user claim passed
  rw [office_session request signedIn plain] at passed
  obtain ⟨rfl, rfl⟩ := SessionResult.passed.inj passed
  refine ⟨rfl, fun grant member => absurd member List.not_mem_nil, ?_⟩
  show (officeServer.session office request).2.isSystemAdmin "eve" = false
  rw [office_session request signedIn plain]
  decide

/-- A viewer who mints a token for himself has changed nothing else. -/
theorem minting_viewer_changes_nothing :
    Untouched office (officeServer.serve office
      { credentials := { session := some "eve" }
        route := .createToken (.ok { name := "ci" }) }).state := by
  refine viewers_change_nothing officeServer office _ (.next .start ⟨?_, ?_, ?_⟩ rfl)
  · exact office_byViewer _ rfl rfl
  · rw [office_session _ rfl rfl]
  · intro user claim passed _ reached
    exact reached

/-- A token of a viewer creates a connection. -/
theorem viewer_creates_connection :
    ∃ last, Runs.Reaches officeServer.step officeServer.ByViewer office last ∧
      ¬ Untouched office last := by
  let request : HttpRequest Unit Unit Unit :=
    { credentials := { session := some "eve" }
      route := .createConnection (.ok { id := "c", tenantID := "", name := "rogue", type := "kafka" }) }
  refine ⟨_, .next .start (office_byViewer request rfl rfl) rfl, fun untouched => ?_⟩
  have created : ((officeServer.serve office request).state.store.connections "c").isSome = true := by
    decide
  rw [untouched.connections] at created
  exact absurd created (by decide)

end Server

end MqConnector
