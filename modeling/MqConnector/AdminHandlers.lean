/-
This file models the handlers that manage the deployment itself: the session
(`handlers_auth.go`), API tokens, WASM plugins, tenants with their members, the
audit log, the master keys, backup, integrity check, profiling and metrics.

It is here that rights are looked up under the caller's subject: system-admin
and owner checks read the membership table, whatever tenant and role the request
was authenticated for.
-/

import MqConnector.PipelineHandlers

namespace MqConnector

namespace Context

variable {World Document Key Rule : Type} (context : Context World Document Key Rule)

/-! ### The session -/

/-- A logout only says so: the session is the cookie's. -/
def handleLogout : Outcome World Key Rule :=
  context.answer 200 (.status "ok")

/-- The user of the session. -/
def handleMe : Outcome World Key Rule :=
  context.answer 200 (.user context.caller.user)

/-! ### API tokens -/

/-- The tokens of the caller's tenant. -/
def handleListTokens : Outcome World Key Rule :=
  context.query (.list .apiTokens) <|
    context.answer 200 (.tokens (Owned.list context.state.tokens context.tenantID))

/-- The role a token is asked for: none, one of the four, or a text that is none of them. -/
inductive RoleText
  | absent
  | known (role : Role)
  | unknown
  deriving DecidableEq

/-- `createTokenReq`, with what its two expiry fields come to. -/
structure CreateTokenRequest where
  name : String
  role : RoleText := .absent
  expiresAt : Except String (Option Int) := .ok none

/-- The role of the new token, the caller's own by default. -/
def tokenRole : RoleText → Option Role
  | .absent => some context.caller.claim.role
  | .known role => some role
  | .unknown => none

/-- The row of a new token, with the hash of its secret. -/
def mintedToken (name secret : String) (role : Role) (expiresAt : Option Int) : APIToken where
  id := context.around.freshID 0
  tenantID := context.tenantID
  userSub := context.subject
  name := name
  tokenHash := context.server.auth.hashSecret secret
  role := role
  expiresAt := expiresAt
  revokedAt := none

/-- `handleCreateToken`. An unknown role ranks below every known one and is only refused by the
table's own constraint. -/
def handleCreateToken (body : Except String CreateTokenRequest) : Outcome World Key Rule :=
  if context.tenantID == "" then context.refuse 401 "no tenant in context"
  else
    context.decoded body ("bad JSON: " ++ ·) fun given =>
      if given.name == "" then context.refuse 400 "name is required"
      else
        let role := context.tokenRole given.role
        if role.any fun role => !context.caller.claim.role.atLeast role then
          context.refuse 403 "cannot mint a token at a role higher than your own"
        else
          context.decoded given.expiresAt ("bad expires_at: " ++ ·) fun expiresAt =>
            match context.around.secret, role with
            | .error error, _ => context.refuse 500 error
            | .ok _, none => context.refuse 500 context.around.databaseError
            | .ok secret, some role =>
              let token := context.mintedToken given.name secret role expiresAt
              context.query (.create .apiTokens) <|
                if context.state.tokens.any fun other => other.tokenHash == token.tokenHash then
                  context.refuse 500 context.around.databaseError
                else
                  commit { context.state with tokens := context.state.tokens ++ [token] } 201
                    (.createdToken token secret)

/-- `handleRevokeToken`: a token that is unknown or revoked already is no error. -/
def handleRevokeToken (id : String) : Outcome World Key Rule :=
  if id == "" then context.refuse 400 "missing id"
  else
    context.query (.update .apiTokens) <|
      commit { context.state with
          tokens := Owned.update context.state.tokens context.tenantID id fun token =>
            { token with revokedAt := some (token.revokedAt.getD context.around.now) } }
        200 (.status "revoked")

/-! ### Plugins -/

/-- The plugins of the tenant; a failure is told apart from the other lists'. -/
def handleListPlugins : Outcome World Key Rule :=
  match context.repoError (.list .plugins) with
  | some error => context.refuse 500 ("list plugins: " ++ error)
  | none => context.answer 200 (.plugins (Owned.list context.state.plugins context.tenantID))

/-- The form of an upload: the file or what is wrong with it, and what the runtime finds wrong
with the module, or that it is not there. -/
structure PluginForm where
  name : String
  blob : Except String Bytes
  invalid : Option (Bool × String) := none

/-- Uploading a plugin: for system admins, into the caller's tenant. -/
def handleUploadPlugin (form : Except String PluginForm) : Outcome World Key Rule :=
  context.requireSystemAdmin <|
    context.decoded form ("parse multipart: " ++ ·) fun given =>
      if given.name == "" then context.refuse 400 "name required"
      else
        context.decoded given.blob id fun blob =>
          if 16 * 1024 * 1024 < blob.length then
            context.refuse 413 "plugin blob exceeds 16 MiB cap"
          else
            match given.invalid with
            | some (true, complaint) =>
              context.refuse 503 complaint
            | some (false, complaint) =>
              context.refuse 400 ("plugin validation failed: " ++ complaint)
            | none =>
              match context.repoError (.update .plugins) with
              | some error => context.refuse 500 ("store plugin: " ++ error)
              | none =>
                if blob.isEmpty then context.refuse 500 "store plugin: plugin: blob required"
                else
                  let plugin : Plugin :=
                    { id := context.around.freshID 0
                      tenantID := context.tenantID
                      name := given.name
                      blob := blob
                      uploadedBy := context.subject }
                  commit { context.state with
                      plugins := Plugin.upsert context.state.plugins plugin }
                    201 (.plugin { plugin with blob := [] })

def handleGetPlugin (name : String) : Outcome World Key Rule :=
  context.requireSystemAdmin <|
    context.query (.get .plugins) <|
      context.found (Owned.get context.state.plugins context.tenantID name) "plugin not found"
        fun plugin => context.answer 200 (.wasm plugin)

def handleDeletePlugin (name : String) : Outcome World Key Rule :=
  context.requireSystemAdmin <|
    context.query (.delete .plugins) <|
      context.found (Owned.get context.state.plugins context.tenantID name) "plugin not found"
        fun _ =>
          commit { context.state with
              plugins := Owned.delete context.state.plugins context.tenantID name }
            200 (.status "deleted")

/-! ### Tenants -/

/-- The name the handlers know the caller by. -/
def username : String :=
  if context.caller.user.preferredUsername == "" then context.caller.user.name
  else context.caller.user.preferredUsername

/-- `MembershipRepo.ListByUser` of the caller: its rows and the table it leaves. -/
def ownMemberships : Option (List Membership) × Memberships :=
  context.state.memberships.listByUser context.server.auth.toLower context.around.lookupFails
    context.subject (context.server.auth.toLower context.username)

/-- What `handleListMyTenants` shows of a membership; an orphan is skipped. -/
def tenantEntry (row : Membership) : Option (Tenant × Role × Bool) :=
  if (context.around.fails (.get .tenants)).isSome then none
  else
    (context.state.tenant row.tenantID).map fun tenant =>
      (tenant, row.role, context.tenantID == row.tenantID)

/-- The tenants of the caller's memberships, after the first login's adoption. -/
def handleListMyTenants : Outcome World Key Rule :=
  let (rows, after) := context.ownMemberships
  let left := { context.state with memberships := after }
  match rows with
  | none => commit left 500 (.error context.around.databaseError)
  | some rows => commit left 200 (.tenants (rows.filterMap context.tenantEntry))

/-- The row `TenantRepo.Create` inserts. -/
def createdTenant (given : Tenant) : Tenant :=
  { given with
    id := if given.id == "" then context.around.freshID 0 else given.id
    status := if given.status == "" then "active" else given.status }

/-- `handleCreateTenant`; the creator becomes owner of the tenant, best effort. -/
def handleCreateTenant (body : Except String Tenant) : Outcome World Key Rule :=
  context.requireSystemAdmin <|
    context.decoded body (fun _ => "invalid request body") fun given =>
      if given.slug == "" || given.name == "" then context.refuse 400 "slug and name are required"
      else
        let row := context.createdTenant given
        context.queryAll (.create .tenants) <|
          if context.state.tenants.any fun other => other.id == row.id || other.slug == row.slug then
            context.refuse 500 context.around.databaseError
          else
            let memberships :=
              if (context.around.fails (.update .memberships)).isSome then context.state.memberships
              else
                context.state.memberships.upsert
                  { tenantID := row.id
                    userSub := context.subject
                    username := context.username
                    role := .owner
                    systemAdmin := false }
            commit { context.state with
                tenants := context.state.tenants ++ [row]
                memberships := memberships }
              201 (.tenant row)

/-- A tenant, shown to its members. -/
def handleGetTenant (id : String) : Outcome World Key Rule :=
  if context.isMemberOf id then
    context.queryAll (.get .tenants) <|
      context.found (context.state.tenant id) "tenant not found" fun row =>
        context.answer 200 (.tenant row)
  else context.refuse 404 "tenant not found"

/-- A tenant, changed by its owners. -/
def handleUpdateTenant (id : String) (body : Except String Tenant) : Outcome World Key Rule :=
  context.requireOwner id <|
    context.decoded body (fun _ => "invalid request body") fun given =>
      let row := { given with id := id }
      context.queryAll (.update .tenants) <|
        context.found (context.state.tenant id) "tenant not found" fun _ =>
          if context.state.tenants.any fun other => other.slug == row.slug && other.id != id then
            context.refuse 500 context.around.databaseError
          else
            commit { context.state with
                tenants := context.state.tenants.map fun old => if old.id == id then row else old }
              200 (.echo (.tenant row))

/-- `handleDeleteTenant`; a cascade takes everything the tenant owns along. -/
def handleDeleteTenant (id : String) (cascade : Bool) : Outcome World Key Rule :=
  if id == defaultTenantID then context.refuse 400 "cannot delete the default tenant"
  else
    context.requireOwner id <|
      context.queryAll (.delete .tenants) <|
        context.found (context.state.tenant id) "tenant not found" fun _ =>
          if cascade then commit (context.state.purgeTenant id) 200 (.status "deleted cascade")
          else
            commit { context.state with
                tenants := context.state.tenants.filter fun old => old.id != id }
              200 (.status "deleted")

/-- The tenant of the next requests, for members only. -/
def handleSwitchTenant (id : String) : Outcome World Key Rule :=
  if context.isMemberOf id then context.answer 200 (.switched id)
  else context.refuse 403 "not a member of this tenant"

/-- The members of a tenant, shown to its owners. -/
def handleListMembers (id : String) : Outcome World Key Rule :=
  context.requireOwner id <|
    context.queryAll (.list .memberships) <|
      context.answer 200 (.members (context.state.memberships.listByTenant id))

/-- `memberDTO`; a role outside the four does not parse. -/
structure MemberDTO where
  userSub : String
  username : String := ""
  role : Option Role
  deriving DecidableEq

/-- A membership is written over the one of its subject, if there is one. -/
def handleUpsertMember (id : String) (body : Except String MemberDTO) : Outcome World Key Rule :=
  context.requireOwner id <|
    context.decoded body (fun _ => "invalid request body") fun given =>
      if given.userSub == "" then context.refuse 400 "user_sub is required"
      else
        match given.role with
        | none => context.refuse 400 "role must be one of viewer|operator|admin|owner"
        | some role =>
          let row : Membership :=
            { tenantID := id
              userSub := given.userSub
              username := given.username
              role := role
              systemAdmin := false }
          context.queryAll (.update .memberships) <|
            commit { context.state with memberships := context.state.memberships.upsert row } 200
              (.member row)

/-- `handleDeleteMember`; the last owner of a tenant stays. -/
def handleDeleteMember (id userSub : String) : Outcome World Key Rule :=
  context.requireOwner id <|
    let all := if (context.around.fails (.list .memberships)).isSome then []
      else context.state.memberships.listByTenant id
    let owners := (all.filter fun row => row.role == .owner).length
    if all.any fun row => row.userSub == userSub && row.role == .owner && owners == 1 then
      context.refuse 400 "cannot remove the last owner"
    else
      context.queryAll (.delete .memberships) <|
        context.found (context.state.memberships.get id userSub) "membership not found" fun _ =>
          commit { context.state with
              memberships := context.state.memberships.delete id userSub }
            200 (.status "removed")

/-! ### The audit log and the explanations -/

/-- `handleListAudit`; the filter and the pagination are a predicate. -/
def handleListAudit (selects : AuditEntry → Bool) : Outcome World Key Rule :=
  context.query (.list .audit) <|
    context.answer 200 (.auditEntries ((context.state.auditRows context.tenantID).filter selects))

/-- `handleVerifyAudit`; the scope widens to every tenant for the default tenant. -/
def handleVerifyAudit (scopeAll : Bool) : Outcome World Key Rule :=
  let scope := if scopeAll && context.tenantID == defaultTenantID then "*" else context.tenantID
  let rows := context.state.auditRows scope
  context.query (.list .audit) <|
    context.answer 200 (.chains ((rows.map (·.tenantID)).eraseDups.map fun tenantID =>
      (tenantID, context.server.chainIntact (Owned.list rows tenantID))))

/-- `handleGetAuditDiff`, by the id of the audit row alone. -/
def handleGetAuditDiff (id : String) : Outcome World Key Rule :=
  if id == "" then context.refuse 400 "missing id"
  else
    context.queryAll (.get .auditDiffs) <|
      context.found (context.state.diffs.find? fun diff => diff.auditID == id)
        "no diff for this row" fun diff => context.answer 200 (.auditDiff diff)

/-- The subjects whose id is a pipeline's. -/
def explainsPipeline (subject : String) : Bool :=
  ["circuit", "drift", "latency"].contains subject

/-- The lookup says that the pipeline does not exist. One that fails says nothing. -/
def lacksPipeline (id : String) : Bool :=
  (context.repoError (.get .pipelines)).isNone && (context.state.pipeline context.tenantID id).isNone

/-- What the engine reads of a subject, beside the audit log: the counters of a pipeline by its id alone. -/
def explainRead (subject id : String) : List PageItem :=
  let deadLetters := PageItem.deadLetters (Owned.list context.state.rows context.tenantID)
  if explainsPipeline subject then
    [.pipelines (context.state.pipeline context.tenantID id).toList, deadLetters,
      .metrics (context.around.metrics.filter fun row => row.pipelineID == id)]
  else [deadLetters, .revisions (Owned.list context.state.revisions context.tenantID)]

/-- An explanation of one of five kinds of subject. -/
def handleExplain (subject id : String) : Outcome World Key Rule :=
  if !(["circuit", "drift", "latency", "dlq_cluster", "dlq_entry"].contains subject) then
    context.refuse 400
      "unknown subject; must be one of: circuit, drift, latency, dlq_cluster, dlq_entry"
  else if id == "" then context.refuse 400 "missing id"
  else if explainsPipeline subject && context.lacksPipeline id then
    context.refuse 404 "id not found for subject"
  else
    let history := (context.state.auditRows context.tenantID).filter
      (context.around.relevant subject id)
    let read := context.explainRead subject id
    let (status, text) := context.around.explain subject id read history
    context.answer status (.explanation history read text)

/-! ### Keys, backup and metrics -/

/-- The version of the current key, 0 without keys. -/
def keyVersion : Nat :=
  (context.state.keys.map KeyRing.current).getD 0

def handleSecretsStatus : Outcome World Key Rule :=
  context.answer 200 (.secretsStatus (context.state.keys.map KeyRing.current))

/-- `handleRotateSecrets` with the key `Rotate` draws; the tenant stands in for the
system-admin check. -/
def handleRotateSecrets (drawn : Except String Key) : Outcome World Key Rule :=
  match context.state.keys with
  | none => context.refuse 503 "encryption disabled: set MQC_MASTER_KEY first"
  | some ring =>
    if context.tenantID != defaultTenantID then context.refuse 403 "system-admin required"
    else
      match drawn with
      | .error error => context.refuse 500 error
      | .ok key =>
        match context.around.fails .rewrapPasswords with
        | some error =>
          commit { context.state with keys := some (ring.addKey (ring.current + 1) key) } 500
            (.error ("rotate succeeded but rewrap failed: " ++ error))
        | none =>
          commit (context.state.rotate ring key) 200 (.rotated ring.current (ring.current + 1))

/-- The backup of the whole database, for system admins. -/
def handleAdminBackup : Outcome World Key Rule :=
  context.requireSystemAdmin <|
    match context.around.fails .backup with
    | some error => context.refuse 500 ("backup: " ++ error)
    | none => context.answer 200 .backup

/-- The database's check of itself, for system admins. -/
def handleAdminIntegrity : Outcome World Key Rule :=
  context.requireSystemAdmin <|
    match context.around.fails .integrityCheck with
    | some error => context.refuse 500 ("integrity check: " ++ error)
    | none => context.answer 200 (.profile "integrity_check")

/-- The routes of `mountPprof`. -/
def handlePprof : Outcome World Key Rule :=
  context.requireSystemAdmin <| context.answer 200 (.profile context.around.profile)

/-- `handleMetricsPrometheus`: the series of every pipeline, and the dead letters of every tenant counted. -/
def handleMetricsPrometheus : Outcome World Key Rule :=
  let rows := if (context.around.fails (.list .dlq)).isSome then []
    else context.state.rows.map HeldRow.row
  context.answer 200 (.operationalMetrics context.around.metrics rows context.keyVersion)

end Context

end MqConnector
