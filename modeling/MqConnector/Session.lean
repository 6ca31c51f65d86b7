/-
This file models `auth/middleware.go` with the resolver that `server.New`
installs, and asks where the authority of a session comes from.

`RequireSession` accepts an API token, pinned to its own tenant and role, or a
session cookie, whose tenant and role the resolver reads off the membership
table. When the lookup fails or finds no row, the middleware falls back to
ownership of the default tenant.
-/

import MqConnector.Memberships

namespace MqConnector

/-! ### Requests and sessions -/

/-- The claims of a verified session token. -/
structure User where
  sub : String
  preferredUsername : String
  name : String
  deriving DecidableEq

structure TenantClaim where
  tenantID : String
  role : Role
  deriving DecidableEq

/-- What `RequireSession` reads of a request: the `Authorization` and `X-Tenant-Id` headers,
empty when absent, and the session and `mqc_active_tenant` cookies. -/
structure Credentials where
  authorization : String := ""
  session : Option String := none
  tenantHeader : String := ""
  activeTenant : Option String := none
  deriving DecidableEq

namespace Credentials

def extractBearerToken (request : Credentials) : String :=
  let letters := request.authorization.toList
  if letters.length ≤ 7 || (letters.take 7).map Char.toLower != "bearer ".toList then ""
  else
    let secret := trimSpace (letters.drop 7)
    if "mqct_".toList.isPrefixOf secret then String.ofList secret else ""

/-- `requestedTenant`: the header beats the cookie. -/
def requestedTenant (request : Credentials) : String :=
  let header := String.ofList (trimSpace request.tenantHeader.toList)
  if header != "" then header else request.activeTenant.getD ""

end Credentials

def isDefaultOwner (memberships : List Membership) : Bool :=
  memberships.any fun row => row.tenantID == defaultTenantID && row.role == .owner

/-- `pickMembership`; the resolver calls it on a non-empty list. -/
def pickMembership (memberships : List Membership) (requested : String) : Option Membership :=
  if requested != "" then
    match memberships.find? fun row => row.tenantID == requested with
    | some row => some row
    | none => memberships.head?
  else memberships.head?

def Membership.claim (row : Membership) : TenantClaim :=
  { tenantID := row.tenantID, role := row.role }

/-! ### The middleware -/

/-- The tables the middleware reads; of a tenant only its id counts. -/
structure AuthTables where
  memberships : Memberships
  tenants : List String
  tokens : List APIToken

/-- What is outside this repository: the verification of a session token, the hash of a
token's secret, and the case folding of the user name. -/
structure AuthService where
  verify : String → Option User
  hashSecret : String → String
  toLower : String → String

/-- What a request meets: the middleware refuses it or passes it on. -/
inductive SessionResult
  | unauthorized
  | passed (user : User) (claim : TenantClaim)
  deriving DecidableEq

namespace AuthService

variable (service : AuthService) (fails : Memberships.LookupStatement → Bool) (now : Int)
  (tables : AuthTables) (request : Credentials)

/-- The lookup of the first branch: the active token a request bears. -/
def bearer : Option APIToken :=
  let secret := request.extractBearerToken
  if secret == "" || fails .tokenLookup then none
  else APIToken.lookup tables.tokens now (service.hashSecret secret)

/-- The second branch up to `Validate`. -/
def sessionUser : Option User :=
  match request.session with
  | none => none
  | some token => if token == "" then none else service.verify token

/-- The resolver's lookup of a user's memberships, with the table it leaves. -/
def lookupMemberships (user : User) : Option (List Membership) × Memberships :=
  let username := if user.preferredUsername == "" then user.name else user.preferredUsername
  tables.memberships.listByUser service.toLower fails user.sub (service.toLower username)

/-- `tenantResolver.Resolve` after the lookup. -/
def resolveClaim (memberships : List Membership) : Option TenantClaim :=
  let requested := request.requestedTenant
  if requested != "" && isDefaultOwner memberships then
    match memberships.find? fun row => row.tenantID == requested with
    | some row => some row.claim
    | none =>
      if tables.tenants.contains requested && !fails .tenantGet then
        some { tenantID := requested, role := .owner }
      else (pickMembership memberships requested).map Membership.claim
  else (pickMembership memberships requested).map Membership.claim

/-- `tenantResolver.Resolve`, with the membership table it leaves. -/
def resolve (user : User) : Option TenantClaim × Memberships :=
  match service.lookupMemberships fails tables user with
  | (none, after) => (none, after)
  | (some [], after) => (none, after)
  | (some memberships, after) => (resolveClaim fails tables request memberships, after)

/-- The claim `RequireSession` puts in the context for what the resolver answered. -/
def claimOrDefault : Option TenantClaim → TenantClaim
  | none => { tenantID := defaultTenantID, role := .owner }
  | some claim =>
    if claim.tenantID == "" then { tenantID := defaultTenantID, role := .owner } else claim

def syntheticUserForToken (token : APIToken) : User :=
  { sub := token.userSub, preferredUsername := "api-token:" ++ token.name, name := "" }

/-- `Service.RequireSession`, with the membership table it leaves. -/
def requireSession : SessionResult × Memberships :=
  match service.bearer fails now tables request with
  | some token =>
    (.passed (syntheticUserForToken token) { tenantID := token.tenantID, role := token.role },
      tables.memberships)
  | none =>
    match service.sessionUser request with
    | none => (.unauthorized, tables.memberships)
    | some user =>
      let (claim, after) := service.resolve fails tables request user
      (.passed user (claimOrDefault claim), after)

end AuthService

/-! ### Where authority comes from -/

/-- The table gives the subject this claim: by a row of its own, or because an owner of the
default tenant asked for an existing tenant. -/
def Entitled (table : Memberships) (tenants : List String) (requested subject : String)
    (claim : TenantClaim) : Prop :=
  (∃ row ∈ table.rows,
    row.userSub = subject ∧ row.tenantID = claim.tenantID ∧ row.role = claim.role) ∨
  ((∃ row ∈ table.rows,
    row.userSub = subject ∧ row.tenantID = defaultTenantID ∧ row.role = .owner) ∧
    requested ≠ "" ∧ claim.tenantID = requested ∧ requested ∈ tenants ∧ claim.role = .owner)

namespace AuthService

variable (service : AuthService) (fails : Memberships.LookupStatement → Bool) (now : Int)
  (tables : AuthTables) (request : Credentials)

/-- Authority comes only from membership: a session that is passed on has a claim the table
afterwards gives its subject, and none is passed on whose subject has no row or whose lookup
failed. -/
structure AuthorityFromMembership (user : User) : Prop where
  entitled : ∀ claim,
    (service.requireSession fails now tables request).1 = .passed user claim →
      Entitled (service.requireSession fails now tables request).2 tables.tenants
        request.requestedTenant user.sub claim
  memberless : (∀ row ∈ (service.requireSession fails now tables request).2.rows,
      row.userSub ≠ user.sub) →
    ∀ claim, (service.requireSession fails now tables request).1 ≠ .passed user claim
  failed : (service.lookupMemberships fails tables user).1 = none →
    ∀ claim, (service.requireSession fails now tables request).1 ≠ .passed user claim

/-- The rows cannot lead the resolver to an empty tenant id, which the middleware takes for no
answer, unless the fall-back is the subject's own right. -/
def TenantNamed (memberships : List Membership) (requested : String) : Prop :=
  (∀ row ∈ memberships, row.tenantID ≠ "") ∨
    (requested ≠ "" ∧ ∃ row ∈ memberships, row.tenantID = requested) ∨
    isDefaultOwner memberships = true

/-- The lookup of the user's memberships succeeds with at least one row, and the rows name a
tenant. -/
def MembershipFound (user : User) : Prop :=
  ∃ memberships after, service.lookupMemberships fails tables user = (some memberships, after) ∧
    memberships ≠ [] ∧ TenantNamed memberships request.requestedTenant

end AuthService

/-! ### The resolver's answer -/

theorem isDefaultOwner_iff (memberships : List Membership) :
    isDefaultOwner memberships = true ↔
      ∃ row ∈ memberships, row.tenantID = defaultTenantID ∧ row.role = .owner := by
  unfold isDefaultOwner
  simp only [List.any_eq_true, Bool.and_eq_true, beq_iff_eq]

theorem pickMembership_spec (memberships : List Membership) (requested : String)
    (row : Membership) (picked : pickMembership memberships requested = some row) :
    row ∈ memberships ∧
      (requested ≠ "" → (∃ other ∈ memberships, other.tenantID = requested) →
        row.tenantID = requested) := by
  unfold pickMembership at picked
  split at picked
  · split at picked
    · rename_i found lookup
      rw [Option.some.injEq] at picked
      subst picked
      have named := List.find?_some lookup
      rw [beq_iff_eq] at named
      exact ⟨List.mem_of_find?_eq_some lookup, fun _ _ => named⟩
    · rename_i missing
      refine ⟨List.mem_of_mem_head? picked, fun _ => ?_⟩
      rintro ⟨other, member, named⟩
      rw [List.find?_eq_none] at missing
      exact absurd (beq_iff_eq.mpr named) (missing other member)
  · rename_i unnamed
    refine ⟨List.mem_of_mem_head? picked, fun named _ => ?_⟩
    simp [named] at unnamed

theorem pickMembership_isSome (memberships : List Membership) (requested : String)
    (nonempty : memberships ≠ []) : ∃ row, pickMembership memberships requested = some row := by
  obtain ⟨first, rest, rfl⟩ := List.exists_cons_of_ne_nil nonempty
  unfold pickMembership
  split
  · split
    · rename_i found _
      exact ⟨found, rfl⟩
    · exact ⟨first, rfl⟩
  · exact ⟨first, rfl⟩

namespace AuthService

variable {service : AuthService} {fails : Memberships.LookupStatement → Bool} {now : Int}
  {tables : AuthTables} {request : Credentials}

theorem resolveClaim_cases (fails : Memberships.LookupStatement → Bool) (tables : AuthTables)
    (request : Credentials) (memberships : List Membership) (nonempty : memberships ≠ []) :
    (∃ row ∈ memberships, resolveClaim fails tables request memberships = some row.claim ∧
      (request.requestedTenant ≠ "" →
        (∃ other ∈ memberships, other.tenantID = request.requestedTenant) →
          row.tenantID = request.requestedTenant)) ∨
    (isDefaultOwner memberships = true ∧ request.requestedTenant ≠ "" ∧
      request.requestedTenant ∈ tables.tenants ∧
      resolveClaim fails tables request memberships =
        some { tenantID := request.requestedTenant, role := .owner }) := by
  obtain ⟨row, picked⟩ := pickMembership_isSome memberships request.requestedTenant nonempty
  obtain ⟨member, named⟩ := pickMembership_spec memberships request.requestedTenant row picked
  unfold resolveClaim
  dsimp only
  split
  · rename_i escalates
    rw [Bool.and_eq_true, bne_iff_ne] at escalates
    split
    · rename_i found lookup
      have asked := List.find?_some lookup
      rw [beq_iff_eq] at asked
      exact Or.inl ⟨found, List.mem_of_find?_eq_some lookup, rfl, fun _ _ => asked⟩
    · split
      · rename_i exists_
        rw [Bool.and_eq_true, List.contains_iff_mem] at exists_
        exact Or.inr ⟨escalates.2, escalates.1, exists_.1, rfl⟩
      · exact Or.inl ⟨row, member, by rw [picked]; rfl, named⟩
  · exact Or.inl ⟨row, member, by rw [picked]; rfl, named⟩

theorem requireSession_session {user : User}
    (noToken : service.bearer fails now tables request = none)
    (signedIn : service.sessionUser request = some user) :
    service.requireSession fails now tables request =
      (.passed user (claimOrDefault (service.resolve fails tables request user).1),
        (service.resolve fails tables request user).2) := by
  unfold requireSession
  rw [noToken, signedIn]

/-- A lookup with rows resolves to one of them. -/
theorem resolve_of_lookup {user : User} {memberships : List Membership} {after : Memberships}
    (found : service.lookupMemberships fails tables user = (some memberships, after))
    (nonempty : memberships ≠ []) :
    service.resolve fails tables request user =
      (resolveClaim fails tables request memberships, after) := by
  unfold resolve
  rw [found]
  cases memberships with
  | nil => exact absurd rfl nonempty
  | cons first rest => rfl

/-- Without a row nothing is resolved. -/
theorem resolve_of_memberless {user : User} {after : Memberships}
    (memberless : service.lookupMemberships fails tables user = (some [], after)) :
    service.resolve fails tables request user = (none, after) := by
  unfold resolve
  rw [memberless]

theorem mem_lookupMemberships {user : User} {memberships : List Membership} {after : Memberships}
    (found : service.lookupMemberships fails tables user = (some memberships, after))
    (row : Membership) : row ∈ memberships ↔ row ∈ after.rows ∧ row.userSub = user.sub := by
  unfold lookupMemberships at found
  rw [Memberships.listByUser_rows _ _ _ _ _ _ _ found, Memberships.mem_queryByUser]

/-! ### Authority comes from membership exactly when a membership is found -/

theorem entitled_fallback {table : Memberships} {tenants : List String} {requested subject : String}
    (owner : ∃ row ∈ table.rows,
      row.userSub = subject ∧ row.tenantID = defaultTenantID ∧ row.role = .owner) :
    Entitled table tenants requested subject { tenantID := defaultTenantID, role := .owner } := by
  unfold Entitled
  dsimp only
  exact Or.inl owner

theorem entitled_asked {table : Memberships} {tenants : List String} {requested subject : String}
    (owner : ∃ row ∈ table.rows,
      row.userSub = subject ∧ row.tenantID = defaultTenantID ∧ row.role = .owner)
    (asked : requested ≠ "") (exists_ : requested ∈ tenants) :
    Entitled table tenants requested subject { tenantID := requested, role := .owner } :=
  Or.inr ⟨owner, asked, rfl, exists_, rfl⟩

theorem entitled_of_found (request : Credentials) {user : User} {memberships : List Membership}
    {after : Memberships}
    (found : service.lookupMemberships fails tables user = (some memberships, after))
    (nonempty : memberships ≠ []) (named : TenantNamed memberships request.requestedTenant) :
    Entitled after tables.tenants request.requestedTenant user.sub
      (claimOrDefault (resolveClaim fails tables request memberships)) := by
  have rows := mem_lookupMemberships found
  have owned : isDefaultOwner memberships = true → ∃ row ∈ after.rows,
      row.userSub = user.sub ∧ row.tenantID = defaultTenantID ∧ row.role = .owner := by
    intro defaultOwner
    obtain ⟨row, member, tenant, role⟩ := (isDefaultOwner_iff memberships).mp defaultOwner
    exact ⟨row, ((rows row).mp member).1, ((rows row).mp member).2, tenant, role⟩
  obtain ⟨row, member, resolved, asked⟩ | ⟨defaultOwner, asked, exists_, resolved⟩ :=
    resolveClaim_cases fails tables request memberships nonempty
  · rw [resolved]
    unfold claimOrDefault
    dsimp only
    split
    · rename_i unnamed
      have empty : row.tenantID = "" := by simpa [Membership.claim] using unnamed
      rcases named with tenants | ⟨requested, matching⟩ | defaultOwner
      · exact absurd empty (tenants row member)
      · rw [asked requested matching] at empty
        exact absurd empty requested
      · exact entitled_fallback (owned defaultOwner)
    · exact Or.inl ⟨row, ((rows row).mp member).1, ((rows row).mp member).2, rfl, rfl⟩
  · rw [resolved]
    unfold claimOrDefault
    dsimp only
    rw [if_neg (by simpa using asked)]
    exact entitled_asked (owned defaultOwner) asked exists_

theorem resolveClaim_of_unnamed {user : User} {memberships : List Membership}
    {after : Memberships}
    (found : service.lookupMemberships fails tables user = (some memberships, after))
    (unnamed : ¬ TenantNamed memberships request.requestedTenant) :
    ∃ claim, resolveClaim fails tables request memberships = some claim ∧
      claim.tenantID = "" := by
  unfold TenantNamed at unnamed
  push Not at unnamed
  obtain ⟨⟨row, member, empty⟩, unasked, notOwner⟩ := unnamed
  have notOwner : isDefaultOwner memberships = false := by simpa using notOwner
  have sorted := Memberships.queryByUser_sorted after user.sub
  unfold lookupMemberships at found
  rw [← Memberships.listByUser_rows _ _ _ _ _ _ _ found] at sorted
  obtain ⟨first, rest, rfl⟩ := List.exists_cons_of_ne_nil (List.ne_nil_of_mem member)
  have firstEmpty : first.tenantID = "" := by
    rcases List.mem_cons.mp member with same | later
    · rw [← same, empty]
    · have below := (List.pairwise_cons.mp sorted).1 row later
      rw [empty] at below
      exact le_antisymm below (String.le_iff_toList_le.mpr (not_lt.mp (List.not_lt_nil _)))
  refine ⟨first.claim, ?_, firstEmpty⟩
  unfold resolveClaim pickMembership
  simp only [notOwner, Bool.and_false, Bool.false_eq_true, if_false]
  split
  · rename_i asked
    rw [bne_iff_ne] at asked
    have missing : (first :: rest).find? (fun row => row.tenantID == request.requestedTenant) =
        none := by
      rw [List.find?_eq_none]
      intro other otherMember
      simpa using unasked asked other otherMember
    rw [missing]
    rfl
  · rfl

/-- Where no row names the tenant, the claim is not the user's. -/
theorem not_entitled_of_unnamed {user : User} {memberships : List Membership}
    {after : Memberships}
    (found : service.lookupMemberships fails tables user = (some memberships, after))
    (unnamed : ¬ TenantNamed memberships request.requestedTenant) :
    ¬ Entitled after tables.tenants request.requestedTenant user.sub
      (claimOrDefault (resolveClaim fails tables request memberships)) := by
  obtain ⟨claim, resolved, empty⟩ := resolveClaim_of_unnamed found unnamed
  have fallback : claimOrDefault (some claim) =
      { tenantID := defaultTenantID, role := .owner } := by
    unfold claimOrDefault
    dsimp only
    rw [if_pos (by simpa using empty)]
  rw [resolved, fallback]
  -- either way of being entitled makes the subject an owner of the default tenant
  have notOwner : ¬ ∃ row ∈ after.rows,
      row.userSub = user.sub ∧ row.tenantID = defaultTenantID ∧ row.role = .owner := by
    rintro ⟨row, member, subject, tenant, role⟩
    refine unnamed (Or.inr (Or.inr ((isDefaultOwner_iff memberships).mpr ?_)))
    exact ⟨row, (mem_lookupMemberships found row).mpr ⟨member, subject⟩, tenant, role⟩
  unfold Entitled
  dsimp only
  rintro (own | ⟨owner, -⟩)
  · exact notOwner own
  · exact notOwner owner

theorem mem_of_entitled {table : Memberships} {tenants : List String} {requested subject : String}
    {claim : TenantClaim} (entitled : Entitled table tenants requested subject claim) :
    ∃ row ∈ table.rows, row.userSub = subject := by
  rcases entitled with ⟨row, member, owned, -⟩ | ⟨⟨row, member, owned, -⟩, -⟩
  · exact ⟨row, member, owned⟩
  · exact ⟨row, member, owned⟩

/-- For a session that bears no accepted token, authority comes only from membership if and
only if the lookup of its memberships succeeds with rows that name a tenant. -/
theorem authorityFromMembership_iff (service : AuthService)
    (fails : Memberships.LookupStatement → Bool) (now : Int) (tables : AuthTables)
    (request : Credentials) (user : User)
    (noToken : service.bearer fails now tables request = none)
    (signedIn : service.sessionUser request = some user) :
    service.AuthorityFromMembership fails now tables request user ↔
      service.MembershipFound fails tables request user := by
  have session := requireSession_session noToken signedIn
  constructor
  · intro authority
    have entitled := authority.entitled
    have memberless := authority.memberless
    have failed := authority.failed
    rw [session] at entitled memberless failed
    rcases lookup : service.lookupMemberships fails tables user with ⟨_ | memberships, after⟩
    · rw [lookup] at failed
      exact (failed rfl _ rfl).elim
    · rcases memberships with _ | ⟨first, rest⟩
      · rw [resolve_of_memberless lookup] at memberless
        refine (memberless ?_ _ rfl).elim
        intro row member subject
        exact absurd ((mem_lookupMemberships lookup row).mpr ⟨member, subject⟩) (by simp)
      · refine ⟨first :: rest, after, lookup, by simp, ?_⟩
        by_contra unnamed
        rw [resolve_of_lookup lookup (by simp)] at entitled
        have given := entitled _ rfl
        dsimp only at given
        exact not_entitled_of_unnamed lookup unnamed given
  · rintro ⟨memberships, after, found, nonempty, named⟩
    have entitled := entitled_of_found request found nonempty named
    rw [resolve_of_lookup found nonempty] at session
    refine ⟨?_, ?_, ?_⟩
    · intro claim passed
      rw [session] at passed ⊢
      dsimp only at passed ⊢
      obtain ⟨-, rfl⟩ := SessionResult.passed.inj passed
      exact entitled
    · intro memberless claim _
      rw [session] at memberless
      dsimp only at memberless
      obtain ⟨row, member, subject⟩ := mem_of_entitled entitled
      exact memberless row member subject
    · intro failed
      rw [found] at failed
      exact absurd failed (by simp)

/-- A session token is its user's subject and name here. -/
def plainService : AuthService where
  verify token := some { sub := token, preferredUsername := token, name := "" }
  hashSecret secret := secret
  toLower text := text

/-- One administrator, who owns the default tenant, and a second tenant. -/
def oneAdmin : AuthTables where
  memberships :=
    { rows := [⟨defaultTenantID, "admin", "admin", .owner, true⟩]
      keysNodup := by decide }
  tenants := [defaultTenantID, "acme"]
  tokens := []

/-- The administrator who asks for the second tenant has the authority the table gives. -/
theorem admin_authorityFromMembership :
    plainService.AuthorityFromMembership (fun _ => false) 0 oneAdmin
      { session := some "admin", tenantHeader := "acme" }
      { sub := "admin", preferredUsername := "admin", name := "" } :=
  (authorityFromMembership_iff plainService (fun _ => false) 0 oneAdmin
    { session := some "admin", tenantHeader := "acme" }
    { sub := "admin", preferredUsername := "admin", name := "" }
    (by decide) (by decide)).mpr
    ⟨[⟨defaultTenantID, "admin", "admin", .owner, true⟩], oneAdmin.memberships,
      by rfl, by decide, Or.inr (Or.inr (by decide))⟩

/-- A stranger without any membership is passed on as owner of the default tenant, and so is
one whose lookup failed. -/
theorem stranger_owns_default_tenant :
    (¬ plainService.AuthorityFromMembership (fun _ => false) 0 oneAdmin
      { session := some "mallory" }
      { sub := "mallory", preferredUsername := "mallory", name := "" }) ∧
    ¬ plainService.AuthorityFromMembership (fun _ => true) 0 oneAdmin
      { session := some "mallory" }
      { sub := "mallory", preferredUsername := "mallory", name := "" } := by
  have passed : ∀ broken : Bool, (plainService.requireSession (fun _ => broken) 0 oneAdmin
      { session := some "mallory" }).1 =
      .passed { sub := "mallory", preferredUsername := "mallory", name := "" }
        { tenantID := defaultTenantID, role := .owner } := by
    decide
  have memberless : ∀ row ∈ (plainService.requireSession (fun _ => false) 0 oneAdmin
      { session := some "mallory" }).2.rows, row.userSub ≠ "mallory" := by
    decide
  exact ⟨fun authority => authority.memberless memberless _ (passed false),
    fun authority => authority.failed (by decide) _ (passed true)⟩

end AuthService

end MqConnector
