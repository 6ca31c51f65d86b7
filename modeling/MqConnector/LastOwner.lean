/-
This file asks whether member edits can leave a tenant without an owner.

`handleDeleteMember` refuses to remove the last owner, "otherwise the tenant becomes
unmanageable". It counts the owners in one statement and deletes in the next.
`handleUpsertMember` has no such guard: it writes any role over an owner's row, and
clears the row's `system_admin` flag as it does. `handleCreateTenant` writes the
tenant and then its first owner, and answers 201 whether or not the second statement
succeeded.

A request takes one step per statement, and any number of them run at once.
-/

import MqConnector.AdminHandlers

namespace MqConnector

/-! ### Requests, statement by statement -/

/-- The three requests. A tenant without an id gets `freshID`. -/
inductive MemberRequest
  | upsertMember (tenantID : String) (body : Except String Context.MemberDTO)
  | deleteMember (tenantID userSub : String)
  | createTenant (body : Except String Tenant) (freshID : String)

/-- The statement a request is about to make, or that it is about to answer 201. -/
inductive MemberPhase
  | idle
  | checkingAdmin (user : User) (request : MemberRequest)
  | checkingOwner (user : User) (tenantID : String) (request : MemberRequest)
  | upserting (row : Membership)
  | listing (tenantID userSub : String)
  | deleting (tenantID userSub : String)
  | creating (user : User) (row : Tenant)
  | founding (user : User) (tenantID : String)
  | created (tenantID : String)

/-- The two tables and the requests in progress. -/
structure MemberState where
  tenants : List Tenant
  table : Memberships
  requests : Nat → MemberPhase

/-- A request arrives, or makes its next statement, which may fail. -/
inductive MemberLabel
  | call (caller : Nat) (user : User) (request : MemberRequest)
  | advance (caller : Nat) (succeeds : Bool)

/-- The tenant `isOwnerOf` asks for; creating a tenant takes a system admin. -/
def MemberRequest.tenantID : MemberRequest → Option String
  | .upsertMember tenantID _ => some tenantID
  | .deleteMember tenantID _ => some tenantID
  | .createTenant _ _ => none

/-- Where an authorised request goes on. -/
def MemberRequest.authorised (user : User) : MemberRequest → MemberPhase
  | .upsertMember _ (.error _) => .idle
  | .upsertMember tenantID (.ok given) =>
    if given.userSub = "" then .idle
    else
      match given.role with
      | none => .idle
      | some role => .upserting
        { tenantID
          userSub := given.userSub
          username := given.username
          role
          systemAdmin := false }
  | .deleteMember tenantID userSub => .listing tenantID userSub
  | .createTenant (.error _) _ => .idle
  | .createTenant (.ok given) freshID =>
    if given.slug = "" ∨ given.name = "" then .idle
    else .creating user
      { given with
        id := if given.id = "" then freshID else given.id
        status := if given.status = "" then "active" else given.status }

/-- The row that makes the creator the owner. -/
def foundingRow (user : User) (tenantID : String) : Membership where
  tenantID := tenantID
  userSub := user.sub
  username := if user.preferredUsername = "" then user.name else user.preferredUsername
  role := .owner
  systemAdmin := false

/-- The guard of `handleDeleteMember`, on the rows it was given. -/
def removesLastOwner (all : List Membership) (userSub : String) : Bool :=
  all.any fun row => row.userSub == userSub && row.role == .owner &&
    (all.filter fun row => row.role == .owner).length == 1

namespace MemberState

def initial (tenants : List Tenant) (table : Memberships) : MemberState where
  tenants := tenants
  table := table
  requests := fun _ => .idle

def setRequest (state : MemberState) (caller : Nat) (phase : MemberPhase) : MemberState :=
  { state with requests := Function.update state.requests caller phase }

/-- One statement of a request. -/
def step (state : MemberState) : MemberLabel → Option MemberState
  | .call caller user request =>
    match state.requests caller with
    | .idle => some (state.setRequest caller (.checkingAdmin user request))
    | _ => none
  | .advance caller succeeds =>
    match state.requests caller with
    | .idle => none
    | .checkingAdmin user request =>
      if succeeds && state.table.isSystemAdmin user.sub then
        some (state.setRequest caller (request.authorised user))
      else
        match request.tenantID with
        | some tenantID => some (state.setRequest caller (.checkingOwner user tenantID request))
        | none => some (state.setRequest caller .idle)
    | .checkingOwner user tenantID request =>
      if succeeds && (state.table.get tenantID user.sub).any fun row => row.role == .owner then
        some (state.setRequest caller (request.authorised user))
      else some (state.setRequest caller .idle)
    | .upserting row =>
      if succeeds then
        some { state.setRequest caller .idle with table := state.table.upsert row }
      else some (state.setRequest caller .idle)
    | .listing tenantID userSub =>
      -- the error of the listing is dropped
      let all := if succeeds then state.table.listByTenant tenantID else []
      if removesLastOwner all userSub then some (state.setRequest caller .idle)
      else some (state.setRequest caller (.deleting tenantID userSub))
    | .deleting tenantID userSub =>
      if succeeds then
        some { state.setRequest caller .idle with table := state.table.delete tenantID userSub }
      else some (state.setRequest caller .idle)
    | .creating user row =>
      if succeeds && !state.tenants.any fun other => other.id == row.id || other.slug == row.slug then
        some { state.setRequest caller (.founding user row.id) with
          tenants := state.tenants ++ [row] }
      else some (state.setRequest caller .idle)
    | .founding user tenantID =>
      -- and so is the error of the first membership
      if succeeds then
        some { state.setRequest caller (.created tenantID) with
          table := state.table.upsert (foundingRow user tenantID) }
      else some (state.setRequest caller (.created tenantID))
    | .created _ => some (state.setRequest caller .idle)

end MemberState

/-! ### Owners and flags -/

/-- The tenant has an owner's row. -/
def HasOwner (table : Memberships) (tenantID : String) : Prop :=
  ∃ row ∈ table.rows, row.tenantID = tenantID ∧ row.role = .owner

/-- The row of the user is the only owner row of the tenant. -/
def SoleOwner (table : Memberships) (tenantID userSub : String) : Prop :=
  (∃ row ∈ table.rows, row.key = (tenantID, userSub) ∧ row.role = .owner) ∧
    ∀ row ∈ table.rows, row.tenantID = tenantID → row.role = .owner → row.userSub = userSub

/-- The row of the user makes it a system admin. -/
def Flagged (table : Memberships) (tenantID userSub : String) : Prop :=
  ∃ row ∈ table.rows, row.key = (tenantID, userSub) ∧ row.systemAdmin = true

/-- A row that is still there has the flag it had. -/
def FlagsKept (table after : Memberships) : Prop :=
  ∀ row ∈ table.rows, ∀ later ∈ after.rows, later.key = row.key → later.systemAdmin = row.systemAdmin

namespace MemberState

/-- A tenant about to be answered as created has an owner. -/
def CreatedOwned (state : MemberState) : Prop :=
  ∀ caller tenantID, state.requests caller = .created tenantID → HasOwner state.table tenantID

/-- What a step must not break: a tenant with an owner has one afterwards, no flag of a row that is
still there changes, and a tenant about to be answered as created has an owner. -/
structure Keeps (state next : MemberState) : Prop where
  owners : ∀ tenantID, HasOwner state.table tenantID → HasOwner next.table tenantID
  flags : FlagsKept state.table next.table
  created : next.CreatedOwned

/-- The condition on a step. A member edit that succeeds gives a role below owner, or removes the
row, only where that row is not the only owner row of its tenant, and is made on no row of a system
admin; a first membership is written, on no row of a system admin, or the tenant has an owner
already. -/
def Spares (state : MemberState) : MemberLabel → Prop
  | .call _ _ _ => True
  | .advance caller succeeds =>
    match state.requests caller, succeeds with
    | .upserting row, true =>
      (row.role = .owner ∨ ¬ SoleOwner state.table row.tenantID row.userSub) ∧
        ¬ Flagged state.table row.tenantID row.userSub
    | .deleting tenantID userSub, true => ¬ SoleOwner state.table tenantID userSub
    | .founding user tenantID, true => ¬ Flagged state.table tenantID user.sub
    | .founding _ tenantID, false => HasOwner state.table tenantID
    | _, _ => True

instance (table : Memberships) (tenantID : String) : Decidable (HasOwner table tenantID) :=
  inferInstanceAs (Decidable (∃ row ∈ table.rows, _))

instance (table : Memberships) (tenantID userSub : String) :
    Decidable (SoleOwner table tenantID userSub) :=
  inferInstanceAs (Decidable ((∃ row ∈ table.rows, _) ∧ ∀ row ∈ table.rows, _))

instance (table : Memberships) (tenantID userSub : String) :
    Decidable (Flagged table tenantID userSub) :=
  inferInstanceAs (Decidable (∃ row ∈ table.rows, _))

instance (state : MemberState) : (label : MemberLabel) → Decidable (state.Spares label)
  | .call _ _ _ => isTrue trivial
  | .advance caller succeeds =>
    match phase : state.requests caller, succeeds with
    | .upserting row, true =>
      decidable_of_iff ((row.role = .owner ∨ ¬ SoleOwner state.table row.tenantID row.userSub) ∧
        ¬ Flagged state.table row.tenantID row.userSub) (by simp only [Spares, phase])
    | .deleting tenantID userSub, true =>
      decidable_of_iff (¬ SoleOwner state.table tenantID userSub) (by simp only [Spares, phase])
    | .founding user tenantID, true =>
      decidable_of_iff (¬ Flagged state.table tenantID user.sub) (by simp only [Spares, phase])
    | .founding _ tenantID, false =>
      decidable_of_iff (HasOwner state.table tenantID) (by simp only [Spares, phase])
    | .upserting _, false | .deleting _ _, false | .idle, _ | .checkingAdmin _ _, _
    | .checkingOwner _ _ _, _ | .listing _ _, _ | .creating _ _, _ | .created _, _ =>
      isTrue (by simp only [Spares, phase])

end MemberState

/-! ### What a write does to the owners -/

namespace Memberships

theorem eq_of_key_eq (table : Memberships) {row other : Membership} (member : row ∈ table.rows)
    (otherMember : other ∈ table.rows) (same : row.key = other.key) : row = other :=
  List.inj_on_of_nodup_map table.keysNodup member otherMember same

theorem mem_upsert (table : Memberships) (row other : Membership) :
    other ∈ (table.upsert row).rows ↔ other = row ∨ other ∈ table.rows ∧ other.key ≠ row.key := by
  unfold upsert
  split
  · rename_i present
    obtain ⟨old, oldMember, oldKey⟩ := List.mem_map.mp present
    rw [List.mem_map]
    constructor
    · rintro ⟨before, member, rfl⟩
      by_cases same : before.key = row.key
      · exact Or.inl (if_pos same)
      · rw [if_neg same]
        exact Or.inr ⟨member, same⟩
    · rintro (rfl | ⟨member, different⟩)
      · exact ⟨old, oldMember, if_pos oldKey⟩
      · exact ⟨other, member, if_neg different⟩
  · rename_i absent
    rw [List.mem_append, List.mem_singleton, or_comm]
    refine or_congr_right ⟨fun member => ⟨member, fun same => absent ?_⟩, And.left⟩
    exact same ▸ List.mem_map_of_mem member

theorem mem_delete (table : Memberships) (tenantID userSub : String) (other : Membership) :
    other ∈ (table.delete tenantID userSub).rows ↔
      other ∈ table.rows ∧ other.key ≠ (tenantID, userSub) := by
  rw [delete, mem_deleteWhere, Bool.eq_false_iff, ne_eq, Bool.and_eq_true, beq_iff_eq, beq_iff_eq,
    Membership.key, ne_eq, Prod.mk.injEq]

end Memberships

section Writes

variable {table : Memberships} {tenantID userSub : String}

theorem hasOwner_of_not_soleOwner (spared : ¬ SoleOwner table tenantID userSub) {other : String}
    (owned : HasOwner table other) :
    ∃ row ∈ table.rows, row.tenantID = other ∧ row.role = .owner ∧
      row.key ≠ (tenantID, userSub) := by
  obtain ⟨row, member, rfl, owner⟩ := owned
  by_cases hit : row.key = (tenantID, userSub)
  · -- the row goes, so some other row of its tenant owns it
    by_contra alone
    refine spared ⟨⟨row, member, hit, owner⟩, fun another found here owns => ?_⟩
    by_contra different
    have tenant : row.tenantID = tenantID := (Prod.mk.inj hit).1
    refine alone ⟨another, found, here.trans tenant.symm, owns, fun same => different ?_⟩
    exact (Prod.mk.inj same).2
  · exact ⟨row, member, rfl, owner, hit⟩

theorem SoleOwner.key_eq (sole : SoleOwner table tenantID userSub) {row : Membership}
    (member : row ∈ table.rows) (here : row.tenantID = tenantID) (owner : row.role = .owner) :
    row.key = (tenantID, userSub) :=
  Prod.ext here (sole.2 row member here owner)

theorem SoleOwner.hasOwner (sole : SoleOwner table tenantID userSub) : HasOwner table tenantID := by
  obtain ⟨row, member, hit, owner⟩ := sole.1
  exact ⟨row, member, (Prod.mk.inj hit).1, owner⟩

theorem owners_delete_iff :
    (∀ other, HasOwner table other → HasOwner (table.delete tenantID userSub) other) ↔
      ¬ SoleOwner table tenantID userSub := by
  constructor
  · intro kept sole
    obtain ⟨row, found, here, owner⟩ := kept tenantID sole.hasOwner
    obtain ⟨member, different⟩ := (table.mem_delete tenantID userSub row).mp found
    exact different (sole.key_eq member here owner)
  · intro spared other owned
    obtain ⟨row, member, here, owner, different⟩ := hasOwner_of_not_soleOwner spared owned
    exact ⟨row, (table.mem_delete tenantID userSub row).mpr ⟨member, different⟩, here, owner⟩

theorem flagsKept_delete : FlagsKept table (table.delete tenantID userSub) := by
  intro row member later found same
  have stays := ((table.mem_delete tenantID userSub later).mp found).1
  rw [table.eq_of_key_eq stays member same]

theorem owners_upsert_iff (row : Membership) :
    (∀ other, HasOwner table other → HasOwner (table.upsert row) other) ↔
      row.role = .owner ∨ ¬ SoleOwner table row.tenantID row.userSub := by
  constructor
  · intro kept
    by_contra both
    rw [not_or, not_not] at both
    obtain ⟨below, sole⟩ := both
    obtain ⟨other, found, here, owner⟩ := kept row.tenantID sole.hasOwner
    rcases (table.mem_upsert row other).mp found with rfl | ⟨member, different⟩
    · exact below owner
    · exact different (sole.key_eq member here owner)
  · rintro (owns | spared) other owned
    · obtain ⟨old, member, rfl, owner⟩ := owned
      by_cases hit : old.key = row.key
      · exact ⟨row, (table.mem_upsert row row).mpr (Or.inl rfl), (Prod.mk.inj hit).1.symm, owns⟩
      · exact ⟨old, (table.mem_upsert row old).mpr (Or.inr ⟨member, hit⟩), rfl, owner⟩
    · obtain ⟨old, member, here, owner, different⟩ := hasOwner_of_not_soleOwner spared owned
      exact ⟨old, (table.mem_upsert row old).mpr (Or.inr ⟨member, different⟩), here, owner⟩

theorem flagsKept_upsert_iff {row : Membership} (plain : row.systemAdmin = false) :
    FlagsKept table (table.upsert row) ↔ ¬ Flagged table row.tenantID row.userSub := by
  constructor
  · rintro kept ⟨old, member, hit, flag⟩
    have same := kept old member row ((table.mem_upsert row row).mpr (Or.inl rfl)) hit.symm
    exact absurd (plain.symm.trans (same.trans flag)) Bool.noConfusion
  · intro unflagged old member later found same
    rcases (table.mem_upsert row later).mp found with rfl | ⟨stays, -⟩
    · rw [plain]
      by_contra flag
      exact unflagged ⟨old, member, same.symm, (Bool.eq_true_of_not_eq_false fun off => flag off.symm)⟩
    · rw [table.eq_of_key_eq stays member same]

end Writes

/-! ### The writes of a run -/

namespace MemberState

variable {state next : MemberState} {label : MemberLabel}

/-- A request that is not about to answer 201. -/
def Unanswered : MemberPhase → Prop
  | .created _ => False
  | _ => True

/-- The rows about to be upserted carry no flag. -/
def Plain : MemberPhase → Prop
  | .upserting row => row.systemAdmin = false
  | _ => True

/-- Everything a step can do: leave the memberships and move a request that does not come to
answer 201, or make one of the three writes, or fail to write the first membership. -/
inductive Moves (state : MemberState) : MemberLabel → MemberState → Prop
  | quiet (label : MemberLabel) (caller : Nat) (phase : MemberPhase) (tenants : List Tenant)
      (spared : state.Spares label) (unanswered : Unanswered phase) (plain : Plain phase) :
      Moves state label { state.setRequest caller phase with tenants }
  | upsert (caller : Nat) (row : Membership) (phase : state.requests caller = .upserting row) :
      Moves state (.advance caller true)
        { state.setRequest caller .idle with table := state.table.upsert row }
  | delete (caller : Nat) (tenantID userSub : String)
      (phase : state.requests caller = .deleting tenantID userSub) :
      Moves state (.advance caller true)
        { state.setRequest caller .idle with table := state.table.delete tenantID userSub }
  | found (caller : Nat) (user : User) (tenantID : String)
      (phase : state.requests caller = .founding user tenantID) :
      Moves state (.advance caller true)
        { state.setRequest caller (.created tenantID) with
          table := state.table.upsert (foundingRow user tenantID) }
  | unfounded (caller : Nat) (user : User) (tenantID : String)
      (phase : state.requests caller = .founding user tenantID) :
      Moves state (.advance caller false) (state.setRequest caller (.created tenantID))

theorem authorised_unanswered (user : User) (request : MemberRequest) :
    Unanswered (request.authorised user) ∧ Plain (request.authorised user) := by
  cases request with
  | upsertMember tenantID body =>
    cases body with
    | error message => exact ⟨trivial, trivial⟩
    | ok given =>
      simp only [MemberRequest.authorised]
      split
      · exact ⟨trivial, trivial⟩
      · cases given.role with
        | none => exact ⟨trivial, trivial⟩
        | some role => exact ⟨trivial, rfl⟩
  | deleteMember tenantID userSub => exact ⟨trivial, trivial⟩
  | createTenant body freshID =>
    cases body with
    | error message => exact ⟨trivial, trivial⟩
    | ok given =>
      simp only [MemberRequest.authorised]
      split
      · exact ⟨trivial, trivial⟩
      · exact ⟨trivial, trivial⟩

theorem moves_of_step (fired : state.step label = some next) : state.Moves label next := by
  cases label with
  | call caller user request =>
    simp only [step] at fired
    split at fired
    · cases fired
      exact .quiet _ caller _ state.tenants trivial trivial trivial
    · cases fired
  | advance caller succeeds =>
    cases phase : state.requests caller with
    | idle =>
      simp only [step, phase] at fired
      cases fired
    | checkingAdmin user request =>
      have spared : state.Spares (.advance caller succeeds) := by simp only [Spares, phase]
      obtain ⟨unanswered, plain⟩ := authorised_unanswered user request
      simp only [step, phase] at fired
      split at fired
      · cases fired
        exact .quiet _ caller _ state.tenants spared unanswered plain
      · split at fired
        · cases fired
          exact .quiet _ caller _ state.tenants spared trivial trivial
        · cases fired
          exact .quiet _ caller _ state.tenants spared trivial trivial
    | checkingOwner user tenantID request =>
      have spared : state.Spares (.advance caller succeeds) := by simp only [Spares, phase]
      obtain ⟨unanswered, plain⟩ := authorised_unanswered user request
      simp only [step, phase] at fired
      split at fired
      · cases fired
        exact .quiet _ caller _ state.tenants spared unanswered plain
      · cases fired
        exact .quiet _ caller _ state.tenants spared trivial trivial
    | upserting row =>
      cases succeeds with
      | true =>
        simp only [step, phase, if_true] at fired
        cases fired
        exact .upsert caller row phase
      | false =>
        have spared : state.Spares (.advance caller false) := by simp only [Spares, phase]
        simp only [step, phase, Bool.false_eq_true, if_false] at fired
        cases fired
        exact .quiet _ caller _ state.tenants spared trivial trivial
    | listing tenantID userSub =>
      have spared : state.Spares (.advance caller succeeds) := by simp only [Spares, phase]
      simp only [step, phase] at fired
      generalize (if succeeds = true then state.table.listByTenant tenantID else []) = all at fired
      split at fired
      · cases fired
        exact .quiet _ caller _ state.tenants spared trivial trivial
      · cases fired
        exact .quiet _ caller _ state.tenants spared trivial trivial
    | deleting tenantID userSub =>
      cases succeeds with
      | true =>
        simp only [step, phase, if_true] at fired
        cases fired
        exact .delete caller tenantID userSub phase
      | false =>
        have spared : state.Spares (.advance caller false) := by simp only [Spares, phase]
        simp only [step, phase, Bool.false_eq_true, if_false] at fired
        cases fired
        exact .quiet _ caller _ state.tenants spared trivial trivial
    | creating user row =>
      have spared : state.Spares (.advance caller succeeds) := by simp only [Spares, phase]
      simp only [step, phase] at fired
      split at fired
      · cases fired
        exact .quiet _ caller _ _ spared trivial trivial
      · cases fired
        exact .quiet _ caller _ state.tenants spared trivial trivial
    | founding user tenantID =>
      cases succeeds with
      | true =>
        simp only [step, phase, if_true] at fired
        cases fired
        exact .found caller user tenantID phase
      | false =>
        simp only [step, phase, Bool.false_eq_true, if_false] at fired
        cases fired
        exact .unfounded caller user tenantID phase
    | created tenantID =>
      have spared : state.Spares (.advance caller succeeds) := by simp only [Spares, phase]
      simp only [step, phase] at fired
      cases fired
      exact .quiet _ caller _ state.tenants spared trivial trivial

/-! ### Every run -/

/-- What a run carries along. -/
structure Kept (state : MemberState) : Prop where
  created : state.CreatedOwned
  plain : ∀ caller, Plain (state.requests caller)

theorem kept_initial (tenants : List Tenant) (table : Memberships) :
    (initial tenants table).Kept where
  created := fun _ _ answering => MemberPhase.noConfusion answering
  plain := fun _ => trivial

theorem flagsKept_refl (table : Memberships) : FlagsKept table table := by
  intro row member later found same
  rw [table.eq_of_key_eq found member same]

theorem Kept.created_of_owners (kept : state.Kept) {caller : Nat} {phase : MemberPhase}
    {after : MemberState} (requests : after.requests = Function.update state.requests caller phase)
    (unanswered : Unanswered phase)
    (owners : ∀ tenantID, HasOwner state.table tenantID → HasOwner after.table tenantID) :
    after.CreatedOwned := by
  intro other tenantID answering
  rw [requests] at answering
  rcases Runs.update_cases answering with ⟨-, rfl⟩ | ⟨-, before⟩
  · exact absurd unanswered id
  · exact owners tenantID (kept.created other tenantID before)

/-- A step keeps the owners exactly if it spares them. -/
theorem Kept.keeps_iff_spares (kept : state.Kept) (moves : state.Moves label next) :
    state.Keeps next ↔ state.Spares label := by
  cases moves with
  | quiet _ caller phase tenants spared unanswered plain =>
    refine iff_of_true ⟨fun _ => id, flagsKept_refl _, ?_⟩ spared
    exact kept.created_of_owners rfl unanswered fun _ => id
  | upsert caller row phase =>
    have plain : row.systemAdmin = false := by
      have rowPlain := kept.plain caller
      rwa [phase] at rowPlain
    simp only [Spares, phase]
    rw [← owners_upsert_iff, ← flagsKept_upsert_iff plain]
    constructor
    · intro keeps
      exact ⟨keeps.owners, keeps.flags⟩
    · rintro ⟨owners, flags⟩
      exact ⟨owners, flags, kept.created_of_owners rfl trivial owners⟩
  | delete caller tenantID userSub phase =>
    simp only [Spares, phase]
    rw [← owners_delete_iff]
    constructor
    · intro keeps
      exact keeps.owners
    · intro owners
      exact ⟨owners, flagsKept_delete, kept.created_of_owners rfl trivial owners⟩
  | found caller user tenantID phase =>
    have unflagged : FlagsKept state.table (state.table.upsert (foundingRow user tenantID)) ↔
        ¬ Flagged state.table tenantID user.sub := flagsKept_upsert_iff rfl
    simp only [Spares, phase]
    rw [← unflagged]
    constructor
    · intro keeps
      exact keeps.flags
    · intro flags
      have owners : ∀ another, HasOwner state.table another →
          HasOwner (state.table.upsert (foundingRow user tenantID)) another :=
        (owners_upsert_iff (foundingRow user tenantID)).mpr (Or.inl rfl)
      have founded : HasOwner (state.table.upsert (foundingRow user tenantID)) tenantID :=
        ⟨foundingRow user tenantID, (state.table.mem_upsert _ _).mpr (Or.inl rfl), rfl, rfl⟩
      refine ⟨owners, flags, fun other another answering => ?_⟩
      rcases Runs.update_cases answering with ⟨-, same⟩ | ⟨-, before⟩
      · exact MemberPhase.created.inj same ▸ founded
      · exact owners another (kept.created other another before)
  | unfounded caller user tenantID phase =>
    simp only [Spares, phase]
    constructor
    · intro keeps
      exact keeps.created caller tenantID (Function.update_self caller _ _)
    · intro owned
      refine ⟨fun _ => id, flagsKept_refl _, fun other another answering => ?_⟩
      rcases Runs.update_cases answering with ⟨-, same⟩ | ⟨-, before⟩
      · exact MemberPhase.created.inj same ▸ owned
      · exact kept.created other another before

theorem Moves.plain (plain : ∀ caller, Plain (state.requests caller))
    (moves : state.Moves label next) (caller : Nat) : Plain (next.requests caller) := by
  have moved : ∀ {mover : Nat} {phase : MemberPhase}, Plain phase →
      Plain (Function.update state.requests mover phase caller) := by
    intro mover phase phasePlain
    rcases Runs.update_cases (rfl : Function.update state.requests mover phase caller = _) with
      ⟨-, same⟩ | ⟨-, same⟩
    · exact same ▸ phasePlain
    · exact same ▸ plain caller
  cases moves with
  | quiet _ _ _ _ _ _ phasePlain => exact moved phasePlain
  | upsert _ _ _ => exact moved trivial
  | delete _ _ _ _ => exact moved trivial
  | found _ _ _ _ => exact moved trivial
  | unfounded _ _ _ _ => exact moved trivial

/-- Every sparing step keeps the invariant. -/
theorem Kept.step (kept : state.Kept) (spared : state.Spares label)
    (fired : state.step label = some next) : next.Kept where
  created := ((kept.keeps_iff_spares (moves_of_step fired)).mpr spared).created
  plain := (moves_of_step fired).plain kept.plain

/-- The result: in every run whose steps all meet the condition, a tenant that has an owner at some
point has one ever after, a tenant about to be answered as created has one, and a further step
breaks nothing exactly if it meets the condition. -/
theorem owners_kept_of_spares (tenants : List Tenant) (table : Memberships)
    (middle state : MemberState)
    (reached : Runs.Reaches MemberState.step Spares (initial tenants table) middle)
    (further : Runs.Reaches MemberState.step Spares middle state) :
    (∀ tenantID, HasOwner middle.table tenantID → HasOwner state.table tenantID) ∧
      state.CreatedOwned ∧
      ∀ label next, state.step label = some next →
        (state.Keeps next ↔ state.Spares label) := by
  have middleKept : middle.Kept := reached.invariant Kept (kept_initial tenants table)
    fun _ _ _ kept spared fired => kept.step spared fired
  obtain ⟨kept, owners⟩ : state.Kept ∧
      ∀ tenantID, HasOwner middle.table tenantID → HasOwner state.table tenantID := by
    refine further.invariant (fun later => later.Kept ∧
      ∀ tenantID, HasOwner middle.table tenantID → HasOwner later.table tenantID)
      ⟨middleKept, fun _ => id⟩ ?_
    rintro later label after ⟨kept, owners⟩ spared fired
    have keeps := (kept.keeps_iff_spares (moves_of_step fired)).mpr spared
    exact ⟨kept.step spared fired, fun tenantID owned => keeps.owners tenantID (owners tenantID owned)⟩
  exact ⟨owners, kept.created, fun label next fired => kept.keeps_iff_spares (moves_of_step fired)⟩

/-! ### An owner removed and an owner demoted -/

def plainUser (sub : String) : User where
  sub := sub
  preferredUsername := sub
  name := sub

/-- The row of a user who owns the tenant `t`. -/
def ownerRow (sub : String) : Membership where
  tenantID := "t"
  userSub := sub
  username := sub
  role := .owner
  systemAdmin := false

def twoOwners : Memberships where
  rows := [ownerRow "ann", ownerRow "bob"]
  keysNodup := by decide

def oneOwner : Memberships where
  rows := [ownerRow "ann"]
  keysNodup := by decide

/-- One of two owners removes the other, and the tenant has an owner still. -/
theorem removed_owner_spared :
    ∃ state, Runs.Reaches MemberState.step Spares (initial [] twoOwners) state ∧
      state.table.rows = [ownerRow "ann"] ∧ HasOwner state.table "t" := by
  obtain ⟨state, reached, rows⟩ : ∃ state,
      Runs.Reaches MemberState.step Spares (initial [] twoOwners) state ∧
      state.table.rows = [ownerRow "ann"] :=
    ⟨_, Runs.reaches_of_exec MemberState.step Spares
      [.call 0 (plainUser "ann") (.deleteMember "t" "bob"), .advance 0 true, .advance 0 true,
        .advance 0 true, .advance 0 true] rfl, rfl⟩
  have owners := (owners_kept_of_spares [] twoOwners _ state .start reached).1
  exact ⟨state, reached, rows, owners "t" (by decide)⟩

/-- The only owner of a tenant gives itself the role of a viewer, and the request is over. -/
theorem demoted_sole_owner_lost :
    ∃ state, Runs.Reachable MemberState.step (initial [] oneOwner) state ∧
      HasOwner oneOwner "t" ∧ (∀ caller, state.requests caller = .idle) ∧
      ¬ HasOwner state.table "t" := by
  refine ⟨_, Runs.reaches_of_exec MemberState.step (fun _ _ => True)
    [.call 0 (plainUser "ann") (.upsertMember "t" (.ok
      { userSub := "ann", username := "ann", role := some .viewer })),
      .advance 0 true, .advance 0 true, .advance 0 true] rfl, by decide, ?_, by decide⟩
  intro caller
  cases caller with
  | zero => rfl
  | succ other => rfl

end MemberState

end MqConnector
