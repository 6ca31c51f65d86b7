/-
This file models the tables authority is read from: `tenant_memberships` with the
statements of `storage/memberships.go`, and `api_tokens` with the lookup of
`storage/tokens.go`.

A membership table is the list of its rows with the primary key as a field, so a
table with two rows for one tenant and subject cannot be built, and an UPDATE
that would make one fails as the database's does. The bootstrap adoption inside
it is written statement by statement: when a later statement fails the rows the
earlier ones rewrote stay rewritten.
-/

import MqConnector.Models
import Mathlib.Data.List.Sort

namespace MqConnector

/-! ### Roles -/

/-- The four tenant-scoped roles; both tables constrain their role column to them. -/
inductive Role
  | viewer
  | operator
  | admin
  | owner
  deriving DecidableEq

namespace Role

def rank : Role → Nat
  | .viewer => 0
  | .operator => 1
  | .admin => 2
  | .owner => 3

/-- `Role.AtLeast`; the middleware's and the token handler's copies of it agree with it. -/
def atLeast (have_ want : Role) : Bool :=
  decide (want.rank ≤ have_.rank)

end Role

/-! ### The membership table -/

/-- A row of `tenant_memberships`, without its two time stamps, which nothing reads. -/
structure Membership where
  tenantID : String
  userSub : String
  username : String
  role : Role
  systemAdmin : Bool
  deriving DecidableEq

def Membership.key (row : Membership) : String × String :=
  (row.tenantID, row.userSub)

/-- The table `tenant_memberships`. -/
structure Memberships where
  rows : List Membership
  keysNodup : (rows.map Membership.key).Nodup

namespace Memberships

/-- SQLite's `LOWER`, which folds ASCII letters only. -/
def sqlLower (text : String) : String :=
  String.ofList (text.toList.map Char.toLower)

/-- `DELETE FROM tenant_memberships WHERE ...`. -/
def deleteWhere (table : Memberships) (condition : Membership → Bool) : Memberships where
  rows := table.rows.filter fun row => !condition row
  keysNodup := table.keysNodup.sublist (List.filter_sublist.map _)

/-- `UPDATE tenant_memberships SET ... WHERE ...`, refused when two rows would share a key. -/
def updateWhere (table : Memberships) (condition : Membership → Bool)
    (change : Membership → Membership) : Option Memberships :=
  let changed := table.rows.map fun row => if condition row then change row else row
  if unique : (changed.map Membership.key).Nodup then some ⟨changed, unique⟩ else none

/-- `MembershipRepo.queryByUser`: the rows of a subject by tenant id. -/
def queryByUser (table : Memberships) (userSub : String) : List Membership :=
  (table.rows.filter fun row => row.userSub == userSub).insertionSort
    fun first second => first.tenantID ≤ second.tenantID

def get (table : Memberships) (tenantID userSub : String) : Option Membership :=
  table.rows.find? fun row => row.tenantID == tenantID && row.userSub == userSub

def isSystemAdmin (table : Memberships) (userSub : String) : Bool :=
  table.rows.any fun row => row.userSub == userSub && row.systemAdmin

@[simp]
theorem mem_queryByUser (table : Memberships) (userSub : String) (row : Membership) :
    row ∈ table.queryByUser userSub ↔ row ∈ table.rows ∧ row.userSub = userSub := by
  unfold queryByUser
  rw [(List.perm_insertionSort _ _).mem_iff, List.mem_filter, beq_iff_eq]

theorem queryByUser_ne_nil_iff (table : Memberships) (userSub : String) :
    table.queryByUser userSub ≠ [] ↔ ∃ row ∈ table.rows, row.userSub = userSub := by
  rw [ne_eq, List.eq_nil_iff_forall_not_mem]
  push Not
  simp only [mem_queryByUser]

theorem queryByUser_sorted (table : Memberships) (userSub : String) :
    (table.queryByUser userSub).Pairwise fun first second =>
      first.tenantID ≤ second.tenantID := by
  have total : Std.Total fun first second : Membership => first.tenantID ≤ second.tenantID :=
    ⟨fun first second => le_total first.tenantID second.tenantID⟩
  have transitive : IsTrans Membership fun first second => first.tenantID ≤ second.tenantID :=
    ⟨fun first second third => le_trans⟩
  exact List.pairwise_insertionSort _ _

/-! ### Bootstrap adoption -/

/-- The statements of a session's lookups, in the order they run. -/
inductive LookupStatement
  | tokenLookup
  | queryByUser
  | checkSignature
  | cleanBootstrap
  | renameBootstrap
  | dropStale
  | adoptStale
  | queryAdopted
  | tenantGet
  deriving DecidableEq

section Lookups

-- `strings.ToLower`, and the statements the database fails
variable (toLower : String → String) (fails : LookupStatement → Bool)

/-- Step 1 of the adoption: the seeded row goes when its tenant has a real row for the name. -/
def cleanBootstrap (table : Memberships) (username bootstrapKey : String) : Memberships :=
  table.deleteWhere fun row =>
    row.userSub == bootstrapKey && table.rows.any fun other =>
      other.tenantID == row.tenantID && sqlLower other.username == sqlLower username &&
        other.userSub != bootstrapKey

/-- Step 2: the seeded rows move to the subject. -/
def renameBootstrap (table : Memberships) (userSub username bootstrapKey : String) :
    Option Memberships :=
  table.updateWhere (fun row => row.userSub == bootstrapKey)
    fun row => { row with userSub := userSub, username := username }

/-- Step 3, first half: rows of the name under another subject go when the subject has a row
in their tenant. -/
def dropStale (table : Memberships) (userSub username : String) : Memberships :=
  table.deleteWhere fun row =>
    sqlLower row.username == sqlLower username && row.userSub != userSub &&
      table.rows.any fun other => other.tenantID == row.tenantID && other.userSub == userSub

/-- Step 3, second half: the rows of the name that are left move to the subject. -/
def adoptStale (table : Memberships) (userSub username : String) : Option Memberships :=
  table.updateWhere
    (fun row => sqlLower row.username == sqlLower username && row.userSub != userSub)
    fun row => { row with userSub := userSub }

/-- Whether some row of the name owns the default tenant, the signature of the bootstrap
administrator. -/
def hasBootstrapSignature (table : Memberships) (username : String) : Bool :=
  table.rows.any fun row =>
    sqlLower row.username == sqlLower username && row.tenantID == defaultTenantID &&
      row.role == .owner

/-- `MembershipRepo.adoptBootstrap`: whether it returned without an error, and the table it
leaves. -/
def adoptBootstrap (table : Memberships) (userSub username : String) : Bool × Memberships :=
  if userSub == "" || username == "" then (true, table)
  else if fails .checkSignature then (false, table)
  else if !table.hasBootstrapSignature username then (true, table)
  else if fails .cleanBootstrap then (false, table)
  else
    let bootstrapKey := "bootstrap:" ++ toLower username
    let cleaned := table.cleanBootstrap username bootstrapKey
    match cleaned.renameBootstrap userSub username bootstrapKey with
    | none => (false, cleaned)
    | some renamed =>
      if fails .renameBootstrap then (false, cleaned)
      else if fails .dropStale then (false, renamed)
      else
        let dropped := renamed.dropStale userSub username
        match dropped.adoptStale userSub username with
        | none => (false, dropped)
        | some adopted => if fails .adoptStale then (false, dropped) else (true, adopted)

/-- `MembershipRepo.ListByUser`: its rows, or `none` when a statement failed, and the table
afterwards. -/
def listByUser (table : Memberships) (userSub username : String) :
    Option (List Membership) × Memberships :=
  if fails .queryByUser then (none, table)
  else if (table.queryByUser userSub).isEmpty && username != "" then
    let (succeeded, adopted) := table.adoptBootstrap toLower fails userSub username
    if !succeeded || fails .queryAdopted then (none, adopted)
    else (some (adopted.queryByUser userSub), adopted)
  else (some (table.queryByUser userSub), table)

theorem listByUser_rows (table after : Memberships) (userSub username : String)
    (rows : List Membership)
    (found : table.listByUser toLower fails userSub username = (some rows, after)) :
    rows = after.queryByUser userSub := by
  unfold listByUser at found
  split at found
  · simp at found
  · split at found
    · dsimp only at found
      split at found
      · simp at found
      · simp only [Prod.mk.injEq, Option.some.injEq] at found
        rw [← found.1, found.2]
    · simp only [Prod.mk.injEq, Option.some.injEq] at found
      rw [← found.1, found.2]

/-! ### Whom a lookup finds -/

theorem mem_deleteWhere (table : Memberships) (condition : Membership → Bool) (row : Membership) :
    row ∈ (table.deleteWhere condition).rows ↔ row ∈ table.rows ∧ condition row = false := by
  unfold deleteWhere
  simp

theorem adoptBootstrap_unsigned {table : Memberships} {userSub username : String}
    (unsigned : userSub = "" ∨ table.hasBootstrapSignature username = false) :
    (table.adoptBootstrap toLower fails userSub username).2 = table := by
  unfold adoptBootstrap
  rcases unsigned with rfl | unsigned
  · simp
  · split
    · rfl
    · split
      · rfl
      · rw [unsigned, if_pos (by rfl)]

end Lookups

end Memberships

/-! ### API tokens -/

/-- A row of `api_tokens` with the columns a lookup reads; times are in nanoseconds. -/
structure APIToken where
  id : String
  tenantID : String
  userSub : String
  name : String
  tokenHash : String
  role : Role
  expiresAt : Option Int
  revokedAt : Option Int
  deriving DecidableEq

namespace APIToken

def active (token : APIToken) (now : Int) : Bool :=
  token.revokedAt.isNone && match token.expiresAt with
    | none => true
    | some expiresAt => decide (now < expiresAt)

/-- `APITokenRepo.Lookup` by the hash of the presented secret. -/
def lookup (tokens : List APIToken) (now : Int) (hash : String) : Option APIToken :=
  match tokens.find? fun token => token.tokenHash == hash with
  | some token => if token.active now then some token else none
  | none => none

end APIToken

end MqConnector
