/-
This file models the hash chain of `storage/audit.go`: `Insert`, `DeleteOlderThan` and
`Verify` over the rows of `audit_log`.

Every row carries the hash of the row before it in its tenant. `Insert` fixes the
instant and the id of its row, takes `chainMu`, looks the predecessor up as the row of
the tenant with the greatest instant and id, and writes. Any number of callers do so,
and `DeleteOlderThan`, which does not take the mutex, falls anywhere. `Verify` walks
the rows by tenant, instant and id. SHA-256 is a parameter: a function to 32 bytes.

Postgres, which is left out here, wraps the same two statements in a serialisable
transaction.
-/

import MqConnector.Database
import Mathlib.Data.Prod.Lex

namespace MqConnector

/-! ### Rows and their hashes -/

/-- A row of `audit_log`; `instant` is the column `at`, in nanoseconds. -/
structure AuditRow extends AuditEntry where
  instant : Int
  deriving DecidableEq

/-- The zero `time.Time`. -/
def zeroTime : Int := -62135596800000000000

/-- `Time.UnixNano`, an `int64`. -/
def unixNano (instant : Int) : Int := instant.bmod (2 ^ 64)

/-- One lower-case hexadecimal digit. -/
def hexDigit (value : Nat) : Char :=
  if value < 10 then Char.ofNat (48 + value) else Char.ofNat (87 + value)

/-- `hex.EncodeToString` of a digest. -/
def encodeToString (digest : Fin 32 → UInt8) : String :=
  String.ofList ((List.ofFn digest).flatMap fun byte =>
    [hexDigit (byte.toNat / 16), hexDigit (byte.toNat % 16)])

theorem encodeToString_ne_empty (digest : Fin 32 → UInt8) : encodeToString digest ≠ "" := by
  intro empty
  have length := congrArg String.length empty
  rw [encodeToString, String.length_ofList, List.ofFn_succ, List.flatMap_cons, List.length_append]
    at length
  exact absurd length (by simp)

theorem hexDigit_injective :
    ∀ former < 16, ∀ latter < 16, hexDigit former = hexDigit latter → former = latter := by
  decide

def hexDigits (byte : UInt8) : List Char :=
  [hexDigit (byte.toNat / 16), hexDigit (byte.toNat % 16)]

theorem hexDigits_injective : Function.Injective hexDigits := by
  intro former latter same
  obtain ⟨high, rest⟩ := List.cons_eq_cons.mp same
  obtain ⟨low, -⟩ := List.cons_eq_cons.mp rest
  have bound := former.toNat_lt_size
  have bound' := latter.toNat_lt_size
  have sizes : UInt8.size = 256 := rfl
  have highs := hexDigit_injective _ (by omega) _ (by omega) high
  have lows := hexDigit_injective _ (by omega) _ (by omega) low
  exact UInt8.toNat_inj.mp (by omega)

theorem flatMap_hexDigits_injective : Function.Injective fun bytes : List UInt8 =>
    bytes.flatMap hexDigits := by
  intro former
  induction former with
  | nil =>
    intro latter same
    cases latter with
    | nil => rfl
    | cons byte rest => exact absurd same.symm (List.cons_ne_nil _ _)
  | cons byte rest hypothesis =>
    intro latter same
    cases latter with
    | nil => exact absurd same (List.cons_ne_nil _ _)
    | cons other others =>
      obtain ⟨first, further⟩ := List.append_inj (same : hexDigits byte ++ rest.flatMap hexDigits =
        hexDigits other ++ others.flatMap hexDigits) rfl
      rw [hexDigits_injective first, hypothesis further]

/-- Different hashes have different hexadecimal texts. -/
theorem encodeToString_injective : Function.Injective encodeToString := by
  intro former latter same
  have texts := String.ofList_injective same
  exact List.ofFn_injective (flatMap_hexDigits_injective texts)

namespace AuditRow

/-- The place of a row in its tenant's walk. -/
def rank (row : AuditRow) : Int ×ₗ String :=
  toLex (row.instant, row.id)

/-- The place of a row in the walk over all tenants. -/
def key (row : AuditRow) : String ×ₗ (Int ×ₗ String) :=
  toLex (row.tenantID, row.rank)

/-- `canonicalAuditBytes`: ten fields, joined by line feeds. -/
def canonicalAuditBytes (row : AuditRow) : String :=
  "\n".intercalate [row.id, row.tenantID, toString (unixNano row.instant), row.actor, row.actorSub,
    row.action, row.resource, toString row.status, row.requestID, row.remoteIP]

/-- What `Insert` fills in before it takes the mutex. -/
def complete (row : AuditRow) (freshID : String) (now : Int) : AuditRow :=
  { row with
    tenantID := if row.tenantID = "" then defaultTenantID else row.tenantID
    id := if row.id = "" then freshID else row.id
    instant := if row.instant = zeroTime then now else row.instant }

end AuditRow

section Chain

variable (sha256 : String → Fin 32 → UInt8)

/-- `computeAuditHash`. -/
def computeAuditHash (prevHash : String) (row : AuditRow) : String :=
  encodeToString (sha256 (prevHash ++ row.canonicalAuditBytes))

/-- A row that is hashed behind another. -/
def AuditRow.chained (row : AuditRow) (prev : String) : AuditRow :=
  { row with prevHash := prev, hash := computeAuditHash sha256 prev row }

/-! ### Insert and DeleteOlderThan -/

/-- Where a caller of `Insert` is: outside, with its row fixed, or under the mutex with the hash it
read. -/
inductive InsertPhase
  | idle
  | fixed (row : AuditRow)
  | headed (row : AuditRow) (prev : String)
  deriving DecidableEq

/-- The table, who holds `chainMu`, and the callers. -/
structure AuditState where
  rows : List AuditRow := []
  chainMu : Option Nat := none
  callers : Nat → InsertPhase := fun _ => .idle

/-- The steps of the callers and of the retention job. -/
inductive AuditLabel
  | call (caller : Nat) (row : AuditRow) (freshID : String) (now : Int)
  | head (caller : Nat) (answered : Bool)
  | write (caller : Nat) (answered : Bool)
  | deleteOlderThan (cutoff : Int)
  deriving DecidableEq

/-- The rows of one tenant. -/
def tenantRows (rows : List AuditRow) (tenantID : String) : List AuditRow :=
  rows.filter fun row => row.tenantID = tenantID

/-- The predecessor lookup: `ORDER BY at DESC, id DESC LIMIT 1`. -/
def chainHead (rows : List AuditRow) (tenantID : String) : Option String :=
  ((tenantRows rows tenantID).insertionSort fun former latter => latter.rank ≤ former.rank).head?.map
    fun row => row.hash

namespace AuditState

def setCaller (state : AuditState) (caller : Nat) (phase : InsertPhase) : AuditState :=
  { state with callers := Function.update state.callers caller phase }

/-- One step of a caller or of the pruning. -/
def step (state : AuditState) : AuditLabel → Option AuditState
  | .call caller row freshID now =>
    match state.callers caller with
    | .idle => some (state.setCaller caller (.fixed (row.complete freshID now)))
    | _ => none
  | .head caller answered =>
    match state.callers caller, state.chainMu with
    | .fixed row, none =>
      if answered then
        some { state.setCaller caller (.headed row ((chainHead state.rows row.tenantID).getD "")) with
          chainMu := some caller }
      else some (state.setCaller caller .idle)
    | _, _ => none
  | .write caller answered =>
    match state.callers caller with
    | .headed row prev =>
      let released := { state.setCaller caller .idle with chainMu := none }
      -- the id is the primary key
      if answered = true ∧ ∀ other ∈ state.rows, other.id ≠ row.id then
        some { released with rows := state.rows ++ [row.chained sha256 prev] }
      else some released
    | _ => none
  | .deleteOlderThan cutoff =>
    some { state with rows := state.rows.filter fun row => cutoff ≤ row.instant }

end AuditState

/-! ### Verify -/

/-- The two values of `ChainStatus.Status`. -/
inductive ChainVerdict
  | ok | broken
  deriving DecidableEq

/-- `storage.ChainStatus`; `firstBroken` holds the id, the instant and the reason of the first row
that fails. -/
structure ChainStatus where
  tenantID : String
  status : ChainVerdict := .ok
  checked : Nat := 0
  firstBroken : Option (String × Int × String) := none
  deriving DecidableEq

/-- The two maps `Verify` keeps. -/
structure ChainWalk where
  statusByTenant : List ChainStatus := []
  expectedPrev : String → Option String := fun _ => none

/-- Why a row fails, given the hash seen before it in its tenant. -/
def brokenWhy (row : AuditRow) (prior : Option String) : Option String :=
  if computeAuditHash sha256 row.prevHash row ≠ row.hash then
    some "row hash does not match canonical recomputation"
  else if ∃ prev ∈ prior, row.prevHash ≠ prev then
    some "row prev_hash does not match prior row's hash"
  else none

/-- What a row does to the status of its tenant. -/
def ChainStatus.visit (status : ChainStatus) (row : AuditRow) (prior : Option String) : ChainStatus :=
  let counted := { status with checked := status.checked + 1 }
  if row.hash = "" then counted
  else
    match brokenWhy sha256 row prior with
    | some why =>
      if counted.status = .ok then
        { counted with status := .broken, firstBroken := some (row.id, row.instant, why) }
      else counted
    | none => counted

/-- The loop of `Verify`. -/
def ChainWalk.visit (walk : ChainWalk) (row : AuditRow) : ChainWalk :=
  let known : List ChainStatus :=
    if ∃ status ∈ walk.statusByTenant, status.tenantID = row.tenantID then walk.statusByTenant
    else walk.statusByTenant ++ [{ tenantID := row.tenantID }]
  { statusByTenant := known.map fun status =>
      if status.tenantID = row.tenantID then status.visit sha256 row (walk.expectedPrev row.tenantID)
      else status
    expectedPrev := Function.update walk.expectedPrev row.tenantID (some row.hash) }

/-- The rows `Verify` is asked for, in the order it walks them. -/
def walkOrder (rows : List AuditRow) (tenantID : String) : List AuditRow :=
  (rows.filter fun row => tenantID = "*" ∨ row.tenantID = tenantID).insertionSort
    fun former latter => former.key ≤ latter.key

/-- `Verify`, with the text of `ErrTenantRequired`. -/
def verify (rows : List AuditRow) (tenantID : String) : Except String (List ChainStatus) :=
  if tenantID = "" then .error "storage: tenant_id is required"
  else .ok ((walkOrder rows tenantID).foldl (ChainWalk.visit sha256) {}).statusByTenant

end Chain

end MqConnector
