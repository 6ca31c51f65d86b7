/-
This file models `internal/storage/dedup.go`, the payload-hash window behind the
executor's destination-side dedup gate.

`CheckAndRecord` runs its three statements in one transaction: expire the stale
row of the pair, upsert, read the hit count back. The model keeps the three
statements apart and composes them; the outcome the executor acts on is read off
the count, as in the source.
-/

import MqConnector.Models

namespace MqConnector

/-- A row of `pipeline_dedup`. Instants are nanoseconds. -/
structure DedupRow where
  firstSeenAt : Int
  lastSeenAt : Int
  hits : Nat
  deriving DecidableEq

/-- The table, keyed by pipeline id and payload hash. -/
abbrev DedupTable := String × String → Option DedupRow

def second : Int := 1000000000

namespace DedupTable

/-- `DELETE … WHERE pipeline_id = ? AND payload_hash = ? AND last_seen_at < ?`. -/
def expire (table : DedupTable) (key : String × String) (cutoff : Int) : DedupTable :=
  Function.update table key ((table key).filter fun row => cutoff ≤ row.lastSeenAt)

/-- `INSERT … ON CONFLICT DO UPDATE`. -/
def upsert (table : DedupTable) (key : String × String) (now : Int) : DedupTable :=
  Function.update table key <| some <|
    match table key with
    | none => { firstSeenAt := now, lastSeenAt := now, hits := 1 }
    | some row => { row with lastSeenAt := now, hits := row.hits + 1 }

/-- `DedupRepo.CheckAndRecord` on a store that does not fail: whether the payload is a
duplicate, and the table afterwards. -/
def checkAndRecord (table : DedupTable) (pipelineID payloadHash : String) (windowSeconds now : Int) :
    Except String (Bool × DedupTable) :=
  if pipelineID = "" then .error "dedup: pipeline_id required"
  else if payloadHash = "" then .error "dedup: payload_hash required"
  else if windowSeconds ≤ 0 then .ok (false, table)
  else
    let cutoff := now - windowSeconds * second
    let recorded := (table.expire (pipelineID, payloadHash) cutoff).upsert
      (pipelineID, payloadHash) now
    match recorded (pipelineID, payloadHash) with
    | none => .error "dedup: read hits: no rows"
    | some row => .ok (decide (1 < row.hits), recorded)

def prune (table : DedupTable) (cutoff : Int) : DedupTable :=
  fun key => (table key).filter fun row => cutoff ≤ row.lastSeenAt

/-- Whether the window of a check at `now` still covers the row of a pair. -/
def live (table : DedupTable) (key : String × String) (windowSeconds now : Int) : Bool :=
  ((table key).filter fun row => now - windowSeconds * second ≤ row.lastSeenAt).isSome

/-! ### What a check decides -/

/-- The rows of a table count at least one sighting each. -/
def Counted (table : DedupTable) : Prop :=
  ∀ key row, table key = some row → 1 ≤ row.hits

theorem Counted.expire {table : DedupTable} (counted : table.Counted) (key : String × String)
    (cutoff : Int) : (table.expire key cutoff).Counted := by
  intro other row found
  by_cases same : other = key
  · subst same
    rw [DedupTable.expire, Function.update_self] at found
    exact counted other row (Option.filter_eq_some_iff.mp found).1
  · rw [DedupTable.expire, Function.update_of_ne same] at found
    exact counted other row found

theorem Counted.upsert {table : DedupTable} (counted : table.Counted) (key : String × String)
    (now : Int) : (table.upsert key now).Counted := by
  intro other row found
  by_cases same : other = key
  · subst same
    rw [DedupTable.upsert, Function.update_self, Option.some_inj] at found
    subst found
    split
    · exact le_refl 1
    · exact Nat.succ_le_succ (Nat.zero_le _)
  · rw [DedupTable.upsert, Function.update_of_ne same] at found
    exact counted other row found

theorem Counted.prune {table : DedupTable} (counted : table.Counted) (cutoff : Int) :
    (table.prune cutoff).Counted := by
  intro key row found
  exact counted key row (Option.filter_eq_some_iff.mp found).1

theorem one_lt_hits_iff {table : DedupTable} (counted : table.Counted) (key : String × String)
    (windowSeconds now : Int) :
    ∃ row, ((table.expire key (now - windowSeconds * second)).upsert key now) key = some row ∧
      decide (1 < row.hits) = table.live key windowSeconds now := by
  rw [DedupTable.upsert, Function.update_self, DedupTable.expire, Function.update_self]
  refine ⟨_, rfl, ?_⟩
  rw [live]
  cases found : (table key).filter fun row => decide (now - windowSeconds * second ≤ row.lastSeenAt)
    with
  | none => rfl
  | some row =>
    have sighted : 1 ≤ row.hits := counted key row (Option.filter_eq_some_iff.mp found).1
    exact decide_eq_true (Nat.lt_succ_of_le sighted)

theorem checkAndRecord_eq {table : DedupTable} (counted : table.Counted)
    (pipelineID payloadHash : String) (windowSeconds now : Int) (pipelineGiven : pipelineID ≠ "")
    (hashGiven : payloadHash ≠ "") (windowed : 0 < windowSeconds) :
    table.checkAndRecord pipelineID payloadHash windowSeconds now =
      .ok (table.live (pipelineID, payloadHash) windowSeconds now,
        (table.expire (pipelineID, payloadHash) (now - windowSeconds * second)).upsert
          (pipelineID, payloadHash) now) := by
  obtain ⟨row, found, decided⟩ :=
    one_lt_hits_iff counted (pipelineID, payloadHash) windowSeconds now
  rw [checkAndRecord, if_neg pipelineGiven, if_neg hashGiven, if_neg (not_le.mpr windowed)]
  simp only [found, decided]

end DedupTable

end MqConnector
