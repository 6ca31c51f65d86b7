/-
This file models `migrate`, which `Open` runs before the database is used.

Any number of processes open one database, each with as many migrations as its binary knows, and
any statement may fail. Only the primary key of `schema_migrations` keeps two transactions
apart. Still every migration takes effect once and in its turn.
-/

import MqConnector.Runs

namespace MqConnector

/-- `migrations`: what the database makes of the body of a version, and how many of them the binary
of each opener knows. -/
structure Migrations (Schema : Type) where
  blank : Schema
  exec : Nat → Schema → Option Schema
  known : Nat → Nat

/-- Where an opener is in `migrate`. A transaction carries the schema it sees. -/
inductive MigratePhase (Schema : Type)
  | creating
  | checking (version : Nat)
  | beginning (version : Nat)
  | applying (version : Nat) (schema : Schema)
  | recording (version : Nat) (schema : Schema)
  | committing (version : Nat) (schema : Schema)
  | restoring (version : Nat)
  | opened
  | failed
  deriving DecidableEq

/-- The database; `versions` are the rows of `schema_migrations`, the latest first. -/
structure MigratedTables (Schema : Type) where
  schema : Schema
  versions : List Nat

structure MigrateState (Schema : Type) where
  tables : MigratedTables Schema
  openers : Nat → MigratePhase Schema

/-- What becomes of a statement. One that is `lost` takes effect and reports an error. -/
inductive MigrateAnswer
  | done | failed | lost
  deriving DecidableEq

namespace Migrations

variable {Schema : Type} (migrations : Migrations Schema)

/-- What the next statement of an opener leads to. -/
def next (known : Nat) (tables : MigratedTables Schema) :
    MigratePhase Schema → MigrateAnswer → MigratePhase Schema
  | .creating, .done => .checking 1
  | .checking version, answer =>
    if known < version then .opened
    else if answer ≠ .done then .failed
    else if version ∈ tables.versions then .checking (version + 1)
    else .beginning version
  | .beginning version, .done => .applying version tables.schema
  | .applying version schema, .done => (migrations.exec version schema).elim .failed (.recording version)
  | .recording version schema, .done =>
    if version ∈ tables.versions then .failed else .committing version schema
  | .committing version _, .done => if version ∈ tables.versions then .failed else .restoring version
  | .restoring version, .done => .checking (version + 1)
  | .opened, _ => .opened
  | _, _ => .failed

/-- What it writes. A transaction whose version has been recorded meanwhile does not commit. -/
def written (tables : MigratedTables Schema) : MigratePhase Schema → MigrateAnswer → MigratedTables Schema
  | .committing version schema, .done | .committing version schema, .lost =>
    if version ∈ tables.versions then tables else { schema, versions := version :: tables.versions }
  | _, _ => tables

def step (state : MigrateState Schema) (move : Nat × MigrateAnswer) : Option (MigrateState Schema) :=
  some { tables := written state.tables (state.openers move.1) move.2
         openers := Function.update state.openers move.1
          (migrations.next (migrations.known move.1) state.tables (state.openers move.1) move.2) }

def initial : MigrateState Schema := ⟨⟨migrations.blank, []⟩, fun _ => .creating⟩

/-- The schema after the first migrations, each executed once and in its turn. -/
def upTo : Nat → Option Schema
  | 0 => some migrations.blank
  | count + 1 => (upTo count).bind (migrations.exec (count + 1))

structure InTurn (tables : MigratedTables Schema) : Prop where
  versions : tables.versions = (List.range' 1 tables.versions.length).reverse
  schema : migrations.upTo tables.versions.length = some tables.schema

/-- What is known of an opener when `count` migrations are recorded: those below its version are
among them, and its transaction is built on them unless its version has been recorded meanwhile. -/
def PhaseKept (known count : Nat) : MigratePhase Schema → Prop
  | .checking version | .beginning version => 0 < version ∧ version ≤ count + 1
  | .applying version schema =>
    0 < version ∧ version ≤ count + 1 ∧ (version = count + 1 → migrations.upTo count = some schema)
  | .recording version schema | .committing version schema =>
    0 < version ∧ version ≤ count + 1 ∧ (version = count + 1 → migrations.upTo version = some schema)
  | .restoring version => version ≤ count
  | .opened => known ≤ count
  | .creating | .failed => True

variable {migrations} {known count version : Nat} {tables : MigratedTables Schema}

theorem InTurn.mem_versions (turn : migrations.InTurn tables) (version : Nat) :
    version ∈ tables.versions ↔ 0 < version ∧ version ≤ tables.versions.length := by
  rw [turn.versions, List.mem_reverse, List.mem_range'_1, List.length_reverse, List.length_range']
  omega

theorem InTurn.record {schema : Schema} (turn : migrations.InTurn tables) (fresh : version ∉ tables.versions)
    (kept : migrations.PhaseKept known tables.versions.length (.committing version schema)) :
    migrations.InTurn { schema, versions := version :: tables.versions } := by
  obtain ⟨positive, next, built⟩ := kept
  rw [turn.mem_versions] at fresh
  have due : version = tables.versions.length + 1 := by omega
  constructor
  · rw [List.length_cons, List.range'_concat, List.reverse_append, ← turn.versions, due]
    simp [Nat.add_comm]
  · rw [List.length_cons, ← due]
    exact built due

/-- A statement writes nothing, or the one migration that is due. -/
theorem InTurn.write {phase : MigratePhase Schema} (turn : migrations.InTurn tables)
    (kept : migrations.PhaseKept known tables.versions.length phase) (answer : MigrateAnswer) :
    migrations.InTurn (written tables phase answer) ∧
      tables.versions.length ≤ (written tables phase answer).versions.length := by
  fun_cases written tables phase answer
  case case2 fresh => exact ⟨turn.record fresh kept, Nat.le_succ _⟩
  case case4 fresh => exact ⟨turn.record fresh kept, Nat.le_succ _⟩
  all_goals exact ⟨turn, Nat.le_refl _⟩

theorem PhaseKept.grow {more : Nat} (le : count ≤ more) {phase : MigratePhase Schema}
    (kept : migrations.PhaseKept known count phase) : migrations.PhaseKept known more phase := by
  cases phase
  all_goals grind [PhaseKept]

theorem PhaseKept.next {phase : MigratePhase Schema} (turn : migrations.InTurn tables)
    (kept : migrations.PhaseKept known tables.versions.length phase) (answer : MigrateAnswer) :
    migrations.PhaseKept known (written tables phase answer).versions.length
      (migrations.next known tables phase answer) := by
  have seen := turn.mem_versions
  have built := turn.schema
  fun_cases Migrations.next migrations known tables phase answer
  case case7 version schema =>
    cases ran : migrations.exec version schema with
    | none => trivial
    | some changed =>
      refine ⟨kept.1, kept.2.1, fun due => ?_⟩
      obtain rfl : version = tables.versions.length + 1 := due
      rw [upTo, kept.2.2 rfl]
      exact ran
  all_goals simp only [PhaseKept, written] at kept ⊢
  all_goals grind

structure Kept (migrations : Migrations Schema) (state : MigrateState Schema) : Prop where
  turn : migrations.InTurn state.tables
  phases : ∀ opener,
    migrations.PhaseKept (migrations.known opener) state.tables.versions.length (state.openers opener)

/-- Every step keeps the migrations' account. -/
theorem Kept.step {before after : MigrateState Schema} {move : Nat × MigrateAnswer}
    (kept : migrations.Kept before) (fired : migrations.step before move = some after) :
    migrations.Kept after := by
  obtain ⟨mover, answer⟩ := move
  cases fired
  obtain ⟨turned, grown⟩ := kept.turn.write (kept.phases mover) answer
  refine ⟨turned, fun opener => ?_⟩
  obtain rfl | other := eq_or_ne opener mover
  · simpa using (kept.phases opener).next kept.turn answer
  · simpa only [Function.update_of_ne other] using (kept.phases opener).grow grown

/-- However many processes open the database, and whatever fails: the versions recorded are the
first ones, the schema is what their bodies make of an empty one, each executed once and in its
turn, and an opener that returns without an error finds all that it knows. -/
theorem migrations_in_turn (migrations : Migrations Schema) (state : MigrateState Schema)
    (reached : Runs.Reachable migrations.step migrations.initial state) :
    migrations.InTurn state.tables ∧ ∀ opener, state.openers opener = .opened →
      migrations.known opener ≤ state.tables.versions.length := by
  obtain ⟨turn, phases⟩ := reached.invariant migrations.Kept ⟨⟨rfl, rfl⟩, fun _ => by trivial⟩
    fun _ _ _ kept _ fired => kept.step fired
  refine ⟨turn, fun opener done => ?_⟩
  have opened := phases opener
  rwa [done] at opened

/-- One migration, which both openers find missing; the second one commits too late. -/
theorem race_in_turn : let migrations : Migrations Nat := ⟨0, fun _ schema => some (schema + 1), fun _ => 1⟩
    ∃ state : MigrateState Nat, state.openers 1 = .failed ∧ migrations.InTurn state.tables ∧
      1 ≤ state.tables.versions.length := by
  intro migrations
  obtain ⟨state, reached, tested⟩ := Runs.exists_reaches_of_exec migrations.step (fun _ _ => True)
    migrations.initial ([0, 1, 0, 1, 0, 1, 0, 1, 0, 1, 0, 1, 0, 0].map fun opener => (opener, .done))
    (fun state => state.openers 0 = .opened ∧ state.openers 1 = .failed) (by decide)
  obtain ⟨opened, failed⟩ := of_decide_eq_true tested
  obtain ⟨turn, found⟩ := migrations_in_turn migrations state reached
  exact ⟨state, failed, turn, found 0 opened⟩

end Migrations

end MqConnector
