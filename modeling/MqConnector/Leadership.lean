/-
This file models `internal/leadership`: the lease over one database row by which
replicas agree on who runs the pipelines.

Every replica runs one `Lease`. An attempt reads the clock, claims the row, and
then sets or clears its flag; on SQLite the claim is one statement, on Postgres a
transaction under an advisory lock that is tried and not waited for. A release
frees the row and then clears the flag. Any number of replicas interleave, and
the clock moves in steps of its own. `refreshState` fills in what the API shows
of the row and is left out.

`wrote` records the expiry a replica's last claim wrote. No step reads it.
-/

import MqConnector.Runs
import MqConnector.Models

namespace MqConnector

/-! ### Replicas and the row -/

/-- The two databases. -/
inductive Dialect
  | sqlite | postgres
  deriving DecidableEq

/-- The row of `leadership`. Instants are nanoseconds. -/
structure LeaseRow where
  holder : String
  expiresAt : Int
  generation : Nat
  deriving DecidableEq

/-- What `NewWithDialect` is given on every replica. -/
structure LeaseConfig where
  dialect : Dialect
  id : Nat → String
  ttl : Nat → Int
  distinct : ∀ first second, id first = id second → first = second
  named : ∀ replica, id replica ≠ ""

/-- The lifetime of a claim; `NewWithDialect` puts 30 seconds for one that is not positive. -/
def LeaseConfig.lifetime (config : LeaseConfig) (replica : Nat) : Int :=
  if config.ttl replica ≤ 0 then 30000000000 else config.ttl replica

/-- Where a replica is inside `attempt` or `release`. `lost` is on the way to `demote` with the
row untouched, `freed` with the row given up. -/
inductive LeasePhase
  | idle
  | timed (now : Int)
  | locked (now : Int)
  | won (expires : Int)
  | lost
  | releasing
  | freed
  deriving DecidableEq

/-- `leadership.Lease` of one replica: its flag, the buffered role changes, and where it is. -/
structure Replica where
  isLeader : Bool := false
  changes : List Bool := []
  phase : LeasePhase := .idle
  wrote : Int
  deriving DecidableEq

/-- The replicas, the row they share, and who holds the advisory lock. -/
structure LeaseState where
  clock : Int
  row : Option LeaseRow
  lock : Option Nat
  replicas : Nat → Replica

/-- How a statement ends: it took effect, it did not, or it did and the answer was an error. -/
inductive DBAnswer
  | done | failed | unheard
  deriving DecidableEq

/-- The moves of the replicas and of the clock. -/
inductive LeaseLabel
  | tick (now : Int)
  | attempt (replica : Nat)
  | exec (replica : Nat) (answer : DBAnswer)
  | tryLock (replica : Nat) (answered : Bool)
  | commit (replica : Nat) (answer : DBAnswer)
  | release (replica : Nat)
  | freeRow (replica : Nat) (answer : DBAnswer)
  | settle (replica : Nat)
  deriving DecidableEq

def LeaseLabel.mover : LeaseLabel → Option Nat
  | .tick _ => none
  | .attempt replica | .exec replica _ | .tryLock replica _ | .commit replica _ | .release replica
  | .freeRow replica _ | .settle replica => some replica

/-- The reading of a step of the clock. -/
def LeaseLabel.instant : LeaseLabel → Option Int
  | .tick now => some now
  | _ => none

def changesSize : Nat := 8

namespace Replica

/-- `emit`: a full channel drops the event. -/
def emit (replica : Replica) (role : Bool) : Replica :=
  if replica.changes.length < changesSize then
    { replica with changes := replica.changes ++ [role] }
  else replica

/-- `isLeader.Swap`, and the event when the role flips. -/
def swap (replica : Replica) (role : Bool) : Replica :=
  if replica.isLeader = role then replica else { replica with isLeader := role }.emit role

@[simp]
theorem swap_isLeader (replica : Replica) (role : Bool) : (replica.swap role).isLeader = role := by
  unfold swap emit
  split
  · assumption
  · split
    · rfl
    · rfl

@[simp]
theorem swap_wrote (replica : Replica) (role : Bool) :
    (replica.swap role).wrote = replica.wrote := by
  unfold swap emit
  split
  · rfl
  · split
    · rfl
    · rfl

end Replica

/-- The upsert of `attempt`: the row it leaves, or nothing when no row is affected. -/
def upsert (row : Option LeaseRow) (holder : String) (expires now : Int) : Option LeaseRow :=
  match row with
  | none => some { holder, expiresAt := expires, generation := 1 }
  | some old =>
    if old.holder = holder ∨ old.expiresAt < now then
      some { holder, expiresAt := expires, generation := old.generation + 1 }
    else none

namespace LeaseState

/-- No replica has attempted anything yet; the row is whatever earlier processes left. -/
def initial (clock : Int) (row : Option LeaseRow) : LeaseState where
  clock := clock
  row := row
  lock := none
  replicas := fun _ => { wrote := clock }

def setReplica (state : LeaseState) (replica : Nat) (changed : Replica) : LeaseState :=
  { state with replicas := Function.update state.replicas replica changed }

def setPhase (state : LeaseState) (replica : Nat) (phase : LeasePhase) : LeaseState :=
  state.setReplica replica { state.replicas replica with phase }

/-- The claim of a replica that read the clock at `now`. -/
def claim (config : LeaseConfig) (state : LeaseState) (replica : Nat) (now : Int)
    (answer : DBAnswer) : LeaseState :=
  let expires := now + config.lifetime replica
  match answer, upsert state.row (config.id replica) expires now with
  | .failed, _ | _, none => state.setPhase replica .lost
  | .done, some row =>
    { state.setReplica replica { state.replicas replica with phase := .won expires, wrote := expires }
      with row := some row }
  | .unheard, some row =>
    { state.setReplica replica { state.replicas replica with phase := .lost, wrote := expires }
      with row := some row }

/-- The UPDATE of `release`, with an expiry one second in the past. -/
def free (config : LeaseConfig) (state : LeaseState) (replica : Nat) (answer : DBAnswer) :
    LeaseState :=
  match answer, state.row with
  | .failed, _ | _, none => state.setPhase replica .lost
  | _, some row =>
    if row.holder = config.id replica then
      { state.setPhase replica .freed with
        row := some { row with holder := "", expiresAt := state.clock - 1000000000 } }
    else state.setPhase replica .lost

/-- One step of a replica, of the database or of the clock. -/
def step (config : LeaseConfig) (state : LeaseState) : LeaseLabel → Option LeaseState
  | .tick now => if state.clock ≤ now then some { state with clock := now } else none
  | .attempt replica =>
    match (state.replicas replica).phase with
    | .idle => some (state.setPhase replica (.timed state.clock))
    | _ => none
  | .exec replica answer =>
    match (state.replicas replica).phase with
    | .timed now =>
      if config.dialect = .sqlite then some (state.claim config replica now answer) else none
    | _ => none
  | .tryLock replica answered =>
    match (state.replicas replica).phase with
    | .timed now =>
      if config.dialect = .postgres then
        -- a lock that is taken is reported as zero rows affected
        if answered = true ∧ state.lock = none then
          some { state.setPhase replica (.locked now) with lock := some replica }
        else some (state.setPhase replica .lost)
      else none
    | _ => none
  | .commit replica answer =>
    match (state.replicas replica).phase with
    | .locked now => some { state.claim config replica now answer with lock := none }
    | _ => none
  | .release replica =>
    match (state.replicas replica).phase with
    | .idle =>
      if (state.replicas replica).isLeader then some (state.setPhase replica .releasing)
      else some state
    | _ => none
  | .freeRow replica answer =>
    match (state.replicas replica).phase with
    | .releasing => some (state.free config replica answer)
    | _ => none
  | .settle replica =>
    match (state.replicas replica).phase with
    | .won _ =>
      some (state.setReplica replica { (state.replicas replica).swap true with phase := .idle })
    | .lost | .freed =>
      some (state.setReplica replica { (state.replicas replica).swap false with phase := .idle })
    | _ => none

/-! ### What a step can be -/

/-- The steps, each with what it has found. -/
inductive Move (config : LeaseConfig) (state : LeaseState) : LeaseLabel → LeaseState → Prop
  | tick {now : Int} (forward : state.clock ≤ now) :
      Move config state (.tick now) { state with clock := now }
  | attempt {replica : Nat} (idle : (state.replicas replica).phase = .idle) :
      Move config state (.attempt replica) (state.setPhase replica (.timed state.clock))
  | exec {replica : Nat} {answer : DBAnswer} {now : Int}
      (timed : (state.replicas replica).phase = .timed now) :
      Move config state (.exec replica answer) (state.claim config replica now answer)
  | locks {replica : Nat} {now : Int} (timed : (state.replicas replica).phase = .timed now)
      (free : state.lock = none) :
      Move config state (.tryLock replica true)
        { state.setPhase replica (.locked now) with lock := some replica }
  | fails {replica : Nat} {answered : Bool} {now : Int}
      (timed : (state.replicas replica).phase = .timed now)
      (refused : ¬ (answered = true ∧ state.lock = none)) :
      Move config state (.tryLock replica answered) (state.setPhase replica .lost)
  | commit {replica : Nat} {answer : DBAnswer} {now : Int}
      (locked : (state.replicas replica).phase = .locked now) :
      Move config state (.commit replica answer)
        { state.claim config replica now answer with lock := none }
  | release {replica : Nat} (idle : (state.replicas replica).phase = .idle) :
      Move config state (.release replica) (state.setPhase replica .releasing)
  | follows {replica : Nat} (idle : (state.replicas replica).phase = .idle) :
      Move config state (.release replica) state
  | freeRow {replica : Nat} {answer : DBAnswer}
      (releasing : (state.replicas replica).phase = .releasing) :
      Move config state (.freeRow replica answer) (state.free config replica answer)
  | promote {replica : Nat} {expires : Int}
      (won : (state.replicas replica).phase = .won expires) :
      Move config state (.settle replica)
        (state.setReplica replica { (state.replicas replica).swap true with phase := .idle })
  | demote {replica : Nat} (ended : (state.replicas replica).phase = .lost ∨
        (state.replicas replica).phase = .freed) :
      Move config state (.settle replica)
        (state.setReplica replica { (state.replicas replica).swap false with phase := .idle })

theorem move_of_step {config : LeaseConfig} {state after : LeaseState} {label : LeaseLabel}
    (fired : state.step config label = some after) : Move config state label after := by
  cases label with
  | tick now =>
    simp only [step] at fired
    split at fired
    · rename_i forward
      cases fired
      exact .tick forward
    · cases fired
  | attempt replica =>
    simp only [step] at fired
    split at fired
    · rename_i idle
      cases fired
      exact .attempt idle
    · cases fired
  | exec replica answer =>
    simp only [step] at fired
    split at fired
    · rename_i timed
      split at fired
      · cases fired
        exact .exec timed
      · cases fired
    · cases fired
  | tryLock replica answered =>
    simp only [step] at fired
    split at fired
    · rename_i timed
      split at fired
      · split at fired
        · rename_i both
          obtain ⟨rfl, free⟩ := both
          cases fired
          exact .locks timed free
        · rename_i refused
          cases fired
          exact .fails timed refused
      · cases fired
    · cases fired
  | commit replica answer =>
    simp only [step] at fired
    split at fired
    · rename_i locked
      cases fired
      exact .commit locked
    · cases fired
  | release replica =>
    simp only [step] at fired
    split at fired
    · rename_i idle
      split at fired
      · cases fired
        exact .release idle
      · cases fired
        exact .follows idle
    · cases fired
  | freeRow replica answer =>
    simp only [step] at fired
    split at fired
    · rename_i releasing
      cases fired
      exact .freeRow releasing
    · cases fired
  | settle replica =>
    simp only [step] at fired
    split at fired
    · rename_i won
      cases fired
      exact .promote won
    · rename_i lost
      cases fired
      exact .demote (Or.inl lost)
    · rename_i freed
      cases fired
      exact .demote (Or.inr freed)
    · cases fired

/-! ### Replicas that do not move -/

theorem claim_others (config : LeaseConfig) (state : LeaseState) {replica other : Nat}
    (different : other ≠ replica) (now : Int) (answer : DBAnswer) :
    (state.claim config replica now answer).replicas other = state.replicas other := by
  unfold claim
  dsimp only
  split
  · exact Function.update_of_ne different ..
  · exact Function.update_of_ne different ..
  · exact Function.update_of_ne different ..
  · exact Function.update_of_ne different ..

theorem free_others (config : LeaseConfig) (state : LeaseState) {replica other : Nat}
    (different : other ≠ replica) (answer : DBAnswer) :
    (state.free config replica answer).replicas other = state.replicas other := by
  unfold free
  split
  · exact Function.update_of_ne different ..
  · exact Function.update_of_ne different ..
  · split
    · exact Function.update_of_ne different ..
    · exact Function.update_of_ne different ..

theorem step_others {config : LeaseConfig} {state after : LeaseState} {label : LeaseLabel}
    {other : Nat} (aside : label.mover ≠ some other)
    (fired : state.step config label = some after) :
    after.replicas other = state.replicas other := by
  have different : ∀ replica, label.mover = some replica → other ≠ replica :=
    fun replica moves same => aside (same ▸ moves)
  cases move_of_step fired with
  | tick | follows => rfl
  | exec | commit => exact claim_others config state (different _ rfl) _ _
  | freeRow => exact free_others config state (different _ rfl) _
  | attempt | locks | fails | release | promote | demote =>
    exact Function.update_of_ne (different _ rfl) ..

end LeaseState

end MqConnector
