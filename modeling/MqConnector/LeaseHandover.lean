/-
This file asks whether a leader that shuts down hands its lease over.

`Lease.Run` ends when its context is cancelled and calls `release`, which is to
give the row up. But it calls it with the cancelled context, and `database/sql`
hands no statement with a context that is done to the database. So the row stays
in the replica's name for the rest of its lifetime.

The machine is the lease's with the context of every replica's `Run` beside it. A
statement under way when the context is cancelled may end in any way; one begun
later fails.
-/

import MqConnector.LeaseExclusion

namespace MqConnector

/-! ### Runs and their contexts -/

/-- The context of a replica's `Run`: whether it is cancelled, whether a statement was under way
then that has not been answered, whether the replica was leader then, and whether `Run` has gone on
to `release`. -/
structure LeaseRun where
  cancelled : Bool := false
  underWay : Bool := false
  wasLeader : Bool := false
  leaving : Bool := false
  deriving DecidableEq

/-- The lease with the context of every replica's `Run`. -/
structure LeaseRuns where
  lease : LeaseState
  runs : Nat → LeaseRun

/-- A move of the lease, or the cancellation of a replica's context. -/
inductive LeaseRunLabel
  | lease (label : LeaseLabel)
  | cancel (replica : Nat)
  deriving DecidableEq

/-- A statement of the replica is under way, or about to begin. -/
def LeasePhase.inStatement : LeasePhase → Bool
  | .timed _ | .locked _ | .releasing => true
  | _ => false

namespace LeaseRun

/-- The database gets to see the replica's statement. -/
def sends (run : LeaseRun) : Bool :=
  !run.cancelled || run.underWay

/-- What `Run` and `database/sql` make of a cancelled context. -/
def permits (run : LeaseRun) : LeaseLabel → Bool
  | .tick _ | .settle _ => true
  | .attempt _ => !run.leaving
  | .exec _ answer | .commit _ answer | .freeRow _ answer =>
    run.sends || decide (answer = .failed)
  | .tryLock _ answered => run.sends || !answered
  | .release _ => run.cancelled && !run.leaving

/-- The context after a move of its replica: a statement has been answered, or `release` begun. -/
def moved (run : LeaseRun) : LeaseLabel → LeaseRun
  | .exec _ _ | .tryLock _ _ | .commit _ _ | .freeRow _ _ => { run with underWay := false }
  | .release _ => { run with leaving := true }
  | _ => run

end LeaseRun

namespace LeaseRuns

def initial (clock : Int) (row : Option LeaseRow) : LeaseRuns where
  lease := .initial clock row
  runs := fun _ => {}

def step (config : LeaseConfig) (state : LeaseRuns) : LeaseRunLabel → Option LeaseRuns
  | .cancel replica =>
    if (state.runs replica).cancelled then none
    else some { state with
      runs := Function.update state.runs replica
        { cancelled := true
          underWay := (state.lease.replicas replica).phase.inStatement
          wasLeader := (state.lease.replicas replica).isLeader } }
  | .lease label =>
    match label.mover with
    | none => (state.lease.step config label).map fun lease => { state with lease }
    | some replica =>
      if (state.runs replica).permits label then
        (state.lease.step config label).map fun lease =>
          { lease, runs := Function.update state.runs replica ((state.runs replica).moved label) }
      else none

def Returned (state : LeaseRuns) (replica : Nat) : Prop :=
  (state.runs replica).leaving = true ∧ (state.lease.replicas replica).phase = .idle

/-- The row does not name the replica as a holder whose lease has not expired, so that when it
names the replica at all any other replica's attempt acquires it. -/
def HandedOver (config : LeaseConfig) (state : LeaseRuns) (replica : Nat) : Prop :=
  (∀ row, state.lease.row = some row → row.holder = config.id replica →
    row.expiresAt < state.lease.clock) ∧
  ∀ other expires, (∀ row, state.lease.row = some row → row.holder = config.id replica) →
    (upsert state.lease.row (config.id other) expires state.lease.clock).isSome

/-! ### The invariant -/

/-- The replica has claimed the row at some time. -/
def Claimed (state : LeaseRuns) (replica : Nat) : Prop :=
  (state.lease.replicas replica).isLeader = true ∨ (state.runs replica).wasLeader = true ∨
    ∃ expires, (state.lease.replicas replica).phase = .won expires

/-- What the row owes to the replica's last claim: while it names the replica it carries that
claim's expiry, and until then it does name it. -/
def Marked (config : LeaseConfig) (lease : LeaseState) (replica : Nat) : Prop :=
  (∀ row, lease.row = some row → row.holder = config.id replica →
    row.expiresAt = (lease.replicas replica).wrote) ∧
  ((lease.replicas replica).wrote < lease.clock ∨ lease.Holds config replica)

/-- The invariant. -/
structure Kept (config : LeaseConfig) (state : LeaseRuns) : Prop where
  past : ∀ replica now, (state.lease.replicas replica).phase = .timed now ∨
    (state.lease.replicas replica).phase = .locked now → now ≤ state.lease.clock
  flying : ∀ replica, (state.runs replica).underWay = true →
    (state.lease.replicas replica).phase.inStatement = true
  left : ∀ replica, (state.runs replica).leaving = true → (state.runs replica).cancelled = true ∧
    (state.runs replica).underWay = false
  releasing : ∀ replica, (state.lease.replicas replica).phase = .releasing →
    (state.runs replica).leaving = true
  marked : ∀ replica, state.Claimed replica → Marked config state.lease replica

theorem initial_kept (config : LeaseConfig) (clock : Int) (row : Option LeaseRow) :
    Kept config (initial clock row) where
  past _ _ phase := by rcases phase with phase | phase <;> cases phase
  flying _ underWay := by cases underWay
  left _ leaving := by cases leaving
  releasing _ phase := by cases phase
  marked _ claimed := by
    rcases claimed with leads | led | ⟨_, won⟩
    · cases leads
    · cases led
    · cases won

/-! ### Steps -/

section Steps

variable {config : LeaseConfig} {state : LeaseRuns} {replica : Nat}

/-- What a step of one replica must say of that replica; `lease` is the lease after it. -/
structure Moved (state : LeaseRuns) (lease : LeaseState) (replica : Nat) (changed : Replica)
    (run : LeaseRun) : Prop where
  replicas : lease.replicas = Function.update state.lease.replicas replica changed
  clock : lease.clock = state.lease.clock
  past : ∀ now, changed.phase = .timed now ∨ changed.phase = .locked now → now ≤ state.lease.clock
  flying : run.underWay = true → changed.phase.inStatement = true
  left : run.leaving = true → run.cancelled = true ∧ run.underWay = false
  releasing : changed.phase = .releasing → run.leaving = true

theorem Moved.self {lease : LeaseState} {changed : Replica} {run : LeaseRun}
    (moved : Moved state lease replica changed run) : lease.replicas replica = changed := by
  rw [moved.replicas, Function.update_self]

theorem Moved.other {lease : LeaseState} {changed : Replica} {run : LeaseRun}
    (moved : Moved state lease replica changed run) {other : Nat} (different : other ≠ replica) :
    lease.replicas other = state.lease.replicas other := by
  rw [moved.replicas, Function.update_of_ne different]

theorem Kept.move (kept : Kept config state) {lease : LeaseState} {changed : Replica}
    {run : LeaseRun} (moved : Moved state lease replica changed run)
    (marked : ∀ other,
      Claimed { lease, runs := Function.update state.runs replica run } other →
      Marked config lease other) :
    Kept config { lease, runs := Function.update state.runs replica run } := by
  have self : Function.update state.runs replica run replica = run := Function.update_self _ _ _
  have beside : ∀ {other}, other ≠ replica →
      Function.update state.runs replica run other = state.runs other :=
    fun different => Function.update_of_ne different _ _
  refine ⟨fun other now phase => ?_, fun other underWay => ?_, fun other leaving => ?_,
    fun other phase => ?_, marked⟩
  · dsimp only at phase ⊢
    rw [moved.clock]
    by_cases same : other = replica
    · rw [same, moved.self] at phase
      exact moved.past now phase
    · rw [moved.other same] at phase
      exact kept.past other now phase
  · dsimp only at underWay ⊢
    by_cases same : other = replica
    · rw [same, self] at underWay
      rw [same, moved.self]
      exact moved.flying underWay
    · rw [beside same] at underWay
      rw [moved.other same]
      exact kept.flying other underWay
  · dsimp only at leaving ⊢
    by_cases same : other = replica
    · rw [same, self] at leaving ⊢
      exact moved.left leaving
    · rw [beside same] at leaving ⊢
      exact kept.left other leaving
  · dsimp only at phase ⊢
    by_cases same : other = replica
    · rw [same, moved.self] at phase
      rw [same, self]
      exact moved.releasing phase
    · rw [moved.other same] at phase
      rw [beside same]
      exact kept.releasing other phase

theorem Kept.still (kept : Kept config state) {lease : LeaseState} (changed : Replica)
    {run : LeaseRun} (moved : Moved state lease replica changed run)
    (row : lease.row = state.lease.row)
    (wrote : changed.wrote = (state.lease.replicas replica).wrote)
    (claimed : changed.isLeader = true ∨ run.wasLeader = true ∨
      (∃ expires, changed.phase = .won expires) → state.Claimed replica) :
    Kept config { lease, runs := Function.update state.runs replica run } := by
  have writes : ∀ other, (lease.replicas other).wrote = (state.lease.replicas other).wrote := by
    intro other
    by_cases same : other = replica
    · rw [same, moved.self, wrote]
    · rw [moved.other same]
  refine kept.move moved fun other owns => ?_
  have before : state.Claimed other := by
    unfold Claimed at owns
    dsimp only at owns
    by_cases same : other = replica
    · rw [same, moved.self, Function.update_self] at owns
      rw [same]
      exact claimed owns
    · rw [moved.other same, Function.update_of_ne same] at owns
      exact owns
  obtain ⟨carries, names⟩ := kept.marked other before
  unfold Marked LeaseState.Holds
  rw [row, writes, moved.clock]
  exact ⟨carries, names⟩

theorem Kept.take (kept : Kept config state) {lease : LeaseState} {changed : Replica}
    {run : LeaseRun} (moved : Moved state lease replica changed run) {now expires : Int}
    {generation : Nat} (row : lease.row = some { holder := config.id replica
                                                 expiresAt := expires
                                                 generation })
    (wrote : changed.wrote = expires) (passed : now ≤ state.lease.clock)
    (free : ∀ old, state.lease.row = some old →
      old.holder = config.id replica ∨ old.expiresAt < now) :
    Kept config { lease, runs := Function.update state.runs replica run } := by
  refine kept.move moved fun other owns => ?_
  by_cases same : other = replica
  · rw [same]
    refine ⟨fun found present _ => ?_, Or.inr ⟨_, row, rfl, ?_⟩⟩
    · rw [row, Option.some_inj] at present
      rw [← present, moved.self, wrote]
    · rw [moved.self, wrote]
  · have unnamed : ∀ found, lease.row = some found → found.holder ≠ config.id other := by
      intro found present named
      rw [row, Option.some_inj] at present
      rw [← present] at named
      exact same (config.distinct other replica named.symm)
    have before : state.Claimed other := by
      unfold Claimed at owns
      dsimp only at owns
      rw [moved.other same, Function.update_of_ne same] at owns
      exact owns
    obtain ⟨-, names⟩ := kept.marked other before
    refine ⟨fun found present named => absurd named (unnamed found present), Or.inl ?_⟩
    rw [moved.other same, moved.clock]
    -- whoever held the row had let it expire
    rcases names with expired | ⟨old, present, holder, writes⟩
    · exact expired
    · rcases free old present with mine | past
      · exact absurd (config.distinct other replica (holder.symm.trans mine)) same
      · rw [← writes]
        exact lt_of_lt_of_le past passed

theorem Kept.loses (kept : Kept config state) {lease : LeaseState} {run : LeaseRun}
    (same : run.wasLeader = (state.runs replica).wasLeader) (grounded : run.underWay = false)
    (left : run.leaving = true → run.cancelled = true)
    (replicas : lease.replicas = (state.lease.setPhase replica .lost).replicas)
    (clock : lease.clock = state.lease.clock) (row : lease.row = state.lease.row) :
    Kept config { lease, runs := Function.update state.runs replica run } := by
  refine kept.still _ ⟨replicas, clock, fun _ phase => ?_, fun underWay => ?_,
    fun leaving => ⟨left leaving, grounded⟩, fun phase => ?_⟩ row rfl fun claimed => ?_
  · rcases phase with phase | phase <;> cases phase
  · exact absurd (grounded.symm.trans underWay) Bool.noConfusion
  · cases phase
  · rcases claimed with leads | led | ⟨_, won⟩
    · exact Or.inl leads
    · exact Or.inr (Or.inl (same ▸ led))
    · cases won

theorem Kept.claim (kept : Kept config state) {lease : LeaseState} {now : Int} {answer : DBAnswer}
    {run : LeaseRun} (same : run.wasLeader = (state.runs replica).wasLeader)
    (grounded : run.underWay = false) (left : run.leaving = true → run.cancelled = true)
    (begun : (state.lease.replicas replica).phase = .timed now ∨
      (state.lease.replicas replica).phase = .locked now)
    (replicas : lease.replicas = (state.lease.claim config replica now answer).replicas)
    (clock : lease.clock = (state.lease.claim config replica now answer).clock)
    (row : lease.row = (state.lease.claim config replica now answer).row) :
    Kept config { lease, runs := Function.update state.runs replica run } := by
  have passed := kept.past replica now begun
  have unflown : run.underWay = true → ∀ phase : LeasePhase, phase.inStatement = true := by
    intro underWay
    rw [grounded] at underWay
    cases underWay
  rcases state.lease.claim_cases config replica now answer with
    ended | ⟨phase, generation, ended, free, taken⟩
  · rw [ended] at replicas clock row
    exact kept.loses same grounded left replicas clock row
  · rw [taken] at replicas clock row
    refine kept.take ⟨replicas, clock, fun _ position => ?_, fun underWay => unflown underWay _,
      fun leaving => ⟨left leaving, grounded⟩, fun position => ?_⟩ row rfl passed free
    · dsimp only at position
      rcases ended with rfl | rfl
      · rcases position with position | position <;> cases position
      · rcases position with position | position <;> cases position
    · dsimp only at position
      rcases ended with rfl | rfl
      · cases position
      · cases position

theorem Kept.not_sends (kept : Kept config state)
    (releasing : (state.lease.replicas replica).phase = .releasing) :
    (state.runs replica).sends = false := by
  obtain ⟨cancelled, grounded⟩ := kept.left replica (kept.releasing replica releasing)
  rw [LeaseRun.sends, cancelled, grounded]
  rfl

theorem free_failed (config : LeaseConfig) (lease : LeaseState) (replica : Nat) :
    lease.free config replica .failed = lease.setPhase replica .lost := by
  unfold LeaseState.free
  cases lease.row with
  | none => rfl
  | some row => rfl

theorem step_cases {after : LeaseRuns} {label : LeaseRunLabel}
    (fired : state.step config label = some after) :
    (∃ replica, label = .cancel replica ∧ (state.runs replica).cancelled = false ∧
      after = { state with
        runs := Function.update state.runs replica
          { cancelled := true
            underWay := (state.lease.replicas replica).phase.inStatement
            wasLeader := (state.lease.replicas replica).isLeader } }) ∨
    (∃ now, label = .lease (.tick now) ∧ state.lease.clock ≤ now ∧
      after = { state with lease := { state.lease with clock := now } }) ∨
    ∃ move replica lease, label = .lease move ∧ move.mover = some replica ∧
      (state.runs replica).permits move = true ∧ state.lease.Move config move lease ∧
      after =
        { lease, runs := Function.update state.runs replica ((state.runs replica).moved move) } := by
  cases label with
  | cancel replica =>
    rw [step] at fired
    split at fired
    · cases fired
    · rename_i uncancelled
      cases fired
      exact Or.inl ⟨replica, rfl, Bool.eq_false_iff.mpr uncancelled, rfl⟩
  | lease move =>
    rw [step] at fired
    split at fired
    · rename_i nobody
      obtain ⟨lease, moved, rfl⟩ := Option.map_eq_some_iff.mp fired
      cases LeaseState.move_of_step moved with
      | tick forward => exact Or.inr (Or.inl ⟨_, rfl, forward, rfl⟩)
      | _ => cases nobody
    · rename_i replica mover
      split at fired
      · rename_i permitted
        obtain ⟨lease, moved, rfl⟩ := Option.map_eq_some_iff.mp fired
        exact Or.inr (Or.inr ⟨move, replica, lease, rfl, mover, permitted,
          LeaseState.move_of_step moved, rfl⟩)
      · cases fired

theorem Kept.cancel (kept : Kept config state)
    (uncancelled : (state.runs replica).cancelled = false) :
    Kept config { state with
      runs := Function.update state.runs replica
        { cancelled := true
          underWay := (state.lease.replicas replica).phase.inStatement
          wasLeader := (state.lease.replicas replica).isLeader } } := by
  refine kept.still (state.lease.replicas replica)
    ⟨(Function.update_eq_self _ _).symm, rfl, kept.past replica, fun underWay => underWay,
      fun leaving => ?_, fun releasing => ?_⟩ rfl rfl fun claimed => ?_
  · cases leaving
  · obtain ⟨cancelled, -⟩ := kept.left replica (kept.releasing replica releasing)
    rw [uncancelled] at cancelled
    cases cancelled
  · rcases claimed with leads | led | won
    · exact Or.inl leads
    · exact Or.inl led
    · exact Or.inr (Or.inr won)

theorem Kept.tick (kept : Kept config state) {now : Int} (forward : state.lease.clock ≤ now) :
    Kept config { state with lease := { state.lease with clock := now } } where
  past other instant phase := le_trans (kept.past other instant phase) forward
  flying := kept.flying
  left := kept.left
  releasing := kept.releasing
  marked other owns := by
    obtain ⟨carries, names⟩ := kept.marked other owns
    refine ⟨carries, ?_⟩
    rcases names with expired | holds
    · exact Or.inl (lt_of_lt_of_le expired forward)
    · exact Or.inr holds

/-- Every step keeps the invariant. -/
theorem Kept.step {after : LeaseRuns} {label : LeaseRunLabel} (kept : Kept config state)
    (fired : state.step config label = some after) : Kept config after := by
  rcases step_cases fired with ⟨replica, -, uncancelled, rfl⟩ | ⟨now, -, forward, rfl⟩ |
    ⟨move, replica, lease, -, mover, permitted, moved, rfl⟩
  · exact kept.cancel uncancelled
  · exact kept.tick forward
  have leaves : ∀ {phase : LeasePhase}, phase.inStatement = false →
      (state.lease.replicas replica).phase = phase → (state.runs replica).underWay = false := by
    intro phase outside position
    rw [← Bool.not_eq_true]
    intro underWay
    have inside := kept.flying replica underWay
    rw [position, outside] at inside
    cases inside
  have cancels : (state.runs replica).leaving = true → (state.runs replica).cancelled = true :=
    fun leaving => (kept.left replica leaving).1
  -- a step that only changes the phase claims nothing new
  have claimed : ∀ {phase : LeasePhase} {led : Bool}, (∀ expires, phase ≠ .won expires) →
      led = (state.runs replica).wasLeader →
      (state.lease.replicas replica).isLeader = true ∨ led = true ∨
        (∃ expires, phase = .won expires) → state.Claimed replica := by
    intro phase led unsettled same owns
    rcases owns with leads | wasLeader | ⟨expires, won⟩
    · exact Or.inl leads
    · exact Or.inr (Or.inl (same ▸ wasLeader))
    · exact absurd won (unsettled expires)
  cases moved with
  | tick => cases mover
  | attempt idle =>
    cases mover
    refine kept.still { state.lease.replicas replica with phase := .timed state.lease.clock }
      ⟨rfl, rfl, fun now phase => ?_, fun _ => rfl, kept.left replica, fun phase => ?_⟩ rfl rfl
      (claimed (fun _ phase => by cases phase) rfl)
    · rcases phase with phase | phase
      · cases phase
        exact le_refl _
      · cases phase
    · cases phase
  | exec timed =>
    cases mover
    exact kept.claim rfl rfl cancels (Or.inl timed) rfl rfl rfl
  | @locks _ now timed free =>
    cases mover
    refine kept.still { state.lease.replicas replica with phase := .locked now }
      ⟨rfl, rfl, fun instant phase => ?_, fun _ => rfl, fun leaving => ⟨cancels leaving, rfl⟩,
        fun phase => ?_⟩ rfl rfl (claimed (fun _ phase => by cases phase) rfl)
    · rcases phase with phase | phase
      · cases phase
      · cases phase
        exact kept.past replica now (Or.inl timed)
    · cases phase
  | fails timed refused =>
    cases mover
    exact kept.loses rfl rfl cancels rfl rfl rfl
  | commit locked =>
    cases mover
    exact kept.claim rfl rfl cancels (Or.inr locked) rfl rfl rfl
  | release idle =>
    cases mover
    have context : (state.runs replica).cancelled = true := (Bool.and_eq_true_iff.mp permitted).1
    refine kept.still { state.lease.replicas replica with phase := .releasing }
      ⟨rfl, rfl, fun instant phase => ?_, fun _ => rfl, fun _ => ⟨context, leaves rfl idle⟩,
        fun _ => rfl⟩ rfl rfl (claimed (fun _ phase => by cases phase) rfl)
    rcases phase with phase | phase <;> cases phase
  | follows idle =>
    cases mover
    have context : (state.runs replica).cancelled = true := (Bool.and_eq_true_iff.mp permitted).1
    refine kept.still (state.lease.replicas replica)
      ⟨(Function.update_eq_self _ _).symm, rfl, kept.past replica, kept.flying replica,
        fun _ => ⟨context, leaves rfl idle⟩, fun _ => rfl⟩ rfl rfl
      (claimed (fun _ phase => ?_) rfl)
    rw [idle] at phase
    cases phase
  | @freeRow _ answer releasing =>
    cases mover
    have failed : answer = .failed := by
      rw [LeaseRun.permits, kept.not_sends releasing, Bool.false_or] at permitted
      exact of_decide_eq_true permitted
    rw [failed, free_failed]
    exact kept.loses rfl rfl cancels rfl rfl rfl
  | @promote _ expires won =>
    cases mover
    refine kept.still { (state.lease.replicas replica).swap true with phase := .idle }
      ⟨rfl, rfl, fun instant phase => ?_, fun underWay => ?_, kept.left replica,
        fun phase => ?_⟩ rfl (Replica.swap_wrote _ _) fun _ => Or.inr (Or.inr ⟨expires, won⟩)
    · rcases phase with phase | phase <;> cases phase
    · exact absurd ((leaves rfl won).symm.trans underWay) Bool.noConfusion
    · cases phase
  | demote ended =>
    cases mover
    have outside : (state.runs replica).underWay = false := by
      rcases ended with lost | freed
      · exact leaves rfl lost
      · exact leaves rfl freed
    refine kept.still { (state.lease.replicas replica).swap false with phase := .idle }
      ⟨rfl, rfl, fun instant phase => ?_, fun underWay => ?_, kept.left replica,
        fun phase => ?_⟩ rfl (Replica.swap_wrote _ _) fun owns => ?_
    · rcases phase with phase | phase <;> cases phase
    · exact absurd (outside.symm.trans underWay) Bool.noConfusion
    · cases phase
    · rcases owns with leads | wasLeader | ⟨_, phase⟩
      · rw [show ((state.lease.replicas replica).swap false).isLeader = false from
          Replica.swap_isLeader _ _] at leads
        cases leads
      · exact Or.inr (Or.inl wasLeader)
      · cases phase

end Steps

/-! ### At the end of a run -/

/-- An expired row is taken over. -/
theorem isSome_upsert {row : Option LeaseRow} {holder : String} {expires now : Int}
    (expired : ∀ old, row = some old → old.expiresAt < now) :
    (upsert row holder expires now).isSome := by
  unfold upsert
  split
  · rfl
  · rename_i old
    rw [if_pos (Or.inr (expired old rfl))]
    rfl

/-- From the moment its context is cancelled under a leader, and so when `Run` has returned, the lease
is handed over if and only if what the replica last wrote has run out by itself. -/
theorem handedOver_iff_run_out (config : LeaseConfig) (clock : Int) (row : Option LeaseRow)
    (state : LeaseRuns) (replica : Nat)
    (reached : Runs.Reachable (step config) (initial clock row) state)
    (led : (state.runs replica).wasLeader = true) :
    state.HandedOver config replica ↔
      (state.lease.replicas replica).wrote < state.lease.clock := by
  have kept : Kept config state := reached.invariant (Kept config)
    (initial_kept config clock row) fun _ _ _ kept _ fired => kept.step fired
  obtain ⟨carries, names⟩ := kept.marked replica (Or.inr (Or.inl led))
  constructor
  · rintro ⟨unheld, -⟩
    rcases names with expired | ⟨held, found, holder, writes⟩
    · exact expired
    · rw [← writes]
      exact unheld held found holder
  · intro expired
    have unheld : ∀ held, state.lease.row = some held → held.holder = config.id replica →
        held.expiresAt < state.lease.clock := by
      intro held found holder
      rw [carries held found holder]
      exact expired
    exact ⟨unheld, fun other expires own =>
      isSome_upsert fun old found => unheld old found (own old found)⟩

/-! ### A leader shuts down -/

/-- The first replica becomes leader, is cancelled a second later and leaves `Run`. -/
def leaderStopped : List LeaseRunLabel :=
  (LeaseState.elect 0).map .lease ++
    [.lease (.tick 1000000000), .cancel 0, .lease (.release 0), .lease (.freeRow 0 .failed),
      .lease (.settle 0)]

/-- `Run` has returned, and the row still names the replica for another 29 seconds; the database
accepted every statement it was given, and another replica's attempt would not acquire the row. -/
theorem stopped_leader_keeps_row :
    ∃ state, Runs.Reachable (step (LeaseState.namedReplicas .sqlite)) (initial 0 none) state ∧
      state.Returned 0 ∧ (state.runs 0).wasLeader = true ∧
      state.lease.row = some { holder := "r", expiresAt := 30000000000, generation := 1 } ∧
      state.lease.clock = 1000000000 ∧
      upsert state.lease.row "rr" 31000000000 state.lease.clock = none ∧
      ¬ state.HandedOver (LeaseState.namedReplicas .sqlite) 0 := by
  obtain ⟨state, reached, tested⟩ := Runs.exists_reaches_of_exec
    (step (LeaseState.namedReplicas .sqlite)) (fun _ _ => True) (initial 0 none) leaderStopped
    (fun state => decide (((state.runs 0).leaving = true ∧
      (state.lease.replicas 0).phase = .idle) ∧ (state.runs 0).wasLeader = true ∧
      state.lease.row = some { holder := "r", expiresAt := 30000000000, generation := 1 } ∧
      state.lease.clock = 1000000000)) (by decide)
  obtain ⟨returned, led, row, clock⟩ := of_decide_eq_true tested
  refine ⟨state, reached, returned, led, row, clock, ?_, fun handed => ?_⟩
  · rw [row, clock]
    decide
  · have past := handed.1 _ row (by decide)
    rw [clock] at past
    exact absurd past (by decide)

/-- The same with the database out of reach until the lease has run out. -/
def leaderStalled : List LeaseRunLabel :=
  (LeaseState.elect 0).map .lease ++
    [.cancel 0, .lease (.release 0), .lease (.tick 30000000001), .lease (.freeRow 0 .failed),
      .lease (.settle 0)]

/-- Then nobody has to wait for it any more. -/
theorem stalled_leader_hands_over :
    ∃ state : LeaseRuns, state.Returned 0 ∧ (state.runs 0).wasLeader = true ∧
      state.HandedOver (LeaseState.namedReplicas .sqlite) 0 := by
  obtain ⟨state, reached, tested⟩ := Runs.exists_reaches_of_exec
    (step (LeaseState.namedReplicas .sqlite)) (fun _ _ => True) (initial 0 none) leaderStalled
    (fun state => decide (((state.runs 0).leaving = true ∧
      (state.lease.replicas 0).phase = .idle) ∧ (state.runs 0).wasLeader = true ∧
      (state.lease.replicas 0).wrote < state.lease.clock)) (by decide)
  obtain ⟨returned, led, expired⟩ := of_decide_eq_true tested
  exact ⟨state, returned, led, (handedOver_iff_run_out _ 0 none state 0 reached led).mpr expired⟩

end LeaseRuns

end MqConnector
