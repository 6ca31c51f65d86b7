/-
This file asks whether a healthy leader can be demoted by somebody else's attempt.

The database answers every statement and the leader renews before its claim
expires. On Postgres the claim first tries the advisory lock, which a follower
holds for as long as its own transaction runs, even if all that transaction finds
is that the lease is taken. The leader's try then fails, which demotes it.
-/

import MqConnector.LeaseExclusion

namespace MqConnector

namespace LeaseState

variable {config : LeaseConfig} {state after : LeaseState} {label : LeaseLabel}

/-! ### The condition -/

/-- Replicas attempt and nothing else, no statement fails, and a leader's claim has not expired,
neither when its flag is set nor before it is renewed. -/
def Healthy (state : LeaseState) : LeaseLabel → Prop
  | .tick now => ∀ replica, state.IsLeader replica → now ≤ (state.replicas replica).wrote
  | .attempt _ => True
  | .exec _ answer | .commit _ answer => answer = .done
  | .tryLock _ answered => answered = true
  | .release _ | .freeRow _ _ => False
  | .settle replica =>
    ∀ expires, (state.replicas replica).phase = .won expires → state.clock ≤ expires

/-- The condition on a step: a leader that tries the advisory lock finds it free. -/
def LockFree (state : LeaseState) : LeaseLabel → Prop
  | .tryLock replica _ => state.IsLeader replica → state.lock = none
  | _ => True

/-- No leader is about to be demoted: none of their attempts has reported zero rows. -/
def Unchallenged (state : LeaseState) : Prop :=
  ∀ replica, state.IsLeader replica → (state.replicas replica).phase ≠ .lost

def Unreleased (state : LeaseState) : Prop :=
  ∀ replica, (state.replicas replica).phase ≠ .releasing ∧ (state.replicas replica).phase ≠ .freed

/-- A healthy replica is on time. -/
theorem Healthy.onTime (healthy : state.Healthy label) : state.OnTime label := by
  cases label with
  | tick now => exact healthy
  | _ => trivial

theorem Healthy.orderly (unreleased : state.Unreleased) (healthy : state.Healthy label) :
    state.Orderly label := by
  cases label with
  | exec replica answer => exact fun other => (unreleased other).2
  | commit replica answer => exact fun other => (unreleased other).2
  | settle replica => exact healthy
  | _ => trivial

/-! ### The moving replica -/

theorem claim_of_holds (config : LeaseConfig) (state : LeaseState) (replica : Nat) (now : Int)
    (holds : state.Holds config replica) :
    (state.claim config replica now .done).replicas replica =
      { state.replicas replica with
        phase := .won (now + config.lifetime replica), wrote := now + config.lifetime replica } := by
  obtain ⟨row, found, holder, -⟩ := holds
  have taken : upsert state.row (config.id replica) (now + config.lifetime replica) now =
      some { holder := config.id replica, expiresAt := now + config.lifetime replica
             generation := row.generation + 1 } := by
    rw [found]
    exact if_pos (Or.inl holder)
  unfold claim
  dsimp only
  rw [taken]
  exact Function.update_self ..

theorem claim_mover (config : LeaseConfig) (state : LeaseState) (replica : Nat) (now : Int)
    (answer : DBAnswer) :
    ((state.claim config replica now answer).replicas replica).isLeader =
        (state.replicas replica).isLeader ∧
      (((state.claim config replica now answer).replicas replica).phase =
          .won (now + config.lifetime replica) ∨
        ((state.claim config replica now answer).replicas replica).phase = .lost) := by
  rcases state.claim_cases config replica now answer with
    same | ⟨phase, generation, ended, -, same⟩
  · rw [same]
    simp only [LeaseState.setPhase, setReplica, Function.update_self]
    exact ⟨trivial, Or.inr trivial⟩
  · rw [same]
    simp only [setReplica, Function.update_self]
    exact ⟨trivial, ended⟩

/-- What a healthy step does to the replica that moves: it goes on without touching the flag, or
it settles what its claim came to. -/
inductive MoveEffect (config : LeaseConfig) (state after : LeaseState) (label : LeaseLabel)
    (replica : Nat) : Prop
  | going (flag : (after.replicas replica).isLeader = (state.replicas replica).isLeader)
      (phase : (after.replicas replica).phase = .timed state.clock ∨
        ∃ now, (after.replicas replica).phase = .locked now)
  | claimed (now : Int) (begun : (state.replicas replica).phase = .timed now ∨
        (state.replicas replica).phase = .locked now)
      (same : after.replicas replica = (state.claim config replica now .done).replicas replica)
  | refused (tries : ∃ answered, label = .tryLock replica answered) (taken : state.lock ≠ none)
      (flag : (after.replicas replica).isLeader = (state.replicas replica).isLeader)
      (phase : (after.replicas replica).phase = .lost)
  | raised (flag : (after.replicas replica).isLeader = true)
      (phase : (after.replicas replica).phase = .idle)
  | lowered (was : (state.replicas replica).phase = .lost)
      (flag : (after.replicas replica).isLeader = false)
      (phase : (after.replicas replica).phase = .idle)

theorem step_moveEffect {replica : Nat} (unreleased : state.Unreleased)
    (healthy : state.Healthy label) (moves : label.mover = some replica)
    (fired : state.step config label = some after) :
    MoveEffect config state after label replica := by
  cases move_of_step fired with
  | tick => cases moves
  | release | follows | freeRow => exact healthy.elim
  | attempt =>
    obtain rfl := Option.some.inj moves
    refine .going ?_ (Or.inl ?_)
    · simp only [LeaseState.setPhase, setReplica, Function.update_self]
    · simp only [LeaseState.setPhase, setReplica, Function.update_self]
  | @exec _ answer now timed =>
    obtain rfl := Option.some.inj moves
    cases (healthy : answer = .done)
    exact .claimed now (Or.inl timed) rfl
  | @locks _ now =>
    obtain rfl := Option.some.inj moves
    refine .going ?_ (Or.inr ⟨now, ?_⟩)
    · simp only [LeaseState.setPhase, setReplica, Function.update_self]
    · simp only [LeaseState.setPhase, setReplica, Function.update_self]
  | fails _ refused =>
    obtain rfl := Option.some.inj moves
    refine .refused ⟨_, rfl⟩ (fun free => refused ⟨healthy, free⟩) ?_ ?_
    · simp only [LeaseState.setPhase, setReplica, Function.update_self]
    · simp only [LeaseState.setPhase, setReplica, Function.update_self]
  | @commit _ answer now locked =>
    obtain rfl := Option.some.inj moves
    cases (healthy : answer = .done)
    exact .claimed now (Or.inr locked) rfl
  | promote =>
    obtain rfl := Option.some.inj moves
    refine .raised ?_ ?_
    · simp only [setReplica, Function.update_self, Replica.swap_isLeader]
    · simp only [setReplica, Function.update_self]
  | demote ended =>
    obtain rfl := Option.some.inj moves
    refine .lowered (ended.resolve_right (unreleased _).2) ?_ ?_
    · simp only [setReplica, Function.update_self, Replica.swap_isLeader]
    · simp only [setReplica, Function.update_self]

/-! ### Leaders stay leaders -/

theorem step_unreleased (unreleased : state.Unreleased) (healthy : state.Healthy label)
    (fired : state.step config label = some after) : after.Unreleased := by
  intro replica
  by_cases moves : label.mover = some replica
  · cases step_moveEffect unreleased healthy moves fired with
    | going _ phase =>
      rcases phase with phase | ⟨now, phase⟩
      · rw [phase]
        exact ⟨nofun, nofun⟩
      · rw [phase]
        exact ⟨nofun, nofun⟩
    | claimed now _ same =>
      rw [same]
      rcases (state.claim_mover config replica now .done).2 with phase | phase
      · rw [phase]
        exact ⟨nofun, nofun⟩
      · rw [phase]
        exact ⟨nofun, nofun⟩
    | refused _ _ _ phase =>
      rw [phase]
      exact ⟨nofun, nofun⟩
    | raised _ phase =>
      rw [phase]
      exact ⟨nofun, nofun⟩
    | lowered _ _ phase =>
      rw [phase]
      exact ⟨nofun, nofun⟩
  · rw [step_others moves fired]
    exact unreleased replica

/-- Healthy steps with a free lock challenge no leader. -/
theorem step_unchallenged (kept : state.LeaseKept config) (unreleased : state.Unreleased)
    (unchallenged : state.Unchallenged) (healthy : state.Healthy label)
    (free : state.LockFree label) (fired : state.step config label = some after) :
    after.Unchallenged ∧ ∀ replica, state.IsLeader replica → after.IsLeader replica := by
  -- one replica at a time: the one that moves, and the others
  have each : ∀ replica, (after.IsLeader replica → (after.replicas replica).phase ≠ .lost) ∧
      (state.IsLeader replica → after.IsLeader replica) := by
    intro replica
    unfold IsLeader
    by_cases moves : label.mover = some replica
    · cases step_moveEffect unreleased healthy moves fired with
      | going flag phase =>
        refine ⟨fun _ => ?_, fun leads => flag.trans leads⟩
        rcases phase with phase | ⟨now, phase⟩
        · rw [phase]
          exact nofun
        · rw [phase]
          exact nofun
      | claimed now begun same =>
        have flag := (state.claim_mover config replica now .done).1
        rw [same]
        refine ⟨fun leads => ?_, fun leads => flag.trans leads⟩
        have holds := (kept.led replica (flag.symm.trans leads) (unreleased replica).2).1
        rw [claim_of_holds config state replica now holds]
        exact nofun
      | refused tries taken flag _ =>
        obtain ⟨answered, rfl⟩ := tries
        refine ⟨fun leads => ?_, fun leads => flag.trans leads⟩
        exact absurd (free (flag.symm.trans leads)) taken
      | raised flag phase =>
        refine ⟨fun _ => ?_, fun _ => flag⟩
        rw [phase]
        exact nofun
      | lowered was flag phase =>
        refine ⟨fun leads => absurd (flag.symm.trans leads) (by decide), fun leads => ?_⟩
        exact absurd was (unchallenged replica leads)
    · rw [step_others moves fired]
      exact ⟨unchallenged replica, id⟩
  exact ⟨fun replica => (each replica).1, fun replica => (each replica).2⟩

/-- A step that finds the lock taken challenges the leader. -/
theorem challenged_of_not_lockFree (taken : ¬ state.LockFree label)
    (fired : state.step config label = some after) : ¬ after.Unchallenged := by
  cases label with
  | tryLock replica answered =>
    obtain ⟨leads, busy⟩ := Classical.not_imp.mp taken
    intro unchallenged
    simp only [step] at fired
    split at fired
    · split at fired
      · rw [if_neg (fun found => busy found.2)] at fired
        cases fired
        refine unchallenged replica ?_ ?_
        · rw [IsLeader, LeaseState.setPhase, setReplica]
          dsimp only
          rw [Function.update_self]
          exact leads
        · simp only [LeaseState.setPhase, setReplica, Function.update_self]
      · cases fired
    · cases fired
  | _ => exact absurd trivial taken

/-- In every healthy run in which a leader's try always finds the advisory lock free, a leader
stays leader and none of its attempts reports zero rows; and a further healthy step keeps it so
exactly when it meets the condition too. -/
theorem leader_stays_of_lockFree (config : LeaseConfig) (clock : Int) (row : Option LeaseRow)
    (state : LeaseState)
    (reached : Runs.Reaches (LeaseState.step config)
      (fun state label => state.Healthy label ∧ state.LockFree label) (initial clock row) state) :
    state.Unchallenged ∧
      ∀ label after, state.Healthy label → state.step config label = some after →
        (after.Unchallenged ↔ state.LockFree label) ∧
          (state.LockFree label → ∀ replica, state.IsLeader replica → after.IsLeader replica) := by
  have kept : state.LeaseKept config ∧ state.Unreleased ∧ state.Unchallenged := by
    refine reached.invariant
      (fun state => state.LeaseKept config ∧ state.Unreleased ∧ state.Unchallenged)
      ⟨initial_leaseKept config clock row, fun _ => ⟨nofun, nofun⟩, fun _ => nofun⟩ ?_
    rintro before label after ⟨kept, unreleased, unchallenged⟩ ⟨healthy, free⟩ fired
    exact ⟨step_leaseKept kept healthy.onTime (healthy.orderly unreleased) fired,
      step_unreleased unreleased healthy fired,
      (step_unchallenged kept unreleased unchallenged healthy free fired).1⟩
  obtain ⟨kept, unreleased, unchallenged⟩ := kept
  refine ⟨unchallenged, fun label after healthy fired => ⟨⟨fun stays => ?_, fun free => ?_⟩,
    fun free => ?_⟩⟩
  · by_contra taken
    exact challenged_of_not_lockFree taken fired stays
  · exact (step_unchallenged kept unreleased unchallenged healthy free fired).1
  · exact (step_unchallenged kept unreleased unchallenged healthy free fired).2

/-! ### Two replicas on Postgres -/

/-- Every statement is answered and nobody releases. -/
def saysDone : LeaseLabel → Bool
  | .exec _ answer | .commit _ answer => answer == .done
  | .tryLock _ answered => answered
  | .release _ | .freeRow _ _ => false
  | _ => true

/-- The run is healthy as far as the first two replicas go. -/
def LooksHealthy (state : LeaseState) (label : LeaseLabel) : Prop :=
  state.SmallStep label ∧ state.LooksOrderly label ∧ saysDone label = true

instance (state : LeaseState) (label : LeaseLabel) : Decidable (state.LooksHealthy label) :=
  inferInstanceAs (Decidable (_ ∧ _ ∧ _))

theorem healthy_of_looksHealthy {clock : Int} {row : Option LeaseRow}
    (reached : Runs.Reaches (LeaseState.step config) LooksHealthy (initial clock row) state)
    (looks : state.LooksHealthy label) : state.Healthy label := by
  have small := reached.mono fun _ _ _ permitted => permitted.1
  obtain ⟨step, orderly, answered⟩ := looks
  cases label with
  | tick now => exact onTime_of_small small step
  | attempt replica => trivial
  | exec replica answer => exact beq_iff_eq.mp answered
  | commit replica answer => exact beq_iff_eq.mp answered
  | tryLock replica found => exact answered
  | release replica => cases answered
  | freeRow replica answer => cases answered
  | settle replica => exact orderly_of_looksOrderly small orderly

/-- The lock is free when the first two replicas try it as leaders. -/
def LooksLockFree (state : LeaseState) : LeaseLabel → Bool
  | .tryLock replica _ => !(state.replicas replica).isLeader || state.lock.isNone
  | _ => true

theorem lockFree_of_looksLockFree (looks : state.LooksLockFree label = true) :
    state.LockFree label := by
  cases label with
  | tryLock replica answered =>
    intro leads
    rcases Bool.or_eq_true_iff.mp looks with follows | free
    · rw [IsLeader] at leads
      rw [leads] at follows
      cases follows
    · exact Option.isNone_iff_eq_none.mp free
  | _ => trivial

/-- A replica of the Postgres database attempts to become leader. -/
def electLocked (replica : Nat) : List LeaseLabel :=
  [.attempt replica, .tryLock replica true, .commit replica .done, .settle replica]

/-- The leader renews while the second replica's transaction holds the advisory lock. -/
def overlappedRenewal : List LeaseLabel :=
  electLocked 0 ++ [.tick 15000000000, .attempt 1, .tryLock 1 true, .attempt 0, .tryLock 0 true]

/-- The leader holds the row, its claim has half its life before it, the database has answered
every statement, and it is demoted. -/
theorem leader_demoted_by_overlap :
    ∃ state after, Runs.Reaches (LeaseState.step (namedReplicas .postgres)) Healthy (initial 0 none)
        state ∧
      state.IsLeader 0 ∧ state.clock < (state.replicas 0).wrote ∧
      state.row.map LeaseRow.holder = some ((namedReplicas .postgres).id 0) ∧
      state.Healthy (.settle 0) ∧ state.step (namedReplicas .postgres) (.settle 0) = some after ∧
      ¬ after.IsLeader 0 := by
  obtain ⟨state, reached, tested⟩ := Runs.exists_reaches_of_exec
    (LeaseState.step (namedReplicas .postgres)) LooksHealthy (initial 0 none) overlappedRenewal
    (fun state => (state.replicas 0).isLeader && decide (state.clock < (state.replicas 0).wrote) &&
      (state.row.map LeaseRow.holder == some ((namedReplicas .postgres).id 0)) &&
      ((state.replicas 0).phase == .lost)) (by decide)
  simp only [Bool.and_eq_true, decide_eq_true_eq, beq_iff_eq] at tested
  obtain ⟨⟨⟨leads, early⟩, holder⟩, lost⟩ := tested
  have settles : state.step (namedReplicas .postgres) (.settle 0) = some (state.setReplica 0
      { (state.replicas 0).swap false with phase := .idle }) := by
    simp only [step, lost]
  refine ⟨state, _, reached.mono fun _ _ before looks => healthy_of_looksHealthy before looks,
    leads, early, holder, fun expires won => ?_, settles, fun leads => ?_⟩
  · rw [lost] at won
    cases won
  · rw [IsLeader] at leads
    simp only [setReplica, Function.update_self, Replica.swap_isLeader] at leads
    cases leads

/-- The second replica has come and gone when the leader renews. -/
def partedRenewal : List LeaseLabel :=
  electLocked 0 ++ [.tick 15000000000] ++ electLocked 1 ++ electLocked 0

/-- The leader of a run on Postgres in which the transactions do not overlap. -/
theorem renewed_leader_stays :
    ∃ state : LeaseState, state.IsLeader 0 ∧ (state.replicas 0).wrote = 45000000000 ∧
      state.Unchallenged := by
  obtain ⟨state, reached, tested⟩ := Runs.exists_reaches_of_exec
    (LeaseState.step (namedReplicas .postgres))
    (fun state label => state.LooksHealthy label ∧ state.LooksLockFree label = true)
    (initial 0 none) partedRenewal
    (fun state => (state.replicas 0).isLeader && (state.replicas 0).wrote == 45000000000)
    (by decide)
  obtain ⟨leads, wrote⟩ := Bool.and_eq_true_iff.mp tested
  refine ⟨state, leads, beq_iff_eq.mp wrote,
    (leader_stays_of_lockFree (namedReplicas .postgres) 0 none state ?_).1⟩
  refine reached.mono fun _ _ before permitted => ⟨?_, lockFree_of_looksLockFree permitted.2⟩
  exact healthy_of_looksHealthy (before.mono fun _ _ _ permitted => permitted.1) permitted.1

end LeaseState

end MqConnector
