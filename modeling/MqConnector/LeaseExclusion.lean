/-
This file asks whether two replicas can be leader at once.

As long as a leader renews in time, the row is its own and has not expired. Two
steps of the code get around it. `release` gives the row up before it clears the
flag, so another replica can be leader in between; and an attempt that won the row
may set its flag only after the row has expired and gone to somebody else.
-/

import MqConnector.Leadership

namespace MqConnector

namespace LeaseState

variable {config : LeaseConfig} {state after : LeaseState}

/-! ### The condition -/

def IsLeader (state : LeaseState) (replica : Nat) : Prop :=
  (state.replicas replica).isLeader = true

def OneLeader (state : LeaseState) : Prop :=
  ∀ first second, state.IsLeader first → state.IsLeader second → first = second

/-- A leader completes its next attempt, or its release, no later than the expiry it last
wrote: the clock does not pass that expiry while the flag is set. -/
def OnTime (state : LeaseState) : LeaseLabel → Prop
  | .tick now => ∀ replica, state.IsLeader replica → now ≤ (state.replicas replica).wrote
  | _ => True

/-- The condition on a step: nobody claims the row between the two halves of a release, and a
flag is set before the expiry of the claim it stands for. -/
def Orderly (state : LeaseState) : LeaseLabel → Prop
  | .exec _ _ | .commit _ _ => ∀ other, (state.replicas other).phase ≠ .freed
  | .settle replica =>
    ∀ expires, (state.replicas replica).phase = .won expires → state.clock ≤ expires
  | _ => True

/-! ### The invariant -/

/-- The row is the replica's, as its last claim wrote it. -/
def Holds (config : LeaseConfig) (state : LeaseState) (replica : Nat) : Prop :=
  ∃ row, state.row = some row ∧ row.holder = config.id replica ∧
    row.expiresAt = (state.replicas replica).wrote

/-- What links the flags, the row and the clock. -/
structure LeaseKept (config : LeaseConfig) (state : LeaseState) : Prop where
  recent : ∀ replica, (state.replicas replica).wrote ≤ state.clock + config.lifetime replica
  timed : ∀ replica now, (state.replicas replica).phase = .timed now ∨
    (state.replicas replica).phase = .locked now →
    now ≤ state.clock ∧ (state.replicas replica).wrote ≤ now + config.lifetime replica
  won : ∀ replica expires, (state.replicas replica).phase = .won expires →
    (state.replicas replica).wrote = expires ∧ (state.Holds config replica ∨ expires < state.clock)
  led : ∀ replica, state.IsLeader replica → (state.replicas replica).phase ≠ .freed →
    state.Holds config replica ∧ state.clock ≤ (state.replicas replica).wrote
  freed : ∀ replica, (state.replicas replica).phase = .freed →
    ∃ row, state.row = some row ∧ row.holder = ""
  freedOnce : ∀ first second, (state.replicas first).phase = .freed →
    (state.replicas second).phase = .freed → first = second

theorem Holds.unique {first second : Nat} (one : state.Holds config first)
    (two : state.Holds config second) : first = second := by
  obtain ⟨row, found, holder, -⟩ := one
  obtain ⟨other, foundOther, holderOther, -⟩ := two
  obtain rfl : row = other := Option.some.inj (found.symm.trans foundOther)
  exact config.distinct first second (holder.symm.trans holderOther)

/-- Where the lease is kept, there is one leader at most. -/
theorem LeaseKept.oneLeader (kept : state.LeaseKept config) : state.OneLeader := by
  -- a replica that has freed the row keeps everybody else from holding it
  have alone : ∀ first second, state.IsLeader second →
      (state.replicas first).phase = .freed → (state.replicas second).phase = .freed := by
    intro first second leads freed
    by_contra holding
    obtain ⟨⟨row, found, holder, -⟩, -⟩ := kept.led second leads holding
    obtain ⟨other, foundOther, nobody⟩ := kept.freed first freed
    obtain rfl : row = other := Option.some.inj (found.symm.trans foundOther)
    exact config.named second (holder.symm.trans nobody)
  intro first second one two
  by_cases firstFreed : (state.replicas first).phase = .freed
  · exact kept.freedOnce first second firstFreed (alone first second two firstFreed)
  · by_cases secondFreed : (state.replicas second).phase = .freed
    · exact absurd (alone second first one secondFreed) firstFreed
    · exact (kept.led first one firstFreed).1.unique (kept.led second two secondFreed).1

theorem initial_leaseKept (config : LeaseConfig) (clock : Int) (row : Option LeaseRow) :
    (initial clock row).LeaseKept config where
  recent replica := by
    have positive : 0 ≤ config.lifetime replica := by
      unfold LeaseConfig.lifetime
      split <;> omega
    exact Int.le_add_of_nonneg_right positive
  timed _ _ phase := by rcases phase with timed | locked <;> contradiction
  won _ _ phase := nomatch phase
  led _ leads := nomatch leads
  freed _ phase := nomatch phase
  freedOnce _ _ phase := nomatch phase

/-! ### Steps -/

theorem LeaseKept.move (kept : state.LeaseKept config) (replica : Nat) (changed : Replica)
    (clock : after.clock = state.clock) (row : after.row = state.row)
    (replicas : after.replicas = Function.update state.replicas replica changed)
    (wrote : changed.wrote = (state.replicas replica).wrote)
    (timed : ∀ now, changed.phase = .timed now ∨ changed.phase = .locked now →
      now ≤ state.clock ∧ changed.wrote ≤ now + config.lifetime replica)
    (unsettled : ∀ expires, changed.phase ≠ .won expires) (unfreed : changed.phase ≠ .freed)
    (led : changed.isLeader = true →
      state.Holds config replica ∧ state.clock ≤ (state.replicas replica).wrote) :
    after.LeaseKept config := by
  have moved : after.replicas replica = changed := by rw [replicas, Function.update_self]
  have others : ∀ other, other ≠ replica → after.replicas other = state.replicas other := by
    intro other different
    rw [replicas, Function.update_of_ne different]
  have writes : ∀ other, (after.replicas other).wrote = (state.replicas other).wrote := by
    intro other
    by_cases same : other = replica
    · rw [same, moved, wrote]
    · rw [others other same]
  have holds : ∀ other, after.Holds config other ↔ state.Holds config other := by
    intro other
    unfold Holds
    rw [row, writes]
  refine ⟨fun other => ?_, fun other now phase => ?_, fun other expires phase => ?_,
    fun other leads phase => ?_, fun other phase => ?_, fun first second one two => ?_⟩
  · rw [clock, writes]
    exact kept.recent other
  · rw [clock]
    by_cases same : other = replica
    · subst same
      rw [moved] at phase ⊢
      exact timed now phase
    · rw [others other same] at phase ⊢
      exact kept.timed other now phase
  · rw [clock, writes, holds]
    by_cases same : other = replica
    · subst same
      rw [moved] at phase
      exact absurd phase (unsettled expires)
    · rw [others other same] at phase
      exact kept.won other expires phase
  · rw [clock, writes, holds]
    unfold IsLeader at leads
    by_cases same : other = replica
    · subst same
      rw [moved] at leads
      exact led leads
    · rw [others other same] at leads phase
      exact kept.led other leads phase
  · rw [row]
    by_cases same : other = replica
    · subst same
      rw [moved] at phase
      exact absurd phase unfreed
    · rw [others other same] at phase
      exact kept.freed other phase
  · have apart : ∀ other, (after.replicas other).phase = .freed → other ≠ replica := by
      rintro other freed rfl
      rw [moved] at freed
      exact unfreed freed
    rw [others first (apart first one)] at one
    rw [others second (apart second two)] at two
    exact kept.freedOnce first second one two

theorem LeaseKept.setPhase (kept : state.LeaseKept config) (replica : Nat) (phase : LeasePhase)
    (clock : after.clock = state.clock) (row : after.row = state.row)
    (replicas : after.replicas = (state.setPhase replica phase).replicas)
    (held : (state.replicas replica).phase ≠ .freed)
    (timed : ∀ now, phase = .timed now ∨ phase = .locked now →
      now ≤ state.clock ∧ (state.replicas replica).wrote ≤ now + config.lifetime replica)
    (unsettled : ∀ expires, phase ≠ .won expires) (unfreed : phase ≠ .freed) :
    after.LeaseKept config :=
  kept.move replica { state.replicas replica with phase } clock row replicas rfl timed unsettled
    unfreed fun leads => kept.led replica leads held

theorem LeaseKept.lost (kept : state.LeaseKept config) (replica : Nat)
    (clock : after.clock = state.clock) (row : after.row = state.row)
    (replicas : after.replicas = (state.setPhase replica .lost).replicas)
    (held : (state.replicas replica).phase ≠ .freed) : after.LeaseKept config :=
  kept.setPhase replica .lost clock row replicas held
    (fun _ phase => by rcases phase with timed | locked <;> contradiction)
    (fun _ phase => nomatch phase) (fun phase => nomatch phase)

theorem claim_cases (config : LeaseConfig) (state : LeaseState) (replica : Nat) (now : Int)
    (answer : DBAnswer) :
    state.claim config replica now answer = state.setPhase replica .lost ∨
    ∃ phase generation, (phase = .won (now + config.lifetime replica) ∨ phase = .lost) ∧
      (∀ old, state.row = some old → old.holder = config.id replica ∨ old.expiresAt < now) ∧
      state.claim config replica now answer =
        { state.setReplica replica
            { state.replicas replica with phase, wrote := now + config.lifetime replica }
          with row := some { holder := config.id replica
                             expiresAt := now + config.lifetime replica, generation } } := by
  have taken : ∀ row, upsert state.row (config.id replica) (now + config.lifetime replica) now =
      some row → (∃ generation, row =
        { holder := config.id replica, expiresAt := now + config.lifetime replica, generation }) ∧
      ∀ old, state.row = some old → old.holder = config.id replica ∨ old.expiresAt < now := by
    intro row upserted
    unfold upsert at upserted
    split at upserted
    · rename_i absent
      cases upserted
      refine ⟨⟨_, rfl⟩, fun old found => ?_⟩
      rw [absent] at found
      cases found
    · rename_i old found
      split at upserted
      · rename_i free
        cases upserted
        refine ⟨⟨_, rfl⟩, fun other foundOther => ?_⟩
        obtain rfl : old = other := Option.some.inj (found.symm.trans foundOther)
        exact free
      · cases upserted
  unfold claim
  dsimp only
  split
  · exact Or.inl rfl
  · exact Or.inl rfl
  · rename_i row upserted
    obtain ⟨⟨generation, rfl⟩, free⟩ := taken row upserted
    exact Or.inr ⟨_, generation, Or.inl rfl, free, rfl⟩
  · rename_i row upserted
    obtain ⟨⟨generation, rfl⟩, free⟩ := taken row upserted
    exact Or.inr ⟨_, generation, Or.inr rfl, free, rfl⟩

theorem LeaseKept.claim (kept : state.LeaseKept config) (replica : Nat) (now : Int)
    (answer : DBAnswer) (begun : (state.replicas replica).phase = .timed now ∨
      (state.replicas replica).phase = .locked now)
    (unfreed : ∀ other, (state.replicas other).phase ≠ .freed)
    (clock : after.clock = (state.claim config replica now answer).clock)
    (row : after.row = (state.claim config replica now answer).row)
    (replicas : after.replicas = (state.claim config replica now answer).replicas) :
    after.LeaseKept config := by
  rcases state.claim_cases config replica now answer with
    same | ⟨phase, generation, ended, free, same⟩
  · rw [same] at clock row replicas
    exact kept.lost replica clock row replicas (unfreed replica)
  rw [same] at clock row replicas
  obtain ⟨past, later⟩ := kept.timed replica now begun
  have moved : after.replicas replica =
      { state.replicas replica with phase, wrote := now + config.lifetime replica } := by
    rw [replicas]
    exact Function.update_self ..
  have others : ∀ other, other ≠ replica → after.replicas other = state.replicas other := by
    intro other different
    rw [replicas]
    exact Function.update_of_ne different ..
  have holds : after.Holds config replica := by
    refine ⟨_, row, rfl, ?_⟩
    rw [moved]
  -- whoever else held the row had let it expire
  have expired : ∀ other, other ≠ replica → state.Holds config other →
      (state.replicas other).wrote < state.clock := by
    rintro other different ⟨old, found, holder, expires⟩
    rcases free old found with ours | ended
    · exact absurd (config.distinct other replica (holder.symm.trans ours)) different
    · omega
  have unfreedAfter : ∀ other, (after.replicas other).phase ≠ .freed := by
    intro other freed
    by_cases own : other = replica
    · subst own
      rw [moved] at freed
      rcases ended with rfl | rfl <;> cases freed
    · rw [others other own] at freed
      exact unfreed other freed
  refine ⟨fun other => ?_, fun other start phase => ?_, fun other expires phase => ?_,
    fun other leads held => ?_, fun other freed => absurd freed (unfreedAfter other),
    fun first _ freed _ => absurd freed (unfreedAfter first)⟩
  · rw [clock]
    by_cases own : other = replica
    · rw [own, moved]
      exact Int.add_le_add_right past _
    · rw [others other own]
      exact kept.recent other
  · rw [clock]
    by_cases own : other = replica
    · subst own
      rw [moved] at phase
      rcases ended with rfl | rfl <;> rcases phase with timed | locked <;> contradiction
    · rw [others other own] at phase ⊢
      exact kept.timed other start phase
  · rw [clock]
    by_cases own : other = replica
    · subst own
      rw [moved] at phase ⊢
      rcases ended with rfl | rfl
      · exact ⟨LeasePhase.won.inj phase, Or.inl holds⟩
      · cases phase
    · rw [others other own] at phase ⊢
      obtain ⟨wrote, held | ended⟩ := kept.won other expires phase
      · have ended := expired other own held
        exact ⟨wrote, Or.inr (wrote ▸ ended)⟩
      · exact ⟨wrote, Or.inr ended⟩
  · rw [clock]
    unfold IsLeader at leads
    by_cases own : other = replica
    · subst own
      refine ⟨holds, ?_⟩
      rw [moved] at leads ⊢
      exact le_trans (kept.led other leads (unfreed other)).2 later
    · rw [others other own] at leads
      obtain ⟨held, ahead⟩ := kept.led other leads (unfreed other)
      exact absurd ahead (not_le.mpr (expired other own held))

theorem LeaseKept.free (kept : state.LeaseKept config) (replica : Nat) (answer : DBAnswer)
    (releasing : (state.replicas replica).phase = .releasing) :
    (state.free config replica answer).LeaseKept config := by
  have held : (state.replicas replica).phase ≠ .freed := by
    rw [releasing]
    decide
  unfold LeaseState.free
  split
  · exact kept.lost replica rfl rfl rfl held
  · exact kept.lost replica rfl rfl rfl held
  · rename_i row _ found
    split
    · rename_i holder
      have others : ∀ other, other ≠ replica →
          (state.setPhase replica .freed).replicas other = state.replicas other :=
        fun other different => Function.update_of_ne different ..
      have moved : (state.setPhase replica .freed).replicas replica =
          { state.replicas replica with phase := .freed } := Function.update_self ..
      have nobody : ∀ other, other ≠ replica → ¬ state.Holds config other := by
        rintro other different ⟨old, foundOld, holderOld, -⟩
        obtain rfl : row = old := Option.some.inj (found.symm.trans foundOld)
        exact different (config.distinct other replica (holderOld.symm.trans holder))
      have first : ∀ other, (state.replicas other).phase ≠ .freed := by
        intro other freed
        obtain ⟨old, foundOld, unheld⟩ := kept.freed other freed
        obtain rfl : row = old := Option.some.inj (found.symm.trans foundOld)
        exact config.named replica (holder.symm.trans unheld)
      have own : ∀ other, ((state.setPhase replica .freed).replicas other).phase = .freed →
          other = replica := by
        intro other freed
        by_contra different
        rw [others other different] at freed
        exact first other freed
      refine ⟨fun other => ?_, fun other now phase => ?_, fun other expires phase => ?_,
        fun other leads unfreed => ?_, fun other _ => ⟨_, rfl, rfl⟩,
        fun one two freedOne freedTwo => (own one freedOne).trans (own two freedTwo).symm⟩
      · dsimp only
        by_cases same : other = replica
        · rw [same, moved]
          exact kept.recent replica
        · rw [others other same]
          exact kept.recent other
      · dsimp only at phase ⊢
        by_cases same : other = replica
        · subst same
          rw [moved] at phase
          rcases phase with timed | locked <;> contradiction
        · rw [others other same] at phase ⊢
          exact kept.timed other now phase
      · dsimp only at phase ⊢
        by_cases same : other = replica
        · subst same
          rw [moved] at phase
          cases phase
        · rw [others other same] at phase ⊢
          obtain ⟨wrote, holds | ended⟩ := kept.won other expires phase
          · exact absurd holds (nobody other same)
          · exact ⟨wrote, Or.inr ended⟩
      · dsimp only [IsLeader] at leads unfreed
        by_cases same : other = replica
        · subst same
          rw [moved] at unfreed
          exact absurd rfl unfreed
        · rw [others other same] at leads unfreed
          exact absurd (kept.led other leads unfreed).1 (nobody other same)
    · exact kept.lost replica rfl rfl rfl held

theorem LeaseKept.tick (kept : state.LeaseKept config) {now : Int} (forward : state.clock ≤ now)
    (onTime : ∀ replica, state.IsLeader replica → now ≤ (state.replicas replica).wrote) :
    LeaseKept config { state with clock := now } := by
  refine ⟨fun replica => ?_, fun replica start phase => ?_, fun replica expires phase => ?_,
    fun replica leads held => ⟨(kept.led replica leads held).1, onTime replica leads⟩,
    kept.freed, kept.freedOnce⟩
  · exact le_trans (kept.recent replica) (Int.add_le_add_right forward _)
  · obtain ⟨past, later⟩ := kept.timed replica start phase
    exact ⟨le_trans past forward, later⟩
  · obtain ⟨wrote, holds | ended⟩ := kept.won replica expires phase
    · exact ⟨wrote, Or.inl holds⟩
    · exact ⟨wrote, Or.inr (lt_of_lt_of_le ended forward)⟩

theorem LeaseKept.demote (kept : state.LeaseKept config) (replica : Nat) :
    (state.setReplica replica
      { (state.replicas replica).swap false with phase := .idle }).LeaseKept config := by
  refine kept.move replica _ rfl rfl rfl (Replica.swap_wrote _ _) (fun now phase => ?_)
    (fun _ phase => by cases phase) (fun phase => by cases phase) (fun leads => ?_)
  · rcases phase with timed | locked <;> contradiction
  · dsimp only at leads
    rw [Replica.swap_isLeader] at leads
    cases leads

theorem LeaseKept.promote (kept : state.LeaseKept config) (replica : Nat) {expires : Int}
    (won : (state.replicas replica).phase = .won expires) (inTime : state.clock ≤ expires) :
    (state.setReplica replica
      { (state.replicas replica).swap true with phase := .idle }).LeaseKept config := by
  refine kept.move replica _ rfl rfl rfl (Replica.swap_wrote _ _) (fun now phase => ?_)
    (fun _ phase => by cases phase) (fun phase => by cases phase) (fun _ => ?_)
  · rcases phase with timed | locked <;> contradiction
  · obtain ⟨wrote, holds | ended⟩ := kept.won replica expires won
    · exact ⟨holds, wrote ▸ inTime⟩
    · exact absurd inTime (not_le.mpr ended)

theorem LeaseKept.attempt (kept : state.LeaseKept config) {replica : Nat}
    (idle : (state.replicas replica).phase = .idle) :
    (state.setPhase replica (.timed state.clock)).LeaseKept config := by
  refine kept.setPhase replica _ rfl rfl rfl (by rw [idle]; decide) (fun now phase => ?_)
    (fun _ phase => by cases phase) (fun phase => by cases phase)
  rcases phase with timed | locked
  · rw [← LeasePhase.timed.inj timed]
    exact ⟨le_refl _, kept.recent replica⟩
  · cases locked

theorem LeaseKept.locks (kept : state.LeaseKept config) {replica : Nat} {now : Int}
    (timed : (state.replicas replica).phase = .timed now) :
    LeaseKept config { state.setPhase replica (.locked now) with lock := some replica } := by
  refine kept.setPhase replica (.locked now) rfl rfl rfl (by rw [timed]; exact LeasePhase.noConfusion)
    (fun start phase => ?_) (fun _ phase => by cases phase) (fun phase => by cases phase)
  rcases phase with timed' | locked
  · cases timed'
  · rw [← LeasePhase.locked.inj locked]
    exact kept.timed replica now (Or.inl timed)

/-- Every orderly step on time keeps the lease. -/
theorem step_leaseKept {label : LeaseLabel} (kept : state.LeaseKept config)
    (onTime : state.OnTime label) (orderly : state.Orderly label)
    (fired : state.step config label = some after) : after.LeaseKept config := by
  cases move_of_step fired with
  | tick forward => exact kept.tick forward onTime
  | attempt idle => exact kept.attempt idle
  | exec timed => exact kept.claim _ _ _ (Or.inl timed) orderly rfl rfl rfl
  | locks timed => exact kept.locks timed
  | fails timed => exact kept.lost _ rfl rfl rfl (by rw [timed]; exact LeasePhase.noConfusion)
  | commit locked => exact kept.claim _ _ _ (Or.inr locked) orderly rfl rfl rfl
  | release idle =>
    exact kept.setPhase _ .releasing rfl rfl rfl (by rw [idle]; decide)
      (fun _ phase => by rcases phase with timed | locked <;> contradiction)
      (fun _ phase => by cases phase) (fun phase => by cases phase)
  | follows => exact kept
  | freeRow releasing => exact kept.free _ _ releasing
  | promote won => exact kept.promote _ won (orderly _ won)
  | demote => exact kept.demote _

/-- In every run in which leaders are on time, no claim falls into a release and no flag is set
after its expiry, at most one replica is leader. -/
theorem oneLeader_of_orderly (config : LeaseConfig) (clock : Int) (row : Option LeaseRow)
    (state : LeaseState)
    (reached : Runs.Reaches (LeaseState.step config)
      (fun state label => state.OnTime label ∧ state.Orderly label) (initial clock row) state) :
    state.OneLeader :=
  (reached.invariant (LeaseKept config) (initial_leaseKept config clock row)
    fun _ _ _ kept permitted fired => step_leaseKept kept permitted.1 permitted.2 fired).oneLeader

/-! ### Two replicas -/

/-- Replicas with the names `r`, `rr` and so on. -/
def namedReplicas (dialect : Dialect) : LeaseConfig where
  dialect := dialect
  id replica := String.ofList (List.replicate (replica + 1) 'r')
  ttl _ := 30000000000
  distinct first second same := by
    have lengths := congrArg String.length same
    rw [String.length_ofList, String.length_ofList, List.length_replicate,
      List.length_replicate] at lengths
    exact Nat.succ.inj lengths
  named replica empty := by
    have lengths := congrArg String.length empty
    rw [String.length_ofList, List.length_replicate] at lengths
    cases lengths

/-- The step is one of the first two replicas, or of the clock and on time for these two. -/
def SmallStep (state : LeaseState) (label : LeaseLabel) : Prop :=
  (∀ replica ∈ label.mover, replica < 2) ∧
    ∀ now ∈ label.instant, ∀ replica < 2, (state.replicas replica).isLeader = true →
      now ≤ (state.replicas replica).wrote

instance (state : LeaseState) (label : LeaseLabel) : Decidable (state.SmallStep label) :=
  inferInstanceAs (Decidable (_ ∧ _))

theorem untouched_of_small {clock : Int} {row : Option LeaseRow}
    (reached : Runs.Reaches (LeaseState.step config) SmallStep (initial clock row) state)
    (other : Nat) (beyond : 2 ≤ other) : state.replicas other = { wrote := clock } := by
  refine reached.invariant (fun state => state.replicas other = { wrote := clock }) rfl ?_
  intro before label after untouched small fired
  rw [step_others (fun moves => ?_) fired, untouched]
  exact absurd (small.1 other moves) (not_lt.mpr beyond)

theorem onTime_of_small {clock : Int} {row : Option LeaseRow}
    (reached : Runs.Reaches (LeaseState.step config) SmallStep (initial clock row) state)
    {label : LeaseLabel} (small : state.SmallStep label) : state.OnTime label := by
  cases label with
  | tick now =>
    intro replica leads
    by_cases beyond : 2 ≤ replica
    · rw [IsLeader, untouched_of_small reached replica beyond] at leads
      cases leads
    · exact small.2 now rfl replica (not_le.mp beyond) leads
  | _ => trivial

/-- A replica of the SQLite database attempts to become leader. -/
def elect (replica : Nat) : List LeaseLabel :=
  [.attempt replica, .exec replica .done, .settle replica]

/-- The first replica gives the row up, and before it clears its flag the second becomes leader. -/
def claimedRelease : List LeaseLabel :=
  elect 0 ++ [.release 0, .freeRow 0 .done] ++ elect 1

/-- The first replica wins the row and sets its flag only after the row has expired and the
second has become leader. -/
def lateFlag : List LeaseLabel :=
  [.attempt 0, .exec 0 .done, .tick 30000000001] ++ elect 1 ++ [.settle 0]

/-- The history ends with two leaders, though all leaders were on time. -/
def TwoLeaders (history : List LeaseLabel) : Prop :=
  ∃ state, Runs.exec (LeaseState.step (namedReplicas .sqlite)) SmallStep (initial 0 none) history =
      some state ∧
    Runs.Reaches (LeaseState.step (namedReplicas .sqlite)) OnTime (initial 0 none) state ∧
    ¬ state.OneLeader

theorem twoLeaders_of_tested {history : List LeaseLabel}
    (tested : (Runs.exec (LeaseState.step (namedReplicas .sqlite)) SmallStep (initial 0 none)
      history).any (fun state =>
        (state.replicas 0).isLeader && (state.replicas 1).isLeader) = true) :
    TwoLeaders history := by
  obtain ⟨state, executed, both⟩ := (Option.any_eq_true _ _).mp tested
  obtain ⟨first, second⟩ := Bool.and_eq_true_iff.mp both
  have reached := Runs.reaches_of_exec _ _ _ executed
  refine ⟨state, executed, reached.mono fun _ _ before small => onTime_of_small before small,
    fun one => ?_⟩
  exact absurd (one 0 1 first second) (by decide)

/-- Both histories end with two leaders. -/
theorem two_leaders_at_once : TwoLeaders claimedRelease ∧ TwoLeaders lateFlag :=
  ⟨twoLeaders_of_tested (by decide), twoLeaders_of_tested (by decide)⟩

/-- The expiry of a claim that has not been turned into a flag yet. -/
def pendingExpiry : LeasePhase → Option Int
  | .won expires => some expires
  | _ => none

/-- The condition as far as the first two replicas go. -/
def LooksOrderly (state : LeaseState) (label : LeaseLabel) : Prop :=
  (∀ other < 2, (state.replicas other).phase ≠ .freed) ∧
    ∀ replica ∈ label.mover, ∀ expires ∈ pendingExpiry (state.replicas replica).phase,
      state.clock ≤ expires

instance (state : LeaseState) (label : LeaseLabel) : Decidable (state.LooksOrderly label) :=
  inferInstanceAs (Decidable (_ ∧ _))

theorem orderly_of_looksOrderly {clock : Int} {row : Option LeaseRow}
    (reached : Runs.Reaches (LeaseState.step config) SmallStep (initial clock row) state)
    {label : LeaseLabel} (looks : state.LooksOrderly label) : state.Orderly label := by
  have unfreed : ∀ other, (state.replicas other).phase ≠ .freed := by
    intro other
    by_cases beyond : 2 ≤ other
    · rw [untouched_of_small reached other beyond]
      exact fun freed => nomatch freed
    · exact looks.1 other (not_le.mp beyond)
  cases label with
  | exec replica answer => exact unfreed
  | commit replica answer => exact unfreed
  | settle replica =>
    intro expires won
    refine looks.2 replica rfl expires ?_
    rw [won]
    rfl
  | _ => trivial

/-- The second replica fails to become leader, and the first renews its claim in time. -/
def renewal : List LeaseLabel :=
  elect 0 ++ [.tick 10000000000] ++ elect 1 ++ [.tick 20000000000] ++ elect 0

/-- The first replica is the one leader. -/
theorem renewed_leader_is_alone :
    ∃ state : LeaseState, state.IsLeader 0 ∧ state.clock = 20000000000 ∧ state.OneLeader := by
  obtain ⟨state, reached, tested⟩ := Runs.exists_reaches_of_exec
    (LeaseState.step (namedReplicas .sqlite))
    (fun state label => state.SmallStep label ∧ state.LooksOrderly label) (initial 0 none) renewal
    (fun state => (state.replicas 0).isLeader && state.clock == 20000000000) (by decide)
  obtain ⟨leads, clock⟩ := Bool.and_eq_true_iff.mp tested
  refine ⟨state, leads, beq_iff_eq.mp clock,
    oneLeader_of_orderly (namedReplicas .sqlite) 0 none state ?_⟩
  refine reached.mono fun _ _ before permitted => ?_
  have small := before.mono fun _ _ _ permitted => permitted.1
  exact ⟨onTime_of_small small permitted.1, orderly_of_looksOrderly small permitted.2⟩

end LeaseState

end MqConnector
