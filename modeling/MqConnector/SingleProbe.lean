/-
This file asks whether the half-open breaker ever has more than one probe out.

The breaker is taken with any number of workers, each of which is admitted by
`allow` and later reports once through `recordResult`. A worker that `allow` lets
through when it turns an open breaker half open is a probe. `recordResult` is not
told whose result it records: the late result of a send admitted before the outage
takes the breaker out of the half-open state while the probe is still out, and the
next cool-down admits a second one.
-/

import MqConnector.Probe

namespace MqConnector

/-! ### Workers at the breaker -/

/-- What a worker has from the breaker: nothing, a send admitted by a closed breaker, or the
probe. -/
inductive Admission
  | idle | admitted | probing
  deriving DecidableEq

/-- A breaker and its workers. -/
structure BreakerUse where
  breaker : Breaker
  workers : Nat → Admission

/-- A call of a worker, with the clock it reads. -/
inductive BreakerCall
  | allow (worker : Nat) (now : Int)
  | recordResult (worker : Nat) (success : Bool) (now : Int)
  deriving DecidableEq

namespace BreakerUse

def initial (threshold cooldown : Int) : BreakerUse where
  breaker := newBreaker threshold cooldown
  workers := fun _ => .idle

/-- What `allow` gives a worker it lets through. -/
def admission (breaker : Breaker) : Admission :=
  if breaker.state = .open then .probing else .admitted

/-- One call. A worker asks when it has nothing and reports when it has been let through. -/
def step (use : BreakerUse) : BreakerCall → Option BreakerUse
  | .allow worker now =>
    if use.workers worker = .idle then
      some { breaker := (use.breaker.allow now).2
             workers := if (use.breaker.allow now).1 then
                 Function.update use.workers worker (admission use.breaker)
               else use.workers }
    else none
  | .recordResult worker success now =>
    if use.workers worker = .idle then none
    else
      some { breaker := use.breaker.recordResult success now
             workers := Function.update use.workers worker .idle }

def SingleProbe (use : BreakerUse) : Prop :=
  ∀ first second, use.workers first = .probing → use.workers second = .probing → first = second

/-- The condition on a call: a half-open breaker hears from its probe only. -/
def OwnResult (use : BreakerUse) : BreakerCall → Prop
  | .allow _ _ => True
  | .recordResult worker _ _ => use.breaker.state = .halfOpen → use.workers worker = .probing

instance (use : BreakerUse) : ∀ call, Decidable (use.OwnResult call)
  | .allow _ _ => .isTrue trivial
  | .recordResult worker _ _ =>
    inferInstanceAs (Decidable (use.breaker.state = .halfOpen → use.workers worker = .probing))

/-! ### The invariant -/

/-- The probe is out exactly while the breaker is half open, and only finitely many workers are
busy. -/
structure ProbeKept (use : BreakerUse) : Prop where
  single : use.SingleProbe
  probing : use.breaker.state = .halfOpen ↔ ∃ worker, use.workers worker = .probing
  busy : ∃ bound, ∀ worker, bound ≤ worker → use.workers worker = .idle

theorem initial_probeKept (threshold cooldown : Int) : (initial threshold cooldown).ProbeKept where
  single _ _ first := nomatch first
  probing := ⟨fun halfOpen => (nomatch halfOpen), fun ⟨_, probing⟩ => (nomatch probing)⟩
  busy := ⟨0, fun _ _ => rfl⟩

theorem busy_update {workers : Nat → Admission} (worker : Nat) (admission : Admission)
    (busy : ∃ bound, ∀ worker, bound ≤ worker → workers worker = .idle) :
    ∃ bound, ∀ other, bound ≤ other → Function.update workers worker admission other = .idle := by
  obtain ⟨bound, idle⟩ := busy
  refine ⟨max bound (worker + 1), fun other beyond => ?_⟩
  have different : other ≠ worker := by omega
  rw [Function.update_of_ne different]
  exact idle other (le_trans (le_max_left _ _) beyond)

theorem probing_update {workers : Nat → Admission} {worker other : Nat} {admission : Admission}
    (ordinary : admission ≠ .probing)
    (probing : Function.update workers worker admission other = .probing) :
    other ≠ worker ∧ workers other = .probing := by
  by_cases same : other = worker
  · rw [same, Function.update_self] at probing
    exact absurd probing ordinary
  · rw [Function.update_of_ne same] at probing
    exact ⟨same, probing⟩

theorem allow_probeKept {use : BreakerUse} (kept : use.ProbeKept) (worker : Nat) (now : Int) :
    ProbeKept { breaker := (use.breaker.allow now).2
                workers := if (use.breaker.allow now).1 then
                    Function.update use.workers worker (admission use.breaker)
                  else use.workers } := by
  unfold Breaker.allow
  cases state : use.breaker.state with
  | closed =>
    have ordinary : admission use.breaker ≠ .probing := by
      rw [admission, state]
      decide
    have nobody : ∀ other, use.workers other ≠ .probing := fun other probing => by
      have halfOpen := kept.probing.mpr ⟨other, probing⟩
      rw [state] at halfOpen
      cases halfOpen
    refine ⟨fun first _ probing _ => ?_, ⟨fun halfOpen => ?_, fun ⟨other, probing⟩ => ?_⟩,
      busy_update worker _ kept.busy⟩
    · exact absurd (probing_update ordinary probing).2 (nobody first)
    · exact absurd (state.symm.trans halfOpen) (by decide)
    · exact absurd (probing_update ordinary probing).2 (nobody other)
  | halfOpen => exact ⟨kept.single, kept.probing, kept.busy⟩
  | «open» =>
    dsimp only
    split
    · exact ⟨kept.single, kept.probing, kept.busy⟩
    · -- the cool-down is over: the caller becomes the probe of a half-open breaker
      have nobody : ∀ other, use.workers other ≠ .probing := fun other probing => by
        have halfOpen := kept.probing.mpr ⟨other, probing⟩
        rw [state] at halfOpen
        cases halfOpen
      have probe : admission use.breaker = .probing := if_pos state
      rw [if_pos rfl, probe]
      have only : ∀ other, Function.update use.workers worker .probing other = .probing →
          other = worker := by
        intro other probing
        by_contra different
        rw [Function.update_of_ne different] at probing
        exact nobody other probing
      refine ⟨fun first second one two => (only first one).trans (only second two).symm,
        ⟨fun _ => ⟨worker, Function.update_self ..⟩, fun _ => rfl⟩, busy_update worker _ kept.busy⟩

theorem record_probeKept {use : BreakerUse} (kept : use.ProbeKept) (worker : Nat)
    (success : Bool) (now : Int)
    (own : use.breaker.state = .halfOpen → use.workers worker = .probing) :
    ProbeKept { breaker := use.breaker.recordResult success now
                workers := Function.update use.workers worker .idle } := by
  -- whoever was the probe has just reported, or the breaker was not half open
  have nobody : ∀ other, Function.update use.workers worker .idle other ≠ .probing := by
    intro other probing
    obtain ⟨different, probing⟩ := probing_update (by decide) probing
    have halfOpen := kept.probing.mpr ⟨other, probing⟩
    exact different (kept.single other worker probing (own halfOpen))
  refine ⟨fun first _ probing _ => absurd probing (nobody first), ⟨fun halfOpen => ?_, ?_⟩,
    busy_update worker _ kept.busy⟩
  · exact absurd halfOpen (use.breaker.recordResult_state_ne success now)
  · rintro ⟨other, probing⟩
    exact absurd probing (nobody other)

/-- Own results keep one probe. -/
theorem step_probeKept {use after : BreakerUse} {call : BreakerCall} (kept : use.ProbeKept)
    (own : use.OwnResult call) (fired : use.step call = some after) : after.ProbeKept := by
  cases call with
  | allow worker now =>
    simp only [step] at fired
    split at fired
    · cases fired
      exact allow_probeKept kept worker now
    · cases fired
  | recordResult worker success now =>
    simp only [step] at fired
    split at fired
    · cases fired
    · cases fired
      exact record_probeKept kept worker success now own

/-! ### The workers of an executor -/

section Executor

variable {World : Type}

/-- The executor's workers stand at the breaker as those of `use` do. -/
structure Tracks (use : BreakerUse) (state : PipelineState) : Prop where
  breaker : use.breaker = state.shared.breaker
  owes : ∀ worker, (state.workers worker).outstanding = decide (use.workers worker ≠ .idle)

/-- No worker is closed at the dedup gate. -/
def NoHit (executor : Executor World) (state : PipelineState) : PipelineLabel World → Prop
  | .act worker (.checkDedup clock) =>
    match state.workers worker with
    | .admitted _ outcome => executor.hitsWindow state.shared outcome.body clock = false
    | _ => True
  | _ => True

/-- What a step of a worker is to the breaker: nothing, a call of `allow` or one of
`recordResult`. -/
inductive BreakerEffect (shared : Shared) (phase : Phase) (moved : Phase × Shared) : Prop
  | beside (same : moved.1.outstanding = phase.outstanding)
      (breaker : moved.2.breaker = shared.breaker)
  | asked (now : Int) (free : phase.outstanding = false)
      (owes : moved.1.outstanding = (shared.breaker.allow now).1)
      (breaker : moved.2.breaker = (shared.breaker.allow now).2)
  | reported (success : Bool) (now : Int) (owed : phase.outstanding = true)
      (free : moved.1.outstanding = false)
      (breaker : moved.2.breaker = shared.breaker.recordResult success now)

theorem advance_breakerEffect {executor : Executor World} {shared : Shared} {phase : Phase}
    {action : Action World} {moved : Phase × Shared} (counted : shared.dedup.Counted)
    (noHit : ∀ message outcome clock, phase = .admitted message outcome →
      action = .checkDedup clock → executor.hitsWindow shared outcome.body clock = false)
    (fired : executor.advance shared phase action = some moved) :
    BreakerEffect shared phase moved := by
  cases Executor.move_of_advance counted fired with
  | admitted answer => exact .asked _ rfl answer.symm rfl
  | refused answer => exact .asked _ rfl answer.symm rfl
  | duplicate hit =>
    rw [noHit _ _ _ rfl rfl] at hit
    cases hit
  | failed => exact .reported false _ rfl rfl rfl
  | @delivered _ now _ went =>
    refine .reported true now rfl ?_ rfl
    rcases went with rfl | rfl
    · rfl
    · rfl
  | receive | stageFails | staged | forwards | skips | sendFails | sends | shadow | pushes
  | pushFails | commits | nacks => exact .beside rfl rfl

theorem Tracks.update {use : BreakerUse} {state : PipelineState} (tracks : use.Tracks state)
    (worker : Nat) {phase : Phase} (admission : Admission)
    (owes : phase.outstanding = decide (admission ≠ .idle)) (other : Nat) :
    (Function.update state.workers worker phase other).outstanding =
      decide (Function.update use.workers worker admission other ≠ .idle) := by
  by_cases same : other = worker
  · rw [same, Function.update_self, Function.update_self]
    exact owes
  · rw [Function.update_of_ne same, Function.update_of_ne same]
    exact tracks.owes other

/-- Every step of the executor is tracked by steps of the breaker's machine. -/
theorem Tracks.step {use : BreakerUse} {executor : Executor World} {state after : PipelineState}
    {label : PipelineLabel World} (tracks : use.Tracks state)
    (counted : state.shared.dedup.Counted) (noHit : NoHit executor state label)
    (fired : executor.step state label = some after) :
    ∃ later, Runs.Reachable BreakerUse.step use later ∧ later.Tracks after := by
  cases label with
  | arrive body =>
    cases fired
    exact ⟨use, .start, tracks.breaker, tracks.owes⟩
  | prune cutoff =>
    cases fired
    exact ⟨use, .start, tracks.breaker, tracks.owes⟩
  | act worker action =>
    obtain ⟨moved, advanced, rfl⟩ := Option.map_eq_some_iff.mp fired
    have unhit : ∀ message outcome clock, state.workers worker = .admitted message outcome →
        action = .checkDedup clock →
        executor.hitsWindow state.shared outcome.body clock = false := by
      rintro message outcome clock atGate rfl
      rw [NoHit, atGate] at noHit
      exact noHit
    have owed := tracks.owes worker
    cases advance_breakerEffect counted unhit advanced with
    | beside same breaker =>
      refine ⟨use, .start, tracks.breaker.trans breaker.symm, fun other => ?_⟩
      have unmoved := tracks.update worker (use.workers worker) (same.trans owed) other
      rw [Function.update_eq_self] at unmoved
      exact unmoved
    | asked now free owes breaker =>
      rw [free] at owed
      have idle : use.workers worker = .idle := by
        by_contra busy
        rw [decide_eq_true busy] at owed
        cases owed
      refine ⟨_, .next .start trivial (show use.step (.allow worker now) = some _ from
        if_pos idle), ?_, fun other => ?_⟩
      · rw [breaker, ← tracks.breaker]
      · rw [← tracks.breaker] at owes
        cases allowed : (use.breaker.allow now).1 with
        | true =>
          rw [allowed] at owes
          refine tracks.update worker _ ?_ other
          rw [owes, admission]
          split
          · rfl
          · rfl
        | false =>
          rw [allowed] at owes
          have unmoved := tracks.update worker (use.workers worker)
            (owes.trans (by rw [idle]; rfl)) other
          rw [Function.update_eq_self] at unmoved
          exact unmoved
    | reported success now owes free breaker =>
      rw [owes] at owed
      have busy : use.workers worker ≠ .idle := of_decide_eq_true owed.symm
      refine ⟨_, .next .start trivial (show use.step (.recordResult worker success now) = some _ from
        if_neg busy), ?_, fun other => ?_⟩
      · rw [breaker, ← tracks.breaker]
      · exact tracks.update worker .idle (free.trans rfl) other

/-- The executor refines the use of the breaker: in every run in which no worker is closed at the gate,
the state that is reached is tracked by a reachable state of the breaker's machine. -/
theorem tracked_of_noHits (executor : Executor World) (state : PipelineState)
    (reached : Runs.Reaches executor.step (NoHit executor) .initial state) :
    ∃ use, Runs.Reachable BreakerUse.step
        (initial defaultBreakerThreshold defaultBreakerCooldown) use ∧ use.Tracks state := by
  have kept : state.shared.dedup.Counted ∧ ∃ use, Runs.Reachable BreakerUse.step
      (initial defaultBreakerThreshold defaultBreakerCooldown) use ∧ use.Tracks state := by
    refine reached.invariant (fun state => state.shared.dedup.Counted ∧
      ∃ use, Runs.Reachable BreakerUse.step
        (initial defaultBreakerThreshold defaultBreakerCooldown) use ∧ use.Tracks state)
      ⟨PipelineState.initial_counted, _, .start, rfl, fun _ => rfl⟩ ?_
    rintro before label after ⟨counted, use, used, tracks⟩ noHit fired
    obtain ⟨later, called, tracksLater⟩ := tracks.step counted noHit fired
    exact ⟨executor.step_counted before label after counted fired, later, used.trans called,
      tracksLater⟩
  exact kept.2

instance (executor : Executor World) (state : PipelineState) (label : PipelineLabel World) :
    Decidable (NoHit executor state label) :=
  let atGate (clock : Option Int) : (phase : Phase) → Decidable (match phase with
      | .admitted _ outcome => executor.hitsWindow state.shared outcome.body clock = false
      | _ => True)
    | .admitted _ _ => instDecidableEqBool _ _
    | .idle | .received _ | .staged _ _ | .forwarding _ _ _ | .shadowing _ | .pushing _ _ _ | .closing _ _ _ =>
      instDecidableTrue
  match label with
  | .act worker (.checkDedup clock) => atGate clock (state.workers worker)
  | .act _ (.receive _) | .act _ (.runStages _) | .act _ (.allow _) | .act _ (.send _) | .act _ (.recordResult _)
  | .act _ .shadowSend | .act _ (.push _) | .act _ (.finalize _) | .arrive _ | .prune _ => instDecidableTrue

/-- Worker 1 is admitted before an outage, in which five sends of worker 0 fail; after the cool-down worker 0 is
admitted again. -/
def stragglerOutage : List (PipelineLabel Unit) :=
  [.arrive emptyObject, .act 1 (.receive { id := 0, body := emptyObject }), .act 1 (.runStages ()), .act 1 (.allow 0)] ++
    failingSend 1 0 ++ failingSend 2 (61 * second) ++ failingSend 3 (122 * second) ++
    failingSend 4 (183 * second) ++ failingSend 5 (244 * second) ++ [.arrive emptyObject] ++
    takeToGate 6 (280 * second)

/-- The outage with its straggler is tracked: the breaker is half open and both workers owe a result. -/
theorem stragglerOutage_tracked : ∃ (state : PipelineState) (use : BreakerUse),
    state.shared.breaker.state = .halfOpen ∧ Runs.Reachable BreakerUse.step
      (initial defaultBreakerThreshold defaultBreakerCooldown) use ∧ use.Tracks state ∧
      use.workers 0 ≠ .idle ∧ use.workers 1 ≠ .idle := by
  obtain ⟨state, reached, tested⟩ := Runs.exists_reaches_of_exec windowedExecutor.step (NoHit windowedExecutor) .initial
    stragglerOutage (fun state => decide (state.shared.breaker.state = .halfOpen ∧
      (state.workers 0).outstanding = true ∧ (state.workers 1).outstanding = true)) (by decide)
  obtain ⟨halfOpen, probe, straggler⟩ := of_decide_eq_true tested
  obtain ⟨use, called, tracks⟩ := tracked_of_noHits windowedExecutor state reached
  exact ⟨state, use, halfOpen, called, tracks, of_decide_eq_true ((tracks.owes 0).symm.trans probe),
    of_decide_eq_true ((tracks.owes 1).symm.trans straggler)⟩

end Executor

/-! ### Two probes after a foreign result -/

theorem failedSend {use : BreakerUse} (fresh : Nat) (closed : use.breaker.state = .closed)
    (idle : use.workers fresh = .idle) :
    Runs.Reachable step use
      { breaker := use.breaker.recordResult false 0, workers := use.workers } := by
  have allowed : use.breaker.allow 0 = (true, use.breaker) := by
    unfold Breaker.allow
    rw [closed]
  let sending : BreakerUse :=
    { breaker := use.breaker
      workers := Function.update use.workers fresh (admission use.breaker) }
  have admitted : use.step (.allow fresh 0) = some sending := by
    simp only [step, idle, allowed, if_true]
    rfl
  have busy : sending.workers fresh ≠ .idle := by
    rw [show sending.workers fresh = admission use.breaker from Function.update_self .., admission,
      closed]
    decide
  have reported : sending.step (.recordResult fresh false 0) =
      some { breaker := use.breaker.recordResult false 0, workers := use.workers } := by
    simp only [step, if_neg busy]
    rw [show Function.update sending.workers fresh .idle = use.workers by
      rw [show sending.workers = Function.update use.workers fresh (admission use.breaker) from rfl,
        Function.update_idem, ← idle, Function.update_eq_self]]
  exact .next (.next .start trivial admitted) trivial reported

theorem opens_of_closed (fresh : Nat) (remaining : Nat) : ∀ use : BreakerUse,
    use.breaker.state = .closed → use.workers fresh = .idle →
    use.breaker.threshold ≤ use.breaker.fails + remaining + 1 →
    ∃ after, Runs.Reachable step use after ∧ after.breaker.state = .open ∧
      after.workers = use.workers := by
  induction remaining with
  | zero =>
    intro use closed idle last
    refine ⟨_, failedSend fresh closed idle, ?_, rfl⟩
    have reached : use.breaker.threshold ≤ use.breaker.fails + 1 := by omega
    simp [Breaker.recordResult, closed, reached]
  | succ remaining hypothesis =>
    intro use closed idle more
    by_cases reached : use.breaker.threshold ≤ use.breaker.fails + 1
    · refine ⟨_, failedSend fresh closed idle, ?_, rfl⟩
      simp [Breaker.recordResult, closed, reached]
    · have counted : use.breaker.recordResult false 0 =
          { use.breaker with fails := use.breaker.fails + 1 } := by
        simp [Breaker.recordResult, closed, reached]
      obtain ⟨after, later, opened, same⟩ := hypothesis
        { breaker := use.breaker.recordResult false 0, workers := use.workers }
        (by rw [counted]; exact closed) idle (by rw [counted]; dsimp only; omega)
      exact ⟨after, (failedSend fresh closed idle).trans later, opened, same⟩

theorem second_probe {use : BreakerUse} (probe fresh : Nat) (opened : use.breaker.state = .open)
    (out : use.workers probe = .probing) (idle : use.workers fresh = .idle) :
    ∃ after, Runs.Reachable step use after ∧ ¬ after.SingleProbe := by
  let now := use.breaker.openedAt + use.breaker.cooldown
  have elapsed : ¬ now - use.breaker.openedAt < use.breaker.cooldown := by omega
  have allowed : (use.breaker.allow now).1 = true := by
    unfold Breaker.allow
    rw [opened]
    dsimp only
    rw [if_neg elapsed]
  have different : probe ≠ fresh := by
    rintro rfl
    rw [idle] at out
    cases out
  refine ⟨_, .next .start trivial (show use.step (.allow fresh now) = some _ by
    simp only [step, idle, allowed, if_true]; rfl), fun single => different ?_⟩
  refine single probe fresh ?_ ?_
  · dsimp only
    rw [Function.update_of_ne different]
    exact out
  · dsimp only
    rw [Function.update_self, admission, if_pos opened]

/-- A result of an older worker lets in a second probe. -/
theorem two_probes_of_foreign_result {use after : BreakerUse} {call : BreakerCall}
    (kept : use.ProbeKept) (foreign : ¬ use.OwnResult call) (fired : use.step call = some after) :
    ∃ later, Runs.Reachable step after later ∧ ¬ later.SingleProbe := by
  cases call with
  | allow worker now => exact absurd trivial foreign
  | recordResult worker success now =>
    obtain ⟨halfOpen, notProbe⟩ := Classical.not_imp.mp foreign
    obtain ⟨probe, out⟩ := kept.probing.mp halfOpen
    have different : probe ≠ worker := fun same => notProbe (same ▸ out)
    simp only [step] at fired
    split at fired
    · cases fired
    · cases fired
      have stillOut : Function.update use.workers worker .idle probe = .probing := by
        rw [Function.update_of_ne different]
        exact out
      obtain ⟨fresh, idle⟩ := busy_update worker .idle kept.busy
      have unused := idle fresh le_rfl
      cases reported : (use.breaker.recordResult success now).state with
      | «open» => exact second_probe probe fresh reported stillOut unused
      | halfOpen => exact absurd reported (use.breaker.recordResult_state_ne success now)
      | closed =>
        let breaker := use.breaker.recordResult success now
        obtain ⟨opened, reached, isOpen, same⟩ := opens_of_closed fresh
          (breaker.threshold - breaker.fails).toNat
          { breaker := breaker, workers := Function.update use.workers worker .idle }
          reported unused (by dsimp only; omega)
        obtain ⟨later, continued, two⟩ := second_probe probe fresh isOpen
          (by rw [same]; exact stillOut) (by rw [same]; exact unused)
        exact ⟨later, reached.trans continued, two⟩

/-- In every run in which a half-open breaker hears from its probe only, at most one probe is
out; and once a step breaks this condition, calls follow that have two probes out. -/
theorem singleProbe_of_ownResults (threshold cooldown : Int) (use : BreakerUse)
    (reached : Runs.Reaches step OwnResult (initial threshold cooldown) use) :
    use.SingleProbe ∧ ∀ call after, use.step call = some after → ¬ use.OwnResult call →
      ∃ later, Runs.Reachable step after later ∧ ¬ later.SingleProbe := by
  have kept : use.ProbeKept :=
    reached.invariant ProbeKept (initial_probeKept threshold cooldown)
      fun _ _ _ kept own fired => step_probeKept kept own fired
  exact ⟨kept.single, fun _ _ fired foreign => two_probes_of_foreign_result kept foreign fired⟩

/-- Five sends of one worker fail at second 0, with another worker's send still under way. -/
def outage : List BreakerCall :=
  .allow 1 0 :: (List.replicate 5 [.allow 0 0, .recordResult 0 false 0]).flatten

/-- After an outage worker 2 is the only probe. -/
theorem outage_single_probe :
    ∃ use : BreakerUse, use.workers 2 = .probing ∧ use.SingleProbe := by
  obtain ⟨use, reached, tested⟩ := Runs.exists_reaches_of_exec step OwnResult
    (initial defaultBreakerThreshold defaultBreakerCooldown)
    (outage ++ [.allow 2 (31 * second)])
    (fun use => decide (use.workers 2 = .probing)) (by decide)
  exact ⟨use, of_decide_eq_true tested, (singleProbe_of_ownResults _ _ use reached).1⟩

/-- The send that was under way before the outage fails while the probe is out, and after
another cool-down a second probe is admitted. -/
theorem straggler_admits_second_probe :
    ∃ use, Runs.Reachable step (initial defaultBreakerThreshold defaultBreakerCooldown) use ∧
      ¬ use.SingleProbe := by
  obtain ⟨use, reached, tested⟩ := Runs.exists_reaches_of_exec step (fun _ _ => True)
    (initial defaultBreakerThreshold defaultBreakerCooldown)
    (outage ++ [.allow 2 (31 * second), .recordResult 1 false (32 * second),
      .allow 3 (63 * second)])
    (fun use => decide (use.workers 2 = .probing ∧ use.workers 3 = .probing)) (by decide)
  obtain ⟨first, secondProbe⟩ := of_decide_eq_true tested
  exact ⟨use, reached, fun single => absurd (single 2 3 first secondProbe) (by decide)⟩

end BreakerUse

end MqConnector
