/-
This file asks whether the circuit breaker can get stuck half open.

The breaker leaves the half-open state only through `recordResult`, and while it
is half open `allow` admits nobody. So some admitted worker must still have its
`recordResult` to call. But between `allow` and the send stands the dedup gate,
which closes a duplicate without a result.
-/

import MqConnector.Executor

namespace MqConnector

variable {World : Type}

/-! ### Outstanding results -/

/-- The worker was admitted by `allow` and has not called `recordResult` yet. -/
def Phase.outstanding : Phase → Bool
  | .admitted _ _ | .forwarding _ _ _ => true
  | _ => false

/-- A half-open breaker waits for a worker that still owes its result. -/
def ProbeOutstanding (state : PipelineState) : Prop :=
  state.shared.breaker.state = .halfOpen →
    ∃ worker, (state.workers worker).outstanding = true

/-- The breaker is half open and nobody owes it a result. -/
def Stuck (state : PipelineState) : Prop :=
  state.shared.breaker.state = .halfOpen ∧
    ∀ worker, (state.workers worker).outstanding = false

/-- The condition on a step: while the breaker is half open, a worker whose payload hits the
dedup window is not the last one that owes a result. -/
def ProbeHeld (executor : Executor World) (state : PipelineState) : PipelineLabel World → Prop
  | .act worker (.checkDedup clock) =>
    match state.workers worker with
    | .admitted _ outcome =>
      state.shared.breaker.state = .halfOpen →
        executor.hitsWindow state.shared outcome.body clock = true →
        ∃ other, other ≠ worker ∧ (state.workers other).outstanding = true
    | _ => True
  | _ => True

/-! ### What a step does to the probe -/

/-- The effects a step of a worker can have on the breaker and on what the worker owes. -/
inductive ProbeEffect (executor : Executor World) (shared : Shared) (phase : Phase)
    (action : Action World) (moved : Phase × Shared) : Prop
  | admitted (wasOpen : shared.breaker.state ≠ .halfOpen) (owes : moved.1.outstanding = true)
  | carried (owed : phase.outstanding = true) (owes : moved.1.outstanding = true)
  | concluded (owed : phase.outstanding = true) (left : moved.2.breaker.state ≠ .halfOpen)
  | aside (free : phase.outstanding = false) (stays : moved.1.outstanding = false)
      (same : moved.2.breaker = shared.breaker)
  | duplicate (message : Message) (outcome : StageOutcome) (clock : Option Int)
      (atGate : phase = .admitted message outcome) (checks : action = .checkDedup clock)
      (hit : executor.hitsWindow shared outcome.body clock = true)
      (closed : moved.1.outstanding = false) (same : moved.2.breaker = shared.breaker)

theorem advance_probeEffect {executor : Executor World} {shared : Shared} {phase : Phase}
    {action : Action World} {moved : Phase × Shared} (counted : shared.dedup.Counted)
    (fired : executor.advance shared phase action = some moved) :
    ProbeEffect executor shared phase action moved := by
  cases Executor.move_of_advance counted fired with
  | @admitted _ _ now answer =>
    refine .admitted (fun halfOpen => ?_) rfl
    rw [shared.breaker.allow_of_halfOpen now halfOpen] at answer
    cases answer
  | refused answer => exact .aside rfl rfl (shared.breaker.allow_refused _ answer)
  | duplicate hit => exact .duplicate _ _ _ rfl rfl hit rfl rfl
  | forwards | skips | sendFails | sends => exact .carried rfl rfl
  | failed => exact .concluded rfl (shared.breaker.recordResult_state_ne _ _)
  | delivered => exact .concluded rfl (shared.breaker.recordResult_state_ne _ _)
  | receive | stageFails | staged | shadow | pushes | pushFails | commits | nacks =>
    exact .aside rfl rfl rfl

/-! ### The invariant and its exactness -/

/-- A step keeps the probe outstanding if its holder keeps it. -/
theorem step_probeOutstanding {executor : Executor World} {state after : PipelineState}
    {label : PipelineLabel World} (counted : state.shared.dedup.Counted)
    (sound : ProbeOutstanding state) (held : ProbeHeld executor state label)
    (fired : executor.step state label = some after) : ProbeOutstanding after := by
  cases label with
  | arrive body =>
    cases fired
    exact sound
  | prune cutoff =>
    cases fired
    exact sound
  | act worker action =>
    obtain ⟨moved, advanced, rfl⟩ := Option.map_eq_some_iff.mp fired
    intro halfOpen
    dsimp only at halfOpen ⊢
    -- another worker that owes a result still owes it after this step
    have other : ∀ witness, witness ≠ worker → (state.workers witness).outstanding = true →
        ∃ witness, (Function.update state.workers worker moved.1 witness).outstanding = true := by
      intro witness different owes
      refine ⟨witness, ?_⟩
      rw [Function.update_of_ne different]
      exact owes
    cases advance_probeEffect counted advanced with
    | admitted _ owes => exact ⟨worker, by rw [Function.update_self]; exact owes⟩
    | carried _ owes => exact ⟨worker, by rw [Function.update_self]; exact owes⟩
    | concluded _ left => exact absurd halfOpen left
    | aside free _ same =>
      rw [same] at halfOpen
      obtain ⟨witness, owes⟩ := sound halfOpen
      refine other witness (fun equal => ?_) owes
      rw [equal, free] at owes
      cases owes
    | duplicate message outcome clock atGate checks hit _ same =>
      rw [same] at halfOpen
      subst checks
      rw [ProbeHeld, atGate] at held
      obtain ⟨witness, different, owes⟩ := held halfOpen hit
      exact other witness different owes

/-- A probe that is dropped leaves the breaker stuck. -/
theorem step_stuck_of_not_probeHeld {executor : Executor World} {state after : PipelineState}
    {label : PipelineLabel World} (counted : state.shared.dedup.Counted)
    (dropped : ¬ ProbeHeld executor state label)
    (fired : executor.step state label = some after) : Stuck after := by
  unfold ProbeHeld at dropped
  split at dropped
  · rename_i worker clock
    split at dropped
    · rename_i message outcome atGate
      obtain ⟨halfOpen, dropped⟩ := Classical.not_imp.mp dropped
      obtain ⟨hit, alone⟩ := Classical.not_imp.mp dropped
      obtain ⟨moved, advanced, rfl⟩ := Option.map_eq_some_iff.mp fired
      rw [atGate] at advanced
      cases advanced
      rcases executor.gate_cases state.shared message outcome clock counted with
        ⟨-, table, -, equal⟩ | ⟨missed, -⟩
      · rw [equal]
        refine ⟨halfOpen, fun other => ?_⟩
        dsimp only
        by_cases same : other = worker
        · rw [same, Function.update_self]
          rfl
        · rw [Function.update_of_ne same]
          by_contra owes
          exact alone ⟨other, same, by simpa using owes⟩
      · rw [hit] at missed
        cases missed
    · exact absurd trivial dropped
  · exact absurd trivial dropped

theorem not_probeOutstanding_of_stuck {state : PipelineState} (stuck : Stuck state) :
    ¬ ProbeOutstanding state := by
  intro sound
  obtain ⟨worker, owes⟩ := sound stuck.1
  rw [stuck.2 worker] at owes
  cases owes

/-- In every run that keeps to the condition the half-open breaker always has a result
outstanding, and a further step of any kind preserves this exactly when it meets the
condition too. -/
theorem probeOutstanding_of_probeHeld (executor : Executor World) (state : PipelineState)
    (reached : Runs.Reaches executor.step (ProbeHeld executor) .initial state) :
    ProbeOutstanding state ∧
      ∀ label after, executor.step state label = some after →
        (ProbeOutstanding after ↔ ProbeHeld executor state label) := by
  have kept : state.shared.dedup.Counted ∧ ProbeOutstanding state := by
    refine reached.invariant (fun state => state.shared.dedup.Counted ∧ ProbeOutstanding state)
      ⟨PipelineState.initial_counted, fun halfOpen => nomatch halfOpen⟩ ?_
    intro before label after ⟨counted, sound⟩ held fired
    exact ⟨executor.step_counted before label after counted fired,
      step_probeOutstanding counted sound held fired⟩
  refine ⟨kept.2, fun label after fired => ⟨fun sound => ?_, fun held => ?_⟩⟩
  · by_contra dropped
    exact not_probeOutstanding_of_stuck (step_stuck_of_not_probeHeld kept.1 dropped fired) sound
  · exact step_probeOutstanding kept.1 kept.2 held fired

/-! ### A breaker that stays half open -/

theorem stuck_forever {executor : Executor World} {state later : PipelineState}
    (counted : state.shared.dedup.Counted) (stuck : Stuck state)
    (reached : Runs.Reachable executor.step state later) :
    Stuck later ∧ ∀ now, (later.shared.breaker.allow now).1 = false := by
  have kept : later.shared.dedup.Counted ∧ Stuck later := by
    refine reached.invariant (fun state => state.shared.dedup.Counted ∧ Stuck state)
      ⟨counted, stuck⟩ ?_
    intro before label after ⟨counted, halfOpen, free⟩ _ fired
    refine ⟨executor.step_counted before label after counted fired, ?_⟩
    cases label with
    | arrive body =>
      cases fired
      exact ⟨halfOpen, free⟩
    | prune cutoff =>
      cases fired
      exact ⟨halfOpen, free⟩
    | act worker action =>
      obtain ⟨moved, advanced, rfl⟩ := Option.map_eq_some_iff.mp fired
      have owesNothing := free worker
      cases advance_probeEffect counted advanced with
      | admitted wasOpen _ => exact absurd halfOpen wasOpen
      | carried owed _ =>
        rw [owed] at owesNothing
        cases owesNothing
      | concluded owed _ =>
        rw [owed] at owesNothing
        cases owesNothing
      | aside _ stays same =>
        refine ⟨same ▸ halfOpen, fun other => ?_⟩
        dsimp only
        by_cases moving : other = worker
        · rw [moving, Function.update_self]
          exact stays
        · rw [Function.update_of_ne moving]
          exact free other
      | duplicate message outcome clock atGate _ _ _ _ =>
        rw [atGate] at owesNothing
        cases owesNothing
  refine ⟨kept.2, fun now => ?_⟩
  rw [Breaker.allow_of_halfOpen _ now kept.2.1]

/-- The label lets no worker but the first act. -/
def SingleWorker : PipelineLabel World → Prop
  | .act worker _ => worker = 0
  | _ => True

instance : ∀ label : PipelineLabel World, Decidable (SingleWorker label)
  | .act worker _ => Nat.decEq worker 0
  | .arrive _ | .prune _ => .isTrue trivial

theorem others_idle (executor : Executor World) (state : PipelineState)
    (reached : Runs.Reaches executor.step (fun _ label => SingleWorker label) .initial state)
    (worker : Nat) (other : worker ≠ 0) : state.workers worker = .idle := by
  refine reached.invariant (fun state => state.workers worker = .idle) rfl ?_
  intro before label after idle single fired
  cases label with
  | arrive body =>
    cases fired
    exact idle
  | prune cutoff =>
    cases fired
    exact idle
  | act acting action =>
    obtain ⟨moved, -, rfl⟩ := Option.map_eq_some_iff.mp fired
    cases (single : acting = 0)
    dsimp only
    rw [Function.update_of_ne other]
    exact idle

/-- A message whose send fails and which the dead-letter queue takes. -/
def failingSend (id : Nat) (now : Int) : List (PipelineLabel Unit) :=
  [.arrive emptyObject] ++ takeToGate id now ++
    [.act 0 (.checkDedup (some now)), .act 0 (.send (some "broker down")),
      .act 0 (.recordResult now), .act 0 (.push none), .act 0 (.finalize none)]

/-- Five sends fail, each just outside the window of the one before, and open the breaker; the
next message arrives after the cool-down and becomes the probe. -/
def outageThenProbe : List (PipelineLabel Unit) :=
  failingSend 0 0 ++ failingSend 1 (61 * second) ++ failingSend 2 (122 * second) ++
    failingSend 3 (183 * second) ++ failingSend 4 (244 * second) ++
    [.arrive emptyObject] ++ takeToGate 5 (280 * second)

/-- The probe is a duplicate of the last failed message, so it is closed without a result and
the breaker stays half open for ever. -/
theorem duplicate_probe_stays_halfOpen :
    ∃ state, Runs.Reachable windowedExecutor.step .initial state ∧ ¬ ProbeOutstanding state ∧
      ∀ later, Runs.Reachable windowedExecutor.step state later →
        Stuck later ∧ ∀ now, (later.shared.breaker.allow now).1 = false := by
  obtain ⟨state, reached, tested⟩ := Runs.exists_reaches_of_exec windowedExecutor.step
    (fun _ label => SingleWorker label) .initial
    (outageThenProbe ++ [.act 0 (.checkDedup (some (280 * second)))])
    (fun state => decide (state.shared.breaker.state = .halfOpen ∧
      (state.workers 0).outstanding = false)) (by decide)
  obtain ⟨halfOpen, first⟩ := of_decide_eq_true tested
  have stuck : Stuck state := by
    refine ⟨halfOpen, fun worker => ?_⟩
    by_cases other : worker = 0
    · rw [other, first]
    · rw [others_idle windowedExecutor state reached worker other]
      rfl
  have counted : state.shared.dedup.Counted :=
    reached.invariant (fun state => state.shared.dedup.Counted) PipelineState.initial_counted
      fun before label after counted _ fired =>
        windowedExecutor.step_counted before label after counted fired
  exact ⟨state, reached.mono fun _ _ _ _ => trivial, not_probeOutstanding_of_stuck stuck,
    fun later => stuck_forever counted stuck⟩

/-- The probe of that outage is outstanding as long as it has not reached the dedup gate. -/
theorem outage_probe_outstanding :
    ∃ state, state.shared.breaker.state = .halfOpen ∧ ProbeOutstanding state := by
  obtain ⟨state, reached, tested⟩ := Runs.exists_reaches_of_exec windowedExecutor.step
    (fun state _ => state.shared.breaker.state ≠ .halfOpen) .initial outageThenProbe
    (fun state => decide (state.shared.breaker.state = .halfOpen)) (by decide)
  have held : Runs.Reaches windowedExecutor.step (ProbeHeld windowedExecutor) .initial state := by
    refine reached.mono fun before label _ closed => ?_
    unfold ProbeHeld
    split
    · split
      · exact fun halfOpen => absurd halfOpen closed
      · trivial
    · trivial
  exact ⟨state, of_decide_eq_true tested,
    (probeOutstanding_of_probeHeld windowedExecutor state held).1⟩

/-! ### Failures in a row -/

/-- The failures recorded since the last success. -/
def Shared.streak (shared : Shared) : Nat :=
  (shared.results.takeWhile fun result => !result.success).length

/-- A closed breaker counts them; one that is not closed has counted enough of them. -/
structure StreakKept (shared : Shared) : Prop where
  threshold : shared.breaker.threshold = 5
  closed : shared.breaker.state = .closed → shared.breaker.fails = shared.streak ∧ shared.streak < 5
  tripped : shared.breaker.state ≠ .closed → 5 ≤ shared.breaker.fails ∧ 5 ≤ shared.streak

theorem StreakKept.allow {shared : Shared} (kept : StreakKept shared) (now : Int) :
    StreakKept { shared with breaker := (shared.breaker.allow now).2 } := by
  obtain ⟨threshold, closed, tripped⟩ := kept
  unfold Breaker.allow
  constructor
  all_goals grind [Shared.streak]

theorem StreakKept.record {shared recorded : Shared} (kept : StreakKept shared) {attempt : Attempt}
    {success : Bool} (now : Int) (breaker : recorded.breaker = shared.breaker.recordResult success now)
    (results : recorded.results = { attempt, success } :: shared.results) : StreakKept recorded := by
  obtain ⟨threshold, closed, tripped⟩ := kept
  have streak : recorded.streak = if success then 0 else shared.streak + 1 := by
    rw [Shared.streak, results]
    cases success with
    | true => rfl
    | false => rfl
  unfold Breaker.recordResult at breaker
  constructor
  all_goals rw [breaker]
  all_goals grind

/-- Every step of a worker keeps the streak of failures. -/
theorem StreakKept.advance {executor : Executor World} {shared : Shared} {phase : Phase}
    {action : Action World} {moved : Phase × Shared} (kept : StreakKept shared)
    (counted : shared.dedup.Counted) (fired : executor.advance shared phase action = some moved) :
    StreakKept moved.2 := by
  cases Executor.move_of_advance counted fired with
  | admitted | refused => exact kept.allow _
  | @failed _ _ now => exact kept.record now rfl rfl
  | @delivered _ now => exact kept.record now rfl rfl
  | _ => exact ⟨kept.threshold, kept.closed, kept.tripped⟩

/-- In every state that any workers of a pipeline reach, the breaker is closed exactly if fewer
than five of the last results recorded are failures in a row. -/
theorem breaker_closed_iff_streak (executor : Executor World) (state : PipelineState)
    (reached : Runs.Reachable executor.step .initial state) :
    state.shared.breaker.state = .closed ↔ state.shared.streak < 5 := by
  have kept : state.shared.dedup.Counted ∧ StreakKept state.shared := by
    refine reached.invariant (fun state => state.shared.dedup.Counted ∧ StreakKept state.shared)
      ⟨PipelineState.initial_counted, rfl, by decide, by decide⟩ ?_
    intro before label after ⟨counted, kept⟩ _ fired
    refine ⟨executor.step_counted before label after counted fired, ?_⟩
    cases label with
    | act worker action =>
      obtain ⟨moved, advanced, rfl⟩ := Option.map_eq_some_iff.mp fired
      exact kept.advance counted advanced
    | _ =>
      cases fired
      exact ⟨kept.threshold, kept.closed, kept.tripped⟩
  exact ⟨fun closed => (kept.2.closed closed).2, fun few => by
    by_contra other
    exact absurd few (not_lt.mpr (kept.2.tripped other).2)⟩

/-- Five failures in a row have opened the breaker of the outage. -/
theorem outage_breaks_streak :
    ∃ state : PipelineState, state.shared.streak = 5 ∧ state.shared.breaker.state ≠ .closed := by
  obtain ⟨state, reached, tested⟩ := Runs.exists_reaches_of_exec windowedExecutor.step
    (fun _ _ => True) .initial outageThenProbe (fun state => state.shared.streak == 5) (by decide)
  have few := breaker_closed_iff_streak windowedExecutor state reached
  rw [eq_of_beq tested] at few
  exact ⟨state, eq_of_beq tested, few.not.mpr (lt_irrefl 5)⟩

end MqConnector
