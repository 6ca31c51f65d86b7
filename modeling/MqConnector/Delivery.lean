/-
This file asks what is known of a message when `processOne` commits it to the
source broker.

A commit is kept when the dead-letter queue has stored the message, or every
target its route decision names was sent the post-stage payload, in this
attempt or in an earlier one of the same dedup window. Every exit path but one
establishes this by itself. The exception is the dedup hit: `CheckAndRecord`
records the payload before it is sent, so a live row says that an earlier
attempt began, not that it delivered.

The invariant holds in every run whose dedup hits are all on rows of a
delivered payload.
-/

import MqConnector.Executor
import MqConnector.Locks

namespace MqConnector

variable {World : Type}

/-! ### What a commit must rest on -/

/-- The target was sent the payload of the attempt, in an attempt numbered from `since` up to
this one. -/
def SentTo (executor : Executor World) (sent : List SendRecord) (attempt : Attempt)
    (target : Target) : Prop :=
  ∃ record ∈ sent, record.target = target ∧ executor.resolve target = some record.config ∧
    record.body = attempt.outcome.body ∧
    attempt.since ≤ record.attempt ∧ record.attempt ≤ attempt.number

/-- The outcome is one the stage chain gives for the message. -/
def RanTo (executor : Executor World) (message : Message) (outcome : StageOutcome) : Prop :=
  ∃ world, runStages world executor.stages message.body = .ok outcome

/-- The attempt's payload reached every target its route decision names. -/
def DeliveredBy (executor : Executor World) (sent : List SendRecord) (attempt : Attempt) : Prop :=
  ∀ target ∈ targets attempt.outcome.route, SentTo executor sent attempt target

/-- A commit that loses nothing: the message is in the dead-letter queue, or its post-stage
payload is at every destination the route decision names. -/
def CommitKept (executor : Executor World) (shared : Shared)
    (commit : Message × Option Attempt) : Prop :=
  (∃ entry, (commit.1, entry) ∈ shared.pushed ∧ entry.originalMsg = commit.1.body) ∨
    ∃ attempt, commit.2 = some attempt ∧ RanTo executor commit.1 attempt.outcome ∧
      DeliveredBy executor shared.sent attempt

/-- No message is lost: every commit so far is kept. -/
def NoMessageLost (executor : Executor World) (state : PipelineState) : Prop :=
  ∀ commit ∈ state.shared.commits, CommitKept executor state.shared commit

/-- The attempt that opened the dedup window of the payload has finished its sends without an
error, with this very payload and with every target named now among its own. -/
def WindowDelivered (executor : Executor World) (shared : Shared) (outcome : StageOutcome) : Prop :=
  ∃ result ∈ shared.results,
    result.attempt.number = shared.opened (executor.payloadHash outcome.body) ∧
    result.success = true ∧ result.attempt.outcome.body = outcome.body ∧
    ∀ target ∈ targets outcome.route, target ∈ targets result.attempt.outcome.route

/-- The condition on a step: a dedup check that hits the window hits that of a delivered
payload. Every other step is free. -/
def HitsDelivered (executor : Executor World) (state : PipelineState) :
    PipelineLabel World → Prop
  | .act worker (.checkDedup clock) =>
    match state.workers worker with
    | .admitted _ outcome =>
      executor.hitsWindow state.shared outcome.body clock = true →
        WindowDelivered executor state.shared outcome
    | _ => True
  | _ => True

instance (executor : Executor World) (shared : Shared) (outcome : StageOutcome) :
    Decidable (WindowDelivered executor shared outcome) := by
  unfold WindowDelivered
  infer_instance

instance (executor : Executor World) (state : PipelineState) (label : PipelineLabel World) :
    Decidable (HitsDelivered executor state label) := by
  unfold HitsDelivered
  split
  · split <;> infer_instance
  · infer_instance

/-! ### The invariant of a phase -/

/-- What is known of a worker in each phase. -/
def PhaseKept (executor : Executor World) (shared : Shared) : Phase → Prop
  | .idle | .received _ => True
  | .staged message outcome | .admitted message outcome => RanTo executor message outcome
  | .forwarding attempt todo sendErr =>
    RanTo executor attempt.message attempt.outcome ∧ attempt.since = attempt.number ∧
      attempt.number < shared.attempts ∧ (∀ target ∈ todo, target ∈ targets attempt.outcome.route) ∧
      (sendErr = none → ∀ target ∈ targets attempt.outcome.route,
        target ∈ todo ∨ SentTo executor shared.sent attempt target)
  | .shadowing attempt =>
    RanTo executor attempt.message attempt.outcome ∧ DeliveredBy executor shared.sent attempt
  | .pushing message _ entry => entry.originalMsg = message.body
  | .closing message attempt handled =>
    handled = true → CommitKept executor shared (message, attempt)

/-- What is known of the shared record. A result recorded as a success has reached its
targets under its own number. -/
structure RecordKept (executor : Executor World) (shared : Shared) : Prop where
  commits : ∀ commit ∈ shared.commits, CommitKept executor shared commit
  results : ∀ result ∈ shared.results, result.attempt.number < shared.attempts ∧
    result.attempt.since = result.attempt.number ∧
    (result.success = true → DeliveredBy executor shared.sent result.attempt)

/-- The record only grows from one state of the shared part to a later one. -/
structure Shared.Extends (before after : Shared) : Prop where
  sent : ∀ record ∈ before.sent, record ∈ after.sent
  pushed : ∀ push ∈ before.pushed, push ∈ after.pushed
  attempts : before.attempts ≤ after.attempts

theorem Shared.Extends.refl (shared : Shared) : Shared.Extends shared shared :=
  ⟨fun _ member => member, fun _ member => member, le_refl _⟩

theorem SentTo.extend {executor : Executor World} {before after : List SendRecord}
    {attempt : Attempt} {target : Target} (sentTo : SentTo executor before attempt target)
    (grown : ∀ record ∈ before, record ∈ after) : SentTo executor after attempt target := by
  obtain ⟨record, member, facts⟩ := sentTo
  exact ⟨record, grown record member, facts⟩

theorem CommitKept.extend {executor : Executor World} {before after : Shared}
    {commit : Message × Option Attempt} (kept : CommitKept executor before commit)
    (grown : Shared.Extends before after) : CommitKept executor after commit := by
  rcases kept with ⟨entry, member, original⟩ | ⟨attempt, named, ran, delivered⟩
  · exact Or.inl ⟨entry, grown.pushed _ member, original⟩
  · exact Or.inr ⟨attempt, named, ran, fun target inRoute =>
      (delivered target inRoute).extend grown.sent⟩

theorem PhaseKept.extend {executor : Executor World} {before after : Shared} {phase : Phase}
    (kept : PhaseKept executor before phase) (grown : Shared.Extends before after) :
    PhaseKept executor after phase := by
  cases phase with
  | idle => trivial
  | received => trivial
  | staged => exact kept
  | admitted => exact kept
  | forwarding attempt todo sendErr =>
    obtain ⟨ran, own, numbered, within, progress⟩ := kept
    refine ⟨ran, own, lt_of_lt_of_le numbered grown.attempts, within, ?_⟩
    intro clean target inRoute
    rcases progress clean target inRoute with waiting | sentTo
    · exact Or.inl waiting
    · exact Or.inr (sentTo.extend grown.sent)
  | shadowing attempt =>
    exact ⟨kept.1, fun target inRoute => (kept.2 target inRoute).extend grown.sent⟩
  | pushing => exact kept
  | closing message attempt handled => exact fun isHandled => (kept isHandled).extend grown

theorem RecordKept.extend {executor : Executor World} {before after : Shared}
    (kept : RecordKept executor before) (grown : Shared.Extends before after)
    (commits : after.commits = before.commits) (results : after.results = before.results) :
    RecordKept executor after where
  commits commit member := (kept.commits commit (commits ▸ member)).extend grown
  results result member := by
    obtain ⟨numbered, own, delivered⟩ := kept.results result (results ▸ member)
    exact ⟨lt_of_lt_of_le numbered grown.attempts, own, fun success target inRoute =>
      (delivered success target inRoute).extend grown.sent⟩

/-! ### One lemma per step of `processOne` -/

/-- What a step of a worker has to establish. -/
structure StepKept (executor : Executor World) (before : Shared) (moved : Phase × Shared) :
    Prop where
  grown : Shared.Extends before moved.2
  record : RecordKept executor moved.2
  phase : PhaseKept executor moved.2 moved.1

/-- The stages lead to destinations that are known. -/
theorem resolve_of_ranTo (executor : Executor World) {message : Message} {outcome : StageOutcome}
    (ran : RanTo executor message outcome) (target : Target)
    (named : target ∈ targets outcome.route) : (executor.resolve target).isSome := by
  obtain ⟨world, finished⟩ := ran
  have within := runStages_route world _ executor.stages executor.routesResolved _ _ finished
  cases decision : outcome.route with
  | none =>
    rw [decision] at named
    rw [List.mem_singleton.mp named]
    rfl
  | some result =>
    rw [decision] at named within
    obtain ⟨destination, member, rfl⟩ := List.mem_map.mp named
    exact within destination member

theorem beginForward_kept {executor : Executor World} {shared : Shared}
    (record : RecordKept executor shared) (message : Message) {outcome : StageOutcome}
    (ran : RanTo executor message outcome) :
    StepKept executor shared (Executor.beginForward shared message outcome) := by
  have grown : Shared.Extends shared (Executor.beginForward shared message outcome).2 :=
    ⟨fun _ member => member, fun _ member => member, Nat.le_succ _⟩
  refine ⟨grown, record.extend grown rfl rfl, ran, rfl, Nat.lt_succ_self _, ?_, ?_⟩
  · exact fun target member => member
  · exact fun _ target member => Or.inl member

theorem commitKept_of_windowDelivered {executor : Executor World} {shared : Shared}
    (record : RecordKept executor shared) (message : Message) {outcome : StageOutcome}
    (ran : RanTo executor message outcome)
    (window : WindowDelivered executor shared outcome) :
    CommitKept executor shared (message,
      some { number := shared.attempts, since := shared.opened (executor.payloadHash outcome.body),
             message, outcome }) := by
  obtain ⟨result, member, opener, success, sameBody, covered⟩ := window
  obtain ⟨numbered, own, delivered⟩ := record.results result member
  refine Or.inr ⟨_, rfl, ran, fun target inRoute => ?_⟩
  obtain ⟨sent, sentMember, sameTarget, resolved, body, fromSince, upTo⟩ :=
    delivered success target (covered target inRoute)
  refine ⟨sent, sentMember, sameTarget, resolved, body.trans sameBody, ?_, ?_⟩
  · exact opener ▸ own ▸ fromSince
  · exact le_of_lt (lt_of_le_of_lt upTo numbered)

theorem forwards_kept {executor : Executor World} {shared : Shared}
    (record : RecordKept executor shared) {message : Message} {outcome : StageOutcome}
    (ran : RanTo executor message outcome) (table : DedupTable) (opened : String → Nat) :
    StepKept executor shared
      (Executor.beginForward { shared with dedup := table, opened } message outcome) := by
  have recorded : RecordKept executor { shared with dedup := table, opened } :=
    record.extend ⟨fun _ member => member, fun _ member => member, le_refl _⟩ rfl rfl
  have begun := beginForward_kept recorded message ran
  exact ⟨⟨begun.grown.1, begun.grown.2, begun.grown.3⟩, begun.record, begun.phase⟩

theorem duplicate_kept {executor : Executor World} {shared : Shared}
    (record : RecordKept executor shared) {message : Message} {outcome : StageOutcome}
    (ran : RanTo executor message outcome) (window : WindowDelivered executor shared outcome)
    (table : DedupTable) :
    StepKept executor shared
      (.closing message (some { number := shared.attempts
                                since := shared.opened (executor.payloadHash outcome.body)
                                message, outcome }) true,
        { shared with dedup := table, attempts := shared.attempts + 1 }) := by
  have kept := commitKept_of_windowDelivered record message ran window
  have grown : Shared.Extends shared { shared with
      dedup := table, attempts := shared.attempts + 1 } :=
    ⟨fun _ member => member, fun _ member => member, Nat.le_succ _⟩
  exact ⟨grown, record.extend grown rfl rfl, fun _ => kept.extend grown⟩

theorem sendFails_kept {executor : Executor World} {shared : Shared}
    (record : RecordKept executor shared) {attempt : Attempt} {target : Target}
    {rest : List Target} {sendErr : Option String} (reason : String)
    (phase : PhaseKept executor shared (.forwarding attempt (target :: rest) sendErr)) :
    StepKept executor shared (.forwarding attempt rest (some reason), shared) := by
  obtain ⟨ran, own, numbered, within, -⟩ := phase
  refine ⟨Shared.Extends.refl shared, record, ran, own, numbered,
    fun other member => within other (List.mem_cons_of_mem _ member), ?_⟩
  intro clean
  cases clean

theorem sends_kept {executor : Executor World} {shared : Shared}
    (record : RecordKept executor shared) {attempt : Attempt} {target : Target}
    {rest : List Target} {sendErr : Option String} {config : Config}
    (resolved : executor.resolve target = some config)
    (phase : PhaseKept executor shared (.forwarding attempt (target :: rest) sendErr)) :
    StepKept executor shared (.forwarding attempt rest sendErr,
      { shared with sent := { attempt := attempt.number, target, config,
                              body := attempt.outcome.body } :: shared.sent }) := by
  obtain ⟨ran, own, numbered, within, progress⟩ := phase
  have grown : Shared.Extends shared { shared with
      sent := { attempt := attempt.number, target, config, body := attempt.outcome.body } ::
        shared.sent } :=
    ⟨fun _ member => List.mem_cons_of_mem _ member, fun _ member => member, le_refl _⟩
  refine ⟨grown, record.extend grown rfl rfl, ran, own, numbered,
    fun other member => within other (List.mem_cons_of_mem _ member), ?_⟩
  intro clean other inRoute
  rcases progress clean other inRoute with waiting | sentTo
  · rcases List.mem_cons.mp waiting with rfl | later
    · exact Or.inr ⟨_, List.mem_cons_self, rfl, resolved, rfl, own.le, le_refl _⟩
    · exact Or.inl later
  · exact Or.inr (sentTo.extend grown.sent)

theorem recordResult_kept {executor : Executor World} {shared : Shared}
    (record : RecordKept executor shared) {attempt : Attempt} {sendErr : Option String}
    (breaker : Breaker)
    (phase : PhaseKept executor shared (.forwarding attempt [] sendErr)) :
    RecordKept executor { shared with
        breaker
        results := { attempt, success := sendErr.isNone } :: shared.results } ∧
      (sendErr = none → DeliveredBy executor shared.sent attempt) := by
  obtain ⟨ran, own, numbered, -, progress⟩ := phase
  have delivered : sendErr = none → DeliveredBy executor shared.sent attempt := by
    intro clean target inRoute
    rcases progress clean target inRoute with waiting | sentTo
    · cases waiting
    · exact sentTo
  refine ⟨⟨record.commits, fun result member => ?_⟩, delivered⟩
  rcases List.mem_cons.mp member with rfl | earlier
  · exact ⟨numbered, own, fun success => delivered (Option.isNone_iff_eq_none.mp success)⟩
  · exact record.results result earlier

theorem commits_kept {executor : Executor World} {shared : Shared}
    (record : RecordKept executor shared) {message : Message} {attempt : Option Attempt}
    (queue : List Message) (phase : PhaseKept executor shared (.closing message attempt true)) :
    StepKept executor shared
      (.idle, { shared with commits := (message, attempt) :: shared.commits, queue }) := by
  refine ⟨⟨fun _ m => m, fun _ m => m, le_refl _⟩, ⟨?_, record.results⟩, trivial⟩
  intro commit member
  rcases List.mem_cons.mp member with rfl | earlier
  · exact phase rfl
  · exact record.commits commit earlier

theorem advance_kept {executor : Executor World} {shared : Shared}
    (counted : shared.dedup.Counted) (record : RecordKept executor shared) {phase : Phase} {action : Action World}
    (known : PhaseKept executor shared phase)
    (hits : ∀ message outcome clock, phase = .admitted message outcome →
      action = .checkDedup clock → executor.hitsWindow shared outcome.body clock = true →
      WindowDelivered executor shared outcome)
    {moved : Phase × Shared} (fired : executor.advance shared phase action = some moved) :
    StepKept executor shared moved := by
  cases Executor.move_of_advance counted fired with
  | receive | nacks =>
    exact ⟨⟨fun _ m => m, fun _ m => m, le_refl _⟩, ⟨record.commits, record.results⟩, trivial⟩
  | stageFails => exact ⟨Shared.Extends.refl shared, record, rfl⟩
  | staged finished => exact ⟨Shared.Extends.refl shared, record, ⟨_, finished⟩⟩
  | admitted =>
    exact ⟨⟨fun _ m => m, fun _ m => m, le_refl _⟩, ⟨record.commits, record.results⟩, known⟩
  | refused =>
    exact ⟨⟨fun _ m => m, fun _ m => m, le_refl _⟩, ⟨record.commits, record.results⟩,
      fun handled => nomatch handled⟩
  | duplicate hit => exact duplicate_kept record known (hits _ _ _ rfl rfl hit) _
  | forwards => exact forwards_kept record known _ _
  | skips unresolved =>
    -- every target of a stage chain has a configuration
    have found := resolve_of_ranTo executor known.1 _ (known.2.2.2.1 _ List.mem_cons_self)
    rw [unresolved] at found
    cases found
  | sendFails => exact sendFails_kept record _ known
  | sends resolved => exact sends_kept record resolved known
  | failed =>
    exact ⟨⟨fun _ m => m, fun _ m => m, le_refl _⟩, (recordResult_kept record _ known).1, rfl⟩
  | delivered went =>
    obtain ⟨recorded, delivered⟩ := recordResult_kept record _ known
    refine ⟨⟨fun _ m => m, fun _ m => m, le_refl _⟩, recorded, ?_⟩
    rcases went with rfl | rfl
    · exact ⟨known.1, delivered rfl⟩
    · exact fun _ => Or.inr ⟨_, rfl, known.1, delivered rfl⟩
  | shadow =>
    exact ⟨Shared.Extends.refl shared, record, fun _ => Or.inr ⟨_, rfl, known.1, known.2⟩⟩
  | @pushes message _ entry =>
    have grown : Shared.Extends shared
        { shared with pushed := (message, entry) :: shared.pushed } :=
      ⟨fun _ m => m, fun _ m => List.mem_cons_of_mem _ m, le_refl _⟩
    exact ⟨grown, record.extend grown rfl rfl, fun _ => Or.inl ⟨entry, List.mem_cons_self, known⟩⟩
  | pushFails => exact ⟨Shared.Extends.refl shared, record, fun handled => nomatch handled⟩
  | commits => exact commits_kept record _ known

/-! ### Whole runs -/

/-- The invariant of the pipeline. -/
structure PipelineKept (executor : Executor World) (state : PipelineState) : Prop where
  counted : state.shared.dedup.Counted
  record : RecordKept executor state.shared
  phases : ∀ worker, PhaseKept executor state.shared (state.workers worker)

theorem initial_kept (executor : Executor World) : PipelineKept executor .initial where
  counted := PipelineState.initial_counted
  record := by
    refine ⟨?_, ?_⟩
    · intro commit member
      cases member
    · intro result member
      cases member
  phases _ := trivial

/-- Every step keeps the account of the messages. -/
theorem step_kept (executor : Executor World) (state : PipelineState) (label : PipelineLabel World)
    (after : PipelineState) (kept : PipelineKept executor state)
    (permitted : HitsDelivered executor state label)
    (fired : executor.step state label = some after) : PipelineKept executor after := by
  have counted := executor.step_counted state label after kept.counted fired
  cases label with
  | arrive body =>
    cases fired
    exact ⟨counted, ⟨kept.record.commits, kept.record.results⟩, fun worker =>
      (kept.phases worker).extend ⟨fun _ m => m, fun _ m => m, le_refl _⟩⟩
  | prune cutoff =>
    cases fired
    exact ⟨counted, ⟨kept.record.commits, kept.record.results⟩, fun worker =>
      (kept.phases worker).extend ⟨fun _ m => m, fun _ m => m, le_refl _⟩⟩
  | act worker action =>
    obtain ⟨moved, advanced, rfl⟩ := Option.map_eq_some_iff.mp fired
    have stepped : StepKept executor state.shared moved := by
      refine advance_kept kept.counted kept.record (kept.phases worker) ?_ advanced
      rintro message outcome clock atGate rfl hit
      rw [HitsDelivered, atGate] at permitted
      exact permitted hit
    refine ⟨counted, stepped.record, fun other => ?_⟩
    dsimp only
    by_cases same : other = worker
    · subst same
      rw [Function.update_self]
      exact stepped.phase
    · rw [Function.update_of_ne same]
      exact (kept.phases other).extend stepped.grown

/-- In every run whose dedup hits are on rows of delivered payloads, no commit loses a
message: any number of workers, any stages, any outcome of every call. -/
theorem noMessageLost_of_hitsDelivered (executor : Executor World) (state : PipelineState)
    (reached : Runs.Reaches executor.step (HitsDelivered executor) .initial state) :
    NoMessageLost executor state :=
  (reached.invariant (PipelineKept executor) (initial_kept executor)
    (step_kept executor)).record.commits

/-! ### A history that loses a message -/

/-- The send and the dead-letter push fail, the message is put back, and the redelivery is
taken for a duplicate. -/
def failNackRedeliver : List (PipelineLabel Unit) :=
  [.arrive emptyObject] ++ takeToGate 0 0 ++
    [.act 0 (.checkDedup (some 0)), .act 0 (.send (some "broker down")), .act 0 (.recordResult 1),
      .act 0 (.push (some "database locked")), .act 0 (.finalize none)] ++
    takeToGate 0 second ++ [.act 0 (.checkDedup (some second)), .act 0 (.finalize none)]

/-- The attempt that history commits: the second one, in the window the first one opened. -/
def redelivered : Attempt where
  number := 1
  since := 0
  message := { id := 0, body := emptyObject }
  outcome := { body := emptyObject, format := .json, route := none, runs := [] }

/-- The redelivered message is committed although nothing was ever sent or stored. -/
theorem failNackRedeliver_loses_message :
    ∃ state, Runs.Reachable windowedExecutor.step .initial state ∧
      ¬ NoMessageLost windowedExecutor state := by
  obtain ⟨state, reached, tested⟩ := Runs.exists_reaches_of_exec windowedExecutor.step
    (fun _ _ => True) .initial failNackRedeliver
    (fun state => decide (state.shared.sent = [] ∧ state.shared.pushed = [] ∧
      state.shared.commits = [(redelivered.message, some redelivered)])) (by decide)
  obtain ⟨unsent, unstored, committed⟩ := of_decide_eq_true tested
  refine ⟨state, reached, fun noneLost => ?_⟩
  have kept := noneLost (redelivered.message, some redelivered)
    (by rw [committed]; exact List.mem_cons_self)
  rw [CommitKept, unsent, unstored] at kept
  rcases kept with ⟨entry, member, -⟩ | ⟨attempt, named, -, delivered⟩
  · cases member
  · cases named
    obtain ⟨record, member, -⟩ := delivered .default (List.mem_singleton_self _)
    cases member

/-- A duplicate of a delivered payload, arriving a second later. -/
def deliverThenDuplicate : List (PipelineLabel Unit) :=
  [.arrive emptyObject, .arrive emptyObject] ++ takeToGate 0 0 ++
    [.act 0 (.checkDedup (some 0)), .act 0 (.send none), .act 0 (.recordResult 1),
      .act 0 (.finalize none)] ++
    takeToGate 1 second ++ [.act 0 (.checkDedup (some second)), .act 0 (.finalize none)]

/-- Both messages of that history are committed and neither is lost. -/
theorem deliverThenDuplicate_keeps_messages :
    ∃ state, state.shared.commits.map (·.1.id) = [1, 0] ∧ NoMessageLost windowedExecutor state := by
  obtain ⟨state, reached, tested⟩ := Runs.exists_reaches_of_exec windowedExecutor.step
    (HitsDelivered windowedExecutor) .initial deliverThenDuplicate
    (fun state => decide (state.shared.commits.map (·.1.id) = [1, 0])) (by decide)
  exact ⟨state, of_decide_eq_true tested, noMessageLost_of_hitsDelivered windowedExecutor state reached⟩

/-! ### Where a message is -/

/-- The number of the message in a worker's hands. -/
def Phase.held : Phase → Option Nat
  | .idle => none
  | .received message | .staged message _ | .admitted message _ => some message.id
  | .forwarding attempt _ _ | .shadowing attempt => some attempt.message.id
  | .pushing message _ _ | .closing message _ _ => some message.id

/-- What has arrived waits in the queue, is in a worker's hands or was committed. -/
def PipelineState.Accounted (state : PipelineState) : Prop :=
  Locks.Accounted (fun worker => (state.workers worker).held) (state.shared.queue.map Message.id)
    (fun id => id ∈ state.shared.commits.map fun commit => commit.1.id)
    fun id => id < state.shared.arrivals

/-- No step of a worker loses or doubles a message. -/
theorem Executor.advance_accounted {executor : Executor World} {state : PipelineState} {worker : Nat}
    {action : Action World} {moved : Phase × Shared} (accounted : state.Accounted)
    (counted : state.shared.dedup.Counted)
    (fired : executor.advance state.shared (state.workers worker) action = some moved) :
    PipelineState.Accounted
      { shared := moved.2, workers := Function.update state.workers worker moved.1 } := by
  unfold PipelineState.Accounted at accounted ⊢
  have hands : (fun other => (Function.update state.workers worker moved.1 other).held) =
      Function.update (fun other => (state.workers other).held) worker moved.1.held :=
    Function.comp_update Phase.held state.workers worker moved.1
  rw [hands]
  generalize before : state.workers worker = phase at fired
  have held : (state.workers worker).held = phase.held := congrArg Phase.held before
  have same := Function.update_eq_self worker fun other => (state.workers other).held
  rw [held] at same
  cases Executor.move_of_advance counted fired with
  | receive queued => exact accounted.take held ((List.perm_cons_erase queued).map Message.id)
  | @commits message attempt err =>
    have recorded := accounted.record ((accounted.located message.id).mpr (.inr (.inl ⟨worker, held⟩)))
    simp only [← List.mem_cons] at recorded
    -- a Commit that the broker did not take is logged, and the message comes back
    cases err with
    | none => exact recorded.drop held List.mem_cons_self
    | some reason => exact recorded.putBack held
  | nacks => exact accounted.putBack held
  | delivered went =>
    obtain rfl | rfl := went
    all_goals rwa [← same] at accounted
  | _ => rwa [← same] at accounted

/-- No message is lost and none is handed out twice: in every state that any workers of a pipeline
reach, a message that has arrived waits, is with one worker or was committed. -/
theorem messages_accounted (executor : Executor World) (state : PipelineState)
    (reached : Runs.Reachable executor.step .initial state) : state.Accounted := by
  have kept : state.shared.dedup.Counted ∧ state.Accounted := by
    refine reached.invariant (fun state => state.shared.dedup.Counted ∧ state.Accounted)
      ⟨PipelineState.initial_counted, List.nodup_nil, Locks.exclusive_none _,
        by simp [PipelineState.initial, Phase.held]⟩ ?_
    · intro before label after ⟨counted, accounted⟩ _ fired
      refine ⟨executor.step_counted before label after counted fired, ?_⟩
      cases label with
      | arrive body =>
        cases fired
        simp only [PipelineState.Accounted, Nat.lt_succ_iff_lt_or_eq, List.map_append]
        exact accounted.add (lt_irrefl _)
      | prune =>
        cases fired
        exact accounted
      | act worker action =>
        obtain ⟨moved, advanced, rfl⟩ := Option.map_eq_some_iff.mp fired
        exact executor.advance_accounted accounted counted advanced
  exact kept.2

/-- A message that is Nacked and redelivered leaves nothing in the queue. -/
theorem failNackRedeliver_accounted :
    ∃ state : PipelineState, state.shared.queue = [] ∧ state.Accounted := by
  obtain ⟨state, reached, tested⟩ := Runs.exists_reaches_of_exec windowedExecutor.step
    (fun _ _ => True) .initial failNackRedeliver (fun state => state.shared.queue.isEmpty) (by decide)
  exact ⟨state, List.isEmpty_iff.mp tested, messages_accounted windowedExecutor state reached⟩

end MqConnector
