/-
This file models `internal/pipeline/executor.go`: the receive, stages, gate,
send, commit loop that every worker of a pipeline runs.

`processOne` is cut where another worker can interleave: the receive, the stage
chain, the breaker's `allow`, the dedup check, each destination send, the
breaker's `recordResult`, the dead-letter push and the closing Commit or Nack
are one step each. A worker is the phase it is in; what the workers share is the
breaker, the dedup table and the source queue. What the environment answers is
part of the label. The two rate budgets only delay a worker before its receive
and are left out.

The attempt numbers and the logs of sends, results, pushes and commits are a
record of what happened. No step of the code reads them.
-/

import MqConnector.Breaker
import MqConnector.Dedup
import MqConnector.Runs
import MqConnector.Stages

namespace MqConnector

/-! ### The executor's configuration -/

/-- A destination the forward phase names: the pipeline's default one, or a routed one by
its connection id. -/
inductive Target
  | default
  | route (destination : String)
  deriving DecidableEq

def targets : Option Result → List Target
  | none => [.default]
  | some result => result.destinations.map .route

/-- `pipeline.Executor`. `dlq` and `dedup` say whether the sink and the dedup store are
installed. That every destination a stage can name is resolved is what `startPipeline`
establishes when it builds the executor. -/
structure Executor (World : Type) where
  pipeline : Pipeline
  stages : List (Stage World)
  source : Config
  sourceQueue : String := ""
  defaultDest : Config
  routeDests : String → Option Config := fun _ => none
  shadowDest : Option Config := none
  dlq : Bool := true
  dedup : Bool := true
  payloadHash : Bytes → String
  routesResolved : ∀ stage ∈ stages,
    stage.NamesOnly fun destination => (routeDests destination).isSome

namespace Executor

variable {World : Type}

/-- The configuration a target stands for; a route destination may be unknown. -/
def resolve (executor : Executor World) : Target → Option Config
  | .default => some executor.defaultDest
  | .route destination => executor.routeDests destination

/-- The entry a stage failure hands to the dead-letter queue. -/
def stageFailureEntry (executor : Executor World) (message : Bytes) (failure : StageFailure) :
    DLQEntry where
  tenantID := executor.pipeline.tenantID
  pipelineID := executor.pipeline.id
  sourceQueue := executor.sourceQueue
  originalMsg := message
  errorReason := failure.reason
  failingStageName := (failingStageFromRuns failure.runs).1
  failingStageIndex := (failingStageFromRuns failure.runs).2

/-- The entry a send failure hands to the dead-letter queue. -/
def sendFailureEntry (executor : Executor World) (message : Bytes) (reason : String) :
    DLQEntry where
  tenantID := executor.pipeline.tenantID
  pipelineID := executor.pipeline.id
  sourceQueue := executor.sourceQueue
  originalMsg := message
  errorReason := "send: " ++ reason

end Executor

/-- `shadowSampleHit`, with the wrapping 32-bit sum of the source. -/
def shadowSampleHit (payload : Bytes) (percent : Int) : Bool :=
  if 100 ≤ percent then true
  else if percent ≤ 0 then false
  else if payload = [] then false
  else
    let sum := (List.range 16).foldl
      (fun (sum : UInt32) index => sum * 131 + (payload.getD (index % payload.length) 0).toUInt32) 0
    decide (((sum % 100).toNat : Int) < percent)

/-! ### Workers and what they share -/

/-- A delivery of the source broker. Redeliveries of one message keep its identity. -/
structure Message where
  id : Nat
  body : Bytes
  deriving DecidableEq

/-- An attempt at a message that came through the breaker: its number in the order of the
dedup gate, and the attempt that opened the dedup window it fell into (itself unless the
gate called it a duplicate). -/
structure Attempt where
  number : Nat
  since : Nat
  message : Message
  outcome : StageOutcome
  deriving DecidableEq

/-- A successful `SendMessage`. -/
structure SendRecord where
  attempt : Nat
  target : Target
  config : Config
  body : Bytes
  deriving DecidableEq

/-- A call of `recordResult`. -/
structure ResultRecord where
  attempt : Attempt
  success : Bool
  deriving DecidableEq

/-- Where a worker is inside `processOne`. -/
inductive Phase
  | idle
  | received (message : Message)
  | staged (message : Message) (outcome : StageOutcome)
  | admitted (message : Message) (outcome : StageOutcome)
  | forwarding (attempt : Attempt) (todo : List Target) (sendErr : Option String)
  | shadowing (attempt : Attempt)
  | pushing (message : Message) (attempt : Option Attempt) (entry : DLQEntry)
  | closing (message : Message) (attempt : Option Attempt) (handled : Bool)
  deriving DecidableEq

/-- What the workers of a pipeline share, with the record of what they did. `opened` gives,
for a payload hash, the attempt whose check inserted its dedup row. -/
structure Shared where
  breaker : Breaker
  dedup : DedupTable
  queue : List Message
  arrivals : Nat
  attempts : Nat
  opened : String → Nat
  sent : List SendRecord
  results : List ResultRecord
  pushed : List (Message × DLQEntry)
  commits : List (Message × Option Attempt)

structure PipelineState where
  shared : Shared
  workers : Nat → Phase

/-- A move of one worker, with what its environment answers. `checkDedup` carries the clock
reading of the check, or nothing when the dedup store failed. -/
inductive Action (World : Type)
  | receive (message : Message)
  | runStages (world : World)
  | allow (now : Int)
  | checkDedup (now : Option Int)
  | send (err : Option String)
  | recordResult (now : Int)
  | shadowSend
  | push (err : Option String)
  | finalize (err : Option String)

/-- A move of the pipeline: a message arrives, the dedup sweeper prunes, or a worker acts. -/
inductive PipelineLabel (World : Type)
  | arrive (body : Bytes)
  | prune (cutoff : Int)
  | act (worker : Nat) (action : Action World)

/-- A pipeline that has just been started, with nothing in its dedup table. -/
def PipelineState.initial : PipelineState where
  shared := { breaker := newBreaker defaultBreakerThreshold defaultBreakerCooldown
              dedup := fun _ => none
              queue := []
              arrivals := 0
              attempts := 0
              opened := fun _ => 0
              sent := []
              results := []
              pushed := []
              commits := [] }
  workers := fun _ => .idle

/-! ### The steps of `processOne` -/

namespace Executor

variable {World : Type}

/-- Begin to forward the message as the next attempt. -/
def beginForward (shared : Shared) (message : Message) (outcome : StageOutcome) : Phase × Shared :=
  (.forwarding { number := shared.attempts, since := shared.attempts, message, outcome }
      (targets outcome.route) none,
    { shared with attempts := shared.attempts + 1 })

/-- The destination-side dedup gate. A failed check is logged and the message is forwarded
anyway; a duplicate is closed as handled. -/
def gate (executor : Executor World) (shared : Shared) (message : Message)
    (outcome : StageOutcome) (clock : Option Int) : Phase × Shared :=
  if executor.dedup = true ∧ 0 < executor.pipeline.dedupWindowSeconds then
    match clock with
    | none => beginForward shared message outcome
    | some now =>
      match shared.dedup.checkAndRecord executor.pipeline.id (executor.payloadHash outcome.body)
          executor.pipeline.dedupWindowSeconds now with
      | .error _ => beginForward shared message outcome
      | .ok (true, table) =>
        (.closing message (some { number := shared.attempts
                                  since := shared.opened (executor.payloadHash outcome.body)
                                  message, outcome }) true,
          { shared with dedup := table, attempts := shared.attempts + 1 })
      | .ok (false, table) =>
        beginForward { shared with
                        dedup := table
                        opened := Function.update shared.opened
                          (executor.payloadHash outcome.body) shared.attempts } message outcome
  else beginForward shared message outcome

/-- Whether the gate will call the payload a duplicate, read off the table it finds: dedup is
on, the store answers, and the row of the payload is live. -/
def hitsWindow (executor : Executor World) (shared : Shared) (payload : Bytes) :
    Option Int → Bool
  | none => false
  | some now =>
    executor.dedup && decide (0 < executor.pipeline.dedupWindowSeconds) &&
      decide (executor.pipeline.id ≠ "") && decide (executor.payloadHash payload ≠ "") &&
      shared.dedup.live (executor.pipeline.id, executor.payloadHash payload)
        executor.pipeline.dedupWindowSeconds now

/-- One destination of the forward loop. A destination without a configuration is skipped; an
error is remembered and the loop goes on. -/
def sendTo (executor : Executor World) (shared : Shared) (attempt : Attempt) (target : Target)
    (rest : List Target) (sendErr err : Option String) : Phase × Shared :=
  match executor.resolve target with
  | none => (.forwarding attempt rest sendErr, shared)
  | some config =>
    match err with
    | some reason => (.forwarding attempt rest (some reason), shared)
    | none =>
      (.forwarding attempt rest sendErr,
        { shared with sent := { attempt := attempt.number, target, config,
                                body := attempt.outcome.body } :: shared.sent })

/-- Whether the payload is also published to the shadow destination. -/
def shadows (executor : Executor World) (payload : Bytes) : Bool :=
  executor.shadowDest.isSome && decide (0 < executor.pipeline.shadowPercent) &&
    shadowSampleHit payload executor.pipeline.shadowPercent

/-- The end of the forward loop: the breaker learns the result, and a failed send goes to the
dead-letter queue. -/
def concludeForward (executor : Executor World) (shared : Shared) (attempt : Attempt)
    (sendErr : Option String) (now : Int) : Phase × Shared :=
  let recorded := { shared with
    breaker := shared.breaker.recordResult sendErr.isNone now
    results := { attempt, success := sendErr.isNone } :: shared.results }
  match sendErr with
  | some reason =>
    (.pushing attempt.message (some attempt)
      (executor.sendFailureEntry attempt.message.body reason), recorded)
  | none =>
    (if executor.shadows attempt.outcome.body then .shadowing attempt
      else .closing attempt.message (some attempt) true, recorded)

/-- `finalize`. A Nack, and a Commit the broker did not take, puts the message back. -/
def finalize (shared : Shared) (message : Message) (attempt : Option Attempt) (handled : Bool)
    (err : Option String) : Shared :=
  if handled then
    { shared with
      commits := (message, attempt) :: shared.commits
      queue := if err.isNone then shared.queue else message :: shared.queue }
  else { shared with queue := message :: shared.queue }

/-- One step of a worker inside `processOne`. -/
def advance (executor : Executor World) (shared : Shared) :
    Phase → Action World → Option (Phase × Shared)
  | .idle, .receive message =>
    if message ∈ shared.queue then
      some (.received message, { shared with queue := shared.queue.erase message })
    else none
  | .received message, .runStages world =>
    match MqConnector.runStages world executor.stages message.body with
    | .error failure =>
      some (.pushing message none (executor.stageFailureEntry message.body failure), shared)
    | .ok outcome => some (.staged message outcome, shared)
  | .staged message outcome, .allow now =>
    some (if (shared.breaker.allow now).1 then .admitted message outcome
        else .closing message none false,
      { shared with breaker := (shared.breaker.allow now).2 })
  | .admitted message outcome, .checkDedup clock =>
    some (executor.gate shared message outcome clock)
  | .forwarding attempt (target :: rest) sendErr, .send err =>
    some (executor.sendTo shared attempt target rest sendErr err)
  | .forwarding attempt [] sendErr, .recordResult now =>
    some (executor.concludeForward shared attempt sendErr now)
  | .shadowing attempt, .shadowSend =>
    some (.closing attempt.message (some attempt) true, shared)
  | .pushing message attempt entry, .push err =>
    if executor.dlq = true ∧ err = none then
      some (.closing message attempt true,
        { shared with pushed := (message, entry) :: shared.pushed })
    else some (.closing message attempt false, shared)
  | .closing message attempt handled, .finalize err =>
    some (.idle, finalize shared message attempt handled err)
  | _, _ => none

def step (executor : Executor World) (state : PipelineState) :
    PipelineLabel World → Option PipelineState
  | .arrive body =>
    some { state with shared := { state.shared with
      queue := state.shared.queue ++ [{ id := state.shared.arrivals, body }]
      arrivals := state.shared.arrivals + 1 } }
  | .prune cutoff =>
    some { state with shared := { state.shared with dedup := state.shared.dedup.prune cutoff } }
  | .act worker action =>
    (executor.advance state.shared (state.workers worker) action).map fun moved =>
      { shared := moved.2, workers := Function.update state.workers worker moved.1 }

/-! ### What the gate does -/

theorem gate_cases (executor : Executor World) (shared : Shared) (message : Message)
    (outcome : StageOutcome) (clock : Option Int) (counted : shared.dedup.Counted) :
    (executor.hitsWindow shared outcome.body clock = true ∧
      ∃ table : DedupTable, table.Counted ∧ executor.gate shared message outcome clock =
        (.closing message (some { number := shared.attempts
                                  since := shared.opened (executor.payloadHash outcome.body)
                                  message, outcome }) true,
          { shared with dedup := table, attempts := shared.attempts + 1 })) ∨
    (executor.hitsWindow shared outcome.body clock = false ∧
      ∃ (table : DedupTable) (opened : String → Nat), table.Counted ∧
        executor.gate shared message outcome clock =
          beginForward { shared with dedup := table, opened } message outcome) := by
  by_cases enabled : executor.dedup = true ∧ 0 < executor.pipeline.dedupWindowSeconds
  case neg =>
    refine Or.inr ⟨?_, shared.dedup, shared.opened, counted, by
      rw [gate.eq_def, if_neg enabled]⟩
    cases clock with
    | none => rfl
    | some now =>
      have off : (executor.dedup && decide (0 < executor.pipeline.dedupWindowSeconds)) = false := by
        simpa using enabled
      rw [hitsWindow, off, Bool.false_and, Bool.false_and, Bool.false_and]
  case pos =>
    rw [gate.eq_def, if_pos enabled]
    cases clock with
    | none => exact Or.inr ⟨rfl, shared.dedup, shared.opened, counted, rfl⟩
    | some now =>
      -- a missing id or hash is refused by the store, and forwarded like any failed check
      by_cases pipelineGiven : executor.pipeline.id = ""
      · refine Or.inr ⟨by simp [hitsWindow, pipelineGiven], shared.dedup, shared.opened, counted, ?_⟩
        simp only [DedupTable.checkAndRecord, if_pos pipelineGiven]
      by_cases hashGiven : executor.payloadHash outcome.body = ""
      · refine Or.inr ⟨by simp [hitsWindow, hashGiven], shared.dedup, shared.opened, counted, ?_⟩
        simp only [DedupTable.checkAndRecord, if_neg pipelineGiven, if_pos hashGiven]
      have decided : executor.hitsWindow shared outcome.body (some now) =
          shared.dedup.live (executor.pipeline.id, executor.payloadHash outcome.body)
            executor.pipeline.dedupWindowSeconds now := by
        simp [hitsWindow, enabled.1, enabled.2, pipelineGiven, hashGiven]
      have recorded := (counted.expire (executor.pipeline.id, executor.payloadHash outcome.body)
        (now - executor.pipeline.dedupWindowSeconds * second)).upsert
          (executor.pipeline.id, executor.payloadHash outcome.body) now
      rw [decided]
      simp only [DedupTable.checkAndRecord_eq counted _ _ _ now pipelineGiven hashGiven enabled.2]
      cases shared.dedup.live (executor.pipeline.id, executor.payloadHash outcome.body)
          executor.pipeline.dedupWindowSeconds now with
      | true => exact Or.inl ⟨rfl, _, recorded, rfl⟩
      | false => exact Or.inr ⟨rfl, _, _, recorded, rfl⟩

/-! ### What a step of a worker can be -/

/-- The steps of a worker, each with what it has found. -/
inductive Move (executor : Executor World) (shared : Shared) :
    Phase → Action World → Phase × Shared → Prop
  | receive {message : Message} (queued : message ∈ shared.queue) :
      Move executor shared .idle (.receive message)
        (.received message, { shared with queue := shared.queue.erase message })
  | stageFails {message : Message} {world : World} {failure : StageFailure}
      (failed : MqConnector.runStages world executor.stages message.body = .error failure) :
      Move executor shared (.received message) (.runStages world)
        (.pushing message none (executor.stageFailureEntry message.body failure), shared)
  | staged {message : Message} {world : World} {outcome : StageOutcome}
      (finished : MqConnector.runStages world executor.stages message.body = .ok outcome) :
      Move executor shared (.received message) (.runStages world) (.staged message outcome, shared)
  | admitted {message : Message} {outcome : StageOutcome} {now : Int}
      (answer : (shared.breaker.allow now).1 = true) :
      Move executor shared (.staged message outcome) (.allow now)
        (.admitted message outcome, { shared with breaker := (shared.breaker.allow now).2 })
  | refused {message : Message} {outcome : StageOutcome} {now : Int}
      (answer : (shared.breaker.allow now).1 = false) :
      Move executor shared (.staged message outcome) (.allow now)
        (.closing message none false, { shared with breaker := (shared.breaker.allow now).2 })
  | duplicate {message : Message} {outcome : StageOutcome} {clock : Option Int}
      {table : DedupTable} (hit : executor.hitsWindow shared outcome.body clock = true)
      (counted : table.Counted) :
      Move executor shared (.admitted message outcome) (.checkDedup clock)
        (.closing message (some { number := shared.attempts
                                  since := shared.opened (executor.payloadHash outcome.body)
                                  message, outcome }) true,
          { shared with dedup := table, attempts := shared.attempts + 1 })
  | forwards {message : Message} {outcome : StageOutcome} {clock : Option Int}
      {table : DedupTable} {opened : String → Nat}
      (missed : executor.hitsWindow shared outcome.body clock = false) (counted : table.Counted) :
      Move executor shared (.admitted message outcome) (.checkDedup clock)
        (beginForward { shared with dedup := table, opened } message outcome)
  | skips {attempt : Attempt} {target : Target} {rest : List Target} {sendErr err : Option String}
      (unresolved : executor.resolve target = none) :
      Move executor shared (.forwarding attempt (target :: rest) sendErr) (.send err)
        (.forwarding attempt rest sendErr, shared)
  | sendFails {attempt : Attempt} {target : Target} {rest : List Target}
      {sendErr : Option String} {reason : String} :
      Move executor shared (.forwarding attempt (target :: rest) sendErr) (.send (some reason))
        (.forwarding attempt rest (some reason), shared)
  | sends {attempt : Attempt} {target : Target} {rest : List Target} {sendErr : Option String}
      {config : Config} (resolved : executor.resolve target = some config) :
      Move executor shared (.forwarding attempt (target :: rest) sendErr) (.send none)
        (.forwarding attempt rest sendErr,
          { shared with sent := { attempt := attempt.number, target, config,
                                  body := attempt.outcome.body } :: shared.sent })
  | failed {attempt : Attempt} {reason : String} {now : Int} :
      Move executor shared (.forwarding attempt [] (some reason)) (.recordResult now)
        (.pushing attempt.message (some attempt)
            (executor.sendFailureEntry attempt.message.body reason),
          { shared with
            breaker := shared.breaker.recordResult false now
            results := { attempt, success := false } :: shared.results })
  | delivered {attempt : Attempt} {now : Int} {next : Phase}
      (went : next = .shadowing attempt ∨ next = .closing attempt.message (some attempt) true) :
      Move executor shared (.forwarding attempt [] none) (.recordResult now)
        (next,
          { shared with
            breaker := shared.breaker.recordResult true now
            results := { attempt, success := true } :: shared.results })
  | shadow {attempt : Attempt} :
      Move executor shared (.shadowing attempt) .shadowSend
        (.closing attempt.message (some attempt) true, shared)
  | pushes {message : Message} {attempt : Option Attempt} {entry : DLQEntry} {err : Option String} :
      Move executor shared (.pushing message attempt entry) (.push err)
        (.closing message attempt true,
          { shared with pushed := (message, entry) :: shared.pushed })
  | pushFails {message : Message} {attempt : Option Attempt} {entry : DLQEntry}
      {err : Option String} :
      Move executor shared (.pushing message attempt entry) (.push err)
        (.closing message attempt false, shared)
  | commits {message : Message} {attempt : Option Attempt} {err : Option String} :
      Move executor shared (.closing message attempt true) (.finalize err)
        (.idle, { shared with
          commits := (message, attempt) :: shared.commits
          queue := if err.isNone then shared.queue else message :: shared.queue })
  | nacks {message : Message} {attempt : Option Attempt} {err : Option String} :
      Move executor shared (.closing message attempt false) (.finalize err)
        (.idle, { shared with queue := message :: shared.queue })

theorem move_of_advance {executor : Executor World} {shared : Shared} {phase : Phase}
    {action : Action World} {moved : Phase × Shared} (counted : shared.dedup.Counted)
    (fired : executor.advance shared phase action = some moved) :
    Move executor shared phase action moved := by
  unfold advance at fired
  split at fired
  · -- receive
    split at fired
    · rename_i queued
      cases fired
      exact .receive queued
    · cases fired
  · -- the stage chain
    split at fired
    · rename_i failed
      cases fired
      exact .stageFails failed
    · rename_i finished
      cases fired
      exact .staged finished
  · -- the breaker
    rename_i message outcome now
    cases fired
    cases answer : (shared.breaker.allow now).1 with
    | true => exact .admitted answer
    | false => exact .refused answer
  · -- the dedup gate
    rename_i message outcome clock
    cases fired
    rcases executor.gate_cases shared message outcome clock counted with
      ⟨hit, table, recorded, equal⟩ | ⟨missed, table, opened, recorded, equal⟩
    · rw [equal]
      exact .duplicate hit recorded
    · rw [equal]
      exact .forwards missed recorded
  · -- one send
    rename_i attempt target rest sendErr err
    cases fired
    unfold sendTo
    cases resolved : executor.resolve target with
    | none => exact .skips resolved
    | some config =>
      cases err with
      | none => exact .sends resolved
      | some reason => exact .sendFails
  · -- the end of the forward loop
    rename_i attempt sendErr now
    cases fired
    unfold concludeForward
    cases sendErr with
    | some reason => exact .failed
    | none =>
      refine .delivered ?_
      split
      · exact Or.inl rfl
      · exact Or.inr rfl
  · cases fired
    exact .shadow
  · -- the dead-letter push
    split at fired
    · cases fired
      exact .pushes
    · cases fired
      exact .pushFails
  · rename_i message attempt handled err
    cases fired
    unfold finalize
    cases handled with
    | true => exact .commits
    | false => exact .nacks
  · cases fired

theorem advance_counted (executor : Executor World) {shared : Shared} {phase : Phase}
    {action : Action World} {moved : Phase × Shared} (counted : shared.dedup.Counted)
    (fired : executor.advance shared phase action = some moved) : moved.2.dedup.Counted := by
  cases move_of_advance counted fired with
  | duplicate _ recorded | forwards _ recorded => exact recorded
  | _ => exact counted

/-- Every step keeps the count of the deduplication table. -/
theorem step_counted (executor : Executor World) (state : PipelineState)
    (label : PipelineLabel World) (after : PipelineState) (counted : state.shared.dedup.Counted)
    (fired : executor.step state label = some after) : after.shared.dedup.Counted := by
  cases label with
  | arrive body =>
    cases fired
    exact counted
  | prune cutoff =>
    cases fired
    exact counted.prune cutoff
  | act worker action =>
    obtain ⟨moved, advanced, rfl⟩ := Option.map_eq_some_iff.mp fired
    exact executor.advance_counted counted advanced

end Executor

theorem PipelineState.initial_counted : PipelineState.initial.shared.dedup.Counted := by
  intro key row found
  cases found

/-! ### One pipeline to run -/

/-- A pipeline without stages and with a dedup window of one minute. Its hash is the SHA-256 of
`emptyObject`, the one payload it is run on. -/
def windowedExecutor : Executor Unit where
  pipeline := { id := "p", tenantID := "t", sourceID := "in", destinationID := "out",
                dedupWindowSeconds := 60 }
  stages := []
  source := { type := some .rabbitMQ, queueName := "in" }
  defaultDest := { type := some .rabbitMQ, queueName := "out" }
  payloadHash _ := "44136fa355b3678a1146ad16f7e8649e94fb4fc21fe77e8310c060f61caaff8a"
  routesResolved _ member := nomatch member

def emptyObject : Bytes := [0x7b, 0x7d]

/-- Worker 0 takes a message off the queue and through the breaker at `now`. -/
def takeToGate (id : Nat) (now : Int) : List (PipelineLabel Unit) :=
  [.act 0 (.receive { id, body := emptyObject }), .act 0 (.runStages ()), .act 0 (.allow now)]

end MqConnector
