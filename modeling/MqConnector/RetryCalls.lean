/-
This file cuts `Service.Retry` where another caller can interleave: at the read of
the row, of its pipeline, the write of the count, the lookup of the destination and
the send. A call is made by the handler of one row, by `BulkRetry` or by
`reapOnce`. Any number of them share one table.

A call carries the row it has read, and the table goes on changing under it: a
deleted pipeline sets the `pipeline_id` of its rows to NULL, rows are deleted, and
others count and schedule. Ids of rows are not used again.

The ids issued, the calls that returned nil and the logs are a record that no step
of the code reads. A call that nobody interrupts is the `Retry` of `Dlq`.
-/

import MqConnector.Dlq

namespace MqConnector

/-! ### Calls and callers -/

/-- Who has called `Retry`, with what it still has to do: the handler of one row, the loop of
`BulkRetry` or the loop of `reapOnce` at one entry. -/
inductive RetryLoop
  | handler
  | bulk (rest : List String)
  | reaper (entry : DLQRow) (rest : List DLQRow)
  deriving DecidableEq

structure RetryCall where
  loop : RetryLoop
  tenantID : String
  id : String
  deriving DecidableEq

/-- Where a caller is: in no loop, between two rows of one, or inside a call. -/
inductive RetryPhase
  | idle
  | walking (tenantID : String) (rest : List String)
  | sweeping (rest : List DLQRow)
  | calling (call : RetryCall)
  | loaded (call : RetryCall) (held : HeldRow)
  | counting (call : RetryCall) (held : HeldRow) (pipeline : Pipeline)
  | counted (call : RetryCall) (held : HeldRow) (pipeline : Pipeline)
  | sending (call : RetryCall) (payload : Bytes) (config : Config)
  | returned (call : RetryCall) (result : RetryResult)
  deriving DecidableEq

/-- A `SendMessage`: of which caller, for which row, whether it was the reaper, and whether a
`Retry` of the row had already returned nil. -/
structure SendMark where
  caller : Nat
  id : String
  reaper : Bool
  late : Bool
  deriving DecidableEq

/-- An attempt of the reaper: at which row, and whether it was on the schedule then. -/
structure AttemptMark where
  id : String
  scheduled : Bool
  deriving DecidableEq

/-- The dead-letter table with its callers, and what has happened. -/
structure RetryState (World Key Rule : Type) where
  db : DlqState World Key Rule
  phases : Nat → RetryPhase := fun _ => .idle
  issued : List String := []
  delivered : List String := []
  counts : List (Nat × String) := []
  sends : List SendMark := []
  attempts : List AttemptMark := []

/-- A move of one caller, with what the database and the broker answer. -/
inductive RetryAction
  | retry (tenantID id : String)
  | bulk (tenantID : String) (ids : List String)
  | reap (now : Int) (limit : Nat)
  | next
  | stop
  | get (read : Bool)
  | getPipeline (read : Bool)
  | increment (written : Bool)
  | connect (read connected : Bool)
  | send (sent : Bool)
  | close (now jitter : Int) (written : Bool)
  deriving DecidableEq

/-- A move of the system: of the executor, of an operator, of the tables, or of a caller. -/
inductive RetryLabel (Key Rule : Type)
  | push (entry : DLQEntry) (answers : PushAnswers)
  | delete (tenantID id : String)
  | purge (keep : DLQRow → Bool)
  | write (change : Write)
  | setRules (pipelineID : String) (rules : List Rule)
  | addKey (version : Nat) (key : Key)
  | act (caller : Nat) (action : RetryAction)

def RetryLoop.isReaper : RetryLoop → Bool
  | .reaper _ _ => true
  | _ => false

/-! ### The table -/

namespace DlqState

variable {World Key Rule : Type} (db : DlqState World Key Rule)

/-- `ON DELETE SET NULL`: a row loses its pipeline when that is deleted. -/
def unlink (after : Store) (row : DLQRow) : DLQRow :=
  if (∃ pipeline ∈ db.store.pipelines, pipeline.id = row.entry.pipelineID) ∧
      ∀ pipeline ∈ after.pipelines, pipeline.id ≠ row.entry.pipelineID then
    { row with entry := { row.entry with pipelineID := "" } }
  else row

/-- A write to the other tables, with what it does to the rows. -/
def writeStore (change : Write) : DlqState World Key Rule :=
  { db with
    store := db.store.apply change
    rows := db.rows.map fun held => { held with row := db.unlink (db.store.apply change) held.row } }

/-- Every stored row with this id. There is at most one, since the id is the primary key. -/
def Every (id : String) (property : DLQRow → Prop) : Prop :=
  ∀ held ∈ db.rows, held.row.id = id → property held.row

def scheduled (id : String) : Bool :=
  db.rows.any fun held => held.row.id = id && held.row.nextRetryAt.isSome

end DlqState

/-! ### The steps of a call -/

namespace DlqService

variable {World Document Key Rule : Type} (service : DlqService World Document Key Rule)

/-- `DLQ.Get` and the checks on the row alone. -/
def loadRow (db : DlqState World Key Rule) (call : RetryCall) (read : Bool) : RetryPhase :=
  match if read then db.get call.tenantID call.id else none with
  | none => .returned call .failed
  | some held =>
    if service.maxRetries ≤ held.row.retryCount then .returned call .maxRetries
    else if held.row.entry.pipelineID = "" then .returned call .failed
    else .loaded call held

/-- `Pipelines.Get` and the second cap. -/
def loadPipeline (db : DlqState World Key Rule) (call : RetryCall) (held : HeldRow) (read : Bool) :
    RetryPhase :=
  match if read then db.store.pipelines.find? fun pipeline =>
      pipeline.id = held.row.entry.pipelineID ∧ pipeline.tenantID = call.tenantID else none with
  | none => .returned call .failed
  | some pipeline =>
    if max (service.maxRetries : Int) pipeline.retryMax ≤ held.row.retryCount then
      .returned call .maxRetries
    else .counting call held pipeline

/-- `Connections.Get`, the pool, which is asked for the destination's configuration, and the payload of the row. -/
def connect (db : DlqState World Key Rule) (call : RetryCall) (held : HeldRow) (pipeline : Pipeline)
    (answers : RetryAnswers) : RetryPhase :=
  match retryDestination db call.tenantID pipeline answers, service.retryPayload db.keys held.row with
  | some destination, some payload => .sending call payload destination.toConfig
  | _, _ => .returned call .failed

/-- `IncrementRetry` of a call, with the record of it. -/
def countCall (state : RetryState World Key Rule) (caller : Nat) (call : RetryCall) (written : Bool) :
    RetryState World Key Rule :=
  if written then
    { state with
      db := state.db.incrementRetry call.tenantID call.id
      counts := if (state.db.get call.tenantID call.id).isSome then (caller, call.id) :: state.counts
        else state.counts }
  else state

/-- `SendMessage` of a call, with the record of it. -/
def sendCall (state : RetryState World Key Rule) (caller : Nat) (call : RetryCall) (sent : Bool) :
    RetryState World Key Rule :=
  { state with
    sends := { caller, id := call.id, reaper := call.loop.isReaper,
               late := decide (call.id ∈ state.delivered) } :: state.sends
    delivered := if sent then call.id :: state.delivered else state.delivered }

/-- What a caller does when its call has returned. -/
def closeCall (state : RetryState World Key Rule) (call : RetryCall) (result : RetryResult)
    (now jitter : Int) (written : Bool) : RetryPhase × RetryState World Key Rule :=
  match call.loop with
  | .handler => (.idle, state)
  | .bulk rest =>
    (.walking call.tenantID rest,
      if result = .succeeded ∧ written = true then
        { state with db := state.db.delete call.tenantID call.id }
      else state)
  | .reaper entry rest =>
    (.sweeping rest,
      if written then
        { state with db := state.db.scheduleRetry call.tenantID call.id
                      (rescheduled state.db entry now jitter result) }
      else state)

def act (state : RetryState World Key Rule) (caller : Nat) :
    RetryPhase → RetryAction → Option (RetryPhase × RetryState World Key Rule)
  | .idle, .retry tenantID id => some (.calling ⟨.handler, tenantID, id⟩, state)
  | .idle, .bulk tenantID ids => some (.walking tenantID ids, state)
  | .idle, .reap now limit => some (.sweeping (state.db.listDue now limit), state)
  | .walking tenantID (id :: rest), .next => some (.calling ⟨.bulk rest, tenantID, id⟩, state)
  | .walking _ [], .next => some (.idle, state)
  | .sweeping (entry :: rest), .next =>
    some (.calling ⟨.reaper entry rest, reapTenant entry, entry.id⟩,
      { state with attempts := ⟨entry.id, state.db.scheduled entry.id⟩ :: state.attempts })
  | .sweeping [], .next => some (.idle, state)
  | .walking _ _, .stop => some (.idle, state)
  | .sweeping _, .stop => some (.idle, state)
  | .calling call, .get read => some (service.loadRow state.db call read, state)
  | .loaded call held, .getPipeline read =>
    some (service.loadPipeline state.db call held read, state)
  | .counting call held pipeline, .increment written =>
    some (.counted call held pipeline, countCall state caller call written)
  | .counted call held pipeline, .connect read connected =>
    some (service.connect state.db call held pipeline { connectionRead := read, connected }, state)
  | .sending call _ _, .send sent =>
    some (.returned call (if sent then .succeeded else .failed), sendCall state caller call sent)
  | .returned call result, .close now jitter written =>
    some (closeCall state call result now jitter written)
  | _, _ => none

/-- One step of the system. An id is issued once. -/
def retryStep (state : RetryState World Key Rule) :
    RetryLabel Key Rule → Option (RetryState World Key Rule)
  | .push entry answers =>
    if answers.id ∈ state.issued then none
    else some { state with db := service.push state.db entry answers
                           issued := answers.id :: state.issued }
  | .delete tenantID id => some { state with db := state.db.delete tenantID id }
  | .purge keep =>
    some { state with db := { state.db with rows := state.db.rows.filter fun held => keep held.row } }
  | .write change => some { state with db := state.db.writeStore change }
  | .setRules pipelineID rules =>
    some { state with db := { state.db with
                                rules := Function.update state.db.rules pipelineID rules } }
  | .addKey version key =>
    some { state with db := { state.db with
                                keys := state.db.keys.map fun ring => ring.addKey version key } }
  | .act caller action =>
    (service.act state caller (state.phases caller) action).map fun moved =>
      { moved.2 with phases := Function.update state.phases caller moved.1 }

/-! ### What a step of a caller can be -/

/-- The steps of a caller, each with what it has found. -/
inductive RetryMove (state : RetryState World Key Rule) (caller : Nat) :
    RetryPhase → RetryAction → RetryPhase → RetryState World Key Rule → Prop
  | retry (tenantID id : String) :
      RetryMove state caller .idle (.retry tenantID id) (.calling ⟨.handler, tenantID, id⟩) state
  | bulk (tenantID : String) (ids : List String) :
      RetryMove state caller .idle (.bulk tenantID ids) (.walking tenantID ids) state
  | reap (now : Int) (limit : Nat) :
      RetryMove state caller .idle (.reap now limit) (.sweeping (state.db.listDue now limit)) state
  | walk (tenantID id : String) (rest : List String) :
      RetryMove state caller (.walking tenantID (id :: rest)) .next
        (.calling ⟨.bulk rest, tenantID, id⟩) state
  | attempt (entry : DLQRow) (rest : List DLQRow) :
      RetryMove state caller (.sweeping (entry :: rest)) .next
        (.calling ⟨.reaper entry rest, reapTenant entry, entry.id⟩)
        { state with attempts := ⟨entry.id, state.db.scheduled entry.id⟩ :: state.attempts }
  | leave {phase : RetryPhase} {action : RetryAction}
      (between : (∃ tenantID rest, phase = .walking tenantID rest) ∨ ∃ rest, phase = .sweeping rest) :
      RetryMove state caller phase action .idle state
  | load {call : RetryCall} {held : HeldRow}
      (found : state.db.get call.tenantID call.id = some held)
      (below : held.row.retryCount < service.maxRetries) (linked : held.row.entry.pipelineID ≠ "") :
      RetryMove state caller (.calling call) (.get true) (.loaded call held) state
  | refuse {call : RetryCall} {held : HeldRow}
      (found : state.db.get call.tenantID call.id = some held)
      (reached : service.maxRetries ≤ held.row.retryCount) :
      RetryMove state caller (.calling call) (.get true) (.returned call .maxRetries) state
  | loadFails {call : RetryCall} (read : Bool)
      (missing : read = true → ∀ held, state.db.get call.tenantID call.id = some held →
        held.row.retryCount < service.maxRetries ∧ held.row.entry.pipelineID = "") :
      RetryMove state caller (.calling call) (.get read) (.returned call .failed) state
  | pipeline {call : RetryCall} {held : HeldRow} {pipeline : Pipeline}
      (found : pipeline ∈ state.db.store.pipelines)
      (below : (held.row.retryCount : Int) < max (service.maxRetries : Int) pipeline.retryMax) :
      RetryMove state caller (.loaded call held) (.getPipeline true) (.counting call held pipeline)
        state
  | pipelineRefuses {call : RetryCall} {held : HeldRow}
      (reached : service.maxRetries ≤ held.row.retryCount) :
      RetryMove state caller (.loaded call held) (.getPipeline true) (.returned call .maxRetries)
        state
  | pipelineFails {call : RetryCall} {held : HeldRow} (read : Bool)
      (missing : read = true → ∀ pipeline ∈ state.db.store.pipelines,
        pipeline.id = held.row.entry.pipelineID → pipeline.tenantID ≠ call.tenantID) :
      RetryMove state caller (.loaded call held) (.getPipeline read) (.returned call .failed) state
  | increment {call : RetryCall} {held : HeldRow} {pipeline : Pipeline} (written : Bool) :
      RetryMove state caller (.counting call held pipeline) (.increment written)
        (.counted call held pipeline) (countCall state caller call written)
  | connect {call : RetryCall} {held : HeldRow} {pipeline : Pipeline} (read connected : Bool)
      (payload : Bytes) (config : Config) :
      RetryMove state caller (.counted call held pipeline) (.connect read connected)
        (.sending call payload config) state
  | connectFails {call : RetryCall} {held : HeldRow} {pipeline : Pipeline} (read connected : Bool) :
      RetryMove state caller (.counted call held pipeline) (.connect read connected)
        (.returned call .failed) state
  | send {call : RetryCall} {payload : Bytes} {config : Config} (sent : Bool) :
      RetryMove state caller (.sending call payload config) (.send sent)
        (.returned call (if sent then .succeeded else .failed)) (sendCall state caller call sent)
  | closeHandler {tenantID id : String} {result : RetryResult} (now jitter : Int) (written : Bool) :
      RetryMove state caller (.returned ⟨.handler, tenantID, id⟩ result) (.close now jitter written)
        .idle state
  | closeBulk {tenantID id : String} {rest : List String} {result : RetryResult} (now jitter : Int)
      (written : Bool) :
      RetryMove state caller (.returned ⟨.bulk rest, tenantID, id⟩ result)
        (.close now jitter written) (.walking tenantID rest)
        (if result = .succeeded ∧ written = true then
          { state with db := state.db.delete tenantID id } else state)
  | closeReaper {tenantID id : String} {entry : DLQRow} {rest : List DLQRow} {result : RetryResult}
      (now jitter : Int) (written : Bool) :
      RetryMove state caller (.returned ⟨.reaper entry rest, tenantID, id⟩ result)
        (.close now jitter written) (.sweeping rest)
        (if written then
          { state with db := state.db.scheduleRetry tenantID id
                        (rescheduled state.db entry now jitter result) } else state)

variable {service} {state : RetryState World Key Rule} {caller : Nat}

theorem loadRow_move (call : RetryCall) (read : Bool) :
    service.RetryMove state caller (.calling call) (.get read) (service.loadRow state.db call read)
      state := by
  unfold loadRow
  cases read with
  | false => exact .loadFails false fun read => absurd read Bool.false_ne_true
  | true =>
    rw [if_pos rfl]
    cases found : state.db.get call.tenantID call.id with
    | none =>
      refine .loadFails true fun _ held some => ?_
      rw [found] at some
      cases some
    | some held =>
      dsimp only
      split
      · rename_i reached
        exact .refuse found reached
      · rename_i below
        split
        · rename_i unlinked
          refine .loadFails true fun _ other some => ?_
          rw [found] at some
          cases some
          exact ⟨Nat.lt_of_not_le below, unlinked⟩
        · rename_i linked
          exact .load found (Nat.lt_of_not_le below) linked

theorem loadPipeline_move (call : RetryCall) (held : HeldRow) (read : Bool) :
    service.RetryMove state caller (.loaded call held) (.getPipeline read)
      (service.loadPipeline state.db call held read) state := by
  unfold loadPipeline
  cases read with
  | false => exact .pipelineFails false fun read => absurd read Bool.false_ne_true
  | true =>
    rw [if_pos rfl]
    split
    · rename_i missing
      refine .pipelineFails true fun _ pipeline among named ours => ?_
      have other := List.find?_eq_none.mp missing pipeline among
      exact other (decide_eq_true ⟨named, ours⟩)
    · rename_i pipeline found
      split
      · rename_i reached
        refine .pipelineRefuses ?_
        exact Int.ofNat_le.mp ((le_max_left _ _).trans reached)
      · rename_i below
        exact .pipeline (List.mem_of_find?_eq_some found) (lt_of_not_ge below)

theorem connect_move (call : RetryCall) (held : HeldRow) (pipeline : Pipeline)
    (read connected : Bool) :
    service.RetryMove state caller (.counted call held pipeline) (.connect read connected)
      (service.connect state.db call held pipeline { connectionRead := read, connected }) state := by
  unfold DlqService.connect
  split
  · exact .connect read connected _ _
  · exact .connectFails read connected

theorem closeCall_move (call : RetryCall) (result : RetryResult) (now jitter : Int)
    (written : Bool) :
    service.RetryMove state caller (.returned call result) (.close now jitter written)
      (closeCall state call result now jitter written).1
      (closeCall state call result now jitter written).2 := by
  obtain ⟨loop, tenantID, id⟩ := call
  cases loop with
  | handler => exact .closeHandler now jitter written
  | bulk rest => exact .closeBulk now jitter written
  | reaper entry rest => exact .closeReaper now jitter written

theorem move_of_act {phase : RetryPhase} {action : RetryAction}
    {moved : RetryPhase × RetryState World Key Rule}
    (fired : service.act state caller phase action = some moved) :
    service.RetryMove state caller phase action moved.1 moved.2 := by
  unfold act at fired
  split at fired
  · cases fired
    exact .retry _ _
  · cases fired
    exact .bulk _ _
  · cases fired
    exact .reap _ _
  · cases fired
    exact .walk _ _ _
  · cases fired
    exact .leave (Or.inl ⟨_, _, rfl⟩)
  · cases fired
    exact .attempt _ _
  · cases fired
    exact .leave (Or.inr ⟨_, rfl⟩)
  · cases fired
    exact .leave (Or.inl ⟨_, _, rfl⟩)
  · cases fired
    exact .leave (Or.inr ⟨_, rfl⟩)
  · cases fired
    exact loadRow_move _ _
  · cases fired
    exact loadPipeline_move _ _ _
  · cases fired
    exact .increment _
  · cases fired
    exact connect_move _ _ _ _ _
  · cases fired
    exact .send _
  · cases fired
    exact closeCall_move _ _ _ _ _
  · cases fired

/-! ### A call that nobody interrupts -/

variable (service)

/-- The next action of a call, when its database and broker answer so. -/
def callAction (answers : RetryAnswers) : RetryPhase → Option RetryAction
  | .calling _ => some (.get answers.rowRead)
  | .loaded _ _ => some (.getPipeline answers.pipelineRead)
  | .counting _ _ _ => some (.increment answers.counted)
  | .counted _ _ _ => some (.connect answers.connectionRead answers.connected)
  | .sending _ _ _ => some (.send answers.sent)
  | _ => none

/-- One step of a call, unless it has returned. -/
def advanceCall (caller : Nat) (answers : RetryAnswers)
    (moment : RetryPhase × RetryState World Key Rule) : RetryPhase × RetryState World Key Rule :=
  ((callAction answers moment.1).bind (service.act moment.2 caller moment.1)).getD moment

theorem advanceCall_returned (answers : RetryAnswers) (call : RetryCall) (result : RetryResult)
    (steps : Nat) :
    (service.advanceCall caller answers)^[steps] (.returned call result, state) =
      (.returned call result, state) :=
  Function.iterate_fixed rfl steps

/-- What `Retry` does once the row and the pipeline are loaded. -/
def retryLoaded (db : DlqState World Key Rule) (call : RetryCall) (held : HeldRow)
    (pipeline : Pipeline) (answers : RetryAnswers) : RetryResult × Bool × DlqState World Key Rule :=
  let counted := if answers.counted then db.incrementRetry call.tenantID call.id else db
  match retryDestination db call.tenantID pipeline answers,
      service.retryPayload db.keys held.row with
  | some _, some _ => (if answers.sent then .succeeded else .failed, true, counted)
  | _, _ => (.failed, false, counted)

theorem retryLoaded_db (db : DlqState World Key Rule) (call : RetryCall) (held : HeldRow)
    (pipeline : Pipeline) (answers : RetryAnswers) :
    (service.retryLoaded db call held pipeline answers).2.2 =
      if answers.counted then db.incrementRetry call.tenantID call.id else db := by
  unfold retryLoaded
  dsimp only
  split
  · rfl
  · rfl

theorem advanceCall_counting (call : RetryCall) (held : HeldRow) (pipeline : Pipeline)
    (answers : RetryAnswers) :
    ∃ after : RetryState World Key Rule,
      (service.advanceCall caller answers)^[3] (.counting call held pipeline, state) =
        (.returned call (service.retryLoaded state.db call held pipeline answers).1, after) ∧
      after.db = (service.retryLoaded state.db call held pipeline answers).2.2 ∧
      after.sends.length = state.sends.length +
        (service.retryLoaded state.db call held pipeline answers).2.1.toNat := by
  have counts : (countCall state caller call answers.counted).db =
      if answers.counted then state.db.incrementRetry call.tenantID call.id else state.db := by
    cases answers.counted with
    | true => rfl
    | false => rfl
  have quiet : (countCall state caller call answers.counted).sends = state.sends := by
    cases answers.counted with
    | true => rfl
    | false => rfl
  have looks : service.connect (countCall state caller call answers.counted).db call held pipeline
      { connectionRead := answers.connectionRead, connected := answers.connected } =
      service.connect state.db call held pipeline answers := by
    cases answers.counted with
    | true => rfl
    | false => rfl
  have first : (service.advanceCall caller answers)^[3] (.counting call held pipeline, state) =
      (service.advanceCall caller answers)^[1] (service.connect state.db call held pipeline answers,
        countCall state caller call answers.counted) := by
    rw [← looks]
    rfl
  rw [first]
  unfold retryLoaded DlqService.connect
  dsimp only
  split
  · exact ⟨sendCall (countCall state caller call answers.counted) caller call answers.sent, rfl, counts,
      congrArg (fun sends => sends.length + 1) quiet⟩
  · exact ⟨countCall state caller call answers.counted, rfl, counts, congrArg List.length quiet⟩

/-- A retry whose row is loaded is its second half. -/
theorem retry_eq_loaded {db : DlqState World Key Rule} {call : RetryCall} {answers : RetryAnswers}
    {held : HeldRow} {pipeline : Pipeline} (world : World)
    (loads : service.loadRetry db call.tenantID call.id answers = .ok (held, pipeline)) :
    (service.retry db call.tenantID call.id answers world).1 =
        (service.retryLoaded db call held pipeline answers).1 ∧
      (service.retry db call.tenantID call.id answers world).2.rows =
        (service.retryLoaded db call held pipeline answers).2.2.rows ∧
      (service.retry db call.tenantID call.id answers world).2.log.length =
        db.log.length + (service.retryLoaded db call held pipeline answers).2.1.toNat := by
  have log : (if answers.counted then db.incrementRetry call.tenantID call.id else db).log = db.log := by
    cases answers.counted with
    | true => rfl
    | false => rfl
  obtain ⟨pooled, got⟩ := retryGot_eq
    (if answers.counted then db.incrementRetry call.tenantID call.id else db) held.row.id
    (retryConnection db call.tenantID pipeline answers) answers.connected
  unfold retry retryLoaded
  rw [loads]
  dsimp only
  rw [got]
  cases retryDestination db call.tenantID pipeline answers with
  | none => exact ⟨rfl, rfl, congrArg List.length log⟩
  | some destination =>
    cases service.retryPayload db.keys held.row with
    | none => exact ⟨rfl, rfl, congrArg List.length log⟩
    | some payload =>
      refine ⟨rfl, rfl, ?_⟩
      dsimp only
      rw [List.length_append, log]
      rfl

theorem advanceCall_loads (call : RetryCall) (answers : RetryAnswers) :
    (service.advanceCall caller answers)^[2] (.calling call, state) =
      (match service.loadRetry state.db call.tenantID call.id answers with
      | .error result => .returned call result
      | .ok (held, pipeline) => .counting call held pipeline, state) := by
  change service.advanceCall caller answers (service.loadRow state.db call answers.rowRead, state) = _
  unfold loadRetry loadRow
  cases answers.rowRead with
  | false => rfl
  | true =>
    rw [if_pos rfl, if_neg Bool.noConfusion]
    cases state.db.get call.tenantID call.id with
    | none => rfl
    | some held =>
      dsimp only
      by_cases reached : service.maxRetries ≤ held.row.retryCount
      · rw [if_pos reached, if_pos reached]
        rfl
      rw [if_neg reached, if_neg reached]
      by_cases unlinked : held.row.entry.pipelineID = ""
      · rw [if_pos unlinked, if_pos (Or.inl unlinked)]
        rfl
      rw [if_neg unlinked]
      change (service.loadPipeline state.db call held answers.pipelineRead, state) = _
      unfold loadPipeline
      cases answers.pipelineRead with
      | false =>
        rw [if_pos (Or.inr rfl)]
        rfl
      | true =>
        rw [if_pos rfl, if_neg (not_or.mpr ⟨unlinked, Bool.noConfusion⟩)]
        cases state.db.store.pipelines.find? _ with
        | none => rfl
        | some pipeline =>
          dsimp only
          split
          · rfl
          · rfl

/-- A call that no other step interrupts is the call in one step: the same answer, rows and number of
sends. -/
theorem uninterrupted_eq_retry (call : RetryCall) (answers : RetryAnswers) (world : World) :
    ∃ after : RetryState World Key Rule,
      (service.advanceCall caller answers)^[5] (.calling call, state) =
        (.returned call (service.retry state.db call.tenantID call.id answers world).1, after) ∧
      after.db.rows = (service.retry state.db call.tenantID call.id answers world).2.rows ∧
      after.sends.length + state.db.log.length = state.sends.length +
        (service.retry state.db call.tenantID call.id answers world).2.log.length := by
  rw [Function.iterate_add_apply _ 3 2, advanceCall_loads]
  cases loads : service.loadRetry state.db call.tenantID call.id answers with
  | error result =>
    have stopped : service.retry state.db call.tenantID call.id answers world = (result, state.db) := by
      unfold retry
      rw [loads]
    rw [stopped]
    exact ⟨state, advanceCall_returned service answers call result 3, rfl, rfl⟩
  | ok loaded =>
    obtain ⟨after, second, db, sends⟩ :=
      @advanceCall_counting _ _ _ _ service state caller call loaded.1 loaded.2 answers
    obtain ⟨result, rows, log⟩ := service.retry_eq_loaded world loads
    refine ⟨after, ?_, ?_, ?_⟩
    · rw [result]
      exact second
    · rw [db, rows]
    · rw [sends, log]
      omega

end DlqService

end MqConnector
