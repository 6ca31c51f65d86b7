/-
This file asks whether a message is ever received from or sent to a connection of
one tenant for a pipeline of another.

The server takes any requests and writes its tables. The manager reads them at its
own pace and starts executors from the rows it has accepted. `Replay` looks its
connections up again, by id alone. `Retry` looks its destination up within the
tenant. All but the consumer of a replay get their connectors from the pool. A
request for a retry, a bridge call or a replay is answered in its own step; its
way to the broker is the asker's and the replay's steps.

The connectors that `Dlq` keeps for its retries play no part here. What a caller of the pool asked
for, what an entry was made for, and `flows`, the
pipeline and the connection of every message that moves, are records that no step
of the code reads.
-/

import MqConnector.Viewers
import MqConnector.Pool
import MqConnector.Replay
import MqConnector.Tracking

namespace MqConnector

variable {World Document Key Rule : Type}

/-! ### Asking for a connector -/

/-- A `Get` at a call site: the tenant it is made for, and the pipeline whose messages the
connector is to move, if it is to move a pipeline's. -/
structure Ask where
  site : CallSite
  tenantID : String
  pipeline : Option Pipeline

/-- A message that was received from a connection or sent to it on behalf of a pipeline. -/
structure Flow where
  pipeline : Pipeline
  connection : Connection
  deriving DecidableEq

/-- The number of workers `Run` starts. -/
def Pipeline.workerCount (pipeline : Pipeline) : Nat :=
  if pipeline.workers < 1 then 1
  else if 16 < pipeline.workers then 16
  else pipeline.workers.toNat

/-- `RouteDests` of the executor built from the rows. -/
def Rows.routeDest (rows : Rows) (destination : String) : Option Connection :=
  (((routeDestinations rows.routingRules).zip rows.routeDests).find? fun entry =>
    entry.1 = destination).bind (·.2)

/-- `ShadowDest` of the executor built from the rows: one of another tenant is ignored. -/
def Rows.shadowDest (rows : Rows) : Option Connection :=
  rows.shadow.filter fun row => row.tenantID = rows.pipeline.tenantID

/-- What the executor built from the rows asks for. -/
def Rows.ask (rows : Rows) (site : CallSite) : Ask where
  site := site
  tenantID := rows.pipeline.tenantID
  pipeline := some rows.pipeline

/-- Who asks: an executor for one of its connectors or for the depth of its source, a replay for
its destination, a retry in a tenant, be it a request's, a bulk retry's or the reaper's, or a bridge
request of a tenant. -/
inductive Asker
  | receive (handle worker : Nat)
  | forward (handle : Nat)
  | route (handle : Nat) (destination : String)
  | shadow (handle : Nat)
  | depth (handle : Nat)
  | replay (call : Nat)
  | retry (tenantID id : String) (answers : RetryAnswers)
  | bridgePublish (tenantID id : String)
  | bridgeConsume (tenantID id : String)

/-- Where a call of `Replay` is, with the rows it has read. -/
inductive ReplayPhase
  | idle
  | called (pipelineID : String)
  | found (pipeline : Pipeline)
  | sourced (pipeline : Pipeline) (source : Connection)
  | draining (pipeline : Pipeline) (source destination : Connection)

/-- The next lookup of `Replay`. A row that is not there ends it, and so does a source that keeps
no history. -/
def ReplayPhase.read (store : Store) : ReplayPhase → ReplayPhase
  | .called pipelineID =>
    match store.pipelines.find? fun pipeline => pipeline.id = pipelineID with
    | some pipeline => .found pipeline
    | none => .idle
  | .found pipeline =>
    match store.connections pipeline.sourceID with
    | some source => .sourced pipeline source
    | none => .idle
  | .sourced pipeline source =>
    match store.connections pipeline.destinationID with
    | some destination =>
      if (replaySource source.toConfig).isOk then .draining pipeline source destination else .idle
    | none => .idle
  | phase => phase

/-- The pipeline a request has replayed: it passes the middleware and the checks of
`handleReplayPipeline`, which answers 200 only behind a replay. -/
def Server.replayTarget (server : Server World Document Key Rule)
    (state : ServerState World Key Rule) (request : HttpRequest World Key Rule) : Option String :=
  match request.route with
  | .replayPipeline id body _ =>
    if (server.serve state { request with
        route := .replayPipeline id body (.done 0) }).response.status = 200 then some id
    else none
  | _ => none

/-! ### Rows of one tenant -/

/-- The connections of the rows are of the pipeline's tenant, apart from the shadow, of which the
executor takes only its own. -/
structure Rows.Own (rows : Rows) : Prop where
  source : ∀ row, rows.source = some row → row.tenantID = rows.pipeline.tenantID
  destination : ∀ row, rows.destination = some row → row.tenantID = rows.pipeline.tenantID
  routes : ∀ row, some row ∈ rows.routeDests → row.tenantID = rows.pipeline.tenantID

theorem Rows.own_of_accepted {builds : Rows → Bool} {rows : Rows}
    (accepted : rows.accepted builds = true) : rows.Own := by
  simp only [Rows.accepted, Bool.and_eq_true, List.all_eq_true] at accepted
  obtain ⟨⟨⟨source, destination⟩, -⟩, routes⟩ := accepted
  have ours : ∀ row : Connection, ((some row).any fun connection =>
      decide (connection.tenantID = rows.pipeline.tenantID)) = true →
      row.tenantID = rows.pipeline.tenantID := fun row same => of_decide_eq_true same
  refine ⟨fun row found => ours row ?_, fun row found => ours row ?_,
    fun row routed => ours row (routes _ routed)⟩
  · rw [← found]
    exact source
  · rw [← found]
    exact destination

theorem Rows.mem_of_routeDest {rows : Rows} {destination : String} {row : Connection}
    (found : rows.routeDest destination = some row) : some row ∈ rows.routeDests := by
  obtain ⟨entry, listed, same⟩ := Option.bind_eq_some_iff.mp found
  have among := List.mem_of_find?_eq_some listed
  rw [← same]
  exact (List.of_mem_zip (show (entry.1, entry.2) ∈ _ from among)).2

namespace ManagerState

theorem accepted_of_step {builds : Rows → Bool} {state after : ManagerState}
    {label : ManagerLabel} (keyed : state.WellKeyed)
    (accepted : ∀ handle < state.fresh, (state.handles handle).rows.accepted builds = true)
    (fired : state.step builds label = some after) :
    ∀ handle < after.fresh, (after.handles handle).rows.accepted builds = true := by
  intro handle below
  rcases step_core keyed fired with frame | ⟨call, rows, todo, -, -, passed, rfl⟩
  · rw [frame.rows handle]
    exact accepted handle (frame.fresh ▸ below)
  · show ((state.registerRows call rows).handles handle).rows.accepted builds = true
    by_cases new : handle = state.fresh
    · rw [new, registerRows]
      dsimp only
      rw [Function.update_self]
      exact passed
    · rw [registerRows_handles state call rows new]
      exact accepted handle (Nat.lt_of_le_of_ne (Nat.le_of_lt_succ below) new)

end ManagerState

/-- What is asked for is a connection of the tenant it is asked for, and so is the pipeline. -/
structure Ask.Own (ask : Ask) : Prop where
  row : ask.site.row.tenantID = ask.tenantID
  pipeline : ∀ pipeline, ask.pipeline = some pipeline → pipeline.tenantID = ask.tenantID

theorem Rows.ask_own {rows : Rows} {site : CallSite}
    (own : site.row.tenantID = rows.pipeline.tenantID) : (rows.ask site).Own := by
  refine ⟨own, fun pipeline moves => ?_⟩
  rw [← Option.some_inj.mp moves]
  rfl

namespace DlqService

theorem tenantID_of_loadRetry {service : DlqService World Document Key Rule}
    {state : DlqState World Key Rule} {tenantID id : String} {answers : RetryAnswers}
    {held : HeldRow} {pipeline : Pipeline}
    (loaded : service.loadRetry state tenantID id answers = .ok (held, pipeline)) :
    pipeline.tenantID = tenantID := by
  unfold loadRetry at loaded
  split at loaded
  · cases loaded
  split at loaded
  · cases loaded
  split at loaded
  · cases loaded
  split at loaded
  · cases loaded
  split at loaded
  · cases loaded
  rename_i row found
  split at loaded
  · cases loaded
  cases loaded
  have named := List.find?_some found
  exact (of_decide_eq_true named).2

theorem tenantID_of_retryDestination {state : DlqState World Key Rule} {tenantID : String}
    {pipeline : Pipeline} {answers : RetryAnswers} {row : Connection}
    (found : retryDestination state tenantID pipeline answers = some row) :
    row.tenantID = tenantID := by
  unfold retryDestination retryConnection at found
  obtain ⟨-, read⟩ := Option.ite_none_right_eq_some.mp found
  obtain ⟨-, stored⟩ := Option.ite_none_right_eq_some.mp read
  exact of_decide_eq_true (Option.filter_eq_some_iff.mp stored).2

end DlqService

/-! ### The system -/

/-- The server, the manager and the pool over one database, the replays in progress, and the
record of what was asked, opened and moved. -/
structure FlowState (World Key Rule : Type) where
  server : ServerState World Key Rule
  manager : ManagerState
  pool : PoolState
  replays : Nat → ReplayPhase
  asks : Nat → Option Ask
  opened : Nat → Option Ask
  flows : List Flow

/-- A request is served, the dead-letter service or the manager moves, a caller asks the pool for
a connector, the pool moves, a caller moves a message over the connector it holds, and a replay is
called, looks a row up, receives a message or ends. -/
inductive FlowLabel (World Key Rule : Type)
  | http (request : HttpRequest World Key Rule)
  | dlq (label : DlqLabel World Key Rule)
  | manager (label : ManagerLabel)
  | ask (caller : Nat) (asker : Asker)
  | pool (label : PoolLabel)
  | move (caller : Nat)
  | replay (call : Nat) (request : HttpRequest World Key Rule)
  | replayRead (call : Nat)
  | replayReceive (call : Nat)
  | replayEnd (call : Nat)

namespace FlowState

/-- A process that has just started over a database with any rows. -/
def initial (tables : ServerState World Key Rule) : FlowState World Key Rule where
  server := tables
  manager := .initial tables.store 0
  pool := .initial
  replays := fun _ => .idle
  asks := fun _ => none
  opened := fun _ => none
  flows := []

/-- The manager, which reads the server's tables. -/
def readingManager (state : FlowState World Key Rule) : ManagerState :=
  { state.manager with store := state.server.store }

/-- The rows an executor was built from. -/
def built (state : FlowState World Key Rule) (handle : Nat) : Option Rows :=
  if handle < state.manager.fresh then some (state.manager.handles handle).rows else none

/-- The rows of an executor whose workers have not returned. -/
def running (state : FlowState World Key Rule) (handle : Nat) : Option Rows :=
  if (state.manager.handles handle).unwound then none else state.built handle

/-- What is asked for. The sampler of the source's depth leaves Kafka alone and is not waited for
when its executor ends; it moves no message, and a bridge request moves none of a pipeline. -/
def ask (service : DlqService World Document Key Rule) (state : FlowState World Key Rule) :
    Asker → Option Ask
  | .receive handle worker =>
    (state.running handle).bind fun rows =>
      if worker < rows.pipeline.workerCount then
        rows.source.map fun row => rows.ask (.source rows.pipeline.id worker row)
      else none
  | .forward handle =>
    (state.running handle).bind fun rows =>
      rows.destination.map fun row => rows.ask (.destination rows.pipeline.id row)
  | .route handle destination =>
    (state.running handle).bind fun rows =>
      (rows.routeDest destination).map fun row => rows.ask (.route row)
  | .shadow handle =>
    (state.running handle).bind fun rows =>
      rows.shadowDest.map fun row => rows.ask (.shadow rows.pipeline.id row)
  | .depth handle =>
    (state.built handle).bind fun rows =>
      (rows.source.filter fun row => row.toConfig.type ≠ some .kafka).map fun row =>
        { rows.ask (.depth rows.pipeline.id row) with pipeline := none }
  | .replay call =>
    match state.replays call with
    | .draining pipeline _ destination =>
      some ⟨.replay destination, pipeline.tenantID, some pipeline⟩
    | _ => none
  | .retry tenantID id answers =>
    match service.loadRetry state.server.toDlqState tenantID id answers with
    | .error _ => none
    | .ok (held, pipeline) =>
      (DlqService.retryDestination state.server.toDlqState tenantID pipeline answers).map fun row =>
        ⟨.dlqRetry held.row.id row, tenantID, some pipeline⟩
  | .bridgePublish tenantID id =>
    (state.server.connection tenantID id).map fun row => ⟨.bridgePublish row, tenantID, none⟩
  | .bridgeConsume tenantID id =>
    (state.server.connection tenantID id).map fun row => ⟨.bridgeConsume row, tenantID, none⟩

def setReplay (state : FlowState World Key Rule) (call : Nat) (phase : ReplayPhase) :
    FlowState World Key Rule :=
  { state with replays := Function.update state.replays call phase }

def record (state : FlowState World Key Rule) (flow : Flow) : FlowState World Key Rule :=
  { state with flows := flow :: state.flows }

/-- Record what a caller has asked for. The next address is made for it, if one is made. -/
def recordAsk (state : FlowState World Key Rule) (caller : Nat) (ask : Ask) (after : PoolState) :
    FlowState World Key Rule :=
  { state with
    pool := after
    asks := Function.update state.asks caller (some ask)
    opened := Function.update state.opened state.pool.pool.fresh (some ask) }

/-- One step. The tables are written by the requests alone: the manager's own requests and the
dead-letter service's writes are left out, and every `Get` comes from a call site. -/
def step (server : Server World Document Key Rule) (options : PoolOptions)
    (state : FlowState World Key Rule) :
    FlowLabel World Key Rule → Option (FlowState World Key Rule)
  | .http request => some { state with server := (server.serve state.server request).state }
  | .dlq (.write _) => none
  | .dlq label =>
    (server.dlq.step state.server.toDlqState label).map fun after =>
      { state with server := { state.server with toDlqState := after } }
  | .manager (.beginRequest _ _) => none
  | .manager label =>
    (state.readingManager.step server.dlq.builder.builds label).map fun after =>
      { state with manager := after }
  | .ask caller asker =>
    (state.ask server.dlq asker).bind fun ask =>
      (state.pool.step options (.act caller (.get ask.site.request))).map
        (state.recordAsk caller ask)
  | .pool (.act _ (.get _)) => none
  | .pool label => (state.pool.step options label).map fun after => { state with pool := after }
  | .move caller =>
    match state.pool.callers caller, state.asks caller with
    | .holding entry _, some ask =>
      match ask.pipeline, state.opened entry with
      | some pipeline, some opener => some (state.record ⟨pipeline, opener.site.row⟩)
      | _, _ => none
    | _, _ => none
  | .replay call request =>
    match state.replays call with
    | .idle =>
      (server.replayTarget state.server request).map fun pipelineID =>
        state.setReplay call (.called pipelineID)
    | _ => none
  | .replayRead call =>
    some (state.setReplay call ((state.replays call).read state.server.store))
  | .replayReceive call =>
    -- a replay's consumer is its own and not from the pool
    match state.replays call with
    | .draining pipeline source _ => some (state.record ⟨pipeline, source⟩)
    | _ => none
  | .replayEnd call => some (state.setReplay call .idle)

/-! ### The property and the condition -/

/-- Every message moved over a connection of its pipeline's own tenant. -/
def WithinTenants (state : FlowState World Key Rule) : Prop :=
  ∀ flow ∈ state.flows, flow.connection.tenantID = flow.pipeline.tenantID

/-- The lookup that completes a replay finds a source and a destination of the pipeline's own
tenant, if the source keeps a history to replay. -/
def FindsOwnRows (store : Store) : ReplayPhase → Prop
  | .sourced pipeline source =>
    ∀ destination ∈ store.connections pipeline.destinationID,
      (replaySource source.toConfig).isOk = true →
        source.tenantID = pipeline.tenantID ∧ destination.tenantID = pipeline.tenantID
  | _ => True

/-- Whoever asks for a connector to move a pipeline's messages finds none under its key that was
opened for another tenant. -/
def FindsOwnConnector (state : FlowState World Key Rule) (ask : Ask) : Prop :=
  ask.pipeline.isSome = true →
    ∀ entry ∈ state.pool.pool.entries ask.site.key, ∀ opener ∈ state.opened entry,
      opener.tenantID = ask.tenantID

/-- The condition on a step. -/
def KeepsTenants (service : DlqService World Document Key Rule) (state : FlowState World Key Rule) :
    FlowLabel World Key Rule → Prop
  | .replayRead call => FindsOwnRows state.server.store (state.replays call)
  | .ask _ asker => ∀ ask ∈ state.ask service asker, state.FindsOwnConnector ask
  | _ => True

instance (store : Store) (phase : ReplayPhase) : Decidable (FindsOwnRows store phase) :=
  match phase with
  | .sourced pipeline source => inferInstanceAs (Decidable (∀ destination ∈
      store.connections pipeline.destinationID, (replaySource source.toConfig).isOk = true →
        source.tenantID = pipeline.tenantID ∧ destination.tenantID = pipeline.tenantID))
  | .idle | .called _ | .found _ | .draining _ _ _ => isTrue trivial

instance (state : FlowState World Key Rule) (ask : Ask) : Decidable (state.FindsOwnConnector ask) :=
  inferInstanceAs (Decidable (ask.pipeline.isSome = true →
    ∀ entry ∈ state.pool.pool.entries ask.site.key, ∀ opener ∈ state.opened entry,
      opener.tenantID = ask.tenantID))

instance (service : DlqService World Document Key Rule) (state : FlowState World Key Rule)
    (label : FlowLabel World Key Rule) : Decidable (state.KeepsTenants service label) :=
  match label with
  | .replayRead call =>
    inferInstanceAs (Decidable (FindsOwnRows state.server.store (state.replays call)))
  | .ask _ asker =>
    inferInstanceAs (Decidable (∀ ask ∈ state.ask service asker, state.FindsOwnConnector ask))
  | .http _ | .dlq _ | .manager _ | .pool _ | .move _ | .replay _ _ | .replayReceive _
  | .replayEnd _ => isTrue trivial

/-! ### What a step can be -/

/-- The steps, each with what it has found. -/
inductive Moves (server : Server World Document Key Rule) (options : PoolOptions)
    (state : FlowState World Key Rule) :
    FlowLabel World Key Rule → FlowState World Key Rule → Prop
  | tables {label : FlowLabel World Key Rule} {after : ServerState World Key Rule} :
      Moves server options state label { state with server := after }
  | manager {label : ManagerLabel} {after : ManagerState}
      (fired : state.readingManager.step server.dlq.builder.builds label = some after) :
      Moves server options state (.manager label) { state with manager := after }
  | ask {caller : Nat} {asker : Asker} {ask : Ask} {moved : Caller} {pool : Pool}
      (asked : state.ask server.dlq asker = some ask)
      (made : state.pool.pool.Moves options (state.pool.callers caller) (.get ask.site.request)
        moved pool) :
      Moves server options state (.ask caller asker) (state.recordAsk caller ask
        { pool := pool, callers := Function.update state.pool.callers caller moved })
  | pool {label : PoolLabel} {after : PoolState}
      (unasked : ∀ caller request, label ≠ .act caller (.get request))
      (fired : state.pool.step options label = some after) :
      Moves server options state (.pool label) { state with pool := after }
  | move {caller entry : Nat} {request : PoolRequest} {ask opener : Ask} {pipeline : Pipeline}
      (holds : state.pool.callers caller = .holding entry request)
      (asked : state.asks caller = some ask) (moves : ask.pipeline = some pipeline)
      (opened : state.opened entry = some opener) :
      Moves server options state (.move caller) (state.record ⟨pipeline, opener.site.row⟩)
  | replay {call : Nat} {request : HttpRequest World Key Rule} {pipelineID : String} :
      Moves server options state (.replay call request) (state.setReplay call (.called pipelineID))
  | replayRead {call : Nat} :
      Moves server options state (.replayRead call)
        (state.setReplay call ((state.replays call).read state.server.store))
  | replayReceive {call : Nat} {pipeline : Pipeline} {source destination : Connection}
      (drains : state.replays call = .draining pipeline source destination) :
      Moves server options state (.replayReceive call) (state.record ⟨pipeline, source⟩)
  | replayEnd {call : Nat} :
      Moves server options state (.replayEnd call) (state.setReplay call .idle)

theorem moves_of_step {server : Server World Document Key Rule} {options : PoolOptions}
    {state after : FlowState World Key Rule} {label : FlowLabel World Key Rule}
    (fired : state.step server options label = some after) :
    state.Moves server options label after := by
  unfold step at fired
  split at fired
  · cases fired
    exact .tables
  · cases fired
  · obtain ⟨letters, -, rfl⟩ := Option.map_eq_some_iff.mp fired
    exact .tables
  · cases fired
  · obtain ⟨manager, moved, rfl⟩ := Option.map_eq_some_iff.mp fired
    exact .manager moved
  · obtain ⟨ask, asked, found⟩ := Option.bind_eq_some_iff.mp fired
    obtain ⟨pool, moved, rfl⟩ := Option.map_eq_some_iff.mp found
    cases PoolState.moves_of_step moved with
    | act made => exact .ask asked made
  · cases fired
  · rename_i unasked
    obtain ⟨pool, moved, rfl⟩ := Option.map_eq_some_iff.mp fired
    exact .pool unasked moved
  · split at fired
    · rename_i entry request ask holds asked
      split at fired
      · rename_i pipeline opener moves opened
        cases fired
        exact .move holds asked moves opened
      · cases fired
    · cases fired
  · split at fired
    · obtain ⟨pipelineID, -, rfl⟩ := Option.map_eq_some_iff.mp fired
      exact .replay
    · cases fired
  · cases fired
    exact .replayRead
  · split at fired
    · rename_i pipeline source destination drains
      cases fired
      exact .replayReceive drains
    · cases fired
  · cases fired
    exact .replayEnd

/-! ### What holds along a run -/

/-- The invariant: executors are built from rows the manager accepted, entries lead to connections
of the tenant they were opened for, whoever is to move a pipeline's messages waits for or holds a
connector that was opened for the pipeline's tenant, and replays drain rows of their tenant. -/
structure Kept (server : Server World Document Key Rule) (state : FlowState World Key Rule) :
    Prop where
  keyed : state.manager.WellKeyed
  accepted : ∀ handle < state.manager.fresh,
    (state.manager.handles handle).rows.accepted server.dlq.builder.builds = true
  bounded : state.pool.pool.Bounded
  opened : ∀ entry < state.pool.pool.fresh, ∃ opener, state.opened entry = some opener ∧
    opener.site.row.tenantID = opener.tenantID
  taken : ∀ caller entry request, (state.pool.callers caller).asked = some (entry, request) →
    entry < state.pool.pool.fresh
  callers : ∀ caller entry request, (state.pool.callers caller).asked = some (entry, request) →
    ∀ ask pipeline, state.asks caller = some ask → ask.pipeline = some pipeline →
      ∀ opener, state.opened entry = some opener → opener.tenantID = pipeline.tenantID
  replays : ∀ call pipeline source destination,
    state.replays call = .draining pipeline source destination →
      source.tenantID = pipeline.tenantID ∧ destination.tenantID = pipeline.tenantID
  flows : state.WithinTenants

theorem initial_kept (server : Server World Document Key Rule)
    (tables : ServerState World Key Rule) : Kept server (initial tables) where
  keyed _ _ found := nomatch found
  accepted _ below := absurd below (Nat.not_lt_zero _)
  bounded _ _ found := nomatch found
  opened _ below := absurd below (Nat.not_lt_zero _)
  taken _ _ _ asked := nomatch asked
  callers _ _ _ asked := nomatch asked
  replays _ _ _ _ drains := nomatch drains
  flows _ moved := nomatch moved

/-! ### Whose connections are asked for -/

theorem built_eq_some {state : FlowState World Key Rule} {handle : Nat} {rows : Rows}
    (found : state.built handle = some rows) :
    handle < state.manager.fresh ∧ (state.manager.handles handle).rows = rows := by
  unfold built at found
  exact Option.ite_none_right_eq_some.mp found |>.imp id Option.some_inj.mp

theorem built_of_running {state : FlowState World Key Rule} {handle : Nat} {rows : Rows}
    (found : state.running handle = some rows) : state.built handle = some rows := by
  unfold running at found
  split at found
  · cases found
  · exact found

theorem Kept.own {server : Server World Document Key Rule} {state : FlowState World Key Rule}
    (kept : Kept server state) {handle : Nat} {rows : Rows}
    (found : state.built handle = some rows) : rows.Own := by
  obtain ⟨below, same⟩ := built_eq_some found
  exact Rows.own_of_accepted (same ▸ kept.accepted handle below)

theorem ask_own {server : Server World Document Key Rule} {state : FlowState World Key Rule}
    (kept : Kept server state) {asker : Asker} {ask : Ask}
    (asked : state.ask server.dlq asker = some ask) : ask.Own := by
  cases asker with
  | receive handle worker =>
    obtain ⟨rows, found, source⟩ := Option.bind_eq_some_iff.mp asked
    obtain ⟨-, source⟩ := Option.ite_none_right_eq_some.mp source
    obtain ⟨row, stored, rfl⟩ := Option.map_eq_some_iff.mp source
    exact Rows.ask_own ((kept.own (built_of_running found)).source row stored)
  | forward handle =>
    obtain ⟨rows, found, destination⟩ := Option.bind_eq_some_iff.mp asked
    obtain ⟨row, stored, rfl⟩ := Option.map_eq_some_iff.mp destination
    exact Rows.ask_own ((kept.own (built_of_running found)).destination row stored)
  | route handle destination =>
    obtain ⟨rows, found, routed⟩ := Option.bind_eq_some_iff.mp asked
    obtain ⟨row, stored, rfl⟩ := Option.map_eq_some_iff.mp routed
    exact Rows.ask_own ((kept.own (built_of_running found)).routes row
      (Rows.mem_of_routeDest stored))
  | shadow handle =>
    obtain ⟨rows, found, shadowed⟩ := Option.bind_eq_some_iff.mp asked
    obtain ⟨row, stored, rfl⟩ := Option.map_eq_some_iff.mp shadowed
    exact Rows.ask_own (of_decide_eq_true (Option.filter_eq_some_iff.mp stored).2)
  | depth handle =>
    obtain ⟨rows, found, sampled⟩ := Option.bind_eq_some_iff.mp asked
    obtain ⟨row, stored, rfl⟩ := Option.map_eq_some_iff.mp sampled
    refine ⟨(kept.own found).source row (Option.filter_eq_some_iff.mp stored).1, ?_⟩
    intro pipeline moves
    cases moves
  | replay call =>
    rw [FlowState.ask] at asked
    split at asked
    · rename_i pipeline source destination drains
      cases asked
      refine ⟨(kept.replays call pipeline source destination drains).2, fun other moves => ?_⟩
      rw [← Option.some_inj.mp moves]
    · cases asked
  | retry tenantID id answers =>
    rw [FlowState.ask] at asked
    split at asked
    · cases asked
    · rename_i held pipeline loaded
      obtain ⟨row, stored, rfl⟩ := Option.map_eq_some_iff.mp asked
      refine ⟨DlqService.tenantID_of_retryDestination stored, fun other moves => ?_⟩
      rw [← Option.some_inj.mp moves]
      exact DlqService.tenantID_of_loadRetry loaded
  | bridgePublish tenantID id =>
    obtain ⟨row, stored, rfl⟩ := Option.map_eq_some_iff.mp asked
    exact ⟨beq_iff_eq.mp (Option.filter_eq_some_iff.mp stored).2, fun pipeline moves => nomatch moves⟩
  | bridgeConsume tenantID id =>
    obtain ⟨row, stored, rfl⟩ := Option.map_eq_some_iff.mp asked
    exact ⟨beq_iff_eq.mp (Option.filter_eq_some_iff.mp stored).2, fun pipeline moves => nomatch moves⟩

/-! ### What a step keeps -/

section Steps

variable {server : Server World Document Key Rule} {options : PoolOptions}
  {state : FlowState World Key Rule} (kept : Kept server state)

include kept

theorem Kept.manager {label : ManagerLabel} {after : ManagerState}
    (fired : state.readingManager.step server.dlq.builder.builds label = some after) :
    Kept server { state with manager := after } := by
  have keyed : state.readingManager.WellKeyed := kept.keyed
  exact { kept with
    keyed := ManagerState.wellKeyed_of_step keyed fired
    accepted := ManagerState.accepted_of_step keyed kept.accepted fired }

theorem Kept.answered {caller : Nat} {asker : Asker} {ask : Ask} {moved : Caller} {pool : Pool}
    (asked : state.ask server.dlq asker = some ask) (finds : state.FindsOwnConnector ask)
    (made : state.pool.pool.Moves options (state.pool.callers caller) (.get ask.site.request)
      moved pool) {entry : Nat} {request : PoolRequest}
    (waits : moved.asked = some (entry, request)) :
    entry < pool.fresh ∧ ∀ pipeline, ask.pipeline = some pipeline → ∀ opener,
      Function.update state.opened state.pool.pool.fresh (some ask) entry = some opener →
        opener.tenantID = pipeline.tenantID := by
  have own := ask_own kept asked
  rcases made.get_cases with ⟨rfl, rfl⟩ | ⟨known, found, rfl, rfl⟩ | ⟨rfl, rfl⟩
  · cases waits
  · obtain ⟨rfl, rfl⟩ := Prod.mk.inj (Option.some_inj.mp waits)
    have below := kept.bounded _ _ found
    refine ⟨below, fun pipeline moves opener opened => ?_⟩
    rw [Function.update_of_ne (Nat.ne_of_lt below)] at opened
    rw [own.pipeline pipeline moves]
    exact finds (Option.isSome_of_eq_some moves) known found opener opened
  · obtain ⟨rfl, rfl⟩ := Prod.mk.inj (Option.some_inj.mp waits)
    refine ⟨Nat.lt_succ_self _, fun pipeline moves opener opened => ?_⟩
    rw [Function.update_self] at opened
    rw [own.pipeline pipeline moves, Option.some_inj.mp opened]

theorem Kept.recordAsk {caller : Nat} {asker : Asker} {ask : Ask} {moved : Caller} {pool : Pool}
    (asked : state.ask server.dlq asker = some ask) (finds : state.FindsOwnConnector ask)
    (made : state.pool.pool.Moves options (state.pool.callers caller) (.get ask.site.request)
      moved pool) :
    Kept server (state.recordAsk caller ask
      { pool := pool, callers := Function.update state.pool.callers caller moved }) := by
  refine { kept with bounded := made.bounded kept.bounded, opened := ?_, taken := ?_, callers := ?_ }
  · intro entry below
    show ∃ opener, Function.update state.opened state.pool.pool.fresh (some ask) entry = some opener ∧
      opener.site.row.tenantID = opener.tenantID
    by_cases last : entry = state.pool.pool.fresh
    · rw [last, Function.update_self]
      exact ⟨ask, rfl, (ask_own kept asked).row⟩
    · rw [Function.update_of_ne last]
      have bound : pool.fresh ≤ state.pool.pool.fresh + 1 := made.fresh_le_succ
      have lower : entry < pool.fresh := below
      exact kept.opened entry (by omega)
  · intro other entry request waits
    rcases Caller.asked_of_update waits with ⟨-, answer⟩ | ⟨-, before⟩
    · exact (kept.answered asked finds made answer).1
    · exact lt_of_lt_of_le (kept.taken other entry request before) made.fresh_le
  · intro other entry request waits
    rcases Caller.asked_of_update waits with ⟨rfl, answer⟩ | ⟨apart, before⟩
    · intro given pipeline recorded moves opener opened
      have same : Function.update state.asks other (some ask) other = some given := recorded
      rw [Function.update_self] at same
      rw [← Option.some_inj.mp same] at moves
      exact (kept.answered asked finds made answer).2 pipeline moves opener opened
    · intro given pipeline recorded moves opener opened
      have older : entry ≠ state.pool.pool.fresh :=
        Nat.ne_of_lt (kept.taken other entry request before)
      exact kept.callers other entry request before given pipeline
        ((Function.update_of_ne apart ..).symm.trans recorded) moves opener
        ((Function.update_of_ne older ..).symm.trans opened)

theorem Kept.pool {label : PoolLabel} {after : PoolState}
    (unasked : ∀ caller request, label ≠ .act caller (.get request))
    (fired : state.pool.step options label = some after) :
    Kept server { state with pool := after } := by
  have frame := PoolState.unasked_of_step unasked fired
  have bounded : after.pool.Bounded := fun key entry leads =>
    frame.fresh ▸ kept.bounded key entry (frame.entries key entry leads)
  obtain ⟨fresh, -, before⟩ := frame
  refine { kept with
    bounded := bounded
    opened := fun entry below => kept.opened entry (fresh ▸ below)
    taken := fun caller entry request waits => ?_
    callers := fun caller entry request waits =>
      kept.callers caller entry request (before caller entry request waits) }
  have below := kept.taken caller entry request (before caller entry request waits)
  exact fresh ▸ below

theorem Kept.record {flow : Flow} (own : flow.connection.tenantID = flow.pipeline.tenantID) :
    Kept server (state.record flow) := by
  refine { kept with flows := fun other moved => ?_ }
  rcases List.mem_cons.mp moved with rfl | older
  · exact own
  · exact kept.flows other older

theorem Kept.move {caller entry : Nat} {request : PoolRequest} {ask opener : Ask}
    {pipeline : Pipeline} (holds : state.pool.callers caller = .holding entry request)
    (asked : state.asks caller = some ask) (moves : ask.pipeline = some pipeline)
    (opened : state.opened entry = some opener) :
    Kept server (state.record ⟨pipeline, opener.site.row⟩) := by
  have waits : (state.pool.callers caller).asked = some (entry, request) := by rw [holds]; rfl
  obtain ⟨maker, recorded, own⟩ := kept.opened entry (kept.taken caller entry request waits)
  rw [opened] at recorded
  cases recorded
  have tenant := kept.callers caller entry request waits ask pipeline asked moves opener opened
  exact kept.record (own.trans tenant)

theorem Kept.setReplay {call : Nat} {phase : ReplayPhase}
    (own : ∀ pipeline source destination, phase = .draining pipeline source destination →
      source.tenantID = pipeline.tenantID ∧ destination.tenantID = pipeline.tenantID) :
    Kept server (state.setReplay call phase) := by
  refine { kept with replays := fun other pipeline source destination drains => ?_ }
  rcases Runs.update_cases drains with ⟨-, drains⟩ | ⟨-, drains⟩
  · exact own pipeline source destination drains
  · exact kept.replays other pipeline source destination drains

theorem Kept.replayRead {call : Nat}
    (finds : FindsOwnRows state.server.store (state.replays call)) :
    Kept server (state.setReplay call ((state.replays call).read state.server.store)) := by
  refine kept.setReplay fun pipeline source destination drains => ?_
  cases phase : state.replays call with
  | idle =>
    rw [phase] at drains
    cases drains
  | called pipelineID =>
    rw [phase, ReplayPhase.read] at drains
    split at drains
    · cases drains
    · cases drains
  | found row =>
    rw [phase, ReplayPhase.read] at drains
    split at drains
    · cases drains
    · cases drains
  | sourced row first =>
    rw [phase, ReplayPhase.read] at drains
    rw [phase] at finds
    split at drains
    · rename_i target found
      split at drains
      · rename_i retained
        cases drains
        exact finds destination found retained
      · cases drains
    · cases drains
  | draining row first last =>
    rw [phase] at drains
    cases drains
    exact kept.replays call pipeline source destination phase

end Steps

/-- Every step that keeps the tenants apart keeps the invariant. -/
theorem step_kept (server : Server World Document Key Rule) (options : PoolOptions)
    (state : FlowState World Key Rule) (label : FlowLabel World Key Rule)
    (after : FlowState World Key Rule) (kept : Kept server state)
    (keeps : state.KeepsTenants server.dlq label)
    (fired : state.step server options label = some after) : Kept server after := by
  cases moves_of_step fired with
  | tables => exact { kept with }
  | manager moved => exact kept.manager moved
  | ask asked made => exact kept.recordAsk asked (keeps _ asked) made
  | pool unasked moved => exact kept.pool unasked moved
  | move holds asked moves opened => exact kept.move holds asked moves opened
  | replay => exact kept.setReplay fun _ _ _ drains => nomatch drains
  | replayRead => exact kept.replayRead keeps
  | replayReceive drains => exact kept.record (kept.replays _ _ _ _ drains).1
  | replayEnd => exact kept.setReplay fun _ _ _ drains => nomatch drains

/-- In every run of the requests, the manager, the replays, the retries and the pool in which each
replay that completes its lookups finds rows of its pipeline's tenant, and no caller that is to move
a pipeline's messages finds under its key a connector opened for another tenant, every message moves
over a connection of its pipeline's own tenant. -/
theorem withinTenants_of_keepsTenants (server : Server World Document Key Rule)
    (options : PoolOptions) (tables : ServerState World Key Rule) (state : FlowState World Key Rule)
    (reached : Runs.Reaches (step server options) (KeepsTenants server.dlq) (initial tables) state) :
    state.WithinTenants :=
  (reached.invariant (Kept server) (initial_kept server tables) (step_kept server options)).flows

/-! ### Two tenants -/

/-- A connection of one of the two tenants to its own topic. -/
def tenantRow (tenantID id : String) : Connection where
  id := id
  tenantID := tenantID
  type := "kafka"
  topic := id

/-- Tenant `a` with the pipeline `orders` and tenant `b` with the pipeline `p` of two workers, each
over its own connections, and one operator each. -/
def twoTenants : ServerState Unit Unit Unit where
  store :=
    { pipelines :=
        [{ id := "orders", tenantID := "a", sourceID := "a-in", destinationID := "a-out" },
          { id := "p", tenantID := "b", sourceID := "b-in", destinationID := "b-out", workers := 2 }]
      distinct := by decide
      stages := []
      transforms := []
      routingRules := []
      connections := fun id =>
        if id = "a-in" ∨ id = "a-out" then some (tenantRow "a" id)
        else if id = "b-in" ∨ id = "b-out" then some (tenantRow "b" id)
        else none }
  rules _ := []
  keys := none
  tenants := [{ id := "a", slug := "a", name := "A" }, { id := "b", slug := "b", name := "B" }]
  memberships :=
    { rows := [⟨"a", "ann", "ann", .operator, false⟩, ⟨"b", "bob", "bob", .operator, false⟩]
      keysNodup := by decide }

/-- A request of the operator of tenant `a`. -/
def annAsks (route : Route Unit Unit Unit) : HttpRequest Unit Unit Unit where
  credentials := { session := some "ann" }
  route := route

/-- She has `orders` replayed, which looks its rows up and receives a message. -/
def replayOrders : List (FlowLabel Unit Unit Unit) :=
  [.replay 0 (annAsks (.replayPipeline "orders" (.ok (some 0, some 1)) (.done 0))),
    .replayRead 0, .replayRead 0, .replayRead 0, .replayReceive 0]

/-- A caller is given the connector it asks for, moves a message and gives it back. -/
def useConnector (caller : Nat) (asker : Asker) : List (FlowLabel Unit Unit Unit) :=
  [.ask caller asker, .pool (.act caller (.lock 0)), .pool (.act caller (.connect true)),
    .move caller, .pool (.act caller (.release 0))]

/-- The start of one pipeline without routing rules. -/
def startNext : List ManagerLabel :=
  .beginStart 0 :: (List.replicate readPlan.length (.read 0) ++ [.register 0])

def reloadThree : List (FlowLabel Unit Unit Unit) :=
  ([ManagerLabel.reload 0, .check 0, .list 0] ++ startNext ++ startNext ++ startNext).map .manager

/-- The operator of tenant `a` points her pipeline at the source of tenant `b` and has it
replayed. -/
def replayForeign : List (FlowLabel Unit Unit Unit) :=
  .http (annAsks (.updatePipeline "orders" (.ok { id := "orders"
                                                  tenantID := "a"
                                                  sourceID := "b-in"
                                                  destinationID := "a-out" }))) ::
    replayOrders

/-- She creates a pipeline whose source has the key of the second worker of tenant `b`'s. -/
def takeWorkerKey : List (FlowLabel Unit Unit Unit) :=
  .http (annAsks (.createPipeline (.ok { id := "p-w1"
                                         tenantID := "a"
                                         name := "mine"
                                         sourceID := "a-in"
                                         destinationID := "a-out" }))) ::
    (reloadThree ++ useConnector 0 (.receive 1 1) ++ useConnector 1 (.receive 2 0))

def moved (flows : List (String × String)) (state : FlowState Unit Unit Unit) : Bool :=
  decide (state.flows.map (fun flow => (flow.pipeline.tenantID, flow.connection.tenantID)) = flows)

theorem not_withinTenants_of_moved {state : FlowState Unit Unit Unit}
    {flows : List (String × String)} (passed : moved flows state = true)
    {pipelineTenant connectionTenant : String} (among : (pipelineTenant, connectionTenant) ∈ flows)
    (foreign : connectionTenant ≠ pipelineTenant) : ¬ state.WithinTenants := by
  rw [← of_decide_eq_true passed] at among
  obtain ⟨flow, listed, same⟩ := List.mem_map.mp among
  obtain ⟨rfl, rfl⟩ := Prod.mk.inj same
  exact fun within => foreign (within flow listed)

/-- Both ways a message of tenant `b` reaches a pipeline of tenant `a`: the replay of a pipeline
that was updated to a foreign source, and a pipeline whose id makes it share a pool key. -/
theorem foreign_source_replayed_and_shared :
    (∃ state, Runs.exec (step Server.officeServer {}) (fun _ _ => True) (initial twoTenants)
        replayForeign = some state ∧ ¬ state.WithinTenants) ∧
      ∃ state, Runs.exec (step Server.officeServer {}) (fun _ _ => True) (initial twoTenants)
        takeWorkerKey = some state ∧ ¬ state.WithinTenants := by
  constructor
  · have runs : (Runs.exec (step Server.officeServer {}) (fun _ _ => True) (initial twoTenants)
        replayForeign).any (moved [("a", "b")]) = true := by decide
    obtain ⟨state, executed, passed⟩ := (Option.any_eq_true _ _).mp runs
    exact ⟨state, executed,
      not_withinTenants_of_moved passed (List.mem_singleton.mpr rfl) (by decide)⟩
  · have runs : (Runs.exec (step Server.officeServer {}) (fun _ _ => True) (initial twoTenants)
        takeWorkerKey).any (moved [("a", "b"), ("b", "b")]) = true := by decide
    obtain ⟨state, executed, passed⟩ := (Option.any_eq_true _ _).mp runs
    exact ⟨state, executed, not_withinTenants_of_moved passed List.mem_cons_self (by decide)⟩

/-- The replay of a pipeline over its tenant's own connections receives and sends within the
tenant. -/
theorem own_replay_within :
    ∃ state : FlowState Unit Unit Unit,
      moved [("a", "a"), ("a", "a")] state = true ∧ state.WithinTenants := by
  obtain ⟨state, reached, passed⟩ := Runs.exists_reaches_of_exec (step Server.officeServer {})
    (KeepsTenants Server.officeServer.dlq) (initial twoTenants)
    (replayOrders ++ useConnector 0 (.replay 0)) (moved [("a", "a"), ("a", "a")])
    (by decide)
  exact ⟨state, passed, withinTenants_of_keepsTenants Server.officeServer {} twoTenants state reached⟩

end FlowState

end MqConnector
