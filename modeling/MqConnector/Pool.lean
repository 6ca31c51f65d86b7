/-
This file models `internal/mq/pool.go`: which entry a key leads to, and when that is
one for the configuration its caller asked for.

The pool is a step machine at lock granularity: a section under `p.mu`, a
section under an entry's own mutex and a broker call are one step each, and any
number of callers interleave them. An entry is its address, because `Get`
compares entries by identity when it evicts.

`Get` reads its configuration only when the key is new. The keys come from nine
call sites: most are made of a pipeline or connection id, whose configuration
can change under the key, and the replay's is made of a topic and a queue name,
which two tenants can share.
-/

import MqConnector.Models
import MqConnector.Runs

namespace MqConnector

/-! ### The pool -/

/-- What the pool is configured with; `ibm` says whether the binary was built with the IBM
driver. -/
structure PoolOptions where
  idleTimeout : Int := 300000000000
  ibm : Bool := false

/-- Whether `mq.New` builds a connector for the configuration. -/
def PoolOptions.builds (options : PoolOptions) (config : Config) : Bool :=
  match config.type with
  | some .ibm => options.ibm
  | some _ => true
  | none => false

/-- `poolEntry`, with the configuration its connector was built from. An entry nobody has
locked yet has the zero time as its last use. -/
structure PoolEntry where
  config : Config
  connected : Bool := false
  lastUsed : Option Int := none
  locked : Bool := false
  deriving DecidableEq

/-- The key and configuration of a `Get`. -/
structure PoolRequest where
  key : String
  config : Config
  deriving DecidableEq

/-- The pool's own state: the entries by address, the addresses by key, and after `Close` the
entries its goroutines still have to disconnect, with whether they hold the entry's lock. -/
structure Pool where
  heap : Nat → PoolEntry
  fresh : Nat
  entries : String → Option Nat
  stopped : Bool
  closers : String → Option (Nat × Bool)

/-- Where a caller of the pool is: inside `Get`, holding what it returned, inside `Release`,
or inside `runSweep`. -/
inductive Caller
  | idle
  | waiting (entry : Nat) (request : PoolRequest)
  | connecting (entry : Nat) (request : PoolRequest)
  | evicting (entry : Nat) (request : PoolRequest)
  | discarding (entry : Nat)
  | holding (entry : Nat) (request : PoolRequest)
  | removing (entry : Nat)
  | disconnecting (entry : Nat)
  | sweeping (now : Int) (todo : String → Option Nat)
  | checking (now : Int) (todo : String → Option Nat) (key : String) (entry : Nat)
  | dropping (now : Int) (todo : String → Option Nat) (key : String)

/-- A step of a caller, with the clock reading or the broker's answer it takes. -/
inductive PoolAction
  | get (request : PoolRequest)
  | lock (now : Int)
  | connect (succeeds : Bool)
  | evict
  | discard
  | release (now : Int)
  | remove (key : String)
  | takeRemoved
  | disconnectRemoved
  | snapshot (now : Int)
  | tryLock (key : String)
  | check (pingSucceeds : Bool)
  | drop
  | finishSweep
  | close

namespace Pool

/-- An entry of the heap is changed. -/
def modify (pool : Pool) (entry : Nat) (change : PoolEntry → PoolEntry) : Pool :=
  { pool with heap := Function.update pool.heap entry (change (pool.heap entry)) }

/-- The section of `Get` under `p.mu`: the entry of the key, or a new one built from the
configuration. -/
def lookup (options : PoolOptions) (pool : Pool) (request : PoolRequest) : Option (Nat × Pool) :=
  if pool.stopped then none
  else
    match pool.entries request.key with
    | some entry => some (entry, pool)
    | none =>
      if options.builds request.config then
        some (pool.fresh,
          { pool with
            heap := Function.update pool.heap pool.fresh { config := request.config }
            fresh := pool.fresh + 1
            entries := Function.update pool.entries request.key (some pool.fresh) })
      else none

/-- Remove the key when it still leads to this entry. -/
def evict (pool : Pool) (key : String) (entry : Nat) : Pool :=
  if pool.entries key = some entry then
    { pool with entries := Function.update pool.entries key none }
  else pool

/-- The idle and health checks of `runSweep` on an entry whose lock it holds; whether the key
is to be dropped. -/
def sweepEntry (options : PoolOptions) (pool : Pool) (entry : Nat) (now : Int)
    (pingSucceeds : Bool) : Bool × Pool :=
  let idle := match (pool.heap entry).lastUsed with
    | none => true
    | some lastUsed => decide (options.idleTimeout < now - lastUsed)
  if idle || !pingSucceeds then
    (true, pool.modify entry fun held => { held with connected := false, locked := false })
  else (false, pool.modify entry fun held => { held with locked := false })

/-- One step of a caller. A `Get` that fails at once leaves its caller idle. -/
def advance (options : PoolOptions) (pool : Pool) : Caller → PoolAction → Option (Caller × Pool)
  | .idle, .get request =>
    match pool.lookup options request with
    | none => some (.idle, pool)
    | some (entry, found) => some (.waiting entry request, found)
  | .waiting entry request, .lock now =>
    if (pool.heap entry).locked then none
    else some (.connecting entry request,
      pool.modify entry fun held => { held with locked := true, lastUsed := some now })
  | .connecting entry request, .connect succeeds =>
    if succeeds then
      some (.holding entry request, pool.modify entry fun held => { held with connected := true })
    else
      some (.evicting entry request, pool.modify entry fun held => { held with locked := false })
  | .evicting entry request, .evict => some (.discarding entry, pool.evict request.key entry)
  | .discarding entry, .discard =>
    some (.idle, pool.modify entry fun held => { held with connected := false })
  | .holding entry _, .release now =>
    some (.idle, pool.modify entry fun held => { held with locked := false, lastUsed := some now })
  | .idle, .remove key =>
    match pool.entries key with
    | none => some (.idle, pool)
    | some entry =>
      some (.removing entry, { pool with entries := Function.update pool.entries key none })
  | .removing entry, .takeRemoved =>
    if (pool.heap entry).locked then none
    else some (.disconnecting entry, pool.modify entry fun held => { held with locked := true })
  | .disconnecting entry, .disconnectRemoved =>
    some (.idle, pool.modify entry fun held => { held with connected := false, locked := false })
  | .idle, .snapshot now => some (.sweeping now pool.entries, pool)
  | .sweeping now todo, .tryLock key =>
    match todo key with
    | none => none
    | some entry =>
      if (pool.heap entry).locked then some (.sweeping now (Function.update todo key none), pool)
      else some (.checking now (Function.update todo key none) key entry,
        pool.modify entry fun held => { held with locked := true })
  | .checking now todo key entry, .check pingSucceeds =>
    some (if (pool.sweepEntry options entry now pingSucceeds).1 then .dropping now todo key
        else .sweeping now todo,
      (pool.sweepEntry options entry now pingSucceeds).2)
  | .dropping now todo key, .drop =>
    -- the source does not check that the key still leads to the entry it swept
    some (.sweeping now todo, { pool with entries := Function.update pool.entries key none })
  | .sweeping _ _, .finishSweep => some (.idle, pool)
  | .idle, .close =>
    if pool.stopped then some (.idle, pool)
    else some (.idle, { pool with
      stopped := true
      entries := fun _ => none
      closers := fun key => (pool.entries key).map fun entry => (entry, false) })
  | _, _ => none

end Pool

/-- The pool with its callers. -/
structure PoolState where
  pool : Pool
  callers : Nat → Caller

/-- A move: a caller acts, or a goroutine of `Close` locks or disconnects its entry. -/
inductive PoolLabel
  | act (caller : Nat) (action : PoolAction)
  | closerLock (key : String)
  | closerDisconnect (key : String)

def PoolState.initial : PoolState where
  pool := { heap := fun _ => { config := { type := none } }
            fresh := 0
            entries := fun _ => none
            stopped := false
            closers := fun _ => none }
  callers := fun _ => .idle

/-- One step of a goroutine, or of the clock. -/
def PoolState.step (options : PoolOptions) (state : PoolState) : PoolLabel → Option PoolState
  | .act caller action =>
    (state.pool.advance options (state.callers caller) action).map fun moved =>
      { pool := moved.2, callers := Function.update state.callers caller moved.1 }
  | .closerLock key =>
    match state.pool.closers key with
    | some (entry, false) =>
      if (state.pool.heap entry).locked then none
      else some { state with pool :=
        { state.pool.modify entry fun held => { held with locked := true } with
          closers := Function.update state.pool.closers key (some (entry, true)) } }
    | _ => none
  | .closerDisconnect key =>
    match state.pool.closers key with
    | some (entry, true) => some { state with pool :=
        { state.pool.modify entry fun held => { held with connected := false, locked := false } with
          closers := Function.update state.pool.closers key none } }
    | _ => none

/-! ### What a caller can do -/

namespace Pool

/-- The pool with a new entry under the key of the request. -/
def added (pool : Pool) (request : PoolRequest) : Pool :=
  { pool with
    heap := Function.update pool.heap pool.fresh { config := request.config }
    fresh := pool.fresh + 1
    entries := Function.update pool.entries request.key (some pool.fresh) }

def removed (pool : Pool) (key : String) : Pool :=
  { pool with entries := Function.update pool.entries key none }

/-- The pool as `Close` leaves it to its goroutines. -/
def closed (pool : Pool) : Pool :=
  { pool with
    stopped := true
    entries := fun _ => none
    closers := fun key => (pool.entries key).map fun entry => (entry, false) }

/-- Every way a caller can move, with what its section of the code has found. -/
inductive Moves (options : PoolOptions) (pool : Pool) : Caller → PoolAction → Caller → Pool → Prop
  | getRefused {request : PoolRequest} :
      Moves options pool .idle (.get request) .idle pool
  | getKnown {request : PoolRequest} {entry : Nat} (running : pool.stopped = false)
      (known : pool.entries request.key = some entry) :
      Moves options pool .idle (.get request) (.waiting entry request) pool
  | getNew {request : PoolRequest} (running : pool.stopped = false)
      (missing : pool.entries request.key = none) (built : options.builds request.config = true) :
      Moves options pool .idle (.get request) (.waiting pool.fresh request) (pool.added request)
  | lock {entry : Nat} {request : PoolRequest} {now : Int}
      (free : (pool.heap entry).locked = false) :
      Moves options pool (.waiting entry request) (.lock now) (.connecting entry request)
        (pool.modify entry fun held => { held with locked := true, lastUsed := some now })
  | connected {entry : Nat} {request : PoolRequest} :
      Moves options pool (.connecting entry request) (.connect true) (.holding entry request)
        (pool.modify entry fun held => { held with connected := true })
  | connectFailed {entry : Nat} {request : PoolRequest} :
      Moves options pool (.connecting entry request) (.connect false) (.evicting entry request)
        (pool.modify entry fun held => { held with locked := false })
  | evict {entry : Nat} {request : PoolRequest} :
      Moves options pool (.evicting entry request) .evict (.discarding entry)
        (pool.evict request.key entry)
  | discard {entry : Nat} :
      Moves options pool (.discarding entry) .discard .idle
        (pool.modify entry fun held => { held with connected := false })
  | release {entry : Nat} {request : PoolRequest} {now : Int} :
      Moves options pool (.holding entry request) (.release now) .idle
        (pool.modify entry fun held => { held with locked := false, lastUsed := some now })
  | removeMissing {key : String} :
      Moves options pool .idle (.remove key) .idle pool
  | remove {key : String} {entry : Nat} (known : pool.entries key = some entry) :
      Moves options pool .idle (.remove key) (.removing entry) (pool.removed key)
  | takeRemoved {entry : Nat} (free : (pool.heap entry).locked = false) :
      Moves options pool (.removing entry) .takeRemoved (.disconnecting entry)
        (pool.modify entry fun held => { held with locked := true })
  | disconnectRemoved {entry : Nat} :
      Moves options pool (.disconnecting entry) .disconnectRemoved .idle
        (pool.modify entry fun held => { held with connected := false, locked := false })
  | snapshot {now : Int} :
      Moves options pool .idle (.snapshot now) (.sweeping now pool.entries) pool
  | skip {now : Int} {todo : String → Option Nat} {key : String} :
      Moves options pool (.sweeping now todo) (.tryLock key)
        (.sweeping now (Function.update todo key none)) pool
  | tryLock {now : Int} {todo : String → Option Nat} {key : String} {entry : Nat}
      (listed : todo key = some entry) (free : (pool.heap entry).locked = false) :
      Moves options pool (.sweeping now todo) (.tryLock key)
        (.checking now (Function.update todo key none) key entry)
        (pool.modify entry fun held => { held with locked := true })
  | sweep {now : Int} {todo : String → Option Nat} {key : String} {entry : Nat}
      {pingSucceeds : Bool}
      (drops : (pool.sweepEntry options entry now pingSucceeds).1 = true) :
      Moves options pool (.checking now todo key entry) (.check pingSucceeds)
        (.dropping now todo key)
        (pool.modify entry fun held => { held with connected := false, locked := false })
  | spare {now : Int} {todo : String → Option Nat} {key : String} {entry : Nat}
      {pingSucceeds : Bool}
      (drops : (pool.sweepEntry options entry now pingSucceeds).1 = false) :
      Moves options pool (.checking now todo key entry) (.check pingSucceeds)
        (.sweeping now todo) (pool.modify entry fun held => { held with locked := false })
  | drop {now : Int} {todo : String → Option Nat} {key : String} :
      Moves options pool (.dropping now todo key) .drop (.sweeping now todo) (pool.removed key)
  | finishSweep {now : Int} {todo : String → Option Nat} :
      Moves options pool (.sweeping now todo) .finishSweep .idle pool
  | closeAgain :
      Moves options pool .idle .close .idle pool
  | close (running : pool.stopped = false) :
      Moves options pool .idle .close .idle pool.closed

theorem sweepEntry_cases (options : PoolOptions) (pool : Pool) (entry : Nat) (now : Int)
    (pingSucceeds : Bool) :
    pool.sweepEntry options entry now pingSucceeds =
        (true, pool.modify entry fun held => { held with connected := false, locked := false }) ∨
      pool.sweepEntry options entry now pingSucceeds =
        (false, pool.modify entry fun held => { held with locked := false }) := by
  unfold sweepEntry
  dsimp only
  generalize (match (pool.heap entry).lastUsed with
    | none => true
    | some lastUsed => decide (options.idleTimeout < now - lastUsed)) = idle
  split
  · exact Or.inl rfl
  · exact Or.inr rfl

theorem moves_of_advance {options : PoolOptions} {pool : Pool} {caller : Caller}
    {action : PoolAction} {moved : Caller × Pool}
    (fired : pool.advance options caller action = some moved) :
    Moves options pool caller action moved.1 moved.2 := by
  unfold advance at fired
  split at fired
  · rename_i request
    unfold lookup at fired
    split at fired
    · cases fired
      exact .getRefused
    · rename_i entry found looked
      cases fired
      split at looked
      · cases looked
      · rename_i running
        have opened : pool.stopped = false := Bool.eq_false_iff.mpr running
        split at looked
        · rename_i known
          cases looked
          exact .getKnown opened known
        · rename_i missing
          split at looked
          · rename_i built
            cases looked
            exact .getNew opened missing built
          · cases looked
  · split at fired
    · cases fired
    · rename_i free
      cases fired
      exact .lock (Bool.eq_false_iff.mpr free)
  · rename_i succeeds
    cases succeeds with
    | true =>
      cases fired
      exact .connected
    | false =>
      cases fired
      exact .connectFailed
  · cases fired
    exact .evict
  · cases fired
    exact .discard
  · cases fired
    exact .release
  · split at fired
    · cases fired
      exact .removeMissing
    · rename_i known
      cases fired
      exact .remove known
  · split at fired
    · cases fired
    · rename_i free
      cases fired
      exact .takeRemoved (Bool.eq_false_iff.mpr free)
  · cases fired
    exact .disconnectRemoved
  · cases fired
    exact .snapshot
  · split at fired
    · cases fired
    · rename_i listed
      split at fired
      · cases fired
        exact .skip
      · rename_i free
        cases fired
        exact .tryLock listed (Bool.eq_false_iff.mpr free)
  · rename_i now todo key entry pingSucceeds
    cases fired
    rcases pool.sweepEntry_cases options entry now pingSucceeds with swept | spared
    · rw [swept]
      exact .sweep (by rw [swept])
    · rw [spared]
      exact .spare (by rw [spared])
  · cases fired
    exact .drop
  · cases fired
    exact .finishSweep
  · split at fired
    · cases fired
      exact .closeAgain
    · rename_i running
      cases fired
      exact .close (Bool.eq_false_iff.mpr running)
  · cases fired

end Pool

inductive PoolState.Moves (options : PoolOptions) (state : PoolState) :
    PoolLabel → PoolState → Prop
  | act {caller : Nat} {action : PoolAction} {moved : Caller} {pool : Pool}
      (made : Pool.Moves options state.pool (state.callers caller) action moved pool) :
      PoolState.Moves options state (.act caller action)
        { pool := pool, callers := Function.update state.callers caller moved }
  | closerLock {key : String} {entry : Nat} (closing : state.pool.closers key = some (entry, false))
      (free : (state.pool.heap entry).locked = false) :
      PoolState.Moves options state (.closerLock key)
        { state with pool :=
          { state.pool.modify entry fun held => { held with locked := true } with
            closers := Function.update state.pool.closers key (some (entry, true)) } }
  | closerDisconnect {key : String} {entry : Nat}
      (closing : state.pool.closers key = some (entry, true)) :
      PoolState.Moves options state (.closerDisconnect key)
        { state with pool :=
          { state.pool.modify entry fun held => { held with connected := false, locked := false }
            with closers := Function.update state.pool.closers key none } }

/-- What a step of the pool can do. -/
theorem PoolState.moves_of_step {options : PoolOptions} {state after : PoolState}
    {label : PoolLabel} (fired : state.step options label = some after) :
    state.Moves options label after := by
  cases label with
  | act caller action =>
    obtain ⟨moved, advanced, rfl⟩ := Option.map_eq_some_iff.mp fired
    exact .act (Pool.moves_of_advance advanced)
  | closerLock key =>
    rw [PoolState.step] at fired
    split at fired
    · rename_i entry closing
      split at fired
      · cases fired
      · rename_i free
        cases fired
        exact .closerLock closing (Bool.eq_false_iff.mpr free)
    · cases fired
  | closerDisconnect key =>
    rw [PoolState.step] at fired
    split at fired
    · rename_i entry closing
      cases fired
      exact .closerDisconnect closing
    · cases fired

/-! ### Where the keys come from -/

/-- A place that asks the pool for a connector, with the stored connection it was given. -/
inductive CallSite
  | source (pipelineID : String) (worker : Nat) (row : Connection)
  | destination (pipelineID : String) (row : Connection)
  | route (row : Connection)
  | shadow (pipelineID : String) (row : Connection)
  | depth (pipelineID : String) (row : Connection)
  | dlqRetry (entryID : String) (row : Connection)
  | replay (row : Connection)
  | bridgePublish (row : Connection)
  | bridgeConsume (row : Connection)

namespace CallSite

def row : CallSite → Connection
  | source _ _ row | destination _ row | route row | shadow _ row | depth _ row
  | dlqRetry _ row | replay row | bridgePublish row | bridgeConsume row => row

/-- The key that a call site asks under. -/
def key : CallSite → String
  | source pipelineID worker _ =>
    if worker = 0 then "source-" ++ pipelineID
    else "source-" ++ pipelineID ++ "-w" ++ toString worker
  | destination pipelineID _ => "dest-" ++ pipelineID
  | route row => "route-" ++ row.id
  | shadow pipelineID _ => "shadow-" ++ pipelineID
  | depth pipelineID _ => pipelineID ++ "-depth"
  | dlqRetry entryID _ => "dlq-retry-" ++ entryID
  | replay row => "replay-" ++ row.topic ++ row.queueName
  | bridgePublish row => "bridge-pub-" ++ row.id
  | bridgeConsume row => "bridge-con-" ++ row.id

/-- What a call site asks for. -/
def request (site : CallSite) : PoolRequest where
  key := site.key
  config := site.row.toConfig

end CallSite

/-! ### Connectors match their requests -/

/-- A `Get` whose key is in the pool finds an entry made for the configuration it asks for. -/
def KeysAgree (state : PoolState) : PoolLabel → Prop
  | .act _ (.get request) =>
    match state.pool.entries request.key with
    | some entry => (state.pool.heap entry).config = request.config
    | none => True
  | _ => True

/-- The entry and request of a caller inside a `Get` or holding what it returned. -/
def Caller.asked : Caller → Option (Nat × PoolRequest)
  | .waiting entry request | .connecting entry request | .holding entry request =>
    some (entry, request)
  | _ => none

/-- The addresses the keys lead to are taken. -/
def Pool.Bounded (pool : Pool) : Prop :=
  ∀ key entry, pool.entries key = some entry → entry < pool.fresh

/-- The caller's entry is taken and holds a connector for its request. -/
def Caller.Matches (pool : Pool) (caller : Caller) : Prop :=
  ∀ entry request, caller.asked = some (entry, request) →
    entry < pool.fresh ∧ (pool.heap entry).config = request.config

/-- From one state of the pool to a later one, entries keep their configuration. -/
structure Pool.Grows (before after : Pool) : Prop where
  fresh : before.fresh ≤ after.fresh
  config : ∀ entry < before.fresh, (after.heap entry).config = (before.heap entry).config

theorem Pool.Grows.refl (pool : Pool) : pool.Grows pool :=
  ⟨le_refl _, fun _ _ => rfl⟩

theorem Caller.Matches.grow {before after : Pool} {caller : Caller}
    (matched : caller.Matches before) (grown : before.Grows after) : caller.Matches after := by
  intro entry request asked
  obtain ⟨taken, equal⟩ := matched entry request asked
  exact ⟨lt_of_lt_of_le taken grown.fresh, (grown.config entry taken).trans equal⟩

theorem Caller.matches_of_asked_none {caller : Caller} (pool : Pool)
    (outside : caller.asked = none) : caller.Matches pool := by
  intro entry request asked
  rw [outside] at asked
  cases asked

theorem Pool.modify_grows (pool : Pool) (entry : Nat) (change : PoolEntry → PoolEntry)
    (keeps : (change (pool.heap entry)).config = (pool.heap entry).config) :
    pool.Grows (pool.modify entry change) := by
  refine ⟨le_refl _, fun other _ => ?_⟩
  by_cases same : other = entry
  · rw [same, Pool.modify]
    dsimp only
    rw [Function.update_self, keeps]
  · rw [Pool.modify]
    dsimp only
    rw [Function.update_of_ne same]

theorem Pool.Bounded.remove {pool : Pool} (bounded : pool.Bounded) (key : String) :
    (pool.removed key).Bounded := by
  intro other entry found
  by_cases same : other = key
  · rw [same] at found
    dsimp only [Pool.removed] at found
    rw [Function.update_self] at found
    cases found
  · dsimp only [Pool.removed] at found
    rw [Function.update_of_ne same] at found
    exact bounded other entry found

theorem Pool.Bounded.add {pool : Pool} (bounded : pool.Bounded) (request : PoolRequest) :
    (pool.added request).Bounded := by
  intro key known present
  by_cases same : key = request.key
  · rw [same] at present
    dsimp only [Pool.added] at present
    rw [Function.update_self, Option.some_inj] at present
    exact present ▸ Nat.lt_succ_self _
  · dsimp only [Pool.added] at present
    rw [Function.update_of_ne same] at present
    exact Nat.lt_succ_of_lt (bounded key known present)

theorem Pool.evict_cases (pool : Pool) (key : String) (entry : Nat) :
    (pool.entries key = some entry ∧ pool.evict key entry = pool.removed key) ∨
      (pool.entries key ≠ some entry ∧ pool.evict key entry = pool) := by
  unfold Pool.evict
  split
  · rename_i known
    exact Or.inl ⟨known, rfl⟩
  · rename_i other
    exact Or.inr ⟨other, rfl⟩

theorem Pool.evict_fresh (pool : Pool) (key : String) (entry : Nat) :
    (pool.evict key entry).fresh = pool.fresh := by
  rcases pool.evict_cases key entry with ⟨_, evicted⟩ | ⟨_, kept⟩
  · rw [evicted]
    rfl
  · rw [kept]

namespace Pool.Moves

variable {options : PoolOptions} {pool after : Pool} {caller moved : Caller} {action : PoolAction}

theorem fresh_le (made : pool.Moves options caller action moved after) :
    pool.fresh ≤ after.fresh := by
  cases made with
  | getNew _ _ _ => exact Nat.le_succ _
  | evict => rw [Pool.evict_fresh]
  | _ => exact le_refl _

theorem bounded (made : pool.Moves options caller action moved after) (bounded : pool.Bounded) :
    after.Bounded := by
  cases made with
  | getNew _ _ _ => exact bounded.add _
  | @evict entry request =>
    rcases pool.evict_cases request.key entry with ⟨_, evicted⟩ | ⟨_, kept⟩
    · rw [evicted]
      exact bounded.remove _
    · rw [kept]
      exact bounded
  | remove _ => exact bounded.remove _
  | drop => exact bounded.remove _
  | close _ =>
    intro key entry found
    cases found
  | _ => exact bounded

theorem closers (made : pool.Moves options caller action moved after) {key : String} {entry : Nat}
    {locks : Bool} (closing : after.closers key = some (entry, locks)) :
    pool.closers key = some (entry, locks) ∨ (pool.entries key = some entry ∧ locks = false) := by
  cases made with
  | @evict held request =>
    rcases pool.evict_cases request.key held with ⟨_, evicted⟩ | ⟨_, kept⟩
    · rw [evicted] at closing
      exact Or.inl closing
    · rw [kept] at closing
      exact Or.inl closing
  | close _ =>
    obtain ⟨known, led, equal⟩ := Option.map_eq_some_iff.mp closing
    cases equal
    exact Or.inr ⟨led, rfl⟩
  | _ => exact Or.inl closing

theorem entries (made : pool.Moves options caller action moved after) {key : String} {entry : Nat}
    (leads : after.entries key = some entry) :
    pool.entries key = some entry ∨
      (∃ request, action = .get request ∧ key = request.key ∧ entry = pool.fresh ∧
        pool.stopped = false ∧ pool.entries key = none ∧ options.builds request.config = true) := by
  have removed : ∀ other, (pool.removed other).entries key = some entry →
      pool.entries key = some entry := by
    intro other found
    by_cases same : key = other
    · rw [same, Pool.removed] at found
      dsimp only at found
      rw [Function.update_self] at found
      cases found
    · rw [Pool.removed] at found
      dsimp only at found
      rw [Function.update_of_ne same] at found
      exact found
  cases made with
  | @getNew request running missing built =>
    dsimp only [Pool.added] at leads
    by_cases same : key = request.key
    · rw [same, Function.update_self, Option.some_inj] at leads
      exact Or.inr ⟨request, rfl, same, leads.symm, running, same ▸ missing, built⟩
    · rw [Function.update_of_ne same] at leads
      exact Or.inl leads
  | @evict held request =>
    rcases pool.evict_cases request.key held with ⟨_, evicted⟩ | ⟨_, kept⟩
    · rw [evicted] at leads
      exact Or.inl (removed _ leads)
    · rw [kept] at leads
      exact Or.inl leads
  | remove _ => exact Or.inl (removed _ leads)
  | drop => exact Or.inl (removed _ leads)
  | close _ => cases leads
  | _ => exact Or.inl leads

theorem fresh_le_succ (made : pool.Moves options caller action moved after) :
    after.fresh ≤ pool.fresh + 1 := by
  cases made with
  | getNew _ _ _ => exact le_refl _
  | evict =>
    rw [Pool.evict_fresh]
    exact Nat.le_succ _
  | _ => exact Nat.le_succ _

theorem fresh_eq (made : pool.Moves options caller action moved after)
    (unasked : ∀ request, action ≠ .get request) : after.fresh = pool.fresh := by
  cases made with
  | getNew _ _ _ => exact absurd rfl (unasked _)
  | evict => exact Pool.evict_fresh ..
  | _ => rfl

theorem asked (made : pool.Moves options caller action moved after) {entry : Nat}
    {request : PoolRequest} (asks : moved.asked = some (entry, request)) :
    caller.asked = some (entry, request) ∨ action = .get request := by
  cases made with
  | getKnown _ _ =>
    cases asks
    exact Or.inr rfl
  | getNew _ _ _ =>
    cases asks
    exact Or.inr rfl
  | lock _ => exact Or.inl asks
  | connected => exact Or.inl asks
  | _ => cases asks

theorem get_cases {request : PoolRequest}
    (made : pool.Moves options caller (.get request) moved after) :
    (moved = .idle ∧ after = pool) ∨
      (∃ entry, pool.entries request.key = some entry ∧ moved = .waiting entry request ∧
        after = pool) ∨
      (moved = .waiting pool.fresh request ∧ after = pool.added request) := by
  cases made with
  | getRefused => exact Or.inl ⟨rfl, rfl⟩
  | getKnown _ known => exact Or.inr (Or.inl ⟨_, known, rfl, rfl⟩)
  | getNew _ _ _ => exact Or.inr (Or.inr ⟨rfl, rfl⟩)

end Pool.Moves

theorem Pool.added_grows (pool : Pool) (request : PoolRequest) :
    pool.Grows (pool.added request) := by
  refine ⟨Nat.le_succ _, fun other taken => ?_⟩
  dsimp only [Pool.added]
  rw [Function.update_of_ne (Nat.ne_of_lt taken)]

/-- What a step of a caller has to establish. -/
structure PoolStepKept (before : Pool) (moved : Caller × Pool) : Prop where
  grown : before.Grows moved.2
  bounded : moved.2.Bounded
  caller : moved.1.Matches moved.2

theorem poolStepKept_modify {pool : Pool} (bounded : pool.Bounded) {caller moved : Caller}
    (matched : caller.Matches pool) (entry : Nat) (change : PoolEntry → PoolEntry)
    (keeps : (change (pool.heap entry)).config = (pool.heap entry).config)
    (asked : moved.asked = caller.asked ∨ moved.asked = none) :
    PoolStepKept pool (moved, pool.modify entry change) := by
  have grown := pool.modify_grows entry change keeps
  refine ⟨grown, bounded, ?_⟩
  rcases asked with same | outside
  · intro held request asks
    exact matched.grow grown held request (same ▸ asks)
  · exact Caller.matches_of_asked_none _ outside

theorem moves_matches {options : PoolOptions} {pool after : Pool} (bounded : pool.Bounded)
    {caller moved : Caller} (matched : caller.Matches pool) {action : PoolAction}
    (agree : ∀ request, action = .get request → ∀ known,
      pool.entries request.key = some known → (pool.heap known).config = request.config)
    (made : pool.Moves options caller action moved after) : PoolStepKept pool (moved, after) := by
  have still : ∀ caller : Caller, caller.asked = none → PoolStepKept pool (caller, pool) :=
    fun caller outside => ⟨Pool.Grows.refl pool, bounded, Caller.matches_of_asked_none _ outside⟩
  have removed : ∀ (caller : Caller) (key : String), caller.asked = none →
      PoolStepKept pool (caller, pool.removed key) :=
    fun caller key outside => ⟨⟨le_refl _, fun _ _ => rfl⟩, bounded.remove key,
      Caller.matches_of_asked_none _ outside⟩
  cases made with
  | getRefused => exact still _ rfl
  | getKnown _ known =>
    refine ⟨Pool.Grows.refl pool, bounded, ?_⟩
    rintro held asked ⟨rfl, rfl⟩
    exact ⟨bounded _ _ known, agree _ rfl _ known⟩
  | getNew _ _ _ =>
    refine ⟨pool.added_grows _, bounded.add _, ?_⟩
    rintro held asked ⟨rfl, rfl⟩
    refine ⟨Nat.lt_succ_self _, ?_⟩
    dsimp only [Pool.added]
    rw [Function.update_self]
  | lock _ => exact poolStepKept_modify bounded matched _ _ rfl (Or.inl rfl)
  | connected => exact poolStepKept_modify bounded matched _ _ rfl (Or.inl rfl)
  | connectFailed => exact poolStepKept_modify bounded matched _ _ rfl (Or.inr rfl)
  | @evict entry request =>
    rcases pool.evict_cases request.key entry with ⟨_, evicted⟩ | ⟨_, kept⟩
    · rw [evicted]
      exact removed _ _ rfl
    · rw [kept]
      exact still _ rfl
  | discard => exact poolStepKept_modify bounded matched _ _ rfl (Or.inr rfl)
  | release => exact poolStepKept_modify bounded matched _ _ rfl (Or.inr rfl)
  | removeMissing => exact still _ rfl
  | remove _ => exact removed _ _ rfl
  | takeRemoved _ => exact poolStepKept_modify bounded matched _ _ rfl (Or.inr rfl)
  | disconnectRemoved => exact poolStepKept_modify bounded matched _ _ rfl (Or.inr rfl)
  | snapshot => exact still _ rfl
  | skip => exact still _ rfl
  | tryLock _ _ => exact poolStepKept_modify bounded matched _ _ rfl (Or.inr rfl)
  | sweep _ => exact poolStepKept_modify bounded matched _ _ rfl (Or.inr rfl)
  | spare _ => exact poolStepKept_modify bounded matched _ _ rfl (Or.inr rfl)
  | drop => exact removed _ _ rfl
  | finishSweep => exact still _ rfl
  | closeAgain => exact still _ rfl
  | close _ =>
    refine ⟨⟨le_refl _, fun _ _ => rfl⟩, ?_, Caller.matches_of_asked_none _ rfl⟩
    intro key entry found
    cases found

/-- The invariant of the pool. -/
structure PoolKept (state : PoolState) : Prop where
  bounded : state.pool.Bounded
  callers : ∀ caller, (state.callers caller).Matches state.pool

theorem PoolState.initial_kept : PoolKept .initial where
  bounded _ _ found := nomatch found
  callers _ := Caller.matches_of_asked_none _ rfl

theorem PoolState.step_kept {options : PoolOptions} {state after : PoolState} {label : PoolLabel}
    (kept : PoolKept state) (agree : KeysAgree state label) (fired : state.step options label = some after) :
    PoolKept after ∧ state.pool.Grows after.pool := by
  cases PoolState.moves_of_step fired with
  | @act caller action moved pool made =>
    have stepped : PoolStepKept state.pool (moved, pool) := by
      refine moves_matches kept.bounded (kept.callers caller) ?_ made
      rintro request rfl known present
      rw [KeysAgree, present] at agree
      exact agree
    refine ⟨⟨stepped.bounded, fun other => ?_⟩, stepped.grown⟩
    dsimp only
    by_cases same : other = caller
    · rw [same, Function.update_self]
      exact stepped.caller
    · rw [Function.update_of_ne same]
      exact (kept.callers other).grow stepped.grown
  | @closerLock key entry _ _ =>
    have grown := state.pool.modify_grows entry (fun held => { held with locked := true }) rfl
    exact ⟨⟨kept.bounded, fun other => (kept.callers other).grow ⟨grown.fresh, grown.config⟩⟩, grown.fresh, grown.config⟩
  | @closerDisconnect key entry _ =>
    have grown := state.pool.modify_grows entry
      (fun held => { held with connected := false, locked := false }) rfl
    exact ⟨⟨kept.bounded, fun other => (kept.callers other).grow ⟨grown.fresh, grown.config⟩⟩, grown.fresh, grown.config⟩

theorem Caller.asked_of_update {callers : Nat → Caller} {caller other : Nat} {moved : Caller}
    {asked : Option (Nat × PoolRequest)}
    (waits : (Function.update callers caller moved other).asked = asked) :
    (other = caller ∧ moved.asked = asked) ∨ (other ≠ caller ∧ (callers other).asked = asked) := by
  rcases Runs.update_cases (rfl : Function.update callers caller moved other = _) with
    ⟨same, found⟩ | ⟨apart, found⟩
  · exact Or.inl ⟨same, found ▸ waits⟩
  · exact Or.inr ⟨apart, found ▸ waits⟩

/-- What a step leaves alone that is no `Get`: no address is taken, no key leads to another entry, and nobody asks. -/
structure PoolState.Unasked (before after : PoolState) : Prop where
  fresh : after.pool.fresh = before.pool.fresh
  entries : ∀ key entry, after.pool.entries key = some entry → before.pool.entries key = some entry
  asked : ∀ caller entry request, (after.callers caller).asked = some (entry, request) →
    (before.callers caller).asked = some (entry, request)

theorem PoolState.unasked_of_step {options : PoolOptions} {state after : PoolState} {label : PoolLabel}
    (unasked : ∀ caller request, label ≠ .act caller (.get request))
    (fired : state.step options label = some after) : state.Unasked after := by
  cases PoolState.moves_of_step fired with
  | @act caller action moved pool made =>
    have other : ∀ request, action ≠ .get request :=
      fun request same => unasked caller request (congrArg _ same)
    refine ⟨made.fresh_eq other, fun key entry leads => ?_, fun party entry request waits => ?_⟩
    · rcases made.entries leads with before | ⟨request, asks, -⟩
      · exact before
      · exact absurd asks (other request)
    · rcases Caller.asked_of_update waits with ⟨rfl, answer⟩ | ⟨-, before⟩
      · exact (made.asked answer).resolve_right (other request)
      · exact before
  | closerLock => exact ⟨rfl, fun _ _ leads => leads, fun _ _ _ waits => waits⟩
  | closerDisconnect => exact ⟨rfl, fun _ _ leads => leads, fun _ _ _ waits => waits⟩

/-- The destination of a pipeline. -/
def ordersRow : Connection :=
  { id := "out", tenantID := "a", type := "rabbitmq", url := "amqp://old", queueName := "orders" }

end MqConnector
