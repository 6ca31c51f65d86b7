/-
This file asks whether a connector the pool has handed out is its caller's
alone. `Get` promises it ("locked for the caller's exclusive use until they call
Release").

Every path but one calls the connector under that mutex. A `Get` whose `Connect`
fails unlocks first, evicts the key and only then disconnects.
-/

import MqConnector.Locks
import MqConnector.Pool
import Mathlib.Data.Set.Basic

namespace MqConnector

/-! ### Broker calls -/

/-- The entry whose connector the action calls `Connect`, `Ping` or `Disconnect` on. -/
def Caller.calls : Caller → PoolAction → Option Nat
  | .connecting entry _, .connect _ => some entry
  | .discarding entry, .discard => some entry
  | .disconnecting entry, .disconnectRemoved => some entry
  | .checking _ _ _ entry, .check _ => some entry
  | _, _ => none

/-- A goroutine: a caller of the pool, or the one `Close` started for a key. -/
abbrev Goroutine : Type := Nat ⊕ String

def PoolLabel.goroutine : PoolLabel → Goroutine
  | .act caller _ => .inl caller
  | .closerLock key | .closerDisconnect key => .inr key

/-- The entry whose connector the step calls. -/
def PoolState.calls (state : PoolState) : PoolLabel → Option Nat
  | .act caller action => (state.callers caller).calls action
  | .closerLock _ => none
  | .closerDisconnect key => (state.pool.closers key).map Prod.fst

/-- While a caller holds a connector, no other goroutine can make a broker call on it. -/
def PoolExclusive (options : PoolOptions) (state : PoolState) : Prop :=
  ∀ label after entry holder request, state.step options label = some after →
    state.calls label = some entry → state.callers holder = .holding entry request →
    label.goroutine = .inl holder

/-! ### Who has to disconnect -/

/-- The entry a `Get` that could not connect still has to disconnect. -/
def Caller.discards : Caller → Option Nat
  | .evicting entry _ | .discarding entry => some entry
  | _ => none

/-- The condition on a step: a `Connect` succeeds only on an entry that no other `Get`, whose own
`Connect` failed, still has to disconnect. -/
def ConnectsAlone (state : PoolState) : PoolLabel → Prop
  | .act caller (.connect true) => ∀ entry request other,
    state.callers caller = .connecting entry request → (state.callers other).discards ≠ some entry
  | _ => True

/-! ### The mutexes -/

def Caller.owned : Caller → Option Nat
  | .connecting entry _ | .holding entry _ | .disconnecting entry | .checking _ _ _ entry =>
    some entry
  | _ => none

def Pool.locks (pool : Pool) (entry : Nat) : Bool :=
  (pool.heap entry).locked

/-- The entry whose mutex a goroutine of `Close` holds. -/
def closerOwned : Option (Nat × Bool) → Option Nat
  | some (entry, true) => some entry
  | _ => none

/-- The entry whose mutex a goroutine holds. -/
def PoolState.holds (state : PoolState) : Goroutine → Option Nat
  | .inl caller => (state.callers caller).owned
  | .inr key => closerOwned (state.pool.closers key)

theorem closing_of_closerOwned {closing : Option (Nat × Bool)} {entry : Nat}
    (owned : closerOwned closing = some entry) : closing = some (entry, true) := by
  unfold closerOwned at owned
  split at owned
  · rw [Option.some_inj] at owned
    rw [owned]
  · cases owned

theorem Pool.modify_locks (pool : Pool) (entry : Nat) (change : PoolEntry → PoolEntry) :
    (pool.modify entry change).locks =
      Function.update pool.locks entry (change (pool.heap entry)).locked := by
  funext other
  by_cases same : other = entry
  · rw [same, Function.update_self, Pool.locks, Pool.modify]
    dsimp only
    rw [Function.update_self]
  · rw [Function.update_of_ne same, Pool.locks, Pool.modify]
    dsimp only
    rw [Function.update_of_ne same]
    rfl

theorem Pool.modify_locks_of_same (pool : Pool) (entry : Nat) (change : PoolEntry → PoolEntry)
    (same : (change (pool.heap entry)).locked = (pool.heap entry).locked) :
    (pool.modify entry change).locks = pool.locks := by
  rw [pool.modify_locks, same]
  exact Function.update_eq_self entry pool.locks

theorem Pool.added_locks (pool : Pool) (request : PoolRequest) :
    (pool.added request).locks = Function.update pool.locks pool.fresh false := by
  funext other
  by_cases same : other = pool.fresh
  · rw [same, Function.update_self, Pool.locks, Pool.added]
    dsimp only
    rw [Function.update_self]
  · rw [Function.update_of_ne same, Pool.locks, Pool.added]
    dsimp only
    rw [Function.update_of_ne same]
    rfl

theorem Pool.evict_locks (pool : Pool) (key : String) (entry : Nat) :
    (pool.evict key entry).locks = pool.locks := by
  rcases pool.evict_cases key entry with ⟨_, evicted⟩ | ⟨_, kept⟩
  · rw [evicted]
    rfl
  · rw [kept]

theorem Pool.Moves.exclusive {options : PoolOptions} {pool after : Pool} {caller moved : Caller}
    {action : PoolAction} (made : pool.Moves options caller action moved after)
    {holds : Goroutine → Option Nat} {party : Goroutine} (owns : holds party = caller.owned)
    (known : ∀ other, holds other ≠ some pool.fresh)
    (exclusive : Locks.Exclusive holds pool.locks) :
    Locks.Exclusive (Function.update holds party moved.owned) after.locks := by
  -- a step that changes neither what the caller owns nor a mutex
  have still : ∀ (next : Caller) (later : Pool), next.owned = caller.owned →
      later.locks = pool.locks →
      Locks.Exclusive (Function.update holds party next.owned) later.locks := by
    intro next later sameOwned sameLocks
    rw [sameOwned, sameLocks, ← owns, Function.update_eq_self]
    exact exclusive
  cases made with
  | getRefused => exact still _ _ rfl rfl
  | getKnown _ _ => exact still _ _ rfl rfl
  | getNew _ _ _ =>
    have unowned : Function.update holds party none = holds := by
      rw [show (none : Option Nat) = holds party from owns.symm, Function.update_eq_self]
    show Locks.Exclusive (Function.update holds party none) _
    rw [unowned, Pool.added_locks]
    exact exclusive.unflag known
  | lock free =>
    rw [Pool.modify_locks]
    exact exclusive.acquire free
  | connected => exact still _ _ rfl (pool.modify_locks_of_same _ _ rfl)
  | connectFailed =>
    rw [Pool.modify_locks]
    exact exclusive.release owns
  | evict => exact still _ _ rfl (pool.evict_locks _ _)
  | discard => exact still _ _ rfl (pool.modify_locks_of_same _ _ rfl)
  | release =>
    rw [Pool.modify_locks]
    exact exclusive.release owns
  | removeMissing => exact still _ _ rfl rfl
  | remove _ => exact still _ _ rfl rfl
  | takeRemoved free =>
    rw [Pool.modify_locks]
    exact exclusive.acquire free
  | disconnectRemoved =>
    rw [Pool.modify_locks]
    exact exclusive.release owns
  | snapshot => exact still _ _ rfl rfl
  | skip => exact still _ _ rfl rfl
  | tryLock _ free =>
    rw [Pool.modify_locks]
    exact exclusive.acquire free
  | sweep _ =>
    rw [Pool.modify_locks]
    exact exclusive.release owns
  | spare _ =>
    rw [Pool.modify_locks]
    exact exclusive.release owns
  | drop => exact still _ _ rfl rfl
  | finishSweep => exact still _ _ rfl rfl
  | closeAgain => exact still _ _ rfl rfl
  | close _ => exact still _ _ rfl rfl

/-! ### Addresses -/

/-- The addresses a caller still refers to. -/
def Caller.names : Caller → Set Nat
  | .idle => ∅
  | .waiting entry _ | .connecting entry _ | .evicting entry _ | .discarding entry
  | .holding entry _ | .removing entry | .disconnecting entry => {entry}
  | .sweeping _ todo | .dropping _ todo _ => {entry | ∃ key, todo key = some entry}
  | .checking _ todo _ entry => insert entry {other | ∃ key, todo key = some other}

/-- Every address in use is taken. -/
structure PoolNamed (state : PoolState) : Prop where
  bounded : state.pool.Bounded
  callers : ∀ caller, ∀ entry ∈ (state.callers caller).names, entry < state.pool.fresh
  closers : ∀ key entry locks, state.pool.closers key = some (entry, locks) →
    entry < state.pool.fresh

theorem Caller.mem_names_of_owned {caller : Caller} {entry : Nat} (owns : caller.owned = some entry) :
    entry ∈ caller.names := by
  cases caller with
  | connecting | holding | disconnecting =>
    rw [Caller.owned, Option.some_inj] at owns
    exact owns.symm
  | checking =>
    rw [Caller.owned, Option.some_inj] at owns
    exact Or.inl owns.symm
  | _ => cases owns

theorem PoolNamed.holds_ne_fresh {state : PoolState} (named : PoolNamed state)
    (party : Goroutine) : state.holds party ≠ some state.pool.fresh := by
  intro held
  cases party with
  | inl caller =>
    exact lt_irrefl _ (named.callers caller _ (Caller.mem_names_of_owned held))
  | inr key =>
    exact lt_irrefl _ (named.closers key _ true (closing_of_closerOwned held))

namespace Pool.Moves

variable {options : PoolOptions} {pool after : Pool} {caller moved : Caller} {action : PoolAction}

theorem names (made : pool.Moves options caller action moved after) (bounded : pool.Bounded)
    (before : ∀ entry ∈ caller.names, entry < pool.fresh) :
    ∀ entry ∈ moved.names, entry < after.fresh := by
  have struck : ∀ (todo : String → Option Nat) (key : String) (entry : Nat),
      (∃ other, Function.update todo key none other = some entry) →
      ∃ other, todo other = some entry := by
    rintro todo key entry ⟨other, listed⟩
    by_cases same : other = key
    · rw [same, Function.update_self] at listed
      cases listed
    · rw [Function.update_of_ne same] at listed
      exact ⟨other, listed⟩
  intro entry named
  cases made with
  | getKnown _ known =>
    rw [show entry = _ from named]
    exact bounded _ _ known
  | getNew _ _ _ =>
    rw [show entry = _ from named]
    exact Nat.lt_succ_self _
  | @evict held request =>
    rw [Pool.evict_fresh]
    exact before entry named
  | remove known =>
    rw [show entry = _ from named]
    exact bounded _ _ known
  | snapshot =>
    obtain ⟨key, listed⟩ := named
    exact bounded key entry listed
  | skip => exact before entry (struck _ _ entry named)
  | tryLock listed _ =>
    rcases named with rfl | rest
    · exact before entry ⟨_, listed⟩
    · exact before entry (struck _ _ entry rest)
  | sweep _ => exact before entry (Or.inr named)
  | spare _ => exact before entry (Or.inr named)
  | lock _ | connected | connectFailed | takeRemoved _ | drop => exact before entry named
  | getRefused | discard | release | removeMissing | disconnectRemoved | finishSweep
  | closeAgain | close _ => exact absurd named (Set.notMem_empty entry)

end Pool.Moves

theorem PoolNamed.step {options : PoolOptions} {state after : PoolState} {label : PoolLabel}
    (named : PoolNamed state) (moved : state.Moves options label after) : PoolNamed after := by
  cases moved with
  | @act caller action next pool made =>
    refine ⟨made.bounded named.bounded, fun other entry mentioned => ?_,
      fun key entry locks closing => ?_⟩
    · dsimp only at mentioned ⊢
      by_cases same : other = caller
      · rw [same, Function.update_self] at mentioned
        exact made.names named.bounded (named.callers caller) entry mentioned
      · rw [Function.update_of_ne same] at mentioned
        exact lt_of_lt_of_le (named.callers other entry mentioned) made.fresh_le
    · rcases made.closers closing with before | ⟨led, _⟩
      · exact lt_of_lt_of_le (named.closers key entry locks before) made.fresh_le
      · exact lt_of_lt_of_le (named.bounded key entry led) made.fresh_le
  | @closerLock key entry closing _ =>
    refine ⟨named.bounded, named.callers, fun other held locks closes => ?_⟩
    by_cases same : other = key
    · dsimp only at closes
      rw [same, Function.update_self] at closes
      cases closes
      exact named.closers key entry false closing
    · dsimp only at closes
      rw [Function.update_of_ne same] at closes
      exact named.closers other held locks closes
  | @closerDisconnect key entry _ =>
    refine ⟨named.bounded, named.callers, fun other held locks closes => ?_⟩
    by_cases same : other = key
    · dsimp only at closes
      rw [same, Function.update_self] at closes
      cases closes
    · dsimp only at closes
      rw [Function.update_of_ne same] at closes
      exact named.closers other held locks closes

/-! ### The invariant -/

/-- The invariant: the mutexes are exclusive, and what a caller holds no failed `Get` is still to
disconnect. -/
structure PoolGuarded (state : PoolState) : Prop where
  named : PoolNamed state
  exclusive : Locks.Exclusive state.holds state.pool.locks
  alone : ∀ holder other entry request, state.callers holder = .holding entry request →
    (state.callers other).discards ≠ some entry

theorem PoolState.initial_guarded : PoolGuarded .initial where
  named := by
    refine ⟨fun key entry found => ?_, fun caller entry mentioned => ?_,
      fun key entry locks closing => ?_⟩
    · cases found
    · exact absurd mentioned (Set.notMem_empty entry)
    · cases closing
  exclusive := by
    refine (Locks.exclusive_none _).mono (fun party lock held => ?_) fun _ flagged => flagged
    cases party with
    | inl caller => cases held
    | inr key => cases held
  alone holder other entry request held := by cases held

theorem PoolState.holds_act (state : PoolState) {options : PoolOptions} {caller : Nat}
    {action : PoolAction} {moved : Caller} {pool : Pool}
    (made : state.pool.Moves options (state.callers caller) action moved pool)
    (party : Goroutine) (entry : Nat)
    (held : PoolState.holds
      { pool := pool, callers := Function.update state.callers caller moved } party = some entry) :
    Function.update state.holds (.inl caller) moved.owned party = some entry := by
  cases party with
  | inl other =>
    by_cases same : other = caller
    · rw [same, Function.update_self]
      rw [same, PoolState.holds] at held
      dsimp only at held
      rw [Function.update_self] at held
      exact held
    · have different : (Sum.inl other : Goroutine) ≠ .inl caller := by
        intro equal
        injection equal
        exact same ‹_›
      rw [Function.update_of_ne different]
      rw [PoolState.holds] at held
      dsimp only at held
      rw [Function.update_of_ne same] at held
      exact held
  | inr key =>
    rw [Function.update_of_ne Sum.inr_ne_inl]
    rcases made.closers (closing_of_closerOwned held) with before | ⟨_, unlocked⟩
    · rw [PoolState.holds, before]
      rfl
    · cases unlocked

theorem PoolState.holds_closer (state : PoolState) (heap : Nat → PoolEntry) (key : String)
    (closing : Option (Nat × Bool)) :
    PoolState.holds { state with pool :=
      { state.pool with
        heap := heap
        closers := Function.update state.pool.closers key closing } } =
      Function.update state.holds (.inr key) (closerOwned closing) := by
  funext party
  cases party with
  | inl caller =>
    rw [Function.update_of_ne Sum.inl_ne_inr]
    rfl
  | inr other =>
    rw [PoolState.holds]
    dsimp only
    by_cases same : other = key
    · rw [same, Function.update_self, Function.update_self]
    · have different : (Sum.inr other : Goroutine) ≠ .inr key := by
        intro equal
        injection equal
        exact same ‹_›
      rw [Function.update_of_ne same, Function.update_of_ne different]
      rfl

theorem Pool.Moves.holding {options : PoolOptions} {pool after : Pool} {caller : Caller}
    {action : PoolAction} {entry : Nat} {request : PoolRequest}
    (made : pool.Moves options caller action (.holding entry request) after) :
    caller = .connecting entry request ∧ action = .connect true := by
  cases made with
  | connected => exact ⟨rfl, rfl⟩

theorem Pool.Moves.discards {options : PoolOptions} {pool after : Pool} {caller moved : Caller}
    {action : PoolAction} {entry : Nat} (made : pool.Moves options caller action moved after)
    (discards : moved.discards = some entry) :
    caller.discards = some entry ∨ caller.owned = some entry := by
  cases made with
  | connectFailed => exact Or.inr discards
  | evict => exact Or.inl discards
  | _ => cases discards

/-- Every permitted step keeps the guard. -/
theorem PoolGuarded.step {options : PoolOptions} {state after : PoolState} {label : PoolLabel}
    (guarded : PoolGuarded state) (permitted : ConnectsAlone state label)
    (moved : state.Moves options label after) : PoolGuarded after := by
  have named := guarded.named.step moved
  cases moved with
  | @act caller action next pool made =>
    refine ⟨named, ?_, fun holder other entry request held discards => ?_⟩
    · have owns : state.holds (.inl caller) = (state.callers caller).owned := rfl
      have stepped := made.exclusive owns guarded.named.holds_ne_fresh guarded.exclusive
      exact stepped.mono (state.holds_act made) fun _ flagged => flagged
    · dsimp only at held discards
      by_cases holds : holder = caller
      · -- the mover has just connected
        rw [holds, Function.update_self] at held
        rw [held] at made
        obtain ⟨connecting, connected⟩ := made.holding
        by_cases moves : other = caller
        · rw [moves, Function.update_self, held] at discards
          cases discards
        · rw [Function.update_of_ne moves] at discards
          rw [connected] at permitted
          exact permitted entry request other connecting discards
      · rw [Function.update_of_ne holds] at held
        by_cases moves : other = caller
        · rw [moves, Function.update_self] at discards
          rcases made.discards discards with before | owned
          · exact guarded.alone holder caller entry request held before
          · have owns : state.holds (.inl holder) = some entry := by
              rw [PoolState.holds, held]
              rfl
            have same : (Sum.inl holder : Goroutine) = .inl caller :=
              guarded.exclusive.single owns owned
            injection same
            exact holds ‹_›
        · rw [Function.update_of_ne moves] at discards
          exact guarded.alone holder other entry request held discards
  | @closerLock key entry closing free =>
    refine ⟨named, ?_, guarded.alone⟩
    have taken : Locks.Exclusive (Function.update state.holds (.inr key) (some entry))
        (Function.update state.pool.locks entry true) := guarded.exclusive.acquire free
    have locked := state.pool.modify_locks entry fun held => { held with locked := true }
    have holds := state.holds_closer
      (state.pool.modify entry fun held => { held with locked := true }).heap key
      (some (entry, true))
    exact (locked.symm ▸ holds.symm ▸ taken :)
  | @closerDisconnect key entry closing =>
    refine ⟨named, ?_, guarded.alone⟩
    have held : state.holds (.inr key) = some entry := by
      rw [PoolState.holds, closing]
      rfl
    have given := guarded.exclusive.release held
    have locked := state.pool.modify_locks entry
      fun held => { held with connected := false, locked := false }
    have holds := state.holds_closer
      (state.pool.modify entry fun held => { held with connected := false, locked := false }).heap
      key none
    exact (locked.symm ▸ holds.symm ▸ given :)

/-! ### Exclusive use -/

theorem Caller.owned_or_discards_of_calls {caller : Caller} {action : PoolAction} {entry : Nat}
    (calls : caller.calls action = some entry) :
    caller.owned = some entry ∨ caller.discards = some entry := by
  unfold Caller.calls at calls
  split at calls
  · exact Or.inl calls
  · exact Or.inr calls
  · exact Or.inl calls
  · exact Or.inl calls
  · cases calls

/-- A guarded pool is exclusive. -/
theorem PoolGuarded.poolExclusive {options : PoolOptions} {state : PoolState}
    (guarded : PoolGuarded state) : PoolExclusive options state := by
  intro label after entry holder request fired calls held
  have owns : state.holds (.inl holder) = some entry := by
    rw [PoolState.holds, held]
    rfl
  cases PoolState.moves_of_step fired with
  | @act caller action next pool made =>
    rcases Caller.owned_or_discards_of_calls calls with owned | discards
    · exact guarded.exclusive.single owned owns
    · exact absurd discards (guarded.alone holder caller entry request held)
  | closerLock _ _ => cases calls
  | @closerDisconnect key address closing =>
    rw [PoolState.calls, closing] at calls
    have owned : state.holds (.inr key) = some entry := by
      rw [PoolState.holds, closing]
      exact calls
    exact guarded.exclusive.single owned owns

theorem not_poolExclusive_of_discarding (options : PoolOptions) {state : PoolState}
    {holder other entry : Nat} {request : PoolRequest}
    (held : state.callers holder = .holding entry request)
    (discarding : state.callers other = .discarding entry) : ¬ PoolExclusive options state := by
  intro exclusive
  have calls : state.calls (.act other .discard) = some entry := by
    rw [PoolState.calls, discarding]
    rfl
  have fired : state.step options (.act other .discard) =
      some { pool := state.pool.modify entry fun held => { held with connected := false },
             callers := Function.update state.callers other .idle } := by
    rw [PoolState.step, discarding]
    rfl
  have same : (Sum.inl other : Goroutine) = .inl holder :=
    exclusive _ _ entry holder request fired calls held
  injection same with same
  rw [same, held] at discarding
  cases discarding

/-- A goroutine about to discard an entry that another holds breaks the law. -/
theorem not_poolExclusive_of_discards (options : PoolOptions) {state : PoolState}
    (holder other : Nat) {entry : Nat} {request : PoolRequest}
    (held : state.callers holder = .holding entry request)
    (discards : (state.callers other).discards = some entry) :
    ∃ later, Runs.Reachable (PoolState.step options) state later ∧
      ¬ PoolExclusive options later := by
  cases position : state.callers other with
  | discarding address =>
    rw [position] at discards
    cases discards
    exact ⟨state, .start, not_poolExclusive_of_discarding options held position⟩
  | evicting address asked =>
    rw [position] at discards
    cases discards
    have different : holder ≠ other := by
      rintro rfl
      rw [held] at position
      cases position
    have fired : state.step options (.act other .evict) =
        some { pool := state.pool.evict asked.key entry,
               callers := Function.update state.callers other (.discarding entry) } := by
      rw [PoolState.step, position]
      rfl
    have holds : Function.update state.callers other (.discarding entry) holder =
        .holding entry request := by
      rw [Function.update_of_ne different]
      exact held
    exact ⟨_, .next .start trivial fired,
      not_poolExclusive_of_discarding options holds (Function.update_self other _ _)⟩
  | _ =>
    rw [position] at discards
    cases discards

/-- In every run in which a `Connect` succeeds only on entries no failed `Get` is still to
disconnect, a connector in use is its caller's alone; and from any other successful `Connect` the
pool can go on to disconnect it under its caller. -/
theorem pool_exclusive_iff_connects_alone (options : PoolOptions) :
    (∀ state, Runs.Reaches (PoolState.step options) ConnectsAlone .initial state →
      PoolExclusive options state) ∧
    ∀ state label after, ¬ ConnectsAlone state label →
      state.step options label = some after →
      ∃ later, Runs.Reachable (PoolState.step options) after later ∧
        ¬ PoolExclusive options later := by
  constructor
  · intro state reached
    have guarded := reached.invariant PoolGuarded PoolState.initial_guarded
      fun _ _ _ guarded permitted fired =>
        guarded.step permitted (PoolState.moves_of_step fired)
    exact guarded.poolExclusive
  · intro state label after broken fired
    unfold ConnectsAlone at broken
    split at broken
    · rename_i caller
      push Not at broken
      obtain ⟨entry, request, other, connecting, discards⟩ := broken
      have different : other ≠ caller := by
        rintro rfl
        rw [connecting] at discards
        cases discards
      rw [PoolState.step, connecting] at fired
      cases fired
      refine not_poolExclusive_of_discards options caller other (Function.update_self _ _ _) ?_
      dsimp only
      rw [Function.update_of_ne different]
      exact discards
    · exact absurd trivial broken

/-- Two calls ask for one key; the first cannot connect, and before it gets to evict and disconnect
the entry the second, which was waiting for it, connects. -/
def failedThenConnected : List PoolLabel :=
  [.act 0 (.get { key := "dest-p", config := ordersRow.toConfig }),
    .act 1 (.get { key := "dest-p", config := ordersRow.toConfig }),
    .act 0 (.lock 0), .act 0 (.connect false), .act 1 (.lock 1), .act 1 (.connect true),
    .act 0 .evict]

/-- The second call holds the connector and the first is about to disconnect it. -/
theorem waiting_get_disturbed :
    ∃ state, Runs.Reachable (PoolState.step {}) .initial state ∧
      state.callers 1 = .holding 0 { key := "dest-p", config := ordersRow.toConfig } ∧
      state.callers 0 = .discarding 0 ∧ ¬ PoolExclusive {} state := by
  obtain ⟨state, reached, held, discarding⟩ :
      ∃ state, Runs.Reachable (PoolState.step {}) .initial state ∧
        state.callers 1 = .holding 0 { key := "dest-p", config := ordersRow.toConfig } ∧
        state.callers 0 = .discarding 0 :=
    ⟨_, Runs.reaches_of_exec (PoolState.step {}) (fun _ _ => True) failedThenConnected rfl, rfl, rfl⟩
  exact ⟨state, reached, held, discarding, not_poolExclusive_of_discarding {} held discarding⟩

/-- No `Connect` succeeds. -/
def NoConnect (_ : PoolState) : PoolLabel → Bool
  | .act _ (.connect true) => false
  | _ => true

/-- The first call cannot connect and disconnects its entry, the second is about to connect a new one, and the third
waits for that. -/
def failedThenAnew : List PoolLabel :=
  [.act 0 (.get { key := "dest-p", config := ordersRow.toConfig }), .act 0 (.lock 0), .act 0 (.connect false),
    .act 0 .evict, .act 0 .discard, .act 1 (.get { key := "dest-p", config := ordersRow.toConfig }),
    .act 1 (.lock 0), .act 2 (.get { key := "dest-p", config := ordersRow.toConfig })]

/-- A sweep that finds the entry locked. -/
def sweepBeside : List PoolLabel :=
  [.act 3 (.snapshot 600000000000), .act 3 (.tryLock "dest-p"), .act 3 .finishSweep]

theorem connectsAlone_of_noConnect {state last : PoolState} (reached : Runs.Reaches (PoolState.step {})
    (fun state label => NoConnect state label = true) state last) :
    Runs.Reaches (PoolState.step {}) ConnectsAlone state last :=
  reached.mono fun state label _ quiet => by
    unfold ConnectsAlone
    split
    · cases quiet
    · trivial

/-- After a `Connect` that failed, beside a waiting call and a sweep, the next `Get` has its connector to itself. -/
theorem anew_get_exclusive :
    ∃ state, state.callers 1 = .holding 1 { key := "dest-p", config := ordersRow.toConfig } ∧
      state.callers 2 = .waiting 1 { key := "dest-p", config := ordersRow.toConfig } ∧ PoolExclusive {} state := by
  have failed : Runs.Reaches (PoolState.step {}) ConnectsAlone .initial _ := connectsAlone_of_noConnect
    (Runs.reaches_of_exec (PoolState.step {}) (fun state label => NoConnect state label = true) failedThenAnew rfl)
  have connected : Runs.Reaches (PoolState.step {}) ConnectsAlone .initial _ :=
    .next failed (show ConnectsAlone _ (.act 1 (.connect true)) from fun entry request other _ discards => by
      match other with
      | 0 | 1 | 2 => cases discards
      | _ + 3 => cases discards) rfl
  have swept : Runs.Reaches (PoolState.step {}) ConnectsAlone .initial _ := connected.trans (connectsAlone_of_noConnect
    (Runs.reaches_of_exec (PoolState.step {}) (fun state label => NoConnect state label = true) sweepBeside rfl))
  exact ⟨_, rfl, rfl, (pool_exclusive_iff_connects_alone {}).1 _ swept⟩

end MqConnector
