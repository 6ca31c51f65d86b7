/-
This file asks whether the pool loses connectors. A connected one that no key
leads to is never pinged, swept or closed again, so when nobody is inside the
pool every connected connector should be the one its key leads to.

Three windows break that. `Get` looks its entry up under the pool's mutex and
connects it later under the entry's own, and by then the key can be gone: to a
`Release`, to a sweep, to a failed `Get` or to `Close`. A sweep disconnects an
entry, unlocks it and then deletes the key whatever it leads to by then, where
the failed `Get` compares.

The trace beside the machine records in `madeFor` the key an entry was created
under, and in `swept` the entry a sweep disconnected last.
-/

import MqConnector.Pool

namespace MqConnector

/-! ### The traced pool -/

structure TracedPool where
  state : PoolState
  madeFor : Nat → String
  swept : Nat → Nat

namespace TracedPool

def initial : TracedPool where
  state := .initial
  madeFor := fun _ => ""
  swept := fun _ => 0

/-- The trace of a step. A `Get` marks the next free address with its key: the entry it creates, if
it creates one, is there. -/
def record (traced : TracedPool) (label : PoolLabel) (after : PoolState) : TracedPool where
  state := after
  madeFor := match label with
    | .act _ (.get request) =>
      Function.update traced.madeFor traced.state.pool.fresh request.key
    | _ => traced.madeFor
  swept := match label with
    | .act caller (.check _) =>
      match traced.state.callers caller with
      | .checking _ _ _ entry => Function.update traced.swept caller entry
      | _ => traced.swept
    | _ => traced.swept

def step (options : PoolOptions) (traced : TracedPool) (label : PoolLabel) : Option TracedPool :=
  (traced.state.step options label).map (traced.record label)

end TracedPool

/-! ### Connectors and their keys -/

/-- Nobody is inside the pool and nobody holds a connector. -/
def PoolState.Quiet (state : PoolState) : Prop :=
  (∀ caller, state.callers caller = .idle) ∧ ∀ key, state.pool.closers key = none

def Caller.drops : Caller → Option String
  | .dropping _ _ key => some key
  | _ => none

/-- The pool loses and doubles no connector. When nobody is inside, a connected connector is the
one stored under its key, a key has one connected connector, and a closed pool has none; and a
sweep that is about to delete a key deletes no entry but the one it disconnected. -/
structure PoolTidy (traced : TracedPool) : Prop where
  stored : traced.state.Quiet → ∀ entry, (traced.state.pool.heap entry).connected = true →
    traced.state.pool.entries (traced.madeFor entry) = some entry
  single : traced.state.Quiet → ∀ first second,
    (traced.state.pool.heap first).connected = true →
    (traced.state.pool.heap second).connected = true →
    traced.madeFor first = traced.madeFor second → first = second
  swept : ∀ sweeper key entry, (traced.state.callers sweeper).drops = some key →
    traced.state.pool.entries key = some entry → entry = traced.swept sweeper
  closed : traced.state.Quiet → traced.state.pool.stopped = true →
    ∀ entry, (traced.state.pool.heap entry).connected = false

/-- The entry the caller is going to disconnect before it is done. -/
def Caller.disconnects : Caller → Option Nat
  | .evicting entry _ | .discarding entry | .removing entry | .disconnecting entry => some entry
  | _ => none

/-- Some call already under way is going to disconnect the entry. -/
def PoolState.Pending (state : PoolState) (entry : Nat) : Prop :=
  (∃ caller, (state.callers caller).disconnects = some entry) ∨
    ∃ key locks, state.pool.closers key = some (entry, locks)

/-- The entry's key leads to it, and no sweep is about to delete the key. -/
def TracedPool.Kept (traced : TracedPool) (entry : Nat) : Prop :=
  traced.state.pool.entries (traced.madeFor entry) = some entry ∧
    ∀ sweeper, (traced.state.callers sweeper).drops ≠ some (traced.madeFor entry)

/-- The condition on a step. A `Get` creates no entry under a key a sweep is about to delete. A
`Connect` succeeds only on an entry whose key still leads to it with no sweep about to delete the
key, or which a call under way is going to disconnect. A sweep that disconnects an entry finds the
key leading to that entry or to none. -/
def TracedPool.Orderly (options : PoolOptions) (traced : TracedPool) : PoolLabel → Prop
  | .act _ (.get request) =>
    traced.state.pool.stopped = false → traced.state.pool.entries request.key = none →
    options.builds request.config = true →
    ∀ sweeper, (traced.state.callers sweeper).drops ≠ some request.key
  | .act caller (.connect true) => ∀ entry request,
    traced.state.callers caller = .connecting entry request →
    traced.Kept entry ∨ traced.state.Pending entry
  | .act caller (.check pingSucceeds) => ∀ now todo key entry,
    traced.state.callers caller = .checking now todo key entry →
    (traced.state.pool.sweepEntry options entry now pingSucceeds).1 = true →
    ∀ known, traced.state.pool.entries key = some known → known = entry
  | _ => True

/-! ### The invariant -/

/-- The invariant. -/
structure TracedPool.Sound (traced : TracedPool) : Prop where
  bounded : traced.state.pool.Bounded
  keyed : ∀ key entry, traced.state.pool.entries key = some entry → traced.madeFor entry = key
  live : ∀ entry, (traced.state.pool.heap entry).connected = true →
    traced.Kept entry ∨ traced.state.Pending entry
  swept : ∀ sweeper key entry, (traced.state.callers sweeper).drops = some key →
    traced.state.pool.entries key = some entry → entry = traced.swept sweeper
  running : traced.state.pool.stopped = false → ∀ key, traced.state.pool.closers key = none
  stopped : traced.state.pool.stopped = true → ∀ key, traced.state.pool.entries key = none

theorem TracedPool.initial_sound : TracedPool.Sound .initial where
  bounded key entry found := by cases found
  keyed key entry found := by cases found
  live entry connected := by cases connected
  swept sweeper key entry drops := by cases drops
  running _ _ := rfl
  stopped stopped := by cases stopped

theorem PoolState.Quiet.not_pending {state : PoolState} (quiet : state.Quiet) (entry : Nat) :
    ¬ state.Pending entry := by
  rintro (⟨caller, disconnects⟩ | ⟨key, locks, closing⟩)
  · rw [quiet.1 caller] at disconnects
    cases disconnects
  · rw [quiet.2 key] at closing
    cases closing

/-- A sound trace is tidy. -/
theorem TracedPool.Sound.poolTidy {traced : TracedPool} (sound : traced.Sound) :
    PoolTidy traced := by
  have stored : traced.state.Quiet → ∀ entry, (traced.state.pool.heap entry).connected = true →
      traced.state.pool.entries (traced.madeFor entry) = some entry := by
    intro quiet entry connected
    rcases sound.live entry connected with kept | pending
    · exact kept.1
    · exact absurd pending (quiet.not_pending entry)
  refine ⟨stored, fun quiet first second connectedFirst connectedSecond same => ?_, sound.swept,
    fun quiet stopped entry => ?_⟩
  · have firstStored := stored quiet first connectedFirst
    rw [same, stored quiet second connectedSecond, Option.some_inj] at firstStored
    exact firstStored.symm
  · rw [← Bool.not_eq_true]
    intro connected
    have known := stored quiet entry connected
    rw [sound.stopped stopped] at known
    cases known

/-! ### What a step leaves as it was -/

theorem Pool.connected_modify (pool : Pool) (entry : Nat) (change : PoolEntry → PoolEntry)
    (keeps : (change (pool.heap entry)).connected = (pool.heap entry).connected) (other : Nat) :
    ((pool.modify entry change).heap other).connected = (pool.heap other).connected := by
  rw [Pool.modify]
  dsimp only
  by_cases same : other = entry
  · rw [same, Function.update_self, keeps]
  · rw [Function.update_of_ne same]

theorem Pool.connected_of_disconnected {pool : Pool} {entry other : Nat}
    {change : PoolEntry → PoolEntry} (disconnects : (change (pool.heap entry)).connected = false)
    (connected : ((pool.modify entry change).heap other).connected = true) :
    other ≠ entry ∧ (pool.heap other).connected = true := by
  rw [Pool.modify] at connected
  dsimp only at connected
  by_cases same : other = entry
  · rw [same, Function.update_self, disconnects] at connected
    cases connected
  · rw [Function.update_of_ne same] at connected
    exact ⟨same, connected⟩

theorem Pool.removed_entries_of_ne (pool : Pool) {key other : String} (different : other ≠ key) :
    (pool.removed key).entries other = pool.entries other :=
  Function.update_of_ne different _ _

theorem Pool.evict_heap (pool : Pool) (key : String) (entry : Nat) :
    (pool.evict key entry).heap = pool.heap := by
  rcases pool.evict_cases key entry with ⟨_, evicted⟩ | ⟨_, kept⟩
  · rw [evicted]
    rfl
  · rw [kept]

theorem Pool.evict_closers (pool : Pool) (key : String) (entry : Nat) :
    (pool.evict key entry).closers = pool.closers := by
  rcases pool.evict_cases key entry with ⟨_, evicted⟩ | ⟨_, kept⟩
  · rw [evicted]
    rfl
  · rw [kept]

theorem PoolState.Pending.act {state : PoolState} {entry : Nat} (pending : state.Pending entry)
    {caller : Nat} {moved : Caller} {pool : Pool} (closers : pool.closers = state.pool.closers)
    (continues : (state.callers caller).disconnects = some entry →
      moved.disconnects = some entry) :
    PoolState.Pending { pool := pool, callers := Function.update state.callers caller moved }
      entry := by
  rcases pending with ⟨other, disconnects⟩ | ⟨key, locks, closing⟩
  · refine Or.inl ⟨other, ?_⟩
    dsimp only
    by_cases same : other = caller
    · rw [same] at disconnects
      rw [same, Function.update_self]
      exact continues disconnects
    · rw [Function.update_of_ne same]
      exact disconnects
  · refine Or.inr ⟨key, locks, ?_⟩
    dsimp only
    rw [closers]
    exact closing

namespace TracedPool

theorem record_madeFor_of_lt (traced : TracedPool) (label : PoolLabel) (after : PoolState)
    {entry : Nat} (taken : entry < traced.state.pool.fresh) :
    (traced.record label after).madeFor entry = traced.madeFor entry := by
  unfold record
  dsimp only
  split
  · rw [Function.update_of_ne (Nat.ne_of_lt taken)]
  · rfl

theorem Kept.act {traced : TracedPool} {entry : Nat} (kept : traced.Kept entry)
    (bounded : traced.state.pool.Bounded) {caller : Nat} {action : PoolAction} {moved : Caller}
    {pool : Pool} (leads : pool.entries (traced.madeFor entry) = some entry)
    (drops : moved.drops ≠ some (traced.madeFor entry)) :
    (traced.record (.act caller action)
      { pool := pool, callers := Function.update traced.state.callers caller moved }).Kept
      entry := by
  have same := traced.record_madeFor_of_lt (.act caller action)
    { pool := pool, callers := Function.update traced.state.callers caller moved }
    (bounded _ _ kept.1)
  refine ⟨?_, fun sweeper => ?_⟩
  · rw [same]
    exact leads
  · rw [same]
    show (Function.update traced.state.callers caller moved sweeper).drops ≠ _
    by_cases moves : sweeper = caller
    · rw [moves, Function.update_self]
      exact drops
    · rw [Function.update_of_ne moves]
      exact kept.2 sweeper

/-! ### One step of a caller -/

section Act

variable {options : PoolOptions} {traced : TracedPool} {caller : Nat} {action : PoolAction}
  {current moved : Caller} {pool : Pool}

theorem Sound.carry (sound : traced.Sound) (position : traced.state.callers caller = current)
    (entries : pool.entries = traced.state.pool.entries)
    (closers : pool.closers = traced.state.pool.closers) {entry : Nat}
    (drops : moved.drops ≠ some (traced.madeFor entry))
    (continues : current.disconnects = some entry → moved.disconnects = some entry)
    (before : traced.Kept entry ∨ traced.state.Pending entry) :
    (traced.record (.act caller action)
        { pool := pool, callers := Function.update traced.state.callers caller moved }).Kept entry ∨
      PoolState.Pending
        { pool := pool, callers := Function.update traced.state.callers caller moved } entry := by
  rcases before with kept | pending
  · refine Or.inl (kept.act sound.bounded ?_ drops)
    rw [entries]
    exact kept.1
  · exact Or.inr (pending.act closers (position ▸ continues))

theorem Sound.live_disconnect (sound : traced.Sound) {address : Nat}
    {change : PoolEntry → PoolEntry}
    (disconnects : (change (traced.state.pool.heap address)).connected = false)
    (position : (traced.state.callers caller).disconnects = some address)
    (entry : Nat) (live : ((traced.state.pool.modify address change).heap entry).connected = true) :
    (traced.record (.act caller action)
        { pool := traced.state.pool.modify address change,
          callers := Function.update traced.state.callers caller .idle }).Kept entry ∨
      PoolState.Pending
        { pool := traced.state.pool.modify address change,
          callers := Function.update traced.state.callers caller .idle } entry := by
  obtain ⟨different, before⟩ := Pool.connected_of_disconnected disconnects live
  rcases sound.live entry before with kept | pending
  · exact Or.inl (kept.act sound.bounded kept.1 (Option.some_ne_none _).symm)
  · refine Or.inr (pending.act rfl fun going => ?_)
    rw [position, Option.some_inj] at going
    exact absurd going.symm different

theorem Sound.live_remove (sound : traced.Sound) {key : String}
    (position : traced.state.callers caller = current)
    (drops : moved.drops = none)
    (continues : ∀ entry, current.disconnects = some entry → moved.disconnects = some entry)
    (taken : ∀ entry, traced.Kept entry → traced.madeFor entry = key →
      moved.disconnects = some entry)
    (entry : Nat) (live : (traced.state.pool.heap entry).connected = true) :
    (traced.record (.act caller action)
        { pool := traced.state.pool.removed key,
          callers := Function.update traced.state.callers caller moved }).Kept entry ∨
      PoolState.Pending
        { pool := traced.state.pool.removed key,
          callers := Function.update traced.state.callers caller moved } entry := by
  rcases sound.live entry live with kept | pending
  · by_cases same : traced.madeFor entry = key
    · refine Or.inr (Or.inl ⟨caller, ?_⟩)
      dsimp only
      rw [Function.update_self]
      exact taken entry kept same
    · refine Or.inl (kept.act sound.bounded ?_ ?_)
      · rw [Pool.removed_entries_of_ne _ same]
        exact kept.1
      · rw [drops]
        exact (Option.some_ne_none _).symm
  · exact Or.inr (pending.act rfl (position ▸ continues entry))

theorem Sound.live_add (sound : traced.Sound) {request : PoolRequest}
    (idle : traced.state.callers caller = .idle)
    (missing : traced.state.pool.entries request.key = none) (drops : moved.drops = none)
    (entry : Nat) (live : ((traced.state.pool.added request).heap entry).connected = true) :
    (traced.record (.act caller action)
        { pool := traced.state.pool.added request,
          callers := Function.update traced.state.callers caller moved }).Kept entry ∨
      PoolState.Pending
        { pool := traced.state.pool.added request,
          callers := Function.update traced.state.callers caller moved } entry := by
  dsimp only [Pool.added] at live
  have known : entry ≠ traced.state.pool.fresh := by
    rintro rfl
    rw [Function.update_self] at live
    cases live
  rw [Function.update_of_ne known] at live
  rcases sound.live entry live with kept | pending
  · have different : traced.madeFor entry ≠ request.key := by
      intro same
      have leads := kept.1
      rw [same, missing] at leads
      cases leads
    refine Or.inl (kept.act sound.bounded ?_ ?_)
    · dsimp only [Pool.added]
      rw [Function.update_of_ne different]
      exact kept.1
    · rw [drops]
      exact (Option.some_ne_none _).symm
  · refine Or.inr (pending.act rfl fun going => ?_)
    rw [idle] at going
    cases going

theorem Sound.live_close (sound : traced.Sound) (idle : traced.state.callers caller = .idle)
    (running : traced.state.pool.stopped = false) (entry : Nat)
    (live : (traced.state.pool.heap entry).connected = true) :
    PoolState.Pending
      { pool := traced.state.pool.closed,
        callers := Function.update traced.state.callers caller .idle } entry := by
  rcases sound.live entry live with kept | ⟨other, going⟩ | ⟨key, locks, closing⟩
  · refine Or.inr ⟨traced.madeFor entry, false, ?_⟩
    dsimp only [Pool.closed]
    rw [kept.1]
    rfl
  · refine Or.inl ⟨other, ?_⟩
    dsimp only
    by_cases same : other = caller
    · rw [same, idle] at going
      cases going
    · rw [Function.update_of_ne same]
      exact going
  · rw [sound.running running] at closing
    cases closing

theorem Sound.live_act (sound : traced.Sound)
    (made : traced.state.pool.Moves options (traced.state.callers caller) action moved pool)
    (permitted : traced.Orderly options (.act caller action)) (entry : Nat)
    (live : (pool.heap entry).connected = true) :
    (traced.record (.act caller action)
        { pool := pool, callers := Function.update traced.state.callers caller moved }).Kept entry ∨
      PoolState.Pending
        { pool := pool, callers := Function.update traced.state.callers caller moved } entry := by
  have unnamed : (none : Option String) ≠ some (traced.madeFor entry) :=
    (Option.some_ne_none _).symm
  generalize position : traced.state.callers caller = current at made
  cases made with
  | getRefused | getKnown _ _ | removeMissing | snapshot | skip | finishSweep | closeAgain =>
    exact sound.carry position rfl rfl unnamed (fun going => by cases going)
      (sound.live entry live)
  | lock _ | connectFailed | release | tryLock _ _ | spare _ =>
    rw [Pool.connected_modify _ _ _ rfl] at live
    refine sound.carry position ?_ ?_ ?_ ?_ (sound.live entry live)
    · rfl
    · rfl
    · exact unnamed
    · intro going
      cases going
  | takeRemoved _ =>
    rw [Pool.connected_modify _ _ _ rfl] at live
    refine sound.carry position ?_ ?_ ?_ ?_ (sound.live entry live)
    · rfl
    · rfl
    · exact unnamed
    · exact fun going => going
  | getNew _ missing _ => exact sound.live_add position missing rfl entry live
  | @connected address request =>
    have before : traced.Kept entry ∨ traced.state.Pending entry := by
      by_cases same : entry = address
      · rw [same]
        exact permitted address request position
      · refine sound.live entry ?_
        rw [Pool.modify] at live
        dsimp only at live
        rw [Function.update_of_ne same] at live
        exact live
    refine sound.carry position ?_ ?_ ?_ ?_ before
    · rfl
    · rfl
    · exact unnamed
    · intro going
      cases going
  | @evict address request =>
    rw [Pool.evict_heap] at live
    rcases traced.state.pool.evict_cases request.key address with ⟨known, evicted⟩ | ⟨_, still⟩
    · rw [evicted]
      refine sound.live_remove position ?_ ?_ (fun other kept led => ?_) entry live
      · rfl
      · exact fun _ going => going
      have leads := kept.1
      rw [led, known] at leads
      exact leads
    · rw [still]
      refine sound.carry position ?_ ?_ ?_ ?_ (sound.live entry live)
      · rfl
      · rfl
      · exact unnamed
      · exact fun going => going
  | discard =>
    refine sound.live_disconnect rfl ?_ entry live
    rw [position]
    rfl
  | disconnectRemoved =>
    refine sound.live_disconnect rfl ?_ entry live
    rw [position]
    rfl
  | @remove key address known =>
    refine sound.live_remove position ?_ ?_ (fun other kept led => ?_) entry live
    · rfl
    · intro _ going
      cases going
    have leads := kept.1
    rw [led, known] at leads
    exact leads
  | @sweep now todo key address pingSucceeds drops =>
    obtain ⟨different, before⟩ := Pool.connected_of_disconnected rfl live
    rcases sound.live entry before with kept | pending
    · refine Or.inl (kept.act sound.bounded kept.1 ?_)
      intro dropped
      have same : key = traced.madeFor entry := Option.some.inj dropped
      have leads := kept.1
      rw [← same] at leads
      exact different (permitted now todo key address position drops entry leads)
    · refine Or.inr (pending.act rfl fun going => ?_)
      rw [position] at going
      cases going
  | @drop now todo key =>
    refine sound.live_remove position ?_ ?_ (fun other kept led => ?_) entry live
    · rfl
    · intro _ going
      cases going
    refine absurd ?_ (kept.2 caller)
    rw [position, led]
    rfl
  | close running => exact Or.inr (sound.live_close position running entry live)

theorem drops_of_moves {before : Pool} {key : String}
    (made : before.Moves options current action moved pool) (drops : moved.drops = some key) :
    ∃ now todo entry pingSucceeds, current = .checking now todo key entry ∧
      action = .check pingSucceeds ∧ (before.sweepEntry options entry now pingSucceeds).1 = true := by
  cases made with
  | @sweep now todo key address pingSucceeds sweeps =>
    cases drops
    exact ⟨now, todo, address, pingSucceeds, rfl, rfl, sweeps⟩
  | _ => cases drops

theorem record_swept_of_ne (traced : TracedPool) (caller : Nat) (action : PoolAction)
    (after : PoolState) {sweeper : Nat} (different : sweeper ≠ caller) :
    (traced.record (.act caller action) after).swept sweeper = traced.swept sweeper := by
  cases action with
  | check pingSucceeds =>
    unfold record
    dsimp only
    cases position : traced.state.callers caller with
    | checking now todo key entry => exact Function.update_of_ne different _ _
    | _ => rfl
  | _ => rfl

theorem Sound.swept_act (sound : traced.Sound)
    (made : traced.state.pool.Moves options (traced.state.callers caller) action moved pool)
    (permitted : traced.Orderly options (.act caller action)) (sweeper : Nat) (key : String)
    (entry : Nat)
    (drops : (Function.update traced.state.callers caller moved sweeper).drops = some key)
    (leads : pool.entries key = some entry) :
    entry = (traced.record (.act caller action)
      { pool := pool, callers := Function.update traced.state.callers caller moved }).swept
      sweeper := by
  by_cases moves : sweeper = caller
  · rw [moves, Function.update_self] at drops
    obtain ⟨now, todo, address, pingSucceeds, position, rfl, sweeps⟩ := drops_of_moves made drops
    rcases made.entries leads with before | ⟨request, created, _⟩
    · rw [permitted now todo key address position sweeps entry before, moves, record]
      dsimp only
      rw [position]
      dsimp only
      rw [Function.update_self]
    · cases created
  · rw [Function.update_of_ne moves] at drops
    rcases made.entries leads with before | ⟨request, rfl, rfl, _, running, missing, built⟩
    · rw [traced.record_swept_of_ne caller action _ moves]
      exact sound.swept sweeper key entry drops before
    · exact absurd drops (permitted running missing built sweeper)

theorem stopped_of_moves {before : Pool}
    (made : before.Moves options current action moved pool) :
    (pool.stopped = before.stopped ∧ pool.closers = before.closers) ∨
      (pool.stopped = true ∧ ∀ key, pool.entries key = none) := by
  cases made with
  | @evict address request =>
    refine Or.inl ⟨?_, before.evict_closers request.key address⟩
    rcases before.evict_cases request.key address with ⟨_, evicted⟩ | ⟨_, still⟩
    · rw [evicted]
      rfl
    · rw [still]
  | close _ => exact Or.inr ⟨rfl, fun _ => rfl⟩
  | _ => exact Or.inl ⟨rfl, rfl⟩

theorem Sound.act (sound : traced.Sound)
    (made : traced.state.pool.Moves options (traced.state.callers caller) action moved pool)
    (permitted : traced.Orderly options (.act caller action)) :
    (traced.record (.act caller action)
      { pool := pool, callers := Function.update traced.state.callers caller moved }).Sound where
  bounded := made.bounded sound.bounded
  keyed key entry leads := by
    rcases made.entries leads with before | ⟨request, rfl, rfl, rfl, _⟩
    · rw [traced.record_madeFor_of_lt _ _ (sound.bounded key entry before)]
      exact sound.keyed key entry before
    · rw [record]
      dsimp only
      rw [Function.update_self]
  live := sound.live_act made permitted
  swept := sound.swept_act made permitted
  running running key := by
    rcases stopped_of_moves made with ⟨same, closers⟩ | ⟨stopped, _⟩
    · show pool.closers key = none
      rw [closers]
      exact sound.running (same ▸ running) key
    · exact absurd (stopped.symm.trans running) Bool.noConfusion
  stopped stopped key := by
    rcases stopped_of_moves made with ⟨same, _⟩ | ⟨_, emptied⟩
    · rw [← Option.not_isSome_iff_eq_none]
      intro found
      obtain ⟨entry, leads⟩ := Option.isSome_iff_exists.mp found
      have before : traced.state.pool.stopped = true := same ▸ stopped
      rcases made.entries leads with known | ⟨_, _, _, _, running, _⟩
      · rw [sound.stopped before] at known
        cases known
      · rw [before] at running
        cases running
    · exact emptied key

end Act

/-! ### One step of a closing goroutine -/

section Close

variable {options : PoolOptions} {traced : TracedPool} {key : String} {address : Nat}

theorem Sound.live_closer (sound : traced.Sound) {held : Bool} {heap : Nat → PoolEntry}
    {closing : Option (Nat × Bool)} {label : PoolLabel}
    (before : traced.state.pool.closers key = some (address, held))
    (same : (traced.record label traced.state).madeFor = traced.madeFor) {entry : Nat}
    (goesOn : entry = address → ∃ locks, closing = some (entry, locks))
    (live : (traced.state.pool.heap entry).connected = true) :
    (traced.record label { traced.state with pool :=
        { traced.state.pool with
          heap := heap
          closers := Function.update traced.state.pool.closers key closing } }).Kept entry ∨
      PoolState.Pending { traced.state with pool :=
        { traced.state.pool with
          heap := heap
          closers := Function.update traced.state.pool.closers key closing } } entry := by
  have unchanged : (traced.record label { traced.state with pool :=
      { traced.state.pool with
        heap := heap
        closers := Function.update traced.state.pool.closers key closing } }).madeFor =
      traced.madeFor := same
  rcases sound.live entry live with kept | ⟨caller, going⟩ | ⟨other, locks, closes⟩
  · refine Or.inl ⟨?_, fun sweeper => ?_⟩
    · rw [unchanged]
      exact kept.1
    · rw [unchanged]
      exact kept.2 sweeper
  · exact Or.inr (Or.inl ⟨caller, going⟩)
  · by_cases moves : other = key
    · rw [moves, before] at closes
      cases closes
      obtain ⟨stays, equal⟩ := goesOn rfl
      refine Or.inr (Or.inr ⟨key, stays, ?_⟩)
      dsimp only
      rw [Function.update_self]
      exact equal
    · refine Or.inr (Or.inr ⟨other, locks, ?_⟩)
      dsimp only
      rw [Function.update_of_ne moves]
      exact closes

theorem Sound.stopped_of_closing (sound : traced.Sound) {held : Bool}
    (closing : traced.state.pool.closers key = some (address, held)) :
    traced.state.pool.stopped = true := by
  cases stopped : traced.state.pool.stopped with
  | true => rfl
  | false =>
    rw [sound.running stopped key] at closing
    cases closing

/-- Every orderly step keeps the trace sound. -/
theorem Sound.step {label : PoolLabel} {after : PoolState} (sound : traced.Sound)
    (permitted : traced.Orderly options label) (moved : traced.state.Moves options label after) :
    (traced.record label after).Sound := by
  cases moved with
  | act made => exact sound.act made permitted
  | @closerLock closed entry closing free =>
    refine ⟨sound.bounded, sound.keyed, fun other live => ?_, sound.swept,
      fun running => ?_, sound.stopped⟩
    · have before : (traced.state.pool.heap other).connected = true := by
        rw [← traced.state.pool.connected_modify entry (fun held => { held with locked := true }) rfl]
        exact live
      exact sound.live_closer closing rfl (fun same => ⟨true, by rw [same]⟩) before
    · exact absurd ((sound.stopped_of_closing closing).symm.trans running) Bool.noConfusion
  | @closerDisconnect closed entry closing =>
    refine ⟨sound.bounded, sound.keyed, fun other live => ?_, sound.swept,
      fun running => ?_, sound.stopped⟩
    · have disconnected : ((traced.state.pool.modify entry fun held =>
          { held with connected := false, locked := false }).heap other).connected = true := live
      obtain ⟨different, before⟩ := Pool.connected_of_disconnected rfl disconnected
      exact sound.live_closer closing rfl (fun same => absurd same different) before
    · exact absurd ((sound.stopped_of_closing closing).symm.trans running) Bool.noConfusion

end Close

end TracedPool

/-- In every orderly run the pool loses and doubles no connector. -/
theorem pool_tidy_of_orderly (options : PoolOptions) (traced : TracedPool)
    (reached : Runs.Reaches (TracedPool.step options) (TracedPool.Orderly options) .initial traced) :
    PoolTidy traced := by
  have sound := reached.invariant TracedPool.Sound TracedPool.initial_sound ?_
  · exact sound.poolTidy
  · intro before label later sound permitted fired
    obtain ⟨after, stepped, rfl⟩ := Option.map_eq_some_iff.mp fired
    exact sound.step permitted (PoolState.moves_of_step stepped)

/-! ### Connectors nothing leads to -/

def ordersRequest : PoolRequest where
  key := "dest-p"
  config := ordersRow.toConfig

/-- A call asks for a key and waits for the entry; the key is released meanwhile; then the call
connects the entry and gives it back. -/
def releasedWhileWaiting : List PoolLabel :=
  [.act 0 (.get ordersRequest), .act 1 (.remove "dest-p"), .act 1 .takeRemoved,
    .act 1 .disconnectRemoved, .act 0 (.lock 0), .act 0 (.connect true), .act 0 (.release 1)]

/-- A sweep disconnects an entry whose ping fails; before it deletes the key, the key is released
and asked for again. -/
def sweptByKey : List PoolLabel :=
  [.act 0 (.get ordersRequest), .act 0 (.lock 0), .act 0 (.connect true), .act 0 (.release 1),
    .act 1 (.snapshot 2), .act 1 (.tryLock "dest-p"), .act 1 (.check false),
    .act 0 (.remove "dest-p"), .act 0 .takeRemoved, .act 0 .disconnectRemoved,
    .act 0 (.get ordersRequest), .act 0 (.lock 3), .act 0 (.connect true), .act 0 (.release 4)]

/-- A pool at rest is left with a connected connector that no key leads to, and a sweep is about to
delete an entry it never looked at. -/
theorem connector_lost_and_wrong_entry_swept :
    (∃ traced, Runs.Reachable (TracedPool.step {}) .initial traced ∧ traced.state.Quiet ∧
      (traced.state.pool.heap 0).connected = true ∧
      traced.state.pool.entries (traced.madeFor 0) = none ∧ ¬ PoolTidy traced) ∧
    ∃ traced, Runs.Reachable (TracedPool.step {}) .initial traced ∧
      (traced.state.callers 1).drops = some "dest-p" ∧ traced.swept 1 = 0 ∧
      traced.state.pool.entries "dest-p" = some 1 ∧
      (traced.state.pool.heap 1).connected = true ∧ ¬ PoolTidy traced := by
  constructor
  · obtain ⟨traced, reached, quiet, connected, missing⟩ :
        ∃ traced, Runs.Reachable (TracedPool.step {}) .initial traced ∧ traced.state.Quiet ∧
          (traced.state.pool.heap 0).connected = true ∧
          traced.state.pool.entries (traced.madeFor 0) = none := by
      refine ⟨_, Runs.reaches_of_exec (TracedPool.step {}) (fun _ _ => True) releasedWhileWaiting
        rfl, ⟨fun caller => ?_, fun _ => rfl⟩, rfl, rfl⟩
      match caller with
      | 0 => rfl
      | 1 => rfl
      | _ + 2 => rfl
    refine ⟨traced, reached, quiet, connected, missing, fun tidy => ?_⟩
    have stored := tidy.stored quiet 0 connected
    rw [missing] at stored
    cases stored
  · obtain ⟨traced, reached, drops, swept, leads, connected⟩ :
        ∃ traced, Runs.Reachable (TracedPool.step {}) .initial traced ∧
          (traced.state.callers 1).drops = some "dest-p" ∧ traced.swept 1 = 0 ∧
          traced.state.pool.entries "dest-p" = some 1 ∧
          (traced.state.pool.heap 1).connected = true :=
      ⟨_, Runs.reaches_of_exec (TracedPool.step {}) (fun _ _ => True) sweptByKey rfl, rfl, rfl, rfl,
        rfl⟩
    refine ⟨traced, reached, drops, swept, leads, connected, fun tidy => ?_⟩
    have same := tidy.swept 1 "dest-p" 1 drops leads
    rw [swept] at same
    cases same

/-- A connector that is connected and given back is the one its key leads to. -/
theorem returned_connector_stored :
    ∃ traced, (traced.state.pool.heap 0).connected = true ∧ traced.state.Quiet ∧
      PoolTidy traced := by
  have asked : Runs.Reaches (TracedPool.step {}) (TracedPool.Orderly {}) .initial _ :=
    .next .start (show TracedPool.Orderly {} .initial (.act 0 (.get ordersRequest)) from
      fun _ _ _ _ => (Option.some_ne_none _).symm) rfl
  have locked : Runs.Reaches (TracedPool.step {}) (TracedPool.Orderly {}) .initial _ :=
    .next asked (show TracedPool.Orderly {} _ (.act 0 (.lock 0)) from trivial) rfl
  refine ⟨_, ?_, ⟨fun caller => ?_, fun _ => ?_⟩, pool_tidy_of_orderly {} _ (.next (.next locked
    (show TracedPool.Orderly {} _ (.act 0 (.connect true)) from ?_) rfl)
    (show TracedPool.Orderly {} _ (.act 0 (.release 1)) from trivial) rfl)⟩
  · rfl
  · match caller with
    | 0 => rfl
    | _ + 1 => rfl
  · rfl
  · intro entry request position
    cases position
    refine Or.inl ⟨rfl, fun sweeper drops => ?_⟩
    match sweeper with
    | 0 => cases drops
    | _ + 1 => cases drops

end MqConnector
