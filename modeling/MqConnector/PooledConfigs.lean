/-
This file asks whether the pool gives its callers connectors for the configurations they ask for,
in the system of `MessageFlow`: requests edit connections and pipelines, `Reload` builds executors
from the edited rows, and executors, retries, replays and bridge requests ask for connectors.

`Get` reads its configuration only when the key is new, and keys are made of ids, or of a topic and
a queue name. What was last asked for under each key, and who a caller asked for, are records that
no step of the code reads.
-/

import MqConnector.MessageFlow

namespace MqConnector

variable {World Document Key Rule : Type}

/-! ### Who asks for which row -/

namespace Asker

/-- The executor that asks. -/
def handle : Asker → Option Nat
  | receive handle _ | forward handle | route handle _ | shadow handle | depth handle => some handle
  | replay _ | retry _ _ _ | bridgePublish _ _ | bridgeConsume _ _ => none

/-- The row that an executor built from these rows asks for. -/
def row (rows : Rows) : Asker → Option Connection
  | receive _ _ | depth _ => rows.source
  | forward _ => rows.destination
  | route _ destination => rows.routeDest destination
  | shadow _ => rows.shadowDest
  | replay _ | retry _ _ _ | bridgePublish _ _ | bridgeConsume _ _ => none

end Asker

namespace FlowState

variable {state : FlowState World Key Rule}

/-- An asker asks for the row its executor was built from, or for the destination of its replay, which is of the
pipeline's tenant. -/
structure AskedBy (state : FlowState World Key Rule) (asker : Asker) (ask : Ask) : Prop where
  built : ∀ handle, asker.handle = some handle →
    ∃ rows, state.built handle = some rows ∧ asker.row rows = some ask.site.row
  replay : ∀ call, asker = .replay call → ∃ pipeline row,
    ask = ⟨.replay row, pipeline.tenantID, some pipeline⟩ ∧ row.tenantID = pipeline.tenantID

/-- Replays send to a connection of the pipeline's tenant. -/
def ReplaysOwn (state : FlowState World Key Rule) : Prop :=
  ∀ call pipeline source destination, state.replays call = .draining pipeline source destination →
    destination.tenantID = pipeline.tenantID

/-- An executor asks for a row it was built from. -/
theorem AskedBy.of_rows {asker : Asker} {ask : Ask} {handle : Nat} {rows : Rows} (asks : asker.handle = some handle)
    (found : state.built handle = some rows) (stored : asker.row rows = some ask.site.row) :
    state.AskedBy asker ask where
  built := by
    intro other same
    obtain rfl := Option.some.inj (asks.symm.trans same)
    exact ⟨rows, found, stored⟩
  replay := by
    rintro call rfl
    cases asks

theorem askedBy_of_ask {service : DlqService World Document Key Rule} (own : state.ReplaysOwn) {asker : Asker}
    {ask : Ask} (asked : state.ask service asker = some ask) : state.AskedBy asker ask := by
  cases asker with
  | receive handle worker =>
    obtain ⟨rows, found, source⟩ := Option.bind_eq_some_iff.mp asked
    obtain ⟨-, source⟩ := Option.ite_none_right_eq_some.mp source
    obtain ⟨row, stored, rfl⟩ := Option.map_eq_some_iff.mp source
    exact .of_rows rfl (built_of_running found) stored
  | forward handle =>
    obtain ⟨rows, found, destination⟩ := Option.bind_eq_some_iff.mp asked
    obtain ⟨row, stored, rfl⟩ := Option.map_eq_some_iff.mp destination
    exact .of_rows rfl (built_of_running found) stored
  | route handle destination =>
    obtain ⟨rows, found, routed⟩ := Option.bind_eq_some_iff.mp asked
    obtain ⟨row, stored, rfl⟩ := Option.map_eq_some_iff.mp routed
    exact .of_rows rfl (built_of_running found) stored
  | shadow handle =>
    obtain ⟨rows, found, shadowed⟩ := Option.bind_eq_some_iff.mp asked
    obtain ⟨row, stored, rfl⟩ := Option.map_eq_some_iff.mp shadowed
    exact .of_rows rfl (built_of_running found) stored
  | depth handle =>
    obtain ⟨rows, found, sampled⟩ := Option.bind_eq_some_iff.mp asked
    obtain ⟨row, stored, rfl⟩ := Option.map_eq_some_iff.mp sampled
    exact .of_rows rfl found (Option.filter_eq_some_iff.mp stored).1
  | replay call =>
    rw [FlowState.ask] at asked
    split at asked
    · rename_i pipeline source destination drains
      cases asked
      have sent := own call pipeline source destination drains
      exact ⟨fun _ absurd => (by cases absurd), fun _ _ => ⟨pipeline, destination, rfl, sent⟩⟩
    · cases asked
  | retry | bridgePublish | bridgeConsume =>
    exact ⟨fun _ absurd => (by cases absurd), fun _ absurd => by cases absurd⟩

theorem built_of_manager {builds : Rows → Bool} {label : ManagerLabel} {after : ManagerState}
    (keyed : state.manager.WellKeyed) (fired : state.readingManager.step builds label = some after) {handle : Nat}
    {rows : Rows} (found : state.built handle = some rows) :
    ({ state with manager := after } : FlowState World Key Rule).built handle = some rows := by
  obtain ⟨below, same⟩ := built_eq_some found
  have wellKeyed : state.readingManager.WellKeyed := keyed
  rcases ManagerState.step_core wellKeyed fired with frame | ⟨call, new, todo, -, -, -, rfl⟩
  · rw [FlowState.built, if_pos (frame.fresh.symm ▸ below), frame.rows handle]
    exact congrArg some same
  · have other : handle ≠ state.readingManager.fresh := Nat.ne_of_lt below
    refine (if_pos (show handle < state.manager.fresh + 1 from Nat.lt_succ_of_lt below)).trans ?_
    show some ((state.readingManager.registerRows call new).handles handle).rows = _
    rw [ManagerState.registerRows_handles state.readingManager call new other]
    exact congrArg some same

end FlowState

/-! ### The system with its record -/

/-- The system, with the connection last asked for under each key and who each caller last asked for. -/
structure AskedFlow (World Key Rule : Type) where
  flow : FlowState World Key Rule
  last : String → Option Connection := fun _ => none
  askers : Nat → Option Asker := fun _ => none

namespace AskedFlow

def step (server : Server World Document Key Rule) (options : PoolOptions) (state : AskedFlow World Key Rule)
    (label : FlowLabel World Key Rule) : Option (AskedFlow World Key Rule) :=
  (state.flow.step server options label).map fun after =>
    match label with
    | .ask caller asker =>
      { flow := after
        last := match state.flow.ask server.dlq asker with
          | some ask => Function.update state.last ask.site.key (some ask.site.row)
          | none => state.last
        askers := Function.update state.askers caller (some asker) }
    | _ => { state with flow := after }

/-- Where a key is in the pool, the connection last asked for under it has the configuration of this one. -/
def AsksAlike (state : AskedFlow World Key Rule) (ask : Ask) : Prop :=
  (state.flow.pool.pool.entries ask.site.key).isSome = true →
    ∀ former ∈ state.last ask.site.key, former.toConfig = ask.site.row.toConfig

/-- The condition on a step: no key is asked for another configuration while it is in the pool, and replays find rows
of their pipeline's tenant. -/
def KeepsConfigs (service : DlqService World Document Key Rule) (state : AskedFlow World Key Rule) :
    FlowLabel World Key Rule → Prop
  | .ask _ asker => ∀ ask ∈ state.flow.ask service asker, state.AsksAlike ask
  | .replayRead call => FlowState.FindsOwnRows state.flow.server.store (state.flow.replays call)
  | _ => True

instance (state : AskedFlow World Key Rule) (ask : Ask) : Decidable (state.AsksAlike ask) :=
  inferInstanceAs (Decidable ((state.flow.pool.pool.entries ask.site.key).isSome = true →
    ∀ former ∈ state.last ask.site.key, former.toConfig = ask.site.row.toConfig))

instance (service : DlqService World Document Key Rule) (state : AskedFlow World Key Rule)
    (label : FlowLabel World Key Rule) : Decidable (state.KeepsConfigs service label) :=
  match label with
  | .ask _ asker => inferInstanceAs (Decidable (∀ ask ∈ state.flow.ask service asker, state.AsksAlike ask))
  | .replayRead call =>
    inferInstanceAs (Decidable (FlowState.FindsOwnRows state.flow.server.store (state.flow.replays call)))
  | .http _ | .dlq _ | .manager _ | .pool _ | .move _ | .replay _ _ | .replayReceive _ | .replayEnd _ => isTrue trivial

/-- The configuration that a held connector was built from. -/
def held (state : AskedFlow World Key Rule) (caller : Nat) : Option Config :=
  match state.flow.pool.callers caller with
  | .holding entry _ => some (state.flow.pool.pool.heap entry).config
  | _ => none

/-- The invariant: every key in the pool leads to a connector for the connection last asked for under it, and whoever
waits for or holds a connector has asked for it. -/
structure Kept (state : AskedFlow World Key Rule) : Prop where
  pool : PoolKept state.flow.pool
  keyed : ∀ key entry, state.flow.pool.pool.entries key = some entry →
    ∃ row, state.last key = some row ∧ (state.flow.pool.pool.heap entry).config = row.toConfig
  asked : ∀ caller entry request, (state.flow.pool.callers caller).asked = some (entry, request) →
    ∃ asker ask, state.askers caller = some asker ∧ state.flow.asks caller = some ask ∧
      request = ask.site.request ∧ state.flow.AskedBy asker ask
  managed : state.flow.manager.WellKeyed
  replays : state.flow.ReplaysOwn

/-- A process that has just started over a database with any rows. -/
def initial (tables : ServerState World Key Rule) : AskedFlow World Key Rule where
  flow := .initial tables

theorem initial_kept (tables : ServerState World Key Rule) : Kept (initial tables) where
  pool := PoolState.initial_kept
  keyed _ _ leads := nomatch leads
  asked _ _ _ asks := nomatch asks
  managed _ _ found := nomatch found
  replays _ _ _ _ drains := nomatch drains

section Steps

variable {server : Server World Document Key Rule} {options : PoolOptions} {state : AskedFlow World Key Rule}

theorem keysAgree_of_asksAlike (kept : Kept state) {ask : Ask} (alike : state.AsksAlike ask) {caller : Nat} :
    KeysAgree state.flow.pool (.act caller (.get ask.site.request)) := by
  rw [KeysAgree]
  split
  · rename_i entry leads
    obtain ⟨row, last, config⟩ := kept.keyed _ _ leads
    exact config.trans (alike (Option.isSome_of_eq_some leads) row last)
  · trivial

theorem Kept.pooled (kept : Kept state) {label : PoolLabel} {after : PoolState}
    (unasked : ∀ caller request, label ≠ .act caller (.get request))
    (fired : state.flow.pool.step options label = some after) :
    Kept { state with flow := { state.flow with pool := after } } := by
  have agree : KeysAgree state.flow.pool label := by
    rw [KeysAgree.eq_def]
    split
    · exact absurd rfl (unasked _ _)
    · trivial
  obtain ⟨pool, grown⟩ := PoolState.step_kept kept.pool agree fired
  have frame := PoolState.unasked_of_step unasked fired
  refine ⟨pool, fun key entry leads => ?_, fun caller entry request asks => ?_, kept.managed, kept.replays⟩
  · have before := frame.entries key entry leads
    obtain ⟨row, last, config⟩ := kept.keyed key entry before
    exact ⟨row, last, (grown.config entry (kept.pool.bounded key entry before)).trans config⟩
  · obtain ⟨asker, ask, who, recorded, same, by_⟩ := kept.asked caller entry request (frame.asked caller entry request asks)
    exact ⟨asker, ask, who, recorded, same, by_.built, by_.replay⟩

theorem Kept.manager (kept : Kept state) {builds : Rows → Bool} {label : ManagerLabel} {after : ManagerState}
    (fired : state.flow.readingManager.step builds label = some after) :
    Kept { state with flow := { state.flow with manager := after } } := by
  have keyed : state.flow.readingManager.WellKeyed := kept.managed
  refine ⟨kept.pool, kept.keyed, fun caller entry request asks => ?_,
    ManagerState.wellKeyed_of_step keyed fired, kept.replays⟩
  obtain ⟨asker, ask, who, recorded, same, by_⟩ := kept.asked caller entry request asks
  refine ⟨asker, ask, who, recorded, same, fun handle runs => ?_, by_.replay⟩
  obtain ⟨rows, found, row⟩ := by_.built handle runs
  exact ⟨rows, FlowState.built_of_manager kept.managed fired found, row⟩

theorem Kept.setReplay (kept : Kept state) {call : Nat} {phase : ReplayPhase}
    (own : ∀ pipeline source destination, phase = .draining pipeline source destination →
      destination.tenantID = pipeline.tenantID) : Kept { state with flow := state.flow.setReplay call phase } := by
  refine ⟨kept.pool, kept.keyed, fun caller entry request asks => ?_, kept.managed, ?_⟩
  · obtain ⟨asker, ask, who, recorded, same, by_⟩ := kept.asked caller entry request asks
    exact ⟨asker, ask, who, recorded, same, by_.built, by_.replay⟩
  · intro other pipeline source destination drains
    rcases Runs.update_cases drains with ⟨-, drains⟩ | ⟨-, drains⟩
    · exact own pipeline source destination drains
    · exact kept.replays other pipeline source destination drains

theorem own_of_findsOwnRows {store : Store} {phase : ReplayPhase} (finds : FlowState.FindsOwnRows store phase)
    {pipeline : Pipeline} {source destination : Connection}
    (drains : phase.read store = .draining pipeline source destination) :
    phase = .draining pipeline source destination ∨ destination.tenantID = pipeline.tenantID := by
  cases phase with
  | idle => cases drains
  | called | found =>
    rw [ReplayPhase.read] at drains
    split at drains
    · cases drains
    · cases drains
  | sourced row first =>
    rw [ReplayPhase.read] at drains
    split at drains
    · rename_i target found
      split at drains
      · rename_i retained
        cases drains
        exact .inr (finds destination found retained).2
      · cases drains
    · cases drains
  | draining => exact .inl drains

theorem Kept.ask (kept : Kept state) {caller : Nat} {asker : Asker} {ask : Ask} {pool : PoolState}
    (asked : state.flow.ask server.dlq asker = some ask) (alike : state.AsksAlike ask)
    (made : state.flow.pool.step options (.act caller (.get ask.site.request)) = some pool) :
    Kept { flow := state.flow.recordAsk caller ask pool
           last := Function.update state.last ask.site.key (some ask.site.row)
           askers := Function.update state.askers caller (some asker) } := by
  obtain ⟨kind, grown⟩ := PoolState.step_kept kept.pool (keysAgree_of_asksAlike kept alike) made
  have by_ := FlowState.askedBy_of_ask kept.replays asked
  cases PoolState.moves_of_step made with
  | @act _ _ moved after taken =>
    refine ⟨kind, fun key entry leads => ?_, fun other entry request asks => ?_, kept.managed, kept.replays⟩
    · by_cases same : key = ask.site.key
      · refine ⟨ask.site.row, by rw [same]; exact Function.update_self .., ?_⟩
        rcases taken.entries leads with before | ⟨request, asks, named, new, -, -, -⟩
        · obtain ⟨row, last, config⟩ := kept.keyed key entry before
          rw [same] at last before
          refine (grown.config entry (kept.pool.bounded _ entry before)).trans (config.trans ?_)
          exact alike (Option.isSome_of_eq_some before) row last
        · rcases taken.get_cases with ⟨-, same⟩ | ⟨-, -, -, same⟩ | ⟨-, same⟩
          · exact absurd (kept.pool.bounded key entry (same ▸ leads)) (by rw [new]; exact lt_irrefl _)
          · exact absurd (kept.pool.bounded key entry (same ▸ leads)) (by rw [new]; exact lt_irrefl _)
          · show (after.heap entry).config = _
            rw [same, new, Pool.added]
            dsimp only
            rw [Function.update_self]
            rfl
      · have before : state.flow.pool.pool.entries key = some entry := by
          rcases taken.entries leads with before | ⟨request, asks, named, -⟩
          · exact before
          · cases asks
            exact absurd named same
        obtain ⟨row, last, config⟩ := kept.keyed key entry before
        refine ⟨row, (Function.update_of_ne same ..).trans last, ?_⟩
        exact (grown.config entry (kept.pool.bounded key entry before)).trans config
    · rcases Caller.asked_of_update asks with ⟨rfl, answer⟩ | ⟨apart, before⟩
      · have requested : request = ask.site.request := by
          rcases taken.get_cases with ⟨rfl, -⟩ | ⟨known, -, rfl, -⟩ | ⟨rfl, -⟩
          · cases answer
          · exact (Prod.mk.inj (Option.some.inj answer)).2.symm
          · exact (Prod.mk.inj (Option.some.inj answer)).2.symm
        exact ⟨asker, ask, Function.update_self .., Function.update_self .., requested, by_.built, by_.replay⟩
      · obtain ⟨who, what, askers, asks, same, by_⟩ := kept.asked other entry request before
        exact ⟨who, what, (Function.update_of_ne apart ..).trans askers,
          (Function.update_of_ne apart ..).trans asks, same, by_.built, by_.replay⟩

theorem Kept.other (kept : Kept state) {label : FlowLabel World Key Rule} {after : FlowState World Key Rule}
    (keeps : state.KeepsConfigs server.dlq label) (unasked : ∀ caller asker, label ≠ .ask caller asker)
    (fired : state.flow.step server options label = some after) : Kept { state with flow := after } := by
  have frame {flow : FlowState World Key Rule} (pool : flow.pool = state.flow.pool)
      (asks : flow.asks = state.flow.asks) (manager : flow.manager = state.flow.manager)
      (replays : flow.replays = state.flow.replays) : Kept { state with flow := flow } := by
    obtain ⟨server, manager, pool, replays, asks, opened, flows⟩ := flow
    dsimp only at pool asks manager replays
    subst pool asks manager replays
    refine ⟨kept.pool, kept.keyed, fun caller entry request waits => ?_, kept.managed, kept.replays⟩
    obtain ⟨asker, ask, who, recorded, same, by_⟩ := kept.asked caller entry request waits
    exact ⟨asker, ask, who, recorded, same, by_.built, by_.replay⟩
  cases FlowState.moves_of_step fired with
  | tables => exact frame rfl rfl rfl rfl
  | manager moved => exact kept.manager moved
  | ask => exact absurd rfl (unasked _ _)
  | pool apart moved => exact kept.pooled apart moved
  | move => exact frame rfl rfl rfl rfl
  | replay => exact kept.setReplay fun _ _ _ drains => nomatch drains
  | @replayRead call =>
    refine kept.setReplay fun pipeline source destination drains => ?_
    rcases own_of_findsOwnRows keeps drains with before | own
    · exact kept.replays call pipeline source destination before
    · exact own
  | replayReceive => exact frame rfl rfl rfl rfl
  | replayEnd => exact kept.setReplay fun _ _ _ drains => nomatch drains

/-- Every step that asks for what the key was made for keeps the invariant. -/
theorem step_kept (server : Server World Document Key Rule) (options : PoolOptions)
    (state : AskedFlow World Key Rule)
    (label : FlowLabel World Key Rule) (after : AskedFlow World Key Rule) (kept : Kept state)
    (keeps : state.KeepsConfigs server.dlq label) (fired : state.step server options label = some after) :
    Kept after := by
  obtain ⟨flow, moved, rfl⟩ := Option.map_eq_some_iff.mp fired
  cases label with
  | ask caller asker =>
    obtain ⟨ask, asked, found⟩ := Option.bind_eq_some_iff.mp moved
    obtain ⟨pool, made, rfl⟩ := Option.map_eq_some_iff.mp found
    dsimp only
    rw [asked]
    exact kept.ask asked (keeps ask asked) made
  | http | dlq | manager | pool | move | replay | replayRead | replayReceive | replayEnd =>
    exact kept.other keeps (fun _ _ same => nomatch same) moved

end Steps

/-- The destination of tenant `a`'s pipeline, on another broker. -/
def movedRow : Connection :=
  { FlowState.tenantRow "a" "a-out" with brokers := "new:9092" }

end AskedFlow

end MqConnector
