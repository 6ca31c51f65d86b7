/-
This file asks whether, at rest, what runs is what is stored.

A Reload reads storage in many statements while requests go on writing, so what
it starts may be a mixture. Such a Reload does no lasting harm as long as another
one is still to come.

Two things break it: Reloads that overlap, and writes whose request triggers no
Reload although they change what a pipeline is built from.
-/

import MqConnector.Tracking

namespace MqConnector

/-! ### The rows read so far -/

/-- The first reads of `startPipeline` have been made and gave what `target` holds; `plan` is
what remains. -/
inductive ReadSoFar (target : Rows) : Rows → List Read → Prop
  | begun : ReadSoFar target { pipeline := target.pipeline } readPlan
  | stages : ReadSoFar target { pipeline := target.pipeline, stages := target.stages }
      [.transforms, .routingRules, .source, .destination, .planRoutes, .shadow]
  | transforms : ReadSoFar target
      { pipeline := target.pipeline, stages := target.stages, transforms := target.transforms }
      [.routingRules, .source, .destination, .planRoutes, .shadow]
  | routingRules : ReadSoFar target
      { target with source := none, destination := none, routeDests := [], shadow := none }
      [.source, .destination, .planRoutes, .shadow]
  | source : ReadSoFar target { target with destination := none, routeDests := [], shadow := none }
      [.destination, .planRoutes, .shadow]
  | destination : ReadSoFar target { target with routeDests := [], shadow := none }
      [.planRoutes, .shadow]
  | routeDests (count : Nat) : ReadSoFar target
      { target with routeDests := target.routeDests.take count, shadow := none }
      (((routeDestinations target.routingRules).drop count).map .routeDest ++ [.shadow])
  | all : ReadSoFar target target []

theorem ReadSoFar.read {store : Store} {pipeline : Pipeline} {rows : Rows} {next : Read}
    {plan : List Read} (before : ReadSoFar (store.gather pipeline) rows (next :: plan)) :
    ReadSoFar (store.gather pipeline) (ManagerState.readRow store rows next).1
      ((ManagerState.readRow store rows next).2 ++ plan) := by
  generalize remaining : next :: plan = reads at before
  cases before with
  | begun =>
    cases remaining
    exact .stages
  | stages =>
    cases remaining
    exact .transforms
  | transforms =>
    cases remaining
    exact .routingRules
  | routingRules =>
    cases remaining
    exact .source
  | source =>
    cases remaining
    exact .destination
  | destination =>
    cases remaining
    exact .routeDests 0
  | routeDests count =>
    cases pending : (routeDestinations (store.gather pipeline).routingRules).drop count with
    | nil =>
      rw [pending] at remaining
      cases remaining
      have complete : (store.gather pipeline).routeDests.take count =
          (store.gather pipeline).routeDests := by
        refine List.take_of_length_le ?_
        rw [Store.gather, List.length_map]
        exact List.drop_eq_nil_iff.mp pending
      rw [complete]
      exact .all
    | cons id rest =>
      rw [pending] at remaining
      cases remaining
      have bound : count < (routeDestinations (store.gather pipeline).routingRules).length := by
        by_contra beyond
        rw [List.drop_eq_nil_iff.mpr (not_lt.mp beyond)] at pending
        cases pending
      have shape := List.drop_eq_getElem_cons bound
      rw [pending] at shape
      obtain ⟨first, later⟩ := List.cons.inj shape
      have taken : (store.gather pipeline).routeDests.take count ++ [store.connections id] =
          (store.gather pipeline).routeDests.take (count + 1) := by
        have read : (store.gather pipeline).routeDests =
            (routeDestinations (store.gather pipeline).routingRules).map store.connections := rfl
        rw [read, first, ← List.map_take, ← List.map_take, ← List.take_append_getElem bound,
          List.map_append, List.map_singleton]
      have advanced : ReadSoFar (store.gather pipeline) _ _ := .routeDests (count + 1)
      rw [← taken, ← later] at advanced
      exact advanced
  | all => cases remaining

theorem ReadSoFar.eq_of_nil {target rows : Rows} (before : ReadSoFar target rows []) :
    rows = target := by
  generalize remaining : ([] : List Read) = reads at before
  cases before with
  | all => rfl
  | routeDests count => simp at remaining
  | _ => cases remaining

/-! ### What is intended -/

theorem Store.intended_eq_some_iff (builds : Rows → Bool) (store : Store) (id : String)
    (rows : Rows) :
    store.intended builds id = some rows ↔
      ∃ pipeline ∈ store.enabledPipelines, pipeline.id = id ∧ rows = store.gather pipeline ∧
        rows.accepted builds = true := by
  rw [Store.intended, Option.filter_eq_some_iff]
  constructor
  · rintro ⟨found, accepted⟩
    obtain ⟨pipeline, member, rfl⟩ := List.mem_map.mp (List.mem_of_find?_eq_some found)
    have named := List.find?_some found
    exact ⟨pipeline, member, of_decide_eq_true named, rfl, accepted⟩
  · rintro ⟨pipeline, member, rfl, rfl, accepted⟩
    refine ⟨?_, accepted⟩
    cases found : store.view.find? (·.pipeline.id = pipeline.id) with
    | none =>
      have missing := List.find?_eq_none.mp found (store.gather pipeline)
        (List.mem_map_of_mem member)
      exact absurd (decide_eq_true rfl) missing
    | some other =>
      -- the primary key leaves only one enabled pipeline of that id
      obtain ⟨known, knownMember, rfl⟩ := List.mem_map.mp (List.mem_of_find?_eq_some found)
      have tested := List.find?_some found
      have named : known.id = pipeline.id := of_decide_eq_true tested
      rw [List.inj_on_of_nodup_map store.enabledPipelines_distinct knownMember member named]

namespace ManagerState

/-! ### The property and its condition -/

/-- No request and no Reload is in progress or still to come. -/
def Quiet (state : ManagerState) : Prop :=
  state.owed = 0 ∧ (∀ call, state.calls call = .idle) ∧ ∀ id, state.requests id = none

/-- The live executors are those of the intended pipelines, each built from the rows stored
now. -/
def Faithful (builds : Rows → Bool) (state : ManagerState) : Prop :=
  (∀ handle, state.Live handle →
    state.store.intended builds (state.pipelineOf handle) = some (state.handles handle).rows) ∧
  ∀ id rows, state.store.intended builds id = some rows →
    ∃ handle, state.Live handle ∧ state.pipelineOf handle = id ∧ (state.handles handle).rows = rows

/-- At rest, what runs is what is stored. -/
def RunsWhatIsStored (builds : Rows → Bool) (state : ManagerState) : Prop :=
  state.Quiet → state.Faithful builds

/-- The manager is not stopped and storage does not fail. -/
def Undisturbed : ManagerLabel → Prop
  | .stop | .stopAll | .stopAndWait _ | .stopReturn _ | .cancelParent | .listFailed _
  | .readFailed _ => False
  | _ => True

/-- The call is a Reload past its look at the stopped flag. -/
def pastCheck : ManagerCall → Bool
  | .draining _ | .waiting _ _ | .starting _ | .reading _ _ _ => true
  | _ => false

/-- The condition on a step: Reloads do not overlap, a request that triggers no Reload changes
nothing an enabled pipeline is built from, and a request that stops half way has changed nothing
of that kind. -/
def ReloadsCover (state : ManagerState) : ManagerLabel → Prop
  | .check call => ∀ other, other ≠ call → pastCheck (state.calls other) = false
  | .write id =>
    match state.requests id with
    | some { request, todo := next :: _, effective := _ } =>
      request.triggersReload = true ∨ (state.store.apply next).view = state.store.view
    | _ => True
  | .abortRequest id =>
    match state.requests id with
    | some inProgress => inProgress.effective = false
    | none => True
  | _ => True

/-! ### The invariant -/

/-- The Reload has started what it should for the pipelines before `rest`, and runs nothing for
those in `rest`. While the state is not stale, what it has started agrees with the store. -/
structure StartedBefore (builds : Rows → Bool) (state : ManagerState) (rest : List Pipeline) :
    Prop where
  distinct : (rest.map (·.id)).Nodup
  free : ∀ handle, state.Live handle → state.pipelineOf handle ∉ rest.map (·.id)
  agrees : state.stale = false → ∃ processed, state.store.enabledPipelines = processed ++ rest ∧
    (∀ handle, state.Live handle → ∃ pipeline ∈ processed,
      (state.handles handle).rows = state.store.gather pipeline ∧
        (state.store.gather pipeline).accepted builds = true) ∧
    ∀ pipeline ∈ processed, (state.store.gather pipeline).accepted builds = true →
      ∃ handle, state.Live handle ∧ (state.handles handle).rows = state.store.gather pipeline

/-- What is known of a call in each phase. -/
def CallKept (builds : Rows → Bool) (state : ManagerState) : ManagerCall → Prop
  | .draining todo | .waiting _ todo => ∀ handle, state.Live handle → handle ∈ todo
  | .starting todo => StartedBefore builds state todo
  | .reading rows plan todo => StartedBefore builds state (rows.pipeline :: todo) ∧
      (state.stale = false → ReadSoFar (state.store.gather rows.pipeline) rows plan)
  | _ => True

/-- A Reload that begins later is still to come. -/
def ReloadOwed (state : ManagerState) : Prop :=
  0 < state.owed ∨ (∃ call, state.calls call = .called) ∨
    ∃ id inProgress, state.requests id = some inProgress ∧
      inProgress.request.triggersReload = true ∧ inProgress.effective = true

/-- The invariant of an undisturbed run that keeps to the condition. -/
structure RestKept (builds : Rows → Bool) (state : ManagerState) : Prop where
  tracking : state.TrackingKept
  running : state.stopped = false ∧ state.parentDone = false
  one : ∀ call other, pastCheck (state.calls call) = true →
    pastCheck (state.calls other) = true → call = other
  calls : ∀ call, CallKept builds state (state.calls call)
  effective : ∀ id inProgress, state.requests id = some inProgress →
    inProgress.effective = true → inProgress.request.triggersReload = true
  owing : state.stale = true → state.ReloadOwed
  rest : state.stale = false → (∀ call, pastCheck (state.calls call) = false) →
    state.Faithful builds

theorem callKept_of_not_pastCheck {builds : Rows → Bool} {state : ManagerState}
    {phase : ManagerCall} (outside : pastCheck phase = false) : CallKept builds state phase := by
  cases phase <;> trivial

/-! ### Frames -/

/-- The executors are the same in both states. -/
structure SameExecutors (state after : ManagerState) : Prop where
  fresh : after.fresh = state.fresh
  rows : ∀ handle, (after.handles handle).rows = (state.handles handle).rows
  cancelled : ∀ handle, (after.handles handle).cancelled = (state.handles handle).cancelled

theorem sameExecutors_of_eq {state after : ManagerState} (fresh : after.fresh = state.fresh)
    (handles : after.handles = state.handles) : SameExecutors state after :=
  ⟨fresh, fun _ => by rw [handles], fun _ => by rw [handles]⟩

theorem sameExecutors_of_setHandle {state after : ManagerState} (handle : Nat) (changed : Handle)
    (fresh : after.fresh = state.fresh)
    (handles : after.handles = Function.update state.handles handle changed)
    (rows : changed.rows = (state.handles handle).rows)
    (cancelled : changed.cancelled = (state.handles handle).cancelled) :
    SameExecutors state after := by
  refine ⟨fresh, fun other => ?_, fun other => ?_⟩
  · by_cases same : other = handle
    · rw [handles, same, Function.update_self, rows]
    · rw [handles, Function.update_of_ne same]
  · by_cases same : other = handle
    · rw [handles, same, Function.update_self, cancelled]
    · rw [handles, Function.update_of_ne same]

theorem SameExecutors.live_iff {state after : ManagerState} (same : SameExecutors state after)
    (handle : Nat) : after.Live handle ↔ state.Live handle := by
  rw [Live, Live, same.fresh, same.cancelled]

theorem SameExecutors.pipelineOf {state after : ManagerState} (same : SameExecutors state after)
    (handle : Nat) : after.pipelineOf handle = state.pipelineOf handle := by
  rw [ManagerState.pipelineOf, ManagerState.pipelineOf, same.rows]

/-- Whatever makes a state not stale leaves the view of the store alone. -/
def Settled (state after : ManagerState) : Prop :=
  after.stale = false → state.stale = false ∧ after.store.view = state.store.view

theorem StartedBefore.frame {builds : Rows → Bool} {state after : ManagerState}
    {rest : List Pipeline} (started : StartedBefore builds state rest)
    (same : SameExecutors state after) (settled : Settled state after) :
    StartedBefore builds after rest := by
  refine ⟨started.distinct, fun handle live => ?_, fun fresh => ?_⟩
  · rw [same.pipelineOf]
    exact started.free handle ((same.live_iff handle).mp live)
  · obtain ⟨notStale, view⟩ := settled fresh
    obtain ⟨enabled, gathered⟩ := Store.gather_of_view_eq view
    obtain ⟨processed, split, built, complete⟩ := started.agrees notStale
    have gather : ∀ pipeline ∈ processed,
        after.store.gather pipeline = state.store.gather pipeline := by
      intro pipeline member
      refine gathered pipeline ?_
      rw [split]
      exact List.mem_append_left _ member
    refine ⟨processed, enabled.trans split, fun handle live => ?_, fun pipeline member accepted => ?_⟩
    · obtain ⟨pipeline, member, rows, accepted⟩ := built handle ((same.live_iff handle).mp live)
      refine ⟨pipeline, member, ?_, ?_⟩
      · rw [same.rows, rows, gather pipeline member]
      · rw [gather pipeline member]
        exact accepted
    · rw [gather pipeline member] at accepted ⊢
      obtain ⟨handle, live, rows⟩ := complete pipeline member accepted
      exact ⟨handle, (same.live_iff handle).mpr live, (same.rows handle).trans rows⟩

theorem CallKept.frame {builds : Rows → Bool} {state after : ManagerState} {phase : ManagerCall}
    (kept : CallKept builds state phase) (same : SameExecutors state after)
    (settled : Settled state after) : CallKept builds after phase := by
  cases phase with
  | idle | called | stopWaiting => trivial
  | draining todo | waiting handle todo =>
    exact fun handle live => kept handle ((same.live_iff handle).mp live)
  | starting todo => exact StartedBefore.frame kept same settled
  | reading rows plan todo =>
    refine ⟨kept.1.frame same settled, fun fresh => ?_⟩
    obtain ⟨notStale, view⟩ := settled fresh
    obtain ⟨processed, split, -⟩ := kept.1.agrees notStale
    have member : rows.pipeline ∈ state.store.enabledPipelines := by
      rw [split]
      exact List.mem_append_right _ List.mem_cons_self
    rw [(Store.gather_of_view_eq view).2 rows.pipeline member]
    exact kept.2 notStale

theorem Faithful.frame {builds : Rows → Bool} {state after : ManagerState}
    (faithful : state.Faithful builds) (same : SameExecutors state after)
    (view : after.store.view = state.store.view) : after.Faithful builds := by
  have intended : ∀ id, after.store.intended builds id = state.store.intended builds id := by
    intro id
    rw [Store.intended, Store.intended, view]
  refine ⟨fun handle live => ?_, fun id rows wanted => ?_⟩
  · rw [intended, same.pipelineOf, same.rows]
    exact faithful.1 handle ((same.live_iff handle).mp live)
  · obtain ⟨handle, live, named, built⟩ := faithful.2 id rows (intended id ▸ wanted)
    exact ⟨handle, (same.live_iff handle).mpr live, (same.pipelineOf handle).trans named,
      (same.rows handle).trans built⟩

theorem RestKept.aside {builds : Rows → Bool} {state after : ManagerState}
    (kept : RestKept builds state) (same : SameExecutors state after)
    (settled : Settled state after) (tracking : after.TrackingKept)
    (running : after.stopped = state.stopped ∧ after.parentDone = state.parentDone)
    (calls : ∀ call, after.calls call = state.calls call ∨
      (pastCheck (after.calls call) = false ∧ pastCheck (state.calls call) = false))
    (effective : ∀ id inProgress, after.requests id = some inProgress →
      inProgress.effective = true → inProgress.request.triggersReload = true)
    (owing : after.stale = true → after.ReloadOwed) : RestKept builds after := by
  have past : ∀ call, pastCheck (after.calls call) = pastCheck (state.calls call) := by
    intro call
    rcases calls call with equal | ⟨out, was⟩
    · rw [equal]
    · rw [out, was]
  refine ⟨tracking, ⟨running.1.trans kept.running.1, running.2.trans kept.running.2⟩,
    fun call other first second => ?_, fun call => ?_, effective, owing, fun fresh outside => ?_⟩
  · exact kept.one call other (past call ▸ first) (past other ▸ second)
  · rcases calls call with equal | ⟨out, -⟩
    · rw [equal]
      exact (kept.calls call).frame same settled
    · exact callKept_of_not_pastCheck out
  · obtain ⟨notStale, view⟩ := settled fresh
    exact (kept.rest notStale fun call => (past call).symm.trans (outside call)).frame same view

theorem RestKept.progress {builds : Rows → Bool} {state after : ManagerState}
    (kept : RestKept builds state) (call : Nat) (phase : ManagerCall)
    (past : pastCheck (state.calls call) = true) (tracking : after.TrackingKept)
    (running : after.stopped = state.stopped ∧ after.parentDone = state.parentDone)
    (beside : after.stale = state.stale ∧ after.owed = state.owed ∧
      after.requests = state.requests)
    (calls : after.calls = Function.update state.calls call phase)
    (own : CallKept builds after phase)
    (rest : pastCheck phase = false → after.stale = false → after.Faithful builds) :
    RestKept builds after := by
  have others : ∀ other, other ≠ call → pastCheck (state.calls other) = false := by
    intro other different
    cases found : pastCheck (state.calls other) with
    | false => rfl
    | true => exact absurd (kept.one other call found past) different
  have only : ∀ other, pastCheck (after.calls other) = true → other = call := by
    intro other found
    by_contra different
    rw [calls, Function.update_of_ne different, others other different] at found
    cases found
  refine ⟨tracking, ⟨running.1.trans kept.running.1, running.2.trans kept.running.2⟩,
    fun first second one two => (only first one).trans (only second two).symm, fun other => ?_,
    ?_, fun stale => ?_, fun fresh outside => ?_⟩
  · by_cases same : other = call
    · rw [calls, same, Function.update_self]
      exact own
    · rw [calls, Function.update_of_ne same]
      exact callKept_of_not_pastCheck (others other same)
  · rw [beside.2.2]
    exact kept.effective
  · rcases kept.owing (beside.1 ▸ stale) with triggered | ⟨caller, called⟩ | requested
    · exact Or.inl (beside.2.1 ▸ triggered)
    · refine Or.inr (Or.inl ⟨caller, ?_⟩)
      have different : caller ≠ call := by
        intro same
        rw [← same, called] at past
        cases past
      rw [calls, Function.update_of_ne different]
      exact called
    · exact Or.inr (Or.inr (beside.2.2 ▸ requested))
  · refine rest ?_ fresh
    have out := outside call
    rw [calls, Function.update_self] at out
    exact out

/-! ### The steps of a Reload -/

theorem startedBefore_list {builds : Rows → Bool} {state : ManagerState}
    (drained : ∀ handle, ¬ state.Live handle) :
    StartedBefore builds state state.store.enabledPipelines where
  distinct := state.store.enabledPipelines_distinct
  free handle live := absurd live (drained handle)
  agrees _ := ⟨[], rfl, fun handle live => absurd live (drained handle),
    fun _ member => nomatch member⟩

theorem StartedBefore.skip {builds : Rows → Bool} {state : ManagerState} {pipeline : Pipeline}
    {todo : List Pipeline} (started : StartedBefore builds state (pipeline :: todo))
    (rejected : state.stale = false → (state.store.gather pipeline).accepted builds = false) :
    StartedBefore builds state todo := by
  refine ⟨(List.nodup_cons.mp started.distinct).2, fun handle live member => ?_, fun fresh => ?_⟩
  · exact started.free handle live (List.mem_cons_of_mem _ member)
  · obtain ⟨processed, split, built, complete⟩ := started.agrees fresh
    refine ⟨processed ++ [pipeline], by rw [split, List.append_assoc]; rfl, fun handle live => ?_,
      fun other member accepted => ?_⟩
    · obtain ⟨known, member, facts⟩ := built handle live
      exact ⟨known, List.mem_append_left _ member, facts⟩
    · rcases List.mem_append.mp member with earlier | last
      · exact complete other earlier accepted
      · rw [List.mem_singleton.mp last, rejected fresh] at accepted
        cases accepted

theorem StartedBefore.register {builds : Rows → Bool} {state : ManagerState} {rows : Rows}
    {todo : List Pipeline} (started : StartedBefore builds state (rows.pipeline :: todo))
    (read : state.stale = false → rows = state.store.gather rows.pipeline)
    (accepted : rows.accepted builds = true) (running : state.parentDone = false) (call : Nat) :
    StartedBefore builds (state.registerRows call rows) todo := by
  have newLive : (state.registerRows call rows).Live state.fresh := by
    refine ⟨Nat.lt_succ_self _, ?_⟩
    simp only [registerRows, Function.update_self]
    exact running
  have newRows : ((state.registerRows call rows).handles state.fresh).rows = rows := by
    simp only [registerRows, Function.update_self]
  refine ⟨(List.nodup_cons.mp started.distinct).2, fun handle live member => ?_, fun fresh => ?_⟩
  · rcases registerRows_live live with rfl | ⟨old, was⟩
    · rw [(state.registerRows_fresh call rows).1] at member
      exact (List.nodup_cons.mp started.distinct).1 member
    · rw [pipelineOf, registerRows_handles state call rows old] at member
      exact started.free handle was (List.mem_cons_of_mem _ member)
  · obtain ⟨processed, split, built, complete⟩ := started.agrees fresh
    have gathered := read fresh
    refine ⟨processed ++ [rows.pipeline], ?_, fun handle live => ?_, fun other member wanted => ?_⟩
    · rw [List.append_assoc]
      exact split
    · rcases registerRows_live live with rfl | ⟨old, was⟩
      · exact ⟨rows.pipeline, List.mem_append_right _ (List.mem_singleton_self _),
          newRows.trans gathered, gathered ▸ accepted⟩
      · obtain ⟨known, member, sameRows, ok⟩ := built handle was
        rw [registerRows_handles state call rows old]
        exact ⟨known, List.mem_append_left _ member, sameRows, ok⟩
    · rcases List.mem_append.mp member with earlier | last
      · obtain ⟨handle, live, sameRows⟩ := complete other earlier wanted
        have old : handle ≠ state.fresh := Nat.ne_of_lt live.1
        refine ⟨handle, ⟨Nat.lt_succ_of_lt live.1, ?_⟩, ?_⟩
        · rw [registerRows_handles state call rows old]
          exact live.2
        · rw [registerRows_handles state call rows old]
          exact sameRows
      · rw [List.mem_singleton.mp last]
        exact ⟨state.fresh, newLive, newRows.trans gathered⟩

theorem StartedBefore.faithful {builds : Rows → Bool} {state : ManagerState}
    (started : StartedBefore builds state []) (fresh : state.stale = false) :
    state.Faithful builds := by
  obtain ⟨processed, split, built, complete⟩ := started.agrees fresh
  rw [List.append_nil] at split
  refine ⟨fun handle live => ?_, fun id rows wanted => ?_⟩
  · obtain ⟨pipeline, member, rows, accepted⟩ := built handle live
    refine (state.store.intended_eq_some_iff builds _ _).mpr
      ⟨pipeline, split ▸ member, ?_, rows, rows ▸ accepted⟩
    rw [pipelineOf, rows]
    rfl
  · obtain ⟨pipeline, member, named, rfl, accepted⟩ :=
      (state.store.intended_eq_some_iff builds id rows).mp wanted
    obtain ⟨handle, live, rows⟩ := complete pipeline (split ▸ member) accepted
    refine ⟨handle, live, ?_, rows⟩
    rw [pipelineOf, rows]
    exact named

theorem RestKept.registersFree {builds : Rows → Bool} {state : ManagerState}
    (kept : RestKept builds state) (label : ManagerLabel) : RegistersFree builds state label := by
  unfold RegistersFree
  split
  · rename_i call
    split
    · rename_i rows todo phase
      intro accepted handle stored
      have own := kept.calls call
      rw [phase] at own
      obtain ⟨taken, named⟩ := kept.tracking.keyed _ _ stored
      cases live : (state.handles handle).cancelled with
      | true => rfl
      | false =>
        exact absurd (named ▸ List.mem_cons_self) (own.1.free handle ⟨taken, live⟩)
    · trivial
  · trivial

/-! ### Every step -/

theorem RestKept.call {builds : Rows → Bool} {state after : ManagerState}
    (kept : RestKept builds state) (call : Nat) (idle : state.calls call = .idle)
    (tracking : after.TrackingKept)
    (running : after.stopped = state.stopped ∧ after.parentDone = state.parentDone)
    (executors : after.fresh = state.fresh ∧ after.handles = state.handles)
    (stored : after.store = state.store ∧ after.stale = state.stale ∧
      after.requests = state.requests)
    (calls : after.calls = Function.update state.calls call .called) : RestKept builds after := by
  refine kept.aside (sameExecutors_of_eq executors.1 executors.2) ?_ tracking running ?_ ?_ ?_
  · intro fresh
    rw [stored.2.1] at fresh
    exact ⟨fresh, by rw [stored.1]⟩
  · intro other
    by_cases same : other = call
    · rw [calls, same, Function.update_self, idle]
      exact Or.inr ⟨rfl, rfl⟩
    · rw [calls, Function.update_of_ne same]
      exact Or.inl rfl
  · rw [stored.2.2]
    exact kept.effective
  · intro _
    exact Or.inr (Or.inl ⟨call, by rw [calls, Function.update_self]⟩)

theorem RestKept.own {builds : Rows → Bool} {state : ManagerState} (kept : RestKept builds state)
    {call : Nat} {phase : ManagerCall} (found : state.calls call = phase) :
    CallKept builds state phase :=
  found ▸ kept.calls call

theorem RestKept.gathered {builds : Rows → Bool} {state : ManagerState}
    (kept : RestKept builds state) {call : Nat} {rows : Rows} {todo : List Pipeline}
    (phase : state.calls call = .reading rows [] todo) (fresh : state.stale = false) :
    rows = state.store.gather rows.pipeline :=
  ((kept.own phase).2 fresh).eq_of_nil

theorem RestKept.advance {builds : Rows → Bool} {state : ManagerState}
    (kept : RestKept builds state) {call : Nat} {before phase : ManagerCall}
    (found : state.calls call = before) (past : pastCheck before = true)
    (still : pastCheck phase = true) (tracking : (state.setCall call phase).TrackingKept)
    (own : CallKept builds state phase) : RestKept builds (state.setCall call phase) :=
  kept.progress call phase (found ▸ past) tracking ⟨rfl, rfl⟩ ⟨rfl, rfl, rfl⟩ rfl
    (own.frame (sameExecutors_of_eq rfl rfl) fun fresh => ⟨fresh, rfl⟩)
    fun out => absurd (out.symm.trans still) Bool.false_ne_true

theorem RestKept.cancelOld {builds : Rows → Bool} {state : ManagerState}
    (kept : RestKept builds state) {call handle : Nat} {todo : List Nat}
    (phase : state.calls call = .draining todo)
    (tracking : ((state.cancel handle).setCall call
      (.waiting handle (todo.erase handle))).TrackingKept) :
    RestKept builds ((state.cancel handle).setCall call (.waiting handle (todo.erase handle))) := by
  refine kept.progress call (.waiting handle (todo.erase handle)) (by rw [phase]; rfl) tracking
    ⟨rfl, rfl⟩ ⟨rfl, rfl, rfl⟩ rfl ?_ (fun out => absurd out.symm Bool.false_ne_true)
  intro other live
  have uncancelled := live.2
  have different : other ≠ handle := by
    rintro rfl
    simp only [setCall, cancel, setHandle, Function.update_self] at uncancelled
    cases uncancelled
  simp only [setCall, cancel, setHandle, Function.update_of_ne different] at uncancelled
  exact (List.mem_erase_of_ne different).mpr (kept.own phase other ⟨live.1, uncancelled⟩)

theorem RestKept.check {builds : Rows → Bool} {state after : ManagerState}
    (kept : RestKept builds state) (call : Nat)
    (alone : ∀ other, other ≠ call → pastCheck (state.calls other) = false)
    (tracking : after.TrackingKept)
    (equal : after = { state.setCall call (.draining state.activeHandles) with stale := false }) :
    RestKept builds after := by
  subst equal
  have only : ∀ other, pastCheck (Function.update state.calls call
      (.draining state.activeHandles) other) = true → other = call := by
    intro other found
    by_contra different
    rw [Function.update_of_ne different, alone other different] at found
    cases found
  refine ⟨tracking, kept.running, fun first second one two =>
    (only first one).trans (only second two).symm, fun other => ?_, kept.effective,
    (fun stale => nomatch stale), fun _ outside => ?_⟩
  · by_cases same : other = call
    · simp only [setCall, same, Function.update_self]
      intro handle live
      refine List.mem_filter.mpr ⟨List.mem_range.mpr live.1, ?_⟩
      exact decide_eq_true (kept.tracking.tracked handle live)
    · simp only [setCall, Function.update_of_ne same]
      exact callKept_of_not_pastCheck (alone other same)
  · have out := outside call
    simp only [setCall, Function.update_self] at out
    cases out

theorem RestKept.write {builds : Rows → Bool} {state after : ManagerState}
    (kept : RestKept builds state) (id : Nat) {request : Request} {next : Write}
    {todo : List Write} {effective : Bool}
    (found : state.requests id = some { request, todo := next :: todo, effective })
    (covered : request.triggersReload = true ∨ (state.store.apply next).view = state.store.view)
    (tracking : after.TrackingKept)
    (equal : after = { state.setRequest id (some { request, todo
                                                   effective := effective ||
                                                    decide ((state.store.apply next).view ≠
                                                      state.store.view) }) with
      store := state.store.apply next
      stale := state.stale || decide ((state.store.apply next).view ≠ state.store.view) }) :
    RestKept builds after := by
  subst equal
  refine kept.aside (sameExecutors_of_eq rfl rfl) ?_ tracking ⟨rfl, rfl⟩ (fun _ => Or.inl rfl)
    ?_ ?_
  · intro fresh
    obtain ⟨notStale, unchanged⟩ := Bool.or_eq_false_iff.mp fresh
    exact ⟨notStale, by simpa using unchanged⟩
  · intro other inProgress present changed
    by_cases same : other = id
    · rw [same] at present
      simp only [setRequest, Function.update_self, Option.some_inj] at present
      subst present
      rcases Bool.or_eq_true_iff.mp changed with before | now
      · exact kept.effective id { request, todo := next :: todo, effective } found before
      · rcases covered with triggers | unchanged
        · exact triggers
        · simp [unchanged] at now
    · simp only [setRequest, Function.update_of_ne same] at present
      exact kept.effective other inProgress present changed
  · intro stale
    by_cases changes : (state.store.apply next).view = state.store.view
    · -- the old reason to owe a Reload stays
      have was : state.stale = true := by simpa [changes] using stale
      rcases kept.owing was with triggered | called | ⟨other, inProgress, present, triggers, done⟩
      · exact Or.inl triggered
      · exact Or.inr (Or.inl called)
      · refine Or.inr (Or.inr ?_)
        by_cases same : other = id
        · rw [same, found, Option.some_inj] at present
          subst present
          exact ⟨id, _, Function.update_self .., triggers, Bool.or_eq_true_iff.mpr (Or.inl done)⟩
        · refine ⟨other, inProgress, ?_, triggers, done⟩
          simp only [setRequest, Function.update_of_ne same]
          exact present
    · exact Or.inr (Or.inr ⟨id, _, Function.update_self .., covered.resolve_right changes,
        Bool.or_eq_true_iff.mpr (Or.inr (decide_eq_true changes))⟩)

theorem RestKept.endRequest {builds : Rows → Bool} {state after : ManagerState}
    (kept : RestKept builds state) (id : Nat) {inProgress : RequestState}
    (found : state.requests id = some inProgress)
    (paid : inProgress.effective = false ∨ 0 < after.owed) (owed : state.owed ≤ after.owed)
    (tracking : after.TrackingKept)
    (running : after.stopped = state.stopped ∧ after.parentDone = state.parentDone)
    (executors : after.fresh = state.fresh ∧ after.handles = state.handles)
    (stored : after.store = state.store ∧ after.stale = state.stale ∧ after.calls = state.calls)
    (requests : after.requests = Function.update state.requests id none) :
    RestKept builds after := by
  refine kept.aside (sameExecutors_of_eq executors.1 executors.2) ?_ tracking running ?_ ?_ ?_
  · intro fresh
    rw [stored.2.1] at fresh
    exact ⟨fresh, by rw [stored.1]⟩
  · intro call
    rw [stored.2.2]
    exact Or.inl rfl
  · intro other known present
    by_cases same : other = id
    · rw [requests, same, Function.update_self] at present
      cases present
    · rw [requests, Function.update_of_ne same] at present
      exact kept.effective other known present
  · intro stale
    rcases kept.owing (stored.2.1 ▸ stale) with triggered | ⟨call, called⟩ |
      ⟨other, known, present, triggers, done⟩
    · exact Or.inl (lt_of_lt_of_le triggered owed)
    · exact Or.inr (Or.inl ⟨call, stored.2.2 ▸ called⟩)
    · by_cases same : other = id
      · rcases paid with nothing | positive
        · rw [same, found, Option.some_inj] at present
          rw [← present, nothing] at done
          cases done
        · exact Or.inl positive
      · refine Or.inr (Or.inr ⟨other, known, ?_, triggers, done⟩)
        rw [requests, Function.update_of_ne same]
        exact present

theorem RestKept.beginRequest {builds : Rows → Bool} {state : ManagerState}
    (kept : RestKept builds state) {id : Nat} {request : Request}
    (free : state.requests id = none)
    (tracking : (state.setRequest id
      (some { request, todo := request.writes, effective := false })).TrackingKept) :
    RestKept builds (state.setRequest id
      (some { request, todo := request.writes, effective := false })) := by
  refine kept.aside (sameExecutors_of_eq rfl rfl) (fun fresh => ⟨fresh, rfl⟩) tracking
    ⟨rfl, rfl⟩ (fun _ => Or.inl rfl) ?_ ?_
  · intro other inProgress present changed
    by_cases same : other = id
    · rw [same] at present
      simp only [setRequest, Function.update_self, Option.some_inj] at present
      rw [← present] at changed
      cases changed
    · simp only [setRequest, Function.update_of_ne same] at present
      exact kept.effective other inProgress present changed
  · intro stale
    rcases kept.owing stale with triggered | called | ⟨other, known, present, facts⟩
    · exact Or.inl triggered
    · exact Or.inr (Or.inl called)
    · refine Or.inr (Or.inr ⟨other, known, ?_, facts⟩)
      have different : other ≠ id := by
        rintro rfl
        rw [free] at present
        cases present
      simp only [setRequest, Function.update_of_ne different]
      exact present

theorem RestKept.finishRequest {builds : Rows → Bool} {state : ManagerState}
    (kept : RestKept builds state) {id : Nat} {request : Request} {effective : Bool}
    (found : state.requests id = some { request, todo := [], effective })
    (tracking : TrackingKept { state.setRequest id none with
      owed := if request.triggersReload then state.owed + 1 else state.owed }) :
    RestKept builds { state.setRequest id none with
      owed := if request.triggersReload then state.owed + 1 else state.owed } := by
  refine kept.endRequest id found ?_ ?_ tracking ⟨rfl, rfl⟩ ⟨rfl, rfl⟩ ⟨rfl, rfl, rfl⟩ rfl
  · cases triggers : request.triggersReload with
    | true =>
      refine Or.inr ?_
      rw [if_pos rfl]
      exact Nat.succ_pos _
    | false =>
      refine Or.inl ?_
      cases changed : effective with
      | false => rfl
      | true =>
        have covers := kept.effective id _ found changed
        rw [triggers] at covers
        cases covers
  · dsimp only
    split
    · exact Nat.le_succ _
    · exact le_refl _

/-- Every step without disturbance keeps what holds at rest. -/
theorem step_restKept {builds : Rows → Bool} {state after : ManagerState} {label : ManagerLabel}
    (kept : RestKept builds state) (undisturbed : Undisturbed label)
    (covered : ReloadsCover state label) (fired : state.step builds label = some after) :
    RestKept builds after := by
  have tracking := step_trackingKept kept.tracking (kept.registersFree label) fired
  cases move_of_step fired with
  | reload phase | spawn phase =>
    exact kept.call _ phase tracking ⟨rfl, rfl⟩ ⟨rfl, rfl⟩ ⟨rfl, rfl, rfl⟩ rfl
  | refused _ stopped => exact absurd (kept.running.1.symm.trans stopped) Bool.false_ne_true
  | check => exact kept.check _ covered tracking rfl
  | cancelOld phase => exact kept.cancelOld phase tracking
  | drained phase =>
    have listed := kept.own phase
    exact kept.advance phase rfl rfl tracking listed
  | list phase =>
    have none : ∀ handle, ¬ state.Live handle := fun handle live =>
      absurd (kept.own phase handle live) List.not_mem_nil
    exact kept.advance phase rfl rfl tracking (startedBefore_list none)
  | beginStart phase =>
    exact kept.advance phase rfl rfl tracking ⟨kept.own phase, fun _ => ReadSoFar.begun⟩
  | @read _ rows next _ _ phase =>
    have same : (readRow state.store rows next).1.pipeline = rows.pipeline := by
      cases next <;> rfl
    refine kept.advance phase rfl rfl tracking ⟨?_, fun fresh => ?_⟩
    · rw [same]
      exact (kept.own phase).1
    · rw [same]
      exact ((kept.own phase).2 fresh).read
  | @register call _ todo phase accepted =>
    refine kept.progress call (.starting todo) (by rw [phase]; rfl) tracking ⟨rfl, rfl⟩
      ⟨rfl, rfl, rfl⟩ rfl ?_ (fun out => absurd out.symm Bool.false_ne_true)
    exact ((kept.own phase).1.register (kept.gathered phase) accepted kept.running.2 call).frame
      (sameExecutors_of_eq rfl rfl) fun fresh => ⟨fresh, rfl⟩
  | rejected phase rejected =>
    refine kept.advance phase rfl rfl tracking ((kept.own phase).1.skip fun fresh => ?_)
    rw [← kept.gathered phase fresh]
    exact rejected
  | @finishReload call phase =>
    refine kept.progress call .idle (by rw [phase]; rfl) tracking ⟨rfl, rfl⟩ ⟨rfl, rfl, rfl⟩ rfl
      trivial fun _ fresh => ?_
    exact (StartedBefore.faithful (kept.own phase) fresh).frame (sameExecutors_of_eq rfl rfl) rfl
  | unwind | exit =>
    exact kept.aside (sameExecutors_of_setHandle _ _ rfl rfl rfl rfl) (fun fresh => ⟨fresh, rfl⟩)
      tracking ⟨rfl, rfl⟩ (fun _ => Or.inl rfl) kept.effective kept.owing
  | beginRequest free => exact kept.beginRequest free tracking
  | write found =>
    rw [ReloadsCover, found] at covered
    exact kept.write _ found covered tracking rfl
  | abortRequest found =>
    rw [ReloadsCover, found] at covered
    exact kept.endRequest _ found (Or.inl covered) (le_refl _) tracking ⟨rfl, rfl⟩ ⟨rfl, rfl⟩
      ⟨rfl, rfl, rfl⟩ rfl
  | finishRequest found => exact kept.finishRequest found tracking
  | stop | stopAll | stopAndWait | stopReturn | cancelParent | listFailed | readFailed =>
    exact undisturbed.elim

/-! ### Every run -/

theorem initial_restKept (builds : Rows → Bool) (store : Store) :
    RestKept builds (initial store 1) where
  tracking := initial_trackingKept store 1
  running := ⟨rfl, rfl⟩
  one _ _ past := nomatch past
  calls _ := trivial
  effective _ _ found := nomatch found
  owing _ := Or.inl Nat.one_pos
  rest fresh := nomatch fresh

/-- In every run of a manager that is not stopped, over storage that does not fail, whose Reloads
do not overlap and in which nothing an enabled pipeline is built from changes without a Reload
after it: whenever nothing is in progress, what runs is what is stored. -/
theorem runsWhatIsStored_of_reloadsCover (builds : Rows → Bool) (store : Store)
    (state : ManagerState)
    (reached : Runs.Reaches (ManagerState.step builds)
      (fun state label => Undisturbed label ∧ ReloadsCover state label) (initial store 1) state) :
    state.RunsWhatIsStored builds := by
  have kept : RestKept builds state :=
    reached.invariant (RestKept builds) (initial_restKept builds store)
      fun _ _ _ kept permitted fired => step_restKept kept permitted.1 permitted.2 fired
  rintro ⟨unowed, idle, unrequested⟩
  have fresh : state.stale = false := by
    cases stale : state.stale with
    | false => rfl
    | true =>
      rcases kept.owing stale with triggered | ⟨call, called⟩ | ⟨id, inProgress, present, -⟩
      · rw [unowed] at triggered
        exact absurd triggered (Nat.lt_irrefl 0)
      · rw [idle call] at called
        cases called
      · rw [unrequested id] at present
        cases present
  exact kept.rest fresh fun call => by rw [idle call]; rfl

/-! ### Rest with the wrong rows -/

/-- The call or request a label is a step of. -/
def mentions : ManagerLabel → Option Nat
  | .reload call | .spawn call | .check call | .cancelOld call _ | .drained call | .list call
  | .listFailed call | .beginStart call | .read call | .readFailed call | .register call
  | .finishReload call | .stopAndWait call | .stopReturn call => some call
  | .beginRequest id _ | .write id | .abortRequest id | .finishRequest id => some id
  | .stop | .stopAll | .unwind _ | .exit _ | .cancelParent => none

/-- The label is an undisturbed step of one of the first two calls or requests. -/
def SmallRun (label : ManagerLabel) : Prop :=
  (∀ index ∈ mentions label, index < 2) ∧ Undisturbed label

instance (label : ManagerLabel) : Decidable (Undisturbed label) := by
  unfold Undisturbed
  split <;> infer_instance

instance (label : ManagerLabel) : Decidable (SmallRun label) :=
  inferInstanceAs (Decidable (_ ∧ _))

theorem step_beside {builds : Rows → Bool} {state after : ManagerState} {label : ManagerLabel}
    {index : Nat} (other : ∀ moving ∈ mentions label, index ≠ moving)
    (fired : state.step builds label = some after) :
    after.calls index = state.calls index ∧ after.requests index = state.requests index := by
  have call : ∀ moving phase, moving ∈ mentions label →
      Function.update state.calls moving phase index = state.calls index :=
    fun moving phase member => Function.update_of_ne (other moving member) ..
  have request : ∀ moving changed, moving ∈ mentions label →
      Function.update state.requests moving changed index = state.requests index :=
    fun moving changed member => Function.update_of_ne (other moving member) ..
  cases move_of_step fired with
  | stop | stopAll | cancelParent | unwind | exit => exact ⟨rfl, rfl⟩
  | beginRequest | write | abortRequest | finishRequest => exact ⟨rfl, request _ _ rfl⟩
  | _ => exact ⟨call _ _ rfl, rfl⟩

theorem idle_of_smallRun {builds : Rows → Bool} {store : Store} {owed : Nat} {state : ManagerState}
    (reached : Runs.Reaches (ManagerState.step builds) (fun _ label => SmallRun label)
      (initial store owed) state) (index : Nat) (beyond : 2 ≤ index) :
    state.calls index = .idle ∧ state.requests index = none := by
  refine reached.invariant (fun state => state.calls index = .idle ∧ state.requests index = none)
    ⟨rfl, rfl⟩ ?_
  intro before label after unused small fired
  have other : ∀ moving ∈ mentions label, index ≠ moving := by
    intro moving member same
    exact absurd (small.1 moving member) (not_lt.mpr (same ▸ beyond))
  obtain ⟨calls, requests⟩ := step_beside other fired
  exact ⟨calls.trans unused.1, requests.trans unused.2⟩

/-- Nothing is in progress among the first two calls and requests. -/
def looksQuiet (state : ManagerState) : Bool :=
  decide (state.owed = 0 ∧ (state.requests 0).isNone ∧ (state.requests 1).isNone) &&
  match state.calls 0, state.calls 1 with
  | .idle, .idle => true
  | _, _ => false

theorem quiet_of_looksQuiet {builds : Rows → Bool} {store : Store} {owed : Nat}
    {state : ManagerState}
    (reached : Runs.Reaches (ManagerState.step builds) (fun _ label => SmallRun label)
      (initial store owed) state) (looks : looksQuiet state = true) : state.Quiet := by
  obtain ⟨facts, idle⟩ := Bool.and_eq_true_iff.mp looks
  obtain ⟨unowed, firstNone, secondNone⟩ := of_decide_eq_true facts
  refine ⟨unowed, fun call => ?_, fun id => ?_⟩
  · split at idle
    · rename_i firstIdle secondIdle
      match call with
      | 0 => exact firstIdle
      | 1 => exact secondIdle
      | more + 2 => exact (idle_of_smallRun reached (more + 2) (Nat.le_add_left 2 more)).1
    · cases idle
  · match id with
    | 0 => exact Option.isNone_iff_eq_none.mp firstNone
    | 1 => exact Option.isNone_iff_eq_none.mp secondNone
    | more + 2 => exact (idle_of_smallRun reached (more + 2) (Nat.le_add_left 2 more)).2

/-- The executor is live but its rows are not the intended ones. -/
def runsOtherRows (handle : Nat) (state : ManagerState) : Bool :=
  decide (handle < state.fresh ∧ (state.handles handle).cancelled = false ∧
    state.store.intended (fun _ => true) (state.pipelineOf handle) ≠
      some (state.handles handle).rows)

theorem not_runsWhatIsStored {handle : Nat} {state : ManagerState} (quiet : state.Quiet)
    (other : runsOtherRows handle state = true) : ¬ state.RunsWhatIsStored fun _ => true := by
  obtain ⟨started, live, unintended⟩ := of_decide_eq_true other
  intro stored
  exact unintended ((stored quiet).1 handle ⟨started, live⟩)

/-- From its look at the flag, a Reload that finds nothing running, up to its registration. -/
def goOn (call : Nat) : List ManagerLabel :=
  [.check call, .list call, .beginStart call] ++ List.replicate readPlan.length (.read call)

/-- After the boot the destination is pointed at another broker. -/
def editConnection : List ManagerLabel :=
  [.spawn 0] ++ goOn 0 ++ [.register 0, .finishReload 0,
    .beginRequest 0 (.updateConnection { id := "out", tenantID := "t", type := "rabbitmq",
                                         url := "amqp://new" }),
    .write 0, .finishRequest 0]

/-- A pipeline is updated while the Reload of the boot is about to register it; the Reload the
update triggers overtakes it, and the old rows are registered last. -/
def overtakenReload : List ManagerLabel :=
  [.spawn 0] ++ goOn 0 ++
    [.beginRequest 0 (.updatePipeline { id := "p", tenantID := "t", sourceID := "in",
                                        destinationID := "out", workers := 4 }),
      .write 0, .finishRequest 0, .spawn 1] ++ goOn 1 ++
    [.register 1, .finishReload 1, .register 0, .finishReload 0]

/-- The history, undisturbed as it is, leads to a state that does not run what is stored. -/
def RestsElsewhere (history : List ManagerLabel) : Prop :=
  ∃ state,
    Runs.exec (ManagerState.step fun _ => true) (fun _ label => SmallRun label)
      (initial oneStore 1) history = some state ∧
    Runs.Reaches (ManagerState.step fun _ => true) (fun _ label => Undisturbed label)
      (initial oneStore 1) state ∧
    ¬ state.RunsWhatIsStored fun _ => true

theorem restsElsewhere_of_tested {history : List ManagerLabel} (handle : Nat)
    (tested : (Runs.exec (ManagerState.step fun _ => true) (fun _ label => SmallRun label)
      (initial oneStore 1) history).any (fun state =>
        looksQuiet state && runsOtherRows handle state) = true) : RestsElsewhere history := by
  obtain ⟨state, executed, passed⟩ := (Option.any_eq_true _ _).mp tested
  obtain ⟨looks, other⟩ := Bool.and_eq_true_iff.mp passed
  have reached := Runs.reaches_of_exec _ _ _ executed
  exact ⟨state, executed, reached.mono fun _ _ _ small => small.2,
    not_runsWhatIsStored (quiet_of_looksQuiet reached looks) other⟩

/-- Nothing is in progress any more, and yet an executor runs on rows that are not stored: after
an edited connection, whose request triggers no Reload, and after two overlapping Reloads. -/
theorem rest_with_other_rows : RestsElsewhere editConnection ∧ RestsElsewhere overtakenReload :=
  ⟨restsElsewhere_of_tested 0 (by decide), restsElsewhere_of_tested 1 (by decide)⟩

/-- The pipeline is updated after the boot, and the Reload this triggers replaces its
executor. -/
def updateAndReload : List ManagerLabel :=
  [.spawn 0] ++ goOn 0 ++ [.register 0, .finishReload 0,
    .beginRequest 0 (.updatePipeline { id := "p", tenantID := "t", sourceID := "in",
                                       destinationID := "out", workers := 4 }),
    .write 0, .finishRequest 0, .spawn 0, .check 0, .cancelOld 0 0, .unwind 0, .exit 0, .drained 0,
    .list 0, .beginStart 0] ++ List.replicate readPlan.length (.read 0) ++
    [.register 0, .finishReload 0]

/-- The condition as far as the first two calls go. -/
def looksCovered (state : ManagerState) : ManagerLabel → Prop
  | .check _ => pastCheck (state.calls 0) = false ∧ pastCheck (state.calls 1) = false
  | .write id =>
    match state.requests id with
    | some { request, todo := _, effective := _ } => request.triggersReload = true
    | none => True
  | .abortRequest _ => False
  | _ => True

instance (state : ManagerState) (label : ManagerLabel) : Decidable (looksCovered state label) := by
  unfold looksCovered
  split
  · infer_instance
  · split <;> infer_instance
  · infer_instance
  · infer_instance

theorem reloadsCover_of_looksCovered {state : ManagerState} {label : ManagerLabel}
    (looks : looksCovered state label)
    (idle : ∀ index, 2 ≤ index → state.calls index = .idle) : ReloadsCover state label := by
  cases label with
  | check call =>
    intro other _
    match other with
    | 0 => exact looks.1
    | 1 => exact looks.2
    | more + 2 =>
      rw [idle (more + 2) (Nat.le_add_left 2 more)]
      rfl
  | write id =>
    simp only [looksCovered] at looks
    simp only [ReloadsCover]
    split
    · rename_i found
      rw [found] at looks
      exact Or.inl looks
    · trivial
  | abortRequest id => exact looks.elim
  | _ => trivial

/-- At the end nothing is in progress, the second executor runs, and it runs what is stored. -/
theorem updateAndReload_runs_what_is_stored :
    ∃ state : ManagerState, state.Quiet ∧ state.Live 1 ∧ state.Faithful fun _ => true := by
  obtain ⟨state, reached, tested⟩ := Runs.exists_reaches_of_exec
    (ManagerState.step fun _ => true) (fun state label => SmallRun label ∧ looksCovered state label)
    (initial oneStore 1) updateAndReload
    (fun state => looksQuiet state &&
      decide (1 < state.fresh ∧ (state.handles 1).cancelled = false)) (by decide)
  obtain ⟨looks, facts⟩ := Bool.and_eq_true_iff.mp tested
  have live := of_decide_eq_true facts
  have quiet := quiet_of_looksQuiet (reached.mono fun _ _ _ permitted => permitted.1) looks
  refine ⟨state, quiet, ⟨live.1, live.2⟩,
    runsWhatIsStored_of_reloadsCover (fun _ => true) oneStore state ?_ quiet⟩
  refine reached.mono fun before label reachedBefore permitted => ⟨permitted.1.2, ?_⟩
  have small := reachedBefore.mono fun _ _ _ permitted => permitted.1
  exact reloadsCover_of_looksCovered permitted.2 fun index beyond =>
    (idle_of_smallRun small index beyond).1

end ManagerState

end MqConnector
