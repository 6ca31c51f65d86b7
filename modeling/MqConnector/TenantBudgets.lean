/-
This file asks whether the budget a tenant's executors share is the stored one.

`Manager.tenantBudgetFor` keeps one budget per tenant, through every Reload, and
returns the kept one whatever limit it is asked for. A limit that is changed
afterwards reaches no executor.

The pipelines of a Reload are started from the rows of `Store`, as elsewhere. The
environment answers the two reads that can fail on their own: `answers` says for
which pipelines the reads of `startPipeline` succeed up to the budget, and
`tenantRead` for which the tenant's row is read, a failure there meaning "no cap".
-/

import MqConnector.Dedup
import MqConnector.Runs
import MqConnector.Store

namespace MqConnector

/-! ### Budgets -/

/-- The fixed-window throttle. Instants and durations are nanoseconds. -/
structure Budget where
  limit : Int
  window : Int
  count : Int := 0
  windowStart : Int
  deriving DecidableEq

def minute : Int := 60 * second

/-- `newBudget`. -/
def newBudget (limit window now : Int) : Budget where
  limit := limit
  window := if window ≤ 0 then minute else window
  windowStart := now

/-- One turn of the loop of `budget.take`: whether the message is admitted, and the budget
afterwards. -/
def Budget.take (budget : Budget) (now : Int) : Bool × Budget :=
  let rolled :=
    if budget.window ≤ now - budget.windowStart then { budget with
      windowStart := now
      count := 0 }
    else budget
  if rolled.count < rolled.limit then (true, { rolled with count := rolled.count + 1 })
  else (false, rolled)

/-! ### The manager and the tenants table -/

/-- The column `max_msgs_per_minute` of the tenants table. `Create` gives a row without an id a
fresh one, so no row has the empty id. -/
structure TenantLimits where
  maxMsgsPerMinute : String → Option Int
  identified : maxMsgsPerMinute "" = none

/-- The table with the row of one tenant changed. -/
def TenantLimits.set (limits : TenantLimits) (tenantID : String) (row : Option Int)
    (given : tenantID ≠ "") : TenantLimits where
  maxMsgsPerMinute := Function.update limits.maxMsgsPerMinute tenantID row
  identified := (Function.update_of_ne given.symm row _).trans limits.identified

/-- An executor with the tenant budget it was built with. -/
structure BudgetedExecutor where
  pipelineID : String
  tenantID : String
  tenantBudget : Option Nat
  deriving DecidableEq

/-- The tables, the budgets made so far, the manager's map of them, and the executors of the last
Reload. -/
structure BudgetState where
  clock : Int
  store : Store
  limits : TenantLimits
  budgets : Nat → Option Budget
  fresh : Nat
  tenantBudgets : String → Option Nat
  executors : List BudgetedExecutor

/-- The moves: the clock, the writes to the tables, an executor taking from its budget, and
Reload. -/
inductive BudgetLabel
  | tick (now : Int)
  | write (change : Write)
  | saveTenant (tenantID : String) (maxMsgsPerMinute : Int)
  | deleteTenant (tenantID : String)
  | take (budget : Nat)
  | reload (answers tenantRead : String → Bool)

namespace BudgetState

def initial (clock : Int) (store : Store) (limits : TenantLimits) : BudgetState where
  clock := clock
  store := store
  limits := limits
  budgets := fun _ => none
  fresh := 0
  tenantBudgets := fun _ => none
  executors := []

/-- `tenantBudgetFor`: the budget of a tenant, made by the first call for it. -/
def tenantBudgetFor (state : BudgetState) (tenantID : String) (budgetPerMinute : Int) :
    Option Nat × BudgetState :=
  if budgetPerMinute ≤ 0 then (none, state)
  else
    match state.tenantBudgets tenantID with
    | some budget => (some budget, state)
    | none => (some state.fresh, { state with
        budgets := Function.update state.budgets state.fresh
          (some (newBudget budgetPerMinute minute state.clock))
        fresh := state.fresh + 1
        tenantBudgets := Function.update state.tenantBudgets tenantID (some state.fresh) })

/-- The tenant budget `startPipeline` resolves. -/
def resolveBudget (tenantRead : String → Bool) (state : BudgetState) (pipeline : Pipeline) :
    Option Nat × BudgetState :=
  if pipeline.tenantID = "" then (none, state)
  else
    match tenantRead pipeline.id, state.limits.maxMsgsPerMinute pipeline.tenantID with
    | true, some limit => state.tenantBudgetFor pipeline.tenantID limit
    | _, _ => (none, state)

/-- Whether `startPipeline` gets as far as the budget, from where on it does not fail. -/
def starts (builds : Rows → Bool) (answers : String → Bool) (store : Store) (pipeline : Pipeline) :
    Bool :=
  answers pipeline.id && (store.gather pipeline).accepted builds

/-- `startPipeline`, as far as budgets are concerned. -/
def startPipeline (builds : Rows → Bool) (answers tenantRead : String → Bool) (state : BudgetState)
    (pipeline : Pipeline) : BudgetState :=
  if starts builds answers state.store pipeline then
    let resolved := state.resolveBudget tenantRead pipeline
    { resolved.2 with
      executors := resolved.2.executors ++ [⟨pipeline.id, pipeline.tenantID, resolved.1⟩] }
  else state

/-- `Reload`: all pipelines are started anew. -/
def reload (builds : Rows → Bool) (answers tenantRead : String → Bool) (state : BudgetState) :
    BudgetState :=
  state.store.enabledPipelines.foldl (startPipeline builds answers tenantRead)
    { state with executors := [] }

def step (builds : Rows → Bool) (state : BudgetState) : BudgetLabel → Option BudgetState
  | .tick now => if state.clock ≤ now then some { state with clock := now } else none
  | .write change => some { state with store := state.store.apply change }
  | .saveTenant tenantID maxMsgsPerMinute =>
    if given : tenantID ≠ "" then
      some { state with limits := state.limits.set tenantID (some maxMsgsPerMinute) given }
    else none
  | .deleteTenant tenantID =>
    if given : tenantID ≠ "" ∧ tenantID ≠ defaultTenantID then
      some { state with limits := state.limits.set tenantID none given.1 }
    else none
  | .take budget =>
    match state.executors.any (fun executor => executor.tenantBudget = some budget),
        state.budgets budget with
    | true, some contents => some { state with
        budgets := Function.update state.budgets budget (some (contents.take state.clock).2) }
    | _, _ => none
  | .reload answers tenantRead => some (state.reload builds answers tenantRead)

/-! ### The stored limits in force -/

/-- The limit of the budget the manager keeps for a tenant. -/
def cachedLimit (state : BudgetState) (tenantID : String) : Option Int :=
  ((state.tenantBudgets tenantID).bind state.budgets).map Budget.limit

/-- The executors of a tenant share one budget, they have one exactly unless the stored limit is
zero, and it has the stored limit. -/
structure InForce (state : BudgetState) : Prop where
  shared : ∀ first ∈ state.executors, ∀ second ∈ state.executors,
    first.tenantID = second.tenantID → first.tenantBudget = second.tenantBudget
  absent : ∀ executor ∈ state.executors, ∀ limit,
    state.limits.maxMsgsPerMinute executor.tenantID = some limit →
    (executor.tenantBudget = none ↔ limit = 0)
  limited : ∀ executor ∈ state.executors, ∀ limit,
    state.limits.maxMsgsPerMinute executor.tenantID = some limit →
    ∀ pointer, executor.tenantBudget = some pointer →
    ∃ budget, state.budgets pointer = some budget ∧ budget.limit = limit

/-- The condition on a Reload: for every pipeline it starts whose tenant has a row, the stored limit
is not negative, and if it is positive, the row is read and the manager keeps no budget for the
tenant yet or one with this limit. -/
def LimitsUnchanged (builds : Rows → Bool) (answers tenantRead : String → Bool)
    (state : BudgetState) : Prop :=
  ∀ pipeline ∈ state.store.enabledPipelines, starts builds answers state.store pipeline = true →
    ∀ limit, state.limits.maxMsgsPerMinute pipeline.tenantID = some limit →
    0 ≤ limit ∧ (0 < limit → tenantRead pipeline.id = true ∧
      ∀ cached, state.cachedLimit pipeline.tenantID = some cached → cached = limit)

/-! ### Resolving one budget -/

/-- Every pointer the manager keeps is to a budget that was made. -/
def Allocated (state : BudgetState) : Prop :=
  ∀ tenantID pointer, state.tenantBudgets tenantID = some pointer →
    pointer < state.fresh ∧ ∃ budget, state.budgets pointer = some budget

theorem Allocated.cachedLimit {state : BudgetState} (allocated : state.Allocated)
    {tenantID : String} {pointer : Nat} (kept : state.tenantBudgets tenantID = some pointer) :
    ∃ budget, state.budgets pointer = some budget ∧
      state.cachedLimit tenantID = some budget.limit := by
  obtain ⟨-, budget, found⟩ := allocated tenantID pointer kept
  refine ⟨budget, found, ?_⟩
  rw [BudgetState.cachedLimit, kept, Option.bind_some, found, Option.map_some]

/-- How a state grows while pipelines are started: the kept budgets stay with their limits, and a
new one has the limit stored for its tenant. -/
structure Grown (state next : BudgetState) : Prop where
  store : next.store = state.store
  limits : next.limits = state.limits
  allocated : next.Allocated
  kept : ∀ tenantID pointer, state.tenantBudgets tenantID = some pointer →
    next.tenantBudgets tenantID = some pointer
  cached : ∀ tenantID limit, state.cachedLimit tenantID = some limit →
    next.cachedLimit tenantID = some limit
  made : ∀ tenantID limit, state.cachedLimit tenantID = none →
    next.cachedLimit tenantID = some limit →
    state.limits.maxMsgsPerMinute tenantID = some limit

theorem Grown.refl {state : BudgetState} (allocated : state.Allocated) : Grown state state where
  store := rfl
  limits := rfl
  allocated := allocated
  kept := fun _ _ kept => kept
  cached := fun _ _ cached => cached
  made := fun _ _ absent cached => absurd (cached.symm.trans absent) (Option.some_ne_none _)

theorem Grown.trans {state middle next : BudgetState} (former : Grown state middle)
    (latter : Grown middle next) : Grown state next where
  store := latter.store.trans former.store
  limits := latter.limits.trans former.limits
  allocated := latter.allocated
  kept := fun tenantID pointer kept => latter.kept _ _ (former.kept tenantID pointer kept)
  cached := fun tenantID limit cached => latter.cached _ _ (former.cached tenantID limit cached)
  made := by
    intro tenantID limit absent cached
    cases between : middle.cachedLimit tenantID with
    | none =>
      rw [← former.limits]
      exact latter.made tenantID limit between cached
    | some earlier =>
      rw [← Option.some_inj.mp ((latter.cached tenantID earlier between).symm.trans cached)]
      exact former.made tenantID earlier absent between

theorem Grown.allocate {state : BudgetState} (allocated : state.Allocated) {tenantID : String}
    {limit : Int} (stored : state.limits.maxMsgsPerMinute tenantID = some limit)
    (absent : state.tenantBudgets tenantID = none) :
    Grown state { state with
      budgets := Function.update state.budgets state.fresh
        (some (newBudget limit minute state.clock))
      fresh := state.fresh + 1
      tenantBudgets := Function.update state.tenantBudgets tenantID (some state.fresh) } := by
  -- an older pointer reads the same budget as before
  have older : ∀ other pointer, state.tenantBudgets other = some pointer →
      Function.update state.budgets state.fresh (some (newBudget limit minute state.clock))
        pointer = state.budgets pointer := fun other pointer kept =>
    Function.update_of_ne (allocated other pointer kept).1.ne _ _
  have others : ∀ other pointer, state.tenantBudgets other = some pointer →
      other ≠ tenantID := by
    intro other pointer kept same
    rw [same, absent] at kept
    exact absurd kept.symm (Option.some_ne_none _)
  refine ⟨rfl, rfl, ?_, ?_, ?_, ?_⟩
  · intro other pointer kept
    dsimp only at kept ⊢
    by_cases same : other = tenantID
    · rw [same, Function.update_self, Option.some_inj] at kept
      rw [← kept, Function.update_self]
      exact ⟨Nat.lt_succ_self _, _, rfl⟩
    · rw [Function.update_of_ne same] at kept
      rw [older other pointer kept]
      obtain ⟨below, found⟩ := allocated other pointer kept
      exact ⟨Nat.lt_succ_of_lt below, found⟩
  · intro other pointer kept
    exact (Function.update_of_ne (others other pointer kept) _ _).trans kept
  · intro other earlier cached
    rw [cachedLimit] at cached ⊢
    dsimp only
    cases kept : state.tenantBudgets other with
    | none =>
      rw [kept, Option.bind_none, Option.map_none] at cached
      exact absurd cached.symm (Option.some_ne_none _)
    | some pointer =>
      rw [Function.update_of_ne (others other pointer kept), kept, Option.bind_some,
        older other pointer kept]
      rw [kept, Option.bind_some] at cached
      exact cached
  · intro other later uncached cached
    rw [cachedLimit] at uncached cached
    dsimp only at cached
    by_cases same : other = tenantID
    · rw [same, Function.update_self, Option.bind_some, Function.update_self, Option.map_some,
        Option.some_inj] at cached
      rw [same, stored, ← cached]
      rfl
    · rw [Function.update_of_ne same] at cached
      cases kept : state.tenantBudgets other with
      | none =>
        rw [kept, Option.bind_none, Option.map_none] at cached
        exact absurd cached.symm (Option.some_ne_none _)
      | some pointer =>
        rw [kept, Option.bind_some, older other pointer kept] at cached
        rw [kept, Option.bind_some, cached] at uncached
        exact absurd uncached (Option.some_ne_none _)

theorem tenantBudgetFor_spec {state : BudgetState} (allocated : state.Allocated) {tenantID : String}
    {limit : Int} (stored : state.limits.maxMsgsPerMinute tenantID = some limit)
    (positive : 0 < limit) :
    Grown state (state.tenantBudgetFor tenantID limit).2 ∧
      (state.tenantBudgetFor tenantID limit).2.executors = state.executors ∧
      (state.tenantBudgetFor tenantID limit).1 =
        (state.tenantBudgetFor tenantID limit).2.tenantBudgets tenantID ∧
      (state.tenantBudgetFor tenantID limit).1 ≠ none := by
  rw [tenantBudgetFor, if_neg (not_le.mpr positive)]
  cases kept : state.tenantBudgets tenantID with
  | some pointer => exact ⟨.refl allocated, rfl, kept.symm, Option.some_ne_none _⟩
  | none =>
    exact ⟨.allocate allocated stored kept, rfl,
      (Function.update_self tenantID (some state.fresh) state.tenantBudgets).symm,
      Option.some_ne_none _⟩

/-- A pipeline for which a budget is asked for. -/
def capped (tenantRead : String → Bool) (limits : TenantLimits) (pipeline : Pipeline) : Bool :=
  tenantRead pipeline.id && (limits.maxMsgsPerMinute pipeline.tenantID).any fun limit => 0 < limit

theorem capped_iff {tenantRead : String → Bool} {limits : TenantLimits} {pipeline : Pipeline}
    {limit : Int} (stored : limits.maxMsgsPerMinute pipeline.tenantID = some limit) :
    capped tenantRead limits pipeline = true ↔ tenantRead pipeline.id = true ∧ 0 < limit := by
  rw [capped, stored, Bool.and_eq_true, Option.any_some, decide_eq_true_iff]

theorem resolveBudget_spec {state : BudgetState} (allocated : state.Allocated)
    (tenantRead : String → Bool) (pipeline : Pipeline) :
    Grown state (state.resolveBudget tenantRead pipeline).2 ∧
      (state.resolveBudget tenantRead pipeline).2.executors = state.executors ∧
      (state.resolveBudget tenantRead pipeline).1 =
        (if capped tenantRead state.limits pipeline then
          (state.resolveBudget tenantRead pipeline).2.tenantBudgets pipeline.tenantID
        else none) ∧
      (capped tenantRead state.limits pipeline = true →
        (state.resolveBudget tenantRead pipeline).2.tenantBudgets pipeline.tenantID ≠ none) := by
  by_cases cap : capped tenantRead state.limits pipeline = true
  · obtain ⟨read, limit, stored, positive⟩ : tenantRead pipeline.id = true ∧
        ∃ limit, state.limits.maxMsgsPerMinute pipeline.tenantID = some limit ∧ 0 < limit := by
      rw [capped, Bool.and_eq_true, Option.any_eq_true] at cap
      obtain ⟨read, limit, stored, positive⟩ := cap
      exact ⟨read, limit, stored, of_decide_eq_true positive⟩
    have given : pipeline.tenantID ≠ "" := by
      intro empty
      rw [empty, state.limits.identified] at stored
      exact absurd stored.symm (Option.some_ne_none _)
    have resolved : state.resolveBudget tenantRead pipeline =
        state.tenantBudgetFor pipeline.tenantID limit := by
      rw [resolveBudget, if_neg given]
      simp only [read, stored]
    rw [resolved, if_pos cap]
    obtain ⟨grown, same, answered, present⟩ := tenantBudgetFor_spec allocated stored positive
    exact ⟨grown, same, answered, fun _ => answered ▸ present⟩
  · have resolved : state.resolveBudget tenantRead pipeline = (none, state) := by
      rw [resolveBudget]
      by_cases empty : pipeline.tenantID = ""
      · rw [if_pos empty]
      · rw [if_neg empty]
        cases read : tenantRead pipeline.id with
        | false => rfl
        | true =>
          cases stored : state.limits.maxMsgsPerMinute pipeline.tenantID with
          | none => rfl
          | some limit =>
            have unlimited : limit ≤ 0 := by
              by_contra positive
              exact cap ((capped_iff stored).mpr ⟨read, not_le.mp positive⟩)
            simp only [tenantBudgetFor, if_pos unlimited]
    rw [resolved, if_neg cap]
    exact ⟨.refl allocated, rfl, rfl, fun holds => absurd holds cap⟩

/-! ### The loop of a Reload -/

/-- The executor of a started pipeline, its budget read off the map the manager ends with. -/
def executorOf (tenantRead : String → Bool) (limits : TenantLimits) (state : BudgetState)
    (pipeline : Pipeline) : BudgetedExecutor where
  pipelineID := pipeline.id
  tenantID := pipeline.tenantID
  tenantBudget :=
    if capped tenantRead limits pipeline then state.tenantBudgets pipeline.tenantID else none

/-- The loop invariant: what has been started of the pipelines handled so far. A budget once kept
stays, so the map at any later point gives an executor the budget it was built with. -/
structure Loaded (builds : Rows → Bool) (answers tenantRead : String → Bool) (start : BudgetState)
    (handled : List Pipeline) (state : BudgetState) : Prop where
  grown : Grown start state
  executors : state.executors = (handled.filter (starts builds answers start.store)).map
    (executorOf tenantRead start.limits state)
  present : ∀ pipeline ∈ handled, starts builds answers start.store pipeline = true →
    capped tenantRead start.limits pipeline = true →
    state.tenantBudgets pipeline.tenantID ≠ none

section

variable {builds : Rows → Bool} {answers tenantRead : String → Bool}

theorem executorOf_grown {state next : BudgetState} {limits : TenantLimits} {pipeline : Pipeline}
    (grown : Grown state next)
    (present : capped tenantRead limits pipeline = true →
      state.tenantBudgets pipeline.tenantID ≠ none) :
    executorOf tenantRead limits next pipeline = executorOf tenantRead limits state pipeline := by
  rw [executorOf, executorOf]
  by_cases cap : capped tenantRead limits pipeline = true
  · obtain ⟨pointer, kept⟩ := Option.ne_none_iff_exists'.mp (present cap)
    rw [if_pos cap, if_pos cap, kept, grown.kept _ _ kept]
  · rw [if_neg cap, if_neg cap]

theorem Loaded.startPipeline {start state : BudgetState} {handled : List Pipeline}
    (loaded : Loaded builds answers tenantRead start handled state) (pipeline : Pipeline) :
    Loaded builds answers tenantRead start (handled ++ [pipeline])
      (state.startPipeline builds answers tenantRead pipeline) := by
  rw [BudgetState.startPipeline, loaded.grown.store]
  by_cases started : starts builds answers start.store pipeline = true
  · obtain ⟨grown, same, answered, present⟩ :=
      resolveBudget_spec loaded.grown.allocated tenantRead pipeline
    rw [loaded.grown.limits] at answered present
    have presentAll : ∀ other ∈ handled ++ [pipeline],
        starts builds answers start.store other = true →
        capped tenantRead start.limits other = true →
        (state.resolveBudget tenantRead pipeline).2.tenantBudgets other.tenantID ≠ none := by
      intro other member otherStarted cap
      rcases List.mem_append.mp member with earlier | last
      · obtain ⟨pointer, kept⟩ :=
          Option.ne_none_iff_exists'.mp (loaded.present other earlier otherStarted cap)
        rw [grown.kept _ _ kept]
        exact Option.some_ne_none pointer
      · rw [List.mem_singleton] at last
        subst last
        exact present cap
    rw [if_pos started]
    refine ⟨?_, ?_, presentAll⟩
    · have whole := loaded.grown.trans grown
      exact ⟨whole.store, whole.limits, whole.allocated, whole.kept, whole.cached, whole.made⟩
    · show (state.resolveBudget tenantRead pipeline).2.executors ++ _ = _
      rw [same, loaded.executors, List.filter_append, List.map_append, answered]
      congr 1
      · refine List.map_congr_left fun other member => ?_
        obtain ⟨earlier, otherStarted⟩ := List.mem_filter.mp member
        exact (executorOf_grown grown (loaded.present other earlier otherStarted)).symm
      · rw [List.filter_singleton, started]
        rfl
  · rw [if_neg started]
    refine ⟨loaded.grown, ?_, ?_⟩
    · rw [loaded.executors, List.filter_append, List.filter_singleton, Bool.of_not_eq_true started]
      exact (congrArg _ (List.append_nil _)).symm
    · intro other member otherStarted cap
      rcases List.mem_append.mp member with earlier | last
      · exact loaded.present other earlier otherStarted cap
      · rw [List.mem_singleton] at last
        subst last
        exact absurd otherStarted started

theorem Loaded.foldl {start : BudgetState} (pipelines : List Pipeline) :
    ∀ (handled : List Pipeline) {state : BudgetState},
      Loaded builds answers tenantRead start handled state →
      Loaded builds answers tenantRead start (handled ++ pipelines)
        (pipelines.foldl (BudgetState.startPipeline builds answers tenantRead) state) := by
  induction pipelines with
  | nil =>
    intro handled state loaded
    rw [List.append_nil]
    exact loaded
  | cons pipeline rest hypothesis =>
    intro handled state loaded
    rw [List.foldl_cons, List.append_cons]
    exact hypothesis _ (loaded.startPipeline pipeline)

theorem loaded_reload {state : BudgetState} (allocated : state.Allocated) :
    Loaded builds answers tenantRead { state with executors := [] } state.store.enabledPipelines
      (state.reload builds answers tenantRead) := by
  refine Loaded.foldl state.store.enabledPipelines [] ⟨.refl allocated, rfl, ?_⟩
  intro pipeline member
  exact absurd member List.not_mem_nil

theorem Loaded.mem_executors {start state : BudgetState} {handled : List Pipeline}
    (loaded : Loaded builds answers tenantRead start handled state) {executor : BudgetedExecutor} :
    executor ∈ state.executors ↔ ∃ pipeline ∈ handled,
      starts builds answers start.store pipeline = true ∧
      executorOf tenantRead start.limits state pipeline = executor := by
  rw [loaded.executors, List.mem_map]
  simp only [List.mem_filter, and_assoc]

theorem LimitsUnchanged.capped {state : BudgetState}
    (unchanged : LimitsUnchanged builds answers tenantRead state) {pipeline : Pipeline}
    (enabled : pipeline ∈ state.store.enabledPipelines)
    (started : starts builds answers state.store pipeline = true) :
    capped tenantRead state.limits pipeline =
      (state.limits.maxMsgsPerMinute pipeline.tenantID).any fun limit => 0 < limit := by
  cases stored : state.limits.maxMsgsPerMinute pipeline.tenantID with
  | none => rw [BudgetState.capped, stored, Option.any_none, Bool.and_false]
  | some limit =>
    rw [Bool.eq_iff_iff, capped_iff stored, Option.any_some, decide_eq_true_iff]
    have read := (unchanged pipeline enabled started limit stored).2
    exact ⟨And.right, fun positive => ⟨(read positive).1, positive⟩⟩

/-- Unchanged limits are in force after a reload. -/
theorem LimitsUnchanged.inForce {state : BudgetState} (allocated : state.Allocated)
    (unchanged : LimitsUnchanged builds answers tenantRead state) :
    InForce (state.reload builds answers tenantRead) := by
  have loaded : Loaded builds answers tenantRead _ _ (state.reload builds answers tenantRead) :=
    loaded_reload allocated
  refine ⟨?_, ?_, ?_⟩
  · intro first firstRuns second secondRuns same
    obtain ⟨one, oneEnabled, oneStarted, rfl⟩ := loaded.mem_executors.mp firstRuns
    obtain ⟨other, otherEnabled, otherStarted, rfl⟩ := loaded.mem_executors.mp secondRuns
    have sameTenant : one.tenantID = other.tenantID := same
    show (if BudgetState.capped tenantRead state.limits one then _ else none) =
      (if BudgetState.capped tenantRead state.limits other then _ else none)
    rw [unchanged.capped oneEnabled oneStarted, unchanged.capped otherEnabled otherStarted,
      sameTenant]
  · intro executor runs limit stored
    obtain ⟨pipeline, enabled, started, rfl⟩ := loaded.mem_executors.mp runs
    rw [loaded.grown.limits] at stored
    have stored' : state.limits.maxMsgsPerMinute pipeline.tenantID = some limit := stored
    obtain ⟨notNegative, positiveCase⟩ := unchanged pipeline enabled started limit stored'
    show (if BudgetState.capped tenantRead state.limits pipeline then _ else none) = none ↔ _
    by_cases positive : 0 < limit
    · have cap := (capped_iff stored').mpr ⟨(positiveCase positive).1, positive⟩
      rw [if_pos cap]
      exact iff_of_false (loaded.present pipeline enabled started cap) positive.ne'
    · have uncapped : ¬ BudgetState.capped tenantRead state.limits pipeline = true :=
        fun cap => positive ((capped_iff stored').mp cap).2
      rw [if_neg uncapped]
      exact iff_of_true rfl (le_antisymm (not_lt.mp positive) notNegative)
  · intro executor runs limit stored pointer holds
    obtain ⟨pipeline, enabled, started, rfl⟩ := loaded.mem_executors.mp runs
    rw [loaded.grown.limits] at stored
    have stored' : state.limits.maxMsgsPerMinute pipeline.tenantID = some limit := stored
    obtain ⟨cap, kept⟩ : BudgetState.capped tenantRead state.limits pipeline = true ∧
        (state.reload builds answers tenantRead).tenantBudgets pipeline.tenantID = some pointer :=
      Option.ite_none_right_eq_some.mp holds
    obtain ⟨budget, found, limited⟩ := loaded.grown.allocated.cachedLimit kept
    refine ⟨budget, found, ?_⟩
    have positive : 0 < limit := ((capped_iff stored').mp cap).2
    -- the budget is an older one, which has the stored limit, or was made for this limit
    cases older : state.cachedLimit pipeline.tenantID with
    | some cached =>
      have current := ((unchanged pipeline enabled started limit stored').2 positive).2 cached older
      rw [← current]
      exact Option.some_inj.mp (limited.symm.trans (loaded.grown.cached _ cached older))
    | none =>
      have made := loaded.grown.made pipeline.tenantID budget.limit older limited
      exact Option.some_inj.mp (made.symm.trans stored')

theorem InForce.limitsUnchanged {state : BudgetState} (allocated : state.Allocated)
    (inForce : InForce (state.reload builds answers tenantRead)) :
    LimitsUnchanged builds answers tenantRead state := by
  have loaded : Loaded builds answers tenantRead _ _ (state.reload builds answers tenantRead) :=
    loaded_reload allocated
  intro pipeline enabled started limit stored
  have runs := loaded.mem_executors.mpr ⟨pipeline, enabled, started, rfl⟩
  have storedAfter : (state.reload builds answers tenantRead).limits.maxMsgsPerMinute
      pipeline.tenantID = some limit := by
    rw [loaded.grown.limits]
    exact stored
  have absent : (if BudgetState.capped tenantRead state.limits pipeline then
      (state.reload builds answers tenantRead).tenantBudgets pipeline.tenantID else none) = none ↔
      limit = 0 := inForce.absent _ runs limit storedAfter
  by_cases cap : BudgetState.capped tenantRead state.limits pipeline = true
  · obtain ⟨read, positive⟩ := (capped_iff stored).mp cap
    refine ⟨positive.le, fun _ => ⟨read, ?_⟩⟩
    intro cached older
    obtain ⟨pointer, kept⟩ :=
      Option.ne_none_iff_exists'.mp (loaded.present pipeline enabled started cap)
    obtain ⟨budget, found, limited⟩ := inForce.limited _ runs limit storedAfter pointer
      (Option.ite_none_right_eq_some.mpr ⟨cap, kept⟩)
    obtain ⟨same, foundSame, cachedLimit⟩ := loaded.grown.allocated.cachedLimit kept
    rw [Option.some_inj.mp (foundSame.symm.trans found), limited] at cachedLimit
    exact Option.some_inj.mp ((loaded.grown.cached _ cached older).symm.trans cachedLimit)
  · have zero : limit = 0 := absent.mp (if_neg cap)
    rw [zero]
    exact ⟨le_refl 0, fun positive => absurd positive (lt_irrefl 0)⟩

end

/-! ### Every run -/

theorem allocated_initial (clock : Int) (store : Store) (limits : TenantLimits) :
    (initial clock store limits).Allocated :=
  fun _ _ kept => absurd kept.symm (Option.some_ne_none _)

/-- Every step keeps the budgets allocated. -/
theorem Allocated.step {builds : Rows → Bool} {state next : BudgetState} {label : BudgetLabel}
    (allocated : state.Allocated) (taken : state.step builds label = some next) :
    next.Allocated := by
  cases label with
  | tick now =>
    obtain ⟨-, made⟩ := Option.ite_none_right_eq_some.mp taken
    obtain rfl := Option.some_inj.mp made
    exact allocated
  | write change =>
    obtain rfl := Option.some_inj.mp taken
    exact allocated
  | saveTenant tenantID maxMsgsPerMinute =>
    obtain ⟨given, made⟩ := Option.dite_none_right_eq_some.mp taken
    obtain rfl := Option.some_inj.mp made
    exact allocated
  | deleteTenant tenantID =>
    obtain ⟨given, made⟩ := Option.dite_none_right_eq_some.mp taken
    obtain rfl := Option.some_inj.mp made
    exact allocated
  | take pointer =>
    rw [BudgetState.step] at taken
    split at taken
    next contents holds found =>
      obtain rfl := Option.some_inj.mp taken
      intro tenantID other kept
      obtain ⟨below, older⟩ := allocated tenantID other kept
      refine ⟨below, ?_⟩
      by_cases same : other = pointer
      · subst same
        exact ⟨_, Function.update_self other _ _⟩
      · exact older.imp fun budget found => (Function.update_of_ne same _ _).trans found
    next => exact absurd taken.symm (Option.some_ne_none _)
  | reload answers tenantRead =>
    obtain rfl := Option.some_inj.mp taken
    exact (loaded_reload allocated).grown.allocated

/-- The result: in every run of a manager, a Reload leaves every tenant's executors with the stored
limit exactly under the condition. -/
theorem inForce_iff_limitsUnchanged (builds : Rows → Bool) (clock : Int) (store : Store)
    (limits : TenantLimits) (state next : BudgetState)
    (reached : Runs.Reachable (step builds) (initial clock store limits) state)
    (answers tenantRead : String → Bool)
    (reloaded : state.step builds (.reload answers tenantRead) = some next) :
    InForce next ↔ LimitsUnchanged builds answers tenantRead state := by
  have allocated : state.Allocated := reached.invariant BudgetState.Allocated
    (allocated_initial clock store limits) fun _ _ _ holds _ fired => holds.step fired
  obtain rfl := Option.some_inj.mp reloaded
  exact ⟨fun inForce => inForce.limitsUnchanged allocated,
    fun unchanged => unchanged.inForce allocated⟩

/-! ### A raised limit -/

def siblingStore : Store where
  pipelines := [{ id := "p", tenantID := "t", sourceID := "in", destinationID := "out" },
    { id := "q", tenantID := "t", sourceID := "out", destinationID := "in" }]
  distinct := by decide
  stages := []
  transforms := []
  routingRules := []
  connections := fun id =>
    if id = "in" ∨ id = "out" then some { id, tenantID := "t", type := "rabbitmq" } else none

/-- A tenants table in which only the tenant of the two pipelines has a row. -/
def siblingLimits (maxMsgsPerMinute : Int) : TenantLimits where
  maxMsgsPerMinute := fun tenantID => if tenantID = "t" then some maxMsgsPerMinute else none
  identified := by rw [if_neg (by decide)]

/-- A first Reload under a limit of 100: the two executors share a budget of 100. -/
theorem first_reload_inForce :
    ∃ next, (initial 0 siblingStore (siblingLimits 100)).step (fun _ => true)
        (.reload (fun _ => true) fun _ => true) = some next ∧
      next.executors = [⟨"p", "t", some 0⟩, ⟨"q", "t", some 0⟩] ∧ InForce next := by
  refine ⟨_, rfl, by decide, (inForce_iff_limitsUnchanged (fun _ => true) 0 siblingStore
    (siblingLimits 100) _ _ .start (fun _ => true) (fun _ => true) rfl).mpr ?_⟩
  intro pipeline enabled started limit stored
  have limited : limit = 100 :=
    (Option.some_inj.mp (Option.ite_none_right_eq_some.mp stored).2).symm
  rw [limited]
  refine ⟨by decide, fun _ => ⟨rfl, ?_⟩⟩
  intro cached older
  exact absurd older.symm (Option.some_ne_none _)

/-- The tenant's limit is raised from 100 to 200 and a Reload follows: the executors it starts
share a budget of 100. -/
theorem raised_limit_not_inForce :
    ∃ state next, Runs.Reachable (step fun _ => true)
        (initial 0 siblingStore (siblingLimits 100)) state ∧
      state.limits.maxMsgsPerMinute "t" = some 200 ∧
      state.step (fun _ => true) (.reload (fun _ => true) fun _ => true) = some next ∧
      next.executors = [⟨"p", "t", some 0⟩, ⟨"q", "t", some 0⟩] ∧
      (next.budgets 0).map Budget.limit = some 100 ∧ ¬ InForce next := by
  obtain ⟨state, next, reached, stored, reloaded, storedAfter, runs, limited⟩ : ∃ state next,
      Runs.Reachable (step fun _ => true) (initial 0 siblingStore (siblingLimits 100)) state ∧
      state.limits.maxMsgsPerMinute "t" = some 200 ∧
      state.step (fun _ => true) (.reload (fun _ => true) fun _ => true) = some next ∧
      next.limits.maxMsgsPerMinute "t" = some 200 ∧
      next.executors = [⟨"p", "t", some 0⟩, ⟨"q", "t", some 0⟩] ∧
      (next.budgets 0).map Budget.limit = some 100 :=
    ⟨_, _, Runs.reaches_of_exec (step fun _ => true) (fun _ _ => True)
      [.reload (fun _ => true) fun _ => true, .saveTenant "t" 200] rfl, by decide, rfl, by decide,
      by decide, by decide⟩
  refine ⟨state, next, reached, stored, reloaded, runs, limited, ?_⟩
  intro inForce
  obtain ⟨budget, found, correct⟩ := inForce.limited ⟨"p", "t", some 0⟩
    (runs ▸ List.mem_cons_self) 200 storedAfter 0 rfl
  rw [found, Option.map_some, correct] at limited
  exact absurd (Option.some_inj.mp limited) (by decide)

end BudgetState

end MqConnector
