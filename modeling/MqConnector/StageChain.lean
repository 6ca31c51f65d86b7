/-
This file says what a chain of stages does, from the stored rows of a pipeline to the entry in
the dead-letter queue.

The stages that are executed are those up to the first that fails, each on what the one before
left. The index that a failure is filed under counts runs, and disabled rows have none: it is
the position of the failing row in the stored list just where no disabled row stands before
it.
-/

import MqConnector.Build
import MqConnector.Routing

namespace MqConnector

/-! ### Executions -/

section Executions

variable {World : Type} (world : World)

/-- One execution of a stage: what it was given, and what came of it. -/
structure Execution (World : Type) where
  stage : Stage World
  body : Bytes
  format : Format
  result : Except String StageOutput

namespace Execution

variable (execution : Execution World)

/-- The stage failed. -/
def Fails : Prop :=
  ∃ err, execution.result = .error err

/-- What the stage leaves of the message. -/
def left : Bytes × Format :=
  match execution.result with
  | .ok output => (output.body, output.format.getD execution.format)
  | .error _ => (execution.body, execution.format)

/-- The routing result of the stage, if it names a destination. -/
def named : Option Result :=
  match execution.result with
  | .ok output => output.result.filter fun result => result.destinations ≠ []
  | .error _ => none

end Execution

/-- The executions of a chain: it stops at the first stage that fails. -/
def executions : List (Stage World) → Bytes → Format → List (Execution World)
  | [], _, _ => []
  | stage :: rest, body, format =>
    { stage := stage, body := body, format := format, result := stage.execute world body format } ::
      match stage.execute world body format with
      | .error _ => []
      | .ok output => executions rest output.body (output.format.getD format)

structure Tells (run : StageRun) (execution : Execution World) : Prop where
  name : run.name = execution.stage.name
  failed : run.failed = true ↔ execution.Fails
  body : run.body = execution.left.1
  format : run.format = execution.left.2

variable {world}

theorem tells_ok {stage : Stage World} {body : Bytes} {format : Format} {output : StageOutput}
    (done : stage.execute world body format = .ok output) :
    Tells { name := stage.name, failed := false, body := output.body, format := output.format.getD format }
      { stage := stage, body := body, format := format, result := stage.execute world body format } := by
  refine ⟨rfl, ⟨nofun, ?_⟩, ?_, ?_⟩
  · rintro ⟨err, failed⟩
    rw [show stage.execute world body format = .error err from failed] at done
    cases done
  · rw [Execution.left]
    dsimp only
    rw [done]
  · rw [Execution.left]
    dsimp only
    rw [done]

theorem tells_error {stage : Stage World} {body : Bytes} {format : Format} {err : String}
    (failed : stage.execute world body format = .error err) :
    Tells { name := stage.name, failed := true, body := body, format := format, err := err }
      { stage := stage, body := body, format := format, result := stage.execute world body format } := by
  refine ⟨rfl, ⟨fun _ => ⟨err, failed⟩, fun _ => rfl⟩, ?_, ?_⟩
  · rw [Execution.left]
    dsimp only
    rw [failed]
  · rw [Execution.left]
    dsimp only
    rw [failed]

theorem runStagesFrom_error {stages : List (Stage World)} {start : StageOutcome} {failure : StageFailure}
    (failed : runStagesFrom world stages start = .error failure) :
    ∃ earlier last runs tail, executions world stages start.body start.format = earlier ++ [last] ∧
      failure.runs = start.runs ++ (runs ++ [tail]) ∧ List.Forall₂ Tells runs earlier ∧ Tells tail last ∧
      (∀ run ∈ runs, run.failed = false) ∧ last.result = .error tail.err ∧
      failure.reason = tail.name ++ ": " ++ tail.err := by
  induction stages generalizing start with
  | nil => cases failed
  | cons stage rest hypothesis =>
    rw [runStagesFrom] at failed
    rw [executions]
    cases done : stage.execute world start.body start.format with
    | error err =>
      rw [done] at failed
      obtain rfl := Except.error.inj failed
      have tells := tells_error done
      rw [done] at tells
      exact ⟨[], _, [], _, rfl, rfl, .nil, tells, fun _ member => absurd member List.not_mem_nil, rfl, rfl⟩
    | ok output =>
      rw [done] at failed
      obtain ⟨earlier, last, runs, tail, executed, listed, all, tells, succeeded, result, reason⟩ :=
        hypothesis failed
      have first := tells_ok done
      rw [done] at first
      refine ⟨_ :: earlier, last, _ :: runs, tail, congrArg (List.cons _) executed, ?_, .cons first all, tells, ?_,
        result, reason⟩
      · rw [listed, List.append_assoc]
        rfl
      · exact List.forall_mem_cons.mpr ⟨rfl, succeeded⟩

theorem updateRoute_eq (route update : Option Result) :
    updateRoute route update = (update.filter fun result => result.destinations ≠ []).or route := by
  cases update with
  | none => rfl
  | some result =>
    rw [updateRoute, Option.filter_some]
    by_cases empty : result.destinations = []
    · simp [empty]
    · simp [empty]

theorem runStagesFrom_ok {stages : List (Stage World)} {start outcome : StageOutcome}
    (finished : runStagesFrom world stages start = .ok outcome) :
    (executions world stages start.body start.format).map Execution.stage = stages ∧
      (∀ execution ∈ executions world stages start.body start.format, ¬ execution.Fails) ∧
      ∃ runs, outcome.runs = start.runs ++ runs ∧
        List.Forall₂ Tells runs (executions world stages start.body start.format) ∧
        outcome.body =
          (((executions world stages start.body start.format).getLast?.map Execution.left).getD
            (start.body, start.format)).1 ∧
        outcome.route =
          ((executions world stages start.body start.format).filterMap Execution.named).getLast?.or start.route := by
  induction stages generalizing start with
  | nil =>
    obtain rfl := Except.ok.inj finished
    exact ⟨rfl, fun _ member => absurd member List.not_mem_nil, [], (List.append_nil _).symm, .nil, rfl, rfl⟩
  | cons stage rest hypothesis =>
    rw [runStagesFrom] at finished
    rw [executions]
    cases done : stage.execute world start.body start.format with
    | error err =>
      rw [done] at finished
      cases finished
    | ok output =>
      rw [done] at finished
      obtain ⟨every, succeeded, runs, listed, all, body, route⟩ := hypothesis finished
      have first := tells_ok done
      rw [done] at first
      dsimp only at every succeeded listed all body route ⊢
      refine ⟨congrArg (List.cons stage) every, ?_, _ :: runs, ?_, .cons first all, ?_, ?_⟩
      · refine List.forall_mem_cons.mpr ⟨?_, succeeded⟩
        rintro ⟨err, failed⟩
        cases failed
      · rw [listed, List.append_assoc]
        rfl
      · rw [body, List.getLast?_cons]
        cases (executions world rest output.body (output.format.getD start.format)).getLast? with
        | none => rfl
        | some last => rfl
      · rw [route, updateRoute_eq]
        have named : (Execution.mk stage start.body start.format (.ok output)).named =
            output.result.filter fun result => result.destinations ≠ [] := rfl
        cases here : output.result.filter fun result => result.destinations ≠ [] with
        | none => rw [List.filterMap_cons_none (named.trans here), Option.none_or]
        | some result =>
          rw [List.filterMap_cons_some (named.trans here), List.getLast?_cons]
          cases ((executions world rest output.body (output.format.getD start.format)).filterMap
            Execution.named).getLast? with
          | none => rfl
          | some last => rfl

theorem executions_next {stages : List (Stage World)} {body : Bytes} {format : Format} {index : Nat}
    {execution next : Execution World} (here : (executions world stages body format)[index]? = some execution)
    (further : (executions world stages body format)[index + 1]? = some next) :
    next.body = execution.left.1 ∧ next.format = execution.left.2 := by
  induction stages generalizing body format index with
  | nil => cases here
  | cons stage rest hypothesis =>
    rw [executions] at here further
    cases done : stage.execute world body format with
    | error err =>
      rw [done] at further
      cases further
    | ok output =>
      rw [done] at here further
      dsimp only at here further
      rw [List.getElem?_cons_succ] at further
      cases index with
      | succ index => exact hypothesis here further
      | zero =>
        obtain rfl := Option.some.inj here
        cases rest with
        | nil => cases further
        | cons stage rest =>
          rw [executions] at further
          obtain rfl := Option.some.inj further
          exact ⟨rfl, rfl⟩

/-! ### RunStages -/

theorem rel_getElem? {First Second : Type} {matched : First → Second → Prop} {first : List First}
    {second : List Second} (all : List.Forall₂ matched first second) (index : Nat) :
    Option.Rel matched first[index]? second[index]? := by
  induction all generalizing index with
  | nil => exact .none
  | cons both _ hypothesis =>
    cases index with
    | zero => exact .some both
    | succ index => exact hypothesis index

/-- The runs of a chain that failed: they list the executions, and the last one alone failed, and carries what its
stage was given. -/
structure FailedRuns (all : List (Execution World)) (runs : List StageRun) : Prop where
  tells : List.Forall₂ Tells runs all
  last : ∃ run execution, runs.getLast? = some run ∧ all.getLast? = some execution ∧ run.failed = true ∧
    run.body = execution.body ∧ run.format = execution.format
  earlier : ∀ run ∈ runs.dropLast, run.failed = false

/-- The outcome of a chain that finished: the body of every run is what the next stage was given, the last one is
the body, and the route is the last result that names a destination. -/
structure FinishedRuns (stages : List (Stage World)) (message : Bytes) (all : List (Execution World))
    (outcome : StageOutcome) : Prop where
  every : all.map Execution.stage = stages
  tells : List.Forall₂ Tells outcome.runs all
  next : ∀ (index : Nat) run execution, outcome.runs[index]? = some run → all[index + 1]? = some execution →
    execution.body = run.body ∧ execution.format = run.format
  body : outcome.body = (outcome.runs.getLast?.map StageRun.body).getD message
  route : outcome.route = (all.filterMap Execution.named).getLast?

structure ChainRuns (world : World) (stages : List (Stage World)) (message : Bytes)
    (answer : Except StageFailure StageOutcome) : Prop where
  fails : (∃ failure, answer = .error failure) ↔
    ∃ execution ∈ executions world stages message (detect message), execution.Fails
  failed : ∀ failure, answer = .error failure →
    FailedRuns (executions world stages message (detect message)) failure.runs
  finished : ∀ outcome, answer = .ok outcome →
    FinishedRuns stages message (executions world stages message (detect message)) outcome

/-- The stages run in their order up to the first failure. -/
theorem chainRuns (world : World) (stages : List (Stage World)) (message : Bytes) :
    ChainRuns world stages message (runStages world stages message) where
  fails := by
    constructor
    · rintro ⟨failure, failed⟩
      obtain ⟨earlier, last, runs, tail, executed, -, -, -, -, result, -⟩ := runStagesFrom_error failed
      dsimp only at executed
      refine ⟨last, ?_, tail.err, result⟩
      rw [executed]
      exact List.mem_append_right _ (List.mem_singleton_self last)
    · rintro ⟨execution, member, fails⟩
      cases answer : runStages world stages message with
      | error failure => exact ⟨failure, rfl⟩
      | ok outcome =>
        obtain ⟨-, succeeded, -⟩ := runStagesFrom_ok answer
        exact absurd fails (succeeded execution member)
  failed failure failed := by
    obtain ⟨earlier, last, runs, tail, executed, listed, all, tells, succeeded, result, -⟩ := runStagesFrom_error failed
    dsimp only at executed
    rw [List.nil_append] at listed
    rw [executed, listed]
    refine ⟨List.rel_append all (.cons tells .nil), ?_, ?_⟩
    · refine ⟨tail, last, List.getLast?_concat, List.getLast?_concat, tells.failed.mpr ⟨_, result⟩, ?_, ?_⟩
      · rw [tells.body, Execution.left, result]
      · rw [tells.format, Execution.left, result]
    · rw [List.dropLast_concat]
      exact succeeded
  finished outcome finished := by
    obtain ⟨every, succeeded, runs, listed, all, body, route⟩ := runStagesFrom_ok finished
    dsimp only at every all body route
    rw [List.nil_append] at listed
    obtain rfl := listed
    refine ⟨every, all, ?_, ?_, route.trans (Option.or_none ..)⟩
    · intro index run execution here further
      have told := rel_getElem? all index
      rw [here] at told
      cases former : (executions world stages message (detect message))[index]? with
      | none =>
        rw [former] at told
        cases told
      | some execution =>
        rw [former] at told
        obtain ⟨told⟩ := told
        rw [told.body, told.format]
        exact executions_next former further
    · have told := rel_getElem? all (outcome.runs.length - 1)
      rw [← List.getLast?_eq_getElem?, all.length_eq, ← List.getLast?_eq_getElem?] at told
      rw [body]
      generalize outcome.runs.getLast? = run at told
      generalize (executions world stages message (detect message)).getLast? = last at told
      cases told with
      | none => rfl
      | some told => exact told.body.symm

/-! ### Where a chain failed -/

theorem runStagesFrom_append {stages others : List (Stage World)} {start outcome : StageOutcome}
    (finished : runStagesFrom world stages start = .ok outcome) :
    runStagesFrom world (stages ++ others) start = runStagesFrom world others outcome := by
  induction stages generalizing start with
  | nil =>
    obtain rfl := Except.ok.inj finished
    rfl
  | cons stage rest hypothesis =>
    rw [List.cons_append, runStagesFrom]
    rw [runStagesFrom] at finished
    split
    case h_1 err failed =>
      rw [failed] at finished
      cases finished
    case h_2 output done =>
      rw [done] at finished
      exact hypothesis finished

theorem exists_failing {stages : List (Stage World)} {start : StageOutcome} {failure : StageFailure}
    (failed : runStagesFrom world stages start = .error failure) :
    ∃ before stage after outcome err, stages = before ++ stage :: after ∧
      runStagesFrom world before start = .ok outcome ∧
      stage.execute world outcome.body outcome.format = .error err := by
  induction stages generalizing start with
  | nil => cases failed
  | cons stage rest hypothesis =>
    rw [runStagesFrom] at failed
    cases done : stage.execute world start.body start.format with
    | error err => exact ⟨[], stage, rest, start, err, rfl, rfl, done⟩
    | ok output =>
      rw [done] at failed
      obtain ⟨before, failing, after, outcome, err, rfl, finished, fails⟩ := hypothesis failed
      refine ⟨stage :: before, failing, after, outcome, err, rfl, ?_, fails⟩
      rw [runStagesFrom, done]
      exact finished

theorem failingStageFromRuns_of_fails {before after : List (Stage World)} {stage : Stage World}
    {message : Bytes}
    {outcome : StageOutcome} {err : String} {failure : StageFailure}
    (finished : runStages world before message = .ok outcome)
    (fails : stage.execute world outcome.body outcome.format = .error err)
    (failed : runStages world (before ++ stage :: after) message = .error failure) :
    failingStageFromRuns failure.runs = (stage.name, before.length) := by
  obtain ⟨every, -, runs, listed, all, -⟩ := runStagesFrom_ok finished
  rw [runStages, runStagesFrom_append finished, runStagesFrom, fails] at failed
  obtain rfl := Except.error.inj failed
  have count : outcome.runs.length = before.length := by
    rw [listed, List.nil_append, all.length_eq, ← List.length_map Execution.stage, every]
  rw [failingStageFromRuns, List.getLast?_concat]
  dsimp only
  rw [if_pos rfl, List.length_append, List.length_singleton, Nat.add_sub_cancel, count]

end Executions

section Build

variable {World Document : Type} {builder : StageBuilder World Document} {rows : Rows} {world : World}

theorem buildFrom_append {before after : List StageRow} {stages : List (Stage World)}
    (built : builder.buildFrom rows (before ++ after) = .ok stages) :
    ∃ first second, builder.buildFrom rows before = .ok first ∧ builder.buildFrom rows after = .ok second ∧
      stages = first ++ second := by
  induction before generalizing stages with
  | nil => exact ⟨[], stages, rfl, built, rfl⟩
  | cons row before hypothesis =>
    rw [List.cons_append, StageBuilder.buildFrom] at built
    rw [StageBuilder.buildFrom]
    split at built
    case isFalse disabled =>
      rw [if_neg disabled]
      exact hypothesis built
    case isTrue enabled =>
      rw [if_pos enabled]
      split at built
      · cases built
      case h_2 stage made =>
        split at built
        · cases built
        case h_2 others madeOthers =>
          obtain ⟨first, second, firstBuilt, secondBuilt, rfl⟩ := hypothesis madeOthers
          refine ⟨stage :: first, second, ?_, secondBuilt, (Except.ok.inj built).symm⟩
          rw [firstBuilt]

theorem length_buildFrom {listed : List StageRow} {stages : List (Stage World)}
    (built : builder.buildFrom rows listed = .ok stages) : stages.length = listed.countP (·.enabled) := by
  induction listed generalizing stages with
  | nil =>
    obtain rfl := Except.ok.inj built
    rfl
  | cons row rest hypothesis =>
    rw [StageBuilder.buildFrom] at built
    split at built
    case isFalse disabled =>
      rw [List.countP_cons_of_neg disabled]
      exact hypothesis built
    case isTrue enabled =>
      rw [List.countP_cons_of_pos enabled]
      split at built
      · cases built
      · split at built
        · cases built
        case h_2 others madeOthers =>
          obtain rfl := Except.ok.inj built
          rw [List.length_cons, hypothesis madeOthers]

theorem exists_row_of_buildFrom {listed : List StageRow} {before after : List (Stage World)}
    {stage : Stage World}
    (built : builder.buildFrom rows listed = .ok (before ++ stage :: after)) :
    ∃ earlier row later, listed = earlier ++ row :: later ∧ row.enabled = true ∧
      builder.buildFrom rows earlier = .ok before ∧ builder.buildStage rows row = .ok stage := by
  induction listed generalizing before with
  | nil =>
    have empty := Except.ok.inj built
    exact absurd empty (List.append_ne_nil_of_right_ne_nil before (List.cons_ne_nil stage after)).symm
  | cons row rest hypothesis =>
    rw [StageBuilder.buildFrom] at built
    split at built
    case isFalse disabled =>
      obtain ⟨earlier, failing, later, rfl, enabled, first, made⟩ := hypothesis built
      refine ⟨row :: earlier, failing, later, rfl, enabled, ?_, made⟩
      rw [StageBuilder.buildFrom, if_neg disabled]
      exact first
    case isTrue enabled =>
      split at built
      · cases built
      case h_2 first made =>
        split at built
        · cases built
        case h_2 others madeOthers =>
          have same := Except.ok.inj built
          cases before with
          | nil =>
            obtain ⟨rfl, -⟩ := List.cons.inj same
            exact ⟨[], row, rest, rfl, enabled, rfl, made⟩
          | cons other before =>
            obtain ⟨rfl, rfl⟩ := List.cons.inj same
            obtain ⟨earlier, failing, later, rfl, again, firstBuilt, madeFailing⟩ := hypothesis madeOthers
            refine ⟨row :: earlier, failing, later, rfl, again, ?_, madeFailing⟩
            rw [StageBuilder.buildFrom, if_pos enabled, made, firstBuilt]

/-- The chain of a pipeline fails at the row of a position: its stage fails on what the stages of the rows before
it left. -/
def FailsAt (builder : StageBuilder World Document) (rows : Rows) (world : World) (message : Bytes) (position : Nat) :
    Prop :=
  ∃ earlier row later before stage outcome err, rows.stages = earlier ++ row :: later ∧ earlier.length = position ∧
    row.enabled = true ∧ builder.buildFrom rows earlier = .ok before ∧ builder.buildStage rows row = .ok stage ∧
    runStages world before message = .ok outcome ∧ stage.execute world outcome.body outcome.format = .error err

theorem exists_failsAt {stages : List (Stage World)} {message : Bytes} {failure : StageFailure}
    (built : builder.build rows = .ok stages) (failed : runStages world stages message = .error failure) :
    ∃ position, FailsAt builder rows world message position := by
  obtain ⟨before, stage, after, outcome, err, rfl, finished, fails⟩ := exists_failing failed
  obtain ⟨earlier, row, later, listed, enabled, first, made⟩ := exists_row_of_buildFrom built
  exact ⟨_, earlier, row, later, before, stage, outcome, err, listed, rfl, enabled, first, made, finished, fails⟩

/-- The failing stage is the one at the position. -/
theorem FailsAt.failingStage {stages : List (Stage World)} {message : Bytes} {failure : StageFailure}
    {position : Nat}
    (fails : FailsAt builder rows world message position) (built : builder.build rows = .ok stages)
    (failed : runStages world stages message = .error failure) :
    (failingStageFromRuns failure.runs).2 = (rows.stages.take position).countP (·.enabled) := by
  obtain ⟨earlier, row, later, before, stage, outcome, err, listed, rfl, enabled, first, made, finished, broken⟩ := fails
  rw [StageBuilder.build, listed] at built
  obtain ⟨before', rest, again, further, rfl⟩ := buildFrom_append built
  obtain rfl := Except.ok.inj (first.symm.trans again)
  rw [StageBuilder.buildFrom, if_pos enabled, made] at further
  dsimp only at further
  split at further
  · cases further
  · obtain rfl := Except.ok.inj further
    rw [failingStageFromRuns_of_fails finished broken failed, listed, List.take_left]
    exact length_buildFrom first

end Build

/-! ### From the rows to the dead-letter queue -/

/-- Chains run as they are listed, the route stage names the destinations of the rules that match, in stable order and
each once, and the index of a failure is the position of its row in the stored list exactly if no disabled row stands
before it. -/
theorem stage_chain_semantics {World Document Number : Type} (library : ConditionLibrary Number)
    (builder : StageBuilder World Document) (executor : Executor World) :
    (∀ world (stages : List (Stage World)) message, ChainRuns world stages message (runStages world stages message)) ∧
    (∀ rules message format document, library.decodeStructured message format = .ok document →
      RoutesTo rules message format (library.Selects (document.getD []))
        (routeExecute library.routeReader rules message format)) ∧
    ∀ rows stages world message failure, builder.build rows = .ok stages →
      runStages world stages message = .error failure →
      (∃ position, FailsAt builder rows world message position) ∧
      ∀ position, FailsAt builder rows world message position →
        ((executor.stageFailureEntry message failure).failingStageIndex = position ↔
          ∀ row ∈ rows.stages.take position, row.enabled = true) := by
  refine ⟨chainRuns, ?_, ?_⟩
  · intro rules message format document decoded
    exact routeExecute_routes library.routeReader document decoded fun rule => library.routeReader_matched
  · intro rows stages world message failure built failed
    refine ⟨exists_failsAt built failed, fun position fails => ?_⟩
    have within : position ≤ rows.stages.length := by
      obtain ⟨earlier, row, later, -, -, -, -, listed, rfl, -⟩ := fails
      rw [listed, List.length_append]
      exact Nat.le_add_right _ _
    rw [Executor.stageFailureEntry, fails.failingStage built failed]
    rw [← List.countP_eq_length, List.length_take, Nat.min_eq_left within]

/-- A builder whose stages fail on every message. -/
def failingBuilder : StageBuilder Unit Unit where
  make _ _ row := .ok { name := row.stageType, execute := fun _ _ _ => .error "script: division by zero" }
  reader := { decodeStructured := fun _ _ => .ok (), matched := fun _ _ => false }
  silent _ _ _ _ made := by
    obtain rfl := Except.ok.inj made
    intro world message format output result executed
    cases executed

def filterOffRows : Rows where
  pipeline := windowedExecutor.pipeline
  stages := [{ tenantID := "t", pipelineID := "p", stageType := "filter", enabled := false },
    { tenantID := "t", pipelineID := "p", stageOrder := 1, stageType := "script" }]

/-- The script is the second of the stored stages, and its failure is filed under the first. -/
theorem disabled_row_shifts_index :
    FailsAt failingBuilder filterOffRows () emptyObject 1 ∧
    ∃ stages failure, failingBuilder.build filterOffRows = .ok stages ∧
      runStages () stages emptyObject = .error failure ∧
      (windowedExecutor.stageFailureEntry emptyObject failure).failingStageName = "script" ∧
      (windowedExecutor.stageFailureEntry emptyObject failure).failingStageIndex = 0 :=
  ⟨⟨[_], _, [], [], _, _, _, rfl, rfl, rfl, rfl, rfl, rfl, rfl⟩, _, _, rfl, rfl, rfl, rfl⟩

end MqConnector
