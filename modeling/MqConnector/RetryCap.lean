/-
This file counts the sends of a row against the cap: the greater of the service's
`maxRetries` and the pipeline's `retry_max`.

From above, the cap is checked on a row that was read before the count is written;
callers that have read the same row all count and send.

From below, the first check of `Retry` compares the count with the service's cap
alone, so that the second, which would let a pipeline extend it, is never the one
that decides.
-/

import MqConnector.RetryOnce
import Mathlib.Data.List.Perm.Subperm

namespace MqConnector

variable {World Document Key Rule : Type}

/-! ### Counts and sends -/

/-- The calls of `SendMessage` made for a row. -/
def RetryState.sendsOf (state : RetryState World Key Rule) (id : String) : Nat :=
  state.sends.countP fun mark => mark.id == id

def RetryState.countsOf (state : RetryState World Key Rule) (id : String) : Nat :=
  state.counts.countP fun count => count.2 == id

def RetryState.sendKeys (state : RetryState World Key Rule) : List (Nat × String) :=
  state.sends.map fun mark => (mark.caller, mark.id)

def occurs (key : Nat × String) (keys : List (Nat × String)) : Nat :=
  keys.countP fun other => decide (other = key)

/-- The row of a call that has counted and not yet sent. -/
def RetryPhase.owed : RetryPhase → Option String
  | .counted call _ _ => some call.id
  | .sending call _ _ => some call.id
  | _ => none

/-- One for the row of such a call. -/
def RetryPhase.owes (phase : RetryPhase) (id : String) : Nat :=
  if phase.owed = some id then 1 else 0

theorem RetryPhase.owes_eq_one {phase : RetryPhase} {id : String} (owed : phase.owed = some id) :
    phase.owes id = 1 :=
  if_pos owed

theorem RetryPhase.owes_eq_zero {phase : RetryPhase} {id : String} (owed : phase.owed ≠ some id) :
    phase.owes id = 0 :=
  if_neg owed

theorem RetryPhase.owes_le_one (phase : RetryPhase) (id : String) : phase.owes id ≤ 1 := by
  unfold owes
  split
  · exact Nat.le_refl 1
  · exact Nat.zero_le 1

/-- A count is written, to a row that is there and still below the limit. -/
def CountsBelow (limit : Nat) (state : RetryState World Key Rule) : RetryLabel Key Rule → Prop
  | .act caller (.increment written) => ∀ call held pipeline,
      state.phases caller = .counting call held pipeline →
        written = true ∧ ∃ stored, state.db.get call.tenantID call.id = some stored ∧
          stored.row.retryCount < limit
  | _ => True

/-- What the runs that meet the condition keep: every send has a count of its caller, the counts are
the column, and the column is within the limit. -/
structure CapKept (limit : Nat) (state : RetryState World Key Rule) : Prop where
  table : TableKept state
  paid : ∀ caller id, occurs (caller, id) state.sendKeys + (state.phases caller).owes id ≤
    occurs (caller, id) state.counts
  column : ∀ id, state.db.Every id fun row => row.retryCount = state.countsOf id
  capped : ∀ id, state.countsOf id ≤ limit

theorem CapKept.sendsOf_le {limit : Nat} {state : RetryState World Key Rule}
    (kept : CapKept limit state) (id : String) : state.sendsOf id ≤ limit := by
  have sub : state.sendKeys.Subperm state.counts := by
    refine List.subperm_iff_count.mpr fun key => ?_
    exact (Nat.le_add_right _ _).trans (kept.paid key.1 key.2)
  have fewer := sub.countP_le fun count => count.2 == id
  have same : state.sendKeys.countP (fun count => count.2 == id) = state.sendsOf id :=
    List.countP_map ..
  rw [same] at fewer
  exact fewer.trans (kept.capped id)

section Moves

variable {service : DlqService World Document Key Rule} {limit : Nat}
  {state after : RetryState World Key Rule} {caller : Nat} {next : RetryPhase} {action : RetryAction}
  {id : String}

/-- A step of a caller is a count, a send, or neither. -/
inductive Tally (state : RetryState World Key Rule) (caller : Nat) :
    RetryPhase → RetryAction → RetryPhase → RetryState World Key Rule → Prop
  | count (call : RetryCall) (held : HeldRow) (pipeline : Pipeline) (written : Bool) :
      Tally state caller (.counting call held pipeline) (.increment written)
        (.counted call held pipeline) (DlqService.countCall state caller call written)
  | send (call : RetryCall) (payload : Bytes) (config : Config) (sent : Bool) :
      Tally state caller (.sending call payload config) (.send sent)
        (.returned call (if sent then .succeeded else .failed))
        (DlqService.sendCall state caller call sent)
  | neither {phase next : RetryPhase} {action : RetryAction} {after : RetryState World Key Rule}
      (sends : after.sends = state.sends) (counts : after.counts = state.counts)
      (owed : next.owed = phase.owed ∨ next.owed = none)
      (column : ∀ id number, (state.db.Every id fun row => row.retryCount = number) →
        after.db.Every id fun row => row.retryCount = number) :
      Tally state caller phase action next after

theorem tally_of_move {phase : RetryPhase}
    (move : service.RetryMove state caller phase action next after) :
    Tally state caller phase action next after := by
  cases move with
  | increment written => exact .count _ _ _ written
  | send sent => exact .send _ _ _ sent
  | connect => exact .neither rfl rfl (Or.inl rfl) fun _ _ same => same
  | @closeBulk tenantID target rest result now jitter written =>
    split
    · exact .neither rfl rfl (Or.inr rfl) fun _ _ same => DlqState.every_delete same
    · exact .neither rfl rfl (Or.inr rfl) fun _ _ same => same
  | @closeReaper tenantID target entry rest result now jitter written =>
    split
    · exact .neither rfl rfl (Or.inr rfl) fun _ _ same =>
        DlqState.every_scheduleRetry (fun _ counted => counted) same
    · exact .neither rfl rfl (Or.inr rfl) fun _ _ same => same
  | _ => exact .neither rfl rfl (Or.inr rfl) fun _ _ same => same

theorem occurs_cons_self (key : Nat × String) (keys : List (Nat × String)) :
    occurs key (key :: keys) = occurs key keys + 1 :=
  List.countP_cons_of_pos (decide_eq_true rfl)

theorem occurs_cons_of_ne {key other : Nat × String} (different : other ≠ key)
    (keys : List (Nat × String)) : occurs key (other :: keys) = occurs key keys := by
  refine List.countP_cons_of_neg fun test => different ?_
  exact of_decide_eq_true test

theorem key_ne {name : String} (different : name ≠ id) :
    ((caller, name) : Nat × String) ≠ (caller, id) :=
  fun equal => different (Prod.mk.inj equal).2

theorem paid_count {call : RetryCall} {held : HeldRow} {pipeline : Pipeline}
    (before : occurs (caller, id) state.sendKeys ≤ occurs (caller, id) state.counts) :
    occurs (caller, id) state.sendKeys + (RetryPhase.counted call held pipeline).owes id ≤
      occurs (caller, id) ((caller, call.id) :: state.counts) := by
  by_cases same : call.id = id
  · rw [same, occurs_cons_self]
    exact Nat.add_le_add before (RetryPhase.owes_le_one _ _)
  · have free : (RetryPhase.counted call held pipeline).owes id = 0 :=
      RetryPhase.owes_eq_zero fun owed => same (Option.some.inj owed)
    rw [occurs_cons_of_ne (key_ne same), free]
    exact before

theorem paid_send {call : RetryCall} {payload : Bytes} {config : Config}
    (paid : occurs (caller, id) state.sendKeys + (RetryPhase.sending call payload config).owes id ≤
      occurs (caller, id) state.counts) :
    occurs (caller, id) ((caller, call.id) :: state.sendKeys) ≤ occurs (caller, id) state.counts := by
  by_cases same : call.id = id
  · have owes : (RetryPhase.sending call payload config).owes id = 1 :=
      RetryPhase.owes_eq_one (congrArg some same)
    rw [owes] at paid
    rw [same, occurs_cons_self]
    exact paid
  · rw [occurs_cons_of_ne (key_ne same)]
    exact (Nat.le_add_right _ _).trans paid

theorem tally_other {phase : RetryPhase} (tally : Tally state caller phase action next after)
    {other : Nat} (different : other ≠ caller) :
    occurs (other, id) after.sendKeys = occurs (other, id) state.sendKeys ∧
      occurs (other, id) after.counts = occurs (other, id) state.counts := by
  have apart : ∀ name : String, ((caller, name) : Nat × String) ≠ (other, id) :=
    fun name equal => different (Prod.mk.inj equal).1.symm
  cases tally with
  | count call held pipeline written =>
    cases written with
    | false => exact ⟨rfl, rfl⟩
    | true =>
      refine ⟨rfl, ?_⟩
      show occurs (other, id) (if _ then _ else _) = _
      split
      · exact occurs_cons_of_ne (apart call.id) _
      · rfl
  | send call payload config sent => exact ⟨occurs_cons_of_ne (apart call.id) _, rfl⟩
  | neither sends counts owed column =>
    have keys : after.sendKeys = state.sendKeys := congrArg (List.map _) sends
    rw [keys, counts]
    exact ⟨rfl, rfl⟩

theorem count_column {call : RetryCall} {held : HeldRow} {pipeline : Pipeline}
    (kept : CapKept limit state) (counting : state.phases caller = .counting call held pipeline)
    {stored : HeldRow} (found : state.db.get call.tenantID call.id = some stored)
    (below : stored.row.retryCount < limit) :
    (DlqService.countCall state caller call true).counts = (caller, call.id) :: state.counts ∧
    (∀ id, (DlqService.countCall state caller call true).db.Every id fun row =>
      row.retryCount = (DlqService.countCall state caller call true).countsOf id) ∧
    ∀ id, (DlqService.countCall state caller call true).countsOf id ≤ limit := by
  have counts : (DlqService.countCall state caller call true).counts =
      (caller, call.id) :: state.counts := by
    have some : (state.db.get call.tenantID call.id).isSome = true := found ▸ rfl
    exact if_pos some
  have self : (DlqService.countCall state caller call true).countsOf call.id =
      state.countsOf call.id + 1 := by
    unfold RetryState.countsOf
    rw [counts]
    exact List.countP_cons_of_pos (beq_self_eq_true call.id)
  have other : ∀ id, call.id ≠ id →
      (DlqService.countCall state caller call true).countsOf id = state.countsOf id := by
    intro id different
    unfold RetryState.countsOf
    rw [counts]
    exact List.countP_cons_of_neg fun test => different (beq_iff_eq.mp test)
  have owned : state.Owned call.id call.tenantID :=
    (kept.table.phases caller).ahead call (counting ▸ rfl)
  obtain ⟨among, named, -⟩ := DlqState.get_eq_some found
  refine ⟨counts, fun id => ?_, fun id => ?_⟩
  · by_cases same : call.id = id
    · subst same
      rw [self]
      exact DlqState.every_incrementRetry_owned owned.2 (kept.column call.id)
        fun row counted => congrArg (· + 1) counted
    · rw [other id same]
      exact DlqState.every_incrementRetry_other same (kept.column id)
  · by_cases same : call.id = id
    · subst same
      rw [self, ← kept.column call.id stored among named]
      exact below
    · rw [other id same]
      exact kept.capped id

theorem tally_kept {phase : RetryPhase} (tally : Tally state caller phase action next after)
    (phased : state.phases caller = phase) (kept : CapKept limit state)
    (below : CountsBelow limit state (.act caller action)) :
    (∀ id, occurs (caller, id) after.sendKeys + next.owes id ≤ occurs (caller, id) after.counts) ∧
    (∀ id, after.db.Every id fun row => row.retryCount = after.countsOf id) ∧
    ∀ id, after.countsOf id ≤ limit := by
  have paid := kept.paid caller
  rw [phased] at paid
  cases tally with
  | count call held pipeline written =>
    obtain ⟨rfl, stored, found, under⟩ := below call held pipeline phased
    obtain ⟨counts, column, capped⟩ := count_column kept phased found under
    refine ⟨fun id => ?_, column, capped⟩
    rw [counts]
    exact paid_count ((Nat.le_add_right _ _).trans (paid id))
  | send call payload config sent =>
    refine ⟨fun id => ?_, kept.column, kept.capped⟩
    have settled : (RetryPhase.returned call (if sent then .succeeded else .failed)).owes id = 0 :=
      RetryPhase.owes_eq_zero (Option.some_ne_none id).symm
    rw [settled, Nat.add_zero]
    exact paid_send (paid id)
  | @neither phase next action after sends counts owed column =>
    have keys : after.sendKeys = state.sendKeys := congrArg (List.map _) sends
    have tallied : ∀ id, after.countsOf id = state.countsOf id :=
      fun id => congrArg (List.countP _) counts
    refine ⟨fun id => ?_, fun id => ?_, fun id => ?_⟩
    · rw [keys, counts]
      obtain same | none := owed
      · have owes : next.owes id = phase.owes id := by
          unfold RetryPhase.owes
          rw [same]
        rw [owes]
        exact paid id
      · rw [RetryPhase.owes_eq_zero fun owed => Option.some_ne_none id (owed.symm.trans none)]
        exact (Nat.le_add_right _ _).trans (paid id)
    · rw [tallied id]
      exact column id _ (kept.column id)
    · rw [tallied id]
      exact kept.capped id

theorem step_capKept {label : RetryLabel Key Rule} (kept : CapKept limit state)
    (below : CountsBelow limit state label)
    (fired : service.retryStep state label = some after) : CapKept limit after := by
  have table := (step_tableKept kept.table fired).1
  by_cases inside : ∃ caller action, label = .act caller action
  · obtain ⟨caller, action, rfl⟩ := inside
    obtain ⟨moved, acted, rfl⟩ := Option.map_eq_some_iff.mp fired
    have tally := tally_of_move (DlqService.move_of_act acted)
    obtain ⟨paid, column, capped⟩ := tally_kept tally rfl kept below
    refine ⟨table, fun other id => ?_, column, capped⟩
    by_cases same : other = caller
    · subst same
      have self : (Function.update state.phases other moved.1) other = moved.1 :=
        Function.update_self ..
      show _ + (Function.update state.phases other moved.1 other).owes id ≤ _
      rw [self]
      exact paid id
    · have others : (Function.update state.phases caller moved.1) other = state.phases other :=
        Function.update_of_ne same ..
      obtain ⟨sends, counts⟩ := @tally_other _ _ _ state moved.2 caller moved.1 action id _ tally other same
      show occurs _ moved.2.sendKeys + (Function.update state.phases caller moved.1 other).owes id ≤
        occurs _ moved.2.counts
      rw [others, sends, counts]
      exact kept.paid other id
  · have outside := outside_of_step (fun caller action same => inside ⟨caller, action, same⟩) fired
    have tallied : ∀ id, after.countsOf id = state.countsOf id :=
      fun id => congrArg (List.countP _) outside.counts
    refine ⟨table, fun caller id => ?_, fun id => ?_, fun id => ?_⟩
    · have keys : after.sendKeys = state.sendKeys := congrArg (List.map _) outside.sends
      rw [keys, outside.counts, outside.phases]
      exact kept.paid caller id
    · rw [tallied id]
      by_cases issued : id ∈ state.issued
      · exact outside.every id issued _ (fun _ same => same) (kept.column id)
      · have zero : state.countsOf id = 0 := by
          refine List.countP_eq_zero.mpr fun count among test => issued ?_
          exact beq_iff_eq.mp test ▸ kept.table.counts count among
        intro held among named
        obtain old | ⟨-, none⟩ := outside.added held among
        · obtain ⟨key, stored, same⟩ := List.mem_map.mp old
          exact absurd (same.trans named ▸ kept.table.rows.known key stored) issued
        · exact none.trans zero.symm
    · rw [tallied id]
      exact kept.capped id

/-- While counts stay below the limit, so do the sends. -/
theorem sendsOf_le_of_countsBelow (store : Store) (rules : String → List Rule)
    (keys : Option (KeyRing Key))
    (reached : Runs.Reaches service.retryStep (CountsBelow limit)
      (RetryState.initial store rules keys) state) (id : String) : state.sendsOf id ≤ limit := by
  have kept := reached.invariant (CapKept limit)
    ⟨initial_tableKept store rules keys, fun _ _ => Nat.le_refl _,
      fun _ _ among => absurd among List.not_mem_nil, fun _ => Nat.zero_le _⟩
    (fun _ _ _ kept below fired => step_capKept kept below fired)
  exact kept.sendsOf_le id

end Moves

/-! ### One retry after another -/

section Sequence

variable (service : DlqService World Document Key Rule) (db : DlqState World Key Rule)
  (tenantID id : String) (world : World)

/-- The table after a number of calls of `Retry` that all fail in their send. -/
def failedRetries : Nat → DlqState World Key Rule
  | 0 => db
  | number + 1 =>
    (service.retry (failedRetries number) tenantID id { sent := false } world).2

/-- The row is sent so often, and then `Retry` returns `ErrMaxRetries`. -/
def SentExactly (number : Nat) : Prop :=
  (∀ earlier < number,
    (service.retry (failedRetries service db tenantID id world earlier) tenantID id
      { sent := false } world).1 = .failed ∧
    (failedRetries service db tenantID id world (earlier + 1)).log.length =
      (failedRetries service db tenantID id world earlier).log.length + 1) ∧
  (service.retry (failedRetries service db tenantID id world number) tenantID id
    { sent := false } world).1 = .maxRetries

/-- A row that can be retried: it has a pipeline, whose destination is there, and its payload can be
read. -/
structure Retriable (held : HeldRow) (pipeline : Pipeline) : Prop where
  found : db.get tenantID id = some held
  linked : held.row.entry.pipelineID ≠ ""
  piped : db.store.pipelines.find? (fun pipeline =>
    pipeline.id = held.row.entry.pipelineID ∧ pipeline.tenantID = tenantID) = some pipeline
  reachable : (DlqService.retryDestination db tenantID pipeline { sent := false }).isSome = true
  readable : (service.retryPayload db.keys held.row).isSome = true

variable {service db tenantID id world} {held : HeldRow} {pipeline : Pipeline}

theorem Retriable.refused (row : Retriable service db tenantID id held pipeline)
    (reached : service.maxRetries ≤ held.row.retryCount) :
    (service.retry db tenantID id { sent := false } world).1 = .maxRetries := by
  have loads : service.loadRetry db tenantID id { sent := false } = .error .maxRetries := by
    unfold DlqService.loadRetry
    rw [if_neg Bool.noConfusion, row.found]
    exact if_pos reached
  unfold DlqService.retry
  rw [loads]

theorem Retriable.loads (row : Retriable service db tenantID id held pipeline)
    (below : held.row.retryCount < service.maxRetries) :
    service.loadRetry db tenantID id { sent := false } = .ok (held, pipeline) := by
  have limit : ¬ max (service.maxRetries : Int) pipeline.retryMax ≤ held.row.retryCount := by
    intro reached
    exact absurd (Int.ofNat_le.mp ((le_max_left _ _).trans reached)) (Nat.not_le_of_lt below)
  have unread : ¬ (held.row.entry.pipelineID = "" ∨ true = false) :=
    fun either => either.elim row.linked Bool.noConfusion
  unfold DlqService.loadRetry
  rw [if_neg Bool.noConfusion, row.found]
  dsimp only
  rw [if_neg (Nat.not_le_of_lt below), if_neg unread, row.piped]
  exact if_neg limit

theorem Retriable.sent (row : Retriable service db tenantID id held pipeline)
    (below : held.row.retryCount < service.maxRetries) :
    (service.retry db tenantID id { sent := false } world).1 = .failed ∧
      (service.retry db tenantID id { sent := false } world).2.log.length = db.log.length + 1 ∧
      Retriable service (service.retry db tenantID id { sent := false } world).2 tenantID id
        { held with row := { held.row with retryCount := held.row.retryCount + 1 } } pipeline := by
  obtain ⟨destination, reaches⟩ := Option.isSome_iff_exists.mp row.reachable
  obtain ⟨payload, reads⟩ := Option.isSome_iff_exists.mp row.readable
  obtain ⟨pooled, got⟩ := DlqService.retryGot_eq (db.incrementRetry tenantID id) held.row.id
    (DlqService.retryConnection db tenantID pipeline { sent := false }) true
  unfold DlqService.retry
  rw [row.loads below]
  dsimp only
  rw [reaches, reads, if_pos rfl, got]
  refine ⟨rfl, List.length_append, ?_, row.linked, row.piped, row.reachable, row.readable⟩
  have counted : (db.incrementRetry tenantID id).get tenantID id = some
      { held with row := { held.row with retryCount := held.row.retryCount + 1 } } := by
    rw [DlqState.get_incrementRetry, row.found]
    rfl
  exact counted

theorem failedRetries_retriable (row : Retriable service db tenantID id held pipeline)
    (fresh : held.row.retryCount = 0) (number : Nat) (within : number ≤ service.maxRetries) :
    Retriable service (failedRetries service db tenantID id world number) tenantID id
      { held with row := { held.row with retryCount := number } } pipeline := by
  induction number with
  | zero =>
    have same : ({ held with row := { held.row with retryCount := 0 } } : HeldRow) = held := by
      rw [← fresh]
    rw [same]
    exact row
  | succ number hypothesis =>
    exact (Retriable.sent (hypothesis (Nat.le_of_succ_le within)) within).2.2

/-- A row is sent exactly so often if the pipeline's cap is not the larger. -/
theorem sentExactly_iff (row : Retriable service db tenantID id held pipeline)
    (fresh : held.row.retryCount = 0) :
    SentExactly service db tenantID id world (max (service.maxRetries : Int) pipeline.retryMax).toNat ↔
      pipeline.retryMax ≤ service.maxRetries := by
  have refused : (service.retry (failedRetries service db tenantID id world service.maxRetries)
      tenantID id { sent := false } world).1 = .maxRetries :=
    (failedRetries_retriable row fresh service.maxRetries (Nat.le_refl _)).refused (Nat.le_refl _)
  constructor
  · intro exactly
    by_contra above
    -- the call after `maxRetries` sends is refused, though the pipeline allows more
    have earlier : service.maxRetries < (max (service.maxRetries : Int) pipeline.retryMax).toNat := by
      omega
    have failed := (exactly.1 service.maxRetries earlier).1
    rw [refused] at failed
    cases failed
  · intro within
    have cap : (max (service.maxRetries : Int) pipeline.retryMax).toNat = service.maxRetries := by
      omega
    rw [cap]
    refine ⟨fun earlier below => ?_, refused⟩
    obtain ⟨failed, log, -⟩ := @Retriable.sent _ _ _ _ _ _ _ _ world _ _
      (failedRetries_retriable row fresh earlier (Nat.le_of_lt below)) below
    exact ⟨failed, log⟩

end Sequence

/-- In a run whose counts are written to rows still below the greater cap, no row is sent more often;
and a row whose every send fails is sent exactly so often if and only if the pipeline does not
extend the cap of the service. -/
theorem sends_capped_iff (service : DlqService World Document Key Rule) :
    (∀ (retryMax : Nat) (store : Store) (rules : String → List Rule) (keys : Option (KeyRing Key))
        (state : RetryState World Key Rule),
      Runs.Reaches service.retryStep (CountsBelow (max service.maxRetries retryMax))
        (RetryState.initial store rules keys) state →
      ∀ id, state.sendsOf id ≤ max service.maxRetries retryMax) ∧
    (∀ (db : DlqState World Key Rule) (tenantID id : String) (world : World) (held : HeldRow)
        (pipeline : Pipeline),
      Retriable service db tenantID id held pipeline → held.row.retryCount = 0 →
        (SentExactly service db tenantID id world
            (max (service.maxRetries : Int) pipeline.retryMax).toNat ↔
          pipeline.retryMax ≤ service.maxRetries)) := by
  constructor
  · intro retryMax store rules keys state reached id
    exact sendsOf_le_of_countsBelow store rules keys reached id
  · intro db tenantID id world held pipeline row fresh
    exact sentExactly_iff row fresh

/-! ### Two callers at once, and a pipeline that extends the cap -/

open DlqService (gateService gateEntry)

def onceService : DlqService Unit Unit Unit Unit :=
  { gateService with maxRetries := 1 }

/-- One pipeline from `src` to `dst` that allows this many retries. -/
def cappedStore (retryMax : Int) : Store where
  pipelines := [{ id := "p", tenantID := "t", sourceID := "src", destinationID := "dst", retryMax }]
  distinct := List.nodup_singleton _
  stages := []
  transforms := []
  routingRules := []
  connections id :=
    if id = "src" ∨ id = "dst" then some { id := id, tenantID := "t", type := "kafka" } else none

/-- The table over `cappedStore`, before and after the push of the row `r`. -/
def cappedTable (retryMax : Int) : RetryState Unit Unit Unit :=
  .initial (cappedStore retryMax) (fun _ => []) none

/-- The rows after the push of `r`. -/
def cappedRows (retryMax : Int) : DlqState Unit Unit Unit :=
  onceService.push (cappedTable retryMax).db gateEntry { now := 0, id := "r" }

def inTurn : List (RetryLabel Unit Unit) :=
  [.act 0 (.retry "t" "r"), .act 1 (.retry "t" "r"), .act 0 (.get true), .act 1 (.get true),
    .act 0 (.getPipeline true), .act 1 (.getPipeline true), .act 0 (.increment true),
    .act 1 (.increment true), .act 0 (.connect true true), .act 1 (.connect true true),
    .act 0 (.send false), .act 1 (.send false)]

/-- With one retry allowed, two operators at once send the row twice; and with a pipeline that allows
two, the row is sent once. -/
theorem cap_exceeded_and_missed :
    (∃ state, Runs.Reaches onceService.retryStep (fun _ label => label.written = true)
        (cappedTable 0) state ∧ max onceService.maxRetries 0 < state.sendsOf "r") ∧
    ¬ SentExactly onceService (cappedRows 2) "t" "r" () (max (onceService.maxRetries : Int) 2).toNat := by
  constructor
  · obtain ⟨state, reached, tested⟩ := Runs.exists_reaches_of_exec onceService.retryStep
      (fun _ label => label.written = true) (cappedTable 0) ([pushRow] ++ inTurn)
      (fun state => decide (max onceService.maxRetries 0 < state.sendsOf "r")) (by decide)
    exact ⟨state, reached, of_decide_eq_true tested⟩
  · rintro ⟨failed, -⟩
    have refused : (onceService.retry (failedRetries onceService (cappedRows 2) "t" "r" () 1) "t" "r"
        { sent := false } ()).1 = .maxRetries := by
      decide
    have first := (failed 1 (by decide)).1
    rw [refused] at first
    cases first

/-- Whether a count is written to a row below the limit. -/
def countsBelow (limit : Nat) (db : DlqState World Key Rule) (phase : RetryPhase) :
    RetryAction → Bool
  | .increment written =>
    match phase with
    | .counting call _ _ => written &&
        (db.get call.tenantID call.id).any fun stored => stored.row.retryCount < limit
    | _ => true
  | _ => true

/-- Whether the step is a count below the limit, or none. -/
def countsBelowStep (limit : Nat) (state : RetryState World Key Rule) : RetryLabel Key Rule → Bool
  | .act caller action => countsBelow limit state.db (state.phases caller) action
  | _ => true

theorem countsBelow_of_step {limit : Nat} {state : RetryState World Key Rule}
    {label : RetryLabel Key Rule} (tested : countsBelowStep limit state label = true) :
    CountsBelow limit state label := by
  cases label with
  | act caller action =>
    cases action with
    | increment written =>
      intro call held pipeline counting
      have tested : countsBelow limit state.db (state.phases caller) (.increment written) = true :=
        tested
      rw [counting] at tested
      obtain ⟨wrote, row⟩ := Bool.and_eq_true_iff.mp tested
      obtain ⟨stored, found, below⟩ := (Option.any_eq_true _ _).mp row
      exact ⟨wrote, stored, found, of_decide_eq_true below⟩
    | _ => trivial
  | _ => trivial

/-- The row `r` after its push. -/
def cappedHeld : HeldRow :=
  ⟨onceService.pushedRow (cappedTable 1).db gateEntry { now := 0, id := "r" }, gateEntry.originalMsg⟩

/-- With one retry allowed by both, the first retry sends the row and the second is refused. -/
theorem capped_row_sent_once :
    (∃ state, Runs.Reaches onceService.retryStep (CountsBelow (max onceService.maxRetries 1))
        (cappedTable 1) state ∧ state.sendsOf "r" = 1 ∧ state.sendsOf "r" ≤ max onceService.maxRetries 1) ∧
    SentExactly onceService (cappedRows 1) "t" "r" () 1 := by
  constructor
  · obtain ⟨state, reached, tested⟩ := Runs.exists_reaches_of_exec onceService.retryStep
      (fun state label => countsBelowStep (max onceService.maxRetries 1) state label = true)
      (cappedTable 1)
      ([pushRow, .act 0 (.retry "t" "r")] ++ wholeCall 0 false ++
        [.act 0 (.retry "t" "r"), .act 0 (.get true), .act 0 (.close 0 0 true)])
      (fun state => decide (state.sendsOf "r" = 1)) (by decide)
    have below := reached.mono fun _ _ _ tested => countsBelow_of_step tested
    exact ⟨state, below, of_decide_eq_true tested,
      (sends_capped_iff onceService).1 1 _ _ _ state below "r"⟩
  · have row : Retriable onceService (cappedRows 1) "t" "r" cappedHeld
        { id := "p", tenantID := "t", sourceID := "src", destinationID := "dst", retryMax := 1 } :=
      ⟨by decide, by decide, by decide, by decide, by decide⟩
    exact ((sends_capped_iff onceService).2 (cappedRows 1) "t" "r" () cappedHeld _ row rfl).mpr
      (by decide)

end MqConnector
