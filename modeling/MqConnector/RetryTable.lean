/-
This file collects what every step of the retry machine keeps, whoever makes it: the
rows have distinct ids that were issued and belong to a tenant, the rows a reaper has
listed are rows of the table or of its past, and a call that has read its row is a
call in the tenant of that row.

The columns of a row change in three ways only: the count grows, the schedule is set
or cleared, and the pipeline is lost.
-/

import MqConnector.RetryCalls

namespace MqConnector

variable {World Document Key Rule : Type}

/-! ### Properties of a row that no step breaks -/

/-- A property of a row that counting, scheduling and the loss of its pipeline keep. -/
structure Stable (property : DLQRow → Prop) : Prop where
  counts : ∀ row, property row → property { row with retryCount := row.retryCount + 1 }
  schedules : ∀ row next, property row → property { row with nextRetryAt := next }
  unlinks : ∀ row, property row →
    property { row with entry := { row.entry with pipelineID := "" } }

theorem stable_tenant (tenantID : String) : Stable fun row => row.entry.tenantID = tenantID :=
  ⟨fun _ same => same, fun _ _ same => same, fun _ same => same⟩

theorem stable_count (bound : Nat) : Stable fun row => bound ≤ row.retryCount :=
  ⟨fun _ reached => Nat.le_succ_of_le reached, fun _ _ reached => reached, fun _ reached => reached⟩

namespace DlqState

variable {db : DlqState World Key Rule} {id : String} {property : DLQRow → Prop}

theorem every_updateRow {tenantID target : String} {change : DLQRow → DLQRow}
    (same : ∀ row, (change row).id = row.id) (kept : ∀ row, property row → property (change row))
    (every : db.Every id property) : (db.updateRow tenantID target change).Every id property := by
  intro held among named
  obtain ⟨before, stored, rfl⟩ := List.mem_map.mp among
  by_cases ours : before.row.id = target ∧ before.row.entry.tenantID = tenantID
  · rw [if_pos ours] at named ⊢
    exact kept _ (every before stored ((same _).symm.trans named))
  · rw [if_neg ours] at named ⊢
    exact every before stored named

theorem every_updateRow_owned {tenantID : String} {change : DLQRow → DLQRow}
    {before : DLQRow → Prop}
    (owned : db.Every id fun row => row.entry.tenantID = tenantID)
    (holds : db.Every id before) (made : ∀ row, before row → property (change row)) :
    (db.updateRow tenantID id change).Every id property := by
  intro held among named
  obtain ⟨old, stored, rfl⟩ := List.mem_map.mp among
  by_cases ours : old.row.id = id ∧ old.row.entry.tenantID = tenantID
  · rw [if_pos ours]
    exact made _ (holds old stored ours.1)
  · rw [if_neg ours] at named ⊢
    exact absurd ⟨named, owned old stored named⟩ ours

theorem every_updateRow_other {tenantID target : String} {change : DLQRow → DLQRow}
    (same : ∀ row, (change row).id = row.id) (other : target ≠ id) (every : db.Every id property) :
    (db.updateRow tenantID target change).Every id property := by
  intro held among named
  obtain ⟨before, stored, rfl⟩ := List.mem_map.mp among
  by_cases ours : before.row.id = target ∧ before.row.entry.tenantID = tenantID
  · rw [if_pos ours] at named
    exact absurd (ours.1.symm.trans ((same _).symm.trans named)) other
  · rw [if_neg ours] at named ⊢
    exact every before stored named

theorem every_incrementRetry {tenantID target : String}
    (kept : ∀ row, property row → property { row with retryCount := row.retryCount + 1 })
    (every : db.Every id property) : (db.incrementRetry tenantID target).Every id property :=
  @every_updateRow _ _ _ db id property tenantID target
    (fun row => { row with retryCount := row.retryCount + 1 }) (fun _ => rfl) kept every

theorem every_incrementRetry_owned {tenantID : String} {before : DLQRow → Prop}
    (owned : db.Every id fun row => row.entry.tenantID = tenantID) (holds : db.Every id before)
    (made : ∀ row, before row → property { row with retryCount := row.retryCount + 1 }) :
    (db.incrementRetry tenantID id).Every id property :=
  @every_updateRow_owned _ _ _ db id property tenantID
    (fun row => { row with retryCount := row.retryCount + 1 }) before owned holds made

theorem every_incrementRetry_other {tenantID target : String} (other : target ≠ id)
    (every : db.Every id property) : (db.incrementRetry tenantID target).Every id property :=
  @every_updateRow_other _ _ _ db id property tenantID target
    (fun row => { row with retryCount := row.retryCount + 1 }) (fun _ => rfl) other every

theorem every_scheduleRetry {tenantID target : String} {next : Option Int}
    (kept : ∀ row, property row → property { row with nextRetryAt := next })
    (every : db.Every id property) : (db.scheduleRetry tenantID target next).Every id property :=
  @every_updateRow _ _ _ db id property tenantID target
    (fun row => { row with nextRetryAt := next }) (fun _ => rfl) kept every

theorem every_scheduleRetry_owned {tenantID : String} {next : Option Int} {before : DLQRow → Prop}
    (owned : db.Every id fun row => row.entry.tenantID = tenantID) (holds : db.Every id before)
    (made : ∀ row, before row → property { row with nextRetryAt := next }) :
    (db.scheduleRetry tenantID id next).Every id property :=
  @every_updateRow_owned _ _ _ db id property tenantID
    (fun row => { row with nextRetryAt := next }) before owned holds made

theorem every_scheduleRetry_other {tenantID target : String} {next : Option Int}
    (other : target ≠ id) (every : db.Every id property) :
    (db.scheduleRetry tenantID target next).Every id property :=
  @every_updateRow_other _ _ _ db id property tenantID target
    (fun row => { row with nextRetryAt := next }) (fun _ => rfl) other every

theorem every_filter {keep : HeldRow → Bool} (every : db.Every id property) :
    ({ db with rows := db.rows.filter keep } : DlqState World Key Rule).Every id property :=
  fun held among named => every held (List.mem_of_mem_filter among) named

theorem every_delete {tenantID target : String} (every : db.Every id property) :
    (db.delete tenantID target).Every id property :=
  fun held among named => every held (List.mem_of_mem_filter among) named

theorem every_delete_owned {tenantID : String}
    (owned : db.Every id fun row => row.entry.tenantID = tenantID) :
    (db.delete tenantID id).Every id property := by
  intro held among named
  have kept := (List.mem_filter.mp among).2
  have stored := List.mem_of_mem_filter among
  exact absurd ⟨named, owned held stored named⟩ (of_decide_eq_true kept)

theorem unlink_id (after : Store) (row : DLQRow) : (db.unlink after row).id = row.id := by
  unfold unlink
  split
  · rfl
  · rfl

theorem every_writeStore (change : Write)
    (unlinks : ∀ row, property row →
      property { row with entry := { row.entry with pipelineID := "" } })
    (every : db.Every id property) : (db.writeStore change).Every id property := by
  intro held among named
  obtain ⟨before, stored, rfl⟩ := List.mem_map.mp among
  have kept := every before stored ((unlink_id _ _).symm.trans named)
  show property (db.unlink _ before.row)
  unfold unlink
  split
  · exact unlinks _ kept
  · exact kept

theorem get_eq_some {tenantID : String} {held : HeldRow} (found : db.get tenantID id = some held) :
    held ∈ db.rows ∧ held.row.id = id ∧ held.row.entry.tenantID = tenantID := by
  unfold get at found
  split at found
  · cases found
  · have matched := List.find?_some found
    exact ⟨List.mem_of_find?_eq_some found, of_decide_eq_true matched⟩

theorem get_updateRow (tenantID : String) {change : DLQRow → DLQRow}
    (same : ∀ row, (change row).id = row.id ∧ (change row).entry.tenantID = row.entry.tenantID) :
    (db.updateRow tenantID id change).get tenantID id =
      (db.get tenantID id).map fun held => { held with row := change held.row } := by
  unfold get updateRow
  by_cases empty : tenantID = ""
  · rw [if_pos empty, if_pos empty]
    rfl
  · rw [if_neg empty, if_neg empty]
    induction db.rows with
    | nil => rfl
    | cons held rest hypothesis =>
      rw [List.map_cons, List.find?_cons, List.find?_cons]
      by_cases ours : held.row.id = id ∧ held.row.entry.tenantID = tenantID
      · have kept : (change held.row).id = id ∧ (change held.row).entry.tenantID = tenantID := by
          rw [(same held.row).1, (same held.row).2]
          exact ours
        rw [if_pos ours, decide_eq_true ours, decide_eq_true kept]
        rfl
      · rw [if_neg ours, decide_eq_false ours]
        exact hypothesis

theorem get_incrementRetry (tenantID : String) :
    (db.incrementRetry tenantID id).get tenantID id = (db.get tenantID id).map fun held =>
      { held with row := { held.row with retryCount := held.row.retryCount + 1 } } :=
  get_updateRow tenantID fun _ => ⟨rfl, rfl⟩

theorem get_scheduleRetry (tenantID : String) (next : Option Int) :
    (db.scheduleRetry tenantID id next).get tenantID id = (db.get tenantID id).map fun held =>
      { held with row := { held.row with nextRetryAt := next } } :=
  get_updateRow tenantID fun _ => ⟨rfl, rfl⟩

theorem get_congr {other : DlqState World Key Rule} (same : other.rows = db.rows)
    (tenantID id : String) : other.get tenantID id = db.get tenantID id := by
  unfold get
  rw [same]

theorem mem_listDue {now : Int} {limit : Nat} {entry : DLQRow}
    (listed : entry ∈ db.listDue now limit) :
    (∃ held ∈ db.rows, held.row = entry) ∧ entry.nextRetryAt.isSome = true := by
  have sorted := List.mem_of_mem_take listed
  rw [List.mem_insertionSort] at sorted
  obtain ⟨stored, due⟩ := List.mem_filter.mp sorted
  refine ⟨List.mem_map.mp stored, ?_⟩
  obtain ⟨instant, at_, -⟩ := (Option.any_eq_true _ _).mp due
  rw [at_]
  rfl

theorem nodup_listDue {now : Int} {limit : Nat}
    (distinct : (db.rows.map fun held => held.row.id).Nodup) :
    ((db.listDue now limit).map DLQRow.id).Nodup := by
  have listed : (db.rows.map HeldRow.row).map DLQRow.id = db.rows.map fun held => held.row.id :=
    List.map_map
  rw [← listed] at distinct
  have due := distinct.sublist ((List.filter_sublist (p := fun row => row.nextRetryAt.any (· ≤ now))
    (l := db.rows.map HeldRow.row)).map DLQRow.id)
  have sorted := ((List.perm_insertionSort (fun first second : DLQRow =>
    first.nextRetryAt.getD 0 ≤ second.nextRetryAt.getD 0) _).map DLQRow.id).nodup_iff.mpr due
  exact sorted.sublist ((List.take_sublist limit _).map DLQRow.id)

end DlqState

/-! ### What a phase holds -/

namespace RetryPhase

def call : RetryPhase → Option RetryCall
  | .idle | .walking _ _ | .sweeping _ => none
  | .calling call | .loaded call _ | .counting call _ _ | .counted call _ _ | .sending call _ _
  | .returned call _ => some call

/-- The call of a caller that has read its row and has not yet sent. -/
def ahead : RetryPhase → Option RetryCall
  | .loaded call _ | .counting call _ _ | .counted call _ _ | .sending call _ _ => some call
  | _ => none

/-- The call that has returned nil and is not closed. -/
def succeeded : RetryPhase → Option RetryCall
  | .returned call .succeeded => some call
  | _ => none

/-- The rows a reaper has listed and not yet closed. -/
def batch : RetryPhase → List DLQRow
  | .idle | .walking _ _ => []
  | .sweeping rest => rest
  | .calling call | .loaded call _ | .counting call _ _ | .counted call _ _ | .sending call _ _
  | .returned call _ =>
    match call.loop with
    | .reaper entry rest => entry :: rest
    | _ => []

end RetryPhase

/-- A row of this id is or was stored, in this tenant. -/
def RetryState.Owned (state : RetryState World Key Rule) (id tenantID : String) : Prop :=
  id ∈ state.issued ∧ state.db.Every id fun row => row.entry.tenantID = tenantID

/-- What a caller may rely on. -/
structure PhaseOwned (state : RetryState World Key Rule) (phase : RetryPhase) : Prop where
  distinct : (phase.batch.map DLQRow.id).Nodup
  listed : ∀ entry ∈ phase.batch, entry.entry.tenantID ≠ "" ∧
    state.Owned entry.id entry.entry.tenantID
  reaping : ∀ call entry rest, phase.call = some call → call.loop = .reaper entry rest →
    call.id = entry.id ∧ call.tenantID = entry.entry.tenantID
  ahead : ∀ call, phase.ahead = some call → state.Owned call.id call.tenantID
  succeeded : ∀ call, phase.succeeded = some call → state.Owned call.id call.tenantID

/-- The columns of the rows that no step changes. -/
def DlqState.keyColumns (db : DlqState World Key Rule) : List (String × String) :=
  db.rows.map fun held => (held.row.id, held.row.entry.tenantID)

/-- Rows have distinct ids that were issued, and a tenant. -/
structure RowsKept (keyColumns : List (String × String)) (issued : List String) : Prop where
  distinct : (keyColumns.map Prod.fst).Nodup
  known : ∀ key ∈ keyColumns, key.1 ∈ issued
  tenants : ∀ key ∈ keyColumns, key.2 ≠ ""

theorem RowsKept.sublist {before after : List (String × String)} {issued : List String}
    (kept : RowsKept before issued) (fewer : after.Sublist before) : RowsKept after issued where
  distinct := kept.distinct.sublist (fewer.map Prod.fst)
  known key among := kept.known key (fewer.subset among)
  tenants key among := kept.tenants key (fewer.subset among)

theorem RowsKept.concat {keyColumns : List (String × String)} {issued : List String}
    (kept : RowsKept keyColumns issued) {id tenantID : String} (fresh : id ∉ issued)
    (tenant : tenantID ≠ "") : RowsKept (keyColumns ++ [(id, tenantID)]) (id :: issued) := by
  refine ⟨?_, ?_, ?_⟩
  · rw [List.map_append, List.map_singleton]
    refine List.nodup_append.mpr ⟨kept.distinct, List.nodup_singleton _, ?_⟩
    intro other known last new same
    obtain ⟨key, among, rfl⟩ := List.mem_map.mp known
    have given : key.1 = id := same.trans (List.mem_singleton.mp new)
    exact fresh (given ▸ kept.known key among)
  · intro key among
    obtain old | new := List.mem_append.mp among
    · exact List.mem_cons_of_mem _ (kept.known key old)
    · rw [List.mem_singleton.mp new]
      exact List.mem_cons_self
  · intro key among
    obtain old | new := List.mem_append.mp among
    · exact kept.tenants key old
    · rw [List.mem_singleton.mp new]
      exact tenant

/-- What every reachable state satisfies. -/
structure TableKept (state : RetryState World Key Rule) : Prop where
  rows : RowsKept state.db.keyColumns state.issued
  delivered : ∀ id ∈ state.delivered, id ∈ state.issued
  counts : ∀ count ∈ state.counts, count.2 ∈ state.issued
  phases : ∀ caller, PhaseOwned state (state.phases caller)

/-- What no step takes away. -/
structure Grows (before after : RetryState World Key Rule) : Prop where
  issued : ∀ id ∈ before.issued, id ∈ after.issued
  every : ∀ id ∈ before.issued, ∀ property, Stable property →
    before.db.Every id property → after.db.Every id property

theorem Grows.owned {before after : RetryState World Key Rule} (grows : Grows before after)
    {id tenantID : String} (owned : before.Owned id tenantID) : after.Owned id tenantID :=
  ⟨grows.issued id owned.1, grows.every id owned.1 _ (stable_tenant tenantID) owned.2⟩

theorem PhaseOwned.grow {before after : RetryState World Key Rule} {phase : RetryPhase}
    (owned : PhaseOwned before phase) (grows : Grows before after) : PhaseOwned after phase where
  distinct := owned.distinct
  listed entry among := ⟨(owned.listed entry among).1, grows.owned (owned.listed entry among).2⟩
  reaping := owned.reaping
  ahead call found := grows.owned (owned.ahead call found)
  succeeded call found := grows.owned (owned.succeeded call found)

/-! ### Operations on the table -/

section Operations

variable {db : DlqState World Key Rule}

theorem keyColumns_updateRow (tenantID id : String) {change : DLQRow → DLQRow}
    (same : ∀ row, (change row).id = row.id ∧ (change row).entry.tenantID = row.entry.tenantID) :
    (db.updateRow tenantID id change).keyColumns = db.keyColumns := by
  unfold DlqState.keyColumns DlqState.updateRow
  rw [List.map_map]
  refine List.map_congr_left fun held _ => ?_
  show ((if _ then _ else _ : HeldRow).row.id, (if _ then _ else _ : HeldRow).row.entry.tenantID) = _
  split
  · rw [(same held.row).1, (same held.row).2]
  · rfl

theorem keyColumns_incrementRetry (tenantID id : String) :
    (db.incrementRetry tenantID id).keyColumns = db.keyColumns :=
  keyColumns_updateRow tenantID id fun _ => ⟨rfl, rfl⟩

theorem keyColumns_scheduleRetry (tenantID id : String) (next : Option Int) :
    (db.scheduleRetry tenantID id next).keyColumns = db.keyColumns :=
  keyColumns_updateRow tenantID id fun _ => ⟨rfl, rfl⟩

theorem keyColumns_writeStore (change : Write) :
    (db.writeStore change).keyColumns = db.keyColumns := by
  unfold DlqState.keyColumns DlqState.writeStore
  rw [List.map_map]
  refine List.map_congr_left fun held _ => ?_
  show ((db.unlink _ held.row).id, (db.unlink _ held.row).entry.tenantID) = _
  unfold DlqState.unlink
  split
  · rfl
  · rfl

theorem keyColumns_filter (keep : HeldRow → Bool) :
    ({ db with rows := db.rows.filter keep } : DlqState World Key Rule).keyColumns.Sublist
      db.keyColumns :=
  List.filter_sublist.map _

theorem applyRedaction_columns (service : DlqService World Document Key Rule)
    (keys : Option (KeyRing Key)) (rules : List Rule) (nonce : Option Bytes) (row : DLQRow) :
    (service.applyRedaction keys rules nonce row).id = row.id ∧
      (service.applyRedaction keys rules nonce row).entry.tenantID = row.entry.tenantID ∧
      (service.applyRedaction keys rules nonce row).retryCount = row.retryCount := by
  unfold DlqService.applyRedaction
  split
  · exact ⟨rfl, rfl, rfl⟩
  · split
    · split
      · exact ⟨rfl, rfl, rfl⟩
      · exact ⟨rfl, rfl, rfl⟩
    · exact ⟨rfl, rfl, rfl⟩

theorem pushedRow_columns (service : DlqService World Document Key Rule) (entry : DLQEntry)
    (answers : PushAnswers) :
    (service.pushedRow db entry answers).id = answers.id ∧
      (service.pushedRow db entry answers).entry.tenantID ≠ "" ∧
      (service.pushedRow db entry answers).retryCount = 0 := by
  have tenant : (if entry.tenantID = "" then defaultTenantID else entry.tenantID) ≠ "" := by
    by_cases empty : entry.tenantID = ""
    · rw [if_pos empty]
      decide
    · rw [if_neg empty]
      exact empty
  unfold DlqService.pushedRow
  dsimp only
  generalize (if entry.tenantID = "" then defaultTenantID else entry.tenantID) = tenantID at tenant ⊢
  split
  · exact ⟨rfl, tenant, rfl⟩
  · obtain ⟨id, owner, count⟩ := applyRedaction_columns service db.keys
      (db.rules entry.pipelineID) answers.nonce
      { id := answers.id, entry := { entry with tenantID }
        nextRetryAt := service.firstRetryAt db entry answers }
    rw [id, owner, count]
    exact ⟨rfl, tenant, rfl⟩

theorem push_rows (service : DlqService World Document Key Rule) (entry : DLQEntry)
    (answers : PushAnswers) :
    (service.push db entry answers).rows = db.rows ∨
      ∃ held : HeldRow, held.row.id = answers.id ∧ held.row.entry.tenantID ≠ "" ∧
        held.row.retryCount = 0 ∧ (service.push db entry answers).rows = db.rows ++ [held] := by
  unfold DlqService.push
  split
  · exact Or.inl rfl
  · obtain ⟨id, tenant, count⟩ := @pushedRow_columns World Document Key Rule db service entry answers
    exact Or.inr ⟨_, id, tenant, count, rfl⟩

theorem every_push {service : DlqService World Document Key Rule} {entry : DLQEntry}
    {answers : PushAnswers} {id : String} {property : DLQRow → Prop} (other : answers.id ≠ id)
    (every : db.Every id property) : (service.push db entry answers).Every id property := by
  intro held among named
  obtain same | ⟨pushed, given, -, -, added⟩ :=
    @push_rows World Document Key Rule db service entry answers
  · exact every held (same ▸ among) named
  · rw [added] at among
    obtain stored | new := List.mem_append.mp among
    · exact every held stored named
    · rw [List.mem_singleton.mp new] at named
      exact absurd (given.symm.trans named) other

end Operations

/-! ### One step -/

section Step

variable {service : DlqService World Document Key Rule} {state after : RetryState World Key Rule}

theorem Grows.of_same (issued : after.issued = state.issued) (db : after.db = state.db) :
    Grows state after := by
  refine ⟨fun id among => issued ▸ among, fun id _ property _ every => ?_⟩
  rw [db]
  exact every

theorem countCall_grows (caller : Nat) (call : RetryCall) (written : Bool) :
    Grows state (DlqService.countCall state caller call written) := by
  cases written with
  | false => exact .of_same rfl rfl
  | true =>
    exact ⟨fun _ among => among, fun _ _ _ stable every =>
      DlqState.every_incrementRetry stable.counts every⟩

theorem delete_grows (tenantID id : String) :
    Grows state { state with db := state.db.delete tenantID id } :=
  ⟨fun _ among => among, fun _ _ _ _ every => DlqState.every_delete every⟩

theorem schedule_grows (tenantID id : String) (next : Option Int) :
    Grows state { state with db := state.db.scheduleRetry tenantID id next } :=
  ⟨fun _ among => among, fun _ _ _ stable every =>
    DlqState.every_scheduleRetry (fun row => stable.schedules row next) every⟩

theorem move_grows {caller : Nat} {phase next : RetryPhase} {action : RetryAction}
    (move : service.RetryMove state caller phase action next after) : Grows state after := by
  cases move with
  | increment written => exact countCall_grows caller _ written
  | closeBulk now jitter written =>
    split
    · exact delete_grows _ _
    · exact .of_same rfl rfl
  | closeReaper now jitter written =>
    split
    · exact schedule_grows _ _ _
    · exact .of_same rfl rfl
  | _ => exact .of_same rfl rfl

/-- Steps outside the callers: they record nothing, and of a row they change only its pipeline. -/
structure Outside (before after : RetryState World Key Rule) : Prop where
  issued : ∀ id ∈ before.issued, id ∈ after.issued
  every : ∀ id ∈ before.issued, ∀ property : DLQRow → Prop,
    (∀ row, property row → property { row with entry := { row.entry with pipelineID := "" } }) →
      before.db.Every id property → after.db.Every id property
  rows : RowsKept before.db.keyColumns before.issued → RowsKept after.db.keyColumns after.issued
  added : ∀ held ∈ after.db.rows, held.row.id ∈ before.db.keyColumns.map Prod.fst ∨
    held.row.id ∉ before.issued ∧ held.row.retryCount = 0
  phases : after.phases = before.phases
  delivered : after.delivered = before.delivered
  counts : after.counts = before.counts
  sends : after.sends = before.sends
  attempts : after.attempts = before.attempts

theorem Outside.grows (outside : Outside state after) : Grows state after :=
  ⟨outside.issued, fun id issued property stable every =>
    outside.every id issued property stable.unlinks every⟩

theorem Outside.of_db {db : DlqState World Key Rule}
    (every : ∀ id, ∀ property : DLQRow → Prop,
      (∀ row, property row → property { row with entry := { row.entry with pipelineID := "" } }) →
        state.db.Every id property → db.Every id property)
    (fewer : db.keyColumns.Sublist state.db.keyColumns) : Outside state { state with db } where
  issued _ among := among
  every id _ := every id
  rows kept := kept.sublist fewer
  added held among := by
    have key : (held.row.id, held.row.entry.tenantID) ∈ db.keyColumns :=
      List.mem_map.mpr ⟨held, among, rfl⟩
    exact Or.inl (List.mem_map.mpr ⟨_, fewer.subset key, rfl⟩)
  phases := rfl
  delivered := rfl
  counts := rfl
  sends := rfl
  attempts := rfl

theorem push_outside (entry : DLQEntry) (answers : PushAnswers) (fresh : answers.id ∉ state.issued) :
    Outside state { state with db := service.push state.db entry answers
                               issued := answers.id :: state.issued } where
  issued _ among := List.mem_cons_of_mem _ among
  every id issued property _ every := every_push (fun same => fresh (same ▸ issued)) every
  rows kept := by
    obtain same | ⟨pushed, given, tenant, -, added⟩ :=
      @push_rows World Document Key Rule state.db service entry answers
    · have keys : (service.push state.db entry answers).keyColumns = state.db.keyColumns :=
        congrArg (List.map _) same
      rw [keys]
      exact ⟨kept.distinct, fun key among => List.mem_cons_of_mem _ (kept.known key among),
        kept.tenants⟩
    · have keys : (service.push state.db entry answers).keyColumns =
          state.db.keyColumns ++ [(answers.id, pushed.row.entry.tenantID)] := by
        unfold DlqState.keyColumns
        rw [added, List.map_append, List.map_singleton, given]
      rw [keys]
      exact kept.concat fresh tenant
  added held among := by
    have old : held ∈ state.db.rows → held.row.id ∈ state.db.keyColumns.map Prod.fst :=
      fun stored => List.mem_map.mpr ⟨_, List.mem_map.mpr ⟨held, stored, rfl⟩, rfl⟩
    obtain same | ⟨pushed, given, -, count, added⟩ :=
      @push_rows World Document Key Rule state.db service entry answers
    · exact Or.inl (old (same ▸ among))
    · rw [show (_ : DlqState World Key Rule).rows = _ from added] at among
      obtain stored | new := List.mem_append.mp among
      · exact Or.inl (old stored)
      · rw [List.mem_singleton.mp new]
        exact Or.inr ⟨given ▸ fresh, count⟩
  phases := rfl
  delivered := rfl
  counts := rfl
  sends := rfl
  attempts := rfl

theorem outside_of_step {label : RetryLabel Key Rule}
    (notAct : ∀ caller action, label ≠ .act caller action)
    (fired : service.retryStep state label = some after) : Outside state after := by
  cases label with
  | push entry answers =>
    simp only [DlqService.retryStep] at fired
    split at fired
    · cases fired
    · rename_i fresh
      cases fired
      exact push_outside entry answers fresh
  | delete tenantID id =>
    cases fired
    exact .of_db (fun _ _ _ every => DlqState.every_delete every) (keyColumns_filter _)
  | purge keep =>
    cases fired
    exact .of_db (fun _ _ _ every => DlqState.every_filter every) (keyColumns_filter _)
  | write change =>
    cases fired
    refine .of_db (fun _ _ unlinks every => DlqState.every_writeStore change unlinks every) ?_
    rw [keyColumns_writeStore]
  | setRules pipelineID rules =>
    cases fired
    exact .of_db (fun _ _ _ every => every) (List.Sublist.refl _)
  | addKey version key =>
    cases fired
    exact .of_db (fun _ _ _ every => every) (List.Sublist.refl _)
  | act caller action => exact absurd rfl (notAct caller action)

theorem move_keyColumns {caller : Nat} {phase next : RetryPhase} {action : RetryAction}
    (move : service.RetryMove state caller phase action next after) :
    after.issued = state.issued ∧ after.db.keyColumns.Sublist state.db.keyColumns := by
  cases move with
  | increment written =>
    cases written with
    | false => exact ⟨rfl, List.Sublist.refl _⟩
    | true =>
      refine ⟨rfl, ?_⟩
      show (state.db.incrementRetry _ _).keyColumns.Sublist _
      rw [keyColumns_incrementRetry]
  | closeBulk now jitter written =>
    split
    · exact ⟨rfl, keyColumns_filter _⟩
    · exact ⟨rfl, List.Sublist.refl _⟩
  | closeReaper now jitter written =>
    split
    · refine ⟨rfl, ?_⟩
      show (state.db.scheduleRetry _ _ _).keyColumns.Sublist _
      rw [keyColumns_scheduleRetry]
    · exact ⟨rfl, List.Sublist.refl _⟩
  | _ => exact ⟨rfl, List.Sublist.refl _⟩

theorem TableKept.owned (kept : TableKept state) {held : HeldRow} (stored : held ∈ state.db.rows) :
    held.row.entry.tenantID ≠ "" ∧ state.Owned held.row.id held.row.entry.tenantID := by
  have among : (held.row.id, held.row.entry.tenantID) ∈ state.db.keyColumns :=
    List.mem_map.mpr ⟨held, stored, rfl⟩
  refine ⟨kept.rows.tenants _ among, kept.rows.known _ among, ?_⟩
  intro other otherStored named
  have otherAmong : (other.row.id, other.row.entry.tenantID) ∈ state.db.keyColumns :=
    List.mem_map.mpr ⟨other, otherStored, rfl⟩
  have same := List.inj_on_of_nodup_map kept.rows.distinct otherAmong among named
  exact (Prod.mk.inj same).2

theorem PhaseOwned.same {phase next : RetryPhase} (owned : PhaseOwned state phase)
    (batch : next.batch = phase.batch) (calls : next.call = phase.call)
    (ahead : next.ahead = phase.ahead ∨ next.ahead = none)
    (succeeded : next.succeeded = phase.ahead ∨ next.succeeded = none) : PhaseOwned state next := by
  refine ⟨batch ▸ owned.distinct, batch ▸ owned.listed, calls ▸ owned.reaping, ?_, ?_⟩
  · intro call found
    obtain same | none := ahead
    · exact owned.ahead call (same ▸ found)
    · exact absurd (none.symm.trans found).symm (Option.some_ne_none _)
  · intro call found
    obtain same | none := succeeded
    · exact owned.ahead call (same ▸ found)
    · exact absurd (none.symm.trans found).symm (Option.some_ne_none _)

theorem PhaseOwned.between {phase : RetryPhase} (outside : phase.call = none)
    (distinct : (phase.batch.map DLQRow.id).Nodup)
    (listed : ∀ entry ∈ phase.batch, entry.entry.tenantID ≠ "" ∧
      state.Owned entry.id entry.entry.tenantID) : PhaseOwned state phase := by
  refine ⟨distinct, listed, ?_, ?_, ?_⟩
  · intro call entry rest found
    rw [outside] at found
    cases found
  · intro call found
    cases phase with
    | loaded | counting | counted | sending => cases outside
    | _ => cases found
  · intro call found
    cases phase with
    | returned => cases outside
    | _ => cases found

theorem PhaseOwned.called {call : RetryCall} (loop : call.loop.isReaper = false) :
    PhaseOwned state (.calling call) := by
  have batch : (RetryPhase.calling call).batch = [] := by
    obtain ⟨loop', tenantID, id⟩ := call
    cases loop' with
    | reaper entry rest => cases loop
    | _ => rfl
  refine ⟨?_, ?_, ?_, ?_, ?_⟩
  · rw [batch]
    exact List.nodup_nil
  · rw [batch]
    exact fun entry among => absurd among List.not_mem_nil
  · intro other entry rest found reaping
    cases found
    rw [reaping] at loop
    cases loop
  · exact fun other found => absurd found.symm (Option.some_ne_none _)
  · exact fun other found => absurd found.symm (Option.some_ne_none _)

theorem move_owned (kept : TableKept state) {caller : Nat} {phase next : RetryPhase}
    {action : RetryAction} (move : service.RetryMove state caller phase action next after)
    (owned : PhaseOwned state phase) : PhaseOwned state next := by
  cases move with
  | retry | walk => exact .called rfl
  | bulk | leave | closeHandler | closeBulk =>
    exact .between rfl List.nodup_nil fun entry among => absurd among List.not_mem_nil
  | reap now limit =>
    refine .between rfl (DlqState.nodup_listDue ?_) fun entry listed => ?_
    · have columns : (state.db.keyColumns.map Prod.fst) = state.db.rows.map fun held => held.row.id :=
        List.map_map
      exact columns ▸ kept.rows.distinct
    · obtain ⟨⟨held, stored, rfl⟩, -⟩ := DlqState.mem_listDue listed
      exact kept.owned stored
  | attempt entry rest =>
    have tenant : DlqService.reapTenant entry = entry.entry.tenantID :=
      if_neg (owned.listed entry List.mem_cons_self).1
    refine ⟨owned.distinct, owned.listed, ?_, ?_, ?_⟩
    · intro call other others found reaping
      cases found
      cases reaping
      exact ⟨rfl, tenant⟩
    · exact fun other found => absurd found.symm (Option.some_ne_none _)
    · exact fun other found => absurd found.symm (Option.some_ne_none _)
  | @load call held found below linked =>
    obtain ⟨stored, id, tenantID⟩ := DlqState.get_eq_some found
    have ours := (kept.owned stored).2
    rw [id, tenantID] at ours
    refine ⟨owned.distinct, owned.listed, owned.reaping, ?_, ?_⟩
    · intro other same
      cases same
      exact ours
    · exact fun other found => absurd found.symm (Option.some_ne_none _)
  | @closeReaper tenantID id entry rest result now jitter written =>
    refine .between rfl (List.nodup_cons.mp owned.distinct).2 fun other among => ?_
    exact owned.listed other (List.mem_cons_of_mem entry among)
  | refuse | loadFails | pipelineRefuses | pipelineFails | connectFails =>
    exact owned.same rfl rfl (Or.inr rfl) (Or.inr rfl)
  | pipeline | increment | connect => exact owned.same rfl rfl (Or.inl rfl) (Or.inr rfl)
  | send sent =>
    cases sent with
    | true => exact owned.same rfl rfl (Or.inr rfl) (Or.inl rfl)
    | false => exact owned.same rfl rfl (Or.inr rfl) (Or.inr rfl)

theorem move_records {caller : Nat} {phase next : RetryPhase} {action : RetryAction}
    (move : service.RetryMove state caller phase action next after) :
    (∀ id ∈ after.delivered, id ∈ state.delivered ∨
      ∃ call, phase.ahead = some call ∧ call.id = id) ∧
    (∀ count ∈ after.counts, count ∈ state.counts ∨
      ∃ call, phase.ahead = some call ∧ call.id = count.2) := by
  cases move with
  | @increment call held pipeline written =>
    unfold DlqService.countCall
    split
    · refine ⟨fun _ => Or.inl, fun count among => ?_⟩
      dsimp only at among
      split at among
      · obtain rfl | old := List.mem_cons.mp among
        · exact Or.inr ⟨call, rfl, rfl⟩
        · exact Or.inl old
      · exact Or.inl among
    · exact ⟨fun _ => Or.inl, fun _ => Or.inl⟩
  | @send call payload config sent =>
    refine ⟨fun id among => ?_, fun _ => Or.inl⟩
    unfold DlqService.sendCall at among
    dsimp only at among
    split at among
    · obtain rfl | old := List.mem_cons.mp among
      · exact Or.inr ⟨call, rfl, rfl⟩
      · exact Or.inl old
    · exact Or.inl among
  | closeBulk now jitter written =>
    split
    · exact ⟨fun _ => Or.inl, fun _ => Or.inl⟩
    · exact ⟨fun _ => Or.inl, fun _ => Or.inl⟩
  | closeReaper now jitter written =>
    split
    · exact ⟨fun _ => Or.inl, fun _ => Or.inl⟩
    · exact ⟨fun _ => Or.inl, fun _ => Or.inl⟩
  | _ => exact ⟨fun _ => Or.inl, fun _ => Or.inl⟩

theorem step_tableKept {label : RetryLabel Key Rule} (kept : TableKept state)
    (fired : service.retryStep state label = some after) : TableKept after ∧ Grows state after := by
  by_cases inside : ∃ caller action, label = .act caller action
  · obtain ⟨caller, action, rfl⟩ := inside
    obtain ⟨moved, acted, rfl⟩ := Option.map_eq_some_iff.mp fired
    have move := DlqService.move_of_act acted
    have owned := move_owned kept move (kept.phases caller)
    obtain ⟨issued, fewer⟩ := move_keyColumns move
    have grows := move_grows move
    have own : ∀ call, (state.phases caller).ahead = some call → call.id ∈ moved.2.issued :=
      fun call found => issued ▸ ((kept.phases caller).ahead call found).1
    refine ⟨⟨?_, ?_, ?_, ?_⟩, ⟨grows.issued, grows.every⟩⟩
    · exact issued ▸ kept.rows.sublist fewer
    · intro id among
      obtain old | ⟨call, found, rfl⟩ := (move_records move).1 id among
      · exact issued ▸ kept.delivered id old
      · exact own call found
    · intro count among
      obtain old | ⟨call, found, same⟩ := (move_records move).2 count among
      · exact issued ▸ kept.counts count old
      · exact same ▸ own call found
    · intro other
      show PhaseOwned _ (Function.update state.phases caller moved.1 other)
      by_cases same : other = caller
      · rw [same, Function.update_self]
        exact owned.grow ⟨grows.issued, grows.every⟩
      · rw [Function.update_of_ne same]
        exact (kept.phases other).grow ⟨grows.issued, grows.every⟩
  · have outside := outside_of_step (fun caller action same => inside ⟨caller, action, same⟩) fired
    refine ⟨⟨outside.rows kept.rows, ?_, ?_, ?_⟩, outside.grows⟩
    · rw [outside.delivered]
      exact fun id among => outside.issued id (kept.delivered id among)
    · rw [outside.counts]
      exact fun count among => outside.issued _ (kept.counts count among)
    · rw [outside.phases]
      exact fun caller => (kept.phases caller).grow outside.grows

end Step

def RetryState.initial (store : Store) (rules : String → List Rule) (keys : Option (KeyRing Key)) :
    RetryState World Key Rule where
  db := { store := store, rules := rules, keys := keys }

theorem initial_tableKept (store : Store) (rules : String → List Rule) (keys : Option (KeyRing Key)) :
    TableKept (RetryState.initial store rules keys : RetryState World Key Rule) where
  rows := ⟨List.nodup_nil, fun _ among => absurd among List.not_mem_nil,
    fun _ among => absurd among List.not_mem_nil⟩
  delivered _ among := absurd among List.not_mem_nil
  counts _ among := absurd among List.not_mem_nil
  phases _ := .between rfl List.nodup_nil fun _ among => absurd among List.not_mem_nil

/-! ### One caller alone -/

/-- The step is not one of another caller. -/
def OnlyCaller (caller : Nat) : RetryLabel Key Rule → Prop
  | .act other _ => other = caller
  | _ => True

theorem idle_of_onlyCaller {service : DlqService World Document Key Rule} {caller : Nat}
    {allowed : RetryState World Key Rule → RetryLabel Key Rule → Prop}
    (only : ∀ state label, allowed state label → OnlyCaller caller label) {store : Store}
    {rules : String → List Rule} {keys : Option (KeyRing Key)} {state : RetryState World Key Rule}
    (reached : Runs.Reaches service.retryStep allowed (RetryState.initial store rules keys) state) :
    ∀ other, other ≠ caller → state.phases other = .idle := by
  refine reached.invariant (fun state => ∀ other, other ≠ caller → state.phases other = .idle)
    (fun _ _ => rfl) ?_
  intro before label after idle permitted fired other different
  by_cases inside : ∃ mover action, label = .act mover action
  · obtain ⟨mover, action, rfl⟩ := inside
    obtain ⟨moved, -, rfl⟩ := Option.map_eq_some_iff.mp fired
    have same : mover = caller := only before _ permitted
    show Function.update before.phases mover moved.1 other = .idle
    rw [same, Function.update_of_ne different]
    exact idle other different
  · have outside := outside_of_step (fun mover action same => inside ⟨mover, action, same⟩) fired
    rw [outside.phases]
    exact idle other different

instance (db : DlqState World Key Rule) (id : String) (property : DLQRow → Prop)
    [DecidablePred property] : Decidable (db.Every id property) :=
  inferInstanceAs (Decidable (∀ held ∈ db.rows, held.row.id = id → property held.row))

end MqConnector
