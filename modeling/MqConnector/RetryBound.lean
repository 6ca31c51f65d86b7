/-
This file bounds the automatic retries of a row: every attempt of the reaper should
take the row off the schedule or raise its count.

`Retry` counts an attempt only after it has read the row and its pipeline. When the
row has lost its pipeline, or the pipeline cannot be read, the attempt fails before
it is counted and `attemptOne` schedules the next one, for ever.
-/

import MqConnector.RetryOnce

namespace MqConnector

variable {World Document Key Rule : Type}

/-! ### The condition -/

/-- The attempts of the reaper at a row while it was on the schedule. -/
def RetryState.attemptsAt (state : RetryState World Key Rule) (id : String) : Nat :=
  state.attempts.countP fun mark => mark.id == id && mark.scheduled

/-- A reaper is in a call for the row. -/
def RetryPhase.Attempts (phase : RetryPhase) (id : String) : Prop :=
  ∃ call ∈ phase.call, call.loop.isReaper = true ∧ call.id = id

def Gone (state : RetryState World Key Rule) (id : String) : Prop :=
  state.db.Every id fun _ => False

/-- What an attempt of the reaper needs. No other reaper is at the row when it begins; the row can
be read and, below the cap, has a pipeline, which can be read; the count and the schedule are
written. -/
def Attemptable (service : DlqService World Document Key Rule) (state : RetryState World Key Rule)
    (caller : Nat) : RetryPhase → RetryAction → Prop
  | .sweeping (entry :: _), .next =>
    ∀ other, other ≠ caller → ¬ (state.phases other).Attempts entry.id
  | .calling call, .get read => read = true ∧
    ∀ held, state.db.get call.tenantID call.id = some held →
      held.row.retryCount < service.maxRetries → held.row.entry.pipelineID ≠ ""
  | .loaded call held, .getPipeline read => Gone state call.id ∨ read = true ∧
    ∃ pipeline ∈ state.db.store.pipelines,
      pipeline.id = held.row.entry.pipelineID ∧ pipeline.tenantID = call.tenantID
  | .counting _ _ _, .increment written => written = true
  | .returned _ _, .close _ _ written => written = true
  | _, _ => True

/-- Every attempt of the reaper has what it needs. -/
def AttemptsMet (service : DlqService World Document Key Rule) (state : RetryState World Key Rule) :
    RetryLabel Key Rule → Prop
  | .act caller action => (∀ call ∈ (state.phases caller).call, call.loop.isReaper = true) →
      Attemptable service state caller (state.phases caller) action
  | _ => True

/-! ### Levels -/

/-- How far a row is from the end of its attempts. -/
inductive Level
  | low
  | raised
  | loaded (count : Nat)
  | reached
  | off
  | gone
  deriving DecidableEq

/-- What a level says of the row. -/
def Level.Holds (service : DlqService World Document Key Rule) (state : RetryState World Key Rule)
    (id : String) : Level → Prop
  | .low => state.attemptsAt id ≤ service.maxRetries ∧
      state.db.Every id fun row => state.attemptsAt id ≤ row.retryCount
  | .raised => state.attemptsAt id ≤ service.maxRetries + 1 ∧
      state.db.Every id fun row => state.attemptsAt id - 1 ≤ row.retryCount
  | .loaded count => state.attemptsAt id ≤ count + 1 ∧ count < service.maxRetries ∧
      state.db.Every id fun row => count ≤ row.retryCount
  | .reached => state.attemptsAt id ≤ service.maxRetries + 1 ∧ Spent service state id
  | .off => state.attemptsAt id ≤ service.maxRetries + 1 ∧ Spent service state id ∧
      Unscheduled state id
  | .gone => state.attemptsAt id ≤ service.maxRetries + 1 ∧ Gone state id

/-- The levels of a row that a reaper in this phase attempts; outside a call, those of a row that
nobody attempts. -/
def RetryPhase.levels : RetryPhase → List Level
  | .idle | .walking _ _ | .sweeping _ => [.low, .off]
  | .calling _ => [.raised, .off]
  | .loaded _ held | .counting _ held _ => [.loaded held.row.retryCount, .gone]
  | .counted _ _ _ | .sending _ _ _ | .returned _ .succeeded | .returned _ .failed => [.low, .gone]
  | .returned _ .maxRetries => [.reached]

/-- The row is at a level of the phase. -/
def AtLevel (service : DlqService World Document Key Rule) (state : RetryState World Key Rule)
    (id : String) (phase : RetryPhase) : Prop :=
  ∃ level ∈ phase.levels, level.Holds service state id

theorem Level.Holds.bounded {service : DlqService World Document Key Rule}
    {state : RetryState World Key Rule} {id : String} {level : Level}
    (holds : level.Holds service state id) :
    state.attemptsAt id ≤ service.maxRetries + 1 := by
  cases level with
  | low => exact Nat.le_succ_of_le holds.1
  | loaded count => exact Nat.le_succ_of_le (holds.1.trans holds.2.1)
  | raised | reached | off | gone => exact holds.1

theorem Level.Holds.keep {service : DlqService World Document Key Rule}
    {before after : RetryState World Key Rule} {id : String} {level : Level}
    (holds : level.Holds service before id) (same : after.attemptsAt id = before.attemptsAt id)
    (every : ∀ property, Stable property → before.db.Every id property → after.db.Every id property)
    (unscheduled : Unscheduled before id → Unscheduled after id) : level.Holds service after id := by
  cases level with
  | low => exact ⟨same ▸ holds.1, same ▸ every _ (stable_count _) holds.2⟩
  | raised => exact ⟨same ▸ holds.1, same ▸ every _ (stable_count _) holds.2⟩
  | loaded count => exact ⟨same ▸ holds.1, holds.2.1, every _ (stable_count _) holds.2.2⟩
  | reached => exact ⟨same ▸ holds.1, every _ (stable_count _) holds.2⟩
  | off => exact ⟨same ▸ holds.1, every _ (stable_count _) holds.2.1, unscheduled holds.2.2⟩
  | gone =>
    exact ⟨same ▸ holds.1, every _ ⟨fun _ no => no, fun _ _ no => no, fun _ no => no⟩ holds.2⟩

/-! ### The reaper that attempts the row -/

section Moves

variable {service : DlqService World Document Key Rule} {state after : RetryState World Key Rule}
  {caller : Nat} {phase next : RetryPhase} {action : RetryAction} {id : String}

theorem TableKept.unique (kept : TableKept state) {first second : HeldRow}
    (firstStored : first ∈ state.db.rows) (secondStored : second ∈ state.db.rows)
    (same : first.row.id = second.row.id) : first = second := by
  have columns : state.db.keyColumns.map Prod.fst = state.db.rows.map fun held => held.row.id :=
    List.map_map
  exact List.inj_on_of_nodup_map (columns ▸ kept.rows.distinct) firstStored secondStored same

theorem TableKept.every_of_get (kept : TableKept state) {tenantID : String} {held : HeldRow}
    {property : DLQRow → Prop} (found : state.db.get tenantID id = some held)
    (holds : property held.row) : state.db.Every id property := by
  obtain ⟨stored, named, -⟩ := DlqState.get_eq_some found
  intro other otherStored otherNamed
  rw [kept.unique otherStored stored (otherNamed.trans named.symm)]
  exact holds

theorem PhaseOwned.reaperOwned (owned : PhaseOwned state phase) {call : RetryCall}
    (calling : phase.call = some call) (reaper : call.loop.isReaper = true) :
    call.tenantID ≠ "" ∧ state.Owned call.id call.tenantID := by
  obtain ⟨entry, among, named, tenant⟩ := owned.entry calling reaper
  rw [← named, ← tenant]
  exact owned.listed entry among

theorem gone_of_get_none {tenantID : String} (tenant : tenantID ≠ "")
    (owned : state.Owned id tenantID) (missing : state.db.get tenantID id = none) : Gone state id := by
  intro held stored named
  unfold DlqState.get at missing
  rw [if_neg tenant] at missing
  exact List.find?_eq_none.mp missing held stored
    (decide_eq_true ⟨named, owned.2 held stored named⟩)

theorem gone_atLevel (bounded : state.attemptsAt id ≤ service.maxRetries + 1) (gone : Gone state id)
    {level : Level} (fits : level = .gone ∨ level = .off ∨ level = .reached) :
    level.Holds service state id := by
  have every : ∀ property, state.db.Every id property :=
    fun property held stored named => (gone held stored named).elim
  obtain rfl | rfl | rfl := fits
  · exact ⟨bounded, gone⟩
  · exact ⟨bounded, every _, every _⟩
  · exact ⟨bounded, every _⟩

theorem AtLevel.bounded (level : AtLevel service state id phase) :
    state.attemptsAt id ≤ service.maxRetries + 1 := by
  obtain ⟨level, -, holds⟩ := level
  exact holds.bounded

theorem load_atLevel {call : RetryCall} {held : HeldRow} (table : TableKept state)
    (found : state.db.get call.tenantID call.id = some held)
    (below : held.row.retryCount < service.maxRetries)
    (level : AtLevel service state call.id (.calling call)) :
    AtLevel service state call.id (.loaded call held) := by
  obtain ⟨stored, named, -⟩ := DlqState.get_eq_some found
  refine ⟨.loaded held.row.retryCount, List.mem_cons_self, ?_⟩
  obtain ⟨level, among, holds⟩ := level
  obtain rfl | rfl : level = .raised ∨ level = .off := by
    simpa [RetryPhase.levels] using among
  · refine ⟨?_, below, table.every_of_get found (Nat.le_refl _)⟩
    have counted := holds.2 held stored named
    omega
  · exact absurd (holds.2.1 held stored named) (Nat.not_le_of_lt below)

theorem increment_atLevel {call : RetryCall} {held : HeldRow} {pipeline : Pipeline}
    (owned : state.Owned call.id call.tenantID)
    (level : AtLevel service state call.id (.counting call held pipeline)) :
    AtLevel service (DlqService.countCall state caller call true) call.id
      (.counted call held pipeline) := by
  obtain ⟨level, among, holds⟩ := level
  obtain rfl | rfl : level = .loaded held.row.retryCount ∨ level = .gone := by
    simpa [RetryPhase.levels] using among
  · refine ⟨.low, List.mem_cons_self, holds.1.trans holds.2.1, ?_⟩
    refine DlqState.every_incrementRetry_owned owned.2 holds.2.2 fun row read => ?_
    exact holds.1.trans (Nat.succ_le_succ read)
  · refine ⟨.gone, List.mem_cons_of_mem _ List.mem_cons_self, holds.1, ?_⟩
    exact DlqState.every_incrementRetry (fun _ no => no) holds.2

theorem close_atLevel {entry : DLQRow} {rest : List DLQRow} {tenantID : String}
    {result : RetryResult} {now jitter : Int} (owned : state.Owned id tenantID)
    (level : AtLevel service state id (.returned ⟨.reaper entry rest, tenantID, id⟩ result)) :
    AtLevel service
      { state with
        db := state.db.scheduleRetry tenantID id
          (DlqService.rescheduled state.db entry now jitter result) } id (.sweeping rest) := by
  have keeps : ∀ property, Stable property → state.db.Every id property →
      (state.db.scheduleRetry tenantID id
        (DlqService.rescheduled state.db entry now jitter result)).Every id property :=
    fun property stable every =>
      DlqState.every_scheduleRetry (fun row => stable.schedules row _) every
  obtain ⟨level, among, holds⟩ := level
  by_cases reached : result = .maxRetries
  · subst reached
    cases List.mem_singleton.mp among
    refine ⟨.off, List.mem_cons_of_mem _ List.mem_cons_self, holds.1,
      keeps _ (stable_count _) holds.2, ?_⟩
    exact DlqState.every_scheduleRetry_owned owned.2 owned.2 fun _ _ => rfl
  · have lists : (RetryPhase.returned ⟨.reaper entry rest, tenantID, id⟩ result).levels =
        [.low, .gone] := by
      cases result with
      | maxRetries => exact absurd rfl reached
      | _ => rfl
    rw [lists] at among
    obtain rfl | last := List.mem_cons.mp among
    · exact ⟨.low, List.mem_cons_self, holds.1, keeps _ (stable_count _) holds.2⟩
    · cases List.mem_singleton.mp last
      refine ⟨.off, List.mem_cons_of_mem _ List.mem_cons_self, ?_⟩
      refine gone_atLevel ?_ ?_ (Or.inr (Or.inl rfl))
      · exact holds.1
      · exact DlqState.every_scheduleRetry (fun _ no => no) holds.2

theorem begun_atLevel {call : RetryCall} (level : AtLevel service state id .idle) :
    AtLevel service { state with attempts := ⟨id, state.db.scheduled id⟩ :: state.attempts } id
      (.calling call) := by
  obtain ⟨level, among, holds⟩ := level
  have same : ∀ off : state.db.scheduled id = false,
      ({ state with attempts := ⟨id, state.db.scheduled id⟩ :: state.attempts } :
        RetryState World Key Rule).attemptsAt id = state.attemptsAt id := by
    intro off
    refine List.countP_cons_of_neg ?_
    rw [off, Bool.and_false]
    exact Bool.false_ne_true
  have more : ∀ on : state.db.scheduled id = true,
      ({ state with attempts := ⟨id, state.db.scheduled id⟩ :: state.attempts } :
        RetryState World Key Rule).attemptsAt id = state.attemptsAt id + 1 := by
    intro on
    refine List.countP_cons_of_pos ?_
    rw [on, Bool.and_true]
    exact beq_self_eq_true id
  obtain rfl | last := List.mem_cons.mp among
  · refine ⟨.raised, List.mem_cons_self, ?_, ?_⟩
    · cases scheduled : state.db.scheduled id with
      | true =>
        rw [← scheduled, more scheduled]
        exact Nat.succ_le_succ holds.1
      | false =>
        rw [← scheduled, same scheduled]
        exact Nat.le_succ_of_le holds.1
    · intro held stored named
      have counted := holds.2 held stored named
      cases scheduled : state.db.scheduled id with
      | true =>
        rw [← scheduled, more scheduled]
        exact counted
      | false =>
        rw [← scheduled, same scheduled]
        exact (Nat.sub_le _ _).trans counted
  · cases List.mem_singleton.mp last
    have off : state.db.scheduled id = false := by
      refine List.any_eq_false.mpr fun held stored test => ?_
      obtain ⟨named, some⟩ := Bool.and_eq_true_iff.mp test
      rw [holds.2.2 held stored (of_decide_eq_true named)] at some
      cases some
    refine ⟨.off, List.mem_cons_of_mem _ List.mem_cons_self, ?_, holds.2⟩
    rw [same off]
    exact holds.1

theorem own_atLevel (table : TableKept state) (owned : PhaseOwned state phase)
    (move : service.RetryMove state caller phase action next after)
    (met : Attemptable service state caller phase action) {call : RetryCall}
    (calling : phase.call = some call) (reaper : call.loop.isReaper = true)
    (level : AtLevel service state call.id phase) : AtLevel service after call.id next := by
  obtain ⟨tenant, ours⟩ := owned.reaperOwned calling reaper
  cases move with
  | leave between =>
    obtain ⟨tenantID, rest, rfl⟩ | ⟨rest, rfl⟩ := between
    · cases calling
    · cases calling
  | load found below linked =>
    cases calling
    exact load_atLevel table found below level
  | refuse found reached =>
    cases calling
    exact ⟨.reached, List.mem_cons_self, level.bounded, table.every_of_get found reached⟩
  | loadFails read missing =>
    cases calling
    obtain ⟨rfl, linked⟩ := met
    refine ⟨.gone, List.mem_cons_of_mem _ List.mem_cons_self, level.bounded, ?_⟩
    refine gone_of_get_none tenant ours (Option.eq_none_iff_forall_ne_some.mpr fun held found => ?_)
    obtain ⟨below, unlinked⟩ := missing rfl held found
    exact linked held found below unlinked
  | pipeline found below =>
    cases calling
    exact level
  | @pipelineRefuses _ held reached =>
    cases calling
    refine ⟨.reached, List.mem_cons_self, ?_⟩
    obtain ⟨level, among, holds⟩ := level
    obtain rfl | last := List.mem_cons.mp among
    · exact absurd reached (Nat.not_le_of_lt holds.2.1)
    · cases List.mem_singleton.mp last
      exact gone_atLevel holds.1 holds.2 (Or.inr (Or.inr rfl))
  | pipelineFails read missing =>
    cases calling
    refine ⟨.gone, List.mem_cons_of_mem _ List.mem_cons_self, level.bounded, ?_⟩
    obtain gone | ⟨rfl, pipeline, among, named, same⟩ := met
    · exact gone
    · exact absurd same (missing rfl pipeline among named)
  | increment written =>
    cases calling
    have wrote : written = true := met
    rw [wrote]
    exact increment_atLevel ours level
  | connect read connected payload config =>
    cases calling
    exact level
  | connectFails read connected =>
    cases calling
    exact level
  | send sent =>
    cases calling
    cases sent with
    | true => exact level
    | false => exact level
  | closeHandler | closeBulk =>
    cases calling
    cases reaper
  | closeReaper now jitter written =>
    cases calling
    have wrote : written = true := met
    rw [if_pos wrote]
    exact close_atLevel ours level
  | _ => cases calling

theorem move_attempts (move : service.RetryMove state caller phase action next after) :
    after.attempts = state.attempts ∧ (∀ id, next.Attempts id → phase.Attempts id) ∨
      ∃ entry rest, phase = .sweeping (entry :: rest) ∧ action = .next ∧
        next = .calling ⟨.reaper entry rest, DlqService.reapTenant entry, entry.id⟩ ∧
        after = { state with attempts :=
          ⟨entry.id, state.db.scheduled entry.id⟩ :: state.attempts } := by
  cases move with
  | attempt entry rest => exact Or.inr ⟨entry, rest, rfl, rfl, rfl, rfl⟩
  | retry | walk =>
    refine Or.inl ⟨rfl, ?_⟩
    rintro id ⟨call, found, reaper, -⟩
    cases found
    cases reaper
  | bulk | reap | leave | closeHandler =>
    refine Or.inl ⟨rfl, ?_⟩
    rintro id ⟨call, found, -⟩
    cases found
  | @increment call held pipeline written =>
    cases written with
    | false => exact Or.inl ⟨rfl, fun _ attempts => attempts⟩
    | true => exact Or.inl ⟨rfl, fun _ attempts => attempts⟩
  | @closeBulk tenantID id rest result now jitter written =>
    have none : ∀ id, ¬ (RetryPhase.walking tenantID rest).Attempts id := by
      rintro id ⟨call, found, -⟩
      cases found
    split
    · exact Or.inl ⟨rfl, fun id attempts => absurd attempts (none id)⟩
    · exact Or.inl ⟨rfl, fun id attempts => absurd attempts (none id)⟩
  | @closeReaper tenantID id entry rest result now jitter written =>
    have none : ∀ id, ¬ (RetryPhase.sweeping rest).Attempts id := by
      rintro id ⟨call, found, -⟩
      cases found
    split
    · exact Or.inl ⟨rfl, fun id attempts => absurd attempts (none id)⟩
    · exact Or.inl ⟨rfl, fun id attempts => absurd attempts (none id)⟩
  | _ => exact Or.inl ⟨rfl, fun _ attempts => attempts⟩

theorem levels_of_between (between : phase.call = none) : phase.levels = RetryPhase.idle.levels := by
  cases phase with
  | idle | walking | sweeping => rfl
  | _ => cases between

theorem move_call (move : service.RetryMove state caller phase action next after) {call : RetryCall}
    (calling : phase.call = some call) : next.call = some call ∨ next.call = none := by
  cases move with
  | leave between => exact Or.inr rfl
  | closeHandler | closeBulk | closeReaper => exact Or.inr rfl
  | retry | bulk | reap | walk | attempt => cases calling
  | _ => exact Or.inl calling

/-- Where one reaper at most attempts the row, and the row is at a level of its phase. -/
structure RowBounded (service : DlqService World Document Key Rule)
    (state : RetryState World Key Rule) (id : String) : Prop where
  alone : ∀ first second, (state.phases first).Attempts id → (state.phases second).Attempts id →
    first = second
  busy : ∀ caller, (state.phases caller).Attempts id →
    AtLevel service state id (state.phases caller)
  resting : (∀ caller, ¬ (state.phases caller).Attempts id) → AtLevel service state id .idle

/-- What the runs that meet the condition keep. -/
structure BoundKept (service : DlqService World Document Key Rule)
    (state : RetryState World Key Rule) : Prop where
  table : TableKept state
  known : ∀ mark ∈ state.attempts, mark.id ∈ state.issued
  rows : ∀ id, RowBounded service state id

theorem RowBounded.bounded (row : RowBounded service state id) :
    state.attemptsAt id ≤ service.maxRetries + 1 := by
  by_cases attempted : ∃ caller, (state.phases caller).Attempts id
  · obtain ⟨caller, attempts⟩ := attempted
    exact (row.busy caller attempts).bounded
  · exact (row.resting fun caller attempts => attempted ⟨caller, attempts⟩).bounded

theorem RowBounded.fresh (none : ∀ caller, ¬ (state.phases caller).Attempts id)
    (zero : state.attemptsAt id = 0) : RowBounded service state id := by
  refine ⟨fun first _ attempts => absurd attempts (none first),
    fun caller attempts => absurd attempts (none caller), fun _ => ⟨.low, List.mem_cons_self, ?_⟩⟩
  refine ⟨zero ▸ Nat.zero_le _, fun held _ _ => ?_⟩
  rw [zero]
  exact Nat.zero_le _

theorem RowBounded.of_others
    (others : ∀ other, other ≠ caller → ¬ (state.phases other).Attempts id)
    (level : AtLevel service after id next)
    (resting : ¬ next.Attempts id → AtLevel service after id .idle) :
    RowBounded service (state.moved after caller next) id := by
  have only : ∀ other, ((state.moved after caller next).phases other).Attempts id →
      other = caller := by
    intro other attempting
    by_contra different
    rw [RetryState.moved_other different] at attempting
    exact others other different attempting
  refine ⟨fun first second one two => (only first one).trans (only second two).symm,
    fun other attempting => ?_, fun none => resting fun attempting => none caller ?_⟩
  · rw [only other attempting, RetryState.moved_self]
    exact level
  · rw [RetryState.moved_self]
    exact attempting

theorem TableKept.issued_of_attempts (table : TableKept state)
    (attempts : (state.phases caller).Attempts id) : id ∈ state.issued := by
  obtain ⟨call, calling, reaper, rfl⟩ := attempts
  exact ((table.phases caller).reaperOwned calling reaper).2.1

theorem attemptsAt_eq_zero (known : ∀ mark ∈ state.attempts, mark.id ∈ state.issued)
    (fresh : id ∉ state.issued) : state.attemptsAt id = 0 := by
  refine List.countP_eq_zero.mpr fun mark among test => ?_
  obtain ⟨named, -⟩ := Bool.and_eq_true_iff.mp test
  exact fresh (beq_iff_eq.mp named ▸ known mark among)

/-! ### Steps and runs -/

theorem outside_rowBounded (kept : BoundKept service state) (outside : Outside state after) :
    RowBounded service after id := by
  have same : after.attemptsAt id = state.attemptsAt id := by
    unfold RetryState.attemptsAt
    rw [outside.attempts]
  by_cases issued : id ∈ state.issued
  · have level : ∀ phase, AtLevel service state id phase → AtLevel service after id phase := by
      rintro phase ⟨level, among, holds⟩
      refine ⟨level, among, holds.keep same (outside.grows.every id issued) ?_⟩
      exact outside.every id issued _ fun _ none => none
    obtain ⟨alone, busy, resting⟩ := kept.rows id
    constructor
    · rw [outside.phases]
      exact alone
    · rw [outside.phases]
      exact fun caller attempts => level _ (busy caller attempts)
    · rw [outside.phases]
      exact fun none => level _ (resting none)
  · refine .fresh ?_ (same.trans (attemptsAt_eq_zero kept.known issued))
    rw [outside.phases]
    exact fun caller attempts => issued (kept.table.issued_of_attempts attempts)

theorem attempts_known (table : TableKept state) (known : ∀ mark ∈ state.attempts, mark.id ∈ state.issued)
    (move : service.RetryMove state caller (state.phases caller) action next after) :
    ∀ mark ∈ after.attempts, mark.id ∈ after.issued := by
  intro mark among
  rw [(move_keyColumns move).1]
  obtain ⟨marks, -⟩ | ⟨entry, rest, sweeping, -, -, rfl⟩ := move_attempts move
  · exact known mark (marks ▸ among)
  · obtain rfl | old := List.mem_cons.mp among
    · have batch : entry ∈ (state.phases caller).batch := by
        rw [sweeping]
        exact List.mem_cons_self
      exact ((table.phases caller).listed entry batch).2.1
    · exact known mark old

section Act

variable (kept : BoundKept service state)
  (move : service.RetryMove state caller (state.phases caller) action next after)

include kept move

theorem own_rowBounded (met : AttemptsMet service state (.act caller action))
    (attempts : (state.phases caller).Attempts id) :
    RowBounded service (state.moved after caller next) id := by
  have others : ∀ other, other ≠ caller → ¬ (state.phases other).Attempts id :=
    fun other different attempting =>
      different ((kept.rows id).alone other caller attempting attempts)
  have before := (kept.rows id).busy caller attempts
  obtain ⟨call, calling, reaper, rfl⟩ := attempts
  have needs := met fun other found => Option.mem_unique found calling ▸ reaper
  have level : AtLevel service after call.id next :=
    own_atLevel kept.table (kept.table.phases caller) move needs calling reaper before
  refine .of_others others level fun ended => ?_
  have between : next.call = none :=
    (move_call move calling).resolve_left fun going => ended ⟨call, going, reaper, rfl⟩
  obtain ⟨level, among, holds⟩ := level
  exact ⟨level, levels_of_between between ▸ among, holds⟩

omit move in
theorem begun_rowBounded (met : AttemptsMet service state (.act caller action)) {entry : DLQRow}
    {rest : List DLQRow} (sweeping : state.phases caller = .sweeping (entry :: rest))
    (named : action = .next)
    (called : next = .calling ⟨.reaper entry rest, DlqService.reapTenant entry, entry.id⟩)
    (marked : after = { state with attempts :=
      ⟨entry.id, state.db.scheduled entry.id⟩ :: state.attempts }) :
    RowBounded service (state.moved after caller next) entry.id := by
  have free : ∀ other, ¬ (state.phases other).Attempts entry.id := by
    intro other
    by_cases same : other = caller
    · rw [same, sweeping]
      rintro ⟨call, found, -⟩
      cases found
    · have needs : Attemptable service state caller (state.phases caller) action := by
        refine met fun call found => ?_
        rw [sweeping] at found
        cases found
      rw [sweeping, named] at needs
      exact needs other same
  have level : AtLevel service after entry.id next := by
    rw [marked, called]
    exact begun_atLevel ((kept.rows entry.id).resting free)
  refine .of_others (fun other _ => free other) level fun ended => absurd ?_ ended
  rw [called]
  exact ⟨_, rfl, rfl, rfl⟩

theorem other_rowBounded (issued : id ∈ state.issued)
    (before : ¬ (state.phases caller).Attempts id) (afterwards : ¬ next.Attempts id) :
    RowBounded service (state.moved after caller next) id := by
  have others : ∀ other, ((state.moved after caller next).phases other).Attempts id →
      (state.moved after caller next).phases other = state.phases other := by
    intro other attempting
    refine RetryState.moved_other fun same => afterwards ?_
    rw [same, RetryState.moved_self] at attempting
    exact attempting
  have marks : after.attemptsAt id = state.attemptsAt id := by
    obtain ⟨same, -⟩ | ⟨entry, rest, -, -, rfl, rfl⟩ := move_attempts move
    · unfold RetryState.attemptsAt
      rw [same]
    · refine List.countP_cons_of_neg fun test => afterwards ?_
      obtain ⟨named, -⟩ := Bool.and_eq_true_iff.mp test
      exact ⟨_, rfl, rfl, beq_iff_eq.mp named⟩
  have level : ∀ phase, AtLevel service state id phase →
      AtLevel service (state.moved after caller next) id phase := by
    rintro phase ⟨level, among, holds⟩
    have unscheduled : Unscheduled state id → Unscheduled after id := by
      refine fun off => move_unscheduled move off fun entry rest tenantID failed => before ?_
      rw [failed]
      exact ⟨_, rfl, rfl, rfl⟩
    have holds : level.Holds service after id :=
      holds.keep marks ((move_grows move).every id issued) unscheduled
    exact ⟨level, among, holds⟩
  obtain ⟨alone, busy, resting⟩ := kept.rows id
  refine ⟨?_, ?_, ?_⟩
  · intro first second attempting too
    have firstSame := others first attempting
    have secondSame := others second too
    rw [firstSame] at attempting
    rw [secondSame] at too
    exact alone first second attempting too
  · intro other attempting
    have same := others other attempting
    rw [same] at attempting ⊢
    exact level _ (busy other attempting)
  · intro none
    refine level _ (resting fun other attempting => ?_)
    by_cases same : other = caller
    · exact before (same ▸ attempting)
    · refine none other ?_
      rw [RetryState.moved_other same]
      exact attempting

theorem move_rowBounded (met : AttemptsMet service state (.act caller action))
    (table : TableKept (state.moved after caller next)) :
    RowBounded service (state.moved after caller next) id := by
  by_cases issued : id ∈ state.issued
  · by_cases attempts : (state.phases caller).Attempts id
    · exact own_rowBounded kept move met attempts
    by_cases begins : next.Attempts id
    · obtain ⟨-, going⟩ | ⟨entry, rest, sweeping, named, called, marked⟩ := move_attempts move
      · exact absurd (going id begins) attempts
      · have same : entry.id = id := by
          rw [called] at begins
          obtain ⟨call, found, -, same⟩ := begins
          cases found
          exact same
        exact same ▸ begun_rowBounded kept met sweeping named called marked
    · exact other_rowBounded kept move issued attempts begins
  · have fresh : id ∉ (state.moved after caller next).issued :=
      fun known => issued ((move_keyColumns move).1 ▸ known)
    have known := attempts_known kept.table kept.known move
    have zero : (state.moved after caller next).attemptsAt id = 0 := attemptsAt_eq_zero known fresh
    exact .fresh (fun other attempting => fresh (table.issued_of_attempts attempting)) zero

end Act

/-- Every step that meets the condition keeps the bound. -/
theorem step_boundKept {label : RetryLabel Key Rule} (kept : BoundKept service state)
    (met : AttemptsMet service state label)
    (fired : service.retryStep state label = some after) : BoundKept service after := by
  have table := (step_tableKept kept.table fired).1
  by_cases inside : ∃ caller action, label = .act caller action
  · obtain ⟨caller, action, rfl⟩ := inside
    obtain ⟨moved, acted, rfl⟩ := Option.map_eq_some_iff.mp fired
    have move := DlqService.move_of_act acted
    have known := attempts_known kept.table kept.known move
    have rows := fun id => @move_rowBounded _ _ _ _ _ _ _ _ _ _ id kept move met table
    exact ⟨table, known, rows⟩
  · have outside := outside_of_step (fun caller action same => inside ⟨caller, action, same⟩) fired
    refine ⟨table, ?_, fun id => outside_rowBounded kept outside⟩
    rw [outside.attempts]
    exact fun mark among => outside.issued _ (kept.known mark among)

theorem initial_boundKept (store : Store) (rules : String → List Rule) (keys : Option (KeyRing Key)) :
    BoundKept service (RetryState.initial store rules keys : RetryState World Key Rule) where
  table := initial_tableKept store rules keys
  known _ among := absurd among List.not_mem_nil
  rows id := by
    refine .fresh (fun caller attempts => ?_) rfl
    obtain ⟨call, found, -⟩ := attempts
    cases found

end Moves

/-! ### One attempt -/

section Attempt

variable (service : DlqService World Document Key Rule)

/-- The attempt can be counted: the row is read and, below the cap, so is its pipeline. -/
def Countable (db : DlqState World Key Rule) (tenantID : String) (row : DLQRow)
    (answers : RetryAnswers) : Prop :=
  answers.rowRead = true ∧ (service.maxRetries ≤ row.retryCount ∨
    row.entry.pipelineID ≠ "" ∧ answers.pipelineRead = true ∧
      ∃ pipeline ∈ db.store.pipelines,
        pipeline.id = row.entry.pipelineID ∧ pipeline.tenantID = tenantID)

theorem loadRetry_failed_iff {db : DlqState World Key Rule} {tenantID id : String} {held : HeldRow}
    (found : db.get tenantID id = some held) (answers : RetryAnswers) :
    service.loadRetry db tenantID id answers = .error .failed ↔
      ¬ Countable service db tenantID held.row answers := by
  unfold DlqService.loadRetry Countable
  cases answers.rowRead with
  | false => exact ⟨fun _ both => Bool.noConfusion both.1, fun _ => rfl⟩
  | true =>
    rw [if_neg Bool.noConfusion, found]
    dsimp only
    by_cases reached : service.maxRetries ≤ held.row.retryCount
    · rw [if_pos reached]
      refine ⟨fun failed => ?_, fun missing => absurd ⟨rfl, Or.inl reached⟩ missing⟩
      cases failed
    rw [if_neg reached]
    by_cases unread : held.row.entry.pipelineID = "" ∨ answers.pipelineRead = false
    · rw [if_pos unread]
      refine ⟨fun _ both => ?_, fun _ => rfl⟩
      obtain capped | ⟨linked, read, -⟩ := both.2
      · exact reached capped
      · rw [read] at unread
        exact unread.elim linked Bool.noConfusion
    rw [if_neg unread]
    obtain ⟨linked, read⟩ := not_or.mp unread
    cases asked : db.store.pipelines.find? fun pipeline =>
        pipeline.id = held.row.entry.pipelineID ∧ pipeline.tenantID = tenantID with
    | none =>
      refine ⟨fun _ both => ?_, fun _ => rfl⟩
      obtain capped | ⟨-, -, pipeline, among, ours⟩ := both.2
      · exact reached capped
      · exact List.find?_eq_none.mp asked pipeline among (decide_eq_true ours)
    | some pipeline =>
      have matched := List.find?_some asked
      have countable : true = true ∧ (service.maxRetries ≤ held.row.retryCount ∨
          held.row.entry.pipelineID ≠ "" ∧ answers.pipelineRead = true ∧
            ∃ pipeline ∈ db.store.pipelines,
              pipeline.id = held.row.entry.pipelineID ∧ pipeline.tenantID = tenantID) :=
        ⟨rfl, Or.inr ⟨linked, Bool.not_eq_false _ ▸ read, pipeline, List.mem_of_find?_eq_some asked,
          of_decide_eq_true matched⟩⟩
      refine ⟨fun failed => ?_, fun missing => absurd countable missing⟩
      dsimp only at failed
      split at failed
      · cases failed
      · cases failed

/-- The attempt takes the row off the schedule or raises its count. -/
def Advances (before after : DLQRow) : Prop :=
  after.nextRetryAt = none ∨ before.retryCount < after.retryCount

/-- An attempt that is counted advances the row exactly if the row is countable. -/
theorem attemptOne_advances_iff {db : DlqState World Key Rule} {entry : DLQRow} {held : HeldRow}
    (found : db.get (DlqService.reapTenant entry) entry.id = some held) {answers : RetryAnswers}
    (counted : answers.counted = true) (world : World) (now jitter : Int) :
    (∃ after, (service.attemptOne db entry answers world now jitter true).get
        (DlqService.reapTenant entry) entry.id = some after ∧ Advances held.row after.row) ↔
      Countable service db (DlqService.reapTenant entry) held.row answers := by
  have counts : Countable service db (DlqService.reapTenant entry) held.row answers ↔
      service.loadRetry db (DlqService.reapTenant entry) entry.id answers ≠ .error .failed := by
    rw [Ne, loadRetry_failed_iff service found, not_not]
  rw [counts]
  unfold DlqService.attemptOne
  dsimp only
  rw [if_pos rfl, DlqState.get_scheduleRetry]
  cases loads : service.loadRetry db (DlqService.reapTenant entry) entry.id answers with
  | error result =>
    have stopped : service.retry db (DlqService.reapTenant entry) entry.id answers world =
        (result, db) := by
      unfold DlqService.retry
      rw [loads]
    rw [stopped, found]
    constructor
    · rintro ⟨after, same, advances⟩ failed
      cases same
      cases failed
      obtain cleared | raised := advances
      · cases cleared
      · exact absurd raised (Nat.lt_irrefl _)
    · intro ended
      refine ⟨_, rfl, Or.inl ?_⟩
      cases result with
      | succeeded | maxRetries => rfl
      | failed => exact absurd rfl ended
  | ok loaded =>
    obtain ⟨row, pipeline⟩ := loaded
    obtain ⟨-, rows, -⟩ := @DlqService.retry_eq_loaded _ _ _ _ service db
      ⟨.handler, DlqService.reapTenant entry, entry.id⟩ answers row pipeline world loads
    rw [DlqService.retryLoaded_db, if_pos counted] at rows
    have stored := DlqState.get_congr rows (DlqService.reapTenant entry) entry.id
    rw [DlqState.get_incrementRetry, found] at stored
    rw [stored]
    refine ⟨fun _ failed => ?_, fun _ => ⟨_, rfl, Or.inr (Nat.lt_succ_self _)⟩⟩
    cases failed

end Attempt

/-- An attempt whose writes succeed takes the row off the schedule or raises its count exactly when it
can be counted; and in a run all of whose attempts have what they need, a row is attempted while it
is on the schedule at most once for every retry and once more, after which it has used up its
retries and is off the schedule. -/
theorem attempts_bounded_of_countable (service : DlqService World Document Key Rule) :
    (∀ (db : DlqState World Key Rule) (entry : DLQRow) (held : HeldRow) (answers : RetryAnswers)
        (world : World) (now jitter : Int),
      db.get (DlqService.reapTenant entry) entry.id = some held → answers.counted = true →
        ((∃ after, (service.attemptOne db entry answers world now jitter true).get
            (DlqService.reapTenant entry) entry.id = some after ∧ Advances held.row after.row) ↔
          Countable service db (DlqService.reapTenant entry) held.row answers)) ∧
    (∀ (store : Store) (rules : String → List Rule) (keys : Option (KeyRing Key))
        (state : RetryState World Key Rule),
      Runs.Reaches service.retryStep (AttemptsMet service) (RetryState.initial store rules keys) state →
        ∀ id, state.attemptsAt id ≤ service.maxRetries + 1 ∧
          (state.attemptsAt id = service.maxRetries + 1 →
            (∀ caller, ¬ (state.phases caller).Attempts id) →
              Spent service state id ∧ Unscheduled state id)) := by
  constructor
  · intro db entry held answers world now jitter found counted
    exact attemptOne_advances_iff service found counted world now jitter
  · intro store rules keys state reached id
    have kept := reached.invariant (BoundKept service) (initial_boundKept store rules keys)
      fun _ _ _ kept met fired => step_boundKept kept met fired
    refine ⟨(kept.rows id).bounded, fun most nobody => ?_⟩
    obtain ⟨level, among, holds⟩ := (kept.rows id).resting nobody
    obtain rfl | last := List.mem_cons.mp among
    · have low : state.attemptsAt id ≤ service.maxRetries := holds.1
      omega
    · cases List.mem_singleton.mp last
      exact holds.2

/-! ### A row that has lost its pipeline, and one whose sends fail -/

open DlqService (gateService gateStore gateEntry)

/-- Whether the database answers every call of the step. -/
def RetryLabel.served : RetryLabel Key Rule → Bool
  | .act _ (.get read) => read
  | .act _ (.getPipeline read) => read
  | label => label.written

/-- A sweep of caller 0 with one row due, whose attempt takes the given steps. -/
def sweep (attempt : List (RetryLabel Unit Unit)) : List (RetryLabel Unit Unit) :=
  [.act 0 (.reap 1000000000000 50), .act 0 .next] ++ attempt ++ [.act 0 .next]

/-- The pipeline of a scheduled row is deleted. The row is attempted five times with a cap of three,
has not been counted once, and is still on the schedule. -/
theorem unlinked_row_cycles :
    ∃ state, Runs.Reaches gateService.retryStep (fun _ label => label.served = true) gateTable state ∧
      gateService.maxRetries + 1 < state.attemptsAt "r" ∧ state.db.scheduled "r" = true ∧
      state.db.Every "r" fun row => row.retryCount = 0 := by
  obtain ⟨state, reached, tested⟩ := Runs.exists_reaches_of_exec gateService.retryStep
    (fun _ label => label.served = true) gateTable
    ([pushRow, .write (.deletePipeline "t" "p")] ++
      (List.replicate 5 (sweep [.act 0 (.get true), .act 0 (.close 0 0 true)])).flatten)
    (fun state => decide (gateService.maxRetries + 1 < state.attemptsAt "r") &&
      (state.db.scheduled "r" && decide (state.db.Every "r" fun row => row.retryCount = 0)))
    (by decide)
  obtain ⟨more, rest⟩ := Bool.and_eq_true_iff.mp tested
  obtain ⟨scheduled, uncounted⟩ := Bool.and_eq_true_iff.mp rest
  exact ⟨state, reached, of_decide_eq_true more, scheduled, of_decide_eq_true uncounted⟩

/-- What an attempt needs of the tables. -/
def attemptableAlone (service : DlqService World Document Key Rule) (db : DlqState World Key Rule) :
    RetryPhase → RetryAction → Bool
  | .calling call, .get read => read && (db.get call.tenantID call.id).all fun held =>
      decide (service.maxRetries ≤ held.row.retryCount) || held.row.entry.pipelineID != ""
  | .loaded call held, .getPipeline read => read && db.store.pipelines.any fun pipeline =>
      pipeline.id == held.row.entry.pipelineID && pipeline.tenantID == call.tenantID
  | .counting _ _ _, .increment written => written
  | .returned _ _, .close _ _ written => written
  | _, _ => true

/-- A step of caller 0 that has what it needs, or of none. -/
def aloneAttempt (service : DlqService World Document Key Rule) (state : RetryState World Key Rule) :
    RetryLabel Key Rule → Bool
  | .act caller action => caller == 0 && attemptableAlone service state.db (state.phases 0) action
  | _ => true

theorem attemptable_of_alone {service : DlqService World Document Key Rule}
    {state : RetryState World Key Rule} (idle : ∀ other, other ≠ 0 → state.phases other = .idle)
    {phase : RetryPhase} {action : RetryAction}
    (alone : attemptableAlone service state.db phase action = true) :
    Attemptable service state 0 phase action := by
  cases phase with
  | sweeping rest =>
    cases rest with
    | nil => cases action <;> trivial
    | cons entry rest =>
      cases action with
      | next =>
        rintro other different ⟨call, found, -⟩
        rw [idle other different] at found
        cases found
      | _ => trivial
  | calling call =>
    cases action with
    | get read =>
      obtain ⟨read, rows⟩ := Bool.and_eq_true_iff.mp alone
      refine ⟨read, fun held found below => ?_⟩
      rw [found] at rows
      obtain reached | linked := Bool.or_eq_true_iff.mp rows
      · exact absurd (of_decide_eq_true reached) (Nat.not_le_of_lt below)
      · exact bne_iff_ne.mp linked
    | _ => trivial
  | loaded call held =>
    cases action with
    | getPipeline read =>
      obtain ⟨read, pipelines⟩ := Bool.and_eq_true_iff.mp alone
      obtain ⟨pipeline, among, both⟩ := List.any_eq_true.mp pipelines
      obtain ⟨named, ours⟩ := Bool.and_eq_true_iff.mp both
      exact Or.inr ⟨read, pipeline, among, beq_iff_eq.mp named, beq_iff_eq.mp ours⟩
    | _ => trivial
  | counting call held pipeline =>
    cases action with
    | increment written => exact alone
    | _ => trivial
  | returned call result =>
    cases action with
    | close now jitter written => exact alone
    | _ => trivial
  | _ => cases action <;> trivial

theorem idle_of_aloneAttempt {service : DlqService World Document Key Rule} {store : Store}
    {rules : String → List Rule} {keys : Option (KeyRing Key)} {state : RetryState World Key Rule}
    (reached : Runs.Reaches service.retryStep
      (fun state label => aloneAttempt service state label = true)
      (RetryState.initial store rules keys) state) :
    ∀ other, other ≠ 0 → state.phases other = .idle := by
  refine idle_of_onlyCaller (fun _ label permitted => ?_) reached
  cases label with
  | act caller action => exact beq_iff_eq.mp (Bool.and_eq_true_iff.mp permitted).1
  | _ => trivial

theorem reaches_of_aloneAttempt {service : DlqService World Document Key Rule} {store : Store}
    {rules : String → List Rule} {keys : Option (KeyRing Key)} {state : RetryState World Key Rule}
    (reached : Runs.Reaches service.retryStep
      (fun state label => aloneAttempt service state label = true)
      (RetryState.initial store rules keys) state) :
    Runs.Reaches service.retryStep (AttemptsMet service) (RetryState.initial store rules keys)
      state := by
  refine reached.mono fun before label reachedBefore allowed => ?_
  cases label with
  | act caller action =>
    obtain ⟨first, alone⟩ := Bool.and_eq_true_iff.mp allowed
    cases beq_iff_eq.mp first
    exact fun _ => attemptable_of_alone (idle_of_aloneAttempt reachedBefore) alone
  | _ => trivial

/-- The row `r` after its push. -/
def pushedHeld : HeldRow :=
  ⟨gateService.pushedRow gateTable.db gateEntry { now := 0, id := "r" }, gateEntry.originalMsg⟩

/-- With a cap of three, a row whose sends fail is attempted four times: the first raises its count,
and the fourth takes it off the schedule. -/
theorem failing_row_attempted_four_times :
    (∃ after, (gateService.attemptOne (gateService.push gateTable.db gateEntry { now := 0, id := "r" })
        pushedHeld.row { sent := false } () 0 0 true).get "t" "r" = some after ∧
      Advances pushedHeld.row after.row) ∧
    ∃ state, Runs.Reaches gateService.retryStep (AttemptsMet gateService) gateTable state ∧
      state.attemptsAt "r" = 4 ∧ Spent gateService state "r" ∧ Unscheduled state "r" := by
  constructor
  · refine ((attempts_bounded_of_countable gateService).1
      (gateService.push gateTable.db gateEntry { now := 0, id := "r" }) pushedHeld.row pushedHeld
      { sent := false } () 0 0 (by decide) rfl).mpr ?_
    refine ⟨rfl, Or.inr ⟨by decide, rfl, _, List.mem_cons_self, rfl, rfl⟩⟩
  · obtain ⟨state, reached, tested⟩ := Runs.exists_reaches_of_exec gateService.retryStep
      (fun state label => aloneAttempt gateService state label = true) gateTable
      ([pushRow] ++ (List.replicate 3 (sweep (wholeCall 0 false))).flatten ++
        sweep [.act 0 (.get true), .act 0 (.close 0 0 true)])
      (fun state => decide (state.attemptsAt "r" = 4) && decide (state.phases 0 = .idle))
      (by decide)
    obtain ⟨four, rests⟩ := Bool.and_eq_true_iff.mp tested
    have four := of_decide_eq_true four
    have met := reaches_of_aloneAttempt reached
    have nobody : ∀ caller, ¬ (state.phases caller).Attempts "r" := by
      intro caller
      have none : state.phases caller = .idle := by
        by_cases same : caller = 0
        · rw [same]
          exact of_decide_eq_true rests
        · exact idle_of_aloneAttempt reached caller same
      rw [none]
      rintro ⟨call, found, -⟩
      cases found
    have bounds := ((attempts_bounded_of_countable gateService).2 _ _ _ state met "r").2
    exact ⟨state, met, four, bounds four nobody⟩

end MqConnector
