/-
This file asks whether no reaper calls `SendMessage` for a row once a `Retry` of it
has returned nil.

Only the reaper clears `next_retry_at`, and `BulkRetry` deletes the row; the handler
of a single row does neither, although the comment on `ScheduleRetry` says so.
-/

import MqConnector.Retries
import MqConnector.RetryTable

namespace MqConnector

variable {World Document Key Rule : Type}

/-! ### The condition -/

/-- The row has used up its retries, or is gone. -/
def Spent (service : DlqService World Document Key Rule) (state : RetryState World Key Rule)
    (id : String) : Prop :=
  state.db.Every id fun row => service.maxRetries ≤ row.retryCount

def Unscheduled (state : RetryState World Key Rule) (id : String) : Prop :=
  state.db.Every id fun row => row.nextRetryAt = none

/-- A reaper has the row in its batch. -/
def RetryPhase.Reaps (phase : RetryPhase) (id : String) : Prop :=
  ∃ entry ∈ phase.batch, entry.id = id

/-- A reaper has read the row and not yet sent. -/
def RetryPhase.ReaperAhead (phase : RetryPhase) (id : String) : Prop :=
  ∃ call ∈ phase.ahead, call.loop.isReaper = true ∧ call.id = id

/-- Whether the write of a step, if it makes one, succeeds. -/
def RetryLabel.written : RetryLabel Key Rule → Bool
  | .act _ (.increment written) => written
  | .act _ (.close _ _ written) => written
  | _ => true

/-- A call succeeds only for a row that no reaper will send again, and a reaper lists no row whose
call has succeeded and is not closed. -/
def Settles (service : DlqService World Document Key Rule) (state : RetryState World Key Rule) :
    RetryLabel Key Rule → Prop
  | .act caller (.send true) => ∀ call ∈ (state.phases caller).ahead,
      (∀ other, other ≠ caller → ¬ (state.phases other).ReaperAhead call.id) ∧
      (Spent service state call.id ∨
        (∀ other, other ≠ caller → ¬ (state.phases other).Reaps call.id) ∧
        (call.loop = .handler → Unscheduled state call.id))
  | .act _ (.reap now limit) => ∀ entry ∈ state.db.listDue now limit, ∀ other,
      ∀ call ∈ (state.phases other).succeeded, call.id = entry.id → Spent service state entry.id
  | _ => True

/-! ### The invariant -/

/-- No reaper will send the row: none has read it and not yet sent, and the row has used up its
retries, or it is in no batch but that of a call which has succeeded, and off the schedule or
about to leave it. -/
structure Quiet (service : DlqService World Document Key Rule) (state : RetryState World Key Rule)
    (id : String) : Prop where
  ahead : ∀ caller, ¬ (state.phases caller).ReaperAhead id
  settled : Spent service state id ∨
    (∀ caller, (state.phases caller).Reaps id →
      ∃ call ∈ (state.phases caller).succeeded, call.id = id) ∧
    (Unscheduled state id ∨ ∃ caller, ∃ call ∈ (state.phases caller).succeeded,
      call.id = id ∧ call.loop ≠ .handler)

/-- No row is sent by a reaper after a `Retry` for it has returned nil. -/
def NotResent (state : RetryState World Key Rule) : Prop :=
  ∀ mark ∈ state.sends, mark.reaper = true → mark.late = false

/-- What the runs that meet the condition keep. -/
structure OnceKept (service : DlqService World Document Key Rule)
    (state : RetryState World Key Rule) : Prop where
  table : TableKept state
  notResent : NotResent state
  quiet : ∀ id ∈ state.delivered, Quiet service state id

section Moves

variable {service : DlqService World Document Key Rule} {state after : RetryState World Key Rule}
  {caller : Nat} {phase next : RetryPhase} {action : RetryAction} {id : String}

theorem move_unscheduled (move : service.RetryMove state caller phase action next after)
    (unscheduled : Unscheduled state id)
    (closing : ∀ entry rest tenantID,
      phase ≠ .returned ⟨.reaper entry rest, tenantID, id⟩ .failed) :
    Unscheduled after id := by
  cases move with
  | @increment call held pipeline written =>
    cases written with
    | false => exact unscheduled
    | true => exact DlqState.every_incrementRetry (fun _ none => none) unscheduled
  | closeBulk now jitter written =>
    split
    · exact DlqState.every_delete unscheduled
    · exact unscheduled
  | @closeReaper tenantID target entry rest result now jitter written =>
    split
    · by_cases same : target = id
      · have cleared : DlqService.rescheduled state.db entry now jitter result = none := by
          cases result with
          | succeeded | maxRetries => rfl
          | failed => exact absurd (same ▸ rfl) (closing entry rest tenantID)
        exact DlqState.every_scheduleRetry (fun _ _ => cleared) unscheduled
      · exact DlqState.every_scheduleRetry_other same unscheduled
    · exact unscheduled
  | _ => exact unscheduled

theorem move_ahead (move : service.RetryMove state caller phase action next after)
    (ahead : next.ReaperAhead id) :
    phase.ReaperAhead id ∨ ∃ call held, phase = .calling call ∧ call.loop.isReaper = true ∧
      call.id = id ∧ state.db.get call.tenantID call.id = some held ∧
      held.row.retryCount < service.maxRetries := by
  obtain ⟨call, found, reaper, named⟩ := ahead
  cases move with
  | load stored below linked =>
    cases found
    exact Or.inr ⟨call, _, rfl, reaper, named, stored, below⟩
  | pipeline | increment | connect =>
    exact Or.inl ⟨call, found, reaper, named⟩
  | send sent =>
    cases sent with
    | true => cases found
    | false => cases found
  | _ => cases found

theorem move_batch (move : service.RetryMove state caller phase action next after) :
    ∀ entry ∈ next.batch, entry ∈ phase.batch ∨
      ∃ now limit, action = .reap now limit ∧ entry ∈ state.db.listDue now limit := by
  intro entry among
  cases move with
  | reap now limit => exact Or.inr ⟨now, limit, rfl, among⟩
  | closeReaper now jitter written => exact Or.inl (List.mem_cons_of_mem _ among)
  | retry | bulk | walk | leave | closeHandler | closeBulk => exact absurd among List.not_mem_nil
  | _ => exact Or.inl among

theorem move_closed (move : service.RetryMove state caller phase action next after)
    (owned : PhaseOwned state phase) {call : RetryCall} (succeeded : phase.succeeded = some call) :
    ¬ next.Reaps call.id := by
  rintro ⟨entry, among, named⟩
  cases move with
  | @closeReaper tenantID id first rest result now jitter written =>
    have same : call = ⟨.reaper first rest, tenantID, id⟩ := by
      cases result with
      | succeeded =>
        cases succeeded
        rfl
      | maxRetries | failed => cases succeeded
    have first_id := (owned.reaping _ first rest rfl rfl).1
    have absent := (List.nodup_cons.mp owned.distinct).1
    refine absent (List.mem_map.mpr ⟨entry, among, ?_⟩)
    rw [named, same]
    exact first_id
  | leave | closeHandler | closeBulk => exact absurd among List.not_mem_nil
  | _ => cases succeeded

theorem move_settles (move : service.RetryMove state caller phase action next after)
    (owned : PhaseOwned state phase) (written : (RetryLabel.act caller action : RetryLabel Key Rule).written = true)
    {call : RetryCall} (succeeded : phase.succeeded = some call) (loop : call.loop ≠ .handler) :
    Spent service after call.id ∨ Unscheduled after call.id := by
  have ours := (owned.succeeded call succeeded).2
  cases move with
  | @closeHandler tenantID id result now jitter wrote =>
    cases result with
    | succeeded =>
      cases succeeded
      exact absurd rfl loop
    | maxRetries | failed => cases succeeded
  | @closeBulk tenantID id rest result now jitter wrote =>
    cases result with
    | succeeded =>
      cases succeeded
      have both : RetryResult.succeeded = .succeeded ∧ wrote = true := ⟨rfl, written⟩
      rw [if_pos both]
      exact Or.inl (DlqState.every_delete_owned ours)
    | maxRetries | failed => cases succeeded
  | @closeReaper tenantID id first rest result now jitter wrote =>
    cases result with
    | succeeded =>
      cases succeeded
      have wrote : wrote = true := written
      rw [if_pos wrote]
      exact Or.inr (DlqState.every_scheduleRetry_owned ours ours fun _ _ => rfl)
    | maxRetries | failed => cases succeeded
  | leave between =>
    obtain ⟨tenantID, rest, rfl⟩ | ⟨rest, rfl⟩ := between
    · cases succeeded
    · cases succeeded
  | _ => cases succeeded

theorem PhaseOwned.entry (owned : PhaseOwned state phase) {call : RetryCall}
    (calling : phase.call = some call) (reaper : call.loop.isReaper = true) :
    ∃ entry ∈ phase.batch, entry.id = call.id ∧ entry.entry.tenantID = call.tenantID := by
  obtain ⟨loop, tenantID, id⟩ := call
  cases loop with
  | handler | bulk => cases reaper
  | reaper entry rest =>
    have batch : phase.batch = entry :: rest := by
      cases phase with
      | idle | walking | sweeping => cases calling
      | _ =>
        cases calling
        rfl
    obtain ⟨named, tenant⟩ := owned.reaping _ entry rest calling rfl
    refine ⟨entry, ?_, named.symm, tenant.symm⟩
    rw [batch]
    exact List.mem_cons_self

theorem PhaseOwned.reaps (owned : PhaseOwned state phase) {call : RetryCall}
    (calling : phase.call = some call) (reaper : call.loop.isReaper = true) :
    phase.Reaps call.id := by
  obtain ⟨entry, among, named, -⟩ := owned.entry calling reaper
  exact ⟨entry, among, named⟩

def RetryState.moved (state after : RetryState World Key Rule) (caller : Nat) (next : RetryPhase) :
    RetryState World Key Rule :=
  { after with phases := Function.update state.phases caller next }

@[simp]
theorem RetryState.moved_self :
    (RetryState.moved state after caller next).phases caller = next :=
  Function.update_self ..

theorem RetryState.moved_other {other : Nat} (different : other ≠ caller) :
    (RetryState.moved state after caller next).phases other = state.phases other :=
  Function.update_of_ne different ..

theorem quiet_move (table : TableKept state)
    (move : service.RetryMove state caller (state.phases caller) action next after)
    (written : (RetryLabel.act caller action : RetryLabel Key Rule).written = true)
    (settles : Settles service state (.act caller action)) (issued : id ∈ state.issued)
    (quiet : Quiet service state id) : Quiet service (state.moved after caller next) id := by
  have owned := table.phases caller
  have spent : Spent service state id → Spent service (state.moved after caller next) id :=
    (move_grows move).every id issued _ (stable_count _)
  -- the caller itself does not come to hold the row, unless the row is spent
  have holds : next.Reaps id → Spent service state id := by
    rintro ⟨entry, among, rfl⟩
    obtain done | ⟨batches, rest⟩ := quiet.settled
    · exact done
    obtain before | ⟨now, limit, rfl, listed⟩ := move_batch move entry among
    · obtain ⟨call, succeeded, named⟩ := batches caller ⟨entry, before, rfl⟩
      exact absurd ⟨entry, among, named.symm⟩ (move_closed move owned succeeded)
    · obtain unscheduled | ⟨other, call, succeeded, named, -⟩ := rest
      · obtain ⟨⟨held, stored, same⟩, due⟩ := DlqState.mem_listDue listed
        have none := unscheduled held stored (congrArg DLQRow.id same)
        rw [← same, none] at due
        cases due
      · exact settles entry listed other call succeeded named
  constructor
  · intro other ahead
    by_cases same : other = caller
    · rw [same, RetryState.moved_self] at ahead
      obtain before | ⟨call, held, calling, reaper, named, found, below⟩ := move_ahead move ahead
      · exact quiet.ahead caller before
      · obtain ⟨stored, heldID, -⟩ := DlqState.get_eq_some found
        have reaps : (state.phases caller).Reaps id :=
          named ▸ owned.reaps (calling ▸ rfl) reaper
        obtain done | ⟨batches, -⟩ := quiet.settled
        · exact absurd (done held stored (heldID.trans named)) (Nat.not_le_of_lt below)
        · obtain ⟨other, succeeded, -⟩ := batches caller reaps
          rw [calling] at succeeded
          cases succeeded
    · rw [RetryState.moved_other same] at ahead
      exact quiet.ahead other ahead
  · obtain done | ⟨batches, rest⟩ := quiet.settled
    · exact Or.inl (spent done)
    by_cases listed : next.Reaps id
    · exact Or.inl (spent (holds listed))
    have batchesAfter : ∀ other, ((state.moved after caller next).phases other).Reaps id →
        ∃ call ∈ ((state.moved after caller next).phases other).succeeded, call.id = id := by
      intro other reaps
      by_cases same : other = caller
      · rw [same, RetryState.moved_self] at reaps
        exact absurd reaps listed
      · rw [RetryState.moved_other same] at reaps ⊢
        exact batches other reaps
    obtain unscheduled | ⟨other, call, succeeded, named, loop⟩ := rest
    · have kept : Unscheduled after id := by
        refine move_unscheduled move unscheduled fun entry rest tenantID failed => ?_
        have calling : (state.phases caller).call = some ⟨.reaper entry rest, tenantID, id⟩ :=
          failed ▸ rfl
        obtain ⟨call, succeeded, -⟩ := batches caller (owned.reaps calling rfl)
        rw [failed] at succeeded
        cases succeeded
      exact Or.inr ⟨batchesAfter, Or.inl kept⟩
    · by_cases same : other = caller
      · rw [same] at succeeded
        obtain done | unscheduled := move_settles move owned written succeeded loop
        · exact Or.inl (named ▸ done)
        · exact Or.inr ⟨batchesAfter, Or.inl (named ▸ unscheduled)⟩
      · exact Or.inr ⟨batchesAfter, Or.inr ⟨other, call, (RetryState.moved_other same).symm ▸ succeeded, named,
          loop⟩⟩

theorem quiet_sent {call : RetryCall} {payload : Bytes} {config : Config}
    (sending : state.phases caller = .sending call payload config)
    (settles : Settles service state (.act caller (.send true))) :
    Quiet service (state.moved (DlqService.sendCall state caller call true) caller
      (.returned call .succeeded)) call.id := by
  obtain ⟨ahead, settled⟩ := settles call (sending ▸ rfl)
  constructor
  · intro other reads
    by_cases same : other = caller
    · rw [same, RetryState.moved_self] at reads
      obtain ⟨other, found, -⟩ := reads
      cases found
    · rw [RetryState.moved_other same] at reads
      exact ahead other same reads
  · obtain spent | ⟨batches, handler⟩ := settled
    · exact Or.inl spent
    refine Or.inr ⟨?_, ?_⟩
    · intro other reaps
      by_cases same : other = caller
      · rw [same, RetryState.moved_self]
        exact ⟨call, rfl, rfl⟩
      · rw [RetryState.moved_other same] at reaps
        exact absurd reaps (batches other same)
    · by_cases loop : call.loop = .handler
      · exact Or.inl (handler loop)
      · refine Or.inr ⟨caller, call, ?_, rfl, loop⟩
        rw [RetryState.moved_self]
        rfl

end Moves

/-! ### Steps and runs -/

section Runs

variable {service : DlqService World Document Key Rule} {state after : RetryState World Key Rule}

theorem quiet_outside {id : String} (outside : Outside state after) (issued : id ∈ state.issued)
    (quiet : Quiet service state id) : Quiet service after id := by
  have unscheduled : Unscheduled state id → Unscheduled after id :=
    outside.every id issued _ fun _ none => none
  constructor
  · rw [outside.phases]
    exact quiet.ahead
  · rw [outside.phases]
    obtain done | ⟨batches, rest⟩ := quiet.settled
    · exact Or.inl (outside.grows.every id issued _ (stable_count _) done)
    · exact Or.inr ⟨batches, rest.imp_left unscheduled⟩

theorem move_sends {caller : Nat} {phase next : RetryPhase} {action : RetryAction}
    (move : service.RetryMove state caller phase action next after) :
    after.sends = state.sends ∧ after.delivered = state.delivered ∨
      ∃ call payload config sent, phase = .sending call payload config ∧ action = .send sent ∧
        next = .returned call (if sent then .succeeded else .failed) ∧
        after = DlqService.sendCall state caller call sent := by
  cases move with
  | @increment call held pipeline written =>
    cases written with
    | false => exact Or.inl ⟨rfl, rfl⟩
    | true => exact Or.inl ⟨rfl, rfl⟩
  | send sent => exact Or.inr ⟨_, _, _, sent, rfl, rfl, rfl, rfl⟩
  | closeBulk now jitter written =>
    split
    · exact Or.inl ⟨rfl, rfl⟩
    · exact Or.inl ⟨rfl, rfl⟩
  | closeReaper now jitter written =>
    split
    · exact Or.inl ⟨rfl, rfl⟩
    · exact Or.inl ⟨rfl, rfl⟩
  | _ => exact Or.inl ⟨rfl, rfl⟩

theorem move_quiet (kept : OnceKept service state) {caller : Nat} {next : RetryPhase}
    {action : RetryAction}
    (move : service.RetryMove state caller (state.phases caller) action next after)
    (written : (RetryLabel.act caller action : RetryLabel Key Rule).written = true)
    (settles : Settles service state (.act caller action)) :
    ∀ id ∈ after.delivered, Quiet service (state.moved after caller next) id := by
  have old : ∀ id ∈ state.delivered, Quiet service (state.moved after caller next) id :=
    fun id among => quiet_move kept.table move written settles (kept.table.delivered id among)
      (kept.quiet id among)
  intro id among
  obtain ⟨-, delivered⟩ | ⟨call, payload, config, sent, sending, rfl, rfl, rfl⟩ := move_sends move
  · exact old id (delivered ▸ among)
  · cases sent with
    | false => exact old id among
    | true =>
      obtain rfl | before := List.mem_cons.mp among
      · exact quiet_sent sending settles
      · exact old id before

theorem move_notResent (kept : OnceKept service state) {caller : Nat} {next : RetryPhase}
    {action : RetryAction}
    (move : service.RetryMove state caller (state.phases caller) action next after) :
    NotResent after := by
  intro mark among reaper
  obtain ⟨sends, -⟩ | ⟨call, payload, config, sent, sending, -, -, rfl⟩ := move_sends move
  · exact kept.notResent mark (sends ▸ among) reaper
  · obtain rfl | old := List.mem_cons.mp among
    · refine decide_eq_false fun delivered => ?_
      exact (kept.quiet call.id delivered).ahead caller ⟨call, sending ▸ rfl, reaper, rfl⟩
    · exact kept.notResent mark old reaper

/-- Every settling step whose writes succeed keeps that a row is sent once. -/
theorem step_onceKept {label : RetryLabel Key Rule} (kept : OnceKept service state)
    (written : label.written = true) (settles : Settles service state label)
    (fired : service.retryStep state label = some after) : OnceKept service after := by
  have table := (step_tableKept kept.table fired).1
  by_cases inside : ∃ caller action, label = .act caller action
  · obtain ⟨caller, action, rfl⟩ := inside
    obtain ⟨moved, acted, rfl⟩ := Option.map_eq_some_iff.mp fired
    have move := DlqService.move_of_act acted
    have quiet := move_quiet kept move written settles
    have notResent := move_notResent kept move
    exact ⟨table, notResent, quiet⟩
  · have outside := outside_of_step (fun caller action same => inside ⟨caller, action, same⟩) fired
    refine ⟨table, ?_, ?_⟩
    · unfold NotResent
      rw [outside.sends]
      exact kept.notResent
    · intro id among
      rw [outside.delivered] at among
      exact quiet_outside outside (kept.table.delivered id among) (kept.quiet id among)

/-- In a run whose writes succeed and whose steps settle the rows they deliver, no reaper sends a
row for which a `Retry` has returned nil. -/
theorem notResent_of_settles (store : Store) (rules : String → List Rule)
    (keys : Option (KeyRing Key))
    (reached : Runs.Reaches service.retryStep
      (fun state label => label.written = true ∧ Settles service state label)
      (RetryState.initial store rules keys) state) : NotResent state := by
  have kept := reached.invariant (OnceKept service)
    ⟨initial_tableKept store rules keys, fun _ among => absurd among List.not_mem_nil,
      fun _ among => absurd among List.not_mem_nil⟩
    (fun _ _ _ kept allowed fired => step_onceKept kept allowed.1 allowed.2 fired)
  exact kept.notResent

end Runs

/-! ### A manual retry, and an automatic one -/

open DlqService (gateService gateStore gateEntry)

/-- The steps of a call that nothing stops, up to its closing. -/
def wholeCall (caller : Nat) (sent : Bool) : List (RetryLabel Unit Unit) :=
  [.act caller (.get true), .act caller (.getPipeline true), .act caller (.increment true),
    .act caller (.connect true true), .act caller (.send sent), .act caller (.close 0 0 true)]

/-- The table over `gateStore`, with the row `r` pushed. -/
def pushRow : RetryLabel Unit Unit :=
  .push gateEntry { now := 0, id := "r" }

/-- A table over `gateStore`. -/
def gateTable : RetryState Unit Unit Unit :=
  .initial (gateStore []) (fun _ => []) none

/-- An operator retries the row, with success; the reaper, which finds it on the schedule, sends it
once more. -/
theorem retried_row_resent :
    ∃ state, Runs.Reaches gateService.retryStep (fun _ label => label.written = true) gateTable state ∧
      ¬ NotResent state := by
  obtain ⟨state, reached, tested⟩ := Runs.exists_reaches_of_exec gateService.retryStep
    (fun _ label => label.written = true) gateTable
    ([pushRow, .act 0 (.retry "t" "r")] ++ wholeCall 0 true ++
      [.act 1 (.reap 1000000000000 50), .act 1 .next] ++ wholeCall 1 true)
    (fun state => state.sends.any fun mark => mark.reaper && mark.late) (by decide)
  refine ⟨state, reached, fun once => ?_⟩
  obtain ⟨mark, among, both⟩ := List.any_eq_true.mp tested
  obtain ⟨reaper, late⟩ := Bool.and_eq_true_iff.mp both
  rw [once mark among reaper] at late
  cases late

/-- What a caller alone has to see to: it lists when it is idle, and retries by hand what is off the
schedule. -/
def settlesAlone (db : DlqState World Key Rule) (phase : RetryPhase) : RetryAction → Bool
  | .send true => phase.ahead.all fun call => !db.scheduled call.id || call.loop != .handler
  | .reap _ _ => phase == .idle
  | _ => true

def aloneStep (state : RetryState World Key Rule) : RetryLabel Key Rule → Bool
  | .act caller action => caller == 0 && settlesAlone state.db (state.phases 0) action
  | _ => true

theorem unscheduled_of_not_scheduled {state : RetryState World Key Rule} {id : String}
    (off : state.db.scheduled id = false) : Unscheduled state id := by
  intro held stored named
  have test := List.any_eq_false.mp off held stored
  rw [decide_eq_true named, Bool.true_and] at test
  exact Option.not_isSome_iff_eq_none.mp test

theorem settles_of_alone {service : DlqService World Document Key Rule}
    {state : RetryState World Key Rule} (idle : ∀ other, other ≠ 0 → state.phases other = .idle)
    {label : RetryLabel Key Rule} (alone : aloneStep state label = true) :
    Settles service state label := by
  have quiet : ∀ other id, other ≠ 0 →
      ¬ (state.phases other).ReaperAhead id ∧ ¬ (state.phases other).Reaps id := by
    intro other id different
    rw [idle other different]
    constructor
    · rintro ⟨call, found, -⟩
      cases found
    · rintro ⟨entry, among, -⟩
      cases among
  cases label with
  | act caller action =>
    obtain ⟨first, settled⟩ := Bool.and_eq_true_iff.mp alone
    cases beq_iff_eq.mp first
    cases action with
    | send sent =>
      cases sent with
      | false => trivial
      | true =>
        intro call found
        refine ⟨fun other different => (quiet other _ different).1,
          Or.inr ⟨fun other different => (quiet other _ different).2, fun handler => ?_⟩⟩
        have test := Option.all_eq_true _ _ |>.mp settled call found
        rw [handler] at test
        obtain off | other := Bool.or_eq_true_iff.mp test
        · exact unscheduled_of_not_scheduled ((Bool.not_eq_true' _).mp off)
        · cases other
    | reap now limit =>
      have own : state.phases 0 = .idle := beq_iff_eq.mp settled
      intro entry _ other call succeeded
      have none : state.phases other = .idle := by
        by_cases same : other = 0
        · rw [same, own]
        · exact idle other same
      rw [none] at succeeded
      cases succeeded
    | _ => trivial
  | _ => trivial

theorem reaches_of_alone {service : DlqService World Document Key Rule} {store : Store}
    {rules : String → List Rule} {keys : Option (KeyRing Key)} {state : RetryState World Key Rule}
    (reached : Runs.Reaches service.retryStep
      (fun state label => (label.written && aloneStep state label) = true)
      (RetryState.initial store rules keys) state) :
    Runs.Reaches service.retryStep
      (fun state label => label.written = true ∧ Settles service state label)
      (RetryState.initial store rules keys) state := by
  refine reached.mono fun before label reachedBefore allowed => ?_
  obtain ⟨written, alone⟩ := Bool.and_eq_true_iff.mp allowed
  refine ⟨written, settles_of_alone (idle_of_onlyCaller ?_ reachedBefore) alone⟩
  intro _ other permitted
  cases other with
  | act caller action =>
    obtain ⟨first, -⟩ := Bool.and_eq_true_iff.mp (Bool.and_eq_true_iff.mp permitted).2
    exact beq_iff_eq.mp first
  | _ => trivial

/-- The reaper re-publishes the row, an operator does so once more, and no later sweep takes it
up. -/
theorem cleared_row_not_resent :
    ∃ state, Runs.Reaches gateService.retryStep
        (fun state label => label.written = true ∧ Settles gateService state label) gateTable state ∧
      state.sends.length = 2 ∧ NotResent state := by
  obtain ⟨state, reached, tested⟩ := Runs.exists_reaches_of_exec gateService.retryStep
    (fun state label => (label.written && aloneStep state label) = true) gateTable
    ([pushRow, .act 0 (.reap 1000000000000 50), .act 0 .next] ++ wholeCall 0 true ++
      [.act 0 .next, .act 0 (.retry "t" "r")] ++ wholeCall 0 true ++
      [.act 0 (.reap 1000000000000 50), .act 0 .next])
    (fun state => state.sends.length == 2) (by decide)
  have settled := reaches_of_alone reached
  exact ⟨state, settled, beq_iff_eq.mp tested, notResent_of_settles _ _ _ settled⟩

end MqConnector
